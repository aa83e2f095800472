import DurableSession.Configuration.Validation
import DurableSession.Proofs.Handshake.Descriptor

/-!
What valid settings tell a client that is let in.

A version is judged three times: when the settings are checked, when it is written into a header,
and when the header is read. The first is the strictest, so that a server whose settings are valid
never fails to describe itself. Main statement: `announced_of_valid`.
-/

namespace DurableSession

/-! ### Versions -/

namespace Configuration

open Handshake (isHeaderByte)
open Text (utf8)

theorem isAscii_of_isVersion {v : String} (h : isVersion v = true) : Text.isAscii v = true := by
  simp only [isVersion, Bool.and_eq_true, List.all_eq_true, decide_eq_true_eq] at h
  rw [Text.isAscii, List.all_eq_true]
  intro c hc
  have hlast : c.toNat ≤ 126 := (h.2 c hc).2
  simp
  omega

theorem all_isHeaderByte_of_isVersion {v : String} (h : isVersion v = true) :
    (utf8 v).all isHeaderByte = true := by
  rw [Handshake.utf8_ascii (isAscii_of_isVersion h), List.all_map, List.all_eq_true]
  simp only [isVersion, Bool.and_eq_true, List.all_eq_true, decide_eq_true_eq] at h
  intro c hc
  obtain ⟨hfirst, hlast⟩ := h.2 c hc
  have hmod : c.toNat % 256 = c.toNat := by omega
  simp only [Function.comp, isHeaderByte, Bool.or_eq_true, Bool.and_eq_true, decide_eq_true_eq,
    UInt8.le_iff_toNat_le, ne_eq, ← UInt8.toNat_inj]
  left
  simp [hmod]
  omega

theorem Settings.isVersion_of_isValid {s : Settings} (h : s.isValid = true) :
    isVersion s.server.version = true := by
  simp only [isValid, problems, List.isEmpty_iff, List.append_eq_nil_iff] at h
  have hversion := found_eq_nil.1 h.1.1.1.1.2
  simpa using hversion

end Configuration

/-! ### Responses -/

namespace Handshake

open Text (utf8)
open Timing (Key)

namespace Descriptor

/-- The names of the fields that a descriptor is written into. -/
def names : List String := versionHeader :: authenticationHeader :: Key.all.map Key.header

theorem exists_writeHeaders {d : Descriptor} (h : (utf8 d.version).all isHeaderByte = true)
    (base : Headers) :
    ∃ h', d.writeHeaders base = .ok h' := by
  unfold writeHeaders
  rw [if_pos h]
  exact ⟨_, rfl⟩

theorem first?_writeHeaders_of_ne {d : Descriptor} {base h' : Headers}
    (hw : d.writeHeaders base = .ok h') {name : String}
    (hne : ∀ n ∈ names, fieldName name ≠ fieldName n) : h'.first? name = base.first? name := by
  unfold writeHeaders at hw
  dsimp only at hw
  split at hw
  · obtain rfl := Except.ok.inj hw
    have hkeys : ∀ k ∈ Key.all, fieldName name ≠ fieldName k.header := by
      intro k hk
      apply hne
      exact List.mem_cons_of_mem _ (List.mem_cons_of_mem _ (List.mem_map_of_mem hk))
    rw [first?_foldl_insert_of_ne _ hkeys, Headers.first?_insert_of_ne _ _
      (hne _ (by simp [names])), Headers.first?_insert_of_ne _ _ (hne _ (by simp [names]))]
  · simp at hw

end Descriptor

/-- **The client is let in and told who the server is**: the response switches protocols, the
descriptor can be read from it, and nothing else that was to be answered is lost. -/
structure Response.Announces (r : Response) (base : Headers) (d : Descriptor) : Prop where
  switching : r.status = 101
  accepted : r.accepted = true
  read : Descriptor.fromHeaders r.headers = .ok d
  others : ∀ name, (∀ n ∈ Descriptor.names, fieldName name ≠ fieldName n) →
    r.headers.first? name = base.first? name

theorem Response.announces_of_version {v : Verdict} {origin : Option String}
    (hv : v = .accept origin) {d : Descriptor} (hbytes : (utf8 d.version).all isHeaderByte = true)
    (hascii : Text.isAscii d.version = true) (base : Headers) :
    (Response.answer v d (.upgrade base)).Announces base d := by
  obtain ⟨h', hw⟩ := Descriptor.exists_writeHeaders hbytes base
  have hwritten : d.writeHeaders (Response.upgrade base).headers = .ok h' := hw
  have hanswer : Response.answer v d (.upgrade base) = .upgrade h' := by
    rw [hv, Response.answer, hwritten]
    rfl
  rw [hanswer]
  refine ⟨rfl, rfl, ?_, ?_⟩
  · exact (Descriptor.fromHeaders_of_written (Descriptor.written_of_writeHeaders hw)).trans
      (if_pos hascii)
  · intro name hne
    exact Descriptor.first?_writeHeaders_of_ne hw hne

end Handshake

namespace Configuration.Settings

open Handshake (Headers Response)

/-- **Valid settings** never leave a client without the descriptor: whatever request their policy on
origins accepts, and whatever else the response holds, the client reads from it exactly what the
settings say. -/
theorem announced_of_valid {s : Settings} (h : s.isValid = true) {request : Headers}
    {origin : Option String} (ha : s.listen.originPolicy.judge request = .accept origin)
    (base : Headers) :
    (Response.answer (s.listen.originPolicy.judge request) s.descriptor
      (.upgrade base)).Announces base s.descriptor := by
  have hversion := isVersion_of_isValid h
  exact Response.announces_of_version ha (all_isHeaderByte_of_isVersion hversion)
    (isAscii_of_isVersion hversion) base

/-- A server that requires a signon and an origin, with a version of two words, answers over the
headers of another server. -/
theorem announced_over_another :
    let s : Settings :=
      { server := { name := "tether.test", version := "2.1 (beta)" }
        listen :=
          { address := ⟨.v4 127 0 0 1, 0, 8080⟩
            allowOrigins := ["https://app.example"]
            requireOrigin := true }
        boundary := .quiet
        accounts :=
          [{ login := "carol", passwordHash := "$argon2id$v=19$m=64,t=1,p=1$c2FsdHNhbHQ" }] }
    let request : Headers := ⟨[("origin", Text.utf8 "https://app.example")]⟩
    let base : Headers :=
      ⟨[("upgrade", Text.utf8 "websocket"), (Handshake.Descriptor.versionHeader, [0xFF])]⟩
    s.isValid = true ∧ s.listen.originPolicy.judge request = .accept (some "https://app.example") ∧
      (Response.answer (s.listen.originPolicy.judge request) s.descriptor (.upgrade base)).Announces
        base s.descriptor := by
  intro s request base
  have hvalid : s.isValid = true := by decide +kernel
  have haccept : s.listen.originPolicy.judge request = .accept (some "https://app.example") := by
    decide +kernel
  exact ⟨hvalid, haccept, announced_of_valid hvalid haccept base⟩

end Configuration.Settings

end DurableSession
