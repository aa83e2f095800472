import DurableSession.Handshake.Upgrade
import DurableSession.Proofs.Handshake.Descriptor

/-!
Which origins a policy lets in.

A value is compared with the list as text, so what is no text cannot be compared: it counts as no
origin at all, and a policy that requires none accepts it. Every other origin has to be on the list,
byte for byte. Main statement: `OriginPolicy.guards`; what slips through is shown by
`unreadable_origin_accepted`.
-/

namespace DurableSession.Handshake

open Text (isAscii utf8)

/-! ### Values as texts -/

theorem isHeaderByte_of_isTextByte {b : UInt8} (h : isTextByte b = true) :
    isHeaderByte b = true := by
  simp only [isHeaderByte, isTextByte, Bool.or_eq_true, Bool.and_eq_true, decide_eq_true_eq] at h ⊢
  rcases h with ⟨hlow, hhigh⟩ | htab
  · refine .inl ⟨hlow, ?_⟩
    rintro rfl
    exact absurd hhigh (by decide)
  · exact .inr htab

theorem toNat_ofNat_ascii {n : Nat} (h : n < 128) : (Char.ofNat n).toNat = n := by
  have hall : ∀ n : Fin 128, (Char.ofNat n.val).toNat = n.val := by decide
  exact hall ⟨n, h⟩

theorem toNat_lt_of_isTextByte {b : UInt8} (h : isTextByte b = true) : b.toNat < 128 := by
  simp only [isTextByte, Bool.or_eq_true, Bool.and_eq_true, decide_eq_true_eq,
    UInt8.lt_iff_toNat_lt] at h
  rcases h with ⟨-, hhigh⟩ | rfl
  · exact Nat.lt_succ_of_lt hhigh
  · decide

/-- The text of a value has the bytes of the value, and a value of text has no other text. -/
theorem headerText?_eq_some_iff {v : HeaderValue} {s : String} :
    headerText? v = some s ↔ v.all isTextByte = true ∧ utf8 s = v := by
  constructor
  · intro h
    unfold headerText? at h
    split at h
    · next htext =>
      obtain rfl := Option.some.inj h
      refine ⟨htext, ?_⟩
      have hsmall : ∀ b ∈ v, b.toNat < 128 :=
        fun b hb => toNat_lt_of_isTextByte (List.all_eq_true.1 htext b hb)
      have hchar : ∀ b ∈ v, (Char.ofNat b.toNat).toNat = b.toNat :=
        fun b hb => toNat_ofNat_ascii (hsmall b hb)
      have hascii : isAscii (String.ofList (v.map fun b => Char.ofNat b.toNat)) = true := by
        simp only [isAscii, String.toList_ofList, List.all_map, List.all_eq_true, Function.comp,
          decide_eq_true_eq]
        intro b hb
        rw [hchar b hb]
        exact hsmall b hb
      rw [utf8_ascii hascii, String.toList_ofList, List.map_map]
      refine (List.map_congr_left fun b hb => ?_).trans (List.map_id _)
      simp only [Function.comp, hchar b hb, UInt8.ofNat_toNat, id]
    · cases h
  · rintro ⟨htext, rfl⟩
    cases hascii : isAscii s with
    | true =>
      refine headerText?_of_isAscii hascii (List.all_eq_true.2 fun b hb => ?_)
      exact isHeaderByte_of_isTextByte (List.all_eq_true.1 htext b hb)
    | false =>
      have hnone := headerText?_of_not_isAscii hascii
      rw [headerText?, if_pos htext] at hnone
      cases hnone

theorem headerText?_eq_none_iff {v : HeaderValue} :
    headerText? v = none ↔ v.all isTextByte = false := by
  unfold headerText?
  cases v.all isTextByte <;> simp

/-! ### Policies -/

/-- The response is a refusal, and nothing but its reason can be read from it. -/
structure Response.Bare (r : Response) : Prop where
  forbidden : r.status = 403
  refused : r.accepted = false
  blank : ∀ name, r.headers.first? name = none

theorem Response.bare_refusal (reason : String) :
    (Response.refusal 403 reason).Bare := ⟨rfl, rfl, fun _ => rfl⟩

namespace OriginPolicy

variable {p : OriginPolicy} {h : Headers} {v : HeaderValue}

/-- Only origins of the list may connect. -/
structure Lists (p : OriginPolicy) : Prop where
  nonempty : p.allowed ≠ []
  unstarred : "*" ∉ p.allowed

theorem Lists.admits_iff (hp : p.Lists) (origin : String) :
    p.admits origin = true ↔ origin ∈ p.allowed := by
  have hempty : p.allowed.isEmpty = false := by simpa using hp.nonempty
  simp only [admits, hempty, Bool.false_or, List.any_eq_true, Bool.or_eq_true, decide_eq_true_eq]
  constructor
  · rintro ⟨a, ha, rfl | rfl⟩
    · exact absurd ha hp.unstarred
    · exact ha
  · exact fun ha => ⟨origin, ha, .inr rfl⟩

theorem originOf_eq (hv : h.first? "origin" = some v) : originOf h = headerText? v := by
  rw [originOf, hv]
  rfl

theorem judge_of_text {s : String} (hs : originOf h = some s) :
    p.judge h = if p.admits s then .accept (some s)
      else .reject 403 ("Origin '" ++ s ++ "' not allowed") := by
  unfold judge
  rw [hs]

theorem judge_of_none (hs : originOf h = none) :
    p.judge h = if p.required then .reject 403 "Origin header required" else .accept none := by
  unfold judge
  rw [hs]

/-- Whatever is not accepted is refused, and the server says nothing of itself. -/
theorem bare_of_not_accept (hr : ∀ o, p.judge h ≠ .accept o) (d : Descriptor) (base : Response) :
    (Response.answer (p.judge h) d base).Bare := by
  have hreject : ∃ reason, p.judge h = .reject 403 reason := by
    cases hs : originOf h with
    | none =>
      have hjudge := judge_of_none (p := p) hs
      split at hjudge
      · exact ⟨_, hjudge⟩
      · exact absurd hjudge (hr _)
    | some s =>
      have hjudge := judge_of_text (p := p) hs
      split at hjudge
      · exact absurd hjudge (hr _)
      · exact ⟨_, hjudge⟩
  obtain ⟨reason, hreason⟩ := hreject
  rw [hreason]
  exact Response.bare_refusal reason

/-- **The list of origins**, for a request whose first origin is the value `v`. -/
structure Guards (p : OriginPolicy) (h : Headers) (v : HeaderValue) : Prop where
  /-- Let in are the origins of the list, byte for byte, and what is no text, unless an origin is
  required. -/
  accepted (o : Option String) : p.judge h = .accept o ↔
    (∃ a ∈ p.allowed, o = some a ∧ v = utf8 a ∧ v.all isTextByte = true) ∨
      (o = none ∧ v.all isTextByte = false ∧ p.required = false)
  /-- All others are refused, and learn nothing of the server. -/
  refused (d : Descriptor) (base : Response) :
    (∀ o, p.judge h ≠ .accept o) → (Response.answer (p.judge h) d base).Bare

theorem guards (hp : p.Lists) (hv : h.first? "origin" = some v) : p.Guards h v where
  accepted o := by
    cases hs : headerText? v with
    | some s =>
      obtain ⟨htext, rfl⟩ := headerText?_eq_some_iff.1 hs
      rw [judge_of_text ((originOf_eq hv).trans hs)]
      constructor
      · intro h
        split at h
        · next hadmits =>
            exact .inl ⟨s, (hp.admits_iff s).1 hadmits, (Verdict.accept.inj h).symm, rfl, htext⟩
        · cases h
      · rintro (⟨a, ha, rfl, hbytes, -⟩ | ⟨-, hno, -⟩)
        · obtain rfl : s = a := by
            have hlisted : headerText? (utf8 s) = some a :=
              headerText?_eq_some_iff.2 ⟨htext, hbytes.symm⟩
            exact Option.some.inj (hs.symm.trans hlisted)
          rw [if_pos ((hp.admits_iff s).2 ha)]
        · exact absurd (htext.symm.trans hno) (by decide)
    | none =>
      have hno := headerText?_eq_none_iff.1 hs
      rw [judge_of_none ((originOf_eq hv).trans hs)]
      cases hrequired : p.required <;> simp [hno, eq_comm]
  refused d base hr := bare_of_not_accept hr d base

/-- Of two origins the first counts, whatever its name's case. -/
theorem guards_first :
    let p : OriginPolicy := ⟨["https://app.example", "null"], false⟩
    let h := (Headers.empty.append "Origin" (utf8 "https://app.example")).append "ORIGIN"
      (utf8 "https://evil.example")
    p.Lists ∧ h.first? "origin" = some (utf8 "https://app.example") ∧
      p.Guards h (utf8 "https://app.example") ∧
      p.judge h = .accept (some "https://app.example") := by
  intro p h
  have hp : p.Lists := ⟨by decide, by decide⟩
  have hv : h.first? "origin" = some (utf8 "https://app.example") := by decide +kernel
  have hguards := guards hp hv
  exact ⟨hp, hv, hguards, (hguards.accepted _).2
    (.inl ⟨_, List.mem_cons_self .., rfl, rfl, by decide +kernel⟩)⟩

/-- An origin with an accent is on no list of plain ones, and is let in. -/
theorem unreadable_origin_accepted :
    let p : OriginPolicy := ⟨["https://app.example"], false⟩
    let h := Headers.empty.append "Origin" (utf8 "https://évil.example")
    p.Lists ∧ h.first? "origin" = some (utf8 "https://évil.example") ∧
      utf8 "https://évil.example" ∉ p.allowed.map utf8 ∧ p.judge h = .accept none := by
  intro p h
  exact ⟨⟨by decide, by decide⟩, by decide +kernel, by decide +kernel, by decide +kernel⟩

end OriginPolicy

end DurableSession.Handshake
