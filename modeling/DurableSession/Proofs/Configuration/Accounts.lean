import Mathlib.Data.List.Induction
import Mathlib.Data.List.Nodup
import DurableSession.Configuration.Validation
import DurableSession.Proofs.Table

/-!
Valid settings, and the accounts that a server makes of them.

Settings are checked in one pass, which looks no further at an account without login and knows of
the accounts before it only their logins. It finds none of the documented problems exactly when
there is none, and that is enough for each account to be in the table as it was written down, with a
hash that can be checked and a code that can be given. Main statements: `isValid_iff`,
`find?_tableOf` and `usable_of_isValid`.
-/

namespace DurableSession.Configuration

open Server (Accounts)

/-! ### Problems -/

/-- What is wrong with an account, if accounts with the logins `earlier` stand before it. -/
inductive AccountSettings.Shows (earlier : List String) (a : AccountSettings) : Problem → Prop where
  | emptyLogin (empty : a.login = "") : Shows earlier a .emptyLogin
  | duplicateAccount (taken : a.login ∈ earlier) : Shows earlier a (.duplicateAccount a.login)
  | invalidPasswordHash (malformed : Password.Phc.isPhc a.passwordHash = false) :
      Shows earlier a (.invalidPasswordHash a.login)
  | emptySecondaryCode (empty : a.secondaryCode = some "") :
      Shows earlier a (.emptySecondaryCode a.login)

/-- **The documented problems** of settings. -/
inductive Settings.Has (s : Settings) : Problem → Prop where
  | missingServerName (empty : s.server.name = "") : Has s .missingServerName
  | invalidVersion (wrong : s.server.version = "" ∨
      ∃ c ∈ s.server.version.toList, ¬ (32 ≤ c.toNat ∧ c.toNat ≤ 126)) :
      Has s (.invalidVersion s.server.version)
  | noAccounts (required : s.server.authenticationRequired = true) (empty : s.accounts = []) :
      Has s .noAccounts
  | account {before after : List AccountSettings} {a : AccountSettings} {p : Problem}
      (place : s.accounts = before ++ a :: after)
      (shows : a.Shows (before.map AccountSettings.login) p) : Has s p
  | zeroConnectionBurst (zero : s.listen.connectionBurst = 0) : Has s .zeroConnectionBurst
  | zeroSweepInterval (zero : s.sweeper.interval = 0) : Has s .zeroSweepInterval

theorem AccountSettings.Shows.mono {earlier earlier' : List String} {a : AccountSettings}
    {p : Problem} (h : a.Shows earlier p) (hsub : earlier ⊆ earlier') : a.Shows earlier' p := by
  cases h with
  | emptyLogin empty => exact .emptyLogin empty
  | duplicateAccount taken => exact .duplicateAccount (hsub taken)
  | invalidPasswordHash malformed => exact .invalidPasswordHash malformed
  | emptySecondaryCode empty => exact .emptySecondaryCode empty

section Accounts

variable {seen : List String} {l : List AccountSettings} {p : Problem}

theorem shows_of_mem_accountProblems (h : p ∈ accountProblems seen l) :
    ∃ before a after, l = before ++ a :: after ∧
      a.Shows (seen ++ before.map AccountSettings.login) p := by
  induction l generalizing seen with
  | nil => simp [accountProblems] at h
  | cons b rest ih =>
    unfold accountProblems at h
    split at h
    · next hempty =>
      rcases List.mem_cons.1 h with rfl | h
      · exact ⟨[], b, rest, rfl, .emptyLogin hempty⟩
      · obtain ⟨before, a, after, rfl, hshows⟩ := ih h
        exact ⟨b :: before, a, after, rfl, hshows.mono (by simp)⟩
    · simp only [List.mem_append, mem_found, decide_eq_true_eq, Bool.not_eq_true'] at h
      rcases h with ((⟨htaken, rfl⟩ | ⟨hhash, rfl⟩) | ⟨hcode, rfl⟩) | h
      · exact ⟨[], b, rest, rfl, .duplicateAccount (by simpa using htaken)⟩
      · exact ⟨[], b, rest, rfl, .invalidPasswordHash hhash⟩
      · exact ⟨[], b, rest, rfl, .emptySecondaryCode hcode⟩
      · obtain ⟨before, a, after, rfl, hshows⟩ := ih h
        exact ⟨b :: before, a, after, rfl, hshows.mono (by simp)⟩

theorem not_shows_of_accountProblems (h : accountProblems seen l = [])
    {before after : List AccountSettings} {a : AccountSettings} (hl : l = before ++ a :: after) :
    ¬ a.Shows (seen ++ before.map AccountSettings.login) p := by
  induction l generalizing seen before with
  | nil => simp at hl
  | cons b rest ih =>
    unfold accountProblems at h
    split at h
    · simp at h
    · next hlogin =>
      simp only [List.append_eq_nil_iff, found_eq_nil, decide_eq_false_iff_not,
        Bool.not_eq_false'] at h
      obtain ⟨⟨⟨htaken, hhash⟩, hcode⟩, hrest⟩ := h
      cases before with
      | nil =>
        obtain ⟨rfl, rfl⟩ := List.cons.inj hl
        rintro (empty | taken | malformed | empty)
        · exact hlogin empty
        · exact htaken (by simpa using taken)
        · simp [hhash] at malformed
        · exact hcode empty
      | cons b' before =>
        obtain ⟨rfl, htail⟩ := List.cons.inj hl
        intro hshows
        exact ih hrest htail (hshows.mono (by simp))

end Accounts

theorem isVersion_eq_false_iff {v : String} :
    isVersion v = false ↔ v = "" ∨ ∃ c ∈ v.toList, ¬ (32 ≤ c.toNat ∧ c.toNat ≤ 126) := by
  rw [← Bool.not_eq_true, isVersion, Bool.and_eq_true, List.all_eq_true]
  simp only [decide_eq_true_eq, Bool.and_eq_true, not_and_or, not_forall, not_not, exists_prop]

/-- **Settings are valid exactly when they have none of the documented problems.** -/
theorem Settings.isValid_iff {s : Settings} : s.isValid = true ↔ ∀ p, ¬ s.Has p := by
  rw [isValid, List.isEmpty_iff]
  constructor
  · intro h p hp
    simp only [problems, List.append_eq_nil_iff, found_eq_nil, decide_eq_false_iff_not,
      Bool.not_eq_false'] at h
    obtain ⟨⟨⟨⟨⟨hname, hversion⟩, hnone⟩, haccounts⟩, hburst⟩, hinterval⟩ := h
    cases hp with
    | missingServerName empty => exact hname empty
    | invalidVersion wrong =>
      rw [isVersion_eq_false_iff.2 wrong] at hversion
      simp at hversion
    | noAccounts required empty => simp [required, empty] at hnone
    | account place shows =>
      exact not_shows_of_accountProblems haccounts place (shows.mono (by simp))
    | zeroConnectionBurst zero => exact hburst zero
    | zeroSweepInterval zero => exact hinterval zero
  · intro h
    refine List.eq_nil_iff_forall_not_mem.2 fun p hp => h p ?_
    simp only [problems, List.mem_append, mem_found] at hp
    rcases hp with
      ((((⟨hname, rfl⟩ | ⟨hversion, rfl⟩) | ⟨hnone, rfl⟩) | haccounts) | ⟨hburst, rfl⟩) |
        ⟨hinterval, rfl⟩
    · exact .missingServerName (by simpa using hname)
    · exact .invalidVersion (isVersion_eq_false_iff.1 (by simpa using hversion))
    · rw [Bool.and_eq_true, List.isEmpty_iff] at hnone
      exact .noAccounts hnone.1 hnone.2
    · obtain ⟨before, a, after, hl, hshows⟩ := shows_of_mem_accountProblems haccounts
      exact .account hl hshows
    · exact .zeroConnectionBurst (by simpa using hburst)
    · exact .zeroSweepInterval (by simpa using hinterval)

/-! ### Accounts -/

def AccountSettings.account (a : AccountSettings) :
    Server.Account := ⟨a.passwordHash, a.secondaryCode⟩

def tableOf (l : List AccountSettings) : Accounts :=
  l.foldl (fun t a => t.register a.login a.passwordHash a.secondaryCode) .empty

section Table

variable {l : List AccountSettings} {a : AccountSettings} {login : String}

theorem nodup_logins_snoc : ((l ++ [a]).map AccountSettings.login).Nodup ↔
    a.login ∉ l.map AccountSettings.login ∧ (l.map AccountSettings.login).Nodup := by
  rw [List.map_append, List.map_singleton, ← List.concat_eq_append, List.nodup_concat]

theorem tableOf_snoc :
    (tableOf (l ++ [a])) = (tableOf l).insert a.login a.account := List.foldl_append

theorem find?_tableOf_of_notMem (h : login ∉ l.map AccountSettings.login) :
    (tableOf l).find? login = none := by
  induction l using List.reverseRecOn with
  | nil => rfl
  | append_singleton l b ih =>
    simp only [List.map_append, List.mem_append, List.map_cons, List.map_nil, List.mem_singleton,
      not_or] at h
    rw [tableOf_snoc, Table.find?_insert, if_neg (Ne.symm h.2), ih h.1]

/-- **Every block has its account** in the table, if no two blocks have the same login. -/
theorem find?_tableOf (h : (l.map AccountSettings.login).Nodup) (ha : a ∈ l) :
    (tableOf l).find? a.login = some a.account := by
  induction l using List.reverseRecOn with
  | nil => simp at ha
  | append_singleton l b ih =>
    obtain ⟨hnew, hl⟩ := nodup_logins_snoc.1 h
    rw [tableOf_snoc, Table.find?_insert]
    rcases List.mem_append.1 ha with ha | ha
    · have hne : b.login ≠ a.login := fun he => hnew (he ▸ List.mem_map_of_mem ha)
      rw [if_neg hne, ih hl ha]
    · obtain rfl := List.mem_singleton.1 ha
      exact if_pos rfl

theorem size_tableOf (h : (l.map AccountSettings.login).Nodup) : (tableOf l).size = l.length := by
  induction l using List.reverseRecOn with
  | nil => rfl
  | append_singleton l b ih =>
    obtain ⟨hnew, hl⟩ := nodup_logins_snoc.1 h
    rw [tableOf_snoc, Table.size_insert_of_find?_eq_none (find?_tableOf_of_notMem hnew), ih hl,
      List.length_append, List.length_singleton]

end Table

end DurableSession.Configuration

/-! ### Authenticating -/

namespace DurableSession.Server

open Lifecycle (Token Secret)

namespace Accounts

variable {t : Accounts} {login : String} {account : Account}

theorem authenticate_eq (h : t.find? login = some account) (secret : Secret) :
    t.authenticate login secret =
      if Password.check account.hash secret.exposed = .matching then
        if account.code.isSome then .needsSecondary else .accepted
      else .denied .invalidCredential := by
  unfold authenticate
  rw [h]
  dsimp only
  split
  · next hc => rw [if_pos hc]
  · next hc => rw [if_neg (by simp [hc])]
  · next hc => rw [if_neg (by simp [hc])]

/-- A password that matches is enough where there is no code, and a code is asked for where there is
one. -/
theorem authenticate_eq_accepted_iff (h : t.find? login = some account) {secret : Secret} :
    t.authenticate login secret = .accepted ↔
      account.code = none ∧ Password.check account.hash secret.exposed = .matching := by
  rw [authenticate_eq h]
  split
  · next hc => cases account.code <;> simp [hc]
  · next hc => simp [hc]

theorem authenticate_eq_needsSecondary_iff (h : t.find? login = some account) {secret : Secret} :
    t.authenticate login secret = .needsSecondary ↔
      account.code ≠ none ∧ Password.check account.hash secret.exposed = .matching := by
  rw [authenticate_eq h]
  split
  · next hc => cases account.code <;> simp [hc]
  · next hc => simp [hc]

theorem authenticate_of_none (h : t.find? login = none) (secret : Secret) :
    t.authenticate login secret = .denied .unknownLogin := by
  unfold authenticate
  rw [h]

theorem verify_eq_true_iff (h : t.find? login = some account) {code : Secret} :
    t.verify login code = true ↔ account.code = some code.exposed := by
  unfold verify
  rw [h]
  obtain ⟨hash, _ | expected⟩ := account <;> simp

end Accounts

theorem Registry.isEmpty_of_missing {r : Registry} {c : ChannelId} {t : Token} {code : Secret}
    (h : (r.openSecondary c t code).1 = .error .missingSecondaryCode) : code.isEmpty = true := by
  unfold openSecondary at h
  split at h
  · simp at h
  · dsimp only at h
    split at h
    · simp at h
    · split at h
      · simp at h
      · split at h
        · assumption
        · simp at h

end DurableSession.Server

/-! ### Valid settings -/

namespace DurableSession.Configuration

open Lifecycle (Secret)
open Server (Accounts Registry)

/-- **Accounts that can be used in full.** The table has one account for each block, as the block
gives it. No stored hash is malformed; a code is asked for exactly where the block has one and the
password matches; and the code that is asked for can be given, being never empty. -/
structure Settings.Usable (s : Settings) : Prop where
  size : s.accountTable.size = s.accounts.length
  held : ∀ a ∈ s.accounts, s.accountTable.find? a.login = some a.account
  others : ∀ login, (∀ a ∈ s.accounts, a.login ≠ login) →
    s.accountTable.find? login = none ∧ ∀ secret, s.accountTable.authenticate login secret =
      .denied .unknownLogin
  checked : ∀ login account, s.accountTable.find? login = some account →
    ∀ secret, Password.check account.hash secret ≠ .malformed
  asked : ∀ a ∈ s.accounts, ∀ secret, s.accountTable.authenticate a.login secret = .needsSecondary ↔
    a.secondaryCode ≠ none ∧ Password.check a.passwordHash secret.exposed = .matching
  accepted : ∀ a ∈ s.accounts, ∀ secret, s.accountTable.authenticate a.login secret = .accepted ↔
    a.secondaryCode = none ∧ Password.check a.passwordHash secret.exposed = .matching
  verified : ∀ a ∈ s.accounts, ∀ code, s.accountTable.verify a.login code = true ↔
    a.secondaryCode = some code.exposed
  given : ∀ a ∈ s.accounts, ∀ code, s.accountTable.verify a.login code = true →
    ∀ (r : Registry) c t, (r.openSecondary c t code).1 ≠ .error .missingSecondaryCode

theorem Settings.nodup_logins {s : Settings} (h : ∀ p, ¬ s.Has p) :
    (s.accounts.map AccountSettings.login).Nodup := by
  have hfresh : ∀ before a after, s.accounts = before ++ a :: after →
      a.login ∉ before.map AccountSettings.login :=
    fun before a after hl htaken => h _ (.account hl (.duplicateAccount htaken))
  generalize s.accounts = l at hfresh
  induction l using List.reverseRecOn with
  | nil => simp
  | append_singleton l b ih =>
    rw [nodup_logins_snoc]
    refine ⟨hfresh l b [] rfl, ih fun before a after hl => hfresh before a (after ++ [b]) ?_⟩
    rw [hl, List.append_assoc, List.cons_append]

/-- **A block of a list without problems**: its hash is one, and its code is not empty. -/
theorem Settings.sound_of_mem {s : Settings} (h : ∀ p, ¬ s.Has p) {a : AccountSettings}
    (ha : a ∈ s.accounts) :
    Password.Phc.isPhc a.passwordHash = true ∧ a.secondaryCode ≠ some "" := by
  obtain ⟨before, after, hl⟩ := List.append_of_mem ha
  constructor
  · cases hhash : Password.Phc.isPhc a.passwordHash with
    | true => rfl
    | false => exact absurd (.account hl (.invalidPasswordHash hhash)) (h _)
  · exact fun hempty => h _ (.account hl (.emptySecondaryCode hempty))

theorem check_ne_malformed {phc password : String} (h : Password.Phc.isPhc phc = true) :
    Password.check phc password ≠ .malformed := by
  unfold Password.check
  unfold Password.Phc.isPhc at h
  split
  · next hp => simp [hp] at h
  · split <;> simp

/-- Without problems every account can be used in full. -/
theorem Settings.usable {s : Settings} (h : ∀ p, ¬ s.Has p) : s.Usable := by
  have hheld (a : AccountSettings) (ha : a ∈ s.accounts) : s.accountTable.find? a.login =
      some a.account := find?_tableOf (nodup_logins h) ha
  have hothers (login : String) (hl : ∀ a ∈ s.accounts, a.login ≠ login) :
      s.accountTable.find? login = none := by
    refine find?_tableOf_of_notMem fun hmem => ?_
    obtain ⟨a, ha, he⟩ := List.mem_map.1 hmem
    exact hl a ha he
  have hcode (a : AccountSettings) (ha : a ∈ s.accounts) (code : Secret) :
      s.accountTable.verify a.login code = true ↔ a.secondaryCode = some code.exposed :=
    Accounts.verify_eq_true_iff (hheld a ha)
  refine
    { size := size_tableOf (nodup_logins h)
      held := hheld
      others := fun login hl => ⟨hothers login hl, Accounts.authenticate_of_none (hothers login hl)⟩
      checked := fun login account hfind secret => ?_
      asked := fun a ha secret => Accounts.authenticate_eq_needsSecondary_iff (hheld a ha)
      accepted := fun a ha secret => Accounts.authenticate_eq_accepted_iff (hheld a ha)
      verified := hcode
      given := fun a ha code hverified r c t hmissing => ?_ }
  · by_cases hl : ∃ a ∈ s.accounts, a.login = login
    · obtain ⟨a, ha, rfl⟩ := hl
      obtain rfl := Option.some.inj ((hheld a ha).symm.trans hfind)
      exact check_ne_malformed (sound_of_mem h ha).1
    · rw [hothers login fun a ha he => hl ⟨a, ha, he⟩] at hfind
      simp at hfind
  · have hempty : code.exposed = "" := by
      simpa [Secret.isEmpty] using Registry.isEmpty_of_missing hmissing
    rw [hcode a ha, hempty] at hverified
    exact (sound_of_mem h ha).2 hverified

/-- **Valid settings**: they are those without any of the documented problems, and all their
accounts can be used in full. -/
theorem usable_of_isValid (s : Settings) :
    (s.isValid = true ↔ ∀ p, ¬ s.Has p) ∧ (s.isValid = true → s.Usable) :=
  ⟨Settings.isValid_iff, fun h => Settings.usable (Settings.isValid_iff.1 h)⟩

/-- A server that Carol signs on to with a code, and Dave without. -/
theorem usable_by_carol_and_dave :
    let s : Settings :=
      { server := { name := "tether.test" }
        listen := { address := ⟨.v4 127 0 0 1, 0, 8080⟩ }
        accounts := [
          { login := "carol", passwordHash := "$argon2id$v=19$m=64,t=1,p=1$c2FsdHNhbHQ",
            secondaryCode := some "123456" },
          { login := "dave", passwordHash := "$argon2i$m=64" }] }
    s.isValid = true ∧ s.Usable ∧ s.accountTable.verify "carol" ⟨"123456"⟩ = true := by
  intro s
  have h : s.isValid = true := by decide +kernel
  exact ⟨h, (usable_of_isValid s).2 h, by decide +kernel⟩

/-- Of two accounts without login, neither is looked at any further. -/
example :
    accountProblems [] [{ login := "", passwordHash := "" },
        { login := "", passwordHash := "", secondaryCode := some "" }] =
          [.emptyLogin, .emptyLogin] := by
  decide

end DurableSession.Configuration
