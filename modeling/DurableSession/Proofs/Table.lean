import DurableSession.Table

/-!
Which keys, values and entries a table has, said through its look-ups.
-/

namespace DurableSession.Table

variable {α β : Type} [DecidableEq α] {t : Table α β} {k : α} {v : β}

theorem mem_of_lookup {l : List (α × β)} (h : lookup k l = some v) : (k, v) ∈ l := by
  induction l with
  | nil => simp [lookup] at h
  | cons e l ih =>
    obtain ⟨a, b⟩ := e
    unfold lookup at h
    split at h
    · next hak =>
      obtain rfl : b = v := by simpa using h
      simp [hak]
    · exact List.mem_cons_of_mem _ (ih h)

theorem lookup_of_mem {l : List (α × β)} (hl : (l.map Prod.fst).Nodup) (h : (k, v) ∈ l) :
    lookup k l = some v := by
  induction l with
  | nil => simp at h
  | cons e l ih =>
    obtain ⟨a, b⟩ := e
    simp only [List.map_cons, List.nodup_cons] at hl
    rcases List.mem_cons.1 h with he | h
    · obtain ⟨rfl, rfl⟩ := Prod.mk.inj he
      simp [lookup]
    · have hne : a ≠ k := by
        rintro rfl
        exact hl.1 (List.mem_map_of_mem h)
      simp only [lookup, hne, if_false]
      exact ih hl.2 h

theorem mem_entries : (k, v) ∈ t.entries ↔ t.find? k = some v :=
  ⟨lookup_of_mem t.nodup, mem_of_lookup⟩

theorem mem_keys : k ∈ t.keys ↔ ∃ v, t.find? k = some v := by
  unfold keys
  rw [List.mem_map]
  constructor
  · rintro ⟨⟨a, b⟩, he, rfl⟩
    exact ⟨b, mem_entries.1 he⟩
  · rintro ⟨v, h⟩
    exact ⟨(k, v), mem_entries.2 h, rfl⟩

theorem mem_values : v ∈ t.values ↔ ∃ k, t.find? k = some v := by
  unfold values
  rw [List.mem_map]
  constructor
  · rintro ⟨⟨a, b⟩, he, rfl⟩
    exact ⟨a, mem_entries.1 he⟩
  · rintro ⟨k, h⟩
    exact ⟨(k, v), mem_entries.2 h, rfl⟩

omit [DecidableEq α] in
theorem nodup_keys : t.keys.Nodup := t.nodup

theorem size_eq_zero (h : ∀ k, t.find? k = none) : t.size = 0 := by
  unfold size
  refine List.length_eq_zero_iff.2 (List.eq_nil_iff_forall_not_mem.2 fun ⟨k, v⟩ he => ?_)
  rw [mem_entries, h] at he
  simp at he

theorem length_put_of_lookup_eq_none {l : List (α × β)} (h : lookup k l = none) :
    (put k v l).length = l.length + 1 := by
  induction l with
  | nil => rfl
  | cons e l ih =>
    obtain ⟨a, b⟩ := e
    unfold lookup at h
    split at h
    · simp at h
    · next hak =>
      rw [put, if_neg hak, List.length_cons, ih h, List.length_cons]

/-- A new key makes a table larger by one. -/
theorem size_insert_of_find?_eq_none (h : t.find? k = none) : (t.insert k v).size = t.size + 1 :=
  length_put_of_lookup_eq_none h

/-- Changing the values of some keys, each once, changes each of these values once. -/
theorem find?_foldl_modify {f : β → β} {l : List α} (hl : l.Nodup) {x : α} :
    (l.foldl (fun t k => t.modify k f) t).find? x =
      if x ∈ l then (t.find? x).map f else t.find? x := by
  induction l generalizing t with
  | nil => simp
  | cons a l ih =>
    obtain ⟨ha, hl⟩ := List.nodup_cons.1 hl
    rw [List.foldl_cons, ih hl, find?_modify]
    by_cases hx : a = x
    · subst hx
      simp [ha]
    · simp [hx, Ne.symm hx]

theorem find?_foldl_modify_keys {f : β → β} {x : α} :
    (t.keys.foldl (fun t k => t.modify k f) t).find? x = (t.find? x).map f := by
  rw [find?_foldl_modify nodup_keys]
  split
  · rfl
  · next h =>
    cases hx : t.find? x with
    | none => rfl
    | some v => exact absurd (mem_keys.2 ⟨v, hx⟩) h

/-! ### Changes that change nothing -/

theorem put_of_lookup {l : List (α × β)} (h : lookup k l = some v) : put k v l = l := by
  induction l with
  | nil => simp [lookup] at h
  | cons e l ih =>
    obtain ⟨a, b⟩ := e
    unfold lookup at h
    unfold put
    split at h
    · next hak => rw [if_pos hak, Option.some.inj h]
    · next hak => rw [if_neg hak, ih h]

theorem insert_of_find? (h : t.find? k = some v) : t.insert k v = t := by
  obtain ⟨entries, nodup⟩ := t
  simp only [insert, mk.injEq]
  exact put_of_lookup h

theorem modify_eq_self {f : β → β} (h : ∀ v, t.find? k = some v → f v = v) : t.modify k f = t := by
  unfold modify
  split
  · next v hv => rw [h v hv, insert_of_find? hv]
  · rfl

/-! ### Entries that go again -/

theorem drop_put {l : List (α × β)} : drop k (put k v l) = drop k l := by
  induction l with
  | nil => simp [drop, put]
  | cons e l ih =>
    obtain ⟨a, b⟩ := e
    unfold put
    by_cases hak : a = k
    · simp [drop, hak]
    · simp only [if_neg hak]
      have hkeep (rest : List (α × β)) : drop k ((a, b) :: rest) = (a, b) :: drop k rest := by
        simp [drop, hak]
      rw [hkeep, hkeep, ih]

/-- Of an entry that is entered and forgotten nothing is left. -/
theorem erase_insert : (t.insert k v).erase k = t.erase k := by
  simp only [erase, insert, drop_put]

theorem erase_of_find?_eq_none (h : t.find? k = none) : t.erase k = t := by
  have hdrop : drop k t.entries = t.entries := by
    refine List.filter_eq_self.2 fun e he => ?_
    have hne : e.1 ≠ k := by
      rintro rfl
      have hsome : t.find? e.1 = some e.2 := mem_entries.1 he
      simp [h] at hsome
    simpa using hne
  obtain ⟨entries, nodup⟩ := t
  simp only [erase, mk.injEq]
  exact hdrop

theorem erase_comm {k' : α} : (t.erase k).erase k' = (t.erase k').erase k := by
  simp only [erase, drop, mk.injEq]
  rw [List.filter_filter, List.filter_filter]
  refine List.filter_congr fun e _ => ?_
  exact Bool.and_comm _ _

end DurableSession.Table
