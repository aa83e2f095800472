/-!
Finite maps that remember the order in which their keys first came.

Main statements: `find?_insert` and `find?_erase` say what a change does to every look-up; the keys
of a table never repeat, which is part of the type.
-/

namespace DurableSession

/-- A finite map: keys with their values, oldest key first. -/
structure Table (α : Type) (β : Type) where
  entries : List (α × β)
  nodup : (entries.map Prod.fst).Nodup

namespace Table

variable {α β γ : Type}

def empty : Table α β := ⟨[], List.nodup_nil⟩

instance : Inhabited (Table α β) := ⟨empty⟩
instance : EmptyCollection (Table α β) := ⟨empty⟩

/-- How many keys there are. -/
def size (t : Table α β) : Nat := t.entries.length

def isEmpty (t : Table α β) : Bool := t.entries.isEmpty

def keys (t : Table α β) : List α := t.entries.map Prod.fst

def values (t : Table α β) : List β := t.entries.map Prod.snd

section Lookup
variable [DecidableEq α]

/-- The value of the first entry with key `k`. -/
def lookup (k : α) : List (α × β) → Option β
  | [] => none
  | (a, b) :: rest => if a = k then some b else lookup k rest

/-- The value of `k`, if it is a key. -/
def find? (t : Table α β) (k : α) : Option β := lookup k t.entries

def contains (t : Table α β) (k : α) : Bool := (t.find? k).isSome

/-- Put `v` where `k` stands, or at the end. -/
def put (k : α) (v : β) : List (α × β) → List (α × β)
  | [] => [(k, v)]
  | (a, b) :: rest => if a = k then (a, v) :: rest else (a, b) :: put k v rest

/-- Leave out the entries of `k`. -/
def drop (k : α) (l : List (α × β)) : List (α × β) := l.filter fun e => e.1 ≠ k

theorem mem_keys_put {k x : α} {v : β} {l : List (α × β)} :
    x ∈ (put k v l).map Prod.fst ↔ x = k ∨ x ∈ l.map Prod.fst := by
  induction l with
  | nil => simp [put]
  | cons e rest ih =>
    obtain ⟨a, b⟩ := e
    by_cases h : a = k
    · simp [put, h]
    · simp only [put, h, if_false, List.map_cons, List.mem_cons, ih]
      constructor
      · rintro (h | h | h) <;> simp [h]
      · rintro (h | h | h) <;> simp [h]

theorem nodup_put {k : α} {v : β} {l : List (α × β)} (h : (l.map Prod.fst).Nodup) :
    ((put k v l).map Prod.fst).Nodup := by
  induction l with
  | nil => simp [put]
  | cons e rest ih =>
    obtain ⟨a, b⟩ := e
    simp only [List.map_cons, List.nodup_cons] at h
    by_cases hak : a = k
    · simp only [put, hak, if_true, List.map_cons, List.nodup_cons]
      exact ⟨hak ▸ h.1, h.2⟩
    · simp only [put, hak, if_false, List.map_cons, List.nodup_cons, mem_keys_put]
      exact ⟨by rintro (h' | h') <;> simp_all, ih h.2⟩

theorem nodup_drop {k : α} {l : List (α × β)} (h : (l.map Prod.fst).Nodup) :
    ((drop k l).map Prod.fst).Nodup :=
  h.sublist (List.filter_sublist.map Prod.fst)

/-- Give `k` the value `v`; a key already there keeps its place. -/
def insert (t : Table α β) (k : α) (v : β) : Table α β := ⟨put k v t.entries, nodup_put t.nodup⟩

/-- Forget `k`. -/
def erase (t : Table α β) (k : α) : Table α β := ⟨drop k t.entries, nodup_drop t.nodup⟩

/-- Change the value of `k`, if it is a key. -/
def modify (t : Table α β) (k : α) (f : β → β) : Table α β :=
  match t.find? k with
  | some v => t.insert k (f v)
  | none => t

theorem lookup_put {k x : α} {v : β} {l : List (α × β)} :
    lookup x (put k v l) = if k = x then some v else lookup x l := by
  induction l with
  | nil => simp [put, lookup]
  | cons e rest ih =>
    obtain ⟨a, b⟩ := e
    by_cases h : a = k
    · subst h
      by_cases hx : a = x <;> simp [put, lookup, hx]
    · by_cases hx : a = x
      · subst hx
        simp [put, lookup, h, Ne.symm h]
      · simp [put, lookup, h, hx, ih]

theorem lookup_drop {k x : α} {l : List (α × β)} :
    lookup x (drop k l) = if k = x then none else lookup x l := by
  induction l with
  | nil => simp [drop, lookup]
  | cons e rest ih =>
    obtain ⟨a, b⟩ := e
    simp only [drop, ne_eq, decide_not] at ih ⊢
    by_cases h : a = k
    · subst h
      by_cases hx : a = x <;> simp_all [lookup]
    · by_cases hx : a = x
      · subst hx
        simp [lookup, h, Ne.symm h]
      · simp_all [lookup]

@[simp] theorem find?_empty (k : α) : (empty : Table α β).find? k = none := rfl

@[simp] theorem find?_insert (t : Table α β) (k x : α) (v : β) :
    (t.insert k v).find? x = if k = x then some v else t.find? x := lookup_put

@[simp] theorem find?_erase (t : Table α β) (k x : α) :
    (t.erase k).find? x = if k = x then none else t.find? x := lookup_drop

theorem find?_modify (t : Table α β) (k x : α) (f : β → β) :
    (t.modify k f).find? x = if k = x then (t.find? x).map f else t.find? x := by
  unfold modify
  by_cases hx : k = x
  · subst hx
    cases h : t.find? k <;> simp [h]
  · cases t.find? k <;> simp [hx]

end Lookup

/-- A table from a list of entries; a later entry of a key replaces an earlier one. -/
def ofList [DecidableEq α] (l : List (α × β)) : Table α β :=
  l.foldl (fun t e => t.insert e.1 e.2) empty

end Table

end DurableSession
