import DurableSession.Proofs.Table
import DurableSession.Server.Registry
import DurableSession.Metrics

/-!
Counting records by the names of their states. Main statement: `sum_countOf`, the four states that
have a gauge account for every record, unless one is terminated.
-/

namespace DurableSession.Server.Registry

open Metrics (gaugedStates)

/-- How many records the registry publishes under a state's name. -/
def countOf (r : Registry) (name : String) : Nat := (Table.lookup name r.countByState).getD 0

def stateNames (r : Registry) : List String := r.records.map fun rec => rec.state.name

theorem name_mem_gaugedStates {state : RecordState} (h : state ≠ .terminated) :
    state.name ∈ gaugedStates := by
  cases state with
  | terminated => exact absurd rfl h
  | _ => simp [gaugedStates, RecordState.name]

theorem find?_count {l : List Record} {t : Table String Nat} {name : String} :
    ((l.foldl (fun t rec => t.insert rec.state.name ((t.find? rec.state.name).getD 0 + 1)) t).find?
        name).getD 0 =
      (t.find? name).getD 0 + (l.map fun rec => rec.state.name).count name := by
  induction l generalizing t with
  | nil => simp
  | cons rec l ih =>
    rw [List.foldl_cons, ih, Table.find?_insert, List.map_cons, List.count_cons]
    by_cases h : rec.state.name = name
    · simp only [h, if_true, Option.getD_some, beq_self_eq_true]
      omega
    · simp [h]

theorem countOf_eq (r : Registry) (name : String) : r.countOf name = r.stateNames.count name := by
  refine find?_count.trans ?_
  simp [stateNames]

theorem sum_count {l : List String} (h : ∀ name ∈ l, name ∈ gaugedStates) :
    gaugedStates.foldr (fun name n => l.count name + n) 0 = l.length := by
  induction l with
  | nil => rfl
  | cons name l ih =>
    have hl := ih fun name' h' => h name' (List.mem_cons_of_mem _ h')
    have hname := h name List.mem_cons_self
    simp only [gaugedStates, List.foldr_cons, List.foldr_nil, List.count_cons, List.length_cons,
      List.mem_cons, List.not_mem_nil, or_false] at hl hname ⊢
    rcases hname with rfl | rfl | rfl | rfl
    all_goals
      simp
      omega

theorem sum_countOf {r : Registry} (h : ∀ x rec, r.record? x = some rec → rec.state ≠ .terminated) :
    gaugedStates.foldr (fun name n => r.countOf name + n) 0 = r.size := by
  have hc : r.countOf = r.stateNames.count := funext r.countOf_eq
  rw [hc, sum_count]
  · simp [stateNames, records, Table.values, size, Table.size]
  · intro name hname
    obtain ⟨rec, hrec, rfl⟩ := List.mem_map.1 hname
    obtain ⟨x, hx⟩ := Table.mem_values.1 hrec
    exact name_mem_gaugedStates (h x rec hx)

end DurableSession.Server.Registry
