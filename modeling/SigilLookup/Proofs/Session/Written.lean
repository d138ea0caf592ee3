import SigilLookup.Proofs.OrderedMap.Merge
import SigilLookup.Proofs.Session.Projection

/-!
# Written values

What the runtime table answers after a run is read off the writes of the run: the last write to a
key decides its value, and a key that was never written has none. No other operation plays a role,
so this holds for providers of any kind.
-/

namespace SigilLookup

namespace RuntimeTable

/-- The values of the table as a map, which a fresh table does not hold yet. -/
def map (table : RuntimeTable) : OrderedMap Value := table.entries.getD .empty

/-- The keys that were written, in order of their first write. -/
def keys (table : RuntimeTable) : List String := table.map.names

theorem get?_eq (table : RuntimeTable) (key : String) : table.get? key = table.map.get? key := by
  obtain ⟨entries⟩ := table
  cases entries <;> rfl

theorem map_set (table : RuntimeTable) (key : String) (value : Value) :
    (table.set key value).1.map = table.map.insert key value := rfl

theorem map_foldl_set (table : RuntimeTable) (writes : List (String × Value)) :
    (writes.foldl (fun table write => (table.set write.1 write.2).1) table).map =
      table.map.insertAll writes := by
  induction writes generalizing table with
  | nil => rfl
  | cons write rest ih =>
      rw [List.foldl_cons, ih, map_set]
      rfl

theorem mem_keys_iff {table : RuntimeTable} {key : String} :
    key ∈ table.keys ↔ ∃ value, table.get? key = some value := by
  rw [get?_eq, ← Option.isSome_iff_exists, OrderedMap.isSome_get?_iff]
  rfl

end RuntimeTable

namespace Operation

def lastWritten? (key : String) (operations : List Operation) : Option Value :=
  Entries.find? key (operations.filterMap written?).reverse

theorem written?_eq_some_iff {operation : Operation} {key : String} {value : Value} :
    operation.written? = some (key, value) ↔ operation = .setValue key value := by
  cases operation with
  | setValue other content => simp [written?]
  | _ => simp [written?]

theorem lastWritten?_eq_none_iff {key : String} {operations : List Operation} :
    lastWritten? key operations = none ↔ ∀ value, .setValue key value ∉ operations := by
  have hwritten : key ∈ Entries.names (operations.filterMap written?).reverse ↔
      ∃ value, .setValue key value ∈ operations := by
    simp [Entries.names, written?_eq_some_iff]
  rw [lastWritten?, Entries.find?_eq_none_iff, hwritten, not_exists]

end Operation

namespace Session

theorem runtime_step (session : Session) (operation : Operation) :
    (session.step operation).1.resolver.runtime =
      operation.written?.elim session.resolver.runtime fun write =>
        (session.resolver.runtime.set write.1 write.2).1 := by
  cases operation with
  | registerComputedBatch providers => rw [step_registerComputedBatch]; rfl
  | registerConstantsBatch providers => rw [step_registerConstantsBatch]; rfl
  | _ => rfl

theorem runtime_run (session : Session) (operations : List Operation) :
    (session.run operations).resolver.runtime =
      (operations.filterMap Operation.written?).foldl
        (fun table write => (table.set write.1 write.2).1) session.resolver.runtime := by
  induction operations generalizing session with
  | nil => rfl
  | cons operation rest ih =>
      rw [run_cons, ih, runtime_step]
      cases hwritten : operation.written? with
      | none => rw [List.filterMap_cons_none hwritten, Option.elim_none]
      | some write => rw [List.filterMap_cons_some hwritten, Option.elim_some, List.foldl_cons]

theorem value?_run (session : Session) (operations : List Operation) (key : String) :
    (session.run operations).resolver.runtime.get? key =
      (Operation.lastWritten? key operations).or (session.resolver.runtime.get? key) := by
  rw [runtime_run, RuntimeTable.get?_eq, RuntimeTable.map_foldl_set,
    OrderedMap.get?_insertAll_reverse, ← RuntimeTable.get?_eq]
  rfl

theorem value?_run_start (grammar : Grammar) (calls : Calls) (operations : List Operation)
    (key : String) :
    ((start grammar calls).run operations).resolver.runtime.get? key =
      Operation.lastWritten? key operations := by
  rw [value?_run]
  exact Option.or_none

end Session

end SigilLookup
