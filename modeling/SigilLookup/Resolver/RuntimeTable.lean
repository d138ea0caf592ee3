import SigilLookup.OrderedMap
import SigilLookup.Value

/-!
# The runtime table

Values written at run time. A fresh table holds no map at all; the first write makes one. Entries
are overwritten and never removed.
-/

namespace SigilLookup

structure RuntimeTable where
  entries : Option (OrderedMap Value) := none

namespace RuntimeTable

def fresh : RuntimeTable := {}

def get? (table : RuntimeTable) (key : String) : Option Value := do (← table.entries).get? key

/-- Writes a value; the value that the key had before comes with the new table. -/
def set (table : RuntimeTable) (key : String) (value : Value) : RuntimeTable × Option Value :=
  (⟨some ((table.entries.getD .empty).insert key value)⟩, table.get? key)

def size (table : RuntimeTable) : Nat :=
  match table.entries with
  | some map => map.size
  | none => 0

def isEmpty (table : RuntimeTable) : Bool := table.size == 0

/-- A table promises no order; the entries of the dump stand in that of their first writes. -/
def dump (table : RuntimeTable) : Dump :=
  let entries := match table.entries with
    | some map =>
      .wrapped "Some" (.map (map.entries.map fun (key, value) => (.quoted key, value.dump)))
    | none => .atom "None"
  .fields "RuntimeTable" [("entries", entries)] false

end RuntimeTable

end SigilLookup
