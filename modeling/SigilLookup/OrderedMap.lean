/-!
# Ordered maps

Maps from names to values that remember the order in which the names first came. Inserting a name
that is already there changes its value and leaves its place; a new name goes to the end. So the
place of a name is decided by its first insertion and its value by its last.

The names of a map are distinct, which is part of the type.
-/

namespace SigilLookup

namespace Entries

/-- The value at the first entry with the name. -/
def find? (name : String) : List (String × α) → Option α
  | [] => none
  | (key, value) :: rest => if key = name then some value else find? name rest

/-- Changes the first entry with the name, or adds one at the end. -/
def insert (name : String) (value : α) : List (String × α) → List (String × α)
  | [] => [(name, value)]
  | (key, old) :: rest =>
    if key = name then (key, value) :: rest else (key, old) :: insert name value rest

def names (entries : List (String × α)) : List String := entries.map Prod.fst

theorem mem_names_insert {name key : String} {value : α} {entries : List (String × α)} :
    key ∈ names (insert name value entries) ↔ key = name ∨ key ∈ names entries := by
  induction entries with
  | nil => simp [insert, names]
  | cons entry rest ih =>
    obtain ⟨first, old⟩ := entry
    simp only [names] at ih
    by_cases h : first = name
    · subst h
      simp [insert, names]
    · simp only [insert, h, if_false, names, List.map_cons, List.mem_cons, ih]
      exact or_left_comm

theorem nodup_names_insert {name : String} {value : α} {entries : List (String × α)}
    (distinct : (names entries).Nodup) : (names (insert name value entries)).Nodup := by
  induction entries with
  | nil => simp [insert, names]
  | cons entry rest ih =>
    obtain ⟨first, old⟩ := entry
    simp only [names, List.map_cons, List.nodup_cons] at distinct
    by_cases h : first = name
    · simpa [insert, h, names] using distinct
    · simp only [insert, h, if_false, names, List.map_cons, List.nodup_cons]
      refine ⟨?_, ih distinct.2⟩
      intro member
      rcases (@mem_names_insert _ name first value rest).1 member with same | member
      · exact h same
      · exact distinct.1 member

end Entries

/-- A map from names to values that keeps the order of first insertion. -/
structure OrderedMap (α : Type) where
  entries : List (String × α)
  distinct : (Entries.names entries).Nodup := by simp [Entries.names]

namespace OrderedMap

variable {α : Type}

def empty : OrderedMap α := { entries := [] }

instance : Inhabited (OrderedMap α) := ⟨empty⟩

/-- The names, in order of first insertion. -/
def names (map : OrderedMap α) : List String := Entries.names map.entries

def get? (map : OrderedMap α) (name : String) : Option α := Entries.find? name map.entries

def insert (map : OrderedMap α) (name : String) (value : α) : OrderedMap α :=
  ⟨Entries.insert name value map.entries, Entries.nodup_names_insert map.distinct⟩

def size (map : OrderedMap α) : Nat := map.entries.length

def isEmpty (map : OrderedMap α) : Bool := map.entries.isEmpty

/-- Inserts entries one after another. -/
def insertAll (map : OrderedMap α) (entries : List (String × α)) : OrderedMap α :=
  entries.foldl (fun map (name, value) => map.insert name value) map

def ofList (entries : List (String × α)) : OrderedMap α := empty.insertAll entries

/-- Inserts the entries of every addition, in order. -/
def merge (base : OrderedMap α) (additions : List (OrderedMap α)) : OrderedMap α :=
  additions.foldl (fun merged addition => merged.insertAll addition.entries) base

/-- Equality of contents under a comparison of values; order plays no role. -/
def same (sameValue : α → α → Bool) (first second : OrderedMap α) : Bool :=
  first.size == second.size &&
    first.entries.all fun (name, value) =>
      match second.get? name with
      | some other => sameValue value other
      | none => false

end OrderedMap

end SigilLookup
