import Mathlib.Data.List.Basic
import SigilLookup.Proofs.OrderedMap.Merge

/-!
# Merges as unions

A merge is a union that keeps order: the names of the base stay where they are, new names follow,
each where it first comes, and on a common name the later map wins. Names and look-ups determine a
map (`OrderedMap.eq_of_names_of_get?`), so these two rules leave no other map
(`OrderedMap.isUnion_iff`).

The laws of a monoid come from the same observation. Places follow the first map with a name and
values the last one, so an equation between merges is proved once for the names and once for the
look-ups. The one equation needed is that maps may be merged among themselves before they are merged
into the base (`OrderedMap.merge_singleton_merge`).
-/

namespace SigilLookup

/-- Entries with distinct names are read back from the names and the look-ups. -/
theorem Entries.filterMap_find?_names {α : Type} {entries : List (String × α)}
    (hdistinct : (names entries).Nodup) :
    (names entries).filterMap (fun name => (find? name entries).map fun value => (name, value)) =
      entries := by
  rw [names, List.filterMap_map]
  calc entries.filterMap ((fun name => (find? name entries).map fun value => (name, value)) ∘
        Prod.fst)
      = entries.filterMap some := by
        apply List.filterMap_congr
        intro entry hentry
        simp [find?_of_mem hdistinct hentry]
    _ = entries := List.filterMap_some

namespace OrderedMap

variable {α : Type}

/-- Names in order and look-ups determine a map. -/
theorem eq_of_names_of_get? {first second : OrderedMap α} (hnames : first.names = second.names)
    (hget : ∀ name, first.get? name = second.get? name) : first = second := by
  apply ext
  rw [← Entries.filterMap_find?_names first.distinct,
    ← Entries.filterMap_find?_names second.distinct]
  have hentries : Entries.names first.entries = Entries.names second.entries := hnames
  rw [hentries]
  apply List.filterMap_congr
  intro name _
  exact congrArg (Option.map fun value => (name, value)) (hget name)

/-! ### The union -/

/-- What a union of a map with additions is: the names of the map come first, as they are, then the
new names, each where it first comes among the additions; and a name has the value that the last of
all maps with the name gives to it. -/
structure IsUnion (base : OrderedMap α) (additions : List (OrderedMap α))
    (union : OrderedMap α) : Prop where
  names : union.names =
    base.names ++ ((additions.flatMap OrderedMap.names).removeAll base.names).eraseDups
  value : ∀ name, union.get? name = lastValue? name (base :: additions)

theorem isUnion_merge (base : OrderedMap α) (additions : List (OrderedMap α)) :
    base.IsUnion additions (base.merge additions) where
  names := by
    rw [names_merge, List.eraseDups_append, eraseDups_of_nodup base.nodup_names]
  value name := by
    rw [get?_merge, lastValue?_cons]

theorem isUnion_iff {base : OrderedMap α} {additions : List (OrderedMap α)}
    {union : OrderedMap α} :
    base.IsUnion additions union ↔ union = base.merge additions := by
  constructor
  · intro hunion
    have hmerge := isUnion_merge base additions
    apply eq_of_names_of_get?
    · rw [hunion.names, hmerge.names]
    · intro name
      rw [hunion.value, hmerge.value]
  · rintro rfl
    exact isUnion_merge base additions

/-- A common name keeps its place and takes the later value. -/
example : ((ofList [("x", 1), ("y", 2)]).merge [ofList [("z", 3), ("x", 4)]]).entries =
    [("x", 4), ("y", 2), ("z", 3)] := by decide

/-! ### The laws -/

/-- Maps may be merged among themselves first. -/
theorem merge_singleton_merge (base map : OrderedMap α) (group : List (OrderedMap α)) :
    base.merge [map.merge group] = base.merge (map :: group) := by
  apply eq_of_names_of_get?
  · simp only [names_merge, List.flatMap_cons, List.flatMap_nil, List.append_nil,
      eraseDups_append_eraseDups]
  · intro name
    simp only [get?_merge, lastValue?_cons, lastValue?_nil, Option.none_or]

/-- Any additions that stand together may be merged among themselves first. -/
theorem merge_append_merge (base : OrderedMap α) (before : List (OrderedMap α))
    (map : OrderedMap α) (group after : List (OrderedMap α)) :
    base.merge (before ++ map :: group ++ after) =
      base.merge (before ++ map.merge group :: after) := by
  calc base.merge (before ++ map :: group ++ after)
      = ((base.merge before).merge (map :: group)).merge after := by
        rw [merge_append, merge_append]
    _ = ((base.merge before).merge [map.merge group]).merge after := by
        rw [merge_singleton_merge]
    _ = base.merge (before ++ map.merge group :: after) :=
        (merge_append_cons base before (map.merge group) after).symm

theorem merge_singleton_self (map : OrderedMap α) : map.merge [map] = map := by
  -- its own names are not new to it
  have hnone : map.names.removeAll map.names = [] := by
    simp [List.removeAll]
  apply eq_of_names_of_get?
  · rw [(isUnion_merge map [map]).names, List.flatMap_singleton, hnone]
    simp
  · intro name
    rw [get?_merge, lastValue?_cons, lastValue?_nil, Option.none_or, Option.or_self]

/-- Merging is the union of maps that keeps the places of the base and in which later maps win. It
is associative, also over lists of maps, which may be merged one at a time or in groups, the empty
map is neutral on both sides, and merging a map again changes nothing. -/
theorem merge_is_ordered_union (base : OrderedMap α) :
    (∀ additions union, union = base.merge additions ↔ base.IsUnion additions union) ∧
    (∀ additions, (base.merge additions).names.Nodup) ∧
    (∀ map other, base.merge [map, other] = (base.merge [map]).merge [other] ∧
      (base.merge [map]).merge [other] = base.merge [map.merge [other]]) ∧
    (∀ additions, base.merge additions =
      additions.foldl (fun merged addition => merged.merge [addition]) base) ∧
    (∀ additions more, base.merge (additions ++ more) = (base.merge additions).merge more) ∧
    (∀ before map group after, base.merge (before ++ map :: group ++ after) =
      base.merge (before ++ map.merge group :: after)) ∧
    empty.merge [base] = base ∧ base.merge [empty] = base ∧
    base.merge [base] = base ∧
    ∀ map, (base.merge [map]).merge [map] = base.merge [map] := by
  have hassoc (map other : OrderedMap α) :
      (base.merge [map]).merge [other] = base.merge [map.merge [other]] := by
    rw [← merge_append, List.singleton_append, merge_singleton_merge]
  refine ⟨?_, ?_, ?_, ?_, merge_append base, merge_append_merge base, empty_merge_singleton base,
    rfl, merge_singleton_self base, ?_⟩
  · intro additions union
    exact isUnion_iff.symm
  · intro additions
    exact (base.merge additions).nodup_names
  · intro map other
    exact ⟨merge_append base [map] [other], hassoc map other⟩
  · intro additions
    rfl
  · intro map
    rw [hassoc, merge_singleton_self]

end OrderedMap

end SigilLookup
