import Mathlib.Data.List.Perm.Subperm
import SigilLookup.Proofs.OrderedMap.Merge

/-!
# Equality of ordered maps

Two ordered maps are compared by their sizes and by looking up each entry of the first map in the
second. This is equality of all lookups (`OrderedMap.same_iff`): names are distinct, so a map with
all names of another one, and of its size, has no name besides.

Equality of values is taken as given by a form, as `Value.same_iff` does: values are equal if their
forms are the same. What is looked up is then compared by its form, and equal maps stay equal under
insertions and merges, although these keep an order that equal maps need not share.
-/

namespace SigilLookup.OrderedMap

variable {α β : Type} {form : α → β} {first second : OrderedMap α}

def formOf? (form : α → β) (map : OrderedMap α) (name : String) : Option β :=
  (map.get? name).map form

theorem mem_names_iff_formOf? (form : α → β) (map : OrderedMap α) (name : String) :
    name ∈ map.names ↔ (map.formOf? form name).isSome = true := by
  rw [← isSome_get?_iff, formOf?, Option.isSome_map]

theorem size_eq_length_names (map : OrderedMap α) : map.size = map.names.length :=
  (List.length_map Prod.fst).symm

/-- With all names of another map and no more of them, a map has the same names. -/
theorem mem_names_of_subset (hsize : first.size = second.size)
    (hsubset : first.names ⊆ second.names) {name : String} (hname : name ∈ second.names) :
    name ∈ first.names := by
  have hlength : second.names.length ≤ first.names.length := by
    rw [← size_eq_length_names first, ← size_eq_length_names second]
    exact Nat.le_of_eq hsize.symm
  have hperm := (first.nodup_names.subperm hsubset).perm_of_length_le hlength
  exact hperm.mem_iff.mpr hname

theorem size_eq_of_mem_names (hnames : ∀ name, name ∈ first.names ↔ name ∈ second.names) :
    first.size = second.size := by
  have hperm := (List.perm_ext_iff_of_nodup first.nodup_names second.nodup_names).mpr hnames
  rw [size_eq_length_names, size_eq_length_names, hperm.length_eq]

theorem same_iff_forall_mem {sameValue : α → α → Bool} :
    first.same sameValue second = true ↔ first.size = second.size ∧
      ∀ name value, (name, value) ∈ first.entries →
        ∃ other, second.get? name = some other ∧ sameValue value other = true := by
  rw [same, Bool.and_eq_true, beq_iff_eq, List.all_eq_true]
  constructor
  · rintro ⟨hsize, hentries⟩
    refine ⟨hsize, ?_⟩
    intro name value hmem
    have hentry := hentries (name, value) hmem
    cases hget : second.get? name with
    | none => simp [hget] at hentry
    | some other => exact ⟨other, rfl, by simpa [hget] using hentry⟩
  · rintro ⟨hsize, hentries⟩
    refine ⟨hsize, ?_⟩
    rintro ⟨name, value⟩ hmem
    obtain ⟨other, hget, hvalue⟩ := hentries name value hmem
    simp only [hget, hvalue]

/-- Equality of maps is equality of lookups; the order of names plays no role. -/
theorem same_iff {sameValue : α → α → Bool}
    (hvalue : ∀ x y, sameValue x y = true ↔ form x = form y) :
    first.same sameValue second = true ↔
      ∀ name, first.formOf? form name = second.formOf? form name := by
  rw [same_iff_forall_mem]
  constructor
  · rintro ⟨hsize, hentries⟩ name
    have hfound {name : String} {value : α} (hget : first.get? name = some value) :
        second.formOf? form name = some (form value) := by
      obtain ⟨other, hother, hsame⟩ := hentries name value (Entries.mem_of_find? hget)
      rw [formOf?, hother, Option.map_some, (hvalue value other).mp hsame]
    cases hget : first.get? name with
    | some value => rw [hfound hget, formOf?, hget, Option.map_some]
    | none =>
        have hsubset : first.names ⊆ second.names := by
          intro other hother
          obtain ⟨value, hfirst⟩ := Option.isSome_iff_exists.mp (isSome_get?_iff.mpr hother)
          rw [mem_names_iff_formOf? form, hfound hfirst]
          rfl
        have hnew : name ∉ second.names := by
          intro hname
          have hboth := isSome_get?_iff.mpr (mem_names_of_subset hsize hsubset hname)
          rw [hget] at hboth
          cases hboth
        rw [mem_names_iff_formOf? form, Bool.not_eq_true, Option.isSome_eq_false_iff,
          Option.isNone_iff_eq_none] at hnew
        rw [hnew, formOf?, hget, Option.map_none]
  · intro hlookups
    constructor
    · apply size_eq_of_mem_names
      intro name
      rw [mem_names_iff_formOf? form, mem_names_iff_formOf? form, hlookups]
    · intro name value hmem
      have hget : first.get? name = some value := Entries.find?_of_mem first.distinct hmem
      have hform : second.formOf? form name = some (form value) := by
        rw [← hlookups, formOf?, hget, Option.map_some]
      obtain ⟨other, hother, hsame⟩ := Option.map_eq_some_iff.mp hform
      exact ⟨other, hother, (hvalue value other).mpr hsame.symm⟩

/-! ### Operations on equal maps -/

theorem formOf?_insert (form : α → β) (map : OrderedMap α) (name : String) (value : α)
    (key : String) :
    (map.insert name value).formOf? form key =
      if key = name then some (form value) else map.formOf? form key := by
  rw [formOf?]
  split
  · next heq => rw [heq, get?_insert_self, Option.map_some]
  · next hne => rw [get?_insert_of_ne map hne, formOf?]

theorem formOf?_merge (form : α → β) (base : OrderedMap α) (additions : List (OrderedMap α))
    (name : String) :
    (base.merge additions).formOf? form name =
      ((lastValue? name additions).map form).or (base.formOf? form name) := by
  rw [formOf?, get?_merge, Option.map_or, formOf?]

theorem formOf?_eq_of_perm (form : α → β) (hperm : first.entries.Perm second.entries)
    (name : String) : first.formOf? form name = second.formOf? form name := by
  have hget : first.get? name = second.get? name := by
    apply Option.ext
    intro value
    constructor
    · intro hfound
      exact Entries.find?_of_mem second.distinct (hperm.mem_iff.mp (Entries.mem_of_find? hfound))
    · intro hfound
      exact Entries.find?_of_mem first.distinct (hperm.mem_iff.mpr (Entries.mem_of_find? hfound))
  rw [formOf?, formOf?, hget]

end SigilLookup.OrderedMap
