import Mathlib.Data.List.Induction
import SigilLookup.OrderedMap

/-!
# Merging ordered maps

An ordered map keeps the place of a name from its first insertion and its value from its last. These
lemmas say so for whole merges: the value of a name in a merge is the one that the *last* map with
the name gives to it, and the names of a merge are the names of all maps, each at its *first*
occurrence. Values and places are read off separately, so a claim about one never has to unfold the
insertion loop for the other.
-/

namespace SigilLookup

/-! ### First occurrences -/

/-- A name at the end is a first occurrence if it did not come before. -/
theorem eraseDups_concat (names : List String) (name : String) :
    (names ++ [name]).eraseDups =
      if name ∈ names then names.eraseDups else names.eraseDups ++ [name] := by
  rw [List.eraseDups_append]
  by_cases hmem : name ∈ names
  · simp [List.removeAll, hmem]
  · simp [List.removeAll, hmem, List.eraseDups_cons]

theorem eraseDups_of_nodup {names : List String} (hnodup : names.Nodup) :
    names.eraseDups = names := by
  induction names using List.reverseRecOn with
  | nil => rfl
  | append_singleton before name ih =>
      obtain ⟨hbefore, -, hdisjoint⟩ := List.nodup_append.mp hnodup
      have hnew : name ∉ before := fun hmem => hdisjoint name hmem name (by simp) rfl
      rw [eraseDups_concat, if_neg hnew, ih hbefore]

theorem nodup_eraseDups (names : List String) : names.eraseDups.Nodup := by
  induction names using List.reverseRecOn with
  | nil => exact .nil
  | append_singleton before name ih =>
      rw [eraseDups_concat]
      split
      case isTrue => exact ih
      case isFalse hnew =>
        have hnotMem : name ∉ before.eraseDups := fun hmem => hnew (List.mem_eraseDups.mp hmem)
        exact List.nodup_append.mpr
          ⟨ih, by simp, fun other hother last hlast heq =>
            hnotMem (List.mem_singleton.mp hlast ▸ heq ▸ hother)⟩

theorem eraseDups_eraseDups_append (names more : List String) :
    (names.eraseDups ++ more).eraseDups = (names ++ more).eraseDups := by
  have hsame : more.removeAll names.eraseDups = more.removeAll names := by
    apply List.filter_congr
    intro name _
    simp
  rw [List.eraseDups_append, List.eraseDups_append,
    eraseDups_of_nodup (nodup_eraseDups names), hsame]

theorem eraseDups_append_eraseDups (names more : List String) :
    (names ++ more.eraseDups).eraseDups = (names ++ more).eraseDups := by
  induction more using List.reverseRecOn with
  | nil => rfl
  | append_singleton before name ih =>
      rw [eraseDups_concat]
      split
      case isTrue hknown =>
        -- the name came before among these names, so it is new on neither side
        have hmem : name ∈ names ++ before := List.mem_append_right names hknown
        rw [ih, ← List.append_assoc, eraseDups_concat, if_pos hmem]
      case isFalse =>
        -- without repetitions there are the same names, so it is new on both sides or on neither
        have hmem : name ∈ names ++ before.eraseDups ↔ name ∈ names ++ before := by
          rw [List.mem_append, List.mem_append, List.mem_eraseDups]
        rw [← List.append_assoc, ← List.append_assoc, eraseDups_concat, eraseDups_concat, ih]
        simp only [hmem]

theorem prefix_eraseDups_append {names : List String} (hnodup : names.Nodup)
    (more : List String) : names <+: (names ++ more).eraseDups := by
  rw [List.eraseDups_append, eraseDups_of_nodup hnodup]
  exact List.prefix_append names _

/-! ### Entries -/

namespace Entries

variable {α : Type}

theorem find?_insert_self (name : String) (value : α) (entries : List (String × α)) :
    find? name (insert name value entries) = some value := by
  induction entries with
  | nil => simp [insert, find?]
  | cons entry rest ih =>
      obtain ⟨first, old⟩ := entry
      by_cases hfirst : first = name
      · simp [insert, find?, hfirst]
      · simp [insert, find?, hfirst, ih]

theorem find?_insert_of_ne {name key : String} (hne : key ≠ name) (value : α)
    (entries : List (String × α)) :
    find? key (insert name value entries) = find? key entries := by
  induction entries with
  | nil => simp [insert, find?, Ne.symm hne]
  | cons entry rest ih =>
      obtain ⟨first, old⟩ := entry
      by_cases hfirst : first = name
      · have hkey : first ≠ key := fun heq => hne (heq.symm.trans hfirst)
        simp [insert, find?, hfirst, hfirst ▸ hkey]
      · simp [insert, find?, hfirst, ih]

/-- A known name keeps its place, a new one goes to the end. -/
theorem names_insert (name : String) (value : α) (entries : List (String × α)) :
    names (insert name value entries) =
      if name ∈ names entries then names entries else names entries ++ [name] := by
  induction entries with
  | nil => simp [insert, names]
  | cons entry rest ih =>
      obtain ⟨first, old⟩ := entry
      by_cases hfirst : first = name
      · simp [insert, names, hfirst]
      · -- the first entry stays where it is, so only the rest decides whether the name is new
        have hmem : name ∈ first :: names rest ↔ name ∈ names rest := by
          simp [Ne.symm hfirst]
        have hstep : names (insert name value ((first, old) :: rest)) =
            first :: names (insert name value rest) := by
          simp [insert, hfirst, names]
        have hnames : names ((first, old) :: rest) = first :: names rest := rfl
        rw [hstep, ih, hnames]
        by_cases hrest : name ∈ names rest
        · rw [if_pos hrest, if_pos (hmem.mpr hrest)]
        · rw [if_neg hrest, if_neg fun hboth => hrest (hmem.mp hboth), List.cons_append]

theorem insert_of_notMem {name : String} (value : α) {entries : List (String × α)}
    (hnew : name ∉ names entries) :
    insert name value entries = entries ++ [(name, value)] := by
  induction entries with
  | nil => rfl
  | cons entry rest ih =>
      obtain ⟨first, old⟩ := entry
      have hfirst : first ≠ name := fun heq => hnew (by simp [names, heq])
      have hrest : name ∉ names rest := fun hmem => hnew (List.mem_cons_of_mem first hmem)
      simp [insert, hfirst, ih hrest]

theorem find?_eq_none_iff {name : String} {entries : List (String × α)} :
    find? name entries = none ↔ name ∉ names entries := by
  induction entries with
  | nil => simp [find?, names]
  | cons entry rest ih =>
      obtain ⟨first, value⟩ := entry
      by_cases hfirst : first = name
      · simp [find?, names, hfirst]
      · simp only [find?, hfirst, if_false, ih, names, List.map_cons, List.mem_cons, not_or]
        exact ⟨fun hrest => ⟨fun heq => hfirst heq.symm, hrest⟩, And.right⟩

theorem find?_append (name : String) (entries more : List (String × α)) :
    find? name (entries ++ more) = (find? name entries).or (find? name more) := by
  induction entries with
  | nil => rfl
  | cons entry rest ih =>
      obtain ⟨first, value⟩ := entry
      rw [List.cons_append, find?, find?]
      split
      · rfl
      · exact ih

theorem find?_map {β : Type} (f : α → β) (name : String) (entries : List (String × α)) :
    find? name (entries.map fun entry => (entry.1, f entry.2)) = (find? name entries).map f := by
  induction entries with
  | nil => rfl
  | cons entry rest ih =>
      obtain ⟨first, value⟩ := entry
      rw [List.map_cons, find?, find?]
      split
      · rfl
      · exact ih

theorem names_map {β : Type} (f : α → β) (entries : List (String × α)) :
    names (entries.map fun entry => (entry.1, f entry.2)) = names entries := by
  simp only [names, List.map_map]
  rfl

theorem find?_of_mem {entries : List (String × α)} (hdistinct : (names entries).Nodup)
    {name : String} {value : α} (hmem : (name, value) ∈ entries) :
    find? name entries = some value := by
  induction entries with
  | nil => cases hmem
  | cons entry rest ih =>
      obtain ⟨first, old⟩ := entry
      obtain ⟨hnew, hrest⟩ := List.nodup_cons.mp hdistinct
      rcases List.mem_cons.mp hmem with hfirst | hlater
      · cases hfirst
        simp [find?]
      · have hne : first ≠ name := by
          rintro rfl
          exact hnew (List.mem_map.mpr ⟨_, hlater, rfl⟩)
        rw [find?, if_neg hne, ih hrest hlater]

theorem find?_eq_lookup (name : String) (entries : List (String × α)) :
    find? name entries = entries.lookup name := by
  induction entries with
  | nil => rfl
  | cons entry rest ih =>
      obtain ⟨first, value⟩ := entry
      rw [find?, List.lookup_cons]
      by_cases hfirst : first = name
      · subst hfirst
        simp
      · have hother : (name == first) = false := beq_false_of_ne (Ne.symm hfirst)
        rw [if_neg hfirst, hother, ih]

theorem find?_eq_some_iff {name : String} {value : α} {entries : List (String × α)} :
    find? name entries = some value ↔
      ∃ before after, entries = before ++ (name, value) :: after ∧ name ∉ names before := by
  constructor
  · intro hfound
    induction entries with
    | nil => cases hfound
    | cons entry rest ih =>
        obtain ⟨first, old⟩ := entry
        by_cases hfirst : first = name
        · subst hfirst
          simp only [find?, if_true, Option.some.injEq] at hfound
          subst hfound
          exact ⟨[], rest, rfl, by simp [names]⟩
        · rw [find?, if_neg hfirst] at hfound
          obtain ⟨before, after, rfl, hbefore⟩ := ih hfound
          refine ⟨(first, old) :: before, after, rfl, ?_⟩
          simpa [names, Ne.symm hfirst] using hbefore
  · rintro ⟨before, after, rfl, hbefore⟩
    rw [find?_append, find?_eq_none_iff.mpr hbefore]
    simp [find?]

theorem find?_reverse_eq_some_iff {name : String} {value : α} {entries : List (String × α)} :
    find? name entries.reverse = some value ↔
      ∃ before after, entries = before ++ (name, value) :: after ∧ name ∉ names after := by
  rw [find?_eq_some_iff]
  constructor
  · rintro ⟨after, before, hentries, hafter⟩
    refine ⟨before.reverse, after.reverse, ?_, ?_⟩
    · rw [← List.reverse_reverse entries, hentries]
      simp
    · simpa [names] using hafter
  · rintro ⟨before, after, rfl, hafter⟩
    refine ⟨after.reverse, before.reverse, by simp, ?_⟩
    simpa [names] using hafter

theorem mem_of_find? {name : String} {value : α} {entries : List (String × α)}
    (hfound : find? name entries = some value) : (name, value) ∈ entries := by
  obtain ⟨before, after, rfl, -⟩ := find?_eq_some_iff.mp hfound
  simp

theorem mem_insert {name : String} {value : α} {entries : List (String × α)}
    {entry : String × α} (hmem : entry ∈ insert name value entries) :
    entry = (name, value) ∨ entry ∈ entries := by
  induction entries with
  | nil => exact .inl (List.mem_singleton.mp hmem)
  | cons first rest ih =>
      by_cases hfirst : first.1 = name
      · rw [insert, if_pos hfirst, hfirst] at hmem
        exact (List.mem_cons.mp hmem).imp_right (.tail _)
      · rw [insert, if_neg hfirst] at hmem
        rcases List.mem_cons.mp hmem with rfl | hrest
        · exact .inr List.mem_cons_self
        · exact (ih hrest).imp_right (.tail _)

theorem map_insert {β : Type} (f : α → β) (name : String) (value : α)
    (entries : List (String × α)) :
    (insert name value entries).map (fun entry => (entry.1, f entry.2)) =
      insert name (f value) (entries.map fun entry => (entry.1, f entry.2)) := by
  induction entries with
  | nil => rfl
  | cons entry rest ih =>
      obtain ⟨first, old⟩ := entry
      by_cases hfirst : first = name
      · simp [insert, hfirst]
      · simp only [insert, if_neg hfirst, List.map_cons, ih]

/-- A name whose entries are not kept is not there to be inserted. -/
theorem filter_insert (keep : String → Bool) (name : String) (value : α)
    (entries : List (String × α)) :
    (insert name value entries).filter (fun entry => keep entry.1) =
      if keep name then insert name value (entries.filter fun entry => keep entry.1)
      else entries.filter fun entry => keep entry.1 := by
  induction entries with
  | nil => cases hkeep : keep name <;> simp [insert, hkeep]
  | cons entry rest ih =>
      obtain ⟨first, old⟩ := entry
      by_cases hfirst : first = name
      · subst hfirst
        cases hkeep : keep first <;> simp [insert, hkeep]
      · rw [insert, if_neg hfirst]
        cases hkeep : keep first
        · simp [hkeep, ih]
        · simp only [List.filter_cons, hkeep, if_true, ih]
          split
          · simp [insert, hfirst]
          · rfl

theorem notMem_names_of_nodup_append {before after : List (String × α)} {name : String} {value : α}
    (hdistinct : (names (before ++ (name, value) :: after)).Nodup) : name ∉ names before := by
  intro hmem
  rw [names, List.map_append, List.nodup_append] at hdistinct
  exact hdistinct.2.2 name hmem name List.mem_cons_self rfl

end Entries

namespace OrderedMap

variable {α : Type}

@[ext] theorem ext {first second : OrderedMap α} (hentries : first.entries = second.entries) :
    first = second := by
  cases first
  cases second
  simpa using hentries

theorem nodup_names (map : OrderedMap α) : map.names.Nodup := map.distinct

@[simp] theorem get?_empty (name : String) : (empty : OrderedMap α).get? name = none := rfl

@[simp] theorem names_empty : (empty : OrderedMap α).names = [] := rfl

/-- The names of a map are those that have a value. -/
theorem isSome_get?_iff {map : OrderedMap α} {name : String} :
    (map.get? name).isSome = true ↔ name ∈ map.names := by
  rw [Option.isSome_iff_ne_none, get?, ne_eq, Entries.find?_eq_none_iff, not_not]
  rfl

/-! ### One map -/

@[simp] theorem get?_insert_self (map : OrderedMap α) (name : String) (value : α) :
    (map.insert name value).get? name = some value :=
  Entries.find?_insert_self name value map.entries

theorem get?_insert_of_ne (map : OrderedMap α) {name key : String} (hne : key ≠ name)
    (value : α) : (map.insert name value).get? key = map.get? key :=
  Entries.find?_insert_of_ne hne value map.entries

theorem names_insert (map : OrderedMap α) (name : String) (value : α) :
    (map.insert name value).names = (map.names ++ [name]).eraseDups := by
  rw [eraseDups_concat, eraseDups_of_nodup map.nodup_names]
  exact Entries.names_insert name value map.entries

@[simp] theorem insertAll_nil (map : OrderedMap α) : map.insertAll [] = map := rfl

@[simp] theorem insertAll_cons (map : OrderedMap α) (name : String) (value : α)
    (rest : List (String × α)) :
    map.insertAll ((name, value) :: rest) = (map.insert name value).insertAll rest := rfl

/-- The entries of one map carry distinct names, so the order in which they are inserted does not
decide a value: what they have wins over what was there. -/
theorem get?_insertAll (map : OrderedMap α) {entries : List (String × α)}
    (hdistinct : (Entries.names entries).Nodup) (key : String) :
    (map.insertAll entries).get? key = (Entries.find? key entries).or (map.get? key) := by
  induction entries generalizing map with
  | nil => rfl
  | cons entry rest ih =>
      obtain ⟨name, value⟩ := entry
      obtain ⟨hnew, hrest⟩ := List.nodup_cons.mp hdistinct
      rw [insertAll_cons, ih _ hrest]
      by_cases hkey : key = name
      · -- the name does not come again, so the value inserted here is the one that stays
        subst hkey
        have hlast : Entries.find? key rest = none := Entries.find?_eq_none_iff.mpr hnew
        simp [hlast, Entries.find?]
      · rw [get?_insert_of_ne map hkey]
        simp [Entries.find?, Ne.symm hkey]

/-- Where names may repeat among the entries, the last entry with a name decides. -/
theorem get?_insertAll_reverse (map : OrderedMap α) (entries : List (String × α))
    (name : String) :
    (map.insertAll entries).get? name =
      (Entries.find? name entries.reverse).or (map.get? name) := by
  induction entries generalizing map with
  | nil => rfl
  | cons entry rest ih =>
      obtain ⟨first, value⟩ := entry
      rw [insertAll_cons, ih, List.reverse_cons, Entries.find?_append, Option.or_assoc]
      congr 1
      by_cases hname : name = first
      · subst hname
        simp [Entries.find?]
      · rw [get?_insert_of_ne map hname]
        simp [Entries.find?, Ne.symm hname]

theorem names_insertAll (map : OrderedMap α) (entries : List (String × α)) :
    (map.insertAll entries).names = (map.names ++ Entries.names entries).eraseDups := by
  induction entries generalizing map with
  | nil => simpa [Entries.names] using (eraseDups_of_nodup map.nodup_names).symm
  | cons entry rest ih =>
      obtain ⟨name, value⟩ := entry
      rw [insertAll_cons, ih, names_insert, eraseDups_eraseDups_append, List.append_assoc]
      rfl

theorem entries_insertAll (map : OrderedMap α) (entries : List (String × α)) :
    (map.insertAll entries).entries =
      entries.foldl (fun table (name, value) => Entries.insert name value table) map.entries := by
  induction entries generalizing map with
  | nil => rfl
  | cons entry rest ih => exact ih _

theorem entries_ofList (entries : List (String × α)) :
    (ofList entries).entries =
      entries.foldl (fun table (name, value) => Entries.insert name value table) [] :=
  entries_insertAll empty entries

theorem find?_ofList (entries : List (String × α)) (name : String) :
    Entries.find? name (ofList entries).entries = Entries.find? name entries.reverse :=
  (get?_insertAll_reverse empty entries name).trans Option.or_none

theorem mem_of_mem_ofList {entries : List (String × α)} {entry : String × α}
    (hmem : entry ∈ (ofList entries).entries) : entry ∈ entries := by
  have hfound := Entries.find?_of_mem (ofList entries).distinct hmem
  rw [find?_ofList] at hfound
  exact List.mem_reverse.mp (Entries.mem_of_find? hfound)

theorem filter_ofList (keep : String → Bool) (entries : List (String × α)) :
    (ofList entries).entries.filter (fun entry => keep entry.1) =
      (ofList (entries.filter fun entry => keep entry.1)).entries := by
  have hgeneral : ∀ (entries base : List (String × α)),
      (entries.foldl (fun table (name, value) => Entries.insert name value table) base).filter
          (fun entry => keep entry.1) =
        (entries.filter fun entry => keep entry.1).foldl
          (fun table (name, value) => Entries.insert name value table)
          (base.filter fun entry => keep entry.1) := by
    intro entries
    induction entries with
    | nil => exact fun base => rfl
    | cons entry rest ih =>
        intro base
        rw [List.foldl_cons, ih, Entries.filter_insert]
        cases hkeep : keep entry.1 <;> simp [hkeep]
  rw [entries_ofList, entries_ofList]
  exact hgeneral entries []

/-- Entries with new names are taken over as they are. -/
theorem entries_insertAll_of_disjoint (map : OrderedMap α) {entries : List (String × α)}
    (hdistinct : (map.names ++ Entries.names entries).Nodup) :
    (map.insertAll entries).entries = map.entries ++ entries := by
  induction entries generalizing map with
  | nil => simp
  | cons entry rest ih =>
      obtain ⟨name, value⟩ := entry
      have hsplit : map.names ++ Entries.names ((name, value) :: rest) =
          (map.names ++ [name]) ++ Entries.names rest := by
        simp [Entries.names]
      rw [hsplit] at hdistinct
      have hfront := (List.nodup_append.mp hdistinct).1
      have hnew : name ∉ Entries.names map.entries := fun hmem =>
        (List.nodup_append.mp hfront).2.2 name hmem name (by simp) rfl
      have hentries : (map.insert name value).entries = map.entries ++ [(name, value)] :=
        Entries.insert_of_notMem value hnew
      have hnames : (map.insert name value).names = map.names ++ [name] := by
        rw [names_insert, eraseDups_of_nodup hfront]
      rw [insertAll_cons, ih (map.insert name value) (by rw [hnames]; exact hdistinct), hentries,
        List.append_assoc, List.singleton_append]

/-! ### Several maps -/

/-- The value that the last map with the name gives to it. -/
def lastValue? (name : String) (maps : List (OrderedMap α)) : Option α :=
  maps.reverse.findSome? fun map => map.get? name

@[simp] theorem lastValue?_nil (name : String) :
    lastValue? name ([] : List (OrderedMap α)) = none := rfl

theorem lastValue?_cons (name : String) (map : OrderedMap α) (rest : List (OrderedMap α)) :
    lastValue? name (map :: rest) = (lastValue? name rest).or (map.get? name) := by
  simp [lastValue?, List.findSome?_append]

theorem lastValue?_append (name : String) (maps more : List (OrderedMap α)) :
    lastValue? name (maps ++ more) = (lastValue? name more).or (lastValue? name maps) := by
  simp [lastValue?, List.findSome?_append]

theorem lastValue?_of_forall_empty {maps : List (OrderedMap α)}
    (hempty : ∀ map ∈ maps, map = empty) (name : String) : lastValue? name maps = none := by
  rw [lastValue?, List.findSome?_eq_none_iff]
  intro map hmap
  rw [hempty map (List.mem_reverse.mp hmap), get?_empty]

@[simp] theorem merge_nil (base : OrderedMap α) : base.merge [] = base := rfl

theorem merge_cons (base addition : OrderedMap α) (rest : List (OrderedMap α)) :
    base.merge (addition :: rest) = (base.insertAll addition.entries).merge rest := rfl

theorem merge_append (base : OrderedMap α) (additions more : List (OrderedMap α)) :
    base.merge (additions ++ more) = (base.merge additions).merge more := List.foldl_append

/-- One of the additions, and what comes before and after it. -/
theorem merge_append_cons (base : OrderedMap α) (before : List (OrderedMap α))
    (addition : OrderedMap α) (after : List (OrderedMap α)) :
    base.merge (before ++ addition :: after) =
      ((base.merge before).merge [addition]).merge after := by
  rw [← merge_append, ← merge_append, List.singleton_append]

/-- Merging one map into the empty one gives this map, entry for entry. -/
@[simp] theorem empty_merge_singleton (map : OrderedMap α) : empty.merge [map] = map := by
  apply ext
  have hdistinct : ((empty : OrderedMap α).names ++ Entries.names map.entries).Nodup :=
    map.distinct
  simpa [merge, empty] using entries_insertAll_of_disjoint empty hdistinct

/-- The last writer decides the value. -/
theorem get?_merge (base : OrderedMap α) (additions : List (OrderedMap α)) (name : String) :
    (base.merge additions).get? name = (lastValue? name additions).or (base.get? name) := by
  induction additions generalizing base with
  | nil => rfl
  | cons addition rest ih =>
      rw [merge_cons, ih, get?_insertAll base addition.distinct, lastValue?_cons, Option.or_assoc]
      rfl

/-- The first writer decides the place. -/
theorem names_merge (base : OrderedMap α) (additions : List (OrderedMap α)) :
    (base.merge additions).names = (base.names ++ additions.flatMap names).eraseDups := by
  induction additions generalizing base with
  | nil => simpa using (eraseDups_of_nodup base.nodup_names).symm
  | cons addition rest ih =>
      rw [merge_cons, ih, names_insertAll, eraseDups_eraseDups_append, List.append_assoc]
      rfl

/-- A merge only adds names at the end. -/
theorem names_prefix_merge (base : OrderedMap α) (additions : List (OrderedMap α)) :
    base.names <+: (base.merge additions).names := by
  rw [names_merge]
  exact prefix_eraseDups_append base.nodup_names _

end OrderedMap

end SigilLookup
