import SigilLookup.Proofs.Settings.Notations

/-!
# The tables of a TOML file

A table in TOML grows while the file is read, as headers and dotted keys lead into it from different
lines. Each of them changes the tables on its path one by one (`Toml.Parts.within`), and a change of
the last one that keeps names distinct keeps them distinct in all
(`Toml.Parts.keepsDistinct_within`). So every line keeps them distinct, and the whole file does.
-/

namespace SigilLookup

open Reading Setting

namespace Toml

namespace Part

theorem settings_eq_map (parts : Parts) :
    settings parts = parts.map fun entry => (entry.1, entry.2.setting) := by
  induction parts with
  | nil => rfl
  | cons entry rest ih => rw [settings, ih, List.map_cons]

theorem settingsList_eq_map (all : List Parts) :
    settingsList all = all.map fun parts => .table (settings parts) := by
  induction all with
  | nil => rfl
  | cons parts rest ih => rw [settingsList, ih, List.map_cons]

end Part

namespace Parts

def Distinct (parts : Parts) : Prop := Setting.Distinct (.table (Part.settings parts))

theorem distinct_nil : Distinct [] := distinct_table_nil

theorem distinct_insert {name : String} {part : Part} {parts : Parts} (hparts : Distinct parts)
    (hpart : part.setting.Distinct) : Distinct (Entries.insert name part parts) := by
  unfold Distinct at *
  rw [Part.settings_eq_map] at *
  rw [Entries.map_insert]
  exact distinct_table_insert hparts hpart

theorem distinct_setting_of_find? {name : String} {part : Part} {parts : Parts}
    (hparts : Distinct parts) (hfound : Entries.find? name parts = some part) :
    part.setting.Distinct := by
  have hvalues := (distinct_table_iff.mp hparts).2
  rw [Part.settings_eq_map] at hvalues
  exact hvalues _ (List.mem_map_of_mem (Entries.mem_of_find? hfound))

theorem distinct_setting_tables_iff {all : List Parts} :
    (Part.tables all).setting.Distinct ↔ ∀ parts ∈ all, Distinct parts := by
  rw [Part.setting, Part.settingsList_eq_map, distinct_list_iff, List.forall_mem_map]
  rfl

def KeepsDistinct (change : Change) : Prop :=
  ∀ ⦃origin parts changed entries⦄, Distinct parts →
    change origin parts = some (changed, entries) → Distinct entries

theorem keepsDistinct_within {made : Origin} {change : Change} (hchange : KeepsDistinct change)
    (path : List String) : KeepsDistinct (within made change path) := by
  induction path with
  | nil => exact hchange
  | cons name path ih =>
      intro origin parts changed entries hparts hwithin
      unfold within at hwithin
      split at hwithin
      case h_1 =>
        obtain ⟨⟨inner, held⟩, hinner, hresult⟩ := Option.bind_eq_some_iff.mp hwithin
        cases hresult
        exact distinct_insert hparts (ih distinct_nil hinner)
      case h_2 hfound =>
        split at hwithin
        · cases hwithin
        · obtain ⟨⟨inner, held⟩, hinner, hresult⟩ := Option.bind_eq_some_iff.mp hwithin
          cases hresult
          exact distinct_insert hparts (ih (distinct_setting_of_find? hparts hfound) hinner)
      case h_3 all hfound =>
        have hall := distinct_setting_tables_iff.mp (distinct_setting_of_find? hparts hfound)
        obtain ⟨last, hlast, hwithin⟩ := Option.bind_eq_some_iff.mp hwithin
        obtain ⟨⟨inner, held⟩, hinner, hresult⟩ := Option.bind_eq_some_iff.mp hwithin
        cases hresult
        apply distinct_insert hparts
        apply distinct_setting_tables_iff.mpr
        intro table htable
        rcases List.mem_append.mp htable with hbefore | hnew
        · exact hall table (List.dropLast_subset _ hbefore)
        · cases List.mem_singleton.mp hnew
          exact ih (hall last (List.mem_of_getLast? hlast)) hinner
      · cases hwithin

theorem distinct_of_atHeader {path : List String} {change : Parts → Option Parts}
    {parts changed : Parts}
    (hchange : ∀ parts changed, Distinct parts → change parts = some changed → Distinct changed)
    (hparts : Distinct parts) (hheader : atHeader path change parts = some changed) :
    Distinct changed := by
  obtain ⟨⟨origin, entries⟩, hwithin, rfl⟩ := Option.map_eq_some_iff.mp hheader
  refine keepsDistinct_within ?_ path hparts hwithin
  intro origin parts changed entries hparts hresult
  obtain ⟨held, hheld, hpair⟩ := Option.map_eq_some_iff.mp hresult
  cases hpair
  exact hchange parts _ hparts hheld

theorem distinct_of_define {path : List String} {parts changed : Parts} (hparts : Distinct parts)
    (hdefine : define path parts = some changed) : Distinct changed := by
  obtain ⟨name, -, hheader⟩ := Option.bind_eq_some_iff.mp hdefine
  refine distinct_of_atHeader ?_ hparts hheader
  intro parts changed hparts hresult
  split at hresult
  case h_1 =>
    cases hresult
    exact distinct_insert hparts distinct_table_nil
  case h_2 inner hfound =>
    cases hresult
    have hinner : (Part.table .implied inner).setting.Distinct :=
      distinct_setting_of_find? hparts hfound
    exact distinct_insert hparts hinner
  case h_3 => cases hresult

theorem distinct_of_append {path : List String} {parts changed : Parts} (hparts : Distinct parts)
    (happend : append path parts = some changed) : Distinct changed := by
  obtain ⟨name, -, hheader⟩ := Option.bind_eq_some_iff.mp happend
  refine distinct_of_atHeader ?_ hparts hheader
  intro parts changed hparts hresult
  split at hresult
  case h_1 =>
    cases hresult
    apply distinct_insert hparts
    apply distinct_setting_tables_iff.mpr
    intro table htable
    cases List.mem_singleton.mp htable
    exact distinct_table_nil
  case h_2 all hfound =>
    cases hresult
    have hall := distinct_setting_tables_iff.mp (distinct_setting_of_find? hparts hfound)
    apply distinct_insert hparts
    apply distinct_setting_tables_iff.mpr
    intro table htable
    rcases List.mem_append.mp htable with hbefore | hnew
    · exact hall table hbefore
    · cases List.mem_singleton.mp hnew
      exact distinct_table_nil
  · cases hresult

theorem distinct_of_assign {key : List String} {value : Setting} {parts changed : Parts}
    (hvalue : value.Distinct) (hparts : Distinct parts)
    (hassign : assign key value parts = some changed) : Distinct changed := by
  obtain ⟨name, -, hassign⟩ := Option.bind_eq_some_iff.mp hassign
  obtain ⟨⟨origin, entries⟩, hwithin, rfl⟩ := Option.map_eq_some_iff.mp hassign
  refine keepsDistinct_within ?_ key.dropLast hparts hwithin
  intro origin parts changed entries hparts hresult
  dsimp only at hresult
  split at hresult
  · cases hresult
  · cases hresult
    exact distinct_insert hparts hvalue

end Parts

/-! ### Values -/

theorem distinct_of_word? {cs : List Char} {setting : Setting} (hword : word? cs = some setting) :
    Setting.Distinct setting := by
  unfold word? at hword
  split at hword
  · cases hword
    exact .bool true
  · split at hword
    · cases hword
      exact .bool false
    · split at hword
      · cases hword
        exact .integer _
      · cases hword
        exact .double _
      · obtain ⟨text, -, rfl⟩ := Option.map_eq_some_iff.mp hword
        exact .text _

theorem gives_word : Gives word Setting.Distinct := by
  intro cs setting rest hread
  unfold word at hread
  dsimp only at hread
  split at hread
  · split at hread
    · obtain ⟨value, hvalue, hpair⟩ := Option.bind_eq_some_iff.mp hread
      cases hpair
      exact distinct_of_word? hvalue
    · exact distinct_of_word? (eq_some_of_map_pair hread)
  · exact distinct_of_word? (eq_some_of_map_pair hread)

theorem gives_pair {value : Reader Setting} (hvalue : Gives value Setting.Distinct) :
    Gives (pair value) fun entry => Setting.Distinct entry.2 := by
  intro cs entry rest hread
  obtain ⟨⟨names, after⟩, -, hread⟩ := Option.bind_eq_some_iff.mp hread
  dsimp only at hread
  split at hread
  · obtain ⟨⟨setting, after⟩, hsetting, hpair⟩ := Option.bind_eq_some_iff.mp hread
    cases hpair
    exact hvalue hsetting
  · cases hread

theorem distinct_of_inlineTable {pairs : List (List String × Setting)} {setting : Setting}
    (hpairs : ∀ entry ∈ pairs, Setting.Distinct entry.2)
    (htable : inlineTable pairs = some setting) : Setting.Distinct setting := by
  obtain ⟨parts, hparts, hsetting⟩ := Option.bind_eq_some_iff.mp htable
  cases hsetting
  refine foldlM_keeps (P := Parts.Distinct) ?_ Parts.distinct_nil hparts
  intro entry hentry parts changed hheld hassign
  exact Parts.distinct_of_assign (hpairs entry hentry) hheld hassign

theorem gives_value_of_inner {bound depth : Nat}
    (hinner : ∀ inner, depth = inner + 1 → Gives (value bound inner) Setting.Distinct) :
    Gives (value bound depth) Setting.Distinct := by
  intro cs setting rest hread
  unfold value at hread
  split at hread
  case h_1 inner =>
    obtain ⟨⟨items, after⟩, hitems, hsetting⟩ := Option.bind_eq_some_iff.mp hread
    cases hsetting
    exact .list (gives_separated (hinner inner rfl) _ _ _ hitems)
  case h_2 inner =>
    obtain ⟨⟨pairs, after⟩, hpairs, hread⟩ := Option.bind_eq_some_iff.mp hread
    obtain ⟨table, htable, hsetting⟩ := Option.bind_eq_some_iff.mp hread
    cases hsetting
    exact distinct_of_inlineTable (gives_separated (gives_pair (hinner inner rfl)) _ _ _ hpairs)
      htable
  case h_3 =>
    split at hread
    · obtain ⟨⟨text, after⟩, -, hsetting⟩ := Option.bind_eq_some_iff.mp hread
      cases hsetting
      exact .text text
    · exact gives_word hread
  case h_4 => cases hread

theorem gives_value (bound depth : Nat) : Gives (value bound depth) Setting.Distinct := by
  induction depth with
  | zero => exact gives_value_of_inner fun inner hdepth => nomatch hdepth
  | succ depth ih =>
      apply gives_value_of_inner
      rintro inner ⟨⟩
      exact ih

/-! ### Lines -/

/-- The step lemma: whatever line comes next, names stay distinct. -/
theorem distinct_of_line {bound : Nat} {draft next : Draft} {cs rest : List Char}
    (hdraft : draft.parts.Distinct) (hline : line bound draft cs = some (next, rest)) :
    next.parts.Distinct := by
  unfold line at hline
  split at hline
  · obtain ⟨⟨path, after⟩, -, hline⟩ := Option.bind_eq_some_iff.mp hline
    dsimp only at hline
    split at hline
    · obtain ⟨parts, hparts, hnext⟩ := Option.bind_eq_some_iff.mp hline
      cases hnext
      exact Parts.distinct_of_append hdraft hparts
    · cases hline
  · obtain ⟨⟨path, after⟩, -, hline⟩ := Option.bind_eq_some_iff.mp hline
    dsimp only at hline
    split at hline
    · obtain ⟨parts, hparts, hnext⟩ := Option.bind_eq_some_iff.mp hline
      cases hnext
      exact Parts.distinct_of_define hdraft hparts
    · cases hline
  · obtain ⟨⟨⟨names, setting⟩, after⟩, hpair, hline⟩ := Option.bind_eq_some_iff.mp hline
    obtain ⟨parts, hparts, hnext⟩ := Option.bind_eq_some_iff.mp hline
    cases hnext
    refine Parts.distinct_of_atHeader ?_ hdraft hparts
    intro parts changed hheld hassign
    exact Parts.distinct_of_assign (gives_pair (gives_value bound maxDepth) hpair) hheld hassign

theorem distinct_of_lines {bound more : Nat} {draft read : Draft} {cs : List Char}
    (hdraft : draft.parts.Distinct) (hlines : lines bound more draft cs = some read) :
    read.parts.Distinct := by
  induction more generalizing draft cs with
  | zero => cases hlines
  | succ more ih =>
      obtain ⟨skipped, -, hlines⟩ := Option.bind_eq_some_iff.mp hlines
      split at hlines
      · cases hlines
        exact hdraft
      · obtain ⟨⟨next, after⟩, hline, hlines⟩ := Option.bind_eq_some_iff.mp hlines
        obtain ⟨rest, -, hlines⟩ := Option.bind_eq_some_iff.mp hlines
        exact ih (distinct_of_line hdraft hline) hlines

theorem distinct_of_read? {text : String} {setting : Setting} (hread : read? text = some setting) :
    Setting.Distinct setting := by
  obtain ⟨draft, hdraft, hsetting⟩ := Option.bind_eq_some_iff.mp hread
  cases hsetting
  refine distinct_of_lines ?_ hdraft
  exact Parts.distinct_nil

end Toml

end SigilLookup
