import SigilLookup.Proofs.Document.Members
import SigilLookup.Proofs.Settings.Distinct
import SigilLookup.Settings.Format

/-!
# What the readers of settings files give

However often a name is written, a reader gives a table whose names are distinct, and so are those
of every table in it (`Setting.Distinct`). Here this is shown for JSON, JSON5, RON and INI, where a
table comes to be by insertion, name by name. A reader is followed through what it may give, not
through the characters it passes over: `Reading.Gives` says what holds of everything that a reader
gives, and each way to put readers together hands it on.
-/

namespace SigilLookup

namespace Reading

variable {α : Type}

/-- Everything that a reader gives has a property. -/
def Gives (reader : Reader α) (P : α → Prop) : Prop :=
  ∀ ⦃cs value rest⦄, reader cs = some (value, rest) → P value

theorem eq_some_of_map_pair {read : Option α} {value : α} {rest after : List Char}
    (hread : read.map (·, after) = some (value, rest)) : read = some value := by
  obtain ⟨other, hother, hpair⟩ := Option.map_eq_some_iff.mp hread
  cases hpair
  exact hother

theorem gives_separated {P : α → Prop} {item : Reader α} (hitem : Gives item P)
    (skip : List Char → Option (List Char)) (closing : Char) (bound : Nat) :
    Gives (separated skip item closing bound []) fun items => ∀ value ∈ items, P value := by
  have hgeneral : ∀ (bound : Nat) (read : List α), (∀ value ∈ read, P value) →
      Gives (separated skip item closing bound read) fun items => ∀ value ∈ items, P value := by
    intro bound
    induction bound with
    | zero =>
        intro read _ cs items rest hread
        cases hread
    | succ bound ih =>
        intro read hvalues cs items rest hread
        simp only [separated, Option.bind_eq_bind, Option.bind_eq_some_iff] at hread
        obtain ⟨skipped, -, hread⟩ := hread
        split at hread
        · cases hread
        · split at hread
          · cases hread
            simpa using hvalues
          · obtain ⟨⟨value, after⟩, hvalue, hread⟩ := Option.bind_eq_some_iff.mp hread
            have hmore : ∀ other ∈ value :: read, P other := by
              intro other hother
              rcases List.mem_cons.mp hother with rfl | hother
              · exact hitem hvalue
              · exact hvalues other hother
            obtain ⟨skipped, -, hread⟩ := Option.bind_eq_some_iff.mp hread
            split at hread
            · cases hread
            · split at hread
              · exact ih _ hmore hread
              · split at hread
                · cases hread
                  intro other hother
                  exact hmore other (List.mem_reverse.mp hother)
                · cases hread
  exact hgeneral bound [] fun value hvalue => nomatch hvalue

end Reading

/-- What every step of a run keeps holds at its end. -/
theorem foldlM_keeps {σ α : Type} {P : σ → Prop} {step : σ → α → Option σ} {items : List α}
    (hstep : ∀ item ∈ items, ∀ state next, P state → step state item = some next → P next)
    {start final : σ} (hstart : P start) (hrun : items.foldlM step start = some final) :
    P final := by
  induction items generalizing start with
  | nil =>
      cases hrun
      exact hstart
  | cons item rest ih =>
      rw [List.foldlM_cons] at hrun
      obtain ⟨next, hnext, hrest⟩ := Option.bind_eq_some_iff.mp hrun
      refine ih (fun other hother => hstep other (.tail _ hother)) ?_ hrest
      exact hstep item List.mem_cons_self start next hstart hnext

open Reading Setting

/-! ### JSON -/

namespace Members

theorem mem_insert {α : Type} {name : String} {value : α} {members : List (String × α)}
    {member : String × α} (hmem : member ∈ insert name value members) :
    member = (name, value) ∨ member ∈ members := by
  induction members with
  | nil => exact .inl (List.mem_singleton.mp hmem)
  | cons first rest ih =>
      unfold insert at hmem
      split at hmem
      · exact (List.mem_cons.mp hmem).imp_right (.tail _)
      · split at hmem
        · exact List.mem_cons.mp hmem
        · rcases List.mem_cons.mp hmem with rfl | hrest
          · exact .inr List.mem_cons_self
          · exact (ih hrest).imp_right (.tail _)

theorem mem_ofList {α : Type} {members : List (String × α)} {member : String × α}
    (hmem : member ∈ ofList members) : member ∈ members := by
  have hall : ∀ other ∈ ofList members, other ∈ members := by
    refine List.foldlRecOn (motive := fun sorted => ∀ other ∈ sorted, other ∈ members) _ _ ?_ ?_
    · exact fun other hother => absurd hother List.not_mem_nil
    · intro sorted hsorted first hfirst other hother
      rcases mem_insert hother with rfl | hother
      · exact hfirst
      · exact hsorted other hother
  exact hall member hmem

end Members

namespace Setting

theorem ofJsonItems_eq_map (items : List Json) : ofJsonItems items = items.map ofJson := by
  induction items with
  | nil => rfl
  | cons item rest ih => rw [ofJsonItems, ih, List.map_cons]

theorem ofJsonMembers_eq_map (members : List (String × Json)) :
    ofJsonMembers members = members.map fun member => (member.1, ofJson member.2) := by
  induction members with
  | nil => rfl
  | cons member rest ih => rw [ofJsonMembers, ih, List.map_cons]

mutual

theorem distinct_ofJson_canonical : (document : Json) → Distinct (ofJson document.canonical)
  | .null => .nothing
  | .bool value => .bool value
  | .num (.int value _) => .integer value
  | .num (.float value) => .double (.finite value)
  | .str value => .text value
  | .arr items => by
      rw [Json.canonical, ofJson, ofJsonItems_eq_map]
      apply Distinct.list
      intro item hitem
      obtain ⟨value, hvalue, rfl⟩ := List.mem_map.mp hitem
      exact distinct_ofJson_of_mem_canonicalItems items value hvalue
  | .obj members => by
      rw [Json.canonical, ofJson, ofJsonMembers_eq_map]
      apply Distinct.table
      · rw [Entries.names_map]
        exact (Members.ascending_ofList _).nodup
      · intro entry hentry
        obtain ⟨member, hmember, rfl⟩ := List.mem_map.mp hentry
        exact distinct_ofJson_of_mem_canonicalMembers members member (Members.mem_ofList hmember)

theorem distinct_ofJson_of_mem_canonicalItems : (items : List Json) →
    ∀ item ∈ Json.canonicalItems items, Distinct (ofJson item)
  | [] => fun _ hitem => nomatch hitem
  | first :: rest => by
      intro item hitem
      rcases List.mem_cons.mp hitem with rfl | hrest
      · exact distinct_ofJson_canonical first
      · exact distinct_ofJson_of_mem_canonicalItems rest item hrest

theorem distinct_ofJson_of_mem_canonicalMembers : (members : List (String × Json)) →
    ∀ member ∈ Json.canonicalMembers members, Distinct (ofJson member.2)
  | [] => fun _ hmember => nomatch hmember
  | (name, first) :: rest => by
      intro member hmember
      rcases List.mem_cons.mp hmember with rfl | hrest
      · exact distinct_ofJson_canonical first
      · exact distinct_ofJson_of_mem_canonicalMembers rest member hrest

end

end Setting

/-! ### JSON5 -/

namespace Json5

theorem distinct_ofInteger (value : Int) : Distinct (ofInteger value) := by
  unfold ofInteger
  split
  · exact .integer value
  · exact .double _

theorem distinct_of_decimal? {negative : Bool} {cs : List Char} {setting : Setting}
    (hread : decimal? negative cs = some setting) : Distinct setting := by
  unfold decimal? at hread
  split at hread
  · cases hread
  · split at hread
    · obtain ⟨value, -, rfl⟩ := Option.map_eq_some_iff.mp hread
      exact distinct_ofInteger _
    · obtain ⟨value, -, rfl⟩ := Option.map_eq_some_iff.mp hread
      exact .double value

theorem distinct_of_unsigned? {negative : Bool} {cs : List Char} {setting : Setting}
    (hread : unsigned? negative cs = some setting) : Distinct setting := by
  unfold unsigned? at hread
  split at hread
  · cases hread
    exact .double _
  · split at hread
    · obtain ⟨magnitude, -, hread⟩ := Option.bind_eq_some_iff.mp hread
      obtain ⟨-, hread⟩ := Option.ite_none_right_eq_some.mp hread
      rw [← Option.some.inj hread]
      exact distinct_ofInteger _
    · exact distinct_of_decimal? hread
  · exact distinct_of_decimal? hread

theorem gives_number : Gives number Distinct := by
  intro cs setting rest hread
  unfold number at hread
  dsimp only at hread
  split at hread
  · split_ifs at hread
    · exact distinct_of_unsigned? (eq_some_of_map_pair hread)
    · exact distinct_of_unsigned? (eq_some_of_map_pair hread)
  · exact distinct_of_unsigned? (eq_some_of_map_pair hread)

theorem gives_member {value : Reader Setting} (hvalue : Gives value Distinct) :
    Gives (member value) fun entry => Distinct entry.2 := by
  intro cs entry rest hread
  simp only [member, Option.bind_eq_bind, Option.bind_eq_some_iff] at hread
  obtain ⟨⟨name, after⟩, -, skipped, -, hread⟩ := hread
  split at hread
  · obtain ⟨skipped, -, ⟨setting, after⟩, hsetting, hentry⟩ := by
      simpa only [Option.bind_eq_some_iff] using hread
    cases hentry
    exact hvalue hsetting
  · cases hread

theorem gives_value_of_inner {bound depth : Nat}
    (hinner : ∀ inner, depth = inner + 1 → Gives (value bound inner) Distinct) :
    Gives (value bound depth) Distinct := by
  intro cs setting rest hread
  unfold value at hread
  split at hread
  case h_1 =>
    cases hread
    exact .nothing
  case h_2 =>
    cases hread
    exact .bool true
  case h_3 =>
    cases hread
    exact .bool false
  case h_4 inner =>
    obtain ⟨⟨items, after⟩, hitems, hsetting⟩ := Option.bind_eq_some_iff.mp hread
    cases hsetting
    exact .list (gives_separated (hinner inner rfl) _ _ _ hitems)
  case h_5 inner =>
    obtain ⟨⟨members, after⟩, hmembers, hsetting⟩ := Option.bind_eq_some_iff.mp hread
    cases hsetting
    rw [tableOf, ← OrderedMap.entries_ofList]
    exact distinct_table_ofList (gives_separated (gives_member (hinner inner rfl)) _ _ _ hmembers)
  case h_6 =>
    split at hread
    · obtain ⟨⟨text, after⟩, -, hsetting⟩ := Option.bind_eq_some_iff.mp hread
      cases hsetting
      exact .text text
    · exact gives_number hread
  case h_7 => cases hread

theorem gives_value (bound depth : Nat) : Gives (value bound depth) Distinct := by
  induction depth with
  | zero => exact gives_value_of_inner fun inner hdepth => nomatch hdepth
  | succ depth ih =>
      apply gives_value_of_inner
      rintro inner ⟨⟩
      exact ih

theorem distinct_of_read? {text : String} {setting : Setting} (hread : read? text = some setting) :
    Distinct setting := by
  simp only [read?, Option.bind_eq_bind, Option.bind_eq_some_iff] at hread
  obtain ⟨start, -, ⟨value, rest⟩, hvalue, skipped, -, hread⟩ := hread
  obtain ⟨-, hsetting⟩ := Option.ite_none_right_eq_some.mp hread
  cases hsetting
  exact gives_value _ _ hvalue

end Json5

/-! ### RON -/

namespace Ron

theorem gives_number : Gives number Distinct := by
  intro cs setting rest hread
  unfold number at hread
  split at hread
  · cases hread
    exact .double _
  · cases hread
    exact .integer _
  · dsimp only at hread
    split at hread
    · cases hread
      exact .integer _
    · cases hread
      exact .double _
    · cases hread

theorem distinct_start {start : Option Setting} (hstart : ∀ value ∈ start, Distinct value) :
    Distinct (.table (start.map (endpoint "start")).toList) := by
  cases start with
  | none => exact distinct_table_nil
  | some value => exact distinct_table_insert distinct_table_nil (hstart value rfl)

/-- The ends of a range have names of their own. -/
theorem gives_rangeRest {start : Option Setting} (hstart : ∀ value ∈ start, Distinct value) :
    Gives (rangeRest start) Distinct := by
  intro cs setting rest hread
  have hends : ∀ value, Distinct value → Distinct
      (.table ((start.map (endpoint "start")).toList ++ [endpoint "end" value])) := by
    intro value hvalue
    have hnew : "end" ∉ Entries.names (start.map (endpoint "start")).toList := by
      cases start <;> simp [Entries.names, endpoint]
    rw [endpoint, ← Entries.insert_of_notMem value hnew]
    exact distinct_table_insert (distinct_start hstart) hvalue
  unfold rangeRest at hread
  generalize (if cs.head? = some '=' then cs.drop 1 else cs) = skipped at hread
  dsimp only at hread
  split at hread
  · obtain ⟨⟨value, after⟩, hvalue, hpair⟩ := Option.map_eq_some_iff.mp hread
    cases hpair
    exact hends value (gives_number hvalue)
  · split at hread
    · cases hread
    · cases hread
      exact distinct_start hstart

theorem gives_numeric : Gives numeric Distinct := by
  intro cs setting rest hread
  unfold numeric at hread
  split at hread
  case h_1 =>
    exact gives_rangeRest (fun value hvalue => absurd hvalue (Option.not_mem_none value)) hread
  case h_2 =>
    split at hread
    case h_1 hnumber =>
      refine gives_rangeRest ?_ hread
      intro value hvalue
      cases hvalue
      exact gives_number hnumber
    case h_2 => exact gives_number hread

theorem gives_scalar : Gives scalar Distinct := by
  intro cs setting rest hread
  unfold scalar at hread
  split at hread
  · cases hread
    split
    · exact .nothing
    · exact .bool _
  · cases hread
    exact .text _
  · cases hread
    exact .text _
  · cases hread
    apply Distinct.list
    intro item hitem
    obtain ⟨byte, -, rfl⟩ := List.mem_map.mp hitem
    exact .integer _
  · split at hread
    · exact gives_numeric hread
    · split at hread
      · cases hread
        exact .nothing
      · obtain ⟨⟨name, after⟩, -, hread⟩ := Option.bind_eq_some_iff.mp hread
        obtain ⟨skipped, -, hread⟩ := Option.bind_eq_some_iff.mp hread
        split at hread
        · cases hread
        · cases hread
          exact .nothing

theorem gives_valueAfterColon {value : Reader Setting} (hvalue : Gives value Distinct) :
    Gives (valueAfterColon value) Distinct := by
  intro cs setting rest hread
  obtain ⟨skipped, -, hread⟩ := Option.bind_eq_some_iff.mp hread
  split at hread
  · obtain ⟨after, -, hread⟩ := Option.bind_eq_some_iff.mp hread
    exact hvalue hread
  · cases hread

theorem gives_field {value : Reader Setting} (hvalue : Gives value Distinct) :
    Gives (field value) fun entry => Distinct entry.2 := by
  intro cs entry rest hread
  simp only [field, Option.bind_eq_bind, Option.bind_eq_some_iff] at hread
  obtain ⟨⟨name, after⟩, -, ⟨setting, end'⟩, hsetting, hentry⟩ := hread
  cases hentry
  exact gives_valueAfterColon hvalue hsetting

theorem gives_entry {value : Reader Setting} (hvalue : Gives value Distinct) :
    Gives (entry value) fun entry => Distinct entry.2 := by
  intro cs entry rest hread
  simp only [Ron.entry, Option.bind_eq_bind, Option.bind_eq_some_iff] at hread
  obtain ⟨⟨key, after⟩, -, ⟨setting, end'⟩, hsetting, hentry⟩ := hread
  cases hentry
  exact gives_valueAfterColon hvalue hsetting

theorem gives_grouped {value : Reader Setting} (hvalue : Gives value Distinct) (bound : Nat) :
    Gives (grouped bound value) Distinct := by
  intro cs setting rest hread
  unfold grouped at hread
  split at hread
  · obtain ⟨⟨fields, after⟩, hfields, hsetting⟩ := Option.bind_eq_some_iff.mp hread
    cases hsetting
    rw [tableOf, ← OrderedMap.entries_ofList]
    exact distinct_table_ofList (gives_separated (gives_field hvalue) _ _ _ hfields)
  · obtain ⟨⟨items, after⟩, hitems, hsetting⟩ := Option.bind_eq_some_iff.mp hread
    cases hsetting
    exact .list (gives_separated hvalue _ _ _ hitems)

theorem gives_afterSome {value part : Reader Setting} (hvalue : Gives value Distinct)
    (hpart : Gives part Distinct) (extensions : Extensions) (bound : Nat) :
    Gives (afterSome extensions bound value part) Distinct := by
  intro cs setting rest hread
  obtain ⟨skipped, -, hread⟩ := Option.bind_eq_some_iff.mp hread
  split at hread
  · split at hread
    · exact gives_grouped hpart bound hread
    · obtain ⟨after, -, hread⟩ := Option.bind_eq_some_iff.mp hread
      split at hread
      · cases hread
        exact .nothing
      · obtain ⟨⟨held, after⟩, hheld, hread⟩ := Option.bind_eq_some_iff.mp hread
        obtain ⟨closed, -, hsetting⟩ := Option.bind_eq_some_iff.mp hread
        cases hsetting
        exact hvalue hheld
  · split at hread
    · exact hvalue hread
    · cases hread

theorem gives_compound {value element part : Reader Setting} (hvalue : Gives value Distinct)
    (helement : Gives element Distinct) (hpart : Gives part Distinct) (extensions : Extensions)
    (bound : Nat) : Gives (compound extensions bound value element part) Distinct := by
  intro cs setting rest hread
  unfold compound at hread
  split at hread
  · obtain ⟨⟨items, after⟩, hitems, hsetting⟩ := Option.bind_eq_some_iff.mp hread
    cases hsetting
    exact .list (gives_separated helement _ _ _ hitems)
  · obtain ⟨⟨entries, after⟩, hentries, hsetting⟩ := Option.bind_eq_some_iff.mp hread
    cases hsetting
    rw [tableOf, ← OrderedMap.entries_ofList]
    exact distinct_table_ofList (gives_separated (gives_entry helement) _ _ _ hentries)
  · split at hread
    · exact gives_scalar hread
    · exact gives_grouped helement bound hread
  · split at hread
    · exact gives_afterSome hvalue hpart extensions bound hread
    · split at hread
      · exact gives_grouped helement bound hread
      · exact gives_scalar hread
    · exact gives_scalar hread

theorem gives_tooDeep : Gives tooDeep Distinct := fun _ _ _ hread => nomatch hread

/-- The induction is on the steps down, three of which may lie between a value and what it holds. -/
theorem gives_value (extensions : Extensions) (bound : Nat) :
    (steps : Nat) → Gives (value extensions bound steps) Distinct
  | 0 => gives_scalar
  | 1 =>
    gives_compound (gives_value extensions bound 0) gives_tooDeep gives_tooDeep extensions bound
  | 2 =>
    gives_compound (gives_value extensions bound 1) (gives_value extensions bound 0) gives_tooDeep
      extensions bound
  | steps + 3 =>
    gives_compound (gives_value extensions bound (steps + 2))
      (gives_value extensions bound (steps + 1)) (gives_value extensions bound steps) extensions
      bound

theorem distinct_of_read? {text : String} {setting : Setting} (hread : read? text = some setting) :
    Distinct setting := by
  simp only [read?, Option.bind_eq_bind, Option.bind_eq_some_iff] at hread
  obtain ⟨⟨extensions, start⟩, -, ⟨value, rest⟩, hvalue, skipped, -, hread⟩ := hread
  obtain ⟨-, hsetting⟩ := Option.ite_none_right_eq_some.mp hread
  cases hsetting
  exact gives_value _ _ _ hvalue

end Ron

/-! ### INI -/

namespace Ini

namespace Draft

def Distinct (draft : Draft) : Prop :=
  ∀ part ∈ draft.sections, Setting.Distinct (.table part.2)

theorem distinct_property {draft : Draft} (hdraft : draft.Distinct) (key value : String) :
    (draft.property key value).Distinct := by
  unfold property
  split
  case h_1 name entries hlast =>
    intro part hpart
    rcases List.mem_append.mp hpart with hbefore | hnew
    · exact hdraft part (List.dropLast_subset _ hbefore)
    · cases List.mem_singleton.mp hnew
      exact distinct_table_insert (hdraft _ (List.mem_of_getLast? hlast)) (.text value)
  case h_2 =>
    intro part hpart
    cases List.mem_singleton.mp hpart
    exact distinct_table_insert distinct_table_nil (.text value)

theorem distinct_header {draft : Draft} (hdraft : draft.Distinct) (name : String) :
    (draft.header name).Distinct := by
  intro part hpart
  rcases List.mem_append.mp hpart with hbefore | hnew
  · exact hdraft part hbefore
  · cases List.mem_singleton.mp hnew
    exact distinct_table_nil

theorem distinct_setting {draft : Draft} (hdraft : draft.Distinct) :
    Setting.Distinct draft.setting := by
  refine List.foldlRecOn (motive := fun names => Setting.Distinct (.table names)) _ _
    distinct_table_nil ?_
  rintro names hnames ⟨name, entries⟩ hpart
  have hentries := hdraft _ hpart
  cases name with
  | none => exact hentries
  | some name => exact distinct_table_insert hnames hentries

end Draft

theorem distinct_of_parts {bound : Nat} {draft read : Draft} {atLineStart : Bool} {cs : List Char}
    (hdraft : draft.Distinct) (hread : parts bound draft atLineStart cs = some read) :
    read.Distinct := by
  induction bound generalizing draft atLineStart cs with
  | zero => cases hread
  | succ bound ih =>
      unfold parts at hread
      split at hread
      · cases hread
        exact hdraft
      · split at hread
        · split at hread
          · exact ih hdraft hread
          · cases hread
        · split at hread
          · obtain ⟨⟨name, after⟩, -, hread⟩ := Option.bind_eq_some_iff.mp hread
            exact ih (Draft.distinct_header hdraft _) hread
          · dsimp only at hread
            split at hread
            · split at hread
              · exact ih hdraft hread
              · cases hread
            · split at hread
              · cases hread
              · obtain ⟨⟨text, after⟩, -, hread⟩ := Option.bind_eq_some_iff.mp hread
                exact ih (Draft.distinct_property hdraft _ _) hread

theorem distinct_of_read? {text : String} {setting : Setting} (hread : read? text = some setting) :
    Distinct setting := by
  obtain ⟨draft, hdraft, rfl⟩ := Option.map_eq_some_iff.mp hread
  apply Draft.distinct_setting
  exact distinct_of_parts (fun part hpart => absurd hpart List.not_mem_nil) hdraft

end Ini

end SigilLookup
