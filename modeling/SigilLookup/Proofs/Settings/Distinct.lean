import SigilLookup.Proofs.Settings.Layering
import SigilLookup.Text.Split

/-!
# Values whose tables have distinct names

A table is a list of entries, and nothing in its type keeps a name from coming twice. Were there
such a table in a file, laying it over nothing would change it: what came first would be replaced,
and tables of one name would be joined. `Setting.Distinct` says that there is none in a value, and a
value of this kind stays as it is (`Setting.Distinct.laidOver_nothing`). So a file alone, with
nothing but plain names, is the table that was read from it (`Setting.ofLayers_singleton`).
-/

namespace SigilLookup

namespace Setting

/-- In every table within a value the names are distinct. -/
inductive Distinct : Setting → Prop
  | nothing : Distinct .nothing
  | bool (value : Bool) : Distinct (.bool value)
  | integer (value : Int) : Distinct (.integer value)
  | double (value : Double) : Distinct (.double value)
  | text (value : String) : Distinct (.text value)
  | list {items : List Setting} (hitems : ∀ item ∈ items, Distinct item) : Distinct (.list items)
  | table {entries : List (String × Setting)} (hnames : (Entries.names entries).Nodup)
      (hvalues : ∀ entry ∈ entries, Distinct entry.2) : Distinct (.table entries)

theorem distinct_list_iff {items : List Setting} :
    Distinct (.list items) ↔ ∀ item ∈ items, Distinct item := by
  refine ⟨?_, .list⟩
  rintro (_ | _ | _ | _ | _ | hitems)
  exact hitems

theorem distinct_table_iff {entries : List (String × Setting)} :
    Distinct (.table entries) ↔
      (Entries.names entries).Nodup ∧ ∀ entry ∈ entries, Distinct entry.2 := by
  refine ⟨?_, fun ⟨hnames, hvalues⟩ => .table hnames hvalues⟩
  rintro (_ | _ | _ | _ | _ | _ | ⟨hnames, hvalues⟩)
  exact ⟨hnames, hvalues⟩

theorem distinct_table_nil : Distinct (.table []) :=
  .table .nil fun _ hentry => absurd hentry List.not_mem_nil

theorem distinct_table_insert {name : String} {value : Setting}
    {entries : List (String × Setting)} (htable : Distinct (.table entries))
    (hvalue : Distinct value) : Distinct (.table (Entries.insert name value entries)) := by
  obtain ⟨hnames, hvalues⟩ := distinct_table_iff.mp htable
  refine .table (Entries.nodup_names_insert hnames) ?_
  intro entry hentry
  rcases Entries.mem_insert hentry with rfl | hentry
  · exact hvalue
  · exact hvalues entry hentry

theorem distinct_table_ofList {entries : List (String × Setting)}
    (hvalues : ∀ entry ∈ entries, Distinct entry.2) :
    Distinct (.table (OrderedMap.ofList entries).entries) :=
  .table (OrderedMap.distinct _)
    fun entry hentry => hvalues entry (OrderedMap.mem_of_mem_ofList hentry)

/-! ### Over nothing -/

theorem overEntries_of_nodup {below entries : List (String × Setting)}
    (hnames : (Entries.names (below ++ entries)).Nodup)
    (hvalues : ∀ entry ∈ entries, entry.2.laidOver .nothing = entry.2) :
    overEntries entries below = below ++ entries := by
  induction entries generalizing below with
  | nil => rw [overEntries, List.append_nil]
  | cons entry rest ih =>
      obtain ⟨name, value⟩ := entry
      have hnew : name ∉ Entries.names below := Entries.notMem_names_of_nodup_append hnames
      have hvalue : value.laidOver .nothing = value := hvalues (name, value) List.mem_cons_self
      have hsplit : below ++ (name, value) :: rest = (below ++ [(name, value)]) ++ rest := by simp
      rw [hsplit] at hnames ⊢
      rw [overEntries, Entries.find?_eq_none_iff.mpr hnew, Option.getD_none, hvalue,
        Entries.insert_of_notMem value hnew]
      exact ih hnames fun entry hentry => hvalues entry (.tail _ hentry)

theorem Distinct.laidOver_nothing {value : Setting} (hvalue : Distinct value) :
    value.laidOver .nothing = value := by
  induction hvalue with
  | @table entries hnames _ ih =>
      cases entries with
      | nil => rfl
      | cons entry rest =>
          rw [laidOver]
          congr 1
          exact overEntries_of_nodup hnames ih
  | _ => rfl

/-- A file with plain names and nothing below it is what was read from it. -/
theorem ofLayers_singleton {entries : List (String × Setting)} (htable : Distinct (.table entries))
    (hplain : ∀ name ∈ Entries.names entries, IsStep name) :
    ofLayers [entries] = .table entries := by
  obtain ⟨hnames, hvalues⟩ := distinct_table_iff.mp htable
  -- with what the first entries have made: they are where the rest goes to the end
  have hlayer : ∀ rest below : List (String × Setting), below ++ rest = entries →
      layer (.table below) rest = .table entries := by
    intro rest
    induction rest with
    | nil =>
        intro below hsplit
        rw [← hsplit, List.append_nil]
        rfl
    | cons entry rest ih =>
        obtain ⟨name, value⟩ := entry
        intro below hsplit
        have hentry : (name, value) ∈ entries := by simp [← hsplit]
        have hnew : name ∉ Entries.names below := by
          apply Entries.notMem_names_of_nodup_append
          rw [hsplit]
          exact hnames
        have hstep : stepsOf name = [.entry name] :=
          hplain name (List.mem_map_of_mem hentry)
        have hput : put value (stepsOf name) (.table below) =
            .table (below ++ [(name, value)]) := by
          have hvalue := (hvalues _ hentry).laidOver_nothing
          have hfound : Entries.find? name below = none := Entries.find?_eq_none_iff.mpr hnew
          rw [hstep]
          simp only [put, entriesOrNone, entries?, Option.getD_some, hfound, Option.getD_none]
          rw [hvalue, Entries.insert_of_notMem value hnew]
        change layer (put value (stepsOf name) (.table below)) rest = _
        rw [hput]
        apply ih
        simpa using hsplit
  exact hlayer entries [] rfl

end Setting

end SigilLookup
