import SigilLookup.FileSystem.Listing
import SigilLookup.Proofs.Decimal.Numeral
import SigilLookup.Proofs.Path.Order
import SigilLookup.Proofs.Settings.Layering

/-!
# Lists of paths in the environment

A variable of a list of paths holds the paths with commas between them. What it holds is read as a
truth value or a number first, where it is spelled like one, and split at the commas only otherwise.
No spelling of a truth value or a number has a comma in it (`Environment.comma_notMem_of_isScalar`),
so two or more paths are always read back as they were given. A single path is not if it is spelled
like one of these: it becomes a scalar, which is no list, and nothing can be loaded
(`Settings.environment_list_read_back`).
-/

namespace SigilLookup

/-! ### No comma in a number -/

namespace Numeral

theorem comma_notMem_of_cons {c : Char} {rest : List Char} (hc : c ≠ ',') (hrest : ',' ∉ rest) :
    ',' ∉ c :: rest := by
  intro hcomma
  rcases List.mem_cons.mp hcomma with heq | hmem
  · exact hc heq.symm
  · exact hrest hmem

theorem comma_notMem_of_natural? {base value : Nat} {cs : List Char}
    (hread : natural? base cs = some value) : ',' ∉ cs := by
  intro hcomma
  have hdigit := digitValue?_isSome_of_natural? hread _ hcomma
  revert hdigit
  decide

theorem comma_notMem_of_integer? {base : Nat} {least greatest value : Int} {cs : List Char}
    (hread : integer? base least greatest cs = some value) : ',' ∉ cs := by
  unfold integer? at hread
  split at hread
  · obtain ⟨signed, hsigned, -⟩ := Option.bind_eq_some_iff.mp hread
    obtain ⟨magnitude, hmagnitude, -⟩ := Option.map_eq_some_iff.mp hsigned
    obtain ⟨natural, hnatural, -⟩ := Option.bind_eq_some_iff.mp hmagnitude
    exact comma_notMem_of_cons (by decide) (comma_notMem_of_natural? hnatural)
  · obtain ⟨signed, hsigned, -⟩ := Option.bind_eq_some_iff.mp hread
    obtain ⟨natural, hnatural, -⟩ := Option.map_eq_some_iff.mp hsigned
    exact comma_notMem_of_cons (by decide) (comma_notMem_of_natural? hnatural)
  · obtain ⟨signed, hsigned, -⟩ := Option.bind_eq_some_iff.mp hread
    obtain ⟨natural, hnatural, -⟩ := Option.map_eq_some_iff.mp hsigned
    exact comma_notMem_of_natural? hnatural

theorem comma_notMem_of_exponent? {cs : List Char} {value : Int}
    (hread : exponent? cs = some value) : ',' ∉ cs := by
  unfold exponent? at hread
  split at hread
  case h_1 => exact List.not_mem_nil
  case h_2 e rest =>
    split at hread
    case isTrue hletter =>
      have he : e ≠ ',' := by
        rintro rfl
        revert hletter
        decide
      apply comma_notMem_of_cons he
      split at hread
      · obtain ⟨magnitude, hmagnitude, -⟩ := Option.map_eq_some_iff.mp hread
        obtain ⟨natural, hnatural, -⟩ := Option.bind_eq_some_iff.mp hmagnitude
        exact comma_notMem_of_cons (by decide) (comma_notMem_of_natural? hnatural)
      · obtain ⟨natural, hnatural, -⟩ := Option.map_eq_some_iff.mp hread
        exact comma_notMem_of_cons (by decide) (comma_notMem_of_natural? hnatural)
      · obtain ⟨natural, hnatural, -⟩ := Option.map_eq_some_iff.mp hread
        exact comma_notMem_of_natural? hnatural
    case isFalse => cases hread

/-- Digits at the start do not matter. -/
theorem comma_notMem_of_dropWhile {cs : List Char} (hrest : ',' ∉ cs.dropWhile Char.isDigit) :
    ',' ∉ cs := by
  rw [← List.takeWhile_append_dropWhile (p := Char.isDigit) (l := cs), List.mem_append]
  rintro (hdigits | hmem)
  · have hdigit := List.mem_takeWhile_imp hdigits
    revert hdigit
    decide
  · exact hrest hmem

theorem comma_notMem_of_decimal? {cs : List Char} {value : Nat × Int}
    (hread : decimal? cs = some value) : ',' ∉ cs := by
  apply comma_notMem_of_dropWhile
  unfold decimal? at hread
  dsimp only at hread
  split at hread
  case h_1 rest hdrop =>
    obtain ⟨-, hread⟩ := Option.ite_none_left_eq_some.mp hread
    obtain ⟨exponent, hexponent, -⟩ := Option.bind_eq_some_iff.mp hread
    rw [hdrop]
    apply comma_notMem_of_cons (by decide)
    exact comma_notMem_of_dropWhile (comma_notMem_of_exponent? hexponent)
  case h_2 =>
    obtain ⟨-, hread⟩ := Option.ite_none_left_eq_some.mp hread
    obtain ⟨exponent, hexponent, -⟩ := Option.bind_eq_some_iff.mp hread
    exact comma_notMem_of_exponent? hexponent

theorem comma_notMem_of_lowered {cs word : List Char} (hlowered : lowered cs = word)
    (hword : ',' ∉ word) : ',' ∉ cs := by
  intro hcomma
  apply hword
  rw [← hlowered]
  exact List.mem_map_of_mem (f := Char.toLower) hcomma

theorem comma_notMem_of_magnitude? {negative : Bool} {cs : List Char} {value : Double}
    (hread : magnitude? negative cs = some value) : ',' ∉ cs := by
  unfold magnitude? at hread
  split at hread
  case isTrue hword =>
    rcases hword with hword | hword
    · exact comma_notMem_of_lowered hword (by decide)
    · exact comma_notMem_of_lowered hword (by decide)
  case isFalse =>
    split at hread
    case isTrue hword => exact comma_notMem_of_lowered hword (by decide)
    case isFalse =>
      obtain ⟨number, hnumber, -⟩ := Option.map_eq_some_iff.mp hread
      exact comma_notMem_of_decimal? hnumber

theorem comma_notMem_of_double? {cs : List Char} {value : Double}
    (hread : double? cs = some value) : ',' ∉ cs := by
  unfold double? at hread
  split at hread
  · exact comma_notMem_of_cons (by decide) (comma_notMem_of_magnitude? hread)
  · exact comma_notMem_of_cons (by decide) (comma_notMem_of_magnitude? hread)
  · exact comma_notMem_of_magnitude? hread

end Numeral

/-! ### What a variable of a list holds -/

/-- The paths that settings have for a field of paths. -/
def Record.Field.paths? : Record.Field → Settings → Option (List Path)
  | .constantsFiles, settings => some settings.constantsFiles
  | .fileConstantsDirs, settings => some settings.fileConstantsDirs
  | _, _ => none

namespace Environment

/-- A text that is spelled like a truth value or a number. -/
def IsScalar (text : String) : Prop :=
  Setting.lowered text = "true" ∨ Setting.lowered text = "false" ∨
    (Numeral.int64? text.toList).isSome ∨ (Numeral.double? text.toList).isSome

instance (text : String) : Decidable (IsScalar text) := by unfold IsScalar; infer_instance

theorem comma_notMem_of_isScalar {text : String} (hscalar : IsScalar text) :
    ',' ∉ text.toList := by
  have hword : ∀ word : String, Setting.lowered text = word → ',' ∉ word.toList →
      ',' ∉ text.toList := by
    intro word hlowered hcomma
    refine Numeral.comma_notMem_of_lowered ?_ hcomma
    rw [← hlowered, Setting.lowered, String.toList_ofList]
  rcases hscalar with htrue | hfalse | hinteger | hdouble
  · exact hword "true" htrue (by decide)
  · exact hword "false" hfalse (by decide)
  · obtain ⟨value, hvalue⟩ := Option.isSome_iff_exists.mp hinteger
    exact Numeral.comma_notMem_of_integer? hvalue
  · obtain ⟨value, hvalue⟩ := Option.isSome_iff_exists.mp hdouble
    exact Numeral.comma_notMem_of_double? hvalue

/-- Texts without commas are what stands between the commas once they are joined. -/
theorem commaList_intercalate {texts : List String} (hnonempty : texts ≠ [])
    (hcommas : ∀ text ∈ texts, ',' ∉ text.toList) :
    commaList (",".intercalate texts) = texts := by
  have hsplit : splitOn ',' (",".intercalate texts).toList = texts.map String.toList := by
    rw [String.toList_intercalate]
    induction texts with
    | nil => exact absurd rfl hnonempty
    | cons first rest ih =>
        have hfirst : ',' ∉ first.toList := hcommas first List.mem_cons_self
        cases rest with
        | nil => simpa using splitOn_of_notMem hfirst
        | cons second more =>
            have hrest := ih (List.cons_ne_nil second more)
              fun text htext => hcommas text (.tail _ htext)
            rw [List.map_cons, List.map_cons, List.intercalate_cons_cons, List.append_assoc]
            change splitOn ',' (first.toList ++ ',' :: _) = _
            rw [splitOn_append_cons, splitOn_of_notMem hfirst]
            exact congrArg (first.toList :: ·) hrest
  rw [commaList, hsplit, List.map_map]
  exact List.map_id'' (fun text => String.ofList_toList) texts

/-- Only a single text may be spelled like a scalar. -/
theorem isScalar_intercalate_iff {texts : List String} (hnonempty : texts ≠ []) :
    IsScalar (",".intercalate texts) ↔ ∃ text, texts = [text] ∧ IsScalar text := by
  constructor
  · intro hscalar
    cases texts with
    | nil => exact absurd rfl hnonempty
    | cons first rest =>
        cases rest with
        | nil => exact ⟨first, rfl, hscalar⟩
        | cons second more =>
            apply absurd _ (comma_notMem_of_isScalar hscalar)
            simp [String.toList_intercalate]
  · rintro ⟨text, rfl, hscalar⟩
    exact hscalar

theorem asPaths?_settingValue_of_isScalar {text : String} (hscalar : IsScalar text)
    (name : String) : (settingValue name text).asPaths? = none := by
  unfold settingValue
  dsimp only
  split
  case isTrue => rfl
  case isFalse htrue =>
    split
    case isTrue => rfl
    case isFalse hfalse =>
      split
      case h_1 => rfl
      case h_2 => rfl
      case h_3 hinteger hdouble =>
        rcases hscalar with hword | hword | hsome | hsome
        · exact absurd hword htrue
        · exact absurd hword hfalse
        · simp [hinteger] at hsome
        · simp [hdouble] at hsome

theorem settingValue_of_not_isScalar {name text : String} (hscalar : ¬ IsScalar text)
    (hname : listFields.contains name) :
    settingValue name text = .list ((commaList text).map .text) := by
  simp only [IsScalar, not_or, Option.not_isSome_iff_eq_none] at hscalar
  obtain ⟨htrue, hfalse, hinteger, hdouble⟩ := hscalar
  simp only [settingValue, if_neg htrue, if_neg hfalse, hinteger, hdouble, if_pos hname]

theorem asPaths?_texts (texts : List String) :
    (Setting.list (texts.map .text)).asPaths? = some (texts.map Path.ofString) := by
  rw [Setting.asPaths?_eq_some_iff]
  refine ⟨_, texts, rfl, ?_, rfl⟩
  rw [List.map_map]
  rfl

end Environment

namespace Record.Field

theorem listFields_contains_label {field : Field} {settings : Settings} {paths : List Path}
    (hpaths : field.paths? settings = some paths) :
    Environment.listFields.contains field.label := by
  cases field
  case grammar => cases hpaths
  case constantsFiles => decide
  case fileConstantsDirs => decide
  case failOnMissingDir => cases hpaths

theorem reads_some_iff {field : Field} {settings : Settings} {paths : List Path}
    (hpaths : field.paths? settings = some paths) (value : Setting) :
    field.Reads settings (some value) ↔ value.asPaths? = some paths := by
  cases field
  case grammar => cases hpaths
  case constantsFiles =>
    cases hpaths
    rfl
  case fileConstantsDirs =>
    cases hpaths
    rfl
  case failOnMissingDir => cases hpaths

theorem converts_iff {field : Field} {settings : Settings} {paths : List Path}
    (hpaths : field.paths? settings = some paths) (value : Setting) :
    field.Converts value ↔ value.asPaths?.isSome := by
  cases field
  case grammar => cases hpaths
  case constantsFiles => rfl
  case fileConstantsDirs => rfl
  case failOnMissingDir => cases hpaths

end Record.Field

namespace Environment

variable {before after : List (String × String)} {envName name text : String}

theorem assignments_append_cons (hname : settingName? envName = some name) :
    assignments (before ++ (envName, text) :: after) =
      assignments before ++ (name, settingValue name text) :: assignments after := by
  simp [assignments, hname]

theorem last?_append_cons (hname : settingName? envName = some name)
    (hafter : name ∉ Entries.names (assignments after)) :
    last? name (before ++ (envName, text) :: after) = some (settingValue name text) := by
  rw [last?, assignments_append_cons hname, Entries.find?_reverse_eq_some_iff]
  exact ⟨_, _, rfl, hafter⟩

theorem member?_append_cons_of_ne {other : String} (hname : settingName? envName = some name)
    (hroot : Setting.root name ≠ other) (entries : List (String × Setting)) :
    Setting.member? other
        (.ofLayers [entries, layer (before ++ (envName, text) :: after)]) =
      Setting.member? other (.ofLayers [entries, layer (before ++ after)]) := by
  apply Setting.member?_layer_congr
  have happend : assignments (before ++ after) = assignments before ++ assignments after :=
    List.filterMap_append
  have hfilter (assigned : List (String × Setting)) :=
    OrderedMap.filter_ofList (fun key => Setting.root key = other) assigned
  rw [layer_eq_ofList, layer_eq_ofList, hfilter, hfilter, assignments_append_cons hname, happend,
    List.filter_append, List.filter_append, List.filter_cons_of_neg (by simpa using hroot)]

/-- The value of a field is that of its variable, if no other variable leads to its root. -/
theorem member?_label_append_cons {field : Record.Field}
    (hrest : ∀ entry ∈ before ++ after, ∀ name, settingName? entry.1 = some name →
      Setting.root name ≠ field.label) (entries : List (String × Setting)) :
    Setting.member? field.label
        (.ofLayers [entries, layer (before ++ (field.envName, text) :: after)]) =
      some (settingValue field.label text) := by
  have hroots : ∀ entry ∈ assignments (before ++ (field.envName, text) :: after),
      Setting.root entry.1 = field.label → entry.1 = field.label := by
    rintro ⟨name, held⟩ hentry hroot
    rw [assignments_append_cons field.settingName?_envName] at hentry
    rcases List.mem_append.mp hentry with hbefore | hentry
    · obtain ⟨envName, value, hmem, hname, -⟩ := mem_assignments_iff.mp hbefore
      exact absurd hroot (hrest _ (List.mem_append_left _ hmem) name hname)
    · rcases List.mem_cons.mp hentry with hsame | hafter
      · exact congrArg Prod.fst hsame
      · obtain ⟨envName, value, hmem, hname, -⟩ := mem_assignments_iff.mp hafter
        exact absurd hroot (hrest _ (List.mem_append_right _ hmem) name hname)
  have hafter : field.label ∉ Entries.names (assignments after) := by
    intro hlabel
    obtain ⟨⟨name, held⟩, hmem, rfl⟩ := List.mem_map.mp hlabel
    obtain ⟨envName, value, hvariable, hname, -⟩ := mem_assignments_iff.mp hmem
    exact hrest _ (List.mem_append_right _ hvariable) _ hname field.isStep_label.root_eq
  rw [Setting.member?_ofLayers_environment field.isStep_label hroots,
    last?_append_cons field.settingName?_envName hafter]
  rfl

end Environment

namespace Settings

/-- The paths of a list are given through the environment, with commas between them. The file has
been read, whatever it says of the list, no other variable names the list or a part of it, and all
other fields are read without trouble. Then the paths are read back as they were given, unless there
is only one and it is spelled like a truth value or a number: in that case nothing is loaded. -/
theorem environment_list_read_back {fs : FileSystem} {file : Option Path}
    {before after : List (String × String)} {entries : List (String × Setting)}
    {field : Record.Field} {texts : List String} {settings : Settings}
    (hfile : SettingsFile.layer? fs (file.getD SettingsFile.defaultPath) file.isSome =
      some entries)
    (hpaths : field.paths? settings = some (texts.map Path.ofString))
    (hothers : ∀ other ≠ field, other.Reads settings
      (Setting.member? other.label (.ofLayers [entries, Environment.layer (before ++ after)])))
    (hrest : ∀ entry ∈ before ++ after, ∀ name, Environment.settingName? entry.1 = some name →
      Setting.root name ≠ field.label)
    (hnonempty : texts ≠ []) (hcommas : ∀ text ∈ texts, ',' ∉ text.toList) :
    let loaded := load? fs file (before ++ (field.envName, ",".intercalate texts) :: after)
    (loaded = some settings ↔ ¬ ∃ text, texts = [text] ∧ Environment.IsScalar text) ∧
    (loaded = none ↔ ∃ text, texts = [text] ∧ Environment.IsScalar text) := by
  intro loaded
  have hreads : loaded = some settings ↔
      (Environment.settingValue field.label (",".intercalate texts)).asPaths? =
        some (texts.map Path.ofString) := by
    rw [← Record.Field.reads_some_iff hpaths, ← Environment.member?_label_append_cons hrest entries]
    unfold loaded
    rw [load?_of_layer? hfile, ofSetting?_eq_some_iff]
    refine ⟨fun hall => hall field, fun hfield other => ?_⟩
    by_cases hother : other = field
    · subst hother
      exact hfield
    · have hroot : Setting.root field.label ≠ other.label := by
        rw [field.isStep_label.root_eq]
        exact fun hlabel => hother (Record.Field.label_injective hlabel).symm
      rw [Environment.member?_append_cons_of_ne field.settingName?_envName hroot]
      exact hothers other hother
  rw [← Environment.isScalar_intercalate_iff hnonempty]
  by_cases hscalar : Environment.IsScalar (",".intercalate texts)
  · have hnone : loaded = none := by
      unfold loaded
      rw [load?_of_layer? hfile, ofSetting?_eq_none_iff]
      refine ⟨field, _, Environment.member?_label_append_cons hrest entries, ?_⟩
      rw [Record.Field.converts_iff hpaths,
        Environment.asPaths?_settingValue_of_isScalar hscalar field.label]
      exact Bool.false_ne_true
    simp [hnone, hscalar]
  · have hlist := Environment.settingValue_of_not_isScalar hscalar
      (Record.Field.listFields_contains_label hpaths)
    rw [Environment.commaList_intercalate hnonempty hcommas] at hlist
    have hsome : loaded = some settings := by
      rw [hreads, hlist]
      exact Environment.asPaths?_texts texts
    simp [hsome, hscalar]

end Settings

/-- A settings file that says of the directories what is no list. -/
def Listing.oldDirectory : Listing where
  entries := [(Path.ofString "s.ini", .file (Utf8.encode "file_constants_dirs=old"))]

/-- The directories of two years are read back over it, the directory of one year is not. -/
theorem Settings.environment_list_read_back_years :
    load? Listing.oldDirectory.fileSystem (some (Path.ofString "s.ini"))
      [("HOME", "/root"), ("SIGIL__FILE_CONSTANTS_DIRS", ",".intercalate ["2024", "2025"])] =
        some { fileConstantsDirs := [Path.ofString "2024", Path.ofString "2025"] } ∧
    load? Listing.oldDirectory.fileSystem (some (Path.ofString "s.ini"))
      [("HOME", "/root"), ("SIGIL__FILE_CONSTANTS_DIRS", ",".intercalate ["2024"])] = none := by
  have hfile : SettingsFile.layer? Listing.oldDirectory.fileSystem
      ((some (Path.ofString "s.ini")).getD SettingsFile.defaultPath)
      (some (Path.ofString "s.ini")).isSome =
        some [("file_constants_dirs", .text "old")] :=
    SettingsFile.layer?_of_encode "file_constants_dirs=old" rfl rfl rfl rfl
  have hpaths : ∀ texts : List String, Record.Field.fileConstantsDirs.paths?
      { fileConstantsDirs := texts.map Path.ofString } = some (texts.map Path.ofString) :=
    fun texts => rfl
  have hothers : ∀ (texts : List String), ∀ other ≠ Record.Field.fileConstantsDirs,
      other.Reads { fileConstantsDirs := texts.map Path.ofString }
        (Setting.member? other.label (.ofLayers [[("file_constants_dirs", .text "old")],
          Environment.layer ([("HOME", "/root")] ++ [])])) := by
    intro texts other hother
    cases other
    case grammar => rfl
    case constantsFiles => rfl
    case fileConstantsDirs => exact absurd rfl hother
    case failOnMissingDir => rfl
  have hrest : ∀ entry ∈ [("HOME", "/root")] ++ [], ∀ name,
      Environment.settingName? entry.1 = some name →
      Setting.root name ≠ Record.Field.fileConstantsDirs.label := by
    intro entry hentry name hname
    cases List.mem_singleton.mp hentry
    cases hname
  constructor
  · have htwo := environment_list_read_back hfile (hpaths ["2024", "2025"]) (hothers _) hrest
      (List.cons_ne_nil _ _) (by decide)
    exact htwo.1.mpr (by simp)
  · have hone := environment_list_read_back hfile (hpaths ["2024"]) (hothers _) hrest
      (List.cons_ne_nil _ _) (by decide)
    exact hone.2.mpr ⟨"2024", rfl, by decide⟩

def Listing.emptySettings : Listing where
  entries := [(Path.ofString "sigil.toml", .file [])]

/-- Nothing is wrong but that the name of the one directory is a number, and nothing is loaded. -/
theorem Settings.directory_2024_not_read_back :
    ',' ∉ "2024".toList ∧
    load? Listing.emptySettings.fileSystem (some (Path.ofString "sigil.toml")) [] = some {} ∧
    load? Listing.emptySettings.fileSystem (some (Path.ofString "sigil.toml"))
      [("SIGIL__FILE_CONSTANTS_DIRS", ",".intercalate ["2024"])] = none := by
  have hfile : SettingsFile.layer? Listing.emptySettings.fileSystem (Path.ofString "sigil.toml")
      true = some [] :=
    SettingsFile.layer?_of_encode "" rfl rfl rfl rfl
  refine ⟨by decide, ?_, ?_⟩
  · rw [load?_of_layer? hfile]
    rfl
  · rw [load?_of_layer? hfile]
    rfl

end SigilLookup
