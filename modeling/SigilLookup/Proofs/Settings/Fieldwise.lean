import SigilLookup.FileSystem.Listing
import SigilLookup.Proofs.Settings.TomlTables
import SigilLookup.Proofs.Settings.YamlNodes

/-!
# Settings field by field

Where a settings file has plain names and no variable names anything but a field, each field has a
source of its own: its last variable, or else its entry of the file. Loading reads every field from
its source (`Settings.load?_eq_some_iff_source`) and fails exactly if one of these sources holds a
value that does not convert (`Settings.load?_eq_none_iff_source`). What lies below a source plays no
role, neither what it holds nor whether it converts, and two loads with the same sources give the
same (`Settings.load?_congr`).
-/

namespace SigilLookup

/-! ### The table of a file -/

namespace SettingsFormat

/-- Whatever the format, the tables of a settings file have distinct names. -/
theorem distinct_of_value? {format : SettingsFormat} {text : String} {setting : Setting}
    (hvalue : format.value? text = some setting) : setting.Distinct := by
  cases format
  case toml => exact Toml.distinct_of_read? hvalue
  case json =>
    obtain ⟨document, hdocument, rfl⟩ := Option.map_eq_some_iff.mp hvalue
    obtain ⟨written, -, rfl⟩ := Option.map_eq_some_iff.mp hdocument
    exact Setting.distinct_ofJson_canonical written
  case yaml => exact Yaml.Plain.distinct_of_read? hvalue
  case ini => exact Ini.distinct_of_read? hvalue
  case ron => exact Ron.distinct_of_read? hvalue
  case json5 => exact Json5.distinct_of_read? hvalue

theorem distinct_of_read? {format : SettingsFormat} {text : String}
    {entries : List (String × Setting)} (hread : format.read? text = some entries) :
    Setting.Distinct (.table entries) := by
  obtain ⟨setting, hvalue, hentries⟩ := Option.bind_eq_some_iff.mp hread
  cases setting with
  | table held =>
      cases hentries
      exact distinct_of_value? hvalue
  | _ => cases hentries

end SettingsFormat

theorem SettingsFile.distinct_of_layer? {fs : FileSystem} {path : Path} {required : Bool}
    {entries : List (String × Setting)} (hlayer : layer? fs path required = some entries) :
    Setting.Distinct (.table entries) := by
  unfold layer? at hlayer
  split at hlayer
  · exact SettingsFormat.distinct_of_read? hlayer
  · split at hlayer
    · cases hlayer
    · cases hlayer
      exact Setting.distinct_table_nil

def Setting.IsPlainName (name : String) : Prop :=
  ∀ c ∈ name.toList, c.isLower ∨ c.isDigit ∨ c = '_'

theorem Setting.IsPlainName.isStep {name : String} (hname : IsPlainName name) : IsStep name := by
  apply isStep_of_isNameChar
  intro c hc
  rcases hname c hc with hlower | hdigit | rfl
  · have halpha : c.isAlpha = true := Bool.or_eq_true_iff.mpr (.inr hlower)
    simp [isNameChar, Char.isAlphanum, halpha]
  · simp [isNameChar, Char.isAlphanum, hdigit]
  · rfl

/-! ### The sources of fields -/

/-- What the uppermost source of a field says: its last variable, or else its entry of the file. -/
def Record.Field.source? (field : Record.Field) (environment : List (String × String))
    (entries : List (String × Setting)) : Option Setting :=
  (Environment.last? field.label environment).or (Entries.find? field.label entries)

/-- No variable of settings names anything but a field. -/
def Environment.OnlyFields (environment : List (String × String)) : Prop :=
  ∀ entry ∈ environment, ∀ name, settingName? entry.1 = some name →
    ∃ field : Record.Field, field.label = name

/-- The four variables in upper case are allowed, and whatever does not begin with `SIGIL__`. -/
theorem Environment.onlyFields_of_forall {environment : List (String × String)}
    (hnames : ∀ entry ∈ environment,
      entry.1 ∈ Record.Field.all.map Record.Field.envName ∨ settingName? entry.1 = none) :
    OnlyFields environment := by
  intro entry hentry name hname
  rcases hnames entry hentry with hfield | hother
  · obtain ⟨field, -, hfield⟩ := List.mem_map.mp hfield
    rw [← hfield, field.settingName?_envName] at hname
    exact ⟨field, Option.some.inj hname⟩
  · rw [hother] at hname
    cases hname

theorem Setting.member?_ofLayers_eq_source {environment : List (String × String)}
    {entries : List (String × Setting)} (htable : Distinct (.table entries))
    (hplain : ∀ name ∈ Entries.names entries, IsPlainName name)
    (hfields : Environment.OnlyFields environment) (field : Record.Field) :
    member? field.label (ofLayers [entries, Environment.layer environment]) =
      field.source? environment entries := by
  have hroots : ∀ entry ∈ Environment.assignments environment,
      root entry.1 = field.label → entry.1 = field.label := by
    rintro ⟨name, held⟩ hentry hroot
    obtain ⟨envName, value, hvariable, hname, -⟩ := Environment.mem_assignments_iff.mp hentry
    obtain ⟨other, rfl⟩ := hfields _ hvariable _ hname
    rw [← hroot, other.isStep_label.root_eq]
  have hfile : ofLayers [entries] = .table entries :=
    ofLayers_singleton htable fun name hname => (hplain name hname).isStep
  rw [member?_ofLayers_environment field.isStep_label hroots, hfile]
  rfl

namespace Settings

variable {fs : FileSystem} {file : Option Path} {environment : List (String × String)}
  {entries : List (String × Setting)}

theorem load?_eq_some_iff_source
    (hfile : SettingsFile.layer? fs (file.getD SettingsFile.defaultPath) file.isSome =
      some entries)
    (hplain : ∀ name ∈ Entries.names entries, Setting.IsPlainName name)
    (hfields : Environment.OnlyFields environment) {settings : Settings} :
    load? fs file environment = some settings ↔
      ∀ field : Record.Field, field.Reads settings (field.source? environment entries) := by
  rw [load?_of_layer? hfile, ofSetting?_eq_some_iff]
  apply forall_congr'
  intro field
  rw [Setting.member?_ofLayers_eq_source (SettingsFile.distinct_of_layer? hfile) hplain hfields]

theorem load?_eq_none_iff_source
    (hfile : SettingsFile.layer? fs (file.getD SettingsFile.defaultPath) file.isSome =
      some entries)
    (hplain : ∀ name ∈ Entries.names entries, Setting.IsPlainName name)
    (hfields : Environment.OnlyFields environment) :
    load? fs file environment = none ↔
      ∃ (field : Record.Field) (value : Setting),
        field.source? environment entries = some value ∧ ¬ field.Converts value := by
  rw [load?_of_layer? hfile, ofSetting?_eq_none_iff]
  apply exists_congr
  intro field
  rw [Setting.member?_ofLayers_eq_source (SettingsFile.distinct_of_layer? hfile) hplain hfields]

/-- Two loads whose fields have the same sources give the same, whatever lies below the sources and
whatever else is in the files. -/
theorem load?_congr {fs' : FileSystem} {file' : Option Path}
    {environment' : List (String × String)} {entries' : List (String × Setting)}
    (hfile : SettingsFile.layer? fs (file.getD SettingsFile.defaultPath) file.isSome =
      some entries)
    (hplain : ∀ name ∈ Entries.names entries, Setting.IsPlainName name)
    (hfields : Environment.OnlyFields environment)
    (hfile' : SettingsFile.layer? fs' (file'.getD SettingsFile.defaultPath) file'.isSome =
      some entries')
    (hplain' : ∀ name ∈ Entries.names entries', Setting.IsPlainName name)
    (hfields' : Environment.OnlyFields environment')
    (hsources : ∀ field : Record.Field,
      field.source? environment entries = field.source? environment' entries') :
    load? fs file environment = load? fs' file' environment' := by
  ext settings
  rw [load?_eq_some_iff_source hfile hplain hfields,
    load?_eq_some_iff_source hfile' hplain' hfields']
  apply forall_congr'
  intro field
  rw [hsources field]

/-- Settings are layered field by field. A file has been read as a table of plain names, and no
variable of settings names anything but a field. Then the settings loaded are those that have each
field from its own source, the last variable of the field or else the entry of the file, or its
default if it has no source; and nothing is loaded exactly if some field has a source that does not
convert. -/
theorem loaded_fieldwise
    (hfile : SettingsFile.layer? fs (file.getD SettingsFile.defaultPath) file.isSome =
      some entries)
    (hplain : ∀ name ∈ Entries.names entries, Setting.IsPlainName name)
    (hfields : Environment.OnlyFields environment) :
    (∀ settings, load? fs file environment = some settings ↔
      ∀ field : Record.Field, field.Reads settings (field.source? environment entries)) ∧
    (load? fs file environment = none ↔
      ∃ (field : Record.Field) (value : Setting),
        field.source? environment entries = some value ∧ ¬ field.Converts value) :=
  ⟨fun _ => load?_eq_some_iff_source hfile hplain hfields,
    load?_eq_none_iff_source hfile hplain hfields⟩

end Settings

/-- A settings file whose grammar and list of documents do not convert. -/
def Listing.misfits : Listing where
  entries := [(Path.ofString "s.ini",
    .file (Utf8.encode "grammar=odd\nx=3\nconstants_files=a\nfail_on_missing_dir=yes"))]

def Setting.misfits : List (String × Setting) :=
  [("grammar", .text "odd"), ("x", .text "3"), ("constants_files", .text "a"),
    ("fail_on_missing_dir", .text "yes")]

/-- The variables of the two fields that do not convert in the file. -/
def Environment.overMisfits : List (String × String) :=
  [("SIGIL__CONSTANTS_FILES", "b,c"), ("HOME", "/root"), ("SIGIL__GRAMMAR", "strict")]

/-- The same fields, and one that the file says otherwise of. -/
def Environment.overAllFields : List (String × String) :=
  [("SIGIL__CONSTANTS_FILES", "b,c"), ("SIGIL__FAIL_ON_MISSING_DIR", "Off"),
    ("SIGIL__GRAMMAR", "lenient")]

theorem Settings.loaded_fieldwise_misfits :
    load? Listing.misfits.fileSystem (some (Path.ofString "s.ini")) Environment.overMisfits =
      some ⟨.strict, [Path.ofString "b", Path.ofString "c"], [], true⟩ ∧
    load? Listing.misfits.fileSystem (some (Path.ofString "s.ini")) Environment.overAllFields =
      some ⟨.lenient, [Path.ofString "b", Path.ofString "c"], [], false⟩ ∧
    load? Listing.misfits.fileSystem (some (Path.ofString "s.ini"))
      [("SIGIL__GRAMMAR", "strict")] = none := by
  have hfile : SettingsFile.layer? Listing.misfits.fileSystem (Path.ofString "s.ini") true =
      some Setting.misfits :=
    SettingsFile.layer?_of_encode
      "grammar=odd\nx=3\nconstants_files=a\nfail_on_missing_dir=yes" rfl rfl rfl rfl
  have hplain : ∀ name ∈ Entries.names Setting.misfits, Setting.IsPlainName name := by
    simp [Setting.IsPlainName, Entries.names, Setting.misfits]
  have hgrammar (grammar : Grammar) : (Setting.text grammar.label).asGrammar? = some grammar :=
    Setting.asGrammar?_eq_some_iff.mpr (.inl rfl)
  have hword {text : String} {value : Bool} (hmem : Setting.lowered text ∈ Setting.boolWords value) :
      (Setting.text text).asBool? = some value :=
    Setting.asBool?_eq_some_iff.mpr (.inr (.inr (.inr ⟨text, rfl, hmem⟩)))
  have hyes : (Setting.text "yes").asBool? = some true := hword (by decide)
  have hoff : (Setting.text "Off").asBool? = some false := hword (by decide)
  have hpaths : (Setting.list [.text "b", .text "c"]).asPaths? =
      some [Path.ofString "b", Path.ofString "c"] :=
    Setting.asPaths?_eq_some_iff.mpr ⟨_, ["b", "c"], rfl, rfl, rfl⟩
  refine ⟨?_, ?_, ?_⟩
  · have hfields : Environment.OnlyFields Environment.overMisfits :=
      Environment.onlyFields_of_forall (by decide +kernel)
    have hassigned : Environment.assignments Environment.overMisfits =
        [("constants_files", .list [.text "b", .text "c"]), ("grammar", .text "strict")] := rfl
    apply ((loaded_fieldwise hfile hplain hfields).1 _).mpr
    intro field
    rw [Record.Field.source?, Environment.last?, hassigned]
    cases field
    case grammar => exact hgrammar .strict
    case constantsFiles => exact hpaths
    case fileConstantsDirs => rfl
    case failOnMissingDir => exact hyes
  · have hfields : Environment.OnlyFields Environment.overAllFields :=
      Environment.onlyFields_of_forall (by decide +kernel)
    have hassigned : Environment.assignments Environment.overAllFields =
        [("constants_files", .list [.text "b", .text "c"]), ("fail_on_missing_dir", .text "Off"),
          ("grammar", .text "lenient")] := rfl
    apply ((loaded_fieldwise hfile hplain hfields).1 _).mpr
    intro field
    rw [Record.Field.source?, Environment.last?, hassigned]
    cases field
    case grammar => exact hgrammar .lenient
    case constantsFiles => exact hpaths
    case fileConstantsDirs => rfl
    case failOnMissingDir => exact hoff
  · have hfields : Environment.OnlyFields [("SIGIL__GRAMMAR", "strict")] :=
      Environment.onlyFields_of_forall (by decide +kernel)
    have hassigned : Environment.assignments [("SIGIL__GRAMMAR", "strict")] =
        [("grammar", .text "strict")] := rfl
    apply (loaded_fieldwise hfile hplain hfields).2.mpr
    refine ⟨.constantsFiles, .text "a", ?_, Bool.false_ne_true⟩
    rw [Record.Field.source?, Environment.last?, hassigned]
    rfl

end SigilLookup
