import Mathlib.Data.List.TakeWhile
import SigilLookup.Proofs.OrderedMap.Merge
import SigilLookup.Proofs.Text.Utf8Decoding
import SigilLookup.Settings.Load
import SigilLookup.Settings.Record

/-!
# What stands under a name when layers lie over one another

A name of a layer is a path of steps. Its first step is always into an entry of the whole, the
*root* of the name, and what stands under a root is changed by the names with this root only
(`Setting.member?_layer`). So the fields of settings can be followed through the layers one by one,
and no other name matters.

In the layer of the environment the last variable of a name counts. Where every variable with the
root of a field names the field itself, the field has the value of the last one, or else what is
below (`Setting.member?_ofLayers_environment`): no value of a variable is a table, so none is put
into what is there.
-/

namespace SigilLookup

namespace Setting

/-! ### One name through one layer -/

def member? (name : String) (setting : Setting) : Option Setting :=
  Entries.find? name setting.entriesOrNone

theorem exists_stepsOf_eq (name : String) : ∃ root rest, stepsOf name = .entry root :: rest := by
  unfold stepsOf
  dsimp only
  split
  · exact ⟨_, _, rfl⟩
  · exact ⟨_, _, rfl⟩
  · exact ⟨_, _, rfl⟩

/-- The name that the first step of a name of a layer leads into. -/
def root (name : String) : String :=
  match stepsOf name with
  | .entry root :: _ => root
  | _ => name

theorem stepsOf_eq (name : String) : stepsOf name = .entry (root name) :: (stepsOf name).tail := by
  obtain ⟨root, rest, hsteps⟩ := exists_stepsOf_eq name
  simp [Setting.root, hsteps]

def IsStep (name : String) : Prop := stepsOf name = [.entry name]

theorem IsStep.root_eq {name : String} (hstep : IsStep name) : root name = name := by
  unfold root
  rw [hstep]

theorem isStep_of_isNameChar {name : String} (hchars : ∀ c ∈ name.toList, isNameChar c) :
    IsStep name := by
  have hall : name.toList.takeWhile isNameChar = name.toList :=
    List.takeWhile_eq_self_iff.mpr hchars
  have hnone : name.toList.dropWhile isNameChar = [] :=
    List.dropWhile_eq_nil_iff.mpr hchars
  unfold IsStep stepsOf
  dsimp only
  rw [hall, hnone]
  have hsteps : steps? name.toList.length [] = some [] := by
    cases name.toList.length <;> rfl
  rw [hsteps]
  split
  case h_1 => rfl
  case h_2 hsome _ =>
    cases hsome
    rw [String.ofList_toList]
  case h_3 => rfl

def overMember (name : String) (below : Option Setting) (entry : String × Setting) :
    Option Setting :=
  if root entry.1 = name then
    some (put entry.2 (stepsOf entry.1).tail (below.getD .nothing))
  else below

/-- The step lemma: an entry of a layer changes what stands under its root and nothing else. -/
theorem member?_put (name : String) (entry : String × Setting) (below : Setting) :
    member? name (put entry.2 (stepsOf entry.1) below) =
      overMember name (member? name below) entry := by
  rw [stepsOf_eq, overMember]
  by_cases hroot : root entry.1 = name
  · subst hroot
    rw [if_pos rfl]
    exact Entries.find?_insert_self _ _ _
  · rw [if_neg hroot]
    exact Entries.find?_insert_of_ne (Ne.symm hroot) _ _

theorem member?_layer (name : String) (below : Setting) (entries : List (String × Setting)) :
    member? name (layer below entries) = entries.foldl (overMember name) (member? name below) := by
  induction entries generalizing below with
  | nil => rfl
  | cons entry rest ih =>
      rw [List.foldl_cons, ← member?_put]
      exact ih _

theorem member?_layer_congr {name : String} {below : Setting}
    {entries others : List (String × Setting)}
    (hsame : entries.filter (fun entry => root entry.1 = name) =
      others.filter (fun entry => root entry.1 = name)) :
    member? name (layer below entries) = member? name (layer below others) := by
  have hkept : ∀ entries : List (String × Setting),
      entries.foldl (overMember name) (member? name below) =
        (entries.filter fun entry => root entry.1 = name).foldl (overMember name)
          (member? name below) := by
    intro entries
    rw [List.foldl_filter]
    congr 1
    funext held entry
    simp only [overMember, decide_eq_true_eq]
    split <;> rfl
  rw [member?_layer, member?_layer, hkept, hsame, ← hkept]

theorem laidOver_eq_self {value : Setting} (hvalue : value.entries? = none) (below : Setting) :
    value.laidOver below = value := by
  cases value with
  | table entries => cases hvalue
  | _ => rfl

/-- Where a name is the only one with its root and holds no table, it replaces what is below. -/
theorem member?_layer_of_isStep {name : String} {entries : List (String × Setting)}
    (hname : IsStep name) (hdistinct : (Entries.names entries).Nodup)
    (hroots : ∀ entry ∈ entries, root entry.1 = name → entry.1 = name)
    (hvalues : ∀ entry ∈ entries, entry.2.entries? = none) (below : Setting) :
    member? name (layer below entries) = (Entries.find? name entries).or (member? name below) := by
  rw [member?_layer]
  generalize member? name below = held
  induction entries generalizing held with
  | nil => rfl
  | cons entry rest ih =>
      obtain ⟨first, value⟩ := entry
      obtain ⟨hnew, hdistinct⟩ := List.nodup_cons.mp hdistinct
      rw [List.foldl_cons, ih hdistinct (fun entry hentry => hroots entry (.tail _ hentry))
        (fun entry hentry => hvalues entry (.tail _ hentry)), overMember]
      by_cases hfirst : first = name
      · subst hfirst
        have hrest : Entries.find? first rest = none := Entries.find?_eq_none_iff.mpr hnew
        have hvalue : value.entries? = none := hvalues _ List.mem_cons_self
        rw [if_pos hname.root_eq, hrest, hname]
        simp [Entries.find?, put, laidOver_eq_self hvalue]
      · have hroot : root first ≠ name := fun heq => hfirst (hroots _ List.mem_cons_self heq)
        simp [hroot, Entries.find?, hfirst]

end Setting

/-! ### The layer of the environment -/

namespace Environment

/-- What the variables set, in order. -/
def assignments (environment : List (String × String)) : List (String × Setting) :=
  environment.filterMap fun (envName, value) =>
    (settingName? envName).map fun name => (name, settingValue name value)

def last? (name : String) (environment : List (String × String)) : Option Setting :=
  Entries.find? name (assignments environment).reverse

theorem layer_eq_ofList (environment : List (String × String)) :
    layer environment = (OrderedMap.ofList (assignments environment)).entries := by
  rw [OrderedMap.entries_ofList]
  unfold layer assignments
  rw [List.foldl_filterMap]
  congr 1
  funext names ⟨envName, value⟩
  dsimp only
  cases settingName? envName <;> rfl

theorem mem_assignments_iff {name : String} {held : Setting}
    {environment : List (String × String)} :
    (name, held) ∈ assignments environment ↔
      ∃ envName value, (envName, value) ∈ environment ∧ settingName? envName = some name ∧
        settingValue name value = held := by
  simp only [assignments, List.mem_filterMap, Option.map_eq_some_iff, Prod.mk.injEq, Prod.exists]
  constructor
  · rintro ⟨envName, value, hmem, _, hname, rfl, hheld⟩
    exact ⟨envName, value, hmem, hname, hheld⟩
  · rintro ⟨envName, value, hmem, hname, hheld⟩
    exact ⟨envName, value, hmem, name, hname, rfl, hheld⟩

theorem entries?_settingValue (name value : String) :
    (settingValue name value).entries? = none := by
  unfold settingValue
  dsimp only
  split
  · rfl
  · split
    · rfl
    · split
      · rfl
      · rfl
      · split <;> rfl

end Environment

/-- A field is what the last of its variables sets it to, or what it is below the environment. -/
theorem Setting.member?_ofLayers_environment {name : String} (hname : IsStep name)
    {environment : List (String × String)}
    (hroots : ∀ entry ∈ Environment.assignments environment,
      root entry.1 = name → entry.1 = name)
    (entries : List (String × Setting)) :
    member? name (ofLayers [entries, Environment.layer environment]) =
      (Environment.last? name environment).or (member? name (ofLayers [entries])) := by
  have hvalues : ∀ entry ∈ (OrderedMap.ofList (Environment.assignments environment)).entries,
      entry.2.entries? = none := by
    intro entry hentry
    obtain ⟨_, value, -, -, hheld⟩ :=
      Environment.mem_assignments_iff.mp (OrderedMap.mem_of_mem_ofList hentry)
    rw [← hheld]
    exact Environment.entries?_settingValue _ _
  rw [Environment.layer_eq_ofList, Environment.last?, ← OrderedMap.find?_ofList]
  exact member?_layer_of_isStep hname (OrderedMap.distinct _)
    (fun entry hentry => hroots entry (OrderedMap.mem_of_mem_ofList hentry)) hvalues _

/-! ### Fields -/

namespace Record.Field

/-- What settings have for a field is what a value stands for, or the default if there is none. -/
def Reads : Field → Settings → Option Setting → Prop
  | .grammar, settings, held =>
    held.elim (some .lenient) Setting.asGrammar? = some settings.grammar
  | .constantsFiles, settings, held =>
    held.elim (some []) Setting.asPaths? = some settings.constantsFiles
  | .fileConstantsDirs, settings, held =>
    held.elim (some []) Setting.asPaths? = some settings.fileConstantsDirs
  | .failOnMissingDir, settings, held =>
    held.elim (some false) Setting.asBool? = some settings.failOnMissingDir

/-- A value stands for something of the type of a field. -/
def Converts : Field → Setting → Prop
  | .grammar, value => value.asGrammar?.isSome
  | .constantsFiles, value | .fileConstantsDirs, value => value.asPaths?.isSome
  | .failOnMissingDir, value => value.asBool?.isSome

theorem exists_reads {field : Field} {held : Option Setting}
    (hconverts : ∀ value, held = some value → field.Converts value) :
    ∃ settings, field.Reads settings held := by
  cases held with
  | none =>
      refine ⟨{}, ?_⟩
      cases field <;> rfl
  | some value =>
      have hvalue := hconverts value rfl
      cases field
      case grammar =>
        obtain ⟨grammar, hgrammar⟩ := Option.isSome_iff_exists.mp hvalue
        exact ⟨{ grammar }, hgrammar⟩
      case constantsFiles =>
        obtain ⟨constantsFiles, hfiles⟩ := Option.isSome_iff_exists.mp hvalue
        exact ⟨{ constantsFiles }, hfiles⟩
      case fileConstantsDirs =>
        obtain ⟨fileConstantsDirs, hdirs⟩ := Option.isSome_iff_exists.mp hvalue
        exact ⟨{ fileConstantsDirs }, hdirs⟩
      case failOnMissingDir =>
        obtain ⟨failOnMissingDir, hfail⟩ := Option.isSome_iff_exists.mp hvalue
        exact ⟨{ failOnMissingDir }, hfail⟩

def envName : Field → String
  | .grammar => "SIGIL__GRAMMAR"
  | .constantsFiles => "SIGIL__CONSTANTS_FILES"
  | .fileConstantsDirs => "SIGIL__FILE_CONSTANTS_DIRS"
  | .failOnMissingDir => "SIGIL__FAIL_ON_MISSING_DIR"

theorem settingName?_envName (field : Field) :
    Environment.settingName? field.envName = some field.label := by
  cases field <;> decide

theorem isStep_label (field : Field) : Setting.IsStep field.label := by
  cases field <;> rfl

theorem label_injective {field other : Field} (hlabel : field.label = other.label) :
    field = other := by
  cases field <;> cases other <;> first | rfl | exact absurd hlabel (by decide)

end Record.Field

namespace Settings

theorem field?_eq_elim (setting : Setting) (name : String) (read : Setting → Option α)
    (default : α) :
    field? setting.entriesOrNone name read default =
      (setting.member? name).elim (some default) read := by
  unfold field? Setting.member?
  cases Entries.find? name setting.entriesOrNone <;> rfl

/-- Each field is read by itself. -/
theorem ofSetting?_eq_some_iff {setting : Setting} {settings : Settings} :
    ofSetting? setting = some settings ↔
      ∀ field : Record.Field, field.Reads settings (setting.member? field.label) := by
  unfold ofSetting?
  simp only [field?_eq_elim, Option.bind_eq_bind, Option.bind_eq_some_iff, Option.pure_def]
  constructor
  · rintro ⟨grammar, hgrammar, files, hfiles, dirs, hdirs, fail, hfail, hsettings⟩ field
    cases hsettings
    cases field
    case grammar => exact hgrammar
    case constantsFiles => exact hfiles
    case fileConstantsDirs => exact hdirs
    case failOnMissingDir => exact hfail
  · intro hreads
    exact ⟨_, hreads .grammar, _, hreads .constantsFiles, _, hreads .fileConstantsDirs, _,
      hreads .failOnMissingDir, rfl⟩

/-- Settings fail to load only at a field whose value does not convert. -/
theorem ofSetting?_eq_none_iff {setting : Setting} :
    ofSetting? setting = none ↔
      ∃ (field : Record.Field) (value : Setting),
        setting.member? field.label = some value ∧ ¬ field.Converts value := by
  constructor
  · intro hnone
    by_contra hall
    have hreads : ∀ field : Record.Field, ∃ settings,
        field.Reads settings (setting.member? field.label) := by
      intro field
      apply Record.Field.exists_reads
      intro value hvalue
      by_contra hrefuses
      exact hall ⟨field, value, hvalue, hrefuses⟩
    -- each field has settings of its own that read it, which are put together here
    choose read hread using hreads
    let settings : Settings :=
      ⟨(read .grammar).grammar, (read .constantsFiles).constantsFiles,
        (read .fileConstantsDirs).fileConstantsDirs, (read .failOnMissingDir).failOnMissingDir⟩
    have hsome : ofSetting? setting = some settings := by
      apply ofSetting?_eq_some_iff.mpr
      intro field
      have hfield := hread field
      cases field <;> exact hfield
    cases hnone.symm.trans hsome
  · rintro ⟨field, value, hvalue, hrefuses⟩
    rw [Option.eq_none_iff_forall_ne_some]
    intro settings hsettings
    have hreads := ofSetting?_eq_some_iff.mp hsettings field
    rw [hvalue] at hreads
    apply hrefuses
    cases field <;> exact Option.isSome_of_eq_some hreads

theorem load?_of_layer? {fs : FileSystem} {file : Option Path} {entries : List (String × Setting)}
    (hfile : SettingsFile.layer? fs (file.getD SettingsFile.defaultPath) file.isSome =
      some entries)
    (environment : List (String × String)) :
    load? fs file environment =
      ofSetting? (.ofLayers [entries, Environment.layer environment]) := by
  rw [load?, hfile]
  rfl

end Settings

/-! ### The layer of a file that is there -/

namespace SettingsFile

theorem textOf_encode {text : String}
    (hmark : byteOrderMark.isPrefixOf (Utf8.encode text) = false) :
    textOf (Utf8.encode text) = text := by
  rw [textOf, hmark]
  exact Utf8.decodeLossy_encode text

/-- A file that holds the encoding of a text, no byte order mark first, gives what the text is read
as. -/
theorem layer?_of_encode {fs : FileSystem} {path file : Path} {required : Bool}
    {format : SettingsFormat} {entries : List (String × Setting)} (text : String)
    (hfind : find? fs path = some (file, format))
    (hcontent : fs.content file = .ok (Utf8.encode text))
    (hmark : byteOrderMark.isPrefixOf (Utf8.encode text) = false)
    (hread : format.read? text = some entries) : layer? fs path required = some entries := by
  have htext : text? fs path = some (text, format) := by
    rw [text?, hfind]
    simp only [Option.bind_eq_bind, Option.bind_some, hcontent, textOf_encode hmark]
  rw [layer?, htext]
  exact hread

end SettingsFile

end SigilLookup
