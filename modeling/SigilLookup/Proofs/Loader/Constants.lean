import SigilLookup.Loader
import SigilLookup.Proofs.Document.Members

/-!
# What loading gives

The constants of a document are the members of its object. The file constants of a directory are
read off its listing from front to back: every regular file is an entry, and of entries with one
name the last one gives the value. The lemmas say what a loading that succeeded has found
(`Loader.constantsFile_ok`, `Loader.fileConstantsDir_ok`), so later modules never open the loader.
-/

namespace SigilLookup

/-! ### Steps that may fail -/

theorem bind_eq_ok_iff {ε α β : Type} {result : Except ε α} {next : α → Except ε β} {last : β} :
    (result >>= next) = .ok last ↔ ∃ value, result = .ok value ∧ next value = .ok last := by
  cases result with
  | ok value => simp [bind, Except.bind]
  | error error => simp [bind, Except.bind]

theorem mapError_eq_ok_iff {ε δ α : Type} {f : ε → δ} {result : Except ε α} {value : α} :
    result.mapError f = .ok value ↔ result = .ok value := by
  cases result <;> simp [Except.mapError]

namespace Loader

variable {fs : FileSystem} {path dir : Path}

/-! ### Documents -/

/-- The document at a path; none where the extension names no format, the file cannot be read or
its text is not well formed. -/
def document? (fs : FileSystem) (path : Path) : Option Json := do
  let format ← DocumentFormat.ofPath? path
  let text ← (fs.text path).toOption
  format.read? text

/-- A loading that succeeds has found a document, and its constants are the members. -/
theorem constantsFile_ok {constants : ConstantMap} {event : Event}
    (hload : constantsFile fs path = .ok (constants, event)) :
    event = .loadedConstantsFile path.display constants.size ∧
      ∃ document, document? fs path = some document ∧ document.Ordered ∧
        ConstantMap.ofJson? document = some constants := by
  -- the steps of the loader one after another: of each, the failure cannot have been the result
  unfold constantsFile at hload
  dsimp only at hload
  split at hload
  case h_2 => cases hload
  case h_1 format hformat =>
    obtain ⟨_, ⟨⟩, hload⟩ := bind_eq_ok_iff.mp hload
    obtain ⟨text, htext, hload⟩ := bind_eq_ok_iff.mp hload
    split at hload
    case h_2 => cases hload
    case h_1 document hread =>
      obtain ⟨_, ⟨⟩, hload⟩ := bind_eq_ok_iff.mp hload
      split at hload
      case h_2 => cases hload
      case h_1 map hmap =>
        cases hload
        refine ⟨rfl, document, ?_, DocumentFormat.ordered_of_read? hread, hmap⟩
        simp [document?, hformat, mapError_eq_ok_iff.mp htext, Except.toOption, hread]

theorem constantsProvider_ok {provider : ConstantsProvider} {event : Event}
    (hload : constantsProvider fs path = .ok (provider, event)) :
    ∃ constants, constantsFile fs path = .ok (constants, event) ∧ provider = { constants } := by
  obtain ⟨⟨constants, loaded⟩, hfile, hresult⟩ := bind_eq_ok_iff.mp hload
  cases hresult
  exact ⟨constants, hfile, rfl⟩

/-! ### Directories -/

/-- What a path in the listing of a directory becomes: a name and a content; nothing if it is not a
regular file. -/
def namedContent? (fs : FileSystem) (path : Path) : Option (String × List UInt8) :=
  if fs.isFile path then do
    let name ← constantName? path
    let content ← (fs.content path).toOption
    return (name, content)
  else none

/-- The entries of a directory, in the order of its listing. Names may repeat. -/
def fileEntries (fs : FileSystem) (dir : Path) : List (String × List UInt8) :=
  ((fs.paths dir).toOption.getD []).filterMap (namedContent? fs)

/-- The content that a directory has under a name: that of the last entry with the name. -/
def fileContent? (fs : FileSystem) (dir : Path) (name : String) : Option (List UInt8) :=
  Entries.find? name (fileEntries fs dir).reverse

def asBytes (entries : List (String × List UInt8)) : List (String × Value) :=
  entries.map fun entry => (entry.1, .bytes entry.2)

/-- The step lemma: a path adds its entry, if it is one. -/
theorem addEntry_ok {constants next : ConstantMap} (hadd : addEntry fs constants path = .ok next) :
    next = constants.insertAll (asBytes (namedContent? fs path).toList) := by
  unfold addEntry at hadd
  unfold namedContent?
  split at hadd
  case isFalse hnotFile =>
    cases hadd
    rw [if_neg hnotFile]
    rfl
  case isTrue hfile =>
    split at hadd
    case h_2 => cases hadd
    case h_1 name hstem =>
      obtain ⟨_, ⟨⟩, hadd⟩ := bind_eq_ok_iff.mp hadd
      obtain ⟨content, hcontent, hresult⟩ := bind_eq_ok_iff.mp hadd
      cases hresult
      simp [hfile, hstem, mapError_eq_ok_iff.mp hcontent, Except.toOption, asBytes]

/-- The run lemma: a listing adds its entries, in order. -/
theorem foldlM_addEntry_ok {paths : List Path} {constants last : ConstantMap}
    (hfold : paths.foldlM (addEntry fs) constants = .ok last) :
    last = constants.insertAll (asBytes (paths.filterMap (namedContent? fs))) := by
  induction paths generalizing constants with
  | nil =>
      cases hfold
      rfl
  | cons path rest ih =>
      rw [List.foldlM_cons] at hfold
      obtain ⟨next, hadd, hrest⟩ := bind_eq_ok_iff.mp hfold
      rw [ih hrest, addEntry_ok hadd]
      cases hentry : namedContent? fs path with
      | none => rw [List.filterMap_cons_none hentry]; rfl
      | some entry => rw [List.filterMap_cons_some hentry]; rfl

/-- A loading that succeeds has found the entries of the listing. -/
theorem fileConstantsDir_ok {fileConstants : ConstantMap} {event : Event}
    (hload : fileConstantsDir fs dir = .ok (fileConstants, event)) :
    event = .loadedFileConstants dir.display fileConstants.size ∧
      fs.isDir dir = true ∧ fileConstants = OrderedMap.ofList (asBytes (fileEntries fs dir)) := by
  unfold fileConstantsDir at hload
  split at hload
  case isFalse => cases hload
  case isTrue hdir =>
    obtain ⟨paths, hpaths, hload⟩ := bind_eq_ok_iff.mp hload
    obtain ⟨constants, hfold, hresult⟩ := bind_eq_ok_iff.mp hload
    cases hresult
    refine ⟨rfl, hdir, ?_⟩
    rw [foldlM_addEntry_ok hfold, fileEntries, mapError_eq_ok_iff.mp hpaths]
    rfl

/-- Of contents with one name the last one is the value. -/
theorem get?_asBytes (entries : List (String × List UInt8)) (name : String) :
    (OrderedMap.ofList (asBytes entries)).get? name =
      (Entries.find? name entries.reverse).map Value.bytes := by
  rw [OrderedMap.ofList, OrderedMap.get?_insertAll_reverse, OrderedMap.get?_empty, Option.or_none,
    asBytes, ← List.map_reverse, Entries.find?_map]

/-- The value of a name is the content of its last file. -/
theorem get?_fileConstants (fs : FileSystem) (dir : Path) (name : String) :
    (OrderedMap.ofList (asBytes (fileEntries fs dir))).get? name =
      (fileContent? fs dir name).map Value.bytes :=
  get?_asBytes (fileEntries fs dir) name

theorem fileConstantsProvider_ok {provider : ConstantsProvider} {event : Event}
    (hload : fileConstantsProvider fs dir = .ok (provider, event)) :
    ∃ fileConstants, fileConstantsDir fs dir = .ok (fileConstants, event) ∧
      provider = { fileConstants } := by
  obtain ⟨⟨fileConstants, loaded⟩, hdir, hresult⟩ := bind_eq_ok_iff.mp hload
  cases hresult
  exact ⟨fileConstants, hdir, rfl⟩

end Loader

end SigilLookup
