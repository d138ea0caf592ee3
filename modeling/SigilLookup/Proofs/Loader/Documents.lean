import SigilLookup.Proofs.FileSystem.Texts
import SigilLookup.Proofs.Loader.Constants
import SigilLookup.Proofs.Resolver.Lookup

/-!
# Loading a document

A document is loaded in four stages: its path tells the format, its text is read, the text is read in
the format, and the value has to be an object. Each stage can fail, and a failure is reported only if
all stages before it have passed. What comes out at the end are the members of the object, in
ascending order of their names, and a provider that answers for these names and for no other.
-/

namespace SigilLookup

/-! ### What is loaded -/

/-- The entries are the members, as data and in their order, and this is the ascending order of the
names' bytes. -/
structure ConstantMap.Lists (map : ConstantMap) (members : List (String × Json)) : Prop where
  entries : map.entries = members.map fun member => (member.1, .json member.2)
  ascending : (map.names.map Utf8.encode).Pairwise (· < ·)
  distinct : map.names.Nodup

/-- The provider answers for the members, each as data, and for nothing else. -/
structure ConstantsProvider.AnswersFor (provider : ConstantsProvider)
    (members : List (String × Json)) : Prop where
  constant : ∀ calls name payload, (name, payload) ∈ members →
    provider.askConstant calls name = (.ok (.json payload), calls)
  unknownConstant : ∀ calls name, name ∉ Entries.names members →
    provider.askConstant calls name = (.error (.unknownConstant name), calls)
  unknownFileConstant : ∀ calls name,
    provider.askFileConstant calls name = (.error (.unknownFileConstant name), calls)

theorem ConstantMap.exists_ofJson?_of_ordered {members : List (String × Json)}
    (hordered : (Json.obj members).Ordered) :
    ∃ map, ofJson? (.obj members) = some map ∧ map.Lists members := by
  have hascending := hordered members rfl
  have hentries := entries_of_ascending hascending
  refine ⟨_, rfl, hentries, ?_, OrderedMap.nodup_names _⟩
  rw [OrderedMap.names, hentries, Entries.names_map]
  exact hascending.encode

theorem ConstantMap.Lists.answersFor {map : ConstantMap} {members : List (String × Json)}
    (hlists : map.Lists members) : ({ constants := map } : ConstantsProvider).AnswersFor members := by
  have hfound (name : String) :
      map.get? name = (Entries.find? name members).map Value.json := by
    rw [OrderedMap.get?, hlists.entries, Entries.find?_map]
  have hdistinct := hlists.distinct
  rw [OrderedMap.names, hlists.entries, Entries.names_map] at hdistinct
  constructor
  case constant =>
    intro calls name payload hmem
    rw [ConstantsProvider.askConstant_of_default rfl, hfound, Entries.find?_of_mem hdistinct hmem]
    rfl
  case unknownConstant =>
    intro calls name hnew
    rw [ConstantsProvider.askConstant_of_default rfl, hfound, Entries.find?_eq_none_iff.mpr hnew]
    rfl
  case unknownFileConstant =>
    intro calls name
    rw [ConstantsProvider.askFileConstant_of_default rfl, OrderedMap.get?_empty]
    rfl

/-! ### The stages -/

namespace Loader

variable {fs : FileSystem} {path : Path} {format : DocumentFormat}

theorem constantsFile_of_noFormat (hformat : DocumentFormat.ofPath? path = none) :
    constantsFile fs path = .error (.unsupportedFormat path) := by
  simp only [constantsFile, hformat]
  rfl

theorem constantsFile_of_unreadable (hformat : DocumentFormat.ofPath? path = some format)
    {error : FileSystemError} (htext : fs.text path = .error error) :
    constantsFile fs path = .error (.fileSystem error) := by
  simp only [constantsFile, hformat, htext]
  rfl

theorem constantsFile_of_illFormed (hformat : DocumentFormat.ofPath? path = some format)
    {text : String} (htext : fs.text path = .ok text) (hread : format.read? text = none) :
    constantsFile fs path = .error (.parse path format) := by
  simp only [constantsFile, hformat, htext, Except.mapError, bind, Except.bind, hread]

theorem constantsFile_of_document? {document : Json} (hdocument : document? fs path = some document) :
    constantsFile fs path =
      match ConstantMap.ofJson? document with
      | some constants => .ok (constants, .loadedConstantsFile path.display constants.size)
      | none => .error (.notAnObject path) := by
  obtain ⟨format, hformat, htext⟩ := Option.bind_eq_some_iff.mp hdocument
  obtain ⟨text, htext, hread⟩ := Option.bind_eq_some_iff.mp htext
  cases hresult : fs.text path with
  | error error =>
      rw [hresult] at htext
      cases htext
  | ok found =>
      rw [hresult] at htext
      cases htext
      cases hmap : ConstantMap.ofJson? document
      all_goals
        simp only [constantsFile, hformat, hresult, Except.mapError, bind, Except.bind, hread, hmap]

theorem document?_eq_read (hformat : DocumentFormat.ofPath? path = some format) {text : String}
    (htext : fs.text path = .ok text) : document? fs path = format.read? text := by
  simp only [document?, hformat, htext]
  rfl

theorem constantsProvider_of_constantsFile {constants : ConstantMap} {event : Event}
    (hload : constantsFile fs path = .ok (constants, event)) :
    constantsProvider fs path = .ok ({ constants }, event) := by
  rw [constantsProvider, hload]
  rfl

theorem constantsFile_of_not_object {document : Json}
    (hdocument : document? fs path = some document) (hnot : ∀ members, document ≠ .obj members) :
    constantsFile fs path = .error (.notAnObject path) := by
  rw [constantsFile_of_document? hdocument]
  cases document with
  | obj members => exact absurd rfl (hnot members)
  | _ => rfl

theorem constantsFile_of_object (hformat : DocumentFormat.ofPath? path = some format)
    {text : String} (htext : fs.text path = .ok text) {members : List (String × Json)}
    (hread : format.read? text = some (.obj members)) :
    ∃ constants : ConstantMap, constants.Lists members ∧ constantsFile fs path =
      .ok (constants, .loadedConstantsFile path.display constants.size) := by
  obtain ⟨constants, hmap, hlists⟩ :=
    ConstantMap.exists_ofJson?_of_ordered (DocumentFormat.ordered_of_read? hread)
  refine ⟨constants, hlists, ?_⟩
  rw [constantsFile_of_document? ((document?_eq_read hformat htext).trans hread), hmap]

theorem document?_congr {other : FileSystem} {otherPath : Path}
    (hformat : DocumentFormat.ofPath? path = DocumentFormat.ofPath? otherPath)
    (htext : (fs.text path).toOption = (other.text otherPath).toOption) :
    document? fs path = document? other otherPath := by
  rw [document?, document?, hformat, htext]

theorem constantsFile_ok_of_document?_eq {other : FileSystem} {otherPath : Path}
    (hsame : document? fs path = document? other otherPath) {constants : ConstantMap}
    {event : Event} (hload : constantsFile fs path = .ok (constants, event)) :
    constantsFile other otherPath =
      .ok (constants, .loadedConstantsFile otherPath.display constants.size) := by
  obtain ⟨-, document, hdocument, -, hmap⟩ := constantsFile_ok hload
  rw [constantsFile_of_document? (hsame.symm.trans hdocument), hmap]

end Loader

/-! ### The law -/

/-- Loading a document reports its first failure. A path that names no format is refused whatever the
file system holds; then comes a text that cannot be read, with the error of the file system, which for
a content that is not UTF-8 says so; then a text that is not of the format, and then a value that is
not an object. Without a failure the map lists the members of the object in ascending order, whatever
the order and repetition of the text, and the provider answers for them and for nothing else. Format
and text, or format and content, decide the map. -/
theorem document_loaded_by_stages (path : Path) :
    (∀ disk : Disk, disk.fileSystem.ReadsUtf8) ∧
    (∀ content isDir isFile paths, (FileSystem.ofBytes content isDir isFile paths).ReadsUtf8) ∧
    (DocumentFormat.ofPath? path = none → ∀ fs,
      Loader.constantsFile fs path = .error (.unsupportedFormat path)) ∧
    ∀ format, DocumentFormat.ofPath? path = some format → ∀ fs : FileSystem,
      (∀ error, fs.text path = .error error →
        Loader.constantsFile fs path = .error (.fileSystem error)) ∧
      (∀ content, fs.ReadsUtf8 → fs.content path = .ok content →
        (∀ text, content ≠ Utf8.encode text) →
          Loader.constantsFile fs path = .error (.fileSystem (.invalidUtf8 path))) ∧
      (∀ text, fs.text path = .ok text → format.read? text = none →
        Loader.constantsFile fs path = .error (.parse path format)) ∧
      (∀ text document, fs.text path = .ok text → format.read? text = some document →
        (∀ members, document ≠ .obj members) →
          Loader.constantsFile fs path = .error (.notAnObject path)) ∧
      (∀ text members, fs.text path = .ok text → format.read? text = some (.obj members) →
        ∃ (constants : ConstantMap) (event : Event),
          Loader.constantsFile fs path = .ok (constants, event) ∧ constants.Lists members ∧
          Loader.constantsProvider fs path = .ok ({ constants }, event) ∧
          ({ constants } : ConstantsProvider).AnswersFor members) ∧
      ∀ (other : FileSystem) (otherPath : Path) (constants : ConstantMap) (event : Event),
        DocumentFormat.ofPath? otherPath = some format →
        (fs.text path = other.text otherPath ∨
          fs.ReadsUtf8 ∧ other.ReadsUtf8 ∧ fs.content path = other.content otherPath) →
        Loader.constantsFile fs path = .ok (constants, event) →
          ∃ event, Loader.constantsFile other otherPath = .ok (constants, event) := by
  refine ⟨Disk.readsUtf8, FileSystem.readsUtf8_ofBytes,
    fun hformat _ => Loader.constantsFile_of_noFormat hformat, ?_⟩
  intro format hformat fs
  refine ⟨fun error => Loader.constantsFile_of_unreadable hformat, ?_,
    fun text => Loader.constantsFile_of_illFormed hformat, ?_, ?_, ?_⟩
  · intro content hreads hcontent hbad
    exact Loader.constantsFile_of_unreadable hformat (hreads.text_of_illFormed hcontent hbad)
  · intro text document htext hread hnot
    exact Loader.constantsFile_of_not_object
      ((Loader.document?_eq_read hformat htext).trans hread) hnot
  · intro text members htext hread
    obtain ⟨constants, hlists, hload⟩ := Loader.constantsFile_of_object hformat htext hread
    exact ⟨constants, _, hload, hlists, Loader.constantsProvider_of_constantsFile hload,
      hlists.answersFor⟩
  · intro other otherPath constants event hotherFormat hsame hload
    have htext : (fs.text path).toOption = (other.text otherPath).toOption := by
      rcases hsame with htext | ⟨hreads, hotherReads, hcontent⟩
      · rw [htext]
      · rw [hreads.toOption_text, hotherReads.toOption_text, hcontent]
    have hdocument := Loader.document?_congr (hformat.trans hotherFormat.symm) htext
    exact ⟨_, Loader.constantsFile_ok_of_document?_eq hdocument hload⟩

/-- Three documents: one whose names repeat and do not ascend, one that is no object, and one that is
no text. -/
def Listing.threeDocuments : Listing where
  entries :=
    [(.ofString "a.json", .file (Utf8.encode "\x7b\"n\":1,\"m\":null,\"n\":true\x7d")),
      (.ofString "b.json", .file (Utf8.encode "null")), (.ofString "c.json", .file [0xFF])]

theorem document_loaded_by_stages_threeDocuments :
    (∃ constants event,
      Loader.constantsFile Listing.threeDocuments.fileSystem (.ofString "a.json") =
        .ok (constants, event) ∧ constants.names = ["m", "n"] ∧
      ({ constants } : ConstantsProvider).getConstant "n" = .ok (.json (.bool true))) ∧
    Loader.constantsFile Listing.threeDocuments.fileSystem (.ofString "b.json") =
      .error (.notAnObject (.ofString "b.json")) ∧
    Loader.constantsFile Listing.threeDocuments.fileSystem (.ofString "c.json") =
      .error (.fileSystem (.invalidUtf8 (.ofString "c.json"))) ∧
    Loader.constantsFile Listing.threeDocuments.fileSystem (.ofString "d.toml") =
      .error (.unsupportedFormat (.ofString "d.toml")) := by
  have hreads := Listing.threeDocuments.readsUtf8
  refine ⟨?_, ?_, ?_, ?_⟩
  · obtain ⟨-, -, -, hstages⟩ := document_loaded_by_stages (.ofString "a.json")
    obtain ⟨-, -, -, -, hobject, -⟩ := hstages .json rfl Listing.threeDocuments.fileSystem
    have hraw : Json.readRaw? "\x7b\"n\":1,\"m\":null,\"n\":true\x7d" =
        some (.obj [("n", .num (.int 1 (by decide))), ("m", .null), ("n", .bool true)]) := rfl
    obtain ⟨constants, event, hload, hlists, -, hanswers⟩ :=
      hobject _ [("m", .null), ("n", .bool true)] (hreads.text_of_encode rfl)
        (congrArg (Option.map Json.canonical) hraw)
    refine ⟨constants, event, hload, ?_, ?_⟩
    · rw [OrderedMap.names, hlists.entries]
      rfl
    · rw [ConstantsProvider.getConstant, hanswers.constant .none "n" (.bool true) (by simp)]
  · obtain ⟨-, -, -, hstages⟩ := document_loaded_by_stages (.ofString "b.json")
    obtain ⟨-, -, -, hnot, -⟩ := hstages .json rfl Listing.threeDocuments.fileSystem
    exact hnot _ .null (hreads.text_of_encode rfl) rfl (by simp)
  · obtain ⟨-, -, -, hstages⟩ := document_loaded_by_stages (.ofString "c.json")
    obtain ⟨-, hbad, -⟩ := hstages .json rfl Listing.threeDocuments.fileSystem
    exact hbad [0xFF] hreads rfl (Utf8.decode?_eq_none_iff.mp (by decide +kernel))
  · exact (document_loaded_by_stages (.ofString "d.toml")).2.2.1 rfl _

end SigilLookup
