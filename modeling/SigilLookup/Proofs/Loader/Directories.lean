import SigilLookup.FileSystem.Listing
import SigilLookup.Proofs.FileSystem.Enumeration
import SigilLookup.Proofs.Loader.Constants
import SigilLookup.Proofs.Text.Utf8Decoding

/-!
# Loading a directory

A directory is loaded along its listing. What is not a regular file is passed over, and the first file
that cannot become a constant ends the loading. If there is none, every stem becomes a constant: the
first file with the stem decides the place, the last one the content. Since listings ascend, the last
one has the greatest path.

On a disk the listing does not depend on the order in which the entries are enumerated, and so nothing
that is loaded does.
-/

namespace SigilLookup

namespace Loader

variable {fs : FileSystem} {paths files : List Path} {path : Path} {constants : ConstantMap}

/-! ### Files that cannot become constants -/

/-- Why a regular file cannot become a constant; its name is looked at before its content. -/
def fileFailure? (fs : FileSystem) (path : Path) : Option LoaderError :=
  match constantName? path with
  | none => some (.invalidFileName path)
  | some _ =>
    match fs.content path with
    | .error error => some (.fileSystem error)
    | .ok _ => none

theorem constantName?_eq_some_iff {name : String} :
    constantName? path = some name ↔ path.fileStem? = some (Utf8.encode name) := by
  rw [constantName?, Option.bind_eq_some_iff]
  constructor
  · rintro ⟨stem, hstem, hdecode⟩
    rw [hstem, Utf8.decode?_eq_some_iff.mp hdecode]
  · intro hstem
    exact ⟨_, hstem, Utf8.decode?_eq_some_iff.mpr rfl⟩

theorem addEntry_of_not_file (hfile : fs.isFile path = false) :
    addEntry fs constants path = .ok constants := by
  simp [addEntry, hfile]

theorem addEntry_of_failure {error : LoaderError} (hfile : fs.isFile path = true)
    (hfailure : fileFailure? fs path = some error) :
    addEntry fs constants path = .error error := by
  unfold fileFailure? at hfailure
  rw [addEntry, if_pos hfile]
  split at hfailure
  case h_1 hname =>
    cases hfailure
    simp only [hname]
    rfl
  case h_2 name hname =>
    cases hcontent : fs.content path with
    | error fault =>
        rw [hcontent] at hfailure
        cases hfailure
        simp only [hname]
        rfl
    | ok content =>
        rw [hcontent] at hfailure
        cases hfailure

theorem exists_of_fileFailure?_eq_none (hfailure : fileFailure? fs path = none) :
    ∃ name content, constantName? path = some name ∧ fs.content path = .ok content := by
  unfold fileFailure? at hfailure
  split at hfailure
  case h_1 => cases hfailure
  case h_2 name hname =>
    cases hcontent : fs.content path with
    | error fault =>
        rw [hcontent] at hfailure
        cases hfailure
    | ok content => exact ⟨name, content, hname, rfl⟩

theorem namedContent?_of_readable {name : String} {content : List UInt8}
    (hfile : fs.isFile path = true) (hname : constantName? path = some name)
    (hcontent : fs.content path = .ok content) :
    namedContent? fs path = some (name, content) := by
  rw [namedContent?, if_pos hfile, hname, hcontent]
  rfl

theorem addEntry_of_readable {name : String} {content : List UInt8} (hfile : fs.isFile path = true)
    (hname : constantName? path = some name) (hcontent : fs.content path = .ok content) :
    addEntry fs constants path = .ok (constants.insert name (.bytes content)) := by
  rw [addEntry, if_pos hfile]
  simp only [hname, hcontent]
  rfl

/-- The run lemma: the first failure is the result, whatever was gathered before it, and without one
every file has added its entry. -/
theorem foldlM_addEntry (fs : FileSystem) (paths : List Path) (constants : ConstantMap) :
    paths.foldlM (addEntry fs) constants =
      match (paths.filter fs.isFile).findSome? (fileFailure? fs) with
      | some error => .error error
      | none => .ok (constants.insertAll (asBytes (paths.filterMap (namedContent? fs)))) := by
  induction paths generalizing constants with
  | nil => rfl
  | cons path rest ih =>
      rw [List.foldlM_cons]
      cases hfile : fs.isFile path with
      | false =>
          have hnone : namedContent? fs path = none := by simp [namedContent?, hfile]
          rw [List.filter_cons_of_neg (by simp [hfile]), List.filterMap_cons_none hnone,
            addEntry_of_not_file hfile]
          exact ih constants
      | true =>
          rw [List.filter_cons_of_pos hfile, List.findSome?_cons]
          cases hfailure : fileFailure? fs path with
          | some error =>
              rw [addEntry_of_failure hfile hfailure]
              rfl
          | none =>
              obtain ⟨name, content, hname, hcontent⟩ := exists_of_fileFailure?_eq_none hfailure
              rw [addEntry_of_readable hfile hname hcontent,
                List.filterMap_cons_some (namedContent?_of_readable hfile hname hcontent)]
              exact ih (constants.insert name (.bytes content))

/-! ### The file of a name -/

/-- The file that gives a name its content: the last one listed of those with the name. -/
def Decides (files : List Path) (name : String) (path : Path) : Prop :=
  constantName? path = some name ∧
    ∃ before after, files = before ++ path :: after ∧
      ∀ later ∈ after, constantName? later ≠ some name

theorem Decides.mem {name : String} (hdecides : Decides files name path) : path ∈ files := by
  obtain ⟨-, before, after, rfl, -⟩ := hdecides
  exact List.mem_append_right before List.mem_cons_self

theorem Decides.greatest {name : String} (hdecides : Decides files name path)
    (hascending : files.Pairwise (· ≤ ·)) {other : Path} (hmem : other ∈ files)
    (hname : constantName? other = some name) : other ≤ path := by
  obtain ⟨-, before, after, rfl, hlast⟩ := hdecides
  obtain ⟨-, -, hbefore⟩ := List.pairwise_append.mp hascending
  rcases List.mem_append.mp hmem with hearlier | hrest
  · exact hbefore other hearlier path List.mem_cons_self
  · rcases List.mem_cons.mp hrest with rfl | hlater
    · exact Path.le_refl other
    · exact absurd hname (hlast other hlater)

/-- Every name has such a file, and its content is what a look-up from the end finds. -/
theorem exists_decides {name : String}
    (hreadable : ∀ path ∈ files, fs.isFile path = true ∧ fileFailure? fs path = none)
    (hmem : name ∈ files.filterMap constantName?) :
    ∃ path content, Decides files name path ∧ fs.content path = .ok content ∧
      Entries.find? name (files.filterMap (namedContent? fs)).reverse = some content := by
  induction files using List.reverseRecOn with
  | nil => cases hmem
  | append_singleton front path ih =>
      obtain ⟨hfile, hfailure⟩ := hreadable path (by simp)
      obtain ⟨key, content, hkey, hcontent⟩ := exists_of_fileFailure?_eq_none hfailure
      have hentries : ((front ++ [path]).filterMap (namedContent? fs)).reverse =
          (key, content) :: (front.filterMap (namedContent? fs)).reverse := by
        rw [List.filterMap_append,
          List.filterMap_cons_some (namedContent?_of_readable hfile hkey hcontent)]
        simp
      rw [hentries, Entries.find?]
      by_cases hsame : key = name
      · subst hsame
        refine ⟨path, content, ⟨hkey, front, [], rfl, ?_⟩, hcontent, if_pos rfl⟩
        intro later hlater
        cases hlater
      · have hfront : name ∈ front.filterMap constantName? := by
          rw [List.filterMap_append, List.filterMap_cons_some hkey] at hmem
          rcases List.mem_append.mp hmem with hfront | hlast
          · exact hfront
          · simp only [List.filterMap_nil, List.mem_singleton] at hlast
            exact absurd hlast.symm hsame
        obtain ⟨decided, found, ⟨hname, before, after, rfl, hlast⟩, hfound, hlookup⟩ :=
          ih (fun other hother => hreadable other (List.mem_append_left [path] hother)) hfront
        refine ⟨decided, found, ⟨hname, before, after ++ [path], by simp, ?_⟩, hfound, ?_⟩
        · intro later hlater
          rcases List.mem_append.mp hlater with hafter | hpath
          · exact hlast later hafter
          · rw [List.mem_singleton.mp hpath, hkey]
            intro heq
            exact hsame (Option.some.inj heq)
        · rw [if_neg hsame]
          exact hlookup

theorem filterMap_namedContent?_filter (fs : FileSystem) (paths : List Path) :
    (paths.filter fs.isFile).filterMap (namedContent? fs) = paths.filterMap (namedContent? fs) := by
  rw [List.filterMap_filter]
  apply List.filterMap_congr
  intro path _
  cases hfile : fs.isFile path with
  | false => simp [namedContent?, hfile]
  | true => rw [if_pos rfl]

/-- The names that the files of a listing give, in the order of the listing. -/
theorem names_filterMap_namedContent?
    (hreadable : ∀ path ∈ paths.filter fs.isFile, fileFailure? fs path = none) :
    Entries.names (paths.filterMap (namedContent? fs)) =
      (paths.filter fs.isFile).filterMap constantName? := by
  rw [← filterMap_namedContent?_filter, Entries.names, List.map_filterMap]
  apply List.filterMap_congr
  intro path hmem
  obtain ⟨name, content, hname, hcontent⟩ :=
    exists_of_fileFailure?_eq_none (hreadable path hmem)
  rw [namedContent?_of_readable (List.mem_filter.mp hmem).2 hname hcontent, hname]
  rfl

/-! ### What is loaded -/

/-- The map has a constant for every stem, placed by the first regular file with the stem and valued
by the last one, which in an ascending listing has the greatest path. -/
structure Gathers (fs : FileSystem) (paths : List Path) (map : ConstantMap) : Prop where
  names : map.names = ((paths.filter fs.isFile).filterMap constantName?).eraseDups
  value : ∀ name ∈ map.names, ∃ path content, Decides (paths.filter fs.isFile) name path ∧
    fs.content path = .ok content ∧ map.get? name = some (.bytes content)
  greatest : paths.Pairwise (· ≤ ·) → ∀ name path, Decides (paths.filter fs.isFile) name path →
    ∀ other ∈ paths, fs.isFile other = true → constantName? other = some name → other ≤ path

theorem gathers_of_readable (hreadable : (paths.filter fs.isFile).findSome? (fileFailure? fs) = none) :
    Gathers fs paths (OrderedMap.ofList (asBytes (paths.filterMap (namedContent? fs)))) := by
  rw [List.findSome?_eq_none_iff] at hreadable
  have hnames : (OrderedMap.ofList (asBytes (paths.filterMap (namedContent? fs)))).names =
      ((paths.filter fs.isFile).filterMap constantName?).eraseDups := by
    rw [OrderedMap.ofList, OrderedMap.names_insertAll, OrderedMap.names_empty, List.nil_append,
      asBytes, Entries.names_map, names_filterMap_namedContent? hreadable]
  constructor
  case names => exact hnames
  case value =>
    intro name hmem
    rw [hnames, List.mem_eraseDups] at hmem
    obtain ⟨path, content, hdecides, hcontent, hlookup⟩ := exists_decides
      (fun path hpath => ⟨(List.mem_filter.mp hpath).2, hreadable path hpath⟩) hmem
    refine ⟨path, content, hdecides, hcontent, ?_⟩
    rw [get?_asBytes, ← filterMap_namedContent?_filter, hlookup]
    rfl
  case greatest =>
    intro hascending name path hdecides other hmem hfile hname
    exact hdecides.greatest (hascending.filter fs.isFile)
      (List.mem_filter.mpr ⟨hmem, hfile⟩) hname

/-! ### The stages -/

variable {dir : Path}

theorem fileConstantsDir_of_not_dir (hdir : fs.isDir dir = false) :
    fileConstantsDir fs dir = .error (.notADirectory dir) := by
  simp [fileConstantsDir, hdir]

theorem fileConstantsDir_of_unlisted (hdir : fs.isDir dir = true) {error : FileSystemError}
    (hpaths : fs.paths dir = .error error) :
    fileConstantsDir fs dir = .error (.fileSystem error) := by
  rw [fileConstantsDir, if_pos hdir, hpaths]
  rfl

theorem fileConstantsDir_of_failure (hdir : fs.isDir dir = true) (hpaths : fs.paths dir = .ok paths)
    {error : LoaderError}
    (hfirst : (paths.filter fs.isFile).findSome? (fileFailure? fs) = some error) :
    fileConstantsDir fs dir = .error error := by
  have hrun := foldlM_addEntry fs paths .empty
  rw [hfirst] at hrun
  rw [fileConstantsDir, if_pos hdir, hpaths]
  simp only [Except.mapError, bind, Except.bind, hrun]

theorem fileConstantsDir_of_readable (hdir : fs.isDir dir = true)
    (hpaths : fs.paths dir = .ok paths)
    (hreadable : (paths.filter fs.isFile).findSome? (fileFailure? fs) = none) :
    ∃ constants, Gathers fs paths constants ∧ fileConstantsDir fs dir =
      .ok (constants, .loadedFileConstants dir.display constants.size) := by
  have hrun := foldlM_addEntry fs paths .empty
  rw [hreadable] at hrun
  refine ⟨_, gathers_of_readable hreadable, ?_⟩
  rw [fileConstantsDir, if_pos hdir, hpaths]
  simp only [Except.mapError, bind, Except.bind, hrun]
  rfl

end Loader

/-- Loading a directory reports what is no directory or cannot be listed. It goes along the listing
and ends at the first regular file that has no name or cannot be read, with the failure of this file
and without a map. If there is none, the map gathers the files. On a disk the listing is the sorted
enumeration, whichever the order of that, and disks that differ only in the order of entries give the
same outcome. -/
theorem directory_loaded_along_listing (dir : Path) :
    (∀ fs : FileSystem, fs.isDir dir = false →
      Loader.fileConstantsDir fs dir = .error (.notADirectory dir)) ∧
    (∀ fs : FileSystem, fs.isDir dir = true →
      (∀ error, fs.paths dir = .error error →
        Loader.fileConstantsDir fs dir = .error (.fileSystem error)) ∧
      ∀ paths, fs.paths dir = .ok paths →
        (∀ error, (paths.filter fs.isFile).findSome? (Loader.fileFailure? fs) = some error →
          Loader.fileConstantsDir fs dir = .error error) ∧
        ((paths.filter fs.isFile).findSome? (Loader.fileFailure? fs) = none →
          ∃ (constants : ConstantMap) (event : Event),
            Loader.fileConstantsDir fs dir = .ok (constants, event) ∧
            Loader.Gathers fs paths constants)) ∧
    (∀ path name, Loader.constantName? path = some name ↔
      path.fileStem? = some (Utf8.encode name)) ∧
    (∀ (disk : Disk) (enumerated : List Path), disk.Enumerates dir enumerated →
      ∃ paths, disk.fileSystem.isDir dir = true ∧ disk.fileSystem.paths dir = .ok paths ∧
        paths = (enumerated.mergeSort fun first second => decide (first ≤ second)) ∧
        paths.Pairwise (· < ·)) ∧
    ∀ first second : Disk, first.Reorders second →
      Loader.fileConstantsDir first.fileSystem dir =
        Loader.fileConstantsDir second.fileSystem dir := by
  refine ⟨fun _ => Loader.fileConstantsDir_of_not_dir, ?_,
    fun _ _ => Loader.constantName?_eq_some_iff, ?_, ?_⟩
  · intro fs hdir
    refine ⟨fun _ => Loader.fileConstantsDir_of_unlisted hdir, ?_⟩
    intro paths hpaths
    constructor
    · intro error hfirst
      exact Loader.fileConstantsDir_of_failure hdir hpaths hfirst
    · intro hreadable
      obtain ⟨constants, hgathers, hload⟩ :=
        Loader.fileConstantsDir_of_readable hdir hpaths hreadable
      exact ⟨constants, _, hload, hgathers⟩
  · intro disk enumerated henumerates
    obtain ⟨hpaths, hascending⟩ := henumerates.paths_eq
    exact ⟨_, henumerates.isDir, hpaths, rfl, hascending⟩
  · intro first second hsame
    rw [hsame.fileSystem_eq]

/-- A directory in which two files have one stem and a directory stands between files, one whose first
file cannot be read, and one that cannot be listed. -/
def Listing.logos : Listing where
  entries :=
    [(.ofString "d", .dir [.ofString "d/logo.png", .ofString "d/logo.svg", .ofString "d/sub",
        .ofString "d/text"]),
      (.ofString "d/logo.png", .file [1]), (.ofString "d/logo.svg", .file [2]),
      (.ofString "d/sub", .dir []), (.ofString "d/text", .file [3]),
      (.ofString "e", .dir [.ofString "e/a", .ofString "e/b"]),
      (.ofString "e/a", .broken .permissionDenied false), (.ofString "e/b", .file []),
      (.ofString "f", .broken .notFound true)]

def Disk.logos : List (List UInt8 × Node) :=
  [(Utf8.encode "logo.png", .file [1]), (Utf8.encode "logo.svg", .file [2])]

theorem directory_loaded_along_listing_logos :
    (∃ constants event,
      Loader.fileConstantsDir Listing.logos.fileSystem (.ofString "d") = .ok (constants, event) ∧
      constants.names = ["logo", "text"] ∧ constants.get? "logo" = some (.bytes [2])) ∧
    Loader.fileConstantsDir Listing.logos.fileSystem (.ofString "e") =
      .error (.fileSystem (.permissionDenied (.ofString "e/a"))) ∧
    Loader.fileConstantsDir Listing.logos.fileSystem (.ofString "f") =
      .error (.fileSystem (.notFound (.ofString "f"))) ∧
    Loader.fileConstantsDir Listing.logos.fileSystem (.ofString "g") =
      .error (.notADirectory (.ofString "g")) ∧
    (Disk.fileSystem ⟨.dir Disk.logos, []⟩).paths (.ofString "/") =
      .ok [.ofString "/logo.png", .ofString "/logo.svg"] ∧
    Loader.fileConstantsDir (Disk.fileSystem ⟨.dir Disk.logos, []⟩) (.ofString "/") =
      Loader.fileConstantsDir (Disk.fileSystem ⟨.dir Disk.logos.reverse, []⟩) (.ofString "/") := by
  refine ⟨?_, ?_, ?_, ?_, ?_, ?_⟩
  · obtain ⟨-, hstages, -⟩ := directory_loaded_along_listing (.ofString "d")
    obtain ⟨-, hpaths⟩ := hstages Listing.logos.fileSystem rfl
    obtain ⟨constants, event, hload, hgathers⟩ := (hpaths _ rfl).2 (by decide +kernel)
    have hnames : constants.names = ["logo", "text"] := by
      rw [hgathers.names]
      decide +kernel
    refine ⟨constants, event, hload, hnames, ?_⟩
    obtain ⟨path, content, hdecides, hcontent, hvalue⟩ :=
      hgathers.value "logo" (by simp [hnames])
    -- the file is the greatest of those with the stem, so it is not the other one
    have hlast := hgathers.greatest (by decide +kernel) "logo" path hdecides
      (.ofString "d/logo.svg") (by decide +kernel) rfl (by decide +kernel)
    have hmem : path ∈ [Path.ofString "d/logo.png", .ofString "d/logo.svg", .ofString "d/text"] :=
      hdecides.mem
    simp only [List.mem_cons, List.not_mem_nil, or_false] at hmem
    rcases hmem with rfl | rfl | rfl
    · exact absurd hlast (by decide +kernel)
    · cases hcontent
      exact hvalue
    · exact absurd hdecides.1 (by decide +kernel)
  · obtain ⟨-, hstages, -⟩ := directory_loaded_along_listing (.ofString "e")
    obtain ⟨-, hpaths⟩ := hstages Listing.logos.fileSystem rfl
    exact (hpaths _ rfl).1 _ (by decide +kernel)
  · obtain ⟨-, hstages, -⟩ := directory_loaded_along_listing (.ofString "f")
    exact (hstages Listing.logos.fileSystem rfl).1 _ rfl
  · exact (directory_loaded_along_listing (.ofString "g")).1 _ rfl
  · obtain ⟨-, -, -, henumerated, -⟩ := directory_loaded_along_listing (.ofString "/")
    have hentries : Disk.Enumerates ⟨.dir Disk.logos, []⟩ (.ofString "/")
        [.ofString "/logo.svg", .ofString "/logo.png"] :=
      ⟨Disk.logos, by cbv, by decide +kernel, by decide +kernel, .swap _ _ []⟩
    obtain ⟨paths, -, hpaths, hsorted, -⟩ := henumerated _ _ hentries
    rw [hpaths, hsorted]
    exact congrArg Except.ok (mergeSort_eq_of_pairwise_lt (.swap _ _ []) (by decide +kernel))
  · apply (directory_loaded_along_listing (.ofString "/")).2.2.2.2
    exact Disk.reorders_of_perm Disk.logos.reverse_perm.symm (by decide +kernel) []

end SigilLookup
