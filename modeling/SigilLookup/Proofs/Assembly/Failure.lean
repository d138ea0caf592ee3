import SigilLookup.Proofs.Assembly.Sources

/-!
# Failing and passing over

When assembling fails, and what the choice on missing directories changes. A source that fails does
so whatever the others are, and the first one decides. Where missing directories are passed over,
they leave a warning each and nothing else: the outcome is that of settings without them. So the
stricter choice can only turn a success into the failure of the first of them.
-/

namespace SigilLookup.Assembly

variable {settings : Settings} {fs : FileSystem} {source : Source} {sources : List Source}

/-! ### When a source fails -/

theorem errorOf?_isSome_iff {ε α : Type} {result : Except ε α} :
    (errorOf? result).isSome = true ↔ ∃ error, result = .error error := by
  cases result <;> simp [errorOf?]

theorem failure?_dir_isSome_iff {dir : Path} :
    (failure? settings fs (.dir dir)).isSome = true ↔
      (fs.isDir dir = true ∨ settings.failOnMissingDir = true) ∧
        ∃ error, Loader.fileConstantsDir fs dir = .error error := by
  rw [failure?, ← Bool.or_eq_true, ← errorOf?_isSome_iff]
  split
  case isTrue hcounts => simp [hcounts]
  case isFalse hnot => simp [hnot]

/-- Some source fails exactly if a document cannot be loaded, or a directory that counts. -/
theorem exists_failure_iff :
    (∃ error, (Assembly.sources settings).findSome? (failure? settings fs) = some error) ↔
      (∃ path ∈ settings.constantsFiles, ∃ error, Loader.constantsFile fs path = .error error) ∨
        ∃ dir ∈ settings.fileConstantsDirs,
          (fs.isDir dir = true ∨ settings.failOnMissingDir = true) ∧
            ∃ error, Loader.fileConstantsDir fs dir = .error error := by
  rw [← Option.isSome_iff_exists, List.findSome?_isSome_iff]
  constructor
  · rintro ⟨source, hsource, hfailure⟩
    rcases List.mem_append.mp hsource with hfile | hdir
    · obtain ⟨path, hpath, rfl⟩ := List.mem_map.mp hfile
      exact .inl ⟨path, hpath, errorOf?_isSome_iff.mp hfailure⟩
    · obtain ⟨dir, hmem, rfl⟩ := List.mem_map.mp hdir
      exact .inr ⟨dir, hmem, failure?_dir_isSome_iff.mp hfailure⟩
  · rintro (⟨path, hpath, hfails⟩ | ⟨dir, hdir, hfails⟩)
    · refine ⟨.file path, ?_, errorOf?_isSome_iff.mpr hfails⟩
      exact List.mem_append_left _ (List.mem_map_of_mem hpath)
    · refine ⟨.dir dir, ?_, failure?_dir_isSome_iff.mpr hfails⟩
      exact List.mem_append_right _ (List.mem_map_of_mem hdir)

/-! ### Missing directories -/

/-- The path of a source that should be a directory and is not. -/
def missing? (fs : FileSystem) : Source → Option Path
  | .file _ => none
  | .dir path => if fs.isDir path then none else some path

theorem eq_of_missing? {path : Path} (hmissing : missing? fs source = some path) :
    source = .dir path ∧ fs.isDir path = false := by
  cases source with
  | file file => cases hmissing
  | dir dir =>
      rw [missing?] at hmissing
      split at hmissing
      case isTrue => cases hmissing
      case isFalse hnot =>
        cases hmissing
        exact ⟨rfl, Bool.eq_false_iff.mpr hnot⟩

/-- Of a missing directory the log tells that it was passed over. -/
theorem event_of_missing? {path : Path} (hmissing : missing? fs source = some path) :
    event fs source = .skippedDirectory path.display := by
  obtain ⟨rfl, hnot⟩ := eq_of_missing? hmissing
  rw [event, load_of_not_isDir hnot]
  rfl

/-- The choice on missing directories decides about missing directories and nothing else. -/
theorem failure?_of_missing?_eq_none (hmissing : missing? fs source = none) (other : Settings) :
    failure? settings fs source = failure? other fs source := by
  cases source with
  | file path => rfl
  | dir path =>
      have hdir : fs.isDir path = true := by
        by_contra hnot
        simp [missing?, hnot] at hmissing
      simp [failure?, hdir]

theorem failure?_of_missing? {path : Path} (hmissing : missing? fs source = some path) :
    failure? settings fs source =
      if settings.failOnMissingDir then some (.notADirectory path) else none := by
  obtain ⟨rfl, hnot⟩ := eq_of_missing? hmissing
  simp only [failure?, hnot, Bool.false_or, Loader.fileConstantsDir]
  rfl

def isThere (fs : FileSystem) (source : Source) : Bool := (missing? fs source).isNone

/-- Without the missing directories, the settings have the sources that are there. -/
theorem sources_filter_isDir (settings : Settings) (fs : FileSystem) :
    Assembly.sources
        { settings with fileConstantsDirs := settings.fileConstantsDirs.filter fs.isDir } =
      (Assembly.sources settings).filter (isThere fs) := by
  have hfiles : (settings.constantsFiles.map Source.file).filter (isThere fs) =
      settings.constantsFiles.map .file := by
    apply List.filter_eq_self.mpr
    intro source hsource
    obtain ⟨path, -, rfl⟩ := List.mem_map.mp hsource
    rfl
  have hdirs : (settings.fileConstantsDirs.map Source.dir).filter (isThere fs) =
      (settings.fileConstantsDirs.filter fs.isDir).map .dir := by
    rw [List.filter_map]
    congr 1
    apply List.filter_congr
    intro path _
    cases hdir : fs.isDir path <;> simp [isThere, missing?, hdir]
  rw [Assembly.sources, Assembly.sources, List.filter_append, hfiles, hdirs]

theorem level_of_load {provider : ConstantsProvider} {loaded : Event}
    (hload : load fs source = .ok (provider, loaded)) : loaded.level = .debug := by
  cases source with
  | file path =>
      obtain ⟨constants, hfile, -⟩ := Loader.constantsProvider_ok hload
      rw [(Loader.constantsFile_ok hfile).1]
      rfl
  | dir path =>
      obtain ⟨fileConstants, hdir, -⟩ := Loader.fileConstantsProvider_ok hload
      rw [(Loader.fileConstantsDir_ok hdir).1]
      rfl

theorem isSkipped_of_missing? {path : Path} (hpassing : settings.failOnMissingDir = false)
    (hmissing : missing? fs source = some path) : isSkipped settings fs source = true := by
  obtain ⟨rfl, hnot⟩ := eq_of_missing? hmissing
  simp [isSkipped, hpassing, hnot]

theorem isSkipped_of_missing?_eq_none (hmissing : missing? fs source = none) :
    isSkipped settings fs source = false := by
  cases hskipped : isSkipped settings fs source with
  | false => rfl
  | true =>
      cases source with
      | file path => cases hskipped
      | dir path =>
          simp only [isSkipped, Bool.and_eq_true, Bool.not_eq_true'] at hskipped
          simp [missing?, hskipped.2] at hmissing

/-- Where missing directories are passed over, the loop does without them what it does with them,
their warnings apart. -/
theorem loadAll_filter_isThere {other : Settings} (hpassing : settings.failOnMissingDir = false)
    (sources : List Source) :
    loadAll other fs (sources.filter (isThere fs)) =
      ((loadAll settings fs sources).1,
        (loadAll settings fs sources).2.filter fun event => event.level ≠ .warn) := by
  induction sources with
  | nil => rfl
  | cons source rest ih =>
      cases hmissing : missing? fs source with
      | some path =>
          -- one side does not see the source, the other passes over it
          have hskipped := isSkipped_of_missing? hpassing hmissing
          have hwarning : warning source = .skippedDirectory path.display := by
            rw [(eq_of_missing? hmissing).1]
            rfl
          rw [List.filter_cons_of_neg (by simp [isThere, hmissing]), ih]
          simp [loadAll, hskipped, hwarning, Event.level]
      | none =>
          -- neither side passes over it, whatever it says of missing directories
          have hloaded (settings : Settings) : isSkipped settings fs source = false :=
            isSkipped_of_missing?_eq_none hmissing
          rw [List.filter_cons_of_pos (by simp [isThere, hmissing])]
          cases hload : load fs source with
          | error error => simp [loadAll, hloaded, hload]
          | ok result =>
              obtain ⟨provider, loaded⟩ := result
              simp [loadAll, hloaded, hload, ih, level_of_load hload]

/-- Before the first failure every missing directory is warned of, and nothing else is. -/
theorem warnings_reached (hpassing : settings.failOnMissingDir = false) (sources : List Source) :
    (((reached settings fs sources).map (event fs)).filter fun event => event.level = .warn) =
      ((reached settings fs sources).filterMap (missing? fs)).map fun path =>
        .skippedDirectory path.display := by
  induction sources with
  | nil => rfl
  | cons source rest ih =>
      cases hmissing : missing? fs source with
      | some path =>
          -- a missing directory does not fail, so what comes after it is reached
          have hfailure : failure? settings fs source = none := by
            rw [failure?_of_missing? hmissing, hpassing]
            rfl
          have hevent := event_of_missing? hmissing
          rw [reached_cons_of_none hfailure, List.map_cons, List.filterMap_cons_some hmissing,
            List.map_cons, List.filter_cons_of_pos (by simp [hevent, Event.level]), ih, hevent]
      | none =>
          have hloaded : isSkipped settings fs source = false :=
            isSkipped_of_missing?_eq_none hmissing
          rcases outcome_cases settings fs source with
            ⟨hskipped, -⟩ | ⟨error, -, -, hfailure⟩ | ⟨provider, loaded, -, hload, hfailure, -, hevent⟩
          · rw [hloaded] at hskipped
            cases hskipped
          · simp [reached, hfailure]
          · rw [reached_cons_of_none hfailure, List.map_cons, List.filterMap_cons_none hmissing,
              List.filter_cons_of_neg (by simp [hevent, level_of_load hload]), ih]

theorem level_of_mem_registrationLog {grammar : Grammar} {providers : List ConstantsProvider}
    {event : Event} (hmem : event ∈ registrationLog grammar providers) : event.level ≠ .warn := by
  cases providers with
  | nil => cases hmem
  | cons provider rest =>
      have hlast := List.getLast?_eq_some_getLast (List.cons_ne_nil provider rest)
      simp only [registrationLog, register, List.isEmpty_cons, Bool.false_eq_true, if_false,
        Resolver.registerConstantsBatch, Resolver.withGrammar, ConstantsSlot.registerBatch, hlast,
        ConstantsProvider.withMerged, Except.map, List.mem_cons, List.not_mem_nil, or_false] at hmem
      rcases hmem with rfl | rfl
      · simp [Event.level]
      · simp [Event.level]

/-! ### The two choices -/

/-- What fails where missing directories are passed over fails anyway. -/
theorem failure?_eq_none_of_failing {other : Settings} (hpassing : settings.failOnMissingDir = false)
    (hnone : failure? other fs source = none) : failure? settings fs source = none := by
  cases hmissing : missing? fs source with
  | none => rw [failure?_of_missing?_eq_none hmissing other, hnone]
  | some path =>
      rw [failure?_of_missing? hmissing, hpassing]
      rfl

/-- Where nothing fails as long as missing directories are passed over, the failures that come with
the other choice are those of the missing directories. -/
theorem failure?_of_passing {other : Settings} (hfailing : other.failOnMissingDir = true)
    (hnone : failure? settings fs source = none) :
    failure? other fs source = (missing? fs source).map .notADirectory := by
  cases hmissing : missing? fs source with
  | none => rw [failure?_of_missing?_eq_none hmissing settings, hnone, Option.map_none]
  | some path =>
      rw [failure?_of_missing? hmissing, hfailing]
      rfl

theorem findSome?_missing?_of_passing {other : Settings} (hfailing : other.failOnMissingDir = true)
    (hnone : sources.findSome? (failure? settings fs) = none) {failure : LoaderError}
    (hfirst : sources.findSome? (failure? other fs) = some failure) :
    ∃ path, sources.findSome? (missing? fs) = some path ∧ failure = .notADirectory path := by
  rw [List.findSome?_eq_none_iff] at hnone
  induction sources with
  | nil => cases hfirst
  | cons source rest ih =>
      obtain ⟨hsource, hrest⟩ := List.forall_mem_cons.mp hnone
      rw [List.findSome?_cons, failure?_of_passing hfailing hsource] at hfirst
      rw [List.findSome?_cons]
      cases hmissing : missing? fs source with
      | some path =>
          rw [hmissing] at hfirst
          cases hfirst
          exact ⟨path, rfl, rfl⟩
      | none =>
          rw [hmissing] at hfirst
          exact ih hrest hfirst

theorem findSome?_missing? (settings : Settings) (fs : FileSystem) :
    (Assembly.sources settings).findSome? (missing? fs) =
      settings.fileConstantsDirs.find? fun dir => !fs.isDir dir := by
  have hfiles : (settings.constantsFiles.map Source.file).findSome? (missing? fs) = none := by
    rw [List.findSome?_eq_none_iff]
    intro source hsource
    obtain ⟨path, -, rfl⟩ := List.mem_map.mp hsource
    rfl
  rw [Assembly.sources, List.findSome?_append, hfiles, Option.none_or]
  induction settings.fileConstantsDirs with
  | nil => rfl
  | cons dir rest ih =>
      rw [List.map_cons, List.findSome?_cons, List.find?_cons, missing?]
      cases fs.isDir dir with
      | true => exact ih
      | false => rfl

/-! ### Whole assemblies -/

/-- Where missing directories are passed over, the outcome is that of settings without them. -/
theorem build_filter_isDir (settings : Settings) (fs : FileSystem)
    (hpassing : settings.failOnMissingDir = false) :
    build { settings with fileConstantsDirs := settings.fileConstantsDirs.filter fs.isDir } fs =
      ((build settings fs).1,
        (build settings fs).2.filter fun event => event.level ≠ .warn) := by
  have hlog (grammar : Grammar) (providers : List ConstantsProvider) :
      (registrationLog grammar providers).filter (fun event => event.level ≠ .warn) =
        registrationLog grammar providers := by
    apply List.filter_eq_self.mpr
    intro event hevent
    exact decide_eq_true (level_of_mem_registrationLog hevent)
  -- the loop gives the same providers, and those decide what is registered and told
  simp only [build, sources_filter_isDir, loadAll_filter_isThere hpassing]
  cases (loadAll settings fs (Assembly.sources settings)).1 with
  | error error => rfl
  | ok providers =>
      simp only [register_eq, List.filter_append, hlog]

/-- The warnings are those of the missing directories before the first failure, in order. -/
theorem warnings_build (settings : Settings) (fs : FileSystem)
    (hpassing : settings.failOnMissingDir = false) :
    ((build settings fs).2.filter fun event => event.level = .warn) =
      ((reached settings fs (Assembly.sources settings)).filterMap (missing? fs)).map fun path =>
        .skippedDirectory path.display := by
  rw [build_snd, List.filter_append, warnings_reached hpassing]
  cases (Assembly.sources settings).findSome? (failure? settings fs) with
  | some failure => simp
  | none =>
      have hlog : ((registrationLog settings.grammar
          ((Assembly.sources settings).filterMap (provider? fs))).filter fun event =>
            event.level = .warn) = [] := by
        apply List.filter_eq_nil_iff.mpr
        intro event hevent
        simpa using level_of_mem_registrationLog hevent
      simp only [hlog, List.append_nil]

/-- Assembling never fails to register. It fails if some document cannot be loaded or some directory
cannot, where a path that is not a directory counts only if the settings say so, and the first of
these failures, documents before directories, is the outcome. Where missing directories are passed
over, outcome and log are those of settings without them, but for a warning for each one before the
first failure. What can be assembled where missing directories are failures can be assembled, to the
same resolver, where they are passed over; if only the latter succeeds, the failure is that of the
first missing directory. -/
theorem first_failure_decides (settings : Settings) (fs : FileSystem) :
    (∀ refusal, (build settings fs).1 ≠ .error (.registration refusal)) ∧
    ((∃ error, (build settings fs).1 = .error error) ↔
      (∃ path ∈ settings.constantsFiles, ∃ error, Loader.constantsFile fs path = .error error) ∨
        ∃ dir ∈ settings.fileConstantsDirs,
          (fs.isDir dir = true ∨ settings.failOnMissingDir = true) ∧
            ∃ error, Loader.fileConstantsDir fs dir = .error error) ∧
    (∀ error, (build settings fs).1 = .error (.loader error) ↔
      (settings.constantsFiles.map Source.file ++
        settings.fileConstantsDirs.map Source.dir).findSome? (failure? settings fs) =
          some error) ∧
    (settings.failOnMissingDir = false →
      (build settings fs).1 =
        (build { settings with
          fileConstantsDirs := settings.fileConstantsDirs.filter fs.isDir } fs).1 ∧
      ((build settings fs).2.filter fun event => event.level = .warn) =
        ((reached settings fs (Assembly.sources settings)).filterMap (missing? fs)).map
          (fun path => .skippedDirectory path.display) ∧
      ((build settings fs).2.filter fun event => event.level ≠ .warn) =
        (build { settings with
          fileConstantsDirs := settings.fileConstantsDirs.filter fs.isDir } fs).2) ∧
    (∀ resolver, (build { settings with failOnMissingDir := true } fs).1 = .ok resolver →
      (build { settings with failOnMissingDir := false } fs).1 = .ok resolver) ∧
    ∀ resolver error, (build { settings with failOnMissingDir := false } fs).1 = .ok resolver →
      (build { settings with failOnMissingDir := true } fs).1 = .error error →
        ∃ dir, settings.fileConstantsDirs.find? (fun dir => !fs.isDir dir) = some dir ∧
          error = .loader (.notADirectory dir) := by
  refine ⟨?_, ?_, ?_, ?_, ?_, ?_⟩
  · intro refusal herror
    obtain ⟨failure, -, hfailure⟩ := build_eq_error_iff.mp herror
    cases hfailure
  · rw [← exists_failure_iff]
    constructor
    · rintro ⟨error, herror⟩
      obtain ⟨failure, hfirst, -⟩ := build_eq_error_iff.mp herror
      exact ⟨failure, hfirst⟩
    · rintro ⟨failure, hfirst⟩
      exact ⟨_, build_eq_error_iff.mpr ⟨failure, hfirst, rfl⟩⟩
  · intro error
    rw [build_eq_error_iff]
    constructor
    · rintro ⟨failure, hfirst, hsame⟩
      cases hsame
      exact hfirst
    · intro hfirst
      exact ⟨error, hfirst, rfl⟩
  · intro hpassing
    have hpruned := build_filter_isDir settings fs hpassing
    refine ⟨?_, warnings_build settings fs hpassing, ?_⟩
    · rw [hpruned]
    · rw [hpruned]
  · intro resolver hstrict
    obtain ⟨hnone, hresolver⟩ := build_eq_ok_iff.mp hstrict
    apply build_eq_ok_iff.mpr
    refine ⟨?_, hresolver⟩
    rw [List.findSome?_eq_none_iff] at hnone ⊢
    intro source hsource
    exact failure?_eq_none_of_failing rfl (hnone source hsource)
  · intro resolver error hpassing hstrict
    obtain ⟨hnone, -⟩ := build_eq_ok_iff.mp hpassing
    obtain ⟨failure, hfirst, herror⟩ := build_eq_error_iff.mp hstrict
    obtain ⟨dir, hmissing, rfl⟩ := findSome?_missing?_of_passing rfl hnone hfirst
    rw [findSome?_missing?] at hmissing
    exact ⟨dir, hmissing, herror⟩

def emptyDirectory (dir : Path) : FileSystem where
  content path := .error (.notFound path)
  text path := .error (.notFound path)
  isDir path := path = dir
  isFile _ := false
  paths _ := .ok []

def twoDirectories : Settings := { fileConstantsDirs := [⟨[0x61]⟩, ⟨[0x62]⟩] }

theorem first_failure_decides_twoDirectories :
    (twoDirectories.failOnMissingDir = false ∧
      (build twoDirectories (emptyDirectory ⟨[0x61]⟩)).1 =
        (build { fileConstantsDirs := [⟨[0x61]⟩] } (emptyDirectory ⟨[0x61]⟩)).1) ∧
    ((build { fileConstantsDirs := [⟨[0x61]⟩], failOnMissingDir := true }
        (emptyDirectory ⟨[0x61]⟩)).1 = .ok (assembled .lenient [{}]) ∧
      (build { fileConstantsDirs := [⟨[0x61]⟩] } (emptyDirectory ⟨[0x61]⟩)).1 =
        .ok (assembled .lenient [{}])) ∧
    ((build twoDirectories (emptyDirectory ⟨[0x61]⟩)).1 = .ok (assembled .lenient [{}]) ∧
      (build { twoDirectories with failOnMissingDir := true } (emptyDirectory ⟨[0x61]⟩)).1 =
        .error (.loader (.notADirectory ⟨[0x62]⟩)) ∧
      ∃ dir, twoDirectories.fileConstantsDirs.find?
          (fun dir => !(emptyDirectory ⟨[0x61]⟩).isDir dir) = some dir ∧
        AssemblyError.loader (.notADirectory ⟨[0x62]⟩) = .loader (.notADirectory dir)) := by
  obtain ⟨-, -, -, hpassing, -, hfirst⟩ :=
    first_failure_decides twoDirectories (emptyDirectory ⟨[0x61]⟩)
  obtain ⟨-, -, -, -, hstrict, -⟩ :=
    first_failure_decides { fileConstantsDirs := [⟨[0x61]⟩] } (emptyDirectory ⟨[0x61]⟩)
  refine ⟨⟨rfl, (hpassing rfl).1⟩, ⟨rfl, hstrict _ rfl⟩, rfl, rfl, ?_⟩
  exact hfirst _ _ rfl rfl

end SigilLookup.Assembly
