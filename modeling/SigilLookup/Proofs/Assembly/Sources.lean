import SigilLookup.Assembly
import SigilLookup.Proofs.Loader.Constants
import SigilLookup.Proofs.Registration.Slot

/-!
# What assembling does

The loop over the sources stops at the first one that fails. This module says what each source
comes to (`Assembly.outcome_cases`), what the loop leaves of that, as an outcome (`loadAll_fst`) and
as a log (`loadAll_snd`), and what is assembled in the end (`build_fst`, `build_snd`). The empty
batch, which an empty slot would refuse, is never registered, so the only failures left are those
of sources.
-/

namespace SigilLookup.Assembly

variable {settings : Settings} {fs : FileSystem} {source : Source}

/-! ### One source -/

def errorOf? {ε α : Type} : Except ε α → Option ε
  | .error error => some error
  | .ok _ => none

/-- Why a source fails. A path that is not a directory counts only if the settings say so. -/
def failure? (settings : Settings) (fs : FileSystem) : Source → Option LoaderError
  | .file path => errorOf? (Loader.constantsFile fs path)
  | .dir path =>
    if fs.isDir path || settings.failOnMissingDir then errorOf? (Loader.fileConstantsDir fs path)
    else none

def provider? (fs : FileSystem) (source : Source) : Option ConstantsProvider :=
  (load fs source).toOption.map Prod.fst

/-- What the log says of a source that does not fail: that it was loaded, or passed over. -/
def event (fs : FileSystem) (source : Source) : Event :=
  match load fs source with
  | .ok (_, event) => event
  | .error _ => warning source

theorem errorOf?_constantsProvider (fs : FileSystem) (path : Path) :
    errorOf? (Loader.constantsProvider fs path) = errorOf? (Loader.constantsFile fs path) := by
  unfold Loader.constantsProvider
  cases Loader.constantsFile fs path <;> rfl

theorem errorOf?_fileConstantsProvider (fs : FileSystem) (dir : Path) :
    errorOf? (Loader.fileConstantsProvider fs dir) =
      errorOf? (Loader.fileConstantsDir fs dir) := by
  unfold Loader.fileConstantsProvider
  cases Loader.fileConstantsDir fs dir <;> rfl

theorem failure?_eq (settings : Settings) (fs : FileSystem) (source : Source) :
    failure? settings fs source =
      if isSkipped settings fs source then none else errorOf? (load fs source) := by
  cases source with
  | file path => exact (errorOf?_constantsProvider fs path).symm
  | dir path =>
      simp only [failure?, isSkipped, load, errorOf?_fileConstantsProvider]
      cases fs.isDir path <;> cases settings.failOnMissingDir <;> rfl

/-- What is not a directory cannot be loaded as one. -/
theorem load_of_not_isDir {path : Path} (hnot : fs.isDir path = false) :
    load fs (.dir path) = .error (.notADirectory path) := by
  simp only [load, Loader.fileConstantsProvider, Loader.fileConstantsDir, hnot]
  rfl

theorem load_of_isSkipped (hskipped : isSkipped settings fs source = true) :
    ∃ error, load fs source = .error error := by
  cases source with
  | file path => cases hskipped
  | dir path =>
      simp only [isSkipped, Bool.and_eq_true, Bool.not_eq_true'] at hskipped
      exact ⟨_, load_of_not_isDir hskipped.2⟩

/-- A source is passed over, or fails, or gives a provider. -/
theorem outcome_cases (settings : Settings) (fs : FileSystem) (source : Source) :
    (isSkipped settings fs source = true ∧ failure? settings fs source = none ∧
      provider? fs source = none ∧ event fs source = warning source) ∨
    (∃ error, isSkipped settings fs source = false ∧ load fs source = .error error ∧
      failure? settings fs source = some error) ∨
    (∃ provider loaded, isSkipped settings fs source = false ∧
      load fs source = .ok (provider, loaded) ∧ failure? settings fs source = none ∧
      provider? fs source = some provider ∧ event fs source = loaded) := by
  rw [failure?_eq]
  cases hskipped : isSkipped settings fs source with
  | true =>
      obtain ⟨error, hload⟩ := load_of_isSkipped hskipped
      exact .inl ⟨rfl, rfl, by rw [provider?, hload]; rfl, by rw [event, hload]⟩
  | false =>
      cases hload : load fs source with
      | error error => exact .inr (.inl ⟨error, rfl, rfl, rfl⟩)
      | ok result =>
          obtain ⟨provider, loaded⟩ := result
          exact .inr (.inr ⟨provider, loaded, rfl, rfl, rfl, by rw [provider?, hload]; rfl,
            by rw [event, hload]⟩)

/-! ### The loop -/

/-- The first failure decides; without one, the providers come in order. -/
theorem loadAll_fst (settings : Settings) (fs : FileSystem) (sources : List Source) :
    (loadAll settings fs sources).1 =
      match sources.findSome? (failure? settings fs) with
      | some error => .error error
      | none => .ok (sources.filterMap (provider? fs)) := by
  induction sources with
  | nil => rfl
  | cons source rest ih =>
      rcases outcome_cases settings fs source with
        ⟨hskipped, hfailure, hprovider, -⟩ | ⟨error, hskipped, hload, hfailure⟩ |
        ⟨provider, loaded, hskipped, hload, hfailure, hprovider, -⟩
      · rw [List.findSome?_cons, hfailure, List.filterMap_cons_none hprovider, ← ih]
        simp [loadAll, hskipped]
      · rw [List.findSome?_cons, hfailure]
        simp [loadAll, hskipped, hload]
      · rw [List.findSome?_cons, hfailure, List.filterMap_cons_some hprovider]
        simp only [loadAll, hskipped, hload, Bool.false_eq_true, if_false, ih]
        cases rest.findSome? (failure? settings fs) <;> rfl

def reached (settings : Settings) (fs : FileSystem) (sources : List Source) : List Source :=
  sources.takeWhile fun source => (failure? settings fs source).isNone

theorem reached_cons_of_none {rest : List Source} (hfailure : failure? settings fs source = none) :
    reached settings fs (source :: rest) = source :: reached settings fs rest := by
  simp [reached, hfailure]

/-- The log tells of the sources before the first failure, and of no other. -/
theorem loadAll_snd (settings : Settings) (fs : FileSystem) (sources : List Source) :
    (loadAll settings fs sources).2 = (reached settings fs sources).map (event fs) := by
  induction sources with
  | nil => rfl
  | cons source rest ih =>
      rcases outcome_cases settings fs source with
        ⟨hskipped, hfailure, -, hevent⟩ | ⟨error, hskipped, hload, hfailure⟩ |
        ⟨provider, loaded, hskipped, hload, hfailure, -, hevent⟩
      · rw [reached_cons_of_none hfailure, List.map_cons, hevent, ← ih]
        simp [loadAll, hskipped]
      · simp [loadAll, hskipped, hload, reached, hfailure]
      · rw [reached_cons_of_none hfailure, List.map_cons, hevent, ← ih]
        simp [loadAll, hskipped, hload]

/-! ### The end -/

/-- A resolver on which a batch of providers was registered, unless the batch is empty. -/
def assembled (grammar : Grammar) (providers : List ConstantsProvider) : Resolver :=
  { Resolver.withGrammar grammar with constants := Slot.take none providers }

def registrationLog (grammar : Grammar) (providers : List ConstantsProvider) : List Event :=
  match register (.withGrammar grammar) providers with
  | .ok (_, events) => events
  | .error _ => []

/-- Registering cannot fail: a batch without providers is not registered at all. -/
theorem register_eq (grammar : Grammar) (providers : List ConstantsProvider) :
    register (.withGrammar grammar) providers =
      .ok (assembled grammar providers, registrationLog grammar providers) := by
  -- the log is whatever it is; what matters is that there is no refusal
  have hdone : ∃ events, register (.withGrammar grammar) providers =
      .ok (assembled grammar providers, events) := by
    cases providers with
    | nil => exact ⟨[], rfl⟩
    | cons provider rest =>
        simp only [register, List.isEmpty_cons, Bool.false_eq_true, if_false,
          Resolver.registerConstantsBatch]
        cases hbatch : (Resolver.withGrammar grammar).constants.registerBatch (provider :: rest) with
        | ok result =>
            have htake : some result.1 = Slot.take none (provider :: rest) :=
              ConstantsSlot.registerBatch_take hbatch
            simp only [assembled, ← htake]
            exact ⟨_, rfl⟩
        | error error =>
            obtain ⟨-, hnil, -⟩ := ConstantsSlot.registerBatch_error_iff.mp hbatch
            cases hnil
  obtain ⟨events, hevents⟩ := hdone
  rw [registrationLog, hevents]

theorem build_fst (settings : Settings) (fs : FileSystem) :
    (build settings fs).1 =
      match (sources settings).findSome? (failure? settings fs) with
      | some error => .error (.loader error)
      | none => .ok (assembled settings.grammar ((sources settings).filterMap (provider? fs))) := by
  have houtcome := loadAll_fst settings fs (sources settings)
  unfold build
  split at houtcome
  all_goals simp only [houtcome, register_eq]

theorem build_snd (settings : Settings) (fs : FileSystem) :
    (build settings fs).2 =
      (reached settings fs (sources settings)).map (event fs) ++
        match (sources settings).findSome? (failure? settings fs) with
        | some _ => []
        | none => registrationLog settings.grammar
            ((sources settings).filterMap (provider? fs)) := by
  have houtcome := loadAll_fst settings fs (sources settings)
  have hlog := loadAll_snd settings fs (sources settings)
  unfold build
  split at houtcome
  all_goals simp [houtcome, hlog, register_eq]

/-- Assembling fails exactly as the first source does that fails. -/
theorem build_eq_error_iff {error : AssemblyError} :
    (build settings fs).1 = .error error ↔
      ∃ failure, (sources settings).findSome? (failure? settings fs) = some failure ∧
        error = .loader failure := by
  rw [build_fst]
  cases (sources settings).findSome? (failure? settings fs) with
  | none => simp
  | some failure => simp [eq_comm]

theorem build_eq_ok_iff {resolver : Resolver} :
    (build settings fs).1 = .ok resolver ↔
      (sources settings).findSome? (failure? settings fs) = none ∧
        resolver = assembled settings.grammar ((sources settings).filterMap (provider? fs)) := by
  rw [build_fst]
  cases (sources settings).findSome? (failure? settings fs) with
  | none => simp [eq_comm]
  | some failure => simp

end SigilLookup.Assembly
