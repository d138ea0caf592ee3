import Mathlib.Data.List.Forall2
import SigilLookup.Proofs.Assembly.Sources
import SigilLookup.Proofs.Registration.Batch
import SigilLookup.Proofs.Session.Separation

/-!
# Assembling as registering in turn

An assembled resolver cannot be told from one on which the providers of the configured sources were
registered one after another. What it answers can therefore be read off the sources: the last
document with a name decides the constant, the last directory with a name the file constant, and the
two never meet, since no document brings a file constant and no directory a constant.
-/

namespace SigilLookup

/-- The answer that a value found for a constant gives; where none was found, it depends on whether
anything is registered. -/
def Resolver.answerFound (resolver : Resolver) (failure : ProviderError) :
    Option Value → Except ResolveError Value
  | some value => .ok value
  | none => .error (if resolver.hasConstants then .provider failure else .providerMissing .constants)

def Loader.memberNames (fs : FileSystem) (path : Path) : List String :=
  ((document? fs path).map Json.memberNames).getD []

/-- Maps that give what is found at places give, as a merge, what is found at the last place. -/
theorem OrderedMap.lastValue?_of_forall₂ {P α : Type} {places : List P}
    {maps : List (OrderedMap α)} {found : P → Option α} {name : String}
    (hmaps : List.Forall₂ (fun place map => map.get? name = found place) places maps) :
    lastValue? name maps = places.reverse.findSome? found := by
  induction hmaps with
  | nil => rfl
  | cons hfirst hrest ih =>
      rw [lastValue?_cons, ih, hfirst, List.reverse_cons, List.findSome?_append]
      simp

/-! ### Related lists -/

section Related

variable {α β γ : Type} {R : α → β → Prop} {xs : List α} {ys : List β}

theorem forall₂_filterMap {f : α → Option β} (hsome : ∀ x ∈ xs, ∃ y, f x = some y ∧ R x y) :
    List.Forall₂ R xs (xs.filterMap f) := by
  induction xs with
  | nil => exact .nil
  | cons x rest ih =>
      obtain ⟨⟨y, hy, hrelated⟩, hrest⟩ := List.forall_mem_cons.mp hsome
      rw [List.filterMap_cons_some hy]
      exact .cons hrelated (ih hrest)

theorem forall_mem_right_of_forall₂ (hrelated : List.Forall₂ R xs ys) {S : β → Prop}
    (hright : ∀ x y, R x y → S y) : ∀ y ∈ ys, S y := by
  induction hrelated with
  | nil => simp
  | cons hfirst _ ih => exact List.forall_mem_cons.mpr ⟨hright _ _ hfirst, ih⟩

theorem flatMap_eq_of_forall₂ (hrelated : List.Forall₂ R xs ys) {f : α → List γ} {g : β → List γ}
    (hsame : ∀ x y, R x y → g y = f x) : ys.flatMap g = xs.flatMap f := by
  induction hrelated with
  | nil => rfl
  | cons hfirst _ ih => rw [List.flatMap_cons, List.flatMap_cons, hsame _ _ hfirst, ih]

end Related

namespace Assembly

variable {settings : Settings} {fs : FileSystem} {source : Source} {resolver : Resolver}

/-! ### Providers of sources -/

structure FileGives (fs : FileSystem) (path : Path) (provider : ConstantsProvider) : Prop where
  loads : ∃ event, Loader.constantsProvider fs path = .ok (provider, event)
  members : ∃ members, Loader.document? fs path = some (.obj members) ∧
    Members.Ascending members
  names : provider.constants.names = Loader.memberNames fs path
  value : ∀ name, provider.constants.get? name =
    ((Loader.document? fs path).bind (Json.member? name)).map .json
  fileConstants : provider.fileConstants = .empty
  defaultLookups : provider.DefaultLookups

structure DirGives (fs : FileSystem) (dir : Path) (provider : ConstantsProvider) : Prop where
  loads : ∃ event, Loader.fileConstantsProvider fs dir = .ok (provider, event)
  value : ∀ name, provider.fileConstants.get? name = (Loader.fileContent? fs dir name).map .bytes
  constants : provider.constants = .empty
  defaultLookups : provider.DefaultLookups

theorem fileGives_of_load {path : Path} {provider : ConstantsProvider} {event : Event}
    (hload : Loader.constantsProvider fs path = .ok (provider, event)) :
    FileGives fs path provider := by
  obtain ⟨constants, hfile, rfl⟩ := Loader.constantsProvider_ok hload
  obtain ⟨-, document, hdocument, hordered, hmap⟩ := Loader.constantsFile_ok hfile
  obtain ⟨hnames, hvalue⟩ := ConstantMap.of_ofJson? hordered hmap
  refine ⟨⟨event, hload⟩, ?_, ?_, ?_, rfl, ⟨rfl, rfl⟩⟩
  · cases document with
    | obj members => exact ⟨members, hdocument, hordered members rfl⟩
    | _ => cases hmap
  · rw [hnames, Loader.memberNames, hdocument]
    rfl
  · intro name
    rw [hvalue, hdocument]
    rfl

theorem dirGives_of_load {dir : Path} {provider : ConstantsProvider} {event : Event}
    (hload : Loader.fileConstantsProvider fs dir = .ok (provider, event)) :
    DirGives fs dir provider := by
  obtain ⟨fileConstants, hdir, rfl⟩ := Loader.fileConstantsProvider_ok hload
  obtain ⟨-, -, rfl⟩ := Loader.fileConstantsDir_ok hdir
  exact ⟨⟨event, hload⟩, Loader.get?_fileConstants fs dir, rfl, ⟨rfl, rfl⟩⟩

theorem exists_provider (hfailure : failure? settings fs source = none)
    (hloaded : isSkipped settings fs source = false) :
    ∃ provider event, load fs source = .ok (provider, event) ∧
      provider? fs source = some provider := by
  rcases outcome_cases settings fs source with
    ⟨hskipped, -⟩ | ⟨error, -, -, hfails⟩ | ⟨provider, event, -, hload, -, hprovider, -⟩
  · rw [hloaded] at hskipped
    cases hskipped
  · rw [hfailure] at hfails
    cases hfails
  · exact ⟨provider, event, hload, hprovider⟩

theorem provider?_of_not_isDir {dir : Path} (hnot : fs.isDir dir = false) :
    provider? fs (.dir dir) = none := by
  rw [provider?, load_of_not_isDir hnot]
  rfl

/-- Where nothing fails, every document and every directory gives a provider, and nothing else
does. -/
theorem exists_providers (hnone : (sources settings).findSome? (failure? settings fs) = none) :
    ∃ files dirs : List ConstantsProvider,
      (sources settings).filterMap (provider? fs) = files ++ dirs ∧
      List.Forall₂ (FileGives fs) settings.constantsFiles files ∧
      List.Forall₂ (DirGives fs) (settings.fileConstantsDirs.filter fs.isDir) dirs := by
  rw [List.findSome?_eq_none_iff] at hnone
  refine ⟨settings.constantsFiles.filterMap fun path => provider? fs (.file path),
    (settings.fileConstantsDirs.filter fs.isDir).filterMap fun dir => provider? fs (.dir dir),
    ?_, ?_, ?_⟩
  · rw [sources, List.filterMap_append, List.filterMap_map, List.filterMap_map,
      List.filterMap_filter]
    congr 2
    -- what is not a directory gives no provider, so it may as well be left out
    funext dir
    cases hdir : fs.isDir dir with
    | true => rfl
    | false => exact provider?_of_not_isDir hdir
  · apply forall₂_filterMap
    intro path hpath
    have hfailure := hnone (.file path) (List.mem_append_left _ (List.mem_map_of_mem hpath))
    obtain ⟨provider, event, hload, hprovider⟩ := exists_provider hfailure rfl
    exact ⟨provider, hprovider, fileGives_of_load hload⟩
  · apply forall₂_filterMap
    intro dir hdir
    obtain ⟨hmem, hthere⟩ := List.mem_filter.mp hdir
    have hfailure := hnone (.dir dir) (List.mem_append_right _ (List.mem_map_of_mem hmem))
    have hloaded : isSkipped settings fs (.dir dir) = false := by
      simp [isSkipped, hthere]
    obtain ⟨provider, event, hload, hprovider⟩ := exists_provider hfailure hloaded
    exact ⟨provider, hprovider, dirGives_of_load hload⟩

/-! ### The assembled resolver -/

theorem hasConstants_assembled (grammar : Grammar) (providers : List ConstantsProvider) :
    (assembled grammar providers).hasConstants = !providers.isEmpty := by
  cases providers with
  | nil => rfl
  | cons provider rest =>
      have hlast := List.getLast?_eq_some_getLast (List.cons_ne_nil provider rest)
      simp [assembled, Resolver.hasConstants, Slot.take, hlast]

theorem defaultLookups_assembled {grammar : Grammar} {providers : List ConstantsProvider}
    (hdefault : ∀ provider ∈ providers, provider.DefaultLookups) :
    (assembled grammar providers).DefaultLookups := by
  constructor
  · intro provider hprovider
    cases hprovider
  · have hempty : ∀ provider ∈ (none : ConstantsSlot), provider.DefaultLookups := by
      intro provider hprovider
      cases hprovider
    exact ConstantsSlot.defaultLookups_take hempty hdefault

/-- The batch on the empty slot cannot be told from its members in turn. -/
theorem assembled_eq_run (grammar : Grammar) (calls : Calls) {providers : List ConstantsProvider}
    (hdefault : ∀ provider ∈ providers, provider.DefaultLookups) :
    ({ resolver := assembled grammar providers, calls } : Session).SameState
      ((Session.start grammar calls).run (providers.map .registerConstants)) where
  resolver := by
    have hrun := ProviderFamily.resolver_run_singles (Session.start grammar calls) providers
    rw [ProviderFamily.foldl_take_singletons
      (.inr (ConstantsProvider.exists_emptied_of_default hdefault))] at hrun
    exact hrun.symm
  calls := (ProviderFamily.calls_run_singles (Session.start grammar calls) providers).symm

section Maps

variable (part : HeldMap) (grammar : Grammar) (providers : List ConstantsProvider)

theorem map_assembled :
    (assembled grammar providers).constants.map part.content =
      ConstantMap.gather none (providers.map part.content) :=
  ConstantsSlot.map_take part.content_emptied part.content_absorb none providers

/-- The names are those of all maps, each at its first occurrence. -/
theorem names_assembled :
    (((assembled grammar providers).constants.map part.content).map OrderedMap.names).getD [] =
      ((providers.map part.content).flatMap OrderedMap.names).eraseDups := by
  rw [map_assembled]
  cases providers with
  | nil => rfl
  | cons provider rest =>
      rw [ConstantMap.gather_none_of_ne_nil (by simp)]
      exact OrderedMap.names_merge OrderedMap.empty _

/-- Of the maps of all providers, the last one with the name decides the answer. -/
theorem answerOf_assembled (failure : ProviderError) (name : String) :
    Session.answerOf failure name ((assembled grammar providers).constants.map part.content) =
      (assembled grammar providers).answerFound failure
        (OrderedMap.lastValue? name (providers.map part.content)) := by
  rw [map_assembled]
  cases providers with
  | nil => rfl
  | cons provider rest =>
      rw [ConstantMap.gather_none_of_ne_nil (by simp), Session.answerOf, OrderedMap.get?_merge,
        OrderedMap.get?_empty, Option.or_none]
      cases OrderedMap.lastValue? name ((provider :: rest).map part.content) with
      | some value => rfl
      | none =>
          rw [Resolver.answerFound, hasConstants_assembled]
          rfl

theorem answer_assembled {grammar : Grammar} {providers : List ConstantsProvider}
    (hdefault : ∀ provider ∈ providers, provider.DefaultLookups) (calls : Calls)
    {text name : String} (hparse : grammar.parse text = .ok ⟨part.kind, name⟩) :
    ((assembled grammar providers).resolve calls text).answer =
      (assembled grammar providers).answerFound (part.failure name)
        (OrderedMap.lastValue? name (providers.map part.content)) := by
  have hanswer : ({ resolver := assembled grammar providers, calls } : Session).answer text = _ :=
    Session.answer_heldMap part (defaultLookups_assembled hdefault) hparse
  rw [answerOf_assembled] at hanswer
  exact hanswer

end Maps

theorem constantNames_eq (resolver : Resolver) :
    resolver.constantNames =
      ((resolver.constants.map ConstantsProvider.constants).map OrderedMap.names).getD [] := by
  unfold Resolver.constantNames
  cases resolver.constants <;> rfl

/-! ### What the sources decide -/

section Sources

variable {files dirs : List ConstantsProvider} {paths dirPaths : List Path}
  (hfiles : List.Forall₂ (FileGives fs) paths files)
  (hdirs : List.Forall₂ (DirGives fs) dirPaths dirs)

include hfiles hdirs

theorem defaultLookups_of_gives : ∀ provider ∈ files ++ dirs, provider.DefaultLookups := by
  intro provider hprovider
  rcases List.mem_append.mp hprovider with hfile | hdir
  · exact forall_mem_right_of_forall₂ hfiles (fun _ _ hgives => hgives.defaultLookups) _ hfile
  · exact forall_mem_right_of_forall₂ hdirs (fun _ _ hgives => hgives.defaultLookups) _ hdir

theorem lastConstant?_of_gives (name : String) :
    OrderedMap.lastValue? name ((files ++ dirs).map ConstantsProvider.constants) =
      (paths.reverse.findSome? fun path =>
        (Loader.document? fs path).bind (Json.member? name)).map .json := by
  have hempty : ∀ map ∈ dirs.map ConstantsProvider.constants, map = .empty := by
    rw [List.forall_mem_map]
    exact forall_mem_right_of_forall₂ hdirs fun _ _ hgives => hgives.constants
  have hfound : List.Forall₂ (fun path (map : ConstantMap) => map.get? name =
      ((Loader.document? fs path).bind (Json.member? name)).map Value.json)
      paths (files.map ConstantsProvider.constants) :=
    List.forall₂_map_right_iff.mpr (hfiles.imp fun _ _ hgives => hgives.value name)
  rw [List.map_append, OrderedMap.lastValue?_append,
    OrderedMap.lastValue?_of_forall_empty hempty, Option.none_or,
    OrderedMap.lastValue?_of_forall₂ hfound, List.map_findSome?]
  rfl

theorem lastFileConstant?_of_gives (name : String) :
    OrderedMap.lastValue? name ((files ++ dirs).map ConstantsProvider.fileConstants) =
      (dirPaths.reverse.findSome? fun dir => Loader.fileContent? fs dir name).map .bytes := by
  have hempty : ∀ map ∈ files.map ConstantsProvider.fileConstants, map = .empty := by
    rw [List.forall_mem_map]
    exact forall_mem_right_of_forall₂ hfiles fun _ _ hgives => hgives.fileConstants
  have hfound : List.Forall₂ (fun dir (map : ConstantMap) => map.get? name =
      (Loader.fileContent? fs dir name).map Value.bytes)
      dirPaths (dirs.map ConstantsProvider.fileConstants) :=
    List.forall₂_map_right_iff.mpr (hdirs.imp fun _ _ hgives => hgives.value name)
  rw [List.map_append, OrderedMap.lastValue?_append,
    OrderedMap.lastValue?_of_forall_empty hempty, Option.or_none,
    OrderedMap.lastValue?_of_forall₂ hfound, List.map_findSome?]
  rfl

theorem flatMap_names_of_gives :
    ((files ++ dirs).map ConstantsProvider.constants).flatMap OrderedMap.names =
      paths.flatMap (Loader.memberNames fs) := by
  have hfileNames : files.flatMap (fun provider => provider.constants.names) =
      paths.flatMap (Loader.memberNames fs) :=
    flatMap_eq_of_forall₂ hfiles fun _ _ hgives => hgives.names
  have hdirNames : dirs.flatMap (fun provider => provider.constants.names) = [] := by
    rw [List.flatMap_eq_nil_iff]
    refine forall_mem_right_of_forall₂ hdirs ?_
    intro dir provider hgives
    rw [hgives.constants, OrderedMap.names_empty]
  rw [List.flatMap_map, List.flatMap_append, hfileNames, hdirNames, List.append_nil]

end Sources

end Assembly

/-- An assembled resolver cannot be told from a fresh one on which the providers of the configured
sources were registered one after another, documents first. So a constant is the member of the last
document with the name, as data, and a file constant the content of the last directory with the
name, as bytes; the names are listed in the order of the documents, ascending within each, at their
first occurrence. A constants provider is registered exactly if there is a source, and no computed
provider is. -/
theorem assembled_as_registered_in_turn (settings : Settings) (fs : FileSystem) (calls : Calls)
    {resolver : Resolver} (hbuild : (Assembly.build settings fs).1 = .ok resolver) :
    (∃ files dirs : List ConstantsProvider,
      List.Forall₂ (fun path provider =>
        ∃ event, Loader.constantsProvider fs path = .ok (provider, event))
        settings.constantsFiles files ∧
      List.Forall₂ (fun dir provider =>
        ∃ event, Loader.fileConstantsProvider fs dir = .ok (provider, event))
        (settings.fileConstantsDirs.filter fs.isDir) dirs ∧
      ({ resolver, calls } : Session).Indistinguishable
        ((Session.start settings.grammar calls).run ((files ++ dirs).map .registerConstants))) ∧
    (∀ path ∈ settings.constantsFiles, ∃ members,
      Loader.document? fs path = some (.obj members) ∧
      ((Entries.names members).map Utf8.encode).Pairwise (· < ·)) ∧
    (∀ text name, settings.grammar.parse text = .ok ⟨.constant, name⟩ →
      (resolver.resolve calls text).answer = resolver.answerFound (.unknownConstant name)
        ((settings.constantsFiles.reverse.findSome? fun path =>
          (Loader.document? fs path).bind (Json.member? name)).map .json)) ∧
    (∀ text name, settings.grammar.parse text = .ok ⟨.fileConstant, name⟩ →
      (resolver.resolve calls text).answer = resolver.answerFound (.unknownFileConstant name)
        (((settings.fileConstantsDirs.filter fs.isDir).reverse.findSome? fun dir =>
          Loader.fileContent? fs dir name).map .bytes)) ∧
    resolver.constantNames =
      (settings.constantsFiles.flatMap (Loader.memberNames fs)).eraseDups ∧
    (resolver.hasConstants = true ↔
      0 < settings.constantsFiles.length +
        (settings.fileConstantsDirs.filter fs.isDir).length) ∧
    resolver.hasComputed = false := by
  obtain ⟨hnone, hresolver⟩ := Assembly.build_eq_ok_iff.mp hbuild
  obtain ⟨files, dirs, hproviders, hfiles, hdirs⟩ := Assembly.exists_providers hnone
  -- from here on the resolver is a batch of providers on an empty slot
  rw [hproviders] at hresolver
  subst hresolver
  have hdefault := Assembly.defaultLookups_of_gives hfiles hdirs
  refine ⟨⟨files, dirs, ?_, ?_, ?_⟩, ?_, ?_, ?_, ?_, ?_, rfl⟩
  · exact hfiles.imp fun _ _ hgives => hgives.loads
  · exact hdirs.imp fun _ _ hgives => hgives.loads
  · exact (Assembly.assembled_eq_run settings.grammar calls hdefault).indistinguishable
  · refine forall_mem_right_of_forall₂ hfiles.flip ?_
    intro provider path hgives
    obtain ⟨members, hdocument, hascending⟩ := hgives.members
    exact ⟨members, hdocument, hascending.encode⟩
  · intro text name hparse
    rw [← Assembly.lastConstant?_of_gives hfiles hdirs]
    exact Assembly.answer_assembled .constants hdefault calls hparse
  · intro text name hparse
    rw [← Assembly.lastFileConstant?_of_gives hfiles hdirs]
    exact Assembly.answer_assembled .fileConstants hdefault calls hparse
  · rw [Assembly.constantNames_eq, ← Assembly.flatMap_names_of_gives hfiles hdirs]
    exact Assembly.names_assembled .constants settings.grammar (files ++ dirs)
  · rw [Assembly.hasConstants_assembled, hfiles.length_eq, hdirs.length_eq, ← List.length_append,
      List.length_pos_iff]
    simp

/-- A file system with a document of one member, and a directory with one file of the same name. -/
def FileSystem.sameName : FileSystem where
  content path := if path = .ofString "d/n" then .ok [1] else .error (.notFound path)
  text path :=
    if path = .ofString "a.json" then .ok "\x7b\"n\":null\x7d" else .error (.notFound path)
  isDir path := path = .ofString "d"
  isFile path := path = .ofString "d/n"
  paths _ := .ok [.ofString "d/n"]

def Settings.sameName : Settings where
  constantsFiles := [.ofString "a.json"]
  fileConstantsDirs := [.ofString "e", .ofString "d"]

theorem assembled_as_registered_in_turn_sameName :
    ∃ resolver, (Assembly.build .sameName .sameName).1 = .ok resolver ∧
      (resolver.resolve .none "!n").answer = .ok (.json .null) ∧
      (resolver.resolve .none "!!n").answer = .ok (.bytes [1]) ∧
      resolver.constantNames = ["n"] := by
  have hnone : (Assembly.sources .sameName).findSome? (Assembly.failure? .sameName .sameName) =
      none := by decide +kernel
  have hbuild := Assembly.build_eq_ok_iff.mpr ⟨hnone, rfl⟩
  obtain ⟨-, -, hconstant, hfileConstant, hnames, -⟩ :=
    assembled_as_registered_in_turn .sameName .sameName .none hbuild
  refine ⟨_, hbuild, ?_, ?_, ?_⟩
  · rw [hconstant "!n" "n" rfl]
    rfl
  · have hcontent :
        (Settings.sameName.fileConstantsDirs.filter FileSystem.sameName.isDir).reverse.findSome?
          (fun dir => Loader.fileContent? .sameName dir "n") = some [1] := by decide +kernel
    rw [hfileConstant "!!n" "n" rfl, hcontent]
    rfl
  · rw [hnames]
    decide +kernel

end SigilLookup
