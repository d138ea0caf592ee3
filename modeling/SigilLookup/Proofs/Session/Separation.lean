import SigilLookup.Proofs.Session.Agreement
import SigilLookup.Proofs.Session.Projection

/-!
# Separate stores

The four stores do not interfere. Each kind of key is answered from one projection of the session, so
two runs that treat this projection alike give the same answers for these keys, whatever else they
do. Operations on different stores can change places, since no projection is touched by both.
-/

namespace SigilLookup

/-- The stores that keys are looked up in. Constants and file constants share a slot, but not a
store. -/
inductive Store where
  | runtime
  | computed
  | constants
  | fileConstants
deriving DecidableEq

/-- The store that keys of the kind are looked up in; a literal needs none. -/
def Kind.store? : Kind → Option Store
  | .runtime => some .runtime
  | .computed => some .computed
  | .constant => some .constants
  | .fileConstant => some .fileConstants
  | .literal => none

def Store.filledBy (providers : List ConstantsProvider) : List Store :=
  (if providers.all (·.constants.isEmpty) then [] else [.constants]) ++
    if providers.all (·.fileConstants.isEmpty) then [] else [.fileConstants]

def Operation.stores (grammar : Grammar) : Operation → List Store
  | .setValue .. => [.runtime]
  | .value _ => [.runtime]
  | .resolve text =>
    match grammar.parse text with
    | .ok key => key.kind.store?.toList
    | .error _ => []
  | .overview => [.computed, .constants, .fileConstants]
  | .grammar => []
  | .registerComputed _ => [.computed]
  | .registerComputedBatch _ => [.computed]
  | .registerConstants provider => Store.filledBy [provider]
  | .registerConstantsBatch providers => Store.filledBy providers

/-! ### Keys of each store -/

@[simp] theorem Key.parse_runtime (name : String) :
    Key.parse ("$" ++ name) = ⟨.runtime, name⟩ := by
  simp [Key.parse, Key.ofChars, String.toList_append]

@[simp] theorem Key.parse_fileConstant (name : String) :
    Key.parse ("!!" ++ name) = ⟨.fileConstant, name⟩ := by
  simp [Key.parse, Key.ofChars, String.toList_append]

/-- After one exclamation mark comes the name of a constant, unless it begins with another one. -/
theorem Key.parse_constant {name : String} (hname : name.toList.head? ≠ some '!') :
    Key.parse ("!" ++ name) = ⟨.constant, name⟩ := by
  have hsecond : ∀ rest, name.toList = '!' :: rest → False := by
    intro rest hchars
    rw [hchars] at hname
    exact hname rfl
  have hchars : ("!" ++ name).toList = '!' :: name.toList := by simp
  rw [Key.parse, hchars, Key.ofChars]
  · rw [String.ofList_toList]
  · exact hsecond

theorem Key.name_of_literal {text : String} (hkind : (Key.parse text).kind = .literal) :
    (Key.parse text).name = text := by
  simp only [Key.parse] at hkind ⊢
  unfold Key.ofChars at hkind ⊢
  split at hkind
  case h_5 => simp
  all_goals cases hkind

theorem Grammar.parse_eq_or_error (grammar : Grammar) (text : String) :
    grammar.parse text = .ok (Key.parse text) ∨ grammar.parse text = .error ⟨text⟩ := by
  simp only [Grammar.parse]
  split
  · exact .inr rfl
  · exact .inl rfl

theorem Grammar.parse_of_literal (grammar : Grammar) {text : String}
    (hkind : (Key.parse text).kind = .literal) : grammar.parse text = .ok ⟨.literal, text⟩ := by
  have hkey : Key.parse text = ⟨.literal, text⟩ := by
    have hname := Key.name_of_literal hkind
    cases hparsed : Key.parse text with
    | mk kind name =>
        rw [hparsed] at hkind hname
        rw [← hkind, ← hname]
  simp [Grammar.parse, hkey, Key.isSigil]

namespace Session

def answer (session : Session) (text : String) : Except ResolveError Value :=
  (session.resolver.resolve session.calls text).answer

variable {first second : Session} {text name : String}

/-! ### What an answer depends on -/

theorem answer_of_parse {session : Session} {key : Key}
    (hparse : session.resolver.grammar.parse text = .ok key) :
    session.answer text = (session.resolver.lookup session.calls key).1 := by
  simp only [answer, Resolver.resolve, hparse]

/-- Sessions that agree on the grammar and on the lookup of the classified key give one answer: the
grammar refuses the text in both or in neither. -/
theorem answer_congr (hgrammar : first.resolver.grammar = second.resolver.grammar)
    (hlookup : (first.resolver.lookup first.calls (Key.parse text)).1 =
      (second.resolver.lookup second.calls (Key.parse text)).1) :
    first.answer text = second.answer text := by
  rcases Grammar.parse_eq_or_error first.resolver.grammar text with hparse | hparse
  · have hparse' := hparse
    rw [hgrammar] at hparse'
    rw [answer_of_parse hparse, answer_of_parse hparse', hlookup]
  · have hparse' := hparse
    rw [hgrammar] at hparse'
    simp only [answer, Resolver.resolve, hparse, hparse']

theorem answer_congr_runtime (hgrammar : first.resolver.grammar = second.resolver.grammar)
    (hruntime : first.resolver.runtime = second.resolver.runtime) (name : String) :
    first.answer ("$" ++ name) = second.answer ("$" ++ name) := by
  apply answer_congr hgrammar
  rw [Key.parse_runtime]
  simp only [Resolver.lookup, hruntime]
  cases second.resolver.runtime.get? name <;> rfl

theorem answer_congr_computed (hgrammar : first.resolver.grammar = second.resolver.grammar)
    (hcomputed : first.resolver.computed = second.resolver.computed)
    (hcalls : first.calls = second.calls) (name : String) :
    first.answer ("#" ++ name) = second.answer ("#" ++ name) := by
  apply answer_congr hgrammar
  rw [Key.parse_computed]
  simp only [Resolver.lookup, hcomputed, hcalls]

/-- The answer that a map gives for a name, if there is a provider that holds it. -/
def answerOf (failure : ProviderError) (name : String) :
    Option ConstantMap → Except ResolveError Value
  | none => .error (.providerMissing .constants)
  | some map => (Answer.ofFound failure (map.get? name)).mapError .provider

theorem answer_literal (session : Session) (hkind : (Key.parse text).kind = .literal) :
    session.answer text = .ok (.string text) := by
  rw [answer_of_parse (Grammar.parse_of_literal _ hkind)]
  rfl

theorem answerOf_eq_ok_iff {failure : ProviderError} {held : Option ConstantMap} {value : Value} :
    answerOf failure name held = .ok value ↔ ∃ map ∈ held, map.get? name = some value := by
  cases held with
  | none => simp [answerOf]
  | some map =>
      cases hget : map.get? name <;>
        simp [answerOf, hget, Answer.ofFound, Except.mapError]

end Session

/-! ### The two maps of a provider -/

/-- One of the two maps that constants providers hold: the keys that ask for it, the failure when it
lacks a name, and that it is emptied and taken over like the other one. -/
structure HeldMap where
  content : ConstantsProvider → ConstantMap
  kind : Kind
  failure : String → ProviderError
  content_emptied : ∀ provider, content (Registrable.emptied provider) = .empty
  content_absorb : ∀ provider others, content (Registrable.absorb provider others) =
    (content provider).merge (others.map content)
  lookup : ∀ {resolver : Resolver}, resolver.DefaultLookups → ∀ calls name,
    (resolver.lookup calls ⟨kind, name⟩).1 =
      Session.answerOf (failure name) name (resolver.constants.map content)

def HeldMap.constants : HeldMap where
  content := ConstantsProvider.constants
  kind := .constant
  failure := .unknownConstant
  content_emptied := ConstantsProvider.constants_emptied
  content_absorb := ConstantsProvider.constants_absorb
  lookup {resolver} hdefault calls name := by
    cases hslot : resolver.constants with
    | none => simp only [Resolver.lookup, hslot, Option.map_none, Session.answerOf]
    | some provider =>
        have hrule := (hdefault.constants provider hslot).constants
        simp only [Resolver.lookup, hslot, ConstantsProvider.askConstant_of_default hrule]
        rfl

def HeldMap.fileConstants : HeldMap where
  content := ConstantsProvider.fileConstants
  kind := .fileConstant
  failure := .unknownFileConstant
  content_emptied := ConstantsProvider.fileConstants_emptied
  content_absorb := ConstantsProvider.fileConstants_absorb
  lookup {resolver} hdefault calls name := by
    cases hslot : resolver.constants with
    | none => simp only [Resolver.lookup, hslot, Option.map_none, Session.answerOf]
    | some provider =>
        have hrule := (hdefault.constants provider hslot).fileConstants
        simp only [Resolver.lookup, hslot, ConstantsProvider.askFileConstant_of_default hrule]
        rfl

namespace Session

theorem answer_heldMap (part : HeldMap) {session : Session} {text name : String}
    (hdefault : session.resolver.DefaultLookups)
    (hparse : session.resolver.grammar.parse text = .ok ⟨part.kind, name⟩) :
    session.answer text = answerOf (part.failure name) name
      (session.resolver.constants.map part.content) := by
  rw [answer_of_parse hparse, part.lookup hdefault]

theorem get?_of_answer (part : HeldMap) {session : Session} {text name : String}
    (hdefault : session.resolver.DefaultLookups) (hkey : Key.parse text = ⟨part.kind, name⟩)
    {value : Value} (hanswer : session.answer text = .ok value) :
    ∃ provider ∈ session.resolver.constants, (part.content provider).get? name = some value := by
  rcases session.resolver.grammar.parse_eq_or_error text with hparse | hparse
  · rw [hkey] at hparse
    rw [answer_heldMap part hdefault hparse, answerOf_eq_ok_iff] at hanswer
    obtain ⟨map, hmap, hget⟩ := hanswer
    obtain ⟨provider, hprovider, rfl⟩ := Option.map_eq_some_iff.mp hmap
    exact ⟨provider, hprovider, hget⟩
  · simp [answer, Resolver.resolve, hparse] at hanswer

end Session

/-! ### Operations on different stores -/

namespace Operation

variable {grammar : Grammar} {operation : Operation}

theorem written?_eq_none (hstore : .runtime ∉ operation.stores grammar) :
    operation.written? = none := by
  cases operation with
  | setValue key content => exact absurd (List.mem_singleton.mpr rfl) hstore
  | _ => rfl

theorem computedUse?_eq_none (hstore : .computed ∉ operation.stores grammar) :
    operation.computedUse? grammar = none := by
  cases operation with
  | registerComputed provider => exact absurd (List.mem_singleton.mpr rfl) hstore
  | registerComputedBatch providers => exact absurd (List.mem_singleton.mpr rfl) hstore
  | resolve text =>
      cases hname : grammar.computedName? text with
      | none => simp [computedUse?, hname]
      | some name =>
          have hparse := Grammar.computedName?_eq_some_iff.mp hname
          simp [stores, hparse, Kind.store?] at hstore
  | _ => rfl

/-- A registration that is not on the store of a map brings no entry for it. -/
theorem forall_maps_empty {content : ConstantsProvider → ConstantMap}
    (hstore : operation.registersConstants = true →
      operation.constantsProviders.all fun provider => (content provider).isEmpty)
    {maps : List ConstantMap} (hmaps : operation.maps? content = some maps) :
    ∀ map ∈ maps, map = .empty := by
  unfold maps? at hmaps
  split at hmaps
  case isTrue hregisters =>
    cases hmaps
    intro map hmap
    obtain ⟨provider, hprovider, rfl⟩ := List.mem_map.mp hmap
    have hempty := List.all_eq_true.mp (hstore hregisters) provider hprovider
    apply OrderedMap.ext
    exact List.isEmpty_iff.mp hempty
  case isFalse => cases hmaps

theorem forall_constants_empty (hstore : .constants ∉ operation.stores grammar)
    {maps : List ConstantMap} (hmaps : operation.maps? ConstantsProvider.constants = some maps) :
    ∀ map ∈ maps, map = .empty := by
  apply forall_maps_empty _ hmaps
  intro hregisters
  cases operation with
  | registerConstants provider =>
      simpa [stores, Store.filledBy, constantsProviders] using hstore
  | registerConstantsBatch providers =>
      simpa [stores, Store.filledBy, constantsProviders] using hstore
  | _ => cases hregisters

theorem forall_fileConstants_empty (hstore : .fileConstants ∉ operation.stores grammar)
    {maps : List ConstantMap}
    (hmaps : operation.maps? ConstantsProvider.fileConstants = some maps) :
    ∀ map ∈ maps, map = .empty := by
  apply forall_maps_empty _ hmaps
  intro hregisters
  cases operation with
  | registerConstants provider =>
      simpa [stores, Store.filledBy, constantsProviders] using hstore
  | registerConstantsBatch providers =>
      simpa [stores, Store.filledBy, constantsProviders] using hstore
  | _ => cases hregisters

/-- Of two registrations of which only one brings entries for a map, either may come first. -/
theorem foldl_gather_swap {content : ConstantsProvider → ConstantMap} {first second : Operation}
    (hempty : (∀ maps, first.maps? content = some maps → ∀ map ∈ maps, map = .empty) ∨
      ∀ maps, second.maps? content = some maps → ∀ map ∈ maps, map = .empty)
    (held : Option ConstantMap) :
    ([first, second].filterMap (maps? content)).foldl ConstantMap.gather held =
      ([second, first].filterMap (maps? content)).foldl ConstantMap.gather held := by
  cases hfirst : first.maps? content with
  | none => cases hsecond : second.maps? content <;> simp [hfirst, hsecond]
  | some maps =>
      cases hsecond : second.maps? content with
      | none => simp [hfirst, hsecond]
      | some more =>
          have hmaps : (∀ map ∈ maps, map = .empty) ∨ ∀ map ∈ more, map = .empty := by
            rcases hempty with hleft | hright
            · exact .inl (hleft maps hfirst)
            · exact .inr (hright more hsecond)
          simp only [List.filterMap_cons, List.filterMap_nil, hfirst, hsecond, List.foldl_cons,
            List.foldl_nil, ConstantMap.gather_gather]
          exact ConstantMap.gather_append_comm hmaps held

end Operation

/-- Where no provider has a rule, the two maps are all there is to a slot. -/
theorem ConstantsSlot.eq_of_maps {first second : ConstantsSlot}
    (hfirst : ∀ provider ∈ first, provider.DefaultLookups)
    (hsecond : ∀ provider ∈ second, provider.DefaultLookups)
    (hconstants : first.map ConstantsProvider.constants = second.map ConstantsProvider.constants)
    (hfileConstants : first.map ConstantsProvider.fileConstants =
      second.map ConstantsProvider.fileConstants) : first = second := by
  cases first with
  | none =>
      cases second with
      | none => rfl
      | some kept => cases hconstants
  | some kept =>
      cases second with
      | none => cases hconstants
      | some other =>
          obtain ⟨constants, fileConstants, ownRule, ownFileRule⟩ := kept
          obtain ⟨constants', fileConstants', ownRule', ownFileRule'⟩ := other
          obtain ⟨rfl, rfl⟩ := hfirst _ rfl
          obtain ⟨rfl, rfl⟩ := hsecond _ rfl
          cases hconstants
          cases hfileConstants
          rfl

namespace Session

variable {grammar : Grammar} {first second : Session}

/-- Sessions without rules that agree on all projections are in the same state. -/
theorem sameState_of_projections (grammar : Grammar)
    (hgrammar : first.resolver.grammar = second.resolver.grammar)
    (hfirst : first.resolver.DefaultLookups) (hsecond : second.resolver.DefaultLookups)
    (hruntime : (runtimeProjection grammar).state first = (runtimeProjection grammar).state second)
    (hcomputed : (computedProjection grammar).state first =
      (computedProjection grammar).state second)
    (hconstants : (constantsProjection grammar).state first =
      (constantsProjection grammar).state second)
    (hfileConstants : (fileConstantsProjection grammar).state first =
      (fileConstantsProjection grammar).state second) : first.SameState second := by
  have hslot : first.resolver.constants = second.resolver.constants :=
    ConstantsSlot.eq_of_maps hfirst.constants hsecond.constants hconstants hfileConstants
  obtain ⟨hcomputedSlot, hcalls⟩ := Prod.mk.inj hcomputed
  obtain ⟨⟨grammar₁, runtime₁, computed₁, constants₁⟩, calls₁, log₁⟩ := first
  obtain ⟨⟨grammar₂, runtime₂, computed₂, constants₂⟩, calls₂, log₂⟩ := second
  cases hgrammar
  cases hruntime
  cases hcomputedSlot
  cases hslot
  exact ⟨rfl, hcalls⟩

/-- Two operations on different stores lead to the same state in either order. -/
theorem sameState_swap {session : Session} {before after : Operation}
    (hgrammar : session.resolver.grammar = grammar) (hdefault : session.resolver.DefaultLookups)
    (hbefore : before.DefaultLookups) (hafter : after.DefaultLookups)
    (hstores : ∀ store ∈ before.stores grammar, store ∉ after.stores grammar) :
    (session.run [before, after]).SameState (session.run [after, before]) := by
  have hboth : ∀ operation ∈ [before, after], operation.DefaultLookups := by
    simp [hbefore, hafter]
  have hswapped : ∀ operation ∈ [after, before], operation.DefaultLookups := by
    simp [hbefore, hafter]
  -- no store is one of both operations
  have hone (store : Store) : store ∉ before.stores grammar ∨ store ∉ after.stores grammar := by
    by_cases hmem : store ∈ before.stores grammar
    · exact .inr (hstores store hmem)
    · exact .inl hmem
  apply sameState_of_projections grammar
  case hgrammar => rw [grammar_run, grammar_run]
  case hfirst => exact defaultLookups_run hdefault hboth
  case hsecond => exact defaultLookups_run hdefault hswapped
  case hruntime =>
    apply (runtimeProjection grammar).state_run_congr hgrammar hdefault hboth hswapped
    apply Projection.filterMap_swap
    rcases hone .runtime with hleft | hright
    · exact .inl (Operation.written?_eq_none hleft)
    · exact .inr (Operation.written?_eq_none hright)
  case hcomputed =>
    apply (computedProjection grammar).state_run_congr hgrammar hdefault hboth hswapped
    apply Projection.filterMap_swap
    rcases hone .computed with hleft | hright
    · exact .inl (Operation.computedUse?_eq_none hleft)
    · exact .inr (Operation.computedUse?_eq_none hright)
  case hconstants =>
    -- both may be registrations of constants, one of which then brings no entry for the map
    rw [(constantsProjection grammar).state_run hgrammar hdefault hboth,
      (constantsProjection grammar).state_run hgrammar hdefault hswapped]
    apply Operation.foldl_gather_swap
    rcases hone .constants with hleft | hright
    · exact .inl fun maps hmaps => Operation.forall_constants_empty hleft hmaps
    · exact .inr fun maps hmaps => Operation.forall_constants_empty hright hmaps
  case hfileConstants =>
    rw [(fileConstantsProjection grammar).state_run hgrammar hdefault hboth,
      (fileConstantsProjection grammar).state_run hgrammar hdefault hswapped]
    apply Operation.foldl_gather_swap
    rcases hone .fileConstants with hleft | hright
    · exact .inl fun maps hmaps => Operation.forall_fileConstants_empty hleft hmaps
    · exact .inr fun maps hmaps => Operation.forall_fileConstants_empty hright hmaps

/-! ### Two runs -/

variable {grammar : Grammar} {calls : Calls} {operations others : List Operation}

theorem grammar_run_start : ((start grammar calls).run operations).resolver.grammar = grammar :=
  grammar_run _ operations

theorem answer_runtime_congr (hoperations : ∀ operation ∈ operations, operation.DefaultLookups)
    (hothers : ∀ operation ∈ others, operation.DefaultLookups)
    (hwrites : operations.filterMap Operation.written? = others.filterMap Operation.written?)
    (name : String) :
    ((start grammar calls).run operations).answer ("$" ++ name) =
      ((start grammar calls).run others).answer ("$" ++ name) := by
  apply answer_congr_runtime
  · rw [grammar_run_start, grammar_run_start]
  · exact (runtimeProjection grammar).state_run_congr rfl (defaultLookups_start grammar calls)
      hoperations hothers hwrites

theorem answer_computed_congr (hoperations : ∀ operation ∈ operations, operation.DefaultLookups)
    (hothers : ∀ operation ∈ others, operation.DefaultLookups)
    (huses : operations.filterMap (Operation.computedUse? grammar) =
      others.filterMap (Operation.computedUse? grammar)) (name : String) :
    ((start grammar calls).run operations).answer ("#" ++ name) =
      ((start grammar calls).run others).answer ("#" ++ name) := by
  have hgrammar : (start grammar calls).resolver.grammar = grammar := rfl
  have hstate := (computedProjection grammar).state_run_congr hgrammar
    (defaultLookups_start grammar calls) hoperations hothers huses
  obtain ⟨hcomputed, hcalls⟩ := Prod.mk.inj hstate
  apply answer_congr_computed _ hcomputed hcalls
  rw [grammar_run_start, grammar_run_start]

/-- What is refused hands no maps over, so only the calls that succeed need to agree. -/
theorem answer_heldMap_congr (part : HeldMap)
    (hoperations : ∀ operation ∈ operations, operation.DefaultLookups)
    (hothers : ∀ operation ∈ others, operation.DefaultLookups)
    (hmaps : ((start grammar calls).accepted operations).filterMap
        (Operation.maps? part.content) =
      ((start grammar calls).accepted others).filterMap (Operation.maps? part.content))
    {text name : String} (hparse : grammar.parse text = .ok ⟨part.kind, name⟩) :
    ((start grammar calls).run operations).answer text =
      ((start grammar calls).run others).answer text := by
  have hdefault := defaultLookups_start grammar calls
  have hstate : ((start grammar calls).run operations).resolver.constants.map part.content =
      ((start grammar calls).run others).resolver.constants.map part.content := by
    rw [← run_accepted _ operations, ← run_accepted _ others]
    apply (mapProjection grammar part.content part.content_emptied
      part.content_absorb).state_run_congr rfl hdefault _ _ hmaps
    · intro operation hoperation
      exact hoperations operation (mem_of_mem_accepted hoperation)
    · intro operation hoperation
      exact hothers operation (mem_of_mem_accepted hoperation)
  rw [answer_heldMap part (defaultLookups_run hdefault hoperations)
      (by rw [grammar_run_start, hparse]),
    answer_heldMap part (defaultLookups_run hdefault hothers) (by rw [grammar_run_start, hparse]),
    hstate]

/-- Operations on different stores can change places after any run, and nothing that is done later
tells their order. -/
theorem indistinguishable_swap {before after : Operation}
    (hoperations : ∀ operation ∈ operations, operation.DefaultLookups)
    (hbefore : before.DefaultLookups) (hafter : after.DefaultLookups)
    (hstores : ∀ store ∈ before.stores grammar, store ∉ after.stores grammar) :
    ((start grammar calls).run (operations ++ [before, after])).Indistinguishable
      ((start grammar calls).run (operations ++ [after, before])) := by
  rw [run_append, run_append]
  apply SameState.indistinguishable
  apply sameState_swap (grammar_run_start) _ hbefore hafter hstores
  exact defaultLookups_run (defaultLookups_start grammar calls) hoperations

end Session

/-! ### The law -/

/-- The stores do not interfere. In two runs that register providers without rules on resolvers of
one grammar, the keys of a store have the same answers as soon as the runs treat this store alike,
whatever else they do: the runtime table if the same values are written in the same order, the
computed store if it is registered into and asked alike, and each map of constants if the
registrations that succeed bring the same of it, call by call; a literal is its own answer in any
run. Operations on different stores can change places, and neither map of constants ever answers for
the other. -/
theorem stores_do_not_interfere (grammar : Grammar) (calls : Calls) (first second : List Operation)
    (hfirst : ∀ operation ∈ first, operation.DefaultLookups)
    (hsecond : ∀ operation ∈ second, operation.DefaultLookups) :
    (first.filterMap Operation.written? = second.filterMap Operation.written? →
      ∀ name, ((Session.start grammar calls).run first).answer ("$" ++ name) =
        ((Session.start grammar calls).run second).answer ("$" ++ name)) ∧
    (first.filterMap (Operation.computedUse? grammar) =
        second.filterMap (Operation.computedUse? grammar) →
      ∀ name, ((Session.start grammar calls).run first).answer ("#" ++ name) =
        ((Session.start grammar calls).run second).answer ("#" ++ name)) ∧
    (((Session.start grammar calls).accepted first).filterMap
          (Operation.maps? ConstantsProvider.constants) =
        ((Session.start grammar calls).accepted second).filterMap
          (Operation.maps? ConstantsProvider.constants) →
      ∀ text name, grammar.parse text = .ok ⟨.constant, name⟩ →
        ((Session.start grammar calls).run first).answer text =
          ((Session.start grammar calls).run second).answer text) ∧
    (((Session.start grammar calls).accepted first).filterMap
          (Operation.maps? ConstantsProvider.fileConstants) =
        ((Session.start grammar calls).accepted second).filterMap
          (Operation.maps? ConstantsProvider.fileConstants) →
      ∀ text name, grammar.parse text = .ok ⟨.fileConstant, name⟩ →
        ((Session.start grammar calls).run first).answer text =
          ((Session.start grammar calls).run second).answer text) ∧
    (∀ text, (Key.parse text).kind = .literal →
      ((Session.start grammar calls).run first).answer text = .ok (.string text) ∧
        ((Session.start grammar calls).run second).answer text = .ok (.string text)) ∧
    (∀ before after : Operation, before.DefaultLookups → after.DefaultLookups →
      (∀ store ∈ before.stores grammar, store ∉ after.stores grammar) →
        ((Session.start grammar calls).run (first ++ [before, after])).Indistinguishable
          ((Session.start grammar calls).run (first ++ [after, before]))) ∧
    (∀ name value, name.toList.head? ≠ some '!' →
      ((Session.start grammar calls).run first).answer ("!" ++ name) = .ok value →
        ∃ provider ∈ ((Session.start grammar calls).run first).resolver.constants,
          provider.constants.get? name = some value) ∧
    ∀ name value, ((Session.start grammar calls).run first).answer ("!!" ++ name) = .ok value →
      ∃ provider ∈ ((Session.start grammar calls).run first).resolver.constants,
        provider.fileConstants.get? name = some value := by
  have hdefault : ((Session.start grammar calls).run first).resolver.DefaultLookups :=
    Session.defaultLookups_run (Session.defaultLookups_start grammar calls) hfirst
  refine ⟨?_, ?_, ?_, ?_, ?_, ?_, ?_, ?_⟩
  · intro hwrites name
    exact Session.answer_runtime_congr hfirst hsecond hwrites name
  · intro huses name
    exact Session.answer_computed_congr hfirst hsecond huses name
  · intro hmaps text name hparse
    exact Session.answer_heldMap_congr .constants hfirst hsecond hmaps hparse
  · intro hmaps text name hparse
    exact Session.answer_heldMap_congr .fileConstants hfirst hsecond hmaps hparse
  · intro text hkind
    exact ⟨Session.answer_literal _ hkind, Session.answer_literal _ hkind⟩
  · intro before after hbefore hafter hstores
    exact Session.indistinguishable_swap hfirst hbefore hafter hstores
  · intro name value hname hanswer
    exact Session.get?_of_answer .constants hdefault (Key.parse_constant hname) hanswer
  · intro name value hanswer
    exact Session.get?_of_answer .fileConstants hdefault (Key.parse_fileConstant name) hanswer

def Operation.writeThenConstant : List Operation :=
  [.setValue "a" (.string "written"),
    .registerConstants { constants := OrderedMap.empty.insert "n" (.string "constant") }]

/-- The same write and the same constant, among operations on all other stores. -/
def Operation.constantThenWrite : List Operation :=
  [.registerConstantsBatch [],
    .registerConstantsBatch
      [{ constants := OrderedMap.empty.insert "n" (.string "constant")
         fileConstants := OrderedMap.empty.insert "n" (.bytes [1]) }],
    .registerComputed { computed := [.counter "c" 0 7] },
    .resolve "#c",
    .setValue "a" (.string "written")]

theorem Operation.defaultLookups_writeThenConstant :
    ∀ operation ∈ writeThenConstant, operation.DefaultLookups := by
  intro operation hoperation
  simp only [writeThenConstant, List.mem_cons, List.not_mem_nil, or_false] at hoperation
  rcases hoperation with rfl | rfl
  · exact ⟨by simp [computedProviders], by simp [constantsProviders]⟩
  · refine ⟨by simp [computedProviders], ?_⟩
    intro provider hprovider
    cases List.mem_singleton.mp hprovider
    exact ⟨rfl, rfl⟩

theorem Operation.defaultLookups_constantThenWrite :
    ∀ operation ∈ constantThenWrite, operation.DefaultLookups := by
  intro operation hoperation
  simp only [constantThenWrite, List.mem_cons, List.not_mem_nil, or_false] at hoperation
  rcases hoperation with rfl | rfl | rfl | rfl | rfl
  case inr.inl =>
    refine ⟨by simp [computedProviders], ?_⟩
    intro provider hprovider
    cases List.mem_singleton.mp hprovider
    exact ⟨rfl, rfl⟩
  case inr.inr.inl =>
    refine ⟨?_, by simp [constantsProviders]⟩
    intro provider hprovider
    cases List.mem_singleton.mp hprovider
    rfl
  all_goals exact ⟨by simp [computedProviders], by simp [constantsProviders]⟩

theorem stores_do_not_interfere_among_others :
    ((∀ operation ∈ Operation.writeThenConstant, operation.DefaultLookups) ∧
      ∀ operation ∈ Operation.constantThenWrite, operation.DefaultLookups) ∧
    ((Session.start .lenient .none).run Operation.writeThenConstant).answer "$a" =
      ((Session.start .lenient .none).run Operation.constantThenWrite).answer "$a" ∧
    ((Session.start .lenient .none).run Operation.writeThenConstant).answer "!n" =
      ((Session.start .lenient .none).run Operation.constantThenWrite).answer "!n" ∧
    ((Session.start .lenient .none).run Operation.writeThenConstant).answer "!!n" =
      .error (.provider (.unknownFileConstant "n")) ∧
    ((Session.start .lenient .none).run Operation.constantThenWrite).answer "!!n" =
      .ok (.bytes [1]) := by
  obtain ⟨hruntime, -, hconstants, -⟩ := stores_do_not_interfere .lenient .none
    Operation.writeThenConstant Operation.constantThenWrite
    Operation.defaultLookups_writeThenConstant Operation.defaultLookups_constantThenWrite
  refine ⟨⟨Operation.defaultLookups_writeThenConstant,
    Operation.defaultLookups_constantThenWrite⟩, ?_, ?_, rfl, rfl⟩
  · exact hruntime rfl "a"
  · exact hconstants rfl "!n" "n" rfl

end SigilLookup
