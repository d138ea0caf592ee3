import SigilLookup.Proofs.Session.Erasure
import SigilLookup.Proofs.Session.History

/-!
# The kept provider

The first registration that a slot takes decides, for good, which provider answers: the argument, or
the last member of a batch. All others hand over what they hold and are forgotten. So the provider
that answers and the contents it answers from come from different places: the rule is the keeper's
alone, and the contents are everybody's.
-/

namespace SigilLookup

/-! ### Keepers of runs -/

namespace ProviderFamily

variable {P : Type} [ProviderFamily P] {session : Session} {operations : List Operation}

/-- A keeper stays the keeper through every longer run. -/
theorem keeperIn?_append_of_some {keeper : P}
    (hkeeper : session.keeperIn? P operations = some keeper) (later : List Operation) :
    session.keeperIn? P (operations ++ later) = some keeper := by
  simp only [Session.keeperIn?, Option.bind_eq_some_iff] at hkeeper ⊢
  obtain ⟨operation, hfirst, hlast⟩ := hkeeper
  refine ⟨operation, ?_, hlast⟩
  rw [Session.accepted_append, List.find?_append, hfirst, Option.some_or]

/-- A call that is refused makes nothing the keeper: what comes after it decides as if the call had
not been. -/
theorem keeperIn?_append_cons_of_refused {operation : Operation}
    (hrefused : ((session.run operations).step operation).2.isRefused = true)
    (later : List Operation) :
    session.keeperIn? P (operations ++ operation :: later) =
      session.keeperIn? P (operations ++ later) := by
  simp only [Session.keeperIn?, Session.accepted_append,
    Session.accepted_cons_of_refused hrefused]

end ProviderFamily

namespace Session

/-! ### What a keeper does -/

/-- After a run the slot holds the computed provider, with the computations of all providers
registered, and it answers every name: by its own rule if it has one, otherwise from these
computations. -/
structure KeepsComputed (session : Session) (operations : List Operation)
    (keeper : ComputedProvider) : Prop where
  slot : (session.run operations).resolver.computed =
    some (keeper.replaceComputed (session.computations operations))
  answer_of_rule : ∀ rule, keeper.ownRule = some rule →
    ∀ text name, session.resolver.grammar.parse text = .ok ⟨.computed, name⟩ → ∀ asked,
      (session.run operations).resolver.resolve asked text =
        .ofReply ⟨.computed, name⟩
          ((rule name).answer (session.computations operations) asked)
  answer_of_default : keeper.ownRule = none →
    ∀ text name, session.resolver.grammar.parse text = .ok ⟨.computed, name⟩ → ∀ asked,
      (session.run operations).resolver.resolve asked text =
        .ofReply ⟨.computed, name⟩
          (Computation.askFirst name (session.computations operations) asked)

/-- The two maps that all constants providers registered in a run merge to. -/
def mergedMaps (session : Session) (operations : List Operation) : ConstantMap × ConstantMap :=
  (OrderedMap.empty.merge (session.constantMaps operations),
    OrderedMap.empty.merge (session.fileConstantMaps operations))

/-- After a run the slot holds the constants provider, with both maps of all providers registered
merged into it, and it answers every name of either kind: by its own rule for that kind if it has
one, otherwise from the map of that kind. -/
structure KeepsConstants (session : Session) (operations : List Operation)
    (keeper : ConstantsProvider) : Prop where
  slot : (session.run operations).resolver.constants =
    some (keeper.replaceMaps (session.mergedMaps operations).1 (session.mergedMaps operations).2)
  answer_of_rule : ∀ rule, keeper.ownRule = some rule →
    ∀ text name, session.resolver.grammar.parse text = .ok ⟨.constant, name⟩ → ∀ asked,
      (session.run operations).resolver.resolve asked text =
        .ofReply ⟨.constant, name⟩ ((rule name).answer (session.mergedMaps operations) asked)
  answer_of_default : keeper.ownRule = none →
    ∀ text name, session.resolver.grammar.parse text = .ok ⟨.constant, name⟩ → ∀ asked,
      (session.run operations).resolver.resolve asked text =
        .ofReply ⟨.constant, name⟩
          (Answer.ofFound (.unknownConstant name)
            ((session.mergedMaps operations).1.get? name), asked)
  file_answer_of_rule : ∀ rule, keeper.ownFileRule = some rule →
    ∀ text name, session.resolver.grammar.parse text = .ok ⟨.fileConstant, name⟩ → ∀ asked,
      (session.run operations).resolver.resolve asked text =
        .ofReply ⟨.fileConstant, name⟩ ((rule name).answer (session.mergedMaps operations) asked)
  file_answer_of_default : keeper.ownFileRule = none →
    ∀ text name, session.resolver.grammar.parse text = .ok ⟨.fileConstant, name⟩ → ∀ asked,
      (session.run operations).resolver.resolve asked text =
        .ofReply ⟨.fileConstant, name⟩
          (Answer.ofFound (.unknownFileConstant name)
            ((session.mergedMaps operations).2.get? name), asked)

variable {grammar : Grammar} {calls : Calls} {operations : List Operation}

theorem keepsComputed_of_keeperIn? {keeper : ComputedProvider}
    (hkeeper : (start grammar calls).keeperIn? ComputedProvider operations = some keeper) :
    (start grammar calls).KeepsComputed operations keeper := by
  have hslot := computed_run_start grammar calls operations
  rw [hkeeper, Option.map_some] at hslot
  have hgrammar := grammar_run (start grammar calls) operations
  constructor
  case slot => exact hslot
  case answer_of_rule =>
    intro rule hrule text name hparse asked
    rw [← hgrammar] at hparse
    exact Resolver.resolve_computed_of_rule hparse hslot hrule asked
  case answer_of_default =>
    intro hdefault text name hparse asked
    rw [← hgrammar] at hparse
    exact Resolver.resolve_computed_of_default hparse hslot hdefault asked

theorem keepsConstants_of_keeperIn? {keeper : ConstantsProvider}
    (hkeeper : (start grammar calls).keeperIn? ConstantsProvider operations = some keeper) :
    (start grammar calls).KeepsConstants operations keeper := by
  have hslot := constants_run_start grammar calls operations
  rw [hkeeper, Option.map_some] at hslot
  have hgrammar := grammar_run (start grammar calls) operations
  constructor
  case slot => exact hslot
  case answer_of_rule =>
    intro rule hrule text name hparse asked
    rw [← hgrammar] at hparse
    exact Resolver.resolve_constant_of_rule hparse hslot hrule asked
  case answer_of_default =>
    intro hdefault text name hparse asked
    rw [← hgrammar] at hparse
    exact Resolver.resolve_constant_of_default hparse hslot hdefault asked
  case file_answer_of_rule =>
    intro rule hrule text name hparse asked
    rw [← hgrammar] at hparse
    exact Resolver.resolve_fileConstant_of_rule hparse hslot hrule asked
  case file_answer_of_default =>
    intro hdefault text name hparse asked
    rw [← hgrammar] at hparse
    exact Resolver.resolve_fileConstant_of_default hparse hslot hdefault asked

end Session

/-! ### The law -/

/-- In any run on a fresh resolver the first registration that succeeds fixes, for its slot, the
provider that answers, and no later operation changes it: whatever else is registered, the kept
provider holds what all of them held and answers by its own rule. The rules of all the others can be
erased without any trace in the responses, the state or the log. A call that is refused leaves
everything as it was and fixes nothing. -/
theorem kept_provider_answers (grammar : Grammar) (calls : Calls) (operations : List Operation) :
    ((∃ operation ∈ (Session.start grammar calls).accepted operations,
        operation.registersComputed = true) →
      ∃ keeper,
        (Session.start grammar calls).keeperIn? ComputedProvider operations = some keeper ∧
        ∀ later, (Session.start grammar calls).KeepsComputed (operations ++ later) keeper) ∧
    ((∃ operation ∈ (Session.start grammar calls).accepted operations,
        operation.registersConstants = true) →
      ∃ keeper,
        (Session.start grammar calls).keeperIn? ConstantsProvider operations = some keeper ∧
        ∀ later, (Session.start grammar calls).KeepsConstants (operations ++ later) keeper) ∧
    (Session.start grammar calls).run ((Session.start grammar calls).eraseAllRules operations) =
      (Session.start grammar calls).run operations ∧
    ∀ operation,
      ((Session.start grammar calls).run operations).step
          (((Session.start grammar calls).run operations).eraseRules operation) =
        ((Session.start grammar calls).run operations).step operation ∧
      ((((Session.start grammar calls).run operations).step operation).2.isRefused = true →
        (((Session.start grammar calls).run operations).step operation).1 =
          (Session.start grammar calls).run operations ∧
        ∀ later,
          (Session.start grammar calls).keeperIn? ComputedProvider
              (operations ++ operation :: later) =
            (Session.start grammar calls).keeperIn? ComputedProvider (operations ++ later) ∧
          (Session.start grammar calls).keeperIn? ConstantsProvider
              (operations ++ operation :: later) =
            (Session.start grammar calls).keeperIn? ConstantsProvider
              (operations ++ later)) := by
  refine ⟨?_, ?_, Session.run_eraseAllRules _ operations, ?_⟩
  · intro hregistered
    obtain ⟨keeper, hkeeper⟩ := ProviderFamily.exists_keeper (P := ComputedProvider) rfl hregistered
    refine ⟨keeper, hkeeper, ?_⟩
    intro later
    exact Session.keepsComputed_of_keeperIn?
      (ProviderFamily.keeperIn?_append_of_some hkeeper later)
  · intro hregistered
    obtain ⟨keeper, hkeeper⟩ := ProviderFamily.exists_keeper (P := ConstantsProvider) rfl hregistered
    refine ⟨keeper, hkeeper, ?_⟩
    intro later
    exact Session.keepsConstants_of_keeperIn?
      (ProviderFamily.keeperIn?_append_of_some hkeeper later)
  · intro operation
    refine ⟨Session.step_eraseRules _ operation, ?_⟩
    intro hrefused
    refine ⟨Session.step_of_isRefused hrefused, ?_⟩
    intro later
    constructor
    · exact ProviderFamily.keeperIn?_append_cons_of_refused hrefused later
    · exact ProviderFamily.keeperIn?_append_cons_of_refused hrefused later

/-- A batch whose last member echoes every name, and then a provider whose rule must not be heard. -/
def Operation.echoFirst : List Operation :=
  [.registerComputedBatch [{ computed := [.always "a" 0 (.string "value")] },
      { ownRule := some fun name => .ok (.string name) }],
    .registerComputed { ownRule := some fun _ => .ok (.string "unheard") },
    .registerConstants { ownRule := some fun name => .ok (.string name) },
    .registerConstants { ownFileRule := some fun _ => .ok (.string "unheard") }]

theorem kept_provider_answers_echoes :
    ((∃ operation ∈ (Session.start .lenient .none).accepted Operation.echoFirst,
        operation.registersComputed = true) ∧
      ∃ operation ∈ (Session.start .lenient .none).accepted Operation.echoFirst,
        operation.registersConstants = true) ∧
    (((Session.start .lenient .none).run Operation.echoFirst).resolver.resolve .none "#a").answer =
      .ok (.string "a") ∧
    (((Session.start .lenient .none).run Operation.echoFirst).resolver.resolve .none "!b").answer =
      .ok (.string "b") ∧
    (((Session.start .lenient .none).run Operation.echoFirst).resolver.resolve .none "!!c").answer =
      .error (.provider (.unknownFileConstant "c")) := by
  have hcomputed : ∃ operation ∈ (Session.start .lenient .none).accepted Operation.echoFirst,
      operation.registersComputed = true := by decide
  have hconstants : ∃ operation ∈ (Session.start .lenient .none).accepted Operation.echoFirst,
      operation.registersConstants = true := by decide
  obtain ⟨hkeepsComputed, hkeepsConstants, -⟩ :=
    kept_provider_answers .lenient .none Operation.echoFirst
  obtain ⟨keeper, hkeeper, hkeeps⟩ := hkeepsComputed hcomputed
  obtain ⟨constantsKeeper, hconstantsKeeper, hconstantsKeeps⟩ := hkeepsConstants hconstants
  cases hkeeper
  cases hconstantsKeeper
  have hecho := (hkeeps []).answer_of_rule _ rfl "#a" "a" rfl .none
  have hconstantEcho := (hconstantsKeeps []).answer_of_rule _ rfl "!b" "b" rfl .none
  have hfile := (hconstantsKeeps []).file_answer_of_default rfl "!!c" "c" rfl .none
  exact ⟨⟨hcomputed, hconstants⟩, congrArg Resolution.answer hecho,
    congrArg Resolution.answer hconstantEcho, congrArg Resolution.answer hfile⟩

end SigilLookup
