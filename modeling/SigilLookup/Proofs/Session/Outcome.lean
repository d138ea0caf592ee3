import SigilLookup.Proofs.Key.Classification
import SigilLookup.Proofs.Registration.ComputedHistory
import SigilLookup.Proofs.Registration.ConstantsHistory
import SigilLookup.Proofs.Session.Separation
import SigilLookup.Proofs.Session.Written

/-!
# What a lookup comes to

What resolving a key comes to after a run is decided by the key and by the history: by the writes to
its name, by whether a provider of its family was handed over before, and by what the providers
handed over say of the name. Every kind of failure has exactly one such condition, and it carries
what the condition speaks of: the whole key, the name, the family, or the provider's own error.
-/

namespace SigilLookup

/-- The operation hands a provider of the family over: a single one, or a batch that is not
empty. -/
def Operation.Supplies : ProviderKind → Operation → Prop
  | .computed, .registerComputed _ => True
  | .computed, .registerComputedBatch providers => providers ≠ []
  | .constants, .registerConstants _ => True
  | .constants, .registerConstantsBatch providers => providers ≠ []
  | _, _ => False

theorem Operation.supplies_computed_iff {operation : Operation} :
    operation.Supplies .computed ↔ operation.computedProviders ≠ [] := by
  cases operation <;> simp [Supplies, computedProviders]

theorem Operation.supplies_constants_iff {operation : Operation} :
    operation.Supplies .constants ↔ operation.constantsProviders ≠ [] := by
  cases operation <;> simp [Supplies, constantsProviders]

namespace Session

/-- What the providers registered in a run say of a key: the first computation of the name is asked,
and a constant has the value that the last map with the name gives to it. -/
def reply? (session : Session) (operations : List Operation) (asked : Calls) (key : Key) :
    Option Answer :=
  match key.kind with
  | .computed =>
    some (Computation.askFirst key.name (session.computations operations) asked).1
  | .constant =>
    some (.ofFound (.unknownConstant key.name)
      (OrderedMap.lastValue? key.name (session.constantMaps operations)))
  | .fileConstant =>
    some (.ofFound (.unknownFileConstant key.name)
      (OrderedMap.lastValue? key.name (session.fileConstantMaps operations)))
  | .runtime => none
  | .literal => none

variable {grammar : Grammar} {calls : Calls} {operations : List Operation} {text : String}
  {key : Key}

/-! ### Keys without a provider -/

theorem answer_of_runtime (hparse : grammar.parse text = .ok key) (hkind : key.kind = .runtime) :
    ((start grammar calls).run operations).answer text =
      (Operation.lastWritten? key.name operations).elim (.error (.notFound key.name)) .ok := by
  have hkey : ((start grammar calls).run operations).resolver.grammar.parse text = .ok key := by
    rw [grammar_run_start, hparse]
  rw [answer_of_parse hkey, ← value?_run_start grammar calls]
  simp only [Resolver.lookup, hkind]
  cases ((start grammar calls).run operations).resolver.runtime.get? key.name <;> rfl

/-! ### Keys with a provider -/

theorem computed_run_start_of_unsupplied
    (hnone : ∀ operation ∈ operations, ¬ operation.Supplies .computed) :
    ((start grammar calls).run operations).resolver.computed = none := by
  apply (ProviderFamily.slot_run_start_eq_none_iff (P := ComputedProvider) _ _ _).mpr
  intro operation hoperation
  by_contra hsome
  exact hnone operation hoperation (Operation.supplies_computed_iff.mpr hsome)

theorem constants_run_start_of_unsupplied
    (hnone : ∀ operation ∈ operations, ¬ operation.Supplies .constants) :
    ((start grammar calls).run operations).resolver.constants = none := by
  apply (ProviderFamily.slot_run_start_eq_none_iff (P := ConstantsProvider) _ _ _).mpr
  intro operation hoperation
  by_contra hsome
  exact hnone operation hoperation (Operation.supplies_constants_iff.mpr hsome)

theorem exists_computed_of_supplied (grammar : Grammar) (calls : Calls)
    (hsupplied : ∃ operation ∈ operations, operation.Supplies .computed) :
    ∃ provider, ((start grammar calls).run operations).resolver.computed = some provider ∧
      provider.computed = (start grammar calls).computations operations := by
  obtain ⟨operation, hoperation, hsupplies⟩ := hsupplied
  have hempty : ProviderFamily.slot (P := ComputedProvider) (start grammar calls).resolver = none :=
    ProviderFamily.slot_start grammar calls
  have hregistered := (ProviderFamily.exists_registers_iff hempty operations).mpr
    ⟨operation, hoperation, Operation.supplies_computed_iff.mp hsupplies⟩
  obtain ⟨keeper, hslot⟩ := exists_computed_of_registered hregistered
  exact ⟨_, hslot, rfl⟩

/-- A name has the value that the last map with the name gives to it. -/
theorem exists_constants_of_supplied (grammar : Grammar) (calls : Calls)
    (hsupplied : ∃ operation ∈ operations, operation.Supplies .constants) :
    ∃ provider, ((start grammar calls).run operations).resolver.constants = some provider ∧
      (∀ name, provider.constants.get? name =
        OrderedMap.lastValue? name ((start grammar calls).constantMaps operations)) ∧
      ∀ name, provider.fileConstants.get? name =
        OrderedMap.lastValue? name ((start grammar calls).fileConstantMaps operations) := by
  obtain ⟨operation, hoperation, hsupplies⟩ := hsupplied
  have hempty : ProviderFamily.slot (P := ConstantsProvider) (start grammar calls).resolver = none :=
    ProviderFamily.slot_start grammar calls
  have hregistered := (ProviderFamily.exists_registers_iff hempty operations).mpr
    ⟨operation, hoperation, Operation.supplies_constants_iff.mp hsupplies⟩
  obtain ⟨provider, hslot, hconstants, hfileConstants⟩ :=
    exists_constants_of_registered grammar calls operations hregistered
  refine ⟨provider, hslot, ?_, ?_⟩
  · intro name
    rw [hconstants, OrderedMap.get?_merge, OrderedMap.get?_empty, Option.or_none]
  · intro name
    rw [hfileConstants, OrderedMap.get?_merge, OrderedMap.get?_empty, Option.or_none]

/-- While nothing of its family was handed over, a key has no provider. -/
theorem answer_of_unsupplied (hparse : grammar.parse text = .ok key) {family : ProviderKind}
    (hfamily : key.kind.provider? = some family)
    (hnone : ∀ operation ∈ operations, ¬ operation.Supplies family) :
    ((start grammar calls).run operations).answer text = .error (.providerMissing family) := by
  have hkey : ((start grammar calls).run operations).resolver.grammar.parse text = .ok key := by
    rw [grammar_run_start, hparse]
  rw [answer_of_parse hkey]
  cases hkind : key.kind with
  | computed =>
      rw [hkind] at hfamily
      cases hfamily
      simp only [Resolver.lookup, hkind, computed_run_start_of_unsupplied hnone]
  | constant | fileConstant =>
      rw [hkind] at hfamily
      cases hfamily
      simp only [Resolver.lookup, hkind, constants_run_start_of_unsupplied hnone]
  | runtime | literal =>
      rw [hkind] at hfamily
      cases hfamily

theorem answer_of_supplied (hdefault : ∀ operation ∈ operations, operation.DefaultLookups)
    (hparse : grammar.parse text = .ok key) {family : ProviderKind}
    (hfamily : key.kind.provider? = some family)
    (hsupplied : ∃ operation ∈ operations, operation.Supplies family) :
    ∃ reply, (start grammar calls).reply? operations
        ((start grammar calls).run operations).calls key = some reply ∧
      ((start grammar calls).run operations).answer text = reply.mapError .provider := by
  have hkey : ((start grammar calls).run operations).resolver.grammar.parse text = .ok key := by
    rw [grammar_run_start, hparse]
  have hrun := defaultLookups_run (defaultLookups_start grammar calls) hdefault
  rw [answer_of_parse hkey]
  obtain ⟨kind, name⟩ := key
  cases kind with
  | computed =>
      cases hfamily
      obtain ⟨provider, hslot, hheld⟩ := exists_computed_of_supplied grammar calls hsupplied
      refine ⟨_, rfl, ?_⟩
      simp only [Resolver.lookup, hslot,
        ComputedProvider.get_of_default (hrun.computed provider hslot), hheld]
  | constant =>
      cases hfamily
      obtain ⟨provider, hslot, hheld, -⟩ := exists_constants_of_supplied grammar calls hsupplied
      refine ⟨_, rfl, ?_⟩
      simp only [Resolver.lookup, hslot,
        ConstantsProvider.askConstant_of_default (hrun.constants provider hslot).constants, hheld]
  | fileConstant =>
      cases hfamily
      obtain ⟨provider, hslot, -, hheld⟩ := exists_constants_of_supplied grammar calls hsupplied
      refine ⟨_, rfl, ?_⟩
      simp only [Resolver.lookup, hslot,
        ConstantsProvider.askFileConstant_of_default (hrun.constants provider hslot).fileConstants,
        hheld]
  | runtime | literal => cases hfamily

/-! ### Conditions of outcomes -/

/-- Something of the key's family was handed over before. -/
def Supplied (operations : List Operation) (key : Key) : Prop :=
  ∃ family, key.kind.provider? = some family ∧ ∃ operation ∈ operations, operation.Supplies family

/-- The outcomes of a key that the grammar accepts after a run, each with its one condition; a
computation answers by how often it was asked before. -/
structure Outcomes (session : Session) (operations : List Operation) (asked : Calls) (key : Key)
    (answer : Except ResolveError Value) : Prop where
  notFound_iff : ∀ name, answer = .error (.notFound name) ↔
    name = key.name ∧ key.kind = .runtime ∧ ∀ value, .setValue key.name value ∉ operations
  providerMissing_iff : ∀ family, answer = .error (.providerMissing family) ↔
    key.kind.provider? = some family ∧ ∀ operation ∈ operations, ¬ operation.Supplies family
  provider_iff : ∀ error, answer = .error (.provider error) ↔
    Supplied operations key ∧ session.reply? operations asked key = some (.error error)
  ok_iff : ∀ value, answer = .ok value ↔
    key.kind = .literal ∧ value = .string key.name ∨
      key.kind = .runtime ∧ Operation.lastWritten? key.name operations = some value ∨
      Supplied operations key ∧ session.reply? operations asked key = some (.ok value)

theorem not_supplied_of_provider?_eq_none (hnone : key.kind.provider? = none) :
    ¬ Supplied operations key := by
  rintro ⟨family, hfamily, -⟩
  rw [hnone] at hfamily
  cases hfamily

theorem Outcomes.exists_ok_iff {session : Session} {asked : Calls}
    {answer : Except ResolveError Value} (houtcomes : session.Outcomes operations asked key answer)
    (haccepted : ∀ whole, answer ≠ .error (.malformedKey whole)) :
    (∃ value, answer = .ok value) ↔
      ¬ (key.kind = .runtime ∧ ∀ value, .setValue key.name value ∉ operations) ∧
      (∀ family, key.kind.provider? = some family →
        ∃ operation ∈ operations, operation.Supplies family) ∧
      ∀ error, Supplied operations key →
        session.reply? operations asked key ≠ some (.error error) := by
  have hnotFound := houtcomes.notFound_iff key.name
  constructor
  · rintro ⟨value, rfl⟩
    refine ⟨?_, ?_, ?_⟩
    · intro hnever
      cases hnotFound.mpr ⟨rfl, hnever⟩
    · intro family hfamily
      by_contra hnone
      have hmissing : ∀ operation ∈ operations, ¬ operation.Supplies family := by
        intro operation hoperation hsupplies
        exact hnone ⟨operation, hoperation, hsupplies⟩
      cases (houtcomes.providerMissing_iff family).mpr ⟨hfamily, hmissing⟩
    · intro error hsupplied hreply
      cases (houtcomes.provider_iff error).mpr ⟨hsupplied, hreply⟩
  · rintro ⟨hwritten, hsupplied, hreply⟩
    cases answer with
    | ok value => exact ⟨value, rfl⟩
    | error error =>
        exfalso
        cases error with
        | malformedKey whole => exact haccepted whole rfl
        | notFound name =>
            obtain ⟨rfl, hnever⟩ := (houtcomes.notFound_iff name).mp rfl
            exact hwritten hnever
        | providerMissing family =>
            obtain ⟨hfamily, hnone⟩ := (houtcomes.providerMissing_iff family).mp rfl
            obtain ⟨operation, hoperation, hsupplies⟩ := hsupplied family hfamily
            exact hnone operation hoperation hsupplies
        | provider error =>
            obtain ⟨hsome, herror⟩ := (houtcomes.provider_iff error).mp rfl
            exact hreply error hsome herror

theorem ne_of_provider?_eq_some {family : ProviderKind}
    (hfamily : key.kind.provider? = some family) : key.kind ≠ .runtime ∧ key.kind ≠ .literal := by
  cases hkind : key.kind with
  | runtime | literal =>
      rw [hkind] at hfamily
      cases hfamily
  | _ => decide

theorem outcomes_of_literal (session : Session) (operations : List Operation) (asked : Calls)
    (hkind : key.kind = .literal) :
    session.Outcomes operations asked key (.ok (.string key.name)) := by
  have hunsupplied : ¬ Supplied operations key :=
    not_supplied_of_provider?_eq_none (by rw [hkind]; rfl)
  constructor <;> simp [hkind, hunsupplied, Kind.provider?, eq_comm]

theorem outcomes_of_runtime (session : Session) (operations : List Operation) (asked : Calls)
    (hkind : key.kind = .runtime) :
    session.Outcomes operations asked key
      ((Operation.lastWritten? key.name operations).elim (.error (.notFound key.name)) .ok) := by
  have hunsupplied : ¬ Supplied operations key :=
    not_supplied_of_provider?_eq_none (by rw [hkind]; rfl)
  cases hwritten : Operation.lastWritten? key.name operations with
  | none =>
      have hnever := Operation.lastWritten?_eq_none_iff.mp hwritten
      constructor <;> simp [hkind, hunsupplied, hwritten, hnever, Kind.provider?, eq_comm]
  | some value =>
      have hwrote : ¬ ∀ value, .setValue key.name value ∉ operations := by
        rw [← Operation.lastWritten?_eq_none_iff, hwritten]
        exact Option.some_ne_none value
      constructor <;> simp_all [Kind.provider?]

theorem outcomes_of_unsupplied (session : Session) (asked : Calls) {family : ProviderKind}
    (hfamily : key.kind.provider? = some family)
    (hnone : ∀ operation ∈ operations, ¬ operation.Supplies family) :
    session.Outcomes operations asked key (.error (.providerMissing family)) := by
  have hunsupplied : ¬ Supplied operations key := by
    rintro ⟨other, hother, operation, hoperation, hsupplies⟩
    rw [hfamily] at hother
    cases hother
    exact hnone operation hoperation hsupplies
  obtain ⟨hruntime, hliteral⟩ := ne_of_provider?_eq_some hfamily
  constructor
  case providerMissing_iff =>
    intro other
    rw [hfamily]
    constructor
    · intro hother
      cases hother
      exact ⟨rfl, hnone⟩
    · rintro ⟨hother, -⟩
      cases hother
      rfl
  all_goals simp [hruntime, hliteral, hunsupplied]

theorem outcomes_of_supplied {session : Session} {asked : Calls} {reply : Answer}
    (hsupplied : Supplied operations key)
    (hreply : session.reply? operations asked key = some reply) :
    session.Outcomes operations asked key (reply.mapError .provider) := by
  obtain ⟨family, hfamily, operation, hoperation, hsupplies⟩ := hsupplied
  obtain ⟨hruntime, hliteral⟩ := ne_of_provider?_eq_some hfamily
  have hmissing : ∀ other, ¬ (key.kind.provider? = some other ∧
      ∀ operation ∈ operations, ¬ operation.Supplies other) := by
    rintro other ⟨hother, hnone⟩
    rw [hfamily] at hother
    cases hother
    exact hnone operation hoperation hsupplies
  have hsupplied : Supplied operations key :=
    ⟨family, hfamily, operation, hoperation, hsupplies⟩
  cases reply with
  | error error =>
      constructor <;> simp [hruntime, hliteral, hmissing, hsupplied, hreply, Except.mapError]
  | ok value =>
      constructor <;> simp [hruntime, hliteral, hmissing, hsupplied, hreply, Except.mapError]

theorem outcomes_run_start (hdefault : ∀ operation ∈ operations, operation.DefaultLookups)
    (hparse : grammar.parse text = .ok key) :
    (start grammar calls).Outcomes operations ((start grammar calls).run operations).calls key
      (((start grammar calls).run operations).answer text) := by
  cases hfamily : key.kind.provider? with
  | some family =>
      by_cases hsupplied : ∃ operation ∈ operations, operation.Supplies family
      · obtain ⟨reply, hreply, hanswer⟩ := answer_of_supplied hdefault hparse hfamily hsupplied
        rw [hanswer]
        exact outcomes_of_supplied ⟨family, hfamily, hsupplied⟩ hreply
      · have hnone : ∀ operation ∈ operations, ¬ operation.Supplies family := by
          intro operation hoperation hsupplies
          exact hsupplied ⟨operation, hoperation, hsupplies⟩
        rw [answer_of_unsupplied hparse hfamily hnone]
        exact outcomes_of_unsupplied _ _ hfamily hnone
  | none =>
      cases hkind : key.kind with
      | runtime =>
          rw [answer_of_runtime hparse hkind]
          exact outcomes_of_runtime _ _ _ hkind
      | literal =>
          have hkey : ((start grammar calls).run operations).resolver.grammar.parse text =
              .ok key := by
            rw [grammar_run_start, hparse]
          have hanswer : ((start grammar calls).run operations).answer text =
              .ok (.string key.name) := by
            rw [answer_of_parse hkey]
            simp only [Resolver.lookup, hkind]
          rw [hanswer]
          exact outcomes_of_literal _ _ _ hkind
      | computed | constant | fileConstant =>
          rw [hkind] at hfamily
          cases hfamily

end Session

/-! ### The law -/

namespace Resolver

/-- No store refuses a key, and what a provider fails with is marked as the provider's. -/
theorem lookup_ne_malformed (resolver : Resolver) (asked : Calls) (key : Key) (whole : String) :
    (resolver.lookup asked key).1 ≠ .error (.malformedKey whole) := by
  have hmarked (reply : Answer) :
      reply.mapError ResolveError.provider ≠ .error (.malformedKey whole) := by
    cases reply <;> simp [Except.mapError]
  intro hanswer
  obtain ⟨kind, name⟩ := key
  cases kind with
  | runtime =>
      simp only [lookup] at hanswer
      cases hvalue : resolver.runtime.get? name <;> simp [hvalue] at hanswer
  | computed | constant | fileConstant =>
      simp only [lookup] at hanswer
      split at hanswer
      · exact hmarked _ hanswer
      · cases hanswer
  | literal => cases hanswer

/-- What the stores hold plays no role in the refusal of a key. -/
theorem answer_eq_malformed_iff (resolver : Resolver) (asked : Calls) (text whole : String) :
    (resolver.resolve asked text).answer = .error (.malformedKey whole) ↔
      whole = text ∧ resolver.grammar.Refuses text := by
  cases hparse : resolver.grammar.parse text with
  | error error =>
      obtain ⟨rfl, hrefuses⟩ := Grammar.parse_eq_error_iff.mp hparse
      simp [resolve, hparse, hrefuses, eq_comm]
  | ok key =>
      have haccepted := (Grammar.parse_eq_ok_iff.mp hparse).2
      have hanswer : (resolver.resolve asked text).answer = (resolver.lookup asked key).1 := by
        simp only [resolve, hparse]
      rw [hanswer]
      exact iff_of_false (resolver.lookup_ne_malformed asked key whole) fun h => haccepted h.2

end Resolver

/-- What resolving a key comes to after any run on a fresh resolver without rules. The key is
malformed, and the error carries all of it, exactly if the strict grammar refuses it, whatever the
stores hold. Otherwise the longest sigil of the key classifies it, each kind of failure has its own
condition on the history, and there is a value exactly if none of these conditions holds. -/
theorem resolve_outcomes (grammar : Grammar) (calls : Calls) (operations : List Operation)
    (hdefault : ∀ operation ∈ operations, operation.DefaultLookups) (text : String) :
    (∀ (resolver : Resolver) asked whole, resolver.grammar = grammar →
      ((resolver.resolve asked text).answer = .error (.malformedKey whole) ↔
        whole = text ∧ grammar.Refuses text)) ∧
    (∀ whole, ((Session.start grammar calls).run operations).answer text =
        .error (.malformedKey whole) ↔ whole = text ∧ grammar.Refuses text) ∧
    ∀ key : Key, key.Classifies text → ¬ grammar.Refuses text →
      (Session.start grammar calls).Outcomes operations
          ((Session.start grammar calls).run operations).calls key
          (((Session.start grammar calls).run operations).answer text) ∧
        ((∃ value, ((Session.start grammar calls).run operations).answer text = .ok value) ↔
          ¬ (key.kind = .runtime ∧ ∀ value, .setValue key.name value ∉ operations) ∧
          (∀ family, key.kind.provider? = some family →
            ∃ operation ∈ operations, operation.Supplies family) ∧
          ∀ error, Session.Supplied operations key →
            (Session.start grammar calls).reply? operations
              ((Session.start grammar calls).run operations).calls key ≠ some (.error error)) := by
  have hmalformed (whole : String) :
      ((Session.start grammar calls).run operations).answer text = .error (.malformedKey whole) ↔
        whole = text ∧ grammar.Refuses text := by
    have hiff := Resolver.answer_eq_malformed_iff
      ((Session.start grammar calls).run operations).resolver
      ((Session.start grammar calls).run operations).calls text whole
    rw [Session.grammar_run_start] at hiff
    exact hiff
  refine ⟨?_, hmalformed, ?_⟩
  · rintro resolver asked whole rfl
    exact resolver.answer_eq_malformed_iff asked text whole
  · intro key hclassifies haccepted
    have houtcomes : (Session.start grammar calls).Outcomes operations
        ((Session.start grammar calls).run operations).calls key
        (((Session.start grammar calls).run operations).answer text) :=
      Session.outcomes_run_start hdefault
        (Grammar.parse_eq_ok_iff.mpr ⟨hclassifies, haccepted⟩)
    refine ⟨houtcomes, houtcomes.exists_ok_iff ?_⟩
    intro whole hanswer
    exact haccepted ((hmalformed whole).mp hanswer).2

/-- A write, a refused batch, and computations of which one fails with an error that names something
else. No constants are registered. -/
def Operation.writeThenComputations : List Operation :=
  [.setValue "a" (.string "written"),
    .registerConstantsBatch [],
    .registerComputedBatch
      [{ computed := [.failing "c" 0 (.unknownConstant "other"), .always "d" 1 (.bytes [1])] }]]

theorem Operation.defaultLookups_writeThenComputations :
    ∀ operation ∈ writeThenComputations, operation.DefaultLookups := by
  intro operation hoperation
  simp only [writeThenComputations, List.mem_cons, List.not_mem_nil, or_false] at hoperation
  rcases hoperation with rfl | rfl | rfl
  case inr.inr =>
    refine ⟨?_, by simp [constantsProviders]⟩
    intro provider hprovider
    cases List.mem_singleton.mp hprovider
    rfl
  all_goals exact ⟨by simp [computedProviders], by simp [constantsProviders]⟩

/-- What the strict grammar refuses, what was never written, an empty batch, an error of a
computation and a value. -/
theorem resolve_outcomes_strict :
    (∀ operation ∈ Operation.writeThenComputations, operation.DefaultLookups) ∧
    ((Session.start .strict .none).run Operation.writeThenComputations).answer "$!a" =
      .error (.malformedKey "$!a") ∧
    ((Session.start .strict .none).run Operation.writeThenComputations).answer "$b" =
      .error (.notFound "b") ∧
    ((Session.start .strict .none).run Operation.writeThenComputations).answer "!!n" =
      .error (.providerMissing .constants) ∧
    ((Session.start .strict .none).run Operation.writeThenComputations).answer "#c" =
      .error (.provider (.unknownConstant "other")) ∧
    ∃ value, ((Session.start .strict .none).run Operation.writeThenComputations).answer "#d" =
      .ok value := by
  have houtcomes (text : String) := resolve_outcomes .strict .none Operation.writeThenComputations
    Operation.defaultLookups_writeThenComputations text
  have haccepted (text : String) (hparse : (Grammar.strict.parse text).isOk = true) :
      ¬ Grammar.strict.Refuses text := by
    intro hrefuses
    rw [Grammar.parse_eq_error_iff.mpr ⟨rfl, hrefuses⟩] at hparse
    cases hparse
  have hbatch : Operation.Supplies .computed (.registerComputedBatch
      [{ computed := [.failing "c" 0 (.unknownConstant "other"), .always "d" 1 (.bytes [1])] }]) :=
    List.cons_ne_nil _ _
  have hsupplied (name : String) :
      Session.Supplied Operation.writeThenComputations ⟨.computed, name⟩ :=
    ⟨.computed, rfl, _, by simp [Operation.writeThenComputations], hbatch⟩
  refine ⟨Operation.defaultLookups_writeThenComputations, ?_, ?_, ?_, ?_, ?_⟩
  · have hrefused : Grammar.strict.Refuses "$!a" := Grammar.refuses_iff.mpr ⟨rfl, rfl, rfl⟩
    exact ((houtcomes "$!a").2.1 "$!a").mpr ⟨rfl, hrefused⟩
  · obtain ⟨hlaw, -⟩ := (houtcomes "$b").2.2 ⟨.runtime, "b"⟩
      (Key.classifies_parse "$b") (haccepted "$b" rfl)
    apply (hlaw.notFound_iff "b").mpr
    exact ⟨rfl, rfl, by simp [Operation.writeThenComputations]⟩
  · obtain ⟨hlaw, -⟩ := (houtcomes "!!n").2.2 ⟨.fileConstant, "n"⟩
      (Key.classifies_parse "!!n") (haccepted "!!n" rfl)
    apply (hlaw.providerMissing_iff .constants).mpr
    refine ⟨rfl, ?_⟩
    simp [Operation.writeThenComputations, Operation.Supplies]
  · obtain ⟨hlaw, -⟩ := (houtcomes "#c").2.2 ⟨.computed, "c"⟩
      (Key.classifies_parse "#c") (haccepted "#c" rfl)
    exact (hlaw.provider_iff (.unknownConstant "other")).mpr ⟨hsupplied "c", rfl⟩
  · obtain ⟨hlaw, -⟩ := (houtcomes "#d").2.2 ⟨.computed, "d"⟩
      (Key.classifies_parse "#d") (haccepted "#d" rfl)
    exact ⟨.bytes [1], (hlaw.ok_iff (.bytes [1])).mpr (.inr (.inr ⟨hsupplied "d", rfl⟩))⟩

end SigilLookup
