import SigilLookup.Proofs.Session.History

/-!
# The history of the computed slot

The computed slot holds the registered computations one after the other, shadowed ones included, and
a name belongs to the first computation that has it. What comes later goes to the end, so it can
give an answer to a new name, but it never takes a name away from the computation that has it.
-/

namespace SigilLookup

/-! ### First computations -/

namespace Computation

/-- A computation found for a name goes on being found, whatever is appended. -/
theorem find?_append_of_some {name : String} {computations : List Computation}
    {computation : Computation}
    (hfirst : (computations.find? fun candidate => candidate.name = name) = some computation)
    (more : List Computation) :
    ((computations ++ more).find? fun candidate => candidate.name = name) = some computation := by
  rw [List.find?_append, hfirst, Option.some_or]

theorem askFirst_of_some {name : String} {computations : List Computation}
    {computation : Computation}
    (hfirst : (computations.find? fun candidate => candidate.name = name) = some computation)
    (calls : Calls) :
    askFirst name computations calls = computation.evaluate calls := by
  simp only [askFirst, hfirst]

theorem askFirst_of_none {name : String} {computations : List Computation}
    (hnone : (computations.find? fun candidate => candidate.name = name) = none) (calls : Calls) :
    askFirst name computations calls = (.error (.unknownComputed name), calls) := by
  simp only [askFirst, hnone]

theorem askFirst_append_of_known {computations more : List Computation}
    (hknown : ∀ computation ∈ more, ∃ known ∈ computations, known.name = computation.name)
    (name : String) (calls : Calls) :
    askFirst name (computations ++ more) calls = askFirst name computations calls := by
  simp only [askFirst, List.find?_append]
  cases hfirst : computations.find? fun candidate => candidate.name = name with
  | some computation => rfl
  | none =>
      rw [Option.none_or]
      have hmore : (more.find? fun candidate => candidate.name = name) = none := by
        rw [List.find?_eq_none] at hfirst ⊢
        intro computation hmem hname
        obtain ⟨known, hmemKnown, hsame⟩ := hknown computation hmem
        have hnameKnown : known.name = name := hsame.trans (of_decide_eq_true hname)
        exact hfirst known hmemKnown (decide_eq_true hnameKnown)
      rw [hmore]

end Computation

namespace Resolver

/-- A lookup does not notice that the computed provider is replaced by one with the same answers. -/
theorem resolve_congr_computed {resolver : Resolver} {kept provider : ComputedProvider}
    (hslot : resolver.computed = some kept)
    (hget : ∀ calls name, provider.get calls name = kept.get calls name)
    (calls : Calls) (text : String) :
    { resolver with computed := some provider : Resolver }.resolve calls text =
      resolver.resolve calls text := by
  simp only [resolve]
  cases resolver.grammar.parse text with
  | error error => rfl
  | ok key =>
      simp only [lookup, hslot]
      cases key.kind with
      | computed => simp only [hget]
      | _ => rfl

end Resolver

namespace Session

variable {grammar : Grammar} {calls : Calls} {operations : List Operation}

theorem computations_append (session : Session) (operations later : List Operation) :
    session.computations (operations ++ later) =
      session.computations operations ++
        (later.flatMap Operation.computedProviders).flatMap ComputedProvider.computed := by
  have hregistered := ProviderFamily.registeredIn_append (P := ComputedProvider) session
    operations later
  rw [computations, hregistered, List.flatMap_append]
  rfl

/-- The computations of every run are listed by name, the shadowed ones too. -/
theorem computedNames_run_start (grammar : Grammar) (calls : Calls)
    (operations : List Operation) :
    ((start grammar calls).run operations).resolver.computedNames =
      ((start grammar calls).computations operations).map Computation.name := by
  have hslot := computed_run_start grammar calls operations
  cases hkeeper : (start grammar calls).keeperIn? ComputedProvider operations with
  | none =>
      have hnil := ProviderFamily.registeredIn_eq_nil rfl hkeeper
      rw [hkeeper, Option.map_none] at hslot
      simp [Resolver.computedNames, hslot, computations, hnil]
  | some keeper =>
      rw [hkeeper, Option.map_some] at hslot
      simp only [Resolver.computedNames, hslot]
      rfl

/-- Where some registration succeeded, a provider is kept and holds all computations. -/
theorem exists_computed_of_registered
    (hregistered : ∃ operation ∈ (start grammar calls).accepted operations,
      operation.registersComputed = true) :
    ∃ keeper : ComputedProvider, ((start grammar calls).run operations).resolver.computed =
      some (keeper.replaceComputed ((start grammar calls).computations operations)) := by
  obtain ⟨keeper, hkeeper⟩ := ProviderFamily.exists_keeper (P := ComputedProvider) rfl hregistered
  have hslot := computed_run_start grammar calls operations
  rw [hkeeper, Option.map_some] at hslot
  exact ⟨keeper, hslot⟩

/-- A computation that answers for a name is not displaced by anything registered later. -/
theorem resolve_run_of_first {session : Session} {provider : ComputedProvider} {name : String}
    {computation : Computation} (hslot : session.resolver.computed = some provider)
    (hdefault : provider.DefaultLookup)
    (hfirst : (provider.computed.find? fun candidate => candidate.name = name) = some computation)
    (haccepts : session.resolver.grammar.Accepts ("#" ++ name))
    (later : List Operation) (asked : Calls) :
    (session.run later).resolver.resolve asked ("#" ++ name) =
      .ofReply ⟨.computed, name⟩ (computation.evaluate asked) := by
  have hlater := ProviderFamily.slot_run_of_some (P := ComputedProvider) hslot later
  rw [ComputedProvider.absorb_eq] at hlater
  have hparse : (session.run later).resolver.grammar.parse ("#" ++ name) =
      .ok ⟨.computed, name⟩ := by
    rw [grammar_run, haccepts.parse_computed]
  rw [Resolver.resolve_computed_of_default hparse hlater hdefault]
  exact congrArg _ (Computation.askFirst_of_some (Computation.find?_append_of_some hfirst _) asked)

/-- A registration that only brings computations of names that are taken changes no lookup. -/
theorem resolve_step_of_known {session : Session} {provider : ComputedProvider}
    {operation : Operation} (hslot : session.resolver.computed = some provider)
    (hdefault : provider.DefaultLookup) (hregisters : operation.registersComputed = true)
    (hknown : ∀ computation ∈ operation.computedProviders.flatMap ComputedProvider.computed,
      ∃ known ∈ provider.computed, known.name = computation.name)
    (asked : Calls) (text : String) :
    (session.step operation).1.resolver.resolve asked text =
      session.resolver.resolve asked text := by
  have hnext : (session.step operation).1.resolver =
      { session.resolver with
        computed := some (provider.replaceComputed (provider.computed ++
          operation.computedProviders.flatMap ComputedProvider.computed)) } := by
    rw [ProviderFamily.resolver_of_registers (P := ComputedProvider) session operation hregisters,
      ← ComputedProvider.absorb_eq]
    simp only [ProviderFamily.slot, hslot]
    rfl
  rw [hnext]
  refine Resolver.resolve_congr_computed hslot ?_ asked text
  intro calls name
  have hgrown : (provider.replaceComputed (provider.computed ++
      operation.computedProviders.flatMap ComputedProvider.computed)).DefaultLookup := hdefault
  rw [ComputedProvider.get_of_default hdefault, ComputedProvider.get_of_default hgrown]
  exact Computation.askFirst_append_of_known hknown name calls

end Session

/-! ### The law -/

/-- After any run on a fresh resolver in which some registration of computed providers succeeded, the
computations held are those of all registered providers one after the other, and these are the names
that are listed. Where the kept provider has no rule of its own, a name is answered by the first
computation that has it, or by nothing; no later run displaces that computation; and registering
computations again, or others of names that are taken, changes no lookup at all. -/
theorem computed_history (grammar : Grammar) (calls : Calls) (operations : List Operation)
    (hregistered : ∃ operation ∈ (Session.start grammar calls).accepted operations,
      operation.registersComputed = true) :
    ∃ provider,
      ((Session.start grammar calls).run operations).resolver.computed = some provider ∧
      provider.computed = (Session.start grammar calls).computations operations ∧
      ((Session.start grammar calls).run operations).resolver.computedNames =
        ((Session.start grammar calls).computations operations).map Computation.name ∧
      (provider.DefaultLookup →
        (∀ name, grammar.Accepts ("#" ++ name) → ∀ asked,
          ((Session.start grammar calls).run operations).resolver.resolve asked ("#" ++ name) =
            .ofReply ⟨.computed, name⟩
              (Computation.askFirst name
                ((Session.start grammar calls).computations operations) asked)) ∧
        (∀ name computation, grammar.Accepts ("#" ++ name) →
          (((Session.start grammar calls).computations operations).find? fun candidate =>
            candidate.name = name) = some computation →
          ∀ later asked,
            ((Session.start grammar calls).run (operations ++ later)).resolver.resolve asked
                ("#" ++ name) =
              .ofReply ⟨.computed, name⟩ (computation.evaluate asked)) ∧
        (∀ again, again.registersComputed = true →
          (∀ computation ∈ again.computedProviders.flatMap ComputedProvider.computed,
            ∃ known ∈ (Session.start grammar calls).computations operations,
              known.name = computation.name) →
          (∀ asked text,
            ((Session.start grammar calls).run (operations ++ [again])).resolver.resolve asked
                text =
              ((Session.start grammar calls).run operations).resolver.resolve asked text) ∧
          ((Session.start grammar calls).run (operations ++ [again])).resolver.computedNames =
            ((Session.start grammar calls).run operations).resolver.computedNames ++
              (again.computedProviders.flatMap ComputedProvider.computed).map
                Computation.name)) := by
  obtain ⟨keeper, hslot⟩ := Session.exists_computed_of_registered hregistered
  have hnames := Session.computedNames_run_start grammar calls operations
  have hgrammar : ((Session.start grammar calls).run operations).resolver.grammar = grammar :=
    Session.grammar_run _ operations
  refine ⟨_, hslot, rfl, hnames, ?_⟩
  intro hdefault
  refine ⟨?_, ?_, ?_⟩
  · intro name haccepts asked
    have hparse := haccepts.parse_computed
    rw [← hgrammar] at hparse
    exact Resolver.resolve_computed_of_default hparse hslot hdefault asked
  · intro name computation haccepts hfirst later asked
    rw [← hgrammar] at haccepts
    rw [Session.run_append]
    exact Session.resolve_run_of_first hslot hdefault hfirst haccepts later asked
  · intro again hregisters hknown
    constructor
    · intro asked text
      rw [Session.run_concat]
      exact Session.resolve_step_of_known hslot hdefault hregisters hknown asked text
    · rw [hnames, Session.computedNames_run_start, Session.computations_append, List.map_append,
        List.flatMap_singleton]

def Operation.rivals : List Operation :=
  [.registerComputed { computed := [.always "a" 0 (.string "first")] },
    .registerComputedBatch [{ computed := [.always "b" 1 (.string "other")] },
      { computed := [.always "a" 2 (.string "second")] }]]

theorem computed_history_rivals :
    (∃ operation ∈ (Session.start .lenient .none).accepted Operation.rivals,
      operation.registersComputed = true) ∧
    ((Session.start .lenient .none).run Operation.rivals).resolver.computedNames =
      ["a", "b", "a"] ∧
    (((Session.start .lenient .none).run Operation.rivals).resolver.resolve .none "#a").answer =
      .ok (.string "first") := by
  have hregistered : ∃ operation ∈ (Session.start .lenient .none).accepted Operation.rivals,
      operation.registersComputed = true := by decide
  obtain ⟨provider, hslot, -, hnames, hlaw⟩ :=
    computed_history .lenient .none Operation.rivals hregistered
  have hdefault : provider.DefaultLookup := by
    cases hslot
    rfl
  have hfirst := (hlaw hdefault).1 "a" ⟨_, rfl⟩ .none
  exact ⟨hregistered, hnames, congrArg Resolution.answer hfirst⟩

end SigilLookup
