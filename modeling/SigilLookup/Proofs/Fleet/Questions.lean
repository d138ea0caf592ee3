import Mathlib.Algebra.Group.Nat.Defs
import SigilLookup.Proofs.Fleet.Basic

/-!
# Who is asked

A computation runs when a lookup asks it, and at no other time. Which one a lookup asks is read off
the history alone (`Fleet.asked?`): the first one of the name among those registered with the member
that is used. From one operation to a run the questions add up (`Fleet.count_run`), so the counts of
the fleet at the end are the counts of the questions in the history, through whatever copies and
members they came.
-/

namespace SigilLookup.Fleet

variable {ι : Type} [DecidableEq ι]

/-- The computation that an operation asks after a history: for a key that the member's grammar
classifies as computed, the first computation of the name that is registered with the member. -/
def asked? (grammars : ι → Grammar) (before : List (Action ι)) (action : Action ι) :
    Option Computation :=
  match action.operation with
  | .resolve text =>
    ((grammars action.member).computedName? text).bind fun name =>
      Computation.find? name (computationsOf action.member before)
  | _ => none

/-- The computations that a run asks after a history, one for each lookup that asks one. -/
def asked (grammars : ι → Grammar) (before : List (Action ι)) :
    List (Action ι) → List Computation
  | [] => []
  | action :: rest =>
    (asked? grammars before action).toList ++ asked grammars (before ++ [action]) rest

variable {grammars : ι → Grammar} {before actions : List (Action ι)} {fleet : Fleet ι}

theorem asked?_eq_none {action : Action ι}
    (hother : ∀ text, action.operation = .resolve text →
      (grammars action.member).computedName? text = none) :
    asked? grammars before action = none := by
  unfold asked?
  split
  case h_1 text hoperation => rw [hother text hoperation, Option.bind_none]
  case h_2 => rfl

theorem asked?_resolve_of_name {member : ι} {text name : String}
    (hname : (grammars member).computedName? text = some name) :
    asked? grammars before ⟨member, .resolve text⟩ =
      Computation.find? name (computationsOf member before) := by
  simp [asked?, hname]

/-! ### One operation -/

theorem calls_askFirst (name : String) (computations : List Computation) (calls : Calls) :
    (Computation.askFirst name computations calls).2 =
      (Computation.find? name computations).elim calls fun computation =>
        calls.ask computation.cell := by
  unfold Computation.askFirst Computation.find?
  split
  case h_1 computation hfirst =>
    rw [hfirst]
    rfl
  case h_2 hnone =>
    rw [hnone]
    rfl

/-- The step lemma: an operation asks one computation once, or none. -/
theorem calls_step_of_holds (hholds : fleet.Holds grammars before) (action : Action ι) :
    (fleet.step action).1.calls =
      (asked? grammars before action).elim fleet.calls fun computation =>
        fleet.calls.ask computation.cell := by
  obtain ⟨member, operation⟩ := action
  by_cases hlookup : ∃ text, operation = .resolve text
  · obtain ⟨text, rfl⟩ := hlookup
    have hcalls := Resolver.calls_resolve (hholds.defaultLookups member) fleet.calls text
    rw [hholds.grammar, hholds.computations] at hcalls
    have hstep : (fleet.step ⟨member, .resolve text⟩).1.calls =
        ((fleet.resolvers member).resolve fleet.calls text).calls := rfl
    rw [hstep, hcalls]
    cases hname : (grammars member).computedName? text with
    | none => simp [asked?, hname]
    | some name => rw [asked?_resolve_of_name hname, Option.elim_some, calls_askFirst]
  · have hother : ∀ text, operation ≠ .resolve text := by
      intro text heq
      exact hlookup ⟨text, heq⟩
    have hnone : asked? grammars before ⟨member, operation⟩ = none :=
      asked?_eq_none fun text heq => absurd heq (hother text)
    rw [hnone, calls_step, Session.calls_step_of_not_resolve hother]
    rfl

/-- What a lookup answers that asks a computation: what this computation answers next. -/
theorem response_of_asked (hholds : fleet.Holds grammars before) {member : ι} {text name : String}
    (hname : (grammars member).computedName? text = some name) {computation : Computation}
    (hfirst : Computation.find? name (computationsOf member before) = some computation) :
    (fleet.step ⟨member, .resolve text⟩).2 =
      .resolved ((computation.answer (fleet.calls.count computation.cell)).mapError .provider) := by
  have hparse := Grammar.computedName?_eq_some_iff.mp hname
  rw [← hholds.grammar member] at hparse
  rw [← hholds.computations member] at hfirst
  cases hslot : (fleet.resolvers member).computed with
  | none =>
      rw [hslot] at hfirst
      cases hfirst
  | some provider =>
      rw [hslot] at hfirst
      have hresolve := Resolver.resolve_computed_of_default hparse hslot
        ((hholds.defaultLookups member).computed provider hslot) fleet.calls
      have hanswer : (Computation.askFirst name provider.computed fleet.calls).1 =
          computation.answer (fleet.calls.count computation.cell) := by
        have hfound : (provider.computed.find? fun candidate => candidate.name = name) =
            some computation := hfirst
        simp only [Computation.askFirst, hfound]
        rfl
      have hstep : (fleet.step ⟨member, .resolve text⟩).2 =
          .resolved ((fleet.resolvers member).resolve fleet.calls text).answer := rfl
      rw [hstep, hresolve, ← hanswer]
      rfl

/-! ### Runs -/

theorem count_elim_ask (calls : Calls) (found : Option Computation) (cell : Nat) :
    (found.elim calls fun computation => calls.ask computation.cell).count cell =
      calls.count cell + found.toList.countP fun computation => computation.cell = cell := by
  cases found with
  | none => rfl
  | some computation =>
      by_cases hcell : computation.cell = cell
      · subst hcell
        simp
      · simp [Calls.count_ask_of_ne calls (Ne.symm hcell), hcell]

/-- The run lemma: each question in the history moves the count of its cell on by one, and nothing
else moves any count. -/
theorem count_run (hholds : fleet.Holds grammars before)
    (hactions : ∀ action ∈ actions, action.operation.DefaultLookups) (cell : Nat) :
    (fleet.run actions).calls.count cell =
      fleet.calls.count cell +
        (asked grammars before actions).countP fun computation => computation.cell = cell := by
  induction actions generalizing fleet before with
  | nil => rfl
  | cons action rest ih =>
      obtain ⟨haction, hrest⟩ := List.forall_mem_cons.mp hactions
      rw [run_cons, ih (hholds.step haction) hrest, calls_step_of_holds hholds, count_elim_ask,
        asked, List.countP_append, Nat.add_assoc]

/-! ### Counters -/

theorem cell_counter (name : String) (cell : Nat) (first : UInt64) :
    (Computation.counter name cell first).cell = cell := rfl

/-- What a counter answers, as a natural number below the number of 64-bit words. -/
theorem answer_counter (name : String) (cell : Nat) (first : UInt64) (asked : Nat) :
    ∃ word : UInt64, word.toNat = (first.toNat + asked) % 2 ^ 64 ∧
      (Computation.counter name cell first).answer asked =
        .ok (.json (.num (.ofUInt64 word))) := by
  refine ⟨first + asked.toUInt64, ?_, rfl⟩
  rw [UInt64.toNat_add, Nat.toUInt64_eq, UInt64.toNat_ofNat', Nat.add_mod_mod]

/-! ### The law -/

/-- Computations run exactly when they are asked. In any run of any number of resolvers without
rules, a cell is asked as often as a lookup finds one of its computations first under a computed
key, through whatever copy and on whatever resolver; every other operation leaves all counts alone,
and a lookup leaves all resolvers alone. So a computation answers by the number of questions that
came before, and a counter answers its start plus this number, in 64-bit words. -/
theorem computations_run_when_asked (grammars : ι → Grammar) (calls : Calls)
    (actions : List (Action ι)) (hdefault : ∀ action ∈ actions, action.operation.DefaultLookups) :
    (∀ cell, ((start grammars calls).run actions).calls.count cell =
      calls.count cell +
        (asked grammars [] actions).countP fun computation => computation.cell = cell) ∧
    (∀ action, (((start grammars calls).run actions).step action).1.calls =
      (asked? grammars actions action).elim ((start grammars calls).run actions).calls
        fun computation => ((start grammars calls).run actions).calls.ask computation.cell) ∧
    (∀ action, (∀ text, action.operation = .resolve text →
        (grammars action.member).computedName? text = none) →
      (((start grammars calls).run actions).step action).1.calls =
        ((start grammars calls).run actions).calls) ∧
    (∀ member text, (((start grammars calls).run actions).step ⟨member, .resolve text⟩).1.resolvers =
      ((start grammars calls).run actions).resolvers) ∧
    (∀ member text name computation, (grammars member).parse text = .ok ⟨.computed, name⟩ →
      Computation.find? name (computationsOf member actions) = some computation →
      (((start grammars calls).run actions).step ⟨member, .resolve text⟩).2 =
        .resolved ((computation.answer (calls.count computation.cell +
          (asked grammars [] actions).countP fun other => other.cell = computation.cell)).mapError
            .provider)) ∧
    ∀ member text name cell first, (grammars member).parse text = .ok ⟨.computed, name⟩ →
      Computation.find? name (computationsOf member actions) = some (.counter name cell first) →
      ∃ word : UInt64,
        word.toNat = (first.toNat + (calls.count cell +
          (asked grammars [] actions).countP fun other => other.cell = cell)) % 2 ^ 64 ∧
        (((start grammars calls).run actions).step ⟨member, .resolve text⟩).2 =
          .resolved (.ok (.json (.num (.ofUInt64 word)))) := by
  have hholds : ((start grammars calls).run actions).Holds grammars actions :=
    (holds_start grammars calls).run hdefault
  have hcount : ∀ cell, ((start grammars calls).run actions).calls.count cell =
      calls.count cell +
        (asked grammars [] actions).countP fun computation => computation.cell = cell :=
    count_run (holds_start grammars calls) hdefault
  have hresponse : ∀ member text name computation,
      (grammars member).parse text = .ok ⟨.computed, name⟩ →
      Computation.find? name (computationsOf member actions) = some computation →
      (((start grammars calls).run actions).step ⟨member, .resolve text⟩).2 =
        .resolved ((computation.answer (calls.count computation.cell +
          (asked grammars [] actions).countP fun other => other.cell = computation.cell)).mapError
            .provider) := by
    intro member text name computation hparse hfirst
    rw [response_of_asked hholds (Grammar.computedName?_eq_some_iff.mpr hparse) hfirst, hcount]
  refine ⟨hcount, calls_step_of_holds hholds, ?_, ?_, hresponse, ?_⟩
  · intro action hother
    rw [calls_step_of_holds hholds, asked?_eq_none hother, Option.elim_none]
  · intro member text
    exact resolvers_step_resolve _ member text
  · intro member text name cell first hparse hfirst
    obtain ⟨word, hword, hanswer⟩ := answer_counter name cell first (calls.count cell +
      (asked grammars [] actions).countP fun other => other.cell = cell)
    have hresolved := hresponse member text name _ hparse hfirst
    rw [cell_counter, hanswer] at hresolved
    exact ⟨word, hword, hresolved⟩

/-- Two resolvers with copies of one counter, which stands before another computation of its name in
one of them, and lookups of which three ask it. -/
def sharedCounter : List (Action Bool) :=
  [⟨true, .registerComputed { computed := [.counter "c" 0 0xFFFFFFFFFFFFFFFF] }⟩,
    ⟨false, .registerComputedBatch
      [{ computed := [.counter "c" 0 0xFFFFFFFFFFFFFFFF] },
        { computed := [.always "c" 1 (.string "shadowed")] }]⟩,
    ⟨true, .resolve "#c"⟩, ⟨false, .resolve "#c"⟩, ⟨false, .resolve "$c"⟩, ⟨true, .overview⟩,
    ⟨true, .registerConstantsBatch []⟩, ⟨false, .resolve "#c"⟩]

theorem defaultLookups_sharedCounter :
    ∀ action ∈ sharedCounter, action.operation.DefaultLookups := by
  intro action haction
  simp only [sharedCounter, List.mem_cons, List.not_mem_nil, or_false] at haction
  constructor
  · rcases haction with rfl | rfl | rfl | rfl | rfl | rfl | rfl | rfl <;>
      simp [Operation.computedProviders, ComputedProvider.DefaultLookup]
  · rcases haction with rfl | rfl | rfl | rfl | rfl | rfl | rfl | rfl <;>
      simp [Operation.constantsProviders]

theorem computations_run_when_asked_sharedCounter :
    (∀ action ∈ sharedCounter, action.operation.DefaultLookups) ∧
    ((start (fun _ => .lenient) .none).run sharedCounter).calls.count 0 = 3 ∧
    ((start (fun _ => .lenient) .none).run sharedCounter).calls.count 1 = 0 ∧
    ∃ word : UInt64, word.toNat = 2 ∧
      (((start (fun _ => .lenient) .none).run sharedCounter).step ⟨true, .resolve "#c"⟩).2 =
        .resolved (.ok (.json (.num (.ofUInt64 word)))) := by
  obtain ⟨hcount, -, -, -, -, hcounter⟩ := computations_run_when_asked (fun _ => Grammar.lenient)
    .none sharedCounter defaultLookups_sharedCounter
  refine ⟨defaultLookups_sharedCounter, hcount 0, hcount 1, ?_⟩
  exact hcounter true "#c" "c" 0 0xFFFFFFFFFFFFFFFF rfl rfl

end SigilLookup.Fleet
