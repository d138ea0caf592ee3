import Mathlib.Logic.Function.Basic
import SigilLookup.Proofs.Session.Defaults

/-!
# Fleets

A fleet is any number of resolvers in use side by side. Each member has its own grammar and its own
stores, but copies of one computation may be registered with several members, and all of them share
one hidden state. So the fleet has one set of counts, which a question to any member moves on.

The history of a member is the list of operations done on it. Where no provider has a rule of its
own, this history tells what the member holds (`Fleet.Holds`).
-/

namespace SigilLookup

/-- Resolvers in use side by side, with the counts that they share. -/
structure Fleet (ι : Type) where
  resolvers : ι → Resolver
  calls : Calls

namespace Fleet

structure Action (ι : Type) where
  member : ι
  operation : Operation

variable {ι : Type}

def start (grammars : ι → Grammar) (calls : Calls) : Fleet ι :=
  { resolvers := fun member => .withGrammar (grammars member), calls }

def session (fleet : Fleet ι) (member : ι) : Session :=
  { resolver := fleet.resolvers member, calls := fleet.calls }

variable [DecidableEq ι]

/-- Does an operation on a member; the other members stay as they are. -/
def step (fleet : Fleet ι) (action : Action ι) : Fleet ι × Response :=
  let (session, response) := (fleet.session action.member).step action.operation
  ({ resolvers := Function.update fleet.resolvers action.member session.resolver
     calls := session.calls }, response)

def run (fleet : Fleet ι) (actions : List (Action ι)) : Fleet ι :=
  actions.foldl (fun fleet action => (fleet.step action).1) fleet

@[simp] theorem run_nil (fleet : Fleet ι) : fleet.run [] = fleet := rfl

@[simp] theorem run_cons (fleet : Fleet ι) (action : Action ι) (rest : List (Action ι)) :
    fleet.run (action :: rest) = (fleet.step action).1.run rest := rfl

theorem calls_step (fleet : Fleet ι) (action : Action ι) :
    (fleet.step action).1.calls =
      ((fleet.session action.member).step action.operation).1.calls := rfl

theorem resolvers_step_self (fleet : Fleet ι) (action : Action ι) :
    (fleet.step action).1.resolvers action.member =
      ((fleet.session action.member).step action.operation).1.resolver := by
  simp [step]

theorem resolvers_step_of_ne (fleet : Fleet ι) {action : Action ι} {member : ι}
    (hother : member ≠ action.member) :
    (fleet.step action).1.resolvers member = fleet.resolvers member := by
  simp [step, hother]

theorem resolvers_step_resolve (fleet : Fleet ι) (member : ι) (text : String) :
    (fleet.step ⟨member, .resolve text⟩).1.resolvers = fleet.resolvers := by
  funext other
  by_cases hother : other = member
  · subst hother
    exact resolvers_step_self fleet ⟨other, .resolve text⟩
  · exact resolvers_step_of_ne fleet hother

/-! ### Histories of members -/

def operationsOn (member : ι) (actions : List (Action ι)) : List Operation :=
  (actions.filter fun action => action.member = member).map Action.operation

/-- The computations that are registered with a member, in order. Calls that are refused hand
nothing over. -/
def computationsOf (member : ι) (actions : List (Action ι)) : List Computation :=
  ((operationsOn member actions).flatMap Operation.computedProviders).flatMap
    ComputedProvider.computed

theorem computationsOf_concat_self (actions : List (Action ι)) (action : Action ι) :
    computationsOf action.member (actions ++ [action]) =
      computationsOf action.member actions ++
        action.operation.computedProviders.flatMap ComputedProvider.computed := by
  simp [computationsOf, operationsOn]

theorem computationsOf_concat_of_ne (actions : List (Action ι)) {action : Action ι} {member : ι}
    (hother : member ≠ action.member) :
    computationsOf member (actions ++ [action]) = computationsOf member actions := by
  simp [computationsOf, operationsOn, Ne.symm hother]

/-- What the history tells of a fleet: each member has its grammar, no rule, and the computations that
were registered with it. -/
structure Holds (grammars : ι → Grammar) (actions : List (Action ι)) (fleet : Fleet ι) : Prop where
  grammar : ∀ member, (fleet.resolvers member).grammar = grammars member
  defaultLookups : ∀ member, (fleet.resolvers member).DefaultLookups
  computations : ∀ member,
    (fleet.resolvers member).computed.computations = computationsOf member actions

variable {grammars : ι → Grammar} {actions before : List (Action ι)} {fleet : Fleet ι}

theorem holds_start (grammars : ι → Grammar) (calls : Calls) :
    (start grammars calls).Holds grammars [] where
  grammar _ := rfl
  defaultLookups member := Session.defaultLookups_start (grammars member) calls
  computations _ := rfl

/-- The step lemma: the member that is used takes over what the operation hands over, and the others
are not touched. -/
theorem Holds.step (hholds : fleet.Holds grammars before) {action : Action ι}
    (haction : action.operation.DefaultLookups) :
    (fleet.step action).1.Holds grammars (before ++ [action]) := by
  constructor
  case grammar =>
    intro member
    by_cases hother : member = action.member
    · subst hother
      rw [resolvers_step_self, Session.grammar_step]
      exact hholds.grammar action.member
    · rw [resolvers_step_of_ne fleet hother]
      exact hholds.grammar member
  case defaultLookups =>
    intro member
    by_cases hother : member = action.member
    · subst hother
      rw [resolvers_step_self]
      exact Session.defaultLookups_step (hholds.defaultLookups action.member) haction
    · rw [resolvers_step_of_ne fleet hother]
      exact hholds.defaultLookups member
  case computations =>
    intro member
    by_cases hother : member = action.member
    · subst hother
      have hslot : ((fleet.session action.member).step action.operation).1.resolver.computed =
          Slot.take (fleet.resolvers action.member).computed
            action.operation.computedProviders :=
        ProviderFamily.slot_step (P := ComputedProvider) (fleet.session action.member)
          action.operation
      rw [resolvers_step_self, hslot, ComputedSlot.computations_take, hholds.computations,
        computationsOf_concat_self]
    · rw [resolvers_step_of_ne fleet hother, hholds.computations,
        computationsOf_concat_of_ne before hother]

/-- The run lemma. -/
theorem Holds.run (hholds : fleet.Holds grammars before)
    (hactions : ∀ action ∈ actions, action.operation.DefaultLookups) :
    (fleet.run actions).Holds grammars (before ++ actions) := by
  induction actions generalizing fleet before with
  | nil =>
      rw [List.append_nil]
      exact hholds
  | cons action rest ih =>
      obtain ⟨haction, hrest⟩ := List.forall_mem_cons.mp hactions
      rw [run_cons, ← List.singleton_append, ← List.append_assoc]
      exact ih (hholds.step haction) hrest

end Fleet

end SigilLookup
