import SigilLookup.Proofs.Key.Classification
import SigilLookup.Proofs.Session.History

/-!
# The log as an account

The log tells exactly what happened: each operation that takes effect leaves one event, which tells
of this operation, and nothing else leaves any (`Session.step_log`).

The counts that registrations leave in the log are taken at different places, from the newcomer,
from the provider that stays or from the merged maps. They agree with what is registered all the
same (`Event.Fits`): the last count in the log is the number of names that can be listed. A step
proves this of its own event, and because only the last count matters, it holds of every run
(`Session.accounts_run`).
-/

namespace SigilLookup

/-! ### Counts -/

def Event.computedTotal? : Event → Option Nat
  | .registeredComputed computations => some computations
  | .mergedComputed _ total => some total
  | .registeredComputedBatch _ total => some total
  | .mergedComputedBatch _ total => some total
  | _ => none

def Event.constantsTotals? : Event → Option (Nat × Nat)
  | .registeredConstants constants fileConstants => some (constants, fileConstants)
  | .mergedConstants constants fileConstants => some (constants, fileConstants)
  | _ => none

namespace Resolver

/-- The number of computations that can be listed, once a provider is registered. -/
def computedTotal? (resolver : Resolver) : Option Nat :=
  if resolver.hasComputed then some resolver.computedNames.length else none

/-- The numbers of constants and of file constants that can be listed, once a provider is
registered. -/
def constantsTotals? (resolver : Resolver) : Option (Nat × Nat) :=
  if resolver.hasConstants then
    some (resolver.constantNames.length, resolver.fileConstantNames.length)
  else none

theorem computedTotal?_of_some {resolver : Resolver} {provider : ComputedProvider}
    (hslot : resolver.computed = some provider) :
    resolver.computedTotal? = some provider.computed.length := by
  simp [computedTotal?, hasComputed, computedNames, hslot, ComputedProvider.names]

theorem constantsTotals?_of_some {resolver : Resolver} {provider : ConstantsProvider}
    (hslot : resolver.constants = some provider) :
    resolver.constantsTotals? = some (provider.constants.size, provider.fileConstants.size) := by
  simp [constantsTotals?, hasConstants, constantNames, fileConstantNames, hslot, OrderedMap.names,
    Entries.names, OrderedMap.size]

end Resolver

/-- The counts of an event, against what is registered before and after it. An event without a count
belongs to a step that leaves the number as it was. -/
structure Event.Fits (before after : Resolver) (event : Event) : Prop where
  computed : event.computedTotal?.or before.computedTotal? = after.computedTotal?
  constants : event.constantsTotals?.or before.constantsTotals? = after.constantsTotals?
  added : ∀ added total, event = .mergedComputed added total →
    ∃ previous, before.computedTotal? = some previous ∧ previous + added = total

/-! ### What tells of what -/

def Operation.IsToldBy : Operation → Event → Prop
  | .setValue key _, .settingRuntimeValue told => told = key
  | .resolve text, .resolvingKey kind name => (Key.mk kind name).Classifies text
  | .registerComputed provider, .registeredComputed computations =>
    computations = provider.computed.length
  | .registerComputed provider, .mergedComputed added _ => added = provider.computed.length
  | .registerComputedBatch providers, .registeredComputedBatch told _ => told = providers.length
  | .registerComputedBatch providers, .mergedComputedBatch told _ => told = providers.length
  | .registerConstants provider, .registeredConstants constants fileConstants =>
    constants = provider.constants.size ∧ fileConstants = provider.fileConstants.size
  | .registerConstants _, .mergedConstants _ _ => True
  | .registerConstantsBatch _, .mergedConstants _ _ => True
  | _, _ => False

/-- Tells whether an operation that is not refused takes effect: a lookup does if the grammar takes
the key, and what only looks at the resolver does not. -/
def Operation.takesEffect (grammar : Grammar) : Operation → Bool
  | .resolve text => (grammar.parse text).isOk
  | .value _ => false
  | .overview => false
  | .grammar => false
  | _ => true

namespace Session

/-- Tells whether the operation takes effect: it is not refused, and it does more than look. -/
def isEffective (session : Session) (operation : Operation) : Bool :=
  operation.takesEffect session.resolver.grammar && !(session.step operation).2.isRefused

def effective (session : Session) : List Operation → List Operation
  | [] => []
  | operation :: rest =>
    if session.isEffective operation then operation :: (session.step operation).1.effective rest
    else (session.step operation).1.effective rest

end Session

/-! ### One registration -/

/-- What a registration of computed providers leaves in the slot, against its event. -/
structure ComputedSlot.Counts (slot : ComputedSlot) (result : ComputedProvider × Event) : Prop where
  total : result.2.computedTotal? = some result.1.computed.length
  constants : result.2.constantsTotals? = none
  added : ∀ added total, result.2 = .mergedComputed added total →
    ∃ kept, slot = some kept ∧ kept.computed.length + added = total

/-- What a registration of constants providers leaves in the slot, against its event. -/
structure ConstantsSlot.Counts (result : ConstantsProvider × Event) : Prop where
  totals : result.2.constantsTotals? =
    some (result.1.constants.size, result.1.fileConstants.size)
  computed : result.2.computedTotal? = none

namespace ComputedSlot

theorem counts_register (slot : ComputedSlot) (provider : ComputedProvider) :
    slot.Counts (slot.register provider) ∧
      (Operation.registerComputed provider).IsToldBy (slot.register provider).2 := by
  cases slot with
  | none =>
      refine ⟨⟨rfl, rfl, ?_⟩, rfl⟩
      intro added total hevent
      cases hevent
  | some kept =>
      refine ⟨⟨rfl, rfl, ?_⟩, rfl⟩
      intro added total hevent
      cases hevent
      refine ⟨kept, rfl, ?_⟩
      simp [ComputedProvider.absorb, ComputedProvider.replaceComputed, Computation.merge_eq_append]

theorem counts_registerBatch {slot : ComputedSlot} {providers : List ComputedProvider}
    {result : ComputedProvider × Event} (hok : slot.registerBatch providers = .ok result) :
    slot.Counts result ∧ (Operation.registerComputedBatch providers).IsToldBy result.2 := by
  cases slot with
  | some kept =>
      cases hok
      refine ⟨⟨rfl, rfl, ?_⟩, rfl⟩
      intro added total hevent
      cases hevent
  | none =>
      rw [registerBatch] at hok
      split at hok
      · cases hok
      · cases hok
        refine ⟨⟨rfl, rfl, ?_⟩, rfl⟩
        intro added total hevent
        cases hevent

theorem Counts.fits {resolver : Resolver} {result : ComputedProvider × Event}
    (hcounts : resolver.computed.Counts result) :
    Event.Fits resolver { resolver with computed := some result.1 } result.2 := by
  constructor
  case computed =>
    rw [hcounts.total, Option.some_or, eq_comm]
    exact Resolver.computedTotal?_of_some rfl
  case constants =>
    rw [hcounts.constants, Option.none_or]
    rfl
  case added =>
    intro added total hevent
    obtain ⟨kept, hslot, htotal⟩ := hcounts.added added total hevent
    exact ⟨_, Resolver.computedTotal?_of_some hslot, htotal⟩

end ComputedSlot

namespace ConstantsSlot

theorem counts_register (slot : ConstantsSlot) (provider : ConstantsProvider) :
    Counts (slot.register provider) ∧
      (Operation.registerConstants provider).IsToldBy (slot.register provider).2 := by
  cases slot with
  | none => exact ⟨⟨rfl, rfl⟩, rfl, rfl⟩
  | some kept => exact ⟨⟨rfl, rfl⟩, trivial⟩

theorem counts_registerBatch {slot : ConstantsSlot} {providers : List ConstantsProvider}
    {result : ConstantsProvider × Event} (hok : slot.registerBatch providers = .ok result) :
    Counts result ∧ (Operation.registerConstantsBatch providers).IsToldBy result.2 := by
  cases slot with
  | some kept =>
      cases hok
      exact ⟨⟨rfl, rfl⟩, trivial⟩
  | none =>
      rw [registerBatch] at hok
      split at hok
      · cases hok
      · cases hok
        exact ⟨⟨rfl, rfl⟩, trivial⟩

theorem Counts.fits {resolver : Resolver} {result : ConstantsProvider × Event}
    (hcounts : Counts result) :
    Event.Fits resolver { resolver with constants := some result.1 } result.2 := by
  constructor
  case computed =>
    rw [hcounts.computed, Option.none_or]
    rfl
  case constants =>
    rw [hcounts.totals, Option.some_or, eq_comm]
    exact Resolver.constantsTotals?_of_some rfl
  case added =>
    intro added total hevent
    have hcomputed := hcounts.computed
    rw [hevent] at hcomputed
    cases hcomputed

end ConstantsSlot

/-! ### Steps -/

/-- An event without counts, of a step that leaves the slots as they were. -/
theorem Event.fits_of_uncounted {before after : Resolver} {event : Event}
    (hcomputed : event.computedTotal? = none) (hconstants : event.constantsTotals? = none)
    (hslot : after.computed = before.computed) (hother : after.constants = before.constants) :
    event.Fits before after := by
  constructor
  case computed =>
    rw [hcomputed, Option.none_or, Resolver.computedTotal?, Resolver.computedTotal?,
      Resolver.hasComputed, Resolver.hasComputed, Resolver.computedNames, Resolver.computedNames,
      hslot]
  case constants =>
    rw [hconstants, Option.none_or, Resolver.constantsTotals?, Resolver.constantsTotals?,
      Resolver.hasConstants, Resolver.hasConstants, Resolver.constantNames, Resolver.constantNames,
      Resolver.fileConstantNames, Resolver.fileConstantNames, hother]
  case added =>
    intro added total hevent
    rw [hevent] at hcomputed
    cases hcomputed

namespace Session

/-- The operation leaves one event, which tells of it and fits. -/
def Logs (session : Session) (operation : Operation) : Prop :=
  ∃ event, (session.step operation).1.log = session.log ++ [event] ∧ operation.IsToldBy event ∧
    event.Fits session.resolver (session.step operation).1.resolver

/-- The operation leaves the log and the resolver as they were. -/
def Keeps (session : Session) (operation : Operation) : Prop :=
  (session.step operation).1.log = session.log ∧
    (session.step operation).1.resolver = session.resolver

/-- The step lemma: an operation that takes effect leaves one event, and any other leaves none. -/
theorem step_log (session : Session) (operation : Operation) :
    session.isEffective operation = true ∧ session.Logs operation ∨
      session.isEffective operation = false ∧ session.Keeps operation := by
  cases operation with
  | setValue key value =>
      exact .inl ⟨rfl, .settingRuntimeValue key, rfl, rfl, Event.fits_of_uncounted rfl rfl rfl rfl⟩
  | value key | overview | grammar => exact .inr ⟨rfl, rfl, rfl⟩
  | resolve text =>
      have heffective : session.isEffective (.resolve text) =
          (session.resolver.grammar.parse text).isOk := Bool.and_true _
      rw [heffective]
      cases hparse : session.resolver.grammar.parse text with
      | error error =>
          refine .inr ⟨rfl, ?_, rfl⟩
          simp [step, Resolver.resolve, hparse]
      | ok key =>
          refine .inl ⟨rfl, .resolvingKey key.kind key.name, ?_, ?_, ?_⟩
          · simp [step, Resolver.resolve, hparse]
          · exact (Grammar.parse_eq_ok_iff.mp hparse).1
          · exact Event.fits_of_uncounted rfl rfl rfl rfl
  | registerComputed provider =>
      obtain ⟨hcounts, htold⟩ := ComputedSlot.counts_register session.resolver.computed provider
      exact .inl ⟨rfl, _, rfl, htold, hcounts.fits⟩
  | registerConstants provider =>
      obtain ⟨hcounts, htold⟩ := ConstantsSlot.counts_register session.resolver.constants provider
      exact .inl ⟨rfl, _, rfl, htold, hcounts.fits⟩
  | registerComputedBatch providers =>
      rw [isEffective, Logs, Keeps, step, Resolver.registerComputedBatch]
      cases hbatch : session.resolver.computed.registerBatch providers with
      | error error => exact .inr ⟨rfl, rfl, rfl⟩
      | ok result =>
          obtain ⟨hcounts, htold⟩ := ComputedSlot.counts_registerBatch hbatch
          exact .inl ⟨rfl, result.2, rfl, htold, hcounts.fits⟩
  | registerConstantsBatch providers =>
      rw [isEffective, Logs, Keeps, step, Resolver.registerConstantsBatch]
      cases hbatch : session.resolver.constants.registerBatch providers with
      | error error => exact .inr ⟨rfl, rfl, rfl⟩
      | ok result =>
          obtain ⟨hcounts, htold⟩ := ConstantsSlot.counts_registerBatch hbatch
          exact .inl ⟨rfl, result.2, rfl, htold, hcounts.fits⟩

/-! ### Runs -/

structure Accounts (session : Session) : Prop where
  computed : (session.log.filterMap Event.computedTotal?).getLast? =
    session.resolver.computedTotal?
  constants : (session.log.filterMap Event.constantsTotals?).getLast? =
    session.resolver.constantsTotals?
  added : ∀ before added total later, session.log = before ++ .mergedComputed added total :: later →
    ∃ previous, (before.filterMap Event.computedTotal?).getLast? = some previous ∧
      previous + added = total

theorem accounts_start (grammar : Grammar) (calls : Calls) : (start grammar calls).Accounts := by
  refine ⟨rfl, rfl, ?_⟩
  intro before added total later hlog
  simp [start] at hlog

theorem getLast?_filterMap_concat {α β : Type} (f : α → Option β) (front : List α) (last : α) :
    ((front ++ [last]).filterMap f).getLast? = (f last).or (front.filterMap f).getLast? := by
  cases hlast : f last <;> simp [List.filterMap_append, hlast]

theorem accounts_step {session : Session} (haccounts : session.Accounts) (operation : Operation) :
    (session.step operation).1.Accounts := by
  rcases session.step_log operation with ⟨-, event, hlog, -, hfits⟩ | ⟨-, hlog, hresolver⟩
  · constructor
    case computed =>
      rw [hlog, getLast?_filterMap_concat, haccounts.computed, hfits.computed]
    case constants =>
      rw [hlog, getLast?_filterMap_concat, haccounts.constants, hfits.constants]
    case added =>
      intro before added total later hsplit
      rw [hlog] at hsplit
      -- the event is the new one, or it stood in the log before
      rcases List.eq_nil_or_concat later with rfl | ⟨front, last, rfl⟩
      · obtain ⟨rfl, hevent⟩ := List.append_inj' hsplit rfl
        obtain ⟨previous, hprevious, htotal⟩ := hfits.added added total (List.singleton_inj.mp hevent)
        exact ⟨previous, haccounts.computed.trans hprevious, htotal⟩
      · have hfront : session.log = before ++ .mergedComputed added total :: front := by
          have hconcat : session.log ++ [event] =
              (before ++ .mergedComputed added total :: front) ++ [last] := by
            simpa using hsplit
          exact (List.append_inj' hconcat rfl).1
        exact haccounts.added before added total front hfront
  · constructor
    · rw [hlog, hresolver, haccounts.computed]
    · rw [hlog, hresolver, haccounts.constants]
    · rw [hlog]
      exact haccounts.added

theorem accounts_run {session : Session} (haccounts : session.Accounts)
    (operations : List Operation) : (session.run operations).Accounts := by
  induction operations generalizing session with
  | nil => exact haccounts
  | cons operation rest ih => exact ih (accounts_step haccounts operation)

/-- The run lemma: the events are those of the operations that take effect, in order. -/
theorem forall₂_log_run (session : Session) (operations : List Operation) :
    ∃ events, (session.run operations).log = session.log ++ events ∧
      List.Forall₂ Operation.IsToldBy (session.effective operations) events := by
  induction operations generalizing session with
  | nil => exact ⟨[], (List.append_nil _).symm, .nil⟩
  | cons operation rest ih =>
      obtain ⟨events, hrest, htold⟩ := ih (session.step operation).1
      rw [effective, run_cons, hrest]
      rcases session.step_log operation with ⟨heffective, event, hlog, hfirst, -⟩ | ⟨hnot, hlog, -⟩
      · rw [if_pos heffective, hlog, List.append_assoc]
        exact ⟨event :: events, rfl, .cons hfirst htold⟩
      · rw [hnot, hlog]
        exact ⟨events, rfl, htold⟩

end Session

/-- The log of a run on a fresh resolver is an exact account of it. It has one event for each
operation that takes effect, in order, and whatever is done next leaves one event more if it takes
effect, and none otherwise: an operation that only looks, a lookup of a key that the grammar refuses,
and a refused batch leave none. The last count of computations is that of the names that can be
listed, so are the last counts of constants, and what a single provider adds to the last count
before gives the next one. -/
theorem log_accounts_for_run (grammar : Grammar) (calls : Calls) (operations : List Operation) :
    let after := (Session.start grammar calls).run operations
    List.Forall₂ Operation.IsToldBy ((Session.start grammar calls).effective operations) after.log ∧
    (∀ operation,
      (after.isEffective operation = true →
        ∃ event, (after.step operation).1.log = after.log ++ [event] ∧
          operation.IsToldBy event) ∧
      (after.isEffective operation = false → (after.step operation).1.log = after.log)) ∧
    ((after.log.filterMap Event.computedTotal?).getLast? =
      if after.resolver.hasComputed then some after.resolver.computedNames.length else none) ∧
    (∀ before added total later, after.log = before ++ .mergedComputed added total :: later →
      ∃ previous, (before.filterMap Event.computedTotal?).getLast? = some previous ∧
        previous + added = total) ∧
    ((after.log.filterMap Event.constantsTotals?).getLast? =
      if after.resolver.hasConstants then
        some (after.resolver.constantNames.length, after.resolver.fileConstantNames.length)
      else none) := by
  intro after
  have haccounts : after.Accounts :=
    Session.accounts_run (Session.accounts_start grammar calls) operations
  refine ⟨?_, ?_, haccounts.computed, haccounts.added, haccounts.constants⟩
  · obtain ⟨events, hlog, htold⟩ :=
      (Session.start grammar calls).forall₂_log_run operations
    have hevents : after.log = events := hlog
    rw [hevents]
    exact htold
  · intro operation
    rcases after.step_log operation with ⟨heffective, event, hlog, htold, -⟩ | ⟨hnot, hlog, -⟩
    · refine ⟨fun _ => ⟨event, hlog, htold⟩, fun hfalse => ?_⟩
      rw [heffective] at hfalse
      cases hfalse
    · refine ⟨fun htrue => ?_, fun _ => hlog⟩
      rw [hnot] at htrue
      cases htrue

/-- A refused batch, two registrations of computed providers, and a lookup that the strict grammar
refuses. -/
def Operation.mergingTwice : List Operation :=
  [.registerConstantsBatch [],
    .registerComputed { computed := [.always "a" 0 .null] },
    .resolve "$!a",
    .registerComputed { computed := [.always "b" 1 .null, .always "a" 2 .null] }]

theorem log_accounts_for_run_mergingTwice :
    let after := (Session.start .strict .none).run Operation.mergingTwice
    after.log = [.registeredComputed 1, .mergedComputed 2 3] ∧
    List.Forall₂ Operation.IsToldBy
      [.registerComputed { computed := [.always "a" 0 .null] },
        .registerComputed { computed := [.always "b" 1 .null, .always "a" 2 .null] }]
      after.log ∧
    (∃ previous, ([Event.registeredComputed 1].filterMap Event.computedTotal?).getLast? =
      some previous ∧ previous + 2 = 3) ∧
    (∃ event, (after.step (.resolve "#a")).1.log = after.log ++ [event] ∧
      (Operation.resolve "#a").IsToldBy event) ∧
    (after.step (.resolve "$!a")).1.log = after.log ∧
    (after.log.filterMap Event.constantsTotals?).getLast? = none := by
  intro after
  obtain ⟨htold, hnext, -, hadded, hconstants⟩ :=
    log_accounts_for_run .strict .none Operation.mergingTwice
  have hlog : after.log = [.registeredComputed 1, .mergedComputed 2 3] := rfl
  refine ⟨hlog, htold, ?_, ?_, ?_, hconstants⟩
  · exact hadded [.registeredComputed 1] 2 3 [] hlog
  · exact (hnext (.resolve "#a")).1 rfl
  · exact (hnext (.resolve "$!a")).2 rfl

end SigilLookup
