import SigilLookup.Proofs.Registration.Slot
import SigilLookup.Proofs.Session.Run

/-!
# Histories of slots

What a run leaves in a slot depends on little of the run: on the providers that its registrations
hand over, in order. This module reads them off a run (`Session.registeredIn`), names the one that
the slot keeps (`Session.keeperIn?`), and proves the run lemma `ProviderFamily.slot_run_start`: the
slot holds the kept provider, and the kept provider holds what all of them held.

Both families of provider obey the same lemmas. What they rest on are the laws of `ProviderFamily`,
and the two instances at the end check these laws against what each operation does.
-/

namespace SigilLookup

namespace Operation

def registersComputed : Operation → Bool
  | .registerComputed _ => true
  | .registerComputedBatch _ => true
  | _ => false

/-- The computed providers that the operation hands over, in input order. -/
def computedProviders : Operation → List ComputedProvider
  | .registerComputed provider => [provider]
  | .registerComputedBatch providers => providers
  | _ => []

def registersConstants : Operation → Bool
  | .registerConstants _ => true
  | .registerConstantsBatch _ => true
  | _ => false

def constantsProviders : Operation → List ConstantsProvider
  | .registerConstants provider => [provider]
  | .registerConstantsBatch providers => providers
  | _ => []

end Operation

/-! ### Families of provider -/

/-- A family of provider in a session: its slot in the resolver, the operations that register its
providers, and what an operation does to the slot. -/
class ProviderFamily (P : Type) extends Registrable P where
  slot : Resolver → Option P
  put : Resolver → Option P → Resolver
  single : P → Operation
  batch : List P → Operation
  registers : Operation → Bool
  providers : Operation → List P
  slot_start : ∀ grammar calls, slot (Session.start grammar calls).resolver = none
  slot_put : ∀ resolver content, slot (put resolver content) = content
  put_slot : ∀ resolver, put resolver (slot resolver) = resolver
  put_put : ∀ resolver content other, put (put resolver content) other = put resolver other
  registers_single : ∀ provider, registers (single provider) = true
  providers_single : ∀ provider, providers (single provider) = [provider]
  registers_batch : ∀ members, registers (batch members) = true
  providers_batch : ∀ members, providers (batch members) = members
  providers_of_not_registers : ∀ operation, registers operation = false → providers operation = []
  slot_of_not_registers : ∀ (session : Session) operation, registers operation = false →
    slot (session.step operation).1.resolver = slot session.resolver
  resolver_of_registers : ∀ (session : Session) operation, registers operation = true →
    (session.step operation).1.resolver =
      put session.resolver (Slot.take (slot session.resolver) (providers operation))
  calls_of_registers : ∀ (session : Session) operation, registers operation = true →
    (session.step operation).1.calls = session.calls
  refused_iff : ∀ (session : Session) operation, registers operation = true →
    ((session.step operation).2.isRefused = true ↔
      slot session.resolver = none ∧ providers operation = [])

namespace Session

/-- The providers of a family that a run registers, in call order and, within a batch, in input
order. Only calls that succeed count. -/
def registeredIn (P : Type) [ProviderFamily P] (session : Session)
    (operations : List Operation) : List P :=
  (session.accepted operations).flatMap ProviderFamily.providers

/-- The provider that a run makes the kept one of a family: the argument of the first registration
that succeeds, and of a batch the last member. -/
def keeperIn? (P : Type) [ProviderFamily P] (session : Session)
    (operations : List Operation) : Option P :=
  ((session.accepted operations).find? (ProviderFamily.registers P)).bind fun operation =>
    (ProviderFamily.providers operation : List P).getLast?

end Session

namespace ProviderFamily

variable {P : Type} [ProviderFamily P]

/-- The step lemma of slots: an operation hands its providers over, and does nothing else. -/
theorem slot_step (session : Session) (operation : Operation) :
    (slot (session.step operation).1.resolver : Option P) =
      Slot.take (slot session.resolver) (providers operation) := by
  cases hregisters : registers P operation with
  | true => rw [resolver_of_registers session operation hregisters, slot_put]
  | false =>
      rw [slot_of_not_registers session operation hregisters,
        providers_of_not_registers operation hregisters, Slot.take_nil]

/-- The run lemma of slots: what a run leaves in a slot, the batches it hands over decide. -/
theorem slot_run (session : Session) (operations : List Operation) :
    (slot (session.run operations).resolver : Option P) =
      (operations.map providers).foldl Slot.take (slot session.resolver) := by
  induction operations generalizing session with
  | nil => rfl
  | cons operation rest ih =>
      rw [Session.run_cons, ih, slot_step, List.map_cons, List.foldl_cons]

/-- A kept provider stays, and takes over what an operation hands over. -/
theorem slot_step_of_some {session : Session} {kept : P}
    (hslot : slot session.resolver = some kept) (operation : Operation) :
    slot (session.step operation).1.resolver =
      some (Registrable.absorb kept (providers operation)) := by
  rw [slot_step, hslot]
  rfl

/-- A kept provider stays through every run, and takes over what the run hands over. -/
theorem slot_run_of_some {session : Session} {kept : P}
    (hslot : slot session.resolver = some kept) (operations : List Operation) :
    slot (session.run operations).resolver =
      some (Registrable.absorb kept (operations.flatMap providers)) := by
  rw [slot_run, hslot, Slot.foldl_take_some, List.flatMap_def]

theorem providers_of_isRefused {session : Session} {operation : Operation}
    (hrefused : (session.step operation).2.isRefused = true) :
    (providers operation : List P) = [] := by
  cases hregisters : registers P operation with
  | true => exact ((refused_iff session operation hregisters).mp hrefused).2
  | false => exact providers_of_not_registers operation hregisters

/-- A refused call hands nothing over, so it does not matter to a history. -/
theorem registeredIn_eq_flatMap (session : Session) (operations : List Operation) :
    session.registeredIn P operations = operations.flatMap providers := by
  induction operations generalizing session with
  | nil => rfl
  | cons operation rest ih =>
      have htail := ih (session.step operation).1
      simp only [Session.registeredIn] at htail ⊢
      -- a refused call is dropped on the left, and hands nothing over on the right
      cases hrefused : (session.step operation).2.isRefused with
      | true =>
          rw [Session.accepted_cons_of_refused hrefused, List.flatMap_cons,
            providers_of_isRefused hrefused, List.nil_append, ← htail,
            Session.step_of_isRefused hrefused]
      | false =>
          rw [Session.accepted_cons_of_not_refused hrefused, List.flatMap_cons,
            List.flatMap_cons, htail]

theorem registeredIn_append (session : Session) (operations later : List Operation) :
    session.registeredIn P (operations ++ later) =
      session.registeredIn P operations ++ later.flatMap providers := by
  rw [registeredIn_eq_flatMap, registeredIn_eq_flatMap, List.flatMap_append]

/-- A registration that an empty slot does not refuse hands something over. -/
theorem providers_ne_nil {session : Session} {operation : Operation}
    (hempty : (slot session.resolver : Option P) = none)
    (hregisters : registers P operation = true)
    (hdone : (session.step operation).2.isRefused = false) :
    (providers operation : List P) ≠ [] := by
  intro hnil
  have hrefused := (refused_iff session operation hregisters).mpr ⟨hempty, hnil⟩
  rw [hrefused] at hdone
  cases hdone

theorem keeperIn?_cons_of_refused {session : Session} {operation : Operation}
    (hrefused : (session.step operation).2.isRefused = true) (rest : List Operation) :
    session.keeperIn? P (operation :: rest) = session.keeperIn? P rest := by
  simp only [Session.keeperIn?, Session.accepted_cons_of_refused hrefused]

theorem keeperIn?_cons_of_registers {session : Session} {operation : Operation}
    (hdone : (session.step operation).2.isRefused = false)
    (hregisters : registers P operation = true) (rest : List Operation) :
    session.keeperIn? P (operation :: rest) =
      (providers operation : List P).getLast? := by
  simp [Session.keeperIn?, Session.accepted_cons_of_not_refused hdone, hregisters]

theorem keeperIn?_cons_of_not_registers {session : Session} {operation : Operation}
    (hdone : (session.step operation).2.isRefused = false)
    (hregisters : registers P operation = false) (rest : List Operation) :
    session.keeperIn? P (operation :: rest) =
      (session.step operation).1.keeperIn? P rest := by
  simp [Session.keeperIn?, Session.accepted_cons_of_not_refused hdone, hregisters]

/-- While the slot is empty, the first registration that succeeds is the first one that hands
anything over. -/
theorem keeperIn?_eq_findSome? {session : Session}
    (hempty : (slot session.resolver : Option P) = none) (operations : List Operation) :
    session.keeperIn? P operations =
      (operations.map (providers (P := P))).findSome? List.getLast? := by
  induction operations generalizing session with
  | nil => rfl
  | cons operation rest ih =>
      rw [List.map_cons, List.findSome?_cons]
      cases hrefused : (session.step operation).2.isRefused with
      | true =>
          rw [keeperIn?_cons_of_refused hrefused, providers_of_isRefused hrefused]
          exact ih hempty
      | false =>
          cases hregisters : registers P operation with
          | true =>
              -- an empty slot refuses what hands nothing over, so here is a last provider
              have hlast := List.getLast?_eq_some_getLast
                (providers_ne_nil hempty hregisters hrefused)
              rw [keeperIn?_cons_of_registers hrefused hregisters, hlast]
          | false =>
              rw [keeperIn?_cons_of_not_registers hrefused hregisters,
                providers_of_not_registers operation hregisters]
              exact ih ((slot_of_not_registers session operation hregisters).trans hempty)

theorem keeperIn?_isSome_iff {session : Session}
    (hempty : (slot session.resolver : Option P) = none) (operations : List Operation) :
    (session.keeperIn? P operations).isSome = true ↔
      ∃ operation ∈ session.accepted operations, registers P operation = true := by
  induction operations generalizing session with
  | nil => simp [Session.keeperIn?, Session.accepted]
  | cons operation rest ih =>
      cases hrefused : (session.step operation).2.isRefused with
      | true =>
          rw [keeperIn?_cons_of_refused hrefused, Session.accepted_cons_of_refused hrefused]
          exact ih hempty
      | false =>
          rw [Session.accepted_cons_of_not_refused hrefused]
          simp only [List.mem_cons, exists_eq_or_imp]
          cases hregisters : registers P operation with
          | true =>
              have hlast := List.getLast?_eq_some_getLast
                (providers_ne_nil hempty hregisters hrefused)
              simp [keeperIn?_cons_of_registers hrefused hregisters, hlast]
          | false =>
              rw [keeperIn?_cons_of_not_registers hrefused hregisters,
                ih ((slot_of_not_registers session operation hregisters).trans hempty)]
              simp

theorem exists_keeper {session : Session}
    (hempty : (slot session.resolver : Option P) = none) {operations : List Operation}
    (hregistered : ∃ operation ∈ session.accepted operations, registers P operation = true) :
    ∃ keeper, session.keeperIn? P operations = some keeper :=
  Option.isSome_iff_exists.mp ((keeperIn?_isSome_iff hempty operations).mpr hregistered)

theorem keeperIn?_eq_none_iff {session : Session}
    (hempty : (slot session.resolver : Option P) = none) (operations : List Operation) :
    session.keeperIn? P operations = none ↔
      ∀ operation ∈ operations, (providers operation : List P) = [] := by
  rw [keeperIn?_eq_findSome? hempty, List.findSome?_eq_none_iff, List.forall_mem_map]
  simp only [List.getLast?_eq_none_iff]

theorem exists_registers_iff {session : Session}
    (hempty : (slot session.resolver : Option P) = none) (operations : List Operation) :
    (∃ operation ∈ session.accepted operations, registers P operation = true) ↔
      ∃ operation ∈ operations, (providers operation : List P) ≠ [] := by
  rw [← keeperIn?_isSome_iff hempty, Option.isSome_iff_ne_none, ne_eq,
    keeperIn?_eq_none_iff hempty]
  simp only [not_forall, ne_eq, exists_prop]

theorem registeredIn_eq_nil {session : Session}
    (hempty : (slot session.resolver : Option P) = none) {operations : List Operation}
    (hnone : session.keeperIn? P operations = none) :
    session.registeredIn P operations = [] := by
  rw [registeredIn_eq_flatMap, List.flatMap_eq_nil_iff]
  exact (keeperIn?_eq_none_iff hempty operations).mp hnone

/-- What a run on a fresh resolver leaves in a slot: the kept provider, holding what all registered
providers held, in order, and nothing besides. -/
theorem slot_run_start (grammar : Grammar) (calls : Calls) (operations : List Operation) :
    slot ((Session.start grammar calls).run operations).resolver =
      ((Session.start grammar calls).keeperIn? P operations).map fun keeper =>
        Registrable.absorb (Registrable.emptied keeper)
          ((Session.start grammar calls).registeredIn P operations) := by
  have hempty : (slot (Session.start grammar calls).resolver : Option P) = none :=
    slot_start grammar calls
  rw [slot_run, hempty, Slot.foldl_take_none, keeperIn?_eq_findSome? hempty,
    registeredIn_eq_flatMap, List.flatMap_def]

theorem slot_run_start_eq_none_iff (grammar : Grammar) (calls : Calls)
    (operations : List Operation) :
    (slot ((Session.start grammar calls).run operations).resolver : Option P) = none ↔
      ∀ operation ∈ operations, (providers operation : List P) = [] := by
  rw [slot_run_start, Option.map_eq_none_iff]
  exact keeperIn?_eq_none_iff (slot_start grammar calls) operations

end ProviderFamily

/-! ### The two families -/

namespace Session

theorem step_registerComputed (session : Session) (provider : ComputedProvider) :
    (session.step (.registerComputed provider)).1.resolver =
      { session.resolver with
        computed := Slot.take session.resolver.computed [provider] } := by
  rw [← ComputedSlot.register_take]
  rfl

theorem step_registerComputedBatch (session : Session) (providers : List ComputedProvider) :
    (session.step (.registerComputedBatch providers)).1.resolver =
      { session.resolver with
        computed := Slot.take session.resolver.computed providers } := by
  simp only [step, Resolver.registerComputedBatch]
  cases hbatch : session.resolver.computed.registerBatch providers with
  | ok result =>
      rw [← ComputedSlot.registerBatch_take hbatch]
      rfl
  | error error =>
      obtain ⟨hempty, hnil, -⟩ := ComputedSlot.registerBatch_error_iff.mp hbatch
      rw [hnil, Slot.take_nil]
      rfl

theorem step_registerConstants (session : Session) (provider : ConstantsProvider) :
    (session.step (.registerConstants provider)).1.resolver =
      { session.resolver with
        constants := Slot.take session.resolver.constants [provider] } := by
  rw [← ConstantsSlot.register_take]
  rfl

theorem step_registerConstantsBatch (session : Session) (providers : List ConstantsProvider) :
    (session.step (.registerConstantsBatch providers)).1.resolver =
      { session.resolver with
        constants := Slot.take session.resolver.constants providers } := by
  simp only [step, Resolver.registerConstantsBatch]
  cases hbatch : session.resolver.constants.registerBatch providers with
  | ok result =>
      rw [← ConstantsSlot.registerBatch_take hbatch]
      rfl
  | error error =>
      obtain ⟨hempty, hnil, -⟩ := ConstantsSlot.registerBatch_error_iff.mp hbatch
      rw [hnil, Slot.take_nil]
      rfl

theorem isRefused_registerComputedBatch (session : Session)
    (providers : List ComputedProvider) :
    (session.step (.registerComputedBatch providers)).2.isRefused = true ↔
      session.resolver.computed = none ∧ providers = [] := by
  rw [step, isRefused_attempted]
  simp only [Resolver.registerComputedBatch, map_eq_error_iff,
    ComputedSlot.registerBatch_error_iff, exists_and_left, exists_eq, and_true]

theorem isRefused_registerConstantsBatch (session : Session)
    (providers : List ConstantsProvider) :
    (session.step (.registerConstantsBatch providers)).2.isRefused = true ↔
      session.resolver.constants = none ∧ providers = [] := by
  rw [step, isRefused_attempted]
  simp only [Resolver.registerConstantsBatch, map_eq_error_iff,
    ConstantsSlot.registerBatch_error_iff, exists_and_left, exists_eq, and_true]

theorem calls_attempted (session : Session) (result : Except EmptyBatch (Resolver × Event)) :
    (session.attempted result).1.calls = session.calls := by
  cases result <;> rfl

end Session

instance : ProviderFamily ComputedProvider where
  slot := Resolver.computed
  put resolver content := { resolver with computed := content }
  single := .registerComputed
  batch := .registerComputedBatch
  registers := Operation.registersComputed
  providers := Operation.computedProviders
  slot_start _ _ := rfl
  slot_put _ _ := rfl
  put_slot _ := rfl
  put_put _ _ _ := rfl
  registers_single _ := rfl
  providers_single _ := rfl
  registers_batch _ := rfl
  providers_batch _ := rfl
  providers_of_not_registers operation hregisters := by
    cases operation with
    | registerComputed provider => cases hregisters
    | registerComputedBatch providers => cases hregisters
    | _ => rfl
  slot_of_not_registers session operation hregisters := by
    cases operation with
    | registerComputed provider => cases hregisters
    | registerComputedBatch providers => cases hregisters
    | registerConstantsBatch providers => rw [Session.step_registerConstantsBatch]
    | _ => rfl
  resolver_of_registers session operation hregisters := by
    cases operation with
    | registerComputed provider => exact session.step_registerComputed provider
    | registerComputedBatch providers => exact session.step_registerComputedBatch providers
    | _ => cases hregisters
  calls_of_registers session operation hregisters := by
    cases operation with
    | registerComputed provider => rfl
    | registerComputedBatch providers => exact session.calls_attempted _
    | _ => cases hregisters
  refused_iff session operation hregisters := by
    cases operation with
    | registerComputed provider =>
        simp [Session.step, Session.registered, Response.isRefused, Operation.computedProviders]
    | registerComputedBatch providers =>
        exact session.isRefused_registerComputedBatch providers
    | _ => cases hregisters

instance : ProviderFamily ConstantsProvider where
  slot := Resolver.constants
  put resolver content := { resolver with constants := content }
  single := .registerConstants
  batch := .registerConstantsBatch
  registers := Operation.registersConstants
  providers := Operation.constantsProviders
  slot_start _ _ := rfl
  slot_put _ _ := rfl
  put_slot _ := rfl
  put_put _ _ _ := rfl
  registers_single _ := rfl
  providers_single _ := rfl
  registers_batch _ := rfl
  providers_batch _ := rfl
  providers_of_not_registers operation hregisters := by
    cases operation with
    | registerConstants provider => cases hregisters
    | registerConstantsBatch providers => cases hregisters
    | _ => rfl
  slot_of_not_registers session operation hregisters := by
    cases operation with
    | registerConstants provider => cases hregisters
    | registerConstantsBatch providers => cases hregisters
    | registerComputedBatch providers => rw [Session.step_registerComputedBatch]
    | _ => rfl
  resolver_of_registers session operation hregisters := by
    cases operation with
    | registerConstants provider => exact session.step_registerConstants provider
    | registerConstantsBatch providers => exact session.step_registerConstantsBatch providers
    | _ => cases hregisters
  calls_of_registers session operation hregisters := by
    cases operation with
    | registerConstants provider => rfl
    | registerConstantsBatch providers => exact session.calls_attempted _
    | _ => cases hregisters
  refused_iff session operation hregisters := by
    cases operation with
    | registerConstants provider =>
        simp [Session.step, Session.registered, Response.isRefused, Operation.constantsProviders]
    | registerConstantsBatch providers =>
        exact session.isRefused_registerConstantsBatch providers
    | _ => cases hregisters

/-! ### What a run registers -/

namespace Session

def computations (session : Session) (operations : List Operation) : List Computation :=
  (session.registeredIn ComputedProvider operations).flatMap ComputedProvider.computed

def constantMaps (session : Session) (operations : List Operation) : List ConstantMap :=
  (session.registeredIn ConstantsProvider operations).map ConstantsProvider.constants

def fileConstantMaps (session : Session) (operations : List Operation) : List ConstantMap :=
  (session.registeredIn ConstantsProvider operations).map ConstantsProvider.fileConstants

/-- After a run the kept computed provider holds all computations registered, in order. -/
theorem computed_run_start (grammar : Grammar) (calls : Calls) (operations : List Operation) :
    ((start grammar calls).run operations).resolver.computed =
      ((start grammar calls).keeperIn? ComputedProvider operations).map fun keeper =>
        keeper.replaceComputed ((start grammar calls).computations operations) := by
  have hslot := ProviderFamily.slot_run_start (P := ComputedProvider) grammar calls operations
  simp only [ComputedProvider.absorb_emptied] at hslot
  exact hslot

/-- After a run the kept constants provider holds the merge of all maps registered, in order. -/
theorem constants_run_start (grammar : Grammar) (calls : Calls) (operations : List Operation) :
    ((start grammar calls).run operations).resolver.constants =
      ((start grammar calls).keeperIn? ConstantsProvider operations).map fun keeper =>
        keeper.replaceMaps
          (OrderedMap.empty.merge ((start grammar calls).constantMaps operations))
          (OrderedMap.empty.merge ((start grammar calls).fileConstantMaps operations)) := by
  have hslot := ProviderFamily.slot_run_start (P := ConstantsProvider) grammar calls operations
  simp only [ConstantsProvider.absorb_emptied] at hslot
  exact hslot

end Session

end SigilLookup
