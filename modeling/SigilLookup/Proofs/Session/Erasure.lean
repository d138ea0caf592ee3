import SigilLookup.Proofs.Resolver.Lookup
import SigilLookup.Proofs.Session.Run

/-!
# Erasure of rules

A provider that is merged into another hands over what it holds and nothing else. So wherever a run
hands over a provider that the slot does not keep, the rule of that provider can be erased, and
nothing in the run changes: not one response, and not the log either.
-/

namespace SigilLookup

/-- The provider that holds the same and answers from what it holds. -/
def ComputedProvider.withoutRule (provider : ComputedProvider) : ComputedProvider :=
  { computed := provider.computed }

def ConstantsProvider.withoutRules (provider : ConstantsProvider) : ConstantsProvider :=
  { constants := provider.constants, fileConstants := provider.fileConstants }

@[simp] theorem ComputedProvider.computed_withoutRule (provider : ComputedProvider) :
    provider.withoutRule.computed = provider.computed := rfl

@[simp] theorem ConstantsProvider.constants_withoutRules (provider : ConstantsProvider) :
    provider.withoutRules.constants = provider.constants := rfl

@[simp] theorem ConstantsProvider.fileConstants_withoutRules (provider : ConstantsProvider) :
    provider.withoutRules.fileConstants = provider.fileConstants := rfl

namespace Slot

variable {P Q : Type}

/-- The batch with the rules of all its members erased, but for the member that the slot keeps: the
last one if the slot is empty. -/
def eraseRules (withoutRule : P → P) (slot : Option P) (batch : List P) : List P :=
  match slot with
  | some _ => batch.map withoutRule
  | none => batch.dropLast.map withoutRule ++ batch.getLast?.toList

theorem map_eraseRules {withoutRule : P → P} {content : P → Q}
    (hcontent : ∀ provider, content (withoutRule provider) = content provider)
    (slot : Option P) (batch : List P) :
    (eraseRules withoutRule slot batch).map content = batch.map content := by
  have hcomp : content ∘ withoutRule = content := funext hcontent
  cases slot with
  | some kept => rw [eraseRules, List.map_map, hcomp]
  | none =>
      rcases List.eq_nil_or_concat batch with rfl | ⟨init, last, rfl⟩
      · rfl
      · simp [eraseRules, hcomp]

theorem length_eraseRules (withoutRule : P → P) (slot : Option P) (batch : List P) :
    (eraseRules withoutRule slot batch).length = batch.length := by
  cases slot with
  | some kept => simp [eraseRules]
  | none =>
      rcases List.eq_nil_or_concat batch with rfl | ⟨init, last, rfl⟩
      · rfl
      · simp [eraseRules]

theorem getLast?_eraseRules_none (withoutRule : P → P) (batch : List P) :
    (eraseRules withoutRule none batch).getLast? = batch.getLast? := by
  rcases List.eq_nil_or_concat batch with rfl | ⟨init, last, rfl⟩
  · rfl
  · simp [eraseRules]

end Slot

/-! ### Slots do not see what is erased -/

theorem ComputedSlot.register_withoutRule {slot : ComputedSlot} (hslot : slot.isSome = true)
    (provider : ComputedProvider) :
    slot.register provider.withoutRule = slot.register provider := by
  obtain ⟨kept, rfl⟩ := Option.isSome_iff_exists.mp hslot
  rfl

theorem ComputedSlot.registerBatch_eraseRules (slot : ComputedSlot)
    (providers : List ComputedProvider) :
    slot.registerBatch (Slot.eraseRules ComputedProvider.withoutRule slot providers) =
      slot.registerBatch providers := by
  have hcomputed : (Slot.eraseRules ComputedProvider.withoutRule slot providers).map
      ComputedProvider.computed = providers.map ComputedProvider.computed :=
    Slot.map_eraseRules ComputedProvider.computed_withoutRule slot providers
  have hlength := Slot.length_eraseRules ComputedProvider.withoutRule slot providers
  cases slot with
  | some kept => simp only [registerBatch, ComputedProvider.absorb, hcomputed, hlength]
  | none =>
      simp only [registerBatch, Slot.getLast?_eraseRules_none, hcomputed, hlength]

theorem ConstantsSlot.register_withoutRules {slot : ConstantsSlot} (hslot : slot.isSome = true)
    (provider : ConstantsProvider) :
    slot.register provider.withoutRules = slot.register provider := by
  obtain ⟨kept, rfl⟩ := Option.isSome_iff_exists.mp hslot
  rfl

theorem ConstantsSlot.registerBatch_eraseRules (slot : ConstantsSlot)
    (providers : List ConstantsProvider) :
    slot.registerBatch (Slot.eraseRules ConstantsProvider.withoutRules slot providers) =
      slot.registerBatch providers := by
  have hconstants : (Slot.eraseRules ConstantsProvider.withoutRules slot providers).map
      ConstantsProvider.constants = providers.map ConstantsProvider.constants :=
    Slot.map_eraseRules ConstantsProvider.constants_withoutRules slot providers
  have hfileConstants : (Slot.eraseRules ConstantsProvider.withoutRules slot providers).map
      ConstantsProvider.fileConstants = providers.map ConstantsProvider.fileConstants :=
    Slot.map_eraseRules ConstantsProvider.fileConstants_withoutRules slot providers
  cases slot with
  | some kept =>
      simp only [registerBatch, ConstantsProvider.foldMaps, hconstants, hfileConstants]
  | none =>
      simp only [registerBatch, Slot.getLast?_eraseRules_none, ConstantsProvider.foldMaps,
        hconstants, hfileConstants]

/-! ### Runs do not see what is erased -/

namespace Session

/-- The operation with the rules of all providers erased that the session would merge into a kept
provider. -/
def eraseRules (session : Session) : Operation → Operation
  | .registerComputed provider =>
    .registerComputed
      (if session.resolver.computed.isSome then provider.withoutRule else provider)
  | .registerComputedBatch providers =>
    .registerComputedBatch
      (Slot.eraseRules ComputedProvider.withoutRule session.resolver.computed providers)
  | .registerConstants provider =>
    .registerConstants
      (if session.resolver.constants.isSome then provider.withoutRules else provider)
  | .registerConstantsBatch providers =>
    .registerConstantsBatch
      (Slot.eraseRules ConstantsProvider.withoutRules session.resolver.constants providers)
  | operation => operation

/-- The run with all rules erased but those of the providers that come to be kept. -/
def eraseAllRules (session : Session) : List Operation → List Operation
  | [] => []
  | operation :: rest =>
    session.eraseRules operation :: (session.step operation).1.eraseAllRules rest

/-- One operation with its rules erased leaves the same session and gives the same response. -/
theorem step_eraseRules (session : Session) (operation : Operation) :
    session.step (session.eraseRules operation) = session.step operation := by
  cases operation with
  | registerComputed provider =>
      cases hslot : session.resolver.computed.isSome with
      | true =>
          simp only [eraseRules, hslot, if_true, step, Resolver.registerComputed,
            ComputedSlot.register_withoutRule hslot]
      | false => simp [eraseRules, hslot]
  | registerComputedBatch providers =>
      simp only [eraseRules, step, Resolver.registerComputedBatch,
        ComputedSlot.registerBatch_eraseRules]
  | registerConstants provider =>
      cases hslot : session.resolver.constants.isSome with
      | true =>
          simp only [eraseRules, hslot, if_true, step, Resolver.registerConstants,
            ConstantsSlot.register_withoutRules hslot]
      | false => simp [eraseRules, hslot]
  | registerConstantsBatch providers =>
      simp only [eraseRules, step, Resolver.registerConstantsBatch,
        ConstantsSlot.registerBatch_eraseRules]
  | _ => rfl

/-- A run with its rules erased leaves the same session. -/
theorem run_eraseAllRules (session : Session) (operations : List Operation) :
    session.run (session.eraseAllRules operations) = session.run operations := by
  induction operations generalizing session with
  | nil => rfl
  | cons operation rest ih => rw [eraseAllRules, run_cons, step_eraseRules, ih, run_cons]

end Session

end SigilLookup
