import SigilLookup.Proofs.Session.History

/-!
# Sessions without rules

Where no provider has a rule of its own, a resolver answers from what it holds. Runs that register
only such providers stay among such resolvers (`Session.defaultLookups_run`), and on them a lookup
has one effect at most: a key classified as computed asks the first computation of its name, and no
other key asks anything (`Resolver.calls_resolve`).
-/

namespace SigilLookup

/-- All providers that the operation hands over answer from what they hold. -/
structure Operation.DefaultLookups (operation : Operation) : Prop where
  computed : ∀ provider ∈ operation.computedProviders, provider.DefaultLookup
  constants : ∀ provider ∈ operation.constantsProviders, provider.DefaultLookups

/-- The kept providers answer from what they hold. -/
structure Resolver.DefaultLookups (resolver : Resolver) : Prop where
  computed : ∀ provider ∈ resolver.computed, provider.DefaultLookup
  constants : ∀ provider ∈ resolver.constants, provider.DefaultLookups

/-! ### What the slots keep -/

/-- What is true of the kept provider and of all that a batch brings is true of the provider kept
afterwards, if neither emptying a provider nor what it takes over can change it. -/
theorem Slot.forall_take {P : Type} [Registrable P] {Fine : P → Prop}
    (hemptied : ∀ provider, Fine provider → Fine (Registrable.emptied provider))
    (habsorb : ∀ provider others, Fine provider → Fine (Registrable.absorb provider others))
    {slot : Option P} {batch : List P} (hslot : ∀ provider ∈ slot, Fine provider)
    (hbatch : ∀ provider ∈ batch, Fine provider) :
    ∀ provider ∈ Slot.take slot batch, Fine provider := by
  intro provider hprovider
  cases slot with
  | some kept =>
      simp only [Slot.take, Option.mem_some] at hprovider
      subst hprovider
      exact habsorb kept batch (hslot kept rfl)
  | none =>
      simp only [Slot.take, Option.mem_def, Option.map_eq_some_iff] at hprovider
      obtain ⟨last, hlast, rfl⟩ := hprovider
      apply habsorb
      apply hemptied
      exact hbatch last (List.mem_of_getLast? hlast)

theorem ConstantsSlot.defaultLookups_take {slot : ConstantsSlot} {batch : List ConstantsProvider}
    (hslot : ∀ provider ∈ slot, provider.DefaultLookups)
    (hbatch : ∀ provider ∈ batch, provider.DefaultLookups) :
    ∀ provider ∈ Slot.take slot batch, provider.DefaultLookups := by
  apply Slot.forall_take _ _ hslot hbatch
  · intro provider hprovider
    exact ⟨hprovider.constants, hprovider.fileConstants⟩
  · intro provider others hprovider
    exact ⟨hprovider.constants, hprovider.fileConstants⟩

namespace Session

variable {session : Session} {operation : Operation} {operations : List Operation}

/-- The step lemma: an operation that brings no rule leaves no rule in the slots. -/
theorem defaultLookups_step (hdefault : session.resolver.DefaultLookups)
    (hoperation : operation.DefaultLookups) :
    (session.step operation).1.resolver.DefaultLookups := by
  constructor
  case computed =>
    have hslot : (session.step operation).1.resolver.computed =
        Slot.take session.resolver.computed operation.computedProviders :=
      ProviderFamily.slot_step (P := ComputedProvider) session operation
    rw [hslot]
    apply Slot.forall_take
    · intro provider hprovider
      exact hprovider
    · intro provider others hprovider
      exact hprovider
    · exact hdefault.computed
    · exact hoperation.computed
  case constants =>
    have hslot : (session.step operation).1.resolver.constants =
        Slot.take session.resolver.constants operation.constantsProviders :=
      ProviderFamily.slot_step (P := ConstantsProvider) session operation
    rw [hslot]
    exact ConstantsSlot.defaultLookups_take hdefault.constants hoperation.constants

/-- The run lemma: no rule comes in, so no rule is ever kept. -/
theorem defaultLookups_run (hdefault : session.resolver.DefaultLookups)
    (hoperations : ∀ operation ∈ operations, operation.DefaultLookups) :
    (session.run operations).resolver.DefaultLookups := by
  induction operations generalizing session with
  | nil => exact hdefault
  | cons operation rest ih =>
      obtain ⟨hoperation, hrest⟩ := List.forall_mem_cons.mp hoperations
      exact ih (defaultLookups_step hdefault hoperation) hrest

theorem defaultLookups_start (grammar : Grammar) (calls : Calls) :
    (start grammar calls).resolver.DefaultLookups := by
  constructor
  · intro provider hprovider
    cases hprovider
  · intro provider hprovider
    cases hprovider

theorem calls_step_of_not_resolve (hlookup : ∀ text, operation ≠ .resolve text) :
    (session.step operation).1.calls = session.calls := by
  cases operation with
  | resolve text => exact absurd rfl (hlookup text)
  | registerComputedBatch providers => exact session.calls_attempted _
  | registerConstantsBatch providers => exact session.calls_attempted _
  | _ => rfl

end Session

/-! ### What a lookup asks -/

/-- The name that a text asks the computed provider for, if the grammar classifies it so. -/
def Grammar.computedName? (grammar : Grammar) (text : String) : Option String :=
  match grammar.parse text with
  | .ok ⟨.computed, name⟩ => some name
  | _ => none

theorem Grammar.computedName?_eq_some_iff {grammar : Grammar} {text name : String} :
    grammar.computedName? text = some name ↔ grammar.parse text = .ok ⟨.computed, name⟩ := by
  unfold computedName?
  split
  case h_1 parsed hparse =>
    rw [hparse]
    simp
  case h_2 hother =>
    constructor
    · intro hsome
      cases hsome
    · intro hparse
      exact absurd hparse (hother name)

def ComputedSlot.computations : ComputedSlot → List Computation
  | some provider => provider.computed
  | none => []

/-- A batch adds its computations at the end, whoever is kept. -/
theorem ComputedSlot.computations_take (slot : ComputedSlot) (batch : List ComputedProvider) :
    computations (Slot.take slot batch) =
      slot.computations ++ batch.flatMap ComputedProvider.computed := by
  cases slot with
  | some kept =>
      rw [Slot.take, ComputedProvider.absorb_eq]
      rfl
  | none =>
      cases hlast : batch.getLast? with
      | none =>
          rw [List.getLast?_eq_none_iff.mp hlast]
          rfl
      | some last =>
          simp only [Slot.take, hlast, Option.map_some, ComputedProvider.absorb_emptied]
          rfl

namespace Resolver

variable {resolver : Resolver} {text name : String}

/-- Asking for a computed name asks the first computation of this name, if there is one. -/
theorem calls_resolve_of_computed (hdefault : resolver.DefaultLookups)
    (hparse : resolver.grammar.parse text = .ok ⟨.computed, name⟩) (calls : Calls) :
    (resolver.resolve calls text).calls =
      (Computation.askFirst name resolver.computed.computations calls).2 := by
  cases hslot : resolver.computed with
  | some provider =>
      rw [resolve_computed_of_default hparse hslot (hdefault.computed provider hslot)]
      rfl
  | none =>
      -- without a provider nothing is registered, and nothing is asked
      simp only [resolve, hparse, lookup, hslot]
      rfl

/-- A constant is read off a map, which asks nothing. -/
theorem calls_lookup_of_not_computed (hdefault : resolver.DefaultLookups) {key : Key}
    (hkind : key.kind ≠ .computed) (calls : Calls) :
    (resolver.lookup calls key).2 = calls := by
  obtain ⟨kind, name⟩ := key
  cases kind with
  | computed => exact absurd rfl hkind
  | literal => rfl
  | runtime =>
      simp only [lookup]
      cases resolver.runtime.get? name <;> rfl
  | constant =>
      simp only [lookup]
      cases hslot : resolver.constants with
      | none => rfl
      | some provider =>
          simp only
          rw [ConstantsProvider.askConstant_of_default
            (hdefault.constants provider hslot).constants]
  | fileConstant =>
      simp only [lookup]
      cases hslot : resolver.constants with
      | none => rfl
      | some provider =>
          simp only
          rw [ConstantsProvider.askFileConstant_of_default
            (hdefault.constants provider hslot).fileConstants]

/-- A lookup asks the first computation of the name that the text asks for, and nothing else. -/
theorem calls_resolve (hdefault : resolver.DefaultLookups) (calls : Calls) (text : String) :
    (resolver.resolve calls text).calls =
      (resolver.grammar.computedName? text).elim calls fun name =>
        (Computation.askFirst name resolver.computed.computations calls).2 := by
  cases hname : resolver.grammar.computedName? text with
  | some name =>
      have hparse := Grammar.computedName?_eq_some_iff.mp hname
      exact calls_resolve_of_computed hdefault hparse calls
  | none =>
      simp only [Option.elim_none, resolve]
      cases hparse : resolver.grammar.parse text with
      | error error => rfl
      | ok key =>
          apply calls_lookup_of_not_computed hdefault
          intro hkind
          have hcomputed : resolver.grammar.parse text = .ok ⟨.computed, key.name⟩ := by
            rw [hparse, ← hkind]
          rw [Grammar.computedName?_eq_some_iff.mpr hcomputed] at hname
          cases hname

end Resolver

end SigilLookup
