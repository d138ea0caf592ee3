import SigilLookup.Proofs.Session.Agreement
import SigilLookup.Proofs.Session.History

/-!
# Batches and single registrations

A batch merges from nothing into its last provider, whereas registering its members in turn merges
them into the provider that is there, or into the first of them. Both ways lead to the same place.
On an occupied slot this holds of all providers; on an empty slot the two ways keep different
providers, so there it holds of providers that answer from what they hold.
-/

namespace SigilLookup

namespace ProviderFamily

variable {P : Type} [ProviderFamily P]

theorem resolver_run_singles (session : Session) (members : List P) :
    (session.run (members.map single)).resolver =
      put session.resolver
        ((members.map fun member => [member]).foldl Slot.take (slot session.resolver)) := by
  induction members generalizing session with
  | nil => exact (put_slot session.resolver).symm
  | cons member rest ih =>
      have hfirst : (session.step (single member)).1.resolver =
          put session.resolver (Slot.take (slot session.resolver) [member]) := by
        rw [resolver_of_registers session _ (registers_single member), providers_single]
      rw [List.map_cons, Session.run_cons, ih, hfirst, put_put, slot_put, List.map_cons,
        List.foldl_cons]

theorem calls_run_singles (session : Session) (members : List P) :
    (session.run (members.map single)).calls = session.calls := by
  induction members generalizing session with
  | nil => rfl
  | cons member rest ih =>
      rw [List.map_cons, Session.run_cons, ih]
      exact calls_of_registers session _ (registers_single member)

/-- A batch and its members in turn leave the same resolver and the same counts. -/
theorem sameState_batch_singles (session : Session) {members : List P}
    (hslot : (members.map fun member => [member]).foldl Slot.take (slot session.resolver) =
      Slot.take (slot session.resolver) members) :
    (session.step (batch members)).1.SameState (session.run (members.map single)) where
  resolver := by
    rw [resolver_of_registers session _ (registers_batch members), providers_batch,
      resolver_run_singles, hslot]
  calls := by
    rw [calls_of_registers session _ (registers_batch members), calls_run_singles]

/-- The slot cannot tell a batch from its members in turn if it is occupied, or if the members
differ in nothing but what they hold. -/
theorem foldl_take_singletons {content : Option P} {members : List P}
    (hcase : content.isSome = true ∨ ∃ plain : P, ∀ member ∈ members,
      Registrable.emptied member = plain) :
    (members.map fun member => [member]).foldl Slot.take content =
      Slot.take content members := by
  cases content with
  | some kept => exact Slot.foldl_take_singletons_some kept members
  | none =>
      rcases hcase with hoccupied | ⟨plain, hplain⟩
      · cases hoccupied
      · exact Slot.foldl_take_singletons_none hplain

/-- A batch is done unless it is empty and finds an empty slot. -/
theorem isRefused_batch_eq_false {session : Session} {members : List P}
    (hcase : members ≠ [] ∨ (slot session.resolver : Option P).isSome = true) :
    (session.step (batch members)).2.isRefused = false := by
  cases hrefused : (session.step (batch members)).2.isRefused with
  | false => rfl
  | true =>
      obtain ⟨hempty, hnil⟩ :=
        (refused_iff session _ (registers_batch members)).mp hrefused
      rw [providers_batch] at hnil
      rcases hcase with hsome | hslot
      · exact absurd hnil hsome
      · simp [hempty] at hslot

/-- A non-empty batch is done, and is indistinguishable from its members in turn. -/
theorem batch_indistinguishable (session : Session) {members : List P}
    (hsome : members ≠ [])
    (hcase : (slot session.resolver : Option P).isSome = true ∨
      ∃ plain : P, ∀ member ∈ members, Registrable.emptied member = plain) :
    (session.step (batch members)).2.isRefused = false ∧
      (session.step (batch members)).1.Indistinguishable (session.run (members.map single)) :=
  ⟨isRefused_batch_eq_false (.inl hsome),
    (sameState_batch_singles session (foldl_take_singletons hcase)).indistinguishable⟩

/-- An empty batch on an occupied slot is done, and nobody can tell. -/
theorem empty_batch_indistinguishable {session : Session}
    (hslot : (slot session.resolver : Option P).isSome = true) :
    (session.step (batch ([] : List P))).2.isRefused = false ∧
      (session.step (batch ([] : List P))).1.Indistinguishable session :=
  ⟨isRefused_batch_eq_false (.inr hslot),
    (sameState_batch_singles session (foldl_take_singletons (.inl hslot))).indistinguishable⟩

end ProviderFamily

/-- Providers that answer from what they hold differ in nothing else. -/
theorem ComputedProvider.exists_emptied_of_default {providers : List ComputedProvider}
    (hdefault : ∀ provider ∈ providers, provider.DefaultLookup) :
    ∃ plain, ∀ provider ∈ providers, Registrable.emptied provider = plain :=
  ⟨{}, fun provider hmem => emptied_of_defaultLookup (hdefault provider hmem)⟩

theorem ConstantsProvider.exists_emptied_of_default {providers : List ConstantsProvider}
    (hdefault : ∀ provider ∈ providers, provider.DefaultLookups) :
    ∃ plain, ∀ provider ∈ providers, Registrable.emptied provider = plain :=
  ⟨{}, fun provider hmem => emptied_of_defaultLookups (hdefault provider hmem)⟩

/-! ### Indistinguishability -/

/-- Whatever a resolver holds, registering a non-empty batch succeeds and cannot be told from
registering its members in turn, now or after any common run: on an occupied slot for providers of
any kind, on an empty slot for providers that answer from what they hold. An empty batch does
nothing to an occupied slot and is refused by an empty one. -/
theorem registerBatch_indistinguishable (session : Session) :
    (∀ members : List ComputedProvider, members ≠ [] →
      (session.resolver.computed.isSome = true ∨ ∀ member ∈ members, member.DefaultLookup) →
        (session.step (.registerComputedBatch members)).2.isRefused = false ∧
          (session.step (.registerComputedBatch members)).1.Indistinguishable
            (session.run (members.map .registerComputed))) ∧
    (∀ members : List ConstantsProvider, members ≠ [] →
      (session.resolver.constants.isSome = true ∨ ∀ member ∈ members, member.DefaultLookups) →
        (session.step (.registerConstantsBatch members)).2.isRefused = false ∧
          (session.step (.registerConstantsBatch members)).1.Indistinguishable
            (session.run (members.map .registerConstants))) ∧
    (session.resolver.computed.isSome = true →
      (session.step (.registerComputedBatch [])).2.isRefused = false ∧
        (session.step (.registerComputedBatch [])).1.Indistinguishable session) ∧
    (session.resolver.constants.isSome = true →
      (session.step (.registerConstantsBatch [])).2.isRefused = false ∧
        (session.step (.registerConstantsBatch [])).1.Indistinguishable session) ∧
    (session.resolver.computed = none →
      session.step (.registerComputedBatch []) = (session, .refused ⟨.computed⟩)) ∧
    (session.resolver.constants = none →
      session.step (.registerConstantsBatch []) = (session, .refused ⟨.constants⟩)) := by
  refine ⟨?_, ?_, ?_, ?_, ?_, ?_⟩
  · intro members hsome hcase
    exact ProviderFamily.batch_indistinguishable session hsome
      (hcase.imp_right ComputedProvider.exists_emptied_of_default)
  · intro members hsome hcase
    exact ProviderFamily.batch_indistinguishable session hsome
      (hcase.imp_right ConstantsProvider.exists_emptied_of_default)
  · intro hslot
    exact ProviderFamily.empty_batch_indistinguishable (P := ComputedProvider) hslot
  · intro hslot
    exact ProviderFamily.empty_batch_indistinguishable (P := ConstantsProvider) hslot
  · intro hempty
    simp [Session.step, Resolver.registerComputedBatch, hempty, ComputedSlot.registerBatch,
      Except.map, Session.attempted]
  · intro hempty
    simp [Session.step, Resolver.registerConstantsBatch, hempty, ConstantsSlot.registerBatch,
      Except.map, Session.attempted]

/-- A batch with a member that has a rule of its own, on an occupied slot, and a batch of two maps
with a name in common, on an empty slot. -/
theorem registerBatch_indistinguishable_of_two :
    (((Session.start .lenient .none).step (.registerComputed {})).1.step
        (.registerComputedBatch [{ ownRule := some fun name => .ok (.string name) },
          { computed := [.always "a" 0 (.string "value")] }])).1.Indistinguishable
      (((Session.start .lenient .none).step (.registerComputed {})).1.run
        [.registerComputed { ownRule := some fun name => .ok (.string name) },
          .registerComputed { computed := [.always "a" 0 (.string "value")] }]) ∧
    ((Session.start .lenient .none).step
        (.registerConstantsBatch
          [{ constants := OrderedMap.empty.insert "a" (.string "first") },
            { constants := OrderedMap.empty.insert "a" (.string "second") }])).1.Indistinguishable
      ((Session.start .lenient .none).run
        [.registerConstants { constants := OrderedMap.empty.insert "a" (.string "first") },
          .registerConstants { constants := OrderedMap.empty.insert "a" (.string "second") }]) := by
  obtain ⟨hcomputed, -⟩ := registerBatch_indistinguishable
    ((Session.start .lenient .none).step (.registerComputed {})).1
  obtain ⟨-, hconstants, -⟩ := registerBatch_indistinguishable (Session.start .lenient .none)
  constructor
  · exact (hcomputed _ (by simp) (.inl rfl)).2
  · refine (hconstants [_, _] (by simp) (.inr ?_)).2
    intro member hmem
    simp only [List.mem_cons, List.not_mem_nil, or_false] at hmem
    rcases hmem with rfl | rfl
    · exact ⟨rfl, rfl⟩
    · exact ⟨rfl, rfl⟩

end SigilLookup
