import SigilLookup.Proofs.OrderedMap.Merge
import SigilLookup.Proofs.Resolver.Lookup

/-!
# Slots

The slot for computed providers and the slot for constants providers obey one law, which this module
states once for both. A registration hands a batch of providers to the slot; a single provider is a
batch of one. An occupied slot keeps its provider, which takes over what the batch holds. An empty
slot keeps the *last* provider of the batch, emptied first, so that what it holds of its own comes
in at its place in the batch and not before it.

From one batch to many there are two cases only, whatever the batches are: the kept provider stays
and takes over all of them in order (`foldl_take_some`), or it is the last one of the first batch
that is not empty (`foldl_take_none`).
-/

namespace SigilLookup

/-- What the two families of provider have in common: a provider can be emptied, and it can take
over, in order, what other providers hold. How it answers is its own and is not taken over. -/
class Registrable (P : Type) where
  emptied : P → P
  absorb : P → List P → P
  absorb_nil : ∀ provider, absorb provider [] = provider
  absorb_append : ∀ provider others more,
    absorb provider (others ++ more) = absorb (absorb provider others) more
  emptied_absorb_self : ∀ provider, absorb (emptied provider) [provider] = provider

namespace Slot

open Registrable

variable {P : Type} [Registrable P]

def take (slot : Option P) (batch : List P) : Option P :=
  match slot with
  | some kept => some (absorb kept batch)
  | none => batch.getLast?.map fun last => absorb (emptied last) batch

@[simp] theorem take_nil (slot : Option P) : take slot [] = slot := by
  cases slot with
  | none => rfl
  | some kept => exact congrArg some (absorb_nil kept)

/-- A provider that comes alone takes an empty slot as it is. -/
@[simp] theorem take_none_singleton (provider : P) :
    take none [provider] = some provider :=
  congrArg some (emptied_absorb_self provider)

/-! ### Many batches -/

/-- A kept provider stays, and takes over every batch in order. -/
theorem foldl_take_some (kept : P) (batches : List (List P)) :
    batches.foldl take (some kept) = some (absorb kept batches.flatten) := by
  induction batches generalizing kept with
  | nil => exact congrArg some (absorb_nil kept).symm
  | cons batch rest ih =>
      rw [List.foldl_cons, List.flatten_cons, absorb_append]
      exact ih (absorb kept batch)

/-- Into an empty slot goes the last provider of the first batch that has one. -/
theorem foldl_take_none (batches : List (List P)) :
    batches.foldl take none =
      (batches.findSome? List.getLast?).map fun keeper =>
        absorb (emptied keeper) batches.flatten := by
  induction batches with
  | nil => rfl
  | cons batch rest ih =>
      rw [List.foldl_cons, List.flatten_cons, List.findSome?_cons]
      cases hlast : batch.getLast? with
      | none =>
          rw [List.getLast?_eq_none_iff.mp hlast, take_nil, ih, List.nil_append]
      | some last =>
          -- from here on the slot is occupied, and the induction hypothesis is not needed
          have htake : take none batch = some (absorb (emptied last) batch) := by
            simp [take, hlast]
          rw [htake, foldl_take_some, Option.map_some, absorb_append]

/-! ### One batch against its members in turn -/

/-- An occupied slot cannot tell a batch from its members in turn. -/
theorem foldl_take_singletons_some (kept : P) (providers : List P) :
    (providers.map fun provider => [provider]).foldl take (some kept) =
      take (some kept) providers := by
  rw [foldl_take_some, ← List.flatMap_def, List.flatMap_singleton']
  rfl

/-- An empty slot keeps the first of the members in turn and the last of the batch, so it cannot
tell them apart if all members come to the same when emptied. -/
theorem foldl_take_singletons_none {plain : P} {providers : List P}
    (hplain : ∀ provider ∈ providers, emptied provider = plain) :
    (providers.map fun provider => [provider]).foldl take none = take none providers := by
  rw [foldl_take_none, ← List.flatMap_def, List.flatMap_singleton']
  cases providers with
  | nil => rfl
  | cons first rest =>
      have hlast := List.getLast?_eq_some_getLast (List.cons_ne_nil first rest)
      have hfirstPlain := hplain first (by simp)
      have hlastPlain := hplain _ (List.getLast_mem (List.cons_ne_nil first rest))
      simp only [take, hlast, List.map_cons, List.findSome?_cons, List.getLast?_singleton,
        Option.map_some, hfirstPlain, hlastPlain]

end Slot

/-! ### Computed providers -/

theorem Computation.merge_eq_append (base : List Computation)
    (additions : List (List Computation)) :
    Computation.merge base additions = base ++ additions.flatten := by
  induction additions generalizing base with
  | nil => simp [Computation.merge]
  | cons addition rest ih =>
      have hstep : Computation.merge base (addition :: rest) =
          Computation.merge (base ++ addition) rest := rfl
      rw [hstep, ih, List.flatten_cons, List.append_assoc]

instance : Registrable ComputedProvider where
  emptied provider := provider.replaceComputed []
  absorb := ComputedProvider.absorb
  absorb_nil _ := rfl
  absorb_append provider others more := by
    simp [ComputedProvider.absorb, ComputedProvider.replaceComputed, Computation.merge_eq_append]
  emptied_absorb_self _ := rfl

namespace ComputedProvider

theorem absorb_eq (provider : ComputedProvider) (others : List ComputedProvider) :
    Registrable.absorb provider others =
      provider.replaceComputed
        (provider.computed ++ others.flatMap ComputedProvider.computed) := by
  change provider.absorb others = _
  rw [absorb, Computation.merge_eq_append, List.flatMap_def]

/-- Emptied first, a provider holds exactly what it takes over. -/
theorem absorb_emptied (keeper : ComputedProvider) (providers : List ComputedProvider) :
    Registrable.absorb (Registrable.emptied keeper) providers =
      keeper.replaceComputed (providers.flatMap ComputedProvider.computed) := by
  rw [absorb_eq]
  rfl

theorem emptied_of_defaultLookup {provider : ComputedProvider}
    (hdefault : provider.DefaultLookup) : Registrable.emptied provider = ({} : ComputedProvider) := by
  cases provider
  cases hdefault
  rfl

end ComputedProvider

namespace ComputedSlot

theorem register_take (slot : ComputedSlot) (provider : ComputedProvider) :
    some (slot.register provider).1 = Slot.take slot [provider] := by
  cases slot with
  | none => rfl
  | some kept => rfl

theorem registerBatch_take {slot : ComputedSlot} {providers : List ComputedProvider}
    {result : ComputedProvider × Event} (hok : slot.registerBatch providers = .ok result) :
    some result.1 = Slot.take slot providers := by
  cases slot with
  | some kept =>
      cases hok
      rfl
  | none =>
      cases hlast : providers.getLast? with
      | none => simp [registerBatch, hlast] at hok
      | some last =>
          simp only [registerBatch, hlast, Except.ok.injEq] at hok
          subst hok
          simp only [Slot.take, hlast, Option.map_some]
          rfl

/-- Only an empty batch is refused, and only by an empty slot. -/
theorem registerBatch_error_iff {slot : ComputedSlot} {providers : List ComputedProvider}
    {error : EmptyBatch} :
    slot.registerBatch providers = .error error ↔
      slot = none ∧ providers = [] ∧ error = ⟨.computed⟩ := by
  cases slot with
  | some kept => simp [registerBatch]
  | none =>
      cases hlast : providers.getLast? with
      | none =>
          simp [registerBatch, List.getLast?_eq_none_iff.mp hlast, eq_comm]
      | some last =>
          have hne : providers ≠ [] := by
            intro hnil
            simp [hnil] at hlast
          simp [registerBatch, hlast, hne]

end ComputedSlot

/-! ### Constants providers -/

namespace ConstantsProvider

/-- The provider with both maps of other providers, in order, merged into its own. -/
def absorb (provider : ConstantsProvider) (others : List ConstantsProvider) : ConstantsProvider :=
  (provider.withMerged (foldMaps provider.constants provider.fileConstants others)).1

theorem absorb_def (provider : ConstantsProvider) (others : List ConstantsProvider) :
    provider.absorb others =
      provider.replaceMaps (provider.constants.merge (others.map ConstantsProvider.constants))
        (provider.fileConstants.merge (others.map ConstantsProvider.fileConstants)) := rfl

end ConstantsProvider

instance : Registrable ConstantsProvider where
  emptied provider := provider.replaceMaps .empty .empty
  absorb := ConstantsProvider.absorb
  absorb_nil _ := rfl
  absorb_append provider others more := by
    simp [ConstantsProvider.absorb_def, ConstantsProvider.replaceMaps,
      ConstantsProvider.replaceConstants, ConstantsProvider.replaceFileConstants,
      OrderedMap.merge_append]
  emptied_absorb_self provider := by
    simp [ConstantsProvider.absorb_def, ConstantsProvider.replaceMaps,
      ConstantsProvider.replaceConstants, ConstantsProvider.replaceFileConstants]

namespace ConstantsProvider

theorem constants_emptied (provider : ConstantsProvider) :
    (Registrable.emptied provider).constants = .empty := rfl

theorem fileConstants_emptied (provider : ConstantsProvider) :
    (Registrable.emptied provider).fileConstants = .empty := rfl

theorem constants_absorb (provider : ConstantsProvider) (others : List ConstantsProvider) :
    (Registrable.absorb provider others).constants =
      provider.constants.merge (others.map ConstantsProvider.constants) := rfl

theorem fileConstants_absorb (provider : ConstantsProvider) (others : List ConstantsProvider) :
    (Registrable.absorb provider others).fileConstants =
      provider.fileConstants.merge (others.map ConstantsProvider.fileConstants) := rfl

theorem absorb_emptied (keeper : ConstantsProvider) (providers : List ConstantsProvider) :
    Registrable.absorb (Registrable.emptied keeper) providers =
      keeper.replaceMaps (OrderedMap.empty.merge (providers.map ConstantsProvider.constants))
        (OrderedMap.empty.merge (providers.map ConstantsProvider.fileConstants)) := rfl

theorem emptied_of_defaultLookups {provider : ConstantsProvider}
    (hdefault : provider.DefaultLookups) :
    Registrable.emptied provider = ({} : ConstantsProvider) := by
  cases provider
  cases hdefault.constants
  cases hdefault.fileConstants
  rfl

end ConstantsProvider

namespace ConstantsSlot

theorem register_take (slot : ConstantsSlot) (provider : ConstantsProvider) :
    some (slot.register provider).1 = Slot.take slot [provider] := by
  cases slot with
  | none => exact (Slot.take_none_singleton provider).symm
  | some kept => rfl

theorem registerBatch_take {slot : ConstantsSlot} {providers : List ConstantsProvider}
    {result : ConstantsProvider × Event} (hok : slot.registerBatch providers = .ok result) :
    some result.1 = Slot.take slot providers := by
  cases slot with
  | some kept =>
      cases hok
      rfl
  | none =>
      cases hlast : providers.getLast? with
      | none => simp [registerBatch, hlast] at hok
      | some last =>
          simp only [registerBatch, hlast, Except.ok.injEq] at hok
          subst hok
          simp only [Slot.take, hlast, Option.map_some]
          rfl

theorem registerBatch_error_iff {slot : ConstantsSlot} {providers : List ConstantsProvider}
    {error : EmptyBatch} :
    slot.registerBatch providers = .error error ↔
      slot = none ∧ providers = [] ∧ error = ⟨.constants⟩ := by
  cases slot with
  | some kept => simp [registerBatch]
  | none =>
      cases hlast : providers.getLast? with
      | none =>
          simp [registerBatch, List.getLast?_eq_none_iff.mp hlast, eq_comm]
      | some last =>
          have hne : providers ≠ [] := by
            intro hnil
            simp [hnil] at hlast
          simp [registerBatch, hlast, hne]

end ConstantsSlot

end SigilLookup
