import SigilLookup.Event
import SigilLookup.Provider

/-!
# Registration

A slot holds at most one provider. Registering into an empty slot puts the provider there; into an
occupied slot, it merges what the newcomer holds into the provider that is there, which goes on
answering in its own way. A batch leaves the slot with the same contents as registering its members
in turn, but into an empty slot it is the last member that stays.

Every registration that succeeds comes with the one event that tells of it.
-/

namespace SigilLookup

/-- The refusal of an empty batch for an empty slot: nothing could take the slot. -/
structure EmptyBatch where
  kind : ProviderKind
deriving DecidableEq

def EmptyBatch.message (error : EmptyBatch) : String :=
  "cannot register an empty batch of " ++ error.kind.label ++
    " providers: none is registered yet"

/-! ### Computed providers -/

namespace ComputedProvider

def absorb (provider : ComputedProvider) (others : List ComputedProvider) : ComputedProvider :=
  provider.replaceComputed
    (Computation.merge provider.computed (others.map ComputedProvider.computed))

end ComputedProvider

abbrev ComputedSlot := Option ComputedProvider

namespace ComputedSlot

def register (slot : ComputedSlot) (provider : ComputedProvider) : ComputedProvider × Event :=
  match slot with
  | some existing =>
    let merged := existing.absorb [provider]
    (merged, .mergedComputed provider.computed.length merged.computed.length)
  | none => (provider, .registeredComputed provider.computed.length)

def registerBatch (slot : ComputedSlot) (providers : List ComputedProvider) :
    Except EmptyBatch (ComputedProvider × Event) :=
  match slot with
  | some existing =>
    let merged := existing.absorb providers
    .ok (merged, .mergedComputedBatch providers.length merged.computed.length)
  | none =>
    match providers.getLast? with
    | none => .error ⟨.computed⟩
    | some last =>
      let merged := last.replaceComputed
        (Computation.merge [] (providers.map ComputedProvider.computed))
      .ok (merged, .registeredComputedBatch providers.length merged.computed.length)

end ComputedSlot

/-! ### Constants providers -/

namespace ConstantsProvider

def replaceMaps (provider : ConstantsProvider) (constants fileConstants : ConstantMap) :
    ConstantsProvider :=
  (provider.replaceConstants constants).replaceFileConstants fileConstants

/-- Merges both maps of other providers, in order, into the two given. -/
def foldMaps (constants fileConstants : ConstantMap) (sources : List ConstantsProvider) :
    ConstantMap × ConstantMap :=
  (constants.merge (sources.map ConstantsProvider.constants),
    fileConstants.merge (sources.map ConstantsProvider.fileConstants))

/-- The provider with both maps replaced, and the event that tells of it. -/
def withMerged (provider : ConstantsProvider) (maps : ConstantMap × ConstantMap) :
    ConstantsProvider × Event :=
  (provider.replaceMaps maps.1 maps.2, .mergedConstants maps.1.size maps.2.size)

end ConstantsProvider

abbrev ConstantsSlot := Option ConstantsProvider

namespace ConstantsSlot

def register (slot : ConstantsSlot) (provider : ConstantsProvider) : ConstantsProvider × Event :=
  match slot with
  | some existing =>
    existing.withMerged
      (ConstantsProvider.foldMaps existing.constants existing.fileConstants [provider])
  | none =>
    (provider, .registeredConstants provider.constants.size provider.fileConstants.size)

def registerBatch (slot : ConstantsSlot) (providers : List ConstantsProvider) :
    Except EmptyBatch (ConstantsProvider × Event) :=
  match slot with
  | some existing =>
    .ok (existing.withMerged
      (ConstantsProvider.foldMaps existing.constants existing.fileConstants providers))
  | none =>
    match providers.getLast? with
    | none => .error ⟨.constants⟩
    | some last => .ok (last.withMerged (ConstantsProvider.foldMaps .empty .empty providers))

end ConstantsSlot

end SigilLookup
