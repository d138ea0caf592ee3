import SigilLookup.Resolver.Basic

/-!
# Lookups

What resolving a key comes to, store by store: one lemma for each store that has providers, which
later modules cite in place of unfolding the resolver. The answers of providers that answer from
what they hold are given names here, so that laws about whole runs can state them without naming a
provider.
-/

namespace SigilLookup

/-- What resolving a key leaves when a provider has replied. -/
def Resolution.ofReply (key : Key) (reply : Answer × Calls) : Resolution :=
  { answer := reply.1.mapError .provider
    calls := reply.2
    events := [.resolvingKey key.kind key.name] }

def Computation.askFirst (name : String) (computations : List Computation) (calls : Calls) :
    Answer × Calls :=
  match computations.find? fun computation => computation.name = name with
  | some computation => computation.evaluate calls
  | none => (.error (.unknownComputed name), calls)

/-- The answer that a value found for a name gives; where none was found, the failure. -/
def Answer.ofFound (failure : ProviderError) : Option Value → Answer
  | some value => .ok value
  | none => .error failure

/-! ### Providers that answer from what they hold -/

/-- The provider has no rule of its own. -/
def ComputedProvider.DefaultLookup (provider : ComputedProvider) : Prop := provider.ownRule = none

/-- The provider has no rule of its own, neither for constants nor for file constants. -/
structure ConstantsProvider.DefaultLookups (provider : ConstantsProvider) : Prop where
  constants : provider.ownRule = none
  fileConstants : provider.ownFileRule = none

theorem ComputedProvider.get_of_default {provider : ComputedProvider}
    (hdefault : provider.DefaultLookup) (calls : Calls) (name : String) :
    provider.get calls name = Computation.askFirst name provider.computed calls := by
  have hrule : provider.ownRule = none := hdefault
  rw [get, hrule]
  rfl

theorem ConstantsProvider.askConstant_of_default {provider : ConstantsProvider}
    (hdefault : provider.ownRule = none) (calls : Calls) (name : String) :
    provider.askConstant calls name =
      (Answer.ofFound (.unknownConstant name) (provider.constants.get? name), calls) := by
  simp only [askConstant, hdefault]
  cases provider.constants.get? name <;> rfl

theorem ConstantsProvider.askFileConstant_of_default {provider : ConstantsProvider}
    (hdefault : provider.ownFileRule = none) (calls : Calls) (name : String) :
    provider.askFileConstant calls name =
      (Answer.ofFound (.unknownFileConstant name) (provider.fileConstants.get? name), calls) := by
  simp only [askFileConstant, hdefault]
  cases provider.fileConstants.get? name <;> rfl

/-! ### Keys -/

namespace Grammar

def Accepts (grammar : Grammar) (text : String) : Prop := ∃ key, grammar.parse text = .ok key

/-- A grammar refuses or agrees with the plain classification; it never changes it. -/
theorem Accepts.parse_eq {grammar : Grammar} {text : String} (haccepts : grammar.Accepts text) :
    grammar.parse text = .ok (Key.parse text) := by
  obtain ⟨key, hkey⟩ := haccepts
  simp only [parse] at hkey ⊢
  split at hkey
  case isTrue => cases hkey
  case isFalse hfine => rw [if_neg hfine]

end Grammar

@[simp] theorem Key.parse_computed (name : String) :
    Key.parse ("#" ++ name) = ⟨.computed, name⟩ := by
  simp [Key.parse, Key.ofChars, String.toList_append]

theorem Grammar.Accepts.parse_computed {grammar : Grammar} {name : String}
    (haccepts : grammar.Accepts ("#" ++ name)) :
    grammar.parse ("#" ++ name) = .ok ⟨.computed, name⟩ := by
  rw [haccepts.parse_eq, Key.parse_computed]

/-! ### Resolving

For each store there are three lemmas: what a provider answers is what resolving leaves, and what
that is if the provider has no rule of its own, or has one.
-/

namespace Resolver

variable {resolver : Resolver} {text name : String}

theorem resolve_computed {provider : ComputedProvider}
    (hparse : resolver.grammar.parse text = .ok ⟨.computed, name⟩)
    (hslot : resolver.computed = some provider) (calls : Calls) :
    resolver.resolve calls text = .ofReply ⟨.computed, name⟩ (provider.get calls name) := by
  simp only [resolve, hparse, lookup, hslot]
  rfl

theorem resolve_constant {provider : ConstantsProvider}
    (hparse : resolver.grammar.parse text = .ok ⟨.constant, name⟩)
    (hslot : resolver.constants = some provider) (calls : Calls) :
    resolver.resolve calls text = .ofReply ⟨.constant, name⟩ (provider.askConstant calls name) := by
  simp only [resolve, hparse, lookup, hslot]
  rfl

theorem resolve_fileConstant {provider : ConstantsProvider}
    (hparse : resolver.grammar.parse text = .ok ⟨.fileConstant, name⟩)
    (hslot : resolver.constants = some provider) (calls : Calls) :
    resolver.resolve calls text =
      .ofReply ⟨.fileConstant, name⟩ (provider.askFileConstant calls name) := by
  simp only [resolve, hparse, lookup, hslot]
  rfl

theorem resolve_computed_of_default {provider : ComputedProvider}
    (hparse : resolver.grammar.parse text = .ok ⟨.computed, name⟩)
    (hslot : resolver.computed = some provider) (hdefault : provider.ownRule = none)
    (calls : Calls) :
    resolver.resolve calls text =
      .ofReply ⟨.computed, name⟩ (Computation.askFirst name provider.computed calls) := by
  rw [resolve_computed hparse hslot, ComputedProvider.get_of_default hdefault]

theorem resolve_constant_of_default {provider : ConstantsProvider}
    (hparse : resolver.grammar.parse text = .ok ⟨.constant, name⟩)
    (hslot : resolver.constants = some provider) (hdefault : provider.ownRule = none)
    (calls : Calls) :
    resolver.resolve calls text =
      .ofReply ⟨.constant, name⟩
        (Answer.ofFound (.unknownConstant name) (provider.constants.get? name), calls) := by
  rw [resolve_constant hparse hslot, ConstantsProvider.askConstant_of_default hdefault]

theorem resolve_fileConstant_of_default {provider : ConstantsProvider}
    (hparse : resolver.grammar.parse text = .ok ⟨.fileConstant, name⟩)
    (hslot : resolver.constants = some provider) (hdefault : provider.ownFileRule = none)
    (calls : Calls) :
    resolver.resolve calls text =
      .ofReply ⟨.fileConstant, name⟩
        (Answer.ofFound (.unknownFileConstant name) (provider.fileConstants.get? name), calls) := by
  rw [resolve_fileConstant hparse hslot, ConstantsProvider.askFileConstant_of_default hdefault]

theorem resolve_computed_of_rule {provider : ComputedProvider} {rule : Rule (List Computation)}
    (hparse : resolver.grammar.parse text = .ok ⟨.computed, name⟩)
    (hslot : resolver.computed = some provider) (hrule : provider.ownRule = some rule)
    (calls : Calls) :
    resolver.resolve calls text =
      .ofReply ⟨.computed, name⟩ ((rule name).answer provider.computed calls) := by
  rw [resolve_computed hparse hslot]
  simp only [ComputedProvider.get, hrule]

theorem resolve_constant_of_rule {provider : ConstantsProvider}
    {rule : Rule (ConstantMap × ConstantMap)}
    (hparse : resolver.grammar.parse text = .ok ⟨.constant, name⟩)
    (hslot : resolver.constants = some provider) (hrule : provider.ownRule = some rule)
    (calls : Calls) :
    resolver.resolve calls text =
      .ofReply ⟨.constant, name⟩
        ((rule name).answer (provider.constants, provider.fileConstants) calls) := by
  rw [resolve_constant hparse hslot]
  simp only [ConstantsProvider.askConstant, hrule]

theorem resolve_fileConstant_of_rule {provider : ConstantsProvider}
    {rule : Rule (ConstantMap × ConstantMap)}
    (hparse : resolver.grammar.parse text = .ok ⟨.fileConstant, name⟩)
    (hslot : resolver.constants = some provider) (hrule : provider.ownFileRule = some rule)
    (calls : Calls) :
    resolver.resolve calls text =
      .ofReply ⟨.fileConstant, name⟩
        ((rule name).answer (provider.constants, provider.fileConstants) calls) := by
  rw [resolve_fileConstant hparse hslot]
  simp only [ConstantsProvider.askFileConstant, hrule]

end Resolver

end SigilLookup
