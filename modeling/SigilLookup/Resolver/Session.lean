import SigilLookup.Resolver.Basic

/-!
# Sessions

A session is a resolver in use, together with the counts of questions that its computations were
asked and the log of what has happened. It is driven by operations; each operation gives a response
and adds the events of what it did to the log.
-/

namespace SigilLookup

/-- What is registered, as far as it can be listed. -/
structure Overview where
  hasComputed : Bool
  hasConstants : Bool
  computed : List String
  constants : List String
  fileConstants : List String
deriving DecidableEq

def Resolver.overview (resolver : Resolver) : Overview :=
  { hasComputed := resolver.hasComputed
    hasConstants := resolver.hasConstants
    computed := resolver.computedNames
    constants := resolver.constantNames
    fileConstants := resolver.fileConstantNames }

inductive Operation where
  | setValue (key : String) (value : Value)
  | value (key : String)
  | resolve (key : String)
  | overview
  | grammar
  | registerComputed (provider : ComputedProvider)
  | registerComputedBatch (providers : List ComputedProvider)
  | registerConstants (provider : ConstantsProvider)
  | registerConstantsBatch (providers : List ConstantsProvider)

inductive Response where
  | done
  | stored (value : Option Value)
  | resolved (answer : Except ResolveError Value)
  | overview (overview : Overview)
  | grammar (grammar : Grammar)
  | refused (error : EmptyBatch)

structure Session where
  resolver : Resolver := {}
  calls : Calls := .none
  log : List Event := []

namespace Session

/-- The session after a registration that succeeded. -/
def registered (session : Session) (result : Resolver × Event) : Session × Response :=
  ({ session with resolver := result.1, log := session.log ++ [result.2] },
    .overview result.1.overview)

/-- The session after a registration that may have been refused. -/
def attempted (session : Session) : Except EmptyBatch (Resolver × Event) → Session × Response
  | .ok result => session.registered result
  | .error error => (session, .refused error)

def step (session : Session) : Operation → Session × Response
  | .setValue key value =>
    let (resolver, event) := session.resolver.setValue key value
    ({ session with resolver, log := session.log ++ [event] }, .done)
  | .value key => (session, .stored (session.resolver.value? key))
  | .resolve key =>
    let resolution := session.resolver.resolve session.calls key
    ({ session with calls := resolution.calls, log := session.log ++ resolution.events },
      .resolved resolution.answer)
  | .overview => (session, .overview session.resolver.overview)
  | .grammar => (session, .grammar session.resolver.grammar)
  | .registerComputed provider => session.registered (session.resolver.registerComputed provider)
  | .registerComputedBatch providers =>
    session.attempted (session.resolver.registerComputedBatch providers)
  | .registerConstants provider =>
    session.registered (session.resolver.registerConstants provider)
  | .registerConstantsBatch providers =>
    session.attempted (session.resolver.registerConstantsBatch providers)

def run (session : Session) (operations : List Operation) : Session :=
  operations.foldl (fun session operation => (session.step operation).1) session

end Session

end SigilLookup
