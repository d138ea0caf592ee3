import SigilLookup.Resolver.Registration
import SigilLookup.Resolver.RuntimeTable

/-!
# The resolver

A resolver classifies a key with its grammar and asks the store that the kind of the key selects:
the runtime table, the computed provider, the constants or the file constants of the constants
provider, or no store for a literal. Nothing is remembered from one lookup to the next.
-/

namespace SigilLookup

inductive ResolveError where
  | malformedKey (key : String)
  | notFound (name : String)
  | providerMissing (kind : ProviderKind)
  | provider (error : ProviderError)
deriving DecidableEq

def ResolveError.message : ResolveError → String
  | .malformedKey key => MalformedKey.message ⟨key⟩
  | .notFound name => "value " ++ Quoted.quote name ++ " doesn't exist in the runtime table"
  | .providerMissing kind => "no " ++ kind.label ++ " provider is registered"
  | .provider error => error.message

/-- A resolver: its grammar and its stores. -/
structure Resolver where
  grammar : Grammar := .lenient
  runtime : RuntimeTable := .fresh
  computed : ComputedSlot := none
  constants : ConstantsSlot := none

/-- What one lookup leaves: the answer, the counts of questions asked, and the events. -/
structure Resolution where
  answer : Except ResolveError Value
  calls : Calls
  events : List Event := []

namespace Resolver

/-- A resolver without values and providers. -/
def withGrammar (grammar : Grammar) : Resolver := { grammar }

/-- Writes a value at run time, with the event that tells of it. -/
def setValue (resolver : Resolver) (key : String) (value : Value) : Resolver × Event :=
  ({ resolver with runtime := (resolver.runtime.set key value).1 }, .settingRuntimeValue key)

/-- Reads the runtime table itself; sigils play no role. -/
def value? (resolver : Resolver) (key : String) : Option Value := resolver.runtime.get? key

/-! ### Registration -/

def registerComputed (resolver : Resolver) (provider : ComputedProvider) : Resolver × Event :=
  let (registered, event) := resolver.computed.register provider
  ({ resolver with computed := some registered }, event)

def registerComputedBatch (resolver : Resolver) (providers : List ComputedProvider) :
    Except EmptyBatch (Resolver × Event) :=
  (resolver.computed.registerBatch providers).map fun (registered, event) =>
    ({ resolver with computed := some registered }, event)

def registerConstants (resolver : Resolver) (provider : ConstantsProvider) : Resolver × Event :=
  let (registered, event) := resolver.constants.register provider
  ({ resolver with constants := some registered }, event)

def registerConstantsBatch (resolver : Resolver) (providers : List ConstantsProvider) :
    Except EmptyBatch (Resolver × Event) :=
  (resolver.constants.registerBatch providers).map fun (registered, event) =>
    ({ resolver with constants := some registered }, event)

/-! ### Introspection -/

def hasComputed (resolver : Resolver) : Bool := resolver.computed.isSome

def hasConstants (resolver : Resolver) : Bool := resolver.constants.isSome

def computedNames (resolver : Resolver) : List String :=
  match resolver.computed with
  | some provider => provider.names
  | none => []

def constantNames (resolver : Resolver) : List String :=
  match resolver.constants with
  | some provider => provider.constants.names
  | none => []

def fileConstantNames (resolver : Resolver) : List String :=
  match resolver.constants with
  | some provider => provider.fileConstants.names
  | none => []

def dump (resolver : Resolver) : Dump :=
  .fields "Resolver"
    [("grammar", resolver.grammar.dump), ("runtime", resolver.runtime.dump),
      ("computed", .list (resolver.computedNames.map Dump.quoted)),
      ("constants", .list (resolver.constantNames.map Dump.quoted)),
      ("file_constants", .list (resolver.fileConstantNames.map Dump.quoted))] false

/-! ### Lookup -/

def lookup (resolver : Resolver) (calls : Calls) (key : Key) :
    Except ResolveError Value × Calls :=
  match key.kind with
  | .runtime =>
    match resolver.runtime.get? key.name with
    | some value => (.ok value, calls)
    | none => (.error (.notFound key.name), calls)
  | .computed =>
    match resolver.computed with
    | some provider =>
      let (answer, calls) := provider.get calls key.name
      (answer.mapError .provider, calls)
    | none => (.error (.providerMissing .computed), calls)
  | .constant =>
    match resolver.constants with
    | some provider =>
      let (answer, calls) := provider.askConstant calls key.name
      (answer.mapError .provider, calls)
    | none => (.error (.providerMissing .constants), calls)
  | .fileConstant =>
    match resolver.constants with
    | some provider =>
      let (answer, calls) := provider.askFileConstant calls key.name
      (answer.mapError .provider, calls)
    | none => (.error (.providerMissing .constants), calls)
  | .literal => (.ok (.string key.name), calls)

def resolve (resolver : Resolver) (calls : Calls) (text : String) : Resolution :=
  match resolver.grammar.parse text with
  | .error error => { answer := .error (.malformedKey error.key), calls }
  | .ok key =>
    let (answer, calls) := resolver.lookup calls key
    { answer, calls, events := [.resolvingKey key.kind key.name] }

end Resolver

end SigilLookup
