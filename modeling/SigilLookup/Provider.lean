import SigilLookup.Computation
import SigilLookup.OrderedMap

/-!
# Providers

A provider holds computations, or constants and file constants, and answers for the names they have.
By default it answers from what it holds: the first computation of a name, the constant of a name.
A provider may instead come with a rule of its own, which then answers every name; the rule may look
at what the provider holds, or pay no heed to it. What a provider holds can be replaced; the way it
answers cannot.
-/

namespace SigilLookup

/-- What a rule says of one name. The answer may depend on what the provider holds when it is asked
and on the questions asked before it, and giving it may ask further questions. -/
structure Reply (Held : Type) where
  answer : Held → Calls → Answer × Calls

def Reply.ok (value : Value) : Reply Held := ⟨fun _ calls => (.ok value, calls)⟩

/-- A rule that answers names in place of what a provider holds. -/
abbrev Rule (Held : Type) := String → Reply Held

/-! ### Computations -/

structure ComputedProvider where
  computed : List Computation := []
  /-- The rule that answers in place of the computations, if there is one. -/
  ownRule : Option (Rule (List Computation)) := none

namespace ComputedProvider

def names (provider : ComputedProvider) : List String :=
  provider.computed.map Computation.name

def replaceComputed (provider : ComputedProvider) (computed : List Computation) :
    ComputedProvider :=
  { provider with computed }

def get (provider : ComputedProvider) (calls : Calls) (name : String) : Answer × Calls :=
  match provider.ownRule with
  | some rule => (rule name).answer provider.computed calls
  | none =>
    match Computation.find? name provider.computed with
    | some computation => computation.evaluate calls
    | none => (.error (.unknownComputed name), calls)

def push (provider : ComputedProvider) (computation : Computation) : ComputedProvider :=
  provider.replaceComputed (provider.computed ++ [computation])

def dump (provider : ComputedProvider) : Dump :=
  .fields "ComputedTable" [("computed", .list (provider.computed.map Computation.dump))] false

end ComputedProvider

/-! ### Constants -/

abbrev ConstantMap := OrderedMap Value

namespace ConstantMap

/-- The members of an object as constants; none if the document is not an object. -/
def ofJson? : Json → Option ConstantMap
  | .obj members => some (OrderedMap.ofList (members.map fun (name, value) => (name, .json value)))
  | _ => none

def sameContents (first second : ConstantMap) : Bool := first.same Value.same second

end ConstantMap

structure ConstantsProvider where
  constants : ConstantMap := .empty
  fileConstants : ConstantMap := .empty
  ownRule : Option (Rule (ConstantMap × ConstantMap)) := none
  ownFileRule : Option (Rule (ConstantMap × ConstantMap)) := none

namespace ConstantsProvider

def replaceConstants (provider : ConstantsProvider) (constants : ConstantMap) :
    ConstantsProvider :=
  { provider with constants }

def replaceFileConstants (provider : ConstantsProvider) (fileConstants : ConstantMap) :
    ConstantsProvider :=
  { provider with fileConstants }

def askConstant (provider : ConstantsProvider) (calls : Calls) (name : String) : Answer × Calls :=
  match provider.ownRule with
  | some rule => (rule name).answer (provider.constants, provider.fileConstants) calls
  | none =>
    match provider.constants.get? name with
    | some value => (.ok value, calls)
    | none => (.error (.unknownConstant name), calls)

def askFileConstant (provider : ConstantsProvider) (calls : Calls) (name : String) :
    Answer × Calls :=
  match provider.ownFileRule with
  | some rule => (rule name).answer (provider.constants, provider.fileConstants) calls
  | none =>
    match provider.fileConstants.get? name with
    | some value => (.ok value, calls)
    | none => (.error (.unknownFileConstant name), calls)

/-- The answer for the name of a constant when no question came before. -/
def getConstant (provider : ConstantsProvider) (name : String) : Answer :=
  (provider.askConstant .none name).1

def getFileConstant (provider : ConstantsProvider) (name : String) : Answer :=
  (provider.askFileConstant .none name).1

def ofJson? (document : Json) : Option ConstantsProvider :=
  (ConstantMap.ofJson? document).map fun constants => { constants }

/-- Sets a constant; the value it had before comes with the new provider. -/
def insertConstant (provider : ConstantsProvider) (name : String) (value : Value) :
    ConstantsProvider × Option Value :=
  (provider.replaceConstants (provider.constants.insert name value), provider.constants.get? name)

def insertFileConstant (provider : ConstantsProvider) (name : String) (value : Value) :
    ConstantsProvider × Option Value :=
  (provider.replaceFileConstants (provider.fileConstants.insert name value),
    provider.fileConstants.get? name)

def isEmpty (provider : ConstantsProvider) : Bool :=
  provider.constants.isEmpty && provider.fileConstants.isEmpty

def sameContents (first second : ConstantsProvider) : Bool :=
  first.constants.sameContents second.constants &&
    first.fileConstants.sameContents second.fileConstants

end ConstantsProvider

end SigilLookup
