import SigilLookup.Value

/-!
# Computations

A computation derives a value each time it is asked, and it may answer differently from one time to
the next. What it will answer is fixed: `answer n` is its answer to the question asked after `n`
earlier ones. How often it has been asked is kept in the cell that it names, outside the computation
itself, so that copies of a computation share one count: a question asked through one copy is an
earlier question for all of them.
-/

namespace SigilLookup

/-- Failures of a provider's own lookup. -/
inductive ProviderError where
  | unknownComputed (name : String)
  | unknownConstant (name : String)
  | unknownFileConstant (name : String)
  | computationFailed (name reason : String)
deriving DecidableEq

def ProviderError.message : ProviderError → String
  | .unknownComputed name => "computed value " ++ Quoted.quote name ++ " is not defined"
  | .unknownConstant name => "constant " ++ Quoted.quote name ++ " is not defined"
  | .unknownFileConstant name => "file constant " ++ Quoted.quote name ++ " is not defined"
  | .computationFailed name reason =>
    "computation " ++ Quoted.quote name ++ " failed: " ++ reason

abbrev Answer := Except ProviderError Value

/-- How often the computation of each cell has been asked. -/
structure Calls where
  count : Nat → Nat

namespace Calls

def none : Calls := ⟨fun _ => 0⟩

/-- One more question to the computation of a cell. -/
def ask (calls : Calls) (cell : Nat) : Calls :=
  ⟨fun other => if other = cell then calls.count other + 1 else calls.count other⟩

@[simp] theorem count_ask_self (calls : Calls) (cell : Nat) :
    (calls.ask cell).count cell = calls.count cell + 1 := by simp [ask]

@[simp] theorem count_ask_of_ne (calls : Calls) {cell other : Nat} (h : other ≠ cell) :
    (calls.ask cell).count other = calls.count other := by simp [ask, h]

end Calls

structure Computation where
  name : String
  cell : Nat
  answer : Nat → Answer

namespace Computation

/-- Asks the computation: its answer, and the counts after the question. -/
def evaluate (computation : Computation) (calls : Calls) : Answer × Calls :=
  (computation.answer (calls.count computation.cell), calls.ask computation.cell)

def always (name : String) (cell : Nat) (value : Value) : Computation :=
  ⟨name, cell, fun _ => .ok value⟩

def failing (name : String) (cell : Nat) (error : ProviderError) : Computation :=
  ⟨name, cell, fun _ => .error error⟩

/-- A computation that counts its questions from `start` on, in 64-bit words. -/
def counter (name : String) (cell : Nat) (start : UInt64) : Computation :=
  ⟨name, cell, fun asked => .ok (.json (.num (.ofUInt64 (start + asked.toUInt64))))⟩

/-- Appends every addition, in order. -/
def merge (base : List Computation) (additions : List (List Computation)) : List Computation :=
  additions.foldl (· ++ ·) base

def find? (name : String) (computations : List Computation) : Option Computation :=
  computations.find? fun computation => computation.name = name

/-- The dump of a computation shows its name only. -/
def dump (computation : Computation) : Dump :=
  .fields "Computation" [("name", .quoted computation.name)] true

end Computation

end SigilLookup
