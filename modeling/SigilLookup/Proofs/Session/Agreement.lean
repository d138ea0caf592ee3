import SigilLookup.Proofs.Session.Run

/-!
# Agreement of sessions

Two sessions agree if nothing that can be asked of them tells them apart, and they are
indistinguishable if they still agree after any common run. Only the log is left out: it tells of
the way a session came about, which no operation can ask for.

The hidden state of computations is part of the agreement, as the counts that decide what each of
them answers next.
-/

namespace SigilLookup.Session

/-- Agreement on everything a caller can observe, and on the state of all computations. -/
structure Agree (first second : Session) : Prop where
  grammar : first.resolver.grammar = second.resolver.grammar
  /-- The same names are listed, in the same order. -/
  overview : first.resolver.overview = second.resolver.overview
  value : ∀ key, first.resolver.value? key = second.resolver.value? key
  answer : ∀ key, (first.resolver.resolve first.calls key).answer =
    (second.resolver.resolve second.calls key).answer
  calls : first.calls = second.calls
  /-- The next operation has the same response, refusals included. -/
  response : ∀ operation, (first.step operation).2 = (second.step operation).2

/-- Agreement after any common run. -/
def Indistinguishable (first second : Session) : Prop :=
  ∀ operations, (first.run operations).Agree (second.run operations)

/-- Two sessions with the same resolver and the same counts: only their logs may differ. -/
structure SameState (first second : Session) : Prop where
  resolver : first.resolver = second.resolver
  calls : first.calls = second.calls

namespace SameState

variable {first second : Session}

/-- No operation looks at the log. -/
theorem step_spec (hsame : first.SameState second) (operation : Operation) :
    (first.step operation).1.SameState (second.step operation).1 ∧
      (first.step operation).2 = (second.step operation).2 := by
  obtain ⟨resolver, calls, firstLog⟩ := first
  obtain ⟨_, _, secondLog⟩ := second
  obtain ⟨rfl, rfl⟩ := hsame
  cases operation with
  | registerComputedBatch providers =>
      simp only [Session.step]
      cases resolver.registerComputedBatch providers <;> exact ⟨⟨rfl, rfl⟩, rfl⟩
  | registerConstantsBatch providers =>
      simp only [Session.step]
      cases resolver.registerConstantsBatch providers <;> exact ⟨⟨rfl, rfl⟩, rfl⟩
  | _ => exact ⟨⟨rfl, rfl⟩, rfl⟩

theorem run (hsame : first.SameState second) (operations : List Operation) :
    (first.run operations).SameState (second.run operations) := by
  induction operations generalizing first second with
  | nil => exact hsame
  | cons operation rest ih => exact ih (hsame.step_spec operation).1

theorem agree (hsame : first.SameState second) : first.Agree second where
  grammar := by rw [hsame.resolver]
  overview := by rw [hsame.resolver]
  value _ := by rw [hsame.resolver]
  answer _ := by rw [hsame.resolver, hsame.calls]
  calls := hsame.calls
  response operation := (hsame.step_spec operation).2

theorem indistinguishable (hsame : first.SameState second) : first.Indistinguishable second :=
  fun operations => (hsame.run operations).agree

end SameState

end SigilLookup.Session
