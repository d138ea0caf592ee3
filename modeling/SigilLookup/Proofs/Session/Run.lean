import SigilLookup.Resolver.Session

/-!
# Runs

A run does operations in turn. The grammar stays what it was, and an operation that is refused
leaves the session as it was, log and all, so a run may keep it or drop it (`run_accepted`).
-/

namespace SigilLookup

def Response.isRefused : Response → Bool
  | .refused _ => true
  | _ => false

namespace Session

/-- A session with a resolver that holds nothing. Computations may have been asked before, through
other resolvers. -/
def start (grammar : Grammar) (calls : Calls) : Session :=
  { resolver := .withGrammar grammar, calls }

/-! ### Runs -/

@[simp] theorem run_nil (session : Session) : session.run [] = session := rfl

@[simp] theorem run_cons (session : Session) (operation : Operation) (rest : List Operation) :
    session.run (operation :: rest) = (session.step operation).1.run rest := rfl

theorem run_append (session : Session) (operations later : List Operation) :
    session.run (operations ++ later) = (session.run operations).run later := List.foldl_append

theorem run_concat (session : Session) (operations : List Operation) (operation : Operation) :
    session.run (operations ++ [operation]) = ((session.run operations).step operation).1 :=
  run_append session operations [operation]

theorem grammar_step (session : Session) (operation : Operation) :
    (session.step operation).1.resolver.grammar = session.resolver.grammar := by
  cases operation with
  | registerComputedBatch providers =>
      simp only [step, Resolver.registerComputedBatch]
      cases session.resolver.computed.registerBatch providers <;> rfl
  | registerConstantsBatch providers =>
      simp only [step, Resolver.registerConstantsBatch]
      cases session.resolver.constants.registerBatch providers <;> rfl
  | _ => rfl

theorem grammar_run (session : Session) (operations : List Operation) :
    (session.run operations).resolver.grammar = session.resolver.grammar := by
  induction operations generalizing session with
  | nil => rfl
  | cons operation rest ih => rw [run_cons, ih, grammar_step]

/-! ### Refusals -/

theorem map_eq_error_iff {f : α → β} {result : Except ε α} {error : ε} :
    result.map f = .error error ↔ result = .error error := by
  cases result <;> simp [Except.map]

theorem isRefused_attempted {session : Session} {result : Except EmptyBatch (Resolver × Event)} :
    (session.attempted result).2.isRefused = true ↔ ∃ error, result = .error error := by
  cases result with
  | ok done => simp [attempted, registered, Response.isRefused]
  | error error => simp [attempted, Response.isRefused]

theorem step_of_isRefused {session : Session} {operation : Operation}
    (hrefused : (session.step operation).2.isRefused = true) :
    (session.step operation).1 = session := by
  cases operation with
  | registerComputedBatch providers =>
      obtain ⟨error, herror⟩ := isRefused_attempted.mp hrefused
      simp only [step, herror, attempted]
  | registerConstantsBatch providers =>
      obtain ⟨error, herror⟩ := isRefused_attempted.mp hrefused
      simp only [step, herror, attempted]
  | _ => cases hrefused

def accepted (session : Session) : List Operation → List Operation
  | [] => []
  | operation :: rest =>
    let (next, response) := session.step operation
    if response.isRefused then next.accepted rest else operation :: next.accepted rest

theorem accepted_cons_of_refused {session : Session} {operation : Operation}
    (hrefused : (session.step operation).2.isRefused = true) (rest : List Operation) :
    session.accepted (operation :: rest) = session.accepted rest := by
  simp only [accepted, hrefused, if_true, step_of_isRefused hrefused]

theorem accepted_cons_of_not_refused {session : Session} {operation : Operation}
    (hdone : (session.step operation).2.isRefused = false) (rest : List Operation) :
    session.accepted (operation :: rest) =
      operation :: (session.step operation).1.accepted rest := by
  simp [accepted, hdone]

theorem accepted_append (session : Session) (operations later : List Operation) :
    session.accepted (operations ++ later) =
      session.accepted operations ++ (session.run operations).accepted later := by
  induction operations generalizing session with
  | nil => rfl
  | cons operation rest ih =>
      rw [List.cons_append, run_cons]
      cases hrefused : (session.step operation).2.isRefused with
      | true =>
          rw [accepted_cons_of_refused hrefused, accepted_cons_of_refused hrefused,
            step_of_isRefused hrefused, ih]
      | false =>
          rw [accepted_cons_of_not_refused hrefused, accepted_cons_of_not_refused hrefused, ih,
            List.cons_append]

theorem mem_of_mem_accepted {session : Session} {operations : List Operation}
    {operation : Operation} (haccepted : operation ∈ session.accepted operations) :
    operation ∈ operations := by
  induction operations generalizing session with
  | nil => exact haccepted
  | cons first rest ih =>
      cases hrefused : (session.step first).2.isRefused with
      | true =>
          rw [accepted_cons_of_refused hrefused] at haccepted
          exact List.mem_cons_of_mem first (ih haccepted)
      | false =>
          rw [accepted_cons_of_not_refused hrefused] at haccepted
          rcases List.mem_cons.mp haccepted with rfl | hrest
          · exact List.mem_cons_self
          · exact List.mem_cons_of_mem first (ih hrest)

/-- What is refused leaves no trace in a run. -/
theorem run_accepted (session : Session) (operations : List Operation) :
    session.run (session.accepted operations) = session.run operations := by
  induction operations generalizing session with
  | nil => rfl
  | cons operation rest ih =>
      cases hrefused : (session.step operation).2.isRefused with
      | true =>
          rw [accepted_cons_of_refused hrefused, run_cons, step_of_isRefused hrefused, ih]
      | false => rw [accepted_cons_of_not_refused hrefused, run_cons, run_cons, ih]

end Session

end SigilLookup
