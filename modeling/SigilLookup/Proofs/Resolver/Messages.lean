import Mathlib.Data.List.Infix
import SigilLookup.Proofs.Text.Quoting
import SigilLookup.Resolver.Basic

/-!
# Messages

The message of a failed lookup identifies the failure (`messages_identify_errors`): it can be read
back, variant, names, reason and all.

A message that shows a name puts it between double quotes, and no quote stands before the name. So
what stands before the first quote tells the variant, the quoted name ends itself, and what follows
it is either the same for all names or, for a computation that gave up, the reason as it is. No name
or reason gets in the way, whatever it is made of.
-/

namespace SigilLookup

namespace Quoted

/-- A text cut at its first quoted text: what stands before, the text quoted, and what follows. -/
structure Parts where
  front : String
  quoted : String
  back : String

/-- Cuts a text at its first quote; none if no quoted text begins there. -/
def parts? (text : String) : Option Parts := do
  let (front, after) ← splitFirst? '"' text.toList
  let (quoted, back) ← untilQuote? after
  return ⟨String.ofList front, String.ofList quoted, String.ofList back⟩

theorem parts?_append {front : String} (hfront : '"' ∉ front.toList) (quoted back : String) :
    parts? (front ++ quote quoted ++ back) = some ⟨front, quoted, back⟩ := by
  have hchars : (front ++ quote quoted ++ back).toList =
      front.toList ++ '"' :: (quoted.toList.flatMap escapeChar ++ '"' :: back.toList) := by
    simp [quote, quoteChars, String.toList_append]
  have hsplit := splitFirst?_eq_some_iff.mpr ⟨hchars, hfront⟩
  rw [parts?, hsplit]
  simp [untilQuote?_flatMap]

theorem parts?_of_notMem {text : String} (hnone : '"' ∉ text.toList) : parts? text = none := by
  rw [parts?, splitFirst?_eq_none_iff.mpr hnone]
  rfl

end Quoted

namespace ResolveError

/-- The error whose message shows a name after `front`. -/
def ofParts? (parts : Quoted.Parts) : Option ResolveError :=
  match parts.front with
  | "malformed key: " => some (.malformedKey parts.quoted)
  | "value " => some (.notFound parts.quoted)
  | "computed value " => some (.provider (.unknownComputed parts.quoted))
  | "constant " => some (.provider (.unknownConstant parts.quoted))
  | "file constant " => some (.provider (.unknownFileConstant parts.quoted))
  | "computation " =>
    (parts.back.toList.dropPrefix? " failed: ".toList).map fun reason =>
      .provider (.computationFailed parts.quoted (String.ofList reason))
  | _ => none

/-- The error with a message that shows no name. -/
def ofPlain? (text : String) : Option ResolveError :=
  match text with
  | "no computed provider is registered" => some (.providerMissing .computed)
  | "no constants provider is registered" => some (.providerMissing .constants)
  | _ => none

def ofMessage? (text : String) : Option ResolveError :=
  match Quoted.parts? text with
  | some parts => ofParts? parts
  | none => ofPlain? text

theorem ofMessage?_named {front : String} (hfront : '"' ∉ front.toList) (name back : String) :
    ofMessage? (front ++ Quoted.quote name ++ back) = ofParts? ⟨front, name, back⟩ := by
  rw [ofMessage?, Quoted.parts?_append hfront]

theorem ofMessage?_message (error : ResolveError) : ofMessage? error.message = some error := by
  cases error with
  | malformedKey key =>
      have hmessage : (malformedKey key).message =
          "malformed key: " ++ Quoted.quote key ++ "" := String.append_empty.symm
      rw [hmessage, ofMessage?_named (by decide)]
      rfl
  | notFound name =>
      change ofMessage? ("value " ++ Quoted.quote name ++ " doesn't exist in the runtime table") = _
      rw [ofMessage?_named (by decide)]
      rfl
  | providerMissing kind =>
      have hplain : '"' ∉ (providerMissing kind).message.toList := by
        cases kind <;> decide
      rw [ofMessage?, Quoted.parts?_of_notMem hplain]
      cases kind <;> rfl
  | provider error =>
      cases error with
      | unknownComputed name =>
          change ofMessage? ("computed value " ++ Quoted.quote name ++ " is not defined") = _
          rw [ofMessage?_named (by decide)]
          rfl
      | unknownConstant name =>
          change ofMessage? ("constant " ++ Quoted.quote name ++ " is not defined") = _
          rw [ofMessage?_named (by decide)]
          rfl
      | unknownFileConstant name =>
          change ofMessage? ("file constant " ++ Quoted.quote name ++ " is not defined") = _
          rw [ofMessage?_named (by decide)]
          rfl
      | computationFailed name reason =>
          have hback : (" failed: " ++ reason).toList.dropPrefix? " failed: ".toList =
              some reason.toList := by
            rw [String.toList_append]
            exact List.dropPrefix?_append_of_beq reason.toList (beq_self_eq_true _)
          change ofMessage? ("computation " ++ Quoted.quote name ++ " failed: " ++ reason) = _
          rw [String.append_assoc, ofMessage?_named (by decide)]
          simp only [ofParts?, hback, Option.map_some, String.ofList_toList]

end ResolveError

/-- Two failed lookups have the same message only if they are the same failure, and the failure is
read off the message; for a computation that gave up, its name and the reason. -/
theorem messages_identify_errors :
    (∀ first second : ResolveError, first.message = second.message ↔ first = second) ∧
    (∀ error : ResolveError, ResolveError.ofMessage? error.message = some error) ∧
    ∀ name reason : String,
      ResolveError.ofMessage?
          ("computation " ++ Quoted.quote name ++ " failed: " ++ reason) =
        some (.provider (.computationFailed name reason)) := by
  refine ⟨?_, ResolveError.ofMessage?_message, ?_⟩
  · intro first second
    constructor
    · intro hmessage
      have hread : some first = some second := by
        rw [← ResolveError.ofMessage?_message first, hmessage, ResolveError.ofMessage?_message]
      exact Option.some.inj hread
    · rintro rfl
      rfl
  · intro name reason
    exact ResolveError.ofMessage?_message (.provider (.computationFailed name reason))

end SigilLookup
