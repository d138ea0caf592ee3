import Mathlib.Tactic.SplitIfs
import SigilLookup.Proofs.Decimal.Numeral
import SigilLookup.Proofs.Text.Splitting
import SigilLookup.Text.Quoted

/-!
# Reading quoted text

A quoted text is read back character by character, and the reader finds the closing quote by itself,
whatever follows it (`Quoted.untilQuote?_flatMap`). So no choice of characters makes a quoted text
end early or run on into what stands after it.

The reader follows the three forms that a character can have: a backslash with a letter, a
backslash with a code between braces, and the character itself.
-/

namespace SigilLookup.Quoted

/-! ### Codes -/

theorem natural?_hexDigits (code : Nat) : Numeral.natural? 16 (hexDigits code) = some code :=
  Numeral.natural?_toDigits (by decide) (by decide) code

theorem brace_notMem_hexDigits (code : Nat) : '\x7d' ∉ hexDigits code := by
  intro hbrace
  have hdigit := Numeral.digitValue?_isSome_of_natural? (natural?_hexDigits code) _ hbrace
  revert hdigit
  decide

/-! ### Characters -/

def letter? : Char → Option Char
  | '0' => some '\x00'
  | 't' => some '\t'
  | 'r' => some '\r'
  | 'n' => some '\n'
  | '\\' => some '\\'
  | '"' => some '"'
  | _ => none

/-- Reads one character; a quote that no backslash precedes is none. -/
def character? : List Char → Option (Char × List Char)
  | '\\' :: 'u' :: '\x7b' :: rest => do
    let (digits, after) ← splitFirst? '\x7d' rest
    let code ← Numeral.natural? 16 digits
    return (Char.ofNat code, after)
  | '\\' :: letter :: rest => (letter? letter).map fun c => (c, rest)
  | '"' :: _ => none
  | c :: rest => some (c, rest)
  | [] => none

theorem character?_code (code : Nat) (rest : List Char) :
    character? (['\\', 'u', '\x7b'] ++ hexDigits code ++ ['\x7d'] ++ rest) =
      some (Char.ofNat code, rest) := by
  have hsplit : splitFirst? '\x7d' (hexDigits code ++ '\x7d' :: rest) =
      some (hexDigits code, rest) :=
    splitFirst?_eq_some_iff.mpr ⟨rfl, brace_notMem_hexDigits code⟩
  have hform : ['\\', 'u', '\x7b'] ++ hexDigits code ++ ['\x7d'] ++ rest =
      '\\' :: 'u' :: '\x7b' :: (hexDigits code ++ '\x7d' :: rest) := by
    simp
  rw [hform, character?, hsplit]
  simp only [bind, Option.bind, natural?_hexDigits]
  rfl

theorem character?_plain {c : Char} (hslash : c ≠ '\\') (hquote : c ≠ '"') (rest : List Char) :
    character? (c :: rest) = some (c, rest) := by
  unfold character?
  split
  case h_1 heq => cases heq; exact absurd rfl hslash
  case h_2 heq => cases heq; exact absurd rfl hslash
  case h_3 heq => cases heq; exact absurd rfl hquote
  case h_4 heq => cases heq; rfl
  case h_5 heq => cases heq

/-- The step lemma: the form of a character is read as the character, whatever follows. -/
theorem character?_escapeChar (c : Char) (rest : List Char) :
    character? (escapeChar c ++ rest) = some (c, rest) := by
  unfold escapeChar
  split_ifs with hnul htab hreturn hline hslash hquote hplain hhidden
  case pos => subst hnul; rfl
  case pos => subst htab; rfl
  case pos => subst hreturn; rfl
  case pos => subst hline; rfl
  case pos => subst hslash; rfl
  case pos => subst hquote; rfl
  case pos => exact character?_plain hslash hquote rest
  case pos => rw [character?_code, Char.ofNat_toNat]
  case neg => exact character?_plain hslash hquote rest

theorem length_lt_of_character? {cs rest : List Char} {c : Char}
    (hread : character? cs = some (c, rest)) : rest.length < cs.length := by
  unfold character? at hread
  split at hread
  case h_1 tail =>
    obtain ⟨⟨digits, after⟩, hsplit, hcode⟩ := Option.bind_eq_some_iff.mp hread
    obtain ⟨code, -, hresult⟩ := Option.bind_eq_some_iff.mp hcode
    cases hresult
    rw [(splitFirst?_eq_some_iff.mp hsplit).1]
    simp only [List.length_cons, List.length_append]
    omega
  case h_2 letter tail _ =>
    obtain ⟨read, -, hresult⟩ := Option.map_eq_some_iff.mp hread
    cases hresult
    simp only [List.length_cons]
    omega
  case h_3 => cases hread
  case h_4 =>
    cases hread
    exact Nat.lt_succ_self _
  case h_5 => cases hread

/-! ### Texts -/

def untilQuote? (cs : List Char) : Option (List Char × List Char) :=
  match cs with
  | '"' :: rest => some ([], rest)
  | cs =>
    match _hread : character? cs with
    | some (c, rest) => (untilQuote? rest).map fun (text, after) => (c :: text, after)
    | none => none
termination_by cs.length
decreasing_by exact length_lt_of_character? _hread

theorem untilQuote?_character {c : Char} {cs rest : List Char}
    (hread : character? cs = some (c, rest)) :
    untilQuote? cs = (untilQuote? rest).map fun (text, after) => (c :: text, after) := by
  rw [untilQuote?.eq_def]
  split
  case h_1 => cases hread
  case h_2 =>
    split
    case h_1 hagain =>
      rw [hread] at hagain
      cases hagain
      rfl
    case h_2 hagain =>
      rw [hread] at hagain
      cases hagain

/-- A quoted text is read back, and it ends itself. -/
theorem untilQuote?_flatMap (cs rest : List Char) :
    untilQuote? (cs.flatMap escapeChar ++ '"' :: rest) = some (cs, rest) := by
  induction cs with
  | nil => rw [List.flatMap_nil, List.nil_append, untilQuote?]
  | cons c cs ih =>
      rw [List.flatMap_cons, List.append_assoc, untilQuote?_character (character?_escapeChar c _),
        ih]
      rfl

end SigilLookup.Quoted
