import Mathlib.Tactic.SplitIfs
import SigilLookup.Json.Reader
import SigilLookup.Json.Writer

/-!
# Strings and integers read back

The reader undoes what the writer does to the two kinds of text that a value is made of: strings with
their escapes, and the digits of integers. Each lemma says what is read *and* what is left, so that
the pieces can be put together.

A string ends at its quote. An integer ends where no digit follows, and what follows must not turn it
into a number with a fraction or an exponent (`EndsNumber`).
-/

namespace SigilLookup.Json

/-! ### Strings -/

theorem stringRest_letter {letter c : Char} (hletter : letterEscape? letter = some c)
    (hunit : letter ≠ 'u') (read rest : List Char) :
    stringRest read ('\\' :: letter :: rest) = stringRest (c :: read) rest := by
  rw [stringRest, hletter]
  · rfl
  · intro _ _ _ _ _ heq
    exact absurd heq hunit

theorem hexQuad?_digitChar :
    ∀ n < 32, hexQuad? '0' '0' (Nat.digitChar (n / 16)) (Nat.digitChar (n % 16)) = some n := by
  decide

/-- A control character is written by its code, which is no half of a surrogate pair. -/
theorem stringRest_control {c : Char} (hcontrol : c < ' ') (read rest : List Char) :
    stringRest read ('\\' :: 'u' :: '0' :: '0' :: Nat.digitChar (c.toNat / 16) ::
      Nat.digitChar (c.toNat % 16) :: rest) = stringRest (c :: read) rest := by
  have hcode : c.toNat < 32 := hcontrol
  have hhigh : ¬ (0xD800 ≤ c.toNat ∧ c.toNat < 0xDC00) := by omega
  have hlow : ¬ (0xDC00 ≤ c.toNat ∧ c.toNat < 0xE000) := by omega
  rw [stringRest, hexQuad?_digitChar c.toNat hcode]
  simp only [Option.bind_eq_bind, Option.bind_some, if_neg hhigh, if_neg hlow, Char.ofNat_toNat]

theorem stringRest_plain {c : Char} (hquote : c ≠ '"') (hslash : c ≠ '\\')
    (hcontrol : ¬ c < ' ') (read rest : List Char) :
    stringRest read (c :: rest) = stringRest (c :: read) rest := by
  have hplain : ¬ (c = '\\' ∨ c < ' ') := by
    rintro (heq | hlt)
    · exact hslash heq
    · exact hcontrol hlt
  rw [stringRest, if_neg hplain]
  · exact hquote
  · intro _ _ _ _ _ heq
    exact absurd heq hslash
  · intro _ _ heq
    exact absurd heq hslash

/-- The step lemma: the form of a character is read as the character. -/
theorem stringRest_escapeChar (c : Char) (read rest : List Char) :
    stringRest read (escapeChar c ++ rest) = stringRest (c :: read) rest := by
  unfold escapeChar
  split_ifs with hquote hslash hback htab hline hform hreturn hcontrol
  case pos => subst hquote; exact stringRest_letter rfl (by decide) read rest
  case pos => subst hslash; exact stringRest_letter rfl (by decide) read rest
  case pos => subst hback; exact stringRest_letter rfl (by decide) read rest
  case pos => subst htab; exact stringRest_letter rfl (by decide) read rest
  case pos => subst hline; exact stringRest_letter rfl (by decide) read rest
  case pos => subst hform; exact stringRest_letter rfl (by decide) read rest
  case pos => subst hreturn; exact stringRest_letter rfl (by decide) read rest
  case pos => exact stringRest_control hcontrol read rest
  case neg => exact stringRest_plain hquote hslash hcontrol read rest

theorem stringRest_flatMap_escapeChar (cs read rest : List Char) :
    stringRest read (cs.flatMap escapeChar ++ '"' :: rest) =
      some (String.ofList (read.reverse ++ cs), rest) := by
  induction cs generalizing read with
  | nil => rw [List.flatMap_nil, List.nil_append, stringRest, List.append_nil]
  | cons c cs ih =>
      rw [List.flatMap_cons, List.append_assoc, stringRest_escapeChar, ih, List.reverse_cons,
        List.append_assoc, List.singleton_append]

/-- A quoted text is read back, whatever its characters are. -/
theorem stringRest_quotedChars (text : String) (rest : List Char) :
    ∃ tail, quotedChars text.toList ++ rest = '"' :: tail ∧
      stringRest [] tail = some (text, rest) := by
  refine ⟨text.toList.flatMap escapeChar ++ '"' :: rest, ?_, ?_⟩
  · simp [quotedChars]
  · rw [stringRest_flatMap_escapeChar, List.reverse_nil, List.nil_append, String.ofList_toList]

/-! ### Integers -/

def StartsNumber (c : Char) : Prop := c = '-' ∨ c.isDigit = true

instance (c : Char) : Decidable (StartsNumber c) :=
  inferInstanceAs (Decidable (c = '-' ∨ c.isDigit = true))

/-- What follows does not go on with a number. -/
def EndsNumber (rest : List Char) : Prop :=
  ∀ c ∈ rest.head?, c.isDigit = false ∧ c ≠ '.' ∧ c ≠ 'e' ∧ c ≠ 'E'

theorem le_ofDigitChars (cs : List Char) (n : Nat) : n ≤ Nat.ofDigitChars 10 cs n := by
  induction cs generalizing n with
  | nil => exact Nat.le_refl n
  | cons c cs ih =>
      have hnext := ih (10 * n + (c.toNat - '0'.toNat))
      have hunfold : Nat.ofDigitChars 10 (c :: cs) n =
          Nat.ofDigitChars 10 cs (10 * n + (c.toNat - '0'.toNat)) := rfl
      omega

/-- As long as the whole number fits, no digit is dropped. -/
theorem gather_eq_of_lt {cs : List Char} {significand : Nat}
    (hfits : Nat.ofDigitChars 10 cs significand < 0x10000000000000000) :
    gather significand cs = (Nat.ofDigitChars 10 cs significand, 0) := by
  induction cs generalizing significand with
  | nil => rfl
  | cons digit rest ih =>
      have hunfold : Nat.ofDigitChars 10 (digit :: rest) significand =
          Nat.ofDigitChars 10 rest (significand * 10 + (digit.toNat - '0'.toNat)) := by
        rw [Nat.mul_comm]
        rfl
      rw [hunfold] at hfits ⊢
      -- further digits never make a number smaller, so it fits here if it fits in the end
      have hnext : significand * 10 + (digit.toNat - '0'.toNat) < 0x10000000000000000 :=
        Nat.lt_of_le_of_lt (le_ofDigitChars rest _) hfits
      simp only [gather, if_pos hnext, ih hfits]

theorem gather_toDigits {n : Nat} (hfits : n < 0x10000000000000000) :
    gather 0 (Nat.toDigits 10 n) = (n, 0) := by
  have hvalue : Nat.ofDigitChars 10 (Nat.toDigits 10 n) 0 = n := Nat.ofDigitChars_ten_toDigits
  rw [gather_eq_of_lt (by rw [hvalue]; exact hfits), hvalue]

/-- Only zero is written with a leading zero. -/
theorem head?_toDigits_ne_zero {n : Nat} (hn : n ≠ 0) :
    (Nat.toDigits 10 n).head? ≠ some '0' := by
  induction n using Nat.strongRecOn with
  | ind n ih =>
      by_cases hsmall : n < 10
      · rw [Nat.toDigits_of_lt_base hsmall]
        have hdigits : ∀ m < 10, m ≠ 0 → [Nat.digitChar m].head? ≠ some '0' := by decide
        exact hdigits n hsmall hn
      · -- the leading digit is that of the quotient, which is not zero either
        have hge : 10 ≤ n := Nat.not_lt.mp hsmall
        have hquotient : n / 10 ≠ 0 := by omega
        have hfirst := ih (n / 10) (by omega) hquotient
        rw [Nat.toDigits_of_base_le (by decide) hge]
        cases hdigits : Nat.toDigits 10 (n / 10) with
        | nil => exact absurd hdigits Nat.toDigits_ne_nil
        | cons digit digits =>
            rw [hdigits] at hfirst
            exact hfirst

theorem fractionPart_of_endsNumber {rest : List Char} (hends : EndsNumber rest) :
    fractionPart rest = some ([], rest) := by
  cases rest with
  | nil => rfl
  | cons c rest =>
      have hpoint : c ≠ '.' := (hends c rfl).2.1
      rw [fractionPart]
      intro tail heq
      exact hpoint (List.cons.inj heq).1

theorem exponentPart_of_endsNumber {rest : List Char} (hends : EndsNumber rest) :
    exponentPart rest = some (none, rest) := by
  cases rest with
  | nil => rfl
  | cons c rest =>
      obtain ⟨-, -, hlower, hupper⟩ := hends c rfl
      have hnone : ¬ (c = 'e' ∨ c = 'E') := by
        rintro (heq | heq)
        · exact hlower heq
        · exact hupper heq
      simp only [exponentPart, if_neg hnone]

/-- Digits up to the end of a number are taken and left as a whole. -/
theorem span_toDigits (n : Nat) {rest : List Char} (hends : EndsNumber rest) :
    (Nat.toDigits 10 n ++ rest).takeWhile Char.isDigit = Nat.toDigits 10 n ∧
      (Nat.toDigits 10 n ++ rest).dropWhile Char.isDigit = rest := by
  have hdigits : ∀ c ∈ Nat.toDigits 10 n, c.isDigit = true :=
    fun _ => Nat.isDigit_of_mem_toDigits (by decide) (by decide)
  rw [List.takeWhile_append_of_pos hdigits, List.dropWhile_append_of_pos hdigits]
  cases rest with
  | nil => simp
  | cons c rest =>
      have hc : c.isDigit = false := (hends c rfl).1
      simp [hc]

/-- The digits of a natural number are read as the number that stands for them. -/
theorem unsignedNumber_toDigits (negative : Bool) (n : Nat) {rest : List Char}
    (hends : EndsNumber rest) :
    unsignedNumber negative (Nat.toDigits 10 n ++ rest) =
      (numberOf? negative (Nat.toDigits 10 n) [] none).map fun value => (value, rest) := by
  obtain ⟨htake, hdrop⟩ := span_toDigits n hends
  have hwhole : ¬ ((Nat.toDigits 10 n).isEmpty = true ∨
      (Nat.toDigits 10 n).head? = some '0' ∧ Nat.toDigits 10 n ≠ ['0']) := by
    rintro (hempty | ⟨hhead, hlong⟩)
    · exact Nat.toDigits_ne_nil (List.isEmpty_iff.mp hempty)
    · by_cases hn : n = 0
      · subst hn
        exact hlong (Nat.toDigits_zero 10)
      · exact head?_toDigits_ne_zero hn hhead
  simp only [unsignedNumber, htake, hdrop, if_neg hwhole, fractionPart_of_endsNumber hends,
    exponentPart_of_endsNumber hends, Option.bind_eq_bind, Option.bind_some]
  cases numberOf? negative (Nat.toDigits 10 n) [] none <;> rfl

theorem ofInt?_of_fits {value : Int}
    (fits : -0x8000000000000000 ≤ value ∧ value < 0x10000000000000000) :
    Number.ofInt? value = some (.int value fits) := by
  unfold Number.ofInt?
  rw [dif_pos fits]

theorem toList_text_ofNat (n : Nat) (fits) :
    (Number.int (.ofNat n) fits).text.toList = Nat.toDigits 10 n := by
  have htext : (Number.int (.ofNat n) fits).text = Nat.repr n := rfl
  rw [htext, Nat.repr_eq_ofList_toDigits, String.toList_ofList]

theorem toList_text_negSucc (n : Nat) (fits) :
    (Number.int (.negSucc n) fits).text.toList = '-' :: Nat.toDigits 10 (n + 1) := by
  have htext : (Number.int (.negSucc n) fits).text = "-" ++ Nat.repr (n + 1) := rfl
  rw [htext, Nat.repr_eq_ofList_toDigits]
  simp [String.toList_append]

theorem exists_text_int_eq_cons (value : Int) (fits) :
    ∃ c tail, (Number.int value fits).text.toList = c :: tail ∧ StartsNumber c := by
  cases value with
  | ofNat n =>
      obtain ⟨c, tail, hdigits⟩ :=
        List.exists_cons_of_ne_nil (Nat.toDigits_ne_nil : Nat.toDigits 10 n ≠ [])
      have hmem : c ∈ Nat.toDigits 10 n := by
        rw [hdigits]
        exact List.mem_cons_self
      exact ⟨c, tail, (toList_text_ofNat n fits).trans hdigits,
        .inr (Nat.isDigit_of_mem_toDigits (by decide) (by decide) hmem)⟩
  | negSucc n => exact ⟨'-', _, toList_text_negSucc n fits, .inl rfl⟩

theorem number_of_ne_minus {c : Char} (hminus : c ≠ '-') (cs : List Char) :
    number (c :: cs) = unsignedNumber false (c :: cs) := by
  rw [number]
  intro tail heq
  exact hminus (List.cons.inj heq).1

/-- An integer is read back as the same integer, up to both ends of the words. -/
theorem number_text_int (value : Int)
    (fits : -0x8000000000000000 ≤ value ∧ value < 0x10000000000000000) {rest : List Char}
    (hends : EndsNumber rest) :
    number ((Number.int value fits).text.toList ++ rest) = some (.int value fits, rest) := by
  cases value with
  | ofNat n =>
      have hfits : n < 0x10000000000000000 := by
        have hupper := fits.2
        simp only [Int.ofNat_eq_natCast] at hupper
        omega
      have hvalue : numberOf? false (Nat.toDigits 10 n) [] none = some (.int (.ofNat n) fits) := by
        unfold numberOf?
        rw [gather_toDigits hfits]
        simp only [List.isEmpty_nil, Option.isNone_none, and_self, if_true, Bool.false_eq_true,
          if_false]
        exact ofInt?_of_fits fits
      obtain ⟨c, tail, hdigits⟩ :=
        List.exists_cons_of_ne_nil (Nat.toDigits_ne_nil : Nat.toDigits 10 n ≠ [])
      have hminus : c ≠ '-' := by
        have hdigit : c.isDigit = true := by
          have hmem : c ∈ Nat.toDigits 10 n := by
            rw [hdigits]
            exact List.mem_cons_self
          exact Nat.isDigit_of_mem_toDigits (by decide) (by decide) hmem
        rintro rfl
        exact absurd hdigit (by decide)
      have hread := unsignedNumber_toDigits false n hends
      rw [toList_text_ofNat]
      rw [hvalue, hdigits, List.cons_append, ← number_of_ne_minus hminus, ← List.cons_append,
        ← hdigits] at hread
      exact hread
  | negSucc n =>
      have hlower : n + 1 ≤ 0x8000000000000000 := by
        have hlower := fits.1
        simp only [Int.negSucc_eq] at hlower
        omega
      have hsmall : ¬ (n + 1 = 0 ∨ 0x8000000000000000 < n + 1) := by omega
      have hvalue : numberOf? true (Nat.toDigits 10 (n + 1)) [] none =
          some (.int (.negSucc n) fits) := by
        unfold numberOf?
        rw [gather_toDigits (show n + 1 < 0x10000000000000000 by omega)]
        simp only [List.isEmpty_nil, Option.isNone_none, and_self, if_true, if_neg hsmall]
        exact ofInt?_of_fits fits
      rw [toList_text_negSucc, List.cons_append, number, unsignedNumber_toDigits true _ hends,
        hvalue]
      rfl

end SigilLookup.Json
