import SigilLookup.Decimal.Numeral

/-!
# Digits

What is read as a natural number consists of digits, and the digits of a number are read as this
number, in every base up to 16.
-/

namespace SigilLookup.Numeral

theorem digitValue?_isSome_of_natural? {base value : Nat} {cs : List Char}
    (hread : natural? base cs = some value) : ∀ c ∈ cs, (digitValue? c).isSome = true := by
  unfold natural? at hread
  split at hread
  case isTrue => cases hread
  case isFalse hnonempty =>
    clear hnonempty
    generalize 0 = start at hread
    induction cs generalizing start with
    | nil => simp
    | cons c rest ih =>
        rw [List.foldlM_cons] at hread
        obtain ⟨next, hnext, hrest⟩ := Option.bind_eq_some_iff.mp hread
        obtain ⟨digit, hdigit, -⟩ := Option.bind_eq_some_iff.mp hnext
        exact List.forall_mem_cons.mpr ⟨by rw [hdigit]; rfl, ih next hrest⟩

theorem digitValue?_digitChar : ∀ digit < 16, digitValue? (Nat.digitChar digit) = some digit := by
  decide

theorem natural?_toDigits {base : Nat} (hleast : 1 < base) (hgreatest : base ≤ 16) (value : Nat) :
    natural? base (Nat.toDigits base value) = some value := by
  have hfold : (Nat.toDigits base value).foldlM (fun value c => do
      let digit ← digitValue? c
      if digit < base then some (value * base + digit) else none) 0 = some value := by
    -- all digits but the last one are the digits of the quotient
    induction value using Nat.strongRecOn with
    | ind value ih =>
        rcases Nat.lt_or_ge value base with hsmall | hlarge
        · rw [Nat.toDigits_of_lt_base hsmall]
          simp [digitValue?_digitChar value (by omega), hsmall]
        · have hquotient : value / base < value := Nat.div_lt_self (by omega) hleast
          have hlast : value % base < base := Nat.mod_lt value (by omega)
          rw [Nat.toDigits_of_base_le hleast hlarge, List.foldlM_append, ih _ hquotient]
          simp [digitValue?_digitChar (value % base) (by omega), hlast, Nat.div_add_mod']
  have hsome : (Nat.toDigits base value).isEmpty = false := by
    rw [List.isEmpty_eq_false_iff]
    exact Nat.toDigits_ne_nil
  simp only [natural?, hsome, Bool.false_eq_true, if_false]
  exact hfold

end SigilLookup.Numeral
