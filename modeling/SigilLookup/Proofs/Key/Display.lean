import Mathlib.Logic.Function.Defs
import SigilLookup.Proofs.Key.Classification

/-!
# Keys and the texts they show

A text is shown again by the key that it is classified as, so no two texts share a key. A key need
not be found again in the text that it shows. This happens exactly if its sigil runs on into its
name, and then the text belongs to a key with a longer sigil and a shorter name
(`Key.sigil_length_lt_of_shadowed`).
-/

namespace SigilLookup

namespace Key

/-- The text of a key that is hidden by another one begins with the longer sigil of the other. -/
theorem sigil_length_lt_of_shadowed {key : Key} (hshadowed : key.Shadowed) :
    key.kind.sigil.length < (parse key.display).kind.sigil.length := by
  have hparsed := classifies_parse key.display
  have hbegins : key.kind.sigil <+: key.display.toList :=
    ⟨key.name.toList, (toList_display key).symm⟩
  apply Nat.lt_of_le_of_ne (hparsed.longest _ hbegins)
  intro hlength
  -- with sigils of one length the parsed key would be the hidden one
  have hkey : key.Classifies key.display := by
    refine ⟨toList_display key, ?_⟩
    rw [hlength]
    exact hparsed.longest
  exact classifies_display_iff.mp hkey hshadowed

/-- What the longer sigil gains, the name loses. -/
theorem length_sigil_add_length_name_parse (key : Key) :
    (parse key.display).kind.sigil.length + (parse key.display).name.length =
      key.kind.sigil.length + key.name.length := by
  have htext : (parse key.display).kind.sigil ++ (parse key.display).name.toList =
      key.kind.sigil ++ key.name.toList :=
    (classifies_parse key.display).text_eq.symm.trans (toList_display key)
  simpa [String.length_toList] using congrArg List.length htext

theorem kind_parse_eq_literal_iff {text : String} :
    (parse text).kind = .literal ↔ ¬ BeginsWithSigilChar text := by
  have hparsed := classifies_parse text
  rw [beginsWithSigilChar_iff]
  constructor
  · rintro hliteral ⟨kind, hkind, hbegins⟩
    have hshort := hparsed.longest kind hbegins
    rw [hliteral] at hshort
    exact hkind (Kind.length_sigil_eq_zero_iff.mp (Nat.le_zero.mp hshort))
  · intro hplain
    by_cases hkind : (parse text).kind = .literal
    · exact hkind
    · exact absurd ⟨_, hkind, _, hparsed.text_eq.symm⟩ hplain

/-- Classification loses nothing: every text is shown again by its key. The other way round, a key is
read off the text that it shows unless it is a constant whose name begins with an exclamation mark or
a literal that begins with a sigil character; such a text is classified as another kind with a
shorter name. The literals are the texts that begin with no sigil character. -/
theorem classification_is_lossless :
    (∀ text, (parse text).display = text) ∧
    Function.Injective parse ∧
    (∀ (kind : Kind) (name : String), parse (display ⟨kind, name⟩) = ⟨kind, name⟩ ↔
      ¬ (kind = .constant ∧ '!' ∈ name.toList.head?) ∧
        ¬ (kind = .literal ∧ BeginsWithSigilChar name)) ∧
    (∀ (kind : Kind) (name : String),
      (kind = .constant ∧ '!' ∈ name.toList.head?) ∨
          (kind = .literal ∧ BeginsWithSigilChar name) →
        (parse (display ⟨kind, name⟩)).kind ≠ kind ∧
          (parse (display ⟨kind, name⟩)).name.length < name.length) ∧
    (∀ rest, parse (display ⟨.constant, "!" ++ rest⟩) = ⟨.fileConstant, rest⟩) ∧
    ∀ text, (parse text).kind = .literal ↔ startsWithSigil text = false := by
  have hdisplay (text : String) : (parse text).display = text :=
    (classifies_parse text).display_eq
  refine ⟨hdisplay, ?_, ?_, ?_, ?_, ?_⟩
  · intro first second hsame
    rw [← hdisplay first, hsame, hdisplay second]
  · intro kind name
    rw [parse_eq_iff, classifies_display_iff, Shadowed, not_or]
  · intro kind name hshadowed
    have hlonger := @sigil_length_lt_of_shadowed ⟨kind, name⟩ hshadowed
    have hlength := length_sigil_add_length_name_parse ⟨kind, name⟩
    refine ⟨?_, ?_⟩
    · intro hkind
      rw [hkind] at hlonger
      exact Nat.lt_irrefl _ hlonger
    · dsimp only at hlonger hlength
      omega
  · intro rest
    apply parse_eq_iff.mpr
    rw [classifies_iff, toList_display]
    simp [Kind.sigil, Shadowed]
  · intro text
    rw [kind_parse_eq_literal_iff, ← startsWithSigil_iff, Bool.not_eq_true]

/-- The literal `!!a` is hidden by the file constant `a`. -/
theorem classification_is_lossless_hiddenLiteral :
    BeginsWithSigilChar "!!a" ∧ parse (display ⟨.literal, "!!a"⟩) = ⟨.fileConstant, "a"⟩ ∧
      (parse (display ⟨.literal, "!!a"⟩)).kind ≠ .literal ∧
      (parse (display ⟨.literal, "!!a"⟩)).name.length < "!!a".length := by
  have hbegins : BeginsWithSigilChar "!!a" := startsWithSigil_iff.mp rfl
  exact ⟨hbegins, rfl, classification_is_lossless.2.2.2.1 .literal "!!a" (.inr ⟨rfl, hbegins⟩)⟩

end Key

end SigilLookup
