import Mathlib.Tactic.SplitIfs
import SigilLookup.Text.Utf8

/-!
# The order of UTF-8

Texts are ordered by their code points, one after another. UTF-8 keeps this order: a greater code
point has a greater lead byte, or the same lead byte and greater continuation bytes. So the order of
two texts can be read off their bytes, whichever of the two readings a document's writer had in
mind.
-/

namespace SigilLookup.Utf8

/-- Bytes are compared by the numbers they stand for, and the first difference decides. -/
theorem ofNat_cons_lt_iff {x y : Nat} (hx : x < 256) (hy : y < 256) {xs ys : List UInt8} :
    UInt8.ofNat x :: xs < UInt8.ofNat y :: ys ↔ x < y ∨ x = y ∧ xs < ys := by
  rw [List.cons_lt_cons_iff, UInt8.lt_iff_toNat_lt, ← UInt8.toNat_inj,
    UInt8.toNat_ofNat_of_lt' hx, UInt8.toNat_ofNat_of_lt' hy]

/-- A character that comes before another one decides, whatever follows the two. -/
theorem utf8EncodeChar_append_lt {c d : Char} (hlt : c < d) (xs ys : List UInt8) :
    String.utf8EncodeChar c ++ xs < String.utf8EncodeChar d ++ ys := by
  have hval : c.val.toNat < d.val.toNat := hlt
  have hbound : d.val.toNat < 0x110000 := by
    rcases d.valid with hlow | ⟨-, hhigh⟩
    · exact Nat.lt_trans hlow (by decide)
    · exact hhigh
  -- the bytes are digits to the base 64, so they are written as one quotient after another
  have hthird (value : Nat) : value / 4096 = value / 64 / 64 := by
    rw [Nat.div_div_eq_div_mul]
  have hfourth (value : Nat) : value / 262144 = value / 64 / 64 / 64 := by
    rw [Nat.div_div_eq_div_mul, Nat.div_div_eq_div_mul]
  rw [String.utf8EncodeChar.eq_1 c, String.utf8EncodeChar.eq_1 d]
  simp only [hthird, hfourth]
  -- one case for each pair of lengths; the lesser character is not the longer one
  split_ifs
  all_goals
    first
    | omega
    | simp (disch := omega) only [List.cons_append, List.nil_append, ofNat_cons_lt_iff]
      omega

theorem flatMap_utf8EncodeChar_lt {cs ds : List Char} (hlt : cs < ds) :
    cs.flatMap String.utf8EncodeChar < ds.flatMap String.utf8EncodeChar := by
  induction hlt with
  | @nil d ds =>
      rw [List.flatMap_nil, List.flatMap_cons]
      cases hbytes : String.utf8EncodeChar d with
      | nil => exact absurd hbytes String.utf8EncodeChar_ne_nil
      | cons lead rest => exact List.nil_lt_cons lead _
  | rel hchar =>
      rw [List.flatMap_cons, List.flatMap_cons]
      exact utf8EncodeChar_append_lt hchar _ _
  | @cons c cs ds hrest ih =>
      rw [List.flatMap_cons, List.flatMap_cons]
      exact List.append_left_lt ih

/-- The order of texts by code points is the order of their bytes. -/
theorem encode_lt_encode_iff {first second : String} :
    encode first < encode second ↔ first < second := by
  constructor
  · intro hbytes
    apply String.not_le.mp
    intro hle
    by_cases hgt : second < first
    · exact List.lt_asymm hbytes (flatMap_utf8EncodeChar_lt (String.lt_iff.mp hgt))
    · have heq : first = second := String.le_antisymm (String.not_lt.mp hgt) hle
      subst heq
      exact List.lt_irrefl _ hbytes
  · intro hlt
    exact flatMap_utf8EncodeChar_lt (String.lt_iff.mp hlt)

end SigilLookup.Utf8
