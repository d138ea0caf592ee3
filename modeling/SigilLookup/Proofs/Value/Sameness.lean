import SigilLookup.Value

/-!
# Equality of values

Two values are equal if they are the same up to the sign of zeros: `0.0` equals `-0.0`, and nothing
else that differs is equal. So with all zeros made positive, equal values are the same value
(`Value.same_iff`), and equality is an equivalence. What is proved of equal values below comes down
to rewriting with this form.
-/

namespace SigilLookup

/-! ### The form without negative zeros -/

def Binary64.unsignedZero (x : Binary64) : Binary64 := if x.isZero then .zero false else x

def Number.unsignedZero : Number → Number
  | .int value fits => .int value fits
  | .float value => .float value.unsignedZero

namespace Json

mutual

/-- The value, with every zero made positive. -/
def unsignedZeros : Json → Json
  | .null => .null
  | .bool value => .bool value
  | .num value => .num value.unsignedZero
  | .str value => .str value
  | .arr items => .arr (itemsUnsignedZeros items)
  | .obj members => .obj (membersUnsignedZeros members)

def itemsUnsignedZeros : List Json → List Json
  | [] => []
  | item :: rest => item.unsignedZeros :: itemsUnsignedZeros rest

def membersUnsignedZeros : List (String × Json) → List (String × Json)
  | [] => []
  | (name, value) :: rest => (name, value.unsignedZeros) :: membersUnsignedZeros rest

end

end Json

def Value.unsignedZeros : Value → Value
  | .json payload => .json payload.unsignedZeros
  | .bytes content => .bytes content

/-! ### Equality -/

theorem Binary64.isZero_zero (negative : Bool) : (zero negative).isZero = true := rfl

theorem Binary64.same_iff {x y : Binary64} :
    x.same y = true ↔ x.unsignedZero = y.unsignedZero := by
  simp only [same, unsignedZero, Bool.or_eq_true, Bool.and_eq_true, beq_iff_eq]
  constructor
  · rintro (rfl | ⟨hx, hy⟩)
    · rfl
    · rw [if_pos hx, if_pos hy]
  · intro hsame
    by_cases hx : x.isZero = true <;> by_cases hy : y.isZero = true
    · exact .inr ⟨hx, hy⟩
    · rw [if_pos hx, if_neg hy] at hsame
      exact absurd (hsame ▸ isZero_zero false) hy
    · rw [if_neg hx, if_pos hy] at hsame
      exact absurd (hsame ▸ isZero_zero false) hx
    · rw [if_neg hx, if_neg hy] at hsame
      exact .inl hsame

theorem Number.same_iff {x y : Number} : x.same y = true ↔ x.unsignedZero = y.unsignedZero := by
  cases x <;> cases y <;> simp [same, unsignedZero, Binary64.same_iff]

namespace Json

mutual

theorem same_iff : ∀ x y : Json, x.same y = true ↔ x.unsignedZeros = y.unsignedZeros
  | .null, y => by cases y <;> simp [same, unsignedZeros]
  | .bool _, y => by cases y <;> simp [same, unsignedZeros]
  | .num _, y => by cases y <;> simp [same, unsignedZeros, Number.same_iff]
  | .str _, y => by cases y <;> simp [same, unsignedZeros]
  | .arr items, y => by
      cases y with
      | arr others => simp [same, unsignedZeros, sameItems_iff items others]
      | _ => simp [same, unsignedZeros]
  | .obj members, y => by
      cases y with
      | obj others => simp [same, unsignedZeros, sameMembers_iff members others]
      | _ => simp [same, unsignedZeros]

theorem sameItems_iff : ∀ xs ys : List Json,
    sameItems xs ys = true ↔ itemsUnsignedZeros xs = itemsUnsignedZeros ys
  | [], ys => by cases ys <;> simp [sameItems, itemsUnsignedZeros]
  | x :: xs, ys => by
      cases ys with
      | nil => simp [sameItems, itemsUnsignedZeros]
      | cons y ys => simp [sameItems, itemsUnsignedZeros, same_iff x y, sameItems_iff xs ys]

theorem sameMembers_iff : ∀ xs ys : List (String × Json),
    sameMembers xs ys = true ↔ membersUnsignedZeros xs = membersUnsignedZeros ys
  | [], ys => by cases ys <;> simp [sameMembers, membersUnsignedZeros]
  | (name, x) :: xs, ys => by
      cases ys with
      | nil => simp [sameMembers, membersUnsignedZeros]
      | cons member ys =>
          obtain ⟨other, y⟩ := member
          simp [sameMembers, membersUnsignedZeros, same_iff x y, sameMembers_iff xs ys]

end

end Json

/-- Values are equal exactly if they are the same once their zeros are made positive. -/
theorem Value.same_iff {x y : Value} : x.same y = true ↔ x.unsignedZeros = y.unsignedZeros := by
  cases x <;> cases y <;> simp [same, unsignedZeros, Json.same_iff]

end SigilLookup
