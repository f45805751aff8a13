/-
  Waymark.Proofs.Json.Equality

  What equality of JSON values compares.  Values of different kinds differ, and integers and
  floating-point numbers are kinds of their own.  Of floating-point numbers only the two zeros are
  one number in two forms.

  Main statement: `Value.same_iff`, two values are the same if and only if they are equal once
  zeros have lost their sign.
-/

import Waymark.Json.Value

namespace Waymark

namespace Decimal.Binary64

/-- The number, zero in one form. -/
def unsigned (x : Binary64) : Binary64 := if x.isZero then ⟨false, 0, 0⟩ else x

theorem same_iff {x y : Binary64} : x.same y = true ↔ x.unsigned = y.unsigned := by
  rw [same, unsigned, unsigned]
  by_cases hx : x.isZero = true
  · by_cases hy : y.isZero = true
    · simp [hx, hy]
    · -- the form of zero is a zero, and `y` is none
      have hne : (⟨false, 0, 0⟩ : Binary64) ≠ y := by
        rintro rfl
        exact hy rfl
      have hxy : x ≠ y := by
        rintro rfl
        exact hy hx
      simp [hx, hy, hne, hxy]
  · by_cases hy : y.isZero = true
    · have hne : x ≠ ⟨false, 0, 0⟩ := by
        rintro rfl
        exact hx rfl
      have hxy : x ≠ y := by
        rintro rfl
        exact hx hy
      simp [hx, hy, hne, hxy]
    · simp [hx, hy]

end Decimal.Binary64

namespace Json

/-! ## Zeros in one form -/

/-- The number, zero in one form. -/
def Number.unsigned : Number → Number
  | .integer i => .integer i
  | .real x => .real x.unsigned

theorem Number.same_iff {m n : Number} : m.same n = true ↔ m.unsigned = n.unsigned := by
  cases m with
  | integer i =>
    cases n with
    | integer j => simp [same, unsigned]
    | real y => simp [same, unsigned]
  | real x =>
    cases n with
    | integer j => simp [same, unsigned]
    | real y => simp [same, unsigned, Decimal.Binary64.same_iff]

namespace Value

mutual

/-- The value, every zero in it in one form. -/
def unsigned : Value → Value
  | .null => .null
  | .bool b => .bool b
  | .number n => .number n.unsigned
  | .text s => .text s
  | .array items => .array (unsignedItems items)
  | .object fields => .object (unsignedFields fields)

/-- The items of an array, every zero in one form. -/
def unsignedItems : List Value → List Value
  | [] => []
  | v :: vs => v.unsigned :: unsignedItems vs

/-- The fields of an object, every zero in one form. -/
def unsignedFields : List (String × Value) → List (String × Value)
  | [] => []
  | (k, v) :: fs => (k, v.unsigned) :: unsignedFields fs

end

mutual

/-- Values are the same if they are equal but for the sign of zeros. -/
theorem same_iff (v w : Value) : v.same w = true ↔ v.unsigned = w.unsigned := by
  cases v with
  | null => cases w <;> simp [same, unsigned]
  | bool a => cases w <;> simp [same, unsigned]
  | number m => cases w <;> simp [same, unsigned, Number.same_iff]
  | text s => cases w <;> simp [same, unsigned]
  | array vs =>
    cases w with
    | array ws => simp [same, unsigned, sameItems_iff vs ws]
    | _ => simp [same, unsigned]
  | object fs =>
    cases w with
    | object gs => simp [same, unsigned, sameFields_iff fs gs]
    | _ => simp [same, unsigned]

theorem sameItems_iff (vs ws : List Value) :
    sameItems vs ws = true ↔ unsignedItems vs = unsignedItems ws := by
  cases vs with
  | nil => cases ws <;> simp [sameItems, unsignedItems]
  | cons v vs =>
    cases ws with
    | nil => simp [sameItems, unsignedItems]
    | cons w ws =>
      rw [sameItems, Bool.and_eq_true, same_iff v w, sameItems_iff vs ws, unsignedItems,
        unsignedItems, List.cons.injEq]

theorem sameFields_iff (fs gs : List (String × Value)) :
    sameFields fs gs = true ↔ unsignedFields fs = unsignedFields gs := by
  cases fs with
  | nil => cases gs <;> simp [sameFields, unsignedFields]
  | cons f fs =>
    cases gs with
    | nil => simp [sameFields, unsignedFields]
    | cons g gs =>
      obtain ⟨k, v⟩ := f
      obtain ⟨l, w⟩ := g
      rw [sameFields, Bool.and_eq_true, Bool.and_eq_true, beq_iff_eq, same_iff v w,
        sameFields_iff fs gs, unsignedFields, unsignedFields, List.cons.injEq, Prod.mk.injEq]

end

end Value

end Json

end Waymark
