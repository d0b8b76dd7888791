import ControllerSystem.Lib.TextPointer
import Mathlib.Algebra.Order.Group.Int
import Mathlib.Algebra.Order.Group.Abs
import Mathlib.Data.Rat.Floor

/-!
# The items of cJSON

The struct `cJSON`, with the chain at its `child` pointer as a list, and the `double` it holds as a
type of which only the operations the code uses are known. `CDouble.Exact` is what holds of them for
integers of up to 53 bits.
-/

open Words

namespace ControllerSystem.CJson

/-! ### Doubles -/

/-- The operations on `double` that the code makes. -/
class CDouble (D : Type) where
  /-- The conversion from an `int`. -/
  ofInt : ℤ → D
  /-- `(int)n`; for a double out of range, any `int`. -/
  toInt : D → ℤ
  add : D → D → D
  sub : D → D → D
  mul : D → D → D
  /-- `pow(10.0, x)`. -/
  pow10 : D → D
  fabs : D → D
  floor : D → D
  eq : D → D → Bool
  le : D → D → Bool
  lt : D → D → Bool
  DBL_EPSILON : D
  /-- The literal `1.0e60`, for the exponent 60. -/
  literal : ℤ → D
  /-- `sprintf(str, "%.0f", d)`. -/
  sprintf0f : D → Bytes
  /-- `sprintf(str, "%e", d)`. -/
  sprintfE : D → Bytes
  /-- `sprintf(str, "%f", d)`. -/
  sprintfF : D → Bytes

/-- The integers of up to this size are doubles, and the operations on them are exact. -/
def maxExact : ℤ := 9007199254740992

/-- `INT_MAX`. -/
def intMax : ℤ := 2147483647

/-- `INT_MAX`, for lengths and sizes. -/
def sizeMax : ℕ := 2147483647

/-- `INT_MIN`. -/
def intMin : ℤ := -2147483648

/-- The values of an `int`. -/
def IsInt (i : ℤ) : Prop := intMin ≤ i ∧ i ≤ intMax

instance (i : ℤ) : Decidable (IsInt i) := inferInstanceAs (Decidable (_ ∧ _))

/-- The operations are exact on integers, as the floating-point standard has it. A product that is
zero has a sign, so the factors of one must not be negative. -/
class CDouble.Exact (D : Type) [CDouble D] : Prop where
  add_ofInt : ∀ i j : ℤ, |i| ≤ maxExact → |j| ≤ maxExact → |i + j| ≤ maxExact →
    CDouble.add (CDouble.ofInt i : D) (CDouble.ofInt j) = CDouble.ofInt (i + j)
  sub_ofInt : ∀ i j : ℤ, |i| ≤ maxExact → |j| ≤ maxExact → |i - j| ≤ maxExact →
    CDouble.sub (CDouble.ofInt i : D) (CDouble.ofInt j) = CDouble.ofInt (i - j)
  mul_ofInt : ∀ i j : ℤ, |i| ≤ maxExact → |j| ≤ maxExact → |i * j| ≤ maxExact →
    i * j ≠ 0 ∨ 0 ≤ i ∧ 0 ≤ j →
    CDouble.mul (CDouble.ofInt i : D) (CDouble.ofInt j) = CDouble.ofInt (i * j)
  pow10_zero : CDouble.pow10 (CDouble.ofInt 0 : D) = CDouble.ofInt 1
  fabs_zero : CDouble.fabs (CDouble.ofInt 0 : D) = CDouble.ofInt 0
  eq_zero : ∀ i : ℤ, |i| ≤ maxExact →
    CDouble.eq (CDouble.ofInt i : D) (CDouble.ofInt 0) = decide (i = 0)
  le_ofInt : ∀ i j : ℤ, |i| ≤ maxExact → |j| ≤ maxExact →
    CDouble.le (CDouble.ofInt i : D) (CDouble.ofInt j) = decide (i ≤ j)
  zero_le_epsilon : CDouble.le (CDouble.ofInt 0 : D) CDouble.DBL_EPSILON = true
  toInt_ofInt : ∀ i : ℤ, IsInt i → CDouble.toInt (CDouble.ofInt i : D) = i

/-- The rationals are doubles without rounding; the texts of them are those of integers, cut where a
double has an exponent. -/
instance : CDouble ℚ where
  ofInt i := i
  toInt d := max intMin (min intMax (if 0 ≤ d then ⌊d⌋ else ⌈d⌉))
  add := (· + ·)
  sub := (· - ·)
  mul := (· * ·)
  pow10 d := 10 ^ ⌊d⌋
  fabs d := |d|
  floor d := ⌊d⌋
  eq d e := decide (d = e)
  le d e := decide (d ≤ e)
  lt d e := decide (d < e)
  DBL_EPSILON := 1 / 2 ^ 52
  literal k := 10 ^ k
  sprintf0f d := ascii (toString ⌊d⌋)
  sprintfE d := (ascii (toString ⌊d⌋)).take 63
  sprintfF d := ascii (toString ⌊d⌋)

instance : CDouble.Exact ℚ where
  add_ofInt i j _ _ _ := (Int.cast_add i j).symm
  sub_ofInt i j _ _ _ := (Int.cast_sub i j).symm
  mul_ofInt i j _ _ _ _ := (Int.cast_mul i j).symm
  pow10_zero := by simp [CDouble.pow10, CDouble.ofInt]
  fabs_zero := by simp [CDouble.fabs, CDouble.ofInt]
  eq_zero i _ := by simp [CDouble.eq, CDouble.ofInt]
  le_ofInt i j _ _ := by simp [CDouble.le, CDouble.ofInt]
  zero_le_epsilon := by simp [CDouble.le, CDouble.ofInt, CDouble.DBL_EPSILON]
  toInt_ofInt i hi := by
    obtain ⟨hmin, hmax⟩ := hi
    simp [CDouble.toInt, CDouble.ofInt, hmin, hmax]

/-! ### Items -/

/-- `cJSON_False`. -/
def typeFalse : ℕ := 0

/-- `cJSON_True`. -/
def typeTrue : ℕ := 1

/-- `cJSON_NULL`. -/
def typeNULL : ℕ := 2

/-- `cJSON_Number`. -/
def typeNumber : ℕ := 3

/-- `cJSON_String`. -/
def typeString : ℕ := 4

/-- `cJSON_Array`. -/
def typeArray : ℕ := 5

/-- `cJSON_Object`. -/
def typeObject : ℕ := 6

/-- The struct `cJSON`. The strings are C strings or `NULL`; `child` is the chain of the items in an
array or an object. -/
structure CJSON (D : Type) where
  /-- The type, in the low byte; flags above it. -/
  type : ℕ
  valuestring : Option Bytes
  valueint : ℤ
  valuedouble : D
  /-- The name of a member of an object. -/
  string : Option Bytes
  child : List (CJSON D)

variable {D : Type} [CDouble D]

/-- `cJSON_New_Item`: all bytes are zero. -/
def newItem : CJSON D := ⟨0, none, 0, CDouble.ofInt 0, none, []⟩

end ControllerSystem.CJson
