import Mathlib.Data.Option.Basic
import Monitra.Library.Word

/-!
# JSON values, as `serde_json` keeps and reads them

A number is a natural number of 64 bits, a negative integer of 64 bits, or a double; what does not fit the first two is a double.
Reading is total: what is not there reads as null.
-/

/-- A number: an integer that fits, or a double by its bits. -/
inductive Json.Number where
  | posInt (n : UInt64)
  | negInt (n : Int64) (h : n < 0)
  | float (bits : UInt64)
  deriving DecidableEq, Repr

/-- A JSON value. The fields of an object are a map; of two of one key in the list the first one counts. -/
inductive Json where
  | null
  | bool (b : Bool)
  | num (n : Json.Number)
  | str (s : String)
  | arr (values : List Json)
  | obj (fields : List (String × Json))
  deriving Repr

namespace Json

/-- The field of an object; none of what is not an object. -/
def get? (key : String) : Json → Option Json
  | .obj fields => fields.lookup key
  | _ => none

/-- `value[key]` -/
def index (key : String) (value : Json) : Json := (value.get? key).getD .null

/-- `Value::as_i64` -/
def asI64 : Json → Option Int64
  | .num (.posInt n) => if n ≤ 0x7fffffffffffffff then some n.toInt64 else none
  | .num (.negInt n _) => some n
  | _ => none

/-- `Value::as_u64` -/
def asU64 : Json → Option UInt64
  | .num (.posInt n) => some n
  | _ => none

/-- `Value::as_array` -/
def asArray : Json → Option (List Json)
  | .arr values => some values
  | _ => none

/-- The integer that a value is, however large. -/
def integer? : Json → Option Int
  | .num (.posInt n) => some n.toNat
  | .num (.negInt n _) => some n.toInt
  | _ => none

/-- The integer that is read is the one there is, if it fits. -/
theorem map_toInt_asI64 (value : Json) :
    value.asI64.map Int64.toInt = value.integer?.filter fun n => decide (n < 2 ^ 63) := by
  cases value with
  | num n =>
    cases n with
    | posInt n =>
      have hbound : n ≤ 0x7fffffffffffffff ↔ n.toNat < 2 ^ 63 := by
        have hconst : (0x7fffffffffffffff : UInt64).toNat = 2 ^ 63 - 1 := by decide +kernel
        rw [UInt64.le_iff_toNat_le, hconst]
        omega
      simp only [asI64, integer?, Option.filter_some]
      by_cases h : n.toNat < 2 ^ 63
      · rw [if_pos (hbound.mpr h), if_pos (decide_eq_true (by omega)), Option.map_some, Word.toInt_toInt64_of_lt h]
      · rw [if_neg (mt hbound.mp h), if_neg (by simpa using by omega), Option.map_none]
    | negInt n h =>
      have hlt := Int64.toInt_lt n
      simp only [asI64, integer?, Option.filter_some, Option.map_some]
      rw [if_pos (decide_eq_true (by omega))]
    | float bits => rfl
  | _ => rfl

/-- With a default of 0 as well. -/
theorem toInt_asI64_getD (value : Json) :
    (value.asI64.getD 0).toInt = (value.integer?.filter fun n => decide (n < 2 ^ 63)).getD 0 := by
  rw [← map_toInt_asI64]
  cases value.asI64 <;> rfl

/-- The array that is read is the one there is. -/
theorem asArray_eq_some_iff {value : Json} {values : List Json} : value.asArray = some values ↔ value = .arr values := by
  cases value <;> simp [asArray]

/-- A field that reads as something is there. -/
theorem index_eq_iff {key : String} {value field : Json} (hne : field ≠ .null) :
    value.index key = field ↔ value.get? key = some field := by
  unfold index
  cases value.get? key with
  | none => simpa using hne.symm
  | some v => simp

end Json
