import Monitra.Library.Json

/-!
# Derived serialization (`serde`)

The JSON that `serde`'s derived implementations write and read, for structs, vectors, unit variants and internally tagged enums,
with `flatten` and `rename_all`. A struct reads each of its fields exactly once and passes over the others. Of an internally tagged
enum the tag is a field beside the fields of the variant, so that flattened into a struct it stands with the struct's own fields.
-/

namespace Serde

/-- What a value is not read for. -/
inductive Error where
  | invalidType (expected : String)
  | missingField (key : String)
  | duplicateField (key : String)
  | unknownVariant (name : String)
  deriving DecidableEq, Repr

variable {α β : Type}

/-! ## Scalars and vectors -/

def u64 (n : UInt64) : Json := .num (.posInt n)

def readU64 : Json → Except Error UInt64
  | .num (.posInt n) => .ok n
  | _ => .error (.invalidType "u64")

def readStr : Json → Except Error String
  | .str s => .ok s
  | _ => .error (.invalidType "a string")

def vec (write : α → Json) (items : List α) : Json := .arr (items.map write)

def readVec (read : Json → Except Error α) : Json → Except Error (List α)
  | .arr values => values.mapM read
  | _ => .error (.invalidType "a sequence")

def readBool : Json → Except Error Bool
  | .bool b => .ok b
  | _ => .error (.invalidType "a boolean")

/-- A `usize`, which has 64 bits. -/
def usize (n : Nat) : Json := u64 (UInt64.ofNat n)

def readUsize (value : Json) : Except Error Nat := (readU64 value).map UInt64.toNat

/-- An option is null when it is none. -/
def option (write : α → Json) (value : Option α) : Json := value.elim .null write

def readOption (read : Json → Except Error α) : Json → Except Error (Option α)
  | .null => .ok none
  | value => (read value).map some

@[simp] theorem readU64_u64 (n : UInt64) : readU64 (u64 n) = .ok n := rfl

@[simp] theorem readStr_str (s : String) : readStr (.str s) = .ok s := rfl

@[simp] theorem readBool_bool (b : Bool) : readBool (.bool b) = .ok b := rfl

/-- A `usize` is read as written. -/
theorem readUsize_usize {n : Nat} (h : n < 2 ^ 64) : readUsize (usize n) = .ok n := by
  rw [readUsize, usize, readU64_u64, Except.map, UInt64.toNat_ofNat_of_lt' h]

/-- An option of a string is read as written. -/
@[simp] theorem readOption_str (value : Option String) : readOption readStr (option .str value) = .ok value := by
  cases value <;> rfl

/-- An option of a number is read as written. -/
@[simp] theorem readOption_u64 (value : Option UInt64) : readOption readU64 (option u64 value) = .ok value := by
  cases value <;> rfl

/-- A vector is read as written when its items are. -/
theorem readVec_vec {write : α → Json} {read : Json → Except Error β} {f : α → β} (h : ∀ x, read (write x) = .ok (f x))
    (items : List α) : readVec read (vec write items) = .ok (items.map f) := by
  unfold readVec vec
  dsimp only
  induction items with
  | nil => rfl
  | cons x items ih =>
    rw [List.map_cons, List.mapM_cons, h, ih]
    rfl

/-! ## Fields -/

def readFields : Json → Except Error (List (String × Json))
  | .obj fields => .ok fields
  | _ => .error (.invalidType "a map")

/-- The value of the one field of a key, and the other fields. -/
def takeField (key : String) (fields : List (String × Json)) : Except Error (Json × List (String × Json)) :=
  match fields.filter fun field => field.1 = key with
  | [] => .error (.missingField key)
  | [(_, value)] => .ok (value, fields.filter fun field => field.1 ≠ key)
  | _ => .error (.duplicateField key)

/-- The value of the one field of a key. -/
def readField (read : Json → Except Error α) (key : String) (fields : List (String × Json)) : Except Error α := do
  let (value, _) ← takeField key fields
  read value

/-- A field that is an option may be absent, which is read as null is. -/
def readFieldOption (read : Json → Except Error α) (key : String) (fields : List (String × Json)) : Except Error (Option α) :=
  if fields.any fun field => field.1 = key then readField (readOption read) key fields else .ok none

@[simp] theorem readFields_obj (fields : List (String × Json)) : readFields (.obj fields) = .ok fields := rfl

/-- The first field, when no other has its key. -/
theorem takeField_cons {key : String} {value : Json} {fields : List (String × Json)} (h : ∀ field ∈ fields, field.1 ≠ key) :
    takeField key ((key, value) :: fields) = .ok (value, fields) := by
  have hnone : (fields.filter fun field => decide (field.1 = key)) = [] := by
    simpa [List.filter_eq_nil_iff] using h
  have hall : (fields.filter fun field => decide (field.1 ≠ key)) = fields := by
    simpa [List.filter_eq_self] using h
  rw [takeField, List.filter_cons_of_pos (by simp), hnone, List.filter_cons_of_neg (by simp), hall]

/-! ## Enums -/

/-- The characters of a variant's name in snake case. -/
def snakeChars : List Char → List Char
  | [] => []
  | c :: cs => c.toLower :: cs.flatMap fun c => if c.isUpper then ['_', c.toLower] else [c.toLower]

/-- `rename_all = "snake_case"`, for a variant with an ASCII name. -/
def snakeCase (name : String) : String := String.ofList (snakeChars name.toList)

/-- The fields of a variant of an internally tagged enum. -/
def tagged (tag name : String) (fields : List (String × Json)) : List (String × Json) := (tag, .str name) :: fields

/-- The name of the variant, and its fields. -/
def untag (tag : String) (fields : List (String × Json)) : Except Error (String × List (String × Json)) := do
  let (value, fields) ← takeField tag fields
  let name ← readStr value
  return (name, fields)

/-- The tag is read as written when no field of the variant has its key. -/
theorem untag_tagged {tag name : String} {fields : List (String × Json)} (h : ∀ field ∈ fields, field.1 ≠ tag) :
    untag tag (tagged tag name fields) = .ok (name, fields) := by
  rw [untag, tagged, takeField_cons h]
  rfl

end Serde
