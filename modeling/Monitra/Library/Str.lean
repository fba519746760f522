import Mathlib.Data.List.Basic

/-!
# Strings

The operations of Rust's `str` that have no counterpart with the same behaviour among Lean's own, over Lean's `String`. Both
are sequences of Unicode scalar values that are stored as UTF-8.
-/

namespace Str

/-- `as_bytes`: the UTF-8 encoding. -/
def asBytes (s : String) : List UInt8 := s.toByteArray.data.toList

/-- Strings with the same bytes are equal. -/
theorem asBytes_inj {s t : String} : asBytes s = asBytes t ↔ s = t := by
  constructor
  · intro h
    exact String.toByteArray_inj.mp (ByteArray.ext (Array.toList_inj.mp h))
  · rintro rfl
    rfl

/-- `strip_prefix`: what follows the prefix, if the string starts with it. -/
def stripPrefix (p s : String) : Option String := (p.toList.isPrefixOf? s.toList).map String.ofList

/-- What follows a prefix. -/
theorem stripPrefix_append (p s : String) : stripPrefix p (p ++ s) = some s := by
  have hlist : ∀ p l : List Char, p.isPrefixOf? (p ++ l) = some l := by
    intro p l
    induction p with
    | nil => rfl
    | cons c p ih => rw [List.cons_append, List.isPrefixOf?, if_pos (BEq.refl c), ih]
  rw [stripPrefix, String.toList_append, hlist, Option.map_some, String.ofList_toList]

/-- `starts_with`. -/
def startsWith (p s : String) : Bool := p.toList.isPrefixOf s.toList

/-- `split`: the items between the separators, of which there is one more than there are separators. -/
def split (sep : Char) (s : String) : List String := (s.toList.splitOn sep).map String.ofList

def splitOnceAt (sep : List Char) : List Char → Option (List Char × List Char)
  | [] => if sep.isEmpty then some ([], []) else none
  | c :: cs =>
    if sep.isPrefixOf (c :: cs) then some ([], (c :: cs).drop sep.length)
    else (splitOnceAt sep cs).map fun x => (c :: x.1, x.2)

/-- `split_once`: what stands before the first separator, and what behind it. -/
def splitOnce (sep s : String) : Option (String × String) :=
  (splitOnceAt sep.toList s.toList).map fun x => (String.ofList x.1, String.ofList x.2)

/-- `replacen` with a count of 1: the first occurrence of a pattern is replaced. -/
def replaceOnce (pattern replacement s : String) : String :=
  match splitOnce pattern s with
  | some (front, back) => front ++ replacement ++ back
  | none => s

theorem of_splitOnceAt {sep : List Char} : ∀ {l front back : List Char}, splitOnceAt sep l = some (front, back) →
    l = front ++ sep ++ back
  | [], front, back, h => by
    rw [splitOnceAt] at h
    split at h
    · rename_i hsep
      cases h
      rw [List.isEmpty_iff.mp hsep]
      rfl
    · cases h
  | c :: cs, front, back, h => by
    rw [splitOnceAt] at h
    split at h
    · rename_i hprefix
      cases h
      rw [List.nil_append]
      exact (List.prefix_iff_eq_append.mp (List.isPrefixOf_iff_prefix.mp hprefix)).symm
    · obtain ⟨⟨front', back'⟩, hrest, he⟩ := Option.map_eq_some_iff.mp h
      cases he
      rw [of_splitOnceAt hrest]
      rfl

/-- What is appended stays behind the first separator. -/
theorem splitOnceAt_append {sep : List Char} (m : List Char) : ∀ {l front back : List Char},
    splitOnceAt sep l = some (front, back) → splitOnceAt sep (l ++ m) = some (front, back ++ m)
  | [], front, back, h => by
    rw [splitOnceAt] at h
    split at h
    · rename_i hsep
      cases h
      rw [List.isEmpty_iff.mp hsep]
      cases m <;> rfl
    · cases h
  | c :: cs, front, back, h => by
    have hwhole := of_splitOnceAt h
    rw [splitOnceAt] at h
    rw [List.cons_append, splitOnceAt]
    split at h
    · rename_i hprefix
      cases h
      have hprefix' : sep <+: c :: cs := List.isPrefixOf_iff_prefix.mp hprefix
      have hfound : sep.isPrefixOf (c :: (cs ++ m)) = true :=
        List.isPrefixOf_iff_prefix.mpr (hprefix'.trans (List.prefix_append (c :: cs) m))
      rw [if_pos hfound, ← List.cons_append, List.drop_append_of_le_length hprefix'.length_le]
    · rename_i hprefix
      -- the separator is all in what was there
      have hlength : sep.length ≤ (c :: cs).length := by
        rw [hwhole, List.length_append, List.length_append]
        omega
      have hprefix' : ¬ sep.isPrefixOf (c :: (cs ++ m)) = true := fun h' => hprefix (List.isPrefixOf_iff_prefix.mpr
        (List.prefix_of_prefix_length_le (List.isPrefixOf_iff_prefix.mp h') (List.prefix_append (c :: cs) m) hlength))
      obtain ⟨⟨front', back'⟩, hrest, he⟩ := Option.map_eq_some_iff.mp h
      cases he
      rw [if_neg hprefix', splitOnceAt_append m hrest, Option.map_some]

theorem splitOnce_append {sep s front back : String} (h : splitOnce sep s = some (front, back)) (t : String) :
    splitOnce sep (s ++ t) = some (front, back ++ t) := by
  obtain ⟨⟨front', back'⟩, hsplit, he⟩ := Option.map_eq_some_iff.mp h
  cases he
  rw [splitOnce, String.toList_append, splitOnceAt_append _ hsplit, Option.map_some]
  simp [String.ofList_append]

/-- A string starts with what stands before the separator, and the separator. -/
theorem startsWith_of_splitOnce {sep s front back : String} (h : splitOnce sep s = some (front, back)) :
    startsWith (front ++ sep) s = true := by
  obtain ⟨⟨front', back'⟩, hsplit, he⟩ := Option.map_eq_some_iff.mp h
  cases he
  rw [startsWith, of_splitOnceAt hsplit, String.toList_append, String.toList_ofList, List.isPrefixOf_iff_prefix]
  exact List.prefix_append _ _

/-- `char::is_whitespace`: the characters with the property `White_Space`. -/
def isWhitespace (c : Char) : Bool :=
  ('\t' ≤ c ∧ c ≤ '\r') ∨ c = ' ' ∨ c = '\u0085' ∨ c = '\u00a0' ∨ c = '\u1680' ∨ ('\u2000' ≤ c ∧ c ≤ '\u200a') ∨
    c = '\u2028' ∨ c = '\u2029' ∨ c = '\u202f' ∨ c = '\u205f' ∨ c = '\u3000'

/-- `trim`: the string without the white space at its two ends. -/
def trim (s : String) : String :=
  String.ofList (((s.toList.dropWhile isWhitespace).reverse.dropWhile isWhitespace).reverse)

/-! ## Bytes of ASCII text -/

/-- The bytes of a string are the encodings of its characters, one after the other. -/
theorem asBytes_ofList (l : List Char) : asBytes (String.ofList l) = l.flatMap String.utf8EncodeChar := by
  rw [asBytes, String.toByteArray_ofList, List.utf8Encode, List.data_toByteArray]

/-- An ASCII character is one byte. -/
theorem utf8EncodeChar_of_lt {c : Char} (h : c.toNat < 128) : String.utf8EncodeChar c = [c.val.toUInt8] := by
  refine String.utf8EncodeChar_eq_singleton (Char.utf8Size_eq_one_iff.mpr ?_)
  rw [UInt32.le_iff_toNat_le]
  exact Nat.le_of_lt_succ h

/-- The bytes of ASCII text are those of its characters. -/
theorem asBytes_of_ascii {l : List Char} (h : ∀ c ∈ l, c.toNat < 128) :
    asBytes (String.ofList l) = l.map fun c => c.val.toUInt8 := by
  rw [asBytes_ofList]
  induction l with
  | nil => rfl
  | cons c l ih =>
    rw [List.flatMap_cons, utf8EncodeChar_of_lt (h c List.mem_cons_self), ih fun c hc => h c (List.mem_cons_of_mem _ hc)]
    rfl

/-! ## White space -/

/-- White space behind a string is trimmed. -/
theorem trim_append {l : List Char} {c : Char} (hc : isWhitespace c = true) :
    trim (String.ofList (l ++ [c])) = trim (String.ofList l) := by
  rw [trim, trim, String.toList_ofList, String.toList_ofList, List.dropWhile_append]
  split
  · rename_i hall
    rw [List.isEmpty_iff.mp hall, List.dropWhile_cons_of_pos hc]
    rfl
  · rw [List.reverse_append, List.reverse_singleton, List.singleton_append, List.dropWhile_cons_of_pos hc]

/-- Without white space there is nothing to trim. -/
theorem trim_of_forall {s : String} (h : ∀ c ∈ s.toList, isWhitespace c = false) : trim s = s := by
  have hfront : s.toList.dropWhile isWhitespace = s.toList := by
    cases hl : s.toList with
    | nil => rfl
    | cons c l => exact List.dropWhile_cons_of_neg (by simp [h c (by simp [hl])])
  have hback : s.toList.reverse.dropWhile isWhitespace = s.toList.reverse := by
    cases hl : s.toList.reverse with
    | nil => rfl
    | cons c l => exact List.dropWhile_cons_of_neg (by simp [h c (List.mem_reverse.mp (by simp [hl]))])
  rw [trim, hfront, hback, List.reverse_reverse, String.ofList_toList]

/-- What is trimmed is a part of what there was. -/
theorem sublist_trim (s : String) : (trim s).toList.Sublist s.toList := by
  rw [trim, String.toList_ofList]
  have hfront := List.dropWhile_sublist isWhitespace (l := s.toList)
  have hback := List.dropWhile_sublist isWhitespace (l := (s.toList.dropWhile isWhitespace).reverse)
  rw [← List.reverse_sublist, List.reverse_reverse] at hback
  exact hback.trans hfront

/-! ## Numbers -/

/-- What a string does not parse as an integer with. -/
inductive ParseIntError where
  | empty
  | invalidDigit
  | posOverflow
  deriving DecidableEq, Repr

def ParseIntError.text : ParseIntError → String
  | .empty => "cannot parse integer from empty string"
  | .invalidDigit => "invalid digit found in string"
  | .posOverflow => "number too large to fit in target type"

/-- The digits of a number, one after the other: the first one that is none, or that makes the number too large, ends it. -/
def parseDigits (acc : Nat) : List Char → Except ParseIntError UInt64
  | [] => .ok (UInt64.ofNat acc)
  | c :: cs =>
    if '0' ≤ c ∧ c ≤ '9' then
      let acc := acc * 10 + (c.toNat - '0'.toNat)
      if acc < UInt64.size then parseDigits acc cs else .error .posOverflow
    else .error .invalidDigit

/-- `str::parse::<u64>`: decimal digits behind an optional plus sign. -/
def parseU64 (s : String) : Except ParseIntError UInt64 :=
  match s.toList with
  | [] => .error .empty
  | ['+'] => .error .invalidDigit
  | '+' :: cs => parseDigits 0 cs
  | cs => parseDigits 0 cs

/-- A digit, in decimal. -/
theorem parseDigits_digitChar {acc d : Nat} (hd : d < 10) (hsize : acc * 10 + d < UInt64.size) (cs : List Char) :
    parseDigits acc (d.digitChar :: cs) = parseDigits (acc * 10 + d) cs := by
  have hdigit : '0' ≤ d.digitChar ∧ d.digitChar ≤ '9' := by
    have hnat := Nat.toNat_digitChar_of_lt_ten hd
    rw [Char.le_def, Char.le_def, UInt32.le_iff_toNat_le, UInt32.le_iff_toNat_le]
    change 48 ≤ d.digitChar.toNat ∧ d.digitChar.toNat ≤ 57
    omega
  have hvalue : d.digitChar.toNat - '0'.toNat = d := Nat.toNat_digitChar_sub_48_of_lt_ten hd
  rw [parseDigits, if_pos hdigit]
  simp only [hvalue, if_pos hsize]

/-- The digits of a number are parsed as the number. -/
theorem parseDigits_toDigits (n : Nat) (hn : n < UInt64.size) (cs : List Char) :
    parseDigits 0 (Nat.toDigits 10 n ++ cs) = parseDigits n cs := by
  induction n using Nat.strongRecOn generalizing cs with
  | ind n ih =>
    rw [Nat.toDigits_eq_if (by decide)]
    split
    · rename_i hlt
      rw [List.singleton_append, parseDigits_digitChar hlt (by omega), Nat.zero_mul, Nat.zero_add]
    · rename_i hge
      rw [List.append_assoc, ih (n / 10) (by omega) (by omega), List.singleton_append,
        parseDigits_digitChar (Nat.mod_lt _ (by decide)) (by omega)]
      congr 1
      omega

/-- The text of a number is its digits. -/
theorem toList_toString (v : UInt64) : (toString v).toList = Nat.toDigits 10 v.toNat := Nat.toList_repr

theorem isDigit_of_mem_toString {v : UInt64} {c : Char} (h : c ∈ (toString v).toList) : c.isDigit = true :=
  Nat.isDigit_of_mem_toDigits (by decide) (by decide) (toList_toString v ▸ h)

/-- There is one digit at least. -/
theorem isEmpty_toString (v : UInt64) : (toString v).isEmpty = false := by
  rw [String.isEmpty_eq_false_iff]
  intro hempty
  have hlist := toList_toString v
  rw [hempty] at hlist
  exact Nat.toDigits_ne_nil hlist.symm

/-- A number is parsed from its text. -/
theorem parseU64_toString (v : UInt64) : parseU64 (toString v) = .ok v := by
  have hplus : ∀ l, (toString v).toList ≠ '+' :: l := fun l h => absurd (isDigit_of_mem_toString (h ▸ List.mem_cons_self)) (by decide)
  have hparse : parseDigits 0 (Nat.toDigits 10 v.toNat) = .ok v := by
    have h := parseDigits_toDigits v.toNat v.toNat_lt []
    rw [List.append_nil] at h
    rw [h, parseDigits, UInt64.ofNat_toNat]
  unfold parseU64
  split
  · rename_i h
    exact absurd (toList_toString v ▸ h) Nat.toDigits_ne_nil
  · exact absurd ‹_› (hplus [])
  · exact absurd ‹_› (hplus _)
  · rw [toList_toString]
    exact hparse

/-- The digits of a number below a bound, in the same way. -/
def parseDigitsBelow (size acc : Nat) : List Char → Except ParseIntError Nat
  | [] => .ok acc
  | c :: cs =>
    if '0' ≤ c ∧ c ≤ '9' then
      let acc := acc * 10 + (c.toNat - '0'.toNat)
      if acc < size then parseDigitsBelow size acc cs else .error .posOverflow
    else .error .invalidDigit

/-- `str::parse::<u32>`. -/
def parseU32 (s : String) : Except ParseIntError UInt32 :=
  match s.toList with
  | [] => .error .empty
  | ['+'] => .error .invalidDigit
  | '+' :: cs => (parseDigitsBelow UInt32.size 0 cs).map UInt32.ofNat
  | cs => (parseDigitsBelow UInt32.size 0 cs).map UInt32.ofNat

example : stripPrefix "Bearer " "Bearer abc" = some "abc" ∧ split ',' "a,b" = ["a", "b"] ∧ trim " a b\t" = "a b" := by
  decide +kernel

end Str
