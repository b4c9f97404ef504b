import Mathlib.Data.List.TakeWhile

/-!
# Decimal text of machine integers

Integers are printed in decimal and read back from the start of a text, as
the standard library of C++ does.  Reading skips white space, takes a sign and
the digits behind it, and fails without a digit or outside the range of a
32-bit `int`.
-/

namespace DecimalText

/-- The byte of an ASCII character. -/
def byteOf (character : Char) : UInt8 := UInt8.ofNat character.toNat

def charOf (byte : UInt8) : Char := Char.ofNat byte.toNat

/-- White space in the C locale. -/
def isspace (byte : UInt8) : Bool :=
  byte == 32 || (decide (9 ≤ byte) && decide (byte ≤ 13))

def isdigit (byte : UInt8) : Bool :=
  decide (48 ≤ byte) && decide (byte ≤ 57)

def digits (value : Nat) : List UInt8 := (Nat.toDigits 10 value).map byteOf

/-- `to_string`. -/
def toString (value : Int) : List UInt8 :=
  if value < 0 then byteOf '-' :: digits value.natAbs
  else digits value.natAbs

inductive ReadException where
  | invalidArgument
  | outOfRange
deriving DecidableEq

/-- Whether the text has a minus sign, and what is behind its sign. -/
def readSign : List UInt8 → Bool × List UInt8
  | [] => (false, [])
  | byte :: text =>
      if byte = byteOf '-' then (true, text)
      else if byte = byteOf '+' then (false, text)
      else (false, byte :: text)

/-- `stoi`. -/
def stoi (text : List UInt8) : Except ReadException Int :=
  let signed := readSign (text.dropWhile isspace)
  let read := signed.2.takeWhile isdigit
  if read.isEmpty then .error .invalidArgument
  else
    let magnitude : Int := Nat.ofDigitChars 10 (read.map charOf) 0
    let value := if signed.1 then -magnitude else magnitude
    if -2147483648 ≤ value ∧ value ≤ 2147483647 then .ok value
    else .error .outOfRange

/-! ## Printing and reading back -/

theorem toNat_byteOf {character : Char} (small : character.toNat < 256) :
    (byteOf character).toNat = character.toNat := by
  rw [byteOf, UInt8.toNat_ofNat', Nat.mod_eq_of_lt small]

theorem charOf_byteOf {character : Char} (small : character.toNat < 256) :
    charOf (byteOf character) = character := by
  rw [charOf, toNat_byteOf small, Char.ofNat_toNat]

theorem bounds_of_mem_toDigits {value : Nat} {character : Char}
    (member : character ∈ Nat.toDigits 10 value) :
    48 ≤ character.toNat ∧ character.toNat ≤ 57 := by
  have digit := Nat.isDigit_of_mem_toDigits (by decide) (by decide) member
  simp only [Char.isDigit, Bool.and_eq_true, decide_eq_true_eq,
    UInt32.le_iff_toNat_le] at digit
  exact digit

theorem bounds_of_mem_digits {value : Nat} {byte : UInt8}
    (member : byte ∈ digits value) : 48 ≤ byte.toNat ∧ byte.toNat ≤ 57 := by
  obtain ⟨character, inDigits, rfl⟩ := List.mem_map.mp member
  obtain ⟨low, high⟩ := bounds_of_mem_toDigits inDigits
  rw [toNat_byteOf (by omega)]
  exact ⟨low, high⟩

theorem isdigit_of_mem_digits {value : Nat} {byte : UInt8}
    (member : byte ∈ digits value) : isdigit byte = true := by
  obtain ⟨low, high⟩ := bounds_of_mem_digits member
  simp only [isdigit, Bool.and_eq_true, decide_eq_true_eq,
    UInt8.le_iff_toNat_le]
  exact ⟨low, high⟩

theorem not_isspace_of_lt {byte : UInt8} (low : 32 < byte.toNat) :
    isspace byte = false := by
  have notBlank : byte ≠ 32 := by
    rintro rfl
    exact absurd low (by decide)
  have behind : ¬ byte ≤ 13 := by
    rw [UInt8.le_iff_toNat_le]
    exact Nat.not_le.mpr (Nat.lt_trans (by decide) low)
  simp [isspace, notBlank, behind]

theorem digits_ne_nil (value : Nat) : digits value ≠ [] := by
  simp [digits, Nat.toDigits_ne_nil]

theorem ofDigitChars_digits (value : Nat) :
    Nat.ofDigitChars 10 ((digits value).map charOf) 0 = value := by
  have same : (digits value).map charOf = Nat.toDigits 10 value := by
    rw [digits, List.map_map]
    have each : (Nat.toDigits 10 value).map (charOf ∘ byteOf) =
        (Nat.toDigits 10 value).map id := by
      apply List.map_congr_left
      intro character member
      have bounds := bounds_of_mem_toDigits member
      exact charOf_byteOf (by omega)
    rw [each, List.map_id]
  rw [same, Nat.ofDigitChars_ten_toDigits]

/-- No byte of a printed integer is white space. -/
theorem not_isspace_toString {value : Int} {byte : UInt8}
    (member : byte ∈ toString value) : isspace byte = false := by
  apply not_isspace_of_lt
  unfold toString at member
  split at member
  · rcases List.mem_cons.mp member with rfl | inDigits
    · decide
    · have := bounds_of_mem_digits inDigits
      omega
  · have := bounds_of_mem_digits member
    omega

theorem readSign_digits (value : Nat) :
    readSign (digits value) = (false, digits value) := by
  cases text : digits value with
  | nil => rfl
  | cons byte rest =>
      have member : byte ∈ digits value := by simp [text]
      obtain ⟨low, _⟩ := bounds_of_mem_digits member
      have notMinus : byte ≠ byteOf '-' := by
        rintro rfl
        exact absurd low (by decide)
      have notPlus : byte ≠ byteOf '+' := by
        rintro rfl
        exact absurd low (by decide)
      rw [readSign, if_neg notMinus, if_neg notPlus]

theorem takeWhile_digits (value : Nat) :
    (digits value).takeWhile isdigit = digits value :=
  List.takeWhile_eq_self_iff.mpr fun _ member => isdigit_of_mem_digits member

theorem readSign_toString (value : Int) :
    readSign (toString value) = (decide (value < 0), digits value.natAbs) := by
  unfold toString
  split
  · next negative =>
      rw [readSign, if_pos rfl, decide_eq_true negative]
  · next nonnegative =>
      rw [readSign_digits, decide_eq_false nonnegative]

/-- An `int` is read back from its text. -/
theorem stoi_toString {value : Int} (low : -2147483648 ≤ value)
    (high : value ≤ 2147483647) : stoi (toString value) = .ok value := by
  have noSpace : (toString value).dropWhile isspace = toString value := by
    apply List.dropWhile_eq_self_iff.mpr
    intro nonempty
    rw [not_isspace_toString (List.getElem_mem nonempty)]
    exact Bool.false_ne_true
  have nonempty : (digits value.natAbs).isEmpty = false := by
    simpa using digits_ne_nil value.natAbs
  have signed :
      (if decide (value < 0) = true then -(value.natAbs : Int)
        else value.natAbs) = value := by
    split
    · next negative =>
        have := of_decide_eq_true negative
        omega
    · next nonnegative =>
        have := of_decide_eq_false (Bool.eq_false_iff.mpr nonnegative)
        omega
  simp only [stoi, noSpace, readSign_toString, takeWhile_digits, nonempty,
    Bool.false_eq_true, if_false, ofDigitChars_digits]
  rw [signed, if_pos ⟨low, high⟩]

/-- What is read is within the range of the type. -/
theorem bounds_of_stoi {text : List UInt8} {value : Int}
    (read : stoi text = .ok value) :
    -2147483648 ≤ value ∧ value ≤ 2147483647 := by
  simp only [stoi] at read
  split_ifs at read with empty negative inRange inRange
  · cases read
    exact inRange
  · cases read
    exact inRange

end DecimalText
