import CWUSB.Library.DecimalText

/-!
# Hexadecimal text

Numbers are printed with lower-case digits and filled up with zeros to a
width, which longer numbers exceed, as the stream manipulators `hex`, `setw`
and `setfill` of C++ do, and are read back from all of their digits.
-/

namespace HexText

open DecimalText (byteOf)

def digits (value : Nat) : List UInt8 := (Nat.toDigits 16 value).map byteOf

/-- `setfill('0') << setw(width)`. -/
def padded (width value : Nat) : List UInt8 :=
  List.replicate (width - (digits value).length) (byteOf '0') ++ digits value

def digitValue (byte : UInt8) : Option Nat :=
  if 48 ≤ byte.toNat ∧ byte.toNat ≤ 57 then some (byte.toNat - 48)
  else if 97 ≤ byte.toNat ∧ byte.toNat ≤ 102 then some (byte.toNat - 87)
  else none

/-- The value of digits behind those of a value. -/
def valueFrom (value : Nat) : List UInt8 → Option Nat
  | [] => some value
  | byte :: text =>
      (digitValue byte).bind fun digit => valueFrom (16 * value + digit) text

/-! ## Printing and reading back -/

theorem digitValue_digitChar {digit : Nat} (small : digit < 16) :
    digitValue (byteOf digit.digitChar) = some digit := by
  have all : ∀ digit : Fin 16,
      digitValue (byteOf digit.val.digitChar) = some digit.val := by
    decide
  exact all ⟨digit, small⟩

theorem valueFrom_append (value : Nat) (first second : List UInt8) :
    valueFrom value (first ++ second) =
      (valueFrom value first).bind fun middle => valueFrom middle second := by
  induction first generalizing value with
  | nil => rfl
  | cons byte first induction =>
      rw [List.cons_append, valueFrom, valueFrom, Option.bind_assoc]
      congr 1
      funext digit
      exact induction _

theorem digits_of_lt {value : Nat} (small : value < 16) :
    digits value = [byteOf value.digitChar] := by
  rw [digits, Nat.toDigits_of_lt_base small]
  rfl

theorem digits_of_le {value : Nat} (large : 16 ≤ value) :
    digits value =
      digits (value / 16) ++ [byteOf (value % 16).digitChar] := by
  rw [digits, Nat.toDigits_of_base_le (by decide) large, List.map_append]
  rfl

theorem valueFrom_digits (value : Nat) :
    valueFrom 0 (digits value) = some value := by
  induction value using Nat.strongRecOn with
  | ind value induction =>
      by_cases small : value < 16
      · rw [digits_of_lt small, valueFrom, digitValue_digitChar small]
        simp [valueFrom]
      · have shorter := induction (value / 16) (by omega)
        rw [digits_of_le (by omega), valueFrom_append, shorter,
          Option.bind_some, valueFrom,
          digitValue_digitChar (Nat.mod_lt value (by decide)),
          Option.bind_some, valueFrom, Nat.div_add_mod]

/-- Zeros in front do not count. -/
theorem valueFrom_padded (width value : Nat) :
    valueFrom 0 (padded width value) = some value := by
  have zeros (count : Nat) :
      valueFrom 0 (List.replicate count (byteOf '0')) = some 0 := by
    induction count with
    | zero => rfl
    | succ count induction => exact induction
  rw [padded, valueFrom_append, zeros, Option.bind_some, valueFrom_digits]

/-- An octet has two digits. -/
theorem padded_octet {value : Nat} (octet : value < 256) :
    padded 2 value =
      [byteOf (value / 16).digitChar, byteOf (value % 16).digitChar] := by
  by_cases small : value < 16
  · have high : value / 16 = 0 := Nat.div_eq_of_lt small
    rw [padded, digits_of_lt small, high, Nat.mod_eq_of_lt small]
    rfl
  · rw [padded, digits_of_le (by omega), digits_of_lt (by omega)]
    rfl

/-- What is read consists of digits. -/
theorem isSome_of_valueFrom {value result : Nat} {text : List UInt8}
    (read : valueFrom value text = some result) {byte : UInt8}
    (member : byte ∈ text) : (digitValue byte).isSome = true := by
  induction text generalizing value with
  | nil => cases member
  | cons first text induction =>
      obtain ⟨digit, isDigit, rest⟩ := Option.bind_eq_some_iff.mp read
      rcases List.mem_cons.mp member with rfl | later
      · rw [isDigit]
        rfl
      · exact induction rest later

end HexText
