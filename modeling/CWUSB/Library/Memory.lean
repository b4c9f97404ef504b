import Mathlib.Data.List.Basic
import Mathlib.Data.List.TakeDrop

/-!
# Fixed arrays, block copies and machine integers

A fixed array carries its size.  Writing a block keeps the part that lands
inside the array; the record of a copy says separately whether the whole
block was in bounds on both sides.  Words are stored with the least
significant byte first, and integers convert between the fixed widths by
wrapping.
-/

/-- An array whose number of items never changes. -/
structure FixedArray (α : Type u) (size : Nat) where
  items : List α
  length_items : items.length = size
deriving DecidableEq

namespace FixedArray

variable {α : Type u} {size : Nat}

@[ext] theorem ext {left right : FixedArray α size}
    (same : left.items = right.items) : left = right := by
  cases left
  cases right
  simpa using same

def fill (size : Nat) (item : α) : FixedArray α size :=
  { items := List.replicate size item
    length_items := List.length_replicate }

/-- The items `offset, …, offset + count - 1`, as far as they exist. -/
def slice (array : FixedArray α size) (offset count : Nat) : List α :=
  (array.items.drop offset).take count

/-- Write a block at an offset, keeping the part inside the array. -/
def overwrite (array : FixedArray α size) (offset : Nat)
    (block : List α) : FixedArray α size :=
  { items :=
      (array.items.take offset ++ block ++
        array.items.drop (offset + block.length)).take size
    length_items := by
      have length := array.length_items
      simp only [List.length_take, List.length_append, List.length_drop]
      omega }

theorem length_slice (array : FixedArray α size) (offset count : Nat) :
    (array.slice offset count).length = min count (size - offset) := by
  simp [slice, array.length_items]

theorem length_slice_of_le {array : FixedArray α size}
    {offset count : Nat} (within : offset + count ≤ size) :
    (array.slice offset count).length = count := by
  rw [length_slice]
  omega

theorem drop_slice (array : FixedArray α size)
    (offset count skipped : Nat) :
    (array.slice offset count).drop skipped =
      array.slice (offset + skipped) (count - skipped) := by
  simp [slice, List.drop_take, List.drop_drop]

theorem take_slice (array : FixedArray α size)
    (offset count kept : Nat) :
    (array.slice offset count).take kept =
      array.slice offset (min kept count) := by
  simp [slice, List.take_take]

/-- Arrays with the same items at the start are read alike there. -/
theorem slice_eq_of_start {left right : FixedArray α size} {shared : Nat}
    (same : left.slice 0 shared = right.slice 0 shared)
    {offset count : Nat} (within : offset + count ≤ shared) :
    left.slice offset count = right.slice offset count := by
  have part :
      ((left.slice 0 shared).drop offset).take count =
        ((right.slice 0 shared).drop offset).take count := by
    rw [same]
  simpa only [drop_slice, take_slice, Nat.zero_add,
    Nat.min_eq_left (Nat.le_sub_of_add_le' within)] using part

private theorem items_overwrite {array : FixedArray α size}
    {offset : Nat} {block : List α}
    (within : offset + block.length ≤ size) :
    (array.overwrite offset block).items =
      array.items.take offset ++ block ++
        array.items.drop (offset + block.length) := by
  have length := array.length_items
  apply List.take_of_length_le
  simp only [List.length_append, List.length_take, List.length_drop]
  omega

/-- What lies before a written block is kept, and the block follows it. -/
theorem slice_overwrite {array : FixedArray α size}
    {offset : Nat} {block : List α}
    (within : offset + block.length ≤ size) :
    (array.overwrite offset block).slice 0 (offset + block.length) =
      array.slice 0 offset ++ block := by
  have length := array.length_items
  have prefixLength :
      (array.items.take offset ++ block).length = offset + block.length := by
    simp only [List.length_append, List.length_take]
    omega
  rw [slice, items_overwrite within, List.drop_zero, ← prefixLength,
    List.take_left]
  simp [slice]

theorem slice_overwrite_zero {array : FixedArray α size}
    {block : List α} (within : block.length ≤ size) :
    (array.overwrite 0 block).slice 0 block.length = block := by
  have written : (array.overwrite 0 block).slice 0 (0 + block.length) =
      array.slice 0 0 ++ block :=
    slice_overwrite (by omega)
  simpa [slice] using written

/-- Reading inside a block written at the start reads the block. -/
theorem slice_overwrite_inside {array : FixedArray α size}
    {block : List α} {offset count : Nat} (within : block.length ≤ size)
    (inside : offset + count ≤ block.length) :
    (array.overwrite 0 block).slice offset count =
      (block.drop offset).take count := by
  have whole : (array.overwrite 0 block).slice 0 block.length = block :=
    slice_overwrite_zero within
  have part :
      (((array.overwrite 0 block).slice 0 block.length).drop offset).take
          count =
        (block.drop offset).take count := by
    rw [whole]
  rw [drop_slice, take_slice] at part
  rw [← part, Nat.zero_add, Nat.min_eq_left (by omega)]

/-- What lies before a written block is kept. -/
theorem slice_overwrite_before {array : FixedArray α size}
    {start count offset : Nat} {block : List α}
    (before : start + count ≤ offset) (within : offset ≤ size) :
    (array.overwrite offset block).slice start count =
      array.slice start count := by
  have length := array.length_items
  apply List.ext_getElem?
  intro index
  by_cases inside : index < count
  · simp only [slice, overwrite, List.getElem?_take, List.getElem?_drop,
      inside, if_true]
    rw [if_pos (by omega), List.append_assoc, List.getElem?_append_left (by
      rw [List.length_take]
      omega), List.getElem?_take, if_pos (by omega)]
  · simp only [slice, List.getElem?_take, if_neg inside]

/-- A written block is read back. -/
theorem slice_overwrite_at {array : FixedArray α size} {offset : Nat}
    {block : List α} (within : offset + block.length ≤ size) :
    (array.overwrite offset block).slice offset block.length = block := by
  have written : ((array.overwrite offset block).slice 0
      (offset + block.length)).drop offset =
        (array.slice 0 offset ++ block).drop offset := by
    rw [slice_overwrite within]
  rw [drop_slice, List.drop_left' (length_slice_of_le (by omega))] at written
  simpa using written

end FixedArray

/-- The extent of one block copy: how many items, from where in an area of
which size, to where in an area of which size. -/
structure BlockCopy where
  targetSize : Nat
  targetOffset : Nat
  sourceSize : Nat
  sourceOffset : Nat
  count : Nat
deriving DecidableEq

namespace BlockCopy

/-- The copy neither writes nor reads past the end of an area. -/
def InBounds (copy : BlockCopy) : Prop :=
  copy.targetOffset + copy.count ≤ copy.targetSize ∧
    copy.sourceOffset + copy.count ≤ copy.sourceSize

instance (copy : BlockCopy) : Decidable copy.InBounds :=
  inferInstanceAs (Decidable (_ ∧ _))

end BlockCopy

/-! ## Little-endian words -/

/-- The four bytes of a 32-bit word, least significant first. -/
def wordBytes (word : Nat) : List UInt8 :=
  [UInt8.ofNat word, UInt8.ofNat (word / 256),
    UInt8.ofNat (word / 65536), UInt8.ofNat (word / 16777216)]

/-- The 32-bit word the first four bytes store. -/
def bytesWord : List UInt8 → Nat
  | first :: second :: third :: fourth :: _ =>
      first.toNat + 256 * second.toNat + 65536 * third.toNat +
        16777216 * fourth.toNat
  | _ => 0

@[simp] theorem length_wordBytes (word : Nat) :
    (wordBytes word).length = 4 := rfl

theorem bytesWord_wordBytes_append {word : Nat}
    (small : word < 4294967296) (rest : List UInt8) :
    bytesWord (wordBytes word ++ rest) = word := by
  simp only [wordBytes, List.cons_append, bytesWord, UInt8.toNat_ofNat']
  omega

theorem bytesWord_lt (bytes : List UInt8) :
    bytesWord bytes < 4294967296 := by
  unfold bytesWord
  split
  · next first second third fourth _ =>
      have := first.toNat_lt
      have := second.toNat_lt
      have := third.toNat_lt
      have := fourth.toNat_lt
      omega
  · decide

/-- Only the first four bytes matter. -/
theorem bytesWord_take (bytes : List UInt8) :
    bytesWord (bytes.take 4) = bytesWord bytes := by
  rcases bytes with _ | ⟨_, _ | ⟨_, _ | ⟨_, _ | ⟨_, _⟩⟩⟩⟩ <;> rfl

/-! ## Conversions between machine integers -/

/-- A signed value converted to a 32-bit unsigned integer. -/
def toUnsigned (value : Int) : Nat := (value % 4294967296).toNat

/-- A value converted to a 32-bit signed integer. -/
def toSigned (value : Int) : Int := value.bmod 4294967296

/-- A signed value converted to a 64-bit size. -/
def toSize (value : Int) : Nat := (value % 18446744073709551616).toNat

@[simp] theorem toUnsigned_natCast (value : Nat) :
    toUnsigned (value : Int) = value % 4294967296 := by
  unfold toUnsigned
  omega

/-- What is left of a length behind an offset. -/
theorem toUnsigned_behind {count offset rest : Nat}
    (sum : count = offset + rest) (small : count < 4294967296) :
    toUnsigned ((count : Int) - (offset : Int)) = rest := by
  have difference : (count : Int) - (offset : Int) = (rest : Nat) := by
    omega
  rw [difference, toUnsigned_natCast]
  omega

theorem toSigned_of_range {value : Int} (low : -2147483648 ≤ value)
    (high : value < 2147483648) : toSigned value = value := by
  unfold toSigned
  exact Int.bmod_eq_of_le (by omega) (by omega)

theorem toSigned_lt (value : Int) : toSigned value < 2147483648 := by
  unfold toSigned
  exact Int.bmod_lt (by decide)

/-- A value beyond the largest signed one wraps around to a negative one. -/
theorem toSigned_neg {value : Int} (low : 2147483648 ≤ value)
    (high : value < 4294967296) : toSigned value < 0 := by
  unfold toSigned
  rw [Int.bmod_eq_emod, Int.emod_eq_of_lt (by omega) (by omega),
    if_pos (by omega)]
  omega

theorem toUnsigned_toSigned {word : Nat} (small : word < 4294967296) :
    toUnsigned (toSigned word) = word := by
  have same : toSigned word % 4294967296 = (word : Int) % 4294967296 :=
    Int.bmod_emod
  unfold toUnsigned
  rw [same]
  omega

theorem toSize_of_range {value : Int} (nonnegative : 0 ≤ value)
    (small : value < 18446744073709551616) :
    toSize value = value.toNat := by
  rw [toSize, Int.emod_eq_of_lt nonnegative small]
