import CWUSB.Library.HexText
import CWUSB.XLinkKaiConnection

/-!
# The dump of a packet

`PrettyHexString` prints the octets of what was sent or received, 64 on a
line, each line behind the offset of its first octet.  The octets and the
offsets can be read back, whatever the octets are.  The counter of its loop is
an `unsigned int`, so it does not come to the end of a packet of 4 GiB.
-/

namespace CWUSB

namespace HexDump

def endl : UInt8 := 10
def blank : UInt8 := 32

/-! ## Printing -/

/-- What an iteration prints, for a count below the size. -/
def prettyIteration (aData : List UInt8) (lCount : UInt32) : List UInt8 :=
  (if lCount ≠ 0 ∧ lCount % 64 = 0 then
      endl :: HexText.padded 6 lCount.toNat ++ [blank]
    else if lCount ≠ 0 then [blank]
    else []) ++
    HexText.padded 2 (aData.getD lCount.toNat 0).toNat

/-- The loop, within a number of iterations. -/
def prettyLoop (aData : List UInt8) :
    Nat → UInt32 → List UInt8 → Option (List UInt8)
  | 0, _, _ => none
  | fuel + 1, lCount, lFormattedString =>
      if lCount.toNat < aData.length then
        prettyLoop aData fuel (lCount + 1)
          (lFormattedString ++ prettyIteration aData lCount)
      else some lFormattedString

def prettyHexString (aData : List UInt8) (fuel : Nat) :
    Option (List UInt8) :=
  prettyLoop aData fuel 0 (endl :: literal "000000 ")

/-! ## Reading -/

/-- An octet is two digits. -/
def readOctet : List UInt8 → Option (UInt8 × List UInt8)
  | high :: low :: text =>
      (HexText.valueFrom 0 [high, low]).map fun value =>
        (UInt8.ofNat value, text)
  | _ => none

/-- An offset is what stands in front of a blank. -/
def readOffset (text : List UInt8) : Option (Nat × List UInt8) :=
  match text.dropWhile (· ≠ blank) with
  | [] => none
  | _ :: rest =>
      (HexText.valueFrom 0 (text.takeWhile (· ≠ blank))).map fun offset =>
        (offset, rest)

/-- In front of an octet there is a blank, or a new line with the right
offset. -/
def readSeparator (index : Nat) : List UInt8 → Option (List UInt8)
  | [] => none
  | byte :: text =>
      if byte = endl then
        (readOffset text).bind fun read =>
          if read.1 = index then some read.2 else none
      else if byte = blank then some text
      else none

/-- The octets from one on, within a number of octets. -/
def readFrom : Nat → Nat → List UInt8 → Option (List UInt8)
  | 0, _, _ => none
  | fuel + 1, index, text =>
      (readOctet text).bind fun read =>
        if read.2.isEmpty then some [read.1]
        else
          (readSeparator (index + 1) read.2).bind fun rest =>
            (readFrom fuel (index + 1) rest).map (read.1 :: ·)

/-- The octets a dump shows. -/
def readDump (text : List UInt8) : Option (List UInt8) :=
  (readSeparator 0 text).bind fun rest =>
    if rest.isEmpty then some [] else readFrom rest.length 0 rest

/-! ## The text -/

/-- What is printed in front of an octet. -/
def separator (index : Nat) : List UInt8 :=
  if index % 64 = 0 then endl :: HexText.padded 6 index ++ [blank]
  else [blank]

/-- What is printed from an octet on. -/
def textFrom : Nat → List UInt8 → List UInt8
  | _, [] => []
  | index, byte :: rest =>
      separator index ++ HexText.padded 2 byte.toNat ++
        textFrom (index + 1) rest

/-- The text of a packet; an empty one has a line with its offset. -/
def textOf (aData : List UInt8) : List UInt8 :=
  if aData.isEmpty then separator 0 else textFrom 0 aData

section Loop

variable {past rest : List UInt8} {byte : UInt8} {lCount : UInt32}
  {fuel : Nat}

theorem prettyIteration_eq (here : lCount.toNat = past.length)
    (positive : past ≠ []) :
    prettyIteration (past ++ byte :: rest) lCount =
      separator past.length ++ HexText.padded 2 byte.toNat := by
  have notZero : lCount ≠ 0 := by
    rintro rfl
    exact positive (List.eq_nil_of_length_eq_zero here.symm)
  have lines : lCount % 64 = 0 ↔ past.length % 64 = 0 := by
    rw [← here, ← UInt32.toNat_inj, UInt32.toNat_mod]
    rfl
  have octet : (past ++ byte :: rest).getD lCount.toNat 0 = byte := by
    rw [here]
    simp
  unfold prettyIteration separator
  rw [octet, here]
  simp only [notZero, ne_eq, not_false_eq_true, true_and, lines, if_true]

/-- Behind the first octet the loop prints the others, if the counter does not
wrap around. -/
theorem prettyLoop_eq (here : lCount.toNat = past.length)
    (positive : past ≠ [])
    (countable : (past ++ rest).length < 4294967296)
    (enough : rest.length < fuel) (lFormattedString : List UInt8) :
    prettyLoop (past ++ rest) fuel lCount lFormattedString =
      some (lFormattedString ++ textFrom past.length rest) := by
  induction rest generalizing past lCount fuel lFormattedString with
  | nil =>
      cases fuel with
      | zero => simp at enough
      | succ fuel =>
          have ended : ¬ lCount.toNat < (past ++ []).length := by
            rw [List.append_nil, here]
            exact Nat.lt_irrefl _
          rw [prettyLoop, if_neg ended, textFrom, List.append_nil]
  | cons byte rest induction =>
      cases fuel with
      | zero => simp at enough
      | succ fuel =>
          have going : lCount.toNat < (past ++ byte :: rest).length := by
            rw [here, List.length_append, List.length_cons]
            omega
          have next : (lCount + 1).toNat = (past ++ [byte]).length := by
            rw [List.length_append, List.length_cons] at countable
            rw [UInt32.toNat_add, here, List.length_append]
            exact Nat.mod_eq_of_lt (by simp; omega)
          have onward := @induction (past ++ [byte]) (lCount + 1) fuel next
            (by simp) (by simpa using countable) (by simpa using enough)
          rw [prettyLoop, if_pos going, prettyIteration_eq here positive]
          rw [List.append_cons, onward, textFrom, List.length_append]
          simp

/-- The counter of the loop never gets to a size from 2^32 on. -/
theorem prettyLoop_large {aData : List UInt8}
    (large : 4294967296 ≤ aData.length) (fuel : Nat) (lCount : UInt32)
    (lFormattedString : List UInt8) :
    prettyLoop aData fuel lCount lFormattedString = none := by
  induction fuel generalizing lCount lFormattedString with
  | zero => rfl
  | succ fuel induction =>
      have going : lCount.toNat < aData.length :=
        Nat.lt_of_lt_of_le lCount.toNat_lt large
      rw [prettyLoop, if_pos going]
      exact induction _ _

theorem prettyHexString_eq {aData : List UInt8}
    (countable : aData.length < 4294967296) (enough : aData.length < fuel) :
    prettyHexString aData fuel = some (textOf aData) := by
  have offset : endl :: literal "000000 " = separator 0 := by decide
  unfold prettyHexString
  rw [offset]
  cases fuel with
  | zero => simp at enough
  | succ fuel =>
      cases aData with
      | nil => rfl
      | cons byte rest =>
          have going : (0 : UInt32).toNat < (byte :: rest).length := by simp
          have onward := @prettyLoop_eq [byte] rest 1 fuel rfl (by simp)
            (by simpa using countable) (by simpa using enough)
          rw [List.singleton_append] at onward
          have first : prettyIteration (byte :: rest) 0 =
              HexText.padded 2 byte.toNat := by
            simp [prettyIteration]
          rw [prettyLoop, if_pos going, first]
          change prettyLoop (byte :: rest) fuel 1 _ = _
          rw [onward]
          simp [textOf, textFrom]

end Loop

/-! ## Reading back -/

section Read

variable {index fuel : Nat} {byte : UInt8} {rest : List UInt8}

theorem readOctet_padded (byte : UInt8) (text : List UInt8) :
    readOctet (HexText.padded 2 byte.toNat ++ text) = some (byte, text) := by
  have read := HexText.valueFrom_padded 2 byte.toNat
  rw [HexText.padded_octet byte.toNat_lt] at read ⊢
  rw [List.cons_append, List.singleton_append, readOctet, read,
    Option.map_some, UInt8.ofNat_toNat]

theorem readOffset_padded (width index : Nat) (text : List UInt8) :
    readOffset (HexText.padded width index ++ blank :: text) =
      some (index, text) := by
  have digits : ∀ byte ∈ HexText.padded width index,
      decide (byte ≠ blank) = true := by
    intro byte member
    have digit := HexText.isSome_of_valueFrom
      (HexText.valueFrom_padded width index) member
    apply decide_eq_true
    rintro rfl
    revert digit
    decide
  unfold readOffset
  rw [List.dropWhile_append_of_pos digits, List.takeWhile_append_of_pos digits,
    List.dropWhile_cons_of_neg (by simp), List.takeWhile_cons_of_neg (by simp),
    List.append_nil]
  dsimp only
  rw [HexText.valueFrom_padded, Option.map_some]

theorem readSeparator_separator (index : Nat) (text : List UInt8) :
    readSeparator index (separator index ++ text) = some text := by
  unfold separator
  split
  · rw [List.append_assoc, List.cons_append, List.singleton_append,
      readSeparator, if_pos rfl, readOffset_padded, Option.bind_some,
      if_pos rfl]
  · rfl

theorem separator_ne_nil (index : Nat) : separator index ≠ [] := by
  unfold separator
  split <;> simp

/-- The octets come back, each behind its separator. -/
theorem readFrom_textFrom (enough : rest.length < fuel) :
    readFrom fuel index
        (HexText.padded 2 byte.toNat ++ textFrom (index + 1) rest) =
      some (byte :: rest) := by
  induction rest generalizing index byte fuel with
  | nil =>
      cases fuel with
      | zero => simp at enough
      | succ fuel =>
          rw [readFrom, readOctet_padded]
          rfl
  | cons next rest induction =>
      cases fuel with
      | zero => simp at enough
      | succ fuel =>
          have more : (textFrom (index + 1) (next :: rest)).isEmpty =
              false := by
            simp [textFrom, separator_ne_nil]
          rw [readFrom, readOctet_padded, Option.bind_some, more,
            if_neg Bool.false_ne_true, textFrom, List.append_assoc,
            readSeparator_separator, Option.bind_some,
            induction (by simpa using enough), Option.map_some]

theorem length_le_textFrom (index : Nat) (aData : List UInt8) :
    aData.length ≤ (textFrom index aData).length := by
  induction aData generalizing index with
  | nil => exact Nat.le_refl _
  | cons byte rest induction =>
      have later := induction (index + 1)
      have octet := HexText.padded_octet byte.toNat_lt
      rw [textFrom, octet]
      simp only [List.length_append, List.length_cons]
      omega

theorem readDump_textOf (aData : List UInt8) :
    readDump (textOf aData) = some aData := by
  cases aData with
  | nil => decide
  | cons byte rest =>
      have printed : textOf (byte :: rest) =
          separator 0 ++
            (HexText.padded 2 byte.toNat ++ textFrom 1 rest) := by
        rw [← List.append_assoc]
        rfl
      have within := length_le_textFrom 1 rest
      have enough : rest.length <
          (HexText.padded 2 byte.toNat ++ textFrom 1 rest).length := by
        rw [HexText.padded_octet byte.toNat_lt, List.length_append]
        exact Nat.lt_of_le_of_lt within (by simp)
      have nonempty :
          (HexText.padded 2 byte.toNat ++ textFrom 1 rest).isEmpty =
            false := by
        rw [HexText.padded_octet byte.toNat_lt]
        rfl
      rw [readDump, printed, readSeparator_separator, Option.bind_some,
        nonempty, if_neg Bool.false_ne_true]
      exact readFrom_textFrom enough

/-- Up to 4 GiB every packet can be read back from its dump, in which every
line starts with the number of octets in front of it; behind that the loop
does not end. -/
theorem prettyHexString_readable (aData : List UInt8) :
    (aData.length < 4294967296 →
        ∃ text, (∀ fuel, aData.length < fuel →
            prettyHexString aData fuel = some text) ∧
          readDump text = some aData) ∧
      (4294967296 ≤ aData.length →
        ∀ fuel, prettyHexString aData fuel = none) := by
  constructor
  · intro countable
    exact ⟨textOf aData, fun _ enough => prettyHexString_eq countable enough,
      readDump_textOf aData⟩
  · intro large fuel
    exact prettyLoop_large large fuel _ _

example : prettyHexString [0, 10, 171] 4 =
    some (endl :: literal "000000 00 0a ab") := by
  decide

end Read

end HexDump

end CWUSB
