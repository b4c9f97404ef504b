import CWUSB.DeclaredSize
import CWUSB.ReaderPaths

/-!
# The stitch state of the reader

While the reader waits for a further frame of a message it has counted some of
the declared bytes and misses others.  The test behind a first frame converts
the signed size before it compares, so that a negative size passes for a large
one, and the count may run over the range of an `int`.
-/

namespace CWUSB

namespace FramedMessage

/-- A frame `ReceiveCallback` gives to `HandleAsynchronous` for the user
channel. -/
def IsAsynchronous (frame : List UInt8) : Prop :=
  cHostFSHeaderSize ≤ frame.length ∧ bytesWord frame = Asynchronous ∧
    bytesWord (frame.drop 4) = cAsyncUserChannel

instance (frame : List UInt8) : Decidable (IsAsynchronous frame) :=
  inferInstanceAs (Decidable (_ ∧ _ ∧ _))

instance (frame : List UInt8) : Decidable (Announces frame) :=
  inferInstanceAs (Decidable (_ ∧ _ ∧ _ ∧ _ ∧ _))

end FramedMessage

namespace USBReader

/-- The reader waits for a continuation only when bytes were counted and some
of the declared ones are missing. -/
def Consistent (reader : USBReader) : Prop :=
  reader.mReceiveStitching = true →
    0 < reader.mStitchingLength ∧
      reader.mStitchingLength < reader.mActualLength

/-- The declared size is the value of an `int`. -/
def Ranged (reader : USBReader) : Prop :=
  reader.mReceiveStitching = true → reader.mActualLength < 2147483648

/-- A change which leaves the stitch state alone. -/
structure SameStitching (reader next : USBReader) : Prop where
  stitching : next.mReceiveStitching = reader.mReceiveStitching
  counted : next.mStitchingLength = reader.mStitchingLength
  declared : next.mActualLength = reader.mActualLength

variable {reader next : USBReader} {bytes : List UInt8}

theorem SameStitching.consistent (same : reader.SameStitching next) :
    next.Consistent ↔ reader.Consistent := by
  rw [Consistent, Consistent, same.stitching, same.counted, same.declared]

theorem SameStitching.ranged (same : reader.SameStitching next) :
    next.Ranged ↔ reader.Ranged := by
  rw [Ranged, Ranged, same.stitching, same.declared]

theorem consistent_of_idle (idle : reader.mReceiveStitching = false) :
    reader.Consistent := by
  intro stitching
  rw [idle] at stitching
  cases stitching

theorem ranged_of_idle (idle : reader.mReceiveStitching = false) :
    reader.Ranged := by
  intro stitching
  rw [idle] at stitching
  cases stitching

/-! ## One frame -/

theorem wordAt_channel (fits : bytes.length ≤ cMaxUSBPacketSize)
    (asynchronous : FramedMessage.IsAsynchronous bytes) :
    wordAt (reader.received bytes).mTemporaryReceiveBuffer 4 =
      cAsyncUserChannel := by
  have long : 12 ≤ bytes.length := asynchronous.1
  rw [wordAt_frame (by omega) fits]
  exact asynchronous.2.2

/-- What keeps the state consistent: a first frame declares a size which is
not negative, and a full continuation does not run over the range of the
counter. -/
def CountsWithin (reader : USBReader) (frame : List UInt8) : Prop :=
  FramedMessage.IsAsynchronous frame →
    (reader.mReceiveStitching = false → FramedMessage.Announces frame →
      bytesWord (frame.drop 16) < 2147483648) ∧
    (reader.mReceiveStitching = true →
      cMaxUSBPacketSize - cAsyncHeaderSize < frame.length →
        reader.mStitchingLength +
          ((frame.length - cAsyncHeaderSize : Nat) : Int) < 2147483648)

/-- `ReceiveCallback` changes the stitch state only for asynchronous frames. -/
theorem callbackFrame_sameStitching
    (fits : bytes.length ≤ cMaxUSBPacketSize)
    (other : ¬ FramedMessage.IsAsynchronous bytes) :
    reader.SameStitching (reader.callbackFrame bytes).reader := by
  have total := reader.received_length fits
  by_cases message : (reader.received bytes).IsForAsynchronous
  · have ⟨long, magic⟩ := message
    rw [total] at long
    have longer : 12 ≤ bytes.length := long
    have otherChannel : ¬ wordAt
        (reader.received bytes).mTemporaryReceiveBuffer 4 =
          cAsyncUserChannel := by
      rw [wordAt_frame (by omega) fits] at magic ⊢
      exact fun channel => other ⟨long, magic, channel⟩
    rw [callbackFrame, receiveCallback_asynchronous message,
      handleAsynchronous, if_neg otherChannel]
    exact ⟨rfl, rfl, rfl⟩
  · obtain ⟨mError, helloSent, handled⟩ := receiveCallback_other message
    rw [callbackFrame, handled]
    exact ⟨rfl, rfl, rfl⟩

/-- A packet is queued for every frame which announces a message. -/
theorem handleFrame_announces (notStitching : reader.mReceiveStitching = false)
    (fits : bytes.length ≤ 512) (announces : FramedMessage.Announces bytes) :
    (reader.handleFrame bytes).queued ≠ none := by
  obtain ⟨longer, channel, magic, mode, ref⟩ := announces
  have long : 24 < bytes.length := longer
  have packetMode : isDebugPrintCommand
      (reader.received bytes).mTemporaryReceiveBuffer bytes.length =
        cAsyncModePacket := by
    rw [isDebugPrintCommand_packet, wordAt_frame (by omega) fits,
      wordAt_frame (by omega) fits, wordAt_frame (by omega) fits,
      toUnsigned_natCast, Nat.mod_eq_of_lt (by omega)]
    exact ⟨longer, magic, mode, ref⟩
  have forUser : wordAt (reader.received bytes).mTemporaryReceiveBuffer 4 =
      cAsyncUserChannel := by
    rw [wordAt_frame (by omega) fits]
    exact channel
  have still : (reader.received bytes).mReceiveStitching = false :=
    notStitching
  rw [handleFrame, handleAsynchronous, if_pos forUser, still]
  simp [handleFirst_packet packetMode rfl]

/-- A first frame keeps the state consistent when the size it declares, if
any, is not negative. -/
theorem handleFrame_first_consistent
    (notStitching : reader.mReceiveStitching = false)
    (fits : bytes.length ≤ cMaxUSBPacketSize)
    (asynchronous : FramedMessage.IsAsynchronous bytes) :
    (reader.handleFrame bytes).reader.Consistent ↔
      (FramedMessage.Announces bytes →
        bytesWord (bytes.drop 16) < 2147483648) := by
  rcases handleFrame_starts notStitching fits
      (wordAt_channel fits asynchronous) with
    ⟨nothing, same⟩ |
      ⟨announces, packet, _, _, stitches, stitching, declared, counted⟩
  · have still : (reader.received bytes).mReceiveStitching = false :=
      notStitching
    rw [same, Consistent, still]
    constructor
    · intro _ announces
      exact absurd nothing
        (handleFrame_announces notStitching fits announces)
    · intro _ stitched
      cases stitched
  · have word := bytesWord_lt (bytes.drop 16)
    have size : FramedMessage.size ⟨bytes, []⟩ =
        toSigned (bytesWord (bytes.drop 16)) := rfl
    rw [size, toUnsigned_toSigned word] at stitches
    have length : (bytes.drop cAsyncHeaderAndSubHeaderSize).length =
        bytes.length - 24 := List.length_drop
    have long := announces.1
    simp only [cAsyncHeaderAndSubHeaderSize, cMaxUSBPacketSize] at long fits
    rw [Consistent, stitching, declared, size]
    constructor
    · intro consistent _
      by_contra negative
      have stitched := stitches.mpr (by omega)
      have below := (consistent stitched).2
      rw [counted stitched, length] at below
      have wrapped : toSigned (bytesWord (bytes.drop 16)) < 0 :=
        toSigned_neg (by omega) (by omega)
      omega
    · intro small stitched
      have positive := small announces
      have large := stitches.mp stitched
      rw [counted stitched, length,
        toSigned_of_range (by omega) (by omega)]
      omega

/-- What a continuation does to the stitch state, whatever the counters. -/
theorem handleFrame_continuation_reader
    (stitching : reader.mReceiveStitching = true)
    (positive : 0 ≤ reader.mStitchingLength)
    (small : reader.mStitchingLength < 4294967296)
    (fits : bytes.length ≤ 512)
    (asynchronous : FramedMessage.IsAsynchronous bytes) :
    ∃ lStitch lStitchingLength,
      (reader.handleFrame bytes).reader =
          { reader.received bytes with
            mReceiveStitching := lStitch
            mStitchingLength := if lStitch then lStitchingLength else 0 } ∧
        lStitchingLength = toSigned (reader.mStitchingLength +
          ((bytes.length - 8 : Nat) : Int)) ∧
        (lStitch = true ↔
          504 < bytes.length ∧ lStitchingLength < reader.mActualLength) := by
  have long : 12 ≤ bytes.length := asynchronous.1
  have rest : toUnsigned ((bytes.length : Int) - ((8 : Nat) : Int)) =
      bytes.length - 8 :=
    toUnsigned_behind (by omega) (by omega)
  have before : toUnsigned reader.mStitchingLength =
      reader.mStitchingLength.toNat := by
    unfold toUnsigned
    omega
  have length : toUnsigned (bytes.length : Int) = bytes.length := by
    rw [toUnsigned_natCast]
    omega
  obtain ⟨lStitchingLength, counted⟩ : ∃ lStitchingLength,
      lStitchingLength = toSigned (toUnsigned reader.mStitchingLength +
        toUnsigned ((bytes.length : Int) - (8 : Nat)) : Nat) := ⟨_, rfl⟩
  obtain ⟨lStitch, stitches⟩ : ∃ lStitch, lStitch =
      (decide (504 < toUnsigned (bytes.length : Int)) &&
        decide (lStitchingLength < reader.mActualLength)) := ⟨_, rfl⟩
  refine ⟨lStitch, lStitchingLength, ?_, ?_, ?_⟩
  · have still : (reader.received bytes).mReceiveStitching = true := stitching
    rw [handleFrame, handleAsynchronous,
      if_pos (wordAt_channel fits asynchronous), still]
    exact congrArg Handled.reader
      (handleContinuation_packet (reader.received bytes) counted stitches)
  · rw [counted, before, rest, Int.natCast_add, Int.toNat_of_nonneg positive]
  · rw [stitches, length, Bool.and_eq_true, decide_eq_true_eq,
      decide_eq_true_eq]

/-- A continuation keeps the state consistent when it is not full, or its end
is within the range of the counter. -/
theorem handleFrame_continuation_consistent
    (stitching : reader.mReceiveStitching = true)
    (consistent : reader.Consistent) (ranged : reader.Ranged)
    (fits : bytes.length ≤ cMaxUSBPacketSize)
    (asynchronous : FramedMessage.IsAsynchronous bytes) :
    (reader.handleFrame bytes).reader.Consistent ↔
      (cMaxUSBPacketSize - cAsyncHeaderSize < bytes.length →
        reader.mStitchingLength +
          ((bytes.length - cAsyncHeaderSize : Nat) : Int) < 2147483648) := by
  obtain ⟨positive, missing⟩ := consistent stitching
  have declared := ranged stitching
  simp only [cMaxUSBPacketSize, cAsyncHeaderSize] at fits ⊢
  obtain ⟨lStitch, lStitchingLength, handled, counted, goesOn⟩ :=
    handleFrame_continuation_reader stitching (by omega) (by omega) fits
      asynchronous
  rw [handled]
  simp only [Consistent]
  constructor
  · intro kept full
    by_contra beyond
    have negative : lStitchingLength < 0 := by
      rw [counted]
      exact toSigned_neg (by omega) (by omega)
    have stitched := goesOn.mpr ⟨full, by omega⟩
    have counts := (kept stitched).1
    rw [if_pos stitched] at counts
    omega
  · intro within stitched
    obtain ⟨full, unfinished⟩ := goesOn.mp stitched
    have small := within full
    rw [if_pos stitched]
    refine ⟨?_, unfinished⟩
    rw [counted, toSigned_of_range (by omega) (by omega)]
    omega

/-- A frame keeps the state consistent exactly when it counts within the range
of an `int`. -/
theorem callbackFrame_consistent (consistent : reader.Consistent)
    (ranged : reader.Ranged) (fits : bytes.length ≤ cMaxUSBPacketSize) :
    (reader.callbackFrame bytes).reader.Consistent ↔
      reader.CountsWithin bytes := by
  by_cases asynchronous : FramedMessage.IsAsynchronous bytes
  · have handled : (reader.callbackFrame bytes).reader.Consistent ↔
        (reader.handleFrame bytes).reader.Consistent := by
      rw [reader.callbackFrame_of_magic asynchronous.1 fits
        asynchronous.2.1]
      exact Iff.rfl
    rw [handled]
    cases stitching : reader.mReceiveStitching with
    | false =>
        rw [handleFrame_first_consistent stitching fits asynchronous]
        simp [CountsWithin, asynchronous, stitching]
    | true =>
        rw [handleFrame_continuation_consistent stitching consistent ranged
          fits asynchronous]
        simp [CountsWithin, asynchronous, stitching]
  · rw [(callbackFrame_sameStitching fits asynchronous).consistent]
    constructor
    · intro _ is
      exact absurd is asynchronous
    · intro _
      exact consistent

/-- The declared size is only assigned from a signed field. -/
theorem handleAsynchronous_ranged (ranged : reader.Ranged) (aLength : Int) :
    (reader.handleAsynchronous aLength).reader.Ranged := by
  unfold handleAsynchronous
  split
  · split
    · unfold handleFirst
      dsimp only
      split
      · split
        · intro _
          dsimp only
          exact toSigned_lt _
        · exact ranged
      · exact ranged
    · next waits =>
        intro _
        exact ranged (by simpa using waits)
  · exact ranged

theorem receiveCallback_ranged (ranged : reader.Ranged) :
    reader.receiveCallback.reader.Ranged := by
  by_cases message : reader.IsForAsynchronous
  · rw [receiveCallback_asynchronous message]
    exact handleAsynchronous_ranged ranged reader.mLength
  · obtain ⟨mError, helloSent, handled⟩ := receiveCallback_other message
    rw [handled]
    exact ranged

/-! ## Runs -/

/-- What happens to the reader. -/
inductive ReadAction where
  | read (transfer : ReadTransfer)
  | handleError (devices : DeviceList)

/-- The errors of libusb are negative. -/
def readStep (reader : USBReader) : ReadAction → Option USBReader
  | .read transfer =>
      if transfer.lError ≤ 0 then
        let result := reader.usbBulkRead transfer
        some (result.2.handleRead result.1).reader
      else none
  | .handleError devices => some (reader.handleError devices)

def readMachine : LabelledMachine USBReader ReadAction := ⟨readStep⟩

/-- A read which brings a frame counts within the range of an `int`. -/
def ReadsWithin (reader : USBReader) : ReadAction → Prop
  | .read transfer =>
      reader.mDeviceHandle.isSome = true → transfer.lError = 0 →
        reader.CountsWithin transfer.bytes
  | .handleError _ => True

theorem handleRead_failed (reader : USBReader) {lLength : Int}
    (failed : lLength ≤ 0) :
    reader.SameStitching (reader.handleRead lLength).reader := by
  rw [handleRead, if_neg (by omega)]
  split
  · exact ⟨rfl, rfl, rfl⟩
  · split <;> exact ⟨rfl, rfl, rfl⟩

/-- A read either brings a frame or leaves the stitch state alone. -/
theorem readStep_read {transfer : ReadTransfer}
    (taken : reader.readStep (.read transfer) = some next) :
    (reader.mDeviceHandle.isSome = true ∧ transfer.lError = 0 ∧
        next = (reader.callbackFrame transfer.bytes).reader) ∨
      ((reader.mDeviceHandle.isSome = true → transfer.lError = 0 →
          transfer.bytes = []) ∧ reader.SameStitching next) := by
  simp only [readStep, Option.ite_none_right_eq_some, Option.some.injEq]
    at taken
  obtain ⟨sign, rfl⟩ := taken
  have filled {lLength : Int} (failed : lLength ≤ 0) : reader.SameStitching
      ((reader.fillBuffer transfer.bytes).handleRead lLength).reader := by
    obtain ⟨stitching, counted, declared⟩ :=
      handleRead_failed (reader.fillBuffer transfer.bytes) failed
    exact ⟨stitching, counted, declared⟩
  by_cases opened : reader.mDeviceHandle.isSome = true
  · by_cases works : transfer.lError = 0
    · rw [usbBulkRead, if_pos opened, if_neg (not_not.mpr works)]
      by_cases nonempty : transfer.bytes = []
      · right
        have none : (transfer.bytes.length : Int) ≤ 0 := by simp [nonempty]
        exact ⟨fun _ _ => nonempty, filled none⟩
      · left
        have positive : 0 < transfer.bytes.length :=
          List.length_pos_iff.mpr nonempty
        refine ⟨opened, works, ?_⟩
        dsimp only
        rw [handleRead, if_pos (by omega)]
        rfl
    · right
      rw [usbBulkRead, if_pos opened, if_pos works]
      exact ⟨fun _ succeeds => absurd succeeds works, filled sign⟩
  · right
    rw [usbBulkRead, if_neg opened]
    have failed : (-1 : Int) ≤ 0 := by decide
    exact ⟨fun isOpen => absurd isOpen opened,
      handleRead_failed reader failed⟩

theorem countsWithin_nil (reader : USBReader) : reader.CountsWithin [] := by
  intro asynchronous
  exact absurd asynchronous (by decide)

/-- Each step keeps the state consistent exactly when it reads within. -/
theorem readStep_consistent {action : ReadAction}
    (consistent : reader.Consistent) (ranged : reader.Ranged)
    (taken : readMachine.step reader action = some next) :
    next.Ranged ∧ (next.Consistent ↔ reader.ReadsWithin action) := by
  cases action with
  | read transfer =>
      rcases readStep_read taken with
        ⟨opened, works, rfl⟩ | ⟨nothing, same⟩
      · refine ⟨receiveCallback_ranged ranged, ?_⟩
        rw [callbackFrame_consistent consistent ranged transfer.fits]
        simp [ReadsWithin, opened, works]
      · refine ⟨same.ranged.mpr ranged, ?_⟩
        rw [same.consistent]
        constructor
        · intro _ opened works
          rw [nothing opened works]
          exact countsWithin_nil reader
        · intro _
          exact consistent
  | handleError devices =>
      obtain rfl := Option.some.inj taken
      refine ⟨ranged_of_idle rfl, fun _ => trivial, fun _ => ?_⟩
      exact consistent_of_idle rfl

/-- Along every run the reader waits only for bytes which are declared and
missing, exactly when no first frame declares a negative size and no full
continuation counts beyond the range of an `int`. -/
theorem stitch_state_consistent_iff {reader : USBReader}
    (idle : reader.mReceiveStitching = false) (actions : List ReadAction) :
    readMachine.Always Consistent reader actions ↔
      readMachine.Guarded ReadsWithin reader actions := by
  apply readMachine.always_iff_guarded Ranged (fun _ => True)
  · intro state action next ranged consistent _ taken _
    exact (readStep_consistent consistent ranged taken).1
  · intro state action next ranged consistent _ taken
    exact (readStep_consistent consistent ranged taken).2
  · exact ranged_of_idle idle
  · exact consistent_of_idle idle
  · intro _ _
    trivial

instance (reader : USBReader) (frame : List UInt8) :
    Decidable (reader.CountsWithin frame) :=
  inferInstanceAs (Decidable (_ → _))

instance (reader : USBReader) :
    (action : ReadAction) → Decidable (reader.ReadsWithin action)
  | .read _ => inferInstanceAs (Decidable (_ → _))
  | .handleError _ => inferInstanceAs (Decidable True)

/-- The first 488 bytes of a message of 600, the rest of it, and a reset. -/
def honestReads : List ReadAction :=
  [.read
      { lError := 0
        bytes := messageHeader 600 ++ List.replicate 488 7
        fits := by
          rw [List.length_append, List.length_replicate]
          decide },
    .read
      { lError := 0
        bytes := continuationHeader ++ List.replicate 112 8
        fits := by
          rw [List.length_append, List.length_replicate]
          decide },
    .handleError .failed]

theorem stitch_state_consistent_honestReads :
    readMachine.Always Consistent ReaderLoop.openedReader honestReads ∧
      ∃ waiting, readMachine.run ReaderLoop.openedReader
          (honestReads.take 1) = some waiting ∧
        waiting.mReceiveStitching = true ∧
        waiting.mStitchingLength = 488 ∧ waiting.mActualLength = 600 := by
  constructor
  · apply (stitch_state_consistent_iff rfl honestReads).mpr
    decide +kernel
  · exact ⟨_, rfl, by decide +kernel, by decide +kernel, by decide +kernel⟩

/-- A first frame of one byte whose size field is -1. -/
def negativeSize : ReadTransfer :=
  { lError := 0
    bytes := messageHeader 0xFFFFFFFF ++ [7]
    fits := by simp [messageHeader] }

/-- The reader has one byte of -1 and waits. -/
theorem stitch_state_negativeSize :
    ¬ readMachine.Always Consistent ReaderLoop.openedReader
      [.read negativeSize] := by
  rintro ⟨_, always⟩
  have consistent : Consistent _ := always _ rfl
  have missing := (consistent (by decide +kernel)).2
  exact absurd missing (by decide +kernel)

end USBReader

/-! ## The loop of the reader -/

namespace ReaderLoop

variable {state next : ReaderLoop}

/-- A read of the loop, unless it is left out, is a step of the reader. -/
theorem read_readStep {transfer : USBReader.ReadTransfer}
    (notSending : state.reader.mSendStitching = false)
    (sign : transfer.lError ≤ 0) :
    USBReader.readMachine.step state.reader (.read transfer) =
      some (state.read transfer).reader := by
  simp only [USBReader.readMachine, USBReader.readStep, sign, if_true, read,
    notSending, Bool.false_eq_true, if_false]
  rfl

/-- The other steps leave the stitch state alone or end it. -/
theorem readerStep_sameStitching (answers : UsbAnswers)
    (notReading : state.loop ≠ .read) :
    state.reader.SameStitching (state.readerStep answers).reader ∨
      (state.readerStep answers).reader.mReceiveStitching = false := by
  by_cases counts : state.Counts
  · rcases counts with here | here | here | ⟨lFormattedPacket, here⟩
    · right
      rw [readerStep, here]
      rfl
    · left
      rw [readerStep, here]
      exact ⟨rfl, rfl, rfl⟩
    · exact absurd here notReading
    · left
      rw [readerStep, here]
      dsimp only [goTo, sendWrite, record, setReader]
      split <;> exact ⟨rfl, rfl, rfl⟩
  · left
    exact
      ⟨state.readerStep_kept answers (fun _ _ _ _ _ => rfl) counts,
        state.readerStep_kept answers (fun _ _ _ _ _ => rfl) counts,
        state.readerStep_kept answers (fun _ _ _ _ _ => rfl) counts⟩

/-- A read which is not left out counts within the range of an `int`. -/
def ReadsWithin (state : ReaderLoop) : Action → Prop
  | .reader answers =>
      state.loop = .read → state.reader.mSendStitching = false →
        answers.read.lError ≤ 0 ∧ state.reader.ReadsWithin (.read answers.read)
  | _ => True

/-- The stitch state is consistent, with a size in the range of an `int`. -/
structure Stitches (state : ReaderLoop) : Prop where
  consistent : state.reader.Consistent
  ranged : state.reader.Ranged

theorem Stitches.same (stitches : state.Stitches)
    (same : state.reader.SameStitching next.reader) : next.Stitches where
  consistent := same.consistent.mpr stitches.consistent
  ranged := same.ranged.mpr stitches.ranged

theorem stitches_of_idle (idle : state.reader.mReceiveStitching = false) :
    state.Stitches where
  consistent := USBReader.consistent_of_idle idle
  ranged := USBReader.ranged_of_idle idle

theorem Stitches.step {action : Action} (stitches : state.Stitches)
    (within : state.ReadsWithin action)
    (taken : machine.step state action = some next) : next.Stitches := by
  rcases step_cases taken with ⟨answers, rfl, rfl⟩ | ⟨_, elsewhere⟩
  · by_cases reads : state.loop = .read
    · have stepped : (state.readerStep answers).reader =
          (state.read answers.read).reader := by
        rw [readerStep, reads]
        rfl
      by_cases sending : state.reader.mSendStitching = true
      · have skipped : state.read answers.read = state := by
          rw [read, if_pos sending]
        rw [skipped] at stepped
        apply stitches.same
        rw [stepped]
        exact ⟨rfl, rfl, rfl⟩
      · have notSending : state.reader.mSendStitching = false := by
          simpa using sending
        obtain ⟨sign, counts⟩ := within reads notSending
        obtain ⟨ranged, consistent⟩ := USBReader.readStep_consistent
          stitches.consistent stitches.ranged (read_readStep notSending sign)
        constructor
        · rw [stepped]
          exact consistent.mpr counts
        · rw [stepped]
          exact ranged
    · rcases readerStep_sameStitching answers reads with same | idle
      · exact stitches.same same
      · exact stitches_of_idle idle
  · apply stitches.same
    rw [elsewhere.reader]
    exact ⟨rfl, rfl, rfl⟩

/-- The stitch state stays consistent in the loop as well, in whatever order
the threads take their steps. -/
theorem always_consistent {reader : USBReader} {mMaxBufferedMessages : Int}
    {actions : List Action} (idle : reader.mReceiveStitching = false)
    (within : machine.Guarded ReadsWithin (start reader mMaxBufferedMessages)
      actions) :
    machine.Always (fun state => state.reader.Consistent)
      (start reader mMaxBufferedMessages) actions := by
  apply machine.always_of_guarded Stitches _ _ _ within
  · intro state action next stitches within taken
    exact stitches.step within taken
  · intro state stitches
    exact stitches.consistent
  · exact stitches_of_idle idle

end ReaderLoop

end CWUSB
