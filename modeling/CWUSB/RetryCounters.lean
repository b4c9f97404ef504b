import CWUSB.ReaderSteps

/-!
# The counters of the reader

`mRetryCounter` counts the resets without progress, and
`mReadWriteRetryCounter` the failed reads and writes.  Only the reader's
thread changes them; what each of its steps does to them is said here once.
-/

namespace CWUSB

namespace USBReader

/-- A read which is counted as failed. -/
def readFails (reader : USBReader) (lLength : Int) : Bool :=
  !(decide (lLength > 0) ||
      decide (lLength = LIBUSB_ERROR_TIMEOUT ∨ lLength = LIBUSB_ERROR_BUSY) ||
      reader.mDeviceHandle.isNone)

section HandleRead

variable (reader : USBReader) (lLength : Int)

theorem handleRead_mRetryCounter :
    (reader.handleRead lLength).reader.mRetryCounter =
      if lLength > 0 then 0 else reader.mRetryCounter := by
  unfold handleRead
  split
  · exact KeptByCallback.receiveCallback (fun _ _ _ _ _ _ => rfl) _
  · split
    · rfl
    · split <;> rfl

theorem handleRead_mReadWriteRetryCounter :
    (reader.handleRead lLength).reader.mReadWriteRetryCounter =
      reader.mReadWriteRetryCounter +
        if reader.readFails lLength then 1 else 0 := by
  unfold handleRead readFails
  by_cases received : lLength > 0
  · have kept := KeptByCallback.receiveCallback
      (fun _ _ _ _ _ _ => rfl : KeptByCallback mReadWriteRetryCounter)
    rw [if_pos received, kept]
    simp [received]
  · by_cases quiet : lLength = LIBUSB_ERROR_TIMEOUT ∨
        lLength = LIBUSB_ERROR_BUSY
    · rw [if_neg received, if_pos quiet]
      simp [quiet]
    · rw [if_neg received, if_neg quiet]
      cases gone : reader.mDeviceHandle.isNone with
      | true => simp
      | false => simp [received, quiet, countFailure]

theorem handleRead_of_readFails (fails : reader.readFails lLength = true) :
    (reader.handleRead lLength).reader = reader.countFailure := by
  simp only [readFails, Bool.not_eq_true', Bool.or_eq_false_iff,
    decide_eq_false_iff_not] at fails
  obtain ⟨⟨notReceived, notQuiet⟩, notGone⟩ := fails
  unfold handleRead
  rw [if_neg notReceived, if_neg notQuiet, notGone]
  rfl

end HandleRead

end USBReader

namespace ReaderLoop

/-! ## Steps of the reader's thread -/

section Step

variable (state : ReaderLoop) (answers : UsbAnswers)

/-- The step is a read or a write which is counted as failed. -/
def transferFails : Bool :=
  match state.loop with
  | .read =>
      let result := state.reader.usbBulkRead answers.read
      !state.reader.mSendStitching && result.2.readFails result.1
  | .sendWrite _ => decide (state.reader.usbBulkWrite answers.write = -1)
  | _ => false

theorem usbBulkRead_counters (reader : USBReader)
    (transfer : USBReader.ReadTransfer) :
    (reader.usbBulkRead transfer).2.mRetryCounter = reader.mRetryCounter ∧
      (reader.usbBulkRead transfer).2.mReadWriteRetryCounter =
        reader.mReadWriteRetryCounter := by
  unfold USBReader.usbBulkRead
  split <;> exact ⟨rfl, rfl⟩

theorem read_mRetryCounter :
    (state.read answers.read).reader.mRetryCounter =
      if state.reader.mSendStitching = false ∧
          (state.reader.usbBulkRead answers.read).1 > 0 then 0
      else state.reader.mRetryCounter := by
  unfold read
  cases state.reader.mSendStitching with
  | true => rfl
  | false =>
      simp only [deliver, record, Bool.false_eq_true, if_false, true_and,
        USBReader.handleRead_mRetryCounter,
        (usbBulkRead_counters state.reader answers.read).1]

theorem read_mReadWriteRetryCounter :
    (state.read answers.read).reader.mReadWriteRetryCounter =
      state.reader.mReadWriteRetryCounter +
        if !state.reader.mSendStitching &&
            (state.reader.usbBulkRead answers.read).2.readFails
              (state.reader.usbBulkRead answers.read).1 then 1 else 0 := by
  unfold read
  cases state.reader.mSendStitching with
  | true => simp
  | false =>
      simp only [deliver, record, Bool.false_eq_true, if_false,
        USBReader.handleRead_mReadWriteRetryCounter,
        (usbBulkRead_counters state.reader answers.read).2,
        Bool.not_false, Bool.true_and]

theorem sendWrite_counters (lFormattedPacket : BinaryStitchUSBPacket)
    (transfer : USBReader.WriteTransfer) :
    (state.sendWrite lFormattedPacket transfer).reader.mRetryCounter =
        state.reader.mRetryCounter ∧
      (state.sendWrite lFormattedPacket transfer).reader.mReadWriteRetryCounter =
        state.reader.mReadWriteRetryCounter +
          if state.reader.usbBulkWrite transfer = -1 then 1 else 0 := by
  dsimp only [sendWrite, record, setReader]
  by_cases failed : state.reader.usbBulkWrite transfer = -1
  · rw [if_pos failed, if_pos failed]
    exact ⟨rfl, rfl⟩
  · rw [if_neg failed, if_neg failed]
    exact ⟨rfl, (Int.add_zero _).symm⟩

/-- The step is a read which brings data. -/
def receives : Bool :=
  decide (state.loop = .read) && !state.reader.mSendStitching &&
    decide ((state.reader.usbBulkRead answers.read).1 > 0)

theorem readerStep_mRetryCounter :
    (state.readerStep answers).reader.mRetryCounter =
      if state.loop = .resetFlags then state.reader.mRetryCounter + 1
      else if state.loop = .resetRetries then 0
      else if state.receives answers then 0
      else state.reader.mRetryCounter := by
  cases here : state.loop with
  | resetFlags =>
      simp only [readerStep, here, if_true]
      rfl
  | resetRetries =>
      simp only [readerStep, here, reduceCtorEq, if_false, if_true]
      rfl
  | read =>
      simp only [readerStep, receives, here, goTo, read_mRetryCounter]
      simp
  | sendWrite lFormattedPacket =>
      simp only [readerStep, receives, here, goTo,
        (state.sendWrite_counters lFormattedPacket answers.write).1]
      simp
  | _ =>
      have kept : KeptByControl USBReader.mRetryCounter :=
        fun _ _ _ _ _ => rfl
      rw [readerStep_kept state answers kept (by simp [Counts, here])]
      simp [receives, here]

theorem readerStep_mReadWriteRetryCounter :
    (state.readerStep answers).reader.mReadWriteRetryCounter =
      state.reader.mReadWriteRetryCounter +
        if state.transferFails answers then 1 else 0 := by
  cases here : state.loop with
  | read =>
      simp only [readerStep, transferFails, here, goTo,
        read_mReadWriteRetryCounter]
  | sendWrite lFormattedPacket =>
      simp only [readerStep, transferFails, here, goTo,
        (state.sendWrite_counters lFormattedPacket answers.write).2,
        decide_eq_true_eq]
  | resetFlags =>
      simp [readerStep, transferFails, here, goTo, setReader,
        USBReader.resetFlags]
  | resetRetries =>
      simp [readerStep, transferFails, here, goTo, setReader]
  | _ =>
      have kept : KeptByControl USBReader.mReadWriteRetryCounter :=
        fun _ _ _ _ _ => rfl
      rw [readerStep_kept state answers kept (by simp [Counts, here])]
      simp [transferFails, here]

/-- The limits are set once. -/
theorem readerStep_limits :
    (state.readerStep answers).reader.mMaxFatalRetries =
        state.reader.mMaxFatalRetries ∧
      (state.readerStep answers).reader.mMaxReadWriteRetries =
        state.reader.mMaxReadWriteRetries := by
  by_cases counting : state.Counts
  · rcases counting with here | here | here | ⟨lFormattedPacket, here⟩
    · simp only [readerStep, here]
      exact ⟨rfl, rfl⟩
    · simp only [readerStep, here]
      exact ⟨rfl, rfl⟩
    · simp only [readerStep, here]
      exact ⟨read_kept (fun _ _ _ _ _ _ _ _ _ => rfl) state answers.read,
        read_kept (fun _ _ _ _ _ _ _ _ _ => rfl) state answers.read⟩
    · simp only [readerStep, here]
      exact ⟨sendWrite_kept (fun _ _ _ _ _ _ _ _ _ => rfl) state
          lFormattedPacket answers.write,
        sendWrite_kept (fun _ _ _ _ _ _ _ _ _ => rfl) state
          lFormattedPacket answers.write⟩
  · exact ⟨readerStep_kept state answers (fun _ _ _ _ _ => rfl) counting,
      readerStep_kept state answers (fun _ _ _ _ _ => rfl) counting⟩

end Step

end ReaderLoop

end CWUSB
