import CWUSB.ReceivePath

/-!
# Stale bytes of the receive buffer

A bulk read leaves the bytes behind its length as they were, so that the
receive buffer may end in anything.  Two runs whose reads agree up to their
lengths are compared: whatever lies behind, the reader makes the same of every
frame, and so does the receive thread.
-/

namespace CWUSB

namespace USBReader

def withBuffer (reader : USBReader)
    (buffer : FixedArray UInt8 cMaxUSBPacketSize) : USBReader :=
  { reader with mTemporaryReceiveBuffer := buffer }

variable (reader : USBReader) (buffer : FixedArray UInt8 cMaxUSBPacketSize)

theorem mTemporaryReceiveBuffer_withBuffer :
    (reader.withBuffer buffer).mTemporaryReceiveBuffer = buffer := by
  simp only [withBuffer]

theorem mLength_withBuffer :
    (reader.withBuffer buffer).mLength = reader.mLength := by
  simp only [withBuffer]

theorem mReceiveStitching_withBuffer :
    (reader.withBuffer buffer).mReceiveStitching =
      reader.mReceiveStitching := by
  simp only [withBuffer]

end USBReader

def Handled.withBuffer (handled : Handled)
    (buffer : FixedArray UInt8 cMaxUSBPacketSize) : Handled :=
  { handled with reader := handled.reader.withBuffer buffer }

/-! ## A frame is read up to its length -/

section Frame

variable {left right : FixedArray UInt8 cMaxUSBPacketSize} {lLength : Nat}
  (same : left.slice 0 lLength = right.slice 0 lLength)

include same

theorem wordAt_eq_of_start {offset : Nat} (within : offset + 4 ≤ lLength) :
    wordAt left offset = wordAt right offset := by
  unfold wordAt
  rw [FixedArray.slice_eq_of_start same within]

/-- The sub-header is only looked at when the frame is longer than both
headers. -/
theorem isDebugPrintCommand_eq_of_start
    (fits : lLength ≤ cMaxUSBPacketSize) :
    isDebugPrintCommand left lLength = isDebugPrintCommand right lLength := by
  unfold isDebugPrintCommand
  have length : toUnsigned (lLength : Int) = lLength := by
    simp only [toUnsigned_natCast, cMaxUSBPacketSize] at fits ⊢
    omega
  rw [length]
  split
  · next long =>
      simp only [cAsyncHeaderAndSubHeaderSize] at long
      rw [wordAt_eq_of_start same (by omega),
        wordAt_eq_of_start same (by omega),
        wordAt_eq_of_start same (by omega)]
  · rfl

theorem packetFrom_eq_of_start (reader : USBReader) {offset count : Nat}
    (within : offset + count ≤ lLength) (stitch : Bool) :
    (reader.withBuffer left).packetFrom offset count stitch =
      (reader.withBuffer right).packetFrom offset count stitch := by
  have small : (UInt16.ofNat count).toNat ≤ count := by
    rw [UInt16.toNat_ofNat']
    exact Nat.mod_le count _
  have bytes :
      left.slice offset (UInt16.ofNat count).toNat =
        right.slice offset (UInt16.ofNat count).toNat :=
    FixedArray.slice_eq_of_start same (by omega)
  simp only [USBReader.packetFrom, USBReader.withBuffer, bytes]

end Frame

/-! ## Handling a frame -/

section Handling

variable {left right : FixedArray UInt8 cMaxUSBPacketSize} {lLength : Nat}
  (same : left.slice 0 lLength = right.slice 0 lLength)
  (fits : lLength ≤ cMaxUSBPacketSize) (reader : USBReader)

include same fits

theorem handleFirst_withBuffer :
    ((reader.withBuffer left).handleFirst lLength).withBuffer right =
      (reader.withBuffer right).handleFirst lLength := by
  have mode := isDebugPrintCommand_eq_of_start same fits
  unfold USBReader.handleFirst
  simp only [USBReader.mTemporaryReceiveBuffer_withBuffer, mode]
  by_cases found : isDebugPrintCommand right lLength > 0
  · have long : cAsyncHeaderAndSubHeaderSize < lLength := by
      unfold isDebugPrintCommand at found
      split at found
      · next long =>
          simp only [toUnsigned_natCast, cMaxUSBPacketSize,
            cAsyncHeaderAndSubHeaderSize] at long fits ⊢
          omega
      · exact absurd found (Nat.lt_irrefl 0)
    have size : wordAt left 16 = wordAt right 16 :=
      wordAt_eq_of_start same (by
        simp only [cAsyncHeaderAndSubHeaderSize] at long
        omega)
    have count :
        toUnsigned ((lLength : Int) - cAsyncHeaderAndSubHeaderSize) =
          lLength - cAsyncHeaderAndSubHeaderSize := by
      simp only [toUnsigned, cMaxUSBPacketSize,
        cAsyncHeaderAndSubHeaderSize] at long fits ⊢
      omega
    have packet := fun stitch =>
      packetFrom_eq_of_start same reader
        (Nat.le_of_eq (Nat.add_sub_of_le (Nat.le_of_lt long))) stitch
    simp only [if_pos found, size, count, packet]
    by_cases asPacket : isDebugPrintCommand right lLength = cAsyncModePacket
    · simp only [if_pos asPacket, Handled.withBuffer, USBReader.withBuffer]
    · simp only [if_neg asPacket]
      rfl
  · simp only [if_neg found]
    rfl

theorem handleContinuation_withBuffer (long : cAsyncHeaderSize ≤ lLength) :
    ((reader.withBuffer left).handleContinuation lLength).withBuffer right =
      (reader.withBuffer right).handleContinuation lLength := by
  have count :
      toUnsigned ((lLength : Int) - cAsyncHeaderSize) =
        lLength - cAsyncHeaderSize := by
    simp only [toUnsigned, cMaxUSBPacketSize, cAsyncHeaderSize] at long fits ⊢
    omega
  have packet := fun stitch =>
    packetFrom_eq_of_start same reader
      (Nat.le_of_eq (Nat.add_sub_of_le long)) stitch
  unfold USBReader.handleContinuation
  simp only [count, packet]
  rfl

theorem handleAsynchronous_withBuffer (long : cAsyncHeaderSize ≤ lLength) :
    ((reader.withBuffer left).handleAsynchronous lLength).withBuffer right =
      (reader.withBuffer right).handleAsynchronous lLength := by
  have channel : wordAt left 4 = wordAt right 4 :=
    wordAt_eq_of_start same long
  have first := handleFirst_withBuffer same fits reader
  have continuation := handleContinuation_withBuffer same fits reader long
  unfold USBReader.handleAsynchronous
  simp only [USBReader.mTemporaryReceiveBuffer_withBuffer,
    USBReader.mReceiveStitching_withBuffer, channel]
  by_cases onChannel : wordAt right 4 = cAsyncUserChannel
  · simp only [if_pos onChannel]
    cases reader.mReceiveStitching with
    | false => exact first
    | true => exact continuation
  · simp only [if_neg onChannel]
    rfl

theorem receiveCallback_withBuffer (readLength : reader.mLength = lLength) :
    (reader.withBuffer left).receiveCallback.withBuffer right =
      (reader.withBuffer right).receiveCallback := by
  have length : toUnsigned reader.mLength = lLength := by
    rw [readLength]
    simp only [toUnsigned_natCast, cMaxUSBPacketSize] at fits ⊢
    omega
  unfold USBReader.receiveCallback
  simp only [USBReader.mTemporaryReceiveBuffer_withBuffer,
    USBReader.mLength_withBuffer, length]
  split
  · next long =>
      simp only [cHostFSHeaderSize] at long
      have magic : wordAt left 0 = wordAt right 0 :=
        wordAt_eq_of_start same (by omega)
      have command : wordAt left 4 = wordAt right 4 :=
        wordAt_eq_of_start same (by omega)
      simp only [magic, command]
      split
      · split <;> rfl
      · split
        · rw [readLength, ← handleAsynchronous_withBuffer same fits reader
            (Nat.le_trans (by decide) long)]
          rfl
        · rfl
  · rfl

end Handling

/-! ## Runs -/

/-- What a bulk read left behind: the receive buffer, and how many bytes at
its start are new. -/
structure BufferRead where
  mTemporaryReceiveBuffer : FixedArray UInt8 cMaxUSBPacketSize
  lLength : Nat
  positive : 0 < lLength
  fits : lLength ≤ cMaxUSBPacketSize

namespace BufferRead

/-- Reads of the same bytes. -/
structure Alike (left right : BufferRead) : Prop where
  length : left.lLength = right.lLength
  bytes :
    left.mTemporaryReceiveBuffer.slice 0 left.lLength =
      right.mTemporaryReceiveBuffer.slice 0 left.lLength

end BufferRead

namespace USBReader

/-- The reader after a bulk read, before the bytes are handled. -/
def afterRead (reader : USBReader) (read : BufferRead) : USBReader :=
  { reader with
    mTemporaryReceiveBuffer := read.mTemporaryReceiveBuffer
    mLength := read.lLength
    mRetryCounter := 0 }

end USBReader

namespace ReceivePath

inductive BufferAction where
  /-- A bulk read, with whatever it leaves in the buffer. -/
  | bulkRead (read : BufferRead)
  | receiveThread

def bufferStep (path : ReceivePath) : BufferAction → Option ReceivePath
  | .bulkRead read =>
      some (path.deliver (path.reader.afterRead read).receiveCallback)
  | .receiveThread => path.step .receiveThread

def bufferMachine : LabelledMachine ReceivePath BufferAction := ⟨bufferStep⟩

/-- The actions of two runs with the same schedule, which read the same
bytes. -/
inductive BufferAction.Alike : BufferAction → BufferAction → Prop where
  | bulkRead {left right : BufferRead} (reads : left.Alike right) :
      Alike (.bulkRead left) (.bulkRead right)
  | receiveThread : Alike .receiveThread .receiveThread

/-- Nothing but the receive buffers differ. -/
structure SameButBuffer (left right : ReceivePath) : Prop where
  reader :
    left.reader.withBuffer right.reader.mTemporaryReceiveBuffer = right.reader
  thread : left.thread = right.thread
  sent : left.sent = right.sent
  copies : left.copies = right.copies

theorem deliver_sameButBuffer {left right : ReceivePath}
    (same : left.SameButBuffer right) (handled : Handled)
    (buffer : FixedArray UInt8 cMaxUSBPacketSize) :
    (left.deliver handled).SameButBuffer
      (right.deliver (handled.withBuffer buffer)) where
  reader := rfl
  thread := by simp only [deliver, Handled.withBuffer, same.thread]
  sent := same.sent
  copies := by simp only [deliver, Handled.withBuffer, same.copies]

theorem bufferStep_sameButBuffer {left right leftNext rightNext : ReceivePath}
    {leftAction rightAction : BufferAction} (same : left.SameButBuffer right)
    (alike : leftAction.Alike rightAction)
    (leftTaken : left.bufferStep leftAction = some leftNext)
    (rightTaken : right.bufferStep rightAction = some rightNext) :
    leftNext.SameButBuffer rightNext := by
  cases alike with
  | bulkRead reads =>
      rename_i leftRead rightRead
      simp only [bufferStep, Option.some.injEq] at leftTaken rightTaken
      subst leftNext rightNext
      have handled :=
        receiveCallback_withBuffer reads.bytes leftRead.fits
          (left.reader.afterRead leftRead) rfl
      have reader :
          (left.reader.afterRead leftRead).withBuffer
              rightRead.mTemporaryReceiveBuffer =
            right.reader.afterRead rightRead := by
        rw [← same.reader]
        simp only [USBReader.afterRead, USBReader.withBuffer, reads.length]
      rw [reader] at handled
      rw [← handled]
      exact deliver_sameButBuffer same _ _
  | receiveThread =>
      simp only [bufferStep, step, Option.some.injEq] at leftTaken rightTaken
      subst leftNext rightNext
      exact
        { reader := same.reader
          thread := by rw [same.thread]
          sent := by rw [same.thread, same.sent]
          copies := by rw [same.thread, same.copies] }

/-- Two runs with the same schedule, whose reads return the same bytes, forward
the same payloads and are left in the same state, whatever the receive buffers
hold behind these bytes. -/
theorem forwarding_ignores_stale_bytes
    {left right leftFinish rightFinish : ReceivePath}
    {leftActions rightActions : List BufferAction}
    (same : left.SameButBuffer right)
    (alike : List.Forall₂ BufferAction.Alike leftActions rightActions)
    (leftReached : bufferMachine.run left leftActions = some leftFinish)
    (rightReached : bufferMachine.run right rightActions = some rightFinish) :
    leftFinish.sent = rightFinish.sent ∧
      leftFinish.reader.mError = rightFinish.reader.mError ∧
      leftFinish.reader.mReceiveStitching =
        rightFinish.reader.mReceiveStitching ∧
      leftFinish.thread.mQueue = rightFinish.thread.mQueue := by
  have atEnd : leftFinish.SameButBuffer rightFinish := by
    refine LabelledMachine.run_related SameButBuffer ?_ same alike leftReached
      rightReached
    intro left leftAction leftNext right rightAction rightNext related matching
      leftTaken rightTaken
    exact bufferStep_sameButBuffer related matching leftTaken rightTaken
  refine ⟨atEnd.sent, ?_, ?_, ?_⟩
  · rw [← atEnd.reader]
    rfl
  · rw [← atEnd.reader]
    rfl
  · rw [atEnd.thread]

/-- A single byte of a message arrives, whose header claims 400. -/
def claims400 : List UInt8 :=
  asyncCommandBytes cAsyncUserChannel ++
    asyncSubHeaderBytes cAsyncModePacket 400 cAsyncCommandSendPacket ++ [7]

/-- A read of that frame into a buffer full of another byte. -/
def readClaims400 (stale : UInt8) : BufferRead :=
  { mTemporaryReceiveBuffer := (FixedArray.fill _ stale).overwrite 0 claims400
    lLength := 25
    positive := by decide
    fits := by decide }

def forwardClaims400 (stale : UInt8) : List BufferAction :=
  [.bulkRead (readClaims400 stale), .receiveThread, .receiveThread]

theorem forwarding_ignores_stale_bytes_claims400 :
    ∃ leftFinish rightFinish,
      bufferMachine.run (start 5 60 50) (forwardClaims400 0) =
          some leftFinish ∧
        bufferMachine.run (start 5 60 50) (forwardClaims400 255) =
            some rightFinish ∧
          leftFinish.sent = [[7]] ∧ leftFinish.sent = rightFinish.sent := by
  have leftRuns : (bufferMachine.run (start 5 60 50) (forwardClaims400 0)).any
      (fun finish => decide (finish.sent = [[7]])) = true := by
    decide +kernel
  have rightRuns :
      (bufferMachine.run (start 5 60 50) (forwardClaims400 255)).isSome := by
    decide +kernel
  obtain ⟨leftFinish, leftReached, forwarded⟩ :=
    (Option.any_eq_true _ _).mp leftRuns
  obtain ⟨rightFinish, rightReached⟩ := Option.isSome_iff_exists.mp rightRuns
  have alike : (readClaims400 0).Alike (readClaims400 255) :=
    ⟨rfl, by decide +kernel⟩
  refine ⟨leftFinish, rightFinish, leftReached, rightReached,
    of_decide_eq_true forwarded, ?_⟩
  exact (forwarding_ignores_stale_bytes ⟨rfl, rfl, rfl, rfl⟩
    (.cons (.bulkRead alike) (.cons .receiveThread (.cons .receiveThread .nil)))
    leftReached rightReached).1

/-! ## The receive path as it is -/

/-- The read of the receive path leaves the stale bytes in place. -/
theorem bufferStep_of_bulkRead {path next : ReceivePath} {bytes : List UInt8}
    (taken : path.step (.bulkRead bytes) = some next) :
    ∃ read : BufferRead,
      read.lLength = bytes.length ∧
        read.mTemporaryReceiveBuffer.slice 0 bytes.length = bytes ∧
          path.bufferStep (.bulkRead read) = some next := by
  simp only [step, Option.ite_none_right_eq_some] at taken
  obtain ⟨⟨positive, fits⟩, handled⟩ := taken
  refine ⟨⟨path.reader.mTemporaryReceiveBuffer.overwrite 0 bytes,
    bytes.length, positive, fits⟩, rfl,
    FixedArray.slice_overwrite_zero fits, ?_⟩
  rw [← handled]
  rfl

theorem step_sameButBuffer {left right leftNext rightNext : ReceivePath}
    {action : Action} (allowed : action.isBulkRead ∨ action.isReceiveThread)
    (same : left.SameButBuffer right)
    (leftTaken : left.step action = some leftNext)
    (rightTaken : right.step action = some rightNext) :
    leftNext.SameButBuffer rightNext := by
  rcases Action.bulkRead_or_receiveThread allowed with ⟨bytes, rfl⟩ | rfl
  · obtain ⟨leftRead, leftLength, leftBytes, leftStep⟩ :=
      bufferStep_of_bulkRead leftTaken
    obtain ⟨rightRead, rightLength, rightBytes, rightStep⟩ :=
      bufferStep_of_bulkRead rightTaken
    have reads : leftRead.Alike rightRead :=
      ⟨leftLength.trans rightLength.symm, by
        rw [leftLength, leftBytes, rightBytes]⟩
    exact bufferStep_sameButBuffer same (.bulkRead reads) leftStep rightStep
  · exact bufferStep_sameButBuffer same .receiveThread leftTaken rightTaken

/-- What the receive buffer holds before the first read never matters. -/
theorem run_sameButBuffer {left right leftFinish rightFinish : ReceivePath}
    {actions : List Action} (only : OnlyBulkReads actions)
    (same : left.SameButBuffer right)
    (leftReached : machine.run left actions = some leftFinish)
    (rightReached : machine.run right actions = some rightFinish) :
    leftFinish.SameButBuffer rightFinish := by
  have alike : List.Forall₂
      (fun leftAction rightAction => leftAction = rightAction ∧
        (leftAction.isBulkRead ∨ leftAction.isReceiveThread))
      actions actions := by
    rw [List.forall₂_same]
    exact fun action member => ⟨rfl, only action member⟩
  refine LabelledMachine.run_related SameButBuffer ?_ same alike leftReached
    rightReached
  rintro left action leftNext right _ rightNext related ⟨rfl, allowed⟩
    leftTaken rightTaken
  exact step_sameButBuffer allowed related leftTaken rightTaken

end ReceivePath

end CWUSB
