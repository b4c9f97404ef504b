import CWUSB.Library.LabelledMachine
import CWUSB.USBReader
import CWUSB.USBReceiveThread

/-!
# The receive path

The reader and the receive thread as two parties with a queue between them.
One step of the reader handles one bulk read; the thread steps in between in
any order.  Whatever the schedule, the thread is a bounded reassembler of the
packets it was given: `outcome` says what it will hold and will have sent
once its queue is drained, and no step of the thread changes it.
-/

namespace CWUSB

namespace USBReader

/-- The reader after a successful bulk read, before the bytes are handled. -/
def received (reader : USBReader) (bytes : List UInt8) : USBReader :=
  { reader.fillBuffer bytes with
    mLength := bytes.length
    mRetryCounter := 0 }

/-- The length of a frame survives the conversion to unsigned. -/
theorem received_length (reader : USBReader) {bytes : List UInt8}
    (fits : bytes.length ≤ cMaxUSBPacketSize) :
    toUnsigned (reader.received bytes).mLength = bytes.length := by
  simp only [received, toUnsigned_natCast]
  simp only [cMaxUSBPacketSize] at fits
  omega

/-- A received frame given to `HandleAsynchronous`. -/
def handleFrame (reader : USBReader) (bytes : List UInt8) : Handled :=
  (reader.received bytes).handleAsynchronous bytes.length

/-- A received frame given to `ReceiveCallback`. -/
def callbackFrame (reader : USBReader) (bytes : List UInt8) : Handled :=
  (reader.received bytes).receiveCallback

end USBReader

structure ReceivePath where
  reader : USBReader
  thread : USBReceiveThread
  /-- The payloads handed to `mConnection.Send`. -/
  sent : List (List UInt8) := []
  /-- All copies made so far. -/
  copies : List BlockCopy := []
deriving DecidableEq

namespace ReceivePath

inductive Action where
  /-- A bulk read whose bytes go through `ReceiveCallback`. -/
  | bulkRead (bytes : List UInt8)
  /-- A read whose bytes are given to `HandleAsynchronous` directly. -/
  | handleAsynchronous (bytes : List UInt8)
  | receiveThread
  | handleError (devices : DeviceList)

/-- Hand the packet of a handled read, if any, to `AddToQueue`.  The reader
ignores what it returns. -/
def deliver (path : ReceivePath) (handled : Handled) : ReceivePath :=
  { path with
    reader := handled.reader
    thread :=
      match handled.queued with
      | none => path.thread
      | some lPacket => (path.thread.addToQueue lPacket).thread
    copies := path.copies ++ handled.copies }

@[simp] theorem deliver_copies (path : ReceivePath) (handled : Handled) :
    (path.deliver handled).copies = path.copies ++ handled.copies := rfl

theorem deliver_thread_none (path : ReceivePath) {handled : Handled}
    (nothing : handled.queued = none) :
    (path.deliver handled).thread = path.thread := by
  simp [deliver, nothing]

theorem deliver_thread_some (path : ReceivePath) {handled : Handled}
    {packet : BinaryStitchUSBPacket} (queued : handled.queued = some packet) :
    (path.deliver handled).thread =
      (path.thread.addToQueue packet).thread := by
  simp [deliver, queued]

def step (path : ReceivePath) : Action → Option ReceivePath
  | .bulkRead bytes =>
      if 0 < bytes.length ∧ bytes.length ≤ cMaxUSBPacketSize then
        some (path.deliver (path.reader.callbackFrame bytes))
      else none
  | .handleAsynchronous bytes =>
      if 0 < bytes.length ∧ bytes.length ≤ cMaxUSBPacketSize then
        some (path.deliver (path.reader.handleFrame bytes))
      else none
  | .receiveThread =>
      let stepped := path.thread.step
      some
        { path with
          thread := stepped.thread
          sent := path.sent ++ stepped.sent.toList
          copies := path.copies ++ stepped.copies }
  | .handleError devices =>
      some
        { path with
          reader := path.reader.handleError devices
          thread := path.thread.clearQueues }

def machine : LabelledMachine ReceivePath Action := ⟨step⟩

/-- Both parties as constructed: no message in progress, nothing queued. -/
structure Idle (path : ReceivePath) : Prop where
  notStitching : path.reader.mReceiveStitching = false
  nothingReceived : path.thread.mLastReceivedMessage = .zero
  nothingQueued : path.thread.mQueue = []
  nothingInHand : path.thread.lFrontOfQueue = none
  nothingSent : path.sent = []
  nothingCopied : path.copies = []

/-- The path after construction. -/
def start (mMaxFatalRetries mMaxReadWriteRetries mMaxBufferSize : Int) :
    ReceivePath :=
  { reader :=
      { mMaxFatalRetries := mMaxFatalRetries
        mMaxReadWriteRetries := mMaxReadWriteRetries }
    thread := { mMaxBufferSize := mMaxBufferSize } }

theorem start_idle (mMaxFatalRetries mMaxReadWriteRetries
    mMaxBufferSize : Int) :
    (start mMaxFatalRetries mMaxReadWriteRetries mMaxBufferSize).Idle where
  notStitching := rfl
  nothingReceived := rfl
  nothingQueued := rfl
  nothingInHand := rfl
  nothingSent := rfl
  nothingCopied := rfl

/-- The receive thread has handled everything it was given. -/
def Drained (path : ReceivePath) : Prop :=
  path.thread.mQueue = [] ∧ path.thread.lFrontOfQueue = none

instance (path : ReceivePath) : Decidable path.Drained :=
  inferInstanceAs (Decidable (_ ∧ _))

/-- A packet of the next read would find room in the queue. -/
def RoomForRead (path : ReceivePath) : Action → Prop
  | .bulkRead _ | .handleAsynchronous _ => path.thread.hasRoom = true
  | .receiveThread | .handleError _ => True

instance (path : ReceivePath) :
    (action : Action) → Decidable (path.RoomForRead action)
  | .bulkRead _ | .handleAsynchronous _ =>
      inferInstanceAs (Decidable (_ = true))
  | .receiveThread | .handleError _ => inferInstanceAs (Decidable True)

/-- No packet of a read finds the queue full. -/
def NeverFull (path : ReceivePath) (actions : List Action) : Prop :=
  machine.Guarded RoomForRead path actions

instance (path : ReceivePath) (actions : List Action) :
    Decidable (path.NeverFull actions) :=
  inferInstanceAs (Decidable (machine.Guarded _ _ _))

/-! ## Schedules -/

def Action.frame : Action → Option (List UInt8)
  | .bulkRead bytes | .handleAsynchronous bytes => some bytes
  | .receiveThread | .handleError _ => none

def Action.isBulkRead : Action → Bool
  | .bulkRead _ => true
  | _ => false

def Action.isHandleAsynchronous : Action → Bool
  | .handleAsynchronous _ => true
  | _ => false

def Action.isReceiveThread : Action → Bool
  | .receiveThread => true
  | _ => false

/-- The frames a schedule reads, in order. -/
def framesRead (actions : List Action) : List (List UInt8) :=
  actions.filterMap Action.frame

theorem Action.bulkRead_or_receiveThread {action : Action}
    (allowed : action.isBulkRead ∨ action.isReceiveThread) :
    (∃ bytes, action = .bulkRead bytes) ∨ action = .receiveThread := by
  cases action <;> simp [isBulkRead, isReceiveThread] at allowed ⊢

theorem Action.handleAsynchronous_or_receiveThread {action : Action}
    (allowed : action.isHandleAsynchronous ∨ action.isReceiveThread) :
    (∃ bytes, action = .handleAsynchronous bytes) ∨
      action = .receiveThread := by
  cases action <;> simp [isHandleAsynchronous, isReceiveThread] at allowed ⊢

/-- The schedule consists of `HandleAsynchronous` calls and steps of the
receive thread. -/
def OnlyHandleAsynchronous (actions : List Action) : Prop :=
  ∀ action ∈ actions, action.isHandleAsynchronous ∨ action.isReceiveThread

/-- The schedule consists of bulk reads and steps of the receive thread. -/
def OnlyBulkReads (actions : List Action) : Prop :=
  ∀ action ∈ actions, action.isBulkRead ∨ action.isReceiveThread

instance (actions : List Action) :
    Decidable (OnlyHandleAsynchronous actions) :=
  inferInstanceAs (Decidable (∀ action ∈ actions, _))

instance (actions : List Action) : Decidable (OnlyBulkReads actions) :=
  inferInstanceAs (Decidable (∀ action ∈ actions, _))

theorem framesRead_append_bulkRead (past : List Action)
    (bytes : List UInt8) :
    framesRead (past ++ [.bulkRead bytes]) = framesRead past ++ [bytes] := by
  simp [framesRead, Action.frame]

theorem framesRead_append_receiveThread (past : List Action) :
    framesRead (past ++ [.receiveThread]) = framesRead past := by
  simp [framesRead, Action.frame]

theorem framesRead_append_handleAsynchronous (past : List Action)
    (bytes : List UInt8) :
    framesRead (past ++ [.handleAsynchronous bytes]) =
      framesRead past ++ [bytes] := by
  simp [framesRead, Action.frame]

/-- Every frame is read and worked off before the next one. -/
def oneByOne (frames : List (List UInt8)) : List Action :=
  frames.flatMap fun frame =>
    [.bulkRead frame, .receiveThread, .receiveThread]

end ReceivePath

/-! ## The receive thread is a bounded reassembler -/

namespace BinaryStitchWiFiPacket

/-- The bytes collected of a message which is not complete. -/
def collected (message : BinaryStitchWiFiPacket) : List UInt8 :=
  if message.stitch then message.data.slice 0 message.length.toNat else []

/-- A message is either reset, or incomplete with some bytes and within its
buffer. -/
structure WellFormed (message : BinaryStitchWiFiPacket) : Prop where
  reset : message.stitch = false → message = .zero
  filled : message.stitch = true → 0 < message.length.toNat
  within : message.length.toNat ≤ cMaxAsynchronousBuffer

theorem zero_wellFormed : WellFormed .zero where
  reset := fun _ => rfl
  filled := by decide
  within := by decide

theorem WellFormed.length_collected {message : BinaryStitchWiFiPacket}
    (wellFormed : message.WellFormed) :
    message.collected.length = message.length.toNat := by
  unfold collected
  split
  · apply FixedArray.length_slice_of_le
    rw [Nat.zero_add]
    exact wellFormed.within
  · next stitch =>
      rw [wellFormed.reset (by simpa using stitch)]
      rfl

/-- Nothing is collected exactly when the message is reset. -/
theorem WellFormed.collected_eq_nil {message : BinaryStitchWiFiPacket}
    (wellFormed : message.WellFormed) :
    message.collected = [] ↔ message = .zero := by
  constructor
  · intro nothing
    have length := wellFormed.length_collected
    rw [nothing, List.length_nil] at length
    apply wellFormed.reset
    by_contra stitched
    have positive := wellFormed.filled (by simpa using stitched)
    omega
  · rintro rfl
    rfl

end BinaryStitchWiFiPacket

namespace USBReceiveThread

/-- The packets the thread has been given and not yet worked on. -/
def pending (thread : USBReceiveThread) : List BinaryStitchUSBPacket :=
  thread.lFrontOfQueue.toList ++ thread.mQueue

structure WellFormed (thread : USBReceiveThread) : Prop where
  message : thread.mLastReceivedMessage.WellFormed
  packets : ∀ packet ∈ thread.pending,
    packet.WellFormed ∧ 0 < packet.length.toNat

/-- What the thread will hold and send once its queue is drained. -/
def outcome (thread : USBReceiveThread) :
    List UInt8 × List (List UInt8) :=
  Stitching.assemble cMaxAsynchronousBuffer
    thread.mLastReceivedMessage.collected
    (thread.pending.map BinaryStitchUSBPacket.piece)

section Append

variable {thread : USBReceiveThread} {packet : BinaryStitchUSBPacket}

theorem append_length (message : thread.mLastReceivedMessage.WellFormed)
    (wellFormed : packet.WellFormed) :
    (thread.append packet).length.toNat =
      (thread.mLastReceivedMessage.collected ++ packet.bytes).length := by
  have within := message.within
  have small := wellFormed
  simp only [BinaryStitchUSBPacket.WellFormed, cMaxUSBPacketSize] at small
  simp only [cMaxAsynchronousBuffer] at within
  rw [List.length_append, message.length_collected, wellFormed.length_bytes]
  unfold append
  split
  · rw [UInt16.toNat_add]
    omega
  · next stitch =>
      rw [message.reset (by simpa using stitch)]
      simp [BinaryStitchWiFiPacket.zero]

private theorem append_stitch :
    (thread.append packet).stitch = packet.stitch := by
  unfold append
  split <;> rfl

/-- While it fits, the joined message is what was collected and the packet
behind it. -/
private theorem append_bytes (message : thread.mLastReceivedMessage.WellFormed)
    (wellFormed : packet.WellFormed)
    (fits : (thread.append packet).length.toNat ≤ cMaxAsynchronousBuffer) :
    (thread.append packet).data.slice 0 (thread.append packet).length.toNat =
      thread.mLastReceivedMessage.collected ++ packet.bytes := by
  have length := append_length message wellFormed
  have packetLength := wellFormed.length_bytes
  have messageLength := message.length_collected
  rw [length] at fits ⊢
  rw [List.length_append, messageLength] at fits ⊢
  unfold append BinaryStitchWiFiPacket.collected
  split
  · exact FixedArray.slice_overwrite fits
  · next stitch =>
      rw [message.reset (by simpa using stitch)] at fits ⊢
      simp only [BinaryStitchWiFiPacket.zero, UInt16.toNat_zero,
        Nat.zero_add] at fits ⊢
      exact FixedArray.slice_overwrite_zero fits

theorem appendAndForward_pending :
    (thread.appendAndForward packet).thread.pending = thread.pending := by
  unfold appendAndForward
  dsimp only
  split
  · rfl
  · split <;> rfl

theorem appendAndForward_copies :
    (thread.appendAndForward packet).copies =
      [thread.appendCopy packet] := by
  unfold appendAndForward
  dsimp only
  split
  · rfl
  · split <;> rfl

variable (thread) in
/-- Working on a packet takes in its piece. -/
theorem appendAndForward_absorb
    (message : thread.mLastReceivedMessage.WellFormed)
    (wellFormed : packet.WellFormed) :
    ((thread.appendAndForward packet).thread.mLastReceivedMessage.collected,
        (thread.appendAndForward packet).sent) =
      Stitching.absorb cMaxAsynchronousBuffer
        thread.mLastReceivedMessage.collected packet.piece := by
  have length := append_length message wellFormed
  rw [List.length_append] at length
  unfold appendAndForward
  dsimp only
  by_cases long : (thread.append packet).length.toNat > cMaxAsynchronousBuffer
  · have beyond : cMaxAsynchronousBuffer <
        thread.mLastReceivedMessage.collected.length +
          packet.piece.body.length := by
      have joined := long
      rw [length] at joined
      exact joined
    rw [if_pos long, Stitching.absorb_beyond beyond]
    rfl
  · have fits : (thread.append packet).length.toNat ≤ cMaxAsynchronousBuffer :=
      Nat.le_of_not_lt long
    have bytes := append_bytes message wellFormed fits
    rw [length] at fits
    rw [if_neg long, BinaryStitchUSBPacket.piece]
    by_cases stitch : packet.stitch = true
    · rw [if_neg (by simp [stitch]), stitch, Stitching.absorb_more fits]
      simp only [BinaryStitchWiFiPacket.collected, append_stitch, stitch,
        if_true, bytes]
    · have whole : packet.stitch = false := by simpa using stitch
      rw [if_pos (by simp [whole]), whole, Stitching.absorb_last fits, bytes]
      rfl

theorem appendAndForward_wellFormed
    (message : thread.mLastReceivedMessage.WellFormed)
    (wellFormed : packet.WellFormed)
    (filled : packet.stitch = true → 0 < packet.length.toNat) :
    (thread.appendAndForward
      packet).thread.mLastReceivedMessage.WellFormed := by
  have length := append_length message wellFormed
  rw [List.length_append, wellFormed.length_bytes] at length
  unfold appendAndForward
  dsimp only
  split
  · exact BinaryStitchWiFiPacket.zero_wellFormed
  · next short =>
      split
      · exact BinaryStitchWiFiPacket.zero_wellFormed
      · next stitch =>
          exact
            { reset := by
                intro notStitched
                rw [append_stitch] at notStitched
                simp [notStitched] at stitch
              filled := fun stitched => by
                rw [append_stitch] at stitched
                have positive := filled stitched
                dsimp only
                omega
              within := Nat.le_of_not_lt short }

/-- A packet is copied behind what was collected. -/
theorem appendOffset_eq (message : thread.mLastReceivedMessage.WellFormed) :
    thread.appendOffset = thread.mLastReceivedMessage.collected.length := by
  rw [message.length_collected]
  unfold appendOffset
  split
  · rfl
  · next stitch =>
      rw [message.reset (by simpa using stitch)]
      rfl

variable (thread) in
/-- The copy of a packet is in bounds exactly when its piece fits behind what
was collected. -/
theorem appendCopy_inBounds (message : thread.mLastReceivedMessage.WellFormed)
    (wellFormed : packet.WellFormed) :
    (thread.appendCopy packet).InBounds ↔
      thread.mLastReceivedMessage.collected.length +
        packet.piece.body.length ≤ cMaxAsynchronousBuffer := by
  have offset := appendOffset_eq message
  have packetLength := wellFormed.length_bytes
  simp only [BlockCopy.InBounds, appendCopy, offset,
    BinaryStitchUSBPacket.piece, packetLength]
  simp only [BinaryStitchUSBPacket.WellFormed] at wellFormed
  omega

end Append

/-- A step of the thread changes nothing about what it will hold and send,
except that some of it is sent now. -/
theorem step_outcome {thread : USBReceiveThread}
    (wellFormed : thread.WellFormed) :
    (thread.step.thread.outcome.1,
        thread.step.sent.toList ++ thread.step.thread.outcome.2) =
      thread.outcome := by
  obtain ⟨mMaxBufferSize, message, mQueue, lFrontOfQueue⟩ := thread
  cases lFrontOfQueue with
  | none =>
      cases mQueue with
      | nil => rfl
      | cons packet rest => rfl
  | some packet =>
      have packetWellFormed :=
        (wellFormed.packets packet (by simp [pending])).1
      have absorbed := appendAndForward_absorb
        ⟨mMaxBufferSize, message, mQueue, none⟩
        wellFormed.message packetWellFormed
      simp only [outcome, step, appendAndForward_pending]
      simp only [pending, Option.toList_some, Option.toList_none,
        List.cons_append, List.nil_append, List.map_cons,
        Stitching.assemble_cons, ← absorbed]

theorem step_wellFormed {thread : USBReceiveThread}
    (wellFormed : thread.WellFormed) : thread.step.thread.WellFormed := by
  obtain ⟨mMaxBufferSize, message, mQueue, lFrontOfQueue⟩ := thread
  cases lFrontOfQueue with
  | none =>
      cases mQueue with
      | nil => exact wellFormed
      | cons packet rest => exact ⟨wellFormed.message, wellFormed.packets⟩
  | some packet =>
      obtain ⟨packetWellFormed, filled⟩ :=
        wellFormed.packets packet (by simp [pending])
      refine ⟨appendAndForward_wellFormed wellFormed.message
        packetWellFormed fun _ => filled, ?_⟩
      intro other member
      apply wellFormed.packets other
      have queue : other ∈ mQueue := by
        simp only [step, appendAndForward] at member
        split at member
        · exact member
        · split at member <;> exact member
      simp [pending, queue]

/-- An accepted packet is taken in behind everything already given. -/
theorem addToQueue_outcome {thread : USBReceiveThread}
    (room : thread.hasRoom = true) (packet : BinaryStitchUSBPacket) :
    (thread.addToQueue packet).thread.outcome =
      ((Stitching.absorb cMaxAsynchronousBuffer thread.outcome.1
          packet.piece).1,
        thread.outcome.2 ++
          (Stitching.absorb cMaxAsynchronousBuffer thread.outcome.1
            packet.piece).2.toList) := by
  simp only [addToQueue, room, if_true, outcome, pending]
  rw [← List.append_assoc, List.map_append, Stitching.assemble_append]
  simp [Stitching.assemble_cons]

theorem addToQueue_full {thread : USBReceiveThread}
    (full : thread.hasRoom = false) (packet : BinaryStitchUSBPacket) :
    (thread.addToQueue packet).thread = thread := by
  simp [addToQueue, full]

theorem addToQueue_wellFormed {thread : USBReceiveThread}
    {packet : BinaryStitchUSBPacket} (wellFormed : thread.WellFormed)
    (packetWellFormed : packet.WellFormed)
    (filled : 0 < packet.length.toNat) :
    (thread.addToQueue packet).thread.WellFormed := by
  unfold addToQueue
  split
  · refine ⟨wellFormed.message, ?_⟩
    intro other member
    simp only [pending, ← List.append_assoc] at member
    rcases List.mem_append.mp member with earlier | last
    · exact wellFormed.packets other earlier
    · rw [List.mem_singleton.mp last]
      exact ⟨packetWellFormed, filled⟩
  · exact wellFormed

end USBReceiveThread

/-! ## Reassembly on any schedule -/

namespace ReceivePath

/-- The thread has been given packets carrying these pieces: what it has sent
and what it will still send are the messages they complete. -/
structure Reassembles (pieces : List (Stitching.Piece UInt8))
    (path : ReceivePath) : Prop where
  wellFormed : path.thread.WellFormed
  held : path.thread.outcome.1 =
    (Stitching.assemble cMaxAsynchronousBuffer [] pieces).1
  messages : path.sent ++ path.thread.outcome.2 =
    (Stitching.assemble cMaxAsynchronousBuffer [] pieces).2

theorem Idle.reassembles {path : ReceivePath} (idle : path.Idle) :
    path.Reassembles [] := by
  obtain ⟨reader, ⟨mMaxBufferSize, message, mQueue, lFrontOfQueue⟩, sent,
    copies⟩ := path
  obtain ⟨_, received, queued, inHand, nothingSent, _⟩ := idle
  dsimp only at received queued inHand nothingSent
  subst message mQueue lFrontOfQueue sent
  exact
    { wellFormed :=
        { message := BinaryStitchWiFiPacket.zero_wellFormed
          packets := by simp [USBReceiveThread.pending] }
      held := rfl
      messages := rfl }

namespace Reassembles

variable {pieces : List (Stitching.Piece UInt8)} {path : ReceivePath}

theorem receiveThread {next : ReceivePath}
    (reassembles : path.Reassembles pieces)
    (taken : path.step .receiveThread = some next) :
    next.Reassembles pieces := by
  simp only [ReceivePath.step, Option.some.injEq] at taken
  subst next
  have outcome := USBReceiveThread.step_outcome reassembles.wellFormed
  refine ⟨USBReceiveThread.step_wellFormed reassembles.wellFormed, ?_, ?_⟩
  · rw [← reassembles.held, ← outcome]
  · rw [← reassembles.messages, ← outcome, List.append_assoc]

/-- A packet that finds room is one more piece given. -/
theorem deliver {handled : Handled} {packet : BinaryStitchUSBPacket}
    (reassembles : path.Reassembles pieces)
    (queued : handled.queued = some packet)
    (packetWellFormed : packet.WellFormed)
    (filled : 0 < packet.length.toNat)
    (room : path.thread.hasRoom = true) :
    (path.deliver handled).Reassembles (pieces ++ [packet.piece]) := by
  have grown := USBReceiveThread.addToQueue_outcome room packet
  have assembled := Stitching.assemble_append cMaxAsynchronousBuffer
    ([] : List UInt8) pieces [packet.piece]
  have thread := path.deliver_thread_some queued
  refine ⟨thread ▸ USBReceiveThread.addToQueue_wellFormed reassembles.wellFormed
    packetWellFormed filled, ?_, ?_⟩
  · rw [thread, grown, assembled, reassembles.held]
    rfl
  · rw [thread, grown, assembled, ← reassembles.messages, reassembles.held,
      Stitching.assemble_cons]
    simp [ReceivePath.deliver]

/-- A refused packet changes nothing for the thread. -/
theorem deliver_full {handled : Handled} {packet : BinaryStitchUSBPacket}
    (reassembles : path.Reassembles pieces)
    (queued : handled.queued = some packet)
    (full : path.thread.hasRoom = false) :
    (path.deliver handled).Reassembles pieces := by
  have thread := (path.deliver_thread_some queued).trans
    (USBReceiveThread.addToQueue_full full packet)
  constructor <;> rw [thread]
  · exact reassembles.wellFormed
  · exact reassembles.held
  · exact reassembles.messages

theorem deliver_nothing {handled : Handled}
    (reassembles : path.Reassembles pieces)
    (nothing : handled.queued = none) :
    (path.deliver handled).Reassembles pieces := by
  have thread := path.deliver_thread_none nothing
  constructor <;> rw [thread]
  · exact reassembles.wellFormed
  · exact reassembles.held
  · exact reassembles.messages

theorem sent_prefix (reassembles : path.Reassembles pieces) :
    path.sent <+:
      (Stitching.assemble cMaxAsynchronousBuffer [] pieces).2 := by
  rw [← reassembles.messages]
  exact List.prefix_append _ _

/-- Once everything given is handled, everything completed is sent. -/
theorem sent_eq (reassembles : path.Reassembles pieces)
    (drained : path.Drained) :
    path.sent =
      (Stitching.assemble cMaxAsynchronousBuffer [] pieces).2 := by
  rw [← reassembles.messages]
  simp [USBReceiveThread.outcome, USBReceiveThread.pending, drained.1,
    drained.2]

/-- Once everything given is handled, the last received message is reset
exactly when the pieces end with a message. -/
theorem reset_iff (reassembles : path.Reassembles pieces)
    (drained : path.Drained) :
    path.thread.mLastReceivedMessage = .zero ↔
      (Stitching.assemble cMaxAsynchronousBuffer [] pieces).1 = [] := by
  rw [← reassembles.wellFormed.message.collected_eq_nil,
    ← reassembles.held]
  simp [USBReceiveThread.outcome, USBReceiveThread.pending, drained.1,
    drained.2]

end Reassembles

end ReceivePath

end CWUSB
