import CWUSB.ReceivePath

/-!
# Buffer bounds of the receive path

The reader never copies outside its buffers, whatever the frames hold.  The
receive thread appends a fragment before it looks at the length, so its
copies are in bounds exactly as long as every fragment accepted still fits
behind what is left open by those before it.
-/

namespace CWUSB

theorem long_of_isDebugPrintCommand
    {aData : FixedArray UInt8 cMaxUSBPacketSize} {aLength : Int}
    (command : isDebugPrintCommand aData aLength > 0) :
    cAsyncHeaderAndSubHeaderSize < toUnsigned aLength := by
  unfold isDebugPrintCommand at command
  split at command
  · next long => exact long
  · simp at command

namespace USBReader

/-- The number of payload bytes `HandleAsynchronous` takes out of a frame, as
far as `ReceiveCallback` lets it through. -/
def payload (reader : USBReader) (bytes : List UInt8) : Nat :=
  let aData := (reader.received bytes).mTemporaryReceiveBuffer
  if cHostFSHeaderSize ≤ bytes.length ∧ wordAt aData 0 = Asynchronous ∧
      wordAt aData 4 = cAsyncUserChannel then
    if reader.mReceiveStitching then bytes.length - cAsyncHeaderSize
    else if isDebugPrintCommand aData bytes.length = cAsyncModePacket then
      bytes.length - cAsyncHeaderAndSubHeaderSize
    else 0
  else 0

/-- The copies are in bounds, and a packet queued carries the payload. -/
structure Sound (handled : Handled) (payload : Nat) : Prop where
  inBounds : ∀ copy ∈ handled.copies, copy.InBounds
  queued : ∀ packet, handled.queued = some packet →
    packet.WellFormed ∧ 0 < packet.length.toNat ∧
      packet.length.toNat = payload
  nothing : handled.queued = none → payload = 0

section Handle

variable {reader : USBReader} {bytes : List UInt8}

private theorem packetFrom_length {offset length : Nat} {stitch : Bool}
    (positive : 0 < length) (small : length ≤ 512) :
    (reader.packetFrom offset length stitch).WellFormed ∧
      0 < (reader.packetFrom offset length stitch).length.toNat ∧
      (reader.packetFrom offset length stitch).length.toNat = length := by
  have exactLength : (UInt16.ofNat length).toNat = length := by
    rw [UInt16.toNat_ofNat']
    omega
  exact ⟨exactLength.le.trans small, positive.trans_eq exactLength.symm,
    exactLength⟩

private theorem packetCopy_inBounds {offset length : Nat}
    (within : offset + length ≤ 512) :
    (packetCopy offset length).InBounds := by
  have exactLength : (UInt16.ofNat length).toNat = length := by
    rw [UInt16.toNat_ofNat']
    omega
  simp only [packetCopy, BlockCopy.InBounds, exactLength, cMaxUSBPacketSize]
  omega

private theorem stringCopy_inBounds {offset length : Nat}
    (within : offset + length ≤ 512) :
    (stringCopy offset length).InBounds := by
  simp only [stringCopy, BlockCopy.InBounds, cMaxUSBPacketSize]
  omega

private theorem handleFirst_sound (fits : bytes.length ≤ 512) :
    Sound ((reader.received bytes).handleFirst bytes.length)
      (if isDebugPrintCommand (reader.received bytes).mTemporaryReceiveBuffer
          bytes.length = cAsyncModePacket
        then bytes.length - cAsyncHeaderAndSubHeaderSize else 0) := by
  unfold handleFirst
  dsimp only
  split
  · next command =>
      have long := long_of_isDebugPrintCommand command
      simp only [toUnsigned_natCast, cAsyncHeaderAndSubHeaderSize] at long
      have behind : toUnsigned ((bytes.length : Int) - ((24 : Nat) : Int)) =
          bytes.length - 24 :=
        toUnsigned_behind (by omega) (fits.trans_lt (by decide))
      split
      · constructor
        · intro copy member
          rw [List.mem_singleton.mp member, behind]
          exact packetCopy_inBounds (by
            simp only [cAsyncHeaderAndSubHeaderSize]
            omega)
        · rintro packet ⟨rfl⟩
          rw [behind]
          exact packetFrom_length (by omega) (by omega)
        · rintro ⟨⟩
      · constructor
        · intro copy member
          rw [List.mem_singleton.mp member, behind]
          exact stringCopy_inBounds (by
            simp only [cAsyncHeaderAndSubHeaderSize]
            omega)
        · rintro packet ⟨⟩
        · exact fun _ => rfl
  · next noCommand =>
    have logged : toSize (reader.received bytes).mLength = bytes.length := by
      simp only [received]
      rw [toSize_of_range (by omega) (by omega), Int.toNat_natCast]
    constructor
    · intro copy member
      rw [List.mem_singleton.mp member, logged]
      exact stringCopy_inBounds (by omega)
    · rintro packet ⟨⟩
    · intro _
      apply if_neg
      intro packetMode
      simp [packetMode] at noCommand

private theorem handleContinuation_sound (long : 12 ≤ bytes.length)
    (fits : bytes.length ≤ 512) :
    Sound ((reader.received bytes).handleContinuation bytes.length)
      (bytes.length - cAsyncHeaderSize) := by
  have behind : toUnsigned ((bytes.length : Int) - ((8 : Nat) : Int)) =
      bytes.length - 8 :=
    toUnsigned_behind (by omega) (fits.trans_lt (by decide))
  constructor
  · intro copy member
    simp only [handleContinuation, behind, List.mem_singleton] at member
    rw [member]
    exact packetCopy_inBounds (by
      simp only [cAsyncHeaderSize]
      omega)
  · rintro packet ⟨rfl⟩
    rw [behind]
    exact packetFrom_length (by omega) (by omega)
  · rintro ⟨⟩

private theorem handleAsynchronous_sound (long : 12 ≤ bytes.length)
    (fits : bytes.length ≤ 512)
    (magic : wordAt (reader.received bytes).mTemporaryReceiveBuffer 0 =
      Asynchronous) :
    Sound ((reader.received bytes).handleAsynchronous bytes.length)
      (reader.payload bytes) := by
  unfold payload
  dsimp only
  by_cases channel : wordAt (reader.received
      bytes).mTemporaryReceiveBuffer 4 = cAsyncUserChannel
  · rw [if_pos ⟨long, magic, channel⟩, handleAsynchronous, if_pos channel]
    by_cases stitching : reader.mReceiveStitching = true
    · have still : (reader.received bytes).mReceiveStitching = true :=
        stitching
      rw [if_pos stitching, still, if_neg (by simp)]
      exact handleContinuation_sound long fits
    · have still : (reader.received bytes).mReceiveStitching = false :=
        Bool.not_eq_true _ ▸ stitching
      rw [if_neg stitching, still, if_pos (by simp)]
      exact handleFirst_sound fits
  · rw [handleAsynchronous, if_neg channel, if_neg (by simp [channel])]
    exact ⟨by simp, by simp, fun _ => rfl⟩

variable (reader) in
/-- Whatever a frame holds, handling it stays inside the buffers. -/
theorem callbackFrame_sound (fits : bytes.length ≤ cMaxUSBPacketSize) :
    Sound (reader.callbackFrame bytes) (reader.payload bytes) := by
  have total := reader.received_length fits
  by_cases message : cHostFSHeaderSize ≤ bytes.length ∧
      wordAt (reader.received bytes).mTemporaryReceiveBuffer 0 = Asynchronous
  · obtain ⟨long, magic⟩ := message
    have sound := handleAsynchronous_sound long fits magic
    rw [callbackFrame, receiveCallback_asynchronous ⟨total ▸ long, magic⟩]
    exact ⟨sound.inBounds, sound.queued, sound.nothing⟩
  · have noPayload : reader.payload bytes = 0 := by
      unfold payload
      exact if_neg fun all => message ⟨all.1, all.2.1⟩
    have other : ¬ (reader.received bytes).IsForAsynchronous := by
      rw [IsForAsynchronous, total]
      exact message
    obtain ⟨mError, helloSent, handled⟩ := receiveCallback_other other
    rw [noPayload, callbackFrame, handled]
    exact ⟨by simp, by simp, fun _ => rfl⟩

end Handle

end USBReader

namespace USBReceiveThread

/-- The length the last received message will have once the queue is drained,
when nothing is dropped. -/
def openLength (thread : USBReceiveThread) : Nat :=
  Stitching.openLength thread.mLastReceivedMessage.collected.length
    (thread.pending.map BinaryStitchUSBPacket.piece)

/-- Every pending packet fits behind what precedes it. -/
def PendingFits (thread : USBReceiveThread) : Prop :=
  Stitching.Fits cMaxAsynchronousBuffer
    thread.mLastReceivedMessage.collected
    (thread.pending.map BinaryStitchUSBPacket.piece)

/-- The copies a step makes and the packets still pending all fit exactly
when the packets pending before it did. -/
theorem step_pendingFits {thread : USBReceiveThread}
    (wellFormed : thread.WellFormed) :
    (∀ copy ∈ thread.step.copies, copy.InBounds) ∧
        thread.step.thread.PendingFits ↔
      thread.PendingFits := by
  obtain ⟨mMaxBufferSize, message, mQueue, lFrontOfQueue⟩ := thread
  cases lFrontOfQueue with
  | none =>
      cases mQueue with
      | nil => simp [step, PendingFits, pending]
      | cons packet rest => simp [step, PendingFits, pending]
  | some packet =>
      have packetWellFormed :=
        (wellFormed.packets packet (by simp [pending])).1
      have absorbed := congrArg Prod.fst (appendAndForward_absorb
        ⟨mMaxBufferSize, message, mQueue, none⟩
        wellFormed.message packetWellFormed)
      have bounded := appendCopy_inBounds
        ⟨mMaxBufferSize, message, mQueue, none⟩
        wellFormed.message packetWellFormed
      dsimp only at absorbed bounded
      simp only [step, appendAndForward_copies, List.mem_singleton,
        forall_eq, bounded, PendingFits, appendAndForward_pending, absorbed]
      simp only [pending, Option.toList_some, Option.toList_none,
        List.cons_append, List.nil_append, List.map_cons, Stitching.Fits]

/-- An accepted packet fits when it fits behind what the queue leaves open. -/
theorem addToQueue_pendingFits {thread : USBReceiveThread}
    (room : thread.hasRoom = true) (packet : BinaryStitchUSBPacket) :
    (thread.addToQueue packet).thread.PendingFits ↔
      thread.PendingFits ∧
        thread.openLength + packet.piece.body.length ≤
          cMaxAsynchronousBuffer := by
  simp only [addToQueue, room, if_true, PendingFits, pending]
  rw [← List.append_assoc, List.map_append, Stitching.fits_append,
    List.map_singleton, Stitching.fits_singleton]
  refine and_congr_right fun fits => ?_
  rw [Stitching.length_assemble_of_fits fits]
  rfl

end USBReceiveThread

namespace ReceivePath

/-- What the next read accepts fits behind the message left open by what was
accepted before. -/
def FitsOpenMessage (path : ReceivePath) : Action → Prop
  | .bulkRead bytes =>
      path.thread.hasRoom = true →
        path.thread.openLength + path.reader.payload bytes ≤
          cMaxAsynchronousBuffer
  | .handleAsynchronous _ | .receiveThread | .handleError _ => True

/-- The copies made are in bounds, and those still to be made will be. -/
def Bounded (path : ReceivePath) : Prop :=
  (∀ copy ∈ path.copies, copy.InBounds) ∧ path.thread.PendingFits

section Step

variable {path next : ReceivePath}

theorem wellFormed_bulkRead {bytes : List UInt8}
    (wellFormed : path.thread.WellFormed)
    (taken : path.step (.bulkRead bytes) = some next) :
    next.thread.WellFormed := by
  simp only [step, Option.ite_none_right_eq_some, Option.some.injEq] at taken
  obtain ⟨⟨_, fits⟩, rfl⟩ := taken
  have sound := path.reader.callbackFrame_sound fits
  cases queued : (path.reader.callbackFrame bytes).queued with
  | none =>
      rw [path.deliver_thread_none queued]
      exact wellFormed
  | some packet =>
      obtain ⟨packetWellFormed, filled, _⟩ := sound.queued packet queued
      rw [path.deliver_thread_some queued]
      exact USBReceiveThread.addToQueue_wellFormed wellFormed
        packetWellFormed filled

/-- A read keeps the copies bounded exactly when what it accepts fits. -/
theorem bounded_bulkRead {bytes : List UInt8} (bounded : path.Bounded)
    (within : path.thread.mLastReceivedMessage.WellFormed)
    (taken : path.step (.bulkRead bytes) = some next) :
    next.Bounded ↔ path.FitsOpenMessage (.bulkRead bytes) := by
  simp only [step, Option.ite_none_right_eq_some, Option.some.injEq] at taken
  obtain ⟨⟨_, fits⟩, rfl⟩ := taken
  have sound := path.reader.callbackFrame_sound fits
  have copies : ∀ copy ∈ path.copies ++
      (path.reader.callbackFrame bytes).copies, copy.InBounds := by
    intro copy member
    rcases List.mem_append.mp member with earlier | here
    · exact bounded.1 copy earlier
    · exact sound.inBounds copy here
  have openFits : path.thread.openLength ≤ cMaxAsynchronousBuffer := by
    unfold USBReceiveThread.openLength
    rw [← Stitching.length_assemble_of_fits bounded.2]
    exact Stitching.length_assemble_le (by
      rw [within.length_collected]
      exact within.within)
  simp only [Bounded, deliver_copies, FitsOpenMessage]
  cases queued : (path.reader.callbackFrame bytes).queued with
  | none =>
      rw [path.deliver_thread_none queued, sound.nothing queued]
      exact ⟨fun _ _ => openFits, fun _ => ⟨copies, bounded.2⟩⟩
  | some packet =>
      obtain ⟨packetWellFormed, _, length⟩ := sound.queued packet queued
      have body : packet.piece.body.length = path.reader.payload bytes :=
        packetWellFormed.length_bytes.trans length
      rw [path.deliver_thread_some queued]
      by_cases room : path.thread.hasRoom = true
      · rw [USBReceiveThread.addToQueue_pendingFits room, body]
        exact ⟨fun next _ => next.2.2,
          fun fits => ⟨copies, bounded.2, fits room⟩⟩
      · rw [USBReceiveThread.addToQueue_full (by simpa using room)]
        exact ⟨fun _ fits => absurd fits room,
          fun _ => ⟨copies, bounded.2⟩⟩

theorem wellFormed_receiveThread (wellFormed : path.thread.WellFormed)
    (taken : path.step .receiveThread = some next) :
    next.thread.WellFormed := by
  simp only [step, Option.some.injEq] at taken
  subst next
  exact USBReceiveThread.step_wellFormed wellFormed

/-- A step of the receive thread neither adds nor removes a bad copy. -/
theorem bounded_receiveThread (wellFormed : path.thread.WellFormed)
    (taken : path.step .receiveThread = some next) :
    next.Bounded ↔ path.Bounded := by
  simp only [step, Option.some.injEq] at taken
  subst next
  have same := USBReceiveThread.step_pendingFits wellFormed
  simp only [Bounded, List.mem_append, or_imp, forall_and, and_assoc, same]

theorem bounded_of_bulkRead {bytes : List UInt8}
    (taken : path.step (.bulkRead bytes) = some next)
    (bounded : next.Bounded) : path.Bounded := by
  simp only [step, Option.ite_none_right_eq_some, Option.some.injEq] at taken
  obtain ⟨_, rfl⟩ := taken
  refine ⟨fun copy member => bounded.1 copy (List.mem_append_left _ member),
    ?_⟩
  cases queued : (path.reader.callbackFrame bytes).queued with
  | none =>
      have pending := bounded.2
      rwa [path.deliver_thread_none queued] at pending
  | some packet =>
      have pending := bounded.2
      rw [path.deliver_thread_some queued] at pending
      by_cases room : path.thread.hasRoom = true
      · exact ((USBReceiveThread.addToQueue_pendingFits room packet).mp
          pending).1
      · rwa [USBReceiveThread.addToQueue_full (by simpa using room)]
          at pending

/-- Steps of the receive path without resets and direct calls. -/
def IsBulkStep (action : Action) : Prop :=
  action.isBulkRead ∨ action.isReceiveThread

theorem wellFormed_bulkStep {action : Action}
    (wellFormed : path.thread.WellFormed) (bulk : IsBulkStep action)
    (taken : path.step action = some next) : next.thread.WellFormed := by
  rcases Action.bulkRead_or_receiveThread bulk with ⟨bytes, rfl⟩ | rfl
  · exact wellFormed_bulkRead wellFormed taken
  · exact wellFormed_receiveThread wellFormed taken

theorem bounded_bulkStep {action : Action} (bounded : path.Bounded)
    (wellFormed : path.thread.WellFormed) (bulk : IsBulkStep action)
    (taken : path.step action = some next) :
    next.Bounded ↔ path.FitsOpenMessage action := by
  rcases Action.bulkRead_or_receiveThread bulk with ⟨bytes, rfl⟩ | rfl
  · exact bounded_bulkRead bounded wellFormed.message taken
  · exact (bounded_receiveThread wellFormed taken).trans
      ⟨fun _ => trivial, fun _ => bounded⟩

/-- A copy out of bounds stays on record. -/
theorem bounded_of_bulkStep {action : Action}
    (wellFormed : path.thread.WellFormed) (bulk : IsBulkStep action)
    (taken : path.step action = some next) (bounded : next.Bounded) :
    path.Bounded := by
  rcases Action.bulkRead_or_receiveThread bulk with ⟨bytes, rfl⟩ | rfl
  · exact bounded_of_bulkRead taken bounded
  · exact (bounded_receiveThread wellFormed taken).mp bounded

theorem always_bounded_iff_reads {actions : List Action}
    (wellFormed : path.thread.WellFormed) (bounded : path.Bounded)
    (only : OnlyBulkReads actions) :
    machine.Always Bounded path actions ↔
      machine.Guarded FitsOpenMessage path actions :=
  machine.always_iff_guarded
    (fun state => state.thread.WellFormed) IsBulkStep
    (fun _ _ _ wellFormed _ bulk taken _ =>
      wellFormed_bulkStep wellFormed bulk taken)
    (fun _ _ _ wellFormed bounded bulk taken =>
      bounded_bulkStep bounded wellFormed bulk taken)
    wellFormed bounded only

end Step

theorem Idle.bounded {path : ReceivePath} (idle : path.Idle) :
    path.Bounded := by
  constructor
  · simp [idle.nothingCopied]
  · simp [USBReceiveThread.PendingFits, USBReceiveThread.pending,
      idle.nothingQueued, idle.nothingInHand, Stitching.Fits]

/-- The copies of a run are in bounds when every read fits, and once the
queue is drained they are in bounds only then. -/
theorem copies_inBounds {path finish : ReceivePath} {actions : List Action}
    (idle : path.Idle) (only : OnlyBulkReads actions)
    (reached : machine.run path actions = some finish) :
    (machine.Guarded FitsOpenMessage path actions →
        ∀ copy ∈ finish.copies, copy.InBounds) ∧
      (finish.Drained → (∀ copy ∈ finish.copies, copy.InBounds) →
        machine.Guarded FitsOpenMessage path actions) := by
  have wellFormed := idle.reassembles.wellFormed
  have same := always_bounded_iff_reads wellFormed idle.bounded only
  constructor
  · intro guarded
    exact ((same.mpr guarded).final reached).1
  · rintro ⟨emptyQueue, emptyHand⟩ inBounds
    have bounded : finish.Bounded := by
      refine ⟨inBounds, ?_⟩
      simp [USBReceiveThread.PendingFits, USBReceiveThread.pending,
        emptyQueue, emptyHand, Stitching.Fits]
    exact same.mp (LabelledMachine.always_of_final
      (fun state => state.thread.WellFormed) IsBulkStep
      (fun _ _ _ wellFormed bulk taken =>
        wellFormed_bulkStep wellFormed bulk taken)
      (fun _ _ _ wellFormed bulk taken bounded =>
        bounded_of_bulkStep wellFormed bulk taken bounded)
      wellFormed only reached bounded)

/-- A message of two frames, within the limit. -/
def shortFrames : List (List UInt8) :=
  [asyncCommandBytes cAsyncUserChannel ++
      asyncSubHeaderBytes cAsyncModePacket 500 cAsyncCommandSendPacket ++
        List.replicate 488 7,
    asyncCommandBytes cAsyncUserChannel ++ List.replicate 12 7]

theorem copies_inBounds_shortFrames :
    ∃ finish,
      machine.run (start 10 10 50) (oneByOne shortFrames) = some finish ∧
        (machine.Guarded FitsOpenMessage (start 10 10 50)
            (oneByOne shortFrames) →
          ∀ copy ∈ finish.copies, copy.InBounds) ∧
        (finish.Drained → (∀ copy ∈ finish.copies, copy.InBounds) →
          machine.Guarded FitsOpenMessage (start 10 10 50)
            (oneByOne shortFrames)) := by
  have runs : (machine.run (start 10 10 50)
      (oneByOne shortFrames)).isSome := by
    decide +kernel
  obtain ⟨finish, reached⟩ := Option.isSome_iff_exists.mp runs
  exact ⟨finish, reached, copies_inBounds (start_idle 10 10 50)
    (by decide +kernel) reached⟩

/-- A device which declares 5000 bytes and goes on with full frames. -/
def overlongFrames : List (List UInt8) :=
  (asyncCommandBytes cAsyncUserChannel ++
      asyncSubHeaderBytes cAsyncModePacket 5000 cAsyncCommandSendPacket ++
        List.replicate 488 0) ::
    List.replicate 4
      (asyncCommandBytes cAsyncUserChannel ++ List.replicate 504 0)

/-- The fifth frame is appended at index 2000 of the 2304. -/
theorem copies_outOfBounds_overlongFrames :
    OnlyBulkReads (oneByOne overlongFrames) ∧
      ∃ finish,
        machine.run (start 10 10 50) (oneByOne overlongFrames) =
            some finish ∧
          ∃ copy ∈ finish.copies, ¬ copy.InBounds := by
  refine ⟨by decide +kernel, ?_⟩
  have fails : (machine.run (start 10 10 50)
      (oneByOne overlongFrames)).any (fun finish =>
        decide (∃ copy ∈ finish.copies, ¬ copy.InBounds)) = true := by
    decide +kernel
  obtain ⟨finish, reached, outcome⟩ := (Option.any_eq_true _ _).mp fails
  exact ⟨finish, reached, of_decide_eq_true outcome⟩

end ReceivePath

end CWUSB
