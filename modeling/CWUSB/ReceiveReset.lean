import Mathlib.Data.List.Forall2
import CWUSB.ReceiveBounds
import CWUSB.WireFormat

/-!
# Resets and the receive path

`HandleError` clears the queue and the partial message, but not the fragment
the receive thread has in hand.  A history beside the path says of every byte
copied how many resets came before its frame.  While no reset meets the first
part of a message in hand, no payload joins bytes from both sides of one.
-/

namespace CWUSB

/-- For the bytes of the receive path, the number of resets before the frame
they came from. -/
structure Origins where
  resets : Nat := 0
  mTemporaryReceiveBuffer : FixedArray (Option Nat) cMaxUSBPacketSize :=
    .fill _ none
  mQueue : List (List (Option Nat)) := []
  lFrontOfQueue : List (Option Nat) := []
  mLastReceivedMessage : FixedArray (Option Nat) cMaxAsynchronousBuffer :=
    .fill _ none
  sent : List (List (Option Nat)) := []
deriving DecidableEq

namespace USBReader

/-- Where `HandleAsynchronous` starts to copy from a frame. -/
def payloadOffset (reader : USBReader) : Nat :=
  if reader.mReceiveStitching then cAsyncHeaderSize
  else cAsyncHeaderAndSubHeaderSize

/-- A packet queued is filled from that offset. -/
theorem handleAsynchronous_queued {reader : USBReader} {aLength : Int}
    {packet : BinaryStitchUSBPacket}
    (queued : (reader.handleAsynchronous aLength).queued = some packet) :
    ∃ length stitch,
      packet = reader.packetFrom reader.payloadOffset length stitch := by
  unfold handleAsynchronous at queued
  unfold payloadOffset
  split at queued
  · cases stitching : reader.mReceiveStitching with
    | false =>
        simp only [stitching, Bool.not_false, if_true, handleFirst] at queued
        split at queued
        · split at queued
          · exact ⟨_, _, (Option.some.inj queued).symm⟩
          · simp at queued
        · simp at queued
    | true =>
        simp only [stitching, Bool.not_true, Bool.false_eq_true, if_false]
          at queued
        exact ⟨_, _, (Option.some.inj queued).symm⟩
  · simp at queued

/-- The history marks the bytes of a packet by this: it is filled from the
frame at that offset. -/
theorem callbackFrame_queued {reader : USBReader} {bytes : List UInt8}
    {packet : BinaryStitchUSBPacket}
    (queued : (reader.callbackFrame bytes).queued = some packet) :
    ∃ length stitch, packet = (reader.received bytes).packetFrom
      reader.payloadOffset length stitch := by
  unfold callbackFrame at queued
  by_cases message : (reader.received bytes).IsForAsynchronous
  · rw [receiveCallback_asynchronous message] at queued
    exact handleAsynchronous_queued queued
  · obtain ⟨mError, helloSent, handled⟩ := receiveCallback_other message
    rw [handled] at queued
    cases queued

theorem payload_le (reader : USBReader) (bytes : List UInt8) :
    reader.payload bytes ≤ bytes.length - reader.payloadOffset := by
  unfold payload payloadOffset
  dsimp only
  split
  · split
    · exact Nat.le_refl _
    · split
      · exact Nat.le_refl _
      · exact Nat.zero_le _
  · exact Nat.zero_le _

end USBReader

namespace Origins

/-- A read marks the bytes it leaves in the receive buffer, and a packet
accepted takes its marks along. -/
def read (origins : Origins) (path : ReceivePath) (bytes : List UInt8)
    (handled : Handled) : Origins :=
  let buffer := origins.mTemporaryReceiveBuffer.overwrite 0
    (List.replicate bytes.length (some origins.resets))
  { origins with
    mTemporaryReceiveBuffer := buffer
    mQueue :=
      match handled.queued with
      | none => origins.mQueue
      | some lPacket =>
          if path.thread.hasRoom then
            origins.mQueue ++
              [buffer.slice path.reader.payloadOffset lPacket.length.toNat]
          else origins.mQueue }

/-- The work of the receive thread on the packet in hand. -/
def appendAndForward (origins : Origins) (thread : USBReceiveThread)
    (lFrontOfQueue : BinaryStitchUSBPacket) : Origins :=
  let message := thread.append lFrontOfQueue
  let data := origins.mLastReceivedMessage.overwrite thread.appendOffset
    origins.lFrontOfQueue
  if message.length.toNat > cMaxAsynchronousBuffer then
    { origins with
      lFrontOfQueue := []
      mLastReceivedMessage := .fill _ none }
  else if !lFrontOfQueue.stitch then
    { origins with
      lFrontOfQueue := []
      mLastReceivedMessage := .fill _ none
      sent := origins.sent ++ [data.slice 0 message.length.toNat] }
  else
    { origins with
      lFrontOfQueue := []
      mLastReceivedMessage := data }

def receiveThread (origins : Origins) (thread : USBReceiveThread) : Origins :=
  match thread.lFrontOfQueue with
  | none =>
      match origins.mQueue with
      | [] => origins
      | lFrontOfQueue :: rest =>
          { origins with mQueue := rest, lFrontOfQueue := lFrontOfQueue }
  | some lFrontOfQueue => origins.appendAndForward thread lFrontOfQueue

/-- `HandleError` clears what `ClearQueues` clears. -/
def handleError (origins : Origins) : Origins :=
  { origins with
    resets := origins.resets + 1
    mQueue := []
    mLastReceivedMessage := .fill _ none }

def record (path : ReceivePath) (action : ReceivePath.Action)
    (origins : Origins) : Origins :=
  match action with
  | .bulkRead bytes =>
      origins.read path bytes (path.reader.callbackFrame bytes)
  | .handleAsynchronous bytes =>
      origins.read path bytes (path.reader.handleFrame bytes)
  | .receiveThread => origins.receiveThread path.thread
  | .handleError _ => origins.handleError

/-- Bytes of a frame received after a reset come without bytes of a frame
received before it. -/
def KeptApart (marks : List (Option Nat)) : Prop :=
  ∀ reset before after : Nat, some before ∈ marks → some after ∈ marks →
    reset ≤ after → reset ≤ before

/-- All bytes come from frames between the same resets. -/
def From (resets : Nat) (marks : List (Option Nat)) : Prop :=
  ∀ mark ∈ marks, mark = some resets

theorem From.keptApart {resets : Nat} {marks : List (Option Nat)}
    (same : From resets marks) : KeptApart marks := by
  intro reset before after isBefore isAfter passed
  have equalBefore := Option.some.inj (same _ isBefore)
  have equalAfter := Option.some.inj (same _ isAfter)
  omega

theorem from_nothing {resets : Nat} :
    From resets
      ((FixedArray.fill cMaxAsynchronousBuffer none).slice 0
        BinaryStitchWiFiPacket.zero.length.toNat) := by
  intro mark member
  simp [BinaryStitchWiFiPacket.zero, FixedArray.slice] at member

end Origins

/-! ## The separation along a run -/

namespace ReceivePath

/-- `HandleError` happens while the receive thread has no fragment in hand
which announces more. -/
def ResetsBetweenFragments (path : ReceivePath) : Action → Prop
  | .handleError _ =>
      ∀ packet ∈ path.thread.lFrontOfQueue, packet.stitch = false
  | _ => True

instance (path : ReceivePath) :
    (action : Action) → Decidable (path.ResetsBetweenFragments action)
  | .handleError _ => inferInstanceAs (Decidable (∀ packet ∈ _, _))
  | .bulkRead _ | .handleAsynchronous _ | .receiveThread =>
      inferInstanceAs (Decidable True)

/-- The path with the origins of its bytes. -/
def tracked : LabelledMachine (ReceivePath × Origins) Action :=
  machine.withHistory Origins.record

/-- What is queued or collected came after the last reset.  A fragment in hand
may be older, but then it ends its message and nothing was collected. -/
structure Separated (path : ReceivePath) (origins : Origins) : Prop where
  wellFormed : path.thread.WellFormed
  queue : List.Forall₂ (fun packet marks =>
      marks.length = packet.length.toNat ∧ Origins.From origins.resets marks)
    path.thread.mQueue origins.mQueue
  inHand : ∀ packet, path.thread.lFrontOfQueue = some packet →
    origins.lFrontOfQueue.length = packet.length.toNat ∧
      (Origins.From origins.resets origins.lFrontOfQueue ∨
        packet.stitch = false ∧ path.thread.mLastReceivedMessage = .zero ∧
          ∃ resets, Origins.From resets origins.lFrontOfQueue)
  collected : Origins.From origins.resets
    (origins.mLastReceivedMessage.slice 0
      path.thread.mLastReceivedMessage.length.toNat)
  sent : List.Forall₂ (fun payload marks =>
      marks.length = payload.length ∧ ∃ resets, Origins.From resets marks)
    path.sent origins.sent

theorem Idle.separated {path : ReceivePath} (idle : path.Idle) :
    path.Separated {} where
  wellFormed := idle.reassembles.wellFormed
  queue := by
    rw [idle.nothingQueued]
    exact .nil
  inHand := by simp [idle.nothingInHand]
  collected := by
    rw [idle.nothingReceived]
    exact Origins.from_nothing
  sent := by
    rw [idle.nothingSent]
    exact .nil

section Step

variable {path next : ReceivePath} {origins : Origins}

/-- The marks of a packet taken from a frame are those of the frame. -/
theorem from_slice_read (resets : Nat)
    (buffer : FixedArray (Option Nat) cMaxUSBPacketSize)
    {bytes : List UInt8} {offset count : Nat}
    (fits : bytes.length ≤ cMaxUSBPacketSize)
    (inside : offset + count ≤ bytes.length) :
    Origins.From resets ((buffer.overwrite 0
      (List.replicate bytes.length (some resets))).slice offset count) := by
  rw [FixedArray.slice_overwrite_inside (by rwa [List.length_replicate])
    (by rwa [List.length_replicate])]
  intro mark member
  exact List.eq_of_mem_replicate
    (List.mem_of_mem_drop (List.mem_of_mem_take member))

theorem Separated.bulkRead {bytes : List UInt8}
    (separated : path.Separated origins)
    (taken : path.step (.bulkRead bytes) = some next) :
    next.Separated
      (origins.read path bytes (path.reader.callbackFrame bytes)) := by
  have wellFormed := wellFormed_bulkRead separated.wellFormed taken
  simp only [step, Option.ite_none_right_eq_some, Option.some.injEq] at taken
  obtain ⟨⟨_, fits⟩, rfl⟩ := taken
  have frame : (path.deliver (path.reader.callbackFrame
        bytes)).thread.lFrontOfQueue = path.thread.lFrontOfQueue ∧
      (path.deliver (path.reader.callbackFrame
        bytes)).thread.mLastReceivedMessage =
          path.thread.mLastReceivedMessage := by
    cases queued : (path.reader.callbackFrame bytes).queued with
    | none =>
        rw [path.deliver_thread_none queued]
        exact ⟨rfl, rfl⟩
    | some packet =>
        rw [path.deliver_thread_some queued, USBReceiveThread.addToQueue]
        split <;> exact ⟨rfl, rfl⟩
  refine ⟨wellFormed, ?_, ?_, ?_, separated.sent⟩
  · cases queued : (path.reader.callbackFrame bytes).queued with
    | none =>
        rw [path.deliver_thread_none queued]
        simp only [Origins.read, queued]
        exact separated.queue
    | some packet =>
        rw [path.deliver_thread_some queued, USBReceiveThread.addToQueue]
        simp only [Origins.read, queued]
        split
        · obtain ⟨_, filled, length⟩ :=
            (path.reader.callbackFrame_sound fits).queued packet queued
          have behind := path.reader.payload_le bytes
          have marks := from_slice_read origins.resets
            origins.mTemporaryReceiveBuffer fits
            (by omega : path.reader.payloadOffset + packet.length.toNat ≤ _)
          refine List.rel_append separated.queue (.cons ⟨?_, marks⟩ .nil)
          apply FixedArray.length_slice_of_le
          omega
        · exact separated.queue
  · rw [frame.1, frame.2]
    exact separated.inHand
  · rw [frame.2]
    exact separated.collected

theorem Separated.handleError {devices : DeviceList}
    (separated : path.Separated origins)
    (between : path.ResetsBetweenFragments (.handleError devices))
    (taken : path.step (.handleError devices) = some next) :
    next.Separated origins.handleError := by
  simp only [step, Option.some.injEq] at taken
  subst next
  refine ⟨⟨BinaryStitchWiFiPacket.zero_wellFormed, ?_⟩, .nil, ?_, ?_,
    separated.sent⟩
  · intro packet member
    apply separated.wellFormed.packets packet
    rw [USBReceiveThread.pending] at member ⊢
    exact List.mem_append_left _ (by
      simpa [USBReceiveThread.clearQueues] using member)
  · intro packet inHand
    obtain ⟨length, origin⟩ := separated.inHand packet inHand
    have same : ∃ resets, Origins.From resets origins.lFrontOfQueue := by
      rcases origin with same | ⟨_, _, older⟩
      · exact ⟨_, same⟩
      · exact older
    exact ⟨length, .inr ⟨between packet inHand, rfl, same⟩⟩
  · exact Origins.from_nothing

/-- Behind the marks collected come those of the packet in hand. -/
theorem Separated.joined {packet : BinaryStitchUSBPacket}
    (separated : path.Separated origins)
    (inHand : path.thread.lFrontOfQueue = some packet)
    (within : (path.thread.append packet).length.toNat ≤
      cMaxAsynchronousBuffer) :
    (∃ resets, Origins.From resets
        ((origins.mLastReceivedMessage.overwrite path.thread.appendOffset
          origins.lFrontOfQueue).slice 0
            (path.thread.append packet).length.toNat)) ∧
      (packet.stitch = true → Origins.From origins.resets
        ((origins.mLastReceivedMessage.overwrite path.thread.appendOffset
          origins.lFrontOfQueue).slice 0
            (path.thread.append packet).length.toNat)) := by
  have message := separated.wellFormed.message
  obtain ⟨length, origin⟩ := separated.inHand packet inHand
  have wellFormed := (separated.wellFormed.packets packet (by
    simp [USBReceiveThread.pending, inHand])).1
  have offset := USBReceiveThread.appendOffset_eq message
  rw [message.length_collected] at offset
  have total := USBReceiveThread.append_length message wellFormed
  rw [List.length_append, message.length_collected, wellFormed.length_bytes,
    ← length] at total
  have joined : (origins.mLastReceivedMessage.overwrite
      path.thread.appendOffset origins.lFrontOfQueue).slice 0
        (path.thread.append packet).length.toNat =
      origins.mLastReceivedMessage.slice 0
        path.thread.mLastReceivedMessage.length.toNat ++
          origins.lFrontOfQueue := by
    rw [offset, total]
    exact FixedArray.slice_overwrite (by omega)
  rw [joined]
  rcases origin with same | ⟨last, nothing, resets, older⟩
  · have all : Origins.From origins.resets
        (origins.mLastReceivedMessage.slice 0
          path.thread.mLastReceivedMessage.length.toNat ++
            origins.lFrontOfQueue) := by
      intro mark member
      rcases List.mem_append.mp member with collected | appended
      · exact separated.collected mark collected
      · exact same mark appended
    exact ⟨⟨_, all⟩, fun _ => all⟩
  · -- Nothing was collected since the reset, so the packet stands alone.
    have alone : origins.mLastReceivedMessage.slice 0
        path.thread.mLastReceivedMessage.length.toNat = [] := by
      rw [nothing]
      rfl
    rw [alone, List.nil_append, last]
    exact ⟨⟨resets, older⟩, by simp⟩

theorem Separated.receiveThread (separated : path.Separated origins)
    (taken : path.step .receiveThread = some next) :
    next.Separated (origins.receiveThread path.thread) := by
  simp only [step, Option.some.injEq] at taken
  subst next
  have wellFormed :=
    USBReceiveThread.step_wellFormed separated.wellFormed
  unfold Origins.receiveThread
  cases inHand : path.thread.lFrontOfQueue with
  | none =>
      have queue := separated.queue
      cases queued : path.thread.mQueue with
      | nil =>
          have still : path.thread.step = { thread := path.thread } := by
            simp [USBReceiveThread.step, inHand, queued]
          rw [queued] at queue
          rw [still, List.forall₂_nil_left_iff.mp queue]
          exact ⟨separated.wellFormed, separated.queue, separated.inHand,
            separated.collected, by simpa using separated.sent⟩
      | cons packet rest =>
          have popped : path.thread.step =
              { thread :=
                  { path.thread with
                    mQueue := rest
                    lFrontOfQueue := some packet } } := by
            simp [USBReceiveThread.step, inHand, queued]
          rw [queued] at queue
          obtain ⟨marks, later, ⟨length, origin⟩, behind, split⟩ :=
            List.forall₂_cons_left_iff.mp queue
          rw [popped] at wellFormed ⊢
          rw [split]
          refine ⟨wellFormed, behind, ?_, separated.collected,
            by simpa using separated.sent⟩
          rintro _ ⟨⟩
          exact ⟨length, .inl origin⟩
  | some packet =>
      have joined := separated.joined inHand
      have worked : path.thread.step = USBReceiveThread.appendAndForward
          { path.thread with lFrontOfQueue := none } packet := by
        simp [USBReceiveThread.step, inHand]
      rw [worked] at wellFormed ⊢
      unfold USBReceiveThread.appendAndForward at wellFormed ⊢
      unfold Origins.appendAndForward
      have same : USBReceiveThread.append
          { path.thread with lFrontOfQueue := none } packet =
            path.thread.append packet := rfl
      simp only [same] at wellFormed ⊢
      by_cases long : (path.thread.append packet).length.toNat >
          cMaxAsynchronousBuffer
      · simp only [if_pos long] at wellFormed ⊢
        exact ⟨wellFormed, separated.queue, by simp, Origins.from_nothing,
          by simpa using separated.sent⟩
      · simp only [if_neg long] at wellFormed ⊢
        obtain ⟨whole, goesOn⟩ := joined (Nat.le_of_not_lt long)
        cases stitch : packet.stitch with
        | false =>
            simp only [stitch, Bool.not_false, if_true] at wellFormed ⊢
            refine ⟨wellFormed, separated.queue, by simp,
              Origins.from_nothing,
              List.rel_append separated.sent (.cons ⟨?_, whole⟩ .nil)⟩
            rw [FixedArray.length_slice, FixedArray.length_slice]
        | true =>
            simp only [stitch, Bool.not_true, Bool.false_eq_true, if_false]
              at wellFormed ⊢
            exact ⟨wellFormed, separated.queue, by simp, goesOn stitch,
              by simpa using separated.sent⟩

end Step

/-- A reset keeps what comes before it apart from what comes after it, in
every run in which no reset meets the first part of a message in hand. -/
theorem reset_isolates_receiving {path finish : ReceivePath}
    {actions : List Action} {origins : Origins} (idle : path.Idle)
    (throughCallback : ∀ action ∈ actions, ¬ action.isHandleAsynchronous)
    (between : machine.Guarded ResetsBetweenFragments path actions)
    (reached : tracked.run (path, {}) actions = some (finish, origins)) :
    List.Forall₂ (fun payload marks =>
        marks.length = payload.length ∧ Origins.KeptApart marks)
      finish.sent origins.sent := by
  have separated := tracked.run_traced
    (fun past current => (∀ action ∈ past, ¬ action.isHandleAsynchronous) →
      Separated current.1 current.2)
    ?_ (fun _ => idle.separated) (between.withHistory) reached
  · refine (separated throughCallback).sent.imp ?_
    rintro payload marks ⟨length, _, same⟩
    exact ⟨length, same.keptApart⟩
  · rintro past ⟨path, origins⟩ action ⟨next, later⟩ earlier guard taken only
    obtain ⟨stepped, rfl⟩ :=
      LabelledMachine.withHistory_step_eq_some.mp taken
    have holds := earlier fun other member =>
      only other (List.mem_append_left _ member)
    cases action with
    | bulkRead bytes => exact holds.bulkRead stepped
    | handleAsynchronous bytes =>
        exact absurd rfl (only (.handleAsynchronous bytes) (by simp))
    | receiveThread => exact holds.receiveThread stepped
    | handleError devices => exact holds.handleError guard stepped

/-- A message of a single byte on both sides of a reset. -/
def resetBetween : List Action :=
  [.bulkRead (messageHeader 1 ++ [7]), .receiveThread, .handleError (.onePSP 1),
    .receiveThread, .bulkRead (messageHeader 1 ++ [9]), .receiveThread,
    .receiveThread]

theorem reset_isolates_receiving_between :
    ∃ finish origins,
      tracked.run (start 10 10 50, {}) resetBetween =
          some (finish, origins) ∧
        List.Forall₂ (fun payload marks =>
            marks.length = payload.length ∧ Origins.KeptApart marks)
          finish.sent origins.sent := by
  have runs : (tracked.run (start 10 10 50, {}) resetBetween).isSome := by
    decide +kernel
  obtain ⟨⟨finish, origins⟩, reached⟩ := Option.isSome_iff_exists.mp runs
  exact ⟨finish, origins, reached,
    reset_isolates_receiving (start_idle 10 10 50) (by decide)
      (by decide +kernel) reached⟩

/-- The first frame of a message of 500 bytes is in hand at a reset, and a
message of a single byte follows. -/
def resetInHand : List Action :=
  [.bulkRead (messageHeader 500 ++ List.replicate 488 7), .receiveThread,
    .handleError (.onePSP 1), .receiveThread,
    .bulkRead (messageHeader 1 ++ [9]), .receiveThread, .receiveThread]

/-- The one payload forwarded has bytes from both sides of the reset. -/
theorem reset_joins_receiving :
    (start 10 10 50).NeverFull resetInHand ∧
      ∃ finish origins,
        tracked.run (start 10 10 50, {}) resetInHand =
            some (finish, origins) ∧
          finish.sent = [List.replicate 488 7 ++ [9]] ∧
          origins.sent = [List.replicate 488 (some 0) ++ [some 1]] ∧
          ∃ payload ∈ origins.sent, ¬ Origins.KeptApart payload := by
  refine ⟨by decide +kernel, ?_⟩
  have joins : (tracked.run (start 10 10 50, {}) resetInHand).any
      (fun last => decide (last.1.sent = [List.replicate 488 7 ++ [9]] ∧
        last.2.sent = [List.replicate 488 (some 0) ++ [some 1]])) =
          true := by
    decide +kernel
  obtain ⟨⟨finish, origins⟩, reached, outcome⟩ :=
    (Option.any_eq_true _ _).mp joins
  obtain ⟨sent, marks⟩ := of_decide_eq_true outcome
  dsimp only at sent marks
  refine ⟨finish, origins, reached, sent, marks, ?_⟩
  rw [marks]
  refine ⟨_, List.mem_singleton.mpr rfl, fun apart => ?_⟩
  have older := apart 1 0 1
    (List.mem_append_left _ (List.mem_replicate.mpr ⟨by decide, rfl⟩))
    (List.mem_append_right _ (List.mem_singleton.mpr rfl)) (Nat.le_refl 1)
  omega

end ReceivePath

end CWUSB
