import CWUSB.Fragmentation
import CWUSB.ReaderLoop

/-!
# The half-duplex interlock

While a message is being received the loop does not write, and while one is
being sent it does not read.  Each flag thus disables the code which clears
the other, and `mSendStitching` is only cleared by a further frame.  Both
never hold at once, and a message being sent always has a frame to come, in
the outgoing queue or in the hands of the send thread.
-/

namespace CWUSB

namespace USBSendThread

/-- The frames which will be popped of the packets taken so far. -/
def toCome (thread : USBSendThread) : List BinaryStitchUSBPacket :=
  thread.mOutgoingQueue ++ thread.unpushed

theorem unpushed_endsWhole (thread : USBSendThread) :
    EndsWhole thread.unpushed := by
  unfold unpushed
  split
  · exact endsWhole_nil
  · exact fragmentsFrom_endsWhole _

/-- A step adds the frames of whole packets. -/
theorem step_toCome (thread : USBSendThread) :
    ∃ added, EndsWhole added ∧
      thread.step.thread.toCome = thread.toCome ++ added := by
  obtain ⟨mMaxBufferSize, mQueue, mOutgoingQueue, splitting⟩ := thread
  cases splitting with
  | none =>
      cases mQueue with
      | nil => exact ⟨[], endsWhole_nil, by simp [step]⟩
      | cons lFrontOfQueue rest =>
          refine ⟨fragments lFrontOfQueue, fragmentsFrom_endsWhole _, ?_⟩
          simp [step, toCome, unpushed, fragments]
  | some current =>
      obtain ⟨lFrontOfQueue, lPacketIndex⟩ := current
      refine ⟨[], endsWhole_nil, ?_⟩
      by_cases unfinished : lPacketIndex < lFrontOfQueue.length.toNat
      · simp [step, toCome, unpushed, unfinished,
          fragmentsFrom_of_lt unfinished]
      · have finished := fragmentsFrom_of_ge cSendMode cSendRef
          (Nat.le_of_not_lt unfinished)
        simp [step, toCome, unpushed, unfinished, finished]

theorem addToQueue_toCome (thread : USBSendThread) (aData : List UInt8) :
    (thread.addToQueue aData).thread.toCome = thread.toCome := by
  unfold addToQueue
  split <;> rfl

end USBSendThread

namespace ReaderLoop

/-- The thread is in `HandleAsynchronousSend`. -/
def sending (state : ReaderLoop) : Bool :=
  match state.loop with
  | .sendLoop | .sendWrite _ => true
  | _ => false

/-- The flags of the two directions fit each other and the frames to come. -/
structure Interlocked (state : ReaderLoop) : Prop where
  halfDuplex : state.reader.mSendStitching = true →
    state.reader.mReceiveStitching = false
  notReceiving : state.sending = true →
    state.reader.mReceiveStitching = false
  endsWhole : EndsWhole state.sendThread.toCome
  frameToCome : state.reader.mSendStitching = true →
    state.sendThread.toCome ≠ []
  cleared : state.loop = .clearSendQueues →
    state.reader.mSendStitching = false

/-- A step which leaves alone the two flags and the frames to come, and does
not enter the points about which the invariant says more. -/
theorem Interlocked.elsewhere {state next : ReaderLoop}
    (interlocked : state.Interlocked)
    (receiving : next.reader.mReceiveStitching =
      state.reader.mReceiveStitching)
    (stitching : next.reader.mSendStitching = state.reader.mSendStitching)
    (same : next.sendThread = state.sendThread)
    (notSending : next.sending = true → state.sending = true)
    (notClearing : next.loop = .clearSendQueues →
      state.loop = .clearSendQueues) : next.Interlocked where
  halfDuplex := by
    rw [stitching, receiving]
    exact interlocked.halfDuplex
  notReceiving := by
    rw [receiving]
    exact fun sending => interlocked.notReceiving (notSending sending)
  endsWhole := by
    rw [same]
    exact interlocked.endsWhole
  frameToCome := by
    rw [stitching, same]
    exact interlocked.frameToCome
  cleared := by
    rw [stitching]
    exact fun clearing => interlocked.cleared (notClearing clearing)

/-! ## The steps which change a flag or the frames to come -/

section Steps

variable {state : ReaderLoop}

/-- A read may start or end the receiving of a message, but takes place only
while none is being sent. -/
theorem Interlocked.read (interlocked : state.Interlocked)
    (transfer : USBReader.ReadTransfer) :
    ((state.read transfer).goTo .sendTest).Interlocked := by
  by_cases stitching : state.reader.mSendStitching = true
  · have nothing : state.read transfer = state := by
      simp [ReaderLoop.read, stitching]
    rw [nothing]
    exact interlocked.elsewhere rfl rfl rfl nofun nofun
  · have same := (state.read_undisturbed transfer).sendStitching
    have notStitching :
        (state.read transfer).reader.mSendStitching ≠ true := by
      rw [same]
      exact stitching
    exact
      { halfDuplex := fun stitching => absurd stitching notStitching
        notReceiving := nofun
        endsWhole := by
          have endsWhole := interlocked.endsWhole
          rw [← (state.read_others transfer).1] at endsWhole
          exact endsWhole
        frameToCome := fun stitching => absurd stitching notStitching
        cleared := nofun }

/-- A popped frame which does not end its message is followed by another. -/
theorem Interlocked.sendHead (interlocked : state.Interlocked)
    (here : state.loop = .sendLoop) : state.sendHead.Interlocked := by
  have notReceiving := interlocked.notReceiving (by simp [sending, here])
  unfold ReaderLoop.sendHead
  split
  · next outgoing =>
      obtain ⟨reader, ⟨limit, mQueue, mOutgoingQueue, splitting⟩, _, _, _,
        _⟩ := state
      cases mOutgoingQueue with
      | nil => simp [USBSendThread.hasOutgoingData] at outgoing
      | cons packet rest =>
          have endsWhole := interlocked.endsWhole
          exact
            { halfDuplex := fun _ => notReceiving
              notReceiving := fun _ => notReceiving
              endsWhole := endsWhole.tail
              frameToCome := fun stitched => endsWhole.tail_ne_nil stitched
              cleared := nofun }
  · exact interlocked.elsewhere rfl rfl rfl nofun nofun

theorem Interlocked.sendThread (interlocked : state.Interlocked) :
    { state with
      sendThread := state.sendThread.step.thread }.Interlocked := by
  obtain ⟨added, whole, grown⟩ := state.sendThread.step_toCome
  exact
    { halfDuplex := interlocked.halfDuplex
      notReceiving := interlocked.notReceiving
      endsWhole := by
        dsimp only
        rw [grown]
        exact interlocked.endsWhole.append whole
      frameToCome := by
        intro stitching
        dsimp only
        rw [grown]
        simp [interlocked.frameToCome stitching]
      cleared := interlocked.cleared }

theorem Interlocked.readerStep (interlocked : state.Interlocked)
    (answers : UsbAnswers) : (state.readerStep answers).Interlocked := by
  cases here : state.loop with
  | condition =>
      simp only [ReaderLoop.readerStep, here]
      split <;> exact interlocked.elsewhere rfl rfl rfl nofun nofun
  | stopTest =>
      simp only [ReaderLoop.readerStep, here]
      split <;> exact interlocked.elsewhere rfl rfl rfl nofun nofun
  | closeDevice site =>
      simp only [ReaderLoop.readerStep, here]
      exact interlocked.elsewhere rfl rfl rfl nofun nofun
  | clearStop site =>
      simp only [ReaderLoop.readerStep, here]
      cases site <;> exact interlocked.elsewhere rfl rfl rfl nofun nofun
  | checkDevice =>
      simp only [ReaderLoop.readerStep, here]
      obtain ⟨receiving, same, _⟩ := state.checkDevice_others answers.hello
      exact interlocked.elsewhere receiving
        (state.checkDevice_undisturbed answers.hello).sendStitching same
        nofun nofun
  | errorTest =>
      simp only [ReaderLoop.readerStep, here, ReaderLoop.errorTest]
      split
      · exact interlocked.elsewhere rfl rfl rfl nofun nofun
      · split <;> exact interlocked.elsewhere rfl rfl rfl nofun nofun
  | openDevice =>
      simp only [ReaderLoop.readerStep, here]
      refine interlocked.elsewhere ?_
        (state.reader.undisturbed_openDevice answers.devices).sendStitching
        rfl nofun nofun
      have unchanged := state.reader.openDevice_reader answers.devices
      exact (congrArg USBReader.mReceiveStitching unchanged :)
  | resetFlags =>
      simp only [ReaderLoop.readerStep, here]
      exact
        { halfDuplex := nofun
          notReceiving := nofun
          endsWhole := interlocked.endsWhole
          frameToCome := nofun
          cleared := fun _ => rfl }
  | clearSendQueues =>
      simp only [ReaderLoop.readerStep, here]
      have cleared := interlocked.cleared here
      exact
        { halfDuplex := interlocked.halfDuplex
          notReceiving := nofun
          endsWhole := state.sendThread.unpushed_endsWhole
          frameToCome := by simp [cleared]
          cleared := nofun }
  | clearReceiveQueues =>
      simp only [ReaderLoop.readerStep, here]
      exact interlocked.elsewhere rfl rfl rfl nofun nofun
  | resetRetries =>
      simp only [ReaderLoop.readerStep, here]
      exact interlocked.elsewhere rfl rfl rfl nofun nofun
  | read =>
      simp only [ReaderLoop.readerStep, here]
      exact interlocked.read answers.read
  | sendTest =>
      simp only [ReaderLoop.readerStep, here]
      split
      · exact interlocked.elsewhere rfl rfl rfl nofun nofun
      · next notReceiving =>
          exact
            { interlocked with
              notReceiving := fun _ =>
                Bool.eq_false_iff.mpr notReceiving
              cleared := nofun }
  | sendLoop =>
      simp only [ReaderLoop.readerStep, here]
      exact interlocked.sendHead here
  | sendWrite lFormattedPacket =>
      simp only [ReaderLoop.readerStep, here]
      exact interlocked.elsewhere
        (state.sendWrite_mReceiveStitching lFormattedPacket answers.write)
        (state.sendWrite_undisturbed lFormattedPacket
          answers.write).sendStitching
        rfl (fun _ => by simp [sending, here]) nofun
  | finished =>
      simpa only [ReaderLoop.readerStep, here] using interlocked

theorem Interlocked.step {next : ReaderLoop} {action : Action}
    (interlocked : state.Interlocked)
    (taken : state.step action = some next) : next.Interlocked := by
  cases action with
  | reader answers =>
      cases taken
      exact interlocked.readerStep answers
  | addToQueue aData =>
      cases taken
      have same := state.sendThread.addToQueue_toCome aData
      exact
        { interlocked with
          endsWhole := by
            dsimp only
            rw [same]
            exact interlocked.endsWhole
          frameToCome := by
            dsimp only
            rw [same]
            exact interlocked.frameToCome }
  | sendThread =>
      cases taken
      exact interlocked.sendThread
  | receiveThread =>
      cases taken
      exact { interlocked with }
  | requestStop =>
      simp only [ReaderLoop.step] at taken
      split at taken
      · cases taken
        exact { interlocked with }
      · cases taken

end Steps

theorem interlocked_start {reader : USBReader} {mMaxBufferedMessages : Int}
    (notReceiving : reader.mReceiveStitching = false)
    (notSending : reader.mSendStitching = false) :
    (start reader mMaxBufferedMessages).Interlocked where
  halfDuplex := fun _ => notReceiving
  notReceiving := nofun
  endsWhole := endsWhole_nil
  frameToCome := by
    intro stitching
    simp [start, notSending] at stitching
  cleared := nofun

/-- In every state of every run at most one direction is in the middle of a
message, and a message being sent has a frame to come. -/
theorem interlock_holds {reader : USBReader} {mMaxBufferedMessages : Int}
    {actions : List Action} {finish : ReaderLoop}
    (notReceiving : reader.mReceiveStitching = false)
    (notSending : reader.mSendStitching = false)
    (reached :
      machine.run (start reader mMaxBufferedMessages) actions =
        some finish) :
    ¬(finish.reader.mReceiveStitching = true ∧
        finish.reader.mSendStitching = true) ∧
      (finish.reader.mSendStitching = true →
        finish.sendThread.mOutgoingQueue ≠ [] ∨
          finish.sendThread.unpushed ≠ []) := by
  have interlocked : finish.Interlocked :=
    machine.run_invariant Interlocked
      (fun _ _ _ interlocked taken => interlocked.step taken)
      (interlocked_start notReceiving notSending) reached
  constructor
  · rintro ⟨receiving, stitching⟩
    rw [interlocked.halfDuplex stitching] at receiving
    cases receiving
  · intro stitching
    have toCome := interlocked.frameToCome stitching
    rw [USBSendThread.toCome, ne_eq, List.append_eq_nil_iff,
      not_and_or] at toCome
    exact toCome

/-- The first frame of a long message is written while the send thread still
holds the rest, and the next iteration finds nothing to write. -/
def halfSent : List Action :=
  [.addToQueue (List.replicate 500 7), .sendThread, .sendThread] ++
    List.replicate 16 (.reader {})

theorem interlock_holds_halfSent :
    ∃ finish,
      machine.run (start openedReader 100) halfSent = some finish ∧
        finish.loop = .condition ∧
        finish.reader.mSendStitching = true ∧
        ¬(finish.reader.mReceiveStitching = true ∧
            finish.reader.mSendStitching = true) ∧
          (finish.reader.mSendStitching = true →
            finish.sendThread.mOutgoingQueue ≠ [] ∨
              finish.sendThread.unpushed ≠ []) := by
  have runs : (machine.run (start openedReader 100) halfSent).any
      (fun finish => decide (finish.loop = .condition ∧
        finish.reader.mSendStitching = true)) = true := by
    decide +kernel
  obtain ⟨finish, reached, outcome⟩ := (Option.any_eq_true _ _).mp runs
  obtain ⟨atHead, stitching⟩ := of_decide_eq_true outcome
  exact ⟨finish, reached, atHead, stitching,
    interlock_holds rfl rfl reached⟩

end ReaderLoop

end CWUSB
