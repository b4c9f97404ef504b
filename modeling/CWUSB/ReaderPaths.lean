import CWUSB.ReaderSteps
import CWUSB.ReceivePath
import CWUSB.SendPath

/-!
# The loop of the reader and the two paths

The send path and the receive path were studied without the loop which drives
them.  As long as no error is handled, the loop refines the send pipeline:
each of its steps is a run of the pipeline, which pops what the loop writes.
A read of the loop is a read of the receive path, and the steps of
`HandleError`, taken together, are its action of that name.
-/

namespace CWUSB

namespace ReaderLoop

/-! ## The send path -/

def attemptedFrame : ReaderEvent → Option BinaryStitchUSBPacket
  | .wrote _ lFormattedPacket _ => some lFormattedPacket
  | _ => none

/-- The frames given to `USBBulkWrite`, whether it wrote them or not. -/
def attempted (state : ReaderLoop) : List BinaryStitchUSBPacket :=
  state.events.filterMap attemptedFrame

def writtenFrame : ReaderEvent → Option BinaryStitchUSBPacket
  | .wrote _ lFormattedPacket lReturn =>
      if lReturn = -1 then none else some lFormattedPacket
  | _ => none

/-- The frames for which `USBBulkWrite` did not return -1. -/
def written (state : ReaderLoop) : List BinaryStitchUSBPacket :=
  state.events.filterMap writtenFrame

def lostFrame : ReaderEvent → Option BinaryStitchUSBPacket
  | .wrote _ lFormattedPacket lReturn =>
      if lReturn = -1 then some lFormattedPacket else none
  | _ => none

/-- The frames for which it returned -1, which are not tried again. -/
def lost (state : ReaderLoop) : List BinaryStitchUSBPacket :=
  state.events.filterMap lostFrame

/-- The frame popped by `HandleAsynchronousSend` and not given to
`USBBulkWrite` yet. -/
def inHand (state : ReaderLoop) : List BinaryStitchUSBPacket :=
  match state.loop with
  | .sendWrite lFormattedPacket => [lFormattedPacket]
  | _ => []

/-- Nothing but the frames attempted is written. -/
theorem written_sublist (state : ReaderLoop) :
    state.written.Sublist state.attempted := by
  unfold written attempted
  induction state.events with
  | nil => exact List.Sublist.refl _
  | cons event events induction =>
      cases event with
      | wrote mDeviceHandle lFormattedPacket lReturn =>
          by_cases fails : lReturn = -1
          · simpa [writtenFrame, attemptedFrame, fails] using
              induction.cons lFormattedPacket
          · simpa [writtenFrame, attemptedFrame, fails] using induction
      | _ => exact induction

/-- What is attempted without a loss is written. -/
theorem written_of_noneLost {events : List ReaderEvent}
    (noneLost : events.filterMap lostFrame = []) :
    events.filterMap writtenFrame = events.filterMap attemptedFrame := by
  apply List.filterMap_congr
  intro event member
  have kept := List.filterMap_eq_nil_iff.mp noneLost event member
  cases event with
  | wrote mDeviceHandle lFormattedPacket lReturn =>
      have works : lReturn ≠ -1 := fun fails => by
        simp [lostFrame, fails] at kept
      exact if_neg works
  | _ => rfl

/-- The pipeline which has the send thread of the loop and gave it the frames
it took. -/
structure Drives (state : ReaderLoop) (path : SendPath) : Prop where
  thread : path.thread = state.sendThread
  idle : path.adding = none
  popped : path.popped = state.attempted ++ state.inHand

/-- A step which has nothing to do with the send path. -/
structure Silent (state next : ReaderLoop) : Prop where
  thread : next.sendThread = state.sendThread
  attempted : next.attempted = state.attempted
  inHand : next.inHand = state.inHand

theorem Drives.silent {state next : ReaderLoop} {path : SendPath}
    (drives : state.Drives path) (silent : state.Silent next) :
    next.Drives path where
  thread := by rw [silent.thread, drives.thread]
  idle := drives.idle
  popped := by rw [silent.attempted, silent.inHand, drives.popped]

section Steps

variable {state next : ReaderLoop}

/-- A step to a point at which no frame is in hand. -/
theorem silent_of (here : state.inHand = [])
    (thread : next.sendThread = state.sendThread)
    (attempted : next.attempted = state.attempted) (there : next.inHand = []) :
    state.Silent next :=
  ⟨thread, attempted, there.trans here.symm⟩

theorem readerStep_attempted (answers : UsbAnswers) :
    (state.readerStep answers).attempted =
      state.attempted ++
        (state.readerEvents answers).filterMap attemptedFrame := by
  rw [attempted, readerStep_events, List.filterMap_append]
  rfl

theorem attemptedFrame_of_noFrame {event : ReaderEvent}
    (noFrame : event.NoFrame) : attemptedFrame event = none := by
  cases event with
  | wrote mDeviceHandle lFormattedPacket lReturn => exact absurd noFrame id
  | _ => rfl

/-- Outside of sending and clearing, the loop leaves the send path alone. -/
theorem silent_readerStep (answers : UsbAnswers)
    (notSendLoop : state.loop ≠ .sendLoop) (handEmpty : state.inHand = [])
    (notClearing : state.loop ≠ .clearSendQueues) :
    state.Silent (state.readerStep answers) := by
  have notWriting : ¬ ∃ lFormattedPacket,
      state.loop = .sendWrite lFormattedPacket := by
    rintro ⟨lFormattedPacket, here⟩
    simp [inHand, here] at handEmpty
  apply silent_of handEmpty
  · exact state.readerStep_sendThread answers notClearing notSendLoop
  · have noFrames :
        (state.readerEvents answers).filterMap attemptedFrame = [] := by
      apply List.filterMap_eq_nil_iff.mpr
      intro event member
      have kinds := state.readerEvents_kinds answers event member
      exact attemptedFrame_of_noFrame (kinds.1.resolve_right notWriting)
    rw [readerStep_attempted, noFrames, List.append_nil]
  · have leads := state.readerStep_leadsTo answers
    unfold inHand
    split
    · next lFormattedPacket there =>
        rw [there] at leads
        exact absurd leads.to_sendWrite notSendLoop
    · rfl

/-- The write puts the frame in hand behind those attempted. -/
theorem sendWrite_attempted {lFormattedPacket : BinaryStitchUSBPacket}
    (here : state.loop = .sendWrite lFormattedPacket)
    (answers : UsbAnswers) :
    (state.readerStep answers).attempted =
      state.attempted ++ [lFormattedPacket] := by
  rw [readerStep_attempted, readerEvents, here]
  rfl

/-! ## The simulation -/

/-- The steps between which the send thread's queues are not cleared. -/
def KeepsQueues (state : ReaderLoop) : Action → Prop
  | .reader _ => state.loop ≠ .clearSendQueues
  | .addToQueue _ | .sendThread | .receiveThread | .requestStop => True

instance (state : ReaderLoop) :
    (action : Action) → Decidable (state.KeepsQueues action)
  | .reader _ => inferInstanceAs (Decidable (_ ≠ _))
  | .addToQueue _ | .sendThread | .receiveThread | .requestStop =>
      inferInstanceAs (Decidable True)

/-- The head of `HandleAsynchronousSend` pops as the pipeline does. -/
theorem Drives.sendHead {path : SendPath} (drives : state.Drives path)
    (here : state.loop = .sendLoop) :
    ∃ actions pathNext,
      SendPath.machine.run path actions = some pathNext ∧
        state.sendHead.Drives pathNext := by
  have handEmpty : state.inHand = [] := by simp [inHand, here]
  unfold ReaderLoop.sendHead
  split
  · next outgoing =>
      simp only [Bool.and_eq_true] at outgoing
      have popped := drives.popped
      rw [handEmpty, List.append_nil] at popped
      refine ⟨[.pop],
        { path with
          thread := state.sendThread.popFromOutgoingQueue.2
          popped :=
            path.popped ++ [state.sendThread.popFromOutgoingQueue.1] },
        ?_, ?_⟩
      · simp [LabelledMachine.run, SendPath.machine, SendPath.step,
          drives.thread, outgoing.2]
      · exact
          { thread := rfl
            idle := drives.idle
            popped := congrArg (· ++ _) popped }
  · exact ⟨[], path, rfl,
      drives.silent (silent_of handEmpty rfl rfl rfl)⟩

theorem Drives.sendWrite {path : SendPath} {answers : UsbAnswers}
    {lFormattedPacket : BinaryStitchUSBPacket} (drives : state.Drives path)
    (here : state.loop = .sendWrite lFormattedPacket) :
    (state.readerStep answers).Drives path := by
  have popped := drives.popped
  simp only [inHand, here] at popped
  have attempted := state.sendWrite_attempted here answers
  simp only [readerStep, here] at attempted ⊢
  refine ⟨drives.thread, drives.idle, ?_⟩
  rw [attempted, popped]
  exact (List.append_nil _).symm

/-- `AddToQueue` is the offer of the pipeline, and its push if it takes the
payload. -/
theorem Drives.addToQueue {path : SendPath} (drives : state.Drives path)
    (aData : List UInt8) :
    ∃ actions pathNext,
      SendPath.machine.run path actions = some pathNext ∧
        Drives
          { state with
            sendThread := (state.sendThread.addToQueue aData).thread }
          pathNext := by
  have thread := drives.thread
  have idle := drives.idle
  by_cases room : state.sendThread.hasRoom = true
  · refine ⟨[.offer aData, .push],
      { path with
        thread := state.sendThread.push (USBSendThread.packetOf aData)
        adding := none
        accepted := path.accepted ++ [aData] }, ?_, ?_⟩
    · simp [LabelledMachine.run, SendPath.machine, SendPath.step, thread,
        idle, room]
    · exact
        { thread := by simp [USBSendThread.addToQueue, room]
          idle := rfl
          popped := drives.popped }
  · refine ⟨[.offer aData], path, ?_, ?_⟩
    · simp [LabelledMachine.run, SendPath.machine, SendPath.step, thread,
        idle, room]
    · exact
        { thread := by simp [USBSendThread.addToQueue, room, thread]
          idle := idle
          popped := drives.popped }

theorem Drives.step {path : SendPath} {action : Action}
    (drives : state.Drives path) (keeps : state.KeepsQueues action)
    (taken : state.step action = some next) :
    ∃ actions pathNext,
      SendPath.machine.run path actions = some pathNext ∧
        next.Drives pathNext := by
  cases action with
  | reader answers =>
      cases taken
      cases here : state.loop with
      | sendLoop =>
          simp only [readerStep, here]
          exact drives.sendHead here
      | sendWrite lFormattedPacket =>
          exact ⟨[], path, rfl, drives.sendWrite here⟩
      | _ =>
          have silent := silent_readerStep answers
            (by simp [here]) (by simp [inHand, here]) keeps
          exact ⟨[], path, rfl, drives.silent silent⟩
  | addToQueue aData =>
      cases taken
      exact drives.addToQueue aData
  | sendThread =>
      cases taken
      refine ⟨[.sendThread],
        { path with thread := state.sendThread.step.thread }, ?_, ?_⟩
      · simp [LabelledMachine.run, SendPath.machine, SendPath.step,
          drives.thread]
      · exact ⟨rfl, drives.idle, drives.popped⟩
  | receiveThread =>
      cases taken
      refine ⟨[], path, rfl, drives.silent ⟨rfl, ?_, rfl⟩⟩
      simp [attempted, List.filterMap_append, List.filterMap_map,
        Function.comp_def, attemptedFrame]
  | requestStop =>
      simp only [ReaderLoop.step] at taken
      split at taken
      · cases taken
        exact ⟨[], path, rfl, drives.silent ⟨rfl, rfl, rfl⟩⟩
      · cases taken

end Steps

/-- A run of the loop which clears no queue is a run of the send pipeline. -/
theorem refines_sendPath {reader : USBReader} {mMaxBufferedMessages : Int}
    {actions : List Action} {finish : ReaderLoop}
    (keeps : machine.Guarded KeepsQueues
      (start reader mMaxBufferedMessages) actions)
    (reached :
      machine.run (start reader mMaxBufferedMessages) actions =
        some finish) :
    ∃ pathActions path,
      SendPath.machine.run (SendPath.start mMaxBufferedMessages)
          pathActions = some path ∧
        finish.Drives path :=
  machine.simulates
    (fun _ _ _ _ drives keeps taken => drives.step keeps taken)
    (⟨rfl, rfl, rfl⟩ : (start reader mMaxBufferedMessages).Drives
      (SendPath.start mMaxBufferedMessages)) keeps reached

/-- In such a run the frames attempted, in hand, ready and still to be made are
the frames of the payloads accepted so far. -/
theorem attempted_conserved {reader : USBReader} {mMaxBufferedMessages : Int}
    {actions : List Action} {finish : ReaderLoop}
    (nonnegative : 0 ≤ mMaxBufferedMessages)
    (keeps : machine.Guarded KeepsQueues
      (start reader mMaxBufferedMessages) actions)
    (reached :
      machine.run (start reader mMaxBufferedMessages) actions =
        some finish) :
    ∃ accepted : List (List UInt8),
      finish.attempted ++ finish.inHand ++ finish.sendThread.staged.content
          USBSendThread.fragments =
        accepted.flatMap fun aData =>
          USBSendThread.fragments (USBSendThread.packetOf aData) := by
  obtain ⟨pathActions, path, run, drives⟩ := refines_sendPath keeps reached
  have conserves := SendPath.conserves_of_run nonnegative run
  refine ⟨path.accepted, ?_⟩
  rw [← drives.popped, ← drives.thread]
  exact conserves.content

/-! ## The receive path -/

/-- A read which brings bytes is a read of the receive path. -/
theorem read_bulkRead {state : ReaderLoop} {path : ReceivePath}
    {transfer : USBReader.ReadTransfer}
    (reader : path.reader = state.reader)
    (thread : path.thread = state.receiveThread)
    (notSending : state.reader.mSendStitching = false)
    (opened : state.reader.mDeviceHandle.isSome = true)
    (works : transfer.lError = 0) (nonempty : 0 < transfer.bytes.length) :
    ∃ next, path.step (.bulkRead transfer.bytes) = some next ∧
      next.reader = (state.read transfer).reader ∧
      next.thread = (state.read transfer).receiveThread := by
  have bytes : 0 < transfer.bytes.length ∧
      transfer.bytes.length ≤ cMaxUSBPacketSize := ⟨nonempty, transfer.fits⟩
  have result : state.reader.usbBulkRead transfer =
      ((transfer.bytes.length : Int),
        state.reader.fillBuffer transfer.bytes) := by
    simp [USBReader.usbBulkRead, opened, works]
  have handled : (state.reader.fillBuffer transfer.bytes).handleRead
      transfer.bytes.length = state.reader.callbackFrame transfer.bytes :=
    if_pos (by omega)
  have reads : state.read transfer =
      (state.record
          [.read state.reader.mDeviceHandle transfer.bytes.length]).deliver
        (state.reader.callbackFrame transfer.bytes) := by
    simp only [read, notSending, Bool.false_eq_true, if_false, result,
      handled]
  rw [reads, ← reader]
  refine ⟨path.deliver (path.reader.callbackFrame transfer.bytes), ?_, rfl,
    ?_⟩
  · rw [ReceivePath.step, if_pos bytes]
  · cases queued : (path.reader.callbackFrame transfer.bytes).queued with
    | none =>
        simp [ReceivePath.deliver, ReaderLoop.deliver, record, thread, queued]
    | some packet =>
        simp [ReceivePath.deliver, ReaderLoop.deliver, record, thread, queued]

/-- The steps of `HandleError`, taken together. -/
theorem handleError_steps {state : ReaderLoop}
    (here : state.loop = .closeDevice .errorReset) (answers : UsbAnswers) :
    ∃ finish,
      machine.run state (List.replicate 6 (.reader answers)) =
          some finish ∧
        finish.loop = .read ∧
        finish.reader = state.reader.handleError answers.devices ∧
        finish.sendThread = state.sendThread.clearQueues ∧
        finish.receiveThread = state.receiveThread.clearQueues := by
  obtain ⟨reader, sendThread, receiveThread, loop, stop, events⟩ := state
  cases here
  exact ⟨_, rfl, rfl, rfl, rfl, rfl⟩

end ReaderLoop

end CWUSB
