import CWUSB.Library.GroupedAttempts
import CWUSB.ReaderPaths

/-!
# Failed writes and whole messages

`HandleAsynchronousSend` removes a frame from the queue before it tries to
write it, and goes on with the next frame when the write fails.  The PSP gets
whole messages exactly when the writes of the frames of one message all succeed
or all fail.
-/

namespace CWUSB

namespace ReaderLoop

/-- Whether `USBBulkWrite` wrote the frame. -/
def writeOutcome : ReaderEvent → Option Bool
  | .wrote _ _ lReturn => some (decide (lReturn ≠ -1))
  | _ => none

def outcomes (state : ReaderLoop) : List Bool :=
  state.events.filterMap writeOutcome

/-- The messages in the send path since the start of a run: those which were
there, and those `AddToQueue` accepted. -/
def recordMessage (state : ReaderLoop) (action : Action)
    (messages : List BinaryWiFiPacket) : List BinaryWiFiPacket :=
  match action with
  | .addToQueue aData =>
      if state.sendThread.hasRoom then
        messages ++ [USBSendThread.packetOf aData]
      else messages
  | _ => messages

def recordingMessages :
    LabelledMachine (ReaderLoop × List BinaryWiFiPacket) Action :=
  machine.withHistory recordMessage

/-- The frames of each message, with their places in the order of writes. -/
def framesOf (messages : List BinaryWiFiPacket) :
    List (List (BinaryStitchUSBPacket × Nat)) :=
  GroupedAttempts.numbered 0 (messages.map USBSendThread.fragments)

/-- The frames which were written successfully, with their places. -/
def delivered (state : ReaderLoop) : List (BinaryStitchUSBPacket × Nat) :=
  GroupedAttempts.successes state.attempted.zipIdx state.outcomes

/-- The frames delivered are complete messages, possibly followed by a prefix
of a message still being sent, and none follows a lost frame of its message. -/
def WholeMessages (current : ReaderLoop × List BinaryWiFiPacket) : Prop :=
  GroupedAttempts.Whole (framesOf current.2) current.1.attempted.zipIdx
      current.1.delivered ∧
    GroupedAttempts.Unbroken (framesOf current.2) current.1.delivered

/-- The writes of the frames of one message agree.  Those of a message still
being sent may go over from success to failure. -/
def EvenWrites (current : ReaderLoop × List BinaryWiFiPacket) : Prop :=
  GroupedAttempts.EachEven
    (current.2.map fun lPacket => (USBSendThread.fragments lPacket).length)
    current.1.outcomes

/-! ## The frames of the messages -/

/-- The frames attempted, in hand and in the send path are those of the
messages. -/
def Carries (current : ReaderLoop × List BinaryWiFiPacket) : Prop :=
  current.1.attempted ++
      (current.1.inHand ++
        current.1.sendThread.staged.content USBSendThread.fragments) =
    current.2.flatMap USBSendThread.fragments

theorem length_outcomes (state : ReaderLoop) :
    state.attempted.length = state.outcomes.length := by
  have same :
      (fun event => (attemptedFrame event).isSome) =
        fun event => (writeOutcome event).isSome := by
    funext event
    cases event <;> rfl
  rw [attempted, outcomes, List.length_filterMap_eq_countP,
    List.length_filterMap_eq_countP, same]

theorem wholeMessages_iff_of_carries
    {current : ReaderLoop × List BinaryWiFiPacket}
    (carries : Carries current) :
    WholeMessages current ↔ EvenWrites current := by
  rw [Carries, List.flatMap_def] at carries
  have exactly :=
    GroupedAttempts.numbered_iff carries current.1.length_outcomes
  rw [List.map_map] at exactly
  exact exactly

section Steps

variable {state next : ReaderLoop} {messages : List BinaryWiFiPacket}

theorem Carries.silent (carries : Carries (state, messages))
    (silent : state.Silent next) : Carries (next, messages) := by
  unfold Carries at *
  dsimp only at *
  rw [silent.attempted, silent.inHand, silent.thread]
  exact carries

theorem Carries.sendHead (carries : Carries (state, messages))
    (here : state.loop = .sendLoop) : Carries (state.sendHead, messages) := by
  have handEmpty : state.inHand = [] := by simp [inHand, here]
  unfold ReaderLoop.sendHead
  split
  · next outgoing =>
      obtain ⟨reader, ⟨limit, mQueue, mOutgoingQueue, splitting⟩,
        receiveThread, loop, stop, events⟩ := state
      cases mOutgoingQueue with
      | nil => simp [USBSendThread.hasOutgoingData] at outgoing
      | cons lFormattedPacket rest =>
          have first := StagedQueue.content_pop USBSendThread.fragments mQueue
            (USBSendThread.unpushed ⟨limit, mQueue, rest, splitting⟩) rest
            lFormattedPacket
          simp only [Carries, handEmpty, List.nil_append] at carries
          exact (congrArg (_ ++ ·) first.symm).trans carries
  · exact carries.silent (silent_of handEmpty rfl rfl rfl)

theorem Carries.sendWrite {lFormattedPacket : BinaryStitchUSBPacket}
    (carries : Carries (state, messages))
    (here : state.loop = .sendWrite lFormattedPacket) (answers : UsbAnswers) :
    Carries (state.readerStep answers, messages) := by
  simp only [Carries, inHand, here, List.singleton_append] at carries
  have attempted := sendWrite_attempted here answers
  simp only [readerStep, here, Carries] at attempted ⊢
  rw [attempted, List.append_assoc, ← carries]
  rfl

theorem Carries.addToQueue (carries : Carries (state, messages))
    (aData : List UInt8) :
    Carries
      ({ state with
          sendThread := (state.sendThread.addToQueue aData).thread },
        recordMessage state (.addToQueue aData) messages) := by
  cases room : state.sendThread.hasRoom with
  | false =>
      simp only [recordMessage, room, USBSendThread.addToQueue]
      exact carries
  | true =>
      have grown := StagedQueue.content_accept USBSendThread.fragments
        state.sendThread.staged (USBSendThread.packetOf aData)
      simp only [Carries, recordMessage, room, USBSendThread.addToQueue,
        if_true, List.flatMap_append, List.flatMap_singleton] at carries ⊢
      rw [← carries, List.append_assoc, List.append_assoc, ← grown]
      rfl

theorem Carries.sendThread (carries : Carries (state, messages)) :
    Carries
      ({ state with sendThread := state.sendThread.step.thread },
        messages) := by
  have unchanged :
      state.sendThread.step.thread.staged.content USBSendThread.fragments =
        state.sendThread.staged.content USBSendThread.fragments := by
    rcases state.sendThread.step_work with same | work
    · rw [same]
    · exact work.content_eq
  unfold Carries at *
  dsimp only at *
  rw [unchanged]
  exact carries

theorem Carries.step {action : Action} (carries : Carries (state, messages))
    (keeps : state.KeepsQueues action)
    (taken : machine.step state action = some next) :
    Carries (next, recordMessage state action messages) := by
  cases action with
  | reader answers =>
      cases taken
      cases here : state.loop with
      | sendLoop =>
          simp only [readerStep, here]
          exact carries.sendHead here
      | sendWrite lFormattedPacket => exact carries.sendWrite here answers
      | _ =>
          exact carries.silent (silent_readerStep answers
            (by simp [here]) (by simp [inHand, here]) keeps)
  | addToQueue aData =>
      cases taken
      exact carries.addToQueue aData
  | sendThread =>
      cases taken
      exact carries.sendThread
  | receiveThread =>
      cases taken
      refine carries.silent ⟨rfl, ?_, rfl⟩
      simp [attempted, List.filterMap_append, List.filterMap_map,
        Function.comp_def, attemptedFrame]
  | requestStop =>
      simp only [machine, ReaderLoop.step] at taken
      split at taken
      · cases taken
        exact carries.silent ⟨rfl, rfl, rfl⟩
      · cases taken

end Steps

theorem carries_of_run {state : ReaderLoop} {messages : List BinaryWiFiPacket}
    {actions : List Action} {finish : ReaderLoop × List BinaryWiFiPacket}
    (queued : state.sendThread.staged.content USBSendThread.fragments =
      messages.flatMap USBSendThread.fragments)
    (entered : state.loop = .sendLoop) (notAttempted : state.events = [])
    (keeps : machine.Guarded KeepsQueues state actions)
    (reached :
      recordingMessages.run (state, messages) actions = some finish) :
    Carries finish := by
  have carries : Carries (state, messages) := by
    simp only [Carries, attempted, notAttempted, inHand, entered, queued]
    rfl
  refine recordingMessages.guarded_invariant Carries ?_ carries
    (keeps.withHistory) reached
  rintro ⟨before, past⟩ action ⟨after, last⟩ holds keepsHere taken
  obtain ⟨step, rfl⟩ := LabelledMachine.withHistory_step_eq_some.mp taken
  exact holds.step keepsHere step

/-! ## Whole messages -/

/-- From a send path which holds the complete frames of any messages, what is
delivered are whole messages exactly when the writes of each message agree. -/
theorem whole_messages_iff {state : ReaderLoop}
    {messages : List BinaryWiFiPacket} {actions : List Action}
    {finish : ReaderLoop × List BinaryWiFiPacket}
    (queued : state.sendThread.staged.content USBSendThread.fragments =
      messages.flatMap USBSendThread.fragments)
    (entered : state.loop = .sendLoop) (notAttempted : state.events = [])
    (keeps : machine.Guarded KeepsQueues state actions)
    (reached :
      recordingMessages.run (state, messages) actions = some finish) :
    WholeMessages finish ↔ EvenWrites finish :=
  wholeMessages_iff_of_carries
    (carries_of_run queued entered notAttempted keeps reached)

/-- A message of two frames. -/
def longPacket : BinaryWiFiPacket :=
  USBSendThread.packetOf (List.replicate 500 7)

/-- The send loop is entered with the frames of that message. -/
def twoFramesQueued : ReaderLoop :=
  { start openedReader 50 with
    sendThread :=
      { mMaxBufferSize := 50
        mOutgoingQueue := USBSendThread.fragments longPacket }
    loop := .sendLoop }

theorem twoFramesQueued_content :
    twoFramesQueued.sendThread.staged.content USBSendThread.fragments =
      [longPacket].flatMap USBSendThread.fragments := by
  simp [StagedQueue.content, USBSendThread.staged, USBSendThread.unpushed,
    twoFramesQueued]

def writeFails : UsbAnswers :=
  { write := { lError := -7, transferred := 0 } }

/-- The write of the first frame times out, and that of the second succeeds. -/
def firstWriteFails : List Action :=
  [.reader {}, .reader writeFails, .reader {}, .reader {}]

theorem whole_messages_iff_firstWriteFails :
    ∃ finish,
      recordingMessages.run (twoFramesQueued, [longPacket])
          firstWriteFails = some finish ∧
        (WholeMessages finish ↔ EvenWrites finish) := by
  have runs : (recordingMessages.run (twoFramesQueued, [longPacket])
      firstWriteFails).isSome := by
    decide +kernel
  obtain ⟨finish, reached⟩ := Option.isSome_iff_exists.mp runs
  exact ⟨finish, reached,
    whole_messages_iff twoFramesQueued_content rfl rfl
      (by decide +kernel) reached⟩

/-- The PSP gets the second frame of a message without the first. -/
theorem message_truncated :
    ∃ finish,
      recordingMessages.run (twoFramesQueued, [longPacket])
          firstWriteFails = some (finish, [longPacket]) ∧
        finish.attempted = USBSendThread.fragments longPacket ∧
        finish.outcomes = [false, true] ∧
        ¬ WholeMessages (finish, [longPacket]) := by
  have length : (USBSendThread.fragments longPacket).length = 2 := by
    decide +kernel
  have runs : (recordingMessages.run (twoFramesQueued, [longPacket])
      firstWriteFails).any (fun current =>
        decide (current.2 = [longPacket] ∧
          current.1.attempted = USBSendThread.fragments longPacket ∧
          current.1.outcomes = [false, true])) = true := by
    decide +kernel
  obtain ⟨⟨finish, messages⟩, reached, outcome⟩ :=
    (Option.any_eq_true _ _).mp runs
  obtain ⟨same, attempted, outcomes⟩ := of_decide_eq_true outcome
  dsimp only at same
  subst same
  refine ⟨finish, reached, attempted, outcomes, ?_⟩
  rw [wholeMessages_iff_of_carries (carries_of_run twoFramesQueued_content
    rfl rfl (by decide +kernel) reached), EvenWrites]
  dsimp only at outcomes ⊢
  rw [outcomes, List.map_singleton, length]
  decide

end ReaderLoop

end CWUSB
