import CWUSB.ReaderPaths

/-!
# The order of the frames across resets

A reset empties both queues of the send thread, whatever it was doing, so the
pipeline does lose frames.  Nothing else happens to them: what goes through
the reader's loop is, at any time and over any number of resets, a selection
of the frames of the payloads offered, in their order; and between two resets
it is all of those which were accepted.
-/

namespace CWUSB

/-- The frames which the send thread makes of payloads. -/
def framesOf (payloads : List (List UInt8)) : List BinaryStitchUSBPacket :=
  payloads.flatMap fun aData =>
    USBSendThread.fragments (USBSendThread.packetOf aData)

@[simp] theorem framesOf_nil : framesOf [] = [] := rfl

@[simp] theorem framesOf_append (first second : List (List UInt8)) :
    framesOf (first ++ second) = framesOf first ++ framesOf second :=
  List.flatMap_append

theorem framesOf_sublist {payloads more : List (List UInt8)}
    (among : payloads.Sublist more) :
    (framesOf payloads).Sublist (framesOf more) :=
  among.flatMap _

namespace USBSendThread

/-- The frames in the pipeline, in the order they will leave it. -/
def frames (thread : USBSendThread) : List BinaryStitchUSBPacket :=
  thread.staged.content fragments

theorem frames_step (thread : USBSendThread) :
    thread.step.thread.frames = thread.frames := by
  rcases thread.step_work with same | work
  · rw [frames, same, frames]
  · exact work.content_eq

/-- A payload is taken whole or not at all. -/
theorem frames_addToQueue (thread : USBSendThread) (aData : List UInt8) :
    ∃ accepted : List (List UInt8), accepted.Sublist [aData] ∧
      (thread.addToQueue aData).thread.frames =
        thread.frames ++ framesOf accepted := by
  unfold addToQueue
  split
  · refine ⟨[aData], List.Sublist.refl _, ?_⟩
    have grown := StagedQueue.content_accept fragments thread.staged
      (packetOf aData)
    rw [framesOf, List.flatMap_singleton]
    exact grown
  · exact ⟨[], List.nil_sublist _, (List.append_nil _).symm⟩

/-- Of the frames of a packet being split those not pushed yet are left. -/
theorem frames_clearQueues (thread : USBSendThread) :
    thread.clearQueues.frames.Sublist thread.frames := by
  unfold frames StagedQueue.content
  refine (List.nil_sublist _).append ?_
  refine List.Sublist.append ?_ (List.nil_sublist _)
  exact List.Sublist.refl _

/-- The reader takes the first frame. -/
theorem frames_popFromOutgoingQueue {thread : USBSendThread}
    (ready : thread.hasOutgoingData = true) :
    thread.popFromOutgoingQueue.1 :: thread.popFromOutgoingQueue.2.frames =
      thread.frames := by
  obtain ⟨mMaxBufferSize, mQueue, mOutgoingQueue, splitting⟩ := thread
  cases mOutgoingQueue with
  | nil => simp [hasOutgoingData] at ready
  | cons packet rest =>
      exact (StagedQueue.content_pop fragments mQueue _ rest packet).symm

end USBSendThread

namespace ReaderLoop

/-- The payloads given to `AddToQueue`, whether it takes them or not. -/
def Action.offered : Action → List (List UInt8)
  | .addToQueue aData => [aData]
  | .reader _ | .sendThread | .receiveThread | .requestStop => []

/-- The frames attempted and those still to be written. -/
def outgoing (state : ReaderLoop) : List BinaryStitchUSBPacket :=
  state.attempted ++ state.inHand ++ state.sendThread.frames

theorem attempted_outgoing (state : ReaderLoop) :
    state.attempted <+: state.outgoing := by
  rw [outgoing, List.append_assoc]
  exact List.prefix_append _ _

/-- What was in the pipeline has been given to `USBBulkWrite`, and written
unless a write failed meanwhile. -/
structure Flushed (state later : ReaderLoop) : Prop where
  attempted : state.outgoing <+: later.attempted
  written : later.lost = state.lost →
    state.written ++ (state.inHand ++ state.sendThread.frames) <+:
      later.written

section Step

variable {state next : ReaderLoop}

theorem flushed_of_attempted (events : state.events <+: next.events)
    (attempted : state.outgoing <+: next.attempted) :
    state.Flushed next := by
  obtain ⟨more, events⟩ := events
  refine ⟨attempted, fun noneLost => ?_⟩
  rw [lost, ← events, List.filterMap_append] at noneLost
  have since : more.filterMap lostFrame = [] :=
    List.append_right_eq_self.mp noneLost
  rw [outgoing, List.append_assoc, ReaderLoop.attempted,
    ReaderLoop.attempted, ← events, List.filterMap_append,
    List.prefix_append_right_inj] at attempted
  rw [written, written, ← events, List.filterMap_append,
    List.prefix_append_right_inj, written_of_noneLost since]
  exact attempted

theorem outgoing_silent (silent : state.Silent next) :
    next.outgoing = state.outgoing := by
  rw [outgoing, outgoing, silent.attempted, silent.inHand, silent.thread]

theorem outgoing_sendHead (here : state.loop = .sendLoop) :
    state.sendHead.outgoing = state.outgoing := by
  have handEmpty : state.inHand = [] := by simp [inHand, here]
  unfold sendHead
  split
  · next ready =>
      simp only [Bool.and_eq_true] at ready
      have first := USBSendThread.frames_popFromOutgoingQueue ready.2
      rw [outgoing, outgoing, handEmpty, List.append_nil, ← first]
      exact List.append_assoc _ _ _
  · exact outgoing_silent (silent_of handEmpty rfl rfl rfl)

theorem outgoing_sendWrite {lFormattedPacket : BinaryStitchUSBPacket}
    (here : state.loop = .sendWrite lFormattedPacket)
    (answers : UsbAnswers) :
    (state.readerStep answers).outgoing = state.outgoing := by
  have attempted := state.sendWrite_attempted here answers
  have inHand : state.inHand = [lFormattedPacket] := by
    rw [ReaderLoop.inHand, here]
  have handEmpty : (state.readerStep answers).inHand = [] := by
    rw [ReaderLoop.inHand, readerStep, here]
    rfl
  have thread : (state.readerStep answers).sendThread = state.sendThread := by
    rw [readerStep, here]
    rfl
  rw [outgoing, outgoing, attempted, inHand, handEmpty, thread,
    List.append_nil]

/-- The reader's thread passes the frames on, unless it clears the queues. -/
theorem outgoing_readerStep (answers : UsbAnswers)
    (keeps : state.loop ≠ .clearSendQueues) :
    (state.readerStep answers).outgoing = state.outgoing := by
  cases here : state.loop with
  | sendLoop =>
      rw [readerStep, here]
      exact outgoing_sendHead here
  | sendWrite lFormattedPacket => exact outgoing_sendWrite here answers
  | _ =>
      apply outgoing_silent
      exact silent_readerStep answers (by simp [here]) (by simp [inHand, here])
        keeps

theorem outgoing_clear (here : state.loop = .clearSendQueues)
    (answers : UsbAnswers) :
    (state.readerStep answers).outgoing.Sublist state.outgoing := by
  have handEmpty : state.inHand = [] := by simp [inHand, here]
  rw [readerStep, here, outgoing, outgoing, handEmpty]
  exact (List.Sublist.refl _).append
    (USBSendThread.frames_clearQueues state.sendThread)

variable (state) in
theorem outgoing_addToQueue (aData : List UInt8) :
    ∃ accepted : List (List UInt8), accepted.Sublist [aData] ∧
      outgoing
          { state with
            sendThread := (state.sendThread.addToQueue aData).thread } =
        state.outgoing ++ framesOf accepted := by
  obtain ⟨accepted, among, frames⟩ := state.sendThread.frames_addToQueue aData
  refine ⟨accepted, among, ?_⟩
  unfold outgoing
  dsimp only
  rw [frames, ← List.append_assoc]
  rfl

/-- Between resets a step adds the frames of what it accepts behind all
others, and moves the rest along. -/
theorem outgoing_step {action : Action} (keeps : state.KeepsQueues action)
    (taken : machine.step state action = some next) :
    ∃ accepted : List (List UInt8), accepted.Sublist action.offered ∧
      next.outgoing = state.outgoing ++ framesOf accepted := by
  cases action with
  | reader answers =>
      cases taken
      refine ⟨[], List.Sublist.refl _, ?_⟩
      rw [framesOf_nil, List.append_nil]
      exact outgoing_readerStep answers keeps
  | addToQueue aData =>
      cases taken
      exact state.outgoing_addToQueue aData
  | sendThread =>
      cases taken
      refine ⟨[], List.Sublist.refl _, ?_⟩
      rw [framesOf_nil, List.append_nil, outgoing, outgoing,
        ← state.sendThread.frames_step]
      rfl
  | receiveThread =>
      cases taken
      refine ⟨[], List.Sublist.refl _, ?_⟩
      rw [framesOf_nil, List.append_nil]
      refine outgoing_silent ⟨rfl, ?_, rfl⟩
      simp [attempted, List.filterMap_append, List.filterMap_map,
        Function.comp_def, attemptedFrame]
  | requestStop =>
      simp only [machine, ReaderLoop.step, Option.ite_none_right_eq_some,
        Option.some.injEq] at taken
      obtain ⟨_, rfl⟩ := taken
      refine ⟨[], List.Sublist.refl _, ?_⟩
      rw [framesOf_nil, List.append_nil]
      exact outgoing_silent ⟨rfl, rfl, rfl⟩

/-- Whatever a step does, it brings in nothing but frames of the payload
offered. -/
theorem outgoing_step_sublist {action : Action}
    (taken : machine.step state action = some next) :
    next.outgoing.Sublist (state.outgoing ++ framesOf action.offered) := by
  by_cases keeps : state.KeepsQueues action
  · obtain ⟨accepted, among, outgoing⟩ := outgoing_step keeps taken
    rw [outgoing]
    exact (List.Sublist.refl _).append (framesOf_sublist among)
  · cases action with
    | reader answers =>
        cases taken
        have here : state.loop = .clearSendQueues := by
          by_contra elsewhere
          exact keeps elsewhere
        rw [Action.offered, framesOf_nil, List.append_nil]
        exact outgoing_clear here answers
    | _ => exact absurd trivial keeps

end Step

end ReaderLoop

end CWUSB
