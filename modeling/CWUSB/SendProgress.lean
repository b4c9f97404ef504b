import CWUSB.SendOrder

/-!
# On the way to the next frame

Only the send thread fills the outgoing queue, and only the reader's thread
empties it.  How many steps each of the two is away from the next frame, and
what the steps of all others leave alone, is said here apart from any
execution.
-/

namespace CWUSB

/-! ## The send thread -/

namespace USBSendThread

variable {thread : USBSendThread}

/-- The packet has frames. -/
def isFilled (packet : BinaryWiFiPacket) : Bool :=
  decide (0 < packet.length.toNat)

/-- The steps of the thread behind which it pushes a frame. -/
def stepsToFrame (thread : USBSendThread) : Nat :=
  match thread.splitting with
  | none => 2 * thread.mQueue.findIdx isFilled + 1
  | some (lFrontOfQueue, lPacketIndex) =>
      if lPacketIndex < lFrontOfQueue.length.toNat then 0
      else 2 * thread.mQueue.findIdx isFilled + 2

theorem step_toFrame (empty : thread.mOutgoingQueue = [])
    (holds : thread.frames ≠ []) :
    thread.step.thread.mOutgoingQueue ≠ [] ∨
      (thread.step.thread.mOutgoingQueue = [] ∧
        thread.step.thread.stepsToFrame < thread.stepsToFrame) := by
  obtain ⟨mMaxBufferSize, mQueue, mOutgoingQueue, splitting⟩ := thread
  obtain rfl : mOutgoingQueue = [] := empty
  cases splitting with
  | none =>
      cases mQueue with
      | nil => exact absurd rfl holds
      | cons lFrontOfQueue rest =>
          right
          refine ⟨rfl, ?_⟩
          simp only [step, stepsToFrame]
          by_cases filled : 0 < lFrontOfQueue.length.toNat
          · rw [if_pos filled]
            exact Nat.succ_pos _
          · rw [if_neg filled, List.findIdx_cons, isFilled,
              decide_eq_false filled, cond_false]
            omega
  | some current =>
      obtain ⟨lFrontOfQueue, lPacketIndex⟩ := current
      by_cases unfinished : lPacketIndex < lFrontOfQueue.length.toNat
      · left
        simp [step, unfinished]
      · right
        simp [step, stepsToFrame, unfinished]

/-- A frame which is neither pushed nor being cut is in a packet which
waits. -/
theorem exists_isFilled (empty : thread.mOutgoingQueue = [])
    (idle : thread.unpushed = []) (holds : thread.frames ≠ []) :
    ∃ packet ∈ thread.mQueue, isFilled packet = true := by
  have waiting : thread.mQueue.flatMap fragments ≠ [] := by
    intro nothing
    apply holds
    simp [frames, StagedQueue.content, staged, empty, idle, nothing]
  obtain ⟨frame, member⟩ := List.exists_mem_of_ne_nil _ waiting
  obtain ⟨packet, waits, cut⟩ := List.mem_flatMap.mp member
  refine ⟨packet, waits, ?_⟩
  by_contra unfilled
  have nothing : fragments packet = [] := by
    apply fragmentsFrom_of_ge
    simpa [isFilled] using unfilled
  rw [nothing] at cut
  cases cut

/-- More packets do not delay the next frame, when there is one. -/
theorem stepsToFrame_append (packets : List BinaryWiFiPacket)
    (empty : thread.mOutgoingQueue = []) (holds : thread.frames ≠ []) :
    stepsToFrame { thread with mQueue := thread.mQueue ++ packets } =
      thread.stepsToFrame := by
  have found (idle : thread.unpushed = []) :
      (thread.mQueue ++ packets).findIdx isFilled =
        thread.mQueue.findIdx isFilled := by
    rw [List.findIdx_append, if_pos]
    apply List.findIdx_lt_length_of_exists
    exact exists_isFilled empty idle holds
  unfold stepsToFrame
  cases splitting : thread.splitting with
  | none =>
      dsimp only
      rw [found (by rw [unpushed, splitting])]
  | some current =>
      obtain ⟨lFrontOfQueue, lPacketIndex⟩ := current
      dsimp only
      split
      · rfl
      · next finished =>
          rw [found]
          rw [unpushed, splitting]
          exact fragmentsFrom_of_ge _ _ (Nat.le_of_not_lt finished)

theorem frames_append (packets : List BinaryWiFiPacket) :
    frames { thread with mQueue := thread.mQueue ++ packets } =
      thread.frames ++ packets.flatMap fragments := by
  simp [frames, StagedQueue.content, staged, unpushed]

/-- The thread takes nothing out of the outgoing queue. -/
theorem step_ready (ready : thread.mOutgoingQueue ≠ []) :
    thread.step.thread.mOutgoingQueue ≠ [] := by
  unfold step
  split
  · split <;> exact ready
  · split
    · simp
    · exact ready

end USBSendThread

/-! ## The reader's thread -/

namespace ReaderPoint

/-- The steps to the test in front of sending, when no stop is requested and
no frame is written on the way. -/
def stepsToSendTest : ReaderPoint → Nat
  | .sendTest => 0
  | .read => 1
  | .resetRetries | .clearReceiveQueues => 2
  | .clearSendQueues | .clearStop .bailOut => 3
  | .resetFlags | .closeDevice .bailOut => 4
  | .openDevice => 5
  | .clearStop .errorReset => 6
  | .closeDevice .errorReset => 7
  | .errorTest => 8
  | .checkDevice => 9
  | .stopTest => 10
  | .condition => 11
  | .sendWrite _ | .clearStop .stopBranch => 12
  | .sendLoop | .closeDevice .stopBranch => 13
  | .finished => 0

/-- The steps to the next write, on the way through `HandleAsynchronousSend`. -/
def stepsToWrite : ReaderPoint → Nat
  | .sendTest => 2
  | .sendLoop => 1
  | _ => 0

theorem LeadsTo.to_stopBranch {point : ReaderPoint}
    (leads : point.LeadsTo (.closeDevice .stopBranch)) :
    point = .stopTest := by
  cases leads
  rfl

theorem LeadsTo.nearer {point other : ReaderPoint}
    (leads : point.LeadsTo other) (notThere : point ≠ .sendTest)
    (going : point ≠ .finished)
    (unrequested : other ≠ .closeDevice .stopBranch)
    (notWriting : ∀ lFormattedPacket, point ≠ .sendWrite lFormattedPacket) :
    other.stepsToSendTest < point.stepsToSendTest := by
  cases leads with
  | stops => exact absurd rfl unrequested
  | receiving => exact absurd rfl notThere
  | sends => exact absurd rfl notThere
  | written lFormattedPacket => exact absurd rfl (notWriting lFormattedPacket)
  | ended => exact absurd rfl going
  | closed site => cases site <;> decide
  | _ => simp [stepsToSendTest]

end ReaderPoint

namespace ReaderLoop

/-- What the threads other than those two do beside them: more packets may
wait. -/
structure Beside (state next : ReaderLoop) : Prop where
  loop : next.loop = state.loop
  reader : next.reader = state.reader
  events : ∃ payloads : List (List UInt8),
    next.events = state.events ++ payloads.map .forwarded
  sendThread : ∃ packets, next.sendThread =
    { state.sendThread with mQueue := state.sendThread.mQueue ++ packets }

section Beside

variable {state middle next : ReaderLoop}

theorem Beside.refl (state : ReaderLoop) : state.Beside state :=
  ⟨rfl, rfl, ⟨[], by simp⟩, [], by simp⟩

theorem Beside.trans (first : state.Beside middle)
    (second : middle.Beside next) : state.Beside next := by
  obtain ⟨packets, sendThread⟩ := first.sendThread
  obtain ⟨more, grown⟩ := second.sendThread
  obtain ⟨payloads, events⟩ := first.events
  obtain ⟨others, added⟩ := second.events
  refine ⟨second.loop.trans first.loop, second.reader.trans first.reader,
    ⟨payloads ++ others, ?_⟩, packets ++ more, ?_⟩
  · rw [added, events, List.map_append, List.append_assoc]
  · rw [grown, sendThread, List.append_assoc]

theorem beside_addToQueue (state : ReaderLoop) (aData : List UInt8) :
    state.Beside { state with
      sendThread := (state.sendThread.addToQueue aData).thread } := by
  refine ⟨rfl, rfl, ⟨[], by simp⟩, ?_⟩
  unfold USBSendThread.addToQueue
  split
  · exact ⟨[USBSendThread.packetOf aData], rfl⟩
  · exact ⟨[], by simp⟩

theorem beside_receiveThread
    (taken : machine.step state .receiveThread = some next) :
    state.Beside next := by
  cases taken
  exact ⟨rfl, rfl, ⟨_, rfl⟩, [], by simp⟩

theorem Beside.attempted (beside : state.Beside next) :
    next.attempted = state.attempted := by
  obtain ⟨payloads, events⟩ := beside.events
  rw [ReaderLoop.attempted, events, List.filterMap_append]
  simp [ReaderLoop.attempted, List.filterMap_map, Function.comp_def,
    attemptedFrame]

end Beside

theorem Beside.inHand {state next : ReaderLoop} (beside : state.Beside next) :
    next.inHand = state.inHand := by
  rw [ReaderLoop.inHand, beside.loop]
  rfl

theorem Beside.outgoing {state next : ReaderLoop}
    (beside : state.Beside next) : state.outgoing <+: next.outgoing := by
  obtain ⟨packets, sendThread⟩ := beside.sendThread
  rw [ReaderLoop.outgoing, ReaderLoop.outgoing, beside.attempted,
    beside.inHand, sendThread, USBSendThread.frames_append,
    ← List.append_assoc]
  exact List.prefix_append _ _

/-- A frame is popped or can be. -/
def Ready (state : ReaderLoop) : Prop :=
  state.inHand ≠ [] ∨ state.sendThread.mOutgoingQueue ≠ []

theorem Beside.ready {state next : ReaderLoop} (beside : state.Beside next)
    (ready : state.Ready) : next.Ready := by
  obtain ⟨packets, sendThread⟩ := beside.sendThread
  refine ready.imp ?_ ?_
  · rw [beside.inHand]
    exact id
  · rw [sendThread]
    exact id

section Reader

variable {state : ReaderLoop} (answers : UsbAnswers)

theorem readerStep_unstopped (unrequested : state.reader.mStopRequest = false) :
    (state.readerStep answers).loop ≠ .closeDevice .stopBranch := by
  intro there
  have leads := state.readerStep_leadsTo answers
  rw [there] at leads
  have here := leads.to_stopBranch
  rw [readerStep, here] at there
  simp [unrequested, goTo] at there

/-- Without a frame to take, the reader's thread leaves the send thread
alone. -/
theorem readerStep_unready (unready : ¬ state.Ready)
    (keeps : state.loop ≠ .clearSendQueues) :
    (state.readerStep answers).sendThread = state.sendThread := by
  by_cases here : state.loop = .sendLoop
  · have empty : state.sendThread.mOutgoingQueue = [] := by
      by_contra filled
      exact unready (.inr filled)
    rw [readerStep, here]
    dsimp only [sendHead]
    rw [USBSendThread.hasOutgoingData, empty, List.isEmpty_nil, Bool.not_true,
      Bool.and_false, if_neg Bool.false_ne_true]
    rfl
  · exact state.readerStep_sendThread answers keeps here

/-- The frame which can be taken is taken, and the one taken is given to
`USBBulkWrite`. -/
theorem readerStep_ready (ready : state.Ready)
    (keeps : state.loop ≠ .clearSendQueues) :
    state.attempted.length < (state.readerStep answers).attempted.length ∨
      (state.readerStep answers).Ready := by
  cases here : state.loop with
  | sendWrite lFormattedPacket =>
      left
      rw [state.sendWrite_attempted here answers, List.length_append]
      exact Nat.lt_succ_self _
  | sendLoop =>
      right
      have filled : state.sendThread.mOutgoingQueue ≠ [] := by
        refine ready.resolve_left ?_
        simp [inHand, here]
      rw [readerStep, here]
      dsimp only [sendHead]
      split
      · exact .inl (by simp [inHand])
      · exact .inr filled
  | _ =>
      right
      have filled : state.sendThread.mOutgoingQueue ≠ [] := by
        refine ready.resolve_left ?_
        simp [inHand, here]
      refine .inr ?_
      rw [state.readerStep_sendThread answers keeps (by simp [here])]
      exact filled

/-- The reader's thread is about to enter `HandleAsynchronousSend`, or inside
of it. -/
def Sending (state : ReaderLoop) : Prop :=
  (state.loop = .sendTest ∧ state.reader.mReceiveStitching = false) ∨
    state.loop = .sendLoop ∨
    ∃ lFormattedPacket, state.loop = .sendWrite lFormattedPacket

theorem readerStep_sending (sending : state.Sending) (ready : state.Ready)
    (unrequested : state.reader.mStopRequest = false) :
    state.attempted.length < (state.readerStep answers).attempted.length ∨
      ((state.readerStep answers).Sending ∧
        (state.readerStep answers).loop.stepsToWrite <
          state.loop.stepsToWrite) := by
  rcases sending with ⟨here, outside⟩ | here | ⟨lFormattedPacket, here⟩
  · right
    have there : (state.readerStep answers).loop = .sendLoop := by
      simp [readerStep, here, goTo, outside]
    rw [Sending, there, here]
    exact ⟨.inr (.inl rfl), Nat.lt_succ_self _⟩
  · right
    have filled : state.sendThread.mOutgoingQueue ≠ [] := by
      refine ready.resolve_left ?_
      simp [inHand, here]
    have popped : (state.readerStep answers).loop =
        .sendWrite state.sendThread.popFromOutgoingQueue.1 := by
      simp [readerStep, here, sendHead, unrequested,
        USBSendThread.hasOutgoingData, filled]
    rw [Sending, popped, here]
    exact ⟨.inr (.inr ⟨_, rfl⟩), Nat.lt_succ_self _⟩
  · left
    rw [state.sendWrite_attempted here answers, List.length_append]
    exact Nat.lt_succ_self _

end Reader

end ReaderLoop

end CWUSB
