import CWUSB.Delivery
import CWUSB.Library.Transducer

/-!
# What was read is forwarded

The other direction: the USB receive thread joins the fragments which the
reader queued and hands each message to `mConnection.Send` with its last
fragment.  While `main` waits for the signal and nothing clears the queue, a
message which was read completely is handed over in the end, however many
others follow it, and even if a `Send` finds the socket closed.
-/

namespace CWUSB

/-! ## The USB receive thread -/

namespace USBReceiveThread

/-- Joining fragments, as the loop does it behind the pop. -/
def joins :
    Transducer BinaryStitchWiFiPacket BinaryStitchUSBPacket (List UInt8) where
  absorb message lFrontOfQueue :=
    let stepped := appendAndForward
      { mMaxBufferSize := 0, mLastReceivedMessage := message } lFrontOfQueue
    (stepped.thread.mLastReceivedMessage, stepped.sent)

/-- What the fragments which wait will make the thread hand over. -/
def stillForwards (thread : USBReceiveThread) : List (List UInt8) :=
  joins.outputs thread.mLastReceivedMessage thread.pending

/-- The steps to the next message, two for each fragment. -/
def stepsToForward (thread : USBReceiveThread) : Nat :=
  2 * joins.delay thread.mLastReceivedMessage thread.pending -
    thread.lFrontOfQueue.toList.length

section Step

variable {thread : USBReceiveThread}

/-- The work on a fragment does not depend on the queue. -/
theorem appendAndForward_joins (thread : USBReceiveThread)
    (lFrontOfQueue : BinaryStitchUSBPacket) :
    (thread.appendAndForward lFrontOfQueue).thread.mLastReceivedMessage =
        (joins.absorb thread.mLastReceivedMessage lFrontOfQueue).1 ∧
      (thread.appendAndForward lFrontOfQueue).sent =
        (joins.absorb thread.mLastReceivedMessage lFrontOfQueue).2 ∧
      (thread.appendAndForward lFrontOfQueue).thread.mQueue =
        thread.mQueue ∧
      (thread.appendAndForward lFrontOfQueue).thread.lFrontOfQueue =
        thread.lFrontOfQueue := by
  have same : thread.append lFrontOfQueue =
      append
        { mMaxBufferSize := 0
          mLastReceivedMessage := thread.mLastReceivedMessage }
        lFrontOfQueue := rfl
  unfold joins appendAndForward
  dsimp only
  rw [same]
  split
  · exact ⟨rfl, rfl, rfl, rfl⟩
  · split <;> exact ⟨rfl, rfl, rfl, rfl⟩

/-- A step hands over the next of these messages, or none. -/
theorem step_stillForwards :
    thread.step.sent.toList ++ thread.step.thread.stillForwards =
      thread.stillForwards := by
  unfold step
  cases front : thread.lFrontOfQueue with
  | none =>
      cases queue : thread.mQueue with
      | nil => rfl
      | cons lFrontOfQueue rest =>
          simp [stillForwards, pending, front, queue]
  | some lFrontOfQueue =>
      obtain ⟨message, sent, mQueue, inHand⟩ :=
        appendAndForward_joins { thread with lFrontOfQueue := none }
          lFrontOfQueue
      dsimp only
      rw [stillForwards, stillForwards, pending, pending, message, sent,
        mQueue, inHand, front]
      rfl

/-- With a message to hand over, each step does so or comes nearer to it. -/
theorem step_nearer (waits : thread.stillForwards ≠ []) :
    thread.step.sent ≠ none ∨
      thread.step.thread.stepsToForward < thread.stepsToForward := by
  have positive := Transducer.delay_pos waits
  unfold step
  unfold pending at positive
  cases front : thread.lFrontOfQueue with
  | none =>
      right
      rw [front] at positive
      cases queue : thread.mQueue with
      | nil => simp [stillForwards, pending, front, queue] at waits
      | cons lFrontOfQueue rest =>
          rw [queue] at positive
          simp only [stepsToForward, pending, front, queue]
          change 2 * joins.delay _ (lFrontOfQueue :: rest) - 1 <
            2 * joins.delay _ (lFrontOfQueue :: rest) - 0
          change 0 < joins.delay _ (lFrontOfQueue :: rest) at positive
          omega
  | some lFrontOfQueue =>
      obtain ⟨message, sent, mQueue, inHand⟩ :=
        appendAndForward_joins { thread with lFrontOfQueue := none }
          lFrontOfQueue
      dsimp only
      cases emitted : (joins.absorb thread.mLastReceivedMessage
          lFrontOfQueue).2 with
      | some payload =>
          left
          rw [sent, emitted]
          exact Option.some_ne_none payload
      | none =>
          right
          have next : joins.delay thread.mLastReceivedMessage
              (lFrontOfQueue :: thread.mQueue) = _ :=
            Transducer.delay_cons emitted
          rw [stepsToForward, stepsToForward, pending, pending, message,
            mQueue, inHand, front]
          change 2 * joins.delay (joins.absorb thread.mLastReceivedMessage
              lFrontOfQueue).1 thread.mQueue - 0 <
            2 * joins.delay _ (lFrontOfQueue :: thread.mQueue) - 1
          rw [next]
          omega

/-- More fragments wait behind all others. -/
theorem stillForwards_append (packets : List BinaryStitchUSBPacket) :
    thread.stillForwards <+:
      stillForwards { thread with mQueue := thread.mQueue ++ packets } := by
  rw [stillForwards, stillForwards, pending, pending, ← List.append_assoc]
  exact Transducer.outputs_prefix packets

theorem stepsToForward_append (packets : List BinaryStitchUSBPacket)
    (waits : thread.stillForwards ≠ []) :
    stepsToForward { thread with mQueue := thread.mQueue ++ packets } =
      thread.stepsToForward := by
  rw [stepsToForward, stepsToForward, pending, pending, ← List.append_assoc]
  rw [stillForwards, pending] at waits
  rw [Transducer.delay_append packets waits]

/-- On fragments which the reader cuts this is the reassembly of the
stream. -/
theorem outputs_assemble {packets : List BinaryStitchUSBPacket}
    {message : BinaryStitchWiFiPacket} (within : message.WellFormed)
    (cut : ∀ packet ∈ packets,
      packet.WellFormed ∧ 0 < packet.length.toNat) :
    joins.outputs message packets =
      (Stitching.assemble cMaxAsynchronousBuffer message.collected
        (packets.map BinaryStitchUSBPacket.piece)).2 := by
  induction packets generalizing message with
  | nil => rfl
  | cons packet packets induction =>
      obtain ⟨wellFormed, filled⟩ := cut packet List.mem_cons_self
      have absorbed := appendAndForward_absorb
        { mMaxBufferSize := 0, mLastReceivedMessage := message }
        within wellFormed
      have kept : (joins.absorb message packet).1.WellFormed :=
        @appendAndForward_wellFormed
          { mMaxBufferSize := 0, mLastReceivedMessage := message } packet
          within wellFormed (fun _ => filled)
      have rest := induction kept
        (fun other member => cut other (List.mem_cons_of_mem _ member))
      rw [Transducer.outputs_cons, List.map_cons, Stitching.assemble_cons,
        ← absorbed, rest]
      rfl

theorem outcome_stillForwards (wellFormed : thread.WellFormed) :
    thread.outcome.2 = thread.stillForwards :=
  (outputs_assemble wellFormed.message wellFormed.packets).symm

end Step

end USBReceiveThread

/-! ## The threads -/

namespace Program

/-- Forwarding ends: `main` left its loop, an exception ended the process, or
the queue is being cleared. -/
def ReceivingEnds (program : Program) : Prop :=
  program.main ≠ .running ∨ program.kai.loop = .threw ∨
    program.usb.loop = .clearReceiveQueues

/-- What the other threads do beside the USB receive thread: more fragments
may wait. -/
structure Aside (program next : Program) : Prop where
  forwarded : next.usb.forwarded = program.usb.forwarded
  usbSend : next.kai.usbSend = program.kai.usbSend
  receiveThread : ∃ packets, next.usb.receiveThread =
    { program.usb.receiveThread with
      mQueue := program.usb.receiveThread.mQueue ++ packets }

section Aside

variable {program next : Program}

theorem aside_kai {action : KaiLoop.Action} (notSend : action.sends = false)
    (taken : machine.step program (.kai action) = some next) :
    program.Aside next := by
  obtain ⟨kai, _, moves, same⟩ := kai_parts taken
  obtain ⟨sendThread, usb⟩ := same.usb
  refine ⟨?_, ?_, [], ?_⟩
  · rw [usb]
    rfl
  · rw [same.kai]
    exact KaiLoop.step_usbSend notSend moves
  · rw [usb, List.append_nil]

theorem aside_reader {answers : UsbAnswers}
    (keeps : program.usb.loop ≠ .clearReceiveQueues) :
    program.Aside
      { program with usb := program.usb.readerStep answers } := by
  refine ⟨ReaderLoop.readerStep_forwarded answers, rfl, ?_⟩
  by_cases reads : program.usb.loop = .read
  · dsimp only
    rw [ReaderLoop.readerStep, reads]
    dsimp only [ReaderLoop.goTo, ReaderLoop.read]
    split
    · exact ⟨[], by rw [List.append_nil]⟩
    · dsimp only [ReaderLoop.deliver, ReaderLoop.record]
      split
      · exact ⟨[], by rw [List.append_nil]⟩
      · next packet _ =>
          unfold USBReceiveThread.addToQueue
          split
          · exact ⟨[packet], rfl⟩
          · exact ⟨[], by rw [List.append_nil]⟩
  · refine ⟨[], ?_⟩
    dsimp only
    rw [ReaderLoop.readerStep_receiveThread answers reads keeps,
      List.append_nil]

theorem aside_of_other {action : ThreadAction}
    (going : ¬ program.ReceivingEnds)
    (other : action.thread ≠ .receiver)
    (taken : bridge.step program action = some next) :
    program.Aside next := by
  have running : program.main = .running := by
    by_contra stopped
    exact going (.inl stopped)
  have run := bridgeStep_run taken
  cases action with
  | main fails =>
      obtain rfl := main_leaves running taken
      exact ⟨rfl, rfl, [], by rw [List.append_nil]⟩
  | reader answers =>
      obtain ⟨usb, _, moved, rfl⟩ := usb_parts (run_singleton.mp run)
      cases moved
      exact aside_reader fun clears => going (.inr (.inr clears))
  | sendThread =>
      obtain ⟨usb, _, moved, rfl⟩ := usb_parts (run_singleton.mp run)
      cases moved
      exact ⟨rfl, rfl, [], by rw [List.append_nil]⟩
  | kaiLoop now fails => exact aside_kai rfl (run_singleton.mp run)
  | datagram bytes sender => exact aside_kai rfl (run_singleton.mp run)
  | receiveThread => exact absurd rfl other
  | sending fails => exact absurd rfl other

/-- What the USB receive thread itself does: it takes on a fragment, or goes on
in `Send`. -/
inductive Forwards (program next : Program) : Prop where
  | takes (outside : program.kai.usbSend = .outside)
      (receiveThread : next.usb.receiveThread =
        program.usb.receiveThread.step.thread)
      (forwarded : next.usb.forwarded = program.usb.forwarded ++
        program.usb.receiveThread.step.sent.toList)
      (kai : program.usb.receiveThread.step.sent = none →
        next.kai = program.kai)
  | sends (nearer : next.kai.usbSend.left < program.kai.usbSend.left)
      (receiveThread : next.usb.receiveThread = program.usb.receiveThread)
      (forwarded : next.usb.forwarded = program.usb.forwarded)

theorem forwards {action : ThreadAction} (ours : action.thread = .receiver)
    (taken : bridge.step program action = some next) :
    program.Forwards next := by
  have run := bridgeStep_run taken
  cases action with
  | receiveThread =>
      obtain ⟨path, _⟩ := receiveThread_cases taken
      refine .takes (receiveThread_outside taken)
        (congrArg ReceivePath.thread path) (receiveThread_forwarded taken) ?_
      intro silent
      obtain ⟨middle, receives, sends⟩ :=
        LabelledMachine.run_cons_eq_some.mp run
      rw [silent] at sends
      cases sends
      obtain ⟨usb, _, _, rfl⟩ := usb_parts receives
      rfl
  | sending fails =>
      obtain ⟨kai, _, moves, same⟩ := kai_parts (run_singleton.mp run)
      obtain ⟨sendThread, usb⟩ := same.usb
      refine .sends ?_ ?_ ?_
      · rw [same.kai]
        exact (KaiLoop.usbSending_left moves).1
      · rw [usb]
      · rw [usb]
        rfl
  | _ => cases ours

theorem receive_taken (returning : program.kai.loop ≠ .threw)
    (created : program.mUSBReceiveThread = true) :
    ∃ next, machine.step program (.usb .receiveThread) = some next ∧
      next.kai = program.kai ∧ next.mUSBReceiveThread = true := by
  simp [machine, Program.step, returning, usbRuns, created, ReaderLoop.step]

/-- `Send` is never refused, only ineffective. -/
theorem send_enabled (payload : List UInt8)
    (returning : program.kai.loop ≠ .threw)
    (created : program.mUSBReceiveThread = true)
    (outside : program.kai.usbSend = .outside) :
    ∃ next, machine.step program (.kai (.usbSend payload)) = some next := by
  have goes : program.kai.step (.usbSend payload) =
      some (program.kai.usbSendStart payload) := by
    simp [KaiLoop.step, returning, outside]
  have runs : program.kaiRuns (.usbSend payload) = true := created
  exact kai_enabled returning runs goes

theorem receiver_enabled (manned : program.Manned)
    (going : ¬ program.ReceivingEnds) :
    bridge.Enabled ThreadAction.thread .receiver program := by
  obtain ⟨runs, others⟩ := not_or.mp going
  have running : program.main = .running := not_not.mp runs
  have returning := (not_or.mp others).1
  have created : program.mUSBReceiveThread = true :=
    manned.receiver (.inr (.inr running))
  by_cases outside : program.kai.usbSend = .outside
  · obtain ⟨middle, received, kai, still⟩ := receive_taken returning created
    have passes : ∃ next, machine.run program
        (ThreadAction.actions program .receiveThread) = some next := by
      unfold ThreadAction.actions
      cases program.usb.receiveThread.step.sent with
      | none => exact ⟨middle, run_singleton.mpr received⟩
      | some payload =>
          rw [← kai] at returning outside
          obtain ⟨next, sends⟩ :=
            send_enabled payload returning still outside
          exact ⟨next, LabelledMachine.run_cons_eq_some.mpr
            ⟨middle, received, run_singleton.mpr sends⟩⟩
    obtain ⟨next, run⟩ := passes
    refine ⟨.receiveThread, next, rfl, ?_⟩
    have free : ThreadAction.waits program .receiveThread = false :=
      decide_eq_false (not_not.mpr outside)
    change (if ThreadAction.waits program .receiveThread = true
      then none else _) = _
    rw [free, if_neg Bool.false_ne_true]
    exact run
  · obtain ⟨kai, goes⟩ :=
      KaiLoop.usbSending_enabled false returning outside
    have runs : program.kaiRuns (.usbSending false) = true := created
    obtain ⟨next, taken⟩ := kai_enabled returning runs goes
    exact ⟨.sending false, next, rfl, bridge_single rfl rfl taken⟩

end Aside

/-! ## One message -/

/-- What was handed over, and what will be handed over of the fragments which
were queued. -/
def promised (program : Program) : List (List UInt8) :=
  program.usb.forwarded ++ program.usb.receiveThread.stillForwards

section Promised

variable {program next : Program}

theorem promised_step {action : ThreadAction}
    (going : ¬ program.ReceivingEnds)
    (taken : bridge.step program action = some next) :
    program.promised <+: next.promised := by
  unfold promised
  by_cases ours : action.thread = .receiver
  · cases forwards ours taken with
    | takes outside receiveThread forwarded kai =>
        rw [forwarded, receiveThread, List.append_assoc,
          USBReceiveThread.step_stillForwards]
    | sends nearer receiveThread forwarded =>
        rw [forwarded, receiveThread]
  · obtain ⟨forwarded, _, packets, receiveThread⟩ :=
      aside_of_other going ours taken
    rw [forwarded, receiveThread, List.prefix_append_right_inj]
    exact USBReceiveThread.stillForwards_append packets

theorem forwarded_step {action : ThreadAction}
    (going : ¬ program.ReceivingEnds)
    (taken : bridge.step program action = some next) :
    program.usb.forwarded <+: next.usb.forwarded := by
  by_cases ours : action.thread = .receiver
  · cases forwards ours taken with
    | takes outside receiveThread forwarded kai =>
        rw [forwarded]
        exact List.prefix_append _ _
    | sends nearer receiveThread forwarded => rw [forwarded]
  · rw [(aside_of_other going ours taken).forwarded]

/-- The steps of the USB receive thread to the next message, with those of a
`Send` under way. -/
def stepsToForward (program : Program) : Nat :=
  program.usb.receiveThread.stepsToForward + program.kai.usbSend.left

theorem receiver_nearer {action : ThreadAction}
    (waits : program.usb.receiveThread.stillForwards ≠ [])
    (ours : action.thread = .receiver)
    (taken : bridge.step program action = some next) :
    program.usb.forwarded.length < next.usb.forwarded.length ∨
      (next.usb.receiveThread.stillForwards =
          program.usb.receiveThread.stillForwards ∧
        next.stepsToForward < program.stepsToForward) := by
  cases forwards ours taken with
  | takes outside receiveThread forwarded kai =>
      have kept := program.usb.receiveThread.step_stillForwards
      cases sent : program.usb.receiveThread.step.sent with
      | some payload =>
          left
          rw [forwarded, sent, List.length_append]
          exact Nat.lt_succ_self _
      | none =>
          right
          have nearer := (USBReceiveThread.step_nearer waits).resolve_left
            (not_not.mpr sent)
          rw [sent, Option.toList_none, List.nil_append] at kept
          refine ⟨by rw [receiveThread, kept], ?_⟩
          rw [stepsToForward, stepsToForward, receiveThread, kai sent]
          exact Nat.add_lt_add_right nearer _
  | sends nearer receiveThread forwarded =>
      right
      refine ⟨by rw [receiveThread], ?_⟩
      rw [stepsToForward, stepsToForward, receiveThread]
      exact Nat.add_lt_add_left nearer _

end Promised

section OneMessage

variable {execution : bridge.Execution} {since : Nat}

/-- The next message is handed over, when its last fragment waits. -/
theorem forwards_next {count : Nat}
    (fair : execution.Fair ThreadAction.thread .receiver)
    (manned : (execution.state since).Manned)
    (atLeast : count ≤ (execution.state since).usb.forwarded.length)
    (waits : (execution.state since).usb.receiveThread.stillForwards ≠ []) :
    ∃ later, since ≤ later ∧
      ((execution.state later).ReceivingEnds ∨
        count < (execution.state later).usb.forwarded.length) := by
  refine LabelledMachine.Execution.reaches_of_fair ThreadAction.thread
    stepsToForward
    (fun program => (program.Manned ∧
      count ≤ program.usb.forwarded.length) ∧
        program.usb.receiveThread.stillForwards ≠ [])
    (fun program => program.ReceivingEnds ∨
      count < program.usb.forwarded.length)
    (fun _ => .receiver) ?_ ?_ (fun _ _ => fair)
    (execution.guardedFrom_true since) ⟨⟨manned, atLeast⟩, waits⟩
  · rintro program ⟨⟨manned, _⟩, _⟩ going
    exact receiver_enabled manned (not_or.mp going).1
  · rintro program action next ⟨⟨manned, atLeast⟩, waits⟩ going _ taken
    have goes := (not_or.mp going).1
    have kept : next.Manned ∧ count ≤ next.usb.forwarded.length :=
      ⟨manned.bridge taken,
        Nat.le_trans atLeast (forwarded_step goes taken).length_le⟩
    by_cases ours : action.thread = .receiver
    · rcases receiver_nearer waits ours taken with more | ⟨same, nearer⟩
      · exact .inl (.inr (Nat.lt_of_le_of_lt atLeast more))
      · right
        refine ⟨⟨kept, ?_⟩, .inl nearer⟩
        rw [same]
        exact waits
    · right
      obtain ⟨_, usbSend, packets, receiveThread⟩ :=
        aside_of_other goes ours taken
      refine ⟨⟨kept, ?_⟩, .inr ⟨?_, rfl, ours⟩⟩
      · rw [receiveThread]
        intro nothing
        have before :=
          program.usb.receiveThread.stillForwards_append packets
        rw [nothing] at before
        exact waits (List.prefix_nil.mp before)
      · rw [stepsToForward, stepsToForward, receiveThread, usbSend,
          USBReceiveThread.stepsToForward_append packets waits]

/-- A `Send` under way comes to its end. -/
theorem send_returns
    (fair : execution.Fair ThreadAction.thread .receiver)
    (manned : (execution.state since).Manned) :
    ∃ later, since ≤ later ∧
      ((execution.state later).ReceivingEnds ∨
        (execution.state later).kai.usbSend = .outside) := by
  refine LabelledMachine.Execution.reaches_of_fair ThreadAction.thread
    (fun program : Program => program.kai.usbSend.left) Manned
    (fun program => program.ReceivingEnds ∨
      program.kai.usbSend = .outside)
    (fun _ => .receiver) ?_ ?_ (fun _ _ => fair)
    (execution.guardedFrom_true since) manned
  · exact fun program manned going =>
      receiver_enabled manned (not_or.mp going).1
  · rintro program action next manned going _ taken
    obtain ⟨goes, inside⟩ := not_or.mp going
    refine .inr ⟨manned.bridge taken, ?_⟩
    by_cases ours : action.thread = .receiver
    · left
      cases forwards ours taken with
      | takes outside => exact absurd outside inside
      | sends nearer => exact nearer
    · right
      rw [(aside_of_other goes ours taken).usbSend]
      exact ⟨rfl, rfl, ours⟩

/-- Everything promised is handed over in the end, and `Send` has returned. -/
theorem promised_forwarded
    (fair : execution.Fair ThreadAction.thread .receiver)
    (manned : (execution.state since).Manned) :
    (∃ later, since ≤ later ∧ (execution.state later).ReceivingEnds) ∨
      ∃ later, since ≤ later ∧
        (execution.state since).promised <+:
          (execution.state later).usb.forwarded ∧
        (execution.state later).kai.usbSend = .outside := by
  by_cases ends : ∃ later, since ≤ later ∧
      (execution.state later).ReceivingEnds
  · exact .inl ends
  right
  have going (later : Nat) (behind : since ≤ later) :
      ¬ (execution.state later).ReceivingEnds :=
    fun there => ends ⟨later, behind, there⟩
  have goes : execution.GuardedFrom
      (fun program _ => ¬ program.ReceivingEnds) since :=
    fun later _ behind _ => going later behind
  have kept {later : Nat} (behind : since ≤ later) :
      (execution.state later).Manned :=
    LabelledMachine.Execution.holds_from Manned
      (fun _ _ _ manned _ taken => manned.bridge taken) goes manned behind
  obtain ⟨later, behind, handed⟩ :=
    LabelledMachine.Execution.comes_out promised
      (fun program : Program => program.usb.forwarded)
      (fun _ => List.prefix_append _ _)
      (fun _ _ _ going taken => promised_step going taken) goes
      (fun moment behind left => by
        have waits : (execution.state
            moment).usb.receiveThread.stillForwards ≠ [] := by
          intro nothing
          rw [promised, nothing, List.append_nil] at left
          exact Nat.lt_irrefl _ left
        obtain ⟨later, after, stops | more⟩ :=
          forwards_next fair (kept behind) (Nat.le_refl _) waits
        · exact absurd stops (going later (Nat.le_trans behind after))
        · exact ⟨later, after, more⟩)
  obtain ⟨last, after, stops | outside⟩ := send_returns fair (kept behind)
  · exact absurd stops (going last (Nat.le_trans behind after))
  · have more : (execution.state later).usb.forwarded <+:
        (execution.state last).usb.forwarded :=
      LabelledMachine.Execution.prefix_from
        (fun program : Program => program.usb.forwarded)
        (fun _ _ _ going taken => forwarded_step going taken)
        (fun moment _ behindLater _ =>
          going moment (Nat.le_trans behind behindLater)) after
    exact ⟨last, Nat.le_trans behind after, handed.trans more, outside⟩

end OneMessage

/-! ## The messages of the PSP -/

/-- Behind the last frame of some messages, these are promised. -/
theorem promised_of_follows {messages read : List (List UInt8)}
    {program : Program}
    (follows : ReceivePath.Follows (WireSender.ofMessages messages) read
      program.usb.receivePath)
    (sendable : WireSender.Sendable messages)
    (whole : read = messages.flatMap wireFrames) :
    program.promised = messages := by
  have frames := WireSender.frames_ofMessages sendable
  obtain ⟨sender, pieces, progress⟩ :=
    follows (by rw [whole, frames])
  have nothingLeft : sender.frames = [] := by
    have all := progress.frames
    rw [whole, frames] at all
    simpa using all
  have all : pieces = (WireSender.ofMessages messages).pieces := by
    rw [← progress.split, WireSender.pieces_eq_nil nothingLeft,
      List.append_nil]
  have joined := progress.reassembles.messages
  rw [all, WireSender.assemble_ofMessages sendable,
    USBReceiveThread.outcome_stillForwards
      progress.reassembles.wellFormed] at joined
  exact joined

section Messages

variable {execution : bridge.Execution} {since : Nat}
  {connection : XLinkKaiConnection} {reader : USBReader}
  {mMaxBufferedMessages : Int} {actions : List ThreadAction}
  {messages frames : List (List UInt8)}

end Messages

/-- The message of one byte is read and sent, and then the signal comes. -/
def readsAndEnds : List ThreadAction :=
  byteSent ++ List.replicate 2 (.main false) ++
    List.replicate 12 (.reader {}) ++ List.replicate 9 (.main false) ++
    List.replicate 12 (.kaiLoop 0 false) ++ List.replicate 2 (.main false)

end Program

end CWUSB
