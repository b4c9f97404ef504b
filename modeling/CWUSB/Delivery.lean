import CWUSB.SendProgress
import CWUSB.ShutdownProgress

/-!
# What was accepted is delivered

While `main` waits for the signal, the reader's thread and the send thread
both run, so every frame of an accepted payload is given to `USBBulkWrite` in
the end, and written unless that fails.  What can prevent it is a reset, the
end of the loop or of the program, or a PSP which stays inside of a message it
sends, since the reader does not send meanwhile.
-/

namespace CWUSB

namespace Program

section Step

variable {program next : Program}

theorem foldl_beside (program : Program) (handed : List (List UInt8)) :
    program.usb.Beside (handed.foldl send program).usb := by
  induction handed generalizing program with
  | nil => exact .refl _
  | cons aData handed induction =>
      refine ReaderLoop.Beside.trans ?_ (induction (program.send aData))
      unfold send
      cases program.mUSBSendThread with
      | false => exact .refl _
      | true => exact program.usb.beside_addToQueue aData

/-- A step of a thread which neither is one of the two nor `main`. -/
theorem bridge_beside {action : ThreadAction}
    (notMain : action.thread ≠ .main) (notReader : action.thread ≠ .reader)
    (notSender : action.thread ≠ .sender)
    (taken : bridge.step program action = some next) :
    program.usb.Beside next.usb := by
  have kaiSide {program next : Program} {action : KaiLoop.Action}
      (taken : machine.step program (.kai action) = some next) :
      program.usb.Beside next.usb := by
    cases stepped taken with
    | kai _ kai runs moves =>
        exact foldl_beside { program with kai := kai } _
  have run := bridgeStep_run taken
  cases action with
  | main fails => exact absurd rfl notMain
  | reader answers => exact absurd rfl notReader
  | sendThread => exact absurd rfl notSender
  | kaiLoop now fails => exact kaiSide (run_singleton.mp run)
  | datagram bytes sender => exact kaiSide (run_singleton.mp run)
  | sending fails => exact kaiSide (run_singleton.mp run)
  | receiveThread =>
      obtain ⟨middle, receives, sends⟩ :=
        LabelledMachine.run_cons_eq_some.mp run
      have received : program.usb.Beside middle.usb := by
        obtain ⟨usb, _, moved, rfl⟩ := usb_parts receives
        exact ReaderLoop.beside_receiveThread moved
      cases sent : program.usb.receiveThread.step.sent with
      | none =>
          rw [sent] at sends
          cases sends
          exact received
      | some payload =>
          rw [sent] at sends
          exact received.trans (kaiSide (run_singleton.mp sends))

end Step

/-! ## While `main` waits for the signal -/

/-- `main` creates the threads before it waits, and nobody else requests the
stop. -/
structure Manned (program : Program) : Prop where
  unrequested : program.main.beforeStop = true →
    program.usb.Announced ∧ program.usb.stop = .none
  receiver : program.main = .createSendThread ∨
    program.main = .createReader ∨ program.main = .running →
      program.mUSBReceiveThread = true
  sender : program.main = .createReader ∨ program.main = .running →
    program.mUSBSendThread = true
  reader : program.main = .running → program.mUSBThread = true

section Manned

variable {program next : Program}

theorem Manned.mainStep {fails : Bool} (manned : program.Manned)
    (moves : program.MainStepped fails next) : next.Manned := by
  obtain ⟨unrequested, receiver, sender, reader⟩ := manned
  cases moves with
  | startKai here isOpen =>
      exact ⟨fun _ => unrequested (by rw [here]; rfl), by simp, by simp,
        by simp⟩
  | startFails here =>
      refine ⟨fun _ => unrequested ?_, by simp [startFailed],
        by simp [startFailed], by simp [startFailed]⟩
      rcases here with here | here <;> rw [here] <;> rfl
  | startUSB here opened unstarted =>
      exact ⟨fun _ => unrequested (by rw [here]; rfl), by simp, by simp,
        by simp⟩
  | createReceiveThread here =>
      exact ⟨fun _ => unrequested (by rw [here]; rfl), fun _ => rfl, by simp,
        by simp⟩
  | createSendThread here =>
      exact ⟨fun _ => unrequested (by rw [here]; rfl),
        fun _ => receiver (.inl here), fun _ => rfl, by simp⟩
  | createReader here =>
      exact ⟨fun _ => unrequested (by rw [here]; rfl),
        fun _ => receiver (.inr (.inl here)), fun _ => sender (.inl here),
        fun _ => rfl⟩
  | leave here =>
      exact ⟨fun _ => unrequested (by rw [here]; rfl), by simp, by simp,
        by simp⟩
  | closeKai kai here started taken =>
      constructor <;> dsimp only <;> split <;> simp [MainPoint.beforeStop]
  | _ =>
      exact ⟨by simp [MainPoint.beforeStop], by simp, by simp, by simp⟩

theorem Manned.sendsOnly (manned : program.Manned)
    (same : program.SendsOnly next) : next.Manned := by
  obtain ⟨_, main, _, thread, sendThread, receiveThread, _, usb⟩ := same
  obtain ⟨unrequested, receiver, sender, reader⟩ := manned
  constructor
  · rw [main, usb]
    intro before
    obtain ⟨announced, none⟩ := unrequested before
    exact ⟨⟨announced.requested, announced.inBranch, announced.closed⟩, none⟩
  · rw [main, receiveThread]
    exact receiver
  · rw [main, sendThread]
    exact sender
  · rw [main, thread]
    exact reader

theorem Manned.step {action : Action} (manned : program.Manned)
    (taken : machine.step program action = some next) : next.Manned := by
  cases stepped taken with
  | main fails _ moves => exact manned.mainStep moves
  | kai action kai runs moves =>
      have same : Manned { program with kai := kai } :=
        ⟨manned.unrequested, manned.receiver, manned.sender, manned.reader⟩
      exact same.sendsOnly (foldl_sendsOnly _ _)
  | usb action usb runs moves =>
      refine ⟨fun before => ?_, manned.receiver, manned.sender,
        manned.reader⟩
      obtain ⟨announced, none⟩ := manned.unrequested before
      exact ⟨announced.step moves, unrequested_step announced none runs moves⟩

theorem Manned.bridge {action : ThreadAction} (manned : program.Manned)
    (taken : bridge.step program action = some next) : next.Manned :=
  machine.run_invariant Manned (fun _ _ _ manned taken => manned.step taken)
    manned (bridgeStep_run taken)

theorem manned_start {connection : XLinkKaiConnection} {reader : USBReader}
    (unrequested : reader.mStopRequest = false)
    (mMaxBufferedMessages : Int) :
    (start connection reader mMaxBufferedMessages).Manned :=
  ⟨fun _ => ⟨ReaderLoop.announced_start mMaxBufferedMessages unrequested,
    rfl⟩, by simp [start], by simp [start], by simp [start]⟩

/-- Nothing asks the reader to stop while `main` waits. -/
theorem Manned.continues (manned : program.Manned)
    (running : program.main = .running) :
    program.usb.reader.mStopRequest = false := by
  obtain ⟨announced, none⟩ := manned.unrequested (by rw [running]; rfl)
  cases request : program.usb.reader.mStopRequest with
  | false => rfl
  | true => exact absurd none (announced.requested request)

end Manned

/-- Delivery does not go on: `main` is not in its loop, an exception ended the
process, the queues are being cleared, or the reader's loop ended. -/
def Interrupted (program : Program) : Prop :=
  program.main ≠ .running ∨ program.kai.loop = .threw ∨
    program.usb.loop = .clearSendQueues ∨ program.usb.loop = .finished

section Interrupted

variable {program next : Program}

theorem running_of_uninterrupted (going : ¬ program.Interrupted) :
    program.main = .running := by
  by_contra stopped
  exact going (.inl stopped)

theorem keeps_of_uninterrupted (going : ¬ program.Interrupted) :
    program.usb.loop ≠ .clearSendQueues :=
  fun clearing => going (.inr (.inr (.inl clearing)))

/-- What a step does to the frames while `main` waits for the signal. -/
inductive Handles (program : Program) : ThreadAction → Program → Prop where
  | leaves (fails : Bool) (next : Program) (usb : next.usb = program.usb)
      (left : next.main ≠ .running) : Handles program (.main fails) next
  | reader (answers : UsbAnswers) :
      Handles program (.reader answers)
        { program with usb := program.usb.readerStep answers }
  | sendThread :
      Handles program .sendThread
        { program with
          usb :=
            { program.usb with
              sendThread := program.usb.sendThread.step.thread } }
  | other (action : ThreadAction) (next : Program)
      (notReader : action.thread ≠ .reader)
      (notSender : action.thread ≠ .sender)
      (beside : program.usb.Beside next.usb) : Handles program action next

theorem main_leaves {fails : Bool} (running : program.main = .running)
    (taken : bridge.step program (.main fails) = some next) :
    next = { program with main := .requestStop } := by
  cases stepped (run_singleton.mp (bridgeStep_run taken)) with
  | main _ _ moves =>
      cases moves with
      | leave here => rfl
      | startFails here => simp [running] at here
      | requestStop usb here moved => simp [running] at here
      | closeKai kai here started moved => simp [running] at here
      | _ here => simp [running] at here

theorem handles {action : ThreadAction} (running : program.main = .running)
    (taken : bridge.step program action = some next) :
    program.Handles action next := by
  have run := bridgeStep_run taken
  cases action with
  | main fails =>
      obtain rfl := main_leaves running taken
      exact .leaves fails _ rfl (by simp)
  | reader answers =>
      obtain ⟨usb, _, moved, rfl⟩ := usb_parts (run_singleton.mp run)
      cases moved
      exact .reader answers
  | sendThread =>
      obtain ⟨usb, _, moved, rfl⟩ := usb_parts (run_singleton.mp run)
      cases moved
      exact .sendThread
  | _ =>
      exact .other _ _ (by simp [ThreadAction.thread])
        (by simp [ThreadAction.thread])
        (bridge_beside (by simp [ThreadAction.thread])
          (by simp [ThreadAction.thread]) (by simp [ThreadAction.thread])
          taken)

/-- The frames in the pipeline stay in front of what is added to it. -/
theorem Handles.outgoing {action : ThreadAction}
    (handles : program.Handles action next)
    (keeps : program.usb.loop ≠ .clearSendQueues) :
    program.usb.outgoing <+: next.usb.outgoing := by
  cases handles with
  | leaves fails _ usb left => rw [usb]
  | reader answers =>
      dsimp only
      rw [ReaderLoop.outgoing_readerStep answers keeps]
  | sendThread =>
      unfold ReaderLoop.outgoing
      dsimp only
      rw [USBSendThread.frames_step]
      exact List.prefix_refl _
  | other _ _ notReader notSender beside => exact beside.outgoing

theorem Handles.events {action : ThreadAction}
    (handles : program.Handles action next) :
    program.usb.events <+: next.usb.events := by
  cases handles with
  | leaves fails _ usb left => rw [usb]
  | reader answers =>
      dsimp only
      rw [ReaderLoop.readerStep_events]
      exact List.prefix_append _ _
  | sendThread => exact List.prefix_refl _
  | other _ _ notReader notSender beside =>
      obtain ⟨payloads, events⟩ := beside.events
      rw [events]
      exact List.prefix_append _ _

theorem Handles.attempted {action : ThreadAction}
    (handles : program.Handles action next) :
    program.usb.attempted.length ≤ next.usb.attempted.length :=
  (handles.events.filterMap _).length_le

/-- A frame which can be taken stays so until one is attempted. -/
theorem Handles.ready {action : ThreadAction}
    (handles : program.Handles action next) (ready : program.usb.Ready)
    (keeps : program.usb.loop ≠ .clearSendQueues) :
    program.usb.attempted.length < next.usb.attempted.length ∨
      next.usb.Ready := by
  cases handles with
  | leaves fails _ usb left =>
      rw [usb]
      exact .inr ready
  | reader answers => exact ReaderLoop.readerStep_ready answers ready keeps
  | sendThread =>
      right
      exact ready.imp id USBSendThread.step_ready
  | other _ _ notReader notSender beside => exact .inr (beside.ready ready)

theorem sender_enabled (manned : program.Manned)
    (going : ¬ program.Interrupted) :
    bridge.Enabled ThreadAction.thread .sender program := by
  have running := running_of_uninterrupted going
  have returning : program.kai.loop ≠ .threw :=
    fun threw => going (.inr (.inl threw))
  refine ⟨.sendThread, { program with
    usb :=
      { program.usb with
        sendThread := program.usb.sendThread.step.thread } }, rfl,
    bridge_single rfl rfl ?_⟩
  change (if program.kai.loop = .threw then none
    else if program.mUSBSendThread = true then _ else none) = _
  rw [if_neg returning, if_pos (manned.sender (.inr running))]
  rfl

theorem reader_enabled (manned : program.Manned)
    (going : ¬ program.Interrupted) :
    bridge.Enabled ThreadAction.thread .reader program := by
  have running := running_of_uninterrupted going
  have returning : program.kai.loop ≠ .threw :=
    fun threw => going (.inr (.inl threw))
  refine ⟨.reader {}, { program with usb := program.usb.readerStep {} }, rfl,
    bridge_single rfl rfl ?_⟩
  change (if program.kai.loop = .threw then none
    else if program.mUSBThread = true then _ else none) = _
  rw [if_neg returning, if_pos (manned.reader running)]
  rfl

end Interrupted

/-! ## One frame -/

section OneFrame

variable {execution : bridge.Execution} {since : Nat}

/-- The send thread gets to a frame. -/
theorem becomes_ready
    (fair : execution.Fair ThreadAction.thread .sender)
    (manned : (execution.state since).Manned)
    (holds : (execution.state since).usb.sendThread.frames ≠ []) :
    ∃ later, since ≤ later ∧
      ((execution.state later).Interrupted ∨
        (execution.state later).usb.Ready) := by
  refine LabelledMachine.Execution.reaches_of_fair ThreadAction.thread
    (fun program => program.usb.sendThread.stepsToFrame)
    (fun program => program.Manned ∧ program.usb.sendThread.frames ≠ [])
    (fun program => program.Interrupted ∨ program.usb.Ready)
    (fun _ => .sender) ?_ ?_ (fun _ _ => fair)
    (execution.guardedFrom_true since)
    ⟨manned, holds⟩
  · rintro program ⟨manned, _⟩ going
    exact sender_enabled manned (not_or.mp going).1
  · rintro program action next ⟨manned, holds⟩ going _ taken
    obtain ⟨going, unready⟩ := not_or.mp going
    have empty : program.usb.sendThread.mOutgoingQueue = [] := by
      by_contra filled
      exact unready (.inr filled)
    have kept := manned.bridge taken
    cases handles (running_of_uninterrupted going) taken with
    | leaves fails _ usb left => exact .inl (.inl (.inl left))
    | reader answers =>
        right
        have same := ReaderLoop.readerStep_unready answers unready
          (keeps_of_uninterrupted going)
        refine ⟨⟨kept, ?_⟩, .inr ⟨?_, rfl, by simp [ThreadAction.thread]⟩⟩
        · dsimp only
          rw [same]
          exact holds
        · dsimp only
          rw [same]
    | sendThread =>
        rcases USBSendThread.step_toFrame empty holds with
          filled | ⟨_, nearer⟩
        · exact .inl (.inr (.inr filled))
        · right
          refine ⟨⟨kept, ?_⟩, .inl nearer⟩
          dsimp only
          rw [USBSendThread.frames_step]
          exact holds
    | other _ _ notReader notSender beside =>
        right
        obtain ⟨packets, sendThread⟩ := beside.sendThread
        refine ⟨⟨kept, ?_⟩, .inr ⟨?_, rfl, notSender⟩⟩
        · rw [sendThread, USBSendThread.frames_append]
          simp [holds]
        · rw [sendThread]
          exact USBSendThread.stepsToFrame_append packets empty holds

/-- The reader's thread comes to the test in front of sending, unless it tries
to write a frame before. -/
theorem comes_to_sendTest {count : Nat}
    (fair : execution.Fair ThreadAction.thread .reader)
    (manned : (execution.state since).Manned)
    (atLeast : count ≤ (execution.state since).usb.attempted.length) :
    ∃ later, since ≤ later ∧
      ((execution.state later).Interrupted ∨
        count < (execution.state later).usb.attempted.length ∨
          (execution.state later).usb.loop = .sendTest) := by
  refine LabelledMachine.Execution.reaches_of_fair ThreadAction.thread
    (fun program => program.usb.loop.stepsToSendTest)
    (fun program => program.Manned ∧ count ≤ program.usb.attempted.length)
    (fun program => program.Interrupted ∨
      count < program.usb.attempted.length ∨ program.usb.loop = .sendTest)
    (fun _ => .reader) ?_ ?_ (fun _ _ => fair)
    (execution.guardedFrom_true since) ⟨manned, atLeast⟩
  · rintro program ⟨manned, _⟩ going
    exact reader_enabled manned (not_or.mp going).1
  · rintro program action next ⟨manned, atLeast⟩ going _ taken
    obtain ⟨going, notAttempted⟩ := not_or.mp going
    obtain ⟨_, notThere⟩ := not_or.mp notAttempted
    have running := running_of_uninterrupted going
    have moved := handles running taken
    have kept : next.Manned ∧ count ≤ next.usb.attempted.length :=
      ⟨manned.bridge taken, Nat.le_trans atLeast moved.attempted⟩
    cases moved with
    | leaves fails _ usb left => exact .inl (.inl (.inl left))
    | reader answers =>
        by_cases writing : ∃ lFormattedPacket,
            program.usb.loop = .sendWrite lFormattedPacket
        · obtain ⟨lFormattedPacket, here⟩ := writing
          left
          refine .inr (.inl ?_)
          dsimp only
          rw [program.usb.sendWrite_attempted here answers, List.length_append]
          exact Nat.lt_succ_of_le atLeast
        · right
          refine ⟨kept, .inl ?_⟩
          apply (program.usb.readerStep_leadsTo answers).nearer notThere
          · exact fun ended => going (.inr (.inr (.inr ended)))
          · exact ReaderLoop.readerStep_unstopped answers
              (manned.continues running)
          · exact fun lFormattedPacket here =>
              writing ⟨lFormattedPacket, here⟩
    | sendThread =>
        exact .inr ⟨kept, .inr ⟨rfl, rfl, by simp [ThreadAction.thread]⟩⟩
    | other _ _ notReader notSender beside =>
        exact .inr ⟨kept, .inr ⟨by rw [beside.loop], rfl, notReader⟩⟩

/-- Once the reader's thread sends, it tries to write the next frame. -/
theorem attempts_frame {count : Nat}
    (fair : execution.Fair ThreadAction.thread .reader)
    (manned : (execution.state since).Manned)
    (atLeast : count ≤ (execution.state since).usb.attempted.length)
    (ready : (execution.state since).usb.Ready)
    (sending : (execution.state since).usb.Sending) :
    ∃ later, since ≤ later ∧
      ((execution.state later).Interrupted ∨
        count < (execution.state later).usb.attempted.length) := by
  refine LabelledMachine.Execution.reaches_of_fair ThreadAction.thread
    (fun program => program.usb.loop.stepsToWrite)
    (fun program => (program.Manned ∧ count ≤ program.usb.attempted.length) ∧
      program.usb.Ready ∧ program.usb.Sending)
    (fun program => program.Interrupted ∨ count < program.usb.attempted.length)
    (fun _ => .reader) ?_ ?_ (fun _ _ => fair)
    (execution.guardedFrom_true since) ⟨⟨manned, atLeast⟩, ready, sending⟩
  · rintro program ⟨⟨manned, _⟩, _⟩ going
    exact reader_enabled manned (not_or.mp going).1
  · rintro program action next ⟨⟨manned, atLeast⟩, ready, sending⟩ going _
      taken
    obtain ⟨going, notAttempted⟩ := not_or.mp going
    have running := running_of_uninterrupted going
    have moved := handles running taken
    have kept : next.Manned ∧ count ≤ next.usb.attempted.length :=
      ⟨manned.bridge taken, Nat.le_trans atLeast moved.attempted⟩
    rcases moved.ready ready (keeps_of_uninterrupted going) with
      more | still
    · exact .inl (.inr (Nat.lt_of_le_of_lt atLeast more))
    · cases moved with
      | leaves fails _ usb left => exact .inl (.inl (.inl left))
      | reader answers =>
          rcases ReaderLoop.readerStep_sending answers sending ready
            (manned.continues running) with more | ⟨sending, nearer⟩
          · exact .inl (.inr (Nat.lt_of_le_of_lt atLeast more))
          · exact .inr ⟨⟨kept, still, sending⟩, .inl nearer⟩
      | sendThread =>
          exact .inr ⟨⟨kept, still, sending⟩,
            .inr ⟨rfl, rfl, by simp [ThreadAction.thread]⟩⟩
      | other _ _ notReader notSender beside =>
          right
          refine ⟨⟨kept, still, ?_⟩, .inr ⟨by rw [beside.loop], rfl,
            notReader⟩⟩
          rw [ReaderLoop.Sending, beside.loop, beside.reader]
          exact sending

/-- From some moment on the PSP is inside of a message each time the reader's
thread could send. -/
def StaysInside (execution : bridge.Execution) : Prop :=
  (∀ moment, ∃ later, moment ≤ later ∧
      (execution.state later).usb.loop = .sendTest) ∧
    ∃ moment, ∀ later, moment ≤ later →
      (execution.state later).usb.loop = .sendTest →
        (execution.state later).usb.reader.mReceiveStitching = true

/-- The guard of an execution in which delivery goes on. -/
def Goes (program : Program) (_ : ThreadAction) : Prop :=
  ¬ program.Interrupted

theorem events_from {later : Nat} (going : execution.GuardedFrom Goes since)
    (behind : since ≤ later) :
    (execution.state since).usb.events <+:
      (execution.state later).usb.events :=
  LabelledMachine.Execution.prefix_from
    (fun program : Program => program.usb.events)
    (fun _ _ _ going taken =>
      (handles (running_of_uninterrupted going) taken).events)
    going behind

theorem attempted_from {later : Nat}
    (going : execution.GuardedFrom Goes since) (behind : since ≤ later) :
    (execution.state since).usb.attempted.length ≤
      (execution.state later).usb.attempted.length :=
  ((events_from going behind).filterMap _).length_le

/-- What can be taken stays until a frame is attempted. -/
theorem ready_from {later : Nat} (going : execution.GuardedFrom Goes since)
    (ready : (execution.state since).usb.Ready) (behind : since ≤ later) :
    (execution.state since).usb.attempted.length <
        (execution.state later).usb.attempted.length ∨
      (execution.state later).usb.Ready := by
  have kept := LabelledMachine.Execution.holds_from
    (fun program : Program =>
      (execution.state since).usb.attempted.length <
          program.usb.attempted.length ∨
        ((execution.state since).usb.attempted.length ≤
            program.usb.attempted.length ∧ program.usb.Ready))
    (fun program action next holds going taken => by
      have moved := handles (running_of_uninterrupted going) taken
      rcases holds with more | ⟨atLeast, ready⟩
      · exact .inl (Nat.lt_of_lt_of_le more moved.attempted)
      · rcases moved.ready ready (keeps_of_uninterrupted going) with
          more | ready
        · exact .inl (Nat.lt_of_le_of_lt atLeast more)
        · exact .inr ⟨Nat.le_trans atLeast moved.attempted, ready⟩)
    going (.inr ⟨Nat.le_refl _, ready⟩) behind
  exact kept.imp id And.right

/-- With a frame in the pipeline the send thread pushes one, if none can be
taken yet. -/
theorem ready_soon
    (fair : execution.Fair ThreadAction.thread .sender)
    (manned : (execution.state since).Manned)
    (going : ∀ later, since ≤ later → ¬ (execution.state later).Interrupted)
    (left : (execution.state since).usb.attempted.length <
      (execution.state since).usb.outgoing.length) :
    ∃ soon, since ≤ soon ∧ (execution.state soon).usb.Ready := by
  by_cases here : (execution.state since).usb.Ready
  · exact ⟨since, Nat.le_refl since, here⟩
  · have handEmpty : (execution.state since).usb.inHand = [] := by
      by_contra inHand
      exact here (.inl inHand)
    have holds : (execution.state since).usb.sendThread.frames ≠ [] := by
      intro nothing
      rw [ReaderLoop.outgoing, handEmpty, nothing, List.append_nil,
        List.append_nil] at left
      exact Nat.lt_irrefl _ left
    obtain ⟨soon, behind, interrupted | ready⟩ :=
      becomes_ready fair manned holds
    · exact absurd interrupted (going soon behind)
    · exact ⟨soon, behind, ready⟩

/-- One more frame is attempted as long as there is one. -/
theorem attempts_more
    (fair : ∀ thread, thread = .reader ∨ thread = .sender →
      execution.Fair ThreadAction.thread thread)
    (manned : ∀ moment, (execution.state moment).Manned)
    (going : ∀ later, since ≤ later → ¬ (execution.state later).Interrupted)
    (outside : ¬ StaysInside execution)
    (left : (execution.state since).usb.attempted.length <
      (execution.state since).usb.outgoing.length) :
    ∃ later, since ≤ later ∧
      (execution.state since).usb.attempted.length <
        (execution.state later).usb.attempted.length := by
  by_contra never
  have goes (moment : Nat) (behind : since ≤ moment) :
      execution.GuardedFrom Goes moment :=
    fun later _ after _ => going later (Nat.le_trans behind after)
  have still (later : Nat) (behind : since ≤ later) :
      ¬ (execution.state since).usb.attempted.length <
        (execution.state later).usb.attempted.length :=
    fun more => never ⟨later, behind, more⟩
  obtain ⟨soon, behindSoon, ready⟩ :=
    ready_soon (fair .sender (.inr rfl)) (manned since) going left
  -- The reader's thread comes by again and again, and finds the PSP outside.
  have returns (moment : Nat) : ∃ later, moment ≤ later ∧
      (execution.state later).usb.loop = .sendTest := by
    have behind : since ≤ max moment since := Nat.le_max_right moment since
    obtain ⟨later, after, interrupted | more | there⟩ :=
      comes_to_sendTest (fair .reader (.inl rfl))
        (manned (max moment since))
        (attempted_from (goes since (Nat.le_refl since)) behind)
    · exact absurd interrupted (going later (Nat.le_trans behind after))
    · exact absurd more (still later (Nat.le_trans behind after))
    · exact ⟨later, Nat.le_trans (Nat.le_max_left moment since) after, there⟩
  obtain ⟨later, after, there, free⟩ : ∃ later, soon ≤ later ∧
      (execution.state later).usb.loop = .sendTest ∧
        (execution.state later).usb.reader.mReceiveStitching = false := by
    by_contra inside
    refine outside ⟨returns, soon, fun later after there => ?_⟩
    cases flag : (execution.state later).usb.reader.mReceiveStitching with
    | true => rfl
    | false => exact absurd ⟨later, after, there, flag⟩ inside
  have behind := Nat.le_trans behindSoon after
  have atLeast := attempted_from (goes since (Nat.le_refl since)) behindSoon
  rcases ready_from (goes soon behindSoon) ready after with more | ready
  · exact still later behind (Nat.lt_of_le_of_lt atLeast more)
  · obtain ⟨last, afterwards, interrupted | more⟩ :=
      attempts_frame (fair .reader (.inl rfl)) (manned later)
        (attempted_from (goes since (Nat.le_refl since)) behind) ready
        (.inl ⟨there, free⟩)
    · exact going last (Nat.le_trans behind afterwards) interrupted
    · exact still last (Nat.le_trans behind afterwards) more

end OneFrame

/-! ## Everything -/

section Opened

variable {execution : bridge.Execution} {since : Nat}
  {settings : OpenSettings} {reader : USBReader}
  {tries : List OpenAnswers} {opening : Opening}
  {mMaxBufferedMessages : Int}

/-- Frame after frame, whatever `main` does as long as its threads exist. -/
theorem outgoing_flushed
    (fair : ∀ thread, thread = .reader ∨ thread = .sender →
      execution.Fair ThreadAction.thread thread)
    (manned : ∀ moment, (execution.state moment).Manned) (since : Nat) :
    (∃ later, since ≤ later ∧ (execution.state later).Interrupted) ∨
      StaysInside execution ∨
        ∃ later, since ≤ later ∧
          (execution.state since).usb.Flushed
            (execution.state later).usb := by
  by_cases interrupted : ∃ later, since ≤ later ∧
      (execution.state later).Interrupted
  · exact .inl interrupted
  by_cases inside : StaysInside execution
  · exact .inr (.inl inside)
  right
  right
  have going (later : Nat) (behind : since ≤ later) :
      ¬ (execution.state later).Interrupted :=
    fun there => interrupted ⟨later, behind, there⟩
  have goes : execution.GuardedFrom Goes since :=
    fun later _ behind _ => going later behind
  obtain ⟨later, behind, attempted⟩ :=
    LabelledMachine.Execution.comes_out
      (fun program : Program => program.usb.outgoing)
      (fun program : Program => program.usb.attempted)
      (fun program => program.usb.attempted_outgoing)
      (fun _ _ _ going taken =>
        (handles (running_of_uninterrupted going) taken).outgoing
          (keeps_of_uninterrupted going))
      goes
      (fun moment behind left => attempts_more fair manned
        (fun later after => going later (Nat.le_trans behind after)) inside
        left)
  exact ⟨later, behind,
    ReaderLoop.flushed_of_attempted (events_from goes behind) attempted⟩

theorem manned_always (closed : reader.mDeviceHandle = none)
    (unrequested : reader.mStopRequest = false)
    (opens : (Opening.machine settings).run (Opening.start reader) tries =
      some opening)
    (starts : execution.state 0 = opening.program mMaxBufferedMessages)
    (moment : Nat) : (execution.state moment).Manned := by
  have opened := Opening.opened_of_run closed unrequested opens
  apply LabelledMachine.Execution.holds_always Manned
    (fun program action next manned _ taken => manned.bridge taken)
    (execution.guardedFrom_true 0)
  rw [starts]
  apply manned_start
  rw [opened.usb.untouched]
  exact unrequested

end Opened

/-- A data datagram arrives, its frame is written, and then the signal comes. -/
def deliversAndEnds : List ThreadAction :=
  connectedActions ++
    .datagram (cEthernetDataString ++ [7]) KaiLoop.engine ::
      (List.replicate 8 (.kaiLoop 0 false) ++ List.replicate 3 .sendThread ++
        List.replicate 8 (.reader {}) ++ List.replicate 2 (.main false) ++
        List.replicate 12 (.reader {}) ++ List.replicate 9 (.main false) ++
        List.replicate 3 (.kaiLoop 0 false) ++ List.replicate 2 (.main false))

/-- It goes on without end in a receiver thread which has returned. -/
theorem deliversAndEnds_goes :
    ∃ (opening : Opening) (execution : bridge.Execution),
      (Opening.machine Opening.localSettings).run
          (Opening.start USBReader.newReader) Opening.threeTries =
        some opening ∧
      execution.state 0 = opening.program 50 ∧
      execution.label 43 =
        some (.datagram (cEthernetDataString ++ [7]) KaiLoop.engine) ∧
      (∀ thread, thread = .kai ∨ thread = .reader ∨ thread = .sender →
        execution.Fair ThreadAction.thread thread) ∧
      (execution.state 43).main = .running ∧
      ((execution.state 52).main = .running ∧
        (execution.state 52).usb.outgoing.length = 1) ∧
      (execution.state 63).main = .running ∧
        (execution.state 63).usb.written.length = 1 := by
  have ends : ((Opening.machine Opening.localSettings).run
      (Opening.start USBReader.newReader) Opening.threeTries).any
        (fun opening =>
          (bridge.run (opening.program 50) deliversAndEnds).any
            (fun finish => decide
              (finish.main = .finished ∧
                (finish.mUSBThread = false ∧ finish.mUSBSendThread = false ∧
                  finish.mUSBReceiveThread = false) ∧
                finish.kaiStarted = true ∧ finish.kai.loop = .finished ∧
                (bridge.run (opening.program 50)
                  (deliversAndEnds.take 43)).any (fun program =>
                    decide (program.main = .running)) = true ∧
                (bridge.run (opening.program 50)
                  (deliversAndEnds.take 52)).any (fun program =>
                    decide (program.main = .running ∧
                      program.usb.outgoing.length = 1)) = true ∧
                (bridge.run (opening.program 50)
                  (deliversAndEnds.take 63)).any (fun program =>
                    decide (program.main = .running ∧
                      program.usb.written.length = 1)) = true))) =
          true := by
    decide +kernel
  obtain ⟨opening, opens, runs⟩ := (Option.any_eq_true _ _).mp ends
  obtain ⟨finish, reached, outcome⟩ := (Option.any_eq_true _ _).mp runs
  obtain ⟨finished, threads, started, ended, arrives, accepts, writes⟩ :=
    of_decide_eq_true outcome
  have rests := kaiLoop_rests started ended
  have atMoment {moment : Nat} {property : Program → Prop}
      [DecidablePred property]
      (runs : (bridge.run (opening.program 50)
        (deliversAndEnds.take moment)).any (fun program =>
          decide (property program)) = true) :
      property ((LabelledMachine.Execution.ofRun reached rests).state
        moment) := by
    obtain ⟨program, early, holds⟩ := (Option.any_eq_true _ _).mp runs
    rw [LabelledMachine.Execution.ofRun_state reached rests early]
    exact of_decide_eq_true holds
  refine ⟨opening, .ofRun reached rests, opens, rfl, rfl, ?_,
    atMoment arrives, atMoment accepts, atMoment writes⟩
  intro thread ours
  apply LabelledMachine.Execution.ofRun_fair
  rcases ours with rfl | ours
  · exact .inl rfl
  · right
    apply nothing_enabled finished threads <;>
      rcases ours with rfl | rfl <;> simp

end Program

end CWUSB
