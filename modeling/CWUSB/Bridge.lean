import CWUSB.ProgramPaths
import CWUSB.ReadOrder

/-!
# The bridge between the PSPs

The USB receive thread itself calls `XLinkKaiConnection::Send`, with what the
PSP sent.  The steps of both sides are connected here, so that the program is
what lies between the PSP and XLink Kai: frames come in and datagrams go out,
and the other way round.
-/

namespace CWUSB

/-- The payload of the `Send` under way, if it can still go out. -/
def SendPoint.payload : SendPoint → List (List UInt8)
  | .connectedTest aData | .sendTo aData => [aData]
  | .outside | .foundClosed => []

namespace KaiLoop

/-! ## The data datagrams -/

def sentDatagram : KaiEvent → Option (List UInt8)
  | .sent datagram _ => some datagram
  | _ => none

/-- The payloads of the data datagrams which were sent. -/
def sentPayloads (kai : KaiLoop) : List (List UInt8) :=
  payloads (kai.events.filterMap sentDatagram)

section Sent

variable {kai next : KaiLoop}

theorem sentPayloads_append {events : List KaiEvent}
    (added : next.events = kai.events ++ events) :
    next.sentPayloads =
      kai.sentPayloads ++ payloads (events.filterMap sentDatagram) := by
  rw [sentPayloads, added, List.filterMap_append, payloads_append]
  rfl

theorem sentPayloads_of_adds
    (adds : kai.Adds
      (fun event => ∀ datagram ∈ sentDatagram event,
        payloadOf datagram = none) next) :
    next.sentPayloads = kai.sentPayloads := by
  obtain ⟨more, events, kinds⟩ := adds
  have none : payloads (more.filterMap sentDatagram) = [] := by
    apply List.filterMap_eq_nil_iff.mpr
    intro datagram member
    obtain ⟨event, inMore, sent⟩ := List.mem_filterMap.mp member
    exact kinds event inMore datagram sent
  rw [sentPayloads_append events, none, List.append_nil]

/-- The payloads sent, and the one which may be sent next. -/
def passed (kai : KaiLoop) : List (List UInt8) :=
  kai.sentPayloads ++ kai.usbSend.payload

theorem passed_of_outside {kai : KaiLoop} (outside : kai.usbSend = .outside) :
    kai.passed = kai.sentPayloads := by
  rw [passed, outside]
  exact List.append_nil _

/-- The steps of the USB receive thread in `Send`. -/
def Action.sends : Action → Bool
  | .usbSend _ | .usbSending _ => true
  | .loop _ _ | .datagram _ _ | .close _ => false

/-- The receiver thread and `Close` say nothing which carries data. -/
theorem step_sentPayloads {action : Action} (notSend : action.sends = false)
    (taken : machine.step kai action = some next) :
    next.sentPayloads = kai.sentPayloads := by
  apply sentPayloads_of_adds
  apply (step_adds taken).mono
  intro event kind datagram sent
  cases action with
  | usbSend aData => cases notSend
  | usbSending fails => cases notSend
  | datagram bytes sender => exact kind.elim
  | close fails =>
      obtain ⟨_, rfl⟩ := kind
      obtain rfl : cDisconnectString = datagram := Option.some.inj sent
      decide +kernel
  | loop now fails =>
      have heard := kind.1
      revert heard
      generalize kai.loop = point
      intro heard
      cases heard with
      | forwards | starts => cases sent
      | disconnects | connects | tellsSettings | keepsAlive =>
          obtain rfl := Option.some.inj sent
          decide +kernel

theorem step_usbSend {action : Action} (notSend : action.sends = false)
    (taken : machine.step kai action = some next) :
    next.usbSend = kai.usbSend := by
  cases (stepped taken).2 with
  | loop now fails => exact loopStep_usbSend kai now fails
  | usbSend | usbSendAccepts | usbSendRefuses | usbSendTo | usbSendClosed =>
      cases notSend
  | _ => rfl

/-- The steps of the receiver thread and of `Close` leave the data alone. -/
theorem step_passed {action : Action} (notSend : action.sends = false)
    (taken : machine.step kai action = some next) :
    next.passed = kai.passed := by
  rw [passed, step_sentPayloads notSend taken, step_usbSend notSend taken,
    passed]

/-- Nothing stops the next step of `Send`. -/
def LetsThrough (kai : KaiLoop) (fails : Bool) : Prop :=
  match kai.usbSend with
  | .connectedTest _ => kai.connection.mConnected = true
  | .sendTo _ => kai.connection.mSocketOpen = true ∧ fails = false
  | .outside | .foundClosed => True

instance (kai : KaiLoop) (fails : Bool) : Decidable (kai.LetsThrough fails) :=
  match here : kai.usbSend with
  | .connectedTest _ => decidable_of_iff (kai.connection.mConnected = true)
      (by rw [LetsThrough, here])
  | .sendTo _ =>
      decidable_of_iff
        (kai.connection.mSocketOpen = true ∧ fails = false)
        (by rw [LetsThrough, here])
  | .outside | .foundClosed =>
      isTrue (by simp [LetsThrough, here])

/-- `Send` starts with its payload, unless it finds the socket closed. -/
theorem usbSendStart_passed (outside : kai.usbSend = .outside)
    (aData : List UInt8) :
    (kai.usbSendStart aData).passed =
      kai.passed ++
        if kai.connection.mSocketOpen then [aData] else [] := by
  have sent : (kai.usbSendStart aData).sentPayloads = kai.sentPayloads := rfl
  rw [passed, sent, passed, outside, usbSendStart]
  cases kai.connection.mSocketOpen <;> simp [SendPoint.payload]

/-- A step of `Send` keeps the payload, unless something stops it. -/
theorem usbSending_passed {fails : Bool}
    (taken : machine.step kai (.usbSending fails) = some next) :
    next.passed.Sublist kai.passed ∧
      (kai.LetsThrough fails → next.passed = kai.passed) := by
  cases (stepped taken).2 with
  | usbSendAccepts aData _ here connected =>
      have sent : sentPayloads
          { kai with
            usbSend := .sendTo aData
            events := kai.events ++ [.accepted aData] } =
          kai.sentPayloads := by
        rw [sentPayloads_append rfl]
        exact List.append_nil _
      rw [passed, sent, passed, here]
      exact ⟨List.Sublist.refl _, fun _ => rfl⟩
  | usbSendRefuses aData _ here unconnected =>
      have sent : sentPayloads { kai with usbSend := .outside } =
          kai.sentPayloads := rfl
      rw [passed, sent, passed, here, LetsThrough, here]
      refine ⟨(List.Sublist.refl _).append (List.nil_sublist _), ?_⟩
      intro connected
      simp [unconnected] at connected
  | usbSendTo aData _ here =>
      have sent : sentPayloads
          { kai.sendTo (cEthernetDataString ++ aData) fails with
            usbSend := .outside } =
          kai.sentPayloads ++
            if kai.connection.mSocketOpen && !fails then [aData] else [] := by
        rw [sentPayloads_append rfl]
        split <;> simp [sentDatagram, payloads, payloadOf_data]
      rw [passed, sent, passed, here, LetsThrough, here]
      simp only [SendPoint.payload, List.append_nil]
      constructor
      · apply (List.Sublist.refl _).append
        split
        · exact List.Sublist.refl _
        · exact List.nil_sublist _
      · rintro ⟨isOpen, works⟩
        simp [isOpen, works]
  | usbSendClosed _ here =>
      have sent : sentPayloads
          { kai.setConnected false with usbSend := .outside } =
          kai.sentPayloads := rfl
      rw [passed, sent, passed, here]
      exact ⟨List.Sublist.refl _, fun _ => rfl⟩

end Sent

end KaiLoop

namespace Program

/-! ## The threads -/

/-- The steps of the threads, `Send` included. -/
inductive ThreadAction where
  | main (fails : Bool)
  | kaiLoop (now : Int) (fails : Bool)
  | datagram (bytes : List UInt8) (sender : Endpoint)
  | reader (answers : UsbAnswers)
  | sendThread
  /-- The USB receive thread, up to the test of the socket in its call of
  `mConnection.Send`. -/
  | receiveThread
  /-- The next step of that call. -/
  | sending (fails : Bool)

/-- What the step does on the two sides. -/
def ThreadAction.actions (program : Program) : ThreadAction → List Action
  | .main fails => [.main fails]
  | .kaiLoop now fails => [.kai (.loop now fails)]
  | .datagram bytes sender => [.kai (.datagram bytes sender)]
  | .reader answers => [.usb (.reader answers)]
  | .sendThread => [.usb .sendThread]
  | .receiveThread =>
      .usb .receiveThread ::
        program.usb.receiveThread.step.sent.toList.map fun payload =>
          .kai (.usbSend payload)
  | .sending fails => [.kai (.usbSending fails)]

/-- The USB receive thread is inside of `Send`. -/
def ThreadAction.waits (program : Program) : ThreadAction → Bool
  | .receiveThread => decide (program.kai.usbSend ≠ .outside)
  | _ => false

def bridgeStep (program : Program) (action : ThreadAction) : Option Program :=
  if action.waits program then none
  else machine.run program (action.actions program)

def bridge : LabelledMachine Program ThreadAction := ⟨bridgeStep⟩

def ThreadAction.datagrams : ThreadAction → List (List UInt8)
  | .datagram bytes _ => [bytes]
  | _ => []

section Step

variable {program next : Program}

theorem run_singleton {action : Action} :
    machine.run program [action] = some next ↔
      machine.step program action = some next := by
  simp [LabelledMachine.run_cons_eq_some]

theorem bridgeStep_run {action : ThreadAction}
    (taken : bridge.step program action = some next) :
    machine.run program (action.actions program) = some next := by
  simp only [bridge, bridgeStep, Option.ite_none_left_eq_some] at taken
  exact taken.2

theorem actions_datagrams (program : Program) (action : ThreadAction) :
    (action.actions program).flatMap Action.datagrams = action.datagrams := by
  cases action with
  | receiveThread =>
      cases sends : program.usb.receiveThread.step.sent <;>
        simp [ThreadAction.actions, sends, Action.datagrams,
          ThreadAction.datagrams, KaiLoop.Action.datagrams]
  | _ => rfl

/-- The threads do nothing which the sides by themselves could not do. -/
theorem bridge_run {actions : List ThreadAction} {finish : Program}
    (reached : bridge.run program actions = some finish) :
    ∃ steps, machine.run program steps = some finish ∧
      steps.flatMap Action.datagrams =
        actions.flatMap ThreadAction.datagrams := by
  induction actions generalizing program with
  | nil => exact ⟨[], reached, rfl⟩
  | cons action actions induction =>
      obtain ⟨next, taken, rest⟩ :=
        LabelledMachine.run_cons_eq_some.mp reached
      obtain ⟨steps, stepped, datagrams⟩ := induction rest
      refine ⟨action.actions program ++ steps,
        LabelledMachine.run_append_eq_some.mpr
          ⟨next, bridgeStep_run taken, stepped⟩, ?_⟩
      rw [List.flatMap_append, actions_datagrams, datagrams,
        List.flatMap_cons]

/-! ## From the PSP to XLink Kai -/

theorem mainStep_passed {fails : Bool}
    (moves : program.MainStepped fails next) :
    next.kai.passed = program.kai.passed := by
  cases moves with
  | closeKai kai here started taken => exact KaiLoop.step_passed rfl taken
  | closeUnstarted here unstarted =>
      rw [KaiLoop.passed, KaiLoop.passed]
      refine congrArg (· ++ program.kai.usbSend.payload) ?_
      apply KaiLoop.sentPayloads_of_adds
      apply KaiLoop.adds_exchange
      intro datagram sent other same
      obtain rfl := Option.some.inj same
      rw [(XLinkKaiConnection.close_sends _ _).1] at sent
      split at sent
      · cases sent
        decide +kernel
      · cases sent
  | _ => rfl

theorem mainStep_forwarded {fails : Bool}
    (moves : program.MainStepped fails next) :
    next.usb.forwarded = program.usb.forwarded := by
  cases moves with
  | requestStop usb here taken =>
      simp only [ReaderLoop.machine, ReaderLoop.step,
        Option.ite_none_right_eq_some, Option.some.injEq] at taken
      obtain ⟨_, rfl⟩ := taken
      rfl
  | closeDevice here unstarted =>
      simp [ReaderLoop.forwarded, ReaderLoop.record, ReaderLoop.setReader,
        List.filterMap_map, Function.comp_def, ReaderLoop.forwardedPayload]
  | _ => rfl

def Action.sends : Action → Bool
  | .kai action => action.sends
  | .main _ | .usb _ => false

theorem step_passed {action : Action} (notSend : action.sends = false)
    (taken : machine.step program action = some next) :
    next.kai.passed = program.kai.passed := by
  cases stepped taken with
  | main fails _ moves => exact mainStep_passed moves
  | usb action usb runs moves => rfl
  | kai action kai runs moves =>
      rw [(foldl_sendsOnly _ _).kai]
      exact KaiLoop.step_passed notSend moves

theorem sending_passed {fails : Bool}
    (taken : machine.step program (.kai (.usbSending fails)) = some next) :
    next.kai.passed.Sublist program.kai.passed ∧
      (program.kai.LetsThrough fails →
        next.kai.passed = program.kai.passed) := by
  cases stepped taken with
  | kai _ kai runs moves =>
      rw [(foldl_sendsOnly _ _).kai]
      exact KaiLoop.usbSending_passed moves

theorem step_forwarded {action : Action}
    (notReceive : action ≠ .usb .receiveThread)
    (taken : machine.step program action = some next) :
    next.usb.forwarded = program.usb.forwarded := by
  cases stepped taken with
  | main fails _ moves => exact mainStep_forwarded moves
  | kai action kai runs moves =>
      obtain ⟨sendThread, usb⟩ :=
        (foldl_sendsOnly { program with kai := kai }
          (handedOver program.kai kai)).usb
      rw [usb]
      rfl
  | usb action usb runs moves =>
      cases action with
      | receiveThread => exact absurd rfl notReceive
      | addToQueue aData => cases runs
      | requestStop => cases runs
      | sendThread =>
          cases moves
          rfl
      | reader answers =>
          cases moves
          exact ReaderLoop.readerStep_forwarded answers

/-- What the USB receive thread takes off its queue, and what becomes of it. -/
theorem receiveThread_cases
    (taken : bridge.step program .receiveThread = some next) :
    next.usb.receivePath =
        { program.usb.receivePath with
          thread := program.usb.receiveThread.step.thread
          sent := program.usb.forwarded ++
            program.usb.receiveThread.step.sent.toList } ∧
      next.kai.passed =
        program.kai.passed ++
          if program.kai.connection.mSocketOpen then
            program.usb.receiveThread.step.sent.toList
          else [] := by
  obtain ⟨middle, receives, sends⟩ :=
    LabelledMachine.run_cons_eq_some.mp (bridgeStep_run taken)
  have path : middle.usb.receivePath =
      { program.usb.receivePath with
        thread := program.usb.receiveThread.step.thread
        sent := program.usb.forwarded ++
          program.usb.receiveThread.step.sent.toList } ∧
      middle.kai = program.kai := by
    cases stepped receives with
    | usb _ usb runs moves =>
        cases moves
        refine ⟨?_, rfl⟩
        simp [ReaderLoop.receivePath, ReaderLoop.forwarded,
          List.filterMap_map, Function.comp_def, ReaderLoop.forwardedPayload]
  obtain ⟨path, kai⟩ := path
  cases sent : program.usb.receiveThread.step.sent with
  | none =>
      rw [sent] at sends path
      cases sends
      refine ⟨path, ?_⟩
      rw [kai, Option.toList_none, ite_self, List.append_nil]
  | some payload =>
      rw [sent] at sends path
      have passes := run_singleton.mp sends
      cases stepped passes with
      | kai _ after runs moves =>
          obtain ⟨sendThread, usb⟩ :=
            (foldl_sendsOnly { middle with kai := after }
              (handedOver middle.kai after)).usb
          constructor
          · rw [usb, ← path]
            rfl
          · cases (KaiLoop.stepped moves).2 with
            | usbSend _ outside =>
                rw [(foldl_sendsOnly _ _).kai,
                  KaiLoop.usbSendStart_passed outside, kai]
                rfl

theorem receiveThread_forwarded
    (taken : bridge.step program .receiveThread = some next) :
    next.usb.forwarded =
      program.usb.forwarded ++
        program.usb.receiveThread.step.sent.toList :=
  congrArg ReceivePath.sent (receiveThread_cases taken).1

/-- The single step a thread takes, unless it is the USB receive thread. -/
theorem single_step {action : ThreadAction}
    (taken : bridge.step program action = some next) :
    action = .receiveThread ∨
      ∃ single, action.actions program = [single] ∧
        machine.step program single = some next ∧
        single ≠ .usb .receiveThread := by
  have run := bridgeStep_run taken
  cases action with
  | receiveThread => exact .inl rfl
  | _ => exact .inr ⟨_, rfl, run_singleton.mp run, by simp⟩

/-- Data goes out only when the PSP sent it. -/
def Passes (program : Program) : Prop :=
  program.kai.passed.Sublist program.usb.forwarded

theorem Passes.step {action : ThreadAction} (passes : program.Passes)
    (taken : bridge.step program action = some next) : next.Passes := by
  unfold Passes at *
  have run := bridgeStep_run taken
  cases action with
  | receiveThread =>
      rw [(receiveThread_cases taken).2, receiveThread_forwarded taken]
      apply passes.append
      split
      · exact List.Sublist.refl _
      · exact List.nil_sublist _
  | sending fails =>
      have moves := run_singleton.mp run
      rw [step_forwarded (by simp) moves]
      exact (sending_passed moves).1.trans passes
  | _ =>
      have moves := run_singleton.mp run
      rw [step_passed rfl moves, step_forwarded (by simp) moves]
      exact passes

/-- The socket is open and XLink Kai is connected when `Send` tests for it, and
the network takes the datagram. -/
def Connected (program : Program) : ThreadAction → Prop
  | .receiveThread =>
      program.usb.receiveThread.step.sent.isSome = true →
        program.kai.connection.mSocketOpen = true
  | .sending fails => program.kai.LetsThrough fails
  | _ => True

instance (program : Program) :
    (action : ThreadAction) → Decidable (program.Connected action)
  | .receiveThread => inferInstanceAs (Decidable (_ → _))
  | .sending fails =>
      inferInstanceAs (Decidable (program.kai.LetsThrough fails))
  | .main _ | .kaiLoop _ _ | .datagram _ _ | .reader _ | .sendThread =>
      inferInstanceAs (Decidable True)

theorem passes_all {action : ThreadAction}
    (all : program.kai.passed = program.usb.forwarded)
    (connected : program.Connected action)
    (taken : bridge.step program action = some next) :
    next.kai.passed = next.usb.forwarded := by
  have run := bridgeStep_run taken
  cases action with
  | receiveThread =>
      rw [(receiveThread_cases taken).2, receiveThread_forwarded taken, all]
      cases sends : program.usb.receiveThread.step.sent with
      | none => simp
      | some payload =>
          have isOpen : program.kai.connection.mSocketOpen = true :=
            connected (by simp [sends])
          rw [if_pos isOpen]
  | sending fails =>
      have moves := run_singleton.mp run
      rw [step_forwarded (by simp) moves, (sending_passed moves).2 connected,
        all]
  | _ =>
      have moves := run_singleton.mp run
      rw [step_passed rfl moves, step_forwarded (by simp) moves, all]

/-! ## The frames of the PSP -/

/-- The frame which a step reads from the PSP. -/
def frameRead (program : Program) : ThreadAction → Option (List UInt8)
  | .reader answers => program.usb.frameRead (.reader answers)
  | .main _ | .kaiLoop _ _ | .datagram _ _ | .sendThread | .receiveThread
  | .sending _ => none

/-- The program with the frames read so far beside it. -/
def reading : LabelledMachine (Program × List (List UInt8)) ThreadAction :=
  bridge.withHistory fun program action frames =>
    frames ++ (program.frameRead action).toList

/-- Until the receive path is reset or stopped. -/
def Receives (program : Program) : ThreadAction → Prop
  | .main _ => program.main ≠ .stopReceiveThread
  | .reader answers => program.usb.ReceivesOn (.reader answers)
  | _ => True

instance (program : Program) :
    (action : ThreadAction) → Decidable (program.Receives action)
  | .main _ => inferInstanceAs (Decidable (_ ≠ _))
  | .reader answers =>
      inferInstanceAs (Decidable (program.usb.ReceivesOn (.reader answers)))
  | .receiveThread | .kaiLoop _ _ | .datagram _ _ | .sendThread
  | .sending _ => inferInstanceAs (Decidable True)

variable {whole : WireSender} {read : List (List UInt8)}

theorem mainStep_follows {fails : Bool}
    (follows : ReceivePath.Follows whole read program.usb.receivePath)
    (receives : program.main ≠ .stopReceiveThread)
    (moves : program.MainStepped fails next) :
    ReceivePath.Follows whole read next.usb.receivePath := by
  have sent := mainStep_forwarded moves
  cases moves with
  | requestStop usb here taken =>
      simp only [ReaderLoop.machine, ReaderLoop.step,
        Option.ite_none_right_eq_some, Option.some.injEq] at taken
      obtain ⟨_, rfl⟩ := taken
      exact follows.same rfl sent fun _ =>
        USBReader.SameStitching.tracks ⟨rfl, rfl, rfl⟩ _
  | closeDevice here unstarted =>
      exact follows.same rfl sent fun _ =>
        USBReader.SameStitching.tracks ⟨rfl, rfl, rfl⟩ _
  | stopReceiveThread here returned => exact absurd here receives
  | _ => exact follows

theorem bridge_follows {action : ThreadAction} {frames : List (List UInt8)}
    (follows : ReceivePath.Follows whole
      (frames.filter fun frame => FramedMessage.IsAsynchronous frame)
      program.usb.receivePath)
    (receives : program.Receives action)
    (taken : bridge.step program action = some next) :
    ReceivePath.Follows whole
      ((frames ++ (program.frameRead action).toList).filter
        fun frame => FramedMessage.IsAsynchronous frame)
      next.usb.receivePath := by
  rcases single_step taken with
    rfl | ⟨single, one, moves, notReceive⟩
  · obtain ⟨path, _⟩ := receiveThread_cases taken
    rw [frameRead, Option.toList_none, List.append_nil, path]
    have stepped : ReceivePath.Follows whole _
        { program.usb.receivePath with
          thread := program.usb.receiveThread.step.thread
          sent := program.usb.forwarded ++
            program.usb.receiveThread.step.sent.toList
          copies := program.usb.receiveThread.step.copies } :=
      follows.receiveThread rfl
    apply stepped.same
    · rfl
    · rfl
    · exact fun _ tracks => tracks
  · cases stepped moves with
    | main fails _ moves =>
        cases action <;> cases one
        rw [frameRead, Option.toList_none, List.append_nil]
        exact mainStep_follows follows receives moves
    | kai kaiAction kai runs moves =>
        have silent : program.frameRead action = none := by
          cases action <;> first | rfl | cases one
        rw [silent, Option.toList_none, List.append_nil]
        obtain ⟨sendThread, usb⟩ :=
          (foldl_sendsOnly { program with kai := kai }
            (handedOver program.kai kai)).usb
        rw [usb]
        exact follows
    | usb usbAction usb runs reads =>
        cases action with
        | reader answers =>
            cases one
            have room : program.usb.ReceivesOn (.reader answers) := receives
            exact ReaderLoop.step_follows follows room reads
        | sendThread =>
            cases one
            have room : program.usb.ReceivesOn .sendThread := trivial
            exact ReaderLoop.step_follows follows room reads
        | receiveThread =>
            obtain ⟨same, _⟩ := List.cons.inj one
            exact absurd same.symm notReceive
        | _ => cases one

end Step

section Run

variable {connection : XLinkKaiConnection} {reader : USBReader}
  {mMaxBufferedMessages : Int} {actions : List ThreadAction}
  {messages frames : List (List UInt8)} {finish : Program}

theorem follows_of_reading (idle : reader.mReceiveStitching = false)
    (sendable : WireSender.Sendable messages)
    (receives : bridge.Guarded Receives
      (start connection reader mMaxBufferedMessages) actions)
    (reached : reading.run
      (start connection reader mMaxBufferedMessages, []) actions =
        some (finish, frames)) :
    ReceivePath.Follows (WireSender.ofMessages messages)
      (frames.filter fun frame => FramedMessage.IsAsynchronous frame)
      finish.usb.receivePath := by
  apply reading.guarded_invariant
    (fun current => ReceivePath.Follows (WireSender.ofMessages messages)
      (current.2.filter fun frame => FramedMessage.IsAsynchronous frame)
      current.1.usb.receivePath) ?_ _ receives.withHistory reached
  · rintro ⟨program, earlier⟩ action ⟨next, later⟩ follows guard taken
    obtain ⟨moves, rfl⟩ :=
      LabelledMachine.withHistory_step_eq_some.mp taken
    exact bridge_follows follows guard moves
  · exact ReaderLoop.follows_start idle sendable

theorem passes_of_run
    (reached : bridge.run (start connection reader mMaxBufferedMessages)
      actions = some finish) :
    finish.kai.sentPayloads.Sublist finish.usb.forwarded := by
  have passes : finish.Passes := by
    apply bridge.run_invariant Passes _ _ reached
    · intro program action next passes taken
      exact passes.step taken
    · exact List.Sublist.refl []
  exact (List.sublist_append_left _ _).trans passes

end Run

/-- The program runs and XLink Kai is connected. -/
def connectedActions : List ThreadAction :=
  List.replicate 5 (.main false) ++ List.replicate 17 (.kaiLoop 0 false) ++
    .datagram cConnectedString KaiLoop.engine ::
      List.replicate 20 (.kaiLoop 0 false)

/-- A frame with a message of one byte. -/
def byteRead : UsbAnswers :=
  { read :=
      { lError := 0
        bytes := (wireFrames [7]).flatten
        fits := by decide +kernel } }

/-- The PSP sends the message, and it goes out as a datagram. -/
def byteSent : List ThreadAction :=
  connectedActions ++ List.replicate 4 (.reader {}) ++
    [.reader byteRead, .receiveThread, .receiveThread, .sending false,
      .sending false]

theorem byteSent_reaches :
    ∃ finish frames,
      reading.run (start opened ReaderLoop.openedReader 50, []) byteSent =
          some (finish, frames) ∧
        finish.kai.sentPayloads = [[7]] ∧
        (frames.filter fun frame => FramedMessage.IsAsynchronous frame) <+:
          [[7]].flatMap wireFrames := by
  have sends : (reading.run (start opened ReaderLoop.openedReader 50, [])
      byteSent).any (fun current =>
        decide (current.1.kai.sentPayloads = [[7]] ∧
          (current.2.filter fun frame =>
            FramedMessage.IsAsynchronous frame) <+:
              [[7]].flatMap wireFrames)) = true := by
    decide +kernel
  obtain ⟨⟨finish, frames⟩, reached, outcome⟩ :=
    (Option.any_eq_true _ _).mp sends
  exact ⟨finish, frames, reached, of_decide_eq_true outcome⟩

/-- The datagram arrives at the other program, which writes its frame. -/
def byteReceived : List ThreadAction :=
  connectedActions ++
    .datagram (cEthernetDataString ++ [7]) KaiLoop.engine ::
      (List.replicate 8 (.kaiLoop 0 false) ++ List.replicate 3 .sendThread ++
        List.replicate 8 (.reader {}))

end Program

end CWUSB
