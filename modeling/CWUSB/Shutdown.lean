import CWUSB.Opening
import CWUSB.ProgramSteps

/-!
# The end of the program

`main` ends the threads and closes both connections in an order of its own,
whatever it managed to open and to start before.  When it is done nothing is
left: no thread, no socket, and no device handle of all those which were ever
opened.
-/

namespace CWUSB

namespace MainPoint

/-- Behind the join of the reader's thread. -/
def readerEnded : MainPoint → Bool
  | .stopSendThread | .dropSendThread | .stopReceiveThread | .closeKai
  | .finished => true
  | .startKai | .startUSB | .createReceiveThread | .createSendThread
  | .createReader | .running | .requestStop | .joinReader => false

def senderEnded : MainPoint → Bool
  | .stopReceiveThread | .closeKai | .finished => true
  | .startKai | .startUSB | .createReceiveThread | .createSendThread
  | .createReader | .running | .requestStop | .joinReader | .stopSendThread
  | .dropSendThread => false

def receiverEnded : MainPoint → Bool
  | .closeKai | .finished => true
  | .startKai | .startUSB | .createReceiveThread | .createSendThread
  | .createReader | .running | .requestStop | .joinReader | .stopSendThread
  | .dropSendThread | .stopReceiveThread => false

end MainPoint

namespace ReaderLoop

/-- The reader's thread only ends without a device. -/
theorem readerStep_finished {state : ReaderLoop}
    (before : state.loop = .finished → state.reader.mDeviceHandle = none)
    (answers : UsbAnswers)
    (ended : (state.readerStep answers).loop = .finished) :
    (state.readerStep answers).reader.mDeviceHandle = none := by
  have leads := state.readerStep_leadsTo answers
  rw [ended] at leads
  cases here : state.loop with
  | finished =>
      rw [readerStep, here]
      exact before here
  | condition =>
      rw [readerStep, here] at ended ⊢
      by_cases continues : state.reader.continues = true
      · simp [goTo, continues] at ended
      · cases found : state.reader.mDeviceHandle with
        | none => exact found
        | some handle => simp [USBReader.continues, found] at continues
  | _ =>
      rw [here] at leads
      cases leads

end ReaderLoop

namespace KaiLoop

/-- The last step of `Close` closes the socket. -/
theorem closed_socket {kai next : KaiLoop} {fails : Bool}
    (taken : machine.step kai (.close fails) = some next)
    (closed : next.closing = .closed) :
    next.connection.mSocketOpen = false := by
  cases (stepped taken).2 with
  | closeSocket fails here => rfl
  | closeTest fails here =>
      dsimp only at closed
      split at closed <;> cases closed
  | _ => cases closed

end KaiLoop

namespace Program

/-- What has ended where `main` stands. -/
structure Ended (program : Program) : Prop where
  reader : program.main.readerEnded = true →
    program.mUSBThread = false ∧ program.usb.reader.mDeviceHandle = none
  sender : program.main.senderEnded = true → program.mUSBSendThread = false
  receiver : program.main.receiverEnded = true →
    program.mUSBReceiveThread = false
  loop : program.usb.loop = .finished →
    program.usb.reader.mDeviceHandle = none
  kai : program.main = .finished →
    program.kai.connection.mSocketOpen = false ∧
      (program.kaiStarted = true → program.kai.loop = .finished)

section Step

variable {program next : Program}

theorem Ended.mainStep {fails : Bool} (ended : program.Ended)
    (first : program.KaiFirst) (moves : program.MainStepped fails next) :
    next.Ended := by
  cases moves with
  | joinReader here started finished =>
      exact ⟨fun _ => ⟨rfl, ended.loop finished⟩,
        by simp [MainPoint.senderEnded], by simp [MainPoint.receiverEnded],
        ended.loop, by simp⟩
  | closeDevice here unstarted =>
      exact ⟨fun _ => ⟨unstarted, rfl⟩, by simp [MainPoint.senderEnded],
        by simp [MainPoint.receiverEnded], fun _ => rfl, by simp⟩
  | stopSendThread here started =>
      exact ⟨fun _ => ended.reader (by rw [here]; rfl),
        by simp [MainPoint.senderEnded], by simp [MainPoint.receiverEnded],
        ended.loop, by simp⟩
  | noSendThread here unstarted =>
      exact ⟨fun _ => ended.reader (by rw [here]; rfl), fun _ => unstarted,
        by simp [MainPoint.receiverEnded], ended.loop, by simp⟩
  | dropSendThread here =>
      exact ⟨fun _ => ended.reader (by rw [here]; rfl), fun _ => rfl,
        by simp [MainPoint.receiverEnded], ended.loop, by simp⟩
  | stopReceiveThread here returned =>
      exact ⟨fun _ => ended.reader (by rw [here]; rfl),
        fun _ => ended.sender (by rw [here]; rfl), fun _ => rfl, ended.loop,
        by simp⟩
  | noReceiveThread here unstarted =>
      exact ⟨fun _ => ended.reader (by rw [here]; rfl),
        fun _ => ended.sender (by rw [here]; rfl), fun _ => unstarted,
        ended.loop, by simp⟩
  | closeKai kai here started taken =>
      refine ⟨fun _ => ended.reader (by rw [here]; rfl),
        fun _ => ended.sender (by rw [here]; rfl),
        fun _ => ended.receiver (by rw [here]; rfl), ended.loop, ?_⟩
      dsimp only
      split
      · next closed =>
          intro _
          have held := ((first.consistent started).step taken).held
          exact ⟨KaiLoop.closed_socket taken closed,
            fun _ => held.joined (.inr closed)⟩
      · simp
  | closeUnstarted here unstarted =>
      refine ⟨fun _ => ended.reader (by rw [here]; rfl),
        fun _ => ended.sender (by rw [here]; rfl),
        fun _ => ended.receiver (by rw [here]; rfl), ended.loop, ?_⟩
      intro _
      refine ⟨?_, by simp [unstarted]⟩
      unfold KaiLoop.exchange XLinkKaiConnection.close
      dsimp only
      split <;> rfl
  | requestStop usb here taken =>
      simp only [ReaderLoop.machine, ReaderLoop.step,
        Option.ite_none_right_eq_some, Option.some.injEq] at taken
      obtain ⟨_, rfl⟩ := taken
      exact ⟨by simp [MainPoint.readerEnded], by simp [MainPoint.senderEnded],
        by simp [MainPoint.receiverEnded], ended.loop, by simp⟩
  | _ =>
      exact ⟨by simp [startFailed, MainPoint.readerEnded],
        by simp [startFailed, MainPoint.senderEnded],
        by simp [startFailed, MainPoint.receiverEnded], ended.loop,
        by simp [startFailed]⟩

theorem Ended.sendsOnly (ended : program.Ended)
    (same : program.SendsOnly next) : next.Ended := by
  obtain ⟨kai, main, kaiStarted, thread, sender, receiver, _, usb⟩ := same
  constructor
  · rw [main, thread, usb]
    exact ended.reader
  · rw [main, sender]
    exact ended.sender
  · rw [main, receiver]
    exact ended.receiver
  · rw [usb]
    exact ended.loop
  · rw [main, kai, kaiStarted]
    exact ended.kai

/-- XLink Kai's side does nothing any more. -/
theorem Ended.kai_still (ended : program.Ended) (first : program.KaiFirst)
    (here : program.main = .finished) {action : KaiLoop.Action} {kai : KaiLoop}
    (runs : program.kaiRuns action = true)
    (taken : KaiLoop.machine.step program.kai action = some kai) :
    kai = program.kai := by
  obtain ⟨closed, loop⟩ := ended.kai here
  have finished := loop (first.started runs)
  cases action with
  | loop now fails =>
      simp only [KaiLoop.machine, KaiLoop.step, finished, reduceCtorEq,
        if_false, Option.some.injEq] at taken
      rw [← taken, KaiLoop.loopStep, finished]
  | datagram bytes sender =>
      simp [KaiLoop.machine, KaiLoop.step, finished, closed] at taken
  | usbSend | usbSending =>
      have receiver := ended.receiver (by rw [here]; rfl)
      simp [kaiRuns, receiver] at runs
  | close fails => cases runs

theorem Ended.step {action : Action} (ended : program.Ended)
    (first : program.KaiFirst)
    (taken : machine.step program action = some next) : next.Ended := by
  cases stepped taken with
  | main fails _ moves => exact ended.mainStep first moves
  | kai action kai runs moves =>
      have stepped : Ended { program with kai := kai } := by
        refine ⟨ended.reader, ended.sender, ended.receiver, ended.loop, ?_⟩
        intro here
        have still := ended.kai_still first here runs moves
        subst kai
        exact ended.kai here
      exact stepped.sendsOnly (foldl_sendsOnly _ _)
  | usb action usb runs moves =>
      cases action with
      | reader answers =>
          cases moves
          refine ⟨?_, ended.sender, ended.receiver,
            ReaderLoop.readerStep_finished ended.loop answers, ended.kai⟩
          intro there
          simp [usbRuns, (ended.reader there).1] at runs
      | sendThread =>
          cases moves
          exact ⟨ended.reader, ended.sender, ended.receiver, ended.loop,
            ended.kai⟩
      | receiveThread =>
          cases moves
          exact ⟨ended.reader, ended.sender, ended.receiver, ended.loop,
            ended.kai⟩
      | addToQueue aData => cases runs
      | requestStop => cases runs

/-! ## The handles -/

theorem owned_mainStep {calls : List LibusbCall} {fails : Bool}
    (owned : program.usb.Owned calls)
    (moves : program.MainStepped fails next) : next.usb.Owned calls := by
  cases moves with
  | requestStop usb here taken => exact owned.step taken
  | closeDevice here unstarted =>
      unfold ReaderLoop.Owned at *
      rw [ReaderLoop.record, ReaderLoop.setReader, libusbCalls_append,
        libusbCalls_map, ← List.append_assoc]
      exact HoldsHandle.closeCalls program.usb.reader owned
  | _ => exact owned

theorem owned_step {calls : List LibusbCall} {action : Action}
    (owned : program.usb.Owned calls)
    (taken : machine.step program action = some next) :
    next.usb.Owned calls := by
  cases stepped taken with
  | main fails _ moves => exact owned_mainStep owned moves
  | usb action usb runs moves => exact owned.step moves
  | kai action kai runs moves =>
      obtain ⟨sendThread, usb⟩ :=
        (foldl_sendsOnly { program with kai := kai }
          (handedOver program.kai kai)).usb
      rw [usb]
      exact owned

/-! ## Nothing is left -/

/-- No thread exists, nothing is open, and nothing happens any more. -/
structure ShutDown (calls : List LibusbCall) (program : Program) : Prop where
  kaiThread : program.kaiStarted = true → program.kai.loop = .finished
  usbThreads : program.mUSBThread = false ∧ program.mUSBSendThread = false ∧
    program.mUSBReceiveThread = false
  socket : program.kai.connection.mSocketOpen = false
  device : program.usb.reader.mDeviceHandle = none
  handles : ∀ handle, ¬ OpenNow handle (calls ++ libusbCalls program.usb.events)
  still : ∀ action next, machine.step program action = some next →
    next = program

theorem shutDown_of_ended {calls : List LibusbCall} (ended : program.Ended)
    (first : program.KaiFirst) (owned : program.usb.Owned calls)
    (here : program.main = .finished) : program.ShutDown calls := by
  obtain ⟨thread, device⟩ := ended.reader (by rw [here]; rfl)
  have sender := ended.sender (by rw [here]; rfl)
  have receiver := ended.receiver (by rw [here]; rfl)
  refine ⟨(ended.kai here).2, ⟨thread, sender, receiver⟩, (ended.kai here).1,
    device, ?_, ?_⟩
  · intro handle isOpen
    have kept := (owned.held handle).mp isOpen
    rw [device] at kept
    cases kept
  · intro action next taken
    cases stepped taken with
    | main fails _ moves =>
        cases moves with
        | startFails there => simp [here] at there
        | requestStop usb there moved => simp [here] at there
        | closeKai kai there started moved => simp [here] at there
        | _ there => simp [here] at there
    | kai action kai runs moves =>
        have still := ended.kai_still first here runs moves
        subst kai
        simp [handedOver]
    | usb action usb runs moves =>
        cases action <;> simp [usbRuns, thread, sender, receiver] at runs

end Step

section Run

variable {settings : OpenSettings} {reader : USBReader}
  {tries : List OpenAnswers} {opening : Opening}
  {mMaxBufferedMessages : Int} {actions : List Action} {finish : Program}

/-- What `main` opened is what the threads start with. -/
theorem invariants_program (opened : opening.Opened settings reader)
    (mMaxBufferedMessages : Int) :
    (opening.program mMaxBufferedMessages).KaiFirst ∧
      (opening.program mMaxBufferedMessages).Ended ∧
      (opening.program mMaxBufferedMessages).usb.Owned
        opening.device.calls := by
  refine ⟨?_, ?_, ?_⟩
  · have connected : ({ opening.connection with
        mIncomingConnection := true } : XLinkKaiConnection).mConnected =
          false := opened.kai.connected
    exact kaiFirst_start connected opened.kai.initiated _ _
  · constructor <;>
      simp [Opening.program, start, ReaderLoop.start, MainPoint.readerEnded,
        MainPoint.senderEnded, MainPoint.receiverEnded]
  · unfold ReaderLoop.Owned
    rw [Opening.program, start, ReaderLoop.start, libusbCalls,
      List.filterMap_nil, List.append_nil]
    exact opened.usb.owned

theorem invariants_of_run (opened : opening.Opened settings reader)
    (reached : machine.run (opening.program mMaxBufferedMessages) actions =
      some finish) :
    finish.KaiFirst ∧ finish.Ended ∧
      finish.usb.Owned opening.device.calls := by
  apply machine.run_invariant
    (fun program => program.KaiFirst ∧ program.Ended ∧
      program.usb.Owned opening.device.calls) _
    (invariants_program opened mMaxBufferedMessages) reached
  rintro program action next ⟨first, ended, owned⟩ taken
  exact ⟨first.step taken, ended.step first taken, owned_step owned taken⟩

/-- However the connections were opened, whichever threads could be started,
and whenever the signal came: a program which has come to its end has closed
the socket and every handle it opened, each of them once, and has no thread
left. -/
theorem shutdown_complete (closed : reader.mDeviceHandle = none)
    (unrequested : reader.mStopRequest = false)
    (opens : (Opening.machine settings).run (Opening.start reader) tries =
      some opening)
    (reached : machine.run (opening.program mMaxBufferedMessages) actions =
      some finish)
    (here : finish.main = .finished) :
    finish.ShutDown opening.device.calls ∧
      ∀ handle,
        EventLog.AtMostOnce (LibusbCall.Opens handle)
            (opening.device.calls ++ libusbCalls finish.usb.events) →
          EventLog.AtMostOnce (LibusbCall.Closes handle)
            (opening.device.calls ++ libusbCalls finish.usb.events) := by
  have opened := Opening.opened_of_run closed unrequested opens
  obtain ⟨first, ended, owned⟩ := invariants_of_run opened reached
  refine ⟨shutDown_of_ended ended first owned here, ?_⟩
  intro handle fresh
  apply owned.taken_once _ fresh
  rintro call ⟨lCount, rfl⟩
  simp [LibusbCall.Closes]

end Run

/-- The program is stopped as soon as XLink Kai's thread is behind its first
statement, and closes everything. -/
def stoppedAtOnce : List Action :=
  mainSteps 1 ++ .kai (.loop 0 false) :: mainSteps 6 ++
    List.replicate 6 (.usb (.reader {})) ++ mainSteps 6 ++
    .kai (.loop 0 false) :: mainSteps 2

theorem shutdown_complete_stoppedAtOnce :
    ∃ opening finish,
      (Opening.machine Opening.localSettings).run
          (Opening.start USBReader.newReader) Opening.threeTries =
          some opening ∧
        machine.run (opening.program 50) stoppedAtOnce = some finish ∧
        finish.main = .finished ∧
        (finish.ShutDown opening.device.calls ∧
          ∀ handle,
            EventLog.AtMostOnce (LibusbCall.Opens handle)
                (opening.device.calls ++ libusbCalls finish.usb.events) →
              EventLog.AtMostOnce (LibusbCall.Closes handle)
                (opening.device.calls ++ libusbCalls finish.usb.events)) ∧
        .closeDevice 1 ∈ libusbCalls finish.usb.events := by
  have ends : ((Opening.machine Opening.localSettings).run
      (Opening.start USBReader.newReader) Opening.threeTries).any
        (fun opening =>
          (machine.run (opening.program 50) stoppedAtOnce).any
            (fun finish => decide (finish.main = .finished ∧
              .closeDevice 1 ∈ libusbCalls finish.usb.events))) = true := by
    decide +kernel
  obtain ⟨opening, opens, runs⟩ := (Option.any_eq_true _ _).mp ends
  obtain ⟨finish, reached, outcome⟩ := (Option.any_eq_true _ _).mp runs
  obtain ⟨here, closes⟩ := of_decide_eq_true outcome
  exact ⟨opening, finish, opens, reached, here,
    shutdown_complete rfl rfl opens reached here, closes⟩

end Program

end CWUSB
