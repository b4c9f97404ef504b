import CWUSB.Lifecycle
import CWUSB.ReceiveChain

/-!
# The steps of the program

What a step of `main` does is said here once, with the tests which led to it,
and which thread takes any other step.  Two facts hold wherever `main` stands:
the receiver thread of XLink Kai was created before any thread of the USB
reader, and until then XLink Kai's side is as it was opened.
-/

namespace CWUSB

namespace Program

/-- The ways for `main` to take a step. -/
inductive MainStepped (program : Program) (fails : Bool) : Program → Prop where
  | startKai (here : program.main = .startKai)
      (isOpen : program.kai.connection.mSocketOpen = true) :
      MainStepped program fails
        { program with
          kai :=
            { program.kai with
              receives := program.kai.receives ++ [.pending] }
          kaiStarted := true
          main := .startUSB }
  | startFails (here : program.main = .startKai ∨ program.main = .startUSB) :
      MainStepped program fails program.startFailed
  | startUSB (here : program.main = .startUSB)
      (opened : program.usb.reader.mDeviceHandle.isSome = true)
      (unstarted : program.mUSBThread = false) :
      MainStepped program fails { program with main := .createReceiveThread }
  | createReceiveThread (here : program.main = .createReceiveThread) :
      MainStepped program fails
        { program with mUSBReceiveThread := true, main := .createSendThread }
  | createSendThread (here : program.main = .createSendThread) :
      MainStepped program fails
        { program with mUSBSendThread := true, main := .createReader }
  | createReader (here : program.main = .createReader) :
      MainStepped program fails
        { program with
          mUSBThread := true
          mEngineStatus := .running
          main := .running }
  | leave (here : program.main = .running) :
      MainStepped program fails { program with main := .requestStop }
  | requestStop (usb : ReaderLoop) (here : program.main = .requestStop)
      (taken : ReaderLoop.machine.step program.usb .requestStop = some usb) :
      MainStepped program fails
        { program with usb := usb, main := .joinReader }
  | joinReader (here : program.main = .joinReader)
      (started : program.mUSBThread = true)
      (ended : program.usb.loop = .finished) :
      MainStepped program fails
        { program with mUSBThread := false, main := .stopSendThread }
  | closeDevice (here : program.main = .joinReader)
      (unstarted : program.mUSBThread = false) :
      MainStepped program fails
        { program with
          usb :=
            (program.usb.setReader program.usb.reader.handleClose).record
              (program.usb.reader.closeCalls.map .libusb)
          main := .stopSendThread }
  | stopSendThread (here : program.main = .stopSendThread)
      (started : program.mUSBSendThread = true) :
      MainStepped program fails
        { program with
          usb :=
            { program.usb with
              sendThread := program.usb.sendThread.clearQueues }
          main := .dropSendThread }
  | noSendThread (here : program.main = .stopSendThread)
      (unstarted : program.mUSBSendThread = false) :
      MainStepped program fails { program with main := .stopReceiveThread }
  | dropSendThread (here : program.main = .dropSendThread) :
      MainStepped program fails
        { program with mUSBSendThread := false, main := .stopReceiveThread }
  | stopReceiveThread (here : program.main = .stopReceiveThread)
      (returned : program.kai.usbSend = .outside) :
      MainStepped program fails
        { program with
          usb :=
            { program.usb with
              receiveThread := program.usb.receiveThread.clearQueues }
          mUSBReceiveThread := false
          main := .closeKai }
  | noReceiveThread (here : program.main = .stopReceiveThread)
      (unstarted : program.mUSBReceiveThread = false) :
      MainStepped program fails { program with main := .closeKai }
  | closeKai (kai : KaiLoop) (here : program.main = .closeKai)
      (started : program.kaiStarted = true)
      (taken : KaiLoop.machine.step program.kai (.close fails) = some kai) :
      MainStepped program fails
        { program with
          kai := kai
          main := if kai.closing = .closed then .finished else .closeKai }
  | closeUnstarted (here : program.main = .closeKai)
      (unstarted : program.kaiStarted = false) :
      MainStepped program fails
        { program with
          kai :=
            program.kai.exchange
              (program.kai.connection.close fails).connection
              (program.kai.connection.close fails).transmitted
          main := .finished }

/-- The ways to take a step, with the thread which takes it. -/
inductive Stepped (program : Program) : Action → Program → Prop where
  | main (fails : Bool) (next : Program)
      (moves : program.MainStepped fails next) :
      Stepped program (.main fails) next
  | kai (action : KaiLoop.Action) (kai : KaiLoop)
      (runs : program.kaiRuns action = true)
      (taken : KaiLoop.machine.step program.kai action = some kai) :
      Stepped program (.kai action)
        ((handedOver program.kai kai).foldl send { program with kai := kai })
  | usb (action : ReaderLoop.Action) (usb : ReaderLoop)
      (runs : program.usbRuns action = true)
      (taken : ReaderLoop.machine.step program.usb action = some usb) :
      Stepped program (.usb action) { program with usb := usb }

section Step

variable {program next : Program}

theorem mainStepped {fails : Bool} (returning : program.kai.loop ≠ .threw)
    (taken : program.mainStep fails = some next) :
    program.MainStepped fails next := by
  unfold mainStep at taken
  cases here : program.main with
  | startKai =>
      rw [here] at taken
      dsimp only at taken
      split at taken
      · next isOpen =>
          cases taken
          exact .startKai here isOpen
      · cases taken
        exact .startFails (.inl here)
  | startUSB =>
      rw [here] at taken
      dsimp only at taken
      split at taken
      · next usable =>
          cases taken
          simp only [Bool.and_eq_true, Bool.not_eq_true'] at usable
          exact .startUSB here usable.1 usable.2
      · cases taken
        exact .startFails (.inr here)
  | createReceiveThread =>
      rw [here] at taken
      cases taken
      exact .createReceiveThread here
  | createSendThread =>
      rw [here] at taken
      cases taken
      exact .createSendThread here
  | createReader =>
      rw [here] at taken
      cases taken
      exact .createReader here
  | running =>
      rw [here] at taken
      cases taken
      exact .leave here
  | requestStop =>
      rw [here] at taken
      obtain ⟨usb, stops, rfl⟩ := Option.map_eq_some_iff.mp taken
      exact .requestStop usb here stops
  | joinReader =>
      rw [here] at taken
      dsimp only at taken
      split at taken
      · next started =>
          split at taken
          · next ended =>
              cases taken
              exact .joinReader here started ended
          · cases taken
      · next unstarted =>
          cases taken
          exact .closeDevice here (by simpa using unstarted)
  | stopSendThread =>
      rw [here] at taken
      dsimp only at taken
      split at taken
      · next started =>
          cases taken
          exact .stopSendThread here started
      · next unstarted =>
          cases taken
          exact .noSendThread here (by simpa using unstarted)
  | dropSendThread =>
      rw [here] at taken
      cases taken
      exact .dropSendThread here
  | stopReceiveThread =>
      rw [here] at taken
      dsimp only at taken
      split at taken
      · split at taken
        · next returned =>
            cases taken
            exact .stopReceiveThread here returned
        · cases taken
      · next unstarted =>
          cases taken
          exact .noReceiveThread here (by simpa using unstarted)
  | closeKai =>
      rw [here] at taken
      dsimp only at taken
      split at taken
      · next started =>
          obtain ⟨kai, closes, rfl⟩ := Option.map_eq_some_iff.mp taken
          refine .closeKai kai here started ?_
          simpa [KaiLoop.machine, KaiLoop.step, returning] using closes
      · next unstarted =>
          cases taken
          exact .closeUnstarted here (by simpa using unstarted)
  | finished =>
      rw [here] at taken
      cases taken

theorem stepped {action : Action}
    (taken : machine.step program action = some next) :
    program.Stepped action next := by
  simp only [machine, Program.step] at taken
  split at taken
  · cases taken
  · next returning =>
      cases action with
      | main fails => exact .main fails next (mainStepped returning taken)
      | kai action =>
          simp only [Option.ite_none_right_eq_some,
            Option.map_eq_some_iff] at taken
          obtain ⟨runs, kai, moves, rfl⟩ := taken
          exact .kai action kai runs moves
      | usb action =>
          simp only [Option.ite_none_right_eq_some,
            Option.map_eq_some_iff] at taken
          obtain ⟨runs, usb, moves, rfl⟩ := taken
          exact .usb action usb runs moves

end Step

/-! ## The calls of `Send` -/

/-- The calls of `Send` add to the queue of the send thread, and change nothing
else but the record of the calls. -/
structure SendsOnly (program next : Program) : Prop where
  kai : next.kai = program.kai
  main : next.main = program.main
  kaiStarted : next.kaiStarted = program.kaiStarted
  mUSBThread : next.mUSBThread = program.mUSBThread
  mUSBSendThread : next.mUSBSendThread = program.mUSBSendThread
  mUSBReceiveThread : next.mUSBReceiveThread = program.mUSBReceiveThread
  usb : ∃ sendThread, next.usb = { program.usb with sendThread := sendThread }

theorem send_sendsOnly (program : Program) (aData : List UInt8) :
    program.SendsOnly (program.send aData) := by
  refine ⟨rfl, rfl, rfl, rfl, rfl, rfl, ?_⟩
  unfold send
  cases program.mUSBSendThread with
  | false => exact ⟨program.usb.sendThread, rfl⟩
  | true => exact ⟨_, rfl⟩

theorem foldl_sendsOnly (program : Program) (handed : List (List UInt8)) :
    program.SendsOnly (handed.foldl send program) := by
  induction handed generalizing program with
  | nil => exact ⟨rfl, rfl, rfl, rfl, rfl, rfl, program.usb.sendThread, rfl⟩
  | cons aData handed induction =>
      have first := program.send_sendsOnly aData
      have rest := induction (program.send aData)
      obtain ⟨_, usb⟩ := first.usb
      obtain ⟨sendThread, usbRest⟩ := rest.usb
      refine ⟨rest.kai.trans first.kai, rest.main.trans first.main,
        rest.kaiStarted.trans first.kaiStarted,
        rest.mUSBThread.trans first.mUSBThread,
        rest.mUSBSendThread.trans first.mUSBSendThread,
        rest.mUSBReceiveThread.trans first.mUSBReceiveThread, sendThread, ?_⟩
      rw [List.foldl_cons, usbRest, usb]

/-! ## XLink Kai's side -/

end Program

/-- Nothing happens on XLink Kai's side before its thread is created. -/
structure KaiLoop.Waiting (kai : KaiLoop) : Prop where
  loop : kai.loop = .restart
  receives : kai.receives = []
  closing : kai.closing = .test
  connected : kai.connection.mConnected = false
  initiated : kai.connection.mConnectInitiated = false

/-- The receiver thread starts with one receive. -/
theorem KaiLoop.Waiting.consistent {kai : KaiLoop} (waiting : kai.Waiting) :
    Consistent
      { kai with receives := kai.receives ++ [.pending] } where
  held :=
    { joined := by simp [waiting.closing]
      session := by simp [waiting.connected, waiting.initiated]
      needed := by
        simp [waiting.loop, LoopPoint.NeedsSocket, LoopPoint.Handling] }
  exclusive := exclusive_of_clear waiting.connected waiting.initiated
  chained := by
    simp [Chained, receiveCount, waiting.loop, waiting.receives,
      LoopPoint.beingHandled]

namespace Program

/-- The receiver thread of XLink Kai is created first. -/
structure KaiFirst (program : Program) : Prop where
  before : program.main = .startKai → program.kaiStarted = false
  behind : program.main = .startUSB ∨ program.main = .createReceiveThread →
    program.kaiStarted = true
  receiver : program.mUSBReceiveThread = true → program.kaiStarted = true
  waiting : program.kaiStarted = false → program.kai.Waiting
  consistent : program.kaiStarted = true → program.kai.Consistent

section KaiFirst

variable {program next : Program}

theorem kaiFirst_start {connection : XLinkKaiConnection}
    (connected : connection.mConnected = false)
    (initiated : connection.mConnectInitiated = false) (reader : USBReader)
    (mMaxBufferedMessages : Int) :
    (start connection reader mMaxBufferedMessages).KaiFirst where
  before := fun _ => rfl
  behind := by simp [start]
  receiver := by simp [start]
  waiting := fun _ => ⟨rfl, rfl, rfl, connected, initiated⟩
  consistent := by simp [start]

/-- A step of XLink Kai's side is one of a thread which exists. -/
theorem KaiFirst.started (first : program.KaiFirst)
    {action : KaiLoop.Action} (runs : program.kaiRuns action = true) :
    program.kaiStarted = true := by
  cases action with
  | loop now fails => exact runs
  | datagram bytes sender => exact runs
  | usbSend aData => exact first.receiver runs
  | usbSending fails => exact first.receiver runs
  | close fails => cases runs

theorem KaiFirst.mainStep {fails : Bool} (first : program.KaiFirst)
    (moves : program.MainStepped fails next) : next.KaiFirst := by
  cases moves with
  | startKai here isOpen =>
      have waiting := first.waiting (first.before here)
      exact ⟨by simp, fun _ => rfl, fun _ => rfl, by simp,
        fun _ => waiting.consistent⟩
  | createReceiveThread here =>
      exact ⟨by simp, by simp, fun _ => first.behind (.inr here),
        first.waiting, first.consistent⟩
  | startUSB here opened unstarted =>
      exact ⟨by simp, fun _ => first.behind (.inl here), first.receiver,
        first.waiting, first.consistent⟩
  | stopReceiveThread here returned =>
      exact ⟨by simp, by simp, by simp, first.waiting, first.consistent⟩
  | closeKai kai here started taken =>
      refine ⟨?_, ?_, fun _ => started, ?_, ?_⟩
      · dsimp only
        split <;> simp
      · dsimp only
        split <;> simp
      · simp [started]
      · exact fun _ => (first.consistent started).step taken
  | closeUnstarted here unstarted =>
      have waiting := first.waiting unstarted
      have connection : (program.kai.connection.close fails).connection =
          { program.kai.connection with mSocketOpen := false } := by
        simp [XLinkKaiConnection.close, waiting.connected, waiting.initiated]
      refine ⟨by simp, by simp, first.receiver, ?_, by simp [unstarted]⟩
      intro _
      refine ⟨waiting.loop, waiting.receives, waiting.closing, ?_, ?_⟩
      · rw [KaiLoop.exchange, connection]
        exact waiting.connected
      · rw [KaiLoop.exchange, connection]
        exact waiting.initiated
  | _ =>
      exact ⟨by simp [startFailed], by simp [startFailed], first.receiver,
        first.waiting, first.consistent⟩

theorem KaiFirst.sendsOnly (first : program.KaiFirst)
    (same : program.SendsOnly next) : next.KaiFirst := by
  obtain ⟨kai, main, kaiStarted, _, _, receiver, _⟩ := same
  constructor
  · rw [main, kaiStarted]
    exact first.before
  · rw [main, kaiStarted]
    exact first.behind
  · rw [receiver, kaiStarted]
    exact first.receiver
  · rw [kai, kaiStarted]
    exact first.waiting
  · rw [kai, kaiStarted]
    exact first.consistent

theorem KaiFirst.step {action : Action} (first : program.KaiFirst)
    (taken : machine.step program action = some next) : next.KaiFirst := by
  cases stepped taken with
  | main fails _ moves => exact first.mainStep moves
  | usb action usb runs moves =>
      exact ⟨first.before, first.behind, first.receiver, first.waiting,
        first.consistent⟩
  | kai action kai runs moves =>
      have started := first.started runs
      have stepped : KaiFirst { program with kai := kai } := by
        refine ⟨first.before, first.behind, first.receiver, ?_, ?_⟩
        · simp [started]
        · exact fun _ => (first.consistent started).step moves
      exact stepped.sendsOnly (foldl_sendsOnly _ _)

end KaiFirst

end Program

end CWUSB
