import CWUSB.KaiLoop
import CWUSB.ReaderLoop
import CWUSB.SettingsModel

/-!
# Start and shutdown of the program

`main` starts the receiver thread of XLink Kai before the threads of the USB
reader, and stops it after them.  `USBReader::Send`, which that thread calls
for XLink data, goes through `mUSBSendThread` without a test.  The pointer is
set exactly while `main` is between the two assignments in a start which
succeeded.
-/

namespace CWUSB

/-- What the main thread will execute next, from the condition with both calls
of `StartReceiverThread` on. -/
inductive MainPoint where
  | startKai
  | startUSB
  | createReceiveThread
  | createSendThread
  | createReader
  | running
  | requestStop
  | joinReader
  | stopSendThread
  | dropSendThread
  | stopReceiveThread
  | closeKai
  | finished
deriving DecidableEq

structure Program where
  kai : KaiLoop
  usb : ReaderLoop
  main : MainPoint := .startKai
  mEngineStatus : EngineStatus := .idle
  /-- Whether the receiver thread of XLink Kai was created. -/
  kaiStarted : Bool := false
  /-- Whether the pointers of the USB reader are set. -/
  mUSBThread : Bool := false
  mUSBSendThread : Bool := false
  mUSBReceiveThread : Bool := false
  /-- For each call of `USBReader::Send`, whether `mUSBSendThread` was set. -/
  sends : List Bool := []
deriving DecidableEq

namespace Program

/-! ## The main thread -/

/-- The start failed, and `main` goes on with `USBReader::Close`. -/
def startFailed (program : Program) : Program :=
  { program with mEngineStatus := .error, main := .requestStop }

def mainStep (program : Program) (fails : Bool) : Option Program :=
  match program.main with
  | .startKai =>
      if program.kai.connection.mSocketOpen then
        some
          { program with
            kai :=
              { program.kai with
                receives := program.kai.receives ++ [.pending] }
            kaiStarted := true
            main := .startUSB }
      else some program.startFailed
  | .startUSB =>
      if program.usb.reader.mDeviceHandle.isSome && !program.mUSBThread then
        some { program with main := .createReceiveThread }
      else some program.startFailed
  | .createReceiveThread =>
      some
        { program with mUSBReceiveThread := true, main := .createSendThread }
  | .createSendThread =>
      some { program with mUSBSendThread := true, main := .createReader }
  | .createReader =>
      some
        { program with
          mUSBThread := true
          mEngineStatus := .running
          main := .running }
  | .running =>
      -- The signal handler cleared `gRunning`.
      some { program with main := .requestStop }
  | .requestStop =>
      (program.usb.step .requestStop).map fun usb =>
        { program with usb := usb, main := .joinReader }
  | .joinReader =>
      if program.mUSBThread then
        if program.usb.loop = .finished then
          some { program with mUSBThread := false, main := .stopSendThread }
        else none
      else
        some
          { program with
            usb :=
              (program.usb.setReader program.usb.reader.handleClose).record
                (program.usb.reader.closeCalls.map .libusb)
            main := .stopSendThread }
  | .stopSendThread =>
      if program.mUSBSendThread then
        some
          { program with
            usb :=
              { program.usb with
                sendThread := program.usb.sendThread.clearQueues }
            main := .dropSendThread }
      else some { program with main := .stopReceiveThread }
  | .dropSendThread =>
      some { program with mUSBSendThread := false, main := .stopReceiveThread }
  | .stopReceiveThread =>
      if program.mUSBReceiveThread then
        -- The thread is joined, so it is not inside `Send` any more.
        if program.kai.usbSend = .outside then
          some
            { program with
              usb :=
                { program.usb with
                  receiveThread := program.usb.receiveThread.clearQueues }
              mUSBReceiveThread := false
              main := .closeKai }
        else none
      else some { program with main := .closeKai }
  | .closeKai =>
      if program.kaiStarted then
        (program.kai.closeStep fails).map fun kai =>
          { program with
            kai := kai
            main := if kai.closing = .closed then .finished else .closeKai }
      else
        let closed := program.kai.connection.close fails
        some
          { program with
            kai := program.kai.exchange closed.connection closed.transmitted
            main := .finished }
  | .finished => none

/-! ## `USBReader::Send` -/

/-- A call through a null pointer is put on record, and the run goes on as if
nothing had happened. -/
def send (program : Program) (aData : List UInt8) : Program :=
  { program with
    sends := program.sends ++ [program.mUSBSendThread]
    usb :=
      if program.mUSBSendThread then
        { program.usb with
          sendThread := (program.usb.sendThread.addToQueue aData).thread }
      else program.usb }

def forwardedData : KaiEvent → Option (List UInt8)
  | .forwarded aData => some aData
  | _ => none

/-- The data which a step of XLink Kai's thread handed to `Send`. -/
def handedOver (kai next : KaiLoop) : List (List UInt8) :=
  (next.events.drop kai.events.length).filterMap forwardedData

/-! ## All threads -/

inductive Action where
  | main (fails : Bool)
  | kai (action : KaiLoop.Action)
  | usb (action : ReaderLoop.Action)

/-- Whether the thread which would take the step exists. -/
def kaiRuns (program : Program) : KaiLoop.Action → Bool
  | .loop _ _ | .datagram _ _ => program.kaiStarted
  | .usbSend _ | .usbSending _ => program.mUSBReceiveThread
  | .close _ => false

def usbRuns (program : Program) : ReaderLoop.Action → Bool
  | .reader _ => program.mUSBThread
  | .sendThread => program.mUSBSendThread
  | .receiveThread => program.mUSBReceiveThread
  | .addToQueue _ | .requestStop => false

def step (program : Program) (action : Action) : Option Program :=
  if program.kai.loop = .threw then none
  else
    match action with
    | .main fails => program.mainStep fails
    | .kai action =>
        if program.kaiRuns action then
          (program.kai.step action).map fun kai =>
            (handedOver program.kai kai).foldl send { program with kai := kai }
        else none
    | .usb action =>
        if program.usbRuns action then
          (program.usb.step action).map fun usb => { program with usb := usb }
        else none

def machine : LabelledMachine Program Action := ⟨step⟩

/-- Behind the loop which opens both connections, and
`SetIncomingConnection`. -/
def start (connection : XLinkKaiConnection) (reader : USBReader)
    (mMaxBufferedMessages : Int) : Program :=
  { kai := { connection := connection }
    usb := ReaderLoop.start reader mMaxBufferedMessages }

/-! ## The pointer and the position of `main` -/

/-- `mUSBSendThread` was set at every call of `USBReader::Send`. -/
def AlwaysFound (program : Program) : Prop :=
  ∀ found ∈ program.sends, found = true

/-- `main` has assigned `mUSBSendThread` in a start which succeeds, and `Close`
has not dropped it. -/
def BetweenAssignments (program : Program) : Prop :=
  program.main = .createReader ∨
    (program.mEngineStatus = .running ∧
      (program.main = .running ∨ program.main = .requestStop ∨
        program.main = .joinReader ∨ program.main = .stopSendThread ∨
        program.main = .dropSendThread))

/-- XLink data is handed over only while `main` is between the assignments. -/
def HandsOverBetween (program : Program) : Action → Prop
  | .kai action => ∀ next, program.kai.step action = some next →
      handedOver program.kai next ≠ [] → program.BetweenAssignments
  | .main _ | .usb _ => True

/-- The pointer follows the position of `main`. -/
def Tracks (program : Program) : Prop :=
  program.mUSBSendThread = true ↔ program.BetweenAssignments

/-- What calls of `Send` leave alone. -/
structure SameMain (program next : Program) : Prop where
  main : next.main = program.main
  mEngineStatus : next.mEngineStatus = program.mEngineStatus
  mUSBSendThread : next.mUSBSendThread = program.mUSBSendThread

theorem SameMain.tracks {program next : Program}
    (same : program.SameMain next) (tracks : program.Tracks) :
    next.Tracks := by
  simp only [Tracks, BetweenAssignments, same.main, same.mEngineStatus,
    same.mUSBSendThread]
  exact tracks

theorem send_sameMain (program : Program) (handed : List (List UInt8)) :
    program.SameMain (handed.foldl send program) := by
  induction handed generalizing program with
  | nil => exact ⟨rfl, rfl, rfl⟩
  | cons aData handed induction =>
      obtain ⟨main, status, pointer⟩ := induction (program.send aData)
      exact ⟨main, status, pointer⟩

theorem sends_foldl (program : Program) (handed : List (List UInt8)) :
    (handed.foldl send program).sends =
      program.sends ++
        List.replicate handed.length program.mUSBSendThread := by
  induction handed generalizing program with
  | nil => simp
  | cons aData handed induction =>
      rw [List.foldl_cons, induction, List.length_cons, List.replicate_succ,
        send, List.append_assoc, List.singleton_append]

section Step

variable {program next : Program}

theorem mainStep_sends {fails : Bool}
    (taken : program.mainStep fails = some next) :
    next.sends = program.sends := by
  unfold mainStep at taken
  cases here : program.main with
  | requestStop =>
      rw [here] at taken
      obtain ⟨usb, _stopped, rfl⟩ := Option.map_eq_some_iff.mp taken
      rfl
  | closeKai =>
      rw [here] at taken
      dsimp only at taken
      split at taken
      · obtain ⟨kai, _closes, rfl⟩ := Option.map_eq_some_iff.mp taken
        rfl
      · cases taken
        rfl
  | joinReader | stopReceiveThread =>
      rw [here] at taken
      dsimp only at taken
      split at taken
      · split at taken
        · cases taken <;> rfl
        · cases taken <;> rfl
      · cases taken
        rfl
  | startKai | startUSB | stopSendThread =>
      rw [here] at taken
      dsimp only at taken
      split at taken <;> cases taken <;> rfl
  | _ =>
      rw [here] at taken
      cases taken
      try rfl

/-- Each assignment to the pointer is where `main` enters or leaves the
range. -/
theorem Tracks.mainStep {fails : Bool} (tracks : program.Tracks)
    (taken : program.mainStep fails = some next) : next.Tracks := by
  unfold Program.mainStep at taken
  unfold Tracks BetweenAssignments at *
  cases here : program.main with
  | requestStop =>
      rw [here] at taken tracks
      obtain ⟨usb, _stopped, rfl⟩ := Option.map_eq_some_iff.mp taken
      simpa using tracks
  | closeKai =>
      rw [here] at taken tracks
      dsimp only at taken
      split at taken
      · obtain ⟨kai, _closes, rfl⟩ := Option.map_eq_some_iff.mp taken
        dsimp only
        split <;> simpa using tracks
      · cases taken
        simpa using tracks
  | joinReader | stopReceiveThread =>
      rw [here] at taken tracks
      dsimp only at taken
      split at taken
      · split at taken
        · cases taken <;> simpa using tracks
        · cases taken <;> simpa using tracks
      · cases taken
        simpa using tracks
  | startKai | startUSB =>
      rw [here] at taken tracks
      dsimp only at taken
      split at taken
      · cases taken
        simpa using tracks
      · cases taken
        simpa [startFailed] using tracks
  | stopSendThread =>
      rw [here] at taken tracks
      dsimp only at taken
      split at taken
      · cases taken
        simpa using tracks
      · next unset =>
          cases taken
          simpa using unset
  | createReceiveThread | createReader | running =>
      rw [here] at taken tracks
      cases taken
      simpa using tracks
  | createSendThread | dropSendThread =>
      rw [here] at taken
      cases taken
      simp
  | finished =>
      rw [here] at taken
      cases taken

/-- A step of `main`, one of XLink Kai's side with the calls of `Send` it makes,
or one of the USB side. -/
theorem step_cases {action : Action}
    (taken : machine.step program action = some next) :
    (∃ fails, action = .main fails ∧
        program.mainStep fails = some next) ∨
      (∃ kaiAction kai, action = .kai kaiAction ∧
        program.kai.step kaiAction = some kai ∧
        next = (handedOver program.kai kai).foldl send
          { program with kai := kai }) ∨
      ∃ usbAction usb, action = .usb usbAction ∧
        next = { program with usb := usb } := by
  simp only [machine, Program.step] at taken
  split at taken
  · cases taken
  · cases action with
    | main fails => exact .inl ⟨fails, rfl, taken⟩
    | kai kaiAction =>
        dsimp only at taken
        split at taken
        · obtain ⟨kai, stepped, rfl⟩ := Option.map_eq_some_iff.mp taken
          exact .inr (.inl ⟨kaiAction, kai, rfl, stepped, rfl⟩)
        · cases taken
    | usb usbAction =>
        dsimp only at taken
        split at taken
        · obtain ⟨usb, _stepped, rfl⟩ := Option.map_eq_some_iff.mp taken
          exact .inr (.inr ⟨usbAction, usb, rfl, rfl⟩)
        · cases taken

theorem Tracks.step {action : Action} (tracks : program.Tracks)
    (taken : machine.step program action = some next) : next.Tracks := by
  rcases step_cases taken with
    ⟨fails, _, moves⟩ | ⟨_, kai, _, _, rfl⟩ | ⟨_, usb, _, rfl⟩
  · exact tracks.mainStep moves
  · exact (send_sameMain _ _).tracks tracks
  · exact tracks

/-- The calls of a step find the pointer exactly when `main` is between the
assignments. -/
theorem handedOver_found (tracks : program.Tracks)
    (found : program.AlwaysFound) {kaiAction : KaiLoop.Action} {kai : KaiLoop}
    (stepped : program.kai.step kaiAction = some kai) :
    ((handedOver program.kai kai).foldl send
        { program with kai := kai }).AlwaysFound ↔
      program.HandsOverBetween (.kai kaiAction) := by
  unfold AlwaysFound HandsOverBetween
  rw [sends_foldl]
  constructor
  · intro all other otherStepped hands
    cases stepped.symm.trans otherStepped
    apply tracks.mp
    apply all
    simp [hands]
  · intro between call member
    rcases List.mem_append.mp member with earlier | now
    · exact found call earlier
    · obtain ⟨some, rfl⟩ := List.mem_replicate.mp now
      apply tracks.mpr
      apply between kai stepped
      exact fun none => some (by simp [none])

theorem step_alwaysFound {action : Action} (tracks : program.Tracks)
    (found : program.AlwaysFound)
    (taken : machine.step program action = some next) :
    next.AlwaysFound ↔ program.HandsOverBetween action := by
  rcases step_cases taken with
    ⟨fails, rfl, moves⟩ | ⟨kaiAction, kai, rfl, stepped, rfl⟩ |
    ⟨usbAction, usb, rfl, rfl⟩
  · have same := mainStep_sends moves
    refine iff_of_true ?_ trivial
    unfold AlwaysFound
    rwa [same]
  · exact handedOver_found tracks found stepped
  · exact iff_of_true found trivial

end Step

/-- In every run `mUSBSendThread` is set at all calls of `USBReader::Send`
exactly when XLink data is handed over only while `main` is between the two
assignments. -/
theorem send_thread_exists_iff (connection : XLinkKaiConnection)
    (reader : USBReader) (mMaxBufferedMessages : Int)
    (actions : List Action) :
    machine.Always AlwaysFound (start connection reader mMaxBufferedMessages)
        actions ↔
      machine.Guarded HandsOverBetween
        (start connection reader mMaxBufferedMessages) actions := by
  refine machine.always_iff_guarded Tracks (fun _ => True) ?_ ?_ ?_ ?_
    (fun _ _ => trivial)
  · intro program action next tracks _found _ taken _kept
    exact tracks.step taken
  · intro program action next tracks found _ taken
    exact step_alwaysFound tracks found taken
  · simp [Tracks, BetweenAssignments, start]
  · exact fun _ member => absurd member List.not_mem_nil

/-! ## The windows -/

def dataReceived : List KaiLoop.Action :=
  .datagram (cEthernetDataString ++ [7]) KaiLoop.engine ::
    List.replicate 8 (.loop 0 false)

/-- XLink Kai confirms the connection, and sends a byte of data. -/
def dataArrives : List Action :=
  (KaiLoop.connecting ++ KaiLoop.confirmed ++ dataReceived).map .kai

def opened : XLinkKaiConnection :=
  { mIncomingConnection := true, mSocketOpen := true }

def mainSteps (count : Nat) : List Action :=
  List.replicate count (.main false)

def noDevice : USBReader :=
  { ReaderLoop.openedReader with mDeviceHandle := none }

/-- The stop is requested, the loop of the reader ends, and `Close` drops the
send thread. -/
def untilDropped : List Action :=
  mainSteps 7 ++ List.replicate 6 (.usb (.reader {})) ++ mainSteps 3

/-- Data comes before the second call of `StartReceiverThread`, after that call
failed, and while the program shuts down: each time without a send thread. -/
theorem send_thread_missing :
    ∃ starting failed closing,
      machine.run (start opened ReaderLoop.openedReader 50)
          (mainSteps 1 ++ dataArrives) = some starting ∧
        starting.main = .startUSB ∧ ¬ starting.AlwaysFound ∧
      machine.run (start opened noDevice 50) (mainSteps 4 ++ dataArrives) =
          some failed ∧
        failed.mEngineStatus = .error ∧ ¬ failed.AlwaysFound ∧
      machine.run (start opened ReaderLoop.openedReader 50)
          (untilDropped ++ dataArrives) = some closing ∧
        closing.main = .stopReceiveThread ∧ ¬ closing.AlwaysFound := by
  have starts : (machine.run (start opened ReaderLoop.openedReader 50)
      (mainSteps 1 ++ dataArrives)).any (fun program =>
        decide (program.main = .startUSB ∧ program.sends = [false])) =
          true := by
    decide +kernel
  have fails : (machine.run (start opened noDevice 50)
      (mainSteps 4 ++ dataArrives)).any (fun program =>
        decide (program.mEngineStatus = .error ∧ program.sends = [false])) =
          true := by
    decide +kernel
  have closes : (machine.run (start opened ReaderLoop.openedReader 50)
      (untilDropped ++ dataArrives)).any (fun program =>
        decide (program.main = .stopReceiveThread ∧
          program.sends = [false])) = true := by
    decide +kernel
  have missing {program : Program} (sends : program.sends = [false]) :
      ¬ program.AlwaysFound := by
    intro found
    cases found false (by simp [sends])
  obtain ⟨starting, starts, startOutcome⟩ :=
    (Option.any_eq_true _ _).mp starts
  obtain ⟨failed, fails, failOutcome⟩ := (Option.any_eq_true _ _).mp fails
  obtain ⟨closing, closes, closeOutcome⟩ :=
    (Option.any_eq_true _ _).mp closes
  obtain ⟨startMain, startSends⟩ := of_decide_eq_true startOutcome
  obtain ⟨failStatus, failSends⟩ := of_decide_eq_true failOutcome
  obtain ⟨closeMain, closeSends⟩ := of_decide_eq_true closeOutcome
  exact ⟨starting, failed, closing, starts, startMain, missing startSends,
    fails, failStatus, missing failSends, closes, closeMain,
    missing closeSends⟩

end Program

end CWUSB
