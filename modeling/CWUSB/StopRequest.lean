import CWUSB.ReaderLoop

/-!
# The stop request

`USBReader::Close` sets `mStopRequest` and waits for the thread to end.
`HandleClose` clears the flag again, in the stop branch but also while an
error is handled, and in the stop branch before the loop condition looks at
it.  A request is kept exactly when it is not set while an error is handled,
and when the stop branch finds no retries counted.
-/

namespace CWUSB

namespace ReaderLoop

/-- The thread is in the stop branch, or leaves the loop next. -/
def ending (state : ReaderLoop) : Bool :=
  match state.loop with
  | .closeDevice .stopBranch | .clearStop .stopBranch | .finished => true
  | .condition => !state.reader.continues
  | _ => false

/-- A request stays set until the stop branch is taken, and from then on the
thread only gives up the device and ends. -/
def StopKept (state : ReaderLoop) : Prop :=
  (state.stop = .requested → state.reader.mStopRequest = true) ∧
    (state.stop = .taken → state.ending = true)

instance (state : ReaderLoop) : Decidable state.StopKept :=
  inferInstanceAs (Decidable (_ ∧ _))

/-- `mStopRequest` is cleared only while no stop is requested, and in the
stop branch when no retries are counted. -/
def StopSafe (state : ReaderLoop) : Action → Prop
  | .reader _ =>
      (state.loop = .clearStop .stopBranch →
          state.reader.mRetryCounter ≤ 0) ∧
        (state.loop = .clearStop .errorReset ∨
            state.loop = .clearStop .bailOut →
          state.reader.mStopRequest = false)
  | .addToQueue _ | .sendThread | .receiveThread | .requestStop => True

instance (state : ReaderLoop) :
    (action : Action) → Decidable (state.StopSafe action)
  | .reader _ => inferInstanceAs (Decidable (_ ∧ _))
  | .addToQueue _ | .sendThread | .receiveThread | .requestStop =>
      inferInstanceAs (Decidable True)

/-! ## What the flag says -/

/-- The thread is in the stop branch. -/
def inStopBranch (state : ReaderLoop) : Bool :=
  match state.loop with
  | .closeDevice .stopBranch | .clearStop .stopBranch => true
  | _ => false

/-- `HandleClose` has given up the device and clears the flag next. -/
def clearing (state : ReaderLoop) : Bool :=
  match state.loop with
  | .clearStop _ => true
  | _ => false

structure Announced (state : ReaderLoop) : Prop where
  requested : state.reader.mStopRequest = true → state.stop ≠ .none
  inBranch : state.inStopBranch = true → state.stop = .taken
  closed : state.clearing = true → state.reader.mDeviceHandle = none

/-- How many steps of the reader's thread, once a stop is requested, may
follow until it ends. -/
def remaining (state : ReaderLoop) : Nat :=
  match state.loop with
  | .checkDevice => 16
  | .errorTest => 15
  | .closeDevice .errorReset | .closeDevice .bailOut => 14
  | .clearStop .errorReset | .clearStop .bailOut => 13
  | .openDevice => 12
  | .resetFlags => 11
  | .clearSendQueues => 10
  | .clearReceiveQueues | .resetRetries => 9
  | .read => 8
  | .sendTest | .sendWrite _ => 7
  | .sendLoop => 6
  | .condition => if state.reader.continues then 5 else 1
  | .stopTest => 4
  | .closeDevice .stopBranch => 3
  | .clearStop .stopBranch => 2
  | .finished => 0

theorem remaining_le (state : ReaderLoop) : state.remaining ≤ 16 := by
  unfold remaining
  split <;> try split
  all_goals decide

section Steps

variable {state next : ReaderLoop}

theorem StopKept.notTaken (kept : state.StopKept)
    (notEnding : state.ending = false) : state.stop ≠ .taken := by
  intro taken
  have ending := kept.2 taken
  simp [notEnding] at ending

/-- Before the end of the loop a requested stop is visible in the flag. -/
theorem StopKept.pending (kept : state.StopKept)
    (stopping : state.stop ≠ .none) (notEnding : state.ending = false) :
    state.reader.mStopRequest = true := by
  cases phase : state.stop with
  | none => exact absurd phase stopping
  | requested => exact kept.1 phase
  | taken => exact absurd phase (kept.notTaken notEnding)

/-- A step of the reader's thread which neither takes the stop branch nor
clears the flag. -/
structure Onward (state next : ReaderLoop) : Prop where
  request : next.reader.mStopRequest = state.reader.mStopRequest
  stop : next.stop = state.stop
  ends : state.ending = true → next.ending = true
  inBranch : next.inStopBranch = true → state.inStopBranch = true
  closed : next.clearing = true → next.reader.mDeviceHandle = none
  nearer : (state.ending = false → state.reader.mStopRequest = true) →
    next.remaining ≤ state.remaining - 1

theorem Onward.announced (onward : state.Onward next)
    (announced : state.Announced) : next.Announced where
  requested := by
    rw [onward.request, onward.stop]
    exact announced.requested
  inBranch := by
    rw [onward.stop]
    exact fun inBranch => announced.inBranch (onward.inBranch inBranch)
  closed := onward.closed

theorem Onward.kept (onward : state.Onward next) (kept : state.StopKept) :
    next.StopKept := by
  constructor
  · rw [onward.stop, onward.request]
    exact kept.1
  · rw [onward.stop]
    exact fun taken => onward.ends (kept.2 taken)

/-- A step from a point before the end of the loop to one outside of the stop
branch and of `HandleClose`. -/
theorem Onward.plain (notEnding : state.ending = false)
    (request : next.reader.mStopRequest = state.reader.mStopRequest)
    (stop : next.stop = state.stop) (notInBranch : next.inStopBranch = false)
    (notClearing : next.clearing = false)
    (nearer : state.reader.mStopRequest = true →
      next.remaining ≤ state.remaining - 1) : state.Onward next where
  request := request
  stop := stop
  ends := by simp [notEnding]
  inBranch := by simp [notInBranch]
  closed := by simp [notClearing]
  nearer := fun pending => nearer (pending notEnding)

theorem condition_remaining_le (enough : 6 ≤ state.remaining) :
    (state.goTo .condition).remaining ≤ state.remaining - 1 := by
  have small : (state.goTo .condition).remaining ≤ 5 := by
    by_cases continues : state.reader.continues = true <;>
      simp [remaining, goTo, continues]
  omega

theorem onward_readerStep (answers : UsbAnswers)
    (notClearing : state.clearing = false)
    (notTaken : state.loop = .stopTest →
      state.reader.mStopRequest = false) :
    state.Onward (state.readerStep answers) := by
  cases here : state.loop with
  | condition =>
      simp only [readerStep, here]
      by_cases continues : state.reader.continues = true
      · rw [if_pos continues]
        exact .plain (by simp [ending, here, continues]) rfl rfl rfl rfl
          (by simp [remaining, here, goTo, continues])
      · rw [if_neg continues]
        exact
          { request := rfl
            stop := rfl
            ends := fun _ => rfl
            inBranch := nofun
            closed := nofun
            nearer := fun _ => Nat.zero_le _ }
  | stopTest =>
      have noRequest := notTaken here
      simp only [readerStep, here, noRequest]
      exact .plain (by simp [ending, here]) rfl rfl rfl rfl
        (by simp [noRequest])
  | closeDevice site =>
      simp only [readerStep, here]
      exact
        { request := rfl
          stop := rfl
          ends := by
            cases site <;> simp [ending, here, goTo]
          inBranch := by
            cases site <;> simp [inStopBranch, here, goTo]
          closed := fun _ => rfl
          nearer := fun _ => by
            cases site <;> simp [remaining, here, goTo] }
  | clearStop site =>
      simp [clearing, here] at notClearing
  | checkDevice =>
      simp only [readerStep, here]
      exact .plain (by simp [ending, here])
        (state.checkDevice_undisturbed answers.hello).stopRequest
        (state.checkDevice_others answers.hello).2.2 rfl rfl
        (by simp [remaining, here, goTo])
  | errorTest =>
      simp only [readerStep, here, errorTest]
      split
      · exact .plain (by simp [ending, here]) rfl rfl rfl rfl
          (by simp [remaining, here, goTo])
      · split <;>
          exact .plain (by simp [ending, here]) rfl rfl rfl rfl
            (by simp [remaining, here, goTo])
  | openDevice =>
      simp only [readerStep, here]
      exact .plain (by simp [ending, here])
        (state.reader.undisturbed_openDevice answers.devices).stopRequest
        rfl rfl rfl (by simp [remaining, here, goTo])
  | resetFlags =>
      simp only [readerStep, here]
      exact .plain (by simp [ending, here]) rfl rfl rfl rfl
        (by simp [remaining, here, goTo])
  | clearSendQueues =>
      simp only [readerStep, here]
      exact .plain (by simp [ending, here]) rfl rfl rfl rfl
        (by simp [remaining, here])
  | clearReceiveQueues =>
      simp only [readerStep, here]
      exact .plain (by simp [ending, here]) rfl rfl rfl rfl
        (by simp [remaining, here])
  | resetRetries =>
      simp only [readerStep, here]
      exact .plain (by simp [ending, here]) rfl rfl rfl rfl
        (by simp [remaining, here, goTo])
  | read =>
      simp only [readerStep, here]
      exact .plain (by simp [ending, here])
        (state.read_undisturbed answers.read).stopRequest
        (state.read_others answers.read).2 rfl rfl
        (by simp [remaining, here, goTo])
  | sendTest =>
      simp only [readerStep, here]
      split
      · exact .plain (by simp [ending, here]) rfl rfl rfl rfl
          (fun _ => condition_remaining_le (by simp [remaining, here]))
      · exact .plain (by simp [ending, here]) rfl rfl rfl rfl
          (by simp [remaining, here, goTo])
  | sendLoop =>
      simp only [readerStep, here, sendHead]
      split
      · next outgoing =>
          exact .plain (by simp [ending, here]) rfl rfl rfl rfl
            (fun requested => by simp [requested] at outgoing)
      · exact .plain (by simp [ending, here]) rfl rfl rfl rfl
          (fun _ => condition_remaining_le (by simp [remaining, here]))
  | sendWrite lFormattedPacket =>
      simp only [readerStep, here]
      exact .plain (by simp [ending, here])
        (state.sendWrite_undisturbed lFormattedPacket
          answers.write).stopRequest
        rfl rfl rfl (by simp [remaining, here, goTo])
  | finished =>
      simp only [readerStep, here]
      exact
        { request := rfl
          stop := rfl
          ends := id
          inBranch := id
          closed := by simp [notClearing]
          nearer := fun _ => by simp [remaining, here] }

/-- The three kinds of steps of the reader's thread. -/
theorem readerStep_cases (state : ReaderLoop) (answers : UsbAnswers) :
    (∃ site, state.loop = .clearStop site ∧
        state.readerStep answers =
          (state.setReader state.reader.clearStopRequest).goTo
            (afterClose site)) ∨
      (state.loop = .stopTest ∧ state.reader.mStopRequest = true ∧
        state.readerStep answers =
          { state with
            stop := .taken
            loop := .closeDevice .stopBranch }) ∨
      (state.clearing = false ∧ state.Onward (state.readerStep answers)) := by
  cases clears : state.clearing with
  | true =>
      left
      unfold clearing at clears
      split at clears
      · next site here => exact ⟨site, here, by simp only [readerStep, here]⟩
      · cases clears
  | false =>
      right
      by_cases takes : state.loop = .stopTest ∧
          state.reader.mStopRequest = true
      · left
        refine ⟨takes.1, takes.2, ?_⟩
        simp [readerStep, takes.1, takes.2]
      · right
        refine ⟨rfl, onward_readerStep answers clears ?_⟩
        intro here
        simpa [here] using takes

/-! ## Clearing the flag -/

theorem clearStop_announced (site : CloseSite) :
    ((state.setReader state.reader.clearStopRequest).goTo
      (afterClose site)).Announced := by
  cases site <;> exact ⟨nofun, nofun, nofun⟩

/-- The stop branch leads out of the loop exactly when no retries are
counted. -/
theorem ending_stopBranch (closed : state.reader.mDeviceHandle = none) :
    ((state.setReader state.reader.clearStopRequest).goTo
        .condition).ending = true ↔ state.reader.mRetryCounter ≤ 0 := by
  simp [ending, setReader, goTo, USBReader.continues,
    USBReader.clearStopRequest, closed]

/-- Any other call of `HandleClose` loses a requested stop. -/
theorem clearStop_lost_iff (point : ReaderPoint)
    (announced : state.Announced) (kept : state.StopKept)
    (notEnding : state.ending = false) :
    ((state.setReader state.reader.clearStopRequest).goTo point).StopKept ↔
      state.reader.mStopRequest = false := by
  constructor
  · intro keptAfter
    apply Bool.eq_false_iff.mpr
    intro pending
    have lost := keptAfter.1
    cases phase : state.stop with
    | none => exact announced.requested pending phase
    | requested => cases lost phase
    | taken => exact kept.notTaken notEnding phase
  · intro noRequest
    constructor
    · intro requested
      simp [kept.1 requested] at noRequest
    · exact fun taken => absurd taken (kept.notTaken notEnding)

theorem clearStop_kept_iff {site : CloseSite} {answers : UsbAnswers}
    (announced : state.Announced) (kept : state.StopKept)
    (here : state.loop = .clearStop site) :
    ((state.setReader state.reader.clearStopRequest).goTo
        (afterClose site)).StopKept ↔ state.StopSafe (.reader answers) := by
  cases site with
  | stopBranch =>
      have closed := announced.closed (by simp [clearing, here])
      have taken := announced.inBranch (by simp [inStopBranch, here])
      have ending := ending_stopBranch closed
      simp only [StopKept, StopSafe, here, afterClose]
      simpa [goTo, setReader, taken] using ending
  | errorReset =>
      have lost := clearStop_lost_iff (afterClose .errorReset)
        announced kept (by simp [ending, here])
      simpa [StopSafe, here] using lost
  | bailOut =>
      have lost := clearStop_lost_iff (afterClose .bailOut)
        announced kept (by simp [ending, here])
      simpa [StopSafe, here] using lost

/-! ## Every step -/

theorem stopSafe_of_notClearing {answers : UsbAnswers}
    (notClearing : state.clearing = false) :
    state.StopSafe (.reader answers) := by
  constructor
  · intro here
    simp [clearing, here] at notClearing
  · rintro (here | here) <;> simp [clearing, here] at notClearing

theorem kept_step_iff {action : Action} (announced : state.Announced)
    (kept : state.StopKept) (taken : state.step action = some next) :
    next.StopKept ↔ state.StopSafe action := by
  cases action with
  | reader answers =>
      cases taken
      rcases state.readerStep_cases answers with
        ⟨site, here, clears⟩ | ⟨here, requested, takes⟩ |
        ⟨notClearing, onward⟩
      · rw [clears]
        exact clearStop_kept_iff announced kept here
      · rw [takes]
        exact iff_of_true ⟨nofun, fun _ => rfl⟩
          (stopSafe_of_notClearing (by simp [clearing, here]))
      · exact iff_of_true (onward.kept kept)
          (stopSafe_of_notClearing notClearing)
  | addToQueue aData =>
      cases taken
      exact iff_of_true ⟨kept.1, kept.2⟩ trivial
  | sendThread =>
      cases taken
      exact iff_of_true ⟨kept.1, kept.2⟩ trivial
  | receiveThread =>
      cases taken
      exact iff_of_true ⟨kept.1, kept.2⟩ trivial
  | requestStop =>
      simp only [step] at taken
      split at taken
      · cases taken
        exact iff_of_true ⟨fun _ => rfl, nofun⟩ trivial
      · cases taken

theorem Announced.step {action : Action} (announced : state.Announced)
    (taken : state.step action = some next) : next.Announced := by
  cases action with
  | reader answers =>
      cases taken
      rcases state.readerStep_cases answers with
        ⟨site, here, clears⟩ | ⟨here, requested, takes⟩ |
        ⟨notClearing, onward⟩
      · rw [clears]
        exact clearStop_announced site
      · rw [takes]
        exact ⟨nofun, fun _ => rfl, nofun⟩
      · exact onward.announced announced
  | addToQueue aData =>
      cases taken
      exact { announced with }
  | sendThread =>
      cases taken
      exact { announced with }
  | receiveThread =>
      cases taken
      exact { announced with }
  | requestStop =>
      simp only [ReaderLoop.step] at taken
      split at taken
      · next notRequested =>
          cases taken
          exact
            { requested := nofun
              inBranch := by
                intro inBranch
                have stop := announced.inBranch inBranch
                simp [notRequested] at stop
              closed := announced.closed }
      · cases taken

/-! ## The end of the thread -/

/-- Once a stop is requested, a step which keeps it brings the end of the
thread nearer. -/
theorem remaining_readerStep {answers : UsbAnswers}
    (announced : state.Announced) (kept : state.StopKept)
    (stopping : state.stop ≠ .none)
    (safe : state.StopSafe (.reader answers)) :
    (state.readerStep answers).remaining ≤ state.remaining - 1 := by
  rcases state.readerStep_cases answers with
    ⟨site, here, clears⟩ | ⟨here, requested, takes⟩ | ⟨_, onward⟩
  · cases site with
    | stopBranch =>
        have closed := announced.closed (by simp [clearing, here])
        have ended := (ending_stopBranch closed).mpr (safe.1 here)
        have leaves : (state.reader.clearStopRequest).continues = false := by
          simpa [ending, goTo, setReader] using ended
        rw [clears]
        simp [remaining, here, goTo, setReader, afterClose, leaves]
    | errorReset =>
        have pending := kept.pending stopping (by simp [ending, here])
        simp [safe.2 (.inl here)] at pending
    | bailOut =>
        have pending := kept.pending stopping (by simp [ending, here])
        simp [safe.2 (.inr here)] at pending
  · rw [takes]
    simp [remaining, here]
  · exact onward.nearer (kept.pending stopping)

theorem stopping_step {action : Action} (stopping : state.stop ≠ .none)
    (taken : state.step action = some next) : next.stop ≠ .none := by
  cases action with
  | reader answers =>
      cases taken
      rcases state.readerStep_cases answers with
        ⟨site, here, clears⟩ | ⟨here, requested, takes⟩ | ⟨_, onward⟩
      · rw [clears]
        exact stopping
      · rw [takes]
        nofun
      · rw [onward.stop]
        exact stopping
  | addToQueue aData => cases taken; exact stopping
  | sendThread => cases taken; exact stopping
  | receiveThread => cases taken; exact stopping
  | requestStop => simp [step, stopping] at taken

def isReader : Action → Bool
  | .reader _ => true
  | .addToQueue _ | .sendThread | .receiveThread | .requestStop => false

/-- A stop is on its way and the thread ends within some more steps. -/
structure Stopping (within : Nat) (state : ReaderLoop) : Prop where
  announced : state.Announced
  kept : state.StopKept
  stopping : state.stop ≠ .none
  nearer : state.remaining ≤ within

theorem Stopping.step {within : Nat} {action : Action}
    (stopping : Stopping within state) (safe : state.StopSafe action)
    (taken : state.step action = some next) :
    Stopping (within - if isReader action then 1 else 0) next where
  announced := stopping.announced.step taken
  kept := (kept_step_iff stopping.announced stopping.kept taken).mpr safe
  stopping := stopping_step stopping.stopping taken
  nearer := by
    have nearer := stopping.nearer
    cases action with
    | reader answers =>
        cases taken
        have shorter := remaining_readerStep stopping.announced
          stopping.kept stopping.stopping safe
        simp only [isReader, if_true]
        omega
    | addToQueue aData => cases taken; exact nearer
    | sendThread => cases taken; exact nearer
    | receiveThread => cases taken; exact nearer
    | requestStop => simp [ReaderLoop.step, stopping.stopping] at taken

theorem Stopping.finished (stopping : Stopping 0 state) :
    state.loop = .finished := by
  have nothing := stopping.nearer
  unfold remaining at nothing
  split at nothing <;> try split at nothing
  all_goals first | assumption | simp at nothing

end Steps

theorem Stopping.run {within : Nat} {state finish : ReaderLoop}
    {actions : List Action} (stopping : Stopping within state)
    (safe : machine.Guarded StopSafe state actions)
    (reached : machine.run state actions = some finish) :
    Stopping (within - actions.countP isReader) finish := by
  have counted :=
    machine.run_traced
      (fun past state => Stopping (within - past.countP isReader) state)
      (by
        intro past state action next stopping safe taken
        have after := stopping.step safe taken
        rwa [List.countP_append, List.countP_singleton, ← Nat.sub_sub])
      stopping safe reached
  simpa using counted

/-- A stop is never lost in a run: a request stays set until the stop branch
is taken, the device is not opened behind the stop branch, and the thread,
if it makes sixteen steps after the request, ends. -/
structure StopNeverLost (start : ReaderLoop) (actions : List Action) :
    Prop where
  kept : machine.Always StopKept start actions
  ends : ∀ before after requested finish, actions = before ++ after →
    machine.run start before = some requested → requested.stop ≠ .none →
      machine.run requested after = some finish →
        16 ≤ after.countP isReader → finish.loop = .finished

theorem announced_start {reader : USBReader} (mMaxBufferedMessages : Int)
    (noRequest : reader.mStopRequest = false) :
    (start reader mMaxBufferedMessages).Announced where
  requested := by simp [start, noRequest]
  inBranch := nofun
  closed := nofun

/-- No stop is lost in exactly the runs which clear `mStopRequest` safely. -/
theorem stopNeverLost_iff {reader : USBReader} {mMaxBufferedMessages : Int}
    {actions : List Action} (noRequest : reader.mStopRequest = false) :
    StopNeverLost (start reader mMaxBufferedMessages) actions ↔
      machine.Guarded StopSafe (start reader mMaxBufferedMessages)
        actions := by
  have announced := announced_start mMaxBufferedMessages noRequest
  have unrequested : (start reader mMaxBufferedMessages).StopKept :=
    ⟨nofun, nofun⟩
  have exactly (actions : List Action) :
      machine.Always StopKept (start reader mMaxBufferedMessages) actions ↔
        machine.Guarded StopSafe (start reader mMaxBufferedMessages)
          actions :=
    machine.always_iff_guarded Announced (fun _ => True)
      (fun _ _ _ announced _ _ taken _ => announced.step taken)
      (fun _ _ _ announced kept _ taken => kept_step_iff announced kept taken)
      announced unrequested (fun _ _ => trivial)
  constructor
  · exact fun neverLost => (exactly actions).mp neverLost.kept
  · intro safe
    refine ⟨(exactly actions).mpr safe, ?_⟩
    rintro before after requested finish rfl reached stopping rest many
    have announced : requested.Announced :=
      machine.run_invariant Announced
        (fun _ _ _ announced taken => announced.step taken)
        announced reached
    have kept := ((exactly before).mpr safe.earlier).final reached
    have stops : Stopping 16 requested :=
      ⟨announced, kept, stopping, requested.remaining_le⟩
    have ended := stops.run (safe.later reached) rest
    rw [Nat.sub_eq_zero_of_le many] at ended
    exact ended.finished

/-- The stop is requested while the thread waits for data. -/
def stopWhileReading : List Action :=
  List.replicate 4 (.reader {}) ++ .requestStop ::
    List.replicate 16 (.reader {})

theorem stopNeverLost_whileReading :
    StopNeverLost (start openedReader 100) stopWhileReading :=
  (stopNeverLost_iff rfl).mpr (by decide +kernel)

/-- A device which is found again after a reset. -/
def psp : DeviceAnswers :=
  { descriptorResult := 0
    idVendor := cPSPVID
    idProduct := cPSPPID
    openResult := 0
    handle := 1
    setConfigurationResult := 0
    claimInterfaceResult := 0 }

/-- The hello fails, and the stop is requested while `HandleError` closes the
device. -/
def stopDuringReset : List Action :=
  List.replicate 4
      (.reader
        { hello := { lError := LIBUSB_ERROR_TIMEOUT, transferred := 0 } }) ++
    .requestStop ::
      List.replicate 40 (.reader { devices := .listed [psp] })

/-- The request is forgotten, and the thread goes on with the device opened
again. -/
theorem stop_lost_duringReset :
    ¬StopNeverLost (start openedReader 100) stopDuringReset ∧
      ∃ finish,
        machine.run (start openedReader 100) stopDuringReset = some finish ∧
          finish.stop = .requested ∧
          finish.reader.mStopRequest = false ∧
          finish.reader.mDeviceHandle = some 1 ∧
          finish.loop ≠ .finished := by
  have runs : (machine.run (start openedReader 100) stopDuringReset).any
      (fun finish => decide (finish.stop = .requested ∧
        finish.reader.mStopRequest = false ∧
        finish.reader.mDeviceHandle = some 1 ∧
        finish.loop ≠ .finished)) = true := by
    decide +kernel
  obtain ⟨finish, reached, outcome⟩ := (Option.any_eq_true _ _).mp runs
  have outcome := of_decide_eq_true outcome
  refine ⟨?_, finish, reached, outcome⟩
  intro neverLost
  have kept := (neverLost.kept.final reached).1 outcome.1
  simp [outcome.2.1] at kept

end ReaderLoop

end CWUSB
