import CWUSB.RetryCounters

/-!
# The retry budget

`HandleError` is guarded by two reasons and one counter: an error is followed
by a reset only within `mMaxFatalRetries`, a failed hello always.  The counter
is the number of calls of `HandleError` since the last progress, and it stays
within the budget exactly as long as no hello fails once the budget is used up.
-/

namespace CWUSB

/-- The calls of `HandleError` since the last successful read or bail-out, one
event later. -/
def countHandleError (calls : Nat) : ReaderEvent → Nat
  | .handleError => calls + 1
  | .bailOut => 0
  | .read _ lLength => if lLength > 0 then 0 else calls
  | _ => calls

def handleErrorCalls (events : List ReaderEvent) : Nat :=
  events.foldl countHandleError 0

theorem handleErrorCalls_append (events more : List ReaderEvent) :
    handleErrorCalls (events ++ more) =
      more.foldl countHandleError (handleErrorCalls events) :=
  List.foldl_append

theorem foldl_countHandleError {more : List ReaderEvent}
    (neutral : ∀ event ∈ more, ∀ calls, countHandleError calls event = calls)
    (calls : Nat) : more.foldl countHandleError calls = calls := by
  induction more with
  | nil => rfl
  | cons event more induction =>
      rw [List.foldl_cons, neutral event (by simp)]
      exact induction fun other member =>
        neutral other (List.mem_cons_of_mem _ member)

namespace ReaderLoop

/-- Neither the counter nor the calls it counts exceed the budget. -/
structure WithinBudget (state : ReaderLoop) : Prop where
  counter : state.reader.mRetryCounter ≤ state.reader.mMaxFatalRetries
  calls :
    (handleErrorCalls state.events : Int) ≤ state.reader.mMaxFatalRetries

/-- The check of the device does not fail once the budget is used up. -/
def HelloWithinBudget (state : ReaderLoop) : Action → Prop
  | .reader _ =>
      state.loop = .errorTest → state.reader.mUSBCheckSuccessful = false →
        state.reader.mRetryCounter < state.reader.mMaxFatalRetries
  | _ => True

/-- The assignment to `mRetryCounter` which is still to come: of a call of
`HandleError`, or of the loop bailing out. -/
inductive PendingCount where
  | none
  | reset
  | bailOut
deriving DecidableEq

def pendingCount : ReaderPoint → PendingCount
  | .closeDevice .errorReset | .clearStop .errorReset | .openDevice
  | .resetFlags => .reset
  | .closeDevice .bailOut | .clearStop .bailOut | .resetRetries => .bailOut
  | _ => .none

/-- The counter after the assignment which is still to come. -/
def PendingCount.applied (mRetryCounter : Int) : PendingCount → Int
  | .none => mRetryCounter
  | .reset => mRetryCounter + 1
  | .bailOut => 0

/-- `mRetryCounter` is the number of calls, up to that assignment. -/
def Counted (state : ReaderLoop) : Prop :=
  (handleErrorCalls state.events : Int) =
    (pendingCount state.loop).applied state.reader.mRetryCounter

section Step

variable {state next : ReaderLoop}

/-- Only the test and a read change the count. -/
theorem readerEvents_neutral {answers : UsbAnswers}
    (notTesting : state.loop ≠ .errorTest) (notReading : state.loop ≠ .read) :
    ∀ event ∈ state.readerEvents answers,
      ∀ calls, countHandleError calls event = calls := by
  intro event member
  have records := state.readerEvents_records answers event member
  cases here : state.loop with
  | errorTest => exact absurd here notTesting
  | read => exact absurd here notReading
  | _ =>
      rw [here] at records
      cases records <;> exact fun _ => rfl

theorem readEvents_handleErrorCalls (transfer : USBReader.ReadTransfer)
    (calls : Nat) :
    (state.readEvents transfer).foldl countHandleError calls =
      if !state.reader.mSendStitching &&
          decide ((state.reader.usbBulkRead transfer).1 > 0) then 0
      else calls := by
  unfold readEvents
  cases state.reader.mSendStitching with
  | true => rfl
  | false =>
      simp only [Bool.false_eq_true, if_false, List.foldl_cons,
        Bool.not_false, Bool.true_and, decide_eq_true_eq]
      rw [foldl_countHandleError]
      · rfl
      · intro event member
        split at member
        · obtain ⟨handle, _, rfl⟩ := List.mem_map.mp member
          exact fun _ => rfl
        · simp at member

/-- The calls are counted at the test and forgotten at a read which brings
data. -/
theorem readerStep_handleErrorCalls (answers : UsbAnswers) :
    handleErrorCalls (state.readerStep answers).events =
      if state.loop = .errorTest ∧ state.reader.needsReset then
        handleErrorCalls state.events + 1
      else if state.loop = .errorTest ∧
          state.reader.mRetryCounter ≥ state.reader.mMaxFatalRetries then 0
      else if state.receives answers then 0
      else handleErrorCalls state.events := by
  rw [readerStep_events, handleErrorCalls_append]
  by_cases testing : state.loop = .errorTest
  · simp only [readerEvents, receives, testing, true_and, reduceCtorEq,
      decide_false, Bool.false_and, Bool.false_eq_true, if_false]
    split
    · rfl
    · split <;> rfl
  · by_cases reading : state.loop = .read
    · simp only [readerEvents, receives, reading, reduceCtorEq, false_and,
        if_false, decide_true, Bool.true_and, readEvents_handleErrorCalls]
    · rw [foldl_countHandleError (readerEvents_neutral testing reading)]
      simp [receives, testing, reading]

theorem readerStep_pendingCount (answers : UsbAnswers) :
    pendingCount (state.readerStep answers).loop =
      if state.loop = .errorTest ∧ state.reader.needsReset then .reset
      else if state.loop = .errorTest ∧
          state.reader.mRetryCounter ≥ state.reader.mMaxFatalRetries then
        .bailOut
      else if state.loop = .resetFlags ∨ state.loop = .resetRetries then .none
      else pendingCount state.loop := by
  unfold readerStep
  cases here : state.loop with
  | condition =>
      dsimp only [goTo]
      split <;> rfl
  | stopTest =>
      dsimp only
      split <;> rfl
  | closeDevice site => cases site <;> rfl
  | clearStop site => cases site <;> rfl
  | errorTest =>
      simp only [errorTest, true_and]
      split
      · rfl
      · split <;> rfl
  | sendTest =>
      dsimp only [goTo]
      split <;> rfl
  | sendLoop =>
      dsimp only [sendHead]
      split <;> rfl
  | finished =>
      rw [here]
      rfl
  | _ => rfl

theorem Counted.readerStep (counted : state.Counted) (answers : UsbAnswers) :
    (state.readerStep answers).Counted := by
  unfold Counted at counted ⊢
  rw [readerStep_handleErrorCalls, readerStep_mRetryCounter,
    readerStep_pendingCount]
  by_cases test : state.loop = .errorTest
  · have noRead : state.receives answers = false := by
      simp [receives, test]
    simp only [test, true_and, reduceCtorEq, false_or, if_false, noRead,
      Bool.false_eq_true] at counted ⊢
    split
    · rw [Int.natCast_succ, counted]
      rfl
    · split
      · rfl
      · exact counted
  · simp only [test, false_and, if_false]
    by_cases flags : state.loop = .resetFlags
    · have noRead : state.receives answers = false := by
        simp [receives, flags]
      simp only [flags, noRead, if_true, true_or, Bool.false_eq_true,
        if_false] at counted ⊢
      exact counted
    · by_cases retries : state.loop = .resetRetries
      · have noRead : state.receives answers = false := by
          simp [receives, retries]
        simp only [retries, noRead, reduceCtorEq, if_true, or_true,
          Bool.false_eq_true, if_false] at counted ⊢
        exact counted
      · simp only [flags, retries, or_self, if_false]
        split
        · next received =>
            have reading : state.loop = .read := by
              simp only [receives, Bool.and_eq_true,
                decide_eq_true_eq] at received
              exact received.1.1
            rw [reading]
            rfl
        · exact counted

theorem Counted.step {action : Action} (counted : state.Counted)
    (taken : machine.step state action = some next) : next.Counted := by
  rcases step_cases taken with ⟨answers, _, rfl⟩ | ⟨_, elsewhere⟩
  · exact counted.readerStep answers
  · obtain ⟨payloads, events⟩ := elsewhere.events
    unfold Counted at counted ⊢
    rw [events, handleErrorCalls_append, foldl_countHandleError,
      elsewhere.loop, elsewhere.reader]
    · exact counted
    · intro event member
      obtain ⟨payload, _, rfl⟩ := List.mem_map.mp member
      exact fun _ => rfl

/-- A reader step keeps the counter within the budget by itself, and the calls
exactly when no hello fails beyond it. -/
theorem readerStep_withinBudget (counted : state.Counted)
    (within : state.WithinBudget) (answers : UsbAnswers) :
    (state.readerStep answers).WithinBudget ↔
      state.HelloWithinBudget (.reader answers) := by
  have limit := (state.readerStep_limits answers).1
  have nonnegative : 0 ≤ state.reader.mMaxFatalRetries := by
    have calls := within.calls
    omega
  have counter : (state.readerStep answers).reader.mRetryCounter ≤
      state.reader.mMaxFatalRetries := by
    rw [readerStep_mRetryCounter]
    split
    · next flags =>
        have calls := within.calls
        rw [counted, flags] at calls
        exact calls
    · split
      · exact nonnegative
      · split
        · exact nonnegative
        · exact within.counter
  have calls :
      (handleErrorCalls (state.readerStep answers).events : Int) ≤
          state.reader.mMaxFatalRetries ↔
        state.HelloWithinBudget (.reader answers) := by
    rw [readerStep_handleErrorCalls]
    unfold HelloWithinBudget
    by_cases test : state.loop = .errorTest
    · have current : (handleErrorCalls state.events : Int) =
          state.reader.mRetryCounter := by
        rw [counted, test]
        rfl
      have noRead : state.receives answers = false := by
        simp [receives, test]
      simp only [test, true_and, true_implies, USBReader.needsReset,
        Bool.or_eq_true, Bool.and_eq_true, decide_eq_true_eq,
        Bool.not_eq_true', noRead, Bool.false_eq_true, if_false]
      by_cases unchecked : state.reader.mUSBCheckSuccessful = false
      · rw [if_pos (.inr unchecked)]
        simp only [unchecked, true_implies]
        omega
      · refine iff_of_true ?_ fun failed => absurd failed unchecked
        split
        · next reason =>
            have below := (reason.resolve_right unchecked).2
            omega
        · split
          · exact nonnegative
          · exact within.calls
    · simp only [test, false_and, if_false, false_implies, iff_true]
      split
      · exact nonnegative
      · exact within.calls
  constructor
  · intro both
    apply calls.mp
    rw [← limit]
    exact both.calls
  · intro guard
    exact ⟨by rw [limit]; exact counter, by rw [limit]; exact calls.mpr guard⟩

theorem step_withinBudget {action : Action} (counted : state.Counted)
    (within : state.WithinBudget)
    (taken : machine.step state action = some next) :
    next.WithinBudget ↔ state.HelloWithinBudget action := by
  rcases step_cases taken with ⟨answers, rfl, rfl⟩ | ⟨other, elsewhere⟩
  · exact readerStep_withinBudget counted within answers
  · obtain ⟨payloads, events⟩ := elsewhere.events
    have allowed : state.HelloWithinBudget action := by
      cases action with
      | reader answers => exact absurd rfl (other answers)
      | _ => trivial
    refine iff_of_true ⟨?_, ?_⟩ allowed
    · rw [elsewhere.reader]
      exact within.counter
    · rw [events, handleErrorCalls_append, foldl_countHandleError,
        elsewhere.reader]
      · exact within.calls
      · intro event member
        obtain ⟨payload, _, rfl⟩ := List.mem_map.mp member
        exact fun _ => rfl

end Step

/-- The budget is kept all along a run exactly when no hello fails once it is
used up. -/
theorem retry_budget_iff {reader : USBReader}
    (budget : 1 ≤ reader.mMaxFatalRetries)
    (unused : reader.mRetryCounter = 0) (mMaxBufferedMessages : Int)
    (actions : List Action) :
    machine.Always WithinBudget (start reader mMaxBufferedMessages) actions ↔
      machine.Guarded HelloWithinBudget (start reader mMaxBufferedMessages)
        actions := by
  refine machine.always_iff_guarded Counted (fun _ => True)
    (fun _ _ _ counted _ _ taken _ => counted.step taken)
    (fun _ _ _ counted within _ taken => step_withinBudget counted within taken)
    ?_ ?_ (fun _ _ => trivial)
  · exact unused.symm
  · constructor
    · simp only [start, unused]
      omega
    · simp only [start, handleErrorCalls, List.foldl_nil]
      omega

/-- A reset takes thirteen steps when the hello fails and nothing is read. -/
def failedHellos (count : Nat) : List Action :=
  List.replicate (13 * count) (.reader helloFails)

theorem retry_budget_iff_openedReader :
    machine.Always WithinBudget (start openedReader 50) (failedHellos 5) ↔
      machine.Guarded HelloWithinBudget (start openedReader 50)
        (failedHellos 5) :=
  retry_budget_iff (by decide) rfl 50 _

/-- With five retries allowed, six hellos fail in a row. -/
theorem retry_budget_exceeded :
    ∃ finish,
      machine.run (start openedReader 50) (failedHellos 6) = some finish ∧
        finish.reader.mMaxFatalRetries = 5 ∧
        finish.reader.mRetryCounter = 6 ∧
        handleErrorCalls finish.events = 6 ∧ ¬ finish.WithinBudget := by
  have exceeds : (machine.run (start openedReader 50) (failedHellos 6)).any
      (fun finish => decide (finish.reader.mMaxFatalRetries = 5 ∧
        finish.reader.mRetryCounter = 6 ∧
        handleErrorCalls finish.events = 6)) = true := by
    decide +kernel
  obtain ⟨finish, reached, outcome⟩ := (Option.any_eq_true _ _).mp exceeds
  obtain ⟨limit, counter, calls⟩ := of_decide_eq_true outcome
  refine ⟨finish, reached, limit, counter, calls, fun within => ?_⟩
  have bounded := within.counter
  rw [limit, counter] at bounded
  omega

/-! ## Bailing out -/

/-- The loop has just decided to bail out only when an error was set. -/
def BailsOutOnError (state : ReaderLoop) : Prop :=
  state.loop = .closeDevice .bailOut → state.reader.mError = true

/-- The device passes its check: it was greeted before, or answers now. -/
def passesCheck (state : ReaderLoop) (answers : UsbAnswers) : Bool :=
  state.reader.mUSBCheckSuccessful || state.reader.usbCheckDevice answers.hello

/-- A device which passes its check without an error does so with some of the
budget left. -/
def RecoversWithinBudget (state : ReaderLoop) : Action → Prop
  | .reader answers =>
      state.loop = .checkDevice → state.passesCheck answers = true →
        state.reader.mError = false →
          state.reader.mRetryCounter < state.reader.mMaxFatalRetries
  | _ => True

instance (state : ReaderLoop) :
    (action : Action) → Decidable (state.RecoversWithinBudget action)
  | .reader _ => inferInstanceAs (Decidable (_ → _ → _ → _))
  | .addToQueue _ | .sendThread | .receiveThread | .requestStop =>
      inferInstanceAs (Decidable True)

/-- What the check leaves for the test behind it. -/
structure Judged (state : ReaderLoop) : Prop where
  tested : state.loop = .errorTest →
    state.reader.mUSBCheckSuccessful = true → state.reader.mError = false →
      state.reader.mRetryCounter < state.reader.mMaxFatalRetries
  bailsOut : state.BailsOutOnError

section BailOut

variable {state next : ReaderLoop}

theorem checkDevice_fields (hello : USBReader.WriteTransfer) :
    (state.checkDevice hello).reader =
      { state.reader with
        mUSBCheckSuccessful :=
          state.reader.mUSBCheckSuccessful ||
            state.reader.usbCheckDevice hello } := by
  unfold checkDevice
  obtain ⟨reader, _, _, _, _, _⟩ := state
  cases checked : reader.mUSBCheckSuccessful with
  | true =>
      simp only [if_true, Bool.true_or]
      rw [← checked]
  | false => simp [record, setReader]

theorem errorTest_reader : state.errorTest.reader = state.reader := by
  unfold errorTest
  split
  · rfl
  · split <;> rfl

/-- The test bails out when the budget is used up and the device passed. -/
theorem errorTest_bailOut :
    state.errorTest.loop = .closeDevice .bailOut ↔
      state.reader.needsReset = false ∧
        state.reader.mMaxFatalRetries ≤ state.reader.mRetryCounter := by
  unfold errorTest
  cases state.reader.needsReset with
  | true => simp [goTo]
  | false =>
      simp only [Bool.false_eq_true, if_false, true_and]
      split
      · next exhausted => simpa [goTo] using exhausted
      · next left => simpa [goTo] using left

theorem Judged.readerStep (judged : state.Judged) {answers : UsbAnswers}
    (guard : state.RecoversWithinBudget (.reader answers)) :
    (state.readerStep answers).Judged := by
  have leads := state.readerStep_leadsTo answers
  constructor
  · intro there
    rw [there] at leads
    have here := leads.to_errorTest
    simp only [ReaderLoop.readerStep, here, goTo, checkDevice_fields]
    exact guard here
  · intro there
    have here : state.loop = .errorTest := by
      rw [there] at leads
      exact leads.to_bailOut
    have stepped : state.readerStep answers = state.errorTest := by
      simp only [ReaderLoop.readerStep, here]
    rw [stepped] at there ⊢
    obtain ⟨noReset, exhausted⟩ := errorTest_bailOut.mp there
    have checked : state.reader.mUSBCheckSuccessful = true := by
      cases unchecked : state.reader.mUSBCheckSuccessful with
      | true => rfl
      | false => simp [USBReader.needsReset, unchecked] at noReset
    rw [errorTest_reader]
    by_contra noError
    have left := judged.tested here checked (by simpa using noError)
    omega

theorem Judged.step {action : Action} (judged : state.Judged)
    (guard : state.RecoversWithinBudget action)
    (taken : machine.step state action = some next) : next.Judged := by
  rcases step_cases taken with ⟨answers, rfl, rfl⟩ | ⟨_, elsewhere⟩
  · exact judged.readerStep guard
  · constructor
    · rw [elsewhere.loop, elsewhere.reader]
      exact judged.tested
    · unfold BailsOutOnError
      rw [elsewhere.loop, elsewhere.reader]
      exact judged.bailsOut

/-- A check passed without an error and with the budget used up makes the next
step bail out. -/
theorem bailOut_of_quietRecovery {answers : UsbAnswers} (later : UsbAnswers)
    (unmet : ¬ state.RecoversWithinBudget (.reader answers)) :
    ¬ ((state.readerStep answers).readerStep later).BailsOutOnError := by
  simp only [RecoversWithinBudget, Classical.not_imp, Int.not_lt] at unmet
  obtain ⟨here, passed, noError, exhausted⟩ := unmet
  have checked : (state.readerStep answers).reader =
      { state.reader with mUSBCheckSuccessful := true } := by
    simp only [readerStep, here, goTo, checkDevice_fields]
    rw [passesCheck] at passed
    rw [passed]
  have atTest : (state.readerStep answers).loop = .errorTest := by
    simp only [readerStep, here, goTo]
  have stepped : (state.readerStep answers).readerStep later =
      (state.readerStep answers).errorTest := by
    rw [readerStep, atTest]
  intro onError
  rw [stepped, BailsOutOnError, errorTest_reader] at onError
  have error := onError (errorTest_bailOut.mpr (by
    rw [checked]
    exact ⟨by simp [USBReader.needsReset, noError], exhausted⟩))
  rw [checked] at error
  exact Bool.false_ne_true (noError.symm.trans error)

end BailOut

/-- In a run in which no device passes its check without an error and with the
budget used up, the loop bails out only on an error; and such a check makes
the next step bail out. -/
theorem bail_out_on_error {reader : USBReader} (mMaxBufferedMessages : Int)
    {actions : List Action}
    (guarded : machine.Guarded RecoversWithinBudget
      (start reader mMaxBufferedMessages) actions) :
    machine.Always BailsOutOnError (start reader mMaxBufferedMessages)
        actions ∧
      ∀ (state : ReaderLoop) (answers later : UsbAnswers),
        ¬ state.RecoversWithinBudget (.reader answers) →
          ¬ ((state.readerStep answers).readerStep later).BailsOutOnError := by
  constructor
  · refine machine.always_of_guarded Judged
      (fun _ _ _ judged guard taken => judged.step guard taken)
      (fun _ judged => judged.bailsOut) ?_ guarded
    exact ⟨by simp [start], by simp [start, BailsOutOnError]⟩
  · exact fun state answers later unmet =>
      bailOut_of_quietRecovery later unmet

/-- After the fifth failed hello the device cannot be opened again, which the
read reports as an error. -/
def lostDevice : List Action :=
  failedHellos 4 ++
    List.replicate 17 (.reader { helloFails with devices := .failed })

theorem bail_out_on_error_lostDevice :
    ∃ finish,
      machine.run (start openedReader 50) lostDevice = some finish ∧
        finish.loop = .closeDevice .bailOut ∧ finish.reader.mError = true ∧
        machine.Always BailsOutOnError (start openedReader 50) lostDevice ∧
        ∀ (state : ReaderLoop) (answers later : UsbAnswers),
          ¬ state.RecoversWithinBudget (.reader answers) →
            ¬ ((state.readerStep answers).readerStep
              later).BailsOutOnError := by
  have bails : (machine.run (start openedReader 50) lostDevice).any
      (fun finish => decide (finish.loop = .closeDevice .bailOut ∧
        finish.reader.mError = true)) = true := by
    decide +kernel
  obtain ⟨finish, reached, outcome⟩ := (Option.any_eq_true _ _).mp bails
  obtain ⟨here, error⟩ := of_decide_eq_true outcome
  exact ⟨finish, reached, here, error,
    bail_out_on_error 50 (by decide +kernel)⟩

/-- After five failed hellos the sixth succeeds, and the device, opened anew,
has nothing to say yet. -/
def quietRecovery : List Action :=
  failedHellos 5 ++ List.replicate 4 (.reader {})

theorem bails_out_on_quiet_recovery :
    ∃ finish,
      machine.run (start openedReader 50) quietRecovery = some finish ∧
        finish.loop = .closeDevice .bailOut ∧
        finish.reader.mError = false ∧
        finish.reader.mUSBCheckSuccessful = true ∧
        finish.reader.mDeviceHandle = some 1 ∧
        .bailOut ∈ finish.events := by
  have bails : (machine.run (start openedReader 50) quietRecovery).any
      (fun finish => decide (finish.loop = .closeDevice .bailOut ∧
        finish.reader.mError = false ∧
        finish.reader.mUSBCheckSuccessful = true ∧
        finish.reader.mDeviceHandle = some 1 ∧
        .bailOut ∈ finish.events)) = true := by
    decide +kernel
  obtain ⟨finish, reached, outcome⟩ := (Option.any_eq_true _ _).mp bails
  exact ⟨finish, reached, of_decide_eq_true outcome⟩

end ReaderLoop

end CWUSB
