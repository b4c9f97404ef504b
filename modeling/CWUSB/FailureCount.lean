import CWUSB.RetryCounters

/-!
# Counting failed reads and writes

A failed read or write raises `mReadWriteRetryCounter`, and sets `mError` when
that exceeds the limit.  `HandleError` leaves the counter as it is.  Beside the
state a history counts the failures since the last call of `HandleError`: it
explains every error exactly as long as none was counted before that call.
-/

namespace CWUSB

/-- The failures counted since the last call of `HandleError`, or since the
start. -/
structure FailureHistory where
  /-- `mReadWriteRetryCounter` at that call. -/
  atHandleError : Int := 0
  failures : Nat := 0
  /-- For each time a failure set `mError`, how many had been counted. -/
  errors : List Nat := []
deriving DecidableEq

namespace ReaderLoop

/-- The failure exceeds the limit and sets `mError`. -/
def exceedsLimit (state : ReaderLoop) : Bool :=
  decide (state.reader.mReadWriteRetryCounter + 1 >
    state.reader.mMaxReadWriteRetries)

/-- The loop is about to call `HandleError`. -/
def callsHandleError (state : ReaderLoop) : Bool :=
  decide (state.loop = .errorTest) && state.reader.needsReset

def recordFailures (state : ReaderLoop) (action : Action)
    (history : FailureHistory) : FailureHistory :=
  match action with
  | .reader answers =>
      if state.callsHandleError then
        { history with
          atHandleError := state.reader.mReadWriteRetryCounter
          failures := 0 }
      else if state.transferFails answers then
        { history with
          failures := history.failures + 1
          errors :=
            history.errors ++
              if state.exceedsLimit then [history.failures + 1] else [] }
      else history
  | _ => history

def countingFailures :
    LabelledMachine (ReaderLoop × FailureHistory) Action :=
  machine.withHistory recordFailures

/-- Every failure which set `mError` was preceded by enough others. -/
def CountedAfresh (current : ReaderLoop × FailureHistory) : Prop :=
  ∀ count ∈ current.2.errors,
    (count : Int) > current.1.reader.mMaxReadWriteRetries

/-- No failure was counted before the last call of `HandleError` when the limit
is exceeded. -/
def FreshWhenExceeded (current : ReaderLoop × FailureHistory) :
    Action → Prop
  | .reader answers =>
      current.1.transferFails answers = true →
        current.1.exceedsLimit = true → current.2.atHandleError = 0
  | _ => True

/-- The counter is what it was at the last call of `HandleError` and the
failures since then.  If it was not zero then, the limit was not exceeded
since. -/
structure FailuresTracked (current : ReaderLoop × FailureHistory) : Prop where
  limit : 1 ≤ current.1.reader.mMaxReadWriteRetries
  counter :
    current.1.reader.mReadWriteRetryCounter =
      current.2.atHandleError + current.2.failures
  nonnegative : 0 ≤ current.2.atHandleError
  below : current.2.atHandleError ≠ 0 → current.2.failures ≠ 0 →
    current.1.reader.mReadWriteRetryCounter ≤
      current.1.reader.mMaxReadWriteRetries

section Step

variable {state next : ReaderLoop} {history : FailureHistory}

/-- A failed read or write sets `mError` when it exceeds the limit. -/
theorem transferFails_mError {answers : UsbAnswers}
    (fails : state.transferFails answers = true) :
    (state.readerStep answers).reader.mError =
      (state.reader.mError || state.exceedsLimit) := by
  unfold transferFails at fails
  unfold readerStep
  split at fails
  · next here =>
      simp only [Bool.and_eq_true, Bool.not_eq_true'] at fails
      obtain ⟨reads, failed⟩ := fails
      have counted := USBReader.handleRead_of_readFails _ _ failed
      simp only [here, goTo, read, reads, Bool.false_eq_true, if_false,
        deliver, counted]
      unfold USBReader.usbBulkRead
      split <;> rfl
  · next lFormattedPacket here =>
      simp only [decide_eq_true_eq] at fails
      simp only [here, goTo, sendWrite, record, setReader, fails, if_true]
      rfl
  · cases fails

theorem not_transferFails_of_callsHandleError (answers : UsbAnswers)
    (calls : state.callsHandleError = true) :
    state.transferFails answers = false := by
  simp only [callsHandleError, Bool.and_eq_true, decide_eq_true_eq] at calls
  simp only [transferFails, calls.1]

variable (history) in
/-- What is recorded of a step of the reader's thread. -/
theorem recordFailures_cases (answers : UsbAnswers) :
    (state.callsHandleError = true ∧ state.transferFails answers = false ∧
        recordFailures state (.reader answers) history =
          { history with
            atHandleError := state.reader.mReadWriteRetryCounter
            failures := 0 }) ∨
      (state.transferFails answers = true ∧
        recordFailures state (.reader answers) history =
          { history with
            failures := history.failures + 1
            errors :=
              history.errors ++
                if state.exceedsLimit then [history.failures + 1]
                else [] }) ∨
      (state.transferFails answers = false ∧
        recordFailures state (.reader answers) history = history) := by
  unfold recordFailures
  cases calls : state.callsHandleError with
  | true =>
      have noFailure := not_transferFails_of_callsHandleError answers calls
      exact .inl ⟨rfl, noFailure, rfl⟩
  | false =>
      cases fails : state.transferFails answers with
      | true => exact .inr (.inl ⟨rfl, by simp only [fails]; rfl⟩)
      | false => exact .inr (.inr ⟨rfl, by simp only [fails]; rfl⟩)

/-- An error keeps the property exactly when nothing was counted before the
last call of `HandleError`. -/
theorem readerStep_countedAfresh
    (tracked : FailuresTracked (state, history))
    (afresh : CountedAfresh (state, history)) (answers : UsbAnswers) :
    CountedAfresh (state.readerStep answers,
        recordFailures state (.reader answers) history) ↔
      FreshWhenExceeded (state, history) (.reader answers) := by
  have limit := (state.readerStep_limits answers).2
  obtain ⟨positive, counter, nonnegative, below⟩ := tracked
  dsimp only at positive counter nonnegative below
  unfold CountedAfresh FreshWhenExceeded at *
  dsimp only at afresh ⊢
  rw [limit]
  rcases recordFailures_cases history answers with
    ⟨_, fails, recorded⟩ | ⟨fails, recorded⟩ | ⟨fails, recorded⟩
  · rw [recorded, fails]
    exact iff_of_true afresh nofun
  · rw [recorded, fails]
    cases exceeds : state.exceedsLimit with
    | false =>
        refine iff_of_true ?_ nofun
        simpa using afresh
    | true =>
        simp only [exceedsLimit, decide_eq_true_eq] at exceeds
        simp only [if_true, true_implies, List.mem_append,
          List.mem_singleton]
        constructor
        · intro counted
          have last := counted (history.failures + 1) (.inr rfl)
          by_contra notFresh
          by_cases first : history.failures = 0
          · omega
          · have within := below notFresh first
            omega
        · rintro fresh count (earlier | rfl)
          · exact afresh count earlier
          · omega
  · rw [recorded, fails]
    exact iff_of_true afresh nofun

theorem FailuresTracked.readerStep
    (tracked : FailuresTracked (state, history)) {answers : UsbAnswers}
    (fresh : FreshWhenExceeded (state, history) (.reader answers)) :
    FailuresTracked (state.readerStep answers,
      recordFailures state (.reader answers) history) := by
  have limit := (state.readerStep_limits answers).2
  have raised := state.readerStep_mReadWriteRetryCounter answers
  obtain ⟨positive, counter, nonnegative, below⟩ := tracked
  dsimp only at positive counter nonnegative below
  unfold FreshWhenExceeded at fresh
  dsimp only at fresh
  rcases recordFailures_cases history answers with
    ⟨_, fails, recorded⟩ | ⟨fails, recorded⟩ | ⟨fails, recorded⟩
  · rw [fails] at raised
    rw [recorded]
    constructor
    · exact positive.trans_eq limit.symm
    · simpa using raised
    · dsimp only
      omega
    · exact fun _ failures => absurd rfl failures
  · rw [fails] at raised
    rw [recorded]
    constructor
    · exact positive.trans_eq limit.symm
    · simp only [if_true] at raised ⊢
      omega
    · exact nonnegative
    · intro notFresh _
      have within : state.exceedsLimit = false := by
        by_contra exceeds
        exact notFresh (fresh fails (by simpa using exceeds))
      simp only [exceedsLimit, decide_eq_false_iff_not] at within
      simp only [if_true] at raised ⊢
      omega
  · rw [fails] at raised
    rw [recorded]
    have same : (state.readerStep answers).reader.mReadWriteRetryCounter =
        state.reader.mReadWriteRetryCounter := by
      simpa using raised
    constructor
    · exact positive.trans_eq limit.symm
    · exact same.trans counter
    · exact nonnegative
    · intro notFresh failures
      rw [same, limit]
      exact below notFresh failures

theorem recordFailures_other {action : Action}
    (other : ∀ answers, action ≠ .reader answers) :
    recordFailures state action history = history := by
  cases action with
  | reader answers => exact absurd rfl (other answers)
  | _ => rfl

theorem FailuresTracked.step {action : Action} {last : FailureHistory}
    (tracked : FailuresTracked (state, history))
    (fresh : FreshWhenExceeded (state, history) action)
    (taken : countingFailures.step (state, history) action =
      some (next, last)) :
    FailuresTracked (next, last) := by
  obtain ⟨step, rfl⟩ := LabelledMachine.withHistory_step_eq_some.mp taken
  rcases step_cases step with ⟨answers, rfl, rfl⟩ | ⟨other, elsewhere⟩
  · exact tracked.readerStep fresh
  · rw [recordFailures_other other]
    obtain ⟨positive, counter, nonnegative, below⟩ := tracked
    constructor
    · rw [elsewhere.reader]
      exact positive
    · rw [elsewhere.reader]
      exact counter
    · exact nonnegative
    · rw [elsewhere.reader]
      exact below

theorem step_countedAfresh {action : Action} {last : FailureHistory}
    (tracked : FailuresTracked (state, history))
    (afresh : CountedAfresh (state, history))
    (taken : countingFailures.step (state, history) action =
      some (next, last)) :
    CountedAfresh (next, last) ↔
      FreshWhenExceeded (state, history) action := by
  obtain ⟨step, rfl⟩ := LabelledMachine.withHistory_step_eq_some.mp taken
  rcases step_cases step with ⟨answers, rfl, rfl⟩ | ⟨other, elsewhere⟩
  · exact readerStep_countedAfresh tracked afresh answers
  · rw [recordFailures_other other]
    have fresh : FreshWhenExceeded (state, history) action := by
      cases action with
      | reader answers => exact absurd rfl (other answers)
      | _ => trivial
    refine iff_of_true ?_ fresh
    unfold CountedAfresh
    rw [elsewhere.reader]
    exact afresh

end Step

/-- Along a run every error of a failed read or write is explained by the
failures since the last call of `HandleError` exactly when, whenever the limit
is exceeded, nothing was counted before that call. -/
theorem failures_counted_afresh_iff {reader : USBReader}
    (limit : 1 ≤ reader.mMaxReadWriteRetries)
    (unused : reader.mReadWriteRetryCounter = 0)
    (mMaxBufferedMessages : Int) (actions : List Action) :
    countingFailures.Always CountedAfresh
        (start reader mMaxBufferedMessages, {}) actions ↔
      countingFailures.Guarded FreshWhenExceeded
        (start reader mMaxBufferedMessages, {}) actions := by
  refine countingFailures.always_iff_guarded FailuresTracked (fun _ => True)
    ?_ ?_ ?_ ?_ (fun _ _ => trivial)
  · rintro ⟨state, history⟩ action ⟨next, last⟩ tracked afresh _ taken kept
    exact tracked.step ((step_countedAfresh tracked afresh taken).mp kept) taken
  · rintro ⟨state, history⟩ action ⟨next, last⟩ tracked afresh _ taken
    exact step_countedAfresh tracked afresh taken
  · exact
      { limit := limit
        counter := unused
        nonnegative := Int.le_refl 0
        below := fun notFresh => absurd rfl notFresh }
  · simp [CountedAfresh]

/-- A single failure is allowed. -/
def oneFailureAllowed : USBReader :=
  { openedReader with mMaxReadWriteRetries := 1 }

/-- The device is there and answers the hello, but its reads fail. -/
def readFails : UsbAnswers :=
  { read := { lError := -1, bytes := [], fits := Nat.zero_le _ }
    devices := .onePSP 1 }

/-- Two iterations with a failed read, and a third which resets first. -/
def failedReads : List Action := List.replicate 25 (.reader readFails)

theorem failures_counted_afresh_iff_failedReads :
    countingFailures.Always CountedAfresh
        (start oneFailureAllowed 50, {}) failedReads ↔
      countingFailures.Guarded FreshWhenExceeded
        (start oneFailureAllowed 50, {}) failedReads :=
  failures_counted_afresh_iff (by decide) rfl 50 _

/-- The first error takes two failures, the second only one. -/
theorem failures_not_counted_afresh :
    ∃ finish last,
      countingFailures.run (start oneFailureAllowed 50, {}) failedReads =
          some (finish, last) ∧
        finish.reader.mError = true ∧ last.errors = [2, 1] ∧
        ¬ CountedAfresh (finish, last) := by
  have trips : (countingFailures.run (start oneFailureAllowed 50, {})
      failedReads).any (fun current =>
        decide (current.1.reader.mMaxReadWriteRetries = 1 ∧
          current.1.reader.mError = true ∧ current.2.errors = [2, 1])) =
          true := by
    decide +kernel
  obtain ⟨⟨finish, last⟩, reached, outcome⟩ :=
    (Option.any_eq_true _ _).mp trips
  obtain ⟨limit, error, errors⟩ := of_decide_eq_true outcome
  refine ⟨finish, last, reached, error, errors, fun afresh => ?_⟩
  have second := afresh 1 (by rw [errors]; decide)
  rw [limit] at second
  omega

end ReaderLoop

end CWUSB
