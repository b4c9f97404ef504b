import CWUSB.Bridge
import CWUSB.KaiStops
import CWUSB.Library.Fairness
import CWUSB.Shutdown
import CWUSB.StopRequest

/-!
# The program ends

Behind its own loop `main` waits for one thread at a time: for the reader's
thread, for a `Send` the USB receive thread is inside of, and for the receiver
thread of XLink Kai.  Each of them comes to its end when it is given steps, as
long as neither the stop request nor the stop of the service is lost, so that
`main` ends as well.
-/

namespace CWUSB

/-! ## XLink Kai's side -/

namespace ClosePoint

/-- The steps of `Close(true)` which are left. -/
def left : ClosePoint → Nat
  | .test => 7
  | .send => 6
  | .connected => 5
  | .initiated => 4
  | .stop => 3
  | .join => 2
  | .socket => 1
  | .closed => 0

end ClosePoint

/-- The steps of a `Send` which are left. -/
def SendPoint.left : SendPoint → Nat
  | .outside => 0
  | .sendTo _ | .foundClosed => 1
  | .connectedTest _ => 2

theorem SendPoint.left_le (point : SendPoint) : point.left ≤ 2 := by
  cases point <;> simp [left]

namespace KaiLoop

section Step

variable {kai next : KaiLoop} {action : Action}

/-- `Close(true)` stops the service, for good, before it joins the thread. -/
def StopsFirst (kai : KaiLoop) : Prop :=
  kai.closing = .join → kai.StopStands

/-- The thread does not undo the stop of the service. -/
def StopsLate (kai : KaiLoop) : Prop :=
  kai.closing = .stop → kai.loop ≠ .restart

instance (kai : KaiLoop) : Decidable kai.StopsLate :=
  inferInstanceAs (Decidable (_ → _))

theorem StopsFirst.same (first : kai.StopsFirst)
    (closing : next.closing = kai.closing)
    (stopped : next.stopped = kai.stopped) (loop : next.loop = kai.loop) :
    next.StopsFirst := by
  intro joining
  rw [closing] at joining
  obtain ⟨stands, begun⟩ := first joining
  exact ⟨stopped.trans stands, by rwa [loop]⟩

theorem StopsFirst.step (first : kai.StopsFirst)
    (late : ∀ fails, action = .close fails → kai.StopsLate)
    (taken : machine.step kai action = some next) : next.StopsFirst := by
  cases (stepped taken).2 with
  | loop now fails =>
      intro joining
      rw [loopStep_closing] at joining
      exact (first joining).step taken
  | closeStop fails here => exact fun _ => ⟨rfl, late fails rfl here⟩
  | closeTest fails here =>
      intro joining
      dsimp only at joining
      split at joining <;> cases joining
  | closeSend fails here => simp [StopsFirst]
  | closeConnected fails here => simp [StopsFirst]
  | closeInitiated fails here => simp [StopsFirst]
  | closeJoin fails here finished => simp [StopsFirst]
  | closeSocket fails here => simp [StopsFirst]
  | _ => exact first.same rfl rfl rfl

/-- Every step of `Close(true)` brings its end nearer. -/
theorem close_left {fails : Bool}
    (taken : machine.step kai (.close fails) = some next) :
    next.closing.left < kai.closing.left := by
  cases (stepped taken).2 with
  | closeTest fails here =>
      rw [here]
      dsimp only
      split <;> decide
  | closeSend fails here =>
      rw [here]
      exact Nat.lt_succ_self _
  | closeConnected fails here =>
      rw [here]
      exact Nat.lt_succ_self _
  | closeInitiated fails here =>
      rw [here]
      exact Nat.lt_succ_self _
  | closeStop fails here =>
      rw [here]
      exact Nat.lt_succ_self _
  | closeJoin fails here finished =>
      rw [here]
      exact Nat.lt_succ_self _
  | closeSocket fails here =>
      rw [here]
      exact Nat.lt_succ_self _

/-- `Close(true)` goes on unless it has to wait for the thread. -/
theorem close_enabled (fails : Bool) (returning : kai.loop ≠ .threw)
    (unclosed : kai.closing ≠ .closed)
    (joins : kai.closing = .join → kai.loop = .finished) :
    ∃ next, machine.step kai (.close fails) = some next := by
  simp only [machine, KaiLoop.step, if_neg returning]
  unfold closeStep
  cases here : kai.closing with
  | closed => exact absurd here unclosed
  | join => exact ⟨_, if_pos (joins here)⟩
  | _ => exact ⟨_, rfl⟩

/-- A `Send` which has begun goes on. -/
theorem usbSending_enabled (fails : Bool) (returning : kai.loop ≠ .threw)
    (inside : kai.usbSend ≠ .outside) :
    ∃ next, kai.step (.usbSending fails) = some next := by
  simp only [KaiLoop.step, if_neg returning]
  unfold usbSendStep
  cases here : kai.usbSend with
  | outside => exact absurd here inside
  | _ => exact ⟨_, rfl⟩

end Step

end KaiLoop

/-! ## The USB receive thread -/

namespace USBReceiveThread

/-- The steps the queued fragments still need. -/
def work (thread : USBReceiveThread) : Nat :=
  2 * thread.mQueue.length + if thread.lFrontOfQueue.isSome then 1 else 0

/-- A step does some of the work, or there is none. -/
theorem step_work (thread : USBReceiveThread) :
    thread.step.thread.work < thread.work ∨
      thread.step = { thread := thread } := by
  unfold step
  cases popped : thread.lFrontOfQueue with
  | some lFrontOfQueue =>
      left
      have emptied : (appendAndForward
          { thread with lFrontOfQueue := none }
          lFrontOfQueue).thread.mQueue = thread.mQueue ∧
          (appendAndForward { thread with lFrontOfQueue := none }
            lFrontOfQueue).thread.lFrontOfQueue = none := by
        unfold appendAndForward
        dsimp only
        split
        · exact ⟨rfl, rfl⟩
        · split <;> exact ⟨rfl, rfl⟩
      simp [work, popped, emptied]
  | none =>
      cases queue : thread.mQueue with
      | nil => exact .inr rfl
      | cons lFrontOfQueue rest =>
          left
          simp only [work, popped, queue, List.length_cons, Option.isSome_some,
            Option.isSome_none, Bool.false_eq_true, if_true, if_false]
          omega

theorem addToQueue_work (thread : USBReceiveThread)
    (aStruct : BinaryStitchUSBPacket) :
    (thread.addToQueue aStruct).thread.work ≤ thread.work + 2 := by
  unfold addToQueue
  split
  · simp only [work, List.length_append, List.length_singleton]
    omega
  · exact Nat.le_add_right _ _

theorem clearQueues_work (thread : USBReceiveThread) :
    thread.clearQueues.work ≤ thread.work :=
  Nat.add_le_add_right (Nat.zero_le _) _

end USBReceiveThread

namespace ReaderLoop

section Step

variable {state next : ReaderLoop}

/-- A step of the reader's thread hands over at most one fragment. -/
theorem readerStep_work (answers : UsbAnswers) :
    (state.readerStep answers).receiveThread.work ≤
      state.receiveThread.work + 2 := by
  by_cases reads : state.loop = .read
  · rw [readerStep, reads]
    dsimp only [goTo, read]
    split
    · exact Nat.le_add_right _ _
    · dsimp only [deliver, record]
      split
      · exact Nat.le_add_right _ _
      · exact state.receiveThread.addToQueue_work _
  · by_cases clears : state.loop = .clearReceiveQueues
    · rw [readerStep, clears]
      exact Nat.le_trans state.receiveThread.clearQueues_work
        (Nat.le_add_right _ _)
    · rw [readerStep_receiveThread answers reads clears]
      exact Nat.le_add_right _ _

theorem remaining_pos (running : state.loop ≠ .finished) :
    0 < state.remaining := by
  cases here : state.loop with
  | finished => exact absurd here running
  | closeDevice site => cases site <;> simp [remaining, here]
  | clearStop site => cases site <;> simp [remaining, here]
  | condition =>
      simp only [remaining, here]
      split <;> decide
  | _ => simp [remaining, here]

end Step

end ReaderLoop

/-! ## Where `main` stands -/

namespace MainPoint

/-- Before the assignment of `mStopRequest`. -/
def beforeStop : MainPoint → Bool
  | .startKai | .startUSB | .createReceiveThread | .createSendThread
  | .createReader | .running | .requestStop => true
  | .joinReader | .stopSendThread | .dropSendThread | .stopReceiveThread
  | .closeKai | .finished => false

/-- Before the call of `XLinkKaiConnection::Close`. -/
def beforeClose : MainPoint → Bool
  | .closeKai | .finished => false
  | _ => true

end MainPoint

namespace Program

/-- Neither a requested stop nor the stop of the service is lost. -/
def StopSafe (program : Program) : Action → Prop
  | .usb action => program.usb.StopSafe action
  | .main _ => program.kai.StopsLate
  | .kai _ => True

/-- What the threads are told agrees with where `main` stands. -/
structure Orderly (program : Program) : Prop where
  announced : program.usb.Announced
  unrequested : program.main.beforeStop = true → program.usb.stop = .none
  requested : program.main = .joinReader → program.usb.stop ≠ .none
  kept : program.mUSBThread = true → program.usb.StopKept
  unclosed : program.main.beforeClose = true → program.kai.closing = .test
  closing : program.main = .closeKai → program.kai.closing ≠ .closed
  stopsFirst : program.kai.StopsFirst

section Orderly

variable {program next : Program}

theorem Orderly.mainStep {fails : Bool} (orderly : program.Orderly)
    (late : program.kai.StopsLate)
    (moves : program.MainStepped fails next) : next.Orderly := by
  obtain ⟨announced, unrequested, requested, kept, unclosed, closing,
    stopsFirst⟩ := orderly
  cases moves with
  | startKai here isOpen =>
      exact ⟨announced, fun _ => unrequested (by rw [here]; rfl), by simp, kept,
        fun _ => unclosed (by rw [here]; rfl), by simp,
        stopsFirst.same rfl rfl rfl⟩
  | startFails here =>
      refine ⟨announced, fun _ => unrequested ?_, by simp [startFailed], kept,
        fun _ => unclosed ?_, by simp [startFailed], stopsFirst⟩
      · rcases here with here | here <;> rw [here] <;> rfl
      · rcases here with here | here <;> rw [here] <;> rfl
  | startUSB here opened unstarted =>
      exact ⟨announced, fun _ => unrequested (by rw [here]; rfl), by simp, kept,
        fun _ => unclosed (by rw [here]; rfl), by simp, stopsFirst⟩
  | createReceiveThread here =>
      exact ⟨announced, fun _ => unrequested (by rw [here]; rfl), by simp, kept,
        fun _ => unclosed (by rw [here]; rfl), by simp, stopsFirst⟩
  | createSendThread here =>
      exact ⟨announced, fun _ => unrequested (by rw [here]; rfl), by simp, kept,
        fun _ => unclosed (by rw [here]; rfl), by simp, stopsFirst⟩
  | createReader here =>
      have none := unrequested (by rw [here]; rfl)
      refine ⟨announced, fun _ => none, by simp, fun _ => ⟨?_, ?_⟩,
        fun _ => unclosed (by rw [here]; rfl), by simp, stopsFirst⟩
      · simp [none]
      · simp [none]
  | leave here =>
      exact ⟨announced, fun _ => unrequested (by rw [here]; rfl), by simp, kept,
        fun _ => unclosed (by rw [here]; rfl), by simp, stopsFirst⟩
  | requestStop usb here taken =>
      have moved : program.usb.step .requestStop = some usb := taken
      refine ⟨announced.step moved, by simp [MainPoint.beforeStop], ?_, ?_,
        fun _ => unclosed (by rw [here]; rfl), by simp, stopsFirst⟩
      · simp only [ReaderLoop.machine, ReaderLoop.step,
          Option.ite_none_right_eq_some, Option.some.injEq] at taken
        obtain ⟨_, rfl⟩ := taken
        simp
      · intro started
        exact (ReaderLoop.kept_step_iff announced (kept started) moved).mpr
          trivial
  | joinReader here started finished =>
      exact ⟨announced, by simp [MainPoint.beforeStop], by simp, by simp,
        fun _ => unclosed (by rw [here]; rfl), by simp, stopsFirst⟩
  | closeDevice here unstarted =>
      have cleared : program.usb.reader.handleClose.mStopRequest = false := rfl
      refine ⟨⟨?_, announced.inBranch, fun _ => rfl⟩,
        by simp [MainPoint.beforeStop], by simp, ?_,
        fun _ => unclosed (by rw [here]; rfl), by simp, stopsFirst⟩
      · simp [ReaderLoop.record, ReaderLoop.setReader, cleared]
      · simp [unstarted]
  | stopSendThread here started =>
      exact ⟨⟨announced.requested, announced.inBranch, announced.closed⟩,
        by simp [MainPoint.beforeStop], by simp, kept,
        fun _ => unclosed (by rw [here]; rfl), by simp,
        stopsFirst⟩
  | noSendThread here unstarted =>
      exact ⟨announced, by simp [MainPoint.beforeStop], by simp, kept,
        fun _ => unclosed (by rw [here]; rfl), by simp, stopsFirst⟩
  | dropSendThread here =>
      exact ⟨announced, by simp [MainPoint.beforeStop], by simp, kept,
        fun _ => unclosed (by rw [here]; rfl), by simp, stopsFirst⟩
  | stopReceiveThread here returned =>
      have unclosed := unclosed (by rw [here]; rfl)
      exact ⟨⟨announced.requested, announced.inBranch, announced.closed⟩,
        by simp [MainPoint.beforeStop], by simp, kept,
        by simp [MainPoint.beforeClose], fun _ => by rw [unclosed]; simp,
        stopsFirst⟩
  | noReceiveThread here unstarted =>
      have unclosed := unclosed (by rw [here]; rfl)
      exact ⟨announced, by simp [MainPoint.beforeStop], by simp, kept,
        by simp [MainPoint.beforeClose], fun _ => by rw [unclosed]; simp,
        stopsFirst⟩
  | closeKai kai here started taken =>
      refine ⟨announced, ?_, ?_, kept, ?_, ?_,
        stopsFirst.step (fun _ _ => late) taken⟩
      · dsimp only
        split <;> simp [MainPoint.beforeStop]
      · dsimp only
        split <;> simp
      · dsimp only
        split <;> simp [MainPoint.beforeClose]
      · dsimp only
        split
        · simp
        · next going => exact fun _ => going
  | closeUnstarted here unstarted =>
      exact ⟨announced, by simp [MainPoint.beforeStop], by simp, kept,
        by simp [MainPoint.beforeClose], by simp,
        stopsFirst.same rfl rfl rfl⟩

/-- The other steps on XLink Kai's side do not take part in closing. -/
theorem kai_closing {kai : KaiLoop} {action : KaiLoop.Action}
    (runs : program.kaiRuns action = true)
    (taken : KaiLoop.machine.step program.kai action = some kai) :
    kai.closing = program.kai.closing := by
  cases action with
  | close fails => cases runs
  | loop now fails =>
      cases (KaiLoop.stepped taken).2 with
      | loop => exact KaiLoop.loopStep_closing now fails
  | datagram bytes sender =>
      cases (KaiLoop.stepped taken).2 with
      | datagram => rfl
  | usbSend aData =>
      cases (KaiLoop.stepped taken).2 with
      | usbSend => rfl
  | usbSending fails =>
      cases (KaiLoop.stepped taken).2 with
      | usbSendAccepts | usbSendRefuses | usbSendTo | usbSendClosed => rfl

theorem Orderly.sendsOnly (orderly : program.Orderly)
    (same : program.SendsOnly next) : next.Orderly := by
  obtain ⟨kai, main, _, thread, _, _, sendThread, usb⟩ := same
  obtain ⟨announced, unrequested, requested, kept, unclosed, closing,
    stopsFirst⟩ := orderly
  constructor
  · rw [usb]
    exact ⟨announced.requested, announced.inBranch, announced.closed⟩
  · rw [main, usb]
    exact unrequested
  · rw [main, usb]
    exact requested
  · rw [thread, usb]
    exact kept
  · rw [main, kai]
    exact unclosed
  · rw [main, kai]
    exact closing
  · rw [kai]
    exact stopsFirst

/-- The threads do not request the stop. -/
theorem unrequested_step {action : ReaderLoop.Action} {usb : ReaderLoop}
    (announced : program.usb.Announced) (none : program.usb.stop = .none)
    (runs : program.usbRuns action = true)
    (taken : ReaderLoop.machine.step program.usb action = some usb) :
    usb.stop = .none := by
  cases action with
  | reader answers =>
      cases taken
      rcases program.usb.readerStep_cases answers with
        ⟨site, here, clears⟩ | ⟨here, requested, takes⟩ | ⟨_, onward⟩
      · rw [clears]
        exact none
      · exact absurd none (announced.requested requested)
      · exact onward.stop.trans none
  | addToQueue aData => cases runs
  | sendThread =>
      cases taken
      exact none
  | receiveThread =>
      cases taken
      exact none
  | requestStop => cases runs

theorem Orderly.step {action : Action} (orderly : program.Orderly)
    (safe : program.StopSafe action)
    (taken : machine.step program action = some next) : next.Orderly := by
  cases stepped taken with
  | main fails _ moves => exact orderly.mainStep safe moves
  | kai action kai runs moves =>
      obtain ⟨announced, unrequested, requested, kept, unclosed, closing,
        stopsFirst⟩ := orderly
      have same := kai_closing runs moves
      have stepped : Orderly { program with kai := kai } := by
        refine ⟨announced, unrequested, requested, kept, ?_, ?_,
          stopsFirst.step ?_ moves⟩
        · intro before
          rw [same]
          exact unclosed before
        · intro here
          rw [same]
          exact closing here
        · rintro fails rfl
          cases runs
      exact stepped.sendsOnly (foldl_sendsOnly _ _)
  | usb action usb runs moves =>
      obtain ⟨announced, unrequested, requested, kept, unclosed, closing,
        stopsFirst⟩ := orderly
      refine ⟨announced.step moves, ?_, ?_, ?_, unclosed, closing, stopsFirst⟩
      · intro before
        exact unrequested_step announced (unrequested before) runs moves
      · intro here
        exact ReaderLoop.stopping_step (requested here) moves
      · intro started
        exact (ReaderLoop.kept_step_iff announced (kept started) moves).mpr
          safe

end Orderly

end Program

/-! ## What is left to do -/

namespace MainPoint

/-- The calls of `main` which are left. -/
def left : MainPoint → Nat
  | .startKai | .startUSB | .createReceiveThread | .createSendThread
  | .createReader | .running | .requestStop => 7
  | .joinReader => 6
  | .stopSendThread => 5
  | .dropSendThread => 4
  | .stopReceiveThread => 3
  | .closeKai => 1
  | .finished => 0

end MainPoint

namespace KaiLoop

/-- The steps `Close(true)`, the thread it joins and a `Send` still need. -/
def stepsLeft (kai : KaiLoop) : Nat :=
  20 * kai.closing.left +
    (if kai.closing = .join then kai.loop.untilFinished else 0) +
    kai.usbSend.left

section StepsLeft

variable {kai next : KaiLoop}

theorem close_stepsLeft {fails : Bool}
    (taken : machine.step kai (.close fails) = some next) :
    next.stepsLeft < kai.stepsLeft := by
  have closer := close_left taken
  have loop := untilFinished_le next.loop
  have usbSend := step_usbSend (rfl : (Action.close fails).sends = false) taken
  unfold stepsLeft
  rw [usbSend]
  split <;> split <;> omega

theorem loop_stepsLeft (first : kai.StopsFirst) {now : Int} {fails : Bool}
    (taken : machine.step kai (.loop now fails) = some next) :
    next.stepsLeft < kai.stepsLeft ∨
      (next.stepsLeft = kai.stepsLeft ∧ next.closing = kai.closing ∧
        next.usbSend = kai.usbSend ∧
        (kai.closing = .join → kai.loop = .finished ∧
          next.loop = .finished)) := by
  have returning := (stepped taken).1
  cases (stepped taken).2
  have closing : (kai.loopStep now fails).closing = kai.closing :=
    loopStep_closing now fails
  have usbSend : (kai.loopStep now fails).usbSend = kai.usbSend :=
    loopStep_usbSend kai now fails
  by_cases joins : kai.closing = .join
  · by_cases isOver : kai.loop = .finished
    · right
      have still : kai.loopStep now fails = kai := by
        rw [loopStep, isOver]
      rw [still]
      exact ⟨rfl, rfl, rfl, fun _ => ⟨isOver, isOver⟩⟩
    · left
      have running : ¬ kai.Over := not_or.mpr ⟨isOver, returning⟩
      have nearer := (loopStep_untilFinished (first joins) running now
        fails).2
      simp only [stepsLeft, closing, usbSend, if_pos joins]
      omega
  · right
    refine ⟨?_, closing, usbSend, fun joins' => absurd joins' joins⟩
    simp only [stepsLeft, closing, usbSend, if_neg joins]

theorem usbSend_stepsLeft {aData : List UInt8}
    (taken : machine.step kai (.usbSend aData) = some next) :
    next.stepsLeft ≤ kai.stepsLeft + 2 := by
  cases (stepped taken).2 with
  | usbSend =>
      have left := (kai.usbSendStart aData).usbSend.left_le
      unfold stepsLeft
      change 20 * kai.closing.left +
        (if kai.closing = .join then kai.loop.untilFinished else 0) + _ ≤ _
      omega

/-- Every step of `Send` brings its end nearer. -/
theorem usbSending_left {fails : Bool}
    (taken : machine.step kai (.usbSending fails) = some next) :
    next.usbSend.left < kai.usbSend.left ∧ next.closing = kai.closing ∧
      next.loop = kai.loop := by
  cases (stepped taken).2 with
  | usbSendAccepts aData _ here | usbSendRefuses aData _ here
  | usbSendTo aData _ here | usbSendClosed _ here =>
      rw [here]
      exact ⟨by simp [SendPoint.left], rfl, rfl⟩

theorem usbSending_stepsLeft {fails : Bool}
    (taken : machine.step kai (.usbSending fails) = some next) :
    next.stepsLeft < kai.stepsLeft := by
  obtain ⟨nearer, closing, loop⟩ := usbSending_left taken
  unfold stepsLeft
  rw [closing, loop]
  omega

end StepsLeft

end KaiLoop

namespace ReaderLoop

def stepsLeft (state : ReaderLoop) (started : Bool) : Nat :=
  8 * (if started then state.remaining else 0) + 3 * state.receiveThread.work

end ReaderLoop

namespace Program

/-- The steps which are left, given to the threads `main` waits for. -/
def stepsLeft (program : Program) : Nat :=
  1000 * program.main.left + program.kai.stepsLeft +
    program.usb.stepsLeft program.mUSBThread

inductive Thread where
  | main
  | kai
  | network
  | reader
  | sender
  | receiver
deriving DecidableEq

/-- Who takes the step. -/
def ThreadAction.thread : ThreadAction → Thread
  | .main _ => .main
  | .kaiLoop _ _ => .kai
  | .datagram _ _ => .network
  | .reader _ => .reader
  | .sendThread => .sender
  | .receiveThread | .sending _ => .receiver

/-- The thread `main` waits for, or `main` itself. -/
def awaited (program : Program) : Thread :=
  match program.main with
  | .joinReader =>
      if program.mUSBThread = true ∧ program.usb.loop ≠ .finished
      then .reader else .main
  | .stopReceiveThread =>
      if program.mUSBReceiveThread = true ∧
        program.kai.usbSend ≠ .outside then .receiver else .main
  | .closeKai =>
      if program.kaiStarted = true ∧ program.kai.closing = .join ∧
        program.kai.loop ≠ .finished then .kai else .main
  | _ => .main

/-- `main` returned, or an exception ended the process. -/
def Over (program : Program) : Prop :=
  program.main = .finished ∨ program.kai.loop = .threw

section Nearer

variable {program next : Program}

/-- Every step of `main` brings its end nearer. -/
theorem mainStep_stepsLeft {fails : Bool} (leaving : program.main.left ≤ 6)
    (moves : program.MainStepped fails next) :
    next.stepsLeft < program.stepsLeft := by
  have remaining := program.usb.remaining_le
  cases moves with
  | joinReader here started finished =>
      simp only [stepsLeft, ReaderLoop.stepsLeft, here, MainPoint.left]
      simp
      omega
  | closeDevice here unstarted =>
      simp [stepsLeft, ReaderLoop.stepsLeft, here, MainPoint.left, unstarted,
        ReaderLoop.record, ReaderLoop.setReader]
  | stopSendThread here started =>
      simp only [stepsLeft, here, MainPoint.left]
      change _ + program.usb.stepsLeft program.mUSBThread < _
      omega
  | noSendThread here unstarted =>
      simp only [stepsLeft, here, MainPoint.left]
      omega
  | dropSendThread here =>
      simp only [stepsLeft, here, MainPoint.left]
      omega
  | stopReceiveThread here returned =>
      have work := program.usb.receiveThread.clearQueues_work
      simp only [stepsLeft, ReaderLoop.stepsLeft, here, MainPoint.left]
      change _ + (8 * (if program.mUSBThread = true
        then program.usb.remaining else 0) + _) < _
      omega
  | noReceiveThread here unstarted =>
      simp only [stepsLeft, here, MainPoint.left]
      omega
  | closeKai kai here started taken =>
      have closer := KaiLoop.close_stepsLeft taken
      simp only [stepsLeft, here]
      split
      · simp only [MainPoint.left]
        omega
      · simp only [MainPoint.left]
        omega
  | closeUnstarted here unstarted =>
      simp only [stepsLeft, here, MainPoint.left]
      change _ + program.kai.stepsLeft + _ < _
      omega
  | requestStop usb here taken => simp [here, MainPoint.left] at leaving
  | startFails here =>
      rcases here with here | here <;> simp [here, MainPoint.left] at leaving
  | _ here => simp [here, MainPoint.left] at leaving

/-- Calls of `Send` do not keep `main` waiting. -/
theorem SendsOnly.waits (same : program.SendsOnly next) :
    next.stepsLeft = program.stepsLeft ∧
      next.awaited = program.awaited := by
  obtain ⟨kai, main, kaiStarted, thread, _, receiver, sendThread, usb⟩ := same
  have left : next.usb.stepsLeft program.mUSBThread =
      program.usb.stepsLeft program.mUSBThread := by
    rw [usb]
    rfl
  have loop : next.usb.loop = program.usb.loop := by rw [usb]
  constructor
  · rw [stepsLeft, main, kai, thread, left]
    rfl
  · unfold awaited
    rw [main, kai, kaiStarted, thread, receiver, loop]

theorem kai_parts {action : KaiLoop.Action}
    (taken : machine.step program (.kai action) = some next) :
    ∃ kai, program.kaiRuns action = true ∧
      KaiLoop.machine.step program.kai action = some kai ∧
      SendsOnly { program with kai := kai } next := by
  cases stepped taken with
  | kai _ kai runs moves => exact ⟨kai, runs, moves, foldl_sendsOnly _ _⟩

theorem usb_parts {action : ReaderLoop.Action}
    (taken : machine.step program (.usb action) = some next) :
    ∃ usb, program.usbRuns action = true ∧
      ReaderLoop.machine.step program.usb action = some usb ∧
      next = { program with usb := usb } := by
  cases stepped taken with
  | usb _ usb runs moves => exact ⟨usb, runs, moves, rfl⟩

/-- A step of a thread brings the end nearer, or `main` waits on, and not for
that thread. -/
def Nearer (program : Program) (thread : Thread) (next : Program) : Prop :=
  next.stepsLeft < program.stepsLeft ∨
    (next.stepsLeft = program.stepsLeft ∧ next.awaited = program.awaited ∧
      thread ≠ program.awaited)

theorem awaited_kai (waits : program.awaited = .kai) :
    program.kai.closing = .join ∧ program.kai.loop ≠ .finished := by
  unfold awaited at waits
  split at waits
  · split at waits <;> cases waits
  · split at waits <;> cases waits
  · split at waits
    · next waiting => exact waiting.2
    · cases waits
  · cases waits

theorem awaited_receiver (waits : program.awaited = .receiver) :
    program.kai.usbSend ≠ .outside := by
  unfold awaited at waits
  split at waits
  · split at waits <;> cases waits
  · split at waits
    · next waiting => exact waiting.2
    · cases waits
  · split at waits <;> cases waits
  · cases waits

theorem awaited_reader (waits : program.awaited = .reader) :
    program.usb.loop ≠ .finished := by
  unfold awaited at waits
  split at waits
  · split at waits
    · next waiting => exact waiting.2
    · cases waits
  · split at waits <;> cases waits
  · split at waits <;> cases waits
  · cases waits

/-- No one waits for XLink Kai or for the send thread. -/
theorem awaited_others :
    program.awaited ≠ .network ∧ program.awaited ≠ .sender := by
  unfold awaited
  split
  · split <;> simp
  · split <;> simp
  · split <;> simp
  · simp

theorem kaiLoop_nearer {now : Int} {fails : Bool} (orderly : program.Orderly)
    (taken : machine.step program (.kai (.loop now fails)) = some next) :
    program.Nearer .kai next := by
  obtain ⟨kai, _, moves, same⟩ := kai_parts taken
  obtain ⟨left, awaits⟩ := same.waits
  unfold Nearer
  rw [left, awaits]
  rcases KaiLoop.loop_stepsLeft orderly.stopsFirst moves with
    less | ⟨steps, closing, usbSend, joined⟩
  · left
    simp only [stepsLeft]
    omega
  · right
    refine ⟨?_, ?_, ?_⟩
    · simp only [stepsLeft, steps]
    · unfold awaited
      dsimp only
      rw [closing, usbSend]
      by_cases joins : program.kai.closing = .join
      · obtain ⟨before, behind⟩ := joined joins
        rw [before, behind]
      · simp [joins]
    · intro waits
      obtain ⟨joins, running⟩ := awaited_kai waits.symm
      exact running (joined joins).1

theorem datagram_nearer {bytes : List UInt8} {sender : Endpoint}
    (taken : machine.step program (.kai (.datagram bytes sender)) =
      some next) : program.Nearer .network next := by
  obtain ⟨kai, _, moves, same⟩ := kai_parts taken
  obtain ⟨left, awaits⟩ := same.waits
  unfold Nearer
  rw [left, awaits]
  cases (KaiLoop.stepped moves).2 with
  | datagram _ _ receives fits completed =>
      exact .inr ⟨rfl, rfl, Ne.symm awaited_others.1⟩

theorem sending_nearer {fails : Bool}
    (taken : machine.step program (.kai (.usbSending fails)) = some next) :
    program.Nearer .receiver next := by
  obtain ⟨kai, _, moves, same⟩ := kai_parts taken
  have less := KaiLoop.usbSending_stepsLeft moves
  left
  rw [same.waits.1]
  simp only [stepsLeft]
  omega

theorem sendThread_nearer
    (taken : machine.step program (.usb .sendThread) = some next) :
    program.Nearer .sender next := by
  obtain ⟨usb, _, moves, rfl⟩ := usb_parts taken
  cases moves
  exact .inr ⟨rfl, rfl, Ne.symm awaited_others.2⟩

/-- What the reader's thread adds for the USB receive thread is less than what
it comes nearer to its own end. -/
theorem reader_nearer {answers : UsbAnswers} (orderly : program.Orderly)
    (joins : program.mUSBThread = true → program.main = .joinReader)
    (safe : program.usb.StopSafe (.reader answers))
    (taken : machine.step program (.usb (.reader answers)) = some next) :
    program.Nearer .reader next := by
  obtain ⟨usb, started, moves, rfl⟩ := usb_parts taken
  cases moves
  have started : program.mUSBThread = true := started
  have here := joins started
  by_cases isOver : program.usb.loop = .finished
  · right
    have still : program.usb.readerStep answers = program.usb := by
      rw [ReaderLoop.readerStep, isOver]
    rw [still]
    exact ⟨rfl, rfl, fun waits => awaited_reader waits.symm isOver⟩
  · left
    have closer := ReaderLoop.remaining_readerStep orderly.announced
      (orderly.kept started) (orderly.requested here) safe
    have some := ReaderLoop.remaining_pos isOver
    have work := program.usb.readerStep_work answers
    simp only [stepsLeft, ReaderLoop.stepsLeft, started, if_true]
    omega

/-- The USB receive thread goes on behind its last `Send` only. -/
theorem receiveThread_outside
    (taken : bridge.step program .receiveThread = some next) :
    program.kai.usbSend = .outside := by
  simp only [bridge, bridgeStep, ThreadAction.waits,
    Option.ite_none_left_eq_some, decide_eq_true_eq, not_not] at taken
  exact taken.1

/-- A `Send` costs less than the fragment it ends. -/
theorem receiveThread_nearer
    (taken : bridge.step program .receiveThread = some next) :
    program.Nearer .receiver next := by
  have outside := receiveThread_outside taken
  obtain ⟨middle, receives, sends⟩ :=
    LabelledMachine.run_cons_eq_some.mp (bridgeStep_run taken)
  obtain ⟨usb, _, moves, rfl⟩ := usb_parts receives
  cases moves
  rcases program.usb.receiveThread.step_work with less | still
  · left
    cases sent : program.usb.receiveThread.step.sent with
    | none =>
        rw [sent] at sends
        cases sends
        simp only [stepsLeft, ReaderLoop.stepsLeft]
        change _ + (8 * (if program.mUSBThread = true
          then program.usb.remaining else 0) + _) < _
        omega
    | some payload =>
        rw [sent] at sends
        obtain ⟨kai, _, moves, same⟩ := kai_parts (run_singleton.mp sends)
        have more := KaiLoop.usbSend_stepsLeft moves
        rw [same.waits.1]
        simp only [stepsLeft, ReaderLoop.stepsLeft]
        change _ + (8 * (if program.mUSBThread = true
          then program.usb.remaining else 0) + _) < _
        dsimp only at more
        omega
  · right
    rw [still] at sends
    cases sends
    refine ⟨rfl, rfl, ?_⟩
    intro waits
    exact awaited_receiver waits.symm outside

end Nearer

/-! ## From the request to the end -/

/-- The request of the reader's thread to stop is not lost, and `main` stops
the service when XLink Kai's thread is behind its first statement. -/
def ThreadSafe (program : Program) : ThreadAction → Prop
  | .main _ => program.kai.StopsLate
  | .reader answers => program.usb.StopSafe (.reader answers)
  | _ => True

instance (program : Program) :
    (action : ThreadAction) → Decidable (program.ThreadSafe action)
  | .reader answers =>
      inferInstanceAs (Decidable (program.usb.StopSafe (.reader answers)))
  | .main _ => inferInstanceAs (Decidable program.kai.StopsLate)
  | .kaiLoop _ _ | .datagram _ _ | .sendThread | .receiveThread
  | .sending _ => inferInstanceAs (Decidable True)

/-- What every moment of an execution has in common. -/
structure Lasting (program : Program) : Prop where
  orderly : program.Orderly
  first : program.KaiFirst
  ended : program.Ended

section Lasting

variable {program next : Program} {action : ThreadAction}

theorem Lasting.step (lasting : program.Lasting)
    (safe : program.ThreadSafe action)
    (taken : bridge.step program action = some next) : next.Lasting := by
  have guarded : machine.Guarded StopSafe program
      (action.actions program) := by
    cases action with
    | reader answers => exact fun _ _ => ⟨safe, trivial⟩
    | main fails => exact fun _ _ => ⟨safe, trivial⟩
    | receiveThread =>
        apply LabelledMachine.guarded_of_labels
        intro label member state
        rcases List.mem_cons.mp member with rfl | sends
        · trivial
        · obtain ⟨payload, _, rfl⟩ := List.mem_map.mp sends
          trivial
    | _ => exact fun _ _ => ⟨trivial, trivial⟩
  refine machine.guarded_invariant Lasting ?_ lasting guarded
    (bridgeStep_run taken)
  rintro program action next ⟨orderly, first, ended⟩ safe taken
  exact ⟨orderly.step safe taken, first.step taken, ended.step first taken⟩

/-- Only `main` goes from one of its calls to the next one. -/
theorem main_of_other (other : action.thread ≠ .main)
    (taken : bridge.step program action = some next) :
    next.main = program.main := by
  have kaiSide {program next : Program} {action : KaiLoop.Action}
      (taken : machine.step program (.kai action) = some next) :
      next.main = program.main := by
    obtain ⟨kai, _, _, same⟩ := kai_parts taken
    exact same.main
  have usbSide {program next : Program} {action : ReaderLoop.Action}
      (taken : machine.step program (.usb action) = some next) :
      next.main = program.main := by
    obtain ⟨usb, _, _, rfl⟩ := usb_parts taken
    rfl
  have run := bridgeStep_run taken
  cases action with
  | main fails => exact absurd rfl other
  | kaiLoop now fails => exact kaiSide (run_singleton.mp run)
  | datagram bytes sender => exact kaiSide (run_singleton.mp run)
  | reader answers => exact usbSide (run_singleton.mp run)
  | sendThread => exact usbSide (run_singleton.mp run)
  | sending fails => exact kaiSide (run_singleton.mp run)
  | receiveThread =>
      obtain ⟨middle, receives, sends⟩ :=
        LabelledMachine.run_cons_eq_some.mp run
      refine Eq.trans ?_ (usbSide receives)
      cases sent : program.usb.receiveThread.step.sent with
      | none =>
          rw [sent] at sends
          cases sends
          rfl
      | some payload =>
          rw [sent] at sends
          exact kaiSide (run_singleton.mp sends)

/-- The reader's thread only exists while `main` joins it. -/
theorem Lasting.joins (lasting : program.Lasting)
    (leaving : program.main.left ≤ 6) (started : program.mUSBThread = true) :
    program.main = .joinReader := by
  have ended := lasting.ended.reader
  cases here : program.main with
  | joinReader => rfl
  | stopSendThread | dropSendThread | stopReceiveThread | closeKai
  | finished =>
      have none := (ended (by rw [here]; rfl)).1
      rw [started] at none
      cases none
  | _ => simp [here, MainPoint.left] at leaving

theorem Lasting.nearer (lasting : program.Lasting)
    (leaving : program.main.left ≤ 6) (safe : program.ThreadSafe action)
    (taken : bridge.step program action = some next) :
    program.Nearer action.thread next := by
  have run := bridgeStep_run taken
  cases action with
  | main fails =>
      cases stepped (run_singleton.mp run) with
      | main _ _ moves => exact .inl (mainStep_stepsLeft leaving moves)
  | kaiLoop now fails =>
      exact kaiLoop_nearer lasting.orderly (run_singleton.mp run)
  | datagram bytes sender => exact datagram_nearer (run_singleton.mp run)
  | reader answers =>
      exact reader_nearer lasting.orderly (lasting.joins leaving) safe
        (run_singleton.mp run)
  | sendThread => exact sendThread_nearer (run_singleton.mp run)
  | receiveThread => exact receiveThread_nearer taken
  | sending fails => exact sending_nearer (run_singleton.mp run)

theorem bridge_single {single : Action}
    (does : action.actions program = [single])
    (free : action.waits program = false)
    (taken : machine.step program single = some next) :
    bridge.step program action = some next := by
  change (if action.waits program = true then none
    else machine.run program (action.actions program)) = some next
  rw [free, if_neg Bool.false_ne_true, does]
  exact run_singleton.mpr taken

theorem kai_enabled {action : KaiLoop.Action} {kai : KaiLoop}
    (returning : program.kai.loop ≠ .threw)
    (runs : program.kaiRuns action = true)
    (taken : program.kai.step action = some kai) :
    ∃ next, machine.step program (.kai action) = some next := by
  simp [machine, Program.step, returning, runs, taken]

/-- `main` goes on when it does not have to wait. -/
theorem main_enabled (lasting : program.Lasting)
    (stopping : program.main.left ≤ 6 ∨ program.main = .requestStop)
    (going : ¬ program.Over) (free : program.awaited = .main) :
    ∃ next, machine.step program (.main false) = some next := by
  obtain ⟨unfinished, returning⟩ := not_or.mp going
  have step : machine.step program (.main false) = program.mainStep false :=
    if_neg returning
  rw [step]
  unfold mainStep
  unfold awaited at free
  cases here : program.main with
  | requestStop =>
      have none := lasting.orderly.unrequested (by rw [here]; rfl)
      simp [ReaderLoop.step, none]
  | joinReader =>
      rw [here] at free
      dsimp only at free ⊢
      by_cases started : program.mUSBThread = true
      · rw [if_pos started]
        split at free
        · cases free
        · next done =>
            have finished : program.usb.loop = .finished :=
              not_not.mp fun running => done ⟨started, running⟩
            exact ⟨_, if_pos finished⟩
      · exact ⟨_, if_neg started⟩
  | stopSendThread =>
      dsimp only
      split <;> exact ⟨_, rfl⟩
  | dropSendThread => exact ⟨_, rfl⟩
  | stopReceiveThread =>
      rw [here] at free
      dsimp only at free ⊢
      split at free
      · cases free
      · next done =>
          by_cases started : program.mUSBReceiveThread = true
          · rw [if_pos started]
            have outside : program.kai.usbSend = .outside :=
              not_not.mp fun inside => done ⟨started, inside⟩
            exact ⟨_, if_pos outside⟩
          · exact ⟨_, if_neg started⟩
  | closeKai =>
      rw [here] at free
      dsimp only at free ⊢
      by_cases started : program.kaiStarted = true
      · rw [if_pos started]
        split at free
        · cases free
        · next done =>
            have joins : program.kai.closing = .join →
                program.kai.loop = .finished := by
              intro joining
              by_contra running
              exact done ⟨started, joining, running⟩
            obtain ⟨kai, taken⟩ := KaiLoop.close_enabled false returning
              (lasting.orderly.closing here) joins
            simp only [KaiLoop.machine, KaiLoop.step, if_neg returning]
              at taken
            rw [taken]
            exact ⟨_, rfl⟩
      · exact ⟨_, if_neg started⟩
  | finished => exact absurd here unfinished
  | _ => simp [here, MainPoint.left] at stopping

/-- Whoever is awaited can take a step. -/
theorem awaited_enabled (lasting : program.Lasting)
    (stopping : program.main.left ≤ 6 ∨ program.main = .requestStop)
    (going : ¬ program.Over) :
    bridge.Enabled ThreadAction.thread program.awaited program := by
  obtain ⟨unfinished, returning⟩ := not_or.mp going
  cases waits : program.awaited with
  | main =>
      obtain ⟨next, taken⟩ := main_enabled lasting stopping going waits
      exact ⟨.main false, next, rfl, bridge_single rfl rfl taken⟩
  | network => exact absurd waits awaited_others.1
  | sender => exact absurd waits awaited_others.2
  | reader =>
      unfold awaited at waits
      split at waits
      · split at waits
        · next waiting =>
            refine ⟨.reader {}, { program with
              usb := program.usb.readerStep {} }, rfl,
              bridge_single rfl rfl ?_⟩
            change (if program.kai.loop = .threw then none
              else if program.mUSBThread = true then _ else none) = _
            rw [if_neg returning, if_pos waiting.1]
            rfl
        · cases waits
      · split at waits <;> cases waits
      · split at waits <;> cases waits
      · cases waits
  | receiver =>
      unfold awaited at waits
      split at waits
      · split at waits <;> cases waits
      · split at waits
        · next waiting =>
            obtain ⟨kai, goes⟩ :=
              KaiLoop.usbSending_enabled false returning waiting.2
            have runs : program.kaiRuns (.usbSending false) = true :=
              waiting.1
            obtain ⟨next, taken⟩ := kai_enabled returning runs goes
            exact ⟨.sending false, next, rfl, bridge_single rfl rfl taken⟩
        · cases waits
      · split at waits <;> cases waits
      · cases waits
  | kai =>
      unfold awaited at waits
      split at waits
      · split at waits <;> cases waits
      · split at waits <;> cases waits
      · split at waits
        · next waiting =>
            have goes : program.kai.step (.loop 0 false) =
                some (program.kai.loopStep 0 false) :=
              if_neg returning
            have runs : program.kaiRuns (.loop 0 false) = true := waiting.1
            obtain ⟨next, taken⟩ := kai_enabled returning runs goes
            exact ⟨.kaiLoop 0 false, next, rfl,
              bridge_single rfl rfl taken⟩
        · cases waits
      · cases waits

theorem mainStep_left {fails : Bool} (leaving : program.main.left ≤ 6)
    (moves : program.MainStepped fails next) : next.main.left ≤ 6 := by
  cases moves with
  | closeKai kai here started taken =>
      dsimp only
      split <;> decide
  | joinReader here started finished => exact Nat.le_succ 5
  | closeDevice here unstarted => exact Nat.le_succ 5
  | requestStop usb here taken => exact Nat.le_refl 6
  | startFails here =>
      rcases here with here | here <;> simp [here, MainPoint.left] at leaving
  | stopSendThread | noSendThread | dropSendThread | stopReceiveThread
  | noReceiveThread | closeUnstarted => simp [MainPoint.left]
  | _ here => simp [here, MainPoint.left] at leaving

end Lasting

section Execution

variable {execution : bridge.Execution} {since : Nat}

/-- `main` requests the stop when it is its turn. -/
theorem requests_stop
    (fair : ∀ thread, thread ≠ .network →
      execution.Fair ThreadAction.thread thread)
    (safe : execution.GuardedFrom ThreadSafe 0)
    (lasting : (execution.state since).Lasting)
    (leaves : (execution.state since).main = .requestStop) :
    ∃ later, since ≤ later ∧
      ((execution.state later).kai.loop = .threw ∨
        (execution.state later).main = .joinReader) := by
  have awaits {program : Program} (here : program.main = .requestStop) :
      program.awaited = .main := by
    rw [awaited, here]
  refine LabelledMachine.Execution.reaches_of_fair ThreadAction.thread
    (fun _ => 1)
    (fun program => program.Lasting ∧ program.main = .requestStop)
    (fun program => program.kai.loop = .threw ∨ program.main = .joinReader)
    awaited ?_ ?_ ?_
    (fun moment label behind => safe moment label (Nat.zero_le _))
    ⟨lasting, leaves⟩
  · rintro program ⟨lasting, here⟩ going
    apply awaited_enabled lasting (.inr here)
    exact not_or.mpr ⟨by rw [here]; simp, (not_or.mp going).1⟩
  · rintro program action next ⟨lasting, here⟩ _ safe taken
    have kept := lasting.step safe taken
    by_cases other : action.thread = .main
    · left
      right
      cases action with
      | main fails =>
          cases stepped (run_singleton.mp (bridgeStep_run taken)) with
          | main _ _ moves =>
              cases moves with
              | requestStop usb there moved => rfl
              | startFails there => simp [here] at there
              | closeKai kai there started moved => simp [here] at there
              | _ there => simp [here] at there
      | _ => cases other
    · right
      have same := main_of_other other taken
      have still : next.main = .requestStop := same.trans here
      refine ⟨⟨kept, still⟩, .inr ⟨rfl, ?_, ?_⟩⟩
      · rw [awaits still, awaits here]
      · rw [awaits here]
        exact other
  · rintro program ⟨_, here⟩
    rw [awaits here]
    exact fair .main (by simp)

/-- Behind the request `main` gets to its end. -/
theorem joins_all
    (fair : ∀ thread, thread ≠ .network →
      execution.Fair ThreadAction.thread thread)
    (safe : execution.GuardedFrom ThreadSafe 0)
    (lasting : (execution.state since).Lasting)
    (joins : (execution.state since).main = .joinReader) :
    ∃ later, since ≤ later ∧ (execution.state later).Over := by
  refine LabelledMachine.Execution.reaches_of_fair ThreadAction.thread
    stepsLeft (fun program => program.Lasting ∧ program.main.left ≤ 6) Over
    awaited ?_ ?_ ?_
    (fun moment label behind => safe moment label (Nat.zero_le _))
    ⟨lasting, by rw [joins]; exact Nat.le_refl 6⟩
  · rintro program ⟨lasting, leaving⟩ going
    exact awaited_enabled lasting (.inl leaving) going
  · rintro program action next ⟨lasting, leaving⟩ _ safe taken
    right
    refine ⟨⟨lasting.step safe taken, ?_⟩,
      lasting.nearer leaving safe taken⟩
    by_cases other : action.thread = .main
    · cases action with
      | main fails =>
          cases stepped (run_singleton.mp (bridgeStep_run taken)) with
          | main _ _ moves => exact mainStep_left leaving moves
      | _ => cases other
    · rw [main_of_other other taken]
      exact leaving
  · rintro program ⟨_, _⟩
    exact fair _ awaited_others.1

section Opened

variable {settings : OpenSettings} {reader : USBReader}
  {tries : List OpenAnswers} {opening : Opening}
  {mMaxBufferedMessages : Int}

theorem lasting_program (opened : opening.Opened settings reader)
    (unrequested : reader.mStopRequest = false) :
    (opening.program mMaxBufferedMessages).Lasting := by
  have still : opening.device.reader.mStopRequest = false := by
    rw [opened.usb.untouched]
    exact unrequested
  obtain ⟨first, ended, _⟩ :=
    invariants_program opened mMaxBufferedMessages
  refine ⟨⟨?_, fun _ => rfl, by simp [Opening.program, start],
    by simp [Opening.program, start], fun _ => rfl,
    by simp [Opening.program, start],
    by simp [Opening.program, start, KaiLoop.StopsFirst]⟩,
    first, ended⟩
  exact ReaderLoop.announced_start mMaxBufferedMessages still

end Opened

end Execution

/-! ## An execution -/

/-- Behind the end only the receiver thread of XLink Kai is given steps. -/
theorem nothing_enabled {program : Program} {thread : Thread}
    (finished : program.main = .finished)
    (threads : program.mUSBThread = false ∧ program.mUSBSendThread = false ∧
      program.mUSBReceiveThread = false)
    (onUSB : thread ≠ .kai) (ours : thread ≠ .network) :
    ¬ bridge.Enabled ThreadAction.thread thread program := by
  obtain ⟨reader, sender, receiver⟩ := threads
  rintro ⟨action, next, rfl, taken⟩
  have run := bridgeStep_run taken
  cases action with
  | main fails =>
      have moves := run_singleton.mp run
      simp [machine, Program.step, mainStep, finished] at moves
  | kaiLoop now fails => exact onUSB rfl
  | datagram bytes sender => exact ours rfl
  | reader answers =>
      obtain ⟨_, runs, _⟩ := usb_parts (run_singleton.mp run)
      simp [usbRuns, reader] at runs
  | sendThread =>
      obtain ⟨_, runs, _⟩ := usb_parts (run_singleton.mp run)
      simp [usbRuns, sender] at runs
  | receiveThread =>
      obtain ⟨_, receives, _⟩ := LabelledMachine.run_cons_eq_some.mp run
      obtain ⟨_, runs, _⟩ := usb_parts receives
      simp [usbRuns, receiver] at runs
  | sending fails =>
      obtain ⟨_, runs, _⟩ := kai_parts (run_singleton.mp run)
      simp [kaiRuns, receiver] at runs

/-- A thread which returned does nothing when it is given steps. -/
theorem kaiLoop_rests {program : Program} (started : program.kaiStarted = true)
    (finished : program.kai.loop = .finished) :
    bridge.step program (.kaiLoop 0 false) = some program := by
  have still : program.kai.loopStep 0 false = program.kai := by
    rw [KaiLoop.loopStep, finished]
  have goes : program.kai.step (.loop 0 false) = some program.kai := by
    simp [KaiLoop.step, finished, still]
  apply bridge_single rfl rfl
  change (if program.kai.loop = .threw then none
    else if program.kaiStarted = true then _ else none) = _
  rw [if_neg (by simp [finished]), if_pos started, goes, Option.map_some,
    handedOver, List.drop_length]
  rfl

/-- XLink Kai's thread begins, the signal comes as soon as the program runs,
and each thread ends in turn. -/
def endsInTurn : List ThreadAction :=
  .main false :: .kaiLoop 0 false :: List.replicate 6 (.main false) ++
    List.replicate 6 (.reader {}) ++ List.replicate 6 (.main false) ++
    .kaiLoop 0 false :: List.replicate 2 (.main false)

end Program

end CWUSB
