import CWUSB.KaiSteps
import CWUSB.Library.Progress
import CWUSB.ReceiveChain

/-!
# How the receiver loop ends

`Close(true)` joins the receiver thread once it stopped the service, which
takes a bounded number of steps of the loop, whatever the other threads do in
between.  But the first statement of the thread starts the service again: a
stop which comes before it is undone, and the join waits for ever.
-/

namespace CWUSB

namespace KaiLoop

def Action.isLoop : Action → Bool
  | .loop _ _ => true
  | .datagram _ _ | .usbSend _ | .usbSending _ | .close _ => false

/-- The receiver thread returned, or an exception ended the process. -/
def Over (kai : KaiLoop) : Prop :=
  kai.loop = .finished ∨ kai.loop = .threw

section Over

variable {kai next : KaiLoop} {action : Action}

theorem Over.step (isOver : kai.Over)
    (taken : machine.step kai action = some next) : next.Over := by
  obtain ⟨returning, steps⟩ := stepped taken
  have finished : kai.loop = .finished := isOver.resolve_right returning
  cases steps with
  | loop now fails =>
      left
      rw [loopStep, finished]
      exact finished
  | _ => exact .inl finished

end Over

end KaiLoop

namespace LoopPoint

/-- The steps which are left to the loop when the service has stopped. -/
def untilFinished : LoopPoint → Nat
  -- The service is started again, and there is no such number.
  | .restart => 10
  | .finished | .threw => 0
  | .condition => 1
  | .poll | .connectInitiated | .connectTimeoutSettings
  | .keepAliveTimeoutSettings | .settingsSent => 2
  | .receiveAgain | .connect | .connectTimeoutConnected
  | .keepAliveTimeoutInitiated | .sendSettings => 3
  | .dispatch _ _ | .reopen | .connectTimeoutInitiated
  | .keepAliveTimeoutConnected | .settingsTest => 4
  | .confirmConnected _ _ | .closeSocket | .keepAliveTimeoutTest => 5
  | .confirmInitiated _ _ | .closeInitiated | .connectTimeoutTest => 6
  | .callback _ | .closeConnected => 7
  | .closeSend => 8
  | .closeTest => 9
  | .reconnectTest => 10

end LoopPoint

namespace KaiLoop

/-- The service is stopped, and the thread is behind the statement which would
start it again. -/
structure StopStands (kai : KaiLoop) : Prop where
  stopped : kai.stopped = true
  begun : kai.loop ≠ .restart

section Stopped

variable {kai next : KaiLoop} {action : Action}

/-- The first statement of the thread is executed once. -/
theorem loopStep_begun (now : Int) (fails : Bool)
    (begun : kai.loop ≠ .restart) :
    (kai.loopStep now fails).loop ≠ .restart := by
  unfold loopStep
  cases here : kai.loop with
  | restart => exact absurd here begun
  | poll =>
      dsimp only
      split
      · simp [goTo]
      · split
        · simp
        · split <;> simp [goTo]
  | callback aBytesReceived =>
      intro again
      rcases kai.callbackHead_loop aBytesReceived now with threw | ⟨there, _⟩
      · cases threw.symm.trans again
      · rw [again] at there
        exact there
  | dispatch lCommand lData =>
      intro again
      rcases kai.callbackBody_loop lCommand lData fails with threw | receives
      · cases threw.symm.trans again
      · cases receives.symm.trans again
  | condition | reconnectTest | closeTest | connectTimeoutTest
  | keepAliveTimeoutTest | settingsTest | connect =>
      dsimp only [goTo]
      split <;> simp
  | finished | threw => simp [here]
  | _ => simp [goTo]

theorem loopStep_untilFinished (stands : kai.StopStands)
    (running : ¬ kai.Over) (now : Int) (fails : Bool) :
    (kai.loopStep now fails).stopped = true ∧
      (kai.loopStep now fails).loop.untilFinished <
        kai.loop.untilFinished := by
  obtain ⟨stopped, begun⟩ := stands
  unfold loopStep
  cases here : kai.loop with
  | restart => exact absurd here begun
  | finished => exact absurd (.inl here) running
  | threw => exact absurd (.inr here) running
  | condition =>
      refine ⟨stopped, ?_⟩
      dsimp only [goTo]
      rw [if_pos stopped]
      decide
  | poll =>
      dsimp only
      rw [if_pos stopped]
      exact ⟨stopped, Nat.lt_succ_self 1⟩
  | reconnectTest | closeTest | connect | connectTimeoutTest
  | keepAliveTimeoutTest | settingsTest =>
      refine ⟨stopped, ?_⟩
      dsimp only [goTo]
      split <;> decide
  | callback aBytesReceived =>
      refine ⟨(kai.callbackHead_others aBytesReceived now).1.trans stopped, ?_⟩
      dsimp only [callbackHead]
      split
      · simp [goTo, LoopPoint.untilFinished]
      · split
        · simp [goTo, LoopPoint.untilFinished]
        · split <;> simp [goTo, LoopPoint.untilFinished]
  | dispatch lCommand lData =>
      refine ⟨(kai.callbackBody_others lCommand lData fails).1.trans stopped,
        ?_⟩
      rcases kai.callbackBody_loop lCommand lData fails with threw | again
      · simp [threw, LoopPoint.untilFinished]
      · simp [again, LoopPoint.untilFinished]
  | _ => exact ⟨stopped, by simp [goTo, LoopPoint.untilFinished]⟩

/-- The service is not started again. -/
theorem StopStands.step (stands : kai.StopStands)
    (taken : machine.step kai action = some next) : next.StopStands := by
  cases (stepped taken).2 with
  | loop now fails =>
      by_cases isOver : kai.Over
      · have finished := isOver.resolve_right (stepped taken).1
        rw [loopStep, finished]
        exact stands
      · exact ⟨(loopStep_untilFinished stands isOver now fails).1,
          loopStep_begun now fails stands.begun⟩
  | closeStop => exact ⟨rfl, stands.begun⟩
  | _ => exact ⟨stands.stopped, stands.begun⟩

theorem step_untilFinished (stands : kai.StopStands)
    (taken : machine.step kai action = some next) (running : ¬ kai.Over) :
    next.loop.untilFinished ≤ kai.loop.untilFinished ∧
      (action.isLoop = true →
        next.loop.untilFinished < kai.loop.untilFinished) := by
  cases (stepped taken).2 with
  | loop now fails =>
      have less := (loopStep_untilFinished stands running now fails).2
      exact ⟨Nat.le_of_lt less, fun _ => less⟩
  | _ => exact ⟨Nat.le_refl _, nofun⟩

theorem over_of_untilFinished (nothing : kai.loop.untilFinished = 0) :
    kai.Over := by
  cases here : kai.loop with
  | finished => exact .inl here
  | threw => exact .inr here
  | _ => simp [here, LoopPoint.untilFinished] at nothing

theorem untilFinished_le (point : LoopPoint) : point.untilFinished ≤ 10 := by
  cases point <;> simp [LoopPoint.untilFinished]

end Stopped

/-- Once the service is stopped behind the start of the thread, it is not
started again, and the receiver thread ends within ten of its steps, so that it
is joined. -/
theorem ends_when_stopped {kai finish : KaiLoop} {actions : List Action}
    (stands : kai.StopStands)
    (reached : machine.run kai actions = some finish) :
    finish.stopped = true ∧
      (10 ≤ actions.countP Action.isLoop → finish.Over) := by
  constructor
  · have kept := machine.run_invariant StopStands
      (fun _ _ _ stands taken => stands.step taken) stands reached
    exact kept.stopped
  · intro enough
    have left := untilFinished_le kai.loop
    refine LabelledMachine.reaches_of_rank
      (fun kai : KaiLoop => kai.loop.untilFinished)
      StopStands Action.isLoop
      (fun _ _ nothing => over_of_untilFinished nothing) ?_
      (fun _ _ _ isOver => isOver.step) stands
      (LabelledMachine.guarded_of_labels (fun _ _ _ => trivial) kai) reached
      (by omega)
    rintro kai action next stands running _ taken
    exact .inr ⟨stands.step taken, step_untilFinished stands taken running⟩

/-- `Close(true)` stops the service while a message is being handled. -/
def stoppedInCallback : List Action :=
  connecting ++ .datagram cConnectedString engine ::
    List.replicate 7 (.loop 0 false) ++ List.replicate 5 (.close false)

theorem ends_when_stopped_inCallback :
    ∃ kai finish,
      machine.run (start {}) stoppedInCallback = some kai ∧
        kai.loop.Handling ∧ kai.StopStands ∧
        machine.run kai (List.replicate 10 (.loop 0 false)) = some finish ∧
        finish.stopped = true ∧ finish.Over := by
  have runs : (machine.run (start {}) stoppedInCallback).any
      (fun kai => decide (kai.loop = .confirmInitiated
          cConnectedString cConnectedString ∧ kai.stopped = true ∧
        (machine.run kai (List.replicate 10 (.loop 0 false))).isSome =
          true)) = true := by
    decide +kernel
  obtain ⟨kai, before, outcome⟩ := (Option.any_eq_true _ _).mp runs
  obtain ⟨here, stopped, goes⟩ := of_decide_eq_true outcome
  obtain ⟨finish, reached⟩ := Option.isSome_iff_exists.mp goes
  have stands : kai.StopStands := ⟨stopped, by simp [here]⟩
  obtain ⟨stays, ends⟩ := ends_when_stopped stands reached
  exact ⟨kai, finish, before, by rw [here]; trivial, stands, reached, stays,
    ends (by decide)⟩

/-! ## A stop which comes too early -/

/-- `Close(true)` waits for a thread which does not end. -/
structure WaitsForEver (kai : KaiLoop) : Prop where
  consistent : kai.Consistent
  joining : kai.closing = .join
  going : kai.loop = .restart ∨ kai.Running

theorem WaitsForEver.unfinished {kai : KaiLoop} (waits : kai.WaitsForEver) :
    kai.loop ≠ .finished := by
  rcases waits.going with unbegun | running
  · simp [unbegun]
  · exact running.2

theorem WaitsForEver.step {kai next : KaiLoop} {action : Action}
    (waits : kai.WaitsForEver)
    (taken : machine.step kai action = some next) : next.WaitsForEver := by
  have consistent := waits.consistent.step taken
  have joining := waits.joining
  cases (stepped taken).2 with
  | loop now fails =>
      refine ⟨consistent, (loopStep_closing now fails).trans joining,
        .inr ?_⟩
      rcases waits.going with unbegun | running
      · rw [KaiLoop.loopStep, unbegun]
        exact ⟨rfl, by simp⟩
      · exact running.loopStep waits.consistent.chained now fails
  | closeJoin fails here finished => exact absurd finished waits.unfinished
  | closeTest fails here | closeSend fails here | closeConnected fails here
  | closeInitiated fails here | closeStop fails here
  | closeSocket fails here => cases here.symm.trans joining
  | _ => exact ⟨consistent, joining, waits.going⟩

/-- A stop which comes before the first statement of the receiver thread is
undone by it: whatever the threads do then, `Close(true)` never gets behind its
join. -/
theorem early_stop_undone {connection : XLinkKaiConnection}
    {before actions : List Action} {kai finish : KaiLoop}
    (reached : machine.run (start connection) before = some kai)
    (unbegun : kai.loop = .restart) (joining : kai.closing = .join)
    (goesOn : machine.run kai actions = some finish) :
    finish.closing = .join ∧ finish.loop ≠ .finished := by
  have waits : finish.WaitsForEver :=
    machine.run_invariant WaitsForEver (fun _ _ _ waits => waits.step)
      ⟨consistent_of_run reached, joining, .inl unbegun⟩ goesOn
  exact ⟨waits.joining, waits.unfinished⟩

/-- `Close(true)` finds no session and stops the service, and the thread
begins only then. -/
theorem early_stop_undone_atOnce :
    ∃ kai finish,
      machine.run (start {}) (List.replicate 2 (.close false)) = some kai ∧
        kai.stopped = true ∧
        machine.run kai (List.replicate 100 (.loop 0 false)) = some finish ∧
        finish.closing = .join ∧ finish.loop ≠ .finished := by
  have runs : (machine.run (start {}) (List.replicate 2 (.close false))).any
      (fun kai => decide (kai.loop = .restart ∧ kai.closing = .join ∧
        kai.stopped = true ∧
        (machine.run kai (List.replicate 100 (.loop 0 false))).isSome =
          true)) = true := by
    decide +kernel
  obtain ⟨kai, before, outcome⟩ := (Option.any_eq_true _ _).mp runs
  obtain ⟨unbegun, joining, stopped, goes⟩ := of_decide_eq_true outcome
  obtain ⟨finish, reached⟩ := Option.isSome_iff_exists.mp goes
  exact ⟨kai, finish, before, stopped, reached,
    early_stop_undone before unbegun joining reached⟩

end KaiLoop

end CWUSB
