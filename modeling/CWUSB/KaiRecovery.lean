import CWUSB.KaiStops
import CWUSB.LastDisconnect
import CWUSB.SessionKept

/-!
# The recovery of a session

When XLink Kai is silent, the timers of the receiver loop run out, the session
is given up and a new one is asked for.  How many steps of the loop that takes
depends on where the loop is, on the flags, and on whether something received
before is still to be handled.  The USB receive thread may end the session
earlier, which only shortens the way.
-/

namespace CWUSB

/-- A value for each state of the flags, which are never both set. -/
def byFlags (mConnected mConnectInitiated : Bool)
    (clear initiated connected : Nat) : Nat :=
  if mConnected then connected
  else if mConnectInitiated then initiated
  else clear

theorem byFlags_lt {mConnected mConnectInitiated : Bool}
    {clear initiated connected clear' initiated' connected' : Nat}
    (whenClear : clear < clear') (whenInitiated : initiated < initiated')
    (whenConnected : connected < connected') :
    byFlags mConnected mConnectInitiated clear initiated connected <
      byFlags mConnected mConnectInitiated clear' initiated' connected' := by
  unfold byFlags
  split
  · exact whenConnected
  · split
    · exact whenInitiated
    · exact whenClear

theorem byFlags_lt_of {mConnected mConnectInitiated : Bool}
    {clear initiated connected bound : Nat} (whenClear : clear < bound)
    (whenInitiated : initiated < bound) (whenConnected : connected < bound) :
    byFlags mConnected mConnectInitiated clear initiated connected <
      bound := by
  unfold byFlags
  split
  · exact whenConnected
  · split
    · exact whenInitiated
    · exact whenClear

theorem lt_byFlags {mConnected mConnectInitiated : Bool}
    {clear initiated connected bound : Nat} (whenClear : bound < clear)
    (whenInitiated : bound < initiated) (whenConnected : bound < connected) :
    bound <
      byFlags mConnected mConnectInitiated clear initiated connected := by
  unfold byFlags
  split
  · exact whenConnected
  · split
    · exact whenInitiated
    · exact whenClear

namespace LoopPoint

/-- The steps which are left to the loop until it connects, when every timer
has run out and nothing is left to handle. -/
def untilConnect (mConnected mConnectInitiated : Bool) : LoopPoint → Nat
  | .finished | .threw => 0
  | .connect => 1
  | .reopen => 2
  | .closeSocket => 3
  | .closeTest | .closeInitiated => 4
  | .closeConnected => 5
  | .closeSend => 6
  | .reconnectTest => byFlags mConnected mConnectInitiated 5 11 12
  | .condition => byFlags mConnected mConnectInitiated 6 12 13
  | .restart | .connectTimeoutSettings | .keepAliveTimeoutSettings =>
      byFlags mConnected mConnectInitiated 7 13 14
  | .connectTimeoutConnected => byFlags mConnected mConnectInitiated 8 14 8
  | .keepAliveTimeoutInitiated => byFlags mConnected mConnectInitiated 8 8 15
  | .connectTimeoutInitiated => 9
  | .keepAliveTimeoutConnected => 9
  | .connectTimeoutTest => byFlags mConnected mConnectInitiated 10 10 11
  | .keepAliveTimeoutTest => byFlags mConnected mConnectInitiated 9 15 10
  | .settingsTest => byFlags mConnected mConnectInitiated 8 14 16
  | .sendSettings => byFlags mConnected mConnectInitiated 8 14 15
  | .settingsSent => byFlags mConnected mConnectInitiated 7 13 14
  | .poll => byFlags mConnected mConnectInitiated 7 13 14
  | .connectInitiated => 13
  | .receiveAgain => 15
  | .dispatch _ _ => 16
  | .confirmConnected _ _ => 17
  | .confirmInitiated _ _ => 18
  | .callback _ => 19

end LoopPoint

namespace KaiLoop

/-- What a completed receive adds when the loop gets to handle it. -/
def unhandled (kai : KaiLoop) : Nat :=
  if (takeCompleted kai.receives).isSome then 13 else 0

def stepsToConnect (kai : KaiLoop) : Nat :=
  if kai.loop = .connect ∧ kai.connection.mSocketOpen = false then
    -- This call of `Connect` will not work.
    20
  else
    kai.loop.untilConnect kai.connection.mConnected
        kai.connection.mConnectInitiated +
      if kai.loop.Reconnecting then 0 else kai.unhandled

/-- Nothing arrives, nobody closes the connection, the network takes what is
sent, the socket can be opened again, and the tests of the timers find them run
out. -/
def Silent (kai : KaiLoop) : Action → Prop
  | .loop now fails =>
      fails = false ∧
        (kai.loop = .connectTimeoutTest →
          now > kai.connection.mConnectionTimerStart + cConnectionTimeout) ∧
        (kai.loop = .keepAliveTimeoutTest →
          now > kai.connection.mKeepAliveTimerStart + cKeepAliveTimeout)
  | .usbSend _ | .usbSending _ => True
  | .datagram _ _ | .close _ => False

instance (kai : KaiLoop) : (action : Action) → Decidable (kai.Silent action)
  | .loop _ _ => inferInstanceAs (Decidable (_ ∧ _))
  | .usbSend _ | .usbSending _ => inferInstanceAs (Decidable True)
  | .datagram _ _ | .close _ => inferInstanceAs (Decidable False)

/-- XLink Kai was asked for a connection after so many events, or an exception
ended the process. -/
def AsksAgain (since : Nat) (kai : KaiLoop) : Prop :=
  kai.loop = .threw ∨ ∃ event ∈ kai.events.drop since, event.Connects

instance (since : Nat) (kai : KaiLoop) : Decidable (kai.AsksAgain since) :=
  inferInstanceAs (Decidable (_ ∨ _))

/-- The silence lasts until XLink Kai is asked again. -/
def SilentUntilAsked (since : Nat) (kai : KaiLoop) (action : Action) : Prop :=
  ¬ kai.AsksAgain since → kai.Silent action

instance (since : Nat) (kai : KaiLoop) (action : Action) :
    Decidable (kai.SilentUntilAsked since action) :=
  inferInstanceAs (Decidable (_ → _))

/-! ## The other threads -/

section Steps

variable {kai next : KaiLoop} {action : Action}

/-- Without flags the way is not longer than in a session. -/
theorem untilConnect_lowers {point : LoopPoint}
    {mConnected later mConnectInitiated : Bool}
    (exclusive : ¬ (mConnected = true ∧ mConnectInitiated = true))
    (lowers : later = true → mConnected = true) :
    point.untilConnect later mConnectInitiated ≤
      point.untilConnect mConnected mConnectInitiated := by
  cases mConnected with
  | true =>
      have clear : mConnectInitiated = false := by simpa using exclusive
      subst mConnectInitiated
      cases later <;> cases point <;> simp [LoopPoint.untilConnect, byFlags]
  | false =>
      have clear : later = false := by simpa using lowers
      subst later
      exact Nat.le_refl _

/-- A change of another thread which may end the session. -/
theorem stepsToConnect_beside (exclusive : kai.Exclusive)
    (lowers : kai.connection.Lowers next.connection)
    (receives : next.receives = kai.receives) (point : next.loop = kai.loop) :
    next.stepsToConnect ≤ kai.stepsToConnect := by
  unfold stepsToConnect unhandled
  rw [receives, point, lowers.socket, lowers.initiated]
  split
  · exact Nat.le_refl _
  · apply Nat.add_le_add_right
    exact untilConnect_lowers exclusive.exclusive lowers.connected

/-! ## The loop -/

/-- While a receive is handled none is outstanding. -/
theorem Chained.handling (chained : kai.Chained)
    (handling : kai.loop.Handling) : kai.receives = [] := by
  rcases chained with threw | one
  · rw [threw] at handling
    exact handling.elim
  · rw [receiveCount, handling.beingHandled] at one
    exact List.eq_nil_of_length_eq_zero (by omega)

/-- Unless the loop is about to fail. -/
theorem stepsToConnect_eq
    (works : kai.loop = .connect → kai.connection.mSocketOpen = true) :
    kai.stepsToConnect =
      kai.loop.untilConnect kai.connection.mConnected
          kai.connection.mConnectInitiated +
        if kai.loop.Reconnecting then 0 else kai.unhandled := by
  rw [stepsToConnect, if_neg]
  rintro ⟨here, closed⟩
  rw [works here] at closed
  cases closed

/-- Away from the reconnect branch what is left to handle does not grow. -/
theorem nearer_outside (outside : ¬ kai.loop.Reconnecting)
    (notConnecting : next.loop ≠ .connect)
    (unhandled : next.unhandled ≤ kai.unhandled)
    (less : next.loop.untilConnect next.connection.mConnected
        next.connection.mConnectInitiated <
      kai.loop.untilConnect kai.connection.mConnected
        kai.connection.mConnectInitiated) :
    next.stepsToConnect < kai.stepsToConnect := by
  have elsewhere : kai.loop ≠ .connect := by
    intro here
    rw [here] at outside
    exact outside trivial
  rw [stepsToConnect_eq fun there => absurd there notConnecting,
    stepsToConnect_eq fun here => absurd here elsewhere, if_neg outside]
  split <;> omega

/-- In the reconnect branch nothing is handled. -/
theorem nearer_inside (inside : kai.loop.Reconnecting)
    (notConnecting : kai.loop ≠ .connect)
    (still : next.loop.Reconnecting)
    (isOpen : next.loop = .connect → next.connection.mSocketOpen = true)
    (less : next.loop.untilConnect next.connection.mConnected
        next.connection.mConnectInitiated <
      kai.loop.untilConnect kai.connection.mConnected
        kai.connection.mConnectInitiated) :
    next.stepsToConnect < kai.stepsToConnect := by
  rw [stepsToConnect_eq isOpen,
    stepsToConnect_eq fun here => absurd here notConnecting, if_pos inside,
    if_pos still]
  exact less

/-- The reconnect branch ends with a call of `Connect` that works. -/
theorem loopStep_nearer_inside (inside : kai.loop.Reconnecting)
    (notConnecting : kai.loop ≠ .connect)
    (clear : kai.connection.mConnected = false ∧
      kai.connection.mConnectInitiated = false) (now : Int) :
    (kai.loopStep now false).stepsToConnect < kai.stepsToConnect := by
  obtain ⟨connected, initiated⟩ := clear
  unfold loopStep
  cases here : kai.loop with
  | connect => exact absurd here notConnecting
  | closeTest | closeSocket | closeConnected | closeInitiated | closeSend
  | reopen =>
      apply nearer_inside inside notConnecting <;>
        simp [here, goTo, connected, initiated, LoopPoint.Reconnecting,
          LoopPoint.untilConnect, XLinkKaiConnection.openSocket]
  | _ =>
      rw [here] at inside
      exact inside.elim

theorem unhandled_of_receives (same : next.receives = kai.receives) :
    next.unhandled ≤ kai.unhandled := by
  apply Nat.le_of_eq
  rw [unhandled, unhandled, same]

/-- The handler of a receive leads back to the poll. -/
theorem loopStep_nearer_handling (chained : kai.Chained)
    (handling : kai.loop.Handling) (now : Int)
    (returns : (kai.loopStep now false).loop ≠ .threw) :
    (kai.loopStep now false).stepsToConnect < kai.stepsToConnect := by
  have outside := handling.elsewhere.1
  unfold loopStep at *
  cases here : kai.loop with
  | callback aBytesReceived =>
      rw [here] at returns
      dsimp only at returns ⊢
      have same := kai.callbackHead_others aBytesReceived now
      apply nearer_outside outside
      · rcases kai.callbackHead_loop aBytesReceived now with
          threw | ⟨still, _⟩
        · exact absurd threw returns
        · intro there
          rw [there] at still
          exact still
      · exact unhandled_of_receives same.2.1
      · rcases kai.callbackHead_cases aBytesReceived now with
          ⟨_, goes⟩ | ⟨_, lCommand, point, goes, confirms⟩
        · rw [goes, here]
          change 15 < 19
          decide
        · rw [goes, here]
          rcases confirms with ⟨rfl, _⟩ | rfl
          · change 18 < 19
            decide
          · change 16 < 19
            decide
  | confirmInitiated lCommand lData | confirmConnected lCommand lData =>
      apply nearer_outside outside
      · simp [goTo]
      · exact Nat.le_refl _
      · simp [goTo, here, LoopPoint.untilConnect]
  | dispatch lCommand lData =>
      rw [here] at returns
      dsimp only at returns ⊢
      have same := kai.callbackBody_others lCommand lData false
      have again := (kai.callbackBody_loop lCommand lData
        false).resolve_left returns
      apply nearer_outside outside
      · simp [again]
      · exact unhandled_of_receives same.2.1
      · rw [again, here]
        exact Nat.lt_succ_self 15
  | receiveAgain =>
      have none := chained.handling handling
      apply nearer_outside outside
      · simp
      · simp only [unhandled, none]
        split <;> simp [takeCompleted]
      · rw [here]
        change byFlags _ _ 7 13 14 < 15
        apply byFlags_lt_of <;> decide
  | _ =>
      rw [here] at handling
      exact handling.elim

/-- A poll finds the one receive pending or completed. -/
theorem loopStep_nearer_poll (chained : kai.Chained) (running : kai.Running)
    (here : kai.loop = .poll) (now : Int) :
    (kai.loopStep now false).stepsToConnect < kai.stepsToConnect := by
  obtain ⟨receive, only⟩ := List.length_eq_one_iff.mp (chained.poll here)
  have outside : ¬ kai.loop.Reconnecting := by
    rw [here]
    exact id
  simp only [loopStep, here, running.1, only, Bool.false_eq_true, if_false,
    List.isEmpty_cons]
  cases receive with
  | pending =>
      apply nearer_outside outside
      · simp [takeCompleted, goTo]
      · exact Nat.le_refl _
      · rw [here]
        apply byFlags_lt <;> decide
  | completed aBytesReceived =>
      rw [stepsToConnect_eq fun there => (by cases there),
        stepsToConnect_eq fun there => absurd (here ▸ there) (by simp),
        if_neg outside, here]
      dsimp only [unhandled]
      rw [only]
      change 19 + 0 < byFlags _ _ 7 13 14 + 13
      have more : 6 < byFlags kai.connection.mConnected
          kai.connection.mConnectInitiated 7 13 14 := by
        apply lt_byFlags <;> decide
      omega

/-- The tests of the timers lead to the end of the session, and the end of the
session to the reconnect branch. -/
theorem loopStep_nearer_testing (consistent : kai.Consistent)
    (running : kai.Running) {now : Int}
    (outside : ¬ kai.loop.Reconnecting)
    (notHandling : ¬ kai.loop.Handling) (notPolling : kai.loop ≠ .poll)
    (returning : kai.loop ≠ .threw)
    (silent : kai.Silent (.loop now false)) :
    (kai.loopStep now false).stepsToConnect < kai.stepsToConnect := by
  obtain ⟨_, connectTimeout, keepAliveTimeout⟩ := silent
  have exclusive := consistent.exclusive.exclusive
  have going := running.1
  unfold loopStep
  cases here : kai.loop with
  | finished => exact absurd here running.2
  | threw => exact absurd here returning
  | poll => exact absurd here notPolling
  | condition | reconnectTest | connectTimeoutTest | keepAliveTimeoutTest
  | settingsTest =>
      apply nearer_outside outside
      · dsimp only [goTo]
        split <;> simp
      · exact Nat.le_refl _
      · dsimp only [goTo]
        cases connected : kai.connection.mConnected <;>
          cases initiated : kai.connection.mConnectInitiated <;>
          cases sent : kai.connection.mSettingsSent <;>
          simp_all [LoopPoint.untilConnect, byFlags]
  | restart | connectTimeoutInitiated | connectTimeoutConnected
  | connectTimeoutSettings | keepAliveTimeoutConnected
  | keepAliveTimeoutInitiated | keepAliveTimeoutSettings | settingsSent =>
      apply nearer_outside outside
      · simp [goTo]
      · exact Nat.le_refl _
      · cases connected : kai.connection.mConnected <;>
          cases initiated : kai.connection.mConnectInitiated <;>
          simp_all [goTo, setInitiated, setConnected, setSettingsSent,
            LoopPoint.untilConnect, byFlags]
  | connectInitiated =>
      apply nearer_outside outside
      · simp
      · exact Nat.le_refl _
      · have connected := consistent.exclusive.connecting here
        simp [here, connected, LoopPoint.untilConnect, byFlags]
  | sendSettings =>
      have lowers := kai.connection.send_lowers cSettingDDSOnlyString [] false
      apply nearer_outside outside
      · simp [goTo]
      · exact Nat.le_refl _
      · have shorter : LoopPoint.settingsSent.untilConnect
            (kai.connection.send cSettingDDSOnlyString []
              false).connection.mConnected
            kai.connection.mConnectInitiated ≤ _ :=
          untilConnect_lowers exclusive lowers.connected
        rw [here]
        dsimp only [goTo, sendMessage, exchange]
        rw [lowers.initiated]
        apply Nat.lt_of_le_of_lt shorter
        apply byFlags_lt <;> decide
  | callback | confirmInitiated | confirmConnected | dispatch
  | receiveAgain =>
      rw [here] at notHandling
      exact absurd trivial notHandling
  | closeTest | closeSend | closeConnected | closeInitiated | closeSocket
  | reopen | connect =>
      rw [here] at outside
      exact absurd trivial outside

/-- A call of `Connect` on an open socket sends its string. -/
theorem loopStep_connects (here : kai.loop = .connect) (now : Int)
    (isOpen : kai.connection.mSocketOpen = true) :
    (kai.loopStep now false).events =
      kai.events ++ [.sent cConnectString kai.connection.mRemote] := by
  rw [loopStep, here]
  dsimp only [goTo, sendMessage, exchange]
  rw [XLinkKaiConnection.send_transmitted_eq, if_pos ⟨isOpen, by simp, rfl⟩]
  rfl

/-- On a closed socket it fails, and the loop starts over. -/
theorem loopStep_nearer_closed (exclusive : kai.Exclusive)
    (here : kai.loop = .connect) (now : Int)
    (closed : kai.connection.mSocketOpen = false) :
    (kai.loopStep now false).stepsToConnect < kai.stepsToConnect := by
  have clear := exclusive.reconnecting (by rw [here]; trivial)
  have startsOver : kai.loopStep now false = (kai.setConnected false).goTo
      .condition := by
    simp [loopStep, here, goTo, setConnected, sendMessage, exchange,
      XLinkKaiConnection.send, closed]
  have few : kai.unhandled ≤ 13 := by
    unfold unhandled
    split <;> decide
  have before : kai.stepsToConnect = 20 := if_pos ⟨here, closed⟩
  rw [startsOver, before, stepsToConnect_eq fun there => (by cases there)]
  change byFlags false kai.connection.mConnectInitiated 6 12 13 +
    kai.unhandled < 20
  rw [clear.2]
  change 6 + kai.unhandled < 20
  omega

theorem loopStep_nearer (consistent : kai.Consistent) (running : kai.Running)
    {now : Int} (silent : kai.Silent (.loop now false))
    (returning : kai.loop ≠ .threw)
    (returns : (kai.loopStep now false).loop ≠ .threw)
    (unasked : ∀ mRemote, (kai.loopStep now false).events ≠
      kai.events ++ [.sent cConnectString mRemote]) :
    (kai.loopStep now false).stepsToConnect < kai.stepsToConnect := by
  by_cases inside : kai.loop.Reconnecting
  · by_cases connecting : kai.loop = .connect
    · cases isOpen : kai.connection.mSocketOpen with
      | true =>
          exact absurd (loopStep_connects connecting now isOpen) (unasked _)
      | false =>
          exact loopStep_nearer_closed consistent.exclusive connecting now
            isOpen
    · exact loopStep_nearer_inside inside connecting
        (consistent.exclusive.reconnecting inside) now
  · by_cases handling : kai.loop.Handling
    · exact loopStep_nearer_handling consistent.chained handling now returns
    · by_cases polling : kai.loop = .poll
      · exact loopStep_nearer_poll consistent.chained running polling now
      · exact loopStep_nearer_testing consistent running inside handling
          polling returning silent

theorem stepsToConnect_le (kai : KaiLoop) : kai.stepsToConnect ≤ 32 := by
  have few : kai.unhandled ≤ 13 := by
    unfold unhandled
    split <;> decide
  have way : kai.loop.untilConnect kai.connection.mConnected
      kai.connection.mConnectInitiated ≤ 19 := by
    cases kai.loop <;> simp only [LoopPoint.untilConnect, byFlags] <;>
      (try split) <;> (try split) <;> decide
  unfold stepsToConnect
  split
  · decide
  · split <;> omega

theorem threw_of_stepsToConnect (running : kai.Running)
    (nothing : kai.stepsToConnect = 0) : kai.loop = .threw := by
  unfold stepsToConnect at nothing
  split at nothing
  · cases nothing
  · cases here : kai.loop with
    | finished => exact absurd here running.2
    | threw => rfl
    | _ =>
        exfalso
        simp only [here, LoopPoint.untilConnect, byFlags] at nothing
        split at nothing <;> (try split at nothing) <;> omega

/-! ## Runs -/

/-- What was said stays said. -/
theorem AsksAgain.step {since : Nat} (asks : kai.AsksAgain since)
    (taken : machine.step kai action = some next) : next.AsksAgain since := by
  obtain ⟨event, member, connects⟩ := asks.resolve_left (stepped taken).1
  obtain ⟨more, added, _⟩ := step_adds taken
  refine .inr ⟨event, ?_, connects⟩
  rw [added, List.drop_append]
  exact List.mem_append_left _ member

/-- The loop is on its way to ask for a connection. -/
structure Recovering (since : Nat) (kai : KaiLoop) : Prop where
  consistent : kai.Consistent
  running : kai.Running
  events : since ≤ kai.events.length

theorem Recovering.step {since : Nat} (recovering : kai.Recovering since)
    (silent : kai.Silent action)
    (taken : machine.step kai action = some next) : next.Recovering since where
  consistent := recovering.consistent.step taken
  running := by
    apply recovering.running.step recovering.consistent.chained _ taken
    cases action with
    | close fails => exact silent.elim
    | _ => simp [Action.isClose]
  events := by
    have before := recovering.events
    obtain ⟨more, added, _⟩ := step_adds taken
    rw [added, List.length_append]
    omega

theorem Recovering.nearer {since : Nat} (recovering : kai.Recovering since)
    (silent : kai.Silent action)
    (taken : machine.step kai action = some next)
    (unasked : ¬ next.AsksAgain since) :
    next.stepsToConnect ≤ kai.stepsToConnect ∧
      (action.isLoop = true → next.stepsToConnect < kai.stepsToConnect) := by
  have exclusive := recovering.consistent.exclusive
  obtain ⟨returning, steps⟩ := stepped taken
  cases steps with
  | loop now fails =>
      have works := silent.1
      subst fails
      have less := loopStep_nearer recovering.consistent recovering.running
        silent returning (fun threw => unasked (.inl threw)) ?_
      · exact ⟨Nat.le_of_lt less, fun _ => less⟩
      · intro mRemote asked
        apply unasked
        refine .inr ⟨.sent cConnectString mRemote, ?_, rfl⟩
        rw [asked, List.drop_append_of_le_length recovering.events]
        simp
  | usbSend | usbSendAccepts | usbSendRefuses | usbSendTo =>
      exact ⟨stepsToConnect_beside exclusive (.refl kai.connection) rfl rfl,
        nofun⟩
  | usbSendClosed =>
      exact ⟨stepsToConnect_beside exclusive
        ⟨by simp [setConnected], rfl, rfl, rfl, rfl⟩ rfl rfl, nofun⟩
  | datagram | closeTest | closeSend | closeConnected | closeInitiated
  | closeStop | closeJoin | closeSocket => exact silent.elim

end Steps

section Runs

variable {connection : XLinkKaiConnection} {past actions : List Action}
  {kai finish : KaiLoop}

theorem running_of_run (notClosing : ∀ action ∈ past, ¬ action.isClose)
    (reached : machine.run (start connection) past = some kai) :
    kai.Consistent ∧ kai.Running := by
  apply machine.guarded_invariant
    (fun kai => kai.Consistent ∧ kai.Running) _
    ⟨consistent_start connection, rfl, by simp [start]⟩
    (LabelledMachine.guarded_of_labels
      (fun action member _ => notClosing action member) _) reached
  rintro kai action next ⟨consistent, running⟩ outside taken
  exact ⟨consistent.step taken,
    running.step consistent.chained outside taken⟩

/-- Whatever state a session was left in: when XLink Kai stays silent beyond
the timeouts, the loop asks for a new connection within 32 of its steps. -/
theorem asks_again (notClosing : ∀ action ∈ past, ¬ action.isClose)
    (before : machine.run (start connection) past = some kai)
    (silent : machine.Guarded (SilentUntilAsked kai.events.length) kai actions)
    (reached : machine.run kai actions = some finish)
    (enough : 32 ≤ actions.countP Action.isLoop) :
    finish.AsksAgain kai.events.length := by
  obtain ⟨consistent, running⟩ := running_of_run notClosing before
  have bound := stepsToConnect_le kai
  refine LabelledMachine.reaches_of_rank stepsToConnect
    (Recovering kai.events.length) Action.isLoop ?_ ?_
    (fun _ _ _ asks => asks.step) ⟨consistent, running, Nat.le_refl _⟩ silent
    reached (by omega)
  · exact fun _ recovering nothing =>
      .inl (threw_of_stepsToConnect recovering.running nothing)
  · intro state action next recovering unasked silent taken
    by_cases asks : next.AsksAgain kai.events.length
    · exact .inl asks
    · obtain ⟨notMore, less⟩ := recovering.nearer (silent unasked) taken asks
      exact .inr ⟨recovering.step (silent unasked) taken, notMore, less⟩

/-- XLink Kai confirms, and is not heard of for more than a minute. -/
def thenSilent : List Action :=
  List.replicate 3 (.loop 60000000001 false) ++ .usbSend [1, 2, 3] ::
    List.replicate 2 (.usbSending false) ++
    List.replicate 29 (.loop 60000000001 false)

theorem asks_again_thenSilent :
    ∃ kai finish,
      machine.run (start {}) (connecting ++ confirmed) = some kai ∧
        kai.connection.mConnected = true ∧
        machine.run kai thenSilent = some finish ∧
        finish.loop ≠ .threw ∧ finish.AsksAgain kai.events.length := by
  have runs : (machine.run (start {}) (connecting ++ confirmed)).any
      (fun kai => decide (kai.connection.mConnected = true ∧
        machine.Guarded (SilentUntilAsked kai.events.length) kai thenSilent ∧
        (machine.run kai thenSilent).any fun finish =>
          decide (finish.loop ≠ .threw))) = true := by
    decide +kernel
  obtain ⟨kai, before, outcome⟩ := (Option.any_eq_true _ _).mp runs
  obtain ⟨connected, silent, goes⟩ := of_decide_eq_true outcome
  obtain ⟨finish, reached, returns⟩ := (Option.any_eq_true _ _).mp goes
  exact ⟨kai, finish, before, connected, reached, of_decide_eq_true returns,
    asks_again (by decide) before silent reached (by decide)⟩

end Runs

end KaiLoop

end CWUSB
