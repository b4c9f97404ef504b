import CWUSB.Destination
import CWUSB.KaiSession

/-!
# The last disconnect

`Close(true)` disconnects from XLink Kai and clears both flags before it stops
the loop of the receiver thread.  That both are clear is what makes the loop
connect again.  Nothing follows the disconnect when the loop does not take its
reconnect branch any more, and is not in it when the disconnect is sent.
-/

namespace CWUSB

def KaiEvent.Connects : KaiEvent → Prop
  | .sent datagram _ => datagram = cConnectString
  | _ => False

instance : DecidablePred KaiEvent.Connects
  | .sent datagram _ => inferInstanceAs (Decidable (datagram = _))
  | .accepted _ | .sessionStarted | .forwarded _ =>
      inferInstanceAs (Decidable False)

instance : DecidablePred LoopPoint.Reconnecting := fun point => by
  unfold LoopPoint.Reconnecting
  split <;> infer_instance

namespace KaiLoop

/-! ## The history -/

/-- The step is that of `Close(true)` which sends the disconnect. -/
def disconnects (kai : KaiLoop) : Action → Bool
  | .close fails =>
      decide (kai.closing = .send) &&
        (kai.connection.send cDisconnectString [] fails).transmitted.isSome
  | _ => false

/-- The number of events up to the disconnect of `Close(true)`. -/
def noteDisconnect (kai : KaiLoop) (action : Action)
    (disconnected : Option Nat) : Option Nat :=
  if kai.disconnects action then some (kai.events.length + 1)
  else disconnected

def ending : LabelledMachine (KaiLoop × Option Nat) Action :=
  machine.withHistory noteDisconnect

/-- No connect string was sent after the disconnect. -/
def NothingAfter (current : KaiLoop × Option Nat) : Prop :=
  ∀ disconnected, current.2 = some disconnected →
    ∀ event ∈ current.1.events.drop disconnected, ¬ event.Connects

/-- The disconnect is not sent while the loop reconnects, and after it the loop
does not find both flags clear. -/
def StaysClosed (current : KaiLoop × Option Nat) (action : Action) : Prop :=
  (current.1.disconnects action = true → ¬ current.1.loop.Reconnecting) ∧
    (current.2.isSome = true → current.1.loop = .reconnectTest →
      current.1.connection.mConnected = true ∨
        current.1.connection.mConnectInitiated = true)

instance (current : KaiLoop × Option Nat) (action : Action) :
    Decidable (StaysClosed current action) :=
  inferInstanceAs (Decidable (_ ∧ _))

/-! ## What a step sends -/

/-- A change which adds no connect string to the events. -/
def AddsNoConnect (kai next : KaiLoop) : Prop :=
  ∃ more, next.events = kai.events ++ more ∧
    ∀ event ∈ more, ¬ event.Connects

section Sends

variable {kai next : KaiLoop}

theorem AddsNoConnect.refl (kai : KaiLoop) : kai.AddsNoConnect kai :=
  ⟨[], by simp, by simp⟩

theorem addsNoConnect_of_same (same : next.events = kai.events) :
    kai.AddsNoConnect next :=
  ⟨[], by simp [same], by simp⟩

theorem addsNoConnect_exchange {connection : XLinkKaiConnection}
    {transmitted : Option (List UInt8)}
    (other : ∀ datagram ∈ transmitted, datagram ≠ cConnectString) :
    kai.AddsNoConnect (kai.exchange connection transmitted) := by
  refine ⟨_, rfl, ?_⟩
  intro event member
  obtain ⟨datagram, sent, rfl⟩ := List.mem_map.mp member
  exact other datagram (by simpa using sent)

theorem addsNoConnect_sendMessage {aCommand aData : List UInt8}
    (other : aCommand ++ aData ≠ cConnectString) (fails : Bool) :
    kai.AddsNoConnect (kai.sendMessage aCommand aData fails) := by
  apply addsNoConnect_exchange
  intro datagram sent
  rw [XLinkKaiConnection.send_transmitted_eq] at sent
  split at sent
  · cases sent
    exact other
  · cases sent

theorem addsNoConnect_callbackHead (aBytesReceived : Nat) (now : Int) :
    kai.AddsNoConnect (kai.callbackHead aBytesReceived now) := by
  apply addsNoConnect_of_same
  unfold callbackHead
  dsimp only
  split
  · rfl
  · split
    · rfl
    · split <;> rfl

/-- The callback answers keepalives only. -/
theorem dispatch_transmitted {connection : XLinkKaiConnection}
    {lCommand lData : List UInt8} {fails : Bool}
    {received : XLinkKaiConnection.Received}
    (returns : connection.dispatch lCommand lData fails = .ok received) :
    ∀ datagram ∈ received.transmitted, datagram ≠ cConnectString := by
  unfold XLinkKaiConnection.dispatch at returns
  cases reacts : XLinkKaiConnection.react connection.mIncomingConnection
      lCommand lData with
  | error exception => simp [reacts, Except.map] at returns
  | ok reaction =>
      simp only [reacts, Except.map, Except.ok.injEq] at returns
      subst received
      cases reaction with
      | keepAlive =>
          intro datagram sent
          rw [XLinkKaiConnection.act,
            XLinkKaiConnection.send_transmitted_eq] at sent
          split at sent
          · cases sent
            decide
          · cases sent
      | nothing | ethernetData | disconnected =>
          intro datagram sent
          cases sent

theorem addsNoConnect_callbackBody (lCommand lData : List UInt8)
    (fails : Bool) :
    kai.AddsNoConnect (kai.callbackBody lCommand lData fails) := by
  unfold callbackBody
  split
  · split
    · exact .refl kai
    · next received returns =>
        have exchanged : kai.AddsNoConnect
            (kai.exchange received.connection received.transmitted) :=
          addsNoConnect_exchange (dispatch_transmitted returns)
        obtain ⟨more, events, others⟩ := exchanged
        refine ⟨more ++ received.forwarded.toList.map .forwarded, ?_, ?_⟩
        · simp only [events, List.append_assoc]
        · intro event member
          rcases List.mem_append.mp member with sent | forwarded
          · exact others event sent
          · obtain ⟨aData, _inForwarded, rfl⟩ := List.mem_map.mp forwarded
            exact id
  · exact .refl kai

/-- Only `Connect` sends the connect string. -/
theorem addsNoConnect_loopStep (now : Int) (fails : Bool)
    (notConnecting : kai.loop ≠ .connect) :
    kai.AddsNoConnect (kai.loopStep now fails) := by
  unfold loopStep
  cases here : kai.loop with
  | connect => exact absurd here notConnecting
  | closeSend => exact addsNoConnect_sendMessage (by decide) fails
  | sendSettings => exact addsNoConnect_sendMessage (by decide) fails
  | callback aBytesReceived => exact addsNoConnect_callbackHead _ now
  | dispatch lCommand lData => exact addsNoConnect_callbackBody _ _ fails
  | confirmConnected lCommand lData =>
      dsimp only [goTo, confirmConnected]
      by_cases connected : kai.connection.mConnected = true
      · exact addsNoConnect_of_same (if_pos connected)
      · exact ⟨[.sessionStarted], if_neg connected, by simp [KaiEvent.Connects]⟩
  | poll =>
      apply addsNoConnect_of_same
      dsimp only
      split
      · rfl
      · split
        · rfl
        · split <;> rfl
  | _ => exact addsNoConnect_of_same rfl

/-- The loop takes the reconnect branch only behind its test. -/
theorem loopStep_notReconnecting (now : Int) (fails : Bool)
    (outside : ¬ kai.loop.Reconnecting)
    (flags : kai.loop = .reconnectTest →
      kai.connection.mConnected = true ∨
        kai.connection.mConnectInitiated = true) :
    ¬ (kai.loopStep now fails).loop.Reconnecting := by
  unfold loopStep
  cases here : kai.loop with
  | reconnectTest =>
      have set := flags here
      have busy : ¬ (!kai.connection.mConnected &&
          !kai.connection.mConnectInitiated) = true := by
        rcases set with connected | initiated
        · simp [connected]
        · simp [initiated]
      dsimp only [goTo]
      rw [if_neg busy]
      exact id
  | callback aBytesReceived =>
      rcases kai.callbackHead_loop aBytesReceived now with
        threw | ⟨handling, _⟩
      · rw [threw]
        exact id
      · exact handling.elsewhere.1
  | dispatch lCommand lData =>
      rcases kai.callbackBody_loop lCommand lData fails with threw | again
      · rw [threw]
        exact id
      · rw [again]
        exact id
  | poll =>
      dsimp only
      split
      · exact id
      · split
        · exact id
        · split <;> exact id
  | condition | connectTimeoutTest | keepAliveTimeoutTest | settingsTest =>
      dsimp only [goTo]
      split <;> exact id
  | closeTest | closeSend | closeConnected | closeInitiated | closeSocket
  | reopen | connect =>
      rw [here] at outside
      exact absurd trivial outside
  | finished | threw =>
      rw [here]
      exact id
  | _ => exact id

end Sends

/-! ## Runs -/

/-- Once the disconnect was sent the loop is outside of its reconnect branch,
and nothing sent since is a connect string. -/
structure Closed (current : KaiLoop × Option Nat) : Prop where
  outside : current.2.isSome = true → ¬ current.1.loop.Reconnecting
  sent : ∀ disconnected, current.2 = some disconnected →
    disconnected ≤ current.1.events.length
  nothing : NothingAfter current

section Step

variable {kai next : KaiLoop} {action : Action} {disconnected : Option Nat}

theorem step_notReconnecting (taken : machine.step kai action = some next)
    (outside : ¬ kai.loop.Reconnecting)
    (flags : kai.loop = .reconnectTest →
      kai.connection.mConnected = true ∨
        kai.connection.mConnectInitiated = true) :
    ¬ next.loop.Reconnecting := by
  cases (stepped taken).2 with
  | loop now fails => exact loopStep_notReconnecting now fails outside flags
  | _ => exact outside

theorem step_addsNoConnect (taken : machine.step kai action = some next)
    (outside : ¬ kai.loop.Reconnecting) : kai.AddsNoConnect next := by
  cases (stepped taken).2 with
  | loop now fails =>
      apply addsNoConnect_loopStep now fails
      intro here
      rw [here] at outside
      exact outside trivial
  | usbSendTo aData fails here =>
      obtain ⟨more, events, others⟩ :
          kai.AddsNoConnect
            (kai.sendTo (cEthernetDataString ++ aData) fails) := by
        apply addsNoConnect_exchange
        intro datagram sent same
        rw [Option.mem_def, Option.ite_none_right_eq_some] at sent
        cases sent.2
        cases congrArg List.head? same
      exact ⟨more, events, others⟩
  | usbSendAccepts => exact ⟨[.accepted _], rfl, by simp [KaiEvent.Connects]⟩
  | closeSend fails here => exact addsNoConnect_sendMessage (by decide) fails
  | _ => exact addsNoConnect_of_same rfl

/-- The disconnect of `Close(true)` is one event. -/
theorem step_disconnects (taken : machine.step kai action = some next)
    (disconnects : kai.disconnects action = true) :
    next.events.length = kai.events.length + 1 ∧ next.loop = kai.loop := by
  cases (stepped taken).2 with
  | closeSend fails here =>
      simp only [KaiLoop.disconnects, here, decide_true, Bool.true_and]
        at disconnects
      obtain ⟨datagram, sent⟩ := Option.isSome_iff_exists.mp disconnects
      simp [sendMessage, exchange, sent]
  | _ => simp_all [KaiLoop.disconnects]

theorem Closed.step (closed : Closed (kai, disconnected))
    (stays : StaysClosed (kai, disconnected) action)
    (taken : machine.step kai action = some next) :
    Closed (next, noteDisconnect kai action disconnected) := by
  cases disconnects : kai.disconnects action with
  | true =>
      obtain ⟨length, loop⟩ := step_disconnects taken disconnects
      have outside := stays.1 disconnects
      rw [noteDisconnect, if_pos disconnects]
      constructor
      · intro _
        dsimp only
        rw [loop]
        exact outside
      · rintro _ ⟨rfl⟩
        exact Nat.le_of_eq length.symm
      · rintro _ ⟨rfl⟩ event member
        dsimp only at member
        rw [← length, List.drop_length] at member
        cases member
  | false =>
      rw [noteDisconnect, disconnects, if_neg Bool.false_ne_true]
      constructor
      · intro since
        exact step_notReconnecting taken (closed.outside since)
          (stays.2 since)
      · intro count since
        obtain ⟨more, events, _others⟩ := step_addsNoConnect taken
          (closed.outside (Option.isSome_iff_exists.mpr ⟨count, since⟩))
        have before := closed.sent count since
        dsimp only at before ⊢
        rw [events, List.length_append]
        omega
      · intro count since event member
        obtain ⟨more, events, others⟩ := step_addsNoConnect taken
          (closed.outside (Option.isSome_iff_exists.mpr ⟨count, since⟩))
        have before := closed.sent count since
        dsimp only at before member
        rw [events, List.drop_append_of_le_length before] at member
        rcases List.mem_append.mp member with earlier | now
        · exact closed.nothing count since event earlier
        · exact others event now

end Step

/-- Nothing connects after the disconnect of `Close(true)` in a run in which
the loop stays out of its reconnect branch from then on. -/
theorem last_disconnect {connection : XLinkKaiConnection}
    {actions : List Action}
    (stays : ending.Guarded StaysClosed (start connection, none) actions) :
    ending.Always NothingAfter (start connection, none) actions := by
  refine ending.always_of_guarded Closed ?_ (fun _ closed => closed.nothing)
    ⟨nofun, nofun, nofun⟩ stays
  rintro ⟨kai, disconnected⟩ action ⟨next, last⟩ closed stays taken
  obtain ⟨moves, rfl⟩ := LabelledMachine.withHistory_step_eq_some.mp taken
  exact closed.step stays moves

/-- `Close(true)` runs while the loop is behind its first test, and is
joined. -/
def closedBehindTest : List Action :=
  connecting ++ confirmed ++ .loop 0 false :: List.replicate 5 (.close false) ++
    List.replicate 5 (.loop 0 false) ++ List.replicate 2 (.close false)

theorem last_disconnect_closedBehindTest :
    ending.Always NothingAfter (start {}, none) closedBehindTest :=
  last_disconnect (by decide +kernel)

/-- The loop gets to its test between the assignments of `Close(true)` and the
stop. -/
def closedBeforeTest : List Action :=
  connecting ++ confirmed ++ List.replicate 4 (.close false) ++
    List.replicate 5 (.loop 0 false) ++ .close false ::
      List.replicate 2 (.loop 0 false) ++ List.replicate 2 (.close false)

/-- The program ends, and the last datagram sent is the connect string. -/
theorem connects_after_disconnect :
    ∃ finish disconnected,
      ending.run (start {}, none) closedBeforeTest =
          some (finish, some disconnected) ∧
        finish.loop = .finished ∧ finish.closing = .closed ∧
        ¬ NothingAfter (finish, some disconnected) := by
  have runs : (ending.run (start {}, none) closedBeforeTest).any
      (fun current => decide (current.2 = some 4 ∧
        current.1.loop = .finished ∧ current.1.closing = .closed ∧
        ∃ event ∈ current.1.events.drop 4, event.Connects)) = true := by
    decide +kernel
  obtain ⟨⟨finish, disconnected⟩, reached, outcome⟩ :=
    (Option.any_eq_true _ _).mp runs
  obtain ⟨same, finished, closed, event, member, connects⟩ :=
    of_decide_eq_true outcome
  dsimp only at same
  subst same
  refine ⟨finish, 4, reached, finished, closed, fun nothing => ?_⟩
  exact nothing 4 rfl event member connects

end KaiLoop

end CWUSB
