import CWUSB.KaiLoop

/-!
# The flags of a session

`mConnected` and `mConnectInitiated` are assigned by three threads, but only
the receiver thread sets them: `mConnectInitiated` behind a test that both are
clear, and `mConnected` behind the assignment which clears the other.  So they
are never set together, and a session is guarded by the keepalive timeout.
-/

namespace CWUSB

namespace XLinkKaiConnection

/-- A change which may end a session, and leaves the other flag, the settings,
the timers and the socket alone. -/
structure Lowers (connection next : XLinkKaiConnection) : Prop where
  connected : next.mConnected = true → connection.mConnected = true
  initiated : next.mConnectInitiated = connection.mConnectInitiated
  settings : next.mSettingsSent = connection.mSettingsSent
  keepAlive : next.mKeepAliveTimerStart = connection.mKeepAliveTimerStart
  socket : next.mSocketOpen = connection.mSocketOpen

theorem Lowers.refl (connection : XLinkKaiConnection) :
    connection.Lowers connection :=
  ⟨id, rfl, rfl, rfl, rfl⟩

/-- On an open socket `Send` changes nothing. -/
theorem send_connection_of_open {connection : XLinkKaiConnection}
    (isOpen : connection.mSocketOpen = true) (aCommand aData : List UInt8)
    (fails : Bool) :
    (connection.send aCommand aData fails).connection = connection := by
  unfold send
  rw [if_pos isOpen]
  split
  · split <;> rfl
  · rfl

/-- `Send` works on an open socket only. -/
theorem send_lReturn {connection : XLinkKaiConnection}
    {aCommand aData : List UInt8} {fails : Bool}
    (works : (connection.send aCommand aData fails).lReturn = true) :
    connection.mSocketOpen = true := by
  unfold send at works
  split at works
  · next isOpen => exact isOpen
  · cases works

theorem send_lowers (connection : XLinkKaiConnection)
    (aCommand aData : List UInt8) (fails : Bool) :
    connection.Lowers
      (connection.send aCommand aData fails).connection := by
  cases isOpen : connection.mSocketOpen with
  | true =>
      rw [send_connection_of_open isOpen]
      exact .refl connection
  | false =>
      simp only [send, isOpen, Bool.false_eq_true, if_false]
      exact ⟨by simp, rfl, rfl, rfl, isOpen.symm⟩

theorem dispatch_lowers {connection : XLinkKaiConnection}
    {lCommand lData : List UInt8} {fails : Bool} {received : Received}
    (returns : connection.dispatch lCommand lData fails = .ok received) :
    connection.Lowers received.connection := by
  unfold dispatch at returns
  cases reacts : react connection.mIncomingConnection lCommand lData with
  | error exception => simp [reacts, Except.map] at returns
  | ok reaction =>
      simp only [reacts, Except.map, Except.ok.injEq] at returns
      subst received
      cases reaction with
      | nothing => exact .refl connection
      | keepAlive => exact send_lowers connection cKeepAliveString [] fails
      | ethernetData mEthernetData => exact ⟨id, rfl, rfl, rfl, rfl⟩
      | disconnected => exact ⟨by simp [act], rfl, rfl, rfl, rfl⟩

end XLinkKaiConnection

/-! ## Ranges of the loop -/

namespace LoopPoint

/-- From the test that both flags are clear to the call of `Connect`. -/
def Reconnecting : LoopPoint → Prop
  | .closeTest | .closeSend | .closeConnected | .closeInitiated
  | .closeSocket | .reopen | .connect => True
  | _ => False

/-- Inside the completion handler. -/
def Handling : LoopPoint → Prop
  | .callback _ | .confirmInitiated _ _ | .confirmConnected _ _
  | .dispatch _ _ | .receiveAgain => True
  | _ => False

theorem Handling.elsewhere {point : LoopPoint} (handling : point.Handling) :
    ¬ point.Reconnecting ∧ point ≠ .connectInitiated := by
  cases point <;> simp_all [Handling, Reconnecting]

/-- About to execute `mConnected = true`. -/
def Confirming : LoopPoint → Prop
  | .confirmConnected _ _ => True
  | _ => False

instance : DecidablePred Confirming := fun point => by
  unfold Confirming
  split <;> infer_instance

end LoopPoint

namespace KaiLoop

section Parts

variable (kai : KaiLoop)

theorem callbackHead_connection (aBytesReceived : Nat) (now : Int) :
    (kai.callbackHead aBytesReceived now).connection = kai.connection ∨
      (kai.callbackHead aBytesReceived now).connection =
        kai.connection.tickle now := by
  unfold callbackHead
  dsimp only
  split
  · exact .inl rfl
  · split
    · exact .inr rfl
    · split <;> exact .inr rfl

theorem callbackHead_session (aBytesReceived : Nat) (now : Int) :
    (kai.callbackHead aBytesReceived now).connection.mConnected =
        kai.connection.mConnected ∧
      (kai.callbackHead aBytesReceived now).connection.mConnectInitiated =
        kai.connection.mConnectInitiated ∧
      (kai.callbackHead aBytesReceived now).connection.mSocketOpen =
        kai.connection.mSocketOpen := by
  rcases kai.callbackHead_connection aBytesReceived now with same | tickled
  · rw [same]
    exact ⟨rfl, rfl, rfl⟩
  · rw [tickled]
    exact ⟨rfl, rfl, rfl⟩

/-- The callback goes on with the confirmation, the message, or the end. -/
theorem callbackHead_loop (aBytesReceived : Nat) (now : Int) :
    (kai.callbackHead aBytesReceived now).loop = .threw ∨
      ((kai.callbackHead aBytesReceived now).loop.Handling ∧
        ¬ (kai.callbackHead aBytesReceived now).loop.Confirming) := by
  unfold callbackHead
  dsimp only
  split
  · exact .inr ⟨trivial, id⟩
  · split
    · exact .inl rfl
    · split <;> exact .inr ⟨trivial, id⟩

theorem callbackBody_lowers (lCommand lData : List UInt8) (fails : Bool) :
    kai.connection.Lowers
      (kai.callbackBody lCommand lData fails).connection := by
  unfold callbackBody
  split
  · split
    · exact .refl kai.connection
    · next received returns =>
        exact XLinkKaiConnection.dispatch_lowers returns
  · exact .refl kai.connection

theorem callbackBody_loop (lCommand lData : List UInt8) (fails : Bool) :
    (kai.callbackBody lCommand lData fails).loop = .threw ∨
      (kai.callbackBody lCommand lData fails).loop = .receiveAgain := by
  unfold callbackBody
  split
  · split
    · exact .inl rfl
    · exact .inr rfl
  · exact .inr rfl

/-- The callback only takes part in the session. -/
theorem callbackHead_others (aBytesReceived : Nat) (now : Int) :
    (kai.callbackHead aBytesReceived now).stopped = kai.stopped ∧
      (kai.callbackHead aBytesReceived now).receives = kai.receives ∧
      (kai.callbackHead aBytesReceived now).closing = kai.closing := by
  unfold callbackHead
  dsimp only
  split
  · exact ⟨rfl, rfl, rfl⟩
  · split
    · exact ⟨rfl, rfl, rfl⟩
    · split <;> exact ⟨rfl, rfl, rfl⟩

theorem callbackBody_others (lCommand lData : List UInt8) (fails : Bool) :
    (kai.callbackBody lCommand lData fails).stopped = kai.stopped ∧
      (kai.callbackBody lCommand lData fails).receives = kai.receives ∧
      (kai.callbackBody lCommand lData fails).closing = kai.closing := by
  unfold callbackBody
  split
  · split <;> exact ⟨rfl, rfl, rfl⟩
  · exact ⟨rfl, rfl, rfl⟩

/-- The loop takes no part in a `Send` of the USB receive thread. -/
theorem loopStep_usbSend (now : Int) (fails : Bool) :
    (kai.loopStep now fails).usbSend = kai.usbSend := by
  unfold loopStep
  cases kai.loop with
  | poll =>
      dsimp only
      split
      · rfl
      · split
        · rfl
        · split <;> rfl
  | callback aBytesReceived =>
      dsimp only [callbackHead]
      split
      · rfl
      · split
        · rfl
        · split <;> rfl
  | dispatch lCommand lData =>
      dsimp only [callbackBody]
      split
      · split <;> rfl
      · rfl
  | _ => rfl

end Parts

/-! ## The flags exclude each other -/

/-- The flags are never set together; where one of them is about to be set,
the other is clear. -/
structure Exclusive (kai : KaiLoop) : Prop where
  exclusive : ¬ (kai.connection.mConnected = true ∧
    kai.connection.mConnectInitiated = true)
  reconnecting : kai.loop.Reconnecting →
    kai.connection.mConnected = false ∧
      kai.connection.mConnectInitiated = false
  connecting : kai.loop = .connectInitiated →
    kai.connection.mConnected = false
  confirming : kai.loop.Confirming →
    kai.connection.mConnectInitiated = false

section Exclusive

variable {kai next : KaiLoop}

/-- A step which sets no flag and stays where it is or leaves the ranges. -/
theorem Exclusive.lowers (exclusive : kai.Exclusive)
    (connected : next.connection.mConnected = true →
      kai.connection.mConnected = true)
    (initiated : next.connection.mConnectInitiated = true →
      kai.connection.mConnectInitiated = true)
    (point : next.loop = kai.loop ∨
      (¬ next.loop.Reconnecting ∧ next.loop ≠ .connectInitiated ∧
        ¬ next.loop.Confirming)) : next.Exclusive := by
  have stillClear {flag other : Bool} (lowers : other = true → flag = true)
      (clear : flag = false) : other = false := by
    cases other with
    | false => rfl
    | true => simp [lowers rfl] at clear
  refine ⟨fun both => exclusive.exclusive
    ⟨connected both.1, initiated both.2⟩, ?_, ?_, ?_⟩
  · intro there
    rcases point with same | ⟨outside, _, _⟩
    · rw [same] at there
      have clear := exclusive.reconnecting there
      exact ⟨stillClear connected clear.1, stillClear initiated clear.2⟩
    · exact absurd there outside
  · intro there
    rcases point with same | ⟨_, outside, _⟩
    · rw [same] at there
      exact stillClear connected (exclusive.connecting there)
    · exact absurd there outside
  · intro there
    rcases point with same | ⟨_, _, outside⟩
    · rw [same] at there
      exact stillClear initiated (exclusive.confirming there)
    · exact absurd there outside

theorem exclusive_of_clear
    (connected : next.connection.mConnected = false)
    (initiated : next.connection.mConnectInitiated = false) :
    next.Exclusive where
  exclusive := by simp [connected]
  reconnecting := fun _ => ⟨connected, initiated⟩
  connecting := fun _ => connected
  confirming := fun _ => initiated

/-- Elsewhere it is enough that a connection is not being initiated. -/
theorem exclusive_of_uninitiated
    (initiated : next.connection.mConnectInitiated = false)
    (notReconnecting : ¬ next.loop.Reconnecting)
    (notConnecting : next.loop ≠ .connectInitiated) : next.Exclusive where
  exclusive := by simp [initiated]
  reconnecting := fun there => absurd there notReconnecting
  connecting := fun there => absurd there notConnecting
  confirming := fun _ => initiated

/-- While the loop reconnects both flags stay clear. -/
theorem Exclusive.reconnect (exclusive : kai.Exclusive)
    (here : kai.loop.Reconnecting) (now : Int) (fails : Bool) :
    (kai.loopStep now fails).Exclusive := by
  obtain ⟨connected, initiated⟩ := exclusive.reconnecting here
  have sends (aCommand aData : List UInt8) :
      (kai.connection.send aCommand aData
          fails).connection.mConnected = false ∧
        (kai.connection.send aCommand aData
          fails).connection.mConnectInitiated = false := by
    have lowers := kai.connection.send_lowers aCommand aData fails
    refine ⟨?_, lowers.initiated.trans initiated⟩
    by_contra sets
    simp [lowers.connected (by simpa using sets)] at connected
  unfold loopStep
  cases point : kai.loop with
  | closeTest | closeSocket => exact exclusive_of_clear connected initiated
  | closeConnected => exact exclusive_of_clear rfl initiated
  | closeInitiated => exact exclusive_of_clear connected rfl
  | closeSend =>
      exact exclusive_of_clear (sends cDisconnectString []).1
        (sends cDisconnectString []).2
  | connect =>
      exact exclusive_of_clear (sends cConnectString []).1
        (sends cConnectString []).2
  | reopen =>
      dsimp only [XLinkKaiConnection.openSocket]
      split <;> exact exclusive_of_clear connected initiated
  | _ =>
      rw [point] at here
      exact here.elim

theorem Exclusive.loopStep (exclusive : kai.Exclusive) (now : Int)
    (fails : Bool) : (kai.loopStep now fails).Exclusive := by
  by_cases reconnecting : kai.loop.Reconnecting
  · exact exclusive.reconnect reconnecting now fails
  · unfold KaiLoop.loopStep
    cases here : kai.loop with
    | reconnectTest =>
        dsimp only
        split
        · next clear =>
            simp only [Bool.and_eq_true, Bool.not_eq_true'] at clear
            exact exclusive_of_clear clear.1 clear.2
        · exact exclusive.lowers id id (.inr ⟨id, by simp [goTo], id⟩)
    | connectInitiated =>
        have connected := exclusive.connecting here
        exact
          { exclusive := by simp [connected]
            reconnecting := False.elim
            connecting := by simp
            confirming := False.elim }
    | confirmInitiated lCommand lData =>
        exact exclusive_of_uninitiated rfl id (by simp [goTo])
    | confirmConnected lCommand lData =>
        exact exclusive_of_uninitiated
          (exclusive.confirming (by rw [here]; trivial)) id (by simp [goTo])
    | callback aBytesReceived =>
        obtain ⟨connected, initiated, _⟩ :=
          kai.callbackHead_session aBytesReceived now
        refine exclusive.lowers (connected ▸ id) (initiated ▸ id) (.inr ?_)
        rcases kai.callbackHead_loop aBytesReceived now with
          threw | ⟨handling, notConfirming⟩
        · rw [threw]
          exact ⟨id, by simp, id⟩
        · exact ⟨handling.elsewhere.1, handling.elsewhere.2, notConfirming⟩
    | dispatch lCommand lData =>
        have lowers := kai.callbackBody_lowers lCommand lData fails
        refine exclusive.lowers lowers.connected (lowers.initiated ▸ id)
          (.inr ?_)
        rcases kai.callbackBody_loop lCommand lData fails with threw | again
        · rw [threw]
          exact ⟨id, by simp, id⟩
        · rw [again]
          exact ⟨id, by simp, id⟩
    | sendSettings =>
        have lowers := kai.connection.send_lowers cSettingDDSOnlyString []
          fails
        exact exclusive.lowers lowers.connected (lowers.initiated ▸ id)
          (.inr ⟨id, by simp [goTo], id⟩)
    | connectTimeoutInitiated | keepAliveTimeoutInitiated =>
        exact exclusive.lowers id (by simp [setInitiated, goTo])
          (.inr ⟨id, by simp [goTo], id⟩)
    | connectTimeoutConnected | keepAliveTimeoutConnected =>
        exact exclusive.lowers (by simp [setConnected, goTo]) id
          (.inr ⟨id, by simp [goTo], id⟩)
    | poll =>
        dsimp only
        split
        · exact exclusive.lowers id id (.inr ⟨id, by simp [goTo], id⟩)
        · split
          · exact exclusive.lowers id id (.inr ⟨id, by simp, id⟩)
          · split
            · exact exclusive.lowers id id (.inr ⟨id, by simp [goTo], id⟩)
            · exact exclusive.lowers id id (.inr ⟨id, by simp, id⟩)
    | condition | connectTimeoutTest | keepAliveTimeoutTest | settingsTest =>
        dsimp only
        split <;> exact exclusive.lowers id id (.inr ⟨id, by simp [goTo], id⟩)
    | restart | connectTimeoutSettings | keepAliveTimeoutSettings
    | settingsSent | receiveAgain =>
        exact exclusive.lowers id id (.inr ⟨id, by simp [goTo], id⟩)
    | finished | threw => exact exclusive
    | _ =>
        rw [here] at reconnecting
        exact absurd trivial reconnecting

theorem Exclusive.sendMessage (exclusive : kai.Exclusive)
    (aCommand aData : List UInt8) (fails : Bool) :
    (kai.sendMessage aCommand aData fails).Exclusive :=
  have lowers := kai.connection.send_lowers aCommand aData fails
  exclusive.lowers lowers.connected (lowers.initiated ▸ id) (.inl rfl)

theorem Exclusive.step {action : Action} (exclusive : kai.Exclusive)
    (taken : machine.step kai action = some next) : next.Exclusive := by
  cases (stepped taken).2 with
  | loop now fails => exact exclusive.loopStep now fails
  | closeSend fails here =>
      have sent := exclusive.sendMessage cDisconnectString [] fails
      exact sent.lowers id id (.inl rfl)
  | usbSendClosed | closeConnected =>
      exact exclusive.lowers (by simp [setConnected]) id (.inl rfl)
  | closeInitiated =>
      exact exclusive.lowers id (by simp [setInitiated]) (.inl rfl)
  | datagram | usbSend | usbSendAccepts | usbSendRefuses | usbSendTo
  | closeTest | closeStop | closeJoin | closeSocket =>
      exact exclusive.lowers id id (.inl rfl)

theorem exclusive_of_run {connection : XLinkKaiConnection}
    {actions : List Action} {finish : KaiLoop}
    (reached : machine.run (start connection) actions = some finish) :
    finish.Exclusive :=
  machine.run_invariant Exclusive
    (fun _ _ _ exclusive taken => exclusive.step taken)
    (exclusive_of_clear rfl rfl) reached

end Exclusive

/-- Of the three tests behind each other, only the one for the keepalive
timeout can end an iteration without polling or sending settings. -/
def GuardedByKeepAlive (kai : KaiLoop) : Prop :=
  ∀ now fails,
    (kai.loop = .reconnectTest →
      (kai.loopStep now fails).loop = .connectTimeoutTest) ∧
    (kai.loop = .connectTimeoutTest →
      (kai.loopStep now fails).loop = .keepAliveTimeoutTest) ∧
    (kai.loop = .keepAliveTimeoutTest →
      ((kai.loopStep now fails).loop = .keepAliveTimeoutConnected ↔
        now > kai.connection.mKeepAliveTimerStart + cKeepAliveTimeout))

/-- The flags are never set together, and a connection which is up is guarded
by the keepalive timeout. -/
theorem flags_exclusive {connection : XLinkKaiConnection}
    {actions : List Action} {finish : KaiLoop}
    (reached : machine.run (start connection) actions = some finish) :
    ¬ (finish.connection.mConnected = true ∧
        finish.connection.mConnectInitiated = true) ∧
      (finish.connection.mConnected = true → finish.GuardedByKeepAlive) := by
  have exclusive := (exclusive_of_run reached).exclusive
  refine ⟨exclusive, fun connected now fails => ?_⟩
  have initiated : finish.connection.mConnectInitiated = false := by
    by_contra sets
    exact exclusive ⟨connected, by simpa using sets⟩
  refine ⟨fun here => ?_, fun here => ?_, fun here => ?_⟩
  · simp [loopStep, here, goTo, connected]
  · simp [loopStep, here, goTo, connected]
  · simp only [loopStep, here, goTo, connected, initiated, Bool.not_false,
      Bool.true_and, decide_eq_true_eq]
    split <;> simp_all

theorem flags_exclusive_confirmed :
    ∃ finish,
      machine.run (start {}) (connecting ++ confirmed) = some finish ∧
        finish.connection.mConnected = true ∧
        ¬ (finish.connection.mConnected = true ∧
          finish.connection.mConnectInitiated = true) ∧
        (finish.connection.mConnected = true → finish.GuardedByKeepAlive) := by
  have runs : (machine.run (start {}) (connecting ++ confirmed)).any
      (fun finish => finish.connection.mConnected) = true := by
    decide +kernel
  obtain ⟨finish, reached, connected⟩ := (Option.any_eq_true _ _).mp runs
  exact ⟨finish, reached, connected, flags_exclusive reached⟩

end KaiLoop

end CWUSB
