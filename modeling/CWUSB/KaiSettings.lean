import CWUSB.KaiSession

/-!
# The settings of a session

XLink Kai has to be told in every session that only DDS data is wanted.  The
loop does so while `mSettingsSent` is false, but a disconnect message and a
`Send` on a closed socket end a session without clearing it, and the loop
sets it whether or not its `Send` worked.
-/

namespace CWUSB

namespace KaiLoop

/-- Whether the settings string was sent since the session started. -/
def settingsAfter (delivered : Bool) : KaiEvent → Bool
  | .sessionStarted => false
  | .sent datagram _ => delivered || datagram == cSettingDDSOnlyString
  | .accepted _ | .forwarded _ => delivered

def settingsDelivered (kai : KaiLoop) : Bool :=
  kai.events.foldl settingsAfter false

/-- The thread is about to execute `mConnected = true`. -/
def confirms (kai : KaiLoop) : Bool :=
  match kai.loop with
  | .confirmConnected _ _ => true
  | _ => false

/-- A confirmation finds `mSettingsSent` cleared, and the settings string
does not meet an exception. -/
def SettingsInStep (kai : KaiLoop) : Action → Prop
  | .loop _ fails =>
      (kai.confirms = true → kai.connection.mSettingsSent = false) ∧
        (kai.loop = .sendSettings → kai.connection.mSocketOpen = true →
          kai.connection.mConnected = true → fails = false)
  | .datagram _ _ | .usbSend _ | .usbSending _ | .close _ => True

instance (kai : KaiLoop) :
    (action : Action) → Decidable (kai.SettingsInStep action)
  | .loop _ _ => inferInstanceAs (Decidable (_ ∧ _))
  | .datagram _ _ | .usbSend _ | .usbSending _ | .close _ =>
      inferInstanceAs (Decidable True)

/-- A session for which the settings count as sent was told them, also while
the loop is about to note so. -/
structure Told (kai : KaiLoop) : Prop where
  noted : kai.connection.mConnected = true →
    kai.connection.mSettingsSent = true → kai.settingsDelivered = true
  sending : kai.loop = .settingsSent → kai.connection.mConnected = true →
    kai.settingsDelivered = true

/-- A change which neither starts a session nor marks the settings as
sent. -/
structure Quiet (kai next : KaiLoop) : Prop where
  connected : next.connection.mConnected = true →
    kai.connection.mConnected = true
  settings : next.connection.mSettingsSent = true →
    kai.connection.mSettingsSent = true
  delivered : kai.settingsDelivered = true →
    next.settingsDelivered = true

theorem Told.quiet {kai next : KaiLoop} (told : kai.Told)
    (quiet : kai.Quiet next)
    (elsewhere : next.loop ≠ .settingsSent ∨ next.loop = kai.loop) :
    next.Told where
  noted := fun connected settings =>
    quiet.delivered (told.noted (quiet.connected connected)
      (quiet.settings settings))
  sending := by
    intro sending connected
    rcases elsewhere with other | same
    · exact absurd sending other
    · exact quiet.delivered (told.sending (same ▸ sending)
        (quiet.connected connected))

/-! ## What the parts of a step change -/

section Quiet

variable {kai next : KaiLoop}

theorem Quiet.refl (kai : KaiLoop) : kai.Quiet kai :=
  ⟨id, id, id⟩

theorem Quiet.goTo (quiet : kai.Quiet next) (point : LoopPoint) :
    kai.Quiet (next.goTo point) :=
  ⟨quiet.connected, quiet.settings, quiet.delivered⟩

/-- What was sent stays on record. -/
theorem settingsDelivered_append {events later : List KaiEvent}
    (noSession : KaiEvent.sessionStarted ∉ later)
    (delivered : events.foldl settingsAfter false = true) :
    (events ++ later).foldl settingsAfter false = true := by
  rw [List.foldl_append, delivered]
  clear delivered
  induction later with
  | nil => rfl
  | cons event later induction =>
      have other : event ≠ .sessionStarted := by
        rintro rfl
        simp at noSession
      have rest : KaiEvent.sessionStarted ∉ later :=
        fun member => noSession (List.mem_cons_of_mem _ member)
      cases event with
      | sessionStarted => exact absurd rfl other
      | sent datagram mRemote => exact induction rest
      | accepted aData | forwarded aData => exact induction rest

theorem quiet_exchange {connection : XLinkKaiConnection}
    {transmitted : Option (List UInt8)}
    (connected : connection.mConnected = true →
      kai.connection.mConnected = true)
    (settings : connection.mSettingsSent = kai.connection.mSettingsSent) :
    kai.Quiet (kai.exchange connection transmitted) where
  connected := connected
  settings := by
    intro sent
    rw [← settings]
    exact sent
  delivered := settingsDelivered_append (by simp)

variable (kai) in
theorem quiet_sendMessage (aCommand aData : List UInt8) (fails : Bool) :
    kai.Quiet (kai.sendMessage aCommand aData fails) :=
  have lowers :=
    XLinkKaiConnection.send_lowers kai.connection aCommand aData fails
  quiet_exchange lowers.connected lowers.settings

theorem quiet_shutSocket : kai.Quiet kai.shutSocket := ⟨id, id, id⟩

theorem quiet_clearConnected : kai.Quiet (kai.setConnected false) :=
  ⟨by simp [setConnected], id, id⟩

theorem quiet_setInitiated (value : Bool) :
    kai.Quiet (kai.setInitiated value) :=
  ⟨id, id, id⟩

theorem quiet_clearSettingsSent : kai.Quiet (kai.setSettingsSent false) :=
  ⟨id, by simp [setSettingsSent], id⟩

theorem quiet_callbackHead (aBytesReceived : Nat) (now : Int) :
    kai.Quiet (kai.callbackHead aBytesReceived now) := by
  unfold callbackHead
  dsimp only
  split
  · exact ⟨id, id, id⟩
  · split
    · exact ⟨id, id, id⟩
    · split <;> exact ⟨id, id, id⟩

theorem quiet_callbackBody (lCommand lData : List UInt8) (fails : Bool) :
    kai.Quiet (kai.callbackBody lCommand lData fails) := by
  unfold callbackBody
  split
  · split
    · exact ⟨id, id, id⟩
    · next received returns =>
        have lowers := XLinkKaiConnection.dispatch_lowers returns
        have quiet : kai.Quiet
            (kai.exchange received.connection received.transmitted) :=
          quiet_exchange lowers.connected lowers.settings
        exact
          { connected := quiet.connected
            settings := quiet.settings
            delivered := fun delivered =>
              settingsDelivered_append (by simp)
                (quiet.delivered delivered) }
  · exact ⟨id, id, id⟩

end Quiet

/-! ## The steps -/

section Step

variable {kai next : KaiLoop}

/-- The settings string is sent unless the session is over. -/
theorem told_sendSettings {now : Int} {fails : Bool} (told : kai.Told)
    (here : kai.loop = .sendSettings)
    (inStep : kai.SettingsInStep (.loop now fails)) :
    (kai.loopStep now fails).Told := by
  have works := inStep.2 here
  have quiet := kai.quiet_sendMessage cSettingDDSOnlyString [] fails
  unfold loopStep
  rw [here]
  refine
    { noted := fun connected settings =>
        quiet.delivered (told.noted (quiet.connected connected)
          (quiet.settings settings))
      sending := fun _ connected => ?_ }
  have wasConnected := quiet.connected connected
  cases isOpen : kai.connection.mSocketOpen with
  | true =>
      have sent : kai.connection.send cSettingDDSOnlyString [] fails =
          { connection := kai.connection
            lReturn := true
            transmitted := some cSettingDDSOnlyString } := by
        simp [XLinkKaiConnection.send, isOpen, wasConnected,
          works isOpen wasConnected]
      simp [settingsDelivered, goTo, sendMessage, exchange, sent,
        settingsAfter]
  | false =>
      simp [goTo, sendMessage, exchange, XLinkKaiConnection.send, isOpen]
        at connected

theorem told_settingsSent (told : kai.Told) (here : kai.loop = .settingsSent)
    (now : Int) (fails : Bool) : (kai.loopStep now fails).Told := by
  unfold loopStep
  rw [here]
  exact
    { noted := fun connected _ => told.sending here connected
      sending := by simp [goTo] }

theorem told_confirmConnected {lCommand lData : List UInt8} {now : Int}
    {fails : Bool} (here : kai.loop = .confirmConnected lCommand lData)
    (inStep : kai.SettingsInStep (.loop now fails)) :
    (kai.loopStep now fails).Told := by
  have cleared := inStep.1 (by simp [confirms, here])
  unfold loopStep
  rw [here]
  exact
    { noted := by simp [goTo, confirmConnected, setConnected, cleared]
      sending := by simp [goTo] }

/-- All other points of the loop are quiet. -/
theorem quiet_loopStep (now : Int) (fails : Bool)
    (notSending : kai.loop ≠ .sendSettings)
    (notSent : kai.loop ≠ .settingsSent)
    (notConfirming : ∀ lCommand lData,
      kai.loop ≠ .confirmConnected lCommand lData) :
    kai.Quiet (kai.loopStep now fails) ∧
      (kai.loopStep now fails).loop ≠ .settingsSent := by
  unfold loopStep
  cases here : kai.loop with
  | condition | reconnectTest | closeTest | connectTimeoutTest
  | keepAliveTimeoutTest | settingsTest =>
      refine ⟨(Quiet.refl kai).goTo _, ?_⟩
      simp only [goTo]
      split <;> simp
  | closeSend =>
      exact ⟨(kai.quiet_sendMessage _ _ _).goTo _, by simp [goTo]⟩
  | connect =>
      refine ⟨(kai.quiet_sendMessage _ _ _).goTo _, ?_⟩
      simp only [goTo]
      split <;> simp
  | closeConnected | connectTimeoutConnected | keepAliveTimeoutConnected =>
      exact ⟨quiet_clearConnected.goTo _, by simp [goTo]⟩
  | closeInitiated | connectTimeoutInitiated | keepAliveTimeoutInitiated
  | confirmInitiated =>
      exact ⟨(quiet_setInitiated false).goTo _, by simp [goTo]⟩
  | connectTimeoutSettings | keepAliveTimeoutSettings =>
      exact ⟨quiet_clearSettingsSent.goTo _, by simp [goTo]⟩
  | closeSocket => exact ⟨quiet_shutSocket.goTo _, by simp [goTo]⟩
  | reopen =>
      refine ⟨?_, by simp⟩
      unfold XLinkKaiConnection.openSocket
      dsimp only
      split <;> exact ⟨id, id, id⟩
  | restart | connectInitiated | receiveAgain =>
      exact ⟨⟨id, id, id⟩, by simp⟩
  | poll =>
      dsimp only
      split
      · exact ⟨⟨id, id, id⟩, by simp [goTo]⟩
      · split
        · exact ⟨⟨id, id, id⟩, by simp⟩
        · split <;> exact ⟨⟨id, id, id⟩, by simp [goTo]⟩
  | callback aBytesReceived =>
      refine ⟨quiet_callbackHead _ _, fun there => ?_⟩
      rcases kai.callbackHead_loop aBytesReceived now with threw | handling
      · cases threw.symm.trans there
      · rw [there] at handling
        exact handling.1
  | dispatch lCommand lData =>
      refine ⟨quiet_callbackBody _ _ _, fun there => ?_⟩
      rcases kai.callbackBody_loop lCommand lData fails with threw | again
      · cases threw.symm.trans there
      · cases again.symm.trans there
  | finished | threw => exact ⟨Quiet.refl kai, by simp [here]⟩
  | sendSettings => exact absurd here notSending
  | settingsSent => exact absurd here notSent
  | confirmConnected lCommand lData =>
      exact absurd here (notConfirming lCommand lData)

theorem Told.loopStep {now : Int} {fails : Bool} (told : kai.Told)
    (inStep : kai.SettingsInStep (.loop now fails)) :
    (kai.loopStep now fails).Told := by
  by_cases sending : kai.loop = .sendSettings
  · exact told_sendSettings told sending inStep
  · by_cases sent : kai.loop = .settingsSent
    · exact told_settingsSent told sent now fails
    · by_cases confirming : ∃ lCommand lData,
          kai.loop = .confirmConnected lCommand lData
      · obtain ⟨lCommand, lData, here⟩ := confirming
        exact told_confirmConnected here inStep
      · obtain ⟨quiet, elsewhere⟩ := quiet_loopStep now fails sending sent
          fun lCommand lData here => confirming ⟨lCommand, lData, here⟩
        exact told.quiet quiet (.inl elsewhere)

theorem Told.step {action : Action} (told : kai.Told)
    (inStep : kai.SettingsInStep action)
    (taken : machine.step kai action = some next) : next.Told := by
  cases (stepped taken).2 with
  | loop now fails => exact told.loopStep inStep
  | usbSendTo aData fails here =>
      have quiet : kai.Quiet
          (kai.sendTo (cEthernetDataString ++ aData) fails) :=
        quiet_exchange id rfl
      exact told.quiet
        ⟨quiet.connected, quiet.settings, quiet.delivered⟩ (.inr rfl)
  | closeSend fails here =>
      have quiet := kai.quiet_sendMessage cDisconnectString [] fails
      exact told.quiet
        ⟨quiet.connected, quiet.settings, quiet.delivered⟩ (.inr rfl)
  | usbSendClosed | closeConnected =>
      exact told.quiet ⟨by simp [setConnected], id, id⟩ (.inr rfl)
  | usbSendAccepts =>
      exact told.quiet ⟨id, id, settingsDelivered_append (by simp)⟩ (.inr rfl)
  | datagram | usbSend | usbSendRefuses | closeTest | closeInitiated
  | closeStop | closeJoin | closeSocket =>
      exact told.quiet ⟨id, id, id⟩ (.inr rfl)

end Step

/-- Every session for which the settings count as sent was told them, in a
run whose steps keep the settings in step with the sessions. -/
theorem settings_told {connection : XLinkKaiConnection}
    {actions : List Action} {finish : KaiLoop}
    (inStep : machine.Guarded SettingsInStep (start connection) actions)
    (reached : machine.run (start connection) actions = some finish)
    (connected : finish.connection.mConnected = true)
    (settings : finish.connection.mSettingsSent = true) :
    finish.settingsDelivered = true := by
  have told : finish.Told :=
    machine.guarded_invariant Told
      (fun _ _ _ told guard taken => told.step guard taken)
      { noted := by simp [start]
        sending := by simp [start] } inStep reached
  exact told.noted connected settings

theorem settings_told_once :
    ∃ finish,
      machine.run (start {}) (connecting ++ confirmed) = some finish ∧
        finish.connection.mConnected = true ∧
        finish.connection.mSettingsSent = true ∧
        finish.settingsDelivered = true := by
  have runs : (machine.run (start {}) (connecting ++ confirmed)).any
      (fun finish => decide (finish.connection.mConnected = true ∧
        finish.connection.mSettingsSent = true)) = true := by
    decide +kernel
  obtain ⟨finish, reached, flags⟩ := (Option.any_eq_true _ _).mp runs
  obtain ⟨connected, settings⟩ := of_decide_eq_true flags
  exact ⟨finish, reached, connected, settings,
    settings_told (by decide +kernel) reached connected settings⟩

/-- XLink Kai disconnects the session, and the thread connects again. -/
def reconnected : List Action :=
  .datagram cDisconnectedString engine :: List.replicate 30 (.loop 0 false)

/-- The second session counts as told without having been told. -/
theorem settings_notTold_again :
    ∃ finish,
      machine.run (start {})
          (connecting ++ confirmed ++ reconnected ++ confirmed) =
          some finish ∧
        finish.connection.mConnected = true ∧
        finish.connection.mSettingsSent = true ∧
        finish.settingsDelivered = false := by
  have runs : (machine.run (start {})
      (connecting ++ confirmed ++ reconnected ++ confirmed)).any
        (fun finish => decide (finish.connection.mConnected = true ∧
          finish.connection.mSettingsSent = true ∧
          finish.settingsDelivered = false)) = true := by
    decide +kernel
  obtain ⟨finish, reached, outcome⟩ := (Option.any_eq_true _ _).mp runs
  exact ⟨finish, reached, of_decide_eq_true outcome⟩

end KaiLoop

end CWUSB
