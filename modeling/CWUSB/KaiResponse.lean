import CWUSB.KaiPayloads
import CWUSB.KaiRecovery

/-!
# The answer to a message

A message which arrives in a session completes the one receive.  From wherever
it is the loop gets to the next poll in a bounded number of its steps, handles
the message, and answers it: a keepalive is returned, and ethernet data is
handed to the USB side.  A message which says that the session is over ends it
within the same number of steps.
-/

namespace CWUSB

namespace XLinkKaiConnection

/-- The event a reaction is seen by. -/
def Reaction.Shows : Reaction → KaiEvent → Prop
  | .keepAlive, .sent datagram _ => datagram = cKeepAliveString
  | .ethernetData mEthernetData, .forwarded aData => aData = mEthernetData
  | _, _ => False

instance (reaction : Reaction) : DecidablePred reaction.Shows := fun event => by
  unfold Reaction.Shows
  split <;> infer_instance

/-- `mIncomingConnection` is set before the receiver thread is started. -/
theorem send_incoming (connection : XLinkKaiConnection)
    (aCommand aData : List UInt8) (fails : Bool) :
    (connection.send aCommand aData fails).connection.mIncomingConnection =
      connection.mIncomingConnection := by
  unfold send
  split
  · split
    · split <;> rfl
    · rfl
  · rfl

theorem dispatch_incoming {connection : XLinkKaiConnection}
    {lCommand lData : List UInt8} {fails : Bool} {received : Received}
    (returns : connection.dispatch lCommand lData fails = .ok received) :
    received.connection.mIncomingConnection =
      connection.mIncomingConnection := by
  unfold dispatch at returns
  cases reacts : react connection.mIncomingConnection lCommand lData with
  | error exception => simp [reacts, Except.map] at returns
  | ok reaction =>
      simp only [reacts, Except.map, Except.ok.injEq] at returns
      subst received
      cases reaction with
      | keepAlive => exact connection.send_incoming cKeepAliveString [] fails
      | nothing | ethernetData | disconnected => rfl

end XLinkKaiConnection

namespace LoopPoint

/-- The steps which are left to the loop until it has handled a message, while
the session lasts. -/
def untilHandled (mSettingsSent : Bool) : LoopPoint → Nat
  | .dispatch _ _ | .keepAliveTimeoutConnected
  | .connectTimeoutConnected => 2
  | .callback _ | .connectTimeoutInitiated => 3
  | .poll => 4
  | .settingsTest => if mSettingsSent then 5 else 12
  | .keepAliveTimeoutTest => if mSettingsSent then 6 else 13
  | .connectTimeoutTest => if mSettingsSent then 7 else 14
  | .reconnectTest => if mSettingsSent then 8 else 15
  | .condition => if mSettingsSent then 9 else 16
  | .settingsSent => 10
  | .sendSettings => 11
  | .restart | .connectTimeoutSettings | .keepAliveTimeoutSettings => 17
  | .keepAliveTimeoutInitiated => 18
  | _ => 1

/-- About to react to a message. -/
def Dispatching : LoopPoint → Prop
  | .dispatch _ _ => True
  | _ => False

instance : DecidablePred Dispatching := fun point => by
  unfold Dispatching
  split <;> infer_instance

theorem untilHandled_le (mSettingsSent : Bool) (point : LoopPoint) :
    point.untilHandled mSettingsSent ≤ 18 := by
  cases point <;> cases mSettingsSent <;> simp [untilHandled]

theorem untilHandled_pos (mSettingsSent : Bool) (point : LoopPoint) :
    0 < point.untilHandled mSettingsSent := by
  cases point <;> cases mSettingsSent <;> simp [untilHandled]

end LoopPoint

namespace KaiLoop

open XLinkKaiConnection (Reaction reactionTo react)

/-- The reaction was seen after so many events, or there is nothing to see. -/
def Answered (since : Nat) (reaction : Reaction) (kai : KaiLoop) : Prop :=
  reaction = .nothing ∨ ∃ event ∈ kai.events.drop since, reaction.Shows event

instance (since : Nat) (reaction : Reaction) (kai : KaiLoop) :
    Decidable (kai.Answered since reaction) :=
  inferInstanceAs (Decidable (_ ∨ _))

/-- Nobody closes the connection, and an answer can be sent. -/
def Answerable (reaction : Reaction) (kai : KaiLoop) : Action → Prop
  | .loop _ fails =>
      kai.loop.Dispatching → reaction = .keepAlive → fails = false
  | .datagram _ _ | .usbSend _ | .usbSending _ => True
  | .close _ => False

instance (reaction : Reaction) (kai : KaiLoop) :
    (action : Action) → Decidable (kai.Answerable reaction action)
  | .loop _ _ => inferInstanceAs (Decidable (_ → _))
  | .datagram _ _ | .usbSend _ | .usbSending _ =>
      inferInstanceAs (Decidable True)
  | .close _ => inferInstanceAs (Decidable False)

/-- The session lasts until the reaction is seen. -/
def LastsUntil (since : Nat) (reaction : Reaction) (kai : KaiLoop)
    (action : Action) : Prop :=
  ¬ kai.Answered since reaction →
    kai.connection.mConnected = true ∧ kai.Answerable reaction action

instance (since : Nat) (reaction : Reaction) (kai : KaiLoop)
    (action : Action) : Decidable (kai.LastsUntil since reaction action) :=
  inferInstanceAs (Decidable (_ → _))

/-- The session has ended, or the process has. -/
def GivenUp (kai : KaiLoop) : Prop :=
  kai.connection.mConnected = false ∨ kai.loop = .threw

instance (kai : KaiLoop) : Decidable kai.GivenUp :=
  inferInstanceAs (Decidable (_ ∨ _))

/-- A message which arrived is still to be handled. -/
inductive Holds (bytes : List UInt8) (kai : KaiLoop) : Prop where
  | completed (received : kai.receives = [.completed bytes.length])
      (data : kai.connection.mData.slice 0 bytes.length = bytes)
  | callback (here : kai.loop = .callback bytes.length)
      (data : kai.connection.mData.slice 0 bytes.length = bytes)
  | dispatch
      (here : kai.loop =
        .dispatch (bytes.take (behindFirstSeparator bytes)) bytes)

/-- The steps which are left until the message is handled, or the session was
seen to have ended. -/
def stepsToAnswer (kai : KaiLoop) : Nat :=
  if kai.GivenUp then 1
  else kai.loop.untilHandled kai.connection.mSettingsSent

section Steps

variable {kai next : KaiLoop} {action : Action} {since : Nat}
  {bytes : List UInt8} {reaction : Reaction}

theorem stepsToAnswer_le (kai : KaiLoop) : kai.stepsToAnswer ≤ 18 := by
  unfold stepsToAnswer
  split
  · decide
  · exact LoopPoint.untilHandled_le _ _

theorem stepsToAnswer_pos (kai : KaiLoop) : 0 < kai.stepsToAnswer := by
  unfold stepsToAnswer
  split
  · decide
  · exact LoopPoint.untilHandled_pos _ _

theorem stepsToAnswer_lt (going : ¬ kai.GivenUp)
    (less : next.loop.untilHandled next.connection.mSettingsSent <
      kai.loop.untilHandled kai.connection.mSettingsSent) :
    next.stepsToAnswer < kai.stepsToAnswer := by
  have left := next.loop.untilHandled_pos next.connection.mSettingsSent
  unfold stepsToAnswer
  rw [if_neg going]
  split <;> omega

theorem stepsToAnswer_givenUp (going : ¬ kai.GivenUp)
    (more : 1 < kai.loop.untilHandled kai.connection.mSettingsSent)
    (givenUp : next.GivenUp) : next.stepsToAnswer < kai.stepsToAnswer := by
  rwa [stepsToAnswer, if_pos givenUp, stepsToAnswer, if_neg going]

/-! ## The other threads -/

/-- A change of another thread which may end the session. -/
theorem stepsToAnswer_beside
    (lowers : kai.connection.Lowers next.connection)
    (point : next.loop = kai.loop) :
    next.stepsToAnswer ≤ kai.stepsToAnswer := by
  by_cases givenUp : next.GivenUp
  · rw [stepsToAnswer, if_pos givenUp]
    exact kai.stepsToAnswer_pos
  · have before : ¬ kai.GivenUp := by
      rintro (ended | threw)
      · apply givenUp
        left
        cases connected : next.connection.mConnected with
        | false => rfl
        | true => cases ended.symm.trans (lowers.connected connected)
      · exact givenUp (.inr (point.trans threw))
    rw [stepsToAnswer, if_neg givenUp, stepsToAnswer, if_neg before, point,
      lowers.settings]

/-- The message stays where it is. -/
theorem Holds.beside (holds : kai.Holds bytes)
    (point : next.loop = kai.loop) (receives : next.receives = kai.receives)
    (data : next.connection.mData = kai.connection.mData) :
    next.Holds bytes := by
  cases holds with
  | completed received holds =>
      exact .completed (receives.trans received) (data ▸ holds)
  | callback here holds => exact .callback (point.trans here) (data ▸ holds)
  | dispatch here => exact .dispatch (point.trans here)

/-- No other message arrives before it was handled. -/
theorem Holds.not_complete (holds : kai.Holds bytes) (chained : kai.Chained)
    (aBytesReceived : Nat) : complete aBytesReceived kai.receives = none := by
  cases holds with
  | completed received data => rw [received]; rfl
  | callback here data =>
      rw [chained.handling (by rw [here]; trivial)]
      rfl
  | dispatch here =>
      rw [chained.handling (by rw [here]; trivial)]
      rfl

/-! ## The loop -/

theorem loopStep_incoming (now : Int) (fails : Bool) :
    (kai.loopStep now fails).connection.mIncomingConnection =
      kai.connection.mIncomingConnection := by
  unfold loopStep
  cases here : kai.loop with
  | closeSend | connect | sendSettings =>
      exact kai.connection.send_incoming _ _ fails
  | reopen =>
      dsimp only [XLinkKaiConnection.openSocket]
      split <;> rfl
  | poll =>
      dsimp only
      split
      · rfl
      · split
        · rfl
        · split <;> rfl
  | callback aBytesReceived =>
      dsimp only
      rcases kai.callbackHead_connection aBytesReceived now with
        same | tickled
      · rw [same]
      · rw [tickled]
        rfl
  | dispatch lCommand lData =>
      dsimp only [callbackBody]
      split
      · split
        · rfl
        · next received returns =>
            exact XLinkKaiConnection.dispatch_incoming returns
      · rfl
  | _ => rfl

theorem step_incoming (taken : machine.step kai action = some next) :
    next.connection.mIncomingConnection =
      kai.connection.mIncomingConnection := by
  cases (stepped taken).2 with
  | loop now fails => exact loopStep_incoming now fails
  | closeSend fails =>
      exact kai.connection.send_incoming cDisconnectString [] fails
  | _ => rfl

/-- On its way to the poll the loop comes nearer, or gives the session up. -/
theorem loopStep_nearer_waiting (consistent : kai.Consistent)
    (running : kai.Running) (going : ¬ kai.GivenUp)
    (received : kai.receives = [.completed bytes.length])
    (data : kai.connection.mData.slice 0 bytes.length = bytes) (now : Int)
    (fails : Bool) :
    (kai.loopStep now fails).Holds bytes ∧
      (kai.loopStep now fails).stepsToAnswer < kai.stepsToAnswer := by
  have connected : kai.connection.mConnected = true := by
    simpa using (not_or.mp going).1
  have notHandling : ¬ kai.loop.Handling := by
    intro handling
    cases received.symm.trans (consistent.chained.handling handling)
  have outside : ¬ kai.loop.Reconnecting := by
    intro reconnecting
    have clear := consistent.exclusive.reconnecting reconnecting
    cases connected.symm.trans clear.1
  unfold loopStep
  cases here : kai.loop with
  | finished => exact absurd here running.2
  | threw => exact absurd (.inr here) going
  | poll =>
      simp only [running.1, received, takeCompleted, Bool.false_eq_true,
        if_false, List.isEmpty_cons]
      refine ⟨.callback rfl data, stepsToAnswer_lt going ?_⟩
      rw [here]
      exact Nat.lt_succ_self 3
  | restart =>
      refine ⟨.completed received data, stepsToAnswer_lt going ?_⟩
      rw [here]
      dsimp only
      cases kai.connection.mSettingsSent <;> decide
  | condition =>
      refine ⟨.completed received data, stepsToAnswer_lt going ?_⟩
      dsimp only [goTo]
      rw [here, running.1]
      cases kai.connection.mSettingsSent <;> decide
  | reconnectTest | connectTimeoutTest =>
      refine ⟨.completed received data, stepsToAnswer_lt going ?_⟩
      dsimp only [goTo]
      rw [here, connected]
      cases kai.connection.mSettingsSent <;> simp [LoopPoint.untilHandled]
  | keepAliveTimeoutTest =>
      refine ⟨.completed received data, stepsToAnswer_lt going ?_⟩
      dsimp only [goTo]
      rw [here]
      split <;> cases kai.connection.mSettingsSent <;> decide
  | settingsTest =>
      have exclusive := consistent.exclusive.exclusive
      have initiated : kai.connection.mConnectInitiated = false := by
        simpa [connected] using exclusive
      refine ⟨.completed received data, stepsToAnswer_lt going ?_⟩
      dsimp only [goTo]
      rw [here, connected, initiated]
      cases kai.connection.mSettingsSent <;> decide
  | sendSettings =>
      have isOpen := consistent.held.session running.2 (.inl connected)
      have same := XLinkKaiConnection.send_connection_of_open isOpen
        cSettingDDSOnlyString [] fails
      dsimp only [goTo, sendMessage, exchange]
      rw [same]
      refine ⟨.completed received data, stepsToAnswer_lt going ?_⟩
      rw [here]
      exact Nat.lt_succ_self 10
  | settingsSent | connectTimeoutInitiated | connectTimeoutSettings
  | keepAliveTimeoutInitiated | keepAliveTimeoutSettings =>
      refine ⟨.completed received data, stepsToAnswer_lt going ?_⟩
      rw [here]
      simp [goTo, setInitiated, setSettingsSent, LoopPoint.untilHandled]
  | connectTimeoutConnected | keepAliveTimeoutConnected =>
      refine ⟨.completed received data, stepsToAnswer_givenUp going ?_ ?_⟩
      · rw [here]
        exact Nat.lt_succ_self 1
      · exact .inl rfl
  | connectInitiated =>
      have clear := consistent.exclusive.connecting here
      cases connected.symm.trans clear
  | closeTest | closeSend | closeConnected | closeInitiated | closeSocket
  | reopen | connect =>
      rw [here] at outside
      exact absurd trivial outside
  | callback | confirmInitiated | confirmConnected | dispatch
  | receiveAgain =>
      rw [here] at notHandling
      exact absurd trivial notHandling

/-- While connected nothing is taken for a confirmation. -/
theorem callbackHead_connected
    (connected : kai.connection.mConnected = true) (nonempty : bytes ≠ [])
    (data : kai.connection.mData.slice 0 bytes.length = bytes) (now : Int) :
    kai.callbackHead bytes.length now =
      { kai with
        connection := kai.connection.tickle now
        loop :=
          .dispatch (bytes.take (behindFirstSeparator bytes)) bytes } := by
  obtain ⟨confirmation, tested, unchanged, _⟩ :=
    XLinkKaiConnection.testConfirmation_ok true bytes
  obtain ⟨first, notConfirmed⟩ := unchanged rfl
  have notEmpty : ¬ bytes.isEmpty = true := by simpa using nonempty
  have still : (kai.connection.tickle now).mConnected = true := connected
  unfold callbackHead
  dsimp only
  rw [data, if_neg notEmpty, still, tested]
  dsimp only
  rw [notConfirmed, if_neg (by simp), first]
  rfl

/-- The message is answered, ends the session, or ends the process. -/
theorem callbackBody_answers (connected : kai.connection.mConnected = true)
    (isOpen : kai.connection.mSocketOpen = true)
    (events : since ≤ kai.events.length) {fails : Bool}
    (works : reactionTo kai.connection.mIncomingConnection bytes =
      .keepAlive → fails = false) :
    (kai.callbackBody (bytes.take (behindFirstSeparator bytes)) bytes
        fails).GivenUp ∨
      (kai.callbackBody (bytes.take (behindFirstSeparator bytes)) bytes
        fails).Answered since
          (reactionTo kai.connection.mIncomingConnection bytes) := by
  unfold callbackBody
  rw [if_pos connected]
  cases returns : kai.connection.dispatch
      (bytes.take (behindFirstSeparator bytes)) bytes fails with
  | error exception => exact .inl (.inr rfl)
  | ok received =>
      unfold XLinkKaiConnection.dispatch at returns
      cases reacts : react kai.connection.mIncomingConnection
          (bytes.take (behindFirstSeparator bytes)) bytes with
      | error exception => simp [reacts, Except.map] at returns
      | ok reaction =>
          have same := XLinkKaiConnection.react_eq_reactionTo rfl reacts
          simp only [reacts, Except.map, Except.ok.injEq] at returns
          subst received
          rw [← same] at works ⊢
          have shown (answer : KaiEvent) (shows : reaction.Shows answer) :
              ∃ event ∈ (kai.events ++ [answer]).drop since,
                reaction.Shows event := by
            refine ⟨answer, ?_, shows⟩
            rw [List.drop_append_of_le_length events]
            exact List.mem_append_right _ (List.mem_singleton_self answer)
          cases reaction with
          | nothing => exact .inr (.inl rfl)
          | disconnected => exact .inl (.inl rfl)
          | ethernetData mEthernetData =>
              have forwarded := shown (.forwarded mEthernetData) rfl
              refine .inr (.inr ?_)
              simpa [exchange, XLinkKaiConnection.act] using forwarded
          | keepAlive =>
              obtain rfl := works rfl
              have transmitted := XLinkKaiConnection.send_transmitted isOpen
                connected cKeepAliveString []
              have returned := shown
                (.sent cKeepAliveString kai.connection.mRemote) rfl
              refine .inr (.inr ?_)
              simpa [exchange, XLinkKaiConnection.act, transmitted]
                using returned

/-- What was seen stays seen. -/
theorem Answered.step (answered : kai.Answered since reaction)
    (taken : machine.step kai action = some next) :
    next.Answered since reaction := by
  refine answered.imp id ?_
  rintro ⟨event, member, shows⟩
  obtain ⟨more, added, _⟩ := step_adds taken
  refine ⟨event, ?_, shows⟩
  rw [added, List.drop_append]
  exact List.mem_append_left _ member

/-- The loop is on its way to handle a message. -/
structure Answering (since : Nat) (bytes : List UInt8)
    (mIncomingConnection : Bool) (kai : KaiLoop) : Prop where
  consistent : kai.Consistent
  running : kai.Running
  incoming : kai.connection.mIncomingConnection = mIncomingConnection
  events : since ≤ kai.events.length
  holds : ¬ kai.GivenUp → kai.Holds bytes

section Answering

variable {mIncomingConnection : Bool}

theorem Answering.loopStep
    (answering : kai.Answering since bytes mIncomingConnection)
    (connected : kai.connection.mConnected = true)
    (returning : kai.loop ≠ .threw) {now : Int} {fails : Bool}
    (works : kai.loop.Dispatching →
      reactionTo mIncomingConnection bytes = .keepAlive → fails = false)
    (unanswered : ¬ (kai.loopStep now fails).Answered since
      (reactionTo mIncomingConnection bytes)) :
    (¬ (kai.loopStep now fails).GivenUp →
        (kai.loopStep now fails).Holds bytes) ∧
      (kai.loopStep now fails).stepsToAnswer < kai.stepsToAnswer := by
  have going : ¬ kai.GivenUp := by
    rintro (ended | threw)
    · cases connected.symm.trans ended
    · exact returning threw
  have nonempty : bytes ≠ [] := by
    rintro rfl
    apply unanswered
    left
    cases mIncomingConnection <;> rfl
  cases answering.holds going with
  | completed received data =>
      have nearer := loopStep_nearer_waiting answering.consistent
        answering.running going received data now fails
      exact ⟨fun _ => nearer.1, nearer.2⟩
  | callback here data =>
      have there := callbackHead_connected connected nonempty data now
      rw [KaiLoop.loopStep, here]
      dsimp only
      rw [there]
      refine ⟨fun _ => .dispatch rfl, stepsToAnswer_lt going ?_⟩
      rw [here]
      exact Nat.lt_succ_self 2
  | dispatch here =>
      have isOpen := answering.consistent.held.session answering.running.2
        (.inl connected)
      have works := works (by rw [here]; trivial)
      rw [← answering.incoming] at works unanswered
      rw [KaiLoop.loopStep, here] at unanswered ⊢
      have ends := (callbackBody_answers connected isOpen answering.events
        works).resolve_right unanswered
      refine ⟨fun goes => absurd ends goes,
        stepsToAnswer_givenUp going ?_ ends⟩
      rw [here]
      exact Nat.lt_succ_self 1

theorem Answering.nearer
    (answering : kai.Answering since bytes mIncomingConnection)
    (lasts : kai.connection.mConnected = true ∧
      kai.Answerable (reactionTo mIncomingConnection bytes) action)
    (taken : machine.step kai action = some next)
    (unanswered : ¬ next.Answered since
      (reactionTo mIncomingConnection bytes)) :
    next.Answering since bytes mIncomingConnection ∧
      next.stepsToAnswer ≤ kai.stepsToAnswer ∧
      (action.isLoop = true → next.stepsToAnswer < kai.stepsToAnswer) := by
  obtain ⟨connected, works⟩ := lasts
  obtain ⟨returning, steps⟩ := stepped taken
  have going : ¬ kai.GivenUp := by
    rintro (ended | threw)
    · cases connected.symm.trans ended
    · exact returning threw
  have holds := answering.holds going
  suffices moves : (¬ next.GivenUp → next.Holds bytes) ∧
      next.stepsToAnswer ≤ kai.stepsToAnswer ∧
      (action.isLoop = true → next.stepsToAnswer < kai.stepsToAnswer) by
    refine ⟨⟨answering.consistent.step taken, ?_, ?_, ?_, moves.1⟩, moves.2⟩
    · apply answering.running.step answering.consistent.chained _ taken
      cases action with
      | close fails => exact works.elim
      | _ => simp [Action.isClose]
    · exact (step_incoming taken).trans answering.incoming
    · have before := answering.events
      obtain ⟨more, added, _⟩ := step_adds taken
      rw [added, List.length_append]
      omega
  have beside (others : action.isLoop = false) (loops : action.isLoop = true) :
      next.stepsToAnswer < kai.stepsToAnswer := by
    rw [others] at loops
    exact absurd loops Bool.false_ne_true
  cases steps with
  | loop now fails =>
      obtain ⟨kept, less⟩ :=
        answering.loopStep connected returning works unanswered
      exact ⟨kept, Nat.le_of_lt less, fun _ => less⟩
  | datagram other sender receives fits completed =>
      rw [holds.not_complete answering.consistent.chained] at completed
      cases completed
  | usbSend | usbSendAccepts | usbSendRefuses | usbSendTo =>
      refine ⟨fun _ => holds.beside rfl rfl rfl, ?_, beside rfl⟩
      exact stepsToAnswer_beside (.refl kai.connection) rfl
  | usbSendClosed =>
      refine ⟨fun _ => holds.beside rfl rfl rfl, ?_, beside rfl⟩
      exact stepsToAnswer_beside ⟨by simp [setConnected], rfl, rfl, rfl, rfl⟩
        rfl
  | closeTest | closeSend | closeConnected | closeInitiated | closeStop
  | closeJoin | closeSocket => exact works.elim

end Answering

/-- A message which arrives is held. -/
theorem answering_datagram {sender : Endpoint} (consistent : kai.Consistent)
    (running : kai.Running)
    (taken : machine.step kai (.datagram bytes sender) = some next) :
    next.Answering next.events.length bytes
      kai.connection.mIncomingConnection where
  consistent := consistent.step taken
  running :=
    running.step consistent.chained (by simp [Action.isClose]) taken
  incoming := step_incoming taken
  events := Nat.le_refl _
  holds _ := by
    obtain ⟨returning, steps⟩ := stepped taken
    cases steps with
    | datagram _ _ receives fits completed =>
        exact .completed
          (consistent.chained.completes returning completed).1
          (XLinkKaiConnection.slice_receive kai.connection fits)

end Steps

section Runs

variable {connection : XLinkKaiConnection} {past actions : List Action}
  {kai arrived finish : KaiLoop} {bytes : List UInt8} {sender : Endpoint}

/-- Whatever arrives in a session, and wherever the loop is: within 18 of its
steps the message is answered, if the session lasts. -/
theorem message_answered (notClosing : ∀ action ∈ past, ¬ action.isClose)
    (before : machine.run (start connection) past = some kai)
    (arrives : machine.step kai (.datagram bytes sender) = some arrived)
    (lasting : machine.Guarded
      (LastsUntil arrived.events.length
        (reactionTo kai.connection.mIncomingConnection bytes))
      arrived actions)
    (reached : machine.run arrived actions = some finish)
    (enough : 18 ≤ actions.countP Action.isLoop) :
    finish.Answered arrived.events.length
      (reactionTo kai.connection.mIncomingConnection bytes) := by
  obtain ⟨consistent, running⟩ := running_of_run notClosing before
  have bound := stepsToAnswer_le arrived
  refine LabelledMachine.reaches_of_rank stepsToAnswer
    (Answering arrived.events.length bytes
      kai.connection.mIncomingConnection) Action.isLoop ?_ ?_
    (fun _ _ _ answered => answered.step)
    (answering_datagram consistent running arrives) lasting reached
    (by omega)
  · intro state _ nothing
    have left := state.stepsToAnswer_pos
    omega
  · intro state action next answering unanswered lasts taken
    by_cases answered : next.Answered arrived.events.length
        (reactionTo kai.connection.mIncomingConnection bytes)
    · exact .inl answered
    · exact .inr (answering.nearer (lasts unanswered) taken answered)

/-- Ethernet data arrives behind the settings, and a packet of the PSP is sent
while it is handled. -/
def dataAnswered : List Action :=
  List.replicate 7 (.loop 0 false) ++ .usbSend [1, 2, 3] ::
    List.replicate 2 (.usbSending true) ++ List.replicate 11 (.loop 0 true)

theorem message_answered_data :
    ∃ kai arrived finish,
      machine.run (start { mIncomingConnection := true })
          (connecting ++ confirmed) = some kai ∧
        machine.step kai (.datagram (cEthernetDataString ++ [7]) engine) =
          some arrived ∧
        machine.run arrived dataAnswered = some finish ∧
        reactionTo kai.connection.mIncomingConnection
          (cEthernetDataString ++ [7]) = .ethernetData [7] ∧
        finish.Answered arrived.events.length
          (reactionTo kai.connection.mIncomingConnection
            (cEthernetDataString ++ [7])) := by
  have runs : (machine.run (start { mIncomingConnection := true })
      (connecting ++ confirmed)).any (fun kai => decide
        (reactionTo kai.connection.mIncomingConnection
            (cEthernetDataString ++ [7]) = .ethernetData [7] ∧
          (machine.step kai
            (.datagram (cEthernetDataString ++ [7]) engine)).any
              (fun arrived => decide
                (machine.Guarded (LastsUntil arrived.events.length
                    (.ethernetData [7])) arrived dataAnswered ∧
                  (machine.run arrived dataAnswered).isSome = true)) =
            true)) = true := by
    decide +kernel
  obtain ⟨kai, before, outcome⟩ := (Option.any_eq_true _ _).mp runs
  obtain ⟨reacts, goes⟩ := of_decide_eq_true outcome
  obtain ⟨arrived, arrives, outcome⟩ := (Option.any_eq_true _ _).mp goes
  obtain ⟨lasting, ends⟩ := of_decide_eq_true outcome
  obtain ⟨finish, reached⟩ := Option.isSome_iff_exists.mp ends
  rw [← reacts] at lasting
  exact ⟨kai, arrived, finish, before, arrives, reached, reacts,
    message_answered (by decide) before arrives lasting reached (by decide)⟩

end Runs

end KaiLoop

end CWUSB
