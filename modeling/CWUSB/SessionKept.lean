import CWUSB.DatagramSafety
import CWUSB.ReceiveChain

/-!
# A session is not ended without a reason

Once a confirmation has set `mConnected`, the flag is cleared by the timeouts
of the receiver thread, by the message that XLink Kai disconnected, by `Close`
and by a `Send` that found the socket closed.  While datagrams keep coming and
none of them is such a message, none of this happens: the socket stays open,
and of the three conditions of the loop only the one about the settings holds.
A `Send` from before the session can still clear the flag.
-/

namespace CWUSB

namespace XLinkKaiConnection

/-- Only a message which says so disconnects. -/
theorem react_disconnected {mIncomingConnection : Bool}
    {lCommand lData : List UInt8}
    (reacts : react mIncomingConnection lCommand lData =
      .ok .disconnected) : cDisconnectedString <+: lData := by
  unfold react at reacts
  split at reacts
  · cases reacts
  · split at reacts
    · -- Ethernet data may throw, and is forwarded or ignored otherwise.
      rw [substr_zero] at reacts
      dsimp only [bind, Except.bind] at reacts
      repeat' split at reacts
      all_goals cases reacts
    · split at reacts
      · rw [substr_zero] at reacts
        dsimp only [bind, Except.bind] at reacts
        split at reacts
        · next same =>
            rw [beq_iff_eq] at same
            rw [← same]
            exact List.take_prefix _ _
        · cases reacts
      · cases reacts

/-- A confirmation is not such a message. -/
theorem not_disconnected_of_confirmed {lData : List UInt8}
    (confirmed : cConnectedString <+: lData) :
    ¬ cDisconnectedString <+: lData := by
  intro disconnected
  have both := List.prefix_of_prefix_length_le confirmed disconnected
    (by decide)
  revert both
  decide

end XLinkKaiConnection

/-- About to clear `mConnected` behind a timeout. -/
def LoopPoint.TimingOut : LoopPoint → Prop
  | .connectTimeoutInitiated | .connectTimeoutConnected
  | .keepAliveTimeoutConnected => True
  | _ => False

namespace KaiLoop

/-! ## The last datagram -/

/-- The history keeps when the last non-empty datagram was processed. -/
def noteProcessed (kai : KaiLoop) : Action → Option Int → Option Int
  | .loop now _, processed =>
      match kai.loop with
      | .callback aBytesReceived =>
          if (kai.connection.mData.slice 0 aBytesReceived).isEmpty
          then processed else some now
      | _ => processed
  | _, processed => processed

def timed : LabelledMachine (KaiLoop × Option Int) Action :=
  machine.withHistory noteProcessed

/-- No datagram ends the session, nobody closes the connection, and at every
test of the keepalive timer the last datagram is recent. -/
def KeepsSession (current : KaiLoop × Option Int) : Action → Prop
  | .loop now _ =>
      current.1.loop = .keepAliveTimeoutTest →
        ∀ processed ∈ current.2, now ≤ processed + cKeepAliveTimeout
  | .datagram bytes _ => ¬ cDisconnectedString <+: bytes
  | .usbSend _ | .usbSending _ => True
  | .close _ => False

instance (current : KaiLoop × Option Int) :
    (action : Action) → Decidable (KeepsSession current action)
  | .loop _ _ => inferInstanceAs (Decidable (_ → _))
  | .datagram _ _ => inferInstanceAs (Decidable (¬ _))
  | .usbSend _ | .usbSending _ => inferInstanceAs (Decidable True)
  | .close _ => inferInstanceAs (Decidable False)

/-- The message in hand. -/
def handled (kai : KaiLoop) : Option (List UInt8) :=
  match kai.loop with
  | .callback aBytesReceived =>
      some (kai.connection.mData.slice 0 aBytesReceived)
  | .confirmInitiated _ lData | .confirmConnected _ lData
  | .dispatch _ lData => some lData
  | _ => none

theorem beingHandled_of_handled {kai : KaiLoop} {lData : List UInt8}
    (inHand : kai.handled = some lData) : kai.loop.beingHandled = 1 := by
  unfold handled at inHand
  cases here : kai.loop <;> simp_all [LoopPoint.beingHandled]

/-- What the head of the callback does with a message. -/
theorem callbackHead_cases (kai : KaiLoop) (aBytesReceived : Nat)
    (now : Int) :
    (kai.connection.mData.slice 0 aBytesReceived = [] ∧
        kai.callbackHead aBytesReceived now = kai.goTo .receiveAgain) ∨
      (kai.connection.mData.slice 0 aBytesReceived ≠ [] ∧
        ∃ lCommand point,
          kai.callbackHead aBytesReceived now =
              { kai with
                connection := kai.connection.tickle now
                loop := point } ∧
            ((point = .confirmInitiated lCommand
                  (kai.connection.mData.slice 0 aBytesReceived) ∧
                cConnectedString <+:
                  kai.connection.mData.slice 0 aBytesReceived) ∨
              point = .dispatch lCommand
                (kai.connection.mData.slice 0 aBytesReceived))) := by
  unfold callbackHead
  dsimp only
  split
  · next empty => exact .inl ⟨List.isEmpty_iff.mp empty, rfl⟩
  · next nonempty =>
      refine .inr ⟨by simpa using nonempty, ?_⟩
      obtain ⟨confirmation, tested, _, confirms⟩ :=
        XLinkKaiConnection.testConfirmation_ok kai.connection.mConnected
          (kai.connection.mData.slice 0 aBytesReceived)
      have still : (kai.connection.tickle now).mConnected =
          kai.connection.mConnected := rfl
      rw [still, tested]
      dsimp only
      split
      · next confirmed =>
          exact ⟨_, _, rfl, .inl ⟨rfl, (confirms confirmed).2⟩⟩
      · exact ⟨_, _, rfl, .inr rfl⟩

/-- The keepalive timer was started when the last datagram was processed, and
a confirmation was processed. -/
structure Timed (current : KaiLoop × Option Int) : Prop where
  timer : ∀ processed ∈ current.2,
    current.1.connection.mKeepAliveTimerStart = processed
  confirming : ∀ lCommand lData,
    current.1.loop = .confirmInitiated lCommand lData ∨
      current.1.loop = .confirmConnected lCommand lData →
        cConnectedString <+: lData ∧ current.2.isSome = true

section Timed

variable {kai next : KaiLoop} {processed later : Option Int}

theorem Timed.goes (kept : Timed (kai, processed))
    (timer : next.connection.mKeepAliveTimerStart =
      kai.connection.mKeepAliveTimerStart)
    (point : next.loop = kai.loop ∨ ∀ lCommand lData,
      next.loop ≠ .confirmInitiated lCommand lData ∧
        next.loop ≠ .confirmConnected lCommand lData) :
    Timed (next, processed) := by
  refine ⟨fun time member => timer.trans (kept.timer time member), ?_⟩
  intro lCommand lData there
  rcases point with same | elsewhere
  · rw [same] at there
    exact kept.confirming lCommand lData there
  · rcases there with initiated | connected
    · exact absurd initiated (elsewhere lCommand lData).1
    · exact absurd connected (elsewhere lCommand lData).2

theorem Timed.loopStep (kept : Timed (kai, processed)) (now : Int)
    (fails : Bool) :
    Timed (kai.loopStep now fails,
      kai.noteProcessed (.loop now fails) processed) := by
  unfold KaiLoop.loopStep noteProcessed
  cases here : kai.loop with
  | callback aBytesReceived =>
      dsimp only
      rcases kai.callbackHead_cases aBytesReceived now with
        ⟨empty, goes⟩ | ⟨nonempty, lCommand, point, goes, confirms⟩
      · rw [goes, empty]
        exact kept.goes rfl (.inr (by simp [goTo]))
      · rw [goes, if_neg (by simpa using nonempty)]
        refine ⟨by simp [XLinkKaiConnection.tickle], ?_⟩
        intro otherCommand lData there
        rcases confirms with ⟨rfl, confirmed⟩ | rfl
        · simp only [LoopPoint.confirmInitiated.injEq, reduceCtorEq,
            or_false] at there
          exact ⟨there.2 ▸ confirmed, rfl⟩
        · simp at there
  | confirmInitiated lCommand lData =>
      refine ⟨kept.timer, fun otherCommand other there => ?_⟩
      simp only [goTo, reduceCtorEq, LoopPoint.confirmConnected.injEq,
        false_or] at there
      obtain ⟨rfl, rfl⟩ := there
      exact kept.confirming _ _ (.inl here)
  | closeSend | sendSettings =>
      have lowers := kai.connection.send_lowers
      exact kept.goes (lowers _ _ fails).keepAlive (.inr (by simp [goTo]))
  | connect =>
      have lowers := kai.connection.send_lowers cConnectString [] fails
      refine kept.goes lowers.keepAlive (.inr ?_)
      dsimp only [goTo]
      split <;> simp
  | dispatch lCommand lData =>
      refine kept.goes
        (kai.callbackBody_lowers lCommand lData fails).keepAlive (.inr ?_)
      rcases kai.callbackBody_loop lCommand lData fails with threw | again
      · simp [threw]
      · simp [again]
  | poll =>
      dsimp only
      split
      · exact kept.goes rfl (.inr (by simp [goTo]))
      · split
        · exact kept.goes rfl (.inr (by simp))
        · split <;> exact kept.goes rfl (.inr (by simp [goTo]))
  | reopen =>
      refine kept.goes ?_ (.inr (by simp))
      dsimp only [XLinkKaiConnection.openSocket]
      split <;> rfl
  | condition | reconnectTest | closeTest | connectTimeoutTest
  | keepAliveTimeoutTest | settingsTest =>
      refine kept.goes rfl (.inr ?_)
      dsimp only [goTo]
      split <;> simp
  | finished | threw => exact kept
  | _ => exact kept.goes rfl (.inr (by simp [goTo]))

theorem Timed.step {action : Action} (kept : Timed (kai, processed))
    (taken : timed.step (kai, processed) action = some (next, later)) :
    Timed (next, later) := by
  obtain ⟨moves, rfl⟩ := LabelledMachine.withHistory_step_eq_some.mp taken
  have lowers := kai.connection.send_lowers
  cases (stepped moves).2 with
  | loop now fails => exact kept.loopStep now fails
  | closeSend fails here =>
      exact kept.goes (lowers cDisconnectString [] fails).keepAlive (.inl rfl)
  | _ => exact kept.goes rfl (.inl rfl)

end Timed

/-! ## The session -/

/-- The session is up, nothing is about to end it, and what was received does
not say that it is over. -/
structure SessionUp (kai : KaiLoop) : Prop where
  connected : kai.connection.mConnected = true
  isOpen : kai.connection.mSocketOpen = true
  noSend : kai.usbSend ≠ .foundClosed
  point : ¬ kai.loop.TimingOut
  received : ∀ aBytesReceived, .completed aBytesReceived ∈ kai.receives →
    ¬ cDisconnectedString <+: kai.connection.mData.slice 0 aBytesReceived
  inHand : ∀ lData, kai.handled = some lData →
    ¬ cDisconnectedString <+: lData

section SessionUp

variable {kai next : KaiLoop} {processed later : Option Int}

/-- A step which neither ends the session nor receives anything. -/
theorem SessionUp.goes (up : kai.SessionUp)
    (connected : next.connection.mConnected = kai.connection.mConnected)
    (isOpen : next.connection.mSocketOpen = kai.connection.mSocketOpen)
    (usbSend : next.usbSend = kai.usbSend)
    (mData : next.connection.mData = kai.connection.mData)
    (received : ∀ aBytesReceived,
      .completed aBytesReceived ∈ next.receives →
        .completed aBytesReceived ∈ kai.receives)
    (point : ¬ next.loop.TimingOut)
    (inHand : next.handled = none ∨ next.handled = kai.handled) :
    next.SessionUp where
  connected := connected.trans up.connected
  isOpen := isOpen.trans up.isOpen
  noSend := by
    rw [usbSend]
    exact up.noSend
  point := point
  received := by
    rw [mData]
    exact fun aBytesReceived member =>
      up.received aBytesReceived (received aBytesReceived member)
  inHand := by
    rcases inHand with none | same
    · simp [none]
    · rw [same]
      exact up.inHand

/-- A step of the loop between the tests. -/
theorem SessionUp.goesTo (up : kai.SessionUp) {point : LoopPoint}
    (settled : ¬ point.TimingOut) (outside : (kai.goTo point).handled = none) :
    (kai.goTo point).SessionUp :=
  up.goes rfl rfl rfl rfl (fun _ => id) settled (.inl outside)

theorem takeCompleted_mem {receives rest : List Receive}
    {aBytesReceived : Nat}
    (taken : takeCompleted receives = some (aBytesReceived, rest)) :
    .completed aBytesReceived ∈ receives ∧ rest ⊆ receives := by
  induction receives generalizing rest with
  | nil => cases taken
  | cons receive receives induction =>
      cases receive with
      | completed earlier =>
          cases taken
          exact ⟨List.mem_cons_self, List.subset_cons_self _ _⟩
      | pending =>
          simp only [takeCompleted, Option.map_eq_some_iff, Prod.mk.injEq]
            at taken
          obtain ⟨⟨_, later⟩, taken, rfl, rfl⟩ := taken
          obtain ⟨member, within⟩ := induction taken
          exact ⟨List.mem_cons_of_mem _ member,
            List.cons_subset_cons _ within⟩

/-- Handling a message which does not end the session keeps it up. -/
theorem SessionUp.dispatch (up : kai.SessionUp) {lCommand lData : List UInt8}
    (here : kai.loop = .dispatch lCommand lData) (fails : Bool) :
    (kai.callbackBody lCommand lData fails).SessionUp := by
  have goesOn := up.inHand lData (by rw [handled, here])
  unfold callbackBody
  rw [if_pos up.connected]
  cases returns : kai.connection.dispatch lCommand lData fails with
  | error exception => exact up.goesTo id rfl
  | ok received =>
      unfold XLinkKaiConnection.dispatch at returns
      cases reacts : XLinkKaiConnection.react
          kai.connection.mIncomingConnection lCommand lData with
      | error exception => simp [reacts, Except.map] at returns
      | ok reaction =>
          simp only [reacts, Except.map, Except.ok.injEq] at returns
          subst received
          cases reaction with
          | disconnected =>
              exact absurd (XLinkKaiConnection.react_disconnected reacts)
                goesOn
          | keepAlive =>
              have same := XLinkKaiConnection.send_connection_of_open
                up.isOpen cKeepAliveString [] fails
              refine up.goes ?_ ?_ rfl ?_ (fun _ => id) id (.inl rfl) <;>
                simp [exchange, XLinkKaiConnection.act, same]
          | nothing | ethernetData =>
              exact up.goes rfl rfl rfl rfl (fun _ => id) id (.inl rfl)

/-- None of the tests of the loop ends the session. -/
theorem SessionUp.loopStep (up : kai.SessionUp) (exclusive : kai.Exclusive)
    {now : Int} (fails : Bool)
    (recent : kai.loop = .keepAliveTimeoutTest →
      now ≤ kai.connection.mKeepAliveTimerStart + cKeepAliveTimeout) :
    (kai.loopStep now fails).SessionUp := by
  have uninitiated : kai.connection.mConnectInitiated = false := by
    by_contra sets
    exact exclusive.exclusive ⟨up.connected, by simpa using sets⟩
  have notReconnecting : ¬ kai.loop.Reconnecting := by
    intro reconnecting
    cases up.connected.symm.trans (exclusive.reconnecting reconnecting).1
  unfold KaiLoop.loopStep
  cases here : kai.loop with
  | restart => exact up.goes rfl rfl rfl rfl (fun _ => id) id (.inl rfl)
  | condition | settingsTest =>
      dsimp only
      split <;> exact up.goesTo id rfl
  | reconnectTest | connectTimeoutTest =>
      rw [up.connected]
      exact up.goesTo id rfl
  | keepAliveTimeoutTest =>
      have inTime := Int.not_lt.mpr (recent here)
      dsimp only
      rw [up.connected, uninitiated, decide_eq_false inTime]
      exact up.goesTo id rfl
  | sendSettings =>
      have same := XLinkKaiConnection.send_connection_of_open up.isOpen
        cSettingDDSOnlyString [] fails
      refine up.goes ?_ ?_ rfl ?_ (fun _ => id) id (.inl rfl) <;>
        simp [goTo, sendMessage, exchange, same]
  | poll =>
      dsimp only
      split
      · exact up.goesTo id rfl
      · split
        · exact up.goes rfl rfl rfl rfl (fun _ => id) id (.inl rfl)
        · split
          · exact up.goesTo id rfl
          · next aBytesReceived receives taken =>
              obtain ⟨member, within⟩ := takeCompleted_mem taken
              refine
                { up with
                  point := id
                  received := fun later there =>
                    up.received later (within there)
                  inHand := ?_ }
              intro lData inHand
              cases inHand
              exact up.received aBytesReceived member
  | callback aBytesReceived =>
      dsimp only
      rcases kai.callbackHead_cases aBytesReceived now with
        ⟨_, goes⟩ | ⟨_, lCommand, point, goes, ⟨rfl, _⟩ | rfl⟩
      · rw [goes]
        exact up.goesTo id rfl
      · rw [goes]
        exact up.goes rfl rfl rfl rfl (fun _ => id) id
          (.inr (by simp [handled, here]))
      · rw [goes]
        exact up.goes rfl rfl rfl rfl (fun _ => id) id
          (.inr (by simp [handled, here]))
  | confirmInitiated lCommand lData =>
      exact up.goes rfl rfl rfl rfl (fun _ => id) id
        (.inr (by simp [handled, here, goTo]))
  | confirmConnected lCommand lData =>
      exact up.goes up.connected.symm rfl rfl rfl (fun _ => id) id
        (.inr (by simp [handled, here, goTo]))
  | dispatch lCommand lData => exact up.dispatch here fails
  | receiveAgain =>
      refine up.goes rfl rfl rfl rfl ?_ id (.inl rfl)
      simp [up.isOpen]
  | finished | threw => exact up
  | keepAliveTimeoutInitiated | connectTimeoutSettings
  | keepAliveTimeoutSettings | settingsSent =>
      exact up.goes rfl rfl rfl rfl (fun _ => id) id (.inl rfl)
  | connectInitiated =>
      cases up.connected.symm.trans (exclusive.connecting here)
  | closeTest | closeSend | closeConnected | closeInitiated | closeSocket
  | reopen | connect =>
      rw [here] at notReconnecting
      exact absurd trivial notReconnecting
  | connectTimeoutInitiated | connectTimeoutConnected
  | keepAliveTimeoutConnected =>
      have point := up.point
      rw [here] at point
      exact absurd trivial point

/-- A datagram arrives for the one receive. -/
theorem SessionUp.datagram (up : kai.SessionUp) (chained : kai.Chained)
    (returning : kai.loop ≠ .threw) {bytes : List UInt8} {sender : Endpoint}
    {receives : List Receive} (fits : bytes.length ≤ cMaxLength)
    (completed : complete bytes.length kai.receives = some receives)
    (goesOn : ¬ cDisconnectedString <+: bytes) :
    SessionUp
      { kai with
        connection :=
          { kai.connection.receive bytes with mRemote := some sender }
        receives := receives } := by
  have one : kai.receives.length + kai.loop.beingHandled = 1 :=
    chained.resolve_left returning
  have only : receives = [.completed bytes.length] ∧
      kai.loop.beingHandled = 0 := by
    cases outstanding : kai.receives with
    | nil => simp [outstanding, complete] at completed
    | cons receive rest =>
        rw [outstanding, List.length_cons] at one
        obtain rfl : rest = [] := List.length_eq_zero_iff.mp (by omega)
        cases receive with
        | pending =>
            simp only [outstanding, complete, Option.some.injEq] at completed
            exact ⟨completed.symm, by omega⟩
        | completed earlier => simp [outstanding, complete] at completed
  refine
    { up with
      received := fun aBytesReceived member => ?_
      inHand := fun lData inHand => ?_ }
  · obtain rfl : aBytesReceived = bytes.length := by
      simpa [only.1] using member
    rw [XLinkKaiConnection.slice_receive kai.connection fits]
    exact goesOn
  · have busy := beingHandled_of_handled inHand
    rw [only.2] at busy
    cases busy

theorem SessionUp.step {action : Action} (up : kai.SessionUp)
    (exclusive : kai.Exclusive) (chained : kai.Chained)
    (kept : Timed (kai, processed)) (since : processed.isSome = true)
    (guard : KeepsSession (kai, processed) action)
    (taken : machine.step kai action = some next) : next.SessionUp := by
  obtain ⟨returning, moves⟩ := stepped taken
  cases moves with
  | loop now fails =>
      refine up.loopStep exclusive fails fun here => ?_
      obtain ⟨time, rfl⟩ := Option.isSome_iff_exists.mp since
      rw [kept.timer time rfl]
      exact guard here time rfl
  | datagram bytes sender receives fits completed =>
      exact up.datagram chained returning fits completed guard
  | usbSend aData outside =>
      have noSend : (kai.usbSendStart aData).usbSend ≠ .foundClosed := by
        simp [usbSendStart, up.isOpen]
      exact { up with noSend := noSend }
  | usbSendAccepts | usbSendRefuses | usbSendTo =>
      exact { up with noSend := by simp }
  | usbSendClosed fails here => exact absurd here up.noSend
  | closeTest | closeSend | closeConnected | closeInitiated | closeStop
  | closeJoin | closeSocket => exact guard.elim

/-- What was noted is not forgotten. -/
theorem isSome_noteProcessed (kai : KaiLoop) (action : Action)
    (since : processed.isSome = true) :
    (kai.noteProcessed action processed).isSome = true := by
  unfold noteProcessed
  split
  · split
    · split
      · exact since
      · rfl
    · exact since
  · exact since

/-- The moment at which the confirmation sets `mConnected`. -/
theorem sessionUp_of_confirming (consistent : kai.Consistent)
    (kept : Timed (kai, processed)) (confirming : kai.loop.Confirming)
    (noSend : kai.usbSend ≠ .foundClosed) (now : Int) (fails : Bool) :
    processed.isSome = true ∧ (kai.loopStep now fails).SessionUp := by
  unfold KaiLoop.loopStep
  cases here : kai.loop with
  | confirmConnected lCommand lData =>
      have handling : kai.loop.Handling := by
        rw [here]
        trivial
      have nothing : kai.receives = [] := by
        simpa [Chained, receiveCount, here, LoopPoint.beingHandled]
          using consistent.chained
      obtain ⟨confirmed, since⟩ :=
        kept.confirming lCommand lData (.inr here)
      exact ⟨since,
        { connected := rfl
          isOpen := consistent.held.needed (.inl handling)
          noSend := noSend
          point := id
          received := by simp [goTo, confirmConnected, setConnected, nothing]
          inHand := by
            intro other inHand
            cases inHand
            exact XLinkKaiConnection.not_disconnected_of_confirmed
              confirmed }⟩
  | _ =>
      rw [here] at confirming
      exact confirming.elim

end SessionUp

/-! ## Runs -/

section Runs

variable {connection : XLinkKaiConnection} {before after : List Action}
  {kai finish : KaiLoop} {processed last : Option Int}

theorem timed_of_run
    (reached : timed.run (start connection, none) before =
      some (kai, processed)) : Timed (kai, processed) := by
  refine timed.run_invariant Timed ?_ ?_ reached
  · rintro ⟨state, past⟩ action ⟨next, later⟩ kept taken
    exact kept.step taken
  · exact ⟨by simp, by simp [start]⟩

/-- From the moment a confirmation sets `mConnected` on, the session is kept
while the keepalive timeout is not exceeded. -/
theorem session_kept {now : Int} {fails : Bool}
    (started : timed.run (start connection, none) before =
      some (kai, processed))
    (confirming : kai.loop.Confirming)
    (noSend : kai.usbSend ≠ .foundClosed)
    (keeps : timed.Guarded KeepsSession (kai, processed)
      (.loop now fails :: after))
    (reached : timed.run (kai, processed) (.loop now fails :: after) =
      some (finish, last)) :
    finish.connection.mConnected = true ∧
      finish.connection.mSocketOpen = true := by
  have consistent :=
    consistent_of_run (LabelledMachine.run_of_withHistory started)
  have kept := timed_of_run started
  obtain ⟨since, up⟩ :=
    sessionUp_of_confirming consistent kept confirming noSend now fails
  obtain ⟨⟨state, past⟩, first, rest⟩ :=
    LabelledMachine.run_cons_eq_some.mp reached
  obtain ⟨moves, rfl⟩ := LabelledMachine.withHistory_step_eq_some.mp first
  obtain rfl : state = kai.loopStep now fails := by
    cases (stepped moves).2
    rfl
  have final := timed.guarded_invariant
    (fun current => current.1.Consistent ∧ Timed current ∧
      current.2.isSome = true ∧ current.1.SessionUp) ?_
    ⟨consistent.step moves, kept.step first,
      isSome_noteProcessed kai (.loop now fails) since, up⟩
    (keeps _ first).2 rest
  · exact ⟨final.2.2.2.connected, final.2.2.2.isOpen⟩
  · rintro ⟨kai, processed⟩ action ⟨next, later⟩
      ⟨consistent, kept, since, up⟩ guard taken
    obtain ⟨moves, rfl⟩ := LabelledMachine.withHistory_step_eq_some.mp taken
    exact ⟨consistent.step moves, kept.step taken,
      isSome_noteProcessed kai action since,
      up.step consistent.exclusive consistent.chained kept since guard moves⟩

/-- A confirmation arrives, and the thread gets to the point at which it sets
`mConnected`. -/
def confirming : List Action :=
  connecting ++ .datagram cConnectedString engine ::
    List.replicate 8 (.loop 0 false)

/-- A `Send` fails, and the keepalive timeout is just not exceeded. -/
def quietMinute : List Action :=
  .usbSend [1] :: List.replicate 2 (.usbSending true) ++
    List.replicate 8 (.loop cKeepAliveTimeout false)

theorem session_kept_quietMinute :
    ∃ kai processed finish last,
      timed.run (start {}, none) confirming = some (kai, processed) ∧
        timed.run (kai, processed) (.loop 0 false :: quietMinute) =
          some (finish, last) ∧
        finish.connection.mConnected = true ∧
        finish.connection.mSocketOpen = true := by
  have runs : (timed.run (start {}, none) confirming).any
      (fun current => decide (current.1.loop.Confirming ∧
        current.1.usbSend ≠ .foundClosed ∧
        timed.Guarded KeepsSession current (.loop 0 false :: quietMinute) ∧
        (timed.run current (.loop 0 false :: quietMinute)).isSome = true)) =
          true := by
    decide +kernel
  obtain ⟨⟨kai, processed⟩, started, outcome⟩ :=
    (Option.any_eq_true _ _).mp runs
  obtain ⟨confirms, noSend, keeps, goesOn⟩ := of_decide_eq_true outcome
  obtain ⟨⟨finish, last⟩, reached⟩ := Option.isSome_iff_exists.mp goesOn
  exact ⟨kai, processed, finish, last, started, reached,
    session_kept started confirms noSend keeps reached⟩

/-- `Send` finds the socket closed while the thread reconnects, and a
confirmation arrives before it goes on. -/
def sendWhileReconnecting : List Action :=
  List.replicate 5 (.loop 0 false) ++ .usbSend [1] ::
    List.replicate 12 (.loop 0 false) ++ .datagram cConnectedString engine ::
      List.replicate 8 (.loop 0 false)

/-- That `Send` ends the session. -/
theorem session_ended_by_earlierSend :
    ∃ kai processed finish last,
      timed.run (start {}, none) sendWhileReconnecting =
          some (kai, processed) ∧
        kai.loop.Confirming ∧
        timed.Guarded KeepsSession (kai, processed)
          [.loop 0 false, .usbSending false] ∧
        timed.run (kai, processed) [.loop 0 false, .usbSending false] =
          some (finish, last) ∧
        finish.connection.mConnected = false := by
  have runs : (timed.run (start {}, none) sendWhileReconnecting).any
      (fun current => decide (current.1.loop.Confirming ∧
        timed.Guarded KeepsSession current [.loop 0 false, .usbSending false] ∧
        (timed.run current [.loop 0 false, .usbSending false]).any
          (fun last => last.1.connection.mConnected == false) = true)) =
            true := by
    decide +kernel
  obtain ⟨⟨kai, processed⟩, started, outcome⟩ :=
    (Option.any_eq_true _ _).mp runs
  obtain ⟨confirms, keeps, ends⟩ := of_decide_eq_true outcome
  obtain ⟨⟨finish, last⟩, reached, cleared⟩ := (Option.any_eq_true _ _).mp ends
  exact ⟨kai, processed, finish, last, started, confirms, keeps, reached,
    by simpa using cleared⟩

end Runs

end KaiLoop

end CWUSB
