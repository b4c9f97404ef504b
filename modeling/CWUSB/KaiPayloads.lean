import CWUSB.DataCodec
import CWUSB.Lifecycle
import CWUSB.SessionKept

/-!
# The payloads of the datagrams

What the receiver thread hands to the USB side, over whole runs.  A datagram
stays in `mData` until its handler has run, and there is one receive at a
time, so no datagram is overwritten before it is handled, and none is handled
twice: the payloads handed over are, in this order, among those which arrived.
-/

namespace CWUSB

/-- The ethernet data of a datagram, if it is one with data. -/
def payloadOf (datagram : List UInt8) : Option (List UInt8) :=
  if cEthernetDataString <+: datagram then
    some (datagram.drop cEthernetDataString.length)
  else none

def payloads (datagrams : List (List UInt8)) : List (List UInt8) :=
  datagrams.filterMap payloadOf

@[simp] theorem payloads_nil : payloads [] = [] := rfl

@[simp] theorem payloads_append (first second : List (List UInt8)) :
    payloads (first ++ second) = payloads first ++ payloads second :=
  List.filterMap_append

theorem payloads_singleton (datagram : List UInt8) :
    payloads [datagram] = (payloadOf datagram).toList := by
  cases found : payloadOf datagram <;> simp [payloads, found]

@[simp] theorem payloadOf_empty : payloadOf [] = none := by
  decide

/-- The datagram which `Send` builds of a payload. -/
theorem payloadOf_data (payload : List UInt8) :
    payloadOf (cEthernetDataString ++ payload) = some payload := by
  rw [payloadOf, if_pos (List.prefix_append _ _), List.drop_left]

/-! ## The command in front of a message -/

/-- The command is the start of the message up to a separator, or that of a
confirmation. -/
def AsCut (lCommand lData : List UInt8) : Prop :=
  lCommand = lData.take (behindFirstSeparator lData) ∨
    cConnectedFormat <+: lCommand

namespace XLinkKaiConnection

theorem testConfirmation_cut {mConnected : Bool} {lData : List UInt8}
    {confirmation : Confirmation}
    (tested : testConfirmation mConnected lData = .ok confirmation) :
    AsCut confirmation.lCommand lData := by
  unfold testConfirmation at tested
  simp only [substr_zero] at tested
  dsimp only [bind, Except.bind] at tested
  split at tested
  · next confirms =>
      obtain rfl := Except.ok.inj tested
      simp only [Bool.and_eq_true, beq_iff_eq] at confirms
      right
      have start : cConnectedFormat <+: lData :=
        (List.prefix_append _ _).trans
          (confirms.2 ▸ List.take_prefix _ lData)
      exact List.prefix_take_iff.mpr ⟨start, by decide⟩
  · obtain rfl := Except.ok.inj tested
    exact .inl rfl

/-- What starts like a confirmation is no other message. -/
theorem react_connectedFormat {mIncomingConnection : Bool}
    {lCommand lData : List UInt8} {reaction : Reaction}
    (confirmation : cConnectedFormat <+: lCommand)
    (reacts : react mIncomingConnection lCommand lData = .ok reaction) :
    reaction = .nothing := by
  have other (word : List UInt8) (apart : ¬ cConnectedFormat <+: word) :
      ¬ (lCommand == word) = true := by
    rw [beq_iff_eq]
    rintro rfl
    exact apart confirmation
  unfold react at reacts
  rw [if_neg (other _ (by decide)), if_neg (other _ (by decide)),
    if_neg (other _ (by decide))] at reacts
  exact (Except.ok.inj reacts).symm

/-- The handler hands over the payload of the message, or nothing. -/
theorem dispatch_forwarded {connection : XLinkKaiConnection}
    {lCommand lData : List UInt8} {fails : Bool} {received : Received}
    (cut : AsCut lCommand lData)
    (returns : connection.dispatch lCommand lData fails = .ok received) :
    received.forwarded = none ∨ received.forwarded = payloadOf lData := by
  unfold dispatch at returns
  cases reacts : react connection.mIncomingConnection lCommand lData with
  | error exception => simp [reacts, Except.map] at returns
  | ok reaction =>
      simp only [reacts, Except.map, Except.ok.injEq] at returns
      subst received
      rcases cut with first | confirmation
      · rw [react_eq_reactionTo first reacts, act_forwarded, payloadOf]
        cases connection.mIncomingConnection with
        | false => exact .inl (if_neg (by simp))
        | true => exact .inr (if_congr (by simp) rfl rfl)
      · rw [react_connectedFormat confirmation reacts]
        exact .inl rfl

/-! ## What keeps the received data -/

theorem send_mData (connection : XLinkKaiConnection)
    (aCommand aData : List UInt8) (fails : Bool) :
    (connection.send aCommand aData fails).connection.mData =
      connection.mData := by
  unfold send
  split
  · split
    · split <;> rfl
    · rfl
  · rfl

theorem dispatch_mData {connection : XLinkKaiConnection}
    {lCommand lData : List UInt8} {fails : Bool} {received : Received}
    (returns : connection.dispatch lCommand lData fails = .ok received) :
    received.connection.mData = connection.mData := by
  unfold dispatch at returns
  cases reacts : react connection.mIncomingConnection lCommand lData with
  | error exception => simp [reacts, Except.map] at returns
  | ok reaction =>
      simp only [reacts, Except.map, Except.ok.injEq] at returns
      subst received
      cases reaction with
      | keepAlive => exact connection.send_mData cKeepAliveString [] fails
      | nothing | ethernetData | disconnected => rfl

end XLinkKaiConnection

namespace KaiLoop

/-! ## Datagrams which were not handled yet -/

def Action.datagrams : Action → List (List UInt8)
  | .datagram bytes _ => [bytes]
  | .loop _ _ | .usbSend _ | .usbSending _ | .close _ => []

/-- The payloads handed to `mIncomingConnection->Send`. -/
def handed (kai : KaiLoop) : List (List UInt8) :=
  kai.events.filterMap Program.forwardedData

/-- The datagram an outstanding receive completed with. -/
def completedData (mData : FixedArray UInt8 cMaxLength) :
    Receive → List (List UInt8)
  | .pending => []
  | .completed aBytesReceived => [mData.slice 0 aBytesReceived]

/-- The datagrams which arrived and were not handled yet. -/
def carried (kai : KaiLoop) : List (List UInt8) :=
  kai.handled.toList ++
    kai.receives.flatMap (completedData kai.connection.mData)

def CutAt : LoopPoint → Prop
  | .confirmInitiated lCommand lData | .confirmConnected lCommand lData
  | .dispatch lCommand lData => AsCut lCommand lData
  | _ => True

/-- What was handed over, and what the datagrams not handled yet hold, are
among the payloads of the datagrams, in their order. -/
structure Delivers (datagrams : List (List UInt8)) (kai : KaiLoop) :
    Prop where
  cut : CutAt kai.loop
  among : (kai.handed ++ payloads kai.carried).Sublist (payloads datagrams)

section Steps

variable {kai next : KaiLoop} {datagrams : List (List UInt8)}

theorem Delivers.keeps (delivers : kai.Delivers datagrams)
    (handed : next.handed = kai.handed)
    (carried : (payloads next.carried).Sublist (payloads kai.carried))
    (cut : CutAt next.loop) : next.Delivers datagrams where
  cut := cut
  among := by
    rw [handed]
    exact ((List.Sublist.refl _).append carried).trans delivers.among

theorem handed_append {events : List KaiEvent}
    (added : next.events = kai.events ++ events) :
    next.handed = kai.handed ++ events.filterMap Program.forwardedData := by
  rw [handed, added, List.filterMap_append]
  rfl

theorem handed_exchange (connection : XLinkKaiConnection)
    (transmitted : Option (List UInt8)) :
    (kai.exchange connection transmitted).handed = kai.handed := by
  rw [handed_append rfl]
  cases transmitted <;> simp [Program.forwardedData]

/-- The message in hand and the received data stay as they are. -/
theorem Delivers.carries (delivers : kai.Delivers datagrams)
    (handed : next.handed = kai.handed)
    (inHand : next.handled = kai.handled)
    (receives : next.receives = kai.receives)
    (data : next.connection.mData = kai.connection.mData)
    (cut : CutAt next.loop) : next.Delivers datagrams := by
  apply delivers.keeps handed _ cut
  rw [carried, carried, inHand, receives, data]

theorem handled_eq (loop : next.loop = kai.loop)
    (data : next.connection.mData = kai.connection.mData) :
    next.handled = kai.handled := by
  rw [handled, handled, loop, data]

/-- The receiver thread stays where it is. -/
theorem Delivers.stays (delivers : kai.Delivers datagrams)
    (handed : next.handed = kai.handed) (loop : next.loop = kai.loop)
    (receives : next.receives = kai.receives)
    (data : next.connection.mData = kai.connection.mData) :
    next.Delivers datagrams :=
  delivers.carries handed (handled_eq loop data) receives data
    (loop ▸ delivers.cut)

theorem Delivers.sendMessage (delivers : kai.Delivers datagrams)
    (aCommand aData : List UInt8) (fails : Bool) :
    (kai.sendMessage aCommand aData fails).Delivers datagrams :=
  delivers.stays (handed_exchange _ _) rfl rfl
    (kai.connection.send_mData aCommand aData fails)

/-- Going on elsewhere with no message in hand. -/
theorem Delivers.goTo (delivers : kai.Delivers datagrams) {point : LoopPoint}
    (idle : (kai.goTo point).handled = none) (cut : CutAt point) :
    (kai.goTo point).Delivers datagrams := by
  refine delivers.keeps ?_ ?_ cut
  · rfl
  · rw [carried, idle, Option.toList_none, List.nil_append, carried,
      payloads_append]
    exact List.sublist_append_right _ _

/-- Going on elsewhere behind an assignment to a flag. -/
theorem Delivers.assign (delivers : kai.Delivers datagrams)
    {connection : XLinkKaiConnection} {point : LoopPoint}
    (data : connection.mData = kai.connection.mData)
    (idle : (kai.goTo point).handled = none) (cut : CutAt point) :
    Delivers datagrams
      { kai with connection := connection, loop := point } := by
  have assigned :
      Delivers datagrams { kai with connection := connection } := by
    apply delivers.stays _ _ _ data <;> rfl
  have still : (({ kai with connection := connection } : KaiLoop).goTo
      point).handled = none := by
    rw [← idle]
    exact handled_eq rfl data
  exact assigned.goTo still cut

theorem handed_confirmConnected : kai.confirmConnected.handed = kai.handed := by
  unfold confirmConnected
  by_cases connected : kai.connection.mConnected = true
  · simp [handed, connected]
  · simp [handed, connected, Program.forwardedData]

/-- A receive which ends with the socket brings no data. -/
theorem Delivers.shutSocket (delivers : kai.Delivers datagrams) :
    kai.shutSocket.Delivers datagrams := by
  have ended (receives : List Receive) :
      payloads ((receives.map fun receive =>
          match receive with
          | .pending => Receive.completed 0
          | .completed aBytesReceived => .completed aBytesReceived).flatMap
            (completedData kai.connection.mData)) =
        payloads (receives.flatMap
          (completedData kai.connection.mData)) := by
    induction receives with
    | nil => rfl
    | cons receive receives induction =>
        rw [List.map_cons, List.flatMap_cons, List.flatMap_cons,
          payloads_append, payloads_append, induction]
        cases receive with
        | pending => simp [completedData, FixedArray.slice, payloads]
        | completed aBytesReceived => rfl
  have receives : payloads (kai.shutSocket.receives.flatMap
      (completedData kai.connection.mData)) =
        payloads (kai.receives.flatMap
          (completedData kai.connection.mData)) := by
    rw [KaiLoop.shutSocket]
    dsimp only
    split
    · exact ended kai.receives
    · rfl
  have same : payloads kai.shutSocket.carried = payloads kai.carried := by
    rw [carried, payloads_append, carried, payloads_append, ← receives]
    rfl
  refine delivers.keeps ?_ ?_ delivers.cut
  · rfl
  · rw [same]

theorem Delivers.callbackHead (delivers : kai.Delivers datagrams)
    {aBytesReceived : Nat} (here : kai.loop = .callback aBytesReceived)
    (now : Int) :
    (kai.callbackHead aBytesReceived now).Delivers datagrams := by
  have inHand : kai.handled =
      some (kai.connection.mData.slice 0 aBytesReceived) := by
    rw [handled, here]
  have tickled : Delivers datagrams
      { kai with connection := kai.connection.tickle now } := by
    apply delivers.stays <;> rfl
  unfold KaiLoop.callbackHead
  dsimp only
  split
  · exact delivers.goTo rfl trivial
  · split
    · exact tickled.goTo rfl trivial
    · next confirmation tested =>
        have cut := XLinkKaiConnection.testConfirmation_cut tested
        split
        · refine delivers.carries ?_ ?_ ?_ ?_ cut
          · rfl
          · rw [inHand]
            rfl
          · rfl
          · rfl
        · refine delivers.carries ?_ ?_ ?_ ?_ cut
          · rfl
          · rw [inHand]
            rfl
          · rfl
          · rfl

/-- The message in hand is given up for its payload, if any. -/
theorem Delivers.callbackBody (delivers : kai.Delivers datagrams)
    {lCommand lData : List UInt8} (here : kai.loop = .dispatch lCommand lData)
    (fails : Bool) :
    (kai.callbackBody lCommand lData fails).Delivers datagrams := by
  have cut : AsCut lCommand lData := by
    have there := delivers.cut
    rwa [here] at there
  have inHand : kai.handled = some lData := by
    rw [handled, here]
  unfold KaiLoop.callbackBody
  split
  · split
    · exact delivers.goTo rfl trivial
    · next received returns =>
        have data := XLinkKaiConnection.dispatch_mData returns
        have given : received.forwarded.toList.Sublist
            (payloadOf lData).toList := by
          rcases XLinkKaiConnection.dispatch_forwarded cut returns with
            nothing | payload
          · rw [nothing]
            exact List.nil_sublist _
          · rw [payload]
        have sent : (received.forwarded.toList.map
            KaiEvent.forwarded).filterMap Program.forwardedData =
              received.forwarded.toList := by
          cases received.forwarded <;> rfl
        have before : payloads kai.carried =
            (payloadOf lData).toList ++ payloads (kai.receives.flatMap
              (completedData kai.connection.mData)) := by
          rw [carried, inHand, Option.toList_some, payloads_append,
            payloads_singleton]
        refine ⟨trivial, List.Sublist.trans ?_ delivers.among⟩
        rw [handed_append rfl, handed_exchange, sent, before,
          ← List.append_assoc]
        refine ((List.Sublist.refl _).append given).append ?_
        unfold carried handled exchange
        dsimp only
        rw [data]
        exact List.Sublist.refl _
  · exact delivers.goTo rfl trivial

theorem Delivers.poll (delivers : kai.Delivers datagrams)
    (chained : kai.Chained) (here : kai.loop = .poll) (now : Int)
    (fails : Bool) : (kai.loopStep now fails).Delivers datagrams := by
  have one := chained.poll here
  have idle : kai.handled = none := by
    rw [handled, here]
  unfold loopStep
  rw [here]
  dsimp only
  split
  · exact delivers.goTo rfl trivial
  · split
    · refine delivers.carries ?_ ?_ ?_ ?_ trivial
      · rfl
      · rw [idle]
        rfl
      · rfl
      · rfl
    · split
      · exact delivers.goTo rfl trivial
      · next aBytesReceived receives taken =>
          -- The one receive is the one which completed.
          have only : kai.receives = [.completed aBytesReceived] := by
            cases outstanding : kai.receives with
            | nil => simp [outstanding] at one
            | cons receive rest =>
                rw [outstanding, List.length_cons] at one
                obtain rfl : rest = [] :=
                  List.length_eq_zero_iff.mp (by omega)
                cases receive with
                | pending => simp [outstanding, takeCompleted] at taken
                | completed earlier =>
                    simp only [outstanding, takeCompleted, Option.some.injEq,
                      Prod.mk.injEq] at taken
                    rw [taken.1]
          have rest : receives = [] := by
            simpa [only, takeCompleted] using taken
          refine delivers.keeps ?_ ?_ trivial
          · rfl
          · rw [carried, carried, idle, only, rest]
            exact List.Sublist.refl _

theorem Delivers.loopStep (delivers : kai.Delivers datagrams)
    (chained : kai.Chained) (now : Int) (fails : Bool) :
    (kai.loopStep now fails).Delivers datagrams := by
  cases here : kai.loop with
  | restart =>
      have restarted : Delivers datagrams { kai with stopped := false } := by
        apply delivers.stays <;> rfl
      rw [KaiLoop.loopStep, here]
      exact restarted.goTo rfl trivial
  | poll => exact delivers.poll chained here now fails
  | callback aBytesReceived =>
      rw [KaiLoop.loopStep, here]
      exact delivers.callbackHead here now
  | dispatch lCommand lData =>
      rw [KaiLoop.loopStep, here]
      exact delivers.callbackBody here fails
  | confirmInitiated lCommand lData =>
      have cut := delivers.cut
      rw [here] at cut
      rw [KaiLoop.loopStep, here]
      refine delivers.carries ?_ ?_ ?_ ?_ cut
      · rfl
      · rw [handled, handled, here]
        rfl
      · rfl
      · rfl
  | confirmConnected lCommand lData =>
      have cut := delivers.cut
      rw [here] at cut
      rw [KaiLoop.loopStep, here]
      refine delivers.carries ?_ ?_ ?_ ?_ cut
      · exact handed_confirmConnected
      · rw [handled, handled, here]
        rfl
      · rfl
      · rfl
  | receiveAgain =>
      rw [KaiLoop.loopStep, here]
      refine delivers.keeps ?_ ?_ trivial
      · rfl
      · rw [carried, carried, handled, handled, here]
        dsimp only
        split
        · simp [completedData]
        · exact List.Sublist.refl _
  | closeSocket =>
      rw [KaiLoop.loopStep, here]
      exact delivers.shutSocket.goTo rfl trivial
  | closeSend | sendSettings =>
      rw [KaiLoop.loopStep, here]
      exact (delivers.sendMessage _ _ fails).goTo rfl trivial
  | connect =>
      rw [KaiLoop.loopStep, here]
      dsimp only
      split <;> exact (delivers.sendMessage _ _ fails).goTo rfl trivial
  | reopen =>
      rw [KaiLoop.loopStep, here]
      refine delivers.assign ?_ rfl trivial
      unfold XLinkKaiConnection.openSocket
      dsimp only
      split <;> rfl
  | condition | reconnectTest | closeTest | connectTimeoutTest
  | keepAliveTimeoutTest | settingsTest =>
      rw [KaiLoop.loopStep, here]
      dsimp only
      split <;> exact delivers.goTo rfl trivial
  | finished | threw =>
      rw [KaiLoop.loopStep, here]
      exact delivers
  | _ =>
      rw [KaiLoop.loopStep, here]
      refine delivers.assign ?_ rfl trivial
      rfl

/-- The receive which completes is the only one, and nothing is handled. -/
theorem Chained.completes (chained : kai.Chained)
    (returning : kai.loop ≠ .threw) {aBytesReceived : Nat}
    {receives : List Receive}
    (completed : complete aBytesReceived kai.receives = some receives) :
    receives = [.completed aBytesReceived] ∧ kai.loop.beingHandled = 0 := by
  have one : kai.receives.length + kai.loop.beingHandled = 1 :=
    chained.resolve_left returning
  cases outstanding : kai.receives with
  | nil => simp [outstanding, complete] at completed
  | cons receive rest =>
      rw [outstanding, List.length_cons] at one
      obtain rfl : rest = [] := List.length_eq_zero_iff.mp (by omega)
      cases receive with
      | pending =>
          simp only [outstanding, complete, Option.some.injEq] at completed
          exact ⟨completed.symm, by omega⟩
      | completed earlier => simp [outstanding, complete] at completed

/-- A datagram arrives for the one receive, when no other is carried. -/
theorem Delivers.datagram (delivers : kai.Delivers datagrams)
    (chained : kai.Chained) (returning : kai.loop ≠ .threw)
    {bytes : List UInt8} {sender : Endpoint} {receives : List Receive}
    (fits : bytes.length ≤ cMaxLength)
    (completed : complete bytes.length kai.receives = some receives) :
    Delivers (datagrams ++ [bytes])
      { kai with
        connection :=
          { kai.connection.receive bytes with mRemote := some sender }
        receives := receives } := by
  obtain ⟨rfl, idle⟩ := chained.completes returning completed
  refine ⟨delivers.cut, ?_⟩
  have arrived : KaiLoop.carried
      { kai with
        connection :=
          { kai.connection.receive bytes with mRemote := some sender }
        receives := [.completed bytes.length] } = [bytes] := by
    have slice := XLinkKaiConnection.slice_receive kai.connection fits
    unfold carried handled
    cases here : kai.loop <;>
      simp_all [LoopPoint.beingHandled, completedData]
  have handed : KaiLoop.handed
      { kai with
        connection :=
          { kai.connection.receive bytes with mRemote := some sender }
        receives := [.completed bytes.length] } = kai.handed := rfl
  rw [arrived, handed, payloads_append]
  refine List.Sublist.append ?_ (List.Sublist.refl _)
  exact (List.sublist_append_left _ _).trans delivers.among

theorem Delivers.step {action : Action} (delivers : kai.Delivers datagrams)
    (chained : kai.Chained) (taken : machine.step kai action = some next) :
    next.Delivers (datagrams ++ action.datagrams) := by
  obtain ⟨returning, moves⟩ := stepped taken
  cases moves with
  | datagram bytes sender receives fits completed =>
      exact delivers.datagram chained returning fits completed
  | loop now fails =>
      rw [Action.datagrams, List.append_nil]
      exact delivers.loopStep chained now fails
  | usbSendAccepts aData fails here connected =>
      rw [Action.datagrams, List.append_nil]
      refine delivers.stays ?_ rfl rfl rfl
      rw [handed_append rfl]
      exact List.append_nil _
  | usbSendTo aData fails here =>
      rw [Action.datagrams, List.append_nil]
      exact delivers.stays (handed_exchange kai.connection _) rfl rfl rfl
  | closeSend fails here =>
      rw [Action.datagrams, List.append_nil]
      apply (delivers.sendMessage cDisconnectString [] fails).stays <;> rfl
  | closeSocket fails here =>
      rw [Action.datagrams, List.append_nil]
      apply delivers.shutSocket.stays <;> rfl
  | _ =>
      rw [Action.datagrams, List.append_nil]
      apply delivers.stays <;> rfl

theorem delivers_start (connection : XLinkKaiConnection) :
    (start connection).Delivers [] where
  cut := trivial
  among := List.Sublist.refl _

/-- The payloads handed to the USB side are, in this order, among those of the
datagrams which arrived. -/
theorem delivers_of_run {connection : XLinkKaiConnection}
    {actions : List Action} {finish : KaiLoop}
    (reached : machine.run (start connection) actions = some finish) :
    finish.Delivers (actions.flatMap Action.datagrams) := by
  have both := machine.run_traced
    (fun past kai => kai.Consistent ∧
      kai.Delivers (past.flatMap Action.datagrams))
    ?_ ⟨consistent_start connection, delivers_start connection⟩
    (LabelledMachine.guarded_of_labels (fun _ _ _ => trivial) _) reached
  · exact both.2
  · rintro past kai action next ⟨consistent, delivers⟩ _ taken
    rw [List.flatMap_append, List.flatMap_singleton]
    exact ⟨consistent.step taken, delivers.step consistent.chained taken⟩

end Steps

end KaiLoop

end CWUSB
