import CWUSB.Library.LabelledMachine
import CWUSB.XLinkKaiConnection

/-!
# The receiver loop of the XLink Kai connection

The receiver thread, `Send` called by the USB receive thread, and `Close`
called by the main thread share the flags of the connection.  A step of the
loop makes at most one assignment to a flag, so that the others can act in
between, and `Send` of the USB receive thread is cut behind each of its tests.
`async_receive_from` leaves an outstanding receive, which completes with a
datagram, or empty when the socket is closed, and is dispatched by `poll`.
-/

namespace CWUSB

/-- An outstanding `async_receive_from`. -/
inductive Receive where
  | pending
  | completed (aBytesReceived : Nat)
deriving DecidableEq

/-- What the next step of the receiver thread will execute. -/
inductive LoopPoint where
  | restart
  | condition
  | reconnectTest
  | closeTest
  | closeSend
  | closeConnected
  | closeInitiated
  | closeSocket
  | reopen
  | connect
  | connectInitiated
  | connectTimeoutTest
  | connectTimeoutInitiated
  | connectTimeoutConnected
  | connectTimeoutSettings
  | keepAliveTimeoutTest
  | keepAliveTimeoutConnected
  | keepAliveTimeoutInitiated
  | keepAliveTimeoutSettings
  | settingsTest
  | sendSettings
  | settingsSent
  | poll
  | callback (aBytesReceived : Nat)
  | confirmInitiated (lCommand lData : List UInt8)
  | confirmConnected (lCommand lData : List UInt8)
  | dispatch (lCommand lData : List UInt8)
  | receiveAgain
  | finished
  | threw
deriving DecidableEq

/-- The next step of the main thread in `Close(true)`. -/
inductive ClosePoint where
  | test
  | send
  | connected
  | initiated
  | stop
  | join
  | socket
  | closed
deriving DecidableEq

/-- The next step of the USB receive thread in `Send`. -/
inductive SendPoint where
  | outside
  | connectedTest (aData : List UInt8)
  | sendTo (aData : List UInt8)
  /-- The socket was found closed, and `mConnected = false` is next. -/
  | foundClosed
deriving DecidableEq

inductive KaiEvent where
  | sent (datagram : List UInt8) (mRemote : Option Endpoint)
  /-- `Send` of the USB receive thread found `mConnected` set. -/
  | accepted (aData : List UInt8)
  /-- `mConnected` went from false to true. -/
  | sessionStarted
  /-- `mIncomingConnection->Send`. -/
  | forwarded (aData : List UInt8)
deriving DecidableEq

structure KaiLoop where
  connection : XLinkKaiConnection
  /-- `mIoService.stopped()`. -/
  stopped : Bool := false
  receives : List Receive := []
  loop : LoopPoint := .restart
  usbSend : SendPoint := .outside
  closing : ClosePoint := .test
  events : List KaiEvent := []
deriving DecidableEq

namespace KaiLoop

/-! ## Sockets and messages -/

def goTo (kai : KaiLoop) (point : LoopPoint) : KaiLoop :=
  { kai with loop := point }

/-- Change the connection, and put what was transmitted on record. -/
def exchange (kai : KaiLoop) (connection : XLinkKaiConnection)
    (transmitted : Option (List UInt8)) : KaiLoop :=
  { kai with
    connection := connection
    events := kai.events ++ transmitted.toList.map fun datagram =>
      .sent datagram kai.connection.mRemote }

def sendMessage (kai : KaiLoop) (aCommand aData : List UInt8)
    (fails : Bool) : KaiLoop :=
  let sent := kai.connection.send aCommand aData fails
  kai.exchange sent.connection sent.transmitted

/-- Closing the socket completes the pending receives with 0 bytes. -/
def shutSocket (kai : KaiLoop) : KaiLoop :=
  { kai with
    connection := { kai.connection with mSocketOpen := false }
    receives :=
      if kai.connection.mSocketOpen then
        kai.receives.map fun receive =>
          match receive with
          | .pending => .completed 0
          | .completed aBytesReceived => .completed aBytesReceived
      else kai.receives }

/-- Dispatch the first completed receive. -/
def takeCompleted : List Receive → Option (Nat × List Receive)
  | [] => none
  | .completed aBytesReceived :: receives => some (aBytesReceived, receives)
  | .pending :: receives =>
      (takeCompleted receives).map fun taken =>
        (taken.1, .pending :: taken.2)

/-- Complete the first pending receive. -/
def complete (aBytesReceived : Nat) : List Receive → Option (List Receive)
  | [] => none
  | .pending :: receives => some (.completed aBytesReceived :: receives)
  | .completed earlier :: receives =>
      (complete aBytesReceived receives).map (.completed earlier :: ·)

/-! ## The receiver thread -/

def setConnected (kai : KaiLoop) (value : Bool) : KaiLoop :=
  { kai with connection := { kai.connection with mConnected := value } }

def setInitiated (kai : KaiLoop) (value : Bool) : KaiLoop :=
  { kai with
    connection := { kai.connection with mConnectInitiated := value } }

def setSettingsSent (kai : KaiLoop) (value : Bool) : KaiLoop :=
  { kai with connection := { kai.connection with mSettingsSent := value } }

/-- The head of `ReceiveCallback`, up to the confirmation test. -/
def callbackHead (kai : KaiLoop) (aBytesReceived : Nat) (now : Int) :
    KaiLoop :=
  let lData := kai.connection.mData.slice 0 aBytesReceived
  if lData.isEmpty then kai.goTo .receiveAgain
  else
    let kai := { kai with connection := kai.connection.tickle now }
    match XLinkKaiConnection.testConfirmation kai.connection.mConnected
        lData with
    | .error _ => kai.goTo .threw
    | .ok confirmation =>
        if confirmation.confirmed then
          kai.goTo (.confirmInitiated confirmation.lCommand lData)
        else kai.goTo (.dispatch confirmation.lCommand lData)

/-- The body of `ReceiveCallback` for messages while connected. -/
def callbackBody (kai : KaiLoop) (lCommand lData : List UInt8)
    (fails : Bool) : KaiLoop :=
  if kai.connection.mConnected then
    match kai.connection.dispatch lCommand lData fails with
    | .error _ => kai.goTo .threw
    | .ok received =>
        let kai := kai.exchange received.connection received.transmitted
        { kai with
          events := kai.events ++ received.forwarded.toList.map .forwarded
          loop := .receiveAgain }
  else kai.goTo .receiveAgain

/-- The assignment `mConnected = true` of the callback. -/
def confirmConnected (kai : KaiLoop) : KaiLoop :=
  { kai.setConnected true with
    events :=
      if kai.connection.mConnected then kai.events
      else kai.events ++ [.sessionStarted] }

/-- One step of the receiver thread; `now` is what the clock shows, and
`fails` says whether the call to the network throws. -/
def loopStep (kai : KaiLoop) (now : Int) (fails : Bool) : KaiLoop :=
  match kai.loop with
  | .restart =>
      -- A stop which came before is undone.
      { kai with stopped := false, loop := .condition }
  | .condition =>
      kai.goTo (if kai.stopped then .finished else .reconnectTest)
  | .reconnectTest =>
      kai.goTo
        (if !kai.connection.mConnected && !kai.connection.mConnectInitiated
          then .closeTest else .connectTimeoutTest)
  | .closeTest =>
      kai.goTo
        (if kai.connection.mConnected || kai.connection.mConnectInitiated
          then .closeSend else .closeSocket)
  | .closeSend =>
      (kai.sendMessage cDisconnectString [] fails).goTo .closeConnected
  | .closeConnected => (kai.setConnected false).goTo .closeInitiated
  | .closeInitiated => (kai.setInitiated false).goTo .closeSocket
  | .closeSocket => kai.shutSocket.goTo .reopen
  | .reopen =>
      { kai with
        connection := kai.connection.openSocket kai.connection.mIp
          kai.connection.mPort fails
        loop := .connect }
  | .connect =>
      (kai.sendMessage cConnectString [] fails).goTo
        (if (kai.connection.send cConnectString [] fails).lReturn
          then .connectInitiated else .condition)
  | .connectInitiated =>
      { kai with
        connection :=
          { kai.connection with
            mConnectInitiated := true
            mConnectionTimerStart := now }
        loop := .condition }
  | .connectTimeoutTest =>
      kai.goTo
        (if !kai.connection.mConnected &&
            (kai.connection.mConnectInitiated &&
              decide (now > kai.connection.mConnectionTimerStart +
                cConnectionTimeout))
          then .connectTimeoutInitiated else .keepAliveTimeoutTest)
  | .connectTimeoutInitiated =>
      (kai.setInitiated false).goTo .connectTimeoutConnected
  | .connectTimeoutConnected =>
      (kai.setConnected false).goTo .connectTimeoutSettings
  | .connectTimeoutSettings => (kai.setSettingsSent false).goTo .condition
  | .keepAliveTimeoutTest =>
      kai.goTo
        (if kai.connection.mConnected &&
            (!kai.connection.mConnectInitiated &&
              decide (now > kai.connection.mKeepAliveTimerStart +
                cKeepAliveTimeout))
          then .keepAliveTimeoutConnected else .settingsTest)
  | .keepAliveTimeoutConnected =>
      (kai.setConnected false).goTo .keepAliveTimeoutInitiated
  | .keepAliveTimeoutInitiated =>
      (kai.setInitiated false).goTo .keepAliveTimeoutSettings
  | .keepAliveTimeoutSettings =>
      (kai.setSettingsSent false).goTo .condition
  | .settingsTest =>
      kai.goTo
        (if kai.connection.mConnected &&
            (!kai.connection.mConnectInitiated &&
              !kai.connection.mSettingsSent)
          then .sendSettings else .poll)
  | .sendSettings =>
      (kai.sendMessage cSettingDDSOnlyString [] fails).goTo .settingsSent
  | .settingsSent => (kai.setSettingsSent true).goTo .condition
  | .poll =>
      if kai.stopped then kai.goTo .condition
      else if kai.receives.isEmpty then
        -- Without work the service stops by itself.
        { kai with stopped := true, loop := .condition }
      else
        match takeCompleted kai.receives with
        | none => kai.goTo .condition
        | some (aBytesReceived, receives) =>
            { kai with receives := receives, loop := .callback aBytesReceived }
  | .callback aBytesReceived => kai.callbackHead aBytesReceived now
  | .confirmInitiated lCommand lData =>
      (kai.setInitiated false).goTo (.confirmConnected lCommand lData)
  | .confirmConnected lCommand lData =>
      kai.confirmConnected.goTo (.dispatch lCommand lData)
  | .dispatch lCommand lData => kai.callbackBody lCommand lData fails
  | .receiveAgain =>
      { kai with
        receives :=
          if kai.connection.mSocketOpen then kai.receives ++ [.pending]
          else kai.receives
        loop := .poll }
  | .finished => kai
  | .threw => kai

/-! ## The USB receive thread -/

/-- The call of `Send`, up to the test of the socket. -/
def usbSendStart (kai : KaiLoop) (aData : List UInt8) : KaiLoop :=
  { kai with
    usbSend :=
      if kai.connection.mSocketOpen then .connectedTest aData
      else .foundClosed }

/-- `send_to` throws on a socket which was closed meanwhile, too. -/
def sendTo (kai : KaiLoop) (datagram : List UInt8) (fails : Bool) : KaiLoop :=
  kai.exchange kai.connection
    (if kai.connection.mSocketOpen && !fails then some datagram else none)

/-- The next step of `Send`. -/
def usbSendStep (kai : KaiLoop) (fails : Bool) : Option KaiLoop :=
  match kai.usbSend with
  | .outside => none
  | .connectedTest aData =>
      some
        (if kai.connection.mConnected then
          { kai with
            usbSend := .sendTo aData
            events := kai.events ++ [.accepted aData] }
        else { kai with usbSend := .outside })
  | .sendTo aData =>
      some { kai.sendTo (cEthernetDataString ++ aData) fails with
        usbSend := .outside }
  | .foundClosed => some { kai.setConnected false with usbSend := .outside }

/-! ## The main thread -/

/-- One step of `Close(true)`. -/
def closeStep (kai : KaiLoop) (fails : Bool) : Option KaiLoop :=
  match kai.closing with
  | .test =>
      some
        { kai with
          closing :=
            if kai.connection.mConnected || kai.connection.mConnectInitiated
            then .send else .stop }
  | .send =>
      some { kai.sendMessage cDisconnectString [] fails with
        closing := .connected }
  | .connected => some { kai.setConnected false with closing := .initiated }
  | .initiated => some { kai.setInitiated false with closing := .stop }
  | .stop => some { kai with stopped := true, closing := .join }
  | .join =>
      if kai.loop = .finished then some { kai with closing := .socket }
      else none
  | .socket => some { kai.shutSocket with closing := .closed }
  | .closed => none

/-! ## All parties -/

inductive Action where
  | loop (now : Int) (fails : Bool)
  /-- A datagram arrives for a pending receive. -/
  | datagram (bytes : List UInt8) (sender : Endpoint)
  /-- The USB receive thread calls `Send`. -/
  | usbSend (aData : List UInt8)
  /-- The next step of that `Send`. -/
  | usbSending (fails : Bool)
  | close (fails : Bool)

/-- A step; an exception which escapes the receiver thread ends the
process. -/
def step (kai : KaiLoop) (action : Action) : Option KaiLoop :=
  if kai.loop = .threw then none
  else
    match action with
    | .loop now fails => some (kai.loopStep now fails)
    | .datagram bytes sender =>
        if kai.connection.mSocketOpen ∧ bytes.length ≤ cMaxLength then
          (complete bytes.length kai.receives).map fun receives =>
            { kai with
              -- The receive was given `mRemote` for the sender's endpoint.
              connection :=
                { kai.connection.receive bytes with mRemote := some sender }
              receives := receives }
        else none
    | .usbSend aData =>
        if kai.usbSend = .outside then some (kai.usbSendStart aData) else none
    | .usbSending fails => kai.usbSendStep fails
    | .close fails => kai.closeStep fails

def machine : LabelledMachine KaiLoop Action := ⟨step⟩

/-- The ways to take a step. -/
inductive Stepped (kai : KaiLoop) : Action → KaiLoop → Prop where
  | loop (now : Int) (fails : Bool) :
      Stepped kai (.loop now fails) (kai.loopStep now fails)
  | datagram (bytes : List UInt8) (sender : Endpoint)
      (receives : List Receive) (fits : bytes.length ≤ cMaxLength)
      (completed : complete bytes.length kai.receives = some receives) :
      Stepped kai (.datagram bytes sender)
        { kai with
          connection :=
            { kai.connection.receive bytes with mRemote := some sender }
          receives := receives }
  | usbSend (aData : List UInt8) (outside : kai.usbSend = .outside) :
      Stepped kai (.usbSend aData) (kai.usbSendStart aData)
  | usbSendAccepts (aData : List UInt8) (fails : Bool)
      (here : kai.usbSend = .connectedTest aData)
      (connected : kai.connection.mConnected = true) :
      Stepped kai (.usbSending fails)
        { kai with
          usbSend := .sendTo aData
          events := kai.events ++ [.accepted aData] }
  | usbSendRefuses (aData : List UInt8) (fails : Bool)
      (here : kai.usbSend = .connectedTest aData)
      (unconnected : kai.connection.mConnected = false) :
      Stepped kai (.usbSending fails) { kai with usbSend := .outside }
  | usbSendTo (aData : List UInt8) (fails : Bool)
      (here : kai.usbSend = .sendTo aData) :
      Stepped kai (.usbSending fails)
        { kai.sendTo (cEthernetDataString ++ aData) fails with
          usbSend := .outside }
  | usbSendClosed (fails : Bool) (here : kai.usbSend = .foundClosed) :
      Stepped kai (.usbSending fails)
        { kai.setConnected false with usbSend := .outside }
  | closeTest (fails : Bool) (here : kai.closing = .test) :
      Stepped kai (.close fails)
        { kai with
          closing :=
            if kai.connection.mConnected || kai.connection.mConnectInitiated
            then .send else .stop }
  | closeSend (fails : Bool) (here : kai.closing = .send) :
      Stepped kai (.close fails)
        { kai.sendMessage cDisconnectString [] fails with
          closing := .connected }
  | closeConnected (fails : Bool) (here : kai.closing = .connected) :
      Stepped kai (.close fails)
        { kai.setConnected false with closing := .initiated }
  | closeInitiated (fails : Bool) (here : kai.closing = .initiated) :
      Stepped kai (.close fails)
        { kai.setInitiated false with closing := .stop }
  | closeStop (fails : Bool) (here : kai.closing = .stop) :
      Stepped kai (.close fails) { kai with stopped := true, closing := .join }
  | closeJoin (fails : Bool) (here : kai.closing = .join)
      (finished : kai.loop = .finished) :
      Stepped kai (.close fails) { kai with closing := .socket }
  | closeSocket (fails : Bool) (here : kai.closing = .socket) :
      Stepped kai (.close fails) { kai.shutSocket with closing := .closed }

theorem stepped {kai next : KaiLoop} {action : Action}
    (taken : machine.step kai action = some next) :
    kai.loop ≠ .threw ∧ kai.Stepped action next := by
  simp only [machine, step] at taken
  split at taken
  · cases taken
  · next returning =>
      refine ⟨returning, ?_⟩
      cases action with
      | loop now fails =>
          cases taken
          exact .loop now fails
      | datagram bytes sender =>
          simp only [Option.ite_none_right_eq_some,
            Option.map_eq_some_iff] at taken
          obtain ⟨⟨_, fits⟩, receives, completed, rfl⟩ := taken
          exact .datagram bytes sender receives fits completed
      | usbSend aData =>
          simp only [Option.ite_none_right_eq_some,
            Option.some.injEq] at taken
          obtain ⟨outside, rfl⟩ := taken
          exact .usbSend aData outside
      | usbSending fails =>
          unfold usbSendStep at taken
          cases here : kai.usbSend with
          | outside => simp [here] at taken
          | connectedTest aData =>
              rw [here] at taken
              cases taken
              cases connected : kai.connection.mConnected with
              | true => exact .usbSendAccepts aData fails here connected
              | false => exact .usbSendRefuses aData fails here connected
          | sendTo aData =>
              rw [here] at taken
              cases taken
              exact .usbSendTo aData fails here
          | foundClosed =>
              rw [here] at taken
              cases taken
              exact .usbSendClosed fails here
      | close fails =>
          unfold closeStep at taken
          cases here : kai.closing with
          | join =>
              simp only [here, Option.ite_none_right_eq_some,
                Option.some.injEq] at taken
              obtain ⟨finished, rfl⟩ := taken
              exact .closeJoin fails here finished
          | closed => simp [here] at taken
          | test =>
              rw [here] at taken
              cases taken
              exact .closeTest fails here
          | send =>
              rw [here] at taken
              cases taken
              exact .closeSend fails here
          | connected =>
              rw [here] at taken
              cases taken
              exact .closeConnected fails here
          | initiated =>
              rw [here] at taken
              cases taken
              exact .closeInitiated fails here
          | stop =>
              rw [here] at taken
              cases taken
              exact .closeStop fails here
          | socket =>
              rw [here] at taken
              cases taken
              exact .closeSocket fails here

/-- After `Open` and `StartReceiverThread`: the socket is open, a receive is
pending, and the thread is in front of its first statement. -/
def start (connection : XLinkKaiConnection) : KaiLoop :=
  { connection :=
      { connection with
        mConnected := false
        mConnectInitiated := false
        mSettingsSent := false
        mSocketOpen := true }
    receives := [.pending] }

/-- The KaiEngine at its default address. -/
def engine : Endpoint := .of cIp cPort

/-- The thread connects, and then waits. -/
def connecting : List Action := List.replicate 17 (.loop 0 false)

/-- A confirmation arrives and is handled, up to `mSettingsSent = true`. -/
def confirmed : List Action :=
  .datagram cConnectedString engine :: List.replicate 20 (.loop 0 false)

/-! ## A call of `Send` as a whole -/

/-- What was sent so far. -/
def transmitted (kai : KaiLoop) : List (List UInt8) :=
  kai.events.filterMap fun event =>
    match event with
    | .sent datagram _ => some datagram
    | .accepted _ | .sessionStarted | .forwarded _ => none

/-- With no other thread in between, the steps of the USB receive thread are
`Send`. -/
theorem usbSend_uninterrupted {kai : KaiLoop} (returning : kai.loop ≠ .threw)
    (outside : kai.usbSend = .outside) (aData : List UInt8) (fails : Bool) :
    ∃ steps finish,
      machine.run kai
          (.usbSend aData :: List.replicate steps (.usbSending fails)) =
          some finish ∧
        finish.usbSend = .outside ∧
        finish.connection =
          (kai.connection.send cEthernetDataString aData fails).connection ∧
        finish.transmitted = kai.transmitted ++
          (kai.connection.send cEthernetDataString aData
            fails).transmitted.toList := by
  have other : (cEthernetDataString == cConnectString ||
      cEthernetDataString == cDisconnectString) = false := by decide
  cases isOpen : kai.connection.mSocketOpen with
  | false =>
      refine ⟨1, { kai.setConnected false with usbSend := .outside }, ?_, rfl,
        ?_, ?_⟩
      · simp [LabelledMachine.run, machine, step, returning, outside, isOpen,
          usbSendStart, usbSendStep, setConnected]
      · simp [XLinkKaiConnection.send, isOpen, setConnected]
      · simp [XLinkKaiConnection.send, isOpen, setConnected, transmitted]
  | true =>
      cases connected : kai.connection.mConnected with
      | false =>
          refine ⟨1, { kai with usbSend := .outside }, ?_, rfl, ?_, ?_⟩
          · simp [LabelledMachine.run, machine, step, returning, outside,
              isOpen, connected, usbSendStart, usbSendStep]
          · simp [XLinkKaiConnection.send, isOpen, connected, other]
          · simp [XLinkKaiConnection.send, isOpen, connected, other,
              transmitted]
      | true =>
          let accepting : KaiLoop :=
            { kai with events := kai.events ++ [.accepted aData] }
          refine ⟨2,
            { accepting.sendTo (cEthernetDataString ++ aData) fails with
              usbSend := .outside }, ?_, rfl, ?_, ?_⟩
          · simp [accepting, LabelledMachine.run, machine, step, returning,
              outside, isOpen, connected, usbSendStart, usbSendStep, sendTo,
              exchange]
          · cases fails <;>
              simp [accepting, XLinkKaiConnection.send, isOpen, connected,
                sendTo, exchange]
          · cases fails <;>
              simp [accepting, XLinkKaiConnection.send, isOpen, connected,
                sendTo, exchange, transmitted]

/-! ## The callback as a whole -/

section Callback

variable {kai : KaiLoop} {now : Int} {fails : Bool}

/-- The receiver thread gets to a state with the property with no other
thread in between. -/
def Uninterrupted (now : Int) (fails : Bool) (property : KaiLoop → Prop)
    (kai : KaiLoop) : Prop :=
  ∃ steps finish,
    machine.run kai (List.replicate steps (.loop now fails)) = some finish ∧
      property finish

theorem Uninterrupted.here {property : KaiLoop → Prop}
    (holds : property kai) : Uninterrupted now fails property kai :=
  ⟨0, kai, rfl, holds⟩

theorem Uninterrupted.after {property : KaiLoop → Prop}
    (returning : kai.loop ≠ .threw)
    (rest : Uninterrupted now fails property (kai.loopStep now fails)) :
    Uninterrupted now fails property kai := by
  obtain ⟨steps, finish, reached, holds⟩ := rest
  refine ⟨steps + 1, finish, ?_, holds⟩
  simpa [List.replicate_succ, LabelledMachine.run, machine, step, returning]
    using reached

/-- The state behind the callback, given what `ReceiveCallback` returns for
the connection. -/
def AfterCallback :
    Except StringException XLinkKaiConnection.Received → KaiLoop → Prop
  | .error _, finish => finish.loop = .threw
  | .ok received, finish =>
      finish.loop = .receiveAgain ∧ finish.connection = received.connection

/-- The last step of the callback handles the message while connected. -/
theorem dispatch_uninterrupted {lCommand lData : List UInt8}
    (here : kai.loop = .dispatch lCommand lData) :
    Uninterrupted now fails
      (AfterCallback
        (if kai.connection.mConnected then
          kai.connection.dispatch lCommand lData fails
        else .ok { connection := kai.connection })) kai := by
  apply Uninterrupted.after (by simp [here])
  apply Uninterrupted.here
  simp only [loopStep, here, callbackBody]
  cases kai.connection.mConnected with
  | false => exact ⟨rfl, rfl⟩
  | true =>
      simp only [if_true]
      cases kai.connection.dispatch lCommand lData fails with
      | error exception => rfl
      | ok received => exact ⟨rfl, rfl⟩

/-- With no other thread in between, the steps of the callback are
`ReceiveCallback`. -/
theorem callback_uninterrupted {aBytesReceived : Nat}
    (here : kai.loop = .callback aBytesReceived) (now : Int) (fails : Bool) :
    Uninterrupted now fails
      (AfterCallback
        (kai.connection.receiveCallback aBytesReceived now fails)) kai := by
  apply Uninterrupted.after (by simp [here])
  simp only [loopStep, here, callbackHead,
    XLinkKaiConnection.receiveCallback]
  split
  · exact .here ⟨rfl, rfl⟩
  · split
    · next exception tested =>
        rw [tested]
        exact .here rfl
    · next confirmation tested =>
        rw [tested]
        dsimp only [bind, Except.bind]
        split
        · apply Uninterrupted.after (by simp [goTo])
          apply Uninterrupted.after (by simp [loopStep, goTo])
          exact dispatch_uninterrupted rfl
        · exact dispatch_uninterrupted rfl

end Callback

end KaiLoop

end CWUSB
