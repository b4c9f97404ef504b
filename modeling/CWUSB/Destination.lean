import CWUSB.DataCodec
import CWUSB.Library.LabelledMachine

/-!
# Where datagrams are sent

`Open` sets `mRemote` to the configured KaiEngine, and `Send` sends to
`mRemote`.  `async_receive_from` is given the same object for the sender of
the datagram, so that whoever sent the last datagram gets everything which is
sent from then on.
-/

namespace CWUSB

namespace XLinkKaiConnection

/-- The endpoint a call of `Open` sets. -/
def endpointOf (aIp : String) (aPort : Nat) : Endpoint :=
  if aIp.isEmpty then .of cIp cPort else .of aIp aPort

theorem openSocket_mRemote (connection : XLinkKaiConnection) (aIp : String)
    (aPort : Nat) (fails : Bool) :
    (connection.openSocket aIp aPort fails).mRemote =
      some (endpointOf aIp aPort) := by
  unfold openSocket endpointOf
  dsimp only
  split <;> rfl

/-- `Send` gets to `send_to`, and that works. -/
def Transmits (connection : XLinkKaiConnection) (aCommand : List UInt8)
    (fails : Bool) : Prop :=
  connection.mSocketOpen = true ∧
    (connection.mConnected = true ∨ aCommand = cConnectString ∨
      aCommand = cDisconnectString) ∧
    fails = false

instance (connection : XLinkKaiConnection) (aCommand : List UInt8)
    (fails : Bool) : Decidable (connection.Transmits aCommand fails) :=
  inferInstanceAs (Decidable (_ ∧ _))

section Send

variable (connection : XLinkKaiConnection) (aCommand aData : List UInt8)
  (fails : Bool)

theorem send_transmitted_eq :
    (connection.send aCommand aData fails).transmitted =
      if connection.Transmits aCommand fails then some (aCommand ++ aData)
      else none := by
  unfold send Transmits
  by_cases isOpen : connection.mSocketOpen = true
  · by_cases allowed : connection.mConnected = true ∨
        aCommand = cConnectString ∨ aCommand = cDisconnectString
    · cases fails <;> simp [isOpen, allowed, or_assoc]
    · simp [isOpen, allowed, or_assoc]
  · simp [isOpen]

theorem send_mRemote :
    (connection.send aCommand aData fails).connection.mRemote =
      connection.mRemote := by
  unfold send
  split
  · split
    · split <;> rfl
    · rfl
  · rfl

theorem connect_sends (now : Int) :
    (connection.connect now fails).transmitted =
        (connection.send cConnectString [] fails).transmitted ∧
      (connection.connect now fails).connection.mRemote =
        connection.mRemote := by
  unfold connect
  dsimp only
  split <;> exact ⟨rfl, send_mRemote _ _ _ _⟩

/-- Only a connection that is up or on its way is disconnected. -/
theorem close_sends :
    (connection.close fails).transmitted =
        (if (connection.mConnected = true ∨
              connection.mConnectInitiated = true) ∧
            connection.Transmits cDisconnectString fails
          then some cDisconnectString else none) ∧
      (connection.close fails).connection.mRemote = connection.mRemote := by
  unfold close
  simp only [Bool.or_eq_true]
  split
  · next flags =>
      simp only [flags, true_and]
      exact ⟨connection.send_transmitted_eq cDisconnectString [] fails,
        connection.send_mRemote cDisconnectString [] fails⟩
  · next clear => simp [clear]

end Send

/-- Only a keepalive message is answered. -/
def Answers (connection : XLinkKaiConnection) (datagram : List UInt8)
    (fails : Bool) : Prop :=
  connection.mConnected = true ∧ cKeepAliveString <+: datagram ∧
    connection.Transmits cKeepAliveString fails

instance (connection : XLinkKaiConnection) (datagram : List UInt8)
    (fails : Bool) : Decidable (connection.Answers datagram fails) :=
  inferInstanceAs (Decidable (_ ∧ _))

theorem act_answers (connection : XLinkKaiConnection) (fails : Bool)
    (reaction : Reaction) :
    (connection.act fails reaction).transmitted =
        (if reaction = .keepAlive ∧ connection.Transmits cKeepAliveString fails
          then some cKeepAliveString else none) ∧
      (connection.act fails reaction).connection.mRemote =
        connection.mRemote := by
  cases reaction with
  | keepAlive =>
      refine ⟨?_, send_mRemote _ _ _ _⟩
      simp [act, send_transmitted_eq]
  | nothing | ethernetData | disconnected => simp [act]

theorem reactionTo_keepAlive_iff (mIncomingConnection : Bool)
    (lData : List UInt8) :
    reactionTo mIncomingConnection lData = .keepAlive ↔
      cKeepAliveString <+: lData := by
  unfold reactionTo
  split
  · next keepAlive => simp [keepAlive]
  · next other =>
      simp only [other, iff_false]
      split
      · split <;> simp
      · split <;> simp

/-- What the callback sends, and that it leaves `mRemote` alone. -/
theorem receiveCallback_answers {connection : XLinkKaiConnection}
    {datagram : List UInt8} {now : Int} {fails : Bool} {received : Received}
    (fits : datagram.length ≤ cMaxLength)
    (returns : (connection.receive datagram).receiveCallback datagram.length
      now fails = .ok received) :
    received.transmitted =
        (if connection.Answers datagram fails then some cKeepAliveString
          else none) ∧
      received.connection.mRemote = connection.mRemote := by
  cases datagram with
  | nil =>
      rw [List.length_nil, receiveCallback_empty] at returns
      cases returns
      have silent : ¬ connection.Answers [] fails := by
        rintro ⟨_, keepAlive, _⟩
        revert keepAlive
        decide
      exact ⟨(if_neg silent).symm, rfl⟩
  | cons byte rest =>
      cases connected : connection.mConnected with
      | true =>
          rw [receiveCallback_connected connected (by simp) fits returns]
          have acted := act_answers
            ((connection.receive (byte :: rest)).tickle now) fails
            (reactionTo connection.mIncomingConnection (byte :: rest))
          have same : connection.Answers (byte :: rest) fails ↔
              reactionTo connection.mIncomingConnection (byte :: rest) =
                  .keepAlive ∧
                ((connection.receive (byte :: rest)).tickle now).Transmits
                  cKeepAliveString fails := by
            rw [reactionTo_keepAlive_iff, Answers, connected]
            exact ⟨fun answers => answers.2, fun answers => ⟨rfl, answers⟩⟩
          exact ⟨acted.1.trans (if_congr same.symm rfl rfl), acted.2⟩
      | false =>
          have silent : ¬ connection.Answers (byte :: rest) fails := by
            simp [Answers, connected]
          rw [if_neg silent]
          rcases receiveCallback_unconnected connected (by simp) fits returns
            with rfl | rfl <;> exact ⟨rfl, rfl⟩

end XLinkKaiConnection

/-! ## Sequences of calls -/

/-- A datagram that was sent, with its destination and the endpoint which was
configured at that time. -/
structure Transmission where
  datagram : List UInt8
  mRemote : Option Endpoint
  configured : Option Endpoint
deriving DecidableEq

/-- The connection, and what is known about the calls so far. -/
structure Traffic where
  connection : XLinkKaiConnection := {}
  /-- The endpoint set by the most recent `Open`. -/
  configured : Option Endpoint := none
  /-- The sender of the last datagram since then. -/
  lastSender : Option Endpoint := none
  sent : List Transmission := []
deriving DecidableEq

namespace Traffic

inductive Call where
  | openSocket (aIp : String) (aPort : Nat) (fails : Bool)
  | connect (now : Int) (fails : Bool)
  /-- A receive completes, and `ReceiveCallback` handles the datagram. -/
  | datagram (bytes : List UInt8) (sender : Endpoint) (now : Int)
      (fails : Bool)
  | send (aCommand aData : List UInt8) (fails : Bool)
  | close (fails : Bool)

/-- The connection after a call, and what the call sent. -/
def transmit (traffic : Traffic) (connection : XLinkKaiConnection)
    (transmitted : Option (List UInt8)) : Traffic :=
  { traffic with
    connection := connection
    sent := traffic.sent ++ transmitted.toList.map fun datagram =>
      { datagram := datagram
        mRemote := connection.mRemote
        configured := traffic.configured } }

def step (traffic : Traffic) : Call → Option Traffic
  | .openSocket aIp aPort fails =>
      some
        { traffic with
          -- A socket which is open already cannot be opened.
          connection := traffic.connection.openSocket aIp aPort
            (fails || traffic.connection.mSocketOpen)
          configured := some (XLinkKaiConnection.endpointOf aIp aPort)
          lastSender := none }
  | .connect now fails =>
      let sent := traffic.connection.connect now fails
      some (traffic.transmit sent.connection sent.transmitted)
  | .datagram bytes sender now fails =>
      if traffic.connection.mSocketOpen ∧ bytes.length ≤ cMaxLength then
        -- The receive was given `mRemote` for the sender's endpoint.
        let connection :=
          { traffic.connection with mRemote := some sender }.receive bytes
        match connection.receiveCallback bytes.length now fails with
        | .error _ => none
        | .ok received =>
            some ({ traffic with lastSender := some sender }.transmit
              received.connection received.transmitted)
      else none
  | .send aCommand aData fails =>
      let sent := traffic.connection.send aCommand aData fails
      some (traffic.transmit sent.connection sent.transmitted)
  | .close fails =>
      let closed := traffic.connection.close fails
      some (traffic.transmit closed.connection closed.transmitted)

def machine : LabelledMachine Traffic Call := ⟨step⟩

/-- Everything was sent to the endpoint configured at that time. -/
def ToConfigured (traffic : Traffic) : Prop :=
  ∀ transmission ∈ traffic.sent,
    transmission.mRemote = transmission.configured

/-- Whether the call sends a datagram. -/
def Call.Sends (connection : XLinkKaiConnection) : Call → Prop
  | .openSocket _ _ _ => False
  | .connect _ fails => connection.Transmits cConnectString fails
  | .datagram bytes _ _ fails => connection.Answers bytes fails
  | .send aCommand _ fails => connection.Transmits aCommand fails
  | .close fails =>
      (connection.mConnected = true ∨ connection.mConnectInitiated = true) ∧
        connection.Transmits cDisconnectString fails

/-- The sender of the last datagram when the call sends one. -/
def Call.sender (traffic : Traffic) : Call → Option Endpoint
  | .datagram _ sender _ _ => some sender
  | .openSocket _ _ _ | .connect _ _ | .send _ _ _ | .close _ =>
      traffic.lastSender

/-- When a datagram is sent, the last one received since `Open` came from the
configured endpoint. -/
def HeardConfigured (traffic : Traffic) (call : Call) : Prop :=
  call.Sends traffic.connection →
    ∀ sender ∈ call.sender traffic, traffic.configured = some sender

instance (connection : XLinkKaiConnection) :
    (call : Call) → Decidable (call.Sends connection)
  | .openSocket _ _ _ => inferInstanceAs (Decidable False)
  | .connect _ _ | .send _ _ _ =>
      inferInstanceAs (Decidable (connection.Transmits _ _))
  | .datagram _ _ _ _ => inferInstanceAs (Decidable (connection.Answers _ _))
  | .close _ => inferInstanceAs (Decidable (_ ∧ _))

instance (traffic : Traffic) (call : Call) :
    Decidable (HeardConfigured traffic call) :=
  inferInstanceAs (Decidable (_ → _))

/-- Datagrams are sent to the sender of the last one since `Open`. -/
def Routed (traffic : Traffic) : Prop :=
  traffic.connection.mRemote = traffic.lastSender.or traffic.configured

section Step

variable {traffic next : Traffic}

theorem toConfigured_transmit {connection : XLinkKaiConnection}
    {transmitted : Option (List UInt8)} (holds : traffic.ToConfigured) :
    (traffic.transmit connection transmitted).ToConfigured ↔
      (transmitted.isSome = true →
        connection.mRemote = traffic.configured) := by
  cases transmitted with
  | none => simpa [transmit, ToConfigured] using holds
  | some datagram =>
      simp only [transmit, ToConfigured, List.mem_append, Option.toList_some,
        List.map_cons, List.map_nil, List.mem_singleton, Option.isSome_some,
        true_imp_iff]
      constructor
      · intro all
        exact all _ (.inr rfl)
      · rintro same transmission (earlier | rfl)
        · exact holds transmission earlier
        · exact same

/-- The last sender is the configured endpoint, if there is one. -/
theorem or_eq_configured_iff (sender configured : Option Endpoint) :
    sender.or configured = configured ↔
      ∀ endpoint ∈ sender, configured = some endpoint := by
  cases sender with
  | none => simp
  | some endpoint => simp [eq_comm]

/-- A call which sends to `mRemote` unless it sends nothing. -/
theorem toConfigured_transmit_iff {connection : XLinkKaiConnection}
    {transmitted : Option (List UInt8)} {datagram : List UInt8}
    {sends : Prop} [Decidable sends] (holds : traffic.ToConfigured)
    (transmits : transmitted = if sends then some datagram else none)
    (routed : connection.mRemote =
      traffic.lastSender.or traffic.configured) :
    (traffic.transmit connection transmitted).ToConfigured ↔
      (sends → ∀ endpoint ∈ traffic.lastSender,
        traffic.configured = some endpoint) := by
  have sent : transmitted.isSome = true ↔ sends := by
    rw [transmits]
    split <;> simp_all
  rw [toConfigured_transmit holds, routed, or_eq_configured_iff, sent]

theorem Routed.step {call : Call} (routed : traffic.Routed)
    (taken : machine.step traffic call = some next) : next.Routed := by
  cases call with
  | openSocket aIp aPort fails =>
      cases taken
      exact traffic.connection.openSocket_mRemote aIp aPort _
  | connect now fails =>
      cases taken
      exact (traffic.connection.connect_sends fails now).2.trans routed
  | send aCommand aData fails =>
      cases taken
      exact (traffic.connection.send_mRemote aCommand aData fails).trans routed
  | close fails =>
      cases taken
      exact (traffic.connection.close_sends fails).2.trans routed
  | datagram bytes sender now fails =>
      simp only [machine, Traffic.step, Option.ite_none_right_eq_some]
        at taken
      obtain ⟨⟨_, fits⟩, taken⟩ := taken
      split at taken
      · cases taken
      · next received returns =>
          cases taken
          exact (XLinkKaiConnection.receiveCallback_answers fits returns).2

/-- A call sends to the configured endpoint exactly when the last datagram
came from there. -/
theorem step_toConfigured {call : Call} (routed : traffic.Routed)
    (holds : traffic.ToConfigured)
    (taken : machine.step traffic call = some next) :
    next.ToConfigured ↔ traffic.HeardConfigured call := by
  cases call with
  | openSocket aIp aPort fails =>
      cases taken
      exact iff_of_true holds False.elim
  | connect now fails =>
      cases taken
      obtain ⟨sends, still⟩ := traffic.connection.connect_sends fails now
      exact toConfigured_transmit_iff holds
        (sends.trans (traffic.connection.send_transmitted_eq _ _ fails))
        (still.trans routed)
  | send aCommand aData fails =>
      cases taken
      exact toConfigured_transmit_iff holds
        (traffic.connection.send_transmitted_eq aCommand aData fails)
        ((traffic.connection.send_mRemote aCommand aData fails).trans routed)
  | close fails =>
      cases taken
      obtain ⟨sends, still⟩ := traffic.connection.close_sends fails
      exact toConfigured_transmit_iff holds sends (still.trans routed)
  | datagram bytes sender now fails =>
      simp only [machine, Traffic.step, Option.ite_none_right_eq_some]
        at taken
      obtain ⟨⟨_, fits⟩, taken⟩ := taken
      split at taken
      · cases taken
      · next received returns =>
          cases taken
          obtain ⟨answers, still⟩ :=
            XLinkKaiConnection.receiveCallback_answers fits returns
          exact toConfigured_transmit_iff holds answers still

end Step

/-- XLink Kai at its default address confirms the connection, and somebody
else sends a byte before the next payload is sent. -/
def strangerHeard : List Call :=
  [.openSocket "" cPort false, .connect 0 false,
    .datagram cConnectedString (.of cIp cPort) 0 false,
    .datagram [0] (.of "192.168.1.66" 4444) 0 false,
    .send cEthernetDataString [1, 2, 3] false]

end Traffic

end CWUSB
