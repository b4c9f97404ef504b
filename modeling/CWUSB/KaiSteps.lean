import CWUSB.DataCodec
import CWUSB.Destination
import CWUSB.KaiSession

/-!
# The steps of the receiver loop

What the parties of the connection add to its events is said here once: each
message is sent from one place of the receiver loop, by `Close(true)`, or by
the USB receive thread.  Outside of a session nothing is accepted, and nothing
sent but what connects and disconnects, and data accepted before.
-/

namespace CWUSB

namespace KaiEvent

def isData : KaiEvent → Bool
  | .sent datagram _ => cEthernetDataString.isPrefixOf datagram
  | .accepted _ | .sessionStarted | .forwarded _ => false

def isAccepted : KaiEvent → Bool
  | .accepted _ => true
  | .sent _ _ | .sessionStarted | .forwarded _ => false

/-- An event which needs a session.  For data that is its acceptance. -/
def InSession : KaiEvent → Prop
  | .sent datagram mRemote =>
      datagram ≠ cConnectString ∧ datagram ≠ cDisconnectString ∧
        (sent datagram mRemote).isData = false
  | .accepted _ | .forwarded _ => True
  | .sessionStarted => False

theorem isData_data (aData : List UInt8) (mRemote : Option Endpoint) :
    (sent (cEthernetDataString ++ aData) mRemote).isData = true :=
  List.isPrefixOf_iff_prefix.mpr (List.prefix_append _ _)

end KaiEvent

namespace LoopPoint

/-- The events a step of the loop may add. -/
inductive Says : LoopPoint → KaiEvent → Prop where
  | disconnects (mRemote : Option Endpoint) :
      Says .closeSend (.sent cDisconnectString mRemote)
  | connects (mRemote : Option Endpoint) :
      Says .connect (.sent cConnectString mRemote)
  | tellsSettings (mRemote : Option Endpoint) :
      Says .sendSettings (.sent cSettingDDSOnlyString mRemote)
  | keepsAlive (lCommand lData : List UInt8) (mRemote : Option Endpoint) :
      Says (.dispatch lCommand lData) (.sent cKeepAliveString mRemote)
  | forwards (lCommand lData aData : List UInt8) :
      Says (.dispatch lCommand lData) (.forwarded aData)
  | starts (lCommand lData : List UInt8) :
      Says (.confirmConnected lCommand lData) .sessionStarted

end LoopPoint

namespace KaiLoop

/-- A change which adds events of a kind. -/
def Adds (kind : KaiEvent → Prop) (kai next : KaiLoop) : Prop :=
  ∃ more, next.events = kai.events ++ more ∧ ∀ event ∈ more, kind event

section Adds

variable {kai next : KaiLoop} {kind : KaiEvent → Prop}

theorem adds_of_same (same : next.events = kai.events) : kai.Adds kind next :=
  ⟨[], by simp [same], by simp⟩

theorem Adds.mono {other : KaiEvent → Prop} (adds : kai.Adds kind next)
    (implied : ∀ event, kind event → other event) : kai.Adds other next := by
  obtain ⟨more, events, kinds⟩ := adds
  exact ⟨more, events, fun event member => implied event (kinds event member)⟩

theorem adds_exchange {connection : XLinkKaiConnection}
    {transmitted : Option (List UInt8)}
    (sent : ∀ datagram ∈ transmitted,
      kind (.sent datagram kai.connection.mRemote)) :
    kai.Adds kind (kai.exchange connection transmitted) := by
  refine ⟨_, rfl, ?_⟩
  intro event member
  obtain ⟨datagram, transmits, rfl⟩ := List.mem_map.mp member
  exact sent datagram (by simpa using transmits)

/-- `Send` puts out one datagram, in a session unless it connects or
disconnects. -/
theorem adds_sendMessage (aCommand aData : List UInt8) (fails : Bool) :
    kai.Adds
      (fun event =>
        event = .sent (aCommand ++ aData) kai.connection.mRemote ∧
          (kai.connection.mConnected = true ∨ aCommand = cConnectString ∨
            aCommand = cDisconnectString))
      (kai.sendMessage aCommand aData fails) := by
  apply adds_exchange
  intro datagram sent
  rw [XLinkKaiConnection.send_transmitted_eq] at sent
  split at sent
  · next transmits =>
      cases sent
      exact ⟨rfl, transmits.2.1⟩
  · cases sent

/-! ## The loop -/

/-- What a step of the loop may add. -/
def Heard (kai : KaiLoop) (event : KaiEvent) : Prop :=
  kai.loop.Says event ∧
    (event.InSession → kai.connection.mConnected = true)

theorem dispatch_sent {connection : XLinkKaiConnection}
    {lCommand lData : List UInt8} {fails : Bool}
    {received : XLinkKaiConnection.Received}
    (returns : connection.dispatch lCommand lData fails = .ok received) :
    ∀ datagram ∈ received.transmitted, datagram = cKeepAliveString := by
  unfold XLinkKaiConnection.dispatch at returns
  cases reacts : XLinkKaiConnection.react connection.mIncomingConnection
      lCommand lData with
  | error exception => simp [reacts, Except.map] at returns
  | ok reaction =>
      simp only [reacts, Except.map, Except.ok.injEq] at returns
      subst received
      intro datagram sent
      rw [(XLinkKaiConnection.act_answers connection fails reaction).1] at sent
      split at sent
      · cases sent
        rfl
      · cases sent

theorem callbackBody_adds {lCommand lData : List UInt8}
    (here : kai.loop = .dispatch lCommand lData) (fails : Bool) :
    kai.Adds kai.Heard (kai.callbackBody lCommand lData fails) := by
  unfold callbackBody
  split
  · next connected =>
      split
      · exact adds_of_same rfl
      · next received returns =>
          refine ⟨received.transmitted.toList.map (fun datagram =>
              .sent datagram kai.connection.mRemote) ++
            received.forwarded.toList.map .forwarded, ?_, ?_⟩
          · simp only [exchange, List.append_assoc]
          · intro event member
            refine ⟨?_, fun _ => connected⟩
            rw [here]
            rcases List.mem_append.mp member with sent | forwarded
            · obtain ⟨datagram, transmits, rfl⟩ := List.mem_map.mp sent
              rw [dispatch_sent returns datagram (by simpa using transmits)]
              exact .keepsAlive lCommand lData _
            · obtain ⟨aData, _inForwarded, rfl⟩ := List.mem_map.mp forwarded
              exact .forwards lCommand lData aData
  · exact adds_of_same rfl

theorem callbackHead_events (aBytesReceived : Nat) (now : Int) :
    (kai.callbackHead aBytesReceived now).events = kai.events := by
  unfold callbackHead
  dsimp only
  split
  · rfl
  · split
    · rfl
    · split <;> rfl

theorem loopStep_adds (now : Int) (fails : Bool) :
    kai.Adds kai.Heard (kai.loopStep now fails) := by
  unfold loopStep Heard
  cases here : kai.loop with
  | closeSend =>
      apply (adds_sendMessage cDisconnectString [] fails).mono
      rintro event ⟨rfl, _⟩
      exact ⟨.disconnects _, fun inSession => absurd rfl inSession.2.1⟩
  | connect =>
      apply (adds_sendMessage cConnectString [] fails).mono
      rintro event ⟨rfl, _⟩
      exact ⟨.connects _, fun inSession => absurd rfl inSession.1⟩
  | sendSettings =>
      apply (adds_sendMessage cSettingDDSOnlyString [] fails).mono
      rintro event ⟨rfl, allowed⟩
      refine ⟨.tellsSettings _, fun _ => ?_⟩
      rcases allowed with connected | connects | disconnects
      · exact connected
      · exact absurd connects (by decide)
      · exact absurd disconnects (by decide)
  | confirmConnected lCommand lData =>
      dsimp only [goTo, KaiLoop.confirmConnected]
      by_cases connected : kai.connection.mConnected = true
      · exact adds_of_same (if_pos connected)
      · refine ⟨[.sessionStarted], if_neg connected, ?_⟩
        intro event member
        rw [List.mem_singleton.mp member]
        exact ⟨.starts lCommand lData, fun inSession => inSession.elim⟩
  | callback aBytesReceived =>
      exact adds_of_same (callbackHead_events aBytesReceived now)
  | dispatch lCommand lData =>
      have adds := callbackBody_adds here fails
      unfold Heard at adds
      rwa [here] at adds
  | poll =>
      apply adds_of_same
      dsimp only
      split
      · rfl
      · split
        · rfl
        · split <;> rfl
  | _ => exact adds_of_same rfl

/-! ## All parties -/

/-- What a step of any party may add. -/
def SaysIn (kai : KaiLoop) : Action → KaiEvent → Prop
  | .loop _ _, event => kai.Heard event
  | .usbSending _, event =>
      ∃ aData,
        (kai.usbSend = .connectedTest aData ∧ event = .accepted aData ∧
            kai.connection.mConnected = true) ∨
          (kai.usbSend = .sendTo aData ∧
            event = .sent (cEthernetDataString ++ aData)
              kai.connection.mRemote)
  | .close _, event =>
      kai.closing = .send ∧
        event = .sent cDisconnectString kai.connection.mRemote
  | .datagram _ _, _ | .usbSend _, _ => False

theorem step_adds {action : Action}
    (taken : machine.step kai action = some next) :
    kai.Adds (kai.SaysIn action) next := by
  cases (stepped taken).2 with
  | loop now fails => exact loopStep_adds now fails
  | usbSendAccepts aData fails here connected =>
      refine ⟨[.accepted aData], rfl, ?_⟩
      intro event member
      rw [List.mem_singleton.mp member]
      exact ⟨aData, .inl ⟨here, rfl, connected⟩⟩
  | usbSendTo aData fails here =>
      have adds : kai.Adds
          (fun event => event =
            .sent (cEthernetDataString ++ aData) kai.connection.mRemote)
          (kai.sendTo (cEthernetDataString ++ aData) fails) := by
        apply adds_exchange
        intro datagram sent
        rw [Option.mem_def, Option.ite_none_right_eq_some] at sent
        cases sent.2
        rfl
      obtain ⟨more, events, kinds⟩ := adds
      exact ⟨more, events, fun event member =>
        ⟨aData, .inr ⟨here, kinds event member⟩⟩⟩
  | closeSend fails here =>
      apply (adds_sendMessage cDisconnectString [] fails).mono
      rintro event ⟨rfl, _⟩
      exact ⟨here, rfl⟩
  | _ => exact adds_of_same rfl

end Adds

end KaiLoop

end CWUSB
