import CWUSB.KaiSteps
import CWUSB.LastDisconnect
import CWUSB.Library.EventLog
import CWUSB.ReceiveChain

/-!
# The order of the conversation

XLink Kai is asked for a connection before it can confirm one, and told
something only after it did so since it was last asked.  Both flags are
assigned by several threads, but the loop comes to `poll` only behind a
`Connect` that worked, and asks again only while no session is up.  Data may be
sent late: `Send` of the USB receive thread accepts it in a session, which can
be over by the time of its `send_to`.
-/

namespace CWUSB

open EventLog

namespace KaiEvent

def Starts : KaiEvent → Prop
  | .sessionStarted => True
  | .sent _ _ | .accepted _ | .forwarded _ => False

def Disconnects : KaiEvent → Prop
  | .sent datagram _ => datagram = cDisconnectString
  | .accepted _ | .sessionStarted | .forwarded _ => False

/-- What an event relies on happened before it. -/
structure InOrder (before : List KaiEvent) (event : KaiEvent) : Prop where
  session : event.InSession → Since Starts Connects before
  started : event.Starts → ∃ earlier ∈ before, earlier.Connects
  disconnected : event.Disconnects →
    (∃ earlier ∈ before, earlier.Connects) ∧
      ∀ earlier ∈ before, ¬ earlier.Disconnects

/-- Each data datagram has an acceptance of its own. -/
def Accounted (before : List KaiEvent) (event : KaiEvent) : Prop :=
  event.isData = true → before.countP isData < before.countP isAccepted

/-- An event which neither starts a session nor asks for or ends one. -/
structure Talks (event : KaiEvent) : Prop where
  starts : ¬ event.Starts
  connects : ¬ event.Connects
  disconnects : ¬ event.Disconnects

section Talks

variable {event : KaiEvent}

theorem InSession.talks (inSession : event.InSession) : event.Talks := by
  cases event with
  | sent datagram mRemote => exact ⟨id, inSession.1, inSession.2.1⟩
  | sessionStarted => exact inSession.elim
  | accepted aData | forwarded aData => exact ⟨id, id, id⟩

theorem InSession.isData (inSession : event.InSession) :
    event.isData = false := by
  cases event with
  | sent datagram mRemote => exact inSession.2.2
  | _ => rfl

theorem Talks.inOrder {before : List KaiEvent} (talks : event.Talks)
    (started : event.InSession → Since Starts Connects before) :
    InOrder before event where
  session := started
  started := fun starts => absurd starts talks.starts
  disconnected := fun disconnects => absurd disconnects talks.disconnects

theorem data_talks (aData : List UInt8) (mRemote : Option Endpoint) :
    (sent (cEthernetDataString ++ aData) mRemote).Talks := by
  refine ⟨id, ?_, ?_⟩
  · intro same
    cases congrArg List.head? same
  · intro same
    cases congrArg List.head? same

theorem data_not_inSession (aData : List UInt8) (mRemote : Option Endpoint) :
    ¬ (sent (cEthernetDataString ++ aData) mRemote).InSession := by
  intro inSession
  cases (isData_data aData mRemote).symm.trans inSession.isData

end Talks

end KaiEvent

/-- The receiver thread deals with no data of the PSP. -/
theorem LoopPoint.Says.quiet {point : LoopPoint} {event : KaiEvent}
    (spoken : point.Says event) :
    event.isData = false ∧ event.isAccepted = false := by
  have other (datagram : List UInt8) (mRemote : Option Endpoint)
      (apart : cEthernetDataString.isPrefixOf datagram = false) :
      (KaiEvent.sent datagram mRemote).isData = false ∧
        (KaiEvent.sent datagram mRemote).isAccepted = false := ⟨apart, rfl⟩
  cases spoken with
  | disconnects mRemote => exact other _ _ (by decide)
  | connects mRemote => exact other _ _ (by decide)
  | tellsSettings mRemote => exact other _ _ (by decide)
  | keepsAlive lCommand lData mRemote => exact other _ _ (by decide)
  | forwards | starts => exact ⟨rfl, rfl⟩

/-- Whether a `Send` which was accepted has not come to its `send_to`. -/
def SendPoint.underWay : SendPoint → Nat
  | .sendTo _ => 1
  | .outside | .connectedTest _ | .foundClosed => 0

/-- Away from the places which connect, disconnect and start sessions, only
sessions are spoken about. -/
theorem LoopPoint.Says.inSession_of {point : LoopPoint} {event : KaiEvent}
    (spoken : point.Says event) (notConnecting : point ≠ .connect)
    (notClosing : point ≠ .closeSend)
    (notConfirming : ¬ point.Confirming) : event.InSession := by
  have quiet := spoken.quiet
  cases spoken with
  | disconnects mRemote => exact absurd rfl notClosing
  | connects mRemote => exact absurd rfl notConnecting
  | tellsSettings mRemote | keepsAlive lCommand lData mRemote =>
      exact ⟨by decide, by decide, quiet.1⟩
  | forwards lCommand lData aData => trivial
  | starts lCommand lData => exact absurd trivial notConfirming

/-- `Send` returns whether it sent the message. -/
theorem XLinkKaiConnection.send_transmitted_of_lReturn
    (connection : XLinkKaiConnection) (aCommand aData : List UInt8)
    (fails : Bool) :
    (connection.send aCommand aData fails).transmitted =
      if (connection.send aCommand aData fails).lReturn then
        some (aCommand ++ aData)
      else none := by
  unfold send
  split
  · split
    · cases fails <;> rfl
    · rfl
  · rfl

namespace KaiLoop

/-- A connection was asked for, as far as the state can tell. -/
def Asked (kai : KaiLoop) : Prop :=
  (kai.connection.mConnected = true ∨
      kai.connection.mConnectInitiated = true) ∨
    kai.loop.NeedsSocket ∨ kai.closing = .send

/-- `Close(true)` did not get to its disconnect. -/
def NotDisconnected (kai : KaiLoop) : Prop :=
  kai.closing = .test ∨ kai.closing = .send

/-- The conversation so far, and what the next step may add to it. -/
structure Ordered (kai : KaiLoop) : Prop where
  /-- `Close(false)` finds both flags clear, and disconnects from nothing. -/
  skipped : kai.loop ≠ .closeSend
  asked : kai.Asked → ∃ event ∈ kai.events, event.Connects
  session : kai.connection.mConnected = true →
    Since KaiEvent.Starts KaiEvent.Connects kai.events
  undisconnected : kai.NotDisconnected →
    ∀ event ∈ kai.events, ¬ event.Disconnects
  inOrder : Throughout KaiEvent.InOrder kai.events

section Ordered

variable {kai next : KaiLoop}

theorem ordered_start (connection : XLinkKaiConnection) :
    (start connection).Ordered where
  skipped := by simp [start]
  asked := by
    simp [Asked, start, LoopPoint.NeedsSocket, LoopPoint.Handling]
  session := by simp [start]
  undisconnected := by simp [start]
  inOrder := throughout_nil

/-- A step which sets no flag, and speaks about a session only while one is
up. -/
theorem Ordered.talks (ordered : kai.Ordered)
    (adds : kai.Adds (fun event => event.Talks ∧
      (event.InSession → kai.connection.mConnected = true)) next)
    (connected : next.connection.mConnected = true →
      kai.connection.mConnected = true)
    (asks : next.Asked → kai.Asked)
    (closing : next.NotDisconnected → kai.NotDisconnected)
    (skipped : next.loop ≠ .closeSend) : next.Ordered := by
  obtain ⟨more, events, talk⟩ := adds
  have kept {some : List KaiEvent} (among : some ⊆ more) :
      Since KaiEvent.Starts KaiEvent.Connects (kai.events ++ some) ↔
        Since KaiEvent.Starts KaiEvent.Connects kai.events := by
    apply since_append
    intro event member
    obtain ⟨talks, _⟩ := talk event (among member)
    exact ⟨talks.starts, talks.connects⟩
  refine ⟨skipped, fun asked => ?_, fun up => ?_, fun notYet => ?_, ?_⟩
  · obtain ⟨event, member, connects⟩ := ordered.asked (asks asked)
    rw [events]
    exact ⟨event, List.mem_append_left _ member, connects⟩
  · rw [events]
    exact (kept (List.Subset.refl more)).mpr (ordered.session (connected up))
  · intro event member
    rw [events] at member
    rcases List.mem_append.mp member with earlier | now
    · exact ordered.undisconnected (closing notYet) event earlier
    · exact (talk event now).1.disconnects
  · rw [events]
    apply ordered.inOrder.extend
    rintro before event after rfl
    obtain ⟨talks, up⟩ := talk event (by simp)
    apply talks.inOrder
    intro inSession
    exact (kept (List.subset_append_left _ _)).mpr
      (ordered.session (up inSession))

/-! ## The loop -/

/-- Only the confirmation starts a session. -/
theorem loopStep_connected (now : Int) (fails : Bool)
    (notConfirming : ¬ kai.loop.Confirming)
    (up : (kai.loopStep now fails).connection.mConnected = true) :
    kai.connection.mConnected = true := by
  by_cases needed : kai.loop.NeedsSocket
  · unfold loopStep at up
    cases here : kai.loop with
    | confirmConnected lCommand lData =>
        rw [here] at notConfirming
        exact absurd trivial notConfirming
    | callback aBytesReceived =>
        rw [here] at up
        rwa [← (kai.callbackHead_session aBytesReceived now).1]
    | dispatch lCommand lData =>
        rw [here] at up
        exact (kai.callbackBody_lowers lCommand lData fails).connected up
    | poll =>
        rw [here] at up
        dsimp only at up
        split at up
        · exact up
        · split at up
          · exact up
          · split at up <;> exact up
    | closeSend | closeConnected | reopen | connect | sendSettings
    | connectTimeoutConnected | keepAliveTimeoutConnected =>
        simp [here, LoopPoint.NeedsSocket, LoopPoint.Handling] at needed
    | _ =>
        rw [here] at up
        exact up
  · exact (loopStep_flags now fails needed).1 up

/-- Behind the test of the loop, or a `Connect` that worked, a connection was
asked for. -/
theorem loopStep_asked (now : Int) (fails : Bool)
    (notConfirming : ¬ kai.loop.Confirming)
    (connects : kai.loop = .connect →
      (kai.connection.send cConnectString [] fails).lReturn = false)
    (asked : (kai.loopStep now fails).Asked) : kai.Asked := by
  rcases asked with (up | initiated) | needs | closing
  · exact .inl (.inl (loopStep_connected now fails notConfirming up))
  · by_cases needed : kai.loop.NeedsSocket
    · exact .inr (.inl needed)
    · exact .inl (.inr ((loopStep_flags now fails needed).2 initiated))
  · rcases loopStep_needs now fails needs with
      needed | ⟨_, flags⟩ | ⟨here, _⟩
    · exact .inr (.inl needed)
    · exact .inl flags
    · rw [loopStep, here] at needs
      simp [goTo, connects here, LoopPoint.NeedsSocket, LoopPoint.Handling]
        at needs
  · rw [loopStep_closing] at closing
    exact .inr (.inr closing)

theorem loopStep_notDisconnected (now : Int) (fails : Bool) :
    (kai.loopStep now fails).NotDisconnected ↔ kai.NotDisconnected := by
  rw [NotDisconnected, loopStep_closing, NotDisconnected]

theorem loopStep_skips (exclusive : kai.Exclusive) (now : Int)
    (fails : Bool) (skipped : kai.loop ≠ .closeSend) :
    (kai.loopStep now fails).loop ≠ .closeSend := by
  by_cases reconnecting : kai.loop.Reconnecting
  · have clear := exclusive.reconnecting reconnecting
    unfold loopStep
    cases here : kai.loop with
    | closeSend => exact absurd here skipped
    | closeTest =>
        dsimp only [goTo]
        rw [clear.1, clear.2]
        simp
    | connect =>
        dsimp only [goTo]
        split <;> simp
    | closeConnected | closeInitiated | closeSocket | reopen => simp [goTo]
    | _ =>
        rw [here] at reconnecting
        exact reconnecting.elim
  · by_cases here : kai.loop = .reconnectTest
    · rw [loopStep, here]
      dsimp only [goTo]
      split <;> simp
    · have outside := loopStep_notReconnecting now fails reconnecting
        fun there => absurd there here
      intro there
      rw [there] at outside
      exact outside trivial

/-- `Connect` sends its string, or the loop starts over. -/
theorem Ordered.connect (ordered : kai.Ordered) (exclusive : kai.Exclusive)
    (here : kai.loop = .connect) (now : Int) (fails : Bool) :
    (kai.loopStep now fails).Ordered := by
  have notConfirming : ¬ kai.loop.Confirming := by
    rw [here]
    exact id
  have sends := kai.connection.send_transmitted_of_lReturn cConnectString []
    fails
  have events : (kai.loopStep now fails).events =
      kai.events ++ (kai.connection.send cConnectString []
        fails).transmitted.toList.map fun datagram =>
          .sent datagram kai.connection.mRemote := by
    rw [loopStep, here]
    rfl
  cases works : (kai.connection.send cConnectString [] fails).lReturn with
  | false =>
      rw [works, if_neg Bool.false_ne_true] at sends
      rw [sends] at events
      apply ordered.talks
      · exact ⟨[], events, by simp⟩
      · exact loopStep_connected now fails notConfirming
      · exact loopStep_asked now fails notConfirming fun _ => works
      · exact (loopStep_notDisconnected now fails).mp
      · exact loopStep_skips exclusive now fails ordered.skipped
  | true =>
      rw [works, if_pos rfl] at sends
      rw [sends] at events
      have clear := exclusive.reconnecting (by rw [here]; trivial)
      have apart : cConnectString ++ [] ≠ cDisconnectString := by decide
      refine ⟨loopStep_skips exclusive now fails ordered.skipped,
        fun _ => ?_, fun up => ?_, fun notYet => ?_, ?_⟩
      · rw [events]
        exact ⟨_, List.mem_append_right _ (List.mem_singleton_self _), rfl⟩
      · have before := loopStep_connected now fails notConfirming up
        rw [clear.1] at before
        cases before
      · have none := ordered.undisconnected
          ((loopStep_notDisconnected now fails).mp notYet)
        intro event member
        rw [events] at member
        rcases List.mem_append.mp member with earlier | now
        · exact none event earlier
        · rw [List.mem_singleton.mp now]
          exact apart
      · rw [events]
        refine throughout_concat.mpr ⟨ordered.inOrder, ?_⟩
        exact
          { session := fun inSession => absurd rfl inSession.1
            started := False.elim
            disconnected := fun same => absurd same apart }

theorem Ordered.confirm (ordered : kai.Ordered) (exclusive : kai.Exclusive)
    {lCommand lData : List UInt8}
    (here : kai.loop = .confirmConnected lCommand lData) (now : Int)
    (fails : Bool) : (kai.loopStep now fails).Ordered := by
  have asked : kai.Asked := by
    right
    left
    rw [here]
    exact .inl trivial
  have closing : (kai.loopStep now fails).NotDisconnected →
      kai.NotDisconnected :=
    (loopStep_notDisconnected now fails).mp
  by_cases up : kai.connection.mConnected = true
  · apply ordered.talks
    · apply adds_of_same
      rw [loopStep, here]
      exact if_pos up
    · exact fun _ => up
    · exact fun _ => asked
    · exact closing
    · exact loopStep_skips exclusive now fails ordered.skipped
  · have events : (kai.loopStep now fails).events =
        kai.events ++ [.sessionStarted] := by
      rw [loopStep, here]
      exact if_neg up
    refine ⟨loopStep_skips exclusive now fails ordered.skipped,
      fun _ => ?_, fun _ => ?_, fun notYet event member => ?_, ?_⟩
    · obtain ⟨event, member, connects⟩ := ordered.asked asked
      rw [events]
      exact ⟨event, List.mem_append_left _ member, connects⟩
    · rw [events]
      exact since_concat.mpr (.inl trivial)
    · rw [events] at member
      rcases List.mem_append.mp member with earlier | now
      · exact ordered.undisconnected (closing notYet) event earlier
      · rw [List.mem_singleton.mp now]
        exact id
    · rw [events]
      refine throughout_concat.mpr ⟨ordered.inOrder, ?_⟩
      exact
        { session := False.elim
          started := fun _ => ordered.asked asked
          disconnected := False.elim }

theorem Ordered.loopStep (ordered : kai.Ordered) (exclusive : kai.Exclusive)
    (now : Int) (fails : Bool) : (kai.loopStep now fails).Ordered := by
  by_cases connecting : kai.loop = .connect
  · exact ordered.connect exclusive connecting now fails
  · by_cases confirming : kai.loop.Confirming
    · cases here : kai.loop with
      | confirmConnected lCommand lData =>
          exact ordered.confirm exclusive here now fails
      | _ =>
          rw [here] at confirming
          exact confirming.elim
    · apply ordered.talks
      · apply (loopStep_adds now fails).mono
        rintro event ⟨spoken, up⟩
        have inSession := spoken.inSession_of connecting ordered.skipped
          confirming
        exact ⟨inSession.talks, up⟩
      · exact loopStep_connected now fails confirming
      · exact loopStep_asked now fails confirming
          fun here => absurd here connecting
      · exact (loopStep_notDisconnected now fails).mp
      · exact loopStep_skips exclusive now fails ordered.skipped

/-! ## The other threads -/

/-- A step away from the loop which says nothing outside of a session. -/
theorem Ordered.beside (ordered : kai.Ordered)
    (adds : kai.Adds (fun event => event.Talks ∧
      (event.InSession → kai.connection.mConnected = true)) next)
    (connected : next.connection.mConnected = true →
      kai.connection.mConnected = true)
    (initiated : next.connection.mConnectInitiated = true →
      kai.connection.mConnectInitiated = true)
    (point : next.loop = kai.loop)
    (closing : next.NotDisconnected → kai.NotDisconnected)
    (sends : next.closing = .send → kai.Asked) : next.Ordered := by
  apply ordered.talks adds connected
  · rintro ((up | asked) | needed | send)
    · exact .inl (.inl (connected up))
    · exact .inl (.inr (initiated asked))
    · rw [point] at needed
      exact .inr (.inl needed)
    · exact sends send
  · exact closing
  · rw [point]
    exact ordered.skipped

/-- `Close(true)` disconnects once, from what was asked for. -/
theorem Ordered.disconnect (ordered : kai.Ordered) (here : kai.closing = .send)
    (fails : Bool) :
    Ordered
      { kai.sendMessage cDisconnectString [] fails with
        closing := .connected } := by
  have lowers := kai.connection.send_lowers cDisconnectString [] fails
  have asked : ∃ event ∈ kai.events, event.Connects :=
    ordered.asked (.inr (.inr here))
  have none := ordered.undisconnected (.inr here)
  have apart : ¬ (KaiEvent.sent cDisconnectString
      kai.connection.mRemote).Connects := by
    change cDisconnectString ≠ cConnectString
    decide
  simp only [sendMessage, exchange, XLinkKaiConnection.send_transmitted_eq]
  split
  · refine ⟨ordered.skipped, fun _ => ?_, fun up => ?_,
      fun notYet => ?_, ?_⟩
    · obtain ⟨event, member, connects⟩ := asked
      exact ⟨event, List.mem_append_left _ member, connects⟩
    · refine since_concat.mpr (.inr ⟨?_, apart⟩)
      exact ordered.session (lowers.connected up)
    · rcases notYet with notYet | notYet <;> cases notYet
    · refine throughout_concat.mpr ⟨ordered.inOrder, ?_⟩
      exact
        { session := fun inSession => absurd rfl inSession.2.1
          started := False.elim
          disconnected := fun _ => ⟨asked, none⟩ }
  · apply ordered.beside
    · exact ⟨[], rfl, by simp⟩
    · exact lowers.connected
    · exact (lowers.initiated ▸ id)
    · rfl
    · exact fun _ => .inr here
    · exact fun _ => .inr (.inr here)

theorem Ordered.step {action : Action} (ordered : kai.Ordered)
    (exclusive : kai.Exclusive)
    (taken : machine.step kai action = some next) : next.Ordered := by
  cases (stepped taken).2 with
  | loop now fails => exact ordered.loopStep exclusive now fails
  | usbSendAccepts aData fails here connected =>
      apply ordered.beside
      · refine ⟨[.accepted aData], rfl, ?_⟩
        intro event member
        rw [List.mem_singleton.mp member]
        exact ⟨⟨id, id, id⟩, fun _ => connected⟩
      · exact id
      · exact id
      · rfl
      · exact id
      · exact fun send => .inr (.inr send)
  | usbSendTo aData fails here =>
      apply ordered.beside
      · apply (step_adds taken).mono
        rintro event ⟨other, ⟨there, _⟩ | ⟨_, rfl⟩⟩
        · cases here.symm.trans there
        · refine ⟨KaiEvent.data_talks other _, fun inSession => ?_⟩
          exact absurd inSession (KaiEvent.data_not_inSession other _)
      · exact id
      · exact id
      · rfl
      · exact id
      · exact fun send => .inr (.inr send)
  | closeSend fails here => exact ordered.disconnect here fails
  | closeTest fails here =>
      refine ordered.beside (adds_of_same rfl) id id rfl (fun _ => .inl here)
        fun send => ?_
      dsimp only at send
      split at send
      · next flags => exact .inl (by simpa using flags)
      · cases send
  | datagram | usbSend | usbSendRefuses =>
      exact ordered.beside (adds_of_same rfl) id id rfl id
        fun send => .inr (.inr send)
  | usbSendClosed =>
      exact ordered.beside (adds_of_same rfl) (by simp [setConnected]) id rfl
        id fun send => .inr (.inr send)
  | closeConnected =>
      exact ordered.beside (adds_of_same rfl) (by simp [setConnected]) id rfl
        (by simp [NotDisconnected]) (by simp)
  | closeInitiated =>
      exact ordered.beside (adds_of_same rfl) id (by simp [setInitiated]) rfl
        (by simp [NotDisconnected]) (by simp)
  | closeStop | closeJoin | closeSocket =>
      exact ordered.beside (adds_of_same rfl) id id rfl
        (by simp [NotDisconnected]) (by simp)

end Ordered

/-! ## Data -/

/-- What was sent, and is about to be sent, was accepted. -/
structure Counted (kai : KaiLoop) : Prop where
  room : kai.events.countP KaiEvent.isData + kai.usbSend.underWay ≤
    kai.events.countP KaiEvent.isAccepted
  accounted : Throughout KaiEvent.Accounted kai.events

section Counted

variable {kai next : KaiLoop}

theorem counted_start (connection : XLinkKaiConnection) :
    (start connection).Counted := ⟨Nat.le_refl 0, throughout_nil⟩

/-- A step which neither accepts nor sends data. -/
theorem Counted.quiet (counted : kai.Counted)
    (adds : kai.Adds (fun event => event.isData = false ∧
      event.isAccepted = false) next)
    (usbSend : next.usbSend.underWay = kai.usbSend.underWay) :
    next.Counted := by
  obtain ⟨more, events, others⟩ := adds
  have noData : more.countP KaiEvent.isData = 0 := by
    rw [List.countP_eq_zero]
    intro event member
    simp [(others event member).1]
  have noneAccepted : more.countP KaiEvent.isAccepted = 0 := by
    rw [List.countP_eq_zero]
    intro event member
    simp [(others event member).2]
  constructor
  · rw [events, List.countP_append, List.countP_append, noData, noneAccepted,
      usbSend]
    exact counted.room
  · rw [events, throughout_append]
    · exact counted.accounted
    · intro event member before data
      rw [(others event member).1] at data
      cases data

theorem Counted.step {action : Action} (counted : kai.Counted)
    (taken : machine.step kai action = some next) : next.Counted := by
  cases (stepped taken).2 with
  | loop now fails =>
      apply counted.quiet
      · apply (loopStep_adds now fails).mono
        exact fun event heard => heard.1.quiet
      · rw [loopStep_usbSend]
  | usbSend aData outside =>
      refine counted.quiet (adds_of_same rfl) ?_
      rw [outside, usbSendStart]
      dsimp only
      split <;> rfl
  | usbSendAccepts aData fails here connected =>
      have room := counted.room
      rw [here] at room
      constructor
      · dsimp only
        rw [List.countP_append, List.countP_append]
        simpa [KaiEvent.isData, KaiEvent.isAccepted, SendPoint.underWay]
          using room
      · refine throughout_concat.mpr ⟨counted.accounted, ?_⟩
        intro data
        cases data
  | usbSendTo aData fails here =>
      have room := counted.room
      rw [here] at room
      simp only [SendPoint.underWay] at room
      dsimp only [sendTo, exchange]
      split
      · constructor
        · dsimp only [Option.toList_some, List.map_cons, List.map_nil]
          rw [List.countP_append, List.countP_append]
          simpa [KaiEvent.isData_data, KaiEvent.isAccepted,
            SendPoint.underWay] using room
        · exact throughout_concat.mpr ⟨counted.accounted, fun _ => room⟩
      · constructor
        · simp only [Option.toList_none, List.map_nil, List.append_nil]
          exact Nat.le_of_succ_le room
        · simp only [Option.toList_none, List.map_nil, List.append_nil]
          exact counted.accounted
  | usbSendRefuses aData fails here unconnected =>
      refine counted.quiet (adds_of_same rfl) ?_
      rw [here]
      rfl
  | usbSendClosed fails here =>
      refine counted.quiet (adds_of_same rfl) ?_
      rw [here]
      rfl
  | closeSend fails here =>
      refine counted.quiet ?_ rfl
      apply (step_adds taken).mono
      rintro event ⟨_, rfl⟩
      exact (LoopPoint.Says.disconnects kai.connection.mRemote).quiet
  | _ => exact counted.quiet (adds_of_same rfl) rfl

end Counted

/-! ## Runs -/

section Runs

variable {connection : XLinkKaiConnection} {actions : List Action}
  {finish : KaiLoop}

theorem ordered_of_run
    (reached : machine.run (start connection) actions = some finish) :
    finish.Ordered := by
  have kept := machine.run_invariant
    (fun kai => kai.Exclusive ∧ kai.Ordered) ?_
    ⟨exclusive_of_clear rfl rfl, ordered_start connection⟩ reached
  · exact kept.2
  · rintro kai action next ⟨exclusive, ordered⟩ taken
    exact ⟨exclusive.step taken, ordered.step exclusive taken⟩

theorem counted_of_run
    (reached : machine.run (start connection) actions = some finish) :
    finish.Counted :=
  machine.run_invariant Counted
    (fun _ _ _ counted taken => counted.step taken)
    (counted_start connection) reached

/-- XLink Kai confirms what it was asked for, is told something only in a
session it confirmed since, and is disconnected from once.  Data is accepted
only in such a session, and what is sent of it was accepted. -/
theorem conversation_inOrder
    (reached : machine.run (start connection) actions = some finish) :
    Throughout KaiEvent.InOrder finish.events ∧
      Throughout KaiEvent.Accounted finish.events :=
  ⟨(ordered_of_run reached).inOrder, (counted_of_run reached).accounted⟩

/-- A session in which data is sent, and which ends with a disconnect. -/
def dataSent : List Action :=
  connecting ++ confirmed ++ .usbSend [7] ::
    List.replicate 2 (.usbSending false) ++ .loop 0 false ::
    List.replicate 5 (.close false) ++ List.replicate 5 (.loop 0 false) ++
    List.replicate 2 (.close false)

theorem conversation_inOrder_closed :
    ∃ finish,
      machine.run (start {}) dataSent = some finish ∧
        finish.transmitted = [cConnectString, cSettingDDSOnlyString,
          cEthernetDataString ++ [7], cDisconnectString] ∧
        Throughout KaiEvent.InOrder finish.events ∧
        Throughout KaiEvent.Accounted finish.events := by
  have runs : (machine.run (start {}) dataSent).any
      (fun finish => decide (finish.transmitted = [cConnectString,
        cSettingDDSOnlyString, cEthernetDataString ++ [7],
        cDisconnectString])) = true := by
    decide +kernel
  obtain ⟨finish, reached, sent⟩ := (Option.any_eq_true _ _).mp runs
  exact ⟨finish, reached, of_decide_eq_true sent,
    conversation_inOrder reached⟩

end Runs

end KaiLoop

end CWUSB
