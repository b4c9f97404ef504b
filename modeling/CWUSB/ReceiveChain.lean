import CWUSB.KaiSession

/-!
# The chain of receives

The next `async_receive_from` is started by the completion handler of the last
one, if the socket is open then.  The socket is closed only while both flags
are clear, and the loop polls only while one of them is set, so the handler
always finds it open: at every poll exactly one receive is outstanding.
-/

namespace CWUSB

/-- Where the receiver thread relies on an open socket. -/
def LoopPoint.NeedsSocket (point : LoopPoint) : Prop :=
  point.Handling ∨ point = .connectInitiated ∨ point = .connectTimeoutTest ∨
    point = .keepAliveTimeoutTest ∨ point = .settingsTest ∨ point = .poll

/-- The receive whose handler runs is not outstanding any more. -/
def LoopPoint.beingHandled : LoopPoint → Nat
  | .callback _ | .confirmInitiated _ _ | .confirmConnected _ _
  | .dispatch _ _ | .receiveAgain => 1
  | _ => 0

theorem LoopPoint.Handling.beingHandled {point : LoopPoint}
    (handling : point.Handling) : point.beingHandled = 1 := by
  cases point <;> first | rfl | exact handling.elim

namespace KaiLoop

/-- A step of the main thread in `Close(true)`. -/
def Action.isClose : Action → Bool
  | .close _ => true
  | .loop _ _ | .datagram _ _ | .usbSend _ | .usbSending _ => false

/-! ## The socket of a session -/

/-- While the receiver thread runs, a set flag means an open socket. -/
structure Held (kai : KaiLoop) : Prop where
  joined : kai.closing = .socket ∨ kai.closing = .closed →
    kai.loop = .finished
  session : kai.loop ≠ .finished →
    kai.connection.mConnected = true ∨
      kai.connection.mConnectInitiated = true →
        kai.connection.mSocketOpen = true
  needed : kai.loop.NeedsSocket → kai.connection.mSocketOpen = true

section Held

variable {kai next : KaiLoop}

/-- The loop does not take part in closing. -/
theorem loopStep_closing (now : Int) (fails : Bool) :
    (kai.loopStep now fails).closing = kai.closing := by
  unfold loopStep
  cases here : kai.loop with
  | poll =>
      dsimp only
      split
      · rfl
      · split
        · rfl
        · split <;> rfl
  | callback aBytesReceived =>
      exact (kai.callbackHead_others aBytesReceived now).2.2
  | dispatch lCommand lData =>
      exact (kai.callbackBody_others lCommand lData fails).2.2
  | _ => rfl

/-- The loop closes and opens the socket in one place each. -/
theorem loopStep_socket (now : Int) (fails : Bool)
    (notClosing : kai.loop ≠ .closeSocket) (notOpening : kai.loop ≠ .reopen) :
    (kai.loopStep now fails).connection.mSocketOpen =
      kai.connection.mSocketOpen := by
  unfold loopStep
  cases here : kai.loop with
  | closeSocket => exact absurd here notClosing
  | reopen => exact absurd here notOpening
  | closeSend | connect | sendSettings =>
      exact (kai.connection.send_lowers _ _ fails).socket
  | poll =>
      dsimp only
      split
      · rfl
      · split
        · rfl
        · split <;> rfl
  | callback aBytesReceived =>
      exact (kai.callbackHead_session aBytesReceived now).2.2
  | dispatch lCommand lData =>
      exact (kai.callbackBody_lowers lCommand lData fails).socket
  | _ => rfl

/-- The loop sets flags only where it relies on the socket. -/
theorem loopStep_flags (now : Int) (fails : Bool)
    (unneeded : ¬ kai.loop.NeedsSocket) :
    ((kai.loopStep now fails).connection.mConnected = true →
        kai.connection.mConnected = true) ∧
      ((kai.loopStep now fails).connection.mConnectInitiated = true →
        kai.connection.mConnectInitiated = true) := by
  unfold loopStep
  cases here : kai.loop with
  | closeSend | connect | sendSettings =>
      have lowers := kai.connection.send_lowers
      exact ⟨(lowers _ _ fails).connected, (lowers _ _ fails).initiated ▸ id⟩
  | closeConnected | connectTimeoutConnected | keepAliveTimeoutConnected =>
      exact ⟨by simp [setConnected, goTo], id⟩
  | closeInitiated | connectTimeoutInitiated | keepAliveTimeoutInitiated =>
      exact ⟨id, by simp [setInitiated, goTo]⟩
  | reopen =>
      dsimp only [XLinkKaiConnection.openSocket]
      split <;> exact ⟨id, id⟩
  | restart | condition | reconnectTest | closeTest | closeSocket
  | connectTimeoutSettings | keepAliveTimeoutSettings | settingsSent
  | finished | threw => exact ⟨id, id⟩
  | _ => simp [here, LoopPoint.NeedsSocket, LoopPoint.Handling] at unneeded

/-- The loop comes to rely on the socket behind a test which found a flag set,
or behind a `Connect` that worked. -/
theorem loopStep_needs (now : Int) (fails : Bool)
    (there : (kai.loopStep now fails).loop.NeedsSocket) :
    kai.loop.NeedsSocket ∨
      (kai.loop = .reconnectTest ∧ (kai.connection.mConnected = true ∨
        kai.connection.mConnectInitiated = true)) ∨
      (kai.loop = .connect ∧ kai.connection.mSocketOpen = true) := by
  unfold loopStep at there
  cases here : kai.loop with
  | reconnectTest =>
      rw [here] at there
      refine .inr (.inl ⟨rfl, ?_⟩)
      by_contra clear
      rw [not_or, Bool.not_eq_true, Bool.not_eq_true] at clear
      simp [goTo, clear, LoopPoint.NeedsSocket, LoopPoint.Handling] at there
  | connect =>
      rw [here] at there
      refine .inr (.inr ⟨rfl, ?_⟩)
      by_cases works : (kai.connection.send cConnectString [] fails).lReturn =
          true
      · exact XLinkKaiConnection.send_lReturn works
      · simp [goTo, works, LoopPoint.NeedsSocket, LoopPoint.Handling] at there
  | condition | closeTest =>
      simp only [here, goTo] at there
      split at there <;>
        simp [LoopPoint.NeedsSocket, LoopPoint.Handling] at there
  | _ =>
      simp [here, goTo, LoopPoint.NeedsSocket, LoopPoint.Handling] at there ⊢

theorem Held.loopStep (held : kai.Held) (exclusive : kai.Exclusive)
    (now : Int) (fails : Bool) : (kai.loopStep now fails).Held := by
  by_cases finished : kai.loop = .finished
  · have still : kai.loopStep now fails = kai := by
      rw [KaiLoop.loopStep, finished]
    rwa [still]
  · have socket (needed : kai.loop.NeedsSocket) :
        (kai.loopStep now fails).connection.mSocketOpen = true := by
      rw [loopStep_socket, held.needed needed]
      · intro here
        simp [here, LoopPoint.NeedsSocket, LoopPoint.Handling] at needed
      · intro here
        simp [here, LoopPoint.NeedsSocket, LoopPoint.Handling] at needed
    refine ⟨fun joined => ?_, fun _ flags => ?_, fun there => ?_⟩
    · rw [loopStep_closing] at joined
      exact absurd (held.joined joined) finished
    · by_cases needed : kai.loop.NeedsSocket
      · exact socket needed
      · obtain ⟨connected, initiated⟩ := loopStep_flags now fails needed
        have before := flags.imp connected initiated
        have notReconnecting : ¬ kai.loop.Reconnecting := by
          intro reconnecting
          have clear := exclusive.reconnecting reconnecting
          simp [clear] at before
        rw [loopStep_socket]
        · exact held.session finished before
        · intro here
          simp [here, LoopPoint.Reconnecting] at notReconnecting
        · intro here
          simp [here, LoopPoint.Reconnecting] at notReconnecting
    · rcases loopStep_needs now fails there with
        needed | ⟨here, flags⟩ | ⟨here, isOpen⟩
      · exact socket needed
      · rw [loopStep_socket now fails (by simp [here]) (by simp [here])]
        exact held.session finished flags
      · rwa [loopStep_socket now fails (by simp [here]) (by simp [here])]

/-- A change away from the receiver thread which sets no flag. -/
theorem Held.lowers (held : kai.Held)
    (lowers : kai.connection.Lowers next.connection)
    (point : next.loop = kai.loop)
    (joined : next.closing = .socket ∨ next.closing = .closed →
      kai.loop = .finished) : next.Held := by
  refine ⟨fun there => point.trans (joined there), fun running flags => ?_,
    fun there => ?_⟩
  · rw [lowers.socket]
    rw [point] at running
    exact held.session running
      (flags.imp lowers.connected (lowers.initiated ▸ id))
  · rw [lowers.socket]
    exact held.needed (point ▸ there)

theorem Held.step {action : Action} (held : kai.Held)
    (exclusive : kai.Exclusive)
    (taken : machine.step kai action = some next) : next.Held := by
  have lowers := kai.connection.send_lowers
  cases (stepped taken).2 with
  | loop now fails => exact held.loopStep exclusive now fails
  | datagram => exact held.lowers ⟨id, rfl, rfl, rfl, rfl⟩ rfl held.joined
  | usbSend | usbSendAccepts | usbSendRefuses | usbSendTo =>
      exact held.lowers (.refl kai.connection) rfl held.joined
  | usbSendClosed =>
      exact held.lowers ⟨by simp [setConnected], rfl, rfl, rfl, rfl⟩ rfl
        held.joined
  | closeTest =>
      refine held.lowers (.refl kai.connection) rfl fun joined => ?_
      dsimp only at joined
      split at joined <;> simp at joined
  | closeSend fails here =>
      exact held.lowers (lowers cDisconnectString [] fails) rfl (by simp)
  | closeConnected =>
      exact held.lowers ⟨by simp [setConnected], rfl, rfl, rfl, rfl⟩ rfl
        (by simp)
  | closeInitiated =>
      refine ⟨by simp, fun running flags => ?_, held.needed⟩
      simp only [setInitiated, Bool.false_eq_true, or_false] at flags
      exact held.session running (.inl flags)
  | closeStop => exact held.lowers (.refl kai.connection) rfl (by simp)
  | closeJoin fails here finished =>
      exact held.lowers (.refl kai.connection) rfl fun _ => finished
  | closeSocket fails here =>
      have finished := held.joined (.inl here)
      exact
        { joined := fun _ => finished
          session := fun running => absurd finished running
          needed := by
            simp [shutSocket, finished, LoopPoint.NeedsSocket,
              LoopPoint.Handling] }

end Held

/-! ## One receive -/

/-- The receives which are pending, completed or being handled. -/
def receiveCount (kai : KaiLoop) : Nat :=
  kai.receives.length + kai.loop.beingHandled

/-- Unless the handler threw, there is one receive to go on with. -/
def Chained (kai : KaiLoop) : Prop :=
  kai.loop = .threw ∨ kai.receiveCount = 1

theorem takeCompleted_length {receives rest : List Receive}
    {aBytesReceived : Nat}
    (taken : takeCompleted receives = some (aBytesReceived, rest)) :
    receives.length = rest.length + 1 := by
  induction receives generalizing rest with
  | nil => cases taken
  | cons receive receives induction =>
      cases receive with
      | completed earlier =>
          cases taken
          rfl
      | pending =>
          simp only [takeCompleted, Option.map_eq_some_iff, Prod.mk.injEq]
            at taken
          obtain ⟨⟨_, later⟩, taken, rfl, rfl⟩ := taken
          simp [induction taken]

theorem complete_length {receives later : List Receive}
    {aBytesReceived : Nat}
    (completed : complete aBytesReceived receives = some later) :
    later.length = receives.length := by
  induction receives generalizing later with
  | nil => cases completed
  | cons receive receives induction =>
      cases receive with
      | pending =>
          cases completed
          rfl
      | completed earlier =>
          simp only [complete, Option.map_eq_some_iff] at completed
          obtain ⟨_, completed, rfl⟩ := completed
          simp [induction completed]

theorem shutSocket_length (kai : KaiLoop) :
    kai.shutSocket.receives.length = kai.receives.length := by
  unfold shutSocket
  dsimp only
  split
  · exact List.length_map _
  · rfl

section Chained

variable {kai next : KaiLoop}

/-- A step which neither takes nor starts a receive. -/
theorem Chained.keeps (chained : kai.Chained)
    (returning : kai.loop ≠ .threw)
    (receives : next.receives.length = kai.receives.length)
    (handled : next.loop.beingHandled = kai.loop.beingHandled) :
    next.Chained := by
  refine .inr ?_
  rcases chained with threw | one
  · exact absurd threw returning
  · rwa [receiveCount, receives, handled]

/-- At a poll the one receive is outstanding. -/
theorem Chained.poll (chained : kai.Chained) (here : kai.loop = .poll) :
    kai.receives.length = 1 := by
  simpa [Chained, receiveCount, here, LoopPoint.beingHandled] using chained

theorem Chained.loopStep (chained : kai.Chained) (held : kai.Held)
    (now : Int) (fails : Bool) : (kai.loopStep now fails).Chained := by
  unfold KaiLoop.loopStep
  cases here : kai.loop with
  | finished | threw => exact chained
  | poll =>
      have one := chained.poll here
      dsimp only
      split
      · exact chained.keeps (by simp [here]) rfl (by rw [here]; rfl)
      · split
        · exact chained.keeps (by simp [here]) rfl (by rw [here]; rfl)
        · split
          · exact chained.keeps (by simp [here]) rfl (by rw [here]; rfl)
          · next aBytesReceived receives taken =>
              rw [takeCompleted_length taken] at one
              exact .inr one
  | callback aBytesReceived =>
      rcases kai.callbackHead_loop aBytesReceived now with
        threw | ⟨handling, _⟩
      · exact .inl threw
      · refine chained.keeps (by simp [here]) ?_ ?_
        · rw [(kai.callbackHead_others aBytesReceived now).2.1]
        · rw [here, handling.beingHandled]
          rfl
  | dispatch lCommand lData =>
      rcases kai.callbackBody_loop lCommand lData fails with threw | again
      · exact .inl threw
      · refine chained.keeps (by simp [here]) ?_ (by rw [again, here]; rfl)
        rw [(kai.callbackBody_others lCommand lData fails).2.1]
  | receiveAgain =>
      have isOpen : kai.connection.mSocketOpen = true :=
        held.needed (.inl (by rw [here]; trivial))
      simpa [Chained, receiveCount, here, isOpen, LoopPoint.beingHandled]
        using chained
  | closeSocket =>
      exact chained.keeps (by simp [here]) kai.shutSocket_length
        (by rw [here]; rfl)
  | condition | reconnectTest | closeTest | connectTimeoutTest
  | keepAliveTimeoutTest | settingsTest | connect =>
      refine chained.keeps (by simp [here]) rfl ?_
      rw [here]
      dsimp only [goTo]
      split <;> rfl
  | _ => exact chained.keeps (by simp [here]) rfl (by rw [here]; rfl)

/-- The other threads complete receives, and neither take nor start one. -/
theorem Chained.step {action : Action} (chained : kai.Chained)
    (held : kai.Held) (taken : machine.step kai action = some next) :
    next.Chained := by
  obtain ⟨returning, taken⟩ := stepped taken
  cases taken with
  | loop now fails => exact chained.loopStep held now fails
  | datagram bytes sender receives fits completed =>
      exact chained.keeps returning (complete_length completed) rfl
  | closeSocket => exact chained.keeps returning kai.shutSocket_length rfl
  | _ => exact chained.keeps returning rfl rfl

end Chained

/-! ## Runs -/

section Runs

variable {connection : XLinkKaiConnection} {actions : List Action}
  {kai next finish : KaiLoop}

/-- What holds between the steps of every run. -/
structure Consistent (kai : KaiLoop) : Prop where
  exclusive : kai.Exclusive
  held : kai.Held
  chained : kai.Chained

theorem Consistent.step {action : Action} (consistent : kai.Consistent)
    (taken : machine.step kai action = some next) : next.Consistent where
  exclusive := consistent.exclusive.step taken
  held := consistent.held.step consistent.exclusive taken
  chained := consistent.chained.step consistent.held taken

theorem consistent_start (connection : XLinkKaiConnection) :
    (start connection).Consistent where
  exclusive := exclusive_of_clear rfl rfl
  held := ⟨by simp [start], fun _ _ => rfl, fun _ => rfl⟩
  chained := .inr rfl

theorem consistent_of_run
    (reached : machine.run (start connection) actions = some finish) :
    finish.Consistent :=
  machine.run_invariant Consistent
    (fun _ _ _ consistent taken => consistent.step taken)
    (consistent_start connection) reached

/-- Nobody stopped the service, and the receiver thread goes on. -/
def Running (kai : KaiLoop) : Prop :=
  kai.stopped = false ∧ kai.loop ≠ .finished

/-- The thread would stop by itself at a poll without work. -/
theorem Running.loopStep (running : kai.Running) (chained : kai.Chained)
    (now : Int) (fails : Bool) : (kai.loopStep now fails).Running := by
  obtain ⟨going, unfinished⟩ := running
  unfold KaiLoop.loopStep
  cases here : kai.loop with
  | finished => exact absurd here unfinished
  | poll =>
      have one := chained.poll here
      have work : kai.receives.isEmpty = false := by
        cases receives : kai.receives with
        | nil => simp [receives] at one
        | cons receive rest => rfl
      dsimp only
      rw [going, work, if_neg (by simp), if_neg (by simp)]
      split
      · exact ⟨going, by simp [goTo]⟩
      · exact ⟨rfl, by simp⟩
  | callback aBytesReceived =>
      refine ⟨(kai.callbackHead_others aBytesReceived now).1.trans going, ?_⟩
      intro finished
      rcases kai.callbackHead_loop aBytesReceived now with threw | ⟨there, _⟩
      · cases threw.symm.trans finished
      · rw [finished] at there
        exact there
  | dispatch lCommand lData =>
      refine ⟨(kai.callbackBody_others lCommand lData fails).1.trans going,
        ?_⟩
      intro finished
      rcases kai.callbackBody_loop lCommand lData fails with threw | again
      · cases threw.symm.trans finished
      · cases again.symm.trans finished
  | condition =>
      dsimp only
      rw [going]
      exact ⟨going, by simp [goTo]⟩
  | reconnectTest | closeTest | connectTimeoutTest | keepAliveTimeoutTest
  | settingsTest | connect =>
      refine ⟨going, ?_⟩
      dsimp only [goTo]
      split <;> simp
  | restart => exact ⟨rfl, by simp⟩
  | threw => exact ⟨going, unfinished⟩
  | _ => exact ⟨going, by simp [goTo]⟩

theorem Running.step {action : Action} (running : kai.Running)
    (chained : kai.Chained) (notClosing : ¬ action.isClose)
    (taken : machine.step kai action = some next) : next.Running := by
  cases (stepped taken).2 with
  | loop now fails => exact running.loopStep chained now fails
  | datagram | usbSend | usbSendAccepts | usbSendRefuses | usbSendTo
  | usbSendClosed => exact running
  | closeTest | closeSend | closeConnected | closeInitiated | closeStop
  | closeJoin | closeSocket => exact absurd rfl notClosing

/-- Until `Close(true)` exactly one receive is outstanding at every poll, and
the service and the receiver thread do not stop by themselves. -/
theorem one_receive_outstanding
    (notClosing : ∀ action ∈ actions, ¬ action.isClose)
    (reached : machine.run (start connection) actions = some finish) :
    finish.Running ∧ (finish.loop = .poll → finish.receives.length = 1) := by
  have kept := machine.guarded_invariant
    (fun kai => kai.Consistent ∧ kai.Running) ?_
    ⟨consistent_start connection, rfl, by simp [start]⟩
    (LabelledMachine.guarded_of_labels
      (fun action member _ => notClosing action member) _) reached
  · exact ⟨kept.2, kept.1.chained.poll⟩
  · rintro kai action next ⟨consistent, running⟩ outside taken
    exact ⟨consistent.step taken,
      running.step consistent.chained outside taken⟩

/-- The socket cannot be opened at first, and then it can. -/
def reopening : List Action :=
  List.replicate 7 (.loop 0 true) ++ List.replicate 12 (.loop 0 false)

theorem one_receive_outstanding_reopening :
    ∃ finish,
      machine.run (start {}) reopening = some finish ∧
        finish.loop = .poll ∧ finish.Running ∧
        (finish.loop = .poll → finish.receives.length = 1) := by
  have runs : (machine.run (start {}) reopening).any
      (fun finish => decide (finish.loop = .poll)) = true := by
    decide +kernel
  obtain ⟨finish, reached, polls⟩ := (Option.any_eq_true _ _).mp runs
  exact ⟨finish, reached, of_decide_eq_true polls,
    one_receive_outstanding (by decide) reached⟩

end Runs

end KaiLoop

end CWUSB
