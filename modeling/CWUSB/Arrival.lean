import CWUSB.Delivery
import CWUSB.KaiResponse

/-!
# From the socket to the PSP

A data datagram which arrives is held until the receiver thread of XLink Kai
comes to handle it, and its payload is handed over unless the session ends
before.  While `main` waits for the signal the send thread takes it if its
queue has room, and the reader's thread tries to write what it took.
-/

namespace CWUSB

namespace KaiLoop

open Program (handedOver)

section Handing

variable {first kai next : KaiLoop} {action : Action} {bytes : List UInt8}

/-- What was handed over since an earlier state. -/
theorem handedOver_step (earlier : first.events <+: kai.events)
    (taken : machine.step kai action = some next) :
    first.events <+: next.events ∧
      handedOver first next = handedOver first kai ++ handedOver kai next := by
  obtain ⟨past, before⟩ := earlier
  obtain ⟨more, added, _⟩ := step_adds taken
  refine ⟨⟨past ++ more, by rw [← List.append_assoc, before, added]⟩, ?_⟩
  unfold handedOver
  rw [added, List.drop_left, ← before, List.append_assoc, List.drop_left,
    List.drop_left, List.filterMap_append]

theorem handedOver_of_answered {mEthernetData : List UInt8}
    (answered : kai.Answered first.events.length
      (.ethernetData mEthernetData)) : handedOver first kai ≠ [] := by
  rcases answered with nothing | ⟨event, member, shows⟩
  · cases nothing
  · intro none
    cases event with
    | forwarded aData =>
        have silent := List.filterMap_eq_nil_iff.mp none _ member
        cases silent
    | sent | accepted | sessionStarted => exact shows.elim

/-- Only the handler of a message hands anything over. -/
theorem handedOver_elsewhere
    (elsewhere : action.isLoop = true →
      ∀ lCommand lData, kai.loop ≠ .dispatch lCommand lData)
    (taken : machine.step kai action = some next) :
    handedOver kai next = [] := by
  obtain ⟨more, added, kinds⟩ := step_adds taken
  unfold handedOver
  rw [added, List.drop_left]
  apply List.filterMap_eq_nil_iff.mpr
  intro event member
  have kind := kinds event member
  cases event with
  | sent | accepted | sessionStarted => rfl
  | forwarded aData =>
      exfalso
      cases action with
      | loop now fails =>
          obtain ⟨heard, _⟩ := kind
          generalize kai.loop = point at heard elsewhere
          cases heard
          exact elsewhere rfl _ _ rfl
      | usbSending fails =>
          obtain ⟨other, ⟨_, accepts, _⟩ | ⟨_, sends⟩⟩ := kind
          · cases accepts
          · cases sends
      | close fails => cases kind.2
      | datagram bytes sender => exact kind
      | usbSend aData => exact kind

/-- The handler hands over the payload of its message, or nothing. -/
theorem handedOver_callbackBody {lCommand lData : List UInt8}
    (cut : AsCut lCommand lData) (fails : Bool) :
    handedOver kai (kai.callbackBody lCommand lData fails) = [] ∨
      handedOver kai (kai.callbackBody lCommand lData fails) =
        (payloadOf lData).toList := by
  have silent (point : LoopPoint) : handedOver kai (kai.goTo point) = [] := by
    unfold handedOver goTo
    rw [List.drop_length]
    rfl
  unfold callbackBody
  split
  · split
    · exact .inl (silent .threw)
    · next received returns =>
        have given : handedOver kai
            { kai.exchange received.connection received.transmitted with
              events :=
                (kai.exchange received.connection
                  received.transmitted).events ++
                    received.forwarded.toList.map .forwarded
              loop := .receiveAgain } = received.forwarded.toList := by
          unfold handedOver exchange
          dsimp only
          rw [List.append_assoc, List.drop_left, List.filterMap_append]
          cases received.transmitted <;> cases received.forwarded <;> rfl
        rw [given]
        rcases XLinkKaiConnection.dispatch_forwarded cut returns with
          nothing | payload
        · rw [nothing]
          exact .inl rfl
        · rw [payload]
          exact .inr rfl
  · exact .inl (silent .receiveAgain)

/-- What is handed over while a message is held is its payload. -/
theorem Holds.handedOver (holds : kai.Holds bytes) (chained : kai.Chained)
    (taken : machine.step kai action = some next) :
    Program.handedOver kai next = [] ∨
      (Program.handedOver kai next = (payloadOf bytes).toList ∧
        action.isLoop = true) := by
  cases action with
  | loop now fails =>
      cases holds with
      | dispatch here =>
          cases (stepped taken).2
          rw [loopStep, here]
          exact (handedOver_callbackBody (.inl rfl) fails).imp id
            fun payload => ⟨payload, rfl⟩
      | callback here data =>
          left
          apply handedOver_elsewhere _ taken
          simp [here]
      | completed received data =>
          left
          apply handedOver_elsewhere _ taken
          intro _ lCommand lData here
          have nothing := chained.handling (by rw [here]; trivial)
          cases received.symm.trans nothing
  | _ => exact .inl (handedOver_elsewhere (by simp [Action.isLoop]) taken)

end Handing

end KaiLoop

/-- With room in the queue the payload is taken. -/
theorem USBSendThread.frames_addToQueue_of_hasRoom {thread : USBSendThread}
    (room : thread.hasRoom = true) (aData : List UInt8) :
    (thread.addToQueue aData).thread.frames =
      thread.frames ++ framesOf [aData] := by
  unfold addToQueue
  rw [if_pos room, framesOf, List.flatMap_singleton]
  exact StagedQueue.content_accept fragments thread.staged (packetOf aData)

namespace Program

open XLinkKaiConnection (reactionTo)

/-! ## The receiver thread of XLink Kai -/

/-- Until `main` closes the connection its thread goes on, with the USB side
set as its incoming connection. -/
structure Receptive (program : Program) : Prop where
  first : program.KaiFirst
  running : program.main.beforeClose = true → program.kai.Running
  incoming : program.kai.connection.mIncomingConnection = true

section Receptive

variable {program next : Program}

theorem close_incoming (connection : XLinkKaiConnection) (fails : Bool) :
    (connection.close fails).connection.mIncomingConnection =
      connection.mIncomingConnection := by
  unfold XLinkKaiConnection.close
  split
  · exact connection.send_incoming cDisconnectString [] fails
  · rfl

theorem Receptive.mainStep {fails : Bool} (receptive : program.Receptive)
    (moves : program.MainStepped fails next) : next.Receptive := by
  refine ⟨receptive.first.mainStep moves, ?_, ?_⟩
  · have running := receptive.running
    cases moves with
    | startFails here =>
        refine fun _ => running ?_
        rcases here with here | here <;> rw [here] <;> rfl
    | closeKai kai here started taken =>
        dsimp only
        split <;> simp [MainPoint.beforeClose]
    | closeUnstarted here unstarted => simp [MainPoint.beforeClose]
    | requestStop usb here taken => exact fun _ => running (by rw [here]; rfl)
    | _ here => exact fun _ => running (by rw [here]; rfl)
  · have incoming := receptive.incoming
    cases moves with
    | closeKai kai here started taken =>
        exact (KaiLoop.step_incoming taken).trans incoming
    | closeUnstarted here unstarted =>
        exact (close_incoming _ fails).trans incoming
    | _ => exact incoming

theorem Receptive.step {action : Action} (receptive : program.Receptive)
    (taken : machine.step program action = some next) : next.Receptive := by
  refine ⟨receptive.first.step taken, ?_, ?_⟩
  · cases stepped taken with
    | main fails _ moves => exact (receptive.mainStep moves).running
    | usb action usb runs moves => exact receptive.running
    | kai action kai runs moves =>
        have same := foldl_sendsOnly { program with kai := kai }
          (handedOver program.kai kai)
        have started := receptive.first.started runs
        have consistent := receptive.first.consistent started
        rw [same.main, same.kai]
        intro before
        apply (receptive.running before).step consistent.chained _ moves
        intro closes
        cases action with
        | close fails => cases runs
        | _ => cases closes
  · cases stepped taken with
    | main fails _ moves => exact (receptive.mainStep moves).incoming
    | usb action usb runs moves => exact receptive.incoming
    | kai action kai runs moves =>
        rw [(foldl_sendsOnly { program with kai := kai } _).kai]
        exact (KaiLoop.step_incoming moves).trans receptive.incoming

theorem Receptive.bridge {action : ThreadAction}
    (receptive : program.Receptive)
    (taken : bridge.step program action = some next) : next.Receptive :=
  machine.run_invariant Receptive
    (fun _ _ _ receptive taken => receptive.step taken) receptive
    (bridgeStep_run taken)

end Receptive

/-! ## While `main` waits for the signal -/

/-- What a step does on XLink Kai's side. -/
inductive KaiPart (program : Program) (action : ThreadAction)
    (next : Program) : Prop where
  | still (kai : next.kai = program.kai) (other : action.thread ≠ .kai)
  | moves (kaiAction : KaiLoop.Action) (runs : kaiAction.isClose = false)
      (taken : KaiLoop.machine.step program.kai kaiAction = some next.kai)
      (loop : kaiAction.isLoop = true ↔ action.thread = .kai)

section KaiPart

variable {program next : Program}

theorem kai_moves {action : KaiLoop.Action}
    (taken : machine.step program (.kai action) = some next) :
    KaiLoop.machine.step program.kai action = some next.kai := by
  obtain ⟨kai, _, moves, same⟩ := kai_parts taken
  rw [moves, same.kai]

theorem kaiPart {action : ThreadAction} (running : program.main = .running)
    (taken : bridge.step program action = some next) :
    program.KaiPart action next := by
  have run := bridgeStep_run taken
  cases action with
  | main fails =>
      obtain rfl := main_leaves running taken
      exact .still rfl nofun
  | kaiLoop now fails =>
      exact .moves (.loop now fails) rfl (kai_moves (run_singleton.mp run))
        (iff_of_true rfl rfl)
  | datagram bytes sender =>
      exact .moves (.datagram bytes sender) rfl
        (kai_moves (run_singleton.mp run)) (iff_of_false nofun nofun)
  | sending fails =>
      exact .moves (.usbSending fails) rfl (kai_moves (run_singleton.mp run))
        (iff_of_false nofun nofun)
  | reader answers =>
      obtain ⟨usb, _, _, rfl⟩ := usb_parts (run_singleton.mp run)
      exact .still rfl nofun
  | sendThread =>
      obtain ⟨usb, _, _, rfl⟩ := usb_parts (run_singleton.mp run)
      exact .still rfl nofun
  | receiveThread =>
      obtain ⟨middle, receives, sends⟩ :=
        LabelledMachine.run_cons_eq_some.mp run
      obtain ⟨usb, _, _, rfl⟩ := usb_parts receives
      cases sent : program.usb.receiveThread.step.sent with
      | none =>
          rw [sent] at sends
          cases sends
          exact .still rfl nofun
      | some payload =>
          rw [sent] at sends
          have moves := kai_moves (run_singleton.mp sends)
          exact .moves (.usbSend payload) rfl moves
            (iff_of_false nofun nofun)

end KaiPart

/-! ## A message on its way -/

/-- A payload arrived in a state of the receiver loop, and was not handed over
yet. -/
structure Arrived (first : KaiLoop) (payload : List UInt8)
    (program : Program) : Prop where
  manned : program.Manned
  receptive : program.Receptive
  answering : program.kai.Answering first.events.length
    (cEthernetDataString ++ payload) true
  earlier : first.events <+: program.kai.events
  nothing : handedOver first program.kai = []

section Arrived

variable {program next : Program} {first : KaiLoop} {payload : List UInt8}

theorem Arrived.step {action : ThreadAction}
    (arrived : program.Arrived first payload)
    (going : ¬ program.Interrupted)
    (connected : program.kai.connection.mConnected = true)
    (taken : bridge.step program action = some next) :
    (action.thread = .kai ∧ handedOver first next.kai = [payload]) ∨
      (next.Arrived first payload ∧
        next.kai.stepsToAnswer ≤ program.kai.stepsToAnswer ∧
        (action.thread = .kai →
          next.kai.stepsToAnswer < program.kai.stepsToAnswer)) := by
  obtain ⟨manned, receptive, answering, earlier, nothing⟩ := arrived
  have mannedNext := manned.bridge taken
  have receptiveNext := receptive.bridge taken
  cases kaiPart (running_of_uninterrupted going) taken with
  | still kai other =>
      refine .inr ⟨⟨mannedNext, receptiveNext, ?_, ?_, ?_⟩, ?_, ?_⟩
      · rwa [kai]
      · rwa [kai]
      · rwa [kai]
      · rw [kai]
      · exact fun ours => absurd ours other
  | moves kaiAction runs moves loop =>
      have chained := answering.consistent.chained
      have holds := answering.holds fun givenUp => givenUp.elim
        (fun ended => by cases connected.symm.trans ended)
        (KaiLoop.stepped moves).1
      obtain ⟨earlierNext, handed⟩ := KaiLoop.handedOver_step earlier moves
      rw [nothing, List.nil_append] at handed
      rcases holds.handedOver chained moves with none | ⟨hands, isLoop⟩
      · right
        rw [none] at handed
        have reacts : reactionTo true (cEthernetDataString ++ payload) =
            .ethernetData payload := by
          rw [XLinkKaiConnection.reactionTo_ethernetData
            (List.prefix_append _ _), List.drop_left]
        have lasts : program.kai.Answerable (reactionTo true
            (cEthernetDataString ++ payload)) kaiAction := by
          rw [reacts]
          cases kaiAction with
          | close fails => cases runs
          | loop now fails => exact fun _ keepsAlive => nomatch keepsAlive
          | _ => trivial
        have unanswered : ¬ next.kai.Answered first.events.length
            (reactionTo true (cEthernetDataString ++ payload)) := by
          rw [reacts]
          exact fun answered =>
            KaiLoop.handedOver_of_answered answered handed
        obtain ⟨kept, notMore, less⟩ :=
          answering.nearer ⟨connected, lasts⟩ moves unanswered
        exact ⟨⟨mannedNext, receptiveNext, kept, earlierNext, handed⟩, notMore,
          fun ours => less (loop.mpr ours)⟩
      · left
        rw [handed, hands, payloadOf_data]
        exact ⟨loop.mp isLoop, rfl⟩

end Arrived

/-- What is handed over while the send thread has room is taken. -/
theorem send_outgoing_of_hasRoom {program : Program}
    (created : program.mUSBSendThread = true)
    (room : program.usb.sendThread.hasRoom = true) (aData : List UInt8) :
    (program.send aData).usb.outgoing =
      program.usb.outgoing ++ framesOf [aData] := by
  have frames :=
    USBSendThread.frames_addToQueue_of_hasRoom room aData
  unfold send
  dsimp only
  rw [if_pos created]
  unfold ReaderLoop.outgoing
  dsimp only
  rw [frames, ← List.append_assoc]
  rfl

theorem arrived_datagram {program next : Program} {payload : List UInt8}
    {sender : Endpoint} (manned : program.Manned)
    (receptive : program.Receptive) (running : program.main = .running)
    (taken : bridge.step program
      (.datagram (cEthernetDataString ++ payload) sender) = some next) :
    next.Arrived program.kai payload := by
  have step := run_singleton.mp (bridgeStep_run taken)
  have moves := kai_moves step
  obtain ⟨_, runs, _⟩ := kai_parts step
  have started := receptive.first.started runs
  have goes := receptive.running (by rw [running]; rfl)
  have silent : next.kai.events = program.kai.events := by
    generalize next.kai = kai at moves
    cases (KaiLoop.stepped moves).2 with
    | datagram => rfl
  have answering := KaiLoop.answering_datagram
    (receptive.first.consistent started) goes moves
  rw [silent, receptive.incoming] at answering
  refine ⟨manned.bridge taken, receptive.bridge taken, answering, ?_, ?_⟩
  · rw [silent]
  · unfold handedOver
    rw [silent, List.drop_length]
    rfl

section Handing

variable {execution : bridge.Execution} {since : Nat} {first : KaiLoop}
  {payload : List UInt8}

theorem kai_enabled_running {program : Program} (manned : program.Manned)
    (receptive : program.Receptive) (going : ¬ program.Interrupted) :
    bridge.Enabled ThreadAction.thread .kai program := by
  have returning : program.kai.loop ≠ .threw :=
    fun threw => going (.inr (.inl threw))
  have created := manned.receiver
    (.inr (.inr (running_of_uninterrupted going)))
  have runs : program.kaiRuns (.loop 0 false) = true :=
    receptive.first.receiver created
  have goes : program.kai.step (.loop 0 false) =
      some (program.kai.loopStep 0 false) := by
    simp [KaiLoop.step, returning]
  obtain ⟨next, taken⟩ := kai_enabled returning runs goes
  exact ⟨.kaiLoop 0 false, next, rfl, bridge_single rfl rfl taken⟩

/-- The step of the receiver thread which hands the payload over. -/
def HandsAt (execution : bridge.Execution) (first : KaiLoop)
    (payload : List UInt8) (moment : Nat) : Prop :=
  ∃ action, execution.label moment = some action ∧ action.thread = .kai ∧
    handedOver first (execution.state (moment + 1)).kai = [payload]

/-- The payload is handed over, unless the session or the program ends before
that. -/
theorem comes_to_hand (fair : execution.Fair ThreadAction.thread .kai)
    (arrived : (execution.state since).Arrived first payload) :
    ∃ moment, since ≤ moment ∧ (execution.state moment).Arrived first payload ∧
      ((execution.state moment).Interrupted ∨
        (execution.state moment).kai.connection.mConnected = false ∨
          HandsAt execution first payload moment) := by
  by_contra never
  have lasts (moment : Nat) (behind : since ≤ moment)
      (still : (execution.state moment).Arrived first payload) :
      ¬ (execution.state moment).Interrupted ∧
        (execution.state moment).kai.connection.mConnected = true ∧
          ¬ HandsAt execution first payload moment := by
    refine ⟨fun ends => ?_, ?_, fun hands => ?_⟩
    · exact never ⟨moment, behind, still, .inl ends⟩
    · cases connected : (execution.state moment).kai.connection.mConnected with
      | true => rfl
      | false =>
          exact absurd ⟨moment, behind, still, .inr (.inl connected)⟩ never
    · exact never ⟨moment, behind, still, .inr (.inr hands)⟩
  -- Then it stays on its way for ever.
  have kept (delay : Nat) :
      (execution.state (since + delay)).Arrived first payload := by
    induction delay with
    | zero => exact arrived
    | succ delay induction =>
        obtain ⟨going, connected, unhanded⟩ :=
          lasts (since + delay) (Nat.le_add_right _ _) induction
        rw [← Nat.add_assoc]
        cases step : execution.label (since + delay) with
        | none =>
            rw [execution.idle _ step]
            exact induction
        | some action =>
            rcases induction.step going connected
              (execution.taken _ action step) with ⟨ours, hands⟩ | ⟨still, _⟩
            · exact absurd ⟨action, step, ours, hands⟩ unhanded
            · exact still
  obtain ⟨later, behind, interrupted | ended | hands⟩ :=
    LabelledMachine.Execution.reaches_of_fair ThreadAction.thread
      (fun program : Program => program.kai.stepsToAnswer)
      (fun program => program.Arrived first payload)
      (fun program => program.Interrupted ∨
        program.kai.connection.mConnected = false ∨
          handedOver first program.kai = [payload])
      (fun _ => .kai)
      (fun program arrived going => kai_enabled_running arrived.manned
        arrived.receptive (not_or.mp going).1)
      (fun program action next arrived going _ taken => by
        obtain ⟨going, unhanded⟩ := not_or.mp going
        have connected : program.kai.connection.mConnected = true := by
          simpa using (not_or.mp unhanded).1
        rcases arrived.step going connected taken with
          ⟨_, hands⟩ | ⟨still, notMore, less⟩
        · exact .inl (.inr (.inr hands))
        · right
          refine ⟨still, ?_⟩
          by_cases ours : action.thread = .kai
          · exact .inl (less ours)
          · rcases Nat.lt_or_eq_of_le notMore with fewer | same
            · exact .inl fewer
            · exact .inr ⟨same, rfl, ours⟩)
      (fun _ _ => fair) (execution.guardedFrom_true since) arrived
  all_goals
    obtain ⟨delay, rfl⟩ := Nat.exists_eq_add_of_le behind
    obtain ⟨going, connected, _⟩ := lasts _ behind (kept delay)
  · exact going interrupted
  · cases connected.symm.trans ended
  · cases (kept delay).nothing.symm.trans hands

/-- The send thread takes what is handed over, if its queue has room. -/
theorem HandsAt.outgoing {moment : Nat}
    (hands : HandsAt execution first payload moment)
    (arrived : (execution.state moment).Arrived first payload)
    (going : ¬ (execution.state moment).Interrupted)
    (room : (execution.state moment).usb.sendThread.hasRoom = true) :
    (execution.state (moment + 1)).usb.outgoing =
      (execution.state moment).usb.outgoing ++ framesOf [payload] := by
  obtain ⟨action, step, ours, hands⟩ := hands
  have created := arrived.manned.sender
    (.inr (running_of_uninterrupted going))
  have taken := execution.taken _ action step
  generalize execution.state (moment + 1) = next at taken hands
  generalize execution.state moment = program at *
  cases action with
  | kaiLoop now fails =>
      have moves := kai_moves (run_singleton.mp (bridgeStep_run taken))
      have handed := (KaiLoop.handedOver_step arrived.earlier moves).2
      rw [hands, arrived.nothing, List.nil_append] at handed
      cases stepped (run_singleton.mp (bridgeStep_run taken)) with
      | kai _ kai runs goes =>
          rw [(foldl_sendsOnly { program with kai := kai } _).kai] at handed
          change [payload] = handedOver program.kai kai at handed
          rw [← handed, List.foldl_cons, List.foldl_nil]
          exact send_outgoing_of_hasRoom created room payload
  | _ => cases ours

end Handing

section Opened

variable {execution : bridge.Execution} {since : Nat}
  {settings : OpenSettings} {reader : USBReader}
  {tries : List OpenAnswers} {opening : Opening}
  {mMaxBufferedMessages : Int} {payload : List UInt8} {sender : Endpoint}

theorem receptive_always (closed : reader.mDeviceHandle = none)
    (unrequested : reader.mStopRequest = false)
    (opens : (Opening.machine settings).run (Opening.start reader) tries =
      some opening)
    (starts : execution.state 0 = opening.program mMaxBufferedMessages)
    (moment : Nat) : (execution.state moment).Receptive := by
  have opened := Opening.opened_of_run closed unrequested opens
  apply LabelledMachine.Execution.holds_always Receptive
    (fun program action next receptive _ taken => receptive.bridge taken)
    (execution.guardedFrom_true 0)
  have connected := opened.kai.connected
  have initiated := opened.kai.initiated
  rw [starts]
  refine ⟨kaiFirst_start ?_ ?_ _ _, fun _ => ⟨rfl, nofun⟩, rfl⟩
  · exact connected
  · exact initiated

end Opened

end Program

end CWUSB
