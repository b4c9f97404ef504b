import CWUSB.KaiPayloads
import CWUSB.KaiSteps
import CWUSB.ProgramSteps
import CWUSB.SendOrder
import CWUSB.WireFormat

/-!
# From the datagrams to the frames

The way of the data from XLink Kai to the PSP, through all threads of the
program: the receiver thread hands the payload of a datagram to the send
thread, which cuts it into frames, and the reader writes them.  Payloads are
lost when no send thread exists, when its queue is full, and when the queues
are cleared, and a frame is lost when its write fails.  They are never mixed
up, repeated or made up.
-/

namespace CWUSB

/-- The frames of a payload with their stitch flags: the size stands in the
sub-header of the first one. -/
def pspFrames (payload : List UInt8) : List (List UInt8 × Bool) :=
  if payload.isEmpty then []
  else
    framesCarrying
      (asyncCommandBytes cAsyncUserChannel ++
        asyncSubHeaderBytes cSendMode payload.length cSendRef)
      (asyncCommandBytes cAsyncUserChannel)
      (Stitching.cutFirst 488 504 payload)

/-- The bytes of a frame which are given to `USBBulkWrite`, and its stitch
flag. -/
def BinaryStitchUSBPacket.onWire (packet : BinaryStitchUSBPacket) :
    List UInt8 × Bool :=
  (packet.bytes, packet.stitch)

theorem fragments_onWire {payload : List UInt8}
    (fits : payload.length ≤ cMaxAsynchronousBuffer) :
    (USBSendThread.fragments (USBSendThread.packetOf payload)).map
        BinaryStitchUSBPacket.onWire = pspFrames payload := by
  have length := packetOf_length fits
  unfold pspFrames
  cases payload with
  | nil =>
      have finished : (USBSendThread.packetOf []).length.toNat ≤ 0 :=
        Nat.le_of_eq length
      rw [USBSendThread.fragments,
        fragmentsFrom_of_ge cSendMode cSendRef finished]
      rfl
  | cons byte payload =>
      have nonempty : 0 < (USBSendThread.packetOf
          (byte :: payload)).length.toNat := by
        rw [length]
        exact Nat.succ_pos _
      have frames := fragmentsFrom_zero cSendMode cSendRef
        (packetOf_wellFormed fits) nonempty
      rw [length, packetOf_bytes fits] at frames
      exact frames

theorem framesOf_onWire {payloads : List (List UInt8)}
    (fits : ∀ payload ∈ payloads,
      payload.length ≤ cMaxAsynchronousBuffer) :
    (framesOf payloads).map BinaryStitchUSBPacket.onWire =
      payloads.flatMap pspFrames := by
  induction payloads with
  | nil => rfl
  | cons payload payloads induction =>
      rw [framesOf, List.flatMap_cons, List.map_append,
        fragments_onWire (fits payload (by simp)), List.flatMap_cons,
        ← framesOf, induction fun other member =>
          fits other (List.mem_cons_of_mem _ member)]

namespace KaiLoop

/-- The record of what was handed over grows by what the step hands over. -/
theorem handed_step {kai next : KaiLoop} {action : Action}
    (taken : machine.step kai action = some next) :
    next.handed = kai.handed ++ Program.handedOver kai next := by
  obtain ⟨more, events, _⟩ := step_adds taken
  rw [handed_append events, Program.handedOver, events, List.drop_left]

end KaiLoop

namespace Program

/-- The datagrams which arrive. -/
def Action.datagrams : Action → List (List UInt8)
  | .kai action => action.datagrams
  | .main _ | .usb _ => []

/-- The queues of the send thread are not cleared. -/
def KeepsFrames (program : Program) : Action → Prop
  | .main _ => program.main ≠ .stopSendThread
  | .kai _ => True
  | .usb action => program.usb.KeepsQueues action

instance (program : Program) :
    (action : Action) → Decidable (program.KeepsFrames action)
  | .main _ => inferInstanceAs (Decidable (_ ≠ _))
  | .kai _ => inferInstanceAs (Decidable True)
  | .usb action => inferInstanceAs (Decidable (program.usb.KeepsQueues action))

/-! ## What the steps do to the frames -/

section Step

variable {program next : Program}

theorem send_outgoing (program : Program) (aData : List UInt8) :
    ∃ accepted : List (List UInt8), accepted.Sublist [aData] ∧
      (program.send aData).usb.outgoing =
        program.usb.outgoing ++ framesOf accepted := by
  unfold send
  cases program.mUSBSendThread with
  | false =>
      refine ⟨[], List.nil_sublist _, ?_⟩
      rw [framesOf_nil, List.append_nil]
      rfl
  | true => exact program.usb.outgoing_addToQueue aData

theorem foldl_outgoing (program : Program) (handed : List (List UInt8)) :
    ∃ accepted : List (List UInt8), accepted.Sublist handed ∧
      (handed.foldl send program).usb.outgoing =
        program.usb.outgoing ++ framesOf accepted := by
  induction handed generalizing program with
  | nil =>
      refine ⟨[], List.Sublist.refl _, ?_⟩
      rw [framesOf_nil, List.append_nil]
      rfl
  | cons aData handed induction =>
      obtain ⟨first, amongFirst, outgoingFirst⟩ := program.send_outgoing aData
      obtain ⟨rest, amongRest, outgoingRest⟩ := induction (program.send aData)
      refine ⟨first ++ rest, amongFirst.append amongRest, ?_⟩
      rw [List.foldl_cons, outgoingRest, outgoingFirst, framesOf_append,
        List.append_assoc]

theorem mainStep_handed {fails : Bool}
    (moves : program.MainStepped fails next) :
    next.kai.handed = program.kai.handed := by
  cases moves with
  | closeKai kai here started taken =>
      obtain ⟨more, events, kinds⟩ := KaiLoop.step_adds taken
      have none : more.filterMap forwardedData = [] := by
        apply List.filterMap_eq_nil_iff.mpr
        intro event member
        rw [(kinds event member).2]
        rfl
      rw [KaiLoop.handed_append events, none, List.append_nil]
  | closeUnstarted here unstarted => exact KaiLoop.handed_exchange _ _
  | _ => rfl

/-- `main` leaves the frames alone, unless it clears the queues. -/
theorem mainStep_outgoing {fails : Bool}
    (kept : program.main ≠ .stopSendThread)
    (moves : program.MainStepped fails next) :
    next.usb.outgoing = program.usb.outgoing := by
  cases moves with
  | requestStop usb here taken =>
      have keeps : program.usb.KeepsQueues .requestStop := trivial
      obtain ⟨accepted, among, outgoing⟩ :=
        ReaderLoop.outgoing_step keeps taken
      rw [outgoing, List.sublist_nil.mp among, framesOf_nil, List.append_nil]
  | closeDevice here unstarted =>
      apply ReaderLoop.outgoing_silent
      refine ⟨rfl, ?_, rfl⟩
      simp [ReaderLoop.attempted, ReaderLoop.record, ReaderLoop.setReader,
        List.filterMap_map, Function.comp_def, ReaderLoop.attemptedFrame]
  | stopSendThread here started => exact absurd here kept
  | _ => rfl

theorem mainStep_outgoing_sublist {fails : Bool}
    (moves : program.MainStepped fails next) :
    next.usb.outgoing.Sublist program.usb.outgoing := by
  by_cases keeps : program.main = .stopSendThread
  · cases moves with
    | stopSendThread here started =>
        exact (List.Sublist.refl _).append
          (USBSendThread.frames_clearQueues program.usb.sendThread)
    | noSendThread here unstarted => exact List.Sublist.refl _
    | requestStop usb here taken => simp [keeps] at here
    | closeKai kai here started taken => simp [keeps] at here
    | _ here => simp [keeps] at here
  · rw [mainStep_outgoing keeps moves]

/-- No thread of the USB side brings in payloads of its own. -/
theorem offered_of_usbRuns {action : ReaderLoop.Action}
    (runs : program.usbRuns action = true) : action.offered = [] := by
  cases action with
  | addToQueue aData => cases runs
  | reader answers => rfl
  | sendThread => rfl
  | receiveThread => rfl
  | requestStop => rfl

/-! ## Whole runs -/

/-- The data on its way from XLink Kai to the PSP. -/
structure Tunnels (datagrams : List (List UInt8)) (program : Program) :
    Prop where
  first : program.KaiFirst
  delivers : program.kai.Delivers datagrams
  among : program.usb.outgoing.Sublist (framesOf program.kai.handed)

theorem tunnels_start {connection : XLinkKaiConnection}
    (connected : connection.mConnected = false)
    (initiated : connection.mConnectInitiated = false) (reader : USBReader)
    (mMaxBufferedMessages : Int) :
    (start connection reader mMaxBufferedMessages).Tunnels [] where
  first := kaiFirst_start connected initiated reader mMaxBufferedMessages
  delivers := ⟨trivial, List.Sublist.refl _⟩
  among := List.Sublist.refl _

theorem mainStep_delivers {datagrams : List (List UInt8)} {fails : Bool}
    (first : program.KaiFirst) (delivers : program.kai.Delivers datagrams)
    (moves : program.MainStepped fails next) :
    next.kai.Delivers datagrams := by
  cases moves with
  | startKai here isOpen =>
      refine delivers.keeps ?_ ?_ delivers.cut
      · rfl
      · -- The receive which is started has not completed.
        have carried : KaiLoop.carried
            { program.kai with
              receives := program.kai.receives ++ [.pending] } =
              program.kai.carried := by
          unfold KaiLoop.carried
          simp only [List.flatMap_append, List.flatMap_singleton,
            KaiLoop.completedData, List.append_nil]
          rfl
        rw [carried]
  | closeKai kai here started taken =>
      have closes :=
        delivers.step (first.consistent started).chained taken
      rwa [KaiLoop.Action.datagrams, List.append_nil] at closes
  | closeUnstarted here unstarted =>
      have waiting := first.waiting unstarted
      have data : (program.kai.connection.close fails).connection.mData =
          program.kai.connection.mData := by
        simp [XLinkKaiConnection.close, waiting.connected, waiting.initiated]
      exact delivers.stays (KaiLoop.handed_exchange _ _) rfl rfl data
  | _ => exact delivers

theorem Tunnels.step {datagrams : List (List UInt8)} {action : Action}
    (tunnels : program.Tunnels datagrams)
    (taken : machine.step program action = some next) :
    next.Tunnels (datagrams ++ action.datagrams) := by
  refine ⟨tunnels.first.step taken, ?_, ?_⟩
  · cases stepped taken with
    | main fails _ moves =>
        rw [Action.datagrams, List.append_nil]
        exact mainStep_delivers tunnels.first tunnels.delivers moves
    | kai action kai runs moves =>
        have started := tunnels.first.started runs
        rw [(foldl_sendsOnly _ _).kai]
        exact tunnels.delivers.step
          (tunnels.first.consistent started).chained moves
    | usb action usb runs moves =>
        rw [Action.datagrams, List.append_nil]
        exact tunnels.delivers
  · cases stepped taken with
    | main fails _ moves =>
        rw [mainStep_handed moves]
        exact (mainStep_outgoing_sublist moves).trans tunnels.among
    | kai action kai runs moves =>
        obtain ⟨accepted, among, outgoing⟩ := foldl_outgoing
          { program with kai := kai } (handedOver program.kai kai)
        rw [outgoing, (foldl_sendsOnly _ _).kai, KaiLoop.handed_step moves,
          framesOf_append]
        exact tunnels.among.append (framesOf_sublist among)
    | usb action usb runs moves =>
        have outgoing := ReaderLoop.outgoing_step_sublist moves
        rw [offered_of_usbRuns runs, framesOf_nil, List.append_nil] at outgoing
        exact outgoing.trans tunnels.among

/-- What is given to `USBBulkWrite` are frames of payloads which arrived. -/
theorem Tunnels.attempted {datagrams : List (List UInt8)}
    (tunnels : program.Tunnels datagrams)
    (fits : ∀ payload ∈ payloads datagrams,
      payload.length ≤ cMaxAsynchronousBuffer) :
    (program.usb.attempted.map BinaryStitchUSBPacket.onWire).Sublist
      ((payloads datagrams).flatMap pspFrames) := by
  have handed : program.kai.handed.Sublist (payloads datagrams) :=
    (List.sublist_append_left _ _).trans tunnels.delivers.among
  have first : program.usb.attempted.Sublist program.usb.outgoing := by
    rw [ReaderLoop.outgoing, List.append_assoc]
    exact List.sublist_append_left _ _
  rw [← framesOf_onWire fits]
  apply List.Sublist.map
  exact (first.trans tunnels.among).trans (framesOf_sublist handed)

/-- As long as the queues are not cleared the frames are all those of the
payloads which the send thread took. -/
def TakesWhole (program : Program) : Prop :=
  ∃ accepted : List (List UInt8), accepted.Sublist program.kai.handed ∧
    program.usb.outgoing = framesOf accepted

theorem TakesWhole.step {action : Action} (takes : program.TakesWhole)
    (keeps : program.KeepsFrames action)
    (taken : machine.step program action = some next) : next.TakesWhole := by
  obtain ⟨accepted, among, frames⟩ := takes
  cases stepped taken with
  | main fails _ moves =>
      refine ⟨accepted, ?_, ?_⟩
      · rwa [mainStep_handed moves]
      · rw [mainStep_outgoing keeps moves, frames]
  | kai action kai runs moves =>
      obtain ⟨more, amongMore, outgoing⟩ := foldl_outgoing
        { program with kai := kai } (handedOver program.kai kai)
      refine ⟨accepted ++ more, ?_, ?_⟩
      · rw [(foldl_sendsOnly _ _).kai, KaiLoop.handed_step moves]
        exact among.append amongMore
      · rw [outgoing, frames, framesOf_append]
  | usb action usb runs moves =>
      obtain ⟨more, amongMore, outgoing⟩ :=
        ReaderLoop.outgoing_step keeps moves
      rw [offered_of_usbRuns runs, List.sublist_nil] at amongMore
      refine ⟨accepted, among, ?_⟩
      rw [outgoing, frames, amongMore, framesOf_nil, List.append_nil]

end Step

theorem tunnels_of_run {connection : XLinkKaiConnection} {reader : USBReader}
    {mMaxBufferedMessages : Int} {actions : List Action} {finish : Program}
    (connected : connection.mConnected = false)
    (initiated : connection.mConnectInitiated = false)
    (reached : machine.run (start connection reader mMaxBufferedMessages)
      actions = some finish) :
    finish.Tunnels (actions.flatMap Action.datagrams) := by
  apply machine.run_traced
    (fun past program => program.Tunnels (past.flatMap Action.datagrams)) ?_
    (tunnels_start connected initiated reader mMaxBufferedMessages)
    (LabelledMachine.guarded_of_labels (fun _ _ _ => trivial) _) reached
  intro past program action next tunnels _ taken
  rw [List.flatMap_append, List.flatMap_singleton]
  exact tunnels.step taken

/-- What the program writes to the PSP, and what it tries to write, is at any
time a selection of the frames of the payloads which arrived, in their order.
While the queues are not cleared, what it tries to write is a beginning of the
frames of some of the payloads, each of which is taken whole, and what it
writes is that too unless a write fails. -/
theorem written_among_payloads {connection : XLinkKaiConnection}
    {reader : USBReader} {mMaxBufferedMessages : Int} {actions : List Action}
    {finish : Program} (connected : connection.mConnected = false)
    (initiated : connection.mConnectInitiated = false)
    (fits : ∀ payload ∈ payloads (actions.flatMap Action.datagrams),
      payload.length ≤ cMaxAsynchronousBuffer)
    (reached : machine.run (start connection reader mMaxBufferedMessages)
      actions = some finish) :
    (finish.usb.written.map BinaryStitchUSBPacket.onWire).Sublist
        ((payloads (actions.flatMap Action.datagrams)).flatMap pspFrames) ∧
      (finish.usb.attempted.map BinaryStitchUSBPacket.onWire).Sublist
        ((payloads (actions.flatMap Action.datagrams)).flatMap pspFrames) ∧
      (machine.Guarded KeepsFrames
          (start connection reader mMaxBufferedMessages) actions →
        ∃ accepted : List (List UInt8),
          accepted.Sublist (payloads (actions.flatMap Action.datagrams)) ∧
          finish.usb.attempted.map BinaryStitchUSBPacket.onWire <+:
            accepted.flatMap pspFrames ∧
          (finish.usb.lost = [] →
            finish.usb.written.map BinaryStitchUSBPacket.onWire <+:
              accepted.flatMap pspFrames)) := by
  have tunnels := tunnels_of_run connected initiated reached
  have attempted := tunnels.attempted fits
  refine ⟨(finish.usb.written_sublist.map _).trans attempted, attempted, ?_⟩
  intro keeps
  have takes := machine.guarded_invariant TakesWhole
    (fun _ _ _ takes keeps taken => takes.step keeps taken)
    ⟨[], List.Sublist.refl _, rfl⟩ keeps reached
  obtain ⟨accepted, among, frames⟩ := takes
  have arrived := (among.trans (List.sublist_append_left _ _)).trans
    tunnels.delivers.among
  have beginning : finish.usb.attempted.map BinaryStitchUSBPacket.onWire <+:
      accepted.flatMap pspFrames := by
    rw [← framesOf_onWire fun payload member =>
      fits payload (arrived.subset member), ← frames, ReaderLoop.outgoing,
      List.append_assoc]
    exact (List.prefix_append _ _).map _
  refine ⟨accepted, arrived, beginning, ?_⟩
  intro noneLost
  have written : finish.usb.written = finish.usb.attempted :=
    ReaderLoop.written_of_noneLost noneLost
  rwa [written]

/-- The program runs, a byte of data arrives, and the reader writes its
frame. -/
def dataWritten : List Action :=
  mainSteps 5 ++ dataArrives ++ List.replicate 3 (.usb .sendThread) ++
    List.replicate 8 (.usb (.reader {}))

theorem written_among_payloads_byte :
    ∃ finish,
      machine.run (start opened ReaderLoop.openedReader 50) dataWritten =
          some finish ∧
        ((finish.usb.written.map BinaryStitchUSBPacket.onWire).Sublist
            ((payloads (dataWritten.flatMap Action.datagrams)).flatMap
              pspFrames) ∧
          (finish.usb.attempted.map BinaryStitchUSBPacket.onWire).Sublist
            ((payloads (dataWritten.flatMap Action.datagrams)).flatMap
              pspFrames) ∧
          (machine.Guarded KeepsFrames
              (start opened ReaderLoop.openedReader 50) dataWritten →
            ∃ accepted : List (List UInt8),
              accepted.Sublist
                (payloads (dataWritten.flatMap Action.datagrams)) ∧
              finish.usb.attempted.map BinaryStitchUSBPacket.onWire <+:
                accepted.flatMap pspFrames ∧
              (finish.usb.lost = [] →
                finish.usb.written.map BinaryStitchUSBPacket.onWire <+:
                  accepted.flatMap pspFrames))) ∧
        finish.usb.written.length = 1 := by
  have writes : (machine.run (start opened ReaderLoop.openedReader 50)
      dataWritten).any (fun program =>
        decide (program.usb.written.length = 1)) = true := by
    decide +kernel
  obtain ⟨finish, reached, outcome⟩ := (Option.any_eq_true _ _).mp writes
  exact ⟨finish, reached,
    written_among_payloads rfl rfl (by decide +kernel) reached,
    of_decide_eq_true outcome⟩

end Program

end CWUSB
