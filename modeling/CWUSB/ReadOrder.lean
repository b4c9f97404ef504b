import CWUSB.Reassembly
import CWUSB.StitchState

/-!
# A stream of messages in the reader's loop

The receive path was followed through calls which only read.  In the loop a
read may be left out, fail, or bring a frame which is for nobody, and the other
threads do their work in between.  Until the first reset none of it matters:
what is handed to XLink Kai is the stream of messages the frames were made of.
-/

namespace CWUSB

namespace USBReader

variable {reader next : USBReader}

theorem SameStitching.tracks (same : reader.SameStitching next) :
    ∀ current, reader.Tracks current → next.Tracks current := by
  rintro (_ | rest) tracks
  · exact same.stitching.trans tracks
  · obtain ⟨stitching, done, counted, declared, small⟩ := tracks
    exact ⟨same.stitching.trans stitching, done, same.counted.trans counted,
      same.declared.trans declared, small⟩

/-- No packet is queued for a frame which is not for the user channel. -/
theorem callbackFrame_other {bytes : List UInt8}
    (fits : bytes.length ≤ cMaxUSBPacketSize)
    (other : ¬ FramedMessage.IsAsynchronous bytes) :
    (reader.callbackFrame bytes).queued = none := by
  have total := reader.received_length fits
  by_cases message : (reader.received bytes).IsForAsynchronous
  · have ⟨long, magic⟩ := message
    rw [total] at long
    have longer : 12 ≤ bytes.length := long
    have otherChannel : ¬ wordAt
        (reader.received bytes).mTemporaryReceiveBuffer 4 =
          cAsyncUserChannel := by
      rw [wordAt_frame (by omega) fits] at magic ⊢
      exact fun channel => other ⟨long, magic, channel⟩
    rw [callbackFrame, receiveCallback_asynchronous message,
      handleAsynchronous, if_neg otherChannel]
  · obtain ⟨mError, helloSent, handled⟩ := receiveCallback_other message
    rw [callbackFrame, handled]

end USBReader

namespace ReceivePath

section Follow

variable {whole : WireSender} {read : List (List UInt8)}
  {path next : ReceivePath}

/-- Following a stream is about the stitch state, the receive thread and what
it sent. -/
theorem Follows.same (follows : Follows whole read path)
    (thread : next.thread = path.thread) (sent : next.sent = path.sent)
    (tracks : ∀ current, path.reader.Tracks current →
      next.reader.Tracks current) : Follows whole read next := by
  intro ahead
  obtain ⟨sender, pieces, progress⟩ := follows ahead
  have reassembles := progress.reassembles
  refine ⟨sender, pieces,
    { progress with
      tracks := tracks _ progress.tracks
      reassembles := ?_ }⟩
  constructor
  · rw [thread]
    exact reassembles.wellFormed
  · rw [thread]
    exact reassembles.held
  · rw [thread, sent]
    exact reassembles.messages

theorem Follows.receiveThread (follows : Follows whole read path)
    (taken : path.step .receiveThread = some next) :
    Follows whole read next := by
  intro ahead
  obtain ⟨sender, pieces, progress⟩ := follows ahead
  exact ⟨sender, pieces, progress.receiveThread taken⟩

/-- A frame given to `ReceiveCallback` follows the stream, and any other frame
than one for the user channel changes nothing. -/
theorem Follows.callbackFrame {bytes : List UInt8}
    (follows : Follows whole
      (read.filter fun frame => FramedMessage.IsAsynchronous frame) path)
    (fits : bytes.length ≤ cMaxUSBPacketSize)
    (room : path.thread.hasRoom = true) :
    Follows whole
      ((read ++ [bytes]).filter fun frame =>
        FramedMessage.IsAsynchronous frame)
      (path.deliver (path.reader.callbackFrame bytes)) := by
  by_cases asynchronous : FramedMessage.IsAsynchronous bytes
  · have split : (read ++ [bytes]).filter
        (fun frame => decide (FramedMessage.IsAsynchronous frame)) =
          read.filter
            (fun frame => decide (FramedMessage.IsAsynchronous frame)) ++
              [bytes] := by
      simp [List.filter_append, asynchronous]
    rw [split]
    intro ahead
    obtain ⟨sender, pieces, progress⟩ :=
      follows ((List.prefix_append _ _).trans ahead)
    have handled := path.reader.callbackFrame_of_magic asynchronous.1 fits
      asynchronous.2.1
    refine progress.deliver ahead room ?_ ?_
    · rw [handled]
    · rw [handled]
      intro current tracks
      cases current <;> exact tracks
  · have skip : (read ++ [bytes]).filter
        (fun frame => decide (FramedMessage.IsAsynchronous frame)) =
          read.filter
            (fun frame => decide (FramedMessage.IsAsynchronous frame)) := by
      simp [List.filter_append, asynchronous]
    rw [skip]
    apply follows.same
    · exact path.deliver_thread_none
        (USBReader.callbackFrame_other fits asynchronous)
    · rfl
    · exact (USBReader.callbackFrame_sameStitching fits asynchronous).tracks

/-- What was sent is a beginning of the messages, and all of them once the
stream was read to its end and the thread has nothing left to do. -/
theorem Follows.sent {messages : List (List UInt8)}
    (follows : Follows (WireSender.ofMessages messages) read path)
    (sendable : WireSender.Sendable messages)
    (frames : read <+: messages.flatMap wireFrames) :
    path.sent <+: messages ∧
      (read = messages.flatMap wireFrames → path.Drained →
        path.sent = messages) := by
  have assembled := WireSender.assemble_ofMessages sendable
  have whole := WireSender.frames_ofMessages sendable
  rw [← whole] at frames ⊢
  obtain ⟨sender, pieces, progress⟩ := follows frames
  constructor
  · have given : pieces <+: (WireSender.ofMessages messages).pieces :=
      ⟨sender.pieces, progress.split⟩
    have sent := progress.reassembles.sent_prefix.trans
      (Stitching.assemble_prefix given)
    rwa [assembled] at sent
  · intro complete drained
    have nothingLeft : sender.frames = [] := by
      simpa [complete] using progress.frames
    have all : pieces = (WireSender.ofMessages messages).pieces := by
      rw [← progress.split, WireSender.pieces_eq_nil nothingLeft,
        List.append_nil]
    rw [progress.reassembles.sent_eq drained, all, assembled]

end Follow

end ReceivePath

namespace ReaderLoop

/-! ## The frames of a run -/

def forwardedPayload : ReaderEvent → Option (List UInt8)
  | .forwarded payload => some payload
  | _ => none

/-- The payloads handed to `mConnection.Send`. -/
def forwarded (state : ReaderLoop) : List (List UInt8) :=
  state.events.filterMap forwardedPayload

/-- The receive path of the loop. -/
def receivePath (state : ReaderLoop) : ReceivePath :=
  { reader := state.reader
    thread := state.receiveThread
    sent := state.forwarded }

/-- The frame which a step of the reader's thread reads. -/
def frameRead (state : ReaderLoop) : Action → Option (List UInt8)
  | .reader answers =>
      if state.loop = .read ∧ state.reader.mSendStitching = false ∧
          state.reader.mDeviceHandle.isSome = true ∧
          answers.read.lError = 0 then
        some answers.read.bytes
      else none
  | .addToQueue _ | .sendThread | .receiveThread | .requestStop => none

/-- The loop with the frames read so far beside it. -/
def reading : LabelledMachine (ReaderLoop × List (List UInt8)) Action :=
  machine.withHistory fun state action frames =>
    frames ++ (state.frameRead action).toList

/-- No reset is made, and a packet of a read would find room in the queue. -/
def ReceivesOn (state : ReaderLoop) : Action → Prop
  | .reader answers =>
      state.loop ≠ .resetFlags ∧ state.loop ≠ .clearReceiveQueues ∧
        (state.loop = .read →
          answers.read.lError ≤ 0 ∧ state.receiveThread.hasRoom = true)
  | _ => True

instance (state : ReaderLoop) :
    (action : Action) → Decidable (state.ReceivesOn action)
  | .reader _ => inferInstanceAs (Decidable (_ ∧ _ ∧ (_ → _)))
  | .addToQueue _ | .sendThread | .receiveThread | .requestStop =>
      inferInstanceAs (Decidable True)

/-! ## The steps -/

section Step

variable {state next : ReaderLoop} {whole : WireSender}
  {frames : List (List UInt8)}

theorem readerStep_forwarded (answers : UsbAnswers) :
    (state.readerStep answers).forwarded = state.forwarded := by
  have none : (state.readerEvents answers).filterMap forwardedPayload = [] := by
    apply List.filterMap_eq_nil_iff.mpr
    intro event member
    have records := state.readerEvents_records answers event member
    revert records
    generalize state.loop = point
    intro records
    cases records <;> rfl
  rw [forwarded, readerStep_events, List.filterMap_append, none,
    List.append_nil]
  rfl

/-- Only reading and clearing the queues touch the receive thread. -/
theorem readerStep_receiveThread (answers : UsbAnswers)
    (noRead : state.loop ≠ .read) (noClear : state.loop ≠ .clearReceiveQueues) :
    (state.readerStep answers).receiveThread = state.receiveThread := by
  unfold readerStep
  cases here : state.loop with
  | read => exact absurd here noRead
  | clearReceiveQueues => exact absurd here noClear
  | stopTest =>
      dsimp only
      split <;> rfl
  | checkDevice =>
      dsimp only [goTo, checkDevice]
      split <;> rfl
  | errorTest =>
      dsimp only [errorTest]
      split
      · rfl
      · split <;> rfl
  | sendLoop =>
      dsimp only [sendHead]
      split <;> rfl
  | _ => rfl

theorem readerStep_keepsStitching (answers : UsbAnswers)
    (noRead : state.loop ≠ .read) (noReset : state.loop ≠ .resetFlags) :
    state.reader.SameStitching (state.readerStep answers).reader := by
  by_cases counts : state.Counts
  · rcases counts with here | here | here | ⟨lFormattedPacket, here⟩
    · exact absurd here noReset
    · rw [readerStep, here]
      exact ⟨rfl, rfl, rfl⟩
    · exact absurd here noRead
    · rw [readerStep, here]
      dsimp only [goTo, sendWrite, record, setReader]
      split <;> exact ⟨rfl, rfl, rfl⟩
  · exact
      ⟨state.readerStep_kept answers (fun _ _ _ _ _ => rfl) counts,
        state.readerStep_kept answers (fun _ _ _ _ _ => rfl) counts,
        state.readerStep_kept answers (fun _ _ _ _ _ => rfl) counts⟩

/-- A read which brings nothing leaves the receive path alone. -/
theorem read_nothing {transfer : USBReader.ReadTransfer}
    (sign : transfer.lError ≤ 0)
    (nothing : state.reader.mSendStitching = false →
      state.reader.mDeviceHandle.isSome = true → transfer.lError = 0 →
        transfer.bytes = []) :
    state.reader.SameStitching (state.read transfer).reader ∧
      (state.read transfer).receiveThread = state.receiveThread := by
  unfold read
  split
  · exact ⟨⟨rfl, rfl, rfl⟩, rfl⟩
  · next notSending =>
      have failed : (state.reader.usbBulkRead transfer).1 ≤ 0 := by
        unfold USBReader.usbBulkRead
        split
        · next opened =>
            split
            · exact sign
            · next works =>
                have empty := nothing (by simpa using notSending) opened
                  (not_not.mp works)
                simp [empty]
        · simp
      have same := USBReader.handleRead_failed
        (state.reader.usbBulkRead transfer).2 failed
      have before : state.reader.SameStitching
          (state.reader.usbBulkRead transfer).2 := by
        unfold USBReader.usbBulkRead
        split <;> exact ⟨rfl, rfl, rfl⟩
      have unqueued : ((state.reader.usbBulkRead transfer).2.handleRead
          (state.reader.usbBulkRead transfer).1).queued = none := by
        rw [USBReader.handleRead, if_neg (by omega)]
        split
        · rfl
        · split <;> rfl
      refine ⟨⟨?_, ?_, ?_⟩, ?_⟩
      · exact same.stitching.trans before.stitching
      · exact same.counted.trans before.counted
      · exact same.declared.trans before.declared
      · dsimp only [deliver, record]
        rw [unqueued]

theorem readerStep_follows {answers : UsbAnswers}
    (follows : ReceivePath.Follows whole
      (frames.filter fun frame => FramedMessage.IsAsynchronous frame)
      state.receivePath)
    (receives : state.ReceivesOn (.reader answers)) :
    ReceivePath.Follows whole
      ((frames ++ (state.frameRead (.reader answers)).toList).filter
        fun frame => FramedMessage.IsAsynchronous frame)
      (state.readerStep answers).receivePath := by
  obtain ⟨noReset, noClear, reads⟩ := receives
  have sent := state.readerStep_forwarded answers
  by_cases here : state.loop = .read
  · obtain ⟨sign, room⟩ := reads here
    have reader : (state.readerStep answers).reader =
        (state.read answers.read).reader := by
      rw [ReaderLoop.readerStep, here]
      rfl
    have thread : (state.readerStep answers).receiveThread =
        (state.read answers.read).receiveThread := by
      rw [ReaderLoop.readerStep, here]
      rfl
    by_cases brings : (state.reader.mSendStitching = false ∧
        state.reader.mDeviceHandle.isSome = true ∧
        answers.read.lError = 0) ∧ 0 < answers.read.bytes.length
    · obtain ⟨⟨notSending, opened, works⟩, nonempty⟩ := brings
      have frame : state.frameRead (.reader answers) =
          some answers.read.bytes :=
        if_pos ⟨here, notSending, opened, works⟩
      have bulkRead : ∃ next,
          state.receivePath.step (.bulkRead answers.read.bytes) = some next ∧
            next.reader = (state.read answers.read).reader ∧
            next.thread = (state.read answers.read).receiveThread :=
        read_bulkRead rfl rfl notSending opened works nonempty
      obtain ⟨next, taken, sameReader, sameThread⟩ := bulkRead
      simp only [ReceivePath.step, Option.ite_none_right_eq_some,
        Option.some.injEq] at taken
      obtain ⟨⟨_, fits⟩, rfl⟩ := taken
      rw [frame, Option.toList_some]
      apply (follows.callbackFrame fits room).same
      · exact thread.trans sameThread.symm
      · exact sent
      · intro current tracks
        rw [sameReader, ← reader] at tracks
        exact tracks
    · have nothing : state.reader.mSendStitching = false →
          state.reader.mDeviceHandle.isSome = true →
            answers.read.lError = 0 → answers.read.bytes = [] := by
        intro notSending opened works
        by_contra nonempty
        exact brings ⟨⟨notSending, opened, works⟩,
          List.length_pos_iff.mpr nonempty⟩
      obtain ⟨same, sameThread⟩ := read_nothing sign nothing
      have skipped : (frames ++
          (state.frameRead (.reader answers)).toList).filter
            (fun frame => decide (FramedMessage.IsAsynchronous frame)) =
          frames.filter
            (fun frame => decide (FramedMessage.IsAsynchronous frame)) := by
        rw [List.filter_append, frameRead]
        split
        · next all =>
            rw [nothing all.2.1 all.2.2.1 all.2.2.2, Option.toList_some]
            exact List.append_nil _
        · exact List.append_nil _
      rw [skipped]
      apply follows.same
      · exact thread.trans sameThread
      · exact sent
      · intro current tracks
        have stepped := same.tracks current tracks
        rw [← reader] at stepped
        exact stepped
  · have noFrame : state.frameRead (.reader answers) = none :=
      if_neg fun all => here all.1
    rw [noFrame, Option.toList_none, List.append_nil]
    apply follows.same
    · exact state.readerStep_receiveThread answers here noClear
    · exact sent
    · exact (state.readerStep_keepsStitching answers here noReset).tracks

/-- Until the first reset every step follows the stream. -/
theorem step_follows {action : Action}
    (follows : ReceivePath.Follows whole
      (frames.filter fun frame => FramedMessage.IsAsynchronous frame)
      state.receivePath)
    (receives : state.ReceivesOn action)
    (taken : machine.step state action = some next) :
    ReceivePath.Follows whole
      ((frames ++ (state.frameRead action).toList).filter
        fun frame => FramedMessage.IsAsynchronous frame)
      next.receivePath := by
  cases action with
  | reader answers =>
      cases taken
      exact readerStep_follows follows receives
  | receiveThread =>
      cases taken
      rw [frameRead, Option.toList_none, List.append_nil]
      have stepped : ReceivePath.Follows whole _
          { state.receivePath with
            thread := state.receiveThread.step.thread
            sent := state.forwarded ++ state.receiveThread.step.sent.toList
            copies := state.receiveThread.step.copies } :=
        follows.receiveThread rfl
      apply stepped.same
      · rfl
      · simp [receivePath, forwarded, List.filterMap_map, Function.comp_def,
          forwardedPayload]
      · exact fun _ tracks => tracks
  | addToQueue aData =>
      cases taken
      rw [frameRead, Option.toList_none, List.append_nil]
      exact follows
  | sendThread =>
      cases taken
      rw [frameRead, Option.toList_none, List.append_nil]
      exact follows
  | requestStop =>
      simp only [machine, ReaderLoop.step, Option.ite_none_right_eq_some,
        Option.some.injEq] at taken
      obtain ⟨_, rfl⟩ := taken
      rw [frameRead, Option.toList_none, List.append_nil]
      apply follows.same
      · rfl
      · rfl
      · rintro (_ | rest) tracks <;> exact tracks

theorem follows_start {reader : USBReader} {mMaxBufferedMessages : Int}
    {messages : List (List UInt8)}
    (idle : reader.mReceiveStitching = false)
    (sendable : WireSender.Sendable messages) :
    ReceivePath.Follows (WireSender.ofMessages messages) []
      (start reader mMaxBufferedMessages).receivePath := by
  have constructed : (start reader mMaxBufferedMessages).receivePath.Idle :=
    ⟨idle, rfl, rfl, rfl, rfl, rfl⟩
  intro _
  exact ⟨_, _, constructed.progress rfl (WireSender.valid_ofMessages sendable)⟩

end Step

end ReaderLoop

end CWUSB
