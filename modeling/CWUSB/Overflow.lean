import CWUSB.Reassembly

/-!
# A full receive queue

`AddToQueue` refuses packets one by one, and the reader does not look at its
answer.  Whole messages are lost exactly as long as the refusals respect the
messages: once the first fragment of a message is in, the others must find
room, and once it was refused, they must not.
-/

namespace CWUSB

namespace USBReceiveThread

/-- The packet accepted last announced that its message goes on. -/
def awaits (thread : USBReceiveThread) : Bool :=
  match thread.pending.getLast? with
  | some packet => packet.stitch
  | none => thread.mLastReceivedMessage.stitch

theorem addToQueue_awaits {thread : USBReceiveThread}
    (room : thread.hasRoom = true) (packet : BinaryStitchUSBPacket) :
    (thread.addToQueue packet).thread.awaits = packet.stitch := by
  simp [awaits, addToQueue, room, pending]

private theorem appendAndForward_stitch (thread : USBReceiveThread)
    {packet : BinaryStitchUSBPacket}
    (message : thread.mLastReceivedMessage.WellFormed)
    (wellFormed : packet.WellFormed) (filled : 0 < packet.length.toNat)
    (goesOn : packet.stitch = true →
      (Stitching.absorb cMaxAsynchronousBuffer
        thread.mLastReceivedMessage.collected packet.piece).1 ≠ []) :
    (thread.appendAndForward packet).thread.mLastReceivedMessage.stitch =
      packet.stitch := by
  have absorbed :=
    congrArg Prod.fst (thread.appendAndForward_absorb message wellFormed)
  have after := appendAndForward_wellFormed message wellFormed
    fun _ => filled
  dsimp only at absorbed
  cases stitch : packet.stitch with
  | true =>
      have held := goesOn stitch
      rw [← absorbed] at held
      by_contra reset
      apply held
      rw [after.collected_eq_nil]
      exact after.reset (by simpa using reset)
  | false =>
      have nothing : (thread.appendAndForward
          packet).thread.mLastReceivedMessage.collected = [] := by
        rw [absorbed]
        exact Stitching.absorb_of_not_more stitch
      rw [after.collected_eq_nil] at nothing
      rw [nothing]
      rfl

/-- The thread changes nothing about what it awaits, unless it drops a
message. -/
theorem step_awaits {thread : USBReceiveThread}
    (wellFormed : thread.WellFormed)
    (goesOn : thread.awaits = true → thread.outcome.1 ≠ []) :
    thread.step.thread.awaits = thread.awaits := by
  obtain ⟨mMaxBufferSize, message, mQueue, lFrontOfQueue⟩ := thread
  cases lFrontOfQueue with
  | none =>
      cases mQueue with
      | nil => rfl
      | cons packet rest => rfl
  | some packet =>
      obtain ⟨packetWellFormed, filled⟩ :=
        wellFormed.packets packet (by simp [pending])
      cases last : mQueue.getLast? with
      | some other =>
          have before : awaits ⟨mMaxBufferSize, message, mQueue,
              some packet⟩ = other.stitch := by
            simp [awaits, pending, List.getLast?_cons, last]
          simp only [step, awaits, appendAndForward_pending]
          simp only [pending, Option.toList_none, List.nil_append, last]
          exact before.symm
      | none =>
          obtain rfl : mQueue = [] := List.getLast?_eq_none_iff.mp last
          have before : awaits ⟨mMaxBufferSize, message, [],
              some packet⟩ = packet.stitch := rfl
          have kept := appendAndForward_stitch
            ⟨mMaxBufferSize, message, [], none⟩
            wellFormed.message packetWellFormed filled goesOn
          simp only [step, awaits, appendAndForward_pending]
          exact kept

end USBReceiveThread

/-! ## Losing whole messages -/

namespace ReceivePath

/-- A refusal respects the messages: a continuation frame is accepted exactly
when the fragment before it was. -/
def RespectsMessages (path : ReceivePath) : Action → Prop
  | .handleAsynchronous _ =>
      path.reader.mReceiveStitching = true →
        path.thread.hasRoom = path.thread.awaits
  | .bulkRead _ | .receiveThread | .handleError _ => True

instance (path : ReceivePath) :
    (action : Action) → Decidable (path.RespectsMessages action)
  | .handleAsynchronous _ => inferInstanceAs (Decidable (_ → _))
  | .bulkRead _ | .receiveThread | .handleError _ =>
      inferInstanceAs (Decidable True)

/-- What the receive thread made of the fragments it accepted: either whole
messages only, or also the part of the current message before its rest. -/
inductive Keeps (messages : List (List UInt8)) :
    WireSender → List UInt8 × List (List UInt8) → Bool → Prop where
  | apart {sender : WireSender} {kept : List (List UInt8)}
      (order : (kept ++ sender.messages).Sublist messages) :
      Keeps messages sender ([], kept) false
  | inside {collected rest : List UInt8} {kept later : List (List UInt8)}
      (nonempty : collected ≠ [])
      (order :
        (kept ++ (collected ++ rest) :: later).Sublist messages) :
      Keeps messages ⟨some rest, later⟩ (collected, kept) true

section Keeps

variable {messages : List (List UInt8)} {sender next : WireSender}
  {held : List UInt8 × List (List UInt8)} {awaits : Bool}
  {frame : List UInt8} {piece : Stitching.Piece UInt8}

theorem Keeps.sublist (keeps : Keeps messages sender held awaits) :
    held.2.Sublist messages := by
  cases keeps with
  | apart order => exact (List.sublist_append_left _ _).trans order
  | inside nonempty order => exact (List.sublist_append_left _ _).trans order

theorem Keeps.goesOn (keeps : Keeps messages sender held awaits)
    (awaiting : awaits = true) : held.1 ≠ [] := by
  cases keeps with
  | apart order => simp at awaiting
  | inside nonempty order => exact nonempty

/-- An accepted fragment starts a message or goes on with the one kept. -/
theorem Keeps.accept (keeps : Keeps messages sender held awaits)
    (sendable : WireSender.Sendable messages)
    (emits : sender.Emits frame piece next)
    (respects : sender.current.isSome → awaits = true) :
    Keeps messages next
      ((Stitching.absorb cMaxAsynchronousBuffer held.1 piece).1,
        held.2 ++
          (Stitching.absorb cMaxAsynchronousBuffer held.1 piece).2.toList)
      piece.more := by
  cases emits with
  | @whole message later short =>
      cases keeps with
      | @apart _ kept order =>
          have fits := (sendable message (order.subset (by simp))).2
          rw [Stitching.absorb_last (by simpa using fits)]
          exact .apart (by simpa using order)
  | @first message later long =>
      cases keeps with
      | @apart _ kept order =>
          have fits := (sendable message (order.subset (by simp))).2
          have taken : (message.take 488).length = 488 := by
            rw [List.length_take]
            omega
          rw [Stitching.absorb_more (by simp [taken])]
          refine .inside ?_ (by simpa using order)
          exact List.ne_nil_of_length_pos (by simp [taken])
  | @middle rest later long =>
      cases keeps with
      | apart order => simp at respects
      | @inside collected _ kept _ nonempty order =>
          have fits := (sendable (collected ++ rest)
            (order.subset (by simp))).2
          have taken : (rest.take 504).length = 504 := by
            rw [List.length_take]
            omega
          rw [List.length_append] at fits
          have fitsHere : collected.length + (rest.take 504).length ≤
              cMaxAsynchronousBuffer := by
            rw [taken]
            omega
          rw [Stitching.absorb_more fitsHere]
          refine .inside (by simp [nonempty]) ?_
          simpa [List.append_assoc] using order
  | @last rest later short =>
      cases keeps with
      | apart order => simp at respects
      | @inside collected _ kept _ nonempty order =>
          have fits := (sendable (collected ++ rest)
            (order.subset (by simp))).2
          rw [List.length_append] at fits
          rw [Stitching.absorb_last fits]
          exact .apart (by simpa using order)

/-- A refused fragment starts a message or goes on with a lost one. -/
theorem Keeps.refuse (keeps : Keeps messages sender held awaits)
    (emits : sender.Emits frame piece next)
    (respects : sender.current.isSome → awaits = false) :
    Keeps messages next held awaits := by
  cases keeps with
  | @apart _ kept order =>
      have fewer : (kept ++ next.messages).Sublist
          (kept ++ sender.messages) := by
        apply List.Sublist.append_left
        cases emits with
        | whole short => exact List.sublist_cons_self _ _
        | first long => exact List.sublist_cons_self _ _
        | middle long => exact List.Sublist.refl _
        | last short => exact List.Sublist.refl _
      exact .apart (fewer.trans order)
  | inside nonempty order => simp at respects

end Keeps

/-- The position in the stream, what the thread was given, and what it kept
of the messages before the position. -/
structure Loses (messages : List (List UInt8)) (read : List (List UInt8))
    (path : ReceivePath) (sender : WireSender)
    (pieces : List (Stitching.Piece UInt8)) : Prop where
  valid : sender.Valid
  frames : read ++ sender.frames = (WireSender.ofMessages messages).frames
  tracks : path.reader.Tracks sender.current
  reassembles : path.Reassembles pieces
  keeps : Keeps messages sender
    (Stitching.assemble cMaxAsynchronousBuffer [] pieces)
    path.thread.awaits

section Step

variable {messages : List (List UInt8)} {read : List (List UInt8)}
  {path next : ReceivePath} {sender : WireSender}
  {pieces : List (Stitching.Piece UInt8)}

theorem Idle.loses (idle : path.Idle)
    (sendable : WireSender.Sendable messages) :
    Loses messages [] path (WireSender.ofMessages messages) [] where
  valid := WireSender.valid_ofMessages sendable
  frames := rfl
  tracks := idle.notStitching
  reassembles := idle.reassembles
  keeps := by
    have awaits : path.thread.awaits = false := by
      simp [USBReceiveThread.awaits, USBReceiveThread.pending,
        idle.nothingQueued, idle.nothingInHand, idle.nothingReceived,
        BinaryStitchWiFiPacket.zero]
    rw [awaits]
    exact .apart (List.Sublist.refl _)

theorem Loses.receiveThread (loses : Loses messages read path sender pieces)
    (taken : path.step .receiveThread = some next) :
    Loses messages read next sender pieces where
  valid := loses.valid
  frames := loses.frames
  tracks := by
    simp only [step, Option.some.injEq] at taken
    subst next
    exact loses.tracks
  reassembles := loses.reassembles.receiveThread taken
  keeps := by
    have same := USBReceiveThread.step_awaits
      loses.reassembles.wellFormed (by
        rw [loses.reassembles.held]
        exact loses.keeps.goesOn)
    simp only [step, Option.some.injEq] at taken
    subst next
    rw [same]
    exact loses.keeps

theorem tracks_stitching {reader : USBReader} {current : Option (List UInt8)}
    (tracks : reader.Tracks current) :
    reader.mReceiveStitching = current.isSome := by
  cases current with
  | none => exact tracks
  | some rest => exact tracks.1

theorem Loses.handleAsynchronous {bytes : List UInt8}
    (sendable : WireSender.Sendable messages)
    (loses : Loses messages read path sender pieces)
    (ahead : read ++ [bytes] <+: (WireSender.ofMessages messages).frames)
    (respects : path.RespectsMessages (.handleAsynchronous bytes))
    (taken : path.step (.handleAsynchronous bytes) = some next) :
    ∃ sender pieces,
      Loses messages (read ++ [bytes]) next sender pieces := by
  simp only [step, Option.ite_none_right_eq_some, Option.some.injEq] at taken
  obtain ⟨_, rfl⟩ := taken
  obtain ⟨piece, next, emits, frames, _⟩ :=
    WireSender.emits_of_ahead loses.frames ahead
  obtain ⟨packet, queued, rfl, wellFormed, tracked⟩ :=
    USBReader.handleFrame_emits loses.tracks loses.valid emits
  have filled : 0 < packet.length.toNat := by
    rw [← wellFormed.length_bytes]
    exact emits.body_nonempty loses.valid
  have stitching := tracks_stitching loses.tracks
  have later : (read ++ [bytes]) ++ next.frames =
      (WireSender.ofMessages messages).frames := by
    simp [← loses.frames, frames]
  cases room : path.thread.hasRoom with
  | true =>
      have accepted := loses.keeps.accept sendable emits fun inMessage =>
        (respects (stitching.trans inMessage)).symm.trans room
      have assembled := Stitching.assemble_append cMaxAsynchronousBuffer
        ([] : List UInt8) pieces [packet.piece]
      refine ⟨next, pieces ++ [packet.piece],
        { valid := emits.valid loses.valid
          frames := later
          tracks := tracked
          reassembles :=
            loses.reassembles.deliver queued wellFormed filled room
          keeps := ?_ }⟩
      rw [path.deliver_thread_some queued,
        USBReceiveThread.addToQueue_awaits room, assembled,
        Stitching.assemble_cons, Stitching.assemble_nil]
      simp only [List.append_nil]
      exact accepted
  | false =>
      have refused := loses.keeps.refuse emits fun inMessage =>
        (respects (stitching.trans inMessage)).symm.trans room
      refine ⟨next, pieces,
        { valid := emits.valid loses.valid
          frames := later
          tracks := tracked
          reassembles := loses.reassembles.deliver_full queued room
          keeps := ?_ }⟩
      rw [path.deliver_thread_some queued,
        USBReceiveThread.addToQueue_full room]
      exact refused

end Step

/-- While every refusal respects the messages, the payloads sent are some of
the messages, in order. -/
theorem sent_sublist {path finish : ReceivePath} {actions : List Action}
    {messages : List (List UInt8)} (idle : path.Idle)
    (sendable : WireSender.Sendable messages)
    (only : OnlyHandleAsynchronous actions)
    (frames : framesRead actions <+: messages.flatMap wireFrames)
    (respects : machine.Guarded RespectsMessages path actions)
    (reached : machine.run path actions = some finish) :
    finish.sent.Sublist messages := by
  rw [← WireSender.frames_ofMessages sendable] at frames
  have traced := machine.run_traced
    (fun past current => OnlyHandleAsynchronous past →
      framesRead past <+: (WireSender.ofMessages messages).frames →
        ∃ sender pieces,
          Loses messages (framesRead past) current sender pieces)
    ?_ (fun _ _ => ⟨_, _, idle.loses sendable⟩) respects
    reached
  · obtain ⟨sender, pieces, loses⟩ := traced only frames
    exact loses.reassembles.sent_prefix.sublist.trans loses.keeps.sublist
  · intro past current action next earlier guard taken only ahead
    have onlyEarlier : OnlyHandleAsynchronous past := fun other member =>
      only other (List.mem_append_left _ member)
    rcases Action.handleAsynchronous_or_receiveThread
      (only action (by simp)) with ⟨bytes, rfl⟩ | rfl
    · rw [framesRead_append_handleAsynchronous] at ahead ⊢
      obtain ⟨sender, pieces, loses⟩ :=
        earlier onlyEarlier ((List.prefix_append _ _).trans ahead)
      exact loses.handleAsynchronous sendable ahead guard taken
    · rw [framesRead_append_receiveThread] at ahead ⊢
      obtain ⟨sender, pieces, loses⟩ := earlier onlyEarlier ahead
      exact ⟨sender, pieces, loses.receiveThread taken⟩

/-- With room for one packet, all of the second message is refused. -/
def wholeLossMessages : List (List UInt8) :=
  [[1], List.replicate 489 7, [3]]

def wholeLossSchedule : List Action :=
  [.handleAsynchronous (messageHeader 1 ++ [1]),
    .handleAsynchronous (messageHeader 489 ++ List.replicate 488 7),
    .handleAsynchronous (continuationHeader ++ [7]),
    .receiveThread, .receiveThread,
    .handleAsynchronous (messageHeader 1 ++ [3]),
    .receiveThread, .receiveThread]

theorem sent_sublist_wholeLoss :
    ∃ finish,
      machine.run (start 10 10 1) wholeLossSchedule = some finish ∧
        finish.sent.Sublist wholeLossMessages := by
  have runs : (machine.run (start 10 10 1) wholeLossSchedule).isSome := by
    decide +kernel
  obtain ⟨finish, reached⟩ := Option.isSome_iff_exists.mp runs
  exact ⟨finish, reached, sent_sublist (start_idle 10 10 1)
    (by decide +kernel) (by decide +kernel) (by decide +kernel)
    (by decide +kernel) reached⟩

/-- With room for one packet, the last fragment of the first message finds
the queue full and the second message does not. -/
def tornMessages : List (List UInt8) := [List.replicate 489 7, [3]]

def tornSchedule : List Action :=
  [.handleAsynchronous (messageHeader 489 ++ List.replicate 488 7),
    .handleAsynchronous (continuationHeader ++ [7]),
    .receiveThread, .receiveThread,
    .handleAsynchronous (messageHeader 1 ++ [3]),
    .receiveThread, .receiveThread]

/-- The rest of the first message is replaced by the second message. -/
theorem sent_torn :
    OnlyHandleAsynchronous tornSchedule ∧
      framesRead tornSchedule = tornMessages.flatMap wireFrames ∧
      ∃ finish,
        machine.run (start 10 10 1) tornSchedule = some finish ∧
          finish.sent = [List.replicate 488 7 ++ [3]] ∧
          ¬ finish.sent.Sublist tornMessages := by
  refine ⟨by decide +kernel, by decide +kernel, ?_⟩
  have torn : (machine.run (start 10 10 1) tornSchedule).any (fun finish =>
      decide (finish.sent = [List.replicate 488 7 ++ [3]] ∧
        ¬ finish.sent.Sublist tornMessages)) = true := by
    decide +kernel
  obtain ⟨finish, reached, outcome⟩ := (Option.any_eq_true _ _).mp torn
  exact ⟨finish, reached, of_decide_eq_true outcome⟩

end ReceivePath

end CWUSB
