import CWUSB.WireFormat

/-!
# Reassembly of streams and round trips

Following a stream of messages in the wire format through the receive path:
the frames handled so far determine a position in the stream, the reader's
stitch state tracks it, and the receive thread has been given exactly the
pieces before it.  Through `HandleAsynchronous` every stream arrives whole.
`ReceiveCallback` drops frames shorter than a HostFS header, which the last
frame of a message can be.
-/

namespace CWUSB

namespace ReceivePath

/-- An asynchronous frame for another channel than the user channel. -/
def Foreign (bytes : List UInt8) : Prop :=
  bytesWord bytes = Asynchronous ∧ cAsyncHeaderSize ≤ bytes.length ∧
    bytesWord (bytes.drop 4) ≠ cAsyncUserChannel

instance (bytes : List UInt8) : Decidable (Foreign bytes) :=
  inferInstanceAs (Decidable (_ ∧ _))

/-- The frames a schedule reads, without the foreign ones. -/
def messageFrames (actions : List Action) : List (List UInt8) :=
  (framesRead actions).filter fun bytes => ¬ Foreign bytes

/-! ## Positions in a stream -/

/-- The frames of a stream before the sender have been read, and the thread
was given their pieces. -/
structure Progress (whole : WireSender) (read : List (List UInt8))
    (path : ReceivePath) (sender : WireSender)
    (pieces : List (Stitching.Piece UInt8)) : Prop where
  valid : sender.Valid
  frames : read ++ sender.frames = whole.frames
  split : pieces ++ sender.pieces = whole.pieces
  tracks : path.reader.Tracks sender.current
  reassembles : path.Reassembles pieces

/-- As far as the frames read are those of the stream, the path has made the
progress they call for. -/
def Follows (whole : WireSender) (read : List (List UInt8))
    (path : ReceivePath) : Prop :=
  read <+: whole.frames →
    ∃ sender pieces, Progress whole read path sender pieces

theorem Idle.progress {path : ReceivePath} {whole : WireSender}
    (idle : path.Idle) (start : whole.current = none)
    (valid : whole.Valid) : Progress whole [] path whole [] where
  valid := valid
  frames := rfl
  split := rfl
  tracks := by
    rw [start]
    exact idle.notStitching
  reassembles := idle.reassembles

section Step

variable {whole sender : WireSender} {read : List (List UInt8)}
  {path next : ReceivePath} {pieces : List (Stitching.Piece UInt8)}

/-- The next frame of the stream moves the position behind it. -/
theorem Progress.deliver {frame : List UInt8} {handled : Handled}
    (progress : Progress whole read path sender pieces)
    (ahead : read ++ [frame] <+: whole.frames)
    (room : path.thread.hasRoom = true)
    (queued : handled.queued = (path.reader.handleFrame frame).queued)
    (tracks : ∀ current,
      (path.reader.handleFrame frame).reader.Tracks current →
        handled.reader.Tracks current) :
    ∃ sender pieces,
      Progress whole (read ++ [frame]) (path.deliver handled) sender
        pieces := by
  obtain ⟨piece, next, emits, frames, split⟩ := 
    WireSender.emits_of_ahead progress.frames ahead
  obtain ⟨packet, packetQueued, rfl, wellFormed, tracked⟩ :=
    USBReader.handleFrame_emits progress.tracks progress.valid emits
  have filled : 0 < packet.length.toNat := by
    rw [← wellFormed.length_bytes]
    exact emits.body_nonempty progress.valid
  refine ⟨next, pieces ++ [packet.piece],
    { valid := emits.valid progress.valid
      frames := by simp [← progress.frames, frames]
      split := by simp [← progress.split, split]
      tracks := tracks _ tracked
      reassembles := progress.reassembles.deliver
        (queued.trans packetQueued) wellFormed filled room }⟩

theorem Progress.receiveThread
    (progress : Progress whole read path sender pieces)
    (taken : path.step .receiveThread = some next) :
    Progress whole read next sender pieces where
  valid := progress.valid
  frames := progress.frames
  split := progress.split
  tracks := by
    simp only [step, Option.some.injEq] at taken
    subst next
    exact progress.tracks
  reassembles := progress.reassembles.receiveThread taken

/-- A foreign frame changes neither the position nor what was given. -/
theorem Progress.foreign {handled : Handled}
    (progress : Progress whole read path sender pieces)
    (nothing : handled.queued = none)
    (tracks : ∀ current, path.reader.Tracks current →
      handled.reader.Tracks current) :
    Progress whole read (path.deliver handled) sender pieces where
  valid := progress.valid
  frames := progress.frames
  split := progress.split
  tracks := tracks _ progress.tracks
  reassembles := progress.reassembles.deliver_nothing nothing

end Step

/-! ## Streams handed to `HandleAsynchronous` -/

theorem handleFrame_foreign (reader : USBReader) {bytes : List UInt8}
    (foreign : Foreign bytes) (fits : bytes.length ≤ cMaxUSBPacketSize) :
    reader.handleFrame bytes = { reader := reader.received bytes } := by
  obtain ⟨_, long, otherChannel⟩ := foreign
  apply USBReader.handleFrame_otherChannel
  rw [USBReader.wordAt_frame long fits]
  exact otherChannel

theorem messageFrames_append_handleAsynchronous (past : List Action)
    (bytes : List UInt8) :
    messageFrames (past ++ [.handleAsynchronous bytes]) =
      if Foreign bytes then messageFrames past
      else messageFrames past ++ [bytes] := by
  by_cases foreign : Foreign bytes
  · simp [messageFrames, framesRead, Action.frame, foreign]
  · simp [messageFrames, framesRead, Action.frame, foreign]

theorem messageFrames_append_receiveThread (past : List Action) :
    messageFrames (past ++ [.receiveThread]) = messageFrames past := by
  simp [messageFrames, framesRead, Action.frame]

theorem Follows.handleAsynchronous {whole : WireSender}
    {past : List Action} {path next : ReceivePath} {bytes : List UInt8}
    (follows : Follows whole (messageFrames past) path)
    (room : path.thread.hasRoom = true)
    (taken : path.step (.handleAsynchronous bytes) = some next) :
    Follows whole (messageFrames (past ++ [.handleAsynchronous bytes]))
      next := by
  intro ahead
  simp only [step, Option.ite_none_right_eq_some, Option.some.injEq] at taken
  obtain ⟨⟨_, fits⟩, rfl⟩ := taken
  rw [messageFrames_append_handleAsynchronous] at ahead ⊢
  split at ahead
  · next foreign =>
      obtain ⟨sender, pieces, progress⟩ := follows ahead
      have ignored := handleFrame_foreign path.reader foreign fits
      rw [if_pos foreign]
      refine ⟨sender, pieces, progress.foreign ?_ ?_⟩
      · rw [ignored]
      · rw [ignored]
        intro current tracks
        cases current <;> exact tracks
  · next notForeign =>
      obtain ⟨sender, pieces, progress⟩ :=
        follows ((List.prefix_append _ _).trans ahead)
      rw [if_neg notForeign]
      exact progress.deliver ahead room rfl (fun _ tracks => tracks)

/-- A run of `HandleAsynchronous` calls follows every stream. -/
theorem follows_of_run {whole : WireSender} {path finish : ReceivePath}
    {actions : List Action} (idle : path.Idle)
    (start : whole.current = none) (valid : whole.Valid)
    (only : OnlyHandleAsynchronous actions)
    (neverFull : path.NeverFull actions)
    (reached : machine.run path actions = some finish) :
    Follows whole (messageFrames actions) finish := by
  have traced := machine.run_traced
    (fun past current =>
      OnlyHandleAsynchronous past →
        Follows whole (messageFrames past) current)
    ?_ (fun _ _ => ⟨_, _, idle.progress start valid⟩)
    neverFull reached
  · exact traced only
  · intro past current action next follows guard taken only
    have earlier := follows fun other member =>
      only other (List.mem_append_left _ member)
    rcases Action.handleAsynchronous_or_receiveThread
      (only action (by simp)) with ⟨bytes, rfl⟩ | rfl
    · exact earlier.handleAsynchronous guard taken
    · rw [messageFrames_append_receiveThread]
      intro ahead
      obtain ⟨sender, pieces, progress⟩ := earlier ahead
      exact ⟨sender, pieces, progress.receiveThread taken⟩

/-- Every stream of messages arrives whole and in order, whatever the
schedule. -/
theorem stream_reassembles {path finish : ReceivePath}
    {actions : List Action} {messages : List (List UInt8)}
    (idle : path.Idle) (sendable : WireSender.Sendable messages)
    (only : OnlyHandleAsynchronous actions)
    (frames : messageFrames actions <+: messages.flatMap wireFrames)
    (neverFull : path.NeverFull actions)
    (reached : machine.run path actions = some finish) :
    finish.sent <+: messages ∧
      (messageFrames actions = messages.flatMap wireFrames →
        finish.Drained → finish.sent = messages) := by
  have valid := WireSender.valid_ofMessages sendable
  have assembled := WireSender.assemble_ofMessages sendable
  rw [← WireSender.frames_ofMessages sendable] at frames ⊢
  obtain ⟨sender, pieces, progress⟩ :=
    follows_of_run idle rfl valid only neverFull reached frames
  constructor
  · have given : pieces <+: (WireSender.ofMessages messages).pieces :=
      ⟨sender.pieces, progress.split⟩
    have sent := progress.reassembles.sent_prefix.trans
      (Stitching.assemble_prefix given)
    rwa [assembled] at sent
  · intro complete drained
    have nothingLeft : sender.frames = [] := by
      simpa [complete] using progress.frames
    have all : pieces = (WireSender.ofMessages messages).pieces := by
      rw [← progress.split, WireSender.pieces_eq_nil nothingLeft,
        List.append_nil]
    rw [progress.reassembles.sent_eq drained, all, assembled]

/-- Two messages, the first in two frames with a foreign frame between
them. -/
def twoMessages : List (List UInt8) := [List.replicate 489 7, [1]]

def twoMessagesSchedule : List Action :=
  [.handleAsynchronous (messageHeader 489 ++ List.replicate 488 7),
    .receiveThread,
    .handleAsynchronous (asyncCommandBytes 5 ++ [1, 2, 3]),
    .handleAsynchronous (continuationHeader ++ [7]),
    .handleAsynchronous (messageHeader 1 ++ [1]),
    .receiveThread, .receiveThread, .receiveThread, .receiveThread,
    .receiveThread]

theorem stream_reassembles_twoMessages :
    ∃ finish,
      machine.run (start 10 10 50) twoMessagesSchedule = some finish ∧
        finish.Drained ∧ finish.sent = twoMessages := by
  have runs : (machine.run (start 10 10 50) twoMessagesSchedule).any
      (fun finish => decide finish.Drained) = true := by
    decide +kernel
  obtain ⟨finish, reached, drained⟩ := (Option.any_eq_true _ _).mp runs
  have drained : finish.Drained := of_decide_eq_true drained
  have arrives := stream_reassembles (start_idle 10 10 50)
    (by decide +kernel : WireSender.Sendable twoMessages) (by decide +kernel)
    (by decide +kernel) (by decide +kernel) reached
  exact ⟨finish, reached, drained, arrives.2 (by decide +kernel) drained⟩

end ReceivePath

end CWUSB
