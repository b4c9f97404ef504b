import CWUSB.Reassembly

/-!
# The round trip through `ReceiveCallback`

`ReceiveCallback` demands the 12 bytes of a HostFS header from every frame,
but a continuation frame has only the 8 bytes of an `AsyncCommand` in front
of its payload.  A message whose last frame carries 1 to 3 bytes loses that
frame; every other message makes the round trip.
-/

namespace CWUSB

/-- The last frame of a message of this size has fewer than 12 bytes. -/
def TinyLastFrame (size : Nat) : Prop :=
  488 < size ∧ 1 ≤ (size - 488) % 504 ∧ (size - 488) % 504 ≤ 3

/-- Only the last frame of a message can be shorter than 12 bytes. -/
theorem layout_split {message : List UInt8} (nonempty : 0 < message.length) :
    ∃ full last, layout message = full ++ [last] ∧
      (∀ frame ∈ full, 12 ≤ frame.length) ∧
      (12 ≤ last.length ↔ ¬ TinyLastFrame message.length) := by
  have headerLength : (messageHeader message.length).length = 24 := rfl
  have plainLength : continuationHeader.length = 8 := rfl
  by_cases long : 488 < message.length
  · obtain ⟨full, last, split, fullLength, lastLength⟩ :=
      Stitching.cut_eq_full_append 504 (by omega)
        (by simp only [List.length_drop]; omega :
          0 < (message.drop 488).length)
    rw [List.length_drop] at lastLength
    refine ⟨(messageHeader message.length ++ message.take 488) ::
        full.map (fun piece => continuationHeader ++ piece.body),
      continuationHeader ++ last.body, ?_, ?_, ?_⟩
    · rw [layout, Stitching.cutFirst_long 504 long, framesCarrying, split]
      simp
    · intro frame member
      rcases List.mem_cons.mp member with rfl | later
      · rw [List.length_append]
        omega
      · obtain ⟨piece, inFull, rfl⟩ := List.mem_map.mp later
        rw [List.length_append, fullLength piece inFull]
        omega
    · rw [List.length_append, plainLength, lastLength, TinyLastFrame]
      omega
  · refine ⟨[], messageHeader message.length ++ message, ?_, by simp, ?_⟩
    · rw [layout, Stitching.cutFirst_short 504 (by omega)]
      rfl
    · rw [List.length_append, headerLength, TinyLastFrame]
      omega

namespace WireSender

/-- Every frame starts with the magic of an asynchronous command. -/
theorem Emits.asynchronous {sender next : WireSender} {frame : List UInt8}
    {piece : Stitching.Piece UInt8}
    (emits : Emits sender frame piece next) :
    ∃ rest, frame = wordBytes Asynchronous ++ rest := by
  cases emits with
  | whole short => exact ⟨_, rfl⟩
  | first long => exact ⟨_, rfl⟩
  | middle long => exact ⟨_, rfl⟩
  | last short => exact ⟨_, rfl⟩

/-- A frame of fewer than 12 bytes continues a message. -/
theorem Emits.continues_of_short {sender next : WireSender}
    {frame : List UInt8} {piece : Stitching.Piece UInt8}
    (emits : Emits sender frame piece next) (short : frame.length < 12) :
    ∃ rest, sender.current = some rest := by
  cases emits with
  | @whole message messages fits =>
      have headerLength : (messageHeader message.length).length = 24 := rfl
      rw [List.length_append] at short
      omega
  | @first message messages long =>
      have headerLength : (messageHeader message.length).length = 24 := rfl
      rw [List.length_append] at short
      omega
  | middle long => exact ⟨_, rfl⟩
  | last fits => exact ⟨_, rfl⟩

end WireSender

namespace ReceivePath

/-- The path follows the stream while all frames read are long enough, and
the reader waits for the rest of a message once one is not. -/
structure Survives (whole : WireSender) (read : List (List UInt8))
    (path : ReceivePath) : Prop where
  follows : (∀ frame ∈ read, 12 ≤ frame.length) → Follows whole read path
  waits : ∀ earlier frame, read = earlier ++ [frame] →
    (∀ other ∈ earlier, 12 ≤ other.length) → frame.length < 12 →
      read <+: whole.frames → path.reader.mReceiveStitching = true

section Step

variable {whole : WireSender} {read : List (List UInt8)}
  {path next : ReceivePath}

theorem Survives.receiveThread (survives : Survives whole read path)
    (taken : path.step .receiveThread = some next) :
    Survives whole read next where
  follows := by
    intro long ahead
    obtain ⟨sender, pieces, progress⟩ := survives.follows long ahead
    exact ⟨sender, pieces, progress.receiveThread taken⟩
  waits := by
    simp only [step, Option.some.injEq] at taken
    subst next
    exact survives.waits

theorem Survives.bulkRead {bytes : List UInt8}
    (survives : Survives whole read path)
    (room : path.thread.hasRoom = true)
    (taken : path.step (.bulkRead bytes) = some next) :
    Survives whole (read ++ [bytes]) next := by
  simp only [step, Option.ite_none_right_eq_some, Option.some.injEq] at taken
  obtain ⟨⟨_, fits⟩, rfl⟩ := taken
  constructor
  · intro long ahead
    have longHere := long bytes (by simp)
    obtain ⟨sender, pieces, progress⟩ :=
      survives.follows
        (fun frame member => long frame (List.mem_append_left _ member))
        ((List.prefix_append _ _).trans ahead)
    obtain ⟨_, _, emits, _, _⟩ :=
      WireSender.emits_of_ahead progress.frames ahead
    obtain ⟨rest, rfl⟩ := emits.asynchronous
    have handled := path.reader.callbackFrame_asynchronous
      longHere fits
    refine progress.deliver ahead room ?_ ?_
    · rw [handled]
    · rw [handled]
      intro current tracks
      cases current <;> exact tracks
  · intro earlier frame split long short ahead
    obtain ⟨rfl, same⟩ := List.append_inj' split rfl
    obtain rfl : bytes = frame := by simpa using same
    obtain ⟨sender, pieces, progress⟩ :=
      survives.follows long ((List.prefix_append _ _).trans ahead)
    obtain ⟨_, _, emits, _, _⟩ :=
      WireSender.emits_of_ahead progress.frames ahead
    obtain ⟨rest, current⟩ := emits.continues_of_short short
    have tracks := progress.tracks
    rw [current] at tracks
    have dropped := path.reader.callbackFrame_short short
    simp only [deliver, dropped]
    exact tracks.1

end Step

theorem survives_of_run {whole : WireSender} {path finish : ReceivePath}
    {actions : List Action} (idle : path.Idle)
    (start : whole.current = none) (valid : whole.Valid)
    (only : OnlyBulkReads actions) (neverFull : path.NeverFull actions)
    (reached : machine.run path actions = some finish) :
    Survives whole (framesRead actions) finish := by
  have traced := machine.run_traced
    (fun past current =>
      OnlyBulkReads past → Survives whole (framesRead past) current)
    ?_ ?_ neverFull reached
  · exact traced only
  · intro past current action next survives guard taken only
    have earlier := survives fun other member =>
      only other (List.mem_append_left _ member)
    rcases Action.bulkRead_or_receiveThread (only action (by simp))
      with ⟨bytes, rfl⟩ | rfl
    · rw [framesRead_append_bulkRead]
      exact earlier.bulkRead guard taken
    · rw [framesRead_append_receiveThread]
      exact earlier.receiveThread taken
  · intro _
    exact
      { follows := fun _ _ => ⟨_, _, idle.progress start valid⟩
        waits := fun _ _ split => by simp [framesRead] at split }

/-- A message makes the round trip exactly when its last frame is not
tiny. -/
theorem roundTrip_iff {path finish : ReceivePath} {actions : List Action}
    {message : List UInt8} (idle : path.Idle)
    (nonempty : 0 < message.length)
    (fits : message.length ≤ cMaxAsynchronousBuffer)
    (only : OnlyBulkReads actions)
    (frames : framesRead actions = wireFrames message)
    (neverFull : path.NeverFull actions)
    (reached : machine.run path actions = some finish)
    (drained : finish.Drained) :
    (finish.sent = [message] ∧ finish.reader.mReceiveStitching = false ∧
        finish.thread.mLastReceivedMessage = .zero) ↔
      ¬ TinyLastFrame message.length := by
  have sendable : WireSender.Sendable [message] := by
    simpa [WireSender.Sendable] using And.intro nonempty fits
  have survives := survives_of_run idle rfl
    (WireSender.valid_ofMessages sendable) only neverFull reached
  have whole : (WireSender.ofMessages [message]).frames =
      framesRead actions := by
    rw [WireSender.frames_ofMessages sendable, frames]
    simp
  obtain ⟨full, last, split, fullLong, lastLong⟩ := layout_split nonempty
  rw [← wireFrames_eq_layout nonempty fits, ← frames] at split
  rw [← lastLong]
  constructor
  · rintro ⟨_, notStitching, _⟩
    by_contra short
    have stitching := survives.waits full last split fullLong (by omega)
      (by rw [whole])
    simp [stitching] at notStitching
  · intro long
    have allLong : ∀ frame ∈ framesRead actions, 12 ≤ frame.length := by
      rw [split]
      intro frame member
      rcases List.mem_append.mp member with inFull | isLast
      · exact fullLong frame inFull
      · rwa [List.mem_singleton.mp isLast]
    obtain ⟨sender, pieces, progress⟩ :=
      survives.follows allLong (by rw [whole])
    have nothingLeft : sender.frames = [] := by
      simpa [whole] using progress.frames
    have all : pieces = (WireSender.ofMessages [message]).pieces := by
      rw [← progress.split, WireSender.pieces_eq_nil nothingLeft,
        List.append_nil]
    have assembled := WireSender.assemble_ofMessages sendable
    refine ⟨?_, ?_, ?_⟩
    · rw [progress.reassembles.sent_eq drained, all, assembled]
    · have tracks := progress.tracks
      rwa [WireSender.current_eq_none nothingLeft] at tracks
    · rw [progress.reassembles.reset_iff drained, all, assembled]

/-- The last frame of a message of 496 bytes has 16 bytes. -/
theorem roundTrip_496 :
    ∃ finish,
      machine.run (start 10 10 50)
          (oneByOne (wireFrames (List.replicate 496 7))) = some finish ∧
        ((finish.sent = [List.replicate 496 7] ∧
            finish.reader.mReceiveStitching = false ∧
            finish.thread.mLastReceivedMessage = .zero) ↔
          ¬ TinyLastFrame (List.replicate 496 (7 : UInt8)).length) := by
  have drains : (machine.run (start 10 10 50)
      (oneByOne (wireFrames (List.replicate 496 7)))).any
        (fun finish => finish.Drained) = true := by
    decide +kernel
  obtain ⟨finish, reached, drained⟩ := (Option.any_eq_true _ _).mp drains
  exact ⟨finish, reached, roundTrip_iff (start_idle 10 10 50)
    (by decide +kernel) (by decide +kernel) (by decide +kernel)
    (by decide +kernel) (by decide +kernel) reached (of_decide_eq_true drained)⟩

/-- A message of 489 bytes never arrives, and leaves the reader stitching. -/
theorem roundTrip_fails_489 :
    OnlyBulkReads (oneByOne (wireFrames (List.replicate 489 7))) ∧
      framesRead (oneByOne (wireFrames (List.replicate 489 7))) =
        wireFrames (List.replicate 489 7) ∧
      (start 10 10 50).NeverFull
        (oneByOne (wireFrames (List.replicate 489 7))) ∧
      ∃ finish,
        machine.run (start 10 10 50)
            (oneByOne (wireFrames (List.replicate 489 7))) = some finish ∧
          finish.Drained ∧ finish.sent = [] ∧
          finish.reader.mReceiveStitching = true := by
  refine ⟨by decide +kernel, by decide +kernel, by decide +kernel, ?_⟩
  have fails : (machine.run (start 10 10 50)
      (oneByOne (wireFrames (List.replicate 489 7)))).any
        (fun finish => decide (finish.Drained ∧ finish.sent = [] ∧
          finish.reader.mReceiveStitching = true)) = true := by
    decide +kernel
  obtain ⟨finish, reached, outcome⟩ := (Option.any_eq_true _ _).mp fails
  exact ⟨finish, reached, of_decide_eq_true outcome⟩

end ReceivePath

end CWUSB
