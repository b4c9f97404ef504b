import CWUSB.Library.Leftover
import CWUSB.Reassembly

/-!
# Messages beyond the buffer

The receive thread drops what it holds once it passes 2304 bytes, while the
reader goes on stitching.  The fragments which follow the drop are joined to
a new message, so the end of a long message is forwarded as if it were one,
unless the fragment which passes the limit is also the last.
-/

namespace CWUSB

/-- Messages whose size an `int` declares. -/
def Declarable (messages : List (List UInt8)) : Prop :=
  ∀ message ∈ messages, 0 < message.length ∧ message.length < 2147483648

instance (messages : List (List UInt8)) : Decidable (Declarable messages) :=
  inferInstanceAs (Decidable (∀ message ∈ messages, _ ∧ _))

/-- Nothing of a message of this size is forwarded, or all of it: up to 2504
bytes the limit is passed by the last frame, and behind that frame the count
starts from 0 again. -/
def DropsCleanly (size : Nat) : Prop :=
  size ≤ cMaxAsynchronousBuffer ∨ (size + 16) % 2520 = 0 ∨
    cMaxAsynchronousBuffer < (size + 16) % 2520

instance (size : Nat) : Decidable (DropsCleanly size) :=
  inferInstanceAs (Decidable (_ ∨ _ ∨ _))

/-- The first frame carries 16 bytes less than the others, and five frames
pass the limit. -/
theorem dropsCleanly_iff {size : Nat} :
    DropsCleanly size ↔
      Stitching.DropsCleanly cMaxAsynchronousBuffer 504 16 size := by
  have period : Stitching.dropPeriod cMaxAsynchronousBuffer 504 = 2520 := rfl
  unfold DropsCleanly Stitching.DropsCleanly
  rw [period, Nat.add_comm]

/-- The messages which fit the buffer. -/
def withinBuffer (messages : List (List UInt8)) : List (List UInt8) :=
  messages.filter fun message => message.length ≤ cMaxAsynchronousBuffer

namespace ReceivePath

/-- What the thread completes of a stream of messages of any sizes. -/
theorem assemble_layouts (messages : List (List UInt8)) :
    Stitching.assemble cMaxAsynchronousBuffer []
        (WireSender.ofMessages messages).pieces =
      ([], messages.flatMap
        (Stitching.completed cMaxAsynchronousBuffer 504 16 [])) :=
  Stitching.assemble_stream_completed (by decide) (by decide) (by decide)
    (by decide)

/-- The payloads handed on are exactly the messages which fit the buffer if
and only if the longer ones drop cleanly. -/
theorem oversized_dropped_iff {path finish : ReceivePath}
    {actions : List Action} {messages : List (List UInt8)}
    (idle : path.Idle) (declarable : Declarable messages)
    (only : OnlyHandleAsynchronous actions)
    (frames : messageFrames actions <+: messages.flatMap layout)
    (neverFull : path.NeverFull actions)
    (reached : machine.run path actions = some finish) :
    ((∀ message ∈ messages, DropsCleanly message.length) →
        finish.sent <+: withinBuffer messages) ∧
      (messageFrames actions = messages.flatMap layout → finish.Drained →
        (finish.sent = withinBuffer messages ↔
          ∀ message ∈ messages, DropsCleanly message.length)) := by
  have valid : (WireSender.ofMessages messages).Valid :=
    ⟨by simp [WireSender.ofMessages], declarable⟩
  have whole : (WireSender.ofMessages messages).frames =
      messages.flatMap layout := rfl
  have exactly : messages.flatMap (Stitching.completed
      cMaxAsynchronousBuffer 504 16 []) = withinBuffer messages ↔
        ∀ message ∈ messages, DropsCleanly message.length := by
    simp only [dropsCleanly_iff]
    exact Stitching.flatMap_completed_eq_filter
  obtain ⟨sender, pieces, progress⟩ :=
    follows_of_run idle rfl valid only neverFull reached frames
  constructor
  · intro cleanly
    have given : pieces <+: (WireSender.ofMessages messages).pieces :=
      ⟨sender.pieces, progress.split⟩
    have sent := progress.reassembles.sent_prefix.trans
      (Stitching.assemble_prefix given)
    rw [assemble_layouts, exactly.mpr cleanly] at sent
    exact sent
  · intro complete drained
    have nothingLeft : sender.frames = [] := by
      simpa [complete, whole] using progress.frames
    have all : pieces = (WireSender.ofMessages messages).pieces := by
      rw [← progress.split, WireSender.pieces_eq_nil nothingLeft,
        List.append_nil]
    rw [progress.reassembles.sent_eq drained, all, assemble_layouts]
    exact exactly

/-- Every frame is handled and worked off before the next one. -/
def handledOneByOne (frames : List (List UInt8)) : List Action :=
  frames.flatMap fun frame =>
    [.handleAsynchronous frame, .receiveThread, .receiveThread]

/-- The frames of a message of 2400 equal bytes, in five frames, and of one
of a single byte. -/
def fiveFrames : List (List UInt8) :=
  (messageHeader 2400 ++ List.replicate 488 7) ::
    List.replicate 3 (continuationHeader ++ List.replicate 504 7) ++
      [continuationHeader ++ List.replicate 400 7, messageHeader 1 ++ [1]]

theorem cut_replicate {count : Nat} (byte : UInt8) (long : 504 < count) :
    Stitching.cut 504 (List.replicate count byte) =
      ⟨List.replicate 504 byte, true⟩ ::
        Stitching.cut 504 (List.replicate (count - 504) byte) := by
  rw [Stitching.cut_long (by decide) (by rwa [List.length_replicate]),
    List.take_replicate, List.drop_replicate, Nat.min_eq_left long.le]

theorem layout_replicate {count : Nat} (byte : UInt8) (long : 488 < count) :
    layout (List.replicate count byte) =
      (messageHeader count ++ List.replicate 488 byte) ::
        (Stitching.cut 504 (List.replicate (count - 488) byte)).map
          fun piece => continuationHeader ++ piece.body := by
  rw [layout, Stitching.cutFirst_long 504 (by rwa [List.length_replicate]),
    framesCarrying, List.length_replicate, List.take_replicate,
    List.drop_replicate, Nat.min_eq_left long.le, List.map_cons, List.map_map]
  rfl

theorem layout_fiveFrames :
    [List.replicate 2400 7, [1]].flatMap layout = fiveFrames := by
  rw [List.flatMap_cons, layout_replicate 7 (by decide),
    cut_replicate 7 (by decide), cut_replicate 7 (by decide),
    cut_replicate 7 (by decide),
    Stitching.cut_short (by rw [List.length_replicate]; decide)]
  rfl

theorem oversized_dropped_fiveFrames :
    ∃ finish,
      machine.run (start 10 10 50) (handledOneByOne fiveFrames) =
          some finish ∧
        ((∀ message ∈ [List.replicate 2400 (7 : UInt8), [1]],
            DropsCleanly message.length) →
          finish.sent <+: withinBuffer [List.replicate 2400 7, [1]]) ∧
        (messageFrames (handledOneByOne fiveFrames) =
            [List.replicate 2400 7, [1]].flatMap layout →
          finish.Drained →
          (finish.sent = withinBuffer [List.replicate 2400 7, [1]] ↔
            ∀ message ∈ [List.replicate 2400 (7 : UInt8), [1]],
              DropsCleanly message.length)) := by
  have runs : (machine.run (start 10 10 50)
      (handledOneByOne fiveFrames)).isSome := by
    decide +kernel
  obtain ⟨finish, reached⟩ := Option.isSome_iff_exists.mp runs
  refine ⟨finish, reached, oversized_dropped_iff (start_idle 10 10 50)
    (by decide +kernel) (by decide +kernel) ?_ (by decide +kernel) reached⟩
  rw [layout_fiveFrames]
  decide +kernel

/-- The frames of a message of 2505 equal bytes: the fifth passes the limit,
and a sixth follows. -/
def sixFrames : List (List UInt8) :=
  (messageHeader 2505 ++ List.replicate 488 7) ::
    List.replicate 4 (continuationHeader ++ List.replicate 504 7) ++
      [continuationHeader ++ [7]]

theorem layout_sixFrames : layout (List.replicate 2505 7) = sixFrames := by
  rw [layout_replicate 7 (by decide), cut_replicate 7 (by decide),
    cut_replicate 7 (by decide), cut_replicate 7 (by decide),
    cut_replicate 7 (by decide),
    Stitching.cut_short (by rw [List.length_replicate]; decide)]
  rfl

/-- The last byte of a message of 2505 bytes is forwarded. -/
theorem oversized_forwarded_2505 :
    OnlyHandleAsynchronous (handledOneByOne sixFrames) ∧
      messageFrames (handledOneByOne sixFrames) =
        [List.replicate 2505 7].flatMap layout ∧
      (start 10 10 50).NeverFull (handledOneByOne sixFrames) ∧
      ∃ finish,
        machine.run (start 10 10 50) (handledOneByOne sixFrames) =
            some finish ∧
          finish.Drained ∧ finish.sent = [[7]] ∧
          withinBuffer [List.replicate 2505 7] = [] := by
  refine ⟨by decide +kernel, ?_, by decide +kernel, ?_⟩
  · rw [List.flatMap_singleton, layout_sixFrames]
    decide +kernel
  · have forwards : (machine.run (start 10 10 50)
        (handledOneByOne sixFrames)).any
          (fun finish => decide (finish.Drained ∧ finish.sent = [[7]])) =
            true := by
      decide +kernel
    obtain ⟨finish, reached, outcome⟩ := (Option.any_eq_true _ _).mp forwards
    obtain ⟨drained, sent⟩ := of_decide_eq_true outcome
    exact ⟨finish, reached, drained, sent, by decide +kernel⟩

end ReceivePath

end CWUSB
