import CWUSB.Fragmentation

/-!
# Fragmentation is exact

The frames of a packet which fits its buffer: how many there are, how long,
with which header, and that their payloads are the bytes of the packet.  The
splitting loop of the send thread ends having pushed exactly these.
-/

namespace CWUSB

/-- The number of frames for a packet of a length: the first has room for 488
bytes and the others for 504. -/
def fragmentCount (length : Nat) : Nat :=
  if length ≤ 488 then 1 else 1 + (length - 488 + 503) / 504

/-- Payloads behind their headers.  Only the first carries the sub-header,
with the length of the whole packet. -/
def withHeaders (length : Nat) : List (List UInt8) → List (List UInt8)
  | [] => []
  | first :: later =>
      (asyncCommandBytes cAsyncUserChannel ++
        asyncSubHeaderBytes cSendMode length cSendRef ++ first) ::
        later.map (asyncCommandBytes cAsyncUserChannel ++ ·)

/-- The frames carry the packet in the payloads. -/
structure ExactFragments (lFrontOfQueue : BinaryWiFiPacket)
    (frames : List BinaryStitchUSBPacket) (payloads : List (List UInt8)) :
    Prop where
  count : frames.length = fragmentCount lFrontOfQueue.length.toNat
  bytes :
    frames.map BinaryStitchUSBPacket.bytes =
      withHeaders lFrontOfQueue.length.toNat payloads
  length : ∀ frame ∈ frames,
    frame.length.toNat = frame.bytes.length ∧
      frame.length.toNat ≤ cMaxUSBPacketSize
  full : ∀ frame ∈ frames.dropLast,
    frame.length.toNat = cMaxUSBPacketSize ∧ frame.stitch = true
  last : ∀ frame, frames.getLast? = some frame → frame.stitch = false
  joined : payloads.flatten = lFrontOfQueue.bytes
  nonempty : ∀ payload ∈ payloads, payload ≠ []

/-! ## The shape of the frames -/

section Shape

variable {firstHeader header : List UInt8} {bodies : List (List UInt8)}
  {last : List UInt8}

theorem length_framesCarrying (pieces : List (Stitching.Piece UInt8)) :
    (framesCarrying firstHeader header pieces).length = pieces.length := by
  cases pieces with
  | nil => rfl
  | cons piece pieces => simp [framesCarrying]

theorem map_fst_framesCarrying (length : Nat)
    (pieces : List (Stitching.Piece UInt8)) :
    (framesCarrying
        (asyncCommandBytes cAsyncUserChannel ++
          asyncSubHeaderBytes cSendMode length cSendRef)
        (asyncCommandBytes cAsyncUserChannel) pieces).map Prod.fst =
      withHeaders length (pieces.map Stitching.Piece.body) := by
  cases pieces with
  | nil => rfl
  | cons piece pieces => simp [framesCarrying, withHeaders]

variable (last) in
theorem dropLast_framesCarrying :
    (framesCarrying firstHeader header
        (Stitching.announced bodies ++ [⟨last, false⟩])).dropLast =
      framesCarrying firstHeader header (Stitching.announced bodies) := by
  cases bodies with
  | nil => rfl
  | cons body bodies =>
      simp [framesCarrying, Stitching.announced, List.dropLast_cons_of_ne_nil]

/-- Frames behind which more follow, when the first body and the others fill
the room their headers leave. -/
theorem full_of_mem_framesCarrying {first width : Nat} (size : Nat)
    (firstRoom : firstHeader.length + first = size)
    (room : header.length + width = size)
    (firstFull : ∀ body ∈ bodies.head?, body.length = first)
    (full : ∀ body ∈ bodies.tail, body.length = width)
    {frame : List UInt8 × Bool}
    (member : frame ∈ framesCarrying firstHeader header
      (Stitching.announced bodies)) :
    frame.1.length = size ∧ frame.2 = true := by
  cases bodies with
  | nil => cases member
  | cons body bodies =>
      rcases List.mem_cons.mp member with rfl | later
      · have bodyLength := firstFull body rfl
        exact ⟨by simp [bodyLength, firstRoom], rfl⟩
      · obtain ⟨piece, isPiece, rfl⟩ := List.mem_map.mp later
        obtain ⟨other, isBody, rfl⟩ := List.mem_map.mp isPiece
        have bodyLength := full other isBody
        exact ⟨by simp [bodyLength, room], rfl⟩

end Shape

namespace USBSendThread

section Frames

variable {lFrontOfQueue : BinaryWiFiPacket}
  (wellFormed : lFrontOfQueue.WellFormed)

include wellFormed

theorem fragments_wellFormed :
    ∀ frame ∈ fragments lFrontOfQueue, frame.WellFormed := by
  have from_index : ∀ lPacketIndex,
      ∀ frame ∈ fragmentsFrom cSendMode cSendRef lFrontOfQueue lPacketIndex,
        frame.WellFormed := by
    intro lPacketIndex
    induction lPacketIndex using
      fragmentsFrom_induction cSendMode cSendRef lFrontOfQueue with
    | finished lPacketIndex finished =>
        rw [fragmentsFrom_of_ge cSendMode cSendRef finished]
        simp
    | unfinished lPacketIndex unfinished induction =>
        rw [fragmentsFrom_of_lt unfinished]
        intro frame member
        rcases List.mem_cons.mp member with rfl | later
        · exact splitIteration_wellFormed wellFormed
        · exact induction frame later
  exact from_index 0

theorem exists_exactFragments (positive : 0 < lFrontOfQueue.length.toNat) :
    ∃ payloads,
      ExactFragments lFrontOfQueue (fragments lFrontOfQueue) payloads := by
  have carried := fragmentsFrom_zero cSendMode cSendRef wellFormed positive
  have length := wellFormed.length_bytes
  obtain ⟨bodies, last, split, firstFull, full, joined, nonempty, count⟩ :=
    Stitching.cutFirst_eq_announced 488 504 lFrontOfQueue.bytes
      (by decide) (by decide) (by omega)
  have payloads :
      (Stitching.cutFirst 488 504 lFrontOfQueue.bytes).map
          Stitching.Piece.body = bodies ++ [last] := by
    rw [split]
    simp [Stitching.announced, Function.comp_def]
  have frameLength : ∀ frame ∈ fragments lFrontOfQueue,
      frame.length.toNat = frame.bytes.length :=
    fun frame member =>
      (fragments_wellFormed wellFormed frame member).length_bytes.symm
  refine ⟨bodies ++ [last],
    { count := ?_
      bytes := ?_
      length := fun frame member => ⟨frameLength frame member,
        fragments_wellFormed wellFormed frame member⟩
      full := ?_
      last := fragmentsFrom_endsWhole 0
      joined := joined
      nonempty := nonempty }⟩
  · have pieces := congrArg List.length carried
    rw [List.length_map, length_framesCarrying, split, List.length_append,
      Stitching.announced, List.length_map, count, length,
      List.length_singleton] at pieces
    rw [fragments, pieces, fragmentCount]
    split <;> omega
  · have fst := congrArg (List.map Prod.fst) carried
    rw [map_fst_framesCarrying, payloads, List.map_map] at fst
    exact fst
  · intro frame member
    have inFront : (frame.bytes, frame.stitch) ∈ framesCarrying
        (asyncCommandBytes cAsyncUserChannel ++ asyncSubHeaderBytes cSendMode
          lFrontOfQueue.length.toNat cSendRef)
        (asyncCommandBytes cAsyncUserChannel)
        (Stitching.announced bodies) := by
      rw [← dropLast_framesCarrying last, ← split, ← carried,
        ← List.map_dropLast]
      exact List.mem_map_of_mem member
    obtain ⟨size, stitched⟩ :=
      full_of_mem_framesCarrying cMaxUSBPacketSize (by simp) (by simp)
        firstFull full inFront
    exact ⟨(frameLength frame (List.mem_of_mem_dropLast member)).trans size,
      stitched⟩

end Frames

/-! ## The splitting loop -/

/-- The thread after a number of steps. -/
def afterSteps (thread : USBSendThread) (count : Nat) : USBSendThread :=
  (fun current => current.step.thread)^[count] thread

/-- The loop pushes the frames from its index on, one a step, and is then
left. -/
theorem splits {thread : USBSendThread} {lFrontOfQueue : BinaryWiFiPacket}
    {lPacketIndex : Nat}
    (splitting : thread.splitting = some (lFrontOfQueue, lPacketIndex)) :
    thread.afterSteps ((fragmentsFrom cSendMode cSendRef lFrontOfQueue
        lPacketIndex).length + 1) =
      { thread with
        mOutgoingQueue :=
          thread.mOutgoingQueue ++
            fragmentsFrom cSendMode cSendRef lFrontOfQueue lPacketIndex
        splitting := none } := by
  induction lPacketIndex using
    fragmentsFrom_induction cSendMode cSendRef lFrontOfQueue
    generalizing thread with
  | finished lPacketIndex finished =>
      rw [fragmentsFrom_of_ge cSendMode cSendRef finished]
      simp [afterSteps, step, splitting, Nat.not_lt.mpr finished]
  | unfinished lPacketIndex unfinished induction =>
      have pushed : thread.step.thread =
          { thread with
            mOutgoingQueue :=
              thread.mOutgoingQueue ++
                [(splitIteration cSendMode cSendRef lFrontOfQueue
                  lPacketIndex).lPacket]
            splitting :=
              some (lFrontOfQueue, (splitIteration cSendMode cSendRef
                lFrontOfQueue lPacketIndex).lPacketIndex) } := by
        simp only [step, splitting, if_pos unfinished]
      have rest := @induction thread.step.thread (by rw [pushed])
      rw [fragmentsFrom_of_lt unfinished, List.length_cons, afterSteps,
        Function.iterate_succ_apply, ← afterSteps, rest, pushed]
      simp only [List.append_assoc, List.singleton_append]

/-- For every packet of 1 to 2304 bytes the splitting loop ends, and what it
has pushed carries exactly the packet. -/
theorem fragmentation_exact {thread : USBSendThread}
    {lFrontOfQueue : BinaryWiFiPacket}
    (splitting : thread.splitting = some (lFrontOfQueue, 0))
    (nonempty : 1 ≤ lFrontOfQueue.length.toNat)
    (fits : lFrontOfQueue.length.toNat ≤ cMaxAsynchronousBuffer) :
    ∃ frames payloads,
      thread.afterSteps (frames.length + 1) =
          { thread with
            mOutgoingQueue := thread.mOutgoingQueue ++ frames
            splitting := none } ∧
        ExactFragments lFrontOfQueue frames payloads := by
  obtain ⟨payloads, exact⟩ := exists_exactFragments fits nonempty
  exact ⟨fragments lFrontOfQueue, payloads, splits splitting, exact⟩

/-- A packet of 992 bytes, which two frames carry. -/
theorem fragmentation_exact_992 :
    ∃ frames payloads,
      afterSteps
          { mMaxBufferSize := 50
            splitting := some (packetOf (List.replicate 992 7), 0) }
          (frames.length + 1) =
          { mMaxBufferSize := 50, mOutgoingQueue := [] ++ frames } ∧
        ExactFragments (packetOf (List.replicate 992 7)) frames payloads :=
  fragmentation_exact rfl (by decide +kernel) (by decide +kernel)

end USBSendThread

end CWUSB
