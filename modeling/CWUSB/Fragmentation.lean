import CWUSB.USBSendThread

/-!
# What the splitting loop produces

Every iteration pushes one frame and advances, so the loop ends.  All frames
but the last of a packet have the stitch flag, and for a packet whose length
fits its buffer the payloads behind the headers are the pieces of its data.
-/

namespace CWUSB

/-- The sub-header, which only the first frame of a packet carries. -/
def fragmentSubHeader (lMode lRef : Nat) (lFrontOfQueue : BinaryWiFiPacket)
    (lPacketIndex : Nat) : List UInt8 :=
  if lPacketIndex = 0 then
    asyncSubHeaderBytes lMode lFrontOfQueue.length.toNat lRef
  else []

/-- The header in front of the payload of the frame at an index. -/
def fragmentHeader (lMode lRef : Nat) (lFrontOfQueue : BinaryWiFiPacket)
    (lPacketIndex : Nat) : List UInt8 :=
  asyncCommandBytes cAsyncUserChannel ++
    fragmentSubHeader lMode lRef lFrontOfQueue lPacketIndex

/-- The room for payload in the frame at an index. -/
def fragmentWidth (lPacketIndex : Nat) : Nat :=
  if lPacketIndex = 0 then 488 else 504

namespace BinaryWiFiPacket

/-- The bytes of a packet up to its length. -/
def bytes (packet : BinaryWiFiPacket) : List UInt8 :=
  packet.data.slice 0 packet.length.toNat

def WellFormed (packet : BinaryWiFiPacket) : Prop :=
  packet.length.toNat ≤ cMaxAsynchronousBuffer

theorem WellFormed.length_bytes {packet : BinaryWiFiPacket}
    (wellFormed : packet.WellFormed) :
    packet.bytes.length = packet.length.toNat := by
  apply FixedArray.length_slice_of_le
  rw [Nat.zero_add]
  exact wellFormed

end BinaryWiFiPacket

section Iteration

variable {lMode lRef : Nat} {lFrontOfQueue : BinaryWiFiPacket}
  {lPacketIndex : Nat}

variable (lMode lRef lFrontOfQueue lPacketIndex) in
theorem length_fragmentHeader :
    (fragmentHeader lMode lRef lFrontOfQueue lPacketIndex).length =
      512 - fragmentWidth lPacketIndex := by
  unfold fragmentHeader fragmentSubHeader fragmentWidth
  split <;> simp

variable (lPacketIndex) in
theorem fragmentWidth_pos : 0 < fragmentWidth lPacketIndex := by
  unfold fragmentWidth
  split <;> omega

variable (lPacketIndex) in
theorem fragmentWidth_le : fragmentWidth lPacketIndex ≤ 504 := by
  unfold fragmentWidth
  split <;> omega

variable (lMode lRef lFrontOfQueue lPacketIndex) in
theorem splitIteration_stitch :
    (splitIteration lMode lRef lFrontOfQueue lPacketIndex).lPacket.stitch =
      decide (lFrontOfQueue.length.toNat - lPacketIndex >
        fragmentWidth lPacketIndex) := by
  by_cases first : lPacketIndex = 0
  · simp [splitIteration, fragmentWidth, first]
  · simp [splitIteration, fragmentWidth, first]

variable (lMode lRef lFrontOfQueue lPacketIndex) in
theorem splitIteration_index :
    (splitIteration lMode lRef lFrontOfQueue lPacketIndex).lPacketIndex =
      lPacketIndex + min (lFrontOfQueue.length.toNat - lPacketIndex)
        (fragmentWidth lPacketIndex) := by
  by_cases first : lPacketIndex = 0
  · simp only [splitIteration, fragmentWidth, first, if_true,
      cMaxUSBPacketSize, cAsyncHeaderAndSubHeaderSize, decide_eq_true_eq]
    split <;> omega
  · simp only [splitIteration, fragmentWidth, first, if_false,
      cMaxUSBPacketSize, cAsyncHeaderSize, decide_eq_true_eq]
    split <;> omega

variable (lMode lRef) in
theorem splitIteration_advances
    (unfinished : lPacketIndex < lFrontOfQueue.length.toNat) :
    lPacketIndex <
      (splitIteration lMode lRef lFrontOfQueue lPacketIndex).lPacketIndex := by
  have positive := fragmentWidth_pos lPacketIndex
  rw [splitIteration_index]
  omega

/-- A frame with the stitch flag leaves some of its packet behind. -/
theorem splitIteration_unfinished
    (stitched : (splitIteration lMode lRef lFrontOfQueue
      lPacketIndex).lPacket.stitch = true) :
    (splitIteration lMode lRef lFrontOfQueue lPacketIndex).lPacketIndex <
      lFrontOfQueue.length.toNat := by
  rw [splitIteration_stitch] at stitched
  rw [splitIteration_index]
  simp only [decide_eq_true_eq] at stitched
  omega

/-- The copies into a frame are in bounds on both sides. -/
theorem splitIteration_inBounds (wellFormed : lFrontOfQueue.WellFormed)
    (unfinished : lPacketIndex < lFrontOfQueue.length.toNat) :
    ∀ copy ∈ (splitIteration lMode lRef lFrontOfQueue lPacketIndex).copies,
      copy.InBounds := by
  simp only [BinaryWiFiPacket.WellFormed, cMaxAsynchronousBuffer]
    at wellFormed
  intro copy member
  by_cases first : lPacketIndex = 0
  · simp only [splitIteration, first, if_true, List.cons_append,
      List.nil_append, List.mem_cons, List.not_mem_nil, or_false,
      length_asyncCommandBytes, length_asyncSubHeaderBytes,
      cMaxUSBPacketSize, cMaxAsynchronousBuffer,
      cAsyncHeaderAndSubHeaderSize, decide_eq_true_eq] at member
    rcases member with rfl | rfl | rfl
    · decide
    · decide
    · simp only [BlockCopy.InBounds]
      split <;> omega
  · simp only [splitIteration, first, if_false, List.cons_append,
      List.nil_append, List.mem_cons, List.not_mem_nil, or_false,
      length_asyncCommandBytes, List.length_nil, cMaxUSBPacketSize,
      cMaxAsynchronousBuffer, cAsyncHeaderSize, decide_eq_true_eq] at member
    rcases member with rfl | rfl
    · decide
    · simp only [BlockCopy.InBounds]
      split <;> omega

end Iteration

/-! ## The bytes of a frame -/

/-- A packet written block by block holds the blocks behind each other. -/
private theorem bytes_of_blocks {command subHeader payload : List UInt8}
    {length : Nat} (stitch : Bool)
    (sum : length = command.length + subHeader.length + payload.length)
    (fits : length ≤ 512) :
    BinaryStitchUSBPacket.bytes
      { data :=
          (((FixedArray.fill cMaxUSBPacketSize 0).overwrite 0
            command).overwrite command.length subHeader).overwrite
              (command.length + subHeader.length) payload
        length := UInt16.ofNat length
        stitch := stitch } = command ++ subHeader ++ payload := by
  have exactLength : (UInt16.ofNat length).toNat = length := by
    rw [UInt16.toNat_ofNat']
    omega
  have commandWritten :
      ((FixedArray.fill cMaxUSBPacketSize (0 : UInt8)).overwrite 0
        command).slice 0 command.length = command :=
    FixedArray.slice_overwrite_zero (by simp; omega)
  rw [BinaryStitchUSBPacket.bytes, exactLength, sum,
    FixedArray.slice_overwrite (by simp; omega),
    FixedArray.slice_overwrite (by simp; omega), commandWritten]

section Bytes

variable {lMode lRef : Nat} {lFrontOfQueue : BinaryWiFiPacket}
  {lPacketIndex : Nat}

/-- The bytes of a packet the loop copies into the frame at an index. -/
def fragmentPayload (lFrontOfQueue : BinaryWiFiPacket)
    (lPacketIndex : Nat) : List UInt8 :=
  (lFrontOfQueue.bytes.drop lPacketIndex).take (fragmentWidth lPacketIndex)

theorem length_fragmentPayload (wellFormed : lFrontOfQueue.WellFormed)
    (lPacketIndex : Nat) :
    (fragmentPayload lFrontOfQueue lPacketIndex).length =
      min (lFrontOfQueue.length.toNat - lPacketIndex)
        (fragmentWidth lPacketIndex) := by
  simp [fragmentPayload, wellFormed.length_bytes, Nat.min_comm]

private theorem slice_eq_fragmentPayload {lLength : Nat}
    (exact : lLength = min (lFrontOfQueue.length.toNat - lPacketIndex)
      (fragmentWidth lPacketIndex)) :
    lFrontOfQueue.data.slice lPacketIndex lLength =
      fragmentPayload lFrontOfQueue lPacketIndex := by
  rw [fragmentPayload, BinaryWiFiPacket.bytes, FixedArray.drop_slice,
    FixedArray.take_slice, Nat.zero_add, exact, Nat.min_comm]

private theorem splitIteration_lPacket (wellFormed : lFrontOfQueue.WellFormed) :
    (splitIteration lMode lRef lFrontOfQueue lPacketIndex).lPacket =
      { data :=
          (((FixedArray.fill cMaxUSBPacketSize 0).overwrite 0
            (asyncCommandBytes cAsyncUserChannel)).overwrite
              (asyncCommandBytes cAsyncUserChannel).length
              (fragmentSubHeader lMode lRef lFrontOfQueue
                lPacketIndex)).overwrite
            ((asyncCommandBytes cAsyncUserChannel).length +
              (fragmentSubHeader lMode lRef lFrontOfQueue
                lPacketIndex).length)
            (fragmentPayload lFrontOfQueue lPacketIndex)
        length :=
          UInt16.ofNat ((asyncCommandBytes cAsyncUserChannel).length +
            (fragmentSubHeader lMode lRef lFrontOfQueue
              lPacketIndex).length +
            (fragmentPayload lFrontOfQueue lPacketIndex).length)
        stitch :=
          decide (lFrontOfQueue.length.toNat - lPacketIndex >
            fragmentWidth lPacketIndex) } := by
  have width :
      (cMaxUSBPacketSize -
        if lPacketIndex = 0 then cAsyncHeaderAndSubHeaderSize
        else cAsyncHeaderSize) = fragmentWidth lPacketIndex := by
    unfold fragmentWidth
    split <;> rfl
  have share :
      (if decide (lFrontOfQueue.length.toNat - lPacketIndex >
          fragmentWidth lPacketIndex) = true
        then fragmentWidth lPacketIndex
        else lFrontOfQueue.length.toNat - lPacketIndex) =
        min (lFrontOfQueue.length.toNat - lPacketIndex)
          (fragmentWidth lPacketIndex) := by
    simp only [decide_eq_true_eq]
    split <;> omega
  simp only [splitIteration, width, share, fragmentSubHeader,
    slice_eq_fragmentPayload rfl, length_fragmentPayload wellFormed]

/-- A frame is its header followed by its share of the packet. -/
theorem splitIteration_bytes (wellFormed : lFrontOfQueue.WellFormed) :
    (splitIteration lMode lRef lFrontOfQueue lPacketIndex).lPacket.bytes =
      fragmentHeader lMode lRef lFrontOfQueue lPacketIndex ++
        fragmentPayload lFrontOfQueue lPacketIndex := by
  have headerLength := length_fragmentHeader lMode lRef lFrontOfQueue
    lPacketIndex
  have payloadLength := length_fragmentPayload wellFormed lPacketIndex
  have narrow := fragmentWidth_le lPacketIndex
  rw [splitIteration_lPacket wellFormed, bytes_of_blocks _ rfl]
  · rfl
  · simp only [fragmentHeader, List.length_append] at headerLength
    omega

theorem splitIteration_wellFormed (wellFormed : lFrontOfQueue.WellFormed) :
    (splitIteration lMode lRef lFrontOfQueue
      lPacketIndex).lPacket.WellFormed := by
  have headerLength := length_fragmentHeader lMode lRef lFrontOfQueue
    lPacketIndex
  have payloadLength := length_fragmentPayload wellFormed lPacketIndex
  have narrow := fragmentWidth_le lPacketIndex
  simp only [fragmentHeader, List.length_append] at headerLength
  rw [splitIteration_lPacket wellFormed, BinaryStitchUSBPacket.WellFormed,
    UInt16.toNat_ofNat']
  have small := Nat.mod_le
    ((asyncCommandBytes cAsyncUserChannel).length +
      (fragmentSubHeader lMode lRef lFrontOfQueue lPacketIndex).length +
      (fragmentPayload lFrontOfQueue lPacketIndex).length) (2 ^ 16)
  simp only [cMaxUSBPacketSize]
  omega

end Bytes

/-! ## The loop -/

section Loop

variable {lMode lRef : Nat} {lFrontOfQueue : BinaryWiFiPacket}

/-- Fuel beyond the bytes left makes no difference. -/
theorem fragmentsWithin_congr (fuel more : Nat) {lPacketIndex : Nat}
    (enough : lFrontOfQueue.length.toNat ≤ lPacketIndex + fuel)
    (alsoEnough : lFrontOfQueue.length.toNat ≤ lPacketIndex + more) :
    fragmentsWithin lMode lRef lFrontOfQueue fuel lPacketIndex =
      fragmentsWithin lMode lRef lFrontOfQueue more lPacketIndex := by
  induction fuel generalizing more lPacketIndex with
  | zero =>
      have finished : ¬ lPacketIndex < lFrontOfQueue.length.toNat := by omega
      cases more with
      | zero => rfl
      | succ more => simp [fragmentsWithin, finished]
  | succ fuel induction =>
      by_cases unfinished : lPacketIndex < lFrontOfQueue.length.toNat
      · cases more with
        | zero => omega
        | succ more =>
            have advances := splitIteration_advances lMode lRef unfinished
            simp only [fragmentsWithin, unfinished, if_true]
            rw [induction more (by omega) (by omega)]
      · cases more with
        | zero => simp [fragmentsWithin, unfinished]
        | succ more => simp [fragmentsWithin, unfinished]

theorem fragmentsFrom_of_lt {lPacketIndex : Nat}
    (unfinished : lPacketIndex < lFrontOfQueue.length.toNat) :
    fragmentsFrom lMode lRef lFrontOfQueue lPacketIndex =
      (splitIteration lMode lRef lFrontOfQueue lPacketIndex).lPacket ::
        fragmentsFrom lMode lRef lFrontOfQueue
          (splitIteration lMode lRef lFrontOfQueue
            lPacketIndex).lPacketIndex := by
  have advances := splitIteration_advances lMode lRef unfinished
  unfold fragmentsFrom
  rw [fragmentsWithin_congr lFrontOfQueue.length.toNat
    (lFrontOfQueue.length.toNat + 1) (by omega) (by omega)]
  simp only [fragmentsWithin, unfinished, if_true]

variable (lMode lRef) in
theorem fragmentsFrom_of_ge {lPacketIndex : Nat}
    (finished : lFrontOfQueue.length.toNat ≤ lPacketIndex) :
    fragmentsFrom lMode lRef lFrontOfQueue lPacketIndex = [] := by
  have stopped : ¬ lPacketIndex < lFrontOfQueue.length.toNat := by omega
  unfold fragmentsFrom
  cases lFrontOfQueue.length.toNat with
  | zero => rfl
  | succ fuel => simp [fragmentsWithin, stopped]

variable (lMode lRef lFrontOfQueue) in
/-- Rule for facts about the frames still to come: follow the loop from an
index to the end of the packet. -/
theorem fragmentsFrom_induction {motive : Nat → Prop}
    (finished : ∀ lPacketIndex,
      lFrontOfQueue.length.toNat ≤ lPacketIndex → motive lPacketIndex)
    (unfinished : ∀ lPacketIndex,
      lPacketIndex < lFrontOfQueue.length.toNat →
      motive (splitIteration lMode lRef lFrontOfQueue
        lPacketIndex).lPacketIndex → motive lPacketIndex)
    (lPacketIndex : Nat) : motive lPacketIndex := by
  by_cases stopped : lFrontOfQueue.length.toNat ≤ lPacketIndex
  · exact finished lPacketIndex stopped
  · have below : lPacketIndex < lFrontOfQueue.length.toNat := by omega
    have advances := splitIteration_advances lMode lRef below
    exact unfinished lPacketIndex below
      (fragmentsFrom_induction finished unfinished _)
termination_by lFrontOfQueue.length.toNat - lPacketIndex

/-! ## The frames carry the pieces of the packet -/

/-- Frames carrying pieces: a header of its own for the first, the plain
header for the others, and the stitch flag where more pieces follow. -/
def framesCarrying (firstHeader header : List UInt8) :
    List (Stitching.Piece UInt8) → List (List UInt8 × Bool)
  | [] => []
  | piece :: pieces =>
      (firstHeader ++ piece.body, piece.more) ::
        pieces.map fun later => (header ++ later.body, later.more)

theorem fragmentsFrom_continuation {lPacketIndex : Nat}
    (wellFormed : lFrontOfQueue.WellFormed) (later : 0 < lPacketIndex)
    (unfinished : lPacketIndex < lFrontOfQueue.length.toNat) :
    (fragmentsFrom lMode lRef lFrontOfQueue lPacketIndex).map
        (fun packet => (packet.bytes, packet.stitch)) =
      (Stitching.cut 504 (lFrontOfQueue.bytes.drop lPacketIndex)).map
        fun piece =>
          (asyncCommandBytes cAsyncUserChannel ++ piece.body, piece.more) := by
  induction lPacketIndex using
    fragmentsFrom_induction lMode lRef lFrontOfQueue with
  | finished lPacketIndex finished => omega
  | unfinished lPacketIndex below induction =>
      have width : fragmentWidth lPacketIndex = 504 :=
        if_neg (by omega)
      have header : fragmentHeader lMode lRef lFrontOfQueue lPacketIndex =
          asyncCommandBytes cAsyncUserChannel := by
        have notFirst : lPacketIndex ≠ 0 := by omega
        simp [fragmentHeader, fragmentSubHeader, notFirst]
      have restLength :
          (lFrontOfQueue.bytes.drop lPacketIndex).length =
            lFrontOfQueue.length.toNat - lPacketIndex := by
        rw [List.length_drop, wellFormed.length_bytes]
      have stitch := splitIteration_stitch lMode lRef lFrontOfQueue
        lPacketIndex
      have index := splitIteration_index lMode lRef lFrontOfQueue
        lPacketIndex
      rw [fragmentsFrom_of_lt below, List.map_cons,
        splitIteration_bytes wellFormed, header, stitch, fragmentPayload,
        width]
      rw [width] at index
      by_cases long : 504 < lFrontOfQueue.length.toNat - lPacketIndex
      · have next : (splitIteration lMode lRef lFrontOfQueue
            lPacketIndex).lPacketIndex = lPacketIndex + 504 := by
          omega
        have longRest :
            504 < (lFrontOfQueue.bytes.drop lPacketIndex).length := by
          omega
        rw [next] at induction ⊢
        rw [induction (by omega) (by omega),
          Stitching.cut_long (by omega) longRest,
          List.map_cons, List.drop_drop]
        simp [long]
      · have next : lFrontOfQueue.length.toNat ≤
            (splitIteration lMode lRef lFrontOfQueue
              lPacketIndex).lPacketIndex := by
          omega
        rw [fragmentsFrom_of_ge lMode lRef next, Stitching.cut_short (by omega),
          List.take_of_length_le (by omega)]
        simp [long]

variable (lMode lRef) in
/-- The frames of a packet carry the pieces its bytes are cut into. -/
theorem fragmentsFrom_zero (wellFormed : lFrontOfQueue.WellFormed)
    (nonempty : 0 < lFrontOfQueue.length.toNat) :
    (fragmentsFrom lMode lRef lFrontOfQueue 0).map
        (fun packet => (packet.bytes, packet.stitch)) =
      framesCarrying
        (asyncCommandBytes cAsyncUserChannel ++
          asyncSubHeaderBytes lMode lFrontOfQueue.length.toNat lRef)
        (asyncCommandBytes cAsyncUserChannel)
        (Stitching.cutFirst 488 504 lFrontOfQueue.bytes) := by
  have length := wellFormed.length_bytes
  have index := splitIteration_index lMode lRef lFrontOfQueue 0
  rw [fragmentsFrom_of_lt nonempty, List.map_cons,
    splitIteration_bytes wellFormed, splitIteration_stitch]
  by_cases long : 488 < lFrontOfQueue.length.toNat
  · have next : (splitIteration lMode lRef lFrontOfQueue 0).lPacketIndex =
        488 := by
      rw [index]
      simp only [fragmentWidth, if_true]
      omega
    rw [next, fragmentsFrom_continuation wellFormed (by omega) long,
      Stitching.cutFirst_long 504 (by omega)]
    simp [framesCarrying, fragmentHeader, fragmentSubHeader,
      fragmentPayload, fragmentWidth, long]
  · have next : lFrontOfQueue.length.toNat ≤
        (splitIteration lMode lRef lFrontOfQueue 0).lPacketIndex := by
      rw [index]
      simp only [fragmentWidth, if_true]
      omega
    rw [fragmentsFrom_of_ge lMode lRef next,
      Stitching.cutFirst_short 504 (by omega)]
    simp only [framesCarrying, fragmentHeader, fragmentSubHeader,
      fragmentPayload, fragmentWidth, if_true, List.drop_zero]
    rw [List.take_of_length_le (by omega)]
    simp [long]

/-! ## The end of a message -/

/-- The last frame of a queue, if any, ends its message. -/
def EndsWhole (packets : List BinaryStitchUSBPacket) : Prop :=
  ∀ packet, packets.getLast? = some packet → packet.stitch = false

theorem endsWhole_nil : EndsWhole [] := by
  intro packet last
  simp at last

theorem EndsWhole.tail {packet : BinaryStitchUSBPacket}
    {packets : List BinaryStitchUSBPacket}
    (endsWhole : EndsWhole (packet :: packets)) : EndsWhole packets := by
  intro last isLast
  apply endsWhole last
  simp [List.getLast?_cons, isLast]

/-- A stitched frame at the front of such a queue is not its last. -/
theorem EndsWhole.tail_ne_nil {packet : BinaryStitchUSBPacket}
    {packets : List BinaryStitchUSBPacket}
    (endsWhole : EndsWhole (packet :: packets))
    (stitched : packet.stitch = true) : packets ≠ [] := by
  rintro rfl
  have whole := endsWhole packet rfl
  simp [stitched] at whole

theorem EndsWhole.append {first second : List BinaryStitchUSBPacket}
    (firstEnds : EndsWhole first) (secondEnds : EndsWhole second) :
    EndsWhole (first ++ second) := by
  intro packet last
  rw [List.getLast?_append] at last
  cases result : second.getLast? with
  | none =>
      rw [result] at last
      exact firstEnds packet (by simpa using last)
  | some other =>
      rw [result] at last
      exact secondEnds packet (by simpa [result] using last)

theorem fragmentsFrom_endsWhole (lPacketIndex : Nat) :
    EndsWhole (fragmentsFrom lMode lRef lFrontOfQueue lPacketIndex) := by
  induction lPacketIndex using
    fragmentsFrom_induction lMode lRef lFrontOfQueue with
  | finished lPacketIndex finished =>
      rw [fragmentsFrom_of_ge lMode lRef finished]
      exact endsWhole_nil
  | unfinished lPacketIndex unfinished induction =>
      rw [fragmentsFrom_of_lt unfinished]
      intro packet last
      rw [List.getLast?_cons] at last
      cases result : (fragmentsFrom lMode lRef lFrontOfQueue
          (splitIteration lMode lRef lFrontOfQueue
            lPacketIndex).lPacketIndex).getLast? with
      | some other =>
          rw [result] at last
          exact induction packet (by simpa [result] using last)
      | none =>
          have last : (splitIteration lMode lRef lFrontOfQueue
              lPacketIndex).lPacket = packet := by
            simpa [result] using last
          subst packet
          by_contra stitched
          have below := splitIteration_unfinished
            (by simpa using stitched)
          rw [fragmentsFrom_of_lt below] at result
          simp at result

end Loop

end CWUSB
