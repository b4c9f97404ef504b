import CWUSB.Fragmentation
import CWUSB.ReceivePath

/-!
# Messages on the wire

The PSP lays its messages out as the send thread does, with the mode and ref
the receiver demands.  A `WireSender` is a position in a stream of such
messages; while the reader handles the frames in order, its stitch state
tracks the position and the packets it queues carry the pieces of the
messages.
-/

namespace CWUSB

/-- The frames of a message, as the splitting loop lays them out. -/
def wireFrames (message : List UInt8) : List (List UInt8) :=
  (fragmentsFrom cAsyncModePacket cAsyncCommandSendPacket
    (USBSendThread.packetOf message) 0).map BinaryStitchUSBPacket.bytes

/-- The header of the first frame of a message. -/
def messageHeader (size : Nat) : List UInt8 :=
  asyncCommandBytes cAsyncUserChannel ++
    asyncSubHeaderBytes cAsyncModePacket size cAsyncCommandSendPacket

/-- The header of all other frames. -/
def continuationHeader : List UInt8 := asyncCommandBytes cAsyncUserChannel

/-- The frames of a message of any length. -/
def layout (message : List UInt8) : List (List UInt8) :=
  (framesCarrying (messageHeader message.length) continuationHeader
    (Stitching.cutFirst 488 504 message)).map Prod.fst

theorem packetOf_length {message : List UInt8}
    (fits : message.length ≤ cMaxAsynchronousBuffer) :
    (USBSendThread.packetOf message).length.toNat = message.length := by
  simp only [cMaxAsynchronousBuffer] at fits
  simp only [USBSendThread.packetOf, UInt16.toNat_ofNat']
  omega

theorem packetOf_wellFormed {message : List UInt8}
    (fits : message.length ≤ cMaxAsynchronousBuffer) :
    (USBSendThread.packetOf message).WellFormed := by
  rw [BinaryWiFiPacket.WellFormed, packetOf_length fits]
  exact fits

theorem packetOf_bytes {message : List UInt8}
    (fits : message.length ≤ cMaxAsynchronousBuffer) :
    (USBSendThread.packetOf message).bytes = message := by
  rw [BinaryWiFiPacket.bytes, packetOf_length fits]
  exact FixedArray.slice_overwrite_zero fits

theorem wireFrames_eq_layout {message : List UInt8}
    (nonempty : 0 < message.length)
    (fits : message.length ≤ cMaxAsynchronousBuffer) :
    wireFrames message = layout message := by
  have length := packetOf_length fits
  have carried := fragmentsFrom_zero cAsyncModePacket
    cAsyncCommandSendPacket (packetOf_wellFormed fits)
    (by rw [length]; exact nonempty)
  rw [length, packetOf_bytes fits] at carried
  have frames := congrArg (List.map Prod.fst) carried
  rw [List.map_map] at frames
  exact frames

/-! ## Positions in a stream of messages -/

/-- What is left to send: the rest of a message whose first frame is out, and
the messages after it. -/
structure WireSender where
  current : Option (List UInt8) := none
  messages : List (List UInt8)

namespace WireSender

def restFrames : Option (List UInt8) → List (List UInt8)
  | none => []
  | some rest =>
      (Stitching.cut 504 rest).map fun piece =>
        continuationHeader ++ piece.body

def restPieces : Option (List UInt8) → List (Stitching.Piece UInt8)
  | none => []
  | some rest => Stitching.cut 504 rest

def frames (sender : WireSender) : List (List UInt8) :=
  restFrames sender.current ++ sender.messages.flatMap layout

def pieces (sender : WireSender) : List (Stitching.Piece UInt8) :=
  restPieces sender.current ++
    sender.messages.flatMap (Stitching.cutFirst 488 504)

/-- The sizes are those a sub-header can declare. -/
structure Valid (sender : WireSender) : Prop where
  current : ∀ rest, sender.current = some rest → 0 < rest.length
  messages : ∀ message ∈ sender.messages,
    0 < message.length ∧ message.length < 2147483648

/-- One frame leaves the sender.  A message is sent whole, or starts with a
full first frame, goes on with full frames and ends with the rest. -/
inductive Emits : WireSender → List UInt8 → Stitching.Piece UInt8 →
    WireSender → Prop where
  | whole {message : List UInt8} {messages : List (List UInt8)}
      (short : message.length ≤ 488) :
      Emits ⟨none, message :: messages⟩
        (messageHeader message.length ++ message) ⟨message, false⟩
        ⟨none, messages⟩
  | first {message : List UInt8} {messages : List (List UInt8)}
      (long : 488 < message.length) :
      Emits ⟨none, message :: messages⟩
        (messageHeader message.length ++ message.take 488)
        ⟨message.take 488, true⟩ ⟨some (message.drop 488), messages⟩
  | middle {rest : List UInt8} {messages : List (List UInt8)}
      (long : 504 < rest.length) :
      Emits ⟨some rest, messages⟩ (continuationHeader ++ rest.take 504)
        ⟨rest.take 504, true⟩ ⟨some (rest.drop 504), messages⟩
  | last {rest : List UInt8} {messages : List (List UInt8)}
      (short : rest.length ≤ 504) :
      Emits ⟨some rest, messages⟩ (continuationHeader ++ rest)
        ⟨rest, false⟩ ⟨none, messages⟩

/-- The next frame of a stream is one the sender emits, and the rest of the
stream is what the sender sends afterwards. -/
theorem emits_of_frames_eq_cons {sender : WireSender}
    {frame : List UInt8} {later : List (List UInt8)}
    (equality : sender.frames = frame :: later) :
    ∃ piece next, Emits sender frame piece next ∧ later = next.frames ∧
      sender.pieces = piece :: next.pieces := by
  obtain ⟨current, messages⟩ := sender
  cases current with
  | some rest =>
      by_cases long : 504 < rest.length
      · have cutLong := Stitching.cut_long (by omega) long
        simp only [frames, restFrames, cutLong, List.map_cons,
          List.cons_append, List.cons.injEq] at equality
        obtain ⟨rfl, rfl⟩ := equality
        refine ⟨_, _, .middle long, rfl, ?_⟩
        simp [pieces, restPieces, cutLong]
      · have cutShort := Stitching.cut_short (Nat.le_of_not_lt long)
        simp only [frames, restFrames, cutShort, List.map_cons,
          List.cons_append, List.cons.injEq, List.map_nil] at equality
        obtain ⟨rfl, rfl⟩ := equality
        refine ⟨_, _, .last (Nat.le_of_not_lt long), rfl, ?_⟩
        simp [pieces, restPieces, cutShort]
  | none =>
      cases messages with
      | nil => simp [frames, restFrames] at equality
      | cons message messages =>
          by_cases long : 488 < message.length
          · have cutLong := Stitching.cutFirst_long 504 long
            simp only [frames, restFrames, List.flatMap_cons, layout,
              cutLong, framesCarrying, List.map_cons, List.nil_append,
              List.cons_append, List.cons.injEq, List.map_map] at equality
            obtain ⟨rfl, rfl⟩ := equality
            refine ⟨_, _, .first long, rfl, ?_⟩
            simp [pieces, restPieces, cutLong]
          · have cutShort := Stitching.cutFirst_short 504
              (Nat.le_of_not_lt long)
            simp only [frames, restFrames, List.flatMap_cons, layout,
              cutShort, framesCarrying, List.map_cons, List.map_nil,
              List.nil_append, List.cons_append,
              List.cons.injEq] at equality
            obtain ⟨rfl, rfl⟩ := equality
            refine ⟨_, _, .whole (Nat.le_of_not_lt long), rfl, ?_⟩
            simp [pieces, restPieces, cutShort]

/-- The next frame of the stream behind what was read is one the sender
emits. -/
theorem emits_of_ahead {sender : WireSender} {read whole : List (List UInt8)}
    {frame : List UInt8} (split : read ++ sender.frames = whole)
    (ahead : read ++ [frame] <+: whole) :
    ∃ piece next, sender.Emits frame piece next ∧
      sender.frames = frame :: next.frames ∧
      sender.pieces = piece :: next.pieces := by
  rw [← split] at ahead
  obtain ⟨later, ahead⟩ := ahead
  have nextFrame : sender.frames = frame :: later := by
    simpa using ahead.symm
  obtain ⟨piece, next, emits, rfl, split⟩ := emits_of_frames_eq_cons nextFrame
  exact ⟨piece, next, emits, nextFrame, split⟩

/-- A sender without frames is not in the middle of a message. -/
theorem current_eq_none {sender : WireSender} (finished : sender.frames = []) :
    sender.current = none := by
  obtain ⟨current, messages⟩ := sender
  cases current with
  | none => rfl
  | some rest =>
      obtain ⟨noRest, _⟩ := List.append_eq_nil_iff.mp finished
      exact absurd (List.map_eq_nil_iff.mp noRest)
        (Stitching.cut_ne_nil 504 rest)

theorem pieces_eq_nil {sender : WireSender} (finished : sender.frames = []) :
    sender.pieces = [] := by
  obtain ⟨current, messages⟩ := sender
  obtain rfl : current = none := current_eq_none finished
  cases messages with
  | nil => rfl
  | cons message messages =>
      have noMessages := (List.append_eq_nil_iff.mp finished).2
      have noFrame : layout message = [] :=
        (List.append_eq_nil_iff.mp noMessages).1
      simp only [layout, List.map_eq_nil_iff, Stitching.cutFirst] at noFrame
      split at noFrame <;> simp [framesCarrying] at noFrame

theorem Emits.body_nonempty {sender next : WireSender} {frame : List UInt8}
    {piece : Stitching.Piece UInt8} (valid : sender.Valid)
    (emits : Emits sender frame piece next) : 0 < piece.body.length := by
  cases emits with
  | whole short => exact (valid.messages _ (by simp)).1
  | first long => simp only [List.length_take]; omega
  | middle long => simp only [List.length_take]; omega
  | last short => exact valid.current _ rfl

theorem Emits.valid {sender next : WireSender} {frame : List UInt8}
    {piece : Stitching.Piece UInt8} (valid : sender.Valid)
    (emits : Emits sender frame piece next) : next.Valid := by
  cases emits with
  | whole short =>
      exact ⟨by simp, fun other member =>
        valid.messages other (List.mem_cons_of_mem _ member)⟩
  | first long =>
      refine ⟨?_, fun other member =>
        valid.messages other (List.mem_cons_of_mem _ member)⟩
      rintro _ ⟨rfl⟩
      rw [List.length_drop]
      omega
  | middle long =>
      refine ⟨?_, valid.messages⟩
      rintro _ ⟨rfl⟩
      rw [List.length_drop]
      omega
  | last short => exact ⟨by simp, valid.messages⟩

/-- A stream of whole messages of 1 to 2304 bytes. -/
def Sendable (messages : List (List UInt8)) : Prop :=
  ∀ message ∈ messages,
    0 < message.length ∧ message.length ≤ cMaxAsynchronousBuffer

instance (messages : List (List UInt8)) : Decidable (Sendable messages) :=
  inferInstanceAs (Decidable (∀ message ∈ messages, _ ∧ _))

def ofMessages (messages : List (List UInt8)) : WireSender :=
  { messages := messages }

theorem valid_ofMessages {messages : List (List UInt8)}
    (sendable : Sendable messages) : (ofMessages messages).Valid where
  current := by simp [ofMessages]
  messages := by
    intro message member
    obtain ⟨nonempty, fits⟩ := sendable message member
    simp only [cMaxAsynchronousBuffer] at fits
    exact ⟨nonempty, by omega⟩

theorem frames_ofMessages {messages : List (List UInt8)}
    (sendable : Sendable messages) :
    (ofMessages messages).frames = messages.flatMap wireFrames := by
  have layouts : messages.flatMap wireFrames = messages.flatMap layout :=
    List.flatMap_congr fun message member =>
      wireFrames_eq_layout (sendable message member).1
        (sendable message member).2
  rw [layouts]
  rfl

/-- The pieces of a stream reassemble to its messages. -/
theorem assemble_ofMessages {messages : List (List UInt8)}
    (sendable : Sendable messages) :
    Stitching.assemble cMaxAsynchronousBuffer []
      (ofMessages messages).pieces = ([], messages) :=
  Stitching.assemble_stream (by omega) fun message member =>
    (sendable message member).2

end WireSender

/-! ## What the reader finds in a frame -/

namespace USBReader

theorem received_buffer (reader : USBReader) (bytes : List UInt8) :
    (reader.received bytes).mTemporaryReceiveBuffer =
      reader.mTemporaryReceiveBuffer.overwrite 0 bytes := rfl

/-- A field of the received frame is read from the frame, not from what was
in the buffer before. -/
theorem wordAt_frame {reader : USBReader} {bytes : List UInt8} {offset : Nat}
    (inside : offset + 4 ≤ bytes.length)
    (fits : bytes.length ≤ cMaxUSBPacketSize) :
    wordAt (reader.received bytes).mTemporaryReceiveBuffer offset =
      bytesWord (bytes.drop offset) := by
  rw [wordAt, received_buffer, FixedArray.slice_overwrite_inside fits inside,
    bytesWord_take]

/-- What a sender wrote there is read. -/
theorem wordAt_received (reader : USBReader) {bytes : List UInt8}
    (before after : List UInt8) {word : Nat} (small : word < 4294967296)
    (layout : bytes = before ++ (wordBytes word ++ after))
    (fits : bytes.length ≤ cMaxUSBPacketSize) :
    wordAt (reader.received bytes).mTemporaryReceiveBuffer before.length =
      word := by
  have inside : before.length + 4 ≤ bytes.length := by
    rw [layout, List.length_append, List.length_append, length_wordBytes]
    omega
  rw [wordAt_frame inside fits, layout, List.drop_left,
    bytesWord_wordBytes_append small]

/-- The packet filled from behind a header of the received frame carries the
rest of the frame. -/
theorem packetFrom_received (reader : USBReader) (header body : List UInt8)
    (stitch : Bool) {offset length : Nat} (atHeader : offset = header.length)
    (ofBody : length = body.length)
    (fits : (header ++ body).length ≤ cMaxUSBPacketSize) :
    ((reader.received (header ++ body)).packetFrom offset length
        stitch).piece = ⟨body, stitch⟩ ∧
      ((reader.received (header ++ body)).packetFrom offset length
        stitch).WellFormed ∧
      ((reader.received (header ++ body)).packetFrom offset length
        stitch).length.toNat = body.length := by
  subst offset length
  have lengths : (header ++ body).length = header.length + body.length :=
    List.length_append
  simp only [cMaxUSBPacketSize] at fits
  have exactLength : (UInt16.ofNat body.length).toNat = body.length := by
    rw [UInt16.toNat_ofNat']
    omega
  have copied :
      (reader.received (header ++ body)).mTemporaryReceiveBuffer.slice
        header.length body.length = body := by
    rw [received_buffer,
      FixedArray.slice_overwrite_inside (by simpa using fits) (by omega),
      List.drop_left, List.take_length]
  refine ⟨?_, ?_, ?_⟩
  · simp only [packetFrom, BinaryStitchUSBPacket.piece,
      BinaryStitchUSBPacket.bytes, exactLength, copied]
    rw [FixedArray.slice_overwrite_zero (by
      simp only [cMaxUSBPacketSize]
      omega)]
  · simp only [packetFrom, BinaryStitchUSBPacket.WellFormed, exactLength,
      cMaxUSBPacketSize]
    omega
  · exact exactLength

/-- The words of a first frame's header. -/
theorem wordAt_messageHeader (reader : USBReader) (body : List UInt8)
    {size : Nat} (small : size < 2147483648)
    (fits : (messageHeader size ++ body).length ≤ cMaxUSBPacketSize) :
    wordAt (reader.received
        (messageHeader size ++ body)).mTemporaryReceiveBuffer 4 =
          cAsyncUserChannel ∧
      wordAt (reader.received
        (messageHeader size ++ body)).mTemporaryReceiveBuffer 8 =
          DebugPrint ∧
      wordAt (reader.received
        (messageHeader size ++ body)).mTemporaryReceiveBuffer 12 =
          cAsyncModePacket ∧
      wordAt (reader.received
        (messageHeader size ++ body)).mTemporaryReceiveBuffer 16 = size ∧
      wordAt (reader.received
        (messageHeader size ++ body)).mTemporaryReceiveBuffer 20 =
          cAsyncCommandSendPacket := by
  refine ⟨?_, ?_, ?_, ?_, ?_⟩
  · exact wordAt_received reader (wordBytes Asynchronous)
      (asyncSubHeaderBytes cAsyncModePacket size
        cAsyncCommandSendPacket ++ body) (by decide) rfl fits
  · exact wordAt_received reader (asyncCommandBytes cAsyncUserChannel)
      (wordBytes cAsyncModePacket ++ wordBytes size ++
        wordBytes cAsyncCommandSendPacket ++ body) (by decide) rfl fits
  · exact wordAt_received reader
      (asyncCommandBytes cAsyncUserChannel ++ wordBytes DebugPrint)
      (wordBytes size ++ wordBytes cAsyncCommandSendPacket ++ body)
      (by decide) rfl fits
  · exact wordAt_received reader
      (asyncCommandBytes cAsyncUserChannel ++
        wordBytes DebugPrint ++ wordBytes cAsyncModePacket)
      (wordBytes cAsyncCommandSendPacket ++ body)
      (by omega) rfl fits
  · exact wordAt_received reader
      (asyncCommandBytes cAsyncUserChannel ++
        wordBytes DebugPrint ++ wordBytes cAsyncModePacket ++ wordBytes size)
      body (by decide) rfl fits

/-- The first frame of a message declares its size, and the reader stitches
exactly when that size does not fit one frame. -/
theorem handleFrame_first {reader : USBReader} (body : List UInt8)
    {size : Nat} (notStitching : reader.mReceiveStitching = false)
    (small : size < 2147483648) (nonempty : 0 < body.length)
    (fits : body.length ≤ 488) :
    ∃ packet,
      (reader.handleFrame (messageHeader size ++ body)).queued =
        some packet ∧
      packet.piece = ⟨body, decide (488 < size)⟩ ∧ packet.WellFormed ∧
      (reader.handleFrame
        (messageHeader size ++ body)).reader.mReceiveStitching =
          decide (488 < size) ∧
      (reader.handleFrame
        (messageHeader size ++ body)).reader.mActualLength = size ∧
      (488 < size →
        (reader.handleFrame
          (messageHeader size ++ body)).reader.mStitchingLength =
            body.length) := by
  have headerLength : (messageHeader size).length = 24 := rfl
  have length : (messageHeader size ++ body).length = 24 + body.length := by
    rw [List.length_append, headerLength]
  have frameFits : (messageHeader size ++ body).length ≤ cMaxUSBPacketSize := by
    rw [length]
    simp only [cMaxUSBPacketSize]
    omega
  have total : toUnsigned ((messageHeader size ++ body).length : Int) =
      24 + body.length := by
    rw [toUnsigned_natCast, length]
    omega
  have signed : toSigned (size : Int) = size :=
    toSigned_of_range (by omega) (by omega)
  have unsigned : toUnsigned (size : Int) = size := by
    rw [toUnsigned_natCast]
    omega
  obtain ⟨channel, magic, mode, declared, ref⟩ :=
    wordAt_messageHeader reader body small frameFits
  have stillNot : (reader.received
      (messageHeader size ++ body)).mReceiveStitching = false := notStitching
  have behind : toUnsigned (((messageHeader size ++ body).length : Int) -
      ((24 : Nat) : Int)) = body.length :=
    toUnsigned_behind length (frameFits.trans_lt (by decide))
  have printed : isDebugPrintCommand (reader.received
      (messageHeader size ++ body)).mTemporaryReceiveBuffer
        ((messageHeader size ++ body).length : Int) = cAsyncModePacket := by
    rw [isDebugPrintCommand, total, if_pos (by simp; omega), if_pos magic,
      if_pos ⟨mode, ref⟩]
  obtain ⟨piece, wellFormed, packetLength⟩ := packetFrom_received reader
    (messageHeader size) body (decide (488 < size))
    (rfl : cAsyncHeaderAndSubHeaderSize = _) rfl frameFits
  refine ⟨_, ?_, piece, wellFormed, ?_, ?_, ?_⟩
  all_goals
    rw [handleFrame, handleAsynchronous, if_pos channel, stillNot]
    simp only [Bool.not_false, if_true, handleFirst, printed, declared,
      signed, unsigned, behind]
  · rfl
  · rfl
  · rfl
  · intro long
    change (if decide (488 < size) = true then
      (((reader.received (messageHeader size ++ body)).packetFrom
        cAsyncHeaderAndSubHeaderSize body.length
        (decide (488 < size))).length.toNat : Int) else _) = _
    rw [if_pos (decide_eq_true long), packetLength]

/-- A further frame goes on stitching when it is full and the declared size is
not reached yet. -/
theorem handleFrame_continuation {reader : USBReader} (body : List UInt8)
    {done actual : Nat} (stitching : reader.mReceiveStitching = true)
    (counted : reader.mStitchingLength = done)
    (declared : reader.mActualLength = actual)
    (small : done + body.length < 2147483648) (fits : body.length ≤ 504) :
    ∃ packet,
      (reader.handleFrame (continuationHeader ++ body)).queued =
        some packet ∧
      packet.piece =
        ⟨body, decide (504 < 8 + body.length) &&
          decide (done + body.length < actual)⟩ ∧
      packet.WellFormed ∧
      (reader.handleFrame
        (continuationHeader ++ body)).reader.mReceiveStitching =
          (decide (504 < 8 + body.length) &&
            decide (done + body.length < actual)) ∧
      (reader.handleFrame
        (continuationHeader ++ body)).reader.mActualLength = actual ∧
      (504 < 8 + body.length → done + body.length < actual →
        (reader.handleFrame
          (continuationHeader ++ body)).reader.mStitchingLength =
            (done + body.length : Nat)) := by
  have headerLength : continuationHeader.length = 8 := rfl
  have length : (continuationHeader ++ body).length = 8 + body.length := by
    rw [List.length_append, headerLength]
  have frameFits : (continuationHeader ++ body).length ≤ cMaxUSBPacketSize := by
    rw [length]
    simp only [cMaxUSBPacketSize]
    omega
  have total : toUnsigned ((continuationHeader ++ body).length : Int) =
      8 + body.length := by
    rw [toUnsigned_natCast, length]
    omega
  have channel : wordAt (reader.received
      (continuationHeader ++ body)).mTemporaryReceiveBuffer 4 =
        cAsyncUserChannel :=
    wordAt_received reader (wordBytes Asynchronous) body (by decide) rfl
      frameFits
  have stillStitching : (reader.received
      (continuationHeader ++ body)).mReceiveStitching = true := stitching
  have stillCounted : (reader.received
      (continuationHeader ++ body)).mStitchingLength = done := counted
  have stillDeclared : (reader.received
      (continuationHeader ++ body)).mActualLength = actual := declared
  have behind : toUnsigned (((continuationHeader ++ body).length : Int) -
      ((8 : Nat) : Int)) = body.length :=
    toUnsigned_behind length (frameFits.trans_lt (by decide))
  have sum : toSigned ((toUnsigned (done : Int) + body.length : Nat) : Int) =
      ((done + body.length : Nat) : Int) := by
    have unsigned : toUnsigned (done : Int) = done := by
      rw [toUnsigned_natCast]
      omega
    rw [unsigned]
    exact toSigned_of_range (by omega) (by omega)
  obtain ⟨piece, wellFormed, packetLength⟩ := packetFrom_received reader
    continuationHeader body
    (decide (504 < 8 + body.length) && decide (done + body.length < actual))
    (rfl : cAsyncHeaderSize = _) rfl frameFits
  have below : decide (((done + body.length : Nat) : Int) < (actual : Int)) =
      decide (done + body.length < actual) :=
    decide_eq_decide.mpr Int.ofNat_lt
  refine ⟨_, ?_, piece, wellFormed, ?_, ?_, ?_⟩
  all_goals
    rw [handleFrame, handleAsynchronous, if_pos channel, stillStitching]
    simp only [Bool.not_true, Bool.false_eq_true, if_false,
      handleContinuation, total, behind, stillCounted, stillDeclared, sum,
      below]
  · rfl
  · rfl
  · intro full unfinished
    rw [if_pos (by simp [full, unfinished])]

/-- The reader's stitch state matches the position in the stream. -/
def Tracks (reader : USBReader) : Option (List UInt8) → Prop
  | none => reader.mReceiveStitching = false
  | some rest =>
      reader.mReceiveStitching = true ∧
        ∃ done : Nat, reader.mStitchingLength = done ∧
          reader.mActualLength = (done + rest.length : Nat) ∧
          done + rest.length < 2147483648

/-- Handling the next frame queues its piece and moves the reader to the next
position. -/
theorem handleFrame_emits {reader : USBReader} {sender next : WireSender}
    {frame : List UInt8} {piece : Stitching.Piece UInt8}
    (tracks : reader.Tracks sender.current) (valid : sender.Valid)
    (emits : sender.Emits frame piece next) :
    ∃ packet, (reader.handleFrame frame).queued = some packet ∧
      packet.piece = piece ∧ packet.WellFormed ∧
      (reader.handleFrame frame).reader.Tracks next.current := by
  cases emits with
  | @whole message messages short =>
      obtain ⟨nonempty, small⟩ := valid.messages message (by simp)
      obtain ⟨packet, queued, carries, wellFormed, stitching, _, _⟩ :=
        handleFrame_first message tracks small nonempty short
      have notLong : decide (488 < message.length) = false := by simp; omega
      rw [notLong] at carries stitching
      exact ⟨packet, queued, carries, wellFormed, stitching⟩
  | @first message messages long =>
      obtain ⟨_, small⟩ := valid.messages message (by simp)
      have full : (message.take 488).length = 488 := by
        rw [List.length_take]
        omega
      obtain ⟨packet, queued, carries, wellFormed, stitching, declared,
        counted⟩ := handleFrame_first (message.take 488) tracks
          small (by omega) (by omega)
      rw [decide_eq_true long] at carries stitching
      refine ⟨packet, queued, carries, wellFormed, stitching, 488, ?_, ?_, ?_⟩
      · rw [counted long, full]
      · rw [declared, List.length_drop]
        omega
      · rw [List.length_drop]
        omega
  | @middle rest messages long =>
      obtain ⟨stitching, done, counted, declared, small⟩ := tracks
      have full : (rest.take 504).length = 504 := by
        rw [List.length_take]
        omega
      obtain ⟨packet, queued, carries, wellFormed, goesOn, stillDeclared,
        stillCounted⟩ := handleFrame_continuation (rest.take 504)
          stitching counted declared (by omega) (by omega)
      have more : (decide (504 < 8 + (rest.take 504).length) &&
          decide (done + (rest.take 504).length < done + rest.length)) =
            true := by
        simp only [full, Bool.and_eq_true, decide_eq_true_eq]
        omega
      rw [more] at carries goesOn
      refine ⟨packet, queued, carries, wellFormed, goesOn, done + 504,
        ?_, ?_, ?_⟩
      · rw [stillCounted (by omega) (by omega), full]
      · rw [stillDeclared, List.length_drop]
        omega
      · rw [List.length_drop]
        omega
  | @last rest messages short =>
      obtain ⟨stitching, done, counted, declared, small⟩ := tracks
      obtain ⟨packet, queued, carries, wellFormed, stops, _, _⟩ :=
        handleFrame_continuation rest stitching counted declared small short
      have finished : (decide (504 < 8 + rest.length) &&
          decide (done + rest.length < done + rest.length)) = false := by
        simp
      rw [finished] at carries stops
      exact ⟨packet, queued, carries, wellFormed, stops⟩

/-- A frame on another channel only passes through the receive buffer. -/
theorem handleFrame_otherChannel {reader : USBReader} {bytes : List UInt8}
    (otherChannel :
      wordAt (reader.received bytes).mTemporaryReceiveBuffer 4 ≠
        cAsyncUserChannel) :
    reader.handleFrame bytes = { reader := reader.received bytes } := by
  rw [handleFrame, handleAsynchronous, if_neg otherChannel]

/-- `ReceiveCallback` gives asynchronous frames of at least 12 bytes to
`HandleAsynchronous`. -/
theorem callbackFrame_of_magic (reader : USBReader) {bytes : List UInt8}
    (long : 12 ≤ bytes.length) (fits : bytes.length ≤ cMaxUSBPacketSize)
    (magic : bytesWord bytes = Asynchronous) :
    reader.callbackFrame bytes =
      { reader.handleFrame bytes with
        reader :=
          { (reader.handleFrame bytes).reader with mLength := 0 } } := by
  have message : (reader.received bytes).IsForAsynchronous := by
    rw [IsForAsynchronous, received_length reader fits,
      wordAt_frame (by omega) fits]
    exact ⟨long, magic⟩
  rw [callbackFrame, receiveCallback_asynchronous message]
  rfl

theorem callbackFrame_asynchronous (reader : USBReader)
    {rest : List UInt8}
    (long : 12 ≤ (wordBytes Asynchronous ++ rest).length)
    (fits : (wordBytes Asynchronous ++ rest).length ≤ cMaxUSBPacketSize) :
    reader.callbackFrame (wordBytes Asynchronous ++ rest) =
      { reader.handleFrame (wordBytes Asynchronous ++ rest) with
        reader :=
          { (reader.handleFrame (wordBytes Asynchronous ++ rest)).reader with
            mLength := 0 } } :=
  reader.callbackFrame_of_magic long fits
    (bytesWord_wordBytes_append (by decide) rest)

/-- A frame of fewer than 12 bytes is dropped, whatever it holds. -/
theorem callbackFrame_short (reader : USBReader) {bytes : List UInt8}
    (short : bytes.length < 12) :
    reader.callbackFrame bytes =
      { reader := { reader.received bytes with mLength := 0 } } := by
  have gate : ¬ toUnsigned (reader.received bytes).mLength ≥
      cHostFSHeaderSize := by
    simp only [received, toUnsigned_natCast, cHostFSHeaderSize]
    omega
  rw [callbackFrame, receiveCallback]
  simp only [gate, if_false]

end USBReader

end CWUSB
