import Mathlib.Data.List.Forall2
import CWUSB.WireFormat

/-!
# The declared size of a message

The size field of a sub-header is read once.  It decides whether the reader
stitches at all and, while it does, after which frame it stops; what is
forwarded are the bytes that arrived.  Every payload is put together from the
frames of one message, whose end is described here for arbitrary frames.
-/

namespace CWUSB

/-- The frames of one message, as the reader takes them. -/
structure FramedMessage where
  first : List UInt8
  later : List (List UInt8) := []

namespace FramedMessage

/-- A first frame: its header and sub-header are those of a packet. -/
def Announces (frame : List UInt8) : Prop :=
  cAsyncHeaderAndSubHeaderSize < frame.length ∧
    bytesWord (frame.drop 4) = cAsyncUserChannel ∧
    bytesWord (frame.drop 8) = DebugPrint ∧
    bytesWord (frame.drop 12) = cAsyncModePacket ∧
    bytesWord (frame.drop 20) = cAsyncCommandSendPacket

/-- A frame is for the user channel, as far as it is long enough to say
so. -/
def ForUser (frame : List UInt8) : Prop :=
  cAsyncHeaderSize ≤ frame.length →
    bytesWord (frame.drop 4) = cAsyncUserChannel

def frames (message : FramedMessage) : List (List UInt8) :=
  message.first :: message.later

/-- The size field of the sub-header. -/
def size (message : FramedMessage) : Int :=
  toSigned (bytesWord (message.first.drop 16))

/-- What the frames carry behind their headers. -/
def bodies (message : FramedMessage) : List (List UInt8) :=
  message.first.drop cAsyncHeaderAndSubHeaderSize ::
    message.later.map (List.drop cAsyncHeaderSize)

def payload (message : FramedMessage) : List UInt8 :=
  message.bodies.flatten

def extend (message : FramedMessage) (frame : List UInt8) : FramedMessage :=
  { message with later := message.later ++ [frame] }

/-- A size beyond 488, or a negative one, starts a message of several frames.
It goes on with full frames as long as the size is not reached. -/
inductive Underway : FramedMessage → Prop where
  | first {frame : List UInt8} (announces : Announces frame)
      (long : 488 < toUnsigned (size ⟨frame, []⟩)) : Underway ⟨frame, []⟩
  | middle {message : FramedMessage} {frame : List UInt8}
      (underway : Underway message) (forUser : ForUser frame)
      (full : 504 < frame.length)
      (unfinished : ((message.extend frame).payload.length : Int) <
        message.size) : Underway (message.extend frame)

/-- A message ends with its first frame when the size says so, and else with
the first frame which is not full or reaches the size. -/
inductive Complete : FramedMessage → Prop where
  | whole {frame : List UInt8} (announces : Announces frame)
      (short : toUnsigned (size ⟨frame, []⟩) ≤ 488) : Complete ⟨frame, []⟩
  | last {message : FramedMessage} {frame : List UInt8}
      (underway : Underway message) (forUser : ForUser frame)
      (ends : frame.length ≤ 504 ∨
        message.size ≤ (message.extend frame).payload.length) :
      Complete (message.extend frame)

@[simp] theorem size_extend (message : FramedMessage) (frame : List UInt8) :
    (message.extend frame).size = message.size := rfl

theorem frames_extend (message : FramedMessage) (frame : List UInt8) :
    (message.extend frame).frames = message.frames ++ [frame] := by
  simp [frames, extend]

theorem bodies_extend (message : FramedMessage) (frame : List UInt8) :
    (message.extend frame).bodies =
      message.bodies ++ [frame.drop cAsyncHeaderSize] := by
  simp [bodies, extend]

theorem payload_extend (message : FramedMessage) (frame : List UInt8) :
    (message.extend frame).payload =
      message.payload ++ frame.drop cAsyncHeaderSize := by
  simp [payload, bodies_extend]

theorem bodies_ne_nil (message : FramedMessage) : message.bodies ≠ [] := by
  simp [bodies]

/-- Before its end a message has not reached its size. -/
theorem Underway.payload_lt {message : FramedMessage}
    (underway : message.Underway)
    (small : ∀ frame ∈ message.frames, frame.length ≤ cMaxUSBPacketSize)
    (long : 488 < message.size) :
    (message.payload.length : Int) < message.size := by
  cases underway with
  | @first frame announces beyond =>
      have frameSmall := small frame (by simp [frames])
      simp only [cMaxUSBPacketSize] at frameSmall
      simp only [payload, bodies, List.map_nil, List.flatten_cons,
        List.flatten_nil, List.append_nil, List.length_drop,
        cAsyncHeaderAndSubHeaderSize]
      omega
  | middle underway forUser full unfinished => exact unfinished

theorem Complete.payload_lt {message : FramedMessage}
    (complete : message.Complete)
    (small : ∀ frame ∈ message.frames, frame.length ≤ cMaxUSBPacketSize)
    (long : 488 < message.size) :
    (message.payload.length : Int) < message.size + 504 := by
  cases complete with
  | @whole frame announces short =>
      have signed := toSigned_lt (bytesWord (frame.drop 16))
      unfold toUnsigned at short
      simp only [size] at short long ⊢
      omega
  | @last message frame underway forUser ends =>
      have frameSmall := small frame (by simp [frames_extend])
      simp only [cMaxUSBPacketSize] at frameSmall
      have before := underway.payload_lt
        (fun other member => small other (by
          rw [frames_extend]
          exact List.mem_append_left _ member)) long
      rw [payload_extend, List.length_append, List.length_drop, size_extend]
      simp only [cAsyncHeaderSize]
      omega

end FramedMessage

/-! ## What the reader takes out of an arbitrary frame -/

/-- A packet brings a piece, unless it is longer than any message may be. -/
structure Brings (packet : BinaryStitchUSBPacket)
    (piece : Stitching.Piece UInt8) : Prop where
  more : packet.stitch = piece.more
  filled : packet.stitch = true → 0 < packet.length.toNat
  content : packet.WellFormed ∧ packet.bytes = piece.body ∨
    cMaxAsynchronousBuffer < packet.length.toNat

theorem isDebugPrintCommand_packet
    {aData : FixedArray UInt8 cMaxUSBPacketSize} {aLength : Int} :
    isDebugPrintCommand aData aLength = cAsyncModePacket ↔
      cAsyncHeaderAndSubHeaderSize < toUnsigned aLength ∧
        wordAt aData 8 = DebugPrint ∧ wordAt aData 12 = cAsyncModePacket ∧
        wordAt aData 20 = cAsyncCommandSendPacket := by
  unfold isDebugPrintCommand
  split
  · next long =>
      split
      · next magic =>
          split
          · next mode => simp [long, magic, mode]
          · next mode =>
              split <;> simp [magic, mode]
      · next magic => simp [magic]
  · next short => simp [short]

namespace USBReader

section Frame

variable {reader : USBReader} {bytes : List UInt8}

variable (reader) in
/-- The packet filled from behind a header brings the rest of the frame. -/
theorem packetFrom_brings {offset : Nat} {stitch : Bool}
    (behind : offset ≤ bytes.length) (fits : bytes.length ≤ cMaxUSBPacketSize)
    (filled : stitch = true → offset < bytes.length) :
    Brings
        ((reader.received bytes).packetFrom offset (bytes.length - offset)
          stitch) ⟨bytes.drop offset, stitch⟩ ∧
      ((reader.received bytes).packetFrom offset (bytes.length - offset)
        stitch).length.toNat = (bytes.drop offset).length := by
  have split : bytes.take offset ++ bytes.drop offset = bytes :=
    List.take_append_drop offset bytes
  obtain ⟨piece, wellFormed, length⟩ := packetFrom_received reader
    (bytes.take offset) (bytes.drop offset) stitch
    (by rw [List.length_take]; omega : offset = _)
    (by rw [List.length_drop] : bytes.length - offset = _)
    (by rw [split]; exact fits)
  rw [split] at piece wellFormed length
  refine ⟨?_, length⟩
  exact
    { more := rfl
      filled := fun stitched => by
        have longer := filled stitched
        rw [length, List.length_drop]
        omega
      content := .inl ⟨wellFormed, congrArg Stitching.Piece.body piece⟩ }

/-- What `HandleAsynchronous` does with the first frame of a message. -/
theorem handleFirst_packet {aLength : Int} {lStitch : Bool}
    (packetMode : isDebugPrintCommand reader.mTemporaryReceiveBuffer aLength =
      cAsyncModePacket)
    (stitches : lStitch = decide (488 < toUnsigned
      (toSigned (wordAt reader.mTemporaryReceiveBuffer 16)))) :
    reader.handleFirst aLength =
      { reader :=
          { reader with
            mActualLength :=
              toSigned (wordAt reader.mTemporaryReceiveBuffer 16)
            mReceiveStitching := lStitch
            mStitchingLength :=
              if lStitch then
                ((reader.packetFrom cAsyncHeaderAndSubHeaderSize
                  (toUnsigned (aLength - cAsyncHeaderAndSubHeaderSize))
                  lStitch).length.toNat : Int)
              else reader.mStitchingLength }
        queued := some (reader.packetFrom cAsyncHeaderAndSubHeaderSize
          (toUnsigned (aLength - cAsyncHeaderAndSubHeaderSize)) lStitch)
        copies := [packetCopy cAsyncHeaderAndSubHeaderSize
          (toUnsigned (aLength - cAsyncHeaderAndSubHeaderSize))] } := by
  rw [stitches, handleFirst, packetMode]
  rfl

variable (reader) in
/-- What it does with a further frame. -/
theorem handleContinuation_packet {aLength lStitchingLength : Int}
    {lStitch : Bool}
    (counted : lStitchingLength = toSigned (toUnsigned reader.mStitchingLength +
      toUnsigned (aLength - cAsyncHeaderSize) : Nat))
    (stitches : lStitch = (decide (504 < toUnsigned aLength) &&
      decide (lStitchingLength < reader.mActualLength))) :
    reader.handleContinuation aLength =
      { reader :=
          { reader with
            mReceiveStitching := lStitch
            mStitchingLength := if lStitch then lStitchingLength else 0 }
        queued := some (reader.packetFrom cAsyncHeaderSize
          (toUnsigned (aLength - cAsyncHeaderSize)) lStitch)
        copies := [packetCopy cAsyncHeaderSize
          (toUnsigned (aLength - cAsyncHeaderSize))] } := by
  rw [stitches, counted]
  rfl

/-- A frame which announces a message starts it, and any other frame for the
user channel is logged. -/
theorem handleFrame_starts (notStitching : reader.mReceiveStitching = false)
    (fits : bytes.length ≤ cMaxUSBPacketSize)
    (forUser : wordAt (reader.received bytes).mTemporaryReceiveBuffer 4 =
      cAsyncUserChannel) :
    ((reader.handleFrame bytes).queued = none ∧
        (reader.handleFrame bytes).reader = reader.received bytes) ∨
      FramedMessage.Announces bytes ∧
        ∃ packet, (reader.handleFrame bytes).queued = some packet ∧
          Brings packet
            ⟨bytes.drop cAsyncHeaderAndSubHeaderSize, packet.stitch⟩ ∧
          (packet.stitch = true ↔
            488 < toUnsigned (FramedMessage.size ⟨bytes, []⟩)) ∧
          (reader.handleFrame bytes).reader.mReceiveStitching =
            packet.stitch ∧
          (reader.handleFrame bytes).reader.mActualLength =
            FramedMessage.size ⟨bytes, []⟩ ∧
          (packet.stitch = true →
            (reader.handleFrame bytes).reader.mStitchingLength =
              (bytes.drop cAsyncHeaderAndSubHeaderSize).length) := by
  have still : (reader.received bytes).mReceiveStitching = false :=
    notStitching
  have handled : reader.handleFrame bytes =
      (reader.received bytes).handleFirst bytes.length := by
    rw [handleFrame, handleAsynchronous, if_pos forUser, still]
    rfl
  rw [handled]
  by_cases packetMode : isDebugPrintCommand
      (reader.received bytes).mTemporaryReceiveBuffer bytes.length =
        cAsyncModePacket
  · right
    obtain ⟨long, magic, mode, ref⟩ :=
      isDebugPrintCommand_packet.mp packetMode
    have small := fits
    simp only [cMaxUSBPacketSize] at small
    simp only [toUnsigned_natCast, cAsyncHeaderAndSubHeaderSize] at long
    have longer : 24 < bytes.length := by omega
    have behind : toUnsigned ((bytes.length : Int) - ((24 : Nat) : Int)) =
        bytes.length - 24 :=
      toUnsigned_behind (by omega) (small.trans_lt (by decide))
    have declared : toSigned (wordAt
        (reader.received bytes).mTemporaryReceiveBuffer 16) =
          FramedMessage.size ⟨bytes, []⟩ := by
      rw [wordAt_frame (by omega) fits]
      rfl
    have first := handleFirst_packet packetMode rfl
    rw [declared, cAsyncHeaderAndSubHeaderSize, behind] at first
    rw [wordAt_frame (by omega) fits] at forUser magic mode ref
    obtain ⟨lStitch, stitches⟩ : ∃ lStitch, lStitch =
        decide (488 < toUnsigned (FramedMessage.size ⟨bytes, []⟩)) :=
      ⟨_, rfl⟩
    rw [← stitches] at first
    obtain ⟨brings, length⟩ := packetFrom_brings reader
      (by omega : 24 ≤ bytes.length) fits
      (fun (_ : lStitch = true) => longer)
    rw [first]
    refine ⟨⟨longer, forUser, magic, mode, ref⟩, _, rfl, brings, ?_, rfl, ?_,
      ?_⟩
    · change lStitch = true ↔ _
      rw [stitches, decide_eq_true_iff]
    · dsimp only
    · intro stitched
      exact (if_pos stitched).trans (congrArg Nat.cast length)
  · left
    unfold handleFirst
    dsimp only
    split <;> exact ⟨rfl, rfl⟩

/-- A further frame for the user channel brings what is behind its header.
It goes on with the message when it is full and the size is not reached. -/
theorem handleFrame_continued (stitching : reader.mReceiveStitching = true)
    (fits : bytes.length ≤ cMaxUSBPacketSize)
    (forUser : wordAt (reader.received bytes).mTemporaryReceiveBuffer 4 =
      cAsyncUserChannel) :
    ∃ packet, (reader.handleFrame bytes).queued = some packet ∧
      Brings packet ⟨bytes.drop cAsyncHeaderSize, packet.stitch⟩ ∧
      (reader.handleFrame bytes).reader.mReceiveStitching = packet.stitch ∧
      (reader.handleFrame bytes).reader.mActualLength =
        reader.mActualLength ∧
      ∀ before total : Nat, reader.mStitchingLength = before →
        total = before + (bytes.drop cAsyncHeaderSize).length →
        total ≤ cMaxAsynchronousBuffer →
          (packet.stitch = true ↔
            504 < bytes.length ∧ (total : Int) < reader.mActualLength) ∧
          (packet.stitch = true →
            (reader.handleFrame bytes).reader.mStitchingLength = total) := by
  have still : (reader.received bytes).mReceiveStitching = true := stitching
  have handled : reader.handleFrame bytes =
      (reader.received bytes).handleContinuation bytes.length := by
    rw [handleFrame, handleAsynchronous, if_pos forUser, still]
    rfl
  have small := fits
  simp only [cMaxUSBPacketSize] at small
  have length : toUnsigned (bytes.length : Int) = bytes.length := by
    rw [toUnsigned_natCast]
    omega
  obtain ⟨lStitchingLength, counted⟩ : ∃ lStitchingLength,
      lStitchingLength = toSigned (toUnsigned reader.mStitchingLength +
        toUnsigned ((bytes.length : Int) - (8 : Nat)) : Nat) := ⟨_, rfl⟩
  obtain ⟨lStitch, stitches⟩ : ∃ lStitch, lStitch =
      (decide (504 < toUnsigned (bytes.length : Int)) &&
        decide (lStitchingLength < reader.mActualLength)) := ⟨_, rfl⟩
  have goesOn : lStitch = true ↔
      504 < bytes.length ∧ lStitchingLength < reader.mActualLength := by
    rw [stitches, length, Bool.and_eq_true, decide_eq_true_eq,
      decide_eq_true_eq]
  have packet := handleContinuation_packet (reader.received bytes) counted
    stitches
  rw [handled, packet]
  refine ⟨_, rfl, ?_, rfl, rfl, ?_⟩
  · by_cases behind : 8 ≤ bytes.length
    · have rest : toUnsigned ((bytes.length : Int) - ((8 : Nat) : Int)) =
          bytes.length - 8 :=
        toUnsigned_behind (by omega) (small.trans_lt (by decide))
      rw [cAsyncHeaderSize, rest]
      exact (packetFrom_brings reader behind fits fun stitched => by
        have full := (goesOn.mp stitched).1
        omega).1
    · -- The length of a frame shorter than its header wraps around.
      have wraps : (UInt16.ofNat (toUnsigned
          ((bytes.length : Int) - ((8 : Nat) : Int)))).toNat =
            65528 + bytes.length := by
        rw [UInt16.toNat_ofNat']
        unfold toUnsigned
        omega
      exact
        { more := rfl
          filled := fun stitched => by
            have full := (goesOn.mp stitched).1
            omega
          content := .inr (by
            simp only [packetFrom, wraps, cMaxAsynchronousBuffer]
            omega) }
  · intro before total before_eq sum within
    by_cases full : 504 < bytes.length
    · have rest : toUnsigned ((bytes.length : Int) - ((8 : Nat) : Int)) =
          (bytes.drop cAsyncHeaderSize).length := by
        rw [List.length_drop]
        exact toUnsigned_behind (by simp only [cAsyncHeaderSize]; omega)
          (small.trans_lt (by decide))
      have unsigned : toUnsigned (before : Int) = before := by
        rw [toUnsigned_natCast]
        simp only [cMaxAsynchronousBuffer] at within
        omega
      have reached : lStitchingLength = total := by
        rw [counted, before_eq, rest, unsigned, ← sum]
        simp only [cMaxAsynchronousBuffer] at within
        exact toSigned_of_range (by omega) (by omega)
      rw [reached] at goesOn
      exact ⟨goesOn, fun stitched => (if_pos stitched).trans reached⟩
    · have stops : ¬ lStitch = true := fun stitched =>
        full (goesOn.mp stitched).1
      exact ⟨by simp [packetFrom, stops, full],
        fun stitched => absurd stitched stops⟩

end Frame

end USBReader

/-! ## Messages taken from frames -/

/-- The messages which ended, and the one under way. -/
structure Gathering where
  ended : List FramedMessage := []
  current : Option FramedMessage := none

namespace Gathering

def frames (gathering : Gathering) : List (List UInt8) :=
  gathering.ended.flatMap FramedMessage.frames ++
    gathering.current.toList.flatMap FramedMessage.frames

/-- The pieces the receive thread is given for them. -/
def pieces (gathering : Gathering) : List (Stitching.Piece UInt8) :=
  (gathering.ended.map FramedMessage.bodies).flatMap Stitching.marked ++
    Stitching.announced
      (gathering.current.toList.flatMap FramedMessage.bodies)

/-- The reader's state is that of the message under way.  Its running total
is followed up to the limit only, behind which it may wrap around. -/
structure Known (gathering : Gathering) (reader : USBReader) : Prop where
  ended : ∀ message ∈ gathering.ended,
    message.payload.length ≤ cMaxAsynchronousBuffer → message.Complete
  between : gathering.current = none → reader.mReceiveStitching = false
  stitching : ∀ message, gathering.current = some message →
    reader.mReceiveStitching = true ∧
      reader.mActualLength = message.size ∧
      (message.payload.length ≤ cMaxAsynchronousBuffer →
        message.Underway ∧ reader.mStitchingLength = message.payload.length)

/-- The messages a further message is added to. -/
def add (gathering : Gathering) (message : FramedMessage) (more : Bool) :
    Gathering :=
  if more then { gathering with current := some message }
  else { ended := gathering.ended ++ [message] }

section Add

variable {ended : List FramedMessage} {message : FramedMessage}
  {frame : List UInt8} {more : Bool}

theorem frames_add_first :
    (add ⟨ended, none⟩ ⟨frame, []⟩ more).frames =
      frames ⟨ended, none⟩ ++ [frame] := by
  cases more <;> simp [add, frames, FramedMessage.frames]

theorem frames_add_later :
    (add ⟨ended, some message⟩ (message.extend frame) more).frames =
      frames ⟨ended, some message⟩ ++ [frame] := by
  cases more <;> simp [add, frames, FramedMessage.frames_extend]

theorem pieces_add_first :
    (add ⟨ended, none⟩ ⟨frame, []⟩ more).pieces =
      pieces ⟨ended, none⟩ ++
        [⟨frame.drop cAsyncHeaderAndSubHeaderSize, more⟩] := by
  cases more <;>
    simp [add, pieces, FramedMessage.bodies, Stitching.announced,
      Stitching.marked]

theorem pieces_add_later :
    (add ⟨ended, some message⟩ (message.extend frame) more).pieces =
      pieces ⟨ended, some message⟩ ++
        [⟨frame.drop cAsyncHeaderSize, more⟩] := by
  cases more <;>
    simp [add, pieces, FramedMessage.bodies_extend, Stitching.announced,
      Stitching.marked_concat]

/-- Adding a message keeps what is known, when the reader stitches exactly if
the message goes on. -/
theorem Known.add {gathering : Gathering} {reader later : USBReader}
    (known : gathering.Known reader)
    (stitching : later.mReceiveStitching = more)
    (goesOn : more = true → later.mActualLength = message.size ∧
      (message.payload.length ≤ cMaxAsynchronousBuffer →
        message.Underway ∧ later.mStitchingLength = message.payload.length))
    (stops : more = false →
      message.payload.length ≤ cMaxAsynchronousBuffer → message.Complete) :
    (gathering.add message more).Known later := by
  cases more with
  | true =>
      refine ⟨known.ended, by simp [Gathering.add], ?_⟩
      rintro _ ⟨⟩
      exact ⟨stitching, goesOn rfl⟩
  | false =>
      refine ⟨?_, fun _ => stitching, by simp [Gathering.add]⟩
      intro other member
      rcases List.mem_append.mp member with earlier | last
      · exact known.ended other earlier
      · rw [List.mem_singleton.mp last]
        exact stops rfl

end Add

/-- A frame is either passed over, or it is the next frame of the messages and
its piece is queued. -/
theorem Known.handleFrame {gathering : Gathering} {reader : USBReader}
    {bytes : List UInt8} (known : gathering.Known reader)
    (fits : bytes.length ≤ cMaxUSBPacketSize) :
    ((reader.handleFrame bytes).queued = none ∧
        gathering.Known (reader.handleFrame bytes).reader) ∨
      ∃ packet piece next, (reader.handleFrame bytes).queued = some packet ∧
        Brings packet piece ∧
        Gathering.Known next (reader.handleFrame bytes).reader ∧
        next.frames = gathering.frames ++ [bytes] ∧
        next.pieces = gathering.pieces ++ [piece] := by
  by_cases forUser : wordAt (reader.received bytes).mTemporaryReceiveBuffer 4 =
      cAsyncUserChannel
  · obtain ⟨ended, current⟩ := gathering
    cases current with
    | none =>
        rcases USBReader.handleFrame_starts (known.between rfl) fits forUser
          with ⟨nothing, passed⟩ |
            ⟨announces, packet, queued, brings, goesOn, stitching, declared,
              counted⟩
        · left
          rw [passed]
          exact ⟨nothing, ⟨known.ended, known.between, known.stitching⟩⟩
        · right
          refine ⟨packet, _,
            Gathering.add ⟨ended, none⟩ ⟨bytes, []⟩ packet.stitch,
            queued, brings, known.add stitching ?_ ?_, frames_add_first,
            pieces_add_first⟩
          · intro stitched
            refine ⟨declared, fun _ =>
              ⟨.first announces (goesOn.mp stitched), ?_⟩⟩
            rw [counted stitched]
            simp [FramedMessage.payload, FramedMessage.bodies]
          · intro whole _
            refine .whole announces (Nat.le_of_not_lt fun long => ?_)
            simp [goesOn.mpr long] at whole
    | some message =>
        right
        obtain ⟨stitching, declared, followed⟩ := known.stitching message rfl
        obtain ⟨packet, queued, brings, stillStitching, stillDeclared,
          counts⟩ := USBReader.handleFrame_continued stitching fits forUser
        have user : FramedMessage.ForUser bytes := by
          intro long
          rwa [USBReader.wordAt_frame long fits] at forUser
        have longer : (message.extend bytes).payload.length =
            message.payload.length + (bytes.drop cAsyncHeaderSize).length := by
          rw [FramedMessage.payload_extend, List.length_append]
        have counted : (message.extend bytes).payload.length ≤
            cMaxAsynchronousBuffer → message.Underway ∧
              (packet.stitch = true ↔ 504 < bytes.length ∧
                ((message.extend bytes).payload.length : Int) <
                  message.size) ∧
              (packet.stitch = true →
                (reader.handleFrame bytes).reader.mStitchingLength =
                  (message.extend bytes).payload.length) := by
          intro within
          obtain ⟨underway, total⟩ := followed (by omega)
          rw [← declared]
          exact ⟨underway, counts _ _ total longer within⟩
        refine ⟨packet, _,
          Gathering.add ⟨ended, some message⟩ (message.extend bytes)
            packet.stitch,
          queued, brings, known.add stillStitching ?_ ?_, frames_add_later,
          pieces_add_later⟩
        · intro stitched
          refine ⟨stillDeclared.trans declared, fun within => ?_⟩
          obtain ⟨underway, goesOn, total⟩ := counted within
          obtain ⟨full, unfinished⟩ := goesOn.mp stitched
          exact ⟨.middle underway user full unfinished, total stitched⟩
        · intro whole within
          obtain ⟨underway, goesOn, _⟩ := counted within
          refine .last underway user ?_
          by_contra unfinished
          rw [not_or, Nat.not_le, Int.not_le] at unfinished
          simp [goesOn.mpr unfinished] at whole
  · left
    rw [USBReader.handleFrame_otherChannel forUser]
    exact ⟨rfl, ⟨known.ended, known.between, known.stitching⟩⟩

end Gathering

/-! ## What is forwarded -/

namespace ReceivePath

/-- The packet in hand fits behind what was collected of its message. -/
def AccumulatesWithin (path : ReceivePath) : Action → Prop
  | .receiveThread => ∀ packet ∈ path.thread.lFrontOfQueue,
      path.thread.appendOffset + packet.length.toNat ≤ cMaxAsynchronousBuffer
  | _ => True

instance (path : ReceivePath) :
    (action : Action) → Decidable (path.AccumulatesWithin action)
  | .receiveThread => inferInstanceAs (Decidable (∀ packet ∈ _, _))
  | .bulkRead _ | .handleAsynchronous _ | .handleError _ =>
      inferInstanceAs (Decidable True)

/-- The thread has taken some of the pieces, which all fitted, and the others
are still pending. -/
structure Gathers (read : List (List UInt8)) (path : ReceivePath)
    (gathering : Gathering) (taken rest : List (Stitching.Piece UInt8)) :
    Prop where
  small : ∀ frame ∈ read, frame.length ≤ cMaxUSBPacketSize
  frames : gathering.frames.Sublist read
  known : gathering.Known path.reader
  pieces : taken ++ rest = gathering.pieces
  fits : Stitching.Fits cMaxAsynchronousBuffer [] taken
  message : path.thread.mLastReceivedMessage.WellFormed
  assembled : Stitching.assemble cMaxAsynchronousBuffer [] taken =
    (path.thread.mLastReceivedMessage.collected, path.sent)
  pending : List.Forall₂ Brings path.thread.pending rest

theorem Idle.gathers {path : ReceivePath} (idle : path.Idle) :
    Gathers [] path {} [] [] := by
  obtain ⟨reader, ⟨mMaxBufferSize, message, mQueue, lFrontOfQueue⟩, sent,
    copies⟩ := path
  obtain ⟨between, received, queued, inHand, nothingSent, _⟩ := idle
  dsimp only at between received queued inHand nothingSent
  subst message mQueue lFrontOfQueue sent
  exact
    { small := by simp
      frames := List.nil_sublist _
      known := ⟨by simp, fun _ => between, by simp⟩
      pieces := rfl
      fits := trivial
      message := BinaryStitchWiFiPacket.zero_wellFormed
      assembled := rfl
      pending := .nil }

section Step

variable {read : List (List UInt8)} {path next : ReceivePath}
  {gathering : Gathering} {taken rest : List (Stitching.Piece UInt8)}

theorem Gathers.handleAsynchronous {bytes : List UInt8}
    (gathers : Gathers read path gathering taken rest)
    (room : path.thread.hasRoom = true)
    (stepped : path.step (.handleAsynchronous bytes) = some next) :
    ∃ gathering rest, Gathers (read ++ [bytes]) next gathering taken rest := by
  simp only [step, Option.ite_none_right_eq_some, Option.some.injEq] at stepped
  obtain ⟨⟨_, fits⟩, rfl⟩ := stepped
  have small : ∀ frame ∈ read ++ [bytes],
      frame.length ≤ cMaxUSBPacketSize := by
    intro frame member
    rcases List.mem_append.mp member with earlier | last
    · exact gathers.small frame earlier
    · rwa [List.mem_singleton.mp last]
  rcases gathers.known.handleFrame fits with
    ⟨nothing, known⟩ |
      ⟨packet, piece, later, queued, brings, known, frames, pieces⟩
  · have thread := path.deliver_thread_none nothing
    exact ⟨gathering, rest,
      { small := small
        frames := gathers.frames.trans (List.sublist_append_left _ _)
        known := known
        pieces := gathers.pieces
        fits := gathers.fits
        message := by rw [thread]; exact gathers.message
        assembled := by rw [thread]; exact gathers.assembled
        pending := by rw [thread]; exact gathers.pending }⟩
  · have thread : (path.deliver (path.reader.handleFrame bytes)).thread =
        { path.thread with mQueue := path.thread.mQueue ++ [packet] } := by
      rw [path.deliver_thread_some queued, USBReceiveThread.addToQueue,
        if_pos room]
    have pending : (path.deliver
        (path.reader.handleFrame bytes)).thread.pending =
          path.thread.pending ++ [packet] := by
      rw [thread]
      exact (List.append_assoc _ _ _).symm
    refine ⟨later, rest ++ [piece],
      { small := small
        frames := by
          rw [frames]
          exact gathers.frames.append_right [bytes]
        known := known
        pieces := by rw [pieces, ← gathers.pieces, List.append_assoc]
        fits := gathers.fits
        message := by rw [thread]; exact gathers.message
        assembled := by rw [thread]; exact gathers.assembled
        pending := by
          rw [pending]
          exact List.rel_append gathers.pending (.cons brings .nil) }⟩

theorem Gathers.receiveThread
    (gathers : Gathers read path gathering taken rest)
    (within : path.AccumulatesWithin .receiveThread)
    (stepped : path.step .receiveThread = some next) :
    ∃ taken rest, Gathers read next gathering taken rest := by
  simp only [step, Option.some.injEq] at stepped
  subst next
  obtain ⟨reader, ⟨mMaxBufferSize, message, mQueue, lFrontOfQueue⟩, sent,
    copies⟩ := path
  cases lFrontOfQueue with
  | none =>
      have assembled := gathers.assembled
      rw [← List.append_nil sent] at assembled
      refine ⟨taken, rest, ?_⟩
      cases mQueue with
      | nil => exact { gathers with assembled := assembled }
      | cons packet queue => exact { gathers with assembled := assembled }
  | some packet =>
      obtain ⟨piece, later, brings, pending, rfl⟩ :=
        List.forall₂_cons_left_iff.mp gathers.pending
      have offset := USBReceiveThread.appendOffset_eq gathers.message
      have fitsBehind := within packet rfl
      rw [offset] at fitsBehind
      obtain ⟨wellFormed, body⟩ := brings.content.resolve_right (by omega)
      have carried : packet.piece = piece := by
        obtain ⟨_, more⟩ := piece
        rw [BinaryStitchUSBPacket.piece, brings.more, body]
      have absorbed := USBReceiveThread.appendAndForward_absorb
        ⟨mMaxBufferSize, message, mQueue, none⟩ gathers.message wellFormed
      rw [carried, Prod.ext_iff] at absorbed
      refine ⟨taken ++ [piece], later,
        { small := gathers.small
          frames := gathers.frames
          known := gathers.known
          pieces := by rw [← gathers.pieces]; simp
          fits := (Stitching.fits_append _ _ _ _).mpr ⟨gathers.fits, ?_⟩
          message := USBReceiveThread.appendAndForward_wellFormed
            gathers.message wellFormed brings.filled
          assembled := ?_
          pending := ?_ }⟩
      · rw [gathers.assembled, Stitching.fits_singleton, ← body,
          wellFormed.length_bytes]
        exact fitsBehind
      · rw [Stitching.assemble_append, gathers.assembled,
          Stitching.assemble_cons, ← absorbed.1, ← absorbed.2]
        simp [USBReceiveThread.step]
      · simp only [USBReceiveThread.step,
          USBReceiveThread.appendAndForward_pending]
        exact pending

end Step

theorem gathers_of_run {path finish : ReceivePath} {actions : List Action}
    (idle : path.Idle) (only : OnlyHandleAsynchronous actions)
    (neverFull : path.NeverFull actions)
    (within : machine.Guarded AccumulatesWithin path actions)
    (reached : machine.run path actions = some finish) :
    ∃ gathering taken rest,
      Gathers (framesRead actions) finish gathering taken rest := by
  have traced := machine.run_traced
    (fun past current => OnlyHandleAsynchronous past →
      ∃ gathering taken rest,
        Gathers (framesRead past) current gathering taken rest)
    ?_ (fun _ => ⟨_, _, _, idle.gathers⟩)
    (LabelledMachine.Guarded.and neverFull within) reached
  · exact traced only
  · intro past current action next earlier guard stepped only
    obtain ⟨gathering, taken, rest, gathers⟩ :=
      earlier fun other member => only other (List.mem_append_left _ member)
    rcases Action.handleAsynchronous_or_receiveThread
      (only action (by simp)) with ⟨bytes, rfl⟩ | rfl
    · rw [framesRead_append_handleAsynchronous]
      obtain ⟨gathering, rest, later⟩ :=
        gathers.handleAsynchronous guard.1 stepped
      exact ⟨gathering, taken, rest, later⟩
    · rw [framesRead_append_receiveThread]
      exact ⟨gathering, gathers.receiveThread guard.2 stepped⟩

/-- Every payload forwarded is what the frames of one message carry, however
long its size field says it is; a size beyond one frame is passed by less than
a frame. -/
theorem forwarded_as_framed {path finish : ReceivePath}
    {actions : List Action} (idle : path.Idle)
    (only : OnlyHandleAsynchronous actions)
    (neverFull : path.NeverFull actions)
    (within : machine.Guarded AccumulatesWithin path actions)
    (reached : machine.run path actions = some finish) :
    ∃ messages : List FramedMessage,
      (messages.flatMap FramedMessage.frames).Sublist (framesRead actions) ∧
        finish.sent = messages.map FramedMessage.payload ∧
        ∀ message ∈ messages, message.Complete ∧
          (488 < message.size →
            (message.payload.length : Int) < message.size + 504) := by
  obtain ⟨gathering, taken, rest, gathers⟩ :=
    gathers_of_run idle only neverFull within reached
  have nonempty : ∀ bodies ∈ gathering.ended.map FramedMessage.bodies,
      bodies ≠ [] := by
    intro bodies member
    obtain ⟨message, _, rfl⟩ := List.mem_map.mp member
    exact message.bodies_ne_nil
  obtain ⟨count, completed⟩ :=
    Stitching.assemble_taken nonempty gathers.pieces gathers.fits
  have assembled := gathers.assembled
  have sent : finish.sent =
      (gathering.ended.take count).map FramedMessage.payload := by
    rw [assembled, ← List.map_take, List.map_map] at completed
    exact completed
  have part : ((gathering.ended.take count).flatMap
      FramedMessage.frames).Sublist (framesRead actions) := by
    have earlier := List.sublist_append_left
      ((gathering.ended.take count).flatMap FramedMessage.frames)
      ((gathering.ended.drop count).flatMap FramedMessage.frames)
    rw [← List.flatMap_append, List.take_append_drop] at earlier
    exact (earlier.trans (List.sublist_append_left _ _)).trans gathers.frames
  refine ⟨gathering.ended.take count, part, sent, ?_⟩
  intro message member
  have short : message.payload.length ≤ cMaxAsynchronousBuffer := by
    have payloads : ∀ payload ∈ (Stitching.assemble cMaxAsynchronousBuffer []
        taken).2, payload.length ≤ cMaxAsynchronousBuffer :=
      Stitching.length_le_of_mem_assemble
    rw [assembled, sent] at payloads
    exact payloads _ (List.mem_map_of_mem member)
  have complete := gathers.known.ended message (List.mem_of_mem_take member)
    short
  refine ⟨complete, complete.payload_lt fun frame inside => ?_⟩
  exact gathers.small frame
    (part.subset (List.mem_flatMap_of_mem member inside))

/-- Two frames of a message which declares 600 bytes and carries 888. -/
def overshooting : List Action :=
  [.handleAsynchronous (messageHeader 600 ++ List.replicate 488 7),
    .handleAsynchronous (continuationHeader ++ List.replicate 400 7),
    .receiveThread, .receiveThread, .receiveThread, .receiveThread]

theorem forwarded_as_framed_overshooting :
    ∃ finish,
      machine.run (start 10 10 50) overshooting = some finish ∧
        finish.sent = [List.replicate 888 7] ∧
        ∃ messages : List FramedMessage,
          (messages.flatMap FramedMessage.frames).Sublist
              (framesRead overshooting) ∧
            finish.sent = messages.map FramedMessage.payload ∧
            ∀ message ∈ messages, message.Complete ∧
              (488 < message.size →
                (message.payload.length : Int) < message.size + 504) := by
  have runs : (machine.run (start 10 10 50) overshooting).any
      (fun finish => decide (finish.sent = [List.replicate 888 7])) =
        true := by
    decide +kernel
  obtain ⟨finish, reached, sent⟩ := (Option.any_eq_true _ _).mp runs
  exact ⟨finish, reached, of_decide_eq_true sent,
    forwarded_as_framed (start_idle 10 10 50) (by decide +kernel)
      (by decide +kernel) (by decide +kernel) reached⟩

/-- A single frame which declares 10 bytes and carries 100. -/
def paddedFrame : List UInt8 := messageHeader 10 ++ List.replicate 100 7

/-- All 100 bytes are forwarded. -/
theorem forwarded_longer_than_declared :
    OnlyHandleAsynchronous [.handleAsynchronous paddedFrame, .receiveThread,
        .receiveThread] ∧
      (start 10 10 50).NeverFull [.handleAsynchronous paddedFrame,
        .receiveThread, .receiveThread] ∧
      machine.Guarded AccumulatesWithin (start 10 10 50)
        [.handleAsynchronous paddedFrame, .receiveThread, .receiveThread] ∧
      FramedMessage.size ⟨paddedFrame, []⟩ = 10 ∧
      ∃ finish,
        machine.run (start 10 10 50) [.handleAsynchronous paddedFrame,
            .receiveThread, .receiveThread] = some finish ∧
          finish.sent = [List.replicate 100 7] := by
  refine ⟨by decide, by decide +kernel, by decide +kernel, by decide +kernel,
    ?_⟩
  have forwards : (machine.run (start 10 10 50)
      [.handleAsynchronous paddedFrame, .receiveThread, .receiveThread]).any
        (fun finish => decide (finish.sent = [List.replicate 100 7])) =
          true := by
    decide +kernel
  obtain ⟨finish, reached, outcome⟩ := (Option.any_eq_true _ _).mp forwards
  exact ⟨finish, reached, of_decide_eq_true outcome⟩

end ReceivePath

end CWUSB
