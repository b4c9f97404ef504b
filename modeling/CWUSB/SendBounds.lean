import CWUSB.DataCodec
import CWUSB.Fragmentation
import CWUSB.Library.LabelledMachine

/-!
# Buffer bounds of the send path

What XLink Kai sends goes through `ReceiveCallback` and `USBReader::Send` to
`AddToQueue`, which copies it into a packet of 2304 bytes without looking at
its size.  A datagram may carry up to 4092 bytes.  The copies are in bounds
exactly as long as every datagram which reaches the copy has at most 2308
bytes; the splitting loop then stays inside the packet.
-/

namespace CWUSB

/-! ## The send thread -/

namespace USBSendThread

/-- Every packet the thread holds fits its buffer. -/
structure Fits (thread : USBSendThread) : Prop where
  queued : ∀ packet ∈ thread.mQueue, packet.WellFormed
  inWork : ∀ packet index, thread.splitting = some (packet, index) →
    packet.WellFormed

theorem step_fits {thread : USBSendThread} (fits : thread.Fits) :
    thread.step.thread.Fits ∧
      ∀ copy ∈ thread.step.copies, copy.InBounds := by
  obtain ⟨mMaxBufferSize, mQueue, mOutgoingQueue, splitting⟩ := thread
  cases splitting with
  | none =>
      cases mQueue with
      | nil => exact ⟨fits, by simp [step]⟩
      | cons lFrontOfQueue rest =>
          refine ⟨⟨fun packet member => ?_, ?_⟩, by simp [step]⟩
          · exact fits.queued packet (List.mem_cons_of_mem _ member)
          · rintro packet index ⟨rfl, rfl⟩
            exact fits.queued lFrontOfQueue (by simp)
  | some current =>
      obtain ⟨lFrontOfQueue, lPacketIndex⟩ := current
      have wellFormed := fits.inWork lFrontOfQueue lPacketIndex rfl
      by_cases unfinished : lPacketIndex < lFrontOfQueue.length.toNat
      · simp only [step, unfinished, if_true]
        refine ⟨⟨fits.queued, ?_⟩,
          splitIteration_inBounds wellFormed unfinished⟩
        rintro packet index ⟨rfl, rfl⟩
        exact wellFormed
      · simp only [step, unfinished, if_false]
        exact ⟨⟨fits.queued, by simp⟩, by simp⟩

/-- An accepted payload is copied in bounds exactly when it fits, and then
its packet fits as well. -/
theorem addToQueue_fits {thread : USBSendThread} (fits : thread.Fits)
    (aData : List UInt8) :
    ((thread.addToQueue aData).thread.Fits ∧
        ∀ copy ∈ (thread.addToQueue aData).copies, copy.InBounds) ↔
      (thread.hasRoom = true → aData.length ≤ cMaxAsynchronousBuffer) := by
  by_cases room : thread.hasRoom = true
  · simp only [addToQueue, room, if_true, List.mem_singleton, forall_eq,
      true_implies]
    constructor
    · rintro ⟨_, inBounds⟩
      simpa [BlockCopy.InBounds, packetCopy] using inBounds
    · intro short
      refine ⟨⟨?_, fits.inWork⟩, ?_⟩
      · intro packet member
        rcases List.mem_append.mp member with earlier | last
        · exact fits.queued packet earlier
        · rw [List.mem_singleton.mp last, BinaryWiFiPacket.WellFormed,
            packetOf, UInt16.toNat_ofNat']
          exact (Nat.mod_le _ _).trans short
      · simpa [BlockCopy.InBounds, packetCopy] using short
  · simp [addToQueue, room, fits]

theorem popFromOutgoingQueue_fits {thread : USBSendThread}
    (fits : thread.Fits) : thread.popFromOutgoingQueue.2.Fits := by
  unfold popFromOutgoingQueue
  split
  · exact fits
  · exact ⟨fits.queued, fits.inWork⟩

end USBSendThread

/-! ## From XLink Kai to the PSP -/

structure SendSide where
  connection : XLinkKaiConnection
  thread : USBSendThread
  /-- All copies made so far. -/
  copies : List BlockCopy := []

namespace SendSide

inductive Action where
  /-- A datagram on which `ReceiveCallback` returns. -/
  | datagram (bytes : List UInt8) (now : Int) (fails : Bool)
  | sendThread
  | pop

/-- `USBReader::Send`, which hands its argument to `AddToQueue`. -/
def send (side : SendSide) (aData : List UInt8) : SendSide :=
  { side with
    thread := (side.thread.addToQueue aData).thread
    copies := side.copies ++ (side.thread.addToQueue aData).copies }

def step (side : SendSide) : Action → Option SendSide
  | .datagram bytes now fails =>
      if 0 < bytes.length ∧ bytes.length ≤ cMaxLength then
        match (side.connection.receive bytes).receiveCallback bytes.length
            now fails with
        | .error _ => none
        | .ok received =>
            let side := { side with connection := received.connection }
            match received.forwarded with
            | none => some side
            | some aData => some (side.send aData)
      else none
  | .sendThread =>
      some
        { side with
          thread := side.thread.step.thread
          copies := side.copies ++ side.thread.step.copies }
  | .pop =>
      if side.thread.hasOutgoingData then
        some { side with thread := side.thread.popFromOutgoingQueue.2 }
      else some side

def machine : LabelledMachine SendSide Action := ⟨step⟩

/-- All copies are in bounds, and all packets fit their buffer. -/
structure Bounded (side : SendSide) : Prop where
  inBounds : ∀ copy ∈ side.copies, copy.InBounds
  fits : side.thread.Fits

/-- Ethernet data which reaches the copy has at most 2304 bytes behind its
`e;e;`. -/
def DataFits (side : SendSide) : Action → Prop
  | .datagram bytes _ _ =>
      side.connection.mConnected = true →
        side.connection.mIncomingConnection = true →
        cEthernetDataString <+: bytes → side.thread.hasRoom = true →
          bytes.length ≤ cEthernetDataString.length + cMaxAsynchronousBuffer
  | .sendThread | .pop => True

section Step

variable {side next : SendSide}

theorem bounded_send (bounded : side.Bounded) (aData : List UInt8) :
    (side.send aData).Bounded ↔
      (side.thread.hasRoom = true →
        aData.length ≤ cMaxAsynchronousBuffer) := by
  rw [← USBSendThread.addToQueue_fits bounded.fits aData]
  constructor
  · rintro ⟨inBounds, fits⟩
    exact ⟨fits, fun copy member =>
      inBounds copy (List.mem_append_right _ member)⟩
  · rintro ⟨fits, inBounds⟩
    refine ⟨fun copy member => ?_, fits⟩
    rcases List.mem_append.mp member with earlier | here
    · exact bounded.inBounds copy earlier
    · exact inBounds copy here

theorem bounded_datagram {bytes : List UInt8} {now : Int} {fails : Bool}
    (bounded : side.Bounded)
    (taken : side.step (.datagram bytes now fails) = some next) :
    next.Bounded ↔ side.DataFits (.datagram bytes now fails) := by
  simp only [step, Option.ite_none_right_eq_some] at taken
  obtain ⟨⟨_, fits⟩, taken⟩ := taken
  cases returns : (side.connection.receive bytes).receiveCallback
      bytes.length now fails with
  | error exception => simp [returns] at taken
  | ok received =>
      have forwarded :=
        XLinkKaiConnection.receiveCallback_forwarded fits returns
      rw [returns] at taken
      by_cases accepted : side.connection.mConnected = true ∧
          side.connection.mIncomingConnection = true ∧
          cEthernetDataString <+: bytes
      · rw [if_pos accepted] at forwarded
        simp only [forwarded, Option.some.injEq] at taken
        subst next
        obtain ⟨connected, incoming, data⟩ := accepted
        have dataLength : cEthernetDataString.length = 4 := rfl
        have long : 4 ≤ bytes.length := data.length_le
        have boundedHere : Bounded
            { side with connection := received.connection } :=
          ⟨bounded.inBounds, bounded.fits⟩
        rw [bounded_send boundedHere (bytes.drop cEthernetDataString.length)]
        simp only [DataFits, connected, incoming, data, true_implies,
          List.length_drop, dataLength]
        exact forall_congr' fun _ => by omega
      · rw [if_neg accepted] at forwarded
        simp only [forwarded, Option.some.injEq] at taken
        subst next
        refine ⟨fun _ connected incoming data =>
          absurd ⟨connected, incoming, data⟩ accepted,
          fun _ => ⟨bounded.inBounds, bounded.fits⟩⟩

theorem bounded_step {action : Action} (bounded : side.Bounded)
    (taken : side.step action = some next) :
    next.Bounded ↔ side.DataFits action := by
  cases action with
  | datagram bytes now fails => exact bounded_datagram bounded taken
  | sendThread =>
      simp only [step, Option.some.injEq] at taken
      subst next
      obtain ⟨fits, inBounds⟩ := USBSendThread.step_fits bounded.fits
      refine ⟨fun _ => trivial, fun _ => ⟨fun copy member => ?_, fits⟩⟩
      rcases List.mem_append.mp member with earlier | here
      · exact bounded.inBounds copy earlier
      · exact inBounds copy here
  | pop =>
      simp only [step] at taken
      split at taken
      · simp only [Option.some.injEq] at taken
        subst next
        exact ⟨fun _ => trivial, fun _ => ⟨bounded.inBounds,
          USBSendThread.popFromOutgoingQueue_fits bounded.fits⟩⟩
      · simp only [Option.some.injEq] at taken
        subst next
        exact ⟨fun _ => trivial, fun _ => bounded⟩

end Step

/-- In every run, all copies are in bounds all the time exactly when all
ethernet data that reaches the copy fits. -/
theorem always_bounded_iff {side : SendSide} {actions : List Action}
    (bounded : side.Bounded) :
    machine.Always Bounded side actions ↔
      machine.Guarded DataFits side actions :=
  machine.always_iff_guarded (fun _ => True) (fun _ => True)
    (fun _ _ _ _ _ _ _ _ => trivial)
    (fun _ _ _ _ bounded _ taken => bounded_step bounded taken)
    trivial bounded (fun _ _ => trivial)

/-- A connected bridge with room for a number of packets. -/
def connected (mMaxBufferSize : Int) : SendSide :=
  { connection := { mConnected := true, mIncomingConnection := true }
    thread := { mMaxBufferSize := mMaxBufferSize } }

theorem connected_bounded (mMaxBufferSize : Int) :
    (connected mMaxBufferSize).Bounded where
  inBounds := by simp [connected]
  fits := ⟨by simp [connected], by simp [connected]⟩

theorem always_bounded_iff_short :
    machine.Always Bounded (connected 50)
        [.datagram (cEthernetDataString ++ List.replicate 600 7) 0 false,
          .sendThread, .sendThread, .pop] ↔
      machine.Guarded DataFits (connected 50)
        [.datagram (cEthernetDataString ++ List.replicate 600 7) 0 false,
          .sendThread, .sendThread, .pop] :=
  always_bounded_iff (connected_bounded 50)

/-- A datagram of 2309 bytes is copied over the end of the packet. -/
theorem copies_outOfBounds_2309 :
    ∃ next,
      (connected 50).step (.datagram
          (cEthernetDataString ++ List.replicate 2305 7) 0 false) =
          some next ∧
        ∃ copy ∈ next.copies, ¬ copy.InBounds := by
  have fails : ((connected 50).step (.datagram
      (cEthernetDataString ++ List.replicate 2305 7) 0 false)).any
        (fun next => decide (∃ copy ∈ next.copies, ¬ copy.InBounds)) =
          true := by
    decide +kernel
  obtain ⟨next, taken, outcome⟩ := (Option.any_eq_true _ _).mp fails
  exact ⟨next, taken, of_decide_eq_true outcome⟩

end SendSide

end CWUSB
