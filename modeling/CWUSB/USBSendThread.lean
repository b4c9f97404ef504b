import CWUSB.USBConstants

/-!
# The send thread

`USBSendThread` takes payloads from XLink Kai, cuts each into frames for the
PSP and queues the frames for the reader.  The thread is modelled step by
step: it takes one packet under the mutex, then pushes one frame after the
other without it.  The packet being split is in neither queue.
-/

namespace CWUSB

structure USBSendThread where
  mMaxBufferSize : Int
  mQueue : List BinaryWiFiPacket := []
  mOutgoingQueue : List BinaryStitchUSBPacket := []
  /-- The locals `lFrontOfQueue` and `lPacketIndex` of the loop while a packet
  is being split. -/
  splitting : Option (BinaryWiFiPacket × Nat) := none
deriving DecidableEq

/-! ## The splitting loop -/

/-- The values one iteration of the splitting loop leaves behind. -/
structure SplitIteration where
  lPacket : BinaryStitchUSBPacket
  lPacketIndex : Nat
  copies : List BlockCopy

/-- One iteration of the splitting loop, for an index below the length.  The
mode and ref of the sub-header are parameters, since the PSP lays its own
frames out in the same way with other values. -/
def splitIteration (lMode lRef : Nat) (lFrontOfQueue : BinaryWiFiPacket)
    (lPacketIndex : Nat) : SplitIteration :=
  let lHeaderLength :=
    if lPacketIndex = 0 then cAsyncHeaderAndSubHeaderSize
    else cAsyncHeaderSize
  let lRemaining := lFrontOfQueue.length.toNat - lPacketIndex
  let lStitch := decide (lRemaining > cMaxUSBPacketSize - lHeaderLength)
  let lLength :=
    if lStitch then cMaxUSBPacketSize - lHeaderLength else lRemaining
  let lCommand := asyncCommandBytes cAsyncUserChannel
  -- Only the first frame carries the sub-header.
  let lSubHeader :=
    if lPacketIndex = 0 then
      asyncSubHeaderBytes lMode lFrontOfQueue.length.toNat lRef
    else []
  let lPacketSize := lCommand.length + lSubHeader.length
  let lData :=
    (((FixedArray.fill cMaxUSBPacketSize 0).overwrite 0 lCommand).overwrite
      lCommand.length lSubHeader).overwrite lPacketSize
        (lFrontOfQueue.data.slice lPacketIndex lLength)
  { lPacket :=
      { data := lData
        length := UInt16.ofNat (lPacketSize + lLength)
        stitch := lStitch }
    lPacketIndex := lPacketIndex + lLength
    copies :=
      ⟨cMaxUSBPacketSize, 0, lCommand.length, 0, lCommand.length⟩ ::
        (if lPacketIndex = 0 then
          [⟨cMaxUSBPacketSize, lCommand.length, lSubHeader.length, 0,
            lSubHeader.length⟩]
        else []) ++
        [⟨cMaxUSBPacketSize, lPacketSize, cMaxAsynchronousBuffer,
          lPacketIndex, lLength⟩] }

/-- The frames the splitting loop pushes from an index on, within a number of
iterations. -/
def fragmentsWithin (lMode lRef : Nat) (lFrontOfQueue : BinaryWiFiPacket) :
    Nat → Nat → List BinaryStitchUSBPacket
  | 0, _ => []
  | fuel + 1, lPacketIndex =>
      if lPacketIndex < lFrontOfQueue.length.toNat then
        let iteration := splitIteration lMode lRef lFrontOfQueue lPacketIndex
        iteration.lPacket ::
          fragmentsWithin lMode lRef lFrontOfQueue fuel
            iteration.lPacketIndex
      else []

/-- The frames the splitting loop pushes from an index on.  Every iteration
advances the index, so the length bounds the number of iterations. -/
def fragmentsFrom (lMode lRef : Nat) (lFrontOfQueue : BinaryWiFiPacket)
    (lPacketIndex : Nat) : List BinaryStitchUSBPacket :=
  fragmentsWithin lMode lRef lFrontOfQueue lFrontOfQueue.length.toNat
    lPacketIndex

/-- The mode and ref the send thread writes into its sub-headers. -/
abbrev cSendMode : Nat := 3
abbrev cSendRef : Nat := 0

namespace USBSendThread

/-! ## Queues -/

/-- The packet `AddToQueue` copies its argument into. -/
def packetOf (aData : List UInt8) : BinaryWiFiPacket :=
  { data := BinaryWiFiPacket.zero.data.overwrite 0 aData
    length := UInt16.ofNat aData.length }

/-- The copy `AddToQueue` makes into that packet, whatever the size. -/
def packetCopy (aData : List UInt8) : BlockCopy :=
  { targetSize := cMaxAsynchronousBuffer
    targetOffset := 0
    sourceSize := aData.length
    sourceOffset := 0
    count := aData.length }

/-- The size check of `AddToQueue`, made outside the mutex. -/
def hasRoom (thread : USBSendThread) : Bool :=
  decide (thread.mQueue.length < toSize thread.mMaxBufferSize)

/-- The locked part of `AddToQueue`. -/
def push (thread : USBSendThread) (lPacket : BinaryWiFiPacket) :
    USBSendThread :=
  { thread with mQueue := thread.mQueue ++ [lPacket] }

structure Added where
  thread : USBSendThread
  lReturn : Bool
  copies : List BlockCopy

def addToQueue (thread : USBSendThread) (aData : List UInt8) : Added :=
  if thread.hasRoom then
    { thread := thread.push (packetOf aData)
      lReturn := true
      copies := [packetCopy aData] }
  else
    { thread := thread, lReturn := false, copies := [] }

def hasOutgoingData (thread : USBSendThread) : Bool :=
  !thread.mOutgoingQueue.isEmpty

def popFromOutgoingQueue (thread : USBSendThread) :
    BinaryStitchUSBPacket × USBSendThread :=
  match thread.mOutgoingQueue with
  | [] => (.zero, thread)
  | lReturn :: rest => (lReturn, { thread with mOutgoingQueue := rest })

/-- Both queues are emptied; a packet being split is in neither of them. -/
def clearQueues (thread : USBSendThread) : USBSendThread :=
  { thread with mQueue := [], mOutgoingQueue := [] }

/-! ## The loop of the thread -/

structure Stepped where
  thread : USBSendThread
  copies : List BlockCopy

/-- The next step of the thread: take a packet, push a frame, or leave the
splitting loop. -/
def step (thread : USBSendThread) : Stepped :=
  match thread.splitting with
  | none =>
      match thread.mQueue with
      | [] => { thread := thread, copies := [] }
      | lFrontOfQueue :: rest =>
          { thread :=
              { thread with
                mQueue := rest
                splitting := some (lFrontOfQueue, 0) }
            copies := [] }
  | some (lFrontOfQueue, lPacketIndex) =>
      if lPacketIndex < lFrontOfQueue.length.toNat then
        let iteration :=
          splitIteration cSendMode cSendRef lFrontOfQueue lPacketIndex
        { thread :=
            { thread with
              mOutgoingQueue := thread.mOutgoingQueue ++ [iteration.lPacket]
              splitting := some (lFrontOfQueue, iteration.lPacketIndex) }
          copies := iteration.copies }
      else
        { thread := { thread with splitting := none }, copies := [] }

/-- The frames of the packet being split which are not pushed yet. -/
def unpushed (thread : USBSendThread) : List BinaryStitchUSBPacket :=
  match thread.splitting with
  | none => []
  | some (lFrontOfQueue, lPacketIndex) =>
      fragmentsFrom cSendMode cSendRef lFrontOfQueue lPacketIndex

/-- All frames of a packet, as the send thread pushes them. -/
def fragments (lPacket : BinaryWiFiPacket) : List BinaryStitchUSBPacket :=
  fragmentsFrom cSendMode cSendRef lPacket 0

end USBSendThread

end CWUSB
