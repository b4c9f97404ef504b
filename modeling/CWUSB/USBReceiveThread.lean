import CWUSB.USBConstants

/-!
# The receive thread

`USBReceiveThread` takes the fragments the reader queued, joins those of one
message in `mLastReceivedMessage` and hands the message to XLink Kai.  The
locked pop and the work on the popped fragment are separate steps, with the
fragment in a local in between.
-/

namespace CWUSB

structure USBReceiveThread where
  mMaxBufferSize : Int
  mLastReceivedMessage : BinaryStitchWiFiPacket := .zero
  mQueue : List BinaryStitchUSBPacket := []
  /-- The local of the loop, from the pop to the end of the iteration. -/
  lFrontOfQueue : Option BinaryStitchUSBPacket := none
deriving DecidableEq

namespace USBReceiveThread

/-- The size check of `AddToQueue`. -/
def hasRoom (thread : USBReceiveThread) : Bool :=
  decide (thread.mQueue.length < toSize thread.mMaxBufferSize)

structure Added where
  thread : USBReceiveThread
  lReturn : Bool

def addToQueue (thread : USBReceiveThread)
    (aStruct : BinaryStitchUSBPacket) : Added :=
  if thread.hasRoom then
    { thread := { thread with mQueue := thread.mQueue ++ [aStruct] }
      lReturn := true }
  else
    { thread := thread, lReturn := false }

def clearQueues (thread : USBReceiveThread) : USBReceiveThread :=
  { thread with mQueue := [], mLastReceivedMessage := .zero }

/-! ## The loop of the thread -/

/-- What one step leaves behind: the thread, the payload it handed to
`mConnection.Send`, and the copies it made. -/
structure Stepped where
  thread : USBReceiveThread
  sent : Option (List UInt8) := none
  copies : List BlockCopy := []

/-- The offset at which the front of the queue is copied into the last
received message. -/
def appendOffset (thread : USBReceiveThread) : Nat :=
  if thread.mLastReceivedMessage.stitch then
    thread.mLastReceivedMessage.length.toNat
  else 0

/-- The copy of the front of the queue, made before any size check. -/
def appendCopy (thread : USBReceiveThread)
    (lFrontOfQueue : BinaryStitchUSBPacket) : BlockCopy :=
  { targetSize := cMaxAsynchronousBuffer
    targetOffset := thread.appendOffset
    sourceSize := cMaxUSBPacketSize
    sourceOffset := 0
    count := lFrontOfQueue.length.toNat }

/-- The last received message with the front of the queue appended, or
replaced by it when no stitching is going on. -/
def append (thread : USBReceiveThread)
    (lFrontOfQueue : BinaryStitchUSBPacket) : BinaryStitchWiFiPacket :=
  if thread.mLastReceivedMessage.stitch then
    { data :=
        thread.mLastReceivedMessage.data.overwrite
          thread.mLastReceivedMessage.length.toNat lFrontOfQueue.bytes
      length := thread.mLastReceivedMessage.length + lFrontOfQueue.length
      stitch := lFrontOfQueue.stitch }
  else
    { data :=
        thread.mLastReceivedMessage.data.overwrite 0 lFrontOfQueue.bytes
      length := lFrontOfQueue.length
      stitch := lFrontOfQueue.stitch }

/-- The part of an iteration after the mutex is released. -/
def appendAndForward (thread : USBReceiveThread)
    (lFrontOfQueue : BinaryStitchUSBPacket) : Stepped :=
  let message := thread.append lFrontOfQueue
  if message.length.toNat > cMaxAsynchronousBuffer then
    { thread := { thread with mLastReceivedMessage := .zero }
      copies := [thread.appendCopy lFrontOfQueue] }
  else if !lFrontOfQueue.stitch then
    { thread := { thread with mLastReceivedMessage := .zero }
      sent := some (message.data.slice 0 message.length.toNat)
      copies := [thread.appendCopy lFrontOfQueue] }
  else
    { thread := { thread with mLastReceivedMessage := message }
      copies := [thread.appendCopy lFrontOfQueue] }

/-- The next step of the thread: the locked pop, or the rest of the
iteration. -/
def step (thread : USBReceiveThread) : Stepped :=
  match thread.lFrontOfQueue with
  | none =>
      match thread.mQueue with
      | [] => { thread := thread }
      | lFrontOfQueue :: rest =>
          { thread :=
              { thread with
                mQueue := rest
                lFrontOfQueue := some lFrontOfQueue } }
  | some lFrontOfQueue =>
      appendAndForward { thread with lFrontOfQueue := none } lFrontOfQueue

end USBReceiveThread

end CWUSB
