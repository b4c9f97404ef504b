import CWUSB.Library.LabelledMachine
import CWUSB.USBReader
import CWUSB.USBReceiveThread
import CWUSB.USBSendThread

/-!
# The loop of the USB reader

The thread `USBReader::StartReceiverThread` starts checks the device, reads,
writes, and reopens the device after errors.  XLink Kai's thread offers
payloads, the send and receive threads work on their queues, and the main
thread requests the stop, each in between two steps of the loop.  A step of
the loop reads or assigns `mStopRequest`, which the main thread also assigns,
at most once.
-/

namespace CWUSB

namespace USBReader

/-- The loop condition. -/
def continues (reader : USBReader) : Bool :=
  reader.mDeviceHandle.isSome ||
    (decide (reader.mRetryCounter > 0) && !reader.mStopRequest)

/-- The test in front of `HandleError`. -/
def needsReset (reader : USBReader) : Bool :=
  (reader.mError && decide (reader.mRetryCounter < reader.mMaxFatalRetries)) ||
    !reader.mUSBCheckSuccessful

/-- Count a failed read or write. -/
def countFailure (reader : USBReader) : USBReader :=
  { reader with
    mReadWriteRetryCounter := reader.mReadWriteRetryCounter + 1
    mError :=
      reader.mError ||
        decide (reader.mReadWriteRetryCounter + 1 >
          reader.mMaxReadWriteRetries) }

/-- What an iteration does with the result of its bulk read. -/
def handleRead (reader : USBReader) (lLength : Int) : Handled :=
  if lLength > 0 then
    { reader with mLength := lLength, mRetryCounter := 0 }.receiveCallback
  else if lLength = LIBUSB_ERROR_TIMEOUT ∨ lLength = LIBUSB_ERROR_BUSY then
    { reader := reader }
  else if reader.mDeviceHandle.isNone then
    { reader := { reader with mError := true } }
  else
    { reader := reader.countFailure }

/-- A change which leaves alone the stop request and whether a message is
being sent. -/
structure Undisturbed (reader next : USBReader) : Prop where
  stopRequest : next.mStopRequest = reader.mStopRequest
  sendStitching : next.mSendStitching = reader.mSendStitching

theorem Undisturbed.refl (reader : USBReader) : reader.Undisturbed reader :=
  ⟨rfl, rfl⟩

theorem Undisturbed.trans {first second third : USBReader}
    (before : first.Undisturbed second) (after : second.Undisturbed third) :
    first.Undisturbed third :=
  ⟨after.stopRequest.trans before.stopRequest,
    after.sendStitching.trans before.sendStitching⟩

/-- A field which handling a received command does not assign. -/
def KeptByCallback (field : USBReader → β) : Prop :=
  ∀ (reader : USBReader) (mReceiveStitching mError : Bool)
    (mLength mActualLength mStitchingLength : Int),
    field
        { reader with
          mReceiveStitching := mReceiveStitching
          mError := mError
          mLength := mLength
          mActualLength := mActualLength
          mStitchingLength := mStitchingLength } = field reader

section Callback

variable {field : USBReader → β} (kept : KeptByCallback field)
  (reader : USBReader)

include kept

theorem KeptByCallback.handleFirst (aLength : Int) :
    field (reader.handleFirst aLength).reader = field reader := by
  unfold USBReader.handleFirst
  dsimp only
  split
  · split
    · exact kept reader _ _ _ _ _
    · rfl
  · rfl

theorem KeptByCallback.receiveCallback :
    field reader.receiveCallback.reader = field reader := by
  by_cases message : reader.IsForAsynchronous
  · rw [receiveCallback_asynchronous message]
    refine (kept _ _ _ _ _ _).trans ?_
    unfold handleAsynchronous
    split
    · split
      · exact kept.handleFirst reader _
      · exact kept reader _ _ _ _ _
    · rfl
  · obtain ⟨mError, helloSent, handled⟩ := receiveCallback_other message
    rw [handled]
    exact kept reader _ _ _ _ _

end Callback

/-- A field which receiving does not assign. -/
def KeptByReceiving (field : USBReader → β) : Prop :=
  ∀ (reader : USBReader)
    (mTemporaryReceiveBuffer : FixedArray UInt8 cMaxUSBPacketSize)
    (mReceiveStitching mError : Bool)
    (mReadWriteRetryCounter mLength mActualLength mStitchingLength
      mRetryCounter : Int),
    field
        { reader with
          mTemporaryReceiveBuffer := mTemporaryReceiveBuffer
          mReceiveStitching := mReceiveStitching
          mError := mError
          mReadWriteRetryCounter := mReadWriteRetryCounter
          mLength := mLength
          mActualLength := mActualLength
          mStitchingLength := mStitchingLength
          mRetryCounter := mRetryCounter } = field reader

namespace KeptByReceiving

variable {field : USBReader → β} (kept : KeptByReceiving field)
  (reader : USBReader)

include kept

theorem callback : KeptByCallback field :=
  fun reader _ _ _ _ _ => kept reader _ _ _ _ _ _ _ _

theorem countFailure : field reader.countFailure = field reader :=
  kept reader _ _ _ _ _ _ _ _

theorem usbBulkRead (transfer : ReadTransfer) :
    field (reader.usbBulkRead transfer).2 = field reader := by
  unfold USBReader.usbBulkRead
  split
  · exact kept reader _ _ _ _ _ _ _ _
  · rfl

theorem handleRead (lLength : Int) :
    field (reader.handleRead lLength).reader = field reader := by
  unfold USBReader.handleRead
  split
  · exact (kept.callback.receiveCallback _).trans
      (kept reader _ _ _ _ _ _ _ _)
  · split
    · rfl
    · split
      · exact kept reader _ _ _ _ _ _ _ _
      · exact kept.countFailure reader

end KeptByReceiving

theorem undisturbed_of_kept {reader next : USBReader}
    (same : ∀ {β : Type} {field : USBReader → β}, KeptByReceiving field →
      field next = field reader) : reader.Undisturbed next :=
  ⟨same fun _ _ _ _ _ _ _ _ _ => rfl, same fun _ _ _ _ _ _ _ _ _ => rfl⟩

/-- `Open` changes nothing but the handle. -/
theorem openDevice_reader (reader : USBReader) (devices : DeviceList) :
    (reader.openDevice devices).reader =
      { reader with
        mDeviceHandle := (reader.openDevice devices).reader.mDeviceHandle } := by
  cases devices <;> rfl

theorem undisturbed_openDevice (reader : USBReader) (devices : DeviceList) :
    reader.Undisturbed (reader.openDevice devices).reader := by
  rw [openDevice_reader]
  exact ⟨rfl, rfl⟩

end USBReader

/-! ## The state of all threads -/

/-- The places from which the loop calls `HandleClose`. -/
inductive CloseSite where
  | stopBranch
  | errorReset
  | bailOut
deriving DecidableEq

/-- What the next step of the reader's thread will execute. -/
inductive ReaderPoint where
  | condition
  | stopTest
  | closeDevice (site : CloseSite)
  | clearStop (site : CloseSite)
  | checkDevice
  | errorTest
  | openDevice
  | resetFlags
  | clearSendQueues
  | clearReceiveQueues
  | resetRetries
  | read
  | sendTest
  | sendLoop
  | sendWrite (lFormattedPacket : BinaryStitchUSBPacket)
  | finished
deriving DecidableEq

/-- How far a stop has come: `Close` assigned `mStopRequest`, and an iteration
took the stop branch. -/
inductive StopPhase where
  | none
  | requested
  | taken
deriving DecidableEq

inductive ReaderEvent where
  | libusb (call : LibusbCall)
  /-- The hello of `USBCheckDevice`, with the bytes written. -/
  | hello (handle : DeviceHandle) (lLength : Int)
  /-- A call of `USBBulkRead`, with what that returned. -/
  | read (mDeviceHandle : Option DeviceHandle) (lLength : Int)
  /-- The hello sent back by `ReceiveCallback`. -/
  | helloReturned (handle : DeviceHandle)
  /-- A frame given to `USBBulkWrite`, with what that returned. -/
  | wrote (mDeviceHandle : Option DeviceHandle)
      (lFormattedPacket : BinaryStitchUSBPacket) (lReturn : Int)
  /-- A call of `HandleError`. -/
  | handleError
  | bailOut
  /-- A payload handed to `mConnection.Send`. -/
  | forwarded (payload : List UInt8)
deriving DecidableEq

structure ReaderLoop where
  reader : USBReader
  sendThread : USBSendThread
  receiveThread : USBReceiveThread
  loop : ReaderPoint := .condition
  stop : StopPhase := .none
  events : List ReaderEvent := []
deriving DecidableEq

/-- What libusb answers in one step of the loop. -/
structure UsbAnswers where
  hello : USBReader.WriteTransfer := { lError := 0, transferred := 4 }
  read : USBReader.ReadTransfer :=
    { lError := LIBUSB_ERROR_TIMEOUT, bytes := [], fits := Nat.zero_le _ }
  write : USBReader.WriteTransfer := { lError := 0, transferred := 512 }
  devices : DeviceList := .failed

namespace ReaderLoop

/-! ## The reader's thread -/

def goTo (state : ReaderLoop) (point : ReaderPoint) : ReaderLoop :=
  { state with loop := point }

def record (state : ReaderLoop) (events : List ReaderEvent) : ReaderLoop :=
  { state with events := state.events ++ events }

def setReader (state : ReaderLoop) (reader : USBReader) : ReaderLoop :=
  { state with reader := reader }

/-- Where a call of `HandleClose` goes on. -/
def afterClose : CloseSite → ReaderPoint
  | .stopBranch => .condition
  | .errorReset => .openDevice
  | .bailOut => .resetRetries

def checkDevice (state : ReaderLoop) (hello : USBReader.WriteTransfer) :
    ReaderLoop :=
  if state.reader.mUSBCheckSuccessful then state
  else
    (state.setReader
        { state.reader with
          mUSBCheckSuccessful := state.reader.usbCheckDevice hello }).record
      (state.reader.mDeviceHandle.toList.map fun handle =>
        .hello handle (state.reader.usbBulkWrite hello))

/-- The test behind the check of the device, and the call it leads to. -/
def errorTest (state : ReaderLoop) : ReaderLoop :=
  if state.reader.needsReset then
    (state.record [.handleError]).goTo (.closeDevice .errorReset)
  else if state.reader.mRetryCounter ≥ state.reader.mMaxFatalRetries then
    (state.record [.bailOut]).goTo (.closeDevice .bailOut)
  else state.goTo .read

/-- Hand the packet of a handled read, if any, to the receive thread, which
may refuse it unnoticed. -/
def deliver (state : ReaderLoop) (handled : Handled) : ReaderLoop :=
  { state with
    reader := handled.reader
    receiveThread :=
      match handled.queued with
      | none => state.receiveThread
      | some lPacket => (state.receiveThread.addToQueue lPacket).thread
    events :=
      state.events ++
        if handled.helloSent then
          handled.reader.mDeviceHandle.toList.map .helloReturned
        else [] }

/-- The read of an iteration, left out while a message is being sent. -/
def read (state : ReaderLoop) (transfer : USBReader.ReadTransfer) :
    ReaderLoop :=
  if state.reader.mSendStitching then state
  else
    let result := state.reader.usbBulkRead transfer
    (state.record [.read state.reader.mDeviceHandle result.1]).deliver
      (result.2.handleRead result.1)

/-- The head of the loop of `HandleAsynchronousSend`. -/
def sendHead (state : ReaderLoop) : ReaderLoop :=
  if !state.reader.mStopRequest && state.sendThread.hasOutgoingData then
    let popped := state.sendThread.popFromOutgoingQueue
    { state with
      reader := { state.reader with mSendStitching := popped.1.stitch }
      sendThread := popped.2
      loop := .sendWrite popped.1 }
  else state.goTo .condition

def sendWrite (state : ReaderLoop) (lFormattedPacket : BinaryStitchUSBPacket)
    (transfer : USBReader.WriteTransfer) : ReaderLoop :=
  let lReturn := state.reader.usbBulkWrite transfer
  (state.setReader
      (if lReturn = -1 then state.reader.countFailure
        else state.reader)).record
    [.wrote state.reader.mDeviceHandle lFormattedPacket lReturn]

/-! ## What the parts of a step leave alone -/

theorem checkDevice_undisturbed (state : ReaderLoop)
    (hello : USBReader.WriteTransfer) :
    state.reader.Undisturbed (state.checkDevice hello).reader := by
  unfold checkDevice
  split <;> exact ⟨rfl, rfl⟩

theorem checkDevice_others (state : ReaderLoop)
    (hello : USBReader.WriteTransfer) :
    (state.checkDevice hello).reader.mReceiveStitching =
        state.reader.mReceiveStitching ∧
      (state.checkDevice hello).sendThread = state.sendThread ∧
      (state.checkDevice hello).stop = state.stop := by
  unfold checkDevice
  split <;> exact ⟨rfl, rfl, rfl⟩

theorem read_kept {field : USBReader → β}
    (kept : USBReader.KeptByReceiving field) (state : ReaderLoop)
    (transfer : USBReader.ReadTransfer) :
    field (state.read transfer).reader = field state.reader := by
  unfold read
  split
  · rfl
  · exact (kept.handleRead _ _).trans (kept.usbBulkRead _ _)

theorem read_undisturbed (state : ReaderLoop)
    (transfer : USBReader.ReadTransfer) :
    state.reader.Undisturbed (state.read transfer).reader :=
  USBReader.undisturbed_of_kept fun kept => read_kept kept state transfer

theorem read_others (state : ReaderLoop)
    (transfer : USBReader.ReadTransfer) :
    (state.read transfer).sendThread = state.sendThread ∧
      (state.read transfer).stop = state.stop := by
  unfold read
  split <;> exact ⟨rfl, rfl⟩

theorem sendWrite_kept {field : USBReader → β}
    (kept : USBReader.KeptByReceiving field) (state : ReaderLoop)
    (lFormattedPacket : BinaryStitchUSBPacket)
    (transfer : USBReader.WriteTransfer) :
    field (state.sendWrite lFormattedPacket transfer).reader =
      field state.reader := by
  unfold sendWrite
  dsimp only [record, setReader]
  split
  · exact kept.countFailure state.reader
  · rfl

theorem sendWrite_undisturbed (state : ReaderLoop)
    (lFormattedPacket : BinaryStitchUSBPacket)
    (transfer : USBReader.WriteTransfer) :
    state.reader.Undisturbed
      (state.sendWrite lFormattedPacket transfer).reader :=
  USBReader.undisturbed_of_kept fun kept =>
    sendWrite_kept kept state lFormattedPacket transfer

theorem sendWrite_mReceiveStitching (state : ReaderLoop)
    (lFormattedPacket : BinaryStitchUSBPacket)
    (transfer : USBReader.WriteTransfer) :
    (state.sendWrite lFormattedPacket transfer).reader.mReceiveStitching =
      state.reader.mReceiveStitching := by
  unfold sendWrite
  dsimp only [record, setReader]
  split <;> rfl

/-- One step of the reader's thread. -/
def readerStep (state : ReaderLoop) (answers : UsbAnswers) : ReaderLoop :=
  match state.loop with
  | .condition =>
      state.goTo (if state.reader.continues then .stopTest else .finished)
  | .stopTest =>
      if state.reader.mStopRequest then
        { state with stop := .taken, loop := .closeDevice .stopBranch }
      else state.goTo .checkDevice
  | .closeDevice site =>
      ((state.setReader state.reader.closeDevice).record
        (state.reader.closeCalls.map .libusb)).goTo (.clearStop site)
  | .clearStop site =>
      (state.setReader state.reader.clearStopRequest).goTo (afterClose site)
  | .checkDevice => (state.checkDevice answers.hello).goTo .errorTest
  | .errorTest => state.errorTest
  | .openDevice =>
      let opened := state.reader.openDevice answers.devices
      ((state.setReader opened.reader).record
        (opened.calls.map .libusb)).goTo .resetFlags
  | .resetFlags =>
      (state.setReader state.reader.resetFlags).goTo .clearSendQueues
  | .clearSendQueues =>
      { state with
        sendThread := state.sendThread.clearQueues
        loop := .clearReceiveQueues }
  | .clearReceiveQueues =>
      { state with
        receiveThread := state.receiveThread.clearQueues
        loop := .read }
  | .resetRetries =>
      (state.setReader { state.reader with mRetryCounter := 0 }).goTo .read
  | .read => (state.read answers.read).goTo .sendTest
  | .sendTest =>
      state.goTo
        (if state.reader.mReceiveStitching then .condition else .sendLoop)
  | .sendLoop => state.sendHead
  | .sendWrite lFormattedPacket =>
      (state.sendWrite lFormattedPacket answers.write).goTo .sendLoop
  | .finished => state

/-! ## All threads -/

inductive Action where
  | reader (answers : UsbAnswers)
  /-- `Send` from XLink Kai's thread.  It is the only one which adds to the
  queue, so that a size check made earlier still holds at the push. -/
  | addToQueue (aData : List UInt8)
  | sendThread
  | receiveThread
  /-- The assignment of `Close`, which then waits for the thread to end. -/
  | requestStop

def step (state : ReaderLoop) : Action → Option ReaderLoop
  | .reader answers => some (state.readerStep answers)
  | .addToQueue aData =>
      some
        { state with
          sendThread := (state.sendThread.addToQueue aData).thread }
  | .sendThread =>
      some { state with sendThread := state.sendThread.step.thread }
  | .receiveThread =>
      let stepped := state.receiveThread.step
      some
        { state with
          receiveThread := stepped.thread
          events := state.events ++ stepped.sent.toList.map .forwarded }
  | .requestStop =>
      if state.stop = .none then
        some
          { state with
            reader := { state.reader with mStopRequest := true }
            stop := .requested }
      else none

def machine : LabelledMachine ReaderLoop Action := ⟨step⟩

/-- After `StartReceiverThread`. -/
def start (reader : USBReader) (mMaxBufferedMessages : Int) : ReaderLoop :=
  { reader := reader
    sendThread := { mMaxBufferSize := mMaxBufferedMessages }
    receiveThread := { mMaxBufferSize := mMaxBufferedMessages } }

/-- A reader after construction and a successful `Open`. -/
def openedReader : USBReader :=
  { mMaxFatalRetries := 5
    mMaxReadWriteRetries := 60
    mDeviceHandle := some 0 }

/-- The hello fails, and the device can be opened again. -/
def helloFails : UsbAnswers :=
  { hello := { lError := -1, transferred := 0 }
    devices := .onePSP 1 }

end ReaderLoop

end CWUSB
