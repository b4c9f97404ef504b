import CWUSB.USBConstants

/-!
# The USB reader

`USBReader` owns the device handle, the receive buffer and the flags of both
directions.  Its member functions are modelled on the fields they touch; what
libusb answers is an argument, and what a function hands to the receive
thread or asks of libusb is part of its result.  The loop of its thread is a
machine of its own.
-/

namespace CWUSB

abbrev cPSPVID : Nat := 0x54C
abbrev cPSPPID : Nat := 0x1C9

abbrev LIBUSB_ERROR_BUSY : Int := -6
abbrev LIBUSB_ERROR_TIMEOUT : Int := -7

/-- A device handle, as a fresh number for each successful `libusb_open`. -/
abbrev DeviceHandle : Type := Nat

structure USBReader where
  mMaxFatalRetries : Int
  mMaxReadWriteRetries : Int
  mReadWriteRetryCounter : Int := 0
  mReceiveStitching : Bool := false
  mTemporaryReceiveBuffer : FixedArray UInt8 cMaxUSBPacketSize := .fill _ 0
  mStopRequest : Bool := false
  mSendStitching : Bool := false
  mDeviceHandle : Option DeviceHandle := none
  mError : Bool := false
  mLength : Int := 0
  mActualLength : Int := 0
  mStitchingLength : Int := 0
  mRetryCounter : Int := 0
  mUSBCheckSuccessful : Bool := false
deriving DecidableEq

/-- A reader after construction. -/
def USBReader.newReader : USBReader :=
  { mMaxFatalRetries := 5
    mMaxReadWriteRetries := 60 }

/-! ## Receiving -/

/-- The 32-bit field at an offset of a received frame. -/
def wordAt (buffer : FixedArray UInt8 cMaxUSBPacketSize)
    (offset : Nat) : Nat :=
  bytesWord (buffer.slice offset 4)

/-- The mode of a `DebugPrint` sub-header, 0 when there is none.  Comparing
the signed length with an unsigned constant converts it first. -/
def isDebugPrintCommand (aData : FixedArray UInt8 cMaxUSBPacketSize)
    (aLength : Int) : Nat :=
  if toUnsigned aLength > cAsyncHeaderAndSubHeaderSize then
    if wordAt aData 8 = DebugPrint then
      if wordAt aData 12 = cAsyncModePacket ∧
          wordAt aData 20 = cAsyncCommandSendPacket then
        cAsyncModePacket
      else if wordAt aData 12 = cAsyncModeDebug then
        cAsyncModeDebug
      else 0
    else 0
  else 0

/-- What handling received bytes leaves behind: the reader, the packet handed
to `USBReceiveThread::AddToQueue`, whether a hello was sent back, and the
copies out of the receive buffer. -/
structure Handled where
  reader : USBReader
  queued : Option BinaryStitchUSBPacket := none
  helloSent : Bool := false
  copies : List BlockCopy := []

namespace USBReader

/-- The packet filled from the receive buffer behind a header. -/
def packetFrom (reader : USBReader) (offset length : Nat)
    (stitch : Bool) : BinaryStitchUSBPacket :=
  { data :=
      BinaryStitchUSBPacket.zero.data.overwrite 0
        (reader.mTemporaryReceiveBuffer.slice offset
          (UInt16.ofNat length).toNat)
    length := UInt16.ofNat length
    stitch := stitch }

def packetCopy (offset length : Nat) : BlockCopy :=
  { targetSize := cMaxUSBPacketSize
    targetOffset := 0
    sourceSize := cMaxUSBPacketSize
    sourceOffset := offset
    count := (UInt16.ofNat length).toNat }

/-- Reading bytes of the receive buffer into a fresh string. -/
def stringCopy (offset length : Nat) : BlockCopy :=
  { targetSize := length
    targetOffset := 0
    sourceSize := cMaxUSBPacketSize
    sourceOffset := offset
    count := length }

/-- The branch of `HandleAsynchronous` for the first frame of a message. -/
def handleFirst (reader : USBReader) (aLength : Int) : Handled :=
  let aData := reader.mTemporaryReceiveBuffer
  let lPacketMode := isDebugPrintCommand aData aLength
  if lPacketMode > 0 then
    let lLength := toUnsigned (aLength - cAsyncHeaderAndSubHeaderSize)
    if lPacketMode = cAsyncModePacket then
      let lActualPacketLength := toSigned (wordAt aData 16)
      -- The signed size is converted before it is compared.
      let lStitch :=
        decide (toUnsigned lActualPacketLength >
          cMaxUSBPacketSize - cAsyncHeaderAndSubHeaderSize)
      let lPacket :=
        reader.packetFrom cAsyncHeaderAndSubHeaderSize lLength lStitch
      { reader :=
          { reader with
            mActualLength := lActualPacketLength
            mReceiveStitching := lStitch
            mStitchingLength :=
              if lStitch then lPacket.length.toNat
              else reader.mStitchingLength }
        queued := some lPacket
        copies := [packetCopy cAsyncHeaderAndSubHeaderSize lLength] }
    else
      -- Debug output of the PSP is only logged.
      { reader := reader
        copies := [stringCopy cAsyncHeaderAndSubHeaderSize lLength] }
  else
    { reader := reader
      copies := [stringCopy 0 (toSize reader.mLength)] }

/-- The branch of `HandleAsynchronous` for a further frame of a message. -/
def handleContinuation (reader : USBReader) (aLength : Int) : Handled :=
  let lLength := toUnsigned (aLength - cAsyncHeaderSize)
  let lStitchingLength :=
    toSigned (toUnsigned reader.mStitchingLength + lLength : Nat)
  let lStitch :=
    decide (toUnsigned aLength > cMaxUSBPacketSize - cAsyncHeaderSize) &&
      decide (lStitchingLength < reader.mActualLength)
  let lPacket := reader.packetFrom cAsyncHeaderSize lLength lStitch
  { reader :=
      { reader with
        mReceiveStitching := lStitch
        mStitchingLength := if lStitch then lStitchingLength else 0 }
    queued := some lPacket
    copies := [packetCopy cAsyncHeaderSize lLength] }

def handleAsynchronous (reader : USBReader) (aLength : Int) : Handled :=
  if wordAt reader.mTemporaryReceiveBuffer 4 = cAsyncUserChannel then
    if !reader.mReceiveStitching then reader.handleFirst aLength
    else reader.handleContinuation aLength
  else
    { reader := reader }

/-- Handles a received command by its magic; commands shorter than a HostFS
header are dropped. -/
def receiveCallback (reader : USBReader) : Handled :=
  let handled : Handled :=
    if toUnsigned reader.mLength ≥ cHostFSHeaderSize then
      if wordAt reader.mTemporaryReceiveBuffer 0 = HostFS then
        if wordAt reader.mTemporaryReceiveBuffer 4 = Hello then
          { reader := reader, helloSent := true }
        else
          { reader := { reader with mError := true } }
      else if wordAt reader.mTemporaryReceiveBuffer 0 = Asynchronous then
        reader.handleAsynchronous reader.mLength
      else
        { reader := reader }
    else
      { reader := reader }
  { handled with reader := { handled.reader with mLength := 0 } }

/-- The received command is given to `HandleAsynchronous`. -/
def IsForAsynchronous (reader : USBReader) : Prop :=
  toUnsigned reader.mLength ≥ cHostFSHeaderSize ∧
    wordAt reader.mTemporaryReceiveBuffer 0 = Asynchronous

theorem receiveCallback_asynchronous {reader : USBReader}
    (message : reader.IsForAsynchronous) :
    reader.receiveCallback =
      { reader.handleAsynchronous reader.mLength with
        reader :=
          { (reader.handleAsynchronous reader.mLength).reader with
            mLength := 0 } } := by
  obtain ⟨long, magic⟩ := message
  have notHostFS : ¬ Asynchronous = HostFS := by decide
  unfold receiveCallback
  rw [if_pos long, magic, if_neg notHostFS, if_pos rfl]

/-- Any other command queues nothing. -/
theorem receiveCallback_other {reader : USBReader}
    (other : ¬ reader.IsForAsynchronous) :
    ∃ mError helloSent, reader.receiveCallback =
      { reader := { reader with mError := mError, mLength := 0 }
        helloSent := helloSent } := by
  unfold receiveCallback
  split
  · next long =>
      have otherMagic : ¬ wordAt reader.mTemporaryReceiveBuffer 0 =
          Asynchronous := fun magic => other ⟨long, magic⟩
      rw [if_neg otherMagic]
      split
      · split
        · exact ⟨_, _, rfl⟩
        · exact ⟨_, _, rfl⟩
      · exact ⟨_, _, rfl⟩
  · exact ⟨_, _, rfl⟩

/-! ## Bulk transfers -/

/-- What a bulk read did: the error code, and the bytes it left at the start
of the receive buffer. -/
structure ReadTransfer where
  lError : Int
  bytes : List UInt8
  fits : bytes.length ≤ cMaxUSBPacketSize

structure WriteTransfer where
  lError : Int
  transferred : Int

/-- The receive buffer after a transfer; bytes behind it are stale. -/
def fillBuffer (reader : USBReader) (bytes : List UInt8) : USBReader :=
  { reader with
    mTemporaryReceiveBuffer :=
      reader.mTemporaryReceiveBuffer.overwrite 0 bytes }

def usbBulkRead (reader : USBReader) (transfer : ReadTransfer) :
    Int × USBReader :=
  if reader.mDeviceHandle.isSome then
    (if transfer.lError ≠ 0 then transfer.lError
      else (transfer.bytes.length : Int),
      reader.fillBuffer transfer.bytes)
  else
    (-1, reader)

def usbBulkWrite (reader : USBReader) (transfer : WriteTransfer) : Int :=
  if reader.mDeviceHandle.isSome then
    if transfer.lError < 0 then -1 else transfer.transferred
  else -1

def usbCheckDevice (reader : USBReader) (transfer : WriteTransfer) : Bool :=
  if reader.mDeviceHandle.isSome then
    decide (reader.usbBulkWrite transfer = 4)
  else true

end USBReader

/-! ## Opening and closing the device -/

/-- What libusb answers about one device of the list. -/
structure DeviceAnswers where
  descriptorResult : Int
  idVendor : Nat
  idProduct : Nat
  openResult : Int
  /-- The handle a successful `libusb_open` stores; a failing one leaves the
  out-parameter alone. -/
  handle : DeviceHandle
  setConfigurationResult : Int
  claimInterfaceResult : Int

/-- What `libusb_get_device_list` answers. -/
inductive DeviceList where
  | failed
  | listed (devices : List DeviceAnswers)

/-- A single PSP for which every call succeeds. -/
def DeviceList.onePSP (handle : DeviceHandle) : DeviceList :=
  .listed
    [{ descriptorResult := 0
       idVendor := cPSPVID
       idProduct := cPSPPID
       openResult := 0
       handle := handle
       setConfigurationResult := 0
       claimInterfaceResult := 0 }]

/-- The calls `Open` and `HandleClose` make, with the position of the device
or the handle they are about. -/
inductive LibusbCall where
  | getDeviceList
  | readDevice (lCount : Nat)
  | getDeviceDescriptor (lCount : Nat)
  | openDevice (lCount : Nat) (opened : Option DeviceHandle)
  | freeDeviceList
  | setAutoDetachKernelDriver (handle : DeviceHandle)
  | setConfiguration (handle : DeviceHandle)
  | claimInterface (handle : DeviceHandle)
  | resetDevice (handle : DeviceHandle)
  | releaseInterface (handle : DeviceHandle)
  | attachKernelDriver (handle : DeviceHandle)
  | closeDevice (handle : DeviceHandle)
deriving DecidableEq

/-- The locals of `Open` after one iteration, and the calls it made. -/
structure OpenIteration where
  mDeviceHandle : Option DeviceHandle
  lDeviceHandle : Option DeviceHandle
  calls : List LibusbCall

/-- Configure and claim a device which was opened. -/
def claimOpened (device : DeviceAnswers) (handle : DeviceHandle) :
    OpenIteration :=
  if device.setConfigurationResult ≥ 0 then
    if device.claimInterfaceResult = 0 then
      { mDeviceHandle := some handle
        lDeviceHandle := some handle
        calls :=
          [.setAutoDetachKernelDriver handle, .setConfiguration handle,
            .claimInterface handle] }
    else
      { mDeviceHandle := none
        lDeviceHandle := some handle
        calls :=
          [.setAutoDetachKernelDriver handle, .setConfiguration handle,
            .claimInterface handle, .closeDevice handle] }
  else
    { mDeviceHandle := none
      lDeviceHandle := some handle
      calls :=
        [.setAutoDetachKernelDriver handle, .setConfiguration handle,
          .closeDevice handle] }

/-- One iteration of the loop of `Open`, entered without a device handle. -/
def openIteration (device : DeviceAnswers) (lCount : Nat)
    (lDeviceHandle : Option DeviceHandle) : OpenIteration :=
  let query := [LibusbCall.readDevice lCount, .getDeviceDescriptor lCount]
  if device.descriptorResult ≥ 0 then
    if device.idVendor = cPSPVID ∧ device.idProduct = cPSPPID then
      let lOpened :=
        if device.openResult ≥ 0 then some device.handle else lDeviceHandle
      let calls := query ++ [.openDevice lCount
        (if device.openResult ≥ 0 then some device.handle else none),
        .freeDeviceList]
      match lOpened with
      | some handle =>
          if device.openResult ≥ 0 then
            let claimed := claimOpened device handle
            { claimed with calls := calls ++ claimed.calls }
          else
            { mDeviceHandle := none
              lDeviceHandle := some handle
              calls := calls }
      | none =>
          { mDeviceHandle := none, lDeviceHandle := none, calls := calls }
    else
      { mDeviceHandle := none
        lDeviceHandle := lDeviceHandle
        calls := query }
  else
    { mDeviceHandle := none
      lDeviceHandle := lDeviceHandle
      calls := query ++ [.freeDeviceList] }

/-- The loop of `Open`; it stops at the first device that could be claimed. -/
def openLoop : List DeviceAnswers → Nat → Option DeviceHandle →
    Option DeviceHandle → Option DeviceHandle × List LibusbCall
  | [], _, mDeviceHandle, _ => (mDeviceHandle, [])
  | device :: devices, lCount, mDeviceHandle, lDeviceHandle =>
      match mDeviceHandle with
      | some handle => (some handle, [])
      | none =>
          let iteration := openIteration device lCount lDeviceHandle
          let rest := openLoop devices (lCount + 1) iteration.mDeviceHandle
            iteration.lDeviceHandle
          (rest.1, iteration.calls ++ rest.2)

theorem openLoop_some (devices : List DeviceAnswers) (lCount : Nat)
    (handle : DeviceHandle) (lDeviceHandle : Option DeviceHandle) :
    openLoop devices lCount (some handle) lDeviceHandle =
      (some handle, []) := by
  cases devices <;> rfl

namespace USBReader

structure Opened where
  reader : USBReader
  lReturn : Bool
  calls : List LibusbCall

/-- `Open`. -/
def openDevice (reader : USBReader) (devices : DeviceList) : Opened :=
  match devices with
  | .failed =>
      { reader := reader
        lReturn := reader.mDeviceHandle.isSome
        calls := [.getDeviceList] }
  | .listed devices =>
      let result := openLoop devices 0 reader.mDeviceHandle none
      { reader := { reader with mDeviceHandle := result.1 }
        lReturn := result.1.isSome
        calls := .getDeviceList :: result.2 }

/-- The calls which give up the open device. -/
def closeCalls (reader : USBReader) : List LibusbCall :=
  match reader.mDeviceHandle with
  | none => []
  | some handle =>
      [.resetDevice handle, .releaseInterface handle,
        .attachKernelDriver handle, .closeDevice handle]

/-- The first half of `HandleClose`, which gives up the device. -/
def closeDevice (reader : USBReader) : USBReader :=
  { reader with mDeviceHandle := none }

/-- The last line of `HandleClose`. -/
def clearStopRequest (reader : USBReader) : USBReader :=
  { reader with mStopRequest := false }

def handleClose (reader : USBReader) : USBReader :=
  reader.closeDevice.clearStopRequest

/-- The assignments of `HandleError` between reopening the device and
clearing the queues of the two threads. -/
def resetFlags (reader : USBReader) : USBReader :=
  { reader with
    mRetryCounter := reader.mRetryCounter + 1
    mError := false
    mUSBCheckSuccessful := false
    mReceiveStitching := false
    mSendStitching := false }

/-- `HandleError` without the queues, which belong to the threads. -/
def handleError (reader : USBReader) (devices : DeviceList) : USBReader :=
  (reader.handleClose.openDevice devices).reader.resetFlags

end USBReader

end CWUSB
