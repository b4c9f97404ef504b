import CWUSB.Library.Memory

/-!
# The connection to XLink Kai

`XLinkKaiConnection` speaks a text protocol over UDP.  Strings are lists of
bytes, and `substr` throws as the standard library's does.  What the clock
and the network answer is an argument.  `ReceiveCallback` is cut where other
threads can change `mConnected` in between; the loop of the receiver thread
is a machine of its own.
-/

namespace CWUSB

/-! ## `XLinkKai_Constants` -/

/-- The bytes of a string literal. -/
def literal (text : String) : List UInt8 :=
  text.toList.map fun character => UInt8.ofNat character.toNat

@[simp] abbrev cMaxLength : Nat := 4096

abbrev cIp : String := "127.0.0.1"
abbrev cPort : Nat := 34523

def cSeparator : List UInt8 := literal ";"
def cKeepAliveFormat : List UInt8 := literal "keepalive"
def cConnectFormat : List UInt8 := literal "connect"
def cConnectedFormat : List UInt8 := literal "connected"
def cDisconnectFormat : List UInt8 := literal "disconnect"
def cDisconnectedFormat : List UInt8 := literal "disconnected"
def cSetESSIDFormat : List UInt8 := literal "setessid"
def cEthernetDataFormat : List UInt8 := literal "e"
def cEthernetDataMetaFormat : List UInt8 := literal "d"
def cSettingFormat : List UInt8 := literal "setting"
def cSettingDDSOnly : List UInt8 := literal "ddsonly"
def cLocallyUniqueName : List UInt8 := literal "CWUSB_Device"
def cEmulatorName : List UInt8 := literal "CWUSB"

/-- Durations are counted in nanoseconds. -/
abbrev cConnectionTimeout : Int := 10000000000
abbrev cKeepAliveTimeout : Int := 60000000000

def cConnectString : List UInt8 :=
  cConnectFormat ++ cSeparator ++ cLocallyUniqueName ++ cSeparator ++
    cEmulatorName ++ cSeparator

def cConnectedString : List UInt8 :=
  cConnectedFormat ++ cSeparator ++ cLocallyUniqueName

def cDisconnectedString : List UInt8 :=
  cDisconnectedFormat ++ cSeparator ++ cLocallyUniqueName

def cDisconnectString : List UInt8 := cDisconnectFormat ++ cSeparator

def cKeepAliveString : List UInt8 := cKeepAliveFormat ++ cSeparator

def cEthernetDataString : List UInt8 :=
  cEthernetDataFormat ++ cSeparator ++ cEthernetDataFormat ++ cSeparator

def cEthernetDataMetaString : List UInt8 :=
  cEthernetDataFormat ++ cSeparator ++ cEthernetDataMetaFormat ++ cSeparator

def cSettingDDSOnlyString : List UInt8 :=
  cSettingFormat ++ cSeparator ++ cSettingDDSOnly ++ cSeparator ++
    literal "true"

def cSetESSIDString : List UInt8 :=
  cEthernetDataMetaString ++ cSetESSIDFormat ++ cSeparator

/-! ## Strings -/

inductive StringException where
  | outOfRange
deriving DecidableEq

/-- `substr`, which throws when the position lies behind the end. -/
def substr (text : List UInt8) (position count : Nat) :
    Except StringException (List UInt8) :=
  if position ≤ text.length then .ok ((text.drop position).take count)
  else .error .outOfRange

/-- `substr` up to the end of the string. -/
def substrFrom (text : List UInt8) (position : Nat) :
    Except StringException (List UInt8) :=
  substr text position text.length

/-- `find(cSeparator) + 1`; without a separator `npos + 1` wraps to 0. -/
def behindFirstSeparator (text : List UInt8) : Nat :=
  match text.findIdx? fun byte => [byte] == cSeparator with
  | some lFirstSeparator => lFirstSeparator + 1
  | none => 0

/-! ## The connection -/

structure Endpoint where
  address : String
  port : UInt16
deriving DecidableEq

/-- `ip::udp::endpoint` takes the port as an `unsigned short`, so that of a
larger number only the last 16 bits are left. -/
def Endpoint.of (address : String) (port : Nat) : Endpoint :=
  { address := address, port := .ofNat port }

structure XLinkKaiConnection where
  mConnected : Bool := false
  mConnectInitiated : Bool := false
  mSettingsSent : Bool := false
  mConnectionTimerStart : Int := 0
  mKeepAliveTimerStart : Int := 0
  mData : FixedArray UInt8 cMaxLength := .fill _ 0
  mEthernetData : List UInt8 := []
  /-- Whether `mIncomingConnection` is set. -/
  mIncomingConnection : Bool := false
  mIp : String := cIp
  mPort : Nat := cPort
  mRemote : Option Endpoint := none
  /-- Whether `mSocket` is open. -/
  mSocketOpen : Bool := false
deriving DecidableEq

namespace XLinkKaiConnection

/-! ## Sending -/

structure Sent where
  connection : XLinkKaiConnection
  lReturn : Bool
  transmitted : Option (List UInt8) := none

/-- `Send`; the last argument says whether `send_to` throws. -/
def send (connection : XLinkKaiConnection) (aCommand aData : List UInt8)
    (fails : Bool) : Sent :=
  if connection.mSocketOpen then
    if connection.mConnected || aCommand == cConnectString ||
        aCommand == cDisconnectString then
      if fails then { connection := connection, lReturn := false }
      else
        { connection := connection
          lReturn := true
          transmitted := some (aCommand ++ aData) }
    else
      -- No other messages before XLink Kai has connected.
      { connection := connection, lReturn := false }
  else
    { connection := { connection with mConnected := false }
      lReturn := false }

/-- `Connect`. -/
def connect (connection : XLinkKaiConnection) (now : Int) (fails : Bool) :
    Sent :=
  let sent := connection.send cConnectString [] fails
  if sent.lReturn then
    { sent with
      connection :=
        { sent.connection with
          mConnectInitiated := true
          mConnectionTimerStart := now } }
  else sent

/-- The socket half of `Open`; the last argument says whether opening the
socket throws. -/
def openSocket (connection : XLinkKaiConnection) (aIp : String)
    (aPort : Nat) (fails : Bool) : XLinkKaiConnection :=
  let lRemote : Endpoint :=
    if aIp.isEmpty then .of cIp cPort else .of aIp aPort
  if fails then { connection with mRemote := some lRemote }
  else
    { connection with
      mRemote := some lRemote
      mSocketOpen := true
      mIp := aIp
      mPort := aPort }

/-! ## `ReceiveCallback` -/

/-- A received datagram lies at the start of `mData`. -/
def receive (connection : XLinkKaiConnection) (datagram : List UInt8) :
    XLinkKaiConnection :=
  { connection with mData := connection.mData.overwrite 0 datagram }

structure Confirmation where
  lCommand : List UInt8
  confirmed : Bool
deriving DecidableEq

/-- The test for a connection confirmation, with the command as it is left
for the tests behind it. -/
def testConfirmation (mConnected : Bool) (lData : List UInt8) :
    Except StringException Confirmation := do
  let lCommand ← substr lData 0 (behindFirstSeparator lData)
  if !mConnected && lCommand == cConnectedFormat ++ cSeparator then
    let lCommand ← substr lData 0 cConnectedString.length
    return { lCommand, confirmed := lCommand == cConnectedString }
  else
    return { lCommand, confirmed := false }

/-- What a message asks for while connected. -/
inductive Reaction where
  | nothing
  | keepAlive
  | ethernetData (mEthernetData : List UInt8)
  | disconnected
deriving DecidableEq

/-- The tests of the message types, with the slices taken for the log. -/
def react (mIncomingConnection : Bool) (lCommand lData : List UInt8) :
    Except StringException Reaction := do
  if lCommand == cKeepAliveString then
    return .keepAlive
  else if lCommand == cEthernetDataFormat ++ cSeparator then
    let lCommand ← substr lData 0 cEthernetDataString.length
    let _logged ← substrFrom lData cEthernetDataString.length
    if lCommand == cEthernetDataString then
      if mIncomingConnection then
        let mEthernetData ← substr lData cEthernetDataString.length
          (lData.length - cEthernetDataString.length)
        return .ethernetData mEthernetData
      else
        return .nothing
    else if lCommand == cEthernetDataMetaString then
      let lFormat ← substr lData cEthernetDataMetaString.length
        cSetESSIDFormat.length
      if lFormat == cSetESSIDFormat then
        let _logged ← substrFrom lData cSetESSIDString.length
        return .nothing
      else
        return .nothing
    else
      return .nothing
  else if lCommand == cDisconnectedFormat ++ cSeparator then
    let lCommand ← substr lData 0 cDisconnectedString.length
    if lCommand == cDisconnectedString then return .disconnected
    else return .nothing
  else
    return .nothing

/-- What handling a datagram leaves behind: the connection, what was sent
back, and what was handed to `mIncomingConnection->Send`. -/
structure Received where
  connection : XLinkKaiConnection
  transmitted : Option (List UInt8) := none
  forwarded : Option (List UInt8) := none
deriving DecidableEq

def act (connection : XLinkKaiConnection) (fails : Bool) :
    Reaction → Received
  | .nothing => { connection := connection }
  | .keepAlive =>
      let sent := connection.send cKeepAliveString [] fails
      { connection := sent.connection, transmitted := sent.transmitted }
  | .ethernetData mEthernetData =>
      { connection := { connection with mEthernetData := mEthernetData }
        forwarded := some mEthernetData }
  | .disconnected =>
      { connection := { connection with mConnected := false } }

/-- The part of `ReceiveCallback` for messages while connected. -/
def dispatch (connection : XLinkKaiConnection) (lCommand lData : List UInt8)
    (fails : Bool) : Except StringException Received :=
  (react connection.mIncomingConnection lCommand lData).map
    (connection.act fails)

/-- The assignments which follow a connection confirmation. -/
def confirm (connection : XLinkKaiConnection) : XLinkKaiConnection :=
  { connection with mConnectInitiated := false, mConnected := true }

/-- Restart the keepalive timer. -/
def tickle (connection : XLinkKaiConnection) (now : Int) :
    XLinkKaiConnection :=
  { connection with mKeepAliveTimerStart := now }

/-- `ReceiveCallback` without the next `async_receive_from`. -/
def receiveCallback (connection : XLinkKaiConnection) (aBytesReceived : Nat)
    (now : Int) (fails : Bool) : Except StringException Received := do
  let lData := connection.mData.slice 0 aBytesReceived
  if lData.isEmpty then
    return { connection }
  else
    let connection := connection.tickle now
    let confirmation ← testConfirmation connection.mConnected lData
    let connection :=
      if confirmation.confirmed then connection.confirm else connection
    if connection.mConnected then
      connection.dispatch confirmation.lCommand lData fails
    else
      return { connection }

/-! ## Closing -/

/-- `Close`, without the receiver thread. -/
def close (connection : XLinkKaiConnection) (fails : Bool) : Received :=
  if connection.mConnected || connection.mConnectInitiated then
    let sent := connection.send cDisconnectString [] fails
    { connection :=
        { sent.connection with
          mConnected := false
          mConnectInitiated := false
          mSocketOpen := false }
      transmitted := sent.transmitted }
  else { connection := { connection with mSocketOpen := false } }

end XLinkKaiConnection

end CWUSB
