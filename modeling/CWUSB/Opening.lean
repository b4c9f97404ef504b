import CWUSB.DeviceHandles
import CWUSB.Lifecycle

/-!
# Opening both connections

`main` opens the socket to XLink Kai and the device of the PSP in a loop, each
as often as it fails, until both are open or a signal ends the program.  What
failed is closed again before the next try, and what succeeded is left alone.
-/

namespace CWUSB

/-- The exceptions which leave the loop, and end the process. -/
inductive OpeningException where
  | port (exception : DecimalText.ReadException)
  | address
deriving DecidableEq

/-- What the loop is given: the settings, and which addresses
`ip::address::from_string` can read. -/
structure OpenSettings where
  mXLinkIp : String := cIp
  mXLinkPort : List UInt8 := literal "34523"
  fromString : String → Bool

/-- Without an address the default one is used. -/
def OpenSettings.lIp (settings : OpenSettings) : String :=
  if settings.mXLinkIp.isEmpty then cIp else settings.mXLinkIp

/-- What the network and libusb answer in an iteration. -/
structure OpenAnswers where
  socketFails : Bool := false
  devices : DeviceList := .failed

/-- The locals of `main` in the loop. -/
structure Opening where
  connection : XLinkKaiConnection := {}
  device : DeviceUse
  lSuccess : Bool := false
  lUSBSuccess : Bool := false
deriving DecidableEq

namespace Opening

/-- `Open` of the connection, with the address it reads first. -/
def openConnection (connection : XLinkKaiConnection)
    (settings : OpenSettings) (fails : Bool) :
    Except OpeningException XLinkKaiConnection :=
  match DecimalText.stoi settings.mXLinkPort with
  | .error exception => .error (.port exception)
  | .ok port =>
      if settings.fromString settings.lIp then
        .ok (connection.openSocket settings.mXLinkIp (toUnsigned port) fails)
      else .error .address

/-- The half of an iteration for XLink Kai. -/
def openKai (opening : Opening) (settings : OpenSettings) (fails : Bool) :
    Except OpeningException Opening :=
  if opening.lSuccess then .ok opening
  else
    (openConnection opening.connection settings fails).map fun connection =>
      { opening with
        connection :=
          if fails then (connection.close false).connection else connection
        lSuccess := !fails }

/-- The half of an iteration for the PSP.  Without threads `Close` is
`HandleClose`. -/
def openUSB (opening : Opening) (devices : DeviceList) : Opening :=
  if opening.lUSBSuccess then opening
  else
    let device := opening.device.step (.openDevice devices)
    if (opening.device.reader.openDevice devices).lReturn then
      { opening with device := device, lUSBSuccess := true }
    else { opening with device := device.step .handleClose }

/-- An iteration of the loop. -/
def iterate (settings : OpenSettings) (opening : Opening)
    (answers : OpenAnswers) : Except OpeningException Opening :=
  (opening.openKai settings answers.socketFails).map fun opened =>
    opened.openUSB answers.devices

/-- The loop goes on while something is not open; a signal may end it in front
of any iteration. -/
def step (settings : OpenSettings) (opening : Opening)
    (answers : OpenAnswers) : Option Opening :=
  if opening.lUSBSuccess && opening.lSuccess then none
  else
    match opening.iterate settings answers with
    | .error _ => none
    | .ok next => some next

def machine (settings : OpenSettings) : LabelledMachine Opening OpenAnswers :=
  ⟨step settings⟩

/-- In front of the loop. -/
def start (reader : USBReader) : Opening := { device := { reader := reader } }

/-- Behind the loop, with both connections told of each other. -/
def program (opening : Opening) (mMaxBufferedMessages : Int) : Program :=
  Program.start { opening.connection with mIncomingConnection := true }
    opening.device.reader mMaxBufferedMessages

/-! ## The two halves -/

/-- What holds of the connection at the head of the loop. -/
structure Connection (settings : OpenSettings) (opening : Opening) : Prop where
  socket : opening.connection.mSocketOpen = opening.lSuccess
  connected : opening.connection.mConnected = false
  initiated : opening.connection.mConnectInitiated = false
  settingsSent : opening.connection.mSettingsSent = false
  /-- The settings are what the receiver thread opens the socket with again. -/
  settled : opening.lSuccess = true →
    opening.connection.mIp = settings.mXLinkIp ∧
      ∃ port, DecimalText.stoi settings.mXLinkPort = .ok port ∧
        opening.connection.mPort = toUnsigned port

/-- What holds of the reader at the head of the loop. -/
structure Device (reader : USBReader) (opening : Opening) : Prop where
  opened : opening.device.reader.mDeviceHandle.isSome = opening.lUSBSuccess
  /-- Opening leaves nothing behind but the handle. -/
  untouched : opening.device.reader =
    { reader with mDeviceHandle := opening.device.reader.mDeviceHandle }
  owned : opening.device.Owned

section Halves

variable {settings : OpenSettings} {reader : USBReader}
  {opening next : Opening}

/-- Whether the settings can be read does not depend on the connection. -/
theorem openConnection_error {first second : XLinkKaiConnection}
    {fails later : Bool} {exception : OpeningException}
    (throws : openConnection first settings fails = .error exception) :
    openConnection second settings later = .error exception := by
  unfold openConnection at throws ⊢
  cases reads : DecimalText.stoi settings.mXLinkPort with
  | error unreadable =>
      rw [reads] at throws
      exact throws
  | ok port =>
      rw [reads] at throws
      dsimp only at throws ⊢
      split at throws
      · cases throws
      · next unreadable =>
          rw [if_neg unreadable]
          exact throws

theorem openConnection_ok {connection result : XLinkKaiConnection}
    {fails : Bool}
    (opens : openConnection connection settings fails = .ok result) :
    ∃ port, DecimalText.stoi settings.mXLinkPort = .ok port ∧
      result =
        connection.openSocket settings.mXLinkIp (toUnsigned port) fails := by
  unfold openConnection at opens
  split at opens
  · cases opens
  · next port reads =>
      split at opens
      · exact ⟨port, reads, (Except.ok.inj opens).symm⟩
      · cases opens

/-- Closing a socket which could not be opened changes no flag. -/
theorem close_openSocket (settings : OpenSettings)
    {connection : XLinkKaiConnection}
    (connected : connection.mConnected = false)
    (initiated : connection.mConnectInitiated = false) (aPort : Nat) :
    ((connection.openSocket settings.mXLinkIp aPort true).close
        false).connection =
      { connection.openSocket settings.mXLinkIp aPort true with
        mSocketOpen := false } := by
  simp [XLinkKaiConnection.close, XLinkKaiConnection.openSocket, connected,
    initiated]

theorem Connection.openKai {fails : Bool}
    (holds : opening.Connection settings)
    (taken : opening.openKai settings fails = .ok next) :
    next.Connection settings ∧ next.device = opening.device ∧
      next.lUSBSuccess = opening.lUSBSuccess ∧
      (opening.lSuccess = true → next.connection = opening.connection) := by
  unfold Opening.openKai at taken
  by_cases already : opening.lSuccess = true
  · rw [if_pos already] at taken
    cases taken
    exact ⟨holds, rfl, rfl, fun _ => rfl⟩
  · rw [if_neg already] at taken
    cases opens : openConnection opening.connection settings fails with
    | error exception => simp [opens, Except.map] at taken
    | ok connection =>
        obtain ⟨port, reads, rfl⟩ := openConnection_ok opens
        simp only [opens, Except.map, Except.ok.injEq] at taken
        subst next
        refine ⟨?_, rfl, rfl, fun opened => absurd opened already⟩
        cases fails with
        | true =>
            have closed := close_openSocket settings holds.connected
              holds.initiated (toUnsigned port)
            simp only [if_true, closed]
            exact ⟨rfl, holds.connected, holds.initiated, holds.settingsSent,
              by simp⟩
        | false =>
            exact ⟨rfl, holds.connected, holds.initiated, holds.settingsSent,
              fun _ => ⟨rfl, port, reads, rfl⟩⟩

/-- `Open` is only called without a device. -/
theorem Device.openUSB (holds : opening.Device reader)
    (unrequested : reader.mStopRequest = false) (devices : DeviceList) :
    (opening.openUSB devices).Device reader ∧
      (opening.openUSB devices).connection = opening.connection ∧
      (opening.openUSB devices).lSuccess = opening.lSuccess ∧
      (opening.lUSBSuccess = true →
        (opening.openUSB devices).device = opening.device) := by
  unfold Opening.openUSB
  by_cases already : opening.lUSBSuccess = true
  · rw [if_pos already]
    exact ⟨holds, rfl, rfl, fun _ => rfl⟩
  · rw [if_neg already]
    have owned := holds.owned.step (.openDevice devices)
    have same : (opening.device.step (.openDevice devices)).reader =
        { reader with
          mDeviceHandle :=
            (opening.device.reader.openDevice devices).reader.mDeviceHandle } := by
      rw [DeviceUse.step, USBReader.openDevice_reader, holds.untouched]
    dsimp only
    split
    · next found =>
        refine ⟨⟨?_, ?_, owned⟩, rfl, rfl, fun opened => absurd opened already⟩
        · rw [same, ← found]
          cases devices <;> rfl
        · rw [same]
    · have closed : ((opening.device.step (.openDevice devices)).step
          .handleClose).reader = { reader with mDeviceHandle := none } := by
        have closes : ((opening.device.step (.openDevice devices)).step
            .handleClose).reader =
              (opening.device.step (.openDevice devices)).reader.handleClose :=
          rfl
        rw [closes, same]
        simp [USBReader.handleClose, USBReader.closeDevice,
          USBReader.clearStopRequest, unrequested]
      refine ⟨⟨?_, ?_, owned.step .handleClose⟩, rfl, rfl,
        fun opened => absurd opened already⟩
      · simpa [closed] using already
      · rw [closed]

end Halves

/-! ## The loop -/

/-- What the loop keeps: what is open is known to be open, and nothing else
has happened to the connections. -/
structure Opened (settings : OpenSettings) (reader : USBReader)
    (opening : Opening) : Prop where
  kai : opening.Connection settings
  usb : opening.Device reader

section Loop

variable {settings : OpenSettings} {reader : USBReader}
  {opening next finish : Opening} {answers : OpenAnswers}

theorem Opened.step (opened : opening.Opened settings reader)
    (unrequested : reader.mStopRequest = false)
    (taken : (machine settings).step opening answers = some next) :
    next.Opened settings reader ∧
      (opening.lSuccess = true →
        next.lSuccess = true ∧ next.connection = opening.connection) ∧
      (opening.lUSBSuccess = true →
        next.lUSBSuccess = true ∧ next.device = opening.device) := by
  simp only [machine, Opening.step] at taken
  split at taken
  · cases taken
  · unfold iterate at taken
    cases opens : opening.openKai settings answers.socketFails with
    | error exception => simp [opens, Except.map] at taken
    | ok middle =>
        simp only [opens, Except.map, Option.some.injEq] at taken
        subst next
        obtain ⟨kai, device, success, connection⟩ :=
          opened.kai.openKai opens
        have usb : middle.Device reader := by
          constructor
          · rw [device, success]
            exact opened.usb.opened
          · rw [device]
            exact opened.usb.untouched
          · rw [device]
            exact opened.usb.owned
        obtain ⟨usb, same, still, kept⟩ :=
          usb.openUSB unrequested answers.devices
        refine ⟨⟨?_, usb⟩, ?_, ?_⟩
        · constructor
          · rw [same, still]
            exact kai.socket
          · rw [same]
            exact kai.connected
          · rw [same]
            exact kai.initiated
          · rw [same]
            exact kai.settingsSent
          · rw [same, still]
            exact kai.settled
        · intro already
          rw [same, still, ← kai.socket, connection already, opened.kai.socket]
          exact ⟨already, rfl⟩
        · intro already
          rw [← success] at already
          rw [← usb.opened, kept already, device, opened.usb.opened, ← success]
          exact ⟨already, rfl⟩

theorem opened_start (closed : reader.mDeviceHandle = none) :
    (start reader).Opened settings reader where
  kai := ⟨rfl, rfl, rfl, rfl, by simp [start]⟩
  usb := by
    refine ⟨?_, rfl, ?_⟩
    · rw [start, closed]
      rfl
    · have owned : HoldsHandle reader.mDeviceHandle [] := by
        rw [closed]
        exact EventLog.Holds.nil
      exact owned

theorem opened_of_run {tries : List OpenAnswers}
    (closed : reader.mDeviceHandle = none)
    (unrequested : reader.mStopRequest = false)
    (reached : (machine settings).run (start reader) tries = some finish) :
    finish.Opened settings reader := by
  apply (machine settings).run_invariant (Opened settings reader) _
    (opened_start closed) reached
  intro opening answers next opened taken
  exact (opened.step unrequested taken).1

/-- A connection which was opened is left alone by the tries for the other. -/
theorem opened_kept {tries : List OpenAnswers}
    (opened : opening.Opened settings reader)
    (unrequested : reader.mStopRequest = false)
    (reached : (machine settings).run opening tries = some finish) :
    (opening.lSuccess = true → finish.connection = opening.connection) ∧
      (opening.lUSBSuccess = true → finish.device = opening.device) := by
  have kept : finish.Opened settings reader ∧
      (opening.lSuccess = true →
        finish.lSuccess = true ∧ finish.connection = opening.connection) ∧
      (opening.lUSBSuccess = true →
        finish.lUSBSuccess = true ∧ finish.device = opening.device) := by
    apply (machine settings).run_invariant
      (fun current => current.Opened settings reader ∧
        (opening.lSuccess = true →
          current.lSuccess = true ∧
            current.connection = opening.connection) ∧
        (opening.lUSBSuccess = true →
          current.lUSBSuccess = true ∧ current.device = opening.device))
      _ ⟨opened, fun already => ⟨already, rfl⟩, fun already => ⟨already, rfl⟩⟩
      reached
    rintro current answers next ⟨still, kai, usb⟩ taken
    obtain ⟨opened, keepsKai, keepsUSB⟩ := still.step unrequested taken
    refine ⟨opened, ?_, ?_⟩
    · intro already
      obtain ⟨success, same⟩ := kai already
      obtain ⟨stays, connection⟩ := keepsKai success
      exact ⟨stays, connection.trans same⟩
    · intro already
      obtain ⟨success, same⟩ := usb already
      obtain ⟨stays, device⟩ := keepsUSB success
      exact ⟨stays, device.trans same⟩
  exact ⟨fun already => (kept.2.1 already).2,
    fun already => (kept.2.2 already).2⟩

/-- An iteration throws where it reads the settings. -/
theorem iterate_error {exception : OpeningException}
    (throws : opening.iterate settings answers = .error exception) :
    opening.lSuccess = false ∧
      openConnection opening.connection settings answers.socketFails =
        .error exception := by
  unfold iterate Opening.openKai at throws
  by_cases already : opening.lSuccess = true
  · simp [already, Except.map] at throws
  · refine ⟨by simpa using already, ?_⟩
    rw [if_neg already] at throws
    cases opens : openConnection opening.connection settings
        answers.socketFails with
    | error unreadable => simpa [opens, Except.map] using throws
    | ok connection => simp [opens, Except.map] at throws

/-- The settings which were read once are read again. -/
theorem throws_first {tries : List OpenAnswers} {exception : OpeningException}
    (reached : (machine settings).run (start reader) tries = some finish)
    (throws : finish.iterate settings answers = .error exception) :
    tries = [] := by
  cases tries with
  | nil => rfl
  | cons first tries =>
      obtain ⟨next, taken, _⟩ := LabelledMachine.run_cons_eq_some.mp reached
      have again : openConnection (start reader).connection settings
          first.socketFails = .error exception :=
        openConnection_error (iterate_error throws).2
      have thrown : (start reader).iterate settings first =
          .error exception := by
        unfold iterate Opening.openKai
        rw [if_neg (by simp [start]), again]
        rfl
      have stuck : (machine settings).step (start reader) first = none := by
        simp only [machine, Opening.step, thrown]
        split <;> rfl
      rw [stuck] at taken
      cases taken

/-- However often opening fails: at the head of the loop the socket and the
device are open exactly when `main` takes them to be, a handle which is not
kept was closed, nothing else has changed since construction, and what is open
once is not touched again.  Only the first iteration can throw. -/
theorem opening_consistent {tries : List OpenAnswers}
    (closed : reader.mDeviceHandle = none)
    (unrequested : reader.mStopRequest = false)
    (reached : (machine settings).run (start reader) tries = some finish) :
    finish.Opened settings reader ∧
      (∀ handle, OpenNow handle finish.device.calls ↔
        finish.device.reader.mDeviceHandle = some handle) ∧
      (∀ first second middle, tries = first ++ second →
        (machine settings).run (start reader) first = some middle →
          (middle.lSuccess = true →
            finish.connection = middle.connection) ∧
          (middle.lUSBSuccess = true → finish.device = middle.device)) ∧
      ∀ answers exception,
        finish.iterate settings answers = .error exception → tries = [] := by
  have opened := opened_of_run closed unrequested reached
  refine ⟨opened, opened.usb.owned.held, ?_, fun _ _ => throws_first reached⟩
  rintro first second middle rfl early
  obtain ⟨other, same, rest⟩ := LabelledMachine.run_append_eq_some.mp reached
  obtain rfl := Option.some.inj (early.symm.trans same)
  exact opened_kept (opened_of_run closed unrequested early) unrequested rest

end Loop

/-- XLink Kai runs on this machine. -/
def localSettings : OpenSettings := { fromString := fun lIp => lIp == cIp }

/-- The second try finds the PSP, and the third one opens the socket. -/
def threeTries : List OpenAnswers :=
  [{ socketFails := true },
    { socketFails := true, devices := .onePSP 1 }, {}]

theorem opening_consistent_threeTries :
    ∃ finish,
      (machine localSettings).run (start USBReader.newReader) threeTries =
          some finish ∧
        (finish.Opened localSettings USBReader.newReader ∧
          (∀ handle, OpenNow handle finish.device.calls ↔
            finish.device.reader.mDeviceHandle = some handle) ∧
          (∀ first second middle, threeTries = first ++ second →
            (machine localSettings).run (start USBReader.newReader) first =
                some middle →
              (middle.lSuccess = true →
                finish.connection = middle.connection) ∧
              (middle.lUSBSuccess = true →
                finish.device = middle.device)) ∧
          ∀ answers exception,
            finish.iterate localSettings answers = .error exception →
              threeTries = []) ∧
        finish.lSuccess = true ∧ finish.lUSBSuccess = true := by
  have opens : ((machine localSettings).run (start USBReader.newReader)
      threeTries).any (fun finish =>
        decide (finish.lSuccess = true ∧ finish.lUSBSuccess = true)) =
          true := by
    decide +kernel
  obtain ⟨finish, reached, outcome⟩ := (Option.any_eq_true _ _).mp opens
  exact ⟨finish, reached, opening_consistent rfl rfl reached,
    of_decide_eq_true outcome⟩

end Opening

end CWUSB
