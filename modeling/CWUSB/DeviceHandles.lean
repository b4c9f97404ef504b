import CWUSB.HelloFirst

/-!
# The handles of the device

`Open` may open and close several devices before it keeps one, and
`HandleError` closes the device and opens it anew any number of times.  At
every moment the handle the reader keeps is the only one which is open.
-/

namespace CWUSB

namespace LibusbCall

/-- libusb gives out the handle. -/
def Opens (handle : DeviceHandle) (call : LibusbCall) : Prop :=
  ∃ lCount, call = .openDevice lCount (some handle)

def Closes (handle : DeviceHandle) (call : LibusbCall) : Prop :=
  call = .closeDevice handle

end LibusbCall

/-- The handle was opened and not closed since. -/
def OpenNow (handle : DeviceHandle) (calls : List LibusbCall) : Prop :=
  EventLog.Since (LibusbCall.Opens handle) (LibusbCall.Closes handle) calls

/-- Of all handles given out at most the one named is open, and only open
handles were closed. -/
abbrev HoldsHandle (mDeviceHandle : Option DeviceHandle)
    (calls : List LibusbCall) : Prop :=
  EventLog.Holds LibusbCall.Opens LibusbCall.Closes mDeviceHandle calls

namespace HoldsHandle

variable {calls : List LibusbCall} {mDeviceHandle : Option DeviceHandle}

theorem neutral {more : List LibusbCall}
    (holds : HoldsHandle mDeviceHandle calls)
    (unrelated : ∀ call ∈ more, (∀ lCount handle,
      call ≠ .openDevice lCount (some handle)) ∧
        ∀ handle, call ≠ .closeDevice handle) :
    HoldsHandle mDeviceHandle (calls ++ more) := by
  apply holds.append
  intro call member handle
  obtain ⟨notOpen, notClose⟩ := unrelated call member
  constructor
  · rintro ⟨lCount, opens⟩
    exact notOpen lCount handle opens
  · exact notClose handle

theorem opens (holds : HoldsHandle none calls) (lCount : Nat)
    (handle : DeviceHandle) :
    HoldsHandle (some handle)
      (calls ++ [.openDevice lCount (some handle)]) := by
  apply holds.give
  · intro other
    simp [LibusbCall.Opens, eq_comm]
  · intro other
    simp [LibusbCall.Closes]

theorem closes {handle : DeviceHandle}
    (holds : HoldsHandle (some handle) calls) :
    HoldsHandle none (calls ++ [.closeDevice handle]) := by
  apply holds.take
  · intro other
    simp [LibusbCall.Closes, eq_comm]
  · intro other
    simp [LibusbCall.Opens]

/-! ## Opening -/

theorem claimOpened {device : DeviceAnswers} {handle : DeviceHandle}
    (holds : HoldsHandle (some handle) calls) :
    HoldsHandle (CWUSB.claimOpened device handle).mDeviceHandle
      (calls ++ (CWUSB.claimOpened device handle).calls) := by
  unfold CWUSB.claimOpened
  by_cases configured : device.setConfigurationResult ≥ 0
  · by_cases claimed : device.claimInterfaceResult = 0
    · simp only [configured, claimed, if_true]
      exact holds.neutral (by simp)
    · simp only [configured, claimed, if_true, if_false]
      have still : HoldsHandle (some handle)
          (calls ++ [.setAutoDetachKernelDriver handle,
            .setConfiguration handle, .claimInterface handle]) :=
        holds.neutral (by simp)
      simpa using still.closes
  · simp only [configured, if_false]
    have still : HoldsHandle (some handle)
        (calls ++ [.setAutoDetachKernelDriver handle,
          .setConfiguration handle]) :=
      holds.neutral (by simp)
    simpa using still.closes

theorem openIteration (device : DeviceAnswers) (lCount : Nat)
    (lDeviceHandle : Option DeviceHandle) (holds : HoldsHandle none calls) :
    HoldsHandle
      (CWUSB.openIteration device lCount lDeviceHandle).mDeviceHandle
      (calls ++ (CWUSB.openIteration device lCount lDeviceHandle).calls) := by
  unfold CWUSB.openIteration
  by_cases readable : device.descriptorResult ≥ 0
  · by_cases matching : device.idVendor = cPSPVID ∧ device.idProduct = cPSPPID
    · by_cases success : device.openResult ≥ 0
      · have looked : HoldsHandle none
            (calls ++ [.readDevice lCount, .getDeviceDescriptor lCount]) :=
          holds.neutral (by simp)
        have freed : HoldsHandle (some device.handle)
            ((calls ++ [.readDevice lCount, .getDeviceDescriptor lCount]) ++
              [.openDevice lCount (some device.handle)] ++
                [.freeDeviceList]) :=
          (looked.opens lCount device.handle).neutral (by simp)
        simpa [readable, matching, success] using freed.claimOpened
      · -- A handle left from an earlier device is not touched.
        cases lDeviceHandle <;>
          simpa [readable, matching, success] using holds.neutral (by simp)
    · simpa [readable, matching] using holds.neutral (by simp)
  · simpa [readable] using holds.neutral (by simp)

theorem openLoop (devices : List DeviceAnswers) (lCount : Nat)
    (lDeviceHandle : Option DeviceHandle)
    (holds : HoldsHandle mDeviceHandle calls) :
    HoldsHandle
      (CWUSB.openLoop devices lCount mDeviceHandle lDeviceHandle).1
      (calls ++
        (CWUSB.openLoop devices lCount mDeviceHandle lDeviceHandle).2) := by
  induction devices generalizing calls lCount mDeviceHandle lDeviceHandle with
  | nil =>
      rw [CWUSB.openLoop, List.append_nil]
      exact holds
  | cons device devices induction =>
      cases mDeviceHandle with
      | some handle =>
          rw [openLoop_some, List.append_nil]
          exact holds
      | none =>
          rw [CWUSB.openLoop, ← List.append_assoc]
          apply induction
          exact holds.openIteration device lCount lDeviceHandle

theorem openDevice (reader : USBReader) (devices : DeviceList)
    (holds : HoldsHandle reader.mDeviceHandle calls) :
    HoldsHandle (reader.openDevice devices).reader.mDeviceHandle
      (calls ++ (reader.openDevice devices).calls) := by
  cases devices with
  | failed => exact holds.neutral (by simp [USBReader.openDevice])
  | listed devices =>
      have listed : HoldsHandle reader.mDeviceHandle
          (calls ++ [.getDeviceList]) :=
        holds.neutral (by simp)
      have looped := listed.openLoop devices 0 none
      rw [List.append_assoc] at looped
      exact looped

theorem closeCalls (reader : USBReader)
    (holds : HoldsHandle reader.mDeviceHandle calls) :
    HoldsHandle none (calls ++ reader.closeCalls) := by
  unfold USBReader.closeCalls
  cases found : reader.mDeviceHandle with
  | none =>
      rw [List.append_nil, ← found]
      exact holds
  | some handle =>
      rw [found] at holds
      have still : HoldsHandle (some handle)
          (calls ++ [.resetDevice handle, .releaseInterface handle,
            .attachKernelDriver handle]) :=
        holds.neutral (by simp)
      simpa using still.closes

end HoldsHandle

/-! ## Runs of the reader's functions -/

/-- The member functions which open or close the device. -/
inductive DeviceAction where
  | openDevice (devices : DeviceList)
  | handleClose
  | handleError (devices : DeviceList)

/-- A reader and the calls it made so far. -/
structure DeviceUse where
  reader : USBReader
  calls : List LibusbCall := []
deriving DecidableEq

namespace DeviceUse

def step (use : DeviceUse) : DeviceAction → DeviceUse
  | .openDevice devices =>
      let opened := use.reader.openDevice devices
      { reader := opened.reader
        calls := use.calls ++ opened.calls }
  | .handleClose =>
      { reader := use.reader.handleClose
        calls := use.calls ++ use.reader.closeCalls }
  | .handleError devices =>
      { reader := use.reader.handleError devices
        calls := use.calls ++ use.reader.closeCalls ++
          (use.reader.handleClose.openDevice devices).calls }

def machine : LabelledMachine DeviceUse DeviceAction :=
  ⟨fun use action => some (use.step action)⟩

def Owned (use : DeviceUse) : Prop :=
  HoldsHandle use.reader.mDeviceHandle use.calls

theorem Owned.step {use : DeviceUse} (owned : use.Owned)
    (action : DeviceAction) : (use.step action).Owned := by
  have closed : HoldsHandle use.reader.handleClose.mDeviceHandle
      (use.calls ++ use.reader.closeCalls) :=
    HoldsHandle.closeCalls use.reader owned
  cases action with
  | openDevice devices => exact HoldsHandle.openDevice use.reader devices owned
  | handleClose => exact closed
  | handleError devices =>
      exact HoldsHandle.openDevice use.reader.handleClose devices closed

theorem owned_run {reader : USBReader} {actions : List DeviceAction}
    {finish : DeviceUse} (closed : reader.mDeviceHandle = none)
    (reached : machine.run { reader := reader } actions = some finish) :
    finish.Owned := by
  apply machine.run_invariant Owned _ _ reached
  · intro use action next owned taken
    obtain rfl := Option.some.inj taken
    exact owned.step action
  · unfold Owned
    rw [closed]
    exact EventLog.Holds.nil

/-- Whatever the reader opened and closed, the handle it keeps is the only one
which is open, no handle is closed twice, and `Open` says whether it has a
device. -/
theorem handles_owned {reader : USBReader} {actions : List DeviceAction}
    {finish : DeviceUse} (closed : reader.mDeviceHandle = none)
    (fresh : ∀ handle, EventLog.AtMostOnce (LibusbCall.Opens handle)
      finish.calls)
    (reached : machine.run { reader := reader } actions = some finish) :
    (∀ handle, OpenNow handle finish.calls ↔
        finish.reader.mDeviceHandle = some handle) ∧
      (∀ handle, EventLog.AtMostOnce (LibusbCall.Closes handle)
        finish.calls) ∧
      ∀ devices, (finish.reader.openDevice devices).lReturn = true ↔
        (finish.reader.openDevice devices).reader.mDeviceHandle ≠ none := by
  have owned := owned_run closed reached
  refine ⟨owned.held, ?_, ?_⟩
  · intro handle
    apply owned.taken_once _ (fresh handle)
    rintro call ⟨lCount, rfl⟩
    simp [LibusbCall.Closes]
  · intro devices
    rw [← Option.isSome_iff_ne_none]
    cases devices <;> rfl

/-- The first PSP cannot be configured, the second one is claimed, and after
an error the device is opened anew. -/
def reopened : List DeviceAction :=
  [.openDevice
      (.listed
        [{ descriptorResult := 0
           idVendor := cPSPVID
           idProduct := cPSPPID
           openResult := 0
           handle := 1
           setConfigurationResult := -6
           claimInterfaceResult := 0 },
          { descriptorResult := 0
            idVendor := cPSPVID
            idProduct := cPSPPID
            openResult := 0
            handle := 2
            setConfigurationResult := 0
            claimInterfaceResult := 0 }]),
    .handleError (.onePSP 3)]

theorem handles_owned_reopened :
    ∃ finish : DeviceUse,
      machine.run { reader := USBReader.newReader } reopened = some finish ∧
      ((∀ handle, OpenNow handle finish.calls ↔
          finish.reader.mDeviceHandle = some handle) ∧
        (∀ handle, EventLog.AtMostOnce (LibusbCall.Closes handle)
          finish.calls) ∧
        ∀ devices, (finish.reader.openDevice devices).lReturn = true ↔
          (finish.reader.openDevice devices).reader.mDeviceHandle ≠ none) ∧
      finish.reader.mDeviceHandle = some 3 ∧
      .closeDevice 1 ∈ finish.calls ∧ .closeDevice 2 ∈ finish.calls := by
  have reached : machine.run { reader := USBReader.newReader } reopened =
      some
        { reader :=
            { USBReader.newReader with
              mDeviceHandle := some 3
              mRetryCounter := 1 }
          calls :=
            [.getDeviceList, .readDevice 0, .getDeviceDescriptor 0,
              .openDevice 0 (some 1), .freeDeviceList,
              .setAutoDetachKernelDriver 1, .setConfiguration 1,
              .closeDevice 1, .readDevice 1, .getDeviceDescriptor 1,
              .openDevice 1 (some 2), .freeDeviceList,
              .setAutoDetachKernelDriver 2, .setConfiguration 2,
              .claimInterface 2, .resetDevice 2, .releaseInterface 2,
              .attachKernelDriver 2, .closeDevice 2, .getDeviceList,
              .readDevice 0, .getDeviceDescriptor 0, .openDevice 0 (some 3),
              .freeDeviceList, .setAutoDetachKernelDriver 3,
              .setConfiguration 3, .claimInterface 3] } := rfl
  refine ⟨_, reached, handles_owned rfl ?_ reached, rfl, by simp, by simp⟩
  intro handle
  have apart : (1 = handle → ¬ 2 = handle ∧ ¬ 3 = handle) ∧
      (2 = handle → ¬ 3 = handle) := by
    constructor
    · rintro rfl
      decide
    · rintro rfl
      decide
  simpa [EventLog.atMostOnce_cons, EventLog.atMostOnce_nil,
    LibusbCall.Opens] using apart

end DeviceUse

/-! ## Runs of the reader's thread -/

def ReaderEvent.libusbCall : ReaderEvent → Option LibusbCall
  | .libusb call => some call
  | _ => none

/-- The calls about the device among the events. -/
def libusbCalls (events : List ReaderEvent) : List LibusbCall :=
  events.filterMap ReaderEvent.libusbCall

theorem libusbCalls_map (calls : List LibusbCall) :
    libusbCalls (calls.map .libusb) = calls := by
  induction calls with
  | nil => rfl
  | cons call calls induction =>
      rw [List.map_cons, libusbCalls, List.filterMap_cons, ← libusbCalls,
        induction]
      rfl

theorem libusbCalls_append (first second : List ReaderEvent) :
    libusbCalls (first ++ second) = libusbCalls first ++ libusbCalls second :=
  List.filterMap_append

theorem libusbCalls_eq_nil {events : List ReaderEvent}
    (none : ∀ event ∈ events, event.libusbCall = none) :
    libusbCalls events = [] :=
  List.filterMap_eq_nil_iff.mpr none

namespace ReaderLoop

variable {state finish : ReaderLoop} {calls : List LibusbCall}

/-- The device is closed and opened in one place each. -/
theorem readerEvents_libusbCall (answers : UsbAnswers)
    (notClosing : ∀ site, state.loop ≠ .closeDevice site)
    (notOpening : state.loop ≠ .openDevice) :
    ∀ event ∈ state.readerEvents answers, event.libusbCall = none := by
  intro event member
  have records := state.readerEvents_records answers event member
  cases here : state.loop with
  | closeDevice site => exact absurd here (notClosing site)
  | openDevice => exact absurd here notOpening
  | _ =>
      rw [here] at records
      cases records <;> rfl

theorem readerStep_mDeviceHandle (answers : UsbAnswers)
    (notClosing : ∀ site, state.loop ≠ .closeDevice site)
    (notOpening : state.loop ≠ .openDevice) :
    (state.readerStep answers).reader.mDeviceHandle =
      state.reader.mDeviceHandle := by
  by_cases checks : state.loop = .checkDevice
  · rw [readerStep, checks]
    dsimp only [goTo, checkDevice]
    split <;> rfl
  · by_cases resets : state.loop = .resetFlags
    · rw [readerStep, resets]
      rfl
    · refine (readerStep_device answers ?_).1
      rintro (⟨site, here⟩ | here | here | here)
      · exact notClosing site here
      · exact checks here
      · exact notOpening here
      · exact resets here

/-- The calls made before the thread started and those it made since. -/
def Owned (calls : List LibusbCall) (state : ReaderLoop) : Prop :=
  HoldsHandle state.reader.mDeviceHandle (calls ++ libusbCalls state.events)

theorem Owned.readerStep (owned : state.Owned calls) (answers : UsbAnswers) :
    (state.readerStep answers).Owned calls := by
  unfold Owned
  rw [readerStep_events, libusbCalls_append, ← List.append_assoc]
  by_cases closes : ∃ site, state.loop = .closeDevice site
  · obtain ⟨site, here⟩ := closes
    rw [readerEvents, ReaderLoop.readerStep, here]
    simp only [libusbCalls_map]
    exact HoldsHandle.closeCalls state.reader owned
  · by_cases opens : state.loop = .openDevice
    · rw [readerEvents, ReaderLoop.readerStep, opens]
      simp only [libusbCalls_map]
      exact HoldsHandle.openDevice state.reader answers.devices owned
    · have notClosing : ∀ site, state.loop ≠ .closeDevice site :=
        fun site here => closes ⟨site, here⟩
      rw [libusbCalls_eq_nil
          (readerEvents_libusbCall answers notClosing opens),
        List.append_nil, readerStep_mDeviceHandle answers notClosing opens]
      exact owned

theorem Owned.step {next : ReaderLoop} {action : Action}
    (owned : state.Owned calls)
    (taken : machine.step state action = some next) : next.Owned calls := by
  rcases step_cases taken with ⟨answers, rfl, rfl⟩ | ⟨_, elsewhere⟩
  · exact owned.readerStep answers
  · obtain ⟨payloads, events⟩ := elsewhere.events
    have quiet : libusbCalls (payloads.map .forwarded) = [] := by
      apply libusbCalls_eq_nil
      intro event member
      obtain ⟨payload, _, rfl⟩ := List.mem_map.mp member
      rfl
    unfold Owned
    rw [elsewhere.reader, events, libusbCalls_append, quiet, List.append_nil]
    exact owned

/-- However the threads interleave, the handle the reader keeps is the only
one of all opened since construction which is still open. -/
theorem owned_run {use : DeviceUse} {mMaxBufferedMessages : Int}
    {actions : List Action} (owned : use.Owned)
    (reached : machine.run (start use.reader mMaxBufferedMessages) actions =
      some finish) :
    finish.Owned use.calls := by
  apply machine.run_invariant (Owned use.calls) _ _ reached
  · intro state action next held taken
    exact held.step taken
  · unfold Owned
    rw [start, libusbCalls, List.filterMap_nil, List.append_nil]
    exact owned

end ReaderLoop

end CWUSB
