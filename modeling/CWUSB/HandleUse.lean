import CWUSB.Shutdown

/-!
# The use of the device handles

libusb must not be given a handle which is closed, and transfers need the
interface to be claimed.  `Open` configures, claims and closes handles which
it may not keep, `HandleClose` gives the device up, and all transfers go
through the handle the reader keeps.
-/

namespace CWUSB

namespace LibusbCall

/-- The call is given the handle. -/
def Uses (handle : DeviceHandle) : LibusbCall → Prop
  | .setAutoDetachKernelDriver other | .setConfiguration other
  | .claimInterface other | .resetDevice other | .releaseInterface other
  | .attachKernelDriver other | .closeDevice other => other = handle
  | .getDeviceList | .readDevice _ | .getDeviceDescriptor _
  | .openDevice _ _ | .freeDeviceList => False

def Claims (handle : DeviceHandle) (call : LibusbCall) : Prop :=
  call = .claimInterface handle

def GivesUp (handle : DeviceHandle) (call : LibusbCall) : Prop :=
  call = .releaseInterface handle ∨ call = .closeDevice handle

/-- A call which neither opens nor closes a device. -/
def Neutral (call : LibusbCall) : Prop :=
  (∀ lCount handle, call ≠ .openDevice lCount (some handle)) ∧
    ∀ handle, call ≠ .closeDevice handle

end LibusbCall

/-- The interface of the handle was claimed and not released since. -/
def ClaimedNow (handle : DeviceHandle) (calls : List LibusbCall) : Prop :=
  EventLog.Since (LibusbCall.Claims handle) (LibusbCall.GivesUp handle) calls

/-- The handle kept is the only one open, and every handle was open when it
was used. -/
structure Careful (mDeviceHandle : Option DeviceHandle)
    (calls : List LibusbCall) : Prop where
  holds : HoldsHandle mDeviceHandle calls
  used : ∀ handle, EventLog.Throughout
    (fun before call => call.Uses handle → OpenNow handle before) calls

namespace Careful

variable {calls : List LibusbCall} {mDeviceHandle : Option DeviceHandle}

/-- Calls which are given the handle kept. -/
theorem neutral {more : List LibusbCall}
    (careful : Careful mDeviceHandle calls)
    (unrelated : ∀ call ∈ more, call.Neutral)
    (own : ∀ call ∈ more, ∀ handle, call.Uses handle →
      mDeviceHandle = some handle) :
    Careful mDeviceHandle (calls ++ more) where
  holds := careful.holds.neutral unrelated
  used := fun handle => by
    apply (careful.used handle).extend
    rintro before call after rfl uses
    have early : HoldsHandle mDeviceHandle (calls ++ before) := by
      apply careful.holds.neutral
      intro other member
      exact unrelated other (List.mem_append_left _ member)
    exact (early.held handle).mpr (own call (by simp) handle uses)

theorem opens (careful : Careful none calls) (lCount : Nat)
    (handle : DeviceHandle) :
    Careful (some handle)
      (calls ++ [.openDevice lCount (some handle)]) where
  holds := careful.holds.opens lCount handle
  used := fun other =>
    EventLog.throughout_concat.mpr ⟨careful.used other, False.elim⟩

theorem closes {handle : DeviceHandle}
    (careful : Careful (some handle) calls) :
    Careful none (calls ++ [.closeDevice handle]) where
  holds := careful.holds.closes
  used := fun other => by
    refine EventLog.throughout_concat.mpr ⟨careful.used other, ?_⟩
    intro same
    exact (careful.holds.held other).mpr (congrArg some same)

/-! ## Opening -/

theorem claimOpened {device : DeviceAnswers} {handle : DeviceHandle}
    (careful : Careful (some handle) calls) :
    Careful (CWUSB.claimOpened device handle).mDeviceHandle
      (calls ++ (CWUSB.claimOpened device handle).calls) := by
  unfold CWUSB.claimOpened
  by_cases configured : device.setConfigurationResult ≥ 0
  · by_cases claimed : device.claimInterfaceResult = 0
    · simp only [configured, claimed, if_true]
      apply careful.neutral
      · simp [LibusbCall.Neutral]
      · simp [LibusbCall.Uses]
    · simp only [configured, claimed, if_true, if_false]
      have still : Careful (some handle)
          (calls ++ [.setAutoDetachKernelDriver handle,
            .setConfiguration handle, .claimInterface handle]) := by
        apply careful.neutral
        · simp [LibusbCall.Neutral]
        · simp [LibusbCall.Uses]
      simpa using still.closes
  · simp only [configured, if_false]
    have still : Careful (some handle)
        (calls ++ [.setAutoDetachKernelDriver handle,
          .setConfiguration handle]) := by
      apply careful.neutral
      · simp [LibusbCall.Neutral]
      · simp [LibusbCall.Uses]
    simpa using still.closes

theorem openIteration (device : DeviceAnswers) (lCount : Nat)
    (lDeviceHandle : Option DeviceHandle) (careful : Careful none calls) :
    Careful (CWUSB.openIteration device lCount lDeviceHandle).mDeviceHandle
      (calls ++ (CWUSB.openIteration device lCount lDeviceHandle).calls) := by
  -- Calls which are not given any handle.
  have looks {more : List LibusbCall}
      (unrelated : ∀ call ∈ more, call.Neutral)
      (free : ∀ call ∈ more, ∀ handle, ¬ call.Uses handle) :
      Careful none (calls ++ more) :=
    careful.neutral unrelated fun call member handle uses =>
      absurd uses (free call member handle)
  unfold CWUSB.openIteration
  by_cases readable : device.descriptorResult ≥ 0
  · by_cases matching : device.idVendor = cPSPVID ∧ device.idProduct = cPSPPID
    · by_cases success : device.openResult ≥ 0
      · have looked : Careful none
            (calls ++ [.readDevice lCount, .getDeviceDescriptor lCount]) :=
          looks (by simp [LibusbCall.Neutral]) (by simp [LibusbCall.Uses])
        have freed : Careful (some device.handle)
            ((calls ++ [.readDevice lCount, .getDeviceDescriptor lCount]) ++
              [.openDevice lCount (some device.handle)] ++
                [.freeDeviceList]) :=
          (looked.opens lCount device.handle).neutral
            (by simp [LibusbCall.Neutral]) (by simp [LibusbCall.Uses])
        simpa [readable, matching, success] using freed.claimOpened
      · cases lDeviceHandle <;>
          simpa [readable, matching, success] using
            looks (by simp [LibusbCall.Neutral]) (by simp [LibusbCall.Uses])
    · simpa [readable, matching] using
        looks (by simp [LibusbCall.Neutral]) (by simp [LibusbCall.Uses])
  · simpa [readable] using
      looks (by simp [LibusbCall.Neutral]) (by simp [LibusbCall.Uses])

theorem openLoop (devices : List DeviceAnswers) (lCount : Nat)
    (lDeviceHandle : Option DeviceHandle)
    (careful : Careful mDeviceHandle calls) :
    Careful (CWUSB.openLoop devices lCount mDeviceHandle lDeviceHandle).1
      (calls ++
        (CWUSB.openLoop devices lCount mDeviceHandle lDeviceHandle).2) := by
  induction devices generalizing calls lCount mDeviceHandle lDeviceHandle with
  | nil =>
      rw [CWUSB.openLoop, List.append_nil]
      exact careful
  | cons device devices induction =>
      cases mDeviceHandle with
      | some handle =>
          rw [openLoop_some, List.append_nil]
          exact careful
      | none =>
          rw [CWUSB.openLoop, ← List.append_assoc]
          apply induction
          exact careful.openIteration device lCount lDeviceHandle

theorem openDevice (reader : USBReader) (devices : DeviceList)
    (careful : Careful reader.mDeviceHandle calls) :
    Careful (reader.openDevice devices).reader.mDeviceHandle
      (calls ++ (reader.openDevice devices).calls) := by
  have listed : Careful reader.mDeviceHandle (calls ++ [.getDeviceList]) := by
    apply careful.neutral
    · simp [LibusbCall.Neutral]
    · simp [LibusbCall.Uses]
  cases devices with
  | failed => exact listed
  | listed devices =>
      have looped := listed.openLoop devices 0 none
      rw [List.append_assoc] at looped
      exact looped

theorem closeCalls (reader : USBReader)
    (careful : Careful reader.mDeviceHandle calls) :
    Careful none (calls ++ reader.closeCalls) := by
  unfold USBReader.closeCalls
  cases found : reader.mDeviceHandle with
  | none =>
      rw [List.append_nil, ← found]
      exact careful
  | some handle =>
      rw [found] at careful
      have still : Careful (some handle)
          (calls ++ [.resetDevice handle, .releaseInterface handle,
            .attachKernelDriver handle]) := by
        apply careful.neutral
        · simp [LibusbCall.Neutral]
        · simp [LibusbCall.Uses]
      simpa using still.closes

end Careful

/-! ## The claimed interface -/

section Claimed

variable {calls : List LibusbCall} {handle : DeviceHandle}

theorem claimOpened_claimed {device : DeviceAnswers} {opened : DeviceHandle}
    (kept : (claimOpened device opened).mDeviceHandle = some handle) :
    ClaimedNow handle (calls ++ (claimOpened device opened).calls) := by
  unfold claimOpened at kept ⊢
  split at kept
  · next configured =>
      split at kept
      · next claimed =>
          rw [if_pos configured, if_pos claimed]
          have claims : LibusbCall.Claims handle (.claimInterface opened) :=
            congrArg LibusbCall.claimInterface (Option.some.inj kept)
          have split : calls ++ [LibusbCall.setAutoDetachKernelDriver opened,
              .setConfiguration opened, .claimInterface opened] =
            (calls ++ [.setAutoDetachKernelDriver opened,
              .setConfiguration opened]) ++ [.claimInterface opened] := by
            simp
          rw [split]
          exact EventLog.since_concat.mpr (.inl claims)
      · cases kept
  · cases kept

theorem openIteration_claimed {device : DeviceAnswers} {lCount : Nat}
    {lDeviceHandle : Option DeviceHandle}
    (kept : (openIteration device lCount lDeviceHandle).mDeviceHandle =
      some handle) :
    ClaimedNow handle
      (calls ++ (openIteration device lCount lDeviceHandle).calls) := by
  unfold openIteration at kept ⊢
  dsimp only at kept ⊢
  split at kept
  · next readable =>
      split at kept
      · next matching =>
          rw [if_pos readable, if_pos matching]
          by_cases success : device.openResult ≥ 0
          · simp only [success, if_true] at kept ⊢
            rw [← List.append_assoc]
            exact claimOpened_claimed kept
          · simp only [success, if_false] at kept
            split at kept <;> cases kept
      · cases kept
  · cases kept

theorem openLoop_claimed {devices : List DeviceAnswers} {lCount : Nat}
    {mDeviceHandle lDeviceHandle : Option DeviceHandle}
    (claimed : mDeviceHandle = some handle → ClaimedNow handle calls)
    (kept : (openLoop devices lCount mDeviceHandle lDeviceHandle).1 =
      some handle) :
    ClaimedNow handle
      (calls ++ (openLoop devices lCount mDeviceHandle lDeviceHandle).2) := by
  induction devices generalizing calls lCount mDeviceHandle lDeviceHandle with
  | nil =>
      rw [openLoop, List.append_nil]
      exact claimed kept
  | cons device devices induction =>
      cases mDeviceHandle with
      | some other =>
          rw [openLoop_some] at kept ⊢
          rw [List.append_nil]
          exact claimed kept
      | none =>
          rw [openLoop, ← List.append_assoc]
          apply induction _ kept
          exact openIteration_claimed

theorem openDevice_claimed {reader : USBReader} {devices : DeviceList}
    (claimed : reader.mDeviceHandle = some handle → ClaimedNow handle calls)
    (kept : (reader.openDevice devices).reader.mDeviceHandle = some handle) :
    ClaimedNow handle (calls ++ (reader.openDevice devices).calls) := by
  have listed : reader.mDeviceHandle = some handle →
      ClaimedNow handle (calls ++ [.getDeviceList]) := by
    intro held
    refine EventLog.since_concat.mpr (.inr ⟨claimed held, ?_⟩)
    simp [LibusbCall.GivesUp]
  cases devices with
  | failed => exact listed kept
  | listed devices =>
      have looped := openLoop_claimed listed kept
      rw [List.append_assoc] at looped
      exact looped

end Claimed

/-! ## The reader's functions -/

/-- The handle kept is open and claimed, and no closed handle was used. -/
structure Usable (mDeviceHandle : Option DeviceHandle)
    (calls : List LibusbCall) : Prop where
  careful : Careful mDeviceHandle calls
  claimed : ∀ handle, mDeviceHandle = some handle → ClaimedNow handle calls

namespace Usable

variable {calls : List LibusbCall}

theorem new : Usable none [] where
  careful := ⟨EventLog.Holds.nil, fun _ => EventLog.throughout_nil⟩
  claimed := nofun

theorem openDevice (reader : USBReader) (devices : DeviceList)
    (usable : Usable reader.mDeviceHandle calls) :
    Usable (reader.openDevice devices).reader.mDeviceHandle
      (calls ++ (reader.openDevice devices).calls) where
  careful := Careful.openDevice reader devices usable.careful
  claimed := fun handle => openDevice_claimed (usable.claimed handle)

theorem closeCalls (reader : USBReader)
    (usable : Usable reader.mDeviceHandle calls) :
    Usable none (calls ++ reader.closeCalls) where
  careful := Careful.closeCalls reader usable.careful
  claimed := nofun

theorem step {use : DeviceUse}
    (usable : Usable use.reader.mDeviceHandle use.calls)
    (action : DeviceAction) :
    Usable (use.step action).reader.mDeviceHandle (use.step action).calls := by
  have closed : Usable use.reader.handleClose.mDeviceHandle
      (use.calls ++ use.reader.closeCalls) :=
    closeCalls use.reader usable
  cases action with
  | openDevice devices => exact openDevice use.reader devices usable
  | handleClose => exact closed
  | handleError devices =>
      exact openDevice use.reader.handleClose devices closed

end Usable

/-! ## The reader's thread -/

namespace ReaderEvent

/-- A transfer through the handle. -/
def Transfers (handle : DeviceHandle) : ReaderEvent → Prop
  | .hello other _ | .helloReturned other => other = handle
  | .read mDeviceHandle _ | .wrote mDeviceHandle _ _ =>
      mDeviceHandle = some handle
  | .libusb _ | .handleError | .bailOut | .forwarded _ => False

def Uses (handle : DeviceHandle) (event : ReaderEvent) : Prop :=
  event.Transfers handle ∨ ∃ call, event = .libusb call ∧ call.Uses handle

/-- The handle of the event is open, and claimed when data is transferred. -/
def UsesRightly (calls : List LibusbCall) (before : List ReaderEvent)
    (event : ReaderEvent) : Prop :=
  ∀ handle,
    (event.Uses handle → OpenNow handle (calls ++ libusbCalls before)) ∧
      (event.Transfers handle →
        ClaimedNow handle (calls ++ libusbCalls before))

end ReaderEvent

namespace ReaderLoop

variable {state next : ReaderLoop} {calls : List LibusbCall}

/-- The device is usable after all calls so far, and was at every use. -/
structure Sound (calls : List LibusbCall) (state : ReaderLoop) : Prop where
  usable : Usable state.reader.mDeviceHandle
    (calls ++ libusbCalls state.events)
  rightly : EventLog.Throughout (ReaderEvent.UsesRightly calls) state.events

/-- A step which calls libusb about the device. -/
theorem Sound.operates (sound : state.Sound calls) {more : List LibusbCall}
    (events : next.events = state.events ++ more.map .libusb)
    (usable : Usable next.reader.mDeviceHandle
      ((calls ++ libusbCalls state.events) ++ more)) : next.Sound calls := by
  constructor
  · rw [events, libusbCalls_append, libusbCalls_map, ← List.append_assoc]
    exact usable
  · rw [events]
    apply sound.rightly.extend
    intro before event after split handle
    obtain ⟨first, rest, rfl, rfl, behind⟩ := List.map_eq_append_iff.mp split
    obtain ⟨call, later, rfl, rfl, rfl⟩ := List.map_eq_cons_iff.mp behind
    refine ⟨?_, False.elim⟩
    rintro (transfers | ⟨_, same, uses⟩)
    · exact transfers.elim
    · cases same
      rw [libusbCalls_append, libusbCalls_map, ← List.append_assoc]
      apply usable.careful.used handle _ call later _ uses
      simp

/-- A step which transfers data at most. -/
theorem Sound.transfers (sound : state.Sound calls) {more : List ReaderEvent}
    (events : next.events = state.events ++ more)
    (handle : next.reader.mDeviceHandle = state.reader.mDeviceHandle)
    (quiet : ∀ event ∈ more, event.libusbCall = none)
    (own : ∀ event ∈ more, ∀ handle, event.Transfers handle →
      state.reader.mDeviceHandle = some handle) : next.Sound calls := by
  constructor
  · rw [events, handle, libusbCalls_append, libusbCalls_eq_nil quiet,
      List.append_nil]
    exact sound.usable
  · rw [events]
    apply sound.rightly.extend
    rintro before event after rfl device
    have silent : libusbCalls before = [] := by
      apply libusbCalls_eq_nil
      intro other member
      exact quiet other (List.mem_append_left _ member)
    rw [libusbCalls_append, silent, List.append_nil]
    constructor
    · rintro (transfers | ⟨call, same, _⟩)
      · have kept := own event (by simp) device transfers
        exact (sound.usable.careful.holds.held device).mpr kept
      · have none := quiet event (by simp)
        rw [same] at none
        cases none
    · intro transfers
      exact sound.usable.claimed device (own event (by simp) device transfers)

theorem readEvents_transfers (transfer : USBReader.ReadTransfer)
    {handle : DeviceHandle} :
    ∀ event ∈ state.readEvents transfer, event.Transfers handle →
      state.reader.mDeviceHandle = some handle := by
  intro event member transfers
  have kept : USBReader.KeptByReceiving USBReader.mDeviceHandle :=
    fun _ _ _ _ _ _ _ _ _ => rfl
  unfold readEvents at member
  split at member
  · cases member
  · rcases List.mem_cons.mp member with rfl | returned
    · exact transfers
    · split at returned
      · obtain ⟨other, held, rfl⟩ := List.mem_map.mp returned
        rw [kept.handleRead, kept.usbBulkRead] at held
        rw [← (transfers : other = handle)]
        simpa using held
      · cases returned

/-- Every transfer goes through the handle the reader keeps. -/
theorem readerEvents_transfers (answers : UsbAnswers) {handle : DeviceHandle} :
    ∀ event ∈ state.readerEvents answers, event.Transfers handle →
      state.reader.mDeviceHandle = some handle := by
  intro event member transfers
  unfold readerEvents at member
  cases here : state.loop with
  | closeDevice site =>
      rw [here] at member
      obtain ⟨call, _, rfl⟩ := List.mem_map.mp member
      exact transfers.elim
  | checkDevice =>
      simp only [here] at member
      split at member
      · cases member
      · obtain ⟨other, kept, rfl⟩ := List.mem_map.mp member
        rw [← (transfers : other = handle)]
        simpa using kept
  | errorTest =>
      simp only [here] at member
      split at member
      · rw [List.mem_singleton.mp member] at transfers
        exact transfers.elim
      · split at member
        · rw [List.mem_singleton.mp member] at transfers
          exact transfers.elim
        · cases member
  | openDevice =>
      rw [here] at member
      obtain ⟨call, _, rfl⟩ := List.mem_map.mp member
      exact transfers.elim
  | read =>
      rw [here] at member
      exact readEvents_transfers answers.read event member transfers
  | sendWrite lFormattedPacket =>
      rw [here] at member
      rw [List.mem_singleton.mp member] at transfers
      exact transfers
  | _ => simp [here] at member

theorem Sound.readerStep (sound : state.Sound calls) (answers : UsbAnswers) :
    (state.readerStep answers).Sound calls := by
  have events := state.readerStep_events answers
  by_cases closes : ∃ site, state.loop = .closeDevice site
  · obtain ⟨site, here⟩ := closes
    apply sound.operates
    · rw [events, readerEvents, here]
    · rw [ReaderLoop.readerStep, here]
      exact Usable.closeCalls state.reader sound.usable
  · by_cases opens : state.loop = .openDevice
    · apply sound.operates
      · rw [events, readerEvents, opens]
      · rw [ReaderLoop.readerStep, opens]
        exact Usable.openDevice state.reader answers.devices sound.usable
    · have notClosing : ∀ site, state.loop ≠ .closeDevice site :=
        fun site here => closes ⟨site, here⟩
      apply sound.transfers events
      · exact readerStep_mDeviceHandle answers notClosing opens
      · exact readerEvents_libusbCall answers notClosing opens
      · exact fun event member handle =>
          readerEvents_transfers answers event member

theorem Sound.step {action : Action} (sound : state.Sound calls)
    (taken : machine.step state action = some next) : next.Sound calls := by
  rcases step_cases taken with ⟨answers, rfl, rfl⟩ | ⟨_, elsewhere⟩
  · exact sound.readerStep answers
  · obtain ⟨payloads, events⟩ := elsewhere.events
    apply sound.transfers events
    · rw [elsewhere.reader]
    · intro event member
      obtain ⟨payload, _, rfl⟩ := List.mem_map.mp member
      rfl
    · intro event member handle transfers
      obtain ⟨payload, _, rfl⟩ := List.mem_map.mp member
      exact transfers.elim

end ReaderLoop

/-! ## The whole program -/

namespace Opening

variable {settings : OpenSettings} {opening next : Opening}

theorem openKai_device {fails : Bool}
    (taken : opening.openKai settings fails = .ok next) :
    next.device = opening.device := by
  unfold openKai at taken
  split at taken
  · cases taken
    rfl
  · cases opens : openConnection opening.connection settings fails with
    | error exception => simp [opens, Except.map] at taken
    | ok connection =>
        simp only [opens, Except.map, Except.ok.injEq] at taken
        subst next
        rfl

theorem usable_openUSB (devices : DeviceList)
    (usable : Usable opening.device.reader.mDeviceHandle
      opening.device.calls) :
    Usable (opening.openUSB devices).device.reader.mDeviceHandle
      (opening.openUSB devices).device.calls := by
  have opened := usable.step (.openDevice devices)
  unfold openUSB
  split
  · exact usable
  · dsimp only
    split
    · exact opened
    · exact opened.step .handleClose

theorem usable_step {answers : OpenAnswers}
    (usable : Usable opening.device.reader.mDeviceHandle opening.device.calls)
    (taken : (machine settings).step opening answers = some next) :
    Usable next.device.reader.mDeviceHandle next.device.calls := by
  simp only [machine, Opening.step] at taken
  split at taken
  · cases taken
  · unfold iterate at taken
    cases opens : opening.openKai settings answers.socketFails with
    | error exception => simp [opens, Except.map] at taken
    | ok middle =>
        simp only [opens, Except.map, Option.some.injEq] at taken
        subst next
        apply usable_openUSB
        rw [openKai_device opens]
        exact usable

end Opening

namespace Program

variable {program next : Program} {calls : List LibusbCall}

theorem sound_mainStep {fails : Bool} (sound : program.usb.Sound calls)
    (moves : program.MainStepped fails next) : next.usb.Sound calls := by
  cases moves with
  | requestStop usb here taken => exact sound.step taken
  | closeDevice here unstarted =>
      apply sound.operates
      · rfl
      · exact Usable.closeCalls program.usb.reader sound.usable
  | _ => exact { sound with }

theorem sound_step {action : Action} (sound : program.usb.Sound calls)
    (taken : machine.step program action = some next) :
    next.usb.Sound calls := by
  cases stepped taken with
  | main fails _ moves => exact sound_mainStep sound moves
  | usb action usb runs moves => exact sound.step moves
  | kai action kai runs moves =>
      obtain ⟨sendThread, usb⟩ :=
        (foldl_sendsOnly { program with kai := kai }
          (handedOver program.kai kai)).usb
      rw [usb]
      exact { sound with }

/-- From the construction of the reader to the end of the program: every
handle given to libusb is open then, every transfer is made while the
interface of its handle is claimed, and the handle the reader keeps is open and
claimed all the time. -/
theorem handles_used_rightly {settings : OpenSettings} {reader : USBReader}
    {tries : List OpenAnswers} {opening : Opening}
    {mMaxBufferedMessages : Int} {actions : List Action} {finish : Program}
    (closed : reader.mDeviceHandle = none)
    (opens : (Opening.machine settings).run (Opening.start reader) tries =
      some opening)
    (reached : machine.run (opening.program mMaxBufferedMessages) actions =
      some finish) :
    (∀ handle, EventLog.Throughout
        (fun before call => call.Uses handle → OpenNow handle before)
        opening.device.calls) ∧
      EventLog.Throughout (ReaderEvent.UsesRightly opening.device.calls)
        finish.usb.events ∧
      ∀ handle, finish.usb.reader.mDeviceHandle = some handle →
        OpenNow handle
            (opening.device.calls ++ libusbCalls finish.usb.events) ∧
          ClaimedNow handle
            (opening.device.calls ++ libusbCalls finish.usb.events) := by
  have usable : Usable opening.device.reader.mDeviceHandle
      opening.device.calls := by
    apply (Opening.machine settings).run_invariant
      (fun opening => Usable opening.device.reader.mDeviceHandle
        opening.device.calls) (fun _ _ _ => Opening.usable_step) _ opens
    rw [Opening.start, closed]
    exact Usable.new
  have sound : finish.usb.Sound opening.device.calls := by
    apply machine.run_invariant
      (fun program => program.usb.Sound opening.device.calls)
      (fun _ _ _ => sound_step) _ reached
    refine ⟨?_, EventLog.throughout_nil⟩
    rw [Opening.program, start, ReaderLoop.start, libusbCalls,
      List.filterMap_nil, List.append_nil]
    exact usable
  refine ⟨usable.careful.used, sound.rightly, fun handle kept => ?_⟩
  exact ⟨(sound.usable.careful.holds.held handle).mpr kept,
    sound.usable.claimed handle kept⟩

/-- The device does not answer, and is opened anew. -/
def openedAnew : List Action :=
  mainSteps 5 ++
    List.replicate 7
      (.usb (.reader
        { ReaderLoop.helloFails with devices := .onePSP 2 }))

theorem handles_used_rightly_openedAnew :
    ∃ opening finish,
      (Opening.machine Opening.localSettings).run
          (Opening.start USBReader.newReader) Opening.threeTries =
          some opening ∧
        machine.run (opening.program 50) openedAnew = some finish ∧
        finish.usb.reader.mDeviceHandle = some 2 ∧
        .hello 1 (-1) ∈ finish.usb.events ∧
        (∀ handle, EventLog.Throughout
            (fun before call => call.Uses handle → OpenNow handle before)
            opening.device.calls) ∧
        EventLog.Throughout (ReaderEvent.UsesRightly opening.device.calls)
            finish.usb.events ∧
        ∀ handle, finish.usb.reader.mDeviceHandle = some handle →
          OpenNow handle
              (opening.device.calls ++ libusbCalls finish.usb.events) ∧
            ClaimedNow handle
              (opening.device.calls ++ libusbCalls finish.usb.events) := by
  have runs : ((Opening.machine Opening.localSettings).run
      (Opening.start USBReader.newReader) Opening.threeTries).any
        (fun opening =>
          (machine.run (opening.program 50) openedAnew).any
            (fun finish => decide (finish.usb.reader.mDeviceHandle = some 2 ∧
              .hello 1 (-1) ∈ finish.usb.events))) = true := by
    decide +kernel
  obtain ⟨opening, opens, goes⟩ := (Option.any_eq_true _ _).mp runs
  obtain ⟨finish, reached, outcome⟩ := (Option.any_eq_true _ _).mp goes
  obtain ⟨kept, greeted⟩ := of_decide_eq_true outcome
  exact ⟨opening, finish, opens, reached, kept, greeted,
    handles_used_rightly rfl opens reached⟩

end Program

end CWUSB
