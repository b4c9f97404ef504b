import CWUSB.Library.EventLog
import CWUSB.ReaderSteps

/-!
# The hello before the first frame

`USBCheckDevice` greets the device and `mUSBCheckSuccessful` remembers that it
answered.  `HandleError` opens the device anew and clears the flag, but the
iteration goes on to read and write.  Frames on an open handle follow a hello
on it exactly as long as no frame is written while the flag is clear.
-/

namespace CWUSB

/-- The device answered the hello of `USBCheckDevice` since it was opened. -/
def HelloSinceOpened (handle : DeviceHandle) (events : List ReaderEvent) :
    Prop :=
  EventLog.Since (fun event => event = .hello handle 4)
    (fun event => ∃ lCount,
      event = .libusb (.openDevice lCount (some handle))) events

/-- Every frame written on an open handle follows a hello on it. -/
def HelloFirst (events : List ReaderEvent) : Prop :=
  EventLog.Throughout (fun before event =>
    ∀ handle lFormattedPacket lReturn,
      event = .wrote (some handle) lFormattedPacket lReturn →
        HelloSinceOpened handle before) events

/-- The handle on which a frame was given to `USBBulkWrite`. -/
def ReaderEvent.attemptedOn : ReaderEvent → Option DeviceHandle
  | .wrote mDeviceHandle _ _ => mDeviceHandle
  | _ => none

/-- The handle on which a hello was tried. -/
def ReaderEvent.helloOn : ReaderEvent → Option DeviceHandle
  | .hello handle _ => some handle
  | _ => none

theorem openIteration_opened {device : DeviceAnswers} {lCount : Nat}
    {lDeviceHandle : Option DeviceHandle} {handle : DeviceHandle}
    (opened : (openIteration device lCount lDeviceHandle).mDeviceHandle =
      some handle) :
    .openDevice lCount (some handle) ∈
      (openIteration device lCount lDeviceHandle).calls := by
  unfold openIteration at opened ⊢
  dsimp only at opened ⊢
  split at opened
  · split at opened
    · next described isPSP =>
        rw [if_pos described, if_pos isPSP]
        by_cases success : device.openResult ≥ 0
        · simp only [success, if_true] at opened ⊢
          have same : device.handle = handle := by
            unfold claimOpened at opened
            split at opened
            · split at opened
              · exact Option.some.inj opened
              · cases opened
            · cases opened
          simp [same]
        · simp only [success, if_false] at opened
          split at opened <;> cases opened
    · cases opened
  · cases opened

/-- `Open` without a device opened before it has the handle it ends with
opened just now. -/
theorem openLoop_opened {devices : List DeviceAnswers} {lCount : Nat}
    {lDeviceHandle : Option DeviceHandle} {handle : DeviceHandle}
    (opened : (openLoop devices lCount none lDeviceHandle).1 = some handle) :
    ∃ position, .openDevice position (some handle) ∈
      (openLoop devices lCount none lDeviceHandle).2 := by
  induction devices generalizing lCount lDeviceHandle with
  | nil => simp [openLoop] at opened
  | cons device devices induction =>
      simp only [openLoop] at opened ⊢
      cases first :
          (openIteration device lCount lDeviceHandle).mDeviceHandle with
      | none =>
          rw [first] at opened
          obtain ⟨position, member⟩ := induction opened
          exact ⟨position, List.mem_append_right _ member⟩
      | some other =>
          rw [first, openLoop_some] at opened
          obtain rfl := Option.some.inj opened
          exact ⟨lCount, List.mem_append_left _ (openIteration_opened first)⟩

theorem openDevice_opened {reader : USBReader} {devices : DeviceList}
    {handle : DeviceHandle} (closed : reader.mDeviceHandle = none)
    (opened : (reader.openDevice devices).reader.mDeviceHandle =
      some handle) :
    ∃ position, .openDevice position (some handle) ∈
      (reader.openDevice devices).calls := by
  cases devices with
  | failed =>
      have still : reader.mDeviceHandle = some handle := opened
      rw [closed] at still
      cases still
  | listed devices =>
      simp only [USBReader.openDevice, closed] at opened ⊢
      obtain ⟨position, member⟩ := openLoop_opened opened
      exact ⟨position, List.mem_cons_of_mem _ member⟩

namespace ReaderLoop

/-- A frame is written on an open handle only while the check flag is set. -/
def WritesChecked (state : ReaderLoop) : Action → Prop
  | .reader _ => ∀ lFormattedPacket,
      state.loop = .sendWrite lFormattedPacket →
        state.reader.mDeviceHandle.isSome →
          state.reader.mUSBCheckSuccessful = true
  | _ => True

/-- The check flag says whether the open device answered a hello.  While the
device is closed or just opened anew the flag may be left over. -/
structure Greeted (state : ReaderLoop) : Prop where
  closed : (∃ site, state.loop = .clearStop site) ∨
    state.loop = .openDevice → state.reader.mDeviceHandle = none
  reopened : state.loop = .resetFlags → ∀ handle,
    state.reader.mDeviceHandle = some handle →
      ¬ HelloSinceOpened handle state.events
  checked : state.loop ≠ .resetFlags → ∀ handle,
    state.reader.mDeviceHandle = some handle →
      (state.reader.mUSBCheckSuccessful = true ↔
        HelloSinceOpened handle state.events)

theorem greeted_start {reader : USBReader}
    (unchecked : reader.mUSBCheckSuccessful = false)
    (mMaxBufferedMessages : Int) :
    (start reader mMaxBufferedMessages).Greeted where
  closed := by simp [start]
  reopened := by simp [start]
  checked := by
    intro _ handle _
    have never : ¬ HelloSinceOpened handle [] := EventLog.not_since_nil
    simp [start, unchecked, never]

section Events

variable {events more : List ReaderEvent}

theorem helloSinceOpened_append {handle : DeviceHandle}
    (unrelated : ∀ event ∈ more, event.Unrelated) :
    HelloSinceOpened handle (events ++ more) ↔
      HelloSinceOpened handle events := by
  apply EventLog.since_append
  intro event member
  have none := unrelated event member
  constructor
  · rintro rfl
    exact none
  · rintro ⟨_, rfl⟩
    exact none

theorem helloFirst_append (noFrame : ∀ event ∈ more, event.NoFrame) :
    HelloFirst (events ++ more) ↔ HelloFirst events := by
  apply EventLog.throughout_append
  rintro _ member _ _ _ _ rfl
  exact absurd (noFrame _ member) id

end Events

section Step

variable {state next : ReaderLoop}

/-! ## What a step does to the flag and the handle -/

/-- A step which neither opens nor greets a device. -/
theorem Greeted.unrelated (greeted : state.Greeted)
    (handle : next.reader.mDeviceHandle = state.reader.mDeviceHandle)
    (check : next.reader.mUSBCheckSuccessful =
      state.reader.mUSBCheckSuccessful)
    (events : ∃ more, next.events = state.events ++ more ∧
      ∀ event ∈ more, event.Unrelated)
    (point : next.loop = .resetFlags ↔ state.loop = .resetFlags)
    (closed : (∃ site, next.loop = .clearStop site) ∨
      next.loop = .openDevice → state.reader.mDeviceHandle = none) :
    next.Greeted := by
  obtain ⟨more, split, unrelated⟩ := events
  have same (device : DeviceHandle) :
      HelloSinceOpened device next.events ↔
        HelloSinceOpened device state.events := by
    rw [split]
    exact helloSinceOpened_append unrelated
  constructor
  · rw [handle]
    exact closed
  · rw [handle, point]
    intro here device
    rw [same]
    exact greeted.reopened here device
  · rw [handle, check, Ne, point]
    intro elsewhere device
    rw [same]
    exact greeted.checked elsewhere device

/-- A step which leaves the device closed. -/
theorem greeted_of_closed (closed : next.reader.mDeviceHandle = none) :
    next.Greeted where
  closed := fun _ => closed
  reopened := by simp [closed]
  checked := by simp [closed]

/-- The four steps which may change the handle or the flag. -/
def TouchesDevice (state : ReaderLoop) : Prop :=
  (∃ site, state.loop = .closeDevice site) ∨ state.loop = .checkDevice ∨
    state.loop = .openDevice ∨ state.loop = .resetFlags

theorem readerStep_device (answers : UsbAnswers)
    (elsewhere : ¬ state.TouchesDevice) :
    (state.readerStep answers).reader.mDeviceHandle =
        state.reader.mDeviceHandle ∧
      (state.readerStep answers).reader.mUSBCheckSuccessful =
        state.reader.mUSBCheckSuccessful := by
  unfold readerStep
  cases here : state.loop with
  | closeDevice site => exact absurd (.inl ⟨site, here⟩) elsewhere
  | checkDevice => exact absurd (.inr (.inl here)) elsewhere
  | openDevice => exact absurd (.inr (.inr (.inl here))) elsewhere
  | resetFlags => exact absurd (.inr (.inr (.inr here))) elsewhere
  | stopTest =>
      dsimp only
      split <;> exact ⟨rfl, rfl⟩
  | errorTest =>
      dsimp only [errorTest]
      split
      · exact ⟨rfl, rfl⟩
      · split <;> exact ⟨rfl, rfl⟩
  | read =>
      exact ⟨read_kept (fun _ _ _ _ _ _ _ _ _ => rfl) state answers.read,
        read_kept (fun _ _ _ _ _ _ _ _ _ => rfl) state answers.read⟩
  | sendLoop =>
      dsimp only [sendHead]
      split <;> exact ⟨rfl, rfl⟩
  | sendWrite lFormattedPacket =>
      exact ⟨sendWrite_kept (fun _ _ _ _ _ _ _ _ _ => rfl) state
          lFormattedPacket answers.write,
        sendWrite_kept (fun _ _ _ _ _ _ _ _ _ => rfl) state
          lFormattedPacket answers.write⟩
  | _ => exact ⟨rfl, rfl⟩

/-- The flag is set when there is no device, or the device answers. -/
theorem Greeted.checkDevice (greeted : state.Greeted) (answers : UsbAnswers)
    (here : state.loop = .checkDevice) :
    (state.readerStep answers).Greeted := by
  have checked := greeted.checked (by simp [here])
  have stepped : state.readerStep answers =
      (state.checkDevice answers.hello).goTo .errorTest := by
    rw [readerStep, here]
  rw [stepped]
  unfold ReaderLoop.checkDevice
  split
  · next already =>
      exact ⟨by simp [goTo], by simp [goTo], fun _ => checked⟩
  · next unchecked =>
      refine ⟨by simp [goTo], by simp [goTo], fun _ handle opened => ?_⟩
      have opened : state.reader.mDeviceHandle = some handle := opened
      have before := (checked handle opened).not.mp unchecked
      simp only [goTo, record, setReader, USBReader.usbCheckDevice, opened,
        Option.isSome_some, if_true, Option.toList_some, List.map_cons,
        List.map_nil, decide_eq_true_eq]
      rw [HelloSinceOpened, EventLog.since_concat, ← HelloSinceOpened]
      simp [before]

theorem Greeted.openDevice (greeted : state.Greeted) (answers : UsbAnswers)
    (here : state.loop = .openDevice) :
    (state.readerStep answers).Greeted := by
  have closed := greeted.closed (.inr here)
  have stepped : state.readerStep answers =
      ((state.setReader (state.reader.openDevice answers.devices).reader).record
        ((state.reader.openDevice answers.devices).calls.map .libusb)).goTo
          .resetFlags := by
    rw [readerStep, here]
  rw [stepped]
  refine ⟨by simp [goTo], fun _ handle opened => ?_, by simp [goTo]⟩
  apply EventLog.not_since_append
  · intro event member
    obtain ⟨call, _, rfl⟩ := List.mem_map.mp member
    simp
  · obtain ⟨position, member⟩ := openDevice_opened closed opened
    exact ⟨_, List.mem_map_of_mem member, position, rfl⟩

/-- Clearing the flag of a device which is open but not greeted. -/
theorem Greeted.resetFlags (greeted : state.Greeted) (answers : UsbAnswers)
    (here : state.loop = .resetFlags) :
    (state.readerStep answers).Greeted := by
  have stepped : state.readerStep answers =
      (state.setReader state.reader.resetFlags).goTo .clearSendQueues := by
    rw [readerStep, here]
  rw [stepped]
  refine ⟨by simp [goTo], by simp [goTo], fun _ handle opened => ?_⟩
  have ungreeted := greeted.reopened here handle opened
  exact iff_of_false Bool.false_ne_true ungreeted

theorem Greeted.readerStep (greeted : state.Greeted) (answers : UsbAnswers) :
    (state.readerStep answers).Greeted := by
  by_cases touches : state.TouchesDevice
  · rcases touches with ⟨site, here⟩ | here | here | here
    · apply greeted_of_closed
      rw [ReaderLoop.readerStep, here]
      rfl
    · exact greeted.checkDevice answers here
    · exact greeted.openDevice answers here
    · exact greeted.resetFlags answers here
  · obtain ⟨handle, check⟩ := state.readerStep_device answers touches
    have leads := state.readerStep_leadsTo answers
    simp only [TouchesDevice, not_or, not_exists] at touches
    obtain ⟨notClosing, notChecking, notOpening, notResetting⟩ := touches
    refine greeted.unrelated handle check
      ⟨_, state.readerStep_events answers, ?_⟩ ?_ ?_
    · intro event member
      have kinds := state.readerEvents_kinds answers event member
      exact kinds.2.resolve_right (by simp [notChecking, notOpening])
    · constructor
      · intro there
        rw [there] at leads
        exact absurd leads.to_resetFlags notOpening
      · exact fun here => absurd here notResetting
    · rintro (⟨site, there⟩ | there)
      · rw [there] at leads
        exact absurd leads.to_clearStop (notClosing site)
      · rw [there] at leads
        exact greeted.closed (.inl ⟨.errorReset, leads.to_openDevice⟩)

theorem Greeted.step {action : Action} (greeted : state.Greeted)
    (taken : machine.step state action = some next) : next.Greeted := by
  rcases step_cases taken with ⟨answers, _, rfl⟩ | ⟨_, elsewhere⟩
  · exact greeted.readerStep answers
  · obtain ⟨payloads, events⟩ := elsewhere.events
    refine greeted.unrelated ?_ ?_ ⟨_, events, ?_⟩ ?_ ?_
    · rw [elsewhere.reader]
    · rw [elsewhere.reader]
    · intro event member
      obtain ⟨payload, _, rfl⟩ := List.mem_map.mp member
      trivial
    · rw [elsewhere.loop]
    · rw [elsewhere.loop]
      exact greeted.closed

/-- Writing a frame keeps the order exactly when the flag is set. -/
theorem sendWrite_helloFirst {lFormattedPacket : BinaryStitchUSBPacket}
    (greeted : state.Greeted) (holds : HelloFirst state.events)
    (answers : UsbAnswers) (here : state.loop = .sendWrite lFormattedPacket) :
    HelloFirst (state.readerStep answers).events ↔
      state.WritesChecked (.reader answers) := by
  have checked := greeted.checked (by simp [here])
  rw [readerStep_events, readerEvents, here, HelloFirst,
    EventLog.throughout_concat]
  constructor
  · rintro ⟨_, last⟩ _ _ opened
    obtain ⟨handle, opened⟩ := Option.isSome_iff_exists.mp opened
    exact (checked handle opened).mpr (last handle _ _ (by rw [opened]))
  · intro guard
    refine ⟨holds, fun handle packet lReturn same => ?_⟩
    simp only [ReaderEvent.wrote.injEq] at same
    exact (checked handle same.1).mp (guard _ here (by simp [same.1]))

/-- Any other step of the reader's thread writes no frame. -/
theorem readerStep_helloFirst (holds : HelloFirst state.events)
    (answers : UsbAnswers)
    (notWriting : ¬ ∃ lFormattedPacket,
      state.loop = .sendWrite lFormattedPacket) :
    HelloFirst (state.readerStep answers).events := by
  rw [readerStep_events]
  apply (helloFirst_append ?_).mpr holds
  intro event member
  have kinds := state.readerEvents_kinds answers event member
  exact kinds.1.resolve_right notWriting

theorem step_helloFirst {action : Action} (greeted : state.Greeted)
    (holds : HelloFirst state.events)
    (taken : machine.step state action = some next) :
    HelloFirst next.events ↔ state.WritesChecked action := by
  rcases step_cases taken with ⟨answers, rfl, rfl⟩ | ⟨other, elsewhere⟩
  · by_cases writing : ∃ lFormattedPacket,
        state.loop = .sendWrite lFormattedPacket
    · obtain ⟨lFormattedPacket, here⟩ := writing
      exact sendWrite_helloFirst greeted holds answers here
    · exact iff_of_true (readerStep_helloFirst holds answers writing)
        fun packet here => absurd ⟨packet, here⟩ writing
  · obtain ⟨payloads, events⟩ := elsewhere.events
    have allowed : state.WritesChecked action := by
      cases action with
      | reader answers => exact absurd rfl (other answers)
      | _ => trivial
    refine iff_of_true ?_ allowed
    rw [events]
    apply (helloFirst_append ?_).mpr holds
    intro event member
    obtain ⟨payload, _, rfl⟩ := List.mem_map.mp member
    trivial

end Step

/-- Every frame on an open handle follows a hello on it exactly when none is
written while the check flag is clear. -/
theorem hello_first_iff {reader : USBReader}
    (unchecked : reader.mUSBCheckSuccessful = false)
    (mMaxBufferedMessages : Int) (actions : List Action) :
    machine.Always (fun state => HelloFirst state.events)
        (start reader mMaxBufferedMessages) actions ↔
      machine.Guarded WritesChecked (start reader mMaxBufferedMessages)
        actions :=
  machine.always_iff_guarded Greeted (fun _ => True)
    (fun _ _ _ greeted _ _ taken _ => greeted.step taken)
    (fun _ _ _ greeted holds _ taken => step_helloFirst greeted holds taken)
    (greeted_start unchecked mMaxBufferedMessages) EventLog.throughout_nil
    (fun _ _ => trivial)

/-- A frame waits when the device answers the hello. -/
def helloThenFrame : List Action :=
  [.addToQueue [7], .sendThread, .sendThread] ++
    List.replicate 8 (.reader {})

theorem hello_first_iff_frame :
    ∃ finish,
      machine.run (start openedReader 50) helloThenFrame = some finish ∧
        finish.events.any (fun event => event.attemptedOn == some 0) = true ∧
        (machine.Always (fun state => HelloFirst state.events)
            (start openedReader 50) helloThenFrame ↔
          machine.Guarded WritesChecked (start openedReader 50)
            helloThenFrame) := by
  have writes : (machine.run (start openedReader 50) helloThenFrame).any
      (fun finish =>
        finish.events.any (fun event => event.attemptedOn == some 0)) =
          true := by
    decide +kernel
  obtain ⟨finish, reached, frame⟩ := (Option.any_eq_true _ _).mp writes
  exact ⟨finish, reached, frame, hello_first_iff rfl 50 _⟩

/-- The device does not answer the hello and is opened again; a frame is ready
before the iteration writes. -/
def helloSkipped : List Action :=
  List.replicate 12 (.reader helloFails) ++
    [.addToQueue [7], .sendThread, .sendThread] ++
    List.replicate 2 (.reader helloFails)

/-- The frame is written on the new handle, on which no hello was tried. -/
theorem hello_skipped :
    ∃ finish,
      machine.run (start openedReader 50) helloSkipped = some finish ∧
        (∃ lFormattedPacket lReturn,
          .wrote (some 1) lFormattedPacket lReturn ∈ finish.events) ∧
        (∀ lLength, .hello 1 lLength ∉ finish.events) ∧
        ¬ HelloFirst finish.events := by
  have skips : (machine.run (start openedReader 50) helloSkipped).any
      (fun finish =>
        finish.events.any (fun event => event.attemptedOn == some 1) &&
        finish.events.all (fun event => event.helloOn != some 1)) =
          true := by
    decide +kernel
  obtain ⟨finish, reached, outcome⟩ := (Option.any_eq_true _ _).mp skips
  rw [Bool.and_eq_true, List.any_eq_true, List.all_eq_true] at outcome
  obtain ⟨⟨event, member, isFrame⟩, noHello⟩ := outcome
  have never : ∀ lLength, .hello 1 lLength ∉ finish.events := by
    intro lLength hello
    simpa [ReaderEvent.helloOn] using noHello _ hello
  cases event with
  | wrote mDeviceHandle lFormattedPacket lReturn =>
      obtain rfl : mDeviceHandle = some 1 := eq_of_beq isFrame
      refine ⟨finish, reached, ⟨_, _, member⟩, never, fun holds => ?_⟩
      obtain ⟨before, after, split⟩ := List.append_of_mem member
      obtain ⟨earlier, _, later, rfl, rfl, _⟩ :=
        holds before _ after split 1 lFormattedPacket lReturn rfl
      exact never 4 (by rw [split]; simp)
  | _ => cases isFrame

end ReaderLoop

end CWUSB
