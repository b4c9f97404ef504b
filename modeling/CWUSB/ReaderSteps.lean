import CWUSB.ReaderLoop

/-!
# The steps of the reader's loop

What a step of any thread does is said here once: the steps of the other
threads leave the loop where it is, and a step of the reader's thread moves
along a fixed graph, adds certain events and assigns certain fields.
-/

namespace CWUSB

/-- An event which is neither a hello nor an opening. -/
def ReaderEvent.Unrelated : ReaderEvent → Prop
  | .hello _ _ | .libusb (.openDevice _ _) => False
  | _ => True

def ReaderEvent.NoFrame : ReaderEvent → Prop
  | .wrote _ _ _ => False
  | _ => True

namespace ReaderPoint

/-- Where the reader's thread goes on. -/
inductive LeadsTo : ReaderPoint → ReaderPoint → Prop where
  | goesOn : LeadsTo .condition .stopTest
  | leaves : LeadsTo .condition .finished
  | stops : LeadsTo .stopTest (.closeDevice .stopBranch)
  | checks : LeadsTo .stopTest .checkDevice
  | closed (site : CloseSite) : LeadsTo (.closeDevice site) (.clearStop site)
  | stopped : LeadsTo (.clearStop .stopBranch) .condition
  | reopens : LeadsTo (.clearStop .errorReset) .openDevice
  | bailedOut : LeadsTo (.clearStop .bailOut) .resetRetries
  | checked : LeadsTo .checkDevice .errorTest
  | resets : LeadsTo .errorTest (.closeDevice .errorReset)
  | bailsOut : LeadsTo .errorTest (.closeDevice .bailOut)
  | reads : LeadsTo .errorTest .read
  | opened : LeadsTo .openDevice .resetFlags
  | flagsReset : LeadsTo .resetFlags .clearSendQueues
  | sendCleared : LeadsTo .clearSendQueues .clearReceiveQueues
  | receiveCleared : LeadsTo .clearReceiveQueues .read
  | retriesReset : LeadsTo .resetRetries .read
  | hasRead : LeadsTo .read .sendTest
  | receiving : LeadsTo .sendTest .condition
  | sends : LeadsTo .sendTest .sendLoop
  | popped (lFormattedPacket : BinaryStitchUSBPacket) :
      LeadsTo .sendLoop (.sendWrite lFormattedPacket)
  | nothingToSend : LeadsTo .sendLoop .condition
  | written (lFormattedPacket : BinaryStitchUSBPacket) :
      LeadsTo (.sendWrite lFormattedPacket) .sendLoop
  | ended : LeadsTo .finished .finished

namespace LeadsTo

variable {point : ReaderPoint}

theorem to_clearStop {site : CloseSite}
    (leads : point.LeadsTo (.clearStop site)) :
    point = .closeDevice site := by
  cases leads
  rfl

theorem to_openDevice (leads : point.LeadsTo .openDevice) :
    point = .clearStop .errorReset := by
  cases leads
  rfl

theorem to_resetFlags (leads : point.LeadsTo .resetFlags) :
    point = .openDevice := by
  cases leads
  rfl

theorem to_errorTest (leads : point.LeadsTo .errorTest) :
    point = .checkDevice := by
  cases leads
  rfl

theorem to_bailOut (leads : point.LeadsTo (.closeDevice .bailOut)) :
    point = .errorTest := by
  cases leads
  rfl

theorem to_sendWrite {lFormattedPacket : BinaryStitchUSBPacket}
    (leads : point.LeadsTo (.sendWrite lFormattedPacket)) :
    point = .sendLoop := by
  cases leads
  rfl

end LeadsTo

/-- The events a step at a point of the loop may add. -/
inductive Records : ReaderPoint → ReaderEvent → Prop where
  | closes (site : CloseSite) {call : LibusbCall}
      (unrelated : (ReaderEvent.libusb call).Unrelated) :
      Records (.closeDevice site) (.libusb call)
  | greets (handle : DeviceHandle) (lLength : Int) :
      Records .checkDevice (.hello handle lLength)
  | resets : Records .errorTest .handleError
  | bailsOut : Records .errorTest .bailOut
  | opens (call : LibusbCall) : Records .openDevice (.libusb call)
  | reads (mDeviceHandle : Option DeviceHandle) (lLength : Int) :
      Records .read (.read mDeviceHandle lLength)
  | answers (handle : DeviceHandle) : Records .read (.helloReturned handle)
  | writes (lFormattedPacket : BinaryStitchUSBPacket)
      (mDeviceHandle : Option DeviceHandle) (lReturn : Int) :
      Records (.sendWrite lFormattedPacket)
        (.wrote mDeviceHandle lFormattedPacket lReturn)

end ReaderPoint

namespace ReaderLoop

/-! ## Steps of the other threads -/

/-- A step which only the other threads notice, apart from a stop request. -/
structure Elsewhere (state next : ReaderLoop) : Prop where
  loop : next.loop = state.loop
  reader :
    next.reader =
      { state.reader with mStopRequest := next.reader.mStopRequest }
  events : ∃ payloads : List (List UInt8),
    next.events = state.events ++ payloads.map .forwarded

theorem step_cases {state next : ReaderLoop} {action : Action}
    (taken : machine.step state action = some next) :
    (∃ answers, action = .reader answers ∧
        next = state.readerStep answers) ∨
      ((∀ answers, action ≠ .reader answers) ∧ state.Elsewhere next) := by
  cases action with
  | reader answers =>
      cases taken
      exact .inl ⟨answers, rfl, rfl⟩
  | addToQueue aData =>
      cases taken
      exact .inr ⟨nofun, rfl, rfl, [], (List.append_nil _).symm⟩
  | sendThread =>
      cases taken
      exact .inr ⟨nofun, rfl, rfl, [], (List.append_nil _).symm⟩
  | receiveThread =>
      cases taken
      exact .inr ⟨nofun, rfl, rfl, _, rfl⟩
  | requestStop =>
      simp only [machine, step, Option.ite_none_right_eq_some,
        Option.some.injEq] at taken
      obtain ⟨_, rfl⟩ := taken
      exact .inr ⟨nofun, rfl, rfl, [], (List.append_nil _).symm⟩

/-! ## Steps of the reader's thread -/

/-- The step reads, writes, or counts a reset. -/
def Counts (state : ReaderLoop) : Prop :=
  state.loop = .resetFlags ∨ state.loop = .resetRetries ∨
    state.loop = .read ∨
    ∃ lFormattedPacket, state.loop = .sendWrite lFormattedPacket

/-- A field other than the handle and the flags of the check, of a stop and of
sending. -/
def KeptByControl (field : USBReader → β) : Prop :=
  ∀ (reader : USBReader) (mDeviceHandle : Option DeviceHandle)
    (mUSBCheckSuccessful mStopRequest mSendStitching : Bool),
    field
        { reader with
          mDeviceHandle := mDeviceHandle
          mUSBCheckSuccessful := mUSBCheckSuccessful
          mStopRequest := mStopRequest
          mSendStitching := mSendStitching } = field reader

section Step

variable (state : ReaderLoop) (answers : UsbAnswers)

theorem readerStep_leadsTo :
    state.loop.LeadsTo (state.readerStep answers).loop := by
  unfold readerStep
  cases here : state.loop with
  | condition =>
      dsimp only [goTo]
      split
      · exact .goesOn
      · exact .leaves
  | stopTest =>
      dsimp only
      split
      · exact .stops
      · exact .checks
  | closeDevice site => exact .closed site
  | clearStop site =>
      cases site with
      | stopBranch => exact .stopped
      | errorReset => exact .reopens
      | bailOut => exact .bailedOut
  | checkDevice => exact .checked
  | errorTest =>
      dsimp only [errorTest]
      split
      · exact .resets
      · split
        · exact .bailsOut
        · exact .reads
  | openDevice => exact .opened
  | resetFlags => exact .flagsReset
  | clearSendQueues => exact .sendCleared
  | clearReceiveQueues => exact .receiveCleared
  | resetRetries => exact .retriesReset
  | read => exact .hasRead
  | sendTest =>
      dsimp only [goTo]
      split
      · exact .receiving
      · exact .sends
  | sendLoop =>
      dsimp only [sendHead]
      split
      · exact .popped _
      · exact .nothingToSend
  | sendWrite lFormattedPacket => exact .written lFormattedPacket
  | finished =>
      rw [here]
      exact .ended

/-- Only clearing the queues and popping touch the send thread. -/
theorem readerStep_sendThread
    (noClear : state.loop ≠ .clearSendQueues)
    (noPop : state.loop ≠ .sendLoop) :
    (state.readerStep answers).sendThread = state.sendThread := by
  unfold readerStep
  cases point : state.loop with
  | clearSendQueues => exact absurd point noClear
  | sendLoop => exact absurd point noPop
  | stopTest =>
      dsimp only
      split <;> rfl
  | checkDevice => exact (state.checkDevice_others answers.hello).2.1
  | errorTest =>
      dsimp only [errorTest]
      split
      · rfl
      · split <;> rfl
  | read => exact (state.read_others answers.read).1
  | _ => rfl

/-- Any other step assigns the handle and three flags only. -/
theorem readerStep_kept {field : USBReader → β} (kept : KeptByControl field)
    (notCounting : ¬ state.Counts) :
    field (state.readerStep answers).reader = field state.reader := by
  unfold readerStep
  cases here : state.loop with
  | resetFlags => exact absurd (.inl here) notCounting
  | resetRetries => exact absurd (.inr (.inl here)) notCounting
  | read => exact absurd (.inr (.inr (.inl here))) notCounting
  | sendWrite lFormattedPacket =>
      exact absurd (.inr (.inr (.inr ⟨_, here⟩))) notCounting
  | closeDevice site => exact kept _ _ _ _ _
  | clearStop site => exact kept _ _ _ _ _
  | openDevice =>
      dsimp only [goTo, record, setReader]
      rw [USBReader.openDevice_reader]
      exact kept _ _ _ _ _
  | checkDevice =>
      dsimp only [goTo, checkDevice]
      split
      · rfl
      · exact kept _ _ _ _ _
  | stopTest =>
      dsimp only
      split <;> rfl
  | errorTest =>
      dsimp only [errorTest]
      split
      · rfl
      · split <;> rfl
  | sendLoop =>
      dsimp only [sendHead]
      split
      · exact kept _ _ _ _ _
      · rfl
  | _ => rfl

end Step

/-! ## The events of a step -/

def readEvents (state : ReaderLoop) (transfer : USBReader.ReadTransfer) :
    List ReaderEvent :=
  if state.reader.mSendStitching then []
  else
    let result := state.reader.usbBulkRead transfer
    let handled := result.2.handleRead result.1
    .read state.reader.mDeviceHandle result.1 ::
      if handled.helloSent then
        handled.reader.mDeviceHandle.toList.map .helloReturned
      else []

/-- What a step of the reader's thread adds to the events. -/
def readerEvents (state : ReaderLoop) (answers : UsbAnswers) :
    List ReaderEvent :=
  match state.loop with
  | .closeDevice _ => state.reader.closeCalls.map .libusb
  | .checkDevice =>
      if state.reader.mUSBCheckSuccessful then []
      else
        state.reader.mDeviceHandle.toList.map fun handle =>
          .hello handle (state.reader.usbBulkWrite answers.hello)
  | .errorTest =>
      if state.reader.needsReset then [.handleError]
      else if state.reader.mRetryCounter ≥ state.reader.mMaxFatalRetries then
        [.bailOut]
      else []
  | .openDevice =>
      (state.reader.openDevice answers.devices).calls.map .libusb
  | .read => state.readEvents answers.read
  | .sendWrite lFormattedPacket =>
      [.wrote state.reader.mDeviceHandle lFormattedPacket
        (state.reader.usbBulkWrite answers.write)]
  | _ => []

section Events

variable (state : ReaderLoop)

theorem read_events (transfer : USBReader.ReadTransfer) :
    (state.read transfer).events =
      state.events ++ state.readEvents transfer := by
  unfold read readEvents
  split
  · exact (List.append_nil _).symm
  · simp only [deliver, record, List.append_assoc, List.singleton_append]

theorem readerStep_events (answers : UsbAnswers) :
    (state.readerStep answers).events =
      state.events ++ state.readerEvents answers := by
  unfold readerStep readerEvents
  cases here : state.loop with
  | closeDevice site => rfl
  | checkDevice =>
      simp only [checkDevice]
      split
      · exact (List.append_nil _).symm
      · rfl
  | errorTest =>
      simp only [errorTest]
      split
      · rfl
      · split
        · rfl
        · exact (List.append_nil _).symm
  | openDevice => rfl
  | read => exact state.read_events answers.read
  | sendLoop =>
      simp only [sendHead, List.append_nil]
      split <;> rfl
  | sendWrite lFormattedPacket => rfl
  | stopTest =>
      dsimp only
      split <;> exact (List.append_nil _).symm
  | _ => exact (List.append_nil _).symm

theorem readEvents_records (transfer : USBReader.ReadTransfer) :
    ∀ event ∈ state.readEvents transfer, ReaderPoint.Records .read event := by
  unfold readEvents
  split
  · simp
  · intro event member
    rcases List.mem_cons.mp member with rfl | returned
    · exact .reads _ _
    · split at returned
      · obtain ⟨handle, _, rfl⟩ := List.mem_map.mp returned
        exact .answers handle
      · simp at returned

theorem closeCalls_unrelated (reader : USBReader) :
    ∀ call ∈ reader.closeCalls, (ReaderEvent.libusb call).Unrelated := by
  unfold USBReader.closeCalls
  split <;> simp [ReaderEvent.Unrelated]

theorem readerEvents_records (answers : UsbAnswers) :
    ∀ event ∈ state.readerEvents answers, state.loop.Records event := by
  intro event member
  unfold readerEvents at member
  cases here : state.loop with
  | closeDevice site =>
      rw [here] at member
      obtain ⟨call, isCall, rfl⟩ := List.mem_map.mp member
      exact .closes site (closeCalls_unrelated _ call isCall)
  | checkDevice =>
      simp only [here] at member
      split at member
      · simp at member
      · obtain ⟨handle, _, rfl⟩ := List.mem_map.mp member
        exact .greets handle _
  | errorTest =>
      simp only [here] at member
      split at member
      · rw [List.mem_singleton.mp member]
        exact .resets
      · split at member
        · rw [List.mem_singleton.mp member]
          exact .bailsOut
        · simp at member
  | openDevice =>
      rw [here] at member
      obtain ⟨call, _, rfl⟩ := List.mem_map.mp member
      exact .opens call
  | read =>
      rw [here] at member
      exact state.readEvents_records answers.read event member
  | sendWrite lFormattedPacket =>
      rw [here] at member
      rw [List.mem_singleton.mp member]
      exact .writes lFormattedPacket _ _
  | _ => simp [here] at member

/-- Frames are written in one place only, and the device is opened and greeted
in one place each. -/
theorem readerEvents_kinds (answers : UsbAnswers) :
    ∀ event ∈ state.readerEvents answers,
      (event.NoFrame ∨ ∃ lFormattedPacket,
        state.loop = .sendWrite lFormattedPacket) ∧
      (event.Unrelated ∨ state.loop = .checkDevice ∨
        state.loop = .openDevice) := by
  intro event member
  have records := state.readerEvents_records answers event member
  revert records
  generalize state.loop = point
  intro records
  cases records with
  | closes site unrelated => exact ⟨.inl trivial, .inl unrelated⟩
  | greets => exact ⟨.inl trivial, .inr (.inl rfl)⟩
  | opens => exact ⟨.inl trivial, .inr (.inr rfl)⟩
  | writes lFormattedPacket => exact ⟨.inr ⟨_, rfl⟩, .inl trivial⟩
  | _ => exact ⟨.inl trivial, .inl trivial⟩

end Events

end ReaderLoop

end CWUSB
