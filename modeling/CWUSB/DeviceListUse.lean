import CWUSB.Library.EventLog
import CWUSB.USBReader

/-!
# The device list of `Open`

`Open` gets a list of devices from libusb and has to give it back once, when
it no longer looks at the devices.  The loop gives the list back where it
opens a PSP and where it cannot read a descriptor, and goes on afterwards when
no device was claimed.
-/

namespace CWUSB

/-- The calls which look at an element of the device list. -/
def LibusbCall.UsesDeviceList : LibusbCall → Prop
  | .readDevice _ | .getDeviceDescriptor _ | .openDevice _ _ => True
  | _ => False

namespace DeviceAnswers

/-- The device is passed over: its descriptor names something else. -/
def Skipped (device : DeviceAnswers) : Prop :=
  device.descriptorResult ≥ 0 ∧
    ¬ (device.idVendor = cPSPVID ∧ device.idProduct = cPSPPID)

/-- The device is a PSP for which every call of the loop succeeds. -/
def Claimed (device : DeviceAnswers) : Prop :=
  device.descriptorResult ≥ 0 ∧
    (device.idVendor = cPSPVID ∧ device.idProduct = cPSPPID) ∧
    device.openResult ≥ 0 ∧ device.setConfigurationResult ≥ 0 ∧
    device.claimInterfaceResult = 0

end DeviceAnswers

/-- The first device which is not passed over is claimed, or is the last of
the list. -/
def FreesOnce (devices : List DeviceAnswers) : Prop :=
  ∃ before device after, devices = before ++ device :: after ∧
    (∀ earlier ∈ before, earlier.Skipped) ∧ ¬ device.Skipped ∧
    (device.Claimed ∨ after = [])

variable {device : DeviceAnswers} {devices : List DeviceAnswers}

theorem not_freesOnce_nil : ¬ FreesOnce [] := by
  rintro ⟨before, device, after, split, _⟩
  simp at split

theorem freesOnce_cons :
    FreesOnce (device :: devices) ↔
      (device.Skipped ∧ FreesOnce devices) ∨
        (¬ device.Skipped ∧ (device.Claimed ∨ devices = [])) := by
  constructor
  · rintro ⟨before, first, after, split, skipped, kept, ends⟩
    cases before with
    | nil =>
        obtain ⟨rfl, rfl⟩ := List.cons.inj split
        exact .inr ⟨kept, ends⟩
    | cons head before =>
        obtain ⟨rfl, rfl⟩ := List.cons.inj split
        refine .inl ⟨skipped device (by simp), before, first, after, rfl, ?_,
          kept, ends⟩
        exact fun other member =>
          skipped other (List.mem_cons_of_mem _ member)
  · rintro (⟨here, before, first, after, rfl, skipped, kept, ends⟩ |
      ⟨kept, ends⟩)
    · refine ⟨device :: before, first, after, rfl, ?_, kept, ends⟩
      intro other member
      rcases List.mem_cons.mp member with rfl | behind
      · exact here
      · exact skipped other behind
    · exact ⟨[], device, devices, rfl, by simp, kept, ends⟩

/-! ## One iteration -/

theorem claimOpened_isSome (handle : DeviceHandle) :
    (claimOpened device handle).mDeviceHandle.isSome ↔
      device.setConfigurationResult ≥ 0 ∧ device.claimInterfaceResult = 0 := by
  unfold claimOpened
  by_cases configured : device.setConfigurationResult ≥ 0
  · by_cases claimed : device.claimInterfaceResult = 0
    · simp [configured, claimed]
    · simp [configured, claimed]
  · simp [configured]

/-- Configuring and claiming leave the list alone. -/
theorem claimOpened_calls (handle : DeviceHandle) :
    ∀ call ∈ (claimOpened device handle).calls,
      ¬ call = .freeDeviceList ∧ ¬ call.UsesDeviceList := by
  unfold claimOpened
  split
  · split <;> simp [LibusbCall.UsesDeviceList]
  · simp [LibusbCall.UsesDeviceList]

theorem openIteration_skipped (skipped : device.Skipped) (lCount : Nat)
    (lDeviceHandle : Option DeviceHandle) :
    openIteration device lCount lDeviceHandle =
      { mDeviceHandle := none
        lDeviceHandle := lDeviceHandle
        calls := [.readDevice lCount, .getDeviceDescriptor lCount] } := by
  unfold openIteration
  rw [if_pos skipped.1, if_neg skipped.2]

theorem openIteration_isSome (lCount : Nat)
    (lDeviceHandle : Option DeviceHandle) :
    (openIteration device lCount lDeviceHandle).mDeviceHandle.isSome ↔
      device.Claimed := by
  unfold openIteration DeviceAnswers.Claimed
  by_cases readable : device.descriptorResult ≥ 0
  · by_cases matching : device.idVendor = cPSPVID ∧ device.idProduct = cPSPPID
    · by_cases opens : device.openResult ≥ 0
      · simp [readable, matching, opens, claimOpened_isSome]
      · cases lDeviceHandle <;> simp [readable, matching, opens]
    · simp [readable, matching]
  · simp [readable]

theorem openIteration_reads (device : DeviceAnswers) (lCount : Nat)
    (lDeviceHandle : Option DeviceHandle) :
    .readDevice lCount ∈
      (openIteration device lCount lDeviceHandle).calls := by
  unfold openIteration
  by_cases readable : device.descriptorResult ≥ 0
  · by_cases matching : device.idVendor = cPSPVID ∧ device.idProduct = cPSPPID
    · by_cases opens : device.openResult ≥ 0
      · simp [readable, matching, opens]
      · cases lDeviceHandle <;> simp [readable, matching, opens]
    · simp [readable, matching]
  · simp [readable]

/-- A device which is not passed over has the list given back, and the
iteration does not look at the list behind that. -/
theorem openIteration_frees (kept : ¬ device.Skipped) (lCount : Nat)
    (lDeviceHandle : Option DeviceHandle) :
    ∃ looks own, (openIteration device lCount lDeviceHandle).calls =
        looks ++ .freeDeviceList :: own ∧
      (∀ call ∈ looks, ¬ call = .freeDeviceList) ∧
      ∀ call ∈ own, ¬ call = .freeDeviceList ∧ ¬ call.UsesDeviceList := by
  unfold openIteration
  by_cases readable : device.descriptorResult ≥ 0
  · have matching : device.idVendor = cPSPVID ∧
        device.idProduct = cPSPPID := by
      by_contra other
      exact kept ⟨readable, other⟩
    by_cases opens : device.openResult ≥ 0
    · refine ⟨[.readDevice lCount, .getDeviceDescriptor lCount,
        .openDevice lCount (some device.handle)],
        (claimOpened device device.handle).calls, ?_, by simp,
        claimOpened_calls device.handle⟩
      simp [readable, matching, opens]
    · refine ⟨[.readDevice lCount, .getDeviceDescriptor lCount,
        .openDevice lCount none], [], ?_, by simp, by simp⟩
      cases lDeviceHandle <;> simp [readable, matching, opens]
  · refine ⟨[.readDevice lCount, .getDeviceDescriptor lCount], [], ?_,
      by simp, by simp⟩
    simp [readable]

/-! ## The whole loop -/

/-- Behind a device which had the list given back, the loop leaves the list
alone when that device was claimed or the last. -/
theorem untouched_iff {own : List LibusbCall}
    (behind : ∀ call ∈ own,
      ¬ call = .freeDeviceList ∧ ¬ call.UsesDeviceList) (lCount : Nat)
    (lDeviceHandle : Option DeviceHandle) :
    let iteration := openIteration device lCount lDeviceHandle
    (∀ call ∈ own ++ (openLoop devices (lCount + 1) iteration.mDeviceHandle
        iteration.lDeviceHandle).2,
      ¬ call = .freeDeviceList ∧ ¬ call.UsesDeviceList) ↔
      device.Claimed ∨ devices = [] := by
  intro iteration
  have claimed_iff : iteration.mDeviceHandle.isSome ↔ device.Claimed :=
    openIteration_isSome lCount lDeviceHandle
  cases found : iteration.mDeviceHandle with
  | some handle =>
      have claimed : device.Claimed := by
        rw [← claimed_iff, found]
        rfl
      rw [openLoop_some, List.append_nil]
      constructor
      · intro _
        exact .inl claimed
      · intro _
        exact behind
  | none =>
      have unclaimed : ¬ device.Claimed := by
        rw [← claimed_iff, found]
        simp
      cases devices with
      | nil => simpa [openLoop] using behind
      | cons next rest =>
          have reads := openIteration_reads next (lCount + 1)
            iteration.lDeviceHandle
          constructor
          · intro untouched
            have looked := (untouched (.readDevice (lCount + 1)) (by
              simp [openLoop, reads])).2
            exact absurd trivial looked
          · rintro (claimed | ended)
            · exact absurd claimed unclaimed
            · cases ended

theorem openLoop_freesOnce (lCount : Nat)
    (lDeviceHandle : Option DeviceHandle) :
    EventLog.ReleasedOnce (· = .freeDeviceList) LibusbCall.UsesDeviceList
        (openLoop devices lCount none lDeviceHandle).2 ↔
      FreesOnce devices := by
  induction devices generalizing lCount lDeviceHandle with
  | nil =>
      constructor
      · intro released
        exact absurd released EventLog.not_releasedOnce_nil
      · intro frees
        exact absurd frees not_freesOnce_nil
  | cons device devices induction =>
      rw [freesOnce_cons]
      by_cases skipped : device.Skipped
      · have calls : (openLoop (device :: devices) lCount none
            lDeviceHandle).2 =
              [.readDevice lCount, .getDeviceDescriptor lCount] ++
                (openLoop devices (lCount + 1) none lDeviceHandle).2 := by
          rw [openLoop, openIteration_skipped skipped]
        rw [calls, EventLog.releasedOnce_append (by simp), induction]
        simp [skipped]
      · obtain ⟨looks, own, calls, before, behind⟩ :=
          openIteration_frees skipped lCount lDeviceHandle
        rw [openLoop, calls, List.append_assoc,
          EventLog.releasedOnce_append before, List.cons_append,
          EventLog.releasedOnce_cons]
        simp only [skipped, not_true_eq_false, false_and, or_false, true_and,
          not_false_eq_true, false_or]
        exact untouched_iff behind lCount lDeviceHandle

namespace USBReader

variable {reader : USBReader}

theorem openDevice_closed (closed : reader.mDeviceHandle = none) :
    EventLog.ReleasedOnce (· = .freeDeviceList) LibusbCall.UsesDeviceList
        (reader.openDevice (.listed devices)).calls ↔
      FreesOnce devices := by
  have calls : (reader.openDevice (.listed devices)).calls =
      [.getDeviceList] ++ (openLoop devices 0 none none).2 := by
    simp [openDevice, closed]
  rw [calls, EventLog.releasedOnce_append (by simp), openLoop_freesOnce]

/-- `Open` gives the device list back exactly once, behind its last look at
it, when it is entered without a device handle and the first device which is
not passed over is claimed or the last. -/
theorem openDevice_releasesList_iff (reader : USBReader)
    (devices : List DeviceAnswers) :
    EventLog.ReleasedOnce (· = .freeDeviceList) LibusbCall.UsesDeviceList
        (reader.openDevice (.listed devices)).calls ↔
      reader.mDeviceHandle = none ∧ FreesOnce devices := by
  cases found : reader.mDeviceHandle with
  | none => simp [openDevice_closed found]
  | some handle =>
      have calls : (reader.openDevice (.listed devices)).calls =
          [.getDeviceList] := by
        simp [openDevice, found, openLoop_some]
      simp only [reduceCtorEq, false_and, iff_false]
      rintro ⟨before, call, after, split, rfl, _⟩
      have member : .freeDeviceList ∈ [LibusbCall.getDeviceList] := by
        rw [← calls, split]
        simp
      simp at member

/-- A device which is no PSP. -/
def otherDevice : DeviceAnswers :=
  { descriptorResult := 0
    idVendor := 0x1D6B
    idProduct := 2
    openResult := 0
    handle := 0
    setConfigurationResult := 0
    claimInterfaceResult := 0 }

def unreadableDevice : DeviceAnswers :=
  { otherDevice with descriptorResult := -1 }

/-- Without a PSP the list is never given back, and after a device which could
not be read the next one is read from a list which was given back. -/
theorem openDevice_list_kept_or_used :
    ¬ EventLog.ReleasedOnce (· = .freeDeviceList) LibusbCall.UsesDeviceList
        (newReader.openDevice (.listed [otherDevice])).calls ∧
      ¬ EventLog.ReleasedOnce (· = .freeDeviceList) LibusbCall.UsesDeviceList
        (newReader.openDevice
          (.listed [unreadableDevice, unreadableDevice])).calls := by
  constructor
  · rw [openDevice_closed rfl]
    simp [freesOnce_cons, not_freesOnce_nil, otherDevice, cPSPVID, cPSPPID,
      DeviceAnswers.Skipped, DeviceAnswers.Claimed]
  · rw [openDevice_closed rfl]
    simp [freesOnce_cons, unreadableDevice, otherDevice,
      DeviceAnswers.Skipped, DeviceAnswers.Claimed]

end USBReader

end CWUSB
