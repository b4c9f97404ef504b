import CWUSB.Fragmentation
import CWUSB.Library.LabelledMachine
import CWUSB.Library.StagedQueue

/-!
# The send pipeline

One caller offers payloads to `AddToQueue`, the send thread splits packets,
and the reader pops frames.  The size check of `AddToQueue` and its push are
separate steps, since only the push happens under the mutex.  The pipeline is
one queue of frames: nothing in it is lost, doubled, reordered or mixed.
-/

namespace CWUSB

namespace USBSendThread

/-- The send thread as a staged queue of frames. -/
def staged (thread : USBSendThread) :
    StagedQueue BinaryWiFiPacket BinaryStitchUSBPacket :=
  { waiting := thread.mQueue
    inWork := thread.unpushed
    ready := thread.mOutgoingQueue }

/-- A step of the thread is a move of the staged queue, or only leaves the
splitting loop. -/
theorem step_work (thread : USBSendThread) :
    thread.step.thread.staged = thread.staged ∨
      StagedQueue.Work fragments thread.staged thread.step.thread.staged := by
  obtain ⟨mMaxBufferSize, mQueue, mOutgoingQueue, splitting⟩ := thread
  cases splitting with
  | none =>
      cases mQueue with
      | nil => exact .inl rfl
      | cons lFrontOfQueue rest =>
          exact .inr (.take lFrontOfQueue rest mOutgoingQueue)
  | some current =>
      obtain ⟨lFrontOfQueue, lPacketIndex⟩ := current
      by_cases unfinished : lPacketIndex < lFrontOfQueue.length.toNat
      · right
        have work : StagedQueue.Work fragments _ _ := .handOver
          (splitIteration cSendMode cSendRef lFrontOfQueue
            lPacketIndex).lPacket mQueue
          (fragmentsFrom cSendMode cSendRef lFrontOfQueue
            (splitIteration cSendMode cSendRef lFrontOfQueue
              lPacketIndex).lPacketIndex) mOutgoingQueue
        rw [← fragmentsFrom_of_lt unfinished] at work
        simpa [step, staged, unpushed, unfinished] using work
      · left
        have finished := fragmentsFrom_of_ge cSendMode cSendRef
          (Nat.le_of_not_lt unfinished)
        simp [step, staged, unpushed, unfinished, finished]

theorem step_mMaxBufferSize (thread : USBSendThread) :
    thread.step.thread.mMaxBufferSize = thread.mMaxBufferSize := by
  unfold step
  split
  · split <;> rfl
  · split <;> rfl

/-- The thread only takes packets from its queue. -/
theorem step_mQueue_length (thread : USBSendThread) :
    thread.step.thread.mQueue.length ≤ thread.mQueue.length := by
  unfold step
  split
  · split
    · exact Nat.le_refl _
    · next rest equality => simp [equality]
  · split <;> exact Nat.le_refl _

/-- The size check, for a buffer size which is not negative. -/
theorem length_lt_of_hasRoom {thread : USBSendThread}
    (nonnegative : 0 ≤ thread.mMaxBufferSize) (room : thread.hasRoom = true) :
    (thread.mQueue.length : Int) < thread.mMaxBufferSize := by
  have below := of_decide_eq_true room
  unfold toSize at below
  omega

end USBSendThread

/-! ## The parties and their steps -/

structure SendPath where
  thread : USBSendThread
  /-- The payload of an `AddToQueue` call between its size check and its
  push. -/
  adding : Option (List UInt8) := none
  /-- The payloads for which `AddToQueue` returned true. -/
  accepted : List (List UInt8) := []
  /-- The frames the reader popped. -/
  popped : List BinaryStitchUSBPacket := []

namespace SendPath

inductive Action where
  /-- A call of `AddToQueue`, up to its size check. -/
  | offer (aData : List UInt8)
  /-- The rest of that call, which returns true. -/
  | push
  | sendThread
  /-- `HasOutgoingData` and, when there is some, `PopFromOutgoingQueue`. -/
  | pop

def step (path : SendPath) : Action → Option SendPath
  | .offer aData =>
      match path.adding with
      | some _ => none
      | none =>
          if path.thread.hasRoom then
            some { path with adding := some aData }
          else some path
  | .push =>
      match path.adding with
      | none => none
      | some aData =>
          some
            { path with
              thread := path.thread.push (USBSendThread.packetOf aData)
              adding := none
              accepted := path.accepted ++ [aData] }
  | .sendThread => some { path with thread := path.thread.step.thread }
  | .pop =>
      if path.thread.hasOutgoingData then
        some
          { path with
            thread := path.thread.popFromOutgoingQueue.2
            popped := path.popped ++ [path.thread.popFromOutgoingQueue.1] }
      else some path

def machine : LabelledMachine SendPath Action := ⟨step⟩

/-- The pipeline as it is after construction. -/
def start (mMaxBufferSize : Int) : SendPath :=
  { thread := { mMaxBufferSize := mMaxBufferSize } }

/-- The frames the accepted payloads are cut into. -/
def acceptedFragments (path : SendPath) : List BinaryStitchUSBPacket :=
  path.accepted.flatMap fun aData =>
    USBSendThread.fragments (USBSendThread.packetOf aData)

/-! ## The invariant -/

/-- The pipeline holds exactly what was accepted and not popped, and there is
room for a payload which passed the size check. -/
structure Conserves (mMaxBufferSize : Int) (path : SendPath) : Prop where
  limit : path.thread.mMaxBufferSize = mMaxBufferSize
  content :
    path.popped ++ path.thread.staged.content USBSendThread.fragments =
      path.acceptedFragments
  bounded : (path.thread.mQueue.length : Int) ≤ mMaxBufferSize
  room : path.adding ≠ none →
    (path.thread.mQueue.length : Int) < mMaxBufferSize

theorem conserves_start {mMaxBufferSize : Int}
    (nonnegative : 0 ≤ mMaxBufferSize) :
    (start mMaxBufferSize).Conserves mMaxBufferSize where
  limit := rfl
  content := rfl
  bounded := nonnegative
  room := by
    intro adding
    exact absurd rfl adding

theorem Conserves.offer {mMaxBufferSize : Int} {path next : SendPath}
    {aData : List UInt8} (nonnegative : 0 ≤ mMaxBufferSize)
    (conserves : path.Conserves mMaxBufferSize)
    (taken : path.step (.offer aData) = some next) :
    next.Conserves mMaxBufferSize := by
  obtain ⟨thread, adding, accepted, popped⟩ := path
  cases adding with
  | some other => simp [step] at taken
  | none =>
      by_cases room : thread.hasRoom = true
      · simp only [step, room, if_true, Option.some.injEq] at taken
        subst next
        have below := thread.length_lt_of_hasRoom
          (by rw [conserves.limit]; exact nonnegative) room
        rw [conserves.limit] at below
        exact { conserves with room := fun _ => below }
      · simp only [step, room] at taken
        cases taken
        exact conserves

theorem Conserves.push {mMaxBufferSize : Int} {path next : SendPath}
    (conserves : path.Conserves mMaxBufferSize)
    (taken : path.step .push = some next) :
    next.Conserves mMaxBufferSize := by
  obtain ⟨thread, adding, accepted, popped⟩ := path
  cases adding with
  | none => simp [step] at taken
  | some aData =>
      simp only [step, Option.some.injEq] at taken
      subst next
      have below := conserves.room (by simp)
      have content := conserves.content
      have grown := StagedQueue.content_accept USBSendThread.fragments
        thread.staged (USBSendThread.packetOf aData)
      refine
        { limit := conserves.limit
          content := ?_
          bounded := ?_
          room := fun adding => absurd rfl adding }
      · simp only [acceptedFragments, List.flatMap_append,
          List.flatMap_singleton] at content ⊢
        rw [← content, List.append_assoc, ← grown]
        rfl
      · simp only [USBSendThread.push, List.length_append,
          List.length_singleton] at below ⊢
        omega

theorem Conserves.sendThread {mMaxBufferSize : Int} {path next : SendPath}
    (conserves : path.Conserves mMaxBufferSize)
    (taken : path.step .sendThread = some next) :
    next.Conserves mMaxBufferSize := by
  simp only [step, Option.some.injEq] at taken
  subst next
  have shorter := path.thread.step_mQueue_length
  have bounded := conserves.bounded
  refine
    { limit := by rw [← conserves.limit]; exact path.thread.step_mMaxBufferSize
      content := ?_
      bounded := by simp only; omega
      room := ?_ }
  · have unchanged :
        path.thread.step.thread.staged.content USBSendThread.fragments =
          path.thread.staged.content USBSendThread.fragments := by
      rcases path.thread.step_work with same | work
      · rw [same]
      · exact work.content_eq
    have content := conserves.content
    rw [← unchanged] at content
    exact content
  · intro adding
    have room := conserves.room adding
    simp only
    omega

theorem Conserves.pop {mMaxBufferSize : Int} {path next : SendPath}
    (conserves : path.Conserves mMaxBufferSize)
    (taken : path.step .pop = some next) :
    next.Conserves mMaxBufferSize := by
  obtain ⟨⟨limit, mQueue, mOutgoingQueue, splitting⟩, adding, accepted,
    popped⟩ := path
  cases mOutgoingQueue with
  | nil =>
      simp [step, USBSendThread.hasOutgoingData] at taken
      subst next
      exact conserves
  | cons packet rest =>
      simp [step, USBSendThread.hasOutgoingData,
        USBSendThread.popFromOutgoingQueue] at taken
      subst next
      have first := StagedQueue.content_pop USBSendThread.fragments mQueue
        (USBSendThread.unpushed ⟨limit, mQueue, rest, splitting⟩) rest packet
      refine
        { limit := conserves.limit
          content := ?_
          bounded := conserves.bounded
          room := conserves.room }
      rw [List.append_assoc, List.singleton_append]
      exact (congrArg (popped ++ ·) first.symm).trans conserves.content

theorem Conserves.step {mMaxBufferSize : Int} {path next : SendPath}
    {action : Action} (nonnegative : 0 ≤ mMaxBufferSize)
    (conserves : path.Conserves mMaxBufferSize)
    (taken : path.step action = some next) :
    next.Conserves mMaxBufferSize := by
  cases action with
  | offer aData => exact conserves.offer nonnegative taken
  | push => exact conserves.push taken
  | sendThread => exact conserves.sendThread taken
  | pop => exact conserves.pop taken

theorem conserves_of_run {mMaxBufferSize : Int} {actions : List Action}
    {finish : SendPath} (nonnegative : 0 ≤ mMaxBufferSize)
    (reached :
      machine.run (start mMaxBufferSize) actions = some finish) :
    finish.Conserves mMaxBufferSize :=
  machine.run_invariant (Conserves mMaxBufferSize)
    (fun _ _ _ conserves taken => conserves.step nonnegative taken)
    (conserves_start nonnegative) reached

/-- What was popped, is ready, is being split and is waiting are, in this
order, the frames of the accepted payloads; and the queue stays within its
bound. -/
theorem pipeline_conserves {mMaxBufferSize : Int} {actions : List Action}
    {finish : SendPath} (nonnegative : 0 ≤ mMaxBufferSize)
    (reached :
      machine.run (start mMaxBufferSize) actions = some finish) :
    finish.popped ++ finish.thread.mOutgoingQueue ++
          finish.thread.unpushed ++
          finish.thread.mQueue.flatMap USBSendThread.fragments =
        finish.acceptedFragments ∧
      (finish.thread.mQueue.length : Int) ≤ mMaxBufferSize := by
  have conserves := conserves_of_run nonnegative reached
  have content := conserves.content
  simp only [StagedQueue.content, USBSendThread.staged,
    ← List.append_assoc] at content
  exact ⟨content, conserves.bounded⟩

/-- Two payloads, the first split while the second waits. -/
def twoPayloads : List Action :=
  [.offer (List.replicate 500 7), .push, .sendThread, .offer [1, 2, 3],
    .sendThread, .push, .pop, .offer [4]]

theorem pipeline_conserves_twoPayloads :
    ∃ finish, machine.run (start 1) twoPayloads = some finish ∧
      finish.popped ++ finish.thread.mOutgoingQueue ++
            finish.thread.unpushed ++
            finish.thread.mQueue.flatMap USBSendThread.fragments =
          finish.acceptedFragments ∧
        (finish.thread.mQueue.length : Int) ≤ 1 := by
  have runs : (machine.run (start 1) twoPayloads).isSome := by
    decide +kernel
  obtain ⟨finish, reached⟩ := Option.isSome_iff_exists.mp runs
  exact ⟨finish, reached, pipeline_conserves (by decide) reached⟩

end SendPath

end CWUSB
