import CWUSB.SendPath

/-!
# The backlog of the send thread

`AddToQueue` only looks at the packets which are still whole.  The send thread
empties that queue into the frames whether or not the reader takes any, so
that nothing bounds the messages accepted and not sent.  They are bounded when
the thread takes a packet only after the frames before it have been popped.
-/

namespace CWUSB

namespace SendPath

/-- The accepted messages of which not all frames have been popped. -/
def unfinished (path : SendPath) : Nat :=
  StagedQueue.unfinished
    (path.accepted.map fun aData =>
      USBSendThread.fragments (USBSendThread.packetOf aData))
    path.popped.length

/-- The send thread takes a packet only when the reader has popped every frame
pushed before. -/
def TakesWhenPopped (path : SendPath) : Action → Prop
  | .sendThread => path.thread.splitting = none → path.thread.mQueue ≠ [] →
      path.thread.mOutgoingQueue = []
  | _ => True

instance (path : SendPath) :
    (action : Action) → Decidable (path.TakesWhenPopped action)
  | .sendThread => inferInstanceAs (Decidable (_ → _ → _))
  | .offer _ | .push | .pop => inferInstanceAs (Decidable True)

/-- Besides the packets in the queue at most one message is not popped. -/
structure Backlog (mMaxBufferSize : Int) (path : SendPath) : Prop where
  conserves : path.Conserves mMaxBufferSize
  split : ∃ finished current,
    path.accepted.map USBSendThread.packetOf =
        finished ++ current ++ path.thread.mQueue ∧
      current.length ≤ 1 ∧
      (finished.flatMap USBSendThread.fragments).length ≤ path.popped.length

theorem unfinished_eq (path : SendPath) :
    path.unfinished =
      StagedQueue.unfinished
        ((path.accepted.map USBSendThread.packetOf).map
          USBSendThread.fragments) path.popped.length := by
  simp [unfinished, Function.comp_def]

theorem Backlog.bounded {mMaxBufferSize : Int} {path : SendPath}
    (backlog : path.Backlog mMaxBufferSize) :
    (path.unfinished : Int) ≤ mMaxBufferSize + 1 := by
  obtain ⟨finished, current, split, single, popped⟩ := backlog.split
  have bounded := backlog.conserves.bounded
  have nothing :
      StagedQueue.unfinished (finished.map USBSendThread.fragments)
        path.popped.length = 0 := by
    apply StagedQueue.unfinished_of_le
    rwa [← List.flatMap_def]
  have rest := StagedQueue.unfinished_le_length
    ((current ++ path.thread.mQueue).map USBSendThread.fragments)
    (path.popped.length -
      (finished.map USBSendThread.fragments).flatten.length)
  rw [List.length_map, List.length_append] at rest
  rw [unfinished_eq, split, List.append_assoc, List.map_append,
    StagedQueue.unfinished_append, nothing]
  omega

theorem backlog_start {mMaxBufferSize : Int}
    (nonnegative : 0 ≤ mMaxBufferSize) :
    (start mMaxBufferSize).Backlog mMaxBufferSize where
  conserves := conserves_start nonnegative
  split := ⟨[], [], rfl, Nat.zero_le 1, Nat.le_refl 0⟩

section Step

variable {mMaxBufferSize : Int} {path next : SendPath}

/-- With nothing in work and nothing ready, all messages which left the queue
have been popped. -/
theorem Backlog.all_popped (backlog : path.Backlog mMaxBufferSize)
    (waiting : path.thread.splitting = none)
    (drained : path.thread.mOutgoingQueue = []) :
    ∃ finished,
      path.accepted.map USBSendThread.packetOf =
          finished ++ path.thread.mQueue ∧
        (finished.flatMap USBSendThread.fragments).length =
          path.popped.length := by
  obtain ⟨finished, current, split, _single, _popped⟩ := backlog.split
  have content := congrArg List.length backlog.conserves.content
  have accepted :
      path.acceptedFragments =
        (path.accepted.map USBSendThread.packetOf).flatMap
          USBSendThread.fragments := by
    rw [acceptedFragments, List.flatMap_map]
  rw [accepted, split] at content
  simp only [StagedQueue.content, USBSendThread.staged, drained,
    USBSendThread.unpushed, waiting, List.nil_append, List.length_append,
    List.flatMap_append] at content
  refine ⟨finished ++ current, split, ?_⟩
  rw [List.flatMap_append, List.length_append]
  omega

theorem Backlog.sendThread (backlog : path.Backlog mMaxBufferSize)
    (guard : path.TakesWhenPopped .sendThread)
    (taken : path.step .sendThread = some next) :
    next.Backlog mMaxBufferSize := by
  refine ⟨backlog.conserves.sendThread taken, ?_⟩
  simp only [step, Option.some.injEq] at taken
  subst next
  cases splitting : path.thread.splitting with
  | some current =>
      have unchanged :
          path.thread.step.thread.mQueue = path.thread.mQueue := by
        simp only [USBSendThread.step, splitting]
        split <;> rfl
      simp only [unchanged]
      exact backlog.split
  | none =>
      cases mQueue : path.thread.mQueue with
      | nil =>
          have unchanged : path.thread.step.thread = path.thread := by
            simp only [USBSendThread.step, splitting, mQueue]
          simp only [unchanged]
          exact backlog.split
      | cons lFrontOfQueue rest =>
          have drained := guard splitting (by simp [mQueue])
          obtain ⟨finished, split, popped⟩ :=
            backlog.all_popped splitting drained
          have shorter : path.thread.step.thread.mQueue = rest := by
            simp only [USBSendThread.step, splitting, mQueue]
          refine ⟨finished, [lFrontOfQueue], ?_, Nat.le_refl 1, popped.le⟩
          simp only [shorter, List.append_assoc, List.singleton_append]
          rw [split, mQueue]

theorem Backlog.push (backlog : path.Backlog mMaxBufferSize)
    (taken : path.step .push = some next) : next.Backlog mMaxBufferSize := by
  refine ⟨backlog.conserves.push taken, ?_⟩
  obtain ⟨finished, current, split, single, popped⟩ := backlog.split
  cases adding : path.adding with
  | none => simp [step, adding] at taken
  | some aData =>
      simp only [step, adding, Option.some.injEq] at taken
      subst next
      refine ⟨finished, current, ?_, single, popped⟩
      simp only [List.map_append, split, USBSendThread.push,
        List.append_assoc, List.map_cons, List.map_nil]

theorem Backlog.pop (backlog : path.Backlog mMaxBufferSize)
    (taken : path.step .pop = some next) : next.Backlog mMaxBufferSize := by
  refine ⟨backlog.conserves.pop taken, ?_⟩
  obtain ⟨finished, current, split, single, popped⟩ := backlog.split
  by_cases ready : path.thread.hasOutgoingData = true
  · simp only [step, ready, if_true, Option.some.injEq] at taken
    subst next
    refine ⟨finished, current, ?_, single, ?_⟩
    · rw [split]
      simp only [USBSendThread.popFromOutgoingQueue]
      split <;> rfl
    · rw [List.length_append]
      omega
  · simp only [step, ready] at taken
    cases taken
    exact ⟨finished, current, split, single, popped⟩

theorem Backlog.offer {aData : List UInt8} (nonnegative : 0 ≤ mMaxBufferSize)
    (backlog : path.Backlog mMaxBufferSize)
    (taken : path.step (.offer aData) = some next) :
    next.Backlog mMaxBufferSize := by
  refine ⟨backlog.conserves.offer nonnegative taken, ?_⟩
  cases adding : path.adding with
  | some other => simp [step, adding] at taken
  | none =>
      simp only [step, adding] at taken
      split at taken
      · cases taken
        exact backlog.split
      · cases taken
        exact backlog.split

theorem Backlog.step {action : Action} (nonnegative : 0 ≤ mMaxBufferSize)
    (backlog : path.Backlog mMaxBufferSize)
    (guard : path.TakesWhenPopped action)
    (taken : path.step action = some next) : next.Backlog mMaxBufferSize := by
  cases action with
  | offer aData => exact backlog.offer nonnegative taken
  | push => exact backlog.push taken
  | sendThread => exact backlog.sendThread guard taken
  | pop => exact backlog.pop taken

end Step

/-! ## The limit of the buffer -/

/-- With a send thread which waits for the reader, at most the messages in the
queue and the one being split are accepted and not popped. -/
theorem backlog_bounded {mMaxBufferSize : Int} {actions : List Action}
    (positive : 1 ≤ mMaxBufferSize)
    (guarded :
      machine.Guarded TakesWhenPopped (start mMaxBufferSize) actions) :
    machine.Always
      (fun path => (path.unfinished : Int) ≤ mMaxBufferSize + 1)
      (start mMaxBufferSize) actions := by
  have nonnegative : 0 ≤ mMaxBufferSize := by omega
  refine machine.always_of_guarded (Backlog mMaxBufferSize) ?_ ?_
    (backlog_start nonnegative) guarded
  · intro path action next backlog guard taken
    exact backlog.step nonnegative guard taken
  · intro path backlog
    exact backlog.bounded

/-- The second message is taken when the only frame of the first was
popped. -/
def poppedInTime : List Action :=
  [.offer [7], .push, .sendThread, .sendThread, .sendThread, .offer [8], .push,
    .pop, .sendThread, .offer [9], .push]

theorem backlog_bounded_poppedInTime :
    machine.Always (fun path => (path.unfinished : Int) ≤ 1 + 1) (start 1)
      poppedInTime :=
  backlog_bounded (by decide) (by decide +kernel)

/-- Without a pop three messages of one byte each pass a buffer of size 1: the
send thread has moved the first two into the frames when the third comes. -/
theorem backlog_exceeded :
    ∃ finish,
      machine.run (start 1)
          [.offer [7], .push, .sendThread, .sendThread, .sendThread,
            .offer [8], .push, .sendThread, .sendThread, .sendThread,
            .offer [9], .push] = some finish ∧
        finish.accepted = [[7], [8], [9]] ∧ finish.popped = [] ∧
        ¬ (finish.unfinished : Int) ≤ 1 + 1 := by
  have passes : (machine.run (start 1)
      [.offer [7], .push, .sendThread, .sendThread, .sendThread,
        .offer [8], .push, .sendThread, .sendThread, .sendThread,
        .offer [9], .push]).any (fun finish =>
          decide (finish.accepted = [[7], [8], [9]] ∧ finish.popped = [] ∧
            ¬ (finish.unfinished : Int) ≤ 1 + 1)) = true := by
    decide +kernel
  obtain ⟨finish, reached, outcome⟩ := (Option.any_eq_true _ _).mp passes
  exact ⟨finish, reached, of_decide_eq_true outcome⟩

/-! ## No limit at all without pops -/

/-- One message of a byte is accepted and moved into the frames. -/
def oneMessage : List Action :=
  [.offer [7], .push, .sendThread, .sendThread, .sendThread]

/-- The send thread is idle, and a message of one frame has been accepted a
number of times and never popped. -/
structure Piled (mMaxBufferSize : Int) (count : Nat) (path : SendPath) :
    Prop where
  limit : path.thread.mMaxBufferSize = mMaxBufferSize
  empty : path.thread.mQueue = []
  waiting : path.thread.splitting = none
  free : path.adding = none
  accepted : path.accepted = List.replicate count [7]
  unpopped : path.popped = []

theorem Piled.unfinished_eq {mMaxBufferSize : Int} {count : Nat}
    {path : SendPath} (piled : path.Piled mMaxBufferSize count) :
    path.unfinished = count := by
  have single :
      (USBSendThread.fragments (USBSendThread.packetOf [7])).length = 1 := by
    decide +kernel
  rw [unfinished, piled.accepted, piled.unpopped, List.map_replicate]
  clear piled
  induction count with
  | zero => rfl
  | succ count induction =>
      rw [List.replicate_succ, StagedQueue.unfinished, single]
      simp only [List.length_nil, Nat.zero_sub] at induction ⊢
      rw [induction, if_pos Nat.zero_lt_one, Nat.add_comm]

theorem Piled.oneMessage {mMaxBufferSize : Int} {count : Nat}
    {path : SendPath} (positive : 1 ≤ mMaxBufferSize)
    (isInt : mMaxBufferSize ≤ 2147483647)
    (piled : path.Piled mMaxBufferSize count) :
    ∃ next, machine.run path oneMessage = some next ∧
      next.Piled mMaxBufferSize (count + 1) := by
  obtain ⟨⟨limit, mQueue, mOutgoingQueue, splitting⟩, adding, accepted,
    popped⟩ := path
  obtain ⟨rfl, rfl, rfl, rfl, rfl, rfl⟩ := piled
  simp only at positive isInt
  have size : 0 < toSize limit := by
    rw [toSize_of_range (by omega) (by omega)]
    omega
  have room :
      USBSendThread.hasRoom ⟨limit, [], mOutgoingQueue, none⟩ = true :=
    decide_eq_true size
  have length : (USBSendThread.packetOf [7]).length.toNat = 1 := by
    decide +kernel
  let iteration :=
    splitIteration cSendMode cSendRef (USBSendThread.packetOf [7]) 0
  have advanced : iteration.lPacketIndex = 1 := by
    decide +kernel
  have pushed :
      (USBSendThread.step ⟨limit, [], mOutgoingQueue,
          some (USBSendThread.packetOf [7], 0)⟩).thread =
        ⟨limit, [], mOutgoingQueue ++ [iteration.lPacket],
          some (USBSendThread.packetOf [7], 1)⟩ := by
    rw [← advanced]
    simp only [USBSendThread.step, length, Nat.zero_lt_one, if_true, iteration]
  have left :
      (USBSendThread.step ⟨limit, [], mOutgoingQueue ++ [iteration.lPacket],
          some (USBSendThread.packetOf [7], 1)⟩).thread =
        ⟨limit, [], mOutgoingQueue ++ [iteration.lPacket], none⟩ := by
    simp only [USBSendThread.step, length, Nat.lt_irrefl, if_false]
  refine
    ⟨{ thread := ⟨limit, [], mOutgoingQueue ++ [iteration.lPacket], none⟩
       adding := none
       accepted := List.replicate count [7] ++ [[7]]
       popped := [] }, ?_, ?_⟩
  · simp only [SendPath.oneMessage, LabelledMachine.run, machine, step, room,
      if_true, Option.bind_some, USBSendThread.push, List.nil_append]
    have taken :
        (USBSendThread.step ⟨limit, [USBSendThread.packetOf [7]],
            mOutgoingQueue, none⟩).thread =
          ⟨limit, [], mOutgoingQueue,
            some (USBSendThread.packetOf [7], 0)⟩ := rfl
    rw [taken, pushed, left]
  · exact ⟨rfl, rfl, rfl, rfl, List.replicate_succ'.symm, rfl⟩

/-- Whatever the size of the buffer, any number of messages is accepted while
the reader pops nothing. -/
theorem backlog_unbounded {mMaxBufferSize : Int}
    (positive : 1 ≤ mMaxBufferSize) (isInt : mMaxBufferSize ≤ 2147483647)
    (count : Nat) :
    ∃ actions finish,
      machine.run (start mMaxBufferSize) actions = some finish ∧
        finish.popped = [] ∧ finish.unfinished = count := by
  have reaches :
      ∃ actions finish,
        machine.run (start mMaxBufferSize) actions = some finish ∧
          finish.Piled mMaxBufferSize count := by
    induction count with
    | zero => exact ⟨[], _, rfl, rfl, rfl, rfl, rfl, rfl, rfl⟩
    | succ count induction =>
        obtain ⟨actions, middle, reached, piled⟩ := induction
        obtain ⟨finish, rest, more⟩ := piled.oneMessage positive isInt
        exact ⟨actions ++ oneMessage, finish,
          LabelledMachine.run_append_eq_some.mpr ⟨middle, reached, rest⟩, more⟩
  obtain ⟨actions, finish, reached, piled⟩ := reaches
  exact ⟨actions, finish, reached, piled.unpopped, piled.unfinished_eq⟩

end SendPath

end CWUSB
