import Mathlib.Data.List.Chain
import CWUSB.Fragmentation
import CWUSB.ReaderSteps

/-!
# Resets and the send path

`HandleError` clears both queues of the send thread, but not the packet the
thread is splitting.  A history beside the loop says of every frame which
fragment of which packet it is.  While no reset falls between two fragments,
every frame popped starts a message or continues the one popped before it.
-/

namespace CWUSB

/-- A fragment the splitting loop pushes: the packet, counted in the order they
were taken from the queue, and where in it the fragment starts. -/
structure Fragment where
  packet : Nat
  lFrontOfQueue : BinaryWiFiPacket
  lPacketIndex : Nat
deriving DecidableEq

namespace Fragment

def iteration (fragment : Fragment) : SplitIteration :=
  splitIteration cSendMode cSendRef fragment.lFrontOfQueue
    fragment.lPacketIndex

def frame (fragment : Fragment) : BinaryStitchUSBPacket :=
  fragment.iteration.lPacket

/-- The fragment the loop pushes after this one. -/
def next (fragment : Fragment) : Fragment :=
  { fragment with lPacketIndex := fragment.iteration.lPacketIndex }

/-- The first fragment of a packet carries the sub-header. -/
theorem first_subHeader {fragment : Fragment}
    (first : fragment.lPacketIndex = 0) :
    fragment.frame.data.slice cAsyncHeaderSize 16 =
      asyncSubHeaderBytes cSendMode fragment.lFrontOfQueue.length.toNat
        cSendRef := by
  simp only [frame, iteration, splitIteration, first, if_true,
    length_asyncCommandBytes, length_asyncSubHeaderBytes]
  rw [FixedArray.slice_overwrite_before (by decide) (by decide)]
  exact FixedArray.slice_overwrite_at (by simp)

end Fragment

/-- What the send path shows the PSP: resets and frames. -/
inductive SendEvent where
  | reset
  | popped (fragment : Fragment) (lFormattedPacket : BinaryStitchUSBPacket)
deriving DecidableEq

/-- Where the fragment popped starts in its packet. -/
def SendEvent.lPacketIndex : SendEvent → Option Nat
  | .reset => none
  | .popped fragment _ => some fragment.lPacketIndex

/-- After a reset a message starts; after a frame, another message or the next
fragment of the same. -/
def SendEvent.Follows : SendEvent → SendEvent → Prop
  | _, .reset => True
  | .reset, .popped fragment _ => fragment.lPacketIndex = 0
  | .popped earlier _, .popped fragment _ =>
      fragment.lPacketIndex = 0 ∨ fragment = earlier.next

theorem SendEvent.follows_reset (event : SendEvent) :
    event.Follows .reset := by
  cases event <;> trivial

structure SendHistory where
  /-- The packets taken from the queue so far. -/
  taken : Nat := 0
  /-- The fragments in the outgoing queue. -/
  outgoing : List Fragment := []
  events : List SendEvent := []
deriving DecidableEq

namespace SendHistory

def sendThread (history : SendHistory) (thread : USBSendThread) :
    SendHistory :=
  match thread.splitting with
  | none =>
      match thread.mQueue with
      | [] => history
      | _ :: _ => { history with taken := history.taken + 1 }
  | some (lFrontOfQueue, lPacketIndex) =>
      if lPacketIndex < lFrontOfQueue.length.toNat then
        { history with
          outgoing := history.outgoing ++
            [⟨history.taken, lFrontOfQueue, lPacketIndex⟩] }
      else history

def reader (history : SendHistory) (state : ReaderLoop) : SendHistory :=
  match state.loop with
  | .clearSendQueues =>
      { history with
        outgoing := []
        events := history.events ++ [.reset] }
  | .sendLoop =>
      if !state.reader.mStopRequest && state.sendThread.hasOutgoingData then
        match history.outgoing with
        | [] => history
        | fragment :: rest =>
            { history with
              outgoing := rest
              events := history.events ++
                [.popped fragment
                  state.sendThread.popFromOutgoingQueue.1] }
      else history
  | _ => history

def record (state : ReaderLoop) (action : ReaderLoop.Action)
    (history : SendHistory) : SendHistory :=
  match action with
  | .reader _ => history.reader state
  | .sendThread => history.sendThread state.sendThread
  | .addToQueue _ | .receiveThread | .requestStop => history

/-- The events so far, and the frames which are popped next when no reset
comes first. -/
def expected (history : SendHistory) : List SendEvent :=
  .reset :: history.events ++
    history.outgoing.map fun fragment => .popped fragment fragment.frame

end SendHistory

namespace ReaderLoop

/-- The loop with the history of its send path. -/
def tracked : LabelledMachine (ReaderLoop × SendHistory) Action :=
  machine.withHistory SendHistory.record

/-- `ClearQueues` runs while the send thread is not between two fragments of a
packet. -/
def ClearsBetweenMessages (state : ReaderLoop) : Action → Prop
  | .reader _ => state.loop = .clearSendQueues →
      ∀ current ∈ state.sendThread.splitting,
        current.2 = 0 ∨ current.1.length.toNat ≤ current.2
  | _ => True

instance (state : ReaderLoop) :
    (action : Action) → Decidable (state.ClearsBetweenMessages action)
  | .reader _ => inferInstanceAs (Decidable (_ → ∀ current ∈ _, _))
  | .addToQueue _ | .sendThread | .receiveThread | .requestStop =>
      inferInstanceAs (Decidable True)

/-- All frames so far and those ready are in order, and the next fragment of
the packet being split continues the last of them. -/
structure InOrder (state : ReaderLoop) (history : SendHistory) : Prop where
  outgoing : state.sendThread.mOutgoingQueue =
    history.outgoing.map Fragment.frame
  chain : List.IsChain SendEvent.Follows history.expected
  continues : ∀ lFrontOfQueue lPacketIndex,
    state.sendThread.splitting = some (lFrontOfQueue, lPacketIndex) →
    0 < lPacketIndex → lPacketIndex < lFrontOfQueue.length.toNat →
    ∃ earlier frame,
      history.expected.getLast? = some (.popped earlier frame) ∧
        earlier.next = ⟨history.taken, lFrontOfQueue, lPacketIndex⟩
  frames : ∀ fragment frame,
    .popped fragment frame ∈ history.events → frame = fragment.frame

section Step

variable {state next : ReaderLoop} {history : SendHistory}

/-- A step which touches neither the send thread nor the history. -/
theorem InOrder.untouched (inOrder : state.InOrder history)
    (sendThread : next.sendThread.mOutgoingQueue =
        state.sendThread.mOutgoingQueue ∧
      next.sendThread.splitting = state.sendThread.splitting) :
    next.InOrder history where
  outgoing := sendThread.1.trans inOrder.outgoing
  chain := inOrder.chain
  continues := by
    rw [sendThread.2]
    exact inOrder.continues
  frames := inOrder.frames

theorem InOrder.clearSendQueues (inOrder : state.InOrder history)
    (answers : UsbAnswers) (point : state.loop = .clearSendQueues)
    (between : state.ClearsBetweenMessages (.reader answers)) :
    (state.readerStep answers).InOrder (history.reader state) := by
  have cleared : (state.readerStep answers).sendThread =
      state.sendThread.clearQueues := by
    rw [readerStep, point]
  have recorded : history.reader state =
      { history with
        outgoing := []
        events := history.events ++ [.reset] } := by
    rw [SendHistory.reader, point]
  rw [recorded]
  refine ⟨by rw [cleared]; rfl, ?_, ?_, ?_⟩
  · have before := inOrder.chain.left_of_append
    simp only [SendHistory.expected, List.map_nil, List.append_nil]
    rw [← List.cons_append]
    exact before.append (List.isChain_singleton _) (by
      intro last _ first member
      simp only [List.head?_cons, Option.mem_def, Option.some.injEq] at member
      subst member
      exact last.follows_reset)
  · intro lFrontOfQueue lPacketIndex splitting later unfinished
    rw [cleared] at splitting
    have finished := between point _ splitting
    simp only at finished
    omega
  · intro fragment frame member
    rcases List.mem_append.mp member with earlier | reset
    · exact inOrder.frames fragment frame earlier
    · simp at reset

/-- Popping a frame moves it from the outgoing queue to the events. -/
theorem InOrder.pop (inOrder : state.InOrder history) (answers : UsbAnswers)
    (point : state.loop = .sendLoop) :
    (state.readerStep answers).InOrder (history.reader state) := by
  have popped : state.readerStep answers = state.sendHead := by
    rw [readerStep, point]
  rw [popped]
  unfold sendHead SendHistory.reader
  rw [point]
  dsimp only
  split
  · next goesOn =>
      cases outgoing : history.outgoing with
      | nil =>
          have empty := inOrder.outgoing
          rw [outgoing] at empty
          simp [USBSendThread.hasOutgoingData, empty] at goesOn
      | cons fragment rest =>
          have queue := inOrder.outgoing
          rw [outgoing, List.map_cons] at queue
          have front : state.sendThread.popFromOutgoingQueue =
              (fragment.frame, { state.sendThread with
                mOutgoingQueue := rest.map Fragment.frame }) := by
            rw [USBSendThread.popFromOutgoingQueue, queue]
          have same : SendHistory.expected
              { history with
                outgoing := rest
                events := history.events ++
                  [.popped fragment fragment.frame] } = history.expected := by
            simp [SendHistory.expected, outgoing]
          simp only [front]
          exact
            { outgoing := rfl
              chain := by rw [same]; exact inOrder.chain
              continues := by rw [same]; exact inOrder.continues
              frames := by
                intro other frame member
                rcases List.mem_append.mp member with earlier | last
                · exact inOrder.frames other frame earlier
                · obtain ⟨rfl, rfl⟩ := by simpa using last
                  rfl }
  · exact inOrder.untouched ⟨rfl, rfl⟩

theorem InOrder.reader (inOrder : state.InOrder history)
    (answers : UsbAnswers)
    (between : state.ClearsBetweenMessages (.reader answers)) :
    (state.readerStep answers).InOrder (history.reader state) := by
  by_cases clear : state.loop = .clearSendQueues
  · exact inOrder.clearSendQueues answers clear between
  · by_cases pop : state.loop = .sendLoop
    · exact inOrder.pop answers pop
    · have untouched := state.readerStep_sendThread answers clear pop
      have unrecorded : history.reader state = history := by
        unfold SendHistory.reader
        split
        · next point => exact absurd point clear
        · next point => exact absurd point pop
        · rfl
      rw [unrecorded]
      exact inOrder.untouched (by rw [untouched]; exact ⟨rfl, rfl⟩)

theorem InOrder.sendThread (inOrder : state.InOrder history) :
    InOrder { state with sendThread := state.sendThread.step.thread }
      (history.sendThread state.sendThread) := by
  unfold USBSendThread.step SendHistory.sendThread
  cases splitting : state.sendThread.splitting with
  | none =>
      cases state.sendThread.mQueue with
      | nil => exact inOrder.untouched ⟨rfl, rfl⟩
      | cons lFrontOfQueue rest =>
          exact
            { outgoing := inOrder.outgoing
              chain := inOrder.chain
              continues := by
                rintro _ _ ⟨⟩ later
                exact absurd later (Nat.lt_irrefl 0)
              frames := inOrder.frames }
  | some current =>
      obtain ⟨lFrontOfQueue, lPacketIndex⟩ := current
      by_cases unfinished : lPacketIndex < lFrontOfQueue.length.toNat
      · simp only [if_pos unfinished]
        obtain ⟨fragment, same⟩ : ∃ fragment : Fragment, fragment =
          ⟨history.taken, lFrontOfQueue, lPacketIndex⟩ := ⟨_, rfl⟩
        have grown : SendHistory.expected
            { history with
              outgoing := history.outgoing ++ [fragment] } =
            history.expected ++ [.popped fragment fragment.frame] := by
          simp [SendHistory.expected]
        rw [same] at grown
        refine
          { outgoing := by
              rw [List.map_append, ← inOrder.outgoing]
              rfl
            chain := ?_
            continues := ?_
            frames := inOrder.frames }
        · rw [grown]
          refine inOrder.chain.append (List.isChain_singleton _) ?_
          intro last isLast first member
          simp only [List.head?_cons, Option.mem_def,
            Option.some.injEq] at member
          subst member
          by_cases starts : lPacketIndex = 0
          · cases last with
            | reset => exact starts
            | popped earlier frame => exact .inl starts
          · obtain ⟨earlier, frame, atEnd, follows⟩ := inOrder.continues _ _
              splitting (Nat.pos_of_ne_zero starts) unfinished
            rw [Option.mem_def, atEnd] at isLast
            cases isLast
            exact .inr follows.symm
        · rintro _ _ ⟨⟩ _ _
          rw [grown]
          exact ⟨_, _, List.getLast?_concat, rfl⟩
      · simp only [if_neg unfinished]
        exact
          { outgoing := inOrder.outgoing
            chain := inOrder.chain
            continues := by simp
            frames := inOrder.frames }

end Step

/-- In every run in which no reset falls between two fragments of a packet,
the first frame popped after a reset starts a message, every other continues
the frame popped before it or starts one too, and those which start a message
carry the sub-header. -/
theorem reset_isolates_sending {state finish : ReaderLoop}
    {actions : List Action} {history : SendHistory}
    (nothingReady : state.sendThread.mOutgoingQueue = [])
    (notSplitting : state.sendThread.splitting = none)
    (between : machine.Guarded ClearsBetweenMessages state actions)
    (reached : tracked.run (state, {}) actions = some (finish, history)) :
    List.IsChain SendEvent.Follows (.reset :: history.events) ∧
      ∀ fragment frame, .popped fragment frame ∈ history.events →
        frame = fragment.frame ∧
          (fragment.lPacketIndex = 0 →
            frame.data.slice cAsyncHeaderSize 16 =
              asyncSubHeaderBytes cSendMode
                fragment.lFrontOfQueue.length.toNat cSendRef) := by
  have initially : state.InOrder {} :=
    { outgoing := nothingReady
      chain := List.isChain_singleton _
      continues := by simp [notSplitting]
      frames := by simp }
  have inOrder := tracked.guarded_invariant
    (fun current => InOrder current.1 current.2) ?_ initially
    between.withHistory reached
  · refine ⟨inOrder.chain.left_of_append, ?_⟩
    intro fragment frame member
    obtain rfl := inOrder.frames fragment frame member
    exact ⟨rfl, Fragment.first_subHeader⟩
  · rintro ⟨state, history⟩ action ⟨next, later⟩ inOrder guard taken
    obtain ⟨stepped, rfl⟩ :=
      LabelledMachine.withHistory_step_eq_some.mp taken
    cases action with
    | reader answers =>
        cases stepped
        exact inOrder.reader answers guard
    | addToQueue aData =>
        cases stepped
        refine inOrder.untouched ?_
        dsimp only [USBSendThread.addToQueue]
        split <;> exact ⟨rfl, rfl⟩
    | sendThread =>
        cases stepped
        exact inOrder.sendThread
    | receiveThread =>
        cases stepped
        exact inOrder.untouched ⟨rfl, rfl⟩
    | requestStop =>
        simp only [machine, step, Option.ite_none_right_eq_some,
          Option.some.injEq] at stepped
        obtain ⟨_, rfl⟩ := stepped
        exact inOrder.untouched ⟨rfl, rfl⟩

/-- A packet of 600 bytes is offered while the reader resets; the queues are
cleared before the send thread takes it. -/
def resetBeforePacket : List Action :=
  List.replicate 9 (.reader helloFails) ++
    [.addToQueue (List.replicate 600 7), .sendThread, .sendThread,
      .sendThread] ++
    List.replicate 7 (.reader helloFails)

theorem reset_isolates_sending_beforePacket :
    ∃ finish history,
      tracked.run (start openedReader 50, {}) resetBeforePacket =
          some (finish, history) ∧
        List.IsChain SendEvent.Follows (.reset :: history.events) ∧
        ∀ fragment frame, .popped fragment frame ∈ history.events →
          frame = fragment.frame ∧
            (fragment.lPacketIndex = 0 →
              frame.data.slice cAsyncHeaderSize 16 =
                asyncSubHeaderBytes cSendMode
                  fragment.lFrontOfQueue.length.toNat cSendRef) := by
  have runs : (tracked.run (start openedReader 50, {})
      resetBeforePacket).isSome := by
    decide +kernel
  obtain ⟨⟨finish, history⟩, reached⟩ := Option.isSome_iff_exists.mp runs
  exact ⟨finish, history, reached,
    reset_isolates_sending rfl rfl (by decide +kernel) reached⟩

/-- The send thread has pushed the first of two fragments when the queues are
cleared, and pushes the second afterwards. -/
def resetBetweenFragments : List Action :=
  [.addToQueue (List.replicate 600 7), .sendThread, .sendThread] ++
    List.replicate 9 (.reader helloFails) ++ [.sendThread] ++
    List.replicate 4 (.reader helloFails)

/-- The first frame popped after the reset is the second of its packet. -/
theorem reset_splits_sending :
    ∃ finish history fragment frame,
      tracked.run (start openedReader 50, {}) resetBetweenFragments =
          some (finish, history) ∧
        history.events = [.reset, .popped fragment frame] ∧
        fragment.lPacketIndex = 488 ∧
        ¬ List.IsChain SendEvent.Follows (.reset :: history.events) := by
  have splits : (tracked.run (start openedReader 50, {})
      resetBetweenFragments).any (fun last =>
        last.2.events.map SendEvent.lPacketIndex == [none, some 488]) =
          true := by
    decide +kernel
  obtain ⟨⟨finish, history⟩, reached, outcome⟩ :=
    (Option.any_eq_true _ _).mp splits
  obtain ⟨first, rest, events, noIndex, outcome⟩ :=
    List.map_eq_cons_iff.mp (eq_of_beq outcome)
  obtain ⟨second, nothing, rfl, index, ends⟩ :=
    List.map_eq_cons_iff.mp outcome
  obtain rfl : nothing = [] := List.map_eq_nil_iff.mp ends
  dsimp only at events
  cases first with
  | popped earlier frame => cases noIndex
  | reset =>
      cases second with
      | reset => cases index
      | popped fragment frame =>
          have starts : fragment.lPacketIndex = 488 := Option.some.inj index
          refine ⟨finish, history, fragment, frame, reached, events, starts,
            ?_⟩
          rw [events]
          simp [SendEvent.Follows, starts]

end ReaderLoop

end CWUSB
