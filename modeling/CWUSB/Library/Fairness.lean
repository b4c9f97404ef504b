import CWUSB.Library.LabelledMachine
import Mathlib.Data.List.GetD

/-!
# Fair executions

An execution goes on without end; a moment may pass in which nothing happens.
A party which can take steps from some moment on is fair when it takes one.
Progress needs one party at a time: the rank falls when the awaited party
moves, and as long as it does not fall the same party is awaited.
-/

namespace LabelledMachine

variable {σ : Type u} {α : Type v} {ρ : Type w}

structure Execution (machine : LabelledMachine σ α) where
  state : Nat → σ
  label : Nat → Option α
  taken : ∀ moment current, label moment = some current →
    machine.step (state moment) current = some (state (moment + 1))
  idle : ∀ moment, label moment = none → state (moment + 1) = state moment

variable {machine : LabelledMachine σ α}

/-- The party can take a step. -/
def Enabled (machine : LabelledMachine σ α) (party : α → ρ) (who : ρ)
    (state : σ) : Prop :=
  ∃ label next, party label = who ∧ machine.step state label = some next

namespace Execution

section Fair

variable (execution : Execution machine) (party : α → ρ)

/-- The party takes the step at the moment. -/
def Moves (who : ρ) (moment : Nat) : Prop :=
  ∃ label, execution.label moment = some label ∧ party label = who

/-- The party moves again and again, or cannot again and again. -/
def Fair (who : ρ) : Prop :=
  ∀ moment, ∃ later, moment ≤ later ∧
    (execution.Moves party who later ∨
      ¬ machine.Enabled party who (execution.state later))

/-- Every step from the moment on is one the guard allows. -/
def GuardedFrom (guard : σ → α → Prop) (since : Nat) : Prop :=
  ∀ moment label, since ≤ moment → execution.label moment = some label →
    guard (execution.state moment) label

theorem guardedFrom_true (since : Nat) :
    execution.GuardedFrom (fun _ _ => True) since :=
  fun _ _ _ _ => trivial

end Fair

section Reaches

variable {execution : Execution machine} {party : α → ρ}
  {rank : σ → Nat} {invariant goal : σ → Prop} {awaited : σ → ρ}
  {guard : σ → α → Prop} {since : Nat}

/-- A step lowers the rank, or another party takes it and the same one is
awaited behind it. -/
structure Approaches (rank : σ → Nat) (invariant : σ → Prop)
    (awaited : σ → ρ) (party : α → ρ) (state : σ) (label : α) (next : σ) :
    Prop where
  kept : invariant next
  nearer : rank next < rank state ∨
    (rank next = rank state ∧ awaited next = awaited state ∧
      party label ≠ awaited state)

/-- While the goal is not reached, the rank falls or the same party is
awaited. -/
theorem approaches_until
    (preserved : ∀ state label next, invariant state → ¬ goal state →
      guard state label → machine.step state label = some next →
        goal next ∨
          Approaches rank invariant awaited party state label next)
    (guarded : execution.GuardedFrom guard since)
    (never : ∀ later, since ≤ later → ¬ goal (execution.state later))
    (initially : invariant (execution.state since)) (delay : Nat) :
    invariant (execution.state (since + delay)) ∧
      rank (execution.state (since + delay)) ≤
        rank (execution.state since) ∧
      (rank (execution.state (since + delay)) =
          rank (execution.state since) →
        awaited (execution.state (since + delay)) =
          awaited (execution.state since)) := by
  induction delay with
  | zero => exact ⟨initially, Nat.le_refl _, fun _ => rfl⟩
  | succ delay induction =>
      obtain ⟨kept, notMore, same⟩ := induction
      cases step : execution.label (since + delay) with
      | none =>
          rw [← Nat.add_assoc, execution.idle _ step]
          exact ⟨kept, notMore, same⟩
      | some label =>
          have here := never (since + delay) (Nat.le_add_right _ _)
          have allowed := guarded _ label (Nat.le_add_right _ _) step
          have taken := execution.taken _ label step
          rcases preserved _ label _ kept here allowed taken with
            reached | approaches
          · exact absurd reached
              (never (since + (delay + 1)) (Nat.le_add_right _ _))
          · rw [← Nat.add_assoc]
            rcases approaches.nearer with fell | ⟨unchanged, awaits, _⟩
            · exact ⟨approaches.kept, by omega, by omega⟩
            · rw [unchanged, awaits]
              exact ⟨approaches.kept, notMore, same⟩

/-- Progress rule: when a party which can move is awaited wherever the goal is
not reached, a fair execution reaches it. -/
theorem reaches_of_fair (party : α → ρ) (rank : σ → Nat)
    (invariant goal : σ → Prop) (awaited : σ → ρ)
    (enabled : ∀ state, invariant state → ¬ goal state →
      machine.Enabled party (awaited state) state)
    (preserved : ∀ state label next, invariant state → ¬ goal state →
      guard state label → machine.step state label = some next →
        goal next ∨
          Approaches rank invariant awaited party state label next)
    (fair : ∀ state, invariant state →
      execution.Fair party (awaited state))
    (guarded : execution.GuardedFrom guard since)
    (initially : invariant (execution.state since)) :
    ∃ later, since ≤ later ∧ goal (execution.state later) := by
  by_contra unreached
  have never : ∀ later, since ≤ later → ¬ goal (execution.state later) :=
    fun later behind reached => unreached ⟨later, behind, reached⟩
  -- The rank falls from some moment to a later one, again and again.
  have falls (left : Nat) : ∀ moment, since ≤ moment →
      invariant (execution.state moment) →
      rank (execution.state moment) ≤ left → False := by
    induction left using Nat.strongRecOn with
    | ind left induction =>
        intro moment behind holds atMost
        have onward := approaches_until preserved
          (fun later label after => guarded later label
            (Nat.le_trans behind after))
          (fun later after => never later (Nat.le_trans behind after)) holds
        obtain ⟨later, after, moves⟩ := fair _ holds moment
        obtain ⟨delay, rfl⟩ := Nat.exists_eq_add_of_le after
        obtain ⟨kept, notMore, same⟩ := onward delay
        obtain ⟨keptNext, _, _⟩ := onward (delay + 1)
        have behindNext : since ≤ moment + (delay + 1) :=
          Nat.le_trans behind (Nat.le_add_right _ _)
        have behindHere : since ≤ moment + delay :=
          Nat.le_trans behind (Nat.le_add_right _ _)
        by_cases fell : rank (execution.state (moment + delay)) <
            rank (execution.state moment)
        · exact induction _ (Nat.lt_of_lt_of_le fell atMost) _ behindHere kept
            (Nat.le_refl _)
        · have unchanged := Nat.le_antisymm notMore (Nat.le_of_not_lt fell)
          have possible := enabled _ kept (never _ behindHere)
          rw [same unchanged] at possible
          obtain ⟨label, step, mover⟩ :=
            moves.resolve_right (absurd possible)
          rcases preserved _ label _ kept (never _ behindHere)
            (guarded _ label behindHere step)
            (execution.taken _ label step) with reached | approaches
          · exact never _ behindNext reached
          · rcases approaches.nearer with less | ⟨_, _, other⟩
            · rw [unchanged] at less
              exact induction _ (Nat.lt_of_lt_of_le less atMost) _ behindNext
                keptNext (Nat.le_refl _)
            · exact other (by rw [same unchanged, mover])
  exact falls _ since (Nat.le_refl _) initially (Nat.le_refl _)

end Reaches

/-- Up to each moment an execution is a run. -/
theorem run_prefix (execution : Execution machine) (moment : Nat) :
    ∃ labels, machine.run (execution.state 0) labels =
      some (execution.state moment) := by
  induction moment with
  | zero => exact ⟨[], rfl⟩
  | succ moment induction =>
      obtain ⟨labels, reached⟩ := induction
      cases step : execution.label moment with
      | none =>
          refine ⟨labels, ?_⟩
          rw [execution.idle moment step]
          exact reached
      | some label =>
          refine ⟨labels ++ [label], run_append_eq_some.mpr
            ⟨_, reached, run_cons_eq_some.mpr
              ⟨_, execution.taken moment label step, rfl⟩⟩⟩

/-- An invariant which the allowed steps keep holds from then on. -/
theorem holds_from {execution : Execution machine} {guard : σ → α → Prop}
    {since : Nat} (invariant : σ → Prop)
    (preserved : ∀ state label next, invariant state → guard state label →
      machine.step state label = some next → invariant next)
    (guarded : execution.GuardedFrom guard since)
    (initially : invariant (execution.state since)) {later : Nat}
    (behind : since ≤ later) : invariant (execution.state later) := by
  obtain ⟨delay, rfl⟩ := Nat.exists_eq_add_of_le behind
  clear behind
  induction delay with
  | zero => exact initially
  | succ delay induction =>
      rw [← Nat.add_assoc]
      cases step : execution.label (since + delay) with
      | none =>
          rw [execution.idle _ step]
          exact induction
      | some label =>
          exact preserved _ label _ induction
            (guarded _ label (Nat.le_add_right since delay) step)
            (execution.taken _ label step)

/-- An invariant which the allowed steps keep holds at every moment. -/
theorem holds_always {execution : Execution machine} {guard : σ → α → Prop}
    (invariant : σ → Prop)
    (preserved : ∀ state label next, invariant state → guard state label →
      machine.step state label = some next → invariant next)
    (guarded : execution.GuardedFrom guard 0)
    (initially : invariant (execution.state 0)) (moment : Nat) :
    invariant (execution.state moment) :=
  holds_from invariant preserved guarded initially (Nat.zero_le moment)

/-- What grows again and again comes to any bound. -/
theorem accumulates {execution : Execution machine} {since : Nat}
    (measure : σ → Nat) (bound : Nat)
    (grows : ∀ moment, since ≤ moment →
      measure (execution.state moment) < bound →
        ∃ later, moment ≤ later ∧
          measure (execution.state moment) <
            measure (execution.state later)) :
    ∃ later, since ≤ later ∧ bound ≤ measure (execution.state later) := by
  suffices reaches : ∀ count ≤ bound, ∃ later, since ≤ later ∧
      count ≤ measure (execution.state later) from
    reaches bound (Nat.le_refl bound)
  intro count within
  induction count with
  | zero => exact ⟨since, Nat.le_refl since, Nat.zero_le _⟩
  | succ count induction =>
      obtain ⟨moment, behind, reached⟩ := induction (by omega)
      by_cases enough : count + 1 ≤ measure (execution.state moment)
      · exact ⟨moment, behind, enough⟩
      · obtain ⟨later, after, more⟩ := grows moment behind (by omega)
        exact ⟨later, Nat.le_trans behind after, by omega⟩

section Logs

variable {execution : Execution machine} {guard : σ → α → Prop} {since : Nat}
  {ε : Type x}

/-- What the allowed steps only add to is only added to from then on. -/
theorem prefix_from (log : σ → List ε)
    (grows : ∀ state label next, guard state label →
      machine.step state label = some next → log state <+: log next)
    (guarded : execution.GuardedFrom guard since) {later : Nat}
    (behind : since ≤ later) :
    log (execution.state since) <+: log (execution.state later) :=
  holds_from (fun state => log (execution.state since) <+: log state)
    (fun state label next before allowed taken =>
      before.trans (grows state label next allowed taken))
    guarded (List.prefix_refl _) behind

/-- What is pending is done in the end, if something more is done as long as
not everything is. -/
theorem comes_out (pending done : σ → List ε)
    (within : ∀ state, done state <+: pending state)
    (grows : ∀ state label next, guard state label →
      machine.step state label = some next → pending state <+: pending next)
    (guarded : execution.GuardedFrom guard since)
    (goesOn : ∀ moment, since ≤ moment →
      (done (execution.state moment)).length <
          (pending (execution.state moment)).length →
        ∃ later, moment ≤ later ∧
          (done (execution.state moment)).length <
            (done (execution.state later)).length) :
    ∃ later, since ≤ later ∧
      pending (execution.state since) <+: done (execution.state later) := by
  have grown {later : Nat} (behind : since ≤ later) :
      pending (execution.state since) <+: pending (execution.state later) :=
    prefix_from pending grows guarded behind
  obtain ⟨later, behind, enough⟩ :=
    accumulates (fun state => (done state).length)
      (pending (execution.state since)).length
      (fun moment behind less => goesOn moment behind
        (Nat.lt_of_lt_of_le less (grown behind).length_le))
  exact ⟨later, behind, List.prefix_of_prefix_length_le (grown behind)
    (within _) enough⟩

end Logs

/-! ## Executions which come to rest -/

/-- A run, and then one step over and over which changes nothing. -/
def ofRun {start finish : σ} {labels : List α} {last : α}
    (reached : machine.run start labels = some finish)
    (rests : machine.step finish last = some finish) :
    Execution machine where
  state moment := (machine.run start (labels.take moment)).getD finish
  label moment := some (labels.getD moment last)
  taken moment current same := by
    obtain rfl := Option.some.inj same
    by_cases inside : moment < labels.length
    · have split : labels.take (moment + 1) =
          labels.take moment ++ [labels.getD moment last] := by
        rw [List.take_succ_eq_append_getElem inside, List.getD_eq_getElem]
      have whole := reached
      rw [← List.take_append_drop (moment + 1) labels,
        run_append_eq_some] at whole
      obtain ⟨next, through, _⟩ := whole
      rw [through]
      rw [split, run_append_eq_some] at through
      obtain ⟨middle, before, moved⟩ := through
      rw [before]
      obtain ⟨other, taken, ends⟩ := run_cons_eq_some.mp moved
      rw [run_nil, Option.some.injEq] at ends
      rw [← ends]
      exact taken
    · have outside : labels.length ≤ moment := Nat.le_of_not_lt inside
      rw [List.take_of_length_le outside, reached,
        List.take_of_length_le (Nat.le_succ_of_le outside), reached,
        List.getD_eq_default _ _ outside]
      exact rests
  idle moment nothing := by cases nothing

section OfRun

variable {start finish : σ} {labels : List α} {last : α}
  (reached : machine.run start labels = some finish)
  (rests : machine.step finish last = some finish)

theorem ofRun_state {moment : Nat} {middle : σ}
    (through : machine.run start (labels.take moment) = some middle) :
    (ofRun reached rests).state moment = middle := by
  change (machine.run start (labels.take moment)).getD finish = middle
  rw [through]
  rfl

theorem ofRun_state_of_le {moment : Nat} (behind : labels.length ≤ moment) :
    (ofRun reached rests).state moment = finish := by
  change (machine.run start (labels.take moment)).getD finish = finish
  rw [List.take_of_length_le behind, reached]
  rfl

/-- A party is treated fairly when it takes the last step, or cannot move at
the end. -/
theorem ofRun_fair {party : α → ρ} {who : ρ}
    (rested : party last = who ∨ ¬ machine.Enabled party who finish) :
    (ofRun reached rests).Fair party who := by
  intro moment
  have behind : labels.length ≤ max moment labels.length :=
    Nat.le_max_right _ _
  refine ⟨max moment labels.length, Nat.le_max_left _ _, ?_⟩
  rcases rested with mover | stuck
  · left
    refine ⟨last, ?_, mover⟩
    exact congrArg some (List.getD_eq_default _ _ behind)
  · right
    rw [ofRun_state_of_le reached rests behind]
    exact stuck

theorem ofRun_guardedFrom {guard : σ → α → Prop}
    (guarded : machine.Guarded guard start labels)
    (resting : guard finish last) :
    (ofRun reached rests).GuardedFrom guard 0 := by
  intro moment label _ step
  obtain rfl := Option.some.inj step
  by_cases inside : moment < labels.length
  · have split : labels = labels.take moment ++
        (labels[moment] :: labels.drop (moment + 1)) := by
      rw [List.getElem_cons_drop, List.take_append_drop]
    have through := reached
    rw [split, run_append_eq_some] at through
    obtain ⟨middle, before, rest⟩ := through
    obtain ⟨next, taken, _⟩ := run_cons_eq_some.mp rest
    rw [split] at guarded
    have here : (ofRun reached rests).state moment = middle := by
      change (machine.run start (labels.take moment)).getD finish = middle
      rw [before]
      rfl
    rw [here, List.getD_eq_getElem _ _ inside]
    exact (Guarded.later guarded before next taken).1
  · have outside : labels.length ≤ moment := Nat.le_of_not_lt inside
    rw [ofRun_state_of_le reached rests outside,
      List.getD_eq_default _ _ outside]
    exact resting

end OfRun

end Execution

end LabelledMachine
