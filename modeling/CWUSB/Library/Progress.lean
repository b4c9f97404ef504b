import CWUSB.Library.LabelledMachine

/-!
# Progress of machines

The steps of a run interleave those of one party with those of the others.  A
rank which the counted steps bring down, and the others do not raise, bounds
how many of the counted steps it takes to reach a goal.
-/

namespace LabelledMachine

variable {σ : Type u} {α : Type v} {machine : LabelledMachine σ α}

/-- Run rule for progress: a goal which persists is reached within as many of
the counted steps as the rank says. -/
theorem reaches_of_rank (rank : σ → Nat) (invariant : σ → Prop)
    (counted : α → Bool) {guard : σ → α → Prop} {goal : σ → Prop}
    (achieved : ∀ state, invariant state → rank state = 0 → goal state)
    (preserved : ∀ state label next, invariant state → ¬ goal state →
      guard state label → machine.step state label = some next →
        goal next ∨
          (invariant next ∧ rank next ≤ rank state ∧
            (counted label = true → rank next < rank state)))
    (persists : ∀ state label next, goal state →
      machine.step state label = some next → goal next)
    {state finish : σ} {labels : List α} (initially : invariant state)
    (guarded : machine.Guarded guard state labels)
    (reached : machine.run state labels = some finish)
    (enough : rank state ≤ labels.countP counted) : goal finish := by
  induction labels generalizing state with
  | nil =>
      rw [run_nil, Option.some.injEq] at reached
      rw [← reached]
      apply achieved state initially
      simpa using enough
  | cons label labels induction =>
      by_cases already : goal state
      · exact machine.run_invariant goal persists already reached
      · obtain ⟨next, taken, rest⟩ := run_cons_eq_some.mp reached
        obtain ⟨allowed, later⟩ := guarded next taken
        rcases preserved state label next initially already allowed taken with
          there | ⟨kept, notMore, less⟩
        · exact machine.run_invariant goal persists there rest
        · apply induction kept later rest
          rw [List.countP_cons] at enough
          by_cases counts : counted label = true
          · have less := less counts
            rw [if_pos counts] at enough
            omega
          · rw [if_neg counts] at enough
            omega

end LabelledMachine
