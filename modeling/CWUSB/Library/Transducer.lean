import Mathlib.Data.List.Infix

/-!
# Transducers

A transducer takes inputs one after the other, and may put something out at
each of them.  Inputs which wait determine what it will put out, and how many
of them it takes until it does; more inputs behind them change neither.
-/

structure Transducer (σ : Type u) (α : Type v) (β : Type w) where
  absorb : σ → α → σ × Option β

namespace Transducer

variable {σ : Type u} {α : Type v} {β : Type w}
  (transducer : Transducer σ α β)

/-- What the inputs make the transducer put out. -/
def outputs : σ → List α → List β
  | _, [] => []
  | state, input :: inputs =>
      (transducer.absorb state input).2.toList ++
        outputs (transducer.absorb state input).1 inputs

/-- The inputs up to the first output. -/
def delay : σ → List α → Nat
  | _, [] => 0
  | state, input :: inputs =>
      if (transducer.absorb state input).2.isSome then 1
      else delay (transducer.absorb state input).1 inputs + 1

variable {transducer} {state : σ} {input : α} {inputs : List α}

@[simp] theorem outputs_nil : transducer.outputs state [] = [] := rfl

theorem outputs_cons : transducer.outputs state (input :: inputs) =
    (transducer.absorb state input).2.toList ++
      transducer.outputs (transducer.absorb state input).1 inputs := rfl

theorem outputs_prefix (more : List α) :
    transducer.outputs state inputs <+:
      transducer.outputs state (inputs ++ more) := by
  induction inputs generalizing state with
  | nil => exact List.nil_prefix
  | cons input inputs induction =>
      rw [List.cons_append, outputs_cons, outputs_cons,
        List.prefix_append_right_inj]
      exact induction

theorem delay_append (more : List α)
    (waits : transducer.outputs state inputs ≠ []) :
    transducer.delay state (inputs ++ more) =
      transducer.delay state inputs := by
  induction inputs generalizing state with
  | nil => exact absurd rfl waits
  | cons input inputs induction =>
      rw [List.cons_append, delay, delay]
      cases emitted : (transducer.absorb state input).2 with
      | some output => rfl
      | none =>
          rw [outputs_cons, emitted, Option.toList_none,
            List.nil_append] at waits
          rw [induction waits]

theorem delay_pos (waits : transducer.outputs state inputs ≠ []) :
    0 < transducer.delay state inputs := by
  cases inputs with
  | nil => exact absurd rfl waits
  | cons input inputs =>
      rw [delay]
      split <;> exact Nat.succ_pos _

/-- An input without an output brings the next one nearer. -/
theorem delay_cons (silent : (transducer.absorb state input).2 = none) :
    transducer.delay state (input :: inputs) =
      transducer.delay (transducer.absorb state input).1 inputs + 1 := by
  rw [delay, silent]
  rfl

end Transducer
