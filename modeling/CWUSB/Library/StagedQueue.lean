import Mathlib.Data.List.Basic
import Mathlib.Data.List.Flatten

/-!
# Staged queues

Items wait in one queue, a worker takes them one at a time and expands each
into parts, and the parts become ready one after the other in a second queue.
Whatever the worker does, the parts ready, in work and still to be made of
the waiting items stay the same list: the pipeline is one queue of parts.
-/

structure StagedQueue (α : Type u) (β : Type v) where
  waiting : List α
  inWork : List β
  ready : List β

namespace StagedQueue

variable {α : Type u} {β : Type v}

/-- All parts in the pipeline, in the order they will leave it. -/
def content (expand : α → List β) (queue : StagedQueue α β) : List β :=
  queue.ready ++ (queue.inWork ++ queue.waiting.flatMap expand)

/-- What the worker may do: take an item when nothing is in work, or hand
over the next part. -/
inductive Work (expand : α → List β) :
    StagedQueue α β → StagedQueue α β → Prop where
  | take (item : α) (waiting : List α) (ready : List β) :
      Work expand ⟨item :: waiting, [], ready⟩ ⟨waiting, expand item, ready⟩
  | handOver (part : β) (waiting : List α) (inWork ready : List β) :
      Work expand ⟨waiting, part :: inWork, ready⟩
        ⟨waiting, inWork, ready ++ [part]⟩

theorem Work.content_eq {expand : α → List β}
    {before after : StagedQueue α β} (work : Work expand before after) :
    after.content expand = before.content expand := by
  cases work with
  | take item waiting ready => simp [content]
  | handOver part waiting inWork ready => simp [content]

theorem content_accept (expand : α → List β) (queue : StagedQueue α β)
    (item : α) :
    content expand { queue with waiting := queue.waiting ++ [item] } =
      queue.content expand ++ expand item := by
  simp [content]

/-- Taking the first ready part takes the first part of the pipeline. -/
theorem content_pop (expand : α → List β) (waiting : List α)
    (inWork ready : List β) (part : β) :
    content expand ⟨waiting, inWork, part :: ready⟩ =
      part :: content expand ⟨waiting, inWork, ready⟩ := by
  simp [content]

/-! ## Groups of parts which leave in order -/

/-- Of groups of parts which leave one after the other, how many have not left
entirely once a number of parts has. -/
def unfinished : List (List β) → Nat → Nat
  | [], _ => 0
  | group :: groups, left =>
      (if left < group.length then 1 else 0) +
        unfinished groups (left - group.length)

theorem unfinished_le_length (groups : List (List β)) (left : Nat) :
    unfinished groups left ≤ groups.length := by
  induction groups generalizing left with
  | nil => exact Nat.le_refl 0
  | cons group groups induction =>
      have rest := induction (left - group.length)
      rw [unfinished, List.length_cons]
      split <;> omega

theorem unfinished_append (first second : List (List β)) (left : Nat) :
    unfinished (first ++ second) left =
      unfinished first left +
        unfinished second (left - first.flatten.length) := by
  induction first generalizing left with
  | nil => simp [unfinished]
  | cons group first induction =>
      rw [List.cons_append, unfinished, unfinished, induction,
        List.flatten_cons, List.length_append, Nat.sub_sub, Nat.add_assoc]

theorem unfinished_of_le {groups : List (List β)} {left : Nat}
    (all : groups.flatten.length ≤ left) : unfinished groups left = 0 := by
  induction groups generalizing left with
  | nil => rfl
  | cons group groups induction =>
      rw [List.flatten_cons, List.length_append] at all
      rw [unfinished, if_neg (by omega), induction (by omega)]

end StagedQueue
