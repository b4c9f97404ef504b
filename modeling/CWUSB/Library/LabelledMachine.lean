import Mathlib.Data.List.Forall2

/-!
# Labelled machines and their runs

A machine is a partial step function whose nondeterminism is carried by the
labels of its steps.  A run executes a list of labels.  Three rules transport
facts from one step to a whole run: an invariant may mention the labels
executed so far, it may rely on a guard every executed step satisfies, and a
property which each step keeps exactly when its guard holds characterizes the
guarded runs.
-/

structure LabelledMachine (σ : Type u) (α : Type v) where
  step : σ → α → Option σ

namespace LabelledMachine

variable {σ : Type u} {α : Type v} (machine : LabelledMachine σ α)

def run : σ → List α → Option σ
  | state, [] => some state
  | state, label :: labels =>
      (machine.step state label).bind fun next => run next labels

/-- Every step the labels make the machine take meets the guard in the state
it starts from. -/
def Guarded (guard : σ → α → Prop) : σ → List α → Prop
  | _, [] => True
  | state, label :: labels =>
      ∀ next, machine.step state label = some next →
        guard state label ∧ Guarded guard next labels

instance decidableGuarded (guard : σ → α → Prop)
    [decidableGuard : ∀ state label, Decidable (guard state label)] :
    ∀ state labels, Decidable (machine.Guarded guard state labels)
  | _, [] => .isTrue trivial
  | state, label :: labels =>
      match taken : machine.step state label with
      | none => .isTrue (by simp [Guarded, taken])
      | some next =>
          have := decidableGuarded guard next labels
          decidable_of_iff
            (guard state label ∧ machine.Guarded guard next labels)
            (by simp [Guarded, taken])

/-- The property holds in every state the labels lead through. -/
def Always (property : σ → Prop) : σ → List α → Prop
  | state, [] => property state
  | state, label :: labels =>
      property state ∧
        ∀ next, machine.step state label = some next →
          Always property next labels

variable {machine}

@[simp] theorem run_nil (state : σ) :
    machine.run state [] = some state := rfl

theorem run_cons_eq_some {state finish : σ} {label : α} {labels : List α} :
    machine.run state (label :: labels) = some finish ↔
      ∃ next, machine.step state label = some next ∧
        machine.run next labels = some finish := by
  simp [run, Option.bind_eq_some_iff]

theorem run_append_eq_some {state finish : σ} {first second : List α} :
    machine.run state (first ++ second) = some finish ↔
      ∃ middle, machine.run state first = some middle ∧
        machine.run middle second = some finish := by
  induction first generalizing state with
  | nil => simp
  | cons label labels induction =>
      simp only [List.cons_append, run_cons_eq_some, induction]
      constructor
      · rintro ⟨next, taken, middle, reached, rest⟩
        exact ⟨middle, ⟨next, taken, reached⟩, rest⟩
      · rintro ⟨middle, ⟨next, taken, reached⟩, rest⟩
        exact ⟨next, taken, middle, reached, rest⟩

theorem Always.here {property : σ → Prop} {state : σ} {labels : List α}
    (always : machine.Always property state labels) : property state := by
  cases labels with
  | nil => exact always
  | cons label labels => exact always.1

theorem guarded_of_labels {guard : σ → α → Prop} {labels : List α}
    (only : ∀ label ∈ labels, ∀ state, guard state label) (state : σ) :
    machine.Guarded guard state labels := by
  induction labels generalizing state with
  | nil => trivial
  | cons label labels induction =>
      intro next _taken
      refine ⟨only label (by simp) state, induction ?_ next⟩
      exact fun other member => only other (List.mem_cons_of_mem _ member)

theorem Guarded.later {guard : σ → α → Prop} {state middle : σ}
    {first second : List α}
    (guarded : machine.Guarded guard state (first ++ second))
    (reached : machine.run state first = some middle) :
    machine.Guarded guard middle second := by
  induction first generalizing state with
  | nil =>
      simp only [run_nil, Option.some.injEq] at reached
      rwa [← reached]
  | cons label labels induction =>
      obtain ⟨next, taken, rest⟩ := run_cons_eq_some.mp reached
      exact induction (guarded next taken).2 rest

theorem Guarded.earlier {guard : σ → α → Prop} {state : σ}
    {first second : List α}
    (guarded : machine.Guarded guard state (first ++ second)) :
    machine.Guarded guard state first := by
  induction first generalizing state with
  | nil => trivial
  | cons label labels induction =>
      intro next taken
      exact ⟨(guarded next taken).1, induction (guarded next taken).2⟩

theorem Guarded.and {first second : σ → α → Prop} {state : σ}
    {labels : List α} (meetsFirst : machine.Guarded first state labels)
    (meetsSecond : machine.Guarded second state labels) :
    machine.Guarded (fun state label => first state label ∧ second state label)
      state labels := by
  induction labels generalizing state with
  | nil => trivial
  | cons label labels induction =>
      intro next taken
      exact ⟨⟨(meetsFirst next taken).1, (meetsSecond next taken).1⟩,
        induction (meetsFirst next taken).2 (meetsSecond next taken).2⟩

private theorem run_traced_from {guard : σ → α → Prop}
    {invariant : List α → σ → Prop}
    (preserved : ∀ past state label next, invariant past state →
      guard state label → machine.step state label = some next →
        invariant (past ++ [label]) next)
    {past labels : List α} {state finish : σ}
    (initially : invariant past state)
    (guarded : machine.Guarded guard state labels)
    (reached : machine.run state labels = some finish) :
    invariant (past ++ labels) finish := by
  induction labels generalizing past state with
  | nil =>
      simp only [run_nil, Option.some.injEq] at reached
      simpa [reached] using initially
  | cons label labels induction =>
      obtain ⟨next, taken, rest⟩ := run_cons_eq_some.mp reached
      obtain ⟨allowed, later⟩ := guarded next taken
      have kept := preserved past state label next initially allowed taken
      simpa using induction kept later rest

section Rules

variable (machine)

/-- Run rule for an invariant which may mention the executed labels. -/
theorem run_traced (invariant : List α → σ → Prop) {guard : σ → α → Prop}
    (preserved : ∀ past state label next, invariant past state →
      guard state label → machine.step state label = some next →
        invariant (past ++ [label]) next)
    {labels : List α} {state finish : σ}
    (initially : invariant [] state)
    (guarded : machine.Guarded guard state labels)
    (reached : machine.run state labels = some finish) :
    invariant labels finish :=
  run_traced_from preserved initially guarded reached

/-- Run rule for an invariant of the states alone. -/
theorem guarded_invariant (invariant : σ → Prop) {guard : σ → α → Prop}
    (preserved : ∀ state label next, invariant state →
      guard state label → machine.step state label = some next →
        invariant next)
    {labels : List α} {state finish : σ} (initially : invariant state)
    (guarded : machine.Guarded guard state labels)
    (reached : machine.run state labels = some finish) :
    invariant finish :=
  machine.run_traced (fun _past current => invariant current)
    (fun _past => preserved) initially guarded reached

/-- Run rule for an invariant which every step preserves. -/
theorem run_invariant (invariant : σ → Prop)
    (preserved : ∀ state label next, invariant state →
      machine.step state label = some next → invariant next)
    {labels : List α} {state finish : σ} (initially : invariant state)
    (reached : machine.run state labels = some finish) :
    invariant finish :=
  machine.guarded_invariant invariant
    (fun state label next holds _ => preserved state label next holds)
    initially (guarded_of_labels (fun _ _ _ => trivial) state) reached

/-- What follows from an invariant of the guarded steps holds all along a
guarded run. -/
theorem always_of_guarded (invariant : σ → Prop) {guard : σ → α → Prop}
    {property : σ → Prop}
    (preserved : ∀ state label next, invariant state →
      guard state label → machine.step state label = some next →
        invariant next)
    (implied : ∀ state, invariant state → property state)
    {state : σ} {labels : List α} (initially : invariant state)
    (guarded : machine.Guarded guard state labels) :
    machine.Always property state labels := by
  induction labels generalizing state with
  | nil => exact implied state initially
  | cons label labels induction =>
      refine ⟨implied state initially, fun next taken => ?_⟩
      obtain ⟨allowed, later⟩ := guarded next taken
      exact induction (preserved state label next initially allowed taken) later

/-- A property which each step keeps exactly when the step meets its guard
holds along a run exactly when the run is guarded. -/
theorem always_iff_guarded (invariant : σ → Prop) (allowed : α → Prop)
    {guard : σ → α → Prop} {property : σ → Prop}
    (preserved : ∀ state label next, invariant state → property state →
      allowed label → machine.step state label = some next →
        property next → invariant next)
    (exactly : ∀ state label next, invariant state → property state →
      allowed label → machine.step state label = some next →
        (property next ↔ guard state label))
    {state : σ} {labels : List α} (initially : invariant state)
    (holds : property state)
    (only : ∀ label ∈ labels, allowed label) :
    machine.Always property state labels ↔
      machine.Guarded guard state labels := by
  induction labels generalizing state with
  | nil => simp [Always, Guarded, holds]
  | cons label labels induction =>
      have allowedHere := only label (by simp)
      have allowedLater : ∀ other ∈ labels, allowed other :=
        fun other member => only other (List.mem_cons_of_mem _ member)
      simp only [Always, Guarded, holds, true_and]
      refine forall_congr' fun next => forall_congr' fun taken => ?_
      have same := exactly state label next initially holds allowedHere taken
      constructor
      · intro always
        have kept := always.here
        have later :=
          preserved state label next initially holds allowedHere taken kept
        exact ⟨same.mp kept, (induction later kept allowedLater).mp always⟩
      · rintro ⟨allowed, guarded⟩
        have kept := same.mpr allowed
        have later :=
          preserved state label next initially holds allowedHere taken kept
        exact (induction later kept allowedLater).mpr guarded

end Rules

theorem Always.final {property : σ → Prop} {state finish : σ}
    {labels : List α} (always : machine.Always property state labels)
    (reached : machine.run state labels = some finish) :
    property finish := by
  induction labels generalizing state with
  | nil =>
      simp only [run_nil, Option.some.injEq] at reached
      simpa [reached, Always] using always
  | cons label labels induction =>
      obtain ⟨next, taken, rest⟩ := run_cons_eq_some.mp reached
      exact induction (always.2 next taken) rest

/-- A property whose violation persists held all along a run at whose end it
holds. -/
theorem always_of_final (invariant : σ → Prop) (allowed : α → Prop)
    {property : σ → Prop}
    (preserved : ∀ state label next, invariant state → allowed label →
      machine.step state label = some next → invariant next)
    (persists : ∀ state label next, invariant state → allowed label →
      machine.step state label = some next → property next →
        property state)
    {state finish : σ} {labels : List α} (initially : invariant state)
    (only : ∀ label ∈ labels, allowed label)
    (reached : machine.run state labels = some finish)
    (atEnd : property finish) : machine.Always property state labels := by
  induction labels generalizing state with
  | nil =>
      simp only [run_nil, Option.some.injEq] at reached
      simpa [reached, Always] using atEnd
  | cons label labels induction =>
      obtain ⟨next, taken, rest⟩ := run_cons_eq_some.mp reached
      have allowedHere := only label (by simp)
      have allowedLater : ∀ other ∈ labels, allowed other :=
        fun other member => only other (List.mem_cons_of_mem _ member)
      have later := preserved state label next initially allowedHere taken
      have always := induction later allowedLater rest
      refine ⟨persists state label next initially allowedHere taken
        always.here, ?_⟩
      intro other alsoTaken
      rw [taken, Option.some.injEq] at alsoTaken
      rwa [← alsoTaken]

/-- Rule for simulations: when the guarded steps of one machine are matched
by runs of another, so are its guarded runs. -/
theorem simulates {τ : Type w} {β : Type x} {abstract : LabelledMachine τ β}
    {relation : σ → τ → Prop} {guard : σ → α → Prop}
    (matched : ∀ state label next other, relation state other →
      guard state label → machine.step state label = some next →
        ∃ labels otherNext, abstract.run other labels = some otherNext ∧
          relation next otherNext)
    {state finish : σ} {labels : List α} {other : τ}
    (related : relation state other)
    (guarded : machine.Guarded guard state labels)
    (reached : machine.run state labels = some finish) :
    ∃ otherLabels otherFinish,
      abstract.run other otherLabels = some otherFinish ∧
        relation finish otherFinish := by
  induction labels generalizing state other with
  | nil =>
      simp only [run_nil, Option.some.injEq] at reached
      subst finish
      exact ⟨[], other, rfl, related⟩
  | cons label labels induction =>
      obtain ⟨next, taken, rest⟩ := run_cons_eq_some.mp reached
      obtain ⟨allowed, later⟩ := guarded next taken
      obtain ⟨first, otherNext, otherReached, stillRelated⟩ :=
        matched state label next other related allowed taken
      obtain ⟨second, otherFinish, otherRest, atEnd⟩ :=
        induction stillRelated later rest
      exact ⟨first ++ second, otherFinish,
        run_append_eq_some.mpr ⟨otherNext, otherReached, otherRest⟩, atEnd⟩

/-- Rule for two runs of matching labels: a relation which matching steps keep
holds at their ends. -/
theorem run_related {τ : Type w} {β : Type x} {other : LabelledMachine τ β}
    (relation : σ → τ → Prop) {matching : α → β → Prop}
    (preserved : ∀ state label next otherState otherLabel otherNext,
      relation state otherState → matching label otherLabel →
        machine.step state label = some next →
          other.step otherState otherLabel = some otherNext →
            relation next otherNext)
    {state finish : σ} {labels : List α} {otherState otherFinish : τ}
    {otherLabels : List β} (related : relation state otherState)
    (pairwise : List.Forall₂ matching labels otherLabels)
    (reached : machine.run state labels = some finish)
    (otherReached : other.run otherState otherLabels = some otherFinish) :
    relation finish otherFinish := by
  induction pairwise generalizing state otherState with
  | nil =>
      simp only [run_nil, Option.some.injEq] at reached otherReached
      rwa [← reached, ← otherReached]
  | cons alike _rest induction =>
      obtain ⟨next, taken, rest⟩ := run_cons_eq_some.mp reached
      obtain ⟨otherNext, otherTaken, otherRest⟩ :=
        run_cons_eq_some.mp otherReached
      have stillRelated :=
        preserved state _ next otherState _ otherNext related alike taken
          otherTaken
      exact induction stillRelated rest otherRest

/-! ## History variables -/

variable {τ : Type w}

/-- The machine with a history beside its state.  Every step extends it and
none depends on it. -/
def withHistory (machine : LabelledMachine σ α) (record : σ → α → τ → τ) :
    LabelledMachine (σ × τ) α where
  step := fun current label =>
    (machine.step current.1 label).map fun next =>
      (next, record current.1 label current.2)

section History

variable {record : σ → α → τ → τ} {state finish : σ} {past last : τ}

theorem withHistory_step_eq_some {label : α} :
    (machine.withHistory record).step (state, past) label =
        some (finish, last) ↔
      machine.step state label = some finish ∧
        record state label past = last := by
  simp only [withHistory, Option.map_eq_some_iff, Prod.mk.injEq]
  constructor
  · rintro ⟨_, taken, rfl, kept⟩
    exact ⟨taken, kept⟩
  · rintro ⟨taken, kept⟩
    exact ⟨finish, taken, rfl, kept⟩

/-- Without its history a run is one of the machine. -/
theorem run_of_withHistory {labels : List α}
    (reached : (machine.withHistory record).run (state, past) labels =
      some (finish, last)) :
    machine.run state labels = some finish := by
  induction labels generalizing state past with
  | nil =>
      simp only [run_nil, Option.some.injEq, Prod.mk.injEq] at reached
      rw [run_nil, reached.1]
  | cons label labels induction =>
      obtain ⟨⟨next, later⟩, taken, rest⟩ := run_cons_eq_some.mp reached
      exact run_cons_eq_some.mpr
        ⟨next, (withHistory_step_eq_some.mp taken).1, induction rest⟩

/-- A history does not change which steps meet a guard. -/
theorem Guarded.withHistory {guard : σ → α → Prop} {labels : List α}
    (guarded : machine.Guarded guard state labels) :
    (machine.withHistory record).Guarded
      (fun current label => guard current.1 label) (state, past) labels := by
  induction labels generalizing state past with
  | nil => trivial
  | cons label labels induction =>
      rintro ⟨next, later⟩ taken
      have step := (withHistory_step_eq_some.mp taken).1
      exact ⟨(guarded next step).1, induction (guarded next step).2⟩

end History

end LabelledMachine
