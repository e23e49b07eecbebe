import Mathlib.Data.List.Basic

set_option autoImplicit false

/-!
# Runs of a labelled step function

The label of a step carries every choice the environment makes in it, so a run
is a list of labels and a property of a run is a property of its steps.
-/

namespace Runs

universe u v

variable {S : Type u} {L : Type v}

def after (step : S → L → S) (start : S) (labels : List L) : S :=
  labels.foldl step start

/-- `holds` at every step of the run, in the state the step is taken from. -/
def Along (step : S → L → S) (holds : S → L → Prop) : S → List L → Prop
  | _, [] => True
  | state, label :: rest => holds state label ∧ Along step holds (step state label) rest

instance Along.decidable (step : S → L → S) (holds : S → L → Prop)
    [decides : ∀ state label, Decidable (holds state label)] :
    (state : S) → (labels : List L) → Decidable (Along step holds state labels)
  | _, [] => .isTrue trivial
  | state, label :: rest =>
      haveI := Along.decidable step holds (step state label) rest
      inferInstanceAs (Decidable (holds state label ∧ Along step holds (step state label) rest))

variable {step : S → L → S}

@[simp] theorem after_nil (start : S) : after step start [] = start := rfl

@[simp] theorem after_cons (start : S) (label : L) (rest : List L) :
    after step start (label :: rest) = after step (step start label) rest := rfl

theorem after_append (start : S) (front back : List L) :
    after step start (front ++ back) = after step (after step start front) back :=
  List.foldl_append

@[simp] theorem along_nil (holds : S → L → Prop) (start : S) : Along step holds start [] :=
  trivial

@[simp] theorem along_cons (holds : S → L → Prop) (start : S) (label : L) (rest : List L) :
    Along step holds start (label :: rest) ↔
      holds start label ∧ Along step holds (step start label) rest := Iff.rfl

/-- A property that every step keeps is a property of every state a run reaches. -/
theorem after_invariant {Inv : S → Prop} (keeps : ∀ state label, Inv state → Inv (step state label))
    {start : S} (initial : Inv start) (labels : List L) : Inv (after step start labels) := by
  induction labels generalizing start with
  | nil => exact initial
  | cons label rest ih => exact ih (keeps start label initial)

/-- A property that allowed steps keep is a property of every state an allowed run reaches. -/
theorem Along.invariant {holds : S → L → Prop} {Inv : S → Prop}
    (keeps : ∀ state label, Inv state → holds state label → Inv (step state label))
    {start : S} {labels : List L} (initial : Inv start)
    (along : Along step holds start labels) : Inv (after step start labels) := by
  induction labels generalizing start with
  | nil => exact initial
  | cons label rest ih => exact ih (keeps start label initial along.1) along.2

theorem Along.mono {holds weaker : S → L → Prop} {Inv : S → Prop}
    (keeps : ∀ state label, Inv state → holds state label → Inv (step state label))
    (implies : ∀ state label, Inv state → holds state label → weaker state label)
    {start : S} {labels : List L} (initial : Inv start)
    (along : Along step holds start labels) : Along step weaker start labels := by
  induction labels generalizing start with
  | nil => trivial
  | cons label rest ih =>
    exact ⟨implies start label initial along.1,
      ih (keeps start label initial along.1) along.2⟩

/-- Two step properties that agree under an invariant at the steps of a run agree along it, as long
as the steps they allow keep the invariant. -/
theorem along_iff_of {fits good allowed : S → L → Prop} {Inv : S → Prop}
    (keeps : ∀ state label, Inv state → fits state label → allowed state label →
      Inv (step state label))
    (same : ∀ state label, Inv state → fits state label → (good state label ↔ allowed state label))
    {start : S} (initial : Inv start) {labels : List L} (along : Along step fits start labels) :
    Along step good start labels ↔ Along step allowed start labels := by
  induction labels generalizing start with
  | nil => exact Iff.rfl
  | cons label rest ih =>
    obtain ⟨first, later⟩ := along
    rw [along_cons, along_cons, same start label initial first]
    constructor
    · rintro ⟨here, others⟩
      exact ⟨here, (ih (keeps start label initial first here) later).mp others⟩
    · rintro ⟨here, others⟩
      exact ⟨here, (ih (keeps start label initial first here) later).mpr others⟩

theorem along_of_forall {holds : L → Prop} {labels : List L} (all : ∀ label ∈ labels, holds label)
    (start : S) : Along step (fun _ label => holds label) start labels := by
  induction labels generalizing start with
  | nil => trivial
  | cons label rest ih =>
    obtain ⟨first, later⟩ := List.forall_mem_cons.mp all
    exact ⟨first, ih later _⟩

theorem along_iff {good allowed : S → L → Prop} {Inv : S → Prop}
    (keeps : ∀ state label, Inv state → allowed state label → Inv (step state label))
    (same : ∀ state label, Inv state → (good state label ↔ allowed state label))
    {start : S} (initial : Inv start) (labels : List L) :
    Along step good start labels ↔ Along step allowed start labels :=
  along_iff_of (fun state label initial _ here => keeps state label initial here)
    (fun state label initial _ => same state label initial) initial
    (along_of_forall (fun _ _ => trivial) start)

/-- Step properties that agree in every state agree along every run. -/
theorem along_congr {good allowed : S → L → Prop}
    (same : ∀ state label, good state label ↔ allowed state label) (start : S)
    (labels : List L) : Along step good start labels ↔ Along step allowed start labels := by
  induction labels generalizing start with
  | nil => exact Iff.rfl
  | cons label rest ih => rw [along_cons, along_cons, same start label, ih]

/-- What holds along a run holds at each of its steps. -/
theorem Along.at_step {holds : S → L → Prop} {start : S} (front : List L) (label : L)
    (back : List L) (along : Along step holds start (front ++ label :: back)) :
    holds (after step start front) label := by
  induction front generalizing start with
  | nil => exact along.1
  | cons first rest ih => exact ih along.2

end Runs
