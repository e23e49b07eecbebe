import Mathlib.Data.List.Basic

set_option autoImplicit false

/-!
# Computations that leave a trace

A `Traced` computation ends with a value or an exception and leaves behind the
events it caused, those of a failing computation included.
-/

universe u

structure Traced (ε E : Type) (α : Type u) where
  trace : List E
  result : Except ε α

namespace Traced

variable {ε E : Type} {α β : Type u}

protected def pure (value : α) : Traced ε E α := ⟨[], .ok value⟩

protected def bind (first : Traced ε E α) (next : α → Traced ε E β) : Traced ε E β :=
  match first.result with
  | .ok value => ⟨first.trace ++ (next value).trace, (next value).result⟩
  | .error exception => ⟨first.trace, .error exception⟩

instance : Monad (Traced ε E) where
  pure := Traced.pure
  bind := Traced.bind

def throw (exception : ε) : Traced ε E α := ⟨[], .error exception⟩

def emit (event : E) : Traced ε E PUnit := ⟨[event], .ok ⟨⟩⟩

def lift (value : Except ε α) : Traced ε E α := ⟨[], value⟩

/-- `try … except`: the handler may turn the exception into a value or another exception. -/
def catching (body : Traced ε E α) (handler : ε → Except ε α) : Traced ε E α :=
  match body.result with
  | .ok value => ⟨body.trace, .ok value⟩
  | .error exception => ⟨body.trace, handler exception⟩

@[simp] theorem trace_pure (value : α) : (pure value : Traced ε E α).trace = [] := rfl
@[simp] theorem result_pure (value : α) : (pure value : Traced ε E α).result = .ok value := rfl
@[simp] theorem trace_throw (exception : ε) : (throw exception : Traced ε E α).trace = [] := rfl
@[simp] theorem result_throw (exception : ε) :
    (throw exception : Traced ε E α).result = .error exception := rfl
@[simp] theorem trace_emit (event : E) : (emit event : Traced ε E PUnit).trace = [event] := rfl
@[simp] theorem result_emit (event : E) : (emit event : Traced ε E PUnit).result = .ok ⟨⟩ := rfl
@[simp] theorem trace_lift (value : Except ε α) : (lift value : Traced ε E α).trace = [] := rfl
@[simp] theorem result_lift (value : Except ε α) : (lift value : Traced ε E α).result = value := rfl

theorem bind_of_ok {first : Traced ε E α} {value : α} (ends : first.result = .ok value)
    (next : α → Traced ε E β) :
    (first >>= next) = ⟨first.trace ++ (next value).trace, (next value).result⟩ := by
  show Traced.bind first next = _
  simp only [Traced.bind, ends]

theorem bind_of_error {first : Traced ε E α} {exception : ε}
    (ends : first.result = .error exception) (next : α → Traced ε E β) :
    (first >>= next) = ⟨first.trace, .error exception⟩ := by
  show Traced.bind first next = _
  simp only [Traced.bind, ends]

theorem bind_pure (run : Traced ε E α) : Traced.bind run Traced.pure = run := by
  cases run with
  | mk trace result =>
    cases result with
    | ok value => simp [Traced.bind, Traced.pure]
    | error exception => rfl

theorem bind_bind {γ : Type u} (first : Traced ε E α) (next : α → Traced ε E β)
    (last : β → Traced ε E γ) :
    (first >>= next >>= last) = first >>= fun value => next value >>= last := by
  cases ends : first.result with
  | error exception => rw [bind_of_error ends, bind_of_error rfl, bind_of_error ends]
  | ok value =>
    rw [bind_of_ok ends, bind_of_ok ends]
    cases second : (next value).result with
    | error exception => rw [bind_of_error rfl, bind_of_error second]
    | ok value => rw [bind_of_ok rfl, bind_of_ok second, List.append_assoc]

instance : LawfulMonad (Traced ε E) :=
  LawfulMonad.mk' _ (fun run => bind_pure run) (fun _ _ => rfl) bind_bind

/-- A computation that starts with another one leaves at least the trace of that one. -/
theorem trace_starts_bind (first : Traced ε E α) (next : α → Traced ε E β) :
    first.trace <+: (first >>= next).trace := by
  cases ends : first.result with
  | ok value => rw [bind_of_ok ends]; exact List.prefix_append _ _
  | error exception => simp [bind_of_error ends]

theorem mem_trace_bind {event : E} (first : Traced ε E α) (next : α → Traced ε E β) :
    event ∈ (first >>= next).trace ↔
      event ∈ first.trace ∨
        ∃ value, first.result = .ok value ∧ event ∈ (next value).trace := by
  cases ends : first.result with
  | ok value => rw [bind_of_ok ends]; simp
  | error exception => rw [bind_of_error ends]; simp

theorem result_bind_eq_ok {first : Traced ε E α} {next : α → Traced ε E β} {final : β}
    (ends : (first >>= next).result = .ok final) :
    ∃ value, first.result = .ok value ∧ (next value).result = .ok final ∧
      (first >>= next).trace = first.trace ++ (next value).trace := by
  cases front : first.result with
  | ok value =>
    rw [bind_of_ok front] at ends ⊢
    exact ⟨value, rfl, ends, rfl⟩
  | error exception =>
    rw [bind_of_error front] at ends
    cases ends

@[simp] theorem trace_catching (body : Traced ε E α) (handler : ε → Except ε α) :
    (catching body handler).trace = body.trace := by
  unfold catching
  split <;> rfl

theorem result_catching (body : Traced ε E α) (handler : ε → Except ε α) :
    (catching body handler).result =
      match body.result with
      | .ok value => .ok value
      | .error exception => handler exception := by
  unfold catching
  split <;> simp_all

/-- The events a computation and its continuation leave, seen through a filter. -/
theorem filterMap_trace_bind {F : Type} (shown : E → Option F) (first : Traced ε E α)
    (next : α → Traced ε E β) :
    (first >>= next).trace.filterMap shown =
      first.trace.filterMap shown ++
        match first.result with
        | .ok value => (next value).trace.filterMap shown
        | .error _ => [] := by
  cases ends : first.result with
  | ok value => rw [bind_of_ok ends]; simp
  | error exception => rw [bind_of_error ends]; simp

/-- Every event the computation leaves has the property. -/
def Every (shows : E → Prop) (run : Traced ε E α) : Prop := ∀ event ∈ run.trace, shows event

section Every

variable {shows : E → Prop} {front : Traced ε E α} {rest : α → Traced ε E β}

theorem Every.bind (early : Every shows front)
    (late : ∀ value, front.result = .ok value → Every shows (rest value)) :
    Every shows (front >>= rest) := by
  intro event inside
  rcases (mem_trace_bind front rest).mp inside with inside | ⟨value, ends, inside⟩
  · exact early event inside
  · exact late value ends event inside

theorem Every.first (every : Every shows (front >>= rest)) : Every shows front :=
  fun event inside => every event ((mem_trace_bind front rest).mpr (.inl inside))

theorem Every.next {value : α} (ends : front.result = .ok value)
    (every : Every shows (front >>= rest)) : Every shows (rest value) :=
  fun event inside => every event ((mem_trace_bind front rest).mpr (.inr ⟨value, ends, inside⟩))

theorem every_of_silent (silent : front.trace = []) : Every shows front := by
  intro event inside
  rw [silent] at inside
  cases inside

theorem Every.catching (handler : ε → Except ε α) (every : Every shows front) :
    Every shows (catching front handler) := by
  intro event inside
  rw [trace_catching] at inside
  exact every event inside

end Every

@[simp] theorem pure_bind (value : α) (next : α → Traced ε E β) :
    (pure value >>= next : Traced ε E β) = next value := rfl

@[simp] theorem throw_bind (exception : ε) (next : α → Traced ε E β) :
    (throw exception >>= next : Traced ε E β) = throw exception := rfl

@[simp] theorem emit_bind (event : E) (next : PUnit → Traced ε E β) :
    (emit event >>= next : Traced ε E β) = ⟨event :: (next ⟨⟩).trace, (next ⟨⟩).result⟩ := rfl

@[simp] theorem lift_ok_bind (value : α) (next : α → Traced ε E β) :
    (lift (.ok value) >>= next : Traced ε E β) = next value := rfl

@[simp] theorem lift_error_bind (exception : ε) (next : α → Traced ε E β) :
    (lift (.error exception) >>= next : Traced ε E β) = throw exception := rfl

end Traced
