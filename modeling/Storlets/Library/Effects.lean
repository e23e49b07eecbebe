import Mathlib.Data.List.Basic
import Mathlib.Order.Defs.Unbundled

set_option autoImplicit false

/-!
# Computations that change a state and may raise

What a computation has done to the state before it raises stays done.
-/

def Effect (ε S α : Type) : Type := S → Except ε α × S

namespace Effect

variable {ε S α β : Type}

protected def pure (value : α) : Effect ε S α := fun state => (.ok value, state)

protected def bind (first : Effect ε S α) (next : α → Effect ε S β) : Effect ε S β := fun state =>
  match first state with
  | (.ok value, middle) => next value middle
  | (.error exception, middle) => (.error exception, middle)

instance : Monad (Effect ε S) where
  pure := Effect.pure
  bind := Effect.bind

def throw (exception : ε) : Effect ε S α := fun state => (.error exception, state)

def lift (value : Except ε α) : Effect ε S α := fun state => (value, state)

/-- What a look at the state tells. -/
def look (view : S → α) : Effect ε S α := fun state => (.ok (view state), state)

def change (next : S → S) : Effect ε S Unit := fun state => (.ok (), next state)

/-- `try: body` with an `except` for every exception. -/
def handling (body : Effect ε S α) (handler : ε → Effect ε S α) : Effect ε S α := fun state =>
  match body state with
  | (.ok value, final) => (.ok value, final)
  | (.error exception, final) => handler exception final

/-- `try: body` with a `finally`: what the cleanup raises takes the place of what the body
raised. -/
def ensuring (body : Effect ε S α) (cleanup : Effect ε S Unit) : Effect ε S α := fun state =>
  match body state with
  | (.ok value, final) => (cleanup >>= fun _ => pure value) final
  | (.error exception, final) => (cleanup >>= fun _ => throw exception) final

/-- `if asked: body`. -/
def when (asked : Bool) (body : Effect ε S Unit) : Effect ε S Unit :=
  if asked then body else pure ()

/-- `for item in items: body(item)`, with what the rounds have gathered so far. -/
def forEach {ι : Type} (body : β → ι → Effect ε S β) : β → List ι → Effect ε S β
  | gathered, [] => pure gathered
  | gathered, item :: rest => do
      let gathered ← body gathered item
      forEach body gathered rest

@[simp] theorem pure_apply (value : α) (state : S) :
    (pure value : Effect ε S α) state = (.ok value, state) := rfl
@[simp] theorem throw_apply (exception : ε) (state : S) :
    (throw exception : Effect ε S α) state = (.error exception, state) := rfl
@[simp] theorem lift_apply (value : Except ε α) (state : S) :
    (lift value : Effect ε S α) state = (value, state) := rfl
@[simp] theorem look_apply (view : S → α) (state : S) :
    (look view : Effect ε S α) state = (.ok (view state), state) := rfl
@[simp] theorem change_apply (next : S → S) (state : S) :
    (change next : Effect ε S Unit) state = (.ok (), next state) := rfl

theorem bind_apply (first : Effect ε S α) (next : α → Effect ε S β) (state : S) :
    (first >>= next) state =
      match first state with
      | (.ok value, middle) => next value middle
      | (.error exception, middle) => (.error exception, middle) := rfl

theorem bind_of_ok {first : Effect ε S α} {state middle : S} {value : α}
    (ends : first state = (.ok value, middle)) (next : α → Effect ε S β) :
    (first >>= next) state = next value middle := by
  rw [bind_apply, ends]

theorem lift_ok_bind (value : α) (next : α → Effect ε S β) :
    (lift (.ok value) >>= next) = next value := rfl

/-- A loop that gathers what each item is made into, and stops where one cannot be made. -/
theorem forEach_collect {ι : Type} {make : ι → Effect ε S β} {value : ι → β} {works : ι → Bool}
    {exception : ε} {state : S} {items : List ι}
    (each : ∀ item ∈ items,
      make item state = (if works item then .ok (value item) else .error exception, state))
    (gathered : List β) :
    forEach (fun gathered item => make item >>= fun made => pure (gathered ++ [made])) gathered items
        state =
      (if items.all works then .ok (gathered ++ items.map value) else .error exception, state) := by
  induction items generalizing gathered with
  | nil => simp [forEach]
  | cons item rest ih =>
    obtain ⟨here, later⟩ := List.forall_mem_cons.mp each
    cases made : works item with
    | true => simp [forEach, bind_apply, here, made, ih later]
    | false => simp [forEach, bind_apply, here, made]

/-! ## Pre- and postconditions -/

/-- What an outcome shows: `returned` of the value and the final state, or `raised` of the state
an exception leaves. -/
def Shows (returned : α → S → Prop) (raised : S → Prop) : Except ε α × S → Prop
  | (.ok value, final) => returned value final
  | (.error _, final) => raised final

def Meets (before : S → Prop) (body : Effect ε S α) (returned : α → S → Prop)
    (raised : S → Prop) : Prop :=
  ∀ state, before state → Shows returned raised (body state)

/-- The computation keeps `Inv`, whether it returns or raises. -/
def Keeps (Inv : S → Prop) (body : Effect ε S α) : Prop := Meets Inv body (fun _ => Inv) Inv

/-- What holds of the final state both after a return and after an exception. -/
theorem Shows.final {after : S → Prop} {outcome : Except ε α × S}
    (shown : Shows (fun _ => after) after outcome) : after outcome.2 := by
  obtain ⟨ending, final⟩ := outcome
  cases ending <;> exact shown

section Rules

variable {before Inv raised : S → Prop} {returned : α → S → Prop} {finished : β → S → Prop}

theorem Meets.weaken {stronger weakerRaised : S → Prop} {weakerReturned : α → S → Prop}
    {body : Effect ε S α} (meets : Meets before body returned raised)
    (needs : ∀ state, stronger state → before state)
    (returns : ∀ value state, returned value state → weakerReturned value state)
    (raises : ∀ state, raised state → weakerRaised state) :
    Meets stronger body weakerReturned weakerRaised := by
  intro state holds
  have shown := meets state (needs state holds)
  match body state, shown with
  | (.ok value, final), shown => exact returns value final shown
  | (.error _, final), shown => exact raises final shown

theorem Meets.bind (middle : α → S → Prop) {first : Effect ε S α} {next : α → Effect ε S β}
    (early : Meets before first middle raised)
    (late : ∀ value, Meets (middle value) (next value) finished raised) :
    Meets before (first >>= next) finished raised := by
  intro state holds
  have shown := early state holds
  rw [bind_apply]
  match first state, shown with
  | (.ok value, reached), shown => exact late value reached shown
  | (.error _, _), shown => exact shown

theorem Meets.pure {value : α} (holds : ∀ state, before state → returned value state) :
    Meets before (Pure.pure value : Effect ε S α) returned raised := holds

theorem Meets.throw {exception : ε} (holds : ∀ state, before state → raised state) :
    Meets before (Effect.throw exception) returned raised := holds

theorem Meets.look {view : S → α} :
    Meets before (Effect.look view : Effect ε S α)
      (fun value state => before state ∧ value = view state) raised :=
  fun _ holds => ⟨holds, rfl⟩

theorem Meets.change {next : S → S} {after : S → Prop}
    (holds : ∀ state, before state → after (next state)) :
    Meets before (Effect.change next : Effect ε S Unit) (fun _ => after) raised := holds

theorem Meets.lift {value : Except ε α} :
    Meets before (Effect.lift value) (fun result state => before state ∧ value = .ok result)
      before := by
  intro state holds
  cases value with
  | ok result => exact ⟨holds, rfl⟩
  | error exception => exact holds

theorem Meets.ite {asked : Prop} [Decidable asked] {yes no : Effect ε S α}
    (holds : asked → Meets before yes returned raised)
    (fails : ¬ asked → Meets before no returned raised) :
    Meets before (if asked then yes else no) returned raised := by
  split
  next asked => exact holds asked
  next asked => exact fails asked

theorem Meets.handling (thrown : S → Prop) {body : Effect ε S α} {handler : ε → Effect ε S α}
    (meets : Meets before body returned thrown)
    (handles : ∀ exception, Meets thrown (handler exception) returned raised) :
    Meets before (body.handling handler) returned raised := by
  intro state holds
  have shown := meets state holds
  unfold Effect.handling
  match body state, shown with
  | (.ok value, final), shown => exact shown
  | (.error exception, final), shown => exact handles exception final shown

theorem Meets.or {other : S → Prop} {body : Effect ε S α}
    (left : Meets before body returned raised) (right : Meets other body returned raised) :
    Meets (fun state => before state ∨ other state) body returned raised := by
  rintro state (holds | holds)
  · exact left state holds
  · exact right state holds

theorem Meets.and {other raised' : S → Prop} {returned' : α → S → Prop} {body : Effect ε S α}
    (left : Meets before body returned raised) (right : Meets other body returned' raised') :
    Meets (fun state => before state ∧ other state) body
      (fun value state => returned value state ∧ returned' value state)
      (fun state => raised state ∧ raised' state) := by
  rintro state ⟨holds, holds'⟩
  have shown := left state holds
  have shown' := right state holds'
  match body state, shown, shown' with
  | (.ok _, _), shown, shown' => exact ⟨shown, shown'⟩
  | (.error _, _), shown, shown' => exact ⟨shown, shown'⟩

theorem Keeps.any (body : Effect ε S α) : Keeps (fun _ => True) body := by
  intro state _
  rcases body state with ⟨_ | _, _⟩ <;> trivial

theorem Keeps.bind {first : Effect ε S α} {next : α → Effect ε S β} (early : Keeps Inv first)
    (late : ∀ value, Keeps Inv (next value)) : Keeps Inv (first >>= next) :=
  Meets.bind _ early late

theorem Keeps.meets {stronger : S → Prop} {body : Effect ε S α} (kept : Keeps Inv body)
    (needs : ∀ state, stronger state → Inv state) (raises : ∀ state, Inv state → raised state) :
    Meets stronger body (fun _ => Inv) raised :=
  kept.weaken needs (fun _ _ => id) raises

theorem Keeps.pure (value : α) : Keeps Inv (Pure.pure value : Effect ε S α) :=
  fun _ holds => holds

theorem Keeps.throw (exception : ε) : Keeps Inv (Effect.throw exception : Effect ε S α) :=
  fun _ holds => holds

theorem Keeps.look (view : S → α) : Keeps Inv (Effect.look view : Effect ε S α) :=
  fun _ holds => holds

theorem Keeps.lift (value : Except ε α) : Keeps Inv (Effect.lift value) := by
  intro state holds
  cases value <;> exact holds

/-- A loop whose body keeps an invariant of the gathered value and the state. -/
theorem Meets.forEach {ι : Type} {body : β → ι → Effect ε S β} {Loop : β → S → Prop}
    (items : List ι)
    (round : ∀ gathered, ∀ item ∈ items, Meets (Loop gathered) (body gathered item) Loop raised)
    (gathered : β) :
    Meets (Loop gathered) (forEach body gathered items) Loop raised := by
  induction items generalizing gathered with
  | nil => exact Meets.pure fun _ holds => holds
  | cons item rest ih =>
    refine Meets.bind Loop (round gathered item (List.mem_cons_self ..)) fun next => ?_
    exact ih (fun gathered other inside => round gathered other (List.mem_cons_of_mem _ inside))
      next

theorem Keeps.forEach {ι : Type} {body : β → ι → Effect ε S β} {items : List ι}
    (round : ∀ gathered, ∀ item ∈ items, Keeps Inv (body gathered item)) (gathered : β) :
    Keeps Inv (forEach body gathered items) := by
  have whole := Meets.forEach items round gathered
  exact whole

end Rules

/-! ## What a computation does to the state, from wherever it starts -/

def Moves (R : S → S → Prop) (body : Effect ε S α) : Prop := ∀ state, R state (body state).2

section Moves

variable {R : S → S → Prop}

theorem Moves.mono {weaker : S → S → Prop} {body : Effect ε S α} (moves : Moves R body)
    (implies : ∀ first last, R first last → weaker first last) : Moves weaker body :=
  fun state => implies _ _ (moves state)

theorem Moves.change {next : S → S} (holds : ∀ state, R state (next state)) :
    Moves R (Effect.change next : Effect ε S Unit) := holds

/-- An invariant that the relation passes on is kept. -/
theorem Moves.keeps {Inv : S → Prop} {body : Effect ε S α} (moves : Moves R body)
    (passes : ∀ first last, R first last → Inv first → Inv last) : Keeps Inv body := by
  intro state holds
  have kept := passes _ _ (moves state) holds
  match body state, kept with
  | (.ok _, _), kept => exact kept
  | (.error _, _), kept => exact kept

theorem Moves.ite {asked : Prop} [Decidable asked] {yes no : Effect ε S α}
    (holds : Moves R yes) (fails : Moves R no) : Moves R (if asked then yes else no) := by
  split
  · exact holds
  · exact fails

theorem Moves.bind [IsTrans S R] {first : Effect ε S α} {next : α → Effect ε S β} (early : Moves R first)
    (late : ∀ value, Moves R (next value)) : Moves R (first >>= next) := by
  intro state
  have moved := early state
  rw [bind_apply]
  match first state, moved with
  | (.ok value, middle), moved => exact IsTrans.trans _ _ _ moved (late value middle)
  | (.error _, _), moved => exact moved

theorem Moves.handling [IsTrans S R] {body : Effect ε S α} {handler : ε → Effect ε S α}
    (moves : Moves R body) (handles : ∀ exception, Moves R (handler exception)) :
    Moves R (body.handling handler) := by
  intro state
  have moved := moves state
  unfold Effect.handling
  match body state, moved with
  | (.ok _, _), moved => exact moved
  | (.error exception, middle), moved => exact IsTrans.trans _ _ _ moved (handles exception middle)

variable [Std.Refl R]

theorem Moves.when {asked : Bool} {body : Effect ε S Unit} (moves : Moves R body) :
    Moves R (when asked body) :=
  .ite moves fun _ => Std.Refl.refl _

theorem Moves.pure (value : α) : Moves R (Pure.pure value : Effect ε S α) :=
  fun _ => Std.Refl.refl _

theorem Moves.throw (exception : ε) : Moves R (Effect.throw exception : Effect ε S α) :=
  fun _ => Std.Refl.refl _

theorem Moves.look (view : S → α) : Moves R (Effect.look view : Effect ε S α) :=
  fun _ => Std.Refl.refl _

theorem Moves.lift (value : Except ε α) : Moves R (Effect.lift value) := fun _ => Std.Refl.refl _

theorem Moves.forEach [IsTrans S R] {ι : Type} {body : β → ι → Effect ε S β} {items : List ι}
    (round : ∀ gathered, ∀ item ∈ items, Moves R (body gathered item)) (gathered : β) :
    Moves R (forEach body gathered items) := by
  induction items generalizing gathered with
  | nil => exact Moves.pure _
  | cons item rest ih =>
    refine Moves.bind (round gathered item (List.mem_cons_self ..)) fun next => ?_
    exact ih (fun gathered other inside => round gathered other (List.mem_cons_of_mem _ inside))
      next

end Moves

end Effect
