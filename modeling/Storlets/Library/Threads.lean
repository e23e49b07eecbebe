import Storlets.Library.Effects

set_option autoImplicit false

/-!
# Cooperative threads

A thread runs in pieces that nobody interrupts. Between two pieces others may change the state.
-/

inductive Thread (L ε S α : Type) where
  | ends (outcome : Except ε α)
  /-- What the piece does to the state, and how the thread goes on. -/
  | piece (label : L) (move : S → S) (next : S → Thread L ε S α)

namespace Thread

variable {L ε S α β : Type}

protected def bind (first : Thread L ε S α) (next : α → Thread L ε S β) : Thread L ε S β :=
  match first with
  | .ends (.ok value) => next value
  | .ends (.error exception) => .ends (.error exception)
  | .piece label move rest => .piece label move fun state => (rest state).bind next

instance : Monad (Thread L ε S) where
  pure value := .ends (.ok value)
  bind := Thread.bind

def throw (exception : ε) : Thread L ε S α := .ends (.error exception)

/-- One piece. -/
def atomic (label : L) (body : Effect ε S α) : Thread L ε S α :=
  .piece label (fun state => (body state).2) fun state => .ends (body state).1

def handling (body : Thread L ε S α) (handler : ε → Thread L ε S α) : Thread L ε S α :=
  match body with
  | .ends (.ok value) => .ends (.ok value)
  | .ends (.error exception) => handler exception
  | .piece label move rest => .piece label move fun state => (rest state).handling handler

def ensuring (body : Thread L ε S α) (cleanup : Thread L ε S Unit) : Thread L ε S α :=
  match body with
  | .ends (.ok value) => cleanup >>= fun _ => pure value
  | .ends (.error exception) => cleanup >>= fun _ => throw exception
  | .piece label move rest => .piece label move fun state => (rest state).ensuring cleanup

def forEach {ι : Type} (body : ι → Thread L ε S Unit) : List ι → Thread L ε S Unit
  | [] => pure ()
  | item :: rest => body item >>= fun _ => forEach body rest

/-! ## A thread that is left alone -/

def run : Thread L ε S α → Effect ε S α
  | .ends outcome => Effect.lift outcome
  | .piece _ move next => fun state => (next state).run (move state)

@[simp] theorem run_pure (value : α) : (pure value : Thread L ε S α).run = pure value := rfl

@[simp] theorem run_throw (exception : ε) :
    (throw exception : Thread L ε S α).run = Effect.throw exception := rfl

@[simp] theorem run_atomic (label : L) (body : Effect ε S α) :
    (atomic label body).run = body := rfl

@[simp] theorem run_bind (first : Thread L ε S α) (next : α → Thread L ε S β) :
    (first >>= next).run = first.run >>= fun value => (next value).run := by
  induction first with
  | ends outcome => cases outcome <;> rfl
  | piece label move rest ih =>
    funext state
    exact congrFun (ih state) (move state)

@[simp] theorem run_handling (body : Thread L ε S α) (handler : ε → Thread L ε S α) :
    (body.handling handler).run = body.run.handling fun exception => (handler exception).run := by
  induction body with
  | ends outcome => cases outcome <;> rfl
  | piece label move rest ih =>
    funext state
    exact congrFun (ih state) (move state)

@[simp] theorem run_ensuring (body : Thread L ε S α) (cleanup : Thread L ε S Unit) :
    (body.ensuring cleanup).run = body.run.ensuring cleanup.run := by
  induction body with
  | ends outcome => cases outcome <;> simp only [ensuring, run, run_bind] <;> rfl
  | piece label move rest ih =>
    funext state
    exact congrFun (ih state) (move state)

@[simp] theorem run_forEach {ι : Type} (body : ι → Thread L ε S Unit) (items : List ι) :
    (forEach body items).run = Effect.forEach (fun _ item => (body item).run) () items := by
  induction items with
  | nil => rfl
  | cons item rest ih =>
    simp only [forEach, run_bind, ih]
    rfl

/-! ## Rely and guarantee -/

/-- What a thread may count on, and what the others may count on. A piece that is not allowed
where it starts does harm. -/
structure Contract (L S : Type) where
  rely : S → S → Prop
  guarantee : S → S → Prop
  allowed : L → S → Prop
  harm : S → S → Prop

/-- Whatever the others do between its pieces, the thread keeps to the contract. -/
def Honours (contract : Contract L S) (returned : α → S → Prop) (raised : S → Prop) :
    Thread L ε S α → S → Prop
  | .ends (.ok value), state => returned value state
  | .ends (.error _), state => raised state
  | .piece label move next, state => ∀ met, contract.rely state met →
      (contract.allowed label met → contract.guarantee met (move met) ∧
        Honours contract returned raised (next met) (move met)) ∧
      (¬ contract.allowed label met → contract.harm met (move met))

def Meets (contract : Contract L S) (before : S → Prop) (thread : Thread L ε S α)
    (returned : α → S → Prop) (raised : S → Prop) : Prop :=
  ∀ state, before state → thread.Honours contract returned raised state

/-- The others do not end it. -/
def Contract.Stable (contract : Contract L S) (holds : S → Prop) : Prop :=
  ∀ state met, contract.rely state met → holds state → holds met

section Rules

variable {contract : Contract L S} {before raised : S → Prop} {returned : α → S → Prop}
  {finished : β → S → Prop}

theorem Honours.piece {later : β → S → Prop} {laterRaised : S → Prop} {label : L}
    {move : S → S} {next : S → Thread L ε S α} {rest : S → Thread L ε S β} {state : S}
    (honours : (Thread.piece label move next).Honours contract returned raised state)
    (each : ∀ met, (next met).Honours contract returned raised (move met) →
      (rest met).Honours contract later laterRaised (move met)) :
    (Thread.piece label move rest).Honours contract later laterRaised state := by
  intro met rely
  obtain ⟨well, badly⟩ := honours met rely
  constructor
  · intro allowed
    exact ⟨(well allowed).1, each met (well allowed).2⟩
  · exact badly

theorem Honours.weaken {weaker : α → S → Prop} {weakerRaised : S → Prop}
    {thread : Thread L ε S α} {state : S}
    (honours : thread.Honours contract returned raised state)
    (returns : ∀ value state, returned value state → weaker value state)
    (raises : ∀ state, raised state → weakerRaised state) :
    thread.Honours contract weaker weakerRaised state := by
  induction thread generalizing state with
  | ends outcome =>
    cases outcome with
    | ok value => exact returns value state honours
    | error exception => exact raises state honours
  | piece label move next ih => exact honours.piece fun met kept => ih met kept

/-- The others may go on before the next piece. -/
theorem Honours.later [IsTrans S contract.rely] {thread : Thread L ε S α} {state met : S}
    (honours : thread.Honours contract (fun _ _ => True) (fun _ => True) state)
    (rely : contract.rely state met) :
    thread.Honours contract (fun _ _ => True) (fun _ => True) met := by
  cases thread with
  | ends outcome => cases outcome <;> trivial
  | piece label move next =>
    intro last more
    exact honours last (IsTrans.trans _ _ _ rely more)

theorem Honours.bind {middle : α → S → Prop} {first : Thread L ε S α}
    {next : α → Thread L ε S β} {state : S}
    (honours : first.Honours contract middle raised state)
    (late : ∀ value, Meets contract (middle value) (next value) finished raised) :
    (first >>= next).Honours contract finished raised state := by
  induction first generalizing state with
  | ends outcome =>
    cases outcome with
    | ok value => exact late value state honours
    | error exception => exact honours
  | piece label move rest ih => exact honours.piece fun met kept => ih met kept

theorem Honours.handling {thrown : S → Prop} {body : Thread L ε S α}
    {handler : ε → Thread L ε S α} {state : S}
    (honours : body.Honours contract returned thrown state)
    (handles : ∀ exception, Meets contract thrown (handler exception) returned raised) :
    (body.handling handler).Honours contract returned raised state := by
  induction body generalizing state with
  | ends outcome =>
    cases outcome with
    | ok value => exact honours
    | error exception => exact handles exception state honours
  | piece label move rest ih => exact honours.piece fun met kept => ih met kept

theorem Honours.ensuring {middle : α → S → Prop} {thrown : S → Prop} {body : Thread L ε S α}
    {cleanup : Thread L ε S Unit} {state : S}
    (honours : body.Honours contract middle thrown state)
    (returning : ∀ value, Meets contract (middle value) cleanup (fun _ => returned value) raised)
    (raising : Meets contract thrown cleanup (fun _ => raised) raised) :
    (body.ensuring cleanup).Honours contract returned raised state := by
  induction body generalizing state with
  | ends outcome =>
    cases outcome with
    | ok value => exact (returning value state honours).bind fun _ _ holds => holds
    | error exception => exact (raising state honours).bind fun _ _ holds => holds
  | piece label move rest ih => exact honours.piece fun met kept => ih met kept

theorem Meets.weaken {stronger weakerRaised : S → Prop} {weaker : α → S → Prop}
    {thread : Thread L ε S α} (meets : Meets contract before thread returned raised)
    (needs : ∀ state, stronger state → before state)
    (returns : ∀ value state, returned value state → weaker value state)
    (raises : ∀ state, raised state → weakerRaised state) :
    Meets contract stronger thread weaker weakerRaised :=
  fun state holds => (meets state (needs state holds)).weaken returns raises

theorem Meets.bind (middle : α → S → Prop) {first : Thread L ε S α}
    {next : α → Thread L ε S β} (early : Meets contract before first middle raised)
    (late : ∀ value, Meets contract (middle value) (next value) finished raised) :
    Meets contract before (first >>= next) finished raised :=
  fun state holds => (early state holds).bind late

theorem Meets.handling (thrown : S → Prop) {body : Thread L ε S α}
    {handler : ε → Thread L ε S α} (meets : Meets contract before body returned thrown)
    (handles : ∀ exception, Meets contract thrown (handler exception) returned raised) :
    Meets contract before (body.handling handler) returned raised :=
  fun state holds => (meets state holds).handling handles

theorem Meets.ensuring (middle : α → S → Prop) (thrown : S → Prop) {body : Thread L ε S α}
    {cleanup : Thread L ε S Unit} (meets : Meets contract before body middle thrown)
    (returning : ∀ value, Meets contract (middle value) cleanup (fun _ => returned value) raised)
    (raising : Meets contract thrown cleanup (fun _ => raised) raised) :
    Meets contract before (body.ensuring cleanup) returned raised :=
  fun state holds => (meets state holds).ensuring returning raising

theorem Meets.pure {value : α} (holds : ∀ state, before state → returned value state) :
    Meets contract before (Pure.pure value : Thread L ε S α) returned raised := holds

theorem Meets.throw {exception : ε} (holds : ∀ state, before state → raised state) :
    Meets contract before (Thread.throw exception : Thread L ε S α) returned raised := holds

theorem Meets.of_forall {ι : Type} {branch : ι → S → Prop} {thread : Thread L ε S α}
    (each : ∀ item, Meets contract (branch item) thread returned raised) :
    Meets contract (fun state => ∃ item, branch item state) thread returned raised := by
  intro state holds
  obtain ⟨item, holds⟩ := holds
  exact each item state holds

/-- A piece is proved where it starts, once the others have gone on. -/
theorem Meets.atomic {label : L} {body : Effect ε S α} (stable : contract.Stable before)
    (well : ∀ state, before state → contract.allowed label state →
      contract.guarantee state (body state).2 ∧ Effect.Shows returned raised (body state))
    (badly : ∀ state, before state → ¬ contract.allowed label state →
      contract.harm state (body state).2) :
    Meets contract before (atomic label body) returned raised := by
  intro state holds met rely
  have holds := stable state met rely holds
  constructor
  · intro allowed
    obtain ⟨kept, shown⟩ := well met holds allowed
    refine ⟨kept, ?_⟩
    show Honours contract returned raised (.ends (body met).1) (body met).2
    rcases outcome : body met with ⟨_ | _, final⟩ <;> rw [outcome] at shown <;> exact shown
  · exact badly met holds

end Rules

end Thread
