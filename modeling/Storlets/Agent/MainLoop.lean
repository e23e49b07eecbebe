import Storlets.Agent.Server

set_option autoImplicit false

/-!
# `main_loop` from its first turn to its return

The loop of a server, its handlers' own state, and the `_terminate` that follows the loop.
-/

namespace Storlets.Sbus

open PyStr Runs

universe u

/-- What a kind of server adds to the loop. Its handlers and `_terminate` are told what the
system answers. -/
structure ServerKind (S H T : Type u) where
  server : SBusServer
  /-- A handler may never return. -/
  handle : SBusDatagram → Text → H → S → Option (HandlerResult × S)
  /-- Whether `_terminate` returns, and what it leaves. -/
  terminate : T → S → Bool × S
  processExits : Nat → S → S

inductive BusTurn (H : Type u) where
  | listenFails
  | timesOut
  | receiveFails
  | message (raw : RawMessage) (answers : H) (reply : Reply)

inductive MainEvent (H T : Type u) where
  | turn (event : BusTurn H)
  | sighup
  | terminate (answers : T)
  /-- A child of the server exits. -/
  | exits (pid : Nat)

inductive Ending where
  | returns (failure : Bool)
  | raises
  deriving DecidableEq

structure MainState (S : Type u) where
  loop : LoopState := {}
  running : Bool := true
  /-- A handler does not return. -/
  stuck : Bool := false
  own : S
  terminations : Nat := 0
  ending : Option Ending := none

def BusTurn.fails {H : Type u} : BusTurn H → Bool
  | .listenFails | .receiveFails => true
  | _ => false

section Main

variable {S H T : Type u} (interpreter : Interpreter) (kind : ServerKind S H T)

/-- What the handler of a message ends with; a message without one is answered by the loop. -/
def handled (raw : RawMessage) (answers : H) (own : S) : Option (HandlerResult × S) :=
  match receive interpreter raw with
  | .error _ => some (.raises, own)
  | .ok dtg =>
      match getHandler interpreter kind.server dtg.command with
      | .handler method => kind.handle dtg method answers own
      | _ => some (.raises, own)

def busEvent (own : S) : BusTurn H → Option (BusEvent × S)
  | .listenFails => some (.listenFails, own)
  | .timesOut => some (.timesOut, own)
  | .receiveFails => some (.receiveFails, own)
  | .message raw answers reply =>
      (handled interpreter kind raw answers own).map fun (result, own) =>
        (.message raw result reply, own)

/-- One turn of `while self.running`. -/
def turnStep (state : MainState S) (event : BusTurn H) : MainState S :=
  match state.loop.exit with
  | some _ => state
  | none =>
      if state.stuck then state
      else if state.running then
        match busEvent interpreter kind state.own event with
        | none => { state with stuck := true }
        | some (event, own) =>
            let loop := loopStep interpreter kind.server state.loop event
            let ending := match loop.exit with
              | some (.raised _) => some .raises
              | _ => none
            { state with loop, own, ending }
      else { state with loop := { state.loop with exit := some .success } }

def terminateStep (state : MainState S) (answers : T) : MainState S :=
  match state.ending, state.loop.exit with
  | none, some exit =>
      let (returns, own) := kind.terminate answers state.own
      { state with
        own
        terminations := state.terminations + 1
        ending := some (if returns then .returns (exit = .failure) else .raises) }
  | _, _ => state

def mainStep (state : MainState S) : MainEvent H T → MainState S
  | .turn event => turnStep interpreter kind state event
  | .sighup => { state with running := false }
  | .terminate answers => terminateStep kind state answers
  | .exits pid => { state with own := kind.processExits pid state.own }

/-- `main_loop` ends by a return, after one `_terminate`, with the status of the loop. -/
structure MainState.EndsWell (state : MainState S) : Prop where
  calm : state.ending ≠ some .raises
  once : state.terminations = if state.ending.isSome then 1 else 0
  status : ∀ failure, state.ending = some (.returns failure) →
    (failure ↔ state.loop.exit = some .failure)

/-- What a step may do to the end of `main_loop`. -/
structure KeepsContract (state : MainState S) (event : MainEvent H T) : Prop where
  ends : (mainStep interpreter kind state event).EndsWell
  /-- The loop is left with a failure when the bus fails. -/
  leaves : ∀ turn, event = .turn turn → state.loop.exit = none →
    ((mainStep interpreter kind state event).loop.exit = some .failure ↔
      state.running ∧ state.stuck = false ∧ turn.fails)
  returns : ∀ answers, event = .terminate answers → state.loop.exit ≠ none →
    (mainStep interpreter kind state event).ending ≠ none

/-- The server waits for the bus, or handles what it brings. -/
def MainState.Serves (state : MainState S) : Prop :=
  state.loop.exit = none ∧ state.running ∧ state.stuck = false

/-- The messages decode and their responses can be sent off, and `_terminate` returns. -/
def StepReturns (state : MainState S) : MainEvent H T → Prop
  | .turn (.message raw answers reply) => state.Serves →
      (∃ dtg, receive interpreter raw = .ok dtg) ∧
        ((handled interpreter kind raw answers state.own).isSome → reply.raises = false)
  | .terminate answers => state.ending = none → state.loop.exit ≠ none →
      (kind.terminate answers state.own).1
  | _ => True

end Main

section Proofs

variable {S H T : Type u} {interpreter : Interpreter} {kind : ServerKind S H T}

theorem message_raises_iff {server : SBusServer} {state : LoopState} (running : state.exit = none)
    (raw : RawMessage) (result : HandlerResult) (reply : Reply) :
    (∃ exception, (loopStep interpreter server state (.message raw result reply)).exit =
        some (.raised exception)) ↔
      ¬ ((∃ dtg, receive interpreter raw = .ok dtg) ∧ reply.raises = false) := by
  rw [← survives_iff running raw result reply]
  constructor
  · intro ⟨exception, raised⟩ survives
    exact survives.calm exception raised
  · intro dies
    by_contra calm
    have steps := loopStep_message interpreter server running raw result reply
    cases decoded : receive interpreter raw with
    | error exception => exact calm ⟨exception, by rw [steps, decoded]⟩
    | ok dtg =>
      apply dies
      rw [survives_iff running]
      constructor
      · exact ⟨dtg, decoded⟩
      · by_contra raises
        obtain ⟨fd, found, _⟩ := receive_serviceOut decoded
        apply calm
        exact ⟨.osError, by simp [steps, decoded, dispatchCommand, found, raises]⟩

theorem dispatchCommand_exit (server : SBusServer) (state : LoopState) (dtg : SBusDatagram)
    (result : HandlerResult) (reply : Reply) :
    (dispatchCommand interpreter server state dtg result reply).exit ≠ some .failure := by
  unfold dispatchCommand
  cases dtg.serviceOutFd with
  | none => simp
  | some outfd => dsimp only; split_ifs <;> simp

theorem loopStep_failure_iff {server : SBusServer} {state : LoopState}
    (running : state.exit = none) {own final : S} {turn : BusTurn H} {event : BusEvent}
    (brought : busEvent interpreter kind own turn = some (event, final)) :
    (loopStep interpreter server state event).exit = some .failure ↔ turn.fails := by
  cases turn with
  | listenFails | receiveFails =>
    cases brought
    simp [loopStep, running, BusTurn.fails]
  | timesOut =>
    cases brought
    simp only [loopStep, running, BusTurn.fails]
    split_ifs <;> simp
  | message raw answers reply =>
    obtain ⟨⟨result, _⟩, _, same⟩ := Option.map_eq_some_iff.mp brought
    cases same
    rw [loopStep_message interpreter server running raw result reply]
    cases receive interpreter raw with
    | error exception => simp [BusTurn.fails]
    | ok dtg => simpa [BusTurn.fails] using dispatchCommand_exit _ _ _ _ _

/-- What holds between the steps of a run whose steps return. -/
structure MainState.Sound (state : MainState S) : Prop extends state.EndsWell where
  quiet : ∀ exception, state.loop.exit ≠ some (.raised exception)
  left : state.ending.isSome → state.loop.exit ≠ none

theorem MainState.Sound.serving {state : MainState S} (sound : state.Sound)
    (serving : state.loop.exit = none) : state.ending = none ∧ state.terminations = 0 := by
  have unended : state.ending = none := by
    by_contra ended
    exact sound.left (Option.isSome_iff_ne_none.mpr ended) serving
  constructor
  · exact unended
  · simpa [unended] using sound.once

theorem turnStep_serves {state : MainState S} (serves : state.Serves) (turn : BusTurn H) :
    turnStep interpreter kind state turn =
      match busEvent interpreter kind state.own turn with
      | none => { state with stuck := true }
      | some (event, own) =>
          { state with
            loop := loopStep interpreter kind.server state.loop event
            own
            ending := match (loopStep interpreter kind.server state.loop event).exit with
              | some (.raised _) => some .raises
              | _ => none } := by
  obtain ⟨inside, running, moves⟩ := serves
  simp only [turnStep, inside, running, moves]
  rfl

theorem turnStep_raises_iff {state : MainState S} (serves : state.Serves) (turn : BusTurn H) :
    (∃ exception, (turnStep interpreter kind state turn).loop.exit = some (.raised exception)) ↔
      ¬ StepReturns (T := T) interpreter kind state (.turn turn) := by
  rw [turnStep_serves serves]
  cases turn with
  | message raw answers reply =>
    simp only [StepReturns, serves, forall_const, busEvent]
    cases result : handled interpreter kind raw answers state.own with
    | none =>
      have decodes : ∃ dtg, receive interpreter raw = .ok dtg := by
        unfold handled at result
        cases decoded : receive interpreter raw with
        | error exception => simp [decoded] at result
        | ok dtg => exact ⟨dtg, rfl⟩
      simp [decodes, serves.1]
    | some pair => simpa using message_raises_iff serves.1 raw pair.1 reply
  | listenFails | receiveFails => simp [StepReturns, busEvent, loopStep, serves.1]
  | timesOut =>
    simp only [StepReturns, busEvent, loopStep, serves.1]
    split_ifs <;> simp

theorem turnStep_ending {state : MainState S} (unended : state.ending = none)
    (serves : state.Serves) (turn : BusTurn H) :
    (turnStep interpreter kind state turn).ending = none ∧
        (∀ exception, (turnStep interpreter kind state turn).loop.exit ≠ some (.raised exception)) ∨
      (turnStep interpreter kind state turn).ending = some .raises ∧
        ∃ exception, (turnStep interpreter kind state turn).loop.exit = some (.raised exception) := by
  rw [turnStep_serves serves]
  cases busEvent interpreter kind state.own turn with
  | none => simp [unended, serves.1]
  | some pair =>
    dsimp only
    split
    · next exception raised => exact .inr ⟨rfl, exception, raised⟩
    · next calm => exact .inl ⟨rfl, calm⟩

theorem turnStep_terminations (interpreter : Interpreter) (kind : ServerKind S H T)
    (state : MainState S) (turn : BusTurn H) :
    (turnStep interpreter kind state turn).terminations = state.terminations := by
  unfold turnStep
  split
  · rfl
  · split_ifs
    · rfl
    · split <;> rfl
    · rfl

theorem sound_turn {state : MainState S} (sound : state.Sound) {turn : BusTurn H}
    (returns : StepReturns (T := T) interpreter kind state (.turn turn)) :
    (turnStep interpreter kind state turn).Sound := by
  cases exit : state.loop.exit with
  | some exit' => simpa [turnStep, exit] using sound
  | none =>
    obtain ⟨unended, uncounted⟩ := sound.serving exit
    have count := turnStep_terminations interpreter kind state turn
    cases stuck : state.stuck with
    | true => simpa [turnStep, exit, stuck] using sound
    | false =>
      by_cases running : state.running
      · -- a turn that returns leaves `main_loop` unended
        have serves : state.Serves := ⟨exit, running, stuck⟩
        obtain ⟨ending, quiet⟩ := (turnStep_ending unended serves turn).resolve_right
          fun ⟨_, raised⟩ => (turnStep_raises_iff serves turn).mp raised returns
        constructor
        · constructor <;> simp [ending, count, uncounted]
        · exact quiet
        · simp [ending]
      · simp only [turnStep, exit, stuck, running]
        constructor
        · constructor <;> simp [unended, uncounted]
        · simp
        · simp

theorem sound_terminate {state : MainState S} (sound : state.Sound) {answers : T}
    (returns : StepReturns interpreter kind state (.terminate answers)) :
    (terminateStep kind state answers).Sound ∧
      (state.loop.exit ≠ none → (terminateStep kind state answers).ending ≠ none) := by
  unfold terminateStep
  cases unended : state.ending with
  | some ending => exact ⟨sound, fun _ => by simp [unended]⟩
  | none =>
    cases exit : state.loop.exit with
    | none => exact ⟨sound, fun left => absurd rfl left⟩
    | some exit' =>
      have good : (kind.terminate answers state.own).1 = true :=
        returns unended (by simp [exit])
      have uncounted : state.terminations = 0 := by simpa [unended] using sound.once
      simp only [good, if_true]
      constructor
      · constructor
        · constructor <;> simp [uncounted, exit]
        · simpa [exit] using sound.quiet
        · simp [exit]
      · simp

theorem sound_step {state : MainState S} (sound : state.Sound) {event : MainEvent H T}
    (returns : StepReturns interpreter kind state event) :
    (mainStep interpreter kind state event).Sound := by
  cases event with
  | turn turn => exact sound_turn sound returns
  | terminate answers => exact (sound_terminate sound returns).1
  | sighup | exits => exact ⟨⟨sound.calm, sound.once, sound.status⟩, sound.quiet, sound.left⟩

theorem turnStep_failure_iff {state : MainState S} (inside : state.loop.exit = none)
    (turn : BusTurn H) :
    (turnStep interpreter kind state turn).loop.exit = some .failure ↔
      state.running ∧ state.stuck = false ∧ turn.fails := by
  by_cases serves : state.Serves
  · rw [turnStep_serves serves]
    cases brought : busEvent interpreter kind state.own turn with
    | none => cases turn <;> simp_all [busEvent, BusTurn.fails]
    | some pair =>
      simpa [serves.2.1, serves.2.2] using loopStep_failure_iff inside brought
  · simp only [MainState.Serves, inside, true_and] at serves
    rw [← and_assoc]
    simp only [serves, false_and, iff_false]
    cases stuck : state.stuck <;> simp_all [turnStep]

/-- A step keeps the contract exactly when it returns. -/
theorem keepsContract_iff {state : MainState S} (sound : state.Sound) (event : MainEvent H T) :
    KeepsContract interpreter kind state event ↔ StepReturns interpreter kind state event := by
  constructor
  · intro keeps
    by_contra fails
    apply keeps.ends.calm
    cases event with
    | sighup | exits => exact absurd trivial fails
    | turn turn =>
      have serves : state.Serves := by
        by_contra away
        apply fails
        cases turn <;> simp [StepReturns, away]
      obtain ⟨exception, raised⟩ := (turnStep_raises_iff serves turn).mpr fails
      have ending := (turnStep_ending (sound.serving serves.1).1 serves turn).resolve_left
        fun calm => calm.2 exception raised
      exact ending.1
    | terminate answers =>
      simp only [StepReturns, not_forall] at fails
      obtain ⟨unended, left, bad⟩ := fails
      obtain ⟨exit, found⟩ := Option.ne_none_iff_exists'.mp left
      simp [mainStep, terminateStep, unended, found, bad]
  · intro returns
    constructor
    · exact (sound_step sound returns).toEndsWell
    · rintro turn rfl serving
      exact turnStep_failure_iff serving turn
    · rintro answers rfl
      exact (sound_terminate sound returns).2

theorem sound_initial (own : S) : ({ own } : MainState S).Sound := by
  constructor
  · constructor <;> simp
  · simp
  · simp

end Proofs

end Storlets.Sbus
