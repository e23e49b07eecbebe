import Storlets.Agent.ExitContract

set_option autoImplicit false

/-!
# How long the storlet daemon serves

While a task runs that a client was told of, the daemon should take commands.
-/

namespace Storlets.Sbus

open PyStr Runs

abbrev DaemonEvent := MainEvent DaemonAnswers (Nat → WaitAnswers)

/-- The daemon, and what its clients know. -/
structure Watched where
  main : MainState DaemonState := { own := {} }
  /-- The pids of the tasks whose EXECUTE was answered. -/
  acknowledged : List Nat := []
  /-- A HALT, a SIGHUP or a failure of the bus has occurred. -/
  dismissed : Bool := false

instance (state : MainState DaemonState) : Decidable state.Serves :=
  inferInstanceAs (Decidable (_ ∧ _ ∧ _))

section Watching

variable (interpreter : Interpreter) (poolSize : Int)

def handlerOf (raw : RawMessage) : Option Text :=
  match receive interpreter raw with
  | .error _ => none
  | .ok dtg =>
      match getHandler interpreter StorletDaemon dtg.command with
      | .handler method => some method
      | _ => none

/-- The pid of the task the event tells a client of. -/
def acknowledges (state : MainState DaemonState) : DaemonEvent → Option Nat
  | .turn (.message raw answers .written) =>
      if state.Serves then
        match handled interpreter (daemonKind poolSize) raw answers state.own with
        | some (.returns resp, _) => resp.taskId.map fun _ => state.own.children.length
        | _ => none
      else none
  | _ => none

def dismisses (state : MainState DaemonState) : DaemonEvent → Bool
  | .sighup => true
  | .turn (.message raw _ _) => state.Serves && handlerOf interpreter raw = some "halt".toList
  | .turn turn => state.Serves && turn.fails
  | _ => false

def watchStep (state : Watched) (event : DaemonEvent) : Watched where
  main := mainStep interpreter (daemonKind poolSize) state.main event
  acknowledged :=
    state.acknowledged ++ (acknowledges interpreter poolSize state.main event).toList
  dismissed := state.dismissed || dismisses interpreter state.main event

namespace Watched

/-- A task that a client was told of is running. -/
def Busy (state : Watched) : Prop :=
  ∃ pid ∈ state.acknowledged, ∃ child, state.main.own.children[pid]? = some child ∧ child.live

end Watched

/-- The daemon is in its receive loop, and a message that comes is answered. -/
structure TakesCommands (state : MainState DaemonState) : Prop where
  serves : state.Serves
  answers : ∀ raw dtg given fd, receive interpreter raw = .ok dtg →
    raw.serviceOut interpreter = some fd → ∃ resp,
      (mainStep interpreter (daemonKind poolSize) state
        (.turn (.message raw given .written))).loop.answers = state.loop.answers ++ [(fd, resp)]

def KeepsServing (state : Watched) (event : DaemonEvent) : Prop :=
  (watchStep interpreter poolSize state event).Busy →
    (watchStep interpreter poolSize state event).dismissed = false →
      TakesCommands interpreter poolSize (watchStep interpreter poolSize state event).main

/-- A CANCEL whose task id can be looked up, whether there is such a task or not. -/
def Cancels (raw : RawMessage) : Prop :=
  ∃ dtg, receive interpreter raw = .ok dtg ∧
    getHandler interpreter StorletDaemon dtg.command = .handler "cancel".toList ∧
    match dtg.taskId with
    | .arr _ | .obj _ => False
    | _ => True

/-- What takes a daemon that serves out of its loop, other than what may. -/
def LeavesLoop (state : MainState DaemonState) : DaemonEvent → Prop
  | .turn .timesOut => 2 * listenTimeout ≤ state.loop.loopCnt + 1
  | .turn (.message raw _ reply) => (∀ dtg, receive interpreter raw ≠ .ok dtg) ∨ reply.raises ∨
      Cancels interpreter raw
  | _ => False

def LeavesNoTask (state : Watched) (event : DaemonEvent) : Prop :=
  state.main.Serves → (watchStep interpreter poolSize state event).dismissed = false →
    LeavesLoop interpreter state.main event →
      ¬ (watchStep interpreter poolSize state event).Busy

end Watching

section Handlers

variable {interpreter : Interpreter} {poolSize : Int}

theorem message_exit_iff (interpreter : Interpreter) (server : SBusServer) {state : LoopState} (running : state.exit = none)
    (raw : RawMessage) (result : HandlerResult) (reply : Reply) :
    (loopStep interpreter server state (.message raw result reply)).exit = none ↔
      (∃ dtg, receive interpreter raw = .ok dtg) ∧ reply.raises = false ∧
        ¬ StopsServer interpreter server raw result := by
  constructor
  · intro goesOn
    have survives : (∃ dtg, receive interpreter raw = .ok dtg) ∧ reply.raises = false := by
      by_contra dies
      have raises : ∃ exception, (loopStep interpreter server state
          (.message raw result reply)).exit = some (.raised exception) :=
        (message_raises_iff running raw result reply).mpr dies
      obtain ⟨exception, raised⟩ := raises
      rw [goesOn] at raised
      cases raised
    refine ⟨survives.1, survives.2, ?_⟩
    rintro ⟨dtg, method, decoded, found, stops⟩
    obtain ⟨fd, out, _⟩ := receive_serviceOut decoded
    have stopped : (response interpreter server dtg result).iterable = false := by
      cases result <;> simp_all [response, HandlerResult.saysStop]
    rw [loopStep_message interpreter server running] at goesOn
    simp [decoded, dispatchCommand, out, survives.2, stopped] at goesOn
  · rintro ⟨decodes, sends, goesOn⟩
    exact ((survives_iff running raw result reply).mpr ⟨decodes, sends⟩).goesOn goesOn

theorem execute_goesOn {answers : DaemonAnswers} {own final : DaemonState} {result : HandlerResult}
    (handles : execute poolSize answers own = some (result, final)) : result.saysStop = false := by
  unfold execute at handles
  dsimp only at handles
  split_ifs at handles <;> cases handles <;> rfl

theorem cancelTask_stops (answers : DaemonAnswers) (own : DaemonState) (taskId : Text) :
    (cancelTask answers own taskId).1.saysStop = true := by
  unfold cancelTask
  split
  · rfl
  · split_ifs <;> rfl

/-- Of the handlers other than HALT's only CANCEL's stops the server. -/
theorem stopsServer_iff {raw : RawMessage} {answers : DaemonAnswers} {own final : DaemonState}
    {result : HandlerResult}
    (handles : handled interpreter (daemonKind poolSize) raw answers own = some (result, final))
    (notHalt : handlerOf interpreter raw ≠ some "halt".toList) :
    StopsServer interpreter StorletDaemon raw result ↔ Cancels interpreter raw := by
  unfold StopsServer Cancels
  refine exists_congr fun dtg => ?_
  constructor
  · rintro ⟨method, decoded, found, stops⟩
    simp only [handled, decoded, daemonKind, found, handleDaemon] at handles
    split_ifs at handles with executes cancels halts
    · rw [execute_goesOn handles] at stops
      cases stops
    · subst cancels
      refine ⟨decoded, found, ?_⟩
      cases taskId : dtg.taskId with
      | arr | obj =>
        simp only [cancel, taskId, Option.some.injEq, Prod.mk.injEq] at handles
        rw [← handles.1] at stops
        cases stops
      | null | bool | int | float | str => trivial
    · subst halts
      simp [handlerOf, decoded, found] at notHalt
    · cases handles
      cases stops
  · rintro ⟨decoded, found, hashable⟩
    refine ⟨_, decoded, found, ?_⟩
    have executes : "cancel".toList ≠ "execute".toList := by decide
    simp only [handled, decoded, daemonKind, found, handleDaemon, executes, if_false, if_true,
      Option.some.injEq] at handles
    have same : result = (cancel answers dtg.taskId own).1 := by rw [handles]
    rw [same]
    cases taskId : dtg.taskId with
    | arr | obj =>
      rw [taskId] at hashable
      exact hashable.elim
    | str id => exact cancelTask_stops answers own id
    | null | bool | int | float => rfl

/-- A message that is handled ends the service exactly when it takes the daemon out of its loop. -/
theorem message_serves {state : MainState DaemonState} (serves : state.Serves) {raw : RawMessage}
    {answers : DaemonAnswers} {reply : Reply} {result : HandlerResult} {final : DaemonState}
    (handles : handled interpreter (daemonKind poolSize) raw answers state.own =
      some (result, final))
    (notHalt : handlerOf interpreter raw ≠ some "halt".toList) :
    (mainStep interpreter (daemonKind poolSize) state (.turn (.message raw answers reply))).Serves ↔
      ¬ LeavesLoop interpreter state (.turn (.message raw answers reply)) := by
  have exits := message_exit_iff interpreter StorletDaemon serves.1 raw result reply
  rw [stopsServer_iff handles notHalt] at exits
  have same : (mainStep interpreter (daemonKind poolSize) state
      (.turn (.message raw answers reply))).Serves ↔
        (loopStep interpreter StorletDaemon state.loop (.message raw result reply)).exit = none := by
    simp only [mainStep, turnStep_serves serves, busEvent, handles, Option.map_some,
      MainState.Serves, serves.2.1, serves.2.2, and_true]
    rfl
  rw [same, exits]
  simp only [LeavesLoop, not_or, not_forall, not_not, Bool.not_eq_true]

/-- A task is acknowledged when it is forked, by a daemon whose pool has slots. -/
theorem execute_acknowledges {answers : DaemonAnswers} {own final : DaemonState}
    {resp : CommandResponse}
    (handles : execute poolSize answers own = some (.returns resp, final)) :
    0 < poolSize ∧ final.children.length = own.children.length + 1 := by
  have slots := (execute_isSome poolSize answers own).mp (by rw [handles]; rfl)
  have count := (waitWhile_ages answers.wait poolSize (waitRounds own) own).count
  refine ⟨slots, ?_⟩
  unfold execute at handles
  dsimp only at handles
  split_ifs at handles
  all_goals cases handles
  simp [count]

theorem cancel_taskId (answers : DaemonAnswers) (own : DaemonState) (taskId : Json)
    {resp : CommandResponse} (returns : (cancel answers taskId own).1 = .returns resp) :
    resp.taskId = none := by
  have cancelled (id : Text) (returns : (cancelTask answers own id).1 = .returns resp) :
      resp.taskId = none := by
    unfold cancelTask at returns
    split at returns
    · cases returns
      rfl
    · split_ifs at returns <;> cases returns <;> rfl
  cases taskId with
  | arr | obj => cases returns
  | str id => exact cancelled id returns
  | null | bool | int | float =>
    cases returns
    rfl

theorem handled_acknowledges {raw : RawMessage} {answers : DaemonAnswers}
    {own final : DaemonState} {resp : CommandResponse}
    (handles : handled interpreter (daemonKind poolSize) raw answers own =
      some (.returns resp, final)) (tells : resp.taskId.isSome) : 0 < poolSize := by
  cases decoded : receive interpreter raw with
  | error exception => simp [handled, decoded] at handles
  | ok dtg =>
    cases found : getHandler interpreter StorletDaemon dtg.command with
    | valueError | typeError => simp [handled, decoded, daemonKind, found] at handles
    | handler method =>
      simp only [handled, decoded, daemonKind, found, handleDaemon] at handles
      split_ifs at handles
      · exact (execute_acknowledges handles).1
      · have silent := cancel_taskId answers own dtg.taskId
          (congrArg Prod.fst (Option.some.inj handles))
        simp [silent] at tells
      · cases handles
        cases tells
      · cases handles
        cases tells

end Handlers

section Steps

variable {interpreter : Interpreter} {poolSize : Int}

theorem acknowledges_slots (interpreter : Interpreter) (state : MainState DaemonState)
    (event : DaemonEvent)
    (tells : acknowledges interpreter poolSize state event ≠ none) : 0 < poolSize := by
  unfold acknowledges at tells
  split at tells
  · split_ifs at tells
    · split at tells
      · next handles =>
        refine handled_acknowledges handles ?_
        simpa [Option.isSome_iff_ne_none] using tells
      · exact absurd rfl tells
    · exact absurd rfl tells
  · exact absurd rfl tells

theorem acknowledges_away {state : MainState DaemonState} (away : ¬ state.Serves)
    (event : DaemonEvent) : acknowledges interpreter poolSize state event = none := by
  unfold acknowledges
  split
  · rw [if_neg away]
  · rfl

/-- A daemon that does not serve forks no task. -/
theorem ages_away {state : MainState DaemonState} (away : ¬ state.Serves) (event : DaemonEvent) :
    Ages state.own.children
      (mainStep interpreter (daemonKind poolSize) state event).own.children := by
  cases event with
  | sighup => exact .refl _
  | exits pid => exact ages_modify _ pid (fun _ impossible => nomatch impossible) fun _ => id
  | terminate answers =>
    simp only [mainStep, terminateStep]
    split
    · exact waitWhile_ages answers 1 _ state.own
    · exact .refl _
  | turn turn =>
    have still : (turnStep interpreter (daemonKind poolSize) state turn).own = state.own := by
      unfold turnStep
      split
      · rfl
      · next inside =>
        split_ifs with stuck running
        · rfl
        · exact absurd ⟨inside, running, by simpa using stuck⟩ away
        · rfl
    change Ages _ (turnStep interpreter (daemonKind poolSize) state turn).own.children
    rw [still]
    exact .refl _

theorem busy_away {state : Watched} (away : ¬ state.main.Serves) {event : DaemonEvent}
    (busy : (watchStep interpreter poolSize state event).Busy) : state.Busy := by
  obtain ⟨pid, told, child, found, live⟩ := busy
  simp only [watchStep, acknowledges_away away, Option.toList_none, List.append_nil] at told
  obtain ⟨older, there, lived, _⟩ := (ages_away away event).dies pid child found
  exact ⟨pid, told, older, there, lived live⟩

/-- A daemon that serves answers the next message. -/
theorem takesCommands_iff (slots : 0 < poolSize) (state : MainState DaemonState) :
    TakesCommands interpreter poolSize state ↔ state.Serves := by
  constructor
  · exact fun takes => takes.serves
  · intro serves
    constructor
    · exact serves
    · intro raw dtg given fd decoded asked
      have handles := daemon_handled interpreter poolSize decoded given state.own
      obtain ⟨⟨result, final⟩, handles⟩ := Option.isSome_iff_exists.mp (handles.mpr (by omega))
      have survives : Survives interpreter StorletDaemon state.loop raw result .written :=
        (survives_iff serves.1 raw result .written).mpr ⟨⟨dtg, decoded⟩, rfl⟩
      obtain ⟨resp, answered⟩ := survives.answered fd asked
      refine ⟨resp, ?_⟩
      simp only [mainStep, turnStep_serves serves, busEvent, handles, Option.map_some]
      exact answered

/-- What holds as long as no step leaves a task behind. -/
structure Watched.Kept (poolSize : Int) (state : Watched) : Prop where
  away : ¬ state.main.Serves → state.dismissed = false → ¬ state.Busy
  slots : state.acknowledged ≠ [] → 0 < poolSize

theorem slots_step {state : Watched} (slots : state.acknowledged ≠ [] → 0 < poolSize)
    (event : DaemonEvent) :
    (watchStep interpreter poolSize state event).acknowledged ≠ [] → 0 < poolSize := by
  intro told
  by_cases before : state.acknowledged = []
  · apply acknowledges_slots interpreter state.main event
    intro silent
    simp [watchStep, before, silent] at told
  · exact slots before

theorem handled_isSome (interpreter : Interpreter) (slots : 0 < poolSize) (raw : RawMessage) (answers : DaemonAnswers)
    (own : DaemonState) : ∃ result final,
      handled interpreter (daemonKind poolSize) raw answers own = some (result, final) := by
  cases decoded : receive interpreter raw with
  | error exception => exact ⟨.raises, own, by simp [handled, decoded]⟩
  | ok dtg =>
    have handles := (daemon_handled interpreter poolSize decoded answers own).mpr (by omega)
    obtain ⟨⟨result, final⟩, handles⟩ := Option.isSome_iff_exists.mp handles
    exact ⟨result, final, handles⟩

theorem serves_step {state : Watched} (serves : state.main.Serves) (slots : 0 < poolSize)
    {event : DaemonEvent}
    (undismissed : (watchStep interpreter poolSize state event).dismissed = false) :
    (watchStep interpreter poolSize state event).main.Serves ↔
      ¬ LeavesLoop interpreter state.main event := by
  have allowed : dismisses interpreter state.main event = false :=
    (Bool.or_eq_false_iff.mp undismissed).2
  cases event with
  | sighup => cases allowed
  | exits pid => exact iff_of_true serves id
  | terminate answers =>
    refine iff_of_true ?_ id
    change (terminateStep (daemonKind poolSize) state.main answers).Serves
    simp only [terminateStep, serves.1]
    split <;> simp_all
  | turn turn =>
    cases turn with
    | listenFails | receiveFails => simp [dismisses, serves, BusTurn.fails] at allowed
    | timesOut =>
      change (turnStep interpreter (daemonKind poolSize) state.main .timesOut).Serves ↔
        ¬ 2 * listenTimeout ≤ state.main.loop.loopCnt + 1
      rw [turnStep_serves serves]
      by_cases expires : 2 * listenTimeout ≤ state.main.loop.loopCnt + 1
      · simp [busEvent, loopStep, serves.1, expires, MainState.Serves]
      · simp [busEvent, loopStep, serves.1, serves.2.1, serves.2.2, expires, MainState.Serves]
    | message raw answers reply =>
      obtain ⟨result, final, handles⟩ := handled_isSome interpreter slots raw answers
        state.main.own
      apply message_serves serves handles
      simpa [dismisses, serves] using allowed

/-- A step serves on exactly when it does not leave a task. -/
theorem keepsServing_iff {state : Watched} (kept : state.Kept poolSize) (event : DaemonEvent) :
    KeepsServing interpreter poolSize state event ↔
      LeavesNoTask interpreter poolSize state event := by
  by_cases serves : state.main.Serves
  · have same (busy : (watchStep interpreter poolSize state event).Busy)
        (undismissed : (watchStep interpreter poolSize state event).dismissed = false) :
        TakesCommands interpreter poolSize (watchStep interpreter poolSize state event).main ↔
          ¬ LeavesLoop interpreter state.main event := by
      obtain ⟨pid, told, _⟩ := busy
      have slots := slots_step kept.slots event (List.ne_nil_of_mem told)
      exact (takesCommands_iff slots _).trans (serves_step serves slots undismissed)
    constructor
    · intro keeps _ undismissed leaves busy
      exact (same busy undismissed).mp (keeps busy undismissed) leaves
    · intro task busy undismissed
      apply (same busy undismissed).mpr
      intro leaves
      exact task serves undismissed leaves busy
  · -- whoever has left the loop has done so with no task running, or as it may
    refine iff_of_true (fun busy undismissed => ?_) fun here => absurd here serves
    have before : state.dismissed = false := (Bool.or_eq_false_iff.mp undismissed).1
    exact absurd (busy_away serves busy) (kept.away serves before)

theorem kept_step {state : Watched} (kept : state.Kept poolSize) {event : DaemonEvent}
    (task : LeavesNoTask interpreter poolSize state event) :
    (watchStep interpreter poolSize state event).Kept poolSize := by
  constructor
  · intro away undismissed busy
    exact away ((keepsServing_iff kept event).mpr task busy undismissed).serves
  · exact slots_step kept.slots event

end Steps

def executeMessage : RawMessage :=
  ⟨[3, 4, 5, 6, 7],
    metadataOf ["SBUS_FD_SERVICE_OUT", "SBUS_FD_INPUT_OBJECT", "SBUS_FD_OUTPUT_OBJECT",
      "SBUS_FD_OUTPUT_OBJECT_METADATA", "SBUS_FD_LOGGER"],
    .text "\x7b\"command\":\"SBUS_CMD_EXECUTE\"\x7d"⟩

def cancelMessage : RawMessage :=
  ⟨[3], metadataOf ["SBUS_FD_SERVICE_OUT"],
    .text ("\x7b\"command\":\"SBUS_CMD_CANCEL\"".toList ++ ",\"task_id\":\"a\"\x7d".toList)⟩

def daemonAnswers (uuid : Text) : DaemonAnswers :=
  { wait := fun _ => ⟨fun _ => none, []⟩, uuid, forkFails := false, closeFails := false,
    killFails := false, str := fun _ => [] }

/-- Two tasks are started. -/
def twoTasks : List DaemonEvent :=
  [.turn (.message executeMessage (daemonAnswers "a") .written),
    .turn (.message executeMessage (daemonAnswers "b") .written)]

def cancelOne : DaemonEvent := .turn (.message cancelMessage (daemonAnswers "a") .written)

end Storlets.Sbus
