import Storlets.Agent.TaskTable
import Storlets.Gateway.Inputs
import Storlets.Gateway.RemoteFactory

set_option autoImplicit false

/-!
# The tasks of a daemon as the gateway knows them

The gateway has the id that a response gave it, and cancels with it. The messages of others, idle
periods and the exits of children come in any order in between.
-/

namespace Storlets.Sbus

open PyStr

/-- The id of a new task is that of no earlier one. -/
structure NewId where
  choose : List Worker → Text
  fresh : ∀ workers, ∀ worker ∈ workers, worker.taskId ≠ choose workers

structure PoolAnswers where
  uuid : NewId
  pid : NewPid
  rounds : Nat → RoundAnswers
  forkFails : Bool
  /-- Closing an invocation descriptor fails, and not because it is closed. -/
  closeFails : Bool
  killFails : Bool
  str : Json → Text

namespace PoolState

def handleExecute (poolSize : Int) (answers : PoolAnswers) (pool : PoolState) :
    Option (HandlerResult × PoolState) := do
  let taskId := answers.uuid.choose pool.workers
  let waited ← waitWhile answers.rounds poolSize pool.waitRounds pool
  -- the loop does not end without room in the pool
  if poolSize ≤ waited.tasks then none
  else
    let after ← pool.execute poolSize taskId answers.pid answers.forkFails answers.rounds
    if answers.forkFails || answers.closeFails then return (.raises, after)
    else return (.returns ⟨true, "OK", true, some taskId⟩, after)

def handleCancel (answers : PoolAnswers) (taskId : Json) (pool : PoolState) :
    HandlerResult × PoolState :=
  match taskId with
  -- not hashable
  | .arr _ | .obj _ => (.raises, pool)
  | .str taskId =>
      match pool.taskIdToPid.get? taskId with
      | none => (daemonFailure ("Task id ".toList ++ taskId ++ " is not found".toList), pool)
      | some _ =>
          (if answers.killFails then daemonFailure ("Failed to cancel task ".toList ++ taskId)
            else .returns ⟨true, "Cancelled task ".toList ++ taskId, false, none⟩,
            pool.cancel taskId answers.killFails)
  | taskId =>
      (daemonFailure ("Task id ".toList ++ answers.str taskId ++ " is not found".toList), pool)

def handle (poolSize : Int) (dtg : SBusDatagram) (method : Text) (answers : PoolAnswers)
    (pool : PoolState) : Option (HandlerResult × PoolState) :=
  if method = "execute".toList then pool.handleExecute poolSize answers
  else if method = "cancel".toList then some (pool.handleCancel answers dtg.taskId)
  else if method = "halt".toList then some (.returns ⟨true, "OK", false, none⟩, pool)
  else some (.returns ⟨true, "OK", true, none⟩, pool)

end PoolState

/-- The daemon, where the kernel may use the pids of its children again. -/
def poolKind (poolSize : Int) : ServerKind PoolState PoolAnswers (Nat → RoundAnswers) where
  server := StorletDaemon
  handle dtg method answers pool := pool.handle poolSize dtg method answers
  terminate answers pool :=
    match pool.waitAllChildProcesses answers with
    | some waited => (true, waited)
    | none => (false, pool)
  processExits pid pool := { pool with workers := exitWorkers [pid] pool.workers }

/-! ## What a step can do -/

/-- A call with an id of its own, if it makes one. -/
def Moves (poolSize : Int) (pool after : PoolState) : Prop :=
  after = pool ∨ ∃ call : TaskCall, call.run poolSize pool = some after ∧
    ∀ taskId, call.madeId = some taskId → taskId ∉ PoolState.ids pool.workers

section Steps

variable {poolSize : Int} {pool after : PoolState} {interpreter : Interpreter}

theorem NewId.not_mem (uuid : NewId) (workers : List Worker) :
    uuid.choose workers ∉ PoolState.ids workers := by
  intro inside
  obtain ⟨worker, there, named⟩ := List.mem_map.mp inside
  exact uuid.fresh workers worker there named

theorem handleExecute_cases {answers : PoolAnswers} {result : HandlerResult}
    (handles : pool.handleExecute poolSize answers = some (result, after)) :
    pool.execute poolSize (answers.uuid.choose pool.workers) answers.pid answers.forkFails
        answers.rounds = some after ∧
      (result = .raises ∨ answers.forkFails = false ∧
        result = .returns ⟨true, "OK", true, some (answers.uuid.choose pool.workers)⟩) := by
  unfold PoolState.handleExecute at handles
  obtain ⟨waited, _, handles⟩ := Option.bind_eq_some_iff.mp handles
  split at handles
  · cases handles
  obtain ⟨forked, executes, handles⟩ := Option.bind_eq_some_iff.mp handles
  split at handles
  · cases handles
    exact ⟨executes, .inl rfl⟩
  · next calm =>
    cases handles
    exact ⟨executes, .inr ⟨by simp_all, rfl⟩⟩

theorem handle_moves {dtg : SBusDatagram} {method : Text} {answers : PoolAnswers}
    {result : HandlerResult}
    (handles : pool.handle poolSize dtg method answers = some (result, after)) :
    Moves poolSize pool after := by
  unfold PoolState.handle at handles
  split at handles
  · refine .inr ⟨.execute _ _ _ _, (handleExecute_cases handles).1, ?_⟩
    rintro taskId made
    cases made
    exact answers.uuid.not_mem _
  split at handles
  · have ends := congrArg Prod.snd (Option.some.inj handles)
    unfold PoolState.handleCancel at ends
    split at ends
    · exact .inl ends.symm
    · exact .inl ends.symm
    · next taskId _ =>
      split at ends
      · exact .inl ends.symm
      · exact .inr ⟨.cancel taskId answers.killFails, congrArg some ends, nofun⟩
    · exact .inl ends.symm
  split at handles
  · exact .inl (Prod.mk.inj (Option.some.inj handles)).2.symm
  · exact .inl (Prod.mk.inj (Option.some.inj handles)).2.symm

theorem turnStep_moves (state : MainState PoolState) (turn : BusTurn PoolAnswers) :
    Moves poolSize state.own (turnStep interpreter (poolKind poolSize) state turn).own := by
  unfold turnStep
  split
  · exact .inl rfl
  split_ifs
  · exact .inl rfl
  · split
    · exact .inl rfl
    · next event own brought =>
      cases turn with
      | message raw answers reply =>
        obtain ⟨⟨result, own'⟩, handles, same⟩ := Option.map_eq_some_iff.mp brought
        cases same
        unfold handled at handles
        split at handles
        · cases handles
          exact .inl rfl
        · split at handles
          · exact handle_moves handles
          · cases handles
            exact .inl rfl
      | listenFails | timesOut | receiveFails =>
        cases brought
        exact .inl rfl
  · exact .inl rfl

theorem mainStep_moves (state : MainState PoolState)
    (event : MainEvent PoolAnswers (Nat → RoundAnswers)) :
    Moves poolSize state.own (mainStep interpreter (poolKind poolSize) state event).own := by
  cases event with
  | turn turn => exact turnStep_moves state turn
  | sighup => exact .inl rfl
  | exits pid => exact .inr ⟨.exits [pid], rfl, nofun⟩
  | terminate answers =>
    change Moves poolSize state.own (terminateStep (poolKind poolSize) state answers).own
    unfold terminateStep
    split
    · dsimp only [poolKind]
      split
      · next waited waits => exact .inr ⟨.waitAllChildProcesses answers, waits, nofun⟩
      · exact .inl rfl
    · exact .inl rfl

end Steps

/-! ## What holds in every run -/

/-- The table is exact, and no id is that of two children. -/
structure Orderly (poolSize : Int) (pool : PoolState) : Prop where
  ready : pool.Ready poolSize
  distinct : (PoolState.ids pool.workers).Nodup

section Runs

variable {poolSize : Int} {pool after : PoolState} {interpreter : Interpreter}

theorem ids_execute {taskId : Text} {pid : NewPid} {forkFails : Bool}
    {answers : Nat → RoundAnswers}
    (executes : pool.execute poolSize taskId pid forkFails answers = some after) :
    PoolState.ids after.workers =
      PoolState.ids pool.workers ++ if forkFails then [] else [taskId] := by
  obtain ⟨waited, waits, later⟩ := Option.bind_eq_some_iff.mp executes
  have same := PoolState.ids_waitWhile waits
  dsimp only at later
  split at later
  · next fails =>
    rw [← Option.some.inj later, same, if_pos fails, List.append_nil]
  · next forks =>
    rw [← Option.some.inj later, if_neg forks, ← same]
    simp [PoolState.ids]

/-- The children stay in their places, and a new one comes last. -/
theorem Orderly.moves (orderly : Orderly poolSize pool) (positive : 1 ≤ poolSize)
    (moves : Moves poolSize pool after) :
    Orderly poolSize after ∧ PoolState.ids pool.workers <+: PoolState.ids after.workers := by
  rcases moves with rfl | ⟨call, runs, fresh⟩
  · exact ⟨orderly, List.prefix_rfl⟩
  have ready := (orderly.ready.run positive fresh runs).1
  have still (same : PoolState.ids after.workers = PoolState.ids pool.workers) :
      Orderly poolSize after ∧ PoolState.ids pool.workers <+: PoolState.ids after.workers := by
    rw [← same]
    exact ⟨⟨ready, same ▸ orderly.distinct⟩, List.prefix_rfl⟩
  cases call with
  | exits pids =>
    apply still
    rw [← Option.some.inj runs]
    exact PoolState.ids_exit pids pool.workers
  | execute taskId pid forkFails answers =>
    have grown := ids_execute runs
    refine ⟨⟨ready, ?_⟩, grown ▸ List.prefix_append _ _⟩
    rw [grown]
    split
    · rw [List.append_nil]
      exact orderly.distinct
    · apply List.nodup_append.mpr
      refine ⟨orderly.distinct, List.nodup_singleton _, ?_⟩
      rintro known inside _ made rfl
      exact fresh known (congrArg some (List.mem_singleton.mp made).symm) inside
  | cancel taskId killFails =>
    apply still
    rw [← Option.some.inj runs]
    exact (orderly.ready.cancel taskId killFails).2
  | waitChildProcess answers => exact still (PoolState.ids_waitChildProcess runs)
  | waitAllChildProcesses answers => exact still (PoolState.ids_waitWhile runs)

/-- Anything may happen to the daemon in between. -/
def Turns (interpreter : Interpreter) (poolSize : Int) :
    MainState PoolState → MainState PoolState → Prop :=
  Relation.ReflTransGen fun state after =>
    ∃ event, after = mainStep interpreter (poolKind poolSize) state event

theorem Orderly.turns {state later : MainState PoolState} (orderly : Orderly poolSize state.own)
    (positive : 1 ≤ poolSize) (turns : Turns interpreter poolSize state later) :
    Orderly poolSize later.own ∧
      PoolState.ids state.own.workers <+: PoolState.ids later.own.workers := by
  -- by induction on the run, with what one step keeps
  induction turns with
  | refl => exact ⟨orderly, List.prefix_rfl⟩
  | tail _ step ih =>
    obtain ⟨event, rfl⟩ := step
    obtain ⟨kept, longer⟩ := ih.1.moves positive (mainStep_moves _ event)
    exact ⟨kept, ih.2.trans longer⟩

theorem orderly_initial (positive : 1 ≤ poolSize) : Orderly poolSize {} := by
  have exact : ({} : PoolState).Exact := by
    constructor
    · constructor
      · exact nofun
      · exact nofun
      · intro taskId pid
        exact ⟨nofun, nofun⟩
    · exact nofun
  refine ⟨⟨exact, ?_⟩, List.nodup_nil⟩
  change ((0 : Nat) : Int) ≤ poolSize
  omega

end Runs

/-! ## Cancelling -/

/-- The child of that task gets a signal, no other one does. -/
def cancelOf (taskId : Text) (workers : List Worker) : List Worker :=
  workers.map fun worker =>
    if worker.taskId = taskId then { worker with cancelled := true } else worker

section Cancelling

variable {poolSize : Int} {pool after : PoolState}

theorem Exact.killWorker (exact : pool.Exact) {taskId : Text} {pid : Nat}
    (listed : pool.taskIdToPid.get? taskId = some pid) :
    (∃ worker ∈ pool.workers, worker.taskId = taskId ∧ worker.reaped = false) ∧
      killWorker pid pool.workers = cancelOf taskId pool.workers := by
  obtain ⟨child, inside, named, numbered, waits, _⟩ := (exact.tracks.entries _ _).mp listed
  refine ⟨⟨child, inside, named, waits⟩, List.map_congr_left fun worker there => ?_⟩
  have same : worker.has pid = true ↔ worker.taskId = taskId := by
    rw [Worker.has_iff]
    constructor
    · rintro ⟨waits', numbered'⟩
      rw [exact.tracks.pids worker there child inside waits' waits (numbered'.trans numbered.symm)]
      exact named
    · intro named'
      rw [exact.tracks.ids worker there child inside (named'.trans named.symm)]
      exact ⟨waits, numbered⟩
  simp only [same]

/-- A success says that the child could still be waited for. -/
theorem handleCancel_kills (exact : pool.Exact) {answers : PoolAnswers} {taskId : Text}
    {result : HandlerResult}
    (handles : pool.handleCancel answers (.str taskId) = (result, after)) :
    (after.workers = pool.workers ∨ after.workers = cancelOf taskId pool.workers) ∧
      ∀ resp, result = .returns resp ∨ result = .raisesResponse resp → resp.status = true →
        (∃ worker ∈ pool.workers, worker.taskId = taskId ∧ worker.reaped = false) ∧
          after.workers = cancelOf taskId pool.workers := by
  simp only [PoolState.handleCancel] at handles
  cases listed : pool.taskIdToPid.get? taskId with
  | none =>
    rw [listed] at handles
    cases handles
    refine ⟨.inl rfl, ?_⟩
    rintro resp (same | same) confirmed
    · cases same
      cases confirmed
    · cases same
  | some pid =>
    obtain ⟨there, killed⟩ := Exact.killWorker exact listed
    rw [listed] at handles
    cases fails : answers.killFails with
    | true =>
      simp only [fails, PoolState.cancel, listed, if_true] at handles
      cases handles
      refine ⟨.inl rfl, ?_⟩
      rintro resp (same | same) confirmed
      · cases same
        cases confirmed
      · cases same
    | false =>
      simp only [fails, PoolState.cancel, listed, Bool.false_eq_true, if_false] at handles
      cases handles
      exact ⟨.inr killed, fun _ _ _ => ⟨there, killed⟩⟩

end Cancelling

end Storlets.Sbus

namespace Storlets

open PyStr Sbus

def SBusClient.execute (invocationParams : Dict Text) (invocationFds : List SBusFileDescriptor) :
    ClientCall :=
  { command := "SBUS_CMD_EXECUTE".toList
    params := textMap invocationParams
    extraFds := invocationFds }

/-- `StorletInvocationProtocol._send_execute_command`, which keeps the id of the task. -/
def sendExecute (limits : Json.Limits) (writeFd : Nat) (peer : ClientPeer)
    (params : Dict Text) (remoteFds : List SBusFileDescriptor) : Except SandboxException Json :=
  exceptSBusClient (Sbus.request limits (SBusClient.execute params remoteFds) writeFd peer).result
    (fun resp =>
      if Json.truthy resp.status = false then
        .error (.storletRuntimeException "Failed to send execute command")
      else if Json.truthy resp.taskId = false then
        .error (.storletRuntimeException "Missing task id")
      else .ok resp.taskId)
    (.error (.storletRuntimeException "Failed to send execute command"))

section Sending

variable {interpreter : Interpreter} {writeFd : Nat} {dtg : SBusDatagram}

theorem sendExecute_ok {limits : Json.Limits} {peer : ClientPeer} {params : Dict Text}
    {remoteFds : List SBusFileDescriptor} {taskId : Json}
    (sent : sendExecute limits writeFd peer params remoteFds = .ok taskId) :
    ∃ resp, (Sbus.request limits (SBusClient.execute params remoteFds) writeFd peer).result =
        .ok resp ∧
      Json.truthy resp.status ∧ resp.taskId = taskId ∧ Json.truthy taskId := by
  rcases exceptSBusClient_ok sent with ⟨resp, answered, granted⟩ | raised
  · split_ifs at granted with failed missing
    obtain rfl := Except.ok.inj granted
    exact ⟨resp, answered, by simpa using failed, rfl, by simpa using missing⟩
  · cases raised

/-- A request of strings is read by the server. -/
theorem legible_textual (roomy : interpreter.Roomy) {call : ClientCall}
    (plain : ∀ sfd ∈ call.extraFds, sfd.Plain) (params : Json.truthy call.params = false ∨
      ∃ dict : Dict Text, call.params = textMap dict)
    (taskId : Json.truthy call.taskId = false ∨ ∃ taskId, call.taskId = .str taskId)
    (built : call.datagram writeFd = .ok dtg)
    (short : dtg.messageLength ≤ maxMsgLength) : dtg.Legible interpreter := by
  obtain ⟨depth, deep⟩ := Nat.exists_eq_add_of_le' roomy.depth
  obtain ⟨copies, copyDeep⟩ := Nat.exists_eq_add_of_le' roomy.copyDepth
  have same := buildDatagram_eq built
  have each : ∀ sfd ∈ dtg.sfds, sfd.Plain := by
    rw [same]
    exact List.forall_mem_cons.mpr ⟨serviceOut_plain writeFd, plain⟩
  have fields : dtg.cmdParams = .obj (("command".toList, .str call.command) ::
      ((if Json.truthy call.params then [("params".toList, call.params)] else []) ++
        if Json.truthy call.taskId then [("task_id".toList, call.taskId)] else [])) := by
    rw [same]
    rfl
  have textual : Json.Textual dtg.cmdParams ∧
      Json.nestsWithin (depth + 3) dtg.cmdParams = true := by
    rw [fields]
    constructor
    · apply Json.Textual.obj
      · split_ifs
        · change ["command".toList, "params".toList, "task_id".toList].Nodup
          decide
        · change ["command".toList, "params".toList].Nodup
          decide
        · change ["command".toList, "task_id".toList].Nodup
          decide
        · exact List.nodup_singleton _
      · intro field inside
        rcases List.mem_cons.mp inside with rfl | inside
        · exact .str _
        rcases List.mem_append.mp inside with given | given
        · rcases params with absent | ⟨dict, isDict⟩
          · simp [absent] at given
          · rw [(List.mem_ite_nil_right.mp given).2 |> List.mem_singleton.mp, isDict]
            exact textMap_textual dict
        · rcases taskId with absent | ⟨taskId, isText⟩
          · simp [absent] at given
          · rw [(List.mem_ite_nil_right.mp given).2 |> List.mem_singleton.mp, isText]
            exact .str _
    · have paramsNest : Json.truthy call.params = true →
          Json.nestsWithin (depth + 2) call.params = true := by
        intro truthy
        rcases params with absent | ⟨dict, isDict⟩
        · rw [truthy] at absent
          cases absent
        · rw [isDict]
          exact textMap_nests dict (depth + 1)
      have taskNests : Json.truthy call.taskId = true →
          Json.nestsWithin (depth + 2) call.taskId = true := by
        intro truthy
        rcases taskId with absent | ⟨taskId, isText⟩
        · rw [truthy] at absent
          cases absent
        · rw [isText]
          rfl
      split_ifs with first second second
      · simp [Json.nestsWithin, paramsNest first, taskNests second]
      · simp [Json.nestsWithin, paramsNest first]
      · simp [Json.nestsWithin, taskNests second]
      · simp [Json.nestsWithin]
  constructor
  · rw [same]
    exact List.cons_ne_nil _ _
  · exact fun sfd inside => (each sfd inside).initialised
  · rw [copyDeep]
    exact fun sfd inside => (each sfd inside).metadata_nests copies
  · refine (Json.Textual.arr _ fun item inside => ?_).written
    obtain ⟨sfd, listed, described⟩ := List.mem_map.mp inside
    rw [← described]
    exact (each sfd listed).metadata_textual
  · rw [deep]
    simp only [SBusDatagram.metadata, Json.nestsWithin, List.all_map, List.all_eq_true]
    exact fun sfd inside => (each sfd inside).metadata_nests depth
  · exact textual.1.written
  · rw [deep]
    exact textual.2
  · exact short

end Sending

/-! ## The gateway's requests -/

section Requests

variable {interpreter : Interpreter} {poolSize : Int} {format : ByteWire.IntFormat}
variable {host : Sbus.Host Nat} {limits : Json.Limits} {writeFd : Nat} {dtg : SBusDatagram}
variable {state after : MainState PoolState} {peer : ClientPeer}

/-- What the daemon does for a request that it takes. -/
theorem takes_handle {call : ClientCall} {method : Text}
    (defined : call.command ∈ sbusCmd)
    (named : lower (call.command.drop sbusCmdPrefix.length) = method)
    (handles : method ∈ StorletDaemon.methods)
    (built : call.datagram writeFd = .ok dtg) {resp : CommandResponse}
    (takes : Takes interpreter (poolKind poolSize) dtg state after resp) :
    ∃ numberOf answers result,
      state.own.handle poolSize (dtg.atServer numberOf) method answers =
        some (result, after.own) ∧
      getHandler interpreter StorletDaemon (dtg.atServer numberOf).command = .handler method ∧
      resp = response interpreter StorletDaemon (dtg.atServer numberOf) result := by
  obtain ⟨_, raw, numberOf, answers, result, decoded, handled, rfl⟩ := takes
  have same := buildDatagram_eq built
  have command : (dtg.atServer numberOf).command = .str call.command := by
    rw [same]
    rfl
  have found : getHandler interpreter StorletDaemon (dtg.atServer numberOf).command =
      .handler method := by
    rw [command, ← named]
    rw [← named] at handles
    exact getHandler_handler defined handles
  refine ⟨numberOf, answers, result, ?_, found, rfl⟩
  rw [Sbus.handled, decoded] at handled
  dsimp only [poolKind] at handled
  simp only [found] at handled
  exact handled

/-- The gateway has been given the id of a task of its own. -/
theorem execute_grants {invocationParams : Dict Text} {invocationFds : List SBusFileDescriptor}
    (built : (SBusClient.execute invocationParams invocationFds).datagram writeFd = .ok dtg)
    {resp : CommandResponse} (takes : Takes interpreter (poolKind poolSize) dtg state after resp)
    (confirmed : resp.status = true) :
    ∃ taskId, resp.taskId = some taskId ∧ taskId ∉ PoolState.ids state.own.workers ∧
      PoolState.ids after.own.workers = PoolState.ids state.own.workers ++ [taskId] := by
  have defined : "SBUS_CMD_EXECUTE".toList ∈ sbusCmd := by decide
  have named : lower ("SBUS_CMD_EXECUTE".toList.drop sbusCmdPrefix.length) = "execute".toList := by
    decide
  obtain ⟨numberOf, answers, result, handles, found, same⟩ :=
    takes_handle defined named (by decide) built takes
  simp only [response, found] at same
  obtain ⟨executes, raises | ⟨forks, returns⟩⟩ := handleExecute_cases handles
  · rw [same, raises] at confirmed
    cases confirmed
  · refine ⟨answers.uuid.choose state.own.workers, ?_, answers.uuid.not_mem _, ?_⟩
    · rw [same, returns]
    · rw [ids_execute executes, forks]
      rfl

theorem cancel_takes (orderly : Orderly poolSize state.own) {taskId : Text}
    (given : Json.truthy (.str taskId))
    (built : (SBusClient.cancel (.str taskId)).datagram writeFd = .ok dtg)
    {resp : CommandResponse}
    (takes : Takes interpreter (poolKind poolSize) dtg state after resp) :
    (after.own.workers = state.own.workers ∨
        after.own.workers = cancelOf taskId state.own.workers) ∧
      (resp.status = true →
        (∃ worker ∈ state.own.workers, worker.taskId = taskId ∧ worker.reaped = false) ∧
          after.own.workers = cancelOf taskId state.own.workers) := by
  have defined : "SBUS_CMD_CANCEL".toList ∈ sbusCmd := by decide
  have named : lower ("SBUS_CMD_CANCEL".toList.drop sbusCmdPrefix.length) = "cancel".toList := by
    decide
  obtain ⟨numberOf, answers, result, handles, found, same⟩ :=
    takes_handle defined named (by decide) built takes
  simp only [response, found] at same
  have asked : (dtg.atServer numberOf).taskId = .str taskId := by
    rw [buildDatagram_eq built]
    exact if_pos given
  have ends : state.own.handleCancel answers (.str taskId) = (result, after.own) := by
    rw [← asked]
    exact Option.some.inj handles
  obtain ⟨may, must⟩ := handleCancel_kills orderly.ready.exact ends
  refine ⟨may, fun confirmed => ?_⟩
  rw [same] at confirmed
  cases result with
  | returns resp => exact must resp (.inl rfl) confirmed
  | raisesResponse resp => exact must resp (.inr rfl) confirmed
  | raisesValueError message => cases confirmed
  | raises => cases confirmed

/-- The turns of an exchange are turns of the daemon. -/
theorem exchange_turns {call : ClientCall}
    (exchange : Exchange interpreter (poolKind poolSize) format host call writeFd state after
      peer) : Turns interpreter poolSize state after := by
  cases exchange with
  | unsent => exact .refl
  | unreceived => exact .single ⟨.turn .receiveFails, rfl⟩
  | received _ _ unpacked numberOf answers reply =>
    exact .single ⟨.turn (.message (unpacked.raw numberOf) answers reply), rfl⟩

theorem task_named {resp : CommandResponse} {taskId : Text} (named : resp.taskId = some taskId)
    (given : Json.truthy resp.toClient.taskId) : resp.toClient.taskId = .str taskId := by
  change Json.truthy resp.task at given
  change resp.task = _
  unfold CommandResponse.task at given ⊢
  rw [named] at given ⊢
  cases taskId with
  | nil => cases given
  | cons c rest => rfl

/-- What a client is told by a response that it is given at all. -/
theorem answered_of_ends {call : ClientCall} {answer : SBusResponse}
    (answered : (Sbus.request limits call writeFd peer).result = .ok answer)
    (ends : (after.own = state.own ∧
        (Sbus.request limits call writeFd peer).result = peer.outcome none) ∨
      ∃ resp, Takes interpreter (poolKind poolSize) dtg state after resp ∧
        (Sbus.request limits call writeFd peer).result = peer.outcome (some resp)) :
    ∃ resp, Takes interpreter (poolKind poolSize) dtg state after resp ∧
      answer = resp.toClient := by
  rcases ends with ⟨_, nothing⟩ | ⟨resp, takes, sent⟩
  · obtain ⟨_, absent, _⟩ := ClientPeer.outcome_ok (nothing.symm.trans answered)
    cases absent
  · obtain ⟨_, same, answer⟩ := ClientPeer.outcome_ok (sent.symm.trans answered)
    cases same
    exact ⟨resp, takes, answer⟩

/-- A cancellation with the id that the gateway was given for its request reaches the child that was
forked for this request, and no other one, whatever has happened to the daemon before, in between
and since. If it is confirmed, the child was there to be killed. -/
theorem cancel_reaches_granted (positive : 1 ≤ poolSize) (roomy : interpreter.Roomy)
    (deep : 1 ≤ limits.depth)
    (started : Turns interpreter poolSize { own := {} } state)
    -- the task is granted
    {params : Dict Text} {remoteFds : List SBusFileDescriptor}
    (plain : ∀ sfd ∈ remoteFds, sfd.Plain)
    (built : (SBusClient.execute params remoteFds).datagram writeFd = .ok dtg)
    (short : dtg.messageLength ≤ maxMsgLength)
    (exchange : Exchange interpreter (poolKind poolSize) format host
      (SBusClient.execute params remoteFds) writeFd state after peer)
    {granted : Json} (sent : sendExecute limits writeFd peer params remoteFds = .ok granted)
    -- the task is cancelled
    {later cancelled : MainState PoolState} (turns : Turns interpreter poolSize after later)
    {writeFd' : Nat} {dtg' : SBusDatagram} {peer' : ClientPeer}
    (built' : (SBusClient.cancel granted).datagram writeFd' = .ok dtg')
    (short' : dtg'.messageLength ≤ maxMsgLength)
    (exchange' : Exchange interpreter (poolKind poolSize) format host (SBusClient.cancel granted)
      writeFd' later cancelled peer') :
    ∃ taskId, granted = .str taskId ∧
      PoolState.ids after.own.workers = PoolState.ids state.own.workers ++ [taskId] ∧
      PoolState.ids after.own.workers <+: PoolState.ids later.own.workers ∧
      (PoolState.ids later.own.workers).Nodup ∧
      (cancelled.own.workers = later.own.workers ∨
        cancelled.own.workers = cancelOf taskId later.own.workers) ∧
      (cancelTask limits writeFd' peer' granted = .ok () →
        (∃ worker ∈ later.own.workers, worker.taskId = taskId ∧ worker.reaped = false) ∧
          cancelled.own.workers = cancelOf taskId later.own.workers) := by
  have orderly := ((orderly_initial positive).turns positive started).1
  have legible := legible_textual roomy plain (.inr ⟨params, rfl⟩) (.inl rfl) built short
  obtain ⟨answer, answered, status, rfl, hasId⟩ := sendExecute_ok sent
  obtain ⟨resp, takes, rfl⟩ := answered_of_ends answered (exchange.ends deep built legible)
  obtain ⟨taskId, named, _, grown⟩ := execute_grants built takes status
  have given := task_named named hasId
  have during := (orderly.turns positive (exchange_turns exchange)).1
  obtain ⟨since, longer⟩ := during.turns positive turns
  rw [given] at built' exchange' hasId
  refine ⟨taskId, given, grown, longer, since.distinct, ?_⟩
  rw [given]
  have alone (sfd : SBusFileDescriptor) (inside : sfd ∈ ([] : List SBusFileDescriptor)) :
      sfd.Plain := by cases inside
  have legible' := legible_textual roomy alone (.inl rfl) (.inr ⟨taskId, rfl⟩) built' short'
  rcases Exchange.ends deep built' legible' exchange' with ⟨same, nothing⟩ | ⟨resp', takes', sent'⟩
  · refine ⟨.inl (by rw [same]), fun confirmed => ?_⟩
    obtain ⟨answer, answered', _⟩ := requestOrFail_ok confirmed
    obtain ⟨_, absent, _⟩ := ClientPeer.outcome_ok (nothing.symm.trans answered')
    cases absent
  · obtain ⟨may, must⟩ := cancel_takes since hasId built' takes'
    refine ⟨may, fun confirmed => ?_⟩
    obtain ⟨answer, answered', truthy⟩ := requestOrFail_ok confirmed
    obtain ⟨_, same, rfl⟩ := ClientPeer.outcome_ok (sent'.symm.trans answered')
    cases same
    exact must truthy

end Requests

/-! ## An exchange that succeeds -/

/-- A server that serves answers a request that its handler answers, and serves on unless the
response says otherwise. -/
theorem exists_exchange {S H T : Type} {interpreter : Interpreter} {kind : ServerKind S H T}
    {state : MainState S} (serves : state.Serves) {call : ClientCall} {writeFd : Nat}
    {dtg : SBusDatagram} (built : call.datagram writeFd = .ok dtg)
    (legible : dtg.Legible interpreter) {format : ByteWire.IntFormat} {host : Sbus.Host Nat}
    (delivered : dtg.delivered format host = some dtg.unpacked) {method : Text}
    (found : getHandler interpreter kind.server (.str call.command) = .handler method)
    {answers : H} {resp : CommandResponse} {own : S}
    (handles : kind.handle (dtg.atServer id) method answers state.own = some (.returns resp, own))
    {limits : Json.Limits} (deep : 1 ≤ limits.depth) :
    ∃ after peer, Exchange interpreter kind format host call writeFd state after peer ∧
      after.own = own ∧ (resp.iterable = true → after.Serves) ∧
      (Sbus.request limits call writeFd peer).result = .ok resp.toClient := by
  have decoded := legible.receives (ClientCall.rebuilds built) id
  have command : (dtg.atServer id).command = .str call.command := by
    rw [buildDatagram_eq built]
    rfl
  have handled : handled interpreter kind (dtg.unpacked.raw id) answers state.own =
      some (.returns resp, own) := by
    rw [Sbus.handled, decoded]
    dsimp only
    rw [command, found]
    exact handles
  have reply : response interpreter kind.server (dtg.atServer id) (.returns resp) = resp := by
    unfold response
    rw [command, found]
  obtain ⟨moved, written⟩ := turnStep_received serves built decoded handled .written
  rw [if_neg (by decide), reply] at written
  have given : encodeUtf8 resp.reportMessage ≠ [] := by
    rw [CommandResponse.reportMessage, Json.dumps]
    intro none
    cases none
  let peer : ClientPeer := ⟨0, [encodeUtf8 resp.reportMessage], by simpa using given, false⟩
  have whole : peer.reply = encodeUtf8 resp.reportMessage := List.flatten_singleton
  refine ⟨_, peer, .received peer dtg dtg.unpacked id answers .written built delivered ?_ ?_,
    moved, ?_, ?_⟩
  · rw [handled]
    rfl
  · rw [whole, written]
  · intro iterable
    have brought : busEvent interpreter kind state.own
        (.message (dtg.unpacked.raw id) answers .written) =
          some (.message (dtg.unpacked.raw id) (.returns resp) .written, own) := by
      rw [busEvent, handled]
      rfl
    have out := ClientCall.serviceOutFd built id
    rw [turnStep_serves serves, brought]
    refine ⟨?_, serves.2.1, serves.2.2⟩
    dsimp only
    rw [loopStep_message interpreter kind.server serves.1, decoded]
    dsimp only
    simp [dispatchCommand, out, reply, Reply.raises, iterable]
  · have part : peer.reply <+: encodeUtf8 resp.reportMessage := by rw [whole]
    rw [request_reads deep built part]
    simp [ClientPeer.outcome, Option.filter, whole, peer]

/-- An id that is longer than all earlier ones. -/
def longerId : NewId where
  choose workers := 'a' :: workers.flatMap Worker.taskId
  fresh := by
    intro workers worker inside same
    have longer : worker.taskId.length ≤ (workers.flatMap Worker.taskId).length := by
      rw [List.length_flatMap]
      exact List.le_sum_of_mem (List.mem_map_of_mem inside)
    rw [same, List.length_cons] at longer
    omega

def calmAnswers : PoolAnswers where
  uuid := longerId
  pid := nextPid
  rounds _ := quietRound
  forkFails := false
  closeFails := false
  killFails := false
  str _ := []

/-- The descriptors of an EXECUTE. -/
def invocationFds : List SBusFileDescriptor :=
  [sbusFileDescriptor "SBUS_FD_INPUT_OBJECT" 5 [] .empty,
    sbusFileDescriptor "SBUS_FD_OUTPUT_OBJECT" 6 [] .empty,
    sbusFileDescriptor "SBUS_FD_OUTPUT_OBJECT_METADATA" 7 [] .empty,
    sbusFileDescriptor "SBUS_FD_LOGGER" 8 [] .empty]

/-- The daemon forks a task and is asked to cancel it. -/
theorem granted_cancelled : ∃ (after cancelled : MainState PoolState) (peer peer' : ClientPeer),
    sendExecute python.limits 4 peer .empty invocationFds = .ok (.str "a".toList) ∧
      cancelTask python.limits 4 peer' (.str "a".toList) = .ok () ∧
      cancelled.own.workers = cancelOf "a".toList after.own.workers := by
  have roomy : python.Roomy := ⟨by decide, by decide, by decide⟩
  have deep : 1 ≤ python.limits.depth := by decide
  have plain (sfd : SBusFileDescriptor) (inside : sfd ∈ invocationFds) : sfd.Plain := by
    simp only [invocationFds, List.mem_cons, List.not_mem_nil, or_false] at inside
    rcases inside with rfl | rfl | rfl | rfl
    all_goals exact sbusFileDescriptor_plain _ _ .empty List.not_mem_nil _
  have serves : ({ own := {} } : MainState PoolState).Serves := ⟨rfl, rfl, rfl⟩
  let execute := SBusClient.execute .empty invocationFds
  let dtg : SBusDatagram :=
    ⟨.str execute.command, serviceOut 4 :: invocationFds, execute.params, .null⟩
  have built : execute.datagram 4 = .ok dtg := rfl
  have short : dtg.messageLength ≤ maxMsgLength := by decide +kernel
  have legible := legible_textual roomy plain (.inl rfl) (.inl rfl) built short
  have delivered : dtg.delivered ByteWire.littleEndian acceptingHost = some dtg.unpacked :=
    (legible.ascii.delivered_iff (not_refuses_accepting _ _) rfl).mpr short
  have found : getHandler python (poolKind 1).server (.str "SBUS_CMD_EXECUTE".toList) =
      .handler "execute".toList := by
    rw [getHandler_handler (by decide) (by decide)]
    rfl
  let forked : PoolState :=
    ⟨⟨[("a".toList, 1)], by decide⟩, [{ pid := 1, taskId := "a".toList }], []⟩
  have handles : (poolKind 1).handle (dtg.atServer id) "execute".toList calmAnswers {} =
      some (.returns ⟨true, "OK", true, some "a".toList⟩, forked) := rfl
  obtain ⟨after, peer, exchange, own, on, answered⟩ :=
    exists_exchange serves built legible delivered found handles deep
  have sent : sendExecute python.limits 4 peer .empty invocationFds =
      .ok (.str "a".toList) := by
    rw [sendExecute, answered]
    rfl
  let cancel := SBusClient.cancel (.str "a".toList)
  let dtg' : SBusDatagram := ⟨.str cancel.command, [serviceOut 4], .null, cancel.taskId⟩
  have built' : cancel.datagram 4 = .ok dtg' := rfl
  have short' : dtg'.messageLength ≤ maxMsgLength := by decide +kernel
  have alone (sfd : SBusFileDescriptor) (inside : sfd ∈ ([] : List SBusFileDescriptor)) :
      sfd.Plain := by cases inside
  have legible' := legible_textual roomy alone (.inl rfl) (.inr ⟨_, rfl⟩) built' short'
  have delivered' : dtg'.delivered ByteWire.littleEndian acceptingHost = some dtg'.unpacked :=
    (legible'.ascii.delivered_iff (not_refuses_accepting _ _) rfl).mpr short'
  have found' : getHandler python (poolKind 1).server (.str "SBUS_CMD_CANCEL".toList) =
      .handler "cancel".toList := by
    rw [getHandler_handler (by decide) (by decide)]
    rfl
  have handles' : ∃ own, (poolKind 1).handle (dtg'.atServer id) "cancel".toList calmAnswers
      after.own = some (.returns ⟨true, "Cancelled task a".toList, false, none⟩, own) := by
    rw [own]
    exact ⟨_, rfl⟩
  obtain ⟨killed, handles'⟩ := handles'
  obtain ⟨cancelled, peer', exchange', _, _, answered'⟩ :=
    exists_exchange (on rfl) built' legible' delivered' found' handles' deep
  have confirmed : cancelTask python.limits 4 peer' (.str "a".toList) = .ok () := by
    rw [cancelTask, requestOrFail, answered']
    rfl
  obtain ⟨taskId, named, _, _, _, _, confirms⟩ := cancel_reaches_granted (by decide) roomy deep
    .refl plain built short exchange sent .refl built' short' exchange'
  cases named
  exact ⟨after, cancelled, peer, peer', sent, confirmed, (confirms confirmed).2⟩

end Storlets
