import Storlets.Agent.Accounting
import Storlets.Agent.MainLoop

set_option autoImplicit false

/-!
# How the daemon factory stops its daemons

A daemon is asked to halt over its pipe and then waited for.
-/

namespace Storlets.Sbus

open PyStr Effect Runs FactoryState

structure HaltAnswers where
  /-- The request of a client of a storlet's pipe. -/
  halt : Text → Text → ClientAnswer
  waitFails : Text → Bool

/-- `os.waitpid(pid, 0)`: whether there is such a child, and no other error. -/
def waitpidExits (fails : Bool) (pid : Nat) : FactoryAction Bool := do
  let reaped ← look fun state => (state.processes[pid]?.map DaemonProcess.reaped).getD true
  if fails || reaped then pure false
  else do
    change fun state =>
      state.changeProcess pid fun process => { process with live := false, reaped := true }
    pure true

def shutdownProcess (answers : HaltAnswers) (storletName : Text) : FactoryAction Unit := do
  let dmnPid ← look fun state => state.storletNameToPid.get? storletName
  match dmnPid with
  | none => throw (named "PID of the storlet daemon " storletName " is not found")
  | some dmnPid => do
      let storletPipeName ← look fun state => state.storletNameToPipeName.get? storletName
      match storletPipeName.map (answers.halt storletName) with
      -- no pipe is a KeyError
      | none | some .raises => throw .other
      | some (.replied false _) => throw (named "Failed to send halt to " storletName "")
      | some .sendError | some .clientException =>
          throw (named "Failed to send halt command to the storlet daemon " storletName "")
      | some (.replied true _) => do
          let waited ← waitpidExits (answers.waitFails storletName) dmnPid
          if waited then change fun state => state.popPid storletName
          else throw (named "Failed to wait the storlet daemon " storletName "")

/-- Stops each storlet's daemon, and keeps the names of those that worked and of those that did
not. -/
def tryAll (stop : Text → FactoryAction Unit) (tried : List Text × List Text) (names : List Text) :
    FactoryAction (List Text × List Text) :=
  forEach (fun tried storletName =>
    (stop storletName >>= fun _ => pure (tried.1 ++ [storletName], tried.2)).handling fun
      | .sdaemon _ => pure (tried.1, tried.2 ++ [storletName])
      | .other => throw .other) tried names

def stopAll (stop : Text → FactoryAction Unit) (failure : String) :
    FactoryAction (List Text) := do
  let names ← look fun state => state.storletNameToPid.keys
  let tried ← tryAll stop ([], []) names
  if tried.2 = [] then pure tried.1
  else throw (.sdaemon (failure.toList ++ (", ".toList).intercalate tried.2))

def processKillAll (answers : Text → StopAnswers) : FactoryAction (List Text) :=
  stopAll (fun storletName => processKill (answers storletName) storletName)
    "Failed to kill some storlet daemons: "

def shutdownAllProcesses (answers : HaltAnswers) : FactoryAction (List Text) :=
  stopAll (shutdownProcess answers) "Failed to shutdown some storlet daemons: "

/-! ## The factory as a server -/

structure FactoryAnswers where
  start : StartAnswers
  statusError : Option Errno
  kill : Text → StopAnswers
  halt : HaltAnswers
  /-- `str` of a value. -/
  str : Json → Text

/-- The items of the parameters START_DAEMON reads. -/
def startParams (str : Json → Text) (params : Json) : Option StartParams := do
  let storletName ← textItem params "storlet_name"
  let daemonLanguage ← textItem params "daemon_language"
  let storletPath ← textItem params "storlet_path"
  let poolSize ← (getItem params "pool_size").toOption
  let udsPath ← textItem params "uds_path"
  let logLevel ← textItem params "log_level"
  let version ← (dictGet params "daemon_language_version").toOption
  let daemonLanguageVersion := match version with
    | .null | .bool false | .int 0 | .arr [] | .obj [] => none
    | .str version => some version
    | value => some (str value)
  return { daemonLanguage, storletPath, storletName, poolSize := str poolSize, udsPath, logLevel,
           daemonLanguageVersion }

/-- `except SDaemonError as err: return CommandFailure(err.args[0], iterable)`. -/
def answering (iterable : Bool) (action : FactoryAction CommandResponse) (state : FactoryState) :
    HandlerResult × FactoryState :=
  match action state with
  | (.ok resp, state) => (.returns resp, state)
  | (.error (.sdaemon message), state) => (.returns ⟨false, message, iterable, none⟩, state)
  | (.error .other, state) => (.raises, state)

def success (message : Text) (iterable : Bool) : CommandResponse := ⟨true, message, iterable, none⟩

def aboutDaemon (front storletName : Text) (back : String) : Text :=
  front ++ storletName ++ back.toList

section Handlers

variable (containerId : Text) (answers : FactoryAnswers) (params : Json) (state : FactoryState)

def startDaemon : HandlerResult × FactoryState :=
  match startParams answers.str params with
  | none => (.raises, state)
  | some params => answering true (do
      let started ← processStartDaemon containerId answers.start params
      if started then pure (success "OK" true)
      else pure (success (aboutDaemon "The storlet daemon " params.storletName
        " is already running") true)) state

def stopDaemon : HandlerResult × FactoryState :=
  match textItem params "storlet_name" with
  | none => (.raises, state)
  | some storletName => answering true (do
      processKill (answers.kill storletName) storletName
      pure (success (aboutDaemon "The storlet daemon " storletName " is stopped") true)) state

def daemonStatus : HandlerResult × FactoryState :=
  match textItem params "storlet_name" with
  | none => (.raises, state)
  | some storletName => answering true (do
      let running ← getProcessStatusByName answers.statusError storletName
      if running then
        pure (success (aboutDaemon "The storlet daemon " storletName " seems to be OK") true)
      else
        pure (commandFailure (aboutDaemon "No running storlet daemons for " storletName ""))) state

def stopDaemons : HandlerResult × FactoryState :=
  answering false (do
    let _ ← processKillAll answers.kill
    pure (success "OK" false)) state

def haltFactory : HandlerResult × FactoryState :=
  answering false (do
    let _ ← shutdownAllProcesses answers.halt
    pure (success "Stopped all storlet daemons. Terminating." false)) state

def handleFactory (dtg : SBusDatagram) (method : Text) : HandlerResult × FactoryState :=
  if method = "start_daemon".toList then startDaemon containerId answers dtg.params state
  else if method = "stop_daemon".toList then stopDaemon answers dtg.params state
  else if method = "daemon_status".toList then daemonStatus answers dtg.params state
  else if method = "stop_daemons".toList then stopDaemons answers state
  else if method = "halt".toList then haltFactory answers state
  else (.returns (success "OK" true), state)

end Handlers

/-- `_terminate` of the factory is `shutdown_all_processes`. -/
def factoryKind (containerId : Text) : ServerKind FactoryState FactoryAnswers HaltAnswers where
  server := StorletDaemonFactory
  handle dtg method answers state := some (handleFactory containerId answers state dtg method)
  terminate answers state :=
    let (ending, state) := shutdownAllProcesses answers state
    (ending.isOk, state)
  processExits pid state := state.changeProcess pid fun process => { process with live := false }

/-! ## What is recorded stays known -/

section Known

theorem known_changeProcess {state : FactoryState} (known : state.Known) (pid : Nat)
    {change : DaemonProcess → DaemonProcess} (keeps : ∀ process, (change process).name = process.name) :
    (state.changeProcess pid change).Known := by
  refine ⟨fun name other recorded => ?_, known.pipes⟩
  have same : (state.changeProcess pid change).processes.map DaemonProcess.name =
      state.processes.map DaemonProcess.name := names_changeProcess pid keeps
  rw [same]
  exact known.names name other recorded

theorem shutdownProcess_known (answers : HaltAnswers) (storletName : Text) :
    Keeps Known (shutdownProcess answers storletName) := by
  refine .bind (Keeps.look _) fun found => ?_
  cases found with
  | none => exact Keeps.throw _
  | some pid =>
    refine .bind (Keeps.look _) fun pipe => ?_
    cases pipe.map (answers.halt storletName) with
    | none => exact Keeps.throw _
    | some answer =>
      cases answer with
      | sendError | clientException | raises => exact Keeps.throw _
      | replied status message =>
        cases status with
        | false => exact Keeps.throw _
        | true =>
          have waits : Keeps Known (waitpidExits (answers.waitFails storletName) pid) := by
            refine .bind (Keeps.look _) fun reaped => .ite (fun _ => Keeps.pure _) fun _ => ?_
            refine Keeps.bind (Meets.change fun state known => ?_) fun _ => Keeps.pure _
            exact known_changeProcess known pid fun _ => rfl
          refine .bind waits fun waited => .ite (fun _ => .change fun state known => ?_) fun _ =>
            Keeps.throw _
          exact known_popPid known storletName

theorem tryAll_known {stop : Text → FactoryAction Unit} (keeps : ∀ name, Keeps Known (stop name))
    (tried : List Text × List Text) (names : List Text) :
    Keeps Known (tryAll stop tried names) := by
  refine Keeps.forEach (fun tried name _ => ?_) tried
  refine .handling Known (Keeps.bind (keeps name) fun _ => Keeps.pure _) fun exception => ?_
  cases exception with
  | sdaemon message => exact Keeps.pure _
  | other => exact Keeps.throw _

theorem stopAll_known {stop : Text → FactoryAction Unit} (keeps : ∀ name, Keeps Known (stop name))
    (failure : String) : Keeps Known (stopAll stop failure) := by
  refine .bind (Keeps.look _) fun names => .bind (tryAll_known keeps _ names) fun tried => ?_
  exact .ite (fun _ => Keeps.pure _) fun _ => Keeps.throw _

theorem answering_known {state : FactoryState} (known : state.Known) (iterable : Bool)
    {action : FactoryAction CommandResponse} (keeps : Keeps Known action) :
    (answering iterable action state).2.Known := by
  have after := (keeps state known).final
  unfold answering
  match action state, after with
  | (.ok resp, _), after => exact after
  | (.error (.sdaemon message), _), after => exact after
  | (.error .other, _), after => exact after

theorem processStartDaemon_known (containerId : Text) (answers : StartAnswers)
    (params : StartParams) : Keeps Known (processStartDaemon containerId answers params) := by
  intro state known
  have stepped : (commandStep containerId state (.startDaemon answers params)).Known :=
    commandStep_known known _
  have after : (processStartDaemon containerId answers params state).2.Known := stepped
  match processStartDaemon containerId answers params state, after with
  | (.ok _, _), after => exact after
  | (.error _, _), after => exact after

theorem handleFactory_known {state : FactoryState} (known : state.Known) (containerId : Text)
    (answers : FactoryAnswers) (dtg : SBusDatagram) (method : Text) :
    (handleFactory containerId answers state dtg method).2.Known := by
  have status (name : Text) : Keeps Known (getProcessStatusByName answers.statusError name) := by
    intro state known
    have after := known_congr (daemonStatus_showsAs state answers.statusError name) known
    match getProcessStatusByName answers.statusError name state, after with
    | (.ok _, _), after => exact after
    | (.error _, _), after => exact after
  have kills : Keeps Known (processKillAll answers.kill) :=
    stopAll_known (fun name => processKill_known (answers.kill name) name) _
  have halts : Keeps Known (shutdownAllProcesses answers.halt) :=
    stopAll_known (fun name => shutdownProcess_known answers.halt name) _
  unfold handleFactory
  split_ifs
  · unfold startDaemon
    cases startParams answers.str dtg.params with
    | none => exact known
    | some params =>
      refine answering_known known true (.bind (processStartDaemon_known containerId _ _) ?_)
      exact fun _ => .ite (fun _ => Keeps.pure _) fun _ => Keeps.pure _
  · unfold stopDaemon
    cases textItem dtg.params "storlet_name".toList with
    | none => exact known
    | some name =>
      exact answering_known known true (.bind (processKill_known _ name) fun _ => Keeps.pure _)
  · unfold daemonStatus
    cases textItem dtg.params "storlet_name".toList with
    | none => exact known
    | some name =>
      refine answering_known known true (.bind (status name) ?_)
      exact fun _ => .ite (fun _ => Keeps.pure _) fun _ => Keeps.pure _
  · exact answering_known known false (.bind kills fun _ => Keeps.pure _)
  · exact answering_known known false (.bind halts fun _ => Keeps.pure _)
  · exact known

end Known

/-! ## When every daemon is stopped -/

/-- The recorded daemon says that it halts and can be waited for. -/
structure Halts (state : FactoryState) (answers : HaltAnswers) (storletName : Text) (pid : Nat) :
    Prop where
  agrees : ∃ pipe message, state.storletNameToPipeName.get? storletName = some pipe ∧
    answers.halt storletName pipe = .replied true message
  waits : answers.waitFails storletName = false
  child : ∃ process, state.processes[pid]? = some process ∧ process.reaped = false

section Stops

variable {state : FactoryState} {answers : HaltAnswers} {storletName : Text} {pid : Nat}

theorem waitpidExits_eq (fails : Bool) (pid : Nat) (state : FactoryState) :
    waitpidExits fails pid state =
      if fails = false ∧ ∃ process, state.processes[pid]? = some process ∧ process.reaped = false
      then (.ok true, state.changeProcess pid fun process =>
        { process with live := false, reaped := true })
      else (.ok false, state) := by
  simp only [waitpidExits, bind_apply, look_apply]
  cases found : state.processes[pid]? with
  | none => simp
  | some process => cases fails <;> cases reaped : process.reaped <;> simp [reaped, bind_apply]

/-- A daemon that does not halt stays as it was. -/
theorem shutdownProcess_halts (answers : HaltAnswers)
    (recorded : state.storletNameToPid.get? storletName = some pid) :
    (Halts state answers storletName pid ∧ shutdownProcess answers storletName state =
        (.ok (), (state.changeProcess pid fun process =>
          { process with live := false, reaped := true }).popPid storletName)) ∨
      (¬ Halts state answers storletName pid ∧ ∃ exception,
        shutdownProcess answers storletName state = (.error exception, state)) := by
  simp only [shutdownProcess, bind_apply, look_apply, recorded]
  cases piped : state.storletNameToPipeName.get? storletName with
  | none =>
    right
    constructor
    · rintro ⟨⟨pipe, message, found, _⟩, _, _⟩
      cases piped.symm.trans found
    · exact ⟨.other, rfl⟩
  | some pipe =>
    cases answered : answers.halt storletName pipe with
    | replied status message =>
      cases status with
      | false =>
        right
        constructor
        · rintro ⟨⟨other, text, found, agrees⟩, _, _⟩
          cases piped.symm.trans found
          cases answered.symm.trans agrees
        · simp [answered]
      | true =>
        simp only [Option.map_some, answered, bind_apply, waitpidExits_eq]
        by_cases worked : answers.waitFails storletName = false ∧
            ∃ process, state.processes[pid]? = some process ∧ process.reaped = false
        · left
          constructor
          · exact ⟨⟨pipe, message, piped, answered⟩, worked.1, worked.2⟩
          · rw [if_pos worked]
            rfl
        · right
          constructor
          · intro halts
            exact worked ⟨halts.waits, halts.child⟩
          · rw [if_neg worked]
            exact ⟨_, rfl⟩
    | sendError | clientException | raises =>
      right
      constructor
      · rintro ⟨⟨other, message, found, agrees⟩, _, _⟩
        cases piped.symm.trans found
        cases answered.symm.trans agrees
      · simp [answered]

/-- Stopping one daemon tells nothing about the others. -/
theorem halts_stopped (known : state.Known) {other : Text} {otherPid : Nat}
    (recorded : state.storletNameToPid.get? storletName = some pid) (differs : other ≠ storletName)
    (there : state.storletNameToPid.get? other = some otherPid) :
    Halts ((state.changeProcess pid fun process =>
      { process with live := false, reaped := true }).popPid storletName) answers other otherPid ↔
        Halts state answers other otherPid := by
  have apart : pid ≠ otherPid := by
    rintro rfl
    have same := (known.names storletName pid recorded).symm.trans (known.names other pid there)
    exact differs (Option.some.inj same).symm
  constructor <;> intro halts <;> refine ⟨halts.agrees, halts.waits, ?_⟩
  · simpa [popPid, changeProcess, apart] using halts.child
  · simpa [popPid, changeProcess, apart] using halts.child

theorem tryAll_cons (stop : Text → FactoryAction Unit) (tried : List Text × List Text)
    (name : Text) (rest : List Text) (state : FactoryState) :
    tryAll stop tried (name :: rest) state =
      match stop name state with
      | (.ok (), final) => tryAll stop (tried.1 ++ [name], tried.2) rest final
      | (.error (.sdaemon _), final) => tryAll stop (tried.1, tried.2 ++ [name]) rest final
      | (.error .other, final) => (.error .other, final) := by
  simp only [tryAll, forEach, bind_apply, handling]
  obtain ⟨(message | _) | _, final⟩ := stop name state
  · rfl
  · rfl
  · rfl

/-- Every daemon is stopped exactly when each of them halts. -/
theorem tryAll_stops_iff (answers : HaltAnswers) (known : state.Known) {names : List Text} (distinct : names.Nodup)
    (recorded : ∀ name ∈ names, (state.storletNameToPid.get? name).isSome)
    (tried : List Text × List Text) :
    (∃ stopped final, tryAll (shutdownProcess answers) tried names state = (.ok (stopped, []), final))
      ↔ tried.2 = [] ∧ ∀ name ∈ names, ∀ pid, state.storletNameToPid.get? name = some pid →
        Halts state answers name pid := by
  induction names generalizing state tried with
  | nil => simp [tryAll, forEach, Prod.ext_iff]
  | cons name rest ih =>
    obtain ⟨fresh, distinct⟩ := List.nodup_cons.mp distinct
    obtain ⟨here, later⟩ := List.forall_mem_cons.mp recorded
    obtain ⟨pid, found⟩ := Option.isSome_iff_exists.mp here
    simp only [tryAll_cons, List.forall_mem_cons, found, Option.some.injEq, forall_eq']
    rcases shutdownProcess_halts answers found with ⟨halts, stops⟩ | ⟨stays, exception, fails⟩
    · rw [stops]
      have known' := known_popPid (known_changeProcess known pid fun process =>
        (rfl : ({ process with live := false, reaped := true } : DaemonProcess).name = _)) name
      have apart (other : Text) (inside : other ∈ rest) : other ≠ name := fun same =>
        fresh (same ▸ inside)
      have still (other : Text) (inside : other ∈ rest) :
          (state.storletNameToPid.pop name).get? other = state.storletNameToPid.get? other := by
        simp [PyDict.get?_pop, apart other inside]
      have followed := ih known' distinct (fun other inside => by
        simpa [popPid, changeProcess, still other inside] using later other inside)
        (tried.1 ++ [name], tried.2)
      refine followed.trans (and_congr_right fun _ => ?_)
      simp only [halts, true_and]
      refine forall₂_congr fun other inside => forall_congr' fun otherPid => ?_
      simp only [popPid, changeProcess, still other inside]
      exact imp_congr_right fun there => halts_stopped known found (apart other inside) there
    · rw [fails]
      cases exception with
      | other => simp [stays]
      | sdaemon message => simp [ih known distinct later, stays]

def AllHalt (state : FactoryState) (answers : HaltAnswers) : Prop :=
  ∀ name pid, state.storletNameToPid.get? name = some pid → Halts state answers name pid

theorem shutdownAll_returns_iff (known : state.Known) :
    (shutdownAllProcesses answers state).1.isOk ↔ AllHalt state answers := by
  have listed (name : Text) :
      name ∈ state.storletNameToPid.keys ↔ (state.storletNameToPid.get? name).isSome :=
    (PyDict.get?_isSome _ _).symm
  have stops := tryAll_stops_iff answers known state.storletNameToPid.distinct
    (fun name inside => (listed name).mp inside) ([], [])
  have tracked : AllHalt state answers ↔ ∀ name ∈ state.storletNameToPid.keys, ∀ pid,
      state.storletNameToPid.get? name = some pid → Halts state answers name pid := by
    refine forall_congr' fun name => ⟨fun all _ => all, fun all pid found => ?_⟩
    exact all ((listed name).mpr (by simp [found])) pid found
  rw [tracked]
  refine Iff.trans ?_ (stops.trans (and_iff_right rfl))
  simp only [shutdownAllProcesses, stopAll, bind_apply, look_apply]
  change _ ↔ ∃ stopped final, tryAll _ ([], []) state.storletNameToPid.keys state = _
  obtain ⟨exception | ⟨stopped, failed⟩, final⟩ :=
    tryAll (shutdownProcess answers) ([], []) state.storletNameToPid.keys state
  · simp [Except.isOk, Except.toBool]
  · by_cases clean : failed = []
    · simp [clean, Except.isOk, Except.toBool]
    · simp [clean, Except.isOk, Except.toBool]

end Stops

/-! ## How the factory's `main_loop` ends -/

section Ending

variable (interpreter : Interpreter) (containerId : Text)

/-- The messages decode and their responses can be sent off, and the daemons that are recorded
when the loop is left halt. -/
def FactoryReturns (state : MainState FactoryState) :
    MainEvent FactoryAnswers HaltAnswers → Prop
  | .turn (.message raw _ reply) => state.Serves →
      (∃ dtg, receive interpreter raw = .ok dtg) ∧ reply.raises = false
  | .terminate answers => state.ending = none → state.loop.exit ≠ none → AllHalt state.own answers
  | _ => True

variable {interpreter containerId}

theorem factory_handled (interpreter : Interpreter) (containerId : Text) (raw : RawMessage) (answers : FactoryAnswers) {state : FactoryState}
    (known : state.Known) : ∃ result final,
      handled interpreter (factoryKind containerId) raw answers state = some (result, final) ∧
        final.Known := by
  unfold handled
  split
  · exact ⟨_, _, rfl, known⟩
  · split
    · exact ⟨_, _, rfl, handleFactory_known known containerId answers _ _⟩
    · exact ⟨_, _, rfl, known⟩

theorem factoryReturns_iff {state : MainState FactoryState} (known : state.own.Known)
    (event : MainEvent FactoryAnswers HaltAnswers) :
    StepReturns interpreter (factoryKind containerId) state event ↔
      FactoryReturns interpreter state event := by
  cases event with
  | sighup | exits => exact Iff.rfl
  | turn turn =>
    cases turn with
    | listenFails | timesOut | receiveFails => exact Iff.rfl
    | message raw answers reply =>
      obtain ⟨result, final, handles, _⟩ := factory_handled interpreter containerId raw answers known
      simp [StepReturns, FactoryReturns, handles]
  | terminate answers =>
    exact imp_congr_right fun _ => imp_congr_right fun _ => shutdownAll_returns_iff known

theorem factory_known {state : MainState FactoryState} (known : state.own.Known)
    (event : MainEvent FactoryAnswers HaltAnswers) :
    (mainStep interpreter (factoryKind containerId) state event).own.Known := by
  cases event with
  | sighup => exact known
  | exits pid => exact known_changeProcess known pid fun _ => rfl
  | terminate answers =>
    have after := (stopAll_known (fun name => shutdownProcess_known answers name)
      "Failed to shutdown some storlet daemons: " state.own known).final
    simp only [mainStep, terminateStep]
    split
    · exact after
    · exact known
  | turn turn =>
    simp only [mainStep, turnStep]
    split
    · exact known
    · split_ifs
      · exact known
      · cases turn with
        | listenFails | timesOut | receiveFails => exact known
        | message raw answers reply =>
          obtain ⟨result, final, handles, after⟩ := factory_handled interpreter containerId raw
            answers known
          simpa only [busEvent, handles, Option.map_some] using after
      · exact known

def MainState.SoundAndKnown (state : MainState FactoryState) : Prop :=
  state.Sound ∧ state.own.Known

theorem factory_contract_iff (interpreter : Interpreter) (containerId : Text)
    (events : List (MainEvent FactoryAnswers HaltAnswers)) :
    Along (mainStep interpreter (factoryKind containerId))
        (KeepsContract interpreter (factoryKind containerId)) { own := {} } events ↔
      Along (mainStep interpreter (factoryKind containerId)) (FactoryReturns interpreter)
        { own := {} } events := by
  have initial : ({ own := {} } : MainState FactoryState).SoundAndKnown :=
    ⟨sound_initial _, nofun, nofun⟩
  refine along_iff ?_ ?_ initial events
  · intro state event ⟨sound, known⟩ returns
    exact ⟨sound_step sound ((factoryReturns_iff known event).mpr returns),
      factory_known known event⟩
  · intro state event ⟨sound, known⟩
    exact (keepsContract_iff sound event).trans (factoryReturns_iff known event)

end Ending

end Storlets.Sbus
