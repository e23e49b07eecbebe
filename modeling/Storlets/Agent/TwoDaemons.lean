import Storlets.Agent.SameView
import Storlets.Agent.Serving

set_option autoImplicit false

/-!
# The Python and the Java daemon side by side

Both get the same commands, and the same tasks of theirs end.
-/

namespace Storlets.Sbus

open PyStr Runs Fallible

def factoryCommands : List Text :=
  ["SBUS_CMD_START_DAEMON", "SBUS_CMD_STOP_DAEMON", "SBUS_CMD_DAEMON_STATUS",
    "SBUS_CMD_STOP_DAEMONS"]

/-- The commands that `SBusClient` sends. -/
def clientCommands : List Text :=
  "SBUS_CMD_EXECUTE".toList :: "SBUS_CMD_PING".toList :: "SBUS_CMD_HALT".toList ::
    "SBUS_CMD_CANCEL".toList :: factoryCommands

/-- A message of the client. Other than for START_DAEMON, all of its values are strings. -/
structure ClientMessage (interpreter : Interpreter) where
  raw : RawMessage
  dtg : SBusDatagram
  received : receive interpreter raw = .ok dtg
  name : Text
  command : dtg.command = .str name
  sent : name ∈ clientCommands
  alone : name ≠ "SBUS_CMD_EXECUTE".toList → dtg.sfds.length = 1
  params : name ≠ "SBUS_CMD_START_DAEMON".toList → ∀ strParams fields, raw.params = .text strParams →
    loads interpreter strParams = .ok (.obj fields) →
      (∀ value, fields.lookup "params".toList = some value → StringMap value) ∧
        ∀ value, fields.lookup "task_id".toList = some value → ∃ s, value = .str s
  metadata : ∀ strMd items, raw.metadata = .text strMd →
    loads interpreter strMd = .ok (.arr items) → ∀ metadict ∈ items, PlainMetadata metadict
  decimal : ∀ sfd ∈ dtg.sfds, DecimalRange sfd

/-- What happens to both daemons. A daemon knows the task to cancel by an id of its own. -/
inductive TwinEvent (interpreter : Interpreter) where
  | command (python java : ClientMessage interpreter)
      (same : java.raw = python.raw ∨
        python.name = "SBUS_CMD_CANCEL".toList ∧ java.name = "SBUS_CMD_CANCEL".toList)
      (answers : DaemonAnswers) (uuid : Text)
  | completes (task : Nat) (returns : Bool)

structure Twins where
  python : DaemonState := {}
  pythonRuns : Bool := true
  java : SExecutionManager := {}
  javaRuns : Bool := true

section Machine

variable (interpreter : Interpreter) (poolSize : Int)

/-- A turn of the Python loop with a message, when the answer can be written. -/
def pythonTurn (raw : RawMessage) (answers : DaemonAnswers) (own : DaemonState) :
    Outcome × DaemonState :=
  match receive interpreter raw with
  | .error _ => (⟨none, false⟩, own)
  | .ok dtg =>
      match handled interpreter (daemonKind poolSize) raw answers own with
      -- the handler does not return
      | none => (⟨none, true⟩, own)
      | some (result, own) =>
          let resp := response interpreter StorletDaemon dtg result
          (⟨some resp.status, resp.iterable⟩, own)

def javaTurn (raw : RawMessage) (uuid : Text) (manager : SExecutionManager) :
    Outcome × SExecutionManager :=
  match raw.metadata, raw.params with
  | .text strMd, .text strParams =>
      match loads interpreter strMd, loads interpreter strParams with
      | .ok metadata, .ok cmdParams => processDatagram raw.fds metadata cmdParams uuid manager
      | _, _ => (⟨none, false⟩, manager)
  | _, _ => (⟨none, false⟩, manager)

def twinStep (twins : Twins) : TwinEvent interpreter → Twins
  | .command python java _ answers uuid =>
      let left := pythonTurn interpreter poolSize python.raw answers twins.python
      let right := javaTurn interpreter java.raw uuid twins.java
      { python := if twins.pythonRuns then left.2 else twins.python
        pythonRuns := twins.pythonRuns && left.1.goesOn
        java := if twins.javaRuns then right.2 else twins.java
        javaRuns := twins.javaRuns && right.1.goesOn }
  | .completes task returns =>
      { twins with
        python := (daemonKind poolSize).processExits task twins.python
        java := twins.java.runEnds task returns }

/-- Both answer with the same status, and go on or stop together. -/
def Agrees (twins : Twins) : TwinEvent interpreter → Prop
  | .command python java _ answers uuid =>
      twins.pythonRuns = twins.javaRuns ∧ (twins.pythonRuns →
        (pythonTurn interpreter poolSize python.raw answers twins.python).1 =
          (javaTurn interpreter java.raw uuid twins.java).1)
  | .completes _ _ => True

/-- The commands that mean the same to both. -/
def Common (twins : Twins) : TwinEvent interpreter → Prop
  | .command python _ _ answers _ => twins.pythonRuns →
      python.name = "SBUS_CMD_PING".toList ∨ python.name = "SBUS_CMD_HALT".toList ∨
        python.name = "SBUS_CMD_EXECUTE".toList ∧ answers.forkFails = false ∧
          answers.closeFails = false
  | .completes _ _ => True

end Machine

section Turns

variable {interpreter : Interpreter} {poolSize : Int}

/-! ## The Java side -/

/-- What the documents of a message are to Java. -/
theorem ClientMessage.documents (message : ClientMessage interpreter) : ∃ items fields,
    (fields.lookup "command".toList).getD .null = .str message.name ∧
    (fields.lookup "task_id".toList).getD .null = message.dtg.taskId ∧
    List.Forall₂ (fun pair sfd => fromFilenoAndMetadataDict interpreter pair.1 pair.2 = .ok sfd)
      (message.raw.fds.zip items) message.dtg.sfds ∧
    message.raw.fds.length = items.length ∧ (∀ metadict ∈ items, PlainMetadata metadict) ∧
    (message.name ≠ "SBUS_CMD_START_DAEMON".toList →
      (∀ value, fields.lookup "params".toList = some value → StringMap value) ∧
        ∀ value, fields.lookup "task_id".toList = some value → ∃ s, value = .str s) ∧
    ∀ uuid manager, javaTurn interpreter message.raw uuid manager =
      processDatagram message.raw.fds (.arr items) (.obj fields) uuid manager := by
  obtain ⟨strMd, strParams, metadata, cmdParams, items, asText, asText', loaded, loaded', gotCommand,
    _, gotTask, iterated, same, each, made⟩ := receive_ok message.received
  obtain ⟨_, first, rest, shape, _⟩ := buildDatagram_ok made
  rw [shape] at each
  have isList := metadata_isList iterated each
  subst isList
  rw [← shape] at each
  obtain ⟨fields, isDict, commanded⟩ := dictGet_ok gotCommand
  subst isDict
  refine ⟨items, fields, commanded.trans message.command, Except.ok.inj gotTask, each, same,
    message.metadata strMd items asText loaded, ?_, ?_⟩
  · exact fun other => message.params other strParams fields asText' loaded'
  · intro uuid manager
    unfold javaTurn
    rw [asText, asText']
    dsimp only
    rw [loaded, loaded']

theorem castString_of_text {fields : List (Text × Json)} {key : Text}
    (texts : ∀ value, fields.lookup key = some value → ∃ s, value = .str s) :
    ∃ text, castString ((fields.lookup key).getD .null) = .ok text := by
  cases found : fields.lookup key with
  | none => exact ⟨none, rfl⟩
  | some value =>
    obtain ⟨s, isText⟩ := texts value found
    exact ⟨some s, by rw [isText]; rfl⟩

theorem populateEntry_of_strings {fields : List (Text × Json)} {key : Text}
    (strings : ∀ value, fields.lookup key = some value → StringMap value) :
    ∃ map, populateEntry fields key = .ok map := by
  cases found : fields.lookup key with
  | none => exact ⟨[], by rw [populateEntry, found]⟩
  | some value =>
    obtain ⟨entry, isDict, texts⟩ := strings value found
    obtain ⟨map, populated, _⟩ := populateEntry_strings (isDict ▸ found) texts
    exact ⟨map, populated⟩

/-- A message of strings reaches `createStorletTask`. -/
theorem ClientMessage.accepted (message : ClientMessage interpreter)
    (strings : message.name ≠ "SBUS_CMD_START_DAEMON".toList) : ∃ files params taskId,
    List.Forall₂ Aligned files message.dtg.sfds ∧
    ∀ uuid manager, javaTurn interpreter message.raw uuid manager =
      match createStorletTask ⟨files, some message.name, params, taskId⟩ with
      | .ok (some task) => task.exec uuid manager
      | .ok none | .error _ => (⟨none, false⟩, manager) := by
  obtain ⟨items, fields, commanded, _, each, same, plain, texts, turns⟩ := message.documents
  obtain ⟨paramTexts, idText⟩ := texts strings
  obtain ⟨taskId, named⟩ := castString_of_text idText
  obtain ⟨params, populated⟩ := populateEntry_of_strings paramTexts
  obtain ⟨files, taken, aligned⟩ := fileMetadata_aligned same each plain
  have parsed := serverSBusInDatagram_ok commanded populated named same taken
  refine ⟨message.raw.fds.zip (files.map some), params, taskId, aligned, ?_⟩
  intro uuid manager
  rw [turns, processDatagram, parsed]
  rfl

/-- A command other than EXECUTE has one descriptor, to answer on. -/
theorem ClientMessage.answered (message : ClientMessage interpreter)
    (service : message.name ≠ "SBUS_CMD_EXECUTE".toList)
    {files : List (Nat × Option FileMetadata)} (aligned : List.Forall₂ Aligned files message.dtg.sfds)
    (command : Option Text) (params : HashMap) (taskId : Option Text) :
    ∃ sOut, serviceOut ⟨files, command, params, taskId⟩ = .ok (some sOut) := by
  obtain ⟨_, _, _, _, _, _, _, _, _, _, _, _, _, _, _, made⟩ := receive_ok message.received
  obtain ⟨_, first, rest, shape, isService⟩ := buildDatagram_ok made
  have single := message.alone service
  rw [shape] at aligned single
  have last : rest = [] := by simpa using single
  subst last
  cases aligned with
  | cons here later =>
    cases later
    obtain ⟨metadata, file, _, named⟩ := here.named isService
    subst file
    refine ⟨first.fileno, ?_⟩
    simp only [serviceOut, typed_some named, bind, Except.bind, pure, Except.pure, if_true]

theorem createStorletTask_eq (dtg : ServerSBusInDatagram) {name : Text}
    (named : dtg.command = some name) : createStorletTask dtg =
      if name = "SBUS_CMD_HALT".toList then createHaltTask dtg
      else if name = "SBUS_CMD_EXECUTE".toList then
        (createExecutionTask dtg).map fun task => some (.execution task)
      else if name = "SBUS_CMD_PING".toList then createPingTask dtg
      else if name = "SBUS_CMD_CANCEL".toList then createCancelTask dtg
      else .ok none := by
  unfold createStorletTask
  rw [named]
  rfl

theorem javaTurn_ping (message : ClientMessage interpreter)
    (ping : message.name = "SBUS_CMD_PING".toList) (uuid : Text) (manager : SExecutionManager) :
    (javaTurn interpreter message.raw uuid manager).1 = ⟨some true, true⟩ := by
  obtain ⟨files, params, taskId, aligned, turns⟩ := message.accepted (by rw [ping]; decide)
  obtain ⟨sOut, found⟩ :=
    message.answered (by rw [ping]; decide) aligned (some message.name) params taskId
  rw [turns, createStorletTask_eq _ rfl, ping, if_neg (by decide), if_neg (by decide), if_pos rfl,
    createPingTask, ← ping, found]
  rfl

theorem javaTurn_halt (message : ClientMessage interpreter)
    (halt : message.name = "SBUS_CMD_HALT".toList) (uuid : Text) (manager : SExecutionManager) :
    (javaTurn interpreter message.raw uuid manager).1 = ⟨some true, false⟩ := by
  obtain ⟨files, params, taskId, aligned, turns⟩ := message.accepted (by rw [halt]; decide)
  obtain ⟨sOut, found⟩ :=
    message.answered (by rw [halt]; decide) aligned (some message.name) params taskId
  rw [turns, createStorletTask_eq _ rfl, halt, if_pos rfl, createHaltTask, ← halt, found]
  rfl

theorem javaTurn_cancel (message : ClientMessage interpreter)
    (cancel : message.name = "SBUS_CMD_CANCEL".toList) (uuid : Text) (manager : SExecutionManager) :
    (javaTurn interpreter message.raw uuid manager).1.goesOn = true := by
  obtain ⟨files, params, taskId, aligned, turns⟩ := message.accepted (by rw [cancel]; decide)
  obtain ⟨sOut, found⟩ :=
    message.answered (by rw [cancel]; decide) aligned (some message.name) params taskId
  rw [turns, createStorletTask_eq _ rfl, cancel, if_neg (by decide), if_neg (by decide),
    if_neg (by decide), if_pos rfl, createCancelTask, ← cancel, found]
  change (STask.exec (.cancel sOut taskId) uuid manager).1.goesOn = true
  cases taskId <;> rfl

theorem javaTurn_execute (message : ClientMessage interpreter)
    (execute : message.name = "SBUS_CMD_EXECUTE".toList) (uuid : Text)
    (manager : SExecutionManager) :
    (javaTurn interpreter message.raw uuid manager).1 = ⟨some true, true⟩ := by
  obtain ⟨files, params, taskId, aligned, turns⟩ := message.accepted (by rw [execute]; decide)
  obtain ⟨_, _, _, _, _, _, _, _, _, _, _, _, _, _, _, made⟩ := receive_ok message.received
  have isExecute : Json.is message.dtg.command "SBUS_CMD_EXECUTE" := by
    rw [message.command, execute]
    rfl
  obtain ⟨service, input, output, outputMetadata, logger, extra, shape⟩ :=
    execute_shape made isExecute
  obtain ⟨task, _, collects, _⟩ := collectFiles_view aligned shape message.decimal params
  rw [turns, createStorletTask_eq _ rfl, execute, if_neg (by decide), if_pos rfl,
    createExecutionTask, collects]
  rfl

theorem serverSBusInDatagram_command {fds : List Nat} {metadata : Json}
    {fields : List (Text × Json)} {dtg : ServerSBusInDatagram} {name : Text}
    (parsed : serverSBusInDatagram fds metadata (.obj fields) = .ok dtg)
    (commanded : (fields.lookup "command".toList).getD .null = .str name) :
    dtg.command = some name := by
  obtain ⟨_, isDict, afterParams⟩ := bind_eq_ok parsed
  cases isDict
  obtain ⟨command, isText, afterCommand⟩ := bind_eq_ok afterParams
  rw [commanded] at isText
  cases isText
  obtain ⟨_, _, afterEntry⟩ := bind_eq_ok afterCommand
  obtain ⟨_, _, afterTask⟩ := bind_eq_ok afterEntry
  obtain ⟨_, _, afterItems⟩ := bind_eq_ok afterTask
  split at afterItems
  · cases afterItems
  · obtain ⟨_, _, made⟩ := bind_eq_ok afterItems
    cases made
    rfl

/-- A command without a task is not answered, and ends the loop. -/
theorem javaTurn_unsupported (message : ClientMessage interpreter)
    (unsupported : message.name ∈ factoryCommands) (uuid : Text) (manager : SExecutionManager) :
    (javaTurn interpreter message.raw uuid manager).1 = ⟨none, false⟩ := by
  obtain ⟨items, fields, commanded, _, _, _, _, _, turns⟩ := message.documents
  have foreign : ∀ name ∈ factoryCommands, name ≠ "SBUS_CMD_HALT".toList ∧
      name ≠ "SBUS_CMD_EXECUTE".toList ∧ name ≠ "SBUS_CMD_PING".toList ∧
        name ≠ "SBUS_CMD_CANCEL".toList := by decide
  obtain ⟨notHalt, notExecute, notPing, notCancel⟩ := foreign _ unsupported
  rw [turns, processDatagram]
  cases parsed : serverSBusInDatagram message.raw.fds (.arr items) (.obj fields) with
  | error exception => rfl
  | ok dtg =>
    have named := serverSBusInDatagram_command parsed commanded
    have noTask : createStorletTask dtg = .ok none := by
      rw [createStorletTask_eq dtg named, if_neg notHalt, if_neg notExecute, if_neg notPing,
        if_neg notCancel]
    change (match createStorletTask dtg with
      | .ok (some task) => task.exec uuid manager
      | .ok none | .error _ => (⟨none, false⟩, manager)).1 = _
    rw [noTask]

/-! ## The Python side -/

theorem getHandler_known (interpreter : Interpreter) (server : SBusServer) {name : Text} (known : name ∈ sbusCmd) :
    getHandler interpreter server (.str name) =
      if lower (name.drop sbusCmdPrefix.length) ∈ server.methods then
        .handler (lower (name.drop sbusCmdPrefix.length))
      else .valueError ("Command ".toList ++ name ++ " is not allowed for this server".toList) := by
  have noneUnknown : ¬ (name ∉ sbusCmd ∧ interpreter.moduleNames name = false) :=
    fun unknown => unknown.1 known
  simp only [getHandler, noneUnknown, if_false]

/-- A command with a method is answered with the method's response. -/
theorem pythonTurn_method (message : ClientMessage interpreter) {method : Text}
    (found : getHandler interpreter StorletDaemon (.str message.name) = .handler method)
    (answers : DaemonAnswers) (own : DaemonState) :
    pythonTurn interpreter poolSize message.raw answers own =
      match handleDaemon poolSize message.dtg method answers own with
      | none => (⟨none, true⟩, own)
      | some (result, own) =>
          (⟨some (response interpreter StorletDaemon message.dtg result).status,
            (response interpreter StorletDaemon message.dtg result).iterable⟩, own) := by
  have handles : handled interpreter (daemonKind poolSize) message.raw answers own =
      handleDaemon poolSize message.dtg method answers own := by
    unfold handled
    rw [message.received]
    dsimp only
    rw [message.command]
    dsimp only [daemonKind]
    rw [found]
  unfold pythonTurn
  rw [message.received]
  dsimp only
  rw [handles]

theorem response_method {dtg : SBusDatagram} {name method : Text} (command : dtg.command = .str name)
    (found : getHandler interpreter StorletDaemon (.str name) = .handler method) :
    response interpreter StorletDaemon dtg = fun
      | .returns resp | .raisesResponse resp => resp
      | .raisesValueError message => commandFailure message
      | .raises => commandFailure "Internal error" := by
  funext result
  cases result <;> rw [response, command, found]

theorem pythonTurn_ping (message : ClientMessage interpreter)
    (ping : message.name = "SBUS_CMD_PING".toList) (answers : DaemonAnswers) (own : DaemonState) :
    (pythonTurn interpreter poolSize message.raw answers own).1 = ⟨some true, true⟩ := by
  have found : getHandler interpreter StorletDaemon (.str message.name) =
      .handler "ping".toList := by
    rw [getHandler_known _ _ (by rw [ping]; decide), ping, if_pos (by decide)]
    rfl
  rw [pythonTurn_method message found, response_method message.command found]
  rfl

theorem pythonTurn_halt (message : ClientMessage interpreter)
    (halt : message.name = "SBUS_CMD_HALT".toList) (answers : DaemonAnswers) (own : DaemonState) :
    (pythonTurn interpreter poolSize message.raw answers own).1 = ⟨some true, false⟩ := by
  have found : getHandler interpreter StorletDaemon (.str message.name) =
      .handler "halt".toList := by
    rw [getHandler_known _ _ (by rw [halt]; decide), halt, if_pos (by decide)]
    rfl
  rw [pythonTurn_method message found, response_method message.command found]
  rfl

/-- The pool gets room, and the outcome is that of the fork. -/
theorem pythonTurn_execute (message : ClientMessage interpreter)
    (execute : message.name = "SBUS_CMD_EXECUTE".toList) (positive : 0 < poolSize)
    (answers : DaemonAnswers) (own : DaemonState) :
    (pythonTurn interpreter poolSize message.raw answers own).1 =
      ⟨some (!answers.forkFails && !answers.closeFails), true⟩ := by
  have found : getHandler interpreter StorletDaemon (.str message.name) =
      .handler "execute".toList := by
    rw [getHandler_known _ _ (by rw [execute]; decide), execute, if_pos (by decide)]
    rfl
  have room := waitWhile_ends answers.wait positive (Nat.le_refl (waitRounds own))
  rw [pythonTurn_method message found, response_method message.command found, handleDaemon,
    if_pos rfl, Sbus.execute]
  dsimp only
  rw [if_neg (by omega)]
  cases forks : answers.forkFails with
  | true => rfl
  | false => cases closes : answers.closeFails <;> rfl

theorem cancel_stops {taskId : Json} (hashable : taskId = .null ∨ ∃ s, taskId = .str s)
    (answers : DaemonAnswers) (own : DaemonState) :
    (cancel answers taskId own).1.saysStop = true := by
  rcases hashable with isNull | ⟨s, isText⟩
  · subst isNull
    rfl
  · subst isText
    exact cancelTask_stops answers own s

theorem pythonTurn_cancel (poolSize : Int) (message : ClientMessage interpreter)
    (cancel : message.name = "SBUS_CMD_CANCEL".toList) (answers : DaemonAnswers)
    (own : DaemonState) :
    (pythonTurn interpreter poolSize message.raw answers own).1.goesOn = false := by
  have found : getHandler interpreter StorletDaemon (.str message.name) =
      .handler "cancel".toList := by
    rw [getHandler_known _ _ (by rw [cancel]; decide), cancel, if_pos (by decide)]
    rfl
  obtain ⟨_, fields, _, gotTask, _, _, _, texts, _⟩ := message.documents
  obtain ⟨_, idText⟩ := texts (by rw [cancel]; decide)
  rw [pythonTurn_method message found, response_method message.command found, handleDaemon,
    if_neg (by decide), if_pos rfl]
  have hashable : message.dtg.taskId = .null ∨ ∃ s, message.dtg.taskId = .str s := by
    rw [← gotTask]
    cases given : fields.lookup "task_id".toList with
    | none => exact .inl rfl
    | some value => exact .inr (idText value given)
  have stops := cancel_stops hashable answers own
  dsimp only
  cases ended : (Sbus.cancel answers message.dtg.taskId own).1 with
  | returns resp | raisesResponse resp =>
    rw [ended] at stops
    simpa [HandlerResult.saysStop] using stops
  | raisesValueError | raises => rw [ended] at stops; cases stops

theorem pythonTurn_unsupported (message : ClientMessage interpreter)
    (unsupported : message.name ∈ factoryCommands) (answers : DaemonAnswers) (own : DaemonState) :
    (pythonTurn interpreter poolSize message.raw answers own).1 = ⟨some false, true⟩ := by
  have foreign : ∀ name ∈ factoryCommands, name ∈ sbusCmd ∧
      lower (name.drop sbusCmdPrefix.length) ∉ StorletDaemon.methods := by decide
  obtain ⟨known, foreign⟩ := foreign _ unsupported
  have found := getHandler_known interpreter StorletDaemon known
  rw [if_neg foreign] at found
  have handles : handled interpreter (daemonKind poolSize) message.raw answers own =
      some (.raises, own) := by
    unfold handled
    rw [message.received]
    dsimp only
    rw [message.command]
    dsimp only [daemonKind]
    rw [found]
  unfold pythonTurn
  rw [message.received]
  dsimp only
  rw [handles]
  dsimp only
  unfold response
  rw [message.command, found]
  rfl

theorem agrees_iff (positive : 0 < poolSize) {twins : Twins}
    (together : twins.pythonRuns = twins.javaRuns) (event : TwinEvent interpreter) :
    Agrees interpreter poolSize twins event ↔ Common interpreter twins event := by
  cases event with
  | completes task returns => exact Iff.rfl
  | command python java same answers uuid =>
    have sameName : java.name = python.name := by
      rcases same with same | ⟨pythonCancel, javaCancel⟩
      · have received := java.received
        rw [same, python.received] at received
        have sameDtg := Except.ok.inj received
        have command := java.command
        rw [← sameDtg, python.command] at command
        exact (Json.str.inj command).symm
      · rw [pythonCancel, javaCancel]
    refine (and_iff_right together).trans (imp_congr_right fun runs => ?_)
    rcases List.mem_cons.mp python.sent with execute | sent
    · rw [pythonTurn_execute python execute positive,
        javaTurn_execute java (sameName.trans execute)]
      constructor
      · intro agree
        have works : (!answers.forkFails && !answers.closeFails) = true := by simpa using agree
        exact .inr (.inr ⟨execute, by simpa using works⟩)
      · rintro (ping | halt | ⟨_, forks, closes⟩)
        · rw [execute] at ping
          exact absurd ping (by decide)
        · rw [execute] at halt
          exact absurd halt (by decide)
        · rw [forks, closes]
          rfl
    rcases List.mem_cons.mp sent with ping | sent
    · rw [pythonTurn_ping python ping, javaTurn_ping java (sameName.trans ping)]
      exact iff_of_true rfl (.inl ping)
    rcases List.mem_cons.mp sent with halt | sent
    · rw [pythonTurn_halt python halt, javaTurn_halt java (sameName.trans halt)]
      exact iff_of_true rfl (.inr (.inl halt))
    have neither : ∀ name ∈ "SBUS_CMD_CANCEL".toList :: factoryCommands,
        ¬ (name = "SBUS_CMD_PING".toList ∨ name = "SBUS_CMD_HALT".toList ∨
          name = "SBUS_CMD_EXECUTE".toList) := by decide
    have other : ¬ (python.name = "SBUS_CMD_PING".toList ∨ python.name = "SBUS_CMD_HALT".toList ∨
        python.name = "SBUS_CMD_EXECUTE".toList ∧ answers.forkFails = false ∧
          answers.closeFails = false) :=
      fun common => neither _ sent (common.imp_right (Or.imp_right And.left))
    refine iff_of_false ?_ other
    rcases List.mem_cons.mp sent with cancel | foreign
    · -- only the Python daemon stops
      have stops := pythonTurn_cancel poolSize python cancel answers twins.python
      have goesOn := javaTurn_cancel java (sameName.trans cancel) uuid twins.java
      intro agree
      rw [agree, goesOn] at stops
      cases stops
    · -- only the Python daemon answers
      rw [pythonTurn_unsupported python foreign,
        javaTurn_unsupported java (sameName.symm ▸ foreign)]
      simp

theorem common_step (positive : 0 < poolSize) {twins : Twins}
    (together : twins.pythonRuns = twins.javaRuns) {event : TwinEvent interpreter}
    (common : Common interpreter twins event) :
    (twinStep interpreter poolSize twins event).pythonRuns =
      (twinStep interpreter poolSize twins event).javaRuns := by
  have agrees := (agrees_iff positive together event).mpr common
  cases event with
  | completes task returns => exact together
  | command python java same answers uuid =>
    change (twins.pythonRuns && _) = (twins.javaRuns && _)
    rw [← together]
    cases runs : twins.pythonRuns with
    | false => rfl
    | true => rw [agrees.2 runs]

end Turns

/-- The daemons agree on a run exactly if, while they run, they get only commands in common. -/
theorem same_protocol_iff (interpreter : Interpreter) {poolSize : Int} (positive : 0 < poolSize)
    (events : List (TwinEvent interpreter)) :
    Along (twinStep interpreter poolSize) (Agrees interpreter poolSize) {} events ↔
      Along (twinStep interpreter poolSize) (Common interpreter) {} events := by
  apply along_iff
  · exact fun twins event together common => common_step positive together common
  · exact fun twins event together => agrees_iff positive together event
  · rfl

def cancelUnknown : RawMessage :=
  ⟨[3], .text ("[\x7b\"storlets\":\x7b\"type\":\"SBUS_FD_SERVICE_OUT\"\x7d".toList ++
      ",\"storage\":\x7b\x7d\x7d]".toList),
    .text ("\x7b\"command\":\"SBUS_CMD_CANCEL\"".toList ++ ",\"task_id\":\"a\"\x7d".toList)⟩

def cancelUnknownFields : List (Text × Json) :=
  [("command".toList, .str "SBUS_CMD_CANCEL".toList), ("task_id".toList, .str "a".toList)]

def serviceMetadict : Json :=
  .obj [("storlets".toList, .obj [("type".toList, .str "SBUS_FD_SERVICE_OUT".toList)]),
    ("storage".toList, .obj [])]

theorem serviceMetadict_plain : PlainMetadata serviceMetadict := by
  intro key named value got
  rcases List.mem_pair.mp named with isStorlets | isStorage
  · subst isStorlets
    cases got
    exact ⟨_, rfl, by simp⟩
  · subst isStorage
    cases got
    exact ⟨_, rfl, by simp⟩

set_option maxRecDepth 20000 in
theorem cancelUnknown_params {strParams : Text} (text : cancelUnknown.params = .text strParams) :
    loads python strParams = .ok (.obj cancelUnknownFields) := by
  cases text
  rfl

set_option maxRecDepth 20000 in
theorem cancelUnknown_metadata {strMd : Text} (text : cancelUnknown.metadata = .text strMd) :
    loads python strMd = .ok (.arr [serviceMetadict]) := by
  cases text
  rfl

def cancelUnknownDatagram : SBusDatagram where
  command := .str "SBUS_CMD_CANCEL".toList
  sfds := [⟨.str "SBUS_FD_SERVICE_OUT".toList, 3, [], .obj []⟩]
  params := .null
  taskId := .str "a".toList

set_option maxRecDepth 20000 in
theorem cancelUnknown_received :
    receive python cancelUnknown = .ok cancelUnknownDatagram := by
  rfl

def cancelUnknownMessage : ClientMessage python where
  raw := cancelUnknown
  dtg := cancelUnknownDatagram
  received := cancelUnknown_received
  name := "SBUS_CMD_CANCEL".toList
  command := rfl
  sent := by decide
  alone _ := rfl
  params _ strParams fields text loaded := by
    rw [cancelUnknown_params text] at loaded
    cases loaded
    constructor
    · intro value found
      cases found
    · intro value found
      cases found
      exact ⟨_, rfl⟩
  metadata strMd items text loaded metadict inside := by
    rw [cancelUnknown_metadata text] at loaded
    cases loaded
    rw [List.mem_singleton.mp inside]
    exact serviceMetadict_plain
  decimal sfd listed key _ s found := by
    rw [List.mem_singleton.mp listed] at found
    cases found

def cancelsUnknown : TwinEvent python :=
  .command cancelUnknownMessage cancelUnknownMessage (.inl rfl) (daemonAnswers "t") "t"

theorem cancel_unknown_parts :
    ¬ Along (twinStep python 1) (Agrees python 1) {} [cancelsUnknown] := by
  rw [same_protocol_iff python one_pos]
  intro ⟨common, _⟩
  have named := common rfl
  revert named
  decide

set_option maxRecDepth 20000 in
/-- A CANCEL of an unknown task stops one of the daemons. -/
theorem cancel_stops_one : ¬ ∀ (interpreter : Interpreter) (poolSize : Int), 0 < poolSize →
    ∀ events : List (TwinEvent interpreter),
      Along (twinStep interpreter poolSize) (Agrees interpreter poolSize) {} events := by
  intro always
  obtain ⟨agrees, _⟩ := always python 1 one_pos [cancelsUnknown]
  have same := agrees.2 rfl
  revert same
  decide

end Storlets.Sbus
