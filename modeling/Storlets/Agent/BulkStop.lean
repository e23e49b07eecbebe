import Storlets.Agent.Accounting
import Storlets.Sbus.Client

set_option autoImplicit false

/-!
# Stopping every daemon

The factory's two maps alone, under any answers of the operating system and of the daemons. A
pid is whatever a `Popen` gave, so that one may be given twice.
-/

namespace Storlets.Sbus.Bulk

open PyStr Effect Runs

/-- What is sent to a daemon to stop it. -/
inductive Contact where
  | kill (storletName : Text) (pid : Nat)
  | halt (storletName : Text) (pipe : Json)

structure Record where
  storletNameToPipeName : Dict Json := .empty
  storletNameToPid : Dict Nat := .empty
  contacts : List Contact := []

abbrev Action := Effect FactoryError Record

/-- `os.waitpid`: the pid and the status, or the number of an `OSError`. -/
abbrev Waited := Except Errno (Nat × Nat)

structure StartOutcome where
  /-- `str` of a value. -/
  str : Json → Text
  executable : Json → Bool
  running : Waited
  /-- The pid of the daemon; none where one of the two `Popen` raises an `OSError`. -/
  popen : Option Nat
  spawned : Waited
  ping : Nat → ClientAnswer

/-- The results of `os.kill` and `os.waitpid`. -/
structure KillOutcome where
  killFails : Bool
  waited : Waited

/-- The results of `SBusClient.halt` and `os.waitpid`. -/
structure HaltOutcome where
  halt : Except ClientException SBusResponse
  waited : Waited

namespace Record

variable (record : Record)

def assignPipe (name : Text) (udsPath : Json) : Record :=
  { record with storletNameToPipeName := record.storletNameToPipeName.set name udsPath }

def keepPid (name : Text) (pid : Nat) : Record :=
  { record with storletNameToPid := record.storletNameToPid.set name pid }

def withoutPid (name : Text) : Record :=
  { record with storletNameToPid := record.storletNameToPid.pop name }

def contacted (contact : Contact) : Record :=
  { record with contacts := record.contacts ++ [contact] }

end Record

/-! ## The start of a daemon -/

def getProcessStatusByPid (waited : Waited) (storletName : Text) : Except FactoryError Bool :=
  match waited with
  | .ok (pid, rc) => .ok (pid = 0 && rc = 0)
  | .error .echild | .error .esrch => .ok false
  | .error .eperm => .error (named "No permission to access the storlet daemon " storletName "")
  | .error .other => .error (.sdaemon "Unknown error")

def getProcessStatusByName (waited : Waited) (storletName : Text) : Action Bool := do
  let daemonPid ← look fun record => record.storletNameToPid.get? storletName
  match daemonPid with
  | some _ => lift (getProcessStatusByPid waited storletName)
  | none => pure false

/-- What START_DAEMON reads of its parameters. -/
structure StartValues where
  daemonLanguage : Json
  storletPath : Json
  storletName : Text
  poolSize : Json
  udsPath : Json
  logLevel : Json
  daemonLanguageVersion : Json

/-- A name that is no string ends in an exception before a pid is recorded for it. -/
def startValues (params : Json) : Option StartValues := do
  let storletName ← textItem params "storlet_name"
  let daemonLanguage ← (getItem params "daemon_language").toOption
  let storletPath ← (getItem params "storlet_path").toOption
  let poolSize ← (getItem params "pool_size").toOption
  let udsPath ← (getItem params "uds_path").toOption
  let logLevel ← (getItem params "log_level").toOption
  let daemonLanguageVersion ← (dictGet params "daemon_language_version").toOption
  return { daemonLanguage, storletPath, storletName, poolSize, udsPath, logLevel,
           daemonLanguageVersion }

def isText : Json → Bool
  | .str _ => true
  | _ => false

section Start

variable (containerId : Text)

/-- The path of the storlet is joined to the class path. -/
def getJvmArgs (str : Json → Text) (values : StartValues) : Except FactoryError (List Json) :=
  if isText values.storletPath then
    .ok [.str "/usr/bin/java".toList, .str "org.openstack.storlet.daemon.SDaemon".toList,
      .str values.storletName, values.udsPath, values.logLevel, .str (str values.poolSize),
      .str containerId]
  else .error .other

def getPythonArgs (str : Json → Text) (values : StartValues) : List Json :=
  let version :=
    if Json.truthy values.daemonLanguageVersion then str values.daemonLanguageVersion else ['3']
  [.str ("/usr/bin/python".toList ++ version),
    .str "/usr/local/libexec/storlets/storlets-daemon".toList, .str values.storletName,
    values.udsPath, values.logLevel, .str (str values.poolSize), .str containerId]

def pargs (str : Json → Text) (values : StartValues) : Except FactoryError (List Json) :=
  match values.daemonLanguage with
  | .str language =>
      if lower language = "java".toList then getJvmArgs containerId str values
      else if lower language = "python".toList then .ok (getPythonArgs containerId str values)
      else .error (named "Got unsupported daemon language: " language "")
  | _ => .error .other

def spawnSubprocess (outcome : StartOutcome) (storletName : Text) : List Json → Action Unit
  | [] => throw (.sdaemon "Invalid process arguments")
  | runtime :: rest =>
      if outcome.executable runtime = false then
        throw (.sdaemon "Requested runtime is unavailable")
      -- the arguments are joined for the log
      else if (runtime :: rest).all isText = false then throw .other
      else match outcome.popen with
        | none => throw (named "Unable to start the storlet daemon " storletName "")
        | some pid =>
            match getProcessStatusByPid outcome.spawned storletName with
            | .error (.sdaemon _) => throw (named "The storlet daemon " storletName " is terminated")
            | .error .other => throw .other
            | .ok false =>
                throw (named "The storlet daemon " storletName " is started but not responsive")
            | .ok true => do
                change fun record => record.keepPid storletName pid
                let ready ← lift
                  (waitForDaemonToInitialize outcome.ping numOfTriesPingingStartingDaemon)
                if ready then pure ()
                else throw (named "No response from the storlet daemon " storletName "")

def processStartDaemon (outcome : StartOutcome) (values : StartValues) : Action Bool := do
  let pargs ← lift (pargs containerId outcome.str values)
  change fun record => record.assignPipe values.storletName values.udsPath
  let running ← getProcessStatusByName outcome.running values.storletName
  if running then pure false
  else do
    spawnSubprocess outcome values.storletName pargs
    pure true

end Start

/-! ## The end of a daemon, and of all -/

/-- `storlet_name_to_pid.pop(storlet_name)`. -/
def popPid (storletName : Text) : Action Unit := do
  let recorded ← look fun record => record.storletNameToPid.get? storletName
  match recorded with
  | some _ => change fun record => record.withoutPid storletName
  | none => throw .other

def processKill (outcome : KillOutcome) (storletName : Text) : Action (Nat × Nat) := do
  let dmnPid ← look fun record => record.storletNameToPid.get? storletName
  match dmnPid with
  | none => throw (named "The storlet daemon " storletName " is not found")
  | some dmnPid => do
      change fun record => record.contacted (.kill storletName dmnPid)
      if outcome.killFails then
        throw (named "Failed to send kill signal to the storlet daemon " storletName "")
      else match outcome.waited with
        | .ok obtained => do
            popPid storletName
            pure obtained
        | .error _ =>
            throw (named "Failed to send kill signal to the storlet daemon " storletName "")

def shutdownProcess (outcome : HaltOutcome) (storletName : Text) : Action Unit := do
  let dmnPid ← look fun record => record.storletNameToPid.get? storletName
  match dmnPid with
  | none => throw (named "PID of the storlet daemon " storletName " is not found")
  | some _ => do
      let storletPipeName ← look fun record => record.storletNameToPipeName.get? storletName
      match storletPipeName with
      | none => throw .other
      | some pipe => do
          change fun record => record.contacted (.halt storletName pipe)
          match outcome.halt with
          | .error (.other _) => throw .other
          | .error (.client _) =>
              throw (named "Failed to send halt command to the storlet daemon " storletName "")
          | .ok resp =>
              if Json.truthy resp.status then
                match outcome.waited with
                | .ok _ => popPid storletName
                | .error _ => throw (named "Failed to wait the storlet daemon " storletName "")
              else throw (named "Failed to send halt to " storletName "")

/-- The names of the daemons that were stopped, and of those that were not. -/
def stopEach (stop : Text → Action Unit) (tryAll : Bool) (tried : List Text × List Text)
    (names : List Text) : Action (List Text × List Text) :=
  forEach (fun tried storletName =>
    (stop storletName >>= fun _ => pure (tried.1 ++ [storletName], tried.2)).handling fun
      | .sdaemon message =>
          if tryAll then pure (tried.1, tried.2 ++ [storletName]) else throw (.sdaemon message)
      | .other => throw .other) tried names

def someFailed (message : String) (failed : List Text) : FactoryError :=
  .sdaemon (message.toList ++ (", ".toList).intercalate failed)

/-- The loop over a copy of the names, and what comes after it. -/
def stopAll {α : Type} (stop : Text → Action Unit) (tryAll : Bool) (message : String)
    (result : List Text → α) : Action α := do
  let names ← look fun record => record.storletNameToPid.keys
  let tried ← stopEach stop tryAll ([], []) names
  if tried.2 = [] then pure (result tried.1) else throw (someFailed message tried.2)

def processKillAll (outcomes : Text → KillOutcome) (tryAll : Bool) : Action Unit :=
  stopAll (fun storletName => processKill (outcomes storletName) storletName >>= fun _ => pure ())
    tryAll "Failed to kill some storlet daemons: " fun _ => ()

def shutdownAllProcesses (outcomes : Text → HaltOutcome) (tryAll : Bool) :
    Action (List Text) :=
  stopAll (fun storletName => shutdownProcess (outcomes storletName) storletName)
    tryAll "Failed to shutdown some storlet daemons: " id

inductive Command where
  | startDaemon (outcome : StartOutcome) (params : Json)
  | stopDaemon (outcome : KillOutcome) (storletName : Text)
  | daemonStatus (waited : Waited) (storletName : Text)
  | stopDaemons (outcomes : Text → KillOutcome)
  | halt (outcomes : Text → HaltOutcome)

/-- What a command makes of the maps, whether it answers with a success or a failure. -/
def step (containerId : Text) (record : Record) : Command → Record
  | .startDaemon outcome params =>
      match startValues params with
      | some values => (processStartDaemon containerId outcome values record).2
      | none => record
  | .stopDaemon outcome storletName => (processKill outcome storletName record).2
  | .daemonStatus waited storletName => (getProcessStatusByName waited storletName record).2
  | .stopDaemons outcomes => (processKillAll outcomes true record).2
  | .halt outcomes => (shutdownAllProcesses outcomes true record).2

/-! ## Every daemon recorded has a pipe -/

def Record.Piped (record : Record) : Prop :=
  ∀ name ∈ record.storletNameToPid.keys, name ∈ record.storletNameToPipeName.keys

namespace Record

variable {record : Record}

theorem Piped.assignPipe (piped : record.Piped) (name : Text) (udsPath : Json) :
    (record.assignPipe name udsPath).Piped :=
  fun other inside => (PyDict.mem_keys_set _ name other udsPath).mpr (.inr (piped other inside))

theorem Piped.keepPid (piped : record.Piped) {name : Text}
    (pipe : name ∈ record.storletNameToPipeName.keys) (pid : Nat) :
    (record.keepPid name pid).Piped := by
  intro other inside
  rcases (PyDict.mem_keys_set _ name other pid).mp inside with rfl | before
  · exact pipe
  · exact piped other before

theorem Piped.withoutPid (piped : record.Piped) (name : Text) : (record.withoutPid name).Piped :=
  fun other inside => piped other ((PyDict.mem_keys_pop _ name other).mp inside).2

end Record

section Piped

theorem popPid_keeps (storletName : Text) : Keeps Record.Piped (popPid storletName) := by
  refine .bind (Keeps.look _) fun recorded => ?_
  cases recorded with
  | none => exact Keeps.throw _
  | some pid => exact .change fun record piped => piped.withoutPid storletName

theorem processKill_keeps (outcome : KillOutcome) (storletName : Text) :
    Keeps Record.Piped (processKill outcome storletName) := by
  refine .bind (Keeps.look _) fun dmnPid => ?_
  cases dmnPid with
  | none => exact Keeps.throw _
  | some pid =>
    refine Keeps.bind (Meets.change fun record piped => piped) fun _ => ?_
    refine .ite (fun _ => Keeps.throw _) fun _ => ?_
    cases outcome.waited with
    | error errno => exact Keeps.throw _
    | ok obtained => exact Keeps.bind (popPid_keeps storletName) fun _ => Keeps.pure _

theorem shutdownProcess_keeps (outcome : HaltOutcome) (storletName : Text) :
    Keeps Record.Piped (shutdownProcess outcome storletName) := by
  refine .bind (Keeps.look _) fun dmnPid => ?_
  cases dmnPid with
  | none => exact Keeps.throw _
  | some pid =>
    refine .bind (Keeps.look _) fun storletPipeName => ?_
    cases storletPipeName with
    | none => exact Keeps.throw _
    | some pipe =>
      refine Keeps.bind (Meets.change fun record piped => piped) fun _ => ?_
      rcases outcome.halt with (error | exception) | resp
      · exact Keeps.throw _
      · exact Keeps.throw _
      · refine .ite (fun _ => ?_) fun _ => Keeps.throw _
        cases outcome.waited with
        | error errno => exact Keeps.throw _
        | ok obtained => exact popPid_keeps storletName

theorem stopEach_keeps {stop : Text → Action Unit}
    (keeps : ∀ name, Keeps Record.Piped (stop name)) (tryAll : Bool)
    (tried : List Text × List Text) (names : List Text) :
    Keeps Record.Piped (stopEach stop tryAll tried names) := by
  refine Keeps.forEach (fun tried name _ => ?_) tried
  refine .handling Record.Piped (Keeps.bind (keeps name) fun _ => Keeps.pure _) fun exception => ?_
  cases exception with
  | sdaemon message => exact .ite (fun _ => Keeps.pure _) fun _ => Keeps.throw _
  | other => exact Keeps.throw _

theorem getProcessStatusByName_keeps {Inv : Record → Prop} (waited : Waited)
    (storletName : Text) : Keeps Inv (getProcessStatusByName waited storletName) := by
  refine .bind (Keeps.look _) fun daemonPid => ?_
  cases daemonPid with
  | none => exact Keeps.pure _
  | some pid => exact Keeps.lift _

/-- The pid is recorded after the pipe. -/
theorem spawnSubprocess_keeps (outcome : StartOutcome) (storletName : Text) (pargs : List Json) :
    Keeps (fun record => record.Piped ∧ storletName ∈ record.storletNameToPipeName.keys)
      (spawnSubprocess outcome storletName pargs) := by
  cases pargs with
  | nil => exact Keeps.throw _
  | cons runtime rest =>
    refine .ite (fun _ => Keeps.throw _) fun _ => .ite (fun _ => Keeps.throw _) fun _ => ?_
    cases outcome.popen with
    | none => exact Keeps.throw _
    | some pid =>
      dsimp only
      rcases getProcessStatusByPid outcome.spawned storletName with (message | _) | (_ | _)
      · exact Keeps.throw _
      · exact Keeps.throw _
      · exact Keeps.throw _
      · refine Keeps.bind (Meets.change ?_) fun _ => .bind (Keeps.lift _) fun ready =>
          .ite (fun _ => Keeps.pure _) fun _ => Keeps.throw _
        rintro record ⟨piped, pipe⟩
        exact ⟨piped.keepPid pipe pid, pipe⟩

theorem processStartDaemon_keeps (containerId : Text) (outcome : StartOutcome)
    (values : StartValues) : Keeps Record.Piped (processStartDaemon containerId outcome values) := by
  refine .bind (Keeps.lift _) fun pargs => ?_
  refine Meets.bind (fun _ record =>
      record.Piped ∧ values.storletName ∈ record.storletNameToPipeName.keys) (.change ?_) fun _ => ?_
  · intro record piped
    refine ⟨piped.assignPipe values.storletName values.udsPath, ?_⟩
    exact (PyDict.mem_keys_set _ values.storletName values.storletName _).mpr (.inl rfl)
  · refine Meets.weaken (Keeps.bind (getProcessStatusByName_keeps outcome.running _) fun running =>
      .ite (fun _ => Keeps.pure _) fun _ => ?_) (fun _ => id) (fun _ _ => And.left) fun _ => And.left
    exact Keeps.bind (spawnSubprocess_keeps outcome _ pargs) fun _ => Keeps.pure _

theorem stopAll_keeps {α : Type} {stop : Text → Action Unit}
    (keeps : ∀ name, Keeps Record.Piped (stop name)) (tryAll : Bool) (message : String)
    (result : List Text → α) : Keeps Record.Piped (stopAll stop tryAll message result) := by
  refine .bind (Keeps.look _) fun names => .bind (stopEach_keeps keeps tryAll _ names) fun tried => ?_
  exact .ite (fun _ => Keeps.pure _) fun _ => Keeps.throw _

theorem step_piped (containerId : Text) {record : Record} (piped : record.Piped)
    (command : Command) : (step containerId record command).Piped := by
  have kept {α : Type} {body : Action α} (keeps : Keeps Record.Piped body) :
      (body record).2.Piped := (keeps record piped).final
  cases command with
  | startDaemon outcome params =>
    dsimp only [step]
    cases startValues params with
    | none => exact piped
    | some values => exact kept (processStartDaemon_keeps containerId outcome values)
  | stopDaemon outcome storletName => exact kept (processKill_keeps outcome storletName)
  | daemonStatus waited storletName => exact kept (getProcessStatusByName_keeps waited storletName)
  | stopDaemons outcomes =>
    exact kept (stopAll_keeps (fun name =>
      Keeps.bind (processKill_keeps (outcomes name) name) fun _ => Keeps.pure _) _ _ _)
  | halt outcomes =>
    exact kept (stopAll_keeps (fun name => shutdownProcess_keeps (outcomes name) name) _ _ _)

end Piped

/-! ## What becomes of each daemon -/

def KillOutcome.works (outcome : KillOutcome) : Bool :=
  !outcome.killFails && outcome.waited.isOk

def HaltOutcome.works (outcome : HaltOutcome) : Bool :=
  (match outcome.halt with
    | .ok resp => Json.truthy resp.status
    | .error _ => false) && outcome.waited.isOk

/-- The daemon is contacted, and forgotten if that works. -/
structure Stops (stop : Action Unit) (contact : Contact) (works : Bool) (storletName : Text)
    (record : Record) : Prop where
  stopped : works = true →
    stop record = (.ok (), (record.contacted contact).withoutPid storletName)
  failed : works = false → ∃ message,
    stop record = (.error (.sdaemon message), record.contacted contact)

section Each

variable {record : Record} {storletName : Text} {pid : Nat}

theorem popPid_eq (recorded : record.storletNameToPid.get? storletName = some pid) :
    popPid storletName record = (.ok (), record.withoutPid storletName) := by
  simp only [popPid, bind_apply, look_apply, recorded, change_apply]

theorem processKill_stops (outcome : KillOutcome)
    (recorded : record.storletNameToPid.get? storletName = some pid) :
    Stops (processKill outcome storletName >>= fun _ => pure ()) (.kill storletName pid)
      outcome.works storletName record := by
  have after : (record.contacted (.kill storletName pid)).storletNameToPid.get? storletName =
    some pid := recorded
  obtain ⟨killFails, waited⟩ := outcome
  constructor
  · intro works
    cases killFails with
    | true => cases works
    | false =>
      rcases waited with errno | obtained
      · cases works
      · simp [processKill, bind_apply, recorded, popPid_eq after]
  · intro fails
    cases killFails with
    | true => exact ⟨_, by simp [processKill, bind_apply, recorded]; rfl⟩
    | false =>
      rcases waited with errno | obtained
      · exact ⟨_, by simp [processKill, bind_apply, recorded]; rfl⟩
      · cases fails

theorem shutdownProcess_stops (outcome : HaltOutcome) (handled : Handled outcome.halt) {pipe : Json}
    (recorded : record.storletNameToPid.get? storletName = some pid)
    (piped : record.storletNameToPipeName.get? storletName = some pipe) :
    Stops (shutdownProcess outcome storletName) (.halt storletName pipe) outcome.works storletName
      record := by
  have after : (record.contacted (.halt storletName pipe)).storletNameToPid.get? storletName =
    some pid := recorded
  obtain ⟨halt, waited⟩ := outcome
  rcases halt with (error | exception) | resp
  · exact ⟨nofun, fun _ => ⟨_, by simp [shutdownProcess, bind_apply, recorded, piped]; rfl⟩⟩
  · exact absurd rfl (handled exception)
  · cases agrees : Json.truthy resp.status with
    | false =>
      constructor
      · intro works
        simp [HaltOutcome.works, agrees] at works
      · exact fun _ => ⟨_, by simp [shutdownProcess, bind_apply, recorded, piped, agrees]; rfl⟩
    | true =>
      rcases waited with errno | obtained
      · constructor
        · intro works
          simp [HaltOutcome.works, Except.isOk, Except.toBool] at works
        · exact fun _ => ⟨_, by simp [shutdownProcess, bind_apply, recorded, piped, agrees]; rfl⟩
      · constructor
        · intro _
          simp [shutdownProcess, bind_apply, recorded, piped, agrees, popPid_eq after]
        · intro fails
          simp [HaltOutcome.works, agrees, Except.isOk, Except.toBool] at fails

end Each

/-! ## What becomes of all -/

section All

variable {stop : Text → Action Unit} {contact : Text → Nat → Contact} {works : Text → Bool}

/-- A round: the name is put to one of the two lists. -/
theorem stopEach_cons {record : Record} {storletName : Text} {pid : Nat}
    (stops : Stops (stop storletName) (contact storletName pid) (works storletName) storletName record)
    (stopped failed names : List Text) :
    stopEach stop true (stopped, failed) (storletName :: names) record =
      if works storletName then
        stopEach stop true (stopped ++ [storletName], failed) names
          ((record.contacted (contact storletName pid)).withoutPid storletName)
      else stopEach stop true (stopped, failed ++ [storletName]) names
        (record.contacted (contact storletName pid)) := by
  cases worked : works storletName with
  | true => simp [stopEach, forEach, bind_apply, handling, stops.stopped worked]
  | false =>
    obtain ⟨message, failed⟩ := stops.failed worked
    simp [stopEach, forEach, bind_apply, handling, failed]

theorem stopEach_eq {pipes : Dict Json} {items : List (Text × Nat)}
    (stops : ∀ item ∈ items, ∀ record : Record, record.storletNameToPipeName = pipes →
      record.storletNameToPid.get? item.1 = some item.2 →
      Stops (stop item.1) (contact item.1 item.2) (works item.1) item.1 record)
    (distinct : (items.map Prod.fst).Nodup) (record : Record)
    (same : record.storletNameToPipeName = pipes)
    (recorded : ∀ item ∈ items, record.storletNameToPid.get? item.1 = some item.2)
    (stopped failed : List Text) :
    ∃ final, stopEach stop true (stopped, failed) (items.map Prod.fst) record =
        (.ok (stopped ++ (items.map Prod.fst).filter works,
          failed ++ (items.map Prod.fst).filter fun name => !works name), final) ∧
      final.contacts = record.contacts ++ items.map (fun item => contact item.1 item.2) ∧
      final.storletNameToPid.items = record.storletNameToPid.items.filter fun item =>
        !(works item.1 && decide (item.1 ∈ items.map Prod.fst)) := by
  induction items generalizing record stopped failed with
  | nil => exact ⟨record, by simp [stopEach, forEach]⟩
  | cons item items ih =>
    obtain ⟨name, pid⟩ := item
    obtain ⟨fresh, distinct⟩ := List.nodup_cons.mp distinct
    have ih := ih fun item inside => stops item (List.mem_cons_of_mem _ inside)
    have here := recorded (name, pid) (List.mem_cons_self ..)
    have later : ∀ item ∈ items, record.storletNameToPid.get? item.1 = some item.2 :=
      fun item inside => recorded item (List.mem_cons_of_mem _ inside)
    rw [List.map_cons, stopEach_cons (stops (name, pid) (List.mem_cons_self ..) record same here)]
    cases worked : works name with
    | true =>
      have apart : ∀ item ∈ items, item.1 ≠ name := by
        intro item inside same
        exact fresh (List.mem_map.mpr ⟨item, inside, same⟩)
      have without : ∀ item ∈ items, ((record.contacted (contact name pid)).withoutPid
          name).storletNameToPid.get? item.1 = some item.2 := by
        intro item inside
        rw [Record.withoutPid, PyDict.get?_pop, if_neg (apart item inside)]
        exact later item inside
      obtain ⟨final, run, contacts, left⟩ := ih distinct
        ((record.contacted (contact name pid)).withoutPid name) same without
        (stopped ++ [name]) failed
      refine ⟨final, ?_, ?_, ?_⟩
      · simpa [worked] using run
      · simpa [Record.withoutPid, Record.contacted] using contacts
      · rw [left, Record.withoutPid, PyDict.pop, List.filter_filter]
        refine List.filter_congr fun item _ => ?_
        by_cases this : item.1 = name
        · simp [this, worked]
        · simp only [this, List.mem_cons, false_or, decide_false, Bool.not_false, Bool.and_true]
    | false =>
      obtain ⟨final, run, contacts, left⟩ := ih distinct
        (record.contacted (contact name pid)) same later stopped (failed ++ [name])
      refine ⟨final, ?_, ?_, ?_⟩
      · simpa [worked] using run
      · simpa [Record.contacted] using contacts
      · rw [left]
        refine List.filter_congr fun item _ => ?_
        by_cases this : item.1 = name
        · simp [this, worked]
        · simp only [this, List.mem_cons, false_or]

/-- Stopping all: each daemon recorded is contacted once, those that fail stay recorded as they
were, and an exception names exactly these. -/
structure Accounts {α : Type} (stopAll : Action α) (contact : Text → Nat → Contact)
    (works : Text → Bool) (message : String) (result : α) (record : Record) : Prop where
  contacts : (stopAll record).2.contacts =
    record.contacts ++ record.storletNameToPid.items.map fun item => contact item.1 item.2
  left : (stopAll record).2.storletNameToPid.items =
    record.storletNameToPid.items.filter fun item => !works item.1
  raised : (record.storletNameToPid.keys.filter fun name => !works name) ≠ [] →
    (stopAll record).1 =
      .error (someFailed message (record.storletNameToPid.keys.filter fun name => !works name))
  returned : (record.storletNameToPid.keys.filter fun name => !works name) = [] →
    (stopAll record).1 = .ok result

theorem stopAll_accounts {α : Type} {record : Record}
    (stops : ∀ item ∈ record.storletNameToPid.items, ∀ later : Record,
      later.storletNameToPipeName = record.storletNameToPipeName →
      later.storletNameToPid.get? item.1 = some item.2 →
      Stops (stop item.1) (contact item.1 item.2) (works item.1) item.1 later)
    (message : String) (result : List Text → α) :
    Accounts (stopAll stop true message result) contact works message
      (result record.storletNameToPid.keys) record := by
  have recorded : ∀ item ∈ record.storletNameToPid.items,
      record.storletNameToPid.get? item.1 = some item.2 :=
    fun item inside => (PyDict.mem_items _ item.1 item.2).mp inside
  obtain ⟨final, run, contacts, left⟩ := stopEach_eq stops record.storletNameToPid.distinct
    record rfl recorded [] []
  -- every name of the map has had its round
  have left : final.storletNameToPid.items =
      record.storletNameToPid.items.filter fun item => !works item.1 := by
    rw [left]
    refine List.filter_congr fun item inside => ?_
    simp only [List.mem_map_of_mem (f := Prod.fst) inside, decide_true, Bool.and_true]
  have ends : stopAll stop true message result record =
      (if (record.storletNameToPid.keys.filter fun name => !works name) = [] then
        .ok (result (record.storletNameToPid.keys.filter works))
      else .error (someFailed message (record.storletNameToPid.keys.filter fun name => !works name)),
      final) := by
    have tried : stopEach stop true ([], []) record.storletNameToPid.keys record =
      (.ok (record.storletNameToPid.keys.filter works,
        record.storletNameToPid.keys.filter fun name => !works name), final) := run
    simp only [stopAll, bind_apply, look_apply, tried]
    split <;> rfl
  refine ⟨?_, ?_, ?_, ?_⟩
  · rw [ends]
    exact contacts
  · rw [ends]
    exact left
  · intro failed
    rw [ends, if_neg failed]
  · intro clean
    have all : record.storletNameToPid.keys.filter works = record.storletNameToPid.keys :=
      List.filter_eq_self.mpr (by simpa using clean)
    rw [ends, if_pos clean, all]

/-- `process_kill_all` and `shutdown_all_processes` account for every daemon of any state the
commands lead to, whatever the system calls and the daemons answer. -/
theorem stop_all_accounts (containerId : Text) (commands : List Command)
    (kills : Text → KillOutcome) (halts : Text → HaltOutcome)
    (handled : ∀ storletName, Handled (halts storletName).halt) :
    let record := after (step containerId) {} commands
    Accounts (processKillAll kills true) .kill (fun name => (kills name).works)
      "Failed to kill some storlet daemons: " () record ∧
    Accounts (shutdownAllProcesses halts true)
      (fun name _ => .halt name ((record.storletNameToPipeName.get? name).getD .null))
      (fun name => (halts name).works) "Failed to shutdown some storlet daemons: "
      record.storletNameToPid.keys record := by
  intro record
  have piped : record.Piped := by
    have keeps (state : Record) (command : Command) (holds : state.Piped) :
      (step containerId state command).Piped := step_piped containerId holds command
    exact after_invariant keeps (fun _ inside => absurd inside List.not_mem_nil) commands
  constructor
  · refine stopAll_accounts (fun item _ later _ recorded => ?_) _ fun _ => ()
    exact processKill_stops (kills item.1) recorded
  · refine stopAll_accounts (fun item inside later same recorded => ?_) _ id
    have there : item.1 ∈ record.storletNameToPipeName.keys :=
      piped item.1 (List.mem_map_of_mem inside)
    obtain ⟨pipe, found⟩ := Option.isSome_iff_exists.mp ((PyDict.get?_isSome _ _).mpr there)
    rw [found]
    exact shutdownProcess_stops (halts item.1) (handled item.1) recorded (same ▸ found)

/-- Two daemons that are started, the second on the pid of the first. -/
def startedTwice : List Command :=
  let outcome : StartOutcome :=
    { str := fun _ => ['5'], executable := fun _ => true, running := .error .echild,
      popen := some 7, spawned := .ok (0, 0), ping := fun _ => .replied true "OK".toList }
  let params (storletName : String) : Json := .obj
    [("storlet_name".toList, .str storletName.toList), ("daemon_language".toList, .str "Python".toList),
      ("storlet_path".toList, .str "/home/swift".toList), ("pool_size".toList, .int 5),
      ("uds_path".toList, .str storletName.toList), ("log_level".toList, .str "DEBUG".toList)]
  [.startDaemon outcome (params "s.A"), .startDaemon outcome (params "s.B")]

/-- The kill of one of them fails, and so does the halt of the other. -/
theorem stop_all_of_two :
    let record := after (step "c".toList) {} startedTwice
    let kills := fun name : Text => KillOutcome.mk (name = "s.A".toList) (.ok (7, 9))
    let halts := fun name : Text => HaltOutcome.mk
      (if name = "s.A".toList then .ok ⟨.bool true, .null, .null⟩ else .error (.client .sendError))
      (.ok (7, 0))
    record.storletNameToPid.items = [("s.A".toList, 7), ("s.B".toList, 7)] ∧
      (∀ name, Handled (halts name).halt) ∧
      Accounts (processKillAll kills true) .kill (fun name => (kills name).works)
        "Failed to kill some storlet daemons: " () record ∧
      Accounts (shutdownAllProcesses halts true)
        (fun name _ => .halt name ((record.storletNameToPipeName.get? name).getD .null))
        (fun name => (halts name).works) "Failed to shutdown some storlet daemons: "
        record.storletNameToPid.keys record := by
  intro record kills halts
  have handled : ∀ name, Handled (halts name).halt := by
    intro name exception
    dsimp only [halts]
    split
    · nofun
    · nofun
  exact ⟨by decide, handled, stop_all_accounts "c".toList startedTwice kills halts handled⟩

end All

/-! ## The factory over its processes -/

/-- The maps of a factory whose processes are followed too. -/
structure Shows (state : FactoryState) (record : Record) : Prop where
  pids : record.storletNameToPid = state.storletNameToPid
  pipes : ∀ name, record.storletNameToPipeName.get? name =
    (state.storletNameToPipeName.get? name).map Json.str

theorem getProcessStatusByName_eq (waited : Waited) (name : Text) (record : Record) :
    getProcessStatusByName waited name record =
      (if (record.storletNameToPid.get? name).isSome then getProcessStatusByPid waited name
        else .ok false, record) := by
  rw [getProcessStatusByName, bind_apply, look_apply]
  cases record.storletNameToPid.get? name <;> rfl

/-- How far a start comes whose arguments are there. -/
theorem processStartDaemon_final {containerId : Text} {outcome : StartOutcome}
    {values : StartValues} {args : List Json} {running : Bool} {record : Record}
    (supported : pargs containerId outcome.str values = .ok args)
    (status : getProcessStatusByName outcome.running values.storletName
      (record.assignPipe values.storletName values.udsPath) =
        (.ok running, record.assignPipe values.storletName values.udsPath)) :
    (processStartDaemon containerId outcome values record).2 =
      if running then record.assignPipe values.storletName values.udsPath
      else (spawnSubprocess outcome values.storletName args
        (record.assignPipe values.storletName values.udsPath)).2 := by
  rw [processStartDaemon, supported, lift_ok_bind, bind_apply, change_apply]
  dsimp only
  rw [bind_of_ok status]
  cases running with
  | true => rfl
  | false =>
    rw [if_neg Bool.false_ne_true, if_neg Bool.false_ne_true, bind_apply]
    rcases spawnSubprocess outcome values.storletName args
      (record.assignPipe values.storletName values.udsPath) with ⟨exception | done, final⟩
    · rfl
    · rfl

/-- A start that comes as far as the pipe, and to a pid if one is given. -/
def startOf (pid : Option Nat) : StartOutcome :=
  { str := fun _ => [], executable := fun _ => true,
    running := if pid.isSome then .error .echild else .ok (0, 0), popen := pid,
    spawned := .ok (0, 0), ping := fun _ => .clientException }

def paramsOf (name udsPath : Text) : Json :=
  .obj [("storlet_name".toList, .str name), ("daemon_language".toList, .str "python".toList),
    ("storlet_path".toList, .null), ("pool_size".toList, .null), ("uds_path".toList, .str udsPath),
    ("log_level".toList, .str [])]

def valuesOf (name udsPath : Text) : StartValues :=
  { daemonLanguage := .str "python".toList, storletPath := .null, storletName := name,
    poolSize := .null, udsPath := .str udsPath, logLevel := .str [], daemonLanguageVersion := .null }

theorem step_startOf {containerId name udsPath : Text} {record : Record} {pid : Option Nat}
    {running : Bool} (status : getProcessStatusByName (startOf pid).running name
      (record.assignPipe name (.str udsPath)) =
        (.ok running, record.assignPipe name (.str udsPath))) :
    step containerId record (.startDaemon (startOf pid) (paramsOf name udsPath)) =
      if running then record.assignPipe name (.str udsPath)
      else (spawnSubprocess (startOf pid) name
        (getPythonArgs containerId (fun _ => []) (valuesOf name udsPath))
        (record.assignPipe name (.str udsPath))).2 := by
  have supported : pargs containerId (startOf pid).str (valuesOf name udsPath) =
    .ok (getPythonArgs containerId (fun _ => []) (valuesOf name udsPath)) := rfl
  show (processStartDaemon containerId (startOf pid) (valuesOf name udsPath) record).2 = _
  exact processStartDaemon_final supported status

theorem step_piped_only (containerId name udsPath : Text) (record : Record) :
    step containerId record (.startDaemon (startOf none) (paramsOf name udsPath)) =
      record.assignPipe name (.str udsPath) := by
  have status := getProcessStatusByName_eq (startOf none).running name
    (record.assignPipe name (.str udsPath))
  cases found : ((record.assignPipe name (.str udsPath)).storletNameToPid.get? name).isSome with
  | true =>
    rw [found, if_pos rfl] at status
    exact step_startOf status
  | false =>
    rw [found, if_neg Bool.false_ne_true] at status
    exact step_startOf status

theorem step_recorded (containerId name udsPath : Text) (record : Record) (pid : Nat) :
    step containerId record (.startDaemon (startOf (some pid)) (paramsOf name udsPath)) =
      (record.assignPipe name (.str udsPath)).keepPid name pid := by
  have status := getProcessStatusByName_eq (startOf (some pid)).running name
    (record.assignPipe name (.str udsPath))
  have dead : (if ((record.assignPipe name (.str udsPath)).storletNameToPid.get? name).isSome then
      getProcessStatusByPid (startOf (some pid)).running name else .ok false) = .ok false := by
    split <;> rfl
  exact step_startOf (status.trans (by rw [dead]))

section Shows

variable {state : FactoryState} {record : Record}

theorem Shows.congr {other : FactoryState} (shows : Shows state record)
    (same : state.ShowsAs other) : Shows other record := by
  refine ⟨shows.pids.trans same.pids.symm, fun name => ?_⟩
  rw [shows.pipes, same.pipes]

theorem Shows.assignPipe (shows : Shows state record) (name udsPath : Text) :
    Shows (state.assignPipe name udsPath) (record.assignPipe name (.str udsPath)) := by
  refine ⟨shows.pids, fun other => ?_⟩
  rw [Record.assignPipe, FactoryState.assignPipe, PyDict.get?_set, PyDict.get?_set]
  split
  · rfl
  · exact shows.pipes other

theorem Shows.keepPid (shows : Shows state record) (name : Text) (pid : Nat) :
    Shows (state.keepPid name pid) (record.keepPid name pid) := by
  refine ⟨?_, shows.pipes⟩
  rw [Record.keepPid, FactoryState.keepPid, shows.pids]

/-- A status leaves the maps as they are. -/
theorem Shows.status (shows : Shows state record) (containerId : Text) : ∃ command',
    Shows state (step containerId record command') := by
  refine ⟨.daemonStatus (.ok (0, 0)) [], ?_⟩
  have unchanged : step containerId record (.daemonStatus (.ok (0, 0)) []) = record :=
    congrArg Prod.snd (getProcessStatusByName_eq (.ok (0, 0)) [] record)
  rwa [unchanged]

theorem startedState_shown (containerId : Text) (shows : Shows state record)
    (answers : StartAnswers) (params : StartParams) : ∃ command',
      Shows (startedState containerId state answers params) (step containerId record command') := by
  have piped := shows.assignPipe params.storletName params.udsPath
  obtain ⟨command', pipedOnly⟩ : ∃ command',
      Shows (state.assignPipe params.storletName params.udsPath) (step containerId record command') :=
    ⟨_, step_piped_only containerId params.storletName params.udsPath record ▸ piped⟩
  -- a daemon that is not recorded is not in the maps
  have spawned : ∃ command', Shows ((state.assignPipe params.storletName
      params.udsPath).withDaemon params (!answers.exits)) (step containerId record command') :=
    ⟨command', pipedOnly.pids, pipedOnly.pipes⟩
  unfold startedState
  split
  · exact shows.status containerId
  split
  · unfold loggedState checkedState
    split
    · split
      · have kept := piped.keepPid params.storletName
          (state.assignPipe params.storletName params.udsPath).processes.length
        rw [← step_recorded containerId] at kept
        exact ⟨_, kept.pids, kept.pipes⟩
      · exact spawned
    · exact spawned
  · exact ⟨command', pipedOnly⟩

theorem processKill_shown (containerId : Text) (shows : Shows state record)
    (answers : StopAnswers) (storletName : Text) : ∃ command',
      Shows (Sbus.processKill answers storletName state).2 (step containerId record command') := by
  cases found : state.storletNameToPid.get? storletName with
  | none =>
    have unchanged : (Sbus.processKill answers storletName state).2 = state := by
      simp [Sbus.processKill, bind_apply, found]
    rw [unchanged]
    exact shows.status containerId
  | some pid =>
    cases failed : (answers.killFails || answers.waitFails) with
    | true =>
      obtain ⟨command', shown⟩ := shows.status containerId
      have maps : (Sbus.processKill answers storletName state).2.storletNameToPid =
          state.storletNameToPid ∧
          (Sbus.processKill answers storletName state).2.storletNameToPipeName =
            state.storletNameToPipeName := by
        cases kill : answers.killFails with
        | true => simp [Sbus.processKill, bind_apply, found, kill]
        | false =>
          have wait : answers.waitFails = true := by simpa [kill] using failed
          simp [Sbus.processKill, bind_apply, found, kill, wait, FactoryState.changeProcess]
      refine ⟨command', shown.pids.trans maps.1.symm, fun name => ?_⟩
      rw [maps.2]
      exact shown.pipes name
    | false =>
      obtain ⟨kill, wait⟩ : answers.killFails = false ∧ answers.waitFails = false := by
        simpa using failed
      have recorded : record.storletNameToPid.get? storletName = some pid := shows.pids ▸ found
      have stopped := (processKill_stops ⟨false, .ok (0, 0)⟩ recorded).stopped rfl
      have same : step containerId record (.stopDaemon ⟨false, .ok (0, 0)⟩ storletName) =
          (record.contacted (.kill storletName pid)).withoutPid storletName := by
        refine Eq.trans ?_ (congrArg Prod.snd stopped)
        rw [bind_apply, step]
        rcases processKill ⟨false, .ok (0, 0)⟩ storletName record with ⟨exception | done, final⟩
        · rfl
        · rfl
      refine ⟨.stopDaemon ⟨false, .ok (0, 0)⟩ storletName, ?_⟩
      rw [same]
      constructor
      · simp [Sbus.processKill, bind_apply, found, kill, wait, FactoryState.popPid,
          FactoryState.changeProcess, Record.withoutPid, Record.contacted, shows.pids]
      · simpa [Sbus.processKill, bind_apply, found, kill, wait, FactoryState.popPid,
          FactoryState.changeProcess, Record.withoutPid, Record.contacted] using shows.pipes

/-- What a command over the processes does to the maps, a command over the maps does. -/
theorem commandStep_shown (containerId : Text) (shows : Shows state record)
    (command : FactoryCommand) : ∃ command',
      Shows (commandStep containerId state command) (step containerId record command') := by
  cases command with
  | startDaemon answers params =>
    obtain ⟨command', shown⟩ := startedState_shown containerId shows answers params
    exact ⟨command', shown.congr (startDaemon_showsAs containerId state answers params)⟩
  | stopDaemon answers storletName => exact processKill_shown containerId shows answers storletName
  | daemonStatus error storletName =>
    obtain ⟨command', shown⟩ := shows.status containerId
    exact ⟨command', shown.congr (daemonStatus_showsAs state error storletName)⟩
  | exits pid =>
    obtain ⟨command', shown⟩ := shows.status containerId
    exact ⟨command', shown.pids, shown.pipes⟩

end Shows

/-- Every state the factory reaches with its processes shows maps that it reaches here. -/
theorem reached_shown (containerId : Text) (commands : List FactoryCommand) : ∃ commands',
    Shows (after (commandStep containerId) {} commands) (after (step containerId) {} commands') := by
  have run (state : FactoryState) (record : Record) (shows : Shows state record) :
      ∃ commands', Shows (after (commandStep containerId) state commands)
        (after (step containerId) record commands') := by
    induction commands generalizing state record with
    | nil => exact ⟨[], shows⟩
    | cons command rest ih =>
      obtain ⟨first, stepped⟩ := commandStep_shown containerId shows command
      obtain ⟨later, reached⟩ := ih _ _ stepped
      exact ⟨first :: later, reached⟩
  exact run {} {} ⟨rfl, fun _ => rfl⟩

end Storlets.Sbus.Bulk
