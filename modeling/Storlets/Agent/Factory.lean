import Storlets.Agent.Server
import Storlets.Library.Effects

set_option autoImplicit false

/-!
# The daemon factory

It keeps two maps from storlet names: to the pid of the storlet's daemon and to the pipe the
daemon listens to. What the operating system and the daemons answer is given with each command.
-/

namespace Storlets.Sbus

open PyStr Effect Runs

/-- A daemon process that was spawned. Its pid is its place among all of them. -/
structure DaemonProcess where
  name : Text
  udsPath : Text
  /-- It has not exited and was not sent SIGKILL. -/
  live : Bool := true
  reaped : Bool := false
  deriving DecidableEq

structure FactoryState where
  storletNameToPipeName : Dict Text := .empty
  storletNameToPid : Dict Nat := .empty
  processes : List DaemonProcess := []

inductive FactoryError where
  | sdaemon (message : Text)
  | other

abbrev FactoryAction := Effect FactoryError FactoryState

inductive Errno where
  | echild
  | esrch
  | eperm
  | other
  deriving DecidableEq

/-- What a request of an `SBusClient` ends with. -/
inductive ClientAnswer where
  | replied (status : Bool) (message : Text)
  | sendError
  | clientException
  | raises

/-- The answers to a START_DAEMON command. -/
structure StartAnswers where
  /-- `os.path.isfile` and `os.access` with `X_OK`. -/
  executable : Text → Bool
  statusError : Option Errno
  popenDaemon : Bool
  popenLogger : Bool
  /-- The new daemon exits before the factory has asked for its status. -/
  exits : Bool
  spawnedError : Option Errno
  ping : Nat → ClientAnswer

structure StopAnswers where
  killFails : Bool
  waitFails : Bool

structure StartParams where
  daemonLanguage : Text
  storletPath : Text
  storletName : Text
  poolSize : Text
  udsPath : Text
  logLevel : Text
  daemonLanguageVersion : Option Text

namespace FactoryState

variable (state : FactoryState)

def assignPipe (name udsPath : Text) : FactoryState :=
  { state with storletNameToPipeName := state.storletNameToPipeName.set name udsPath }

def keepPid (name : Text) (pid : Nat) : FactoryState :=
  { state with storletNameToPid := state.storletNameToPid.set name pid }

def popPid (name : Text) : FactoryState :=
  { state with storletNameToPid := state.storletNameToPid.pop name }

def spawn (process : DaemonProcess) : FactoryState :=
  { state with processes := state.processes ++ [process] }

def changeProcess (pid : Nat) (change : DaemonProcess → DaemonProcess) : FactoryState :=
  { state with processes := state.processes.modify pid change }

end FactoryState

/-! ## Processes -/

/-- `os.waitpid(pid, os.WNOHANG)`: whether the process still runs. -/
def waitpid (error : Option Errno) (pid : Nat) : FactoryAction (Except Errno Bool) :=
  match error with
  | some errno => pure (.error errno)
  | none => do
      let process ← look fun state => state.processes[pid]?
      match process with
      | some ⟨_, _, true, _⟩ => pure (.ok true)
      | some ⟨_, _, false, false⟩ => do
          change fun state => state.changeProcess pid fun process => { process with reaped := true }
          pure (.ok false)
      | some ⟨_, _, false, true⟩ | none => pure (.error .echild)

def getProcessStatusByPid (error : Option Errno) (daemonPid : Nat) (storletName : Text) :
    FactoryAction Bool := do
  let waited ← waitpid error daemonPid
  match waited with
  | .ok running => pure running
  | .error .echild | .error .esrch => pure false
  | .error .eperm =>
      throw (.sdaemon ("No permission to access the storlet daemon ".toList ++ storletName))
  | .error .other => throw (.sdaemon "Unknown error")

def getProcessStatusByName (error : Option Errno) (storletName : Text) : FactoryAction Bool := do
  let daemonPid ← look fun state => state.storletNameToPid.get? storletName
  match daemonPid with
  | some daemonPid => getProcessStatusByPid error daemonPid storletName
  | none => pure false

/-! ## Commands -/

/-- Pings a starting daemon; the tries are counted down. -/
def waitForDaemonToInitialize (ping : Nat → ClientAnswer) : Nat → Except FactoryError Bool
  | 0 => .ok false
  | tries + 1 =>
      match ping tries with
      | .replied true _ => .ok true
      | .replied false _ | .sendError => waitForDaemonToInitialize ping tries
      | .clientException => .ok false
      | .raises => .error .other

def numOfTriesPingingStartingDaemon : Nat := 10

section Commands

variable (containerId : Text)

def getJvmArgs (params : StartParams) : List Text :=
  ["/usr/bin/java", "org.openstack.storlet.daemon.SDaemon", params.storletName, params.udsPath,
    params.logLevel, params.poolSize, containerId]

def getPythonArgs (params : StartParams) : List Text :=
  let version := match params.daemonLanguageVersion with
    | none | some [] => ['3']
    | some version => version
  ["/usr/bin/python".toList ++ version, "/usr/local/libexec/storlets/storlets-daemon",
    params.storletName, params.udsPath, params.logLevel, params.poolSize, containerId]

def pargs (params : StartParams) : Option (List Text) :=
  if lower params.daemonLanguage = "java".toList then some (getJvmArgs containerId params)
  else if lower params.daemonLanguage = "python".toList then some (getPythonArgs containerId params)
  else none

def named (front : String) (storletName : Text) (back : String) : FactoryError :=
  .sdaemon (front.toList ++ storletName ++ back.toList)

/-- The part of `spawn_subprocess` after both processes have been started. -/
def checkSpawned (answers : StartAnswers) (storletName : Text) (pid : Nat) :
    FactoryAction Unit := do
  let status ← (getProcessStatusByPid answers.spawnedError pid storletName).handling fun
    | .sdaemon _ => throw (named "The storlet daemon " storletName " is terminated")
    | .other => throw .other
  if status then do
    change fun state => state.keepPid storletName pid
    let ready ← lift (waitForDaemonToInitialize answers.ping numOfTriesPingingStartingDaemon)
    if ready then pure ()
    else throw (named "No response from the storlet daemon " storletName "")
  else throw (named "The storlet daemon " storletName " is started but not responsive")

def spawnSubprocess (answers : StartAnswers) (pargs : List Text) (params : StartParams) :
    FactoryAction Unit :=
  if (pargs.head?.map answers.executable).getD false = false then
    throw (.sdaemon "Requested runtime is unavailable")
  else if answers.popenDaemon = false then
    throw (named "Unable to start the storlet daemon " params.storletName "")
  else do
    let pid ← look fun state => state.processes.length
    change fun state => state.spawn { name := params.storletName, udsPath := params.udsPath }
    when answers.exits
      (change fun state => state.changeProcess pid fun process => { process with live := false })
    -- the daemon is not stopped when its logger cannot be started
    if answers.popenLogger = false then
      throw (named "Unable to start the storlet daemon " params.storletName "")
    else checkSpawned answers params.storletName pid

/-- Whether a new process was started. -/
def processStartDaemon (answers : StartAnswers) (params : StartParams) : FactoryAction Bool :=
  match pargs containerId params with
  | none => throw (named "Got unsupported daemon language: " params.daemonLanguage "")
  | some pargs => do
      change fun state => state.assignPipe params.storletName params.udsPath
      let running ← getProcessStatusByName answers.statusError params.storletName
      if running then pure false
      else do
        spawnSubprocess answers pargs params
        pure true

def processKill (answers : StopAnswers) (storletName : Text) : FactoryAction Unit := do
  let daemonPid ← look fun state => state.storletNameToPid.get? storletName
  match daemonPid with
  | none => throw (named "The storlet daemon " storletName " is not found")
  | some pid =>
      if answers.killFails then
        throw (named "Failed to send kill signal to the storlet daemon " storletName "")
      else do
        change fun state => state.changeProcess pid fun process => { process with live := false }
        if answers.waitFails then
          throw (named "Failed to send kill signal to the storlet daemon " storletName "")
        else change fun state => state.popPid storletName

end Commands

/-! ## What a state shows of the daemons -/

namespace FactoryState

def alive (state : FactoryState) (pid : Nat) : Bool :=
  (state.processes[pid]?.map DaemonProcess.live).getD false

def Lives (state : FactoryState) (pid : Nat) (name udsPath : Text) : Prop :=
  ∃ process, state.processes[pid]? = some process ∧ process.live ∧ process.name = name ∧
    process.udsPath = udsPath

/-- Two states that differ at most in what was waited for. -/
structure ShowsAs (state other : FactoryState) : Prop where
  pipes : other.storletNameToPipeName = state.storletNameToPipeName
  pids : other.storletNameToPid = state.storletNameToPid
  names : other.processes.map DaemonProcess.name = state.processes.map DaemonProcess.name
  lives : ∀ pid name udsPath, other.Lives pid name udsPath ↔ state.Lives pid name udsPath

instance : Std.Refl ShowsAs where
  refl _ := ⟨rfl, rfl, rfl, fun _ _ _ => Iff.rfl⟩

instance : IsTrans FactoryState ShowsAs where
  trans _ _ _ first second :=
    ⟨second.pipes.trans first.pipes, second.pids.trans first.pids,
      second.names.trans first.names,
      fun pid name udsPath => (second.lives pid name udsPath).trans (first.lives pid name udsPath)⟩

variable {state : FactoryState}

theorem alive_iff {pid : Nat} : state.alive pid ↔ ∃ name udsPath, state.Lives pid name udsPath := by
  unfold alive Lives
  cases state.processes[pid]? with
  | none => simp
  | some process => simp

theorem ShowsAs.count {other : FactoryState} (shows : state.ShowsAs other) :
    other.processes.length = state.processes.length := by
  simpa using congrArg List.length shows.names

/-- What happens to a process leaves its name. -/
theorem names_changeProcess (pid : Nat) {change : DaemonProcess → DaemonProcess}
    (keeps : ∀ process, (change process).name = process.name) :
    (state.changeProcess pid change).processes.map DaemonProcess.name =
      state.processes.map DaemonProcess.name := by
  apply List.ext_getElem?
  intro i
  by_cases same : pid = i
  · subst same
    cases found : state.processes[pid]? <;> simp [changeProcess, found, keeps]
  · simp [changeProcess, same]

theorem ShowsAs.alive {other : FactoryState} (shows : state.ShowsAs other) (pid : Nat) :
    other.alive pid = state.alive pid := by
  rw [Bool.eq_iff_iff, alive_iff, alive_iff]
  simp only [shows.lives]

theorem lives_spawn {process : DaemonProcess} {pid : Nat} {name udsPath : Text} :
    (state.spawn process).Lives pid name udsPath ↔ state.Lives pid name udsPath ∨
      (pid = state.processes.length ∧ process.live ∧ process.name = name ∧
        process.udsPath = udsPath) := by
  unfold Lives spawn
  rcases Nat.lt_trichotomy pid state.processes.length with below | rfl | above
  · simp [List.getElem?_append_left below, Nat.ne_of_lt below]
  · simp
  · have out : (state.processes ++ [process])[pid]? = none := by
      rw [List.getElem?_eq_none_iff]
      simp
      omega
    simp [out, Nat.ne_of_gt above, List.getElem?_eq_none (Nat.le_of_lt above)]

theorem lives_reap {reaped pid : Nat} {name udsPath : Text} :
    (state.changeProcess reaped fun process => { process with reaped := true }).Lives pid name
      udsPath ↔ state.Lives pid name udsPath := by
  unfold Lives changeProcess
  by_cases same : reaped = pid
  · subst same
    cases found : state.processes[reaped]? <;> simp [found]
  · simp [same]

theorem lives_kill {killed pid : Nat} {name udsPath : Text} :
    (state.changeProcess killed fun process => { process with live := false }).Lives pid name
      udsPath ↔ pid ≠ killed ∧ state.Lives pid name udsPath := by
  unfold Lives changeProcess
  by_cases same : killed = pid
  · subst same
    cases found : state.processes[killed]? <;> simp [found]
  · simp [same, Ne.symm same]

theorem showsAs_reap (pid : Nat) :
    state.ShowsAs (state.changeProcess pid fun process => { process with reaped := true }) :=
  ⟨rfl, rfl, names_changeProcess pid fun _ => rfl, fun _ _ _ => lives_reap⟩

/-- What the factory makes of the answer of `waitpid`. -/
def takesForDead (state : FactoryState) (error : Option Errno) (pid : Nat) : Bool :=
  match error with
  | some .echild | some .esrch => true
  | some .eperm | some .other => false
  | none => !state.alive pid

def takesNameForDead (state : FactoryState) (error : Option Errno) (name : Text) : Bool :=
  match state.storletNameToPid.get? name with
  | some pid => state.takesForDead error pid
  | none => true

end FactoryState

/-! ## What the commands do -/

section Status

open FactoryState

variable (base : FactoryState) (error : Option Errno)

theorem getProcessStatusByPid_meets (pid : Nat) (storletName : Text) :
    Meets base.ShowsAs (getProcessStatusByPid error pid storletName)
      (fun running state => base.ShowsAs state ∧ running = !base.takesForDead error pid ∧
        (running → error = none))
      (fun state => base.ShowsAs state ∧ base.takesForDead error pid = false ∧ error ≠ none) := by
  cases error with
  | some errno =>
    cases errno with
    | echild | esrch => exact .pure fun _ shows => ⟨shows, rfl, nofun⟩
    | eperm | other => exact .throw fun _ shows => ⟨shows, rfl, nofun⟩
  | none =>
    intro state shows
    have same : base.takesForDead none pid = !state.alive pid := by
      rw [takesForDead, shows.alive]
    rw [same]
    show Shows _ _ (getProcessStatusByPid none pid storletName state)
    unfold alive
    cases found : state.processes[pid]? with
    | none =>
      simp only [getProcessStatusByPid, waitpid, bind_apply, look_apply, pure_apply, found]
      exact ⟨shows, rfl, nofun⟩
    | some process =>
      obtain ⟨name, udsPath, live, reaped⟩ := process
      cases live <;> cases reaped <;>
        simp only [getProcessStatusByPid, waitpid, bind_apply, look_apply, change_apply, pure_apply,
          found]
      · exact ⟨IsTrans.trans _ _ _ shows (showsAs_reap pid), rfl, nofun⟩
      · exact ⟨shows, rfl, nofun⟩
      · exact ⟨shows, rfl, fun _ => trivial⟩
      · exact ⟨shows, rfl, fun _ => trivial⟩

theorem getProcessStatusByName_meets (storletName : Text) :
    Meets base.ShowsAs (getProcessStatusByName error storletName)
      (fun running state => base.ShowsAs state ∧
        running = !base.takesNameForDead error storletName)
      (fun state => base.ShowsAs state ∧ base.takesNameForDead error storletName = false) := by
  refine .bind _ .look fun found => ?_
  rintro state ⟨shows, rfl⟩
  rw [shows.pids, takesNameForDead]
  cases recorded : base.storletNameToPid.get? storletName with
  | none => exact ⟨shows, rfl⟩
  | some pid =>
    have checked := getProcessStatusByPid_meets base error pid storletName
    exact checked.weaken (fun _ => id) (fun _ _ holds => ⟨holds.1, holds.2.1⟩)
      (fun _ holds => ⟨holds.1, holds.2.1⟩) state shows

end Status

section Start

open FactoryState

def FactoryState.withDaemon (state : FactoryState) (params : StartParams) (live : Bool) :
    FactoryState :=
  state.spawn { name := params.storletName, udsPath := params.udsPath, live }

/-- The state after the new daemon's status was asked for. -/
def checkedState (state : FactoryState) (answers : StartAnswers) (params : StartParams) :
    FactoryState :=
  if answers.spawnedError = none ∧ answers.exits = false then
    (state.withDaemon params true).keepPid params.storletName state.processes.length
  else state.withDaemon params (!answers.exits)

/-- The state after the new daemon was started. -/
def loggedState (state : FactoryState) (answers : StartAnswers) (params : StartParams) :
    FactoryState :=
  if answers.popenLogger then checkedState state answers params
  else state.withDaemon params (!answers.exits)

/-- A daemon is spawned. -/
def spawns (containerId : Text) (state : FactoryState) (answers : StartAnswers)
    (params : StartParams) : Bool :=
  state.takesNameForDead answers.statusError params.storletName &&
    (((pargs containerId params).bind List.head?).map answers.executable).getD false &&
    answers.popenDaemon

/-- The state after a START_DAEMON, but for what was waited for. -/
def startedState (containerId : Text) (state : FactoryState) (answers : StartAnswers)
    (params : StartParams) : FactoryState :=
  if pargs containerId params = none then state
  else if spawns containerId state answers params then
    loggedState (state.assignPipe params.storletName params.udsPath) answers params
  else state.assignPipe params.storletName params.udsPath

variable (base : FactoryState) (answers : StartAnswers)

theorem showsAs_kill_spawned {state : FactoryState} {params : StartParams}
    (shows : (base.withDaemon params true).ShowsAs state) :
    (base.withDaemon params false).ShowsAs
      (state.changeProcess base.processes.length fun process => { process with live := false }) := by
  refine ⟨shows.pipes, shows.pids, ?_, fun pid name udsPath => ?_⟩
  · refine (names_changeProcess _ ?_).trans (shows.names.trans ?_)
    · exact fun _ => rfl
    · simp [withDaemon, spawn]
  · rw [lives_kill, shows.lives, withDaemon, withDaemon, lives_spawn, lives_spawn]
    constructor
    · rintro ⟨other, before | ⟨same, -⟩⟩
      · exact .inl before
      · exact absurd same other
    · rintro (before | ⟨-, impossible, -⟩)
      · refine ⟨?_, .inl before⟩
        obtain ⟨found, there, -⟩ := before
        exact Nat.ne_of_lt (List.getElem?_eq_some_iff.mp there).1
      · cases impossible

theorem showsAs_keepPid {state other : FactoryState} (shows : state.ShowsAs other) (name : Text)
    (pid : Nat) : (state.keepPid name pid).ShowsAs (other.keepPid name pid) := by
  refine ⟨shows.pipes, ?_, shows.names, shows.lives⟩
  simp only [keepPid, shows.pids]

/-- What the status of the new daemon is taken for. -/
theorem statusOfSpawned_meets (params : StartParams) (front back : String) :
    Meets (base.withDaemon params (!answers.exits)).ShowsAs
      ((getProcessStatusByPid answers.spawnedError base.processes.length
        params.storletName).handling fun
          | .sdaemon _ => throw (named front params.storletName back)
          | .other => throw .other)
      (fun status state => (base.withDaemon params (!answers.exits)).ShowsAs state ∧
        (status ↔ answers.spawnedError = none ∧ answers.exits = false))
      (fun state => (base.withDaemon params (!answers.exits)).ShowsAs state ∧
        answers.spawnedError ≠ none) := by
  have alive : (base.withDaemon params (!answers.exits)).alive base.processes.length =
      !answers.exits := by
    simp [withDaemon, FactoryState.alive, spawn]
  refine .handling _ ((getProcessStatusByPid_meets _ answers.spawnedError base.processes.length
    params.storletName).weaken (fun _ => id) ?_ fun _ => id) ?_
  · rintro status state ⟨shows, rfl, clean⟩
    refine ⟨shows, fun running => ?_, ?_⟩
    · have same := clean running
      rw [same, takesForDead, alive] at running
      exact ⟨same, by simpa using running⟩
    · rintro ⟨same, stays⟩
      rw [same, takesForDead, alive, stays]
      rfl
  · intro exception
    cases exception with
    | sdaemon | other => exact .throw fun _ holds => ⟨holds.1, holds.2.2⟩

/-- The new daemon is recorded exactly when it is there and nothing goes wrong with its status. -/
theorem checkSpawned_meets (params : StartParams) :
    Meets (base.withDaemon params (!answers.exits)).ShowsAs
      (checkSpawned answers params.storletName base.processes.length)
      (fun _ => (checkedState base answers params).ShowsAs)
      (checkedState base answers params).ShowsAs := by
  refine .bind _ ((statusOfSpawned_meets base answers params _ _).weaken (fun _ => id)
    (fun _ _ => id) ?_) fun status => .ite (fun running => ?_) fun stopped => ?_
  · rintro state ⟨shows, failed⟩
    rwa [checkedState, if_neg fun both => failed both.1]
  · refine .bind (fun _ => (checkedState base answers params).ShowsAs) (.change ?_) fun _ => ?_
    · rintro state ⟨shows, asked⟩
      have both := asked.mp running
      rw [both.2] at shows
      rw [checkedState, if_pos both]
      exact showsAs_keepPid shows _ _
    · exact .bind _ (Keeps.lift _) fun ready => .ite (fun _ => .pure fun _ => id) fun _ =>
        .throw fun _ => id
  · refine .throw ?_
    rintro state ⟨shows, asked⟩
    rwa [checkedState, if_neg fun both => stopped (asked.mpr both)]

theorem showsAs_withDaemon {state other : FactoryState} (shows : state.ShowsAs other)
    (params : StartParams) (live : Bool) :
    (state.withDaemon params live).ShowsAs (other.withDaemon params live) := by
  refine ⟨shows.pipes, shows.pids, ?_, fun pid name udsPath => ?_⟩
  · simpa [withDaemon, spawn] using shows.names
  · rw [withDaemon, withDaemon, lives_spawn, lives_spawn, shows.lives, shows.count]

/-- The state after the factory has gone to spawn a daemon. -/
def spawnedState (state : FactoryState) (answers : StartAnswers) (pargs : List Text)
    (params : StartParams) : FactoryState :=
  if (pargs.head?.map answers.executable).getD false ∧ answers.popenDaemon then
    loggedState state answers params
  else state

theorem spawnSubprocess_meets (pargs : List Text) (params : StartParams) :
    Meets base.ShowsAs (spawnSubprocess answers pargs params)
      (fun _ => (spawnedState base answers pargs params).ShowsAs)
      (spawnedState base answers pargs params).ShowsAs := by
  unfold spawnSubprocess spawnedState
  refine .ite (fun missing => .throw fun _ shows => ?_) fun found => .ite (fun fails =>
    .throw fun _ shows => ?_) fun started => ?_
  · rwa [if_neg (by simp [missing])]
  · rwa [if_neg (by simp [fails])]
  rw [if_pos ⟨Bool.of_not_eq_false found, Bool.of_not_eq_false started⟩, loggedState]
  refine .bind _ .look fun pid => .bind
    (fun _ state => pid = base.processes.length ∧ (base.withDaemon params true).ShowsAs state)
    (.change ?_) fun _ => ?_
  · rintro state ⟨shows, rfl⟩
    exact ⟨shows.count, showsAs_withDaemon shows params true⟩
  refine .bind (fun _ state => pid = base.processes.length ∧
    (base.withDaemon params (!answers.exits)).ShowsAs state) ?_ fun _ => ?_
  · cases answers.exits with
    | true =>
      refine .change ?_
      rintro state ⟨rfl, shows⟩
      exact ⟨rfl, showsAs_kill_spawned base shows⟩
    | false => exact .pure fun _ => id
  cases logger : answers.popenLogger with
  | false => exact .throw fun _ holds => holds.2
  | true =>
    rintro state ⟨rfl, shows⟩
    exact checkSpawned_meets base answers params state shows

/-- What a START_DAEMON does to the maps and the daemons. -/
theorem processStartDaemon_meets (containerId : Text) (params : StartParams) :
    Meets base.ShowsAs (processStartDaemon containerId answers params)
      (fun _ => (startedState containerId base answers params).ShowsAs)
      (startedState containerId base answers params).ShowsAs := by
  unfold processStartDaemon startedState spawns
  cases supported : pargs containerId params with
  | none => exact .throw fun _ => id
  | some pargs =>
    have same : (base.assignPipe params.storletName params.udsPath).takesNameForDead
        answers.statusError params.storletName =
          base.takesNameForDead answers.statusError params.storletName := rfl
    simp only [reduceCtorEq, if_false, Option.bind_some, Bool.and_eq_true, ← same]
    generalize takes : (base.assignPipe params.storletName params.udsPath).takesNameForDead
      answers.statusError params.storletName = dead
    refine .bind (fun _ => (base.assignPipe params.storletName params.udsPath).ShowsAs)
      (.change fun state shows => ?_) fun _ => ?_
    · exact ⟨by simp only [assignPipe, shows.pipes], shows.pids, shows.names, shows.lives⟩
    have asked := getProcessStatusByName_meets
      (base.assignPipe params.storletName params.udsPath) answers.statusError params.storletName
    rw [takes] at asked
    refine .bind _ (asked.weaken (fun _ => id) (fun _ _ => id) ?_) fun running =>
      .ite (fun runs => .pure ?_) fun stopped => ?_
    · rintro state ⟨shows, rfl⟩
      rwa [if_neg (by simp)]
    · rintro state ⟨shows, rfl⟩
      have alive : dead = false := by simpa using runs
      rwa [if_neg (by simp [alive])]
    · rintro state ⟨shows, rfl⟩
      have isDead : dead = true := by simpa using stopped
      have spawned := spawnSubprocess_meets
        (base.assignPipe params.storletName params.udsPath) answers pargs params
      rw [spawnedState] at spawned
      simp only [isDead, true_and]
      have whole : Meets (base.assignPipe params.storletName params.udsPath).ShowsAs
          (spawnSubprocess answers pargs params >>= fun _ => (pure true : FactoryAction Bool))
          (fun _ => _) _ := .bind _ spawned fun _ => .pure fun _ => id
      exact whole state shows

end Start

end Storlets.Sbus
