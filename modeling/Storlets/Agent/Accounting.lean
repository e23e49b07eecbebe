import Storlets.Agent.Factory

set_option autoImplicit false

/-!
# The daemons the factory knows of

A daemon that runs should be the one recorded for its storlet, and listen to the pipe recorded
for it.
-/

namespace Storlets.Sbus

open PyStr Effect Runs FactoryState

inductive FactoryCommand where
  | startDaemon (answers : StartAnswers) (params : StartParams)
  | stopDaemon (answers : StopAnswers) (storletName : Text)
  | daemonStatus (error : Option Errno) (storletName : Text)
  /-- No command: a daemon exits. -/
  | exits (pid : Nat)

def commandStep (containerId : Text) (state : FactoryState) : FactoryCommand → FactoryState
  | .startDaemon answers params => (processStartDaemon containerId answers params state).2
  | .stopDaemon answers storletName => (processKill answers storletName state).2
  | .daemonStatus error storletName => (getProcessStatusByName error storletName state).2
  | .exits pid => state.changeProcess pid fun process => { process with live := false }

namespace FactoryState

def Accounted (state : FactoryState) : Prop :=
  ∀ pid name udsPath, state.Lives pid name udsPath →
    state.storletNameToPid.get? name = some pid ∧
      state.storletNameToPipeName.get? name = some udsPath

/-- What is recorded are processes that were spawned for the storlet, with a pipe. -/
structure Known (state : FactoryState) : Prop where
  names : ∀ name pid, state.storletNameToPid.get? name = some pid →
    (state.processes.map DaemonProcess.name)[pid]? = some name
  pipes : ∀ name pid, state.storletNameToPid.get? name = some pid →
    (state.storletNameToPipeName.get? name).isSome

def Sound (state : FactoryState) : Prop := state.Accounted ∧ state.Known

/-- At most one daemon runs for a storlet. -/
theorem Accounted.unique {state : FactoryState} (accounted : state.Accounted) {pid other : Nat}
    {name udsPath otherPath : Text} (here : state.Lives pid name udsPath)
    (there : state.Lives other name otherPath) : pid = other :=
  Option.some.inj ((accounted pid name udsPath here).1.symm.trans
    (accounted other name otherPath there).1)

end FactoryState

section Steps

variable {state other : FactoryState}

theorem accounted_congr (shows : state.ShowsAs other) : other.Accounted ↔ state.Accounted := by
  unfold Accounted
  simp only [shows.lives, shows.pids, shows.pipes]

theorem known_congr (shows : state.ShowsAs other) (known : state.Known) : other.Known := by
  obtain ⟨names, pipes⟩ := known
  constructor
  · rwa [shows.names, shows.pids]
  · rwa [shows.pids, shows.pipes]

/-- No storlet that runs is given another pipe. -/
def KeepsPipe (state : FactoryState) (params : StartParams) : Prop :=
  ∀ pid udsPath, state.Lives pid params.storletName udsPath → udsPath = params.udsPath

theorem accounted_assignPipe (accounted : state.Accounted) (params : StartParams) :
    (state.assignPipe params.storletName params.udsPath).Accounted ↔ KeepsPipe state params := by
  constructor
  · intro after pid udsPath lives
    have pipe := (after pid params.storletName udsPath lives).2
    rw [assignPipe, PyDict.get?_set, if_pos rfl] at pipe
    exact (Option.some.inj pipe).symm
  · intro keeps pid name udsPath lives
    obtain ⟨recorded, pipe⟩ := accounted pid name udsPath lives
    refine ⟨recorded, ?_⟩
    rw [assignPipe, PyDict.get?_set]
    split
    · next same => rw [keeps pid udsPath (same ▸ lives)]
    · exact pipe

theorem known_assignPipe (known : state.Known) (name udsPath : Text) :
    (state.assignPipe name udsPath).Known := by
  refine ⟨known.names, fun other pid recorded => ?_⟩
  rw [assignPipe, PyDict.get?_set]
  split
  · rfl
  · exact known.pipes other pid recorded

theorem known_withDaemon (known : state.Known) (params : StartParams) (live : Bool) :
    (state.withDaemon params live).Known := by
  refine ⟨fun name pid recorded => ?_, known.pipes⟩
  have there := known.names name pid recorded
  have below := (List.getElem?_eq_some_iff.mp there).1
  rw [withDaemon, spawn, List.map_append, List.getElem?_append_left below]
  exact there

theorem recorded_lt (known : state.Known) {name : Text} {pid : Nat}
    (recorded : state.storletNameToPid.get? name = some pid) : pid < state.processes.length := by
  simpa using (List.getElem?_eq_some_iff.mp (known.names name pid recorded)).1

theorem lives_lt {pid : Nat} {name udsPath : Text} (lives : state.Lives pid name udsPath) :
    pid < state.processes.length := by
  obtain ⟨process, there, -⟩ := lives
  exact (List.getElem?_eq_some_iff.mp there).1

theorem lives_withDaemon {params : StartParams} {live : Bool} {pid : Nat} {name udsPath : Text} :
    (state.withDaemon params live).Lives pid name udsPath ↔ state.Lives pid name udsPath ∨
      (pid = state.processes.length ∧ live ∧ params.storletName = name ∧
        params.udsPath = udsPath) := lives_spawn

/-- A daemon that runs and was not recorded is not accounted for. -/
theorem not_accounted_withDaemon (known : state.Known) (params : StartParams) :
    ¬ (state.withDaemon params true).Accounted := by
  intro accounted
  have lives : (state.withDaemon params true).Lives state.processes.length params.storletName
      params.udsPath := lives_withDaemon.mpr (.inr ⟨rfl, rfl, rfl, rfl⟩)
  exact absurd (recorded_lt known (accounted _ _ _ lives).1) (Nat.lt_irrefl _)

theorem accounted_withDead (params : StartParams) :
    (state.withDaemon params false).Accounted ↔ state.Accounted := by
  unfold Accounted
  simp only [lives_withDaemon, Bool.false_eq_true, false_and, and_false, or_false]
  exact Iff.rfl

/-- Recording the new daemon loses the one that was recorded. -/
theorem accounted_keepPid {params : StartParams}
    (others : ∀ pid name udsPath, name ≠ params.storletName → state.Lives pid name udsPath →
      state.storletNameToPid.get? name = some pid ∧
        state.storletNameToPipeName.get? name = some udsPath)
    (pipe : state.storletNameToPipeName.get? params.storletName = some params.udsPath) :
    ((state.withDaemon params true).keepPid params.storletName state.processes.length).Accounted ↔
      ∀ pid udsPath, ¬ state.Lives pid params.storletName udsPath := by
  constructor
  · intro accounted pid udsPath lives
    have recorded := (accounted pid params.storletName udsPath
      (lives_withDaemon.mpr (.inl lives))).1
    rw [keepPid, PyDict.get?_set, if_pos rfl] at recorded
    exact absurd (lives_lt lives) (by rw [← Option.some.inj recorded]; exact Nat.lt_irrefl _)
  · intro none pid name udsPath lives
    rw [keepPid, PyDict.get?_set]
    rcases lives_withDaemon.mp lives with before | ⟨rfl, -, rfl, rfl⟩
    · have differs : name ≠ params.storletName := by
        rintro rfl
        exact none pid udsPath before
      rw [if_neg differs]
      exact others pid name udsPath differs before
    · exact ⟨if_pos rfl, pipe⟩

end Steps

section Commands

variable {containerId : Text} {state : FactoryState}

/-- Unless the new daemon is gone, it gets its logger, its status is known and no other daemon of
the storlet runs. -/
def SafeSpawn (state : FactoryState) (answers : StartAnswers) (params : StartParams) : Prop :=
  answers.exits ∨ (answers.popenLogger ∧ answers.spawnedError = none ∧
    ∀ pid udsPath, ¬ state.Lives pid params.storletName udsPath)

def CommandAccounts (containerId : Text) (state : FactoryState) : FactoryCommand → Prop
  | .startDaemon answers params => pargs containerId params = none ∨ (KeepsPipe state params ∧
      (spawns containerId state answers params → SafeSpawn state answers params))
  | _ => True

theorem accounted_loggedState (accounted : state.Accounted) (known : state.Known)
    (answers : StartAnswers) (params : StartParams) :
    (loggedState (state.assignPipe params.storletName params.udsPath) answers params).Accounted ↔
      KeepsPipe state params ∧ SafeSpawn state answers params := by
  have assigned := known_assignPipe known params.storletName params.udsPath
  unfold loggedState checkedState SafeSpawn
  cases exits : answers.exits with
  | true => simp [accounted_withDead, accounted_assignPipe accounted]
  | false =>
    by_cases recorded : answers.popenLogger ∧ answers.spawnedError = none
    · have others : ∀ pid name udsPath, name ≠ params.storletName → state.Lives pid name udsPath →
          state.storletNameToPid.get? name = some pid ∧
            (state.assignPipe params.storletName params.udsPath).storletNameToPipeName.get? name =
              some udsPath := by
        intro pid name udsPath differs lives
        obtain ⟨same, pipe⟩ := accounted pid name udsPath lives
        constructor
        · exact same
        · rwa [assignPipe, PyDict.get?_set, if_neg differs]
      have pipe : (state.assignPipe params.storletName
          params.udsPath).storletNameToPipeName.get? params.storletName = some params.udsPath := by
        rw [assignPipe, PyDict.get?_set, if_pos rfl]
      simp only [recorded, if_true, and_self]
      refine (accounted_keepPid others pipe).trans ⟨fun none => ?_, ?_⟩
      · exact ⟨fun pid udsPath lives => absurd lives (none pid udsPath),
          .inr ⟨trivial, trivial, none⟩⟩
      · rintro ⟨-, impossible | ⟨-, -, none⟩⟩
        · cases impossible
        · exact none
    · -- the daemon runs and is not recorded
      have lost := not_accounted_withDaemon assigned params
      refine iff_of_false ?_ ?_
      · split
        · rwa [if_neg]
          intro clean
          exact recorded ⟨‹_›, clean.1⟩
        · exact lost
      · rintro ⟨-, impossible | ⟨logger, clean, -⟩⟩
        · cases impossible
        · exact recorded ⟨logger, clean⟩

theorem accounted_startedState (accounted : state.Accounted) (known : state.Known)
    (answers : StartAnswers) (params : StartParams) :
    (startedState containerId state answers params).Accounted ↔
      CommandAccounts containerId state (.startDaemon answers params) := by
  unfold startedState CommandAccounts
  by_cases supported : pargs containerId params = none
  · simp [supported, accounted]
  · simp only [supported, if_false, false_or]
    cases spawned : spawns containerId state answers params with
    | true => simpa using accounted_loggedState accounted known answers params
    | false => simpa using accounted_assignPipe accounted params

theorem known_loggedState (known : state.Known) (answers : StartAnswers) (params : StartParams)
    (pipe : (state.storletNameToPipeName.get? params.storletName).isSome) :
    (loggedState state answers params).Known := by
  unfold loggedState checkedState
  split
  · split
    · refine ⟨fun name pid recorded => ?_, fun name pid recorded => ?_⟩
      · rw [keepPid, PyDict.get?_set] at recorded
        split at recorded
        · next same =>
          obtain rfl := Option.some.inj recorded
          simp [keepPid, withDaemon, spawn, same]
        · exact (known_withDaemon known params true).names name pid recorded
      · rw [keepPid, PyDict.get?_set] at recorded
        split at recorded
        · next same => rw [same]; exact pipe
        · exact known.pipes name pid recorded
    · exact known_withDaemon known params _
  · exact known_withDaemon known params _

theorem known_startedState (known : state.Known) (answers : StartAnswers) (params : StartParams) :
    (startedState containerId state answers params).Known := by
  have assigned := known_assignPipe known params.storletName params.udsPath
  unfold startedState
  split
  · exact known
  · split
    · refine known_loggedState assigned answers params ?_
      rw [assignPipe, PyDict.get?_set, if_pos rfl]
      rfl
    · exact assigned

theorem accounted_kill (accounted : state.Accounted) (pid : Nat) :
    (state.changeProcess pid fun process => { process with live := false }).Accounted :=
  fun other name udsPath lives => accounted other name udsPath (lives_kill.mp lives).2

theorem known_kill (known : state.Known) (pid : Nat) :
    (state.changeProcess pid fun process => { process with live := false }).Known := by
  refine ⟨fun name other recorded => ?_, known.pipes⟩
  have same : (state.changeProcess pid fun process =>
      { process with live := false }).processes.map DaemonProcess.name =
        state.processes.map DaemonProcess.name := names_changeProcess pid fun _ => rfl
  rw [same]
  exact known.names name other recorded

/-- Once the recorded daemon is killed, no daemon of the storlet runs. -/
theorem accounted_popPid (accounted : state.Accounted) {name : Text}
    (none : ∀ pid udsPath, ¬ state.Lives pid name udsPath) : (state.popPid name).Accounted := by
  intro pid other udsPath lives
  have differs : other ≠ name := by
    rintro rfl
    exact none pid udsPath lives
  rw [popPid, PyDict.get?_pop, if_neg differs]
  exact accounted pid other udsPath lives

theorem known_popPid (known : state.Known) (name : Text) : (state.popPid name).Known := by
  refine ⟨fun other pid recorded => ?_, fun other pid recorded => ?_⟩ <;>
    rw [popPid, PyDict.get?_pop] at recorded
  · split at recorded
    · cases recorded
    · exact known.names other pid recorded
  · split at recorded
    · cases recorded
    · exact known.pipes other pid recorded

theorem processKill_accounted (answers : StopAnswers) (storletName : Text) :
    Keeps Accounted (processKill answers storletName) := by
  refine Meets.bind _ .look fun found => ?_
  cases found with
  | none => exact .throw fun _ holds => holds.1
  | some pid =>
    refine .ite (fun _ => .throw fun _ holds => holds.1) fun _ => ?_
    refine .bind (fun _ state => state.Accounted ∧
      ∀ other udsPath, ¬ state.Lives other storletName udsPath) (.change ?_) fun _ => ?_
    · rintro state ⟨accounted, recorded⟩
      refine ⟨accounted_kill accounted pid, fun other udsPath lives => ?_⟩
      -- the only daemon of the storlet is the one that was killed
      obtain ⟨differs, before⟩ := lives_kill.mp lives
      have same := (accounted other storletName udsPath before).1.symm.trans recorded.symm
      exact differs (Option.some.inj same)
    · refine .ite (fun _ => .throw fun _ holds => holds.1) fun _ => .change ?_
      exact fun state holds => accounted_popPid holds.1 holds.2

theorem processKill_known (answers : StopAnswers) (storletName : Text) :
    Keeps Known (processKill answers storletName) := by
  refine Meets.bind _ .look fun found => ?_
  cases found with
  | none => exact .throw fun _ holds => holds.1
  | some pid =>
    refine .ite (fun _ => .throw fun _ holds => holds.1) fun _ => ?_
    refine .bind (fun _ => Known) (.change fun state holds => known_kill holds.1 pid) fun _ => ?_
    exact .ite (fun _ => .throw fun _ => id) fun _ =>
      .change fun state known => known_popPid known storletName

theorem daemonStatus_showsAs (state : FactoryState) (error : Option Errno) (storletName : Text) :
    state.ShowsAs (getProcessStatusByName error storletName state).2 :=
  (((getProcessStatusByName_meets state error storletName).weaken (fun _ => id)
    (fun _ _ => And.left) fun _ => And.left) state (Std.Refl.refl state)).final

theorem startDaemon_showsAs (containerId : Text) (state : FactoryState) (answers : StartAnswers)
    (params : StartParams) : (startedState containerId state answers params).ShowsAs
      (processStartDaemon containerId answers params state).2 :=
  (processStartDaemon_meets state answers containerId params state (Std.Refl.refl state)).final

/-- What is recorded stays known, whatever the command does. -/
theorem commandStep_known (known : state.Known) (command : FactoryCommand) :
    (commandStep containerId state command).Known := by
  cases command with
  | startDaemon answers params =>
    exact known_congr (startDaemon_showsAs containerId state answers params)
      (known_startedState known answers params)
  | stopDaemon answers storletName => exact (processKill_known answers storletName state known).final
  | daemonStatus error storletName =>
    exact known_congr (daemonStatus_showsAs state error storletName) known
  | exits pid => exact known_kill known pid

/-- The one command after which a daemon may be lost is a start. -/
theorem commandStep_accounted (accounted : state.Accounted) (known : state.Known)
    (command : FactoryCommand) :
    (commandStep containerId state command).Accounted ↔
      CommandAccounts containerId state command := by
  cases command with
  | startDaemon answers params =>
    exact (accounted_congr (startDaemon_showsAs containerId state answers params)).trans
      (accounted_startedState accounted known answers params)
  | stopDaemon answers storletName =>
    exact iff_of_true (processKill_accounted answers storletName state accounted).final trivial
  | daemonStatus error storletName =>
    exact iff_of_true ((accounted_congr (daemonStatus_showsAs state error storletName)).mpr
      accounted) trivial
  | exits pid => exact iff_of_true (accounted_kill accounted pid) trivial

end Commands

/-- In every state a run reaches each live daemon is the recorded one, on the recorded pipe, if and
only if no start of the run gives a live storlet another pipe or loses a daemon it has spawned. -/
theorem stays_accounted_iff (containerId : Text) (commands : List FactoryCommand) :
    Along (commandStep containerId)
        (fun state command => (commandStep containerId state command).Accounted) {} commands ↔
      Along (commandStep containerId) (CommandAccounts containerId) {} commands := by
  have initial : ({} : FactoryState).Sound := by
    refine ⟨fun pid name udsPath lives => ?_, nofun, nofun⟩
    obtain ⟨process, there, -⟩ := lives
    cases there
  refine along_iff ?_ ?_ initial commands
  · intro state command ⟨accounted, known⟩ allowed
    exact ⟨(commandStep_accounted accounted known command).mpr allowed,
      commandStep_known known command⟩
  · intro state command ⟨accounted, known⟩
    exact commandStep_accounted accounted known command

/-- A storlet is restarted on another pipe while its daemon runs. -/
def repiped : List FactoryCommand :=
  let answers : StartAnswers :=
    { executable := fun _ => true, statusError := none, popenDaemon := true, popenLogger := true,
      exits := false, spawnedError := none, ping := fun _ => .replied true "OK" }
  let params : StartParams :=
    { daemonLanguage := "Python", storletPath := "/home/swift/s", storletName := "s.S",
      poolSize := "5", udsPath := "/mnt/channels/first", logLevel := "DEBUG",
      daemonLanguageVersion := none }
  [.startDaemon answers params,
    .startDaemon answers { params with udsPath := "/mnt/channels/second" }]

/-- The daemon still listens to the first pipe; the second one is recorded. -/
theorem live_daemon_on_other_pipe :
    (after (commandStep "c".toList) {} repiped).Lives 0 "s.S" "/mnt/channels/first" ∧
      (after (commandStep "c".toList) {} repiped).storletNameToPipeName.get? "s.S" =
        some "/mnt/channels/second".toList ∧
      ¬ Along (commandStep "c".toList)
        (fun state command => (commandStep "c".toList state command).Accounted) {} repiped := by
  have lives : (after (commandStep "c".toList) {} repiped).Lives 0 "s.S"
      "/mnt/channels/first" := ⟨_, rfl, rfl, rfl, rfl⟩
  have pipe : (after (commandStep "c".toList) {} repiped).storletNameToPipeName.get? "s.S" =
      some "/mnt/channels/second".toList := by decide
  refine ⟨lives, pipe, fun along => ?_⟩
  have accounted : (after (commandStep "c".toList) {} repiped).Accounted := along.2.1
  have recorded := (accounted 0 _ _ lives).2
  exact absurd (pipe.symm.trans recorded) (by decide)

end Storlets.Sbus
