import Mathlib.Logic.Relation
import Storlets.Agent.Exchange
import Storlets.Agent.Shutdown
import Storlets.Gateway.SandboxClient

set_option autoImplicit false

/-!
# A sandbox and its daemon factory

What the gateway is told of the daemons in a sandbox holds of the factory's processes.
-/

namespace Storlets

open PyStr Effect Sbus

/-! ## What a daemon is good for -/

namespace Sbus.FactoryState

variable (state : FactoryState)

/-- The process that is recorded for the storlet has not ended. -/
def Runs (storletName : Text) : Prop :=
  ∃ pid, state.storletNameToPid.get? storletName = some pid ∧ state.alive pid

/-- The storlet's daemon runs, and listens where the gateway sends the storlet's commands. -/
def Offers (storletName : Text) : Prop :=
  ∃ pid, state.storletNameToPid.get? storletName = some pid ∧
    state.Lives pid storletName (RunTimePaths.getSboxStorletPipe storletName) ∧
    state.storletNameToPipeName.get? storletName =
      some (RunTimePaths.getSboxStorletPipe storletName)

/-- No daemon listens anywhere else. -/
structure Piped : Prop where
  known : state.Known
  pipes : ∀ name pipe, state.storletNameToPipeName.get? name = some pipe →
    pipe = RunTimePaths.getSboxStorletPipe name
  daemons : ∀ pid name udsPath, state.Lives pid name udsPath →
    udsPath = RunTimePaths.getSboxStorletPipe name

variable {state}

theorem Piped.offers_iff (piped : state.Piped) (storletName : Text) :
    state.Offers storletName ↔ state.Runs storletName := by
  constructor
  · rintro ⟨pid, recorded, lives, _⟩
    exact ⟨pid, recorded, alive_iff.mpr ⟨_, _, lives⟩⟩
  · rintro ⟨pid, recorded, runs⟩
    obtain ⟨name, udsPath, lives⟩ := alive_iff.mp runs
    obtain ⟨process, there, _, named, _⟩ := id lives
    have same := piped.known.names storletName pid recorded
    rw [List.getElem?_map, there] at same
    obtain rfl : name = storletName := named.symm.trans (Option.some.inj same)
    obtain rfl := piped.daemons pid name udsPath lives
    obtain ⟨pipe, found⟩ := Option.isSome_iff_exists.mp (piped.known.pipes name pid recorded)
    exact ⟨pid, recorded, lives, piped.pipes name pipe found ▸ found⟩

theorem ShowsAs.piped {other : FactoryState} (shows : state.ShowsAs other) (piped : state.Piped) :
    other.Piped := by
  refine ⟨known_congr shows piped.known, ?_, ?_⟩
  · rw [shows.pipes]
    exact piped.pipes
  · intro pid name udsPath lives
    exact piped.daemons pid name udsPath ((shows.lives pid name udsPath).mp lives)

theorem ShowsAs.offers {other : FactoryState} (shows : state.ShowsAs other) (name : Text) :
    other.Offers name ↔ state.Offers name := by
  unfold Offers
  simp only [shows.pids, shows.pipes, shows.lives]

end Sbus.FactoryState

open FactoryState

section Commands

variable {state : FactoryState}

theorem getProcessStatusByPid_runs (error : Option Errno) (pid : Nat) (storletName : Text) :
    Meets (fun _ => True) (getProcessStatusByPid error pid storletName)
      (fun running (state : FactoryState) => running → state.alive pid) (fun _ => True) := by
  intro state _
  have shown := getProcessStatusByPid_meets state error pid storletName state (Std.Refl.refl state)
  match getProcessStatusByPid error pid storletName state, shown with
  | (.error _, _), _ => trivial
  | (.ok running, final), ⟨shows, taken, clean⟩ =>
    intro runs
    rw [clean runs, runs, takesForDead, Bool.not_not] at taken
    rw [shows.alive, taken]

theorem getProcessStatusByName_runs (error : Option Errno) (storletName : Text) :
    Meets (fun _ => True) (getProcessStatusByName error storletName)
      (fun running state => running → state.Runs storletName) (fun _ => True) := by
  intro state _
  rw [getProcessStatusByName, bind_apply, look_apply]
  cases recorded : state.storletNameToPid.get? storletName with
  | none => exact fun runs => nomatch runs
  | some pid =>
    have shown := getProcessStatusByPid_meets state error pid storletName state (Std.Refl.refl state)
    have alive := getProcessStatusByPid_runs error pid storletName state trivial
    dsimp only
    match getProcessStatusByPid error pid storletName state, shown, alive with
    | (.error _, _), _, _ => trivial
    | (.ok running, final), shown, alive =>
      exact fun runs => ⟨pid, shown.1.pids ▸ recorded, alive runs⟩

theorem checkSpawned_runs (answers : StartAnswers) (storletName : Text) (pid : Nat) :
    Meets (fun _ => True) (checkSpawned answers storletName pid)
      (fun _ state => state.Runs storletName) (fun _ => True) := by
  refine .bind (fun running (state : FactoryState) => running = true → state.alive pid) (.handling (fun _ => True)
    (getProcessStatusByPid_runs answers.spawnedError pid storletName) fun exception => ?_)
    fun running => .ite (fun runs => ?_) fun _ => .throw fun _ _ => trivial
  · cases exception with
    | sdaemon | other => exact .throw fun _ _ => trivial
  · have records : Meets (fun state : FactoryState => running = true → state.alive pid = true)
        (change fun state => state.keepPid storletName pid : FactoryAction Unit)
        (fun _ state => state.Runs storletName) (fun _ => True) := by
      intro state alive
      refine ⟨pid, ?_, alive runs⟩
      change (state.storletNameToPid.set storletName pid).get? storletName = some pid
      rw [PyDict.get?_set, if_pos rfl]
    refine .bind _ records fun _ => .bind (fun _ state => state.Runs storletName)
      (Meets.lift.weaken (fun _ => id) (fun _ _ => And.left) fun _ _ => trivial) fun ready => ?_
    exact .ite (fun _ => .pure fun _ => id) fun _ => .throw fun _ _ => trivial

/-- A start that succeeds leaves a daemon that runs, whether it was started now or before. -/
theorem processStartDaemon_runs (containerId : Text) (answers : StartAnswers)
    (params : StartParams) :
    Meets (fun _ => True) (processStartDaemon containerId answers params)
      (fun _ state => state.Runs params.storletName) (fun _ => True) := by
  unfold processStartDaemon
  cases pargs containerId params with
  | none => exact .throw fun _ _ => trivial
  | some pargs =>
    refine .bind (fun _ _ => True) (.change fun _ _ => trivial) fun _ =>
      .bind _ (getProcessStatusByName_runs answers.statusError params.storletName) fun running =>
        .ite (fun runs => .pure fun _ alive => alive runs) fun _ => ?_
    refine .bind (fun _ state => state.Runs params.storletName) ?_ fun _ => .pure fun _ => id
    unfold spawnSubprocess
    refine .ite (fun _ => .throw fun _ _ => trivial) fun _ => .ite (fun _ =>
      .throw fun _ _ => trivial) fun _ => .bind (fun _ _ => True) (fun _ _ => trivial) fun pid => ?_
    refine .bind (fun _ _ => True) (.change fun _ _ => trivial) fun _ =>
      .bind (fun _ _ => True) ?_ fun _ => .ite (fun _ => .throw fun _ _ => trivial) fun _ => ?_
    · cases answers.exits with
      | true => exact .change fun _ _ => trivial
      | false => exact .pure fun _ _ => trivial
    · exact checkSpawned_runs answers params.storletName pid

/-- What a START_DAEMON can leave. -/
theorem startedState_cases (containerId : Text) (state : FactoryState) (answers : StartAnswers)
    (params : StartParams) :
    startedState containerId state answers params = state ∨
      startedState containerId state answers params =
        state.assignPipe params.storletName params.udsPath ∨
      (∃ live, startedState containerId state answers params =
        (state.assignPipe params.storletName params.udsPath).withDaemon params live) ∨
      startedState containerId state answers params =
        ((state.assignPipe params.storletName params.udsPath).withDaemon params true).keepPid
          params.storletName state.processes.length := by
  unfold startedState loggedState checkedState
  split_ifs
  · exact .inl rfl
  · exact .inr (.inr (.inr rfl))
  · exact .inr (.inr (.inl ⟨_, rfl⟩))
  · exact .inr (.inr (.inl ⟨_, rfl⟩))
  · exact .inr (.inl rfl)

theorem startedState_lives {containerId : Text} {answers : StartAnswers} {params : StartParams}
    {pid : Nat} {name udsPath : Text}
    (lives : (startedState containerId state answers params).Lives pid name udsPath) :
    state.Lives pid name udsPath ∨ name = params.storletName ∧ udsPath = params.udsPath := by
  rcases startedState_cases containerId state answers params with same | same | ⟨live, same⟩ | same
  · exact .inl (same ▸ lives)
  · rw [same] at lives
    exact .inl lives
  · rw [same] at lives
    exact (lives_withDaemon.mp lives).imp id fun ⟨_, _, named, path⟩ => ⟨named.symm, path.symm⟩
  · rw [same] at lives
    exact (lives_withDaemon.mp lives).imp id fun ⟨_, _, named, path⟩ => ⟨named.symm, path.symm⟩

theorem startedState_piped (containerId : Text) (answers : StartAnswers) {params : StartParams}
    (here : params.udsPath = RunTimePaths.getSboxStorletPipe params.storletName)
    (piped : state.Piped) : (processStartDaemon containerId answers params state).2.Piped := by
  have shows := startDaemon_showsAs containerId state answers params
  refine ⟨(processStartDaemon_known containerId answers params state piped.known).final, ?_, ?_⟩
  · rw [shows.pipes]
    intro name pipe found
    have assigned (found : (state.assignPipe params.storletName
        params.udsPath).storletNameToPipeName.get? name = some pipe) :
        pipe = RunTimePaths.getSboxStorletPipe name := by
      rw [assignPipe, PyDict.get?_set] at found
      split at found
      · next same =>
        rw [← Option.some.inj found, here, same]
      · exact piped.pipes name pipe found
    rcases startedState_cases containerId state answers params with same | same | ⟨live, same⟩ | same
    · exact piped.pipes name pipe (same ▸ found)
    · exact assigned (same ▸ found)
    · rw [same] at found
      exact assigned found
    · rw [same] at found
      exact assigned found
  · intro pid name udsPath lives
    rcases startedState_lives ((shows.lives pid name udsPath).mp lives) with before | ⟨rfl, rfl⟩
    · exact piped.daemons pid name udsPath before
    · exact here

/-- A start changes nothing for the other storlets. -/
theorem startedState_offers (containerId : Text) (answers : StartAnswers) (params : StartParams)
    {other : Text} (differs : other ≠ params.storletName) :
    (processStartDaemon containerId answers params state).2.Offers other ↔ state.Offers other := by
  rw [(startDaemon_showsAs containerId state answers params).offers]
  have spawned (pid live) : ((state.assignPipe params.storletName params.udsPath).withDaemon params
      live).Lives pid other (RunTimePaths.getSboxStorletPipe other) ↔
        state.Lives pid other (RunTimePaths.getSboxStorletPipe other) := by
    rw [lives_withDaemon]
    refine or_iff_left ?_
    rintro ⟨_, _, same, _⟩
    exact differs same.symm
  have piped : (state.storletNameToPipeName.set params.storletName params.udsPath).get? other =
      state.storletNameToPipeName.get? other := by
    rw [PyDict.get?_set, if_neg differs]
  have recorded (pid : Nat) : (state.storletNameToPid.set params.storletName pid).get? other =
      state.storletNameToPid.get? other := by
    rw [PyDict.get?_set, if_neg differs]
  unfold Offers
  rcases startedState_cases containerId state answers params with same | same | ⟨live, same⟩ | same
  · rw [same]
  · rw [same]
    simp only [assignPipe, piped]
    exact Iff.rfl
  · rw [same]
    simp only [spawned]
    simp only [withDaemon, spawn, assignPipe, piped]
  · rw [same]
    have lives (pid) : (((state.assignPipe params.storletName params.udsPath).withDaemon params
        true).keepPid params.storletName state.processes.length).Lives pid other
          (RunTimePaths.getSboxStorletPipe other) ↔
        state.Lives pid other (RunTimePaths.getSboxStorletPipe other) := spawned pid true
    simp only [lives]
    simp only [withDaemon, spawn, assignPipe, keepPid, piped, recorded]

/-- The ends of a STOP_DAEMON. -/
theorem processKill_cases (answers : StopAnswers) (storletName : Text) (state : FactoryState) :
    (∃ exception, processKill answers storletName state = (.error exception, state)) ∨
      ∃ pid, state.storletNameToPid.get? storletName = some pid ∧
        ((∃ exception, processKill answers storletName state = (.error exception,
            state.changeProcess pid fun process => { process with live := false })) ∨
          processKill answers storletName state = (.ok (),
            (state.changeProcess pid fun process =>
              { process with live := false }).popPid storletName)) := by
  rw [processKill, bind_apply, look_apply]
  cases recorded : state.storletNameToPid.get? storletName with
  | none => exact .inl ⟨_, rfl⟩
  | some pid =>
    dsimp only
    cases answers.killFails with
    | true => exact .inl ⟨_, rfl⟩
    | false =>
      refine .inr ⟨pid, rfl, ?_⟩
      rw [if_neg Bool.false_ne_true, bind_apply, change_apply]
      dsimp only
      cases answers.waitFails with
      | true => exact .inl ⟨_, rfl⟩
      | false => exact .inr rfl

theorem kill_offers (known : state.Known) {storletName other : Text} {pid : Nat}
    (recorded : state.storletNameToPid.get? storletName = some pid) (differs : other ≠ storletName) :
    (state.changeProcess pid fun process => { process with live := false }).Offers other ↔
      state.Offers other := by
  unfold Offers
  simp only [lives_kill]
  refine exists_congr fun otherPid => and_congr_right fun found => and_congr_left fun _ =>
    and_iff_right ?_
  rintro rfl
  have named := known.names storletName otherPid recorded
  exact differs (Option.some.inj ((known.names other otherPid found).symm.trans named))

theorem processKill_piped (answers : StopAnswers) (storletName : Text) (piped : state.Piped) :
    (processKill answers storletName state).2.Piped := by
  have known := (processKill_known answers storletName state piped.known).final
  have killed (pid : Nat) {name udsPath : Text} {other : Nat}
      (lives : (state.changeProcess pid fun process => { process with live := false }).Lives other
        name udsPath) : udsPath = RunTimePaths.getSboxStorletPipe name :=
    piped.daemons other name udsPath (lives_kill.mp lives).2
  rcases processKill_cases answers storletName state with
    ⟨_, same⟩ | ⟨pid, _, ⟨_, same⟩ | same⟩
  · rwa [same]
  · rw [same] at known ⊢
    exact ⟨known, piped.pipes, fun _ _ _ => killed pid⟩
  · rw [same] at known ⊢
    exact ⟨known, piped.pipes, fun _ _ _ => killed pid⟩

theorem processKill_offers (known : state.Known) (answers : StopAnswers) {storletName other : Text}
    (differs : other ≠ storletName) :
    (processKill answers storletName state).2.Offers other ↔ state.Offers other := by
  rcases processKill_cases answers storletName state with
    ⟨_, same⟩ | ⟨pid, recorded, ⟨_, same⟩ | same⟩
  · rw [same]
  · rw [same]
    exact kill_offers known recorded differs
  · rw [same, ← kill_offers known recorded differs]
    unfold Offers
    simp only [popPid, PyDict.get?_pop, if_neg differs]
    exact Iff.rfl

/-- A stop that succeeds leaves no daemon behind that was recorded. -/
theorem processKill_stopped (answers : StopAnswers) (storletName : Text) {final : FactoryState}
    (stops : processKill answers storletName state = (.ok (), final)) :
    ∃ pid, state.storletNameToPid.get? storletName = some pid ∧ final.alive pid = false ∧
      final.storletNameToPid.get? storletName = none := by
  rcases processKill_cases answers storletName state with
    ⟨_, fails⟩ | ⟨pid, recorded, ⟨_, fails⟩ | works⟩
  · cases fails.symm.trans stops
  · cases fails.symm.trans stops
  · obtain rfl := (Prod.mk.inj (works.symm.trans stops)).2
    refine ⟨pid, recorded, ?_, ?_⟩
    · rw [← Bool.not_eq_true, alive_iff]
      rintro ⟨name, udsPath, lives⟩
      exact (lives_kill.mp lives).1 rfl
    · rw [popPid, PyDict.get?_pop, if_pos rfl]

end Commands

/-! ## The requests of a sandbox -/

inductive SandboxRequest where
  | ping
  | start (sandbox : RunTimeSandbox) (spath storletId language : Text)
      (languageVersion : Option Text)
  | stop (storletId : Text)
  | status (storletId : Text)

/-- `None` is the null of JSON. -/
def versionJson (languageVersion : Option Text) : Json := (languageVersion.map .str).getD .null

namespace SandboxRequest

def call : SandboxRequest → ClientCall
  | .ping => SBusClient.ping
  | .start sandbox spath storletId language languageVersion =>
      SBusClient.startDaemon (lower language) spath storletId
        (RunTimePaths.getSboxStorletPipe storletId) sandbox.storletDaemonDebugLevel
        sandbox.storletDaemonThreadPoolSize (versionJson languageVersion)
  | .stop storletId => SBusClient.stopDaemon storletId
  | .status storletId => SBusClient.daemonStatus storletId

def storlet : SandboxRequest → Option Text
  | .ping => none
  | .start _ _ storletId _ _ | .stop storletId | .status storletId => some storletId

/-- The handler of the factory. -/
def method : SandboxRequest → Text
  | .ping => "ping".toList
  | .start _ _ _ _ _ => "start_daemon".toList
  | .stop _ => "stop_daemon".toList
  | .status _ => "daemon_status".toList

/-- The method of the sandbox returns, and says what it was called for. -/
def Confirmed (limits : Json.Limits) (writeFd : Nat) (peer : ClientPeer) : SandboxRequest → Prop
  | .ping => ∃ status, RunTimeSandbox.ping limits writeFd peer = .ok status ∧ Json.truthy status
  | .start sandbox spath storletId language languageVersion =>
      sandbox.startStorletDaemon limits writeFd peer spath storletId language
        (versionJson languageVersion) = .ok ()
  | .stop storletId => RunTimeSandbox.stopStorletDaemon limits writeFd peer storletId = .ok ()
  | .status storletId =>
      RunTimeSandbox.getStorletDaemonStatus limits writeFd peer storletId = .ok true

/-- What it was called for. -/
def Holds (before after : FactoryState) : SandboxRequest → Prop
  | .ping => True
  | .start _ _ storletId _ _ | .status storletId => after.Offers storletId
  | .stop storletId => ∃ pid, before.storletNameToPid.get? storletId = some pid ∧
      after.alive pid = false ∧ after.storletNameToPid.get? storletId = none

end SandboxRequest

/-- The limits of an interpreter leave room for the requests. -/
structure Sbus.Interpreter.Roomy (interpreter : Interpreter) : Prop where
  depth : 3 ≤ interpreter.limits.depth
  copyDepth : 2 ≤ interpreter.copyDepth
  digits : maxMsgLength ≤ interpreter.limits.digits

section Sending

variable {interpreter : Interpreter} {writeFd : Nat} {dtg : SBusDatagram}

theorem exceptSBusClient_ok {α : Type} {attempt : Except ClientException SBusResponse}
    {answer : SBusResponse → Except SandboxException α} {handler : Except SandboxException α}
    {value : α} (ends : exceptSBusClient attempt answer handler = .ok value) :
    (∃ resp, attempt = .ok resp ∧ answer resp = .ok value) ∨ handler = .ok value := by
  rcases attempt with (error | exception) | resp
  · exact .inr ends
  · cases ends
  · exact .inl ⟨resp, rfl, ends⟩

theorem requestOrFail_ok {limits : Json.Limits} {peer : ClientPeer} {call : ClientCall}
    {message : String} (ends : requestOrFail limits writeFd peer call message = .ok ()) :
    ∃ resp, (Sbus.request limits call writeFd peer).result = .ok resp ∧ Json.truthy resp.status := by
  rcases exceptSBusClient_ok ends with ⟨resp, answered, confirms⟩ | raised
  · refine ⟨resp, answered, ?_⟩
    by_contra denied
    rw [if_neg denied] at confirms
    cases confirms
  · cases raised

theorem SandboxRequest.Confirmed.response {limits : Json.Limits} {peer : ClientPeer}
    {sent : SandboxRequest} (confirmed : sent.Confirmed limits writeFd peer) :
    ∃ resp, (Sbus.request limits sent.call writeFd peer).result = .ok resp ∧
      Json.truthy resp.status := by
  cases sent with
  | ping =>
    obtain ⟨status, ends, truthy⟩ := confirmed
    rcases exceptSBusClient_ok ends with ⟨resp, answered, same⟩ | failed
    · exact ⟨resp, answered, Except.ok.inj same ▸ truthy⟩
    · rw [← Except.ok.inj failed] at truthy
      cases truthy
  | start | stop => exact requestOrFail_ok confirmed
  | status storletId =>
    rcases exceptSBusClient_ok confirmed with ⟨resp, answered, same⟩ | raised
    · exact ⟨resp, answered, Except.ok.inj same⟩
    · cases raised

/-- The descriptor of the pipe, and what goes with it. -/
def serviceOut (writeFd : Nat) : SBusFileDescriptor :=
  ⟨.str "SBUS_FD_SERVICE_OUT".toList, writeFd, [], .obj []⟩

theorem serviceOut_plain (writeFd : Nat) : (serviceOut writeFd).Plain :=
  ⟨⟨_, rfl⟩, ⟨.empty, rfl, by decide⟩, ⟨.empty, rfl⟩⟩

theorem datagram_alone {call : ClientCall} (alone : call.extraFds = [])
    (built : call.datagram writeFd = .ok dtg) :
    dtg = ⟨.str call.command, [serviceOut writeFd], call.params, call.taskId⟩ := by
  have same := buildDatagram_eq built
  rwa [alone] at same

/-- A request without other descriptors is read by the server if its parameters can be. -/
theorem legible_alone (roomy : interpreter.Roomy) {call : ClientCall} (alone : call.extraFds = [])
    (taskless : call.taskId = .null) (built : call.datagram writeFd = .ok dtg)
    (written : Json.Written interpreter.limits.digits call.params)
    (nests : ∀ depth, Json.nestsWithin (depth + 1) call.params = true)
    (short : dtg.messageLength ≤ maxMsgLength) : dtg.Legible interpreter := by
  obtain ⟨depth, deep⟩ := Nat.exists_eq_add_of_le' roomy.depth
  obtain ⟨copies, copyDeep⟩ := Nat.exists_eq_add_of_le' roomy.copyDepth
  have same := datagram_alone alone built
  rw [taskless] at same
  have params : dtg.cmdParams = .obj (("command".toList, .str call.command) ::
      if Json.truthy call.params then [("params".toList, call.params)] else []) := by
    rw [same, SBusDatagram.cmdParams]
    simp [Json.truthy]
  have plain := serviceOut_plain writeFd
  constructor
  · rw [same]
    exact List.cons_ne_nil _ _
  · rw [same]
    intro sfd inside
    rw [List.mem_singleton.mp inside]
    exact plain.initialised
  · rw [same, copyDeep]
    intro sfd inside
    rw [List.mem_singleton.mp inside]
    exact plain.metadata_nests copies
  · rw [same]
    refine (Json.Textual.arr _ fun item inside => ?_).written
    rw [List.mem_singleton.mp inside]
    exact plain.metadata_textual
  · rw [same, deep]
    have inner := plain.metadata_nests depth
    simp [SBusDatagram.metadata, Json.nestsWithin, inner]
  · rw [params]
    apply Json.Written.obj
    · split
      · change ["command".toList, "params".toList].Nodup
        decide
      · exact List.nodup_singleton _
    · intro field inside
      rcases List.mem_cons.mp inside with rfl | inside
      · exact .str _
      · split at inside
        · rw [List.mem_singleton.mp inside]
          exact written
        · cases inside
  · rw [params, deep]
    have inner := nests (depth + 1)
    split <;> simp [Json.nestsWithin, inner]
  · exact short

theorem versionJson_cases (languageVersion : Option Text) :
    Json.truthy (versionJson languageVersion) = false ∨
      ∃ version, versionJson languageVersion = .str version := by
  rcases languageVersion with _ | version
  · exact .inl rfl
  · exact .inr ⟨version, rfl⟩

theorem startDaemon_written {digits : Nat} {language storletPath storletId udsPath logLevel : Text}
    {poolSize : Int} (languageVersion : Option Text)
    (few : (decimal poolSize.natAbs).length ≤ digits) :
    Json.Written digits (SBusClient.startDaemon language storletPath storletId udsPath logLevel
      poolSize (versionJson languageVersion)).params := by
  unfold SBusClient.startDaemon
  apply Json.Written.obj
  · split
    · change ["daemon_language".toList, "storlet_path".toList, "storlet_name".toList,
        "uds_path".toList, "log_level".toList, "pool_size".toList,
        "daemon_language_version".toList].Nodup
      decide
    · change ["daemon_language".toList, "storlet_path".toList, "storlet_name".toList,
        "uds_path".toList, "log_level".toList, "pool_size".toList].Nodup
      decide
  · intro field inside
    rcases List.mem_append.mp inside with early | late
    · simp only [List.mem_cons, List.not_mem_nil, or_false] at early
      rcases early with rfl | rfl | rfl | rfl | rfl | rfl
      · exact .str _
      · exact .str _
      · exact .str _
      · exact .str _
      · exact .str _
      · exact .int _ few
    · rcases versionJson_cases languageVersion with missing | ⟨version, same⟩
      · rw [if_neg (by simp [missing])] at late
        cases late
      · split at late
        · rw [List.mem_singleton.mp late, same]
          exact .str _
        · cases late

theorem nestsWithin_obj (depth : Nat) (fields : List (Text × Json)) :
    Json.nestsWithin (depth + 1) (.obj fields) = true ↔
      ∀ field ∈ fields, Json.nestsWithin depth field.2 = true := by
  rw [Json.nestsWithin, List.all_eq_true]

theorem startDaemon_nests (language storletPath storletId udsPath logLevel : Text) (poolSize : Int)
    (languageVersion : Option Text) (depth : Nat) :
    Json.nestsWithin (depth + 1) (SBusClient.startDaemon language storletPath storletId udsPath
      logLevel poolSize (versionJson languageVersion)).params = true := by
  have text (s : Text) : Json.nestsWithin depth (.str s) = true := by cases depth <;> rfl
  have number : Json.nestsWithin depth (.int poolSize) = true := by cases depth <;> rfl
  unfold SBusClient.startDaemon
  rw [nestsWithin_obj]
  intro field inside
  rcases List.mem_append.mp inside with early | late
  · simp only [List.mem_cons, List.not_mem_nil, or_false] at early
    rcases early with rfl | rfl | rfl | rfl | rfl | rfl
    · exact text _
    · exact text _
    · exact text _
    · exact text _
    · exact text _
    · exact number
  · rcases versionJson_cases languageVersion with missing | ⟨version, same⟩
    · rw [if_neg (by simp [missing])] at late
      cases late
    · split at late
      · rw [List.mem_singleton.mp late, same]
        exact text _
      · cases late

/-- A number that a short message holds has few digits. -/
theorem poolSize_few {call : ClientCall} (alone : call.extraFds = [])
    (built : call.datagram writeFd = .ok dtg) {fields : List (Text × Json)}
    (params : call.params = .obj fields) {key : Text} {value : Int} (inside : (key, .int value) ∈ fields)
    (short : dtg.messageLength ≤ maxMsgLength) :
    (decimal value.natAbs).length ≤ maxMsgLength := by
  have number : (decimal value.natAbs).length ≤ (Json.dumps (.int value)).length := by
    rcases value with n | n <;> simp [Json.dumps, Json.dumpAtom]
  have field : (Json.dumps (.int value)).length ≤ (Json.dumps call.params).length :=
    params ▸ Json.length_dumps_field inside
  have truthy : Json.truthy call.params = true := by
    rw [params]
    cases fields with
    | nil => cases inside
    | cons => rfl
  have whole : (Json.dumps call.params).length ≤ (Json.dumps dtg.cmdParams).length := by
    have listed : ("params".toList, call.params) ∈ ("command".toList, dtg.command) ::
        ((if Json.truthy dtg.params then [("params".toList, dtg.params)] else []) ++
          if Json.truthy dtg.taskId then [("task_id".toList, dtg.taskId)] else []) := by
      rw [datagram_alone alone built, if_pos truthy]
      simp
    exact Json.length_dumps_field listed
  unfold SBusDatagram.messageLength at short
  omega

theorem SandboxRequest.legible (roomy : interpreter.Roomy) (sent : SandboxRequest)
    (built : sent.call.datagram writeFd = .ok dtg) (short : dtg.messageLength ≤ maxMsgLength) :
    dtg.Legible interpreter := by
  cases sent with
  | ping => exact legible_alone roomy rfl rfl built .null (fun _ => rfl) short
  | start sandbox spath storletId language languageVersion =>
    have few : (decimal sandbox.storletDaemonThreadPoolSize.natAbs).length ≤ maxMsgLength :=
      poolSize_few rfl built rfl (List.mem_append_left _
        (.tail _ (.tail _ (.tail _ (.tail _ (.tail _ (.head _))))))) short
    exact legible_alone roomy rfl rfl built (startDaemon_written languageVersion
      (few.trans roomy.digits)) (startDaemon_nests _ _ _ _ _ _ languageVersion) short
  | stop storletId =>
    refine legible_alone roomy rfl rfl built ?_ (fun depth => ?_) short
    · exact (textMap_textual (.ofList [("storlet_name".toList, storletId)])).written
    · exact textMap_nests (.ofList [("storlet_name".toList, storletId)]) depth
  | status storletId =>
    refine legible_alone roomy rfl rfl built ?_ (fun depth => ?_) short
    · exact (textMap_textual (.ofList [("storlet_name".toList, storletId)])).written
    · exact textMap_nests (.ofList [("storlet_name".toList, storletId)]) depth

end Sending

/-! ## The requests at the factory -/

section Handling

variable {interpreter : Interpreter} {containerId : Text} {state final : FactoryState}

theorem getHandler_handler {server : SBusServer} {command : Text} (defined : command ∈ sbusCmd)
    (handles : lower (command.drop sbusCmdPrefix.length) ∈ server.methods) :
    getHandler interpreter server (.str command) =
      .handler (lower (command.drop sbusCmdPrefix.length)) := by
  rw [getHandler, if_neg fun unknown => unknown.1 defined, if_pos handles]

theorem getHandler_sent (interpreter : Interpreter) (containerId : Text) (sent : SandboxRequest) :
    getHandler interpreter (factoryKind containerId).server (.str sent.call.command) =
      .handler sent.method := by
  have found {command method : Text} (defined : command ∈ sbusCmd)
      (named : lower (command.drop sbusCmdPrefix.length) = method)
      (handles : method ∈ StorletDaemonFactory.methods) :
      getHandler interpreter StorletDaemonFactory (.str command) = .handler method := by
    rw [← named] at handles ⊢
    exact getHandler_handler defined handles
  have ping : getHandler interpreter StorletDaemonFactory (.str "SBUS_CMD_PING".toList) =
    .handler "ping".toList := found (by decide) (by decide) (by decide)
  have start : getHandler interpreter StorletDaemonFactory (.str "SBUS_CMD_START_DAEMON".toList) =
    .handler "start_daemon".toList := found (by decide) (by decide) (by decide)
  have stop : getHandler interpreter StorletDaemonFactory (.str "SBUS_CMD_STOP_DAEMON".toList) =
    .handler "stop_daemon".toList := found (by decide) (by decide) (by decide)
  have status : getHandler interpreter StorletDaemonFactory (.str "SBUS_CMD_DAEMON_STATUS".toList) =
    .handler "daemon_status".toList := found (by decide) (by decide) (by decide)
  cases sent with
  | ping => exact ping
  | start => exact start
  | stop => exact stop
  | status => exact status

theorem answering_status {iterable : Bool} {action : FactoryAction CommandResponse}
    {result : HandlerResult} (ends : answering iterable action state = (result, final)) :
    (action state).2 = final ∧ ∀ dtg server method,
      getHandler interpreter server dtg.command = .handler method →
      (response interpreter server dtg result).status = true →
        ∃ resp, action state = (.ok resp, final) ∧ resp.status = true := by
  unfold answering at ends
  match ran : action state with
  | (.ok resp, reached) =>
    rw [ran] at ends
    obtain ⟨rfl, rfl⟩ := Prod.mk.inj ends
    refine ⟨rfl, fun dtg server method found confirms => ⟨resp, rfl, ?_⟩⟩
    rwa [response, found] at confirms
  | (.error (.sdaemon message), reached) =>
    rw [ran] at ends
    obtain ⟨rfl, rfl⟩ := Prod.mk.inj ends
    refine ⟨rfl, fun dtg server method found confirms => ?_⟩
    rw [response, found] at confirms
    cases confirms
  | (.error .other, reached) =>
    rw [ran] at ends
    obtain ⟨rfl, rfl⟩ := Prod.mk.inj ends
    refine ⟨rfl, fun dtg server method found confirms => ?_⟩
    rw [response, found] at confirms
    cases confirms

theorem startParams_sent (str : Json → Text)
    (language storletPath storletId udsPath logLevel : Text) (poolSize : Int)
    (languageVersion : Option Text) :
    ∃ params, startParams str (SBusClient.startDaemon language storletPath storletId udsPath
        logLevel poolSize (versionJson languageVersion)).params = some params ∧
      params.storletName = storletId ∧ params.udsPath = udsPath := by
  rcases languageVersion with _ | _ | ⟨c, rest⟩
  · exact ⟨_, rfl, rfl, rfl⟩
  · exact ⟨_, rfl, rfl, rfl⟩
  · exact ⟨_, rfl, rfl, rfl⟩

/-- What a request does to the daemons, and what a response that confirms it means. -/
structure SandboxRequest.Served (sent : SandboxRequest) (before after : FactoryState)
    (confirmed : Prop) : Prop where
  piped : after.Piped
  others : ∀ other, sent.storlet ≠ some other → (after.Offers other ↔ before.Offers other)
  holds : confirmed → sent.Holds before after

theorem startDaemon_served (piped : state.Piped) (answers : FactoryAnswers)
    (sandbox : RunTimeSandbox) (spath storletId language : Text) (languageVersion : Option Text)
    {result : HandlerResult} {dtg : SBusDatagram} {server : SBusServer} {method : Text}
    (found : getHandler interpreter server dtg.command = .handler method)
    (ends : Sbus.startDaemon containerId answers (SandboxRequest.start sandbox spath storletId
      language languageVersion).call.params state = (result, final)) :
    (SandboxRequest.start sandbox spath storletId language languageVersion).Served state final
      ((response interpreter server dtg result).status = true) := by
  obtain ⟨params, parsed, rfl, here⟩ := startParams_sent answers.str (lower language) spath storletId
    (RunTimePaths.getSboxStorletPipe storletId) sandbox.storletDaemonDebugLevel
    sandbox.storletDaemonThreadPoolSize languageVersion
  have parsed : startParams answers.str (SandboxRequest.start sandbox spath params.storletName
      language languageVersion).call.params = some params := parsed
  rw [Sbus.startDaemon, parsed] at ends
  dsimp only at ends
  obtain ⟨reached, confirms⟩ := answering_status ends
  have moved : (processStartDaemon containerId answers.start params state).2 = final := by
    rw [← reached, bind_apply]
    match processStartDaemon containerId answers.start params state with
    | (.error _, _) => rfl
    | (.ok started, _) => cases started <;> rfl
  have after : final.Piped := moved ▸ startedState_piped containerId answers.start here piped
  refine ⟨after, fun other differs => ?_, fun confirmed => ?_⟩
  · rw [← moved]
    exact startedState_offers containerId answers.start params fun same => differs (same ▸ rfl)
  · obtain ⟨resp, ran, _⟩ := confirms dtg server method found confirmed
    have runs := processStartDaemon_runs containerId answers.start params state trivial
    apply (after.offers_iff _).mpr
    rw [bind_apply] at ran
    match started : processStartDaemon containerId answers.start params state, runs, moved with
    | (.error _, _), _, _ =>
      rw [started] at ran
      cases ran
    | (.ok _, _), runs, rfl => exact runs

theorem stopDaemon_served (piped : state.Piped) (answers : FactoryAnswers) (storletId : Text)
    {result : HandlerResult} {dtg : SBusDatagram} {server : SBusServer} {method : Text}
    (found : getHandler interpreter server dtg.command = .handler method)
    (ends : Sbus.stopDaemon answers (SandboxRequest.stop storletId).call.params state =
      (result, final)) :
    (SandboxRequest.stop storletId).Served state final
      ((response interpreter server dtg result).status = true) := by
  obtain ⟨reached, confirms⟩ := answering_status (ends : answering true _ state = (result, final))
  have moved : (processKill (answers.kill storletId) storletId state).2 = final := by
    rw [← reached, bind_apply]
    match processKill (answers.kill storletId) storletId state with
    | (.error _, _) => rfl
    | (.ok _, _) => rfl
  refine ⟨moved ▸ processKill_piped _ _ piped, fun other differs => ?_, fun confirmed => ?_⟩
  · rw [← moved]
    exact processKill_offers piped.known _ fun same => differs (same ▸ rfl)
  · obtain ⟨resp, ran, _⟩ := confirms dtg server method found confirmed
    rw [bind_apply] at ran
    match stopped : processKill (answers.kill storletId) storletId state, moved with
    | (.error _, _), _ =>
      rw [stopped] at ran
      cases ran
    | (.ok _, _), rfl => exact processKill_stopped _ _ stopped

theorem daemonStatus_served (piped : state.Piped) (answers : FactoryAnswers) (storletId : Text)
    {result : HandlerResult} {dtg : SBusDatagram} {server : SBusServer} {method : Text}
    (found : getHandler interpreter server dtg.command = .handler method)
    (ends : Sbus.daemonStatus answers (SandboxRequest.status storletId).call.params state =
      (result, final)) :
    (SandboxRequest.status storletId).Served state final
      ((response interpreter server dtg result).status = true) := by
  obtain ⟨reached, confirms⟩ := answering_status (ends : answering true _ state = (result, final))
  have moved : (getProcessStatusByName answers.statusError storletId state).2 = final := by
    rw [← reached, bind_apply]
    match getProcessStatusByName answers.statusError storletId state with
    | (.error _, _) => rfl
    | (.ok running, _) => cases running <;> rfl
  have shows := daemonStatus_showsAs state answers.statusError storletId
  rw [moved] at shows
  refine ⟨shows.piped piped, fun other _ => shows.offers other, fun confirmed => ?_⟩
  obtain ⟨resp, ran, status⟩ := confirms dtg server method found confirmed
  have runs := getProcessStatusByName_runs answers.statusError storletId state trivial
  apply ((shows.piped piped).offers_iff storletId).mpr
  rw [bind_apply] at ran
  match asked : getProcessStatusByName answers.statusError storletId state, runs, moved with
  | (.error _, _), _, _ =>
    rw [asked] at ran
    cases ran
  | (.ok running, _), runs, rfl =>
    rw [asked] at ran
    cases running with
    | true => exact runs rfl
    | false =>
      obtain ⟨same, _⟩ := Prod.mk.inj ran
      obtain rfl := Except.ok.inj same
      cases status

end Handling

/-! ## The sandbox as the gateway knows it -/

section Sandbox

variable (interpreter : Interpreter) (containerId : Text)
variable (format : ByteWire.IntFormat) (host : Sbus.Host Nat)

/-- A request of the gateway that fits the buffer of the bus, or something that sends no message. -/
inductive SandboxStep (state : MainState FactoryState) : MainState FactoryState → Prop
  | request {after : MainState FactoryState} (sent : SandboxRequest) (writeFd : Nat)
      (dtg : SBusDatagram) (peer : ClientPeer) (built : sent.call.datagram writeFd = .ok dtg)
      (short : dtg.messageLength ≤ maxMsgLength)
      (exchange : Exchange interpreter (factoryKind containerId) format host sent.call writeFd state
        after peer) : SandboxStep state after
  | other (event : MainEvent FactoryAnswers HaltAnswers)
      (silent : ∀ raw answers reply, event ≠ .turn (.message raw answers reply)) :
      SandboxStep state (mainStep interpreter (factoryKind containerId) state event)

variable {interpreter containerId format host} {state after : MainState FactoryState}

theorem handleFactory_served (piped : state.own.Piped) {sent : SandboxRequest} {writeFd : Nat}
    {dtg : SBusDatagram} (built : sent.call.datagram writeFd = .ok dtg) {resp : CommandResponse}
    (takes : Takes interpreter (factoryKind containerId) dtg state after resp) :
    sent.Served state.own after.own (resp.status = true) := by
  obtain ⟨_, raw, numberOf, answers, result, decoded, handles, rfl⟩ := takes
  have alone : sent.call.extraFds = [] := by cases sent <;> rfl
  have same := datagram_alone alone built
  have command : (dtg.atServer numberOf).command = .str sent.call.command := by rw [same]; rfl
  have params : (dtg.atServer numberOf).params = Json.orNone sent.call.params := by rw [same]; rfl
  rw [handled, decoded] at handles
  dsimp only at handles
  rw [command] at handles
  have method := getHandler_sent interpreter containerId sent
  rw [method] at handles
  have found : getHandler interpreter (factoryKind containerId).server
      (dtg.atServer numberOf).command = .handler sent.method := command ▸ method
  have ends : handleFactory containerId answers state.own (dtg.atServer numberOf) sent.method =
      (result, after.own) := Option.some.inj handles
  cases sent with
  | ping =>
    obtain ⟨_, unchanged⟩ := Prod.mk.inj ends
    rw [← unchanged]
    exact ⟨piped, fun _ _ => Iff.rfl, fun _ => trivial⟩
  | start sandbox spath storletId language languageVersion =>
    have ends : Sbus.startDaemon containerId answers (dtg.atServer numberOf).params state.own =
        (result, after.own) := ends
    rw [params] at ends
    exact startDaemon_served piped answers sandbox spath storletId language languageVersion found ends
  | stop storletId =>
    have ends : Sbus.stopDaemon answers (dtg.atServer numberOf).params state.own =
        (result, after.own) := ends
    rw [params] at ends
    exact stopDaemon_served piped answers storletId found ends
  | status storletId =>
    have ends : Sbus.daemonStatus answers (dtg.atServer numberOf).params state.own =
        (result, after.own) := ends
    rw [params] at ends
    exact daemonStatus_served piped answers storletId found ends

theorem turnStep_exit (turn : BusTurn FactoryAnswers)
    (serving : (turnStep interpreter (factoryKind containerId) state turn).loop.exit = none) :
    state.loop.exit = none := by
  cases exit : state.loop.exit with
  | none => rfl
  | some code =>
    rw [turnStep, exit] at serving
    exact exit.symm.trans serving

theorem Exchange.exit {call : ClientCall} {writeFd : Nat} {peer : ClientPeer}
    (exchange : Exchange interpreter (factoryKind containerId) format host call writeFd state after
      peer) (serving : after.loop.exit = none) : state.loop.exit = none := by
  cases exchange with
  | unsent => exact serving
  | unreceived => exact turnStep_exit _ serving
  | received => exact turnStep_exit _ serving

theorem sandboxStep_piped (roomy : interpreter.Roomy)
    (piped : state.loop.exit = none → state.own.Piped)
    (step : SandboxStep interpreter containerId format host state after)
    (serving : after.loop.exit = none) : after.own.Piped := by
  cases step with
  | request sent writeFd dtg peer built short exchange =>
    have before := piped (Exchange.exit exchange serving)
    have deep : 1 ≤ interpreter.limits.depth := le_trans (by decide) roomy.depth
    have ends := exchange.ends deep built (sent.legible roomy built short)
    rcases ends with ⟨same, _⟩ | ⟨resp, takes, _⟩
    · rwa [same]
    · exact (handleFactory_served before built takes).piped
  | other event silent =>
    cases event with
    | sighup => exact piped serving
    | exits pid =>
      have before := piped serving
      refine ⟨known_changeProcess before.known pid fun _ => rfl, before.pipes, ?_⟩
      intro other name udsPath lives
      exact before.daemons other name udsPath (lives_kill.mp lives).2
    | terminate answers =>
      have same : (terminateStep (factoryKind containerId) state answers).loop.exit =
          state.loop.exit := by
        unfold terminateStep
        split <;> rfl
      have inside : state.loop.exit = none := same.symm.trans serving
      have unchanged : terminateStep (factoryKind containerId) state answers = state := by
        unfold terminateStep
        rw [inside]
        cases state.ending <;> rfl
      rw [mainStep, unchanged]
      exact piped inside
    | turn turn =>
      have inside := turnStep_exit turn serving
      have unchanged : (turnStep interpreter (factoryKind containerId) state turn).own =
          state.own := by
        unfold turnStep
        rw [inside]
        dsimp only
        split_ifs
        · rfl
        · cases turn with
          | message raw answers reply => exact absurd rfl (silent raw answers reply)
          | listenFails | timesOut | receiveFails => rfl
        · rfl
      rw [mainStep, unchanged]
      exact piped inside

theorem sandboxRun_piped (roomy : interpreter.Roomy)
    (run : Relation.ReflTransGen (SandboxStep interpreter containerId format host) { own := {} }
      state) : state.loop.exit = none → state.own.Piped := by
  induction run with
  | refl => exact fun _ => ⟨⟨nofun, nofun⟩, nofun, nofun⟩
  | tail _ step ih => exact sandboxStep_piped roomy ih step

end Sandbox

/-- A start of a daemon for a storlet in Python. -/
def pythonStart : SandboxRequest :=
  .start ⟨"DEBUG".toList, 5⟩ "/home/swift/s/s.py".toList "s".toList "Python".toList none

/-- The daemon starts and answers at once. -/
def willing : FactoryAnswers where
  start :=
    { executable := fun _ => true, statusError := none, popenDaemon := true, popenLogger := true
      exits := false, spawnedError := none, ping := fun _ => .replied true [] }
  statusError := none
  kill _ := ⟨false, false⟩
  halt := ⟨fun _ _ => .replied true [], fun _ => false⟩
  str _ := ['5']

end Storlets
