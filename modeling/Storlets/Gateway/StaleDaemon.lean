import Storlets.Gateway.Updates
import Storlets.Gateway.Containers
import Storlets.Gateway.SandboxClient
import Storlets.Gateway.Confinement

set_option autoImplicit false

/-!
# The daemon that serves an invocation

A daemon keeps the code it has loaded when it was started. A call copies the storlet and its
dependencies to the container, and then decides from what the copying has returned whether the
daemon that runs is to be stopped.
-/

namespace Storlets

open PyStr PosixPath Effect Runs Sbus

structure StorletDaemon where
  /-- How many places had been touched on the host when it was started. -/
  loaded : Nat
  home : Container
  deriving DecidableEq

structure DaemonWorld where
  host : Host
  node : Node := {}
  /-- The daemon of the storlet, as the factory that answers knows it. -/
  daemon : Option StorletDaemon := none

inductive FlowError where
  | gateway (exception : GatewayError)
  | sandbox (exception : SandboxException)
  | restart (exception : RestartError)
  /-- An extra source with a descriptor. -/
  | extraSource

def DataSource.hasFd : DataSource → Bool
  | .fd _ => true
  | .iter _ => false

abbrev FlowAction := Effect FlowError DaemonWorld

/-- One call of `invocation_flow`, with all that its environment answers. -/
structure FlowCall where
  env : Surroundings
  sreq : ContainerStorletRequest
  status : ClientPeer
  stop : ClientPeer
  start : ClientPeer
  restart : RestartAnswers := {}
  /-- Whether the factory has carried the request out, whatever becomes of its answer. -/
  stopTook : Bool := true
  startTook : Bool := true
  /-- Whether a container that outlives a restart still answers. -/
  oldFactory : Bool := false
  /-- The container of the factory that starts a daemon. -/
  home : Container := ⟨[], 0⟩

def RunTimeSandbox.getStorletClasspath (storletMain storletId : Text) (dependencies : List Text) :
    Text :=
  let classPath := join (RunTimePaths.getSboxStorletDir storletMain) storletId
  let depPathList := dependencies.map fun dep => join (RunTimePaths.getSboxStorletDir storletMain) dep
  classPath ++ ':' :: [':'].intercalate depPathList

/-- What all calls for a storlet have in common. -/
structure StorletGateway where
  paths : RunTimePaths
  cwd : Location
  main : Text
  sandbox : RunTimeSandbox
  limits : Json.Limits
  writeFd : Nat
  runtime : Runtime
  conf : Dict Text
  maxContainers : Int

inductive FlowEvent where
  | invoke (call : FlowCall)
  /-- Containers stop and others come up, or the daemon ends. -/
  | change (stays : Container → Bool) (others : List Container) (ends : Bool)

namespace FlowCall

variable (call : FlowCall)

/-- The daemon that the factory knows of once the containers have changed. -/
def left (node : Node) (daemon : Option StorletDaemon) : Option StorletDaemon :=
  if call.oldFactory then daemon.filter fun daemon => daemon.home ∈ node.running else none

/-- A factory that is asked for a daemon it has already started says so, and succeeds. -/
def started (world : DaemonWorld) : Option StorletDaemon :=
  if call.startTook then
    some (world.daemon.getD ⟨world.host.touched.length, call.home⟩)
  else world.daemon

end FlowCall

namespace StorletGateway

variable (gateway : StorletGateway) (call : FlowCall)

def storletDir : Location := resolve gateway.cwd (gateway.paths.getHostStorletDir gateway.main)

def onFiles {α : Type} (action : HostAction α) : FlowAction α := fun world =>
  let (result, host) := action world.host
  (result.mapError .gateway, { world with host })

def statusAnswer : Except SandboxException Bool :=
  RunTimeSandbox.getStorletDaemonStatus gateway.limits gateway.writeFd call.status
    call.sreq.storletMain

def stopAnswer : Except SandboxException Unit :=
  RunTimeSandbox.stopStorletDaemon gateway.limits gateway.writeFd call.stop call.sreq.storletMain

def startAnswer : Except SandboxException Unit :=
  gateway.sandbox.startStorletDaemon gateway.limits gateway.writeFd call.start
    (RunTimeSandbox.getStorletClasspath call.sreq.storletMain call.sreq.storletId
      call.sreq.dependencies)
    call.sreq.storletMain call.sreq.storletLanguage
    ((call.sreq.storletLanguageVersion.map Json.str).getD .null)

def restartAnswer (node : Node) : Except RestartError Container × Node :=
  Storlets.restart gateway.runtime gateway.conf gateway.maxContainers gateway.paths.scope
    call.restart node

def getStatus : FlowAction Bool := lift ((gateway.statusAnswer call).mapError .sandbox)

def stop : FlowAction Unit := do
  change fun world => { world with daemon := if call.stopTook then none else world.daemon }
  lift ((gateway.stopAnswer call).mapError .sandbox)

def start : FlowAction Unit := do
  change fun world => { world with daemon := call.started world }
  lift ((gateway.startAnswer call).mapError .sandbox)

def restart : FlowAction Unit := fun world =>
  let (result, node) := gateway.restartAnswer call world.node
  ((result.map fun _ => ()).mapError .restart,
    { world with node, daemon := call.left node world.daemon })

/-- `except StorletRuntimeException` around a request to the factory. -/
def exceptRuntime {α : Type} (body handler : FlowAction α) : FlowAction α :=
  body.handling fun
    | .sandbox (.storletRuntimeException _) => handler
    | exception => throw exception

def stopOutdated (cacheUpdated isRunning : Bool) : FlowAction Bool :=
  if cacheUpdated && isRunning then do
    exceptRuntime (gateway.stop call) (gateway.restart call)
    pure false
  else pure isRunning

def activateStorletDaemon (cacheUpdated : Bool) : FlowAction Unit := do
  let isRunning ← exceptRuntime (gateway.getStatus call) do
    gateway.restart call
    pure false
  let isRunning ← gateway.stopOutdated call cacheUpdated isRunning
  if isRunning then pure () else gateway.start call

/-- `StorletInvocationProtocol.__init__`. -/
def initProtocol : FlowAction Unit :=
  if call.sreq.extraDataList.any fun source => source.source.hasFd then throw .extraSource
  else pure ()

/-- `invocation_flow`, up to `communicate`. -/
def invocationFlow : FlowAction Unit := do
  let containerUpdated ← onFiles (updateContainerFromCache gateway.paths call.env call.sreq)
  gateway.activateStorletDaemon call containerUpdated
  initProtocol call

def step (world : DaemonWorld) : FlowEvent → DaemonWorld
  | .invoke call => (gateway.invocationFlow call world).2
  | .change stays others ends =>
      let node := { world.node with running := world.node.running.filter stays ++ others }
      { world with
        node
        daemon := if ends then none
          else world.daemon.filter fun daemon => daemon.home ∈ node.running }

/-- A change to a file of the storlet's directory. -/
def Changes (touch : Touch) : Prop :=
  (touch.act = .write ∨ touch.act = .chmod) ∧ Above gateway.storletDir touch.place

instance (touch : Touch) : Decidable (gateway.Changes touch) :=
  inferInstanceAs (Decidable ((_ ∨ _) ∧ _ ∧ _))

/-- No file of the storlet's directory has been changed since the daemon was started. -/
def Unchanged (daemon : StorletDaemon) (host : Host) : Prop :=
  ∀ touch ∈ host.touched.drop daemon.loaded, ¬ gateway.Changes touch

structure Truthful (world : DaemonWorld) : Prop where
  main : call.sreq.storletMain = gateway.main
  cwd : call.env.cwd = gateway.cwd
  status : ∀ running, gateway.statusAnswer call = .ok running → running = world.daemon.isSome
  stop : gateway.stopAnswer call = .ok () → call.stopTook = true
  start : gateway.startAnswer call = .ok () → call.startTook = true

def Fits (world : DaemonWorld) : FlowEvent → Prop
  | .invoke call => gateway.Truthful call world
  | .change _ _ _ => True

/-- A call that reaches `communicate` is served by a daemon that has loaded the files as they are. -/
def Fresh (world : DaemonWorld) : FlowEvent → Prop
  | .invoke call => (gateway.invocationFlow call world).1 = .ok () →
      ∃ daemon, (gateway.invocationFlow call world).2.daemon = some daemon ∧
        gateway.Unchanged daemon (gateway.invocationFlow call world).2.host
  | .change _ _ _ => True

/-- The daemon that is not started anew. -/
def survivor (world : DaemonWorld) (updated : Bool) : Option StorletDaemon :=
  let left := call.left (gateway.restartAnswer call world.node).2 world.daemon
  match gateway.statusAnswer call with
  | .ok _ => if updated then if call.stopTook then none else left else world.daemon
  | .error _ => left

/-- A daemon that is not started anew has loaded the files as they were before the call, which does
not change them. -/
def Unspoilt (world : DaemonWorld) : FlowEvent → Prop
  | .invoke call => (gateway.invocationFlow call world).1 = .ok () →
      match updateContainerFromCache gateway.paths call.env call.sreq world.host with
      | (.ok updated, host) => ∀ daemon, gateway.survivor call world updated = some daemon →
          gateway.Unchanged daemon world.host ∧
            ∀ touch ∈ host.touched.drop world.host.touched.length, ¬ gateway.Changes touch
      | (.error _, _) => True
  | .change _ _ _ => True

end StorletGateway

section Activation

variable {gateway : StorletGateway} {call : FlowCall} {world : DaemonWorld}

open StorletGateway

@[simp] theorem FlowCall.left_none (call : FlowCall) (node : Node) : call.left node none = none := by
  simp [FlowCall.left]

theorem exceptRuntime_lift {α : Type} (answer : Except SandboxException α)
    (handler : FlowAction α) :
    exceptRuntime (lift (answer.mapError .sandbox)) handler =
      match answer with
      | .ok value => pure value
      | .error (.storletRuntimeException _) => handler
      | .error (.other exception) => throw (.sandbox (.other exception)) := by
  rcases answer with (message | exception) | value <;> rfl

theorem restart_meets (gateway : StorletGateway) (call : FlowCall) (world : DaemonWorld) :
    Meets (· = world) (gateway.restart call)
      (fun _ final => final.host = world.host ∧
        final.daemon = call.left (gateway.restartAnswer call world.node).2 world.daemon)
      (fun _ => True) := by
  rintro state rfl
  unfold StorletGateway.restart
  rcases gateway.restartAnswer call state.node with ⟨exception | container, node⟩
  · trivial
  · exact ⟨rfl, rfl⟩

theorem stop_meets (took : gateway.stopAnswer call = .ok () → call.stopTook = true)
    (world : DaemonWorld) :
    Meets (· = world) (exceptRuntime (gateway.stop call) (gateway.restart call))
      (fun _ final => final.host = world.host ∧
        final.daemon = if call.stopTook then none
          else call.left (gateway.restartAnswer call world.node).2 world.daemon)
      (fun _ => True) := by
  rintro state rfl
  let stopped : DaemonWorld :=
    { state with daemon := if call.stopTook then none else state.daemon }
  have asked : exceptRuntime (gateway.stop call) (gateway.restart call) state =
      exceptRuntime (lift ((gateway.stopAnswer call).mapError .sandbox)) (gateway.restart call)
        stopped := rfl
  rw [asked, exceptRuntime_lift]
  rcases answer : gateway.stopAnswer call with (message | exception) | _
  · refine Meets.weaken (restart_meets gateway call stopped) (fun _ => id) ?_ (fun _ => id) _ rfl
    rintro _ final ⟨host, daemon⟩
    refine ⟨host, daemon.trans ?_⟩
    cases took : call.stopTook <;> simp [stopped, took]
  · trivial
  · refine ⟨rfl, ?_⟩
    simp [stopped, took answer]

theorem start_meets (took : gateway.startAnswer call = .ok () → call.startTook = true)
    (host : Host) {left : Option StorletDaemon} {isRunning : Bool}
    (running : isRunning = true → left.isSome = true) :
    Meets (fun world => world.host = host ∧ world.daemon = left)
      (if isRunning then pure () else gateway.start call)
      (fun _ final => final.host = host ∧
        final.daemon = some (left.getD ⟨host.touched.length, call.home⟩))
      (fun _ => True) := by
  refine .ite (fun runs => .pure ?_) fun _ => ?_
  · rintro world ⟨sameHost, sameDaemon⟩
    obtain ⟨daemon, found⟩ := Option.isSome_iff_exists.mp (running runs)
    exact ⟨sameHost, by simp [sameDaemon, found]⟩
  · rintro world ⟨rfl, rfl⟩
    unfold StorletGateway.start
    rw [bind_apply, change_apply]
    dsimp only
    rw [lift_apply]
    rcases answer : gateway.startAnswer call with exception | _
    · trivial
    · exact ⟨rfl, by simp [FlowCall.started, took answer]⟩

theorem getStatus_meets (gateway : StorletGateway) (call : FlowCall) (world : DaemonWorld) :
    Meets (· = world)
      (exceptRuntime (gateway.getStatus call) do
        gateway.restart call
        pure false)
      (fun isRunning final => match gateway.statusAnswer call with
        | .ok running => isRunning = running ∧ final = world
        | .error _ => isRunning = false ∧ final.host = world.host ∧
            final.daemon = call.left (gateway.restartAnswer call world.node).2 world.daemon)
      (fun _ => True) := by
  unfold StorletGateway.getStatus
  rw [exceptRuntime_lift]
  rcases gateway.statusAnswer call with (message | exception) | running
  · exact .bind _ (restart_meets gateway call world) fun _ => .pure fun _ left => ⟨rfl, left⟩
  · exact .throw fun _ _ => trivial
  · exact .pure fun _ same => ⟨rfl, same⟩

/-- A call that gets past the activation is served by the survivor, or by a daemon that has been
started after all changes. -/
theorem activate_meets (truthful : gateway.Truthful call world) (cacheUpdated : Bool) :
    Meets (· = world) (gateway.activateStorletDaemon call cacheUpdated)
      (fun _ final => final.host = world.host ∧
        final.daemon = some ((gateway.survivor call world cacheUpdated).getD
          ⟨world.host.touched.length, call.home⟩))
      (fun _ => True) := by
  refine .bind _ (getStatus_meets gateway call world) fun isRunning => ?_
  refine .bind (fun isRunning final => (isRunning = true → final.daemon.isSome = true) ∧
    final.host = world.host ∧
      final.daemon = gateway.survivor call world cacheUpdated) ?_ fun isRunning => ?_
  · unfold survivor stopOutdated
    rcases status : gateway.statusAnswer call with exception | running
    · -- the sandbox has been restarted, and nothing is to be stopped
      rintro final ⟨rfl, left⟩
      rw [Bool.and_false]
      exact ⟨nofun, left⟩
    · have truth := truthful.status running status
      dsimp only
      rintro final ⟨rfl, rfl⟩
      cases cacheUpdated with
      | false => exact ⟨fun runs => truth ▸ runs, rfl, rfl⟩
      | true =>
        cases isRunning with
        | true =>
          exact Meets.bind _ (stop_meets truthful.stop final) (fun _ => .pure fun _ stopped =>
            ⟨nofun, stopped⟩) _ rfl
        | false =>
          have absent : final.daemon = none := by simpa using truth.symm
          exact ⟨nofun, rfl, by simp [absent]⟩
  · rintro final ⟨running, left⟩
    exact start_meets truthful.start world.host (left.2 ▸ running) final left

theorem flow_reached (truthful : gateway.Truthful call world)
    (reached : (gateway.invocationFlow call world).1 = .ok ()) :
    ∃ updated host,
      updateContainerFromCache gateway.paths call.env call.sreq world.host = (.ok updated, host) ∧
        (gateway.invocationFlow call world).2.host = host ∧
        (gateway.invocationFlow call world).2.daemon =
          some ((gateway.survivor call world updated).getD ⟨host.touched.length, call.home⟩) := by
  unfold StorletGateway.invocationFlow at reached ⊢
  rcases brings : updateContainerFromCache gateway.paths call.env call.sreq world.host
    with ⟨exception | updated, host⟩
  · rw [bind_apply, onFiles, brings] at reached
    cases reached
  have brought : onFiles (updateContainerFromCache gateway.paths call.env call.sreq) world =
      (.ok updated, { world with host }) := by
    rw [onFiles, brings]
    rfl
  have still : gateway.Truthful call { world with host } :=
    ⟨truthful.main, truthful.cwd, truthful.status, truthful.stop, truthful.start⟩
  rw [bind_of_ok brought] at reached ⊢
  have initiated {after : DaemonWorld → Prop} :
      Meets after (initProtocol call) (fun _ => after) (fun _ => True) :=
    .ite (fun _ => .throw fun _ _ => trivial) fun _ => .pure fun _ => id
  have shown := Meets.bind _ (activate_meets still updated) (fun _ => initiated) _ rfl
  refine ⟨updated, host, rfl, ?_⟩
  revert reached shown
  generalize (gateway.activateStorletDaemon call updated >>= _) _ = outcome
  intro reached shown
  obtain ⟨result, final⟩ := outcome
  obtain rfl : result = .ok () := reached
  exact shown

end Activation

/-! ## What a call does to the host and to the daemon -/

section Steps

variable {gateway : StorletGateway} {call : FlowCall} {world : DaemonWorld}

open StorletGateway

theorem update_grows (paths : RunTimePaths) (env : Surroundings) (sreq : ContainerStorletRequest) :
    Moves (Host.Grows fun _ => True) (updateContainerFromCache paths env sreq) := by
  refine .bind (ensureDirectory_grows env trivial) fun _ => ?_
  refine .bind (bringFromCache_grows paths env sreq fun _ => trivial) fun _ => ?_
  exact .forEach (fun _ dep _ =>
    .bind (bringFromCache_grows paths env sreq fun _ => trivial) fun _ => .pure _) _

-- the host is as it was, and the daemon, if there is one, is one of these
def Has (host : Host) (candidate : StorletDaemon → Prop) (world : DaemonWorld) : Prop :=
  world.host = host ∧ ∀ daemon, world.daemon = some daemon → candidate daemon

variable {host : Host} {candidate : StorletDaemon → Prop}

theorem getStatus_has : Keeps (Has host candidate) (gateway.getStatus call) := .lift _

theorem restart_has : Keeps (Has host candidate) (gateway.restart call) := by
  intro world has
  have kept (node : Node) :
      Has host candidate { world with node, daemon := call.left node world.daemon } := by
    refine ⟨has.1, fun daemon left => has.2 daemon ?_⟩
    unfold FlowCall.left at left
    split at left
    · exact (Option.filter_eq_some_iff.mp left).1
    · cases left
  unfold StorletGateway.restart
  rcases gateway.restartAnswer call world.node with ⟨exception | container, node⟩
  · exact kept node
  · exact kept node

theorem stop_has : Keeps (Has host candidate) (gateway.stop call) := by
  refine .bind (.change fun world has => ?_) fun _ => .lift _
  cases call.stopTook with
  | true => exact ⟨has.1, nofun⟩
  | false => exact has

theorem start_has (fresh : candidate ⟨host.touched.length, call.home⟩) :
    Keeps (Has host candidate) (gateway.start call) := by
  refine .bind (.change fun world has => ⟨has.1, fun daemon serving => ?_⟩) fun _ => .lift _
  obtain ⟨rfl, before⟩ := has
  unfold FlowCall.started at serving
  split at serving
  · obtain rfl := Option.some.inj serving
    cases found : world.daemon with
    | none => exact fresh
    | some daemon => exact before daemon found
  · exact before daemon serving

theorem exceptRuntime_keeps {α : Type} {Inv : DaemonWorld → Prop} {body handler : FlowAction α}
    (kept : Keeps Inv body) (handles : Keeps Inv handler) :
    Keeps Inv (exceptRuntime body handler) := by
  refine .handling Inv kept fun exception => ?_
  split
  · exact handles
  · exact Keeps.throw _

theorem activate_has (fresh : candidate ⟨host.touched.length, call.home⟩) (cacheUpdated : Bool) :
    Keeps (Has host candidate) (gateway.activateStorletDaemon call cacheUpdated) := by
  have restarted : Keeps (Has host candidate) (do gateway.restart call; pure false) :=
    .bind restart_has fun _ => .pure _
  refine .bind (exceptRuntime_keeps getStatus_has restarted) fun isRunning => ?_
  have stopped : Keeps (Has host candidate) (gateway.stopOutdated call cacheUpdated isRunning) := by
    refine Meets.ite (fun _ => ?_) fun _ => Keeps.pure _
    exact Keeps.bind (exceptRuntime_keeps stop_has restart_has) fun _ => .pure _
  refine .bind stopped fun isRunning => ?_
  exact Meets.ite (fun _ => Keeps.pure _) fun _ => start_has fresh

/-- Whatever a call ends with, the daemon is the one it has found or has been started after what the
call has done to the host. -/
theorem flow_has (gateway : StorletGateway) (call : FlowCall) (world : DaemonWorld) :
    Has (updateContainerFromCache gateway.paths call.env call.sreq world.host).2
      (fun daemon => world.daemon = some daemon ∨ daemon.loaded =
        (updateContainerFromCache gateway.paths call.env call.sreq world.host).2.touched.length)
      (gateway.invocationFlow call world).2 := by
  unfold StorletGateway.invocationFlow
  rcases brings : updateContainerFromCache gateway.paths call.env call.sreq world.host
    with ⟨exception | updated, host⟩
  · rw [bind_apply, onFiles, brings]
    exact ⟨rfl, fun _ found => .inl found⟩
  · have brought : onFiles (updateContainerFromCache gateway.paths call.env call.sreq) world =
        (.ok updated, { world with host }) := by
      rw [onFiles, brings]
      rfl
    rw [bind_of_ok brought]
    refine Shows.final (Keeps.bind (activate_has (.inr rfl) updated) (fun _ => ?_) _
      ⟨rfl, fun _ found => .inl found⟩)
    exact Meets.ite (fun _ => Keeps.throw _) fun _ => Keeps.pure _

def Loaded (world : DaemonWorld) : Prop :=
  ∀ daemon, world.daemon = some daemon → daemon.loaded ≤ world.host.touched.length

theorem loaded_step (loaded : Loaded world) (event : FlowEvent) :
    Loaded (gateway.step world event) := by
  intro daemon serving
  cases event with
  | invoke call =>
    obtain ⟨sameHost, before⟩ := flow_has gateway call world
    obtain ⟨new, grown, -⟩ :=
      (update_grows gateway.paths call.env call.sreq world.host).touched
    change daemon.loaded ≤ (gateway.invocationFlow call world).2.host.touched.length
    rw [sameHost]
    rcases before daemon serving with old | fresh
    · have earlier := loaded daemon old
      rw [grown, List.length_append]
      omega
    · exact fresh.le
  | change stays others ends =>
    cases ends with
    | true => cases serving
    | false => exact loaded daemon (Option.filter_eq_some_iff.mp serving).1

theorem survivor_before {updated : Bool} {daemon : StorletDaemon}
    (survives : gateway.survivor call world updated = some daemon) :
    world.daemon = some daemon := by
  have left (node : Node) (stays : call.left node world.daemon = some daemon) :
      world.daemon = some daemon := by
    unfold FlowCall.left at stays
    split at stays
    · exact (Option.filter_eq_some_iff.mp stays).1
    · cases stays
  unfold survivor at survives
  split at survives
  · split at survives
    · split at survives
      · cases survives
      · exact left _ survives
    · exact survives
  · exact left _ survives

theorem unchanged_split {daemon : StorletDaemon} {before after : Host}
    (grows : before.Grows (fun _ => True) after) (loaded : daemon.loaded ≤ before.touched.length) :
    gateway.Unchanged daemon after ↔ gateway.Unchanged daemon before ∧
      ∀ touch ∈ after.touched.drop before.touched.length, ¬ gateway.Changes touch := by
  obtain ⟨new, grown, -⟩ := grows.touched
  unfold Unchanged
  rw [grown, List.drop_append_of_le_length loaded, List.drop_left, List.forall_mem_append]

theorem fresh_iff_unspoilt (loaded : Loaded world) {event : FlowEvent}
    (fits : gateway.Fits world event) :
    gateway.Fresh world event ↔ gateway.Unspoilt world event := by
  cases event with
  | change stays others ends => exact Iff.rfl
  | invoke call =>
    dsimp only [Fresh, Unspoilt]
    refine imp_congr_right fun reached => ?_
    obtain ⟨updated, host, brings, sameHost, serving⟩ := flow_reached fits reached
    have grows : world.host.Grows (fun _ => True) host := by
      have moved := update_grows gateway.paths call.env call.sreq world.host
      rwa [brings] at moved
    rw [sameHost, serving, brings]
    simp only [Option.some.injEq, exists_eq_left']
    cases survives : gateway.survivor call world updated with
    | none =>
      -- the daemon is started after all changes
      refine iff_of_true ?_ nofun
      intro touch inside
      simp at inside
    | some daemon =>
      have before := loaded daemon (survivor_before survives)
      simpa using unchanged_split grows before

end Steps

section Settled

variable {gateway : StorletGateway} {call : FlowCall}

open StorletGateway

/-- The objects of the call are not kept in the storlet's directory by the cache. -/
def Outside (gateway : StorletGateway) (call : FlowCall) : Prop :=
  ∀ object ∈ objects call.sreq,
    ¬ Above gateway.storletDir (cachePlace gateway.paths call.env.cwd object)

def Quiet (gateway : StorletGateway) (touch : Touch) : Prop := ¬ gateway.Changes touch

/-- What is not reported has left the files of the storlet's directory as they were. -/
def Reports (gateway : StorletGateway) (start : Host) (updated : Bool) (host : Host) : Prop :=
  updated = false → start.Grows (Quiet gateway) host

theorem quiet_makedirs (gateway : StorletGateway) (place : Location) :
    Quiet gateway ⟨.makedirs, place⟩ := by
  rintro ⟨written | moded, -⟩
  · cases written
  · cases moded

theorem stays_quiet {α : Type} {start : Host} {body : HostAction α}
    (moves : Moves (Host.Grows (Quiet gateway)) body) :
    Meets (start.Grows (Quiet gateway)) body (fun _ => start.Grows (Quiet gateway))
      (fun _ => True) := by
  have kept : Keeps (start.Grows (Quiet gateway)) body :=
    moves.keeps fun first last grows before => IsTrans.trans start first last before grows
  exact kept.meets (fun _ => id) fun _ _ => trivial

theorem anything_reported {α : Type} {start : Host} {before : Host → Prop}
    (body : HostAction α) {updated : Bool} (reported : updated = true) :
    Meets before body (fun _ => Reports gateway start updated) (fun _ => True) := by
  refine (Keeps.any body).weaken (fun _ _ => trivial) (fun _ _ _ unreported => ?_) fun _ => id
  rw [reported] at unreported
  cases unreported

theorem bringFromCache_reports {start : Host} {object : Text × Bool}
    (outside : ¬ Above gateway.storletDir (cachePlace gateway.paths call.env.cwd object)) :
    Meets (start.Grows (Quiet gateway))
      (bringFromCache gateway.paths call.env call.sreq object.1 object.2)
      (Reports gateway start) (fun _ => True) := by
  have cached (act : Act) : Quiet gateway
      ⟨act, resolve call.env.cwd (join (gateway.paths.cacheDir object.2) object.1)⟩ :=
    fun changes => outside changes.2
  refine .bind _ (stays_quiet (ensureDirectory_grows _ (quiet_makedirs _ _))) fun _ => ?_
  refine .bind _ (stays_quiet (cacheOutdated_grows _ _ _ _)) fun outdated => ?_
  refine .bind _ (stays_quiet (.when (bringToCache_grows _ _ _ cached))) fun _ => ?_
  refine .bind _ (stays_quiet (containerOutdated_grows _ _ _ (quiet_makedirs _ _))) fun update => ?_
  cases update with
  | true =>
    -- the copy may change anything, and is reported
    exact .bind _ (anything_reported _ rfl) fun _ => .pure fun _ reports => reports
  | false => exact .bind _ (.pure fun _ => id) fun _ => .pure fun _ grows _ => grows

theorem bringDependency_reports {start : Host} {dep : Text} (updated : Bool)
    (outside : ¬ Above gateway.storletDir (cachePlace gateway.paths call.env.cwd (dep, false))) :
    Meets (Reports gateway start updated)
      (bringDependency gateway.paths call.env call.sreq updated dep)
      (Reports gateway start) (fun _ => True) := by
  unfold bringDependency
  cases updated with
  | true => exact .bind _ (anything_reported _ rfl) fun _ => .pure fun _ reports => reports
  | false =>
    have brought := (@bringFromCache_reports gateway call start (dep, false) outside).weaken
      (fun host (reports : Reports gateway start false host) => reports rfl) (fun _ _ => id)
      fun _ => id
    refine .bind _ brought fun found => .pure fun host reports => ?_
    rwa [Bool.false_or]

theorem update_reports (outside : Outside gateway call) (start : Host) :
    Meets (· = start) (updateContainerFromCache gateway.paths call.env call.sreq)
      (Reports gateway start) (fun _ => True) := by
  have made : Meets (· = start) (ensureDirectory call.env gateway.paths.hostStorletBaseDir)
      (fun _ => start.Grows (Quiet gateway)) (fun _ => True) := by
    refine (stays_quiet (ensureDirectory_grows _ (quiet_makedirs _ _))).weaken ?_ (fun _ _ => id)
      fun _ => id
    rintro _ rfl
    exact Std.Refl.refl _
  have storlet : (call.sreq.storletId, true) ∈ objects call.sreq := List.mem_cons_self ..
  have brought := @bringFromCache_reports gateway call start _ (outside _ storlet)
  unfold updateContainerFromCache
  refine .bind _ made fun _ => .bind _ brought fun updated => ?_
  refine Meets.forEach _ (fun updated dep listed => ?_) updated
  refine bringDependency_reports updated (outside (dep, false) ?_)
  simpa [objects] using listed

/-- A call that fails to bring something, or reports a change, does not leave the daemon it has
found. -/
def Settles (gateway : StorletGateway) (world : DaemonWorld) : FlowEvent → Prop
  | .invoke call => Outside gateway call ∧
      ((updateContainerFromCache gateway.paths call.env call.sreq world.host).1 ≠ .ok false →
        ∀ daemon, (gateway.invocationFlow call world).2.daemon = some daemon →
          world.daemon ≠ some daemon)
  | .change _ _ _ => True

/-- No file of the storlet's directory has been changed under the daemon. -/
def Current (gateway : StorletGateway) (world : DaemonWorld) : Prop :=
  Loaded world ∧ ∀ daemon, world.daemon = some daemon → gateway.Unchanged daemon world.host

theorem current_step {world : DaemonWorld} (current : Current gateway world) {event : FlowEvent}
    (settles : Settles gateway world event) : Current gateway (gateway.step world event) := by
  refine ⟨loaded_step current.1 event, fun daemon serving => ?_⟩
  cases event with
  | change stays others ends =>
    cases ends with
    | true => cases serving
    | false => exact current.2 daemon (Option.filter_eq_some_iff.mp serving).1
  | invoke call =>
    obtain ⟨outside, replaced⟩ := settles
    obtain ⟨sameHost, before⟩ := flow_has gateway call world
    change gateway.Unchanged daemon (gateway.invocationFlow call world).2.host
    rw [sameHost]
    rcases before daemon serving with found | fresh
    · have unreported : (updateContainerFromCache gateway.paths call.env call.sreq world.host).1 =
          .ok false := by
        by_contra reported
        exact replaced reported daemon serving found
      have reports := update_reports outside world.host _ rfl
      rcases brings : updateContainerFromCache gateway.paths call.env call.sreq world.host
        with ⟨result, host⟩
      rw [brings] at unreported reports
      dsimp only at unreported
      rw [unreported] at reports
      have grows := reports rfl
      obtain ⟨new, grown, quiet⟩ := grows.touched
      refine (unchanged_split (grows.mono fun _ _ => trivial) (current.1 daemon found)).mpr
        ⟨current.2 daemon found, ?_⟩
      rw [grown, List.drop_left]
      exact quiet
    · intro touch inside
      rw [fresh, List.drop_length] at inside
      cases inside

/-- As long as every call settles, each one that reaches `communicate` is served by a daemon that
was started after the last change. -/
theorem settled_fresh (gateway : StorletGateway) (host : Host) (node : Node)
    {events : List FlowEvent}
    (settles : Along gateway.step
      (fun world event => gateway.Fits world event ∧ Settles gateway world event) { host, node }
      events) :
    Along gateway.step gateway.Fresh { host, node } events := by
  have initial : Current gateway { host, node } := by
    constructor <;> intro daemon serving <;> cases serving
  have keeps (world : DaemonWorld) (event : FlowEvent) (current : Current gateway world)
      (settles : gateway.Fits world event ∧ Settles gateway world event) :
      Current gateway (gateway.step world event) := current_step current settles.2
  refine Along.mono keeps (fun world event current settles => ?_) initial settles
  have kept := current_step current settles.2
  cases event with
  | change stays others ends => trivial
  | invoke call =>
    intro reached
    obtain ⟨updated, host, -, -, serving⟩ := flow_reached settles.1 reached
    exact ⟨_, serving, kept.2 _ serving⟩

end Settled

def jobGateway : StorletGateway where
  paths := RunTimePaths.init "AUTH_test" .empty
  cwd := []
  main := "org.Main"
  sandbox := ⟨"WARN", 4⟩
  limits := ⟨9, 9⟩
  writeFd := 4
  runtime := .docker
  conf := .empty
  maxContainers := 0

def lostRequest : ClientPeer := ⟨-1, [], by simp, false⟩

def successReply : ClientPeer where
  rc := 0
  chunks := [encodeUtf8 "\x7b\"status\": true, \"message\": \"OK\"\x7d".toList]
  given := by decide +kernel
  fails := false

def jobCall (content : Bytes) (contentLength timestamp : Text) (now : ℚ) (status : ClientPeer)
    (restart : RestartAnswers) : FlowCall where
  env := servingVersion content now
  sreq := versionRequest contentLength timestamp
  status
  stop := successReply
  start := successReply
  restart
  oldFactory := true
  home := ⟨"AUTH_test_AUTH_test", 0⟩

def failedRestart : RestartAnswers :=
  { tenant := { get := .apiError }, fallback := { get := .apiError } }

theorem jobCall_truthful {content : Bytes} {contentLength timestamp : Text} {now : ℚ}
    {status : ClientPeer} {restart : RestartAnswers} {world : DaemonWorld}
    (truth : (jobGateway.statusAnswer (jobCall content contentLength timestamp now status
      restart)).toOption.all (· == world.daemon.isSome) = true) :
    jobGateway.Truthful (jobCall content contentLength timestamp now status restart) world := by
  refine ⟨rfl, rfl, fun running answered => ?_, fun _ => rfl, fun _ => rfl⟩
  rw [answered] at truth
  simpa [Except.toOption] using truth

theorem unspoilt_of_replaced {call : FlowCall} {world : DaemonWorld} {updated : Bool}
    (brings : (updateContainerFromCache jobGateway.paths call.env call.sreq
      world.host).1.toOption = some updated)
    (replaced : jobGateway.survivor call world updated = none) :
    jobGateway.Unspoilt world (.invoke call) := by
  intro _
  rcases called : updateContainerFromCache jobGateway.paths call.env call.sreq world.host
    with ⟨exception | other, host⟩
  · trivial
  · rw [called] at brings
    obtain rfl := Option.some.inj brings
    intro daemon survives
    rw [replaced] at survives
    cases survives

def firstVersion : FlowCall := jobCall [1] "1" "1" 1 lostRequest {}

def servedWorld : DaemonWorld := jobGateway.step { host := emptyHost } (.invoke firstVersion)

/-- The call copies the second version, and finds neither the factory nor a container to stop. -/
def failedCall : FlowCall := jobCall [1, 2] "2" "2" 2 lostRequest failedRestart

def staleWorld : DaemonWorld := jobGateway.step servedWorld (.invoke failedCall)

theorem staleWorld_serves : ¬ jobGateway.Fresh staleWorld
    (.invoke (jobCall [1, 2] "2" "2" 2 successReply {})) := by
  intro fresh
  have reached : (jobGateway.invocationFlow (jobCall [1, 2] "2" "2" 2 successReply {})
      staleWorld).1.toBool = true := by decide +kernel
  have ended : (jobGateway.invocationFlow (jobCall [1, 2] "2" "2" 2 successReply {})
      staleWorld).1 = .ok () := by
    generalize (jobGateway.invocationFlow _ staleWorld).1 = result at reached
    cases result with
    | ok _ => rfl
    | error exception => cases reached
  obtain ⟨daemon, serving, unchanged⟩ := fresh ended
  have first : (jobGateway.invocationFlow (jobCall [1, 2] "2" "2" 2 successReply {})
      staleWorld).2.daemon = some ⟨10, ⟨"AUTH_test_AUTH_test", 0⟩⟩ := by decide +kernel
  obtain rfl := Option.some.inj (serving.symm.trans first)
  have changed : ((jobGateway.invocationFlow (jobCall [1, 2] "2" "2" 2 successReply {})
      staleWorld).2.host.touched.drop 10).any (fun touch => jobGateway.Changes touch) = true := by
    decide +kernel
  obtain ⟨touch, inside, changes⟩ := List.any_eq_true.mp changed
  exact unchanged touch inside (of_decide_eq_true changes)

end Storlets
