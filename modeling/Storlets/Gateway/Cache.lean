import Storlets.Gateway.Host
import Storlets.Gateway.RunTimePaths

set_option autoImplicit false

namespace Storlets

open PyStr PosixPath Effect

section Places

variable (paths : RunTimePaths) (cwd : Location) (sreq : ContainerStorletRequest)

-- the storlet and its dependencies, with whether it is the storlet
def objects : List (Text × Bool) :=
  (sreq.storletId, true) :: sreq.dependencies.map fun dep => (dep, false)

def cachePlace (object : Text × Bool) : Location :=
  resolve cwd (join (paths.cacheDir object.2) object.1)

def storletPlace : Location := resolve cwd (paths.getHostStorletDir sreq.storletMain)

def containerPlace (name : Text) : Location :=
  resolve cwd (join (paths.getHostStorletDir sreq.storletMain) name)

end Places

variable (paths : RunTimePaths) (env : Surroundings) (sreq : ContainerStorletRequest)

def ensureDirectory (path : Text) : HostAction Unit := do
  if ← pathExists env path then pure () else makedirs env path

/-- `storlet_content_length` of the request, as `int` reads it. -/
def storletSize : Except GatewayError Int :=
  match sreq.options.storlet.get? "storlet_content_length" with
  | some text =>
      match intOf 10 (rstrip 'L' text) with
      | some size => .ok size
      | none => .error .other
  | none => .error .other

def storletTime : Except GatewayError PyStr.Float :=
  match sreq.options.storlet.get? "storlet_x_timestamp" with
  | some text =>
      match float text with
      | some time => .ok time
      | none => .error .other
  | none => .error .other

/-- Whether the object has to be brought into the cache: a dependency is not when it is there. -/
def cacheOutdated (cacheTarget : Text) (isStorlet : Bool) : HostAction Bool := do
  if ← pathIsfile env cacheTarget then
    if isStorlet then
      let fstat ← stat env cacheTarget
      let size ← lift (storletSize sreq)
      let time ← lift (storletTime sreq)
      pure ((fstat.content.length : Int) ≠ size || time.above fstat.mtime)
    else pure false
  else pure true

/-- `int(perm, 8) & 0o700` of the object's permissions, when it has some. -/
def cachePermission : Option Text → Except GatewayError Nat
  | none | some [] => .ok 0o600
  | some perm =>
      match intOf 8 perm with
      | some bits => .ok ((bits / 64 % 8).toNat * 64)
      | none => .error .other

def bringToCache (cacheTarget name : Text) (isStorlet : Bool) : HostAction Unit := do
  let (data, perm) ← attempt env (.getObject name) .fileManagement
    (pure (if isStorlet then env.getStorlet name else env.getDependency name))
  let perm ← lift (cachePermission perm)
  openWrite env cacheTarget
  chmod env cacheTarget perm
  forEach (fun _ chunk => writeChunk env cacheTarget chunk) () data

def containerOutdated (storletDir cacheTarget containerTarget : Text) : HostAction Bool := do
  if ← pathExists env storletDir then
    if ← pathIsfile env containerTarget then
      let cached ← stat env cacheTarget
      let container ← stat env containerTarget
      pure (cached.content.length ≠ container.content.length || cached.mtime < container.mtime)
    else pure true
  else do
    makedirs env storletDir
    pure true

/-- Whether the file of the container was replaced. -/
def bringFromCache (objName : Text) (isStorlet : Bool) : HostAction Bool := do
  ensureDirectory env (paths.cacheDir isStorlet)
  let cacheTarget := join (paths.cacheDir isStorlet) objName
  let outdated ← cacheOutdated env sreq cacheTarget isStorlet
  when outdated (bringToCache env cacheTarget objName isStorlet)
  let storletDir := paths.getHostStorletDir sreq.storletMain
  let containerTarget := join storletDir objName
  let update ← containerOutdated env storletDir cacheTarget containerTarget
  when update (copy2 env cacheTarget containerTarget)
  pure update

def bringDependency (containerUpdated : Bool) (dep : Text) : HostAction Bool := do
  let updated ← bringFromCache paths env sreq dep false
  pure (containerUpdated || updated)

def updateContainerFromCache : HostAction Bool := do
  ensureDirectory env paths.hostStorletBaseDir
  let updated ← bringFromCache paths env sreq sreq.storletId true
  forEach (bringDependency paths env sreq) updated sreq.dependencies

/-! ## What each part touches -/

open Host

variable {allowed : Touch → Prop}

theorem ensureDirectory_grows {path : Text} (fine : allowed ⟨.makedirs, resolve env.cwd path⟩) :
    Moves (Grows allowed) (ensureDirectory env path) :=
  .bind (.look _) fun _ => .ite (.pure _) (makedirs_grows env fine)

theorem cacheOutdated_grows (cacheTarget : Text) (isStorlet : Bool) :
    Moves (Grows allowed) (cacheOutdated env sreq cacheTarget isStorlet) := by
  refine .bind (.look _) fun _ => .ite (.ite ?_ (.pure _)) (.pure _)
  exact .bind (stat_grows env _) fun _ => .bind (.lift _) fun _ => .bind (.lift _) fun _ => .pure _

theorem bringToCache_grows {cacheTarget : Text} (name : Text) (isStorlet : Bool)
    (fine : ∀ act, allowed ⟨act, resolve env.cwd cacheTarget⟩) :
    Moves (Grows allowed) (bringToCache env cacheTarget name isStorlet) := by
  refine .bind (attempt_grows env (.pure _)) fun (data, perm) => ?_
  refine .bind (.lift _) fun perm => .bind (openWrite_grows env (fine _)) fun _ => ?_
  refine .bind (chmod_grows env perm (fine _)) fun _ => ?_
  exact .forEach (fun _ chunk _ => writeChunk_grows env chunk (fine _)) _

theorem containerOutdated_grows {storletDir : Text} (cacheTarget containerTarget : Text)
    (fine : allowed ⟨.makedirs, resolve env.cwd storletDir⟩) :
    Moves (Grows allowed) (containerOutdated env storletDir cacheTarget containerTarget) := by
  refine .bind (.look _) fun _ => .ite (.bind (.look _) fun _ => .ite ?_ (.pure _)) ?_
  · exact .bind (stat_grows env _) fun _ => .bind (stat_grows env _) fun _ => .pure _
  · exact .bind (makedirs_grows env fine) fun _ => .pure _

theorem bringFromCache_grows {objName : Text} {isStorlet : Bool}
    (fine : ∀ touch, allowed touch) :
    Moves (Grows allowed) (bringFromCache paths env sreq objName isStorlet) := by
  refine .bind (ensureDirectory_grows env (fine _)) fun _ => ?_
  refine .bind (cacheOutdated_grows env sreq _ _) fun outdated => ?_
  refine .bind (.when (bringToCache_grows env _ _ fun _ => fine _)) fun _ => ?_
  refine .bind (containerOutdated_grows env _ _ (fine _)) fun update => ?_
  exact .bind (.when (copy2_grows env (fine _) fun _ _ => fine _)) fun _ => .pure update

end Storlets
