import Storlets.Gateway.Cache
import Storlets.Gateway.Registration

set_option autoImplicit false

/-!
# The places an invocation touches on the host
-/

namespace Storlets

open PyStr PosixPath Effect Host

def Host.Exists (host : Host) (place : Location) : Prop :=
  host.isDirectory place ∨ host.isFile place

/-- The directory is above the place. -/
def Above (directory place : Location) : Prop := directory <+: place ∧ directory ≠ place

section Places

variable (paths : RunTimePaths) (cwd : Location) (sreq : ContainerStorletRequest)

/-- The directories the scope has for itself on the host. -/
def ownDirs : List Text :=
  [paths.hostStorletCacheDir, paths.hostDependencyCacheDir, paths.hostStorletBaseDir]

def Inside (place : Location) : Prop := ∃ own ∈ ownDirs paths, resolve cwd own <+: place

instance (place : Location) : Decidable (Inside paths cwd place) :=
  inferInstanceAs (Decidable (∃ own ∈ ownDirs paths, resolve cwd own <+: place))

/-- A name that no file can have ends the call. -/
def reached : List (Text × Bool) := (objects sreq).takeWhile fun object => namesFile object.1

/-- Every place the invocation touches is in a directory of the scope, whatever the host holds
and whatever fails. -/
def HostConfined : Prop :=
  ∀ (env : Surroundings) (host : Host), env.cwd = cwd → host.touched = [] →
    ∀ touch ∈ (updateContainerFromCache paths env sreq host).2.touched, Inside paths cwd touch.place

/-- The storlet's directory is made unless it is above one that has been made. -/
def StorletDirInside : Prop :=
  Inside paths cwd (storletPlace paths cwd sreq) ∨
    Above (storletPlace paths cwd sreq) (resolve cwd paths.hostStorletBaseDir) ∨
    Above (storletPlace paths cwd sreq) (resolve cwd paths.hostStorletCacheDir)

def ObjectConfined (object : Text × Bool) : Prop :=
  Inside paths cwd (cachePlace paths cwd object) ∧ StorletDirInside paths cwd sreq ∧
    Inside paths cwd (containerPlace paths cwd sreq object.1)

def NamesConfined : Prop := ∀ object ∈ reached sreq, ObjectConfined paths cwd sreq object

end Places

theorem reached_eq {sreq : ContainerStorletRequest} (named : namesFile sreq.storletId = true) :
    reached sreq = (sreq.storletId, true) ::
      (sreq.dependencies.takeWhile namesFile).map fun dep => (dep, false) := by
  simp [reached, objects, named, List.takeWhile_map, Function.comp_def]

theorem Inside.below {paths : RunTimePaths} {cwd place : Location} (name : Text)
    (inside : Inside paths cwd place) : Inside paths cwd (place ++ [name]) := by
  obtain ⟨own, listed, above⟩ := inside
  exact ⟨own, listed, above.trans (List.prefix_append _ _)⟩

theorem Host.Grows.exists {allowed : Touch → Prop} {before after : Host} {place : Location}
    (grows : before.Grows allowed after) (there : before.Exists place) : after.Exists place :=
  there.imp (grows.directories place) (grows.files place)

/-- What is above something that exists is a directory. -/
theorem Host.Exists.above {host : Host} {directory place : Location} (there : host.Exists place)
    (above : Above directory place) : host.isDirectory directory := by
  simp only [isDirectory, Bool.or_eq_true, List.any_eq_true, List.isPrefixOf_iff_prefix]
  rcases there with there | there
  · simp only [isDirectory, Bool.or_eq_true, List.any_eq_true, List.isPrefixOf_iff_prefix] at there
    rcases there with ⟨made, listed, below⟩ | ⟨file, listed, below⟩
    · exact .inl ⟨made, listed, above.1.trans below⟩
    · simp only [Bool.and_eq_true, List.isPrefixOf_iff_prefix, decide_eq_true_eq] at below
      refine .inr ⟨file, listed, ?_⟩
      simp only [Bool.and_eq_true, List.isPrefixOf_iff_prefix, decide_eq_true_eq]
      refine ⟨above.1.trans below.1, ?_⟩
      rintro rfl
      exact above.2 (above.1.eq_of_length_le below.1.length_le)
  · refine .inr ⟨place, (PyDict.get?_isSome _ _).mp there, ?_⟩
    simpa [List.isPrefixOf_iff_prefix] using (show directory <+: place ∧ directory ≠ place from above)

theorem ensureDirectory_exists (env : Surroundings) (path : Text) :
    Meets (fun _ => True) (ensureDirectory env path)
      (fun _ host => host.Exists (resolve env.cwd path)) (fun _ => True) := by
  refine .bind _ .look fun there => .ite (fun found => .pure fun host looked => ?_) fun _ => ?_
  · obtain ⟨-, rfl⟩ := looked
    simp only [Bool.or_eq_true, Bool.and_eq_true] at found
    exact found.imp id (·.2)
  · have made : Meets (fun _ => True) (makedirs env path)
        (fun _ host => host.Exists (resolve env.cwd path)) (fun _ => True) := by
      refine attempt_meets env (fun _ _ => trivial) (fun _ _ => trivial) (.change fun host _ => ?_)
      exact .inl (isDirectory_makeDirectory host _)
    exact made.weaken (fun _ _ => trivial) (fun _ _ => id) fun _ => id

/-! ## Names that stay inside are enough -/

section Confined

variable (paths : RunTimePaths) (env : Surroundings) (sreq : ContainerStorletRequest)

def Contained (host : Host) : Prop := ∀ touch ∈ host.touched, Inside paths env.cwd touch.place

/-- What holds before an object is brought. -/
def Ready (isStorlet : Bool) (host : Host) : Prop :=
  Contained paths env host ∧ host.Exists (resolve env.cwd paths.hostStorletBaseDir) ∧
    (isStorlet = false → host.Exists (resolve env.cwd paths.hostStorletCacheDir))

def Settled : Host → Prop := Ready paths env false

variable {paths env}

theorem Host.Grows.contained {before after : Host}
    (grows : before.Grows (fun touch => Inside paths env.cwd touch.place) after)
    (contained : Contained paths env before) : Contained paths env after := by
  obtain ⟨new, grown, fine⟩ := grows.touched
  intro touch inside
  rw [grown] at inside
  exact (List.mem_append.mp inside).elim (contained touch) (fine touch)

theorem Host.Grows.ready {before after : Host} {isStorlet : Bool}
    (grows : before.Grows (fun touch => Inside paths env.cwd touch.place) after)
    (ready : Ready paths env isStorlet before) : Ready paths env isStorlet after :=
  ⟨grows.contained ready.1, grows.exists ready.2.1, fun dep => grows.exists (ready.2.2 dep)⟩

theorem own_inside {own : Text} (listed : own ∈ ownDirs paths) :
    Inside paths env.cwd (resolve env.cwd own) := ⟨own, listed, List.prefix_rfl⟩

theorem ready_of_body {α : Type} {isStorlet : Bool} {body : HostAction α}
    (moves : Moves (Grows fun touch => Inside paths env.cwd touch.place) body) :
    Keeps (Ready paths env isStorlet) body := moves.keeps fun _ _ grows => grows.ready

theorem contained_of_body {α : Type} {body : HostAction α}
    (moves : Moves (Grows fun touch => Inside paths env.cwd touch.place) body) :
    Keeps (Contained paths env) body := moves.keeps fun _ _ grows => grows.contained

/-- The cache directory is there from now on. -/
theorem ensureCacheDir_settles (isStorlet : Bool) :
    Meets (Ready paths env isStorlet) (ensureDirectory env (paths.cacheDir isStorlet))
      (fun _ => Settled paths env) (Contained paths env) := by
  have listed : paths.cacheDir isStorlet ∈ ownDirs paths := by
    cases isStorlet <;> simp [RunTimePaths.cacheDir, ownDirs]
  have kept : Keeps (Ready paths env isStorlet)
      (ensureDirectory env (paths.cacheDir isStorlet)) :=
    ready_of_body (ensureDirectory_grows env (own_inside listed))
  refine (kept.and (ensureDirectory_exists env (paths.cacheDir isStorlet))).weaken (fun _ ready => ⟨ready, trivial⟩) ?_ fun _ ready => ready.1.1
  rintro _ host ⟨ready, there⟩
  refine ⟨ready.1, ready.2.1, fun _ => ?_⟩
  cases isStorlet with
  | true => exact there
  | false => exact ready.2.2 rfl

/-- A name no file can have raises before anything but the cache directory is made. -/
theorem bringToCache_improper {cacheTarget : Text} (improper : namesFile cacheTarget = false)
    (name : Text) (isStorlet : Bool) :
    Meets (Settled paths env) (bringToCache env cacheTarget name isStorlet) (fun _ _ => False)
      (Settled paths env) := by
  refine .bind _ (ready_of_body (attempt_grows env (.pure _))) fun (data, perm) => ?_
  refine .bind _ (Keeps.lift _) fun perm => .bind (fun _ _ => False) ?_ fun _ _ impossible => ?_
  · rw [openWrite, if_neg (by simp [improper])]
    exact .throw fun _ => id
  · exact impossible.elim

/-- The storlet's directory is made only where it is inside. -/
theorem containerOutdated_settled (dir : StorletDirInside paths env.cwd sreq)
    (cacheTarget containerTarget : Text) :
    Keeps (Settled paths env) (containerOutdated env
      (paths.getHostStorletDir sreq.storletMain) cacheTarget containerTarget) := by
  refine Meets.bind _ .look fun there => Meets.ite (fun _ => ?_) fun absent => ?_
  · refine Keeps.meets (ready_of_body (.bind (.look _) fun _ => .ite ?_ (.pure _)))
      (fun _ => And.left) fun _ => id
    exact .bind (stat_grows env _) fun _ => .bind (stat_grows env _) fun _ => .pure _
  · rintro host ⟨settled, rfl⟩
    have missing : host.isDirectory (storletPlace paths env.cwd sreq) = false := by
      simp only [Bool.or_eq_true, not_or, Bool.not_eq_true] at absent
      exact absent.1
    have fine : Inside paths env.cwd (storletPlace paths env.cwd sreq) := by
      rcases dir with inside | above | above
      · exact inside
      · rw [settled.2.1.above above] at missing
        cases missing
      · rw [(settled.2.2 rfl).above above] at missing
        cases missing
    exact ready_of_body (.bind (makedirs_grows env fine) fun _ => .pure true) host settled

theorem copyTarget_inside {src dst : Text} (named : namesFile src = true)
    (inside : Inside paths env.cwd (resolve env.cwd dst)) (intoDirectory : Bool) :
    Inside paths env.cwd
      (resolve env.cwd (if intoDirectory then join dst (basename src) else dst)) := by
  split
  · rw [resolve_join_plain _ _ (plain_basename named)]
    exact inside.below _
  · exact inside

theorem bringFromCache_settled {object : Text × Bool} (named : namesFile object.1 = true)
    (cache : Inside paths env.cwd (cachePlace paths env.cwd object))
    (dir : StorletDirInside paths env.cwd sreq)
    (container : Inside paths env.cwd (containerPlace paths env.cwd sreq object.1)) :
    Meets (Ready paths env object.2) (bringFromCache paths env sreq object.1 object.2)
      (fun _ => Settled paths env) (Contained paths env) := by
  have target : namesFile (join (paths.cacheDir object.2) object.1) = true := by
    rw [namesFile_join, named]
  have copied : Moves (Grows fun touch => Inside paths env.cwd touch.place)
      (copy2 env (join (paths.cacheDir object.2) object.1)
        (join (paths.getHostStorletDir sreq.storletMain) object.1)) :=
    copy2_grows env container fun _ => copyTarget_inside target container
  refine Meets.bind _ (ensureCacheDir_settles object.2) fun _ => ?_
  refine Keeps.meets ?_ (fun _ => id) fun _ => And.left
  refine Keeps.bind (ready_of_body (cacheOutdated_grows env sreq _ _)) fun outdated => ?_
  refine Keeps.bind (ready_of_body (.when (bringToCache_grows env _ _ fun _ => cache))) fun _ => ?_
  refine Keeps.bind (containerOutdated_settled sreq dir _ _) fun update => ?_
  exact Keeps.bind (ready_of_body (.when copied)) fun _ => Keeps.pure update

theorem bringFromCache_improper (object : Text × Bool) (improper : namesFile object.1 = false) :
    Meets (Ready paths env object.2) (bringFromCache paths env sreq object.1 object.2)
      (fun _ _ => False) (Contained paths env) := by
  have target : namesFile (join (paths.cacheDir object.2) object.1) = false := by
    rw [namesFile_join, improper]
  have outdated : Meets (Settled paths env)
      (cacheOutdated env sreq (join (paths.cacheDir object.2) object.1) object.2)
      (fun outdated host => outdated = true ∧ Settled paths env host) (Settled paths env) := by
    refine Meets.bind _ .look fun isfile => Meets.ite (fun found => ?_) fun _ => ?_
    · rintro host ⟨-, rfl⟩
      simp [target] at found
    · exact .pure fun _ holds => ⟨rfl, holds.1⟩
  refine Meets.bind _ (ensureCacheDir_settles object.2) fun _ => ?_
  refine Meets.bind _ (outdated.weaken (fun _ => id) (fun _ _ => id) fun _ => And.left) fun value => ?_
  refine Meets.bind (fun _ _ => False) ?_ fun _ _ impossible => impossible.elim
  rintro host ⟨rfl, settled⟩
  exact (bringToCache_improper target object.1 object.2).weaken (fun _ => id) (fun _ _ => id)
    (fun _ => And.left) host settled

/-- The loop over the dependencies, up to the first name no file can have. -/
theorem dependencies_contained (deps : List Text)
    (fine : ∀ dep ∈ deps.takeWhile namesFile, ObjectConfined paths env.cwd sreq (dep, false))
    (gathered : Bool) :
    Meets (Settled paths env) (forEach (bringDependency paths env sreq) gathered deps)
      (fun _ => Contained paths env) (Contained paths env) := by
  induction deps generalizing gathered with
  | nil => exact .pure fun _ => And.left
  | cons dep rest ih =>
    cases named : namesFile dep with
    | true =>
      rw [List.takeWhile_cons_of_pos named] at fine
      obtain ⟨cache, dir, container⟩ := fine dep (List.mem_cons_self ..)
      refine Meets.bind (fun _ => Settled paths env) ?_ fun _ =>
        ih (fun other inside => fine other (List.mem_cons_of_mem _ inside)) _
      exact Meets.bind _ (bringFromCache_settled sreq named cache dir container) fun _ =>
        .pure fun _ => id
    | false =>
      refine Meets.bind (fun _ _ => False) ?_ fun _ _ impossible => impossible.elim
      exact Meets.bind _ (bringFromCache_improper sreq (dep, false) named)
        fun _ _ impossible => impossible.elim

end Confined

variable {paths : RunTimePaths} {cwd : Location} {sreq : ContainerStorletRequest}

theorem hostConfined_of_names (fine : NamesConfined paths cwd sreq) :
    HostConfined paths cwd sreq := by
  rintro env host rfl untouched
  have run : Meets (Contained paths env) (updateContainerFromCache paths env sreq)
      (fun _ => Contained paths env) (Contained paths env) := by
    have base : Meets (Contained paths env) (ensureDirectory env paths.hostStorletBaseDir)
        (fun _ => Ready paths env true) (Contained paths env) :=
      ((contained_of_body (ensureDirectory_grows env (own_inside (by simp [ownDirs])))).and
        (ensureDirectory_exists env paths.hostStorletBaseDir)).weaken
        (fun _ contained => ⟨contained, trivial⟩)
        (fun _ _ made => ⟨made.1, made.2, fun dep => by cases dep⟩) fun _ => And.left
    refine Meets.bind _ base fun _ => ?_
    cases named : namesFile sreq.storletId with
    | true =>
      rw [NamesConfined, reached_eq named] at fine
      obtain ⟨cache, dir, container⟩ := fine _ (List.mem_cons_self ..)
      refine Meets.bind _ (bringFromCache_settled sreq named cache dir container) fun updated => ?_
      exact dependencies_contained sreq sreq.dependencies (fun dep inside =>
        fine _ (List.mem_cons_of_mem _ (List.mem_map_of_mem inside))) updated
    | false =>
      exact Meets.bind _ (bringFromCache_improper sreq (sreq.storletId, true) named)
        fun _ _ impossible => impossible.elim
  exact (run host (by simp [Contained, untouched])).final

/-! ## Every name is touched in some host -/

def Surroundings.quiet (cwd : Location) : Surroundings where
  cwd := cwd
  now := 0
  fails := fun _ _ => false
  getStorlet := fun _ => ([], none)
  getDependency := fun _ => ([], none)

/-- A host with the same file at some places. -/
def Host.holding (directories places : List Location) (file : File) : Host where
  files := PyDict.ofList (places.map fun place => (place, file))
  directories := directories

theorem Host.holding_get? (directories places : List Location) (file : File) (place : Location) :
    (Host.holding directories places file).files.get? place =
      if place ∈ places then some file else none :=
  (PyDict.get?_update_const .empty places file place).trans (by congr)

def Hit (target : Location) (host : Host) : Prop := ∃ touch ∈ host.touched, touch.place = target

def Still (start host : Host) : Prop :=
  host.files = start.files ∧ host.directories = start.directories

theorem Host.Grows.hit {allowed : Touch → Prop} {target : Location} {before after : Host}
    (grows : before.Grows allowed after) (hit : Hit target before) : Hit target after := by
  obtain ⟨new, grown, -⟩ := grows.touched
  obtain ⟨touch, inside, place⟩ := hit
  exact ⟨touch, grown ▸ List.mem_append_left _ inside, place⟩

theorem Hit.touch {target : Location} {act : Act} (host : Host) :
    Hit target (host.touch act target) :=
  ⟨⟨act, target⟩, by simp [Host.touch], rfl⟩

section Reached

variable {α : Type} {target : Location} {start : Host}

theorem hit_keeps {body : HostAction α} (moves : Moves (Grows fun _ => True) body) :
    Keeps (Hit target) body := moves.keeps fun _ _ grows => grows.hit

/-- A part of the call that leaves the target touched or goes on from a host as it was. -/
theorem hit_or {needs : Host → Prop} {leaves : α → Host → Prop} {body : HostAction α}
    (moves : Moves (Grows fun _ => True) body)
    (meets : Meets needs body (fun value host => Hit target host ∨ leaves value host)
      (Hit target)) :
    Meets (fun host => Hit target host ∨ needs host) body
      (fun value host => Hit target host ∨ leaves value host) (Hit target) :=
  Meets.or ((hit_keeps moves).weaken (fun _ => id) (fun _ _ => .inl) fun _ => id) meets

theorem still_tick (host : Host) (still : Still start host) : Still start host.tick := still

variable (cwd)

theorem ensureDirectory_still {path : Text} (made : start.isDirectory (resolve cwd path)) :
    Meets (Still start) (ensureDirectory (.quiet cwd) path) (fun _ => Still start)
      (fun _ => False) := by
  refine Meets.bind _ .look fun there => Meets.ite (fun _ => .pure fun _ => And.left) fun absent => ?_
  rintro host ⟨still, rfl⟩
  have there : host.isDirectory (resolve cwd path) = true := by
    rw [← made, isDirectory, isDirectory, still.1, still.2]
  simp [Surroundings.quiet, there] at absent

theorem stat_still {path : Text} {file : File}
    (there : start.files.get? (resolve cwd path) = some file) :
    Meets (Still start) (stat (.quiet cwd) path) (fun found host => found = file ∧ Still start host)
      (fun _ => False) := by
  refine attempt_sure _ rfl still_tick (Meets.bind _ .look fun found => ?_)
  rintro host ⟨still, rfl⟩
  dsimp only [Surroundings.quiet]
  rw [still.1, there]
  exact ⟨rfl, still⟩

/-- The storlet's size and time are those of the file. -/
def Matches (sreq : ContainerStorletRequest) (file : File) : Prop :=
  storletSize sreq = .ok (file.content.length : Int) ∧
    storletTime sreq = .ok (.finite file.mtime)

variable {object : Text × Bool} {file : File}

theorem pathIsfile_still {path : Text} (named : namesFile path = true) :
    Meets (Still start) (pathIsfile (.quiet cwd) path)
      (fun found host => Still start host ∧ found = start.isFile (resolve cwd path))
      (fun _ => False) := by
  rintro host still
  refine ⟨still, ?_⟩
  show (namesFile path && host.isFile (resolve cwd path)) = _
  rw [named, Bool.true_and, isFile, isFile, still.1]

theorem cacheOutdated_still {path : Text} (target : Location) (isStorlet : Bool) (named : namesFile path = true)
    (matched : Matches sreq file)
    (there : start.files.get? (resolve cwd path) =
      if resolve cwd path = target then none else some file) :
    Meets (Still start) (cacheOutdated (.quiet cwd) sreq path isStorlet)
      (fun outdated host => Still start host ∧ (outdated = true ↔ resolve cwd path = target))
      (fun _ => False) := by
  refine Meets.bind _ (pathIsfile_still cwd named) fun found => Meets.ite (fun isfile => ?_) fun absent => ?_
  · rintro host ⟨still, rfl⟩
    have other : resolve cwd path ≠ target := by
      intro same
      rw [isFile, there, if_pos same] at isfile
      cases isfile
    rw [if_neg other] at there
    cases isStorlet with
    | false => exact ⟨still, by simpa using other⟩
    | true =>
      refine Meets.bind _ (stat_still cwd there) (fun found => ?_) host still
      rw [matched.1, matched.2]
      rintro host ⟨rfl, still⟩
      exact ⟨still, by simpa [PyStr.Float.above] using other⟩
  · rintro host ⟨still, rfl⟩
    refine ⟨still, ?_⟩
    by_contra other
    simp at other
    simp [isFile, there, other] at absent

theorem bringToCache_hits {path : Text} (name : Text) (isStorlet : Bool)
    (named : namesFile path = true) :
    Meets (fun _ => True) (bringToCache (.quiet cwd) path name isStorlet)
      (fun _ => Hit (resolve cwd path)) (Hit (resolve cwd path)) := by
  have opened : Meets (fun _ => True) (openWrite (.quiet cwd) path)
      (fun _ => Hit (resolve cwd path)) (Hit (resolve cwd path)) := by
    rw [openWrite, if_pos named]
    exact attempt_sure _ rfl (fun _ _ => trivial) (.change fun host _ => Hit.touch _)
  have fetched : Meets (fun _ => True)
      (attempt (.quiet cwd) (.getObject name) .fileManagement (pure (if isStorlet = true then
        (Surroundings.quiet cwd).getStorlet name else (Surroundings.quiet cwd).getDependency name)))
      (fun answer _ => answer = ([], none)) (Hit (resolve cwd path)) :=
    attempt_sure _ rfl (fun _ _ => trivial) (.pure fun _ _ => by split <;> rfl)
  refine Meets.bind _ fetched fun (data, perm) => ?_
  rintro host same
  obtain ⟨rfl, rfl⟩ := Prod.mk.inj same
  refine Meets.bind (fun _ _ => True) (fun _ => id) (fun perm => ?_) host trivial
  exact Meets.bind _ opened fun _ =>
    Keeps.bind (hit_keeps (chmod_grows (.quiet cwd) perm trivial)) fun _ => Keeps.pure ()

theorem copy2_hits (src dst : Text) :
    Meets (fun _ => True) (copy2 (.quiet cwd) src dst) (fun _ => Hit (resolve cwd dst))
      (Hit (resolve cwd dst)) :=
  Meets.bind (fun _ => Hit (resolve cwd dst)) (.change fun host _ => Hit.touch host) fun _ =>
    Keeps.bind (Keeps.look _) fun _ => hit_keeps (copyTo_grows _ fun _ => trivial)

theorem containerOutdated_still {storletDir cacheTarget containerTarget : Text}
    (named : namesFile containerTarget = true)
    (made : start.isDirectory (resolve cwd storletDir))
    (cached : start.files.get? (resolve cwd cacheTarget) = some file)
    (there : start.files.get? (resolve cwd containerTarget) =
      if resolve cwd containerTarget = target then none else some file) :
    Meets (Still start)
      (containerOutdated (.quiet cwd) storletDir cacheTarget containerTarget)
      (fun update host => Still start host ∧ (update = true ↔ resolve cwd containerTarget = target))
      (fun _ => False) := by
  refine Meets.bind _ .look fun found => Meets.ite (fun _ => ?_) fun absent => ?_
  · refine Meets.weaken (Meets.bind _ (pathIsfile_still cwd named) fun isfile =>
      Meets.ite (fun found => ?_) fun absent => ?_) (fun _ => And.left) (fun _ _ => id) fun _ => id
    · rintro host ⟨still, rfl⟩
      have other : resolve cwd containerTarget ≠ target := by
        intro same
        rw [isFile, there, if_pos same] at found
        cases found
      rw [if_neg other] at there
      refine Meets.bind _ (stat_still cwd cached) (fun cachedFile => ?_) host still
      rintro host ⟨rfl, still⟩
      refine Meets.bind _ (stat_still cwd there) (fun containerFile => ?_) host still
      rintro host ⟨rfl, still⟩
      exact ⟨still, by simpa using other⟩
    · rintro host ⟨still, rfl⟩
      refine ⟨still, ?_⟩
      by_contra other
      simp at other
      simp [isFile, there, other] at absent
  · rintro host ⟨still, rfl⟩
    have there : host.isDirectory (resolve cwd storletDir) = true := by
      rw [← made, isDirectory, isDirectory, still.1, still.2]
    simp [Surroundings.quiet, there] at absent

/-- A host that has the files of some objects, all but the target, and the directories. -/
structure Holds (paths : RunTimePaths) (cwd : Location) (sreq : ContainerStorletRequest)
    (target : Location) (file : File) (start : Host) (object : Text × Bool) : Prop where
  cacheDir : start.isDirectory (resolve cwd (paths.cacheDir object.2))
  storletDir : start.isDirectory (storletPlace paths cwd sreq)
  cached : start.files.get? (cachePlace paths cwd object) =
    if cachePlace paths cwd object = target then none else some file
  container : start.files.get? (containerPlace paths cwd sreq object.1) =
    if containerPlace paths cwd sreq object.1 = target then none else some file

theorem bringFromCache_hits (object : Text × Bool) (named : namesFile object.1 = true) (matched : Matches sreq file)
    (holds : Holds paths cwd sreq target file start object) :
    Meets (fun host => Hit target host ∨ Still start host)
      (bringFromCache paths (.quiet cwd) sreq object.1 object.2)
      (fun _ host => Hit target host ∨ Still start host ∧
        cachePlace paths cwd object ≠ target ∧ containerPlace paths cwd sreq object.1 ≠ target)
      (Hit target) := by
  have cacheNamed : namesFile (join (paths.cacheDir object.2) object.1) = true := by
    rw [namesFile_join, named]
  have containerNamed :
      namesFile (join (paths.getHostStorletDir sreq.storletMain) object.1) = true := by
    rw [namesFile_join, named]
  refine Meets.bind (fun _ host => Hit target host ∨ Still start host)
    (hit_or (ensureDirectory_grows _ trivial)
      ((ensureDirectory_still cwd holds.cacheDir).weaken (fun _ => id) (fun _ _ => .inr)
        fun _ => False.elim)) fun _ => ?_
  refine Meets.bind (fun outdated host => Hit target host ∨ Still start host ∧
      (outdated = true ↔ cachePlace paths cwd object = target))
    (hit_or (cacheOutdated_grows _ _ _ _)
      ((cacheOutdated_still cwd target object.2 cacheNamed matched holds.cached).weaken (fun _ => id)
        (fun _ _ => .inr) fun _ => False.elim)) fun outdated => ?_
  refine Meets.bind (fun _ host => Hit target host ∨ Still start host ∧
      cachePlace paths cwd object ≠ target)
    (hit_or (.when (bringToCache_grows _ _ _ fun _ => trivial)) ?_) fun _ => ?_
  · rintro host ⟨still, same⟩
    by_cases hits : cachePlace paths cwd object = target
    · rw [same.mpr hits, ← hits]
      exact ((bringToCache_hits cwd object.1 object.2 cacheNamed).weaken (fun _ => id)
        (fun _ _ => .inl) fun _ => id) host trivial
    · have skipped : outdated = false := by simpa [hits] using same
      rw [skipped]
      exact .inr ⟨still, hits⟩
  refine Meets.bind (fun update host => Hit target host ∨ (Still start host ∧
      cachePlace paths cwd object ≠ target) ∧
      (update = true ↔ containerPlace paths cwd sreq object.1 = target))
    (hit_or (containerOutdated_grows _ _ _ trivial) ?_) fun update => ?_
  · rintro host ⟨still, other⟩
    have cached := holds.cached
    rw [if_neg other] at cached
    exact ((containerOutdated_still cwd containerNamed holds.storletDir cached
      holds.container).weaken (fun _ => id) (fun _ _ shown => .inr ⟨⟨shown.1, other⟩, shown.2⟩)
        fun _ => False.elim) host still
  refine Meets.bind (fun _ host => Hit target host ∨ Still start host ∧
      cachePlace paths cwd object ≠ target ∧ containerPlace paths cwd sreq object.1 ≠ target)
    (hit_or (.when (copy2_grows _ trivial fun _ _ => trivial)) ?_) fun _ => .pure fun _ => id
  rintro host ⟨⟨still, other⟩, same⟩
  by_cases hits : containerPlace paths cwd sreq object.1 = target
  · rw [same.mpr hits, ← hits]
    exact ((copy2_hits cwd _ _).weaken (fun _ => id) (fun _ _ => .inl) fun _ => id) host trivial
  · have skipped : update = false := by simpa [hits] using same
    rw [skipped]
    exact .inr ⟨still, other, hits⟩

theorem bringDependency_grows (gathered : Bool) (dep : Text) :
    Moves (Grows fun _ => True) (bringDependency paths (.quiet cwd) sreq gathered dep) :=
  .bind (bringFromCache_grows _ _ _ fun _ => trivial) fun _ => .pure _

/-- The loop touches the places of every dependency it reaches. -/
theorem dependencies_hit (matched : Matches sreq file) (deps : List Text)
    (holds : ∀ dep ∈ deps.takeWhile namesFile,
      Holds paths cwd sreq target file start (dep, false))
    (dep : Text) (inside : dep ∈ deps.takeWhile namesFile)
    (isTarget : cachePlace paths cwd (dep, false) = target ∨
      containerPlace paths cwd sreq dep = target) (gathered : Bool) :
    Meets (fun host => Hit target host ∨ Still start host)
      (forEach (bringDependency paths (.quiet cwd) sreq) gathered deps) (fun _ => Hit target)
      (Hit target) := by
  induction deps generalizing gathered with
  | nil => cases inside
  | cons first rest ih =>
    cases named : namesFile first with
    | false =>
      rw [List.takeWhile_cons_of_neg (by simp [named])] at inside
      cases inside
    | true =>
      rw [List.takeWhile_cons_of_pos named] at holds inside
      have brought := bringFromCache_hits cwd (first, false) named matched
        (holds first (List.mem_cons_self ..))
      rcases List.mem_cons.mp inside with rfl | later
      · refine Meets.bind (fun _ => Hit target) (Meets.bind _ brought fun _ => .pure ?_) fun _ =>
          hit_keeps (.forEach (fun gathered dep _ => bringDependency_grows cwd gathered dep) _)
        rintro host (hit | ⟨-, cache, container⟩)
        · exact hit
        · exact (isTarget.elim cache container).elim
      · refine Meets.bind (fun _ host => Hit target host ∨ Still start host)
          (Meets.bind _ brought fun _ => .pure fun _ => Or.imp_right And.left) fun _ => ?_
        exact ih (fun other listed => holds other (List.mem_cons_of_mem _ listed)) later _

/-- The call touches the places of every object it reaches. -/
theorem updateContainerFromCache_hits (start : Host) (matched : Matches sreq file)
    (base : start.isDirectory (resolve cwd paths.hostStorletBaseDir))
    (holds : ∀ object ∈ reached sreq, Holds paths cwd sreq target file start object)
    (inside : object ∈ reached sreq)
    (isTarget : cachePlace paths cwd object = target ∨
      containerPlace paths cwd sreq object.1 = target) :
    Meets (Still start) (updateContainerFromCache paths (.quiet cwd) sreq) (fun _ => Hit target)
      (Hit target) := by
  cases named : namesFile sreq.storletId with
  | false =>
    rw [reached, objects, List.takeWhile_cons_of_neg (by simp [named])] at inside
    cases inside
  | true =>
    rw [reached_eq named] at holds inside
    have brought := bringFromCache_hits cwd (sreq.storletId, true) named matched
      (holds _ (List.mem_cons_self ..))
    refine Meets.bind (fun _ host => Hit target host ∨ Still start host)
      ((ensureDirectory_still cwd base).weaken (fun _ => id) (fun _ _ => .inr)
        fun _ => False.elim) fun _ => ?_
    refine Meets.bind _ brought fun updated => ?_
    rcases List.mem_cons.mp inside with rfl | later
    · refine (hit_keeps (.forEach (fun gathered dep _ => bringDependency_grows cwd gathered dep)
        updated)).weaken ?_ (fun _ _ => id) fun _ => id
      rintro host (hit | ⟨-, cache, container⟩)
      · exact hit
      · exact (isTarget.elim cache container).elim
    · obtain ⟨dep, listed, rfl⟩ := List.mem_map.mp later
      refine Meets.weaken (dependencies_hit cwd matched sreq.dependencies (fun other inside =>
        holds _ (List.mem_cons_of_mem _ (List.mem_map_of_mem inside))) dep listed isTarget updated)
        (fun _ => Or.imp_right And.left) (fun _ _ => id) fun _ => id

end Reached

/-- A host with the directories made and every file the call reaches but the target. -/
def hostBut (paths : RunTimePaths) (cwd : Location) (sreq : ContainerStorletRequest)
    (file : File) (target : Location) : Host :=
  .holding
    [resolve cwd paths.hostStorletBaseDir, resolve cwd paths.hostStorletCacheDir,
      resolve cwd paths.hostDependencyCacheDir, storletPlace paths cwd sreq]
    (((reached sreq).flatMap fun object =>
      [cachePlace paths cwd object, containerPlace paths cwd sreq object.1]).filter (· ≠ target))
    file

theorem holding_isDirectory {directories places : List Location} {file : File} {place : Location}
    (listed : place ∈ directories) : (Host.holding directories places file).isDirectory place := by
  simp only [isDirectory, Host.holding, Bool.or_eq_true, List.any_eq_true]
  exact .inl ⟨place, listed, by simp⟩

theorem holding_but_get? {directories places : List Location} {file : File}
    {target place : Location} (listed : place ∈ places) :
    (Host.holding directories (places.filter (· ≠ target)) file).files.get? place =
      if place = target then none else some file := by
  rw [Host.holding_get?]
  by_cases same : place = target <;> simp [same, listed]

theorem hostBut_holds {file : File} {target : Location} {object : Text × Bool}
    (inside : object ∈ reached sreq) :
    Holds paths cwd sreq target file (hostBut paths cwd sreq file target) object := by
  refine ⟨holding_isDirectory ?_, holding_isDirectory (by simp), holding_but_get? ?_,
    holding_but_get? ?_⟩
  · cases object.2 <;> simp [RunTimePaths.cacheDir]
  all_goals exact List.mem_flatMap.mpr ⟨object, inside, by simp⟩

/-- A place that a call reaches in some host is inside when every place touched is. -/
theorem inside_of_hostConfined {file : File} {target : Location} {object : Text × Bool}
    (confined : HostConfined paths cwd sreq) (matched : Matches sreq file)
    (inside : object ∈ reached sreq)
    (isTarget : cachePlace paths cwd object = target ∨
      containerPlace paths cwd sreq object.1 = target) : Inside paths cwd target := by
  have shown := updateContainerFromCache_hits cwd (hostBut paths cwd sreq file target) matched
    (holding_isDirectory (by simp)) (fun other listed => hostBut_holds listed) inside isTarget _
    ⟨rfl, rfl⟩
  obtain ⟨touch, listed, rfl⟩ := shown.final
  exact confined (.quiet cwd) _ rfl rfl touch listed

theorem prefix_of_dependencyCache {directory : Location}
    (above : directory <+: resolve cwd paths.hostDependencyCacheDir)
    (differs : directory ≠ resolve cwd paths.hostDependencyCacheDir) :
    directory <+: resolve cwd paths.hostStorletCacheDir := by
  have dependency : Plain "dependency" := by decide
  have storlet : Plain "storlet" := by decide
  rw [RunTimePaths.hostDependencyCacheDir, resolve_join_plain _ _ dependency] at above differs
  rw [RunTimePaths.hostStorletCacheDir, resolve_join_plain _ _ storlet]
  rcases List.prefix_concat_iff.mp above with same | above
  · exact absurd same differs
  · exact above.trans (List.prefix_append _ _)

/-- A directory that is not inside and not above what the call makes first is not above any of
the scope's directories. -/
theorem not_above_own (outside : ¬ StorletDirInside paths cwd sreq) (own : Text)
    (listed : own ∈ ownDirs paths) : ¬ storletPlace paths cwd sreq <+: resolve cwd own := by
  intro above
  have differs : ∀ other ∈ ownDirs paths, storletPlace paths cwd sreq ≠ resolve cwd other :=
    fun other listed same => outside (.inl ⟨other, listed, same ▸ List.prefix_rfl⟩)
  have storletCache : ¬ storletPlace paths cwd sreq <+: resolve cwd paths.hostStorletCacheDir :=
    fun above => outside (.inr (.inr ⟨above, differs _ (by simp [ownDirs])⟩))
  simp only [ownDirs, List.mem_cons, List.not_mem_nil, or_false] at listed
  rcases listed with rfl | rfl | rfl
  · exact storletCache above
  · exact storletCache (prefix_of_dependencyCache above (differs _ (by simp [ownDirs])))
  · exact outside (.inr (.inl ⟨above, differs _ (by simp [ownDirs])⟩))

/-- Where the storlet is in the cache and its directory is missing, the call makes it. -/
theorem storletDir_hits {file : File} (start : Host) (named : namesFile sreq.storletId = true)
    (matched : Matches sreq file)
    (base : start.isDirectory (resolve cwd paths.hostStorletBaseDir))
    (cacheDir : start.isDirectory (resolve cwd paths.hostStorletCacheDir))
    (cached : start.files.get? (cachePlace paths cwd (sreq.storletId, true)) = some file)
    (missing : start.isDirectory (storletPlace paths cwd sreq) = false)
    (noFile : start.isFile (storletPlace paths cwd sreq) = false) :
    Meets (Still start) (updateContainerFromCache paths (.quiet cwd) sreq)
      (fun _ => Hit (storletPlace paths cwd sreq)) (Hit (storletPlace paths cwd sreq)) := by
  have other : cachePlace paths cwd (sreq.storletId, true) ≠ storletPlace paths cwd sreq := by
    intro same
    rw [← same, isFile, cached] at noFile
    cases noFile
  have cacheNamed : namesFile (join (paths.cacheDir true) sreq.storletId) = true := by
    rw [namesFile_join, named]
  refine Meets.bind (fun _ => Still start)
    ((ensureDirectory_still cwd base).weaken (fun _ => id) (fun _ _ => id) fun _ => False.elim)
    fun _ => ?_
  refine Meets.bind (fun _ => Hit (storletPlace paths cwd sreq)) ?_ fun updated =>
    hit_keeps (.forEach (fun gathered dep _ => bringDependency_grows cwd gathered dep) updated)
  refine Meets.bind (fun _ => Still start)
    ((ensureDirectory_still cwd cacheDir).weaken (fun _ => id) (fun _ _ => id) fun _ => False.elim)
    fun _ => ?_
  refine Meets.bind _ ((cacheOutdated_still cwd (storletPlace paths cwd sreq) true
    cacheNamed matched (cached.trans (if_neg other).symm)).weaken (fun _ => id) (fun _ _ => id)
      fun _ => False.elim) fun outdated => ?_
  refine Meets.bind (fun _ => Still start) ?_ fun _ => ?_
  · rintro host ⟨still, same⟩
    have fresh : outdated = false := Bool.eq_false_iff.mpr fun yes => other (same.mp yes)
    rw [fresh]
    exact still
  refine Meets.bind (fun _ => Hit (storletPlace paths cwd sreq)) ?_ fun update =>
    Keeps.bind (hit_keeps (.when (copy2_grows _ trivial fun _ _ => trivial))) fun _ => Keeps.pure _
  refine Meets.bind _ .look fun found => Meets.ite (fun present => ?_) fun _ => ?_
  · rintro host ⟨still, rfl⟩
    have absent : host.isDirectory (storletPlace paths cwd sreq) = false := by
      rw [← missing, isDirectory, isDirectory, still.1, still.2]
    have absentFile : host.isFile (storletPlace paths cwd sreq) = false := by
      rw [← noFile, isFile, isFile, still.1]
    have nothing := show (host.isDirectory (storletPlace paths cwd sreq) ||
      (namesFile _ && host.isFile (storletPlace paths cwd sreq))) = true from present
    rw [absent, absentFile] at nothing
    simp at nothing
  · refine Meets.bind (fun _ => Hit (storletPlace paths cwd sreq)) ?_ fun _ => Keeps.pure _
    exact Meets.weaken (attempt_sure _ rfl (fun _ _ => trivial) (.change fun host _ =>
      Hit.touch _) : Meets (fun _ => True) _ _ _) (fun _ _ => trivial) (fun _ _ => id) fun _ => id

theorem storletDirInside_of_hostConfined {file : File} (confined : HostConfined paths cwd sreq)
    (matched : Matches sreq file) (named : namesFile sreq.storletId = true)
    (cache : Inside paths cwd (cachePlace paths cwd (sreq.storletId, true))) :
    StorletDirInside paths cwd sreq := by
  by_contra outside
  let start := Host.holding
    [resolve cwd paths.hostStorletBaseDir, resolve cwd paths.hostStorletCacheDir]
    [cachePlace paths cwd (sreq.storletId, true)] file
  obtain ⟨own, listed, above⟩ := cache
  have notAbove : ¬ storletPlace paths cwd sreq <+: cachePlace paths cwd (sreq.storletId, true) := by
    intro below
    rcases List.prefix_or_prefix_of_prefix below above with higher | lower
    · exact not_above_own outside own listed higher
    · exact outside (.inl ⟨own, listed, lower⟩)
  have noFile : start.isFile (storletPlace paths cwd sreq) = false := by
    have other : storletPlace paths cwd sreq ≠ cachePlace paths cwd (sreq.storletId, true) :=
      fun same => notAbove (same ▸ List.prefix_rfl)
    simp [start, isFile, Host.holding_get?, other]
  have missing : start.isDirectory (storletPlace paths cwd sreq) = false := by
    have base := not_above_own outside paths.hostStorletBaseDir (by simp [ownDirs])
    have storletCache := not_above_own outside paths.hostStorletCacheDir
      (by simp [ownDirs])
    simp only [start, isDirectory, Bool.or_eq_false_iff, List.any_eq_false]
    refine ⟨?_, fun key inside => ?_⟩
    · simp [Host.holding, base, storletCache]
    · rw [← PyDict.get?_isSome, Host.holding_get?] at inside
      split at inside
      · next single =>
        obtain rfl := List.mem_singleton.mp single
        simp [notAbove]
      · cases inside
  have shown := storletDir_hits start named matched (holding_isDirectory (by simp))
    (holding_isDirectory (by simp)) (by simp [start, Host.holding_get?]) missing noFile _ ⟨rfl, rfl⟩
  obtain ⟨touch, touched, place⟩ := shown.final
  have inside := confined (.quiet cwd) _ rfl rfl touch touched
  rw [place] at inside
  exact outside (.inl inside)

theorem names_of_hostConfined {file : File} (matched : Matches sreq file)
    (confined : HostConfined paths cwd sreq) : NamesConfined paths cwd sreq := by
  intro object inside
  have named : namesFile sreq.storletId = true := by
    by_contra improper
    rw [reached, objects, List.takeWhile_cons_of_neg (by simpa using improper)] at inside
    cases inside
  have first : (sreq.storletId, true) ∈ reached sreq := by
    rw [reached_eq named]
    exact List.mem_cons_self ..
  have storlet := inside_of_hostConfined confined matched first (.inl rfl)
  exact ⟨inside_of_hostConfined confined matched inside (.inl rfl),
    storletDirInside_of_hostConfined confined matched named storlet,
    inside_of_hostConfined confined matched inside (.inr rfl)⟩

theorem matches_of_built {registration : Registration} {head : StorletHead}
    {params : Dict Text} {data : StorletData} {scope : Text}
    (built : ContainerStorletRequest.init registration.name params data
      (registration.options head scope) = .ok sreq) :
    Matches sreq ⟨List.replicate head.length 0, head.time, 0o600⟩ := by
  have options : sreq.options = registration.options head scope := by
    unfold ContainerStorletRequest.init at built
    split at built
    · cases built
    · cases built
    · obtain rfl := Except.ok.inj built
      rfl
  have length : (registration.options head scope).storlet.get? "storlet_content_length" =
      some head.contentLength := by
    rw [Registration.options, PyDict.get?_set, if_neg (by decide), PyDict.get?_set, if_pos rfl]
  have time : (registration.options head scope).storlet.get? "storlet_x_timestamp" =
      some head.timestamp := by
    rw [Registration.options, PyDict.get?_set, if_pos rfl]
  constructor
  · rw [storletSize, options, length]
    simp only [head.readsLength, List.length_replicate]
  · rw [storletTime, options, time]
    simp only [head.readsTime]

/-- A Java storlet with an absolute path for its main class. -/
def cronStorlet : Registration where
  params := PyDict.ofList [("Language".toList, "Java".toList),
    ("Interface-Version".toList, "1.0".toList), ("Object-Metadata".toList, "no".toList),
    ("Main".toList, "/etc/cron.d".toList)]
  name := "job-1.0.jar"
  accepted := by decide

def cronHead : StorletHead where
  contentLength := "3"
  timestamp := "1.5"
  length := 3
  time := 3 / 2
  readsLength := by decide
  readsTime := by
    rw [show float "1.5" = some (.finite (scale 15 (-1))) from rfl]
    norm_num [scale]

def cronRequest : ContainerStorletRequest where
  storletId := "job-1.0.jar"
  params := .empty
  data := ⟨.empty, .fd []⟩
  options := cronStorlet.options cronHead "AUTH_test"
  generateLog := false
  storletMain := "/etc/cron.d"
  storletLanguage := "Java"
  storletLanguageVersion := none
  dependencies := []
  start := none
  «end» := none

end Storlets
