import Storlets.Gateway.Contents
import Storlets.Library.Runs

set_option autoImplicit false

/-!
# Fetches that break off

The file of the cache is written in place, so that a fetch that breaks off leaves the start of it.
-/

namespace Storlets

open PyStr PosixPath Effect Runs

/-- What Swift has of the storlet and of its dependencies. -/
structure SwiftObjects where
  storlet : Bytes
  timestamp : PyStr.Float
  dependency : Text → Bytes
  permissions : Text → Option Text

namespace SwiftObjects

variable (swift : SwiftObjects)

def content (object : Text × Bool) : Bytes :=
  if object.2 then swift.storlet else swift.dependency object.1

def permission (object : Text × Bool) : Option Text :=
  if object.2 then none else swift.permissions object.1

/-- The mode the cache gives the object. -/
def mode (object : Text × Bool) : Nat := ((cachePermission (swift.permission object)).toOption).getD 0

def whole (now : ℚ) (object : Text × Bool) : File := ⟨swift.content object, now, swift.mode object⟩

/-- The file is the whole dependency, with the owner's bits of the permissions, if it has some. -/
def IsWhole (dep : Text) (file : File) : Prop :=
  file.content = swift.dependency dep ∧
    ∀ perm, swift.permissions dep = some perm → perm ≠ [] →
      (intOf 8 perm).map (fun bits => (bits / 64 % 8).toNat * 64) = some file.mode

end SwiftObjects

/-- Where a storlet and its dependencies are brought. -/
structure Deployment where
  paths : RunTimePaths
  cwd : Location
  name : Text
  main : Text
  dependencies : List Text

namespace Deployment

variable (deployment : Deployment)

def objects : List (Text × Bool) :=
  (deployment.name, true) :: deployment.dependencies.map fun dep => (dep, false)

def dir : Location := resolve deployment.cwd (deployment.paths.getHostStorletDir deployment.main)

def cache (object : Text × Bool) : Location :=
  resolve deployment.cwd (join (deployment.paths.cacheDir object.2) object.1)

def target (object : Text × Bool) : Location :=
  resolve deployment.cwd (join (deployment.paths.getHostStorletDir deployment.main) object.1)

def Flat (place : Location) : Prop := ∃ object ∈ deployment.objects, place = deployment.target object

/-- Every object has two files of its own, one of them in the storlet's directory, and no file is on
the way to another one. -/
structure Apart : Prop where
  below : ∀ object ∈ deployment.objects, deployment.dir <+: deployment.target object
  differs : ∀ object ∈ deployment.objects, deployment.dir ≠ deployment.target object
  base : ∀ object ∈ deployment.objects,
    ¬ deployment.target object <+: resolve deployment.cwd deployment.paths.hostStorletBaseDir
  cacheDir : ∀ object ∈ deployment.objects, ∀ isStorlet,
    ¬ deployment.target object <+: resolve deployment.cwd (deployment.paths.cacheDir isStorlet)
  cache : ∀ object ∈ deployment.objects, ∀ other ∈ deployment.objects,
    ¬ deployment.target object <+: deployment.cache other
  targets : ∀ object ∈ deployment.objects, ∀ other ∈ deployment.objects,
    deployment.target object <+: deployment.target other → object = other
  caches : ∀ object ∈ deployment.objects, ∀ other ∈ deployment.objects,
    deployment.cache object = deployment.cache other → object = other

/-- A call for the storlet, in which only fetches may fail. -/
structure Serves (swift : SwiftObjects) (env : Surroundings) (sreq : ContainerStorletRequest) :
    Prop where
  cwd : env.cwd = deployment.cwd
  name : sreq.storletId = deployment.name
  main : sreq.storletMain = deployment.main
  dependencies : sreq.dependencies = deployment.dependencies
  length : storletSize sreq = .ok (swift.storlet.length : Int)
  timestamp : storletTime sreq = .ok swift.timestamp
  answers : ∀ object ∈ deployment.objects, (answer env object.1 object.2).1.flatten =
    swift.content object ∧ (answer env object.1 object.2).2 = swift.permission object
  -- registration takes only octal numbers
  permitted : ∀ object ∈ deployment.objects, ∃ bits, cachePermission (swift.permission object) =
    .ok bits
  sure : ∀ object ∈ deployment.objects, ∀ call, Copies (deployment.target object) call →
    env.fails call = fun _ => false

/-- What is in the cache of the storlet is the start of it; a dependency is in the container as it is
in the cache. -/
structure Kept (swift : SwiftObjects) (contents : Contents) : Prop where
  cached : ∀ file, contents (deployment.cache (deployment.name, true)) = some file →
    file.content <+: swift.storlet
  storlet : ∀ file, contents (deployment.target (deployment.name, true)) = some file →
    file.content = swift.storlet
  dependency : ∀ dep ∈ deployment.dependencies, ∀ file,
    contents (deployment.target (dep, false)) = some file →
      ∃ cached, contents (deployment.cache (dep, false)) = some cached ∧
        file.content = cached.content ∧ file.mode = cached.mode

/-- The storlet and its dependencies are in the container as they are in Swift. -/
structure Complete (swift : SwiftObjects) (contents : Contents) : Prop where
  storlet : ∃ file, contents (deployment.target (deployment.name, true)) = some file ∧
    file.content = swift.storlet
  dependency : ∀ dep ∈ deployment.dependencies, ∃ file,
    contents (deployment.target (dep, false)) = some file ∧ swift.IsWhole dep file

/-- The dependencies in the cache are whole. -/
def CachedWhole (swift : SwiftObjects) (contents : Contents) : Prop :=
  ∀ dep ∈ deployment.dependencies, ∀ file,
    contents (deployment.cache (dep, false)) = some file → swift.IsWhole dep file

def call (env : Surroundings) (sreq : ContainerStorletRequest) : HostAction Bool :=
  updateContainerFromCache deployment.paths env sreq

/-- A call with its surroundings. -/
abbrev Update := Surroundings × ContainerStorletRequest

def step (host : Host) (update : Update) : Host := (deployment.call update.1 update.2 host).2

/-- What a call makes of the files of one object. -/
def brings (swift : SwiftObjects) (now : ℚ) (contents : Contents) (object : Text × Bool) : Contents :=
  (brought contents (deployment.cache object) (deployment.target object)
    (cacheNeeds (contents (deployment.cache object)) object.2 swift.storlet.length swift.timestamp)
    (swift.whole now object)).2

/-- A dependency that was in the cache stays as it was, and one that was not comes whole. -/
def Fetches (swift : SwiftObjects) (before after : Contents) : Prop :=
  ∀ dep ∈ deployment.dependencies,
    after (deployment.cache (dep, false)) = before (deployment.cache (dep, false)) ∨
      (before (deployment.cache (dep, false)) = none ∧
        ∃ file, after (deployment.cache (dep, false)) = some file ∧ swift.IsWhole dep file)

section Brings

variable {deployment : Deployment} (apart : deployment.Apart) {swift : SwiftObjects} {now : ℚ}
  {contents : Contents} {object other : Text × Bool}

theorem mem_objects {dep : Text} (listed : dep ∈ deployment.dependencies) :
    (dep, false) ∈ deployment.objects :=
  List.mem_cons_of_mem _ (List.mem_map_of_mem listed)

theorem name_mem_objects : (deployment.name, true) ∈ deployment.objects := List.mem_cons_self

include apart

theorem cache_apart (inside : object ∈ deployment.objects) (there : other ∈ deployment.objects) :
    deployment.cache object ≠ deployment.target other := by
  intro same
  apply apart.cache other there object inside
  rw [same]

theorem brings_target_other (inside : object ∈ deployment.objects)
    (there : other ∈ deployment.objects) (differs : other ≠ object) :
    deployment.brings swift now contents object (deployment.target other) =
      contents (deployment.target other) := by
  apply brought_other
  · exact (cache_apart apart inside there).symm
  · intro same
    exact differs (apart.targets other there object inside (by rw [same]))

theorem brings_cache_other (inside : object ∈ deployment.objects)
    (there : other ∈ deployment.objects) (differs : other ≠ object) :
    deployment.brings swift now contents object (deployment.cache other) =
      contents (deployment.cache other) := by
  apply brought_other
  · intro same
    exact differs (apart.caches other there object inside same)
  · exact cache_apart apart there inside

theorem brings_cache (inside : object ∈ deployment.objects) :
    deployment.brings swift now contents object (deployment.cache object) =
      if cacheNeeds (contents (deployment.cache object)) object.2 swift.storlet.length
        swift.timestamp then some (swift.whole now object) else contents (deployment.cache object) :=
  brought_cache _ _ (cache_apart apart inside inside)

theorem brings_target (inside : object ∈ deployment.objects) :
    deployment.brings swift now contents object (deployment.target object) =
      if containerNeeds (deployment.brings swift now contents object (deployment.cache object))
        (contents (deployment.target object))
      then deployment.brings swift now contents object (deployment.cache object)
      else contents (deployment.target object) := by
  have distinct := cache_apart apart inside inside
  rw [brings_cache apart inside]
  unfold brings
  rw [brought_target _ _ distinct, brought_fst _ _ distinct]

/-- The cache has the object then, and the container too. -/
theorem brings_held (inside : object ∈ deployment.objects) :
    (∃ file, deployment.brings swift now contents object (deployment.cache object) = some file) ∧
      ∃ file, deployment.brings swift now contents object (deployment.target object) = some file := by
  have cached : ∃ file,
      deployment.brings swift now contents object (deployment.cache object) = some file := by
    rw [brings_cache apart inside]
    split
    · exact ⟨_, rfl⟩
    · next kept =>
      cases there : contents (deployment.cache object) with
      | none => exact absurd (by rw [there]; rfl) kept
      | some file => exact ⟨file, rfl⟩
  refine ⟨cached, ?_⟩
  obtain ⟨file, is⟩ := cached
  rw [brings_target apart inside, is]
  cases there : contents (deployment.target object) with
  | none => exact ⟨file, rfl⟩
  | some old =>
    split
    · exact ⟨file, rfl⟩
    · exact ⟨old, rfl⟩

theorem brings_keeps_held (inside : object ∈ deployment.objects)
    (there : other ∈ deployment.objects)
    (held : ∃ file, contents (deployment.target other) = some file) :
    ∃ file, deployment.brings swift now contents object (deployment.target other) = some file := by
  by_cases same : other = object
  · rw [same]
    exact (brings_held apart inside).2
  · rw [brings_target_other apart inside there same]
    exact held

/-- What is in the cache of the storlet is never used unless it is all of it. -/
theorem kept_brings (kept : deployment.Kept swift contents) (inside : object ∈ deployment.objects) :
    deployment.Kept swift (deployment.brings swift now contents object) := by
  have storletIn : (deployment.name, true) ∈ deployment.objects := name_mem_objects
  rcases List.mem_cons.mp inside with rfl | listed
  · -- the storlet itself
    have cached : ∀ file, deployment.brings swift now contents (deployment.name, true)
        (deployment.cache (deployment.name, true)) = some file → file.content = swift.storlet := by
      intro file there
      rw [brings_cache apart inside] at there
      split at there
      · obtain rfl := Option.some.inj there
        rfl
      · next current =>
        -- the start of the storlet, in its length
        apply (kept.cached file there).eq_of_length
        rw [there] at current
        simp only [cacheNeeds, Bool.true_and, Bool.or_eq_true, decide_eq_true_eq, not_or,
          not_not] at current
        exact Int.ofNat_inj.mp current.1
    refine ⟨fun file there => cached file there ▸ List.prefix_rfl, ?_, ?_⟩
    · intro file there
      rw [brings_target apart inside] at there
      split at there
      · exact cached file there
      · exact kept.storlet file there
    · intro dep among file there
      have other := mem_objects among
      have differs : (dep, false) ≠ (deployment.name, true) := by simp
      rw [brings_target_other apart inside other differs] at there
      rw [brings_cache_other apart inside other differs]
      exact kept.dependency dep among file there
  · obtain ⟨dep, among, rfl⟩ := List.mem_map.mp listed
    have differs : (deployment.name, true) ≠ (dep, false) := by simp
    refine ⟨?_, ?_, ?_⟩
    · rw [brings_cache_other apart inside storletIn differs]
      exact kept.cached
    · rw [brings_target_other apart inside storletIn differs]
      exact kept.storlet
    · intro dep' among' file there
      by_cases same : (dep', false) = (dep, false)
      · obtain rfl : dep' = dep := by simpa using same
        rw [brings_target apart inside] at there
        split at there
        · exact ⟨file, there, rfl, rfl⟩
        · -- an old file of the container comes from the cache, so nothing is fetched
          obtain ⟨held, cached, alike⟩ := kept.dependency dep' among file there
          refine ⟨held, ?_, alike⟩
          rw [brings_cache apart inside, cached]
          rfl
      · rw [brings_target_other apart inside (mem_objects among') same] at there
        rw [brings_cache_other apart inside (mem_objects among') same]
        exact kept.dependency dep' among' file there

omit apart in
theorem whole_isWhole {dep : Text}
    (permitted : ∃ bits, cachePermission (swift.permission (dep, false)) = .ok bits) :
    swift.IsWhole dep (swift.whole now (dep, false)) := by
  refine ⟨rfl, ?_⟩
  intro perm given filled
  obtain ⟨bits, allowed⟩ := permitted
  have mode : (swift.whole now (dep, false)).mode = bits := by
    change ((cachePermission (swift.permission (dep, false))).toOption).getD 0 = bits
    rw [allowed]
    rfl
  have same : swift.permission (dep, false) = some perm := given
  rw [same] at allowed
  rw [mode]
  unfold cachePermission at allowed
  split at allowed
  · next none => cases none
  · next empty => exact absurd (Option.some.inj empty) filled
  · next perm' same =>
    obtain rfl := Option.some.inj same
    split at allowed
    · next value parsed =>
      rw [parsed]
      exact congrArg some (Except.ok.inj allowed)
    · cases allowed

theorem fetches_brings (inside : object ∈ deployment.objects)
    (permitted : ∃ bits, cachePermission (swift.permission object) = .ok bits) :
    deployment.Fetches swift contents (deployment.brings swift now contents object) := by
  intro dep among
  by_cases same : (dep, false) = object
  · subst same
    rw [brings_cache apart inside]
    split
    · next needed =>
      refine .inr ⟨?_, _, rfl, whole_isWhole permitted⟩
      cases there : contents (deployment.cache (dep, false)) with
      | none => rfl
      | some file =>
        rw [there] at needed
        cases needed
    · exact .inl rfl
  · exact .inl (brings_cache_other apart inside (mem_objects among) same)

omit apart in
theorem Fetches.refl (contents : Contents) : deployment.Fetches swift contents contents :=
  fun _ _ => .inl rfl

omit apart in
theorem Fetches.trans {first middle last : Contents}
    (early : deployment.Fetches swift first middle) (late : deployment.Fetches swift middle last) :
    deployment.Fetches swift first last := by
  intro dep among
  rcases late dep among with same | ⟨none, file, there, whole⟩
  · rw [same]
    exact early dep among
  · rcases early dep among with same | ⟨_, old, held, _⟩
    · exact .inr ⟨same ▸ none, file, there, whole⟩
    · rw [none] at held
      cases held

/-- A fetch that breaks off has not been used. -/
theorem kept_broken (kept : deployment.Kept swift contents) (inside : object ∈ deployment.objects)
    (needed : cacheNeeds (contents (deployment.cache object)) object.2 swift.storlet.length
      swift.timestamp = true) {file : File} (front : file.content <+: swift.content object) :
    deployment.Kept swift (Function.update contents (deployment.cache object) (some file)) := by
  have target {other : Text × Bool} (there : other ∈ deployment.objects) :
      Function.update contents (deployment.cache object) (some file) (deployment.target other) =
        contents (deployment.target other) :=
    Function.update_of_ne (cache_apart apart inside there).symm ..
  have cached {other : Text × Bool} (there : other ∈ deployment.objects) (differs : other ≠ object) :
      Function.update contents (deployment.cache object) (some file) (deployment.cache other) =
        contents (deployment.cache other) := by
    apply Function.update_of_ne
    intro same
    exact differs (apart.caches other there object inside same)
  have storletIn : (deployment.name, true) ∈ deployment.objects := name_mem_objects
  refine ⟨?_, ?_, ?_⟩
  · intro found there
    by_cases same : (deployment.name, true) = object
    · subst same
      rw [Function.update_self] at there
      obtain rfl := Option.some.inj there
      exact front
    · rw [cached storletIn same] at there
      exact kept.cached found there
  · rw [target storletIn]
    exact kept.storlet
  · intro dep among found there
    rw [target (mem_objects among)] at there
    obtain ⟨held, before, alike⟩ := kept.dependency dep among found there
    by_cases same : (dep, false) = object
    · -- a dependency that is in the container is not fetched
      subst same
      rw [before] at needed
      cases needed
    · exact ⟨held, by rw [cached (mem_objects among) same, before], alike⟩

end Brings

/-- What an exception leaves. -/
def Interrupted (swift : SwiftObjects) (host : Host) : Prop :=
  ∃ contents, host.Sees deployment.Flat contents ∧ deployment.Kept swift contents

/-- What a call has made of the files when it has brought these objects. -/
def Brought (swift : SwiftObjects) (before : Contents) (objects : List (Text × Bool))
    (host : Host) : Prop :=
  ∃ contents, host.Sees deployment.Flat contents ∧ deployment.Kept swift contents ∧
    deployment.Fetches swift before contents ∧
    ∀ object ∈ deployment.objects,
      (object ∈ objects ∨ ∃ file, before (deployment.target object) = some file) →
        ∃ file, contents (deployment.target object) = some file

section Calls

variable {deployment : Deployment} {swift : SwiftObjects} {env : Surroundings}
  {sreq : ContainerStorletRequest} {contents : Contents} {object : Text × Bool}

section Places

variable (serves : deployment.Serves swift env sreq)

include serves

theorem container_eq (object : Text × Bool) :
    containerPlace deployment.paths env.cwd sreq object.1 = deployment.target object := by
  rw [containerPlace, serves.cwd, serves.main]
  rfl

theorem cached_eq (object : Text × Bool) :
    cachePlace deployment.paths env.cwd object = deployment.cache object := by
  rw [cachePlace, serves.cwd]
  rfl

theorem dir_eq : storletPlace deployment.paths env.cwd sreq = deployment.dir := by
  rw [storletPlace, serves.cwd, serves.main]
  rfl

theorem placed (apart : deployment.Apart) (inside : object ∈ deployment.objects) :
    Placed deployment.paths env.cwd sreq deployment.Flat object := by
  constructor
  · rw [container_eq serves, dir_eq serves]
    exact apart.below object inside
  · rw [container_eq serves, dir_eq serves]
    exact apart.differs object inside
  · exact ⟨object, inside, container_eq serves object⟩
  · rw [container_eq serves, cached_eq serves]
    exact cache_apart apart inside inside
  · rintro place ⟨other, there, rfl⟩
    rw [serves.cwd]
    exact apart.cacheDir other there object.2
  · rintro place ⟨other, there, rfl⟩ above
    rw [dir_eq serves] at above
    have below := apart.below other there
    exact apart.differs other there (below.eq_of_length (below.length_le.antisymm above.length_le))
  · rintro place ⟨other, there, rfl⟩ above
    rw [cached_eq serves] at above
    exact absurd above (apart.cache other there object inside)
  · rintro place ⟨other, there, rfl⟩ above
    rw [container_eq serves] at above ⊢
    rw [apart.targets other there object inside above]

end Places

variable (apart : deployment.Apart) (serves : deployment.Serves swift env sreq)

include apart serves

/-- One object is brought, or its fetch breaks off. -/
theorem bring_object (kept : deployment.Kept swift contents)
    (inside : object ∈ deployment.objects) :
    Meets (Host.Sees deployment.Flat contents)
      (bringFromCache deployment.paths env sreq object.1 object.2)
      (fun _ host => host.Sees deployment.Flat (deployment.brings swift env.now contents object))
      (deployment.Interrupted swift) := by
  have place := placed serves apart inside
  have lets : ∀ call, Copies (containerPlace deployment.paths env.cwd sreq object.1) call →
      ∀ before, Lets env call before (deployment.Interrupted swift) := by
    intro call copies before
    rw [container_eq serves] at copies
    exact .inl (serves.sure object inside call copies)
  have still : ∀ host, host.Sees deployment.Flat contents → deployment.Interrupted swift host :=
    fun host sees => ⟨contents, sees, kept⟩
  cases named : namesFile object.1 with
  | false =>
    have makes := @ensureDirectory_sees deployment.Flat contents _ env _ (lets _ .makedirs _)
      place.cacheDir
    exact (unnamed_raises env sreq named makes sees_tick still).weaken (fun _ => id)
      (fun _ _ none => none.elim) fun _ => id
  | true =>
    obtain ⟨content, permission⟩ := serves.answers object inside
    obtain ⟨bits, permitted⟩ := serves.permitted object inside
    have mode : swift.mode object = bits := by
      unfold SwiftObjects.mode
      rw [permitted]
      rfl
    have allowed : cachePermission (answer env object.1 object.2).2 = .ok (swift.mode object) := by
      rw [permission, permitted, mode]
    have meets := bringFromCache_sees env sreq place named allowed
      (fun _ => ⟨serves.length, serves.timestamp⟩) lets still
      (fun needed => .inr fun host broken => by
        obtain ⟨file, front, sees⟩ := broken
        rw [cached_eq serves] at needed sees
        rw [content] at front
        exact ⟨_, sees, kept_broken apart kept inside needed front⟩)
    refine meets.weaken (fun _ => id) ?_ fun _ => id
    rintro updated host ⟨-, sees⟩
    rw [cached_eq serves, container_eq serves, content] at sees
    exact sees

theorem dependencies_bring {pending : List Text}
    (among : ∀ dep ∈ pending, dep ∈ deployment.dependencies) (kept : deployment.Kept swift contents)
    (updated : Bool) :
    Meets (Host.Sees deployment.Flat contents)
      (forEach (bringDependency deployment.paths env sreq) updated pending)
      (fun _ => deployment.Brought swift contents (pending.map fun dep => (dep, false)))
      (deployment.Interrupted swift) := by
  induction pending generalizing contents updated with
  | nil =>
    refine .pure fun host sees => ⟨contents, sees, kept, Fetches.refl contents, ?_⟩
    intro object inside held
    exact held.resolve_left (by simp)
  | cons dep rest ih =>
    have inside := mem_objects (among dep List.mem_cons_self)
    have first : Meets (Host.Sees deployment.Flat contents)
        (bringDependency deployment.paths env sreq updated dep)
        (fun _ host => host.Sees deployment.Flat
          (deployment.brings swift env.now contents (dep, false)))
        (deployment.Interrupted swift) := by
      have brought := bring_object apart serves kept inside
      dsimp only at brought
      unfold bringDependency
      exact Meets.bind _ brought fun _ => .pure fun _ => id
    refine Meets.bind _ first fun next => ?_
    refine Meets.weaken (ih (fun other later => among other (List.mem_cons_of_mem _ later))
      (kept_brings apart kept inside) next) (fun _ => id) ?_ fun _ => id
    rintro _ host ⟨final, sees, keptFinal, fetches, held⟩
    refine ⟨final, sees, keptFinal, Fetches.trans
      (fetches_brings apart inside (serves.permitted _ inside)) fetches, ?_⟩
    intro object there which
    apply held object there
    rcases which with listed | before
    · rcases List.mem_cons.mp listed with rfl | later
      · exact .inr (brings_held apart inside).2
      · exact .inl later
    · exact .inr (brings_keeps_held apart inside there before)

theorem call_brings (kept : deployment.Kept swift contents) :
    Meets (Host.Sees deployment.Flat contents) (deployment.call env sreq)
      (fun _ => deployment.Brought swift contents deployment.objects)
      (deployment.Interrupted swift) := by
  have storletIn : (deployment.name, true) ∈ deployment.objects := name_mem_objects
  have base : Meets (Host.Sees deployment.Flat contents)
      (ensureDirectory env deployment.paths.hostStorletBaseDir)
      (fun _ => Host.Sees deployment.Flat contents) (deployment.Interrupted swift) := by
    apply ensureDirectory_sees env
    · exact .inl (serves.sure _ storletIn _ .makedirs)
    · rintro place ⟨other, there, rfl⟩
      rw [serves.cwd]
      exact apart.base other there
  have storlet := bring_object apart serves kept storletIn
  dsimp only at storlet
  have keptNext : deployment.Kept swift
      (deployment.brings swift env.now contents (deployment.name, true)) :=
    kept_brings apart kept storletIn
  unfold call updateContainerFromCache
  rw [serves.name, serves.dependencies]
  refine Meets.bind _ base fun _ => Meets.bind _ storlet fun updated => ?_
  refine Meets.weaken (dependencies_bring apart serves (fun _ => id) keptNext updated) (fun _ => id) ?_ fun _ => id
  rintro _ host ⟨final, sees, keptFinal, fetches, held⟩
  refine ⟨final, sees, keptFinal, Fetches.trans
    (fetches_brings apart storletIn (serves.permitted _ storletIn)) fetches, ?_⟩
  intro object there which
  apply held object there
  rcases which with listed | before
  · rcases List.mem_cons.mp listed with rfl | later
    · exact .inr (brings_held apart storletIn).2
    · exact .inl later
  · exact .inr (brings_keeps_held apart storletIn there before)

end Calls

/-- A call that returns leaves everything in the container as it is in Swift. -/
def Restores (swift : SwiftObjects) (host : Host) (update : Update) : Prop :=
  ∀ updated, (deployment.call update.1 update.2 host).1 = .ok updated →
    deployment.Complete swift (deployment.step host update).files.get?

/-- A call that returns has found no dependency in the cache that a fetch has left in part. -/
def FindsWhole (swift : SwiftObjects) (host : Host) (update : Update) : Prop :=
  ∀ updated, (deployment.call update.1 update.2 host).1 = .ok updated →
    deployment.CachedWhole swift host.files.get?

section Runs

variable {deployment : Deployment} {swift : SwiftObjects} {host : Host} {update : Update}

theorem complete_iff {before : Contents}
    (brought : deployment.Brought swift before deployment.objects host) :
    deployment.Complete swift host.files.get? ↔ deployment.CachedWhole swift before := by
  obtain ⟨contents, sees, kept, fetches, held⟩ := brought
  have same : host.files.get? = contents := funext sees.files
  rw [same]
  constructor
  · intro complete dep among file cached
    obtain ⟨copy, there, content, mode⟩ := complete.dependency dep among
    obtain ⟨source, is, alike, alikeMode⟩ := kept.dependency dep among copy there
    rcases fetches dep among with unchanged | ⟨none, _⟩
    · rw [unchanged, cached] at is
      obtain rfl := Option.some.inj is
      exact ⟨alike ▸ content, alikeMode ▸ mode⟩
    · rw [cached] at none
      cases none
  · intro cachedWhole
    refine ⟨?_, ?_⟩
    · obtain ⟨file, there⟩ := held _ name_mem_objects (.inl name_mem_objects)
      exact ⟨file, there, kept.storlet file there⟩
    · intro dep among
      have inside := mem_objects among
      obtain ⟨copy, there⟩ := held _ inside (.inl inside)
      obtain ⟨source, is, alike, alikeMode⟩ := kept.dependency dep among copy there
      have whole : swift.IsWhole dep source := by
        rcases fetches dep among with unchanged | ⟨_, file, fetched, whole⟩
        · exact cachedWhole dep among source (unchanged ▸ is)
        · rw [fetched] at is
          exact Option.some.inj is ▸ whole
      exact ⟨copy, there, alike ▸ whole.1, alikeMode ▸ whole.2⟩

/-- Every call leaves something that can be gone on from, and uses only what was in the cache or has
been fetched. -/
theorem call_spec (apart : deployment.Apart) (serves : deployment.Serves swift update.1 update.2)
    (kept : deployment.Interrupted swift host) :
    deployment.Interrupted swift (deployment.step host update) ∧
      (deployment.Restores swift host update ↔ deployment.FindsWhole swift host update) := by
  obtain ⟨contents, sees, inv⟩ := kept
  have same : host.files.get? = contents := funext sees.files
  have shown := call_brings apart serves inv host sees
  unfold Restores FindsWhole step
  rw [same]
  rcases called : deployment.call update.1 update.2 host with ⟨result, final⟩
  rw [called] at shown
  cases result with
  | error exception =>
    refine ⟨shown, ?_⟩
    constructor <;> intro _ updated returned <;> cases returned
  | ok value =>
    have complete := complete_iff shown
    obtain ⟨after, sees', kept', _⟩ := shown
    refine ⟨⟨after, sees', kept'⟩, ?_⟩
    constructor
    · intro restores updated returned
      exact complete.mp (restores updated returned)
    · intro finds updated returned
      exact complete.mpr (finds updated returned)

/-- Where neither the caches nor the container have files yet, every call that returns leaves the
objects in the container as they are in Swift exactly when no such call finds a dependency in the
cache in part. -/
theorem partial_fetch_unused_iff (deployment : Deployment) (apart : deployment.Apart)
    (swift : SwiftObjects) (host : Host)
    (fresh : ∀ object ∈ deployment.objects, host.files.get? (deployment.cache object) = none ∧
      host.files.get? (deployment.target object) = none ∧
        host.isDirectory (deployment.target object) = false)
    {updates : List Update}
    (serves : ∀ update ∈ updates, deployment.Serves swift update.1 update.2) :
    Along deployment.step (deployment.Restores swift) host updates ↔
      Along deployment.step (deployment.FindsWhole swift) host updates := by
  have kept : deployment.Kept swift host.files.get? := by
    refine ⟨?_, ?_, ?_⟩
    · intro file there
      rw [(fresh _ name_mem_objects).1] at there
      cases there
    · intro file there
      rw [(fresh _ name_mem_objects).2.1] at there
      cases there
    · intro dep among file there
      rw [(fresh _ (mem_objects among)).2.1] at there
      cases there
  have initial : deployment.Interrupted swift host := by
    refine ⟨host.files.get?, ⟨fun _ => rfl, ?_⟩, kept⟩
    rintro place ⟨object, inside, rfl⟩
    exact (fresh object inside).2.2
  have keeps (host : Host) (update : Update) (kept : deployment.Interrupted swift host)
      (serves : deployment.Serves swift update.1 update.2)
      (_ : deployment.FindsWhole swift host update) :
      deployment.Interrupted swift (deployment.step host update) :=
    (call_spec apart serves kept).1
  exact along_iff_of keeps (fun host update kept serves => (call_spec apart serves kept).2) initial
    (along_of_forall serves host)

end Runs

/-! ## A storlet with one dependency -/

def jarDeployment : Deployment where
  paths := RunTimePaths.init "AUTH_test" .empty
  cwd := []
  name := "job-1.0.jar"
  main := "org.Main"
  dependencies := ["a.jar".toList]

def jarObjects : SwiftObjects where
  storlet := [1, 2]
  timestamp := .finite (scale 1 0)
  dependency := fun _ => [3, 4]
  permissions := fun _ => some "0700"

theorem jarDeployment_apart : jarDeployment.Apart where
  below := by decide
  differs := by decide
  base := by decide
  cacheDir := by decide
  cache := by decide
  targets := by decide
  caches := by decide

/-- In one of the calls, a write to one of the files fails. -/
def breakingOff (object : Text × Bool) (tick : Nat) : Surroundings where
  cwd := []
  now := 1
  fails
    | .write place, counted => decide (place = jarDeployment.cache object) && counted = tick
    | _, _ => false
  getStorlet := fun _ => ([[1], [2]], none)
  getDependency := fun _ => ([[3], [4]], some "0700")

def jarCall : ContainerStorletRequest where
  storletId := "job-1.0.jar"
  params := .empty
  data := ⟨.empty, .fd []⟩
  options :=
    { storlet := PyDict.ofList [("storlet_content_length".toList, "2".toList),
        ("storlet_x_timestamp".toList, "1".toList)]
      scope := "AUTH_test"
      generateLog := false }
  generateLog := false
  storletMain := "org.Main"
  storletLanguage := "Java"
  storletLanguageVersion := none
  dependencies := ["a.jar".toList]
  start := none
  «end» := none

theorem jarCall_serves {object : Text × Bool} (inside : object ∈ jarDeployment.objects)
    (tick : Nat) : jarDeployment.Serves jarObjects (breakingOff object tick) jarCall where
  cwd := rfl
  name := rfl
  main := rfl
  dependencies := rfl
  length := rfl
  timestamp := rfl
  answers := by
    intro object inside
    cases kind : object.2 <;>
      simp [answer, SwiftObjects.content, SwiftObjects.permission, kind, breakingOff, jarObjects]
  permitted := by
    intro object inside
    cases kind : object.2 with
    | true => exact ⟨0o600, by rw [SwiftObjects.permission, kind]; rfl⟩
    | false => exact ⟨0o700, by rw [SwiftObjects.permission, kind]; rfl⟩
  sure := by
    intro other there call copies
    have differs := cache_apart jarDeployment_apart inside there
    cases copies with
    | write =>
      funext counted
      change (decide (jarDeployment.target other = jarDeployment.cache object) && _) = false
      rw [decide_eq_false differs.symm, Bool.false_and]
    | _ => rfl

def freshHost : Host := { files := .empty, directories := [] }

def cutStorlet : Update := (breakingOff ("job-1.0.jar", true) 6, jarCall)

def cutDependency : Update := (breakingOff ("a.jar", false) 17, jarCall)

/-- A storlet that is cut in the cache is fetched again. -/
theorem cut_storlet_unused : Along jarDeployment.step (jarDeployment.Restores jarObjects) freshHost
    [cutStorlet, cutStorlet] := by
  have inside : ("job-1.0.jar".toList, true) ∈ jarDeployment.objects := List.mem_cons_self
  have serves : ∀ update ∈ [cutStorlet, cutStorlet],
      jarDeployment.Serves jarObjects update.1 update.2 := by
    intro update listed
    have same : update = cutStorlet := by simpa using listed
    rw [same]
    exact jarCall_serves inside 6
  apply (partial_fetch_unused_iff jarDeployment jarDeployment_apart jarObjects freshHost
    (fun _ _ => ⟨rfl, rfl, rfl⟩) serves).mpr
  refine ⟨?_, ?_, trivial⟩
  · intro updated returned dep among file there
    cases there
  · -- the first call has not come to the dependency
    have none : (jarDeployment.step freshHost cutStorlet).files.get?
        (jarDeployment.cache ("a.jar".toList, false)) = none := by decide +kernel
    intro updated returned dep among file there
    rw [List.mem_singleton.mp among, none] at there
    cases there

/-- A dependency that is cut in the cache is used from then on. -/
theorem cut_dependency_used :
    (∀ update ∈ [cutDependency, cutDependency],
      jarDeployment.Serves jarObjects update.1 update.2) ∧
    ¬ Along jarDeployment.step (jarDeployment.Restores jarObjects) freshHost
      [cutDependency, cutDependency] := by
  constructor
  · intro update listed
    have same : update = cutDependency := by simpa using listed
    rw [same]
    exact jarCall_serves (mem_objects List.mem_cons_self) 17
  · intro restores
    have returned : (jarDeployment.call cutDependency.1 cutDependency.2
        (jarDeployment.step freshHost cutDependency)).1.toBool = true := by decide +kernel
    have used : (jarDeployment.step (jarDeployment.step freshHost cutDependency)
        cutDependency).files.get? (jarDeployment.target ("a.jar".toList, false)) =
          some ⟨[3], 1, 0o700⟩ := by decide +kernel
    cases called : (jarDeployment.call cutDependency.1 cutDependency.2
        (jarDeployment.step freshHost cutDependency)).1 with
    | error exception =>
      rw [called] at returned
      cases returned
    | ok updated =>
      obtain ⟨file, there, whole, -⟩ :=
        (restores.2.1 updated called).dependency "a.jar".toList List.mem_cons_self
      rw [used] at there
      obtain rfl := Option.some.inj there
      cases whole

end Deployment

end Storlets
