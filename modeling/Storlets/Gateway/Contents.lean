import Storlets.Gateway.Cache

set_option autoImplicit false

/-!
# What the gateway's calls do to the files

A host is seen as what each place holds. Some places are kept free of directories: the ones a
file of the container is to be copied to.
-/

namespace Storlets

open PyStr PosixPath Effect

abbrev Contents := Location → Option File

structure Host.Sees (flat : Location → Prop) (contents : Contents) (host : Host) : Prop where
  files : ∀ place, host.files.get? place = contents place
  flat : ∀ place, flat place → host.isDirectory place = false

section Calls

variable {flat : Location → Prop} {contents : Contents} {raised : Host → Prop}

theorem sees_tick (host : Host) (sees : host.Sees flat contents) : host.tick.Sees flat contents :=
  ⟨sees.files, sees.flat⟩

theorem sees_touch {host : Host} (act : Act) (place : Location) (sees : host.Sees flat contents) :
    (host.touch act place).Sees flat contents :=
  ⟨sees.files, sees.flat⟩

theorem sees_makeDirectory {host : Host} {place : Location}
    (clear : ∀ other, flat other → ¬ other <+: place) (sees : host.Sees flat contents) :
    (host.makeDirectory place).Sees flat contents := by
  refine ⟨sees.files, fun other isFlat => ?_⟩
  have before := sees.flat other isFlat
  have notAbove : other.isPrefixOf place = false := by
    rw [← Bool.not_eq_true, List.isPrefixOf_iff_prefix]
    exact clear other isFlat
  simpa [Host.isDirectory, Host.makeDirectory, notAbove] using before

theorem sees_setFile {host : Host} {place : Location} (file : File)
    (clear : ∀ other, flat other → other <+: place → other = place)
    (sees : host.Sees flat contents) :
    (host.setFile place file).Sees flat (Function.update contents place (some file)) := by
  constructor
  · intro other
    by_cases same : other = place <;>
      simp [Host.setFile, PyDict.get?_set, same, Function.update, sees.files]
  · intro other isFlat
    have before := sees.flat other isFlat
    simp only [Host.isDirectory, Host.setFile, Bool.or_eq_false_iff, List.any_eq_false] at before ⊢
    refine ⟨before.1, fun key inside => ?_⟩
    rcases (PyDict.mem_keys_set _ _ _ _).mp inside with rfl | old
    · simp only [Bool.and_eq_true, List.isPrefixOf_iff_prefix, decide_eq_true_eq, not_and, not_not]
      exact clear other isFlat
    · exact before.2 key old

theorem sees_changeFile {host : Host} {place : Location} (change : File → File)
    (clear : ∀ other, flat other → other <+: place → other = place)
    (sees : host.Sees flat contents) :
    (host.changeFile place change).Sees flat
      (Function.update contents place ((contents place).map change)) := by
  unfold Host.changeFile
  rw [sees.files place]
  cases found : contents place with
  | some file => exact sees_setFile (change file) clear sees
  | none =>
    have same : Function.update contents place none = contents := by
      rw [← found, Function.update_eq_self]
    simpa [same] using sees

variable (env : Surroundings)

/-- The environment lets the call through, or what it would leave is allowed for. -/
def Lets (call : Call) (before raised : Host → Prop) : Prop :=
  env.fails call = (fun _ => false) ∨ ∀ host, before host → raised host

theorem attempt_lets {α : Type} {call : Call} {exception : GatewayError} {action : HostAction α}
    {returned : α → Host → Prop} (lets : Lets env call (Host.Sees flat contents) raised)
    (meets : Meets (Host.Sees flat contents) action returned raised) :
    Meets (Host.Sees flat contents) (attempt env call exception action) returned raised := by
  rcases lets with sure | allowed
  · exact attempt_sure env sure sees_tick meets
  · exact attempt_meets env sees_tick allowed meets

theorem pathIsfile_sees {path : Text} (named : namesFile path = true) :
    Meets (Host.Sees flat contents) (pathIsfile env path)
      (fun found host => found = (contents (resolve env.cwd path)).isSome ∧
        host.Sees flat contents) raised := by
  intro host sees
  refine ⟨?_, sees⟩
  show (namesFile path && host.isFile _) = _
  rw [named, Bool.true_and, Host.isFile, sees.files]

theorem stat_sees {path : Text} {file : File} (lets : Lets env (.stat (resolve env.cwd path)) (Host.Sees flat contents) raised)
    (there : contents (resolve env.cwd path) = some file) :
    Meets (Host.Sees flat contents) (stat env path)
      (fun found host => found = file ∧ host.Sees flat contents) raised := by
  refine attempt_lets env lets ?_
  intro host sees
  rw [bind_apply, look_apply]
  dsimp only
  rw [sees.files, there]
  exact ⟨rfl, sees⟩

theorem makedirs_sees {path : Text} (lets : Lets env (.makedirs (resolve env.cwd path)) (Host.Sees flat contents) raised)
    (clear : ∀ other, flat other → ¬ other <+: resolve env.cwd path) :
    Meets (Host.Sees flat contents) (makedirs env path) (fun _ => Host.Sees flat contents) raised :=
  attempt_lets env lets
    (.change fun _ sees => sees_touch _ _ (sees_makeDirectory clear sees))

theorem ensureDirectory_sees {path : Text}
    (lets : Lets env (.makedirs (resolve env.cwd path)) (Host.Sees flat contents) raised)
    (clear : ∀ other, flat other → ¬ other <+: resolve env.cwd path) :
    Meets (Host.Sees flat contents) (ensureDirectory env path) (fun _ => Host.Sees flat contents)
      raised :=
  Meets.bind (fun _ => Host.Sees flat contents) (fun _ sees => sees) fun _ =>
    .ite (fun _ => .pure fun _ => id) fun _ => makedirs_sees env lets clear

variable {path : Text}
  (clear : ∀ other, flat other → other <+: resolve env.cwd path → other = resolve env.cwd path)

/-- A file that was opened to be written anew and holds only the start of what was to be written. -/
def Broken (flat : Location → Prop) (contents : Contents) (place : Location) (whole : Bytes)
    (host : Host) : Prop :=
  ∃ file : File, file.content <+: whole ∧
    host.Sees flat (Function.update contents place (some file))

/-- What `open` leaves of the file: nothing but its mode. -/
def opened (contents : Contents) (place : Location) : File :=
  ⟨[], env.now, ((contents place).map File.mode).getD env.newMode⟩

include clear

theorem openWrite_sees (named : namesFile path = true)
    (lets : Lets env (.openWrite (resolve env.cwd path)) (Host.Sees flat contents) raised) :
    Meets (Host.Sees flat contents) (openWrite env path)
      (fun _ => Host.Sees flat (Function.update contents (resolve env.cwd path)
        (some (opened env contents (resolve env.cwd path))))) raised := by
  rw [openWrite, if_pos named]
  refine attempt_lets env lets (.change fun host sees => sees_touch _ _ ?_)
  simpa only [opened, sees.files] using sees_setFile _ clear sees

theorem chmod_sees (perm : Nat)
    (lets : Lets env (.chmod (resolve env.cwd path)) (Host.Sees flat contents) raised) :
    Meets (Host.Sees flat contents) (chmod env path perm)
      (fun _ => Host.Sees flat (Function.update contents (resolve env.cwd path)
        ((contents (resolve env.cwd path)).map fun file => { file with mode := perm }))) raised :=
  attempt_lets env lets (.change fun _ sees => sees_touch _ _ (sees_changeFile _ clear sees))

theorem writeChunk_sees (data : Bytes)
    (lets : Lets env (.write (resolve env.cwd path)) (Host.Sees flat contents) raised) :
    Meets (Host.Sees flat contents) (writeChunk env path data)
      (fun _ => Host.Sees flat (Function.update contents (resolve env.cwd path)
        ((contents (resolve env.cwd path)).map fun file =>
          { file with content := file.content ++ data, mtime := env.now }))) raised :=
  attempt_lets env lets (.change fun _ sees => sees_touch _ _ (sees_changeFile _ clear sees))

/-- Nothing breaks off what has been opened, or what that leaves is allowed for. -/
def Unbroken (flat : Location → Prop) (contents : Contents) (place : Location) (whole : Bytes)
    (raised : Host → Prop) : Prop :=
  (env.fails (.chmod place) = (fun _ => false) ∧ env.fails (.write place) = fun _ => false) ∨
    ∀ host, Broken flat contents place whole host → raised host

-- what is there is the chunks written so far, whichever write fails
theorem writeChunks_sees (contents : Contents) (chunks : List Bytes) (content : Bytes) (mode : Nat)
    (unbroken : Unbroken env flat contents (resolve env.cwd path) (content ++ chunks.flatten)
      raised) :
    Meets (Host.Sees flat (Function.update contents (resolve env.cwd path)
        (some ⟨content, env.now, mode⟩)))
      (forEach (fun _ chunk => writeChunk env path chunk) () chunks)
      (fun _ => Host.Sees flat (Function.update contents (resolve env.cwd path)
        (some ⟨content ++ chunks.flatten, env.now, mode⟩))) raised := by
  induction chunks generalizing content with
  | nil =>
    simp only [List.flatten_nil, List.append_nil]
    exact .pure fun _ => id
  | cons chunk rest ih =>
    have lets : Lets env (.write (resolve env.cwd path)) (Host.Sees flat (Function.update contents
        (resolve env.cwd path) (some ⟨content, env.now, mode⟩))) raised :=
      unbroken.imp And.right fun allowed host sees => allowed host ⟨_, List.prefix_append _ _, sees⟩
    have wrote := writeChunk_sees env clear chunk lets
    simp only [Function.update_self, Option.map_some, Function.update_idem] at wrote
    have later := ih (content ++ chunk)
    simp only [List.flatten_cons, List.append_assoc] at unbroken later ⊢
    exact Meets.bind _ wrote fun _ => later unbroken

/-- The chunks and the permissions of the object that is brought. -/
def answer (name : Text) (isStorlet : Bool) : List Bytes × Option Text :=
  if isStorlet then env.getStorlet name else env.getDependency name

/-- A fetch brings the whole object, fails with the files as they were, or breaks off. -/
theorem bringToCache_sees (named : namesFile path = true) {name : Text} {isStorlet : Bool}
    {bits : Nat} (permission : cachePermission (answer env name isStorlet).2 = .ok bits)
    (still : ∀ host, host.Sees flat contents → raised host)
    (unbroken : Unbroken env flat contents (resolve env.cwd path)
      (answer env name isStorlet).1.flatten raised) :
    Meets (Host.Sees flat contents) (bringToCache env path name isStorlet)
      (fun _ => Host.Sees flat (Function.update contents (resolve env.cwd path)
        (some ⟨(answer env name isStorlet).1.flatten, env.now, bits⟩))) raised := by
  have got : Meets (Host.Sees flat contents)
      (attempt env (.getObject name) .fileManagement (pure (answer env name isStorlet)))
      (fun found host => found = answer env name isStorlet ∧ host.Sees flat contents) raised :=
    attempt_lets env (.inr still) (.pure fun _ sees => ⟨rfl, sees⟩)
  refine Meets.bind _ got fun found => ?_
  rintro host ⟨rfl, sees⟩
  revert host
  generalize answer env name isStorlet = found at permission unbroken
  obtain ⟨chunks, perm⟩ := found
  dsimp only at permission unbroken ⊢
  show Meets (Host.Sees flat contents) _ _ _
  rw [permission, lift_ok_bind]
  refine Meets.bind (fun _ => Host.Sees flat (Function.update contents (resolve env.cwd path)
    (some (opened env contents (resolve env.cwd path)))))
    (openWrite_sees env clear named (.inr still)) fun _ => ?_
  have lets : Lets env (.chmod (resolve env.cwd path)) (Host.Sees flat (Function.update contents
      (resolve env.cwd path) (some (opened env contents (resolve env.cwd path))))) raised :=
    unbroken.imp And.left fun allowed host sees => allowed host ⟨_, List.nil_prefix, sees⟩
  have moded := chmod_sees env clear bits lets
  simp only [Function.update_self, Option.map_some, Function.update_idem, opened] at moded
  have wrote := writeChunks_sees env clear contents chunks [] bits unbroken
  simp only [List.nil_append] at wrote
  exact Meets.bind _ moded fun _ => wrote

end Calls

/-! ## What becomes of a file -/

section Brings

/-- Whether the file of the cache is to be fetched. -/
def cacheNeeds (cached : Option File) (isStorlet : Bool) (size : Int) (time : PyStr.Float) : Bool :=
  match cached with
  | some file =>
      isStorlet && ((file.content.length : Int) ≠ size || time.above file.mtime)
  | none => true

/-- Whether the file of the container is to be replaced by that of the cache. -/
def containerNeeds (cached container : Option File) : Bool :=
  match container, cached with
  | some container, some cached =>
      cached.content.length ≠ container.content.length || cached.mtime < container.mtime
  | _, _ => true

variable {flat : Location → Prop} {contents : Contents} {raised : Host → Prop}
  (env : Surroundings) (sreq : ContainerStorletRequest)

theorem cacheOutdated_sees {path : Text} {isStorlet : Bool} {size : Int} {time : PyStr.Float}
    (named : namesFile path = true)
    (lets : Lets env (.stat (resolve env.cwd path)) (Host.Sees flat contents) raised)
    (asked : isStorlet = true → storletSize sreq = .ok size ∧ storletTime sreq = .ok time) :
    Meets (Host.Sees flat contents) (cacheOutdated env sreq path isStorlet)
      (fun needs host => needs = cacheNeeds (contents (resolve env.cwd path)) isStorlet size time ∧
        host.Sees flat contents) raised := by
  unfold cacheNeeds
  refine Meets.bind _ (pathIsfile_sees env named) fun found => .ite (fun isFile => ?_) fun absent => ?_
  · rintro host ⟨rfl, sees⟩
    obtain ⟨file, there⟩ := Option.isSome_iff_exists.mp isFile
    rw [there]
    cases isStorlet with
    | false => exact ⟨rfl, sees⟩
    | true =>
      obtain ⟨sized, timed⟩ := asked rfl
      refine Meets.bind _ (stat_sees env lets there) (fun fstat => ?_) host sees
      rintro host ⟨rfl, sees⟩
      rw [sized, timed]
      exact ⟨(Bool.true_and _).symm, sees⟩
  · rintro host ⟨rfl, sees⟩
    have none : contents (resolve env.cwd path) = none := by simpa using absent
    rw [none]
    exact ⟨rfl, sees⟩

/-- The calls that are no part of a fetch. -/
inductive Copies (target : Location) : Call → Prop where
  | stat {place : Location} : Copies target (.stat place)
  | makedirs {place : Location} : Copies target (.makedirs place)
  | openWrite : Copies target (.openWrite target)
  | write : Copies target (.write target)
  | copystat : Copies target (.copystat target)

theorem containerOutdated_sees {dir src dst : Text} {cached : File}
    (named : namesFile dst = true)
    (lets : ∀ call, Copies (resolve env.cwd dst) call → ∀ before, Lets env call before raised)
    (clear : ∀ other, flat other → ¬ other <+: resolve env.cwd dir)
    (inside : resolve env.cwd dir <+: resolve env.cwd dst ∧ resolve env.cwd dir ≠ resolve env.cwd dst)
    (there : contents (resolve env.cwd src) = some cached) :
    Meets (Host.Sees flat contents) (containerOutdated env dir src dst)
      (fun update host =>
        update = containerNeeds (contents (resolve env.cwd src)) (contents (resolve env.cwd dst)) ∧
          host.Sees flat contents) raised := by
  unfold containerNeeds
  rw [there]
  have looked : Meets (Host.Sees flat contents) (pathExists env dir)
      (fun found host => host.Sees flat contents ∧
        (contents (resolve env.cwd dst) ≠ none → found = true)) raised := by
    intro host sees
    refine ⟨sees, fun given => ?_⟩
    obtain ⟨file, found⟩ := Option.ne_none_iff_exists'.mp given
    have listed : resolve env.cwd dst ∈ host.files.keys := by
      rw [← PyDict.get?_isSome, sees.files, found]
      rfl
    have above : host.isDirectory (resolve env.cwd dir) = true := by
      rw [Host.isDirectory, Bool.or_eq_true]
      refine .inr (List.any_eq_true.mpr ⟨_, listed, ?_⟩)
      simpa [List.isPrefixOf_iff_prefix] using inside
    change (host.isDirectory (resolve env.cwd dir) || _) = true
    rw [above, Bool.true_or]
  refine Meets.bind _ looked fun found => .ite (fun exist => ?_) fun absent => ?_
  · rintro host ⟨sees, -⟩
    revert host
    show Meets (Host.Sees flat contents) _ _ _
    refine Meets.bind _ (pathIsfile_sees env named) fun isFile => .ite (fun isFile => ?_) fun absent => ?_
    · rintro host ⟨rfl, sees⟩
      obtain ⟨container, target⟩ := Option.isSome_iff_exists.mp isFile
      rw [target]
      refine Meets.bind _ (stat_sees env (lets _ .stat _) there) (fun fstat => ?_) host sees
      rintro host ⟨rfl, sees⟩
      refine Meets.bind _ (stat_sees env (lets _ .stat _) target) (fun fstat => ?_) host sees
      rintro host ⟨rfl, sees⟩
      exact ⟨rfl, sees⟩
    · rintro host ⟨rfl, sees⟩
      have none : contents (resolve env.cwd dst) = none := by simpa using absent
      rw [none]
      exact ⟨rfl, sees⟩
  · rintro host ⟨sees, given⟩
    have none : contents (resolve env.cwd dst) = none := by
      by_contra filled
      exact absent (given filled)
    rw [none]
    refine Meets.bind (fun _ => Host.Sees flat contents) (makedirs_sees env (lets _ .makedirs _) clear)
      (fun _ => .pure fun _ sees => ⟨rfl, sees⟩) host sees

/-- A copy is the file of the cache, its time and its mode included. -/
theorem copy2_sees {src dst : Text} {cached : File} (named : namesFile dst = true)
    (apart : resolve env.cwd src ≠ resolve env.cwd dst) (isFlat : flat (resolve env.cwd dst))
    (clear : ∀ other, flat other → other <+: resolve env.cwd dst → other = resolve env.cwd dst)
    (lets : ∀ call, Copies (resolve env.cwd dst) call → ∀ before, Lets env call before raised)
    (there : contents (resolve env.cwd src) = some cached) :
    Meets (Host.Sees flat contents) (copy2 env src dst)
      (fun _ => Host.Sees flat (Function.update contents (resolve env.cwd dst) (some cached)))
      raised := by
  refine Meets.bind (fun _ => Host.Sees flat contents) (.change fun _ => sees_touch _ _) fun _ => ?_
  refine Meets.bind _ .look fun intoDirectory => ?_
  rintro host ⟨sees, rfl⟩
  rw [sees.flat _ isFlat, if_neg Bool.false_ne_true]
  revert host
  show Meets (Host.Sees flat contents) _ _ _
  rw [copyTo, if_neg apart]
  refine Meets.bind _ (stat_sees env (lets _ .stat _) there) fun source => ?_
  rintro host ⟨rfl, sees⟩
  revert host
  show Meets (Host.Sees flat contents) _ _ _
  refine Meets.bind _ (openWrite_sees env clear named (lets _ .openWrite _)) fun _ => ?_
  refine Meets.bind _ (writeChunk_sees env clear source.content (lets _ .write _)) fun _ => ?_
  refine attempt_lets env (lets _ .copystat _) (.change fun host sees => sees_touch _ _ ?_)
  have copied := sees_changeFile (fun file =>
    { file with mtime := source.mtime, mode := source.mode }) clear sees
  simpa [opened] using copied

/-- Where an object's two files are: neither they nor what is made on the way to them is above a
place that is kept free of directories. -/
structure Placed (paths : RunTimePaths) (cwd : Location) (sreq : ContainerStorletRequest)
    (flat : Location → Prop) (object : Text × Bool) : Prop where
  below : storletPlace paths cwd sreq <+: containerPlace paths cwd sreq object.1
  differs : storletPlace paths cwd sreq ≠ containerPlace paths cwd sreq object.1
  isFlat : flat (containerPlace paths cwd sreq object.1)
  apart : cachePlace paths cwd object ≠ containerPlace paths cwd sreq object.1
  cacheDir : ∀ other, flat other → ¬ other <+: resolve cwd (paths.cacheDir object.2)
  storletDir : ∀ other, flat other → ¬ other <+: storletPlace paths cwd sreq
  cache : ∀ other, flat other → other <+: cachePlace paths cwd object →
    other = cachePlace paths cwd object
  container : ∀ other, flat other → other <+: containerPlace paths cwd sreq object.1 →
    other = containerPlace paths cwd sreq object.1

/-- Plain names in a directory that is none of those on the way to the caches. -/
theorem placed_of_apart {paths : RunTimePaths} {cwd : Location} {sreq : ContainerStorletRequest}
    {names : List Text} (plain : ∀ name ∈ names, Plain name)
    (apart : ∀ isStorlet, ¬ storletPlace paths cwd sreq <+: resolve cwd (paths.cacheDir isStorlet))
    {object : Text × Bool} (listed : object.1 ∈ names) :
    Placed paths cwd sreq (fun place => ∃ name ∈ names, place = containerPlace paths cwd sreq name)
      object := by
  have below : ∀ name ∈ names, containerPlace paths cwd sreq name =
      storletPlace paths cwd sreq ++ [name] :=
    fun name inside => resolve_join_plain cwd _ (plain name inside)
  have cached : cachePlace paths cwd object = resolve cwd (paths.cacheDir object.2) ++ [object.1] :=
    resolve_join_plain cwd _ (plain object.1 listed)
  have off {other : Location} (isFlat : ∃ name ∈ names, other = containerPlace paths cwd sreq name)
      (isStorlet : Bool) : ¬ other <+: resolve cwd (paths.cacheDir isStorlet) := by
    obtain ⟨name, inside, rfl⟩ := isFlat
    rw [below name inside]
    exact fun above => apart isStorlet ((List.prefix_append _ _).trans above)
  refine ⟨?_, ?_, ⟨object.1, listed, rfl⟩, ?_, fun other isFlat => off isFlat _, ?_, ?_, ?_⟩
  · rw [below object.1 listed]
    exact List.prefix_append _ _
  · rw [below object.1 listed]
    simp
  · rw [cached, below object.1 listed]
    intro same
    refine apart object.2 ?_
    rw [List.append_cancel_right same]
  · rintro other ⟨name, inside, rfl⟩ above
    rw [below name inside] at above
    simpa using above.length_le
  · intro other isFlat above
    rw [cached] at above ⊢
    exact (List.prefix_concat_iff.mp above).resolve_right (off isFlat _)
  · rintro other ⟨name, inside, rfl⟩ above
    rw [below name inside, below object.1 listed] at above ⊢
    exact above.eq_of_length (by simp)

/-- What a call makes of the files, and whether it replaces the file of the container. -/
def brought (contents : Contents) (cache target : Location) (needs : Bool) (whole : File) :
    Bool × Contents :=
  let middle := if needs then Function.update contents cache (some whole) else contents
  (containerNeeds (middle cache) (middle target),
    if containerNeeds (middle cache) (middle target) then
      Function.update middle target (middle cache)
    else middle)

section Brought

variable {contents : Contents} {cache target : Location} (needs : Bool) (whole : File)

theorem brought_other {other : Location} (offCache : other ≠ cache) (offTarget : other ≠ target) :
    (brought contents cache target needs whole).2 other = contents other := by
  unfold brought
  dsimp only
  split <;> split <;> simp [offCache, offTarget]

variable (apart : cache ≠ target)

include apart

theorem brought_cache : (brought contents cache target needs whole).2 cache =
    if needs then some whole else contents cache := by
  unfold brought
  dsimp only
  split <;> split <;> simp [apart]

theorem brought_fst : (brought contents cache target needs whole).1 =
    containerNeeds (if needs then some whole else contents cache) (contents target) := by
  unfold brought
  dsimp only
  split <;> simp [apart.symm]

theorem brought_target : (brought contents cache target needs whole).2 target =
    if (brought contents cache target needs whole).1 then
      (if needs then some whole else contents cache)
    else contents target := by
  unfold brought
  dsimp only
  split <;> split <;> simp [apart.symm]

end Brought

theorem bringFromCache_sees {paths : RunTimePaths} {object : Text × Bool} {size : Int}
    {time : PyStr.Float} {bits : Nat} (placed : Placed paths env.cwd sreq flat object)
    (named : namesFile object.1 = true)
    (permission : cachePermission (answer env object.1 object.2).2 = .ok bits)
    (asked : object.2 = true → storletSize sreq = .ok size ∧ storletTime sreq = .ok time)
    (lets : ∀ call, Copies (containerPlace paths env.cwd sreq object.1) call →
      ∀ before, Lets env call before raised)
    (still : ∀ host, host.Sees flat contents → raised host)
    (unbroken : cacheNeeds (contents (cachePlace paths env.cwd object)) object.2 size time = true →
      Unbroken env flat contents (cachePlace paths env.cwd object)
        (answer env object.1 object.2).1.flatten raised) :
    Meets (Host.Sees flat contents) (bringFromCache paths env sreq object.1 object.2)
      (fun update host =>
        let after := brought contents (cachePlace paths env.cwd object)
          (containerPlace paths env.cwd sreq object.1)
          (cacheNeeds (contents (cachePlace paths env.cwd object)) object.2 size time)
          ⟨(answer env object.1 object.2).1.flatten, env.now, bits⟩
        update = after.1 ∧ host.Sees flat after.2) raised := by
  obtain ⟨name, isStorlet⟩ := object
  have named : namesFile name = true := named
  have cacheNamed : namesFile (join (paths.cacheDir isStorlet) name) = true := by
    rw [namesFile_join, named]
  have targetNamed : namesFile (join (paths.getHostStorletDir sreq.storletMain) name) = true := by
    rw [namesFile_join, named]
  refine Meets.bind _ (ensureDirectory_sees env (lets _ .makedirs _) placed.cacheDir) fun _ => ?_
  refine Meets.bind _ (cacheOutdated_sees env sreq cacheNamed (lets _ .stat _) asked) fun needs => ?_
  rintro host ⟨same, sees⟩
  change needs =
    cacheNeeds (contents (cachePlace paths env.cwd (name, isStorlet))) isStorlet size time at same
  dsimp only at unbroken ⊢
  rw [← same] at unbroken ⊢
  revert host
  show Meets (Host.Sees flat contents) _ _ _
  -- the cache holds the object, whether it was fetched now or before
  have fetched : Meets (Host.Sees flat contents)
      (when needs (bringToCache env (join (paths.cacheDir isStorlet) name) name isStorlet))
      (fun _ => Host.Sees flat (if needs then Function.update contents
        (cachePlace paths env.cwd (name, isStorlet))
        (some ⟨(answer env name isStorlet).1.flatten, env.now, bits⟩) else contents)) raised := by
    cases needs with
    | true => exact bringToCache_sees env placed.cache cacheNamed permission still (unbroken rfl)
    | false => exact .pure fun _ => id
  have held : ∃ cached, (if needs then Function.update contents
      (cachePlace paths env.cwd (name, isStorlet))
      (some ⟨(answer env name isStorlet).1.flatten, env.now, bits⟩) else contents)
        (cachePlace paths env.cwd (name, isStorlet)) = some cached := by
    cases needs with
    | true => exact ⟨_, Function.update_self ..⟩
    | false =>
      unfold cacheNeeds at same
      rcases found : contents (cachePlace paths env.cwd (name, isStorlet)) with _ | cached
      · rw [found] at same
        cases same
      · exact ⟨cached, found⟩
  obtain ⟨cached, there⟩ := held
  refine Meets.bind _ fetched fun _ => ?_
  unfold brought
  generalize (if needs then Function.update contents (cachePlace paths env.cwd (name, isStorlet))
    (some ⟨(answer env name isStorlet).1.flatten, env.now, bits⟩) else contents) = middle at there ⊢
  refine Meets.bind _ (containerOutdated_sees env targetNamed lets placed.storletDir
    ⟨placed.below, placed.differs⟩ there)
    fun update => ?_
  rintro host ⟨same, sees⟩
  change update = containerNeeds (middle (cachePlace paths env.cwd (name, isStorlet)))
    (middle (containerPlace paths env.cwd sreq name)) at same
  dsimp only
  rw [← same]
  revert host
  show Meets (Host.Sees flat middle) _ _ _
  have copied : Meets (Host.Sees flat middle)
      (when update (copy2 env (join (paths.cacheDir isStorlet) name)
        (join (paths.getHostStorletDir sreq.storletMain) name)))
      (fun _ => Host.Sees flat (if update then Function.update middle
        (containerPlace paths env.cwd sreq name)
        (middle (cachePlace paths env.cwd (name, isStorlet))) else middle)) raised := by
    cases update with
    | true =>
      rw [there]
      exact copy2_sees env targetNamed placed.apart placed.isFlat placed.container lets there
    | false => exact .pure fun _ => id
  exact Meets.bind _ copied fun _ => .pure fun host sees => ⟨rfl, sees⟩

/-- A name that no file can have is never brought. -/
theorem unnamed_raises {paths : RunTimePaths} {Inv : Host → Prop} {objName : Text}
    {isStorlet : Bool} (odd : namesFile objName = false)
    (makes : Meets Inv (ensureDirectory env (paths.cacheDir isStorlet)) (fun _ => Inv) raised)
    (ticks : ∀ host, Inv host → Inv host.tick) (still : ∀ host, Inv host → raised host) :
    Meets Inv (bringFromCache paths env sreq objName isStorlet) (fun _ _ => False) raised := by
  have cacheOdd : namesFile (join (paths.cacheDir isStorlet) objName) = false := by
    rw [namesFile_join, odd]
  have absent : Meets Inv (pathIsfile env (join (paths.cacheDir isStorlet) objName))
      (fun found host => found = false ∧ Inv host) raised := by
    intro host holds
    refine ⟨?_, holds⟩
    change (namesFile _ && _) = false
    rw [cacheOdd, Bool.false_and]
  have asked : Meets Inv
      (cacheOutdated env sreq (join (paths.cacheDir isStorlet) objName) isStorlet)
      (fun outdated host => outdated = true ∧ Inv host) raised := by
    refine Meets.bind _ absent fun found => .ite (fun yes => ?_) fun _ => .pure ?_
    · rintro host ⟨no, _⟩
      rw [no] at yes
      cases yes
    · exact fun host holds => ⟨rfl, holds.2⟩
  have opens : Meets Inv
      (bringToCache env (join (paths.cacheDir isStorlet) objName) objName isStorlet)
      (fun _ _ => False) raised := by
    have gets : Meets Inv (attempt env (.getObject objName) .fileManagement
        (pure (answer env objName isStorlet))) (fun _ => Inv) raised :=
      attempt_meets env ticks still (.pure fun _ => id)
    refine Meets.bind _ gets fun (data, perm) => ?_
    refine Meets.bind (fun _ => Inv) (Meets.lift.weaken (fun _ => id) (fun _ _ => And.left) still)
      fun bits => ?_
    refine Meets.bind (fun _ _ => False) ?_ fun _ _ none => none.elim
    rw [openWrite, if_neg (by rw [cacheOdd]; exact Bool.false_ne_true)]
    exact .throw still
  refine Meets.bind _ makes fun _ => Meets.bind _ asked fun outdated => ?_
  refine Meets.bind (fun _ _ => False) ?_ fun _ _ none => none.elim
  rintro host ⟨isOutdated, holds⟩
  rw [isOutdated]
  exact opens host holds

end Brings

end Storlets
