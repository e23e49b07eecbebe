import Storlets.Gateway.Contents
import Storlets.Library.Runs

set_option autoImplicit false

/-!
# Updates of a storlet

A storlet is uploaded again and again, and brought from the cache to its container.
-/

namespace Storlets

open PyStr PosixPath Effect Runs

/-- Where a storlet is brought: the file of the container is in the storlet's directory, and not on
the way to the cache. -/
structure StorletHome where
  paths : RunTimePaths
  cwd : Location
  name : Text
  main : Text
  below : resolve cwd (paths.getHostStorletDir main) <+:
    resolve cwd (join (paths.getHostStorletDir main) name)
  differs : resolve cwd (paths.getHostStorletDir main) ≠
    resolve cwd (join (paths.getHostStorletDir main) name)
  cacheDir : ¬ resolve cwd (join (paths.getHostStorletDir main) name) <+:
    resolve cwd paths.hostStorletCacheDir
  apart : ¬ resolve cwd (join (paths.getHostStorletDir main) name) <+:
    resolve cwd (join paths.hostStorletCacheDir name)

structure StorletVersion where
  content : Bytes
  timestamp : ℚ

structure UpdateState where
  version : Option StorletVersion := none
  host : Host

inductive UpdateEvent where
  | upload (version : StorletVersion)
  | bring (env : Surroundings) (sreq : ContainerStorletRequest)

namespace StorletHome

variable (home : StorletHome)

def cache : Location := resolve home.cwd (join home.paths.hostStorletCacheDir home.name)

def target : Location := resolve home.cwd (join (home.paths.getHostStorletDir home.main) home.name)

def bring (env : Surroundings) (sreq : ContainerStorletRequest) : HostAction Bool :=
  bringFromCache home.paths env sreq sreq.storletId true

def step (state : UpdateState) : UpdateEvent → UpdateState
  | .upload version => { state with version := some version }
  | .bring env sreq => { state with host := (home.bring env sreq state.host).2 }

/-- A call that completes, for this version of the storlet. -/
structure Carries (state : UpdateState) (env : Surroundings) (sreq : ContainerStorletRequest)
    (version : StorletVersion) : Prop where
  cwd : env.cwd = home.cwd
  name : sreq.storletId = home.name
  main : sreq.storletMain = home.main
  length : storletSize sreq = .ok (version.content.length : Int)
  timestamp : storletTime sreq = .ok (.finite version.timestamp)
  content : (env.getStorlet home.name).1.flatten = version.content
  -- `get_storlet` has no permissions
  unpermitted : (env.getStorlet home.name).2 = none
  clock : version.timestamp ≤ env.now
  completes : ∃ updated, (home.bring env sreq state.host).1 = .ok updated

/-- Timestamps rise, and calls carry the newest one. -/
def Fits (state : UpdateState) : UpdateEvent → Prop
  | .upload version => ∀ old, state.version = some old → old.timestamp < version.timestamp
  | .bring env sreq => ∃ version, state.version = some version ∧ home.Carries state env sreq version

/-- The container has the newest version after the call, which says so if it has changed it. -/
def Updates (state : UpdateState) : UpdateEvent → Prop
  | .upload _ => True
  | .bring env sreq => ∀ version, state.version = some version →
      ((home.bring env sreq state.host).2.files.get? home.target).map File.content =
          some version.content ∧
        ((home.bring env sreq state.host).2.files.get? home.target ≠
            state.host.files.get? home.target →
          (home.bring env sreq state.host).1 = .ok true)

/-- The container has nothing, the newest version already or something of another size. -/
def SizeTells (state : UpdateState) : UpdateEvent → Prop
  | .upload _ => True
  | .bring _ _ => ∀ version, state.version = some version →
      ∀ file, state.host.files.get? home.target = some file →
        file.content = version.content ∨ file.content.length ≠ version.content.length

/-- The container has what the cache has, from then or from before. -/
def Twins (contents : Contents) : Prop :=
  (contents home.cache = none ∧ contents home.target = none) ∨
    ∃ cached container, contents home.cache = some cached ∧
      contents home.target = some container ∧ container.content = cached.content ∧
        container.mtime ≤ cached.mtime

structure Kept (host : Host) : Prop where
  flat : host.isDirectory home.target = false
  twins : home.Twins host.files.get?

/-- What a call makes of the files. -/
def after (contents : Contents) (version : StorletVersion) (now : ℚ) : Bool × Contents :=
  brought contents home.cache home.target
    (cacheNeeds (contents home.cache) true version.content.length (.finite version.timestamp))
    ⟨version.content, now, 0o600⟩

end StorletHome

section Updated

variable {home : StorletHome} {contents : Contents} {version : StorletVersion} {now : ℚ}

theorem cache_ne_target (home : StorletHome) : home.cache ≠ home.target := by
  intro same
  apply home.apart
  change home.target <+: home.cache
  rw [same]

/-- The container has what the cache had, or what has been fetched. -/
theorem after_target (home : StorletHome) (contents : Contents) (version : StorletVersion)
    (now : ℚ) :
    let needs := cacheNeeds (contents home.cache) true version.content.length
      (.finite version.timestamp)
    let cached := if needs then some ⟨version.content, now, 0o600⟩ else contents home.cache
    (home.after contents version now).2 home.cache = cached ∧
      (home.after contents version now).2 home.target =
        (if containerNeeds cached (contents home.target) then cached else contents home.target) ∧
      ((home.after contents version now).2 home.target ≠ contents home.target →
        (home.after contents version now).1 = true) := by
  have apart := cache_ne_target home
  intro needs cached
  have cache : (home.after contents version now).2 home.cache = cached :=
    brought_cache needs _ apart
  have answer : (home.after contents version now).1 =
      containerNeeds cached (contents home.target) := brought_fst needs _ apart
  have target : (home.after contents version now).2 home.target =
      if (home.after contents version now).1 then cached else contents home.target :=
    brought_target needs _ apart
  refine ⟨cache, ?_, ?_⟩
  · rw [answer] at target
    exact target
  · intro changed
    by_contra kept
    exact changed (target.trans (if_neg kept))

/-- The container's file is replaced where there is none or its size tells. -/
theorem after_twins (twins : home.Twins contents) (clock : version.timestamp ≤ now) :
    (((home.after contents version now).2 home.target).map File.content = some version.content ↔
      ∀ file, contents home.target = some file →
        file.content = version.content ∨ file.content.length ≠ version.content.length) ∧
    (((home.after contents version now).2 home.target).map File.content = some version.content →
      home.Twins (home.after contents version now).2) := by
  obtain ⟨cache, target, -⟩ := after_target home contents version now
  unfold StorletHome.Twins
  rw [cache, target]
  rcases twins with ⟨noCache, noTarget⟩ | ⟨cached, container, hasCache, hasTarget, same, older⟩
  · -- the first version is fetched and copied
    simp [noCache, noTarget, cacheNeeds, containerNeeds]
  · have only : (∀ file, some container = some file →
        file.content = version.content ∨ file.content.length ≠ version.content.length) ↔
        cached.content = version.content ∨
          cached.content.length ≠ version.content.length := by
      rw [← same]
      exact ⟨fun every => every container rfl, fun one file is => Option.some.inj is ▸ one⟩
    rw [hasCache, hasTarget, only]
    by_cases sized : cached.content.length = version.content.length
    · -- what the cache has then is not older than the container's file, and of the same size
      have held : ∃ held, (if cacheNeeds (some cached) true version.content.length
            (.finite version.timestamp) then some ⟨version.content, now, 0o600⟩
            else some cached) = some held ∧
          container.mtime ≤ held.mtime ∧ held.content.length = version.content.length ∧
          (cached.content = version.content → held.content = version.content) := by
        by_cases old : cached.mtime < version.timestamp
        · have fetched : cacheNeeds (some cached) true version.content.length
              (.finite version.timestamp) = true := by
            simp [cacheNeeds, Float.above, old]
          rw [if_pos fetched]
          exact ⟨_, rfl, older.trans (old.le.trans clock), rfl, fun _ => rfl⟩
        · have current : cacheNeeds (some cached) true version.content.length
              (.finite version.timestamp) = false := by
            simp [cacheNeeds, Float.above, old, sized]
          rw [current, if_neg Bool.false_ne_true]
          exact ⟨cached, rfl, older, sized, id⟩
      obtain ⟨held, is, newer, length, content⟩ := held
      have kept : containerNeeds (some held) (some container) = false := by
        simp [containerNeeds, same, length, sized, newer]
      rw [is, kept, if_neg Bool.false_ne_true]
      refine ⟨by simp [same, sized], fun whole => .inr ⟨held, container, rfl, rfl, ?_, newer⟩⟩
      have newest : container.content = version.content := Option.some.inj whole
      rw [newest, content (same.symm.trans newest)]
    · have fetched : cacheNeeds (some cached) true version.content.length
          (.finite version.timestamp) = true := by
        simp [cacheNeeds, sized]
      have copied : containerNeeds (some ⟨version.content, now, 0o600⟩) (some container) = true := by
        simp [containerNeeds, same, Ne.symm sized]
      simp [fetched, copied, sized]

end Updated

section Brought

variable {home : StorletHome} {state : UpdateState} {env : Surroundings}
  {sreq : ContainerStorletRequest} {version : StorletVersion}

theorem StorletHome.Carries.named (carries : home.Carries state env sreq version) :
    namesFile sreq.storletId = true := by
  by_contra odd
  obtain ⟨updated, completes⟩ := carries.completes
  have raises := unnamed_raises env sreq (Bool.eq_false_iff.mpr odd)
    (Keeps.any (ensureDirectory env (home.paths.cacheDir true))) (fun _ _ => trivial)
    (fun _ _ => trivial) state.host trivial
  unfold StorletHome.bring at completes
  rcases called : bringFromCache home.paths env sreq sreq.storletId true state.host
    with ⟨result, final⟩
  rw [called] at raises completes
  dsimp only at completes
  rw [completes] at raises
  exact raises

theorem StorletHome.Carries.container (carries : home.Carries state env sreq version) :
    containerPlace home.paths env.cwd sreq sreq.storletId = home.target := by
  rw [containerPlace, carries.cwd, carries.main, carries.name]
  rfl

theorem StorletHome.Carries.cached (carries : home.Carries state env sreq version) :
    cachePlace home.paths env.cwd (sreq.storletId, true) = home.cache := by
  rw [cachePlace, carries.cwd, carries.name]
  rfl

theorem StorletHome.Carries.placed (carries : home.Carries state env sreq version) :
    Placed home.paths env.cwd sreq (· = home.target) (sreq.storletId, true) := by
  have dir : storletPlace home.paths env.cwd sreq =
      resolve home.cwd (home.paths.getHostStorletDir home.main) := by
    rw [storletPlace, carries.cwd, carries.main]
  have apart := cache_ne_target home
  constructor
  · rw [carries.container, dir]
    exact home.below
  · rw [carries.container, dir]
    exact home.differs
  · exact carries.container
  · rw [carries.container, carries.cached]
    exact apart
  · rintro other rfl
    rw [carries.cwd]
    exact home.cacheDir
  · rintro other rfl above
    rw [dir] at above
    exact home.differs (home.below.eq_of_length (home.below.length_le.antisymm above.length_le))
  · rintro other rfl above
    rw [carries.cached] at above
    exact absurd above home.apart
  · rintro other rfl _
    exact carries.container.symm

theorem bring_spec (kept : home.Kept state.host)
    (carries : home.Carries state env sreq version) :
    (home.bring env sreq state.host).1 =
        .ok (home.after state.host.files.get? version env.now).1 ∧
      (home.bring env sreq state.host).2.Sees (· = home.target)
        (home.after state.host.files.get? version env.now).2 := by
  have given : answer env sreq.storletId true = env.getStorlet home.name := by
    rw [answer, if_pos rfl, carries.name]
  have permission : cachePermission (answer env sreq.storletId true).2 = .ok 0o600 := by
    rw [given, carries.unpermitted]
    rfl
  have sees : state.host.Sees (· = home.target) state.host.files.get? := by
    refine ⟨fun _ => rfl, ?_⟩
    rintro place rfl
    exact kept.flat
  have meets := @bringFromCache_sees (· = home.target) state.host.files.get? (fun _ => True) env sreq
    home.paths (sreq.storletId, true) version.content.length (.finite version.timestamp) 0o600
    carries.placed carries.named permission (fun _ => ⟨carries.length, carries.timestamp⟩)
    (fun _ _ _ => .inr fun _ _ => trivial) (fun _ _ => trivial)
    (fun _ => .inr fun _ _ => trivial)
  have shown := meets state.host sees
  obtain ⟨updated, completes⟩ := carries.completes
  rcases called : home.bring env sreq state.host with ⟨result, final⟩
  have same : bringFromCache home.paths env sreq sreq.storletId true state.host =
      (result, final) := called
  rw [called] at completes
  dsimp only at completes shown ⊢
  rw [same, completes] at shown
  obtain ⟨answered, sees⟩ := shown
  rw [carries.container, carries.cached, given, carries.content] at answered sees
  rw [completes, answered]
  exact ⟨rfl, sees⟩

theorem updates_iff (kept : home.Kept state.host) {event : UpdateEvent}
    (fits : home.Fits state event) : home.Updates state event ↔ home.SizeTells state event := by
  cases event with
  | upload version => exact Iff.rfl
  | bring env sreq =>
    obtain ⟨version, newest, carries⟩ := fits
    obtain ⟨returned, sees⟩ := bring_spec kept carries
    obtain ⟨-, -, tells⟩ := after_target home state.host.files.get? version env.now
    have replaced := (after_twins kept.twins carries.clock).1
    dsimp only [StorletHome.Updates, StorletHome.SizeTells]
    rw [newest, returned, sees.files]
    constructor
    · intro updates other same
      obtain rfl := Option.some.inj same
      exact replaced.mp (updates _ rfl).1
    · intro sized other same
      obtain rfl := Option.some.inj same
      exact ⟨replaced.mpr (sized _ rfl), fun changed => congrArg _ (tells changed)⟩

theorem kept_step (kept : home.Kept state.host) {event : UpdateEvent}
    (fits : home.Fits state event) (updates : home.Updates state event) :
    home.Kept (home.step state event).host := by
  cases event with
  | upload version => exact kept
  | bring env sreq =>
    obtain ⟨version, newest, carries⟩ := fits
    obtain ⟨-, sees⟩ := bring_spec kept carries
    have whole := (updates version newest).1
    rw [sees.files] at whole
    have twins := (after_twins kept.twins carries.clock).2 whole
    have files : (home.bring env sreq state.host).2.files.get? =
        (home.after state.host.files.get? version env.now).2 := funext sees.files
    exact ⟨sees.flat _ rfl, files ▸ twins⟩

end Brought

/-- Where neither the cache nor the container has a file yet, all calls of a history bring the
newest version exactly when its size always tells it from what the container has. -/
theorem updates_reach_iff (home : StorletHome) (host : Host)
    (flat : host.isDirectory home.target = false)
    (uncached : host.files.get? home.cache = none) (absent : host.files.get? home.target = none)
    {events : List UpdateEvent} (fits : Along home.step home.Fits { host } events) :
    Along home.step home.Updates { host } events ↔
      Along home.step home.SizeTells { host } events := by
  have initial : home.Kept host := ⟨flat, .inl ⟨uncached, absent⟩⟩
  have keeps (state : UpdateState) (event : UpdateEvent) (kept : home.Kept state.host)
      (fits : home.Fits state event) (sized : home.SizeTells state event) :
      home.Kept (home.step state event).host :=
    kept_step kept fits ((updates_iff kept fits).mpr sized)
  exact along_iff_of keeps (fun _ _ kept fits => updates_iff kept fits) initial fits

def jarHome : StorletHome where
  paths := RunTimePaths.init "AUTH_test" .empty
  cwd := []
  name := "job-1.0.jar"
  main := "org.Main"
  below := by decide
  differs := by decide
  cacheDir := by decide
  apart := by decide

/-- The headers of a version, as the request has them. -/
def versionRequest (contentLength timestamp : Text) : ContainerStorletRequest where
  storletId := "job-1.0.jar"
  params := .empty
  data := ⟨.empty, .fd []⟩
  options :=
    { storlet := PyDict.ofList [("storlet_content_length".toList, contentLength),
        ("storlet_x_timestamp".toList, timestamp)]
      scope := "AUTH_test"
      generateLog := false }
  generateLog := false
  storletMain := "org.Main"
  storletLanguage := "Java"
  storletLanguageVersion := none
  dependencies := []
  start := none
  «end» := none

def servingVersion (content : Bytes) (now : ℚ) : Surroundings where
  cwd := []
  now
  fails := fun _ _ => false
  getStorlet := fun _ => ([content], none)
  getDependency := fun _ => ([], none)

def emptyHost : Host := { files := .empty, directories := [] }

def uploaded (content : Bytes) (contentLength timestamp : Text) (time : ℚ) : List UpdateEvent :=
  [.upload ⟨content, time⟩,
    .bring (servingVersion content time) (versionRequest contentLength timestamp)]

theorem uploaded_carries {state : UpdateState} {content : Bytes} {contentLength timestamp : Text}
    {time : ℚ}
    (length : storletSize (versionRequest contentLength timestamp) = .ok (content.length : Int))
    (stamp : storletTime (versionRequest contentLength timestamp) = .ok (.finite time))
    (completes : (jarHome.bring (servingVersion content time)
      (versionRequest contentLength timestamp) state.host).1.toBool = true) :
    jarHome.Carries state (servingVersion content time) (versionRequest contentLength timestamp)
      ⟨content, time⟩ := by
  refine ⟨rfl, rfl, rfl, length, stamp, List.append_nil _, rfl, le_rfl, ?_⟩
  generalize (jarHome.bring _ _ state.host).1 = result at completes
  cases result with
  | ok updated => exact ⟨updated, rfl⟩
  | error exception => cases completes

theorem whole_seconds (contentLength : Text) {timestamp : Text} {seconds : Nat}
    (parsed : float timestamp = some (.finite (scale seconds 0))) :
    storletTime (versionRequest contentLength timestamp) = .ok (.finite seconds) := by
  have value : scale seconds 0 = seconds := by simp [scale]
  have header : (versionRequest contentLength timestamp).options.storlet.get?
      "storlet_x_timestamp" = some timestamp := rfl
  unfold storletTime
  rw [header]
  dsimp only
  rw [parsed, value]

/-- The second version is larger, and reaches the container. -/
theorem larger_version_reaches : Along jarHome.step jarHome.Updates { host := emptyHost }
    (uploaded [1] "1" "1" 1 ++ uploaded [1, 2] "2" "2" 2) := by
  have fits : Along jarHome.step jarHome.Fits { host := emptyHost }
      (uploaded [1] "1" "1" 1 ++ uploaded [1, 2] "2" "2" 2) := by
    refine ⟨?_,
      ⟨_, rfl, uploaded_carries rfl (whole_seconds _ rfl) rfl⟩, ?_,
      ⟨_, rfl, uploaded_carries rfl (whole_seconds _ rfl) (by decide +kernel)⟩, trivial⟩
    · intro old none
      cases none
    · intro old same
      obtain rfl := Option.some.inj same
      decide
  apply (updates_reach_iff jarHome emptyHost rfl rfl rfl fits).mpr
  refine ⟨trivial, ?_, trivial, ?_, trivial⟩
  · intro version newest file there
    cases there
  · intro version newest file there
    obtain rfl := Option.some.inj newest
    have first : file.content = [1] := by
      have held : (jarHome.bring (servingVersion [1] 1) (versionRequest "1" "1")
          emptyHost).2.files.get? jarHome.target = some ⟨[1], 1, 0o600⟩ := by decide +kernel
      have same := there.symm.trans held
      rw [Option.some.inj same]
    exact .inr (by rw [first]; decide)

/-- A second version of the same size is fetched to the cache, and never reaches the container. -/
theorem same_size_never_reaches : Along jarHome.step jarHome.Fits { host := emptyHost }
      (uploaded [1] "1" "1" 1 ++ uploaded [2] "1" "2" 2) ∧
    ¬ Along jarHome.step jarHome.Updates { host := emptyHost }
      (uploaded [1] "1" "1" 1 ++ uploaded [2] "1" "2" 2) := by
  constructor
  · refine ⟨?_,
      ⟨_, rfl, uploaded_carries rfl (whole_seconds _ rfl) rfl⟩, ?_,
      ⟨_, rfl, uploaded_carries rfl (whole_seconds _ rfl) (by decide +kernel)⟩, trivial⟩
    · intro old none
      cases none
    · intro old same
      obtain rfl := Option.some.inj same
      decide
  · intro updates
    have last := (updates.2.2.2.1 _ rfl).1
    revert last
    decide +kernel

end Storlets
