import Storlets.Gateway.Confinement
import Storlets.Library.Fallible

set_option autoImplicit false

/-!
# The dependencies of a registered storlet

Registration takes the items of the parameter as they are, and an invocation trims them.
-/

namespace Storlets

open PyStr PosixPath Fallible

section Places

variable (paths : RunTimePaths) (cwd : Location) (sreq : ContainerStorletRequest)

/-- Where an object is copied to: its target or, where that is a directory, a file in it. -/
def copyPlaces (object : Text × Bool) : List Location :=
  let target := join (paths.getHostStorletDir sreq.storletMain) object.1
  [resolve cwd target, resolve cwd (join target (basename (join (paths.cacheDir object.2) object.1)))]

structure NoneOverwritten : Prop where
  distinct : sreq.dependencies.Nodup
  own : sreq.storletId ∉ sreq.dependencies
  places : ∀ object ∈ reached sreq, ∀ other ∈ reached sreq, object ≠ other →
    (copyPlaces paths cwd sreq object).Disjoint (copyPlaces paths cwd sreq other)

end Places

/-- An item that is trimmed, and not dropped, becomes neither the name nor another item. -/
def TrimmedApart (name dependency : Text) : Prop :=
  ∀ item ∈ split ',' dependency, strip item ≠ item → strip item ≠ [] →
    strip item ≠ name ∧ ∀ other ∈ split ',' dependency, other ≠ item → strip other ≠ strip item

/-- A name with a slash leads away from every other one. -/
def SlashedApart (paths : RunTimePaths) (cwd : Location) (sreq : ContainerStorletRequest) : Prop :=
  ∀ object ∈ reached sreq, '/' ∈ object.1 → ∀ other ∈ reached sreq, object ≠ other →
    (copyPlaces paths cwd sreq object).Disjoint (copyPlaces paths cwd sreq other)

/-! ## What registration has checked -/

theorem checked_dependencies (registration : Registration) {dependency : Text}
    (given : registration.params.get? "Dependency" = some dependency) (filled : dependency ≠ []) :
    (split ',' dependency).Nodup ∧ registration.name ∉ split ',' dependency := by
  obtain ⟨_, _, rest⟩ := bind_eq_ok registration.accepted
  have checked : checkDependencies registration.params registration.name = .ok () := by
    dsimp only at rest
    split at rest
    · exact (bind_eq_ok rest).choose_spec.2
    · split at rest
      · exact (bind_eq_ok rest).choose_spec.2
      · cases rest
  unfold checkDependencies at checked
  rw [given] at checked
  cases dependency with
  | nil => exact absurd rfl filled
  | cons first later =>
    dsimp only at checked
    split at checked
    · cases checked
    · next own =>
      split at checked
      · next distinct => exact ⟨distinct, own⟩
      · cases checked

/-- The names of parameters are titled, so only one is read as the dependencies. -/
theorem dependency_option {registration : Registration}
    (titled : ∀ key ∈ registration.params.keys, title key = key) (head : StorletHead)
    (scope : Text) : (registration.options head scope).storlet.get? "storlet_dependency" =
      registration.params.get? "Dependency" := by
  have only (key : Text) (inside : key ∈ registration.params.items.map Prod.fst) (_ : True) :
      "storlet_".toList ++ replace '-' '_' (lower key) = "storlet_dependency" ↔
        key = "Dependency" := by
    constructor
    · intro same
      have whole : "storlet_dependency".toList =
          "storlet_".toList ++ replace '-' '_' "dependency" := by decide
      rw [whole, List.append_cancel_left_eq] at same
      have clean : '_' ∉ lower key := by
        intro there
        have kept : '_' ∈ replace '-' '_' (lower key) := List.mem_map.mpr ⟨'_', there, rfl⟩
        rw [same] at kept
        revert kept
        decide
      have lowered := congrArg title (replace_inj clean (by decide) same)
      rw [title_lower, titled key inside] at lowered
      exact lowered.trans (by decide)
    · rintro rfl
      decide
  unfold Registration.options
  dsimp only
  rw [PyDict.get?_set, if_neg (by decide), PyDict.get?_set, if_neg (by decide)]
  have found := PyDict.get?_foldl_rename (fun _ : Text => True)
    (fun key => "storlet_".toList ++ replace '-' '_' (lower key)) "Dependency"
    "storlet_dependency" trivial registration.params.items only registration.params.distinct .empty
  rw [PyDict.get?_empty, Option.or_none] at found
  exact found

/-! ## The names -/

/-- Trimming a list of different items leaves them different exactly when the trimmed ones stay
apart. -/
theorem trimmed_iff {items : List Text} {name : Text} (distinct : items.Nodup)
    (own : name ∉ items) :
    (((items.map strip).filter (· ≠ [])).Nodup ∧ name ∉ (items.map strip).filter (· ≠ [])) ↔
      ∀ item ∈ items, strip item ≠ item → strip item ≠ [] →
        strip item ≠ name ∧ ∀ other ∈ items, other ≠ item → strip other ≠ strip item := by
  have mem (text : Text) : text ∈ (items.map strip).filter (· ≠ []) ↔
      ∃ item ∈ items, strip item = text ∧ text ≠ [] := by
    rw [List.mem_filter, List.mem_map]
    constructor
    · rintro ⟨⟨item, inside, same⟩, filled⟩
      exact ⟨item, inside, same, by simpa using filled⟩
    · rintro ⟨item, inside, same, filled⟩
      exact ⟨⟨item, inside, same⟩, by simpa using filled⟩
  have nodup : ((items.map strip).filter (· ≠ [])).Nodup ↔
      ∀ item ∈ items, strip item ≠ [] → ∀ other ∈ items, strip other = strip item →
        other = item := by
    rw [List.filter_map, List.nodup_map_iff_inj_on (distinct.filter _)]
    simp only [List.mem_filter, Function.comp_apply, decide_eq_true_eq]
    constructor
    · intro injective item inside filled other there same
      exact injective other ⟨there, same ▸ filled⟩ item ⟨inside, filled⟩ same
    · intro injective other there item here same
      exact injective item here.1 here.2 other there.1 same
  rw [nodup, mem]
  constructor
  · rintro ⟨injective, absent⟩ item inside _ filled
    refine ⟨fun same => absent ⟨item, inside, same, same ▸ filled⟩, ?_⟩
    intro other there differs same
    exact differs (injective item inside filled other there same)
  · intro apart
    constructor
    · intro item inside filled other there same
      by_contra differs
      -- whether either of the two items has blanks around it
      by_cases padded : strip item = item
      · by_cases padded' : strip other = other
        · exact differs (by rw [← padded', same, padded])
        · -- the other one is trimmed to this one
          exact (apart other there padded' (same ▸ filled)).2 item inside (Ne.symm differs)
            same.symm
      · exact (apart item inside padded filled).2 other there differs same
    · rintro ⟨item, inside, same, filled⟩
      by_cases padded : strip item = item
      · exact own (same ▸ padded.symm ▸ inside)
      · exact (apart item inside padded (same ▸ filled)).1 same

theorem names_iff (registration : Registration) :
    (splitDependencies (registration.params.get? "Dependency")).Nodup ∧
        registration.name ∉ splitDependencies (registration.params.get? "Dependency") ↔
      TrimmedApart registration.name ((registration.params.get? "Dependency").getD []) := by
  have blank : TrimmedApart registration.name [] := by
    intro item inside _ filled
    rw [List.mem_singleton.mp inside] at filled
    exact absurd rfl filled
  -- without the header, or with an empty one, there is no dependency
  cases given : registration.params.get? "Dependency" with
  | none => exact iff_of_true ⟨List.nodup_nil, List.not_mem_nil⟩ blank
  | some dependency =>
    by_cases filled : dependency = []
    · rw [filled]
      exact iff_of_true ⟨List.nodup_nil, List.not_mem_nil⟩ blank
    · obtain ⟨distinct, own⟩ := checked_dependencies registration given filled
      exact trimmed_iff distinct own

/-! ## The places -/

section Apart

variable {paths : RunTimePaths} {cwd : Location} {sreq : ContainerStorletRequest}

theorem mem_reached {object : Text × Bool} (inside : object ∈ reached sreq) :
    namesFile object.1 = true ∧
      (object = (sreq.storletId, true) ∨ ∃ dep ∈ sreq.dependencies, object = (dep, false)) := by
  have named := List.mem_takeWhile_imp inside
  have listed := (List.takeWhile_sublist _).subset inside
  refine ⟨named, (List.mem_cons.mp listed).imp_right ?_⟩
  intro later
  obtain ⟨dep, there, same⟩ := List.mem_map.mp later
  exact ⟨dep, there, same.symm⟩

/-- Different objects have different names, where the storlet is not its own dependency. -/
theorem names_differ (own : sreq.storletId ∉ sreq.dependencies) {object other : Text × Bool}
    (here : object ∈ reached sreq) (there : other ∈ reached sreq) (differs : object ≠ other) :
    object.1 ≠ other.1 := by
  intro same
  rcases (mem_reached here).2 with rfl | ⟨dep, listed, rfl⟩ <;>
    rcases (mem_reached there).2 with rfl | ⟨dep', listed', rfl⟩
  · exact differs rfl
  · have named : sreq.storletId = dep' := same
    exact own (named ▸ listed')
  · have named : dep = sreq.storletId := same
    exact own (named ▸ listed)
  · exact differs (Prod.ext same rfl)

theorem plain_of_reached {object : Text × Bool} (inside : object ∈ reached sreq)
    (segment : '/' ∉ object.1) : Plain object.1 := by
  have named := plain_basename (mem_reached inside).1
  have single : split '/' object.1 = [object.1] := List.splitOn_eq_singleton segment
  have same : basename object.1 = object.1 := by
    unfold basename
    rw [single]
    rfl
  rwa [same] at named

theorem basename_join_plain (front : Text) {name : Text} (plain : Plain name) :
    basename (join front name) = name := by
  have single : split '/' name = [name] := List.splitOn_eq_singleton plain.1
  have same : (split '/' (join front name)).getLast? = some name := by
    unfold join
    rw [plain.relative, if_neg Bool.false_ne_true]
    split
    · next ending =>
      rcases ending with rfl | slash
      · rw [List.nil_append, single]
        rfl
      · obtain ⟨start, rfl⟩ := eq_append_slash slash
        rw [List.append_assoc, List.singleton_append, split_getLast?_append, single]
        rfl
    · rw [split_getLast?_append, single]
      rfl
  unfold basename
  rw [same]
  rfl

theorem copyPlaces_plain {object : Text × Bool} (plain : Plain object.1) :
    copyPlaces paths cwd sreq object =
      [storletPlace paths cwd sreq ++ [object.1],
        storletPlace paths cwd sreq ++ [object.1] ++ [object.1]] := by
  unfold copyPlaces
  dsimp only
  rw [basename_join_plain _ plain, resolve_join_plain _ _ plain, resolve_join_plain _ _ plain,
    resolve_join_plain _ _ plain]
  rfl

/-- Names without a slash are files of the storlet's directory, or of a directory in it. -/
theorem plain_apart {object other : Text × Bool} (plain : Plain object.1) (plain' : Plain other.1)
    (differs : object.1 ≠ other.1) :
    (copyPlaces paths cwd sreq object).Disjoint (copyPlaces paths cwd sreq other) := by
  rw [copyPlaces_plain plain, copyPlaces_plain plain']
  generalize storletPlace paths cwd sreq = dir
  simp [differs.symm]

end Apart

theorem init_names {registration : Registration}
    (titled : ∀ key ∈ registration.params.keys, title key = key) {head : StorletHead}
    {params : Dict Text} {data : StorletData} {scope : Text} {sreq : ContainerStorletRequest}
    (built : ContainerStorletRequest.init registration.name params data
      (registration.options head scope) = .ok sreq) :
    sreq.storletId = registration.name ∧
      sreq.dependencies = splitDependencies (registration.params.get? "Dependency") := by
  rw [← dependency_option titled head scope]
  unfold ContainerStorletRequest.init at built
  split at built
  · cases built
  · cases built
  · obtain rfl := Except.ok.inj built
    exact ⟨rfl, rfl⟩

/-- A Java storlet with dependencies. -/
def jarParams (dependency : Text) : Dict Text :=
  PyDict.ofList [("Language".toList, "Java".toList), ("Interface-Version".toList, "1.0".toList),
    ("Object-Metadata".toList, "no".toList), ("Main".toList, "org.Main".toList),
    ("Dependency".toList, dependency)]

def paddedStorlet : Registration where
  params := jarParams "a.jar, job-1.0.jar"
  name := "job-1.0.jar"
  accepted := by decide

def apartStorlet : Registration where
  params := jarParams "a.jar, b.jar"
  name := "job-1.0.jar"
  accepted := by decide

/-- The request for a storlet under its name, with these dependencies. -/
def jarRequest (registration : Registration) (dependencies : List Text) :
    ContainerStorletRequest where
  storletId := "job-1.0.jar"
  params := .empty
  data := ⟨.empty, .fd []⟩
  options := registration.options cronHead "AUTH_test"
  generateLog := false
  storletMain := "org.Main"
  storletLanguage := "Java"
  storletLanguageVersion := none
  dependencies
  start := none
  «end» := none

end Storlets
