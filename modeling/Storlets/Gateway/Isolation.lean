import Storlets.Gateway.RunTimePaths

set_option autoImplicit false

/-!
# The scopes of two accounts

A scope names the directories and the sandbox of an account on the host.
-/

namespace Storlets

open PyStr PosixPath

/-- `StorletBaseHandler.scope`. -/
def scope (resellerPrefix account : Text) : Text :=
  let start := if startsWith account (resellerPrefix ++ ['_']) then resellerPrefix.length + 1 else 0
  let stop := min (start + 13) account.length
  (account.take stop).drop start

section Sandbox

variable (conf : Dict Text) (scope : Text)

def containerImageNamespace : Option Text :=
  match conf.get? "docker_repo" with
  | some repo => some repo
  | none => conf.get? "container_image_namespace"

def defaultContainerImageName : Text :=
  match conf.get? "default_docker_image_name" with
  | some name => name
  | none => (conf.get? "default_container_image_name").getD "storlet_engine_image"

/-- `_get_container_name`. -/
def getContainerName (containerImageName : Text) : Text :=
  match containerImageNamespace conf with
  | none | some [] => containerImageName ++ '_' :: scope
  | some front => front ++ '/' :: (containerImageName ++ '_' :: scope)

/-- What `restart` can call the sandbox: the tenant image has the name of the scope. -/
def containerNames : List Text :=
  [getContainerName conf scope scope,
    getContainerName conf scope (defaultContainerImageName conf)]

end Sandbox

/-- The directories a scope has on the host. -/
inductive HostDir where
  | pipe
  | storlet
  | storletCache
  | dependencyCache
  | log
  deriving DecidableEq

namespace HostDir

variable (paths : RunTimePaths)

def root : HostDir → Text
  | pipe => paths.hostPipeRootDir
  | storlet => paths.hostStorletRootDir
  | storletCache => paths.hostCacheRootDir
  | dependencyCache => paths.hostCacheRootDir
  | log => paths.hostLogRootDir

def path : HostDir → Text
  | pipe => paths.hostPipeDir
  | storlet => paths.hostStorletBaseDir
  | storletCache => paths.hostStorletCacheDir
  | dependencyCache => paths.hostDependencyCacheDir
  | log => join paths.hostLogRootDir paths.scope

end HostDir

/-- Neither is in the other. -/
def Unrelated (place other : Location) : Prop := ¬ place <+: other ∧ ¬ other <+: place

section Statements

variable (conf : Dict Text) (cwd : Location) (first second : Text)

def dirPlace (scope : Text) (dir : HostDir) : Location :=
  resolve cwd (dir.path (.init scope conf))

/-- The configured root, which no scope changes. -/
def rootPlace (dir : HostDir) : Location := resolve cwd (dir.root (.init [] conf))

/-- Two directories share a root, or their roots are apart. -/
def RootsFit (dir other : HostDir) : Prop :=
  rootPlace conf cwd dir = rootPlace conf cwd other ∨
    Unrelated (rootPlace conf cwd dir) (rootPlace conf cwd other)

structure ScopesIsolated : Prop where
  directories : ∀ dir other, RootsFit conf cwd dir other →
    Unrelated (dirPlace conf cwd first dir) (dirPlace conf cwd second other)
  containers : ∀ name ∈ containerNames conf first, name ∉ containerNames conf second

end Statements

/-- The account without the prefix of its reseller. -/
def bareAccount (resellerPrefix account : Text) : Text :=
  if startsWith account (resellerPrefix ++ ['_']) then account.drop (resellerPrefix.length + 1)
  else account

/-- Two different names of directories; no tenant image runs into the name of the default one. -/
structure ScopesApart (image first second : Text) : Prop where
  plain : Plain first
  plain' : Plain second
  differ : first ≠ second
  named : first ++ '_' :: first ≠ image ++ '_' :: second
  named' : second ++ '_' :: second ≠ image ++ '_' :: first

theorem scope_eq (resellerPrefix account : Text) :
    scope resellerPrefix account = (bareAccount resellerPrefix account).take 13 := by
  have cut (start : Nat) : (account.take (min (start + 13) account.length)).drop start =
      (account.drop start).take 13 := by
    rw [List.drop_take]
    apply List.ext_getElem?
    intro index
    rw [List.getElem?_take, List.getElem?_take, List.getElem?_drop]
    by_cases inside : start + index < account.length
    · have same : index < min (start + 13) account.length - start ↔ index < 13 := by omega
      simp only [same]
    · have nothing : account[start + index]? = none := List.getElem?_eq_none (by omega)
      simp [nothing]
  unfold scope bareAccount
  dsimp only
  rw [cut]
  split
  · rfl
  · rfl

theorem scope_segment {resellerPrefix account : Text} (segment : '/' ∉ account) :
    '/' ∉ scope resellerPrefix account := by
  rw [scope_eq]
  intro slash
  have inside := List.mem_of_mem_take slash
  unfold bareAccount at inside
  split at inside
  · exact segment (List.mem_of_mem_drop inside)
  · exact segment inside

section Places

variable {conf : Dict Text} {cwd : Location} {first second : Text}

variable (conf cwd) in
/-- The directory is the scope's in its root, or one below it. -/
theorem dirPlace_eq (dir : HostDir) {scope : Text} (plain : Plain scope) :
    ∃ below, dirPlace conf cwd scope dir = rootPlace conf cwd dir ++ scope :: below := by
  have storlet : Plain "storlet" := by decide
  have dependency : Plain "dependency" := by decide
  have one (front : Text) : resolve cwd (join front scope) = resolve cwd front ++ [scope] :=
    resolve_join_plain cwd front plain
  have two (front : Text) {name : Text} (named : Plain name) :
      resolve cwd (join (join front scope) name) = resolve cwd front ++ [scope, name] := by
    rw [resolve_join_plain cwd _ named, one, List.append_assoc]
    rfl
  cases dir with
  | pipe => exact ⟨[], one _⟩
  | storlet => exact ⟨[], one _⟩
  | storletCache => exact ⟨["storlet"], two _ storlet⟩
  | dependencyCache => exact ⟨["dependency"], two _ dependency⟩
  | log => exact ⟨[], one _⟩

theorem not_prefix_of_roots {root root' : Location} (below below' : Location)
    (fit : root = root' ∨ Unrelated root root') (differ : first ≠ second) :
    ¬ root ++ first :: below <+: root' ++ second :: below' := by
  intro inside
  rcases fit with same | apart
  · rw [same, List.prefix_append_right_inj, List.cons_prefix_cons] at inside
    exact differ inside.1
  · have left : root <+: root' ++ second :: below' := (List.prefix_append _ _).trans inside
    have right : root' <+: root' ++ second :: below' := List.prefix_append _ _
    rcases List.prefix_or_prefix_of_prefix left right with within | within
    · exact apart.1 within
    · exact apart.2 within

theorem rootsFit_symm {dir other : HostDir} (fit : RootsFit conf cwd dir other) :
    RootsFit conf cwd other dir := by
  rcases fit with same | ⟨one, two⟩
  · exact .inl same.symm
  · exact .inr ⟨two, one⟩

theorem directories_unrelated (plain : Plain first) (plain' : Plain second)
    (differ : first ≠ second) {dir other : HostDir} (fit : RootsFit conf cwd dir other) :
    Unrelated (dirPlace conf cwd first dir) (dirPlace conf cwd second other) := by
  obtain ⟨below, here⟩ := dirPlace_eq conf cwd dir plain
  obtain ⟨below', there⟩ := dirPlace_eq conf cwd other plain'
  rw [here, there]
  constructor
  · exact not_prefix_of_roots below below' fit differ
  · exact not_prefix_of_roots below' below (rootsFit_symm fit) differ.symm

/-- A scope that is no name of a directory leads to the root or out of it. -/
theorem pipe_place {scope : Text} (segment : '/' ∉ scope) :
    dirPlace conf cwd scope .pipe = enter (rootPlace conf cwd .pipe) scope :=
  resolve_join_segment cwd _ segment

theorem not_plain {name : Text} (segment : '/' ∉ name) (odd : ¬ Plain name) :
    name = [] ∨ name = ['.'] ∨ name = ['.', '.'] := by
  unfold Plain at odd
  tauto

/-- Such a directory is above that of every other scope, or below it. -/
theorem enter_comparable (root : Location) {first : Text} (second : Text) (segment : '/' ∉ first)
    (odd : ¬ Plain first) :
    ¬ Unrelated (enter root first) (enter root second) := by
  have shorter : root.dropLast <+: root := List.dropLast_prefix root
  have places : enter root second = root ∨ enter root second = root.dropLast ∨
      enter root second = root ++ [second] := by
    unfold enter
    split
    · exact .inl rfl
    · split
      · exact .inr (.inl rfl)
      · exact .inr (.inr rfl)
  have here : enter root first = root ∨ enter root first = root.dropLast := by
    rcases not_plain segment odd with rfl | rfl | rfl
    · exact .inl rfl
    · exact .inl rfl
    · exact .inr rfl
  intro ⟨within, around⟩
  rcases here with here | here <;> rcases places with there | there | there <;>
    rw [here, there] at within around
  · exact within List.prefix_rfl
  · exact around shorter
  · exact within (List.prefix_append _ _)
  · exact within shorter
  · exact within List.prefix_rfl
  · exact within (shorter.trans (List.prefix_append _ _))

theorem ScopesIsolated.plain (isolated : ScopesIsolated conf cwd first second) (segment : '/' ∉ first)
    (segment' : '/' ∉ second) : Plain first ∧ Plain second ∧ first ≠ second := by
  have pipes := isolated.directories .pipe .pipe (.inl rfl)
  rw [pipe_place segment, pipe_place segment'] at pipes
  refine ⟨?_, ?_, ?_⟩
  · by_contra odd
    exact enter_comparable _ second segment odd pipes
  · by_contra odd
    exact enter_comparable _ first segment' odd ⟨pipes.2, pipes.1⟩
  · intro same
    rw [same] at pipes
    exact pipes.1 List.prefix_rfl

theorem getContainerName_eq_iff (image image' : Text) :
    getContainerName conf first image = getContainerName conf second image' ↔
      image ++ '_' :: first = image' ++ '_' :: second := by
  unfold getContainerName
  split
  · rfl
  · rfl
  · rw [List.append_cancel_left_eq, List.cons.injEq, and_iff_right rfl]

/-- The names of two tenants' own images are as different as the tenants. -/
theorem tenant_names_eq_iff :
    first ++ '_' :: first = second ++ '_' :: second ↔ first = second := by
  constructor
  · intro same
    have lengths := congrArg List.length same
    simp only [List.length_append, List.length_cons] at lengths
    exact (List.append_inj same (by omega)).1
  · intro same
    rw [same]

theorem containers_apart_iff (differ : first ≠ second) :
    (∀ name ∈ containerNames conf first, name ∉ containerNames conf second) ↔
      first ++ '_' :: first ≠ defaultContainerImageName conf ++ '_' :: second ∧
        second ++ '_' :: second ≠ defaultContainerImageName conf ++ '_' :: first := by
  have own : ¬ first ++ '_' :: first = second ++ '_' :: second :=
    fun same => differ (tenant_names_eq_iff.mp same)
  have default : ¬ defaultContainerImageName conf ++ '_' :: first =
      defaultContainerImageName conf ++ '_' :: second := by
    intro same
    exact differ (List.cons.inj (List.append_cancel_left same)).2
  have first_apart (name : Text) (scope : Text) : name ∉ containerNames conf scope ↔
      name ≠ getContainerName conf scope scope ∧
        name ≠ getContainerName conf scope (defaultContainerImageName conf) := by
    simp [containerNames]
  rw [containerNames, List.forall_mem_cons, List.forall_mem_singleton, first_apart, first_apart]
  simp only [ne_eq, getContainerName_eq_iff, own, default, not_false_eq_true, true_and, and_true]
  exact and_congr Iff.rfl (not_congr eq_comm)

theorem scopes_isolated_iff (segment : '/' ∉ first) (segment' : '/' ∉ second) :
    ScopesIsolated conf cwd first second ↔
      ScopesApart (defaultContainerImageName conf) first second := by
  constructor
  · intro isolated
    obtain ⟨plain, plain', differ⟩ := isolated.plain segment segment'
    obtain ⟨named, named'⟩ := (containers_apart_iff differ).mp isolated.containers
    exact ⟨plain, plain', differ, named, named'⟩
  · intro apart
    constructor
    · exact fun dir other fit => directories_unrelated apart.plain apart.plain' apart.differ fit
    · exact (containers_apart_iff apart.differ).mpr ⟨apart.named, apart.named'⟩

end Places

/-- Two accounts are isolated exactly if the first 13 characters of their names are two names of
directories, and no tenant image runs into the name of the default image. -/
theorem accounts_isolated_iff (conf : Dict Text) (cwd : Location)
    (resellerPrefix account account' : Text) (segment : '/' ∉ account)
    (segment' : '/' ∉ account') :
    ScopesIsolated conf cwd (scope resellerPrefix account) (scope resellerPrefix account') ↔
      ScopesApart (defaultContainerImageName conf) ((bareAccount resellerPrefix account).take 13)
        ((bareAccount resellerPrefix account').take 13) := by
  rw [scopes_isolated_iff (scope_segment segment) (scope_segment segment'), scope_eq, scope_eq]

theorem short_accounts_isolated :
    ScopesIsolated .empty [] (scope "AUTH" "AUTH_alice") (scope "AUTH" "bob") ↔
      ScopesApart (defaultContainerImageName .empty) ((bareAccount "AUTH" "AUTH_alice").take 13)
        ((bareAccount "AUTH" "bob").take 13) :=
  accounts_isolated_iff .empty [] "AUTH" "AUTH_alice" "bob" (by decide) (by decide)

/-- Names that differ after the cut only share everything. -/
theorem long_accounts_share : ¬ ∀ (conf : Dict Text) (cwd : Location)
    (resellerPrefix account account' : Text), '/' ∉ account → '/' ∉ account' →
    account ≠ account' →
    ScopesIsolated conf cwd (scope resellerPrefix account) (scope resellerPrefix account') := by
  intro always
  have isolated := always .empty [] "AUTH" "AUTH_storlet_tenant_1" "AUTH_storlet_tenant_2"
    (by decide) (by decide) (by decide)
  have differ := (isolated.plain (by decide) (by decide)).2.2
  exact differ (by decide)

end Storlets
