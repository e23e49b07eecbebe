import Storlets.Gateway.Isolation
import Storlets.Library.Runs

set_option autoImplicit false

/-!
# The sandboxes of a node

A restart tries the tenant's image and then the default one. Each attempt stops the container of
its own name only.
-/

namespace Storlets

open PyStr Runs

structure Container where
  name : Text
  /-- How many were started before it. -/
  number : Nat
  deriving DecidableEq

/-- The running containers that are labelled `managed_by=storlets`. -/
structure Node where
  running : List Container := []
  started : Nat := 0

inductive CallEnd where
  | ok
  | notFound
  | apiError
  deriving DecidableEq

inductive RunEnd where
  | ok
  | imageNotFound
  | apiError
  deriving DecidableEq

/-- What the container runtime answers to the calls of one `_restart`. -/
structure RuntimeAnswers where
  get : CallEnd := .ok
  stop : CallEnd := .ok
  /-- Whether a `stop` that fails has stopped the container, or found it stopped. -/
  gone : Bool := false
  list : CallEnd := .ok
  run : RunEnd := .ok

inductive Runtime where
  | docker
  | podman

def Runtime.error : Runtime → Text
  | docker => "Docker runtime error"
  | podman => "Podman runtime error"

namespace Node

def has (name : Text) (node : Node) : Bool := node.running.any fun container => container.name = name

def remove (name : Text) (node : Node) : Node :=
  { node with running := node.running.filter fun container => container.name ≠ name }

/-- Stop the existing storlet container. -/
def stopOld (runtime : Runtime) (name : Text) (answers : RuntimeAnswers) (node : Node) :
    Except Text Unit × Node :=
  match answers.get with
  | .apiError => (.error runtime.error, node)
  | .notFound => (.ok (), node)
  | .ok =>
      if node.has name then
        match answers.stop with
        | .ok => (.ok (), node.remove name)
        | _ => (.error runtime.error, if answers.gone then node.remove name else node)
      else (.ok (), node)

/-- Check whether a new container can be started. -/
def checkLimit (runtime : Runtime) (maxContainers : Int) (answers : RuntimeAnswers)
    (node : Node) : Except Text Unit :=
  if 0 < maxContainers then
    if answers.list ≠ .ok then .error runtime.error
    else if maxContainers ≤ node.running.length then
      .error "Cannot start a container because of limit".toList
    else .ok ()
  else .ok ()

/-- Start the new one; a name cannot be taken twice. -/
def runNew (runtime : Runtime) (image name : Text) (answers : RuntimeAnswers) (node : Node) :
    Except Text Container × Node :=
  match answers.run with
  | .imageNotFound => (.error ("Image ".toList ++ image ++ " is not found".toList), node)
  | .apiError => (.error runtime.error, node)
  | .ok =>
      if node.has name then (.error runtime.error, node)
      else
        (.ok ⟨name, node.started⟩,
          ⟨node.running ++ [⟨name, node.started⟩], node.started + 1⟩)

/-- `_restart`. -/
def restartImage (runtime : Runtime) (maxContainers : Int) (image name : Text)
    (answers : RuntimeAnswers) (node : Node) : Except Text Container × Node :=
  match node.stopOld runtime name answers with
  | (.error message, node) => (.error message, node)
  | (.ok (), node) =>
      match node.checkLimit runtime maxContainers answers with
      | .error message => (.error message, node)
      | .ok () => node.runNew runtime image name answers

end Node

/-- The answers to a restart, and whether each sandbox answers a ping in time. -/
structure RestartAnswers where
  tenant : RuntimeAnswers := {}
  tenantReady : Bool := true
  fallback : RuntimeAnswers := {}
  fallbackReady : Bool := true

inductive RestartError where
  | timeout
  | runtime (message : Text)

section Restart

variable (runtime : Runtime) (conf : Dict Text) (maxContainers : Int) (scope : Text)

def tenantName : Text := getContainerName conf scope scope

def fallbackName : Text := getContainerName conf scope (defaultContainerImageName conf)

def restart (answers : RestartAnswers) (node : Node) : Except RestartError Container × Node :=
  match node.restartImage runtime maxContainers scope (tenantName conf scope) answers.tenant with
  | (.ok container, node) =>
      (if answers.tenantReady then .ok container else .error .timeout, node)
  | (.error _, node) =>
      match node.restartImage runtime maxContainers (defaultContainerImageName conf)
        (fallbackName conf scope) answers.fallback with
      | (.ok container, node) =>
          (if answers.fallbackReady then .ok container else .error .timeout, node)
      | (.error message, node) => (.error (.runtime message), node)

inductive NodeEvent where
  | restart (answers : RestartAnswers)
  /-- Containers stop, and those of other scopes come up. -/
  | change (stays : Container → Bool) (others : List Container)

def nodeStep (node : Node) : NodeEvent → Node
  | .restart answers => (restart runtime conf maxContainers scope answers node).2
  | .change stays others =>
      { node with running := node.running.filter stays ++
          others.filter fun container => container.name ∉ containerNames conf scope }

def scopeContainers (node : Node) : List Container :=
  node.running.filter fun container => container.name ∈ containerNames conf scope

/-- A restart that returns leaves the scope the container it has started, and no other. -/
def OneContainer (node : Node) : NodeEvent → Prop
  | .restart answers => ∀ container,
      (restart runtime conf maxContainers scope answers node).1 = .ok container →
      scopeContainers conf scope (restart runtime conf maxContainers scope answers node).2 =
        [container]
  | .change _ _ => True

end Restart

section Conditions

variable (maxContainers : Int) (name : Text) (answers : RuntimeAnswers) (node : Node)

/-- An attempt can start its container. -/
structure Startable : Prop where
  found : answers.get ≠ .apiError
  stopped : node.has name → answers.get = .ok ∧ answers.stop = .ok
  room : 0 < maxContainers →
    answers.list = .ok ∧ ((node.remove name).running.length : Int) < maxContainers
  runs : answers.run = .ok

/-- The attempt leaves no container of its name behind when it fails. -/
def Cleared : Prop :=
  node.has name = false ∨ answers.get = .ok ∧ (answers.stop = .ok ∨ answers.gone)

end Conditions

/-- When the tenant's image starts no default container is left over, and when the default image
does no container of the tenant's is. -/
def OtherCleared (conf : Dict Text) (maxContainers : Int) (scope : Text) (node : Node) :
    NodeEvent → Prop
  | .restart answers =>
      tenantName conf scope = fallbackName conf scope ∨
        (Startable maxContainers (tenantName conf scope) answers.tenant node →
          answers.tenantReady → node.has (fallbackName conf scope) = false) ∧
        (¬ Startable maxContainers (tenantName conf scope) answers.tenant node →
          -- the attempt at the tenant's image has left the node as it was
          Startable maxContainers (fallbackName conf scope) answers.fallback node →
          answers.fallbackReady → Cleared (tenantName conf scope) answers.tenant node)
  | .change _ _ => True

namespace Node

theorem remove_absent {name : Text} {node : Node} (absent : node.has name = false) :
    node.remove name = node := by
  have stays : node.running.filter (fun container => container.name ≠ name) = node.running := by
    rw [List.filter_eq_self]
    intro container inside
    have differs := List.any_eq_false.mp absent container inside
    simpa using differs
  rw [remove, stays]

theorem has_remove (name : Text) (node : Node) : (node.remove name).has name = false := by
  simp [has, remove]

theorem has_remove_other {name other : Text} (differs : other ≠ name) (node : Node) :
    (node.remove name).has other = node.has other := by
  unfold has remove
  rw [Bool.eq_iff_iff]
  simp only [List.any_eq_true, List.mem_filter, decide_eq_true_eq]
  constructor
  · intro ⟨container, ⟨inside, _⟩, same⟩
    exact ⟨container, inside, same⟩
  · intro ⟨container, inside, same⟩
    exact ⟨container, ⟨inside, same ▸ differs⟩, same⟩

/-- What stopping the old container comes to. -/
inductive StopOutcome (name : Text) (answers : RuntimeAnswers) (node : Node) :
    Except Text Unit × Node → Prop where
  | stops (cleared : Cleared name answers node) (found : answers.get ≠ .apiError)
      (stopped : node.has name → answers.get = .ok ∧ answers.stop = .ok) :
      StopOutcome name answers node (.ok (), node.remove name)
  -- the runtime does not find a container that runs
  | misses (remains : ¬ Cleared name answers node)
      (unstopped : ¬ (node.has name → answers.get = .ok ∧ answers.stop = .ok)) :
      StopOutcome name answers node (.ok (), node)
  | fails (message : Text) (after : Node)
      (unstopped : ¬ (answers.get ≠ .apiError ∧
        (node.has name → answers.get = .ok ∧ answers.stop = .ok)))
      (left : Cleared name answers node ∧ after = node.remove name ∨
        ¬ Cleared name answers node ∧ after = node) :
      StopOutcome name answers node (.error message, after)

theorem stopOld_outcome (runtime : Runtime) (name : Text) (answers : RuntimeAnswers)
    (node : Node) : StopOutcome name answers node (node.stopOld runtime name answers) := by
  unfold stopOld
  cases there : node.has name with
  | false =>
    have cleared : Cleared name answers node := .inl there
    have nothing : node.has name → answers.get = .ok ∧ answers.stop = .ok := by simp [there]
    have same := remove_absent there
    cases get : answers.get with
    | ok =>
      have ends := StopOutcome.stops cleared (by simp [get]) nothing
      rwa [same] at ends
    | notFound =>
      have ends := StopOutcome.stops cleared (by simp [get]) nothing
      rwa [same] at ends
    | apiError => exact .fails _ _ (fun both => both.1 get) (.inl ⟨cleared, same.symm⟩)
  | true =>
    cases get : answers.get with
    | ok =>
      dsimp only
      rw [if_pos rfl]
      cases stop : answers.stop with
      | ok => exact .stops (.inr ⟨get, .inl stop⟩) (by simp [get]) (fun _ => ⟨get, stop⟩)
      | notFound | apiError =>
        apply StopOutcome.fails
        · intro both
          have stopped := (both.2 there).2
          rw [stop] at stopped
          cases stopped
        · cases gone : answers.gone with
          | true => exact .inl ⟨.inr ⟨get, .inr gone⟩, rfl⟩
          | false => exact .inr ⟨by simp [Cleared, there, stop, gone], rfl⟩
    | notFound =>
      apply StopOutcome.misses
      · simp [Cleared, there, get]
      · simp [there, get]
    | apiError =>
      apply StopOutcome.fails
      · exact fun both => both.1 get
      · exact .inr ⟨by simp [Cleared, there, get], rfl⟩

theorem checkLimit_ok_iff (runtime : Runtime) (maxContainers : Int) (answers : RuntimeAnswers)
    (node : Node) : node.checkLimit runtime maxContainers answers = .ok () ↔
      (0 < maxContainers → answers.list = .ok ∧ (node.running.length : Int) < maxContainers) := by
  unfold checkLimit
  split
  · next limited =>
    simp only [limited, true_implies]
    split
    · next fails => simp [fails]
    · next lists =>
      rw [not_not] at lists
      split
      · next full => simp [lists, full]
      · next room => simpa [lists] using room
  · next unlimited => simp [unlimited]

/-- What an attempt does: it starts its container, or fails and has cleared its name or not. -/
theorem restartImage_cases (runtime : Runtime) (maxContainers : Int) (image name : Text)
    (answers : RuntimeAnswers) (node : Node) :
    (Startable maxContainers name answers node ∧
        node.restartImage runtime maxContainers image name answers =
          (.ok ⟨name, node.started⟩,
            ⟨(node.remove name).running ++ [⟨name, node.started⟩], node.started + 1⟩)) ∨
      (¬ Startable maxContainers name answers node ∧ ∃ message after,
        node.restartImage runtime maxContainers image name answers = (.error message, after) ∧
          ((Cleared name answers node ∧ after = node.remove name) ∨
            (¬ Cleared name answers node ∧ after = node))) := by
  have outcome := stopOld_outcome runtime name answers node
  unfold restartImage
  generalize ended : node.stopOld runtime name answers = stopped at outcome
  cases outcome with
  | stops cleared found stopped =>
    dsimp only
    cases checked : (node.remove name).checkLimit runtime maxContainers answers with
    | error message =>
      refine .inr ⟨?_, message, _, rfl, .inl ⟨cleared, rfl⟩⟩
      intro startable
      rw [(checkLimit_ok_iff _ _ _ _).mpr startable.room] at checked
      cases checked
    | ok =>
      have room := (checkLimit_ok_iff _ _ _ _).mp checked
      dsimp only
      unfold runNew
      cases run : answers.run with
      | ok =>
        dsimp only
        rw [has_remove, if_neg Bool.false_ne_true]
        exact .inl ⟨⟨found, stopped, room, run⟩, rfl⟩
      | imageNotFound | apiError =>
        refine .inr ⟨?_, _, _, rfl, .inl ⟨cleared, rfl⟩⟩
        intro startable
        rw [startable.runs] at run
        cases run
  | misses remains unstopped =>
    have there : node.has name = true := by
      by_contra absent
      exact unstopped fun present => absurd present absent
    have not : ¬ Startable maxContainers name answers node :=
      fun startable => unstopped startable.stopped
    refine .inr ⟨not, ?_⟩
    dsimp only
    cases checked : node.checkLimit runtime maxContainers answers with
    | error message => exact ⟨message, node, rfl, .inr ⟨remains, rfl⟩⟩
    | ok =>
      dsimp only
      unfold runNew
      cases run : answers.run with
      | ok =>
        dsimp only
        rw [there, if_pos rfl]
        exact ⟨_, node, rfl, .inr ⟨remains, rfl⟩⟩
      | imageNotFound | apiError => exact ⟨_, node, rfl, .inr ⟨remains, rfl⟩⟩
  | fails message after unstopped left =>
    refine .inr ⟨?_, message, after, rfl, left⟩
    exact fun startable => unstopped ⟨startable.found, startable.stopped⟩

end Node

section Scope

variable {runtime : Runtime} {conf : Dict Text} {maxContainers : Int} {scope : Text}

theorem mem_containerNames (name : Text) : name ∈ containerNames conf scope ↔
    name = tenantName conf scope ∨ name = fallbackName conf scope := by
  simp [containerNames, tenantName, fallbackName]

/-- The containers of a scope that has just started one of them. -/
theorem scopeContainers_started {node : Node} {name other : Text} {number started : Nat}
    (names : ∀ candidate, candidate ∈ containerNames conf scope ↔
      candidate = name ∨ candidate = other) :
    scopeContainers conf scope ⟨(node.remove name).running ++ [⟨name, number⟩], started⟩ =
        [⟨name, number⟩] ↔ name = other ∨ node.has other = false := by
  have last : [(⟨name, number⟩ : Container)].filter
      (fun container => container.name ∈ containerNames conf scope) = [⟨name, number⟩] := by
    simp [names]
  unfold scopeContainers
  rw [List.filter_append, last, List.append_left_eq_self, List.filter_eq_nil_iff]
  by_cases same : name = other
  · simp [same, Node.remove, names]
  · rw [← Node.has_remove_other (Ne.symm same) node, Node.has, List.any_eq_false]
    have kept (container : Container) (inside : container ∈ (node.remove name).running) :
        container.name ≠ name := by
      simpa using (List.mem_filter.mp inside).2
    simp only [same, false_or]
    constructor
    · intro alone container inside
      have outside := alone container inside
      simp only [names, decide_eq_true_eq, not_or] at outside
      simpa using outside.2
    · intro alone container inside
      have differs := alone container inside
      simp only [names, decide_eq_true_eq, not_or]
      exact ⟨kept container inside, by simpa using differs⟩

theorem fallback_first (candidate : Text) : candidate ∈ containerNames conf scope ↔
    candidate = fallbackName conf scope ∨ candidate = tenantName conf scope :=
  (mem_containerNames candidate).trans or_comm

theorem oneContainer_iff (node : Node) (event : NodeEvent) :
    OneContainer runtime conf maxContainers scope node event ↔
      OtherCleared conf maxContainers scope node event := by
  cases event with
  | change stays others => exact Iff.rfl
  | restart answers =>
    unfold OneContainer OtherCleared restart
    dsimp only
    rcases node.restartImage_cases runtime maxContainers scope (tenantName conf scope)
      answers.tenant with ⟨startable, ends⟩ | ⟨unstartable, message, after, ends, left⟩
    · rw [ends]
      dsimp only
      simp only [startable, true_implies, not_true_eq_false, false_implies, and_true]
      cases answers.tenantReady with
      | false => simp
      | true => simp [scopeContainers_started mem_containerNames]
    · rw [ends]
      dsimp only
      simp only [unstartable, false_implies, true_and, not_false_eq_true, true_implies]
      rcases after.restartImage_cases runtime maxContainers (defaultContainerImageName conf)
        (fallbackName conf scope) answers.fallback with ⟨starts, started⟩ | ⟨fails, _, _, ends, _⟩
      · rw [started]
        dsimp only
        cases answers.fallbackReady with
        | false => simp
        | true =>
          simp only [if_pos, Except.ok.injEq, forall_eq', scopeContainers_started fallback_first]
          rw [eq_comm (a := fallbackName conf scope)]
          rcases left with ⟨cleared, same⟩ | ⟨remains, same⟩
          · have absent : after.has (tenantName conf scope) = false := by
              rw [same]
              exact Node.has_remove _ _
            simp [absent, cleared]
          · have there : after.has (tenantName conf scope) ≠ false := by
              rw [same]
              exact fun absent => remains (.inl absent)
            rw [same] at starts
            simp [there, remains, starts]
      · rw [ends]
        -- nothing returns, and the tenant's container is stopped or the node as it was
        rcases left with ⟨cleared, _⟩ | ⟨remains, same⟩
        · simp [cleared]
        · rw [same] at fails
          simp [fails]

end Scope

/-- Along every sequence of restarts of a scope, one that returns leaves exactly the container it
has started if and only if the container of the other image was not running or is stopped. -/
theorem one_sandbox_iff (runtime : Runtime) (conf : Dict Text) (maxContainers : Int)
    (scope : Text) (start : Node) (events : List NodeEvent) :
    Along (nodeStep runtime conf maxContainers scope)
        (OneContainer runtime conf maxContainers scope) start events ↔
      Along (nodeStep runtime conf maxContainers scope)
        (OtherCleared conf maxContainers scope) start events :=
  along_congr oneContainer_iff start events

/-- The tenant uploads an image after its first restart: both sandboxes run. -/
theorem late_image_two_sandboxes : ¬ ∀ (runtime : Runtime) (conf : Dict Text)
    (maxContainers : Int) (scope : Text) (events : List NodeEvent),
    Along (nodeStep runtime conf maxContainers scope)
      (OneContainer runtime conf maxContainers scope) {} events := by
  intro always
  have second := (always .docker .empty 0 "tenant"
    [.restart { tenant := { run := .imageNotFound } }, .restart {}]).2.1
  have two := second ⟨"tenant_tenant", 1⟩ rfl
  revert two
  decide

end Storlets
