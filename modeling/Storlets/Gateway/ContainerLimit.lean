import Storlets.Gateway.Containers

set_option autoImplicit false

/-!
# The limit of containers on a node

Restarts of several servers take turns. Each call to the container runtime is a step of its own.
-/

namespace Storlets

open PyStr Runs

inductive RestartPhase where
  | stopping (isTenant : Bool)
  | listing (isTenant : Bool)
  /-- The list has shown that many containers, when that many had been started on the node. -/
  | starting (isTenant : Bool) (listed started : Nat)
  | finished
  deriving DecidableEq

structure SharedNode (Call : Type) where
  node : Node
  phase : Call → RestartPhase

inductive LimitEvent (Call : Type) where
  | step (call : Call) (answers : RuntimeAnswers)
  /-- Containers stop. -/
  | vanish (stays : Container → Bool)

section Steps

variable {Call : Type} [DecidableEq Call] (runtime : Runtime) (conf : Dict Text)
variable (maxContainers : Int) (scopeOf : Call → Text)

def SharedNode.enter (state : SharedNode Call) (call : Call) (phase : RestartPhase) :
    SharedNode Call :=
  { state with phase := fun other => if other = call then phase else state.phase other }

/-- An attempt at the tenant's image that fails is followed by one at the default image. -/
def afterFailure (isTenant : Bool) : RestartPhase :=
  if isTenant then .stopping false else .finished

def imageOf (call : Call) (isTenant : Bool) : Text :=
  if isTenant then scopeOf call else defaultContainerImageName conf

def nameOf (call : Call) (isTenant : Bool) : Text :=
  getContainerName conf (scopeOf call) (imageOf conf scopeOf call isTenant)

/-- The next call of a restart to the container runtime. -/
def restartStep (state : SharedNode Call) (call : Call) (answers : RuntimeAnswers) :
    SharedNode Call :=
  match state.phase call with
  | .stopping isTenant =>
      match state.node.stopOld runtime (nameOf conf scopeOf call isTenant) answers with
      | (.ok (), node) => { state.enter call (.listing isTenant) with node }
      | (.error _, node) => { state.enter call (afterFailure isTenant) with node }
  | .listing isTenant =>
      match state.node.checkLimit runtime maxContainers answers with
      | .ok () =>
          state.enter call (.starting isTenant state.node.running.length state.node.started)
      | .error _ => state.enter call (afterFailure isTenant)
  | .starting isTenant _ _ =>
      match state.node.runNew runtime (imageOf conf scopeOf call isTenant)
        (nameOf conf scopeOf call isTenant) answers with
      | (.ok _, node) => { state.enter call .finished with node }
      | (.error _, node) => { state.enter call (afterFailure isTenant) with node }
  | .finished => state

def limitStep (state : SharedNode Call) : LimitEvent Call → SharedNode Call
  | .step call answers => restartStep runtime conf maxContainers scopeOf state call answers
  | .vanish stays => { state with node.running := state.node.running.filter stays }

end Steps

section Limit

variable {Call : Type} (maxContainers : Int) (state : SharedNode Call)

def WithinLimit : Prop := (state.node.running.length : Int) ≤ maxContainers

/-- Nothing was started since the list of a restart that starts its container, or what was still
leaves room. -/
def RoomAtRun : LimitEvent Call → Prop
  | .step call answers => answers.run = .ok → ∀ isTenant listed started,
      state.phase call = .starting isTenant listed started →
      state.node.started = started ∨
        (listed + state.node.started : Int) < maxContainers + started
  | .vanish _ => True

/-- What runs now has been listed or was started since, and a list that was passed is not full. -/
structure ListsAccount : Prop where
  within : WithinLimit maxContainers state
  listed : ∀ call isTenant listed started, state.phase call = .starting isTenant listed started →
    state.node.running.length + started ≤ listed + state.node.started ∧
      (listed : Int) < maxContainers

end Limit

section Keeps

variable {Call : Type} [DecidableEq Call] {runtime : Runtime} {conf : Dict Text}
variable {maxContainers : Int} {scopeOf : Call → Text}

namespace ListsAccount

variable {state : SharedNode Call} (accounts : ListsAccount maxContainers state)

include accounts

omit [DecidableEq Call] in
theorem fewer {node : Node} (fewer : node.running.length ≤ state.node.running.length)
    (started : node.started = state.node.started) :
    ListsAccount maxContainers { state with node } := by
  have within : (state.node.running.length : Int) ≤ maxContainers := accounts.within
  constructor
  · change (node.running.length : Int) ≤ maxContainers
    omega
  · intro call isTenant listed number phase
    obtain ⟨account, room⟩ := accounts.listed call isTenant listed number phase
    refine ⟨?_, room⟩
    change node.running.length + number ≤ listed + node.started
    omega

omit [DecidableEq Call] in
/-- The container that is started is one more on both sides. -/
theorem started (container : Container)
    (room : (state.node.running.length : Int) < maxContainers) :
    ListsAccount maxContainers { state with
      node := ⟨state.node.running ++ [container], state.node.started + 1⟩ } := by
  constructor
  · change ((state.node.running ++ [container]).length : Int) ≤ maxContainers
    rw [List.length_append, List.length_singleton]
    omega
  · intro call isTenant listed number phase
    obtain ⟨account, room⟩ := accounts.listed call isTenant listed number phase
    refine ⟨?_, room⟩
    change (state.node.running ++ [container]).length + number ≤ listed + (state.node.started + 1)
    rw [List.length_append, List.length_singleton]
    omega

theorem enter (call : Call) (phase : RestartPhase)
    (lists : ∀ isTenant listed started, phase = .starting isTenant listed started →
      state.node.running.length + started ≤ listed + state.node.started ∧
        (listed : Int) < maxContainers) :
    ListsAccount maxContainers (state.enter call phase) := by
  constructor
  · exact accounts.within
  · intro other isTenant listed started entered
    change (if other = call then phase else state.phase other) = _ at entered
    split at entered
    · exact lists isTenant listed started entered
    · exact accounts.listed other isTenant listed started entered

theorem fails (call : Call) (isTenant : Bool) :
    ListsAccount maxContainers (state.enter call (afterFailure isTenant)) := by
  apply accounts.enter
  intro other listed started same
  cases isTenant <;> cases same

end ListsAccount

theorem remove_fewer (name : Text) (node : Node) :
    (node.remove name).running.length ≤ node.running.length ∧
      (node.remove name).started = node.started :=
  ⟨List.length_filter_le _ _, rfl⟩

theorem stopOld_fewer (runtime : Runtime) (name : Text) (answers : RuntimeAnswers) (node : Node) :
    (node.stopOld runtime name answers).2.running.length ≤ node.running.length ∧
      (node.stopOld runtime name answers).2.started = node.started := by
  have outcome := Node.stopOld_outcome runtime name answers node
  generalize node.stopOld runtime name answers = ended at outcome
  cases outcome with
  | stops _ _ _ => exact remove_fewer name node
  | misses _ _ => exact ⟨Nat.le_refl _, rfl⟩
  | fails message after _ left =>
    rcases left with ⟨_, same⟩ | ⟨_, same⟩
    · rw [same]
      exact remove_fewer name node
    · rw [same]
      exact ⟨Nat.le_refl _, rfl⟩

/-- A container is started, or the node stays as it is. -/
theorem runNew_cases (runtime : Runtime) (image name : Text) (answers : RuntimeAnswers)
    (node : Node) :
    (answers.run = .ok ∧ node.runNew runtime image name answers =
      (.ok ⟨name, node.started⟩, ⟨node.running ++ [⟨name, node.started⟩], node.started + 1⟩)) ∨
      ∃ message, node.runNew runtime image name answers = (.error message, node) := by
  unfold Node.runNew
  cases answers.run with
  | imageNotFound | apiError => exact .inr ⟨_, rfl⟩
  | ok =>
    dsimp only
    split
    · exact .inr ⟨_, rfl⟩
    · exact .inl ⟨rfl, rfl⟩

theorem listsAccount_step (positive : 0 < maxContainers) (state : SharedNode Call) (event : LimitEvent Call)
    (accounts : ListsAccount maxContainers state)
    (room : RoomAtRun maxContainers state event) :
    ListsAccount maxContainers (limitStep runtime conf maxContainers scopeOf state event) := by
  cases event with
  | vanish stays => exact accounts.fewer (List.length_filter_le _ _) rfl
  | step call answers =>
    change ListsAccount maxContainers
      (restartStep runtime conf maxContainers scopeOf state call answers)
    unfold restartStep
    cases phase : state.phase call with
    | finished => exact accounts
    | stopping isTenant =>
      obtain ⟨fewer, started⟩ := stopOld_fewer runtime (nameOf conf scopeOf call isTenant) answers
        state.node
      dsimp only
      split
      · next node stops =>
        rw [stops] at fewer started
        exact (accounts.fewer fewer started).enter call _
          (fun _ _ _ impossible => nomatch impossible)
      · next node fails =>
        rw [fails] at fewer started
        exact (accounts.fewer fewer started).fails call isTenant
    | listing isTenant =>
      dsimp only
      split
      · next checked =>
        have room := ((Node.checkLimit_ok_iff _ _ _ _).mp checked positive).2
        apply accounts.enter call
        rintro _ _ _ ⟨⟩
        -- nothing has been started since the list
        exact ⟨Nat.le_refl _, room⟩
      · exact accounts.fails call isTenant
    | starting isTenant listed started =>
      obtain ⟨account, passed⟩ := accounts.listed call isTenant listed started phase
      dsimp only
      rcases runNew_cases runtime (imageOf conf scopeOf call isTenant)
        (nameOf conf scopeOf call isTenant) answers state.node with ⟨ok, runs⟩ | ⟨message, fails⟩
      · rw [runs]
        have free := room ok isTenant listed started phase
        -- in both cases the list and what was started since it are fewer than the limit
        have started := accounts.started ⟨nameOf conf scopeOf call isTenant, state.node.started⟩
          (by omega)
        exact started.enter call _ (fun _ _ _ impossible => nomatch impossible)
      · rw [fails]
        exact accounts.fails call isTenant

end Keeps

/-- No restart has begun yet. -/
def SharedNode.before {Call : Type} (node : Node) : SharedNode Call :=
  ⟨node, fun _ => .stopping true⟩

/-- In every run of any number of restarts whose lists leave room at their runs, the limit holds
in every state. -/
theorem container_limit {Call : Type} [DecidableEq Call] (runtime : Runtime) (conf : Dict Text)
    (maxContainers : Int) (positive : 0 < maxContainers) (scopeOf : Call → Text) (node : Node)
    (within : (node.running.length : Int) ≤ maxContainers) (events : List (LimitEvent Call))
    (room : Along (limitStep runtime conf maxContainers scopeOf) (RoomAtRun maxContainers)
      (.before node) events) :
    WithinLimit maxContainers
      (after (limitStep runtime conf maxContainers scopeOf) (.before node) events) := by
  have initial : ListsAccount maxContainers ((.before node : SharedNode Call)) :=
    ⟨within, fun _ _ _ _ impossible => nomatch impossible⟩
  exact (room.invariant (listsAccount_step positive) initial).within

/-- Two restarts one after the other. -/
def inTurn : List (LimitEvent Bool) :=
  [.step false {}, .step false {}, .step false {}, .step true {}, .step true {}]

theorem one_container_in_turn : WithinLimit 1
    (after (limitStep .docker .empty 1 (fun second : Bool => if second then "b" else "a"))
      (.before {}) inTurn) :=
  container_limit .docker .empty 1 (by decide) _ {} (by decide) inTurn (by
    refine ⟨?_, ?_, ?_, ?_, ?_, trivial⟩ <;> rintro _ _ _ _ ⟨⟩
    exact .inl rfl)

/-- Both lists are made before either run. -/
theorem two_lists_two_containers : ¬ ∀ (runtime : Runtime) (conf : Dict Text)
    (maxContainers : Int), 0 < maxContainers → ∀ (scopeOf : Bool → Text) (node : Node),
    (node.running.length : Int) ≤ maxContainers → ∀ events : List (LimitEvent Bool),
    WithinLimit maxContainers
      (after (limitStep runtime conf maxContainers scopeOf) (.before node) events) := by
  intro always
  have two := always .docker .empty 1 (by decide) (fun second => if second then "b" else "a") {}
    (by decide) [.step false {}, .step true {}, .step false {}, .step true {}, .step false {},
      .step true {}]
  revert two
  unfold WithinLimit
  decide

end Storlets
