import Storlets.Agent.SDaemon
import Storlets.Library.Runs

set_option autoImplicit false

/-!
# The task table of the Java daemon

The main thread registers a task that the thread pool may be running already. Steps of the
threads interleave; each `synchronized` block is one step.
-/

namespace Storlets.Sbus

open PyStr Runs

/-- How `invoke` ends. -/
inductive InvokeEnd where
  | returns
  | storletException
  | runtimeException
  deriving DecidableEq

inductive PoolPhase where
  | waiting
  | invoking
  /-- `invoke` has returned. -/
  | cleaning
  /-- `taskId_` has been read for `cleanupTask`. -/
  | removing (taskId : Option Text)
  /-- The `finally` block. -/
  | closing
  | ended
  deriving DecidableEq

structure PoolTask where
  phase : PoolPhase := .waiting
  /-- The field `taskId_`. -/
  taskId : Option Text := none
  /-- Its future was cancelled. -/
  cancelled : Bool := false
  deriving DecidableEq

inductive MainPhase where
  | idle
  | submitted (task : Nat)
  | named (task : Nat) (taskId : Text)
  | registered (task : Nat) (taskId : Text)
  | looking (taskId : Text)
  /-- The task was found. -/
  | cancelling (taskId : Text)
  | dropping (taskId : Text)
  | responding
  | crashed
  deriving DecidableEq

structure JavaPool where
  taskIdToTask : Dict Nat := .empty
  submitted : Nat := 0
  task : Nat → PoolTask := fun _ => {}
  main : MainPhase := .idle

namespace PoolPhase

/-- `cleanupTask` has not been called. -/
def Early : PoolPhase → Prop
  | .waiting | .invoking | .cleaning => True
  | _ => False

/-- `cleanupTask` has not removed this id. -/
def MayRemove (taskId : Text) : PoolPhase → Prop
  | .waiting | .invoking | .cleaning => True
  | .removing own => own = some taskId
  | _ => False

end PoolPhase

inductive PoolLabel where
  /-- An `EXECUTE` command, and a `CANCEL` command. -/
  | execute
  | cancel (taskId : Text)
  | main (uuid : Text)
  | pool (task : Nat) (ending : InvokeEnd)

namespace JavaPool

variable (state : JavaPool)

def setTask (task : Nat) (changed : PoolTask) : JavaPool :=
  { state with task := Function.update state.task task changed }

/-- The next step of `submitTask`, `cancelTask` or `exec`. -/
def mainStep (uuid : Text) : JavaPool :=
  match state.main with
  | .idle | .crashed => state
  | .submitted task => { state with main := .named task uuid }
  | .named task taskId =>
      { state with
        taskIdToTask := state.taskIdToTask.set taskId task
        main := .registered task taskId }
  | .registered task taskId =>
      { state.setTask task { state.task task with taskId := some taskId } with
        main := .responding }
  | .looking taskId =>
      match state.taskIdToTask.get? taskId with
      | none => { state with main := .responding }
      | some _ => { state with main := .cancelling taskId }
  | .cancelling taskId =>
      match state.taskIdToTask.get? taskId with
      -- the task removed itself in between: a NullPointerException
      | none => { state with main := .crashed }
      | some task =>
          { state.setTask task { state.task task with cancelled := true } with
            main := .dropping taskId }
  | .dropping taskId =>
      { state with taskIdToTask := state.taskIdToTask.pop taskId, main := .responding }
  | .responding => { state with main := .idle }

/-- The next step of `SExecutionTask.run`. -/
def poolStep (task : Nat) (ending : InvokeEnd) : JavaPool :=
  let running := state.task task
  match running.phase with
  | .waiting =>
      if running.cancelled then state else state.setTask task { running with phase := .invoking }
  | .invoking =>
      match ending with
      | .returns => state.setTask task { running with phase := .cleaning }
      | .storletException | .runtimeException =>
          state.setTask task { running with phase := .closing }
  | .cleaning => state.setTask task { running with phase := .removing running.taskId }
  | .removing taskId =>
      { state.setTask task { running with phase := .closing } with
        taskIdToTask := taskId.elim state.taskIdToTask state.taskIdToTask.pop }
  | .closing => state.setTask task { running with phase := .ended }
  | .ended => state

def step (state : JavaPool) : PoolLabel → JavaPool
  | .execute =>
      if state.main = .idle then
        { state with submitted := state.submitted + 1, main := .submitted state.submitted }
      else state
  | .cancel taskId =>
      if state.main = .idle then { state with main := .looking taskId } else state
  | .main uuid => state.mainStep uuid
  | .pool task ending => if task < state.submitted then state.poolStep task ending else state

def unfinished : Nat :=
  (List.range state.submitted).countP fun task => (state.task task).phase ≠ .ended

/-- A task that has ended is not in the table and cannot be cancelled, and the table is no larger
than the number of tasks that have not ended. -/
structure Forgets : Prop where
  absent : ∀ task < state.submitted, (state.task task).phase = .ended → ∀ taskId,
    state.taskIdToTask.get? taskId ≠ some task
  notFound : ∀ task < state.submitted, (state.task task).phase = .ended → ∀ taskId,
    (state.task task).taskId = some taskId → state.taskIdToTask.get? taskId = none
  bounded : state.taskIdToTask.items.length ≤ state.unfinished

/-- A storlet that is not cancelled returns, and not before `exec` has stored the task's id, which
no other task has. -/
def CleansUp : PoolLabel → Prop
  | .pool task ending =>
      ((state.task task).phase = .invoking → ending = .returns ∨ (state.task task).cancelled) ∧
        ((state.task task).phase = .cleaning → (state.task task).taskId.isSome)
  | .main uuid => ∀ task, state.main = .submitted task → ∀ other,
      (state.task other).taskId ≠ some uuid
  | _ => True

/-- Why the table has an entry: the task with this id may still remove it, or the main thread is
about to, or the task is being registered. -/
inductive Entry (own : PoolTask) (main : MainPhase) (task : Nat) (taskId : Text) : Prop where
  | held (named : own.taskId = some taskId) (running : own.cancelled = false)
      (phase : own.phase.MayRemove taskId)
  | dropped (named : own.taskId = some taskId) (drops : main = .dropping taskId)
  | registered (registers : main = .registered task taskId)

/-- What holds of a task that is being submitted. -/
def Beginning : Prop :=
  match state.main with
  | .submitted task =>
      task < state.submitted ∧ (state.task task).taskId = none ∧
        ∀ taskId, state.taskIdToTask.get? taskId ≠ some task
  | .named task taskId =>
      task < state.submitted ∧ (state.task task).taskId = none ∧
        (∀ taskId, state.taskIdToTask.get? taskId ≠ some task) ∧
        ∀ other, (state.task other).taskId ≠ some taskId
  | .registered task taskId =>
      task < state.submitted ∧ (state.task task).taskId = none ∧
        ∀ other, (state.task other).taskId ≠ some taskId
  | _ => True

/-- What holds between any two steps of such runs. -/
structure Sound : Prop where
  unused : ∀ task, state.submitted ≤ task → state.task task = {}
  entries : ∀ taskId task, state.taskIdToTask.get? taskId = some task →
    task < state.submitted ∧ Entry (state.task task) state.main task taskId
  unnamed : ∀ task, (state.task task).taskId = none →
    (state.task task).cancelled = false ∧ (state.task task).phase.Early
  removes : ∀ task taskId, (state.task task).phase = .removing taskId →
    taskId = (state.task task).taskId
  distinct : ∀ task other taskId, (state.task task).taskId = some taskId →
    (state.task other).taskId = some taskId → task = other
  beginning : state.Beginning

variable {state}

theorem Sound.entries_kept (sound : state.Sound)
    (quiet : ∀ taskId, state.main ≠ .dropping taskId)
    (unregistered : ∀ task taskId, state.main ≠ .registered task taskId) (main : MainPhase)
    (taskId : Text) (task : Nat) (there : state.taskIdToTask.get? taskId = some task) :
    task < state.submitted ∧ Entry (state.task task) main task taskId := by
  obtain ⟨below, entry⟩ := sound.entries taskId task there
  refine ⟨below, ?_⟩
  cases entry with
  | held named running phase => exact .held named running phase
  | dropped _ drops => exact absurd drops (quiet taskId)
  | registered registers => exact absurd registers (unregistered task taskId)

/-- The main thread goes on without a change of the table or of a task. -/
theorem Sound.moves (sound : state.Sound) (quiet : ∀ taskId, state.main ≠ .dropping taskId)
    (unregistered : ∀ task taskId, state.main ≠ .registered task taskId) {main : MainPhase}
    (beginning : Beginning { state with main }) : Sound { state with main } :=
  ⟨sound.unused, sound.entries_kept quiet unregistered main, sound.unnamed, sound.removes,
    sound.distinct, beginning⟩

/-- A step of a thread changes the record of one task. -/
theorem Sound.changes (sound : state.Sound) {task : Nat} {changed : PoolTask} {main : MainPhase}
    (below : task < state.submitted)
    (entry : ∀ taskId, state.taskIdToTask.get? taskId = some task →
      Entry changed main task taskId)
    (others : ∀ taskId other, other ≠ task → state.taskIdToTask.get? taskId = some other →
      Entry (state.task other) main other taskId)
    (unnamed : changed.taskId = none → changed.cancelled = false ∧ changed.phase.Early)
    (removes : ∀ taskId, changed.phase = .removing taskId → taskId = changed.taskId)
    (distinct : ∀ other taskId, changed.taskId = some taskId →
      (state.task other).taskId = some taskId → other = task)
    (beginning : Beginning { state.setTask task changed with main }) :
    Sound { state.setTask task changed with main } := by
  have same : (Function.update state.task task changed) task = changed := Function.update_self ..
  have apart {other : Nat} (differs : other ≠ task) :
      (Function.update state.task task changed) other = state.task other :=
    Function.update_of_ne differs ..
  refine ⟨?_, ?_, ?_, ?_, ?_, beginning⟩ <;> dsimp only [setTask]
  · intro other above
    have differs : other ≠ task := by
      rintro rfl
      exact absurd below (Nat.not_lt.mpr above)
    rw [apart differs, sound.unused other above]
  · intro taskId other there
    refine ⟨(sound.entries taskId other there).1, ?_⟩
    by_cases differs : other = task
    · subst differs
      rw [same]
      exact entry taskId there
    · rw [apart differs]
      exact others taskId other differs there
  · intro other
    by_cases differs : other = task
    · subst differs
      rw [same]
      exact unnamed
    · rw [apart differs]
      exact sound.unnamed other
  · intro other
    by_cases differs : other = task
    · subst differs
      rw [same]
      exact removes
    · rw [apart differs]
      exact sound.removes other
  · intro one other taskId
    by_cases first : one = task <;> by_cases second : other = task
    · exact fun _ _ => first.trans second.symm
    · subst first
      rw [same, apart second]
      exact fun named named' => (distinct other taskId named named').symm
    · subst second
      rw [same, apart first]
      exact fun named named' => distinct one taskId named' named
    · rw [apart first, apart second]
      exact sound.distinct one other taskId

theorem early_mayRemove {phase : PoolPhase} (early : phase.Early) (taskId : Text) :
    phase.MayRemove taskId := by
  cases phase with
  | waiting | invoking | cleaning => trivial
  | removing | closing | ended => exact early.elim

/-- `taskId_` is stored. -/
theorem sound_registered {task : Nat} {taskId : Text} (sound : state.Sound)
    (main : state.main = .registered task taskId) :
    Sound { state.setTask task { state.task task with taskId := some taskId } with
      main := .responding } := by
  have begins := sound.beginning
  rw [Beginning, main] at begins
  obtain ⟨below, nameless, new⟩ := begins
  obtain ⟨running, early⟩ := sound.unnamed task nameless
  refine sound.changes below ?_ ?_ ?_ ?_ ?_ trivial
  · intro askedId there
    obtain ⟨_, entry⟩ := sound.entries askedId task there
    cases entry with
    | held named _ _ => simp [nameless] at named
    | dropped _ drops => simp [main] at drops
    | registered registers =>
      rw [main] at registers
      cases registers
      exact .held rfl running (early_mayRemove early _)
  · intro askedId other differs there
    obtain ⟨_, entry⟩ := sound.entries askedId other there
    cases entry with
    | held named running phase => exact .held named running phase
    | dropped _ drops => simp [main] at drops
    | registered registers =>
      rw [main] at registers
      cases registers
      exact absurd rfl differs
  · intro impossible
    cases impossible
  · intro askedId removing
    dsimp only at removing
    rw [removing] at early
    exact early.elim
  · rintro other _ ⟨⟩ named
    exact absurd named (new other)

/-- The future that was found is cancelled. -/
theorem sound_cancelled {task : Nat} {taskId : Text} (sound : state.Sound)
    (main : state.main = .cancelling taskId)
    (there : state.taskIdToTask.get? taskId = some task) :
    Sound { state.setTask task { state.task task with cancelled := true } with
      main := .dropping taskId } := by
  have quiet : ∀ taskId, state.main ≠ .dropping taskId := by simp [main]
  have unregistered : ∀ task taskId, state.main ≠ .registered task taskId := by simp [main]
  obtain ⟨below, entry⟩ := sound.entries_kept quiet unregistered .idle taskId task there
  have named : (state.task task).taskId = some taskId := by
    cases entry with
    | held named _ _ => exact named
    | dropped named _ => exact named
    | registered registers => cases registers
  refine sound.changes below ?_ ?_ ?_ ?_ ?_ trivial
  · intro askedId asked
    obtain ⟨_, entry⟩ := sound.entries_kept quiet unregistered .idle askedId task asked
    cases entry with
    | held own _ _ =>
      -- the task has one id, so this is the entry that will be dropped
      have same : taskId = askedId := Option.some.inj (named.symm.trans own)
      exact .dropped own (by rw [same])
    | dropped _ drops => cases drops
    | registered registers => cases registers
  · intro askedId other differs asked
    exact (sound.entries_kept quiet unregistered _ askedId other asked).2
  · intro nameless
    dsimp only at nameless
    rw [named] at nameless
    cases nameless
  · exact sound.removes task
  · exact fun other askedId own asked => sound.distinct other task askedId asked own

/-- An entry is removed. -/
theorem Sound.pops (sound : state.Sound) (taskId : Text) :
    Sound { state with taskIdToTask := state.taskIdToTask.pop taskId } := by
  have left {askedId : Text} {task : Nat}
      (there : (state.taskIdToTask.pop taskId).get? askedId = some task) :
      askedId ≠ taskId ∧ state.taskIdToTask.get? askedId = some task := by
    rw [PyDict.get?_pop] at there
    split at there
    · cases there
    · next differs => exact ⟨differs, there⟩
  refine ⟨sound.unused, ?_, sound.unnamed, sound.removes, sound.distinct, ?_⟩
  · exact fun askedId task there => sound.entries askedId task (left there).2
  · have begins := sound.beginning
    unfold Beginning at begins ⊢
    dsimp only
    cases main : state.main with
    | submitted task =>
      rw [main] at begins
      obtain ⟨below, nameless, absent⟩ := begins
      exact ⟨below, nameless, fun askedId there => absent askedId (left there).2⟩
    | named task ownId =>
      rw [main] at begins
      obtain ⟨below, nameless, absent, new⟩ := begins
      exact ⟨below, nameless, fun askedId there => absent askedId (left there).2, new⟩
    | registered task ownId =>
      rw [main] at begins
      exact begins
    | idle | looking | cancelling | dropping | responding | crashed => trivial

/-- The entry of the future that was cancelled is removed. -/
theorem sound_dropped {taskId : Text} (sound : state.Sound)
    (main : state.main = .dropping taskId) :
    Sound { state with
      taskIdToTask := state.taskIdToTask.pop taskId
      main := .responding } := by
  have popped := sound.pops taskId
  refine ⟨popped.unused, ?_, popped.unnamed, popped.removes, popped.distinct, trivial⟩
  intro askedId task there
  obtain ⟨below, entry⟩ := popped.entries askedId task there
  refine ⟨below, ?_⟩
  cases entry with
  | held named running phase => exact .held named running phase
  | dropped _ drops =>
    have same : taskId = askedId := by
      rw [main] at drops
      cases drops
      rfl
    change (state.taskIdToTask.pop taskId).get? askedId = some task at there
    rw [PyDict.get?_pop, if_pos same.symm] at there
    cases there
  | registered registers => simp [main] at registers

theorem sound_mainStep (sound : state.Sound) (uuid : Text)
    (cleans : state.CleansUp (.main uuid)) : (state.mainStep uuid).Sound := by
  have begins := sound.beginning
  unfold mainStep
  cases main : state.main with
  | idle | crashed => exact sound
  | submitted task =>
    rw [Beginning, main] at begins
    obtain ⟨below, nameless, absent⟩ := begins
    exact sound.moves (by simp [main]) (by simp [main]) ⟨below, nameless, absent, cleans task main⟩
  | named task taskId =>
    rw [Beginning, main] at begins
    obtain ⟨below, nameless, absent, new⟩ := begins
    refine ⟨sound.unused, ?_, sound.unnamed, sound.removes, sound.distinct, below, nameless, new⟩
    intro askedId other there
    rw [PyDict.get?_set] at there
    split at there
    · next same =>
      cases there
      exact ⟨below, .registered (by rw [same])⟩
    · exact sound.entries_kept (by simp [main]) (by simp [main]) _ askedId other there
  | registered task taskId => exact sound_registered sound main
  | looking taskId =>
    dsimp only
    split
    · exact sound.moves (by simp [main]) (by simp [main]) trivial
    · exact sound.moves (by simp [main]) (by simp [main]) trivial
  | cancelling taskId =>
    dsimp only
    split
    · exact sound.moves (by simp [main]) (by simp [main]) trivial
    · next task there => exact sound_cancelled sound main there
  | dropping taskId => exact sound_dropped sound main
  | responding => exact sound.moves (by simp [main]) (by simp [main]) trivial

/-- A pool thread goes on to its next phase. -/
theorem Sound.enters (sound : state.Sound) {task : Nat} (below : task < state.submitted)
    (phase : PoolPhase)
    (mayRemove : ∀ taskId, state.taskIdToTask.get? taskId = some task →
      (state.task task).taskId = some taskId → (state.task task).cancelled = false →
      (state.task task).phase.MayRemove taskId → phase.MayRemove taskId)
    (early : (state.task task).taskId = none → phase.Early)
    (removes : ∀ taskId, phase = .removing taskId → taskId = (state.task task).taskId) :
    Sound (state.setTask task { state.task task with phase }) := by
  have begins := sound.beginning
  have same (other : Nat) : (Function.update state.task task
      { state.task task with phase } other).taskId = (state.task other).taskId := by
    rw [Function.update_apply]
    split
    · next same => rw [same]
    · rfl
  refine sound.changes below ?_ ?_ ?_ removes ?_ ?_
  · intro taskId there
    obtain ⟨_, entry⟩ := sound.entries taskId task there
    cases entry with
    | held named running now => exact .held named running (mayRemove taskId there named running now)
    | dropped named drops => exact .dropped named drops
    | registered registers => exact .registered registers
  · exact fun taskId other _ there => (sound.entries taskId other there).2
  · exact fun nameless => ⟨(sound.unnamed task nameless).1, early nameless⟩
  · exact fun other taskId named named' => sound.distinct other task taskId named' named
  · unfold Beginning at begins ⊢
    dsimp only [setTask]
    simp only [same]
    exact begins

theorem sound_poolStep (sound : state.Sound) {task : Nat} (below : task < state.submitted)
    (ending : InvokeEnd) (cleans : state.CleansUp (.pool task ending)) :
    (state.poolStep task ending).Sound := by
  obtain ⟨returned, named⟩ := cleans
  have later : ¬ (state.task task).phase.Early → (state.task task).taskId ≠ none :=
    fun late nameless => late (sound.unnamed task nameless).2
  unfold poolStep
  dsimp only
  cases phase : (state.task task).phase with
  | ended => exact sound
  | waiting =>
    dsimp only
    split
    · exact sound
    · exact sound.enters below .invoking (fun _ _ _ _ _ => trivial) (fun _ => trivial)
        (fun _ impossible => nomatch impossible)
  | invoking =>
    have closes (raised : ending ≠ .returns) :
        Sound (state.setTask task { state.task task with phase := .closing }) := by
      have cancelled := (returned phase).resolve_left raised
      apply sound.enters below .closing
      · intro _ _ _ running
        rw [cancelled] at running
        cases running
      · intro nameless
        rw [(sound.unnamed task nameless).1] at cancelled
        cases cancelled
      · exact fun _ impossible => nomatch impossible
    cases ending with
    | returns =>
      exact sound.enters below .cleaning (fun _ _ _ _ _ => trivial) (fun _ => trivial)
        (fun _ impossible => nomatch impossible)
    | storletException => exact closes (by simp)
    | runtimeException => exact closes (by simp)
  | cleaning =>
    apply sound.enters below (.removing (state.task task).taskId)
    · exact fun _ _ own _ _ => own
    · intro nameless
      have stored := named phase
      rw [nameless] at stored
      cases stored
    · rintro _ ⟨⟩
      rfl
  | removing taskId =>
    have own := sound.removes task taskId phase
    cases taskId with
    | none => exact absurd own.symm (later (by simp [phase, PoolPhase.Early]))
    | some taskId =>
      apply (sound.pops taskId).enters below .closing
      · intro askedId there asked
        have same : taskId = askedId := Option.some.inj (own.trans asked)
        rw [PyDict.get?_pop, if_pos same.symm] at there
        cases there
      · exact fun nameless => absurd (own.trans nameless) (Option.some_ne_none _)
      · exact fun _ impossible => nomatch impossible
  | closing =>
    apply sound.enters below .ended
    · intro _ _ _ _ impossible
      rw [phase] at impossible
      exact impossible.elim
    · exact fun nameless => absurd nameless (later (by simp [phase, PoolPhase.Early]))
    · exact fun _ impossible => nomatch impossible

theorem sound_step (state : JavaPool) (label : PoolLabel) (sound : state.Sound)
    (cleans : state.CleansUp label) : (state.step label).Sound := by
  cases label with
  | main uuid => exact sound_mainStep sound uuid cleans
  | pool task ending =>
    unfold step
    dsimp only
    split
    · next below => exact sound_poolStep sound below ending cleans
    · exact sound
  | cancel taskId =>
    unfold step
    dsimp only
    split
    · next idle => exact sound.moves (by simp [idle]) (by simp [idle]) trivial
    · exact sound
  | execute =>
    unfold step
    dsimp only
    split
    · next idle =>
      have fresh := sound.unused state.submitted (Nat.le_refl _)
      refine ⟨?_, ?_, sound.unnamed, sound.removes, sound.distinct, ?_⟩
      · exact fun task above => sound.unused task (Nat.le_of_succ_le above)
      · intro taskId task there
        obtain ⟨below, entry⟩ := sound.entries_kept (by simp [idle]) (by simp [idle]) _ taskId task
          there
        exact ⟨Nat.lt_succ_of_lt below, entry⟩
      · refine ⟨Nat.lt_succ_self _, by rw [fresh], ?_⟩
        exact fun taskId there => absurd (sound.entries _ _ there).1 (Nat.lt_irrefl _)
    · exact sound

/-- Between two commands the table has running tasks only. -/
theorem Sound.running (sound : state.Sound) (idle : state.main = .idle) {taskId : Text} {task : Nat}
    (there : state.taskIdToTask.get? taskId = some task) :
    task < state.submitted ∧ (state.task task).taskId = some taskId ∧
      (state.task task).phase ≠ .ended := by
  obtain ⟨below, entry⟩ := sound.entries taskId task there
  cases entry with
  | held named _ phase =>
    refine ⟨below, named, ?_⟩
    intro ended
    rw [ended] at phase
    exact phase
  | dropped _ drops => simp [idle] at drops
  | registered registers => simp [idle] at registers

theorem Sound.bounded (sound : state.Sound) (idle : state.main = .idle) :
    state.taskIdToTask.items.length ≤ state.unfinished := by
  have looked {item : Text × Nat} (inside : item ∈ state.taskIdToTask.items) :
      state.taskIdToTask.get? item.1 = some item.2 := (PyDict.mem_items _ _ _).mp inside
  -- a task has one id and an id one task, so the tasks of the entries differ
  have distinct : (state.taskIdToTask.items.map Prod.snd).Nodup := by
    apply List.Nodup.map_on
    · intro one first other second same
      obtain ⟨_, named, _⟩ := sound.running idle (looked first)
      obtain ⟨_, named', _⟩ := sound.running idle (looked second)
      rw [same] at named
      exact Prod.ext (Option.some.inj (named.symm.trans named')) same
    · exact state.taskIdToTask.distinct.of_map _
  have running : state.taskIdToTask.items.map Prod.snd ⊆ (List.range state.submitted).filter
      fun task => (state.task task).phase ≠ .ended := by
    intro task inside
    obtain ⟨item, listed, rfl⟩ := List.mem_map.mp inside
    obtain ⟨below, _, unended⟩ := sound.running idle (looked listed)
    exact List.mem_filter.mpr ⟨List.mem_range.mpr below, decide_eq_true unended⟩
  have lengths := (distinct.subperm running).length_le
  rwa [List.length_map, ← List.countP_eq_length_filter] at lengths

end JavaPool

/-- In every run where storlets that are not cancelled return, and not before their task's id is
stored, the table has forgotten every task that has ended whenever the main thread is between two
commands. -/
theorem finished_tasks_forgotten (labels : List PoolLabel)
    (cleans : Along JavaPool.step JavaPool.CleansUp {} labels)
    (idle : (after JavaPool.step {} labels).main = .idle) :
    (after JavaPool.step {} labels).Forgets := by
  have initial : JavaPool.Sound {} := by
    refine ⟨fun _ _ => rfl, ?_, fun _ _ => ⟨rfl, trivial⟩, ?_, ?_, trivial⟩
    · intro _ _ there
      cases there
    · intro _ _ impossible
      cases impossible
    · intro _ _ _ impossible
      cases impossible
  have sound := cleans.invariant JavaPool.sound_step initial
  constructor
  · intro task _ ended taskId there
    exact (sound.running idle there).2.2 ended
  · intro task _ ended taskId named
    rw [Option.eq_none_iff_forall_ne_some]
    intro other there
    obtain ⟨_, named', unended⟩ := sound.running idle there
    rw [sound.distinct other task taskId named' named] at unended
    exact unended ended
  · exact sound.bounded idle

/-- A storlet is executed and its task is answered. -/
def executed (ending : InvokeEnd) : List PoolLabel :=
  [.execute, .main "id", .main "id", .main "id", .main "id", .pool 0 ending, .pool 0 ending,
    .pool 0 ending, .pool 0 ending, .pool 0 ending]

theorem returned_task_forgotten : (after JavaPool.step {} (executed .returns)).Forgets := by
  apply finished_tasks_forgotten
  · refine ⟨trivial, ?_, ?_, ?_, ?_, ?_, ?_, ?_, ?_, ?_, trivial⟩
    · intro _ _ _ impossible
      cases impossible
    · intro _ impossible
      cases impossible
    · intro _ impossible
      cases impossible
    · intro _ impossible
      cases impossible
    all_goals exact ⟨fun _ => .inl rfl, fun _ => rfl⟩
  · rfl

/-- A storlet that throws stays in the table. -/
theorem thrown_task_remembered : ¬ ∀ labels : List PoolLabel,
    (after JavaPool.step {} labels).main = .idle → (after JavaPool.step {} labels).Forgets := by
  intro always
  have forgets := always (executed .storletException) rfl
  exact forgets.absent 0 (by decide) rfl "id" rfl

end Storlets.Sbus
