import Storlets.Agent.Daemon

set_option autoImplicit false

/-!
# The task table of the Python daemon

Here the kernel may use the pid of a child again once the child is reaped, and children exit
between any two system calls.
-/

namespace Storlets.Sbus

open PyStr

structure Worker where
  pid : Nat
  taskId : Text
  live : Bool := true
  reaped : Bool := false
  /-- It was sent a `SIGKILL`. -/
  cancelled : Bool := false
  deriving DecidableEq

structure PoolState where
  taskIdToPid : Dict Nat := .empty
  workers : List Worker := []
  /-- For which task `cancel` sent a signal, and the task of the child that got it. -/
  signals : List (Text × Option Text) := []

/-- The pid of a new child is that of no child that can still be waited for. -/
structure NewPid where
  choose : List Worker → Nat
  unused : ∀ workers, ∀ worker ∈ workers, worker.reaped = false → worker.pid ≠ choose workers

/-- Which children exit before each call of a round of waiting, and whom `os.wait` prefers. -/
structure RoundAnswers where
  exited : Nat → List Nat
  exitedLast : List Nat
  order : List Nat

/-! ## The calls -/

def Worker.has (pid : Nat) (worker : Worker) : Bool := !worker.reaped && decide (worker.pid = pid)

def exitWorkers (pids : List Nat) (workers : List Worker) : List Worker :=
  workers.map fun worker => if worker.pid ∈ pids then { worker with live := false } else worker

def reapWorker (pid : Nat) (workers : List Worker) : List Worker :=
  workers.map fun worker => if worker.has pid then { worker with reaped := true } else worker

def killWorker (pid : Nat) (workers : List Worker) : List Worker :=
  workers.map fun worker => if worker.has pid then { worker with cancelled := true } else worker

/-- `os.waitpid(pid, os.WNOHANG)`; without such a child it fails with `ECHILD`. -/
def waitPid (pid : Nat) (workers : List Worker) : Bool × List Worker :=
  match workers.find? (Worker.has pid) with
  | some worker => if worker.live then (false, workers) else (true, reapWorker pid workers)
  | none => (true, workers)

inductive WaitEnd where
  | reaps (pid : Nat)
  | echild
  | blocks

/-- `os.wait`. -/
def waitAny (order : List Nat) (workers : List Worker) : WaitEnd :=
  match workers.filter fun worker => !worker.reaped with
  | [] => .echild
  | unreaped =>
      let exited := (unreaped.filter fun worker => !worker.live).map Worker.pid
      match (order.find? fun pid => pid ∈ exited).or exited.head? with
      | some pid => .reaps pid
      | none => .blocks

namespace PoolState

def tasks (pool : PoolState) : Nat := pool.taskIdToPid.items.length

def cleanupPids (answers : RoundAnswers) (pool : PoolState) : PoolState :=
  let (terminated, workers) := pool.taskIdToPid.items.foldl
    (fun (terminated, workers) (taskId, daemonPid) =>
      let (ended, workers) :=
        waitPid daemonPid (exitWorkers (answers.exited daemonPid) workers)
      (if ended then terminated ++ [taskId] else terminated, workers)) ([], pool.workers)
  { pool with taskIdToPid := terminated.foldl PyDict.pop pool.taskIdToPid, workers }

/-- No state where `os.wait` never returns. -/
def waitChildProcess (answers : RoundAnswers) (pool : PoolState) : Option PoolState :=
  let cleaned := pool.cleanupPids answers
  if cleaned.tasks = 0 ∨ cleaned.tasks < pool.tasks then some cleaned
  else
    let workers := exitWorkers answers.exitedLast cleaned.workers
    match waitAny answers.order workers with
    | .reaps pid => some { cleaned with
        taskIdToPid := removePid pid cleaned.taskIdToPid
        workers := reapWorker pid workers }
    | .echild => some { cleaned with taskIdToPid := .empty, workers }
    | .blocks => none

/-- `while len(self.task_id_to_pid) >= limit: self._wait_child_process()`, for so many rounds. -/
def waitWhile (answers : Nat → RoundAnswers) (limit : Int) : Nat → PoolState → Option PoolState
  | 0, pool => some pool
  | rounds + 1, pool =>
      if limit ≤ pool.tasks then
        (pool.waitChildProcess (answers rounds)).bind (waitWhile answers limit rounds)
      else some pool

def unreaped (pool : PoolState) : Nat :=
  pool.workers.countP fun worker => !worker.reaped

/-- Each round forgets a task or reaps a child. -/
def waitRounds (pool : PoolState) : Nat := pool.tasks + pool.unreaped

def execute (poolSize : Int) (taskId : Text) (pid : NewPid) (forkFails : Bool)
    (answers : Nat → RoundAnswers) (pool : PoolState) : Option PoolState := do
  let pool ← waitWhile answers poolSize pool.waitRounds pool
  if forkFails then return pool
  else
    let pid := pid.choose pool.workers
    return { pool with
      taskIdToPid := pool.taskIdToPid.set taskId pid
      workers := pool.workers ++ [{ pid, taskId }] }

def cancel (taskId : Text) (killFails : Bool) (pool : PoolState) : PoolState :=
  match pool.taskIdToPid.get? taskId with
  | none => pool
  | some pid =>
      if killFails then pool
      else
        { taskIdToPid := removePid pid pool.taskIdToPid
          workers := killWorker pid pool.workers
          signals := pool.signals ++
            [(taskId, (pool.workers.find? (Worker.has pid)).map Worker.taskId)] }

def waitAllChildProcesses (answers : Nat → RoundAnswers) (pool : PoolState) : Option PoolState :=
  waitWhile answers 1 pool.waitRounds pool

end PoolState

inductive TaskCall where
  | exits (pids : List Nat)
  | execute (taskId : Text) (pid : NewPid) (forkFails : Bool) (answers : Nat → RoundAnswers)
  | cancel (taskId : Text) (killFails : Bool)
  | waitChildProcess (answers : RoundAnswers)
  | waitAllChildProcesses (answers : Nat → RoundAnswers)

/-- The state after the call, if it returns. -/
def TaskCall.run (poolSize : Int) (pool : PoolState) : TaskCall → Option PoolState
  | exits pids => some { pool with workers := exitWorkers pids pool.workers }
  | execute taskId pid forkFails answers => pool.execute poolSize taskId pid forkFails answers
  | cancel taskId killFails => some (pool.cancel taskId killFails)
  | waitChildProcess answers => pool.waitChildProcess answers
  | waitAllChildProcesses answers => pool.waitAllChildProcesses answers

/-- The task id a call makes. -/
def TaskCall.madeId : TaskCall → Option Text
  | execute taskId _ _ _ => some taskId
  | _ => none

def runCalls (poolSize : Int) (calls : List TaskCall) : Option PoolState :=
  calls.foldlM (TaskCall.run poolSize) {}

/-! ## What the table says -/

/-- A child of that task that can be waited for and was not cancelled. -/
def Tracked (workers : List Worker) (taskId : Text) (pid : Nat) : Prop :=
  ∃ worker ∈ workers, worker.taskId = taskId ∧ worker.pid = pid ∧ worker.reaped = false ∧
    worker.cancelled = false

/-- A table, given by its entries, that tracks the children. -/
structure Tracks (entry : Text → Nat → Prop) (workers : List Worker) : Prop where
  pids : ∀ worker ∈ workers, ∀ other ∈ workers, worker.reaped = false → other.reaped = false →
    worker.pid = other.pid → worker = other
  ids : ∀ worker ∈ workers, ∀ other ∈ workers, worker.taskId = other.taskId → worker = other
  entries : ∀ taskId pid, entry taskId pid ↔ Tracked workers taskId pid

structure PoolState.Exact (pool : PoolState) : Prop where
  tracks : Tracks (fun taskId pid => pool.taskIdToPid.get? taskId = some pid) pool.workers
  signals : ∀ signal ∈ pool.signals, signal.2 = some signal.1

section Tracks

variable {entry : Text → Nat → Prop} {workers : List Worker}

theorem Tracks.congr {entry' : Text → Nat → Prop} (tracks : Tracks entry workers)
    (same : ∀ taskId pid, entry' taskId pid ↔ entry taskId pid) : Tracks entry' workers :=
  ⟨tracks.pids, tracks.ids, fun taskId pid => (same taskId pid).trans (tracks.entries taskId pid)⟩

theorem Tracks.pid_inj (tracks : Tracks entry workers) {taskId other : Text} {pid : Nat}
    (one : entry taskId pid) (two : entry other pid) : taskId = other := by
  obtain ⟨worker, inside, id, number, waits, _⟩ := (tracks.entries _ _).mp one
  obtain ⟨worker', inside', id', number', waits', _⟩ := (tracks.entries _ _).mp two
  have same := tracks.pids worker inside worker' inside' waits waits' (number.trans number'.symm)
  rw [← id, ← id', same]

/-- A change of the children that keeps their names and gives up those with a property. -/
theorem Tracks.change (tracks : Tracks entry workers) (change : Worker → Worker)
    (gone : Worker → Prop) (taskId : ∀ worker, (change worker).taskId = worker.taskId)
    (pid : ∀ worker, (change worker).pid = worker.pid)
    (reaped : ∀ worker, (change worker).reaped = false → worker.reaped = false)
    (kept : ∀ worker, ((change worker).reaped = false ∧ (change worker).cancelled = false) ↔
      (worker.reaped = false ∧ worker.cancelled = false) ∧ ¬ gone worker) :
    Tracks (fun taskId pid => entry taskId pid ∧ ∀ worker ∈ workers, worker.taskId = taskId →
      ¬ gone worker) (workers.map change) := by
  constructor
  · intro one there two there' waits waits' same
    obtain ⟨worker, inside, made⟩ := List.mem_map.mp there
    obtain ⟨other, inside', made'⟩ := List.mem_map.mp there'
    rw [← made] at waits same
    rw [← made'] at waits' same
    rw [pid, pid] at same
    rw [← made, ← made', tracks.pids worker inside other inside' (reaped _ waits)
      (reaped _ waits') same]
  · intro one there two there' same
    obtain ⟨worker, inside, made⟩ := List.mem_map.mp there
    obtain ⟨other, inside', made'⟩ := List.mem_map.mp there'
    rw [← made, ← made', taskId, taskId] at same
    rw [← made, ← made', tracks.ids worker inside other inside' same]
  · intro id number
    rw [tracks.entries]
    constructor
    · intro ⟨⟨worker, inside, named, numbered, waits, uncancelled⟩, stays⟩
      have still := (kept worker).mpr ⟨⟨waits, uncancelled⟩, stays worker inside named⟩
      exact ⟨change worker, List.mem_map_of_mem inside, (taskId worker).trans named,
        (pid worker).trans numbered, still.1, still.2⟩
    · intro ⟨_, there, named, numbered, waits, uncancelled⟩
      obtain ⟨worker, inside, made⟩ := List.mem_map.mp there
      rw [← made] at named numbered waits uncancelled
      obtain ⟨⟨waits, uncancelled⟩, stays⟩ := (kept worker).mp ⟨waits, uncancelled⟩
      rw [taskId] at named
      refine ⟨⟨worker, inside, named, (pid worker).symm.trans numbered, waits, uncancelled⟩, ?_⟩
      intro other inside' named'
      rwa [tracks.ids other inside' worker inside (named'.trans named.symm)]

theorem Worker.has_iff (pid : Nat) (worker : Worker) :
    worker.has pid ↔ worker.reaped = false ∧ worker.pid = pid := by
  simp [Worker.has]

/-- A pid in the table is that of one child. -/
theorem Tracks.without (tracks : Tracks entry workers) (pid : Nat) (taskId : Text) (number : Nat) :
    (entry taskId number ∧ ∀ worker ∈ workers, worker.taskId = taskId → ¬ worker.has pid) ↔
      entry taskId number ∧ number ≠ pid := by
  constructor
  · intro ⟨listed, stays⟩
    refine ⟨listed, ?_⟩
    intro same
    obtain ⟨worker, inside, named, numbered, waits, _⟩ := (tracks.entries _ _).mp listed
    exact stays worker inside named ((Worker.has_iff _ _).mpr ⟨waits, numbered.trans same⟩)
  · intro ⟨listed, differs⟩
    refine ⟨listed, ?_⟩
    intro other inside' named' there
    obtain ⟨worker, inside, named, numbered, _, _⟩ := (tracks.entries _ _).mp listed
    have same := tracks.ids other inside' worker inside (named'.trans named.symm)
    rw [Worker.has_iff, same, numbered] at there
    exact differs there.2

theorem Tracks.exits (tracks : Tracks entry workers) (pids : List Nat) :
    Tracks entry (exitWorkers pids workers) := by
  have changed := tracks.change
    (fun worker => if worker.pid ∈ pids then { worker with live := false } else worker)
    (fun _ => False) (fun worker => by split <;> rfl) (fun worker => by split <;> rfl)
    (fun worker => by split <;> exact id) (fun worker => by split <;> simp)
  exact changed.congr (fun _ _ => by simp)

theorem Tracks.reaps (tracks : Tracks entry workers) (pid : Nat) :
    Tracks (fun taskId number => entry taskId number ∧ number ≠ pid) (reapWorker pid workers) := by
  have changed := tracks.change
    (fun worker => if worker.has pid then { worker with reaped := true } else worker)
    (fun worker => worker.has pid) (fun worker => by split <;> rfl)
    (fun worker => by split <;> rfl) (fun worker => by split <;> simp)
    (fun worker => by by_cases there : worker.has pid <;> simp [there])
  exact changed.congr (fun taskId number => (tracks.without pid taskId number).symm)

theorem Tracks.kills (tracks : Tracks entry workers) (pid : Nat) :
    Tracks (fun taskId number => entry taskId number ∧ number ≠ pid) (killWorker pid workers) := by
  have changed := tracks.change
    (fun worker => if worker.has pid then { worker with cancelled := true } else worker)
    (fun worker => worker.has pid) (fun worker => by split <;> rfl)
    (fun worker => by split <;> rfl) (fun worker => by split <;> exact id)
    (fun worker => by by_cases there : worker.has pid <;> simp [there])
  exact changed.congr (fun taskId number => (tracks.without pid taskId number).symm)

/-- The kernel finds the child of the task. -/
theorem Tracks.finds (tracks : Tracks entry workers) {taskId : Text} {pid : Nat}
    (listed : entry taskId pid) :
    ∃ worker, workers.find? (Worker.has pid) = some worker ∧ worker.taskId = taskId := by
  obtain ⟨worker, inside, named, numbered, waits, _⟩ := (tracks.entries _ _).mp listed
  have there : worker.has pid := (Worker.has_iff _ _).mpr ⟨waits, numbered⟩
  obtain ⟨found, search⟩ := Option.isSome_iff_exists.mp
    (List.find?_isSome.mpr ⟨worker, inside, there⟩)
  obtain ⟨waits', numbered'⟩ := (Worker.has_iff _ _).mp (List.find?_some search)
  have same := tracks.pids found (List.mem_of_find?_eq_some search) worker inside waits' waits
    (numbered'.trans numbered.symm)
  exact ⟨found, search, same ▸ named⟩

/-- A new child of a new task. -/
theorem Tracks.forks (tracks : Tracks entry workers) {taskId : Text} {pid : Nat}
    (unused : ∀ worker ∈ workers, worker.reaped = false → worker.pid ≠ pid)
    (fresh : ∀ worker ∈ workers, worker.taskId ≠ taskId) :
    Tracks (fun id number => if id = taskId then number = pid else entry id number)
      (workers ++ [{ pid := pid, taskId := taskId }]) := by
  constructor
  · intro one there two there' waits waits' same
    rw [List.mem_append, List.mem_singleton] at there there'
    rcases there with there | rfl <;> rcases there' with there' | rfl
    · exact tracks.pids one there two there' waits waits' same
    · exact absurd same (unused one there waits)
    · exact absurd same.symm (unused two there' waits')
    · rfl
  · intro one there two there' same
    rw [List.mem_append, List.mem_singleton] at there there'
    rcases there with there | rfl <;> rcases there' with there' | rfl
    · exact tracks.ids one there two there' same
    · exact absurd same (fresh one there)
    · exact absurd same.symm (fresh two there')
    · rfl
  · intro id number
    split
    · next same =>
      constructor
      · intro numbered
        exact ⟨_, List.mem_append_right _ List.mem_cons_self, same.symm, numbered.symm, rfl, rfl⟩
      · intro ⟨worker, there, named, numbered, _⟩
        rw [List.mem_append, List.mem_singleton] at there
        rcases there with there | made
        · exact absurd (named.trans same) (fresh worker there)
        · rw [← numbered, made]
    · next differs =>
      rw [tracks.entries]
      constructor
      · intro ⟨worker, inside, rest⟩
        exact ⟨worker, List.mem_append_left _ inside, rest⟩
      · intro ⟨worker, there, named, rest⟩
        rw [List.mem_append, List.mem_singleton] at there
        rcases there with there | made
        · exact ⟨worker, there, named, rest⟩
        · rw [made] at named
          exact absurd named.symm differs

end Tracks

/-! ## The dictionary -/

theorem get?_foldl_pop (terminated : List Text) (dict : Dict Nat) (taskId : Text) :
    (terminated.foldl PyDict.pop dict).get? taskId =
      if taskId ∈ terminated then none else dict.get? taskId := by
  induction terminated generalizing dict with
  | nil => simp
  | cons first rest ih =>
    rw [List.foldl_cons, ih, PyDict.get?_pop]
    by_cases same : taskId = first <;> simp [same]

/-- `_remove_pid` removes that pid, where the dictionary has it once. -/
theorem get?_removePid {dict : Dict Nat} {pid : Nat} (once : ∀ taskId other,
      dict.get? taskId = some pid → dict.get? other = some pid → taskId = other)
    (taskId : Text) (number : Nat) :
    (removePid pid dict).get? taskId = some number ↔
      dict.get? taskId = some number ∧ number ≠ pid := by
  unfold removePid
  split
  · next found value search =>
    have numbered : value = pid := by simpa using List.find?_some search
    have listed : dict.get? found = some pid :=
      numbered ▸ (PyDict.mem_items _ _ _).mp (List.mem_of_find?_eq_some search)
    rw [PyDict.get?_pop]
    by_cases same : taskId = found
    · subst same
      simp [listed, eq_comm]
    · rw [if_neg same]
      constructor
      · intro there
        refine ⟨there, ?_⟩
        intro number_eq
        exact same (once _ _ (number_eq ▸ there) listed)
      · exact And.left
  · next search =>
    constructor
    · intro there
      refine ⟨there, ?_⟩
      intro same
      have inside := (PyDict.mem_items dict taskId number).mpr there
      have absent := List.find?_eq_none.mp search _ inside
      simp [same] at absent
    · exact And.left

/-! ## Each call keeps the table exact -/

namespace PoolState

variable {pool : PoolState}

theorem Exact.removes (tracks : Tracks (fun taskId pid => pool.taskIdToPid.get? taskId = some pid)
      pool.workers) {workers : List Worker} {pid : Nat}
    (kept : Tracks (fun taskId number => pool.taskIdToPid.get? taskId = some number ∧
      number ≠ pid) workers) :
    Tracks (fun taskId number => (removePid pid pool.taskIdToPid).get? taskId = some number)
      workers :=
  kept.congr (get?_removePid fun _ _ one two => tracks.pid_inj one two)

/-- One entry of the table is asked for. -/
theorem waitPid_tracks {entry : Text → Nat → Prop} {workers : List Worker} {taskId : Text}
    {pid : Nat} (tracks : Tracks entry workers) (listed : entry taskId pid)
    (functional : ∀ number, entry taskId number → number = pid) :
    Tracks (fun id number => entry id number ∧ ((waitPid pid workers).1 = true → id ≠ taskId))
      (waitPid pid workers).2 := by
  obtain ⟨worker, search, _⟩ := tracks.finds listed
  unfold waitPid
  rw [search]
  dsimp only
  split
  · exact tracks.congr (by simp)
  · apply (tracks.reaps pid).congr
    intro id number
    simp only [forall_const]
    constructor
    · intro ⟨there, differs⟩
      refine ⟨there, ?_⟩
      intro same
      exact differs (tracks.pid_inj (same ▸ there) listed)
    · intro ⟨there, differs⟩
      refine ⟨there, ?_⟩
      intro same
      exact differs (functional number (same ▸ there))

theorem cleanup_loop (answers : RoundAnswers) (dict : Dict Nat) (items : List (Text × Nat))
    (distinct : (items.map Prod.fst).Nodup) (terminated : List Text) (workers : List Worker)
    (ahead : ∀ item ∈ items, dict.get? item.1 = some item.2 ∧ item.1 ∉ terminated)
    (tracks : Tracks (fun taskId pid => dict.get? taskId = some pid ∧ taskId ∉ terminated)
      workers) :
    let ended := items.foldl (fun (terminated, workers) (taskId, daemonPid) =>
      let (ended, workers) := waitPid daemonPid (exitWorkers (answers.exited daemonPid) workers)
      (if ended then terminated ++ [taskId] else terminated, workers)) (terminated, workers)
    Tracks (fun taskId pid => dict.get? taskId = some pid ∧ taskId ∉ ended.1) ended.2 := by
  induction items generalizing terminated workers with
  | nil => exact tracks
  | cons item rest ih =>
    obtain ⟨taskId, daemonPid⟩ := item
    obtain ⟨listed, here⟩ := ahead (taskId, daemonPid) List.mem_cons_self
    obtain ⟨first, others⟩ := List.nodup_cons.mp distinct
    have exited := tracks.exits (answers.exited daemonPid)
    have asked := waitPid_tracks exited ⟨listed, here⟩
      (fun number there => Option.some.inj (there.1.symm.trans listed))
    rw [List.foldl_cons]
    dsimp only
    apply ih others
    · intro other inside
      obtain ⟨there, absent⟩ := ahead other (List.mem_cons_of_mem _ inside)
      have later : other.1 ∈ rest.map Prod.fst := List.mem_map_of_mem inside
      refine ⟨there, ?_⟩
      split
      · rw [List.mem_append, List.mem_singleton, not_or]
        exact ⟨absent, fun same => first (same ▸ later)⟩
      · exact absent
    · apply asked.congr
      intro id number
      cases (waitPid daemonPid (exitWorkers (answers.exited daemonPid) workers)).1 with
      | true => simp [and_assoc]
      | false => simp

theorem Exact.cleanupPids (exact : pool.Exact) (answers : RoundAnswers) :
    (pool.cleanupPids answers).Exact := by
  have start : Tracks (fun taskId pid => pool.taskIdToPid.get? taskId = some pid ∧
      taskId ∉ ([] : List Text)) pool.workers := exact.tracks.congr (by simp)
  have ahead (item : Text × Nat) (inside : item ∈ pool.taskIdToPid.items) :
      pool.taskIdToPid.get? item.1 = some item.2 ∧ item.1 ∉ ([] : List Text) :=
    ⟨(PyDict.mem_items _ _ _).mp inside, List.not_mem_nil⟩
  have ended := cleanup_loop answers pool.taskIdToPid pool.taskIdToPid.items
    pool.taskIdToPid.distinct [] pool.workers ahead start
  constructor
  · apply ended.congr
    intro taskId pid
    change (List.foldl PyDict.pop _ _).get? taskId = some pid ↔ _
    rw [get?_foldl_pop]
    split
    · next inside => simp [inside]
    · next outside => simp [outside]
  · exact exact.signals

theorem waitAny_echild {order : List Nat} {workers : List Worker}
    (ended : waitAny order workers = .echild) : ∀ worker ∈ workers, worker.reaped = true := by
  unfold waitAny at ended
  dsimp only at ended
  split at ended
  · next empty =>
    intro worker inside
    simpa using List.filter_eq_nil_iff.mp empty worker inside
  · split at ended
    · cases ended
    · cases ended

theorem Exact.waitChildProcess (exact : pool.Exact) {answers : RoundAnswers} {next : PoolState}
    (returns : pool.waitChildProcess answers = some next) : next.Exact := by
  have cleaned := exact.cleanupPids answers
  have exited := cleaned.tracks.exits answers.exitedLast
  unfold PoolState.waitChildProcess at returns
  dsimp only at returns
  split at returns
  · exact Option.some.inj returns ▸ cleaned
  · split at returns
    · next pid _ =>
      rw [← Option.some.inj returns]
      constructor
      · exact (exited.reaps pid).congr
          (get?_removePid fun _ _ one two => cleaned.tracks.pid_inj one two)
      · exact cleaned.signals
    · next waited =>
      have reaped := waitAny_echild waited
      rw [← Option.some.inj returns]
      constructor
      · -- nobody is left to be in the table
        refine ⟨exited.pids, exited.ids, fun taskId pid => iff_of_false (by simp) ?_⟩
        rintro ⟨worker, inside, _, _, waits, _⟩
        rw [reaped worker inside] at waits
        cases waits
      · exact cleaned.signals
    · cases returns

theorem Exact.waitWhile (exact : pool.Exact) {answers : Nat → RoundAnswers} {limit : Int}
    {rounds : Nat} {next : PoolState}
    (returns : PoolState.waitWhile answers limit rounds pool = some next) : next.Exact := by
  induction rounds generalizing pool with
  | zero => exact Option.some.inj returns ▸ exact
  | succ rounds ih =>
    unfold PoolState.waitWhile at returns
    split at returns
    · obtain ⟨middle, waited, later⟩ := Option.bind_eq_some_iff.mp returns
      exact ih (exact.waitChildProcess waited) later
    · exact Option.some.inj returns ▸ exact

theorem Exact.cancel (exact : pool.Exact) (taskId : Text) (killFails : Bool) :
    (pool.cancel taskId killFails).Exact := by
  unfold PoolState.cancel
  split
  · exact exact
  · next pid listed =>
    split
    · exact exact
    · obtain ⟨worker, search, named⟩ := exact.tracks.finds listed
      constructor
      · exact (exact.tracks.kills pid).congr
          (get?_removePid fun _ _ one two => exact.tracks.pid_inj one two)
      · intro signal sent
        rcases List.mem_append.mp sent with before | now
        · exact exact.signals signal before
        · rw [List.mem_singleton.mp now, search]
          exact congrArg some named

/-! ## Waiting ends with room in the pool -/

theorem unreaped_reap_le (pid : Nat) (workers : List Worker) :
    (reapWorker pid workers).countP (fun worker => !worker.reaped) ≤
      workers.countP fun worker => !worker.reaped := by
  rw [reapWorker, List.countP_map]
  apply List.countP_mono_left
  intro worker _
  by_cases there : worker.has pid <;> simp [there]

theorem unreaped_reap_lt {pid : Nat} {workers : List Worker} {worker : Worker}
    (inside : worker ∈ workers) (there : worker.has pid) :
    (reapWorker pid workers).countP (fun worker => !worker.reaped) <
      workers.countP fun worker => !worker.reaped := by
  obtain ⟨front, back, same⟩ := List.append_of_mem inside
  have waits := ((Worker.has_iff _ _).mp there).1
  have before := unreaped_reap_le pid front
  have behind := unreaped_reap_le pid back
  have parts : reapWorker pid workers =
      reapWorker pid front ++ { worker with reaped := true } :: reapWorker pid back := by
    simp [same, reapWorker, there]
  rw [parts, same, List.countP_append, List.countP_append, List.countP_cons, List.countP_cons]
  simp only [waits, Bool.not_true, Bool.not_false, if_true]
  simp only [Bool.false_eq_true, if_false]
  omega

theorem unreaped_exit (pids : List Nat) (workers : List Worker) :
    (exitWorkers pids workers).countP (fun worker => !worker.reaped) =
      workers.countP fun worker => !worker.reaped := by
  rw [exitWorkers, List.countP_map]
  congr 1
  funext worker
  dsimp only [Function.comp_apply]
  split <;> rfl

theorem unreaped_waitPid_le (pid : Nat) (workers : List Worker) :
    (waitPid pid workers).2.countP (fun worker => !worker.reaped) ≤
      workers.countP fun worker => !worker.reaped := by
  unfold waitPid
  split
  · split
    · exact Nat.le_refl _
    · exact unreaped_reap_le pid workers
  · exact Nat.le_refl _

theorem cleanupPids_le (answers : RoundAnswers) (pool : PoolState) :
    (pool.cleanupPids answers).tasks ≤ pool.tasks ∧
      (pool.cleanupPids answers).unreaped ≤ pool.unreaped := by
  have loop (items : List (Text × Nat)) (terminated : List Text) (workers : List Worker) :
      (items.foldl (fun (terminated, workers) (taskId, daemonPid) =>
        let (ended, workers) := waitPid daemonPid (exitWorkers (answers.exited daemonPid) workers)
        (if ended then terminated ++ [taskId] else terminated, workers))
          (terminated, workers)).2.countP (fun worker => !worker.reaped) ≤
        workers.countP fun worker => !worker.reaped := by
    induction items generalizing terminated workers with
    | nil => exact Nat.le_refl _
    | cons item rest ih =>
      refine Nat.le_trans (ih _ _) (Nat.le_trans (unreaped_waitPid_le _ _) ?_)
      exact Nat.le_of_eq (unreaped_exit _ _)
  exact ⟨tasks_foldl_pop_le _ _, loop _ _ _⟩

theorem waitAny_reaps {order : List Nat} {workers : List Worker} {pid : Nat}
    (reaps : waitAny order workers = .reaps pid) : ∃ worker ∈ workers, worker.has pid := by
  have exited (unreaped : List Worker) (all : ∀ worker ∈ unreaped, worker ∈ workers ∧
      worker.reaped = false)
      (inside : pid ∈ (unreaped.filter fun worker => !worker.live).map Worker.pid) :
      ∃ worker ∈ workers, worker.has pid := by
    obtain ⟨worker, listed, numbered⟩ := List.mem_map.mp inside
    obtain ⟨there, waits⟩ := all worker (List.mem_filter.mp listed).1
    exact ⟨worker, there, (Worker.has_iff _ _).mpr ⟨waits, numbered⟩⟩
  unfold waitAny at reaps
  dsimp only at reaps
  split at reaps
  · cases reaps
  · split at reaps
    · next found =>
      cases reaps
      refine exited (workers.filter fun worker => !worker.reaped) ?_ ?_
      · intro worker listed
        simpa using List.mem_filter.mp listed
      · rcases Option.or_eq_some_iff.mp found with preferred | ⟨_, first⟩
        · simpa using List.find?_some preferred
        · exact List.mem_of_head? first
    · cases reaps

/-- Each round that ends forgets a task or reaps a child. -/
theorem waitRounds_lt {answers : RoundAnswers} {next : PoolState} (busy : 0 < pool.tasks)
    (returns : pool.waitChildProcess answers = some next) :
    next.waitRounds < pool.waitRounds ∧ next.tasks ≤ pool.tasks := by
  obtain ⟨fewer, left⟩ := cleanupPids_le answers pool
  unfold PoolState.waitChildProcess at returns
  dsimp only at returns
  split at returns
  · next done =>
    rw [← Option.some.inj returns]
    unfold waitRounds
    omega
  · have same := unreaped_exit answers.exitedLast (pool.cleanupPids answers).workers
    split at returns
    · next pid reaps =>
      obtain ⟨worker, inside, there⟩ := waitAny_reaps reaps
      have reaped := unreaped_reap_lt inside there
      have kept := tasks_removePid_le pid (pool.cleanupPids answers).taskIdToPid
      rw [← Option.some.inj returns]
      simp only [waitRounds, PoolState.tasks, PoolState.unreaped] at *
      omega
    · rw [← Option.some.inj returns]
      have empty : ({ pool.cleanupPids answers with
        taskIdToPid := .empty
        workers := exitWorkers answers.exitedLast (pool.cleanupPids answers).workers } :
          PoolState).tasks = 0 := rfl
      simp only [waitRounds, PoolState.unreaped] at *
      omega
    · cases returns

theorem waitChildProcess_tasks_le {answers : RoundAnswers} {next : PoolState}
    (returns : pool.waitChildProcess answers = some next) : next.tasks ≤ pool.tasks := by
  by_cases busy : 0 < pool.tasks
  · exact (waitRounds_lt busy returns).2
  · have fewer := (cleanupPids_le answers pool).1
    unfold PoolState.waitChildProcess at returns
    rw [if_pos (.inl (by omega))] at returns
    exact Option.some.inj returns ▸ fewer

theorem waitWhile_tasks_le {answers : Nat → RoundAnswers} {limit : Int} (positive : 0 < limit)
    {rounds : Nat} {next : PoolState}
    (returns : PoolState.waitWhile answers limit rounds pool = some next) :
    next.tasks ≤ pool.tasks ∧ (pool.waitRounds ≤ rounds → (next.tasks : Int) < limit) := by
  induction rounds generalizing pool with
  | zero =>
    rw [← Option.some.inj returns]
    unfold waitRounds
    exact ⟨Nat.le_refl _, fun enough => by omega⟩
  | succ rounds ih =>
    unfold PoolState.waitWhile at returns
    split at returns
    · next full =>
      obtain ⟨middle, waited, later⟩ := Option.bind_eq_some_iff.mp returns
      obtain ⟨fewer, less⟩ := waitRounds_lt (by omega) waited
      obtain ⟨kept, ends⟩ := ih later
      exact ⟨by omega, fun enough => ends (by omega)⟩
    · rw [← Option.some.inj returns]
      exact ⟨Nat.le_refl _, fun _ => by omega⟩

/-! ## The ids of the children -/

def ids (workers : List Worker) : List Text := workers.map Worker.taskId

theorem ids_map {workers : List Worker} {change : Worker → Worker}
    (keeps : ∀ worker, (change worker).taskId = worker.taskId) :
    ids (workers.map change) = ids workers := by
  rw [ids, List.map_map]
  congr 1
  funext worker
  exact keeps worker

theorem ids_exit (pids : List Nat) (workers : List Worker) :
    ids (exitWorkers pids workers) = ids workers := ids_map fun worker => by split <;> rfl

theorem ids_reap (pid : Nat) (workers : List Worker) :
    ids (reapWorker pid workers) = ids workers := ids_map fun worker => by split <;> rfl

theorem ids_kill (pid : Nat) (workers : List Worker) :
    ids (killWorker pid workers) = ids workers := ids_map fun worker => by split <;> rfl

theorem ids_waitPid (pid : Nat) (workers : List Worker) :
    ids (waitPid pid workers).2 = ids workers := by
  unfold waitPid
  split
  · split
    · rfl
    · exact ids_reap pid workers
  · rfl

theorem ids_cleanupPids (answers : RoundAnswers) (pool : PoolState) :
    ids (pool.cleanupPids answers).workers = ids pool.workers := by
  have loop (items : List (Text × Nat)) (terminated : List Text) (workers : List Worker) :
      ids (items.foldl (fun (terminated, workers) (taskId, daemonPid) =>
        let (ended, workers) := waitPid daemonPid (exitWorkers (answers.exited daemonPid) workers)
        (if ended then terminated ++ [taskId] else terminated, workers))
          (terminated, workers)).2 = ids workers := by
    induction items generalizing terminated workers with
    | nil => rfl
    | cons item rest ih => exact (ih _ _).trans ((ids_waitPid _ _).trans (ids_exit _ _))
  exact loop _ _ _

theorem ids_waitChildProcess {answers : RoundAnswers} {next : PoolState}
    (returns : pool.waitChildProcess answers = some next) : ids next.workers = ids pool.workers := by
  have cleaned := ids_cleanupPids answers pool
  unfold PoolState.waitChildProcess at returns
  dsimp only at returns
  split at returns
  · rw [← Option.some.inj returns]
    exact cleaned
  · have exited := (ids_exit answers.exitedLast _).trans cleaned
    split at returns
    · rw [← Option.some.inj returns]
      exact (ids_reap _ _).trans exited
    · rw [← Option.some.inj returns]
      exact exited
    · cases returns

theorem ids_waitWhile {answers : Nat → RoundAnswers} {limit : Int} {rounds : Nat}
    {next : PoolState} (returns : PoolState.waitWhile answers limit rounds pool = some next) :
    ids next.workers = ids pool.workers := by
  induction rounds generalizing pool with
  | zero => rw [← Option.some.inj returns]
  | succ rounds ih =>
    unfold PoolState.waitWhile at returns
    split at returns
    · obtain ⟨middle, waited, later⟩ := Option.bind_eq_some_iff.mp returns
      exact (ih later).trans (ids_waitChildProcess waited)
    · rw [← Option.some.inj returns]

/-! ## Runs -/

structure Ready (poolSize : Int) (pool : PoolState) : Prop where
  exact : pool.Exact
  bounded : (pool.tasks : Int) ≤ poolSize

theorem tasks_set_le (dict : Dict Nat) (taskId : Text) (pid : Nat) :
    (dict.set taskId pid).items.length ≤ dict.items.length + 1 := by
  have keys := congrArg List.length (PyDict.keys_setItem taskId pid dict.items)
  rw [List.length_map] at keys
  change (PyDict.setItem taskId pid dict.items).length ≤ _
  rw [keys]
  split <;> simp

theorem Ready.execute {poolSize : Int} (ready : Ready poolSize pool) (positive : 1 ≤ poolSize)
    {taskId : Text} (fresh : taskId ∉ ids pool.workers) {pid : NewPid} {forkFails : Bool}
    {answers : Nat → RoundAnswers} {next : PoolState}
    (returns : pool.execute poolSize taskId pid forkFails answers = some next) :
    Ready poolSize next ∧ ids next.workers ⊆ taskId :: ids pool.workers := by
  obtain ⟨waited, waits, later⟩ := Option.bind_eq_some_iff.mp returns
  have exact := ready.exact.waitWhile waits
  obtain ⟨_, room⟩ := waitWhile_tasks_le (by omega) waits
  have room := room (Nat.le_refl _)
  have same := ids_waitWhile waits
  dsimp only at later
  split at later
  · rw [← Option.some.inj later, same]
    exact ⟨⟨exact, by omega⟩, List.subset_cons_self _ _⟩
  · rw [← Option.some.inj later]
    have unknown (worker : Worker) (inside : worker ∈ waited.workers) : worker.taskId ≠ taskId := by
      intro known
      rw [← same] at fresh
      exact fresh (known ▸ List.mem_map_of_mem inside)
    refine ⟨⟨⟨?_, exact.signals⟩, ?_⟩, ?_⟩
    · apply (exact.tracks.forks (pid.unused waited.workers) unknown).congr
      intro id number
      rw [PyDict.get?_set]
      split
      · rw [Option.some.injEq, eq_comm]
      · rfl
    · have longer := tasks_set_le waited.taskIdToPid taskId (pid.choose waited.workers)
      simp only [PoolState.tasks] at *
      omega
    · change ids (waited.workers ++ [_]) ⊆ _
      rw [ids, List.map_append, ← ids, same]
      simp

theorem Ready.cancel {poolSize : Int} (ready : Ready poolSize pool) (taskId : Text)
    (killFails : Bool) : Ready poolSize (pool.cancel taskId killFails) ∧
      ids (pool.cancel taskId killFails).workers = ids pool.workers := by
  have exact := ready.exact.cancel taskId killFails
  have bounded := ready.bounded
  unfold PoolState.cancel at exact ⊢
  split
  · exact ⟨ready, rfl⟩
  · next pid listed =>
    split
    · exact ⟨ready, rfl⟩
    · next sent =>
      rw [listed] at exact
      dsimp only at exact
      rw [if_neg sent] at exact
      have fewer := tasks_removePid_le pid pool.taskIdToPid
      refine ⟨⟨exact, ?_⟩, ids_kill _ _⟩
      simp only [PoolState.tasks] at *
      omega

theorem Ready.run {poolSize : Int} (ready : Ready poolSize pool) (positive : 1 ≤ poolSize)
    {call : TaskCall} (fresh : ∀ taskId, call.madeId = some taskId → taskId ∉ ids pool.workers)
    {next : PoolState} (returns : call.run poolSize pool = some next) :
    Ready poolSize next ∧ ids next.workers ⊆ call.madeId.toList ++ ids pool.workers := by
  have bounded := ready.bounded
  cases call with
  | exits pids =>
    rw [← Option.some.inj returns]
    exact ⟨⟨⟨ready.exact.tracks.exits pids, ready.exact.signals⟩, bounded⟩, by
      rw [ids_exit]
      exact List.Subset.refl _⟩
  | execute taskId pid forkFails answers =>
    exact ready.execute positive (fresh taskId rfl) returns
  | cancel taskId killFails =>
    obtain ⟨kept, same⟩ := ready.cancel taskId killFails
    rw [← Option.some.inj returns]
    exact ⟨kept, same ▸ List.Subset.refl _⟩
  | waitChildProcess answers =>
    have exact := ready.exact.waitChildProcess returns
    have fewer := waitChildProcess_tasks_le returns
    exact ⟨⟨exact, by omega⟩, ids_waitChildProcess returns ▸ List.Subset.refl _⟩
  | waitAllChildProcesses answers =>
    have exact := ready.exact.waitWhile returns
    obtain ⟨fewer, _⟩ := waitWhile_tasks_le (by decide) returns
    exact ⟨⟨exact, by omega⟩, ids_waitWhile returns ▸ List.Subset.refl _⟩

end PoolState

/-- What the table is said to be, in terms of the children. -/
structure TableExact (poolSize : Int) (pool : PoolState) : Prop where
  injective : ∀ taskId other pid, pool.taskIdToPid.get? taskId = some pid →
    pool.taskIdToPid.get? other = some pid → taskId = other
  current : ∀ taskId pid, pool.taskIdToPid.get? taskId = some pid →
    Tracked pool.workers taskId pid
  complete : ∀ worker ∈ pool.workers, worker.reaped = false → worker.cancelled = false →
    pool.taskIdToPid.get? worker.taskId = some worker.pid
  bounded : (pool.taskIdToPid.items.length : Int) ≤ poolSize
  signals : ∀ signal ∈ pool.signals, signal.2 = some signal.1

theorem PoolState.Ready.tableExact {poolSize : Int} {pool : PoolState}
    (ready : PoolState.Ready poolSize pool) : TableExact poolSize pool := by
  have tracks := ready.exact.tracks
  constructor
  · exact fun taskId other pid one two => tracks.pid_inj one two
  · exact fun taskId pid listed => (tracks.entries taskId pid).mp listed
  · exact fun worker inside waits kept =>
      (tracks.entries _ _).mpr ⟨worker, inside, rfl, rfl, waits, kept⟩
  · exact ready.bounded
  · exact ready.exact.signals

theorem runCalls_ready {poolSize : Int} (positive : 1 ≤ poolSize) (calls : List TaskCall)
    {pool next : PoolState} (ready : pool.Ready poolSize)
    (fresh : ∀ taskId ∈ calls.filterMap TaskCall.madeId, taskId ∉ PoolState.ids pool.workers)
    (distinct : (calls.filterMap TaskCall.madeId).Nodup)
    (returns : calls.foldlM (TaskCall.run poolSize) pool = some next) :
    next.Ready poolSize := by
  induction calls generalizing pool with
  | nil => exact Option.some.inj returns ▸ ready
  | cons call rest ih =>
    obtain ⟨middle, called, later⟩ := Option.bind_eq_some_iff.mp returns
    have here (taskId : Text) (made : call.madeId = some taskId) :
        taskId ∉ PoolState.ids pool.workers ∧
          taskId ∉ rest.filterMap TaskCall.madeId := by
      rw [List.filterMap_cons, made] at fresh distinct
      exact ⟨fresh taskId List.mem_cons_self, (List.nodup_cons.mp distinct).1⟩
    obtain ⟨kept, known⟩ := ready.run positive (fun taskId made => (here taskId made).1) called
    have sublist : (rest.filterMap TaskCall.madeId).Sublist
        ((call :: rest).filterMap TaskCall.madeId) := (List.sublist_cons_self _ _).filterMap _
    apply ih kept ?_ (distinct.sublist sublist) later
    intro taskId ahead inside
    rcases List.mem_append.mp (known inside) with made | old
    · exact (here taskId (Option.mem_toList.mp made)).2 ahead
    · exact fresh taskId (sublist.subset ahead) old

/-- After every call the table is exact, whatever children exit between the calls and in them. -/
theorem task_table_exact (poolSize : Int) (positive : 1 ≤ poolSize) (calls : List TaskCall)
    (fresh : (calls.filterMap TaskCall.madeId).Nodup) (pool : PoolState)
    (returns : runCalls poolSize calls = some pool) : TableExact poolSize pool := by
  have start : PoolState.Ready poolSize {} := by
    constructor
    · constructor
      · constructor
        · intro worker inside
          cases inside
        · intro worker inside
          cases inside
        · intro taskId pid
          exact iff_of_false (by simp) (fun ⟨_, inside, _⟩ => by cases inside)
      · intro signal sent
        cases sent
    · change ((0 : Nat) : Int) ≤ poolSize
      omega
  have ready := runCalls_ready positive calls start (fun _ _ => List.not_mem_nil) fresh returns
  exact ready.tableExact

/-- The pid after the largest one of those that are not reaped. -/
def nextPid : NewPid where
  choose workers :=
    workers.foldr (fun worker top => if worker.reaped then top else max (worker.pid + 1) top) 1
  unused := by
    intro workers worker inside waits
    have above : worker.pid < workers.foldr
        (fun worker top => if worker.reaped then top else max (worker.pid + 1) top) 1 := by
      induction workers with
      | nil => cases inside
      | cons first rest ih =>
        rw [List.foldr_cons]
        rcases List.mem_cons.mp inside with same | later
        · rw [← same, waits]
          exact Nat.lt_of_succ_le (Nat.le_max_left _ _)
        · have below := ih later
          split
          · exact below
          · exact Nat.lt_of_lt_of_le below (Nat.le_max_right _ _)
    omega

/-- Nobody exits by itself. -/
def quietRound : RoundAnswers := ⟨fun _ => [], [], []⟩

/-- The zombie of a cancelled task is reaped by a wait that leaves the table as it is, and the
third task gets its pid. -/
def cancelledCalls : List TaskCall :=
  [.execute "t1" nextPid false fun _ => quietRound, .cancel "t1" false,
    .execute "t2" nextPid false fun _ => quietRound, .waitChildProcess ⟨fun _ => [], [1], []⟩,
    .exits [2], .execute "t3" nextPid false fun _ => quietRound]

theorem cancelled_calls_exact : ∃ pool, runCalls 1 cancelledCalls = some pool ∧
    pool.taskIdToPid.items = [("t3".toList, 1)] ∧ TableExact 1 pool :=
  ⟨_, rfl, rfl, task_table_exact 1 (by decide) cancelledCalls (by decide) _ rfl⟩

end Storlets.Sbus
