import Storlets.Agent.TaskTable

set_option autoImplicit false

/-!
# Waiting for the children

Every child exits at some time, and every system call is made at some time.
-/

namespace Storlets.Sbus

structure Fate where
  /-- When the child with a pid exits. -/
  exitsAt : Nat → Nat
  /-- When `waitpid` is called for a pid in a round. -/
  calledAt : Nat → Nat → Nat
  waitedAt : Nat → Nat
  /-- Whom `os.wait` prefers in a round. -/
  order : Nat → List Nat

namespace Fate

def exitTime (fate : Fate) (worker : Worker) : Nat :=
  if worker.live then fate.exitsAt worker.pid else 0

def exitedBy (fate : Fate) (time : Nat) (workers : List Worker) : List Nat :=
  (workers.filter fun worker => fate.exitTime worker ≤ time).map Worker.pid

/-- The earliest exit of a child that is not reaped. -/
def firstExit (fate : Fate) (workers : List Worker) : Nat :=
  (((workers.filter fun worker => !worker.reaped).map fate.exitTime).min?).getD 0

/-- What the kernel answers in a round; `os.wait` sleeps until a child has exited. -/
def answers (fate : Fate) (round : Nat) (pool : PoolState) : RoundAnswers :=
  let exited (pid : Nat) := fate.exitedBy (fate.calledAt round pid) pool.workers
  let cleaned := pool.cleanupPids { exited, exitedLast := [], order := [] }
  let returned := max (fate.waitedAt round) (fate.firstExit cleaned.workers)
  { exited, exitedLast := fate.exitedBy returned cleaned.workers, order := fate.order round }

/-- `while len(self.task_id_to_pid) >= limit: self._wait_child_process()`; no state where a round
does not return, or where the table is that long after so many rounds. -/
def waitLoop (fate : Fate) (limit : Int) : Nat → Nat → PoolState → Option PoolState
  | 0, _, pool => if limit ≤ pool.tasks then none else some pool
  | rounds + 1, round, pool =>
      if limit ≤ pool.tasks then
        (pool.waitChildProcess (fate.answers round pool)).bind
          (waitLoop fate limit rounds (round + 1))
      else some pool

def waitAllChildProcesses (fate : Fate) (rounds : Nat) (pool : PoolState) : Option PoolState :=
  fate.waitLoop 1 rounds 0 pool

/-- The loop before the fork in `execute`. -/
def waitForRoom (fate : Fate) (poolSize : Int) (rounds : Nat) (pool : PoolState) :
    Option PoolState :=
  fate.waitLoop poolSize rounds 0 pool

end Fate

/-! ## No round blocks -/

theorem waitAny_blocks {order : List Nat} {workers : List Worker}
    (blocks : waitAny order workers = .blocks) :
    (∃ worker ∈ workers, worker.reaped = false) ∧
      ∀ worker ∈ workers, worker.reaped = false → worker.live = true := by
  unfold waitAny at blocks
  dsimp only at blocks
  split at blocks
  · cases blocks
  · next some =>
    split at blocks
    · cases blocks
    · next nobody =>
      have none_exited := List.head?_eq_none_iff.mp (Option.or_eq_none_iff.mp nobody).2
      have all_live := List.filter_eq_nil_iff.mp (List.map_eq_nil_iff.mp none_exited)
      constructor
      · obtain ⟨worker, inside⟩ := List.exists_mem_of_ne_nil _ some
        have listed := List.mem_filter.mp inside
        exact ⟨worker, listed.1, by simpa using listed.2⟩
      · intro worker inside waits
        have listed : worker ∈ workers.filter fun worker => !worker.reaped :=
          List.mem_filter.mpr ⟨inside, by simp [waits]⟩
        simpa using all_live worker listed

namespace Fate

variable (fate : Fate)

theorem firstExit_exists {workers : List Worker} {worker : Worker} (inside : worker ∈ workers)
    (waits : worker.reaped = false) :
    ∃ first ∈ workers, first.reaped = false ∧ fate.exitTime first = fate.firstExit workers := by
  have listed : fate.exitTime worker ∈
      (workers.filter fun worker => !worker.reaped).map fate.exitTime :=
    List.mem_map_of_mem (List.mem_filter.mpr ⟨inside, by simp [waits]⟩)
  obtain ⟨least, found⟩ := Option.isSome_iff_exists.mp (List.isSome_min?_of_mem listed)
  have member := (List.min?_eq_some_iff.mp found).1
  obtain ⟨first, there, same⟩ := List.mem_map.mp member
  have parts := List.mem_filter.mp there
  refine ⟨first, parts.1, by simpa using parts.2, ?_⟩
  unfold firstExit
  rw [found, same]
  rfl

theorem waits_for_exit (order : List Nat) (time : Nat) (workers : List Worker) :
    waitAny order (exitWorkers (fate.exitedBy (max time (fate.firstExit workers)) workers)
      workers) ≠ .blocks := by
  intro blocks
  obtain ⟨⟨worker, inside, waits⟩, live⟩ := waitAny_blocks blocks
  obtain ⟨before, there, made⟩ := List.mem_map.mp inside
  have waited : before.reaped = false := by
    rw [← made] at waits
    split at waits <;> exact waits
  -- whom the wait is over for
  obtain ⟨first, listed, unreaped, exits⟩ := fate.firstExit_exists there waited
  have exited : first.pid ∈ fate.exitedBy (max time (fate.firstExit workers)) workers := by
    apply List.mem_map_of_mem
    rw [List.mem_filter, exits]
    exact ⟨listed, by simp⟩
  have gone : { first with live := false } ∈
      exitWorkers (fate.exitedBy (max time (fate.firstExit workers)) workers) workers := by
    refine List.mem_map.mpr ⟨first, listed, ?_⟩
    rw [if_pos exited]
  have still := live _ gone unreaped
  cases still

theorem waitChildProcess_returns (round : Nat) (pool : PoolState) :
    ∃ next, pool.waitChildProcess (fate.answers round pool) = some next := by
  have awake := fate.waits_for_exit (fate.order round) (fate.waitedAt round)
    (pool.cleanupPids (fate.answers round pool)).workers
  unfold PoolState.waitChildProcess
  dsimp only
  split
  · exact ⟨_, rfl⟩
  · split
    · exact ⟨_, rfl⟩
    · exact ⟨_, rfl⟩
    · next blocks => exact absurd blocks awake

/-! ## The loop ends -/

/-- As many rounds as tasks and unreaped children are enough. -/
theorem waitLoop_ends {limit : Int} (positive : 1 ≤ limit) {rounds : Nat} {pool : PoolState}
    (enough : pool.waitRounds ≤ rounds) (round : Nat) :
    ∃ final, fate.waitLoop limit rounds round pool = some final ∧ (final.tasks : Int) < limit := by
  -- every wait takes a task or a child off, and there are no more of them than rounds
  induction rounds generalizing pool round with
  | zero =>
    have empty : ¬ limit ≤ pool.tasks := by
      unfold PoolState.waitRounds at enough
      omega
    exact ⟨pool, if_neg empty, by omega⟩
  | succ rounds ih =>
    by_cases full : limit ≤ pool.tasks
    · obtain ⟨next, returns⟩ := fate.waitChildProcess_returns round pool
      obtain ⟨fewer, _⟩ := PoolState.waitRounds_lt (by omega) returns
      have left : next.waitRounds ≤ rounds := by omega
      obtain ⟨final, ends, room⟩ := ih left (round + 1)
      refine ⟨final, ?_, room⟩
      unfold waitLoop
      rw [if_pos full, returns]
      exact ends
    · refine ⟨pool, ?_, by omega⟩
      unfold waitLoop
      rw [if_neg full]

/-- A loop that ends is one of the task table, with the answers of its rounds. -/
theorem waitLoop_waitWhile {limit : Int} {rounds round : Nat} {pool final : PoolState}
    (ends : fate.waitLoop limit rounds round pool = some final) :
    ∃ given, PoolState.waitWhile given limit rounds pool = some final := by
  -- by induction on the rounds, with the answers of the later ones
  induction rounds generalizing pool round with
  | zero =>
    unfold waitLoop at ends
    split at ends
    · cases ends
    · exact ⟨fun round => fate.answers round pool, ends⟩
  | succ rounds ih =>
    unfold waitLoop at ends
    by_cases full : limit ≤ pool.tasks
    · rw [if_pos full] at ends
      obtain ⟨next, returns, later⟩ := Option.bind_eq_some_iff.mp ends
      obtain ⟨given, ended⟩ := ih later
      -- the rounds are numbered from the last one
      have below (count : Nat) (start : PoolState) (few : count ≤ rounds) :
          PoolState.waitWhile (Function.update given rounds (fate.answers round pool)) limit
            count start = PoolState.waitWhile given limit count start := by
        induction count generalizing start with
        | zero => rfl
        | succ count ih =>
          have other : count ≠ rounds := by omega
          unfold PoolState.waitWhile
          rw [Function.update_of_ne other]
          have same := funext fun start => ih start (by omega)
          rw [same]
      refine ⟨Function.update given rounds (fate.answers round pool), ?_⟩
      unfold PoolState.waitWhile
      rw [if_pos full, Function.update_self, returns]
      exact (below rounds next (Nat.le_refl _)).trans ended
    · rw [if_neg full] at ends
      refine ⟨fun round => fate.answers round pool, ?_⟩
      unfold PoolState.waitWhile
      rw [if_neg full, ends]

/-- Waiting under a fate keeps the table exact. -/
theorem waitLoop_exact {limit : Int} {rounds round : Nat} {pool final : PoolState}
    (exact : pool.Exact) (ends : fate.waitLoop limit rounds round pool = some final) :
    final.Exact := by
  obtain ⟨_, ended⟩ := fate.waitLoop_waitWhile ends
  exact exact.waitWhile ended

end Fate

/-- Both loops end from any state, whenever the children exit. -/
theorem waiting_ends (fate : Fate) (pool : PoolState) (poolSize : Int)
    (positive : 1 ≤ poolSize) :
    (∃ rounds final, fate.waitAllChildProcesses rounds pool = some final ∧
        final.taskIdToPid.items = []) ∧
      ∃ rounds final, fate.waitForRoom poolSize rounds pool = some final ∧
        (final.taskIdToPid.items.length : Int) < poolSize := by
  constructor
  · obtain ⟨final, ends, room⟩ := fate.waitLoop_ends (Int.le_refl 1) (Nat.le_refl pool.waitRounds) 0
    have empty : final.taskIdToPid.items.length = 0 := by
      unfold PoolState.tasks at room
      omega
    exact ⟨_, final, ends, List.length_eq_zero_iff.mp empty⟩
  · obtain ⟨final, ends, room⟩ := fate.waitLoop_ends positive (Nat.le_refl pool.waitRounds) 0
    exact ⟨_, final, ends, room⟩

/-- A task that runs until later, and the zombie of a cancelled one. -/
def busyPool : PoolState where
  taskIdToPid := PyDict.empty.set "t1".toList 1
  workers := [{ pid := 1, taskId := "t1".toList },
    { pid := 2, taskId := "t2".toList, live := false, cancelled := true }]

def slowFate : Fate where
  exitsAt pid := if pid = 1 then 7 else 0
  calledAt round _ := round
  waitedAt round := round
  order _ := []

theorem busy_pool_waits :
    (∃ rounds final, slowFate.waitAllChildProcesses rounds busyPool = some final ∧
        final.taskIdToPid.items = []) ∧
      ∃ rounds final, slowFate.waitForRoom 1 rounds busyPool = some final ∧
        (final.taskIdToPid.items.length : Int) < 1 :=
  waiting_ends slowFate busyPool 1 (by decide)

end Storlets.Sbus
