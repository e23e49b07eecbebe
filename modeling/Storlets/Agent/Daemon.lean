import Storlets.Agent.Factory
import Storlets.Agent.MainLoop

set_option autoImplicit false

/-!
# The storlet daemon and its tasks

A task is a child process. The daemon keeps the pids of the tasks it has not seen ending.
-/

namespace Storlets.Sbus

open PyStr Runs

/-- A child process. Its pid is its place among all of them. -/
structure Child where
  live : Bool := true
  reaped : Bool := false

structure DaemonState where
  taskIdToPid : Dict Nat := .empty
  children : List Child := []

/-- What the system answers to a round of waiting. -/
structure WaitAnswers where
  errors : Nat → Option Errno
  /-- The children in the order they are preferred in by `os.wait`. -/
  order : List Nat

structure DaemonAnswers where
  wait : Nat → WaitAnswers
  uuid : Text
  forkFails : Bool
  /-- Closing an invocation descriptor fails, and not because it is closed. -/
  closeFails : Bool
  killFails : Bool
  /-- `str` of a value. -/
  str : Json → Text

namespace Child

def exit (child : Child) : Child := { child with live := false }

def reap (_ : Child) : Child := { live := false, reaped := true }

end Child

/-! ## Waiting for tasks -/

def DaemonState.tasks (state : DaemonState) : Nat := state.taskIdToPid.items.length

/-- `os.waitpid(pid, os.WNOHANG)`: whether the task is taken to be terminated. -/
def waitTask (error : Option Errno) (children : List Child) (pid : Nat) : Bool × List Child :=
  match error with
  | some .esrch | some .echild => (true, children)
  | some .eperm | some .other => (false, children)
  | none =>
      match children[pid]? with
      | some child =>
          if child.live then (false, children) else (true, children.modify pid Child.reap)
      | none => (true, children)

def cleanupPids (errors : Nat → Option Errno) (state : DaemonState) : DaemonState :=
  let (terminated, children) := state.taskIdToPid.items.foldl
    (fun (terminated, children) (taskId, daemonPid) =>
      let (ended, children) := waitTask (errors daemonPid) children daemonPid
      (if ended then terminated ++ [taskId] else terminated, children)) ([], state.children)
  { taskIdToPid := terminated.foldl PyDict.pop state.taskIdToPid, children }

def removePid (pid : Nat) (taskIdToPid : Dict Nat) : Dict Nat :=
  match taskIdToPid.items.find? fun item => item.2 = pid with
  | some (taskId, _) => taskIdToPid.pop taskId
  | none => taskIdToPid

def unreaped (children : List Child) : List Nat :=
  (List.range children.length).filter fun pid =>
    (children[pid]?.map fun child => !child.reaped).getD false

/-- `os.wait`: a child that has exited, or else the next one to exit. -/
def osWait (order : List Nat) (children : List Child) : Option Nat :=
  let exited := (unreaped children).filter fun pid =>
    (children[pid]?.map fun child => !child.live).getD false
  let candidates := if exited = [] then unreaped children else exited
  (order.find? fun pid => pid ∈ candidates).or candidates.head?

def waitChildProcess (answers : WaitAnswers) (state : DaemonState) : DaemonState :=
  let cleaned := cleanupPids answers.errors state
  if cleaned.tasks = 0 ∨ cleaned.tasks < state.tasks then cleaned
  else
    match osWait answers.order cleaned.children with
    | some pid =>
        { taskIdToPid := removePid pid cleaned.taskIdToPid
          children := cleaned.children.modify pid Child.reap }
    | none => { cleaned with taskIdToPid := .empty }

/-- `while len(self.task_id_to_pid) >= limit: self._wait_child_process()`, for so many rounds. -/
def waitWhile (answers : Nat → WaitAnswers) (limit : Int) : Nat → DaemonState → DaemonState
  | 0, state => state
  | rounds + 1, state =>
      if limit ≤ state.tasks then
        waitWhile answers limit rounds (waitChildProcess (answers rounds) state)
      else state

/-- No more rounds are needed, as each of them forgets a task or reaps a child. -/
def waitRounds (state : DaemonState) : Nat := state.tasks + (unreaped state.children).length

/-! ## Commands -/

def daemonFailure (message : Text) : HandlerResult := .returns ⟨false, message, false, none⟩

/-- A task is forked once there is room in the pool. -/
def execute (poolSize : Int) (answers : DaemonAnswers) (state : DaemonState) :
    Option (HandlerResult × DaemonState) :=
  let waited := waitWhile answers.wait poolSize (waitRounds state) state
  if poolSize ≤ waited.tasks then none
  else if answers.forkFails then some (.raises, waited)
  else
    let forked := { taskIdToPid := waited.taskIdToPid.set answers.uuid waited.children.length
                    children := waited.children ++ [{}] }
    if answers.closeFails then some (.raises, forked)
    else some (.returns ⟨true, "OK", true, some answers.uuid⟩, forked)

def cancelTask (answers : DaemonAnswers) (state : DaemonState) (taskId : Text) :
    HandlerResult × DaemonState :=
  match state.taskIdToPid.get? taskId with
  | none => (daemonFailure ("Task id ".toList ++ taskId ++ " is not found".toList), state)
  | some pid =>
      if answers.killFails || (state.children[pid]?.map Child.reaped).getD true then
        (daemonFailure ("Failed to cancel task ".toList ++ taskId), state)
      else
        (.returns ⟨true, "Cancelled task ".toList ++ taskId, false, none⟩,
          { taskIdToPid := removePid pid state.taskIdToPid
            children := state.children.modify pid Child.exit })

def cancel (answers : DaemonAnswers) (taskId : Json) (state : DaemonState) :
    HandlerResult × DaemonState :=
  match taskId with
  -- not hashable
  | .arr _ | .obj _ => (.raises, state)
  | .str taskId => cancelTask answers state taskId
  | taskId => (daemonFailure ("Task id ".toList ++ answers.str taskId ++ " is not found".toList), state)

def handleDaemon (poolSize : Int) (dtg : SBusDatagram) (method : Text) (answers : DaemonAnswers)
    (state : DaemonState) : Option (HandlerResult × DaemonState) :=
  if method = "execute".toList then execute poolSize answers state
  else if method = "cancel".toList then some (cancel answers dtg.taskId state)
  else if method = "halt".toList then some (.returns ⟨true, "OK", false, none⟩, state)
  else some (.returns ⟨true, "OK", true, none⟩, state)

/-- `_terminate` of the daemon is `_wait_all_child_processes`. -/
def daemonKind (poolSize : Int) : ServerKind DaemonState DaemonAnswers (Nat → WaitAnswers) where
  server := StorletDaemon
  handle dtg method answers state := handleDaemon poolSize dtg method answers state
  terminate answers state :=
    let waited := waitWhile answers 1 (waitRounds state) state
    (waited.tasks < 1, waited)
  processExits pid state := { state with children := state.children.modify pid Child.exit }

/-! ## Waiting comes to an end -/

section Waiting

theorem tasks_pop_le (dict : Dict Nat) (taskId : Text) :
    (dict.pop taskId).items.length ≤ dict.items.length :=
  List.length_filter_le _ _

theorem tasks_foldl_pop_le (terminated : List Text) (dict : Dict Nat) :
    (terminated.foldl PyDict.pop dict).items.length ≤ dict.items.length := by
  induction terminated generalizing dict with
  | nil => exact Nat.le_refl _
  | cons taskId rest ih => exact Nat.le_trans (ih _) (tasks_pop_le dict taskId)

theorem tasks_removePid_le (pid : Nat) (dict : Dict Nat) :
    (removePid pid dict).items.length ≤ dict.items.length := by
  unfold removePid
  split
  · exact tasks_pop_le dict _
  · exact Nat.le_refl _

/-- The children at most lose life and get reaped. -/
structure Ages (before after : List Child) : Prop where
  count : after.length = before.length
  dies : ∀ (pid : Nat) (child : Child), after[pid]? = some child →
    ∃ older : Child, before[pid]? = some older ∧ (child.live → older.live) ∧
      (older.reaped → child.reaped)

theorem Ages.refl (children : List Child) : Ages children children :=
  ⟨rfl, fun _ child found => ⟨child, found, id, id⟩⟩

theorem Ages.trans {first middle last : List Child} (early : Ages first middle)
    (late : Ages middle last) : Ages first last := by
  constructor
  · exact late.count.trans early.count
  · intro pid child found
    obtain ⟨older, there, live, reaped⟩ := late.dies pid child found
    obtain ⟨oldest, first, lived, done⟩ := early.dies pid older there
    exact ⟨oldest, first, lived ∘ live, reaped ∘ done⟩

theorem ages_modify (children : List Child) (pid : Nat) {change : Child → Child}
    (live : ∀ child, (change child).live → child.live)
    (reaped : ∀ child, child.reaped → (change child).reaped) :
    Ages children (children.modify pid change) := by
  constructor
  · simp
  · intro other child found
    by_cases same : pid = other
    · subst same
      obtain ⟨older, there, changed⟩ : ∃ older, children[pid]? = some older ∧ change older = child := by
        simpa using found
      exact ⟨older, there, changed ▸ live older, changed ▸ reaped older⟩
    · rw [List.getElem?_modify_ne _ _ same] at found
      exact ⟨child, found, id, id⟩

theorem waitTask_ages (error : Option Errno) (children : List Child) (pid : Nat) :
    Ages children (waitTask error children pid).2 := by
  have reaps : Ages children (children.modify pid Child.reap) :=
    ages_modify children pid (fun _ impossible => nomatch impossible) (fun _ _ => rfl)
  unfold waitTask
  split
  · exact .refl _
  · exact .refl _
  · exact .refl _
  · exact .refl _
  · split
    · split_ifs
      · exact .refl _
      · exact reaps
    · exact .refl _

theorem cleanupPids_ages (errors : Nat → Option Errno) (state : DaemonState) :
    Ages state.children (cleanupPids errors state).children := by
  have loop (items : List (Text × Nat)) (terminated : List Text) (children : List Child) :
      Ages children (items.foldl (fun (terminated, children) (taskId, daemonPid) =>
        let (ended, children) := waitTask (errors daemonPid) children daemonPid
        (if ended then terminated ++ [taskId] else terminated, children))
          (terminated, children)).2 := by
    induction items generalizing terminated children with
    | nil => exact .refl _
    | cons item rest ih => exact (waitTask_ages _ _ _).trans (ih _ _)
  exact loop _ _ _

theorem waitChildProcess_ages (answers : WaitAnswers) (state : DaemonState) :
    Ages state.children (waitChildProcess answers state).children := by
  have cleaned := cleanupPids_ages answers.errors state
  unfold waitChildProcess
  dsimp only
  split_ifs
  · exact cleaned
  · split
    · next pid _ =>
      refine cleaned.trans (ages_modify _ pid ?_ ?_)
      · exact fun _ impossible => nomatch impossible
      · exact fun _ _ => rfl
    · exact cleaned

theorem waitWhile_ages (answers : Nat → WaitAnswers) (limit : Int) (rounds : Nat)
    (state : DaemonState) :
    Ages state.children (waitWhile answers limit rounds state).children := by
  induction rounds generalizing state with
  | zero => exact .refl _
  | succ rounds ih =>
    unfold waitWhile
    split_ifs
    · exact (waitChildProcess_ages _ _).trans (ih _)
    · exact .refl _

theorem mem_unreaped {children : List Child} {pid : Nat} :
    pid ∈ unreaped children ↔ ∃ child, children[pid]? = some child ∧ child.reaped = false := by
  unfold unreaped
  rw [List.mem_filter, List.mem_range]
  cases found : children[pid]? with
  | none => simp
  | some child =>
    have inside := (List.getElem?_eq_some_iff.mp found).1
    simp [inside]

theorem Ages.unreaped_le {before after : List Child} (ages : Ages before after) :
    (unreaped after).length ≤ (unreaped before).length := by
  have subset : unreaped after ⊆ unreaped before := by
    intro pid inside
    obtain ⟨child, found, waits⟩ := mem_unreaped.mp inside
    obtain ⟨older, there, _, reaped⟩ := ages.dies pid child found
    apply mem_unreaped.mpr
    refine ⟨older, there, ?_⟩
    by_contra done
    rw [reaped (by simpa using done)] at waits
    cases waits
  have distinct : (unreaped after).Nodup := List.nodup_range.filter _
  exact (distinct.subperm subset).length_le

theorem unreaped_reap_lt {children : List Child} {pid : Nat} (inside : pid ∈ unreaped children) :
    (unreaped (children.modify pid Child.reap)).length < (unreaped children).length := by
  have others : unreaped (children.modify pid Child.reap) ⊆ (unreaped children).erase pid := by
    intro other there
    obtain ⟨child, found, waits⟩ := mem_unreaped.mp there
    have differs : pid ≠ other := by
      rintro rfl
      obtain ⟨older, _, reaped⟩ : ∃ older, children[pid]? = some older ∧ older.reap = child := by
        simpa using found
      rw [← reaped] at waits
      cases waits
    rw [List.getElem?_modify_ne _ _ differs] at found
    exact (List.mem_erase_of_ne differs.symm).mpr (mem_unreaped.mpr ⟨child, found, waits⟩)
  have distinct : (unreaped (children.modify pid Child.reap)).Nodup := List.nodup_range.filter _
  have bound := (distinct.subperm others).length_le
  have positive := List.length_pos_of_mem inside
  rw [List.length_erase_of_mem inside] at bound
  omega

theorem osWait_unreaped {order : List Nat} {children : List Child} {pid : Nat}
    (waited : osWait order children = some pid) : pid ∈ unreaped children := by
  unfold osWait at waited
  have listed : pid ∈ (if ((unreaped children).filter fun pid =>
      (children[pid]?.map fun child => !child.live).getD false) = [] then unreaped children
        else (unreaped children).filter fun pid =>
          (children[pid]?.map fun child => !child.live).getD false) := by
    rcases Option.or_eq_some_iff.mp waited with preferred | ⟨_, first⟩
    · simpa using List.find?_some preferred
    · exact List.mem_of_head? first
  split_ifs at listed
  · exact listed
  · exact (List.mem_filter.mp listed).1

/-- Each round of waiting forgets a task or reaps a child. -/
theorem waitRounds_lt (answers : WaitAnswers) {state : DaemonState} (busy : 0 < state.tasks) :
    waitRounds (waitChildProcess answers state) < waitRounds state := by
  have fewer : (cleanupPids answers.errors state).tasks ≤ state.tasks := tasks_foldl_pop_le _ _
  have aged := (cleanupPids_ages answers.errors state).unreaped_le
  unfold waitChildProcess
  dsimp only
  split_ifs with done
  · unfold waitRounds
    omega
  · split
    · next pid waited =>
      have reaped := unreaped_reap_lt (osWait_unreaped waited)
      have kept := tasks_removePid_le pid (cleanupPids answers.errors state).taskIdToPid
      simp only [waitRounds, DaemonState.tasks] at *
      omega
    · simp only [waitRounds]
      change 0 + _ < _
      omega

/-- The rounds suffice, unless the pool has no slots. -/
theorem waitWhile_ends (answers : Nat → WaitAnswers) {limit : Int} (positive : 0 < limit)
    {rounds : Nat} {state : DaemonState} (enough : waitRounds state ≤ rounds) :
    (waitWhile answers limit rounds state).tasks < limit := by
  induction rounds generalizing state with
  | zero =>
    unfold waitRounds at enough
    change (state.tasks : Int) < limit
    omega
  | succ rounds ih =>
    unfold waitWhile
    split_ifs with full
    · apply ih
      have busy : 0 < state.tasks := by omega
      have fewer := waitRounds_lt (answers rounds) busy
      omega
    · omega

end Waiting

end Storlets.Sbus
