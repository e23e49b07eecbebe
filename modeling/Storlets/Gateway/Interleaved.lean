import Storlets.Gateway.GreenOwnership
import Storlets.Library.Runs

set_option autoImplicit false

/-!
# Invocations in one process

Any number of invocations and their writers share the descriptor table, next to other code.
-/

namespace Storlets

open PyStr Effect Descriptors

namespace Green

/-- A green thread of an invocation, or of one of its writers. -/
structure Party where
  thread : CallThread Unit
  protocol : Protocol

structure Process where
  table : Table Owner
  /-- The closed descriptors that belonged to somebody else. -/
  strays : List Nat := []
  parties : List Party := []

inductive Turn where
  | begin (hasFd : Bool) (extra : Nat) (answers : CallAnswers)
  /-- The next piece of a green thread. A writer that is spawned in it ends so. -/
  | goOn (index : Nat) (ending : WriterEnding)
  /-- The iterator over the result is closed. -/
  | release (index : Nat)
  | otherOpens
  | otherCloses (fd : Nat)

/-- No invocation fails once it has read its metadata, and no writer while it writes. -/
def Turn.Calm : Turn → Prop
  | .begin _ _ answers => answers.EndsWell
  | .goOn _ ending => ending ≠ .raises
  | _ => True

namespace Process

def view (process : Process) (party : Party) : CallState :=
  { table := process.table, protocol := party.protocol, strays := process.strays }

def start (process : Process) (hasFd : Bool) (extra : Nat) (answers : CallAnswers) : Process :=
  { process with
    parties := process.parties ++
      [{ thread := communicate (.call process.parties.length) giveAway answers
         protocol := { hasFd, extra } }] }

/-- `eventlet.spawn_n`; the writer owns the descriptor it is given. -/
def spawn (ending : WriterEnding) (process : Process) (fd : Nat) : Process :=
  { process with
    table := process.table.set fd (.call process.parties.length)
    parties := process.parties ++
      [{ thread := writeInputData (.call process.parties.length) fd ending
         protocol := { hasFd := true, extra := 0 } }] }

def goOn (process : Process) (index : Nat) (ending : WriterEnding) : Process :=
  match process.parties[index]? with
  | none => process
  | some party =>
      match party.thread with
      | .ends _ => process
      | .piece _ move next =>
          let moved := move (process.view party)
          let handed := moved.protocol.writers.drop party.protocol.writers.length
          handed.foldl (spawn ending)
            { table := moved.table
              strays := moved.strays
              parties := process.parties.set index
                { thread := next (process.view party), protocol := moved.protocol } }

def release (process : Process) (index : Nat) : Process :=
  match process.parties[index]? with
  | some { thread := .ends (.ok _), protocol } =>
      match protocol.dataReadFd with
      | some fd =>
          -- it is closed once
          if process.table.get? fd = some (.call index) then
            { process with table := process.table.pop fd }
          else process
      | none => process
  | _ => process

def step (process : Process) : Turn → Process
  | .begin hasFd extra answers => process.start hasFd extra answers
  | .goOn index ending => process.goOn index ending
  | .release index => process.release index
  | .otherOpens => { process with table := (install .other process.table).2 }
  | .otherCloses fd =>
      if process.table.get? fd = some .other then { process with table := process.table.pop fd }
      else process

/-- The thread whose turn it is closes a number again that somebody else has got since. -/
def ClosesTaken (process : Process) : Turn → Prop
  | .goOn index _ =>
      match process.parties[index]? with
      | some party =>
          match party.thread with
          | .piece label _ _ => Green.ClosesTaken (.call index) label (process.view party)
          | .ends _ => False
      | none => False
  | _ => False

/-- Every thread keeps to its contract from here on. -/
def Keeping (strict : Bool) (process : Process) : Prop :=
  ∀ (index : Nat) (party : Party), process.parties[index]? = some party →
    party.thread.Honours (terms strict (.call index)) (fun _ _ => True) (fun _ => True)
      (process.view party)

section Steps

variable {strict : Bool} {process : Process}

/-- A change that leaves every thread its descriptors. -/
theorem Keeping.of_table (keeping : Keeping strict process) {table : Table Owner}
    {strays : List Nat} (others : ∀ fd index, process.table.get? fd = some (.call index) →
      table.get? fd = some (.call index)) :
    Keeping strict { process with table, strays } := by
  intro index party listed
  exact (keeping index party listed).later ⟨rfl, fun fd => others fd index⟩

theorem Keeping.append (keeping : Keeping strict process) {party : Party}
    (honours : party.thread.Honours (terms strict (.call process.parties.length)) (fun _ _ => True)
      (fun _ => True) (process.view party)) :
    Keeping strict { process with parties := process.parties ++ [party] } := by
  intro index other listed
  rw [List.getElem?_append] at listed
  split at listed
  · exact keeping index other listed
  · have last : index = process.parties.length := by
      have inside := (List.getElem?_eq_some_iff.mp listed).1
      rw [List.length_singleton] at inside
      omega
    subst last
    simp only [Nat.sub_self, List.getElem?_cons_zero, Option.some.injEq] at listed
    subst listed
    exact honours

theorem spawn_keeps (keeping : Keeping strict process) {fd : Nat}
    (given : process.table.get? fd = some .other) {ending : WriterEnding}
    (well : strict = true → ending ≠ .raises) : Keeping strict (process.spawn ending fd) := by
  let table := process.table.set fd (.call process.parties.length)
  have moved : Keeping strict { process with table } := by
    apply keeping.of_table
    intro other index owned
    change (process.table.set fd _).get? other = _
    rw [PyDict.get?_set, if_neg]
    · exact owned
    · rintro rfl
      rw [given] at owned
      cases owned
  apply moved.append
  apply writeInputData_meets well
  constructor
  · exact List.nodup_singleton fd
  · intro other inside
    rw [List.mem_singleton.mp inside]
    change (process.table.set fd _).get? fd = _
    rw [PyDict.get?_set, if_pos rfl]

theorem release_keeps (keeping : Keeping strict process) (index : Nat) :
    Keeping strict (process.release index) := by
  unfold release
  split
  · next value protocol listed =>
    split
    · next fd given =>
      split
      · next owned =>
        intro other party there
        by_cases same : other = index
        · -- the thread has ended
          subst same
          simp only at there
          rw [listed] at there
          cases there
          trivial
        · refine (keeping other party there).later ⟨rfl, ?_⟩
          intro number mine
          change (process.table.pop fd).get? number = some (.call other)
          rw [PyDict.get?_pop, if_neg]
          · exact mine
          · rintro rfl
            have both := owned.symm.trans mine
            cases both
            exact same rfl
      · exact keeping
    · exact keeping
  · exact keeping

/-- Where a piece may run, every thread keeps to its contract after it. -/
theorem goOn_keeps (keeping : Keeping strict process) (index : Nat) {ending : WriterEnding}
    (well : strict = true → ending ≠ .raises)
    (allowed : strict = false → ¬ process.ClosesTaken (.goOn index ending)) :
    Keeping strict (process.goOn index ending) ∧
      (process.goOn index ending).strays = process.strays := by
  cases listed : process.parties[index]? with
  | none =>
    have same : process.goOn index ending = process := by simp [goOn, listed]
    rw [same]
    exact ⟨keeping, rfl⟩
  | some party =>
  have honours := keeping index party listed
  cases going : party.thread with
  | ends outcome =>
    have same : process.goOn index ending = process := by simp [goOn, listed, going]
    rw [same]
    exact ⟨keeping, rfl⟩
  | piece label move next =>
    rw [going] at honours
    obtain ⟨wellDone, _⟩ := honours _ ⟨rfl, fun _ => id⟩
    have may : (terms strict (.call index)).allowed label (process.view party) := by
      intro loose
      simpa [ClosesTaken, listed, going] using allowed loose
    obtain ⟨⟨frame, handed⟩, rest⟩ := wellDone may
    let moved := move (process.view party)
    let reached : Process :=
      { table := moved.table
        strays := moved.strays
        parties := process.parties.set index
          { thread := next (process.view party), protocol := moved.protocol } }
    have ends : process.goOn index ending =
        (moved.protocol.writers.drop party.protocol.writers.length).foldl (spawn ending) reached := by
      simp only [goOn, listed, going]
      rfl
    have reachedKeeps : Keeping strict reached := by
      intro other party' listed'
      by_cases same : other = index
      · subst same
        have inside := (List.getElem?_eq_some_iff.mp listed).1
        have updated : reached.parties[other]? =
            some { thread := next (process.view party), protocol := moved.protocol } :=
          List.getElem?_set_self inside
        rw [updated] at listed'
        cases listed'
        exact rest
      · have old : reached.parties[other]? = process.parties[other]? :=
          List.getElem?_set_ne (Ne.symm same)
        rw [old] at listed'
        refine (keeping other party' listed').later ⟨rfl, fun fd mine => ?_⟩
        apply frame.others fd (.call other) _ mine
        intro bad
        cases bad
        exact same rfl
    rw [ends]
    cases handed with
    | nothing writers =>
      have none : moved.protocol.writers.drop party.protocol.writers.length = [] := by
        rw [writers]
        exact List.drop_length
      rw [none]
      exact ⟨reachedKeeps, frame.strays⟩
    | writer fd writers given =>
      have one : moved.protocol.writers.drop party.protocol.writers.length = [fd] := by
        rw [writers]
        exact List.drop_left
      rw [one]
      exact ⟨spawn_keeps reachedKeeps given well, frame.strays⟩

theorem foldl_spawn_strays (ending : WriterEnding) (fds : List Nat) (process : Process) :
    (fds.foldl (spawn ending) process).strays = process.strays := by
  induction fds generalizing process with
  | nil => rfl
  | cons fd rest ih => exact ih (process.spawn ending fd)

/-- Closing a number again that is taken closes what is somebody else's. -/
theorem taken_strays (keeping : Keeping false process) {turn : Turn}
    (taken : process.ClosesTaken turn) : (process.step turn).strays ≠ process.strays := by
  cases turn with
  | goOn index ending =>
    simp only [ClosesTaken] at taken
    split at taken
    · next party listed =>
      split at taken
      · next label move next going =>
        have honours := keeping index party listed
        rw [going] at honours
        have harm := (honours _ ⟨rfl, fun _ => id⟩).2 fun allowed => allowed rfl taken
        simp only [step, goOn, listed, going, foldl_spawn_strays]
        exact harm
      · exact taken.elim
    · exact taken.elim
  | _ => exact taken.elim

theorem step_keeps (keeping : Keeping strict process) {turn : Turn}
    (well : strict = true → turn.Calm)
    (allowed : strict = false → ¬ process.ClosesTaken turn) :
    Keeping strict (process.step turn) ∧ (process.step turn).strays = process.strays := by
  cases turn with
  | begin hasFd extra answers =>
    exact ⟨keeping.append (communicate_meets well _ rfl), rfl⟩
  | goOn index ending => exact goOn_keeps keeping index well allowed
  | release index =>
    refine ⟨release_keeps keeping index, ?_⟩
    simp only [step, release]
    split
    · split
      · split <;> rfl
      · rfl
    · rfl
  | otherOpens =>
    refine ⟨keeping.of_table fun fd index mine => ?_, rfl⟩
    rw [get?_install, if_neg]
    · exact mine
    · rintro rfl
      rw [show process.table.get? (install .other process.table).1 = none from
        lowestFree_fresh process.table] at mine
      cases mine
  | otherCloses fd =>
    simp only [step]
    split
    · next owned =>
      refine ⟨keeping.of_table fun number index mine => ?_, rfl⟩
      rw [PyDict.get?_pop, if_neg]
      · exact mine
      · rintro rfl
        rw [owned] at mine
        cases mine
    · exact ⟨keeping, rfl⟩

end Steps

/-! ## Runs -/

theorem Keeping.empty (strict : Bool) (table : Table Owner) : Keeping strict { table } := by
  intro index party listed
  simp at listed

/-- Nobody else's descriptor is closed in a run exactly when no thread closes one of its numbers a
second time that has gone to somebody else. -/
theorem closes_own_iff (table : Table Owner) (turns : List Turn) :
    Runs.Along step (fun process turn => (process.step turn).strays = process.strays) { table }
        turns ↔
      Runs.Along step (fun process turn => ¬ process.ClosesTaken turn) { table } turns := by
  have keeps (process : Process) (turn : Turn) (keeping : Keeping false process)
      (allowed : ¬ process.ClosesTaken turn) : Keeping false (process.step turn) :=
    (step_keeps keeping (by simp) fun _ => allowed).1
  have same (process : Process) (turn : Turn) (keeping : Keeping false process) :
      (process.step turn).strays = process.strays ↔ ¬ process.ClosesTaken turn := by
    constructor
    · intro same taken
      exact taken_strays keeping taken same
    · intro allowed
      exact (step_keeps keeping (by simp) fun _ => allowed).2
  exact Runs.along_iff keeps same (Keeping.empty false table) turns

/-- An invocation without data fails when its metadata descriptor has become another's. -/
example :
    let fails : CallAnswers := { smoothAnswers with dataWait := .notReady }
    let turns := .begin true 0 fails :: (List.replicate 10 (.goOn 0 .ends) ++
      List.replicate 3 .otherOpens ++ [.goOn 0 .ends])
    (Runs.after step { table := PyDict.empty } turns).strays = [3] := by decide +kernel

/-- In a calm run no close hits somebody else's descriptor. -/
theorem calm_closes_own (table : Table Owner) {turns : List Turn}
    (calm : ∀ turn ∈ turns, turn.Calm) : (Runs.after step { table } turns).strays = [] := by
  suffices kept : ∀ process : Process, Keeping true process →
      (Runs.after step process turns).strays = process.strays from
    kept { table } (Keeping.empty true table)
  induction turns with
  | nil => exact fun _ _ => rfl
  | cons turn rest ih =>
    obtain ⟨here, later⟩ := List.forall_mem_cons.mp calm
    intro process keeping
    obtain ⟨kept, same⟩ := step_keeps keeping (fun _ => here) (by simp)
    exact (ih later _ kept).trans same

instance : DecidablePred Turn.Calm
  | .begin _ _ answers => inferInstanceAs (Decidable answers.EndsWell)
  | .goOn _ ending => inferInstanceAs (Decidable (ending ≠ .raises))
  | .release _ | .otherOpens | .otherCloses _ => .isTrue trivial

/-- Two invocations and two writers by turns, until both results are closed. -/
def takingTurns : List Turn :=
  [.begin false 1 smoothAnswers, .begin true 0 smoothAnswers, .otherOpens] ++
    (List.replicate 20 [.goOn 0 .ends, .goOn 1 .ends, .goOn 2 .ends, .goOn 3 .ends]).flatten ++
    [.release 0, .release 1]

theorem turns_close_own :
    (Runs.after step { table := PyDict.empty } takingTurns).strays = [] ∧
      (Runs.after step { table := PyDict.empty } takingTurns).table.items = [(0, .other)] :=
  ⟨calm_closes_own PyDict.empty (by decide), by decide +kernel⟩

end Process

end Green

end Storlets
