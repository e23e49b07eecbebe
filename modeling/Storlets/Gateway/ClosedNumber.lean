import Storlets.Gateway.Lines

set_option autoImplicit false

/-!
# The number of a closed iterator

Once the iterator has closed its descriptor, the number may name a file of another request.
-/

namespace Storlets

open Runs

inductive SystemCall where
  | poll
  | read
  | close
  deriving DecidableEq

/-- A system call with the number, and whether the iterator was closed. -/
structure NumberUse where
  call : SystemCall
  closed : Bool
  deriving DecidableEq

/-- What the system does as the number is polled. -/
structure Moment where
  pollRaises : Bool
  polled : Bool
  osRead : OsRead
  cancelRaises : Bool

inductive Access where
  | next (size : Int)
  | read (size : Int)
  | readline (size : Int)
  | readlines (sizehint : Int)
  | close
  | del

/-- A call, and the turns of its loop after which its caller gives it up. -/
structure Visit where
  access : Access
  fuel : Nat

namespace Reading

section Uses

variable (moments : Nat → Moment)

/-- The number as it is polled, read and closed. -/
def pollUses (moment : Moment) (closed closes : Bool) : List NumberUse :=
  ⟨.poll, closed⟩ :: (if moment.polled then [⟨.read, closed⟩] else []) ++
    (if closes && !closed then [⟨.close, closed⟩] else [])

/-- `next` does not look at `closed`: only the guard in `close` does. -/
def nextUses (size : Int) (reading : Reading) : List NumberUse × IterOutcome × Reading :=
  let moment := moments reading.turns
  let closed := reading.iter.closed
  let (outcome, after) := { reading.iter with closed := false }.next
    { method := .next, size, polled := moment.polled, osRead := moment.osRead
      cancelRaises := moment.cancelRaises }
  if reading.iter.buf.length < size then
    if moment.pollRaises then
      ([⟨.poll, closed⟩], .osError, { reading with turns := reading.turns + 1 })
    else
      (pollUses moment closed after.closed, outcome,
        ⟨{ after with closed := closed || after.closed }, reading.turns + 1⟩)
  else ([], outcome, ⟨{ after with closed }, reading.turns + 1⟩)

def readUses (size : Int) (reading : Reading) : List NumberUse × IterOutcome × Reading :=
  if reading.iter.closed then ([], .valueError, reading) else reading.nextUses moments size

/-- The loop of `readline`, with no result where it is given up. -/
def fillUses (size : Int) :
    Nat → Reading → List NumberUse × Option (Except IterOutcome Unit) × Reading
  | 0, reading => ([], none, reading)
  | fuel + 1, reading =>
      if Wants size reading.iter.buf then
        match reading.readUses moments (readSize size reading.iter.buf) with
        | (uses, .data chunk, reading) =>
            if chunk = [] then (uses, some (.ok ()), reading)
            else
              let (later, result, reading) :=
                fillUses size fuel (reading.withBuf (reading.iter.buf ++ chunk))
              (uses ++ later, result, reading)
        | (uses, raised, reading) => (uses, some (.error raised), reading)
      else ([], some (.ok ()), reading)

def readlineUses (size : Int) (fuel : Nat) (reading : Reading) :
    List NumberUse × Option (Except IterOutcome (List UInt8)) × Reading :=
  if reading.iter.closed then ([], some (.error .valueError), reading)
  else match fillUses moments size fuel reading with
    | (uses, none, reading) => (uses, none, reading)
    | (uses, some (.error raised), reading) => (uses, some (.error raised), reading)
    | (uses, some (.ok _), reading) =>
        let (line, left) := takeLine size reading.iter.buf
        (uses, some (.ok line), reading.withBuf left)

/-- The loop of `readlines`, of which only the uses and the iterator matter. -/
def collectUses : Nat → Int → Reading → List NumberUse × Reading
  | 0, _, reading => ([], reading)
  | fuel + 1, sizehint, reading =>
      match reading.readlineUses moments sizehint fuel with
      | (uses, some (.ok line), reading) =>
          if line = [] ∨ (0 ≤ sizehint ∧ spend sizehint line ≤ 0) then (uses, reading)
          else
            let (later, reading) := collectUses fuel (spend sizehint line) reading
            (uses ++ later, reading)
      | (uses, _, reading) => (uses, reading)

def readlinesUses (sizehint : Int) (fuel : Nat) (reading : Reading) : List NumberUse × Reading :=
  if reading.iter.closed then ([], reading) else reading.collectUses moments fuel sizehint

def closeUses (reading : Reading) : List NumberUse × Reading :=
  if reading.iter.closed then ([], reading)
  else ([⟨.close, false⟩], { reading with iter := reading.iter.close })

def visitUses (reading : Reading) (visit : Visit) : List NumberUse × Reading :=
  match visit.access with
  | .next size => let (uses, _, after) := reading.nextUses moments size; (uses, after)
  | .read size => let (uses, _, after) := reading.readUses moments size; (uses, after)
  | .readline size =>
      let (uses, _, after) := reading.readlineUses moments size visit.fuel; (uses, after)
  | .readlines sizehint => reading.readlinesUses moments sizehint visit.fuel
  | .close | .del => reading.closeUses

def visit (reading : Reading) (visit : Visit) : Reading := (reading.visitUses moments visit).2

/-- The call leaves the number of a closed iterator alone. -/
def LeavesNumber (reading : Reading) (visit : Visit) : Prop :=
  ∀ use ∈ (reading.visitUses moments visit).1, use.closed = false

end Uses

/-- The call is not a `next` that lacks bytes on a closed iterator. -/
def Held (reading : Reading) (visit : Visit) : Prop :=
  ∀ size, visit.access = .next size → reading.iter.closed → size ≤ reading.iter.buf.length

section Proofs

variable {moments : Nat → Moment} {reading : Reading}

theorem pollUses_closed {moment : Moment} {closed closes : Bool} :
    ∀ use ∈ pollUses moment closed closes, use.closed = closed := by
  intro use inside
  rcases List.mem_append.mp inside with first | last
  · rcases List.mem_cons.mp first with rfl | read
    · rfl
    · split at read
      · rw [List.mem_singleton.mp read]
      · cases read
  · split at last
    · rw [List.mem_singleton.mp last]
    · cases last

theorem nextUses_closed (size : Int) :
    ∀ use ∈ (reading.nextUses moments size).1, use.closed = reading.iter.closed := by
  intro use inside
  unfold nextUses at inside
  dsimp only at inside
  split at inside
  · split at inside
    · rw [List.mem_singleton.mp inside]
    · exact pollUses_closed use inside
  · cases inside

theorem nextUses_short {size : Int} (short : reading.iter.buf.length < size) :
    ⟨.poll, reading.iter.closed⟩ ∈ (reading.nextUses moments size).1 := by
  unfold nextUses
  dsimp only
  rw [if_pos short]
  by_cases raises : (moments reading.turns).pollRaises = true
  · rw [if_pos raises]
    exact List.mem_singleton.mpr rfl
  · rw [if_neg raises]
    exact List.mem_append_left _ (List.mem_cons_self ..)

/-- On an open iterator this is `next` as `Iterator` has it. -/
theorem nextUses_open (size : Int) (isOpen : reading.iter.closed = false)
    (calm : (moments reading.turns).pollRaises = false) :
    ((reading.nextUses moments size).2.1, (reading.nextUses moments size).2.2.iter) =
      reading.iter.next
        { method := .next, size, polled := (moments reading.turns).polled
          osRead := (moments reading.turns).osRead
          cancelRaises := (moments reading.turns).cancelRaises } := by
  have same : { reading.iter with closed := false } = reading.iter := by rw [← isOpen]
  unfold nextUses
  dsimp only
  rw [same, isOpen, calm]
  by_cases short : (reading.iter.buf.length : Int) < size
  · rw [if_pos short, if_neg Bool.false_ne_true]
    rfl
  · rw [if_neg short, FileDescriptorIterator.next, if_neg short]
    refine Prod.ext rfl ?_
    change { (reading.iter.deliver size).2 with closed := false } = (reading.iter.deliver size).2
    rw [← isOpen]
    rfl

theorem nextUses_filled {size : Int} (filled : size ≤ reading.iter.buf.length) :
    (reading.nextUses moments size).1 = [] := by
  unfold nextUses
  dsimp only
  rw [if_neg (Int.not_lt.mpr filled)]

theorem readUses_open (size : Int) :
    ∀ use ∈ (reading.readUses moments size).1, use.closed = false := by
  intro use inside
  unfold readUses at inside
  split at inside
  · cases inside
  · next isOpen =>
    rw [nextUses_closed size use inside]
    exact Bool.eq_false_iff.mpr isOpen

theorem fillUses_open (size : Int) (fuel : Nat) :
    ∀ use ∈ (reading.fillUses moments size fuel).1, use.closed = false := by
  induction fuel generalizing reading with
  | zero => exact fun use inside => nomatch inside
  | succ fuel ih =>
    intro use inside
    rw [fillUses] at inside
    split at inside
    · have early := @readUses_open moments reading
        (readSize size reading.iter.buf)
      rcases performed : reading.readUses moments (readSize size reading.iter.buf)
        with ⟨uses, outcome, next⟩
      rw [performed] at inside early
      cases outcome with
      | data chunk =>
        dsimp only at inside
        split at inside
        · exact early use inside
        · rcases List.mem_append.mp inside with first | later
          · exact early use first
          · exact ih use later
      | _ => exact early use inside
    · cases inside

theorem readlineUses_open (size : Int) (fuel : Nat) :
    ∀ use ∈ (reading.readlineUses moments size fuel).1, use.closed = false := by
  intro use inside
  have filling := @fillUses_open moments reading size fuel
  unfold readlineUses at inside
  split at inside
  · cases inside
  · rcases filled : reading.fillUses moments size fuel with ⟨uses, _ | _ | _, next⟩ <;>
      rw [filled] at inside filling <;> exact filling use inside

theorem collectUses_open (sizehint : Int) (fuel : Nat) :
    ∀ use ∈ (reading.collectUses moments fuel sizehint).1, use.closed = false := by
  induction fuel generalizing reading sizehint with
  | zero => exact fun use inside => nomatch inside
  | succ fuel ih =>
    intro use inside
    have early := @readlineUses_open moments reading sizehint fuel
    rw [collectUses] at inside
    rcases read : reading.readlineUses moments sizehint fuel with ⟨uses, result, next⟩
    rw [read] at inside early
    rcases result with _ | _ | line
    · exact early use inside
    · exact early use inside
    · dsimp only at inside
      split at inside
      · exact early use inside
      · rcases List.mem_append.mp inside with first | later
        · exact early use first
        · exact ih _ use later

/-- Every call but `next` looks at `closed` before it uses the number. -/
theorem leavesNumber_iff (visit : Visit) :
    reading.LeavesNumber moments visit ↔ reading.Held visit := by
  obtain ⟨access, fuel⟩ := visit
  cases access with
  | next size =>
    constructor
    · intro leaves other same closed
      obtain rfl := Access.next.inj same
      by_contra short
      have polled := leaves _ (nextUses_short (Int.not_le.mp short))
      exact Bool.false_ne_true (polled.symm.trans closed)
    · intro held use inside
      cases closed : reading.iter.closed with
      | false => exact (nextUses_closed size use inside).trans closed
      | true =>
        change use ∈ (reading.nextUses moments size).1 at inside
        rw [nextUses_filled (held size rfl closed)] at inside
        cases inside
  | read size => exact iff_of_true (readUses_open size) fun _ same => nomatch same
  | readline size => exact iff_of_true (readlineUses_open size fuel) fun _ same => nomatch same
  | readlines sizehint =>
    refine iff_of_true (fun use inside => ?_) fun _ same => nomatch same
    change use ∈ (reading.readlinesUses moments sizehint fuel).1 at inside
    unfold readlinesUses at inside
    split at inside
    · cases inside
    · exact collectUses_open sizehint fuel use inside
  | _ =>
    refine iff_of_true (fun use inside => ?_) fun _ same => nomatch same
    change use ∈ reading.closeUses.1 at inside
    unfold closeUses at inside
    split at inside
    · cases inside
    · rw [List.mem_singleton.mp inside]

end Proofs

/-- A run leaves the number of the iterator alone, once that is closed, if and only if no `next`
of the run lacks bytes on the closed iterator. -/
theorem closed_number_alone_iff (moments : Nat → Moment) (reading : Reading)
    (visits : List Visit) :
    Along (visit moments) (LeavesNumber moments) reading visits ↔
      Along (visit moments) Held reading visits := by
  apply along_iff
  · exact fun _ _ (always : True) _ => always
  · exact fun _ visit _ => leavesNumber_iff visit
  · trivial

/-- The poll comes back empty, and the caller goes on iterating. -/
theorem closed_number_polled : ¬ ∀ (moments : Nat → Moment) (hasCancelFunc : Bool)
    (visits : List Visit),
    Along (visit moments) (LeavesNumber moments) (start hasCancelFunc) visits := by
  intro always
  obtain ⟨-, leaves, -⟩ := always (fun _ => ⟨false, false, .stalls, false⟩) true
    [⟨.next 65536, 0⟩, ⟨.next 65536, 0⟩]
  revert leaves
  unfold LeavesNumber
  decide

end Reading

end Storlets
