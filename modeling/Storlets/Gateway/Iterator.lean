import Storlets.Library.Runs

set_option autoImplicit false

/-!
# The output of a storlet

`FileDescriptorIterator` reads a descriptor through two timeouts, that of `select`
and that of `StorletTimeout` around `os.read`.
-/

namespace Storlets

open Runs

/-- What `os.read` does: it returns a chunk, the empty one at the end of the file, it stalls
until `StorletTimeout`, or it raises. -/
inductive OsRead where
  | chunk (bytes : List UInt8)
  | stalls
  | fails

inductive IterMethod where
  | next
  | read

/-- A call, and how the descriptor and the cancel callback behave in it. -/
structure IterCall where
  method : IterMethod
  size : Int
  /-- `select` returns the descriptor before the timeout. -/
  polled : Bool
  osRead : OsRead
  cancelRaises : Bool

inductive IterOutcome where
  | data (bytes : List UInt8)
  | stopIteration
  | storletTimeout
  /-- What the cancel callback raised. -/
  | cancelError
  | valueError
  | osError
  deriving DecidableEq

structure FileDescriptorIterator where
  closed : Bool := false
  buf : List UInt8 := []
  hasCancelFunc : Bool := true
  /-- Every byte `os.read` returned, and every byte the calls returned. -/
  received : List UInt8 := []
  delivered : List UInt8 := []
  /-- `os.read` has returned the end of the file. -/
  sawEnd : Bool := false
  cancels : Nat := 0

namespace FileDescriptorIterator

def close (iter : FileDescriptorIterator) : FileDescriptorIterator :=
  if iter.closed then iter else { iter with closed := true }

def cancelFunc (iter : FileDescriptorIterator) : FileDescriptorIterator :=
  { iter with cancels := iter.cancels + 1 }

def readWithTimeout (iter : FileDescriptorIterator) (call : IterCall) (size : Nat) :
    Except IterOutcome (List UInt8) × FileDescriptorIterator :=
  match call.osRead with
  | .chunk bytes =>
      let chunk := bytes.take size
      (.ok chunk, { iter with
        received := iter.received ++ chunk, sawEnd := iter.sawEnd || chunk.isEmpty })
  | .stalls =>
      if iter.hasCancelFunc then
        if call.cancelRaises then (.error .cancelError, iter.cancelFunc)
        else (.error .storletTimeout, iter.cancelFunc.close)
      else (.error .storletTimeout, iter.close)
  | .fails => (.error .osError, iter.close)

/-- Where `buf[:size]` ends and `buf[size:]` starts. -/
def cut (size : Int) (buf : List UInt8) : Nat :=
  if 0 ≤ size then size.toNat else buf.length - (-size).toNat

def deliver (iter : FileDescriptorIterator) (size : Int) : IterOutcome × FileDescriptorIterator :=
  let count := if size < iter.buf.length then cut size iter.buf else iter.buf.length
  (.data (iter.buf.take count), { iter with
    buf := iter.buf.drop count, delivered := iter.delivered ++ iter.buf.take count })

def next (iter : FileDescriptorIterator) (call : IterCall) : IterOutcome × FileDescriptorIterator :=
  if iter.buf.length < call.size then
    -- select of a closed descriptor
    if iter.closed then (.osError, iter)
    else if call.polled then
      match iter.readWithTimeout call (call.size - iter.buf.length).toNat with
      | (.error outcome, iter) => (outcome, iter)
      | (.ok chunk, iter) =>
          let iter := { iter with buf := iter.buf ++ chunk }
          if iter.buf = [] then (.stopIteration, iter) else iter.deliver call.size
    else (.stopIteration, iter.close)
  else iter.deliver call.size

def read (iter : FileDescriptorIterator) (call : IterCall) : IterOutcome × FileDescriptorIterator :=
  if iter.closed then (.valueError, iter) else iter.next call

def perform (iter : FileDescriptorIterator) (call : IterCall) :
    IterOutcome × FileDescriptorIterator :=
  match call.method with
  | .next => iter.next call
  | .read => iter.read call

def step (iter : FileDescriptorIterator) (call : IterCall) : FileDescriptorIterator :=
  (iter.perform call).2

/-- The call polls the descriptor: it is open and the buffer does not fill the request. -/
def Polls (iter : FileDescriptorIterator) (call : IterCall) : Prop :=
  iter.closed = false ∧ iter.buf.length < call.size

/-- The call meets a stall longer than the timeout. -/
def Stalls (iter : FileDescriptorIterator) (call : IterCall) : Prop :=
  iter.Polls call ∧ (call.polled = false ∨ call.osRead = .stalls)

/-- End of body means end of output, and a stall is a timeout that cancels once and closes. -/
structure EndsRight (iter : FileDescriptorIterator) (call : IterCall) : Prop where
  stop : (iter.perform call).1 = .stopIteration →
    (iter.step call).sawEnd ∧ (iter.step call).delivered = (iter.step call).received
  stall : iter.Stalls call → (iter.perform call).1 = .storletTimeout ∧
    (iter.step call).cancels = (if iter.hasCancelFunc then 1 else 0) ∧
    (iter.step call).closed = true

/-- No poll comes back empty, and no cancel callback raises in a stalled read. -/
def Calm (iter : FileDescriptorIterator) (call : IterCall) : Prop :=
  iter.Polls call → call.polled ∧
    (call.osRead = .stalls → iter.hasCancelFunc → call.cancelRaises = false)

/-- What holds between calls: the bytes read are those delivered and those buffered, and the
callback has not been invoked while the descriptor is open. -/
structure Consistent (iter : FileDescriptorIterator) : Prop where
  bytes : iter.delivered ++ iter.buf = iter.received
  cancels : iter.closed = false → iter.cancels = 0

theorem perform_closed {iter : FileDescriptorIterator} {call : IterCall}
    (closed : iter.closed = true) :
    iter.perform call = (.osError, iter) ∨ iter.perform call = (.valueError, iter) ∨
      iter.perform call = iter.deliver call.size := by
  unfold perform read next
  rw [closed]
  cases call.method with
  | read => exact .inr (.inl rfl)
  | next =>
    by_cases short : (iter.buf.length : Int) < call.size
    · exact .inl (by simp [short])
    · exact .inr (.inr (by simp [short]))

theorem perform_open {iter : FileDescriptorIterator} {call : IterCall}
    (isOpen : iter.closed = false) : iter.perform call = iter.next call := by
  unfold perform read
  rw [isOpen]
  cases call.method <;> rfl

theorem deliver_consistent {iter : FileDescriptorIterator} (consistent : iter.Consistent)
    (size : Int) : (iter.deliver size).2.Consistent := by
  refine ⟨?_, consistent.cancels⟩
  simp only [deliver, List.append_assoc, List.take_append_drop, consistent.bytes]

/-- The iterator once a chunk is in its buffer. -/
def gained (iter : FileDescriptorIterator) (chunk : List UInt8) : FileDescriptorIterator :=
  { iter with
    buf := iter.buf ++ chunk
    received := iter.received ++ chunk
    sawEnd := iter.sawEnd || chunk.isEmpty }

theorem gained_consistent {iter : FileDescriptorIterator} (consistent : iter.Consistent)
    (chunk : List UInt8) : (iter.gained chunk).Consistent := by
  refine ⟨?_, consistent.cancels⟩
  simp only [gained, ← List.append_assoc, consistent.bytes]

section Calls

variable {iter : FileDescriptorIterator} {call : IterCall}

theorem perform_quiet (quiet : ¬ iter.Polls call) :
    iter.perform call = (.osError, iter) ∨ iter.perform call = (.valueError, iter) ∨
      iter.perform call = iter.deliver call.size := by
  cases closed : iter.closed with
  | true => exact perform_closed closed
  | false =>
    have filled : ¬ (iter.buf.length : Int) < call.size := fun short => quiet ⟨closed, short⟩
    rw [perform_open closed, next, if_neg filled]
    exact .inr (.inr rfl)

theorem perform_unpolled (polls : iter.Polls call) (unpolled : call.polled = false) :
    iter.perform call = (.stopIteration, iter.close) := by
  rw [perform_open polls.1, next, if_pos polls.2, polls.1, unpolled]
  rfl

theorem perform_polled (polls : iter.Polls call) (polled : call.polled = true) :
    iter.perform call =
      match iter.readWithTimeout call (call.size - iter.buf.length).toNat with
      | (.error outcome, iter) => (outcome, iter)
      | (.ok chunk, iter) =>
          let iter := { iter with buf := iter.buf ++ chunk }
          if iter.buf = [] then (.stopIteration, iter) else iter.deliver call.size := by
  rw [perform_open polls.1, next, if_pos polls.2, polls.1, polled]
  rfl

theorem perform_chunk (polls : iter.Polls call) (polled : call.polled = true)
    {bytes : List UInt8} (behaves : call.osRead = .chunk bytes) :
    ∃ chunk, iter.perform call =
      if iter.buf ++ chunk = [] then (.stopIteration, iter.gained chunk)
      else (iter.gained chunk).deliver call.size := by
  refine ⟨bytes.take (call.size - iter.buf.length).toNat, ?_⟩
  rw [perform_polled polls polled, readWithTimeout, behaves]
  rfl

theorem perform_stalled (polls : iter.Polls call) (polled : call.polled = true)
    (behaves : call.osRead = .stalls) :
    iter.perform call =
      if iter.hasCancelFunc then
        if call.cancelRaises then (.cancelError, iter.cancelFunc)
        else (.storletTimeout, iter.cancelFunc.close)
      else (.storletTimeout, iter.close) := by
  rw [perform_polled polls polled, readWithTimeout, behaves]
  cases iter.hasCancelFunc <;> cases call.cancelRaises <;> rfl

theorem perform_failed (polls : iter.Polls call) (polled : call.polled = true)
    (behaves : call.osRead = .fails) : iter.perform call = (.osError, iter.close) := by
  rw [perform_polled polls polled, readWithTimeout, behaves]

theorem close_open {iter : FileDescriptorIterator} (isOpen : iter.closed = false) : iter.close = { iter with closed := true } := by
  rw [close, isOpen]
  rfl

theorem close_consistent (consistent : iter.Consistent) (isOpen : iter.closed = false) :
    iter.close.Consistent := by
  rw [close_open isOpen]
  exact ⟨consistent.bytes, fun again => nomatch again⟩

theorem cancelled_consistent (consistent : iter.Consistent) (isOpen : iter.closed = false) :
    iter.cancelFunc.close.Consistent := by
  have closing : iter.cancelFunc.close = { iter.cancelFunc with closed := true } :=
    close_open isOpen
  rw [closing]
  exact ⟨consistent.bytes, fun again => nomatch again⟩

theorem not_stop {outcome : IterOutcome} {after : FileDescriptorIterator}
    (ends : iter.perform call = (outcome, after)) (other : outcome ≠ .stopIteration) :
    (iter.perform call).1 ≠ .stopIteration := by
  rw [ends]
  exact other

theorem not_stalls (polled : call.polled = true) (moves : call.osRead ≠ .stalls) :
    ¬ iter.Stalls call := by
  rintro ⟨-, unpolled | stalls⟩
  · exact Bool.false_ne_true (unpolled.symm.trans polled)
  · exact moves stalls

theorem endsRight_of_quiet (quiet : ¬ iter.Polls call) : iter.EndsRight call := by
  refine ⟨fun stops => ?_, fun stalls => absurd stalls.1 quiet⟩
  rcases perform_quiet quiet with ends | ends | ends <;> rw [ends] at stops <;> cases stops

theorem endsRight_of_chunk (consistent : iter.Consistent) (polls : iter.Polls call)
    (polled : call.polled = true) {bytes : List UInt8} (behaves : call.osRead = .chunk bytes) :
    iter.EndsRight call := by
  obtain ⟨chunk, ends⟩ := perform_chunk polls polled behaves
  refine ⟨fun stops => ?_, fun stalls => absurd stalls (not_stalls polled (by simp [behaves]))⟩
  rw [ends] at stops
  unfold step
  rw [ends]
  split at stops
  · next nothing =>
    obtain ⟨noBuf, rfl⟩ := List.append_eq_nil_iff.mp nothing
    have bytes := (gained_consistent consistent []).bytes
    rw [if_pos nothing]
    refine ⟨Bool.or_true _, ?_⟩
    rwa [show (iter.gained []).buf = [] from nothing, List.append_nil] at bytes
  · cases stops

/-- A stalled read ends right unless the callback raises. -/
theorem endsRight_of_stall (consistent : iter.Consistent) (polls : iter.Polls call)
    (polled : call.polled = true) (behaves : call.osRead = .stalls) :
    iter.EndsRight call ↔ (iter.hasCancelFunc → call.cancelRaises = false) := by
  have isOpen := polls.1
  have zero := consistent.cancels isOpen
  have ends := perform_stalled polls polled behaves
  have closing : iter.cancelFunc.close = { iter.cancelFunc with closed := true } :=
    close_open isOpen
  cases hasCancel : iter.hasCancelFunc with
  | false =>
    rw [hasCancel, close_open isOpen] at ends
    refine iff_of_true ⟨fun stops => absurd stops (not_stop ends nofun), fun _ => ?_⟩
      fun given => nomatch given
    unfold step
    rw [ends, hasCancel]
    exact ⟨rfl, zero, rfl⟩
  | true =>
    rw [hasCancel, closing] at ends
    cases raises : call.cancelRaises with
    | false =>
      rw [raises] at ends
      refine iff_of_true ⟨fun stops => absurd stops (not_stop ends nofun), fun _ => ?_⟩
        fun _ => rfl
      unfold step
      rw [ends, hasCancel]
      refine ⟨rfl, ?_, rfl⟩
      show iter.cancels + 1 = 1
      rw [zero]
    | true =>
      rw [raises] at ends
      refine iff_of_false (fun right => ?_) fun never => nomatch never rfl
      have timeout := (right.stall ⟨polls, .inr behaves⟩).1
      rw [ends] at timeout
      cases timeout

theorem endsRight_iff_calm (consistent : iter.Consistent) :
    iter.EndsRight call ↔ iter.Calm call := by
  by_cases polls : iter.Polls call
  case neg => exact iff_of_true (endsRight_of_quiet polls) fun asked => absurd asked polls
  cases polled : call.polled with
  | false =>
    refine iff_of_false (fun right => ?_) fun calm => ?_
    · have timeout := (right.stall ⟨polls, .inl polled⟩).1
      rw [perform_unpolled polls polled] at timeout
      cases timeout
    · exact Bool.false_ne_true (polled.symm.trans (calm polls).1)
  | true =>
    cases behaves : call.osRead with
    | chunk bytes =>
      refine iff_of_true (endsRight_of_chunk consistent polls polled behaves)
        fun _ => ⟨polled, fun stalls => ?_⟩
      rw [behaves] at stalls
      cases stalls
    | fails =>
      have ends := perform_failed polls polled behaves
      refine iff_of_true ⟨fun stops => absurd stops (not_stop ends nofun),
        fun stalls => absurd stalls (not_stalls polled (by simp [behaves]))⟩
        fun _ => ⟨polled, fun stalls => ?_⟩
      rw [behaves] at stalls
      cases stalls
    | stalls =>
      rw [endsRight_of_stall consistent polls polled behaves]
      exact ⟨fun quiet _ => ⟨polled, fun _ => quiet⟩, fun calm => (calm polls).2 behaves⟩

theorem consistent_step (consistent : iter.Consistent) (calm : iter.Calm call) :
    (iter.step call).Consistent := by
  unfold step
  by_cases polls : iter.Polls call
  case neg =>
    rcases perform_quiet polls with ends | ends | ends <;> rw [ends]
    · exact consistent
    · exact consistent
    · exact deliver_consistent consistent _
  obtain ⟨polled, quiet⟩ := calm polls
  cases behaves : call.osRead with
  | chunk bytes =>
    obtain ⟨chunk, ends⟩ := perform_chunk polls polled behaves
    rw [ends]
    split
    · exact gained_consistent consistent chunk
    · exact deliver_consistent (gained_consistent consistent chunk) _
  | fails =>
    rw [perform_failed polls polled behaves]
    exact close_consistent consistent polls.1
  | stalls =>
    rw [perform_stalled polls polled behaves]
    split
    · next hasCancel =>
      rw [quiet behaves hasCancel]
      exact cancelled_consistent consistent polls.1
    · exact close_consistent consistent polls.1

end Calls

end FileDescriptorIterator

end Storlets
