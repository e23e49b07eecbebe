import Storlets.Gateway.Iterator
import Storlets.Library.Lines

set_option autoImplicit false

/-!
# Lines of the output

`readline` appends to the buffer that `read`, which it calls, takes its bytes from.
-/

namespace Storlets

/-- What `os.read` answers: at least one of the unread bytes and so many more, a stall until
`StorletTimeout`, or an exception. -/
inductive Answer where
  | chunk (more : Nat)
  | stalls
  | fails

structure Turn where
  polled : Bool
  answer : Answer
  cancelRaises : Bool

/-- The content of a descriptor, and how it behaves each time it is read. -/
structure Source where
  content : List UInt8
  turn : Nat → Turn

/-- An iterator after so many calls of `next`. -/
structure Reading where
  iter : FileDescriptorIterator
  turns : Nat

namespace Reading

def withBuf (reading : Reading) (buf : List UInt8) : Reading :=
  { reading with iter := { reading.iter with buf } }

/-- The condition under which the loop of `readline` goes on. -/
def Wants (size : Int) (buf : List UInt8) : Prop :=
  newline ∉ buf ∧ (size < 0 ∨ buf.length < size)

instance (size : Int) (buf : List UInt8) : Decidable (Wants size buf) :=
  inferInstanceAs (Decidable (_ ∧ _))

def readSize (size : Int) (buf : List UInt8) : Int :=
  if size < 0 then 64 * 1024 else size - buf.length

section Calls

variable (source : Source)

def unread (reading : Reading) : List UInt8 := source.content.drop reading.iter.received.length

/-- What the iterator has not returned yet. -/
def rest (reading : Reading) : List UInt8 := reading.iter.buf ++ reading.unread source

def callOf (reading : Reading) (method : IterMethod) (size : Int) : IterCall :=
  let turn := source.turn reading.turns
  { method, size, polled := turn.polled, cancelRaises := turn.cancelRaises
    osRead := match turn.answer with
      | .chunk more => .chunk ((reading.unread source).take (more + 1))
      | .stalls => .stalls
      | .fails => .fails }

def perform (reading : Reading) (method : IterMethod) (size : Int) : IterOutcome × Reading :=
  let (outcome, iter) := reading.iter.perform (reading.callOf source method size)
  (outcome, ⟨iter, reading.turns + 1⟩)

/-- The loop of `readline`. No value where it takes more turns than it is given. -/
def fill (size : Int) : Nat → Reading → Option (Except IterOutcome Unit × Reading)
  | 0, _ => none
  | fuel + 1, reading =>
      if Wants size reading.iter.buf then
        match reading.perform source .read (readSize size reading.iter.buf) with
        | (.data chunk, reading) =>
            if chunk = [] then some (.ok ⟨⟩, reading)
            else fill size fuel (reading.withBuf (reading.iter.buf ++ chunk))
        | (raised, reading) => some (.error raised, reading)
      else some (.ok ⟨⟩, reading)

/-- One line of the buffer, cut to the size, and what is left of it. -/
def takeLine (size : Int) (buf : List UInt8) : List UInt8 × List UInt8 :=
  let (data, sep, rest) := partition buf
  let data := data ++ sep
  if 0 ≤ size ∧ size < data.length then (data.take size.toNat, data.drop size.toNat ++ rest)
  else (data, rest)

def readline (size : Int) (fuel : Nat) (reading : Reading) :
    Option (Except IterOutcome (List UInt8) × Reading) :=
  if reading.iter.closed then some (.error .valueError, reading)
  else match fill source size fuel reading with
    | none => none
    | some (.error raised, reading) => some (.error raised, reading)
    | some (.ok _, reading) =>
        let (line, left) := takeLine size reading.iter.buf
        some (.ok line, reading.withBuf left)

/-- What is left of the hint. -/
def spend (sizehint : Int) (line : List UInt8) : Int :=
  if 0 ≤ sizehint then sizehint - line.length else sizehint

/-- The loop of `readlines`, with `StopIteration` caught. -/
def collect : Nat → Int → Reading → Option (Except IterOutcome (List (List UInt8)) × Reading)
  | 0, _, _ => none
  | fuel + 1, sizehint, reading =>
      match reading.readline source sizehint fuel with
      | none => none
      | some (.error .stopIteration, reading) => some (.ok [], reading)
      | some (.error raised, reading) => some (.error raised, reading)
      | some (.ok line, reading) =>
          if line = [] then some (.ok [], reading)
          else if 0 ≤ sizehint ∧ spend sizehint line ≤ 0 then some (.ok [line], reading)
          else (collect fuel (spend sizehint line) reading).map fun (lines, reading) =>
            (lines.map (line :: ·), reading)

def readlines (sizehint : Int) (fuel : Nat) (reading : Reading) :
    Option (Except IterOutcome (List (List UInt8)) × Reading) :=
  if reading.iter.closed then some (.error .valueError, reading)
  else reading.collect source fuel sizehint

end Calls

end Reading

/-! ## What a call moves -/

def IterOutcome.bytes : IterOutcome → List UInt8
  | .data bytes => bytes
  | _ => []

namespace FileDescriptorIterator

theorem deliver_bytes (iter : FileDescriptorIterator) (size : Int) :
    (iter.deliver size).1.bytes ++ (iter.deliver size).2.buf = iter.buf :=
  List.take_append_drop _ _

/-- What a call returns and leaves in the buffer is what was there and the chunk. -/
structure Moves (iter : FileDescriptorIterator) (chunk : List UInt8) (outcome : IterOutcome)
    (after : FileDescriptorIterator) : Prop where
  received : after.received = iter.received ++ chunk
  bytes : outcome.bytes ++ after.buf = iter.buf ++ chunk

def Gives (iter : FileDescriptorIterator) (call : IterCall) (chunk : List UInt8) : Prop :=
  ∃ bytes, call.osRead = .chunk bytes ∧ chunk = bytes.take (call.size - iter.buf.length).toNat

theorem perform_moves (iter : FileDescriptorIterator) (call : IterCall) :
    ∃ chunk, (chunk = [] ∨ iter.Gives call chunk) ∧
      iter.Moves chunk (iter.perform call).1 (iter.perform call).2 := by
  have still {outcome : IterOutcome} {after : FileDescriptorIterator}
      (ends : iter.perform call = (outcome, after)) (received : after.received = iter.received)
      (moved : outcome.bytes ++ after.buf = iter.buf) :
      ∃ chunk, (chunk = [] ∨ iter.Gives call chunk) ∧
        iter.Moves chunk (iter.perform call).1 (iter.perform call).2 := by
    rw [ends]
    exact ⟨[], .inl rfl, by rw [List.append_nil, received], by rw [List.append_nil, moved]⟩
  by_cases polls : iter.Polls call
  case neg =>
    rcases perform_quiet polls with ends | ends | ends
    · exact still ends rfl rfl
    · exact still ends rfl rfl
    · exact still ends rfl (iter.deliver_bytes call.size)
  cases polled : call.polled with
  | false =>
    have ends := perform_unpolled polls polled
    rw [close_open polls.1] at ends
    exact still ends rfl rfl
  | true =>
    rcases behaves : call.osRead with bytes | _ | _
    · refine ⟨_, .inr ⟨bytes, behaves, rfl⟩, ?_⟩
      rw [perform_polled polls polled, readWithTimeout, behaves]
      dsimp only
      split
      · next nothing => exact ⟨rfl, rfl⟩
      · exact ⟨rfl, deliver_bytes _ _⟩
    · have ends := perform_stalled polls polled behaves
      have closing : iter.cancelFunc.close = { iter.cancelFunc with closed := true } :=
        close_open polls.1
      rw [closing, close_open polls.1] at ends
      split_ifs at ends
      · exact still ends rfl rfl
      · exact still ends rfl rfl
      · exact still ends rfl rfl
    · have ends := perform_failed polls polled behaves
      rw [close_open polls.1] at ends
      exact still ends rfl rfl

theorem perform_filled {iter : FileDescriptorIterator} {call : IterCall}
    (isOpen : iter.closed = false) (filled : call.size ≤ iter.buf.length) :
    iter.perform call = iter.deliver call.size := by
  rw [perform_open isOpen, next, if_neg (by omega)]

/-- A call that lacks bytes returns all it has. -/
theorem perform_short {iter : FileDescriptorIterator} {call : IterCall} {bytes : List UInt8}
    (short : iter.buf.length < call.size) (returned : (iter.perform call).1 = .data bytes) :
    bytes ≠ [] ∧ (iter.perform call).2.buf = [] ∧ (iter.perform call).2.closed = false := by
  cases closed : iter.closed with
  | true =>
    have raises : (iter.perform call).1 = .valueError ∨ (iter.perform call).1 = .osError := by
      unfold perform read next
      rw [closed, if_pos short]
      cases call.method with
      | next => exact .inr rfl
      | read => exact .inl rfl
    rw [returned] at raises
    rcases raises with raises | raises <;> cases raises
  | false =>
    have polls : iter.Polls call := ⟨closed, short⟩
    cases polled : call.polled with
    | false =>
      rw [perform_unpolled polls polled] at returned
      cases returned
    | true =>
      rcases behaves : call.osRead with chunk | _ | _
      · rw [perform_polled polls polled, readWithTimeout, behaves] at returned ⊢
        dsimp only at returned ⊢
        split at returned
        · cases returned
        · next something =>
          rw [if_neg something]
          have whole : ¬ call.size <
              (iter.buf ++ chunk.take (call.size - iter.buf.length).toNat).length := by
            rw [List.length_append, List.length_take]
            omega
          rw [deliver, if_neg whole] at returned ⊢
          obtain rfl := IterOutcome.data.inj returned
          rw [List.take_length, List.drop_length]
          exact ⟨something, rfl, closed⟩
      · rw [perform_stalled polls polled behaves] at returned
        split_ifs at returned
      · rw [perform_failed polls polled behaves] at returned
        cases returned

end FileDescriptorIterator

namespace Reading

section Lines

variable {source : Source} {reading after : Reading} {size : Int}

theorem perform_rest (method : IterMethod) (size : Int) :
    (reading.perform source method size).1.bytes ++
      (reading.perform source method size).2.rest source = reading.rest source := by
  obtain ⟨chunk, given, moves⟩ := reading.iter.perform_moves (reading.callOf source method size)
  have begins : chunk <+: reading.unread source := by
    rcases given with rfl | ⟨bytes, behaves, rfl⟩
    · exact List.nil_prefix
    · rcases answer : (source.turn reading.turns).answer with more | _ | _
      · simp only [callOf, answer] at behaves
        obtain rfl := OsRead.chunk.inj behaves
        exact (List.take_prefix ..).trans (List.take_prefix ..)
      · simp [callOf, answer] at behaves
      · simp [callOf, answer] at behaves
  have left : (reading.perform source method size).2.unread source =
      (reading.unread source).drop chunk.length := by
    unfold unread perform
    dsimp only
    rw [moves.received, List.length_append, List.drop_drop]
  change _ ++ ((reading.perform source method size).2.iter.buf ++ _) = _
  rw [left, ← List.append_assoc, rest]
  change (reading.iter.perform _).1.bytes ++ (reading.iter.perform _).2.buf ++ _ = _
  rw [moves.bytes, List.append_assoc, List.prefix_iff_eq_append.mp begins]

theorem readSize_pos {buf : List UInt8} (wants : Wants size buf) : 0 < readSize size buf := by
  unfold readSize
  rcases wants.2 with negative | short <;> split_ifs <;> omega

theorem wants_congr {one other : List UInt8} (length : one.length = other.length)
    (absent : newline ∉ other) (wants : Wants size one) :
    Wants size other ∧ readSize size other = readSize size one := by
  unfold Wants readSize at *
  rw [← length]
  exact ⟨⟨absent, wants.2⟩, rfl⟩

theorem perform_held {ask : Int} (isOpen : reading.iter.closed = false)
    (held : ask ≤ reading.iter.buf.length) (positive : 0 < ask) :
    ∃ next, reading.perform source .read ask =
        (.data (reading.iter.buf.take ask.toNat), next) ∧
      next.iter.buf = reading.iter.buf.drop ask.toNat ∧ next.iter.closed = false := by
  have count : (if ask < (reading.iter.buf.length : Int) then
      FileDescriptorIterator.cut ask reading.iter.buf else reading.iter.buf.length) =
      ask.toNat := by
    unfold FileDescriptorIterator.cut
    split_ifs <;> omega
  have ends := @FileDescriptorIterator.perform_filled _ (reading.callOf source .read ask)
    isOpen held
  have size : (reading.callOf source .read ask).size = ask := rfl
  rw [size, FileDescriptorIterator.deliver, count] at ends
  unfold perform
  rw [ends]
  exact ⟨_, rfl, rfl, isOpen⟩

/-- Once the buffer holds as much as is read for, the bytes go round in it. -/
theorem fill_stuck (fuel : Nat) (isOpen : reading.iter.closed = false)
    (wants : Wants size reading.iter.buf)
    (held : readSize size reading.iter.buf ≤ reading.iter.buf.length) :
    fill source size fuel reading = none := by
  induction fuel generalizing reading with
  | zero => rfl
  | succ fuel ih =>
    have positive := readSize_pos wants
    obtain ⟨next, ends, left, stays⟩ := @perform_held source _ _ isOpen held positive
    have some : reading.iter.buf.take (readSize size reading.iter.buf).toNat ≠ [] := by
      intro nothing
      have none := congrArg List.length nothing
      rw [List.length_take, List.length_nil] at none
      omega
    rw [fill, if_pos wants, ends]
    dsimp only
    rw [if_neg some]
    -- the buffer is rotated, and asks for as much as before
    have length : reading.iter.buf.length = (next.withBuf (next.iter.buf ++
        reading.iter.buf.take (readSize size reading.iter.buf).toNat)).iter.buf.length := by
      change _ = (next.iter.buf ++ _).length
      rw [left, List.length_append, List.length_drop, List.length_take]
      omega
    have absent : newline ∉ (next.withBuf (next.iter.buf ++
        reading.iter.buf.take (readSize size reading.iter.buf).toNat)).iter.buf := by
      change newline ∉ next.iter.buf ++ _
      rw [left, List.mem_append]
      rintro (later | sooner)
      · exact wants.1 (List.mem_of_mem_drop later)
      · exact wants.1 (List.mem_of_mem_take sooner)
    obtain ⟨again, same⟩ := wants_congr length absent wants
    exact ih stays again (by rw [same, ← length]; exact held)

theorem open_of_data {ask : Int} {bytes : List UInt8}
    (returned : reading.perform source .read ask = (.data bytes, after)) :
    reading.iter.closed = false := by
  cases closed : reading.iter.closed with
  | false => rfl
  | true =>
    unfold perform FileDescriptorIterator.perform FileDescriptorIterator.read at returned
    simp [callOf, closed] at returned

/-- The loop moves bytes from the descriptor to the buffer, and ends as its condition says. -/
theorem fill_spec {fuel : Nat} {result : Except IterOutcome Unit}
    (ends : fill source size fuel reading = some (result, after)) :
    after.rest source = reading.rest source ∧
      (result = .ok () → ¬ Wants size after.iter.buf) := by
  induction fuel generalizing reading with
  | zero => cases ends
  | succ fuel ih =>
    rw [fill] at ends
    by_cases wants : Wants size reading.iter.buf
    case neg =>
      rw [if_neg wants] at ends
      cases ends
      exact ⟨rfl, fun _ => wants⟩
    rw [if_pos wants] at ends
    have moved := @perform_rest source reading .read
      (readSize size reading.iter.buf)
    rcases performed : reading.perform source .read (readSize size reading.iter.buf)
      with ⟨outcome, next⟩
    rw [performed] at ends moved
    cases outcome with
    | data chunk =>
      by_cases held : readSize size reading.iter.buf ≤ reading.iter.buf.length
      · have stuck := @fill_stuck source _ _ (fuel + 1) (open_of_data performed) wants held
        rw [fill, if_pos wants, performed] at stuck
        cases stuck.symm.trans ends
      · obtain ⟨some, empty, -⟩ := @FileDescriptorIterator.perform_short _
          (reading.callOf source .read (readSize size reading.iter.buf)) _
          (Int.not_le.mp held) (congrArg Prod.fst performed)
        have left : next.iter.buf = [] :=
          (congrArg (fun ended => ended.2.iter.buf) performed).symm.trans empty
        dsimp only at ends
        rw [if_neg some] at ends
        obtain ⟨same, done⟩ := ih ends
        refine ⟨same.trans ?_, done⟩
        rw [← moved]
        change next.iter.buf ++ chunk ++ _ = chunk ++ (next.iter.buf ++ _)
        rw [left, List.nil_append, List.nil_append]
        rfl
    | _ =>
      cases ends
      exact ⟨moved, fun raised => nomatch raised⟩

end Lines

end Reading

/-! ## Lines of the buffer -/

theorem takeLine_append (size : Int) (buf : List UInt8) :
    (Reading.takeLine size buf).1 ++ (Reading.takeLine size buf).2 = buf := by
  have whole := firstLine_append_rest buf
  unfold firstLine at whole
  unfold Reading.takeLine
  dsimp only
  split_ifs
  · rw [← List.append_assoc, List.take_append_drop, whole]
  · exact whole

theorem takeLine_eq (size : Int) (buf : List UInt8) :
    (Reading.takeLine size buf).1 = lineOf size buf := by
  unfold Reading.takeLine lineOf
  have line : (partition buf).1 ++ (partition buf).2.1 = firstLine buf := rfl
  dsimp only
  rw [line]
  by_cases bounded : 0 ≤ size
  · rw [if_pos bounded]
    by_cases cuts : size < (firstLine buf).length
    · rw [if_pos ⟨bounded, cuts⟩]
    · rw [if_neg fun both => cuts both.2, List.take_of_length_le (by omega)]
  · rw [if_neg bounded, if_neg fun both => bounded both.1]

/-- Where the loop ends the buffer has the line of all that is left. -/
theorem lineOf_of_filled {size : Int} {buf : List UInt8} (filled : ¬ Reading.Wants size buf)
    (more : List UInt8) : lineOf size buf = lineOf size (buf ++ more) := by
  refine (lineOf_append ?_ more).symm
  by_cases found : newline ∈ buf
  · exact .inl found
  · refine .inr ?_
    unfold Reading.Wants at filled
    have goesOn : ¬ (size < 0 ∨ (buf.length : Int) < size) := fun short => filled ⟨found, short⟩
    omega

namespace Reading

section Conserved

variable {source : Source} {reading after : Reading} {fuel : Nat}

theorem readline_rest {size : Int} {result : Except IterOutcome (List UInt8)}
    (ends : reading.readline source size fuel = some (result, after)) :
    (∀ line, result = .ok line →
      line ++ after.rest source = reading.rest source ∧
        line = lineOf size (reading.rest source)) ∧
    (∀ raised, result = .error raised → after.rest source = reading.rest source) := by
  unfold readline at ends
  split at ends
  · obtain ⟨rfl, rfl⟩ := Prod.mk.inj (Option.some.inj ends)
    constructor
    · intro _ returned
      cases returned
    · exact fun _ _ => rfl
  · rcases filled : fill source size fuel reading with _ | ⟨result', next⟩
    · rw [filled] at ends
      cases ends
    · obtain ⟨same, done⟩ := fill_spec filled
      rw [filled] at ends
      cases result' with
      | error raised =>
        obtain ⟨rfl, rfl⟩ := Prod.mk.inj (Option.some.inj ends)
        constructor
        · intro _ returned
          cases returned
        · exact fun _ _ => same
      | ok =>
        have whole := takeLine_append size next.iter.buf
        have line := takeLine_eq size next.iter.buf
        rcases pieces : takeLine size next.iter.buf with ⟨first, left⟩
        simp only [pieces] at ends whole line
        obtain ⟨rfl, rfl⟩ := Prod.mk.inj (Option.some.inj ends)
        constructor
        · intro line' returned
          obtain rfl := Except.ok.inj returned
          rw [← same]
          constructor
          · change first ++ (left ++ _) = _
            rw [← List.append_assoc, whole]
            rfl
          · exact line.trans (lineOf_of_filled (done rfl) _)
        · intro _ raised
          cases raised

theorem collect_rest {sizehint : Int} {lines : List (List UInt8)}
    (ends : reading.collect source fuel sizehint = some (.ok lines, after)) :
    lines.flatten ++ after.rest source = reading.rest source := by
  induction fuel generalizing reading sizehint lines with
  | zero => cases ends
  | succ fuel ih =>
    rw [collect] at ends
    rcases read : reading.readline source sizehint fuel with _ | ⟨result, next⟩
    · rw [read] at ends
      cases ends
    · obtain ⟨moved, kept⟩ := readline_rest read
      rw [read] at ends
      cases result with
      | error raised =>
        cases raised <;> cases ends
        exact kept _ rfl
      | ok line =>
        obtain ⟨same, -⟩ := moved line rfl
        dsimp only at ends
        split at ends
        · next nothing =>
          cases ends
          rw [← same, nothing]
          rfl
        · split at ends
          · cases ends
            rw [← same, List.flatten_cons, List.flatten_nil, List.append_nil]
          · obtain ⟨collected, later, given⟩ := Option.map_eq_some_iff.mp ends
            rcases collected with ⟨others, last⟩
            cases others with
            | error raised => cases given
            | ok others =>
              cases given
              rw [List.flatten_cons, List.append_assoc, ih later, same]

end Conserved

end Reading

/-! ## Any calls in any order -/

inductive IterRequest where
  | next (size : Int)
  | read (size : Int)
  | readline (size : Int)
  | readlines (sizehint : Int)

namespace Reading

/-- The pieces that a call returns, and the iterator after it. -/
def answer (source : Source) (fuel : Nat) (reading : Reading) :
    IterRequest → Option (Except IterOutcome (List (List UInt8)) × Reading)
  | .next size => direct (reading.perform source .next size)
  | .read size => direct (reading.perform source .read size)
  | .readline size => (reading.readline source size fuel).map fun (line, reading) =>
      (line.map ([·]), reading)
  | .readlines sizehint => reading.readlines source sizehint fuel
where
  direct : IterOutcome × Reading → Option (Except IterOutcome (List (List UInt8)) × Reading)
    | (.data bytes, reading) => some (.ok [bytes], reading)
    | (raised, reading) => some (.error raised, reading)

/-- All of the calls return, with these pieces. -/
inductive Performs (source : Source) :
    Reading → List (IterRequest × List (List UInt8)) → Reading → Prop
  | nil (reading : Reading) : Performs source reading [] reading
  | cons {reading next last : Reading} {request : IterRequest} {pieces : List (List UInt8)}
      {rest : List (IterRequest × List (List UInt8))} (fuel : Nat)
      (returns : reading.answer source fuel request = some (.ok pieces, next))
      (others : Performs source next rest last) :
      Performs source reading ((request, pieces) :: rest) last

/-- All that the calls have returned. -/
def returned (history : List (IterRequest × List (List UInt8))) : List UInt8 :=
  history.flatMap fun call => call.2.flatten

def start (hasCancelFunc : Bool) : Reading := ⟨{ hasCancelFunc }, 0⟩

section Histories

variable {source : Source} {reading after : Reading} {fuel : Nat} {pieces : List (List UInt8)}

theorem direct_rest {method : IterMethod} {size : Int}
    (returns : answer.direct (reading.perform source method size) = some (.ok pieces, after)) :
    pieces.flatten ++ after.rest source = reading.rest source := by
  have moved := @perform_rest source reading method size
  rcases performed : reading.perform source method size with ⟨outcome, next⟩
  rw [performed] at returns moved
  cases outcome <;> cases returns
  rw [← moved, List.flatten_cons, List.flatten_nil, List.append_nil]
  rfl

theorem answer_readline {size : Int}
    (returns : reading.answer source fuel (.readline size) = some (.ok pieces, after)) :
    pieces.flatten ++ after.rest source = reading.rest source ∧
      pieces.flatten = lineOf size (reading.rest source) := by
  obtain ⟨read, ends, given⟩ := Option.map_eq_some_iff.mp returns
  rcases read with ⟨result, next⟩
  cases result with
  | error raised => cases given
  | ok line =>
    cases given
    obtain ⟨moved, -⟩ := readline_rest ends
    simpa using moved line rfl

/-- A call that returns takes what it returns from the front of what is left. -/
theorem answer_rest {request : IterRequest}
    (returns : reading.answer source fuel request = some (.ok pieces, after)) :
    pieces.flatten ++ after.rest source = reading.rest source := by
  cases request with
  | next size => exact direct_rest returns
  | read size => exact direct_rest returns
  | readline size => exact (answer_readline returns).1
  | readlines sizehint =>
    change reading.readlines source sizehint fuel = _ at returns
    unfold readlines at returns
    split at returns
    · cases returns
    · exact collect_rest returns

theorem performs_rest {history : List (IterRequest × List (List UInt8))} {last : Reading}
    (performs : Performs source reading history last) :
    returned history ++ last.rest source = reading.rest source := by
  induction performs with
  | nil => rfl
  | cons fuel returns others ih =>
    rw [← answer_rest returns, ← ih, returned, List.flatMap_cons, List.append_assoc]
    rfl

theorem performs_append {front back : List (IterRequest × List (List UInt8))} {last : Reading}
    (performs : Performs source reading (front ++ back) last) :
    ∃ middle, Performs source reading front middle ∧ Performs source middle back last := by
  induction front generalizing reading with
  | nil => exact ⟨reading, .nil reading, performs⟩
  | cons call rest ih =>
    cases performs with
    | cons fuel returns others =>
      obtain ⟨middle, early, late⟩ := ih others
      exact ⟨middle, .cons fuel returns early, late⟩

end Histories

/-- Nothing is lost, repeated or moved, and every `readline` returns a line. -/
theorem lines_of_the_content (source : Source) (hasCancelFunc : Bool)
    {history : List (IterRequest × List (List UInt8))} {last : Reading}
    (performs : Performs source (start hasCancelFunc) history last) :
    returned history ++ last.iter.buf ++ last.unread source = source.content ∧
      ∀ front size pieces back, history = front ++ (.readline size, pieces) :: back →
        pieces.flatten = lineOf size (source.content.drop (returned front).length) := by
  have whole : (start hasCancelFunc).rest source = source.content := rfl
  constructor
  · rw [← whole, ← performs_rest performs, List.append_assoc]
    rfl
  · rintro front size pieces back rfl
    obtain ⟨middle, early, late⟩ := performs_append performs
    cases late with
    | cons fuel returns others =>
      obtain ⟨-, line⟩ := answer_readline returns
      rw [line, ← whole, ← performs_rest early, List.drop_left]

/-- Two lines that come three bytes at a time. -/
def twoLines : Source := ⟨[97, 98, 10, 99, 10], fun _ => ⟨true, .chunk 2, false⟩⟩

theorem twoLines_read : ∃ last : Reading,
    [97] ++ [98, 10] ++ [99, 10] ++ last.iter.buf ++ last.unread twoLines = twoLines.content ∧
      [98, 10] = lineOf (-1) [98, 10, 99, 10] := by
  have performs : Performs twoLines (start true)
      [(.read 1, [[97]]), (.readline (-1), [[98, 10]]), (.readlines (-1), [[99, 10]])] _ :=
    .cons 9 rfl (.cons 9 rfl (.cons 9 rfl (.nil _)))
  obtain ⟨whole, lines⟩ := lines_of_the_content twoLines true performs
  exact ⟨_, whole, lines [_] (-1) [[98, 10]] [_] rfl⟩

end Reading

end Storlets
