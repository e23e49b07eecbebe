import Storlets.Agent.Files
import Storlets.Library.Lines

set_option autoImplicit false

/-!
# The input file as a cursor

`readline` reads on in blocks, and puts what it has read beyond the line before the buffer.
-/

namespace Storlets

namespace StorletInputFile

/-- The loop of `readline`. No value where it takes more rounds than it is given. -/
def readlineLoop (size : Int) :
    Nat → Bytes → StorletInputFile → Option (Except FileError (Bytes × StorletInputFile))
  | 0, _, _ => none
  | rounds + 1, data, file =>
      if newline ∉ data ∧ (size < 0 ∨ data.length < size) then
        match file.read (if size < 0 then 1024 else size - data.length) with
        | .error exception => some (.error exception)
        | .ok (chunk, file) =>
            if chunk = [] then some (.ok (data, file))
            else readlineLoop size rounds (data ++ chunk) file
      else some (.ok (data, file))

def putBack (file : StorletInputFile) (rest : Bytes) : StorletInputFile :=
  { file with buf := rest ++ file.buf }

def readline (rounds : Nat) (file : StorletInputFile) (size : Int) :
    Option (Except FileError (Bytes × StorletInputFile)) :=
  match readlineLoop size rounds [] file with
  | none => none
  | some (.error exception) => some (.error exception)
  | some (.ok (data, file)) =>
      if newline ∈ data then
        let (data, sep, rest) := partition data
        some (.ok (data ++ sep, file.putBack rest))
      else some (.ok (data, file))

/-- No value is a `StopIteration`. -/
def next (file : StorletInputFile) : Except FileError (Option Bytes × StorletInputFile) := do
  let (buf, file) ← file.read (-1)
  if buf = [] then return (none, file)
  else return (some buf, file)

end StorletInputFile

inductive InputCall where
  | read (size : Int)
  | readline (size : Int)
  | next

namespace StorletInputFile

def perform (rounds : Nat) (file : StorletInputFile) :
    InputCall → Option (Except FileError (Option Bytes × StorletInputFile))
  | .read size => some ((file.read size).map fun returned => (some returned.1, returned.2))
  | .readline size => (file.readline rounds size).map fun outcome =>
      outcome.map fun returned => (some returned.1, returned.2)
  | .next => some file.next

/-- The results of the calls, and the file they leave. -/
def performAll (rounds : Nat) :
    StorletInputFile → List InputCall → Option (Except FileError (List (Option Bytes) × StorletInputFile))
  | file, [] => some (.ok ([], file))
  | file, call :: calls =>
      match file.perform rounds call with
      | none => none
      | some (.error exception) => some (.error exception)
      | some (.ok (result, file)) =>
          (performAll rounds file calls).map fun outcome =>
            outcome.map fun returned => (result :: returned.1, returned.2)

end StorletInputFile

/-! ## The reference -/

/-- A content that is read from one position on. -/
structure Cursor where
  content : Bytes
  position : Nat := 0

namespace Cursor

variable (cursor : Cursor)

def rest : Bytes := cursor.content.drop cursor.position

def result : InputCall → Option Bytes
  | .read size => some (if 0 ≤ size then cursor.rest.take size.toNat else cursor.rest)
  | .readline size => some (lineOf size cursor.rest)
  | .next => if cursor.rest = [] then none else some cursor.rest

/-- The position moves on by what is returned. -/
def step (call : InputCall) : Cursor :=
  { cursor with position := cursor.position + ((cursor.result call).getD []).length }

def results : Cursor → List InputCall → List (Option Bytes)
  | _, [] => []
  | cursor, call :: calls => cursor.result call :: results (cursor.step call) calls

end Cursor

open StorletInputFile

/-- The file is where the cursor is: its buffer and the rest of its descriptor are what is left. -/
structure Follows (cursor : Cursor) (file : StorletInputFile) : Prop where
  inWindow : file.InWindow
  remaining : file.remaining = cursor.rest

/-! ## One call -/

section Calls

variable {cursor : Cursor} {file : StorletInputFile}

theorem rest_step {call : InputCall} {data : Bytes} {remaining : Bytes}
    (returned : (cursor.result call).getD [] = data) (split : data ++ remaining = cursor.rest) :
    remaining = (cursor.step call).rest := by
  unfold Cursor.rest Cursor.step
  rw [returned, ← List.drop_drop]
  change _ = cursor.rest.drop _
  rw [← split, List.drop_left]

/-- What the loop has at its end: the bytes it has gathered and those left are what there was, and
the line is among them. -/
theorem readlineLoop_spec (size : Int) {rounds : Nat} {data : Bytes} (inWindow : file.InWindow)
    (enough : file.remaining.length < rounds) (within : 0 ≤ size → data.length ≤ size) :
    ∃ gathered final, readlineLoop size rounds data file = some (.ok (gathered, final)) ∧
      final.InWindow ∧ gathered ++ final.remaining = data ++ file.remaining ∧
      (0 ≤ size → gathered.length ≤ size) ∧
      (final.remaining = [] ∨ newline ∈ gathered ∨ (0 ≤ size ∧ size ≤ gathered.length)) := by
  -- by induction on the rounds: each one takes at least a byte off what is left
  induction rounds generalizing data file with
  | zero => omega
  | succ rounds ih =>
    unfold readlineLoop
    split
    · next wants =>
      obtain ⟨absent, short⟩ := wants
      obtain ⟨chunk, rest, reads, inside, split, counted, -⟩ :=
        read_spec inWindow (if size < 0 then 1024 else size - data.length)
      have asked : 0 < (if size < 0 then 1024 else size - data.length) := by
        split <;> omega
      have counted := counted (by omega)
      rw [reads]
      dsimp only
      split
      · next nothing =>
        -- nothing comes where something is asked for: the end of the file
        have ended : file.remaining = [] := by
          rw [nothing] at counted
          exact (List.take_eq_nil_iff.mp counted.symm).resolve_left (by omega)
        rw [nothing, List.nil_append] at split
        exact ⟨data, rest, rfl, inside, by rw [split], within, .inl (split.trans ended)⟩
      · next something =>
        have lengths := congrArg List.length split
        rw [List.length_append] at lengths
        have positive := List.length_pos_iff.mpr something
        have bound : (chunk.length : Int) ≤ (if size < 0 then 1024 else size - data.length) := by
          have taken := congrArg List.length counted
          rw [List.length_take] at taken
          omega
        have grown : 0 ≤ size → ((data ++ chunk).length : Int) ≤ size := by
          intro sized
          rw [if_neg (by omega)] at bound
          rw [List.length_append]
          omega
        obtain ⟨gathered, final, loop, kept, whole, bounded, ends⟩ := ih inside (by omega) grown
        refine ⟨gathered, final, loop, kept, ?_, bounded, ends⟩
        rw [whole, List.append_assoc, split]
    -- the loop has a newline or as much as it was asked for
    · next done =>
      refine ⟨data, file, rfl, inWindow, rfl, within, .inr ?_⟩
      by_cases found : newline ∈ data
      · exact .inl found
      · have stops : ¬ (size < 0 ∨ (data.length : Int) < size) := fun short => done ⟨found, short⟩
        exact .inr (by omega)

theorem readline_spec (size : Int) {rounds : Nat} (inWindow : file.InWindow)
    (enough : file.remaining.length < rounds) :
    ∃ final, file.readline rounds size = some (.ok (lineOf size file.remaining, final)) ∧
      final.InWindow ∧ lineOf size file.remaining ++ final.remaining = file.remaining := by
  have short : 0 ≤ size → (([] : Bytes).length : Int) ≤ size := fun sized => sized
  obtain ⟨gathered, final, loop, inside, whole, bounded, ends⟩ :=
    readlineLoop_spec size inWindow enough short
  rw [List.nil_append] at whole
  unfold readline
  rw [loop, ← whole]
  dsimp only
  split
  -- what follows the newline is put back
  · next found =>
    have line : lineOf size (gathered ++ final.remaining) = firstLine gathered :=
      (lineOf_append (.inl found) _).trans (lineOf_whole bounded)
    rw [line]
    refine ⟨final.putBack (partition gathered).2.2, rfl, inside, ?_⟩
    change firstLine gathered ++ ((partition gathered).2.2 ++ final.buf ++ final.unread) = _
    rw [List.append_assoc, ← List.append_assoc, firstLine_append_rest]
    rfl
  -- the file ended, or the line is as long as it may be
  · next absent =>
    have line : lineOf size (gathered ++ final.remaining) = gathered := by
      rcases ends with ended | found | filled
      · rw [ended, List.append_nil, lineOf_whole bounded, firstLine_alone absent]
      · exact absurd found absent
      · rw [lineOf_append (.inr filled), lineOf_whole bounded, firstLine_alone absent]
    rw [line]
    exact ⟨final, rfl, inside, rfl⟩

theorem perform_follows (follows : Follows cursor file) {rounds : Nat}
    (enough : cursor.content.length < rounds) (call : InputCall) :
    ∃ final, file.perform rounds call = some (.ok (cursor.result call, final)) ∧
      Follows (cursor.step call) final := by
  obtain ⟨inWindow, same⟩ := follows
  -- one case for each method; `readline` needs no more rounds than there are bytes
  cases call with
  | read size =>
    obtain ⟨data, final, reads, inside, split, counted, whole⟩ := read_spec inWindow size
    rw [same] at split counted whole
    have returned : cursor.result (.read size) = some data := by
      unfold Cursor.result
      dsimp only
      by_cases sized : 0 ≤ size
      · rw [if_pos sized, counted sized]
      · rw [if_neg sized, whole (by omega)]
    refine ⟨final, ?_, inside, rest_step (by rw [returned]; rfl) split⟩
    rw [returned, perform, reads]
    rfl
  | readline size =>
    have left : cursor.rest.length ≤ cursor.content.length := by
      unfold Cursor.rest
      rw [List.length_drop]
      omega
    have enough : file.remaining.length < rounds := by
      rw [same]
      omega
    obtain ⟨final, reads, inside, split⟩ := readline_spec size inWindow enough
    rw [same] at reads split
    refine ⟨final, ?_, inside, rest_step rfl split⟩
    rw [perform, reads]
    rfl
  | next =>
    obtain ⟨data, final, reads, inside, split, -, whole⟩ := read_spec inWindow (-1)
    have all := whole (by omega)
    rw [same] at split all
    refine ⟨final, ?_, inside, rest_step ?_ split⟩
    · rw [perform, StorletInputFile.next, reads]
      subst all
      unfold Cursor.result
      change some (if cursor.rest = [] then _ else _) = _
      split <;> rfl
    · subst all
      unfold Cursor.result
      dsimp only
      split
      · next nothing => rw [nothing]; rfl
      · rfl

end Calls

/-- The results are the cursor's, and what is left of the input is what follows its position. -/
theorem performAll_follows {cursor : Cursor} {file : StorletInputFile}
    (follows : Follows cursor file) {rounds : Nat} (enough : cursor.content.length < rounds)
    (calls : List InputCall) : ∃ final,
      file.performAll rounds calls = some (.ok (cursor.results calls, final)) ∧
      final.remaining = (calls.foldl Cursor.step cursor).rest := by
  -- the cursor stays where the file is, call by call
  induction calls generalizing cursor file with
  | nil => exact ⟨file, rfl, follows.remaining⟩
  | cons call calls ih =>
    obtain ⟨next, performed, after⟩ := perform_follows follows enough call
    obtain ⟨final, later, left⟩ := ih after enough
    refine ⟨final, ?_, left⟩
    rw [performAll, performed]
    dsimp only
    rw [later]
    rfl

/-- However a storlet reads its input, it gets what a reader with one position gets, and what is
left of the input is what follows that position. -/
theorem performs_as_cursor (metadata : Dict Text) (content : Bytes) (seekable : Bool) (spare : Nat)
    (calls : List InputCall) : ∃ final,
      StorletInputFile.performAll (content.length + 1 + spare)
          { metadata, objFile := { content, seekable } } calls =
        some (.ok (Cursor.results { content } calls, final)) ∧
      final.remaining = (calls.foldl Cursor.step { content }).rest := by
  have start : Follows { content } { metadata, objFile := { content, seekable } } := ⟨nofun, rfl⟩
  exact performAll_follows start (by dsimp only; omega) calls

/-! ## Ranges -/

/-- `content[start:end]`. -/
def slice (content : Bytes) (start stop : Nat) : Bytes :=
  (content.drop start).take (stop - start)

theorem ofRange_follows (metadata : Dict Text) (content : Bytes) {start stop : Nat}
    (ordered : start ≤ stop) : ∃ file,
      StorletInputFile.ofRange metadata { content, seekable := true } start stop = .ok file ∧
      Follows { content := slice content start stop } file := by
  refine ⟨_, rfl, ?_, rfl⟩
  intro window found
  cases found
  exact ordered

/-- A range of a content is read as the slice would be. -/
theorem range_reads_slice (metadata : Dict Text) (content : Bytes) {start stop : Nat}
    (ordered : start ≤ stop) (seekable : Bool) (spare : Nat) (calls : List InputCall) :
    ∃ file results rangeEnd sliceEnd,
      StorletInputFile.ofRange metadata { content, seekable := true } start stop = .ok file ∧
      file.performAll (content.length + 1 + spare) calls = some (.ok (results, rangeEnd)) ∧
      StorletInputFile.performAll (content.length + 1 + spare)
          { metadata, objFile := { content := slice content start stop, seekable } } calls =
        some (.ok (results, sliceEnd)) := by
  have shorter : (slice content start stop).length ≤ content.length := by
    unfold slice
    rw [List.length_take, List.length_drop]
    omega
  have enough : (slice content start stop).length < content.length + 1 + spare := by omega
  have whole : Follows { content := slice content start stop }
      { metadata, objFile := { content := slice content start stop, seekable } } := ⟨nofun, rfl⟩
  obtain ⟨file, made, ranged⟩ := ofRange_follows metadata content ordered
  obtain ⟨rangeEnd, fromRange, _⟩ := performAll_follows ranged enough calls
  obtain ⟨sliceEnd, fromSlice, _⟩ := performAll_follows whole enough calls
  exact ⟨file, _, rangeEnd, sliceEnd, made, fromRange, fromSlice⟩

/-- The second line of two, and what is beyond the content. -/
theorem last_line_reads_slice : ∃ file results rangeEnd sliceEnd,
    StorletInputFile.ofRange .empty { content := [97, 10, 98], seekable := true } 2 9 = .ok file ∧
    file.performAll 4 [.readline (-1), .read 5, .next] = some (.ok (results, rangeEnd)) ∧
    StorletInputFile.performAll 4 { metadata := .empty, objFile := ⟨[98], 0, false⟩ }
      [.readline (-1), .read 5, .next] = some (.ok (results, sliceEnd)) :=
  range_reads_slice .empty [97, 10, 98] (by decide) false 0 [.readline (-1), .read 5, .next]

end Storlets
