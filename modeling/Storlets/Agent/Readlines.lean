import Storlets.Agent.Cursor
import Storlets.Gateway.Lines

set_option autoImplicit false

/-!
# `readlines` on both sides of the bus

The hint is a budget of bytes. The gateway takes the length of each line off it, and the daemon
adds it on.
-/

namespace Storlets

namespace StorletInputFile

/-- The loop of `readlines`, with as many rounds for each `readline` in it. -/
def readlinesLoop (rounds : Nat) :
    Nat → Int → StorletInputFile → Option (Except FileError (List Bytes × StorletInputFile))
  | 0, _, _ => none
  | turns + 1, sizehint, file =>
      match file.readline rounds sizehint with
      | none => none
      | some (.error exception) => some (.error exception)
      | some (.ok (line, file)) =>
          if line = [] then some (.ok ([], file))
          else
            let left := if 0 ≤ sizehint then sizehint + line.length else sizehint
            if 0 ≤ sizehint ∧ left ≤ 0 then some (.ok ([line], file))
            else (readlinesLoop rounds turns left file).map fun outcome =>
              outcome.map fun (lines, file) => (line :: lines, file)

def readlines (rounds : Nat) (file : StorletInputFile) (sizehint : Int) :
    Option (Except FileError (List Bytes × StorletInputFile)) :=
  readlinesLoop rounds rounds sizehint file

end StorletInputFile

open StorletInputFile

/-- The gateway's call returns, and has not given the descriptor up as stalled. -/
def Reading.ReturnsNormally (source : Source) (reading : Reading) (sizehint : Int)
    (lines : List Bytes) : Prop :=
  ∃ fuel after, reading.readlines source sizehint fuel = some (.ok lines, after) ∧
    after.iter.closed = false

/-- What the hint is for: a prefix of so many bytes, line by line, and the same pieces as on the
other side of the bus. -/
def RespectsHint (rounds : Nat) (file : StorletInputFile) (sizehint : Nat) : Prop :=
  ∃ pieces final, file.readlines rounds sizehint = some (.ok (pieces, final)) ∧
    pieces.flatten = file.remaining.take sizehint ∧
    pieces.flatten ++ final.remaining = file.remaining ∧
    (∀ piece ∈ pieces.dropLast, IsLine piece) ∧
    ∀ (source : Source) (reading : Reading) (lines : List Bytes),
      reading.rest source = file.remaining →
      reading.ReturnsNormally source sizehint lines → lines = pieces

/-! ## The gateway -/

namespace Reading

section Ends

variable {source : Source} {reading after : Reading} {fuel : Nat}

/-- `StopIteration` of a descriptor that is still open is the end of the content. -/
theorem perform_ends {ask : Int}
    (stops : reading.perform source .read ask = (.stopIteration, after))
    (isOpen : after.iter.closed = false) : after.rest source = [] := by
  have outcome : (reading.iter.perform (reading.callOf source .read ask)).1 = .stopIteration :=
    congrArg Prod.fst stops
  have final : (reading.iter.perform (reading.callOf source .read ask)).2 = after.iter :=
    congrArg (fun ended => ended.2.iter) stops
  by_cases polls : reading.iter.Polls (reading.callOf source .read ask)
  case neg =>
    rcases FileDescriptorIterator.perform_quiet polls with ends | ends | ends <;>
      rw [ends] at outcome <;> cases outcome
  cases polled : (source.turn reading.turns).polled with
  | false =>
    have ends := FileDescriptorIterator.perform_unpolled polls polled
    rw [FileDescriptorIterator.close_open polls.1] at ends
    rw [← final, ends] at isOpen
    cases isOpen
  | true =>
    rcases answer : (source.turn reading.turns).answer with more | _ | _
    · -- nothing is read and nothing is buffered
      have behaves : (reading.callOf source .read ask).osRead =
          .chunk ((reading.unread source).take (more + 1)) := by
        simp only [callOf, answer]
      rw [FileDescriptorIterator.perform_polled polls polled,
        FileDescriptorIterator.readWithTimeout, behaves] at outcome final
      dsimp only at outcome final
      split at outcome
      · next nothing =>
        rw [if_pos nothing] at final
        obtain ⟨unbuffered, unread⟩ := List.append_eq_nil_iff.mp nothing
        have short : (reading.iter.buf.length : Int) < ask := polls.2
        change List.take (ask - _).toNat _ = [] at unread
        have ended : reading.unread source = [] := by
          rw [List.take_take, List.take_eq_nil_iff] at unread
          exact unread.resolve_left (by omega)
        have kept := @perform_rest source reading .read ask
        rw [stops] at kept
        change after.rest source = _ at kept
        rw [kept, rest, unbuffered, ended]
        rfl
      · cases outcome
    · have behaves : (reading.callOf source .read ask).osRead = .stalls := by
        simp only [callOf, answer]
      rw [FileDescriptorIterator.perform_stalled polls polled behaves] at outcome
      split_ifs at outcome
    · have behaves : (reading.callOf source .read ask).osRead = .fails := by
        simp only [callOf, answer]
      rw [FileDescriptorIterator.perform_failed polls polled behaves] at outcome
      cases outcome

theorem fill_stops {size : Int}
    (stops : fill source size fuel reading = some (.error .stopIteration, after))
    (isOpen : after.iter.closed = false) : after.rest source = [] := by
  -- by induction on the fuel: only the last round can stop, all others go on with a chunk
  induction fuel generalizing reading with
  | zero => cases stops
  | succ fuel ih =>
    rw [fill] at stops
    split at stops
    · rcases performed : reading.perform source .read (readSize size reading.iter.buf)
        with ⟨outcome, next⟩
      rw [performed] at stops
      cases outcome with
      | data chunk =>
        dsimp only at stops
        split at stops
        · cases stops
        · exact ih stops
      | stopIteration =>
        cases stops
        exact perform_ends performed isOpen
      | _ => cases stops
    · cases stops

theorem readline_stops {size : Int}
    (stops : reading.readline source size fuel = some (.error .stopIteration, after))
    (isOpen : after.iter.closed = false) : reading.rest source = [] := by
  have kept := (readline_rest stops).2 _ rfl
  rw [← kept]
  unfold readline at stops
  split at stops
  · cases stops
  · split at stops
    · cases stops
    · next filled =>
      cases stops
      exact fill_stops filled isOpen
    · cases stops

/-- The budget is spent on lines. -/
theorem collect_lines {sizehint : Nat} {lines : List Bytes}
    (ends : reading.collect source fuel sizehint = some (.ok lines, after))
    (isOpen : after.iter.closed = false) :
    lines = linesOf ((reading.rest source).take sizehint) := by
  -- by induction on the fuel, with the budget that the lines so far have left
  induction fuel generalizing reading sizehint lines with
  | zero => cases ends
  | succ fuel ih =>
    rw [collect] at ends
    rcases read : reading.readline source sizehint fuel with _ | ⟨result, next⟩
    · rw [read] at ends
      cases ends
    · rw [read] at ends
      cases result with
      | error raised =>
        cases raised <;> cases ends
        rw [readline_stops read isOpen, List.take_nil]
        rfl
      | ok line =>
        obtain ⟨same, isLine⟩ := (readline_rest read).1 line rfl
        dsimp only at ends
        -- an empty line: the budget is zero, or the content has ended
        by_cases nothing : line = []
        · rw [if_pos nothing] at ends
          cases ends
          rw [nothing] at isLine
          by_cases asked : (sizehint : Int) = 0
          · have zero : sizehint = 0 := by omega
            rw [zero, List.take_zero]
            rfl
          · rw [(lineOf_eq_nil_iff asked).mp isLine.symm, List.take_nil]
            rfl
        · have filled : reading.rest source ≠ [] := by
            intro none
            rw [none] at same
            exact nothing (List.append_eq_nil_iff.mp same).1
          have some : 0 < sizehint := by
            by_contra none
            have zero : sizehint = 0 := by omega
            rw [zero] at isLine
            exact nothing isLine
          have left : (reading.rest source).drop line.length = next.rest source := by
            rw [← same, List.drop_left]
          have whole := linesOf_take filled some
          rw [← isLine, left] at whole
          rw [if_neg nothing] at ends
          have spent : spend sizehint line = (sizehint : Int) - line.length := if_pos (by omega)
          rw [spent] at ends
          -- the line spends the budget, or the rest of it is spent on later lines
          by_cases done : (sizehint : Int) - line.length ≤ 0
          · rw [if_pos ⟨by omega, done⟩] at ends
            cases ends
            have none : sizehint - line.length = 0 := by omega
            rw [whole, none, List.take_zero]
            rfl
          · rw [if_neg fun both => done both.2] at ends
            obtain ⟨⟨others, last⟩, later, given⟩ := Option.map_eq_some_iff.mp ends
            have budget : (sizehint : Int) - line.length = (sizehint - line.length : Nat) := by
              omega
            rw [budget] at later
            cases others with
            | error raised => cases given
            | ok others =>
              cases given
              rw [whole, ih later]

theorem ReturnsNormally.lines {sizehint : Nat} {lines : List Bytes}
    (returns : reading.ReturnsNormally source sizehint lines) :
    lines = linesOf ((reading.rest source).take sizehint) := by
  obtain ⟨fuel, after, ends, isOpen⟩ := returns
  unfold readlines at ends
  split at ends
  · cases ends
  · exact collect_lines ends isOpen

end Ends

end Reading

/-! ## The daemon -/

section Readlines

variable {file : StorletInputFile} {rounds : Nat}

theorem readlinesLoop_nothing {turns : Nat} {sizehint : Int} {next : StorletInputFile}
    (reads : file.readline rounds sizehint = some (.ok ([], next))) :
    readlinesLoop rounds (turns + 1) sizehint file = some (.ok ([], next)) := by
  rw [readlinesLoop, reads]
  rfl

/-- A hint that is not zero grows, and everything is read. -/
theorem readlinesLoop_spec {turns : Nat} {sizehint : Int} (inWindow : file.InWindow)
    (enough : file.remaining.length < rounds) (more : file.remaining.length < turns)
    (asked : sizehint ≠ 0) :
    ∃ pieces final, readlinesLoop rounds turns sizehint file = some (.ok (pieces, final)) ∧
      pieces.flatten = file.remaining ∧ final.remaining = [] ∧
      ((0 ≤ sizehint → file.remaining.length ≤ sizehint) →
        pieces = linesOf file.remaining) := by
  -- by induction on the turns: the hint grows by what was read, so it is never used up
  induction turns generalizing file sizehint with
  | zero => omega
  | succ turns ih =>
    obtain ⟨next, reads, inside, split⟩ := readline_spec sizehint inWindow enough
    by_cases nothing : lineOf sizehint file.remaining = []
    · have ended := (lineOf_eq_nil_iff asked).mp nothing
      rw [nothing] at reads
      rw [nothing, ended] at split
      refine ⟨[], next, readlinesLoop_nothing reads, ?_, split, ?_⟩
      · rw [ended]
        rfl
      · rw [ended]
        exact fun _ => rfl
    · have lengths := congrArg List.length split
      rw [List.length_append] at lengths
      have positive := List.length_pos_iff.mpr nothing
      have grown : (if 0 ≤ sizehint then
          sizehint + (lineOf sizehint file.remaining).length else sizehint) ≠ 0 := by
        split <;> omega
      obtain ⟨pieces, final, later, whole, ended, lines⟩ :=
        ih inside (by omega) (by omega) grown
      refine ⟨lineOf sizehint file.remaining :: pieces, final, ?_, ?_, ended, ?_⟩
      · rw [readlinesLoop, reads]
        dsimp only
        rw [if_neg nothing, if_neg, later]
        · rfl
        · rintro ⟨sized, spent⟩
          rw [if_pos sized] at spent
          omega
      · rw [List.flatten_cons, whole, split]
      · intro fits
        have filled : file.remaining ≠ [] :=
          fun none => nothing ((lineOf_eq_nil_iff asked).mpr none)
        have isFirst : lineOf sizehint file.remaining = firstLine file.remaining :=
          lineOf_whole fits
        rw [isFirst] at split
        have left : file.remaining.drop (firstLine file.remaining).length = next.remaining := by
          have same := congrArg (List.drop (firstLine file.remaining).length) split
          rw [List.drop_left] at same
          exact same.symm
        rw [linesOf_eq filled, left, isFirst, lines]
        intro sized
        split at sized <;> split <;> omega

/-- The daemon's `readlines` keeps to its hint only where that hint is zero or covers all that is
left. -/
theorem readlines_respects_hint_iff (inWindow : file.InWindow)
    (enough : file.remaining.length < rounds) (sizehint : Nat) :
    RespectsHint rounds file sizehint ↔ sizehint = 0 ∨ file.remaining.length ≤ sizehint := by
  by_cases zero : sizehint = 0
  · obtain ⟨next, reads, _, split⟩ := readline_spec 0 inWindow enough
    have nothing : lineOf 0 file.remaining = [] := rfl
    rw [nothing] at reads split
    have ends : file.readlines rounds 0 = some (.ok ([], next)) := by
      obtain ⟨turns, rfl⟩ := Nat.exists_eq_add_of_lt enough
      exact readlinesLoop_nothing reads
    rw [zero]
    refine iff_of_true ⟨[], next, ends, ?_, split, nofun, ?_⟩ (.inl rfl)
    · rw [List.take_zero]
      rfl
    · intro source reading lines _ returns
      have given := returns.lines
      rw [List.take_zero] at given
      exact given
  · obtain ⟨pieces, final, ends, whole, ended, lines⟩ :=
      readlinesLoop_spec inWindow enough enough (show (sizehint : Int) ≠ 0 by omega)
    constructor
    · rintro ⟨others, last, ends', front, _⟩
      have same : some (Except.ok (pieces, final)) =
          (some (Except.ok (others, last)) : Option (Except FileError _)) := ends.symm.trans ends'
      cases same
      rw [whole] at front
      have lengths := congrArg List.length front
      rw [List.length_take] at lengths
      exact .inr (by omega)
    · intro fits
      have fits := fits.resolve_left zero
      have isLines : pieces = linesOf file.remaining := lines fun _ => by omega
      have front : file.remaining.take sizehint = file.remaining := List.take_of_length_le fits
      refine ⟨pieces, final, ends, ?_, ?_, ?_, ?_⟩
      · rw [front, whole]
      · rw [whole, ended, List.append_nil]
      · rw [isLines]
        exact isLine_of_linesOf
      · intro source reading others same returns
        rw [returns.lines, same, front, isLines]

def twoLineFile : StorletInputFile where
  metadata := .empty
  objFile := { content := [97, 10, 98, 10], seekable := false }

theorem twoLineFile_inWindow : twoLineFile.InWindow := by
  intro window found
  cases found

theorem two_lines_respect_hint : RespectsHint 5 twoLineFile 4 ↔ 4 = 0 ∨ 4 ≤ 4 :=
  readlines_respects_hint_iff twoLineFile_inWindow (by decide) 4

theorem hint_of_two_ignored : ¬ ∀ (file : StorletInputFile) (rounds sizehint : Nat),
    file.InWindow → file.remaining.length < rounds → RespectsHint rounds file sizehint := by
  intro always
  obtain ⟨pieces, final, ends, front, _⟩ := always twoLineFile 5 2 twoLineFile_inWindow (by decide)
  have reads : twoLineFile.readlines 5 2 = some (.ok ([[97, 10], [98, 10]], _)) := rfl
  have same : some (Except.ok ([[97, 10], [98, 10]], _)) =
      (some (Except.ok (pieces, final)) : Option (Except FileError _)) := reads.symm.trans ends
  cases same
  revert front
  decide

end Readlines

end Storlets
