import Mathlib.Logic.Relation
import Storlets.Gateway.Lines

set_option autoImplicit false

/-!
# Where the loops of a line end

The loop of `readline` reads only what its buffer lacks. When it lacks nothing, or nothing is
unread, the loop gets back the bytes of the buffer, turn after turn.
-/

namespace Storlets

/-- A descriptor that is always ready: only the sizes of its chunks differ. -/
def chunked (content : List UInt8) (more : Nat → Nat) : Source :=
  ⟨content, fun turn => ⟨true, .chunk (more turn), false⟩⟩

/-- Bytes that `readline` lets the buffer have when it holds so many. -/
def asked (size : Int) (held : Nat) : Nat :=
  if size < 0 then 64 * 1024 else (size - held).toNat

/-- The length at which the buffer stops growing, of `total` bytes. The fuel counts the bytes
that are unread. -/
def settled (more : Nat → Nat) (size : Int) (total : Nat) : Nat → Nat → Nat → Nat
  | 0, _, held => held
  | fuel + 1, turn, held =>
      if held < asked size held ∧ held < total then
        settled more size total fuel (turn + 1)
          (held + min (more turn + 1) (min (asked size held - held) (total - held)))
      else held

namespace Reading

section Endings

variable (content : List UInt8) (more : Nat → Nat) (size : Int) (reading : Reading)

/-- The buffer ends its growth with a newline or with the size, or nothing is left. -/
def LineEnds : Prop :=
  let left := reading.rest (chunked content more)
  let length := settled more size left.length (reading.unread (chunked content more)).length
    reading.turns reading.iter.buf.length
  left = [] ∨ newline ∈ left.take length ∨ (0 ≤ size ∧ size ≤ length)

def ReadlineEnds : Prop := ∃ fuel, (reading.readline (chunked content more) size fuel).isSome

def ReadlinesEnds : Prop := ∃ fuel, (reading.readlines (chunked content more) size fuel).isSome

end Endings

theorem le_settled (more : Nat → Nat) (size : Int) (total fuel turn held : Nat) :
    held ≤ settled more size total fuel turn held := by
  induction fuel generalizing turn held with
  | zero => exact le_rfl
  | succ fuel ih =>
    unfold settled
    split_ifs
    · exact le_trans (Nat.le_add_right _ _) (ih _ _)
    · exact le_rfl

theorem asked_eq {size : Int} {buf : List UInt8} (wants : Wants size buf) :
    (asked size buf.length : Int) = readSize size buf := by
  unfold asked readSize
  rcases wants.2 with negative | short <;> split_ifs <;> omega

section Loop

variable {content : List UInt8} {more : Nat → Nat} {size : Int} {reading : Reading}

/-- What a read brings to a buffer that lacks bytes. -/
def fresh (content : List UInt8) (more : Nat → Nat) (ask : Nat) (reading : Reading) : List UInt8 :=
  (reading.unread (chunked content more)).take
    (min (ask - reading.iter.buf.length) (more reading.turns + 1))

theorem fresh_eq_nil {ask : Nat} (short : reading.iter.buf.length < ask) :
    reading.fresh content more ask = [] ↔ reading.unread (chunked content more) = [] := by
  have some : min (ask - reading.iter.buf.length) (more reading.turns + 1) ≠ 0 := by omega
  rw [fresh, List.take_eq_nil_iff, or_iff_right some]

theorem perform_chunked {ask : Nat} (isOpen : reading.iter.closed = false)
    (short : reading.iter.buf.length < ask) : ∃ outcome next,
      reading.perform (chunked content more) .read ask = (outcome, next) ∧
      next.iter.closed = false ∧ next.turns = reading.turns + 1 ∧
      next.iter.received = reading.iter.received ++ reading.fresh content more ask ∧
      (if reading.rest (chunked content more) = [] then outcome = .stopIteration
        else outcome = .data (reading.iter.buf ++ reading.fresh content more ask) ∧
          next.iter.buf = []) := by
  have polls : reading.iter.Polls (reading.callOf (chunked content more) .read ask) :=
    ⟨isOpen, Int.ofNat_lt.mpr short⟩
  have ends := FileDescriptorIterator.perform_polled polls rfl
  have count : ((ask : Int) - reading.iter.buf.length).toNat = ask - reading.iter.buf.length := by
    omega
  have chunk : reading.iter.readWithTimeout (reading.callOf (chunked content more) .read ask)
      ((ask : Int) - reading.iter.buf.length).toNat =
        (.ok (reading.fresh content more ask), { reading.iter with
          received := reading.iter.received ++ reading.fresh content more ask
          sawEnd := reading.iter.sawEnd || (reading.fresh content more ask).isEmpty }) := by
    change (Except.ok (((reading.unread (chunked content more)).take
      (more reading.turns + 1)).take _), _) = _
    rw [count, List.take_take]
    rfl
  have nothing : reading.iter.buf ++ reading.fresh content more ask = [] ↔
      reading.rest (chunked content more) = [] := by
    rw [List.append_eq_nil_iff, fresh_eq_nil short, rest, List.append_eq_nil_iff]
  have size : (reading.callOf (chunked content more) .read ask).size = ask := rfl
  rw [size, chunk] at ends
  dsimp only at ends
  unfold perform
  rw [ends]
  by_cases empty : reading.rest (chunked content more) = []
  · rw [if_pos (nothing.mpr empty)]
    refine ⟨_, _, rfl, isOpen, rfl, rfl, ?_⟩
    rw [if_pos empty]
  · rw [if_neg fun gone => empty (nothing.mp gone)]
    have whole : ¬ (ask : Int) <
        (reading.iter.buf ++ reading.fresh content more ask).length := by
      rw [List.length_append, fresh, List.length_take]
      omega
    rw [FileDescriptorIterator.deliver, if_neg whole]
    refine ⟨_, _, rfl, isOpen, rfl, rfl, ?_⟩
    rw [if_neg empty]
    exact ⟨congrArg _ (List.take_length ..), List.drop_length ..⟩

/-- The loop after a read that brought bytes. -/
theorem fill_succ (wants : Wants size reading.iter.buf) (isOpen : reading.iter.closed = false)
    (short : reading.iter.buf.length < asked size reading.iter.buf.length)
    (some : reading.rest (chunked content more) ≠ []) : ∃ next : Reading,
      (∀ fuel, fill (chunked content more) size (fuel + 1) reading =
        fill (chunked content more) size fuel next) ∧
      next.iter.closed = false ∧ next.turns = reading.turns + 1 ∧
      next.iter.received = reading.iter.received ++
        reading.fresh content more (asked size reading.iter.buf.length) ∧
      next.iter.buf = reading.iter.buf ++
        reading.fresh content more (asked size reading.iter.buf.length) := by
  obtain ⟨outcome, next, ends, stays, turns, received, returned⟩ :=
    @perform_chunked content more _ _ isOpen short
  rw [if_neg some] at returned
  obtain ⟨rfl, left⟩ := returned
  rw [asked_eq wants] at ends
  have bytes : reading.iter.buf ++
      reading.fresh content more (asked size reading.iter.buf.length) ≠ [] := by
    intro nothing
    obtain ⟨empty, none⟩ := List.append_eq_nil_iff.mp nothing
    rw [fresh_eq_nil short] at none
    exact some (List.append_eq_nil_iff.mpr ⟨empty, none⟩)
  refine ⟨next.withBuf (next.iter.buf ++ (reading.iter.buf ++
    reading.fresh content more (asked size reading.iter.buf.length))), fun fuel => ?_, stays, turns,
    received, ?_⟩
  · rw [fill, if_pos wants, ends]
    dsimp only
    rw [if_neg bytes]
  · rw [left]
    rfl

/-- Nothing is unread: the loop gets what it has. -/
theorem fill_dry (fuel : Nat) (wants : Wants size reading.iter.buf)
    (isOpen : reading.iter.closed = false) (some : reading.iter.buf ≠ [])
    (dry : reading.unread (chunked content more) = []) :
    fill (chunked content more) size fuel reading = none := by
  induction fuel generalizing reading with
  | zero => rfl
  | succ fuel ih =>
    by_cases short : reading.iter.buf.length < asked size reading.iter.buf.length
    · have nothing := (fresh_eq_nil short).mpr dry
      obtain ⟨next, goesOn, stays, -, received, buf⟩ := fill_succ wants isOpen short
        (fun gone => some (List.append_eq_nil_iff.mp gone).1)
      rw [nothing, List.append_nil] at received buf
      rw [goesOn]
      exact ih (buf ▸ wants) stays (buf ▸ some) (by rw [unread, received]; exact dry)
    · refine fill_stuck (fuel + 1) isOpen wants ?_
      rw [← asked_eq wants]
      omega

theorem mem_take_rest {source : Source} {length : Nat} (held : reading.iter.buf.length ≤ length)
    (found : newline ∈ reading.iter.buf) : newline ∈ (reading.rest source).take length := by
  rw [rest, List.take_append, List.take_of_length_le held]
  exact List.mem_append_left _ found

theorem rest_succ {next : Reading} {source : Source} {chunk : List UInt8}
    (begins : chunk <+: reading.unread source)
    (received : next.iter.received = reading.iter.received ++ chunk)
    (buf : next.iter.buf = reading.iter.buf ++ chunk) :
    next.rest source = reading.rest source ∧
      (next.unread source).length + chunk.length = (reading.unread source).length := by
  have left : next.unread source = (reading.unread source).drop chunk.length := by
    unfold unread
    rw [received, List.length_append, List.drop_drop]
  have whole := List.prefix_iff_eq_append.mp begins
  constructor
  · rw [rest, rest, left, buf, List.append_assoc, whole]
  · have lengths := congrArg List.length whole
    rw [List.length_append] at lengths
    rw [left, ← lengths, Nat.add_comm]

/-- The buffer lacks bytes, and some are unread. -/
def Grows (content : List UInt8) (more : Nat → Nat) (size : Int) (reading : Reading) : Prop :=
  reading.iter.buf.length < asked size reading.iter.buf.length ∧
    reading.iter.buf.length < (reading.rest (chunked content more)).length

/-- Where nothing comes to the buffer any more the loop does not end. -/
theorem fill_settled (fuel : Nat) (wants : Wants size reading.iter.buf)
    (isOpen : reading.iter.closed = false) (some : reading.rest (chunked content more) ≠ [])
    (settles : ¬ reading.Grows content more size) :
    fill (chunked content more) size fuel reading = none := by
  by_cases short : reading.iter.buf.length < asked size reading.iter.buf.length
  · have dry : reading.unread (chunked content more) = [] := by
      have lengths : (reading.rest (chunked content more)).length = reading.iter.buf.length +
          (reading.unread (chunked content more)).length := List.length_append ..
      have whole : ¬ reading.iter.buf.length < (reading.rest (chunked content more)).length :=
        fun unread => settles ⟨short, unread⟩
      apply List.eq_nil_of_length_eq_zero
      omega
    refine fill_dry fuel wants isOpen (fun none => some ?_) dry
    rw [rest, none, dry, List.append_nil]
  · refine fill_stuck fuel isOpen wants ?_
    rw [← asked_eq wants]
    omega

/-- The loop where it has no more to read for. -/
theorem fill_now {length : Nat} (isOpen : reading.iter.closed = false)
    (held : reading.iter.buf.length ≤ length)
    (settles : Wants size reading.iter.buf → reading.rest (chunked content more) ≠ [] →
      ¬ reading.Grows content more size ∧ length = reading.iter.buf.length) :
    (∃ fuel, (fill (chunked content more) size fuel reading).isSome) ↔
      reading.rest (chunked content more) = [] ∨
        newline ∈ (reading.rest (chunked content more)).take length ∨
        (0 ≤ size ∧ size ≤ length) := by
  by_cases wants : Wants size reading.iter.buf
  · by_cases some : reading.rest (chunked content more) = []
    · refine iff_of_true ⟨1, ?_⟩ (.inl some)
      have empty := (List.append_eq_nil_iff.mp some).1
      have positive := readSize_pos wants
      rw [← asked_eq wants] at positive
      have short : reading.iter.buf.length < asked size reading.iter.buf.length := by
        rw [empty] at positive ⊢
        exact Int.natCast_pos.mp positive
      obtain ⟨outcome, next, ends, -, -, -, stops⟩ := @perform_chunked content
        more _ (asked size reading.iter.buf.length) isOpen short
      rw [if_pos some] at stops
      rw [fill, if_pos wants, ← asked_eq wants, ends, stops]
      rfl
    · obtain ⟨still, rfl⟩ := settles wants some
      refine iff_of_false ?_ ?_
      · rintro ⟨fuel, ends⟩
        rw [fill_settled fuel wants isOpen some still] at ends
        cases ends
      · rintro (nothing | found | enough)
        · exact some nothing
        · rw [rest, List.take_left] at found
          exact wants.1 found
        · rcases wants.2 with negative | short <;> omega
  · refine iff_of_true ⟨1, by rw [fill, if_neg wants]; rfl⟩ (.inr ?_)
    by_cases found : newline ∈ reading.iter.buf
    · exact .inl (mem_take_rest held found)
    · have enough : ¬ (size < 0 ∨ (reading.iter.buf.length : Int) < size) :=
        fun short => wants ⟨found, short⟩
      omega

/-- The loop grows the buffer to its settled length, and ends if it ends there. -/
theorem fill_ends_iff {count : Nat} (isOpen : reading.iter.closed = false)
    (bound : (reading.unread (chunked content more)).length ≤ count) :
    (∃ fuel, (fill (chunked content more) size fuel reading).isSome) ↔
      reading.rest (chunked content more) = [] ∨
        newline ∈ (reading.rest (chunked content more)).take
          (settled more size (reading.rest (chunked content more)).length count reading.turns
            reading.iter.buf.length) ∨
        (0 ≤ size ∧ size ≤ settled more size (reading.rest (chunked content more)).length count
          reading.turns reading.iter.buf.length) := by
  have split : (reading.rest (chunked content more)).length = reading.iter.buf.length +
      (reading.unread (chunked content more)).length := List.length_append ..
  induction count generalizing reading with
  | zero =>
    refine fill_now isOpen le_rfl fun _ _ => ⟨fun grows => ?_, rfl⟩
    have unread := grows.2
    omega
  | succ count ih =>
    by_cases goes : Wants size reading.iter.buf ∧ reading.rest (chunked content more) ≠ [] ∧
      reading.Grows content more size
    · obtain ⟨wants, some, grows⟩ := goes
      obtain ⟨next, goesOn, stays, turns, received, buf⟩ := fill_succ wants isOpen grows.1 some
      have begins : reading.fresh content more (asked size reading.iter.buf.length) <+:
          reading.unread (chunked content more) := List.take_prefix ..
      obtain ⟨same, lengths⟩ := rest_succ begins received buf
      have chunk : (reading.fresh content more (asked size reading.iter.buf.length)).length =
          min (more reading.turns + 1) (min (asked size reading.iter.buf.length -
            reading.iter.buf.length) ((reading.rest (chunked content more)).length -
              reading.iter.buf.length)) := by
        rw [fresh, List.length_take]
        omega
      obtain ⟨lacks, left⟩ := grows
      have shrinks : (next.unread (chunked content more)).length ≤ count := by omega
      have later := ih stays shrinks (List.length_append ..)
      have onward : (∃ fuel, (fill (chunked content more) size fuel reading).isSome) ↔
          ∃ fuel, (fill (chunked content more) size fuel next).isSome := by
        constructor
        · rintro ⟨fuel, ends⟩
          cases fuel with
          | zero => cases ends
          | succ fuel => exact ⟨fuel, goesOn fuel ▸ ends⟩
        · rintro ⟨fuel, ends⟩
          exact ⟨fuel + 1, (goesOn fuel).symm ▸ ends⟩
      rw [onward]
      refine later.trans ?_
      rw [same, turns, buf, List.length_append, chunk, settled, if_pos ⟨lacks, left⟩]
    · refine fill_now isOpen (le_settled ..) fun wants some => ?_
      have still : ¬ reading.Grows content more size := fun grows => goes ⟨wants, some, grows⟩
      exact ⟨still, if_neg still⟩

end Loop

/-! ## More fuel changes nothing -/

section Fuel

variable {source : Source} {size : Int} {reading : Reading} {fuel more : Nat}

theorem fill_mono (enough : fuel ≤ more) {ended : Except IterOutcome Unit × Reading}
    (ends : fill source size fuel reading = some ended) :
    fill source size more reading = some ended := by
  induction fuel generalizing reading more with
  | zero => cases ends
  | succ fuel ih =>
    cases more with
    | zero => omega
    | succ more =>
      rw [fill] at ends ⊢
      by_cases wants : Wants size reading.iter.buf
      · rw [if_pos wants] at ends ⊢
        rcases performed : reading.perform source .read (readSize size reading.iter.buf)
          with ⟨outcome, next⟩
        rw [performed] at ends
        cases outcome with
        | data chunk =>
          by_cases none : chunk = []
          · simpa only [if_pos none] using ends
          · simp only [if_neg none] at ends ⊢
            exact ih (Nat.le_of_succ_le_succ enough) ends
        | _ => exact ends
      · rw [if_neg wants] at ends ⊢
        exact ends

theorem readline_mono (enough : fuel ≤ more) {ended : Except IterOutcome (List UInt8) × Reading}
    (ends : reading.readline source size fuel = some ended) :
    reading.readline source size more = some ended := by
  unfold readline at ends ⊢
  split at ends
  · next closed => rw [if_pos closed, ends]
  · next isOpen =>
    rw [if_neg isOpen]
    rcases filled : fill source size fuel reading with _ | stop
    · rw [filled] at ends
      cases ends
    · rw [filled] at ends
      rw [fill_mono enough filled, ends]

theorem collect_mono (enough : fuel ≤ more)
    {ended : Except IterOutcome (List (List UInt8)) × Reading}
    (ends : reading.collect source fuel size = some ended) :
    reading.collect source more size = some ended := by
  induction fuel generalizing reading size more ended with
  | zero => cases ends
  | succ fuel ih =>
    cases more with
    | zero => omega
    | succ more =>
      have smaller := Nat.le_of_succ_le_succ enough
      rw [collect] at ends ⊢
      rcases read : reading.readline source size fuel with _ | ⟨result, next⟩
      · rw [read] at ends
        cases ends
      · rw [readline_mono smaller read]
        rw [read] at ends
        cases result with
        | error raised => cases raised <;> exact ends
        | ok line =>
          dsimp only at ends ⊢
          split at ends
          · next nothing => rw [if_pos nothing, ends]
          · next something =>
            rw [if_neg something]
            split at ends
            · next spent => rw [if_pos spent, ends]
            · next unspent =>
              rw [if_neg unspent]
              obtain ⟨collected, later, given⟩ := Option.map_eq_some_iff.mp ends
              rw [ih smaller later, ← given]
              rfl

end Fuel

/-! ## The calls -/

/-- `readlines` goes on to the next line. -/
def Continues (source : Source) (before after : Int × Reading) : Prop :=
  ∃ fuel line, before.2.readline source before.1 fuel = some (.ok line, after.2) ∧
    line ≠ [] ∧ after.1 = spend before.1 line ∧ ¬ (0 ≤ before.1 ∧ after.1 ≤ 0)

section Calls

variable {content : List UInt8} {more : Nat → Nat} {size : Int} {reading : Reading}

theorem readline_ends_iff (isOpen : reading.iter.closed = false) :
    reading.ReadlineEnds content more size ↔ reading.LineEnds content more size := by
  unfold LineEnds
  rw [← fill_ends_iff isOpen le_rfl, ReadlineEnds]
  refine exists_congr fun fuel => ?_
  rw [readline, if_neg (by rw [isOpen]; exact Bool.false_ne_true)]
  rcases fill (chunked content more) size fuel reading with _ | ⟨_ | _, next⟩
  · rfl
  · exact iff_of_true rfl rfl
  · exact iff_of_true rfl rfl

theorem fill_open {source : Source} {fuel : Nat} {after : Reading}
    (isOpen : reading.iter.closed = false)
    (ends : fill source size fuel reading = some (.ok (), after)) : after.iter.closed = false := by
  induction fuel generalizing reading with
  | zero => cases ends
  | succ fuel ih =>
    rw [fill] at ends
    split at ends
    · rcases performed : reading.perform source .read (readSize size reading.iter.buf)
        with ⟨outcome, next⟩
      rw [performed] at ends
      cases outcome with
      | data chunk =>
        have stays : next.iter.closed = false := by
          by_cases short : (reading.iter.buf.length : Int) < readSize size reading.iter.buf
          · obtain ⟨-, -, stays⟩ := @FileDescriptorIterator.perform_short _
              (reading.callOf source .read (readSize size reading.iter.buf)) _
              short (congrArg Prod.fst performed)
            exact (congrArg (fun ended => ended.2.iter.closed) performed).symm.trans stays
          · have whole := @FileDescriptorIterator.perform_filled _
              (reading.callOf source .read (readSize size reading.iter.buf)) isOpen
              (Int.not_lt.mp short)
            have same := congrArg (fun ended => ended.2.closed) whole
            exact (congrArg (fun ended => ended.2.iter.closed) performed).symm.trans
              (same.trans isOpen)
        dsimp only at ends
        split at ends
        · obtain ⟨-, rfl⟩ := Prod.mk.inj (Option.some.inj ends)
          exact stays
        · refine ih ?_ ends
          exact stays
      | _ => cases ends
    · obtain ⟨-, rfl⟩ := Prod.mk.inj (Option.some.inj ends)
      exact isOpen

theorem readline_open {source : Source} {fuel : Nat} {line : List UInt8} {after : Reading}
    (isOpen : reading.iter.closed = false)
    (ends : reading.readline source size fuel = some (.ok line, after)) :
    after.iter.closed = false := by
  rw [readline, if_neg (by rw [isOpen]; exact Bool.false_ne_true)] at ends
  rcases filled : fill source size fuel reading with _ | ⟨_ | _, next⟩
  · rw [filled] at ends
    cases ends
  · rw [filled] at ends
    cases ends
  · rw [filled] at ends
    have stays := fill_open isOpen filled
    obtain ⟨-, rfl⟩ := Prod.mk.inj (Option.some.inj ends)
    exact stays

theorem collect_isSome {source : Source} {fuel : Nat} :
    (reading.collect source (fuel + 1) size).isSome ↔
      ∃ result next, reading.readline source size fuel = some (result, next) ∧
        ∀ line, result = .ok line → line ≠ [] → ¬ (0 ≤ size ∧ spend size line ≤ 0) →
          (next.collect source fuel (spend size line)).isSome := by
  rw [collect]
  rcases read : reading.readline source size fuel with _ | ⟨result, next⟩
  · simp
  · cases result with
    | error raised =>
      refine iff_of_true (by cases raised <;> rfl) ⟨_, _, rfl, fun line given => ?_⟩
      cases given
    | ok line =>
      dsimp only
      by_cases none : line = []
      · rw [if_pos none]
        refine iff_of_true rfl ⟨_, _, rfl, fun other given some => ?_⟩
        exact absurd (Except.ok.inj given ▸ none) some
      · rw [if_neg none]
        by_cases spent : 0 ≤ size ∧ spend size line ≤ 0
        · rw [if_pos spent]
          refine iff_of_true rfl ⟨_, _, rfl, fun other given _ left => ?_⟩
          exact absurd (Except.ok.inj given ▸ spent) left
        · rw [if_neg spent, Option.isSome_map]
          constructor
          · intro later
            refine ⟨_, _, rfl, fun other given _ _ => ?_⟩
            rwa [← Except.ok.inj given]
          · rintro ⟨result, last, given, goesOn⟩
            obtain ⟨rfl, rfl⟩ := Prod.mk.inj (Option.some.inj given)
            exact goesOn line rfl none spent

theorem continues_shrinks {source : Source} {after : Int × Reading}
    (isOpen : reading.iter.closed = false) (goesOn : Continues source (size, reading) after) :
    after.2.iter.closed = false ∧
      (after.2.rest source).length < (reading.rest source).length := by
  obtain ⟨fuel, line, ends, some, -⟩ := goesOn
  refine ⟨readline_open isOpen ends, ?_⟩
  obtain ⟨whole, -⟩ := (readline_rest ends).1 line rfl
  have positive := List.length_pos_of_ne_nil some
  rw [← whole, List.length_append]
  omega

theorem collect_ends {fuel : Nat} (isOpen : reading.iter.closed = false)
    (ends : (reading.collect (chunked content more) fuel size).isSome) (state : Int × Reading)
    (reached : Relation.ReflTransGen (Continues (chunked content more)) (size, reading) state) :
    state.2.LineEnds content more state.1 := by
  induction fuel generalizing size reading with
  | zero => cases ends
  | succ fuel ih =>
    obtain ⟨result, next, read, goesOn⟩ := collect_isSome.mp ends
    rcases Relation.ReflTransGen.cases_head reached with rfl | ⟨middle, first, later⟩
    · exact (readline_ends_iff isOpen).mp ⟨fuel, Option.isSome_of_eq_some read⟩
    · obtain ⟨stays, -⟩ := continues_shrinks isOpen first
      obtain ⟨hint, middle⟩ := middle
      obtain ⟨other, line, reads, some, rfl, unspent⟩ := first
      have same := (readline_mono (Nat.le_max_left fuel other) read).symm.trans
        (readline_mono (Nat.le_max_right fuel other) reads)
      obtain ⟨rfl, rfl⟩ := Prod.mk.inj (Option.some.inj same)
      exact ih stays (goesOn line rfl some unspent) later

theorem collect_of_lines {left : Nat} (isOpen : reading.iter.closed = false)
    (shorter : (reading.rest (chunked content more)).length < left)
    (lines : ∀ state, Relation.ReflTransGen (Continues (chunked content more)) (size, reading)
      state → state.2.LineEnds content more state.1) :
    ∃ fuel, (reading.collect (chunked content more) fuel size).isSome := by
  induction left generalizing size reading with
  | zero => omega
  | succ left ih =>
    obtain ⟨fuel, reads⟩ := (readline_ends_iff isOpen).mpr (lines _ .refl)
    obtain ⟨ended, read⟩ := Option.isSome_iff_exists.mp reads
    rcases ended with ⟨result, next⟩
    by_cases goesOn : ∃ line, result = .ok line ∧ line ≠ [] ∧
      ¬ (0 ≤ size ∧ spend size line ≤ 0)
    · obtain ⟨line, rfl, some, unspent⟩ := goesOn
      have first : Continues (chunked content more) (size, reading) (spend size line, next) :=
        ⟨fuel, line, read, some, rfl, unspent⟩
      obtain ⟨stays, shrinks⟩ := continues_shrinks isOpen first
      have fewer : (next.rest (chunked content more)).length < left :=
        Nat.lt_of_lt_of_le shrinks (Nat.le_of_lt_succ shorter)
      obtain ⟨others, later⟩ := ih stays fewer
        fun state reached => lines state (.head first reached)
      refine ⟨max fuel others + 1, collect_isSome.mpr ⟨_, _,
        readline_mono (Nat.le_max_left ..) read, fun other given _ _ => ?_⟩⟩
      obtain ⟨collected, ends⟩ := Option.isSome_iff_exists.mp later
      rw [← Except.ok.inj given, collect_mono (Nat.le_max_right ..) ends]
      rfl
    · refine ⟨fuel + 1, collect_isSome.mpr ⟨_, _, read, fun line given some unspent => ?_⟩⟩
      exact absurd ⟨line, given, some, unspent⟩ goesOn

theorem readlines_ends_iff (isOpen : reading.iter.closed = false) :
    reading.ReadlinesEnds content more size ↔
      ∀ state, Relation.ReflTransGen (Continues (chunked content more)) (size, reading) state →
        state.2.LineEnds content more state.1 := by
  have loop (fuel : Nat) : reading.readlines (chunked content more) size fuel =
      reading.collect (chunked content more) fuel size := by
    rw [readlines, if_neg (by rw [isOpen]; exact Bool.false_ne_true)]
  unfold ReadlinesEnds
  constructor
  · rintro ⟨fuel, ends⟩
    rw [loop] at ends
    exact collect_ends isOpen ends
  · intro lines
    obtain ⟨fuel, ends⟩ := collect_of_lines isOpen (Nat.lt_succ_self _) lines
    exact ⟨fuel, loop fuel ▸ ends⟩

end Calls

/-- On a descriptor that is always ready, the loops of `readline` and `readlines` end if and only
if every line they begin ends: the iterator is closed, nothing is left, or the buffer stops growing
where it has the newline or the size. -/
theorem line_loops_end_iff (content : List UInt8) (more : Nat → Nat) (reading : Reading)
    (size : Int) :
    (reading.ReadlineEnds content more size ↔
      reading.iter.closed ∨ reading.LineEnds content more size) ∧
    (reading.ReadlinesEnds content more size ↔
      reading.iter.closed ∨ ∀ state,
        Relation.ReflTransGen (Continues (chunked content more)) (size, reading) state →
          state.2.LineEnds content more state.1) := by
  cases closed : reading.iter.closed with
  | true =>
    constructor
    · refine iff_of_true ⟨0, ?_⟩ (.inl rfl)
      rw [readline, if_pos closed]
      rfl
    · refine iff_of_true ⟨0, ?_⟩ (.inl rfl)
      rw [readlines, if_pos closed]
      rfl
  | false =>
    constructor
    · rw [readline_ends_iff closed, or_iff_right Bool.false_ne_true]
    · rw [readlines_ends_iff closed, or_iff_right Bool.false_ne_true]

/-- Without a size the chunks make no difference: a newline has to come within 64 KiB. -/
theorem settled_unlimited {more : Nat → Nat} {size : Int} (negative : size < 0)
    {total fuel held : Nat} (turn : Nat) (within : held ≤ total) (enough : total ≤ held + fuel) :
    settled more size total fuel turn held = max held (min total (64 * 1024)) := by
  have ask (held : Nat) : asked size held = 64 * 1024 := if_pos negative
  induction fuel generalizing turn held with
  | zero =>
    rw [settled]
    omega
  | succ fuel ih =>
    rw [settled, ask]
    split_ifs with grows
    · rw [ih _ (by omega) (by omega)]
      omega
    · omega

theorem lineEnds_unlimited {content : List UInt8} {more : Nat → Nat} {size : Int}
    {reading : Reading} (negative : size < 0) :
    reading.LineEnds content more size ↔ reading.rest (chunked content more) = [] ∨
      newline ∈ (reading.rest (chunked content more)).take
        (max reading.iter.buf.length (64 * 1024)) := by
  have split : (reading.rest (chunked content more)).length = reading.iter.buf.length +
      (reading.unread (chunked content more)).length := List.length_append ..
  have length := @settled_unlimited more _ negative _ _ _ reading.turns
    (by omega : reading.iter.buf.length ≤ (reading.rest (chunked content more)).length) split.le
  have same : (reading.rest (chunked content more)).take (max reading.iter.buf.length
      (min (reading.rest (chunked content more)).length (64 * 1024))) =
        (reading.rest (chunked content more)).take (max reading.iter.buf.length (64 * 1024)) := by
    rw [List.take_eq_take_iff]
    omega
  have unbounded (other : Nat) : ¬ (0 ≤ size ∧ size ≤ other) := by omega
  unfold LineEnds
  dsimp only
  rw [length, same, or_iff_left (unbounded _)]

/-- One byte and no newline. -/
theorem unterminated_line_never_ends : ¬ ∀ (content : List UInt8) (more : Nat → Nat)
    (reading : Reading) (size : Int),
    reading.ReadlineEnds content more size ∧ reading.ReadlinesEnds content more size := by
  intro always
  obtain ⟨ends, -⟩ := always [97] (fun _ => 0) (start true) (-1)
  rw [readline_ends_iff rfl] at ends
  unfold LineEnds at ends
  revert ends
  decide

end Reading

end Storlets
