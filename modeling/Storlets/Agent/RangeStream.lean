import Storlets.Agent.Cursor
import Storlets.Library.ByteWire
import Storlets.Library.Runs

set_option autoImplicit false

/-!
# The range stream of the Java daemon

What is left of the range is kept in an `int`, beside the position of the file.
-/

namespace Storlets

open ByteWire Runs

/-- A value that is cast to `int`. -/
def castInt (value : Int) : Int := wrapInt (value % 4294967296).toNat

inductive StreamError where
  | ioException
  | indexOutOfBounds
  deriving DecidableEq

structure FileInputStream where
  content : Bytes
  position : Nat := 0

namespace FileInputStream

def read (file : FileInputStream) : Option UInt8 × FileInputStream :=
  match file.content[file.position]? with
  | some byte => (some byte, { file with position := file.position + 1 })
  | none => (none, file)

/-- `read(b, off, len)`; the system gives at least one of the bytes, and so many more. -/
def readInto (file : FileInputStream) (size : Nat) (off len : Int) (more : Nat) :
    Except StreamError (Option Bytes × FileInputStream) :=
  if off < 0 ∨ len < 0 ∨ size - off < len then .error .indexOutOfBounds
  else if len = 0 then .ok (some [], file)
  else
    let chunk := ((file.content.drop file.position).take len.toNat).take (more + 1)
    if chunk = [] then .ok (none, file)
    else .ok (some chunk, { file with position := file.position + chunk.length })

/-- The position may go beyond the end of the file, and not before its start. -/
def skip (file : FileInputStream) (count : Int) : Except StreamError (Int × FileInputStream) :=
  if file.position + count < 0 then .error .ioException
  else .ok (count, { file with position := (file.position + count).toNat })

end FileInputStream

structure RangeFileInputStream where
  file : FileInputStream
  start : Int
  «end» : Int
  available : Int

namespace RangeFileInputStream

def init (content : Bytes) (start stop : Int) : Except StreamError RangeFileInputStream := do
  let (_, file) ← FileInputStream.skip { content } start
  return { file, start, «end» := stop, available := castInt (stop - start) }

def read (stream : RangeFileInputStream) : Option UInt8 × RangeFileInputStream :=
  if 0 < stream.available then
    let (byte, file) := stream.file.read
    (byte, { stream with file, available := stream.available - 1 })
  else (none, stream)

/-- `read(b)`, where a -1 is taken off what is available too. -/
def readArray (stream : RangeFileInputStream) (size more : Nat) :
    Except StreamError (Option Bytes × RangeFileInputStream) :=
  if stream.available ≤ 0 then .ok (none, stream)
  else do
    let (chunk, file) ← stream.file.readInto size 0 stream.available more
    let bytesRead : Int := (chunk.map fun bytes => (bytes.length : Int)).getD (-1)
    return (chunk, { stream with file, available := castInt (stream.available - bytesRead) })

def readInto (stream : RangeFileInputStream) (size : Nat) (off len : Int) (more : Nat) :
    Except StreamError (Option Bytes × RangeFileInputStream) :=
  if len = 0 then .ok (some [], stream)
  else if stream.available ≤ 0 then .ok (none, stream)
  else do
    let lenToRead := if stream.available < len then stream.available else len
    let (chunk, file) ← stream.file.readInto size off lenToRead more
    match chunk with
    | some (byte :: bytes) =>
        return (some (byte :: bytes), { stream with
          file, available := castInt (stream.available - (byte :: bytes).length) })
    | _ => return (none, { stream with file })

def skip (stream : RangeFileInputStream) (count : Int) :
    Except StreamError (Int × RangeFileInputStream) := do
  let toskip := if stream.available < count then stream.available else count
  let (skipped, file) ← stream.file.skip toskip
  let available := if 0 < skipped then castInt (stream.available - skipped) else stream.available
  return (skipped, { stream with file, available })

end RangeFileInputStream

/-- A call, with how much the system reads in it. -/
inductive StreamCall where
  | read
  | readArray (size more : Nat)
  | readInto (size off len more : Nat) (inside : off + len ≤ size)
  | skip (count : Int)

inductive StreamResult where
  | bytes (data : Bytes)
  /-- A -1. -/
  | ended
  | skipped (count : Int)
  | raised (exception : StreamError)

namespace RangeFileInputStream

def perform (stream : RangeFileInputStream) : StreamCall → StreamResult × RangeFileInputStream
  | .read =>
      match stream.read with
      | (some byte, stream) => (.bytes [byte], stream)
      | (none, stream) => (.ended, stream)
  | .readArray size more => ofRead stream (stream.readArray size more)
  | .readInto size off len more _ => ofRead stream (stream.readInto size off len more)
  | .skip count =>
      match stream.skip count with
      | .ok (skipped, stream) => (.skipped skipped, stream)
      | .error exception => (.raised exception, stream)
where
  ofRead (before : RangeFileInputStream) :
      Except StreamError (Option Bytes × RangeFileInputStream) →
        StreamResult × RangeFileInputStream
    | .ok (some data, stream) => (.bytes data, stream)
    | .ok (none, stream) => (.ended, stream)
    | .error exception => (.raised exception, before)

end RangeFileInputStream

/-! ## The reference -/

/-- What `read` into so many places may give of the bytes that are left. -/
def Reads (rest : Bytes) (asked : Nat) : StreamResult → Prop
  | .bytes data => data <+: rest ∧ data.length ≤ asked ∧ (data = [] → asked = 0)
  | .ended => rest = []
  | _ => False

/-- What an `InputStream` over these bytes may answer. -/
def Answers (rest : Bytes) : StreamCall → StreamResult → Prop
  | .read, result => Reads rest 1 result
  | .readArray size _, result => Reads rest size result
  | .readInto _ _ len _ _, result => Reads rest len result
  | .skip count, .skipped skipped => skipped = min count.toNat rest.length
  | .skip _, _ => False

/-- What is left after the answer. -/
def StreamResult.left (rest : Bytes) : StreamResult → Bytes
  | .bytes data => rest.drop data.length
  | .skipped count => rest.drop count.toNat
  | _ => rest

/-- A range stream beside the bytes that a reference has left. -/
structure Compared where
  stream : RangeFileInputStream
  rest : Bytes

namespace Compared

def step (compared : Compared) (call : StreamCall) : Compared :=
  let (result, stream) := compared.stream.perform call
  { stream, rest := result.left compared.rest }

def Conforms (compared : Compared) (call : StreamCall) : Prop :=
  Answers compared.rest call (compared.stream.perform call).1

/-- The array takes all that is available, and a skip stays in the range and in the file. -/
def Fits (compared : Compared) : StreamCall → Prop
  | .read | .readInto .. => True
  | .readArray size _ => compared.stream.available ≤ size
  | .skip count => 0 ≤ count ∧ 0 ≤ compared.stream.available ∧
      min count compared.stream.available ≤
        (compared.stream.file.content.length - compared.stream.file.position : Nat)

end Compared

/-! ## What is left of the range -/

theorem castInt_of_isInt {value : Int} (isInt : IsInt value) : castInt value = value :=
  wrapInt_emod isInt

theorem castInt_isInt (value : Int) : IsInt (castInt value) := wrapInt_isInt _

theorem castInt_le {value : Int} (positive : 0 ≤ value) : castInt value ≤ value := by
  have low := wrapInt_le (value % 4294967296).toNat
  unfold castInt
  omega

namespace RangeFileInputStream

/-- The bytes of the file that are still available. -/
def rest (stream : RangeFileInputStream) : Bytes :=
  (stream.file.content.drop stream.file.position).take stream.available.toNat

/-- The stream after so many of its bytes. -/
def advance (stream : RangeFileInputStream) (count : Nat) : RangeFileInputStream :=
  { stream with
    file := { stream.file with position := stream.file.position + count }
    available := stream.available - count }

section Calls

variable {stream : RangeFileInputStream}

theorem rest_advance (stream : RangeFileInputStream) (count : Nat) :
    (stream.advance count).rest = stream.rest.drop count := by
  unfold rest advance
  dsimp only
  rw [List.drop_take, List.drop_drop]
  congr 1
  omega

theorem rest_of_spent (spent : stream.available ≤ 0) : stream.rest = [] := by
  unfold rest
  have none : stream.available.toNat = 0 := by omega
  rw [none, List.take_zero]

theorem rest_of_ended (ended : stream.file.content.drop stream.file.position = []) :
    stream.rest = [] := by
  unfold rest
  rw [ended, List.take_nil]

theorem length_rest (stream : RangeFileInputStream) : stream.rest.length =
    min stream.available.toNat (stream.file.content.length - stream.file.position) := by
  unfold rest
  rw [List.length_take, List.length_drop]

theorem file_readInto {size : Nat} {off len : Int} (start : 0 ≤ off) (some : 0 < len)
    (inside : len ≤ size - off) (within : len ≤ stream.available) (more : Nat) :
    (stream.rest = [] ∧ stream.file.readInto size off len more = .ok (none, stream.file)) ∨
      ∃ data, data ≠ [] ∧ data <+: stream.rest ∧ data.length ≤ len ∧
        stream.file.readInto size off len more =
          .ok (data, { stream.file with position := stream.file.position + data.length }) := by
  have bounds : ¬ (off < 0 ∨ len < 0 ∨ size - off < len) := by omega
  have asked : len ≠ 0 := by omega
  unfold FileInputStream.readInto
  rw [if_neg bounds, if_neg asked]
  dsimp only
  split
  -- nothing came, although something was asked for: the file ends before the range
  · next nothing =>
    refine .inl ⟨rest_of_ended ?_, rfl⟩
    rcases List.take_eq_nil_iff.mp nothing with zero | none
    · cases zero
    · exact (List.take_eq_nil_iff.mp none).resolve_left (by omega)
  · next something =>
    refine .inr ⟨_, something, ?_, ?_, rfl⟩
    · refine (List.take_prefix _ _).trans ?_
      have shorter : len.toNat ≤ stream.available.toNat := by omega
      exact List.take_prefix_take_left shorter
    · rw [List.length_take, List.length_take]
      omega

theorem castInt_sub (isInt : IsInt stream.available) {count : Nat}
    (within : (count : Int) ≤ stream.available) :
    castInt (stream.available - count) = stream.available - count := by
  apply castInt_of_isInt
  unfold IsInt at *
  omega

theorem advance_isInt (isInt : IsInt stream.available) {count : Nat}
    (within : (count : Int) ≤ stream.available) :
    IsInt (stream.advance count).available := by
  change IsInt (stream.available - count)
  unfold IsInt at *
  omega

theorem within_of_prefix {data : Bytes} (filled : data ≠ []) (front : data <+: stream.rest) :
    (data.length : Int) ≤ stream.available := by
  have shorter := front.length_le
  have some := List.length_pos_iff.mpr filled
  rw [length_rest] at shorter
  omega

theorem readInto_spec (isInt : IsInt stream.available) {size off len : Nat}
    (inside : off + len ≤ size) (some : 0 < len) (more : Nat) :
    (stream.rest = [] ∧ stream.readInto size off len more = .ok (none, stream)) ∨
      ∃ data, data ≠ [] ∧ data <+: stream.rest ∧ data.length ≤ len ∧
        stream.readInto size off len more = .ok (data, stream.advance data.length) := by
  have asked : (len : Int) ≠ 0 := by omega
  unfold readInto
  rw [if_neg asked]
  -- the range is spent, or the file is read for the smaller of the two lengths
  by_cases spent : stream.available ≤ 0
  · rw [if_pos spent]
    exact .inl ⟨rest_of_spent spent, rfl⟩
  · rw [if_neg spent]
    dsimp only
    have start : (0 : Int) ≤ off := by omega
    have positive : 0 < (if stream.available < len then stream.available else (len : Int)) := by
      split <;> omega
    have fits : (if stream.available < len then stream.available else (len : Int)) ≤
        size - off := by
      split <;> omega
    have within : (if stream.available < len then stream.available else (len : Int)) ≤
        stream.available := by
      split <;> omega
    rcases file_readInto start positive fits within more with
      ⟨nothing, reads⟩ | ⟨data, filled, front, shorter, reads⟩
    · rw [reads]
      exact .inl ⟨nothing, rfl⟩
    · have left := within_of_prefix filled front
      obtain ⟨byte, bytes, rfl⟩ := List.exists_cons_of_ne_nil filled
      have exact_left := castInt_sub isInt left
      refine .inr ⟨byte :: bytes, filled, front, ?_, ?_⟩
      · have bound : (if stream.available < len then stream.available else (len : Int)) ≤ len := by
          split <;> omega
        omega
      · rw [reads]
        change Except.ok _ = _
        rw [exact_left]
        rfl

theorem readArray_spec (isInt : IsInt stream.available) {size : Nat}
    (positive : 0 < stream.available) (takes : stream.available ≤ size) (more : Nat) :
    (stream.rest = [] ∧ ∃ after, stream.readArray size more = .ok (none, after) ∧
        after.rest = [] ∧ IsInt after.available) ∨
      ∃ data, data ≠ [] ∧ data <+: stream.rest ∧ data.length ≤ size ∧
        stream.readArray size more = .ok (data, stream.advance data.length) := by
  have available : ¬ stream.available ≤ 0 := by omega
  have fits : stream.available ≤ (size : Int) - 0 := by omega
  unfold readArray
  rw [if_neg available]
  rcases file_readInto (Int.le_refl 0) positive fits (Int.le_refl _) more with
    ⟨nothing, reads⟩ | ⟨data, filled, front, shorter, reads⟩
  · rw [reads]
    have ended : stream.file.content.drop stream.file.position = [] := by
      have cut : stream.rest = [] := nothing
      unfold rest at cut
      exact (List.take_eq_nil_iff.mp cut).resolve_left (by omega)
    -- one more is available, and nothing is left in the file
    exact .inl ⟨nothing, { stream with available := castInt (stream.available - (-1)) }, rfl,
      rest_of_ended ended, by dsimp only; exact castInt_isInt _⟩
  · have left := within_of_prefix filled front
    have exact_left := castInt_sub isInt left
    have bound : data.length ≤ size := Int.ofNat_le.mp (shorter.trans takes)
    refine .inr ⟨data, filled, front, bound, ?_⟩
    rw [reads]
    change Except.ok _ = _
    dsimp only [Option.map_some, Option.getD_some]
    rw [exact_left]
    rfl

theorem read_spec (stream : RangeFileInputStream) :
    (stream.rest = [] ∧ ∃ after, stream.read = (none, after) ∧ after.rest = [] ∧
        (IsInt stream.available → IsInt after.available)) ∨
      ∃ byte, stream.rest.head? = some byte ∧ 0 < stream.available ∧
        stream.read = (some byte, stream.advance 1) := by
  unfold read
  by_cases positive : 0 < stream.available
  · rw [if_pos positive]
    unfold FileInputStream.read
    cases found : stream.file.content[stream.file.position]? with
    | none =>
      have ended : stream.file.content.drop stream.file.position = [] :=
        List.drop_eq_nil_iff.mpr (List.getElem?_eq_none_iff.mp found)
      refine .inl ⟨rest_of_ended ended, _, rfl, rest_of_ended ended, fun isInt => ?_⟩
      change IsInt (stream.available - 1)
      unfold IsInt at *
      omega
    | some byte =>
      refine .inr ⟨byte, ?_, positive, rfl⟩
      unfold rest
      rw [List.head?_take, if_neg (by omega), List.head?_drop, found]
  · rw [if_neg positive]
    have spent := rest_of_spent (Int.not_lt.mp positive)
    exact .inl ⟨spent, stream, rfl, spent, id⟩

theorem skip_spec (isInt : IsInt stream.available) {count : Int} (forward : 0 ≤ count)
    (available : 0 ≤ stream.available) (inside : min count stream.available ≤
      (stream.file.content.length - stream.file.position : Nat)) :
    stream.skip count = .ok ((min count.toNat stream.rest.length : Nat),
      stream.advance (min count.toNat stream.rest.length)) := by
  have toskip : (if stream.available < count then stream.available else count) =
      (min count.toNat stream.rest.length : Nat) := by
    rw [length_rest]
    split <;> omega
  have left : ((min count.toNat stream.rest.length : Nat) : Int) ≤ stream.available := by
    rw [length_rest]
    omega
  have ahead : ¬ (stream.file.position : Int) + (min count.toNat stream.rest.length : Nat) < 0 := by
    omega
  have moved : (if 0 < ((min count.toNat stream.rest.length : Nat) : Int) then
      castInt (stream.available - (min count.toNat stream.rest.length : Nat))
      else stream.available) = stream.available - (min count.toNat stream.rest.length : Nat) := by
    split
    · exact castInt_sub isInt left
    · omega
  have skipped : stream.file.skip (min count.toNat stream.rest.length : Nat) =
      .ok ((min count.toNat stream.rest.length : Nat), { stream.file with
        position := ((stream.file.position : Int) +
          (min count.toNat stream.rest.length : Nat)).toNat }) := if_neg ahead
  unfold skip
  dsimp only
  rw [toskip, skipped]
  change Except.ok _ = _
  dsimp only
  rw [moved]
  rfl

end Calls

end RangeFileInputStream

/-! ## The stream against the reference -/

namespace Compared

/-- The reference has what is left of the range. -/
structure Sound (compared : Compared) : Prop where
  same : compared.stream.rest = compared.rest
  isInt : IsInt compared.stream.available

/-- A read that came to the end, or went on by what it gave. -/
def ReadsOn (stream : RangeFileInputStream) (asked : Nat)
    (outcome : StreamResult × RangeFileInputStream) : Prop :=
  (stream.rest = [] ∧ ∃ after, outcome = (.ended, after) ∧ after.rest = [] ∧
      IsInt after.available) ∨
    ∃ data, data ≠ [] ∧ data <+: stream.rest ∧ data.length ≤ asked ∧
      outcome = (.bytes data, stream.advance data.length)

theorem readsOn_read {stream : RangeFileInputStream} (isInt : IsInt stream.available) :
    ReadsOn stream 1 (stream.perform .read) := by
  rcases stream.read_spec with
    ⟨nothing, after, reads, ended, keeps⟩ | ⟨byte, first, positive, reads⟩
  · have performs : stream.perform .read = (.ended, after) := by
      change (match stream.read with
        | (some byte, stream) => (StreamResult.bytes [byte], stream)
        | (none, stream) => (.ended, stream)) = _
      rw [reads]
    exact .inl ⟨nothing, after, performs, ended, keeps isInt⟩
  · have performs : stream.perform .read = (.bytes [byte], stream.advance 1) := by
      change (match stream.read with
        | (some byte, stream) => (StreamResult.bytes [byte], stream)
        | (none, stream) => (.ended, stream)) = _
      rw [reads]
    obtain ⟨later, split⟩ : ∃ later, stream.rest = byte :: later :=
      List.head?_eq_some_iff.mp first
    have front : [byte] <+: stream.rest := ⟨later, by rw [split]; rfl⟩
    exact .inr ⟨[byte], List.cons_ne_nil _ _, front, Nat.le_refl _, performs⟩

theorem readsOn_readArray {stream : RangeFileInputStream} (isInt : IsInt stream.available)
    {size : Nat} (takes : stream.available ≤ size) (more : Nat) :
    ReadsOn stream size (stream.perform (.readArray size more)) := by
  change ReadsOn stream size
    (RangeFileInputStream.perform.ofRead stream (stream.readArray size more))
  by_cases spent : stream.available ≤ 0
  · have nothing := RangeFileInputStream.rest_of_spent spent
    have reads : stream.readArray size more = .ok (none, stream) := if_pos spent
    rw [reads]
    exact .inl ⟨nothing, stream, rfl, nothing, isInt⟩
  · rcases RangeFileInputStream.readArray_spec isInt (Int.not_le.mp spent) takes more with
      ⟨nothing, after, reads, ended, kept⟩ | ⟨data, filled, front, bound, reads⟩
    · rw [reads]
      exact .inl ⟨nothing, after, rfl, ended, kept⟩
    · rw [reads]
      exact .inr ⟨data, filled, front, bound, rfl⟩

theorem readsOn_readInto {stream : RangeFileInputStream} (isInt : IsInt stream.available)
    {size off len : Nat} (inside : off + len ≤ size) (some : 0 < len) (more : Nat) :
    ReadsOn stream len (stream.perform (.readInto size off len more inside)) := by
  change ReadsOn stream len
    (RangeFileInputStream.perform.ofRead stream (stream.readInto size off len more))
  rcases RangeFileInputStream.readInto_spec isInt inside some more with
    ⟨nothing, reads⟩ | ⟨data, filled, front, bound, reads⟩
  · rw [reads]
    exact .inl ⟨nothing, stream, rfl, nothing, isInt⟩
  · rw [reads]
    exact .inr ⟨data, filled, front, bound, rfl⟩

/-- Such a read is the reference's, and leaves both at the same byte. -/
theorem reads_of_readsOn {compared : Compared} (sound : compared.Sound) {asked : Nat}
    {call : StreamCall} (readsOn : ReadsOn compared.stream asked (compared.stream.perform call)) :
    Reads compared.rest asked (compared.stream.perform call).1 ∧
      (compared.step call).Sound := by
  have same := sound.same
  unfold step
  -- the end for both, or the same bytes off both
  rcases readsOn with ⟨nothing, after, performs, ended, kept⟩ | ⟨data, filled, front, bound, performs⟩
  · rw [performs]
    have finished : compared.rest = [] := by rw [← same, nothing]
    exact ⟨finished, by rw [ended, ← finished]; rfl, kept⟩
  · rw [performs]
    have within := RangeFileInputStream.within_of_prefix filled front
    refine ⟨⟨same ▸ front, bound, fun empty => absurd empty filled⟩, ?_,
      RangeFileInputStream.advance_isInt sound.isInt within⟩
    change (compared.stream.advance data.length).rest = compared.rest.drop data.length
    rw [RangeFileInputStream.rest_advance, same]

theorem fits_spec {compared : Compared} (sound : compared.Sound) {call : StreamCall}
    (fits : compared.Fits call) : compared.Conforms call ∧ (compared.step call).Sound := by
  -- one case for each call; a read of no bytes leaves both alone
  cases call with
  | read => exact reads_of_readsOn sound (readsOn_read sound.isInt)
  | readArray size more => exact reads_of_readsOn sound (readsOn_readArray sound.isInt fits more)
  | readInto size off len more inside =>
    by_cases none : len = 0
    · have performs : compared.stream.perform (.readInto size off len more inside) =
          (.bytes [], compared.stream) := by
        change RangeFileInputStream.perform.ofRead compared.stream
          (compared.stream.readInto size off len more) = _
        have reads : compared.stream.readInto size off len more = .ok (some [], compared.stream) :=
          if_pos (by omega)
        rw [reads]
        rfl
      unfold Conforms step
      rw [performs]
      exact ⟨⟨List.nil_prefix, Nat.zero_le _, fun _ => none⟩, sound.same, sound.isInt⟩
    · have some := Nat.pos_of_ne_zero none
      exact reads_of_readsOn sound (readsOn_readInto sound.isInt inside some more)
  | skip count =>
    obtain ⟨forward, available, inside⟩ := fits
    have skips := RangeFileInputStream.skip_spec sound.isInt forward available inside
    have performs : compared.stream.perform (.skip count) =
        (.skipped (min count.toNat compared.stream.rest.length : Nat),
          compared.stream.advance (min count.toNat compared.stream.rest.length)) := by
      change (match compared.stream.skip count with
        | .ok (skipped, stream) => (StreamResult.skipped skipped, stream)
        | .error exception => (.raised exception, compared.stream)) = _
      rw [skips]
    have within : ((min count.toNat compared.stream.rest.length : Nat) : Int) ≤
        compared.stream.available := by
      rw [RangeFileInputStream.length_rest]
      omega
    unfold Conforms step
    rw [performs]
    refine ⟨?_, ?_, RangeFileInputStream.advance_isInt sound.isInt within⟩
    · change ((min count.toNat compared.stream.rest.length : Nat) : Int) =
        (min count.toNat compared.rest.length : Nat)
      rw [sound.same]
    · change (compared.stream.advance _).rest = compared.rest.drop _
      rw [RangeFileInputStream.rest_advance, sound.same]
      rfl

/-- An array that is too short for what is available is out of bounds. -/
theorem fits_of_readArray {compared : Compared} {size more : Nat}
    (conforms : compared.Conforms (.readArray size more)) :
    compared.stream.available ≤ size := by
  by_cases fits : compared.stream.available ≤ size
  · exact fits
  -- an array that is too short is out of bounds
  · have positive : ¬ compared.stream.available ≤ 0 := by omega
    have short : (size : Int) - 0 < compared.stream.available := by omega
    have raises : compared.stream.perform (.readArray size more) =
        (.raised .indexOutOfBounds, compared.stream) := by
      change RangeFileInputStream.perform.ofRead compared.stream
        (compared.stream.readArray size more) = _
      have refused : compared.stream.file.readInto size 0 compared.stream.available more =
          .error .indexOutOfBounds := if_pos (.inr (.inr short))
      unfold RangeFileInputStream.readArray
      rw [if_neg positive, refused]
      rfl
    unfold Conforms at conforms
    rw [raises] at conforms
    exact conforms.elim

/-- A skip answers with how far it moved in the file, whether there were bytes or not. -/
theorem fits_of_skip {compared : Compared} (sound : compared.Sound) {count : Int}
    (conforms : compared.Conforms (.skip count)) : compared.Fits (.skip count) := by
  have answered : (if compared.stream.available < count then compared.stream.available
      else count) = (min count.toNat compared.rest.length : Nat) := by
    unfold Conforms RangeFileInputStream.perform RangeFileInputStream.skip
      FileInputStream.skip at conforms
    by_cases before : (compared.stream.file.position : Int) +
        (if compared.stream.available < count then compared.stream.available else count) < 0
    · simp only [if_pos before] at conforms
      exact conforms.elim
    · simp only [if_neg before] at conforms
      exact conforms
  have left := compared.stream.length_rest
  rw [sound.same] at left
  refine ⟨?_, ?_, ?_⟩ <;> split at answered <;> omega

theorem conforms_iff {compared : Compared} (sound : compared.Sound) (call : StreamCall) :
    compared.Conforms call ↔ compared.Fits call := by
  constructor
  · intro conforms
    cases call with
    | read => trivial
    | readArray size more => exact fits_of_readArray conforms
    | readInto => trivial
    | skip count => exact fits_of_skip sound conforms
  · intro fits
    exact (fits_spec sound fits).1

end Compared

/-- A stream over the range, beside the bytes of the range that exist. -/
def Compared.initial (content : Bytes) (start stop : Nat) : Except StreamError Compared := do
  let stream ← RangeFileInputStream.init content start stop
  return { stream, rest := slice content start stop }

theorem RangeFileInputStream.init_eq (content : Bytes) (start : Nat) (stop : Int) :
    RangeFileInputStream.init content start stop = .ok
      { file := { content, position := start }, start, «end» := stop,
        available := castInt (stop - start) } := by
  have skipped : FileInputStream.skip { content } start =
      .ok ((start : Int), { content, position := ((0 : Nat) + (start : Int)).toNat }) :=
    if_neg (by omega)
  have position : (((0 : Nat) : Int) + (start : Int)).toNat = start := by omega
  unfold RangeFileInputStream.init
  rw [skipped, position]
  rfl

theorem Compared.initial_sound {content : Bytes} {start stop : Nat} (ordered : start ≤ stop)
    (short : stop - start < 2147483648) {compared : Compared}
    (opened : Compared.initial content start stop = .ok compared) : compared.Sound := by
  have isInt : IsInt ((stop : Int) - start) := by
    unfold IsInt
    omega
  unfold Compared.initial at opened
  rw [RangeFileInputStream.init_eq, castInt_of_isInt isInt] at opened
  cases opened
  refine ⟨?_, isInt⟩
  change (content.drop start).take ((stop : Int) - start).toNat = slice content start stop
  unfold slice
  congr 1
  omega

/-- Every call is answered as by a stream over the bytes of the range that exist, exactly when
every array takes what is available and every skip goes forward and not beyond the file. -/
theorem range_stream_conforms_iff {content : Bytes} {start stop : Nat} (ordered : start ≤ stop)
    (short : stop - start < 2147483648) {compared : Compared}
    (opened : Compared.initial content start stop = .ok compared) (calls : List StreamCall) :
    Along Compared.step Compared.Conforms compared calls ↔
      Along Compared.step Compared.Fits compared calls := by
  have keeps : ∀ compared call, compared.Sound → Compared.Fits compared call →
      (Compared.step compared call).Sound :=
    fun _ _ sound fits => (Compared.fits_spec sound fits).2
  exact along_iff keeps (fun _ call sound => Compared.conforms_iff sound call)
    (Compared.initial_sound ordered short opened) calls

/-- The first four bytes of a file, for an array that takes them and for one that does not. -/
def fourBytes : Compared where
  stream := { file := { content := [1, 2, 3, 4, 5] }, start := 0, «end» := 4, available := 4 }
  rest := [1, 2, 3, 4]

theorem four_bytes_conform : Along Compared.step Compared.Conforms fourBytes
    [.skip 0, .read, .readArray 3 0, .readInto 4 1 3 0 (by decide)] := by
  have opened : Compared.initial [1, 2, 3, 4, 5] (0 : Nat) (4 : Nat) = .ok fourBytes := rfl
  have conforms := range_stream_conforms_iff (by decide) (by decide) opened
    [.skip 0, .read, .readArray 3 0, .readInto 4 1 3 0 (by decide)]
  refine conforms.mpr ⟨?_, trivial, ?_, trivial, trivial⟩
  · change (0 : Int) ≤ 0 ∧ (0 : Int) ≤ 4 ∧ min (0 : Int) 4 ≤ (5 : Nat)
    decide
  · change (3 : Int) ≤ 3
    decide

theorem short_array_refused : Compared.initial [1, 2, 3, 4, 5] 0 4 = .ok fourBytes ∧
    ¬ Along Compared.step Compared.Conforms fourBytes [.readArray 2 0] := by
  refine ⟨rfl, fun along => ?_⟩
  exact absurd (Compared.fits_of_readArray along.1) (by decide)

/-! ## Reading the range to its end -/

/-- The array of a read in a loop, and how much the system gives in it. -/
structure Chunk where
  size : Nat
  off : Nat
  len : Nat
  more : Nat
  inside : off + len ≤ size
  positive : 0 < len

namespace RangeFileInputStream

/-- What `read(b, off, len)` delivers until it returns -1, in at most so many rounds. -/
def readAll (chunks : Nat → Chunk) : Nat → RangeFileInputStream → Option (Except StreamError Bytes)
  | 0, _ => none
  | rounds + 1, stream =>
      match stream.readInto (chunks 0).size (chunks 0).off (chunks 0).len (chunks 0).more with
      | .error exception => some (.error exception)
      | .ok (none, _) => some (.ok [])
      | .ok (some data, stream) =>
          (readAll (fun round => chunks (round + 1)) rounds stream).map fun later =>
            later.map (data ++ ·)

/-- Every round goes on by at least a byte. -/
theorem readAll_eq {rounds : Nat} {stream : RangeFileInputStream} (isInt : IsInt stream.available)
    (enough : stream.rest.length < rounds) (chunks : Nat → Chunk) :
    readAll chunks rounds stream = some (.ok stream.rest) := by
  -- by induction on the rounds: every one goes on by at least a byte
  induction rounds generalizing stream chunks with
  | zero => cases enough
  | succ rounds ih =>
    unfold readAll
    rcases readInto_spec isInt (chunks 0).inside (chunks 0).positive (chunks 0).more with
      ⟨nothing, reads⟩ | ⟨data, filled, front, bound, reads⟩
    · rw [reads, nothing]
    · rw [reads]
      have within := within_of_prefix filled front
      have some_read := List.length_pos_iff.mpr filled
      have shorter := front.length_le
      have fewer : (stream.advance data.length).rest.length < rounds := by
        rw [rest_advance, List.length_drop]
        omega
      have later := ih (advance_isInt isInt within) fewer (fun round => chunks (round + 1))
      dsimp only
      rw [later, rest_advance]
      have whole : data ++ stream.rest.drop data.length = stream.rest :=
        List.prefix_iff_eq_append.mp front
      rw [Option.map_some, Except.map, whole]

/-- The bytes between the start and as many as the cast leaves. -/
theorem rest_of_init {content : Bytes} {start stop : Nat} {stream : RangeFileInputStream}
    (opened : init content start stop = .ok stream) :
    stream.rest = (content.drop start).take (castInt (stop - start)).toNat ∧
      IsInt stream.available := by
  rw [init_eq] at opened
  cases opened
  unfold rest
  dsimp only
  exact ⟨rfl, castInt_isInt _⟩

end RangeFileInputStream

theorem take_eq_take_iff {α : Type} (list : List α) {fewer more : Nat} (le : fewer ≤ more) :
    list.take fewer = list.take more ↔ fewer = more ∨ list.length ≤ fewer := by
  constructor
  · intro same
    have lengths := congrArg List.length same
    rw [List.length_take, List.length_take] at lengths
    omega
  · rintro (rfl | short)
    · rfl
    · rw [List.take_of_length_le short, List.take_of_length_le (short.trans le)]

/-- The whole range is read exactly when it is shorter than 2^31 bytes, or the file ends within
what the cast leaves of it. -/
theorem range_read_iff {content : Bytes} {start stop : Nat} (ordered : start ≤ stop)
    {stream : RangeFileInputStream}
    (opened : RangeFileInputStream.init content start stop = .ok stream)
    (chunks : Nat → Chunk) (spare : Nat) :
    stream.readAll chunks (content.length + 1 + spare) = some (.ok (slice content start stop)) ↔
      stop - start < 2147483648 ∨
        content.length - start ≤ (castInt ((stop : Int) - start)).toNat := by
  obtain ⟨rest, isInt⟩ := RangeFileInputStream.rest_of_init opened
  have enough : stream.rest.length < content.length + 1 + spare := by
    rw [rest, List.length_take, List.length_drop]
    omega
  rw [RangeFileInputStream.readAll_eq isInt enough, rest]
  have low : castInt ((stop : Int) - start) ≤ (stop : Int) - start := castInt_le (by omega)
  have fewer : (castInt ((stop : Int) - start)).toNat ≤ stop - start := by omega
  have taken := take_eq_take_iff (content.drop start) fewer
  rw [List.length_drop] at taken
  have exact_below : (castInt ((stop : Int) - start)).toNat = stop - start ↔
      stop - start < 2147483648 := by
    constructor
    · intro same
      have bound := (castInt_isInt ((stop : Int) - start)).2
      omega
    · intro short
      have isInt : IsInt ((stop : Int) - start) := by
        unfold IsInt
        omega
      rw [castInt_of_isInt isInt]
      omega
  rw [Option.some.injEq, Except.ok.injEq]
  unfold slice
  rw [taken, exact_below]

/-- An array of two, filled one byte at a time. -/
def oneByOne (_ : Nat) : Chunk :=
  { size := 4, off := 1, len := 2, more := 0, inside := by decide, positive := by decide }

/-- A file for a range in its middle. -/
def fourOctets : Bytes := [1, 2, 3, 4]

theorem middle_read : ∃ stream,
    RangeFileInputStream.init fourOctets (1 : Nat) (3 : Nat) = .ok stream ∧
      stream.readAll oneByOne (fourOctets.length + 1 + 0) = some (.ok (slice fourOctets 1 3)) := by
  have opened := RangeFileInputStream.init_eq fourOctets 1 (3 : Nat)
  exact ⟨_, opened, (range_read_iff (by decide) opened oneByOne 0).mpr (.inl (by decide))⟩

/-- Two GiB from the start of a file of two GiB. -/
theorem two_gib_not_read : ∃ (content : Bytes) (stop : Nat) (stream : RangeFileInputStream),
    stop < 2 ^ 63 ∧ RangeFileInputStream.init content 0 stop = .ok stream ∧
      stream.readAll oneByOne (content.length + 1) ≠ some (.ok (slice content 0 stop)) := by
  have size : (List.replicate 2147483648 (0 : UInt8)).length = 2147483648 := List.length_replicate
  refine ⟨List.replicate 2147483648 0, 2147483648, _, by decide,
    RangeFileInputStream.init_eq _ 0 _, ?_⟩
  obtain ⟨rest, isInt⟩ := RangeFileInputStream.rest_of_init
    (RangeFileInputStream.init_eq (List.replicate 2147483648 0) 0 ((2147483648 : Nat) : Int))
  have none : (castInt (((2147483648 : Nat) : Int) - (0 : Nat))).toNat = 0 := by decide
  rw [none, List.take_zero] at rest
  rw [RangeFileInputStream.readAll_eq isInt (by rw [rest, size]; decide), rest]
  intro same
  have empty := Except.ok.inj (Option.some.inj same)
  have lengths := congrArg List.length empty
  unfold slice at lengths
  rw [List.length_take, List.length_drop, size] at lengths
  cases lengths

end Storlets
