import Storlets.Library.BytePath
import Storlets.Samples.Csv

set_option autoImplicit false

/-!
# Partitions of a CSV file

The bytes of a file are divided at any places, within a record or a character, and each partition
has to find the records that are its own.
-/

namespace Storlets.Csv

open JavaStr Traced
open Utf8 (encode decode stray continues)

def newline : UInt8 := 10

/-- A line of the file, without its newline. -/
structure Record where
  chars : Text
  clean : ∀ c ∈ chars, Inline c

def Record.bytes (record : Record) : Bytes := encode record.chars ++ [newline]

def fileOf (records : List Record) : Bytes := records.flatMap Record.bytes

/-- Where a record starts. -/
def offset (records : List Record) (index : Nat) : Nat := (fileOf (records.take index)).length

/-- An inclusive range of bytes. -/
structure Partition where
  start : Nat
  last : Nat
  filled : start ≤ last

/-- Each partition starts where the one before it has ended, the last one ends with the file. -/
def Divides (size : Nat) : Nat → List Partition → Prop
  | position, [] => position = size
  | position, partition :: rest =>
      partition.start = position ∧ partition.last < size ∧ Divides size (partition.last + 1) rest

namespace Partition

variable (file : Bytes) (maxRecordLine : Nat) (partition : Partition)

def env : ReaderEnv where
  startRangePosition := partition.start
  endRangePosition := partition.last
  isFirstPartition := partition.start = 0

/-- What `X-Storlet-Range` asks for: the partition and one more line of the greatest length. -/
def input : Bytes :=
  (file.drop partition.start).take (partition.last + maxRecordLine + 1 - partition.start)

def run : CsvAction Unit := invoke partition.env (partition.input file maxRecordLine)

/-- The number of the first line that is processed. -/
def firstLine : Nat :=
  if partition.start = 0 then 0 else (file.take partition.start).count newline + 1

/-- The numbers of the lines that are processed, each of which is written. -/
def processedBy : List Nat :=
  List.range' (partition.firstLine file) (partition.run file maxRecordLine).trace.length

/-- How many bytes of a character that is split come first. -/
def split : Nat := stray (file.drop partition.start)

end Partition

/-- The outputs are the file, and every record is processed by exactly one partition. -/
structure Lossless (records : List Record) (maxRecordLine : Nat) (partitions : List Partition) :
    Prop where
  ends : ∀ partition ∈ partitions,
    (partition.run (fileOf records) maxRecordLine).result = .ok ()
  whole : (partitions.flatMap fun partition =>
    (partition.run (fileOf records) maxRecordLine).trace).flatten = fileOf records
  once : ∀ index < records.length, (partitions.countP fun partition =>
    index ∈ partition.processedBy (fileOf records) maxRecordLine) = 1

/-- No record starts where the partition and the next one differ on who owns it. -/
def Complementary (records : List Record) (maxRecordLine : Nat) (partition : Partition) : Prop :=
  ∀ index < records.length,
    (partition.split (fileOf records) = 0 → offset records index = partition.last + 2 →
      maxRecordLine ≤ 1) ∧
    (0 < partition.split (fileOf records) → partition.start < offset records index →
      offset records index ≤ partition.last + 1 →
        offset records index + 2 * partition.split (fileOf records) ≤ partition.last + 2)

/-! ## The bytes of the records -/

theorem newline_not_mem {text : Text} (clean : ∀ c ∈ text, Inline c) : newline ∉ encode text := by
  intro inside
  obtain ⟨c, here, byte⟩ := List.mem_flatMap.mp inside
  have same := PosixPath.mem_utf8EncodeChar byte (by decide)
  exact (clean c here).1 (Char.toNat_inj.mp same)

theorem length_bytes (record : Record) : record.bytes.length = (encode record.chars).length + 1 :=
  List.length_append

theorem count_fileOf (records : List Record) : (fileOf records).count newline = records.length := by
  induction records with
  | nil => rfl
  | cons record rest ih =>
    have none := List.count_eq_zero.mpr (newline_not_mem record.clean)
    rw [fileOf, List.flatMap_cons, List.count_append, Record.bytes, List.count_append, none,
      List.length_cons]
    change 0 + 1 + (fileOf rest).count newline = _
    rw [ih]
    omega

theorem fileOf_cons (record : Record) (rest : List Record) :
    fileOf (record :: rest) = record.bytes ++ fileOf rest := List.flatMap_cons

theorem fileOf_append (front back : List Record) :
    fileOf (front ++ back) = fileOf front ++ fileOf back := List.flatMap_append

theorem offset_append (front back : List Record) (index : Nat) :
    offset (front ++ back) (front.length + index) = (fileOf front).length + offset back index := by
  rw [offset, List.take_length_add_append, fileOf_append, List.length_append]
  rfl

theorem offset_mono (records : List Record) {early late : Nat} (order : early ≤ late) :
    offset records early ≤ offset records late := by
  obtain ⟨more, same⟩ := List.take_prefix_take_left (l := records) order
  unfold offset
  rw [← same, fileOf_append, List.length_append]
  omega

theorem offset_lt (records : List Record) {index : Nat} (inside : index < records.length) :
    offset records index < (fileOf records).length := by
  have whole : records.take index ++ records.drop index = records := List.take_append_drop ..
  have rest := List.drop_eq_getElem_cons inside
  have size := congrArg (fun records => (fileOf records).length) whole
  simp only [fileOf_append, rest, fileOf_cons, List.length_append, length_bytes] at size
  unfold offset
  omega

theorem record_at (records : List Record) {position : Nat}
    (inside : position < (fileOf records).length) :
    ∃ front record back, records = front ++ record :: back ∧ (fileOf front).length ≤ position ∧
      position < (fileOf front).length + record.bytes.length := by
  -- by induction on the records: the byte is in the first one or in a later one
  induction records generalizing position with
  | nil => cases inside
  | cons record rest ih =>
    by_cases here : position < record.bytes.length
    · exact ⟨[], record, rest, rfl, Nat.zero_le _, by simpa [fileOf] using here⟩
    · rw [fileOf_cons, List.length_append] at inside
      obtain ⟨front, found, back, same, low, high⟩ :=
        @ih (position - record.bytes.length) (by omega)
      refine ⟨record :: front, found, back, by rw [same]; rfl, ?_, ?_⟩
      · rw [fileOf_cons, List.length_append]
        omega
      · rw [fileOf_cons, List.length_append]
        omega

/-- Before a record there is the newline of another one. -/
theorem split_before (records : List Record) {index : Nat} (inside : index < records.length)
    {position : Nat} (before : position + 1 = offset records index) :
    stray ((fileOf records).drop position) = 0 := by
  cases index with
  | zero => exact absurd before (Nat.succ_ne_zero position)
  | succ index =>
    have earlier : index < records.length := by omega
    have whole : records = records.take index ++ records[index] :: records.drop (index + 1) := by
      rw [← List.drop_eq_getElem_cons earlier, List.take_append_drop]
    have start : offset records (index + 1) =
        (fileOf (records.take index) ++ encode records[index].chars).length + 1 := by
      rw [offset, List.take_succ_eq_append_getElem earlier, fileOf_append, List.length_append,
        List.length_append, fileOf_cons, List.length_append, length_bytes]
      rfl
    have cut : fileOf records = (fileOf (records.take index) ++ encode records[index].chars) ++
        newline :: fileOf (records.drop (index + 1)) := by
      conv_lhs => rw [whole]
      simp only [fileOf_append, fileOf_cons, Record.bytes, List.append_assoc, List.singleton_append]
    have same : position = (fileOf (records.take index) ++ encode records[index].chars).length := by
      omega
    rw [cut, same, List.drop_left]
    rfl

/-! ## The loop -/

/-- Neither columns nor a predicate. -/
def plain : Query := ⟨none, [], .empty, [newline]⟩

theorem init_plain (partition : Partition) : Query.init partition.env = .ok plain := rfl

theorem processLine_plain (line : Text) : processLine plain line = emit (encode line ++ [newline]) :=
  rfl

theorem processLines_more {rangeBytesLeft : Int} (more : -1 ≤ rangeBytesLeft) (line : Text)
    (rest : List Text) :
    processLines plain rangeBytesLeft (line :: rest) =
      ⟨(encode line ++ [newline]) ::
          (processLines plain (rangeBytesLeft - ((encode line).length + 1)) rest).trace,
        (processLines plain (rangeBytesLeft - ((encode line).length + 1)) rest).result⟩ := by
  rw [processLines, if_pos more, processLine_plain]
  rfl

theorem processLines_stop {rangeBytesLeft : Int} (stops : ¬ -1 ≤ rangeBytesLeft)
    (lines : List Text) : processLines plain rangeBytesLeft lines = pure () := by
  cases lines with
  | nil => rfl
  | cons line rest => rw [processLines, if_neg stops]

theorem decode_newline (rest : Bytes) : decode (newline :: rest) = '\n' :: decode rest :=
  Utf8.decode_encode_append ['\n'] rest

theorem readLines_bytes (record : Record) (rest : Bytes) :
    readLines (decode (record.bytes ++ rest)) = record.chars :: readLines (decode rest) := by
  rw [Record.bytes, List.append_assoc, List.singleton_append, Utf8.decode_encode_append,
    decode_newline, readLines_newline record.clean]

/-- The records are processed that start within the tolerance, and within the input. -/
theorem processLines_records {maxRecordLine : Nat} (records : List Record)
    (bounded : ∀ record ∈ records, record.bytes.length ≤ maxRecordLine) {rangeBytesLeft : Int}
    {available : Nat} (ahead : rangeBytesLeft + maxRecordLine ≤ available) :
    ∃ count ≤ records.length,
      processLines plain rangeBytesLeft (readLines (decode ((fileOf records).take available))) =
        ⟨(records.take count).map Record.bytes, .ok ()⟩ ∧
      ∀ index < records.length, index < count ↔
        (offset records index : Int) ≤ rangeBytesLeft + 1 ∧ offset records index < available := by
  -- by induction on the records, with what the budget and the input leave after the first one
  induction records generalizing rangeBytesLeft available with
  | nil =>
    refine ⟨0, Nat.le_refl _, ?_, fun index inside => by cases inside⟩
    rw [fileOf, List.flatMap_nil, List.take_nil]
    rfl
  | cons record rest ih =>
    obtain ⟨short, later⟩ := List.forall_mem_cons.mp bounded
    have next (index : Nat) :
        offset (record :: rest) (index + 1) = record.bytes.length + offset rest index := by
      rw [offset, List.take_succ_cons, fileOf_cons, List.length_append]
      rfl
    by_cases more : -1 ≤ rangeBytesLeft
    · by_cases whole : record.bytes.length ≤ available
      · obtain ⟨count, within, run, taken⟩ := @ih later
          (rangeBytesLeft - record.bytes.length) (available - record.bytes.length) (by omega)
        have positive := length_bytes record
        have left : rangeBytesLeft - ((encode record.chars).length + 1) =
            rangeBytesLeft - record.bytes.length := by omega
        refine ⟨count + 1, by simpa using within, ?_, ?_⟩
        · rw [fileOf_cons, List.take_append, List.take_of_length_le whole, readLines_bytes,
            processLines_more more, left, run]
          rfl
        -- the first record is taken, the others as in the rest
        · intro index inside
          cases index with
          | zero => exact iff_of_true (Nat.succ_pos count) ⟨by simp [offset, fileOf]; omega,
              by simp [offset, fileOf]; omega⟩
          | succ index =>
            have step := taken index (Nat.lt_of_succ_lt_succ inside)
            rw [next]
            omega
      · have exact := length_bytes record
        by_cases empty : available = 0
        · -- the input ends before the record
          refine ⟨0, Nat.zero_le _, ?_, fun index inside => by omega⟩
          rw [empty, List.take_zero]
          rfl
        · -- only the newline is missing
          have cut : (fileOf (record :: rest)).take available = encode record.chars := by
            rw [fileOf_cons, Record.bytes, List.append_assoc]
            exact List.take_left' (by omega)
          have filled : record.chars ≠ [] := by
            intro none
            rw [none] at exact
            simp [encode] at exact
            omega
          have line : readLines (decode (encode record.chars)) = [record.chars] := by
            have text := Utf8.decode_encode_append record.chars []
            rw [List.append_nil] at text
            rw [text]
            change readLines (record.chars ++ []) = _
            rw [List.append_nil]
            exact readLines_end record.clean filled
          refine ⟨1, by simp, ?_, ?_⟩
          · rw [cut, line, processLines_more more]
            rfl
          · intro index inside
            cases index with
            | zero => exact iff_of_true Nat.one_pos ⟨by simp [offset, fileOf]; omega,
                by simp [offset, fileOf]; omega⟩
            | succ index =>
              rw [next]
              omega
    -- the budget is spent
    · refine ⟨0, Nat.zero_le _, ?_, fun index inside => by omega⟩
      rw [processLines_stop more]
      rfl

/-! ## One partition -/

/-- The partition processes the record. -/
def Partition.Takes (records : List Record) (maxRecordLine : Nat) (partition : Partition)
    (index : Nat) : Prop :=
  (partition.start < offset records index ∨ partition.start = 0) ∧
    offset records index + 2 * partition.split (fileOf records) ≤ partition.last + 2 ∧
    offset records index ≤ partition.last + maxRecordLine

theorem Partition.run_first (file : Bytes) (maxRecordLine : Nat) {partition : Partition}
    (first : partition.start = 0) :
    partition.run file maxRecordLine =
      processLines plain (partition.last - partition.start + 1)
        (readLines (decode (partition.input file maxRecordLine))) := by
  rw [run, invoke, init_plain]
  simp only [Except.mapError, lift_ok_bind, env, decide_eq_true_eq, if_pos first]

theorem Partition.run_later {file : Bytes} {maxRecordLine : Nat} {partition : Partition}
    (later : partition.start ≠ 0) {line : Text} {rest : List Text}
    (lines : readLines (decode (partition.input file maxRecordLine)) = line :: rest) :
    partition.run file maxRecordLine =
      processLines plain (partition.last - partition.start + 1 - plain.bytesRead line) rest := by
  rw [run, invoke, init_plain]
  simp only [Except.mapError, lift_ok_bind, env, decide_eq_true_eq, if_neg later, lines]

theorem split_zero (records : List Record) : stray (fileOf records) = 0 := by
  cases records with
  | nil => rfl
  | cons record rest =>
    have none : ∀ byte ∈ ([] : Bytes), continues byte = true := by simp
    rw [fileOf_cons, Record.bytes, List.append_assoc, List.singleton_append,
      Utf8.stray_append _ rfl]
    exact Utf8.stray_front none record.chars

theorem first_run_spec {records : List Record} {maxRecordLine : Nat}
    (bounded : ∀ record ∈ records, record.bytes.length ≤ maxRecordLine) {partition : Partition}
    (first : partition.start = 0) :
    ∃ count ≤ records.length,
      partition.run (fileOf records) maxRecordLine =
        ⟨(records.take count).map Record.bytes, .ok ()⟩ ∧
      ∀ index < records.length,
        index < count ↔ partition.Takes records maxRecordLine index := by
  have ahead : (partition.last - partition.start + 1 : Int) + maxRecordLine ≤
      (partition.last + maxRecordLine + 1 - partition.start : Nat) := by omega
  obtain ⟨count, within, run, taken⟩ := processLines_records records bounded ahead
  -- no character is split, so nothing is taken off the budget
  have whole : partition.split (fileOf records) = 0 := by
    rw [Partition.split, first, List.drop_zero, split_zero]
  refine ⟨count, within, ?_, ?_⟩
  · rw [Partition.run_first _ _ first, Partition.input, ← run, first, List.drop_zero]
  · intro index inside
    rw [taken index inside, Partition.Takes, whole]
    omega

/-- The rest of the line that a later partition starts in is discarded, as long as it is decoded. -/
theorem later_run {front back : List Record} {record : Record} {maxRecordLine : Nat}
    (short : record.bytes.length ≤ maxRecordLine) {partition : Partition}
    (later : partition.start ≠ 0) (low : (fileOf front).length ≤ partition.start)
    (high : partition.start < (fileOf front).length + record.bytes.length) :
    partition.run (fileOf (front ++ record :: back)) maxRecordLine =
      processLines plain
        (partition.last + 1 - ((fileOf front).length + record.bytes.length : Nat) -
          2 * partition.split (fileOf (front ++ record :: back)))
        (readLines (decode ((fileOf back).take
          (partition.last + maxRecordLine + 1 -
            ((fileOf front).length + record.bytes.length))))) := by
  have size := length_bytes record
  have filled := partition.filled
  obtain ⟨skipped, start⟩ := Nat.exists_eq_add_of_le low
  have inside : skipped ≤ (encode record.chars).length := by omega
  have cut : (fileOf (front ++ record :: back)).drop partition.start =
      (encode record.chars).drop skipped ++ newline :: fileOf back := by
    rw [fileOf_append, fileOf_cons, start, List.drop_length_add_append, Record.bytes,
      List.append_assoc, List.drop_append_of_le_length inside]
    rfl
  have window : partition.input (fileOf (front ++ record :: back)) maxRecordLine =
      (encode record.chars).drop skipped ++ newline :: (fileOf back).take
        (partition.last + maxRecordLine + 1 -
          ((fileOf front).length + record.bytes.length)) := by
    have available : partition.last + maxRecordLine + 1 - partition.start =
        ((encode record.chars).drop skipped ++ [newline]).length +
          (partition.last + maxRecordLine + 1 -
            ((fileOf front).length + record.bytes.length)) := by
      rw [List.length_append, List.length_drop, List.length_singleton]
      omega
    rw [Partition.input, cut, List.append_cons, available, List.take_length_add_append,
      List.append_assoc, List.singleton_append]
  have stray : partition.split (fileOf (front ++ record :: back)) =
      stray ((encode record.chars).drop skipped) := by
    rw [Partition.split, cut, Utf8.stray_append _ rfl]
  obtain ⟨kept, suffix, text, length⟩ := Utf8.decode_drop record.chars inside
    (newline :: (fileOf back).take (partition.last + maxRecordLine + 1 -
      ((fileOf front).length + record.bytes.length)))
  -- the discarded line, each stray byte replaced
  have inline : ∀ c ∈ List.replicate (partition.split (fileOf (front ++ record :: back)))
      (Char.ofNat 65533) ++ kept, Inline c := by
    intro c there
    rcases List.mem_append.mp there with replaced | there
    · rw [List.eq_of_mem_replicate replaced]
      exact ⟨by decide, by decide⟩
    · exact record.clean c (suffix.subset there)
  rw [← stray] at text length
  have lines := readLines_newline inline (decode ((fileOf back).take
    (partition.last + maxRecordLine + 1 - ((fileOf front).length + record.bytes.length))))
  rw [List.append_assoc, ← decode_newline, ← text, ← window] at lines
  -- a replaced byte is encoded in three
  have read : plain.bytesRead (List.replicate (partition.split
      (fileOf (front ++ record :: back))) (Char.ofNat 65533) ++ kept) =
        3 * partition.split (fileOf (front ++ record :: back)) + (encode kept).length + 1 := by
    rw [Query.bytesRead, Utf8.encode_append, List.length_append, Utf8.length_encode_replicate]
    rfl
  rw [Partition.run_later later lines, read]
  congr 1
  omega

theorem later_run_spec {records : List Record} {maxRecordLine : Nat}
    (bounded : ∀ record ∈ records, record.bytes.length ≤ maxRecordLine) {partition : Partition}
    (later : partition.start ≠ 0) (inside : partition.start < (fileOf records).length) :
    ∃ count, partition.firstLine (fileOf records) + count ≤ records.length ∧
      partition.run (fileOf records) maxRecordLine =
        ⟨((records.drop (partition.firstLine (fileOf records))).take count).map Record.bytes,
          .ok ()⟩ ∧
      ∀ index < records.length,
        (index < partition.firstLine (fileOf records) ↔ offset records index ≤ partition.start) ∧
        (partition.firstLine (fileOf records) ≤ index →
          (index < partition.firstLine (fileOf records) + count ↔
            partition.Takes records maxRecordLine index)) := by
  obtain ⟨front, record, back, rfl, low, high⟩ := record_at records inside
  have filled := partition.filled
  -- the lines before the start, and the one it is in
  have number : partition.firstLine (fileOf (front ++ record :: back)) = front.length + 1 := by
    obtain ⟨skipped, start⟩ := Nat.exists_eq_add_of_le low
    have size := length_bytes record
    have none : (record.bytes.take skipped).count newline = 0 := by
      rw [Record.bytes, List.take_append_of_le_length (by omega)]
      exact List.count_eq_zero.mpr fun byte =>
        newline_not_mem record.clean (List.mem_of_mem_take byte)
    rw [Partition.firstLine, if_neg later, fileOf_append, fileOf_cons, start,
      List.take_length_add_append, List.take_append_of_le_length (by omega), List.count_append,
      count_fileOf, none]
  have ahead : partition.last + 1 - ((fileOf front).length + record.bytes.length : Nat) -
      2 * partition.split (fileOf (front ++ record :: back)) + (maxRecordLine : Int) ≤
        (partition.last + maxRecordLine + 1 -
          ((fileOf front).length + record.bytes.length) : Nat) := by omega
  obtain ⟨count, within, run, taken⟩ := processLines_records back
    (fun other there => bounded other (by simp [there])) ahead
  have short := bounded record (by simp)
  have next (index : Nat) : offset (front ++ record :: back) (front.length + 1 + index) =
      (fileOf front).length + record.bytes.length + offset back index := by
    have pieces := offset_append (front ++ [record]) back index
    rw [List.append_assoc, List.singleton_append, List.length_append, fileOf_append,
      List.length_append] at pieces
    rw [List.length_singleton] at pieces
    simpa [fileOf] using pieces
  have rest : (front ++ record :: back).drop (front.length + 1) = back := by
    simp [List.drop_append]
  rw [number]
  refine ⟨count, ?_, ?_, ?_⟩
  · simp
    omega
  · rw [later_run short later low high, run, rest]
  · intro index there
    have here := offset_append front (record :: back) 0
    have zero : offset (record :: back) 0 = 0 := rfl
    constructor
    · constructor
      · intro before
        have mono := offset_mono (front ++ record :: back) (show index ≤ front.length + 0 by omega)
        omega
      · intro before
        by_contra after
        have mono := offset_mono (front ++ record :: back) (show front.length + 1 + 0 ≤ index by omega)
        have start := next 0
        have zero : offset back 0 = 0 := rfl
        omega
    · intro after
      obtain ⟨more, rfl⟩ := Nat.exists_eq_add_of_le after
      have same := taken more (by simp at there; omega)
      rw [Partition.Takes, next]
      omega

theorem run_spec {records : List Record} {maxRecordLine : Nat}
    (bounded : ∀ record ∈ records, record.bytes.length ≤ maxRecordLine) {partition : Partition}
    (inside : partition.start < (fileOf records).length) :
    ∃ count, partition.firstLine (fileOf records) + count ≤ records.length ∧
      partition.run (fileOf records) maxRecordLine =
        ⟨((records.drop (partition.firstLine (fileOf records))).take count).map Record.bytes,
          .ok ()⟩ ∧
      ∀ index < records.length,
        (index < partition.firstLine (fileOf records) ↔
          partition.start ≠ 0 ∧ offset records index ≤ partition.start) ∧
        (partition.firstLine (fileOf records) ≤ index →
          (index < partition.firstLine (fileOf records) + count ↔
            partition.Takes records maxRecordLine index)) := by
  by_cases first : partition.start = 0
  · obtain ⟨count, within, run, taken⟩ := first_run_spec bounded first
    have number : partition.firstLine (fileOf records) = 0 := if_pos first
    simp only [number, Nat.zero_add, List.drop_zero]
    refine ⟨count, within, run, fun index there => ⟨?_, fun _ => taken index there⟩⟩
    omega
  · obtain ⟨count, within, run, taken⟩ := later_run_spec bounded first inside
    refine ⟨count, within, run, fun index there => ⟨?_, (taken index there).2⟩⟩
    rw [(taken index there).1]
    exact (and_iff_right first).symm

theorem mem_processedBy {records : List Record} {maxRecordLine : Nat}
    (bounded : ∀ record ∈ records, record.bytes.length ≤ maxRecordLine) {partition : Partition}
    (inside : partition.start < (fileOf records).length) {index : Nat}
    (there : index < records.length) :
    index ∈ partition.processedBy (fileOf records) maxRecordLine ↔
      partition.Takes records maxRecordLine index := by
  obtain ⟨count, within, run, taken⟩ := run_spec bounded inside
  obtain ⟨before, after⟩ := taken index there
  have size : (partition.run (fileOf records) maxRecordLine).trace.length = count := by
    rw [run, List.length_map, List.length_take, List.length_drop]
    omega
  rw [Partition.processedBy, size, List.mem_range'_1]
  by_cases late : partition.firstLine (fileOf records) ≤ index
  · rw [and_iff_right late, after late]
  -- a record that starts before the partition
  · have early := before.mp (by omega)
    rw [Partition.Takes]
    omega

/-! ## All partitions -/

theorem Divides.within {size position : Nat} {partitions : List Partition}
    (divides : Divides size position partitions) {partition : Partition}
    (member : partition ∈ partitions) : position ≤ partition.start ∧ partition.last < size := by
  induction partitions generalizing position with
  | nil => cases member
  | cons first rest ih =>
    obtain ⟨start, last, later⟩ := divides
    have filled := first.filled
    rcases List.mem_cons.mp member with rfl | member
    · omega
    · have bounds := ih later member
      omega

theorem Divides.start_lt {size position : Nat} {partitions : List Partition}
    (divides : Divides size position partitions) {partition : Partition}
    (member : partition ∈ partitions) : partition.start < size :=
  Nat.lt_of_le_of_lt partition.filled (divides.within member).2

theorem Divides.apart {size position : Nat} {partitions : List Partition}
    (divides : Divides size position partitions) {one other : Partition}
    (here : one ∈ partitions) (there : other ∈ partitions) :
    one = other ∨ one.last < other.start ∨ other.last < one.start := by
  induction partitions generalizing position with
  | nil => cases here
  | cons first rest ih =>
    obtain ⟨_, _, later⟩ := divides
    rcases List.mem_cons.mp here with rfl | behind
    · rcases List.mem_cons.mp there with rfl | behind
      · exact .inl rfl
      · exact .inr (.inl (later.within behind).1)
    · rcases List.mem_cons.mp there with rfl | behind'
      · exact .inr (.inr (later.within behind).1)
      · exact ih later behind behind'

theorem Divides.next {size position : Nat} {partitions : List Partition}
    (divides : Divides size position partitions) {partition : Partition}
    (member : partition ∈ partitions) (more : partition.last + 1 < size) :
    ∃ front next back, partitions = front ++ partition :: next :: back ∧
      next.start = partition.last + 1 := by
  induction partitions generalizing position with
  | nil => cases member
  | cons first rest ih =>
    obtain ⟨_, _, later⟩ := divides
    rcases List.mem_cons.mp member with rfl | member
    · cases rest with
      | nil => exact absurd later (Nat.ne_of_lt more)
      | cons next rest => exact ⟨[], next, rest, rfl, later.1⟩
    · obtain ⟨front, next, back, same, start⟩ := ih later member
      exact ⟨first :: front, next, back, by rw [same]; rfl, start⟩

/-- What the records are divided by: a record at the first byte is left to the partition before. -/
def Partition.Owns (partition : Partition) (position : Nat) : Prop :=
  (partition.start < position ∨ partition.start = 0) ∧ position ≤ partition.last + 1

theorem Divides.owned_once {size position : Nat} {partitions : List Partition}
    (divides : Divides size position partitions) {target : Nat} (inside : target < size)
    {takes : Partition → Bool}
    (owned : ∀ partition ∈ partitions, takes partition = true ↔ partition.Owns target) :
    partitions.countP takes = if position < target ∨ position = 0 then 1 else 0 := by
  -- by induction on the partitions: the first one owns the record, or one that comes later
  induction partitions generalizing position with
  | nil =>
    have ends : position = size := divides
    rw [if_neg (by omega), List.countP_nil]
  | cons first rest ih =>
    obtain ⟨start, last, later⟩ := divides
    have filled := first.filled
    obtain ⟨here, others⟩ := List.forall_mem_cons.mp owned
    rw [List.countP_cons, ih later others]
    by_cases own : first.Owns target
    · rw [if_pos (here.mpr own)]
      unfold Partition.Owns at own
      rw [if_neg (by omega), if_pos (by omega)]
    · rw [if_neg (fun taken => own (here.mp taken))]
      unfold Partition.Owns at own
      by_cases beyond : first.last + 1 < target
      · rw [if_pos (by omega), if_pos (by omega)]
      · rw [if_neg (by omega), if_neg (by omega)]

section Claims

variable {records : List Record} {maxRecordLine : Nat}

theorem takes_iff_owns (bounded : ∀ record ∈ records, record.bytes.length ≤ maxRecordLine)
    {partition : Partition} (complementary : Complementary records maxRecordLine partition)
    {index : Nat} (inside : index < records.length) :
    partition.Takes records maxRecordLine index ↔ partition.Owns (offset records index) := by
  obtain ⟨whole, cut⟩ := complementary index inside
  have positive : 1 ≤ maxRecordLine := by
    have length := length_bytes records[index]
    have short := bounded _ (List.getElem_mem inside)
    omega
  have first : partition.start = 0 → partition.split (fileOf records) = 0 := by
    intro start
    rw [Partition.split, start, List.drop_zero, split_zero]
  unfold Partition.Takes Partition.Owns
  -- at a split character the budget is too small, else the tolerance goes too far
  by_cases aligned : partition.split (fileOf records) = 0
  · have tolerated := whole aligned
    omega
  · have lost := cut (Nat.pos_of_ne_zero aligned)
    omega

theorem firstLine_unique {size first number : Nat} {before : Nat → Prop} (within : first ≤ size)
    (within' : number ≤ size) (counts : ∀ index < size, index < first ↔ before index)
    (counts' : ∀ index < size, index < number ↔ before index) : number = first := by
  rcases Nat.lt_trichotomy number first with less | same | more
  · have below := (counts number (by omega)).mp less
    exact absurd ((counts' number (by omega)).mpr below) (Nat.lt_irrefl _)
  · exact same
  · have below := (counts' first (by omega)).mp more
    exact absurd ((counts first (by omega)).mpr below) (Nat.lt_irrefl _)

theorem traces_of_complementary
    (bounded : ∀ record ∈ records, record.bytes.length ≤ maxRecordLine)
    {partitions : List Partition}
    (complementary : ∀ partition ∈ partitions, Complementary records maxRecordLine partition)
    {position : Nat} (divides : Divides (fileOf records).length position partitions) {first : Nat}
    (within : first ≤ records.length)
    (before : ∀ index < records.length,
      index < first ↔ position ≠ 0 ∧ offset records index ≤ position) :
    (partitions.flatMap fun partition => (partition.run (fileOf records) maxRecordLine).trace) =
      (records.drop first).map Record.bytes := by
  -- by induction on the partitions, with the number of the first line that is left to them
  induction partitions generalizing position first with
  | nil =>
    have ends : position = (fileOf records).length := divides
    have none : records.length ≤ first := by
      by_contra more
      have last := offset_lt records (Nat.lt_of_not_le more)
      have earlier := before first (Nat.lt_of_not_le more)
      omega
    rw [List.drop_eq_nil_of_le none]
    rfl
  | cons partition rest ih =>
    obtain ⟨start, last, later⟩ := divides
    have filled := partition.filled
    obtain ⟨here, others⟩ := List.forall_mem_cons.mp complementary
    have inside : partition.start < (fileOf records).length := by omega
    obtain ⟨count, enough, run, taken⟩ := run_spec bounded inside
    rw [start] at taken
    have same : partition.firstLine (fileOf records) = first :=
      firstLine_unique within (by omega) before fun index inside => (taken index inside).1
    rw [same] at run enough taken
    have next := ih others later enough fun index inside => by
      have owned := takes_iff_owns bounded here inside
      obtain ⟨skipped, reached⟩ := taken index inside
      unfold Partition.Owns at owned
      by_cases early : index < first
      · omega
      · rw [reached (Nat.le_of_not_lt early), owned]
        omega
    rw [List.flatMap_cons, run, next, ← List.map_append, ← List.drop_drop, List.take_append_drop]

theorem lossless_of_complementary
    (bounded : ∀ record ∈ records, record.bytes.length ≤ maxRecordLine)
    {partitions : List Partition} (divides : Divides (fileOf records).length 0 partitions)
    (complementary : ∀ partition ∈ partitions, Complementary records maxRecordLine partition) :
    Lossless records maxRecordLine partitions where
  ends := by
    intro partition member
    obtain ⟨count, _, run, _⟩ := run_spec bounded (divides.start_lt member)
    rw [run]
  whole := by
    have traces := traces_of_complementary bounded complementary divides (Nat.zero_le _)
      (by omega)
    rw [traces]
    rfl
  once := by
    intro index inside
    rw [divides.owned_once (offset_lt records inside), if_pos (.inr rfl)]
    intro partition member
    rw [decide_eq_true_eq, mem_processedBy bounded (divides.start_lt member) inside]
    exact takes_iff_owns bounded (complementary partition member) inside

theorem complementary_of_lossless
    (bounded : ∀ record ∈ records, record.bytes.length ≤ maxRecordLine)
    {partitions : List Partition} (divides : Divides (fileOf records).length 0 partitions)
    (lossless : Lossless records maxRecordLine partitions) {partition : Partition}
    (member : partition ∈ partitions) : Complementary records maxRecordLine partition := by
  intro index inside
  have filled := partition.filled
  have before := offset_lt records inside
  have taken {other : Partition} (there : other ∈ partitions) :
      other.Takes records maxRecordLine index →
        decide (index ∈ other.processedBy (fileOf records) maxRecordLine) = true := by
    intro takes
    rw [decide_eq_true_eq]
    exact (mem_processedBy bounded (divides.start_lt there) inside).mpr takes
  have once := lossless.once index inside
  constructor
  · intro aligned start
    by_contra long
    -- the next partition starts one byte before the record, and processes it as well
    obtain ⟨front, next, back, same, follows⟩ := divides.next member (by omega)
    have there : next ∈ partitions := by simp [same]
    have filled' := next.filled
    have aligned' : next.split (fileOf records) = 0 := split_before records inside (by omega)
    have takes : partition.Takes records maxRecordLine index := by
      unfold Partition.Takes
      omega
    have takes' : next.Takes records maxRecordLine index := by
      unfold Partition.Takes
      omega
    simp only [same, List.countP_append, List.countP_cons, taken member takes,
      taken there takes', if_true] at once
    omega
  · intro cut after owned
    by_contra lost
    -- no other partition processes the record
    have none : ∀ other ∈ partitions, ¬ decide
        (index ∈ other.processedBy (fileOf records) maxRecordLine) = true := by
      intro other there takes
      rw [decide_eq_true_eq, mem_processedBy bounded (divides.start_lt there) inside] at takes
      unfold Partition.Takes at takes
      have filled' := other.filled
      rcases divides.apart member there with rfl | order | order
      · omega
      · omega
      · have aligned : partition.split (fileOf records) = 0 :=
          split_before records inside (by omega)
        omega
    rw [List.countP_eq_zero.mpr none] at once
    cases once

theorem partitions_lossless_iff
    (bounded : ∀ record ∈ records, record.bytes.length ≤ maxRecordLine)
    {partitions : List Partition} (divides : Divides (fileOf records).length 0 partitions) :
    Lossless records maxRecordLine partitions ↔
      ∀ partition ∈ partitions, Complementary records maxRecordLine partition :=
  ⟨fun lossless _ member => complementary_of_lossless bounded divides lossless member,
    lossless_of_complementary bounded divides⟩

end Claims

/-- The partitions end with a record each. -/
theorem two_partitions_lossless :
    Lossless [⟨['a', 'b'], by simp [Inline]⟩, ⟨['c'], by simp [Inline]⟩] 3
      [⟨0, 2, by decide⟩, ⟨3, 4, by decide⟩] := by
  apply (partitions_lossless_iff ?_ ?_).mpr
  · simp only [Complementary]
    decide
  · decide
  · exact ⟨rfl, by decide, rfl, by decide, rfl⟩

/-- The second record starts two bytes after the first partition, and both write it. -/
theorem second_record_twice :
    let records : List Record := [⟨['a'], by simp [Inline]⟩, ⟨['b'], by simp [Inline]⟩]
    let partitions : List Partition := [⟨0, 0, by decide⟩, ⟨1, 3, by decide⟩]
    (∀ record ∈ records, record.bytes.length ≤ 2) ∧
      Divides (fileOf records).length 0 partitions ∧
      (partitions.flatMap fun partition => (partition.run (fileOf records) 2).trace).flatten =
        encode ['a', '\n', 'b', '\n', 'b', '\n'] ∧
      ¬ Lossless records 2 partitions := by
  intro records partitions
  refine ⟨by decide, ⟨rfl, by decide, rfl, by decide, rfl⟩, by decide, ?_⟩
  intro lossless
  have whole := lossless.whole
  revert whole
  decide

end Storlets.Csv
