import Storlets.Samples.Partitions

set_option autoImplicit false

/-!
# The identity storlet for partitions

The storlet for which the division into partitions is described. It counts the characters of a line,
where the CSV storlet counts its bytes.
-/

namespace Storlets.PartitionsIdentity

open JavaStr Csv

/-- The default charset of the platform. -/
structure Charset where
  decode : Csv.Bytes → Text
  encode : Text → Csv.Bytes

/-- The code units of a string. -/
def length (line : Text) : Int := (line.map fun c => if c.toNat < 65536 then 1 else 2).sum

structure Parameters where
  mStart : Int
  mEnd : Int
  mMaxRecordLine : Int
  mFirstPartition : Bool

/-- A parameter that is missing raises an exception like one that cannot be parsed. -/
def parseInputParameters (parameters : Text → Option Text) : Option Parameters := do
  let mStart ← (parseLong (← parameters "start")).toOption
  let mEnd ← (parseLong (← parameters "end")).toOption
  let mMaxRecordLine ← (parseInt (← parameters "max_record_line")).toOption
  let first ← parameters "first_partition"
  return { mStart, mEnd, mMaxRecordLine, mFirstPartition := first.map Char.toLower = "true".toList }

section Storlet

variable (charset : Charset)

def written (line : Text) : Csv.Bytes := charset.encode line ++ [Csv.newline]

/-- The lines that are written while the length that is left is at least -1. -/
def consumeRange : Int → List Text → List Csv.Bytes
  | _, [] => []
  | mLength, line :: rest =>
      if -1 ≤ mLength then written charset line :: consumeRange (mLength - (length line + 1)) rest
      else []

/-- What `invoke` writes, line by line. Whatever fails is logged, and nothing more is written. -/
def invoke (parameters : Text → Option Text) (input : Csv.Bytes) : List Csv.Bytes :=
  match parseInputParameters parameters with
  | none => []
  | some ⟨mStart, mEnd, _, mFirstPartition⟩ =>
      match readLines (charset.decode input) with
      | [] => []
      | line :: rest =>
          (if mFirstPartition then [written charset line] else []) ++
            consumeRange charset (mEnd - mStart - (length line + 1)) rest

end Storlet

def Ascii (text : Text) : Prop := ∀ c ∈ text, c.toNat < 128

/-- The charset agrees with ASCII on its characters. -/
structure Charset.Compatible (charset : Charset) : Prop where
  decodes : ∀ text, Ascii text → charset.decode (Utf8.encode text) = text
  encodes : ∀ text, Ascii text → charset.encode text = Utf8.encode text

def parametersOf (maxRecordLine first : Nat) (partition : Partition) (name : Text) : Option Text :=
  if name = "start".toList then some (PyStr.decimal partition.start)
  else if name = "end".toList then some (PyStr.decimal partition.last)
  else if name = "max_record_line".toList then some (PyStr.decimal maxRecordLine)
  else if name = "first_partition".toList then
    some (if partition.start = first then "true".toList else "false".toList)
  else none

/-- A partition of a file whose first one starts there. -/
def run (charset : Charset) (file : Csv.Bytes) (maxRecordLine first : Nat) (partition : Partition) :
    List Csv.Bytes :=
  invoke charset (parametersOf maxRecordLine first partition) (partition.input file maxRecordLine)

/-! ## ASCII -/

section Characters

variable {charset : Charset} {text front back : Text}

theorem encode_ascii (ascii : Ascii text) :
    Utf8.encode text = text.map fun c => UInt8.ofNat c.toNat := by
  induction text with
  | nil => rfl
  | cons c rest ih =>
    obtain ⟨here, later⟩ := List.forall_mem_cons.mp ascii
    have one : String.utf8EncodeChar c = [UInt8.ofNat c.toNat] := if_pos (Nat.le_of_lt_succ here)
    rw [Utf8.encode, List.flatMap_cons, one, List.map_cons, ← ih later]
    rfl

theorem length_ascii (ascii : Ascii text) : length text = (Utf8.encode text).length := by
  rw [encode_ascii ascii, List.length_map]
  induction text with
  | nil => rfl
  | cons c rest ih =>
    obtain ⟨here, later⟩ := List.forall_mem_cons.mp ascii
    have small : c.toNat < 65536 := by omega
    have rest := ih later
    unfold length at rest ⊢
    rw [List.map_cons, List.sum_cons, if_pos small, rest, List.length_cons]
    omega

theorem ascii_of_sublist (ascii : Ascii text) (sub : front.Sublist text) : Ascii front :=
  fun c inside => ascii c (sub.subset inside)

theorem encode_take (ascii : Ascii text) (count : Nat) :
    (Utf8.encode text).take count = Utf8.encode (text.take count) := by
  rw [encode_ascii ascii, encode_ascii (ascii_of_sublist ascii (List.take_sublist _ _)),
    List.map_take]

theorem encode_drop (ascii : Ascii text) (count : Nat) :
    (Utf8.encode text).drop count = Utf8.encode (text.drop count) := by
  rw [encode_ascii ascii, encode_ascii (ascii_of_sublist ascii (List.drop_sublist _ _)),
    List.map_drop]

end Characters

/-! ## The file -/

def AsciiRecords (records : List Record) : Prop := ∀ record ∈ records, Ascii record.chars

def textOf (records : List Record) : Text := records.flatMap fun record => record.chars ++ ['\n']

section File

variable {charset : Charset} {records : List Record}

theorem textOf_ascii (ascii : AsciiRecords records) : Ascii (textOf records) := by
  intro c inside
  obtain ⟨record, there, member⟩ := List.mem_flatMap.mp inside
  rcases List.mem_append.mp member with char | last
  · exact ascii record there c char
  · rw [List.mem_singleton.mp last]
    decide

theorem encode_textOf (records : List Record) : Utf8.encode (textOf records) = fileOf records := by
  rw [textOf, Utf8.encode, List.flatMap_assoc]
  apply List.flatMap_congr
  intro record _
  rw [List.flatMap_append]
  rfl

/-- A part of the file is decoded as in UTF-8. -/
theorem decode_input (compatible : charset.Compatible) (ascii : AsciiRecords records)
    (partition : Partition) (maxRecordLine : Nat) :
    charset.decode (partition.input (fileOf records) maxRecordLine) =
      Utf8.decode (partition.input (fileOf records) maxRecordLine) ∧
      Ascii (Utf8.decode (partition.input (fileOf records) maxRecordLine)) := by
  have whole := textOf_ascii ascii
  have later := ascii_of_sublist whole (List.drop_sublist partition.start _)
  have part := ascii_of_sublist later (List.take_sublist
    (partition.last + maxRecordLine + 1 - partition.start) _)
  have cut : partition.input (fileOf records) maxRecordLine =
      Utf8.encode (((textOf records).drop partition.start).take
        (partition.last + maxRecordLine + 1 - partition.start)) := by
    rw [Partition.input, ← encode_textOf, encode_drop whole, encode_take later]
  have same := Utf8.decode_encode_append (((textOf records).drop partition.start).take
    (partition.last + maxRecordLine + 1 - partition.start)) []
  rw [List.append_nil] at same
  have read : Utf8.decode (partition.input (fileOf records) maxRecordLine) =
      ((textOf records).drop partition.start).take
        (partition.last + maxRecordLine + 1 - partition.start) := by
    rw [cut, same]
    exact List.append_nil _
  constructor
  · rw [read, cut, compatible.decodes _ part]
  · rw [read]
    exact part

end File

/-! ## One partition -/

section Run

variable {charset : Charset} {records : List Record} {maxRecordLine first : Nat}

theorem mem_linesFrom {line text part : Text} (inside : part ∈ linesFrom line text) {c : Char}
    (member : c ∈ part) : c ∈ line ∨ c ∈ text := by
  fun_induction linesFrom line text with
  | case1 => cases inside
  | case2 line some =>
    rw [List.mem_singleton.mp inside] at member
    exact .inl member
  | case3 line rest ih =>
    rcases List.mem_cons.mp inside with rfl | later
    · exact .inl member
    · exact .inr (by simpa using .inr (.inr ((ih later).resolve_left (List.not_mem_nil))))
  | case4 line d rest _ ends ih =>
    rcases List.mem_cons.mp inside with rfl | later
    · exact .inl member
    · exact .inr (List.mem_cons_of_mem _ ((ih later).resolve_left (List.not_mem_nil)))
  | case5 line d rest _ goes ih =>
    rcases ih inside with early | late
    · rcases List.mem_append.mp early with before | here
      · exact .inl before
      · exact .inr (List.mem_singleton.mp here ▸ List.mem_cons_self)
    · exact .inr (List.mem_cons_of_mem _ late)

theorem readLines_ascii {text : Text} (ascii : Ascii text) :
    ∀ line ∈ readLines text, Ascii line := by
  intro line inside c member
  exact ascii c ((mem_linesFrom inside member).resolve_left (List.not_mem_nil))

theorem written_ascii (compatible : charset.Compatible) {line : Text} (ascii : Ascii line) :
    written charset line = Utf8.encode line ++ [Csv.newline] := by
  rw [written, compatible.encodes line ascii]

/-- On ASCII the loop is that of the CSV storlet. -/
theorem consumeRange_eq (compatible : charset.Compatible) {lines : List Text}
    (ascii : ∀ line ∈ lines, Ascii line) (mLength : Int) :
    consumeRange charset mLength lines = (processLines plain mLength lines).trace := by
  induction lines generalizing mLength with
  | nil => rfl
  | cons line rest ih =>
    obtain ⟨here, later⟩ := List.forall_mem_cons.mp ascii
    by_cases more : -1 ≤ mLength
    · rw [consumeRange, if_pos more, processLines_more more, ih later, written_ascii compatible here,
        length_ascii here]
    · rw [consumeRange, if_neg more, processLines_stop more]
      rfl

theorem parse_parametersOf (partition : Partition) (small : partition.last < 9223372036854775808)
    (line : maxRecordLine < 2147483648) :
    parseInputParameters (parametersOf maxRecordLine first partition) =
      some ⟨partition.start, partition.last, maxRecordLine, partition.start = first⟩ := by
  have filled := partition.filled
  have start : parametersOf maxRecordLine first partition "start".toList =
      some (PyStr.decimal partition.start) := rfl
  have stop : parametersOf maxRecordLine first partition "end".toList =
      some (PyStr.decimal partition.last) := rfl
  have longest : parametersOf maxRecordLine first partition "max_record_line".toList =
      some (PyStr.decimal maxRecordLine) := rfl
  have flag : parametersOf maxRecordLine first partition "first_partition".toList =
      some (if partition.start = first then "true".toList else "false".toList) := rfl
  simp only [parseInputParameters, start, stop, longest, flag, Option.bind_eq_bind,
    Option.bind_some, parseLong_decimal (Nat.lt_of_le_of_lt filled small), parseLong_decimal small,
    parseInt_decimal line, Except.toOption]
  by_cases here : partition.start = first
  · simp only [here, if_true]
    rfl
  · simp only [here, if_false]
    rfl

theorem run_eq (compatible : charset.Compatible) (ascii : AsciiRecords records)
    (partition : Partition) (small : partition.last < 9223372036854775808)
    (line : maxRecordLine < 2147483648) :
    run charset (fileOf records) maxRecordLine first partition =
      match readLines (Utf8.decode (partition.input (fileOf records) maxRecordLine)) with
      | [] => []
      | line :: rest =>
          (if partition.start = first then [Utf8.encode line ++ [Csv.newline]] else []) ++
            (processLines plain (partition.last - partition.start - ((Utf8.encode line).length + 1))
              rest).trace := by
  obtain ⟨decoded, characters⟩ := decode_input compatible ascii partition maxRecordLine
  have lines := readLines_ascii characters
  rw [run, invoke, parse_parametersOf partition small line, decoded]
  dsimp only
  cases read : readLines (Utf8.decode (partition.input (fileOf records) maxRecordLine)) with
  | nil => rfl
  | cons line rest =>
    rw [read] at lines
    obtain ⟨here, later⟩ := List.forall_mem_cons.mp lines
    dsimp only
    rw [consumeRange_eq compatible later, written_ascii compatible here, length_ascii here]
    simp only [decide_eq_true_eq]

/-- The records are written that start within the tolerance. -/
theorem written_records (bounded : ∀ record ∈ records, record.bytes.length ≤ maxRecordLine)
    {mLength : Int} {available : Nat} (ahead : (available : Int) = mLength + maxRecordLine + 1) :
    ∃ count ≤ records.length,
      (processLines plain mLength
        (readLines (Utf8.decode ((fileOf records).take available)))).trace =
          (records.take count).map Record.bytes ∧
      ∀ index < records.length, index < count ↔ (offset records index : Int) ≤ mLength + 1 := by
  have enough : mLength + maxRecordLine ≤ available := by omega
  obtain ⟨count, within, run, taken⟩ := processLines_records records bounded enough
  refine ⟨count, within, by rw [run], fun index inside => ?_⟩
  have positive := length_bytes records[index]
  have short := bounded _ (List.getElem_mem inside)
  rw [taken index inside]
  omega

variable (compatible : charset.Compatible) (ascii : AsciiRecords records)
variable (bounded : ∀ record ∈ records, record.bytes.length ≤ maxRecordLine)
variable (line : maxRecordLine < 2147483648) {partition : Partition}
variable (small : partition.last < 9223372036854775808)

include compatible ascii bounded line small

/-- The first partition starts with a record, behind those of a header. -/
theorem first_spec {header : Nat} (within : header ≤ records.length)
    (start : partition.start = offset records header) :
    ∃ count, header + count ≤ records.length ∧
      run charset (fileOf records) maxRecordLine (offset records header) partition =
        ((records.drop header).take count).map Record.bytes ∧
      ∀ index < records.length, header ≤ index →
        (index < header + count ↔ offset records index ≤ partition.last + 1) := by
  have filled := partition.filled
  have cut : (fileOf records).drop partition.start = fileOf (records.drop header) := by
    have whole : fileOf (records.take header) ++ fileOf (records.drop header) = fileOf records := by
      rw [← fileOf_append, List.take_append_drop]
    rw [start, offset, ← whole, List.drop_left]
  have shorter : ∀ record ∈ records.drop header, record.bytes.length ≤ maxRecordLine :=
    fun record inside => bounded record (List.mem_of_mem_drop inside)
  obtain ⟨count, enough, output, taken⟩ := written_records shorter
    (by omega : ((partition.last + maxRecordLine + 1 - partition.start : Nat) : Int) =
      (partition.last - partition.start : Int) + maxRecordLine + 1)
  rw [List.length_drop] at enough taken
  refine ⟨count, by omega, ?_, fun index inside after => ?_⟩
  · rw [run_eq compatible ascii partition small line, ← output, Partition.input, cut]
    have positive : -1 ≤ (partition.last - partition.start : Int) := by omega
    -- the first line is within the tolerance
    cases readLines (Utf8.decode ((fileOf (records.drop header)).take
        (partition.last + maxRecordLine + 1 - partition.start))) with
    | nil => rfl
    | cons first rest =>
      rw [processLines_more positive]
      simp [start]
  · obtain ⟨more, rfl⟩ := Nat.exists_eq_add_of_le after
    have here := taken more (by omega)
    have pieces := offset_append (records.take header) (records.drop header) more
    rw [List.take_append_drop, List.length_take, Nat.min_eq_left within] at pieces
    rw [pieces]
    rw [start] at here
    unfold offset at here ⊢
    omega

/-- Another partition leaves the record that it starts in to the one before. -/
theorem later_spec {first : Nat} (later : partition.start ≠ first)
    (inside : partition.start < (fileOf records).length) :
    ∃ number count, number + count ≤ records.length ∧
      run charset (fileOf records) maxRecordLine first partition =
        ((records.drop number).take count).map Record.bytes ∧
      ∀ index < records.length,
        (index < number ↔ offset records index ≤ partition.start) ∧
        (number ≤ index →
          (index < number + count ↔ offset records index ≤ partition.last + 1)) := by
  have filled := partition.filled
  obtain ⟨front, record, back, rfl, low, high⟩ := record_at records inside
  obtain ⟨skipped, start⟩ := Nat.exists_eq_add_of_le low
  have size := length_bytes record
  have short := bounded record (by simp)
  have own : Ascii record.chars := ascii record (by simp)
  have most : skipped ≤ (Utf8.encode record.chars).length := by omega
  have cut : (fileOf (front ++ record :: back)).drop partition.start =
      Utf8.encode (record.chars.drop skipped) ++ Csv.newline :: fileOf back := by
    rw [fileOf_append, fileOf_cons, start, List.drop_length_add_append, Record.bytes,
      List.append_assoc, List.drop_append_of_le_length most, encode_drop own]
    rfl
  have left : (Utf8.encode (record.chars.drop skipped)).length + skipped =
      (Utf8.encode record.chars).length := by
    rw [← encode_drop own, List.length_drop]
    omega
  have window : partition.input (fileOf (front ++ record :: back)) maxRecordLine =
      Utf8.encode (record.chars.drop skipped) ++ Csv.newline :: (fileOf back).take
        (partition.last + maxRecordLine + 1 - ((fileOf front).length + record.bytes.length)) := by
    have available : partition.last + maxRecordLine + 1 - partition.start =
        (Utf8.encode (record.chars.drop skipped) ++ [Csv.newline]).length +
          (partition.last + maxRecordLine + 1 -
            ((fileOf front).length + record.bytes.length)) := by
      rw [List.length_append, List.length_singleton]
      omega
    rw [Partition.input, cut, List.append_cons, available, List.take_length_add_append,
      List.append_assoc, List.singleton_append]
  have lines : readLines (Utf8.decode (partition.input (fileOf (front ++ record :: back))
      maxRecordLine)) = record.chars.drop skipped :: readLines (Utf8.decode ((fileOf back).take
        (partition.last + maxRecordLine + 1 -
          ((fileOf front).length + record.bytes.length)))) := by
    rw [window, Utf8.decode_encode_append, decode_newline]
    exact readLines_newline (fun c there => record.clean c (List.mem_of_mem_drop there)) _
  have shorter : ∀ record ∈ back, record.bytes.length ≤ maxRecordLine :=
    fun other there => bounded other (by simp [there])
  obtain ⟨count, enough, output, taken⟩ := written_records shorter
    (by omega : ((partition.last + maxRecordLine + 1 -
      ((fileOf front).length + record.bytes.length) : Nat) : Int) =
        (partition.last - partition.start -
          ((Utf8.encode (record.chars.drop skipped)).length + 1) : Int) + maxRecordLine + 1)
  have rest : (front ++ record :: back).drop (front.length + 1) = back := by
    simp [List.drop_append]
  have next (index : Nat) : offset (front ++ record :: back) (front.length + 1 + index) =
      (fileOf front).length + record.bytes.length + offset back index := by
    have pieces := offset_append (front ++ [record]) back index
    rw [List.append_assoc, List.singleton_append, List.length_append, fileOf_append,
      List.length_append, List.length_singleton] at pieces
    simpa [fileOf] using pieces
  refine ⟨front.length + 1, count, by simp; omega, ?_, fun index there => ⟨?_, fun after => ?_⟩⟩
  · rw [run_eq compatible ascii partition small line, lines]
    dsimp only
    rw [if_neg later, List.nil_append, output, rest]
  · have here := offset_append front (record :: back) 0
    have zero : offset (record :: back) 0 = 0 := rfl
    constructor
    · intro before
      have mono := offset_mono (front ++ record :: back) (show index ≤ front.length + 0 by omega)
      omega
    · intro before
      by_contra late
      have mono := offset_mono (front ++ record :: back)
        (show front.length + 1 + 0 ≤ index by omega)
      have start := next 0
      have zero : offset back 0 = 0 := rfl
      omega
  · obtain ⟨more, rfl⟩ := Nat.exists_eq_add_of_le after
    have same := taken more (by simp at there; omega)
    rw [next]
    omega

omit small

/-- The partitions behind the first one write the records from where the one before has stopped. -/
theorem later_whole (size : (fileOf records).length < 9223372036854775808) {first position : Nat}
    (behind : first < position) {partitions : List Partition}
    (divides : Divides (fileOf records).length position partitions) {number : Nat}
    (within : number ≤ records.length)
    (before : ∀ index < records.length, index < number ↔ offset records index ≤ position) :
    partitions.flatMap (run charset (fileOf records) maxRecordLine first) =
      (records.drop number).map Record.bytes := by
  -- by induction on the partitions, with the number of the first record that is left to them
  induction partitions generalizing position number with
  | nil =>
    have ends : position = (fileOf records).length := divides
    have none : records.length ≤ number := by
      by_contra more
      have last := offset_lt records (Nat.lt_of_not_le more)
      have earlier := before number (Nat.lt_of_not_le more)
      omega
    rw [List.drop_eq_nil_of_le none]
    rfl
  | cons partition rest ih =>
    obtain ⟨start, last, others⟩ := divides
    have filled := partition.filled
    obtain ⟨number', count, enough, output, taken⟩ := later_spec compatible ascii bounded line
      (by omega : partition.last < 9223372036854775808) (by omega : partition.start ≠ first)
      (by omega)
    have same : number' = number :=
      firstLine_unique within (by omega) before fun index inside => by
        rw [(taken index inside).1, start]
    rw [same] at enough output taken
    have next := ih (by omega) others enough fun index inside => by
      obtain ⟨skipped, reached⟩ := taken index inside
      by_cases early : index < number
      · omega
      · rw [reached (Nat.le_of_not_lt early)]
    rw [List.flatMap_cons, output, next, ← List.map_append, ← List.drop_drop, List.take_append_drop]

/-- However a file of ASCII is divided behind its header, the partitions write each record once, in
order. -/
theorem partitions_write_once (size : (fileOf records).length < 9223372036854775808) {header : Nat}
    (within : header ≤ records.length) {partitions : List Partition}
    (divides : Divides (fileOf records).length (offset records header) partitions) :
    partitions.flatMap (run charset (fileOf records) maxRecordLine (offset records header)) =
      (records.drop header).map Record.bytes := by
  cases partitions with
  | nil =>
    have ends : offset records header = (fileOf records).length := divides
    have none : records.length ≤ header := by
      by_contra more
      have last := offset_lt records (Nat.lt_of_not_le more)
      omega
    rw [List.drop_eq_nil_of_le none]
    rfl
  | cons partition rest =>
    obtain ⟨start, last, others⟩ := divides
    have filled := partition.filled
    obtain ⟨count, enough, output, taken⟩ := first_spec compatible ascii bounded line
      (by omega : partition.last < 9223372036854775808) within start
    have next := later_whole compatible ascii bounded line size
      (by omega : offset records header < partition.last + 1) others enough fun index inside => by
        by_cases early : header ≤ index
        · exact taken index inside early
        · have mono := offset_mono records (Nat.le_of_not_le early)
          omega
    rw [List.flatMap_cons, output, next, ← List.map_append, ← List.drop_drop, List.take_append_drop]

end Run

/-- UTF-8. -/
def utf8 : Charset := ⟨Utf8.decode, Utf8.encode⟩

theorem utf8_compatible : utf8.Compatible where
  decodes text _ := by
    have same := Utf8.decode_encode_append text []
    rw [List.append_nil] at same
    exact same.trans (List.append_nil _)
  encodes _ _ := rfl

/-- The division that the CSV storlet processes a record of twice. -/
theorem two_partitions_once :
    let records : List Record :=
      [⟨['h'], by simp [Inline]⟩, ⟨['a'], by simp [Inline]⟩, ⟨['b'], by simp [Inline]⟩]
    ([⟨2, 2, by decide⟩, ⟨3, 5, by decide⟩] : List Csv.Partition).flatMap
        (run utf8 (fileOf records) 2 (offset records 1)) = (records.drop 1).map Record.bytes := by
  intro records
  have ascii : AsciiRecords records := by
    intro record inside c member
    simp only [records, List.mem_cons, List.not_mem_nil, or_false] at inside
    rcases inside with rfl | rfl | rfl <;> rw [List.mem_singleton.mp member] <;> decide
  exact partitions_write_once utf8_compatible ascii (by decide) (by decide) (by decide) (by decide)
    ⟨rfl, by decide, rfl, by decide, rfl⟩

end Storlets.PartitionsIdentity
