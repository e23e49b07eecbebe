import Storlets.Samples.Partitions

set_option autoImplicit false

/-!
# A query on the partitions of a CSV file

The partitions are looked at one by one, wherever the file is divided; together they answer what
the query asks of the whole file.
-/

namespace Storlets.Csv

open JavaStr Traced
open Utf8 (encode decode)

/-! ## The lines that are processed -/

/-- The lines that are taken before the budget is spent. -/
def takenLines (separatorBytes : Nat) : Int → List Text → List Text
  | _, [] => []
  | rangeBytesLeft, line :: rest =>
      if -1 ≤ rangeBytesLeft then
        line :: takenLines separatorBytes
          (rangeBytesLeft - ((encode line).length + separatorBytes)) rest
      else []

/-- The lines that are processed, whatever is asked of them. -/
def ReaderEnv.lines (env : ReaderEnv) (input : Bytes) : Except StorletException (List Text) :=
  let separatorBytes := (encode env.recordDelimiter).length
  let rangeBytesLeft := env.endRangePosition - env.startRangePosition + 1
  let lines := readLines (decode input)
  if env.isFirstPartition then .ok (takenLines separatorBytes rangeBytesLeft lines)
  else
    match lines with
    | [] => .error ⟨none⟩
    | line :: rest =>
        .ok (takenLines separatorBytes
          (rangeBytesLeft - ((encode line).length + separatorBytes)) rest)

theorem processLines_taken (query : Query) (rangeBytesLeft : Int) (lines : List Text) :
    processLines query rangeBytesLeft lines =
      (takenLines query.recordSeparatorBytes.length rangeBytesLeft lines).forM
        (processLine query) := by
  -- by induction on the lines, with the budget that is left to them
  induction lines generalizing rangeBytesLeft with
  | nil => rfl
  | cons line rest ih =>
    by_cases more : -1 ≤ rangeBytesLeft
    · simp only [processLines, takenLines, if_pos more, ih, Query.bytesRead]
      rfl
    · simp only [processLines, takenLines, if_neg more]
      rfl

theorem init_separator {env : ReaderEnv} {query : Query} (built : Query.init env = .ok query) :
    query.recordSeparatorBytes = encode env.recordDelimiter := by
  obtain ⟨clause, _, same⟩ := Fallible.bind_eq_ok built
  rw [← Except.ok.inj same]

/-- The query is built first, then every line that is taken is processed. -/
theorem invoke_lines (env : ReaderEnv) (input : Bytes) :
    invoke env input = (do
      let query ← lift ((Query.init env).mapError fun exception => ⟨some exception⟩)
      let lines ← lift (env.lines input)
      lines.forM (processLine query)) := by
  unfold invoke
  cases built : Query.init env with
  | error exception => rfl
  | ok query =>
    have separator := congrArg List.length (init_separator built)
    simp only [Except.mapError, lift_ok_bind]
    by_cases first : env.isFirstPartition
    · simp [ReaderEnv.lines, first, processLines_taken, separator]
    · cases read : readLines (decode input) with
      | nil => simp [ReaderEnv.lines, first, read]
      | cons line rest =>
        simp [ReaderEnv.lines, first, read, processLines_taken, separator, Query.bytesRead]

/-! ## The lines of a partition -/

theorem encode_inj {one other : Text} (same : encode one = encode other) : one = other := by
  have decoded := congrArg decode same
  have text := Utf8.decode_encode_append one []
  have text' := Utf8.decode_encode_append other []
  simp only [List.append_nil] at text text'
  rw [text, text'] at decoded
  simpa [decode] using decoded

def written (line : Text) : Bytes := encode line ++ [newline]

theorem written_injective : Function.Injective written := by
  intro one other same
  exact encode_inj (List.append_cancel_right same)

theorem map_written (records : List Record) :
    (records.map Record.chars).map written = records.map Record.bytes := by
  rw [List.map_map]
  rfl

theorem forM_plain (lines : List Text) :
    (lines.forM (processLine plain) : CsvAction Unit) = ⟨lines.map written, .ok ()⟩ := by
  induction lines with
  | nil => rfl
  | cons line rest ih =>
    change (emit (written line) >>= fun _ => rest.forM (processLine plain)) = _
    rw [emit_bind, ih]
    rfl

/-- The lines of a partition are those that it writes if nothing is asked of them. -/
theorem lines_of_run {partition : Partition} {input : Bytes} {lines : List Text}
    (run : invoke partition.env input = ⟨lines.map written, .ok ()⟩) :
    partition.env.lines input = .ok lines := by
  rw [invoke_lines, init_plain] at run
  simp only [Except.mapError, lift_ok_bind] at run
  cases taken : partition.env.lines input with
  | error exception =>
    rw [taken, lift_error_bind] at run
    exact absurd (congrArg Traced.result run) (by simp)
  | ok found =>
    rw [taken, lift_ok_bind, forM_plain] at run
    rw [written_injective.list_map (congrArg Traced.trace run)]

/-! ## A query on the partitions -/

/-- What is asked of every line. -/
structure Pushdown where
  selectedFields : Option (List Int)
  theWhereClause : Text

namespace Pushdown

variable (asked : Pushdown)

def env (range : ReaderEnv) : ReaderEnv :=
  { range with selectedFields := asked.selectedFields, theWhereClause := asked.theWhereClause }

def onPartition (file : Bytes) (maxRecordLine : Nat) (partition : Partition) : CsvAction Unit :=
  invoke (asked.env partition.env) (partition.input file maxRecordLine)

/-- The range is the whole file. -/
def onFile (file : Bytes) : CsvAction Unit :=
  let range : ReaderEnv :=
    { startRangePosition := 0
      endRangePosition := file.length - 1
      isFirstPartition := true }
  invoke (asked.env range) file

/-- The query, which is the same for every range. -/
def query : Except StorletException Query :=
  let range : ReaderEnv :=
    { startRangePosition := 0
      endRangePosition := 0
      isFirstPartition := true }
  (Query.init (asked.env range)).mapError fun exception => ⟨some exception⟩

/-- What is asked, of so many lines. -/
def onLines (lines : List Text) : CsvAction Unit := do
  let query ← lift asked.query
  lines.forM (processLine query)

end Pushdown

section Runs

variable {records : List Record} {maxRecordLine : Nat}

theorem onPartition_lines (asked : Pushdown) {file : Bytes} {partition : Partition}
    {lines : List Text}
    (run : partition.run file maxRecordLine = ⟨lines.map written, .ok ()⟩) :
    asked.onPartition file maxRecordLine partition = asked.onLines lines := by
  have taken : (asked.env partition.env).lines (partition.input file maxRecordLine) = .ok lines :=
    lines_of_run run
  rw [Pushdown.onPartition, invoke_lines, taken]
  rfl

theorem onLines_append {asked : Pushdown} {query : Query} (built : asked.query = .ok query)
    (front back : List Text) :
    asked.onLines (front ++ back) = asked.onLines front >>= fun _ => asked.onLines back := by
  simp only [Pushdown.onLines, built, lift_ok_bind]
  exact List.forM_append

/-- One partition after the other does what is asked of all their lines. -/
theorem forM_onPartition {asked : Pushdown} {query : Query} (built : asked.query = .ok query)
    {file : Bytes} {partitions : List Partition}
    (runs : ∀ partition ∈ partitions, ∃ lines : List Text,
      partition.run file maxRecordLine = ⟨lines.map written, .ok ()⟩) :
    ∃ lines : List Text,
      (partitions.flatMap fun partition => (partition.run file maxRecordLine).trace) =
        lines.map written ∧
      partitions.forM (asked.onPartition file maxRecordLine) = asked.onLines lines := by
  induction partitions with
  | nil =>
    refine ⟨[], rfl, ?_⟩
    rw [Pushdown.onLines, built]
    rfl
  | cons partition rest ih =>
    obtain ⟨here, others⟩ := List.forall_mem_cons.mp runs
    obtain ⟨lines, run⟩ := here
    obtain ⟨more, traces, answers⟩ := ih others
    refine ⟨lines ++ more, ?_, ?_⟩
    · rw [List.flatMap_cons, traces, run, List.map_append]
    · rw [onLines_append built, ← onPartition_lines asked run, ← answers]
      rfl

theorem run_lines (bounded : ∀ record ∈ records, record.bytes.length ≤ maxRecordLine)
    {partition : Partition} (inside : partition.start < (fileOf records).length) :
    ∃ lines : List Text,
      partition.run (fileOf records) maxRecordLine = ⟨lines.map written, .ok ()⟩ := by
  obtain ⟨count, _, run, _⟩ := run_spec bounded inside
  exact ⟨_, by rw [run, map_written]⟩

/-- Partitions that complement each other do what is asked of all the records. -/
theorem partitions_onLines
    (bounded : ∀ record ∈ records, record.bytes.length ≤ maxRecordLine)
    {partitions : List Partition} (divides : Divides (fileOf records).length 0 partitions)
    (complementary : ∀ partition ∈ partitions, Complementary records maxRecordLine partition)
    (filled : records ≠ []) (asked : Pushdown) :
    partitions.forM (asked.onPartition (fileOf records) maxRecordLine) =
      asked.onLines (records.map Record.chars) := by
  have runs (partition : Partition) (member : partition ∈ partitions) :=
    run_lines bounded (divides.start_lt member)
  cases built : asked.query with
  | ok query =>
    obtain ⟨lines, traces, answers⟩ := forM_onPartition built runs
    have whole := traces_of_complementary bounded complementary divides (Nat.zero_le _) (by omega)
    rw [traces, List.drop_zero, ← map_written] at whole
    rw [answers, written_injective.list_map whole]
  | error exception =>
    -- the first partition raises it as well
    cases partitions with
    | nil =>
      have nothing : 0 = (fileOf records).length := divides
      have some := offset_lt records (List.length_pos_iff.mpr filled)
      omega
    | cons partition rest =>
      obtain ⟨lines, run⟩ := runs partition List.mem_cons_self
      change (asked.onPartition _ _ partition >>= fun _ => rest.forM _) = _
      rw [onPartition_lines asked run, Pushdown.onLines, Pushdown.onLines, built, lift_error_bind,
        throw_bind, lift_error_bind]

theorem length_le_fileOf {record : Record} (inside : record ∈ records) :
    record.bytes.length ≤ (fileOf records).length := by
  rw [fileOf, List.length_flatMap]
  exact List.le_sum_of_mem (List.mem_map_of_mem inside)

/-- All of the file is a partition that needs no other one. -/
theorem onFile_onLines (filled : records ≠ []) (asked : Pushdown) :
    asked.onFile (fileOf records) = asked.onLines (records.map Record.chars) := by
  have size := offset_lt records (List.length_pos_iff.mpr filled)
  let all : Partition := ⟨0, (fileOf records).length - 1, Nat.zero_le _⟩
  have bounded : ∀ record ∈ records, record.bytes.length ≤ (fileOf records).length := by
    intro record inside
    exact length_le_fileOf inside
  have divides : Divides (fileOf records).length 0 [all] := ⟨rfl, by simp [all]; omega, by simp [all, Divides]; omega⟩
  have complementary : ∀ partition ∈ [all],
      Complementary records (fileOf records).length partition := by
    intro partition member index inside
    obtain rfl := List.mem_singleton.mp member
    have before := offset_lt records inside
    have whole : all.split (fileOf records) = 0 := split_zero records
    constructor
    · intro _ beyond
      simp only [all] at beyond
      omega
    · omega
  have answers := partitions_onLines bounded divides complementary filled asked
  rw [← answers]
  change _ = (asked.onPartition _ _ all >>= fun _ => pure ())
  rw [bind_pure_unit, Pushdown.onFile, Pushdown.onPartition]
  congr 1
  · have last : ((fileOf records).length : Int) - 1 = ((fileOf records).length - 1 : Nat) := by omega
    rw [last]
    rfl
  · have reaches : (fileOf records).length ≤
        (fileOf records).length - 1 + (fileOf records).length + 1 - 0 := by omega
    exact (List.take_of_length_le reaches).symm

end Runs

theorem replaceAll_absent {word new text : Text} (absent : ¬ word <:+: text) :
    replaceAll word new text = text := by
  unfold replaceAll
  induction text with
  | nil => rfl
  | cons c rest ih =>
    have later : ¬ word <:+: rest := fun inside =>
      absent (inside.trans (List.suffix_cons c rest).isInfix)
    rw [replaceFrom, if_neg fun front => absent front.isInfix, ih later]

theorem lineOperand_cases (row : List Text) (column : Nat) :
    (∃ value, row[column]? = some value ∧ Clause.lineOperand row column = .ok value) ∨
      (row[column]? = none ∧
        Clause.lineOperand row column = .error .arrayIndexOutOfBounds) := by
  have here : ¬ (column : Int) < 0 := by omega
  unfold Clause.lineOperand element
  rw [if_neg here, Int.toNat_natCast]
  cases row[column]? with
  | some value => exact .inl ⟨value, rfl, rfl⟩
  | none => exact .inr ⟨rfl, rfl⟩

/-- What is evaluated to true is true; else it is false, or a column is missing. -/
def Sound (evaluated : Except JavaException Bool) (meaning : Prop) : Prop :=
  (∃ valid, evaluated = .ok valid ∧ (valid = true → meaning)) ∨
    evaluated = .error .arrayIndexOutOfBounds

namespace Sound

variable {front back : Except JavaException Bool} {here there : Prop}

theorem ok {valid : Bool} (holds : valid = true → here) : Sound (.ok valid) here :=
  .inl ⟨valid, rfl, holds⟩

theorem and (first : Sound front here) (second : Sound back there) :
    Sound (do if ← front then back else return false) (here ∧ there) := by
  rcases first with ⟨valid, rfl, holds⟩ | rfl
  · cases valid with
    | false => exact .ok nofun
    | true =>
      rcases second with ⟨valid, rfl, holds'⟩ | rfl
      · exact .ok fun true => ⟨holds rfl, holds' true⟩
      · exact .inr rfl
  · exact .inr rfl

theorem or (first : Sound front here) (second : Sound back there) :
    Sound (do if ← front then return true else back) (here ∨ there) := by
  rcases first with ⟨valid, rfl, holds⟩ | rfl
  · cases valid with
    | true => exact .ok fun _ => .inl (holds rfl)
    | false =>
      rcases second with ⟨valid, rfl, holds'⟩ | rfl
      · exact .ok fun true => .inr (holds' true)
      · exact .inr rfl
  · exact .inr rfl

theorem imp {meaning : Prop} (sound : Sound front here) (means : here → meaning) :
    Sound front meaning := by
  rcases sound with ⟨valid, same, holds⟩ | missing
  · exact .inl ⟨valid, same, fun true => means (holds true)⟩
  · exact .inr missing

end Sound

theorem Tree.isValid_sound (tree : Tree) (row : List Text) :
    Sound (tree.toClause.isValid row) (tree.Holds row) := by
  -- by induction on the tree: a column may be missing at a leaf, and the nodes pass that on
  induction tree with
  | leaf test =>
    rcases lineOperand_cases row test.column with ⟨value, cell, read⟩ | ⟨_, missing⟩
    · simp only [toClause, Clause.isValid, read]
      exact .ok fun valid => ⟨value, cell, (LeafOperator.isValid_iff ..).mp valid⟩
    · simp only [toClause, Clause.isValid, missing]
      exact .inr rfl
  | and left right ihl ihr =>
    have last : Sound (Clause.allValid row []) True := .ok fun _ => trivial
    simp only [toClause, Clause.isValid, Clause.allValid]
    exact (ihl.and (ihr.and last)).imp fun both => ⟨both.1, both.2.1⟩
  | or left right ihl ihr =>
    have last : Sound (Clause.anyValid row []) False := .ok fun valid => absurd valid (by simp)
    simp only [toClause, Clause.isValid, Clause.anyValid]
    exact (ihl.or (ihr.or last)).imp fun either => either.imp_right fun more => more.resolve_right id

theorem allValid_sound (trees : List Tree) (row : List Text) :
    Sound (Clause.allValid row (trees.map Tree.toClause)) (∀ tree ∈ trees, tree.Holds row) := by
  induction trees with
  | nil => exact .ok fun _ => by simp
  | cons tree trees ih =>
    simp only [List.map_cons, Clause.allValid]
    exact ((tree.isValid_sound row).and ih).imp List.forall_mem_cons.mpr

theorem conjunction_sound (trees : List Tree) (row : List Text) :
    Sound ((conjunction trees).isValid row) (∀ tree ∈ trees, tree.Holds row) := by
  match trees with
  | [] =>
    simp only [conjunction, Clause.isValid]
    exact .ok fun _ => by simp
  | [tree] => simpa [conjunction] using tree.isValid_sound row
  | first :: second :: trees =>
    have children := allValid_sound (first :: second :: trees) row
    simpa only [conjunction, Clause.isValid] using children

theorem getMaxCol_conjunction (trees : List Tree) :
    (conjunction trees).getMaxCol = largest (trees.flatMap Tree.columns) := by
  match trees with
  | [] => simp [conjunction, Clause.getMaxCol, largest]
  | [tree] => simpa [conjunction] using tree.getMaxCol_toClause
  | first :: second :: trees =>
    have columns := maxCol_toClause (first :: second :: trees) 0
    rw [Nat.zero_max, Nat.cast_zero] at columns
    unfold conjunction Clause.getMaxCol
    exact columns

theorem exists_of_lt_largest {columns : List Nat} {count : Nat} (less : count < largest columns) :
    ∃ column ∈ columns, count < column := by
  induction columns with
  | nil => exact absurd less (Nat.not_lt_zero count)
  | cons column columns ih =>
    rcases lt_max_iff.mp less with here | later
    · exact ⟨column, List.mem_cons_self, here⟩
    · obtain ⟨found, inside, less⟩ := ih later
      exact ⟨found, List.mem_cons_of_mem _ inside, less⟩

/-! ## The columns -/

/-- Those of the columns that the line has, or all of the line if no columns are asked for. -/
def projected (columns : List Nat) (line : Text) : Text :=
  if columns = [] then line
  else [','].intercalate (columns.filterMap fun column => (JavaStr.split ',' line)[column]?)

theorem mapM_operands (row : List Text) (columns : List Nat) :
    ((columns.map Int.ofNat).filter fun index => index ≤ (row.length : Int) - 1).mapM
        (Clause.lineOperand row) =
      .ok (columns.filterMap fun column => row[column]?) := by
  induction columns with
  | nil => rfl
  | cons column columns ih =>
    rcases lineOperand_cases row column with ⟨value, cell, read⟩ | ⟨missing, _⟩
    · have inside := (List.getElem?_eq_some_iff.mp cell).1
      have kept : decide (Int.ofNat column ≤ (row.length : Int) - 1) = true := by
        rw [decide_eq_true_eq, Int.ofNat_eq_natCast]
        omega
      rw [List.map_cons, List.filter_cons, if_pos kept, List.mapM_cons, ih, List.filterMap_cons,
        cell, Int.ofNat_eq_natCast, read]
      rfl
    · have outside := List.getElem?_eq_none_iff.mp missing
      have dropped : ¬ decide (Int.ofNat column ≤ (row.length : Int) - 1) = true := by
        rw [decide_eq_true_eq, Int.ofNat_eq_natCast]
        omega
      rw [List.map_cons, List.filter_cons, if_neg dropped, ih, List.filterMap_cons, missing]

theorem chooseColumns_eq (row : List Text) (columns : List Nat) :
    chooseColumns row (columns.map Int.ofNat) =
      .ok ([','].intercalate (columns.filterMap fun column => row[column]?)) := by
  rw [chooseColumns, mapM_operands]
  rfl

/-! ## The query that a predicate and columns are -/

section Documented

variable {trees : List Tree} {columns : List Nat} {line : Text}

def Asks (trees : List Tree) (columns : List Nat) : Pushdown :=
  ⟨some (columns.map Int.ofNat), renderAll trees⟩

def asksQuery (trees : List Tree) (columns : List Nat) : Query :=
  ⟨some (columns.map Int.ofNat), renderAll trees, conjunction trees, [newline]⟩

/-- The line has the columns that the predicate looks at. -/
def Wide (trees : List Tree) (line : Text) : Prop :=
  ∀ tree ∈ trees, ∀ column ∈ tree.columns, column < (JavaStr.split ',' line).length

/-- The predicate is true of the line. -/
def Meets (trees : List Tree) (line : Text) : Prop :=
  ∀ tree ∈ trees, tree.Holds (JavaStr.split ',' line)

theorem renderAll_nil : renderAll [] = [] := rfl

theorem renderAll_eq_nil : renderAll trees = [] ↔ trees = [] := by
  cases trees with
  | nil => exact iff_of_true rfl rfl
  | cons tree trees =>
    refine iff_of_false ?_ (List.cons_ne_nil _ _)
    intro nothing
    have ends := renderAll_getLast? tree trees
    rw [nothing] at ends
    cases ends

theorem query_asks (unmarked : ¬ "XYZYX".toList <:+: renderAll trees) :
    (Asks trees columns).query = .ok (asksQuery trees columns) := by
  have trimmed : trim (renderAll trees) = renderAll trees := by
    cases trees with
    | nil => rfl
    | cons tree trees => exact trim_renderAll tree trees
  have word : replaceAll "XYZYX".toList [' '] (trim (renderAll trees)) = renderAll trees := by
    rw [trimmed, replaceAll_absent unmarked]
  simp only [Pushdown.query, Query.init, Asks, Pushdown.env, word, parseClause_renderAll]
  rfl

/-- What is not evaluated to true is not written. -/
theorem append_written {trees : List Tree} {columns : List Nat} {line : Text}
    (long : ¬ (((asksQuery trees columns).columnSelectionActivated ∨
        (asksQuery trees columns).whereString ≠ []) ∧
      ((JavaStr.split ',' line).length : Int) < (asksQuery trees columns).theClause.getMaxCol))
    (valid : (asksQuery trees columns).whereString ≠ [] →
      (asksQuery trees columns).theClause.isValid (JavaStr.split ',' line) = .ok true) :
    (asksQuery trees columns).append line = .ok (some (encode (projected columns line))) := by
  simp only [Query.append]
  rw [if_neg long]
  have chosen := chooseColumns_eq (JavaStr.split ',' line) columns
  cases columns with
  | nil =>
    by_cases nothing : (asksQuery trees []).whereString = []
    · rw [if_pos nothing]
      rfl
    · rw [if_neg nothing, valid nothing]
      rfl
  | cons column columns =>
    rw [projected, if_neg (List.cons_ne_nil _ _)]
    by_cases nothing : (asksQuery trees (column :: columns)).whereString = []
    · rw [if_pos nothing]
      change (chooseColumns _ (column :: columns |>.map Int.ofNat) >>= _) = _
      rw [chosen]
      rfl
    · rw [if_neg nothing, valid nothing]
      change (chooseColumns _ (column :: columns |>.map Int.ofNat) >>= _) = _
      rw [chosen]
      rfl

theorem append_asks (trees : List Tree) (columns : List Nat) (line : Text) :
    ((asksQuery trees columns).append line = .ok (some (encode (projected columns line))) ∧
        Meets trees line) ∨
      (((asksQuery trees columns).append line = .ok none ∨
          (asksQuery trees columns).append line = .error .arrayIndexOutOfBounds) ∧
        ¬ (Wide trees line ∧ Meets trees line)) := by
  by_cases short : ((asksQuery trees columns).columnSelectionActivated ∨
      (asksQuery trees columns).whereString ≠ []) ∧
    ((JavaStr.split ',' line).length : Int) < (asksQuery trees columns).theClause.getMaxCol
  · -- the line is shorter than the largest column
    have less := short.2
    simp only [asksQuery, getMaxCol_conjunction] at less
    obtain ⟨column, inside, beyond⟩ := exists_of_lt_largest (Int.ofNat_lt.mp less)
    obtain ⟨tree, member, here⟩ := List.mem_flatMap.mp inside
    refine .inr ⟨.inl ?_, fun both => ?_⟩
    · simp only [Query.append]
      rw [if_pos short]
    · have wide := both.1 tree member column here
      omega
  by_cases nothing : (asksQuery trees columns).whereString = []
  · -- there is no predicate
    have absent := renderAll_eq_nil.mp nothing
    exact .inl ⟨append_written short (absurd nothing), by simp [Meets, absent]⟩
  have clause : (asksQuery trees columns).theClause = conjunction trees := rfl
  rcases conjunction_sound trees (JavaStr.split ',' line) with ⟨valid, same, holds⟩ | missing
  · cases valid with
    | true => exact .inl ⟨append_written short fun _ => same, holds rfl⟩
    | false =>
      refine .inr ⟨.inl ?_, fun both => ?_⟩
      · simp only [Query.append]
        rw [if_neg short, if_neg nothing, clause, same]
        rfl
      · obtain ⟨valid, same', means⟩ := isValid_conjunction both.1
        rw [same] at same'
        cases same'
        exact absurd (means.mpr both.2) (by simp)
  -- a column is missing
  · refine .inr ⟨.inr ?_, fun both => ?_⟩
    · simp only [Query.append]
      rw [if_neg short, if_neg nothing, clause, missing]
      rfl
    · obtain ⟨valid, same, _⟩ := isValid_conjunction both.1
      rw [missing] at same
      cases same

/-- The query writes the line. -/
def keeps (trees : List Tree) (columns : List Nat) (line : Text) : Bool :=
  match (asksQuery trees columns).append line with
  | .ok (some _) => true
  | _ => false

theorem keeps_cases (trees : List Tree) (columns : List Nat) (line : Text) :
    (keeps trees columns line = true ∧ Meets trees line ∧
        processLine (asksQuery trees columns) line = emit (written (projected columns line))) ∨
      (keeps trees columns line = false ∧ ¬ (Wide trees line ∧ Meets trees line) ∧
        processLine (asksQuery trees columns) line = pure ()) := by
  unfold keeps processLine
  rcases append_asks trees columns line with ⟨output, holds⟩ | ⟨none | missing, lacks⟩
  · rw [output]
    exact .inl ⟨rfl, holds, rfl⟩
  · rw [none]
    exact .inr ⟨rfl, lacks, rfl⟩
  · rw [missing]
    exact .inr ⟨rfl, lacks, rfl⟩

theorem onLines_asks (unmarked : ¬ "XYZYX".toList <:+: renderAll trees) (lines : List Text) :
    (Asks trees columns).onLines lines =
      ⟨(lines.filter (keeps trees columns)).map fun line => written (projected columns line),
        .ok ()⟩ := by
  rw [Pushdown.onLines, query_asks unmarked, lift_ok_bind]
  induction lines with
  | nil => rfl
  | cons line rest ih =>
    change (processLine _ line >>= fun _ => rest.forM _) = _
    rcases keeps_cases trees columns line with ⟨kept, _, output⟩ | ⟨lost, _, output⟩
    · rw [output, emit_bind, ih, List.filter_cons, if_pos kept, List.map_cons]
    · rw [output, Traced.pure_bind, ih, List.filter_cons, if_neg (by simp [lost])]

end Documented

end Storlets.Csv
