import Storlets.Agent.SDaemon
import Storlets.Agent.Task

set_option autoImplicit false

/-!
# What a storlet sees of an EXECUTE

The Python daemon selects descriptors by type, the Java daemon walks the list once.
-/

namespace Storlets.Sbus

open PyStr Fallible

/-! ## The view -/

structure InputView where
  fd : Nat
  metadata : Text → Option Text
  range : Option (Int × Int)

structure TaskView where
  inputs : List InputView
  /-- The descriptors of the data and of the metadata. -/
  outputs : List (Nat × Nat)
  logger : Option Nat
  params : Text → Option Text

def StorletInputStream.view (stream : StorletInputStream) : InputView :=
  ⟨stream.fd, stream.metadata.get, stream.range⟩

def SExecutionTask.view (task : SExecutionTask) : TaskView where
  inputs := task.inStreams.map StorletInputStream.view
  outputs := task.outStreams
  logger := task.storletLogger
  params := task.executionParams.get

def SBusDatagram.objectInMetadata (dtg : SBusDatagram) : List Json :=
  (dtg.sfds.filter fun sfd => Json.is sfd.fdtype "SBUS_FD_INPUT_OBJECT").map
    SBusFileDescriptor.storageMetadata

/-- `int(value)`; what a float is cut to is left out. -/
def Json.toInt? : Json → Option Int
  | .str s => (int? s).map Int.ofNat
  | .int value => some value
  | .bool value => some (if value then 1 else 0)
  | _ => none

/-- `_create_input_file`. -/
def inputView (stMd : List (Text × Json)) (inMd : Json) (inFd : Nat) : Option InputView :=
  match given stMd "start", given stMd "end" with
  | some start, some stop => do
      let start ← Json.toInt? start
      let stop ← Json.toInt? stop
      return ⟨inFd, textItem inMd, some (start, stop)⟩
  | _, _ => some ⟨inFd, textItem inMd, none⟩

/-- `_execute` up to the call of the storlet. -/
def executeView (dtg : SBusDatagram) : Option TaskView := do
  let files := dtg.objectInStorletMetadata.zip
    (dtg.objectInMetadata.zip (dtg.findFds "SBUS_FD_INPUT_OBJECT"))
  let inputs ← files.mapM fun (stMd, inMd, inFd) => inputView stMd inMd inFd
  return { inputs
           outputs := (outputs dtg).map Prod.swap
           logger := (dtg.findFds "SBUS_FD_LOGGER").head?
           params := textItem dtg.params }

/-! ## Descriptors on both sides -/

/-- A metadata document all of whose values are strings. -/
def PlainMetadata (metadict : Json) : Prop :=
  ∀ key ∈ ["storlets".toList, "storage".toList], ∀ value,
    getItem metadict key = .ok value → StringMap value

/-- The ends of a range are decimal numbers that a `long` holds. -/
def DecimalRange (sfd : SBusFileDescriptor) : Prop :=
  ∀ key ∈ ["start".toList, "end".toList], ∀ s, textItem (.obj sfd.storletsMetadata) key = some s →
    ∃ value, int? s = some value ∧ value < 2 ^ 63

structure Matches (metadata : FileMetadata) (sfd : SBusFileDescriptor) : Prop where
  fdtype : ∃ name, metadata.storlets.get "type" = some name ∧ sfd.fdtype = .str name
  storage : metadata.storage.get = textItem sfd.storageMetadata
  range : ∀ key, key ≠ "type".toList →
    metadata.storlets.get key = textItem (.obj sfd.storletsMetadata) key
  strings : ∀ field ∈ sfd.storletsMetadata, ∃ s, field.2 = .str s

theorem orEmpty_obj (fields : List (Text × Json)) : Json.orEmpty (.obj fields) = .obj fields := by
  cases fields <;> rfl

theorem getItem_ok {value item : Json} {key : Text} (found : getItem value key = .ok item) :
    ∃ fields, value = .obj fields ∧ fields.lookup key = some item := by
  cases value with
  | obj fields =>
    simp only [getItem] at found
    split at found
    · next other there =>
      cases found
      exact ⟨fields, rfl, there⟩
    · cases found
  | null | bool | int | float | str | arr => cases found

theorem populateEntry_strings {fields entry : List (Text × Json)} {key : Text}
    (found : fields.lookup key = some (.obj entry))
    (texts : ∀ field ∈ entry, ∃ s, field.2 = .str s) :
    ∃ map, populateEntry fields key = .ok map ∧
      ∀ key, HashMap.get map key = textItem (.obj entry) key := by
  obtain ⟨map, populated, same⟩ := populateMetadata_strings texts
  refine ⟨map, ?_, same⟩
  simp [populateEntry, found, castObject, populated, bind, Except.bind]

theorem lookup_filter_ne {fields : List (Text × Json)} {key other : Text} (differs : other ≠ key) :
    (fields.filter fun field => field.1 ≠ key).lookup other = fields.lookup other := by
  induction fields with
  | nil => rfl
  | cons field rest ih =>
    obtain ⟨first, item⟩ := field
    by_cases same : first = key
    · subst same
      have apart : (other == first) = false := beq_false_of_ne differs
      rw [List.filter_cons_of_neg (by simp), ih, List.lookup_cons, apart]
    · rw [List.filter_cons_of_pos (by simpa using same), List.lookup_cons, List.lookup_cons, ih]

theorem popType_obj {fields rest : List (Text × Json)} {fdtype : Json}
    (popped : popType (.obj fields) = .ok (fdtype, rest)) :
    fields.lookup "type".toList = some fdtype ∧
      rest = fields.filter fun field => field.1 ≠ "type".toList := by
  simp only [popType] at popped
  split at popped
  · next found =>
    cases popped
    exact ⟨found, rfl⟩
  · cases popped

theorem matches_of_fileno {interpreter : Interpreter} {fileno : Nat} {metadict : Json}
    {sfd : SBusFileDescriptor}
    (made : fromFilenoAndMetadataDict interpreter fileno metadict = .ok sfd)
    (plain : PlainMetadata metadict) :
    sfd.fileno = fileno ∧ ∃ metadata, fileMetadata metadict = .ok metadata ∧
      Matches metadata sfd := by
  obtain ⟨copied, copies, made⟩ := bind_eq_ok made
  rw [deepcopy_ok copies] at made
  obtain ⟨storlets, foundStorlets, made⟩ := bind_eq_ok made
  obtain ⟨storage, foundStorage, made⟩ := bind_eq_ok made
  obtain ⟨⟨fdtype, rest⟩, popped, built⟩ := bind_eq_ok made
  obtain ⟨storletsFields, isObj, texts⟩ := plain _ (by simp) storlets foundStorlets
  obtain ⟨storageFields, isObj', texts'⟩ := plain _ (by simp) storage foundStorage
  subst isObj isObj'
  obtain ⟨fields, isDict, inStorlets⟩ := getItem_ok foundStorlets
  subst isDict
  obtain ⟨_, same, inStorage⟩ := getItem_ok foundStorage
  cases same
  obtain ⟨typed, left⟩ := popType_obj popped
  obtain ⟨storlets, populated, sameStorlets⟩ := populateEntry_strings inStorlets texts
  obtain ⟨storage, populated', sameStorage⟩ := populateEntry_strings inStorage texts'
  obtain ⟨name, named⟩ := lookup_isText texts typed
  cases built
  refine ⟨rfl, ⟨storage, storlets⟩, ?_, ?_⟩
  · change (populateEntry fields "storage".toList >>= fun storage =>
      populateEntry fields "storlets".toList >>= fun storlets =>
        .ok (FileMetadata.mk storage storlets)) = _
    rw [populated', populated]
    rfl
  · constructor
    · refine ⟨name, ?_, named⟩
      rw [sameStorlets, textItem_obj, typed, named]
    · funext key
      rw [sameStorage, orEmpty_obj]
    · intro key differs
      rw [sameStorlets, textItem_obj, textItem_obj, left, lookup_filter_ne differs]
    · intro field inside
      rw [left] at inside
      exact texts field (List.mem_filter.mp inside).1

theorem given_eq {fields : List (Text × Json)} (texts : ∀ field ∈ fields, ∃ s, field.2 = .str s)
    (key : Text) : given fields key = (textItem (.obj fields) key).map .str := by
  rw [given, textItem_obj]
  cases found : fields.lookup key with
  | none => rfl
  | some value =>
    obtain ⟨s, same⟩ := lookup_isText texts found
    subst same
    rfl

theorem parseLong_decimal {s : Text} {value : Nat} (parsed : int? s = some value)
    (small : value < 2 ^ 63) : parseLong s = .ok (value : Int) := by
  simp only [parseLong, parsed, small, if_true]

/-- Both sides make the same input of a descriptor. -/
theorem createInStream_view {metadata : FileMetadata} {sfd : SBusFileDescriptor}
    (matched : Matches metadata sfd) (decimal : DecimalRange sfd) :
    ∃ stream, createInStream sfd.fileno metadata = .ok stream ∧
      inputView sfd.storletsMetadata sfd.storageMetadata sfd.fileno = some stream.view := by
  have start := matched.range "start".toList (by decide)
  have stop := matched.range "end".toList (by decide)
  have starts := given_eq matched.strings "start".toList
  have stops := given_eq matched.strings "end".toList
  have first := decimal "start".toList (by simp)
  have last := decimal "end".toList (by simp)
  unfold createInStream inputView
  rw [start, stop, starts, stops]
  cases low : textItem (.obj sfd.storletsMetadata) "start".toList with
  | none => exact ⟨_, rfl, by simp [StorletInputStream.view, matched.storage]⟩
  | some start =>
    cases high : textItem (.obj sfd.storletsMetadata) "end".toList with
    | none => exact ⟨_, rfl, by simp [StorletInputStream.view, matched.storage]⟩
    | some stop =>
      obtain ⟨from', parsedLow, smallLow⟩ := first start low
      obtain ⟨upTo, parsedHigh, smallHigh⟩ := last stop high
      refine ⟨⟨sfd.fileno, metadata.storage, some (from', upTo)⟩, ?_, ?_⟩
      · simp [parseLong_decimal parsedLow smallLow, parseLong_decimal parsedHigh smallHigh, bind,
          Except.bind, pure, Except.pure]
      · simp [Json.toInt?, parsedLow, parsedHigh, StorletInputStream.view, matched.storage]

/-! ## The walk over the descriptors -/

/-- A descriptor of the datagram, as Java has it. -/
def Aligned (file : Nat × Option FileMetadata) (sfd : SBusFileDescriptor) : Prop :=
  file.1 = sfd.fileno ∧ ∃ metadata, file.2 = some metadata ∧ Matches metadata sfd

theorem Aligned.named {file : Nat × Option FileMetadata} {sfd : SBusFileDescriptor}
    (aligned : Aligned file sfd) {name : Text} (is : Json.is sfd.fdtype name) :
    ∃ metadata, file = (sfd.fileno, some metadata) ∧ Matches metadata sfd ∧
      metadata.storlets.get "type" = some name := by
  obtain ⟨same, metadata, found, matched⟩ := aligned
  obtain ⟨typed, got, isType⟩ := matched.fdtype
  refine ⟨metadata, Prod.ext same found, matched, ?_⟩
  rw [got, ← Json.str.inj (isType.symm.trans (Json.is_eq is))]

theorem collectFiles_inputs {files : List (Nat × Option FileMetadata)}
    {sfds : List SBusFileDescriptor} (aligned : List.Forall₂ Aligned files sfds)
    (inputs : ∀ sfd ∈ sfds, Json.is sfd.fdtype "SBUS_FD_INPUT_OBJECT")
    (decimal : ∀ sfd ∈ sfds, DecimalRange sfd) (task : SExecutionTask) :
    ∃ streams,
      collectFiles files task = .ok { task with inStreams := task.inStreams ++ streams } ∧
      sfds.mapM (fun sfd => inputView sfd.storletsMetadata sfd.storageMetadata sfd.fileno) =
        some (streams.map StorletInputStream.view) := by
  induction aligned generalizing task with
  | nil => exact ⟨[], by simp [collectFiles], rfl⟩
  | @cons file sfd files sfds here later ih =>
    obtain ⟨isInput, areInputs⟩ := List.forall_mem_cons.mp inputs
    obtain ⟨range, ranges⟩ := List.forall_mem_cons.mp decimal
    obtain ⟨metadata, shape, matched, typed⟩ := here.named isInput
    obtain ⟨stream, creates, viewed⟩ := createInStream_view matched range
    obtain ⟨streams, collects, views⟩ :=
      ih areInputs ranges { task with inStreams := task.inStreams ++ [stream] }
    refine ⟨stream :: streams, ?_, ?_⟩
    · rw [shape, collectFiles_input _ _ typed creates, collects, List.append_assoc]
      rfl
    · rw [List.mapM_cons, viewed, views]
      rfl

theorem fileMetadata_aligned {interpreter : Interpreter} {fds : List Nat} {items : List Json}
    {sfds : List SBusFileDescriptor} (same : fds.length = items.length)
    (each : List.Forall₂ (fun pair sfd =>
      fromFilenoAndMetadataDict interpreter pair.1 pair.2 = .ok sfd) (fds.zip items) sfds)
    (plain : ∀ metadict ∈ items, PlainMetadata metadict) :
    ∃ metadata, items.mapM fileMetadata = .ok metadata ∧
      List.Forall₂ Aligned (fds.zip (metadata.map some)) sfds := by
  induction items generalizing fds sfds with
  | nil =>
    rw [List.zip_nil_right] at each
    cases each
    exact ⟨[], rfl, by simp⟩
  | cons metadict rest ih =>
    cases fds with
    | nil => cases same
    | cons fd fds =>
      rw [List.zip_cons_cons] at each
      cases each with
      | cons here later =>
        obtain ⟨isPlain, arePlain⟩ := List.forall_mem_cons.mp plain
        obtain ⟨fileno, first, taken, matched⟩ := matches_of_fileno here isPlain
        obtain ⟨metadata, takes, aligned⟩ := ih (Nat.succ.inj same) later arePlain
        refine ⟨first :: metadata, ?_, ?_⟩
        · rw [List.mapM_cons, taken, takes]
          rfl
        · exact .cons ⟨fileno.symm, first, rfl, matched⟩ aligned

/-- An EXECUTE that is accepted: its descriptors by their place. -/
structure ExecuteShape (dtg : SBusDatagram)
    (service input output outputMetadata logger : SBusFileDescriptor)
    (extra : List SBusFileDescriptor) : Prop where
  sfds : dtg.sfds = service :: input :: output :: outputMetadata :: logger :: extra
  isService : Json.is service.fdtype "SBUS_FD_SERVICE_OUT"
  isInput : Json.is input.fdtype "SBUS_FD_INPUT_OBJECT"
  isOutput : Json.is output.fdtype "SBUS_FD_OUTPUT_OBJECT"
  isMetadata : Json.is outputMetadata.fdtype "SBUS_FD_OUTPUT_OBJECT_METADATA"
  isLogger : Json.is logger.fdtype "SBUS_FD_LOGGER"
  areInputs : ∀ sfd ∈ extra, Json.is sfd.fdtype "SBUS_FD_INPUT_OBJECT"

theorem execute_shape {dtg : SBusDatagram}
    (made : buildDatagram dtg.command dtg.sfds dtg.params dtg.taskId = .ok dtg)
    (execute : Json.is dtg.command "SBUS_CMD_EXECUTE") :
    ∃ service input output outputMetadata logger extra,
      ExecuteShape dtg service input output outputMetadata logger extra := by
  unfold buildDatagram at made
  dsimp only at made
  rw [execute] at made
  split_ifs at made with stray required
  rcases shape : dtg.sfds with
      _ | ⟨service, _ | ⟨input, _ | ⟨output, _ | ⟨outputMetadata, _ | ⟨logger, extra⟩⟩⟩⟩⟩ <;>
    simp only [shape, requiredFdtypes, if_true, checkRequiredFdtypes, Bool.and_false,
      Bool.and_eq_true, Bool.false_eq_true, and_true] at required
  obtain ⟨isService, isInput, isOutput, isMetadata, isLogger⟩ := required
  refine ⟨service, input, output, outputMetadata, logger, extra, shape, isService, isInput,
    isOutput, isMetadata, isLogger, ?_⟩
  simpa [shape, requiredFdtypes] using stray

/-! ## Both views -/

/-- Parameters, metadata and a task id that are strings. -/
structure PlainExecute (interpreter : Interpreter) (raw : RawMessage) (dtg : SBusDatagram) :
    Prop where
  accepted : receive interpreter raw = .ok dtg
  execute : Json.is dtg.command "SBUS_CMD_EXECUTE"
  params : StringMap dtg.params
  taskId : dtg.taskId = .null ∨ ∃ s, dtg.taskId = .str s
  metadata : ∀ strMd items, raw.metadata = .text strMd →
    loads interpreter strMd = .ok (.arr items) → ∀ metadict ∈ items, PlainMetadata metadict
  decimal : ∀ sfd ∈ dtg.sfds, DecimalRange sfd

/-- `STaskFactory` on the message; JSON is decoded to the same documents. -/
def javaView (interpreter : Interpreter) (raw : RawMessage) : Option TaskView :=
  match raw.metadata, raw.params with
  | .text strMd, .text strParams =>
      match loads interpreter strMd, loads interpreter strParams with
      | .ok metadata, .ok cmdParams =>
          match serverSBusInDatagram raw.fds metadata cmdParams >>= createExecutionTask with
          | .ok task => some task.view
          | .error _ => none
      | _, _ => none
  | _, _ => none

theorem zip_filter_map (sfds : List SBusFileDescriptor) :
    let inputs := sfds.filter fun sfd => Json.is sfd.fdtype "SBUS_FD_INPUT_OBJECT"
    (inputs.map SBusFileDescriptor.storletsMetadata).zip
        ((inputs.map SBusFileDescriptor.storageMetadata).zip
          (inputs.map SBusFileDescriptor.fileno)) =
      inputs.map fun sfd => (sfd.storletsMetadata, sfd.storageMetadata, sfd.fileno) := by
  intro inputs
  rw [List.zip_map', List.zip_map']

theorem is_other {value : Json} {name other : Text} (is : Json.is value name)
    (differs : name ≠ other) : Json.is value other = false := by
  rw [Json.is_eq is, Json.is]
  simpa using differs

def executeNames : List Text :=
  ["SBUS_FD_SERVICE_OUT".toList, "SBUS_FD_INPUT_OBJECT".toList, "SBUS_FD_OUTPUT_OBJECT".toList,
   "SBUS_FD_OUTPUT_OBJECT_METADATA".toList, "SBUS_FD_LOGGER".toList]

theorem find_named {sfds : List SBusFileDescriptor} {names : List Text}
    (typed : List.Forall₂ (fun (sfd : SBusFileDescriptor) name => Json.is sfd.fdtype name)
      sfds names)
    (fdtype : Text) :
    (sfds.filter fun sfd => Json.is sfd.fdtype fdtype).map SBusFileDescriptor.fileno =
      ((names.zip (sfds.map SBusFileDescriptor.fileno)).filter fun named => named.1 = fdtype).map
        Prod.snd := by
  induction typed with
  | nil => rfl
  | @cons sfd name sfds names is _ ih =>
    rw [List.map_cons, List.zip_cons_cons]
    by_cases same : name = fdtype
    · subst same
      simp only [List.filter_cons, is, decide_true, if_true, List.map_cons, ih]
    · rw [List.filter_cons_of_neg (by simpa using is_other is same),
        List.filter_cons_of_neg (by simpa using same), ih]

section Selected

variable {dtg : SBusDatagram} {service input output outputMetadata logger : SBusFileDescriptor}
variable {extra : List SBusFileDescriptor}

theorem ExecuteShape.inputs
    (shape : ExecuteShape dtg service input output outputMetadata logger extra) :
    dtg.sfds.filter (fun sfd => Json.is sfd.fdtype "SBUS_FD_INPUT_OBJECT") = input :: extra := by
  rw [shape.sfds, List.filter_cons_of_neg, List.filter_cons_of_pos, List.filter_cons_of_neg,
    List.filter_cons_of_neg, List.filter_cons_of_neg, List.filter_eq_self.mpr shape.areInputs]
  · simpa using is_other shape.isLogger (by decide)
  · simpa using is_other shape.isMetadata (by decide)
  · simpa using is_other shape.isOutput (by decide)
  · exact shape.isInput
  · simpa using is_other shape.isService (by decide)

theorem ExecuteShape.findFds
    (shape : ExecuteShape dtg service input output outputMetadata logger extra) {fdtype : String}
    (differs : "SBUS_FD_INPUT_OBJECT".toList ≠ fdtype.toList) :
    dtg.findFds fdtype =
      ((executeNames.zip [service.fileno, input.fileno, output.fileno, outputMetadata.fileno,
        logger.fileno]).filter fun named => named.1 = fdtype.toList).map Prod.snd := by
  have strays : extra.filter (fun sfd => Json.is sfd.fdtype fdtype.toList) = [] := by
    apply List.filter_eq_nil_iff.mpr
    intro sfd inside
    simpa using is_other (shape.areInputs sfd inside) differs
  have typed : List.Forall₂ (fun (sfd : SBusFileDescriptor) name => Json.is sfd.fdtype name)
      [service, input, output, outputMetadata, logger] executeNames :=
    .cons shape.isService (.cons shape.isInput (.cons shape.isOutput (.cons shape.isMetadata
      (.cons shape.isLogger .nil))))
  have split : dtg.sfds = [service, input, output, outputMetadata, logger] ++ extra := shape.sfds
  rw [SBusDatagram.findFds, split, List.filter_append, strays, List.append_nil, find_named typed]
  rfl

theorem ExecuteShape.view
    (shape : ExecuteShape dtg service input output outputMetadata logger extra)
    {inputs : List InputView}
    (viewed : (input :: extra).mapM (fun sfd =>
      inputView sfd.storletsMetadata sfd.storageMetadata sfd.fileno) = some inputs) :
    executeView dtg =
      some ⟨inputs, [(output.fileno, outputMetadata.fileno)], some logger.fileno,
        textItem dtg.params⟩ := by
  have outputs : outputs dtg = [(outputMetadata.fileno, output.fileno)] := by
    rw [outputs, shape.findFds (by decide), shape.findFds (by decide)]
    rfl
  have loggers : dtg.findFds "SBUS_FD_LOGGER" = [logger.fileno] := by
    rw [shape.findFds (by decide)]
    rfl
  have zipped := zip_filter_map dtg.sfds
  simp only [shape.inputs] at zipped
  have files : (dtg.objectInStorletMetadata.zip
      (dtg.objectInMetadata.zip (dtg.findFds "SBUS_FD_INPUT_OBJECT"))).mapM
        (fun (stMd, inMd, inFd) => inputView stMd inMd inFd) = some inputs := by
    rw [SBusDatagram.objectInStorletMetadata, SBusDatagram.objectInMetadata, SBusDatagram.findFds,
      shape.inputs, zipped, List.mapM_map]
    exact viewed
  simp only [executeView, files, outputs, loggers]
  rfl

end Selected

/-- Java's walk over the descriptors of an EXECUTE, by their place. -/
theorem collectFiles_view {files : List (Nat × Option FileMetadata)}
    {service input output outputMetadata logger : SBusFileDescriptor}
    {extra : List SBusFileDescriptor} {dtg : SBusDatagram}
    (aligned : List.Forall₂ Aligned files dtg.sfds)
    (shape : ExecuteShape dtg service input output outputMetadata logger extra)
    (decimal : ∀ sfd ∈ dtg.sfds, DecimalRange sfd) (params : HashMap) :
    ∃ task inputs, collectFiles files { executionParams := params } = .ok task ∧
      (input :: extra).mapM (fun sfd =>
        inputView sfd.storletsMetadata sfd.storageMetadata sfd.fileno) = some inputs ∧
      task.view = ⟨inputs, [(output.fileno, outputMetadata.fileno)], some logger.fileno,
        params.get⟩ := by
  rw [shape.sfds] at aligned decimal
  have range (sfd) (inside : sfd ∈ extra) : DecimalRange sfd := decimal sfd (by simp [inside])
  cases aligned with
  | cons first aligned =>
  cases aligned with
  | cons second aligned =>
  cases aligned with
  | cons third aligned =>
  cases aligned with
  | cons fourth aligned =>
  cases aligned with
  | cons fifth aligned =>
  obtain ⟨_, atService, _, typedService⟩ := first.named shape.isService
  obtain ⟨_, atInput, matched, typedInput⟩ := second.named shape.isInput
  obtain ⟨_, atOutput, _, typedOutput⟩ := third.named shape.isOutput
  obtain ⟨_, atMetadata, _, typedMetadata⟩ := fourth.named shape.isMetadata
  obtain ⟨_, atLogger, _, typedLogger⟩ := fifth.named shape.isLogger
  obtain ⟨stream, creates, viewed⟩ := createInStream_view matched (decimal input (by simp))
  subst atService atInput atOutput atMetadata atLogger
  rw [collectFiles_serviceOut _ _ typedService, collectFiles_input _ _ typedInput creates,
    collectFiles_output _ _ typedOutput typedMetadata, collectFiles_logger _ _ typedLogger]
  obtain ⟨streams, collects, views⟩ := collectFiles_inputs aligned shape.areInputs range
    { sOut := some service.fileno, inStreams := [stream],
      outStreams := [(output.fileno, outputMetadata.fileno)], executionParams := params,
      storletLogger := some logger.fileno }
  refine ⟨_, (stream :: streams).map StorletInputStream.view, collects, ?_, rfl⟩
  rw [List.mapM_cons, viewed, views]
  rfl

theorem serverSBusInDatagram_ok {fds : List Nat} {items : List Json} {fields : List (Text × Json)}
    {command : Text} {params : HashMap} {taskId : Option Text} {files : List FileMetadata}
    (commanded : (fields.lookup "command".toList).getD .null = .str command)
    (populated : populateEntry fields "params" = .ok params)
    (named : castString ((fields.lookup "task_id".toList).getD .null) = .ok taskId)
    (same : fds.length = items.length) (taken : items.mapM fileMetadata = .ok files) :
    serverSBusInDatagram fds (.arr items) (.obj fields) =
      .ok ⟨fds.zip (files.map some), some command, params, taskId⟩ := by
  have isText : castString (.str command) = .ok (some command) := rfl
  simp only [serverSBusInDatagram, castObject, castArray, isText, commanded, populated, named,
    same, taken, bind, Except.bind, lt_irrefl, if_false, Nat.sub_self, List.replicate_zero,
    List.append_nil, pure, Except.pure]

theorem lookup_of_getD {fields entry : List (Text × Json)} {key : Text}
    (got : (fields.lookup key).getD .null = .obj entry) : fields.lookup key = some (.obj entry) := by
  cases found : fields.lookup key with
  | none => rw [found] at got; cases got
  | some value => rw [found] at got; exact congrArg _ got

theorem metadata_isList {interpreter : Interpreter} {fds : List Nat} {metadata : Json}
    {items : List Json} {first : SBusFileDescriptor} {rest : List SBusFileDescriptor}
    (iterated : iterate metadata = .ok items)
    (each : List.Forall₂ (fun pair sfd =>
      fromFilenoAndMetadataDict interpreter pair.1 pair.2 = .ok sfd) (fds.zip items)
        (first :: rest)) : metadata = .arr items := by
  cases zipped : fds.zip items with
  | nil => rw [zipped] at each; cases each
  | cons pair pairs =>
    rw [zipped] at each
    obtain ⟨here, _⟩ := List.forall₂_cons.mp each
    obtain ⟨_, _, fields, dict⟩ := fromFileno_ok here
    have inside : pair ∈ fds.zip items := zipped ▸ List.mem_cons_self
    exact iterate_dicts iterated (List.of_mem_zip inside).2 dict

theorem dictGet_ok {value item : Json} {key : Text} (got : dictGet value key = .ok item) :
    ∃ fields, value = .obj fields ∧ (fields.lookup key).getD .null = item := by
  cases value with
  | obj fields => exact ⟨fields, rfl, Except.ok.inj got⟩
  | null | bool | int | float | str | arr => cases got

theorem same_view {interpreter : Interpreter} {raw : RawMessage} {dtg : SBusDatagram}
    (plain : PlainExecute interpreter raw dtg) :
    ∃ view, executeView dtg = some view ∧ javaView interpreter raw = some view := by
  obtain ⟨strMd, strParams, metadata, cmdParams, items, asText, asText', loaded, loaded', gotCommand,
    gotParams, gotTask, iterated, same, each, made⟩ := receive_ok plain.accepted
  obtain ⟨service, input, output, outputMetadata, logger, extra, shape⟩ :=
    execute_shape made plain.execute
  rw [shape.sfds] at each
  have isList := metadata_isList iterated each
  subst isList
  rw [← shape.sfds] at each
  obtain ⟨files, taken, aligned⟩ :=
    fileMetadata_aligned same each (plain.metadata strMd items asText loaded)
  obtain ⟨fields, isDict, commanded⟩ := dictGet_ok gotCommand
  subst isDict
  obtain ⟨paramFields, isParams, texts⟩ := plain.params
  have given : (fields.lookup "params".toList).getD .null = .obj paramFields :=
    (Except.ok.inj gotParams).trans isParams
  obtain ⟨params, populated, reads⟩ := populateEntry_strings (lookup_of_getD given) texts
  obtain ⟨taskId, named⟩ : ∃ taskId,
      castString ((fields.lookup "task_id".toList).getD .null) = .ok taskId := by
    have gotTask : (fields.lookup "task_id".toList).getD .null = dtg.taskId :=
      Except.ok.inj gotTask
    rw [gotTask]
    rcases plain.taskId with isNull | ⟨s, isText⟩
    · exact ⟨none, by rw [isNull]; rfl⟩
    · exact ⟨some s, by rw [isText]; rfl⟩
  have parsed := serverSBusInDatagram_ok (commanded.trans (Json.is_eq plain.execute)) populated named
    same taken
  obtain ⟨task, inputs, collects, viewed, views⟩ :=
    collectFiles_view aligned shape plain.decimal params
  refine ⟨_, shape.view viewed, ?_⟩
  unfold javaView
  rw [asText, asText']
  dsimp only
  rw [loaded, loaded']
  dsimp only
  rw [parsed]
  change (match collectFiles _ _ with | .ok task => some task.view | .error _ => none) = _
  rw [collects]
  dsimp only
  rw [views, funext reads, isParams]

/-- A range of the primary input, one extra input and a parameter. -/
def rangedMessage : RawMessage :=
  let item (range fdtype : String) : Text :=
    "\x7b\"storlets\":\x7b".toList ++ range.toList ++ "\"type\":\"SBUS_FD_".toList ++
      fdtype.toList ++ "\"\x7d,\"storage\":\x7b\"k\":\"v\"\x7d\x7d".toList
  let items :=
    [item "" "SERVICE_OUT", item "\"start\":\"1\",\"end\":\"5\"," "INPUT_OBJECT",
      item "" "OUTPUT_OBJECT", item "" "OUTPUT_OBJECT_METADATA", item "" "LOGGER",
      item "" "INPUT_OBJECT"]
  ⟨[3, 4, 5, 6, 7, 8], .text ("[".toList ++ (",".toList).intercalate items ++ "]".toList),
    .text ("\x7b\"command\":\"SBUS_CMD_EXECUTE\"".toList ++
      ",\"params\":\x7b\"p\":\"1\"\x7d\x7d".toList)⟩

def rangedFd (fdtype : String) (fileno : Nat) (range : List (Text × Json)) : SBusFileDescriptor where
  fdtype := .str fdtype.toList
  fileno
  storletsMetadata := range
  storageMetadata := .obj [("k".toList, .str "v".toList)]

def rangedDatagram : SBusDatagram where
  command := .str "SBUS_CMD_EXECUTE".toList
  sfds :=
    [rangedFd "SBUS_FD_SERVICE_OUT" 3 [],
      rangedFd "SBUS_FD_INPUT_OBJECT" 4
        [("start".toList, .str "1".toList), ("end".toList, .str "5".toList)],
      rangedFd "SBUS_FD_OUTPUT_OBJECT" 5 [], rangedFd "SBUS_FD_OUTPUT_OBJECT_METADATA" 6 [],
      rangedFd "SBUS_FD_LOGGER" 7 [], rangedFd "SBUS_FD_INPUT_OBJECT" 8 []]
  params := .obj [("p".toList, .str "1".toList)]
  taskId := .null

set_option maxRecDepth 20000 in
theorem ranged_received : receive python rangedMessage = .ok rangedDatagram := by
  rfl

set_option maxRecDepth 20000 in
theorem ranged_loaded {strMd : Text} (text : rangedMessage.metadata = .text strMd) :
    loads python strMd = .ok rangedDatagram.metadata := by
  cases text
  rfl

theorem rangedFd_metadata {fdtype : String} {fileno : Nat} {range : List (Text × Json)}
    (texts : ∀ field ∈ range, ∃ s, field.2 = .str s) :
    PlainMetadata (rangedFd fdtype fileno range).metadata := by
  intro key named value got
  rcases List.mem_pair.mp named with isStorlets | isStorage
  · subst isStorlets
    cases got
    exact ⟨_, rfl, PyDict.forall_setItem texts ⟨_, rfl⟩⟩
  · subst isStorage
    cases got
    exact ⟨_, rfl, by simp⟩

theorem ranged_same_view : ∃ view, executeView rangedDatagram = some view ∧
    javaView python rangedMessage = some view := by
  apply same_view
  constructor
  · exact ranged_received
  · rfl
  · exact ⟨_, rfl, by simp⟩
  · exact .inl rfl
  · intro strMd items text loaded metadict inside
    have same := (ranged_loaded text).symm.trans loaded
    cases same
    obtain ⟨sfd, listed, made⟩ := List.mem_map.mp inside
    rw [← made]
    simp only [rangedDatagram, List.mem_cons, List.not_mem_nil, or_false] at listed
    rcases listed with listed | listed | listed | listed | listed | listed <;> rw [listed] <;>
      exact rangedFd_metadata (by simp)
  · intro sfd listed key named s found
    have both : textItem (.obj [("start".toList, .str "1".toList), ("end".toList, .str "5".toList)])
        key = some s → ∃ value, int? s = some value ∧ value < 2 ^ 63 := by
      rcases List.mem_pair.mp named with isStart | isEnd
      · subst isStart
        intro found
        cases found
        exact ⟨1, by decide, by decide⟩
      · subst isEnd
        intro found
        cases found
        exact ⟨5, by decide, by decide⟩
    simp only [rangedDatagram, List.mem_cons, List.not_mem_nil, or_false] at listed
    rcases listed with listed | listed | listed | listed | listed | listed <;> subst listed <;>
      first | exact both found | cases found

end Storlets.Sbus
