import Storlets.Gateway.Invocation
import Storlets.Gateway.Request
import Storlets.Sbus.Transport

set_option autoImplicit false

/-!
# The inputs of a storlet, from the gateway to the daemon

The primary input and the extra sources share one type of descriptor.
-/

namespace Storlets

open PyStr Effect Descriptors Sbus ByteWire

def StorletData.hasFd (data : StorletData) : Bool :=
  match data.source with
  | .fd _ => true
  | .iter _ => false

/-- `__init__` of the protocol; an extra source with a descriptor is refused. -/
def StorletInvocationProtocol.init (sreq : ContainerStorletRequest) (table : Table Owner) :
    Option CallState :=
  if sreq.extraDataList.any StorletData.hasFd then none
  else some (Protocol.start table sreq.data.hasFd sreq.extraDataList.length)

/-- `_invoke` until the command is sent. -/
def activate (me : Owner) (answers : CallAnswers) : CallAction Unit :=
  if answers.loggerFails then throw (.step .logger)
  else do
    let loggerFd ← osOpen me
    change fun state => { state with protocol.loggerFd := some loggerFd }
    prepareInvocationDescriptors me answers

def sbusFileDescriptor (fdtype : String) (fileno : Nat) (storletsMetadata : List (Text × Text))
    (storageMetadata : Dict Text) : SBusFileDescriptor where
  fdtype := .str fdtype.toList
  fileno
  storletsMetadata := textFields storletsMetadata
  storageMetadata := textMap storageMetadata

section Sending

variable (sreq : ContainerStorletRequest)

def rangeMetadata : List (Text × Text) :=
  match sreq.start, sreq.end with
  | some start, some stop => [("start".toList, decimal start), ("end".toList, decimal stop)]
  | _, _ => []

/-- `remote_fds`. A descriptor that is not there cannot be passed. -/
def remoteFds (dataFd : Nat) (protocol : Protocol) : Option (List SBusFileDescriptor) := do
  let inputDataReadFd ← if protocol.hasFd then some dataFd else protocol.inputReadFd
  let dataWriteFd ← protocol.dataWriteFd
  let metadataWriteFd ← protocol.metadataWriteFd
  let loggerFd ← protocol.loggerFd
  let fds :=
    [sbusFileDescriptor "SBUS_FD_INPUT_OBJECT" inputDataReadFd (rangeMetadata sreq)
        sreq.data.userMetadata,
      sbusFileDescriptor "SBUS_FD_OUTPUT_OBJECT" dataWriteFd [] .empty,
      sbusFileDescriptor "SBUS_FD_OUTPUT_OBJECT_METADATA" metadataWriteFd [] .empty,
      sbusFileDescriptor "SBUS_FD_LOGGER" loggerFd [] .empty]
  return fds ++ (protocol.extraDataSources.zip sreq.extraDataList).map fun (pipe, source) =>
    sbusFileDescriptor "SBUS_FD_INPUT_OBJECT" pipe.1 [] source.userMetadata

/-- The datagram of `SBusClient.execute`. -/
def executeDatagram (serviceFd : Nat) (fds : List SBusFileDescriptor) : SBusDatagram where
  command := .str "SBUS_CMD_EXECUTE".toList
  sfds := sbusFileDescriptor "SBUS_FD_SERVICE_OUT" serviceFd [] .empty :: fds
  params := textMap sreq.params
  taskId := .null

/-- What is written to the pipe of that name. -/
def pipedData : PipeName → Option DataSource
  | .input => some sreq.data.source
  | .source index => sreq.extraDataList[index]?.map StorletData.source
  | _ => none

end Sending

section Arriving

variable (interpreter : Interpreter) (format : IntFormat) (host : Sbus.Host Nat)
variable (numberOf : Nat → Nat) (sreq : ContainerStorletRequest) (dataFd serviceFd : Nat)
variable (pipes : Pipes)

def primaryView : InputView where
  fd := numberOf ((pipes.input.map Prod.fst).getD dataFd)
  metadata := sreq.data.userMetadata.get?
  range :=
    match sreq.start, sreq.end with
    | some start, some stop => some (start, stop)
    | _, _ => none

/-- Each extra source reads from the pipe it is written to. -/
def extraViews : List InputView :=
  (pipes.sources.zip sreq.extraDataList).map fun (pipe, source) =>
    ⟨numberOf pipe.1, source.userMetadata.get?, none⟩

/-- The daemon has the primary input and then the extra ones, each on its own pipe. -/
structure InputsInOrder (fds : List SBusFileDescriptor) (protocol : Protocol) : Prop where
  accepted : buildDatagram (.str "SBUS_CMD_EXECUTE".toList) (executeDatagram sreq serviceFd fds).sfds
    (textMap sreq.params) .null = .ok (executeDatagram sreq serviceFd fds)
  delivered : (executeDatagram sreq serviceFd fds).delivered format host =
    some (executeDatagram sreq serviceFd fds).unpacked
  arrives : ∃ dtg view,
    (executeDatagram sreq serviceFd fds).arrives interpreter format host numberOf = some dtg ∧
      Json.is dtg.command "SBUS_CMD_EXECUTE" ∧ executeView dtg = some view ∧
      view.inputs = primaryView numberOf sreq dataFd pipes :: extraViews numberOf sreq pipes ∧
      view.inputs.length = sreq.extraDataList.length + 1
  fed : protocol.writeFds.map (fun (name, fd) => (fd, pipedData sreq name)) =
    (pipes.input.map fun pipe => (pipe.2, some sreq.data.source)).toList ++
      (pipes.sources.zip sreq.extraDataList).map fun (pipe, source) => (pipe.2, some source.source)

end Arriving

section Proofs

variable {interpreter : Interpreter} {numberOf : Nat → Nat} {sreq : ContainerStorletRequest}
variable {dataFd serviceFd loggerFd : Nat} {pipes : Pipes} {hasFd : Bool} {extra : Nat}

theorem activate_ends {me : Owner} {answers : CallAnswers} {table : Table Owner}
    {prepared : CallState}
    (activates : activate me answers (Protocol.start table hasFd extra) = (.ok (), prepared)) :
    ∃ (pipes : Pipes) (loggerFd : Nat), pipes.Fits hasFd extra ∧
      prepared.protocol = pipes.protocol hasFd extra loggerFd := by
  unfold activate at activates
  split at activates
  · cases activates
  · have unused : Owns me [] (Protocol.start table hasFd extra) := by
      constructor <;> simp [Protocol.start]
    obtain ⟨loggerFd, opened, opens, owns, same⟩ := osOpen_owns unused
    let noted : CallState := { opened with protocol.loggerFd := some loggerFd }
    have owns : Owns me [loggerFd] noted := owns.of_piped rfl rfl
    have begun : noted.protocol = { hasFd, extra, loggerFd := some loggerFd } := by
      simp [noted, same, Protocol.start]
    obtain ⟨issued, final, prepares, _, made⟩ := prepare_owns owns answers begun
    have runs : prepareInvocationDescriptors me answers noted = (.ok (), prepared) := by
      simpa [bind_apply, opens, noted] using activates
    rw [prepares] at runs
    obtain ⟨ended', same⟩ := Prod.mk.inj runs
    subst same
    cases found : (pipeSteps hasFd extra).find? answers.fails with
    | some step => rw [found] at ended'; cases ended'
    | none =>
      rw [found] at made
      generalize shown : final.protocol = protocol at made
      cases made with
      | all pipes fits => exact ⟨pipes, loggerFd, fits, rfl⟩

/-- The descriptors of a protocol whose pipes are made. -/
def pipedFds (sreq : ContainerStorletRequest) (dataFd loggerFd : Nat) (pipes : Pipes) :
    List SBusFileDescriptor :=
  [sbusFileDescriptor "SBUS_FD_INPUT_OBJECT" ((pipes.input.map Prod.fst).getD dataFd)
      (rangeMetadata sreq) sreq.data.userMetadata,
    sbusFileDescriptor "SBUS_FD_OUTPUT_OBJECT" pipes.data.2 [] .empty,
    sbusFileDescriptor "SBUS_FD_OUTPUT_OBJECT_METADATA" pipes.metadata.2 [] .empty,
    sbusFileDescriptor "SBUS_FD_LOGGER" loggerFd [] .empty] ++
  (pipes.sources.zip sreq.extraDataList).map fun (pipe, source) =>
    sbusFileDescriptor "SBUS_FD_INPUT_OBJECT" pipe.1 [] source.userMetadata

theorem remoteFds_eq (fits : pipes.Fits hasFd extra) :
    remoteFds sreq dataFd (pipes.protocol hasFd extra loggerFd) =
      some (pipedFds sreq dataFd loggerFd pipes) := by
  have given := fits.input
  cases hasFd <;> cases input : pipes.input <;> rw [input] at given <;> cases given <;>
    simp [remoteFds, pipedFds, Pipes.protocol, input]

theorem sbusFileDescriptor_plain (fdtype : String) (fileno : Nat) (storlets : Dict Text)
    (untyped : "type".toList ∉ storlets.keys) (storage : Dict Text) :
    (sbusFileDescriptor fdtype fileno storlets.items storage).Plain :=
  ⟨⟨_, rfl⟩, ⟨storlets, rfl, untyped⟩, ⟨storage, rfl⟩⟩

/-- The range is a dict. -/
theorem rangeMetadata_items (sreq : ContainerStorletRequest) :
    ∃ dict : Dict Text, rangeMetadata sreq = dict.items ∧ "type".toList ∉ dict.keys := by
  unfold rangeMetadata
  split
  · next start stop _ _ =>
    refine ⟨⟨[("start".toList, decimal start), ("end".toList, decimal stop)], ?_⟩, rfl, ?_⟩
    · change ["start".toList, "end".toList].Nodup
      decide
    · change "type".toList ∉ ["start".toList, "end".toList]
      decide
  · exact ⟨.empty, rfl, List.not_mem_nil⟩

theorem executeDatagram_plain : (executeDatagram sreq serviceFd
    (pipedFds sreq dataFd loggerFd pipes)).Plain := by
  obtain ⟨range, same, untyped⟩ := rangeMetadata_items sreq
  have none (fdtype : String) (fileno : Nat) (storage : Dict Text) :
      (sbusFileDescriptor fdtype fileno [] storage).Plain :=
    sbusFileDescriptor_plain fdtype fileno .empty List.not_mem_nil storage
  constructor
  · simp [executeDatagram]
  · intro sfd inside
    simp only [executeDatagram, pipedFds, List.cons_append, List.nil_append, List.mem_cons] at inside
    rcases inside with listed | listed | listed | listed | listed | listed
    · exact listed ▸ none _ _ _
    · rw [listed, same]
      exact sbusFileDescriptor_plain _ _ _ untyped _
    · exact listed ▸ none _ _ _
    · exact listed ▸ none _ _ _
    · exact listed ▸ none _ _ _
    · obtain ⟨_, _, made⟩ := List.mem_map.mp listed
      exact made ▸ none _ _ _
  · exact ⟨_, rfl⟩
  · exact ⟨sreq.params, rfl⟩
  · rfl

/-- The sender builds an EXECUTE. -/
theorem executeDatagram_accepted : buildDatagram (.str "SBUS_CMD_EXECUTE".toList)
    (executeDatagram sreq serviceFd (pipedFds sreq dataFd loggerFd pipes)).sfds
      (textMap sreq.params) .null =
        .ok (executeDatagram sreq serviceFd (pipedFds sreq dataFd loggerFd pipes)) := by
  have strays : ((pipes.sources.zip sreq.extraDataList).map fun (pipe, source) =>
      sbusFileDescriptor "SBUS_FD_INPUT_OBJECT" pipe.1 [] source.userMetadata).any
        (fun sfd => !Json.is sfd.fdtype "SBUS_FD_INPUT_OBJECT") = false := by
    simp [sbusFileDescriptor, Json.is]
  have drops : (executeDatagram sreq serviceFd (pipedFds sreq dataFd loggerFd pipes)).sfds.drop
      (requiredFdtypes true).length = (pipes.sources.zip sreq.extraDataList).map
        fun (pipe, source) =>
          sbusFileDescriptor "SBUS_FD_INPUT_OBJECT" pipe.1 [] source.userMetadata := rfl
  unfold buildDatagram
  dsimp only
  have required : checkRequiredFdtypes
      (executeDatagram sreq serviceFd (pipedFds sreq dataFd loggerFd pipes)).sfds
        (requiredFdtypes (Json.is (.str "SBUS_CMD_EXECUTE".toList) "SBUS_CMD_EXECUTE")) = true := by
    simp [executeDatagram, pipedFds, requiredFdtypes, checkRequiredFdtypes, sbusFileDescriptor,
      Json.is]
  rw [drops, strays, Bool.and_false, if_neg Bool.false_ne_true, if_pos required]
  rfl

/-- The descriptors of the received EXECUTE, by their place. -/
theorem renumbered_shape : ExecuteShape
    ((executeDatagram sreq serviceFd (pipedFds sreq dataFd loggerFd pipes)).renumbered numberOf)
    (sbusFileDescriptor "SBUS_FD_SERVICE_OUT" (numberOf serviceFd) [] .empty)
    (sbusFileDescriptor "SBUS_FD_INPUT_OBJECT"
      (numberOf ((pipes.input.map Prod.fst).getD dataFd)) (rangeMetadata sreq)
        sreq.data.userMetadata)
    (sbusFileDescriptor "SBUS_FD_OUTPUT_OBJECT" (numberOf pipes.data.2) [] .empty)
    (sbusFileDescriptor "SBUS_FD_OUTPUT_OBJECT_METADATA" (numberOf pipes.metadata.2) [] .empty)
    (sbusFileDescriptor "SBUS_FD_LOGGER" (numberOf loggerFd) [] .empty)
    ((pipes.sources.zip sreq.extraDataList).map fun (pipe, source) =>
      sbusFileDescriptor "SBUS_FD_INPUT_OBJECT" (numberOf pipe.1) [] source.userMetadata) := by
  constructor
  · simp [SBusDatagram.renumbered, executeDatagram, pipedFds, sbusFileDescriptor]
  · rfl
  · rfl
  · rfl
  · rfl
  · rfl
  · intro sfd inside
    obtain ⟨_, _, made⟩ := List.mem_map.mp inside
    rw [← made]
    rfl

theorem textItem_textMap (dict : Dict Text) : textItem (textMap dict) = dict.get? := by
  funext key
  have found := lookup_textFields dict.items key
  have same : dict.get? key = dict.items.lookup key := by
    unfold PyDict.get?
    induction dict.items with
    | nil => rfl
    | cons item rest ih =>
      obtain ⟨first, value⟩ := item
      rw [PyDict.lookup_cons, List.lookup_cons, ih]
      cases is : key == first with
      | true => rw [if_pos (eq_of_beq is)]
      | false => rw [if_neg (ne_of_beq_false is)]
  rw [textMap, textItem_obj, found, same]
  cases dict.items.lookup key <;> rfl

theorem inputView_plain (fdtype : String) (fileno : Nat) (storage : Dict Text) :
    inputView (sbusFileDescriptor fdtype fileno [] storage).storletsMetadata
      (sbusFileDescriptor fdtype fileno [] storage).storageMetadata fileno =
        some ⟨fileno, storage.get?, none⟩ := by
  change some (InputView.mk fileno (textItem (textMap storage)) none) = _
  rw [textItem_textMap]

theorem inputView_range (fileno : Nat) :
    inputView (textFields (rangeMetadata sreq)) (textMap sreq.data.userMetadata) fileno =
      some ⟨fileno, sreq.data.userMetadata.get?, match sreq.start, sreq.end with
        | some start, some stop => some (start, stop)
        | _, _ => none⟩ := by
  unfold inputView rangeMetadata
  rw [textItem_textMap]
  cases sreq.start with
  | none => rfl
  | some start =>
    cases sreq.end with
    | none => rfl
    | some stop =>
      have first : given (textFields [("start".toList, decimal start), ("end".toList, decimal stop)])
          "start" = some (.str (decimal start)) := rfl
      have last : given (textFields [("start".toList, decimal start), ("end".toList, decimal stop)])
          "end" = some (.str (decimal stop)) := rfl
      dsimp only
      rw [first, last]
      simp [Json.toInt?, int?_decimal]

theorem renumbered_inputs :
    (sbusFileDescriptor "SBUS_FD_INPUT_OBJECT" (numberOf ((pipes.input.map Prod.fst).getD dataFd))
        (rangeMetadata sreq) sreq.data.userMetadata ::
      (pipes.sources.zip sreq.extraDataList).map fun (pipe, source) =>
        sbusFileDescriptor "SBUS_FD_INPUT_OBJECT" (numberOf pipe.1) [] source.userMetadata).mapM
      (fun sfd => inputView sfd.storletsMetadata sfd.storageMetadata sfd.fileno) =
        some (primaryView numberOf sreq dataFd pipes :: extraViews numberOf sreq pipes) := by
  have extras : ((pipes.sources.zip sreq.extraDataList).map fun (pipe, source) =>
      sbusFileDescriptor "SBUS_FD_INPUT_OBJECT" (numberOf pipe.1) [] source.userMetadata).mapM
      (fun sfd => inputView sfd.storletsMetadata sfd.storageMetadata sfd.fileno) =
        some (extraViews numberOf sreq pipes) := by
    rw [List.mapM_map, extraViews]
    generalize pipes.sources.zip sreq.extraDataList = sources
    induction sources with
    | nil => rfl
    | cons source rest ih =>
      obtain ⟨pipe, source⟩ := source
      have view := inputView_plain "SBUS_FD_INPUT_OBJECT" (numberOf pipe.1) source.userMetadata
      rw [List.mapM_cons, ih, Function.comp_apply]
      dsimp only
      change (inputView (sbusFileDescriptor "SBUS_FD_INPUT_OBJECT" (numberOf pipe.1) []
        source.userMetadata).storletsMetadata (sbusFileDescriptor "SBUS_FD_INPUT_OBJECT"
          (numberOf pipe.1) [] source.userMetadata).storageMetadata (numberOf pipe.1) >>= _) = _
      rw [view]
      rfl
  rw [List.mapM_cons, extras]
  change (inputView (textFields (rangeMetadata sreq)) (textMap sreq.data.userMetadata)
    (numberOf ((pipes.input.map Prod.fst).getD dataFd)) >>= _) = _
  rw [inputView_range]
  rfl

/-- Each write end is handed to a writer of what its pipe is for. -/
theorem writeFds_fed (fits : pipes.Fits hasFd sreq.extraDataList.length) :
    (pipes.protocol hasFd sreq.extraDataList.length loggerFd).writeFds.map
        (fun (name, fd) => (fd, pipedData sreq name)) =
      (pipes.input.map fun pipe => (pipe.2, some sreq.data.source)).toList ++
        (pipes.sources.zip sreq.extraDataList).map fun (pipe, source) =>
          (pipe.2, some source.source) := by
  have sources : (pipes.sources.mapIdx fun index source => (PipeName.source index, source.2)).map
      (fun (name, fd) => (fd, pipedData sreq name)) =
        (pipes.sources.zip sreq.extraDataList).map fun (pipe, source) =>
          (pipe.2, some source.source) := by
    have same := fits.sources
    apply List.ext_getElem?
    intro index
    rw [List.getElem?_map, List.getElem?_mapIdx, List.getElem?_map, List.zip, List.getElem?_zipWith]
    cases pipe : pipes.sources[index]? with
    | none => simp
    | some pipe =>
      have inside : index < sreq.extraDataList.length :=
        same ▸ (List.getElem?_eq_some_iff.mp pipe).1
      simp [pipedData, inside]
  unfold Protocol.writeFds Pipes.protocol
  rw [List.map_append, sources]
  congr 1
  cases pipes.input <;> rfl

end Proofs

/-- The inputs arrive in order exactly if the message fits the receiver's buffer. -/
theorem inputs_in_order_iff {interpreter : Interpreter} (deep : 3 ≤ interpreter.limits.depth)
    (copies : 2 ≤ interpreter.copyDepth) (format : IntFormat) (host : Sbus.Host Nat)
    (numberOf : Nat → Nat) (me : Owner) (answers : CallAnswers) (table : Table Owner)
    (sreq : ContainerStorletRequest) (dataFd serviceFd : Nat)
    (iterators : ∀ source ∈ sreq.extraDataList, source.hasFd = false) :
    ∃ start, StorletInvocationProtocol.init sreq table = some start ∧ ∀ prepared,
      activate me answers start = (.ok (), prepared) → ∃ pipes loggerFd fds,
        prepared.protocol =
          Pipes.protocol pipes sreq.data.hasFd sreq.extraDataList.length loggerFd ∧
        remoteFds sreq dataFd prepared.protocol = some fds ∧
        (¬ Refuses format host (executeDatagram sreq serviceFd fds).arguments →
          host.malloc (sizeT (cbufSize (executeDatagram sreq serviceFd fds).arguments)) →
          (InputsInOrder interpreter format host numberOf sreq dataFd serviceFd pipes fds
              prepared.protocol ↔
            (executeDatagram sreq serviceFd fds).messageLength ≤ maxMsgLength)) := by
  refine ⟨Protocol.start table sreq.data.hasFd sreq.extraDataList.length, ?_, ?_⟩
  · have none : sreq.extraDataList.any StorletData.hasFd = false := by simpa using iterators
    rw [StorletInvocationProtocol.init, none, if_neg Bool.false_ne_true]
  · intro prepared activates
    obtain ⟨pipes, loggerFd, fits, made⟩ := activate_ends activates
    refine ⟨pipes, loggerFd, pipedFds sreq dataFd loggerFd pipes, made, ?_, ?_⟩
    · rw [made, remoteFds_eq fits]
    · intro accepts allocated
      have plain : (executeDatagram sreq serviceFd (pipedFds sreq dataFd loggerFd pipes)).Plain :=
        executeDatagram_plain
      have arrives := plain.arrives_iff deep copies executeDatagram_accepted accepts allocated
        numberOf
      constructor
      · intro inOrder
        exact (SBusDatagram.delivered_iff plain.textual accepts allocated).mp inOrder.delivered
      · intro short
        obtain ⟨delivered, received⟩ := arrives.mpr short
        constructor
        · exact executeDatagram_accepted
        · exact delivered
        · refine ⟨_, _, received, rfl, renumbered_shape.view renumbered_inputs, rfl, ?_⟩
          simp [extraViews, fits.sources]
        · rw [made]
          exact writeFds_fed fits

def requestOf (start stop : Option Nat) (data : StorletData) (extraDataList : List StorletData) :
    ContainerStorletRequest where
  storletId := "s".toList
  params := .empty
  data
  options := { storlet := .empty, scope := [], generateLog := false }
  generateLog := false
  storletMain := "s.S".toList
  storletLanguage := "python".toList
  storletLanguageVersion := none
  dependencies := []
  start
  «end» := stop
  extraDataList

/-- A range of a file of the server, and two extra sources. -/
def threeInputs : ContainerStorletRequest :=
  requestOf (some 1) (some 5) ⟨.ofList [("k".toList, "0".toList)], .fd []⟩
    [⟨.ofList [("k".toList, "1".toList)], .iter []⟩, ⟨.ofList [("k".toList, "2".toList)], .iter []⟩]

set_option maxRecDepth 20000 in
theorem three_inputs_in_order : ∃ prepared pipes fds,
    activate (.call 0) smoothAnswers (Protocol.start .empty true 2) = (.ok (), prepared) ∧
      remoteFds threeInputs 9 prepared.protocol = some fds ∧
      InputsInOrder python littleEndian acceptingHost id threeInputs 9 8 pipes fds
        prepared.protocol := by
  obtain ⟨start, begins, runs⟩ := inputs_in_order_iff
    (by decide : 3 ≤ python.limits.depth) (by decide) littleEndian acceptingHost id (.call 0) smoothAnswers .empty threeInputs 9 8 (by decide)
  cases begins
  obtain ⟨pipes, loggerFd, fds, _, made, arrives⟩ := runs _ rfl
  have short : (executeDatagram threeInputs 8 fds).messageLength ≤ maxMsgLength := by
    cases made
    decide
  exact ⟨_, pipes, fds, rfl, made, (arrives (not_refuses_accepting _ _) rfl).mpr short⟩

/-- An object with one entry of metadata. -/
def noted (value : Text) : ContainerStorletRequest :=
  requestOf none none ⟨.ofList [("k".toList, value)], .fd []⟩ []

/-- The message holds the metadata of the object. -/
theorem noted_length (value : Text) (serviceFd dataFd loggerFd : Nat) (pipes : Pipes) :
    value.length < (executeDatagram (noted value) serviceFd
      (pipedFds (noted value) dataFd loggerFd pipes)).messageLength := by
  let input := sbusFileDescriptor "SBUS_FD_INPUT_OBJECT"
    ((pipes.input.map Prod.fst).getD dataFd) [] (noted value).data.userMetadata
  have text : value.length ≤ (Json.dumps (.str value)).length := Json.length_dumps_str value
  have storage : (Json.dumps (.str value)).length ≤
      (Json.dumps (textMap (noted value).data.userMetadata)).length := by
    have inside : ("k".toList, Json.str value) ∈ textFields (noted value).data.userMetadata.items :=
      List.mem_cons_self
    exact Json.length_dumps_field inside
  have metadict : (Json.dumps (textMap (noted value).data.userMetadata)).length ≤
      (Json.dumps input.metadata).length := by
    have inside : ("storage".toList, textMap (noted value).data.userMetadata) ∈
        [("storlets".toList, Json.obj (PyDict.setItem "type".toList input.fdtype [])),
          ("storage".toList, textMap (noted value).data.userMetadata)] := by simp
    exact Json.length_dumps_field inside
  have whole : (Json.dumps input.metadata).length ≤
      (Json.dumps (executeDatagram (noted value) serviceFd
        (pipedFds (noted value) dataFd loggerFd pipes)).metadata).length := by
    apply Json.length_dumps_item
    exact List.mem_cons_of_mem _ List.mem_cons_self
  have some : intSize = 4 := rfl
  unfold SBusDatagram.messageLength
  omega

/-- The metadata of an object can be longer than the receiver's buffer. -/
theorem long_metadata_lost : ¬ ∀ (format : IntFormat) (host : Sbus.Host Nat) (numberOf : Nat → Nat)
    (me : Owner) (answers : CallAnswers) (table : Table Owner) (sreq : ContainerStorletRequest)
    (dataFd serviceFd : Nat), (∀ source ∈ sreq.extraDataList, source.hasFd = false) →
    (∀ args, ¬ Refuses format host args) → (∀ size, host.malloc size) →
    ∀ start prepared, StorletInvocationProtocol.init sreq table = some start →
      activate me answers start = (.ok (), prepared) →
      ∃ pipes fds, remoteFds sreq dataFd prepared.protocol = some fds ∧
        InputsInOrder python format host numberOf sreq dataFd serviceFd pipes fds
          prepared.protocol := by
  intro always
  obtain ⟨value, long⟩ : ∃ value : Text, value.length = 5000 :=
    ⟨List.replicate 5000 'a', List.length_replicate⟩
  have begins : StorletInvocationProtocol.init (noted value) .empty =
      some (Protocol.start .empty true 0) := rfl
  obtain ⟨prepared, activates⟩ : ∃ prepared, activate (.call 0) smoothAnswers
      (Protocol.start .empty true 0) = (.ok (), prepared) := ⟨_, rfl⟩
  obtain ⟨_, _, made, inOrder⟩ := always littleEndian acceptingHost id (.call 0) smoothAnswers
    .empty (noted value) 9 8 (by simp [noted, requestOf]) (not_refuses_accepting _) (fun _ => rfl)
    _ _ begins activates
  obtain ⟨pipes, loggerFd, fits, ended⟩ := activate_ends activates
  rw [ended, remoteFds_eq fits] at made
  have same := Option.some.inj made
  subst same
  have short := (SBusDatagram.delivered_iff executeDatagram_plain.textual
    (not_refuses_accepting _ _) rfl).mp inOrder.delivered
  have holds := noted_length value 8 9 loggerFd pipes
  have limit : maxMsgLength = 4096 := rfl
  omega

end Storlets
