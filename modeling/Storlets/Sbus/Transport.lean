import Storlets.Agent.SameView
import Storlets.Sbus.TextCodec
import Storlets.Sbus.Wire

set_option autoImplicit false

/-!
# A datagram from its sender to its receiver

`SBus.send` and `SBus.receive` around the C library. The receiver knows the passed files by
numbers of its own.
-/

namespace Storlets.Sbus

open PyStr Fallible ByteWire

def encodeUtf8 (text : Text) : List UInt8 := text.flatMap String.utf8EncodeChar

def decodeUtf8 (bytes : List UInt8) : Option Text :=
  bytes.toByteArray.utf8Decode?.map Array.toList

/-- What a `c_char_p` that was given these bytes holds; without bytes it is not set. -/
def RawText.ofBytes (bytes : List UInt8) : RawText :=
  if bytes = [] then .null
  else match decodeUtf8 (bytes.takeWhile fun byte => byte ≠ 0) with
    | some s => .text s
    | none => .undecodable

/-- The arguments of `SBus.send`. The texts are ASCII, so that their lengths are those of the bytes. -/
def SBusDatagram.arguments (dtg : SBusDatagram) : Arguments Nat :=
  sendArguments dtg.fds (encodeUtf8 (Json.dumps dtg.metadata)) (encodeUtf8 (Json.dumps dtg.cmdParams))

def SBusDatagram.messageLength (dtg : SBusDatagram) : Nat :=
  3 * intSize + (Json.dumps dtg.metadata).length + (Json.dumps dtg.cmdParams).length

section Carrying

variable (interpreter : Interpreter) (format : IntFormat) (host : Host Nat) (numberOf : Nat → Nat)

/-- What the C library hands to the receiver. -/
def SBusDatagram.delivered (dtg : SBusDatagram) : Option (Unpacked Nat) :=
  match sbusSendMsg format host dtg.arguments with
  | .error _ => none
  | .ok message => (sbusRecvMsg format (some (received message))).toOption

def Unpacked.raw (unpacked : Unpacked Nat) : RawMessage where
  fds := unpacked.files.map numberOf
  metadata := .ofBytes unpacked.filesMetadata
  params := .ofBytes unpacked.msgData

/-- The datagram that `SBus.receive` builds of a message. -/
def SBusDatagram.arrives (dtg : SBusDatagram) : Option SBusDatagram := do
  let unpacked ← dtg.delivered format host
  (receive interpreter (unpacked.raw numberOf)).toOption

end Carrying

/-! ## Texts -/

theorem decodeUtf8_encodeUtf8 (text : Text) : decodeUtf8 (encodeUtf8 text) = some text := by
  have whole : (encodeUtf8 text).toByteArray.utf8Decode? = some text.toArray :=
    List.utf8Decode?_utf8Encode
  rw [decodeUtf8, whole]
  simp

theorem encodeUtf8_ascii {text : Text} (ascii : ∀ c ∈ text, 0 < c.toNat ∧ c.toNat < 128) :
    (encodeUtf8 text).length = text.length ∧ ∀ byte ∈ encodeUtf8 text, byte ≠ 0 := by
  induction text with
  | nil => exact ⟨rfl, by simp [encodeUtf8]⟩
  | cons c rest ih =>
    obtain ⟨⟨positive, small⟩, later⟩ := List.forall_mem_cons.mp ascii
    obtain ⟨length, set⟩ := ih later
    have one : String.utf8EncodeChar c = [UInt8.ofNat c.toNat] :=
      if_pos (Nat.le_of_lt_succ small)
    have nonzero : UInt8.ofNat c.toNat ≠ 0 := by
      intro zero
      have value := congrArg UInt8.toNat zero
      rw [UInt8.toNat_ofNat'] at value
      change c.toNat % 256 = 0 at value
      omega
    have split : encodeUtf8 (c :: rest) = UInt8.ofNat c.toNat :: encodeUtf8 rest := by
      rw [encodeUtf8, List.flatMap_cons, one]
      rfl
    rw [split]
    constructor
    · rw [List.length_cons, List.length_cons, length]
    · exact List.forall_mem_cons.mpr ⟨nonzero, set⟩

theorem RawText.ofBytes_encodeUtf8 {text : Text}
    (ascii : ∀ c ∈ text, 0 < c.toNat ∧ c.toNat < 128) (some : text ≠ []) :
    RawText.ofBytes (encodeUtf8 text) = .text text := by
  obtain ⟨length, set⟩ := encodeUtf8_ascii ascii
  have given : encodeUtf8 text ≠ [] := by
    intro none
    rw [none] at length
    exact some (List.length_eq_zero_iff.mp length.symm)
  have whole : (encodeUtf8 text).takeWhile (fun byte => byte ≠ 0) = encodeUtf8 text :=
    List.takeWhile_eq_self_iff.mpr (by simpa using set)
  rw [RawText.ofBytes, if_neg given, whole, decodeUtf8_encodeUtf8]

/-! ## The message -/

/-- A datagram of strings. -/
structure SBusDatagram.Textual (dtg : SBusDatagram) : Prop where
  given : dtg.sfds ≠ []
  metadata : Json.Textual dtg.metadata
  cmdParams : Json.Textual dtg.cmdParams

/-- A datagram whose texts are ASCII. -/
structure SBusDatagram.Ascii (dtg : SBusDatagram) : Prop where
  given : dtg.sfds ≠ []
  metadata : ∀ c ∈ Json.dumps dtg.metadata, 0 < c.toNat ∧ c.toNat < 128
  cmdParams : ∀ c ∈ Json.dumps dtg.cmdParams, 0 < c.toNat ∧ c.toNat < 128

theorem SBusDatagram.Textual.ascii {dtg : SBusDatagram} (textual : dtg.Textual) : dtg.Ascii where
  given := textual.given
  metadata := Json.dumps_ascii textual.metadata
  cmdParams := Json.dumps_ascii textual.cmdParams

/-- What was sent. -/
def SBusDatagram.unpacked (dtg : SBusDatagram) : Unpacked Nat where
  files := dtg.fds
  filesMetadata := encodeUtf8 (Json.dumps dtg.metadata)
  msgData := encodeUtf8 (Json.dumps dtg.cmdParams)

section Delivery

variable {format : IntFormat} {host : Host Nat} {dtg : SBusDatagram}

theorem SBusDatagram.Ascii.arguments (ascii : dtg.Ascii) :
    dtg.arguments.files = dtg.fds ∧
      dtg.arguments.filesMetadata = encodeUtf8 (Json.dumps dtg.metadata) ∧
      dtg.arguments.msgData = encodeUtf8 (Json.dumps dtg.cmdParams) := by
  have some : 0 < dtg.fds.length := by
    simpa [SBusDatagram.fds] using List.length_pos_of_ne_nil ascii.given
  simp [SBusDatagram.arguments, sendArguments, some]

/-- The metadata alone is longer than the list of descriptors. -/
theorem SBusDatagram.fds_le (dtg : SBusDatagram) :
    dtg.fds.length ≤ (Json.dumps dtg.metadata).length := by
  have solid : ∀ item ∈ dtg.sfds.map SBusFileDescriptor.metadata, Json.Solid item := by
    intro item inside
    obtain ⟨sfd, _, rfl⟩ := List.mem_map.mp inside
    exact ⟨'\x7b', _, by rw [SBusFileDescriptor.metadata, Json.dumps]; rfl, by decide⟩
  have long := Json.length_joined _ (Json.dumpItems_some solid)
  rw [Json.dumpItems_eq, List.length_map, List.length_map] at long
  simp only [SBusDatagram.metadata, Json.dumps, Json.dumpItems_eq, SBusDatagram.fds, List.length_map,
    List.length_append, List.length_cons]
  omega

theorem SBusDatagram.Ascii.fits_iff (ascii : dtg.Ascii)
    (allocated : host.malloc (sizeT (cbufSize dtg.arguments))) :
    Fits host dtg.arguments ↔ dtg.messageLength ≤ maxMsgLength := by
  obtain ⟨files, metadata, msgData⟩ := ascii.arguments
  have metadataLength := (encodeUtf8_ascii ascii.metadata).1
  have msgLength := (encodeUtf8_ascii ascii.cmdParams).1
  have few := SBusDatagram.fds_le dtg
  have constants : maxMsgLength = 4096 ∧ maxFds = 4096 := ⟨rfl, rfl⟩
  unfold SBusDatagram.messageLength
  constructor
  · intro fits
    have bytes := fits.bytes
    rwa [metadata, msgData, metadataLength, msgLength] at bytes
  · intro short
    constructor
    · rw [files]
      omega
    · rwa [metadata, msgData, metadataLength, msgLength]
    · exact allocated

/-- What was sent is delivered exactly if it fits the receiver's buffer. -/
theorem SBusDatagram.Ascii.delivered_iff (ascii : dtg.Ascii)
    (accepts : ¬ Refuses format host dtg.arguments)
    (allocated : host.malloc (sizeT (cbufSize dtg.arguments))) :
    dtg.delivered format host = some dtg.unpacked ↔ dtg.messageLength ≤ maxMsgLength := by
  obtain ⟨files, metadata, msgData⟩ := ascii.arguments
  rw [← ascii.fits_iff allocated]
  unfold SBusDatagram.delivered
  rcases sbusSendMsg_cases format host (sendArguments_backed dtg.fds
      (encodeUtf8 (Json.dumps dtg.metadata)) (encodeUtf8 (Json.dumps dtg.cmdParams))) with
    ⟨_, refused⟩ | ⟨ends, broken, _⟩ | ⟨ends, sendable, _⟩
  · exact absurd refused accepts
  · have ends : sbusSendMsg format host dtg.arguments = .error .undefined := ends
    rw [ends]
    exact iff_of_false (by simp) fun fits => broken (sendable_of_fits fits)
  · have whole : sbusRecvMsg format (some (received (wireMessage format host dtg.arguments))) =
        Except.ok ⟨dtg.arguments.files, dtg.arguments.filesMetadata, dtg.arguments.msgData⟩ ↔
          Fits host dtg.arguments := recvMsg_wireMessage format sendable
    have ends : sbusSendMsg format host dtg.arguments =
      .ok (wireMessage format host dtg.arguments) := ends
    rw [ends, ← whole, files, metadata, msgData]
    change (sbusRecvMsg _ _).toOption = some dtg.unpacked ↔ _ = Except.ok dtg.unpacked
    cases sbusRecvMsg format (some (received (wireMessage format host dtg.arguments))) with
    | error misread => simp [Except.toOption]
    | ok unpacked => simp [Except.toOption]

theorem SBusDatagram.delivered_iff (textual : dtg.Textual)
    (accepts : ¬ Refuses format host dtg.arguments)
    (allocated : host.malloc (sizeT (cbufSize dtg.arguments))) :
    dtg.delivered format host = some dtg.unpacked ↔ dtg.messageLength ≤ maxMsgLength :=
  textual.ascii.delivered_iff accepts allocated

theorem SBusDatagram.Ascii.receive_unpacked (interpreter : Interpreter) (numberOf : Nat → Nat)
    (ascii : dtg.Ascii) : receive interpreter (dtg.unpacked.raw numberOf) =
      buildDatagramFromRawMessage interpreter (dtg.fds.map numberOf) (Json.dumps dtg.metadata)
        (Json.dumps dtg.cmdParams) := by
  have metadata : Json.dumps dtg.metadata ≠ [] := by
    rw [SBusDatagram.metadata, Json.dumps]
    exact List.cons_ne_nil _ _
  have cmdParams : Json.dumps dtg.cmdParams ≠ [] := by
    rw [SBusDatagram.cmdParams, Json.dumps]
    exact List.cons_ne_nil _ _
  unfold receive Unpacked.raw SBusDatagram.unpacked
  dsimp only
  rw [RawText.ofBytes_encodeUtf8 ascii.metadata metadata,
    RawText.ofBytes_encodeUtf8 ascii.cmdParams cmdParams]
  rfl

end Delivery

/-! ## Strings in, strings out -/

def textFields (pairs : List (Text × Text)) : List (Text × Json) :=
  pairs.map fun (key, value) => (key, .str value)

def textMap (dict : Dict Text) : Json := .obj (textFields dict.items)

structure SBusFileDescriptor.Plain (sfd : SBusFileDescriptor) : Prop where
  fdtype : ∃ s, sfd.fdtype = .str s
  storlets : ∃ dict : Dict Text, sfd.storletsMetadata = textFields dict.items ∧
    "type".toList ∉ dict.keys
  storage : ∃ dict : Dict Text, sfd.storageMetadata = textMap dict

/-- What the client sends with no task id. -/
structure SBusDatagram.Plain (dtg : SBusDatagram) : Prop where
  given : dtg.sfds ≠ []
  sfds : ∀ sfd ∈ dtg.sfds, sfd.Plain
  command : ∃ s, dtg.command = .str s
  params : ∃ dict : Dict Text, dtg.params = textMap dict
  taskId : dtg.taskId = .null

/-- The datagram as the receiver has it. -/
def SBusDatagram.renumbered (numberOf : Nat → Nat) (dtg : SBusDatagram) : SBusDatagram where
  command := dtg.command
  sfds := dtg.sfds.map fun sfd => { sfd with fileno := numberOf sfd.fileno }
  params := if Json.truthy dtg.params then dtg.params else .null
  taskId := .null

section Plain

variable {dtg : SBusDatagram} {sfd : SBusFileDescriptor}

theorem keys_textFields (pairs : List (Text × Text)) :
    (textFields pairs).map Prod.fst = pairs.map Prod.fst := by
  simp [textFields, Function.comp_def]

theorem textMap_textual (dict : Dict Text) : Json.Textual (textMap dict) := by
  apply Json.Textual.obj
  · rw [keys_textFields]
    exact dict.distinct
  · intro field inside
    obtain ⟨pair, _, same⟩ := List.mem_map.mp inside
    rw [← same]
    exact .str _

theorem textMap_nests (dict : Dict Text) (depth : Nat) :
    Json.nestsWithin (depth + 1) (textMap dict) = true := by
  simp [textMap, textFields, Json.nestsWithin]

theorem lookup_textFields (pairs : List (Text × Text)) (key : Text) :
    (textFields pairs).lookup key = (pairs.lookup key).map .str := by
  induction pairs with
  | nil => rfl
  | cons pair rest ih =>
    obtain ⟨other, value⟩ := pair
    change List.lookup key ((other, .str value) :: textFields rest) = _
    rw [List.lookup_cons, List.lookup_cons, ih]
    split <;> rfl

theorem setItem_type {pairs : List (Text × Text)} (untyped : "type".toList ∉ pairs.map Prod.fst)
    (fdtype : Json) : PyDict.setItem "type".toList fdtype (textFields pairs) =
      textFields pairs ++ [("type".toList, fdtype)] := by
  rw [← keys_textFields] at untyped
  exact PyDict.setItem_absent untyped

theorem SBusFileDescriptor.Plain.metadata_eq (plain : sfd.Plain) :
    ∃ (fdtype : Text) (storlets storage : Dict Text), "type".toList ∉ storlets.keys ∧
      sfd = ⟨.str fdtype, sfd.fileno, textFields storlets.items, textMap storage⟩ ∧
      sfd.metadata = .obj
        [("storlets".toList, .obj (textFields storlets.items ++ [("type".toList, .str fdtype)])),
          ("storage".toList, textMap storage)] := by
  obtain ⟨fdtype, typed⟩ := plain.fdtype
  obtain ⟨storlets, isStorlets, untyped⟩ := plain.storlets
  obtain ⟨storage, isStorage⟩ := plain.storage
  refine ⟨fdtype, storlets, storage, untyped, ?_, ?_⟩
  · obtain ⟨_, _, _, _⟩ := sfd
    cases typed
    cases isStorlets
    cases isStorage
    rfl
  · rw [SBusFileDescriptor.metadata, typed, isStorlets, isStorage, setItem_type untyped]

theorem SBusFileDescriptor.Plain.metadata_textual (plain : sfd.Plain) :
    Json.Textual sfd.metadata := by
  obtain ⟨fdtype, storlets, storage, untyped, _, written⟩ := plain.metadata_eq
  rw [written]
  apply Json.Textual.obj
  · change ["storlets".toList, "storage".toList].Nodup
    decide
  · intro field inside
    rcases List.mem_pair.mp inside with isStorlets | isStorage
    · subst isStorlets
      apply Json.Textual.obj
      · have distinct : (storlets.items.map Prod.fst ++ ["type".toList]).Nodup :=
          List.nodup_append.mpr ⟨storlets.distinct, List.nodup_singleton _, by
            rintro key inside _ last rfl
            exact untyped (List.mem_singleton.mp last ▸ inside)⟩
        rwa [List.map_append, keys_textFields]
      · intro field inside
        rcases List.mem_append.mp inside with pair | last
        · obtain ⟨_, _, same⟩ := List.mem_map.mp pair
          rw [← same]
          exact .str _
        · rw [List.mem_singleton.mp last]
          exact .str _
    · subst isStorage
      exact textMap_textual storage

theorem SBusFileDescriptor.Plain.metadata_nests (plain : sfd.Plain) (depth : Nat) :
    Json.nestsWithin (depth + 2) sfd.metadata = true := by
  obtain ⟨fdtype, storlets, storage, _, _, written⟩ := plain.metadata_eq
  have inner := textMap_nests storage depth
  rw [written]
  simp [Json.nestsWithin, textFields, inner]

theorem SBusFileDescriptor.Plain.initialised (plain : sfd.Plain) : sfd.Initialised := by
  obtain ⟨storlets, isStorlets, untyped⟩ := plain.storlets
  obtain ⟨storage, isStorage⟩ := plain.storage
  constructor
  · rwa [isStorlets, keys_textFields]
  · exact ⟨textMap storage, isStorage.trans (orEmpty_obj _).symm⟩

theorem SBusDatagram.Plain.metadata_nests (plain : dtg.Plain) (depth : Nat) :
    Json.nestsWithin (depth + 3) dtg.metadata = true := by
  simp only [SBusDatagram.metadata, Json.nestsWithin, List.all_map, List.all_eq_true]
  exact fun sfd inside => (plain.sfds sfd inside).metadata_nests depth

theorem SBusDatagram.Plain.cmdParams_eq (plain : dtg.Plain) :
    ∃ (command : Text) (params : Dict Text), dtg.command = .str command ∧
      dtg.params = textMap params ∧
      dtg.cmdParams = .obj (("command".toList, .str command) ::
        if params.items = [] then [] else [("params".toList, textMap params)]) := by
  obtain ⟨command, commanded⟩ := plain.command
  obtain ⟨params, given⟩ := plain.params
  refine ⟨command, params, commanded, given, ?_⟩
  rw [SBusDatagram.cmdParams, commanded, given, plain.taskId]
  obtain ⟨_ | ⟨pair, rest⟩, distinct⟩ := params <;> rfl

theorem SBusDatagram.Plain.textual (plain : dtg.Plain) : dtg.Textual := by
  constructor
  · exact plain.given
  · apply Json.Textual.arr
    intro item inside
    obtain ⟨sfd, listed, same⟩ := List.mem_map.mp inside
    rw [← same]
    exact (plain.sfds sfd listed).metadata_textual
  · obtain ⟨command, params, _, _, written⟩ := plain.cmdParams_eq
    rw [written]
    split
    · apply Json.Textual.obj
      · exact List.nodup_singleton _
      · intro field inside
        rw [List.mem_singleton.mp inside]
        exact .str _
    · apply Json.Textual.obj
      · change ["command".toList, "params".toList].Nodup
        decide
      · intro field inside
        rcases List.mem_pair.mp inside with isCommand | isParams
        · subst isCommand
          exact .str _
        · subst isParams
          exact textMap_textual params

theorem SBusDatagram.Plain.cmdParams_nests (plain : dtg.Plain) (depth : Nat) :
    Json.nestsWithin (depth + 2) dtg.cmdParams = true := by
  obtain ⟨command, params, _, _, written⟩ := plain.cmdParams_eq
  have inner := textMap_nests params depth
  rw [written]
  split <;> simp [Json.nestsWithin, inner]

/-! ## What the receiver builds -/

/-- A datagram that its sender could build is built by its receiver, with other numbers. -/
theorem SBusDatagram.Plain.receives (plain : dtg.Plain) {interpreter : Interpreter}
    (deep : 3 ≤ interpreter.limits.depth) (copies : 2 ≤ interpreter.copyDepth)
    {built : SBusDatagram}
    (builds : buildDatagram dtg.command dtg.sfds dtg.params dtg.taskId = .ok built)
    (numberOf : Nat → Nat) :
    receive interpreter (dtg.unpacked.raw numberOf) = .ok (dtg.renumbered numberOf) := by
  have loadsMetadata : loads interpreter (Json.dumps dtg.metadata) = .ok dtg.metadata := by
    have nests := plain.metadata_nests (interpreter.limits.depth - 3)
    rw [Nat.sub_add_cancel deep] at nests
    rw [loads, Json.loads_dumps interpreter.limits plain.textual.metadata nests]
  have loadsParams : loads interpreter (Json.dumps dtg.cmdParams) = .ok dtg.cmdParams := by
    have nests := plain.cmdParams_nests (interpreter.limits.depth - 2)
    rw [Nat.sub_add_cancel (by omega)] at nests
    rw [loads, Json.loads_dumps interpreter.limits plain.textual.cmdParams nests]
  have deepEnough : ∀ sfd ∈ dtg.sfds,
      Json.nestsWithin interpreter.copyDepth sfd.metadata = true := by
    intro sfd inside
    have nests := (plain.sfds sfd inside).metadata_nests (interpreter.copyDepth - 2)
    rwa [Nat.sub_add_cancel copies] at nests
  rw [plain.textual.ascii.receive_unpacked interpreter numberOf,
    SBusDatagram.decodes loadsMetadata loadsParams
      (fun sfd inside => (plain.sfds sfd inside).initialised) deepEnough builds numberOf,
    plain.taskId]
  rfl

/-- The receiver gets what was sent, or the message is longer than its buffer. -/
theorem SBusDatagram.Plain.arrives_iff (plain : dtg.Plain) {interpreter : Interpreter}
    (deep : 3 ≤ interpreter.limits.depth) (copies : 2 ≤ interpreter.copyDepth)
    {built : SBusDatagram}
    (builds : buildDatagram dtg.command dtg.sfds dtg.params dtg.taskId = .ok built)
    {format : IntFormat} {host : Host Nat} (accepts : ¬ Refuses format host dtg.arguments)
    (allocated : host.malloc (sizeT (cbufSize dtg.arguments))) (numberOf : Nat → Nat) :
    dtg.delivered format host = some dtg.unpacked ∧
      dtg.arrives interpreter format host numberOf = some (dtg.renumbered numberOf) ↔
        dtg.messageLength ≤ maxMsgLength := by
  rw [← SBusDatagram.delivered_iff plain.textual accepts allocated]
  constructor
  · exact And.left
  · intro delivered
    refine ⟨delivered, ?_⟩
    rw [SBusDatagram.arrives, delivered]
    change (receive interpreter (dtg.unpacked.raw numberOf)).toOption = _
    rw [plain.receives deep copies builds]
    rfl

end Plain

end Storlets.Sbus
