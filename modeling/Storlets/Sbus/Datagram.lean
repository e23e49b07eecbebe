import Storlets.Library.PyJson

set_option autoImplicit false

/-!
# Datagrams from raw messages
-/

namespace Storlets.Sbus

open PyStr

inductive PyException where
  /-- Also what `json.loads` and `decode` raise. -/
  | valueError
  | keyError
  | typeError
  | attributeError
  | recursionError
  | osError
  deriving DecidableEq

/-- What the interpreter allows, and the names every module has. -/
structure Interpreter where
  limits : Json.Limits
  copyDepth : Nat
  moduleNames : Text → Bool

/-- What `c_char_p.value` and `decode` make of a string of the message. -/
inductive RawText where
  | null
  | undecodable
  | text (s : Text)

structure RawMessage where
  fds : List Nat
  metadata : RawText
  params : RawText

structure SBusFileDescriptor where
  fdtype : Json
  fileno : Nat
  storletsMetadata : List (Text × Json)
  storageMetadata : Json

structure SBusDatagram where
  command : Json
  sfds : List SBusFileDescriptor
  params : Json
  taskId : Json

def RawText.decode : RawText → Except PyException Text
  | .null => .error .attributeError
  | .undecodable => .error .valueError
  | .text s => .ok s

section Building

variable (interpreter : Interpreter)

def loads (text : Text) : Except PyException Json :=
  match Json.loads interpreter.limits text with
  | some value => .ok value
  | none => .error .valueError

/-- `copy.deepcopy`. -/
def deepcopy (value : Json) : Except PyException Json :=
  if Json.nestsWithin interpreter.copyDepth value then .ok value else .error .recursionError

/-- `value[key]`. -/
def getItem (value : Json) (key : Text) : Except PyException Json :=
  match value with
  | .obj fields =>
      match fields.lookup key with
      | some item => .ok item
      | none => .error .keyError
  | _ => .error .typeError

/-- `value[key]`, where it is a string. -/
def textItem (value : Json) (key : Text) : Option Text :=
  match getItem value key with
  | .ok (.str item) => some item
  | _ => none

/-- `bool(value)`; a float is taken for a number other than zero. -/
def Json.truthy : Json → Bool
  | .null => false
  | .bool value => value
  | .int value => value ≠ 0
  | .float => true
  | .str s => !s.isEmpty
  | .arr items => !items.isEmpty
  | .obj fields => !fields.isEmpty

/-- `value or {}`. -/
def Json.orEmpty (value : Json) : Json := if Json.truthy value then value else .obj []

/-- `value.pop('type')`: the item, and what is left. -/
def popType (value : Json) : Except PyException (Json × List (Text × Json)) :=
  match value with
  | .obj fields =>
      match fields.lookup "type".toList with
      | some fdtype => .ok (fdtype, fields.filter fun field => field.1 ≠ "type".toList)
      | none => .error .keyError
  | .arr _ => .error .typeError
  | _ => .error .attributeError

def fromFilenoAndMetadataDict (fileno : Nat) (metadict : Json) :
    Except PyException SBusFileDescriptor := do
  let metadict ← deepcopy interpreter metadict
  let storletsMetadata ← getItem metadict "storlets"
  let storageMetadata ← getItem metadict "storage"
  let (fdtype, storletsMetadata) ← popType storletsMetadata
  return { fdtype, fileno, storletsMetadata, storageMetadata := Json.orEmpty storageMetadata }

/-- `zip` of the descriptors with what iterating the metadata gives: the items of a list, the
characters of a string, the keys of a dict. -/
def iterate : Json → Except PyException (List Json)
  | .arr items => .ok items
  | .str s => .ok (s.map fun c => .str [c])
  | .obj fields => .ok (fields.map fun field => .str field.1)
  | _ => .error .typeError

/-- `value.get(key)`, with the null of JSON as `None`. -/
def dictGet (value : Json) (key : Text) : Except PyException Json :=
  match value with
  | .obj fields => .ok ((fields.lookup key).getD .null)
  | _ => .error .attributeError

def Json.is (value : Json) (name : Text) : Bool :=
  match value with
  | .str s => s = name
  | _ => false

def requiredFdtypes (execute : Bool) : List Text :=
  if execute then
    ["SBUS_FD_SERVICE_OUT", "SBUS_FD_INPUT_OBJECT", "SBUS_FD_OUTPUT_OBJECT",
      "SBUS_FD_OUTPUT_OBJECT_METADATA", "SBUS_FD_LOGGER"]
  else ["SBUS_FD_SERVICE_OUT"]

/-- `_check_required_fdtypes`: the first types are the required ones. -/
def checkRequiredFdtypes : List SBusFileDescriptor → List Text → Bool
  | _, [] => true
  | [], _ :: _ => false
  | sfd :: sfds, name :: required => Json.is sfd.fdtype name && checkRequiredFdtypes sfds required

def buildDatagram (command : Json) (sfds : List SBusFileDescriptor) (params taskId : Json) :
    Except PyException SBusDatagram :=
  let execute := Json.is command "SBUS_CMD_EXECUTE"
  let extra := sfds.drop (requiredFdtypes true).length
  if execute && extra.any fun sfd => !Json.is sfd.fdtype "SBUS_FD_INPUT_OBJECT" then
    .error .valueError
  else if checkRequiredFdtypes sfds (requiredFdtypes execute) then
    .ok { command, sfds, params, taskId }
  else .error .valueError

def buildDatagramFromRawMessage (fds : List Nat) (strMd strCmdParams : Text) :
    Except PyException SBusDatagram := do
  let metadata ← loads interpreter strMd
  let cmdParams ← loads interpreter strCmdParams
  let command ← dictGet cmdParams "command"
  let params ← dictGet cmdParams "params"
  let taskId ← dictGet cmdParams "task_id"
  let items ← iterate metadata
  if fds.length ≠ items.length then throw .valueError
  else
    let sfds ← (fds.zip items).mapM fun (fileno, md) =>
      fromFilenoAndMetadataDict interpreter fileno md
    buildDatagram command sfds params taskId

/-- `SBus.receive`, on a message that was taken off the bus. -/
def receive (raw : RawMessage) : Except PyException SBusDatagram := do
  let strMetadata ← raw.metadata.decode
  let strParams ← raw.params.decode
  buildDatagramFromRawMessage interpreter raw.fds strMetadata strParams

end Building

/-! ## What a datagram is sent as -/

def SBusFileDescriptor.metadata (sfd : SBusFileDescriptor) : Json :=
  .obj [("storlets", .obj (PyDict.setItem "type".toList sfd.fdtype sfd.storletsMetadata)),
    ("storage", sfd.storageMetadata)]

namespace SBusDatagram

variable (dtg : SBusDatagram)

def fds : List Nat := dtg.sfds.map SBusFileDescriptor.fileno

def metadata : Json := .arr (dtg.sfds.map SBusFileDescriptor.metadata)

def cmdParams : Json :=
  .obj (("command".toList, dtg.command) ::
    ((if Json.truthy dtg.params then [("params".toList, dtg.params)] else []) ++
      if Json.truthy dtg.taskId then [("task_id".toList, dtg.taskId)] else []))

end SBusDatagram

/-- `_find_fd` of `SBUS_FD_SERVICE_OUT`. -/
def SBusDatagram.serviceOutFd (dtg : SBusDatagram) : Option Nat :=
  (dtg.sfds.find? fun sfd => Json.is sfd.fdtype "SBUS_FD_SERVICE_OUT").map (·.fileno)

end Storlets.Sbus
