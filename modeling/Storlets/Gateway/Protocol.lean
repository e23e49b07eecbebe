import Storlets.Library.Descriptors
import Storlets.Library.Effects
import Storlets.Library.PyStr

set_option autoImplicit false

/-!
# The invocation protocol

What `communicate` does with descriptors and with the daemon, given how each of its steps ends.
-/

namespace Storlets

open PyStr Effect Descriptors

/-- Who has opened a descriptor: an invocation, or other code of the process. -/
inductive Owner where
  | call (id : Nat)
  | other
  deriving DecidableEq

inductive PipeName where
  | input
  | data
  | metadata
  | source (index : Nat)
  deriving DecidableEq

/-- The steps of `communicate` that may fail. -/
inductive CallStep where
  | logger
  | pipe (name : PipeName)
  | execute
  | writeWait (name : PipeName)
  | spawn (name : PipeName)
  | metadataWait
  | metadataRead
  | metadataParse
  | dataWait
  deriving DecidableEq

/-- The exceptions of `communicate`. -/
inductive Raised where
  | step (step : CallStep)
  /-- Of the CANCEL request, and no `SBusClientException`. -/
  | cancel
  /-- `os.close(None)`. -/
  | typeError
  /-- `os.close` of a number that is free. -/
  | ebadf
  deriving DecidableEq

/-- How a request of an `SBusClient` goes. -/
inductive RequestAnswer where
  | pipeFails
  | sendRaises
  | sendFails
  | readFails
  | malformed
  /-- The reply is no text, or no JSON object. -/
  | replyRaises
  | replied (status : Bool) (taskId : Option Text)

inductive RequestEnding where
  | replied (status : Bool) (taskId : Option Text)
  | clientException
  | raises
  deriving DecidableEq

def RequestAnswer.ending : RequestAnswer → RequestEnding
  | .pipeFails | .sendRaises | .replyRaises => .raises
  | .sendFails | .readFails | .malformed => .clientException
  | .replied status taskId => .replied status taskId

/-- The request has reached the daemon's socket. -/
def RequestAnswer.sent : RequestAnswer → Bool
  | .pipeFails | .sendRaises | .sendFails => false
  | _ => true

inductive Wait where
  | ready
  | timesOut
  | notReady
  | raises
  deriving DecidableEq

structure CallAnswers where
  loggerFails : Bool
  pipeFails : PipeName → Bool
  execute : RequestAnswer
  writeWait : PipeName → Wait
  spawnFails : PipeName → Bool
  metadataWait : Wait
  metadataReadFails : Bool
  metadataParseFails : Bool
  dataWait : Wait
  cancel : RequestAnswer

def smoothAnswers : CallAnswers where
  loggerFails := false
  pipeFails _ := false
  execute := .replied true (some ['t'])
  writeWait _ := .ready
  spawnFails _ := false
  metadataWait := .ready
  metadataReadFails := false
  metadataParseFails := false
  dataWait := .ready
  cancel := .replied true none

/-- A `StorletInvocationProtocol` object. -/
structure Protocol where
  /-- The data is read from a descriptor of the server, not from an iterator. -/
  hasFd : Bool
  /-- How many extra data sources there are. -/
  extra : Nat
  dataReadFd : Option Nat := none
  dataWriteFd : Option Nat := none
  metadataReadFd : Option Nat := none
  metadataWriteFd : Option Nat := none
  inputReadFd : Option Nat := none
  inputWriteFd : Option Nat := none
  /-- The read and the write descriptors of the extra sources. -/
  extraDataSources : List (Nat × Nat) := []
  loggerFd : Option Nat := none
  taskId : Option Text := none
  /-- Every descriptor `os.pipe` has returned. -/
  piped : List Nat := []
  /-- The write ends that were handed to a `_write_input_data`. -/
  writers : List Nat := []
  /-- The task ids a CANCEL was sent for. -/
  cancelled : List Text := []

structure CallState where
  table : Table Owner
  protocol : Protocol
  /-- The descriptors that were closed and belonged to somebody else. -/
  strays : List Nat := []

abbrev CallAction := Effect Raised CallState

section Calls

variable (me : Owner)

/-! ## Descriptors -/

def osOpen : CallAction Nat := do
  let fd ← look fun state => (install me state.table).1
  change fun state => { state with table := (install me state.table).2 }
  pure fd

def osPipe : CallAction (Nat × Nat) := do
  let readFd ← osOpen me
  let writeFd ← osOpen me
  change fun state =>
    { state with protocol.piped := state.protocol.piped ++ [readFd, writeFd] }
  pure (readFd, writeFd)

def osClose (fd : Option Nat) : CallAction Unit :=
  match fd with
  | none => throw .typeError
  | some fd => do
      let owner ← look fun state => state.table.get? fd
      match owner with
      | none => throw .ebadf
      | some owner =>
          change fun state =>
            { state with
              table := state.table.pop fd
              strays := if owner = me then state.strays else state.strays ++ [fd] }

/-- The `except OSError` of `_safe_close`. -/
def ignoringEbadf : Raised → CallAction Unit
  | .ebadf => pure ()
  | raised => throw raised

def safeClose (fds : List (Option Nat)) : CallAction Unit :=
  forEach (fun _ fd => (osClose me fd).handling ignoringEbadf) () fds

def closeAll (fds : List (Option Nat)) : CallAction Unit :=
  forEach (fun _ fd => osClose me fd) () fds

/-- `os.pipe` for the invocation. -/
def pipe (answers : CallAnswers) (name : PipeName) : CallAction (Nat × Nat) :=
  if answers.pipeFails name then throw (.step (.pipe name)) else osPipe me

def prepareSources (answers : CallAnswers) (indices : List Nat) : CallAction Unit :=
  forEach (fun _ index => do
    let source ← pipe me answers (.source index)
    change fun state =>
      { state with
        protocol.extraDataSources := state.protocol.extraDataSources ++ [source] })
    () indices

/-- `_prepare_invocation_descriptors` after the input pipe. -/
def prepareOutputs (answers : CallAnswers) : CallAction Unit := do
  let (readFd, writeFd) ← pipe me answers .data
  change fun state =>
    { state with protocol.dataReadFd := some readFd, protocol.dataWriteFd := some writeFd }
  let (readFd, writeFd) ← pipe me answers .metadata
  change fun state =>
    { state with
      protocol.metadataReadFd := some readFd, protocol.metadataWriteFd := some writeFd }
  let extra ← look fun state => state.protocol.extra
  prepareSources me answers (List.range extra)

def prepareInvocationDescriptors (answers : CallAnswers) : CallAction Unit := do
  let hasFd ← look fun state => state.protocol.hasFd
  if hasFd then prepareOutputs me answers
  else do
    let (readFd, writeFd) ← pipe me answers .input
    change fun state =>
      { state with protocol.inputReadFd := some readFd, protocol.inputWriteFd := some writeFd }
    prepareOutputs me answers

def closeRemoteSideDescriptors : CallAction Unit := do
  let protocol ← look CallState.protocol
  closeAll me ([protocol.dataWriteFd, protocol.metadataWriteFd] ++
    (protocol.inputReadFd.map some).toList ++ protocol.extraDataSources.map fun source => some source.1)

def closeLocalSideDescriptors : CallAction Unit := do
  let protocol ← look CallState.protocol
  safeClose me [protocol.dataReadFd, protocol.metadataReadFd]

/-! ## Requests to the daemon -/

/-- The part of `_request` up to the reply; the descriptor it is read from. -/
def startRequest : CallAction Nat := do
  let (readFd, writeFd) ← osPipe me
  osClose me (some writeFd)
  pure readFd

def request (answer : RequestAnswer) : CallAction RequestEnding :=
  match answer with
  | .pipeFails => pure .raises
  | answer => do
      let readFd ← startRequest me
      osClose me (some readFd)
      pure answer.ending

/-- Whether a `StorletRuntimeException` is raised. -/
def cancel (answer : RequestAnswer) : CallAction Bool := do
  let taskId ← look fun state => state.protocol.taskId
  let ending ← request me answer
  when answer.sent (change fun state =>
    { state with protocol.cancelled := state.protocol.cancelled ++ taskId.toList })
  match ending with
  | .replied true _ => pure false
  | .replied false _ | .clientException => pure true
  | .raises => throw .cancel

def sendExecuteCommand (answer : RequestAnswer) : CallAction Unit := do
  let ending ← request me answer
  match ending with
  | .replied true (some (c :: taskId)) =>
      change fun state => { state with protocol.taskId := some (c :: taskId) }
  -- an empty task id is a missing one
  | _ => throw (.step .execute)

def invoke (answers : CallAnswers) : CallAction Unit :=
  if answers.loggerFails then throw (.step .logger)
  else do
    let loggerFd ← osOpen me
    change fun state => { state with protocol.loggerFd := some loggerFd }
    (prepareInvocationDescriptors me answers >>= fun _ =>
      (sendExecuteCommand me answers.execute).ensuring (closeRemoteSideDescriptors me)).ensuring
        (osClose me (some loggerFd))

/-! ## The steps of the invocation -/

def waitForRead (answers : CallAnswers) (step : CallStep) (wait : Wait) : CallAction Unit :=
  match wait with
  | .ready => pure ()
  | .notReady | .raises => throw (.step step)
  | .timesOut => do
      let taskId ← look fun state => state.protocol.taskId
      match taskId with
      | none => throw (.step step)
      | some _ => do
          -- a warning is logged when this fails
          let _ ← cancel me answers.cancel
          throw (.step step)

def readMetadata (answers : CallAnswers) : CallAction Unit := do
  waitForRead me answers .metadataWait answers.metadataWait
  if answers.metadataReadFails then throw (.step .metadataRead)
  else do
    let fd ← look fun state => state.protocol.metadataReadFd
    osClose me fd
    if answers.metadataParseFails then throw (.step .metadataParse) else pure ()

/-- Waits for a write end and hands it to a green thread. -/
def handOver (answers : CallAnswers) (name : PipeName) (fd : Nat) : CallAction Unit :=
  if answers.writeWait name ≠ .ready then throw (.step (.writeWait name))
  else if answers.spawnFails name then throw (.step (.spawn name))
  else change fun state => { state with protocol.writers := state.protocol.writers ++ [fd] }

/-- The write ends, each under the name of its pipe. -/
def Protocol.writeFds (protocol : Protocol) : List (PipeName × Nat) :=
  (protocol.inputWriteFd.map fun fd => (.input, fd)).toList ++
    protocol.extraDataSources.mapIdx fun index source => (.source index, source.2)

def communicateBody (answers : CallAnswers) : CallAction Unit := do
  invoke me answers
  let writeFds ← look fun state => state.protocol.writeFds
  forEach (fun _ (name, fd) => handOver answers name fd) () writeFds
  readMetadata me answers
  waitForRead me answers .dataWait answers.dataWait

def communicate (answers : CallAnswers) : CallAction Unit :=
  (communicateBody me answers).handling fun raised => do
    closeLocalSideDescriptors me
    throw raised

end Calls

end Storlets
