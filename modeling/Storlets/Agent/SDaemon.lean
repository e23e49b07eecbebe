import Storlets.Sbus.InDatagram

set_option autoImplicit false

/-!
# The Java daemon

A command becomes a task object. A command without one ends the main loop.
-/

namespace Storlets.Sbus

open PyStr

/-! ## The thread pool -/

structure SExecutionManager where
  /-- Each future is known by its place among all that were submitted. -/
  taskIdToTask : Dict Nat := .empty
  /-- The `taskId_` of the submitted tasks. -/
  taskIds : List Text := []

namespace SExecutionManager

variable (manager : SExecutionManager)

def submitTask (taskId : Text) : SExecutionManager where
  taskIdToTask := manager.taskIdToTask.set taskId manager.taskIds.length
  taskIds := manager.taskIds ++ [taskId]

def cancelTask (taskId : Text) : Bool × SExecutionManager :=
  match manager.taskIdToTask.get? taskId with
  | none => (false, manager)
  | some _ => (true, { manager with taskIdToTask := manager.taskIdToTask.pop taskId })

def cleanupTask (taskId : Text) : SExecutionManager :=
  { manager with taskIdToTask := manager.taskIdToTask.pop taskId }

/-- The end of `run`; a storlet that raises leaves its task in the table. -/
def runEnds (task : Nat) (returns : Bool) : SExecutionManager :=
  match manager.taskIds[task]? with
  | some taskId => if returns then manager.cleanupTask taskId else manager
  | none => manager

end SExecutionManager

/-! ## Task objects -/

structure StorletInputStream where
  fd : Nat
  metadata : HashMap
  /-- Of a `RangeStorletInputStream`. -/
  range : Option (Int × Int) := none

structure SExecutionTask where
  sOut : Option Nat := none
  inStreams : List StorletInputStream := []
  /-- The descriptors of the data and of the metadata. -/
  outStreams : List (Nat × Nat) := []
  executionParams : HashMap
  storletLogger : Option Nat := none

inductive STask where
  | execution (task : SExecutionTask)
  | halt (sOut : Nat)
  | ping (sOut : Nat)
  | cancel (sOut : Nat) (taskId : Option Text)

/-- `Long.parseLong` of ASCII digits. -/
def parseLong (text : Text) : Except JavaException Int :=
  match int? text with
  | some value => if value < 2 ^ 63 then .ok value else .error .numberFormat
  | none => .error .numberFormat

def nonNull {α : Type} : Option α → Except JavaException α
  | some value => .ok value
  | none => .error .nullPointer

def createInStream (fd : Nat) (metadata : FileMetadata) : Except JavaException StorletInputStream :=
  match metadata.storlets.get "start", metadata.storlets.get "end" with
  | some start, some stop => do
      let start ← parseLong start
      let stop ← parseLong stop
      return { fd, metadata := metadata.storage, range := some (start, stop) }
  | _, _ => .ok { fd, metadata := metadata.storage }

/-- The metadata of a descriptor, and its type. -/
def typed (metadata : Option FileMetadata) : Except JavaException (FileMetadata × Text) :=
  match metadata with
  | none => .error .nullPointer
  | some metadata =>
      match metadata.storlets.get "type" with
      | none => .error .nullPointer
      | some strFDtype => .ok (metadata, strFDtype)

/-- The loop of `createExecutionTask` over the descriptors. -/
def collectFiles : List (Nat × Option FileMetadata) → SExecutionTask →
    Except JavaException SExecutionTask
  | [], task => .ok task
  | (fd, metadata) :: rest, task =>
      match typed metadata with
      | .error exception => .error exception
      | .ok (metadata, strFDtype) =>
          if strFDtype = "SBUS_FD_SERVICE_OUT".toList then
            collectFiles rest { task with sOut := some fd }
          else if strFDtype = "SBUS_FD_INPUT_OBJECT".toList then
            match createInStream fd metadata with
            | .error exception => .error exception
            | .ok stream => collectFiles rest { task with inStreams := task.inStreams ++ [stream] }
          else if strFDtype = "SBUS_FD_OUTPUT_OBJECT".toList then
            -- the next descriptor is taken for the metadata, whatever its type is
            match rest with
            | [] => .error .indexOutOfBounds
            | (next, nextMetadata) :: rest =>
                match typed nextMetadata with
                | .error exception => .error exception
                | .ok _ => collectFiles rest { task with outStreams := task.outStreams ++ [(fd, next)] }
          else if strFDtype = "SBUS_FD_LOGGER".toList then
            collectFiles rest { task with storletLogger := some fd }
          else collectFiles rest task

def createExecutionTask (dtg : ServerSBusInDatagram) : Except JavaException SExecutionTask :=
  collectFiles dtg.files { executionParams := dtg.params }

/-- The descriptor to answer on, of a command that takes no other. -/
def serviceOut (dtg : ServerSBusInDatagram) : Except JavaException (Option Nat) :=
  match dtg.files with
  | [(fd, metadata)] => do
      let (_, strFDType) ← typed metadata
      return if strFDType = "SBUS_FD_SERVICE_OUT".toList then some fd else none
  | _ => .ok none

def createHaltTask (dtg : ServerSBusInDatagram) : Except JavaException (Option STask) := do
  return (← serviceOut dtg).map .halt

def createPingTask (dtg : ServerSBusInDatagram) : Except JavaException (Option STask) := do
  return (← serviceOut dtg).map .ping

def createCancelTask (dtg : ServerSBusInDatagram) : Except JavaException (Option STask) := do
  return (← serviceOut dtg).map fun sOut => .cancel sOut dtg.taskId

def createStorletTask (dtg : ServerSBusInDatagram) : Except JavaException (Option STask) := do
  let command ← nonNull dtg.command
  if command = "SBUS_CMD_HALT".toList then createHaltTask dtg
  else if command = "SBUS_CMD_EXECUTE".toList then do
    let task ← createExecutionTask dtg
    return some (.execution task)
  else if command = "SBUS_CMD_PING".toList then createPingTask dtg
  else if command = "SBUS_CMD_CANCEL".toList then createCancelTask dtg
  else return none

theorem typed_some {metadata : FileMetadata} {name : Text}
    (named : metadata.storlets.get "type" = some name) :
    typed (some metadata) = .ok (metadata, name) := by
  simp only [typed, named]

section Walk

variable {fd : Nat} {metadata : FileMetadata} (rest : List (Nat × Option FileMetadata))
variable (task : SExecutionTask)

theorem collectFiles_serviceOut
    (named : metadata.storlets.get "type" = some "SBUS_FD_SERVICE_OUT".toList) :
    collectFiles ((fd, some metadata) :: rest) task =
      collectFiles rest { task with sOut := some fd } := by
  rw [collectFiles.eq_def]
  simp only [typed_some named]
  rw [if_pos trivial]

theorem collectFiles_input
    (named : metadata.storlets.get "type" = some "SBUS_FD_INPUT_OBJECT".toList)
    {stream : StorletInputStream} (creates : createInStream fd metadata = .ok stream) :
    collectFiles ((fd, some metadata) :: rest) task =
      collectFiles rest { task with inStreams := task.inStreams ++ [stream] } := by
  rw [collectFiles.eq_def]
  simp only [typed_some named]
  rw [if_neg (by decide), if_pos trivial, creates]

theorem collectFiles_output
    (named : metadata.storlets.get "type" = some "SBUS_FD_OUTPUT_OBJECT".toList) {next : Nat}
    {nextMetadata : FileMetadata} {name : Text}
    (nextNamed : nextMetadata.storlets.get "type" = some name) :
    collectFiles ((fd, some metadata) :: (next, some nextMetadata) :: rest) task =
      collectFiles rest { task with outStreams := task.outStreams ++ [(fd, next)] } := by
  rw [collectFiles.eq_def]
  simp only [typed_some named, typed_some nextNamed]
  rw [if_neg (by decide), if_neg (by decide), if_pos trivial]

theorem collectFiles_logger
    (named : metadata.storlets.get "type" = some "SBUS_FD_LOGGER".toList) :
    collectFiles ((fd, some metadata) :: rest) task =
      collectFiles rest { task with storletLogger := some fd } := by
  rw [collectFiles.eq_def]
  simp only [typed_some named]
  rw [if_neg (by decide), if_neg (by decide), if_neg (by decide), if_pos trivial]

end Walk

/-! ## The main loop -/

/-- The status that is answered, if any, and whether the main loop goes on. -/
structure Outcome where
  status : Option Bool
  goesOn : Bool
  deriving DecidableEq

/-- `exec`, when the answer can be written. -/
def STask.exec (task : STask) (uuid : Text) (manager : SExecutionManager) :
    Outcome × SExecutionManager :=
  match task with
  | .execution _ => (⟨some true, true⟩, manager.submitTask uuid)
  | .halt _ => (⟨some true, false⟩, manager)
  | .ping _ => (⟨some true, true⟩, manager)
  | .cancel _ taskId =>
      -- no task has a null id
      match taskId with
      | none => (⟨some false, true⟩, manager)
      | some taskId =>
          let (result, manager) := manager.cancelTask taskId
          (⟨some result, true⟩, manager)

/-- A turn of `mainLoop` with a message: it is received, and processed by `processDatagram`. -/
def processDatagram (fds : List Nat) (metadata cmdParams : Json) (uuid : Text)
    (manager : SExecutionManager) : Outcome × SExecutionManager :=
  match serverSBusInDatagram fds metadata cmdParams >>= createStorletTask with
  | .ok (some task) => task.exec uuid manager
  | .ok none | .error _ => (⟨none, false⟩, manager)

end Storlets.Sbus
