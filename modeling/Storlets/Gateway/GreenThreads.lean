import Storlets.Gateway.Invocation
import Storlets.Library.Threads

set_option autoImplicit false

/-!
# Invocations as green threads

`communicate` and `_write_input_data`, cut where another green thread may go on.
-/

namespace Storlets

open PyStr Effect Descriptors

/-- Which closing a piece does. -/
inductive CallPiece where
  | plain
  /-- The `except` of `communicate`. -/
  | cleanUp
  /-- The `finally` of `_write_input_data`, once the file object has been closed. -/
  | closesAgain (fd : Nat)
  deriving DecidableEq

abbrev CallThread := Thread CallPiece Raised CallState

namespace Green

section Calls

variable (me : Owner)

def plain {α : Type} (body : CallAction α) : CallThread α := Thread.atomic .plain body

/-! ## Requests to the daemon -/

def request (answer : RequestAnswer) : CallThread RequestEnding :=
  match answer with
  | .pipeFails => pure .raises
  | answer => do
      let readFd ← plain (startRequest me)
      -- the reply is waited for
      plain (osClose me (some readFd))
      pure answer.ending

def cancel (answer : RequestAnswer) : CallThread Bool := do
  let taskId ← plain (look fun state => state.protocol.taskId)
  let ending ← request me answer
  plain (when answer.sent (change fun state =>
    { state with protocol.cancelled := state.protocol.cancelled ++ taskId.toList }))
  match ending with
  | .replied true _ => pure false
  | .replied false _ | .clientException => pure true
  | .raises => Thread.throw .cancel

def sendExecuteCommand (answer : RequestAnswer) : CallThread Unit := do
  let ending ← request me answer
  match ending with
  | .replied true (some (c :: taskId)) =>
      plain (change fun state => { state with protocol.taskId := some (c :: taskId) })
  | _ => Thread.throw (.step .execute)

def openLogger : CallAction Nat := do
  let loggerFd ← osOpen me
  change fun state => { state with protocol.loggerFd := some loggerFd }
  pure loggerFd

def invoke (answers : CallAnswers) : CallThread Unit :=
  if answers.loggerFails then Thread.throw (.step .logger)
  else do
    let loggerFd ← plain (openLogger me)
    (plain (prepareInvocationDescriptors me answers) >>= fun _ =>
      (sendExecuteCommand me answers.execute).ensuring
        (plain (closeRemoteSideDescriptors me))).ensuring
      (plain (osClose me (some loggerFd)))

/-! ## The steps of the invocation -/

def waitForRead (answers : CallAnswers) (step : CallStep) (wait : Wait) : CallThread Unit :=
  match wait with
  | .ready => pure ()
  | .notReady | .raises => Thread.throw (.step step)
  | .timesOut => do
      let taskId ← plain (look fun state => state.protocol.taskId)
      match taskId with
      | none => Thread.throw (.step step)
      | some _ => do
          let _ ← cancel me answers.cancel
          Thread.throw (.step step)

def readMetadata (answers : CallAnswers) : CallThread Unit := do
  waitForRead me answers .metadataWait answers.metadataWait
  if answers.metadataReadFails then Thread.throw (.step .metadataRead)
  else do
    let fd ← plain (look fun state => state.protocol.metadataReadFd)
    plain (osClose me fd)
    -- the failure is logged
    if answers.metadataParseFails then Thread.throw (.step .metadataParse) else pure ()

variable (give : Nat → CallAction Unit)

/-- `give` makes the write end the writer's. -/
def handOver (answers : CallAnswers) (name : PipeName) (fd : Nat) : CallThread Unit :=
  plain (Storlets.handOver answers name fd >>= fun _ => give fd)

def communicateBody (answers : CallAnswers) : CallThread Unit := do
  invoke me answers
  let writeFds ← plain (look fun state => state.protocol.writeFds)
  Thread.forEach (fun (name, fd) => handOver give answers name fd) writeFds
  readMetadata me answers
  waitForRead me answers .dataWait answers.dataWait

def communicate (answers : CallAnswers) : CallThread Unit :=
  (communicateBody me give answers).handling fun raised => do
    Thread.atomic .cleanUp (closeLocalSideDescriptors me)
    Thread.throw raised

/-! ## Writers -/

/-- How a `_write_input_data` goes. -/
inductive WriterEnding where
  | fdopenFails
  | ends
  /-- A chunk, its writing or the closing of the file object raises. -/
  | raises
  deriving DecidableEq

/-- What is raised is logged before the `finally`. -/
def writeInputData (fd : Nat) : WriterEnding → CallThread Unit
  | .fdopenFails => plain (safeClose me [some fd])
  | .ends => plain (osClose me (some fd) >>= fun _ => safeClose me [some fd])
  | .raises => do
      plain (osClose me (some fd))
      Thread.atomic (.closesAgain fd) (safeClose me [some fd])

end Calls

/-! ## An invocation that is left alone -/

section Alone

variable (me : Owner)

@[simp] theorem run_plain {α : Type} (body : CallAction α) : (plain body).run = body := rfl

theorem run_request (answer : RequestAnswer) :
    (request me answer).run = Storlets.request me answer := by
  cases answer with
  | pipeFails => rfl
  | _ => simp only [request, Storlets.request, Thread.run_bind, run_plain, Thread.run_pure]

theorem run_cancel (answer : RequestAnswer) :
    (cancel me answer).run = Storlets.cancel me answer := by
  simp only [cancel, Storlets.cancel, Thread.run_bind, run_plain, run_request]
  congr! 5 with _ ending
  rcases ending with ⟨_ | _, _⟩ | _ | _ <;> rfl

theorem run_sendExecuteCommand (answer : RequestAnswer) :
    (sendExecuteCommand me answer).run = Storlets.sendExecuteCommand me answer := by
  simp only [sendExecuteCommand, Storlets.sendExecuteCommand, Thread.run_bind, run_request]
  congr! 2 with ending
  rcases ending with ⟨_ | _, _ | _ | ⟨_, _⟩⟩ | _ | _ <;> rfl

theorem run_invoke (answers : CallAnswers) :
    (invoke me answers).run = Storlets.invoke me answers := by
  simp only [invoke, Storlets.invoke]
  split
  · rfl
  · simp only [Thread.run_bind, Thread.run_ensuring, run_plain, run_sendExecuteCommand, openLogger]
    rfl

theorem run_waitForRead (answers : CallAnswers) (step : CallStep) (wait : Wait) :
    (waitForRead me answers step wait).run = Storlets.waitForRead me answers step wait := by
  cases wait with
  | timesOut =>
    simp only [waitForRead, Storlets.waitForRead, Thread.run_bind, run_plain]
    congr! 2 with taskId
    cases taskId with
    | none => rfl
    | some taskId =>
      simp only [Thread.run_bind, run_cancel]
      rfl
  | _ => rfl

theorem run_readMetadata (answers : CallAnswers) :
    (readMetadata me answers).run = Storlets.readMetadata me answers := by
  simp only [readMetadata, Storlets.readMetadata, Thread.run_bind, run_waitForRead]
  congr! 2
  split
  · rfl
  · simp only [Thread.run_bind, run_plain]
    congr! 4
    split <;> rfl

/-- Where nobody goes on in between, the pieces make up `communicate`. -/
theorem run_communicate (answers : CallAnswers) :
    (communicate me (fun _ => pure ()) answers).run = Storlets.communicate me answers := by
  have hands (name : PipeName) (fd : Nat) :
      (handOver (fun _ => pure ()) answers name fd).run = Storlets.handOver answers name fd := by
    simp only [handOver, run_plain]
    funext state
    rw [bind_apply]
    rcases Storlets.handOver answers name fd state with ⟨_ | _, _⟩ <;> rfl
  simp only [communicate, communicateBody, Storlets.communicate, Storlets.communicateBody,
    Thread.run_handling, Thread.run_bind, run_invoke, run_plain, Thread.run_forEach, hands,
    run_readMetadata, run_waitForRead]
  rfl

end Alone

end Green

end Storlets
