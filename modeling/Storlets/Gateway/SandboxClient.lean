import Storlets.Gateway.RunTimePaths
import Storlets.Sbus.Client

set_option autoImplicit false

/-!
# The gateway's requests to a sandbox

Every one of them catches `SBusClientException` and nothing else.
-/

namespace Storlets

open PyStr Sbus

inductive SandboxException where
  | storletRuntimeException (message : String)
  | other (exception : PyException)

namespace SBusClient

def ping : ClientCall := { command := "SBUS_CMD_PING".toList }

def startDaemon (language storletPath storletId udsPath logLevel : Text) (poolSize : Int)
    (languageVersion : Json) : ClientCall :=
  { command := "SBUS_CMD_START_DAEMON".toList
    params := .obj
      ([("daemon_language".toList, .str language), ("storlet_path".toList, .str storletPath),
        ("storlet_name".toList, .str storletId), ("uds_path".toList, .str udsPath),
        ("log_level".toList, .str logLevel), ("pool_size".toList, .int poolSize)] ++
      if Json.truthy languageVersion then [("daemon_language_version".toList, languageVersion)]
      else []) }

def stopDaemon (storletName : Text) : ClientCall :=
  { command := "SBUS_CMD_STOP_DAEMON".toList
    params := .obj [("storlet_name".toList, .str storletName)] }

def daemonStatus (storletName : Text) : ClientCall :=
  { command := "SBUS_CMD_DAEMON_STATUS".toList
    params := .obj [("storlet_name".toList, .str storletName)] }

def cancel (taskId : Json) : ClientCall := { command := "SBUS_CMD_CANCEL".toList, taskId }

end SBusClient

/-- `try: answer(request()) except SBusClientException: handler`. -/
def exceptSBusClient {α : Type} (attempt : Except ClientException SBusResponse)
    (answer : SBusResponse → Except SandboxException α) (handler : Except SandboxException α) :
    Except SandboxException α :=
  match attempt with
  | .ok resp => answer resp
  | .error (.client _) => handler
  | .error (.other exception) => .error (.other exception)

structure RunTimeSandbox where
  storletDaemonDebugLevel : Text
  storletDaemonThreadPoolSize : Int

section Requests

variable (limits : Json.Limits) (writeFd : Nat) (peer : ClientPeer)

/-- A request whose failure has one message, whatever fails. -/
def requestOrFail (call : ClientCall) (message : String) : Except SandboxException Unit :=
  exceptSBusClient (Sbus.request limits call writeFd peer).result
    (fun resp =>
      if Json.truthy resp.status then .ok () else .error (.storletRuntimeException message))
    (.error (.storletRuntimeException message))

namespace RunTimeSandbox

variable (sandbox : RunTimeSandbox)

def ping : Except SandboxException Json :=
  exceptSBusClient (Sbus.request limits SBusClient.ping writeFd peer).result
    (fun resp => .ok resp.status) (.ok (.bool false))

def startStorletDaemon (spath storletId language : Text) (languageVersion : Json) :
    Except SandboxException Unit :=
  requestOrFail limits writeFd peer
    (SBusClient.startDaemon (lower language) spath storletId
      (RunTimePaths.getSboxStorletPipe storletId) sandbox.storletDaemonDebugLevel
      sandbox.storletDaemonThreadPoolSize languageVersion)
    "Daemon start failed"

def stopStorletDaemon (storletId : Text) : Except SandboxException Unit :=
  requestOrFail limits writeFd peer (SBusClient.stopDaemon storletId) "Daemon stop failed"

def getStorletDaemonStatus (storletId : Text) : Except SandboxException Bool :=
  exceptSBusClient (Sbus.request limits (SBusClient.daemonStatus storletId) writeFd peer).result
    (fun resp => .ok (Json.truthy resp.status))
    (.error (.storletRuntimeException "Failed to get status about storlet daemon"))

end RunTimeSandbox

/-- `StorletInvocationProtocol._cancel`. -/
def cancelTask (taskId : Json) : Except SandboxException Unit :=
  requestOrFail limits writeFd peer (SBusClient.cancel taskId) "Failed to cancel task"

end Requests

/-- Nothing but a `StorletRuntimeException` leaves the call. -/
def OnlyRuntime {α : Type} (result : Except SandboxException α) : Prop :=
  ∀ exception, result ≠ .error (.other exception)

theorem onlyRuntime_raised {α : Type} (message : String) :
    OnlyRuntime (.error (.storletRuntimeException message) : Except SandboxException α) :=
  fun _ raised => nomatch raised

theorem onlyRuntime_ok {α : Type} (value : α) :
    OnlyRuntime (.ok value : Except SandboxException α) :=
  fun _ raised => nomatch raised

/-- What escapes is what the client raises outside its own family. -/
theorem exceptSBusClient_onlyRuntime_iff {α : Type} {attempt : Except ClientException SBusResponse}
    {answer : SBusResponse → Except SandboxException α} {handler : Except SandboxException α}
    (answered : ∀ resp, OnlyRuntime (answer resp)) (handles : OnlyRuntime handler) :
    OnlyRuntime (exceptSBusClient attempt answer handler) ↔ Handled attempt := by
  rcases attempt with (error | exception) | resp
  · exact iff_of_true handles fun _ raised => nomatch raised
  · exact iff_of_false (fun only => only exception rfl) fun handled =>
      handled exception rfl
  · exact iff_of_true (answered resp) fun _ raised => nomatch raised

section Proofs

variable {limits : Json.Limits} {writeFd : Nat} {peer : ClientPeer}

/-- A request with no descriptor of the caller's is put together, unless it is an execution. -/
theorem builds_alone {call : ClientCall} (alone : call.extraFds = [])
    (other : Json.is (.str call.command) "SBUS_CMD_EXECUTE" = false) : call.Builds writeFd := by
  unfold ClientCall.Builds ClientCall.datagram buildDatagram
  rw [alone, other]
  exact ⟨_, rfl⟩

theorem request_alone_iff {call : ClientCall} (alone : call.extraFds = [])
    (other : Json.is (.str call.command) "SBUS_CMD_EXECUTE" = false) :
    Handled (Sbus.request limits call writeFd peer).result ↔
      peer.rc < 0 ∨ peer.fails ∨ Readable limits peer.reply :=
  (request_handled_iff call writeFd peer).trans (and_iff_right (builds_alone alone other))

theorem requestOrFail_onlyRuntime_iff {call : ClientCall} (message : String)
    (alone : call.extraFds = [])
    (other : Json.is (.str call.command) "SBUS_CMD_EXECUTE" = false) :
    OnlyRuntime (requestOrFail limits writeFd peer call message) ↔
      peer.rc < 0 ∨ peer.fails ∨ Readable limits peer.reply := by
  refine (exceptSBusClient_onlyRuntime_iff (fun resp => ?_) (onlyRuntime_raised message)).trans
    (request_alone_iff alone other)
  split
  · exact onlyRuntime_ok ()
  · exact onlyRuntime_raised message

theorem ping_onlyRuntime_iff : OnlyRuntime (RunTimeSandbox.ping limits writeFd peer) ↔
    peer.rc < 0 ∨ peer.fails ∨ Readable limits peer.reply :=
  (exceptSBusClient_onlyRuntime_iff (fun _ => onlyRuntime_ok _) (onlyRuntime_ok _)).trans
    (request_alone_iff rfl (by decide))

/-- What becomes of a reply: the ends of the pipe are closed whatever happens, and no exception
of another family leaves the client, or those that call it, as long as the text can be told to be
that of an object or of nothing. -/
theorem replies_handled_iff (limits : Json.Limits) (writeFd : Nat) (peer : ClientPeer) :
    (∀ call, (Sbus.request limits call writeFd peer).trace.count .closeRead = 1 ∧
      (Sbus.request limits call writeFd peer).trace.count .closeWrite = 1 ∧
      (Handled (Sbus.request limits call writeFd peer).result ↔ call.Builds writeFd ∧
        (peer.rc < 0 ∨ peer.fails ∨ Readable limits peer.reply))) ∧
    ∀ (sandbox : RunTimeSandbox) (spath storletId language : Text) (languageVersion taskId : Json),
      (OnlyRuntime (RunTimeSandbox.ping limits writeFd peer) ↔
        peer.rc < 0 ∨ peer.fails ∨ Readable limits peer.reply) ∧
      (OnlyRuntime (sandbox.startStorletDaemon limits writeFd peer spath storletId language
        languageVersion) ↔ peer.rc < 0 ∨ peer.fails ∨ Readable limits peer.reply) ∧
      (OnlyRuntime (RunTimeSandbox.stopStorletDaemon limits writeFd peer storletId) ↔
        peer.rc < 0 ∨ peer.fails ∨ Readable limits peer.reply) ∧
      (OnlyRuntime (RunTimeSandbox.getStorletDaemonStatus limits writeFd peer storletId) ↔
        peer.rc < 0 ∨ peer.fails ∨ Readable limits peer.reply) ∧
      (OnlyRuntime (cancelTask limits writeFd peer taskId) ↔
        peer.rc < 0 ∨ peer.fails ∨ Readable limits peer.reply) := by
  constructor
  · intro call
    obtain ⟨reading, writing⟩ := request_closes limits call writeFd peer
    exact ⟨reading, writing, request_handled_iff call writeFd peer⟩
  intro sandbox spath storletId language languageVersion taskId
  refine ⟨?_, ?_, ?_, ?_, ?_⟩
  · exact ping_onlyRuntime_iff
  · exact requestOrFail_onlyRuntime_iff _ rfl rfl
  · exact requestOrFail_onlyRuntime_iff _ rfl rfl
  · exact (exceptSBusClient_onlyRuntime_iff (fun _ => onlyRuntime_ok _)
      (onlyRuntime_raised _)).trans (request_alone_iff rfl rfl)
  · exact requestOrFail_onlyRuntime_iff _ rfl rfl

/-- A ping that is answered with an empty array raises a `TypeError`. -/
theorem array_reply_escapes : ¬ ∀ (limits : Json.Limits) (writeFd : Nat) (peer : ClientPeer),
    OnlyRuntime (RunTimeSandbox.ping limits writeFd peer) := by
  intro always
  let peer : ClientPeer := ⟨0, [[91, 93]], by simp, false⟩
  rcases ping_onlyRuntime_iff.mp (always ⟨9, 9⟩ 4 peer) with
    sent | failed | ⟨text, decoded, -, object⟩
  · exact absurd sent (by decide)
  · exact Bool.noConfusion failed
  · have bytes : peer.reply = encodeUtf8 "[]".toList := by decide
    have same : decodeUtf8 peer.reply = some "[]".toList := by
      rw [bytes, decodeUtf8_encodeUtf8]
    obtain rfl := Option.some.inj (decoded.symm.trans same)
    obtain ⟨fields, item⟩ := object (.arr []) rfl
    cases item

end Proofs

end Storlets
