import Storlets.Library.JsonDepth
import Storlets.Library.Traced
import Storlets.Sbus.Transport

set_option autoImplicit false

/-!
# The client of the bus

A request passes a pipe to the server and reads the reply until the server closes it.
-/

namespace Storlets.Sbus

open PyStr Traced

/-- The subclasses of `SBusClientException`. -/
inductive SBusClientError where
  | ioError
  | sendError
  | malformedResponse
  deriving DecidableEq

inductive ClientException where
  | client (error : SBusClientError)
  | other (exception : PyException)
  deriving DecidableEq

/-- What happens to the ends of the pipe, and to the request. -/
inductive ClientEvent where
  | send
  | read
  | closeRead
  | closeWrite
  deriving DecidableEq

structure SBusResponse where
  status : Json
  message : Json
  /-- The null of JSON stands for `None`. -/
  taskId : Json

section Request

variable (limits : Json.Limits)

/-- `json.loads` of a reply, with a `RecursionError` told apart. -/
def loadsReply (text : Text) : Except PyException Json :=
  if Json.exhausts limits limits.depth (Json.skipSpace text) then .error .recursionError
  else match Json.loads limits text with
    | some value => .ok value
    | none => .error .valueError

def parseFields (strResponse : Text) : Except PyException (Json × Json × Json) := do
  let resp ← loadsReply limits strResponse
  let status ← getItem resp "status"
  let message ← getItem resp "message"
  return (resp, status, message)

def parseResponse (strResponse : Text) : Except ClientException SBusResponse :=
  match parseFields limits strResponse with
  | .ok (resp, status, message) =>
      match dictGet resp "task_id" with
      | .ok taskId => .ok ⟨status, message, taskId⟩
      | .error exception => .error (.other exception)
  | .error .valueError | .error .keyError => .error (.client .malformedResponse)
  | .error exception => .error (.other exception)

def parseReply (reply : List UInt8) : Except ClientException SBusResponse :=
  match decodeUtf8 reply with
  | some text => parseResponse limits text
  | none => .error (.other .valueError)

/-- A request: what its datagram is made of, besides the end of the pipe. -/
structure ClientCall where
  command : Text
  params : Json := .null
  taskId : Json := .null
  extraFds : List SBusFileDescriptor := []

/-- What `sbus_send_msg` returns, and the reads of the reply: chunks, and then the end of the
file or an `IOError`. -/
structure ClientPeer where
  rc : Int
  chunks : List (List UInt8)
  given : ∀ chunk ∈ chunks, chunk ≠ []
  fails : Bool

def ClientPeer.reply (peer : ClientPeer) : List UInt8 := peer.chunks.flatten

def ClientCall.datagram (call : ClientCall) (writeFd : Nat) : Except PyException SBusDatagram :=
  buildDatagram (.str call.command)
    (⟨.str "SBUS_FD_SERVICE_OUT".toList, writeFd, [], .obj []⟩ :: call.extraFds)
    call.params call.taskId

/-- `try … finally` with one event in the `finally`. -/
def closing {α : Type} (body : Traced ClientException ClientEvent α) (event : ClientEvent) :
    Traced ClientException ClientEvent α :=
  ⟨body.trace ++ [event], body.result⟩

def sendDatagram (call : ClientCall) (writeFd : Nat) (rc : Int) :
    Traced ClientException ClientEvent Unit := do
  let _ ← lift ((call.datagram writeFd).mapError .other)
  emit .send
  if rc < 0 then throw (.client .sendError)

def readReply (fails : Bool) :
    List (List UInt8) → List UInt8 → Traced ClientException ClientEvent (List UInt8)
  | [], reply => do
      emit .read
      if fails then throw (.client .ioError)
      return reply
  | buf :: chunks, reply => do
      emit .read
      if buf = [] then return reply
      readReply fails chunks (reply ++ buf)

/-- `_request`, once `os.pipe` has made the two ends. -/
def request (call : ClientCall) (writeFd : Nat) (peer : ClientPeer) :
    Traced ClientException ClientEvent SBusResponse := do
  let reply ← closing (do
    closing (sendDatagram call writeFd peer.rc) .closeWrite
    readReply peer.fails peer.chunks []) .closeRead
  lift (parseReply limits reply)

/-- A response is returned, or a subclass of `SBusClientException` is raised. -/
def Handled {α : Type} (result : Except ClientException α) : Prop :=
  ∀ exception, result ≠ .error (.other exception)

def ClientCall.Builds (call : ClientCall) (writeFd : Nat) : Prop :=
  ∃ dtg, call.datagram writeFd = .ok dtg

/-- The reply is UTF-8 and, where the interpreter can tell, no JSON text but one of an object. -/
def Readable (reply : List UInt8) : Prop :=
  ∃ text, decodeUtf8 reply = some text ∧
    Json.exhausts limits limits.depth (Json.skipSpace text) = false ∧
    ∀ value, Json.loads limits text = some value → ∃ fields, value = .obj fields

end Request

section Proofs

variable {limits : Json.Limits}

theorem getItem_obj {fields : List (Text × Json)} {key : Text} {exception : PyException}
    (missing : getItem (.obj fields) key = .error exception) : exception = .keyError := by
  unfold getItem at missing
  dsimp only at missing
  split at missing
  · cases missing
  · exact (Except.error.inj missing).symm

theorem parseResponse_handled_iff (text : Text) : Handled (parseResponse limits text) ↔
    Json.exhausts limits limits.depth (Json.skipSpace text) = false ∧
      ∀ value, Json.loads limits text = some value → ∃ fields, value = .obj fields := by
  unfold parseResponse parseFields loadsReply
  cases deep : Json.exhausts limits limits.depth (Json.skipSpace text) with
  | true => exact iff_of_false (fun handled => handled _ rfl) fun both => Bool.noConfusion both.1
  | false =>
    rw [if_neg Bool.false_ne_true]
    rcases read : Json.loads limits text with _ | value
    · exact iff_of_true (fun exception raised => nomatch raised) ⟨rfl, fun _ none => nomatch none⟩
    · have object : (∀ other, some value = some other → ∃ fields, other = .obj fields) ↔
          ∃ fields, value = .obj fields :=
        ⟨fun always => always value rfl, fun given _ same => Option.some.inj same ▸ given⟩
      rw [object, and_iff_right rfl]
      cases value with
      | obj fields =>
        refine iff_of_true (fun exception raised => ?_) ⟨fields, rfl⟩
        dsimp only [bind, Except.bind] at raised
        rcases status : getItem (.obj fields) "status" with missing | value
        · obtain rfl := getItem_obj status
          rw [status] at raised
          cases raised
        · rw [status] at raised
          dsimp only at raised
          rcases message : getItem (.obj fields) "message" with missing | text
          · obtain rfl := getItem_obj message
            rw [message] at raised
            cases raised
          · rw [message] at raised
            cases raised
      | _ =>
        refine iff_of_false (fun handled => handled .typeError rfl) ?_
        rintro ⟨fields, same⟩
        cases same

theorem parseReply_handled_iff (reply : List UInt8) :
    Handled (parseReply limits reply) ↔ Readable limits reply := by
  unfold parseReply Readable
  rcases decoded : decodeUtf8 reply with _ | text
  · refine iff_of_false (fun handled => handled .valueError rfl) ?_
    rintro ⟨text, same, -⟩
    cases same
  · refine (parseResponse_handled_iff text).trans ⟨fun parses => ⟨text, rfl, parses⟩, ?_⟩
    rintro ⟨other, same, parses⟩
    rwa [Option.some.inj same]

theorem closing_ok {α β : Type} {body : Traced ClientException ClientEvent α}
    {next : α → Traced ClientException ClientEvent β} {event : ClientEvent} {value : α}
    (ends : body.result = .ok value) :
    (closing body event >>= next).result = (next value).result := by
  have closed : (closing body event).result = .ok value := ends
  rw [bind_of_ok closed]

theorem closing_error {α β : Type} {body : Traced ClientException ClientEvent α}
    {next : α → Traced ClientException ClientEvent β} {event : ClientEvent}
    {exception : ClientException} (ends : body.result = .error exception) :
    (closing body event >>= next).result = .error exception := by
  have closed : (closing body event).result = .error exception := ends
  rw [bind_of_error closed]

theorem readReply_spec (fails : Bool) {chunks : List (List UInt8)}
    (given : ∀ chunk ∈ chunks, chunk ≠ []) (reply : List UInt8) :
    (readReply fails chunks reply).result =
        (if fails then .error (.client .ioError) else .ok (reply ++ chunks.flatten)) ∧
      ∀ event ∈ (readReply fails chunks reply).trace, event = .read := by
  induction chunks generalizing reply with
  | nil =>
    rw [List.flatten_nil, List.append_nil]
    cases fails <;> exact ⟨rfl, fun event inside => List.mem_singleton.mp inside⟩
  | cons buf chunks ih =>
    have some : buf ≠ [] := given buf (List.mem_cons_self ..)
    obtain ⟨result, trace⟩ := ih (fun chunk inside => given chunk (List.mem_cons_of_mem _ inside))
      (reply ++ buf)
    unfold readReply
    rw [if_neg some, emit_bind]
    constructor
    · rw [List.flatten_cons, ← List.append_assoc]
      exact result
    · intro event inside
      rcases List.mem_cons.mp inside with rfl | later
      · rfl
      · exact trace event later

theorem sendDatagram_spec (call : ClientCall) (writeFd : Nat) (rc : Int) :
    (∀ exception, call.datagram writeFd = .error exception →
      (sendDatagram call writeFd rc).result = .error (.other exception)) ∧
    (∀ dtg, call.datagram writeFd = .ok dtg → (sendDatagram call writeFd rc).result =
      if rc < 0 then .error (.client .sendError) else .ok ()) ∧
    ∀ event ∈ (sendDatagram call writeFd rc).trace, event = .send := by
  unfold sendDatagram
  rcases call.datagram writeFd with exception | dtg
  · refine ⟨fun other same => ?_, fun _ same => (nomatch same), fun _ inside => nomatch inside⟩
    rw [← Except.error.inj same]
    rfl
  · refine ⟨fun _ same => (nomatch same), fun _ _ => ?_, ?_⟩ <;> by_cases failed : rc < 0
    · simp [Except.mapError, failed]
    · simp [Except.mapError, failed]
    · simp [Except.mapError, failed]
    · simp [Except.mapError, failed]

theorem request_trace (limits : Json.Limits) (call : ClientCall) (writeFd : Nat)
    (peer : ClientPeer) : ∃ front back, (∀ event ∈ front, event = .send) ∧
    (∀ event ∈ back, event = .read) ∧
    (request limits call writeFd peer).trace = front ++ .closeWrite :: (back ++ [.closeRead]) := by
  obtain ⟨-, -, sends⟩ := sendDatagram_spec call writeFd peer.rc
  obtain ⟨-, reads⟩ := readReply_spec peer.fails peer.given []
  unfold request
  rcases sent : (sendDatagram call writeFd peer.rc).result with exception | done
  · have inner : (closing (sendDatagram call writeFd peer.rc) .closeWrite).result =
      .error exception := sent
    refine ⟨_, [], sends, fun _ inside => (nomatch inside), ?_⟩
    rw [bind_of_error inner, bind_of_error rfl]
    exact List.append_assoc ..
  · have inner : (closing (sendDatagram call writeFd peer.rc) .closeWrite).result =
      .ok done := sent
    refine ⟨_, _, sends, reads, ?_⟩
    rw [bind_of_ok inner]
    rcases received : (readReply peer.fails peer.chunks []).result with exception | reply
    · rw [bind_of_error rfl]
      simp [closing]
    · rw [bind_of_ok rfl]
      simp [closing]

/-- Both ends of the pipe are closed, once each. -/
theorem request_closes (limits : Json.Limits) (call : ClientCall) (writeFd : Nat)
    (peer : ClientPeer) :
    (request limits call writeFd peer).trace.count .closeRead = 1 ∧
      (request limits call writeFd peer).trace.count .closeWrite = 1 := by
  obtain ⟨front, back, sends, reads, trace⟩ := request_trace limits call writeFd peer
  have early {event : ClientEvent} (other : event ≠ .send) : front.count event = 0 :=
    List.count_eq_zero.mpr fun inside => other (sends event inside)
  have late {event : ClientEvent} (other : event ≠ .read) : back.count event = 0 :=
    List.count_eq_zero.mpr fun inside => other (reads event inside)
  rw [trace]
  simp [List.count_append, early, late]

theorem request_unbuilt {call : ClientCall} {writeFd : Nat} {exception : PyException}
    (unbuilt : call.datagram writeFd = .error exception) (peer : ClientPeer) :
    (request limits call writeFd peer).result = .error (.other exception) := by
  obtain ⟨raises, -, -⟩ := sendDatagram_spec call writeFd peer.rc
  exact closing_error (closing_error (raises exception unbuilt))

/-- What a request ends with, once its datagram is built. -/
theorem request_result (limits : Json.Limits) {call : ClientCall} {writeFd : Nat} {dtg : SBusDatagram}
    (built : call.datagram writeFd = .ok dtg) (peer : ClientPeer) :
    (peer.rc < 0 →
      (request limits call writeFd peer).result = .error (.client .sendError)) ∧
    (¬ peer.rc < 0 → peer.fails →
      (request limits call writeFd peer).result = .error (.client .ioError)) ∧
    (¬ peer.rc < 0 → ¬ peer.fails →
      (request limits call writeFd peer).result = parseReply limits peer.reply) := by
  obtain ⟨-, sent, -⟩ := sendDatagram_spec call writeFd peer.rc
  obtain ⟨received, -⟩ := readReply_spec peer.fails peer.given []
  have sent := sent dtg built
  by_cases failed : peer.rc < 0
  · rw [if_pos failed] at sent
    exact ⟨fun _ => closing_error (closing_error sent), fun went => absurd failed went,
      fun went => absurd failed went⟩
  · rw [if_neg failed] at sent
    refine ⟨fun went => absurd went failed, fun _ fails => ?_, fun _ fails => ?_⟩
    · rw [if_pos fails] at received
      exact closing_error ((closing_ok sent).trans received)
    · rw [if_neg fails] at received
      exact closing_ok ((closing_ok sent).trans received)

/-- What a request ends with. -/
theorem request_handled_iff (call : ClientCall) (writeFd : Nat) (peer : ClientPeer) :
    Handled (request limits call writeFd peer).result ↔ call.Builds writeFd ∧
      (peer.rc < 0 ∨ peer.fails ∨ Readable limits peer.reply) := by
  rcases built : call.datagram writeFd with exception | dtg
  · rw [request_unbuilt built]
    refine iff_of_false (fun handled => handled exception rfl) ?_
    rintro ⟨⟨dtg, builds⟩, -⟩
    cases built.symm.trans builds
  · obtain ⟨unsent, unread, read⟩ := request_result limits built peer
    have builds : call.Builds writeFd := ⟨dtg, built⟩
    by_cases failed : peer.rc < 0
    · rw [unsent failed]
      exact iff_of_true (fun _ raised => nomatch raised) ⟨builds, .inl failed⟩
    by_cases fails : peer.fails
    · rw [unread failed fails]
      exact iff_of_true (fun _ raised => nomatch raised) ⟨builds, .inr (.inl fails)⟩
    rw [and_iff_right builds, or_iff_right failed, or_iff_right fails, read failed fails,
      parseReply_handled_iff]

end Proofs

end Storlets.Sbus
