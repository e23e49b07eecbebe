import Storlets.Library.Fallible
import Storlets.Library.Runs
import Storlets.Sbus.Datagram

set_option autoImplicit false

/-!
# The main loop of the agent's servers

`dispatch_command` turns what a handler raises into a response. Receiving a message
and closing the response's pipe are outside of it.
-/

namespace Storlets.Sbus

open PyStr Runs Fallible

structure CommandResponse where
  status : Bool
  message : Text
  /-- Whether the server keeps running. -/
  iterable : Bool := true
  taskId : Option Text := none

/-- How a command handler ends. -/
inductive HandlerResult where
  | returns (resp : CommandResponse)
  | raisesResponse (resp : CommandResponse)
  | raisesValueError (message : Text)
  | raises

/-- Whether the handler's own response stops the server. -/
def HandlerResult.saysStop : HandlerResult → Bool
  | .returns resp | .raisesResponse resp => !resp.iterable
  | _ => false

/-- The methods of a server that are command handlers. -/
structure SBusServer where
  methods : List Text

def StorletDaemon : SBusServer := ⟨["ping", "execute", "cancel", "halt"]⟩

def StorletDaemonFactory : SBusServer :=
  ⟨["ping", "start_daemon", "stop_daemon", "daemon_status", "stop_daemons", "halt"]⟩

def sbusCmdPrefix : String := "SBUS_CMD_"

/-- The names `storlets.sbus.command` defines. -/
def sbusCmd : List Text :=
  ["SBUS_CMD_PREFIX", "SBUS_CMD_HALT", "SBUS_CMD_EXECUTE", "SBUS_CMD_START_DAEMON",
    "SBUS_CMD_STOP_DAEMON", "SBUS_CMD_DAEMON_STATUS", "SBUS_CMD_STOP_DAEMONS", "SBUS_CMD_PING",
    "SBUS_CMD_CANCEL", "SBUS_CMD_NOP"]

/-- What `get_handler` ends with: a method, a `ValueError` or a `TypeError`. -/
inductive Lookup where
  | handler (method : Text)
  | valueError (message : Text)
  | typeError

section Dispatch

variable (interpreter : Interpreter) (server : SBusServer)

def getHandler (command : Json) : Lookup :=
  match command with
  | .str command =>
      if command ∉ sbusCmd ∧ interpreter.moduleNames command = false then
        .valueError ("Unknown command ".toList ++ command)
      else
        let funcName := lower (command.drop sbusCmdPrefix.length)
        if funcName ∈ server.methods then .handler funcName
        else .valueError ("Command ".toList ++ command ++ " is not allowed for this server".toList)
  -- hasattr takes a string
  | _ => .typeError

def commandFailure (message : Text) : CommandResponse := ⟨false, message, true, none⟩

/-- The response `dispatch_command` sends, when the handler it finds ends so. -/
def response (dtg : SBusDatagram) (result : HandlerResult) : CommandResponse :=
  match getHandler interpreter server dtg.command with
  | .valueError message => commandFailure message
  | .typeError => commandFailure "Internal error"
  | .handler _ =>
      match result with
      | .returns resp => resp
      | .raisesResponse resp => resp
      | .raisesValueError message => commandFailure message
      | .raises => commandFailure "Internal error"

end Dispatch

/-- What happens to the response. `write` may raise an `IOError`, which is caught; what opening
the pipe, or flushing and closing it, raises is not. -/
inductive Reply where
  | written
  | writeFails
  | openFails
  | closeFails
  deriving DecidableEq

def Reply.raises : Reply → Bool
  | .openFails | .closeFails => true
  | _ => false

/-- What `listen` and `receive` bring. -/
inductive BusEvent where
  | listenFails
  | timesOut
  | receiveFails
  | message (raw : RawMessage) (result : HandlerResult) (reply : Reply)

inductive Exit where
  | success
  | failure
  | raised (exception : PyException)
  deriving DecidableEq

structure LoopState where
  loopCnt : Nat := 0
  exit : Option Exit := none
  /-- The descriptors a response was written to, with the response. -/
  answers : List (Nat × CommandResponse) := []

def listenTimeout : Nat := 300

section Loop

variable (interpreter : Interpreter) (server : SBusServer)

/-- `dispatch_command`, and whether the loop goes on. -/
def dispatchCommand (state : LoopState) (dtg : SBusDatagram) (result : HandlerResult)
    (reply : Reply) : LoopState :=
  let resp := response interpreter server dtg result
  match dtg.serviceOutFd with
  -- os.fdopen(None)
  | none => { state with exit := some (.raised .typeError) }
  | some outfd =>
      let answers := if reply = .openFails then state.answers else state.answers ++ [(outfd, resp)]
      let exit := if reply.raises then some (.raised .osError)
        else if resp.iterable then none
        else some .success
      { state with answers, exit }

def loopStep (state : LoopState) (event : BusEvent) : LoopState :=
  match state.exit with
  | some _ => state
  | none =>
      match event with
      | .listenFails => { state with exit := some .failure }
      | .timesOut =>
          let state := { state with loopCnt := state.loopCnt + 1 }
          -- loop_timeout is half a second
          if 2 * listenTimeout ≤ state.loopCnt then { state with exit := some .success } else state
      | .receiveFails => { state with loopCnt := 0, exit := some .failure }
      | .message raw result reply =>
          let state := { state with loopCnt := 0 }
          match receive interpreter raw with
          | .error exception => { state with exit := some (.raised exception) }
          | .ok dtg => dispatchCommand interpreter server state dtg result reply

/-- The metadata of a descriptor says it is the one to answer on. -/
def saysServiceOut (metadict : Json) : Bool :=
  match getItem metadict "storlets" with
  | .ok storlets =>
      match getItem storlets "type" with
      | .ok fdtype => Json.is fdtype "SBUS_FD_SERVICE_OUT"
      | .error _ => false
  | .error _ => false

/-- The descriptor to answer on, read off the message. -/
def RawMessage.serviceOut (raw : RawMessage) : Option Nat :=
  match raw.metadata with
  | .text strMd =>
      match loads interpreter strMd with
      | .ok (.arr items) =>
          ((raw.fds.zip items).find? fun (_, metadict) => saysServiceOut metadict).map Prod.fst
      | _ => none
  | _ => none

/-- The message names a command the server handles, and the handler's response stops it. -/
def StopsServer (raw : RawMessage) (result : HandlerResult) : Prop :=
  ∃ dtg method, receive interpreter raw = .ok dtg ∧
    getHandler interpreter server dtg.command = .handler method ∧ result.saysStop

/-- A message does not take the server down, and is answered where it asks for it. -/
structure Survives (state : LoopState) (raw : RawMessage) (result : HandlerResult)
    (reply : Reply) : Prop where
  calm : ∀ exception,
    (loopStep interpreter server state (.message raw result reply)).exit ≠ some (.raised exception)
  answered : ∀ fd, raw.serviceOut interpreter = some fd →
    ∃ resp, (loopStep interpreter server state (.message raw result reply)).answers =
      state.answers ++ [(fd, resp)]
  goesOn : ¬ StopsServer interpreter server raw result →
    (loopStep interpreter server state (.message raw result reply)).exit = none

def EventSurvives (state : LoopState) (event : BusEvent) : Prop :=
  state.exit = none → match event with
    | .message raw result reply => Survives interpreter server state raw result reply
    | _ => True

/-- The message is one `receive` decodes, and the pipe of its response can be closed. -/
def EventDecodes (state : LoopState) (event : BusEvent) : Prop :=
  state.exit = none → match event with
    | .message raw _ reply => (∃ dtg, receive interpreter raw = .ok dtg) ∧ reply.raises = false
    | _ => True

end Loop

section Proofs

variable {interpreter : Interpreter} {server : SBusServer}

theorem saysServiceOut_of_popType {metadict storlets fdtype : Json} {rest : List (Text × Json)}
    (found : getItem metadict "storlets" = .ok storlets) (popped : popType storlets = .ok (fdtype, rest)) :
    saysServiceOut metadict = Json.is fdtype "SBUS_FD_SERVICE_OUT" := by
  unfold saysServiceOut
  rw [found]
  unfold popType at popped
  cases storlets with
  | obj fields =>
    dsimp only at popped
    cases typed : fields.lookup "type".toList with
    | none => rw [typed] at popped; cases popped
    | some item =>
      rw [typed] at popped
      obtain ⟨rfl, -⟩ := Prod.mk.inj (Except.ok.inj popped)
      simp only [getItem, typed]
  | arr items => cases popped
  | null | bool | int | float | str => cases popped

theorem deepcopy_ok {value copied : Json} (copies : deepcopy interpreter value = .ok copied) :
    copied = value := by
  unfold deepcopy at copies
  split at copies
  · exact (Except.ok.inj copies).symm
  · cases copies

theorem fromFileno_ok {fileno : Nat} {metadict : Json} {sfd : SBusFileDescriptor}
    (made : fromFilenoAndMetadataDict interpreter fileno metadict = .ok sfd) :
    sfd.fileno = fileno ∧ saysServiceOut metadict = Json.is sfd.fdtype "SBUS_FD_SERVICE_OUT" ∧
      ∃ fields, metadict = .obj fields := by
  unfold fromFilenoAndMetadataDict at made
  obtain ⟨copied, copies, afterCopy⟩ := bind_eq_ok made
  obtain ⟨storlets, found, afterStorlets⟩ := bind_eq_ok afterCopy
  obtain ⟨storage, -, afterStorage⟩ := bind_eq_ok afterStorlets
  obtain ⟨⟨fdtype, rest⟩, popped, built⟩ := bind_eq_ok afterStorage
  obtain rfl := Except.ok.inj built
  rw [deepcopy_ok copies] at found
  refine ⟨rfl, saysServiceOut_of_popType found popped, ?_⟩
  cases metadict with
  | obj fields => exact ⟨fields, rfl⟩
  | null | bool | int | float | str | arr => cases found

theorem buildDatagram_ok {command params taskId : Json} {sfds : List SBusFileDescriptor}
    {dtg : SBusDatagram} (made : buildDatagram command sfds params taskId = .ok dtg) :
    dtg.sfds = sfds ∧ ∃ first rest, sfds = first :: rest ∧
      Json.is first.fdtype "SBUS_FD_SERVICE_OUT" = true := by
  unfold buildDatagram at made
  dsimp only at made
  split at made
  · cases made
  · split at made
    · next required =>
      obtain rfl := Except.ok.inj made
      refine ⟨rfl, ?_⟩
      cases sfds with
      | nil => cases execute : Json.is command "SBUS_CMD_EXECUTE" <;> rw [execute] at required <;> cases required
      | cons first rest =>
        refine ⟨first, rest, rfl, ?_⟩
        cases execute : Json.is command "SBUS_CMD_EXECUTE" <;> rw [execute] at required <;>
          exact (Bool.and_eq_true_iff.mp required).1
    · cases made

/-- Only a list of dicts gives descriptors. -/
theorem iterate_dicts {metadata : Json} {items : List Json} {first : Json}
    {fields : List (Text × Json)} (iterated : iterate metadata = .ok items)
    (inside : first ∈ items) (dict : first = .obj fields) : metadata = .arr items := by
  subst dict
  cases metadata with
  | arr all => rw [Except.ok.inj iterated]
  | str s =>
    obtain rfl := Except.ok.inj iterated
    obtain ⟨c, -, same⟩ := List.mem_map.mp inside
    cases same
  | obj all =>
    obtain rfl := Except.ok.inj iterated
    obtain ⟨field, -, same⟩ := List.mem_map.mp inside
    cases same
  | null | bool | int | float => cases iterated

theorem decode_ok {text : RawText} {s : Text} (decoded : text.decode = .ok s) : text = .text s := by
  cases text with
  | text => exact congrArg _ (Except.ok.inj decoded)
  | null | undecodable => cases decoded

/-- The documents of a message that is received, and the datagram made of them. -/
theorem receive_ok {raw : RawMessage} {dtg : SBusDatagram}
    (accepted : receive interpreter raw = .ok dtg) : ∃ strMd strParams metadata cmdParams items,
    raw.metadata = .text strMd ∧ raw.params = .text strParams ∧
      loads interpreter strMd = .ok metadata ∧ loads interpreter strParams = .ok cmdParams ∧
      dictGet cmdParams "command" = .ok dtg.command ∧ dictGet cmdParams "params" = .ok dtg.params ∧
      dictGet cmdParams "task_id" = .ok dtg.taskId ∧
      iterate metadata = .ok items ∧ raw.fds.length = items.length ∧
      List.Forall₂ (fun pair sfd =>
        fromFilenoAndMetadataDict interpreter pair.1 pair.2 = .ok sfd) (raw.fds.zip items)
          dtg.sfds ∧
      buildDatagram dtg.command dtg.sfds dtg.params dtg.taskId = .ok dtg := by
  obtain ⟨strMd, asText, accepted⟩ := bind_eq_ok accepted
  obtain ⟨strParams, asText', built⟩ := bind_eq_ok accepted
  obtain ⟨metadata, loaded, built⟩ := bind_eq_ok built
  obtain ⟨cmdParams, loaded', built⟩ := bind_eq_ok built
  obtain ⟨command, gotCommand, built⟩ := bind_eq_ok built
  obtain ⟨params, gotParams, built⟩ := bind_eq_ok built
  obtain ⟨taskId, gotTask, built⟩ := bind_eq_ok built
  obtain ⟨items, iterated, built⟩ := bind_eq_ok built
  split at built
  · cases built
  · next same =>
    obtain ⟨sfds, mapped, made⟩ := bind_eq_ok built
    have fields : dtg = { command, sfds, params, taskId } := by
      unfold buildDatagram at made
      dsimp only at made
      split_ifs at made
      exact (Except.ok.inj made).symm
    subst fields
    exact ⟨strMd, strParams, metadata, cmdParams, items, decode_ok asText, decode_ok asText',
      loaded, loaded', gotCommand, gotParams, gotTask, iterated, not_not.mp same,
      forall₂_of_mapM mapped, made⟩

/-- A message that is received asks for the answer on the descriptor the datagram has for it. -/
theorem receive_serviceOut {raw : RawMessage} {dtg : SBusDatagram}
    (decoded : receive interpreter raw = .ok dtg) :
    ∃ fd, dtg.serviceOutFd = some fd ∧ raw.serviceOut interpreter = some fd := by
  obtain ⟨strMd, strParams, metadata, cmdParams, items, asText, asText', loaded, loaded', gotCommand,
    gotParams, gotTask, iterated, same, each, made⟩ := receive_ok decoded
  obtain ⟨_, first, rest, shape, isService⟩ := buildDatagram_ok made
  rw [shape] at each
  cases zipped : raw.fds.zip items with
  | nil => rw [zipped] at each; cases each
  | cons pair pairs =>
    rw [zipped] at each
    obtain ⟨here, _⟩ := List.forall₂_cons.mp each
    obtain ⟨fileno, sameType, fields, dict⟩ := fromFileno_ok here
    have inside : pair.2 ∈ items :=
      (List.of_mem_zip (zipped ▸ List.mem_cons_self : pair ∈ raw.fds.zip items)).2
    have isArr := iterate_dicts iterated inside dict
    refine ⟨first.fileno, ?_, ?_⟩
    · have found : (first :: rest).find? (fun sfd => Json.is sfd.fdtype "SBUS_FD_SERVICE_OUT") =
          some first := List.find?_cons_of_pos isService
      rw [SBusDatagram.serviceOutFd, shape, found]
      rfl
    · have found : (pair :: pairs).find? (fun (_, metadict) => saysServiceOut metadict) =
          some pair := List.find?_cons_of_pos (sameType.trans isService)
      unfold RawMessage.serviceOut
      rw [asText]
      dsimp only
      rw [loaded, isArr]
      dsimp only
      rw [zipped, found, fileno]
      rfl

theorem response_iterable {raw : RawMessage} {dtg : SBusDatagram} {result : HandlerResult}
    (decoded : receive interpreter raw = .ok dtg)
    (goesOn : ¬ StopsServer interpreter server raw result) :
    (response interpreter server dtg result).iterable = true := by
  unfold response
  cases found : getHandler interpreter server dtg.command with
  | valueError message => rfl
  | typeError => rfl
  | handler method =>
    have runs : result.saysStop = false :=
      Bool.eq_false_iff.mpr fun stop => goesOn ⟨dtg, method, decoded, found, stop⟩
    cases result with
    | returns resp | raisesResponse resp => simpa [HandlerResult.saysStop] using runs
    | raisesValueError | raises => rfl

theorem loopStep_message (interpreter : Interpreter) (server : SBusServer) {state : LoopState} (running : state.exit = none) (raw : RawMessage)
    (result : HandlerResult) (reply : Reply) :
    loopStep interpreter server state (.message raw result reply) =
      match receive interpreter raw with
      | .error exception => { state with loopCnt := 0, exit := some (.raised exception) }
      | .ok dtg => dispatchCommand interpreter server { state with loopCnt := 0 } dtg result reply := by
  unfold loopStep
  rw [running]

/-- A message takes the server down unless it decodes and its response can be sent off. -/
theorem survives_iff {state : LoopState} (running : state.exit = none) (raw : RawMessage)
    (result : HandlerResult) (reply : Reply) :
    Survives interpreter server state raw result reply ↔
      (∃ dtg, receive interpreter raw = .ok dtg) ∧ reply.raises = false := by
  have steps := loopStep_message interpreter server running raw
    result reply
  cases decoded : receive interpreter raw with
  | error exception =>
    rw [decoded] at steps
    refine iff_of_false (fun survives => survives.calm exception (by rw [steps])) ?_
    rintro ⟨⟨dtg, received⟩, -⟩
    cases received
  | ok dtg =>
    rw [decoded] at steps
    obtain ⟨fd, found, asked⟩ := receive_serviceOut decoded
    dsimp only [dispatchCommand] at steps
    rw [found] at steps
    cases fails : reply.raises with
    | true =>
      rw [fails] at steps
      refine iff_of_false (fun survives => survives.calm .osError (by rw [steps]; rfl)) ?_
      rintro ⟨-, quiet⟩
      cases quiet
    | false =>
      have opened : reply ≠ .openFails := by
        rintro rfl
        cases fails
      rw [fails] at steps
      dsimp only at steps
      rw [if_neg opened, if_neg Bool.false_ne_true] at steps
      refine iff_of_true ⟨fun exception => ?_, fun other asksOther => ?_, fun goesOn => ?_⟩
        ⟨⟨dtg, rfl⟩, rfl⟩
      · rw [steps]
        dsimp only
        split <;> exact nofun
      · obtain rfl := Option.some.inj (asked.symm.trans asksOther)
        rw [steps]
        exact ⟨_, rfl⟩
      · rw [steps, response_iterable decoded goesOn]
        rfl

end Proofs

/-- Along any run no message takes the server down if and only if each one that is received
decodes and the pipe of its response can be opened and closed. -/
theorem main_loop_survives_iff (interpreter : Interpreter) (server : SBusServer)
    (events : List BusEvent) :
    Along (loopStep interpreter server) (EventSurvives interpreter server) {} events ↔
      Along (loopStep interpreter server) (EventDecodes interpreter) {} events := by
  refine along_congr (fun state event => ?_) _ events
  unfold EventSurvives EventDecodes
  cases event with
  | message raw result reply =>
    exact ⟨fun survives running => (survives_iff running raw result reply).mp (survives running),
      fun decodes running => (survives_iff running raw result reply).mpr (decodes running)⟩
  | listenFails | timesOut | receiveFails => exact Iff.rfl

def python : Interpreter := ⟨⟨900, 4300⟩, 300, fun name => startsWith name "__"⟩

/-- A descriptor to answer on, whose metadata has no storage. -/
def halfMetadata : RawMessage :=
  ⟨[3], .text "[\x7b\"storlets\": \x7b\"type\": \"SBUS_FD_SERVICE_OUT\"\x7d\x7d]",
    .text "\x7b\"command\": \"SBUS_CMD_PING\"\x7d"⟩

theorem half_metadata_kills : ¬ ∀ (interpreter : Interpreter) (server : SBusServer)
    (events : List BusEvent),
    Along (loopStep interpreter server) (EventSurvives interpreter server) {} events := by
  intro always
  have survives := (always python StorletDaemon
    [.message halfMetadata (.returns ⟨true, "OK", true, none⟩) .written]).1 rfl
  exact survives.calm .keyError (by decide)

end Storlets.Sbus
