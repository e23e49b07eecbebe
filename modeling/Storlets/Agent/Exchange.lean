import Storlets.Agent.MainLoop
import Storlets.Library.JsonCodec
import Storlets.Sbus.Client

set_option autoImplicit false

/-!
# A request and its response

A server writes its response on the end of the pipe it was passed, and closes it. The client reads
up to there.
-/

namespace Storlets.Sbus

open PyStr

universe u

/-! ## The report of a response -/

namespace CommandResponse

variable (resp : CommandResponse)

/-- `task_id`, which a response may be without. -/
def task : Json :=
  match resp.taskId with
  | none | some [] => .null
  | some taskId => .str taskId

def rsp : List (Text × Json) :=
  [("status".toList, .bool resp.status), ("message".toList, .str resp.message)] ++
    if Json.truthy resp.task then [("task_id".toList, resp.task)] else []

def reportMessage : Text := Json.dumps (.obj resp.rsp)

/-- The response as a client has it. -/
def toClient : SBusResponse := ⟨.bool resp.status, .str resp.message, resp.task⟩

theorem task_cases : resp.task = .null ∨
    ∃ taskId, resp.task = .str taskId ∧ Json.truthy resp.task = true := by
  unfold task
  rcases resp.taskId with _ | _ | ⟨c, rest⟩
  · exact .inl rfl
  · exact .inl rfl
  · exact .inr ⟨_, rfl, rfl⟩

theorem rsp_written (digits : Nat) : Json.Written digits (.obj resp.rsp) := by
  unfold rsp
  apply Json.Written.obj
  · rcases resp.task_cases with none | ⟨taskId, _, given⟩
    · rw [none]
      change ["status".toList, "message".toList].Nodup
      decide
    · rw [if_pos given]
      change ["status".toList, "message".toList, "task_id".toList].Nodup
      decide
  · intro field inside
    rcases List.mem_append.mp inside with early | late
    · rcases List.mem_pair.mp early with rfl | rfl
      · exact .bool _
      · exact .str _
    · rcases resp.task_cases with none | ⟨taskId, same, given⟩
      · rw [none] at late
        cases late
      · rw [if_pos given] at late
        rw [List.mem_singleton.mp late, same]
        exact .str _

theorem rsp_nests {depth : Nat} (deep : 1 ≤ depth) :
    Json.nestsWithin depth (.obj resp.rsp) = true := by
  obtain ⟨fewer, rfl⟩ := Nat.exists_eq_add_of_le' deep
  unfold rsp
  rcases resp.task_cases with none | ⟨taskId, same, given⟩
  · simp [Json.nestsWithin, none, Json.truthy]
  · rw [if_pos given, same]
    simp [Json.nestsWithin]

theorem reportMessage_ascii : ∀ c ∈ resp.reportMessage, 0 < c.toNat ∧ c.toNat < 128 :=
  (resp.rsp_written 0).ascii

end CommandResponse

/-! ## What the client makes of a report, or of a part of it -/

theorem encodeUtf8_cons {c : Char} (ascii : c.toNat < 128) (rest : Text) :
    encodeUtf8 (c :: rest) = UInt8.ofNat c.toNat :: encodeUtf8 rest := by
  have one : String.utf8EncodeChar c = [UInt8.ofNat c.toNat] := if_pos (Nat.le_of_lt_succ ascii)
  rw [encodeUtf8, List.flatMap_cons, one]
  rfl

/-- Between the bytes of an ASCII text there are characters. -/
theorem exists_cut_of_bytes {text : Text} (ascii : ∀ c ∈ text, 0 < c.toNat ∧ c.toNat < 128)
    {bytes : List UInt8} (part : bytes <+: encodeUtf8 text) :
    ∃ cut, cut <+: text ∧ bytes = encodeUtf8 cut := by
  induction text generalizing bytes with
  | nil => exact ⟨[], List.prefix_rfl, List.prefix_nil.mp part⟩
  | cons c rest ih =>
    obtain ⟨⟨_, small⟩, later⟩ := List.forall_mem_cons.mp ascii
    rw [encodeUtf8_cons small] at part
    rcases bytes with _ | ⟨byte, bytes⟩
    · exact ⟨[], List.nil_prefix, rfl⟩
    · obtain ⟨same, part⟩ := List.cons_prefix_cons.mp part
      obtain ⟨cut, shorter, read⟩ := ih later part
      refine ⟨c :: cut, List.cons_prefix_cons.mpr ⟨rfl, shorter⟩, ?_⟩
      rw [encodeUtf8_cons small, same, read]

section Reading

variable {limits : Json.Limits} {resp : CommandResponse}

theorem loadsReply_rsp (deep : 1 ≤ limits.depth) :
    loadsReply limits resp.reportMessage = .ok (.obj resp.rsp) := by
  have read := Json.loads_written (resp.rsp_written limits.digits) (resp.rsp_nests deep)
  have whole : (Json.loads limits resp.reportMessage).isSome := Option.isSome_of_eq_some read
  rw [loadsReply, Json.exhausts_cut whole List.prefix_rfl, if_neg Bool.false_ne_true,
    CommandResponse.reportMessage, read]

theorem parseResponse_report (deep : 1 ≤ limits.depth) :
    parseResponse limits resp.reportMessage = .ok resp.toClient := by
  have fields : parseFields limits resp.reportMessage =
      .ok (.obj resp.rsp, .bool resp.status, .str resp.message) := by
    rw [parseFields, loadsReply_rsp deep]
    rfl
  have task : dictGet (.obj resp.rsp) "task_id" = .ok resp.task := by
    unfold CommandResponse.rsp
    rcases resp.task_cases with none | ⟨taskId, same, given⟩
    · rw [none]
      rfl
    · rw [if_pos given]
      rfl
  rw [parseResponse, fields]
  dsimp only
  rw [task]
  rfl

/-- No part of a report but the whole is one of JSON. -/
theorem parseResponse_cut (deep : 1 ≤ limits.depth) {cut : Text}
    (shorter : cut <+: resp.reportMessage) (differs : cut ≠ resp.reportMessage) :
    parseResponse limits cut = .error (.client .malformedResponse) := by
  have read := Json.loads_written (resp.rsp_written limits.digits) (resp.rsp_nests deep)
  have whole : (Json.loads limits resp.reportMessage).isSome := Option.isSome_of_eq_some read
  have nothing : Json.loads limits cut = none := by
    apply Json.loads_cut whole _ _ shorter differs
    · exact ⟨_, by rw [CommandResponse.reportMessage, Json.dumps]; rfl⟩
    · rw [CommandResponse.reportMessage, Json.dumps, List.getLast?_concat]
  have fails : parseFields limits cut = .error .valueError := by
    rw [parseFields, loadsReply, Json.exhausts_cut whole shorter, if_neg Bool.false_ne_true, nothing]
    rfl
  rw [parseResponse, fails]

/-- What the client ends with when it reads this of a response, or of none. -/
def ClientPeer.outcome (peer : ClientPeer) (resp : Option CommandResponse) :
    Except ClientException SBusResponse :=
  if peer.rc < 0 then .error (.client .sendError)
  else if peer.fails then .error (.client .ioError)
  else match resp.filter fun resp => peer.reply = encodeUtf8 resp.reportMessage with
    | some resp => .ok resp.toClient
    | none => .error (.client .malformedResponse)

theorem ClientPeer.outcome_ok {peer : ClientPeer} {resp : Option CommandResponse}
    {answer : SBusResponse} (ends : peer.outcome resp = .ok answer) :
    ∃ sent, resp = some sent ∧ answer = sent.toClient := by
  unfold outcome at ends
  split_ifs at ends
  split at ends
  · next sent whole =>
    exact ⟨sent, (Option.filter_eq_some_iff.mp whole).1, (Except.ok.inj ends).symm⟩
  · cases ends

theorem request_reads (deep : 1 ≤ limits.depth) {call : ClientCall} {writeFd : Nat}
    {dtg : SBusDatagram} (built : call.datagram writeFd = .ok dtg) {peer : ClientPeer}
    (part : peer.reply <+: encodeUtf8 resp.reportMessage) :
    (request limits call writeFd peer).result = peer.outcome (some resp) := by
  obtain ⟨unsent, unread, read⟩ := request_result limits built peer
  unfold ClientPeer.outcome
  split_ifs with failed fails
  · exact unsent failed
  · exact unread failed fails
  rw [read failed fails]
  obtain ⟨cut, shorter, bytes⟩ := exists_cut_of_bytes resp.reportMessage_ascii part
  rw [parseReply, bytes, decodeUtf8_encodeUtf8]
  by_cases whole : cut = resp.reportMessage
  · subst whole
    simp [Option.filter, parseResponse_report deep]
  · have differs : encodeUtf8 cut ≠ encodeUtf8 resp.reportMessage := by
      intro same
      apply whole
      have decoded := congrArg decodeUtf8 same
      rw [decodeUtf8_encodeUtf8, decodeUtf8_encodeUtf8] at decoded
      exact Option.some.inj decoded
    simp [Option.filter, differs, parseResponse_cut deep shorter whole]

/-- Nothing is no response. -/
theorem request_reads_nothing (deep : 1 ≤ limits.depth) {call : ClientCall} {writeFd : Nat}
    {dtg : SBusDatagram} (built : call.datagram writeFd = .ok dtg) {peer : ClientPeer}
    (nothing : peer.reply = []) :
    (request limits call writeFd peer).result = peer.outcome none := by
  let resp : CommandResponse := { status := true, message := [] }
  have part : peer.reply <+: encodeUtf8 resp.reportMessage := nothing ▸ List.nil_prefix
  have differs : peer.reply ≠ encodeUtf8 resp.reportMessage := by
    rw [nothing, CommandResponse.reportMessage, Json.dumps]
    exact nofun
  rw [request_reads deep built part]
  simp [ClientPeer.outcome, Option.filter, differs]

end Reading

/-! ## The request at the server -/

/-- The datagram as the server's handler has it. -/
def SBusDatagram.atServer (numberOf : Nat → Nat) (dtg : SBusDatagram) : SBusDatagram where
  command := dtg.command
  sfds := dtg.sfds.map fun sfd => { sfd with fileno := numberOf sfd.fileno }
  params := Json.orNone dtg.params
  taskId := Json.orNone dtg.taskId

/-- A message that the server reads as it was written. -/
structure SBusDatagram.Legible (interpreter : Interpreter) (dtg : SBusDatagram) : Prop where
  given : dtg.sfds ≠ []
  made : ∀ sfd ∈ dtg.sfds, sfd.Initialised
  copies : ∀ sfd ∈ dtg.sfds, Json.nestsWithin interpreter.copyDepth sfd.metadata = true
  metadata : Json.Written interpreter.limits.digits dtg.metadata
  metadataNests : Json.nestsWithin interpreter.limits.depth dtg.metadata = true
  cmdParams : Json.Written interpreter.limits.digits dtg.cmdParams
  cmdParamsNests : Json.nestsWithin interpreter.limits.depth dtg.cmdParams = true
  short : dtg.messageLength ≤ maxMsgLength

section Delivering

variable {interpreter : Interpreter} {dtg built : SBusDatagram}

theorem SBusDatagram.Legible.ascii (legible : dtg.Legible interpreter) : dtg.Ascii :=
  ⟨legible.given, legible.metadata.ascii, legible.cmdParams.ascii⟩

/-- What is delivered of a short message is the message. -/
theorem SBusDatagram.Ascii.unpacked_of_delivered (ascii : dtg.Ascii) {format : ByteWire.IntFormat}
    {host : Host Nat} {unpacked : Unpacked Nat}
    (delivered : dtg.delivered format host = some unpacked)
    (short : dtg.messageLength ≤ maxMsgLength) : unpacked = dtg.unpacked := by
  have sent : Sendable host dtg.arguments ∧ ¬ Refuses format host dtg.arguments := by
    rcases sbusSendMsg_cases format host (sendArguments_backed dtg.fds
        (encodeUtf8 (Json.dumps dtg.metadata)) (encodeUtf8 (Json.dumps dtg.cmdParams))) with
      ⟨ends, _⟩ | ⟨ends, _⟩ | ⟨_, sendable, accepts⟩
    · have ends : sbusSendMsg format host dtg.arguments = .error .negative := ends
      rw [SBusDatagram.delivered, ends] at delivered
      cases delivered
    · have ends : sbusSendMsg format host dtg.arguments = .error .undefined := ends
      rw [SBusDatagram.delivered, ends] at delivered
      cases delivered
    · exact ⟨sendable, accepts⟩
  have whole := (ascii.delivered_iff sent.2 sent.1.allocated).mpr short
  exact Option.some.inj (delivered.symm.trans whole)

theorem SBusDatagram.Legible.receives (legible : dtg.Legible interpreter)
    (builds : buildDatagram dtg.command dtg.sfds dtg.params dtg.taskId = .ok built)
    (numberOf : Nat → Nat) :
    receive interpreter (dtg.unpacked.raw numberOf) = .ok (dtg.atServer numberOf) := by
  have metadata : loads interpreter (Json.dumps dtg.metadata) = .ok dtg.metadata := by
    rw [loads, Json.loads_written legible.metadata legible.metadataNests]
  have cmdParams : loads interpreter (Json.dumps dtg.cmdParams) = .ok dtg.cmdParams := by
    rw [loads, Json.loads_written legible.cmdParams legible.cmdParamsNests]
  rw [legible.ascii.receive_unpacked interpreter numberOf,
    SBusDatagram.decodes metadata cmdParams legible.made legible.copies builds numberOf]
  rfl

theorem ClientCall.rebuilds {call : ClientCall} {writeFd : Nat}
    (built : call.datagram writeFd = .ok dtg) :
    buildDatagram dtg.command dtg.sfds dtg.params dtg.taskId = .ok dtg := by
  obtain rfl := buildDatagram_eq built
  exact built

/-- The server answers on the end of the pipe that the client has made for it. -/
theorem ClientCall.serviceOutFd {call : ClientCall} {writeFd : Nat}
    (built : call.datagram writeFd = .ok dtg) (numberOf : Nat → Nat) :
    (dtg.atServer numberOf).serviceOutFd = some (numberOf writeFd) := by
  obtain rfl := buildDatagram_eq built
  rfl

end Delivering

/-! ## The exchange -/

/-- What is written on a descriptor in a turn of the loop. -/
def LoopState.writtenOn (before after : LoopState) (fd : Nat) : Text :=
  ((after.answers.drop before.answers.length).filter fun answer => answer.1 = fd).flatMap
    fun answer => answer.2.reportMessage

section Exchange

variable {S H T : Type u} (interpreter : Interpreter) (kind : ServerKind S H T)
variable (format : ByteWire.IntFormat) (host : Host Nat)

/-- A request, the turn of the server's loop it leads to, and what the client reads once the other
ends of its pipe are closed. -/
inductive Exchange (call : ClientCall) (writeFd : Nat) (state : MainState S) :
    MainState S → ClientPeer → Prop
  | unsent (peer : ClientPeer) (failed : peer.rc < 0) : Exchange call writeFd state state peer
  | unreceived (peer : ClientPeer) (nothing : peer.reply = []) :
      Exchange call writeFd state (turnStep interpreter kind state .receiveFails) peer
  | received (peer : ClientPeer) (dtg : SBusDatagram) (unpacked : Unpacked Nat)
      (numberOf : Nat → Nat) (answers : H) (reply : Reply)
      (built : call.datagram writeFd = .ok dtg)
      (delivered : dtg.delivered format host = some unpacked)
      (returns : (handled interpreter kind (unpacked.raw numberOf) answers state.own).isSome)
      -- the end of the pipe may be lost, or the reading stop, at any byte
      (part : peer.reply <+: encodeUtf8 (state.loop.writtenOn
        (turnStep interpreter kind state (.message (unpacked.raw numberOf) answers reply)).loop
          (numberOf writeFd))) :
      Exchange call writeFd state
        (turnStep interpreter kind state (.message (unpacked.raw numberOf) answers reply)) peer

/-- The server has handled this very request, and this is its response. -/
def Takes (dtg : SBusDatagram) (state after : MainState S) (resp : CommandResponse) : Prop :=
  state.Serves ∧ ∃ raw numberOf answers result,
    receive interpreter raw = .ok (dtg.atServer numberOf) ∧
      handled interpreter kind raw answers state.own = some (result, after.own) ∧
      resp = response interpreter kind.server (dtg.atServer numberOf) result

end Exchange

section Proofs

variable {S H T : Type u} {interpreter : Interpreter} {kind : ServerKind S H T}
variable {format : ByteWire.IntFormat} {host : Host Nat} {state : MainState S}

theorem turnStep_idle (idle : ¬ state.Serves) (turn : BusTurn H) :
    (turnStep interpreter kind state turn).own = state.own ∧
      (turnStep interpreter kind state turn).loop.answers = state.loop.answers := by
  unfold turnStep
  split
  · exact ⟨rfl, rfl⟩
  · next serving =>
    split_ifs with stuck running
    · exact ⟨rfl, rfl⟩
    · exact absurd ⟨serving, running, by simpa using stuck⟩ idle
    · exact ⟨rfl, rfl⟩

theorem writtenOn_self (loop : LoopState) (fd : Nat) {after : LoopState}
    (same : after.answers = loop.answers) : loop.writtenOn after fd = [] := by
  rw [LoopState.writtenOn, same, List.drop_length]
  rfl

theorem dispatchCommand_written (loop : LoopState) (server : SBusServer) {dtg : SBusDatagram}
    {fd : Nat} (out : dtg.serviceOutFd = some fd) (result : HandlerResult) (reply : Reply) :
    loop.writtenOn (dispatchCommand interpreter server { loop with loopCnt := 0 } dtg result reply)
      fd = if reply = .openFails then []
        else (response interpreter server dtg result).reportMessage := by
  rw [LoopState.writtenOn, dispatchCommand, out]
  dsimp only
  split_ifs <;> simp

/-- A turn with a message of the client handles the request, and writes nothing but the response. -/
theorem turnStep_received (serves : state.Serves) {call : ClientCall} {writeFd : Nat}
    {dtg : SBusDatagram} (built : call.datagram writeFd = .ok dtg) {raw : RawMessage}
    {numberOf : Nat → Nat} (decoded : receive interpreter raw = .ok (dtg.atServer numberOf))
    {answers : H} {result : HandlerResult} {own : S}
    (handles : handled interpreter kind raw answers state.own = some (result, own)) (reply : Reply) :
    (turnStep interpreter kind state (.message raw answers reply)).own = own ∧
      state.loop.writtenOn (turnStep interpreter kind state (.message raw answers reply)).loop
        (numberOf writeFd) = if reply = .openFails then []
          else (response interpreter kind.server (dtg.atServer numberOf) result).reportMessage := by
  have brought : busEvent interpreter kind state.own (.message raw answers reply) =
      some (.message raw result reply, own) := by
    rw [busEvent, handles]
    rfl
  rw [turnStep_serves serves, brought]
  refine ⟨rfl, ?_⟩
  dsimp only
  rw [loopStep_message interpreter kind.server serves.1, decoded]
  exact dispatchCommand_written state.loop kind.server (ClientCall.serviceOutFd built numberOf)
    result reply

/-- The client of a server has the response to its very request, or an exception of its own,
whatever becomes of the message and of the response; the request takes effect once at most. -/
theorem Exchange.ends {limits : Json.Limits} (deep : 1 ≤ limits.depth) {call : ClientCall}
    {writeFd : Nat} {dtg : SBusDatagram} (built : call.datagram writeFd = .ok dtg)
    (legible : dtg.Legible interpreter) {after : MainState S} {peer : ClientPeer}
    (exchange : Exchange interpreter kind format host call writeFd state after peer) :
    (after.own = state.own ∧ (request limits call writeFd peer).result = peer.outcome none) ∨
      ∃ resp, Takes interpreter kind dtg state after resp ∧
        (request limits call writeFd peer).result = peer.outcome (some resp) := by
  cases exchange with
  | unsent _ failed =>
    refine .inl ⟨rfl, ?_⟩
    rw [(request_result limits built peer).1 failed, ClientPeer.outcome, if_pos failed]
  | unreceived _ nothing =>
    refine .inl ⟨?_, request_reads_nothing deep built nothing⟩
    by_cases serves : state.Serves
    · rw [turnStep_serves serves]
      rfl
    · exact (turnStep_idle serves _).1
  | received _ sent unpacked numberOf answers reply builds delivered returns part =>
    obtain rfl := Except.ok.inj (builds.symm.trans built)
    by_cases serves : state.Serves
    · obtain rfl := legible.ascii.unpacked_of_delivered delivered legible.short
      have decoded := legible.receives (ClientCall.rebuilds built) numberOf
      obtain ⟨⟨result, own⟩, handles⟩ := Option.isSome_iff_exists.mp returns
      obtain ⟨moved, written⟩ := turnStep_received serves built decoded handles reply
      rw [written] at part
      refine .inr ⟨_, ⟨serves, _, numberOf, answers, result, decoded, ?_, rfl⟩,
        request_reads deep built ?_⟩
      · rw [moved]
        exact handles
      · split_ifs at part
        · exact part.trans List.nil_prefix
        · exact part
    · -- a server that has left its loop does not write
      obtain ⟨still, silent⟩ := @turnStep_idle _ _ _ interpreter kind _ serves
        (.message (unpacked.raw numberOf) answers reply)
      rw [writtenOn_self _ _ silent] at part
      exact .inl ⟨still, request_reads_nothing deep built (List.prefix_nil.mp part)⟩

end Proofs

end Storlets.Sbus
