import Storlets.Middleware.AllOrNothing

set_option autoImplicit false

/-!
# Extra resources

The storlet reads every extra resource as the subrequest for it is answered, whatever the
status of the answer is.
-/

namespace Storlets

open PyStr Traced

/-- How many extra resources are allowed, and what their header is read with. -/
structure ExtraConf where
  maxExtraResources : Int := -1
  listFromCsv : Text → List Text
  /-- `split_path(resource, 2, 2, True)`; no value where it raises `ValueError`. -/
  splitPath : Text → Option (Text × Text)

namespace ExtraConf

variable (extra : ExtraConf) (headers : Headers)

/-- The resources that the header names. -/
def resources : List Text :=
  match headers.get? "X-Storlet-Extra-Resources" with
  | none => []
  | some header => extra.listFromCsv header

/-- `_parse_extra_resources`: the container and the object of each path. -/
def parse : Except PyError (List (Text × Text)) :=
  let resources := extra.resources headers
  if resources = [] then .ok []
  else if 0 < extra.maxExtraResources ∧ extra.maxExtraResources < resources.length then
    .error (.http 400 (s!"Too many extra resources. {resources.length} was requested but " ++
      s!"only {extra.maxExtraResources} is allowed,"))
  else if extra.maxExtraResources = 0 then
    .error (.http 403 "Usage of extra resources is not allowed")
  else match resources.mapM extra.splitPath with
    | some paths => .ok paths
    | none => .error (.http 400
        "X-Storlet-Extra-Resource must be a csv with/container/object format")

theorem parse_ok {paths : List (Text × Text)} (parsed : extra.parse headers = .ok paths) :
    (extra.resources headers).mapM extra.splitPath = some paths := by
  unfold parse at parsed
  dsimp only at parsed
  split_ifs at parsed with nothing
  · rw [nothing, ← Except.ok.inj parsed]
    rfl
  · split at parsed
    · next read =>
      rw [read, Except.ok.inj parsed]
    · cases parsed

end ExtraConf

/-! ## The flows -/

/-- What is done with the output of the storlet. -/
inductive Ending where
  | respond (resp : Response)
  | store
  | storeCopy (source : Text × Text) (srcResp : Response)

/-- A flow that has come to run a storlet on the proxy. -/
structure ProxyInvocation where
  request : Request
  sheaders : Headers
  sbody : Body
  ending : Ending

inductive Flow where
  | get
  | put
  | copy

section Flows

variable (swift : Swift) (conf : HandlerConf) (gateway : Gateway) (pipeline : Pipeline)
  (handler : ProxyHandler)

/-- The method of the handler. -/
def Flow.serve : Flow → Handler Response
  | .get => handler.get swift conf gateway pipeline.app
  | .put => handler.put swift conf gateway pipeline.app
  | .copy => handler.copy swift conf gateway pipeline.app

/-- `base_handle_copy_request` up to where the storlet is run on the proxy. -/
def reachCopy (req : Request) (source : Text × Text) : Handler (Response ⊕ ProxyInvocation) := do
  let srcResp ← handler.fetchSource swift conf pipeline.app req source
  let req := ProxyHandler.withSourceHeaders swift req srcResp
  if ← lift (ProxyHandler.isProxyRunnable swift conf req.headers (some srcResp)) then
    return .inr ⟨req, srcResp.headers, srcResp.body, .storeCopy source srcResp⟩
  else
    let resp ← ProxyHandler.handlePutCopyResponse pipeline.app req srcResp.body.content
    return .inl (ProxyHandler.generatedFrom req source srcResp resp)

/-- The flow up to where it runs the storlet on the proxy, or all of it where it does not. -/
def Flow.reach : Flow → Handler (Response ⊕ ProxyInvocation)
  | .get => do
      let (req, resp) ← handler.forward swift conf pipeline.app
      if resp.isSuccess then
        if ← lift (ProxyHandler.isProxyRunnable swift conf req.headers (some resp)) then
          return .inr ⟨req, resp.headers, resp.body, .respond resp⟩
        else
          return .inl { resp with
            headers := (resp.headers.pop "Transfer-Encoding").pop "Content-Length" }
      else return .inl resp
  | .put => do
      let req ← handler.authorize swift conf pipeline.app
      if req.headers.contains "X-Copy-From" then
        let (req, source) ← lift (ProxyHandler.copyFrom swift req)
        reachCopy swift conf pipeline handler req source
      else return .inr ⟨req, req.headers, { origin := .object, content := req.input }, .store⟩
  | .copy =>
      if (handler.request.headers.get? "Destination").getD [] = [] then
        return .inl (errorResponse 412)
      else do
        let req ← handler.authorize swift conf pipeline.app
        let (req, source) ← lift (ProxyHandler.copyTo swift req)
        reachCopy swift conf pipeline handler req source

/-- The rest of the flow, around the run of the storlet. -/
def ProxyInvocation.complete (inv : ProxyInvocation) (run : Handler StorletResponse) :
    Handler Response :=
  match inv.ending with
  | .respond resp => applyStorlet .proxy (fun _ => run) resp
  | .store => do
      let sresp ← run
      ProxyHandler.handlePutCopyResponse pipeline.app
        { inv.request with headers := setMetadataInHeaders inv.request.headers sresp.userMetadata }
        sresp.content
  | .storeCopy source srcResp => do
      let sresp ← run
      let req := { inv.request with
        headers := setMetadataInHeaders inv.request.headers sresp.userMetadata }
      let resp ← ProxyHandler.handlePutCopyResponse pipeline.app req sresp.content
      return ProxyHandler.generatedFrom req source srcResp resp

/-- Each subrequest has an answer of its own. -/
def getExtraDataAt (subs : Nat → Pipeline) (req : Request) :
    Nat → List (Text × Text) → Handler (List StorletData)
  | _, [] => return []
  | i, (container, obj) :: rest => do
      let resp ← ProxyHandler.getResponse (subs i).app
        (swift.makeSubrequest req "GET" container obj .empty)
      let others ← getExtraDataAt subs req (i + 1) rest
      return ⟨getUserMetadata resp.headers, .iter resp.body.content⟩ :: others

/-- `_build_storlet_request` and `invocation_flow`. -/
def ProxyInvocation.run (inv : ProxyInvocation) (subs : Nat → Pipeline) :
    Handler StorletResponse := do
  let sreq ← lift (buildStorletRequest (.ok (getStorletInvocationOptions swift inv.request))
    inv.request handler.params inv.sheaders inv.sbody)
  let extra ← getExtraDataAt swift subs (handler.withOwnAccount inv.request) 0
    handler.extraResources
  invokeGateway .proxy gateway { sreq with extraDataList := extra }

def resume (subs : Nat → Pipeline) : Response ⊕ ProxyInvocation → Handler Response
  | .inl resp => pure resp
  | .inr inv => inv.complete pipeline (inv.run swift gateway handler subs)

def Flow.serveWith (flow : Flow) (subs : Nat → Pipeline) : Handler Response :=
  flow.reach swift conf pipeline handler >>= resume swift gateway pipeline handler subs

/-! ### The flows are the methods of the handler -/

theorem getExtraDataAt_same (req : Request) (i : Nat) (resources : List (Text × Text)) :
    getExtraDataAt swift (fun _ => pipeline) req i resources =
      ProxyHandler.getExtraData swift pipeline.app req resources := by
  induction resources generalizing i with
  | nil => rfl
  | cons resource rest ih =>
    unfold getExtraDataAt ProxyHandler.getExtraData
    rw [ih]

theorem run_same (inv : ProxyInvocation) :
    inv.run swift gateway handler (fun _ => pipeline) =
      handler.buildStorletRequest swift pipeline.app inv.request inv.sheaders inv.sbody >>=
        invokeGateway .proxy gateway := by
  unfold ProxyInvocation.run ProxyHandler.buildStorletRequest
  rw [getExtraDataAt_same]
  simp only [bind_assoc, Traced.pure_bind]

theorem reachCopy_resume (req : Request) (source : Text × Text) :
    (reachCopy swift conf pipeline handler req source >>=
        resume swift gateway pipeline handler fun _ => pipeline) =
      handler.baseHandleCopyRequest swift conf gateway pipeline.app req source := by
  unfold reachCopy ProxyHandler.baseHandleCopyRequest ProxyHandler.deliver ProxyHandler.copyData
  rw [bind_assoc]
  refine congrArg _ (funext fun srcResp => ?_)
  rw [bind_assoc, bind_assoc]
  refine congrArg _ (funext fun onProxy => ?_)
  cases onProxy with
  | false =>
    simp only [Bool.false_eq_true, if_false, bind_assoc, Traced.pure_bind, resume]
  | true =>
    simp only [if_true, Traced.pure_bind, resume, ProxyInvocation.complete, run_same, bind_assoc]

theorem serve_eq_serveWith (flow : Flow) :
    flow.serve swift conf gateway pipeline handler =
      flow.serveWith swift conf gateway pipeline handler fun _ => pipeline := by
  unfold Flow.serveWith
  cases flow with
  | get =>
    unfold Flow.serve Flow.reach ProxyHandler.get ProxyHandler.finish
    dsimp only
    rw [bind_assoc]
    refine congrArg _ (funext fun exchanged => ?_)
    cases exchanged.2.isSuccess with
    | false => rfl
    | true =>
      simp only [if_true]
      rw [bind_assoc]
      refine congrArg _ (funext fun onProxy => ?_)
      cases onProxy with
      | false => rfl
      | true =>
        simp only [if_true, Traced.pure_bind, resume, ProxyInvocation.complete, run_same]
        rfl
  | put =>
    unfold Flow.serve Flow.reach ProxyHandler.put
    dsimp only
    rw [bind_assoc]
    refine congrArg _ (funext fun req => ?_)
    cases req.headers.contains "X-Copy-From" with
    | true =>
      simp only [if_true]
      rw [bind_assoc]
      exact congrArg _ (funext fun copied => (reachCopy_resume ..).symm)
    | false =>
      simp only [Bool.false_eq_true, if_false, Traced.pure_bind, resume, ProxyInvocation.complete,
        run_same, bind_assoc]
  | copy =>
    unfold Flow.serve Flow.reach ProxyHandler.copy
    dsimp only
    by_cases missing : (handler.request.headers.get? "Destination").getD [] = []
    · rw [if_pos missing, if_pos missing]
      rfl
    · rw [if_neg missing, if_neg missing, bind_assoc]
      refine congrArg _ (funext fun req => ?_)
      rw [bind_assoc]
      exact congrArg _ (funext fun copied => (reachCopy_resume ..).symm)

end Flows

/-! ## What is read is a real object -/

def Event.runsStorlet : Event → Bool
  | .invocationFlow .proxy => true
  | _ => false

/-- The storlet is not run on the proxy. -/
def Unrun {α : Type} (run : Handler α) : Prop := Every (fun event => event.runsStorlet = false) run

def StopsEarly (run : Handler Response) : Prop :=
  Unrun run ∧ ∀ resp, run.result = .ok resp → resp.isSuccess = false

section Real

variable (swift : Swift) (conf : HandlerConf) (pipeline : Pipeline) (handler : ProxyHandler)
  (extra : ExtraConf) (subs : Nat → Pipeline)

/-- The answer to a GET of the resource in the account of the requester. -/
def Answered (req : Request) (i : Nat) (path : Text × Text) (resp : Response) : Prop :=
  ((subs i).app (swift.makeSubrequest (handler.withOwnAccount req) "GET" path.1 path.2
    .empty)).result = .ok resp

def inputOf (resp : Response) : StorletData :=
  ⟨getUserMetadata resp.headers, .iter resp.body.content⟩

structure RealInputs (inv : ProxyInvocation) (sreq : ContainerStorletRequest) : Prop where
  count : sreq.extraDataList.length = (extra.resources handler.request.headers).length
  real : ∀ i name, (extra.resources handler.request.headers)[i]? = some name →
    ∃ path resp, extra.splitPath name = some path ∧
      Answered swift handler subs inv.request i path resp ∧ resp.isSuccess ∧
      sreq.extraDataList[i]? = some (inputOf resp)

/-- The flow comes to run the storlet. -/
def Flow.Reaches (flow : Flow) (inv : ProxyInvocation) : Prop :=
  (flow.reach swift conf pipeline handler).result = .ok (.inr inv)

structure ExtraResourcesReal (flow : Flow) : Prop where
  /-- No other request is given to a gateway: gateways that agree on these are not told apart. -/
  inputs : ∀ one other : Gateway,
    (∀ inv sreq, flow.Reaches swift conf pipeline handler inv →
      RealInputs swift handler extra subs inv sreq → one sreq = other sreq) →
    flow.serveWith swift conf one pipeline handler subs =
      flow.serveWith swift conf other pipeline handler subs
  fails : ∀ (gateway : Gateway) inv i name path resp,
    flow.Reaches swift conf pipeline handler inv →
    (extra.resources handler.request.headers)[i]? = some name →
    extra.splitPath name = some path →
    Answered swift handler subs inv.request i path resp → resp.isSuccess = false →
    StopsEarly (flow.serveWith swift conf gateway pipeline handler subs)

/-- Every subrequest for a resource is answered with success. -/
def AllSucceed (inv : ProxyInvocation) : Prop :=
  ∀ i name path resp, (extra.resources handler.request.headers)[i]? = some name →
    extra.splitPath name = some path →
    Answered swift handler subs inv.request i path resp → resp.isSuccess

end Real

theorem mapM_getElem? {α β : Type} {f : α → Option β} {xs : List α} {ys : List β}
    (mapped : xs.mapM f = some ys) :
    ys.length = xs.length ∧
      ∀ (i : Nat) (x : α), xs[i]? = some x → ∃ y, f x = some y ∧ ys[i]? = some y := by
  induction xs generalizing ys with
  | nil =>
    obtain rfl := Option.some.inj mapped
    exact ⟨rfl, fun i x at_i => by simp at at_i⟩
  | cons first rest ih =>
    rw [List.mapM_cons] at mapped
    obtain ⟨y, here, mapped⟩ := Option.bind_eq_some_iff.mp mapped
    obtain ⟨others, there, mapped⟩ := Option.bind_eq_some_iff.mp mapped
    obtain rfl := Option.some.inj mapped
    obtain ⟨count, each⟩ := ih there
    refine ⟨congrArg (· + 1) count, fun i x at_i => ?_⟩
    cases i with
    | zero =>
      obtain rfl := Option.some.inj at_i
      exact ⟨y, here, rfl⟩
    | succ i => exact each i x at_i

section Proofs

variable {swift : Swift} {conf : HandlerConf} {pipeline : Pipeline} {handler : ProxyHandler}
  {extra : ExtraConf} {subs : Nat → Pipeline}

theorem getResponse_unrun (req : Request) : Unrun (ProxyHandler.getResponse pipeline.app req) := by
  refine Every.bind ?_ fun _ _ => ?_
  · intro event inside
    obtain rfl := List.mem_singleton.mp inside
    rfl
  · intro event inside
    rcases pipeline.below req event inside with rfl | rfl <;> rfl

theorem getExtraDataAt_ok (swift : Swift) (subs : Nat → Pipeline) (req : Request) (i : Nat)
    (paths : List (Text × Text)) :
    ∃ data, (getExtraDataAt swift subs req i paths).result = .ok data ∧
      data.length = paths.length ∧
      ∀ k path, paths[k]? = some path → ∃ resp,
        ((subs (i + k)).app (swift.makeSubrequest req "GET" path.1 path.2 .empty)).result =
          .ok resp ∧ data[k]? = some (inputOf resp) := by
  induction paths generalizing i with
  | nil => exact ⟨[], rfl, rfl, fun k path at_k => by simp at at_k⟩
  | cons path rest ih =>
    obtain ⟨others, gathered, count, each⟩ := ih (i + 1)
    obtain ⟨resp, answered⟩ :=
      (subs i).answers (swift.makeSubrequest req "GET" path.1 path.2 .empty)
    have first : (ProxyHandler.getResponse (subs i).app
        (swift.makeSubrequest req "GET" path.1 path.2 .empty)).result = .ok resp := answered
    refine ⟨inputOf resp :: others, ?_, congrArg (· + 1) count, fun k other at_k => ?_⟩
    · unfold getExtraDataAt
      rw [bind_of_ok first, bind_of_ok gathered]
      rfl
    · cases k with
      | zero =>
        obtain rfl := Option.some.inj at_k
        exact ⟨resp, answered, rfl⟩
      | succ k =>
        have later := each k other at_k
        rwa [Nat.add_right_comm] at later

theorem build_registered {req : Request} (params : Dict Text) (sheaders : Headers) (sbody : Body)
    (registered : Registered swift req) : ∃ sreq,
      buildStorletRequest (.ok (getStorletInvocationOptions swift req)) req params sheaders sbody =
        .ok sreq :=
  (init_ok_iff ..).mpr registered

theorem build_unregistered {req : Request} (params : Dict Text) (sheaders : Headers) (sbody : Body)
    (unregistered : ¬ Registered swift req) : ∃ message,
      buildStorletRequest (.ok (getStorletInvocationOptions swift req)) req params sheaders sbody =
        .error (.valueError message) := by
  unfold Registered at unregistered
  change ∃ message, ContainerStorletRequest.init _ _ _ _ = _
  unfold ContainerStorletRequest.init
  cases main : (getStorletInvocationOptions swift req).storlet.get? "storlet_main" with
  | none => exact ⟨_, rfl⟩
  | some storletMain =>
    cases language : (getStorletInvocationOptions swift req).storlet.get? "storlet_language" with
    | none => exact ⟨_, rfl⟩
    | some storletLanguage =>
      exact absurd ⟨Option.isSome_of_eq_some main, Option.isSome_of_eq_some language⟩ unregistered

/-- One request is built of the answers, and the storlet is run on it. -/
theorem run_registered (subs : Nat → Pipeline) (inv : ProxyInvocation)
    (parsed : extra.parse handler.request.headers = .ok handler.extraResources)
    (registered : Registered swift inv.request) :
    ∃ (sreq : ContainerStorletRequest) (front : List Event),
      (AllSucceed swift handler extra subs inv → RealInputs swift handler extra subs inv sreq) ∧
      ∀ gateway, inv.run swift gateway handler subs =
        ⟨front ++ (invokeGateway .proxy gateway sreq).trace,
          (invokeGateway .proxy gateway sreq).result⟩ := by
  obtain ⟨sreq, built⟩ := build_registered handler.params inv.sheaders inv.sbody registered
  obtain ⟨data, gathered, count, each⟩ := getExtraDataAt_ok swift subs
    (handler.withOwnAccount inv.request) 0 handler.extraResources
  obtain ⟨named, paths⟩ := mapM_getElem? (extra.parse_ok _ parsed)
  refine ⟨{ sreq with extraDataList := data }, (getExtraDataAt swift subs
    (handler.withOwnAccount inv.request) 0 handler.extraResources).trace,
    fun succeed => ?_, fun gateway => ?_⟩
  · constructor
    · exact count.trans named
    · intro i name at_i
      obtain ⟨path, split, listed⟩ := paths i name at_i
      obtain ⟨resp, answered, input⟩ := each i path listed
      rw [Nat.zero_add] at answered
      exact ⟨path, resp, split, answered, succeed i name path resp at_i split answered, input⟩
  · unfold ProxyInvocation.run
    rw [built, lift_ok_bind, bind_of_ok gathered]

theorem run_unregistered (handler : ProxyHandler) (subs : Nat → Pipeline) (inv : ProxyInvocation)
    (unregistered : ¬ Registered swift inv.request) :
    ∃ message, ∀ gateway,
      inv.run swift gateway handler subs = Traced.throw (.valueError message) := by
  obtain ⟨message, raises⟩ := build_unregistered handler.params inv.sheaders inv.sbody unregistered
  refine ⟨message, fun gateway => ?_⟩
  unfold ProxyInvocation.run
  rw [raises, lift_error_bind]

theorem complete_raised (pipeline : Pipeline) (inv : ProxyInvocation) (message : String) :
    StopsEarly (inv.complete pipeline (Traced.throw (.valueError message))) := by
  unfold ProxyInvocation.complete
  cases inv.ending with
  | respond resp =>
    constructor
    · intro event inside
      obtain rfl := List.mem_singleton.mp inside
      rfl
    · intro out ends
      cases ends
  | store => exact ⟨every_of_silent rfl, fun out ends => by cases ends⟩
  | storeCopy source srcResp => exact ⟨every_of_silent rfl, fun out ends => by cases ends⟩

/-- Nothing undoes what the run of the storlet has done. -/
theorem complete_trace (inv : ProxyInvocation) (run : Handler StorletResponse) :
    ∀ event ∈ run.trace, event ∈ (inv.complete pipeline run).trace := by
  intro event inside
  unfold ProxyInvocation.complete
  cases inv.ending with
  | respond resp =>
    refine List.mem_cons_of_mem _ ?_
    rw [trace_catching]
    exact (mem_trace_bind ..).mpr (.inl inside)
  | store => exact (mem_trace_bind ..).mpr (.inl inside)
  | storeCopy source srcResp => exact (mem_trace_bind ..).mpr (.inl inside)

theorem verifyAccess_unrun (req : Request) :
    Unrun (ProxyHandler.verifyAccessToStorlet swift conf pipeline.app req) := by
  refine Every.bind (getResponse_unrun _) fun resp _ => ?_
  split
  · exact Every.bind (every_of_silent rfl) fun _ _ =>
      Every.bind (every_of_silent rfl) fun _ _ => every_of_silent rfl
  · exact every_of_silent rfl

theorem authorize_unrun : Unrun (handler.authorize swift conf pipeline.app) :=
  Every.bind (verifyAccess_unrun _) fun _ _ => every_of_silent rfl

theorem forward_unrun : Unrun (handler.forward swift conf pipeline.app) := by
  unfold ProxyHandler.forward
  split
  · exact every_of_silent rfl
  · refine Every.bind ?_ fun req _ => Every.bind (getResponse_unrun _) fun resp _ => ?_
    · exact Every.bind (verifyAccess_unrun _) fun _ _ =>
        Every.bind (every_of_silent rfl) fun _ _ => every_of_silent rfl
    · split
      · unfold ProxyHandler.retryWithReferer
        split
        · exact every_of_silent rfl
        · split
          · exact every_of_silent rfl
          · exact Every.bind (getResponse_unrun _) fun _ _ => every_of_silent rfl
      · exact every_of_silent rfl

theorem reachCopy_unrun (req : Request) (source : Text × Text) :
    Unrun (reachCopy swift conf pipeline handler req source) := by
  refine Every.bind ?_ fun srcResp _ => Every.bind (every_of_silent rfl) fun onProxy _ => ?_
  · exact Every.bind (every_of_silent rfl) fun _ _ => getResponse_unrun _
  · split
    · exact every_of_silent rfl
    · exact Every.bind (getResponse_unrun _) fun _ _ => every_of_silent rfl

theorem reach_unrun (flow : Flow) : Unrun (flow.reach swift conf pipeline handler) := by
  cases flow with
  | get =>
    refine Every.bind forward_unrun fun exchanged _ => ?_
    obtain ⟨req, resp⟩ := exchanged
    dsimp only
    split
    · refine Every.bind (every_of_silent rfl) fun onProxy _ => ?_
      split <;> exact every_of_silent rfl
    · exact every_of_silent rfl
  | put =>
    refine Every.bind authorize_unrun fun req _ => ?_
    split
    · exact Every.bind (every_of_silent rfl) fun _ _ => reachCopy_unrun _ _
    · exact every_of_silent rfl
  | copy =>
    unfold Flow.reach
    dsimp only
    split
    · exact every_of_silent rfl
    · exact Every.bind authorize_unrun fun _ _ =>
        Every.bind (every_of_silent rfl) fun _ _ => reachCopy_unrun _ _

theorem serveWith_of_reaches {flow : Flow} {inv : ProxyInvocation} (gateway : Gateway)
    (reached : flow.Reaches swift conf pipeline handler inv) :
    flow.serveWith swift conf gateway pipeline handler subs =
      ⟨(flow.reach swift conf pipeline handler).trace ++
          (inv.complete pipeline (inv.run swift gateway handler subs)).trace,
        (inv.complete pipeline (inv.run swift gateway handler subs)).result⟩ :=
  bind_of_ok reached _

end Proofs

/-- The extra inputs are real objects if and only if every subrequest of a storlet that comes
to be run is answered with success. -/
theorem extra_resources_real_iff (swift : Swift) (conf : HandlerConf) (pipeline : Pipeline)
    (handler : ProxyHandler) (extra : ExtraConf) (subs : Nat → Pipeline) (flow : Flow)
    (parsed : extra.parse handler.request.headers = .ok handler.extraResources) :
    ExtraResourcesReal swift conf pipeline handler extra subs flow ↔
      ∀ inv, flow.Reaches swift conf pipeline handler inv → Registered swift inv.request →
        AllSucceed swift handler extra subs inv := by
  constructor
  · intro real inv reached registered i name path resp at_i split answered
    by_contra failed
    obtain ⟨sreq, front, -, runs⟩ := run_registered subs inv parsed registered
    obtain ⟨unrun, -⟩ := real.fails (fun _ => .error .other) inv i name path resp reached at_i split
      answered (Bool.eq_false_iff.mpr failed)
    rw [serveWith_of_reaches _ reached] at unrun
    have ran : Event.invocationFlow .proxy ∈
        (inv.run swift (fun _ => .error .other) handler subs).trace := by
      rw [runs]
      exact List.mem_append_right _ (List.mem_cons_self ..)
    exact Bool.noConfusion
      (unrun _ (List.mem_append_right _ (complete_trace inv _ _ ran)))
  · intro succeed
    constructor
    · intro one other agree
      unfold Flow.serveWith
      cases ends : (flow.reach swift conf pipeline handler).result with
      | error exception => rw [bind_of_error ends, bind_of_error ends]
      | ok reached =>
        rw [bind_of_ok ends, bind_of_ok ends]
        cases reached with
        | inl resp => rfl
        | inr inv =>
          have same : inv.run swift one handler subs = inv.run swift other handler subs := by
            by_cases registered : Registered swift inv.request
            · obtain ⟨sreq, front, real, runs⟩ :=
                run_registered subs inv parsed registered
              have both := agree inv sreq ends (real (succeed inv ends registered))
              rw [runs, runs, invokeGateway, invokeGateway, both]
            · obtain ⟨message, raises⟩ := run_unregistered handler subs inv registered
              rw [raises, raises]
          simp only [resume, same]
    · intro gateway inv i name path resp reached at_i split answered failed
      by_cases registered : Registered swift inv.request
      · have success := succeed inv reached registered i name path resp at_i split answered
        rw [failed] at success
        cases success
      · obtain ⟨message, raises⟩ := run_unregistered handler subs inv registered
        obtain ⟨unrun, ends⟩ := complete_raised pipeline inv message
        rw [serveWith_of_reaches _ reached, raises]
        refine ⟨fun event inside => ?_, ends⟩
        rcases List.mem_append.mp inside with early | late
        · exact reach_unrun flow event early
        · exact unrun event late

/-- The header is read as `list_from_csv` and `split_path` read it. -/
def plainExtra : ExtraConf where
  listFromCsv header := ((split ',' header).map strip).filter (· ≠ [])
  splitPath path := do
    let (front, rest) ← splitOnce '/' path
    let (container, obj) ← splitOnce '/' rest
    if front = [] ∧ container ≠ [] ∧ obj ≠ [] then some (container, obj) else none

/-- The storlet and one object are there; `extra` is the status of every other one. -/
def oneObject (extra : Nat) : Pipeline where
  app req := pure <|
    if req.method = "HEAD" then
      ⟨200, .ofList [("Content-Length", "3"), ("X-Timestamp", "1"),
        ("X-Object-Meta-Storlet-Main", "up.Up"), ("X-Object-Meta-Storlet-Language", "Python")],
        { origin := .object, content := [] }⟩
    else if req.obj = "o" then ⟨200, .empty, { origin := .object, content := [1] }⟩
    else ⟨extra, .empty, { origin := .error, content := [2] }⟩
  below := fun _ => every_of_silent rfl
  answers := fun _ => ⟨_, rfl⟩

def withExtra : ProxyHandler where
  request := ⟨"GET", "v1", "AUTH_a", "c", "o",
    .ofList [("X-Run-Storlet", "up.py"), ("X-Storlet-Extra-Resources", "/c/other")], .empty, []⟩
  params := .empty
  extraResources := [("c", "other")]

theorem extra_resources_real_of_found :
    ExtraResourcesReal .rangeless {} (oneObject 200) withExtra plainExtra (fun _ => oneObject 200)
      .get := by
  apply (extra_resources_real_iff .rangeless {} (oneObject 200) withExtra plainExtra
    (fun _ => oneObject 200) .get (by decide)).mpr
  intro inv reached _ i name path resp _ _ answered
  obtain rfl := Except.ok.inj answered
  split_ifs <;> rfl

theorem error_page_is_read : ¬ ∀ (swift : Swift) (conf : HandlerConf) (pipeline : Pipeline)
    (handler : ProxyHandler) (extra : ExtraConf) (subs : Nat → Pipeline) (flow : Flow),
    extra.parse handler.request.headers = .ok handler.extraResources →
    ExtraResourcesReal swift conf pipeline handler extra subs flow := by
  intro always
  have real := always .rangeless {} (oneObject 404) withExtra plainExtra (fun _ => oneObject 404) .get
    (by decide)
  obtain ⟨unrun, -⟩ := real.fails (fun _ => .error .other) _ 0 "/c/other" ("c", "other") _ rfl
    (by decide) (by decide) rfl (by decide)
  revert unrun
  unfold Unrun Every
  decide

end Storlets
