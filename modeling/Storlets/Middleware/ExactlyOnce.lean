import Storlets.Middleware.Object
import Storlets.Middleware.Proxy

set_option autoImplicit false

/-!
# A GET through both middlewares

The proxy handler's pipeline ends in the object server's middleware. Which of the
two applies the storlet is read off the trace.
-/

namespace Storlets

open PyStr Traced

def Event.site? : Event → Option Site
  | .applyStorlet site => some site
  | _ => none

/-- The handlers that called `apply_storlet`, in order. -/
def applications (trace : List Event) : List Site := trace.filterMap Event.site?

/-- A Swift cluster with the storlet middleware on both servers, under one configuration. -/
structure Cluster where
  swift : Swift
  conf : HandlerConf
  objectGateway : Gateway
  proxyGateway : Gateway
  /-- The proxy's own answer to a request it does not let down to the object server. -/
  deny : Request → Option Response
  /-- The object server's answer, without the storlet middleware. -/
  plain : Request → Response
  plain_origin : ∀ req, (plain req).body.origin = .object

namespace Cluster

variable (cluster : Cluster)

/-- The object server's response as the proxy handler sees it. -/
def shown (resp : Response) : Response :=
  let headers := resp.headers.pop "X-Symlink-Target"
  { resp with
    headers := match resp.headers.get? "X-Object-Sysmeta-Symlink-Target" with
      | some target => headers.set "X-Symlink-Target" target
      | none => headers }

def objectServer (req : Request) : Handler Response :=
  objectMiddleware cluster.swift cluster.conf cluster.objectGateway
    (fun req => pure (cluster.plain req)) req

def app : App := fun req =>
  match cluster.deny req with
  | some resp => pure resp
  | none => do
      let resp ← cluster.objectServer req
      return shown resp

end Cluster

@[simp] theorem applications_nil : applications [] = [] := rfl

@[simp] theorem applications_append (front back : List Event) :
    applications (front ++ back) = applications front ++ applications back :=
  List.filterMap_append

@[simp] theorem applications_getResponse (req : Request) (rest : List Event) :
    applications (.getResponse req :: rest) = applications rest := rfl

@[simp] theorem applications_invocationFlow (site : Site) (rest : List Event) :
    applications (.invocationFlow site :: rest) = applications rest := rfl

@[simp] theorem applications_applyStorlet (site : Site) (rest : List Event) :
    applications (.applyStorlet site :: rest) = site :: applications rest := rfl

theorem applications_bind {α β : Type} (first : Handler α) (next : α → Handler β) :
    applications (first >>= next).trace =
      applications first.trace ++
        match first.result with
        | .ok value => applications (next value).trace
        | .error _ => [] := by
  unfold applications
  rw [filterMap_trace_bind]
  cases first.result <;> rfl

theorem applications_bind_quiet {α β : Type} (first : Handler α) (next : α → Handler β)
    (front : applications first.trace = []) (back : ∀ value, applications (next value).trace = []) :
    applications (first >>= next).trace = [] := by
  rw [applications_bind, front]
  split <;> simp [back]

theorem invokeGateway_quiet (site : Site) (gateway : Gateway) (sreq : ContainerStorletRequest) :
    applications (invokeGateway site gateway sreq).trace = [] := rfl

theorem applyStorlet_applications (site : Site) (callGateway : Response → Handler StorletResponse)
    (resp : Response) (quiet : applications (callGateway resp).trace = []) :
    applications (applyStorlet site callGateway resp).trace = [site] := by
  have body : applications (callGateway resp >>= fun sresp =>
      pure (⟨200, appliedHeaders resp.headers sresp.userMetadata,
        { origin := .storlet, content := sresp.content }⟩ : Response)).trace = [] :=
    applications_bind_quiet _ _ quiet (fun _ => rfl)
  simpa [applyStorlet] using body

/-- What comes out of `apply_storlet` is the storlet's output or an error. -/
theorem applyStorlet_result (site : Site) (callGateway : Response → Handler StorletResponse)
    (resp out : Response) (ends : (applyStorlet site callGateway resp).result = .ok out) :
    (out.status = 200 ∧ out.body.origin = .storlet ∧
      ∃ sresp, out.headers = appliedHeaders resp.headers sresp) ∨ out = errorResponse 503 := by
  simp only [applyStorlet, emit_bind, result_catching] at ends
  cases called : (callGateway resp).result with
  | ok sresp =>
    rw [bind_of_ok called] at ends
    simp only [result_pure, Except.ok.injEq] at ends
    subst ends
    exact .inl ⟨rfl, rfl, sresp.userMetadata, rfl⟩
  | error exception =>
    rw [bind_of_error called] at ends
    cases exception with
    | gateway raised =>
      dsimp only at ends
      split at ends
      · exact .inr (Except.ok.inj ends).symm
      · cases ends
    | http | valueError | keyError | typeError => cases ends


/-! ## The request the proxy forwards -/

section Forward

variable {swift : Swift} {conf : HandlerConf} {app : App}

theorem getResponse_applications (req : Request) :
    applications (ProxyHandler.getResponse app req).trace = applications (app req).trace := rfl

theorem augment_get? (req : Request) (params : Dict Text) (name : Text)
    (differs : ¬ title "X-Storlet-".toList <+: title name) :
    (ProxyHandler.augmentStorletRequest req params).headers.get? name = req.headers.get? name :=
  Headers.get?_update_prefixed _ _ _ differs _

theorem withStorletRange_get? (req : Request) (onProxy : Bool) (name : Text)
    (other : title name ≠ title "Range".toList) :
    (ProxyHandler.withStorletRange req onProxy).headers.get? name = req.headers.get? name := by
  unfold ProxyHandler.withStorletRange
  split
  · rw [Headers.get?_set, if_neg other]
  · rfl

theorem withStorletRange_range (req : Request) (onProxy : Bool)
    (plain : isRangeRequest req.headers = false)
    (range : isRangeRequest (ProxyHandler.withStorletRange req onProxy).headers) :
    isStorletRangeRequest (ProxyHandler.withStorletRange req onProxy).headers := by
  unfold isStorletRangeRequest Headers.contains
  rw [withStorletRange_get? _ _ _ (by decide)]
  unfold ProxyHandler.withStorletRange at range
  split at range
  · next value found => rw [found]; rfl
  · rw [plain] at range
    cases range

theorem verifyAccessToStorlet_applications (req : Request)
    (quiet : ∀ req : Request, req.headers.contains "X-Run-Storlet" = false →
      applications (app req).trace = []) :
    applications (ProxyHandler.verifyAccessToStorlet swift conf app req).trace = [] := by
  unfold ProxyHandler.verifyAccessToStorlet
  refine applications_bind_quiet _ _ ?_ ?_
  · rw [getResponse_applications]
    apply quiet
    rw [swift.subrequest_bare]
    split
    · simp only [Headers.ofList, Headers.update, List.foldl, Headers.contains_set]
      decide
    · rfl
  · intro resp
    split
    · exact applications_bind_quiet _ _ rfl fun _ => applications_bind_quiet _ _ rfl fun _ => rfl
    · rfl

theorem retryWithReferer_spec {req fwd : Request} {resp : Response}
    (ends : (ProxyHandler.retryWithReferer app req).result = .ok (fwd, resp)) :
    (∃ referer, fwd = { req with headers := req.headers.set "Referer" referer }) ∧
      (app fwd).result = .ok resp ∧
      applications (ProxyHandler.retryWithReferer app req).trace = applications (app fwd).trace := by
  unfold ProxyHandler.retryWithReferer at ends ⊢
  split at ends
  · cases ends
  · next userName found =>
    split at ends
    · cases ends
    · next named =>
      rw [if_neg named]
      obtain ⟨answer, answered, last, trace⟩ := result_bind_eq_ok ends
      obtain ⟨rfl, rfl⟩ := Prod.mk.inj (Except.ok.inj last)
      refine ⟨⟨_, rfl⟩, answered, ?_⟩
      rw [trace]
      simp [getResponse_applications]

theorem exchange_spec {req fwd : Request} {resp : Response}
    (denied : ∀ req resp, (app req).result = .ok resp → resp.status = 403 →
      applications (app req).trace = [])
    (ends : (ProxyHandler.exchange app req).result = .ok (fwd, resp)) :
    (fwd = req ∨ ∃ referer, fwd = { req with headers := req.headers.set "Referer" referer }) ∧
      (app fwd).result = .ok resp ∧
      applications (ProxyHandler.exchange app req).trace = applications (app fwd).trace := by
  obtain ⟨first, answered, ends, trace⟩ := result_bind_eq_ok ends
  have front : (ProxyHandler.exchange app req).trace = _ := trace
  rw [front, applications_append, getResponse_applications]
  by_cases refused : first.status = 403
  · rw [if_pos refused] at ends ⊢
    obtain ⟨retried, again, later⟩ := retryWithReferer_spec ends
    rw [denied req first answered refused, later]
    exact ⟨.inr retried, again, rfl⟩
  · rw [if_neg refused] at ends ⊢
    obtain ⟨rfl, rfl⟩ := Prod.mk.inj (Except.ok.inj ends)
    exact ⟨.inl rfl, answered, by simp⟩

/-- What a request keeps from being prepared to being forwarded. -/
structure Prepared (swift : Swift) (conf : HandlerConf) (handler : ProxyHandler)
    (req : Request) : Prop where
  method : req.method = handler.request.method
  run : req.headers.contains "X-Run-Storlet" = handler.request.headers.contains "X-Run-Storlet"
  range : isRangeRequest req.headers → isStorletRangeRequest req.headers
  parsed : ∃ onProxy, executeRangeOnProxy swift conf req.headers = .ok onProxy

theorem Prepared.withReferer {handler : ProxyHandler} {req : Request}
    (prepared : Prepared swift conf handler req) (referer : Text) :
    Prepared swift conf handler { req with headers := req.headers.set "Referer" referer } := by
  have same (name : Text) (other : title name ≠ title "Referer".toList) :
      (req.headers.set "Referer" referer).get? name = req.headers.get? name := by
    rw [Headers.get?_set, if_neg other]
  refine ⟨prepared.method, ?_, ?_, ?_⟩
  · rw [← prepared.run, Headers.contains, Headers.contains, same _ (by decide)]
  · have range := prepared.range
    simp only [isRangeRequest, isStorletRangeRequest, Headers.contains] at range ⊢
    rwa [same _ (by decide), same _ (by decide)]
  · rw [executeRangeOnProxy_congr (same _ (by decide)) (same _ (by decide)) (same _ (by decide))]
    exact prepared.parsed

theorem prepare_spec {handler : ProxyHandler} {req : Request}
    (plain : isRangeRequest handler.request.headers = false)
    (ends : (handler.prepare swift conf app).result = .ok req) :
    Prepared swift conf handler req := by
  obtain ⟨params, -, ends, -⟩ := result_bind_eq_ok ends
  obtain ⟨onProxy, parsed, ends, -⟩ := result_bind_eq_ok ends
  obtain rfl := Except.ok.inj ends
  have same (name : Text) (other : title name ≠ title "Range".toList) :=
    withStorletRange_get? (ProxyHandler.augmentStorletRequest handler.request params) onProxy
      name other
  refine ⟨?_, ?_, ?_, onProxy, ?_⟩
  · unfold ProxyHandler.withStorletRange
    split <;> rfl
  · rw [Headers.contains, Headers.contains, same _ (by decide), augment_get? _ _ _ (by decide)]
  · apply withStorletRange_range
    rw [isRangeRequest, Headers.contains, augment_get? _ _ _ (by decide)]
    exact plain
  · rw [executeRangeOnProxy_congr (same _ (by decide)) (same _ (by decide)) (same _ (by decide))]
    exact parsed

theorem prepare_applications (handler : ProxyHandler)
    (quiet : ∀ req : Request, req.headers.contains "X-Run-Storlet" = false →
      applications (app req).trace = []) :
    applications (handler.prepare swift conf app).trace = [] :=
  applications_bind_quiet _ _ (verifyAccessToStorlet_applications _ quiet) fun _ =>
    applications_bind_quiet _ _ rfl fun _ => rfl

theorem forward_spec {handler : ProxyHandler} {fwd : Request} {resp : Response}
    (quiet : ∀ req : Request, req.headers.contains "X-Run-Storlet" = false →
      applications (app req).trace = [])
    (denied : ∀ req resp, (app req).result = .ok resp → resp.status = 403 →
      applications (app req).trace = [])
    (ends : (handler.forward swift conf app).result = .ok (fwd, resp)) :
    Prepared swift conf handler fwd ∧ (app fwd).result = .ok resp ∧
      applications (handler.forward swift conf app).trace = applications (app fwd).trace := by
  unfold ProxyHandler.forward at ends ⊢
  split at ends
  · cases ends
  next plain =>
  rw [if_neg plain]
  obtain ⟨req, made, ends, trace⟩ := result_bind_eq_ok ends
  have prepared := prepare_spec (Bool.eq_false_iff.mpr plain) made
  obtain ⟨sent, answered, applied⟩ := exchange_spec denied ends
  rw [trace, applications_append, prepare_applications handler quiet, applied]
  refine ⟨?_, answered, rfl⟩
  rcases sent with rfl | ⟨referer, rfl⟩
  · exact prepared
  · exact prepared.withReferer referer

end Forward

/-! ## The object server's side -/

theorem updateStorletParameters_error {req : Request} {exception : PyError}
    (raises : updateStorletParametersFromHeaders req = .error exception) :
    ∃ message, exception = .valueError message := by
  unfold updateStorletParametersFromHeaders at raises
  generalize req.headers.items = items at raises
  generalize req.query = params at raises
  induction items generalizing params with
  | nil => cases raises
  | cons item rest ih =>
    rw [List.foldlM_cons] at raises
    dsimp only at raises
    split at raises
    · split at raises
      · exact ih _ raises
      · exact ⟨_, (Except.error.inj raises).symm⟩
    · exact ih _ raises

theorem buildStorletRequest_error {options : Except PyError InvocationOptions} {req : Request}
    {params : Dict Text} {sheaders : Headers} {sbody : Body} {exception : PyError}
    (raises : buildStorletRequest options req params sheaders sbody = .error exception) :
    options = .error exception ∨ ∃ message, exception = .valueError message := by
  unfold buildStorletRequest at raises
  cases options with
  | error first =>
    cases raises
    exact .inl rfl
  | ok options =>
    right
    change ContainerStorletRequest.init _ _ _ _ = _ at raises
    unfold ContainerStorletRequest.init at raises
    split at raises
    · exact ⟨_, (Except.error.inj raises).symm⟩
    · exact ⟨_, (Except.error.inj raises).symm⟩
    · cases raises

/-- An exception the middleware answers with a 500. -/
def PyError.Internal : PyError → Prop
  | .http _ _ => False
  | _ => True

theorem exceptionResponse_internal {exception : PyError} (internal : exception.Internal) :
    exceptionResponse exception = errorResponse 500 := by
  cases exception <;> first | rfl | exact internal.elim

theorem objectOptions_error {swift : Swift} {req : Request} {exception : PyError}
    (raises : ObjectHandler.getStorletInvocationOptions swift req = .error exception) :
    exception.Internal := by
  unfold ObjectHandler.getStorletInvocationOptions at raises
  dsimp only at raises
  split at raises
  · cases raises
  · split at raises
    · cases raises; trivial
    · split at raises
      · cases raises
      · cases raises; trivial
    · cases raises
    · cases raises; trivial

theorem objectCallGateway_error {swift : Swift} {gateway : Gateway} {handler : ObjectHandler}
    {resp : Response} {exception : PyError}
    (raises : (handler.callGateway swift gateway resp).result = .error exception) :
    exception.Internal := by
  unfold ObjectHandler.callGateway at raises
  cases built : buildStorletRequest (ObjectHandler.getStorletInvocationOptions swift handler.request)
      handler.request handler.params resp.headers resp.body with
  | error first =>
    rw [built] at raises
    cases raises
    rcases buildStorletRequest_error built with fails | ⟨message, rfl⟩
    · exact objectOptions_error fails
    · trivial
  | ok sreq =>
    rw [built, lift_ok_bind] at raises
    change Except.mapError _ (gateway sreq) = _ at raises
    cases answer : gateway sreq with
    | ok value => rw [answer] at raises; cases raises
    | error raised => rw [answer] at raises; cases raises; trivial

namespace Cluster

variable (cluster : Cluster)

/-- Whether the object handler leaves the storlet to the proxy; its checks may raise. -/
def leftToProxy (req : Request) : Except PyError Bool := do
  let params ← updateStorletParametersFromHeaders req
  ObjectHandler.notRunnable cluster.swift cluster.conf ⟨req, params⟩ (cluster.plain req)

/-- A response that is not the object's bytes: the storlet's output, or an error. -/
def Processed (req : Request) (resp : Response) : Prop :=
  (resp.status = 200 ∧ resp.body.origin = .storlet ∧
    ∃ metadata, resp.headers = appliedHeaders (cluster.plain req).headers metadata) ∨
  (resp.isSuccess = false ∧ resp.status ≠ 403 ∧ resp.body.origin = .error)

variable {cluster}

theorem errorResponse_processed {req : Request} {status : Nat} (failed : 400 ≤ status)
    (other : status ≠ 403) : cluster.Processed req (errorResponse status) := by
  refine .inr ⟨?_, other, rfl⟩
  have above : ¬ status < 300 := by omega
  simp [Response.isSuccess, errorResponse, above]

theorem objectServer_bare {req : Request} (bare : req.headers.contains "X-Run-Storlet" = false) :
    cluster.objectServer req = pure (cluster.plain req) := by
  unfold objectServer objectMiddleware
  rw [bare]
  rfl

theorem objectGet_eq (handler : ObjectHandler) :
    handler.get cluster.swift cluster.conf cluster.objectGateway
        (fun req => pure (cluster.plain req)) =
      if isRangeRequest handler.request.headers &&
          !isStorletRangeRequest handler.request.headers then
        Traced.throw (.http 416 "Storlet execution with range header is not supported")
      else if (cluster.plain handler.request).isSuccess then
        match handler.notRunnable cluster.swift cluster.conf (cluster.plain handler.request) with
        | .error exception => Traced.throw exception
        | .ok true => pure (cluster.plain handler.request)
        | .ok false =>
            applyStorlet .object (handler.callGateway cluster.swift cluster.objectGateway)
              (cluster.plain handler.request)
      else pure (cluster.plain handler.request) := by
  unfold ObjectHandler.get
  split
  · rfl
  · rw [Traced.pure_bind]
    split
    · cases handler.notRunnable cluster.swift cluster.conf (cluster.plain handler.request) with
      | error exception => rfl
      | ok left => cases left <;> rfl
    · rfl

theorem objectServer_eq (cluster : Cluster) {req : Request} (run : req.headers.contains "X-Run-Storlet") :
    cluster.objectServer req =
      match updateStorletParametersFromHeaders req with
      | .error exception => pure (exceptionResponse exception)
      | .ok params =>
          catching (ObjectHandler.handleRequest cluster.swift cluster.conf cluster.objectGateway
              (fun req => pure (cluster.plain req)) ⟨req, params⟩)
            fun exception => .ok (exceptionResponse exception) := by
  unfold objectServer objectMiddleware ObjectHandler.init
  rw [if_pos run]
  cases updateStorletParametersFromHeaders req <;> rfl

theorem applyStorlet_error {site : Site} {callGateway : Response → Handler StorletResponse}
    {resp : Response} {exception : PyError}
    (internal : ∀ raised, (callGateway resp).result = .error raised → raised.Internal)
    (raises : (applyStorlet site callGateway resp).result = .error exception) :
    exception.Internal := by
  simp only [applyStorlet, emit_bind, result_catching] at raises
  cases called : (callGateway resp).result with
  | ok sresp => rw [bind_of_ok called] at raises; cases raises
  | error raised =>
    have first := internal raised called
    rw [bind_of_error called] at raises
    cases raised with
    | gateway raised =>
      dsimp only at raises
      split at raises
      · cases raises
      · exact Except.error.inj raises ▸ trivial
    | http => exact first.elim
    | valueError | keyError | typeError => exact Except.error.inj raises ▸ trivial

theorem objectCallGateway_quiet (handler : ObjectHandler) (resp : Response) :
    applications (handler.callGateway cluster.swift cluster.objectGateway resp).trace = [] :=
  applications_bind_quiet _ _ rfl fun _ => invokeGateway_quiet _ _ _

/-- The object handler runs the storlet: the middleware answers with its output or an error. -/
theorem objectApplied {handler : ObjectHandler} {answer : Handler Response}
    (applied : answer = catching (applyStorlet .object
        (handler.callGateway cluster.swift cluster.objectGateway) (cluster.plain handler.request))
        fun exception => .ok (exceptionResponse exception)) :
    applications answer.trace = [.object] ∧
      ∃ resp, answer.result = .ok resp ∧ cluster.Processed handler.request resp := by
  subst applied
  constructor
  · rw [trace_catching]
    exact applyStorlet_applications _ _ _ (objectCallGateway_quiet handler _)
  · rw [result_catching]
    cases ends : (applyStorlet .object (handler.callGateway cluster.swift cluster.objectGateway)
        (cluster.plain handler.request)).result with
    | ok resp =>
      refine ⟨resp, rfl, ?_⟩
      rcases applyStorlet_result _ _ _ _ ends with ⟨status, origin, made⟩ | rfl
      · exact .inl ⟨status, origin, made⟩
      · exact errorResponse_processed (by omega) (by omega)
    | error exception =>
      have internal := applyStorlet_error (fun _ => objectCallGateway_error) ends
      refine ⟨_, rfl, ?_⟩
      rw [exceptionResponse_internal internal]
      exact errorResponse_processed (by omega) (by omega)

/-- What the object server does with a `GET` it can answer, by what the object handler decides. -/
theorem objectServer_spec {req : Request}
    (run : req.headers.contains "X-Run-Storlet") (get : req.method = "GET".toList)
    (range : isRangeRequest req.headers → isStorletRangeRequest req.headers)
    (success : (cluster.plain req).isSuccess) :
    match cluster.leftToProxy req with
    | .error exception => cluster.objectServer req = pure (exceptionResponse exception)
    | .ok true => cluster.objectServer req = pure (cluster.plain req)
    | .ok false => applications (cluster.objectServer req).trace = [.object] ∧
        ∃ resp, (cluster.objectServer req).result = .ok resp ∧ cluster.Processed req resp := by
  have through : (isRangeRequest req.headers && !isStorletRangeRequest req.headers) = false := by
    cases asked : isRangeRequest req.headers with
    | false => rfl
    | true => simp [range asked]
  have answer := objectServer_eq cluster run
  unfold leftToProxy
  cases parsed : updateStorletParametersFromHeaders req with
  | error exception =>
    rw [parsed] at answer
    exact answer
  | ok params =>
    rw [parsed] at answer
    dsimp only at answer
    rw [ObjectHandler.handleRequest, if_pos get, objectGet_eq, through,
      if_neg Bool.false_ne_true, if_pos success] at answer
    change match ObjectHandler.notRunnable _ _ _ _ with
      | .error exception => _ | .ok true => _ | .ok false => _
    cases left : ObjectHandler.notRunnable cluster.swift cluster.conf ⟨req, params⟩
        (cluster.plain req) with
    | error exception =>
      rw [left] at answer
      exact answer
    | ok left' =>
      rw [left] at answer
      cases left' with
      | true => exact answer
      | false => exact objectApplied answer

end Cluster

/-! ## The proxy's side -/

theorem setMetadata_get? {name : Text} (notMeta : ¬ title "X-Object-Meta-".toList <+: title name)
    (notType : title name ≠ title "content-type".toList) (headers : Headers)
    (metadata : Dict Text) :
    (setMetadataInHeaders headers metadata).get? name = headers.get? name := by
  unfold setMetadataInHeaders
  induction metadata.items generalizing headers with
  | nil => rfl
  | cons item rest ih =>
    rw [List.foldl_cons, ih]
    dsimp only
    split
    · next isType =>
      have differs : title name ≠ title item.1 := by rwa [← title_lower item.1, isType]
      rw [Headers.get?_set, if_neg differs]
    · exact Headers.get?_set_prefixed _ _ _ _ _ notMeta

/-- The header is none of those `apply_storlet` writes or removes. -/
def Untouched (name : Text) : Prop :=
  ¬ title "X-Object-Meta-".toList <+: title name ∧
    ∀ other ∈ ["Content-Length", "Transfer-Encoding", "Storlet-Input-Range", "Content-Range",
      "content-type"], title name ≠ title other.toList

instance (name : Text) : Decidable (Untouched name) := by unfold Untouched; infer_instance

theorem appliedHeaders_get? {name : Text} (untouched : Untouched name) (headers : Headers)
    (metadata : Dict Text) :
    (appliedHeaders headers metadata).get? name = headers.get? name := by
  obtain ⟨notMeta, others⟩ := untouched
  simp only [List.forall_mem_cons, List.not_mem_nil, false_implies, implies_true, and_true]
    at others
  obtain ⟨length, encoding, input, range, notType⟩ := others
  unfold appliedHeaders
  rw [setMetadata_get? notMeta notType]
  split
  · rw [Headers.get?_pop, if_neg range, Headers.get?_set, if_neg input, Headers.get?_pop,
      if_neg encoding, Headers.get?_pop, if_neg length]
  · rw [Headers.get?_pop, if_neg encoding, Headers.get?_pop, if_neg length]

namespace Cluster

variable {cluster : Cluster}

theorem shown_status (resp : Response) : (shown resp).status = resp.status := rfl

theorem shown_slo (resp : Response) : isSloResponse (shown resp) = isSloResponse resp := by
  unfold isSloResponse Headers.contains shown
  dsimp only
  split
  · rw [Headers.get?_set, if_neg (by decide), Headers.get?_pop, if_neg (by decide)]
  · rw [Headers.get?_pop, if_neg (by decide)]

theorem shown_symlink (resp : Response) :
    ProxyHandler.isSymlinkResponse (shown resp) = ObjectHandler.isSymlinkResponse resp := by
  unfold ProxyHandler.isSymlinkResponse ObjectHandler.isSymlinkResponse Headers.contains shown
  dsimp only
  split
  · next target found => rw [Headers.get?_set, if_pos rfl, found]
  · next found => rw [Headers.get?_pop, if_pos rfl, found]

theorem app_quiet (req : Request) (bare : req.headers.contains "X-Run-Storlet" = false) :
    applications (cluster.app req).trace = [] := by
  unfold app
  split
  · rfl
  · rw [objectServer_bare bare]
    rfl

/-- A request the object server runs the storlet on is never answered with the object. -/
theorem objectServer_applications (req : Request) :
    applications (cluster.objectServer req).trace = [] ∨
      (applications (cluster.objectServer req).trace = [.object] ∧
        ∃ resp, (cluster.objectServer req).result = .ok resp ∧ cluster.Processed req resp) := by
  cases run : req.headers.contains "X-Run-Storlet" with
  | false => rw [objectServer_bare run]; exact .inl rfl
  | true =>
    have answer := objectServer_eq cluster run
    cases parsed : updateStorletParametersFromHeaders req with
    | error exception => rw [parsed] at answer; rw [answer]; exact .inl rfl
    | ok params =>
      rw [parsed] at answer
      dsimp only at answer
      rw [ObjectHandler.handleRequest, objectGet_eq] at answer
      split at answer
      next =>
        split at answer
        next => rw [answer]; exact .inl rfl
        next =>
          split at answer
          next =>
            cases left : ObjectHandler.notRunnable cluster.swift cluster.conf ⟨req, params⟩
                (cluster.plain req) with
            | error exception => rw [left] at answer; rw [answer]; exact .inl rfl
            | ok left' =>
              rw [left] at answer
              cases left' with
              | true => rw [answer]; exact .inl rfl
              | false => exact .inr (objectApplied answer)
          next => rw [answer]; exact .inl rfl
      next => rw [answer]; exact .inl rfl

theorem app_of_passed {req : Request} (passed : cluster.deny req = none) :
    cluster.app req = cluster.objectServer req >>= fun resp => pure (shown resp) := by
  unfold app
  rw [passed]

theorem app_denied (req : Request) (resp : Response) (ends : (cluster.app req).result = .ok resp)
    (refused : resp.status = 403) : applications (cluster.app req).trace = [] := by
  cases passed : cluster.deny req with
  | some answer =>
    have answered : cluster.app req = pure answer := by unfold app; rw [passed]
    rw [answered]
    rfl
  | none =>
    rw [app_of_passed passed] at ends ⊢
    obtain ⟨served, inner, ends, trace⟩ := result_bind_eq_ok ends
    obtain rfl := Except.ok.inj ends
    rw [trace, applications_append]
    rcases cluster.objectServer_applications req with quiet | ⟨-, out, ends, processed⟩
    · rw [quiet]
      rfl
    · obtain rfl := Except.ok.inj (inner.symm.trans ends)
      rw [shown_status] at refused
      rcases processed with ⟨status, -⟩ | ⟨-, other, -⟩
      · omega
      · exact absurd refused other

theorem getExtraData_quiet (req : Request) (resources : List (Text × Text)) :
    applications
      (ProxyHandler.getExtraData cluster.swift cluster.app req resources).trace = [] := by
  induction resources with
  | nil => rfl
  | cons resource rest ih =>
    unfold ProxyHandler.getExtraData
    refine applications_bind_quiet _ _ ?_ fun resp => applications_bind_quiet _ _ ih fun _ => rfl
    rw [getResponse_applications]
    apply app_quiet
    rw [cluster.swift.subrequest_bare]
    rfl

theorem proxyCallGateway_quiet (handler : ProxyHandler) (req : Request) (resp : Response) :
    applications
      (handler.callGateway cluster.swift cluster.proxyGateway cluster.app req resp).trace = [] :=
  applications_bind_quiet _ _
    (applications_bind_quiet _ _ rfl fun _ =>
      applications_bind_quiet _ _ (getExtraData_quiet _ _) fun _ => rfl)
    fun _ => invokeGateway_quiet _ _ _

variable (cluster) in
def handlerGet (handler : ProxyHandler) : Handler Response :=
  handler.get cluster.swift cluster.conf cluster.proxyGateway cluster.app

/-- The storlet was applied by exactly one handler, and no object bytes come back. -/
def AppliedOnce (run : Handler Response) : Prop :=
  (applications run.trace).length = 1 ∧
    ∀ resp, run.result = .ok resp → resp.body.origin ≠ .object

variable (cluster) in
/-- The two handlers agree on who runs the storlet: the headers parse, and where only the object
handler sees a reason to leave the storlet to the proxy, the proxy handler has one of its own. -/
def Complementary (fwd : Request) : Prop :=
  ∃ params onProxy, updateStorletParametersFromHeaders fwd = .ok params ∧
    executeOnProxy cluster.conf fwd.headers = .ok onProxy ∧
    (ObjectHandler.isSloGetRequest ⟨fwd, params⟩ ∨
        ObjectHandler.isEcResponse (cluster.plain fwd) →
      onProxy ∨ executeRangeOnProxy cluster.swift cluster.conf fwd.headers = .ok true ∨
        isSloResponse (cluster.plain fwd) ∨ ObjectHandler.isSymlinkResponse (cluster.plain fwd))

theorem notRunnable_eq {req : Request} {params : Dict Text} {onProxy rangeOnProxy : Bool}
    (asked : executeOnProxy cluster.conf req.headers = .ok onProxy)
    (range : executeRangeOnProxy cluster.swift cluster.conf req.headers = .ok rangeOnProxy)
    (resp : Response) :
    ObjectHandler.notRunnable cluster.swift cluster.conf ⟨req, params⟩ resp =
      .ok (onProxy || rangeOnProxy || ObjectHandler.isSloGetRequest ⟨req, params⟩ ||
        isSloResponse resp || ObjectHandler.isSymlinkResponse resp ||
        ObjectHandler.isEcResponse resp) := by
  unfold ObjectHandler.notRunnable
  rw [asked, range]
  rfl

theorem isProxyRunnable_eq {headers : Headers} {onProxy rangeOnProxy : Bool}
    (asked : executeOnProxy cluster.conf headers = .ok onProxy)
    (range : executeRangeOnProxy cluster.swift cluster.conf headers = .ok rangeOnProxy)
    (resp : Response) :
    ProxyHandler.isProxyRunnable cluster.swift cluster.conf headers (some (shown resp)) =
      .ok (onProxy || rangeOnProxy ||
        (isSloResponse resp || ObjectHandler.isSymlinkResponse resp)) := by
  unfold ProxyHandler.isProxyRunnable
  rw [asked, range]
  rw [← shown_slo, ← shown_symlink]
  rfl

section Finish

variable {handler : ProxyHandler} {req : Request} (resp : Response)

theorem finish_failure (failed : resp.isSuccess = false) :
    handler.finish cluster.swift cluster.conf cluster.proxyGateway cluster.app req resp =
      pure resp := by
  unfold ProxyHandler.finish
  rw [failed]
  rfl

theorem finish_runs (success : resp.isSuccess)
    (runnable : ProxyHandler.isProxyRunnable cluster.swift cluster.conf req.headers (some resp) =
      .ok true) :
    handler.finish cluster.swift cluster.conf cluster.proxyGateway cluster.app req resp =
      applyStorlet .proxy
        (handler.callGateway cluster.swift cluster.proxyGateway cluster.app req) resp := by
  unfold ProxyHandler.finish
  rw [success, runnable]
  rfl

theorem finish_passes (success : resp.isSuccess)
    (runnable : ProxyHandler.isProxyRunnable cluster.swift cluster.conf req.headers (some resp) =
      .ok false) :
    handler.finish cluster.swift cluster.conf cluster.proxyGateway cluster.app req resp =
      pure { resp with
        headers := (resp.headers.pop "Transfer-Encoding").pop "Content-Length" } := by
  unfold ProxyHandler.finish
  rw [success, runnable]
  rfl

end Finish

/-- What `GET` leaves, once it has let the request through. -/
theorem handlerGet_eq {handler : ProxyHandler} {fwd : Request} {resp : Response}
    (passes : (handler.forward cluster.swift cluster.conf cluster.app).result = .ok (fwd, resp)) :
    (cluster.app fwd).result = .ok resp ∧
      applications (cluster.handlerGet handler).trace =
        applications (cluster.app fwd).trace ++ applications
          (handler.finish cluster.swift cluster.conf cluster.proxyGateway cluster.app
            fwd resp).trace ∧
      (cluster.handlerGet handler).result =
        (handler.finish cluster.swift cluster.conf cluster.proxyGateway cluster.app
          fwd resp).result := by
  obtain ⟨-, answered, trace⟩ := forward_spec app_quiet app_denied passes
  have run : cluster.handlerGet handler = ⟨_, _⟩ := bind_of_ok passes _
  rw [run, applications_append, trace]
  exact ⟨answered, rfl, rfl⟩

theorem AppliedOnce.of_quiet {run : Handler Response} (quiet : applications run.trace = []) :
    ¬ AppliedOnce run := by
  intro once
  have one := once.1
  rw [quiet] at one
  cases one

theorem Processed.origin {req : Request} {resp : Response} (processed : cluster.Processed req resp) :
    resp.body.origin ≠ .object := by
  rcases processed with ⟨-, origin, -⟩ | ⟨-, -, origin⟩ <;> simp [origin]

/-- The response the object handler's storlet leaves does not make the proxy handler run it too. -/
theorem finish_processed (handler : ProxyHandler) {fwd : Request} {resp : Response}
    {onProxy rangeOnProxy : Bool}
    (asked : executeOnProxy cluster.conf fwd.headers = .ok onProxy)
    (range : executeRangeOnProxy cluster.swift cluster.conf fwd.headers = .ok rangeOnProxy)
    (alone : (onProxy || rangeOnProxy || isSloResponse (cluster.plain fwd) ||
      ObjectHandler.isSymlinkResponse (cluster.plain fwd)) = false)
    (processed : cluster.Processed fwd resp) :
    applications (handler.finish cluster.swift cluster.conf cluster.proxyGateway cluster.app fwd
        (shown resp)).trace = [] ∧
      ∀ out, (handler.finish cluster.swift cluster.conf cluster.proxyGateway cluster.app fwd
        (shown resp)).result = .ok out → out.body.origin ≠ .object := by
  have origin := processed.origin
  rcases processed with ⟨status, -, metadata, made⟩ | ⟨failed, -, -⟩
  · have success : (shown resp).isSuccess := by
      unfold Response.isSuccess
      rw [shown_status, status]
      decide
    have slo : isSloResponse resp = isSloResponse (cluster.plain fwd) := by
      unfold isSloResponse Headers.contains
      rw [made, appliedHeaders_get? (by decide)]
    have symlink : ObjectHandler.isSymlinkResponse resp =
        ObjectHandler.isSymlinkResponse (cluster.plain fwd) := by
      unfold ObjectHandler.isSymlinkResponse Headers.contains
      rw [made, appliedHeaders_get? (by decide)]
    have runnable := isProxyRunnable_eq asked range resp
    rw [slo, symlink, ← Bool.or_assoc, alone] at runnable
    rw [finish_passes _ success runnable]
    refine ⟨rfl, fun out ends => ?_⟩
    obtain rfl := Except.ok.inj ends
    exact origin
  · rw [finish_failure (shown resp) failed]
    refine ⟨rfl, fun out ends => ?_⟩
    obtain rfl := Except.ok.inj ends
    exact origin

theorem leftToProxy_error {req : Request} {rangeOnProxy : Bool} {exception : PyError}
    (range : executeRangeOnProxy cluster.swift cluster.conf req.headers = .ok rangeOnProxy)
    (raises : cluster.leftToProxy req = .error exception) :
    (exceptionResponse exception).isSuccess = false ∧ ¬ cluster.Complementary req := by
  unfold leftToProxy at raises
  cases parsed : updateStorletParametersFromHeaders req with
  | error first =>
    rw [parsed] at raises
    cases raises
    obtain ⟨message, rfl⟩ := updateStorletParameters_error parsed
    refine ⟨rfl, ?_⟩
    rintro ⟨params, onProxy, other, -⟩
    rw [parsed] at other
    cases other
  | ok params =>
    rw [parsed] at raises
    change ObjectHandler.notRunnable _ _ _ _ = _ at raises
    cases asked : executeOnProxy cluster.conf req.headers with
    | error first =>
      unfold ObjectHandler.notRunnable at raises
      rw [asked] at raises
      cases raises
      rw [executeOnProxy_error asked]
      refine ⟨rfl, ?_⟩
      rintro ⟨params, onProxy, -, other, -⟩
      rw [asked] at other
      cases other
    | ok onProxy =>
      rw [notRunnable_eq asked range] at raises
      cases raises

theorem leftToProxy_ok {req : Request} {rangeOnProxy left : Bool}
    (range : executeRangeOnProxy cluster.swift cluster.conf req.headers = .ok rangeOnProxy)
    (decided : cluster.leftToProxy req = .ok left) :
    ∃ params onProxy, updateStorletParametersFromHeaders req = .ok params ∧
      executeOnProxy cluster.conf req.headers = .ok onProxy ∧
      left = (onProxy || rangeOnProxy || ObjectHandler.isSloGetRequest ⟨req, params⟩ ||
        isSloResponse (cluster.plain req) || ObjectHandler.isSymlinkResponse (cluster.plain req) ||
        ObjectHandler.isEcResponse (cluster.plain req)) := by
  unfold leftToProxy at decided
  cases parsed : updateStorletParametersFromHeaders req with
  | error first => rw [parsed] at decided; cases decided
  | ok params =>
    rw [parsed] at decided
    change ObjectHandler.notRunnable _ _ _ _ = _ at decided
    cases asked : executeOnProxy cluster.conf req.headers with
    | error first =>
      unfold ObjectHandler.notRunnable at decided
      rw [asked] at decided
      cases decided
    | ok onProxy =>
      rw [notRunnable_eq asked range] at decided
      exact ⟨params, onProxy, rfl, rfl, (Except.ok.inj decided).symm⟩

theorem complementary_iff {req : Request} {params : Dict Text} {onProxy rangeOnProxy : Bool}
    (parsed : updateStorletParametersFromHeaders req = .ok params)
    (asked : executeOnProxy cluster.conf req.headers = .ok onProxy)
    (range : executeRangeOnProxy cluster.swift cluster.conf req.headers = .ok rangeOnProxy) :
    cluster.Complementary req ↔
      (ObjectHandler.isSloGetRequest ⟨req, params⟩ ∨
          ObjectHandler.isEcResponse (cluster.plain req) →
        (onProxy || rangeOnProxy || (isSloResponse (cluster.plain req) ||
          ObjectHandler.isSymlinkResponse (cluster.plain req))) = true) := by
  unfold Complementary
  rw [range]
  simp only [Except.ok.injEq, Bool.or_eq_true, or_assoc]
  constructor
  · rintro ⟨params', onProxy', parsed', asked', covered⟩
    obtain rfl := Except.ok.inj (parsed.symm.trans parsed')
    obtain rfl := Except.ok.inj (asked.symm.trans asked')
    exact covered
  · exact fun covered => ⟨params, onProxy, parsed, asked, covered⟩

end Cluster

/-- A `GET` the proxy handler lets through is processed exactly once if and only if the two
handlers are complementary on it. -/
theorem get_applied_once_iff (cluster : Cluster) (handler : ProxyHandler) (fwd : Request)
    (resp : Response) (run : handler.request.headers.contains "X-Run-Storlet")
    (get : handler.request.method = "GET".toList)
    (passes : (handler.forward cluster.swift cluster.conf cluster.app).result = .ok (fwd, resp))
    (reached : cluster.deny fwd = none) (success : (cluster.plain fwd).isSuccess) :
    Cluster.AppliedOnce (cluster.handlerGet handler) ↔ cluster.Complementary fwd := by
  obtain ⟨prepared, -, -⟩ := forward_spec Cluster.app_quiet Cluster.app_denied passes
  obtain ⟨answered, trace, result⟩ := Cluster.handlerGet_eq passes
  obtain ⟨rangeOnProxy, range⟩ := prepared.parsed
  have served := cluster.objectServer_spec (prepared.run.trans run) (prepared.method.trans get)
    prepared.range success
  have through := Cluster.app_of_passed reached
  cases decided : cluster.leftToProxy fwd with
  | error exception =>
    rw [decided] at served
    rw [through, served] at answered trace
    obtain rfl := Except.ok.inj answered
    obtain ⟨failed, apart⟩ := Cluster.leftToProxy_error range decided
    rw [Cluster.finish_failure (Cluster.shown _) failed] at trace
    exact iff_of_false (Cluster.AppliedOnce.of_quiet trace) apart
  | ok left =>
    obtain ⟨params, onProxy, parsed, asked, rfl⟩ := Cluster.leftToProxy_ok range decided
    rw [Cluster.complementary_iff parsed asked range]
    have seen := Cluster.isProxyRunnable_eq asked range (cluster.plain fwd)
    have sum : (onProxy || rangeOnProxy || ObjectHandler.isSloGetRequest ⟨fwd, params⟩ ||
        isSloResponse (cluster.plain fwd) || ObjectHandler.isSymlinkResponse (cluster.plain fwd) ||
        ObjectHandler.isEcResponse (cluster.plain fwd)) =
      ((onProxy || rangeOnProxy || (isSloResponse (cluster.plain fwd) ||
          ObjectHandler.isSymlinkResponse (cluster.plain fwd))) ||
        (ObjectHandler.isSloGetRequest ⟨fwd, params⟩ ||
          ObjectHandler.isEcResponse (cluster.plain fwd))) := by
      simp only [Bool.or_assoc, Bool.or_comm, Bool.or_left_comm]
    rw [sum] at decided
    rw [decided] at served
    rw [← Bool.or_eq_true]
    generalize proxys : (onProxy || rangeOnProxy || (isSloResponse (cluster.plain fwd) ||
      ObjectHandler.isSymlinkResponse (cluster.plain fwd))) = proxySees at *
    generalize (ObjectHandler.isSloGetRequest ⟨fwd, params⟩ ||
      ObjectHandler.isEcResponse (cluster.plain fwd)) = objectOnly at *
    cases proxySees with
    | true =>
      have served : cluster.objectServer fwd = pure (cluster.plain fwd) := served
      rw [through, served] at answered trace
      obtain rfl := Except.ok.inj answered
      rw [Cluster.finish_runs (Cluster.shown _) success seen] at trace result
      refine iff_of_true ⟨?_, fun out ends => ?_⟩ (fun _ => rfl)
      · rw [trace, applyStorlet_applications _ _ _ (Cluster.proxyCallGateway_quiet _ _ _)]
        rfl
      · rcases applyStorlet_result _ _ _ _ (result.symm.trans ends) with ⟨-, origin, -⟩ | rfl
        · simp [origin]
        · simp [errorResponse]
    | false =>
      cases objectOnly with
      | true =>
        have served : cluster.objectServer fwd = pure (cluster.plain fwd) := served
        rw [through, served] at answered trace
        obtain rfl := Except.ok.inj answered
        rw [Cluster.finish_passes (Cluster.shown _) success seen] at trace
        exact iff_of_false (Cluster.AppliedOnce.of_quiet trace) (fun covered => nomatch covered rfl)
      | false =>
        obtain ⟨applied, out, ends, processed⟩ :
          applications (cluster.objectServer fwd).trace = [.object] ∧
            ∃ resp, (cluster.objectServer fwd).result = .ok resp ∧ cluster.Processed fwd resp :=
          served
        rw [through, bind_of_ok ends] at answered trace
        obtain rfl := Except.ok.inj answered
        rw [← Bool.or_assoc] at proxys
        obtain ⟨quiet, origin⟩ :=
          Cluster.finish_processed handler asked range proxys processed
        refine iff_of_true ⟨?_, fun final ends => origin final (result.symm.trans ends)⟩
          (fun only => nomatch only)
        rw [trace, applications_append, applied, quiet]
        rfl

/-- The object can only be read with a storlet's referer, the storlet object by anyone. -/
def refererCluster : Cluster where
  swift := .rangeless
  conf := {}
  objectGateway := fun sreq => .ok ⟨sreq.data.userMetadata, []⟩
  proxyGateway := fun sreq => .ok ⟨sreq.data.userMetadata, []⟩
  deny req :=
    if req.container ≠ "storlet" ∧ req.headers.get? "Referer" ≠ some "//storlets.alice_up.py" then
      some (errorResponse 403)
    else none
  plain _ :=
    ⟨200, .ofList [("Content-Length", "3"), ("X-Timestamp", "1")],
      { origin := .object, content := [1, 2, 3] }⟩
  plain_origin := fun _ => rfl

/-- A `GET` of a plain object by a caller whom only the storlet's ACL lets in. -/
def aclGet (query : Dict Text) : ProxyHandler where
  request := ⟨"GET", "v1", "AUTH_bob", "private", "data",
    .ofList [("X-Run-Storlet", "up.py"), ("X-User-Name", "alice")], query, []⟩
  params := query
  extraResources := []

/-- With `?multipart-manifest=get` the caller gets the bytes of the object. -/
theorem manifest_get_leaks : ¬ ∀ (cluster : Cluster) (handler : ProxyHandler) (fwd : Request)
    (resp : Response), handler.request.headers.contains "X-Run-Storlet" →
    handler.request.method = "GET".toList →
    (handler.forward cluster.swift cluster.conf cluster.app).result = .ok (fwd, resp) →
    cluster.deny fwd = none → (cluster.plain fwd).isSuccess →
    Cluster.AppliedOnce (cluster.handlerGet handler) := by
  intro always
  have once := (always refererCluster (aclGet (.ofList [("multipart-manifest", "get")])) _ _
    (by decide) rfl rfl (by decide) (by decide)).1
  revert once
  decide

theorem get_applied_once_iff_of_acl : ∃ fwd, refererCluster.deny fwd = none ∧
    (Cluster.AppliedOnce (refererCluster.handlerGet (aclGet .empty)) ↔
      refererCluster.Complementary fwd) :=
  ⟨_, by decide, get_applied_once_iff refererCluster (aclGet .empty) _ _ (by decide) rfl rfl
    (by decide) (by decide)⟩

end Storlets
