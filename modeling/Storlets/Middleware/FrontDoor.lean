import Storlets.Gateway.Registration
import Storlets.Middleware.Acl
import Storlets.Middleware.CopyRange
import Storlets.Middleware.ExtraResources

set_option autoImplicit false

/-!
# The storlet middleware of a proxy server

Whether a request is let in, what it is taken for, and what is then sent down with which referer.
-/

namespace Storlets

open PyStr Traced

/-- What the handler of a proxy server is made with. -/
structure ProxyConf where
  handler : HandlerConf := {}
  storletDependency : Text := "dependency"
  extra : ExtraConf
  /-- Swift's check of an ACL, which may raise a `ValueError`. -/
  cleanAcl : Text → Except String Unit
  /-- `get_account_info`: the `storlet-enabled` metadata of the account. -/
  storletEnabled : Request → Option Text

def ProxyConf.storletContainers (conf : ProxyConf) : List Text :=
  [conf.handler.storletContainer, conf.storletDependency]

section Kinds

variable (conf : ProxyConf) (req : Request)

def isStorletExecution : Bool := req.headers.contains "X-Run-Storlet" && req.obj ≠ []

def isStorletObjectUpdate : Bool :=
  req.container ∈ conf.storletContainers && req.obj ≠ [] &&
    req.method ∈ ["PUT".toList, "POST".toList]

def isStorletAclUpdate : Bool :=
  req.method = "POST" && req.obj = [] && req.headers.contains "X-Storlet-Container-Read"

def isStorletRequest : Bool :=
  isStorletExecution req || isStorletObjectUpdate conf req || isStorletAclUpdate req

end Kinds

/-- The client says that it is referred to by a storlet. -/
def Pretends (req : Request) : Prop :=
  ∃ referer, req.headers.get? "Referer" = some referer ∧ refererPrefix.toList <:+: referer

instance (req : Request) : Decidable (Pretends req) :=
  match found : req.headers.get? "Referer" with
  | none => .isFalse fun ⟨_, given, _⟩ => by
      rw [found] at given
      cases given
  | some referer => decidable_of_iff (refererPrefix.toList <:+: referer)
      ⟨fun inside => ⟨referer, found, inside⟩, fun ⟨_, given, inside⟩ => by
        obtain rfl := Option.some.inj (found.symm.trans given)
        exact inside⟩

def shouldBlock (req : Request) : Except PyError Unit :=
  if Pretends req then .error (.http 403 "Referrer containing storlets is not allowed") else .ok ()

def Enabled (swift : Swift) (conf : ProxyConf) (req : Request) : Prop :=
  swift.configTrueValue (some ((conf.storletEnabled req).getD "False")) = true

instance (swift : Swift) (conf : ProxyConf) (req : Request) : Decidable (Enabled swift conf req) :=
  inferInstanceAs (Decidable (_ = true))

def validateRegistration (conf : ProxyConf) (req : Request) : Except PyError Unit :=
  let params := ProxyHandler.parseStorletParams req.headers
  let validated :=
    if req.container = conf.handler.storletContainer then validateStorletRegistration params req.obj
    else validateDependencyRegistration params
  validated.mapError fun
    | .valueError message => .http 400 (String.ofList message)
    -- this one is not caught
    | .overflowError => .gateway .other

/-- What the constructor of the handler makes of a request. -/
inductive Admitted where
  /-- `NotStorletRequest`. -/
  | passes
  | handles (handler : ProxyHandler) (aclString : Option Text)

namespace ProxyHandler

variable (swift : Swift) (conf : ProxyConf) (gateway : Gateway) (app : App)

def init (req : Request) : Except PyError Admitted := do
  shouldBlock req
  if !isStorletRequest conf req then return .passes
  if ¬ Enabled swift conf req then throw (.http 400 "Account disabled for storlets")
  if isStorletAclUpdate req then
    let aclString ← validateAclUpdate conf.cleanAcl conf.storletContainers req.container req.headers
    return .handles ⟨req, req.query, []⟩ (some aclString)
  else if isStorletObjectUpdate conf req then
    validateRegistration conf req
    return .passes
  else
    let params ← updateStorletParametersFromHeaders req
    let extraResources ← conf.extra.parse req.headers
    return .handles ⟨req, params, extraResources⟩ none

/-- `POST`. Only the handler of an ACL update has an ACL string. -/
def post (handler : ProxyHandler) (aclString : Option Text) : Handler Response := do
  let req := handler.request
  let subResp ← getResponse app (swift.makeSubrequest req "HEAD" req.container req.obj .empty)
  if subResp.status ≠ 204 then return errorResponse 401
  else
    match aclString with
    -- an `AttributeError`
    | none => throw (.keyError "acl_string")
    | some aclString =>
        let newAcl := newReadAcl (subResp.headers.get? "X-Container-Read") aclString
        getResponse app { req with headers := req.headers.set "X-Container-Read" newAcl }

/-- `handle_request`: the four public methods. -/
def handleRequest (handler : ProxyHandler) (aclString : Option Text) : Handler Response :=
  let method := handler.request.method
  if method = "GET" then handler.get swift conf.handler gateway app
  else if method = "PUT" then handler.put swift conf.handler gateway app
  else if method = "COPY" then handler.copy swift conf.handler gateway app
  else if method = "POST" then handler.post swift app aclString
  else throw (.http 405 "Method Not Allowed")

end ProxyHandler

section Call

variable (swift : Swift) (conf : ProxyConf) (gateway : Gateway) (app : App)

/-- `StorletHandlerMiddleware.__call__` on a proxy server. Of what the constructor raises, only
HTTP exceptions become responses here. -/
def proxyMiddleware (req : Request) : Handler Response :=
  match ProxyHandler.init swift conf req with
  | .error (.http status _) => return errorResponse status
  | .error exception => throw exception
  | .ok .passes => ProxyHandler.getResponse app req
  | .ok (.handles handler aclString) =>
      catching (handler.handleRequest swift conf gateway app aclString)
        fun exception => .ok (exceptionResponse exception)

end Call

/-! ## The referers that go down -/

/-- Swift makes no referer up: a subrequest has at most that of the request it is made from. -/
structure Swift.KeepsReferer (swift : Swift) : Prop where
  subrequest : ∀ req method container obj headers, headers.get? "Referer" = none →
    (swift.makeSubrequest req method container obj headers).headers.get? "Referer" ∈
      [none, req.headers.get? "Referer"]
  copyHeaders : ∀ src dest, (swift.copyHeaders src dest).get? "Referer" = dest.get? "Referer"

def Sends {α : Type} (allowed : Option Text → Prop) (run : Handler α) : Prop :=
  Every (fun event => ∀ sent, event = .getResponse sent → allowed (sent.headers.get? "Referer")) run

/-- So does the run, and the request that it ends with has such a referer too. -/
def Refers (allowed : Option Text → Prop) (run : Handler (Request × Response)) : Prop :=
  Sends allowed run ∧
    ∀ exchanged, run.result = .ok exchanged → allowed (exchanged.1.headers.get? "Referer")

theorem removeStorletHeaders_get? {name : Text} (own : ¬ title "X-" <+: title name)
    (headers : Headers) :
    (ProxyHandler.removeStorletHeaders headers).get? name = headers.get? name := by
  have other (key : Text) (starts : "X-".toList <+: key) : title name ≠ title key := by
    intro same
    obtain ⟨rest, rfl⟩ := starts
    rw [title_append] at same
    exact own (same ▸ List.prefix_append _ _)
  unfold ProxyHandler.removeStorletHeaders
  -- the first occurrence is what the items are taken from
  generalize headers.items = items
  induction items generalizing headers with
  | nil => rfl
  | cons item rest ih =>
    rw [List.foldl_cons, ih]
    dsimp only
    split
    · next removed =>
      have starts : "X-".toList <+: item.1 := by
        simp only [Bool.or_eq_true, decide_eq_true_eq, startsWith, List.isPrefixOf_iff_prefix]
          at removed
        rcases removed with (storlet | metadata) | run
        · exact List.IsPrefix.trans (by decide) storlet
        · exact List.IsPrefix.trans (by decide) metadata
        · rw [run]
          decide
      rw [Headers.get?_pop, if_neg (other _ starts)]
    · rfl

theorem prepare_get? {swift : Swift} {conf : HandlerConf} {app : App} {handler : ProxyHandler}
    {req : Request} (prepared : (handler.prepare swift conf app).result = .ok req) (name : Text)
    (own : ¬ title "X-Storlet-" <+: title name) (other : title name ≠ title "Range") :
    req.headers.get? name = handler.request.headers.get? name := by
  obtain ⟨params, _, ends, _⟩ := result_bind_eq_ok prepared
  obtain ⟨onProxy, _, ends, _⟩ := result_bind_eq_ok ends
  obtain rfl := Except.ok.inj ends
  rw [withStorletRange_get? _ _ _ other, augment_get? _ _ _ own]

theorem authorize_get? {swift : Swift} {conf : HandlerConf} {app : App} {handler : ProxyHandler}
    {req : Request} (authorized : (handler.authorize swift conf app).result = .ok req) (name : Text)
    (own : ¬ title "X-Storlet-" <+: title name) :
    req.headers.get? name = handler.request.headers.get? name := by
  obtain ⟨params, _, ends, _⟩ := result_bind_eq_ok authorized
  rw [← Except.ok.inj ends, augment_get? _ _ _ own]

theorem validated_cases {α : Type} (headers : Headers) {rest : Except PyError α} {value : α}
    (ends : (ProxyHandler.validateCopyRequest headers >>= fun _ => rest) = .ok value) :
    rest = .ok value := by
  cases valid : ProxyHandler.validateCopyRequest headers with
  | ok => rwa [valid] at ends
  | error exception =>
    rw [valid] at ends
    cases ends

theorem copyFrom_referer {swift : Swift} {req : Request} {copied : Request × Text × Text}
    (ends : ProxyHandler.copyFrom swift req = .ok copied) :
    copied.1.headers.get? "Referer" = req.headers.get? "Referer" := by
  have ends := validated_cases req.headers ends
  cases named : swift.checkCopyFromHeader req with
  | error exception =>
    rw [named] at ends
    cases ends
  | ok source =>
    rw [named] at ends
    rw [← Except.ok.inj ends, Headers.get?_pop, if_neg (by decide)]

theorem copyTo_referer {swift : Swift} {req : Request} {copied : Request × Text × Text}
    (ends : ProxyHandler.copyTo swift req = .ok copied) :
    copied.1.headers.get? "Referer" = req.headers.get? "Referer" := by
  have ends := validated_cases req.headers ends
  cases named : swift.checkDestinationHeader req with
  | error exception =>
    rw [named] at ends
    cases ends
  | ok destination =>
    rw [named] at ends
    rw [← Except.ok.inj ends, Headers.get?_pop, if_neg (by decide), Headers.get?_set,
      if_neg (by decide)]

section Referers

variable {swift : Swift} {conf : HandlerConf} {gateway : Gateway} (pipeline : Pipeline)
  (keeps : swift.KeepsReferer) {allowed : Option Text → Prop} (unset : allowed none)

theorem getResponse_sends {req : Request} (here : allowed (req.headers.get? "Referer")) :
    Sends allowed (ProxyHandler.getResponse pipeline.app req) := by
  refine Every.bind ?_ fun _ _ => ?_
  · intro event inside sent same
    obtain rfl := List.mem_singleton.mp inside
    cases same
    exact here
  · intro event inside sent same
    rcases pipeline.below req event inside with rfl | rfl <;> cases same

theorem invokeGateway_sends (site : Site) (sreq : ContainerStorletRequest) :
    Sends allowed (invokeGateway site gateway sreq) := by
  intro event inside sent same
  obtain rfl := List.mem_singleton.mp inside
  cases same

/-- The referer that a request is sent again with. -/
def internalReferer (req : Request) (user : Text) : Text :=
  "//".toList ++ ProxyHandler.buildAclString user ((req.headers.get? "X-Run-Storlet").getD [])

theorem retryWithReferer_refers {req : Request}
    (retries : ∀ user, req.headers.get? "X-User-Name" = some user → user ≠ [] →
      allowed (some (internalReferer req user))) :
    Refers allowed (ProxyHandler.retryWithReferer pipeline.app req) := by
  unfold ProxyHandler.retryWithReferer
  split
  · exact ⟨every_of_silent rfl, fun _ ends => by cases ends⟩
  · next user named =>
    split
    · exact ⟨every_of_silent rfl, fun _ ends => by cases ends⟩
    · next known =>
      have allows := retries user named known
      dsimp only
      constructor
      · refine Every.bind (getResponse_sends pipeline ?_) fun _ _ => every_of_silent rfl
        rw [Headers.get?_set, if_pos rfl]
        exact allows
      · intro exchanged ends
        obtain ⟨_, _, ends, _⟩ := result_bind_eq_ok ends
        rw [← Except.ok.inj ends, Headers.get?_set, if_pos rfl]
        exact allows

theorem exchange_refers {req : Request} (here : allowed (req.headers.get? "Referer"))
    (retries : ∀ first, (pipeline.app req).result = .ok first → first.status = 403 → ∀ user,
      req.headers.get? "X-User-Name" = some user → user ≠ [] →
      allowed (some (internalReferer req user))) :
    Refers allowed (ProxyHandler.exchange pipeline.app req) := by
  have again (first : Response) (answered : (pipeline.app req).result = .ok first)
      (refused : first.status = 403) :=
    retryWithReferer_refers pipeline (retries first answered refused)
  constructor
  · refine Every.bind (getResponse_sends pipeline here) fun first answered => ?_
    split
    · next refused => exact (again first answered refused).1
    · exact every_of_silent rfl
  · intro exchanged ends
    obtain ⟨first, answered, ends, _⟩ := result_bind_eq_ok ends
    split at ends
    · next refused => exact (again first answered refused).2 exchanged ends
    · rw [← Except.ok.inj ends]
      exact here

theorem applyStorlet_sends (site : Site) {callGateway : Response → Handler StorletResponse}
    {resp : Response} (sends : Sends allowed (callGateway resp)) :
    Sends allowed (applyStorlet site callGateway resp) := by
  refine Every.bind ?_ fun _ _ =>
    Every.catching _ (Every.bind sends fun _ _ => every_of_silent rfl)
  intro event inside sent same
  obtain rfl := List.mem_singleton.mp inside
  cases same

theorem handlePutCopyResponse_sends {req : Request} (here : allowed (req.headers.get? "Referer"))
    (data : Bytes) : Sends allowed (ProxyHandler.handlePutCopyResponse pipeline.app req data) := by
  refine getResponse_sends pipeline ?_
  rw [Headers.get?_set, if_neg (by decide), Headers.get?_pop, if_neg (by decide),
    removeStorletHeaders_get? (by decide)]
  exact here

include keeps unset

theorem subrequest_allowed {req : Request} (here : allowed (req.headers.get? "Referer"))
    (method container obj : Text) {headers : Headers} (bare : headers.get? "Referer" = none) :
    allowed ((swift.makeSubrequest req method container obj headers).headers.get? "Referer") := by
  rcases List.mem_cons.mp (keeps.subrequest req method container obj headers bare) with none | same
  · rw [none]
    exact unset
  · rw [List.mem_singleton.mp same]
    exact here

theorem verifyAccessToStorlet_sends {req : Request} (here : allowed (req.headers.get? "Referer")) :
    Sends allowed (ProxyHandler.verifyAccessToStorlet swift conf pipeline.app req) := by
  refine Every.bind (getResponse_sends pipeline ?_) fun resp _ => ?_
  · apply subrequest_allowed keeps unset
    · -- the headers that are taken out are others
      simp only [List.foldl, conditionalKeys, Headers.get?_pop]
      rw [if_neg (by decide), if_neg (by decide), if_neg (by decide), if_neg (by decide),
        if_neg (by decide)]
      exact here
    · split
      · simp only [Headers.ofList, Headers.update, List.foldl, Headers.get?_set]
        rw [if_neg (by decide)]
        rfl
      · rfl
  · split
    · exact Every.bind (every_of_silent rfl) fun _ _ =>
        Every.bind (every_of_silent rfl) fun _ _ => every_of_silent rfl
    · exact every_of_silent rfl

theorem getExtraData_sends {req : Request} (here : allowed (req.headers.get? "Referer"))
    (resources : List (Text × Text)) :
    Sends allowed (ProxyHandler.getExtraData swift pipeline.app req resources) := by
  induction resources with
  | nil => exact every_of_silent rfl
  | cons resource rest ih =>
    unfold ProxyHandler.getExtraData
    refine Every.bind (getResponse_sends pipeline ?_) fun _ _ =>
      Every.bind ih fun _ _ => every_of_silent rfl
    exact subrequest_allowed keeps unset here _ _ _ rfl

theorem buildStorletRequest_sends {handler : ProxyHandler} {req : Request}
    (here : allowed (req.headers.get? "Referer")) (sheaders : Headers) (sbody : Body) :
    Sends allowed (handler.buildStorletRequest swift pipeline.app req sheaders sbody) := by
  have own : allowed ((handler.withOwnAccount req).headers.get? "Referer") := here
  exact Every.bind (every_of_silent rfl) fun _ _ =>
    Every.bind (getExtraData_sends pipeline keeps unset own _) fun _ _ => every_of_silent rfl

theorem finish_sends {handler : ProxyHandler} {req : Request}
    (here : allowed (req.headers.get? "Referer")) (resp : Response) :
    Sends allowed (handler.finish swift conf gateway pipeline.app req resp) := by
  unfold ProxyHandler.finish
  split
  · refine Every.bind (every_of_silent rfl) fun _ _ => ?_
    split
    · exact applyStorlet_sends .proxy (Every.bind
        (buildStorletRequest_sends pipeline keeps unset here _ _)
        fun _ _ => invokeGateway_sends .proxy _)
    · exact every_of_silent rfl
  · exact every_of_silent rfl

theorem get_sends {handler : ProxyHandler} (here : allowed (handler.request.headers.get? "Referer"))
    (retries : ∀ req first, (handler.prepare swift conf pipeline.app).result = .ok req →
      (pipeline.app req).result = .ok first → first.status = 403 → ∀ user,
        req.headers.get? "X-User-Name" = some user → user ≠ [] →
        allowed (some (internalReferer req user))) :
    Sends allowed (handler.get swift conf gateway pipeline.app) := by
  have exchanges (req : Request)
      (prepared : (handler.prepare swift conf pipeline.app).result = .ok req) :
      Refers allowed (ProxyHandler.exchange pipeline.app req) := by
    refine exchange_refers pipeline ?_ fun first => retries req first prepared
    rw [prepare_get? prepared "Referer" (by decide) (by decide)]
    exact here
  refine Every.bind ?_ fun exchanged forwarded => ?_
  · unfold ProxyHandler.forward
    split
    · exact every_of_silent rfl
    · refine Every.bind ?_ fun req prepared => (exchanges req prepared).1
      exact Every.bind (verifyAccessToStorlet_sends pipeline keeps unset here) fun _ _ =>
        Every.bind (every_of_silent rfl) fun _ _ => every_of_silent rfl
  · unfold ProxyHandler.forward at forwarded
    split at forwarded
    · cases forwarded
    · obtain ⟨req, prepared, ends, _⟩ := result_bind_eq_ok forwarded
      exact finish_sends pipeline keeps unset ((exchanges req prepared).2 _ ends) _

/-! ### Copies -/

theorem baseHandleCopyRequest_sends {handler : ProxyHandler} {req : Request}
    (here : allowed (req.headers.get? "Referer")) (source : Text × Text) :
    Sends allowed (handler.baseHandleCopyRequest swift conf gateway pipeline.app req source) := by
  refine Every.bind ?_ fun srcResp _ => ?_
  · refine Every.bind (every_of_silent rfl) fun onProxy _ => getResponse_sends pipeline ?_
    have source : (handler.sourceRequest req source onProxy).headers.get? "Referer" =
        req.headers.get? "Referer" := by
      unfold ProxyHandler.sourceRequest ProxyHandler.copyGet
      cases onProxy <;> simp only [Headers.get?_pop, Headers.get?_set, Bool.false_eq_true, if_false,
        if_true] <;> rfl
    rw [source]
    exact here
  · have copied : allowed ((ProxyHandler.withSourceHeaders swift req srcResp).headers.get? "Referer") := by
      unfold ProxyHandler.withSourceHeaders
      rw [keeps.copyHeaders]
      exact here
    refine Every.bind ?_ fun stored ends => Every.bind ?_ fun _ _ => every_of_silent rfl
    · refine Every.bind (every_of_silent rfl) fun onProxy _ => ?_
      split
      · exact Every.bind (buildStorletRequest_sends pipeline keeps unset copied _ _) fun _ _ =>
          Every.bind (invokeGateway_sends .proxy _) fun _ _ => every_of_silent rfl
      · exact every_of_silent rfl
    · refine handlePutCopyResponse_sends pipeline ?_ _
      obtain ⟨onProxy, _, ends, _⟩ := result_bind_eq_ok ends
      split at ends
      · obtain ⟨_, _, ends, _⟩ := result_bind_eq_ok ends
        obtain ⟨_, _, ends, _⟩ := result_bind_eq_ok ends
        rw [← Except.ok.inj ends, setMetadata_get? (by decide) (by decide)]
        exact copied
      · rw [← Except.ok.inj ends]
        exact copied

theorem authorize_sends {handler : ProxyHandler}
    (here : allowed (handler.request.headers.get? "Referer")) :
    Sends allowed (handler.authorize swift conf pipeline.app) :=
  Every.bind (verifyAccessToStorlet_sends pipeline keeps unset here) fun _ _ => every_of_silent rfl

theorem put_sends {handler : ProxyHandler} (here : allowed (handler.request.headers.get? "Referer")) :
    Sends allowed (handler.put swift conf gateway pipeline.app) := by
  refine Every.bind (authorize_sends pipeline keeps unset here) fun req authorized => ?_
  have sent : allowed (req.headers.get? "Referer") := by
    rw [authorize_get? authorized "Referer" (by decide)]
    exact here
  split
  · refine Every.bind (every_of_silent rfl) fun copied ends => ?_
    refine baseHandleCopyRequest_sends pipeline keeps unset ?_ _
    rw [copyFrom_referer ends]
    exact sent
  · refine Every.bind (buildStorletRequest_sends pipeline keeps unset sent _ _) fun _ _ =>
      Every.bind (invokeGateway_sends .proxy _) fun _ _ => handlePutCopyResponse_sends pipeline ?_ _
    rw [setMetadata_get? (by decide) (by decide)]
    exact sent

theorem copy_sends {handler : ProxyHandler} (here : allowed (handler.request.headers.get? "Referer")) :
    Sends allowed (handler.copy swift conf gateway pipeline.app) := by
  unfold ProxyHandler.copy
  split
  · exact every_of_silent rfl
  · refine Every.bind (authorize_sends pipeline keeps unset here) fun req authorized => ?_
    refine Every.bind (every_of_silent rfl) fun copied ends => ?_
    refine baseHandleCopyRequest_sends pipeline keeps unset ?_ _
    rw [copyTo_referer ends, authorize_get? authorized "Referer" (by decide)]
    exact here

theorem post_sends {handler : ProxyHandler} (here : allowed (handler.request.headers.get? "Referer"))
    (aclString : Option Text) : Sends allowed (handler.post swift pipeline.app aclString) := by
  refine Every.bind (getResponse_sends pipeline ?_) fun subResp _ => ?_
  · exact subrequest_allowed keeps unset here _ _ _ rfl
  · split
    · exact every_of_silent rfl
    · cases aclString with
      | none => exact every_of_silent rfl
      | some aclString =>
        refine getResponse_sends pipeline ?_
        rw [Headers.get?_set, if_neg (by decide)]
        exact here

end Referers

/-! ## What is let in -/

section Admission

variable {swift : Swift} {conf : ProxyConf} {req : Request}

theorem init_clean {admitted : Admitted} (admits : ProxyHandler.init swift conf req = .ok admitted) :
    ¬ Pretends req := by
  intro pretends
  unfold ProxyHandler.init shouldBlock at admits
  rw [if_pos pretends] at admits
  cases admits

theorem init_handles {handler : ProxyHandler} {aclString : Option Text}
    (admits : ProxyHandler.init swift conf req = .ok (.handles handler aclString)) :
    handler.request = req ∧ Enabled swift conf req ∧
      (isStorletAclUpdate req = true ∨ isStorletExecution req = true) := by
  have clean := init_clean admits
  unfold ProxyHandler.init shouldBlock at admits
  rw [if_neg clean] at admits
  change (if _ then _ else _) = _ at admits
  split at admits
  · cases admits
  next related =>
  change (if _ then _ else _) = _ at admits
  split at admits
  · cases admits
  next enabled =>
  rw [not_not] at enabled
  change (if _ then _ else _) = _ at admits
  split at admits
  · next updates =>
    cases valid : validateAclUpdate conf.cleanAcl conf.storletContainers req.container
        req.headers with
    | error exception =>
      rw [valid] at admits
      cases admits
    | ok aclString =>
      rw [valid] at admits
      cases admits
      exact ⟨rfl, enabled, .inl updates⟩
  · next acl =>
    split at admits
    · cases valid : validateRegistration conf req with
      | error exception =>
        rw [valid] at admits
        cases admits
      | ok _ =>
        rw [valid] at admits
        cases admits
    · next object =>
      have runs : isStorletExecution req = true := by
        simpa [isStorletRequest, acl, object] using related
      cases params : updateStorletParametersFromHeaders req with
      | error exception =>
        rw [params] at admits
        cases admits
      | ok params' =>
        cases resources : conf.extra.parse req.headers with
        | error exception =>
          rw [params, resources] at admits
          cases admits
        | ok paths =>
          rw [params, resources] at admits
          cases admits
          exact ⟨rfl, enabled, .inr runs⟩

/-- The proxy itself refers the request: a user runs a storlet on an object that the user may not
read. -/
structure Referred (swift : Swift) (conf : ProxyConf) (app : App) (req : Request)
    (user storlet : Text) : Prop where
  isGet : req.method = "GET".toList
  named : req.headers.get? "X-User-Name" = some user
  known : user ≠ []
  runs : req.headers.get? "X-Run-Storlet" = some storlet
  enabled : Enabled swift conf req
  verified : ∃ params,
    (ProxyHandler.verifyAccessToStorlet swift conf.handler app req).result = .ok params
  /-- The request as the client sent it, but for headers, was not let in. -/
  refused : ∃ sent resp, sent = { req with headers := sent.headers } ∧
    sent.headers.get? "Referer" = req.headers.get? "Referer" ∧
    (app sent).result = .ok resp ∧ resp.status = 403

/-- A request goes down with no other referer than that of the client or that of a storlet which
the client's own request has failed without. -/
def Allowed (swift : Swift) (conf : ProxyConf) (app : App) (req : Request)
    (referer : Option Text) : Prop :=
  referer = none ∨ (referer = req.headers.get? "Referer" ∧ ¬ Pretends req) ∨
    ∃ user storlet, Referred swift conf app req user storlet ∧
      referer = some ("//".toList ++ ProxyHandler.buildAclString user storlet)

theorem referred_of_refused {pipeline : Pipeline} {handler : ProxyHandler} {aclString : Option Text}
    (admits : ProxyHandler.init swift conf req = .ok (.handles handler aclString))
    (isGet : req.method = "GET".toList) {prepared : Request} {first : Response}
    (prepares : (handler.prepare swift conf.handler pipeline.app).result = .ok prepared)
    (answered : (pipeline.app prepared).result = .ok first) (refused : first.status = 403)
    {user : Text} (named : prepared.headers.get? "X-User-Name" = some user) (known : user ≠ []) :
    Allowed swift conf pipeline.app req (some (internalReferer prepared user)) := by
  obtain ⟨rfl, enabled, kind⟩ := init_handles admits
  have runs : ∃ storlet, handler.request.headers.get? "X-Run-Storlet" = some storlet := by
    rcases kind with updates | runs
    · -- an update is a POST
      simp [isStorletAclUpdate, isGet] at updates
    · simp only [isStorletExecution, Bool.and_eq_true] at runs
      exact Option.isSome_iff_exists.mp runs.1
  obtain ⟨storlet, runs⟩ := runs
  have same := prepare_get? prepares
  refine .inr (.inr ⟨user, storlet, ?_, ?_⟩)
  · obtain ⟨params, verified, ends, _⟩ := result_bind_eq_ok prepares
    obtain ⟨onProxy, _, ends, _⟩ := result_bind_eq_ok ends
    refine ⟨isGet, ?_, known, runs, enabled, ⟨params, verified⟩, prepared, first, ?_, ?_, answered,
      refused⟩
    · rw [← same "X-User-Name" (by decide) (by decide)]
      exact named
    · rw [← Except.ok.inj ends]
      unfold ProxyHandler.withStorletRange
      split <;> rfl
    · exact same "Referer" (by decide) (by decide)
  · unfold internalReferer
    rw [same "X-Run-Storlet" (by decide) (by decide), runs]
    rfl

theorem proxyMiddleware_sends (keeps : swift.KeepsReferer) (gateway : Gateway)
    (pipeline : Pipeline) : Sends (Allowed swift conf pipeline.app req)
      (proxyMiddleware swift conf gateway pipeline.app req) := by
  unfold proxyMiddleware
  cases admits : ProxyHandler.init swift conf req with
  | error exception => cases exception <;> exact every_of_silent rfl
  | ok admitted =>
    have own : Allowed swift conf pipeline.app req (req.headers.get? "Referer") :=
      .inr (.inl ⟨rfl, init_clean admits⟩)
    have unset : Allowed swift conf pipeline.app req none := .inl rfl
    cases admitted with
    | passes => exact getResponse_sends pipeline own
    | handles handler aclString =>
      obtain ⟨same, _⟩ := init_handles admits
      have here : Allowed swift conf pipeline.app req (handler.request.headers.get? "Referer") := by
        rw [same]
        exact own
      refine Every.catching _ ?_
      unfold ProxyHandler.handleRequest
      dsimp only
      split_ifs with isGet
      · refine get_sends pipeline keeps unset here ?_
        intro prepared first prepares answered refused user named known
        rw [same] at isGet
        exact referred_of_refused admits isGet prepares answered refused named known
      · exact put_sends pipeline keeps unset here
      · exact copy_sends pipeline keeps unset here
      · exact post_sends pipeline keeps unset here aclString
      · exact every_of_silent rfl

end Admission

/-- A storlet entry of an ACL that was built by updates lets a request in only for a client whose
own referer names the host of a grant without the word for it, or for a user who runs a storlet that
a grant names. -/
theorem entry_admits {swift : Swift} (keeps : swift.KeepsReferer) (conf : ProxyConf)
    (gateway : Gateway) (pipeline : Pipeline) (container : Text) {initial : Option Text}
    (fresh : ∀ entry ∈ referrers (initial.getD []), isStorletEntry entry = false)
    (updates : List AclUpdate) {req sent : Request}
    (goesDown : .getResponse sent ∈ (proxyMiddleware swift conf gateway pipeline.app req).trace)
    (through : letThrough
      (updated conf.cleanAcl conf.storletContainers container initial updates).readAcl sent) :
    ∃ granted ∈ (updated conf.cleanAcl conf.storletContainers container initial updates).granted,
      (∃ referer, req.headers.get? "Referer" = some referer ∧
        ¬ refererPrefix.toList <:+: referer ∧
        hostname referer = some (lower (ProxyHandler.buildAclString granted.1 granted.2))) ∨
      ∃ user storlet, Referred swift conf pipeline.app req user storlet ∧
        Alike granted (user, storlet) := by
  have accounted : (updated conf.cleanAcl conf.storletContainers container initial updates).Accounted :=
    updated_accounted fresh updates
  obtain ⟨entry, listed, isEntry, referer, given, host⟩ := through
  obtain ⟨granted, inside, rfl⟩ := (accounted entry isEntry).mp listed
  have allowed := proxyMiddleware_sends keeps gateway pipeline _ goesDown sent rfl
  refine ⟨granted, inside, ?_⟩
  rw [given] at allowed
  rcases allowed with none | ⟨own, honest⟩ | ⟨user, storlet, referred, same⟩
  · cases none
  · refine .inl ⟨referer, own.symm, fun contained => honest ⟨referer, own.symm, contained⟩, host⟩
  · obtain rfl := Option.some.inj same
    exact .inr ⟨user, storlet, referred, host⟩

theorem rangeless_keepsReferer : Swift.rangeless.KeepsReferer where
  subrequest := fun _ _ _ _ _ bare => by
    rw [List.mem_cons]
    exact .inl bare
  copyHeaders := by
    intro src dest
    refine Headers.get?_update_other dest fun pair inside same => ?_
    have copied := (List.mem_filter.mp inside).2
    -- the names that are copied begin with an X
    have starts : "X-".toList <+: pair.1 := by
      simp only [Bool.or_eq_true, decide_eq_true_eq, startsWith, List.isPrefixOf_iff_prefix]
        at copied
      rcases copied with ((front | front) | front) | same
      · exact List.IsPrefix.trans (by decide) front
      · exact List.IsPrefix.trans (by decide) front
      · exact List.IsPrefix.trans (by decide) front
      · rw [same]
        decide
    obtain ⟨rest, made⟩ := starts
    rw [← made, title_append] at same
    have front : title "X-".toList <+: title "Referer".toList := same ▸ List.prefix_append _ _
    exact absurd front (by decide)

def openConf : ProxyConf where
  extra := plainExtra
  cleanAcl _ := .ok ()
  storletEnabled _ := some "true"

/-- Those who are referred to by `bob`'s storlet `dev_encrypt-1.0.jar` may read the container. -/
def referredOnly : Pipeline where
  app req := pure <|
    if req.container = "data" ∧
        req.headers.get? "Referer" ≠ some "//storlets.bob_dev_encrypt-1.0.jar" then
      errorResponse 403
    else
      ⟨200, .ofList [("Content-Length", "3"), ("X-Timestamp", "1")],
        { origin := .object, content := [1, 2, 3] }⟩
  below := fun _ => every_of_silent rfl
  answers := fun _ => ⟨_, rfl⟩

theorem retry_goes_down :
    ∃ granted ∈ (updated openConf.cleanAcl openConf.storletContainers "data" none
        [bobDevUpdate]).granted,
      (∃ referer, bobRequest.headers.get? "Referer" = some referer ∧
        ¬ refererPrefix.toList <:+: referer ∧
        hostname referer = some (lower (ProxyHandler.buildAclString granted.1 granted.2))) ∨
      ∃ user storlet, Referred .rangeless openConf referredOnly.app bobRequest user storlet ∧
        Alike granted (user, storlet) := by
  have goesDown : Event.getResponse _ ∈ (proxyMiddleware .rangeless openConf
      (fun _ => .error .other) referredOnly.app bobRequest).trace :=
    List.mem_of_getElem? (i := 2) rfl
  exact entry_admits rangeless_keepsReferer openConf (fun _ => .error .other) referredOnly "data"
    (by decide) [bobDevUpdate] goesDown
    ⟨"storlets.bob_dev_encrypt-1.0.jar", by decide, by decide,
      "//storlets.bob_dev_encrypt-1.0.jar", by decide, by decide⟩

/-- A capital letter is enough to be let in without running the storlet. -/
example :
    let req := { bobRequest with
      headers := .ofList [("Referer", "//Storlets.bob_dev_encrypt-1.0.jar")] }
    (proxyMiddleware .rangeless openConf (fun _ => .error .other) referredOnly.app req).trace =
        [.getResponse req] ∧
      letThrough (updated openConf.cleanAcl openConf.storletContainers "data" none
        [bobDevUpdate]).readAcl req :=
  ⟨rfl, "storlets.bob_dev_encrypt-1.0.jar", by decide, by decide,
    "//Storlets.bob_dev_encrypt-1.0.jar", by decide, by decide⟩

end Storlets
