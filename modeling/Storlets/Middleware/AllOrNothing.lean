import Storlets.Middleware.Copy
import Storlets.Middleware.ExactlyOnce

set_option autoImplicit false

/-!
# A copy whose source fails

Both verbs end in `base_handle_copy_request`, which stores what the source request
answered whatever its status is.
-/

namespace Storlets

open PyStr Traced

/-- What the storlet handler of an object server leaves in a trace. -/
def Event.below (event : Event) : Prop :=
  event = .applyStorlet .object ∨ event = .invocationFlow .object

/-- The pipeline below the proxy handler, which answers every request. Of the storlet handlers
only the object servers' are in it. -/
structure Pipeline where
  app : App
  below : ∀ req, Every Event.below (app req)
  answers : ∀ req, ∃ resp, (app req).result = .ok resp

theorem applyStorlet_below (callGateway : Response → Handler StorletResponse) (resp : Response)
    (below : Every Event.below (callGateway resp)) :
    Every Event.below (applyStorlet .object callGateway resp) := by
  refine Every.bind ?_ fun _ _ =>
    Every.catching _ (Every.bind below fun _ _ => every_of_silent rfl)
  intro event inside
  exact .inl (List.mem_singleton.mp inside)

theorem objectCallGateway_below {swift : Swift} {gateway : Gateway} (handler : ObjectHandler)
    (resp : Response) : Every Event.below (handler.callGateway swift gateway resp) := by
  refine Every.bind (every_of_silent rfl) fun _ _ => Every.bind ?_ fun _ _ => every_of_silent rfl
  intro event inside
  exact .inr (List.mem_singleton.mp inside)

namespace Cluster

variable (cluster : Cluster)

theorem objectServer_below (req : Request) : Every Event.below (cluster.objectServer req) := by
  unfold objectServer objectMiddleware
  split
  · split
    · exact every_of_silent rfl
    · next handler made =>
      refine Every.catching _ ?_
      unfold ObjectHandler.handleRequest
      split
      · rw [objectGet_eq]
        split
        · exact every_of_silent rfl
        · split
          · split
            · exact every_of_silent rfl
            · exact every_of_silent rfl
            · exact applyStorlet_below _ _ (objectCallGateway_below _ _)
          · exact every_of_silent rfl
      · exact every_of_silent rfl
  · exact every_of_silent rfl

theorem objectServer_answers (req : Request) :
    ∃ resp, (cluster.objectServer req).result = .ok resp := by
  unfold objectServer objectMiddleware
  split
  · split
    · exact ⟨_, rfl⟩
    · rw [result_catching]
      split <;> exact ⟨_, rfl⟩
  · exact ⟨_, rfl⟩

/-- A cluster below the proxy handler is such a pipeline: whatever fails on an object server, a
storlet included, is answered with a response. -/
def pipeline : Pipeline where
  app := cluster.app
  below := by
    intro req
    unfold app
    split
    · exact every_of_silent rfl
    · exact Every.bind (cluster.objectServer_below req) fun _ _ => every_of_silent rfl
  answers := by
    intro req
    unfold app
    split
    · exact ⟨_, rfl⟩
    · obtain ⟨resp, answered⟩ := cluster.objectServer_answers req
      rw [bind_of_ok answered]
      exact ⟨_, rfl⟩

end Cluster

/-- The steps a copy of a failed source must not take: a `PUT`, or a storlet run on the proxy. -/
def Event.commits : Event → Bool
  | .getResponse req => req.method = "PUT".toList
  | .invocationFlow .proxy => true
  | _ => false

def Idle {α : Type} (run : Handler α) : Prop := Every (fun event => event.commits = false) run

section Steps

variable {swift : Swift} {conf : HandlerConf} {gateway : Gateway} (pipeline : Pipeline)

theorem app_idle (req : Request) : Idle (pipeline.app req) := by
  intro event inside
  rcases pipeline.below req event inside with rfl | rfl <;> rfl

theorem getResponse_idle (req : Request) :
    Idle (ProxyHandler.getResponse pipeline.app req) ↔ req.method ≠ "PUT".toList := by
  constructor
  · intro idle isPut
    have commits : (Event.getResponse req).commits = false := idle _ (List.mem_cons_self ..)
    simp [Event.commits, isPut] at commits
  · intro other
    refine Every.bind ?_ fun _ _ => app_idle pipeline req
    intro event inside
    obtain rfl := List.mem_singleton.mp inside
    exact decide_eq_false other

theorem verifyAccessToStorlet_idle (req : Request) :
    Idle (ProxyHandler.verifyAccessToStorlet swift conf pipeline.app req) := by
  refine Every.bind ?_ fun resp _ => ?_
  · refine (getResponse_idle pipeline _).mpr ?_
    rw [swift.subrequest_method]
    decide
  · split
    · exact Every.bind (every_of_silent rfl) fun _ _ =>
        Every.bind (every_of_silent rfl) fun _ _ => every_of_silent rfl
    · exact every_of_silent rfl

theorem authorize_idle (handler : ProxyHandler) :
    Idle (handler.authorize swift conf pipeline.app) :=
  Every.bind (verifyAccessToStorlet_idle pipeline _) fun _ _ => every_of_silent rfl

theorem getExtraData_idle (req : Request) (resources : List (Text × Text)) :
    Idle (ProxyHandler.getExtraData swift pipeline.app req resources) := by
  induction resources with
  | nil => exact every_of_silent rfl
  | cons resource rest ih =>
    unfold ProxyHandler.getExtraData
    refine Every.bind ?_ fun _ _ => Every.bind ih fun _ _ => every_of_silent rfl
    refine (getResponse_idle pipeline _).mpr ?_
    rw [swift.subrequest_method]
    decide

theorem getExtraData_ok (swift : Swift) (req : Request) (resources : List (Text × Text)) :
    ∃ extra, (ProxyHandler.getExtraData swift pipeline.app req resources).result = .ok extra := by
  induction resources with
  | nil => exact ⟨[], rfl⟩
  | cons resource rest ih =>
    obtain ⟨others, rest⟩ := ih
    obtain ⟨resp, answered⟩ :=
      pipeline.answers (swift.makeSubrequest req "GET" resource.1 resource.2 .empty)
    unfold ProxyHandler.getExtraData
    rw [bind_of_ok (show (ProxyHandler.getResponse pipeline.app _).result = .ok resp from answered),
      bind_of_ok rest]
    exact ⟨_, rfl⟩

theorem fetchSource_idle (handler : ProxyHandler) (req : Request) (source : Text × Text) :
    Idle (handler.fetchSource swift conf pipeline.app req source) :=
  Every.bind (every_of_silent rfl) fun _ _ =>
    (getResponse_idle pipeline _).mpr (by show "GET".toList ≠ _; decide)

theorem buildStorletRequest_idle (swift : Swift) (handler : ProxyHandler) (req : Request) (sheaders : Headers)
    (sbody : Body) : Idle (handler.buildStorletRequest swift pipeline.app req sheaders sbody) :=
  Every.bind (every_of_silent rfl) fun _ _ =>
    Every.bind (getExtraData_idle pipeline _ _) fun _ _ => every_of_silent rfl

end Steps

theorem proxyBuild_ok_iff {swift : Swift} (pipeline : Pipeline) (handler : ProxyHandler)
    (req : Request) (sheaders : Headers) (sbody : Body) :
    (∃ sreq, (handler.buildStorletRequest swift pipeline.app req sheaders sbody).result = .ok sreq) ↔
      Registered swift req := by
  unfold Registered
  rw [← init_ok_iff ((req.headers.get? "X-Run-Storlet").getD []) handler.params
    ⟨getUserMetadata sheaders, if sbody.hasFp then .fd sbody.content else .iter sbody.content⟩]
  constructor
  · rintro ⟨sreq, ends⟩
    obtain ⟨value, made, -⟩ := result_bind_eq_ok ends
    exact ⟨value, made⟩
  · rintro ⟨value, made⟩
    obtain ⟨extra, gathered⟩ := getExtraData_ok pipeline swift (handler.withOwnAccount req)
      handler.extraResources
    have first : (lift (Storlets.buildStorletRequest (.ok (getStorletInvocationOptions swift req))
      req handler.params sheaders sbody) : Handler _).result = .ok value := made
    unfold ProxyHandler.buildStorletRequest
    rw [bind_of_ok first, bind_of_ok gathered]
    exact ⟨_, rfl⟩

/-! ## The two verbs -/

inductive CopyVerb where
  | put
  | copy
  deriving DecidableEq

namespace CopyVerb

variable (swift : Swift) (conf : HandlerConf) (gateway : Gateway) (pipeline : Pipeline)

/-- The request asks the verb for a copy. -/
def Asked (handler : ProxyHandler) : CopyVerb → Prop
  | .put => handler.request.method = "PUT".toList ∧
      handler.request.headers.contains "X-Copy-From"
  | .copy => handler.request.method = "COPY".toList ∧
      (handler.request.headers.get? "Destination").getD [] ≠ []

/-- The method of the handler that serves the verb. -/
def serve (handler : ProxyHandler) : CopyVerb → Handler Response
  | .put => handler.put swift conf gateway pipeline.app
  | .copy => handler.copy swift conf gateway pipeline.app

/-- What the method does before it calls `base_handle_copy_request`. -/
def prelude (handler : ProxyHandler) (verb : CopyVerb) : Handler (Request × Text × Text) := do
  let req ← handler.authorize swift conf pipeline.app
  lift (match verb with
    | .put => ProxyHandler.copyFrom swift req
    | .copy => ProxyHandler.copyTo swift req)

end CopyVerb

section Verbs

variable {swift : Swift} {conf : HandlerConf} {gateway : Gateway} {pipeline : Pipeline}

theorem serve_eq (gateway : Gateway) {handler : ProxyHandler} {verb : CopyVerb} {req : Request} {source : Text × Text}
    (asked : verb.Asked handler)
    (ready : (verb.prelude swift conf pipeline handler).result = .ok (req, source)) :
    verb.serve swift conf gateway pipeline handler =
      ⟨(verb.prelude swift conf pipeline handler).trace ++
          (handler.baseHandleCopyRequest swift conf gateway pipeline.app req source).trace,
        (handler.baseHandleCopyRequest swift conf gateway pipeline.app req source).result⟩ := by
  obtain ⟨augmented, authorized, made, trace⟩ := result_bind_eq_ok ready
  have front : (verb.prelude swift conf pipeline handler).trace = _ := trace
  rw [front]
  cases verb with
  | put =>
    obtain ⟨params, -, kept, -⟩ := result_bind_eq_ok authorized
    have copies : augmented.headers.contains "X-Copy-From" := by
      obtain rfl := Except.ok.inj kept
      rw [Headers.contains, augment_get? _ _ _ (by decide)]
      exact asked.2
    have body : (lift (ProxyHandler.copyFrom swift augmented) : Handler _).result = .ok (req, source) :=
      made
    show handler.put swift conf gateway pipeline.app = _
    unfold ProxyHandler.put
    rw [bind_of_ok authorized, if_pos copies, bind_of_ok body, List.append_assoc]
  | copy =>
    have body : (lift (ProxyHandler.copyTo swift augmented) : Handler _).result = .ok (req, source) :=
      made
    show handler.copy swift conf gateway pipeline.app = _
    unfold ProxyHandler.copy
    rw [if_neg asked.2, bind_of_ok authorized, bind_of_ok body, List.append_assoc]

theorem prelude_idle (handler : ProxyHandler) (verb : CopyVerb) :
    Idle (verb.prelude swift conf pipeline handler) :=
  Every.bind (authorize_idle pipeline handler) fun _ _ => every_of_silent rfl

/-- The source answers, and a failure of it neither reaches the destination nor a storlet. -/
def AllOrNothing (srcResp : Response) (run : Handler Response) : Prop :=
  srcResp.isSuccess = false →
    Idle run ∧ ∀ resp, run.result = .ok resp → resp.isSuccess = false

/-- The second check, on the source's response, ends the copy: it raises, or it leaves the
storlet to the proxy and the storlet has no main or no language. -/
def Stops (swift : Swift) (conf : HandlerConf) (req : Request) (srcResp : Response) : Prop :=
  let req := ProxyHandler.withSourceHeaders swift req srcResp
  match ProxyHandler.isProxyRunnable swift conf req.headers (some srcResp) with
  | .error _ => True
  | .ok false => False
  | .ok true => ¬ Registered swift req

/-- Both verbs store the copy with a `PUT`. -/
theorem prelude_method {handler : ProxyHandler} {verb : CopyVerb} {req : Request}
    {source : Text × Text} (asked : verb.Asked handler)
    (ready : (verb.prelude swift conf pipeline handler).result = .ok (req, source)) :
    req.method = "PUT".toList := by
  obtain ⟨augmented, authorized, made, -⟩ := result_bind_eq_ok ready
  cases verb with
  | put =>
    obtain ⟨params, -, kept, -⟩ := result_bind_eq_ok authorized
    obtain rfl := Except.ok.inj kept
    change ProxyHandler.copyFrom swift _ = _ at made
    unfold ProxyHandler.copyFrom at made
    cases valid : ProxyHandler.validateCopyRequest
        (ProxyHandler.augmentStorletRequest handler.request params).headers with
    | error exception => rw [valid] at made; cases made
    | ok =>
      rw [valid] at made
      cases named : swift.checkCopyFromHeader
          (ProxyHandler.augmentStorletRequest handler.request params) with
      | error exception =>
        simp only [named] at made
        cases made
      | ok found =>
        simp only [named] at made
        obtain ⟨rfl, rfl⟩ := Prod.mk.inj (Except.ok.inj made)
        exact asked.1
  | copy =>
    change ProxyHandler.copyTo swift _ = _ at made
    unfold ProxyHandler.copyTo at made
    cases valid : ProxyHandler.validateCopyRequest augmented.headers with
    | error exception => rw [valid] at made; cases made
    | ok =>
      rw [valid] at made
      cases named : swift.checkDestinationHeader augmented with
      | error exception =>
        simp only [named] at made
        cases made
      | ok found =>
        simp only [named] at made
        obtain ⟨rfl, rfl⟩ := Prod.mk.inj (Except.ok.inj made)
        rfl

section Deliver

variable {handler : ProxyHandler} {req : Request} {source : Text × Text} {srcResp : Response}

theorem deliver_of_stops (gateway : Gateway) (pipeline : Pipeline) (handler : ProxyHandler)
    (source : Text × Text) (stops : Stops swift conf req srcResp) :
    Idle (handler.deliver swift conf gateway pipeline.app req source srcResp) ∧
      ∃ exception, (handler.deliver swift conf gateway pipeline.app req source srcResp).result =
        .error exception := by
  unfold Stops at stops
  dsimp only at stops
  unfold ProxyHandler.deliver ProxyHandler.copyData
  generalize ProxyHandler.withSourceHeaders swift req srcResp = copied at stops ⊢
  cases runnable : ProxyHandler.isProxyRunnable swift conf copied.headers (some srcResp) with
  | error exception => exact ⟨every_of_silent rfl, exception, rfl⟩
  | ok onProxy =>
    rw [runnable] at stops
    cases onProxy with
    | false => exact stops.elim
    | true =>
      have fails : ¬ ∃ sreq, (handler.buildStorletRequest swift pipeline.app copied srcResp.headers
          srcResp.body).result = .ok sreq := fun built => stops ((proxyBuild_ok_iff ..).mp built)
      have idle := buildStorletRequest_idle pipeline swift handler copied srcResp.headers
        srcResp.body
      cases built : (handler.buildStorletRequest swift pipeline.app copied srcResp.headers
          srcResp.body).result with
      | ok sreq => exact absurd ⟨sreq, built⟩ fails
      | error exception =>
        simp only [lift_ok_bind, if_true, bind_of_error built]
        exact ⟨idle, exception, rfl⟩

theorem deliver_idle (isPut : req.method = "PUT".toList)
    (idle : Idle (handler.deliver swift conf gateway pipeline.app req source srcResp)) :
    Stops swift conf req srcResp := by
  unfold Stops
  dsimp only
  unfold ProxyHandler.deliver ProxyHandler.copyData at idle
  have isPut : (ProxyHandler.withSourceHeaders swift req srcResp).method = _ := isPut
  generalize ProxyHandler.withSourceHeaders swift req srcResp = copied at isPut idle ⊢
  cases runnable : ProxyHandler.isProxyRunnable swift conf copied.headers (some srcResp) with
  | error exception => trivial
  | ok onProxy =>
    rw [runnable] at idle
    cases onProxy with
    | false => exact (getResponse_idle pipeline _).mp (Every.next rfl idle).first isPut
    | true =>
      intro registered
      obtain ⟨sreq, built⟩ := (proxyBuild_ok_iff pipeline handler copied srcResp.headers
        srcResp.body).mpr registered
      have run := (Every.next built idle.first).first
      exact absurd (run (.invocationFlow .proxy) (List.mem_cons_self ..)) (by decide)

end Deliver

end Verbs

/-- A copy of a source that answered is all or nothing if and only if the source succeeded or
the second check ends the copy. -/
theorem copy_all_or_nothing_iff (swift : Swift) (conf : HandlerConf) (gateway : Gateway)
    (pipeline : Pipeline) (handler : ProxyHandler) (verb : CopyVerb) (req : Request)
    (source : Text × Text) (srcResp : Response) (asked : verb.Asked handler)
    (ready : (verb.prelude swift conf pipeline handler).result = .ok (req, source))
    (fetched : (handler.fetchSource swift conf pipeline.app req source).result = .ok srcResp) :
    AllOrNothing srcResp (verb.serve swift conf gateway pipeline handler) ↔
      srcResp.isSuccess ∨ Stops swift conf req srcResp := by
  have served := serve_eq gateway asked ready
  have base : handler.baseHandleCopyRequest swift conf gateway pipeline.app req source = ⟨_, _⟩ :=
    bind_of_ok fetched _
  have isPut := prelude_method asked ready
  cases success : srcResp.isSuccess with
  | true => exact iff_of_true (fun failed => by rw [success] at failed; cases failed) (.inl rfl)
  | false =>
    rw [served, base]
    constructor
    · intro whole
      obtain ⟨idle, -⟩ := whole success
      exact .inr (deliver_idle isPut fun event inside =>
        idle event (List.mem_append_right _ (List.mem_append_right _ inside)))
    · rintro (succeeds | stops)
      · cases succeeds
      · obtain ⟨idle, exception, raises⟩ := deliver_of_stops gateway pipeline handler source stops
        refine fun _ => ⟨fun event inside => ?_, fun resp ends => ?_⟩
        · rcases List.mem_append.mp inside with early | later
          · exact prelude_idle handler verb event early
          · rcases List.mem_append.mp later with first | last
            · exact fetchSource_idle pipeline handler req source event first
            · exact idle event last
        · cases raises.symm.trans ends

/-- The source is not there; every destination can be written. -/
def missingSource : Pipeline where
  app req := pure <|
    if req.method = "HEAD" then
      ⟨200, .ofList [("Content-Length", "3"), ("X-Timestamp", "1"),
        ("X-Object-Meta-Storlet-Main", "up.Up"), ("X-Object-Meta-Storlet-Language", "Python")],
        { origin := .object, content := [] }⟩
    else if req.method = "PUT" then ⟨201, .empty, { origin := .object, content := [] }⟩
    else errorResponse 404
  below := fun _ => every_of_silent rfl
  answers := fun _ => ⟨_, rfl⟩

def storletCopy (options : List (Text × Text)) : ProxyHandler where
  request := ⟨"COPY", "v1", "AUTH_a", "c", "so",
    .ofList (("X-Run-Storlet", "up.py") :: ("Destination", "c/to") :: options), .empty, []⟩
  params := .empty
  extraResources := []

theorem copy_of_missing_overwrites : ¬ ∀ (swift : Swift) (conf : HandlerConf) (gateway : Gateway)
    (pipeline : Pipeline) (handler : ProxyHandler) (verb : CopyVerb) (req : Request)
    (source : Text × Text) (srcResp : Response), verb.Asked handler →
    (verb.prelude swift conf pipeline handler).result = .ok (req, source) →
    (handler.fetchSource swift conf pipeline.app req source).result = .ok srcResp →
    AllOrNothing srcResp (verb.serve swift conf gateway pipeline handler) := by
  intro always
  have whole := always .rangeless {} (fun _ => .error .other) missingSource (storletCopy []) .copy
    _ _ _ ⟨rfl, by decide⟩ rfl rfl (by decide)
  obtain ⟨idle, -⟩ := whole
  revert idle
  unfold Idle Every
  decide

theorem copy_all_or_nothing_iff_of_missing : ∃ req, ∃ srcResp : Response,
    srcResp.status = 404 ∧
    (AllOrNothing srcResp (CopyVerb.serve .rangeless {} (fun _ => .error .other) missingSource
        (storletCopy [("X-Storlet-Run-On-Proxy", "")]) .copy) ↔
      srcResp.isSuccess ∨ Stops .rangeless {} req srcResp) :=
  ⟨_, _, rfl, copy_all_or_nothing_iff .rangeless {} (fun _ => .error .other) missingSource
    (storletCopy [("X-Storlet-Run-On-Proxy", "")]) .copy _ _ _ ⟨rfl, by decide⟩ rfl rfl⟩

end Storlets
