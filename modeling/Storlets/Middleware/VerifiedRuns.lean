import Storlets.Middleware.FrontDoor

set_option autoImplicit false

/-!
# When a storlet is run

Before a client's storlet is run anywhere, the proxy has asked for the storlet's object as that
client.
-/

namespace Storlets

open PyStr Traced

/-- What runs a storlet below the proxy is a GET of an object that asks for it. -/
def Pipeline.RunsOnGet (pipeline : Pipeline) : Prop :=
  ∀ req, ¬ (req.method = "GET".toList ∧ isStorletExecution req = true) →
    (pipeline.app req).trace = []

/-- Object servers with the storlet middleware, and servers of accounts and containers without it. -/
structure Servers where
  cluster : Cluster
  listing : Request → Response

def Servers.pipeline (servers : Servers) : Pipeline where
  app req := if req.obj = [] then pure (servers.listing req) else servers.cluster.app req
  below := by
    intro req
    split
    · exact every_of_silent rfl
    · exact servers.cluster.pipeline.below req
  answers := by
    intro req
    split
    · exact ⟨_, rfl⟩
    · exact servers.cluster.pipeline.answers req

theorem Servers.runsOnGet (servers : Servers) : servers.pipeline.RunsOnGet := by
  intro req other
  have silent (object : req.obj ≠ []) : (servers.cluster.objectServer req).trace = [] := by
    unfold Cluster.objectServer objectMiddleware
    split
    · next asks =>
      have notGet : req.method ≠ "GET".toList := by
        intro isGet
        refine other ⟨isGet, ?_⟩
        rw [isStorletExecution, asks, Bool.true_and]
        exact decide_eq_true object
      unfold ObjectHandler.init
      cases updateStorletParametersFromHeaders req with
      | error exception => rfl
      | ok params =>
        change Traced.trace (catching _ _) = []
        rw [trace_catching]
        unfold ObjectHandler.handleRequest
        rw [if_neg notGet]
        rfl
    · rfl
  change Traced.trace (if req.obj = [] then pure (servers.listing req)
    else servers.cluster.app req) = []
  split
  · rfl
  next object =>
  unfold Cluster.app
  split
  · rfl
  · rw [List.eq_nil_iff_forall_not_mem]
    intro event inside
    rcases (mem_trace_bind _ _).mp inside with inside | ⟨_, _, inside⟩
    · rw [silent object] at inside
      cases inside
    · cases inside

/-- The request that access to the storlet is verified with. -/
def storletHead (swift : Swift) (conf : HandlerConf) (req : Request) : Request :=
  swift.makeSubrequest
    { req with headers := ("Transfer-Encoding".toList :: conditionalKeys).foldl Headers.pop req.headers }
    "HEAD" conf.storletContainer ((req.headers.get? "X-Run-Storlet").getD [])
    (match req.headers.get? "X-Auth-Token" with
      | some token => Headers.ofList [("X-Auth-Token", token)]
      | none => .empty)

/-- No storlet is run, neither on this proxy nor below it. -/
def Uninvoked {α : Type} (run : Handler α) : Prop :=
  Every (fun event => ∀ site, event ≠ .invocationFlow site) run

section Invocation

variable {swift : Swift} {conf : ProxyConf} {gateway : Gateway} {pipeline : Pipeline}

theorem getResponse_uninvoked (runsOnGet : pipeline.RunsOnGet) {req : Request}
    (other : ¬ (req.method = "GET".toList ∧ isStorletExecution req = true)) :
    Uninvoked (ProxyHandler.getResponse pipeline.app req) := by
  refine Every.bind ?_ fun _ _ => every_of_silent (runsOnGet req other)
  intro event inside site
  obtain rfl := List.mem_singleton.mp inside
  exact Event.noConfusion

theorem verifyAccessToStorlet_spec (runsOnGet : pipeline.RunsOnGet) (req : Request) :
    (ProxyHandler.verifyAccessToStorlet swift conf.handler pipeline.app req).trace =
        [.getResponse (storletHead swift conf.handler req)] ∧
      ∀ params, (ProxyHandler.verifyAccessToStorlet swift conf.handler pipeline.app req).result =
          .ok params →
        ∃ resp, (pipeline.app (storletHead swift conf.handler req)).result = .ok resp ∧
          resp.isSuccess = true := by
  have silent : (pipeline.app (storletHead swift conf.handler req)).trace = [] := by
    refine runsOnGet _ ?_
    unfold storletHead
    rw [swift.subrequest_method]
    exact fun both => absurd both.1 (by decide)
  obtain ⟨resp, answered⟩ := pipeline.answers (storletHead swift conf.handler req)
  have sent : (ProxyHandler.getResponse pipeline.app (storletHead swift conf.handler req)).result =
      .ok resp := answered
  have front : (ProxyHandler.getResponse pipeline.app (storletHead swift conf.handler req)).trace =
      [.getResponse (storletHead swift conf.handler req)] := by
    change [_] ++ Traced.trace (pipeline.app _) = _
    rw [silent]
    rfl
  unfold ProxyHandler.verifyAccessToStorlet
  change Traced.trace (ProxyHandler.getResponse pipeline.app (storletHead swift conf.handler req) >>= _) =
    _ ∧ ∀ params, Traced.result (ProxyHandler.getResponse pipeline.app
      (storletHead swift conf.handler req) >>= _) = _ → _
  rw [bind_of_ok sent, front]
  cases success : resp.isSuccess with
  | false => exact ⟨rfl, fun params ends => by cases ends⟩
  | true =>
    refine ⟨?_, fun params _ => ⟨resp, answered, success⟩⟩
    change [_] ++ Traced.trace _ = [_]
    simp only [if_true]
    cases ProxyHandler.header resp "Content-Length" with
    | error exception => rfl
    | ok contentLength => cases ProxyHandler.header resp "X-Timestamp" <;> rfl

theorem post_uninvoked (runsOnGet : pipeline.RunsOnGet) {handler : ProxyHandler}
    (isPost : handler.request.method = "POST".toList) (aclString : Option Text) :
    Uninvoked (handler.post swift pipeline.app aclString) := by
  refine Every.bind (getResponse_uninvoked runsOnGet ?_) fun subResp _ => ?_
  · rw [swift.subrequest_method]
    exact fun both => absurd both.1 (by decide)
  · split
    · exact every_of_silent rfl
    · cases aclString with
      | none => exact every_of_silent rfl
      | some aclString =>
        refine getResponse_uninvoked runsOnGet ?_
        rintro ⟨isGet, _⟩
        have same : "POST".toList = "GET".toList := isPost.symm.trans isGet
        exact absurd same (by decide)

/-- The methods that run a storlet verify the access to it first. -/
theorem handleRequest_verifies (runsOnGet : pipeline.RunsOnGet) (handler : ProxyHandler)
    (aclString : Option Text) :
    Uninvoked (handler.handleRequest swift conf gateway pipeline.app aclString) ∨
      handler.request.method ∈ ["GET".toList, "PUT".toList, "COPY".toList] ∧
        ∃ rest, handler.handleRequest swift conf gateway pipeline.app aclString =
          ProxyHandler.verifyAccessToStorlet swift conf.handler pipeline.app handler.request >>=
            rest := by
  unfold ProxyHandler.handleRequest
  dsimp only
  split_ifs with isGet isPut isCopy isPost
  · unfold ProxyHandler.get ProxyHandler.forward ProxyHandler.prepare
    split
    · exact .inl (every_of_silent rfl)
    · refine .inr ⟨by simp [isGet], ?_⟩
      simp only [bind_assoc]
      exact ⟨_, rfl⟩
  · refine .inr ⟨by simp [isPut], ?_⟩
    unfold ProxyHandler.put ProxyHandler.authorize
    simp only [bind_assoc]
    exact ⟨_, rfl⟩
  · unfold ProxyHandler.copy ProxyHandler.authorize
    split
    · exact .inl (every_of_silent rfl)
    · refine .inr ⟨by simp [isCopy], ?_⟩
      simp only [bind_assoc]
      exact ⟨_, rfl⟩
  · exact .inl (post_uninvoked runsOnGet isPost aclString)
  · exact .inl (every_of_silent rfl)

theorem init_passes {req : Request} (admits : ProxyHandler.init swift conf req = .ok .passes) :
    ¬ (req.method = "GET".toList ∧ isStorletExecution req = true) := by
  rintro ⟨isGet, runs⟩
  have updates : isStorletAclUpdate req = false := by simp [isStorletAclUpdate, isGet]
  have object : isStorletObjectUpdate conf req = false := by simp [isStorletObjectUpdate, isGet]
  have clean := init_clean admits
  unfold ProxyHandler.init shouldBlock isStorletRequest at admits
  rw [if_neg clean, runs, updates, object] at admits
  change (if _ then _ else _) = _ at admits
  split at admits
  · cases admits
  · cases params : updateStorletParametersFromHeaders req with
    | error exception =>
      simp only [params] at admits
      cases admits
    | ok params' =>
      cases resources : conf.extra.parse req.headers with
      | error exception =>
        simp only [params, resources] at admits
        cases admits
      | ok paths =>
        simp only [params, resources] at admits
        cases admits

/-- Wherever a storlet is run, the first that went down was a successful HEAD of it, for a client
of an enabled account who does not pretend to be referred to by a storlet. -/
theorem storlet_runs_verified (runsOnGet : pipeline.RunsOnGet) {req : Request} {site : Site}
    (runs : .invocationFlow site ∈ (proxyMiddleware swift conf gateway pipeline.app req).trace) :
    isStorletExecution req = true ∧
      req.method ∈ ["GET".toList, "PUT".toList, "COPY".toList] ∧
      ¬ Pretends req ∧ Enabled swift conf req ∧
      ∃ resp rest, (proxyMiddleware swift conf gateway pipeline.app req).trace =
          .getResponse (storletHead swift conf.handler req) :: rest ∧
        (pipeline.app (storletHead swift conf.handler req)).result = .ok resp ∧
        resp.isSuccess = true := by
  unfold proxyMiddleware at runs ⊢
  cases admits : ProxyHandler.init swift conf req with
  | error exception =>
    rw [admits] at runs
    cases exception <;> cases runs
  | ok admitted =>
    have clean := init_clean admits
    rw [admits] at runs
    cases admitted with
    | passes => exact absurd rfl (getResponse_uninvoked runsOnGet (init_passes admits) _ runs site)
    | handles handler aclString =>
      obtain ⟨rfl, enabled, kind⟩ := init_handles admits
      dsimp only at runs ⊢
      rw [trace_catching] at runs ⊢
      rcases handleRequest_verifies runsOnGet handler aclString with never | ⟨method, rest, same⟩
      · exact absurd rfl (never _ runs site)
      · have execution : isStorletExecution handler.request = true := by
          refine kind.resolve_left fun updates => ?_
          simp only [isStorletAclUpdate, Bool.and_eq_true, decide_eq_true_eq] at updates
          rw [updates.1.1] at method
          exact absurd method (by decide)
        obtain ⟨front, verified⟩ := verifyAccessToStorlet_spec runsOnGet handler.request
        rw [same] at runs ⊢
        refine ⟨execution, method, clean, enabled, ?_⟩
        rcases (mem_trace_bind _ _).mp runs with early | ⟨params, ends, _⟩
        · rw [front] at early
          cases List.mem_singleton.mp early
        · obtain ⟨resp, answered, success⟩ := verified params ends
          refine ⟨resp, (rest params).trace, ?_, answered, success⟩
          rw [bind_of_ok ends, front]
          rfl

end Invocation

/-- Every object has the metadata of a storlet and can be read with the referer of `bob`'s. -/
def guardedServers : Servers where
  cluster := { refererCluster with
    deny req :=
      if req.container = "data" ∧
          req.headers.get? "Referer" ≠ some "//storlets.bob_dev_encrypt-1.0.jar" then
        some (errorResponse 403)
      else none
    plain _ :=
      ⟨200, .ofList [("Content-Length", "3"), ("X-Timestamp", "1"),
        ("X-Object-Meta-Storlet-Main", "up.Up"), ("X-Object-Meta-Storlet-Language", "Python")],
        { origin := .object, content := [1, 2, 3] }⟩
    plain_origin := fun _ => rfl }
  listing _ := errorResponse 204

theorem retried_run_verified :
    isStorletExecution bobRequest = true ∧
      bobRequest.method ∈ ["GET".toList, "PUT".toList, "COPY".toList] ∧
      ¬ Pretends bobRequest ∧ Enabled .rangeless openConf bobRequest ∧
      ∃ resp rest, (proxyMiddleware .rangeless openConf (fun _ => .error .other)
          guardedServers.pipeline.app bobRequest).trace =
          .getResponse (storletHead .rangeless openConf.handler bobRequest) :: rest ∧
        (guardedServers.pipeline.app (storletHead .rangeless openConf.handler bobRequest)).result =
          .ok resp ∧
        resp.isSuccess = true := by
  have runs : Event.invocationFlow .object ∈ (proxyMiddleware .rangeless openConf
      (fun _ => .error .other) guardedServers.pipeline.app bobRequest).trace :=
    List.mem_of_getElem? (i := 4) rfl
  exact storlet_runs_verified guardedServers.runsOnGet runs

end Storlets
