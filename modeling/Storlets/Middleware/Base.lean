import Storlets.Gateway.Request
import Storlets.Library.Traced

set_option autoImplicit false

namespace Storlets

open PyStr Traced

/-- The settings of the `storlet_handler` middleware. -/
structure HandlerConf where
  storletContainer : Text := "storlet"
  storletExecuteOnProxy : Bool := false

/-- What the handlers use of Swift itself. -/
structure Swift where
  /-- `Range(header).ranges`; no value where it raises `ValueError`. -/
  range : Text → Option (List ByteRange)
  configTrueValue : Option Text → Bool
  /-- `make_subrequest` from a request, with a method, a container, an object and headers. -/
  makeSubrequest : Request → Text → Text → Text → Headers → Request
  /-- A subrequest has the `X-Run-Storlet` header only if it is given it. -/
  subrequest_bare : ∀ req method container obj headers,
    (makeSubrequest req method container obj headers).headers.contains "X-Run-Storlet" =
      headers.contains "X-Run-Storlet"
  subrequest_method : ∀ req method container obj headers,
    (makeSubrequest req method container obj headers).method = method
  /-- `_check_copy_from_header` and `_check_destination_header`: a container and an object. -/
  checkCopyFromHeader : Request → Except PyError (Text × Text)
  checkDestinationHeader : Request → Except PyError (Text × Text)
  /-- `_copy_headers(src, dest)`: the new `dest`. -/
  copyHeaders : Headers → Headers → Headers

def containerAndObject (value : Option Text) : Except PyError (Text × Text) :=
  match value with
  | some value =>
      match splitOnce '/' (if startsWith value "/" then value.drop 1 else value) with
      | some (container, obj) => .ok (container, obj)
      | none => .error (.http 412 "Header must be of the form <container name>/<object name>")
  | none => .error (.http 412 "Header must be of the form <container name>/<object name>")

/-- A Swift whose requests carry no ranges. -/
def Swift.rangeless : Swift where
  range _ := none
  configTrueValue value :=
    match value with
    | some value => lower value ∈ (["true", "1", "yes", "on", "t", "y"] : List Text)
    | none => false
  makeSubrequest req method container obj headers :=
    ⟨method, req.version, req.account, container, obj, headers, .empty, []⟩
  subrequest_bare := fun _ _ _ _ _ => rfl
  subrequest_method := fun _ _ _ _ _ => rfl
  checkCopyFromHeader req := containerAndObject (req.headers.get? "X-Copy-From")
  checkDestinationHeader req := containerAndObject (req.headers.get? "Destination")
  copyHeaders src dest :=
    dest.update (src.items.filter fun (key, _) =>
      startsWith key "X-Object-Meta-" || startsWith key "X-Object-Sysmeta-" ||
        startsWith key "X-Object-Transient-Sysmeta-" || key = "X-Delete-At")

inductive Site where
  | object
  | proxy
  deriving DecidableEq

inductive Event where
  /-- `get_response`: a request goes down the pipeline. -/
  | getResponse (req : Request)
  | applyStorlet (site : Site)
  | invocationFlow (site : Site)

abbrev Handler := Traced PyError Event

abbrev App := Request → Handler Response

/-- `invocation_flow` of a gateway. -/
abbrev Gateway := ContainerStorletRequest → Except GatewayError StorletResponse

section Checks

variable (swift : Swift) (conf : HandlerConf) (headers : Headers)

def isRangeRequest : Bool := headers.contains "Range"

def isStorletRangeRequest : Bool := headers.contains "X-Storlet-Range"

def isStorletMultipleRangeRequest : Except PyError Bool :=
  match headers.get? "X-Storlet-Range" with
  | none => .ok false
  | some header =>
      match swift.range header with
      | none => .error (.valueError "Invalid Range header")
      | some ranges => .ok (1 < ranges.length)

def hasRunOnProxyHeader : Except PyError Bool :=
  match headers.get? "X-Storlet-Run-On-Proxy" with
  | none => .ok false
  | some value =>
      if strip value = [] then .ok true
      else .error (.http 400 "X-Storlet-Run-On-Proxy header should be empty")

def hasExtraResourcesHeader : Bool := headers.contains "X-Storlet-Extra-Resources"

def executeOnProxy : Except PyError Bool := do
  let asked ← hasRunOnProxyHeader headers
  return asked || hasExtraResourcesHeader headers || conf.storletExecuteOnProxy

def executeRangeOnProxy : Except PyError Bool := do
  if ← isStorletMultipleRangeRequest swift headers then return true
  if isStorletRangeRequest headers then executeOnProxy conf headers else return false

end Checks

theorem executeOnProxy_congr {conf : HandlerConf} {headers other : Headers}
    (asked : headers.get? "X-Storlet-Run-On-Proxy" = other.get? "X-Storlet-Run-On-Proxy")
    (extra : headers.get? "X-Storlet-Extra-Resources" = other.get? "X-Storlet-Extra-Resources") :
    executeOnProxy conf headers = executeOnProxy conf other := by
  simp only [executeOnProxy, hasRunOnProxyHeader, hasExtraResourcesHeader, Headers.contains,
    asked, extra]

theorem executeRangeOnProxy_congr {swift : Swift} {conf : HandlerConf} {headers other : Headers}
    (range : headers.get? "X-Storlet-Range" = other.get? "X-Storlet-Range")
    (asked : headers.get? "X-Storlet-Run-On-Proxy" = other.get? "X-Storlet-Run-On-Proxy")
    (extra : headers.get? "X-Storlet-Extra-Resources" = other.get? "X-Storlet-Extra-Resources") :
    executeRangeOnProxy swift conf headers = executeRangeOnProxy swift conf other := by
  have multiple : isStorletMultipleRangeRequest swift headers =
      isStorletMultipleRangeRequest swift other := by
    simp only [isStorletMultipleRangeRequest, range]
  have single : isStorletRangeRequest headers = isStorletRangeRequest other := by
    simp only [isStorletRangeRequest, Headers.contains, range]
  rw [executeRangeOnProxy, executeRangeOnProxy, multiple, single,
    executeOnProxy_congr asked extra]

theorem executeOnProxy_error {conf : HandlerConf} {headers : Headers} {exception : PyError}
    (raises : executeOnProxy conf headers = .error exception) :
    exception = .http 400 "X-Storlet-Run-On-Proxy header should be empty" := by
  unfold executeOnProxy hasRunOnProxyHeader at raises
  split at raises
  · cases raises
  · split at raises
    · cases raises
    · exact (Except.error.inj raises).symm

def isSloResponse (resp : Response) : Bool := resp.headers.contains "X-Static-Large-Object"

/-- The parameters of the query string, overridden by those of the headers. -/
def updateStorletParametersFromHeaders (req : Request) : Except PyError (Dict Text) :=
  req.headers.items.foldlM (fun params (param, value) =>
    if startsWith (lower param) "x-storlet-parameter" then
      match splitOnce ':' (unquote value) with
      | some (key, value) => .ok (params.set key value)
      | none => .error (.valueError "not enough values to unpack")
    else .ok params) req.query

def setMetadataInHeaders (headers : Headers) (userMetadata : Dict Text) : Headers :=
  userMetadata.items.foldl (fun headers (key, value) =>
    if lower key = "content-type" then headers.set key value
    else headers.set ("X-Object-Meta-".toList ++ key) value) headers

def invokeGateway (site : Site) (gateway : Gateway) (sreq : ContainerStorletRequest) :
    Handler StorletResponse := do
  emit (.invocationFlow site)
  lift ((gateway sreq).mapError .gateway)

def errorResponse (status : Nat) : Response := ⟨status, .empty, { origin := .error, content := [] }⟩

/-- The headers of the response a storlet's output is returned with. -/
def appliedHeaders (headers : Headers) (userMetadata : Dict Text) : Headers :=
  let new := (headers.pop "Content-Length").pop "Transfer-Encoding"
  let new := match headers.get? "Content-Range" with
    | some range => (new.set "Storlet-Input-Range" range).pop "Content-Range"
    | none => new
  setMetadataInHeaders new userMetadata

def applyStorlet (site : Site) (callGateway : Response → Handler StorletResponse)
    (resp : Response) : Handler Response := do
  emit (.applyStorlet site)
  catching
    (do
      let sresp ← callGateway resp
      return ⟨200, appliedHeaders resp.headers sresp.userMetadata,
        { origin := .storlet, content := sresp.content }⟩)
    (fun
      | .gateway exception =>
          if exception.isStorletRuntime then .ok (errorResponse 503)
          else .error (.gateway exception)
      | exception => .error exception)

def getUserMetadata (headers : Headers) : Dict Text :=
  headers.items.foldl (fun metadata (key, value) =>
    if startsWith key "X-Object-Meta-Storlet-" then metadata
    else if startsWith key "X-Object-Meta-" then
      metadata.set (key.drop "X-Object-Meta-".length) value
    else metadata) .empty

/-- The account up to its last colon, unless it starts with that colon. -/
def scopeOption (account : Text) : Text :=
  match account.reverse.dropWhile (· ≠ ':') with
  | _ :: front => if front = [] then account else front.reverse
  | [] => account

def getStorletInvocationOptions (swift : Swift) (req : Request) : InvocationOptions where
  storlet := req.headers.items.foldl (fun options (key, value) =>
    if startsWith key "X-Storlet-" ∧
        key ∉ ["X-Storlet-Range".toList, "X-Storlet-Generate-Log".toList] then
      let name := replace '-' '_' (lower (key.drop "X-Storlet-".length))
      options.set ("storlet_".toList ++ name) value
    else options) .empty
  scope := scopeOption req.account
  generateLog := swift.configTrueValue (req.headers.get? "X-Storlet-Generate-Log")

/-- `_build_storlet_request` of the base class; `options` is the handler's own
`_get_storlet_invocation_options`. -/
def buildStorletRequest (options : Except PyError InvocationOptions) (req : Request)
    (params : Dict Text) (sheaders : Headers) (sbody : Body) :
    Except PyError ContainerStorletRequest := do
  let storletId := (req.headers.get? "X-Run-Storlet").getD []
  let options ← options
  let source := if sbody.hasFp then .fd sbody.content else .iter sbody.content
  ContainerStorletRequest.init storletId params ⟨getUserMetadata sheaders, source⟩ options

/-- The options a storlet request cannot be made without. -/
def Registered (swift : Swift) (req : Request) : Prop :=
  let options := (getStorletInvocationOptions swift req).storlet
  (options.get? "storlet_main").isSome ∧ (options.get? "storlet_language").isSome

theorem init_ok_iff (storletId : Text) (params : Dict Text) (data : StorletData)
    (options : InvocationOptions) :
    (∃ sreq, ContainerStorletRequest.init storletId params data options = .ok sreq) ↔
      (options.storlet.get? "storlet_main").isSome ∧
        (options.storlet.get? "storlet_language").isSome := by
  unfold ContainerStorletRequest.init
  cases options.storlet.get? "storlet_main" <;> cases options.storlet.get? "storlet_language" <;>
    simp

end Storlets
