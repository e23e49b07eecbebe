import Storlets.Middleware.Base

set_option autoImplicit false

namespace Storlets

open PyStr Traced

def refererPrefix : String := "storlets"

/-- The request headers a subrequest of `verify_access_to_storlet` is made without. -/
def conditionalKeys : List Text :=
  ["If-Match", "If-None-Match", "If-Modified-Since", "If-Unmodified-Since"]

structure ProxyHandler where
  request : Request
  /-- `request.params`, with the parameters of the headers. -/
  params : Dict Text
  extraResources : List (Text × Text)

namespace ProxyHandler

variable (swift : Swift) (conf : HandlerConf) (gateway : Gateway) (app : App)

def isSymlinkResponse (resp : Response) : Bool := resp.headers.contains "X-Symlink-Target"

def isProxyRunnable (headers : Headers) (resp : Option Response) : Except PyError Bool := do
  let onProxy ← executeOnProxy conf headers
  let rangeOnProxy ← executeRangeOnProxy swift conf headers
  let shown := match resp with
    | some resp => isSloResponse resp || isSymlinkResponse resp
    | none => false
  return onProxy || rangeOnProxy || shown

def getResponse (req : Request) : Handler Response := do
  emit (.getResponse req)
  app req

def parseStorletParams (headers : Headers) : Dict Text :=
  headers.items.foldl (fun params (key, value) =>
    if startsWith key "X-Object-Meta-Storlet-" then
      params.set (key.drop "X-Object-Meta-Storlet-".length) value
    else params) .empty

def buildAclString (user storlet : Text) : Text :=
  refererPrefix.toList ++ '.' :: user ++ '_' :: storlet

/-- The value of a response header the handler indexes by. -/
def header (resp : Response) (name : String) : Except PyError Text :=
  match resp.headers.get? name with
  | some value => .ok value
  | none => .error (.keyError name)

def verifyAccessToStorlet (req : Request) : Handler (Dict Text) := do
  let sobj := (req.headers.get? "X-Run-Storlet").getD []
  let newEnv := { req with
    headers := ("Transfer-Encoding".toList :: conditionalKeys).foldl Headers.pop req.headers }
  let authToken := match req.headers.get? "X-Auth-Token" with
    | some token => Headers.ofList [("X-Auth-Token", token)]
    | none => .empty
  let storletReq := swift.makeSubrequest newEnv "HEAD" conf.storletContainer sobj authToken
  let resp ← getResponse app storletReq
  if resp.isSuccess then
    let contentLength ← lift (header resp "Content-Length")
    let timestamp ← lift (header resp "X-Timestamp")
    return ((parseStorletParams resp.headers).set "Content-Length" contentLength).set
      "X-Timestamp" timestamp
  else
    throw (.http 401 ("Failed to verify access to the storlet. Either the storlet does not " ++
      "exist or you are not authorized to run the storlet."))

def augmentStorletRequest (req : Request) (params : Dict Text) : Request :=
  { req with
    headers := req.headers.update
      (params.items.map fun (key, value) => ("X-Storlet-".toList ++ key, value)) }

/-- The extra inputs: one subrequest for each resource, whatever it answers. -/
def getExtraData (req : Request) : List (Text × Text) → Handler (List StorletData)
  | [] => return []
  | (container, obj) :: rest => do
      let resp ← getResponse app (swift.makeSubrequest req "GET" container obj .empty)
      let others ← getExtraData req rest
      return ⟨getUserMetadata resp.headers, .iter resp.body.content⟩ :: others

/-- The path of a subrequest begins with the version and the account the handler was made with. -/
def withOwnAccount (handler : ProxyHandler) (req : Request) : Request :=
  { req with version := handler.request.version, account := handler.request.account }

def buildStorletRequest (handler : ProxyHandler) (req : Request) (sheaders : Headers)
    (sbody : Body) : Handler ContainerStorletRequest := do
  let sreq ← lift (Storlets.buildStorletRequest (.ok (getStorletInvocationOptions swift req))
    req handler.params sheaders sbody)
  let extra ← getExtraData swift app (handler.withOwnAccount req) handler.extraResources
  return { sreq with extraDataList := extra }

def callGateway (handler : ProxyHandler) (req : Request) (resp : Response) :
    Handler StorletResponse := do
  let sreq ← handler.buildStorletRequest swift app req resp.headers resp.body
  invokeGateway .proxy gateway sreq

/-- Where the proxy runs a range, the range becomes a Range request. -/
def withStorletRange (req : Request) (onProxy : Bool) : Request :=
  match onProxy, req.headers.get? "X-Storlet-Range" with
  | true, some range => { req with headers := req.headers.set "Range" range }
  | _, _ => req

/-- After a 403, the request again with the referer a storlet ACL may let in. -/
def retryWithReferer (req : Request) : Handler (Request × Response) :=
  match req.headers.get? "X-User-Name" with
  | none => throw (.keyError "HTTP_X_USER_NAME")
  | some userName =>
      if userName = [] then throw (.http 401 "User is not authorized")
      else do
        let storletName := (req.headers.get? "X-Run-Storlet").getD []
        let internalReferer := "//".toList ++ buildAclString userName storletName
        let req := { req with headers := req.headers.set "Referer" internalReferer }
        let resp ← getResponse app req
        return (req, resp)

/-- The request `GET` sends down, with the parameters of the storlet it has verified. -/
def prepare (handler : ProxyHandler) : Handler Request := do
  let params ← verifyAccessToStorlet swift conf app handler.request
  let req := augmentStorletRequest handler.request params
  let onProxy ← lift (executeRangeOnProxy swift conf req.headers)
  return withStorletRange req onProxy

def exchange (req : Request) : Handler (Request × Response) := do
  let resp ← getResponse app req
  if resp.status = 403 then retryWithReferer app req else return (req, resp)

/-- The first part of `GET`: the request as last forwarded, and the response to it. -/
def forward (handler : ProxyHandler) : Handler (Request × Response) :=
  if isRangeRequest handler.request.headers then
    throw (.http 400 "Storlet execution with range header is not supported")
  else do
    let req ← handler.prepare swift conf app
    exchange app req

/-- The second part of `GET`, on the response that came back. -/
def finish (handler : ProxyHandler) (req : Request) (resp : Response) : Handler Response := do
  if resp.isSuccess then
    if ← lift (isProxyRunnable swift conf req.headers (some resp)) then
      applyStorlet .proxy (handler.callGateway swift gateway app req) resp
    else
      return { resp with headers := (resp.headers.pop "Transfer-Encoding").pop "Content-Length" }
  else return resp

def get (handler : ProxyHandler) : Handler Response := do
  let (req, resp) ← handler.forward swift conf app
  handler.finish swift conf gateway app req resp

end ProxyHandler

end Storlets
