import Storlets.Middleware.Proxy

set_option autoImplicit false

namespace Storlets

open PyStr Traced

namespace ProxyHandler

variable (swift : Swift) (conf : HandlerConf) (gateway : Gateway) (app : App)

def validateCopyRequest (headers : Headers) : Except PyError Unit :=
  let unsupportedHeaders := ["X-Copy-From-Account", "Destination-Account", "X-Fresh-Metadata"]
  match unsupportedHeaders.find? fun header => headers.contains header with
  | some header => .error (.http 400 s!"Storlet on copy with {header} is not supported")
  | none => .ok ()

def removeStorletHeaders (headers : Headers) : Headers :=
  headers.items.foldl (fun headers (key, _) =>
    if startsWith key "X-Storlet-" || startsWith key "X-Object-Meta-Storlet-" ||
        key = "X-Run-Storlet" then headers.pop key
    else headers) headers

def handlePutCopyResponse (req : Request) (data : Bytes) : Handler Response :=
  let headers := (removeStorletHeaders req.headers).pop "Content-Length"
  getResponse app
    { req with headers := headers.set "Transfer-Encoding" "chunked", input := data }

/-- `copy_get`: the request as a `GET` without a body. -/
def copyGet (req : Request) : Request :=
  { req with method := "GET", headers := req.headers.set "Content-Length" "0", input := [] }

/-- The source request, which runs the storlet unless that is left to this handler. Its path is
made with the version the handler was made with. -/
def sourceRequest (handler : ProxyHandler) (req : Request) (source : Text × Text)
    (onProxy : Bool) : Request :=
  let sourceReq := copyGet req
  let headers := sourceReq.headers.pop "X-Backend-Storage-Policy-Index"
  { sourceReq with
    version := handler.request.version
    account := handler.request.account
    container := source.1
    obj := source.2
    headers := if onProxy then headers.pop "X-Run-Storlet" else headers }

def fetchSource (handler : ProxyHandler) (req : Request) (source : Text × Text) :
    Handler Response := do
  let onProxy ← lift (isProxyRunnable swift conf req.headers none)
  getResponse app (handler.sourceRequest req source onProxy)

/-- The request with the metadata it is stored with, and the data to store. -/
def copyData (handler : ProxyHandler) (req : Request) (srcResp : Response) :
    Handler (Request × Bytes) := do
  if ← lift (isProxyRunnable swift conf req.headers (some srcResp)) then
    let sreq ← handler.buildStorletRequest swift app req srcResp.headers srcResp.body
    let sresp ← invokeGateway .proxy gateway sreq
    return ({ req with headers := setMetadataInHeaders req.headers sresp.userMetadata },
      sresp.content)
  else return (req, srcResp.body.content)

def generatedFrom (req : Request) (source : Text × Text) (srcResp resp : Response) : Response :=
  let headers := (resp.headers.set "X-Storlet-Generated-From-Account" (quote req.account)).set
    "X-Storlet-Generated-From" (quote (source.1 ++ '/' :: source.2))
  { resp with
    headers := match srcResp.headers.get? "Last-Modified" with
      | some modified => headers.set "X-Storlet-Generated-From-Last-Modified" modified
      | none => headers }

def withSourceHeaders (req : Request) (srcResp : Response) : Request :=
  { req with headers := swift.copyHeaders srcResp.headers req.headers }

/-- What `base_handle_copy_request` does with the response to the source request. -/
def deliver (handler : ProxyHandler) (req : Request) (source : Text × Text) (srcResp : Response) :
    Handler Response := do
  let (req, data) ← handler.copyData swift conf gateway app
    (withSourceHeaders swift req srcResp) srcResp
  let resp ← handlePutCopyResponse app req data
  return generatedFrom req source srcResp resp

def baseHandleCopyRequest (handler : ProxyHandler) (req : Request) (source : Text × Text) :
    Handler Response := do
  let srcResp ← handler.fetchSource swift conf app req source
  handler.deliver swift conf gateway app req source srcResp

def authorize (handler : ProxyHandler) : Handler Request := do
  let params ← verifyAccessToStorlet swift conf app handler.request
  return augmentStorletRequest handler.request params

/-- The request `PUT` passes on with the source that `X-Copy-From` names. -/
def copyFrom (req : Request) : Except PyError (Request × Text × Text) := do
  validateCopyRequest req.headers
  let source ← swift.checkCopyFromHeader req
  return ({ req with headers := req.headers.pop "X-Copy-From" }, source)

/-- The request `COPY` rewrites to a `PUT` of its destination. -/
def copyTo (req : Request) : Except PyError (Request × Text × Text) := do
  validateCopyRequest req.headers
  let (container, obj) ← swift.checkDestinationHeader req
  let headers := (req.headers.set "Content-Length" "0").pop "Destination"
  return ({ req with method := "PUT", version := "v1", container, obj, headers },
    req.container, req.obj)

def put (handler : ProxyHandler) : Handler Response := do
  let req ← handler.authorize swift conf app
  if req.headers.contains "X-Copy-From" then
    let (req, source) ← lift (copyFrom swift req)
    handler.baseHandleCopyRequest swift conf gateway app req source
  else
    let sreq ← handler.buildStorletRequest swift app req req.headers
      { origin := .object, content := req.input }
    let sresp ← invokeGateway .proxy gateway sreq
    handlePutCopyResponse app
      { req with headers := setMetadataInHeaders req.headers sresp.userMetadata } sresp.content

def copy (handler : ProxyHandler) : Handler Response :=
  if (handler.request.headers.get? "Destination").getD [] = [] then
    return errorResponse 412
  else do
    let req ← handler.authorize swift conf app
    let (req, source) ← lift (copyTo swift req)
    handler.baseHandleCopyRequest swift conf gateway app req source

end ProxyHandler

end Storlets
