import Storlets.Middleware.Base

set_option autoImplicit false

namespace Storlets

open PyStr Traced

structure ObjectHandler where
  request : Request
  /-- `request.params`, with the parameters of the headers. -/
  params : Dict Text

namespace ObjectHandler

variable (swift : Swift) (conf : HandlerConf) (gateway : Gateway) (app : App)

def init (req : Request) : Except PyError ObjectHandler := do
  return ⟨req, ← updateStorletParametersFromHeaders req⟩

def isSloGetRequest (handler : ObjectHandler) : Bool :=
  handler.params.get? "multipart-manifest" = some "get".toList

def isSymlinkResponse (resp : Response) : Bool :=
  resp.headers.contains "X-Object-Sysmeta-Symlink-Target"

def isEcResponse (resp : Response) : Bool :=
  resp.headers.contains "X-Object-Sysmeta-Ec-Frag-Index"

def getStorletInvocationOptions (req : Request) : Except PyError InvocationOptions := do
  let options := Storlets.getStorletInvocationOptions swift req
  match req.headers.get? "X-Storlet-Range" with
  | none => return options
  | some header =>
      match swift.range header with
      | none => throw (.valueError "Invalid Range header")
      | some [(first, last)] =>
          match last with
          | some last => return { options with rangeStart := first, rangeEnd := some (last + 1) }
          -- `None + 1`
          | none => throw .typeError
      | some (_ :: _ :: _) => return options
      -- `ranges[0]` of an empty list
      | some [] => throw (.valueError "list index out of range")

def callGateway (handler : ObjectHandler) (resp : Response) : Handler StorletResponse := do
  let sreq ← lift (buildStorletRequest (getStorletInvocationOptions swift handler.request)
    handler.request handler.params resp.headers resp.body)
  invokeGateway .object gateway sreq

/-- Whether the storlet is left to the proxy. -/
def notRunnable (handler : ObjectHandler) (resp : Response) : Except PyError Bool := do
  let onProxy ← executeOnProxy conf handler.request.headers
  let rangeOnProxy ← executeRangeOnProxy swift conf handler.request.headers
  return onProxy || rangeOnProxy || handler.isSloGetRequest || isSloResponse resp ||
    isSymlinkResponse resp || isEcResponse resp

def get (handler : ObjectHandler) : Handler Response :=
  if isRangeRequest handler.request.headers && !isStorletRangeRequest handler.request.headers then
    throw (.http 416 "Storlet execution with range header is not supported")
  else do
    let origResp ← app handler.request
    if origResp.isSuccess then
      if ← lift (handler.notRunnable swift conf origResp) then return origResp
      else applyStorlet .object (handler.callGateway swift gateway) origResp
    else return origResp

/-- `handle_request`: `GET` is the only public method. -/
def handleRequest (handler : ObjectHandler) : Handler Response :=
  if handler.request.method = "GET" then handler.get swift conf gateway app
  else throw (.http 405 "Method Not Allowed")

end ObjectHandler

/-- The response an exception of a handler becomes. -/
def exceptionResponse : PyError → Response
  | .http status _ => errorResponse status
  | _ => errorResponse 500

/-- The object server's middleware around the object server: requests without `X-Run-Storlet`
pass through, the exceptions of the handler become responses. -/
def objectMiddleware (swift : Swift) (conf : HandlerConf) (gateway : Gateway) (app : App)
    (req : Request) : Handler Response :=
  if req.headers.contains "X-Run-Storlet" then
    match ObjectHandler.init req with
    | .error exception => return exceptionResponse exception
    | .ok handler =>
        catching (handler.handleRequest swift conf gateway app)
          fun exception => .ok (exceptionResponse exception)
  else app req

end Storlets
