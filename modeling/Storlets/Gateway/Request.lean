import Storlets.Middleware.Http

set_option autoImplicit false

namespace Storlets

open PyStr

/-- What the storlet reads as one input: a descriptor of the server's own file, or an iterator
whose chunks a writer thread feeds into a pipe. -/
inductive DataSource where
  | fd (content : Bytes)
  | iter (content : Bytes)
  deriving DecidableEq

structure StorletData where
  userMetadata : Dict Text
  source : DataSource

/-- The options a handler passes to the gateway. -/
structure InvocationOptions where
  /-- The `storlet_…` options, made from the `X-Storlet-…` headers. -/
  storlet : Dict Text
  scope : Text
  generateLog : Bool
  rangeStart : Option Nat := none
  rangeEnd : Option Nat := none

structure ContainerStorletRequest where
  storletId : Text
  params : Dict Text
  data : StorletData
  options : InvocationOptions
  generateLog : Bool
  storletMain : Text
  storletLanguage : Text
  storletLanguageVersion : Option Text
  dependencies : List Text
  start : Option Nat
  «end» : Option Nat
  extraDataList : List StorletData := []

/-- The dependency names of a `Dependency` attribute. -/
def splitDependencies (dependency : Option Text) : List Text :=
  match dependency with
  | none => []
  | some names => ((split ',' names).map strip).filter (· ≠ [])

namespace ContainerStorletRequest

/-- The third required option, `file_manager`, is set by every handler. -/
def init (storletId : Text) (params : Dict Text) (data : StorletData)
    (options : InvocationOptions) : Except PyError ContainerStorletRequest :=
  match options.storlet.get? "storlet_main", options.storlet.get? "storlet_language" with
  | none, _ => .error (.valueError "Required option storlet_main is missing")
  | some _, none => .error (.valueError "Required option storlet_language is missing")
  | some storletMain, some storletLanguage => .ok
      { storletId, params, data, options, storletMain, storletLanguage
        generateLog := options.generateLog
        storletLanguageVersion := options.storlet.get? "storlet_language_version"
        dependencies := splitDependencies (options.storlet.get? "storlet_dependency")
        start := options.rangeStart
        «end» := options.rangeEnd }

def hasRange (sreq : ContainerStorletRequest) : Bool := sreq.start.isSome && sreq.end.isSome

end ContainerStorletRequest

/-- The data of a `StorletResponse`: the metadata the storlet set and the bytes it wrote. -/
structure StorletResponse where
  userMetadata : Dict Text
  content : Bytes

end Storlets
