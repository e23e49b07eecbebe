import Storlets.Library.PosixPath

set_option autoImplicit false

namespace Storlets

open PyStr PosixPath

def factoryPipeName : Text := "factory_pipe"

def sandboxPipeDir : Text := "/mnt/channels"

def sandboxStorletBaseDir : Text := "/var/lib/storlets"

structure RunTimePaths where
  scope : Text
  hostPipeRootDir : Text
  hostStorletRootDir : Text
  hostLogRootDir : Text
  hostCacheRootDir : Text

namespace RunTimePaths

def init (scope : Text) (conf : Dict Text) : RunTimePaths :=
  let hostRootDir := (conf.get? "host_root").getD "/var/lib/storlets"
  { scope
    hostPipeRootDir :=
      (conf.get? "pipes_dir").getD (join (join hostRootDir "pipes") "scopes")
    hostStorletRootDir :=
      (conf.get? "storlets_dir").getD (join (join hostRootDir "storlets") "scopes")
    hostLogRootDir :=
      (conf.get? "log_dir").getD (join (join hostRootDir "logs") "scopes")
    hostCacheRootDir :=
      (conf.get? "cache_dir").getD (join (join hostRootDir "cache") "scopes") }

variable (paths : RunTimePaths)

def hostPipeDir : Text := join paths.hostPipeRootDir paths.scope

def hostFactoryPipe : Text := join paths.hostPipeDir factoryPipeName

def sandboxFactoryPipe : Text := join sandboxPipeDir factoryPipeName

def getHostStorletPipe (storletId : Text) : Text := join paths.hostPipeDir storletId

def getSboxStorletPipe (storletId : Text) : Text := join sandboxPipeDir storletId

def getSboxStorletDir (storletId : Text) : Text := join sandboxStorletBaseDir storletId

def hostStorletBaseDir : Text := join paths.hostStorletRootDir paths.scope

def getHostStorletDir (storletId : Text) : Text := join paths.hostStorletBaseDir storletId

def getHostSlogPath (storletId : Text) : Text :=
  join (join (join paths.hostLogRootDir paths.scope) storletId) "storlet_invoke.log"

def hostStorletCacheDir : Text := join (join paths.hostCacheRootDir paths.scope) "storlet"

def hostDependencyCacheDir : Text := join (join paths.hostCacheRootDir paths.scope) "dependency"

def cacheDir (isStorlet : Bool) : Text :=
  if isStorlet then paths.hostStorletCacheDir else paths.hostDependencyCacheDir

end RunTimePaths

end Storlets
