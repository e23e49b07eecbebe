import Storlets.Gateway.RunTimePaths
import Storlets.Library.BytePath

set_option autoImplicit false

/-!
# The sockets of the daemons

The gateway and a daemon name one socket by two paths, and each path is cut to fit `sun_path`.
-/

namespace Storlets

open PyStr PosixPath

/-- `sizeof(sun_path)` without the terminator. -/
def sunPathLength : Nat := 107

def nul : Char := Char.ofNat 0

def cString (path : Text) : Text := (byteText path).takeWhile (· ≠ nul)

def sunPath (path : Text) : Text := (cString path).take sunPathLength

structure SandboxFiles where
  isDir : Location → Bool
  isFile : Location → Bool

/-- `sbus_create`, where it returns a handle. -/
def sbusCreate (files : SandboxFiles) (path : Text) : Option SandboxFiles :=
  let bound := resolve [] (sunPath path)
  -- `chmod` gets the path that was not cut
  let accessed := resolve [] (cString path)
  -- `unlink` takes a file away that is there already
  if namesFile (sunPath path) && files.isDir bound.dropLast && !files.isDir bound then
    let files := { files with isFile := fun place => decide (place = bound) || files.isFile place }
    if files.isDir accessed || (namesFile (cString path) && files.isFile accessed) then some files
    else none
  else none

def daemonSocket (main : Text) : Location :=
  resolve [] (sunPath (RunTimePaths.getSboxStorletPipe main))

def factorySocket : Location := resolve [] (sunPath RunTimePaths.sandboxFactoryPipe)

def channels : Location := resolve [] (byteText sandboxPipeDir)

section Statements

variable (paths : RunTimePaths) (cwd : Location)

/-- The address to which `invocation_flow` sends. -/
def gatewaySocket (main : Text) : Location := resolve cwd (sunPath (paths.getHostStorletPipe main))

/-- Where the host has a file of the sandbox's pipe directory. -/
def onHost (place : Location) : Option Location :=
  if channels.isPrefixOf place then
    some (resolve cwd (byteText paths.hostPipeDir) ++ place.drop channels.length)
  else none

structure SocketsAgree (main main' : Text) : Prop where
  served : onHost paths cwd (daemonSocket main) = some (gatewaySocket paths cwd main)
  served' : onHost paths cwd (daemonSocket main') = some (gatewaySocket paths cwd main')
  apart : daemonSocket main ≠ daemonSocket main'
  factory : daemonSocket main ≠ factorySocket
  factory' : daemonSocket main' ≠ factorySocket

/-- A name of a file that both paths have room for. -/
structure AddressFits (main : Text) : Prop where
  segment : '/' ∉ main
  other : main ≠ factoryPipeName
  whole : nul ∉ paths.getHostStorletPipe main
  host : (byteText (paths.getHostStorletPipe main)).length ≤ sunPathLength
  sandbox : (byteText (RunTimePaths.getSboxStorletPipe main)).length ≤ sunPathLength

/-- A name without a slash, whose socket was the one that `chmod` found. -/
structure OrdinaryMain (main : Text) : Prop where
  segment : '/' ∉ main
  whole : nul ∉ paths.getHostStorletPipe main
  own : resolve [] (cString (RunTimePaths.getSboxStorletPipe main)) = daemonSocket main

end Statements

theorem cString_eq {path : Text} (whole : nul ∉ path) : cString path = byteText path := by
  apply List.takeWhile_eq_self_iff.mpr
  intro c inside
  rw [decide_eq_true_eq]
  intro same
  rw [same, mem_byteText_ascii (by decide)] at inside
  exact whole inside

theorem mem_join {front name : Text} (segment : '/' ∉ name) {c : Char} (inside : c ∈ name) :
    c ∈ join front name := by
  rw [join_segment front segment]
  exact List.mem_append_right _ inside

theorem enter_eq_concat {root : Location} {name other : Text}
    (same : enter root name = root ++ [other]) : name = other := by
  have lengths := congrArg List.length same
  rw [List.length_append, List.length_singleton] at lengths
  unfold enter at same lengths
  by_cases here : name = [] ∨ name = ['.']
  · rw [if_pos here] at lengths
    omega
  · rw [if_neg here] at same lengths
    by_cases up : name = ['.', '.']
    · rw [if_pos up, List.length_dropLast] at lengths
      omega
    · rw [if_neg up] at same
      exact List.singleton_inj.mp (List.append_cancel_left same)

/-- A path that is cut within its last name. -/
theorem resolve_cut (cwd : Location) {front name : Text} {room : Nat} (segment : '/' ∉ name)
    (reaches : (joinFront front).length ≤ room) :
    resolve cwd ((join front name).take room) =
      enter (resolve cwd front) (name.take (room - (joinFront front).length)) := by
  have part : '/' ∉ name.take (room - (joinFront front).length) :=
    fun inside => segment (List.mem_of_mem_take inside)
  rw [join_segment front segment, List.take_append, List.take_of_length_le reaches,
    ← join_segment front part, resolve_join_segment cwd front part]

theorem plain_of_namesFile {name : Text} (segment : '/' ∉ name) (named : namesFile name) :
    Plain name := by
  have single : split '/' name = [name] := List.splitOn_eq_singleton segment
  have same : basename name = name := by
    rw [basename, single]
    rfl
  exact same ▸ plain_basename named

theorem enter_plain (root : Location) {name : Text} (plain : Plain name) :
    enter root name = root ++ [name] := by
  unfold enter
  rw [if_neg (not_or.mpr ⟨plain.2.1, plain.2.2.1⟩), if_neg plain.2.2.2]

/-! ## The side of the sandbox -/

theorem joinFront_channels : joinFront (byteText sandboxPipeDir) = "/mnt/channels/" := by decide

theorem sandbox_path (main : Text) : byteText (RunTimePaths.getSboxStorletPipe main) =
    join (byteText sandboxPipeDir) (byteText main) :=
  byteText_join _ _

section Sandbox

variable {main : Text} (segment : '/' ∉ main) (whole : nul ∉ main)

include segment

theorem segment_bytes : '/' ∉ byteText main := by rwa [mem_byteText_ascii (by decide)]

theorem sandbox_length :
    (byteText (RunTimePaths.getSboxStorletPipe main)).length = 14 + (byteText main).length := by
  rw [sandbox_path, join_segment _ (segment_bytes segment), List.length_append, joinFront_channels]
  rfl

include whole

theorem sandbox_cString : cString (RunTimePaths.getSboxStorletPipe main) =
    join (byteText sandboxPipeDir) (byteText main) := by
  rw [cString_eq, sandbox_path]
  rw [RunTimePaths.getSboxStorletPipe, join_segment _ segment]
  intro inside
  rcases List.mem_append.mp inside with front | back
  · revert front
    decide
  · exact whole back

theorem daemonSocket_eq :
    daemonSocket main = enter channels ((byteText main).take 93) := by
  have reaches : (joinFront (byteText sandboxPipeDir)).length ≤ sunPathLength := by
    rw [joinFront_channels]
    decide
  rw [daemonSocket, sunPath, sandbox_cString segment whole,
    resolve_cut [] (segment_bytes segment) reaches, joinFront_channels]
  rfl

/-- Where a socket could be bound, what is left of the name is a name. -/
theorem created_plain {files : SandboxFiles}
    (created : (sbusCreate files (RunTimePaths.getSboxStorletPipe main)).isSome) :
    Plain ((byteText main).take 93) := by
  have part : '/' ∉ (byteText main).take 93 :=
    fun inside => segment_bytes segment (List.mem_of_mem_take inside)
  have named : namesFile (sunPath (RunTimePaths.getSboxStorletPipe main)) := by
    unfold sbusCreate at created
    by_contra unnamed
    simp [unnamed] at created
  have cut : sunPath (RunTimePaths.getSboxStorletPipe main) =
      join (byteText sandboxPipeDir) ((byteText main).take 93) := by
    rw [sunPath, sandbox_cString segment whole, join_segment _ (segment_bytes segment),
      List.take_append, joinFront_channels, join_segment _ part, joinFront_channels]
    rfl
  rw [cut, namesFile_join] at named
  exact plain_of_namesFile part named

theorem created_socket {files : SandboxFiles}
    (created : (sbusCreate files (RunTimePaths.getSboxStorletPipe main)).isSome) :
    daemonSocket main = channels ++ [(byteText main).take 93] := by
  rw [daemonSocket_eq segment whole, enter_plain _ (created_plain segment whole created)]

end Sandbox

theorem factorySocket_eq : factorySocket = channels ++ [byteText factoryPipeName] := by decide

theorem onHost_channels (paths : RunTimePaths) (cwd : Location) (name : Text) :
    onHost paths cwd (channels ++ [name]) =
      some (resolve cwd (byteText paths.hostPipeDir) ++ [name]) := by
  have inside : channels.isPrefixOf (channels ++ [name]) :=
    List.isPrefixOf_iff_prefix.mpr (List.prefix_append _ _)
  rw [onHost, if_pos inside, List.drop_left]

/-! ## The side of the gateway -/

section Gateway

variable {paths : RunTimePaths} {cwd : Location} {main : Text}

theorem host_path (segment : '/' ∉ main) : byteText (paths.getHostStorletPipe main) =
    joinFront (byteText paths.hostPipeDir) ++ byteText main := by
  rw [RunTimePaths.getHostStorletPipe, byteText_join, join_segment _ (segment_bytes segment)]

theorem gatewaySocket_fits (segment : '/' ∉ main) (whole : nul ∉ paths.getHostStorletPipe main)
    (fits : (byteText (paths.getHostStorletPipe main)).length ≤ sunPathLength) :
    gatewaySocket paths cwd main =
      enter (resolve cwd (byteText paths.hostPipeDir)) (byteText main) := by
  rw [gatewaySocket, sunPath, cString_eq whole, List.take_of_length_le fits,
    RunTimePaths.getHostStorletPipe, byteText_join,
    resolve_join_segment _ _ (segment_bytes segment)]

/-- The directory fits: the cut is in the name. -/
theorem gatewaySocket_cut (segment : '/' ∉ main) (whole : nul ∉ paths.getHostStorletPipe main)
    (reaches : (joinFront (byteText paths.hostPipeDir)).length ≤ sunPathLength) :
    gatewaySocket paths cwd main = enter (resolve cwd (byteText paths.hostPipeDir))
      ((byteText main).take (sunPathLength - (joinFront (byteText paths.hostPipeDir)).length)) := by
  rw [gatewaySocket, sunPath, cString_eq whole, RunTimePaths.getHostStorletPipe, byteText_join,
    resolve_cut _ (segment_bytes segment) reaches]

/-- The directory does not fit: every name is cut off. -/
theorem gatewaySocket_lost (segment : '/' ∉ main) (whole : nul ∉ paths.getHostStorletPipe main)
    (long : sunPathLength ≤ (joinFront (byteText paths.hostPipeDir)).length) :
    gatewaySocket paths cwd main =
      resolve cwd ((joinFront (byteText paths.hostPipeDir)).take sunPathLength) := by
  rw [gatewaySocket, sunPath, cString_eq whole, host_path segment,
    List.take_append_of_le_length long]

theorem nul_of_whole (segment : '/' ∉ main) (whole : nul ∉ paths.getHostStorletPipe main) :
    nul ∉ main :=
  fun inside => whole (mem_join segment inside)

variable (cwd) in
theorem AddressFits.socket {files : SandboxFiles} (fits : AddressFits paths main)
    (created : (sbusCreate files (RunTimePaths.getSboxStorletPipe main)).isSome) :
    daemonSocket main = channels ++ [byteText main] ∧ gatewaySocket paths cwd main =
      resolve cwd (byteText paths.hostPipeDir) ++ [byteText main] := by
  have whole := nul_of_whole fits.segment fits.whole
  have short := fits.sandbox
  rw [sandbox_length fits.segment] at short
  have uncut : (byteText main).take 93 = byteText main := by
    apply List.take_of_length_le
    have room : sunPathLength = 107 := rfl
    omega
  have bound := created_socket fits.segment whole created
  have plain := created_plain fits.segment whole created
  rw [uncut] at bound plain
  rw [gatewaySocket_fits fits.segment fits.whole fits.host, enter_plain _ plain]
  exact ⟨bound, rfl⟩

theorem AddressFits.served {files : SandboxFiles} (fits : AddressFits paths main)
    (created : (sbusCreate files (RunTimePaths.getSboxStorletPipe main)).isSome) :
    onHost paths cwd (daemonSocket main) = some (gatewaySocket paths cwd main) := by
  obtain ⟨bound, sent⟩ := fits.socket cwd created
  rw [bound, sent, onHost_channels]

theorem AddressFits.factory {files : SandboxFiles} (fits : AddressFits paths main)
    (created : (sbusCreate files (RunTimePaths.getSboxStorletPipe main)).isSome) :
    daemonSocket main ≠ factorySocket := by
  rw [(fits.socket [] created).1, factorySocket_eq]
  intro same
  exact fits.other (byteText_injective (List.singleton_inj.mp (List.append_cancel_left same)))

/-- The name that `sbus_create` left whole. -/
theorem OrdinaryMain.socket {files : SandboxFiles} (ordinary : OrdinaryMain paths main)
    (created : (sbusCreate files (RunTimePaths.getSboxStorletPipe main)).isSome) :
    (byteText main).length ≤ 93 ∧ daemonSocket main = channels ++ [byteText main] := by
  have segment := ordinary.segment
  have whole := nul_of_whole segment ordinary.whole
  have bound := created_socket segment whole created
  have own := ordinary.own
  rw [sandbox_cString segment whole, resolve_join_segment [] _ (segment_bytes segment), bound] at own
  have uncut : byteText main = (byteText main).take 93 := enter_eq_concat own
  constructor
  · have lengths := congrArg List.length uncut
    rw [List.length_take] at lengths
    omega
  · rw [bound, ← uncut]

/-- What the gateway needs of an ordinary name whose daemon it reaches. -/
theorem OrdinaryMain.reached {files : SandboxFiles} (ordinary : OrdinaryMain paths main)
    (created : (sbusCreate files (RunTimePaths.getSboxStorletPipe main)).isSome)
    (served : onHost paths cwd (daemonSocket main) = some (gatewaySocket paths cwd main)) :
    gatewaySocket paths cwd main = resolve cwd (byteText paths.hostPipeDir) ++ [byteText main] := by
  rw [(ordinary.socket created).2, onHost_channels] at served
  exact (Option.some.inj served).symm

theorem OrdinaryMain.fits {files : SandboxFiles} (ordinary : OrdinaryMain paths main)
    (created : (sbusCreate files (RunTimePaths.getSboxStorletPipe main)).isSome)
    (reaches : (joinFront (byteText paths.hostPipeDir)).length ≤ sunPathLength)
    (served : onHost paths cwd (daemonSocket main) = some (gatewaySocket paths cwd main))
    (factory : daemonSocket main ≠ factorySocket) : AddressFits paths main := by
  have segment := ordinary.segment
  obtain ⟨short, bound⟩ := ordinary.socket created
  have reached := ordinary.reached created served
  rw [gatewaySocket_cut segment ordinary.whole reaches] at reached
  have uncut := congrArg List.length (enter_eq_concat reached)
  rw [List.length_take] at uncut
  constructor
  · exact segment
  · intro same
    rw [bound, factorySocket_eq, same] at factory
    exact factory rfl
  · exact ordinary.whole
  · rw [host_path segment, List.length_append]
    omega
  · rw [sandbox_length segment, sunPathLength]
    omega

end Gateway

/-- Two daemons that could make their sockets are reached by the gateway, each on a socket of its
own, if both paths have room for both names; without that no two ordinary names are. -/
theorem sockets_agree (paths : RunTimePaths) (cwd : Location) (files files' : SandboxFiles)
    (main main' : Text) (differ : main ≠ main')
    (created : (sbusCreate files (RunTimePaths.getSboxStorletPipe main)).isSome)
    (created' : (sbusCreate files' (RunTimePaths.getSboxStorletPipe main')).isSome) :
    (AddressFits paths main → AddressFits paths main' → SocketsAgree paths cwd main main') ∧
      (OrdinaryMain paths main → OrdinaryMain paths main' → SocketsAgree paths cwd main main' →
        AddressFits paths main ∧ AddressFits paths main') := by
  have apart : byteText main ≠ byteText main' := fun same => differ (byteText_injective same)
  constructor
  · intro fits fits'
    constructor
    · exact fits.served created
    · exact fits'.served created'
    · rw [(fits.socket cwd created).1, (fits'.socket cwd created').1]
      exact fun same => apart (List.singleton_inj.mp (List.append_cancel_left same))
    · exact fits.factory created
    · exact fits'.factory created'
  · intro ordinary ordinary' agree
    by_cases reaches : (joinFront (byteText paths.hostPipeDir)).length ≤ sunPathLength
    · exact ⟨ordinary.fits created reaches agree.served agree.factory,
        ordinary'.fits created' reaches agree.served' agree.factory'⟩
    · -- both addresses are the same part of the directory
      have long : sunPathLength ≤ (joinFront (byteText paths.hostPipeDir)).length := by omega
      have one := ordinary.reached created agree.served
      have two := ordinary'.reached created' agree.served'
      rw [gatewaySocket_lost ordinary.segment ordinary.whole long] at one
      rw [gatewaySocket_lost ordinary'.segment ordinary'.whole long, one] at two
      exact absurd (List.singleton_inj.mp (List.append_cancel_left two)) apart

/-- A sandbox with an empty pipe directory. -/
def freshSandbox : SandboxFiles where
  isDir place := decide (place ∈ [[], ["mnt".toList], ["mnt".toList, "channels".toList]])
  isFile _ := false

def aliceScope : RunTimePaths := .init "0123456789abc" .empty

theorem short_mains_agree :
    (AddressFits aliceScope "m.A" → AddressFits aliceScope "m.B" →
        SocketsAgree aliceScope [] "m.A" "m.B") ∧
      (OrdinaryMain aliceScope "m.A" → OrdinaryMain aliceScope "m.B" →
        SocketsAgree aliceScope [] "m.A" "m.B" →
        AddressFits aliceScope "m.A" ∧ AddressFits aliceScope "m.B") :=
  sockets_agree aliceScope [] freshSandbox freshSandbox "m.A" "m.B" (by decide) (by decide)
    (by decide)

/-- A class name of 63 characters fits in the sandbox only. -/
def longMain : Text := "org.openstack.storlet.examples.compression.CompressionStorletV2"

theorem long_main_lost : ¬ ∀ (paths : RunTimePaths) (cwd : Location)
    (files files' : SandboxFiles) (main main' : Text), main ≠ main' →
    (sbusCreate files (RunTimePaths.getSboxStorletPipe main)).isSome →
    (sbusCreate files' (RunTimePaths.getSboxStorletPipe main')).isSome →
    SocketsAgree paths cwd main main' := by
  intro always
  have served := (always aliceScope [] freshSandbox freshSandbox longMain "m.A" (by decide)
    (by decide) (by decide)).served
  revert served
  decide

end Storlets
