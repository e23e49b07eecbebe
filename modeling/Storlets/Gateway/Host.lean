import Storlets.Gateway.Request
import Storlets.Library.Effects
import Storlets.Library.PosixPath

set_option autoImplicit false

/-!
# The host's file system, as the gateway uses it

A call that reaches the file system or Swift may fail: whether it does is decided by the
environment, which stands for everything the host holds besides what is modelled (other
directories, permissions, space). The places a call creates, writes, chmods or copies to are
logged in the order it does so.
-/

namespace Storlets

open PyStr PosixPath Effect

structure File where
  content : Bytes
  mtime : ℚ
  mode : Nat
  deriving DecidableEq

inductive Act where
  | makedirs
  | write
  | chmod
  | copy
  deriving DecidableEq

structure Touch where
  act : Act
  place : Location
  deriving DecidableEq

structure Host where
  files : PyDict Location File
  /-- These, what is above them and what is above the files are the directories. -/
  directories : List Location
  touched : List Touch := []
  /-- How many calls have been at the mercy of the environment. -/
  ticks : Nat := 0

/-- The calls that the environment may let fail. -/
inductive Call where
  | getObject (name : Text)
  | stat (place : Location)
  | makedirs (place : Location)
  | openWrite (place : Location)
  | chmod (place : Location)
  | write (place : Location)
  | copystat (place : Location)

/-- What surrounds a call of the gateway. -/
structure Surroundings where
  cwd : Location
  now : ℚ
  /-- The mode `open` gives a new file under the process's umask. -/
  newMode : Nat := 0o644
  /-- Which calls fail, by how many there were before. -/
  fails : Call → Nat → Bool
  /-- `file_manager`: the chunks of an object and its permission string. -/
  getStorlet : Text → List Bytes × Option Text
  getDependency : Text → List Bytes × Option Text

abbrev HostAction := Effect GatewayError Host

namespace Host

def isFile (host : Host) (place : Location) : Bool := (host.files.get? place).isSome

def isDirectory (host : Host) (place : Location) : Bool :=
  host.directories.any (fun made => place.isPrefixOf made) ||
    host.files.keys.any fun file => place.isPrefixOf file && place ≠ file

def tick (host : Host) : Host := { host with ticks := host.ticks + 1 }

def touch (host : Host) (act : Act) (place : Location) : Host :=
  { host with touched := host.touched ++ [⟨act, place⟩] }

def makeDirectory (host : Host) (place : Location) : Host :=
  { host with directories := host.directories ++ [place] }

def setFile (host : Host) (place : Location) (file : File) : Host :=
  { host with files := host.files.set place file }

def changeFile (host : Host) (place : Location) (change : File → File) : Host :=
  match host.files.get? place with
  | some file => host.setFile place (change file)
  | none => host

end Host

section Calls

variable (env : Surroundings)

def attempt {α : Type} (call : Call) (exception : GatewayError) (action : HostAction α) :
    HostAction α := do
  let tick ← look Host.ticks
  change Host.tick
  if env.fails call tick then throw exception else action

def pathExists (path : Text) : HostAction Bool :=
  look fun host => host.isDirectory (resolve env.cwd path) ||
    (namesFile path && host.isFile (resolve env.cwd path))

def pathIsfile (path : Text) : HostAction Bool :=
  look fun host => namesFile path && host.isFile (resolve env.cwd path)

def stat (path : Text) : HostAction File :=
  attempt env (.stat (resolve env.cwd path)) .other do
    let found ← look fun host => host.files.get? (resolve env.cwd path)
    match found with
    | some file => pure file
    | none => throw .other

/-- The log has the directory asked for, not the ones made on the way to it. -/
def makedirs (path : Text) : HostAction Unit :=
  attempt env (.makedirs (resolve env.cwd path)) .other
    (change fun host =>
      (host.makeDirectory (resolve env.cwd path)).touch .makedirs (resolve env.cwd path))

/-- `open(path, 'wb')`. -/
def openWrite (path : Text) : HostAction Unit :=
  if namesFile path then
    attempt env (.openWrite (resolve env.cwd path)) .other
      (change fun host =>
        let place := resolve env.cwd path
        let mode := ((host.files.get? place).map File.mode).getD env.newMode
        (host.setFile place ⟨[], env.now, mode⟩).touch .write place)
  else throw .other

def chmod (path : Text) (perm : Nat) : HostAction Unit :=
  attempt env (.chmod (resolve env.cwd path)) .other
    (change fun host =>
      let place := resolve env.cwd path
      (host.changeFile place fun file => { file with mode := perm }).touch .chmod place)

def writeChunk (path : Text) (data : Bytes) : HostAction Unit :=
  attempt env (.write (resolve env.cwd path)) .other
    (change fun host =>
      let place := resolve env.cwd path
      (host.changeFile place fun file =>
        { file with content := file.content ++ data, mtime := env.now }).touch .write place)

/-- A copy is truncated, then filled, then given the mode and the times of the source. -/
def copyTo (src target : Text) : HostAction Unit :=
  if resolve env.cwd src = resolve env.cwd target then throw .other
  else do
    let source ← stat env src
    openWrite env target
    writeChunk env target source.content
    attempt env (.copystat (resolve env.cwd target)) .other
      (change fun host =>
        let place := resolve env.cwd target
        (host.changeFile place fun file =>
          { file with mtime := source.mtime, mode := source.mode }).touch .chmod place)

/-- `shutil.copy2`: the destination may be a directory to copy into. -/
def copy2 (src dst : Text) : HostAction Unit := do
  change fun host => host.touch .copy (resolve env.cwd dst)
  let intoDirectory ← look fun host => host.isDirectory (resolve env.cwd dst)
  copyTo env src (if intoDirectory then join dst (basename src) else dst)

end Calls

/-! ## What the calls touch -/

/-- The host after some steps: it has what it had, and the steps touched allowed places. -/
structure Host.Grows (allowed : Touch → Prop) (before after : Host) : Prop where
  touched : ∃ new, after.touched = before.touched ++ new ∧ ∀ touch ∈ new, allowed touch
  files : ∀ place, before.isFile place → after.isFile place
  directories : ∀ place, before.isDirectory place → after.isDirectory place

namespace Host

variable {allowed : Touch → Prop}

instance : Std.Refl (Grows allowed) where
  refl _ := ⟨⟨[], by simp⟩, fun _ => id, fun _ => id⟩

instance : IsTrans Host (Grows allowed) where
  trans := by
    rintro first middle last ⟨⟨early, grown, fine⟩, files, directories⟩
      ⟨⟨late, grown', fine'⟩, files', directories'⟩
    refine ⟨⟨early ++ late, by rw [grown', grown, List.append_assoc], ?_⟩,
      fun place there => files' place (files place there),
      fun place there => directories' place (directories place there)⟩
    intro touch inside
    exact (List.mem_append.mp inside).elim (fine touch) (fine' touch)

theorem Grows.mono {weaker : Touch → Prop} (implies : ∀ touch, allowed touch → weaker touch)
    {before after : Host} (grows : before.Grows allowed after) : before.Grows weaker after := by
  obtain ⟨new, grown, fine⟩ := grows.touched
  exact ⟨⟨new, grown, fun touch inside => implies touch (fine touch inside)⟩, grows.files,
    grows.directories⟩

theorem tick_grows (host : Host) : host.Grows allowed host.tick :=
  ⟨⟨[], by simp [tick]⟩, fun _ => id, fun _ => id⟩

theorem touch_grows {act : Act} {place : Location} (host : Host) (fine : allowed ⟨act, place⟩) :
    host.Grows allowed (host.touch act place) :=
  ⟨⟨[⟨act, place⟩], rfl, by simpa using fine⟩, fun _ => id, fun _ => id⟩

theorem makeDirectory_grows (host : Host) (place : Location) :
    host.Grows allowed (host.makeDirectory place) := by
  refine ⟨⟨[], by simp [makeDirectory]⟩, fun _ => id, fun place there => ?_⟩
  simp only [isDirectory, makeDirectory, List.any_append, Bool.or_eq_true] at there ⊢
  exact there.imp_left .inl

theorem isDirectory_makeDirectory (host : Host) (place : Location) :
    (host.makeDirectory place).isDirectory place := by
  simp [isDirectory, makeDirectory]

theorem setFile_grows (host : Host) (place : Location) (file : File) :
    host.Grows allowed (host.setFile place file) := by
  refine ⟨⟨[], by simp [setFile]⟩, fun other there => ?_, fun other there => ?_⟩
  · simp only [isFile, setFile, PyDict.get?_set] at there ⊢
    split
    · rfl
    · exact there
  · simp only [isDirectory, setFile, Bool.or_eq_true, List.any_eq_true] at there ⊢
    refine there.imp_right ?_
    rintro ⟨below, inside, above⟩
    exact ⟨below, (PyDict.mem_keys_set _ _ _ _).mpr (.inr inside), above⟩

theorem changeFile_grows (host : Host) (place : Location) (change : File → File) :
    host.Grows allowed (host.changeFile place change) := by
  unfold changeFile
  split
  · exact setFile_grows host place _
  · exact Std.Refl.refl host

end Host

section Attempts

variable (env : Surroundings) {α : Type} {call : Call} {exception : GatewayError}
  {action : HostAction α} {before raised : Host → Prop} {returned : α → Host → Prop}

theorem attempt_meets (ticks : ∀ host, before host → before host.tick)
    (raises : ∀ host, before host → raised host) (meets : Meets before action returned raised) :
    Meets before (attempt env call exception action) returned raised := by
  refine .bind _ .look fun tick => .bind _ (.change fun host holds => ticks host holds.1) fun _ => ?_
  exact .ite (fun _ => .throw raises) fun _ => meets

/-- A call that the environment lets through. -/
theorem attempt_sure (sure : env.fails call = fun _ => false)
    (ticks : ∀ host, before host → before host.tick) (meets : Meets before action returned raised) :
    Meets before (attempt env call exception action) returned raised := by
  intro host holds
  show Shows _ _ ((if env.fails call host.ticks then throw exception else action) host.tick)
  rw [sure, if_neg (by simp)]
  exact meets _ (ticks host holds)

end Attempts

section Touched

open Host

variable {allowed : Touch → Prop} (env : Surroundings)

theorem attempt_grows {α : Type} {call : Call} {exception : GatewayError} {action : HostAction α}
    (grows : Moves (Grows allowed) action) :
    Moves (Grows allowed) (attempt env call exception action) :=
  .bind (.look _) fun _ => .bind (.change tick_grows) fun _ => .ite (.throw _) grows

theorem stat_grows (path : Text) : Moves (Grows allowed) (stat env path) := by
  refine attempt_grows env (.bind (.look _) fun found => ?_)
  cases found with
  | some file => exact .pure file
  | none => exact .throw _

theorem makedirs_grows {path : Text} (fine : allowed ⟨.makedirs, resolve env.cwd path⟩) :
    Moves (Grows allowed) (makedirs env path) :=
  attempt_grows env (.change fun host =>
    IsTrans.trans _ _ _ (makeDirectory_grows host _) (touch_grows _ fine))

theorem openWrite_grows {path : Text} (fine : allowed ⟨.write, resolve env.cwd path⟩) :
    Moves (Grows allowed) (openWrite env path) :=
  .ite (attempt_grows env (.change fun host =>
    IsTrans.trans _ _ _ (setFile_grows host _ _) (touch_grows _ fine))) (.throw _)

theorem chmod_grows {path : Text} (perm : Nat) (fine : allowed ⟨.chmod, resolve env.cwd path⟩) :
    Moves (Grows allowed) (chmod env path perm) :=
  attempt_grows env (.change fun host =>
    IsTrans.trans _ _ _ (changeFile_grows host _ _) (touch_grows _ fine))

theorem writeChunk_grows {path : Text} (data : Bytes)
    (fine : allowed ⟨.write, resolve env.cwd path⟩) :
    Moves (Grows allowed) (writeChunk env path data) :=
  attempt_grows env (.change fun host =>
    IsTrans.trans _ _ _ (changeFile_grows host _ _) (touch_grows _ fine))

theorem copyTo_grows {src target : Text}
    (fine : ∀ act, allowed ⟨act, resolve env.cwd target⟩) :
    Moves (Grows allowed) (copyTo env src target) := by
  refine .ite (.throw _) (.bind (stat_grows env src) fun source => ?_)
  refine .bind (openWrite_grows env (fine _)) fun _ => ?_
  refine .bind (writeChunk_grows env _ (fine _)) fun _ => ?_
  exact attempt_grows env (.change fun host =>
    IsTrans.trans _ _ _ (changeFile_grows host _ _) (touch_grows _ (fine _)))

/-- A copy touches its destination or, where that is a directory, a file in it. -/
theorem copy2_grows {src dst : Text} (asked : allowed ⟨.copy, resolve env.cwd dst⟩)
    (targets : ∀ act (intoDirectory : Bool), allowed
      ⟨act, resolve env.cwd (if intoDirectory then join dst (basename src) else dst)⟩) :
    Moves (Grows allowed) (copy2 env src dst) :=
  .bind (.change fun host => touch_grows host asked) fun _ =>
    .bind (.look _) fun _ => copyTo_grows env fun _ => targets _ _

end Touched

end Storlets
