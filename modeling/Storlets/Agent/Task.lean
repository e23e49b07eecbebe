import Storlets.Agent.Server
import Storlets.Library.Effects

set_option autoImplicit false

/-!
# The child process of an EXECUTE

It runs inside the daemon's `dispatch_command`, and should end there.
-/

namespace Storlets.Sbus

open PyStr Effect Fallible

/-- An EXECUTE over descriptors the kernel has just installed, each under a number of its own. -/
structure ExecuteDatagram extends SBusDatagram where
  execute : Json.is command "SBUS_CMD_EXECUTE"
  distinct : (sfds.map SBusFileDescriptor.fileno).Nodup

/-- What cuts an action of the child short: an `Exception`, or what is none, as `SystemExit`. -/
inductive Escape where
  | exception
  | exit
  deriving DecidableEq

structure TaskState where
  /-- The numbers in the descriptor table. -/
  isOpen : Nat → Bool
  /-- The descriptors whose file object is closed. -/
  closed : Nat → Bool := fun _ => false
  /-- The descriptors a response was written to. -/
  responses : List Nat := []

abbrev TaskAction := Effect Escape TaskState

/-- How `os.close` of the service descriptor ends. -/
inductive CloseAnswer where
  | closes
  /-- With an error other than EBADF, which the descriptor may survive. -/
  | fails (stays : Bool)

/-- What the storlet class does, from its constructor to its return. -/
structure StorletRun where
  isOpen : Nat → Bool
  closed : Nat → Bool
  ending : Option Escape

structure TaskAnswers where
  closeServiceOut : CloseAnswer
  fdopenFails : Nat → Bool
  seekFails : Nat → Bool
  /-- `int(value)` raises. -/
  intFails : Json → Bool
  run : StorletRun
  /-- Flushing or closing the file object raises, as when the reader is gone or the storlet has
  closed the descriptor itself. -/
  closeFails : Nat → Bool
  /-- Flushing and closing the response's file raises. -/
  replyFails : Bool

/-- A `StorletInputFile`, or a `StorletOutputFile` with its metadata descriptor. -/
structure TaskFile where
  objFd : Nat
  mdFd : Option Nat := none
  deriving DecidableEq

def SBusDatagram.findFds (dtg : SBusDatagram) (fdtype : String) : List Nat :=
  (dtg.sfds.filter fun sfd => Json.is sfd.fdtype fdtype).map SBusFileDescriptor.fileno

def SBusDatagram.objectInStorletMetadata (dtg : SBusDatagram) : List (List (Text × Json)) :=
  (dtg.sfds.filter fun sfd => Json.is sfd.fdtype "SBUS_FD_INPUT_OBJECT").map
    SBusFileDescriptor.storletsMetadata

/-- The input descriptors with their metadata. -/
def inputs (dtg : SBusDatagram) : List (List (Text × Json) × Nat) :=
  dtg.objectInStorletMetadata.zip (dtg.findFds "SBUS_FD_INPUT_OBJECT")

/-- The descriptors of the outputs, each after that of its metadata. -/
def outputs (dtg : SBusDatagram) : List (Nat × Nat) :=
  (dtg.findFds "SBUS_FD_OUTPUT_OBJECT_METADATA").zip (dtg.findFds "SBUS_FD_OUTPUT_OBJECT")

/-- `st_md.get(key)`, when it is not None. -/
def given (stMd : List (Text × Json)) (key : Text) : Option Json :=
  match stMd.lookup key with
  | none | some .null => none
  | some value => some value

def setOpen (fd : Nat) (value : Bool) : TaskAction Unit :=
  change fun state => { state with isOpen := fun other => if other = fd then value else state.isOpen other }

section Child

variable (answers : TaskAnswers)

/-- `os.fdopen`. -/
def fdopen (fd : Nat) : TaskAction Unit := do
  let isOpen ← look fun state => state.isOpen fd
  if isOpen && !answers.fdopenFails fd then pure () else throw .exception

/-- `_safe_close` of the service descriptor. -/
def safeClose (fd : Nat) : TaskAction Unit := do
  let isOpen ← look fun state => state.isOpen fd
  if isOpen = false then pure ()
  else
    match answers.closeServiceOut with
    | .closes => setOpen fd false
    | .fails stays => do
        setOpen fd stays
        throw .exception

def createInputFile (stMd : List (Text × Json)) (inFd : Nat) : TaskAction TaskFile := do
  match given stMd "start", given stMd "end" with
  | none, _ | _, none => do
      fdopen answers inFd
      pure { objFd := inFd }
  | some start, some stop =>
      if answers.intFails start || answers.intFails stop then throw .exception
      else do
        fdopen answers inFd
        if answers.seekFails inFd then throw .exception else pure { objFd := inFd }

def createOutputFile (mdFd objFd : Nat) : TaskAction TaskFile := do
  fdopen answers objFd
  fdopen answers mdFd
  pure { objFd, mdFd := some mdFd }

/-- `close` of a file object. The descriptor is gone, also when it raises. -/
def closeObject (fd : Nat) : TaskAction Unit := do
  setOpen fd false
  if answers.closeFails fd then throw .exception else pure ()

def closeUnlessClosed (fd : Nat) : TaskAction Unit := do
  let closed ← look fun state => state.closed fd
  if closed then pure () else closeObject answers fd

/-- A file whose object is closed is passed over with its metadata. -/
def closeFile (file : TaskFile) : TaskAction Unit := do
  let closed ← look fun state => state.closed file.objFd
  if closed then pure ()
  else
    match file.mdFd with
    | none => closeObject answers file.objFd
    | some mdFd => do
        closeUnlessClosed answers mdFd
        closeObject answers file.objFd

def safeCloseFiles (files : List TaskFile) : TaskAction Unit :=
  forEach (fun _ file => closeFile answers file) () files

/-- The storlet itself. -/
def runStorlet : TaskAction Unit := do
  change fun state => { state with isOpen := answers.run.isOpen, closed := answers.run.closed }
  match answers.run.ending with
  | none => pure ()
  | some escape => throw escape

/-- `with StorletLogger(…) as slogger`, and the `except Exception` around it. -/
def invoke (loggerFd : Option Nat) : TaskAction Unit :=
  let invoked : TaskAction Unit := match loggerFd with
    -- os.fdopen(None)
    | none => throw .exception
    | some loggerFd => do
        fdopen answers loggerFd
        (runStorlet answers).ensuring (closeUnlessClosed answers loggerFd)
  invoked.handling fun
    | .exception => pure ()
    | .exit => throw .exit

/-- `_execute`. -/
def executeTask (dtg : SBusDatagram) : TaskAction Unit := do
  let inFiles ← forEach (fun files (stMd, inFd) => do
    let file ← createInputFile answers stMd inFd
    pure (files ++ [file])) [] (inputs dtg)
  let outFiles ← forEach (fun files (mdFd, objFd) => do
    let file ← createOutputFile answers mdFd objFd
    pure (files ++ [file])) [] (outputs dtg)
  (invoke answers (dtg.findFds "SBUS_FD_LOGGER").head?).ensuring
    (safeCloseFiles answers (inFiles ++ outFiles))

/-- The branch of `execute` that is taken in the child. -/
def executeChild (dtg : SBusDatagram) (serviceOutFd : Nat) : TaskAction Unit := do
  safeClose answers serviceOutFd
  executeTask answers dtg
  -- sys.exit()
  throw .exit

/-- The rest of `dispatch_command`, for a child that has not ended. Where this returns, the child
is back in `main_loop`. -/
def dispatchChild (dtg : SBusDatagram) : TaskAction Unit :=
  match dtg.serviceOutFd with
  -- neither os.close nor os.fdopen takes None
  | none => throw .exception
  | some outfd => (executeChild answers dtg outfd).handling fun
      | .exit => throw .exit
      | .exception => do
          fdopen answers outfd
          change fun state => { state with responses := state.responses ++ [outfd] }
          if answers.replyFails then throw .exception else pure ()

end Child

/-- No command response is written, and the child does not get back to `main_loop`. -/
def EndsInChild (answers : TaskAnswers) (dtg : SBusDatagram) (state : TaskState) : Prop :=
  (dispatchChild answers dtg state).1.isOk = false ∧
    (dispatchChild answers dtg state).2.responses = state.responses

/-! ## When an exception leaves the task -/

section Conditions

variable (answers : TaskAnswers)

def Opens (state : TaskState) (fd : Nat) : Bool := state.isOpen fd && !answers.fdopenFails fd

def inputBuilds (state : TaskState) (stMd : List (Text × Json)) (inFd : Nat) : Bool :=
  Opens answers state inFd &&
    match given stMd "start", given stMd "end" with
    | none, _ | _, none => true
    | some start, some stop =>
        !answers.intFails start && !answers.intFails stop && !answers.seekFails inFd

def filesOf (dtg : SBusDatagram) : List TaskFile :=
  (inputs dtg).map (fun (_, inFd) => { objFd := inFd }) ++
    (outputs dtg).map fun (mdFd, objFd) => { objFd, mdFd := some mdFd }

/-- The files of the task can be made of its descriptors. -/
def Builds (dtg : SBusDatagram) (state : TaskState) : Prop :=
  (∀ input ∈ inputs dtg, inputBuilds answers state input.1 input.2) ∧
    ∀ output ∈ outputs dtg, Opens answers state output.1 ∧ Opens answers state output.2

/-- The file was left open, and closing it raises. -/
def breaks (closed : Nat → Bool) (file : TaskFile) : Bool :=
  !closed file.objFd && (answers.closeFails file.objFd ||
    file.mdFd.any fun mdFd => !closed mdFd && answers.closeFails mdFd)

/-- The storlet runs, leaves the number of the service descriptor in use, and a file that cannot
be closed. -/
def LeavesBroken (dtg : SBusDatagram) (state : TaskState) (outfd : Nat) : Prop :=
  Builds answers dtg state ∧ (∃ loggerFd, (dtg.findFds "SBUS_FD_LOGGER").head? = some loggerFd ∧
    Opens answers state loggerFd) ∧ answers.run.isOpen outfd ∧
      (filesOf dtg).any (breaks answers answers.run.closed)

end Conditions

section Proofs

variable (answers : TaskAnswers)

/-- What closing other descriptors leaves alone. -/
structure Frames (fd : Nat) (before after : TaskState) : Prop where
  isOpen : after.isOpen fd = before.isOpen fd
  closed : after.closed = before.closed
  responses : after.responses = before.responses

theorem Frames.refl (fd : Nat) (state : TaskState) : Frames fd state state := ⟨rfl, rfl, rfl⟩

theorem Frames.trans {fd : Nat} {first middle last : TaskState} (early : Frames fd first middle)
    (late : Frames fd middle last) : Frames fd first last :=
  ⟨late.isOpen.trans early.isOpen, late.closed.trans early.closed,
    late.responses.trans early.responses⟩

theorem setOpen_frames {fd other : Nat} (differs : fd ≠ other) (value : Bool) (state : TaskState) :
    Frames fd state (setOpen other value state).2 := by
  constructor
  · exact if_neg differs
  · rfl
  · rfl

def ending (raises : Bool) : Except Escape Unit := if raises then .error .exception else .ok ()

theorem closeObject_eq (fd : Nat) (state : TaskState) :
    closeObject answers fd state = (ending (answers.closeFails fd), (setOpen fd false state).2) := by
  simp only [closeObject, setOpen, bind_apply, change_apply, ending]
  split_ifs <;> rfl

theorem closeUnlessClosed_frames {fd other : Nat} (differs : fd ≠ other) (state : TaskState) :
    ∃ final, closeUnlessClosed answers other state =
      (ending (!state.closed other && answers.closeFails other), final) ∧ Frames fd state final := by
  cases closed : state.closed other with
  | true => exact ⟨state, by simp [closeUnlessClosed, bind_apply, closed, ending], .refl _ _⟩
  | false =>
    refine ⟨_, ?_, setOpen_frames differs false state⟩
    simp [closeUnlessClosed, bind_apply, closed, closeObject_eq]

theorem closeFile_frames {fd : Nat} {file : TaskFile} (object : fd ≠ file.objFd)
    (metadata : ∀ mdFd, file.mdFd = some mdFd → fd ≠ mdFd) (state : TaskState) :
    ∃ final, closeFile answers file state = (ending (breaks answers state.closed file), final) ∧
      Frames fd state final := by
  cases closed : state.closed file.objFd with
  | true => exact ⟨state, by simp [closeFile, bind_apply, closed, ending, breaks], .refl _ _⟩
  | false =>
    cases given : file.mdFd with
    | none =>
      refine ⟨_, ?_, setOpen_frames object false state⟩
      simp [closeFile, bind_apply, closed, given, closeObject_eq, breaks]
    | some mdFd =>
      obtain ⟨middle, closes, early⟩ :=
        closeUnlessClosed_frames answers (metadata mdFd given) state
      cases raises : !state.closed mdFd && answers.closeFails mdFd with
      | true =>
        refine ⟨middle, ?_, early⟩
        simp [closeFile, bind_apply, closed, given, closes, raises, ending, breaks]
      | false =>
        refine ⟨_, ?_, early.trans (setOpen_frames object false middle)⟩
        simp [closeFile, bind_apply, closed, given, closes, raises, closeObject_eq, breaks]
        simp [ending]

theorem safeCloseFiles_frames {fd : Nat} {files : List TaskFile}
    (apart : ∀ file ∈ files, fd ≠ file.objFd ∧ ∀ mdFd, file.mdFd = some mdFd → fd ≠ mdFd)
    (state : TaskState) :
    ∃ final, safeCloseFiles answers files state =
      (ending (files.any (breaks answers state.closed)), final) ∧ Frames fd state final := by
  induction files generalizing state with
  | nil => exact ⟨state, rfl, .refl _ _⟩
  | cons file rest ih =>
    obtain ⟨here, later⟩ := List.forall_mem_cons.mp apart
    obtain ⟨middle, closes, early⟩ := closeFile_frames answers here.1 here.2 state
    obtain ⟨final, rests, late⟩ := ih later middle
    cases raises : breaks answers state.closed file with
    | true =>
      refine ⟨middle, ?_, early⟩
      simp [safeCloseFiles, forEach, bind_apply, closes, raises, ending]
    | false =>
      refine ⟨final, ?_, early.trans late⟩
      rw [early.closed] at rests
      simp only [safeCloseFiles] at rests
      simp [safeCloseFiles, forEach, bind_apply, closes, raises, ending, rests]

theorem fdopen_eq (fd : Nat) (state : TaskState) :
    fdopen answers fd state = (ending (!Opens answers state fd), state) := by
  cases isOpen : state.isOpen fd <;> cases fails : answers.fdopenFails fd <;>
    simp [fdopen, bind_apply, Opens, isOpen, fails, ending]

theorem createInputFile_eq (stMd : List (Text × Json)) (inFd : Nat) (state : TaskState) :
    createInputFile answers stMd inFd state =
      (if inputBuilds answers state stMd inFd then .ok { objFd := inFd } else .error .exception,
        state) := by
  unfold createInputFile inputBuilds
  cases opens : Opens answers state inFd <;> cases given stMd "start".toList <;>
    cases given stMd "end".toList
  case true.some.some start stop =>
    cases first : answers.intFails start <;> cases second : answers.intFails stop <;>
      cases answers.seekFails inFd <;>
        simp [bind_apply, fdopen_eq, opens, ending, first, second]
  case false.some.some start stop =>
    cases first : answers.intFails start <;> cases second : answers.intFails stop <;>
      simp [bind_apply, fdopen_eq, opens, ending, first, second]
  all_goals simp [bind_apply, fdopen_eq, opens, ending]

theorem createOutputFile_eq (mdFd objFd : Nat) (state : TaskState) :
    createOutputFile answers mdFd objFd state =
      (if Opens answers state mdFd && Opens answers state objFd then
        .ok { objFd, mdFd := some mdFd } else .error .exception, state) := by
  cases object : Opens answers state objFd <;> cases metadata : Opens answers state mdFd <;>
    simp [createOutputFile, bind_apply, fdopen_eq, object, metadata, ending]

/-- An exception of the storlet stays in the task. -/
theorem invoke_eq {fd : Nat} {loggerFd : Option Nat}
    (apart : ∀ logger, loggerFd = some logger → fd ≠ logger) (state : TaskState) :
    ∃ result final, invoke answers loggerFd state = (result, final) ∧
      result ≠ .error .exception ∧ final.responses = state.responses ∧
        if (loggerFd.map (Opens answers state)).getD false then
          final.isOpen fd = answers.run.isOpen fd ∧ final.closed = answers.run.closed
        else final = state := by
  cases loggerFd with
  | none => exact ⟨_, _, rfl, nofun, rfl, rfl⟩
  | some logger =>
    cases opens : Opens answers state logger with
    | false =>
      refine ⟨.ok (), state, ?_, nofun, rfl, ?_⟩
      · simp [invoke, handling, bind_apply, fdopen_eq, opens, ending]
      · simp [opens]
    | true =>
      obtain ⟨final, closes, frames⟩ := closeUnlessClosed_frames answers (apart logger rfl)
        { state with isOpen := answers.run.isOpen, closed := answers.run.closed }
      have quiet : ∃ result, invoke answers (some logger) state = (result, final) ∧
          result ≠ .error .exception := by
        cases raises : !answers.run.closed logger && answers.closeFails logger <;>
          cases ended : answers.run.ending with
          | none =>
            simp [invoke, handling, bind_apply, fdopen_eq, opens, ending, ensuring, runStorlet,
              ended, closes, raises]
          | some escape =>
            cases escape <;>
              simp [invoke, handling, bind_apply, fdopen_eq, opens, ending, ensuring, runStorlet,
                ended, closes, raises]
      obtain ⟨result, runs, calm⟩ := quiet
      refine ⟨result, final, runs, calm, frames.responses, ?_⟩
      simpa [opens] using ⟨frames.isOpen, frames.closed⟩

theorem buildFiles_eq (dtg : SBusDatagram) (state : TaskState) :
    (forEach (fun files (stMd, inFd) => do
        let file ← createInputFile answers stMd inFd
        pure (files ++ [file])) [] (inputs dtg) state =
      (if (inputs dtg).all fun input => inputBuilds answers state input.1 input.2 then
        .ok ((inputs dtg).map fun (_, inFd) => { objFd := inFd })
      else .error .exception, state)) ∧
    (forEach (fun files (mdFd, objFd) => do
        let file ← createOutputFile answers mdFd objFd
        pure (files ++ [file])) [] (outputs dtg) state =
      (if (outputs dtg).all fun output =>
          Opens answers state output.1 && Opens answers state output.2 then
        .ok ((outputs dtg).map fun (mdFd, objFd) => { objFd, mdFd := some mdFd })
      else .error .exception, state)) := by
  constructor
  · exact forEach_collect (fun input _ => createInputFile_eq answers input.1 input.2 state) []
  · exact forEach_collect (fun output _ => createOutputFile_eq answers output.1 output.2 state) []

/-- No file of the task has the number of the service descriptor. -/
theorem filesOf_apart {dtg : SBusDatagram} {fd : Nat}
    (apart : ∀ fdtype ∈ ["SBUS_FD_INPUT_OBJECT", "SBUS_FD_OUTPUT_OBJECT",
      "SBUS_FD_OUTPUT_OBJECT_METADATA", "SBUS_FD_LOGGER"], fd ∉ dtg.findFds fdtype) :
    ∀ file ∈ filesOf dtg, fd ≠ file.objFd ∧ ∀ mdFd, file.mdFd = some mdFd → fd ≠ mdFd := by
  intro file inside
  rcases List.mem_append.mp inside with input | output
  · obtain ⟨⟨stMd, inFd⟩, listed, same⟩ := List.mem_map.mp input
    subst same
    have there := (List.of_mem_zip listed).2
    constructor
    · exact fun same => apart "SBUS_FD_INPUT_OBJECT" (by simp) (same ▸ there)
    · exact fun mdFd impossible => nomatch impossible
  · obtain ⟨⟨mdFd, objFd⟩, listed, same⟩ := List.mem_map.mp output
    subst same
    obtain ⟨metadata, object⟩ := List.of_mem_zip listed
    constructor
    · exact fun same => apart "SBUS_FD_OUTPUT_OBJECT" (by simp) (same ▸ object)
    · intro other found same
      cases found
      exact apart "SBUS_FD_OUTPUT_OBJECT_METADATA" (by simp) (same ▸ metadata)

/-- Once its files are built, an exception leaves the task when one of them cannot be closed. -/
theorem ensuring_close {dtg : SBusDatagram} {fd : Nat} {body : TaskAction Unit}
    (apart : ∀ file ∈ filesOf dtg, fd ≠ file.objFd ∧ ∀ mdFd, file.mdFd = some mdFd → fd ≠ mdFd)
    {state middle : TaskState} {result : Except Escape Unit}
    (runs : body state = (result, middle)) (calm : result ≠ .error .exception) :
    ∃ outcome final, body.ensuring (safeCloseFiles answers (filesOf dtg)) state = (outcome, final) ∧
      final.responses = middle.responses ∧ final.isOpen fd = middle.isOpen fd ∧
        (outcome = .error .exception ↔ (filesOf dtg).any (breaks answers middle.closed)) := by
  obtain ⟨final, closes, frames⟩ := safeCloseFiles_frames answers apart middle
  cases raises : (filesOf dtg).any (breaks answers middle.closed) with
  | true =>
    refine ⟨.error .exception, final, ?_, frames.responses, frames.isOpen, by simp⟩
    cases result <;> simp [ensuring, runs, bind_apply, closes, raises, ending]
  | false =>
    refine ⟨result, final, ?_, frames.responses, frames.isOpen, by simpa using calm⟩
    cases result <;> simp [ensuring, runs, bind_apply, closes, raises, ending]

theorem executeTask_eq {dtg : SBusDatagram} {fd : Nat}
    (apart : ∀ fdtype ∈ ["SBUS_FD_INPUT_OBJECT", "SBUS_FD_OUTPUT_OBJECT",
      "SBUS_FD_OUTPUT_OBJECT_METADATA", "SBUS_FD_LOGGER"], fd ∉ dtg.findFds fdtype)
    {state : TaskState} (gone : state.isOpen fd = false) :
    ∃ result final, executeTask answers dtg state = (result, final) ∧
      final.responses = state.responses ∧
        (result = .error .exception ∧ final.isOpen fd ↔ LeavesBroken answers dtg state fd) := by
  obtain ⟨madeIn, madeOut⟩ := buildFiles_eq answers dtg state
  have builds : Builds answers dtg state ↔
      ((inputs dtg).all fun input => inputBuilds answers state input.1 input.2) ∧
        (outputs dtg).all fun output =>
          Opens answers state output.1 && Opens answers state output.2 := by
    simp [Builds]
  unfold LeavesBroken
  rw [builds]
  cases allIn : (inputs dtg).all fun input => inputBuilds answers state input.1 input.2 with
  | false =>
    rw [allIn] at madeIn
    exact ⟨.error .exception, state, by simp [executeTask, bind_apply, madeIn], rfl, by simp [gone]⟩
  | true =>
    rw [allIn] at madeIn
    cases allOut : (outputs dtg).all fun output =>
        Opens answers state output.1 && Opens answers state output.2 with
    | false =>
      rw [allOut] at madeOut
      exact ⟨.error .exception, state, by simp [executeTask, bind_apply, madeIn, madeOut], rfl,
        by simp [gone]⟩
    | true =>
      rw [allOut] at madeOut
      have logger (number : Nat) (found : (dtg.findFds "SBUS_FD_LOGGER").head? = some number) :
          fd ≠ number := by
        rintro rfl
        exact apart "SBUS_FD_LOGGER" (by simp) (List.mem_of_head? found)
      obtain ⟨result, middle, runs, calm, silent, kept⟩ := invoke_eq answers logger state
      obtain ⟨outcome, final, ends, same, number, raises⟩ :=
        ensuring_close answers (filesOf_apart apart) runs calm
      refine ⟨outcome, final, ?_, same.trans silent, ?_⟩
      · have whole : executeTask answers dtg state = (invoke answers
            (dtg.findFds "SBUS_FD_LOGGER").head?).ensuring
              (safeCloseFiles answers (filesOf dtg)) state := by
          simp [executeTask, bind_apply, madeIn, madeOut, filesOf]
        exact whole.trans ends
      · rw [raises, number]
        cases found : (dtg.findFds "SBUS_FD_LOGGER").head? with
        | none => simp_all
        | some loggerFd =>
          cases opens : Opens answers state loggerFd <;> simp_all [and_comm]

end Proofs

/-- An exception gets out of the child's task while the number of the service descriptor is in
use: closing it has failed and left it open, or the storlet has taken it. -/
def Resurfaces (answers : TaskAnswers) (dtg : SBusDatagram) (state : TaskState) (outfd : Nat) :
    Prop :=
  (state.isOpen outfd ∧ answers.closeServiceOut = .fails true) ∨
    ((state.isOpen outfd → answers.closeServiceOut = .closes) ∧
      LeavesBroken answers dtg (setOpen outfd false state).2 outfd)

theorem setOpen_false {fd : Nat} {state : TaskState} (gone : state.isOpen fd = false) :
    (setOpen fd false state).2 = state := by
  have same : (fun other => if other = fd then false else state.isOpen other) = state.isOpen := by
    funext other
    split_ifs with here
    · rw [here, gone]
    · rfl
  change { state with isOpen := fun other => if other = fd then false else state.isOpen other } = state
  rw [same]

/-- The child's branch always ends by an escape. -/
theorem executeChild_eq (answers : TaskAnswers) {dtg : SBusDatagram} {outfd : Nat}
    (apart : ∀ fdtype ∈ ["SBUS_FD_INPUT_OBJECT", "SBUS_FD_OUTPUT_OBJECT",
      "SBUS_FD_OUTPUT_OBJECT_METADATA", "SBUS_FD_LOGGER"], outfd ∉ dtg.findFds fdtype)
    (state : TaskState) :
    ∃ escape final, executeChild answers dtg outfd state = (.error escape, final) ∧
      final.responses = state.responses ∧
        (escape = .exception ∧ final.isOpen outfd ↔ Resurfaces answers dtg state outfd) := by
  have gone : (setOpen outfd false state).2.isOpen outfd = false := if_pos rfl
  obtain ⟨result, final, runs, silent, leaves⟩ := executeTask_eq answers apart gone
  have closed (closes : safeClose answers outfd state = (.ok (), (setOpen outfd false state).2))
      (calm : state.isOpen outfd → answers.closeServiceOut = .closes) :
      ∃ escape final, executeChild answers dtg outfd state = (.error escape, final) ∧
        final.responses = state.responses ∧
          (escape = .exception ∧ final.isOpen outfd ↔ Resurfaces answers dtg state outfd) := by
    have resurfaces : Resurfaces answers dtg state outfd ↔
        LeavesBroken answers dtg (setOpen outfd false state).2 outfd := by
      constructor
      · rintro (⟨isOpen, fails⟩ | ⟨_, broken⟩)
        · rw [calm isOpen] at fails
          cases fails
        · exact broken
      · exact fun broken => .inr ⟨calm, broken⟩
    rw [resurfaces, ← leaves]
    cases result with
    | ok => exact ⟨.exit, final, by simp [executeChild, bind_apply, closes, runs], silent, by simp⟩
    | error escape =>
      exact ⟨escape, final, by simp [executeChild, bind_apply, closes, runs], silent, by simp⟩
  cases isOpen : state.isOpen outfd with
  | false =>
    apply closed
    · rw [setOpen_false isOpen]
      simp [safeClose, bind_apply, isOpen]
    · simp [isOpen]
  | true =>
    cases answered : answers.closeServiceOut with
    | closes =>
      apply closed
      · simp [safeClose, bind_apply, isOpen, answered, setOpen]
      · exact fun _ => answered
    | fails stays =>
      refine ⟨.exception, (setOpen outfd stays state).2, ?_, rfl, ?_⟩
      · simp [executeChild, safeClose, bind_apply, isOpen, answered, setOpen]
      · have number : (setOpen outfd stays state).2.isOpen outfd = stays := if_pos rfl
        simp [Resurfaces, isOpen, answered, number]

theorem Json.is_eq {value : Json} {name : Text} (named : Json.is value name) :
    value = .str name := by
  cases value with
  | str text => exact congrArg Json.str (of_decide_eq_true named)
  | null | bool | int | float | arr | obj => cases named

/-- The service descriptor has a number of its own. -/
theorem findFds_apart {dtg : SBusDatagram} (distinct : (dtg.sfds.map SBusFileDescriptor.fileno).Nodup)
    {outfd : Nat} (found : dtg.serviceOutFd = some outfd) {fdtype : String}
    (other : fdtype.toList ≠ "SBUS_FD_SERVICE_OUT".toList) : outfd ∉ dtg.findFds fdtype := by
  intro inside
  obtain ⟨first, service, number⟩ := Option.map_eq_some_iff.mp found
  obtain ⟨second, filtered, same⟩ := List.mem_map.mp inside
  obtain ⟨listed, typed⟩ := List.mem_filter.mp filtered
  have both : second = first := List.inj_on_of_nodup_map distinct listed
    (List.mem_of_find?_eq_some service) (same.trans number.symm)
  have isService := List.find?_some service
  subst both
  have same := (Json.is_eq typed).symm.trans (Json.is_eq isService)
  exact other (Json.str.inj same)

theorem filenos_of_mapM {interpreter : Interpreter} {pairs : List (Nat × Json)}
    {sfds : List SBusFileDescriptor}
    (mapped : pairs.mapM (fun (fileno, md) => fromFilenoAndMetadataDict interpreter fileno md) =
      .ok sfds) : sfds.map SBusFileDescriptor.fileno = pairs.map Prod.fst := by
  have each := forall₂_of_mapM mapped
  clear mapped
  induction each with
  | nil => rfl
  | cons here _ ih => rw [List.map_cons, List.map_cons, ih, (fromFileno_ok here).1]

/-- A message over distinct descriptors is received as such a datagram. -/
theorem receive_distinct {interpreter : Interpreter} {raw : RawMessage} {dtg : SBusDatagram}
    (decoded : receive interpreter raw = .ok dtg) (distinct : raw.fds.Nodup) :
    (dtg.sfds.map SBusFileDescriptor.fileno).Nodup := by
  obtain ⟨strMd, -, afterMetadata⟩ := bind_eq_ok decoded
  obtain ⟨strParams, -, built⟩ := bind_eq_ok afterMetadata
  unfold buildDatagramFromRawMessage at built
  obtain ⟨metadata, -, afterLoads⟩ := bind_eq_ok built
  obtain ⟨cmdParams, -, afterParams⟩ := bind_eq_ok afterLoads
  obtain ⟨command, -, afterCommand⟩ := bind_eq_ok afterParams
  obtain ⟨params, -, afterGet⟩ := bind_eq_ok afterCommand
  obtain ⟨taskId, -, afterTask⟩ := bind_eq_ok afterGet
  obtain ⟨items, -, afterItems⟩ := bind_eq_ok afterTask
  split at afterItems
  · cases afterItems
  · next lengths =>
    obtain ⟨sfds, mapped, made⟩ := bind_eq_ok afterItems
    rw [(buildDatagram_ok made).1, filenos_of_mapM mapped, List.map_fst_zip (by omega)]
    exact distinct

/-- The storlet leaves the number of the service descriptor in use, and its output's reader is
gone. -/
def brokenPipe : TaskAnswers :=
  { closeServiceOut := .closes, fdopenFails := fun _ => false, seekFails := fun _ => false,
    intFails := fun _ => false,
    run := { isOpen := fun _ => true, closed := fun _ => false, ending := none },
    closeFails := fun fd => fd = 5, replyFails := false }

def executeDatagram : ExecuteDatagram where
  command := .str "SBUS_CMD_EXECUTE"
  sfds := [⟨.str "SBUS_FD_SERVICE_OUT", 3, [], .null⟩, ⟨.str "SBUS_FD_INPUT_OBJECT", 4, [], .null⟩,
    ⟨.str "SBUS_FD_OUTPUT_OBJECT", 5, [], .null⟩,
    ⟨.str "SBUS_FD_OUTPUT_OBJECT_METADATA", 6, [], .null⟩, ⟨.str "SBUS_FD_LOGGER", 7, [], .null⟩]
  params := .null
  taskId := .null
  execute := by decide
  distinct := by decide

end Storlets.Sbus
