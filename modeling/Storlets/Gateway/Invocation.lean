import Storlets.Gateway.Ownership

set_option autoImplicit false

/-!
# The steps of an invocation

Which step is the first to fail, and what the invocation holds up to it.
-/

namespace Storlets

open PyStr Effect Descriptors

/-! ## The step that fails -/

/-- The task id of a reply to EXECUTE that is accepted. -/
def RequestAnswer.acknowledged : RequestAnswer → Option Text
  | .replied true (some (c :: taskId)) => some (c :: taskId)
  | _ => none

def CallAnswers.fails (answers : CallAnswers) : CallStep → Bool
  | .logger => answers.loggerFails
  | .pipe name => answers.pipeFails name
  | .execute => answers.execute.acknowledged.isNone
  | .writeWait name => answers.writeWait name ≠ .ready
  | .spawn name => answers.spawnFails name
  | .metadataWait => answers.metadataWait ≠ .ready
  | .metadataRead => answers.metadataReadFails
  | .metadataParse => answers.metadataParseFails
  | .dataWait => answers.dataWait ≠ .ready

def inputSteps (hasFd : Bool) : List CallStep := if hasFd then [] else [.pipe .input]

def sourceSteps (indices : List Nat) : List CallStep := indices.map fun index => .pipe (.source index)

def pipeSteps (hasFd : Bool) (extra : Nat) : List CallStep :=
  inputSteps hasFd ++ .pipe .data :: .pipe .metadata :: sourceSteps (List.range extra)

def handOverSteps (names : List PipeName) : List CallStep :=
  names.flatMap fun name => [.writeWait name, .spawn name]

/-- The pipes that input is written to. -/
def writerNames (hasFd : Bool) (extra : Nat) : List PipeName :=
  (if hasFd then [] else [.input]) ++ (List.range extra).map .source

def invokeSteps (hasFd : Bool) (extra : Nat) : List CallStep :=
  .logger :: (pipeSteps hasFd extra ++ [.execute])

def resultSteps : List CallStep := [.metadataWait, .metadataRead, .metadataParse, .dataWait]

def callSteps (hasFd : Bool) (extra : Nat) : List CallStep :=
  invokeSteps hasFd extra ++ handOverSteps (writerNames hasFd extra) ++ resultSteps

def CallAnswers.failingStep (answers : CallAnswers) (hasFd : Bool) (extra : Nat) :
    Option CallStep :=
  (callSteps hasFd extra).find? answers.fails

def ended : Option CallStep → Except Raised Unit
  | none => .ok ()
  | some step => .error (.step step)

/-! ## The pipes -/

def ends (pair : Nat × Nat) : List Nat := [pair.1, pair.2]

/-- The pipes of an invocation, the read end of each first. -/
structure Pipes where
  input : Option (Nat × Nat)
  data : Nat × Nat
  metadata : Nat × Nat
  sources : List (Nat × Nat)

namespace Pipes

variable (pipes : Pipes)

def issued : List Nat :=
  pipes.input.toList.flatMap ends ++ ends pipes.data ++ ends pipes.metadata ++
    pipes.sources.flatMap ends

/-- The container's side, in the order in which it is closed. -/
def remote : List Nat :=
  [pipes.data.2, pipes.metadata.2] ++ (pipes.input.map Prod.fst).toList ++
    pipes.sources.map Prod.fst

def writing : List Nat := (pipes.input.map Prod.snd).toList ++ pipes.sources.map Prod.snd

/-- The object once the pipes are made. -/
def protocol (hasFd : Bool) (extra loggerFd : Nat) : Protocol where
  hasFd := hasFd
  extra := extra
  dataReadFd := some pipes.data.1
  dataWriteFd := some pipes.data.2
  metadataReadFd := some pipes.metadata.1
  metadataWriteFd := some pipes.metadata.2
  inputReadFd := pipes.input.map Prod.fst
  inputWriteFd := pipes.input.map Prod.snd
  extraDataSources := pipes.sources
  loggerFd := some loggerFd
  piped := pipes.issued

theorem flatMap_ends_perm (sources : List (Nat × Nat)) :
    (sources.flatMap ends).Perm (sources.map Prod.fst ++ sources.map Prod.snd) := by
  induction sources with
  | nil => exact List.Perm.nil
  | cons source rest ih =>
    simp only [List.flatMap_cons, ends, List.map_cons, List.cons_append, List.nil_append]
    apply List.Perm.cons
    exact (List.Perm.cons source.2 ih).trans List.perm_middle.symm

theorem issued_perm :
    pipes.issued.Perm (pipes.remote ++ [pipes.data.1, pipes.metadata.1] ++ pipes.writing) := by
  have sources := flatMap_ends_perm pipes.sources
  rw [List.perm_iff_count] at sources ⊢
  intro fd
  have counts := sources fd
  rw [List.count_append] at counts
  rcases h : pipes.input with _ | input <;>
    simp only [issued, remote, writing, ends, h, List.count_append, counts, Option.map, Option.toList,
      List.flatMap_cons, List.flatMap_nil, List.count_cons, List.count_nil] <;>
    omega

structure Fits (hasFd : Bool) (extra : Nat) : Prop where
  input : pipes.input.isSome = !hasFd
  sources : pipes.sources.length = extra

end Pipes

section Stages

variable {me : Owner} {held : List Nat} {state : CallState}

theorem pipe_fails {answers : CallAnswers} {name : PipeName}
    (fails : answers.pipeFails name = true) :
    pipe me answers name state = (.error (.step (.pipe name)), state) := by
  simp [pipe, fails]

theorem pipe_owns (owns : Owns me held state) (answers : CallAnswers) (name : PipeName)
    (works : answers.pipeFails name = false) : ∃ pair final,
    pipe me answers name state = (.ok pair, final) ∧ Owns me (ends pair ++ held) final ∧
      final.protocol = { state.protocol with piped := state.protocol.piped ++ ends pair } := by
  obtain ⟨readFd, writeFd, final, opens, after, same⟩ := osPipe_owns owns
  refine ⟨(readFd, writeFd), final, ?_, after, same⟩
  simp [pipe, works, opens]

theorem sources_owns (owns : Owns me held state) (answers : CallAnswers) (indices : List Nat) :
    ∃ sources final,
      prepareSources me answers indices state =
        (ended ((sourceSteps indices).find? answers.fails), final) ∧
      Owns me (sources.flatMap ends ++ held) final ∧
      final.protocol =
        { state.protocol with
          extraDataSources := state.protocol.extraDataSources ++ sources
          piped := state.protocol.piped ++ sources.flatMap ends } ∧
      ((sourceSteps indices).find? answers.fails = none → sources.length = indices.length) := by
  induction indices generalizing held state with
  | nil => exact ⟨[], state, rfl, owns, by simp, fun _ => rfl⟩
  | cons index rest ih =>
    cases works : answers.pipeFails (.source index) with
    | true =>
      refine ⟨[], state, ?_, owns, by simp, ?_⟩
      · simp [prepareSources, forEach, bind_apply, pipe_fails works, sourceSteps, works, CallAnswers.fails, ended]
      · simp [sourceSteps, CallAnswers.fails, works]
    | false =>
      obtain ⟨source, made, opens, first, same⟩ := pipe_owns owns answers (.source index) works
      let noted : CallState := { made with
        protocol.extraDataSources := made.protocol.extraDataSources ++ [source] }
      have first : Owns me (ends source ++ held) noted := first.of_piped rfl rfl
      obtain ⟨sources, final, rests, second, still, fit⟩ := ih first
      refine ⟨source :: sources, final, ?_, ?_, ?_, ?_⟩
      · simp only [prepareSources] at rests
        simpa [prepareSources, forEach, bind_apply, opens, sourceSteps, CallAnswers.fails, works]
          using rests
      · refine second.perm ?_
        rw [List.flatMap_cons, List.perm_iff_count]
        intro fd
        simp only [List.count_append]
        omega
      · simp [still, noted, same]
      · simpa [sourceSteps, CallAnswers.fails, works] using fit

/-- What is opened, and what the object tells of it, when `step` has failed or no step has. -/
inductive PipesMade (hasFd : Bool) (extra loggerFd : Nat) :
    Option CallStep → List Nat → Protocol → Prop
  | noData (step : CallStep) (opened : List Nat) (protocol : Protocol)
      (taskId : protocol.taskId = none) (absent : protocol.dataReadFd = none) :
      PipesMade hasFd extra loggerFd (some step) opened protocol
  | noMetadata (step : CallStep) (opened : List Nat) (protocol : Protocol) (fd : Nat)
      (taskId : protocol.taskId = none) (data : protocol.dataReadFd = some fd)
      (listed : fd ∈ opened) (absent : protocol.metadataReadFd = none) :
      PipesMade hasFd extra loggerFd (some step) opened protocol
  | noSource (step : CallStep) (pipes : Pipes) :
      PipesMade hasFd extra loggerFd (some step) pipes.issued (pipes.protocol hasFd extra loggerFd)
  | all (pipes : Pipes) (fits : pipes.Fits hasFd extra) :
      PipesMade hasFd extra loggerFd none pipes.issued (pipes.protocol hasFd extra loggerFd)

variable {hasFd : Bool} {extra loggerFd : Nat}

/-- The pipes after the input pipe. -/
theorem prepareOutputs_owns (input : Option (Nat × Nat))
    (owns : Owns me (input.toList.flatMap ends ++ held) state) (given : input.isSome = !hasFd)
    (begun : state.protocol =
      { hasFd, extra, loggerFd := some loggerFd,
        inputReadFd := input.map Prod.fst, inputWriteFd := input.map Prod.snd,
        piped := input.toList.flatMap ends })
    (answers : CallAnswers) : ∃ opened final,
    prepareOutputs me answers state =
      (ended ((.pipe .data :: .pipe .metadata :: sourceSteps (List.range extra)).find?
        answers.fails), final) ∧
      Owns me (opened ++ held) final ∧
      PipesMade hasFd extra loggerFd
        ((.pipe .data :: .pipe .metadata :: sourceSteps (List.range extra)).find? answers.fails)
        opened final.protocol := by
  cases worksData : answers.pipeFails .data with
  | true =>
    refine ⟨_, state, ?_, owns, ?_⟩
    · simp [prepareOutputs, bind_apply, pipe_fails worksData, worksData, CallAnswers.fails, ended]
    · simp only [List.find?_cons, CallAnswers.fails, worksData]
      apply PipesMade.noData <;> rw [begun]
  | false =>
  obtain ⟨data, state₁, opens₁, owns₁, same₁⟩ := pipe_owns owns answers .data worksData
  let noted₁ : CallState := { state₁ with
    protocol.dataReadFd := some data.1, protocol.dataWriteFd := some data.2 }
  have owns₁' : Owns me _ noted₁ := owns₁.of_piped rfl rfl
  cases worksMetadata : answers.pipeFails .metadata with
  | true =>
    refine ⟨ends data ++ input.toList.flatMap ends, noted₁, ?_, ?_, ?_⟩
    · simp [prepareOutputs, bind_apply, opens₁, pipe_fails worksMetadata, worksMetadata, CallAnswers.fails, worksData,
        ended, noted₁]
    · rwa [List.append_assoc]
    · simp only [List.find?_cons, CallAnswers.fails, worksData, worksMetadata]
      apply PipesMade.noMetadata _ _ _ data.1
      · simp [noted₁, same₁, begun]
      · rfl
      · simp [ends]
      · simp [noted₁, same₁, begun]
  | false =>
  obtain ⟨metadata, state₂, opens₂, owns₂, same₂⟩ := pipe_owns owns₁' answers .metadata worksMetadata
  let noted₂ : CallState := { state₂ with
    protocol.metadataReadFd := some metadata.1, protocol.metadataWriteFd := some metadata.2 }
  have owns₂' : Owns me _ noted₂ := owns₂.of_piped rfl rfl
  obtain ⟨sources, final, rests, owns₃, same₃, fit⟩ := sources_owns owns₂' answers (List.range extra)
  have steps : (CallStep.pipe .data :: .pipe .metadata :: sourceSteps (List.range extra)).find?
      answers.fails = (sourceSteps (List.range extra)).find? answers.fails := by
    simp [CallAnswers.fails, worksData, worksMetadata]
  let pipes : Pipes := { input, data, metadata, sources }
  have made : final.protocol = pipes.protocol hasFd extra loggerFd := by
    simp [same₃, noted₂, same₂, noted₁, same₁, begun, pipes, Pipes.protocol, Pipes.issued]
  refine ⟨pipes.issued, final, ?_, ?_, ?_⟩
  · have length : state₂.protocol.extra = extra := by simp [same₂, noted₁, same₁, begun]
    rw [steps, ← rests]
    simp [prepareOutputs, bind_apply, opens₁, noted₁, opens₂, length, noted₂]
  · refine owns₃.perm ?_
    rw [List.perm_iff_count]
    intro fd
    simp only [pipes, Pipes.issued, List.count_append]
    omega
  · rw [steps, made]
    cases found : (sourceSteps (List.range extra)).find? answers.fails with
    | some step => exact .noSource step pipes
    | none => exact .all pipes ⟨given, by simpa [pipes] using fit found⟩

theorem prepare_owns (owns : Owns me held state) (answers : CallAnswers)
    (begun : state.protocol = { hasFd, extra, loggerFd := some loggerFd }) : ∃ opened final,
    prepareInvocationDescriptors me answers state =
      (ended ((pipeSteps hasFd extra).find? answers.fails), final) ∧
      Owns me (opened ++ held) final ∧
      PipesMade hasFd extra loggerFd ((pipeSteps hasFd extra).find? answers.fails) opened
        final.protocol := by
  cases hasFd with
  | true =>
    have given : (none : Option (Nat × Nat)).isSome = !true := rfl
    obtain ⟨opened, final, prepares, after, prepared⟩ :=
      prepareOutputs_owns none owns given begun answers
    refine ⟨opened, final, ?_, after, prepared⟩
    simp [prepareInvocationDescriptors, bind_apply, begun, prepares, pipeSteps, inputSteps]
  | false =>
  cases works : answers.pipeFails .input with
  | true =>
    refine ⟨[], state, ?_, owns, ?_⟩
    · simp [prepareInvocationDescriptors, bind_apply, begun, pipe_fails works, pipeSteps,
        inputSteps, CallAnswers.fails, works, ended]
    · simp only [pipeSteps, inputSteps, Bool.false_eq_true, if_false, List.cons_append,
        List.find?_cons, CallAnswers.fails, works]
      apply PipesMade.noData <;> rw [begun]
  | false =>
  obtain ⟨input, made, opens, first, same⟩ := pipe_owns owns answers .input works
  let noted : CallState := { made with
    protocol.inputReadFd := some input.1, protocol.inputWriteFd := some input.2 }
  have first : Owns me ((some input).toList.flatMap ends ++ held) noted := by
    have first : Owns me (ends input ++ held) noted := first.of_piped rfl rfl
    simpa using first
  have given : (some input).isSome = !false := rfl
  have noting : noted.protocol =
      { hasFd := false, extra, loggerFd := some loggerFd,
        inputReadFd := (some input).map Prod.fst, inputWriteFd := (some input).map Prod.snd,
        piped := (some input).toList.flatMap ends } := by
    simp [noted, same, begun]
  obtain ⟨opened, final, prepares, after, prepared⟩ :=
    prepareOutputs_owns (some input) first given noting answers
  have steps : (pipeSteps false extra).find? answers.fails =
      (CallStep.pipe .data :: .pipe .metadata :: sourceSteps (List.range extra)).find?
        answers.fails := by
    simp [pipeSteps, inputSteps, CallAnswers.fails, works]
  refine ⟨opened, final, ?_, after, ?_⟩
  · rw [steps, ← prepares]
    simp [prepareInvocationDescriptors, bind_apply, begun, opens, noted]
  · rwa [steps]

theorem execute_owns (owns : Owns me held state) (answer : RequestAnswer)
    (begun : state.protocol.taskId = none) : ∃ more final,
    sendExecuteCommand me answer state =
      (if answer.acknowledged.isNone then .error (.step .execute) else .ok (), final) ∧
      Owns me held final ∧
      final.protocol =
        { state.protocol with
          piped := state.protocol.piped ++ more
          taskId := answer.acknowledged } := by
  obtain ⟨more, middle, requests, after, same⟩ := request_owns owns answer
  refine ⟨more, { middle with protocol.taskId := answer.acknowledged }, ?_, after.of_piped rfl rfl,
    by rw [same]⟩
  have kept : middle.protocol.taskId = none := by rw [same, begun]
  have unchanged : { middle with protocol.taskId := none } = middle := by
    rw [← kept]
  rcases answer with _ | _ | _ | _ | _ | _ | ⟨_ | _, _ | _ | ⟨c, taskId⟩⟩ <;>
    simp [sendExecuteCommand, bind_apply, requests, RequestAnswer.ending,
      RequestAnswer.acknowledged, unchanged]

theorem closeRemote_owns {pipes : Pipes} (owns : Owns me (pipes.remote ++ held) state)
    (data : state.protocol.dataWriteFd = some pipes.data.2)
    (metadata : state.protocol.metadataWriteFd = some pipes.metadata.2)
    (input : state.protocol.inputReadFd = pipes.input.map Prod.fst)
    (sources : state.protocol.extraDataSources = pipes.sources) : ∃ final,
    closeRemoteSideDescriptors me state = (.ok (), final) ∧ Owns me held final ∧
      final.protocol = state.protocol := by
  obtain ⟨final, closes, after, same⟩ := closeAll_owns owns
  refine ⟨final, ?_, after, same⟩
  rw [← closes]
  cases h : pipes.input <;>
    simp [closeRemoteSideDescriptors, bind_apply, data, metadata, input, sources, Pipes.remote, h,
      Function.comp_def]

/-! ## The invocation up to the acknowledgement -/

/-- An invocation that has made its pipes, and closed the container's side of them. -/
structure Running (me : Owner) (pipes : Pipes) (local' : List Nat) (taskId : Option Text)
    (writers : List Nat) (cancelled : List Text) (state : CallState) : Prop where
  owns : Owns me (local' ++ pipes.writing) state
  distinct : ([pipes.data.1, pipes.metadata.1] ++ pipes.writing).Nodup
  piped : ∀ fd ∈ pipes.issued, fd ∈ state.protocol.piped
  dataRead : state.protocol.dataReadFd = some pipes.data.1
  metadataRead : state.protocol.metadataReadFd = some pipes.metadata.1
  inputWrite : state.protocol.inputWriteFd = pipes.input.map Prod.snd
  sources : state.protocol.extraDataSources = pipes.sources
  taskId : state.protocol.taskId = taskId
  writers : state.protocol.writers = writers
  cancelled : state.protocol.cancelled = cancelled

inductive Invoked (me : Owner) (answers : CallAnswers) (hasFd : Bool) (extra : Nat) :
    Option CallStep → CallState → Prop
  | noLogger (state : CallState) (taskId : state.protocol.taskId = none)
      (absent : state.protocol.dataReadFd = none) :
      Invoked me answers hasFd extra (some .logger) state
  | noPipe (name : PipeName) (opened : List Nat) (loggerFd : Nat) (state : CallState)
      (owns : Owns me opened state)
      (prepared : PipesMade hasFd extra loggerFd (some (.pipe name)) opened state.protocol) :
      Invoked me answers hasFd extra (some (.pipe name)) state
  | noTask (pipes : Pipes) (state : CallState) (fits : pipes.Fits hasFd extra)
      (running : Running me pipes [pipes.data.1, pipes.metadata.1] none [] [] state) :
      Invoked me answers hasFd extra (some .execute) state
  | task (pipes : Pipes) (taskId : Text) (state : CallState) (fits : pipes.Fits hasFd extra)
      (acknowledged : answers.execute.acknowledged = some taskId)
      (running : Running me pipes [pipes.data.1, pipes.metadata.1] (some taskId) [] [] state) :
      Invoked me answers hasFd extra none state

theorem erase_logger {loggerFd : Nat} (distinct : (held ++ [loggerFd]).Nodup) :
    (held ++ [loggerFd]).erase loggerFd = held := by
  have fresh : loggerFd ∉ held := by
    intro inside
    exact (List.disjoint_of_nodup_append distinct) inside (List.mem_singleton_self _)
  rw [List.erase_append_right _ fresh, List.erase_cons_head, List.append_nil]

theorem mem_pipeSteps {step : CallStep} (listed : step ∈ pipeSteps hasFd extra) :
    ∃ name, step = .pipe name := by
  cases hasFd <;>
    simp only [pipeSteps, inputSteps, sourceSteps, List.mem_append, List.mem_cons, List.mem_map,
      List.not_mem_nil, Bool.false_eq_true, if_false, if_true, or_false, false_or] at listed <;>
    grind

/-- An invocation of an object that has not been used. -/
def Protocol.start (table : Table Owner) (hasFd : Bool) (extra : Nat) : CallState :=
  { table, protocol := { hasFd, extra } }

/-- `_invoke` with its logger open. -/
theorem activated_ends (owns : Owns me [loggerFd] state) (answers : CallAnswers)
    (begun : state.protocol = { hasFd, extra, loggerFd := some loggerFd }) : ∃ final,
    (prepareInvocationDescriptors me answers >>= fun _ =>
      (sendExecuteCommand me answers.execute).ensuring (closeRemoteSideDescriptors me)).ensuring
        (osClose me (some loggerFd)) state =
      (ended ((pipeSteps hasFd extra ++ [CallStep.execute]).find? answers.fails), final) ∧
      Invoked me answers hasFd extra
        ((pipeSteps hasFd extra ++ [CallStep.execute]).find? answers.fails) final := by
  obtain ⟨opened, prepared, prepares, owns₁, shape⟩ := prepare_owns owns answers begun
  have closesLogger {held : List Nat} {state : CallState} (owns : Owns me (held ++ [loggerFd]) state) :
      ∃ final, osClose me (some loggerFd) state = (.ok (), final) ∧ Owns me held final ∧
        final.protocol = state.protocol := by
    obtain ⟨final, closes, after, same⟩ := osClose_owns owns loggerFd (by simp)
    rw [erase_logger owns.distinct] at after
    exact ⟨final, closes, after, same⟩
  rw [List.find?_append]
  cases found : (pipeSteps hasFd extra).find? answers.fails with
  | some step =>
    obtain ⟨name, named⟩ := mem_pipeSteps (List.mem_of_find?_eq_some found)
    obtain ⟨final, closes, after, same⟩ := closesLogger owns₁
    rw [found, named] at shape
    refine ⟨final, ?_, ?_⟩
    · simp [ensuring, bind_apply, prepares, found, ended, closes]
    · rw [named, Option.some_or]
      exact .noPipe name opened loggerFd final after (same ▸ shape)
  | none =>
    rw [found] at shape
    generalize shown : prepared.protocol = protocol at shape
    cases shape with
    | all pipes fits =>
    have owns₁ : Owns me (pipes.issued ++ [loggerFd]) prepared := owns₁
    obtain ⟨more, answered, executes, owns₂, same₂⟩ :=
      execute_owns owns₁ answers.execute (by simp [shown, Pipes.protocol])
    have arranged : Owns me (pipes.remote ++
        (([pipes.data.1, pipes.metadata.1] ++ pipes.writing) ++ [loggerFd])) answered := by
      apply owns₂.perm
      have perm := pipes.issued_perm.append_right [loggerFd]
      simpa only [List.append_assoc] using perm
    obtain ⟨closed, closes, owns₃, same₃⟩ := closeRemote_owns arranged
      (by simp [same₂, shown, Pipes.protocol]) (by simp [same₂, shown, Pipes.protocol])
      (by simp [same₂, shown, Pipes.protocol]) (by simp [same₂, shown, Pipes.protocol])
    obtain ⟨final, closesLast, owns₄, same₄⟩ := closesLogger owns₃
    have running : Running me pipes [pipes.data.1, pipes.metadata.1] answers.execute.acknowledged
        [] [] final := by
      constructor
      · exact owns₄
      · exact owns₄.distinct
      all_goals simp +contextual [same₄, same₃, same₂, shown, Pipes.protocol]
    cases task : answers.execute.acknowledged with
    | none =>
      refine ⟨final, ?_, ?_⟩
      · simp [ensuring, bind_apply, prepares, found, executes, closes, closesLast, ended,
          CallAnswers.fails, task]
      · simp only [List.find?_singleton, CallAnswers.fails, task]
        exact .noTask pipes final fits (task ▸ running)
    | some taskId =>
      refine ⟨final, ?_, ?_⟩
      · simp [ensuring, bind_apply, prepares, found, executes, closes, closesLast, ended,
          CallAnswers.fails, task]
      · simp only [List.find?_singleton, CallAnswers.fails, task]
        exact .task pipes taskId final fits task (task ▸ running)

theorem invoke_ends (me : Owner) (answers : CallAnswers) (table : Table Owner) (hasFd : Bool)
    (extra : Nat) : ∃ final,
    invoke me answers (Protocol.start table hasFd extra) =
      (ended ((invokeSteps hasFd extra).find? answers.fails), final) ∧
      Invoked me answers hasFd extra ((invokeSteps hasFd extra).find? answers.fails) final := by
  cases logger : answers.loggerFails with
  | true =>
    refine ⟨Protocol.start table hasFd extra, ?_, ?_⟩
    · simp [invoke, invokeSteps, logger, CallAnswers.fails, ended]
    · simp only [invokeSteps, List.find?_cons, CallAnswers.fails, logger]
      exact .noLogger _ rfl rfl
  | false =>
  have unused : Owns me [] (Protocol.start table hasFd extra) := by
    constructor
    · exact List.nodup_nil
    · simp
    · simp [Protocol.start]
  obtain ⟨loggerFd, opened, opens, owns, same⟩ := osOpen_owns unused
  let noted : CallState := { opened with protocol.loggerFd := some loggerFd }
  have begun : noted.protocol = { hasFd, extra, loggerFd := some loggerFd } := by
    simp [noted, same, Protocol.start]
  have owns : Owns me [loggerFd] noted := owns.of_piped rfl rfl
  obtain ⟨final, runs, invoked⟩ := activated_ends owns answers begun
  have steps : (invokeSteps hasFd extra).find? answers.fails =
      (pipeSteps hasFd extra ++ [CallStep.execute]).find? answers.fails := by
    simp [invokeSteps, CallAnswers.fails, logger]
  rw [steps]
  refine ⟨final, ?_, invoked⟩
  rw [← runs]
  simp [invoke, logger, bind_apply, opens, noted]

end Stages

end Storlets
