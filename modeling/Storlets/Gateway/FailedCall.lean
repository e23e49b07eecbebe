import Storlets.Gateway.Invocation

set_option autoImplicit false

/-!
# What a failed invocation leaves behind

Descriptors that are still open, and a task that still runs.
-/

namespace Storlets

open PyStr Effect Descriptors

section Stages

variable {me : Owner} {pipes : Pipes} {taskId : Text} {state : CallState}
variable {hasFd : Bool} {extra : Nat}

/-! ## The input -/

theorem writeFds_fds {protocol : Protocol} (input : protocol.inputWriteFd = pipes.input.map Prod.snd)
    (sources : protocol.extraDataSources = pipes.sources) :
    protocol.writeFds.map Prod.snd = pipes.writing := by
  simp only [Protocol.writeFds, input, sources, Pipes.writing, List.map_append]
  congr 1
  · cases pipes.input <;> rfl
  · apply List.ext_getElem <;> simp

theorem writeFds_names {protocol : Protocol} (fits : pipes.Fits hasFd extra)
    (input : protocol.inputWriteFd = pipes.input.map Prod.snd)
    (sources : protocol.extraDataSources = pipes.sources) :
    protocol.writeFds.map Prod.fst = writerNames hasFd extra := by
  simp only [Protocol.writeFds, input, sources, writerNames, List.map_append]
  congr 1
  · have given := fits.input
    cases hasFd <;> cases h : pipes.input <;> simp_all
  · rw [← fits.sources]
    apply List.ext_getElem <;> simp

/-- The write ends before the first that is not handed over. -/
theorem handOver_ends (answers : CallAnswers) (state : CallState)
    (writeFds : List (PipeName × Nat)) :
    ∃ handed rest, writeFds.map Prod.snd = handed ++ rest ∧
      ((handOverSteps (writeFds.map Prod.fst)).find? answers.fails = none ↔ rest = []) ∧
      forEach (fun _ (name, fd) => handOver answers name fd) () writeFds state =
        (ended ((handOverSteps (writeFds.map Prod.fst)).find? answers.fails),
          { state with protocol.writers := state.protocol.writers ++ handed }) := by
  induction writeFds generalizing state with
  | nil => exact ⟨[], [], rfl, by simp [handOverSteps], by simp [forEach, handOverSteps, ended]⟩
  | cons writeFd writeFds ih =>
    obtain ⟨name, fd⟩ := writeFd
    by_cases waits : answers.writeWait name = .ready
    · cases spawns : answers.spawnFails name with
      | true =>
        refine ⟨[], _, rfl, ?_, ?_⟩
        · simp [handOverSteps, CallAnswers.fails, waits, spawns]
        · simp [forEach, bind_apply, handOver, handOverSteps, CallAnswers.fails, waits, spawns, ended]
      | false =>
        obtain ⟨handed, rest, split, complete, runs⟩ :=
          ih { state with protocol.writers := state.protocol.writers ++ [fd] }
        refine ⟨fd :: handed, rest, by simp [split], ?_, ?_⟩
        · simpa [handOverSteps, CallAnswers.fails, waits, spawns] using complete
        · simpa [forEach, bind_apply, handOver, handOverSteps, CallAnswers.fails, waits, spawns]
            using runs
    · refine ⟨[], _, rfl, ?_, ?_⟩
      · simp [handOverSteps, CallAnswers.fails, waits]
      · simp [forEach, bind_apply, handOver, handOverSteps, CallAnswers.fails, waits, ended]

/-! ## The results -/

/-- What the failure of a step raises. -/
def CallAnswers.raised (answers : CallAnswers) : CallStep → Raised
  | .metadataWait => answers.waitRaises .metadataWait answers.metadataWait
  | .dataWait => answers.waitRaises .dataWait answers.dataWait
  | step => .step step

/-- The failure of this step has the task cancelled. -/
def CallAnswers.cancelSent (answers : CallAnswers) : CallStep → Bool
  | .metadataWait => answers.cancels answers.metadataWait
  | .dataWait => answers.cancels answers.dataWait
  | _ => false

theorem Running.waits {local' : List Nat}
    (running : Running me pipes local' (some taskId) pipes.writing [] state)
    (answers : CallAnswers) (step : CallStep) {wait : Wait} (fails : wait ≠ .ready) : ∃ final,
    waitForRead me answers step wait state = (.error (answers.waitRaises step wait), final) ∧
      Running me pipes local' (some taskId) pipes.writing
        (if answers.cancels wait then [taskId] else []) final := by
  obtain ⟨more, final, ends, after, same⟩ :=
    waitForRead_fails running.owns answers step fails running.taskId
  refine ⟨final, ends, ?_⟩
  constructor
  · exact after
  · exact running.distinct
  · intro fd issued
    rw [same]
    exact List.mem_append_left _ (running.piped fd issued)
  all_goals rw [same]
  · exact running.dataRead
  · exact running.metadataRead
  · exact running.inputWrite
  · exact running.sources
  · exact running.taskId
  · exact running.writers
  · simp [running.cancelled]

theorem Running.closesMetadata {writers : List Nat}
    (running : Running me pipes [pipes.data.1, pipes.metadata.1] (some taskId) writers [] state) :
    ∃ final, osClose me (some pipes.metadata.1) state = (.ok (), final) ∧
      Running me pipes [pipes.data.1] (some taskId) writers [] final := by
  obtain ⟨final, closes, after, same⟩ := osClose_owns running.owns pipes.metadata.1 (by simp)
  have differs : pipes.data.1 ≠ pipes.metadata.1 := by
    intro same
    have distinct := running.distinct
    simp [same] at distinct
  refine ⟨final, closes, ?_⟩
  constructor
  · simpa [List.erase_cons, differs] using after
  · exact running.distinct
  all_goals rw [same]
  · exact running.piped
  · exact running.dataRead
  · exact running.metadataRead
  · exact running.inputWrite
  · exact running.sources
  · exact running.taskId
  · exact running.writers
  · exact running.cancelled

/-- What the body of `communicate` ends with, the failing step given. -/
def CallAnswers.bodyEnds (answers : CallAnswers) : Option CallStep → Except Raised Unit
  | none => .ok ()
  | some step => .error (answers.raised step)

theorem results_end
    (running : Running me pipes [pipes.data.1, pipes.metadata.1] (some taskId) pipes.writing []
      state)
    (answers : CallAnswers) : ∃ final,
    (readMetadata me answers >>= fun _ => waitForRead me answers .dataWait answers.dataWait) state =
      (answers.bodyEnds (resultSteps.find? answers.fails), final) ∧
      ∀ step, resultSteps.find? answers.fails = some step →
        ∃ local', (local' = [pipes.data.1, pipes.metadata.1] ∨ local' = [pipes.data.1]) ∧
          Running me pipes local' (some taskId) pipes.writing
            (if answers.cancelSent step then [taskId] else []) final := by
  by_cases metadata : answers.metadataWait = .ready
  · cases reads : answers.metadataReadFails with
    | true =>
      refine ⟨state, ?_, ?_⟩
      · simp [readMetadata, waitForRead, metadata, reads, bind_apply, resultSteps, CallAnswers.fails,
          CallAnswers.bodyEnds, CallAnswers.raised]
      · intro step failing
        simp only [resultSteps, List.find?_cons, CallAnswers.fails, metadata, reads] at failing
        cases failing
        exact ⟨_, .inl rfl, running⟩
    | false =>
    obtain ⟨middle, closes, closed⟩ := running.closesMetadata
    cases parses : answers.metadataParseFails with
    | true =>
      refine ⟨middle, ?_, ?_⟩
      · simp [readMetadata, waitForRead, metadata, reads, running.metadataRead, closes, parses,
          bind_apply, resultSteps, CallAnswers.fails, CallAnswers.bodyEnds, CallAnswers.raised]
      · intro step failing
        simp only [resultSteps, List.find?_cons, CallAnswers.fails, metadata, reads, parses]
          at failing
        cases failing
        exact ⟨_, .inr rfl, closed⟩
    | false =>
    by_cases data : answers.dataWait = .ready
    · refine ⟨middle, ?_, ?_⟩
      · simp [readMetadata, waitForRead, metadata, reads, running.metadataRead, closes, parses, data,
          bind_apply, resultSteps, CallAnswers.fails, CallAnswers.bodyEnds]
      · intro step failing
        simp [resultSteps, CallAnswers.fails, metadata, reads, parses, data] at failing
    · obtain ⟨final, ends, after⟩ := closed.waits answers .dataWait data
      have last : resultSteps.find? answers.fails = some .dataWait := by
        simp [resultSteps, CallAnswers.fails, metadata, reads, parses, data]
      rw [last]
      refine ⟨final, ?_, ?_⟩
      · have reaches : waitForRead me answers .metadataWait answers.metadataWait = pure () := by
          rw [metadata, waitForRead]
        simp [readMetadata, reaches, reads, running.metadataRead, closes, parses, bind_apply, ends,
          CallAnswers.bodyEnds, CallAnswers.raised]
      · intro step failing
        cases failing
        exact ⟨_, .inr rfl, after⟩
  · obtain ⟨final, ends, after⟩ := running.waits answers .metadataWait metadata
    have first : resultSteps.find? answers.fails = some .metadataWait := by
      simp [resultSteps, CallAnswers.fails, metadata]
    rw [first]
    refine ⟨final, ?_, ?_⟩
    · simp [readMetadata, bind_apply, ends, CallAnswers.bodyEnds, CallAnswers.raised]
    · intro step failing
      cases failing
      exact ⟨_, .inl rfl, after⟩

/-! ## The whole call -/

/-- The state in which the clean-up of `communicate` starts. -/
inductive Failed (me : Owner) (answers : CallAnswers) (hasFd : Bool) (extra : Nat) :
    CallStep → CallState → Prop
  | invoking (step : CallStep) (state : CallState)
      (invoked : Invoked me answers hasFd extra (some step) state) :
      Failed me answers hasFd extra step state
  | handingOver (step : CallStep) (pipes : Pipes) (taskId : Text) (handed rest : List Nat)
      (state : CallState) (listed : step ∈ handOverSteps (writerNames hasFd extra))
      (split : pipes.writing = handed ++ rest) (left : rest ≠ [])
      (running : Running me pipes [pipes.data.1, pipes.metadata.1] (some taskId) handed [] state) :
      Failed me answers hasFd extra step state
  | reading (step : CallStep) (pipes : Pipes) (local' : List Nat) (taskId : Text)
      (state : CallState) (listed : step ∈ resultSteps) (fails : answers.fails step)
      (open' : local' = [pipes.data.1, pipes.metadata.1] ∨ local' = [pipes.data.1])
      (running : Running me pipes local' (some taskId) pipes.writing
        (if answers.cancelSent step then [taskId] else []) state) :
      Failed me answers hasFd extra step state

theorem Running.handsOver
    (running : Running me pipes [pipes.data.1, pipes.metadata.1] (some taskId) [] [] state)
    (handed : List Nat) :
    Running me pipes [pipes.data.1, pipes.metadata.1] (some taskId) handed []
      { state with protocol.writers := state.protocol.writers ++ handed } := by
  constructor
  · exact running.owns.of_piped rfl rfl
  · exact running.distinct
  · exact running.piped
  · exact running.dataRead
  · exact running.metadataRead
  · exact running.inputWrite
  · exact running.sources
  · exact running.taskId
  · simp [running.writers]
  · exact running.cancelled

theorem body_ends (me : Owner) (answers : CallAnswers) (table : Table Owner) (hasFd : Bool)
    (extra : Nat) : ∃ final,
    communicateBody me answers (Protocol.start table hasFd extra) =
      (answers.bodyEnds (answers.failingStep hasFd extra), final) ∧
      ∀ step, answers.failingStep hasFd extra = some step →
        Failed me answers hasFd extra step final := by
  obtain ⟨invoked, invokes, shape⟩ := invoke_ends me answers table hasFd extra
  cases invoking : (invokeSteps hasFd extra).find? answers.fails with
  | some step =>
    have failing : answers.failingStep hasFd extra = some step := by
      simp [CallAnswers.failingStep, callSteps, invoking]
    rw [invoking] at shape invokes
    refine ⟨invoked, ?_, ?_⟩
    · rw [failing, communicateBody, bind_apply, invokes]
      cases shape <;> rfl
    · intro other same
      rw [failing] at same
      cases same
      exact .invoking step invoked shape
  | none =>
  rw [invoking] at shape invokes
  cases shape with
  | task pipes taskId _ fits acknowledged running =>
  have names := writeFds_names fits running.inputWrite running.sources
  have fds := writeFds_fds running.inputWrite running.sources
  obtain ⟨handed, rest, split, complete, hands⟩ :=
    handOver_ends answers invoked invoked.protocol.writeFds
  have handedOver := running.handsOver handed
  rw [names] at complete hands
  rw [fds] at split
  cases handing : (handOverSteps (writerNames hasFd extra)).find? answers.fails with
  | some step =>
    have failing : answers.failingStep hasFd extra = some step := by
      simp [CallAnswers.failingStep, callSteps, invoking, handing]
    have listed := List.mem_of_find?_eq_some handing
    rw [handing] at complete hands
    refine ⟨{ invoked with protocol.writers := invoked.protocol.writers ++ handed }, ?_, ?_⟩
    · have named : answers.raised step = .step step := by
        simp only [handOverSteps, List.mem_flatMap, List.mem_cons, List.not_mem_nil, or_false]
          at listed
        obtain ⟨name, _, either⟩ := listed
        rcases either with rfl | rfl <;> rfl
      simp [communicateBody, bind_apply, invokes, ended, hands, failing, CallAnswers.bodyEnds, named]
    · intro other same
      rw [failing] at same
      cases same
      exact .handingOver step pipes taskId handed rest _ listed split (by simpa using complete)
        handedOver
  | none =>
  have nothingLeft : rest = [] := complete.mp handing
  rw [nothingLeft, List.append_nil] at split
  rw [← split] at handedOver
  rw [handing, ← split] at hands
  obtain ⟨final, ends, after⟩ := results_end handedOver answers
  have failing : answers.failingStep hasFd extra = resultSteps.find? answers.fails := by
    simp [CallAnswers.failingStep, callSteps, invoking, handing]
  rw [failing]
  refine ⟨final, ?_, ?_⟩
  · rw [← ends]
    simp [communicateBody, bind_apply, invokes, ended, hands]
  · intro step found
    obtain ⟨local', open', running⟩ := after step found
    exact .reading step pipes local' taskId final (List.mem_of_find?_eq_some found)
      (List.find?_some found) open' running

/-! ## The clean-up -/

theorem osClose_none : osClose me none state = (.error .typeError, state) := rfl

theorem closeLocal_typeError (me : Owner) (absent : state.protocol.dataReadFd = none) :
    closeLocalSideDescriptors me state = (.error .typeError, state) := by
  simp [closeLocalSideDescriptors, bind_apply, absent, safeClose, forEach, handling, osClose_none,
    ignoringEbadf]

theorem closeLocal_owns {held : List Nat} (owns : Owns me held state) {data metadata : Nat}
    (dataRead : state.protocol.dataReadFd = some data)
    (metadataRead : state.protocol.metadataReadFd = some metadata)
    (listed : data ∈ state.protocol.piped) (also : metadata ∈ state.protocol.piped) : ∃ final,
    closeLocalSideDescriptors me state = (.ok (), final) ∧
      Owns me ((held.erase data).erase metadata) final ∧ final.protocol = state.protocol := by
  obtain ⟨final, closes, after, same⟩ := safeClose_owns owns listed also
  refine ⟨final, ?_, after, same⟩
  simp [closeLocalSideDescriptors, bind_apply, dataRead, metadataRead, closes]

theorem Pipes.local_issued (pipes : Pipes) :
    pipes.data.1 ∈ pipes.issued ∧ pipes.metadata.1 ∈ pipes.issued := by
  simp [Pipes.issued, ends]

theorem Pipes.writing_issued (pipes : Pipes) {fd : Nat} (listed : fd ∈ pipes.writing) :
    fd ∈ pipes.issued := by
  rw [pipes.issued_perm.mem_iff]
  exact List.mem_append_right _ listed

theorem Running.closesLocal {local' writers : List Nat} {task : Option Text} {cancelled : List Text}
    (running : Running me pipes local' task writers cancelled state)
    (open' : local' = [pipes.data.1, pipes.metadata.1] ∨ local' = [pipes.data.1]) : ∃ final,
    closeLocalSideDescriptors me state = (.ok (), final) ∧ Owns me pipes.writing final ∧
      final.protocol = state.protocol := by
  obtain ⟨dataIssued, metadataIssued⟩ := pipes.local_issued
  obtain ⟨final, closes, after, same⟩ := closeLocal_owns running.owns running.dataRead
    running.metadataRead (running.piped _ dataIssued) (running.piped _ metadataIssued)
  refine ⟨final, closes, ?_, same⟩
  have distinct := running.distinct
  rcases open' with rfl | rfl
  · simpa using after
  · have fresh : pipes.metadata.1 ∉ pipes.writing := by
      simp only [List.cons_append, List.nil_append, List.nodup_cons] at distinct
      exact distinct.2.1
    simpa [List.erase_of_not_mem fresh] using after

end Stages

end Storlets
