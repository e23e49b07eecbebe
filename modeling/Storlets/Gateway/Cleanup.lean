import Storlets.Gateway.FailedCall

set_option autoImplicit false

/-!
# A failed invocation cleans up after itself, or not

Which step fails decides whether descriptors leak, and whether the task is left running.
-/

namespace Storlets

open PyStr Effect Descriptors

variable {me : Owner} {answers : CallAnswers} {table : Table Owner} {hasFd : Bool} {extra : Nat}

theorem communicate_returns (me : Owner) (table : Table Owner)
    (fails : answers.failingStep hasFd extra = none) : ∃ final,
    communicate me answers (Protocol.start table hasFd extra) = (.ok (), final) := by
  obtain ⟨final, ends, _⟩ := body_ends me answers table hasFd extra
  refine ⟨final, ?_⟩
  simp [communicate, handling, ends, fails, CallAnswers.bodyEnds]

theorem communicate_fails (me : Owner) (table : Table Owner) {step : CallStep}
    (fails : answers.failingStep hasFd extra = some step) : ∃ middle,
    Failed me answers hasFd extra step middle ∧
      communicate me answers (Protocol.start table hasFd extra) =
        (closeLocalSideDescriptors me >>= fun _ => throw (answers.raised step)) middle := by
  obtain ⟨middle, ends, failed⟩ := body_ends me answers table hasFd extra
  refine ⟨middle, failed step fails, ?_⟩
  simp [communicate, handling, ends, fails, CallAnswers.bodyEnds]

/-! ## Descriptors -/

/-- What `os.pipe` has returned is closed, unless it was handed to a `_write_input_data`. -/
def CallState.NothingLeaks (state : CallState) : Prop :=
  ∀ fd ∈ state.protocol.piped, state.table.get? fd = none ∨ fd ∈ state.protocol.writers

theorem Owns.nothingLeaks_iff {held : List Nat} {state : CallState} (owns : Owns me held state) :
    state.NothingLeaks ↔
      ∀ fd ∈ held, fd ∈ state.protocol.piped → fd ∈ state.protocol.writers := by
  constructor
  · intro nothing fd inside piped
    rcases nothing fd piped with closed | handed
    · rw [owns.owned fd inside] at closed
      cases closed
    · exact handed
  · intro handed fd piped
    by_cases inside : fd ∈ held
    · exact .inr (handed fd inside piped)
    · exact .inl (owns.gone fd piped inside)

/-- Whenever `communicate` raises, nothing leaks and the exception is that of the step that
failed. -/
def FailsClean (me : Owner) (answers : CallAnswers) (table : Table Owner) (hasFd : Bool)
    (extra : Nat) : Prop :=
  ∀ raised final,
    communicate me answers (Protocol.start table hasFd extra) = (.error raised, final) →
      some raised = (answers.failingStep hasFd extra).map .step ∧ final.NothingLeaks

/-- The steps after whose failure nothing is left open. -/
def CallAnswers.CleansUp (answers : CallAnswers) (hasFd : Bool) (extra : Nat) :
    Option CallStep → Prop
  | none | some .metadataRead | some .metadataParse => True
  -- the write ends are left to green threads that were never spawned
  | some .execute => hasFd = true ∧ extra = 0
  | some .metadataWait => answers.metadataWait = .timesOut → answers.cancel.ending ≠ .raises
  | some .dataWait => answers.dataWait = .timesOut → answers.cancel.ending ≠ .raises
  | _ => False

theorem failsClean_of_raises {step : CallStep} (fails : answers.failingStep hasFd extra = some step)
    {raised : Raised} {final : CallState}
    (raises : communicate me answers (Protocol.start table hasFd extra) = (.error raised, final)) :
    FailsClean me answers table hasFd extra ↔ raised = .step step ∧ final.NothingLeaks := by
  simp [FailsClean, raises, fails]

theorem Pipes.writing_eq_nil {pipes : Pipes} (fits : pipes.Fits hasFd extra) :
    pipes.writing = [] ↔ hasFd = true ∧ extra = 0 := by
  rw [← fits.sources]
  have given := fits.input
  cases hasFd <;> cases h : pipes.input <;> simp_all [Pipes.writing]

theorem raised_iff {step : CallStep} (listed : step ∈ resultSteps) :
    answers.raised step = .step step ↔ answers.CleansUp hasFd extra (some step) := by
  simp only [resultSteps, List.mem_cons, List.not_mem_nil, or_false] at listed
  rcases listed with rfl | rfl | rfl | rfl <;>
    simp [CallAnswers.raised, CallAnswers.waitRaises, CallAnswers.CleansUp]

/-- A pipe is missing: `os.close(None)` raises, or a write end of the container stays open. -/
theorem noPipe_unclean {name : PipeName} {opened : List Nat} {loggerFd : Nat} {middle : CallState}
    (owns : Owns me opened middle)
    (made : PipesMade hasFd extra loggerFd (some (.pipe name)) opened middle.protocol)
    (raised : Raised) : ∃ escaped final,
    (closeLocalSideDescriptors me >>= fun _ => throw raised) middle =
      ((.error escaped : Except Raised Unit), final) ∧
      (escaped = .typeError ∨ ¬ final.NothingLeaks) := by
  generalize shown : middle.protocol = protocol at made
  cases made with
  | noData _ _ _ taskId absent =>
    have closes := closeLocal_typeError me (shown ▸ absent)
    exact ⟨.typeError, middle, by rw [bind_apply, closes], .inl rfl⟩
  | noMetadata _ _ _ fd taskId data listed absent =>
    obtain ⟨final, closes, _, _⟩ := osClose_owns owns fd listed
    refine ⟨.typeError, final, ?_, .inl rfl⟩
    simp [closeLocalSideDescriptors, bind_apply, shown, data, absent, safeClose, forEach, handling,
      closes, osClose_none, ignoringEbadf]
  | noSource _ pipes =>
    obtain ⟨dataIssued, metadataIssued⟩ := pipes.local_issued
    have dataRead : middle.protocol.dataReadFd = some pipes.data.1 := by rw [shown]; rfl
    have metadataRead : middle.protocol.metadataReadFd = some pipes.metadata.1 := by rw [shown]; rfl
    have piped : middle.protocol.piped = pipes.issued := by rw [shown]; rfl
    obtain ⟨final, closes, after, same⟩ := closeLocal_owns owns dataRead metadataRead
      (piped ▸ dataIssued) (piped ▸ metadataIssued)
    refine ⟨raised, final, by rw [bind_apply, closes]; rfl, .inr ?_⟩
    rw [after.nothingLeaks_iff]
    intro handed
    have distinct := owns.distinct
    have issued : pipes.data.2 ∈ pipes.issued := by simp [Pipes.issued, ends]
    have differs : pipes.data.2 ≠ pipes.data.1 ∧ pipes.data.2 ≠ pipes.metadata.1 := by
      rw [pipes.issued_perm.nodup_iff, List.append_assoc] at distinct
      have apart := List.disjoint_of_nodup_append distinct
      have remote : pipes.data.2 ∈ pipes.remote := by simp [Pipes.remote]
      constructor <;> intro same <;> exact apart remote (by simp [same])
    have left : pipes.data.2 ∈ (pipes.issued.erase pipes.data.1).erase pipes.metadata.1 := by
      rw [(distinct.erase _).mem_erase_iff, distinct.mem_erase_iff]
      exact ⟨differs.2, differs.1, issued⟩
    have writers := handed _ left (by rw [same, shown]; exact issued)
    rw [same, shown] at writers
    cases writers

theorem failed_clean_iff {step : CallStep} {middle : CallState}
    (failed : Failed me answers hasFd extra step middle) : ∃ escaped final,
    (closeLocalSideDescriptors me >>= fun _ => throw (answers.raised step)) middle =
      ((.error escaped : Except Raised Unit), final) ∧
      (escaped = .step step ∧ final.NothingLeaks ↔ answers.CleansUp hasFd extra (some step)) := by
  cases failed with
  | invoking _ invoked =>
    cases invoked with
    | noLogger _ taskId absent =>
      have closes := closeLocal_typeError me absent
      exact ⟨.typeError, middle, by rw [bind_apply, closes], by simp [CallAnswers.CleansUp]⟩
    | noPipe name opened loggerFd _ owns made =>
      obtain ⟨escaped, final, ends, unclean⟩ := noPipe_unclean owns made (answers.raised (.pipe name))
      refine ⟨escaped, final, ends, ?_⟩
      simp only [CallAnswers.CleansUp, iff_false, not_and]
      rintro rfl
      simpa using unclean
    | noTask pipes _ fits running =>
      obtain ⟨final, closes, after, same⟩ := running.closesLocal (.inl rfl)
      refine ⟨.step .execute, final, by rw [bind_apply, closes]; rfl, ?_⟩
      rw [CallAnswers.CleansUp, ← Pipes.writing_eq_nil fits, after.nothingLeaks_iff, same,
        running.writers]
      constructor
      · intro ⟨_, handed⟩
        apply List.eq_nil_iff_forall_not_mem.mpr
        intro fd inside
        exact List.not_mem_nil (handed fd inside (running.piped fd (pipes.writing_issued inside)))
      · intro nothing
        simp [nothing]
  | handingOver pipes taskId handed rest _ listed split left running =>
    obtain ⟨final, closes, after, same⟩ := running.closesLocal (.inl rfl)
    refine ⟨answers.raised step, final, by rw [bind_apply, closes]; rfl, ?_⟩
    have unclean : ¬ answers.CleansUp hasFd extra (some step) := by
      simp only [handOverSteps, List.mem_flatMap, List.mem_cons, List.not_mem_nil, or_false]
        at listed
      obtain ⟨name, _, either⟩ := listed
      rcases either with rfl | rfl <;> simp [CallAnswers.CleansUp]
    simp only [unclean, iff_false, not_and, after.nothingLeaks_iff, same, running.writers]
    intro _ writers
    -- the first write end that is not handed over
    obtain ⟨fd, inside⟩ := List.exists_mem_of_ne_nil rest left
    have listed : fd ∈ pipes.writing := by simp [split, inside]
    have distinct : (handed ++ rest).Nodup := split ▸ after.distinct
    have written := writers fd listed (running.piped fd (pipes.writing_issued listed))
    exact List.disjoint_of_nodup_append distinct written inside
  | reading pipes local' taskId _ listed _ open' running =>
    obtain ⟨final, closes, after, same⟩ := running.closesLocal open'
    refine ⟨answers.raised step, final, by rw [bind_apply, closes]; rfl, ?_⟩
    have nothing : final.NothingLeaks := by
      rw [after.nothingLeaks_iff, same, running.writers]
      exact fun fd inside _ => inside
    simp only [nothing, and_true]
    exact raised_iff listed

/-- A failed invocation leaks no descriptor and raises its own exception exactly after the steps of
`CleansUp`. -/
theorem fails_clean_iff (me : Owner) (answers : CallAnswers) (table : Table Owner) (hasFd : Bool)
    (extra : Nat) :
    FailsClean me answers table hasFd extra ↔
      answers.CleansUp hasFd extra (answers.failingStep hasFd extra) := by
  cases fails : answers.failingStep hasFd extra with
  | none =>
    obtain ⟨final, returns⟩ := communicate_returns me table fails
    simp [FailsClean, returns, CallAnswers.CleansUp]
  | some step =>
    obtain ⟨middle, failed, runs⟩ := communicate_fails me table fails
    obtain ⟨escaped, final, ends, clean⟩ := failed_clean_iff failed
    rw [failsClean_of_raises fails (runs.trans ends), clean]

instance (state : CallState) : Decidable state.NothingLeaks :=
  inferInstanceAs (Decidable (∀ fd ∈ state.protocol.piped, _))

/-- The write end that was waited for stays open. -/
theorem stuck_input_leaks :
    ¬ FailsClean (.call 0) { smoothAnswers with writeWait := fun _ => .timesOut } .empty false 0 := by
  intro clean
  obtain ⟨_, nothing⟩ := clean (.step (.writeWait .input)) _ rfl
  revert nothing
  decide

/-! ## The task -/

/-- Whenever `communicate` raises and has a task id, a CANCEL for this id was sent. -/
def LeavesNoTask (me : Owner) (answers : CallAnswers) (table : Table Owner) (hasFd : Bool)
    (extra : Nat) : Prop :=
  ∀ raised final taskId,
    communicate me answers (Protocol.start table hasFd extra) = (.error raised, final) →
      final.protocol.taskId = some taskId → final.protocol.cancelled = [taskId]

/-- The steps after whose failure the task, if there is one, gets a CANCEL. -/
def CallAnswers.CancelsTask (answers : CallAnswers) : Option CallStep → Prop
  | none | some .logger | some (.pipe _) | some .execute => True
  | some .metadataWait => answers.metadataWait = .timesOut ∧ answers.cancel.sent = true
  | some .dataWait => answers.dataWait = .timesOut ∧ answers.cancel.sent = true
  | _ => False

/-- Closing descriptors leaves the object as it is. -/
def SameObject (first last : CallState) : Prop := last.protocol = first.protocol

instance : IsTrans CallState SameObject := ⟨fun _ _ _ same still => still.trans same⟩

instance : Std.Refl SameObject := ⟨fun _ => rfl⟩

theorem osClose_sameObject (fd : Option Nat) : Moves SameObject (osClose me fd) := by
  cases fd with
  | none => exact Moves.throw _
  | some fd =>
    refine Moves.bind (Moves.look _) fun owner => ?_
    cases owner with
    | none => exact Moves.throw _
    | some owner => exact Moves.change fun _ => rfl

theorem closeLocal_sameObject : Moves SameObject (closeLocalSideDescriptors me) := by
  refine Moves.bind (Moves.look _) fun protocol => ?_
  refine Moves.forEach (fun _ fd _ => ?_) _
  refine Moves.handling (osClose_sameObject fd) fun raised => ?_
  cases raised with
  | ebadf => exact Moves.pure _
  | _ => exact Moves.throw _

theorem failed_task_iff {step : CallStep} {middle : CallState}
    (failed : Failed me answers hasFd extra step middle) :
    (∀ taskId, middle.protocol.taskId = some taskId → middle.protocol.cancelled = [taskId]) ↔
      answers.CancelsTask (some step) := by
  cases failed with
  | invoking _ invoked =>
    cases invoked with
    | noLogger _ taskId _ => simp [taskId, CallAnswers.CancelsTask]
    | noPipe name _ _ _ _ made =>
      generalize middle.protocol = protocol at made
      cases made with
      | noData _ _ _ taskId _ => simp [taskId, CallAnswers.CancelsTask]
      | noMetadata _ _ _ _ taskId _ _ _ => simp [taskId, CallAnswers.CancelsTask]
      | noSource _ pipes => simp [Pipes.protocol, CallAnswers.CancelsTask]
    | noTask _ _ _ running => simp [running.taskId, CallAnswers.CancelsTask]
  | handingOver _ taskId _ _ _ listed _ _ running =>
    simp only [handOverSteps, List.mem_flatMap, List.mem_cons, List.not_mem_nil, or_false] at listed
    obtain ⟨name, _, either⟩ := listed
    rcases either with rfl | rfl <;>
      simp [running.taskId, running.cancelled, CallAnswers.CancelsTask]
  | reading _ _ taskId _ listed _ _ running =>
    simp only [resultSteps, List.mem_cons, List.not_mem_nil, or_false] at listed
    rw [running.taskId, running.cancelled]
    rcases listed with rfl | rfl | rfl | rfl <;>
      simp [CallAnswers.cancelSent, CallAnswers.cancels, CallAnswers.CancelsTask]

/-- No task is left running exactly after the steps of `CancelsTask`. -/
theorem leaves_no_task_iff (me : Owner) (answers : CallAnswers) (table : Table Owner) (hasFd : Bool)
    (extra : Nat) :
    LeavesNoTask me answers table hasFd extra ↔
      answers.CancelsTask (answers.failingStep hasFd extra) := by
  cases fails : answers.failingStep hasFd extra with
  | none =>
    obtain ⟨final, returns⟩ := communicate_returns me table fails
    simp [LeavesNoTask, returns, CallAnswers.CancelsTask]
  | some step =>
    obtain ⟨middle, failed, runs⟩ := communicate_fails me table fails
    obtain ⟨escaped, final, ends, _⟩ := failed_clean_iff failed
    have same : final.protocol = middle.protocol := by
      have throws : Moves SameObject (throw (answers.raised step) : CallAction Unit) := Moves.throw _
      have closes : Moves SameObject (closeLocalSideDescriptors me) := closeLocal_sameObject
      have moved := closes.bind (fun _ => throws) middle
      rwa [ends] at moved
    rw [← failed_task_iff failed, ← same]
    simp only [LeavesNoTask, runs.trans ends, Prod.mk.injEq, Except.error.injEq]
    constructor
    · intro cancels taskId
      exact cancels escaped final taskId ⟨rfl, rfl⟩
    · rintro cancels _ _ taskId ⟨rfl, rfl⟩
      exact cancels taskId

/-- The metadata is no JSON: the storlet goes on with nobody to read its output. -/
theorem bad_metadata_leaves_task :
    ¬ LeavesNoTask (.call 0) { smoothAnswers with metadataParseFails := true } .empty true 0 := by
  intro cancels
  have sent := cancels (.step .metadataParse) _ ['t'] rfl rfl
  revert sent
  decide

end Storlets
