import Storlets.Gateway.Protocol

set_option autoImplicit false

/-!
# The descriptors an invocation holds

An invocation owns what it holds, and of what `os.pipe` has returned to it the rest is closed.
-/

namespace Storlets

open PyStr Effect Descriptors

structure Owns (me : Owner) (held : List Nat) (state : CallState) : Prop where
  distinct : held.Nodup
  owned : ∀ fd ∈ held, state.table.get? fd = some me
  gone : ∀ fd ∈ state.protocol.piped, fd ∉ held → state.table.get? fd = none

section Holding

variable {me : Owner} {held : List Nat} {state : CallState}

theorem Owns.perm {other : List Nat} (owns : Owns me held state) (perm : held.Perm other) :
    Owns me other state := by
  constructor
  · exact perm.nodup_iff.mp owns.distinct
  · intro fd inside
    exact owns.owned fd (perm.mem_iff.mpr inside)
  · intro fd listed outside
    exact owns.gone fd listed fun inside => outside (perm.mem_iff.mp inside)

theorem Owns.of_piped {final : CallState} (owns : Owns me held state)
    (table : final.table = state.table) (piped : final.protocol.piped = state.protocol.piped) :
    Owns me held final := by
  constructor
  · exact owns.distinct
  · rw [table]
    exact owns.owned
  · rw [table, piped]
    exact owns.gone

theorem osOpen_owns (owns : Owns me held state) : ∃ fd final,
    osOpen me state = (.ok fd, final) ∧ Owns me (fd :: held) final ∧
      final.protocol = state.protocol := by
  refine ⟨_, _, rfl, ?_, rfl⟩
  constructor
  · apply List.nodup_cons.mpr
    constructor
    · intro inside
      have taken := owns.owned _ inside
      exact absurd (lowestFree_fresh state.table ▸ taken) (by simp)
    · exact owns.distinct
  · intro fd inside
    change (install me state.table).2.get? fd = some me
    rw [get?_install]
    split
    · rfl
    · next differs =>
      rcases List.mem_cons.mp inside with new | old
      · exact absurd new differs
      · exact owns.owned fd old
  · intro fd listed outside
    change (install me state.table).2.get? fd = none
    rw [List.mem_cons, not_or] at outside
    rw [get?_install, if_neg outside.1]
    exact owns.gone fd listed outside.2

theorem osPipe_owns (owns : Owns me held state) : ∃ readFd writeFd final,
    osPipe me state = (.ok (readFd, writeFd), final) ∧ Owns me (readFd :: writeFd :: held) final ∧
      final.protocol =
        { state.protocol with piped := state.protocol.piped ++ [readFd, writeFd] } := by
  obtain ⟨readFd, middle, opens, first, same⟩ := osOpen_owns owns
  obtain ⟨writeFd, final, again, second, still⟩ := osOpen_owns first
  refine ⟨readFd, writeFd,
    { final with protocol.piped := final.protocol.piped ++ [readFd, writeFd] }, ?_, ?_, ?_⟩
  · simp [osPipe, bind_apply, opens, again]
  · have swapped := second.perm (List.Perm.swap readFd writeFd held)
    constructor
    · exact swapped.distinct
    · exact swapped.owned
    · intro fd listed outside
      rcases List.mem_append.mp listed with old | new
      · exact swapped.gone fd old outside
      · simp only [List.mem_cons, List.not_mem_nil, or_false] at new
        rcases new with rfl | rfl <;> simp at outside
  · rw [still, same]

/-- A descriptor that is held is closed; one that is not held has been closed before. -/
theorem osClose_owns (owns : Owns me held state) (fd : Nat) (inside : fd ∈ held) :
    ∃ final, osClose me (some fd) state = (.ok (), final) ∧ Owns me (held.erase fd) final ∧
      final.protocol = state.protocol := by
  have owned := owns.owned fd inside
  refine ⟨{ state with table := state.table.pop fd }, ?_, ?_, rfl⟩
  · simp [osClose, bind_apply, owned]
  · constructor
    · exact owns.distinct.erase fd
    · intro other listed
      obtain ⟨differs, old⟩ := owns.distinct.mem_erase_iff.mp listed
      change (state.table.pop fd).get? other = some me
      rw [PyDict.get?_pop, if_neg differs]
      exact owns.owned other old
    · intro other piped outside
      change (state.table.pop fd).get? other = none
      rw [PyDict.get?_pop]
      split
      · rfl
      · next differs =>
        apply owns.gone other piped
        intro old
        exact outside (owns.distinct.mem_erase_iff.mpr ⟨differs, old⟩)

theorem closeAll_owns {fds rest : List Nat} (owns : Owns me (fds ++ rest) state) :
    ∃ final, closeAll me (fds.map some) state = (.ok (), final) ∧ Owns me rest final ∧
      final.protocol = state.protocol := by
  induction fds generalizing state with
  | nil => exact ⟨state, rfl, owns, rfl⟩
  | cons fd fds ih =>
    obtain ⟨middle, closes, first, same⟩ := osClose_owns owns fd (by simp)
    rw [List.cons_append, List.erase_cons_head] at first
    obtain ⟨final, rests, second, still⟩ := ih first
    refine ⟨final, ?_, second, still.trans same⟩
    simp only [closeAll] at rests
    simp [closeAll, forEach, bind_apply, closes, rests]

/-- `_safe_close` does not mind that a descriptor has been closed before. -/
theorem safeClose_owns (owns : Owns me held state) {first second : Nat}
    (listed : first ∈ state.protocol.piped) (also : second ∈ state.protocol.piped) :
    ∃ final, safeClose me [some first, some second] state = (.ok (), final) ∧
      Owns me ((held.erase first).erase second) final ∧ final.protocol = state.protocol := by
  have closes {held : List Nat} {state : CallState} (owns : Owns me held state) {fd : Nat}
      (piped : fd ∈ state.protocol.piped) : 
      ∃ final, (osClose me (some fd)).handling ignoringEbadf state = (.ok (), final) ∧
        Owns me (held.erase fd) final ∧ final.protocol = state.protocol := by
    by_cases inside : fd ∈ held
    · obtain ⟨final, closes, after, same⟩ := osClose_owns owns fd inside
      exact ⟨final, by simp [handling, closes], after, same⟩
    · have gone := owns.gone fd piped inside
      refine ⟨state, by simp [handling, osClose, bind_apply, gone, ignoringEbadf], ?_, rfl⟩
      rwa [List.erase_of_not_mem inside]
  obtain ⟨middle, here, after, same⟩ := closes owns listed
  obtain ⟨final, later, last, still⟩ := closes after (same ▸ also)
  refine ⟨final, ?_, last, still.trans same⟩
  simp [safeClose, forEach, bind_apply, here, later]

/-! ## Requests -/

theorem startRequest_owns (owns : Owns me held state) : ∃ readFd more final,
    startRequest me state = (.ok readFd, final) ∧ Owns me (readFd :: held) final ∧
      final.protocol = { state.protocol with piped := state.protocol.piped ++ more } := by
  obtain ⟨readFd, writeFd, middle, opens, first, same⟩ := osPipe_owns owns
  obtain ⟨final, closes, second, still⟩ := osClose_owns first writeFd (by simp)
  refine ⟨readFd, [readFd, writeFd], final, ?_, ?_, ?_⟩
  · simp [startRequest, bind_apply, opens, closes]
  · have differs : readFd ≠ writeFd := by
      intro same
      have distinct := first.distinct
      simp [same] at distinct
    simpa [List.erase_cons, differs] using second
  · rw [still, same]

/-- A request closes the pipe it has made. -/
theorem request_owns (owns : Owns me held state) (answer : RequestAnswer) : ∃ more final,
    request me answer state = (.ok answer.ending, final) ∧ Owns me held final ∧
      final.protocol = { state.protocol with piped := state.protocol.piped ++ more } := by
  obtain ⟨readFd, more, middle, starts, first, same⟩ := startRequest_owns owns
  obtain ⟨final, closes, second, still⟩ := osClose_owns first readFd (by simp)
  rw [List.erase_cons_head] at second
  have made : ((startRequest me >>= fun readFd => osClose me (some readFd) >>= fun _ =>
      pure answer.ending) : CallAction RequestEnding) state = (.ok answer.ending, final) := by
    simp [bind_apply, starts, closes]
  cases answer with
  | pipeFails => exact ⟨[], state, rfl, owns, by simp⟩
  | _ => exact ⟨more, final, made, second, still.trans same⟩

/-- A wait that fails ends with its own exception, unless the CANCEL raises one of another class. -/
def CallAnswers.waitRaises (answers : CallAnswers) (step : CallStep) (wait : Wait) : Raised :=
  if wait = .timesOut ∧ answers.cancel.ending = .raises then .cancel else .step step

def CallAnswers.cancels (answers : CallAnswers) (wait : Wait) : Bool :=
  wait = .timesOut && answers.cancel.sent

theorem cancel_owns (owns : Owns me held state) (answer : RequestAnswer) {taskId : Text}
    (acknowledged : state.protocol.taskId = some taskId) : ∃ more ending final,
    cancel me answer state = (ending, final) ∧ Owns me held final ∧
      final.protocol =
        { state.protocol with
          piped := state.protocol.piped ++ more
          cancelled := state.protocol.cancelled ++ if answer.sent then [taskId] else [] } ∧
      if answer.ending = .raises then ending = .error .cancel else ∃ failed, ending = .ok failed := by
  obtain ⟨more, middle, ends, after, same⟩ := request_owns owns answer
  refine ⟨more, match answer.ending with
      | .replied status _ => .ok !status
      | .clientException => .ok true
      | .raises => .error .cancel,
    { middle with
      protocol.cancelled := middle.protocol.cancelled ++ if answer.sent then [taskId] else [] },
    ?_, after.of_piped rfl rfl, ?_, ?_⟩
  · cases sent : answer.sent <;> rcases ending : answer.ending with ⟨_ | _, _⟩ | _ | _ <;>
      simp [cancel, bind_apply, acknowledged, ends, Effect.when, sent, ending]
  · rw [same]
  · rcases answer.ending with ⟨status, _⟩ | _ | _ <;> simp

theorem waitForRead_fails (owns : Owns me held state) (answers : CallAnswers) (step : CallStep)
    {wait : Wait} (fails : wait ≠ .ready) {taskId : Text}
    (acknowledged : state.protocol.taskId = some taskId) : ∃ more final,
    waitForRead me answers step wait state = (.error (answers.waitRaises step wait), final) ∧
      Owns me held final ∧
      final.protocol =
        { state.protocol with
          piped := state.protocol.piped ++ more
          cancelled := state.protocol.cancelled ++
            if answers.cancels wait then [taskId] else [] } := by
  cases wait with
  | ready => exact absurd rfl fails
  | notReady => exact ⟨[], state, rfl, owns, by simp [CallAnswers.cancels]⟩
  | raises => exact ⟨[], state, rfl, owns, by simp [CallAnswers.cancels]⟩
  | timesOut =>
    obtain ⟨more, ending, final, ends, after, same, escapes⟩ :=
      cancel_owns owns answers.cancel acknowledged
    refine ⟨more, final, ?_, after, ?_⟩
    · split at escapes
      · next raises => simp [waitForRead, bind_apply, acknowledged, ends, escapes,
          CallAnswers.waitRaises, raises]
      · next answered =>
        obtain ⟨failed, returns⟩ := escapes
        simp [waitForRead, bind_apply, acknowledged, ends, returns, CallAnswers.waitRaises, answered]
    · simpa [CallAnswers.cancels] using same

end Holding

end Storlets
