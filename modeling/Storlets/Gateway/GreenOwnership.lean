import Storlets.Gateway.FailedCall
import Storlets.Gateway.GreenThreads

set_option autoImplicit false

/-!
# What a green thread owns

Between two pieces the others may open and close what is theirs.
-/

namespace Storlets

open PyStr Effect Descriptors

/-- What an invocation holds once the container's side is closed. -/
def Pipes.kept (pipes : Pipes) : List Nat :=
  [pipes.data.1, pipes.metadata.1] ++ pipes.writing

/-- An invocation that has read its metadata returns. -/
def CallAnswers.EndsWell (answers : CallAnswers) : Prop :=
  answers.metadataParseFails = false ∧ answers.dataWait = .ready

instance (answers : CallAnswers) : Decidable answers.EndsWell :=
  inferInstanceAs (Decidable (_ ∧ _))

namespace Green

/-! ## Pieces -/

structure Has (me : Owner) (held : List Nat) (state : CallState) : Prop where
  distinct : held.Nodup
  owned : ∀ fd ∈ held, state.table.get? fd = some me

/-- Nobody else's descriptor is closed. -/
structure Frame (me : Owner) (first last : CallState) : Prop where
  strays : last.strays = first.strays
  others : ∀ fd owner, owner ≠ me → first.table.get? fd = some owner →
    last.table.get? fd = some owner

/-- Nor is a write end handed over. -/
structure Quiet (me : Owner) (first last : CallState) : Prop extends Frame me first last where
  writers : last.protocol.writers = first.protocol.writers

instance (me : Owner) : Std.Refl (Quiet me) where
  refl _ := ⟨⟨rfl, fun _ _ _ owned => owned⟩, rfl⟩

instance (me : Owner) : IsTrans CallState (Quiet me) where
  trans _ _ _ first second :=
    { strays := second.strays.trans first.strays
      others fd owner differs owned :=
        second.others fd owner differs (first.others fd owner differs owned)
      writers := second.writers.trans first.writers }

section Pieces

variable {me : Owner} {held : List Nat} {state : CallState}

theorem Has.of_table {final : CallState} (has : Has me held state)
    (table : final.table = state.table) : Has me held final := by
  constructor
  · exact has.distinct
  · rw [table]
    exact has.owned

theorem Has.sublist {fewer : List Nat} (has : Has me held state) (sublist : fewer.Sublist held) :
    Has me fewer state := by
  constructor
  · exact has.distinct.sublist sublist
  · intro fd inside
    exact has.owned fd (sublist.subset inside)

theorem Has.perm {other : List Nat} (has : Has me held state) (perm : held.Perm other) :
    Has me other state := by
  constructor
  · exact perm.nodup_iff.mp has.distinct
  · intro fd inside
    exact has.owned fd (perm.mem_iff.mpr inside)

theorem Quiet.of_table {final : CallState} (table : final.table = state.table)
    (strays : final.strays = state.strays)
    (writers : final.protocol.writers = state.protocol.writers) : Quiet me state final := by
  refine ⟨⟨strays, ?_⟩, writers⟩
  intro fd owner _ owned
  rw [table, owned]

theorem osOpen_quiet : Moves (Quiet me) (osOpen me) := by
  intro state
  refine ⟨⟨rfl, ?_⟩, rfl⟩
  intro fd owner _ owned
  change (install me state.table).2.get? fd = some owner
  rw [get?_install, if_neg]
  · exact owned
  · rintro rfl
    rw [show state.table.get? (install me state.table).1 = none from
      lowestFree_fresh state.table] at owned
    cases owned

theorem osOpen_has (has : Has me held state) : ∃ fd final,
    osOpen me state = (.ok fd, final) ∧ Has me (fd :: held) final ∧
      final.protocol = state.protocol := by
  refine ⟨_, _, rfl, ?_, rfl⟩
  constructor
  · apply List.nodup_cons.mpr
    constructor
    · intro inside
      have taken := has.owned _ inside
      exact absurd (lowestFree_fresh state.table ▸ taken) (by simp)
    · exact has.distinct
  · intro fd inside
    change (install me state.table).2.get? fd = some me
    rw [get?_install]
    split
    · rfl
    · next differs =>
      rcases List.mem_cons.mp inside with new | old
      · exact absurd new differs
      · exact has.owned fd old

theorem osClose_has {fd : Nat} (has : Has me (fd :: held) state) : ∃ final,
    osClose me (some fd) state = (.ok (), final) ∧ Has me held final ∧
      final.protocol = state.protocol ∧ Quiet me state final := by
  have owned := has.owned fd (by simp)
  have distinct := List.nodup_cons.mp has.distinct
  refine ⟨{ state with table := state.table.pop fd }, ?_, ?_, rfl, ⟨rfl, ?_⟩, rfl⟩
  · simp [osClose, bind_apply, owned]
  · constructor
    · exact distinct.2
    · intro other inside
      change (state.table.pop fd).get? other = some me
      rw [PyDict.get?_pop, if_neg]
      · exact has.owned other (List.mem_cons_of_mem _ inside)
      · rintro rfl
        exact distinct.1 inside
  · intro other owner differs there
    change (state.table.pop fd).get? other = some owner
    rw [PyDict.get?_pop, if_neg]
    · exact there
    · rintro rfl
      rw [owned] at there
      cases there
      exact differs rfl

theorem closeAll_has {fds : List Nat} (has : Has me (fds ++ held) state) : ∃ final,
    closeAll me (fds.map some) state = (.ok (), final) ∧ Has me held final ∧
      final.protocol = state.protocol ∧ Quiet me state final := by
  induction fds generalizing state with
  | nil => exact ⟨state, rfl, has, rfl, Std.Refl.refl _⟩
  | cons fd fds ih =>
    obtain ⟨middle, closes, first, same, kept⟩ := @osClose_has _ (fds ++ held) _ _ has
    obtain ⟨final, rests, second, still, also⟩ := ih first
    refine ⟨final, ?_, second, still.trans same, IsTrans.trans _ _ _ kept also⟩
    simp only [closeAll] at rests
    simp [closeAll, forEach, bind_apply, closes, rests]

theorem startRequest_has (has : Has me held state) : ∃ readFd more final,
    startRequest me state = (.ok readFd, final) ∧ Has me (readFd :: held) final ∧
      final.protocol = { state.protocol with piped := state.protocol.piped ++ more } ∧
      Quiet me state final := by
  obtain ⟨readFd, first, opens, hasFirst, same₁⟩ := osOpen_has has
  obtain ⟨writeFd, second, again, hasSecond, same₂⟩ := osOpen_has hasFirst
  let noted : CallState :=
    { second with protocol.piped := second.protocol.piped ++ [readFd, writeFd] }
  have hasNoted : Has me (writeFd :: readFd :: held) noted := hasSecond.of_table rfl
  obtain ⟨final, closes, hasFinal, same₃, kept₃⟩ := osClose_has hasNoted
  have kept₁ : Quiet me state first := by simpa [opens] using @osOpen_quiet me state
  have kept₂ : Quiet me first second := by simpa [again] using @osOpen_quiet me first
  have kept : Quiet me state noted := by
    refine IsTrans.trans _ _ _ (IsTrans.trans _ _ _ kept₁ kept₂) ?_
    exact .of_table rfl rfl rfl
  refine ⟨readFd, [readFd, writeFd], final, ?_, hasFinal, ?_, IsTrans.trans _ _ _ kept kept₃⟩
  · simp only [startRequest, osPipe, bind_apply, opens, again]
    simp [closes, noted]
  · rw [same₃]
    simp only [noted, same₂, same₁]

theorem prepare_quiet (answers : CallAnswers) :
    Moves (Quiet me) (prepareInvocationDescriptors me answers) := by
  have note (next : CallState → CallState) (table : ∀ state, (next state).table = state.table)
      (strays : ∀ state, (next state).strays = state.strays)
      (writers : ∀ state, (next state).protocol.writers = state.protocol.writers) :
      Moves (Quiet me) (change next : CallAction Unit) :=
    .change fun state => .of_table (table state) (strays state) (writers state)
  have pipes (name : PipeName) : Moves (Quiet me) (pipe me answers name) := by
    refine .ite (.throw _) (.bind osOpen_quiet fun readFd => .bind osOpen_quiet fun writeFd => ?_)
    exact .bind (note _ (fun _ => rfl) (fun _ => rfl) fun _ => rfl) fun _ => .pure _
  have outputs : Moves (Quiet me) (prepareOutputs me answers) := by
    refine .bind (pipes .data) fun _ => .bind (note _ (fun _ => rfl) (fun _ => rfl) fun _ => rfl) fun _ => ?_
    refine .bind (pipes .metadata) fun _ => .bind (note _ (fun _ => rfl) (fun _ => rfl) fun _ => rfl) fun _ => ?_
    refine .bind (.look _) fun extra => .forEach (fun _ index _ => ?_) ()
    exact .bind (pipes (.source index)) fun _ => note _ (fun _ => rfl) (fun _ => rfl) fun _ => rfl
  refine .bind (.look _) fun hasFd => .ite outputs (.bind (pipes .input) fun _ => ?_)
  exact .bind (note _ (fun _ => rfl) (fun _ => rfl) fun _ => rfl) fun _ => outputs

end Pieces

/-! ## The contract -/

/-- The number belongs to somebody else. -/
def Taken (me : Owner) (table : Table Owner) (fd : Nat) : Prop :=
  ∃ owner ∈ table.get? fd, owner ≠ me

instance (me : Owner) (table : Table Owner) (fd : Nat) : Decidable (Taken me table fd) :=
  inferInstanceAs (Decidable (∃ owner ∈ table.get? fd, owner ≠ me))

/-- A piece closes the number of a descriptor of the thread that has been closed before, and that
somebody else has got since. -/
def ClosesTaken (me : Owner) (piece : CallPiece) (state : CallState) : Prop :=
  match piece with
  | .plain => False
  | .cleanUp => ∃ fd ∈ state.protocol.metadataReadFd, Taken me state.table fd
  | .closesAgain fd => Taken me state.table fd

instance (me : Owner) (piece : CallPiece) (state : CallState) :
    Decidable (ClosesTaken me piece state) :=
  match piece with
  | .plain => inferInstanceAs (Decidable False)
  | .cleanUp =>
      inferInstanceAs (Decidable (∃ fd ∈ state.protocol.metadataReadFd, Taken me state.table fd))
  | .closesAgain fd => inferInstanceAs (Decidable (Taken me state.table fd))

/-- What is handed over is somebody else's from then on. -/
inductive Handed (first last : CallState) : Prop
  | nothing (writers : last.protocol.writers = first.protocol.writers)
  | writer (fd : Nat) (writers : last.protocol.writers = first.protocol.writers ++ [fd])
      (given : last.table.get? fd = some .other)

/-- Where it is strict no piece closes a taken number; else such a piece is not allowed. -/
def terms (strict : Bool) (me : Owner) : Thread.Contract CallPiece CallState where
  rely first last := last.protocol = first.protocol ∧
    ∀ fd, first.table.get? fd = some me → last.table.get? fd = some me
  guarantee first last := Frame me first last ∧ Handed first last
  allowed piece state := strict = false → ¬ ClosesTaken me piece state
  harm first last := last.strays ≠ first.strays

instance (strict : Bool) (me : Owner) : IsTrans CallState (terms strict me).rely where
  trans _ _ _ first second :=
    ⟨second.1.trans first.1, fun fd owned => second.2 fd (first.2 fd owned)⟩

/-- The invocation's pipes, as far as they are needed once they are made. -/
structure Made (pipes : Pipes) (protocol : Protocol) : Prop where
  dataRead : protocol.dataReadFd = some pipes.data.1
  dataWrite : protocol.dataWriteFd = some pipes.data.2
  metadataRead : protocol.metadataReadFd = some pipes.metadata.1
  metadataWrite : protocol.metadataWriteFd = some pipes.metadata.2
  inputRead : protocol.inputReadFd = pipes.input.map Prod.fst
  inputWrite : protocol.inputWriteFd = pipes.input.map Prod.snd
  sources : protocol.extraDataSources = pipes.sources

theorem made (pipes : Pipes) (hasFd : Bool) (extra loggerFd : Nat) :
    Made pipes (pipes.protocol hasFd extra loggerFd) := ⟨rfl, rfl, rfl, rfl, rfl, rfl, rfl⟩

structure Stage (me : Owner) (pipes : Pipes) (held : List Nat) (state : CallState) : Prop where
  has : Has me held state
  made : Made pipes state.protocol

/-- What the clean-up finds; the metadata descriptor too where it has to. -/
def Protocol.found (strict : Bool) (protocol : Protocol) : List Nat :=
  protocol.dataReadFd.toList ++ if strict then protocol.metadataReadFd.toList else []

structure Failing (strict : Bool) (me : Owner) (beside : List Nat) (state : CallState) : Prop where
  has : Has me (Protocol.found strict state.protocol ++ beside) state
  only : state.protocol.dataReadFd = none → state.protocol.metadataReadFd = none

section Threads

variable {strict : Bool} {me : Owner}

theorem Has.stable {held : List Nat} : (terms strict me).Stable (Has me held) := by
  intro state met rely has
  constructor
  · exact has.distinct
  · intro fd inside
    exact rely.2 fd (has.owned fd inside)

theorem Stage.stable {pipes : Pipes} {held : List Nat} : (terms strict me).Stable (Stage me pipes held) := by
  intro state met rely stage
  constructor
  · exact Has.stable state met rely stage.has
  · rw [rely.1]
    exact stage.made

theorem Failing.stable {beside : List Nat} : (terms strict me).Stable (Failing strict me beside) := by
  intro state met rely failing
  constructor
  · rw [rely.1]
    exact Has.stable state met rely failing.has
  · rw [rely.1]
    exact failing.only

/-! ## The pieces keep to the contract -/

theorem plain_meets {α : Type} {body : CallAction α} {before raised : CallState → Prop}
    {returned : α → CallState → Prop} (stable : (terms strict me).Stable before)
    (well : ∀ state, before state → Frame me state (body state).2 ∧ Handed state (body state).2 ∧
      Shows returned raised (body state)) :
    Thread.Meets (terms strict me) before (plain body) returned raised := by
  apply Thread.Meets.atomic stable
  · intro state holds _
    obtain ⟨frame, handed, shown⟩ := well state holds
    exact ⟨⟨frame, handed⟩, shown⟩
  · intro state _ barred
    exact absurd (fun _ => id) barred

/-- A piece that returns, and hands nothing over. -/
theorem plain_returns {α : Type} {body : CallAction α} {before raised : CallState → Prop}
    {returned : α → CallState → Prop} (stable : (terms strict me).Stable before)
    (well : ∀ state, before state → ∃ value final, body state = (.ok value, final) ∧
      returned value final ∧ Quiet me state final) :
    Thread.Meets (terms strict me) before (plain body) returned raised := by
  apply plain_meets stable
  intro state holds
  obtain ⟨value, final, ends, shown, quiet⟩ := well state holds
  rw [ends]
  exact ⟨quiet.toFrame, .nothing quiet.writers, shown⟩

theorem look_meets {α : Type} {view : CallState → α} {before raised : CallState → Prop}
    (stable : (terms strict me).Stable before) :
    Thread.Meets (terms strict me) before (plain (look view))
      (fun value state => before state ∧ value = view state) raised :=
  plain_returns stable fun _ holds =>
    ⟨_, _, rfl, ⟨holds, rfl⟩, Std.Refl.refl _⟩

section Staged

variable {pipes : Pipes} {held : List Nat} {raised : CallState → Prop}

theorem close_meets {fd : Nat} :
    Thread.Meets (terms strict me) (Stage me pipes (fd :: held)) (plain (osClose me (some fd)))
      (fun _ => Stage me pipes held) raised := by
  apply plain_returns Stage.stable
  intro state stage
  obtain ⟨final, closes, after, same, kept⟩ := osClose_has stage.has
  exact ⟨(), final, closes, ⟨after, same ▸ stage.made⟩, kept⟩

theorem note_meets {next : CallState → CallState} (table : ∀ state, (next state).table = state.table)
    (strays : ∀ state, (next state).strays = state.strays)
    (made : ∀ state, Made pipes state.protocol → Made pipes (next state).protocol)
    (writers : ∀ state, (next state).protocol.writers = state.protocol.writers) :
    Thread.Meets (terms strict me) (Stage me pipes held) (plain (change next))
      (fun _ => Stage me pipes held) raised := by
  apply plain_returns Stage.stable
  intro state stage
  exact ⟨(), next state, rfl, ⟨stage.has.of_table (table state), made state stage.made⟩,
    .of_table (table state) (strays state) (writers state)⟩

theorem request_meets (answer : RequestAnswer) :
    Thread.Meets (terms strict me) (Stage me pipes held) (request me answer)
      (fun _ => Stage me pipes held) raised := by
  have made : Thread.Meets (terms strict me) (Stage me pipes held)
      (plain (startRequest me) >>= fun readFd => plain (osClose me (some readFd)) >>= fun _ =>
        pure answer.ending) (fun _ => Stage me pipes held) raised := by
    refine .bind (fun readFd => Stage me pipes (readFd :: held)) ?_ fun readFd =>
      .bind (fun _ => Stage me pipes held) close_meets fun _ => .pure fun _ stage => stage
    apply plain_returns Stage.stable
    intro state stage
    obtain ⟨readFd, more, final, starts, after, same, kept⟩ := startRequest_has stage.has
    refine ⟨readFd, final, starts, ⟨after, ?_⟩, kept⟩
    rw [same]
    constructor
    · exact stage.made.dataRead
    · exact stage.made.dataWrite
    · exact stage.made.metadataRead
    · exact stage.made.metadataWrite
    · exact stage.made.inputRead
    · exact stage.made.inputWrite
    · exact stage.made.sources
  cases answer with
  | pipeFails => exact .pure fun _ stage => stage
  | _ => exact made

theorem closeRemote_meets :
    Thread.Meets (terms strict me) (Stage me pipes (pipes.remote ++ held))
      (plain (closeRemoteSideDescriptors me)) (fun _ => Stage me pipes held) raised := by
  apply plain_returns Stage.stable
  intro state stage
  obtain ⟨final, closes, after, same, quiet⟩ := closeAll_has stage.has
  refine ⟨(), final, ?_, ⟨after, same ▸ stage.made⟩, quiet⟩
  rw [← closes]
  cases given : pipes.input <;>
    simp [closeRemoteSideDescriptors, bind_apply, stage.made.dataWrite, stage.made.metadataWrite,
      stage.made.inputRead, stage.made.sources, Pipes.remote, given, Function.comp_def]

theorem cancel_meets (answer : RequestAnswer) :
    Thread.Meets (terms strict me) (Stage me pipes held) (cancel me answer)
      (fun _ => Stage me pipes held) (Stage me pipes held) := by
  refine .bind (fun _ => Stage me pipes held) ?_ fun taskId => ?_
  · exact (look_meets Stage.stable).weaken (fun _ => id) (fun _ _ shown => shown.1) fun _ => id
  refine .bind (fun _ => Stage me pipes held) (request_meets answer) fun ending => ?_
  refine .bind (fun _ => Stage me pipes held) ?_ fun _ => ?_
  · cases sent : answer.sent with
    | true =>
      simp only [when, if_true]
      exact note_meets (fun _ => rfl) (fun _ => rfl)
        (fun _ made => ⟨made.1, made.2, made.3, made.4, made.5, made.6, made.7⟩) fun _ => rfl
    | false =>
      apply plain_returns Stage.stable
      intro state stage
      exact ⟨(), state, rfl, stage, Std.Refl.refl _⟩
  · rcases ending with ⟨_ | _, _⟩ | _ | _
    all_goals exact fun _ stage => stage

theorem execute_meets (answer : RequestAnswer) :
    Thread.Meets (terms strict me) (Stage me pipes held) (sendExecuteCommand me answer)
      (fun _ => Stage me pipes held) (Stage me pipes held) := by
  refine .bind (fun _ => Stage me pipes held) (request_meets answer) fun ending => ?_
  rcases ending with ⟨_ | _, _ | _ | ⟨c, taskId⟩⟩ | _ | _
  case replied.true.some.cons =>
    exact note_meets (fun _ => rfl) (fun _ => rfl)
      (fun _ made => ⟨made.1, made.2, made.3, made.4, made.5, made.6, made.7⟩) fun _ => rfl
  all_goals exact fun _ stage => stage

theorem wait_meets (answers : CallAnswers) (step : CallStep) (wait : Wait) :
    Thread.Meets (terms strict me) (Stage me pipes held) (waitForRead me answers step wait)
      (fun _ => Stage me pipes held) (Stage me pipes held) := by
  cases wait with
  | ready => exact .pure fun _ stage => stage
  | notReady => exact .throw fun _ stage => stage
  | raises => exact .throw fun _ stage => stage
  | timesOut =>
    refine .bind (fun _ => Stage me pipes held) ?_ fun taskId => ?_
    · exact (look_meets Stage.stable).weaken (fun _ => id) (fun _ _ shown => shown.1) fun _ => id
    · cases taskId with
      | none => exact .throw fun _ stage => stage
      | some taskId =>
        exact .bind (fun _ => Stage me pipes held) (cancel_meets answers.cancel) fun _ =>
          .throw fun _ stage => stage

end Staged

/-! ## The invocation keeps to it -/

theorem Stage.failing {pipes : Pipes} {held beside : List Nat} {state : CallState}
    (stage : Stage me pipes held state)
    (sublist : ([pipes.data.1] ++ (if strict then [pipes.metadata.1] else []) ++ beside).Sublist
      held) : Failing strict me beside state := by
  constructor
  · rw [Protocol.found, stage.made.dataRead, stage.made.metadataRead]
    exact stage.has.sublist sublist
  · intro absent
    rw [stage.made.dataRead] at absent
    cases absent

/-- The metadata descriptor follows the data descriptor wherever it is kept. -/
theorem kept_sublist (pipes : Pipes) {rest beside : List Nat} (sublist : beside.Sublist rest) :
    ([pipes.data.1] ++ (if strict then [pipes.metadata.1] else []) ++ beside).Sublist
      ([pipes.data.1, pipes.metadata.1] ++ rest) := by
  refine List.Sublist.append ?_ sublist
  cases strict <;> simp

theorem found_issued (pipes : Pipes) :
    ([pipes.data.1] ++ if strict then [pipes.metadata.1] else []).Sublist pipes.issued := by
  have data : [pipes.data.1].Sublist (pipes.input.toList.flatMap ends ++ ends pipes.data) := by
    simp [ends]
  have metadata : (if strict then [pipes.metadata.1] else []).Sublist (ends pipes.metadata) := by
    cases strict <;> simp [ends]
  exact (data.append metadata).trans (List.sublist_append_left ..)

/-- The metadata pipe is made after the data pipe. -/
theorem prepare_ordered (answers : CallAnswers) :
    Effect.Keeps (fun state : CallState =>
      state.protocol.dataReadFd = none → state.protocol.metadataReadFd = none)
      (prepareInvocationDescriptors me answers) := by
  have same {next : CallState → CallState} {Inv : CallState → Prop}
      (kept : ∀ state, Inv state → Inv (next state)) :
      Effect.Keeps Inv (change next : CallAction Unit) := kept
  have pipes (Inv : Option Nat → Option Nat → Prop) (name : PipeName) :
      Effect.Keeps (fun state => Inv state.protocol.dataReadFd state.protocol.metadataReadFd)
        (pipe me answers name) := by
    unfold pipe
    split
    · exact .throw _
    · have opens : Effect.Keeps (fun state : CallState =>
          Inv state.protocol.dataReadFd state.protocol.metadataReadFd) (osOpen me) :=
        .bind (.look _) fun _ => .bind (same fun _ => id) fun _ => .pure _
      exact .bind opens fun _ => .bind opens fun _ => .bind (same fun _ => id) fun _ => .pure _
  let ordered : Option Nat → Option Nat → Prop := fun data metadata =>
    data = none → metadata = none
  let given : Option Nat → Option Nat → Prop := fun data _ => data ≠ none
  have outputs : Effect.Keeps (fun state =>
      ordered state.protocol.dataReadFd state.protocol.metadataReadFd)
      (prepareOutputs me answers) := by
    refine .bind (pipes ordered .data) fun readFd => ?_
    refine Effect.Meets.bind (fun _ state => given state.protocol.dataReadFd none)
      (.change fun _ _ => by simp [given]) fun _ => ?_
    have rest : Effect.Keeps (fun state =>
        given state.protocol.dataReadFd state.protocol.metadataReadFd)
        (pipe me answers .metadata >>= fun fds =>
          change (fun state => { state with
            protocol.metadataReadFd := some fds.1, protocol.metadataWriteFd := some fds.2 }) >>=
          fun _ => look (fun state => state.protocol.extra) >>= fun extra =>
          prepareSources me answers (List.range extra)) := by
      refine .bind (pipes given .metadata) fun fds => .bind (same fun _ => id) fun _ => ?_
      refine .bind (.look _) fun extra => .forEach (fun _ index _ => ?_) ()
      exact .bind (pipes given (.source index)) fun _ => same fun _ => id
    exact rest.weaken (fun _ => id) (fun _ _ there absent => absurd absent there)
      fun _ there absent => absurd absent there
  refine .bind (.look _) fun hasFd => ?_
  split
  · exact outputs
  · exact .bind (pipes ordered .input) fun _ => .bind (same fun _ => id) fun _ => outputs

variable {hasFd : Bool} {extra loggerFd : Nat}

theorem prepare_meets (answers : CallAnswers) :
    Thread.Meets (terms strict me)
      (fun state => Has me [loggerFd] state ∧
        state.protocol = { hasFd, extra, loggerFd := some loggerFd })
      (plain (prepareInvocationDescriptors me answers))
      (fun _ state => ∃ pipes, Stage me pipes (pipes.issued ++ [loggerFd]) state)
      (Failing strict me [loggerFd]) := by
  apply plain_meets
  · intro state met rely holds
    exact ⟨Has.stable state met rely holds.1, rely.1.trans holds.2⟩
  intro state holds
  obtain ⟨has, begun⟩ := holds
  have owns : Owns me [loggerFd] state := ⟨has.distinct, has.owned, by simp [begun]⟩
  obtain ⟨opened, final, prepares, after, prepared⟩ := prepare_owns owns answers begun
  have ordered := (@prepare_ordered me answers state (by simp [begun])).final
  have quiet := @prepare_quiet me answers state
  rw [prepares] at ordered quiet ⊢
  refine ⟨quiet.toFrame, .nothing quiet.writers, ?_⟩
  have logger : Has me [loggerFd] final := ⟨has.distinct, fun fd inside => after.owned fd (by simp_all)⟩
  have held : Has me (opened ++ [loggerFd]) final := ⟨after.distinct, after.owned⟩
  -- which pipes there are when the step fails
  generalize (pipeSteps hasFd extra).find? answers.fails = failing at prepared ⊢
  generalize same : final.protocol = protocol at prepared
  cases prepared with
  | noData step opened _ taskId absent =>
    have missing : final.protocol.metadataReadFd = none := ordered (same ▸ absent)
    refine ⟨?_, fun _ => missing⟩
    rw [Protocol.found, missing, same, absent]
    simpa using logger
  | noMetadata step opened _ fd taskId data listed absent =>
    constructor
    · have found : Protocol.found strict final.protocol = [fd] := by
        simp [Protocol.found, same, data, absent]
      rw [found]
      apply held.sublist
      exact (List.singleton_sublist.mpr listed).append (List.Sublist.refl [loggerFd])
    · intro _
      rw [same, absent]
  | noSource step pipes =>
    have stage : Stage me pipes (pipes.issued ++ [loggerFd]) final := ⟨held, same ▸ made pipes _ _ _⟩
    apply stage.failing
    exact List.Sublist.append (found_issued pipes) (List.Sublist.refl [loggerFd])
  | all pipes fits => exact ⟨pipes, held, same ▸ made pipes _ _ _⟩

theorem invoke_meets (answers : CallAnswers) :
    Thread.Meets (terms strict me) (fun state => state.protocol = { hasFd, extra }) (invoke me answers)
      (fun _ state => ∃ pipes, Stage me pipes pipes.kept state) (Failing strict me []) := by
  unfold invoke
  split
  · apply Thread.Meets.throw
    intro state begun
    refine ⟨?_, fun _ => by rw [begun]⟩
    simpa [Protocol.found, begun] using (⟨List.nodup_nil, by simp⟩ : Has me [] state)
  refine .bind (fun loggerFd state => Has me [loggerFd] state ∧
    state.protocol = { hasFd, extra, loggerFd := some loggerFd }) ?_ fun loggerFd => ?_
  · apply plain_returns (fun _ _ rely begun => rely.1.trans begun)
    intro state begun
    have nothing : Has me [] state := ⟨List.nodup_nil, by simp⟩
    obtain ⟨fd, final, opens, has, same⟩ := osOpen_has nothing
    have quiet := @osOpen_quiet me state
    rw [opens] at quiet
    let noted : CallState := { final with protocol.loggerFd := some fd }
    have ends : openLogger me state = (.ok fd, noted) := by
      simp [openLogger, bind_apply, opens, noted]
    refine ⟨fd, noted, ends, ⟨has.of_table rfl, ?_⟩, ?_⟩
    · simp [noted, same, begun]
    · exact ⟨⟨quiet.strays, quiet.others⟩, quiet.writers⟩
  refine .ensuring (fun _ state => ∃ pipes, Stage me pipes (pipes.kept ++ [loggerFd]) state)
    (Failing strict me [loggerFd]) ?_ (fun _ => ?_) ?_
  · refine .bind _ (prepare_meets answers) fun _ => .of_forall fun pipes => ?_
    have reordered : (pipes.issued ++ [loggerFd]).Perm
        (pipes.remote ++ (pipes.kept ++ [loggerFd])) := by
      rw [← List.append_assoc]
      apply List.Perm.append_right
      rw [Pipes.kept, ← List.append_assoc]
      exact pipes.issued_perm
    have executes := @execute_meets strict me pipes (pipes.remote ++ (pipes.kept ++ [loggerFd]))
      answers.execute
    refine .ensuring (fun _ => Stage me pipes (pipes.remote ++ (pipes.kept ++ [loggerFd])))
      (Stage me pipes (pipes.remote ++ (pipes.kept ++ [loggerFd]))) ?_ (fun _ => ?_) ?_
    · exact executes.weaken (fun state stage => ⟨stage.has.perm reordered, stage.made⟩)
        (fun _ _ => id) fun _ => id
    · exact closeRemote_meets.weaken (fun _ => id) (fun _ _ stage => ⟨pipes, stage⟩) fun _ => id
    · exact closeRemote_meets.weaken (fun _ => id)
        (fun _ _ stage => stage.failing (by
          simpa [Pipes.kept] using kept_sublist pipes (List.sublist_append_right pipes.writing [loggerFd]))) fun _ => id
  · refine .of_forall fun pipes => ?_
    have closes (fd : Nat) : Thread.Meets (terms strict me) (Stage me pipes (fd :: pipes.kept))
        (plain (osClose me (some fd))) (fun _ => Stage me pipes pipes.kept)
        (Failing strict me []) :=
      close_meets
    refine (closes _).weaken ?_ (fun _ _ stage => ⟨pipes, stage⟩) fun _ => id
    intro state stage
    exact ⟨stage.has.perm List.perm_append_comm, stage.made⟩
  · apply plain_returns Failing.stable
    intro state failing
    obtain ⟨final, closes, after, same, quiet⟩ :=
      osClose_has (failing.has.perm List.perm_append_comm)
    refine ⟨(), final, closes, ⟨?_, ?_⟩, quiet⟩
    · rw [same, List.append_nil]
      exact after
    · rw [same]
      exact failing.only

/-! ## Handing over and reading -/

/-- What an invocation does to the table once a write end is its writer's. -/
def giveAway (fd : Nat) : CallAction Unit :=
  change fun state => { state with table := state.table.set fd .other }

variable {pipes : Pipes} {held : List Nat} {name : PipeName} {fd : Nat}

theorem hands (answers : CallAnswers) (state : CallState) :
    (∃ raised, (Storlets.handOver answers name fd >>= fun _ => giveAway fd) state =
      (.error raised, state)) ∨
    (Storlets.handOver answers name fd >>= fun _ => giveAway fd) state =
      (.ok (), { state with
        table := state.table.set fd .other
        protocol.writers := state.protocol.writers ++ [fd] }) := by
  unfold Storlets.handOver
  split
  · exact .inl ⟨_, rfl⟩
  · split
    · exact .inl ⟨_, rfl⟩
    · exact .inr rfl

theorem handOver_meets (answers : CallAnswers) :
    Thread.Meets (terms strict me) (Stage me pipes (fd :: held)) (handOver giveAway answers name fd)
      (fun _ => Stage me pipes held) (Stage me pipes (fd :: held)) := by
  apply plain_meets Stage.stable
  intro state stage
  have owned := stage.has.owned fd (by simp)
  have distinct := List.nodup_cons.mp stage.has.distinct
  obtain ⟨raised, ends⟩ | ends := @hands name fd answers state
  · rw [ends]
    exact ⟨(Std.Refl.refl (r := Quiet me) state).toFrame, .nothing rfl, stage⟩
  · rw [ends]
    refine ⟨⟨rfl, ?_⟩, .writer fd rfl ?_, ⟨⟨distinct.2, ?_⟩, ?_⟩⟩
    · intro other owner differs there
      change (state.table.set fd .other).get? other = some owner
      rw [PyDict.get?_set, if_neg]
      · exact there
      · rintro rfl
        rw [owned] at there
        cases there
        exact differs rfl
    · change (state.table.set fd .other).get? fd = some .other
      rw [PyDict.get?_set, if_pos rfl]
    · intro other inside
      change (state.table.set fd .other).get? other = some me
      rw [PyDict.get?_set, if_neg]
      · exact stage.has.owned other (List.mem_cons_of_mem _ inside)
      · rintro rfl
        exact distinct.1 inside
    · have made := stage.made
      exact ⟨made.1, made.2, made.3, made.4, made.5, made.6, made.7⟩

theorem handsOver_meets (answers : CallAnswers) (writeFds : List (PipeName × Nat))
    {kept beside : List Nat}
    (sublist : ([pipes.data.1] ++ (if strict then [pipes.metadata.1] else []) ++ beside).Sublist
      kept) :
    Thread.Meets (terms strict me) (Stage me pipes (writeFds.map Prod.snd ++ kept))
      (Thread.forEach (fun (name, fd) => handOver giveAway answers name fd) writeFds)
      (fun _ => Stage me pipes kept) (Failing strict me beside) := by
  induction writeFds with
  | nil => exact .pure fun _ stage => stage
  | cons writeFd rest ih =>
    refine .bind (fun _ => Stage me pipes (rest.map Prod.snd ++ kept)) ?_ fun _ => ih
    refine (handOver_meets answers).weaken (fun _ => id) (fun _ _ => id) fun _ stage => ?_
    exact stage.failing ((sublist.trans (List.sublist_append_right ..)).trans
      (List.sublist_cons_self ..))

theorem readMetadata_meets {answers : CallAnswers}
    (parses : strict = true → answers.metadataParseFails = false) :
    Thread.Meets (terms strict me) (Stage me pipes [pipes.data.1, pipes.metadata.1])
      (readMetadata me answers) (fun _ => Stage me pipes [pipes.data.1]) (Failing strict me []) := by
  have early (state : CallState) (stage : Stage me pipes [pipes.data.1, pipes.metadata.1] state) :
      Failing strict me [] state := stage.failing (kept_sublist pipes (List.Sublist.refl []))
  refine .bind _ ((wait_meets answers _ _).weaken (fun _ => id) (fun _ _ => id) early) fun _ => ?_
  split
  · exact .throw early
  refine .bind _ (look_meets Stage.stable) fun fd => ?_
  refine .bind (fun _ => Stage me pipes [pipes.data.1]) ?_ fun _ => ?_
  · intro state holds
    obtain ⟨stage, rfl⟩ := holds
    rw [stage.made.metadataRead]
    exact close_meets state ⟨stage.has.perm (List.Perm.swap ..), stage.made⟩
  · split
    · next fails =>
      refine .throw fun _ stage => stage.failing ?_
      cases strict with
      | true => simp [parses rfl] at fails
      | false => exact List.Sublist.refl _
    · exact .pure fun _ stage => stage

variable {hasFd : Bool} {extra : Nat} {answers : CallAnswers}

theorem body_meets (well : strict = true → answers.EndsWell) :
    Thread.Meets (terms strict me) (fun state => state.protocol = { hasFd, extra })
      (communicateBody me giveAway answers) (fun _ _ => True) (Failing strict me []) := by
  refine .bind _ (invoke_meets answers) fun _ => .of_forall fun pipes => ?_
  refine .bind _ (look_meets Stage.stable) fun writeFds => ?_
  refine .bind (fun _ => Stage me pipes [pipes.data.1, pipes.metadata.1]) ?_ fun _ => ?_
  · intro state holds
    obtain ⟨stage, named⟩ := holds
    have fds : writeFds.map Prod.snd = pipes.writing := by
      rw [named]
      exact writeFds_fds stage.made.inputWrite stage.made.sources
    refine handsOver_meets answers writeFds (kept_sublist pipes (List.Sublist.refl [])) state
      ⟨?_, stage.made⟩
    rw [fds]
    exact stage.has.perm List.perm_append_comm
  refine .bind _ (readMetadata_meets fun asked => (well asked).1) fun _ => ?_
  cases strict with
  | true =>
    rw [(well rfl).2]
    exact .pure fun _ _ => trivial
  | false =>
    exact (wait_meets answers _ _).weaken (fun _ => id) (fun _ _ _ => trivial)
      fun _ stage => stage.failing (List.Sublist.refl _)

/-! ## Closing a number again -/

omit me in
theorem safely_closes (me : Owner) (fd : Nat) (state : CallState) : ∃ final,
    (osClose me (some fd)).handling ignoringEbadf state = (.ok (), final) ∧
      (∀ other, final.table.get? other = if other = fd then none else state.table.get? other) ∧
      (¬ Taken me state.table fd → Quiet me state final) ∧
      (Taken me state.table fd → final.strays = state.strays ++ [fd]) := by
  cases there : state.table.get? fd with
  | none =>
    refine ⟨state, ?_, ?_, fun _ => Std.Refl.refl _, ?_⟩
    · simp [handling, osClose, bind_apply, there, ignoringEbadf]
    · intro other
      split
      · next same => rw [same, there]
      · rfl
    · rintro ⟨owner, owned, _⟩
      rw [there] at owned
      cases owned
  | some owner =>
    refine ⟨{ state with
      table := state.table.pop fd
      strays := if owner = me then state.strays else state.strays ++ [fd] }, ?_, PyDict.get?_pop _ _, ?_, ?_⟩
    · simp [handling, osClose, bind_apply, there]
    · intro free
      have mine : owner = me := by
        by_contra differs
        exact free ⟨owner, there, differs⟩
      refine ⟨⟨if_pos mine, ?_⟩, rfl⟩
      intro other holder differs held
      change (state.table.pop fd).get? other = some holder
      rw [PyDict.get?_pop, if_neg]
      · exact held
      · rintro rfl
        rw [there, mine] at held
        cases held
        exact differs rfl
    · rintro ⟨holder, owned, differs⟩
      rw [there, Option.mem_some_iff] at owned
      exact if_neg (owned ▸ differs)

theorem cleanUp_meets :
    Thread.Meets (terms strict me) (Failing strict me []) (Thread.atomic .cleanUp (closeLocalSideDescriptors me))
      (fun _ _ => True) (fun _ => True) := by
  have closes (state : CallState) : closeLocalSideDescriptors me state =
      safeClose me [state.protocol.dataReadFd, state.protocol.metadataReadFd] state := rfl
  have shows (outcome : Except Raised Unit × CallState) :
      Shows (fun _ _ => True) (fun _ => True) outcome := by
    rcases outcome with ⟨_ | _, _⟩ <;> trivial
  have whole (state : CallState) (failing : Failing false me [] state) :
      (¬ ClosesTaken me .cleanUp state → Quiet me state (closeLocalSideDescriptors me state).2) ∧
      (ClosesTaken me .cleanUp state →
        (closeLocalSideDescriptors me state).2.strays ≠ state.strays) := by
    cases given : state.protocol.dataReadFd with
    | none =>
      rw [closeLocal_typeError me given]
      refine ⟨fun _ => Std.Refl.refl _, ?_⟩
      rintro ⟨fd, listed, _⟩
      rw [failing.only given] at listed
      cases listed
    | some data =>
    have owned := failing.has.owned data (by simp [Protocol.found, given])
    obtain ⟨middle, first, apart, quietly, _⟩ := safely_closes me data state
    have quiet := quietly fun taken => by
      obtain ⟨owner, there, differs⟩ := taken
      rw [owned, Option.mem_some_iff] at there
      exact differs there.symm
    cases also : state.protocol.metadataReadFd with
    | none =>
      have ends : closeLocalSideDescriptors me state = (.error .typeError, middle) := by
        have second : (osClose me none).handling ignoringEbadf middle = (.error .typeError, middle) :=
          rfl
        rw [closes, given, also]
        simp [safeClose, forEach, bind_apply, first, second]
      rw [ends]
      refine ⟨fun _ => quiet, ?_⟩
      rintro ⟨fd, listed, _⟩
      rw [also] at listed
      cases listed
    | some metadata =>
    obtain ⟨final, second, _, well, badly⟩ := safely_closes me metadata middle
    have ends : closeLocalSideDescriptors me state = (.ok (), final) := by
      rw [closes, given, also]
      simp [safeClose, forEach, bind_apply, first, second]
    rw [ends]
    constructor
    · intro allowed
      refine IsTrans.trans _ _ _ quiet (well fun taken => allowed ⟨metadata, also, ?_⟩)
      obtain ⟨owner, there, differs⟩ := taken
      rw [apart] at there
      split at there
      · cases there
      · exact ⟨owner, there, differs⟩
    · intro taken
      obtain ⟨fd, listed, owner, there, differs⟩ := taken
      rw [also, Option.mem_some_iff] at listed
      subst listed
      rw [badly ⟨owner, ?_, differs⟩, quiet.strays]
      · simp
      · rw [apart, if_neg]
        · exact there
        · rintro rfl
          rw [owned, Option.mem_some_iff] at there
          exact differs there.symm
  have loose (state : CallState) (failing : Failing strict me [] state) :
      Failing false me [] state := by
    refine ⟨failing.has.sublist ?_, failing.only⟩
    cases strict <;> simp [Protocol.found]
  apply Thread.Meets.atomic Failing.stable
  · intro state failing allowed
    have free : ¬ ClosesTaken me .cleanUp state := by
      cases strict with
      | false => exact allowed rfl
      | true =>
        rintro ⟨fd, listed, owner, there, differs⟩
        have owned := failing.has.owned fd (by simp_all [Protocol.found])
        rw [owned, Option.mem_some_iff] at there
        exact differs there.symm
    have quiet := (whole state (loose state failing)).1 free
    exact ⟨⟨quiet.toFrame, .nothing quiet.writers⟩, shows _⟩
  · intro state failing barred
    exact (whole state (loose state failing)).2 (not_not.mp (Classical.not_imp.mp barred).2)

theorem communicate_meets (well : strict = true → answers.EndsWell) :
    Thread.Meets (terms strict me) (fun state => state.protocol = { hasFd, extra })
      (communicate me giveAway answers) (fun _ _ => True) (fun _ => True) := by
  refine .handling (Failing strict me []) (body_meets well) fun raised => ?_
  exact .bind (fun _ _ => True) cleanUp_meets fun _ => .throw fun _ _ => trivial

theorem writeInputData_meets {ending : WriterEnding} (well : strict = true → ending ≠ .raises) :
    Thread.Meets (terms strict me) (Has me [fd]) (writeInputData me fd ending)
      (fun _ _ => True) (fun _ => True) := by
  have safely (state : CallState) : safeClose me [some fd] state =
      ((osClose me (some fd)).handling ignoringEbadf >>= fun _ => pure ()) state := rfl
  cases ending with
  | fdopenFails =>
    apply plain_returns Has.stable
    intro state has
    have owned := has.owned fd (by simp)
    obtain ⟨final, closes, _, quietly, _⟩ := safely_closes me fd state
    refine ⟨(), final, by simp [safely, bind_apply, closes], trivial, quietly fun taken => ?_⟩
    obtain ⟨owner, there, differs⟩ := taken
    rw [owned, Option.mem_some_iff] at there
    exact differs there.symm
  | ends =>
    apply plain_returns Has.stable
    intro state has
    obtain ⟨middle, closes, _, _, quiet⟩ := osClose_has has
    -- the number is free before the `finally` closes it again
    have free : middle.table.get? fd = none := by
      obtain ⟨final, safe, apart, _, _⟩ := safely_closes me fd state
      simp only [handling, closes, Prod.mk.injEq, true_and] at safe
      rw [safe, apart, if_pos rfl]
    obtain ⟨final, again, _, quietly, _⟩ := safely_closes me fd middle
    refine ⟨(), final, ?_, trivial, IsTrans.trans _ _ _ quiet (quietly ?_)⟩
    · simp [bind_apply, closes, safely, again]
    · rintro ⟨owner, there, _⟩
      rw [free] at there
      cases there
  | raises =>
    have loose : strict = false := by
      cases strict with
      | false => rfl
      | true => exact absurd rfl (well rfl)
    refine .bind (fun _ _ => True) ?_ fun _ => ?_
    · apply plain_returns Has.stable
      intro state has
      obtain ⟨final, closes, _, _, quiet⟩ := osClose_has has
      exact ⟨(), final, closes, trivial, quiet⟩
    · apply Thread.Meets.atomic (fun _ _ _ => id)
      · intro state _ allowed
        obtain ⟨final, closes, _, quietly, _⟩ := safely_closes me fd state
        have ends : safeClose me [some fd] state = (.ok (), final) := by
          simp [safely, bind_apply, closes]
        have quiet := quietly (allowed loose)
        rw [ends]
        exact ⟨⟨quiet.toFrame, .nothing quiet.writers⟩, trivial⟩
      · intro state _ barred
        obtain ⟨final, closes, _, _, badly⟩ := safely_closes me fd state
        have ends : safeClose me [some fd] state = (.ok (), final) := by
          simp [safely, bind_apply, closes]
        rw [ends]
        change final.strays ≠ state.strays
        rw [badly (not_not.mp (Classical.not_imp.mp barred).2)]
        simp

end Threads

end Green

end Storlets
