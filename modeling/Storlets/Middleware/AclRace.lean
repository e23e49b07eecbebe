import Storlets.Middleware.Acl

set_option autoImplicit false

/-!
# Storlet ACL updates at the same time

Each POST reads the ACL of the container with a HEAD and later forwards the ACL it has made of it.
-/

namespace Storlets

open PyStr Runs

def aclEntries : Option Text → List Text
  | none | some [] => []
  | some acl => split ',' acl

/-- How far a POST is. -/
inductive PostStage where
  | begun
  | headed (readAcl : Option Text)
  | forwarded
  deriving DecidableEq

structure AclRace (Client : Type) where
  readAcl : Option Text
  stage : Client → PostStage

section Race

variable {Client : Type} [DecidableEq Client]

def AclRace.enter (state : AclRace Client) (client : Client) (stage : PostStage) :
    AclRace Client :=
  { state with stage := fun other => if other = client then stage else state.stage other }

/-- The next request of a client: its HEAD, or the POST it forwards. -/
def raceStep (aclString : Client → Text) (state : AclRace Client) (client : Client) :
    AclRace Client :=
  match state.stage client with
  | .begun => state.enter client (.headed state.readAcl)
  | .headed readAcl =>
      { state.enter client .forwarded with
        readAcl := some (newReadAcl readAcl (aclString client)) }
  | .forwarded => state

def AclRace.start (initial : Option Text) : AclRace Client := ⟨initial, fun _ => .begun⟩

section Statements

variable (initial : Option Text) (aclString : Client → Text) (state : AclRace Client)

structure AclRace.Kept : Prop where
  before : ∀ entry ∈ aclEntries initial, entry ∈ aclEntries state.readAcl
  granted : ∀ client, state.stage client = .forwarded →
    aclString client ∈ aclEntries state.readAcl

def KeepsGrants (client : Client) : Prop :=
  (raceStep aclString state client).Kept initial aclString

/-- When a client forwards its POST, the container has no entry that its HEAD did not show. -/
def Undisturbed (client : Client) : Prop :=
  ∀ readAcl, state.stage client = .headed readAcl → ∀ entry ∈ aclEntries state.readAcl,
    entry ∈ aclEntries readAcl ∨ entry = aclString client

/-- An ACL of the entries that were there before and of some that have been granted. -/
structure AclRace.Explains (acl : Option Text) : Prop where
  before : ∀ entry ∈ aclEntries initial, entry ∈ aclEntries acl
  origin : ∀ entry ∈ aclEntries acl, entry ∈ aclEntries initial ∨
    ∃ client, state.stage client = .forwarded ∧ entry = aclString client

/-- So is the ACL of the container, and every ACL that a HEAD has shown. -/
structure AclRace.Explained : Prop where
  current : state.Explains initial aclString state.readAcl
  shown : ∀ client readAcl, state.stage client = .headed readAcl →
    state.Explains initial aclString readAcl

end Statements

omit [DecidableEq Client] in
theorem mem_aclEntries_new (readAcl : Option Text) {aclString : Text} (entry : Text)
    (filled : aclString ≠ []) (single : ',' ∉ aclString) :
    entry ∈ aclEntries (some (newReadAcl readAcl aclString)) ↔
      entry ∈ aclEntries readAcl ∨ entry = aclString := by
  have alone : aclEntries (some aclString) = [aclString] := by
    unfold aclEntries
    split
    · simp_all
    · simp_all
    · next acl _ same =>
      cases same
      exact List.splitOn_eq_singleton single
  unfold newReadAcl
  split
  · rw [alone]
    simp [aclEntries]
  · rw [alone]
    simp [aclEntries]
  · next acl _ =>
    cases acl with
    | nil => simp_all
    | cons c rest =>
      have parts : split ',' (c :: rest ++ ',' :: aclString) =
          split ',' (c :: rest) ++ split ',' aclString := List.splitOn_append_cons_self _ _
      have last : split ',' aclString = [aclString] := List.splitOn_eq_singleton single
      change entry ∈ split ',' (c :: rest ++ ',' :: aclString) ↔
        entry ∈ split ',' (c :: rest) ∨ _
      rw [parts, last, List.mem_append, List.mem_singleton]

@[simp] theorem enter_stage (state : AclRace Client) (client other : Client) (stage : PostStage) :
    (state.enter client stage).stage other = if other = client then stage else state.stage other :=
  rfl

@[simp] theorem enter_readAcl (state : AclRace Client) (client : Client) (stage : PostStage) :
    (state.enter client stage).readAcl = state.readAcl := rfl

section Steps

variable {initial : Option Text} {aclString : Client → Text}
variable (filled : ∀ client, aclString client ≠ []) (single : ∀ client, ',' ∉ aclString client)

/-- A POST that has been forwarded stays so. -/
theorem forwarded_step {state : AclRace Client} {other : Client} (client : Client)
    (done : state.stage other = .forwarded) :
    (raceStep aclString state client).stage other = .forwarded := by
  unfold raceStep
  split
  · next begun =>
    rw [enter_stage]
    split
    · next same => rw [same, begun] at done; cases done
    · exact done
  · change (state.enter client .forwarded).stage other = _
    rw [enter_stage]
    split
    · rfl
    · exact done
  · exact done

theorem explains_step {state : AclRace Client} {acl : Option Text} (client : Client)
    (explains : state.Explains initial aclString acl) :
    (raceStep aclString state client).Explains initial aclString acl := by
  constructor
  · exact explains.before
  · intro entry inside
    rcases explains.origin entry inside with first | ⟨other, done, same⟩
    · exact .inl first
    · exact .inr ⟨other, forwarded_step client done, same⟩

theorem raceStep_begun {state : AclRace Client} {client : Client}
    (stage : state.stage client = .begun) :
    raceStep aclString state client = state.enter client (.headed state.readAcl) := by
  rw [raceStep, stage]

theorem raceStep_headed {state : AclRace Client} {client : Client} {readAcl : Option Text}
    (stage : state.stage client = .headed readAcl) :
    raceStep aclString state client = { state.enter client .forwarded with
      readAcl := some (newReadAcl readAcl (aclString client)) } := by
  rw [raceStep, stage]

theorem raceStep_forwarded {state : AclRace Client} {client : Client}
    (stage : state.stage client = .forwarded) : raceStep aclString state client = state := by
  rw [raceStep, stage]

include filled single

theorem explained_step (state : AclRace Client) (client : Client)
    (explained : state.Explained initial aclString) :
    (raceStep aclString state client).Explained initial aclString := by
  have later {acl : Option Text} (explains : state.Explains initial aclString acl) :
      (raceStep aclString state client).Explains initial aclString acl :=
    explains_step client explains
  cases stage : state.stage client with
  | begun =>
    rw [raceStep_begun stage] at later ⊢
    constructor
    · exact later explained.current
    · intro other readAcl headed
      rw [enter_stage] at headed
      split at headed
      · cases headed
        exact later explained.current
      · exact later (explained.shown other readAcl headed)
  | headed readAcl =>
    rw [raceStep_headed stage] at later ⊢
    have made (entry : Text) := mem_aclEntries_new readAcl entry (filled client) (single client)
    have shown := later (explained.shown client readAcl stage)
    constructor
    · constructor
      · intro entry inside
        exact (made _).mpr (.inl (shown.before entry inside))
      · intro entry inside
        rcases (made _).mp inside with read | own
        · exact shown.origin entry read
        · refine .inr ⟨client, ?_, own⟩
          change (state.enter client .forwarded).stage client = _
          rw [enter_stage, if_pos rfl]
    · intro other readAcl headed
      change (state.enter client .forwarded).stage other = _ at headed
      rw [enter_stage] at headed
      split at headed
      · cases headed
      · exact later (explained.shown other readAcl headed)
  | forwarded => rwa [raceStep_forwarded stage]

theorem kept_step_iff {state : AclRace Client} (client : Client)
    (explained : state.Explained initial aclString) (kept : state.Kept initial aclString) :
    KeepsGrants initial aclString state client ↔ Undisturbed aclString state client := by
  unfold KeepsGrants Undisturbed
  cases stage : state.stage client with
  | begun =>
    rw [raceStep_begun stage]
    refine iff_of_true ⟨kept.before, ?_⟩ (fun _ headed => nomatch headed)
    intro other done
    rw [enter_stage] at done
    split at done
    · cases done
    · exact kept.granted other done
  | headed readAcl =>
    have made (entry : Text) := mem_aclEntries_new readAcl entry (filled client) (single client)
    have stays (other : Client) (done : state.stage other = .forwarded) :
        (raceStep aclString state client).stage other = .forwarded := forwarded_step client done
    rw [raceStep_headed stage] at stays ⊢
    constructor
    · rintro keeps _ ⟨⟩ entry inside
      rcases explained.current.origin entry inside with first | ⟨other, done, same⟩
      · exact .inl ((explained.shown client readAcl stage).before entry first)
      · exact (made _).mp (same ▸ keeps.granted other (stays other done))
    · intro undisturbed
      constructor
      · intro entry inside
        exact (made _).mpr (.inl ((explained.shown client readAcl stage).before entry inside))
      · intro other done
        apply (made _).mpr
        change (state.enter client .forwarded).stage other = _ at done
        rw [enter_stage] at done
        split at done
        · next same => exact .inr (congrArg aclString same)
        · exact undisturbed readAcl rfl _ (kept.granted other done)
  | forwarded =>
    rw [raceStep_forwarded stage]
    exact iff_of_true kept (fun _ headed => nomatch headed)

omit [DecidableEq Client] filled single in
theorem start_explained : (AclRace.start initial : AclRace Client).Explained initial aclString := by
  constructor
  · exact ⟨fun _ inside => inside, fun _ inside => .inl inside⟩
  · intro client readAcl headed
    cases headed

omit [DecidableEq Client] filled single in
theorem start_kept : (AclRace.start initial : AclRace Client).Kept initial aclString := by
  constructor
  · exact fun _ inside => inside
  · intro client done
    cases done

theorem keeps_grants_along_iff (schedule : List Client) :
    Along (raceStep aclString) (KeepsGrants initial aclString) (.start initial) schedule ↔
      Along (raceStep aclString) (Undisturbed aclString) (.start initial) schedule := by
  have keeps (state : AclRace Client) (client : Client)
      (inv : state.Explained initial aclString ∧ state.Kept initial aclString)
      (undisturbed : Undisturbed aclString state client) :
      (raceStep aclString state client).Explained initial aclString ∧
        (raceStep aclString state client).Kept initial aclString :=
    ⟨explained_step filled single state client inv.1,
      (kept_step_iff filled single client inv.1 inv.2).mpr undisturbed⟩
  have same (state : AclRace Client) (client : Client)
      (inv : state.Explained initial aclString ∧ state.Kept initial aclString) :=
    kept_step_iff filled single client inv.1 inv.2
  exact along_iff keeps same ⟨start_explained, start_kept⟩ schedule

theorem kept_of_undisturbed {schedule : List Client}
    (undisturbed : Along (raceStep aclString) (Undisturbed aclString) (.start initial) schedule) :
    (after (raceStep aclString) (.start initial) schedule).Kept initial aclString := by
  have next (state : AclRace Client) (client : Client) (_ : state.Kept initial aclString)
      (keeps : KeepsGrants initial aclString state client) :
      (raceStep aclString state client).Kept initial aclString := keeps
  exact Along.invariant next start_kept
    ((keeps_grants_along_iff filled single schedule).mpr undisturbed)

end Steps

/-- The ACL string of an accepted update is one entry. -/
theorem validateAclUpdate_entry {cleanAcl : Text → Except String Unit}
    {storletContainers : List Text} {container : Text} {headers : Headers} {aclString : Text}
    (accepted : validateAclUpdate cleanAcl storletContainers container headers = .ok aclString) :
    aclString ≠ [] ∧ ',' ∉ aclString := by
  obtain ⟨_, _, _, _, made, single⟩ := validateAclUpdate_ok accepted
  constructor
  · simp [made]
  · exact single

/-- A POST that is alone with its two requests. -/
theorem post_alone {cleanAcl : Text → Except String Unit} {storletContainers : List Text}
    {container : Text} {update : AclUpdate} {aclString : Client → Text} {client : Client}
    (accepted : validateAclUpdate cleanAcl storletContainers container update.headers =
      .ok (aclString client))
    (succeeds : update.headStatus = 204 ∧ update.taken) (initial : ContainerAcl) :
    (after (raceStep aclString) (.start initial.readAcl) [client, client]).readAcl =
      (post cleanAcl storletContainers container initial update).readAcl := by
  have headed : (raceStep aclString (.start initial.readAcl) client).stage client =
      .headed initial.readAcl := by
    rw [raceStep_begun rfl, enter_stage, if_pos rfl]
    rfl
  rw [after_cons, after_cons, after_nil, raceStep_headed headed, post, accepted]
  dsimp only
  rw [if_pos succeeds]

/-- Accepted updates keep what was in the ACL and what each of them granted, at every moment,
exactly if no entry comes between the HEAD and the POST of one of them. -/
theorem grants_kept_iff (cleanAcl : Text → Except String Unit) (storletContainers : List Text)
    (container : Text) (headers : Client → Headers) (aclString : Client → Text)
    (accepted : ∀ client, validateAclUpdate cleanAcl storletContainers container (headers client) =
      .ok (aclString client)) (initial : Option Text) (schedule : List Client) :
    (Along (raceStep aclString) (KeepsGrants initial aclString) (.start initial) schedule ↔
        Along (raceStep aclString) (Undisturbed aclString) (.start initial) schedule) ∧
      (Along (raceStep aclString) (Undisturbed aclString) (.start initial) schedule →
        let final := after (raceStep aclString) (.start initial) schedule
        (∀ client, final.stage client = .forwarded) →
          (∀ entry ∈ aclEntries initial, entry ∈ aclEntries final.readAcl) ∧
            ∀ client, aclString client ∈ aclEntries final.readAcl) := by
  have filled (client : Client) := (validateAclUpdate_entry (accepted client)).1
  have single (client : Client) := (validateAclUpdate_entry (accepted client)).2
  constructor
  · exact keeps_grants_along_iff filled single schedule
  · intro undisturbed final succeeded
    have kept := kept_of_undisturbed filled single undisturbed
    exact ⟨kept.before, fun client => kept.granted client (succeeded client)⟩

end Race

/-- Two users and a storlet. -/
def grantTo (toBob : Bool) : Headers :=
  .ofList [("X-Storlet-Container-Read", if toBob then "bob".toList else "amy".toList),
    ("X-Storlet-Name", "s".toList)]

def grantEntry (toBob : Bool) : Text :=
  if toBob then ".r:storlets.bob_s".toList else ".r:storlets.amy_s".toList

theorem grantTo_accepted (toBob : Bool) : validateAclUpdate (fun _ => .ok ()) ["storlet"] "c"
    (grantTo toBob) = .ok (grantEntry toBob) := by
  cases toBob <;> rfl

theorem one_after_the_other_kept :
    (Along (raceStep grantEntry) (KeepsGrants none grantEntry) (.start none)
          [false, false, true, true] ↔
        Along (raceStep grantEntry) (Undisturbed grantEntry) (.start none)
          [false, false, true, true]) ∧
      (Along (raceStep grantEntry) (Undisturbed grantEntry) (.start none)
          [false, false, true, true] →
        let final := after (raceStep grantEntry) (.start none) [false, false, true, true]
        (∀ client, final.stage client = .forwarded) →
          (∀ entry ∈ aclEntries none, entry ∈ aclEntries final.readAcl) ∧
            ∀ client, grantEntry client ∈ aclEntries final.readAcl) :=
  grants_kept_iff (fun _ => .ok ()) ["storlet"] "c" grantTo grantEntry grantTo_accepted none
    [false, false, true, true]

/-- Two updates that both read the ACL first: the later one drops what the other granted. -/
theorem overlapping_grant_lost : ¬ ∀ (cleanAcl : Text → Except String Unit)
    (storletContainers : List Text) (container : Text) (headers : Bool → Headers)
    (aclString : Bool → Text), (∀ client, validateAclUpdate cleanAcl storletContainers container
      (headers client) = .ok (aclString client)) →
    ∀ (initial : Option Text) (schedule : List Bool),
      let final := after (raceStep aclString) (.start initial) schedule
      (∀ client, final.stage client = .forwarded) →
        (∀ entry ∈ aclEntries initial, entry ∈ aclEntries final.readAcl) ∧
          ∀ client, aclString client ∈ aclEntries final.readAcl := by
  intro always
  have kept := (always (fun _ => .ok ()) ["storlet"] "c" grantTo grantEntry grantTo_accepted none
    [false, true, false, true] (by decide)).2 false
  revert kept
  decide

end Storlets
