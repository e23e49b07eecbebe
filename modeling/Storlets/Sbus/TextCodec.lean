import Storlets.Sbus.Datagram
import Storlets.Library.Fallible
import Storlets.Library.JsonText

set_option autoImplicit false

/-!
# The texts of a datagram

The type of a descriptor travels inside its metadata, and what is falsy is left out.
-/

namespace Storlets.Sbus

open PyStr Fallible

/-- What `__init__` makes of metadata without the key `type`. -/
structure SBusFileDescriptor.Initialised (sfd : SBusFileDescriptor) : Prop where
  untyped : "type".toList ∉ sfd.storletsMetadata.map Prod.fst
  storage : ∃ given, sfd.storageMetadata = Json.orEmpty given

def Json.orNone (value : Json) : Json := if Json.truthy value then value else .null

section Depth

/-- A value nests as deep as its deepest part. -/
theorem exists_depth_of_parts {α : Type} {fits : Nat → α → Prop} {parts : List α}
    (each : ∀ part ∈ parts, ∃ depth, ∀ deeper, depth ≤ deeper → fits deeper part) :
    ∃ depth, ∀ deeper, depth ≤ deeper → ∀ part ∈ parts, fits deeper part := by
  induction parts with
  | nil => exact ⟨0, by simp⟩
  | cons part rest ih =>
    obtain ⟨here, later⟩ := List.forall_mem_cons.mp each
    obtain ⟨own, fitsOwn⟩ := here
    obtain ⟨others, fitsOthers⟩ := ih later
    refine ⟨max own others, ?_⟩
    intro deeper deep
    exact List.forall_mem_cons.mpr ⟨fitsOwn deeper (by omega), fitsOthers deeper (by omega)⟩

theorem exists_depth : (value : Json) →
    ∃ depth, ∀ deeper, depth ≤ deeper → Json.nestsWithin deeper value = true
  | .arr items => by
      have each : ∀ item ∈ items,
          ∃ depth, ∀ deeper, depth ≤ deeper → Json.nestsWithin deeper item = true :=
        fun item _ => exists_depth item
      obtain ⟨depth, fits⟩ := exists_depth_of_parts each
      refine ⟨depth + 1, ?_⟩
      rintro (_ | deeper) deep
      · omega
      · simpa [Json.nestsWithin] using fits deeper (by omega)
  | .obj fields => by
      have each : ∀ field ∈ fields,
          ∃ depth, ∀ deeper, depth ≤ deeper → Json.nestsWithin deeper field.2 = true :=
        fun field _ => exists_depth field.2
      obtain ⟨depth, fits⟩ := exists_depth_of_parts each
      refine ⟨depth + 1, ?_⟩
      rintro (_ | deeper) deep
      · omega
      · simpa [Json.nestsWithin] using fits deeper (by omega)
  | .null | .bool _ | .int _ | .float | .str _ => ⟨0, fun deeper _ => by
      cases deeper <;> rfl⟩
termination_by value => sizeOf value
decreasing_by
  · have := List.sizeOf_lt_of_mem ‹_ ∈ items›
    simp
    omega
  · have := List.sizeOf_lt_of_mem ‹_ ∈ fields›
    have : sizeOf field.2 < sizeOf field := by
      cases field
      simp
    simp
    omega

end Depth

section Descriptor

variable {interpreter : Interpreter} {sfd : SBusFileDescriptor}

theorem popType_append {fields : List (Text × Json)}
    (untyped : "type".toList ∉ fields.map Prod.fst) (fdtype : Json) :
    popType (.obj (fields ++ [("type".toList, fdtype)])) = .ok (fdtype, fields) := by
  have others : ∀ field ∈ fields, field.1 ≠ "type".toList :=
    fun field inside same => untyped (same ▸ List.mem_map_of_mem inside)
  have absent : fields.lookup "type".toList = none := by
    apply List.lookup_eq_none_iff.mpr
    intro field inside
    simpa using (others field inside).symm
  have found : (fields ++ [("type".toList, fdtype)]).lookup "type".toList = some fdtype := by
    rw [List.lookup_append, absent]
    rfl
  have kept : (fields ++ [("type".toList, fdtype)]).filter
      (fun field => field.1 ≠ "type".toList) = fields := by
    have same : fields.filter (fun field => field.1 ≠ "type".toList) = fields :=
      List.filter_eq_self.mpr fun field inside => decide_eq_true (others field inside)
    rw [List.filter_append, same]
    exact List.append_nil _
  rw [popType, found]
  dsimp only
  rw [kept]

theorem orEmpty_orEmpty (value : Json) : Json.orEmpty (Json.orEmpty value) = Json.orEmpty value := by
  unfold Json.orEmpty
  split <;> rfl

theorem SBusFileDescriptor.Initialised.decodes (made : sfd.Initialised)
    (copies : Json.nestsWithin interpreter.copyDepth sfd.metadata = true) (fileno : Nat) :
    fromFilenoAndMetadataDict interpreter fileno sfd.metadata = .ok { sfd with fileno } := by
  obtain ⟨given, storage⟩ := made.storage
  have written : sfd.metadata =
      .obj [("storlets", .obj (sfd.storletsMetadata ++ [("type".toList, sfd.fdtype)])),
        ("storage", sfd.storageMetadata)] := by
    rw [SBusFileDescriptor.metadata, PyDict.setItem_absent made.untyped]
  unfold fromFilenoAndMetadataDict
  rw [deepcopy, if_pos copies]
  change (getItem sfd.metadata "storlets" >>= fun storletsMetadata =>
    getItem sfd.metadata "storage" >>= fun storageMetadata =>
      popType storletsMetadata >>= fun popped =>
        Except.ok (SBusFileDescriptor.mk popped.1 fileno popped.2
          (Json.orEmpty storageMetadata))) = _
  rw [written]
  change (popType (.obj (sfd.storletsMetadata ++ [("type".toList, sfd.fdtype)])) >>=
    fun popped => Except.ok (SBusFileDescriptor.mk popped.1 fileno popped.2
      (Json.orEmpty sfd.storageMetadata))) = _
  rw [popType_append made.untyped, storage]
  change Except.ok _ = Except.ok _
  rw [orEmpty_orEmpty, ← storage]

end Descriptor

section Parameters

variable (dtg : SBusDatagram)

theorem cmdParams_command : dictGet dtg.cmdParams "command" = .ok dtg.command := rfl

theorem cmdParams_params : dictGet dtg.cmdParams "params" = .ok (Json.orNone dtg.params) := by
  unfold SBusDatagram.cmdParams Json.orNone
  cases Json.truthy dtg.params with
  | true => rfl
  | false => cases Json.truthy dtg.taskId <;> rfl

theorem cmdParams_taskId : dictGet dtg.cmdParams "task_id" = .ok (Json.orNone dtg.taskId) := by
  unfold SBusDatagram.cmdParams Json.orNone
  cases Json.truthy dtg.params <;> cases Json.truthy dtg.taskId <;> rfl

end Parameters

theorem checkRequiredFdtypes_map {change : SBusFileDescriptor → SBusFileDescriptor}
    (keeps : ∀ sfd, (change sfd).fdtype = sfd.fdtype) (sfds : List SBusFileDescriptor)
    (required : List Text) :
    checkRequiredFdtypes (sfds.map change) required = checkRequiredFdtypes sfds required := by
  induction sfds generalizing required with
  | nil => rfl
  | cons sfd rest ih =>
    cases required with
    | nil => rfl
    | cons name required => rw [List.map_cons, checkRequiredFdtypes, checkRequiredFdtypes, keeps, ih]

theorem buildDatagram_map (change : SBusFileDescriptor → SBusFileDescriptor)
    (keeps : ∀ sfd, (change sfd).fdtype = sfd.fdtype) {command params taskId : Json}
    {sfds : List SBusFileDescriptor} {built : SBusDatagram}
    (builds : buildDatagram command sfds params taskId = .ok built) (params' taskId' : Json) :
    buildDatagram command (sfds.map change) params' taskId' =
      .ok { command, sfds := sfds.map change, params := params', taskId := taskId' } := by
  unfold buildDatagram at builds ⊢
  dsimp only at builds ⊢
  rw [checkRequiredFdtypes_map keeps, ← List.map_drop, List.any_map]
  have same : ((fun sfd => !Json.is sfd.fdtype "SBUS_FD_INPUT_OBJECT") ∘ change) =
      fun sfd => !Json.is sfd.fdtype "SBUS_FD_INPUT_OBJECT" := by
    funext sfd
    simp [keeps]
  rw [same]
  split_ifs at builds ⊢
  rfl

theorem buildDatagram_eq {command params taskId : Json} {sfds : List SBusFileDescriptor}
    {built : SBusDatagram} (builds : buildDatagram command sfds params taskId = .ok built) :
    built = { command, sfds, params, taskId } := by
  unfold buildDatagram at builds
  dsimp only at builds
  split_ifs at builds
  exact (Except.ok.inj builds).symm

/-- A datagram is built again of its texts, with the numbers that its descriptors have by then. -/
theorem SBusDatagram.decodes {interpreter : Interpreter} {dtg built : SBusDatagram}
    {strMd strCmdParams : Text}
    (loadsMetadata : loads interpreter strMd = .ok dtg.metadata)
    (loadsParams : loads interpreter strCmdParams = .ok dtg.cmdParams)
    (made : ∀ sfd ∈ dtg.sfds, sfd.Initialised)
    (copies : ∀ sfd ∈ dtg.sfds, Json.nestsWithin interpreter.copyDepth sfd.metadata = true)
    (builds : buildDatagram dtg.command dtg.sfds dtg.params dtg.taskId = .ok built)
    (numberOf : Nat → Nat) :
    buildDatagramFromRawMessage interpreter (dtg.fds.map numberOf) strMd strCmdParams =
      .ok { dtg with
        sfds := dtg.sfds.map fun sfd => { sfd with fileno := numberOf sfd.fileno }
        params := Json.orNone dtg.params
        taskId := Json.orNone dtg.taskId } := by
  have each : ((dtg.fds.map numberOf).zip (dtg.sfds.map SBusFileDescriptor.metadata)).mapM
      (fun pair => fromFilenoAndMetadataDict interpreter pair.1 pair.2) =
        .ok (dtg.sfds.map fun sfd => { sfd with fileno := numberOf sfd.fileno }) := by
    rw [SBusDatagram.fds, List.map_map, List.zip_map', List.mapM_map]
    exact mapM_of_forall fun sfd inside => (made sfd inside).decodes (copies sfd inside) _
  have iterates : iterate dtg.metadata = .ok (dtg.sfds.map SBusFileDescriptor.metadata) := rfl
  have same : (dtg.fds.map numberOf).length = (dtg.sfds.map SBusFileDescriptor.metadata).length := by
    simp [SBusDatagram.fds]
  simp only [buildDatagramFromRawMessage, loadsMetadata, loadsParams, cmdParams_command,
    cmdParams_params, cmdParams_taskId, iterates, same, each, bind, Except.bind, ne_eq,
    not_true_eq_false, if_false]
  exact buildDatagram_map (fun sfd => { sfd with fileno := numberOf sfd.fileno }) (fun _ => rfl)
    builds _ _

/-- The texts of every datagram are decoded to it, where the stack has room to copy its metadata;
an empty value comes back as none. -/
theorem texts_round_trip {command params taskId : Json} {sfds : List SBusFileDescriptor}
    {dtg : SBusDatagram} (accepted : buildDatagram command sfds params taskId = .ok dtg)
    (made : ∀ sfd ∈ sfds, sfd.Initialised) :
    ∃ depth, ∀ (interpreter : Interpreter) (dumps : Json → Text),
      depth ≤ interpreter.copyDepth →
      loads interpreter (dumps dtg.metadata) = .ok dtg.metadata →
      loads interpreter (dumps dtg.cmdParams) = .ok dtg.cmdParams →
      buildDatagramFromRawMessage interpreter dtg.fds (dumps dtg.metadata) (dumps dtg.cmdParams) =
        .ok { dtg with
          params := Json.orNone dtg.params
          taskId := Json.orNone dtg.taskId } := by
  have same := buildDatagram_eq accepted
  have each : ∀ sfd ∈ sfds,
      ∃ depth, ∀ deeper, depth ≤ deeper → Json.nestsWithin deeper sfd.metadata = true :=
    fun sfd _ => exists_depth sfd.metadata
  obtain ⟨depth, fits⟩ := exists_depth_of_parts each
  refine ⟨depth, ?_⟩
  intro interpreter dumps deep loadsMetadata loadsParams
  subst same
  have decoded := SBusDatagram.decodes loadsMetadata loadsParams made (fits _ deep) accepted id
  simpa using decoded

/-- `SBUS_CMD_CANCEL` for a task. -/
def cancelDatagram : SBusDatagram where
  command := .str "SBUS_CMD_CANCEL".toList
  sfds := [⟨.str "SBUS_FD_SERVICE_OUT".toList, 3, [], .obj []⟩]
  params := .null
  taskId := .str "42".toList

theorem cancel_round_trips : ∃ interpreter, buildDatagramFromRawMessage interpreter [3]
    (Json.dumps cancelDatagram.metadata) (Json.dumps cancelDatagram.cmdParams) =
      .ok cancelDatagram := by
  have accepted : buildDatagram cancelDatagram.command cancelDatagram.sfds cancelDatagram.params
      cancelDatagram.taskId = .ok cancelDatagram := rfl
  have made : ∀ sfd ∈ cancelDatagram.sfds, sfd.Initialised := by
    intro sfd inside
    rw [List.mem_singleton.mp inside]
    exact ⟨by decide, .obj [], rfl⟩
  obtain ⟨depth, codec⟩ := texts_round_trip accepted made
  have metadata : Json.Textual cancelDatagram.metadata := by
    refine .arr _ fun item inside => ?_
    rw [List.mem_singleton.mp inside]
    refine .obj _ (by decide) fun field within => ?_
    rcases List.mem_pair.mp within with rfl | rfl
    · refine .obj _ (by decide) fun field within => ?_
      rw [List.mem_singleton.mp within]
      exact .str _
    · exact .obj _ (by decide) (by simp)
  have cmdParams : Json.Textual cancelDatagram.cmdParams := by
    refine .obj _ (by decide) fun field within => ?_
    rcases List.mem_pair.mp within with rfl | rfl
    · exact .str _
    · exact .str _
  refine ⟨⟨⟨3, 0⟩, depth, fun _ => false⟩, codec _ Json.dumps (Nat.le_refl _) ?_ ?_⟩
  · rw [loads, Json.loads_dumps _ metadata rfl]
  · rw [loads, Json.loads_dumps _ cmdParams rfl]

end Storlets.Sbus
