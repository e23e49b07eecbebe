import Storlets.Library.Fallible
import Storlets.Sbus.Datagram

set_option autoImplicit false

/-!
# Datagrams in Java

`ServerSBusInDatagram` takes the same documents as the Python datagram. A cast of a value that
is not a string raises.
-/

namespace Storlets.Sbus

open PyStr Fallible

inductive JavaException where
  | classCast
  | nullPointer
  | indexOutOfBounds
  | numberFormat
  | storlet
  deriving DecidableEq

/-- The entries of a `HashMap<String, String>`; a value may be null. -/
abbrev HashMap := List (Text × Option Text)

def HashMap.get (map : HashMap) (key : Text) : Option Text := (map.lookup key).join

structure FileMetadata where
  storage : HashMap
  storlets : HashMap

structure ServerSBusInDatagram where
  /-- The descriptors, each with its metadata where there is one. -/
  files : List (Nat × Option FileMetadata)
  command : Option Text
  params : HashMap
  taskId : Option Text

def castString : Json → Except JavaException (Option Text)
  | .str s => .ok (some s)
  | .null => .ok none
  | _ => .error .classCast

/-- A cast to `JSONObject`, and the first call of a method of it. -/
def castObject : Json → Except JavaException (List (Text × Json))
  | .obj fields => .ok fields
  | .null => .error .nullPointer
  | _ => .error .classCast

def castArray : Json → Except JavaException (List Json)
  | .arr items => .ok items
  | .null => .error .nullPointer
  | _ => .error .classCast

def populateMetadata (source : List (Text × Json)) : Except JavaException HashMap :=
  source.mapM fun (key, _) => do
    let value ← castString ((source.lookup key).getD .null)
    return (key, value)

/-- The entry under a key that need not be there. -/
def populateEntry (source : List (Text × Json)) (key : Text) : Except JavaException HashMap :=
  match source.lookup key with
  | none => .ok []
  | some value => do populateMetadata (← castObject value)

def fileMetadata (metadict : Json) : Except JavaException FileMetadata := do
  let fields ← castObject metadict
  let storage ← populateEntry fields "storage"
  let storlets ← populateEntry fields "storlets"
  return { storage, storlets }

def serverSBusInDatagram (fds : List Nat) (metadata cmdParams : Json) :
    Except JavaException ServerSBusInDatagram := do
  let fields ← castObject cmdParams
  let command ← castString ((fields.lookup "command".toList).getD .null)
  let params ← populateEntry fields "params"
  let taskId ← castString ((fields.lookup "task_id".toList).getD .null)
  let items ← castArray metadata
  if fds.length < items.length then throw .indexOutOfBounds
  else
    let metadata ← items.mapM fileMetadata
    let padding := List.replicate (fds.length - items.length) none
    return { files := fds.zip (metadata.map some ++ padding), command, params, taskId }

/-! ## Strings only -/

/-- A document that is an object with strings for values. -/
def StringMap (value : Json) : Prop :=
  ∃ fields : List (Text × Json), value = .obj fields ∧ ∀ field ∈ fields, ∃ s, field.2 = .str s

theorem lookup_isText {fields : List (Text × Json)} (texts : ∀ field ∈ fields, ∃ s, field.2 = .str s)
    {key : Text} {value : Json} (found : fields.lookup key = some value) : ∃ s, value = .str s := by
  induction fields with
  | nil => cases found
  | cons field rest ih =>
    obtain ⟨here, later⟩ := List.forall_mem_cons.mp texts
    obtain ⟨other, item⟩ := field
    rw [List.lookup_cons] at found
    split at found
    · cases found
      exact here
    · exact ih later found

theorem lookup_map_keys {V W : Type} (fields : List (Text × V)) (value : Text → W) (key : Text) :
    (fields.map fun field => (field.1, value field.1)).lookup key =
      (fields.lookup key).map fun _ => value key := by
  induction fields with
  | nil => rfl
  | cons field rest ih =>
    obtain ⟨other, item⟩ := field
    rw [List.map_cons, List.lookup_cons, List.lookup_cons, ih]
    cases same : key == other with
    | true => simp [eq_of_beq same]
    | false => rfl

theorem textItem_obj (fields : List (Text × Json)) (key : Text) :
    textItem (.obj fields) key = match fields.lookup key with
      | some (.str s) => some s
      | _ => none := by
  simp only [textItem, getItem]
  cases fields.lookup key with
  | none => rfl
  | some value => cases value <;> rfl

theorem populateMetadata_strings {fields : List (Text × Json)}
    (texts : ∀ field ∈ fields, ∃ s, field.2 = .str s) :
    ∃ map, populateMetadata fields = .ok map ∧
      ∀ key, HashMap.get map key = textItem (.obj fields) key := by
  let value (key : Text) : Option Text := textItem (.obj fields) key
  refine ⟨fields.map fun field => (field.1, value field.1), ?_, ?_⟩
  · apply mapM_of_forall
    intro field inside
    obtain ⟨s, found⟩ : ∃ s, fields.lookup field.1 = some (.str s) := by
      obtain ⟨item, found⟩ : ∃ item, fields.lookup field.1 = some item := by
        by_contra absent
        have missing : fields.lookup field.1 = none := by
          simpa [Option.eq_none_iff_forall_ne_some] using absent
        have differs := List.lookup_eq_none_iff.mp missing field inside
        simp at differs
      obtain ⟨s, same⟩ := lookup_isText texts found
      exact ⟨s, same ▸ found⟩
    simp [value, textItem_obj, found, castString, bind, Except.bind, pure, Except.pure]
  · intro key
    rw [HashMap.get, lookup_map_keys]
    change _ = value key
    cases found : fields.lookup key <;> simp [value, textItem_obj, found]

end Storlets.Sbus
