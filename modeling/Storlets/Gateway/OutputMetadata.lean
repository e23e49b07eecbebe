import Storlets.Library.JsonCut
import Storlets.Sbus.Transport

set_option autoImplicit false

/-!
# The metadata of the output

A storlet writes a JSON text to a pipe, and the gateway reads the pipe once.
-/

namespace Storlets

open PyStr Sbus

def maxMetadataSize : Nat := 4096

/-- `_read_metadata`, when these bytes have been written to the pipe. The text starts with an ASCII
character, so that `json.loads` takes it for UTF-8. -/
def readOutputMetadata (limits : Json.Limits) (written : List UInt8) : Except Text Json :=
  match (decodeUtf8 (written.take maxMetadataSize)).bind (Json.loads limits) with
  | some md => .ok md
  | none => .error "Got invalid format about metadata"

/-- The map as `json.loads` may give it, in any order. -/
def IsMap (md : Dict Text) (fields : List (Text × Json)) : Prop :=
  ∀ key, fields.lookup key = (md.items.lookup key).map Json.str

/-- The text that `set_metadata` writes: a JSON text of the map. -/
structure MetadataWriter (limits : Json.Limits) where
  text : Dict Text → Text
  loads : ∀ md, ∃ fields, Json.loads limits (text md) = some (.obj fields) ∧ IsMap md fields
  opens : ∀ md, ∃ rest, text md = '\x7b' :: rest
  closes : ∀ md, (text md).getLast? = some '\x7d'

/-- `StorletOutputFile.set_metadata`. -/
def storletOutputFile (limits : Json.Limits) (deep : 0 < limits.depth) : MetadataWriter limits where
  text md := Json.dumps (textMap md)
  loads md := by
    refine ⟨textFields md.items, ?_, lookup_textFields md.items⟩
    have nests := textMap_nests md (limits.depth - 1)
    rw [Nat.sub_add_cancel deep] at nests
    exact Json.loads_dumps limits (textMap_textual md) nests
  opens md := ⟨_, rfl⟩
  closes md := by
    rw [textMap, Json.dumps]
    exact List.getLast?_concat

section Reading

variable {limits : Json.Limits} (writer : MetadataWriter limits) (md : Dict Text)

def MetadataWriter.bytes : List UInt8 := encodeUtf8 (writer.text md)

/-- The gateway gets the map, when so many bytes have been written as it reads. -/
def ReachesGateway (available : Nat) : Prop :=
  ∃ fields, readOutputMetadata limits ((writer.bytes md).take available) = .ok (.obj fields) ∧
    IsMap md fields

end Reading

/-- What is decoded of the first bytes of a text begins the text. -/
theorem decodeUtf8_take {text cut : Text} {size : Nat}
    (decoded : decodeUtf8 ((encodeUtf8 text).take size) = some cut) :
    cut <+: text ∧ encodeUtf8 cut = (encodeUtf8 text).take size := by
  obtain ⟨chars, read, same⟩ := Option.map_eq_some_iff.mp decoded
  have encoded : cut.utf8Encode = ((encodeUtf8 text).take size).toByteArray := by
    rw [← same]
    have back := ByteArray.utf8Encode_get_utf8Decode? (h := Option.isSome_of_eq_some read)
    rwa [Option.get_of_eq_some _ read] at back
  constructor
  · apply List.isPrefix_of_utf8Encode_append_eq_utf8Encode ((encodeUtf8 text).drop size).toByteArray
    rw [encoded, ← List.toByteArray_append, List.take_append_drop]
    rfl
  · have bytes := congrArg (fun array : ByteArray => array.data.toList) encoded
    simpa [List.utf8Encode, encodeUtf8] using bytes

/-- Characters that `json.dumps` writes for one. -/
def charSize (c : Char) : Nat :=
  if (Json.shortEscape? c).isSome then 2
  else if 32 ≤ c.toNat ∧ c.toNat < 127 then 1
  else if c.toNat < 0x10000 then 6
  else 12

def textSize (text : Text) : Nat := (text.map charSize).sum

/-- Size of the JSON text of a map. Quotes, a colon and a separator come with each item. -/
def mapSize (md : Dict Text) : Nat :=
  match md.items with
  | [] => 2
  | items => (items.map fun item => textSize item.1 + textSize item.2 + 8).sum

theorem length_escapeChar (c : Char) : (Json.escapeChar c).length = charSize c := by
  unfold Json.escapeChar charSize
  cases Json.shortEscape? c with
  | some e => rfl
  | none =>
    simp only [Option.isSome_none, Bool.false_eq_true, if_false]
    split_ifs <;> simp [Json.unicodeEscape]

theorem length_quote (text : Text) : (Json.quote text).length = textSize text + 2 := by
  have escaped : (text.flatMap Json.escapeChar).length = textSize text := by
    rw [List.length_flatMap, textSize]
    simp [length_escapeChar]
  rw [Json.quote, List.length_append, List.length_cons, escaped]
  rfl

theorem length_joined (first : Text) (rest : List Text) :
    (Json.joined (first :: rest)).length + 2 =
      ((first :: rest).map fun text => text.length + 2).sum := by
  induction rest generalizing first with
  | nil => simp [Json.joined]
  | cons next others ih =>
    have split : Json.joined (first :: next :: others) =
        first ++ ", ".toList ++ Json.joined (next :: others) := by
      simp [Json.joined, List.intercalate_cons_cons]
    rw [split, List.map_cons, List.sum_cons, ← ih]
    simp only [List.length_append]
    have comma : ", ".toList.length = 2 := rfl
    omega

theorem length_field (item : Text × Text) :
    (Json.quote item.1 ++ ':' :: ' ' :: Json.dumps (.str item.2)).length + 2 =
      textSize item.1 + textSize item.2 + 8 := by
  have value : Json.dumps (.str item.2) = Json.quote item.2 := by
    rw [Json.dumps, Json.dumpAtom] <;> simp
  rw [value, List.length_append, List.length_cons, List.length_cons, length_quote, length_quote]
  omega

theorem length_textMap (md : Dict Text) : (Json.dumps (textMap md)).length = mapSize md := by
  rw [textMap, Json.dumps, Json.dumpFields_eq, textFields, List.map_map, mapSize]
  rcases md.items with _ | ⟨first, rest⟩
  · rfl
  · have sizes := length_joined (Json.quote first.1 ++ ':' :: ' ' :: Json.dumps (.str first.2))
      (rest.map fun item => Json.quote item.1 ++ ':' :: ' ' :: Json.dumps (.str item.2))
    rw [← List.map_cons (f := fun item : Text × Text =>
      Json.quote item.1 ++ ':' :: ' ' :: Json.dumps (.str item.2)), List.map_map] at sizes
    -- the braces take the place of the separator that the last item lacks
    have braces : ∀ inside : Text, ('\x7b' :: inside ++ ['\x7d']).length = inside.length + 2 := by
      simp
    rw [braces]
    refine sizes.trans (congrArg List.sum (List.map_congr_left fun item _ => ?_))
    exact length_field item

/-- The text is ASCII, one byte a character. -/
theorem length_storletOutputFile {limits : Json.Limits} (deep : 0 < limits.depth) (md : Dict Text) :
    ((storletOutputFile limits deep).bytes md).length = mapSize md := by
  rw [← length_textMap]
  exact (encodeUtf8_ascii (Json.dumps_ascii (textMap_textual md))).1

theorem reachesGateway_iff {limits : Json.Limits} (writer : MetadataWriter limits) (md : Dict Text)
    (available : Nat) :
    ReachesGateway writer md available ↔
      (writer.bytes md).length ≤ min available maxMetadataSize := by
  have read : ((writer.bytes md).take available).take maxMetadataSize =
      (encodeUtf8 (writer.text md)).take (min available maxMetadataSize) := by
    rw [List.take_take, Nat.min_comm]
    rfl
  obtain ⟨fields, loaded, same⟩ := writer.loads md
  constructor
  · rintro ⟨got, reads, _⟩
    by_contra short
    rw [readOutputMetadata, read] at reads
    rcases decoded : decodeUtf8 ((encodeUtf8 (writer.text md)).take (min available maxMetadataSize))
      with _ | cut
    · simp [decoded] at reads
    · obtain ⟨begins, bytes⟩ := decodeUtf8_take decoded
      have differs : cut ≠ writer.text md := by
        rintro rfl
        have lengths := congrArg List.length bytes
        rw [List.length_take] at lengths
        have cutOff : ¬ (encodeUtf8 (writer.text md)).length ≤ min available maxMetadataSize := short
        omega
      have nothing := Json.loads_cut (Option.isSome_of_eq_some loaded) (writer.opens md)
        (writer.closes md) begins differs
      simp [decoded, nothing] at reads
  · intro whole
    refine ⟨fields, ?_, same⟩
    have uncut : (encodeUtf8 (writer.text md)).take (min available maxMetadataSize) =
        encodeUtf8 (writer.text md) := List.take_of_length_le whole
    rw [readOutputMetadata, read, uncut, decodeUtf8_encodeUtf8, Option.bind_some, loaded]

/-- The limits of Swift on the metadata of an object. -/
structure WithinSwiftLimits (md : Dict Text) : Prop where
  items : md.items.length ≤ 90
  names : ∀ item ∈ md.items, (encodeUtf8 item.1).length ≤ 128
  values : ∀ item ∈ md.items, (encodeUtf8 item.2).length ≤ 256
  total : (md.items.map fun item =>
    (encodeUtf8 item.1).length + (encodeUtf8 item.2).length).sum ≤ 4096

/-- Three values of control characters, six characters of JSON each. -/
def controlValues : Dict Text where
  items := ["a", "b", "c"].map fun name => (name.toList, List.replicate 256 '\x01')
  distinct := by decide

theorem controlValues_within : WithinSwiftLimits controlValues := by
  have one : encodeUtf8 ['\x01'] = [1] := by decide
  have value : (encodeUtf8 (List.replicate 256 '\x01')).length = 256 := by
    rw [encodeUtf8, List.length_flatMap, List.map_replicate, List.sum_replicate]
    rfl
  constructor
  · decide
  · decide
  · intro item inside
    simp only [controlValues, List.map_cons, List.map_nil, List.mem_cons, List.not_mem_nil,
      or_false] at inside
    rcases inside with rfl | rfl | rfl <;> exact value.le
  · simp only [controlValues, List.map_cons, List.map_nil, value]
    decide

/-- The gateway reads 4096 bytes at most: it gets the map that was set when the JSON text is not
longer and has been written as it reads. What Python writes is measured. -/
theorem metadata_whole_iff {limits : Json.Limits} (deep : 0 < limits.depth) :
    (∀ (writer : MetadataWriter limits) (md : Dict Text) (available : Nat),
      ReachesGateway writer md available ↔
        (writer.bytes md).length ≤ min available maxMetadataSize) ∧
    ∀ (md : Dict Text) (available : Nat),
      ReachesGateway (storletOutputFile limits deep) md available ↔
        mapSize md ≤ min available maxMetadataSize := by
  constructor
  · exact reachesGateway_iff
  · intro md available
    rw [reachesGateway_iff, length_storletOutputFile]

def oneValue : Dict Text := ⟨[("k".toList, "v".toList)], by decide⟩

theorem oneValue_reaches :
    ReachesGateway (storletOutputFile ⟨1000, 4300⟩ (by decide)) oneValue 10 :=
  ((metadata_whole_iff (by decide : 0 < Json.Limits.depth ⟨1000, 4300⟩)).2 oneValue 10).mpr
    (by decide)

theorem controlValues_cut :
    ¬ ∀ md : Dict Text, WithinSwiftLimits md →
      ReachesGateway (storletOutputFile ⟨1000, 4300⟩ (by decide)) md (mapSize md) := by
  intro reaches
  have whole := reaches controlValues controlValues_within
  rw [reachesGateway_iff, length_storletOutputFile] at whole
  have value : textSize (List.replicate 256 '\x01') = 1536 := by
    rw [textSize, List.map_replicate, List.sum_replicate]
    rfl
  have size : mapSize controlValues = 4635 := by
    simp only [mapSize, controlValues, List.map_cons, List.map_nil, value]
    decide
  have limit : maxMetadataSize = 4096 := rfl
  omega

end Storlets
