import Storlets.Library.PosixPath

set_option autoImplicit false

/-!
# Paths as C sees them

A path is passed to C as its UTF-8 bytes. Each byte is one character here, so that such a path
is resolved like every other one.
-/

namespace PosixPath

open PyStr

def byteChar (byte : UInt8) : Char := Char.ofNat byte.toNat

def byteText (path : Text) : Text := (path.flatMap String.utf8EncodeChar).map byteChar

theorem byteChar_toNat (byte : UInt8) : (byteChar byte).toNat = byte.toNat := by
  have small : byte.toNat < 256 := byte.toNat_lt
  have valid : byte.toNat.isValidChar := .inl (by omega)
  rw [byteChar, Char.ofNat, dif_pos valid]
  rfl

@[simp] theorem byteText_nil : byteText [] = [] := rfl

@[simp] theorem byteText_append (front back : Text) :
    byteText (front ++ back) = byteText front ++ byteText back := by
  simp [byteText]

theorem byteText_cons (first : Char) (rest : Text) :
    byteText (first :: rest) = byteText [first] ++ byteText rest :=
  byteText_append [first] rest

theorem byteText_singleton_ascii {c : Char} (ascii : c.toNat < 128) : byteText [c] = [c] := by
  have one : String.utf8EncodeChar c = [UInt8.ofNat c.toNat] := if_pos (Nat.le_of_lt_succ ascii)
  have same : byteChar (UInt8.ofNat c.toNat) = c := by
    apply Char.toNat_inj.mp
    rw [byteChar_toNat, UInt8.toNat_ofNat']
    omega
  simp [byteText, one, same]

/-- The bytes of a character that is not ASCII are not ASCII. -/
theorem mem_utf8EncodeChar {c : Char} {byte : UInt8} (inside : byte ∈ String.utf8EncodeChar c)
    (ascii : byte.toNat < 128) : c.toNat = byte.toNat := by
  have value : c.val.toNat = c.toNat := rfl
  unfold String.utf8EncodeChar at inside
  dsimp only at inside
  split at inside
  · obtain rfl := List.mem_singleton.mp inside
    rw [UInt8.toNat_ofNat']
    omega
  · exfalso
    split at inside
    · simp only [List.mem_cons, List.not_mem_nil, or_false] at inside
      rcases inside with rfl | rfl <;> rw [UInt8.toNat_ofNat'] at ascii <;> omega
    · split at inside
      · simp only [List.mem_cons, List.not_mem_nil, or_false] at inside
        rcases inside with rfl | rfl | rfl <;> rw [UInt8.toNat_ofNat'] at ascii <;> omega
      · simp only [List.mem_cons, List.not_mem_nil, or_false] at inside
        rcases inside with rfl | rfl | rfl | rfl <;> rw [UInt8.toNat_ofNat'] at ascii <;> omega

theorem mem_byteText_ascii {c : Char} (ascii : c.toNat < 128) (path : Text) :
    c ∈ byteText path ↔ c ∈ path := by
  constructor
  · intro inside
    obtain ⟨byte, listed, same⟩ := List.mem_map.mp inside
    obtain ⟨other, there, part⟩ := List.mem_flatMap.mp listed
    have number : byte.toNat = c.toNat := by rw [← same, byteChar_toNat]
    have equal : other = c := Char.toNat_inj.mp
      ((mem_utf8EncodeChar part (number ▸ ascii)).trans number)
    exact equal ▸ there
  · intro inside
    obtain ⟨front, back, same⟩ := List.append_of_mem inside
    rw [same, byteText_append, byteText_cons, byteText_singleton_ascii ascii]
    simp

theorem byteText_injective : Function.Injective byteText := by
  intro one two same
  have chars : Function.Injective byteChar := by
    intro byte other equal
    have numbers := congrArg Char.toNat equal
    rw [byteChar_toNat, byteChar_toNat] at numbers
    exact UInt8.toNat_inj.mp numbers
  have bytes : one.flatMap String.utf8EncodeChar = two.flatMap String.utf8EncodeChar :=
    List.map_injective_iff.mpr chars same
  have encoded : one.utf8Encode = two.utf8Encode := congrArg List.toByteArray bytes
  have decoded := congrArg ByteArray.utf8Decode? encoded
  rw [List.utf8Decode?_utf8Encode, List.utf8Decode?_utf8Encode] at decoded
  exact List.toArray_inj (Option.some.inj decoded)

theorem byteText_eq_nil_iff (path : Text) : byteText path = [] ↔ path = [] :=
  byteText_injective.eq_iff (b := [])

theorem isAbsolute_byteText (path : Text) : isAbsolute (byteText path) = isAbsolute path := by
  cases path with
  | nil => rfl
  | cons first rest =>
    by_cases slash : first = '/'
    · subst slash
      rw [byteText_cons, byteText_singleton_ascii (by decide)]
      rfl
    · have filled : byteText [first] ≠ [] := by simp [byteText_eq_nil_iff]
      have segment (name : Text) (whole : name = [first]) : '/' ∉ name := by
        rw [whole]
        exact fun inside => slash (List.mem_singleton.mp inside).symm
      have bytes : '/' ∉ byteText [first] := by
        rw [mem_byteText_ascii (by decide)]
        exact segment _ rfl
      rw [byteText_cons, isAbsolute_append _ filled, not_isAbsolute bytes]
      exact ((isAbsolute_append rest (by simp)).trans (not_isAbsolute (segment _ rfl))).symm

theorem endsWith_slash (path : Text) : endsWith path "/" ↔ path.getLast? = some '/' := by
  rw [endsWith, List.isSuffixOf_iff_suffix]
  exact List.singleton_suffix_iff_getLast?_eq_some

theorem endsWith_byteText (path : Text) : endsWith (byteText path) "/" = endsWith path "/" := by
  rw [Bool.eq_iff_iff, endsWith_slash, endsWith_slash]
  rcases List.eq_nil_or_concat path with rfl | ⟨front, last, rfl⟩
  · rfl
  · rw [List.concat_eq_append, byteText_append, List.getLast?_append, List.getLast?_append]
    by_cases slash : last = '/'
    · subst slash
      rw [byteText_singleton_ascii (by decide)]
      simp
    · have bytes : '/' ∉ byteText [last] := by
        rw [mem_byteText_ascii (by decide), List.mem_singleton]
        exact fun same => slash same.symm
      have filled : byteText [last] ≠ [] := by simp [byteText_eq_nil_iff]
      obtain ⟨byte, ends⟩ := Option.isSome_iff_exists.mp (List.getLast?_isSome.mpr filled)
      have other : byte ≠ '/' := fun same => bytes (same ▸ List.mem_of_getLast? ends)
      simp [ends, other, slash]

/-- The bytes of a joined path are the joined bytes. -/
theorem byteText_join (front back : Text) :
    byteText (join front back) = join (byteText front) (byteText back) := by
  unfold join
  simp only [isAbsolute_byteText, endsWith_byteText, byteText_eq_nil_iff]
  split
  · rfl
  · split
    · rw [byteText_append]
    · rw [byteText_append, byteText_cons, byteText_singleton_ascii (by decide)]
      rfl

/-- What a path gets in front when it is joined to that one. -/
def joinFront (front : Text) : Text :=
  if front = [] ∨ endsWith front "/" then front else front ++ ['/']

theorem join_segment (front : Text) {name : Text} (segment : '/' ∉ name) :
    join front name = joinFront front ++ name := by
  unfold join joinFront
  rw [not_isAbsolute segment, if_neg Bool.false_ne_true]
  split
  · rfl
  · rw [List.append_assoc]
    rfl

end PosixPath
