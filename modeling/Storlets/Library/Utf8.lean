import Storlets.Library.PyStr

set_option autoImplicit false

/-!
# UTF-8 with replacement

A decoder that starts in the middle of a character gives U+FFFD for each of its bytes that are left.
-/

namespace Utf8

open PyStr

def encode (text : Text) : List UInt8 := text.flatMap String.utf8EncodeChar

/-- A decoder that replaces each maximal ill-formed part. -/
def decode (bytes : List UInt8) : Text := decodeReplacing (bytes.map UInt8.toNat)

/-- A byte that is not the first one of a character. -/
def continues (byte : UInt8) : Bool := isContinuation byte.toNat

/-- How many bytes of a character that started before come first. -/
def stray (bytes : List UInt8) : Nat := (bytes.takeWhile continues).length

def units (c : Char) : List Nat := (String.utf8EncodeChar c).map UInt8.toNat

theorem toNat_range (c : Char) :
    c.toNat < 1114112 ∧ ¬ (55296 ≤ c.toNat ∧ c.toNat < 57344) := by
  have valid := c.valid
  have value : c.val.toNat = c.toNat := rfl
  unfold UInt32.isValidChar Nat.isValidChar at valid
  omega

theorem units_cases (c : Char) :
    (c.toNat < 128 ∧ units c = [c.toNat]) ∨
    (128 ≤ c.toNat ∧ c.toNat < 2048 ∧ units c = [c.toNat / 64 + 192, c.toNat % 64 + 128]) ∨
    (2048 ≤ c.toNat ∧ c.toNat < 65536 ∧
      units c = [c.toNat / 4096 + 224, c.toNat / 64 % 64 + 128, c.toNat % 64 + 128]) ∨
    (65536 ≤ c.toNat ∧ units c = [c.toNat / 262144 + 240, c.toNat / 4096 % 64 + 128,
      c.toNat / 64 % 64 + 128, c.toNat % 64 + 128]) := by
  have value : c.val.toNat = c.toNat := rfl
  have range := (toNat_range c).1
  unfold units String.utf8EncodeChar
  dsimp only
  rw [value]
  -- the cases of the encoder, by the length
  split
  · refine .inl ⟨by omega, ?_⟩
    simp only [List.map_cons, List.map_nil, UInt8.toNat_ofNat', List.cons.injEq, and_true]
    omega
  · split
    · refine .inr (.inl ⟨by omega, by omega, ?_⟩)
      simp only [List.map_cons, List.map_nil, UInt8.toNat_ofNat', List.cons.injEq, and_true]
      omega
    · split
      · refine .inr (.inr (.inl ⟨by omega, by omega, ?_⟩))
        simp only [List.map_cons, List.map_nil, UInt8.toNat_ofNat', List.cons.injEq, and_true]
        omega
      · refine .inr (.inr (.inr ⟨by omega, ?_⟩))
        simp only [List.map_cons, List.map_nil, UInt8.toNat_ofNat', List.cons.injEq, and_true]
        omega

theorem ofNat_eq {c : Char} {n : Nat} (same : n = c.toNat) : Char.ofNat n = c := by
  rw [same, Char.ofNat_toNat]

theorem isContinuation_of {n : Nat} (low : 128 ≤ n) (high : n < 192) : isContinuation n = true := by
  simp [isContinuation, low, high]

/-- A character that is encoded is decoded, whatever follows. -/
theorem decodeReplacing_units (c : Char) (rest : List Nat) :
    decodeReplacing (units c ++ rest) = c :: decodeReplacing rest := by
  have range := toNat_range c
  -- one case for each length; the bytes pass the decoder's tests and give the character back
  rcases units_cases c with ⟨small, bytes⟩ | ⟨low, high, bytes⟩ | ⟨low, high, bytes⟩ | ⟨low, bytes⟩
  · rw [bytes, List.singleton_append, decodeReplacing.eq_def]
    dsimp only
    rw [if_pos small, ofNat_eq rfl]
  · have last := isContinuation_of (n := c.toNat % 64 + 128) (by omega) (by omega)
    rw [bytes, List.cons_append, List.singleton_append, decodeReplacing.eq_def]
    dsimp only
    rw [if_neg (by omega), if_pos (by omega)]
    rw [if_pos last, ofNat_eq (c := c) (by omega)]
  · have second : secondOf (c.toNat / 4096 + 224) (c.toNat / 64 % 64 + 128) = true := by
      unfold secondOf isContinuation
      split
      · simp only [Bool.and_eq_true, decide_eq_true_eq]
        omega
      · split
        · simp only [Bool.and_eq_true, decide_eq_true_eq]
          omega
        · rw [if_neg (by omega), if_neg (by omega)]
          simp only [Bool.and_eq_true, decide_eq_true_eq]
          omega
    have last := isContinuation_of (n := c.toNat % 64 + 128) (by omega) (by omega)
    rw [bytes, List.cons_append, List.cons_append, List.singleton_append, decodeReplacing.eq_def]
    dsimp only
    rw [if_neg (by omega), if_neg (by omega), if_pos (by omega)]
    rw [if_pos second, if_pos last, ofNat_eq (c := c) (by omega)]
  · have second : secondOf (c.toNat / 262144 + 240) (c.toNat / 4096 % 64 + 128) = true := by
      unfold secondOf isContinuation
      rw [if_neg (by omega), if_neg (by omega)]
      split
      · simp only [Bool.and_eq_true, decide_eq_true_eq]
        omega
      · split
        · simp only [Bool.and_eq_true, decide_eq_true_eq]
          omega
        · simp only [Bool.and_eq_true, decide_eq_true_eq]
          omega
    have third := isContinuation_of (n := c.toNat / 64 % 64 + 128) (by omega) (by omega)
    have last := isContinuation_of (n := c.toNat % 64 + 128) (by omega) (by omega)
    rw [bytes, List.cons_append, List.cons_append, List.cons_append, List.singleton_append,
      decodeReplacing.eq_def]
    dsimp only
    rw [if_neg (by omega), if_neg (by omega), if_neg (by omega), if_pos (by omega)]
    rw [if_pos second, if_pos third, if_pos last, ofNat_eq (c := c) (by omega)]

theorem decode_encode_append (text : Text) (rest : List UInt8) :
    decode (encode text ++ rest) = text ++ decode rest := by
  induction text with
  | nil => rfl
  | cons c text ih =>
    change decodeReplacing ((String.utf8EncodeChar c ++ encode text ++ rest).map UInt8.toNat) = _
    rw [List.append_assoc, List.map_append]
    change decodeReplacing (units c ++ _) = _
    rw [decodeReplacing_units]
    exact congrArg (c :: ·) ih

/-- A byte in the middle of a character is replaced by itself. -/
theorem decode_stray {byte : UInt8} (continuing : continues byte = true) (rest : List UInt8) :
    decode (byte :: rest) = Char.ofNat 65533 :: decode rest := by
  have bounds : 128 ≤ byte.toNat ∧ byte.toNat < 192 := by
    simpa [continues, isContinuation] using continuing
  unfold decode
  rw [List.map_cons, decodeReplacing.eq_def]
  dsimp only
  rw [if_neg (by omega), if_neg (by omega), if_neg (by omega), if_neg (by omega)]

theorem decode_strays {bytes : List UInt8} (continuing : ∀ byte ∈ bytes, continues byte = true)
    (rest : List UInt8) :
    decode (bytes ++ rest) = List.replicate bytes.length (Char.ofNat 65533) ++ decode rest := by
  induction bytes with
  | nil => rfl
  | cons byte bytes ih =>
    obtain ⟨here, later⟩ := List.forall_mem_cons.mp continuing
    rw [List.cons_append, decode_stray here, ih later]
    rfl

/-- Only the first byte of a character does not continue one. -/
theorem encodeChar_cons (c : Char) : ∃ first rest, String.utf8EncodeChar c = first :: rest ∧
    continues first = false ∧ ∀ byte ∈ rest, continues byte = true := by
  have range := (toNat_range c).1
  have split {n : Nat} {later : List Nat} (bytes : units c = n :: later)
      (starts : isContinuation n = false) (continuing : ∀ m ∈ later, isContinuation m = true) :
      ∃ first rest, String.utf8EncodeChar c = first :: rest ∧ continues first = false ∧
        ∀ byte ∈ rest, continues byte = true := by
    obtain ⟨first, rest, whole, same, others⟩ := List.map_eq_cons_iff.mp bytes
    refine ⟨first, rest, whole, ?_, ?_⟩
    · unfold continues
      rw [same, starts]
    · intro byte inside
      exact continuing _ (others ▸ List.mem_map_of_mem inside)
  have starts {n : Nat} (outside : n < 128 ∨ 192 ≤ n) : isContinuation n = false := by
    simp only [isContinuation, Bool.and_eq_false_iff, decide_eq_false_iff_not]
    omega
  -- one to four bytes, only the first of which is below 128 or from 192 on
  rcases units_cases c with ⟨small, bytes⟩ | ⟨low, high, bytes⟩ | ⟨low, high, bytes⟩ | ⟨low, bytes⟩
  · exact split bytes (starts (.inl small)) (fun m none => by cases none)
  · refine split bytes (starts (.inr (by omega))) ?_
    intro m inside
    rw [List.mem_singleton.mp inside]
    exact isContinuation_of (by omega) (by omega)
  · refine split bytes (starts (.inr (by omega))) ?_
    intro m inside
    simp only [List.mem_cons, List.not_mem_nil, or_false] at inside
    rcases inside with rfl | rfl <;> exact isContinuation_of (by omega) (by omega)
  · refine split bytes (starts (.inr (by omega))) ?_
    intro m inside
    simp only [List.mem_cons, List.not_mem_nil, or_false] at inside
    rcases inside with rfl | rfl | rfl <;> exact isContinuation_of (by omega) (by omega)

theorem encode_append (front back : Text) : encode (front ++ back) = encode front ++ encode back :=
  List.flatMap_append

/-- The bytes of a text from some byte on: the end of a character, and whole characters. -/
theorem encode_drop (text : Text) {count : Nat} (inside : count ≤ (encode text).length) :
    ∃ front kept, (encode text).drop count = front ++ encode kept ∧
      (∀ byte ∈ front, continues byte = true) ∧ kept <:+ text := by
  -- by induction on the text: the cut is in its first character or after it
  induction text generalizing count with
  | nil =>
    refine ⟨[], [], ?_, by simp, List.suffix_rfl⟩
    rw [encode, List.flatMap_nil, List.drop_nil]
    rfl
  | cons c text ih =>
    have whole : encode (c :: text) = String.utf8EncodeChar c ++ encode text := List.flatMap_cons
    obtain ⟨first, rest, bytes, _, continuing⟩ := encodeChar_cons c
    rw [whole, List.length_append] at inside
    by_cases before : count = 0
    · exact ⟨[], c :: text, by rw [before]; rfl, by simp, List.suffix_rfl⟩
    · by_cases within : count ≤ (String.utf8EncodeChar c).length
      · -- the character itself is cut
        refine ⟨(String.utf8EncodeChar c).drop count, text, ?_, ?_, List.suffix_cons c text⟩
        · rw [whole, List.drop_append_of_le_length within]
        · intro byte there
          obtain ⟨less, rfl⟩ := Nat.exists_eq_add_one_of_ne_zero before
          rw [bytes, List.drop_succ_cons] at there
          exact continuing byte (List.mem_of_mem_drop there)
      · obtain ⟨front, kept, split, stray, suffix⟩ :=
          @ih (count - (String.utf8EncodeChar c).length) (by omega)
        refine ⟨front, kept, ?_, stray, suffix.trans (List.suffix_cons c text)⟩
        rw [whole, List.drop_append, List.drop_eq_nil_of_le (by omega), List.nil_append, split]

theorem stray_append (front : List UInt8) {stop : UInt8} (stops : continues stop = false)
    (rest : List UInt8) : stray (front ++ stop :: rest) = stray front := by
  unfold stray
  rw [List.takeWhile_append, List.takeWhile_cons_of_neg (by simp [stops])]
  by_cases all : (front.takeWhile continues).length = front.length
  · rw [if_pos all, List.append_nil, all]
  · rw [if_neg all]

theorem stray_front {front : List UInt8} (continuing : ∀ byte ∈ front, continues byte = true)
    (kept : Text) : stray (front ++ encode kept) = front.length := by
  have none : (encode kept).takeWhile continues = [] := by
    cases kept with
    | nil => rfl
    | cons c kept =>
      obtain ⟨first, later, bytes, starts, _⟩ := encodeChar_cons c
      have whole : encode (c :: kept) = String.utf8EncodeChar c ++ encode kept := List.flatMap_cons
      rw [whole, bytes, List.cons_append]
      exact List.takeWhile_cons_of_neg (by simp [starts])
  unfold stray
  rw [List.takeWhile_append_of_pos continuing, none, List.append_nil]

/-- What is decoded of a text from some byte on. -/
theorem decode_drop (text : Text) {count : Nat} (inside : count ≤ (encode text).length)
    (rest : List UInt8) :
    ∃ kept, kept <:+ text ∧
      decode ((encode text).drop count ++ rest) =
        List.replicate (stray ((encode text).drop count)) (Char.ofNat 65533) ++
          (kept ++ decode rest) ∧
      (encode text).length - count =
        stray ((encode text).drop count) + (encode kept).length := by
  obtain ⟨front, kept, split, continuing, suffix⟩ := encode_drop text inside
  have number := stray_front continuing kept
  have cut := congrArg List.length split
  rw [List.length_drop, List.length_append] at cut
  rw [split, List.append_assoc, number]
  exact ⟨kept, suffix, by rw [decode_strays continuing, decode_encode_append], cut⟩

theorem length_encode_replicate (count : Nat) :
    (encode (List.replicate count (Char.ofNat 65533))).length = 3 * count := by
  induction count with
  | zero => rfl
  | succ count ih =>
    have three : (String.utf8EncodeChar (Char.ofNat 65533)).length = 3 := by decide
    rw [List.replicate_succ, encode, List.flatMap_cons, List.length_append, three]
    change 3 + (encode (List.replicate count (Char.ofNat 65533))).length = _
    rw [ih]
    omega

end Utf8
