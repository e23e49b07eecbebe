import Mathlib.Data.List.Basic

set_option autoImplicit false

/-!
# Words and windows of a byte stream

An integer format is any layout of 32-bit signed integers in four bytes. A window
is read from the bytes that are there, or not at all.
-/

namespace ByteWire

def IsInt (n : Int) : Prop := -2147483648 ≤ n ∧ n < 2147483648

instance (n : Int) : Decidable (IsInt n) := inferInstanceAs (Decidable (_ ∧ _))

/-- The 32-bit signed integer with the value's low bits. -/
def wrapInt (n : Nat) : Int :=
  let low : Int := n % 4294967296
  if low < 2147483648 then low else low - 4294967296

theorem wrapInt_isInt (n : Nat) : IsInt (wrapInt n) := by
  unfold IsInt wrapInt
  dsimp only
  split <;> omega

theorem wrapInt_le (n : Nat) : wrapInt n ≤ n := by
  unfold wrapInt
  dsimp only
  split <;> omega

theorem wrapInt_small {n : Nat} (small : n < 2147483648) : wrapInt n = n := by
  unfold wrapInt
  dsimp only
  split <;> omega

theorem wrapInt_emod {n : Int} (inRange : IsInt n) : wrapInt (n % 4294967296).toNat = n := by
  obtain ⟨lower, upper⟩ := inRange
  unfold wrapInt
  dsimp only
  split <;> omega

structure IntFormat where
  encode : Int → List UInt8
  decode : List UInt8 → Int
  length_encode : ∀ n, (encode n).length = 4
  decode_encode : ∀ n, IsInt n → decode (encode n) = n

def leastFirst (n : Int) : List UInt8 :=
  let low := (n % 4294967296).toNat
  [UInt8.ofNat low, UInt8.ofNat (low / 256), UInt8.ofNat (low / 65536),
    UInt8.ofNat (low / 16777216)]

def fromLeastFirst : List UInt8 → Int
  | [a, b, c, d] => wrapInt (a.toNat + 256 * b.toNat + 65536 * c.toNat + 16777216 * d.toNat)
  | _ => 0

theorem bytes_of_word {low : Nat} (word : low < 4294967296) :
    low % 256 + 256 * (low / 256 % 256) + 65536 * (low / 65536 % 256) +
      16777216 * (low / 16777216 % 256) = low := by
  omega

theorem fromLeastFirst_leastFirst (n : Int) (inRange : IsInt n) :
    fromLeastFirst (leastFirst n) = n := by
  unfold leastFirst fromLeastFirst
  dsimp only
  simp only [UInt8.toNat_ofNat']
  rw [bytes_of_word (by omega), wrapInt_emod inRange]

def littleEndian : IntFormat where
  encode := leastFirst
  decode := fromLeastFirst
  length_encode := by simp [leastFirst]
  decode_encode n := fromLeastFirst_leastFirst n

/-- `length` bytes from `start` on, when they are all there. -/
def window? (bytes : List UInt8) (start length : Nat) : Option (List UInt8) :=
  if start + length ≤ bytes.length then some ((bytes.drop start).take length) else none

theorem window?_append (front middle back : List UInt8) :
    window? (front ++ (middle ++ back)) front.length middle.length = some middle := by
  simp [window?]

theorem window?_none {bytes : List UInt8} {start length : Nat}
    (beyond : bytes.length < start + length) : window? bytes start length = none := by
  simp [window?, beyond]

theorem window?_bound {bytes found : List UInt8} {start length : Nat}
    (inside : window? bytes start length = some found) : start + length ≤ bytes.length := by
  unfold window? at inside
  split at inside
  · assumption
  · cases inside

/-- A buffer that keeps the front of a stream shows the windows that lie in it. -/
theorem window?_take {bytes found : List UInt8} {start length : Nat} (kept : Nat)
    (inside : window? bytes start length = some found) (fits : start + length ≤ kept) :
    window? (bytes.take kept) start length = some found := by
  have bound := window?_bound inside
  unfold window? at inside ⊢
  rw [if_pos bound] at inside
  have room : start + length ≤ (bytes.take kept).length := by
    simp only [List.length_take]
    omega
  rw [if_pos room, List.drop_take, List.take_take, Nat.min_eq_left (by omega), inside]

end ByteWire
