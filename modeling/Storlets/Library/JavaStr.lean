import Mathlib.Data.List.Infix
import Mathlib.Data.List.DropRight
import Storlets.Library.PyStr

set_option autoImplicit false

/-!
# Java strings

A string is the list of its characters. Patterns are taken literally, which is what the
expressions of one word or one separator mean.
-/

inductive JavaException where
  | arrayIndexOutOfBounds
  | stringIndexOutOfBounds
  | numberFormat
  | runtimeException
  | stackOverflow
  deriving DecidableEq

namespace JavaStr

def trim (s : Text) : Text :=
  (s.dropWhile fun c => c.toNat ≤ 32).rdropWhile fun c => c.toNat ≤ 32

def substring (s : Text) (beginIndex endIndex : Int) : Except JavaException Text :=
  if 0 ≤ beginIndex ∧ beginIndex ≤ endIndex ∧ endIndex ≤ s.length then
    .ok ((s.take endIndex.toNat).drop beginIndex.toNat)
  else .error .stringIndexOutOfBounds

/-- Without the empty strings at the end; a string without the separator is its only part. -/
def split (separator : Char) (s : Text) : List Text :=
  if separator ∈ s then (s.splitOn separator).rdropWhile fun part => part = [] else [s]

/-- The word is replaced from left to right; so many characters are part of the last one. -/
def replaceFrom (word new : Text) : Nat → Text → Text
  | _, [] => []
  | skipped + 1, _ :: rest => replaceFrom word new skipped rest
  | 0, c :: rest =>
      if word <+: c :: rest then new ++ replaceFrom word new (word.length - 1) rest
      else c :: replaceFrom word new 0 rest

def replaceAll (word new s : Text) : Text := replaceFrom word new 0 s

/-- The zeros of `Character.digit`, the ASCII one first. -/
def digitZeros : List Nat :=
  [0x30, 0x660, 0x6F0, 0x7C0, 0x966, 0x9E6, 0xA66, 0xAE6, 0xB66, 0xBE6, 0xC66, 0xCE6, 0xD66,
    0xE50, 0xED0, 0xF20, 0x1040, 0x1090, 0x17E0, 0x1810, 0x1946, 0x19D0, 0x1A80, 0x1A90, 0x1B50,
    0x1BB0, 0x1C40, 0x1C50, 0xA620, 0xA8D0, 0xA900, 0xA9D0, 0xAA50, 0xABF0, 0xFF10]

def digit? (c : Char) : Option Nat :=
  (digitZeros.find? fun base => base ≤ c.toNat && c.toNat < base + 10).map (c.toNat - ·)

def digits? (s : Text) : Option Nat :=
  if s = [] then none else s.foldlM (fun value c => (digit? c).map (10 * value + ·)) 0

def signed (s : Text) : Bool × Text :=
  match s with
  | '-' :: rest => (true, rest)
  | '+' :: rest => (false, rest)
  | rest => (false, rest)

def parseInt (s : Text) : Except JavaException Int :=
  let (negative, digits) := signed s
  match digits? digits with
  | none => .error .numberFormat
  | some value =>
      let value : Int := if negative then -value else value
      if -2147483648 ≤ value ∧ value < 2147483648 then .ok value else .error .numberFormat

def parseLong (s : Text) : Except JavaException Int :=
  let (negative, digits) := signed s
  match digits? digits with
  | none => .error .numberFormat
  | some value =>
      let value : Int := if negative then -value else value
      if -9223372036854775808 ≤ value ∧ value < 9223372036854775808 then .ok value
      else .error .numberFormat

/-- What `readLine` returns until it returns null, with the line read so far. -/
def linesFrom (line : Text) : Text → List Text
  | [] => if line = [] then [] else [line]
  | '\r' :: '\n' :: rest => line :: linesFrom [] rest
  | c :: rest =>
      if c = '\n' ∨ c = '\r' then line :: linesFrom [] rest else linesFrom (line ++ [c]) rest

def readLines (text : Text) : List Text := linesFrom [] text

/-! ## Parts of a string -/

theorem trim_eq {s : Text} {first last : Char} (starts : s.head? = some first)
    (ends : s.getLast? = some last) (dark : 32 < first.toNat) (dark' : 32 < last.toNat) :
    trim s = s := by
  obtain ⟨rest, rfl⟩ := List.head?_eq_some_iff.mp starts
  obtain ⟨front, same⟩ := List.getLast?_eq_some_iff.mp ends
  unfold trim
  rw [List.dropWhile_cons_of_neg (by simpa using dark), same,
    List.rdropWhile_concat_neg _ _ _ (by simpa using dark')]

theorem substring_middle (front middle back : Text) {beginIndex endIndex : Int}
    (begins : beginIndex = front.length) (ends : endIndex = front.length + middle.length) :
    substring (front ++ middle ++ back) beginIndex endIndex = .ok middle := by
  have inside : 0 ≤ beginIndex ∧ beginIndex ≤ endIndex ∧
      endIndex ≤ (front ++ middle ++ back).length := by
    simp only [List.length_append]
    omega
  have stop : endIndex.toNat = (front ++ middle).length := by
    rw [List.length_append]
    omega
  have start : beginIndex.toNat = front.length := by omega
  unfold substring
  rw [if_pos inside, stop, start, List.take_left, List.drop_left]

theorem rdropWhile_filled {parts : List Text} (filled : ∀ part ∈ parts, part ≠ []) :
    (parts.rdropWhile fun part => part = []) = parts := by
  rcases List.eq_nil_or_concat parts with rfl | ⟨front, last, rfl⟩
  · rfl
  · rw [List.concat_eq_append]
    apply List.rdropWhile_concat_neg
    simpa using filled last (by simp)

theorem split_intercalate {separator : Char} {parts : List Text} (some : parts ≠ [])
    (filled : ∀ part ∈ parts, part ≠ []) (clean : ∀ part ∈ parts, separator ∉ part) :
    split separator ([separator].intercalate parts) = parts := by
  unfold split
  -- a single part has no separator, and is not split at all
  by_cases inside : separator ∈ [separator].intercalate parts
  · rw [if_pos inside, List.splitOn_intercalate separator clean some, rdropWhile_filled filled]
  · rw [if_neg inside]
    cases parts with
    | nil => exact absurd rfl some
    | cons first rest =>
      cases rest with
      | nil => simp
      | cons second rest =>
        exfalso
        apply inside
        simp

/-! ## A word in a string -/

theorem replaceFrom_skip (word new front rest : Text) :
    replaceFrom word new front.length (front ++ rest) = replaceFrom word new 0 rest := by
  induction front with
  | nil => rfl
  | cons c front ih => exact ih

/-- A word with a letter outside it is in what stands before the letter or after it. -/
theorem infix_of_append_cons {word front back : Text} {c : Char} (outside : c ∉ word)
    (inside : word <:+: front ++ c :: back) : word <:+: front ∨ word <:+: back := by
  obtain ⟨before, after, same⟩ := inside
  rw [List.append_assoc] at same
  -- where the word starts: before the letter or after it
  rcases List.append_eq_append_iff.mp same with ⟨ahead, split, rest⟩ | ⟨ahead, split, rest⟩
  · -- the word starts in the front
    rcases List.append_eq_append_iff.mp rest with ⟨more, whole, _⟩ | ⟨more, whole, later⟩
    · exact .inl ⟨before, more, by rw [split, whole, List.append_assoc]⟩
    · cases more with
      | nil => exact .inl ⟨before, [], by rw [split, whole]; simp⟩
      | cons d more =>
        rw [List.cons_append] at later
        obtain ⟨rfl, _⟩ := List.cons.inj later
        exact absurd (by rw [whole]; simp) outside
  · cases ahead with
    | nil =>
      rw [List.nil_append] at rest
      cases word with
      | nil => exact .inl (List.nil_infix)
      | cons d word =>
        obtain ⟨rfl, _⟩ := List.cons.inj rest
        exact absurd List.mem_cons_self outside
    | cons d ahead =>
      rw [List.cons_append] at rest
      obtain ⟨_, later⟩ := List.cons.inj rest
      exact .inr ⟨ahead, after, by rw [List.append_assoc, later]⟩

/-! ## Lines -/

/-- A character that ends no line. -/
def Inline (c : Char) : Prop := c ≠ '\n' ∧ c ≠ '\r'

theorem linesFrom_inline {c : Char} (inline : Inline c) (line rest : Text) :
    linesFrom line (c :: rest) = linesFrom (line ++ [c]) rest := by
  have stays : ¬ (c = '\n' ∨ c = '\r') := fun ends => ends.elim inline.1 inline.2
  rw [linesFrom.eq_def]
  split
  · next same => cases same
  · next same =>
    obtain ⟨rfl, _⟩ := List.cons.inj same
    exact absurd rfl inline.2
  · next same =>
    obtain ⟨rfl, rfl⟩ := List.cons.inj same
    rw [if_neg stays]

theorem linesFrom_append {text : Text} (inline : ∀ c ∈ text, Inline c) (line rest : Text) :
    linesFrom line (text ++ rest) = linesFrom (line ++ text) rest := by
  -- each character goes to the line that is read
  induction text generalizing line with
  | nil => rw [List.nil_append, List.append_nil]
  | cons c text ih =>
    obtain ⟨here, later⟩ := List.forall_mem_cons.mp inline
    rw [List.cons_append, linesFrom_inline here, ih later, List.append_assoc]
    rfl

theorem readLines_newline {text : Text} (inline : ∀ c ∈ text, Inline c) (rest : Text) :
    readLines (text ++ '\n' :: rest) = text :: readLines rest := by
  unfold readLines
  rw [linesFrom_append inline, List.nil_append, linesFrom.eq_def]
  rfl

/-- The last line may be without its end, unless it is empty. -/
theorem readLines_end {text : Text} (inline : ∀ c ∈ text, Inline c) (filled : text ≠ []) :
    readLines text = [text] := by
  have whole := linesFrom_append inline [] []
  rw [List.append_nil, List.nil_append] at whole
  unfold readLines
  rw [whole, linesFrom, if_neg filled]

/-! ## Decimal numbers -/

theorem digit?_of_isDigit {c : Char} (digit : c.isDigit = true) :
    digit? c = some (c.toNat - '0'.toNat) := by
  have bounds : 48 ≤ c.toNat ∧ c.toNat ≤ 57 := by
    simpa [Char.isDigit, UInt32.le_iff_toNat_le] using digit
  unfold digit? digitZeros
  rw [List.find?_cons_of_pos (by simp only [Bool.and_eq_true, decide_eq_true_eq]; omega)]
  rfl

theorem foldlM_digits {s : Text} (digits : ∀ c ∈ s, c.isDigit = true) (value : Nat) :
    s.foldlM (fun value c => (digit? c).map (10 * value + ·)) value =
      some (Nat.ofDigitChars 10 s value) := by
  induction s generalizing value with
  | nil => rfl
  | cons c rest ih =>
    obtain ⟨here, later⟩ := List.forall_mem_cons.mp digits
    rw [List.foldlM_cons, digit?_of_isDigit here]
    exact ih later _

theorem isDigit_of_mem_decimal {n : Nat} {c : Char} (inside : c ∈ PyStr.decimal n) :
    c.isDigit = true :=
  Nat.isDigit_of_mem_toDigits (by omega) (by omega) inside

theorem decimal_ne_nil (n : Nat) : PyStr.decimal n ≠ [] := Nat.toDigits_ne_nil

theorem digits?_decimal (n : Nat) : digits? (PyStr.decimal n) = some n := by
  unfold digits?
  rw [if_neg (decimal_ne_nil n), foldlM_digits fun c inside => isDigit_of_mem_decimal inside]
  exact congrArg some (Nat.ofDigitChars_toDigits (by decide) (by decide))

theorem signed_decimal (n : Nat) : signed (PyStr.decimal n) = (false, PyStr.decimal n) := by
  unfold signed
  split
  · next rest same =>
    have digit := isDigit_of_mem_decimal (n := n) (c := '-') (by rw [same]; exact List.mem_cons_self)
    cases digit
  · next rest same =>
    have digit := isDigit_of_mem_decimal (n := n) (c := '+') (by rw [same]; exact List.mem_cons_self)
    cases digit
  · rfl

theorem parseInt_decimal {n : Nat} (small : n < 2147483648) :
    parseInt (PyStr.decimal n) = .ok (n : Int) := by
  have range : -2147483648 ≤ (n : Int) ∧ (n : Int) < 2147483648 := by omega
  unfold parseInt
  rw [signed_decimal]
  dsimp only
  rw [digits?_decimal]
  dsimp only
  rw [if_neg Bool.false_ne_true, if_pos range]

theorem parseLong_decimal {n : Nat} (small : n < 9223372036854775808) :
    parseLong (PyStr.decimal n) = .ok (n : Int) := by
  have range : -9223372036854775808 ≤ (n : Int) ∧ (n : Int) < 9223372036854775808 := by omega
  unfold parseLong
  rw [signed_decimal]
  dsimp only
  rw [digits?_decimal]
  dsimp only
  rw [if_neg Bool.false_ne_true, if_pos range]

end JavaStr
