import Mathlib
import Storlets.Library.PyDict

set_option autoImplicit false

/-!
# Python strings

A string is the list of its code points; the functions are the `str` methods and
built-ins of the same name. Case mapping is the ASCII one: it is only applied to
header names and to values compared with ASCII words.
-/

abbrev Text := List Char

instance : Coe String Text := ⟨String.toList⟩

instance Text.decidableMem (text : Text) (texts : List Text) : Decidable (text ∈ texts) :=
  List.instDecidableMemOfLawfulBEq text texts

/-- A `dict` with string keys. -/
abbrev Dict (V : Type) := PyDict Text V

namespace PyStr

def isSpace (c : Char) : Bool :=
  let n := c.toNat
  (9 ≤ n && n ≤ 13) || (28 ≤ n && n ≤ 32) || n == 133 || n == 160 || n == 5760 ||
    (8192 ≤ n && n ≤ 8202) || n == 8232 || n == 8233 || n == 8239 || n == 8287 || n == 12288

def strip (s : Text) : Text :=
  ((s.dropWhile isSpace).reverse.dropWhile isSpace).reverse

def lower (s : Text) : Text := s.map Char.toLower

def replace (old new : Char) (s : Text) : Text :=
  s.map fun c => if c = old then new else c

def startsWith (s front : Text) : Bool := front.isPrefixOf s

def endsWith (s back : Text) : Bool := back.isSuffixOf s

def split (sep : Char) (s : Text) : List Text := s.splitOn sep

/-- `s.split(sep, 1)` unpacked into two names: no value when there is no separator. -/
def splitOnce (sep : Char) : Text → Option (Text × Text)
  | [] => none
  | c :: rest =>
      if c = sep then some ([], rest)
      else (splitOnce sep rest).map fun (key, value) => (c :: key, value)

/-- `title`, with whether the character before is a letter. -/
def titleFrom : Bool → Text → Text
  | _, [] => []
  | inWord, c :: rest => (if inWord then c.toLower else c.toUpper) :: titleFrom c.isAlpha rest

def title (s : Text) : Text := titleFrom false s

/-! ## Letter case -/

theorem titleFrom_titleFrom (inWord : Bool) (s : Text) :
    titleFrom inWord (titleFrom inWord s) = titleFrom inWord s := by
  induction s generalizing inWord with
  | nil => rfl
  | cons c rest ih => cases inWord <;> simp [titleFrom, ih]

@[simp] theorem title_title (s : Text) : title (title s) = title s :=
  titleFrom_titleFrom false s

theorem titleFrom_lower (inWord : Bool) (s : Text) :
    titleFrom inWord (lower s) = titleFrom inWord s := by
  induction s generalizing inWord with
  | nil => rfl
  | cons c rest ih =>
    have tail := ih c.isAlpha
    simp only [lower] at tail
    cases inWord <;> simp [lower, titleFrom, tail]

@[simp] theorem title_lower (s : Text) : title (lower s) = title s :=
  titleFrom_lower false s

/-- Whether the text ends inside a word, given whether it starts inside one. -/
def endsInWord : Bool → Text → Bool
  | inWord, [] => inWord
  | _, c :: rest => endsInWord c.isAlpha rest

theorem titleFrom_append (inWord : Bool) (front back : Text) :
    titleFrom inWord (front ++ back) =
      titleFrom inWord front ++ titleFrom (endsInWord inWord front) back := by
  induction front generalizing inWord with
  | nil => rfl
  | cons c rest ih => simp [titleFrom, endsInWord, ih]

theorem title_append (front back : Text) :
    title (front ++ back) = title front ++ titleFrom (endsInWord false front) back :=
  titleFrom_append false front back

theorem title_prefixed {front : Text} (key : Text) (ends : endsInWord false front = false) :
    title (front ++ key) = title front ++ title key := by
  rw [title_append, ends]
  rfl

theorem eq_underscore_of_toUpper {c : Char} (same : c.toUpper = '_') : c = '_' := by
  unfold Char.toUpper at same
  split at same
  next letter =>
    have sum := congrArg (fun d : Char => d.val.toNat) same
    have first := UInt32.le_iff_toNat_le.mp letter.1
    have last := UInt32.le_iff_toNat_le.mp letter.2
    simp [UInt32.toNat_add] at sum first last
    omega
  next => exact same

theorem eq_underscore_of_toLower {c : Char} (same : c.toLower = '_') : c = '_' := by
  unfold Char.toLower at same
  split at same
  next letter =>
    have sum := congrArg (fun d : Char => d.val.toNat) same
    have first := UInt32.le_iff_toNat_le.mp letter.1
    have last := UInt32.le_iff_toNat_le.mp letter.2
    simp [UInt32.toNat_add] at sum first last
    omega
  next => exact same

theorem underscore_of_titleFrom {inWord : Bool} {s : Text} (inside : '_' ∈ titleFrom inWord s) :
    '_' ∈ s := by
  induction s generalizing inWord with
  | nil => exact inside
  | cons c rest ih =>
    rw [titleFrom, List.mem_cons] at inside
    rcases inside with same | later
    · have here : c = '_' := by
        cases inWord with
        | true => exact eq_underscore_of_toLower same.symm
        | false => exact eq_underscore_of_toUpper same.symm
      simp [here]
    · exact List.mem_cons_of_mem _ (ih later)

theorem underscore_of_lower {s : Text} (inside : '_' ∈ lower s) : '_' ∈ s := by
  obtain ⟨c, there, same⟩ := List.mem_map.mp inside
  exact eq_underscore_of_toLower same ▸ there

/-- Two texts without the new character are the same when they are once it replaces the old one. -/
theorem replace_inj {old new : Char} {first second : Text} (clean : new ∉ first)
    (clean' : new ∉ second) (same : replace old new first = replace old new second) :
    first = second := by
  induction first generalizing second with
  | nil =>
    cases second with
    | nil => rfl
    | cons => cases same
  | cons c rest ih =>
    cases second with
    | nil => cases same
    | cons d others =>
      obtain ⟨head, tail⟩ := List.cons.inj same
      have here : c = d := by
        by_cases isOld : c = old <;> by_cases isOld' : d = old <;> simp_all
      rw [here, ih (fun later => clean (List.mem_cons_of_mem _ later))
        (fun later => clean' (List.mem_cons_of_mem _ later)) tail]

/-! ## Percent escapes -/

def hexDigit? (c : Char) : Option Nat :=
  if '0' ≤ c ∧ c ≤ '9' then some (c.toNat - 48)
  else if 'a' ≤ c ∧ c ≤ 'f' then some (c.toNat - 87)
  else if 'A' ≤ c ∧ c ≤ 'F' then some (c.toNat - 55)
  else none

/-- `unquote_to_bytes` of an ASCII text; an escape without two digits stands for itself. -/
def unquoteToBytes : Text → List Nat
  | [] => []
  | [c] => [c.toNat]
  | [c, d] => [c.toNat, d.toNat]
  | c :: d :: e :: rest =>
      if c = '%' then
        match hexDigit? d, hexDigit? e with
        | some high, some low => (16 * high + low) :: unquoteToBytes rest
        | _, _ => c.toNat :: unquoteToBytes (d :: e :: rest)
      else c.toNat :: unquoteToBytes (d :: e :: rest)

def isContinuation (b : Nat) : Bool := 128 ≤ b && b < 192

/-- The bytes allowed after the first byte of a sequence of three or four. -/
def secondOf (first second : Nat) : Bool :=
  if first = 224 then 160 ≤ second && second < 192
  else if first = 237 then 128 ≤ second && second < 160
  else if first = 240 then 144 ≤ second && second < 192
  else if first = 244 then 128 ≤ second && second < 144
  else isContinuation second

/-- `bytes.decode('utf-8', 'replace')`: U+FFFD for each maximal ill-formed part. -/
def decodeReplacing : List Nat → Text
  | [] => []
  | a :: rest =>
      if a < 128 then Char.ofNat a :: decodeReplacing rest
      else if 194 ≤ a ∧ a < 224 then
        match rest with
        | b :: more =>
            if isContinuation b then Char.ofNat ((a - 192) * 64 + (b - 128)) :: decodeReplacing more
            else Char.ofNat 65533 :: decodeReplacing (b :: more)
        | [] => [Char.ofNat 65533]
      else if 224 ≤ a ∧ a < 240 then
        match rest with
        | b :: c :: more =>
            if secondOf a b then
              if isContinuation c then
                Char.ofNat ((a - 224) * 4096 + (b - 128) * 64 + (c - 128)) :: decodeReplacing more
              else Char.ofNat 65533 :: decodeReplacing (c :: more)
            else Char.ofNat 65533 :: decodeReplacing (b :: c :: more)
        | [b] =>
            if secondOf a b then [Char.ofNat 65533] else Char.ofNat 65533 :: decodeReplacing [b]
        | [] => [Char.ofNat 65533]
      else if 240 ≤ a ∧ a < 245 then
        match rest with
        | b :: c :: d :: more =>
            if secondOf a b then
              if isContinuation c then
                if isContinuation d then
                  Char.ofNat ((a - 240) * 262144 + (b - 128) * 4096 + (c - 128) * 64 + (d - 128)) ::
                    decodeReplacing more
                else Char.ofNat 65533 :: decodeReplacing (d :: more)
              else Char.ofNat 65533 :: decodeReplacing (c :: d :: more)
            else Char.ofNat 65533 :: decodeReplacing (b :: c :: d :: more)
        | [b, c] =>
            if secondOf a b then
              if isContinuation c then [Char.ofNat 65533]
              else Char.ofNat 65533 :: decodeReplacing [c]
            else Char.ofNat 65533 :: decodeReplacing [b, c]
        | [b] =>
            if secondOf a b then [Char.ofNat 65533] else Char.ofNat 65533 :: decodeReplacing [b]
        | [] => [Char.ofNat 65533]
      else Char.ofNat 65533 :: decodeReplacing rest

/-- `unquote`, with the ASCII run read so far: escapes are decoded run by run. -/
def unquoteFrom : Text → Text → Text
  | run, [] => decodeReplacing (unquoteToBytes run.reverse)
  | run, c :: rest =>
      if c.toNat < 128 then unquoteFrom (c :: run) rest
      else decodeReplacing (unquoteToBytes run.reverse) ++ c :: unquoteFrom [] rest

def unquote (s : Text) : Text := if '%' ∈ s then unquoteFrom [] s else s

/-- `quote`, which leaves slashes as they are. -/
def quote (s : Text) : Text :=
  s.flatMap fun c =>
    if c.isAlphanum ∨ c ∈ ['_', '.', '-', '~', '/'] then [c]
    else (String.utf8EncodeChar c).flatMap fun byte =>
      ['%', (Nat.digitChar (byte.toNat / 16)).toUpper, (Nat.digitChar (byte.toNat % 16)).toUpper]

/-! ## Numbers -/

inductive Float where
  | finite (value : ℚ)
  | infinity (negative : Bool)
  | nan

def Float.neg : Float → Float
  | .finite value => .finite (-value)
  | .infinity negative => .infinity (!negative)
  | .nan => .nan

/-- `value < other` for a finite `value`. -/
def Float.above (value : ℚ) : Float → Bool
  | .finite other => value < other
  | .infinity negative => !negative
  | .nan => false

/-- A digit part with the underscores that may stand between digits: its value, the number of
digits, and the text after it. -/
def digitPart : Nat → Nat → Text → Nat × Nat × Text
  | value, count, '_' :: c :: rest =>
      if 0 < count ∧ c.isDigit then digitPart (10 * value + (c.toNat - 48)) (count + 1) rest
      else (value, count, '_' :: c :: rest)
  | value, count, c :: rest =>
      if c.isDigit then digitPart (10 * value + (c.toNat - 48)) (count + 1) rest
      else (value, count, c :: rest)
  | value, count, [] => (value, count, [])

def exponentPart : Text → Option Int
  | [] => some 0
  | e :: rest =>
      if e.toLower ≠ 'e' then none
      else
        let (negative, digits) := match rest with
          | '-' :: more => (true, more)
          | '+' :: more => (false, more)
          | more => (false, more)
        match digitPart 0 0 digits with
        | (value, count, []) =>
            if 0 < count then some (if negative then -(value : Int) else value) else none
        | _ => none

def scale (mantissa : Nat) (exponent : Int) : ℚ :=
  if 0 ≤ exponent then (mantissa : ℚ) * 10 ^ exponent.toNat
  else (mantissa : ℚ) / 10 ^ (-exponent).toNat

def unsignedFloat (s : Text) : Option Float :=
  if lower s = "inf" ∨ lower s = "infinity" then some (.infinity false)
  else if lower s = "nan" then some .nan
  else
    let (whole, wholeCount, afterWhole) := digitPart 0 0 s
    let (mantissa, count, afterPoint) := match afterWhole with
      | '.' :: rest =>
          let (fraction, fractionCount, more) := digitPart 0 0 rest
          (whole * 10 ^ fractionCount + fraction, fractionCount, more)
      | rest => (whole, 0, rest)
    if wholeCount + count = 0 then none
    else (exponentPart afterPoint).map fun exponent => .finite (scale mantissa (exponent - count))

/-- `float(s)`, before rounding to a double; no value where it raises `ValueError`. -/
def float (s : Text) : Option Float :=
  match strip s with
  | '-' :: rest => (unsignedFloat rest).map Float.neg
  | '+' :: rest => unsignedFloat rest
  | rest => unsignedFloat rest

/-- The value of the digits, each of which may follow an underscore unless it comes first;
`afterDigit` tells whether the character before is a digit. -/
def digitsValue (base : Nat) : Nat → Bool → Text → Option Nat
  | value, afterDigit, [] => if afterDigit then some value else none
  | value, afterDigit, c :: rest =>
      if c = '_' ∧ afterDigit then digitsValue base value false rest
      else if c.isDigit ∧ c.toNat - 48 < base then
        digitsValue base (base * value + (c.toNat - 48)) true rest
      else none

/-- The digits after the prefix `0o` that base 8 allows. -/
def withoutPrefix (base : Nat) : Text → Text
  | '0' :: c :: rest =>
      if base = 8 ∧ c.toLower = 'o' then
        match rest with
        | '_' :: more => more
        | more => more
      else '0' :: c :: rest
  | s => s

/-- `int(s, base)` of a base up to ten, for ASCII digits; no value where it raises
`ValueError`. -/
def intOf (base : Nat) (s : Text) : Option Int :=
  match strip s with
  | '-' :: rest => (digitsValue base 0 false (withoutPrefix base rest)).map fun n => -(n : Int)
  | '+' :: rest => (digitsValue base 0 false (withoutPrefix base rest)).map fun n => (n : Int)
  | rest => (digitsValue base 0 false (withoutPrefix base rest)).map fun n => (n : Int)

def rstrip (c : Char) (s : Text) : Text := (s.reverse.dropWhile (· = c)).reverse

def decimal (n : Nat) : Text := Nat.toDigits 10 n

/-- `int(s)` of a string of ASCII digits. -/
def int? (s : Text) : Option Nat :=
  if s ≠ [] ∧ s.all Char.isDigit then some (Nat.ofDigitChars 10 s 0) else none

theorem int?_decimal (n : Nat) : int? (decimal n) = some n := by
  have digits : (Nat.toDigits 10 n).all Char.isDigit = true := by
    simpa using fun c inside => Nat.isDigit_of_mem_toDigits (by omega) (by omega) inside
  simp [int?, decimal, digits, Nat.toDigits_ne_nil, Nat.ofDigitChars_toDigits]

end PyStr
