import Storlets.Library.PyStr

set_option autoImplicit false

/-!
# `json.loads`

A text is read as the C scanner of `json` reads it. A nested container takes one
level of the interpreter's stack; where none is left, `loads` raises as it does on
a text that is not JSON. An escaped surrogate without its other half stands as U+FFFD.
-/

inductive Json where
  | null
  | bool (value : Bool)
  | int (value : Int)
  | float
  | str (value : Text)
  | arr (items : List Json)
  | obj (fields : List (Text × Json))

namespace Json

/-- What the interpreter allows: nested containers and digits of an integer. -/
structure Limits where
  depth : Nat
  digits : Nat

def skipSpace : Text → Text := List.dropWhile fun c => c = ' ' || c = '\t' || c = '\n' || c = '\r'

def hex4? (a b c d : Char) : Option Nat := do
  let a ← PyStr.hexDigit? a
  let b ← PyStr.hexDigit? b
  let c ← PyStr.hexDigit? c
  let d ← PyStr.hexDigit? d
  return 4096 * a + 256 * b + 16 * c + d

def escape? : Char → Option Char
  | '"' => some '"'
  | '\\' => some '\\'
  | '/' => some '/'
  | 'b' => some (Char.ofNat 8)
  | 'f' => some (Char.ofNat 12)
  | 'n' => some '\n'
  | 'r' => some '\r'
  | 't' => some '\t'
  | _ => none

def isHigh (unit : Nat) : Bool := 0xD800 ≤ unit && unit < 0xDC00

def isLow (unit : Nat) : Bool := 0xDC00 ≤ unit && unit < 0xE000

def ofUnit (unit : Nat) : Char := if isHigh unit || isLow unit then Char.ofNat 0xFFFD else Char.ofNat unit

/-- A string after its opening quote, and the text after its closing one. -/
def scanString : Text → Option (Text × Text)
  | [] => none
  | '"' :: rest => some ([], rest)
  | '\\' :: 'u' :: a :: b :: c :: d :: rest =>
      match hex4? a b c d with
      | none => none
      | some unit =>
          match rest with
          | '\\' :: 'u' :: e :: f :: g :: h :: more =>
              match hex4? e f g h with
              | none => none
              | some low =>
                  if isHigh unit && isLow low then
                    (scanString more).map fun (s, after) =>
                      (Char.ofNat (0x10000 + (unit - 0xD800) * 0x400 + (low - 0xDC00)) :: s, after)
                  else
                    (scanString ('\\' :: 'u' :: e :: f :: g :: h :: more)).map fun (s, after) =>
                      (ofUnit unit :: s, after)
          | rest => (scanString rest).map fun (s, after) => (ofUnit unit :: s, after)
  | '\\' :: c :: rest =>
      match escape? c with
      | none => none
      | some c => (scanString rest).map fun (s, after) => (c :: s, after)
  | c :: rest =>
      -- a backslash here is the last character
      if c.toNat < 32 || c = '\\' then none
      else (scanString rest).map fun (s, after) => (c :: s, after)

def span (holds : Char → Bool) (text : Text) : Text × Text :=
  (text.takeWhile holds, text.dropWhile holds)

def isDigit (c : Char) : Bool := '0' ≤ c && c ≤ '9'

/-- The integer digits: a zero, or digits that start with another one. -/
def scanInteger : Text → Option (Text × Text)
  | '0' :: rest => some (['0'], rest)
  | c :: rest => if isDigit c then some (span isDigit (c :: rest)) else none
  | [] => none

/-- A fraction or an exponent is only taken with its digits. -/
def scanFraction (text : Text) : Bool × Text :=
  match text with
  | '.' :: rest =>
      match span isDigit rest with
      | ([], _) => (false, text)
      | (_, rest) => (true, rest)
  | _ => (false, text)

def scanExponent (text : Text) : Bool × Text :=
  match text with
  | c :: rest =>
      if c = 'e' || c = 'E' then
        let digits := match rest with
          | '+' :: more => more
          | '-' :: more => more
          | more => more
        match span isDigit digits with
        | ([], _) => (false, text)
        | (_, rest) => (true, rest)
      else (false, text)
  | [] => (false, text)

def scanNumber (limits : Limits) (text : Text) : Option (Json × Text) :=
  let (negative, digits) := match text with
    | '-' :: rest => (true, rest)
    | rest => (false, rest)
  match scanInteger digits with
  | none => none
  | some (digits, rest) =>
      let (fraction, rest) := scanFraction rest
      let (exponent, rest) := scanExponent rest
      if fraction || exponent then some (.float, rest)
      else if limits.digits < digits.length then none
      else
        let value : Int := Nat.ofDigitChars 10 digits 0
        some (.int (if negative then -value else value), rest)

/-- The items of an array after the first bracket or comma. -/
def scanItems (value : Text → Option (Json × Text)) : Nat → Text → Option (List Json × Text)
  | 0, _ => none
  | fuel + 1, text =>
      match value (skipSpace text) with
      | none => none
      | some (item, rest) =>
          match skipSpace rest with
          | ']' :: rest => some ([item], rest)
          | ',' :: rest =>
              (scanItems value fuel rest).map fun (items, after) => (item :: items, after)
          | _ => none

/-- The members of an object after the first brace or comma. -/
def scanMembers (value : Text → Option (Json × Text)) :
    Nat → Text → Option (List (Text × Json) × Text)
  | 0, _ => none
  | fuel + 1, text =>
      match skipSpace text with
      | '"' :: rest =>
          match scanString rest with
          | none => none
          | some (key, rest) =>
              match skipSpace rest with
              | ':' :: rest =>
                  match value (skipSpace rest) with
                  | none => none
                  | some (member, rest) =>
                      match skipSpace rest with
                      | '}' :: rest => some ([(key, member)], rest)
                      | ',' :: rest =>
                          (scanMembers value fuel rest).map fun (members, after) =>
                            ((key, member) :: members, after)
                      | _ => none
              | _ => none
      | _ => none

def word? (word : String) (text : Text) : Option Text :=
  if PyStr.startsWith text word then some (text.drop word.length) else none

/-- `scan_once`. -/
def scanOnce (limits : Limits) : Nat → Text → Option (Json × Text)
  | _, [] => none
  | _, '"' :: rest => (scanString rest).map fun (s, after) => (.str s, after)
  | 0, '{' :: _ => none
  | 0, '[' :: _ => none
  | depth + 1, '{' :: rest =>
      match skipSpace rest with
      | '}' :: rest => some (.obj [], rest)
      | rest =>
          (scanMembers (scanOnce limits depth) rest.length rest).map fun (members, after) =>
            -- a key given twice keeps its place and its last value
            (.obj (members.foldl (fun fields (key, value) => PyDict.setItem key value fields) []),
              after)
  | depth + 1, '[' :: rest =>
      match skipSpace rest with
      | ']' :: rest => some (.arr [], rest)
      | rest =>
          (scanItems (scanOnce limits depth) rest.length rest).map fun (items, after) =>
            (.arr items, after)
  | _, text =>
      (word? "null" text).map (Json.null, ·) <|>
      (word? "true" text).map (Json.bool true, ·) <|>
      (word? "false" text).map (Json.bool false, ·) <|>
      (word? "NaN" text).map (Json.float, ·) <|>
      (word? "Infinity" text).map (Json.float, ·) <|>
      (word? "-Infinity" text).map (Json.float, ·) <|>
      scanNumber limits text

/-- `json.loads`; no value where it raises. -/
def loads (limits : Limits) (text : Text) : Option Json :=
  match scanOnce limits limits.depth (skipSpace text) with
  | some (value, rest) => if skipSpace rest = [] then some value else none
  | none => none

/-- Whether the value nests at most so many containers. -/
def nestsWithin : Nat → Json → Bool
  | 0, .arr _ => false
  | 0, .obj _ => false
  | depth + 1, .arr items => items.all (nestsWithin depth)
  | depth + 1, .obj fields => fields.all fun (_, value) => nestsWithin depth value
  | _, _ => true

end Json
