import Storlets.Library.PyJson

set_option autoImplicit false

/-!
# `json.dumps`

The text is ASCII. A document of strings is read back as it was.
-/

namespace Json

def hexDigit (n : Nat) : Char := Nat.digitChar (n % 16)

def unicodeEscape (unit : Nat) : Text :=
  ['\\', 'u', hexDigit (unit / 4096), hexDigit (unit / 256), hexDigit (unit / 16), hexDigit unit]

/-- The characters with an escape of their own. -/
def shortEscape? (c : Char) : Option Char :=
  if c = '"' ∨ c = '\\' then some c
  else if c = '\n' then some 'n'
  else if c = '\r' then some 'r'
  else if c = '\t' then some 't'
  else if c = Char.ofNat 12 then some 'f'
  else if c = Char.ofNat 8 then some 'b'
  else none

/-- `ensure_ascii` is on. -/
def escapeChar (c : Char) : Text :=
  match shortEscape? c with
  | some e => ['\\', e]
  | none =>
      if 32 ≤ c.toNat ∧ c.toNat < 127 then [c]
      else if c.toNat < 0x10000 then unicodeEscape c.toNat
      else
        let above := c.toNat - 0x10000
        unicodeEscape (0xD800 + above / 0x400) ++ unicodeEscape (0xDC00 + above % 0x400)

def quote (s : Text) : Text := '"' :: s.flatMap escapeChar ++ ['"']

def joined (texts : List Text) : Text := (", ".toList).intercalate texts

/-- A float stands for any; what is written is one of its texts. -/
def dumpAtom : Json → Text
  | .null => "null".toList
  | .bool true => "true".toList
  | .bool false => "false".toList
  | .int (.ofNat n) => PyStr.decimal n
  | .int (.negSucc n) => '-' :: PyStr.decimal (n + 1)
  | .float => "NaN".toList
  | .str s => quote s
  | .arr _ | .obj _ => []

mutual

def dumps : Json → Text
  | .arr items => '[' :: joined (dumpItems items) ++ [']']
  | .obj fields => '{' :: joined (dumpFields fields) ++ ['}']
  | value => dumpAtom value

def dumpItems : List Json → List Text
  | [] => []
  | item :: rest => dumps item :: dumpItems rest

def dumpFields : List (Text × Json) → List Text
  | [] => []
  | (key, value) :: rest => (quote key ++ ':' :: ' ' :: dumps value) :: dumpFields rest

end

example : dumps (.obj [("k".toList, .arr [.str "\n".toList])]) = "\x7b\"k\": [\"\\n\"]\x7d".toList := by
  decide

/-! ## Strings -/

section Strings

theorem hexDigit?_hexDigit (n : Nat) : PyStr.hexDigit? (hexDigit n) = some (n % 16) := by
  have below : n % 16 < 16 := Nat.mod_lt _ (by decide)
  have digits : ∀ m < 16, PyStr.hexDigit? (Nat.digitChar m) = some m := by decide
  exact digits _ below

theorem hex4?_unit (unit : Nat) (small : unit < 0x10000) :
    hex4? (hexDigit (unit / 4096)) (hexDigit (unit / 256)) (hexDigit (unit / 16))
      (hexDigit unit) = some unit := by
  simp only [hex4?, hexDigit?_hexDigit, bind, Option.bind, pure]
  congr 1
  omega

theorem scanString_plain {c : Char} (text : Text) (notControl : 32 ≤ c.toNat) (notQuote : c ≠ '"')
    (notBackslash : c ≠ '\\') :
    scanString (c :: text) = (scanString text).map fun (s, after) => (c :: s, after) := by
  rw [scanString.eq_def]
  split
  · next same => cases same
  · next same => exact absurd (List.cons.inj same).1 notQuote
  · next same => exact absurd (List.cons.inj same).1 notBackslash
  · next same => exact absurd (List.cons.inj same).1 notBackslash
  · next other rest _ _ _ same =>
    obtain ⟨rfl, rfl⟩ := List.cons.inj same
    rw [if_neg (by simp [notBackslash]; omega)]

theorem scanString_short {e c : Char} (text : Text) (escaped : escape? e = some c) :
    scanString ('\\' :: e :: text) = (scanString text).map fun (s, after) => (c :: s, after) := by
  have notUnicode : e ≠ 'u' := by
    intro same
    rw [same] at escaped
    cases escaped
  rw [scanString.eq_def]
  split
  · next same => cases same
  · next same => exact absurd (List.cons.inj same).1 (by decide)
  · next same => exact absurd (List.cons.inj (List.cons.inj same).2).1 notUnicode
  · next other rest _ same =>
    obtain ⟨rfl, rfl⟩ := List.cons.inj (List.cons.inj same).2
    rw [escaped]
  · next other rest _ _ short same =>
    obtain ⟨rfl, rfl⟩ := List.cons.inj same
    exact (short e text rfl rfl).elim

theorem scanString_unit {a b c d : Char} {unit : Nat} (text : Text)
    (read : hex4? a b c d = some unit) (scalar : isHigh unit = false ∧ isLow unit = false) :
    scanString ('\\' :: 'u' :: a :: b :: c :: d :: text) =
      (scanString text).map fun (s, after) => (Char.ofNat unit :: s, after) := by
  have same : ofUnit unit = Char.ofNat unit := by simp [ofUnit, scalar]
  rw [scanString.eq_def]
  simp only [read]
  split
  · next _ e f g h more =>
    cases more' : hex4? e f g h with
    | none =>
      -- the next escape is not one, here and where it is read next
      have stuck : scanString ('\\' :: 'u' :: e :: f :: g :: h :: more) = none := by
        rw [scanString.eq_def]
        simp only [more']
      rw [stuck]
      rfl
    | some low =>
      simp only [scalar, Bool.false_and, Bool.false_eq_true, if_false, same]
  · rw [same]

theorem scanString_pair {a b c d e f g h : Char} {high low : Nat} (text : Text)
    (first : hex4? a b c d = some high) (second : hex4? e f g h = some low)
    (isPair : isHigh high = true ∧ isLow low = true) :
    scanString ('\\' :: 'u' :: a :: b :: c :: d :: '\\' :: 'u' :: e :: f :: g :: h :: text) =
      (scanString text).map fun (s, after) =>
        (Char.ofNat (0x10000 + (high - 0xD800) * 0x400 + (low - 0xDC00)) :: s, after) := by
  rw [scanString.eq_def]
  simp only [first, second, isPair]
  rfl

theorem escape?_of_shortEscape? {c e : Char} (short : shortEscape? c = some e) :
    escape? e = some c := by
  unfold shortEscape? at short
  split_ifs at short with same newline feed tab form back
  · cases short
    rcases same with same | same <;> subst same <;> rfl
  · cases short
    subst newline
    rfl
  · cases short
    subst feed
    rfl
  · cases short
    subst tab
    rfl
  · cases short
    subst form
    rfl
  · cases short
    subst back
    rfl

theorem toNat_scalar (c : Char) :
    c.toNat < 0xD800 ∨ (0xDFFF < c.toNat ∧ c.toNat < 0x110000) := c.valid

/-- What is written of a character is read as the character. -/
theorem scanString_escapeChar (c : Char) (text : Text) :
    scanString (escapeChar c ++ text) =
      (scanString text).map fun (s, after) => (c :: s, after) := by
  unfold escapeChar
  cases short : shortEscape? c with
  | some e => exact scanString_short text (escape?_of_shortEscape? short)
  | none =>
    dsimp only
    split_ifs with printable small
    · have notShort : c ≠ '"' ∧ c ≠ '\\' := by
        constructor <;> intro same <;> subst same <;> cases short
      exact scanString_plain text printable.1 notShort.1 notShort.2
    · have scalar := toNat_scalar c
      have read := scanString_unit text (hex4?_unit _ small) (by simp [isHigh, isLow]; omega)
      rw [Char.ofNat_toNat] at read
      exact read
    · have scalar := toNat_scalar c
      have pair := scanString_pair text
        (hex4?_unit (0xD800 + (c.toNat - 0x10000) / 0x400) (by omega))
        (hex4?_unit (0xDC00 + (c.toNat - 0x10000) % 0x400) (by omega))
        (by simp [isHigh, isLow]; omega)
      have whole : 0x10000 + (0xD800 + (c.toNat - 0x10000) / 0x400 - 0xD800) * 0x400 +
          (0xDC00 + (c.toNat - 0x10000) % 0x400 - 0xDC00) = c.toNat := by omega
      rw [whole, Char.ofNat_toNat] at pair
      exact pair

theorem scanString_quote (s text : Text) :
    scanString (s.flatMap escapeChar ++ '"' :: text) = some (s, text) := by
  induction s with
  | nil => rfl
  | cons c s ih => rw [List.flatMap_cons, List.append_assoc, scanString_escapeChar, ih]; rfl

end Strings

theorem hexDigit_ascii (n : Nat) : 0 < (hexDigit n).toNat ∧ (hexDigit n).toNat < 128 := by
  have below : n % 16 < 16 := Nat.mod_lt _ (by decide)
  have digits : ∀ m < 16, 0 < (Nat.digitChar m).toNat ∧ (Nat.digitChar m).toNat < 128 := by decide
  exact digits _ below

theorem unicodeEscape_ascii (unit : Nat) :
    ∀ c ∈ unicodeEscape unit, 0 < c.toNat ∧ c.toNat < 128 := by
  have digit := hexDigit_ascii
  simp [unicodeEscape, digit]

theorem shortEscape?_ascii {c e : Char} (short : shortEscape? c = some e) :
    0 < e.toNat ∧ e.toNat < 128 := by
  unfold shortEscape? at short
  split_ifs at short with same <;> cases short <;> try decide
  rcases same with same | same <;> subst same <;> decide

theorem escapeChar_ascii (c : Char) : ∀ e ∈ escapeChar c, 0 < e.toNat ∧ e.toNat < 128 := by
  unfold escapeChar
  cases short : shortEscape? c with
  | some e => simp [shortEscape?_ascii short]
  | none =>
    dsimp only
    split_ifs with printable
    · intro e inside
      rw [List.mem_singleton.mp inside]
      omega
    · exact unicodeEscape_ascii _
    · intro e inside
      rcases List.mem_append.mp inside with high | low
      · exact unicodeEscape_ascii _ e high
      · exact unicodeEscape_ascii _ e low

theorem quote_ascii (s : Text) : ∀ c ∈ quote s, 0 < c.toNat ∧ c.toNat < 128 := by
  intro c inside
  simp only [quote, List.mem_cons, List.mem_append, List.mem_flatMap, List.not_mem_nil, or_false]
    at inside
  rcases inside with (start | ⟨plain, _, escaped⟩) | stop
  · subst start
    decide
  · exact escapeChar_ascii plain c escaped
  · subst stop
    decide

/-! ## Documents of strings -/

inductive Textual : Json → Prop
  | str (s : Text) : Textual (.str s)
  | arr (items : List Json) (each : ∀ item ∈ items, Textual item) : Textual (.arr items)
  | obj (fields : List (Text × Json)) (distinct : (fields.map Prod.fst).Nodup)
      (each : ∀ field ∈ fields, Textual field.2) : Textual (.obj fields)

section Documents

theorem skipSpace_solid {c : Char} (text : Text)
    (solid : c ≠ ' ' ∧ c ≠ '\t' ∧ c ≠ '\n' ∧ c ≠ '\r') : skipSpace (c :: text) = c :: text := by
  simp [skipSpace, solid]

theorem skipSpace_space (text : Text) : skipSpace (' ' :: text) = skipSpace text := rfl

/-- What a text of a document starts with. -/
theorem Textual.dumps_cons {value : Json} (textual : Textual value) :
    ∃ c text, dumps value = c :: text ∧ (c = '"' ∨ c = '[' ∨ c = '\x7b') := by
  cases textual with
  | str s => exact ⟨'"', _, rfl, .inl rfl⟩
  | arr items => exact ⟨'[', _, by rw [dumps]; rfl, .inr (.inl rfl)⟩
  | obj fields => exact ⟨'\x7b', _, by rw [dumps]; rfl, .inr (.inr rfl)⟩

/-- The text of the value begins with a character that ends no list and is no space. -/
def Solid (value : Json) : Prop :=
  ∃ c text, dumps value = c :: text ∧ c ≠ ' ' ∧ c ≠ '\t' ∧ c ≠ '\n' ∧ c ≠ '\r' ∧ c ≠ ']'

theorem Textual.solid {value : Json} (textual : Textual value) : Solid value := by
  obtain ⟨c, text, starts, first⟩ := textual.dumps_cons
  refine ⟨c, text, starts, ?_⟩
  rcases first with same | same | same <;> subst same <;> decide

theorem Solid.skipSpace_dumps {value : Json} (solid : Solid value) (text : Text) :
    skipSpace (dumps value ++ text) = dumps value ++ text := by
  obtain ⟨c, rest, starts, first⟩ := solid
  rw [starts, List.cons_append, skipSpace_solid]
  exact ⟨first.1, first.2.1, first.2.2.1, first.2.2.2.1⟩

/-- A list or an object goes on, or ends. -/
def Separates (text : Text) : Prop :=
  ∃ c rest, text = c :: rest ∧ (c = ',' ∨ c = ']' ∨ c = '\x7d')

theorem separates_comma (text : Text) : Separates (',' :: text) := ⟨_, _, rfl, .inl rfl⟩

theorem separates_bracket (text : Text) : Separates (']' :: text) := ⟨_, _, rfl, .inr (.inl rfl)⟩

theorem separates_brace (text : Text) : Separates ('\x7d' :: text) := ⟨_, _, rfl, .inr (.inr rfl)⟩

theorem dumpItems_eq (items : List Json) : dumpItems items = items.map dumps := by
  induction items with
  | nil => rfl
  | cons item rest ih => rw [dumpItems, List.map_cons, ih]

theorem dumpFields_eq (fields : List (Text × Json)) :
    dumpFields fields = fields.map fun field => quote field.1 ++ ':' :: ' ' :: dumps field.2 := by
  induction fields with
  | nil => rfl
  | cons field rest ih => rw [dumpFields, List.map_cons, ih]

theorem joined_cons (text next : Text) (rest : List Text) :
    joined (text :: next :: rest) = text ++ ',' :: ' ' :: joined (next :: rest) := by
  simp [joined, List.intercalate_cons_cons]

theorem joined_starts (text : Text) (rest : List Text) :
    ∃ tail, joined (text :: rest) = text ++ tail := by
  cases rest with
  | nil => exact ⟨[], by simp [joined]⟩
  | cons next rest => exact ⟨_, joined_cons text next rest⟩

theorem scanItems_dumps {value : Text → Option (Json × Text)} {items : List Json} (some : items ≠ [])
    (solid : ∀ item ∈ items, Solid item)
    (reads : ∀ item ∈ items, ∀ text, Separates text →
      value (dumps item ++ text) = .some (item, text))
    {fuel : Nat} (enough : items.length ≤ fuel) (text : Text) {begins : Text}
    (at' : skipSpace begins = joined (dumpItems items) ++ ']' :: text) :
    scanItems value fuel begins = .some (items, text) := by
  induction items generalizing fuel begins with
  | nil => exact absurd rfl some
  | cons item rest ih =>
    obtain ⟨fuel, more⟩ : ∃ fewer, fuel = fewer + 1 := ⟨fuel - 1, by simp at enough; omega⟩
    subst more
    obtain ⟨_, areSolid⟩ := List.forall_mem_cons.mp solid
    obtain ⟨read, later⟩ := List.forall_mem_cons.mp reads
    rw [scanItems, at']
    cases rest with
    | nil =>
      have last : joined (dumpItems [item]) = dumps item := by simp [dumpItems, joined]
      rw [last, read _ (separates_bracket text)]
      rfl
    | cons next rest =>
      rw [dumpItems, dumpItems, joined_cons, List.append_assoc, List.cons_append,
        read _ (separates_comma _)]
      change (scanItems value fuel (' ' :: (joined (dumps next :: dumpItems rest) ++ ']' :: text))).map
        _ = _
      rw [ih (by simp) areSolid later (by simp at enough ⊢; omega)]
      · rfl
      · obtain ⟨tail, starts⟩ := joined_starts (dumps next) (dumpItems rest)
        rw [skipSpace_space, dumpItems, starts, List.append_assoc]
        exact (areSolid next (by simp)).skipSpace_dumps _

/-- The key and the value of a member. -/
theorem scanMembers_member {value : Text → Option (Json × Text)} {fuel : Nat} {begins key : Text}
    {item : Json} {tail : Text}
    (at' : skipSpace begins = (quote key ++ ':' :: ' ' :: dumps item) ++ tail)
    (solid : Solid item) (read : value (dumps item ++ tail) = .some (item, tail)) :
    scanMembers value (fuel + 1) begins =
      match skipSpace tail with
      | '\x7d' :: rest => .some ([(key, item)], rest)
      | ',' :: rest =>
          (scanMembers value fuel rest).map fun (members, after) => ((key, item) :: members, after)
      | _ => none := by
  have starts : (quote key ++ ':' :: ' ' :: dumps item) ++ tail =
      '"' :: (key.flatMap escapeChar ++ '"' :: ':' :: ' ' :: (dumps item ++ tail)) := by
    simp [quote]
  have colon (text : Text) : skipSpace (':' :: text) = ':' :: text :=
    skipSpace_solid _ (by decide)
  simp only [scanMembers, at', starts, scanString_quote, colon, skipSpace_space,
    solid.skipSpace_dumps, read]
  all_goals rfl

theorem scanMembers_dumps {value : Text → Option (Json × Text)} {fields : List (Text × Json)}
    (some : fields ≠ []) (solid : ∀ field ∈ fields, Solid field.2)
    (reads : ∀ field ∈ fields, ∀ text, Separates text →
      value (dumps field.2 ++ text) = .some (field.2, text))
    {fuel : Nat} (enough : fields.length ≤ fuel) (text : Text) {begins : Text}
    (at' : skipSpace begins = joined (dumpFields fields) ++ '\x7d' :: text) :
    scanMembers value fuel begins = .some (fields, text) := by
  induction fields generalizing fuel begins with
  | nil => exact absurd rfl some
  | cons field rest ih =>
    obtain ⟨fuel, more⟩ : ∃ fewer, fuel = fewer + 1 := ⟨fuel - 1, by simp at enough; omega⟩
    subst more
    obtain ⟨isSolid, areSolid⟩ := List.forall_mem_cons.mp solid
    obtain ⟨read, later⟩ := List.forall_mem_cons.mp reads
    obtain ⟨key, item⟩ := field
    cases rest with
    | nil =>
      have last : joined (dumpFields [(key, item)]) = quote key ++ ':' :: ' ' :: dumps item := by
        simp [dumpFields, joined]
      rw [last] at at'
      rw [scanMembers_member at' isSolid (read _ (separates_brace text)),
        skipSpace_solid _ (by decide)]
      rfl
    | cons next rest =>
      rw [dumpFields, dumpFields, joined_cons, List.append_assoc] at at'
      rw [scanMembers_member at' isSolid (read _ (separates_comma _)), List.cons_append,
        skipSpace_solid _ (by decide)]
      change (scanMembers value fuel (' ' :: (joined (_ :: dumpFields rest) ++ '\x7d' :: text))).map
        _ = _
      rw [ih (by simp) areSolid later (by simp at enough ⊢; omega)]
      · rfl
      · obtain ⟨tail, starts⟩ := joined_starts (quote next.1 ++ ':' :: ' ' :: dumps next.2)
          (dumpFields rest)
        rw [skipSpace_space, dumpFields, starts]
        exact skipSpace_solid _ (by decide)

theorem length_joined (texts : List Text) (some : ∀ text ∈ texts, text ≠ []) :
    texts.length ≤ (joined texts).length := by
  induction texts with
  | nil => simp
  | cons text rest ih =>
    obtain ⟨here, later⟩ := List.forall_mem_cons.mp some
    have long := List.length_pos_of_ne_nil here
    cases rest with
    | nil => simp [joined]; omega
    | cons next rest =>
      have rest := ih later
      rw [joined_cons]
      simp at rest ⊢
      omega

theorem length_le_joined {texts : List Text} {text : Text} (inside : text ∈ texts) :
    text.length ≤ (joined texts).length := by
  induction texts with
  | nil => cases inside
  | cons first rest ih =>
    cases rest with
    | nil =>
      rw [List.mem_singleton.mp inside]
      simp [joined]
    | cons next rest =>
      rw [joined_cons]
      rcases List.mem_cons.mp inside with here | later
      · rw [here]
        simp
      · have bound := ih later
        simp only [List.length_append, List.length_cons]
        omega

theorem length_dumps_item {items : List Json} {item : Json} (inside : item ∈ items) :
    (dumps item).length ≤ (dumps (.arr items)).length := by
  have listed : dumps item ∈ dumpItems items := by
    rw [dumpItems_eq]
    exact List.mem_map_of_mem inside
  have bound := length_le_joined listed
  simp only [dumps, List.length_append, List.length_cons]
  omega

theorem length_dumps_field {fields : List (Text × Json)} {field : Text × Json}
    (inside : field ∈ fields) : (dumps field.2).length ≤ (dumps (.obj fields)).length := by
  have listed : quote field.1 ++ ':' :: ' ' :: dumps field.2 ∈ dumpFields fields := by
    rw [dumpFields_eq]
    exact List.mem_map_of_mem inside
  have bound := length_le_joined listed
  simp only [dumps, List.length_append, List.length_cons] at bound ⊢
  omega

theorem length_dumps_str (s : Text) : s.length ≤ (dumps (.str s)).length := by
  have each (c : Char) : 1 ≤ (escapeChar c).length := by
    unfold escapeChar
    split
    · simp
    · split_ifs <;> simp [unicodeEscape]
  have whole : s.length ≤ (s.flatMap escapeChar).length := by
    induction s with
    | nil => simp
    | cons c rest ih =>
      have here := each c
      rw [List.flatMap_cons, List.length_append, List.length_cons]
      omega
  simp only [dumps, dumpAtom, quote, List.length_append, List.length_cons]
  omega

theorem dumpItems_some {items : List Json} (solid : ∀ item ∈ items, Solid item) :
    ∀ text ∈ dumpItems items, text ≠ [] := by
  rw [dumpItems_eq]
  intro text listed
  obtain ⟨item, inside, same⟩ := List.mem_map.mp listed
  obtain ⟨c, tail, starts, _⟩ := solid item inside
  rw [← same, starts]
  simp

theorem dumpFields_some (fields : List (Text × Json)) : ∀ text ∈ dumpFields fields, text ≠ [] := by
  rw [dumpFields_eq]
  intro text listed
  obtain ⟨field, _, same⟩ := List.mem_map.mp listed
  rw [← same]
  simp [quote]

theorem scanOnce_arr {limits : Limits} {depth : Nat} {rest text : Text} {c : Char}
    (begins : skipSpace rest = c :: text) (solid : c ≠ ']') :
    scanOnce limits (depth + 1) ('[' :: rest) =
      (scanItems (scanOnce limits depth) (c :: text).length (c :: text)).map
        fun (items, after) => (.arr items, after) := by
  rw [scanOnce, begins]
  split
  · next same => exact absurd (List.cons.inj same).1 solid
  · rfl

theorem scanOnce_obj {limits : Limits} {depth : Nat} {rest text : Text} {c : Char}
    (begins : skipSpace rest = c :: text) (solid : c ≠ '\x7d') :
    scanOnce limits (depth + 1) ('\x7b' :: rest) =
      (scanMembers (scanOnce limits depth) (c :: text).length (c :: text)).map
        fun (members, after) =>
          (.obj (members.foldl (fun fields (key, value) => PyDict.setItem key value fields) []),
            after) := by
  rw [scanOnce, begins]
  split
  · next same => exact absurd (List.cons.inj same).1 solid
  · rfl

/-- An array is read as it was written where its items are. -/
theorem scanOnce_items {limits : Limits} {depth : Nat} {items : List Json}
    (solid : ∀ item ∈ items, Solid item)
    (reads : ∀ item ∈ items, ∀ text, Separates text →
      scanOnce limits depth (dumps item ++ text) = some (item, text)) (text : Text) :
    scanOnce limits (depth + 1) (dumps (.arr items) ++ text) = some (.arr items, text) := by
  have written : dumps (.arr items) ++ text = '[' :: (joined (dumpItems items) ++ ']' :: text) := by
    simp [dumps]
  rw [written]
  cases items with
  | nil => rfl
  | cons item rest =>
    obtain ⟨tail, starts⟩ := joined_starts (dumps item) (dumpItems rest)
    obtain ⟨c, more, first, solidly⟩ := solid item (by simp)
    have whole : joined (dumpItems (item :: rest)) ++ ']' :: text =
        c :: (more ++ (tail ++ ']' :: text)) := by
      rw [dumpItems, starts, first, List.append_assoc, List.cons_append]
    have begins : skipSpace (joined (dumpItems (item :: rest)) ++ ']' :: text) =
        joined (dumpItems (item :: rest)) ++ ']' :: text := by
      rw [dumpItems, starts, List.append_assoc]
      exact (solid item (by simp)).skipSpace_dumps _
    have enough : (item :: rest).length ≤
        (joined (dumpItems (item :: rest)) ++ ']' :: text).length := by
      have long := length_joined _ (dumpItems_some solid)
      rw [dumpItems_eq, List.length_map, ← dumpItems_eq] at long
      rw [List.length_append]
      omega
    rw [scanOnce_arr (begins.trans whole) solidly.2.2.2.2, ← whole,
      scanItems_dumps (by simp) solid reads enough text begins]
    rfl

/-- An object is read as it was written where its members are. -/
theorem scanOnce_fields {limits : Limits} {depth : Nat} {fields : List (Text × Json)}
    (distinct : (fields.map Prod.fst).Nodup) (solid : ∀ field ∈ fields, Solid field.2)
    (reads : ∀ field ∈ fields, ∀ text, Separates text →
      scanOnce limits depth (dumps field.2 ++ text) = some (field.2, text)) (text : Text) :
    scanOnce limits (depth + 1) (dumps (.obj fields) ++ text) = some (.obj fields, text) := by
  have written : dumps (.obj fields) ++ text =
      '\x7b' :: (joined (dumpFields fields) ++ '\x7d' :: text) := by
    simp [dumps]
  rw [written]
  cases fields with
  | nil => rfl
  | cons field rest =>
    obtain ⟨tail, starts⟩ := joined_starts (quote field.1 ++ ':' :: ' ' :: dumps field.2)
      (dumpFields rest)
    have whole : joined (dumpFields (field :: rest)) ++ '\x7d' :: text =
        '"' :: (field.1.flatMap escapeChar ++ '"' :: ':' :: ' ' ::
          (dumps field.2 ++ (tail ++ '\x7d' :: text))) := by
      rw [dumpFields, starts]
      simp [quote]
    have begins : skipSpace (joined (dumpFields (field :: rest)) ++ '\x7d' :: text) =
        joined (dumpFields (field :: rest)) ++ '\x7d' :: text := by
      rw [whole]
      exact skipSpace_solid _ (by decide)
    have enough : (field :: rest).length ≤
        (joined (dumpFields (field :: rest)) ++ '\x7d' :: text).length := by
      have long := length_joined _ (dumpFields_some (field :: rest))
      rw [dumpFields_eq, List.length_map, ← dumpFields_eq] at long
      rw [List.length_append]
      omega
    have members := scanMembers_dumps (by simp) solid reads enough text begins
    rw [scanOnce_obj (begins.trans whole) (by decide), ← whole, members]
    change some (Json.obj (List.foldl _ [] (field :: rest)), text) = _
    rw [PyDict.foldl_setItem_distinct (by simpa using distinct), List.nil_append]

/-- What is written of a document is read as the document. -/
theorem scanOnce_dumps (limits : Limits) {value : Json} (textual : Textual value) {depth : Nat}
    (fits : nestsWithin depth value) (text : Text) :
    scanOnce limits depth (dumps value ++ text) = some (value, text) := by
  induction textual generalizing depth text with
  | str s =>
    have written : dumps (.str s) ++ text = '"' :: (s.flatMap escapeChar ++ '"' :: text) := by
      simp [dumps, dumpAtom, quote]
    rw [written, scanOnce, scanString_quote]
    rfl
  | arr items each ih =>
    cases depth with
    | zero => cases fits
    | succ depth =>
      have inside : ∀ item ∈ items, nestsWithin depth item := by
        simpa [nestsWithin] using fits
      exact scanOnce_items (fun item member => (each item member).solid)
        (fun item member text _ => ih item member (inside item member) text) text
  | obj fields distinct each ih =>
    cases depth with
    | zero => cases fits
    | succ depth =>
      have inside : ∀ field ∈ fields, nestsWithin depth field.2 := by
        simpa [nestsWithin] using fits
      exact scanOnce_fields distinct (fun field member => (each field member).solid)
        (fun field member text _ => ih field member (inside field member) text) text

theorem joined_ascii {texts : List Text}
    (each : ∀ text ∈ texts, ∀ c ∈ text, 0 < c.toNat ∧ c.toNat < 128) :
    ∀ c ∈ joined texts, 0 < c.toNat ∧ c.toNat < 128 := by
  induction texts with
  | nil => simp [joined]
  | cons text rest ih =>
    obtain ⟨here, later⟩ := List.forall_mem_cons.mp each
    cases rest with
    | nil => simpa [joined] using here
    | cons next rest =>
      rw [joined_cons]
      intro c inside
      simp only [List.mem_append, List.mem_cons] at inside
      rcases inside with first | comma | space | other
      · exact here c first
      · subst comma
        decide
      · subst space
        decide
      · exact ih later c other

theorem arr_ascii {items : List Json}
    (each : ∀ item ∈ items, ∀ c ∈ dumps item, 0 < c.toNat ∧ c.toNat < 128) :
    ∀ c ∈ dumps (.arr items), 0 < c.toNat ∧ c.toNat < 128 := by
  have inner : ∀ text ∈ dumpItems items, ∀ c ∈ text, 0 < c.toNat ∧ c.toNat < 128 := by
    rw [dumpItems_eq]
    simpa using each
  intro c inside
  simp only [dumps, List.mem_cons, List.mem_append, List.not_mem_nil, or_false] at inside
  rcases inside with (start | member) | stop
  · subst start
    decide
  · exact joined_ascii inner c member
  · subst stop
    decide

theorem obj_ascii {fields : List (Text × Json)}
    (each : ∀ field ∈ fields, ∀ c ∈ dumps field.2, 0 < c.toNat ∧ c.toNat < 128) :
    ∀ c ∈ dumps (.obj fields), 0 < c.toNat ∧ c.toNat < 128 := by
  have inner : ∀ text ∈ dumpFields fields, ∀ c ∈ text, 0 < c.toNat ∧ c.toNat < 128 := by
    rw [dumpFields_eq]
    intro text listed c inside
    obtain ⟨field, member, same⟩ := List.mem_map.mp listed
    subst same
    simp only [List.mem_append, List.mem_cons] at inside
    rcases inside with key | colon | space | value
    · exact quote_ascii _ c key
    · subst colon
      decide
    · subst space
      decide
    · exact each field member c value
  intro c inside
  simp only [dumps, List.mem_cons, List.mem_append, List.not_mem_nil, or_false] at inside
  rcases inside with (start | member) | stop
  · subst start
    decide
  · exact joined_ascii inner c member
  · subst stop
    decide

theorem dumps_ascii {value : Json} (textual : Textual value) :
    ∀ c ∈ dumps value, 0 < c.toNat ∧ c.toNat < 128 := by
  induction textual with
  | str s => simpa [dumps, dumpAtom] using quote_ascii s
  | arr items _ ih => exact arr_ascii ih
  | obj fields _ _ ih => exact obj_ascii ih

theorem loads_dumps (limits : Limits) {value : Json} (textual : Textual value)
    (fits : nestsWithin limits.depth value) : loads limits (dumps value) = some value := by
  have whole := textual.solid.skipSpace_dumps []
  have read := scanOnce_dumps limits textual fits []
  rw [List.append_nil] at whole read
  rw [loads, whole, read]
  rfl

end Documents

end Json
