import Storlets.Library.JsonCut
import Storlets.Library.JsonText

set_option autoImplicit false

/-!
# Reading what `json.dumps` has written

Every value with distinct keys and integers of the permitted length is read as it was written.
-/

namespace Json

inductive Written (digits : Nat) : Json → Prop
  | null : Written digits .null
  | bool (value : Bool) : Written digits (.bool value)
  | int (value : Int) (short : (PyStr.decimal value.natAbs).length ≤ digits) :
      Written digits (.int value)
  | float : Written digits .float
  | str (s : Text) : Written digits (.str s)
  | arr (items : List Json) (each : ∀ item ∈ items, Written digits item) : Written digits (.arr items)
  | obj (fields : List (Text × Json)) (distinct : (fields.map Prod.fst).Nodup)
      (each : ∀ field ∈ fields, Written digits field.2) : Written digits (.obj fields)

theorem Textual.written {digits : Nat} {value : Json} (textual : Textual value) :
    Written digits value := by
  induction textual with
  | str s => exact .str s
  | arr items _ ih => exact .arr items ih
  | obj fields distinct _ ih => exact .obj fields distinct ih

/-- The document is over, or its list or object goes on. -/
def Closes (text : Text) : Prop := text = [] ∨ Separates text

section Numbers

theorem decimal_zero : PyStr.decimal 0 = ['0'] := Nat.toDigits_zero 10

theorem decimal_starts {n : Nat} (positive : 0 < n) : ∃ d rest,
    PyStr.decimal n = d :: rest ∧ d ≠ '0' := by
  induction n using Nat.strongRecOn with
  | ind n ih =>
    by_cases small : n < 10
    · refine ⟨n.digitChar, [], Nat.toDigits_of_lt_base small, ?_⟩
      interval_cases n <;> decide
    · obtain ⟨d, rest, starts, nonzero⟩ := ih (n / 10) (by omega) (by omega)
      refine ⟨d, rest ++ [(n % 10).digitChar], ?_, nonzero⟩
      have longer := Nat.toDigits_of_base_le (b := 10) (n := n) (by omega) (by omega)
      rw [PyStr.decimal, longer, ← List.cons_append, ← starts, PyStr.decimal]

theorem decimal_digits (n : Nat) : ∀ c ∈ PyStr.decimal n, isDigit c = true := by
  intro c inside
  have digit := Nat.isDigit_of_mem_toDigits (by omega) (by omega) inside
  simp only [Char.isDigit, Bool.and_eq_true, decide_eq_true_eq] at digit
  simp only [isDigit, Bool.and_eq_true, decide_eq_true_eq]
  exact digit

theorem Closes.noDigit {text : Text} (closes : Closes text) :
    (∀ c rest, text = c :: rest → isDigit c = false) ∧
      scanFraction text = (false, text) ∧ scanExponent text = (false, text) := by
  rcases closes with rfl | ⟨c, rest, rfl, same⟩
  · exact ⟨fun _ _ same => (nomatch same), rfl, rfl⟩
  · refine ⟨fun d tail starts => ?_, ?_, ?_⟩
    · rw [← (List.cons.inj starts).1]
      rcases same with rfl | rfl | rfl <;> decide
    · apply scanFraction_other
      intro tail starts
      rcases same with rfl | rfl | rfl <;> cases starts
    · apply scanExponent_other
      rcases same with rfl | rfl | rfl <;> decide

theorem scanInteger_decimal (n : Nat) {text : Text} (closes : Closes text) :
    scanInteger (PyStr.decimal n ++ text) = some (PyStr.decimal n, text) := by
  have stops := closes.noDigit.1
  rcases Nat.eq_zero_or_pos n with rfl | positive
  · rw [decimal_zero]
    rfl
  · obtain ⟨d, rest, starts, nonzero⟩ := decimal_starts positive
    have digits := decimal_digits n
    have whole : span isDigit (PyStr.decimal n ++ text) = (PyStr.decimal n, text) := by
      have none : text.takeWhile isDigit = [] ∧ text.dropWhile isDigit = text := by
        cases text with
        | nil => exact ⟨rfl, rfl⟩
        | cons c tail => simp [stops c tail rfl]
      rw [span, List.takeWhile_append_of_pos digits, List.dropWhile_append_of_pos digits, none.1,
        none.2, List.append_nil]
    have first : isDigit d = true := digits d (by rw [starts]; simp)
    rw [starts, List.cons_append] at whole ⊢
    rw [scanInteger, if_pos first, whole]
    exact nonzero

theorem scanUnsigned_decimal {limits : Limits} {n : Nat}
    (short : (PyStr.decimal n).length ≤ limits.digits) (negative : Bool) {text : Text}
    (closes : Closes text) :
    scanUnsigned limits negative (PyStr.decimal n ++ text) =
      some (.int (if negative then -(n : Int) else n), text) := by
  have value : Nat.ofDigitChars 10 (PyStr.decimal n) 0 = n := Nat.ofDigitChars_ten_toDigits
  obtain ⟨_, fraction, exponent⟩ := closes.noDigit
  rw [scanUnsigned, scanInteger_decimal n closes]
  simp only [fraction, exponent, value, Bool.or_false, Bool.false_eq_true, if_false]
  rw [if_neg (by omega)]

/-- A digit begins no word, and no minus sign goes before an infinity. -/
theorem scanAtom_number {limits : Limits} {d : Char} (digit : isDigit d = true) (rest : Text) :
    scanAtom limits (d :: rest) = scanUnsigned limits false (d :: rest) ∧
      scanAtom limits ('-' :: d :: rest) = scanUnsigned limits true (d :: rest) := by
  have differs (c : Char) (noDigit : isDigit c = false) : d ≠ c := by
    rintro rfl
    rw [digit] at noDigit
    cases noDigit
  constructor
  · rw [scanAtom_cons, if_neg (differs 'n' rfl), if_neg (differs 't' rfl), if_neg (differs 'f' rfl),
      if_neg (differs 'N' rfl), if_neg (differs 'I' rfl), if_neg (differs '-' rfl)]
    apply scanNumber_other
    intro tail starts
    exact differs '-' rfl (List.cons.inj starts).1
  · have noWord : word? "-Infinity" ('-' :: d :: rest) = none := by
      simp [word?, PyStr.startsWith, List.isPrefixOf, (differs 'I' rfl).symm]
    rw [scanAtom_cons]
    simp only [noWord]
    rfl

theorem decimal_cons (n : Nat) : ∃ d rest, PyStr.decimal n = d :: rest ∧ isDigit d = true := by
  have digits := decimal_digits n
  cases written : PyStr.decimal n with
  | nil => exact absurd written Nat.toDigits_ne_nil
  | cons d rest => exact ⟨d, rest, rfl, digits d (by simp [written])⟩

theorem scanAtom_int {limits : Limits} {value : Int}
    (short : (PyStr.decimal value.natAbs).length ≤ limits.digits) {text : Text}
    (closes : Closes text) :
    scanAtom limits (dumps (.int value) ++ text) = some (.int value, text) := by
  rcases value with n | n
  · obtain ⟨d, rest, starts, digit⟩ := decimal_cons n
    have read : scanUnsigned limits false (PyStr.decimal n ++ text) = some (.int n, text) :=
      scanUnsigned_decimal short false closes
    have written : dumps (.int (.ofNat n)) ++ text = PyStr.decimal n ++ text := by
      simp [dumps, dumpAtom]
    rw [written, starts, List.cons_append, (scanAtom_number digit _).1, ← List.cons_append, ← starts,
      read]
    rfl
  · obtain ⟨d, rest, starts, digit⟩ := decimal_cons (n + 1)
    have read : scanUnsigned limits true (PyStr.decimal (n + 1) ++ text) =
        some (.int (-((n + 1 : Nat) : Int)), text) := scanUnsigned_decimal short true closes
    have written : dumps (.int (.negSucc n)) ++ text = '-' :: (PyStr.decimal (n + 1) ++ text) := by
      simp [dumps, dumpAtom]
    rw [written, starts, List.cons_append, (scanAtom_number digit _).2, ← List.cons_append, ← starts,
      read]
    rfl

end Numbers

theorem dumps_int (value : Int) : ∃ c text, dumps (.int value) = c :: text ∧
    (c = '-' ∨ isDigit c = true) := by
  rcases value with n | n
  · obtain ⟨d, rest, starts, digit⟩ := decimal_cons n
    exact ⟨d, rest, by simp [dumps, dumpAtom, starts], .inr digit⟩
  · exact ⟨'-', _, by simp [dumps, dumpAtom]; rfl, .inl rfl⟩

theorem Written.solid {digits : Nat} {value : Json} (written : Written digits value) :
    Solid value := by
  cases written with
  | null => exact ⟨'n', _, by simp [dumps, dumpAtom]; rfl, by decide⟩
  | bool value =>
    cases value with
    | true => exact ⟨'t', _, by simp [dumps, dumpAtom]; rfl, by decide⟩
    | false => exact ⟨'f', _, by simp [dumps, dumpAtom]; rfl, by decide⟩
  | float => exact ⟨'N', _, by simp [dumps, dumpAtom]; rfl, by decide⟩
  | int value =>
    obtain ⟨c, text, starts, first⟩ := dumps_int value
    refine ⟨c, text, starts, ?_⟩
    rcases first with rfl | digit
    · decide
    · have differs (e : Char) (noDigit : isDigit e = false) : c ≠ e := by
        rintro rfl
        rw [digit] at noDigit
        cases noDigit
      exact ⟨differs _ rfl, differs _ rfl, differs _ rfl, differs _ rfl, differs _ rfl⟩
  | str s => exact (Textual.str s).solid
  | arr items => exact ⟨'[', _, by rw [dumps]; rfl, by decide⟩
  | obj fields => exact ⟨'\x7b', _, by rw [dumps]; rfl, by decide⟩

/-- What begins with a word is read as its value. -/
theorem scanOnce_word {limits : Limits} {depth : Nat} {text : Text} :
    scanOnce limits depth ("null".toList ++ text) = some (.null, text) ∧
    scanOnce limits depth ("true".toList ++ text) = some (.bool true, text) ∧
    scanOnce limits depth ("false".toList ++ text) = some (.bool false, text) ∧
    scanOnce limits depth ("NaN".toList ++ text) = some (.float, text) := by
  refine ⟨?_, ?_, ?_, ?_⟩
  all_goals
    refine (scanOnce_atom limits depth _ (by decide)).trans ?_
    rw [scanAtom_cons]
    rfl

/-- What is written of a value is read as the value. -/
theorem scanOnce_written {limits : Limits} {value : Json} (written : Written limits.digits value)
    {depth : Nat} (fits : nestsWithin depth value) {text : Text} (closes : Closes text) :
    scanOnce limits depth (dumps value ++ text) = some (value, text) := by
  induction written generalizing depth text with
  | str s => exact scanOnce_dumps limits (.str s) fits text
  | arr items each ih =>
    cases depth with
    | zero => cases fits
    | succ depth =>
      have inside : ∀ item ∈ items, nestsWithin depth item := by
        simpa [nestsWithin] using fits
      exact scanOnce_items (fun item member => (each item member).solid)
        (fun item member text separates => ih item member (inside item member) (.inr separates)) text
  | obj fields distinct each ih =>
    cases depth with
    | zero => cases fits
    | succ depth =>
      have inside : ∀ field ∈ fields, nestsWithin depth field.2 := by
        simpa [nestsWithin] using fits
      exact scanOnce_fields distinct (fun field member => (each field member).solid)
        (fun field member text separates => ih field member (inside field member) (.inr separates))
        text
  | null => exact scanOnce_word.1
  | bool value =>
    cases value with
    | true => exact scanOnce_word.2.1
    | false => exact scanOnce_word.2.2.1
  | float => exact scanOnce_word.2.2.2
  | int value short =>
    obtain ⟨c, rest, starts, first⟩ := dumps_int value
    have read := scanAtom_int short closes
    rw [starts, List.cons_append] at read ⊢
    rw [scanOnce_atom, read]
    rcases first with rfl | digit
    · decide
    · refine ⟨?_, ?_, ?_⟩ <;> rintro rfl <;> cases digit

theorem loads_written {limits : Limits} {value : Json} (written : Written limits.digits value)
    (fits : nestsWithin limits.depth value) : loads limits (dumps value) = some value := by
  have whole := written.solid.skipSpace_dumps []
  have read := scanOnce_written written fits (.inl rfl)
  rw [List.append_nil] at whole read
  rw [loads, whole, read]
  rfl

theorem Written.ascii {digits : Nat} {value : Json} (written : Written digits value) :
    ∀ c ∈ dumps value, 0 < c.toNat ∧ c.toNat < 128 := by
  have decimal (n : Nat) : ∀ c ∈ PyStr.decimal n, 0 < c.toNat ∧ c.toNat < 128 := by
    intro c inside
    have digit := decimal_digits n c inside
    simp only [isDigit, Bool.and_eq_true, decide_eq_true_eq] at digit
    have low : '0'.toNat ≤ c.toNat := digit.1
    have high : c.toNat ≤ '9'.toNat := digit.2
    have bounds : '0'.toNat = 48 ∧ '9'.toNat = 57 := by decide
    omega
  induction written with
  | null => simp [dumps, dumpAtom]
  | bool value => cases value <;> simp [dumps, dumpAtom]
  | float => simp [dumps, dumpAtom]
  | int value =>
    rcases value with n | n
    · simpa [dumps, dumpAtom] using decimal n
    · simpa [dumps, dumpAtom] using decimal (n + 1)
  | str s => exact dumps_ascii (.str s)
  | arr items _ ih => exact arr_ascii ih
  | obj fields _ _ ih => exact obj_ascii ih

end Json
