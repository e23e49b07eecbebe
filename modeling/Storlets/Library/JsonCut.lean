import Storlets.Library.JsonText

set_option autoImplicit false

/-!
# JSON texts that are cut off

What the scanner reads of a text it reads of a longer one, so that no text of an object begins
another one.
-/

namespace Json

/-! ## Strings -/

def BeginsUnit (text : Text) : Prop :=
  ∃ e f g h more, text = '\\' :: 'u' :: e :: f :: g :: h :: more

theorem scanString_alone {a b c d : Char} {unit : Nat} {text : Text}
    (read : hex4? a b c d = some unit) (alone : ¬ BeginsUnit text) :
    scanString ('\\' :: 'u' :: a :: b :: c :: d :: text) =
      (scanString text).map fun (s, after) => (ofUnit unit :: s, after) := by
  rw [scanString.eq_def]
  simp only [read]
  split
  · next e f g h more => exact absurd ⟨e, f, g, h, more, rfl⟩ alone
  · rfl

/-- A string that is read does not break off in an escape. -/
theorem not_beginsUnit_append {p : Text} (q : Text) {read : Text × Text}
    (ends : scanString p = some read) (alone : ¬ BeginsUnit p) : ¬ BeginsUnit (p ++ q) := by
  rintro ⟨e, f, g, h, more, begins⟩
  rcases p with _ | ⟨first, _ | ⟨second, rest⟩⟩
  · cases ends
  · simp only [List.cons_append, List.cons.injEq] at begins
    rw [begins.1] at ends
    cases ends
  · simp only [List.cons_append, List.cons.injEq] at begins
    rw [begins.1, begins.2.1] at ends alone
    rcases rest with _ | ⟨a, _ | ⟨b, _ | ⟨c, _ | ⟨d, rest⟩⟩⟩⟩
    · cases ends
    · cases ends
    · cases ends
    · cases ends
    · exact alone ⟨a, b, c, d, rest, rfl⟩

theorem scanString_append (p q : Text) {s after : Text} (read : scanString p = some (s, after)) :
    scanString (p ++ q) = some (s, after ++ q) := by
  fun_induction scanString p generalizing s after with
  | case1 => cases read
  | case2 rest =>
    cases read
    rfl
  | case3 a b c d rest bad => cases read
  | case4 a b c d unit good e f g h more bad => cases read
  | case5 a b c d unit good e f g h more low goodLow pair ih =>
    obtain ⟨⟨t, after⟩, readMore, same⟩ := Option.map_eq_some_iff.mp read
    cases same
    have later := ih readMore
    simp [scanString, good, goodLow, pair, later]
  | case6 a b c d unit good e f g h more low goodLow single ih =>
    obtain ⟨⟨t, after⟩, readMore, same⟩ := Option.map_eq_some_iff.mp read
    cases same
    have later := ih readMore
    simp only [List.cons_append] at later
    simp [scanString, good, goodLow, single, later]
  | case7 a b c d unit good rest alone ih =>
    obtain ⟨⟨t, after⟩, readMore, same⟩ := Option.map_eq_some_iff.mp read
    cases same
    have later := ih readMore
    have stays : ¬ BeginsUnit (rest ++ q) := by
      apply not_beginsUnit_append q readMore
      rintro ⟨e, f, g, h, more, begins⟩
      exact alone e f g h more begins
    simp only [List.cons_append]
    rw [scanString_alone good stays, later]
    rfl
  | case8 c rest _ bad => cases read
  | case9 c rest _ e good ih =>
    obtain ⟨⟨t, after⟩, readMore, same⟩ := Option.map_eq_some_iff.mp read
    cases same
    have later := ih readMore
    simp only [List.cons_append]
    rw [scanString_short _ good, later]
    rfl
  | case10 c rest => cases read
  | case11 c rest notQuote _ _ plain ih =>
    obtain ⟨⟨t, after⟩, readMore, same⟩ := Option.map_eq_some_iff.mp read
    cases same
    have later := ih readMore
    simp only [Bool.or_eq_true, decide_eq_true_eq, not_or, not_lt] at plain
    simp only [List.cons_append]
    rw [scanString_plain _ plain.1 notQuote plain.2, later]
    rfl

/-! ## Numbers and words -/

/-- A character follows that no number goes on with. -/
def Ends (after : Text) : Prop :=
  ∃ c rest, after = c :: rest ∧ isDigit c = false ∧ c ≠ '.' ∧ c ≠ 'e' ∧ c ≠ 'E'

theorem span_append {holds : Char → Bool} {p first rest : Text} (q : Text)
    (read : span holds p = (first, rest)) (more : rest ≠ []) :
    span holds (p ++ q) = (first, rest ++ q) := by
  obtain ⟨rfl, rfl⟩ := Prod.mk.inj read
  have stops : (p.takeWhile holds).length ≠ p.length := by
    intro whole
    have parts := congrArg List.length (List.takeWhile_append_dropWhile (p := holds) (l := p))
    rw [List.length_append, whole] at parts
    exact more (List.length_eq_zero_iff.mp (by omega))
  unfold span
  rw [List.takeWhile_append, if_neg stops, List.dropWhile_append, if_neg (by simpa using more)]

theorem scanInteger_append {p digits rest : Text} (q : Text)
    (read : scanInteger p = some (digits, rest)) (more : rest ≠ []) :
    scanInteger (p ++ q) = some (digits, rest ++ q) := by
  unfold scanInteger at read
  split at read
  · cases read
    rfl
  · next c others notZero =>
    split at read
    · next digit =>
      have longer := span_append q (Option.some.inj read) more
      rw [List.cons_append] at longer ⊢
      rw [scanInteger, if_pos digit, longer]
      exact notZero
    · cases read
  · cases read

theorem scanInteger_other {c : Char} (noDigit : isDigit c = false) (rest : Text) :
    scanInteger (c :: rest) = none := by
  unfold scanInteger
  split
  · next same =>
    rw [(List.cons.inj same).1] at noDigit
    cases noDigit
  · next same =>
    obtain ⟨rfl, rfl⟩ := List.cons.inj same
    rw [if_neg (by simp [noDigit])]
  · rfl

theorem scanFraction_dot (rest : Text) : scanFraction ('.' :: rest) =
    if (span isDigit rest).1 = [] then (false, '.' :: rest) else (true, (span isDigit rest).2) := by
  rw [scanFraction]
  obtain ⟨_ | _, after⟩ := span isDigit rest <;> rfl

theorem scanFraction_other {p : Text} (noDot : ∀ tail, p ≠ '.' :: tail) :
    scanFraction p = (false, p) := by
  unfold scanFraction
  split
  · next rest => exact absurd rfl (noDot rest)
  · rfl

theorem scanFraction_append {p rest : Text} {fraction : Bool} (q : Text)
    (read : scanFraction p = (fraction, rest)) (more : rest ≠ [])
    (noDot : ∀ tail, rest ≠ '.' :: tail) : scanFraction (p ++ q) = (fraction, rest ++ q) := by
  by_cases dotted : ∃ digits, p = '.' :: digits
  · obtain ⟨digits, rfl⟩ := dotted
    rw [scanFraction_dot] at read
    split at read
    · cases read
      exact absurd rfl (noDot digits)
    · next some =>
      obtain ⟨rfl, rfl⟩ := Prod.mk.inj read
      have longer := span_append q (Prod.eta (span isDigit digits)).symm more
      rw [List.cons_append, scanFraction_dot, longer, if_neg some]
  · have noDot' : ∀ tail, p ≠ '.' :: tail := fun tail begins => dotted ⟨tail, begins⟩
    rw [scanFraction_other noDot'] at read
    cases read
    apply scanFraction_other
    intro tail begins
    rcases p with _ | ⟨c, others⟩
    · exact more rfl
    · exact noDot' others (by rw [(List.cons.inj begins).1])

/-- The digits of an exponent after its sign. -/
def unsigned : Text → Text
  | '+' :: more => more
  | '-' :: more => more
  | more => more

theorem scanExponent_letter {c : Char} (letter : c = 'e' ∨ c = 'E') (rest : Text) :
    scanExponent (c :: rest) =
      if (span isDigit (unsigned rest)).1 = [] then (false, c :: rest)
      else (true, (span isDigit (unsigned rest)).2) := by
  have isLetter : (c = 'e' || c = 'E') = true := by simpa using letter
  rw [scanExponent.eq_def]
  dsimp only
  rw [if_pos isLetter]
  split
  · next read =>
    change span isDigit (unsigned rest) = _ at read
    rw [read, if_pos rfl]
  · next some read =>
    change span isDigit (unsigned rest) = _ at read
    rw [read, if_neg some]

theorem scanExponent_other {c : Char} (other : ¬ (c = 'e' ∨ c = 'E')) (rest : Text) :
    scanExponent (c :: rest) = (false, c :: rest) := by
  have notLetter : ¬ (c = 'e' || c = 'E') = true := by simpa using other
  rw [scanExponent.eq_def]
  dsimp only
  rw [if_neg notLetter]

theorem unsigned_append {p : Text} (q : Text) (more : p ≠ []) :
    unsigned (p ++ q) = unsigned p ++ q := by
  rcases p with _ | ⟨c, rest⟩
  · exact absurd rfl more
  · rw [List.cons_append]
    unfold unsigned
    split <;> split <;> simp_all

theorem scanExponent_append {p after : Text} {exponent : Bool} (q : Text)
    (read : scanExponent p = (exponent, after)) (ends : Ends after) :
    scanExponent (p ++ q) = (exponent, after ++ q) := by
  obtain ⟨c, others, begins, _, _, notE, notE'⟩ := ends
  rcases p with _ | ⟨first, rest⟩
  · cases read
    cases begins
  · by_cases letter : first = 'e' ∨ first = 'E'
    · rw [scanExponent_letter letter] at read
      split at read
      · cases read
        obtain ⟨rfl, _⟩ := List.cons.inj begins
        exact absurd letter (by simp [notE, notE'])
      · next some =>
        obtain ⟨rfl, rfl⟩ := Prod.mk.inj read
        have digits : rest ≠ [] := by
          rintro rfl
          exact some rfl
        have longer := span_append q (Prod.eta (span isDigit (unsigned rest))).symm
          (by rw [begins]; simp)
        rw [List.cons_append, scanExponent_letter letter, unsigned_append q digits, longer,
          if_neg some]
    · rw [scanExponent_other letter] at read
      cases read
      exact scanExponent_other letter (rest ++ q)

/-- What comes after a number was there after each of its parts. -/
theorem before_ends {p after : Text} {exponent : Bool} (ends : Ends after)
    (read : scanExponent p = (exponent, after)) :
    p ≠ [] ∧ ∀ tail, p ≠ '.' :: tail := by
  obtain ⟨c, others, begins, _, notDot, _, _⟩ := ends
  constructor
  · rintro rfl
    cases read
    cases begins
  · rintro tail rfl
    rw [scanExponent_other (by decide)] at read
    cases read
    exact notDot (List.cons.inj begins).1.symm

def scanUnsigned (limits : Limits) (negative : Bool) (text : Text) : Option (Json × Text) :=
  match scanInteger text with
  | none => none
  | some (digits, rest) =>
      let (fraction, rest) := scanFraction rest
      let (exponent, rest) := scanExponent rest
      if fraction || exponent then some (.float, rest)
      else if limits.digits < digits.length then none
      else
        let value : Int := Nat.ofDigitChars 10 digits 0
        some (.int (if negative then -value else value), rest)

theorem scanNumber_minus (limits : Limits) (rest : Text) :
    scanNumber limits ('-' :: rest) = scanUnsigned limits true rest := rfl

theorem scanNumber_other (limits : Limits) {p : Text} (noMinus : ∀ tail, p ≠ '-' :: tail) :
    scanNumber limits p = scanUnsigned limits false p := by
  unfold scanNumber
  split
  · next negative digits same =>
    split at same
    · next rest => exact absurd rfl (noMinus rest)
    · cases same
      rfl

theorem scanUnsigned_append {limits : Limits} {negative : Bool} {p after : Text} {value : Json}
    (q : Text) (read : scanUnsigned limits negative p = some (value, after)) (ends : Ends after) :
    scanUnsigned limits negative (p ++ q) = some (value, after ++ q) := by
  unfold scanUnsigned at read
  split at read
  · cases read
  · next digits rest integer =>
    rcases fractionRead : scanFraction rest with ⟨fraction, afterFraction⟩
    rcases exponentRead : scanExponent afterFraction with ⟨exponent, afterExponent⟩
    rw [fractionRead] at read
    dsimp only at read
    rw [exponentRead] at read
    dsimp only at read
    have last : afterExponent = after := by
      split at read
      · cases read
        rfl
      · split at read
        · cases read
        · cases read
          rfl
    rw [← last] at ends
    obtain ⟨more, noDot⟩ := before_ends ends exponentRead
    have some : rest ≠ [] := by
      rintro rfl
      cases fractionRead
      exact more rfl
    unfold scanUnsigned
    rw [scanInteger_append q integer some]
    dsimp only
    rw [scanFraction_append q fractionRead more noDot]
    dsimp only
    rw [scanExponent_append q exponentRead ends]
    dsimp only
    rw [last] at read ⊢
    split at read
    · next real =>
      cases read
      rw [if_pos real]
    · next whole =>
      rw [if_neg whole]
      split at read
      · cases read
      · next short =>
        cases read
        rw [if_neg short]

theorem scanNumber_append {limits : Limits} {p after : Text} {value : Json} (q : Text)
    (read : scanNumber limits p = some (value, after)) (ends : Ends after) :
    scanNumber limits (p ++ q) = some (value, after ++ q) := by
  by_cases negative : ∃ rest, p = '-' :: rest
  · obtain ⟨rest, rfl⟩ := negative
    rw [scanNumber_minus] at read
    exact scanUnsigned_append q read ends
  · have noMinus : ∀ tail, p ≠ '-' :: tail := fun tail begins => negative ⟨tail, begins⟩
    rw [scanNumber_other limits noMinus] at read
    have longer : ∀ tail, p ++ q ≠ '-' :: tail := by
      intro tail begins
      rcases p with _ | ⟨c, others⟩
      · cases read
      · exact noMinus others (by rw [(List.cons.inj begins).1])
    rw [scanNumber_other limits longer]
    exact scanUnsigned_append q read ends

theorem word?_append {word : String} {p after : Text} (q : Text)
    (read : word? word p = some after) : word? word (p ++ q) = some (after ++ q) := by
  unfold word? at read ⊢
  split at read
  · next starts =>
    cases read
    have front : word.toList <+: p := List.isPrefixOf_iff_prefix.mp starts
    have longer : PyStr.startsWith (p ++ q) word = true :=
      List.isPrefixOf_iff_prefix.mpr (front.trans (List.prefix_append p q))
    have length : word.length ≤ p.length := by
      have bound := front.length_le
      rwa [String.length_toList] at bound
    rw [if_pos longer, List.drop_append_of_le_length length]
  · cases read

/-- The word does not begin with this character. -/
theorem word?_other {word : String} {c first : Char} {letters : Text} (rest : Text)
    (spelled : word.toList = first :: letters) (other : first ≠ c) :
    word? word (c :: rest) = none := by
  unfold word?
  rw [PyStr.startsWith, spelled, List.isPrefixOf, beq_false_of_ne other]
  rfl

/-! ## Containers -/

theorem skipSpace_append {p : Text} (q : Text) (some : skipSpace p ≠ []) :
    skipSpace (p ++ q) = skipSpace p ++ q := by
  unfold skipSpace at some ⊢
  rw [List.dropWhile_append, if_neg (by simpa using some)]

/-- A text ends a number if what it goes on with after blanks does. -/
theorem ends_of_skipSpace {p : Text} {c : Char} {rest : Text} (begins : skipSpace p = c :: rest)
    (stops : isDigit c = false ∧ c ≠ '.' ∧ c ≠ 'e' ∧ c ≠ 'E') : Ends p := by
  rcases p with _ | ⟨first, others⟩
  · cases begins
  · by_cases blank : first = ' ' ∨ first = '\t' ∨ first = '\n' ∨ first = '\r'
    · rcases blank with rfl | rfl | rfl | rfl <;> exact ⟨_, others, rfl, by decide⟩
    · rw [skipSpace_solid others (by simpa using blank)] at begins
      cases begins
      exact ⟨_, _, rfl, stops⟩

def afterMember (value : Text → Option (Json × Text)) (fuel : Nat) (key : Text) (member : Json)
    (text : Text) : Option (List (Text × Json) × Text) :=
  match skipSpace text with
  | '\x7d' :: rest => some ([(key, member)], rest)
  | ',' :: rest =>
      (scanMembers value fuel rest).map fun (members, after) => ((key, member) :: members, after)
  | _ => none

def afterKey (value : Text → Option (Json × Text)) (fuel : Nat) (key text : Text) :
    Option (List (Text × Json) × Text) :=
  match skipSpace text with
  | ':' :: rest =>
      (value (skipSpace rest)).bind fun (member, rest) => afterMember value fuel key member rest
  | _ => none

theorem scanMembers_quoted {value : Text → Option (Json × Text)} (fuel : Nat) {text rest : Text}
    (quoted : skipSpace text = '"' :: rest) : scanMembers value (fuel + 1) text =
      (scanString rest).bind fun (key, rest) => afterKey value fuel key rest := by
  rw [scanMembers, quoted]
  split
  · next rest' same =>
    obtain rfl := (List.cons.inj same).2
    rcases scanString rest with _ | ⟨key, rest⟩
    · rfl
    · dsimp only [Option.bind_some, afterKey]
      rcases skipSpace rest with _ | ⟨c, after⟩
      · rfl
      · by_cases colon : c = ':'
        · subst colon
          rcases found : value (skipSpace after) with _ | ⟨member, rest⟩
          · simp [found]
          · simp only [found]
            rfl
        · simp [colon]
  · next other => exact absurd rfl (other rest)

theorem scanMembers_other {value : Text → Option (Json × Text)} (fuel : Nat) {text : Text}
    (other : ∀ rest, skipSpace text ≠ '"' :: rest) : scanMembers value (fuel + 1) text = none := by
  rw [scanMembers]
  split
  · next rest quoted => exact absurd quoted (other rest)
  · rfl

/-- What a scanner of values reads of a text it reads of a longer one. -/
structure Extends (value : Text → Option (Json × Text)) : Prop where
  nil : value [] = none
  append : ∀ p q item after, value p = some (item, after) → Ends after →
    value (p ++ q) = some (item, after ++ q)

section Containers

variable {value : Text → Option (Json × Text)} (grows : Extends value)

include grows in
theorem scanItems_append {fuel more : Nat} (enough : fuel ≤ more) {p after : Text}
    {items : List Json} (q : Text) (read : scanItems value fuel p = some (items, after)) :
    scanItems value more (p ++ q) = some (items, after ++ q) := by
  induction fuel generalizing p items more with
  | zero => cases read
  | succ fuel ih =>
    obtain ⟨more, rfl⟩ : ∃ fewer, more = fewer + 1 := ⟨more - 1, by omega⟩
    have solid : skipSpace p ≠ [] := by
      intro nothing
      rw [scanItems, nothing, grows.nil] at read
      cases read
    rw [scanItems] at read
    rw [scanItems, skipSpace_append q solid]
    split at read
    · cases read
    · next item rest found =>
      split at read
      · next stop =>
        cases read
        rw [grows.append _ q _ _ found (ends_of_skipSpace stop (by decide))]
        dsimp only
        rw [skipSpace_append q (by rw [stop]; simp), stop]
        rfl
      · next others comma =>
        obtain ⟨⟨later, last⟩, readLater, same⟩ := Option.map_eq_some_iff.mp read
        cases same
        rw [grows.append _ q _ _ found (ends_of_skipSpace comma (by decide))]
        dsimp only
        rw [skipSpace_append q (by rw [comma]; simp), comma]
        change (scanItems value more (others ++ q)).map _ = _
        rw [ih (by omega) readLater]
        rfl
      · cases read

theorem afterMember_append {fuel more : Nat} {key : Text} {member : Json} {p after : Text}
    {members : List (Text × Json)} (q : Text)
    (later : ∀ rest others, scanMembers value fuel rest = some (others, after) →
      scanMembers value more (rest ++ q) = some (others, after ++ q))
    (read : afterMember value fuel key member p = some (members, after)) :
    Ends p ∧ afterMember value more key member (p ++ q) = some (members, after ++ q) := by
  unfold afterMember at read ⊢
  split at read
  · next stop =>
    cases read
    refine ⟨ends_of_skipSpace stop (by decide), ?_⟩
    rw [skipSpace_append q (by rw [stop]; simp), stop]
    rfl
  · next rest comma =>
    obtain ⟨⟨others, last⟩, readLater, same⟩ := Option.map_eq_some_iff.mp read
    cases same
    refine ⟨ends_of_skipSpace comma (by decide), ?_⟩
    rw [skipSpace_append q (by rw [comma]; simp), comma]
    change (scanMembers value more (rest ++ q)).map _ = _
    rw [later rest others readLater]
    rfl
  · cases read

include grows in
theorem afterKey_append {fuel more : Nat} {key p after : Text}
    {members : List (Text × Json)} (q : Text)
    (later : ∀ rest others, scanMembers value fuel rest = some (others, after) →
      scanMembers value more (rest ++ q) = some (others, after ++ q))
    (read : afterKey value fuel key p = some (members, after)) :
    afterKey value more key (p ++ q) = some (members, after ++ q) := by
  unfold afterKey at read ⊢
  split at read
  · next rest colon =>
    rw [skipSpace_append q (by rw [colon]; simp), colon]
    change (value (skipSpace (rest ++ q))).bind _ = _
    obtain ⟨⟨member, last⟩, found, read⟩ := Option.bind_eq_some_iff.mp read
    have solid : skipSpace rest ≠ [] := by
      intro nothing
      rw [nothing, grows.nil] at found
      cases found
    obtain ⟨ends, read⟩ := afterMember_append q later read
    rw [skipSpace_append q solid, grows.append _ q _ _ found ends]
    exact read
  · cases read

include grows in
theorem scanMembers_append {fuel more : Nat} (enough : fuel ≤ more) {p after : Text}
    {members : List (Text × Json)} (q : Text)
    (read : scanMembers value fuel p = some (members, after)) :
    scanMembers value more (p ++ q) = some (members, after ++ q) := by
  induction fuel generalizing p members more with
  | zero => cases read
  | succ fuel ih =>
    obtain ⟨more, rfl⟩ : ∃ fewer, more = fewer + 1 := ⟨more - 1, by omega⟩
    by_cases quoted : ∃ rest, skipSpace p = '"' :: rest
    · obtain ⟨rest, quoted⟩ := quoted
      have longer : skipSpace (p ++ q) = '"' :: (rest ++ q) := by
        rw [skipSpace_append q (by rw [quoted]; simp), quoted]
        rfl
      rw [scanMembers_quoted fuel quoted] at read
      rw [scanMembers_quoted more longer]
      obtain ⟨⟨key, last⟩, readKey, read⟩ := Option.bind_eq_some_iff.mp read
      rw [scanString_append _ q readKey]
      exact afterKey_append grows q (fun rest others readLater => ih (by omega) readLater) read
    · rw [scanMembers_other fuel fun rest begins => quoted ⟨rest, begins⟩] at read
      cases read

end Containers

/-! ## Values -/

/-- What is not a string or a container. -/
def scanAtom (limits : Limits) (text : Text) : Option (Json × Text) :=
  (word? "null" text).map (Json.null, ·) <|>
  (word? "true" text).map (Json.bool true, ·) <|>
  (word? "false" text).map (Json.bool false, ·) <|>
  (word? "NaN" text).map (Json.float, ·) <|>
  (word? "Infinity" text).map (Json.float, ·) <|>
  (word? "-Infinity" text).map (Json.float, ·) <|>
  scanNumber limits text

/-- The first character tells which word it can be. -/
theorem scanAtom_cons (limits : Limits) (c : Char) (rest : Text) :
    scanAtom limits (c :: rest) =
      if c = 'n' then (word? "null" (c :: rest)).map (Json.null, ·)
      else if c = 't' then (word? "true" (c :: rest)).map (Json.bool true, ·)
      else if c = 'f' then (word? "false" (c :: rest)).map (Json.bool false, ·)
      else if c = 'N' then (word? "NaN" (c :: rest)).map (Json.float, ·)
      else if c = 'I' then (word? "Infinity" (c :: rest)).map (Json.float, ·)
      else if c = '-' then
        (word? "-Infinity" (c :: rest)).map (Json.float, ·) <|> scanNumber limits (c :: rest)
      else scanNumber limits (c :: rest) := by
  have null : 'n' ≠ c → word? "null" (c :: rest) = none := word?_other rest rfl
  have true' : 't' ≠ c → word? "true" (c :: rest) = none := word?_other rest rfl
  have false' : 'f' ≠ c → word? "false" (c :: rest) = none := word?_other rest rfl
  have nan : 'N' ≠ c → word? "NaN" (c :: rest) = none := word?_other rest rfl
  have infinity : 'I' ≠ c → word? "Infinity" (c :: rest) = none := word?_other rest rfl
  have minus : '-' ≠ c → word? "-Infinity" (c :: rest) = none := word?_other rest rfl
  have letter (noDigit : isDigit c = false ∧ c ≠ '-') : scanNumber limits (c :: rest) = none := by
    rw [scanNumber_other limits (by simp [noDigit]), scanUnsigned, scanInteger_other noDigit.1]
  unfold scanAtom
  split_ifs with n t f N I m
  · subst n
    simp [true', false', nan, infinity, minus, letter (by decide)]
  · subst t
    simp [null, false', nan, infinity, minus, letter (by decide)]
  · subst f
    simp [null, true', nan, infinity, minus, letter (by decide)]
  · subst N
    simp [null, true', false', infinity, minus, letter (by decide)]
  · subst I
    simp [null, true', false', nan, minus, letter (by decide)]
  · subst m
    simp [null, true', false', nan, infinity]
  · simp [null (Ne.symm n), true' (Ne.symm t), false' (Ne.symm f), nan (Ne.symm N),
      infinity (Ne.symm I), minus (Ne.symm m)]

theorem word?_map_append {word : String} {p after : Text} {item value : Json} (q : Text)
    (read : (word? word p).map (item, ·) = some (value, after)) :
    (word? word (p ++ q)).map (item, ·) = some (value, after ++ q) := by
  obtain ⟨last, found, same⟩ := Option.map_eq_some_iff.mp read
  cases same
  rw [word?_append q found]
  rfl

/-- A number with a sign is no word. -/
theorem minus_append {limits : Limits} {rest after : Text} {value : Json} (q : Text)
    (read : ((word? "-Infinity" ('-' :: rest)).map (Json.float, ·) <|>
      scanNumber limits ('-' :: rest)) = some (value, after)) (ends : Ends after) :
    ((word? "-Infinity" ('-' :: (rest ++ q))).map (Json.float, ·) <|>
      scanNumber limits ('-' :: (rest ++ q))) = some (value, after ++ q) := by
  cases word : word? "-Infinity" ('-' :: rest) with
  | some last =>
    have longer := word?_append q word
    rw [List.cons_append] at longer
    rw [word] at read
    cases read
    rw [longer]
    rfl
  | none =>
    rw [word] at read
    have number : scanNumber limits ('-' :: rest) = some (value, after) := read
    have digit : ∃ d others, rest = d :: others ∧ isDigit d = true := by
      rw [scanNumber_minus, scanUnsigned] at number
      rcases rest with _ | ⟨d, others⟩
      · cases number
      · refine ⟨d, others, rfl, ?_⟩
        by_contra noDigit
        rw [scanInteger_other (by simpa using noDigit)] at number
        cases number
    obtain ⟨d, others, rfl, digit⟩ := digit
    have notWord : word? "-Infinity" ('-' :: d :: others ++ q) = none := by
      have noI : d ≠ 'I' := by
        rintro rfl
        cases digit
      simp [word?, PyStr.startsWith, List.isPrefixOf, noI.symm]
    have longer := scanNumber_append q number ends
    simp only [List.cons_append] at notWord longer ⊢
    rw [notWord, longer]
    rfl

theorem scanAtom_append {limits : Limits} {p after : Text} {value : Json} (q : Text)
    (read : scanAtom limits p = some (value, after)) (ends : Ends after) :
    scanAtom limits (p ++ q) = some (value, after ++ q) := by
  rcases p with _ | ⟨c, rest⟩
  · cases read
  · rw [scanAtom_cons] at read
    rw [List.cons_append, scanAtom_cons]
    split_ifs at read ⊢ with _ _ _ _ _ minus
    · exact word?_map_append q read
    · exact word?_map_append q read
    · exact word?_map_append q read
    · exact word?_map_append q read
    · exact word?_map_append q read
    · subst minus
      exact minus_append q read ends
    · exact scanNumber_append q read ends

theorem scanOnce_brace {limits : Limits} {depth : Nat} (grows : Extends (scanOnce limits depth))
    {rest after : Text} {value : Json} (q : Text)
    (read : scanOnce limits (depth + 1) ('\x7b' :: rest) = some (value, after)) :
    scanOnce limits (depth + 1) ('\x7b' :: (rest ++ q)) = some (value, after ++ q) := by
  rcases begins : skipSpace rest with _ | ⟨c, text⟩
  · rw [scanOnce, begins] at read
    cases read
  · have longer : skipSpace (rest ++ q) = c :: (text ++ q) := by
      rw [skipSpace_append q (by rw [begins]; simp), begins]
      rfl
    by_cases stop : c = '\x7d'
    · subst stop
      rw [scanOnce, begins] at read
      cases read
      rw [scanOnce, longer]
      rfl
    · rw [scanOnce_obj begins stop] at read
      obtain ⟨⟨members, last⟩, readMembers, same⟩ := Option.map_eq_some_iff.mp read
      cases same
      rw [scanOnce_obj longer stop, ← List.cons_append,
        scanMembers_append grows (by simp) q readMembers]
      rfl

theorem scanOnce_bracket {limits : Limits} {depth : Nat} (grows : Extends (scanOnce limits depth))
    {rest after : Text} {value : Json} (q : Text)
    (read : scanOnce limits (depth + 1) ('[' :: rest) = some (value, after)) :
    scanOnce limits (depth + 1) ('[' :: (rest ++ q)) = some (value, after ++ q) := by
  rcases begins : skipSpace rest with _ | ⟨c, text⟩
  · rw [scanOnce, begins] at read
    cases read
  · have longer : skipSpace (rest ++ q) = c :: (text ++ q) := by
      rw [skipSpace_append q (by rw [begins]; simp), begins]
      rfl
    by_cases stop : c = ']'
    · subst stop
      rw [scanOnce, begins] at read
      cases read
      rw [scanOnce, longer]
      rfl
    · rw [scanOnce_arr begins stop] at read
      obtain ⟨⟨items, last⟩, readItems, same⟩ := Option.map_eq_some_iff.mp read
      cases same
      rw [scanOnce_arr longer stop, ← List.cons_append,
        scanItems_append grows (by simp) q readItems]
      rfl

theorem scanOnce_quoted (limits : Limits) (depth : Nat) (rest : Text) :
    scanOnce limits depth ('"' :: rest) =
      (scanString rest).map fun (s, after) => (.str s, after) := by
  cases depth <;> rw [scanOnce]

theorem scanOnce_atom (limits : Limits) (depth : Nat) {c : Char} (rest : Text)
    (plain : c ≠ '"' ∧ c ≠ '\x7b' ∧ c ≠ '[') :
    scanOnce limits depth (c :: rest) = scanAtom limits (c :: rest) := by
  obtain ⟨noQuote, noBrace, noBracket⟩ := plain
  rw [scanOnce.eq_def]
  split
  · next same => cases same
  · next same => exact absurd (List.cons.inj same).1 noQuote
  · next same => exact absurd (List.cons.inj same).1 noBrace
  · next same => exact absurd (List.cons.inj same).1 noBracket
  · next same => exact absurd (List.cons.inj same).1 noBrace
  · next same => exact absurd (List.cons.inj same).1 noBracket
  · rfl

theorem extends_of_containers {limits : Limits} {depth : Nat}
    (containers : ∀ c, c = '\x7b' ∨ c = '[' → ∀ rest q value after,
      scanOnce limits depth (c :: rest) = some (value, after) →
        scanOnce limits depth (c :: (rest ++ q)) = some (value, after ++ q)) :
    Extends (scanOnce limits depth) := by
  constructor
  · rw [scanOnce]
  · intro p q item after read ends
    rcases p with _ | ⟨c, rest⟩
    · rw [scanOnce] at read
      cases read
    · rw [List.cons_append]
      by_cases quoted : c = '"'
      · subst quoted
        rw [scanOnce_quoted] at read ⊢
        obtain ⟨⟨s, last⟩, readString, same⟩ := Option.map_eq_some_iff.mp read
        cases same
        rw [scanString_append _ q readString]
        rfl
      · by_cases container : c = '\x7b' ∨ c = '['
        · exact containers c container rest q item after read
        · have plain : c ≠ '"' ∧ c ≠ '\x7b' ∧ c ≠ '[' := ⟨quoted, not_or.mp container⟩
          rw [scanOnce_atom limits depth _ plain] at read ⊢
          exact scanAtom_append q read ends

theorem scanOnce_extends (limits : Limits) (depth : Nat) : Extends (scanOnce limits depth) := by
  induction depth with
  | zero =>
    apply extends_of_containers
    rintro c (rfl | rfl) rest q value after read
    · cases read
    · cases read
  | succ depth ih =>
    apply extends_of_containers
    rintro c (rfl | rfl) rest q value after read
    · exact scanOnce_brace ih q read
    · exact scanOnce_bracket ih q read

/-- A text of an object that is cut off is not a text of JSON. -/
theorem loads_cut {limits : Limits} {text cut : Text} (whole : (loads limits text).isSome)
    (opens : ∃ rest, text = '\x7b' :: rest) (closes : text.getLast? = some '\x7d')
    (shorter : cut <+: text) (differs : cut ≠ text) : loads limits cut = none := by
  obtain ⟨missing, rfl⟩ := shorter
  have left : missing ≠ [] := by
    rintro rfl
    exact differs (List.append_nil cut).symm
  obtain ⟨rest, opens⟩ := opens
  rcases cut with _ | ⟨c, others⟩
  · unfold loads
    cases limits.depth <;> rfl
  · obtain rfl := (List.cons.inj opens).1
    have solid (tail : Text) : skipSpace ('\x7b' :: tail) = '\x7b' :: tail :=
      skipSpace_solid tail (by decide)
    rw [List.cons_append] at whole
    unfold loads at whole ⊢
    rw [solid] at whole ⊢
    cases depth : limits.depth with
    | zero => rfl
    | succ fewer =>
      rw [depth] at whole
      rcases read : scanOnce limits (fewer + 1) ('\x7b' :: others) with _ | ⟨value, after⟩
      · rfl
      · -- the scanner reads the same object of the whole text, and something comes after it
        rw [scanOnce_brace (scanOnce_extends limits fewer) missing read] at whole
        dsimp only at whole ⊢
        split at whole
        · next blank =>
          have spaces := List.dropWhile_eq_nil_iff.mp blank
          have last : '\x7d' ∈ missing := by
            rw [List.getLast?_append_of_ne_nil _ left] at closes
            exact List.mem_of_getLast? closes
          exact absurd (spaces _ (List.mem_append_right after last)) (by decide)
        · cases whole

end Json
