import Storlets.Library.Fallible
import Storlets.Library.JavaStr

set_option autoImplicit false

/-!
# The predicate of the CSV storlet

Commas below the top level of brackets are masked by a rare word before the string is split at
the others.
-/

namespace Storlets.Csv

open JavaStr
open PyStr (startsWith decimal)

inductive LeafOperator where
  | equal
  | notEqual
  | startsWith
  | endsWith
  | contains
  deriving DecidableEq

namespace LeafOperator

def label : LeafOperator → Text
  | equal => "EqualTo"
  | notEqual => "NotEqualTo"
  | startsWith => "StringStartsWith"
  | endsWith => "StringEndsWith"
  | contains => "StringContains"

def isValid (clauseOp lineVal : Text) : LeafOperator → Bool
  | equal => clauseOp = lineVal
  | notEqual => clauseOp ≠ lineVal
  | startsWith => if clauseOp = [] then true else lineVal ≠ [] && decide (clauseOp <+: lineVal)
  | endsWith => if clauseOp = [] then true else lineVal ≠ [] && decide (clauseOp <:+ lineVal)
  | contains => if clauseOp = [] then true else lineVal ≠ [] && decide (clauseOp <:+: lineVal)

/-- The operator a clause starts with, in the order of the tests. -/
def ofClause (clauseStr : Text) : Option LeafOperator :=
  [equal, notEqual, startsWith, endsWith, contains].find? fun op => PyStr.startsWith clauseStr op.label

end LeafOperator

inductive LogicalOperator where
  | and
  | or
  | none
  deriving DecidableEq

def LogicalOperator.label : LogicalOperator → Text
  | and => "And"
  | or => "Or"
  | none => ""

inductive Clause where
  | empty
  | leaf (op : LeafOperator) (clauseColumnIndex : Int) (clauseOperand : Text)
  | and (children : List Clause)
  | or (children : List Clause)

def commaReplaceString : Text := "HJ3Y5XMC"

/-- The character, masked at this depth of brackets. -/
def maskedChar (encounteredInhibitors : Int) (c : Char) : Text :=
  if 0 < encounteredInhibitors ∧ c = ',' then commaReplaceString else [c]

/-- The depth after a character. -/
def inhibitors (encounteredInhibitors : Int) (c : Char) : Int :=
  if c = '(' ∨ c = '[' then encounteredInhibitors + 1
  else if c = ')' ∨ c = ']' then encounteredInhibitors - 1
  else encounteredInhibitors

def replaceCommasFrom (encounteredInhibitors : Int) : Text → Text
  | [] => []
  | c :: rest =>
      maskedChar (inhibitors encounteredInhibitors c) c ++
        replaceCommasFrom (inhibitors encounteredInhibitors c) rest

def replaceNonRelevantCommas (whereString : Text) : Text := replaceCommasFrom 0 whereString

def replaceBackCommas (parts : List Text) : List Text :=
  parts.map (replaceAll commaReplaceString [','])

/-- An element of an array. -/
def element (array : List Text) (index : Nat) : Except JavaException Text :=
  match array[index]? with
  | some value => .ok value
  | none => .error .arrayIndexOutOfBounds

def parseLeaf (clauseStr : Text) : Except JavaException Clause := do
  match LeafOperator.ofClause clauseStr with
  | none => .error .runtimeException
  | some op =>
      let ops := split ',' (clauseStr.drop op.label.length)
      let first ← element ops 0
      let clauseIndex ← parseInt (← substring first 1 first.length)
      let second ← element ops 1
      return .leaf op clauseIndex (← substring second 0 ((second.length : Int) - 1))

/-- The constructors of `AndClause` and `OrClause`. -/
def parseChildren (parse : Text → Except JavaException Clause) (clauses : List Text) :
    Except JavaException (List Clause) :=
  if clauses.length < 2 then .error .runtimeException else clauses.mapM parse

def logicalOperator (clauseString : Text) : LogicalOperator :=
  if startsWith clauseString LogicalOperator.or.label then .or
  else if startsWith clauseString LogicalOperator.and.label then .and
  else .none

/-- The parts of a clause of that operator, with all their commas. -/
def clauseParts (op : LogicalOperator) (clauseString : Text) : Except JavaException (List Text) := do
  let whereString ← substring clauseString (op.label.length + 1) ((clauseString.length : Int) - 1)
  return replaceBackCommas (split ',' (replaceNonRelevantCommas whereString))

/-- `parseClause`, with so many frames left on the stack. -/
def parseClauseIn : Nat → Text → Except JavaException Clause
  | 0, _ => .error .stackOverflow
  | frames + 1, clauseStr => do
      let clauseStr := trim clauseStr
      if clauseStr = [] then return .empty
      else
        let highLevelAndClauses := split ' ' clauseStr
        if 1 < highLevelAndClauses.length then
          return .and (← parseChildren (parseClauseIn frames) highLevelAndClauses)
        else
          let clauseString ← element highLevelAndClauses 0
          match logicalOperator clauseString with
          | .and =>
              let parts ← clauseParts .and clauseString
              return .and (← parseChildren (parseClauseIn frames) parts)
          | .or =>
              let parts ← clauseParts .or clauseString
              return .or (← parseChildren (parseClauseIn frames) parts)
          | .none => parseLeaf clauseString

/-- No clause is nested more often than it has characters. -/
def parseClause (clauseStr : Text) : Except JavaException Clause :=
  parseClauseIn (clauseStr.length + 1) clauseStr

namespace Clause

/-- The column of a row. -/
def lineOperand (traceLine : List Text) (clauseColumnIndex : Int) : Except JavaException Text :=
  if clauseColumnIndex < 0 then .error .arrayIndexOutOfBounds
  else element traceLine clauseColumnIndex.toNat

mutual

def isValid (traceLine : List Text) : Clause → Except JavaException Bool
  | .empty => .ok true
  | .leaf op clauseColumnIndex clauseOperand => do
      let lineVal ← lineOperand traceLine clauseColumnIndex
      return op.isValid clauseOperand lineVal
  | .and children => allValid traceLine children
  | .or children => anyValid traceLine children

def allValid (traceLine : List Text) : List Clause → Except JavaException Bool
  | [] => .ok true
  | next :: rest => do
      if ← next.isValid traceLine then allValid traceLine rest else return false

def anyValid (traceLine : List Text) : List Clause → Except JavaException Bool
  | [] => .ok false
  | next :: rest => do
      if ← next.isValid traceLine then return true else anyValid traceLine rest

end

mutual

def getMaxCol : Clause → Int
  | .empty => 0
  | .leaf _ clauseColumnIndex _ => clauseColumnIndex
  | .and children => maxCol 0 children
  | .or children => maxCol 0 children

def maxCol (largest : Int) : List Clause → Int
  | [] => largest
  | next :: rest =>
      maxCol (if largest < next.getMaxCol then next.getMaxCol else largest) rest

end

end Clause

/-! ## What a predicate means -/

/-- A comparison that can be written: its operand has no delimiter and not the word that masks. -/
structure Leaf where
  op : LeafOperator
  column : Nat
  operand : Text
  small : column < 2147483648
  clean : ∀ c ∈ operand, c ∉ [' ', ',', '(', ')', '[', ']']
  unmarked : ¬ commaReplaceString <:+: operand

inductive Tree where
  | leaf (test : Leaf)
  | and (left right : Tree)
  | or (left right : Tree)

/-- What the operators say. -/
def LeafOperator.Holds (operand value : Text) : LeafOperator → Prop
  | equal => value = operand
  | notEqual => value ≠ operand
  | startsWith => operand <+: value
  | endsWith => operand <:+ value
  | contains => operand <:+: value

namespace Tree

def render : Tree → Text
  | .leaf test => test.op.label ++ '(' :: (decimal test.column ++ ',' :: test.operand ++ [')'])
  | .and left right =>
      LogicalOperator.and.label ++ '(' :: (left.render ++ ',' :: right.render ++ [')'])
  | .or left right =>
      LogicalOperator.or.label ++ '(' :: (left.render ++ ',' :: right.render ++ [')'])

def Holds (row : List Text) : Tree → Prop
  | .leaf test => ∃ value, row[test.column]? = some value ∧ test.op.Holds test.operand value
  | .and left right => left.Holds row ∧ right.Holds row
  | .or left right => left.Holds row ∨ right.Holds row

def columns : Tree → List Nat
  | .leaf test => [test.column]
  | .and left right | .or left right => left.columns ++ right.columns

/-- The clause that is to be parsed. -/
def toClause : Tree → Clause
  | .leaf test => .leaf test.op test.column test.operand
  | .and left right => .and [left.toClause, right.toClause]
  | .or left right => .or [left.toClause, right.toClause]

end Tree

/-- Trees separated by spaces. -/
def renderAll (trees : List Tree) : Text := [' '].intercalate (trees.map Tree.render)

/-! ## Masked commas -/

/-- The text with all its commas masked. -/
def masked (text : Text) : Text := text.flatMap fun c => if c = ',' then commaReplaceString else [c]

theorem masked_append (front back : Text) : masked (front ++ back) = masked front ++ masked back :=
  List.flatMap_append

theorem comma_not_mem_masked (text : Text) : ',' ∉ masked text := by
  intro inside
  obtain ⟨c, _, there⟩ := List.mem_flatMap.mp inside
  split at there
  · revert there
    decide
  · next other => exact other (List.mem_singleton.mp there).symm

/-- A word without the first letter of the marker is not made by masking. -/
theorem prefix_of_masked {word text : Text} (plain : 'H' ∉ word)
    (front : word <+: masked text) : word <+: text := by
  -- by induction on the text: a masked comma starts with a letter the word does not have
  induction text generalizing word with
  | nil => exact front
  | cons c rest ih =>
    cases word with
    | nil => exact List.nil_prefix
    | cons d word =>
      obtain ⟨here, later⟩ := List.ne_and_not_mem_of_not_mem_cons plain
      by_cases comma : c = ','
      · have marked : masked (c :: rest) = 'H' :: ("J3Y5XMC".toList ++ masked rest) := by
          rw [comma]
          rfl
        rw [marked, List.cons_prefix_cons] at front
        exact absurd front.1.symm here
      · have same : masked (c :: rest) = c :: masked rest := by
          change (if c = ',' then commaReplaceString else [c]) ++ masked rest = _
          rw [if_neg comma]
          rfl
        rw [same, List.cons_prefix_cons] at front
        rw [List.cons_prefix_cons]
        exact ⟨front.1, ih later front.2⟩

/-- Unmasking gives a text back that does not have the marker itself. -/
theorem replaceAll_masked {text : Text} (unmarked : ¬ commaReplaceString <:+: text) :
    replaceAll commaReplaceString [','] (masked text) = text := by
  unfold replaceAll
  -- by induction on the text, one character or one marker at a time
  induction text with
  | nil => rfl
  | cons c rest ih =>
    have later : ¬ commaReplaceString <:+: rest := fun inside =>
      unmarked (inside.trans (List.suffix_cons c rest).isInfix)
    by_cases comma : c = ','
    · have marked : masked (c :: rest) = 'H' :: ("J3Y5XMC".toList ++ masked rest) := by
        rw [comma]
        rfl
      have found : commaReplaceString <+: 'H' :: ("J3Y5XMC".toList ++ masked rest) :=
        ⟨masked rest, rfl⟩
      rw [marked, replaceFrom, if_pos found, comma]
      have skipped := replaceFrom_skip commaReplaceString [','] "J3Y5XMC".toList (masked rest)
      change ',' :: replaceFrom commaReplaceString [','] "J3Y5XMC".toList.length _ = _
      rw [skipped, ih later]
    · have same : masked (c :: rest) = c :: masked rest := by
        change (if c = ',' then commaReplaceString else [c]) ++ masked rest = _
        rw [if_neg comma]
        rfl
      have absent : ¬ commaReplaceString <+: c :: masked rest := by
        intro front
        have spelled : commaReplaceString = 'H' :: "J3Y5XMC".toList := rfl
        rw [spelled, List.cons_prefix_cons] at front
        have whole : commaReplaceString <+: c :: rest := by
          rw [spelled, List.cons_prefix_cons]
          exact ⟨front.1, prefix_of_masked (by decide) front.2⟩
        exact unmarked whole.isInfix
      rw [same, replaceFrom, if_neg absent, ih later]

/-! ## Brackets -/

/-- The text closes the brackets it opens, so that in brackets all its commas are masked. -/
def Closed (text : Text) : Prop :=
  ∀ (depth : Int) (rest : Text), 1 ≤ depth →
    replaceCommasFrom depth (text ++ rest) = masked text ++ replaceCommasFrom depth rest

theorem closed_append {front back : Text} (closed : Closed front) (closed' : Closed back) :
    Closed (front ++ back) := by
  intro depth rest inside
  rw [List.append_assoc, closed depth _ inside, closed' depth rest inside, masked_append,
    List.append_assoc]

/-- A character that is no bracket. -/
def Flat (c : Char) : Prop := c ∉ ['(', '[', ')', ']']

theorem inhibitors_flat {c : Char} (flat : Flat c) (depth : Int) : inhibitors depth c = depth := by
  simp only [Flat, List.mem_cons, List.not_mem_nil, or_false, not_or] at flat
  unfold inhibitors
  rw [if_neg (by tauto), if_neg (by tauto)]

theorem closed_of_flat {text : Text} (flat : ∀ c ∈ text, Flat c) : Closed text := by
  intro depth rest inside
  -- no character changes the depth
  induction text with
  | nil => rfl
  | cons c text ih =>
    obtain ⟨here, later⟩ := List.forall_mem_cons.mp flat
    rw [List.cons_append, replaceCommasFrom, inhibitors_flat here, ih later]
    change maskedChar depth c ++ _ = ((if c = ',' then commaReplaceString else [c]) ++ masked text) ++ _
    unfold maskedChar
    rw [List.append_assoc]
    by_cases comma : c = ','
    · rw [if_pos ⟨by omega, comma⟩, if_pos comma]
    · rw [if_neg (fun both => comma both.2), if_neg comma]

/-- What a label and a pair of brackets around closed text do at any depth. -/
theorem replaceCommas_labelled {label body : Text} (flat : ∀ c ∈ label, Flat c ∧ c ≠ ',')
    (closed : Closed body) {depth : Int} (outside : 0 ≤ depth) (rest : Text) :
    replaceCommasFrom depth (label ++ '(' :: (body ++ ')' :: rest)) =
      masked (label ++ '(' :: (body ++ [')'])) ++ replaceCommasFrom depth rest := by
  -- the label goes through as it is, then the bracket raises the depth
  induction label with
  | nil =>
    have opened : inhibitors depth '(' = depth + 1 := by
      unfold inhibitors
      rw [if_pos (.inl rfl)]
    have shut : inhibitors (depth + 1) ')' = depth := by
      unfold inhibitors
      rw [if_neg (by decide), if_pos (.inl rfl)]
      omega
    have bracket (depth : Int) (c : Char) (other : c ≠ ',') : maskedChar depth c = [c] :=
      if_neg fun both => other both.2
    rw [List.nil_append, List.nil_append, replaceCommasFrom, opened, bracket _ _ (by decide),
      closed _ _ (by omega), replaceCommasFrom, shut, bracket _ _ (by decide)]
    change _ = '(' :: masked (body ++ [')']) ++ _
    simp only [masked_append, List.cons_append, List.append_assoc, List.nil_append]
    rfl
  | cons c label ih =>
    obtain ⟨here, later⟩ := List.forall_mem_cons.mp flat
    have plain : maskedChar depth c = [c] := if_neg fun both => here.2 both.2
    rw [List.cons_append, replaceCommasFrom, inhibitors_flat here.1, plain, ih later]
    change c :: _ = ((if c = ',' then commaReplaceString else [c]) ++ masked _) ++ _
    rw [if_neg here.2]
    rfl

/-! ## What is rendered -/

theorem flat_of_alphanum {c : Char} (alphanum : c.isAlphanum = true) :
    Flat c ∧ c ≠ ',' ∧ c ≠ ' ' := by
  have other (d : Char) (noAlphanum : d.isAlphanum = false) : c ≠ d := by
    rintro rfl
    rw [alphanum] at noAlphanum
    cases noAlphanum
  refine ⟨?_, other _ (by decide), other _ (by decide)⟩
  simp only [Flat, List.mem_cons, List.not_mem_nil, or_false, not_or]
  exact ⟨other _ (by decide), other _ (by decide), other _ (by decide), other _ (by decide)⟩

theorem label_flat (op : LeafOperator) : ∀ c ∈ op.label, Flat c ∧ c ≠ ',' ∧ c ≠ ' ' := by
  have letters : op.label.all Char.isAlphanum = true := by cases op <;> decide
  exact fun c inside => flat_of_alphanum (List.all_eq_true.mp letters c inside)

theorem logical_flat (op : LogicalOperator) : ∀ c ∈ op.label, Flat c ∧ c ≠ ',' ∧ c ≠ ' ' := by
  have letters : op.label.all Char.isAlphanum = true := by cases op <;> decide
  exact fun c inside => flat_of_alphanum (List.all_eq_true.mp letters c inside)

theorem digit_flat {n : Nat} {c : Char} (inside : c ∈ decimal n) : Flat c ∧ c ≠ ',' ∧ c ≠ ' ' := by
  apply flat_of_alphanum
  unfold Char.isAlphanum
  rw [isDigit_of_mem_decimal inside, Bool.or_true]

theorem unmarked_of_letter {text : Text} (letter : 'H' ∉ text) : ¬ commaReplaceString <:+: text :=
  fun inside => letter (inside.subset (by decide))

theorem label_unmarked (op : LeafOperator) : ¬ commaReplaceString <:+: op.label :=
  unmarked_of_letter (by cases op <;> decide)

theorem logical_unmarked (op : LogicalOperator) : ¬ commaReplaceString <:+: op.label :=
  unmarked_of_letter (by cases op <;> decide)

theorem decimal_unmarked (n : Nat) : ¬ commaReplaceString <:+: decimal n := by
  apply unmarked_of_letter
  intro letter
  have digit := isDigit_of_mem_decimal letter
  cases digit

namespace Leaf

theorem operand_flat (test : Leaf) {c : Char} (inside : c ∈ test.operand) :
    Flat c ∧ c ≠ ',' ∧ c ≠ ' ' := by
  have clean := test.clean c inside
  simp only [List.mem_cons, List.not_mem_nil, or_false, not_or] at clean
  simp only [Flat, List.mem_cons, List.not_mem_nil, or_false, not_or]
  tauto

theorem body_flat (test : Leaf) : ∀ c ∈ decimal test.column ++ ',' :: test.operand, Flat c := by
  intro c inside
  rcases List.mem_append.mp inside with digit | later
  · exact (digit_flat digit).1
  · rcases List.mem_cons.mp later with rfl | operand
    · simp [Flat]
    · exact (test.operand_flat operand).1

end Leaf

namespace Tree

theorem replaceCommas_bracketed {label body : Text} (flat : ∀ c ∈ label, Flat c ∧ c ≠ ',' ∧ c ≠ ' ')
    (closed : Closed body) {depth : Int} (outside : 0 ≤ depth) (rest : Text) :
    replaceCommasFrom depth ((label ++ '(' :: (body ++ [')'])) ++ rest) =
      masked (label ++ '(' :: (body ++ [')'])) ++ replaceCommasFrom depth rest := by
  rw [← replaceCommas_labelled (fun c inside => ⟨(flat c inside).1, (flat c inside).2.1⟩)
    closed outside]
  simp only [List.append_assoc, List.cons_append, List.nil_append]

theorem closed_pair {front back : Text} (closed : Closed front) (closed' : Closed back) :
    Closed (front ++ ',' :: back) := by
  have comma : Closed [','] := closed_of_flat (by simp [Flat])
  exact closed_append closed (closed_append comma closed')

/-- At the top level and in brackets, the commas of a rendered tree are masked. -/
theorem replaceCommas_render (tree : Tree) {depth : Int} (outside : 0 ≤ depth) (rest : Text) :
    replaceCommasFrom depth (tree.render ++ rest) =
      masked tree.render ++ replaceCommasFrom depth rest := by
  -- by induction on the tree: a leaf is flat in its brackets, a node has two closed parts
  induction tree generalizing depth rest with
  | leaf test =>
    exact replaceCommas_bracketed (label_flat test.op) (closed_of_flat test.body_flat) outside rest
  | and left right ihl ihr =>
    have closed := closed_pair (fun depth rest inside => ihl (by omega) rest)
      (fun depth rest inside => ihr (by omega) rest)
    exact replaceCommas_bracketed (logical_flat .and) closed outside rest
  | or left right ihl ihr =>
    have closed := closed_pair (fun depth rest inside => ihl (by omega) rest)
      (fun depth rest inside => ihr (by omega) rest)
    exact replaceCommas_bracketed (logical_flat .or) closed outside rest

theorem render_unmarked (tree : Tree) : ¬ commaReplaceString <:+: tree.render := by
  have bracketed {label front back : Text} (labelled : ¬ commaReplaceString <:+: label)
      (unmarked : ¬ commaReplaceString <:+: front) (unmarked' : ¬ commaReplaceString <:+: back) :
      ¬ commaReplaceString <:+: label ++ '(' :: (front ++ ',' :: back ++ [')']) := by
    intro inside
    rcases infix_of_append_cons (by decide) inside with there | inside
    · exact labelled there
    · rcases infix_of_append_cons (by decide) inside with inside | nothing
      · rcases infix_of_append_cons (by decide) inside with there | there
        · exact unmarked there
        · exact unmarked' there
      · revert nothing
        decide
  -- the marker cannot cross a bracket or a comma, so it is in one of the parts
  induction tree with
  | leaf test => exact bracketed (label_unmarked test.op) (decimal_unmarked _) test.unmarked
  | and left right ihl ihr => exact bracketed (logical_unmarked .and) ihl ihr
  | or left right ihl ihr => exact bracketed (logical_unmarked .or) ihl ihr

theorem space_not_mem_render (tree : Tree) : ' ' ∉ tree.render := by
  have bracketed {label front back : Text} (flat : ∀ c ∈ label, Flat c ∧ c ≠ ',' ∧ c ≠ ' ')
      (clean : ' ' ∉ front) (clean' : ' ' ∉ back) :
      ' ' ∉ label ++ '(' :: (front ++ ',' :: back ++ [')']) := by
    intro inside
    simp only [List.mem_append, List.mem_cons, List.not_mem_nil, or_false] at inside
    rcases inside with there | letter | (there | letter | there) | letter
    · exact (flat _ there).2.2 rfl
    · revert letter
      decide
    · exact clean there
    · revert letter
      decide
    · exact clean' there
    · revert letter
      decide
  induction tree with
  | leaf test =>
    exact bracketed (label_flat test.op) (fun digit => (digit_flat digit).2.2 rfl)
      (fun letter => (test.operand_flat letter).2.2 rfl)
  | and left right ihl ihr => exact bracketed (logical_flat .and) ihl ihr
  | or left right ihl ihr => exact bracketed (logical_flat .or) ihl ihr

theorem render_ends (tree : Tree) : (∃ first, tree.render.head? = some first ∧ 32 < first.toNat) ∧
    tree.render.getLast? = some ')' := by
  have bracket (label body : Text) : (label ++ '(' :: (body ++ [')'])).getLast? = some ')' := by
    have concat : label ++ '(' :: (body ++ [')']) = (label ++ '(' :: body) ++ [')'] := by simp
    rw [concat, List.getLast?_concat]
  cases tree with
  | leaf test =>
    refine ⟨?_, bracket _ _⟩
    unfold render
    cases test.op with
    | equal => exact ⟨'E', rfl, by decide⟩
    | notEqual => exact ⟨'N', rfl, by decide⟩
    | startsWith | endsWith | contains => exact ⟨'S', rfl, by decide⟩
  | and left right => exact ⟨⟨'A', rfl, by decide⟩, bracket _ _⟩
  | or left right => exact ⟨⟨'O', rfl, by decide⟩, bracket _ _⟩

theorem render_ne_nil (tree : Tree) : tree.render ≠ [] := by
  intro empty
  have ends := tree.render_ends.2
  rw [empty] at ends
  cases ends

theorem trim_render (tree : Tree) : trim tree.render = tree.render := by
  obtain ⟨⟨first, starts, dark⟩, ends⟩ := tree.render_ends
  exact trim_eq starts ends dark (by decide)

end Tree

/-! ## Parsing -/

theorem parseClauseIn_single {clauseStr : Text} (trimmed : trim clauseStr = clauseStr)
    (filled : clauseStr ≠ []) (single : ' ' ∉ clauseStr) (frames : Nat) :
    parseClauseIn (frames + 1) clauseStr =
      match logicalOperator clauseStr with
      | .and => do
          let parts ← clauseParts .and clauseStr
          return .and (← parseChildren (parseClauseIn frames) parts)
      | .or => do
          let parts ← clauseParts .or clauseStr
          return .or (← parseChildren (parseClauseIn frames) parts)
      | .none => parseLeaf clauseStr := by
  have whole : split ' ' clauseStr = [clauseStr] := if_neg single
  unfold parseClauseIn
  dsimp only
  rw [trimmed, if_neg filled, whole]
  rfl

theorem parseLeaf_render (test : Leaf) : parseLeaf (Tree.leaf test).render =
    .ok (.leaf test.op test.column test.operand) := by
  have found : LeafOperator.ofClause (Tree.leaf test).render = some test.op := by
    unfold Tree.render
    cases test.op <;> rfl
  have rest : (Tree.leaf test).render.drop test.op.label.length =
      [','].intercalate ['(' :: decimal test.column, test.operand ++ [')']] := by
    unfold Tree.render
    rw [List.drop_left]
    simp [List.intercalate]
  have ops : split ',' ((Tree.leaf test).render.drop test.op.label.length) =
      ['(' :: decimal test.column, test.operand ++ [')']] := by
    rw [rest]
    apply split_intercalate (List.cons_ne_nil _ _)
    · simp
    · intro part inside comma
      simp only [List.mem_cons, List.not_mem_nil, or_false] at inside
      rcases inside with rfl | rfl
      · rcases List.mem_cons.mp comma with bracket | digit
        · revert bracket
          decide
        · exact (digit_flat digit).2.1 rfl
      · rcases List.mem_append.mp comma with letter | bracket
        · exact (test.operand_flat letter).2.1 rfl
        · revert bracket
          decide
  have index : substring ('(' :: decimal test.column) 1 ('(' :: decimal test.column).length =
      .ok (decimal test.column) := by
    have middle : substring (['('] ++ decimal test.column ++ []) 1
        ('(' :: decimal test.column).length = .ok (decimal test.column) := by
      apply substring_middle _ _ _ rfl
      rw [List.length_cons, List.length_singleton]
      omega
    rwa [List.append_nil] at middle
  have operand : substring (test.operand ++ [')']) 0
      (((test.operand ++ [')']).length : Int) - 1) = .ok test.operand := by
    apply substring_middle [] test.operand [')'] rfl
    rw [List.length_append, List.length_singleton, List.length_nil]
    omega
  unfold parseLeaf
  rw [found]
  dsimp only
  rw [ops]
  change (do
    let clauseIndex ← parseInt (← substring ('(' :: decimal test.column) 1
      ('(' :: decimal test.column).length)
    let second ← Except.ok (test.operand ++ [')'])
    return Clause.leaf test.op clauseIndex (← substring second 0 ((second.length : Int) - 1))) = _
  rw [index]
  change (do
    let clauseIndex ← parseInt (decimal test.column)
    return Clause.leaf test.op clauseIndex
      (← substring (test.operand ++ [')']) 0 (((test.operand ++ [')']).length : Int) - 1))) = _
  rw [parseInt_decimal test.small, operand]
  rfl

theorem clauseParts_render (op : LogicalOperator) (left right : Tree) :
    clauseParts op (op.label ++ '(' :: (left.render ++ ',' :: right.render ++ [')'])) =
      .ok [left.render, right.render] := by
  have inner : substring (op.label ++ '(' :: (left.render ++ ',' :: right.render ++ [')']))
      (op.label.length + 1)
      (((op.label ++ '(' :: (left.render ++ ',' :: right.render ++ [')'])).length : Int) - 1) =
      .ok (left.render ++ ',' :: right.render) := by
    have middle : substring (op.label ++ ['('] ++ (left.render ++ ',' :: right.render) ++ [')'])
        (op.label.length + 1)
        (((op.label ++ '(' :: (left.render ++ ',' :: right.render ++ [')'])).length : Int) - 1) =
        .ok (left.render ++ ',' :: right.render) := by
      apply substring_middle
      · simp
      · simp
        omega
    simpa only [List.append_assoc, List.singleton_append, List.cons_append, List.nil_append] using
      middle
  have commas : replaceNonRelevantCommas (left.render ++ ',' :: right.render) =
      [','].intercalate [masked left.render, masked right.render] := by
    have last := right.replaceCommas_render (Int.le_refl 0) []
    rw [List.append_nil] at last
    unfold replaceNonRelevantCommas
    rw [left.replaceCommas_render (Int.le_refl 0)]
    change _ ++ ([','] ++ replaceCommasFrom 0 right.render) = _
    rw [last]
    simp [List.intercalate, replaceCommasFrom]
  have filled (tree : Tree) : masked tree.render ≠ [] := by
    intro empty
    have back := replaceAll_masked tree.render_unmarked
    rw [empty] at back
    exact tree.render_ne_nil back.symm
  have parts : split ',' ([','].intercalate [masked left.render, masked right.render]) =
      [masked left.render, masked right.render] := by
    apply split_intercalate (List.cons_ne_nil _ _)
    · simp [filled]
    · simp [comma_not_mem_masked]
  unfold clauseParts
  rw [inner]
  change Except.ok (replaceBackCommas (split ',' (replaceNonRelevantCommas _))) = _
  rw [commas, parts]
  unfold replaceBackCommas
  rw [List.map_cons, List.map_cons, List.map_nil, replaceAll_masked left.render_unmarked,
    replaceAll_masked right.render_unmarked]

theorem parseChildren_pair {parse : Text → Except JavaException Clause} {left right : Tree}
    (parsed : parse left.render = .ok left.toClause)
    (parsed' : parse right.render = .ok right.toClause) :
    parseChildren parse [left.render, right.render] = .ok [left.toClause, right.toClause] := by
  unfold parseChildren
  rw [if_neg (by simp), List.mapM_cons, parsed, List.mapM_cons, parsed']
  rfl

theorem parseClauseIn_render (tree : Tree) {frames : Nat} (enough : tree.render.length < frames) :
    parseClauseIn frames tree.render = .ok tree.toClause := by
  -- by induction on the tree; every level uses one frame and at least one character
  induction tree generalizing frames with
  | leaf test =>
    obtain ⟨frames, rfl⟩ := Nat.exists_eq_add_one_of_ne_zero (Nat.ne_zero_of_lt enough)
    have leaf : logicalOperator (Tree.leaf test).render = .none := by
      unfold Tree.render
      cases test.op <;> rfl
    rw [parseClauseIn_single (Tree.trim_render _) (Tree.render_ne_nil _)
      (Tree.space_not_mem_render _), leaf]
    exact parseLeaf_render test
  | and left right ihl ihr =>
    obtain ⟨frames, rfl⟩ := Nat.exists_eq_add_one_of_ne_zero (Nat.ne_zero_of_lt enough)
    have shorter : left.render.length < frames ∧ right.render.length < frames := by
      simp only [Tree.render, List.length_append, List.length_cons] at enough
      omega
    have both : logicalOperator (Tree.and left right).render = .and := rfl
    rw [parseClauseIn_single (Tree.trim_render _) (Tree.render_ne_nil _)
      (Tree.space_not_mem_render _), both]
    dsimp only
    unfold Tree.render
    rw [clauseParts_render .and left right]
    change (do
      let children ← parseChildren (parseClauseIn frames) [left.render, right.render]
      return Clause.and children) = _
    rw [parseChildren_pair (ihl shorter.1) (ihr shorter.2)]
    rfl
  | or left right ihl ihr =>
    obtain ⟨frames, rfl⟩ := Nat.exists_eq_add_one_of_ne_zero (Nat.ne_zero_of_lt enough)
    have shorter : left.render.length < frames ∧ right.render.length < frames := by
      simp only [Tree.render, List.length_append, List.length_cons] at enough
      omega
    have either : logicalOperator (Tree.or left right).render = .or := rfl
    rw [parseClauseIn_single (Tree.trim_render _) (Tree.render_ne_nil _)
      (Tree.space_not_mem_render _), either]
    dsimp only
    unfold Tree.render
    rw [clauseParts_render .or left right]
    change (do
      let children ← parseChildren (parseClauseIn frames) [left.render, right.render]
      return Clause.or children) = _
    rw [parseChildren_pair (ihl shorter.1) (ihr shorter.2)]
    rfl

/-- The clause of a list of trees. -/
def conjunction : List Tree → Clause
  | [] => .empty
  | [tree] => tree.toClause
  | trees => .and (trees.map Tree.toClause)

theorem renderAll_single (tree : Tree) : renderAll [tree] = tree.render := by
  simp [renderAll, List.intercalate]

theorem renderAll_cons (first second : Tree) (trees : List Tree) :
    renderAll (first :: second :: trees) = first.render ++ ' ' :: renderAll (second :: trees) := by
  simp [renderAll, List.intercalate]

theorem length_render_le {trees : List Tree} {tree : Tree} (inside : tree ∈ trees) :
    tree.render.length ≤ (renderAll trees).length := by
  induction trees with
  | nil => cases inside
  | cons first trees ih =>
    cases trees with
    | nil => rw [List.mem_singleton.mp inside, renderAll_single]
    | cons second trees =>
      rw [renderAll_cons, List.length_append, List.length_cons]
      rcases List.mem_cons.mp inside with rfl | later
      · omega
      · have shorter := ih later
        omega

theorem renderAll_getLast? (tree : Tree) (trees : List Tree) :
    (renderAll (tree :: trees)).getLast? = some ')' := by
  induction trees generalizing tree with
  | nil =>
    rw [renderAll_single]
    exact tree.render_ends.2
  | cons second trees ih =>
    have tail : renderAll (tree :: second :: trees) =
        (tree.render ++ [' ']) ++ renderAll (second :: trees) := by
      rw [renderAll_cons, List.append_assoc]
      rfl
    have filled : renderAll (second :: trees) ≠ [] := by
      intro empty
      have ends := ih second
      rw [empty] at ends
      cases ends
    rw [tail, List.getLast?_append_of_ne_nil _ filled, ih second]

theorem trim_renderAll (tree : Tree) (trees : List Tree) :
    trim (renderAll (tree :: trees)) = renderAll (tree :: trees) := by
  obtain ⟨⟨first, starts, dark⟩, _⟩ := tree.render_ends
  have head : (renderAll (tree :: trees)).head? = some first := by
    -- the text ends as its last tree does
    cases trees with
    | nil => rwa [renderAll_single]
    | cons second trees => rw [renderAll_cons, List.head?_append, starts, Option.some_or]
  exact trim_eq head (renderAll_getLast? tree trees) dark (by decide)

theorem parseClause_renderAll (trees : List Tree) :
    parseClause (renderAll trees) = .ok (conjunction trees) := by
  match trees with
  | [] => rfl
  | [tree] =>
    rw [renderAll_single]
    exact parseClauseIn_render tree (Nat.lt_succ_self _)
  | first :: second :: trees =>
    have parts : split ' ' (renderAll (first :: second :: trees)) =
        (first :: second :: trees).map Tree.render := by
      apply split_intercalate (by simp)
      · intro part inside
        obtain ⟨tree, _, rfl⟩ := List.mem_map.mp inside
        exact tree.render_ne_nil
      · intro part inside
        obtain ⟨tree, _, rfl⟩ := List.mem_map.mp inside
        exact tree.space_not_mem_render
    have filled : renderAll (first :: second :: trees) ≠ [] := by
      intro empty
      rw [empty] at parts
      exact absurd (congrArg List.length parts) (by simp [split])
    have each (tree : Tree) (inside : tree ∈ first :: second :: trees) :
        parseClauseIn (renderAll (first :: second :: trees)).length tree.render =
          .ok tree.toClause := by
      apply parseClauseIn_render
      rw [renderAll_cons, List.length_append, List.length_cons]
      rcases List.mem_cons.mp inside with rfl | later
      · omega
      · have shorter := length_render_le later
        omega
    have children : ((first :: second :: trees).map Tree.render).mapM
        (parseClauseIn (renderAll (first :: second :: trees)).length) =
        .ok ((first :: second :: trees).map Tree.toClause) := by
      rw [List.mapM_map]
      exact Fallible.mapM_of_forall each
    unfold parseClause parseClauseIn
    dsimp only
    rw [trim_renderAll, if_neg filled, parts, if_pos (by simp)]
    unfold parseChildren
    rw [if_neg (by simp), children]
    rfl

/-! ## The parsed clause -/

theorem LeafOperator.isValid_iff (op : LeafOperator) (operand value : Text) :
    op.isValid operand value = true ↔ op.Holds operand value := by
  cases op with
  | equal => exact decide_eq_true_iff.trans eq_comm
  | notEqual => exact decide_eq_true_iff.trans ne_comm
  | startsWith | endsWith | contains =>
    by_cases empty : operand = []
    · simp [isValid, Holds, empty]
    · by_cases nothing : value = [] <;> simp [isValid, Holds, empty, nothing]

/-- On a row with the columns, the clause of a tree is as true as the tree. -/
theorem Tree.isValid_toClause (tree : Tree) {row : List Text}
    (wide : ∀ column ∈ tree.columns, column < row.length) :
    ∃ valid, tree.toClause.isValid row = .ok valid ∧ (valid = true ↔ tree.Holds row) := by
  -- by induction on the tree: the leaves look at their column, the nodes at their parts
  induction tree with
  | leaf test =>
    obtain ⟨value, there⟩ : ∃ value, row[test.column]? = some value :=
      ⟨_, List.getElem?_eq_getElem (wide test.column (List.mem_singleton_self _))⟩
    have cell : Clause.lineOperand row test.column = .ok value := by
      unfold Clause.lineOperand element
      rw [if_neg (by omega), Int.toNat_natCast, there]
    refine ⟨test.op.isValid test.operand value, ?_, ?_⟩
    · unfold toClause Clause.isValid
      rw [cell]
      rfl
    · rw [LeafOperator.isValid_iff]
      simp [Holds, there]
  | and left right ihl ihr =>
    obtain ⟨valid, evaluates, holds⟩ :=
      ihl fun column inside => wide column (List.mem_append_left _ inside)
    obtain ⟨valid', evaluates', holds'⟩ :=
      ihr fun column inside => wide column (List.mem_append_right _ inside)
    refine ⟨valid && valid', ?_, ?_⟩
    · simp only [toClause, Clause.isValid, Clause.allValid, evaluates, evaluates']
      cases valid <;> cases valid' <;> rfl
    · rw [Bool.and_eq_true, holds, holds']
      rfl
  | or left right ihl ihr =>
    obtain ⟨valid, evaluates, holds⟩ :=
      ihl fun column inside => wide column (List.mem_append_left _ inside)
    obtain ⟨valid', evaluates', holds'⟩ :=
      ihr fun column inside => wide column (List.mem_append_right _ inside)
    refine ⟨valid || valid', ?_, ?_⟩
    · simp only [toClause, Clause.isValid, Clause.anyValid, evaluates, evaluates']
      cases valid <;> cases valid' <;> rfl
    · rw [Bool.or_eq_true, holds, holds']
      rfl

theorem allValid_toClause {trees : List Tree} {row : List Text}
    (wide : ∀ tree ∈ trees, ∀ column ∈ tree.columns, column < row.length) :
    ∃ valid, Clause.allValid row (trees.map Tree.toClause) = .ok valid ∧
      (valid = true ↔ ∀ tree ∈ trees, tree.Holds row) := by
  induction trees with
  | nil => exact ⟨true, rfl, by simp⟩
  | cons tree trees ih =>
    obtain ⟨here, later⟩ := List.forall_mem_cons.mp wide
    obtain ⟨valid, evaluates, holds⟩ := tree.isValid_toClause here
    obtain ⟨valid', evaluates', holds'⟩ := ih later
    refine ⟨valid && valid', ?_, ?_⟩
    · simp only [List.map_cons, Clause.allValid, evaluates, evaluates']
      cases valid <;> rfl
    · rw [Bool.and_eq_true, holds, holds', List.forall_mem_cons]

theorem isValid_conjunction {trees : List Tree} {row : List Text}
    (wide : ∀ tree ∈ trees, ∀ column ∈ tree.columns, column < row.length) :
    ∃ valid, (conjunction trees).isValid row = .ok valid ∧
      (valid = true ↔ ∀ tree ∈ trees, tree.Holds row) := by
  match trees with
  | [] => exact ⟨true, by simp [conjunction, Clause.isValid], by simp⟩
  | [tree] =>
    obtain ⟨valid, evaluates, holds⟩ := tree.isValid_toClause (wide tree List.mem_cons_self)
    exact ⟨valid, evaluates, by rw [holds, List.forall_mem_singleton]⟩
  | first :: second :: trees =>
    obtain ⟨valid, evaluates, holds⟩ := allValid_toClause wide
    refine ⟨valid, ?_, holds⟩
    unfold conjunction Clause.isValid
    exact evaluates

/-- The largest of the columns, and 0 without any. -/
def largest (columns : List Nat) : Nat := columns.foldr max 0

theorem largest_append (front back : List Nat) :
    largest (front ++ back) = max (largest front) (largest back) := by
  unfold largest
  induction front with
  | nil => simp
  | cons column front ih => simp only [List.cons_append, List.foldr_cons, ih, max_assoc]

theorem maxCol_step (start next : Nat) :
    (if (start : Int) < next then (next : Int) else start) = (max start next : Nat) := by
  split <;> omega

theorem Tree.getMaxCol_toClause (tree : Tree) : tree.toClause.getMaxCol = largest tree.columns := by
  induction tree with
  | leaf test => simp [toClause, Clause.getMaxCol, columns, largest]
  | and left right ihl ihr | or left right ihl ihr =>
    have first := maxCol_step 0 (largest left.columns)
    have second := maxCol_step (max 0 (largest left.columns)) (largest right.columns)
    unfold toClause Clause.getMaxCol
    simp only [Clause.maxCol, ihl, ihr]
    rw [Nat.cast_zero] at first
    rw [first, second, columns, largest_append, Nat.zero_max]

theorem maxCol_toClause (trees : List Tree) (start : Nat) :
    Clause.maxCol start (trees.map Tree.toClause) =
      (max start (largest (trees.flatMap Tree.columns)) : Nat) := by
  induction trees generalizing start with
  | nil => simp [Clause.maxCol, largest]
  | cons tree trees ih =>
    rw [List.map_cons, Clause.maxCol, tree.getMaxCol_toClause, maxCol_step, ih,
      List.flatMap_cons, largest_append, max_assoc]

/-- A predicate that is rendered is parsed to a clause of the same meaning. -/
theorem parsed_predicate_means (trees : List Tree) :
    ∃ clause, parseClause (renderAll trees) = .ok clause ∧
      (∀ row : List Text,
        (∀ tree ∈ trees, ∀ column ∈ tree.columns, column < row.length) →
          ∃ valid, clause.isValid row = .ok valid ∧
            (valid = true ↔ ∀ tree ∈ trees, tree.Holds row)) ∧
      clause.getMaxCol = largest (trees.flatMap Tree.columns) := by
  refine ⟨conjunction trees, parseClause_renderAll trees, fun row wide => isValid_conjunction wide, ?_⟩
  match trees with
  | [] => simp [conjunction, Clause.getMaxCol, largest]
  | [tree] => simpa [conjunction] using tree.getMaxCol_toClause
  | first :: second :: trees =>
    have columns := maxCol_toClause (first :: second :: trees) 0
    rw [Nat.zero_max, Nat.cast_zero] at columns
    unfold conjunction Clause.getMaxCol
    exact columns

end Storlets.Csv
