import Mathlib.Data.List.TakeWhile

set_option autoImplicit false

/-!
# The lines of a text

A text of bytes is parted at its first newline.
-/

namespace Storlets

def newline : UInt8 := 10

/-- `buf.partition(b'\n')`. -/
def partition (buf : List UInt8) : List UInt8 × List UInt8 × List UInt8 :=
  let found := buf.dropWhile (· ≠ newline)
  (buf.takeWhile (· ≠ newline), found.take 1, found.drop 1)

def firstLine (text : List UInt8) : List UInt8 := (partition text).1 ++ (partition text).2.1

/-- The first line of a text, to its end if it has no newline, cut to the size. -/
def lineOf (size : Int) (text : List UInt8) : List UInt8 :=
  if 0 ≤ size then (firstLine text).take size.toNat else firstLine text

theorem firstLine_append_rest (text : List UInt8) :
    firstLine text ++ (partition text).2.2 = text := by
  simp only [firstLine, partition, List.append_assoc, List.take_append_drop,
    List.takeWhile_append_dropWhile]

theorem firstLine_of_mem {text : List UInt8} (found : newline ∈ text) (more : List UInt8) :
    firstLine (text ++ more) = firstLine text := by
  have left : text.dropWhile (· ≠ newline) ≠ [] := by
    intro nothing
    have all := List.dropWhile_eq_nil_iff.mp nothing newline found
    simp at all
  have shorter : (text.takeWhile (· ≠ newline)).length ≠ text.length := by
    intro same
    have whole := List.takeWhile_append_dropWhile (p := (· ≠ newline)) (l := text)
    have lengths := congrArg List.length whole
    rw [List.length_append, same, Nat.add_eq_left] at lengths
    exact left (List.eq_nil_of_length_eq_zero lengths)
  simp only [firstLine, partition, List.takeWhile_append, if_neg shorter, List.dropWhile_append]
  rw [if_neg (by simpa using left)]
  congr 1
  exact List.take_append_of_le_length (List.length_pos_iff.mpr left)

theorem firstLine_of_not_mem {text : List UInt8} (absent : newline ∉ text) (more : List UInt8) :
    firstLine (text ++ more) = text ++ firstLine more := by
  have all : ∀ byte ∈ text, (byte ≠ newline) := fun byte inside same => absent (same ▸ inside)
  simp only [firstLine, partition]
  rw [List.takeWhile_append_of_pos (by simpa using all),
    List.dropWhile_append_of_pos (by simpa using all), List.append_assoc]

theorem firstLine_alone {text : List UInt8} (absent : newline ∉ text) : firstLine text = text := by
  have whole := firstLine_of_not_mem absent []
  have none : firstLine ([] : List UInt8) = [] := rfl
  rwa [List.append_nil, none, List.append_nil] at whole

theorem lineOf_whole {size : Int} {text : List UInt8} (within : 0 ≤ size → text.length ≤ size) :
    lineOf size text = firstLine text := by
  unfold lineOf
  split
  · next sized =>
    have shorter := congrArg List.length (firstLine_append_rest text)
    rw [List.length_append] at shorter
    have bound := within sized
    exact List.take_of_length_le (by omega)
  · rfl

/-- The line of a text is that of its front, where the front has the newline or the size. -/
theorem lineOf_append {size : Int} {text : List UInt8}
    (enough : newline ∈ text ∨ (0 ≤ size ∧ size ≤ text.length)) (more : List UInt8) :
    lineOf size (text ++ more) = lineOf size text := by
  by_cases found : newline ∈ text
  · rw [lineOf, lineOf, firstLine_of_mem found]
  · obtain ⟨bounded, within⟩ := enough.resolve_left found
    rw [lineOf, lineOf, if_pos bounded, if_pos bounded, firstLine_of_not_mem found,
      firstLine_alone found, List.take_append_of_le_length (by omega)]

/-! ## All of the lines -/

/-- The lines of a text, the last of which may lack its newline. -/
def linesOf : List UInt8 → List (List UInt8)
  | [] => []
  | byte :: rest =>
      if byte = newline then [byte] :: linesOf rest
      else
        match linesOf rest with
        | [] => [[byte]]
        | line :: others => (byte :: line) :: others

def IsLine (line : List UInt8) : Prop := ∃ body, newline ∉ body ∧ line = body ++ [newline]

theorem firstLine_cons (byte : UInt8) (rest : List UInt8) :
    firstLine (byte :: rest) = if byte = newline then [byte] else byte :: firstLine rest := by
  by_cases found : byte = newline <;> simp [firstLine, partition, found]

theorem firstLine_take (count : Nat) (text : List UInt8) :
    firstLine (text.take count) = (firstLine text).take count := by
  induction text generalizing count with
  | nil =>
    have none : firstLine ([] : List UInt8) = [] := rfl
    simp [none]
  | cons byte rest ih =>
    cases count with
    | zero => rfl
    | succ count =>
      rw [List.take_succ_cons, firstLine_cons, firstLine_cons]
      split
      · simp
      · rw [ih, List.take_succ_cons]

theorem firstLine_ne_nil {text : List UInt8} (filled : text ≠ []) : firstLine text ≠ [] := by
  cases text with
  | nil => exact absurd rfl filled
  | cons byte rest =>
    rw [firstLine_cons]
    split <;> simp

theorem lineOf_eq_nil_iff {size : Int} {text : List UInt8} (asked : size ≠ 0) :
    lineOf size text = [] ↔ text = [] := by
  constructor
  · intro nothing
    by_contra filled
    have some := firstLine_ne_nil filled
    unfold lineOf at nothing
    split at nothing
    · rcases List.take_eq_nil_iff.mp nothing with zero | none
      · omega
      · exact some none
    · exact some nothing
  · rintro rfl
    unfold lineOf
    have none : firstLine ([] : List UInt8) = [] := rfl
    simp [none]

theorem linesOf_eq {text : List UInt8} (filled : text ≠ []) :
    linesOf text = firstLine text :: linesOf (text.drop (firstLine text).length) := by
  induction text with
  | nil => exact absurd rfl filled
  | cons byte rest ih =>
    rw [linesOf, firstLine_cons]
    split
    · rfl
    · cases rest with
      | nil => rfl
      | cons next others =>
        rw [ih (by simp)]
        rfl

theorem linesOf_flatten (text : List UInt8) : (linesOf text).flatten = text := by
  induction text with
  | nil => rfl
  | cons byte rest ih =>
    rw [linesOf]
    split
    · rw [List.flatten_cons, ih]
      rfl
    · split
      · next none =>
        rw [none] at ih
        rw [← ih]
        rfl
      · next line others lines =>
        rw [lines] at ih
        rw [← ih]
        rfl

/-- Only the last one may be no whole line. -/
theorem isLine_of_linesOf {text : List UInt8} :
    ∀ line ∈ (linesOf text).dropLast, IsLine line := by
  induction text with
  | nil => exact nofun
  | cons byte rest ih =>
    have single : IsLine [newline] := ⟨[], List.not_mem_nil, rfl⟩
    rw [linesOf]
    split
    · next found =>
      cases later : linesOf rest with
      | nil => exact nofun
      | cons next others =>
        rw [later] at ih
        rw [List.dropLast_cons_of_ne_nil (by simp)]
        intro line inside
        rcases List.mem_cons.mp inside with rfl | inside
        · rw [found]
          exact single
        · exact ih line inside
    · next differs =>
      cases later : linesOf rest with
      | nil => exact nofun
      | cons next others =>
        cases others with
        | nil => exact nofun
        | cons second others =>
          rw [later, List.dropLast_cons_of_ne_nil (by simp)] at ih
          dsimp only
          rw [List.dropLast_cons_of_ne_nil (by simp)]
          intro line inside
          rcases List.mem_cons.mp inside with rfl | inside
          · obtain ⟨body, clean, rfl⟩ := ih next List.mem_cons_self
            refine ⟨byte :: body, ?_, rfl⟩
            rw [List.mem_cons, not_or]
            exact ⟨Ne.symm differs, clean⟩
          · exact ih line (List.mem_cons_of_mem _ inside)

/-- A budget of bytes is spent line by line. -/
theorem linesOf_take {budget : Nat} {text : List UInt8} (filled : text ≠ []) (some : 0 < budget) :
    linesOf (text.take budget) = lineOf budget text ::
      linesOf ((text.drop (lineOf budget text).length).take
        (budget - (lineOf budget text).length)) := by
  have front : text.take budget ≠ [] := by
    rw [Ne, List.take_eq_nil_iff, not_or]
    exact ⟨by omega, filled⟩
  have line : firstLine (text.take budget) = lineOf budget text := by
    rw [firstLine_take, lineOf, if_pos (by omega)]
    rfl
  rw [linesOf_eq front, line, List.drop_take]

end Storlets
