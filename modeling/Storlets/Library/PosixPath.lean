import Storlets.Library.PyStr

set_option autoImplicit false

/-!
# POSIX path names

`join` is `os.path.join`. `resolve` gives the place a path names once `.` and `..` are
normalised away, as the list of the names from the root down to it.
-/

abbrev Location := List Text

namespace PosixPath

open PyStr

def isAbsolute (path : Text) : Bool := startsWith path "/"

/-- An absolute second part drops the first one. -/
def join (front back : Text) : Text :=
  if isAbsolute back then back
  else if front = [] ∨ endsWith front "/" then front ++ back
  else front ++ '/' :: back

def enter (here : Location) (segment : Text) : Location :=
  if segment = [] ∨ segment = ['.'] then here
  else if segment = ['.', '.'] then here.dropLast
  else here ++ [segment]

def walk (start : Location) (path : Text) : Location := (split '/' path).foldl enter start

def resolve (cwd : Location) (path : Text) : Location :=
  walk (if isAbsolute path then [] else cwd) path

/-- Whether the last segment can be the name of a file: a path that ends in a slash, `.` or `..`
names a directory. -/
def namesFile (path : Text) : Bool :=
  match (split '/' path).getLast? with
  | some last => last ≠ [] && last ≠ ['.'] && last ≠ ['.', '.']
  | none => false

def basename (path : Text) : Text := ((split '/' path).getLast?).getD []

theorem split_append (front back : Text) :
    split '/' (front ++ '/' :: back) = split '/' front ++ split '/' back :=
  List.splitOn_append_cons_self front back

theorem walk_append (start : Location) (front back : Text) :
    walk start (front ++ '/' :: back) = walk (walk start front) back := by
  rw [walk, split_append, List.foldl_append]
  rfl

@[simp] theorem walk_nil (start : Location) : walk start [] = start := rfl

theorem isAbsolute_append {front : Text} (back : Text) (filled : front ≠ []) :
    isAbsolute (front ++ back) = isAbsolute front := by
  obtain ⟨first, rest, rfl⟩ := List.exists_cons_of_ne_nil filled
  rfl

theorem eq_append_slash {front : Text} (slash : endsWith front "/") :
    ∃ start, front = start ++ ['/'] := by
  obtain ⟨start, same⟩ := List.isSuffixOf_iff_suffix.mp slash
  exact ⟨start, same.symm⟩

theorem resolve_join (cwd : Location) (front back : Text) :
    resolve cwd (join front back) =
      if isAbsolute back then resolve cwd back else walk (resolve cwd front) back := by
  unfold join
  split
  next => rfl
  next relative =>
    split
    next ending =>
      rcases ending with rfl | slash
      · rw [List.nil_append, resolve, if_neg relative]
        rfl
      · obtain ⟨start, rfl⟩ := eq_append_slash slash
        have same : start ++ ['/'] ++ back = start ++ '/' :: back := by simp
        rw [resolve, isAbsolute_append _ (by simp), same, walk_append]
        rw [resolve, walk_append]
        rfl
    next ending =>
      have filled : front ≠ [] := fun empty => ending (.inl empty)
      rw [resolve, isAbsolute_append _ filled, walk_append]
      rfl

theorem split_getLast?_append (front back : Text) :
    (split '/' (front ++ '/' :: back)).getLast? = (split '/' back).getLast? := by
  have filled : split '/' back ≠ [] := List.splitOn_ne_nil _ _
  rw [split_append, List.getLast?_append_of_ne_nil _ filled]

/-- What is joined on decides whether the whole path can name a file. -/
theorem namesFile_join (front back : Text) : namesFile (join front back) = namesFile back := by
  unfold join
  split
  next => rfl
  next relative =>
    split
    next ending =>
      rcases ending with rfl | slash
      · rfl
      · obtain ⟨start, rfl⟩ := eq_append_slash slash
        have same : start ++ ['/'] ++ back = start ++ '/' :: back := by simp
        rw [namesFile, same, split_getLast?_append]
        rfl
    next ending =>
      rw [namesFile, split_getLast?_append]
      rfl

/-- A name without a slash that is neither `.` nor `..`. -/
def Plain (name : Text) : Prop :=
  '/' ∉ name ∧ name ≠ [] ∧ name ≠ ['.'] ∧ name ≠ ['.', '.']

instance (name : Text) : Decidable (Plain name) :=
  inferInstanceAs (Decidable ('/' ∉ name ∧ name ≠ [] ∧ name ≠ ['.'] ∧ name ≠ ['.', '.']))

theorem namesFile_of_plain {name : Text} (plain : Plain name) : namesFile name = true := by
  have single : split '/' name = [name] := List.splitOn_eq_singleton plain.1
  simp [namesFile, single, plain.2.1, plain.2.2.1, plain.2.2.2]

theorem walk_plain (start : Location) {name : Text} (plain : Plain name) :
    walk start name = start ++ [name] := by
  have single : split '/' name = [name] := List.splitOn_eq_singleton plain.1
  simp [walk, single, enter, plain.2.1, plain.2.2.1, plain.2.2.2]

theorem not_isAbsolute {name : Text} (segment : '/' ∉ name) : isAbsolute name = false := by
  cases name with
  | nil => rfl
  | cons first rest =>
    have differs : first ≠ '/' := fun same => segment (same ▸ List.mem_cons_self)
    simp [isAbsolute, startsWith, List.isPrefixOf, Ne.symm differs]

theorem Plain.relative {name : Text} (plain : Plain name) : isAbsolute name = false :=
  not_isAbsolute plain.1

theorem resolve_join_segment (cwd : Location) (front : Text) {name : Text}
    (segment : '/' ∉ name) : resolve cwd (join front name) = enter (resolve cwd front) name := by
  have single : split '/' name = [name] := List.splitOn_eq_singleton segment
  rw [resolve_join, not_isAbsolute segment, if_neg Bool.false_ne_true, walk, single]
  rfl

theorem resolve_join_plain (cwd : Location) (front : Text) {name : Text} (plain : Plain name) :
    resolve cwd (join front name) = resolve cwd front ++ [name] := by
  rw [resolve_join, plain.relative, if_neg (by simp), walk_plain _ plain]

theorem not_mem_of_mem_split {path segment : Text} (inside : segment ∈ split '/' path) :
    '/' ∉ segment := by
  induction path generalizing segment with
  | nil =>
    obtain rfl := List.mem_singleton.mp inside
    simp
  | cons c rest ih =>
    rw [split, List.splitOn_cons_eq_if_modifyHead] at inside
    split at inside
    next =>
      rcases List.mem_cons.mp inside with rfl | later
      · simp
      · exact ih later
    next differs =>
      obtain ⟨first, others, same⟩ :=
        List.exists_cons_of_ne_nil (List.splitOn_ne_nil '/' rest)
      rw [same, List.modifyHead_cons] at inside
      have slash : c ≠ '/' := by simpa using differs
      rcases List.mem_cons.mp inside with rfl | later
      · have clean : '/' ∉ first := ih (by rw [split, same]; exact List.mem_cons_self ..)
        simp [clean, Ne.symm slash]
      · exact ih (by rw [split, same]; exact List.mem_cons_of_mem _ later)

/-- A path that can name a file ends in a plain name. -/
theorem plain_basename {path : Text} (named : namesFile path = true) : Plain (basename path) := by
  unfold namesFile at named
  unfold basename
  split at named
  next last ends =>
    rw [ends, Option.getD_some]
    simp only [Bool.and_eq_true, decide_eq_true_eq] at named
    exact ⟨not_mem_of_mem_split (List.mem_of_getLast? ends), named.1.1, named.1.2, named.2⟩
  next => cases named

end PosixPath
