import Storlets.Middleware.Http

set_option autoImplicit false

/-!
# The input files of a storlet

A range input file is an input file that reads its descriptor inside a window.
-/

namespace Storlets

open PyStr

/-- A file object over a descriptor. -/
structure ObjFile where
  content : Bytes
  offset : Nat := 0
  seekable : Bool

inductive FileError where
  | unseekable
  /-- `read` of a size below -1, or a text that is not a number. -/
  | valueError
  deriving DecidableEq

namespace ObjFile

def read (file : ObjFile) (size : Int) : Except FileError (Bytes × ObjFile) :=
  if size < -1 then .error .valueError
  else
    let rest := file.content.drop file.offset
    let data := if size < 0 then rest else rest.take size.toNat
    .ok (data, { file with offset := file.offset + data.length })

def seek (file : ObjFile) (offset : Nat) : Except FileError ObjFile :=
  if file.seekable then .ok { file with offset } else .error .unseekable

end ObjFile

/-- What a `StorletRangeInputFile` adds to a `StorletInputFile`. -/
structure FileWindow where
  start : Nat
  «end» : Nat
  point : Nat

structure StorletInputFile where
  metadata : Dict Text
  objFile : ObjFile
  buf : Bytes := []
  window : Option FileWindow := none

namespace StorletInputFile

def ofRange (metadata : Dict Text) (objFile : ObjFile) (start stop : Nat) :
    Except FileError StorletInputFile := do
  let objFile ← objFile.seek start
  return { metadata, objFile, window := some ⟨start, stop, start⟩ }

/-- `_read`, which the range file overrides. -/
def readObj (file : StorletInputFile) (size : Int) : Except FileError (Bytes × StorletInputFile) :=
  match file.window with
  | none => do
      let (data, objFile) ← file.objFile.read size
      return (data, { file with objFile })
  | some window => do
      let left : Int := window.end - window.point
      let (data, objFile) ← file.objFile.read (if 0 ≤ size then min size left else left)
      return (data, { file with
        objFile
        window := some { window with point := window.point + data.length } })

def read (file : StorletInputFile) (size : Int) : Except FileError (Bytes × StorletInputFile) :=
  if 0 ≤ size then
    if size ≤ file.buf.length then
      .ok (file.buf.take size.toNat, { file with buf := file.buf.drop size.toNat })
    else do
      let (data, rest) ← file.readObj (size - file.buf.length)
      return (file.buf ++ data, { rest with buf := [] })
  else do
    let (data, rest) ← file.readObj (-1)
    return (file.buf ++ data, { rest with buf := [] })

/-- The bytes that are still to be read from the descriptor. -/
def unread (file : StorletInputFile) : Bytes :=
  let rest := file.objFile.content.drop file.objFile.offset
  match file.window with
  | none => rest
  | some window => rest.take (window.end - window.point)

/-- The bytes that are still to be read. -/
def remaining (file : StorletInputFile) : Bytes := file.buf ++ file.unread

/-- The window has not been left. -/
def InWindow (file : StorletInputFile) : Prop :=
  ∀ window, file.window = some window → window.point ≤ window.end

/-- The file after so many bytes of its descriptor. -/
def advance (file : StorletInputFile) (count : Nat) : StorletInputFile :=
  { file with
    objFile := { file.objFile with offset := file.objFile.offset + count }
    window := file.window.map fun window => { window with point := window.point + count } }

theorem unread_advance (file : StorletInputFile) (count : Nat) :
    (file.advance count).unread = file.unread.drop count := by
  unfold unread advance
  cases file.window with
  | none => exact List.drop_drop.symm
  | some window =>
    show List.take (window.end - (window.point + count)) _ = _
    rw [← List.drop_drop, List.drop_take, Nat.sub_add_eq]

theorem advance_inWindow {file : StorletInputFile} (inWindow : file.InWindow) (count : Nat) :
    (file.advance (file.unread.take count).length).InWindow := by
  intro later given
  obtain ⟨window, found, rfl⟩ := Option.map_eq_some_iff.mp given
  have bound := inWindow window found
  have inside : (file.unread.take count).length ≤ window.end - window.point := by
    unfold unread
    rw [found]
    simp only [List.length_take]
    omega
  show window.point + _ ≤ window.end
  omega

theorem objFile_read (file : ObjFile) {size : Int} (lower : -1 ≤ size) :
    file.read size = .ok ((if size < 0 then file.content.drop file.offset
        else (file.content.drop file.offset).take size.toNat), { file with
      offset := file.offset + (if size < 0 then file.content.drop file.offset
        else (file.content.drop file.offset).take size.toNat).length }) := by
  unfold ObjFile.read
  rw [if_neg (by omega)]

/-- `_read` returns the next bytes, and all of them where no size is given. -/
theorem readObj_spec {file : StorletInputFile} {size : Int} (lower : -1 ≤ size)
    (inWindow : file.InWindow) :
    ∃ count, file.readObj size =
        .ok (file.unread.take count, file.advance (file.unread.take count).length) ∧
      (0 ≤ size → count = size.toNat) ∧ (size < 0 → file.unread.length ≤ count) := by
  refine ⟨if 0 ≤ size then size.toNat else file.unread.length, ?_, fun above => if_pos above,
    fun below => by rw [if_neg (by omega)]⟩
  obtain ⟨metadata, objFile, buf, window⟩ := file
  unfold readObj unread advance
  cases window with
  | none =>
    dsimp only
    rw [objFile_read objFile lower]
    by_cases whole : size < 0
    · simp only [whole, if_true, if_neg (show ¬ 0 ≤ size by omega), List.take_length]
      rfl
    · simp only [whole, if_false, if_pos (show 0 ≤ size by omega)]
      rfl
  | some window =>
    have bound : window.point ≤ window.end := inWindow window rfl
    dsimp only
    rw [objFile_read objFile (by split <;> omega), if_neg (by split <;> omega)]
    have same : (objFile.content.drop objFile.offset).take
          (if 0 ≤ size then min size (window.end - window.point)
            else (window.end : Int) - window.point).toNat =
        ((objFile.content.drop objFile.offset).take (window.end - window.point)).take
          (if 0 ≤ size then size.toNat
            else ((objFile.content.drop objFile.offset).take (window.end - window.point)).length) := by
      split
      · rw [List.take_take]
        congr 1
        omega
      · rw [List.take_length]
        congr 1
        omega
    rw [same]
    rfl

/-- What `read` does when the buffer does not hold enough. -/
theorem read_beyond {file : StorletInputFile} (inWindow : file.InWindow) (size : Int)
    (lower : -1 ≤ size) :
    ∃ count rest, (do
        let (data, rest) ← file.readObj size
        return (file.buf ++ data, { rest with buf := [] })) =
          .ok (file.buf ++ file.unread.take count, rest) ∧ rest.InWindow ∧
      file.buf ++ file.unread.take count ++ rest.remaining = file.remaining ∧
      (0 ≤ size → count = size.toNat) ∧ (size < 0 → file.unread.length ≤ count) := by
  obtain ⟨count, reads, sized, whole⟩ := readObj_spec lower inWindow
  refine ⟨count, { file.advance (file.unread.take count).length with buf := [] }, ?_,
    advance_inWindow inWindow count, ?_, sized, whole⟩
  · rw [reads]
    rfl
  · have split : file.unread.take count ++ file.unread.drop (file.unread.take count).length =
        file.unread := List.prefix_iff_eq_append.mp (List.take_prefix _ _)
    show _ ++ (file.advance _).unread = _
    rw [unread_advance, List.append_assoc, split]
    rfl

/-- `read` returns the next bytes, as many as it is asked for, and all of them without a size. -/
theorem read_spec {file : StorletInputFile} (inWindow : file.InWindow) (size : Int) :
    ∃ data rest, file.read size = .ok (data, rest) ∧ rest.InWindow ∧
      data ++ rest.remaining = file.remaining ∧
      (0 ≤ size → data = file.remaining.take size.toNat) ∧ (size < 0 → data = file.remaining) := by
  unfold read
  by_cases sized : 0 ≤ size
  · rw [if_pos sized]
    by_cases buffered : size ≤ file.buf.length
    · rw [if_pos buffered]
      refine ⟨_, _, rfl, inWindow, ?_, fun _ => ?_, by omega⟩
      · show file.buf.take size.toNat ++ (file.buf.drop size.toNat ++ file.unread) = _
        rw [← List.append_assoc, List.take_append_drop]
        rfl
      · exact (List.take_append_of_le_length (by omega)).symm
    · rw [if_neg buffered]
      obtain ⟨count, rest, reads, inside, whole, counted, -⟩ :=
        read_beyond inWindow (size - file.buf.length) (by omega)
      refine ⟨_, rest, reads, inside, whole, fun _ => ?_, by omega⟩
      have front : file.buf.take size.toNat = file.buf := List.take_of_length_le (by omega)
      rw [remaining, List.take_append, front, counted (by omega)]
      congr 2
      omega
  · rw [if_neg sized]
    obtain ⟨count, rest, reads, inside, whole, -, all⟩ :=
      read_beyond inWindow (-1) (by omega)
    refine ⟨_, rest, reads, inside, whole, fun above => absurd above sized, fun _ => ?_⟩
    rw [remaining, List.take_of_length_le (all (by omega))]

/-- The reads of a storlet, in turn: the bytes each returns, and the file after them. -/
def reads : StorletInputFile → List Int → Except FileError (Bytes × StorletInputFile)
  | file, [] => .ok ([], file)
  | file, size :: rest => do
      let (data, file) ← file.read size
      let (more, file) ← reads file rest
      return (data ++ more, file)

/-- However a storlet reads its input, it reads the same bytes. -/
theorem reads_spec {file : StorletInputFile} (inWindow : file.InWindow) (sizes : List Int) :
    ∃ data rest, file.reads sizes = .ok (data, rest) ∧ rest.InWindow ∧
      data ++ rest.remaining = file.remaining := by
  induction sizes generalizing file with
  | nil => exact ⟨[], file, rfl, inWindow, rfl⟩
  | cons size sizes ih =>
    obtain ⟨data, next, first, kept, split, -⟩ := read_spec inWindow size
    obtain ⟨more, rest, later, inside, whole⟩ := ih kept
    refine ⟨data ++ more, rest, ?_, inside, by rw [List.append_assoc, whole, split]⟩
    rw [reads, first]
    change (next.reads sizes >>= _) = _
    rw [later]
    rfl

end StorletInputFile

/-- `_create_input_file`: a range file where the storlets metadata has a start and an end. -/
def createInputFile (stMd inMd : Dict Text) (objFile : ObjFile) :
    Except FileError StorletInputFile :=
  match stMd.get? "start", stMd.get? "end" with
  | some start, some stop =>
      match int? start, int? stop with
      | some start, some stop => StorletInputFile.ofRange inMd objFile start stop
      | _, _ => .error .valueError
  | _, _ => .ok { metadata := inMd, objFile }

end Storlets
