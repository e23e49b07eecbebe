import Storlets.Library.Traced
import Storlets.Sbus.Wire

set_option autoImplicit false

/-!
# What the receiver reads

`recvmsg` fills the front of a buffer; the receiver reads the buffer by the lengths it finds in
it. Around the bytes that were received the memory holds anything.
-/

namespace Storlets.Sbus

open ByteWire Traced

def scmRights : Nat := 1

def solSocket : Nat := 1

/-- The first control message: with `SCM_RIGHTS` of a socket its data are descriptors. -/
structure ControlMessage (F : Type) where
  level : Nat
  type : Nat
  data : List F

/-- What `recvmsg` stored, and what the memory held before. -/
structure Buffers (F : Type) where
  bytes : List UInt8
  around : Int → UInt8
  control : Option (ControlMessage F)
  fits : bytes.length ≤ maxMsgLength

/-- A read of so many bytes from an offset of the buffer. -/
structure Read where
  offset : Int
  length : Int
  deriving DecidableEq

inductive Crash where
  | nullPointer

abbrev Receiving := Traced Crash Read

/-- What `sbus_recv_msg` returns and stores. -/
structure Delivery (F : Type) where
  status : Int
  nFiles : Int := 0
  nFilesMetadata : Int := 0
  nMsg : Int := 0
  /-- `none` stands for an integer that is no descriptor of this message. -/
  files : List (Option F) := []
  filesMetadata : List UInt8 := []
  msgData : List UInt8 := []

section Receive

variable {F : Type} (format : IntFormat) (buffers : Buffers F)

def Buffers.byteAt (offset : Int) : UInt8 :=
  if 0 ≤ offset then (buffers.bytes[offset.toNat]?).getD (buffers.around offset)
  else buffers.around offset

def Buffers.window (offset : Int) (length : Nat) : List UInt8 :=
  (List.range length).map fun i : Nat => buffers.byteAt (offset + i)

def memcpy (offset length : Int) : Receiving (List UInt8) := do
  emit ⟨offset, length⟩
  return buffers.window offset length.toNat

def extractInteger (offset : Int) : Receiving Int := do
  return format.decode (← memcpy buffers offset intSize)

def copySubstr (offset length : Int) : Receiving (List UInt8) := memcpy buffers offset length

def ControlMessage.carriesFiles (control : ControlMessage F) : Bool :=
  control.type = scmRights && control.level = solSocket

def ControlMessage.fileAt (control : ControlMessage F) (i : Nat) : Option F :=
  if control.carriesFiles then control.data[i]? else none

/-- The status, and the integers that are copied whatever the status is. -/
def extractFiles (nFiles : Int) : Receiving (Int × List (Option F)) :=
  match buffers.control with
  -- the line that logs the failed check reads the type from the message
  | none => throw .nullPointer
  | some control =>
      let status := if control.carriesFiles ∧ control.data.length = nFiles then 0 else -1
      return (status, (List.range nFiles.toNat).map control.fileAt)

/-- The files where some are announced; the status is dropped. -/
def announcedFiles (nFiles : Int) : Receiving (List (Option F)) :=
  if 0 < nFiles then do
    let (_, files) ← extractFiles buffers nFiles
    return files
  else return []

def announcedSubstr (offset length : Int) : Receiving (List UInt8) :=
  if 0 < length then copySubstr buffers offset length else return []

def recvMsg (recvmsg : Option (Buffers F)) : Receiving (Delivery F) :=
  match recvmsg with
  | none => return { status := -1 }
  | some buffers => do
      let nFiles ← extractInteger format buffers 0
      let nFilesMetadata ← extractInteger format buffers intSize
      let nMsg ← extractInteger format buffers (2 * intSize)
      let files ← announcedFiles buffers nFiles
      let filesMetadata ← announcedSubstr buffers (3 * intSize) nFilesMetadata
      let msgData ← announcedSubstr buffers (3 * intSize + nFilesMetadata) nMsg
      return { status := 0, nFiles, nFilesMetadata, nMsg, files, filesMetadata, msgData }

end Receive

/-! ## What is decoded -/

section Decoding

variable {F : Type} (format : IntFormat)

/-- The read stays in the bytes that were received. -/
def Read.Inside (bytes : List UInt8) (read : Read) : Prop :=
  0 ≤ read.offset ∧ read.offset + read.length ≤ bytes.length

def ControlMessage.Carries (control : ControlMessage F) (file : Option F) : Prop :=
  control.carriesFiles ∧ ∃ received ∈ control.data, file = some received

/-- What was announced is what was received. -/
structure Faithful (buffers : Buffers F) (reads : List Read) (delivery : Delivery F) : Prop where
  reads : ∀ read ∈ reads, read.Inside buffers.bytes
  filesMetadata : (delivery.filesMetadata.length : Int) = delivery.nFilesMetadata
  msgData : (delivery.msgData.length : Int) = delivery.nMsg
  files : (delivery.files.length : Int) = delivery.nFiles
  received : ∀ file ∈ delivery.files, ∃ control, buffers.control = some control ∧
    control.Carries file

/-- The call reports a failure or delivers the message as it was received. -/
def Decodes (recvmsg : Option (Buffers F)) : Prop :=
  ∃ delivery, (recvMsg format recvmsg).result = .ok delivery ∧ (delivery.status < 0 ∨
    ∃ buffers, recvmsg = some buffers ∧
      Faithful buffers (recvMsg format recvmsg).trace delivery)

def announced (bytes : List UInt8) (i : Nat) : Int :=
  format.decode ((bytes.drop (i * intSize)).take intSize)

/-- The three lengths are there, none is negative, and what they announce is there. -/
structure WellFormed (buffers : Buffers F) : Prop where
  header : 3 * intSize ≤ buffers.bytes.length
  nFiles : 0 ≤ announced format buffers.bytes 0
  nFilesMetadata : 0 ≤ announced format buffers.bytes 1
  nMsg : 0 ≤ announced format buffers.bytes 2
  strings : 3 * intSize + announced format buffers.bytes 1 + announced format buffers.bytes 2 ≤
    buffers.bytes.length
  files : 0 < announced format buffers.bytes 0 → ∃ control, buffers.control = some control ∧
    control.carriesFiles ∧ announced format buffers.bytes 0 ≤ control.data.length

variable {format} (buffers : Buffers F)

@[simp] theorem length_window (offset : Int) (length : Nat) :
    (buffers.window offset length).length = length := by simp [Buffers.window]

/-- A window inside the bytes is what the bytes have there. -/
theorem window_inside {offset length : Nat} (inside : offset + length ≤ buffers.bytes.length) :
    buffers.window offset length = (buffers.bytes.drop offset).take length := by
  apply List.ext_getElem
  · simp
    omega
  · intro i before after
    simp only [length_window] at before
    have there : offset + i < buffers.bytes.length := by omega
    have place : (offset : Int) + i = ((offset + i : Nat) : Int) := by omega
    have byte : buffers.byteAt (offset + i) = buffers.bytes[offset + i] := by
      rw [Buffers.byteAt, if_pos (by omega), place, Int.toNat_natCast,
        List.getElem?_eq_getElem there, Option.getD_some]
    simp [Buffers.window, byte]

/-- The integer the receiver takes for the `i`-th length. -/
def stored (format : IntFormat) (i : Nat) : Int :=
  format.decode (buffers.window (i * intSize) intSize)

theorem stored_eq_announced {i : Nat} (inside : (i + 1) * intSize ≤ buffers.bytes.length) :
    stored buffers format i = announced format buffers.bytes i := by
  have fits : i * intSize + intSize ≤ buffers.bytes.length := by
    rwa [Nat.add_mul, Nat.one_mul] at inside
  have same := window_inside buffers fits
  rw [Int.natCast_mul] at same
  rw [stored, announced, same]

def substrReads (offset length : Int) : List Read :=
  if 0 < length then [⟨offset, length⟩] else []

def substr (offset length : Int) : List UInt8 :=
  if 0 < length then buffers.window offset length.toNat else []

theorem announcedSubstr_eq (offset length : Int) :
    announcedSubstr buffers offset length =
      ⟨substrReads offset length, .ok (substr buffers offset length)⟩ := by
  unfold announcedSubstr substrReads substr
  split <;> rfl

/-- The files are known before the strings are read, which never fails. -/
theorem recvMsg_of_files {files : List (Option F)}
    (known : announcedFiles buffers (stored buffers format 0) = ⟨[], .ok files⟩) :
    recvMsg format (some buffers) =
      ⟨[⟨0, intSize⟩, ⟨intSize, intSize⟩, ⟨2 * intSize, intSize⟩] ++
          (substrReads (3 * intSize) (stored buffers format 1) ++
            substrReads (3 * intSize + stored buffers format 1) (stored buffers format 2)),
        .ok { status := 0
              nFiles := stored buffers format 0
              nFilesMetadata := stored buffers format 1
              nMsg := stored buffers format 2
              files
              filesMetadata := substr buffers (3 * intSize) (stored buffers format 1)
              msgData := substr buffers (3 * intSize + stored buffers format 1)
                (stored buffers format 2) }⟩ := by
  have first : extractInteger format buffers 0 = ⟨[⟨0, intSize⟩], .ok (stored buffers format 0)⟩ :=
    rfl
  have second : extractInteger format buffers intSize =
      ⟨[⟨intSize, intSize⟩], .ok (stored buffers format 1)⟩ := rfl
  have third : extractInteger format buffers (2 * intSize) =
      ⟨[⟨2 * intSize, intSize⟩], .ok (stored buffers format 2)⟩ := rfl
  rw [recvMsg, first, bind_of_ok rfl, second, bind_of_ok rfl, third, bind_of_ok rfl, known,
    bind_of_ok rfl, announcedSubstr_eq, bind_of_ok rfl, announcedSubstr_eq, bind_of_ok rfl]
  simp

theorem recvMsg_of_crash {crash : Crash}
    (crashes : announcedFiles buffers (stored buffers format 0) = ⟨[], .error crash⟩) :
    (recvMsg format (some buffers)).result = .error crash := by
  have header : (recvMsg format (some buffers)).result =
      (announcedFiles buffers (stored buffers format 0) >>= fun files => do
        let filesMetadata ← announcedSubstr buffers (3 * intSize) (stored buffers format 1)
        let msgData ← announcedSubstr buffers (3 * intSize + stored buffers format 1)
          (stored buffers format 2)
        return ({ status := 0
                  nFiles := stored buffers format 0
                  nFilesMetadata := stored buffers format 1
                  nMsg := stored buffers format 2
                  files, filesMetadata, msgData } : Delivery F)).result := rfl
  rw [header, bind_of_error (by rw [crashes])]

theorem length_substr (offset length : Int) :
    ((substr buffers offset length).length : Int) = length ↔ 0 ≤ length := by
  unfold substr
  split
  · simp only [length_window]
    omega
  · simp only [List.length_nil]
    omega

theorem substrReads_inside {offset : Int} (length : Int) (positive : 0 ≤ offset) :
    (∀ read ∈ substrReads offset length, read.Inside buffers.bytes) ↔
      (0 < length → offset + length ≤ buffers.bytes.length) := by
  unfold substrReads
  split
  · next asked => simp [Read.Inside, positive, asked]
  · next none => simp [none]

/-- The files asked for are descriptors of the message when it has that many. -/
theorem files_carried (control : ControlMessage F) {count : Nat} (some : 0 < count) :
    (∀ file ∈ (List.range count).map control.fileAt, control.Carries file) ↔
      control.carriesFiles ∧ count ≤ control.data.length := by
  constructor
  · intro carried
    obtain ⟨carries, received, -, found⟩ := carried (control.fileAt (count - 1))
      (List.mem_map_of_mem (List.mem_range.mpr (by omega)))
    rw [ControlMessage.fileAt, if_pos carries] at found
    obtain ⟨inside, -⟩ := List.getElem?_eq_some_iff.mp found
    exact ⟨carries, by omega⟩
  · rintro ⟨carries, enough⟩ file listed
    obtain ⟨i, inside, rfl⟩ := List.mem_map.mp listed
    have there : i < control.data.length := by
      have := List.mem_range.mp inside
      omega
    exact ⟨carries, control.data[i], List.getElem_mem there,
      by rw [ControlMessage.fileAt, if_pos carries, List.getElem?_eq_getElem there]⟩

/-- The strings and the integers come out as announced when they are among what was received. -/
structure StringsInside (format : IntFormat) (buffers : Buffers F) : Prop where
  header : 3 * intSize ≤ buffers.bytes.length
  nFilesMetadata : 0 ≤ stored buffers format 1
  nMsg : 0 ≤ stored buffers format 2
  strings : 3 * intSize + stored buffers format 1 + stored buffers format 2 ≤
    buffers.bytes.length

theorem reads_inside_iff (nFilesMetadata : 0 ≤ stored buffers format 1)
    (nMsg : 0 ≤ stored buffers format 2) :
    (∀ read ∈ [⟨0, intSize⟩, ⟨intSize, intSize⟩, ⟨2 * intSize, intSize⟩] ++
        (substrReads (3 * intSize) (stored buffers format 1) ++
          substrReads (3 * intSize + stored buffers format 1) (stored buffers format 2)),
        Read.Inside buffers.bytes read) ↔
      StringsInside format buffers := by
  have size : intSize = 4 := rfl
  have first := substrReads_inside buffers (stored buffers format 1)
    (show 0 ≤ (3 * intSize : Int) by omega)
  have second := substrReads_inside buffers (stored buffers format 2)
    (show 0 ≤ 3 * intSize + stored buffers format 1 by omega)
  constructor
  · intro inside
    have header := (inside ⟨2 * intSize, intSize⟩ (by simp)).2
    have metadata := first.mp fun read listed =>
      inside read (List.mem_append_right _ (List.mem_append_left _ listed))
    have msg := second.mp fun read listed =>
      inside read (List.mem_append_right _ (List.mem_append_right _ listed))
    dsimp only at header
    exact ⟨by omega, nFilesMetadata, nMsg, by omega⟩
  · rintro ⟨header, -, -, strings⟩ read listed
    rcases List.mem_append.mp listed with here | later
    · simp only [List.mem_cons, List.not_mem_nil, or_false] at here
      rcases here with rfl | rfl | rfl <;> (constructor <;> dsimp only <;> omega)
    · rcases List.mem_append.mp later with here | here
      · exact first.mpr (fun _ => by omega) read here
      · exact second.mpr (fun _ => by omega) read here

theorem wellFormed_iff :
    WellFormed format buffers ↔ StringsInside format buffers ∧ 0 ≤ stored buffers format 0 ∧
      (0 < stored buffers format 0 → ∃ control, buffers.control = some control ∧
        control.carriesFiles ∧ stored buffers format 0 ≤ control.data.length) := by
  have size : intSize = 4 := rfl
  have same (header : 3 * intSize ≤ buffers.bytes.length) : ∀ i < 3,
      stored buffers format i = announced format buffers.bytes i :=
    fun i below => stored_eq_announced buffers (by rw [size] at header ⊢; omega)
  constructor
  · rintro ⟨header, nFiles, nFilesMetadata, nMsg, strings, files⟩
    rw [← same header 0 (by omega)] at nFiles files
    rw [← same header 1 (by omega)] at nFilesMetadata strings
    rw [← same header 2 (by omega)] at nMsg strings
    exact ⟨⟨header, nFilesMetadata, nMsg, strings⟩, nFiles, files⟩
  · rintro ⟨⟨header, nFilesMetadata, nMsg, strings⟩, nFiles, files⟩
    rw [same header 0 (by omega)] at nFiles files
    rw [same header 1 (by omega)] at nFilesMetadata strings
    rw [same header 2 (by omega)] at nMsg strings
    exact ⟨header, nFiles, nFilesMetadata, nMsg, strings, files⟩

/-- Where the files are known, the message is delivered faithfully exactly when they and the
strings are among what was received. -/
theorem decodes_of_files {files : List (Option F)}
    (known : announcedFiles buffers (stored buffers format 0) = ⟨[], .ok files⟩) :
    Decodes format (some buffers) ↔ StringsInside format buffers ∧
      (files.length : Int) = stored buffers format 0 ∧
      ∀ file ∈ files, ∃ control, buffers.control = some control ∧ control.Carries file := by
  rw [Decodes, recvMsg_of_files buffers known]
  constructor
  · rintro ⟨delivery, returned, failed | ⟨same, found, reads, metadata, msg, counted, received⟩⟩
    · obtain rfl := Except.ok.inj returned
      exact absurd failed (Int.lt_irrefl 0)
    · obtain rfl := Except.ok.inj returned
      obtain rfl := Option.some.inj found
      have inside := (reads_inside_iff buffers ((length_substr _ _ _).mp metadata)
        ((length_substr _ _ _).mp msg)).mp reads
      exact ⟨inside, counted, received⟩
  · rintro ⟨inside, counted, received⟩
    refine ⟨_, rfl, .inr ⟨buffers, rfl, ?_⟩⟩
    exact ⟨(reads_inside_iff buffers inside.nFilesMetadata inside.nMsg).mpr inside,
      (length_substr _ _ _).mpr inside.nFilesMetadata, (length_substr _ _ _).mpr inside.nMsg,
      counted, received⟩

end Decoding

/-- Of the messages that reach it, the receiver decodes the well-formed ones and no other. -/
theorem decodes_iff {F : Type} (format : IntFormat) (recvmsg : Option (Buffers F)) :
    Decodes format recvmsg ↔ ∀ buffers, recvmsg = some buffers → WellFormed format buffers := by
  cases recvmsg with
  | none => exact iff_of_true ⟨_, rfl, .inl (Int.negSucc_lt_zero 0)⟩ nofun
  | some buffers =>
    have single : (∀ other, some buffers = some other → WellFormed format other) ↔
        WellFormed format buffers := by simp
    rw [single, wellFormed_iff]
    by_cases asked : 0 < stored buffers format 0
    · cases carried : buffers.control with
      | none =>
        -- the receiver crashes
        have crashes : announcedFiles buffers (stored buffers format 0) =
            ⟨[], .error .nullPointer⟩ := by
          rw [announcedFiles, if_pos asked, extractFiles, carried]
          rfl
        refine iff_of_false ?_ (by simp [asked])
        rintro ⟨delivery, returned, -⟩
        rw [recvMsg_of_crash buffers crashes] at returned
        cases returned
      | some control =>
        have known : announcedFiles buffers (stored buffers format 0) =
            ⟨[], .ok ((List.range (stored buffers format 0).toNat).map control.fileAt)⟩ := by
          rw [announcedFiles, if_pos asked, extractFiles, carried]
          rfl
        have files := files_carried control (show 0 < (stored buffers format 0).toNat by omega)
        have count : ((stored buffers format 0).toNat : Int) = stored buffers format 0 := by omega
        have enough : (stored buffers format 0).toNat ≤ control.data.length ↔
            stored buffers format 0 ≤ control.data.length := by omega
        rw [decodes_of_files buffers known, carried]
        simp only [Option.some.injEq, exists_eq_left', files, List.length_map, List.length_range,
          count, enough]
        simp [asked, Int.le_of_lt asked]
    · have known : announcedFiles buffers (stored buffers format 0) = ⟨[], .ok []⟩ := by
        rw [announcedFiles, if_neg asked]
        rfl
      rw [decodes_of_files buffers known]
      simp [asked]
      omega

section Unpacking

variable {F : Type} {format : IntFormat} {buffers : Buffers F}

/-- The message that `recvmsg` stored. -/
def Buffers.message (buffers : Buffers F) : Message F :=
  ⟨buffers.bytes, (buffers.control.map ControlMessage.data).getD []⟩

theorem sbusExtractInteger_eq {i : Nat} (inside : (i + 1) * intSize ≤ buffers.bytes.length) :
    sbusExtractInteger format buffers.bytes (i * intSize) = .ok (stored buffers format i) := by
  have fits : i * intSize + intSize ≤ buffers.bytes.length := by
    rwa [Nat.add_mul, Nat.one_mul] at inside
  rw [stored_eq_announced buffers inside, sbusExtractInteger, window?, if_pos fits]
  rfl

theorem sbusCopySubstr_eq {offset : Int} (length : Int) (positive : 0 ≤ offset)
    (inside : 0 < length → offset + length ≤ buffers.bytes.length) :
    sbusCopySubstr buffers.bytes offset length = .ok (substr buffers offset length) := by
  unfold sbusCopySubstr substr
  by_cases asked : 0 < length
  · have fits : offset.toNat + length.toNat ≤ buffers.bytes.length := by
      have bound := inside asked
      omega
    have same := window_inside buffers fits
    rw [Int.toNat_of_nonneg positive] at same
    rw [if_pos asked, if_neg (by omega), window?, if_pos fits, if_pos asked, same]
  · rw [if_neg asked, if_neg asked]

theorem files_of_enough {nFiles : Int}
    (enough : 0 < nFiles → ∃ control, buffers.control = some control ∧ control.carriesFiles ∧
      nFiles ≤ control.data.length) :
    ∃ received, announcedFiles buffers nFiles = ⟨[], .ok (received.map some)⟩ ∧
      sbusExtractFiles buffers.message.descriptors nFiles = .ok received := by
  unfold announcedFiles sbusExtractFiles
  by_cases asked : 0 < nFiles
  · obtain ⟨control, found, carries, fits⟩ := enough asked
    have descriptors : buffers.message.descriptors = control.data := by
      simp [Buffers.message, found]
    have copied : (List.range nFiles.toNat).map control.fileAt =
        (control.data.take nFiles.toNat).map some := by
      apply List.ext_getElem
      · simp
        omega
      · intro i before after
        simp only [List.length_map, List.length_range] at before
        have there : i < control.data.length := by omega
        simp [ControlMessage.fileAt, carries, there]
    refine ⟨control.data.take nFiles.toNat, ?_, ?_⟩
    · rw [if_pos asked, extractFiles, found, ← copied]
      rfl
    · rw [if_pos asked, descriptors, if_pos fits]
  · exact ⟨[], by rw [if_neg asked]; rfl, by rw [if_neg asked]⟩

/-- A well-formed message is delivered as the round trip's receiver unpacks it. -/
theorem recvMsg_of_wellFormed (wellFormed : WellFormed format buffers) :
    ∃ delivery unpacked, (recvMsg format (some buffers)).result = .ok delivery ∧
      sbusRecvMsg format (some buffers.message) = .ok unpacked ∧
      delivery.files = unpacked.files.map some ∧
      delivery.filesMetadata = unpacked.filesMetadata ∧ delivery.msgData = unpacked.msgData := by
  obtain ⟨⟨header, nFilesMetadata, nMsg, strings⟩, nFiles, files⟩ :=
    (wellFormed_iff buffers).mp wellFormed
  have size : intSize = 4 := rfl
  obtain ⟨received, known, extracted⟩ := files_of_enough files
  have integers : ∀ i < 3, sbusExtractInteger format buffers.bytes (i * intSize) =
      .ok (stored buffers format i) :=
    fun i below => sbusExtractInteger_eq (by rw [size] at header ⊢; omega)
  have first := integers 0 (by omega)
  have second := integers 1 (by omega)
  have metadata : sbusCopySubstr buffers.bytes (3 * intSize) (stored buffers format 1) = .ok _ :=
    sbusCopySubstr_eq _ (by omega) fun _ => by omega
  have data : sbusCopySubstr buffers.bytes (3 * intSize + stored buffers format 1)
      (stored buffers format 2) = .ok _ := sbusCopySubstr_eq _ (by omega) fun _ => by omega
  rw [Nat.zero_mul] at first
  rw [Nat.one_mul] at second
  refine ⟨_, ⟨received, _, _⟩, by rw [recvMsg_of_files buffers known], ?_, rfl, rfl, rfl⟩
  unfold sbusRecvMsg Buffers.message
  dsimp only
  rw [first, second, integers 2 (by omega)]
  change (sbusExtractFiles buffers.message.descriptors _ >>= _) = _
  rw [extracted]
  change (sbusCopySubstr _ _ _ >>= _) = _
  rw [metadata]
  change (sbusCopySubstr _ _ _ >>= _) = _
  rw [data]
  rfl

end Unpacking

/-- The metadata is announced with a hundred bytes and does not follow. -/
def shortBuffers : Buffers Nat where
  bytes := [0, 0, 0, 0, 100, 0, 0, 0, 0, 0, 0, 0]
  around := fun _ => 0
  control := none
  fits := by decide

theorem short_message_read : ¬ ∀ (format : IntFormat) (recvmsg : Option (Buffers Nat)),
    Decodes format recvmsg := by
  intro always
  obtain ⟨delivery, returned, failed | ⟨buffers, found, faithful⟩⟩ :=
    always littleEndian (some shortBuffers)
  · obtain rfl := Except.ok.inj returned
    exact absurd failed (Int.lt_irrefl 0)
  · obtain rfl := Option.some.inj found
    have inside := (faithful.reads ⟨3 * intSize, 100⟩ (by decide)).2
    revert inside
    decide

end Storlets.Sbus
