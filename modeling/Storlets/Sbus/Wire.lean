import Storlets.Library.ByteWire

set_option autoImplicit false

/-!
# The SBus message on the wire

The byte stream is three integers, the metadata, the parameters and one byte that
is allocated but never written. The descriptors travel beside it.
-/

namespace Storlets.Sbus

open ByteWire

def maxFds : Nat := 4096

def maxMsgLength : Nat := 4096

def intSize : Nat := 4

/-- The size of a control message header. -/
def cmsgHeader : Nat := 16

/-- A datagram on the socket. A descriptor stands for the open file it refers to. -/
structure Message (F : Type) where
  bytes : List UInt8
  descriptors : List F

/-- The sender's environment. -/
structure Host (F : Type) where
  socket : Bool
  malloc : Nat → Bool
  /-- Whether `sendmsg` accepts the message. -/
  sendmsg : Message F → Bool
  /-- What the allocated memory held. -/
  unwritten : UInt8

/-- How `sbus_send_msg` ends without sending. -/
inductive Failure where
  | negative
  | undefined
  deriving DecidableEq

/-- `size_t` of an `int`. -/
def sizeT (n : Int) : Nat := (n % 18446744073709551616).toNat

/-- The arguments of `sbus_send_msg`. -/
structure Arguments (F : Type) where
  files : List F
  nFiles : Int
  filesMetadata : List UInt8
  nFilesMetadata : Int
  msgData : List UInt8
  nMsg : Int

section Sending

variable {F : Type} (format : IntFormat) (host : Host F) (args : Arguments F)

def bytestreamLength : Int := args.nFilesMetadata + args.nMsg + 3 * intSize + 1

/-- No signed addition of `n_bytestream_len` overflows. -/
def LengthDefined : Prop :=
  IsInt (args.nFilesMetadata + args.nMsg) ∧ IsInt (bytestreamLength args)

instance : Decidable (LengthDefined args) := inferInstanceAs (Decidable (_ ∧ _))

def dumpDataToBytestream : Except Failure (List UInt8) :=
  if ¬ LengthDefined args then .error .undefined
  else if host.malloc (sizeT (bytestreamLength args)) = false then .error .negative
  -- memcpy takes the length as a size_t
  else if args.nFilesMetadata < 0 ∨ args.nMsg < 0 then .error .undefined
  else .ok (format.encode args.nFiles ++ (format.encode args.nFilesMetadata ++
    (format.encode args.nMsg ++ (args.filesMetadata.take args.nFilesMetadata.toNat ++
      (args.msgData.take args.nMsg.toNat ++ [host.unwritten])))))

def cbufSize : Int := cmsgHeader + args.nFiles * intSize

def sbusPackMessage : Except Failure (Message F) := do
  let bytestream ← dumpDataToBytestream format host args
  if args.nFiles < 0 ∨ ¬ IsInt (cbufSize args) then throw .undefined
  -- the control buffer is not checked before it is written to
  else if host.malloc (sizeT (cbufSize args)) = false then throw .undefined
  else return ⟨bytestream, args.files.take args.nFiles.toNat⟩

def sbusSendMsg : Except Failure (Message F) :=
  if host.socket = false then .error .negative
  else do
    let message ← sbusPackMessage format host args
    if host.sendmsg message then return message else throw .negative

end Sending

section Receiving

variable {F : Type} (format : IntFormat)

/-- What `recvmsg` stores of a message in the receiver's buffers. -/
def received (message : Message F) : Message F :=
  ⟨message.bytes.take maxMsgLength, message.descriptors.take maxFds⟩

structure Unpacked (F : Type) where
  files : List F
  filesMetadata : List UInt8
  msgData : List UInt8
  deriving DecidableEq

/-- How `sbus_recv_msg` goes wrong: it reports that `recvmsg` failed, or it reads a part of its
buffers that holds nothing it received. -/
inductive Misread where
  | negative
  | stray
  deriving DecidableEq

def sbusExtractInteger (bytes : List UInt8) (offset : Nat) : Except Misread Int :=
  match window? bytes offset intSize with
  | some word => .ok (format.decode word)
  | none => .error .stray

/-- `sbus_extract_files`, whose status the caller drops. -/
def sbusExtractFiles (descriptors : List F) (nFiles : Int) : Except Misread (List F) :=
  if 0 < nFiles then
    if nFiles ≤ descriptors.length then .ok (descriptors.take nFiles.toNat) else .error .stray
  else .ok []

def sbusCopySubstr (bytes : List UInt8) (offset length : Int) : Except Misread (List UInt8) :=
  if 0 < length then
    if offset < 0 then .error .stray
    else
      match window? bytes offset.toNat length.toNat with
      | some chunk => .ok chunk
      | none => .error .stray
  else .ok []

/-- `sbus_recv_msg`, on what `recvmsg` returned. -/
def sbusRecvMsg (message : Option (Message F)) : Except Misread (Unpacked F) :=
  match message with
  | none => .error .negative
  | some message => do
      let nFiles ← sbusExtractInteger format message.bytes 0
      let nFilesMetadata ← sbusExtractInteger format message.bytes intSize
      let nMsg ← sbusExtractInteger format message.bytes (2 * intSize)
      let files ← sbusExtractFiles message.descriptors nFiles
      let filesMetadata ← sbusCopySubstr message.bytes (3 * intSize) nFilesMetadata
      let msgData ← sbusCopySubstr message.bytes (3 * intSize + nFilesMetadata) nMsg
      return ⟨files, filesMetadata, msgData⟩

end Receiving

/-! ## The round trip -/

section RoundTrip

variable {F : Type} (format : IntFormat)

theorem extractInteger_append {n : Int} (isInt : IsInt n) (front back : List UInt8) (kept : Nat)
    (fits : front.length + intSize ≤ kept) :
    sbusExtractInteger format ((front ++ (format.encode n ++ back)).take kept) front.length =
      .ok n := by
  have size := format.length_encode n
  have shown : window? (front ++ (format.encode n ++ back)) front.length intSize =
      some (format.encode n) := by
    rw [intSize, ← size, window?_append]
  unfold sbusExtractInteger
  rw [window?_take kept shown fits]
  simp [format.decode_encode n isInt]

theorem copySubstr_append (front middle back : List UInt8) (kept : Nat)
    (fits : front.length + middle.length ≤ kept) :
    sbusCopySubstr ((front ++ (middle ++ back)).take kept) front.length middle.length =
      .ok middle := by
  unfold sbusCopySubstr
  by_cases empty : middle.length = 0
  · simp [List.length_eq_zero_iff.mp empty]
  · rw [if_pos (by omega), if_neg (by omega), Int.toNat_natCast, Int.toNat_natCast,
      window?_take kept (window?_append front middle back) fits]

theorem copySubstr_stray {bytes : List UInt8} {offset length : Nat} (asked : 0 < length)
    (beyond : bytes.length < offset + length) :
    sbusCopySubstr bytes offset length = .error .stray := by
  unfold sbusCopySubstr
  rw [if_pos (by omega), if_neg (by omega), Int.toNat_natCast, Int.toNat_natCast,
    window?_none beyond]

theorem copySubstr_error {bytes : List UInt8} {offset length : Int} {misread : Misread}
    (fails : sbusCopySubstr bytes offset length = .error misread) : misread = .stray := by
  unfold sbusCopySubstr at fails
  split at fails
  · split at fails
    · exact (Except.error.inj fails).symm
    · split at fails
      · cases fails
      · exact (Except.error.inj fails).symm
  · cases fails

theorem extractFiles_all (files : List F) :
    sbusExtractFiles files files.length = .ok files := by
  unfold sbusExtractFiles
  by_cases empty : files.length = 0
  · simp [List.length_eq_zero_iff.mp empty]
  · rw [if_pos (by omega), if_pos (by omega), Int.toNat_natCast, List.take_length]

theorem extractFiles_stray {files : List F} {nFiles : Nat} (beyond : files.length < nFiles) :
    sbusExtractFiles files nFiles = .error .stray := by
  unfold sbusExtractFiles
  rw [if_pos (by omega), if_neg (by omega)]

/-- The stream as the sender lays it out. -/
def layout (format : IntFormat) (nFiles : Int) (filesMetadata msgData : List UInt8)
    (unwritten : UInt8) : List UInt8 :=
  format.encode nFiles ++ (format.encode filesMetadata.length ++
    (format.encode msgData.length ++ (filesMetadata ++ (msgData ++ [unwritten]))))

theorem length_layout (nFiles : Int) (filesMetadata msgData : List UInt8) (unwritten : UInt8) :
    (layout format nFiles filesMetadata msgData unwritten).length =
      3 * intSize + filesMetadata.length + msgData.length + 1 := by
  simp only [layout, List.length_append, format.length_encode, List.length_singleton, intSize]
  omega

section Fields

variable (nFiles : Int) (filesMetadata msgData : List UInt8) (unwritten : UInt8)

/-- The buffer the receiver reads the layout from. -/
def buffer (format : IntFormat) : List UInt8 :=
  (layout format nFiles filesMetadata msgData unwritten).take maxMsgLength

theorem length_buffer : (buffer nFiles filesMetadata msgData unwritten format).length =
    min maxMsgLength (3 * intSize + filesMetadata.length + msgData.length + 1) := by
  rw [buffer, List.length_take, length_layout]

theorem buffer_nFiles (isInt : IsInt nFiles) :
    sbusExtractInteger format (buffer nFiles filesMetadata msgData unwritten format) 0 =
      .ok nFiles :=
  extractInteger_append format isInt [] _ maxMsgLength (by decide)

theorem buffer_nFilesMetadata (short : filesMetadata.length < 2147483648) :
    sbusExtractInteger format (buffer nFiles filesMetadata msgData unwritten format) intSize =
      .ok filesMetadata.length := by
  have size := format.length_encode nFiles
  have found := extractInteger_append format (n := filesMetadata.length)
    ⟨by omega, by omega⟩ (format.encode nFiles)
    (format.encode msgData.length ++ (filesMetadata ++ (msgData ++ [unwritten]))) maxMsgLength
    (by rw [size]; decide)
  rwa [size] at found

theorem buffer_nMsg (short : msgData.length < 2147483648) :
    sbusExtractInteger format (buffer nFiles filesMetadata msgData unwritten format) (2 * intSize) =
      .ok msgData.length := by
  have size : (format.encode nFiles ++ format.encode filesMetadata.length).length = 2 * intSize := by
    simp [format.length_encode, intSize]
  have found := extractInteger_append format (n := msgData.length)
    ⟨by omega, by omega⟩ (format.encode nFiles ++ format.encode filesMetadata.length)
    (filesMetadata ++ (msgData ++ [unwritten])) maxMsgLength (by rw [size]; decide)
  rwa [size, List.append_assoc] at found

theorem buffer_filesMetadata (fits : 3 * intSize + filesMetadata.length ≤ maxMsgLength) :
    sbusCopySubstr (buffer nFiles filesMetadata msgData unwritten format) (3 * intSize)
      filesMetadata.length = .ok filesMetadata := by
  have size : (format.encode nFiles ++ (format.encode filesMetadata.length ++
      format.encode msgData.length)).length = 3 * intSize := by
    simp [format.length_encode, intSize]
  have found := copySubstr_append (format.encode nFiles ++ (format.encode filesMetadata.length ++
    format.encode msgData.length)) filesMetadata (msgData ++ [unwritten]) maxMsgLength
    (by rw [size]; exact fits)
  rw [size] at found
  simpa only [buffer, layout, List.append_assoc, Int.natCast_add, Int.natCast_mul,
    Int.cast_ofNat_Int]
      using found

theorem buffer_msgData (fits : 3 * intSize + filesMetadata.length + msgData.length ≤ maxMsgLength) :
    sbusCopySubstr (buffer nFiles filesMetadata msgData unwritten format)
      (3 * intSize + filesMetadata.length) msgData.length = .ok msgData := by
  have size : (format.encode nFiles ++ (format.encode filesMetadata.length ++
      (format.encode msgData.length ++ filesMetadata))).length =
        3 * intSize + filesMetadata.length := by
    simp [format.length_encode, intSize]
    omega
  have found := copySubstr_append (format.encode nFiles ++ (format.encode filesMetadata.length ++
    (format.encode msgData.length ++ filesMetadata))) msgData [unwritten] maxMsgLength
    (by rw [size]; exact fits)
  rw [size] at found
  simpa only [buffer, layout, List.append_assoc, Int.natCast_add, Int.natCast_mul,
    Int.cast_ofNat_Int]
      using found

/-- A stream that does not fit leaves a string that the buffer does not hold. -/
theorem buffer_stray
    (beyond : maxMsgLength < 3 * intSize + filesMetadata.length + msgData.length) :
    sbusCopySubstr (buffer nFiles filesMetadata msgData unwritten format) (3 * intSize)
        filesMetadata.length = .error .stray ∨
      sbusCopySubstr (buffer nFiles filesMetadata msgData unwritten format)
        (3 * intSize + filesMetadata.length) msgData.length = .error .stray := by
  have size := length_buffer format nFiles filesMetadata msgData unwritten
  have constants : maxMsgLength = 4096 ∧ intSize = 4 := ⟨rfl, rfl⟩
  rcases Nat.eq_zero_or_pos msgData.length with empty | some
  · left
    exact @copySubstr_stray _ (3 * intSize) _ (by omega) (by omega)
  · right
    exact @copySubstr_stray _ (3 * intSize + filesMetadata.length) _ some (by omega)

end Fields

/-- The receiver unpacks what was laid out exactly when both buffers hold all of it. -/
theorem recvMsg_layout (files : List F) (filesMetadata msgData : List UInt8) (unwritten : UInt8)
    (fewFiles : files.length < 2147483648) (shortMetadata : filesMetadata.length < 2147483648)
    (shortMsg : msgData.length < 2147483648) :
    sbusRecvMsg format
        (some (received ⟨layout format files.length filesMetadata msgData unwritten, files⟩)) =
      if files.length ≤ maxFds ∧
          3 * intSize + filesMetadata.length + msgData.length ≤ maxMsgLength then
        .ok ⟨files, filesMetadata, msgData⟩
      else .error .stray := by
  have nFiles := buffer_nFiles format files.length filesMetadata msgData unwritten
    ⟨by omega, by omega⟩
  have nFilesMetadata := buffer_nFilesMetadata format files.length filesMetadata
    msgData unwritten shortMetadata
  have nMsg := buffer_nMsg format files.length filesMetadata msgData unwritten shortMsg
  rw [buffer] at nFiles nFilesMetadata nMsg
  unfold sbusRecvMsg received
  dsimp only
  rw [nFiles, nFilesMetadata, nMsg]
  change (sbusExtractFiles _ _ >>= _) = _
  by_cases few : files.length ≤ maxFds
  · rw [List.take_of_length_le few, extractFiles_all]
    change (sbusCopySubstr _ _ _ >>= _) = _
    by_cases fits : 3 * intSize + filesMetadata.length + msgData.length ≤ maxMsgLength
    · rw [if_pos ⟨few, fits⟩]
      have metadata := buffer_filesMetadata format files.length filesMetadata msgData
        unwritten (by omega)
      have data := buffer_msgData format files.length filesMetadata msgData unwritten
        fits
      rw [buffer] at metadata data
      rw [metadata]
      change (sbusCopySubstr _ _ _ >>= _) = _
      rw [data]
      rfl
    · rw [if_neg (fun both => fits both.2)]
      have stray := buffer_stray format files.length filesMetadata msgData unwritten
        (by omega)
      rw [buffer] at stray
      rcases stray with first | second
      · change sbusCopySubstr _ _ _ = _ at first
        rw [first]
        rfl
      · cases metadata : sbusCopySubstr
            ((layout format files.length filesMetadata msgData unwritten).take maxMsgLength)
            (3 * intSize) filesMetadata.length with
        | error misread =>
          rw [copySubstr_error metadata]
          rfl
        | ok chunk =>
          change (sbusCopySubstr _ _ _ >>= _) = _
          rw [second]
          rfl
  · rw [if_neg (fun both => few both.1),
      extractFiles_stray (by simp only [List.length_take]; omega)]
    rfl

/-- The message that `sbus_send_msg` hands to the socket. -/
def wireMessage (format : IntFormat) (host : Host F) (args : Arguments F) : Message F :=
  ⟨layout format args.nFiles (args.filesMetadata.take args.nFilesMetadata.toNat)
    (args.msgData.take args.nMsg.toNat) host.unwritten, args.files.take args.nFiles.toNat⟩

/-- The lengths are ints the C code can work with, and it gets its control buffer. -/
structure Sendable (host : Host F) (args : Arguments F) : Prop where
  length : LengthDefined args
  filesMetadata : 0 ≤ args.nFilesMetadata
  msgData : 0 ≤ args.nMsg
  files : 0 ≤ args.nFiles
  control : IsInt (cbufSize args)
  allocated : host.malloc (sizeT (cbufSize args))

/-- The system refuses the socket, the memory of the stream, or the message. -/
def Refuses (format : IntFormat) (host : Host F) (args : Arguments F) : Prop :=
  host.socket = false ∨
    (LengthDefined args ∧ host.malloc (sizeT (bytestreamLength args)) = false) ∨
    (Sendable host args ∧ host.sendmsg (wireMessage format host args) = false)

/-- The lengths are at most those of the buffers they stand for. -/
structure Backed (args : Arguments F) : Prop where
  filesMetadata : args.nFilesMetadata ≤ args.filesMetadata.length
  msgData : args.nMsg ≤ args.msgData.length
  files : args.nFiles ≤ args.files.length

theorem length_take_toNat {α : Type} {items : List α} {n : Int} (positive : 0 ≤ n)
    (bound : n ≤ items.length) : ((items.take n.toNat).length : Int) = n := by
  rw [List.length_take]
  omega

theorem dump_layout (host : Host F) {args : Arguments F} (backed : Backed args)
    (metadata : 0 ≤ args.nFilesMetadata) (msg : 0 ≤ args.nMsg) :
    format.encode args.nFiles ++ (format.encode args.nFilesMetadata ++
      (format.encode args.nMsg ++ (args.filesMetadata.take args.nFilesMetadata.toNat ++
        (args.msgData.take args.nMsg.toNat ++ [host.unwritten])))) =
      (wireMessage format host args).bytes := by
  unfold wireMessage layout
  rw [length_take_toNat metadata backed.filesMetadata, length_take_toNat msg backed.msgData]

theorem not_refuses {host : Host F} {args : Arguments F} (socket : ¬ host.socket = false)
    (memory : LengthDefined args → ¬ host.malloc (sizeT (bytestreamLength args)) = false)
    (sent : Sendable host args → ¬ host.sendmsg (wireMessage format host args) = false) :
    ¬ Refuses format host args := by
  rintro (noSocket | ⟨length, noMemory⟩ | ⟨sendable, notSent⟩)
  · exact socket noSocket
  · exact memory length noMemory
  · exact sent sendable notSent

/-- The three ways `sbus_send_msg` ends, and when. -/
theorem sbusSendMsg_cases (host : Host F) {args : Arguments F} (backed : Backed args) :
    (sbusSendMsg format host args = .error .negative ∧ Refuses format host args) ∨
      (sbusSendMsg format host args = .error .undefined ∧ ¬ Sendable host args ∧
        ¬ Refuses format host args) ∨
      (sbusSendMsg format host args = .ok (wireMessage format host args) ∧ Sendable host args ∧
        ¬ Refuses format host args) := by
  unfold sbusSendMsg sbusPackMessage dumpDataToBytestream
  by_cases socket : host.socket = false
  · rw [if_pos socket]
    exact .inl ⟨rfl, .inl socket⟩
  rw [if_neg socket]
  have undefined (broken : ¬ Sendable host args)
      (memory : LengthDefined args → ¬ host.malloc (sizeT (bytestreamLength args)) = false) :
      ¬ Sendable host args ∧ ¬ Refuses format host args :=
    ⟨broken, not_refuses format socket memory fun sendable => absurd sendable broken⟩
  by_cases length : LengthDefined args
  · rw [if_neg (not_not_intro length)]
    by_cases memory : host.malloc (sizeT (bytestreamLength args)) = false
    · rw [if_pos memory]
      exact .inl ⟨rfl, .inr (.inl ⟨length, memory⟩)⟩
    rw [if_neg memory]
    by_cases negative : args.nFilesMetadata < 0 ∨ args.nMsg < 0
    · rw [if_pos negative]
      refine .inr (.inl ⟨rfl, undefined (fun sendable => ?_) fun _ => memory⟩)
      have metadata := sendable.filesMetadata
      have msg := sendable.msgData
      omega
    rw [if_neg negative, dump_layout format host backed (by omega) (by omega)]
    change (((if _ then _ else if _ then _ else _) : Except Failure (Message F)) >>= _) = _ ∧ _ ∨
      (((if _ then _ else if _ then _ else _) : Except Failure (Message F)) >>= _) = _ ∧ _ ∨
      (((if _ then _ else if _ then _ else _) : Except Failure (Message F)) >>= _) = _ ∧ _
    by_cases control : args.nFiles < 0 ∨ ¬ IsInt (cbufSize args)
    · rw [if_pos control]
      refine .inr (.inl ⟨rfl, undefined (fun sendable => ?_) fun _ => memory⟩)
      have files := sendable.files
      rcases control with below | wide
      · omega
      · exact wide sendable.control
    rw [if_neg control]
    by_cases buffer : host.malloc (sizeT (cbufSize args)) = false
    · rw [if_pos buffer]
      refine .inr (.inl ⟨rfl, undefined (fun sendable => ?_) fun _ => memory⟩)
      exact Bool.false_ne_true (buffer.symm.trans sendable.allocated)
    rw [if_neg buffer]
    obtain ⟨files, wide⟩ := not_or.mp control
    have sendable : Sendable host args :=
      ⟨length, by omega, by omega, by omega, not_not.mp wide, Bool.of_not_eq_false buffer⟩
    change (if host.sendmsg (wireMessage format host args) then _ else _) = _ ∧ _ ∨
      (if host.sendmsg (wireMessage format host args) then _ else _) = _ ∧ _ ∨
      (if host.sendmsg (wireMessage format host args) then _ else _) = _ ∧ _
    by_cases sent : host.sendmsg (wireMessage format host args) = false
    · rw [if_neg (by simp [sent])]
      exact .inl ⟨rfl, .inr (.inr ⟨sendable, sent⟩)⟩
    · rw [if_pos (Bool.of_not_eq_false sent)]
      exact .inr (.inr ⟨rfl, sendable, not_refuses format socket (fun _ => memory) fun _ => sent⟩)
  · rw [if_pos length]
    exact .inr (.inl ⟨rfl, undefined (fun sendable => length sendable.length)
      fun defined => absurd defined length⟩)

/-- The arguments `SBus.send` passes: `c_int` of each length, and no metadata without files. -/
def sendArguments (files : List F) (metadata params : List UInt8) : Arguments F :=
  if 0 < files.length then
    ⟨files, wrapInt files.length, metadata, wrapInt metadata.length, params, wrapInt params.length⟩
  else ⟨[], 0, [], 0, params, wrapInt params.length⟩

theorem sendArguments_backed (files : List F) (metadata params : List UInt8) :
    Backed (sendArguments files metadata params) := by
  unfold sendArguments
  split
  · constructor <;> dsimp only <;> exact wrapInt_le _
  · refine ⟨Int.le_refl 0, ?_, Int.le_refl 0⟩
    dsimp only
    exact wrapInt_le _

theorem sendArguments_ints (files : List F) (metadata params : List UInt8) :
    IsInt (sendArguments files metadata params).nFiles ∧
      IsInt (sendArguments files metadata params).nFilesMetadata ∧
      IsInt (sendArguments files metadata params).nMsg := by
  unfold sendArguments
  split
  · dsimp only
    exact ⟨wrapInt_isInt _, wrapInt_isInt _, wrapInt_isInt _⟩
  · dsimp only
    exact ⟨by decide, by decide, wrapInt_isInt _⟩

/-- Either the send is refused, or what is received is what was sent. -/
def RoundTrips (format : IntFormat) (host : Host F) (args : Arguments F) : Prop :=
  sbusSendMsg format host args = .error .negative ∨
    ∃ message, sbusSendMsg format host args = .ok message ∧
      sbusRecvMsg format (some (received message)) =
        .ok ⟨args.files, args.filesMetadata, args.msgData⟩

/-- The receiver's buffers hold the message: the three integers, the metadata and the parameters
in 4096 bytes. The sender's control buffer is allocated. -/
structure Fits (host : Host F) (args : Arguments F) : Prop where
  files : args.files.length ≤ maxFds
  bytes : 3 * intSize + args.filesMetadata.length + args.msgData.length ≤ maxMsgLength
  allocated : host.malloc (sizeT (cbufSize args))

/-- Short lengths are passed as they are. -/
theorem sendArguments_small {files : List F} {metadata params : List UInt8}
    (fewFiles : (sendArguments files metadata params).files.length ≤ maxFds)
    (short : 3 * intSize + (sendArguments files metadata params).filesMetadata.length +
      (sendArguments files metadata params).msgData.length ≤ maxMsgLength) :
    (sendArguments files metadata params).nFiles =
        (sendArguments files metadata params).files.length ∧
      (sendArguments files metadata params).nFilesMetadata =
        (sendArguments files metadata params).filesMetadata.length ∧
      (sendArguments files metadata params).nMsg =
        (sendArguments files metadata params).msgData.length := by
  have constants : maxMsgLength = 4096 ∧ maxFds = 4096 := ⟨rfl, rfl⟩
  unfold sendArguments at fewFiles short ⊢
  split
  · next some =>
    rw [if_pos some] at fewFiles short
    dsimp only at fewFiles short ⊢
    exact ⟨wrapInt_small (by omega), wrapInt_small (by omega), wrapInt_small (by omega)⟩
  · next none =>
    rw [if_neg none] at fewFiles short
    dsimp only at fewFiles short ⊢
    exact ⟨rfl, rfl, wrapInt_small (by omega)⟩

theorem recvMsg_wireMessage {host : Host F} {files : List F} {metadata params : List UInt8}
    (sendable : Sendable host (sendArguments files metadata params)) :
    sbusRecvMsg format (some (received (wireMessage format host
        (sendArguments files metadata params)))) =
          .ok ⟨(sendArguments files metadata params).files,
            (sendArguments files metadata params).filesMetadata,
            (sendArguments files metadata params).msgData⟩ ↔
      Fits host (sendArguments files metadata params) := by
  have backed := sendArguments_backed files metadata params
  obtain ⟨nFiles, nFilesMetadata, nMsg⟩ := sendArguments_ints files metadata params
  have small (fits : Fits host (sendArguments files metadata params)) :=
    sendArguments_small fits.files fits.bytes
  generalize sendArguments files metadata params = args at *
  have lengthFiles := length_take_toNat sendable.files backed.files
  have lengthMetadata := length_take_toNat sendable.filesMetadata backed.filesMetadata
  have lengthMsg := length_take_toNat sendable.msgData backed.msgData
  have unpacked := recvMsg_layout format (args.files.take args.nFiles.toNat)
    (args.filesMetadata.take args.nFilesMetadata.toNat) (args.msgData.take args.nMsg.toNat)
    host.unwritten (by unfold IsInt at nFiles; omega) (by unfold IsInt at nFilesMetadata; omega)
    (by unfold IsInt at nMsg; omega)
  rw [lengthFiles] at unpacked
  rw [wireMessage, unpacked]
  constructor
  · intro same
    split at same
    · next fits =>
      obtain ⟨sameFiles, sameMetadata, sameMsg⟩ := Unpacked.mk.inj (Except.ok.inj same)
      rw [sameFiles, sameMetadata, sameMsg] at fits
      exact ⟨fits.1, fits.2, sendable.allocated⟩
    · cases same
  · intro fits
    obtain ⟨allFiles, allMetadata, allMsg⟩ := small fits
    rw [allFiles, allMetadata, allMsg, Int.toNat_natCast, Int.toNat_natCast, Int.toNat_natCast,
      List.take_length, List.take_length, List.take_length, if_pos ⟨fits.files, fits.bytes⟩]

theorem sendable_of_fits {host : Host F} {files : List F} {metadata params : List UInt8}
    (fits : Fits host (sendArguments files metadata params)) :
    Sendable host (sendArguments files metadata params) := by
  obtain ⟨nFiles, nFilesMetadata, nMsg⟩ := sendArguments_small fits.files fits.bytes
  have constants : maxMsgLength = 4096 ∧ maxFds = 4096 ∧ intSize = 4 ∧ cmsgHeader = 16 :=
    ⟨rfl, rfl, rfl, rfl⟩
  have few := fits.files
  have short := fits.bytes
  refine ⟨?_, by omega, by omega, by omega, ?_, fits.allocated⟩
  · unfold LengthDefined bytestreamLength IsInt
    omega
  · simp only [cbufSize, IsInt, nFiles, intSize, cmsgHeader]
    omega

end RoundTrip

/-- Whatever `SBus.send` passes on makes the round trip if and only if the system refuses it, or
it fits the receiver's buffers and the sender gets its control buffer. -/
theorem send_round_trips_iff {F : Type} (format : IntFormat) (host : Host F) (files : List F)
    (metadata params : List UInt8) :
    RoundTrips format host (sendArguments files metadata params) ↔
      Refuses format host (sendArguments files metadata params) ∨
        Fits host (sendArguments files metadata params) := by
  unfold RoundTrips
  rcases sbusSendMsg_cases format host (sendArguments_backed files metadata params) with
    ⟨ends, refused⟩ | ⟨ends, broken, accepted⟩ | ⟨ends, sendable, accepted⟩
  · exact iff_of_true (.inl ends) (.inl refused)
  · rw [ends]
    refine iff_of_false ?_ ?_
    · rintro (negative | ⟨message, sent, -⟩)
      · cases negative
      · cases sent
    · rintro (refused | fits)
      · exact accepted refused
      · exact broken (sendable_of_fits fits)
  · rw [ends, ← recvMsg_wireMessage format sendable]
    constructor
    · rintro (negative | ⟨message, sent, unpacked⟩)
      · cases negative
      · obtain rfl := Except.ok.inj sent
        exact .inr unpacked
    · rintro (refused | unpacked)
      · exact absurd refused accepted
      · exact .inr ⟨_, rfl, unpacked⟩

/-- A system that accepts every message. -/
def acceptingHost : Host Nat := ⟨true, fun _ => true, fun _ => true, 0⟩

theorem not_refuses_accepting (format : IntFormat) (args : Arguments Nat) :
    ¬ Refuses format acceptingHost args := by
  rintro (socket | ⟨-, memory⟩ | ⟨-, sent⟩)
  · cases socket
  · cases memory
  · cases sent

/-- Five thousand bytes of parameters are sent and do not come back. -/
theorem long_params_lost : ¬ ∀ (format : IntFormat) (host : Host Nat) (files : List Nat)
    (metadata params : List UInt8),
    RoundTrips format host (sendArguments files metadata params) := by
  intro always
  obtain ⟨params, long⟩ : ∃ params : List UInt8, params.length = 5000 :=
    ⟨List.replicate 5000 65, List.length_replicate⟩
  rcases sbusSendMsg_cases littleEndian acceptingHost
      (sendArguments_backed [3] [91, 93] params) with
    ⟨-, refused⟩ | ⟨ends, -⟩ | ⟨ends, sendable, -⟩
  · exact not_refuses_accepting _ _ refused
  · rcases always littleEndian acceptingHost [3] [91, 93] params with negative | ⟨message, sent, -⟩
    · rw [ends] at negative
      cases negative
    · rw [ends] at sent
      cases sent
  · rcases always littleEndian acceptingHost [3] [91, 93] params with
      negative | ⟨message, sent, unpacked⟩
    · rw [ends] at negative
      cases negative
    · rw [ends] at sent
      obtain rfl := Except.ok.inj sent
      have bytes := ((recvMsg_wireMessage littleEndian sendable).mp unpacked).bytes
      simp [sendArguments, maxMsgLength, intSize, long] at bytes

end Storlets.Sbus
