import Storlets.Middleware.Object
import Storlets.Middleware.Proxy
import Storlets.Agent.Files

set_option autoImplicit false

/-!
# The range of a storlet's input

On the object node a range travels in the metadata of the input descriptor; on the
proxy it becomes a Range request.
-/

namespace Storlets

open PyStr

/-- The metadata `remote_fds` gives the input descriptor. -/
def storletsMetadata (sreq : ContainerStorletRequest) : Dict Text :=
  match sreq.start, sreq.end with
  | some start, some stop => .ofList [("start", decimal start), ("end", decimal stop)]
  | _, _ => .empty

/-- The file on the other side of the input descriptor: the server's own, or a pipe. -/
def inputObjFile (sreq : ContainerStorletRequest) : ObjFile :=
  match sreq.data.source with
  | .fd content => { content, seekable := true }
  | .iter content => { content, seekable := false }

def primaryInput (sreq : ContainerStorletRequest) : Except FileError StorletInputFile :=
  createInputFile (storletsMetadata sreq) sreq.data.userMetadata (inputObjFile sreq)

/-- What the storlet reads as its primary input, when it gets one. -/
def inputBytes (built : Except PyError ContainerStorletRequest) : Option Bytes := do
  let sreq ← built.toOption
  let file ← (primaryInput sreq).toOption
  let (data, _) ← (file.read (-1)).toOption
  return data

/-- The input of a storlet the object handler runs. -/
def objectInput (swift : Swift) (handler : ObjectHandler) (resp : Response) : Option Bytes :=
  inputBytes (buildStorletRequest (ObjectHandler.getStorletInvocationOptions swift handler.request)
    handler.request handler.params resp.headers resp.body)

/-- The input of a storlet the proxy handler runs. -/
def proxyInput (swift : Swift) (handler : ProxyHandler) (req : Request) (resp : Response) :
    Option Bytes :=
  inputBytes (buildStorletRequest (.ok (getStorletInvocationOptions swift req)) req handler.params
    resp.headers resp.body)

/-- The bytes a range denotes. -/
def denoted (content : Bytes) : ByteRange → Bytes
  | (some first, some last) => (content.drop first).take (last + 1 - first)
  | (some first, none) => content.drop first
  | (none, some suffix) => content.drop (content.length - suffix)
  | (none, none) => content

def Satisfiable (length : Nat) : ByteRange → Prop
  | (some first, some last) => first ≤ last ∧ first < length
  | (some first, none) => first < length
  | (none, some suffix) => 0 < suffix ∧ 0 < length
  | (none, none) => False

/-- An object in a Swift that serves it: from disk on its object node, and by Range requests to
the proxy. -/
structure ServedObject (swift : Swift) where
  content : Bytes
  disk : Response
  disk_body : disk.body = { origin := .object, content, hasFp := true }
  serve : Request → Response
  serve_body : ∀ req header range, req.headers.get? "Range" = some header →
    swift.range header = some [range] → Satisfiable content.length range →
    (serve req).body = { origin := .object, content := denoted content range }

theorem inputBytes_eq {built : Except PyError ContainerStorletRequest}
    {sreq : ContainerStorletRequest} {file : StorletInputFile} (made : built = .ok sreq)
    (opened : primaryInput sreq = .ok file) (inWindow : file.InWindow) :
    inputBytes built = some file.remaining := by
  obtain ⟨data, rest, reads, -, -, -, whole⟩ := file.read_spec inWindow (-1)
  unfold inputBytes
  rw [made]
  change ((primaryInput sreq).toOption >>= _) = _
  rw [opened]
  change ((file.read (-1)).toOption >>= _) = _
  rw [reads, whole (by decide)]
  rfl

/-- What a storlet request takes over from the options and the body. -/
theorem buildStorletRequest_spec {options : InvocationOptions} (req : Request)
    (params : Dict Text) (sheaders : Headers) (sbody : Body)
    (main : (options.storlet.get? "storlet_main").isSome)
    (language : (options.storlet.get? "storlet_language").isSome) :
    ∃ sreq, buildStorletRequest (.ok options) req params sheaders sbody = .ok sreq ∧
      sreq.start = options.rangeStart ∧ sreq.end = options.rangeEnd ∧
      sreq.data.source = if sbody.hasFp then .fd sbody.content else .iter sbody.content := by
  obtain ⟨storletMain, hasMain⟩ := Option.isSome_iff_exists.mp main
  obtain ⟨storletLanguage, hasLanguage⟩ := Option.isSome_iff_exists.mp language
  have made : buildStorletRequest (.ok options) req params sheaders sbody =
      ContainerStorletRequest.init ((req.headers.get? "X-Run-Storlet").getD []) params
        ⟨getUserMetadata sheaders,
          if sbody.hasFp then .fd sbody.content else .iter sbody.content⟩ options := rfl
  rw [made, ContainerStorletRequest.init, hasMain, hasLanguage]
  exact ⟨_, rfl, rfl, rfl, rfl⟩

/-- Without a range the storlet reads the whole body. -/
theorem inputBytes_whole (options : InvocationOptions) {req : Request} {params : Dict Text}
    {sheaders : Headers} {sbody : Body}
    (main : (options.storlet.get? "storlet_main").isSome)
    (language : (options.storlet.get? "storlet_language").isSome)
    (noStart : options.rangeStart = none) :
    inputBytes (buildStorletRequest (.ok options) req params sheaders sbody) =
      some sbody.content := by
  obtain ⟨sreq, made, start, -, source⟩ := buildStorletRequest_spec req params sheaders sbody
    main language
  have metadata : storletsMetadata sreq = .empty := by
    unfold storletsMetadata
    rw [start, noStart]
  have opened : primaryInput sreq =
      .ok { metadata := sreq.data.userMetadata, objFile := inputObjFile sreq } := by
    unfold primaryInput
    rw [metadata]
    rfl
  rw [inputBytes_eq made opened (fun _ given => nomatch given)]
  congr 1
  unfold StorletInputFile.remaining StorletInputFile.unread inputObjFile
  rw [source]
  cases sbody.hasFp <;> rfl

/-- A range travels to the storlet as text and comes back as the window it reads through. -/
theorem inputBytes_window {options : InvocationOptions} {req : Request} {params : Dict Text}
    {sheaders : Headers} {sbody : Body} {start stop : Nat}
    (main : (options.storlet.get? "storlet_main").isSome)
    (language : (options.storlet.get? "storlet_language").isSome)
    (starts : options.rangeStart = some start) (stops : options.rangeEnd = some stop)
    (ordered : start ≤ stop) (onDisk : sbody.hasFp = true) :
    inputBytes (buildStorletRequest (.ok options) req params sheaders sbody) =
      some ((sbody.content.drop start).take (stop - start)) := by
  obtain ⟨sreq, made, first, last, source⟩ := buildStorletRequest_spec req params sheaders sbody
    main language
  have metadata : storletsMetadata sreq = .ofList [("start", decimal start), ("end", decimal stop)] := by
    unfold storletsMetadata
    rw [first, last, starts, stops]
  have file : inputObjFile sreq = { content := sbody.content, seekable := true } := by
    unfold inputObjFile
    rw [source, onDisk]
    rfl
  have opened : primaryInput sreq =
      .ok { metadata := sreq.data.userMetadata
            objFile := { content := sbody.content, offset := start, seekable := true }
            window := some ⟨start, stop, start⟩ } := by
    unfold primaryInput createInputFile
    rw [metadata, file]
    have asStart : (PyDict.ofList [("start".toList, decimal start), ("end".toList, decimal stop)]).get?
        "start".toList = some (decimal start) := rfl
    have asEnd : (PyDict.ofList [("start".toList, decimal start), ("end".toList, decimal stop)]).get?
        "end".toList = some (decimal stop) := rfl
    rw [asStart, asEnd]
    dsimp only
    rw [int?_decimal, int?_decimal]
    rfl
  rw [inputBytes_eq made opened]
  · rfl
  · rintro window ⟨⟩
    exact ordered

/-- A Range header leaves the storlet options as they are. -/
theorem storletOptions_withRange (swift : Swift) (req : Request) (onProxy : Bool) :
    (getStorletInvocationOptions swift (ProxyHandler.withStorletRange req onProxy)).storlet =
      (getStorletInvocationOptions swift req).storlet := by
  unfold ProxyHandler.withStorletRange
  split
  · next range _ =>
    refine PyDict.foldl_setItem _ _ (fun options value => ?_) range
      req.headers.items PyDict.empty
    exact if_neg (by decide)
  · rfl

/-- A range the object handler can pass on, or a suffix that is the whole object. -/
def Bounded (length : Nat) : ByteRange → Prop
  | (some _, some _) => True
  | (none, some suffix) => length ≤ suffix
  | _ => False

section Places

variable {swift : Swift} {req : Request} {header : Text} {range : ByteRange}

/-- The proxy turns the range into a Range request, whose body is the input. -/
theorem proxyInput_eq (object : ServedObject swift) (handler : ProxyHandler)
    (asked : req.headers.get? "X-Storlet-Range" = some header)
    (parsed : swift.range header = some [range])
    (satisfiable : Satisfiable object.content.length range) (registered : Registered swift req) :
    proxyInput swift handler (ProxyHandler.withStorletRange req true)
      (object.serve (ProxyHandler.withStorletRange req true)) =
        some (denoted object.content range) := by
  have sent : (ProxyHandler.withStorletRange req true).headers.get? "Range" = some header := by
    unfold ProxyHandler.withStorletRange
    rw [asked]
    dsimp only
    rw [Headers.get?_set, if_pos rfl]
  have body := object.serve_body _ header range sent parsed satisfiable
  have options := storletOptions_withRange swift req true
  obtain ⟨main, language⟩ := registered
  rw [← options] at main language
  unfold proxyInput
  rw [inputBytes_whole _ main language rfl, body]

theorem objectOptions_bounded {first : Option Nat} {last : Nat}
    (asked : req.headers.get? "X-Storlet-Range" = some header)
    (parsed : swift.range header = some [(first, some last)]) :
    ObjectHandler.getStorletInvocationOptions swift req =
      .ok { getStorletInvocationOptions swift req with
        rangeStart := first, rangeEnd := some (last + 1) } := by
  unfold ObjectHandler.getStorletInvocationOptions
  rw [asked]
  dsimp only
  rw [parsed]
  rfl

/-- `ranges[0][1] + 1` of a range without a last byte. -/
theorem objectOptions_open {first : Option Nat}
    (asked : req.headers.get? "X-Storlet-Range" = some header)
    (parsed : swift.range header = some [(first, none)]) :
    ObjectHandler.getStorletInvocationOptions swift req = .error .typeError := by
  unfold ObjectHandler.getStorletInvocationOptions
  rw [asked]
  dsimp only
  rw [parsed]
  rfl

theorem drop_eq_self_iff {content : Bytes} {count : Nat} (nonempty : 0 < content.length) :
    content = content.drop count ↔ count = 0 := by
  constructor
  · intro same
    have lengths := congrArg List.length same
    rw [List.length_drop] at lengths
    omega
  · rintro rfl
    rfl

theorem objectInput_eq_iff (object : ServedObject swift) (handler : ObjectHandler)
    (asked : handler.request.headers.get? "X-Storlet-Range" = some header)
    (parsed : swift.range header = some [range])
    (satisfiable : Satisfiable object.content.length range)
    (registered : Registered swift handler.request) :
    objectInput swift handler object.disk = some (denoted object.content range) ↔
      Bounded object.content.length range := by
  obtain ⟨main, language⟩ := registered
  unfold objectInput
  rw [object.disk_body]
  obtain ⟨first, _ | last⟩ := range
  · rw [objectOptions_open asked parsed]
    refine iff_of_false (fun same => nomatch same) ?_
    cases first <;> exact id
  · rw [objectOptions_bounded asked parsed]
    cases first with
    | some first =>
      obtain ⟨ordered, -⟩ := satisfiable
      exact iff_of_true (inputBytes_window main language rfl rfl (by omega) rfl) trivial
    | none =>
      obtain ⟨-, nonempty⟩ := satisfiable
      rw [inputBytes_whole { getStorletInvocationOptions swift handler.request with
        rangeStart := none, rangeEnd := some (last + 1) } main language rfl]
      simp only [denoted, Bounded, Option.some.injEq]
      rw [drop_eq_self_iff nonempty]
      omega

end Places

/-- The storlet reads the bytes the range denotes on the object node and on the proxy alike. -/
def RangeAgrees {swift : Swift} (object : ServedObject swift) (objectHandler : ObjectHandler)
    (proxyHandler : ProxyHandler) (range : ByteRange) : Prop :=
  let req := ProxyHandler.withStorletRange objectHandler.request true
  objectInput swift objectHandler object.disk = some (denoted object.content range) ∧
    proxyInput swift proxyHandler req (object.serve req) = some (denoted object.content range)

theorem range_agrees_iff (swift : Swift) (object : ServedObject swift)
    (objectHandler : ObjectHandler) (proxyHandler : ProxyHandler) (header : Text)
    (range : ByteRange)
    (asked : objectHandler.request.headers.get? "X-Storlet-Range" = some header)
    (parsed : swift.range header = some [range])
    (satisfiable : Satisfiable object.content.length range)
    (registered : Registered swift objectHandler.request) :
    RangeAgrees object objectHandler proxyHandler range ↔ Bounded object.content.length range := by
  unfold RangeAgrees
  dsimp only
  rw [objectInput_eq_iff object objectHandler asked parsed satisfiable registered]
  exact and_iff_left (proxyInput_eq object proxyHandler asked parsed satisfiable registered)

/-- A Swift that knows one range header. -/
def Swift.oneRange (text : Text) (range : ByteRange) : Swift :=
  { Swift.rangeless with range := fun header => if header = text then some [range] else none }

def threeBytes (text : Text) (range : ByteRange) : ServedObject (.oneRange text range) where
  content := [1, 2, 3]
  disk := ⟨200, .empty, { origin := .object, content := [1, 2, 3], hasFp := true }⟩
  disk_body := rfl
  serve _ := ⟨206, .empty, { origin := .object, content := denoted [1, 2, 3] range }⟩
  serve_body := by
    intro req header found _ parsed _
    change (if header = text then some [range] else none) = some [found] at parsed
    split at parsed
    · obtain rfl := List.singleton_inj.mp (Option.some.inj parsed)
      rfl
    · cases parsed

def rangeGet (text : Text) : Request :=
  ⟨"GET", "v1", "AUTH_a", "c", "o", .ofList [("X-Run-Storlet", "up.py"),
    ("X-Storlet-Main", "up.Up"), ("X-Storlet-Language", "Python"), ("X-Storlet-Range", text)],
    .empty, []⟩

/-- `bytes=1-` is the second and third byte on the proxy, and a `TypeError` on the object node. -/
theorem open_range_disagrees : ¬ ∀ (swift : Swift) (object : ServedObject swift)
    (objectHandler : ObjectHandler) (proxyHandler : ProxyHandler) (header : Text)
    (range : ByteRange), objectHandler.request.headers.get? "X-Storlet-Range" = some header →
    swift.range header = some [range] → Satisfiable object.content.length range →
    Registered swift objectHandler.request →
    RangeAgrees object objectHandler proxyHandler range := by
  intro always
  have same := (always (.oneRange "bytes=1-" (some 1, none)) (threeBytes "bytes=1-" (some 1, none))
    ⟨rangeGet "bytes=1-", .empty⟩ ⟨rangeGet "bytes=1-", .empty, []⟩ "bytes=1-" (some 1, none)
    (by decide) rfl (by show 1 < 3; decide) ⟨by decide, by decide⟩).1
  revert same
  decide

theorem range_agrees_iff_of_closed :
    RangeAgrees (threeBytes "bytes=1-9" (some 1, some 9)) ⟨rangeGet "bytes=1-9", .empty⟩
        ⟨rangeGet "bytes=1-9", .empty, []⟩ (some 1, some 9) ↔ Bounded 3 (some 1, some 9) :=
  range_agrees_iff (.oneRange "bytes=1-9" (some 1, some 9)) (threeBytes "bytes=1-9" (some 1, some 9))
    ⟨rangeGet "bytes=1-9", .empty⟩ ⟨rangeGet "bytes=1-9", .empty, []⟩ "bytes=1-9" (some 1, some 9)
    (by decide) rfl (by show 1 ≤ 9 ∧ 1 < 3; decide) ⟨by decide, by decide⟩

end Storlets
