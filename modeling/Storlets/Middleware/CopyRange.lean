import Storlets.Middleware.Copy
import Storlets.Middleware.StorletRange

set_option autoImplicit false

/-!
# The range of a copy

The copy flow makes its own source request.
-/

namespace Storlets

open PyStr Traced

/-- The ranges of a request; a header that is no range is ignored. -/
def Swift.ranges (swift : Swift) (headers : Headers) : Option (List ByteRange) :=
  (headers.get? "Range").bind swift.range

/-- `_copy_headers` writes metadata only. -/
def Swift.KeepsStorletHeaders (swift : Swift) : Prop :=
  ∀ src dest name, startsWith (title name) "X-Storlet-" →
    (swift.copyHeaders src dest).get? name = dest.get? name

/-- A plain object, as its object node has it on disk and as it is served to the proxy. -/
structure PlainSource (swift : Swift) where
  content : Bytes
  disk : Request → Response
  serve : Request → Response
  disk_whole : ∀ req, (disk req).isSuccess → swift.ranges req.headers = none →
    (disk req).body = { origin := .object, content, hasFp := true }
  -- a part of a file is read by a generator
  disk_part : ∀ req, swift.ranges req.headers ≠ none → (disk req).body.hasFp = false
  serve_whole : ∀ req, (serve req).isSuccess → swift.ranges req.headers = none →
    (serve req).body = { origin := .object, content }

section Places

variable {swift : Swift} (conf : HandlerConf) (source : PlainSource swift)
variable (handler : ProxyHandler) (params : Dict Text) (req : Request) (path : Text × Text)

/-- The object node's handler gets the source request. -/
def sourceHandler : ObjectHandler := ⟨handler.sourceRequest req path false, params⟩

def copyInputOnNode : Option Bytes :=
  let node := sourceHandler handler params req path
  objectInput swift node (source.disk node.request)

def copyInputOnProxy : Option Bytes :=
  let srcResp := source.serve (handler.sourceRequest req path true)
  proxyInput swift handler (ProxyHandler.withSourceHeaders swift req srcResp) srcResp

structure RunsOnNode : Prop where
  forwarded : ProxyHandler.isProxyRunnable swift conf req.headers none = .ok false
  asked : (sourceHandler handler params req path).request.headers.contains "X-Run-Storlet"
  found : (source.disk (handler.sourceRequest req path false)).isSuccess
  runnable : (sourceHandler handler params req path).notRunnable swift conf
    (source.disk (handler.sourceRequest req path false)) = .ok false

structure RunsOnProxy : Prop where
  kept : ProxyHandler.isProxyRunnable swift conf req.headers none = .ok true
  found : (source.serve (handler.sourceRequest req path true)).isSuccess

end Places

/-- A copy with a range, by a storlet that has what a storlet must have. -/
structure RangeCopy (header : Text) (req : Request) : Prop where
  range : req.headers.get? "X-Storlet-Range" = some header
  main : req.headers.contains "X-Storlet-Main"
  language : req.headers.contains "X-Storlet-Language"

theorem registered_of_headers (swift : Swift) (req : Request)
    (main : req.headers.contains "X-Storlet-Main")
    (language : req.headers.contains "X-Storlet-Language") : Registered swift req := by
  have option (name : Text) (starts : startsWith (title name) "X-Storlet-")
      (passed : title name ∉ ["X-Storlet-Range".toList, "X-Storlet-Generate-Log".toList])
      (there : req.headers.contains name) :
      ((getStorletInvocationOptions swift req).storlet.get? ("storlet_".toList ++
        replace '-' '_' (lower ((title name).drop "X-Storlet-".length)))).isSome := by
    rw [PyDict.get?_isSome]
    refine PyDict.mem_keys_foldl_renamed (V := Text)
      (fun key : Text => startsWith key "X-Storlet-" ∧
        key ∉ ["X-Storlet-Range".toList, "X-Storlet-Generate-Log".toList])
      (fun key => "storlet_".toList ++ replace '-' '_' (lower (key.drop "X-Storlet-".length)))
      ⟨starts, passed⟩ _ _ (.inr ?_)
    have listed : (req.headers.entries.get? (title name)).isSome := there
    rwa [PyDict.get?_isSome] at listed
  constructor
  · exact option "X-Storlet-Main" (by decide) (by decide) main
  · exact option "X-Storlet-Language" (by decide) (by decide) language

theorem Headers.get?_update_other (headers : Headers) {name : Text} {pairs : List (Text × Text)}
    (others : ∀ pair ∈ pairs, title name ≠ title pair.1) :
    (headers.update pairs).get? name = headers.get? name := by
  induction pairs generalizing headers with
  | nil => rfl
  | cons pair rest ih =>
    change ((headers.set pair.1 pair.2).update rest).get? name = _
    rw [ih _ fun pair inside => others pair (List.mem_cons_of_mem _ inside), Headers.get?_set,
      if_neg (others pair List.mem_cons_self)]

/-- A pipe has no window to read through. -/
theorem inputBytes_pipe {options : InvocationOptions} {req : Request} {params : Dict Text}
    {sheaders : Headers} {sbody : Body} {start stop : Nat}
    (main : (options.storlet.get? "storlet_main").isSome)
    (language : (options.storlet.get? "storlet_language").isSome)
    (starts : options.rangeStart = some start) (stops : options.rangeEnd = some stop)
    (piped : sbody.hasFp = false) :
    inputBytes (buildStorletRequest (.ok options) req params sheaders sbody) = none := by
  obtain ⟨sreq, made, first, last, source⟩ := buildStorletRequest_spec req params sheaders sbody
    main language
  have metadata : storletsMetadata sreq =
      .ofList [("start", decimal start), ("end", decimal stop)] := by
    unfold storletsMetadata
    rw [first, last, starts, stops]
  have file : inputObjFile sreq = { content := sbody.content, seekable := false } := by
    unfold inputObjFile
    rw [source, piped]
    rfl
  have opened : primaryInput sreq = .error .unseekable := by
    unfold primaryInput createInputFile
    rw [metadata, file]
    have asStart : (PyDict.ofList [("start".toList, decimal start), ("end".toList, decimal stop)]).get?
        "start".toList = some (decimal start) := rfl
    have asEnd : (PyDict.ofList [("start".toList, decimal start), ("end".toList, decimal stop)]).get?
        "end".toList = some (decimal stop) := rfl
    rw [asStart, asEnd]
    dsimp only
    rw [int?_decimal, int?_decimal]
    rfl
  unfold inputBytes
  rw [made]
  change ((primaryInput sreq).toOption >>= _) = _
  rw [opened]
  rfl

section Source

variable {swift : Swift} {conf : HandlerConf} {source : PlainSource swift} {handler : ProxyHandler}
variable {params : Dict Text} {req : Request} {path : Text × Text} {header : Text}
variable {first last : Nat}

/-- The source request keeps the headers of the copy that a range is read from. -/
theorem sourceRequest_get? (name : Text) (onProxy : Bool)
    (other : title name ≠ title "Content-Length" ∧
      title name ≠ title "X-Backend-Storage-Policy-Index" ∧ title name ≠ title "X-Run-Storlet") :
    (handler.sourceRequest req path onProxy).headers.get? name = req.headers.get? name := by
  obtain ⟨length, policy, run⟩ := other
  unfold ProxyHandler.sourceRequest ProxyHandler.copyGet
  cases onProxy with
  | false =>
    change ((req.headers.set "Content-Length" "0").pop _).get? name = _
    rw [Headers.get?_pop, if_neg policy, Headers.get?_set, if_neg length]
  | true =>
    change (((req.headers.set "Content-Length" "0").pop _).pop _).get? name = _
    rw [Headers.get?_pop, if_neg run, Headers.get?_pop, if_neg policy, Headers.get?_set,
      if_neg length]

variable (swift handler req path) in
theorem sourceRequest_ranges (onProxy : Bool) :
    swift.ranges (handler.sourceRequest req path onProxy).headers = swift.ranges req.headers := by
  unfold Swift.ranges
  rw [sourceRequest_get? _ _ (by decide)]

theorem RangeCopy.sent (copy : RangeCopy header req) (onProxy : Bool) :
    RangeCopy header (handler.sourceRequest req path onProxy) := by
  have main := copy.main
  have language := copy.language
  unfold Headers.contains at main language
  constructor
  · rw [sourceRequest_get? _ _ (by decide), copy.range]
  · rwa [Headers.contains, sourceRequest_get? _ _ (by decide)]
  · rwa [Headers.contains, sourceRequest_get? _ _ (by decide)]

variable (swift) in
theorem RangeCopy.registered (copy : RangeCopy header req) : Registered swift req :=
  registered_of_headers swift req copy.main copy.language

/-- The object node reads the window of a whole file. -/
theorem copyInputOnNode_eq_iff (copy : RangeCopy header req)
    (runs : RunsOnNode conf source handler params req path)
    (parsed : swift.range header = some [(some first, some last)]) (ordered : first ≤ last) :
    copyInputOnNode source handler params req path =
        some (denoted source.content (some first, some last)) ↔
      swift.ranges req.headers = none := by
  have sent : RangeCopy header (sourceHandler handler params req path).request := copy.sent false
  obtain ⟨main, language⟩ := sent.registered swift
  have ranges := sourceRequest_ranges swift handler req path false
  unfold copyInputOnNode objectInput
  dsimp only
  rw [objectOptions_bounded sent.range parsed]
  constructor
  · intro reads
    by_contra ranged
    have piped := source.disk_part _ (ranges.symm ▸ ranged)
    cases reads.symm.trans (inputBytes_pipe main language rfl rfl piped)
  · intro unranged
    have body := source.disk_whole _ runs.found (ranges.trans unranged)
    have onDisk : (source.disk (sourceHandler handler params req path).request).body.hasFp := by
      unfold sourceHandler
      rw [body]
    refine Eq.trans (inputBytes_window main language rfl rfl (by omega) onDisk) ?_
    unfold sourceHandler
    rw [body]
    rfl

/-- The proxy reads what the source request returns. -/
theorem copyInputOnProxy_eq (keeps : swift.KeepsStorletHeaders) (copy : RangeCopy header req)
    (runs : RunsOnProxy conf source handler req path)
    (unranged : swift.ranges req.headers = none) :
    copyInputOnProxy source handler req path = some source.content := by
  have ranges := sourceRequest_ranges swift handler req path true
  have body := source.serve_whole _ runs.found (ranges.trans unranged)
  have kept (name : Text) (starts : startsWith (title name) "X-Storlet-")
      (there : req.headers.contains name) (src : Headers) :
      (swift.copyHeaders src req.headers).contains name := by
    rwa [Headers.contains, keeps src req.headers name starts]
  obtain ⟨main, language⟩ := registered_of_headers swift
    (ProxyHandler.withSourceHeaders swift req
      (source.serve (handler.sourceRequest req path true)))
    (kept _ (by decide) copy.main _) (kept _ (by decide) copy.language _)
  unfold copyInputOnProxy proxyInput
  rw [inputBytes_whole _ main language rfl, body]

theorem denoted_eq_content_iff {content : Bytes} (satisfiable : first < content.length) :
    content = denoted content (some first, some last) ↔
      first = 0 ∧ content.length ≤ last + 1 := by
  change content = (content.drop first).take (last + 1 - first) ↔ _
  constructor
  · intro same
    have lengths := congrArg List.length same
    rw [List.length_take, List.length_drop] at lengths
    omega
  · intro ⟨atStart, atEnd⟩
    rw [atStart, List.drop_zero, List.take_of_length_le (by omega)]

end Source

/-- Both storlets read the bytes of the range. -/
def RangeCopyAgrees {swift : Swift} (source : PlainSource swift) (handler handler' : ProxyHandler)
    (params : Dict Text) (req req' : Request) (path : Text × Text) (range : ByteRange) : Prop :=
  copyInputOnNode source handler params req path = some (denoted source.content range) ∧
    copyInputOnProxy source handler' req' path = some (denoted source.content range)

/-- The place does not matter exactly if the range is the whole object and nothing else asks for
a part of it. -/
theorem range_copy_agrees_iff {swift : Swift} (keeps : swift.KeepsStorletHeaders)
    (source : PlainSource swift) (conf conf' : HandlerConf) (handler handler' : ProxyHandler)
    (params : Dict Text) (req req' : Request) (path : Text × Text) (header : Text)
    (first last : Nat) (parsed : swift.range header = some [(some first, some last)])
    (satisfiable : Satisfiable source.content.length (some first, some last))
    (copy : RangeCopy header req) (copy' : RangeCopy header req')
    (sameRange : req'.headers.get? "Range" = req.headers.get? "Range")
    (onNode : RunsOnNode conf source handler params req path)
    (onProxy : RunsOnProxy conf' source handler' req' path) :
    RangeCopyAgrees source handler handler' params req req' path (some first, some last) ↔
      swift.ranges req.headers = none ∧ first = 0 ∧ source.content.length ≤ last + 1 := by
  obtain ⟨ordered, inside⟩ := satisfiable
  have sameRanges : swift.ranges req'.headers = swift.ranges req.headers := by
    unfold Swift.ranges
    rw [sameRange]
  unfold RangeCopyAgrees
  rw [copyInputOnNode_eq_iff copy onNode parsed ordered]
  constructor
  · intro ⟨unranged, reads⟩
    rw [copyInputOnProxy_eq keeps copy' onProxy (sameRanges.trans unranged)] at reads
    exact ⟨unranged, (denoted_eq_content_iff inside).mp (Option.some.inj reads)⟩
  · intro ⟨unranged, whole⟩
    rw [copyInputOnProxy_eq keeps copy' onProxy (sameRanges.trans unranged)]
    exact ⟨unranged, congrArg some ((denoted_eq_content_iff inside).mpr whole)⟩

/-- What the sample Swift copies is not a header of a storlet. -/
theorem oneRange_keeps (text : Text) (range : ByteRange) :
    (Swift.oneRange text range).KeepsStorletHeaders := by
  intro src dest name starts
  have storlet : "X-Storlet-".toList <+: title name := List.isPrefixOf_iff_prefix.mp starts
  have apart (front : Text) (long : "X-Storlet-".toList.length ≤ front.length)
      (differs : ¬ "X-Storlet-".toList <+: front) : startsWith (title name) front = false := by
    rw [Bool.eq_false_iff]
    intro both
    exact differs (List.prefix_of_prefix_length_le storlet (List.isPrefixOf_iff_prefix.mp both) long)
  apply Headers.get?_update_other
  intro pair copied
  obtain ⟨key, value⟩ := pair
  obtain ⟨listed, kind⟩ := List.mem_filter.mp copied
  have titled : title key = key := src.titled _ (List.mem_map_of_mem listed)
  intro same
  have same : title name = key := same.trans titled
  rw [same] at apart storlet
  simp only [Bool.or_eq_true, decide_eq_true_eq] at kind
  rcases kind with ((meta' | sysmeta) | transient) | delete
  · cases meta'.symm.trans (apart _ (by decide) (by decide))
  · cases sysmeta.symm.trans (apart _ (by decide) (by decide))
  · cases transient.symm.trans (apart _ (by decide) (by decide))
  · rw [delete] at storlet
    revert storlet
    decide

/-- A Swift with one object of three bytes. -/
def threeByteSource (text : Text) (range : ByteRange) : PlainSource (.oneRange text range) where
  content := [1, 2, 3]
  disk req :=
    if (Swift.oneRange text range).ranges req.headers = none then
      ⟨200, .empty, { origin := .object, content := [1, 2, 3], hasFp := true }⟩
    else ⟨206, .empty, { origin := .object, content := [] }⟩
  serve req :=
    if (Swift.oneRange text range).ranges req.headers = none then
      ⟨200, .empty, { origin := .object, content := [1, 2, 3] }⟩
    else ⟨206, .empty, { origin := .object, content := [] }⟩
  disk_whole := by
    intro req _ unranged
    rw [if_pos unranged]
  disk_part := by
    intro req ranged
    rw [if_neg ranged]
  serve_whole := by
    intro req _ unranged
    rw [if_pos unranged]

/-- The request of a copy with a range, once the storlet is verified and the source is known. -/
def rangeCopyRequest (text : Text) (places : List (Text × Text)) : Request :=
  ⟨"PUT", "v1", "AUTH_a", "c", "copy", Headers.update (.ofList [("X-Run-Storlet", "up.py"),
    ("X-Storlet-Main", "up.Up"), ("X-Storlet-Language", "Python"), ("X-Storlet-Range", text)])
      places, .empty, []⟩

theorem whole_range_agrees :
    RangeCopyAgrees (threeByteSource "bytes=0-9" (some 0, some 9))
        ⟨rangeCopyRequest "bytes=0-9" [], .empty, []⟩
        ⟨rangeCopyRequest "bytes=0-9" [("X-Storlet-Run-On-Proxy", "")], .empty, []⟩ .empty
        (rangeCopyRequest "bytes=0-9" [])
        (rangeCopyRequest "bytes=0-9" [("X-Storlet-Run-On-Proxy", "")])
        ("c", "o") (some 0, some 9) ↔
      (Swift.oneRange "bytes=0-9" (some 0, some 9)).ranges
        (rangeCopyRequest "bytes=0-9" []).headers = none ∧ 0 = 0 ∧ 3 ≤ 9 + 1 :=
  range_copy_agrees_iff (oneRange_keeps _ _) (threeByteSource "bytes=0-9" (some 0, some 9)) {} {}
    _ _ .empty _ _ _ "bytes=0-9" 0 9 rfl (by change 0 ≤ 9 ∧ 0 < 3; decide)
    ⟨by decide, by decide, by decide⟩ ⟨by decide, by decide, by decide⟩ (by decide)
    ⟨by decide, by decide, by decide, by decide⟩ ⟨by decide, by decide⟩

/-- On the proxy the storlet reads all of the object, whatever the range. -/
theorem range_lost_on_proxy : ¬ ∀ (swift : Swift), swift.KeepsStorletHeaders →
    ∀ (source : PlainSource swift) (conf conf' : HandlerConf) (handler handler' : ProxyHandler)
      (params : Dict Text) (req req' : Request) (path : Text × Text) (header : Text)
      (first last : Nat), swift.range header = some [(some first, some last)] →
    Satisfiable source.content.length (some first, some last) → RangeCopy header req →
    RangeCopy header req' → req'.headers.get? "Range" = req.headers.get? "Range" →
    RunsOnNode conf source handler params req path → RunsOnProxy conf' source handler' req' path →
    RangeCopyAgrees source handler handler' params req req' path (some first, some last) := by
  intro always
  have reads := (always (.oneRange "bytes=0-0" (some 0, some 0)) (oneRange_keeps _ _)
    (threeByteSource "bytes=0-0" (some 0, some 0)) {} {}
    ⟨rangeCopyRequest "bytes=0-0" [], .empty, []⟩
    ⟨rangeCopyRequest "bytes=0-0" [("X-Storlet-Run-On-Proxy", "")], .empty, []⟩ .empty
    (rangeCopyRequest "bytes=0-0" []) (rangeCopyRequest "bytes=0-0" [("X-Storlet-Run-On-Proxy", "")])
    ("c", "o") "bytes=0-0" 0 0 rfl (by change 0 ≤ 0 ∧ 0 < 3; decide)
    ⟨by decide, by decide, by decide⟩ ⟨by decide, by decide, by decide⟩ (by decide)
    ⟨by decide, by decide, by decide, by decide⟩ ⟨by decide, by decide⟩).2
  revert reads
  decide

end Storlets
