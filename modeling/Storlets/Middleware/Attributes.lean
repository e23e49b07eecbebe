import Storlets.Middleware.Proxy

set_option autoImplicit false

/-!
# The attributes of a storlet and the headers of a client

Both travel as `X-Storlet-…` headers of the request. The proxy writes the attributes the storlet
object has over what the client sent; whatever is then left becomes an option of the run.
-/

namespace Storlets

open PyStr Traced

/-- What the options of a run take from the storlet object. -/
def storletAttributes : List Text :=
  ["Main", "Language", "Language-Version", "Dependency", "Content-Length", "X-Timestamp"]

/-- Those that are the metadata of the object. -/
def registeredAttributes : List Text := ["Main", "Language", "Language-Version", "Dependency"]

def attributeHeader (key : Text) : Text := "X-Storlet-".toList ++ key

def metadataHeader (key : Text) : Text := "X-Object-Meta-Storlet-".toList ++ key

def optionName (key : Text) : Text := "storlet_".toList ++ replace '-' '_' (lower key)

/-- The client's own headers, by which it says how the storlet is to run. -/
def isControlHeader (name : Text) : Bool :=
  name ∈ (["X-Storlet-Range", "X-Storlet-Run-On-Proxy", "X-Storlet-Extra-Resources",
    "X-Storlet-Generate-Log"] : List Text) || startsWith name "X-Storlet-Parameter-"

/-- No name of a WSGI request's headers has an underscore. -/
def Headers.Dashed (headers : Headers) : Prop := ∀ name ∈ headers.entries.keys, '_' ∉ name

/-- The parameters `verify_access_to_storlet` returns. -/
def storletParams (metadata : Headers) (contentLength timestamp : Text) : Dict Text :=
  ((ProxyHandler.parseStorletParams metadata).set "Content-Length" contentLength).set
    "X-Timestamp" timestamp

/-- The options with which a request runs the storlet. -/
def executedOptions (swift : Swift) (params : Dict Text) (req : Request) : Dict Text :=
  (getStorletInvocationOptions swift (ProxyHandler.augmentStorletRequest req params)).storlet

/-- The requests differ at most in headers that are named like attributes. -/
def DifferInAttributes (first second : Request) : Prop :=
  second = { first with headers := second.headers } ∧
    ∀ name, title name ∉ storletAttributes.map attributeHeader →
      second.headers.get? name = first.headers.get? name

/-- The client has no say in the attributes, and the storlet none in the control headers. -/
structure Isolated (swift : Swift) (params : Dict Text) : Prop where
  attributes : ∀ first second : Request, first.headers.Dashed → second.headers.Dashed →
    DifferInAttributes first second → ∀ key ∈ storletAttributes,
      (executedOptions swift params second).get? (optionName key) =
        (executedOptions swift params first).get? (optionName key)
  control : ∀ req : Request, req.headers.Dashed → ∀ name, isControlHeader (title name) →
    (ProxyHandler.augmentStorletRequest req params).headers.get? name = req.headers.get? name

/-! ## Names -/

theorem title_attributeHeader (key : Text) :
    title (attributeHeader key) = attributeHeader (title key) := by
  have ends : endsInWord false "X-Storlet-".toList = false := by decide
  have fixed : title "X-Storlet-".toList = "X-Storlet-".toList := by decide
  have whole := title_prefixed key ends
  rwa [fixed] at whole

theorem title_metadataHeader (key : Text) :
    title (metadataHeader key) = metadataHeader (title key) := by
  have ends : endsInWord false "X-Object-Meta-Storlet-".toList = false := by decide
  have fixed : title "X-Object-Meta-Storlet-".toList = "X-Object-Meta-Storlet-".toList := by decide
  have whole := title_prefixed key ends
  rwa [fixed] at whole

theorem attributeHeader_inj {first second : Text} :
    attributeHeader first = attributeHeader second ↔ first = second :=
  List.append_right_inj _

theorem metadataHeader_inj {first second : Text} :
    metadataHeader first = metadataHeader second ↔ first = second :=
  List.append_right_inj _

theorem optionName_inj {first second : Text} (titled : title first = first)
    (titled' : title second = second) (clean : '_' ∉ first) (clean' : '_' ∉ second)
    (same : optionName first = optionName second) : first = second := by
  have lowered := replace_inj (fun inside => clean (underscore_of_lower inside))
    (fun inside => clean' (underscore_of_lower inside)) (List.append_cancel_left same)
  have cased := congrArg title lowered
  rwa [title_lower, title_lower, titled, titled'] at cased

theorem starts_attributeHeader (key : Text) : startsWith (attributeHeader key) "X-Storlet-" :=
  List.isPrefixOf_iff_prefix.mpr (List.prefix_append _ _)

theorem starts_metadataHeader (key : Text) :
    startsWith (metadataHeader key) "X-Object-Meta-Storlet-" :=
  List.isPrefixOf_iff_prefix.mpr (List.prefix_append _ _)

theorem exists_attribute {name : Text} (titled : title name = name)
    (starts : startsWith name "X-Storlet-") : ∃ key, name = attributeHeader key ∧ title key = key := by
  obtain ⟨key, same⟩ := List.isPrefixOf_iff_prefix.mp starts
  have shape : name = attributeHeader key := same.symm
  rw [shape, title_attributeHeader, attributeHeader_inj] at titled
  exact ⟨key, shape, titled⟩

theorem exists_metadata {name : Text} (titled : title name = name)
    (starts : startsWith name "X-Object-Meta-Storlet-") :
    ∃ key, name = metadataHeader key ∧ title key = key := by
  obtain ⟨key, same⟩ := List.isPrefixOf_iff_prefix.mp starts
  have shape : name = metadataHeader key := same.symm
  rw [shape, title_metadataHeader, metadataHeader_inj] at titled
  exact ⟨key, shape, titled⟩

theorem drop_attributeHeader (key : Text) :
    (attributeHeader key).drop "X-Storlet-".length = key := List.drop_left' (by decide)

theorem drop_metadataHeader (key : Text) :
    (metadataHeader key).drop "X-Object-Meta-Storlet-".length = key := List.drop_left' (by decide)

theorem title_attribute : ∀ key ∈ storletAttributes, title key = key := by decide

theorem clean_attribute : ∀ key ∈ storletAttributes, '_' ∉ key := by decide

theorem attribute_cases : ∀ key ∈ storletAttributes,
    key = "X-Timestamp".toList ∨ key = "Content-Length".toList ∨ key ∈ registeredAttributes := by
  decide

theorem registered_attribute : ∀ key ∈ registeredAttributes,
    key ∈ storletAttributes ∧ key ≠ "X-Timestamp".toList ∧ key ≠ "Content-Length".toList := by
  decide

theorem attributeHeader_clean {key : Text} (clean : '_' ∉ key) : '_' ∉ attributeHeader key :=
  fun bad => (List.mem_append.mp bad).elim (by decide) clean

theorem exists_control {name : Text} (titled : title name = name) (control : isControlHeader name) :
    ∃ key, name = attributeHeader key ∧ title key = key := by
  refine exists_attribute titled ?_
  simp only [isControlHeader, Bool.or_eq_true, decide_eq_true_eq] at control
  rcases control with listed | parameter
  · clear titled
    revert name
    decide
  · rw [startsWith, List.isPrefixOf_iff_prefix] at parameter ⊢
    exact List.IsPrefix.trans ⟨"Parameter-".toList, by decide⟩ parameter

/-! ## What the options and the parameters are -/

/-- Apart from two headers, an option is the header it is named after. -/
theorem option_get? (swift : Swift) {req : Request} (dashed : req.headers.Dashed) {key : Text}
    (titled : title key = key) (clean : '_' ∉ key)
    (passed : attributeHeader key ∉ ["X-Storlet-Range".toList, "X-Storlet-Generate-Log".toList]) :
    (getStorletInvocationOptions swift req).storlet.get? (optionName key) =
      req.headers.get? (attributeHeader key) := by
  have found := PyDict.get?_foldl_rename (V := Text)
    (fun name : Text => startsWith name "X-Storlet-" ∧
      name ∉ ["X-Storlet-Range".toList, "X-Storlet-Generate-Log".toList])
    (fun name => optionName (name.drop "X-Storlet-".length)) (attributeHeader key)
    (optionName key) ⟨starts_attributeHeader key, passed⟩
    req.headers.entries.items (fun name inside keeps => ?_) req.headers.entries.distinct .empty
  · rw [PyDict.get?_empty, Option.or_none] at found
    rw [Headers.get?, title_attributeHeader, titled]
    exact found
  · obtain ⟨other, rfl, titled'⟩ := exists_attribute (req.headers.titled name inside) keeps.1
    have clean' : '_' ∉ other := fun bad => dashed _ inside (List.mem_append_right _ bad)
    rw [drop_attributeHeader, attributeHeader_inj]
    constructor
    · exact optionName_inj titled' titled clean' clean
    · rintro rfl
      rfl

theorem parseStorletParams_get? (headers : Headers) {key : Text} (titled : title key = key) :
    (ProxyHandler.parseStorletParams headers).get? key = headers.get? (metadataHeader key) := by
  have found := PyDict.get?_foldl_rename (V := Text)
    (fun name : Text => startsWith name "X-Object-Meta-Storlet-" = true)
    (fun name => name.drop "X-Object-Meta-Storlet-".length) (metadataHeader key)
    key (starts_metadataHeader key)
    headers.entries.items (fun name inside keeps => ?_) headers.entries.distinct .empty
  · rw [PyDict.get?_empty, Option.or_none] at found
    rw [Headers.get?, title_metadataHeader, titled]
    exact found
  · obtain ⟨other, rfl, -⟩ := exists_metadata (headers.titled name inside) keeps
    rw [drop_metadataHeader, metadataHeader_inj]

theorem parseStorletParams_keys {headers : Headers} {key : Text}
    (inside : key ∈ (ProxyHandler.parseStorletParams headers).keys) :
    title key = key ∧ metadataHeader key ∈ headers.entries.keys := by
  have origin := PyDict.mem_keys_foldl_rename (V := Text)
    (fun name : Text => startsWith name "X-Object-Meta-Storlet-" = true)
    (fun name => name.drop "X-Object-Meta-Storlet-".length) headers.entries.items .empty inside
  rcases origin with nothing | ⟨name, listed, starts, rfl⟩
  · cases nothing
  · obtain ⟨key, rfl, titled⟩ := exists_metadata (headers.titled name listed) starts
    rw [drop_metadataHeader]
    exact ⟨titled, listed⟩

section Augmented

variable {metadata : Headers} {contentLength timestamp : Text}

theorem storletParams_keys (dashed : metadata.Dashed) {key : Text}
    (inside : key ∈ (storletParams metadata contentLength timestamp).keys) :
    title key = key ∧ '_' ∉ key := by
  rw [storletParams, PyDict.mem_keys_set, PyDict.mem_keys_set] at inside
  rcases inside with rfl | rfl | there
  · decide
  · decide
  · obtain ⟨titled, listed⟩ := parseStorletParams_keys there
    exact ⟨titled, fun bad => dashed _ listed (List.mem_append_right _ bad)⟩

theorem storletParams_get? {key : Text} (titled : title key = key) :
    (storletParams metadata contentLength timestamp).get? key =
      if key = "X-Timestamp".toList then some timestamp
      else if key = "Content-Length".toList then some contentLength
      else metadata.get? (metadataHeader key) := by
  rw [storletParams, PyDict.get?_set, PyDict.get?_set, parseStorletParams_get? _ titled]

theorem update_entries (headers : Headers) (pairs : List (Text × Text)) :
    (headers.update pairs).entries =
      pairs.foldl (fun dict pair => dict.set (title pair.1) pair.2) headers.entries := by
  induction pairs generalizing headers with
  | nil => rfl
  | cons pair rest ih => exact ih (headers.set pair.1 pair.2)

theorem augment_entries (req : Request) (params : Dict Text) :
    (ProxyHandler.augmentStorletRequest req params).headers.entries =
      params.items.foldl (fun dict (key, value) =>
        if True then dict.set (title (attributeHeader key)) value else dict)
        req.headers.entries := by
  show (req.headers.update _).entries = _
  rw [update_entries, List.foldl_map]
  rfl

/-- What the storlet object defines is written over what the client sent. -/
theorem augment_attribute {params : Dict Text} (titles : ∀ key ∈ params.keys, title key = key)
    (req : Request) {key : Text} (titled : title key = key) :
    (ProxyHandler.augmentStorletRequest req params).headers.get? (attributeHeader key) =
      (params.get? key).or (req.headers.get? (attributeHeader key)) := by
  rw [Headers.get?, augment_entries, title_attributeHeader, titled]
  have found := PyDict.get?_foldl_rename (fun _ : Text => True)
    (fun key => title (attributeHeader key)) key (attributeHeader key)
    trivial params.items (fun other inside _ => ?_) params.distinct req.headers.entries
  · rw [Headers.get?, title_attributeHeader, titled]
    exact found
  · rw [title_attributeHeader, titles other inside, attributeHeader_inj]

theorem augment_dashed {params : Dict Text} (clean : ∀ key ∈ params.keys, '_' ∉ key)
    {req : Request} (dashed : req.headers.Dashed) :
    (ProxyHandler.augmentStorletRequest req params).headers.Dashed := by
  intro name inside
  rw [augment_entries] at inside
  have origin := PyDict.mem_keys_foldl_rename (fun _ : Text => True)
    (fun key => title (attributeHeader key)) params.items req.headers.entries inside
  rcases origin with old | ⟨key, listed, -, rfl⟩
  · exact dashed name old
  · exact fun bad => attributeHeader_clean (clean key listed) (underscore_of_titleFrom bad)

/-- An attribute is what the storlet object has, else what the client sent. -/
theorem executed_attribute (swift : Swift) (dashed : metadata.Dashed) {req : Request}
    (reqDashed : req.headers.Dashed) {key : Text} (listed : key ∈ storletAttributes) :
    (executedOptions swift (storletParams metadata contentLength timestamp) req).get?
        (optionName key) =
      ((storletParams metadata contentLength timestamp).get? key).or
        (req.headers.get? (attributeHeader key)) := by
  have titled := title_attribute key listed
  have clean := clean_attribute key listed
  have passed :
      attributeHeader key ∉ ["X-Storlet-Range".toList, "X-Storlet-Generate-Log".toList] := by
    revert key
    decide
  have keys : ∀ other ∈ (storletParams metadata contentLength timestamp).keys,
      title other = other ∧ '_' ∉ other := fun other inside => storletParams_keys dashed inside
  rw [executedOptions, option_get? swift (augment_dashed (fun other inside => (keys other inside).2)
    reqDashed) titled clean passed]
  exact augment_attribute (fun other inside => (keys other inside).1) req titled

end Augmented

/-- Access to a storlet is verified with parameters of this kind. -/
theorem verifyAccess_params {swift : Swift} {conf : HandlerConf} {app : App} {req : Request}
    {params : Dict Text}
    (verified : (ProxyHandler.verifyAccessToStorlet swift conf app req).result = .ok params) :
    ∃ metadata contentLength timestamp, params = storletParams metadata contentLength timestamp := by
  unfold ProxyHandler.verifyAccessToStorlet at verified
  obtain ⟨resp, -, answered, -⟩ := result_bind_eq_ok verified
  split at answered
  · obtain ⟨contentLength, -, hasLength, -⟩ := result_bind_eq_ok answered
    obtain ⟨timestamp, -, hasTime, -⟩ := result_bind_eq_ok hasLength
    exact ⟨resp.headers, contentLength, timestamp, (Except.ok.inj hasTime).symm⟩
  · cases answered

/-! ## When the two do not interfere -/

/-- The storlet object says all that its registration can say. -/
def DefinesAttributes (metadata : Headers) : Prop :=
  ∀ key ∈ registeredAttributes, metadata.contains (metadataHeader key)

/-- No metadata of the storlet object is named like a control header. -/
def LeavesControl (metadata : Headers) : Prop :=
  ∀ key, isControlHeader (attributeHeader (title key)) →
    metadata.contains (metadataHeader key) = false

section Interference

variable {metadata : Headers} (contentLength timestamp : Text)

theorem attribute_defined (defined : DefinesAttributes metadata) {key : Text}
    (listed : key ∈ storletAttributes) :
    ((storletParams metadata contentLength timestamp).get? key).isSome := by
  rw [storletParams_get? (title_attribute key listed)]
  split
  · rfl
  · split
    · rfl
    · next noTime noLength =>
      exact defined key ((attribute_cases key listed).resolve_left noTime |>.resolve_left noLength)

theorem control_left (leaves : LeavesControl metadata) {key : Text} (titled : title key = key)
    (control : isControlHeader (attributeHeader key)) :
    (storletParams metadata contentLength timestamp).get? key = none := by
  rw [storletParams_get? titled]
  split
  · next same =>
    rw [same] at control
    exact absurd control (by decide)
  · split
    · next same =>
      rw [same] at control
      exact absurd control (by decide)
    · have absent := leaves key (by rwa [titled])
      simpa [Headers.contains] using absent

end Interference

/-- A GET of an object with these headers. -/
def getWith (headers : Headers) : Request :=
  ⟨"GET", "v1", "AUTH_test", "data", "obj", headers, .empty, []⟩

theorem set_dashed {headers : Headers} {name value : Text} (dashed : headers.Dashed)
    (clean : '_' ∉ name) : (headers.set name value).Dashed := by
  intro other inside
  rcases (PyDict.mem_keys_set _ _ _ _).mp inside with rfl | old
  · exact fun bad => clean (underscore_of_titleFrom bad)
  · exact dashed other old

theorem empty_dashed : Headers.empty.Dashed := fun _ inside => nomatch inside

theorem differ_of_set {headers : Headers} {key value : Text} (listed : key ∈ storletAttributes) :
    DifferInAttributes (getWith headers) (getWith (headers.set (attributeHeader key) value)) := by
  refine ⟨rfl, fun name other => ?_⟩
  have titled : title (attributeHeader key) = attributeHeader key := by
    rw [title_attributeHeader, title_attribute key listed]
  refine (Headers.get?_set _ _ _ _).trans (if_neg fun same => other ?_)
  rw [same, titled]
  exact List.mem_map_of_mem listed

/-- An attribute the storlet object does not have is the client's to set. -/
theorem defines_of_isolated {swift : Swift} {metadata : Headers} {contentLength timestamp : Text}
    (dashed : metadata.Dashed)
    (isolated : Isolated swift (storletParams metadata contentLength timestamp)) :
    DefinesAttributes metadata := by
  intro key registered
  by_contra missing
  obtain ⟨listed, noTime, noLength⟩ := registered_attribute key registered
  have absent : (storletParams metadata contentLength timestamp).get? key = none := by
    rw [storletParams_get? (title_attribute key listed), if_neg noTime, if_neg noLength]
    simpa [Headers.contains] using missing
  have sentDashed : (Headers.empty.set (attributeHeader key) []).Dashed :=
    set_dashed empty_dashed (attributeHeader_clean (clean_attribute key listed))
  have same := isolated.attributes (getWith .empty) _ empty_dashed sentDashed
    (differ_of_set listed) key listed
  rw [executed_attribute swift dashed sentDashed listed,
    executed_attribute swift dashed empty_dashed listed, absent] at same
  have sent : (getWith (Headers.empty.set (attributeHeader key) [])).headers.get?
      (attributeHeader key) = some [] := (Headers.get?_set _ _ _ _).trans (if_pos rfl)
  rw [sent] at same
  cases same

/-- Metadata that is named like a control header ends up in that header. -/
theorem leaves_of_isolated {swift : Swift} {metadata : Headers} {contentLength timestamp : Text}
    (dashed : metadata.Dashed)
    (isolated : Isolated swift (storletParams metadata contentLength timestamp)) :
    LeavesControl metadata := by
  intro key control
  have titled : title (title key) = title key := title_title key
  have kept := isolated.control (getWith .empty) empty_dashed (attributeHeader (title key))
    (by rwa [title_attributeHeader, titled])
  rw [augment_attribute (fun other inside => (storletParams_keys dashed inside).1) _ titled] at kept
  have absent : (storletParams metadata contentLength timestamp).get? (title key) = none := by
    cases found : (storletParams metadata contentLength timestamp).get? (title key) with
    | none => rfl
    | some value => rw [found] at kept; cases kept
  rw [storletParams_get? titled] at absent
  split at absent
  · cases absent
  · split at absent
    · cases absent
    · have same : metadata.get? (metadataHeader (title key)) = metadata.get? (metadataHeader key) := by
        rw [Headers.get?, Headers.get?, title_metadataHeader, title_metadataHeader, titled]
      rw [Headers.contains, ← same, absent]
      rfl

/-- The attributes of a storlet and the headers of its clients keep apart exactly when the
storlet object has all the attributes and nothing named like a control header. -/
theorem isolated_iff (swift : Swift) (metadata : Headers) (dashed : metadata.Dashed)
    (contentLength timestamp : Text) :
    Isolated swift (storletParams metadata contentLength timestamp) ↔
      DefinesAttributes metadata ∧ LeavesControl metadata := by
  constructor
  · exact fun isolated => ⟨defines_of_isolated dashed isolated, leaves_of_isolated dashed isolated⟩
  · rintro ⟨defined, leaves⟩
    constructor
    · intro first second firstDashed secondDashed _ key listed
      rw [executed_attribute swift dashed secondDashed listed,
        executed_attribute swift dashed firstDashed listed]
      obtain ⟨value, found⟩ := Option.isSome_iff_exists.mp
        (attribute_defined contentLength timestamp defined listed)
      rw [found, Option.some_or, Option.some_or]
    · intro req reqDashed name control
      obtain ⟨key, shape, titled⟩ := exists_control (title_title name) control
      have apart := control_left contentLength timestamp leaves titled (shape ▸ control)
      have titles : ∀ other ∈ (storletParams metadata contentLength timestamp).keys,
          title other = other := fun other inside => (storletParams_keys dashed inside).1
      have kept := augment_attribute titles req titled
      rw [apart, Option.none_or] at kept
      simpa only [Headers.get?, shape, title_attributeHeader, titled] using kept

/-- A Python storlet with every attribute its registration asks for. -/
def plainMetadata : Headers :=
  .ofList [("X-Object-Meta-Storlet-Language", "Python"),
    ("X-Object-Meta-Storlet-Interface-Version", "1.0"),
    ("X-Object-Meta-Storlet-Object-Metadata", "no"), ("X-Object-Meta-Storlet-Main", "a.A")]

theorem isolated_iff_of_plain :
    Isolated .rangeless (storletParams plainMetadata "3" "1.5") ↔
      DefinesAttributes plainMetadata ∧ LeavesControl plainMetadata :=
  isolated_iff .rangeless plainMetadata (by unfold Headers.Dashed; decide) "3" "1.5"

/-- The client of a storlet that has no dependencies gives it one. -/
theorem client_sets_dependency : ¬ ∀ (swift : Swift) (metadata : Headers), metadata.Dashed →
    ∀ contentLength timestamp : Text,
      Isolated swift (storletParams metadata contentLength timestamp) := by
  intro always
  have isolated := always .rangeless plainMetadata (by unfold Headers.Dashed; decide) "3" "1.5"
  have same := isolated.attributes (getWith .empty)
    (getWith (Headers.empty.set (attributeHeader "Dependency") "other.jar")) empty_dashed
    (set_dashed empty_dashed (by decide)) (differ_of_set (by decide)) "Dependency" (by decide)
  revert same
  decide

end Storlets
