import Storlets.Middleware.ExactlyOnce

set_option autoImplicit false

/-!
# A storlet that echoes its metadata

The prefix is taken off on the way to the storlet and put back on the way out, where one name
stands for the content type.
-/

namespace Storlets

open PyStr Traced

/-- A header of the object's metadata that a storlet is given. -/
def IsUserMetadata (name : Text) : Prop :=
  "X-Object-Meta-".toList <+: title name ∧ ¬ "X-Object-Meta-Storlet-".toList <+: title name

/-- The header a key of a storlet's metadata is set as. -/
def placed (key : Text) : Text :=
  if lower key = "content-type" then key else "X-Object-Meta-".toList ++ key

theorem setMetadataInHeaders_eq (headers : Headers) (metadata : Dict Text) :
    setMetadataInHeaders headers metadata =
      metadata.items.foldl (fun headers (key, value) => headers.set (placed key) value) headers := by
  unfold setMetadataInHeaders placed
  congr 1
  funext headers item
  dsimp only
  split <;> rfl

/-! ## The way in -/

/-- The metadata headers, without their prefix. -/
def userHeader (key : Text) : Prop :=
  startsWith key "X-Object-Meta-Storlet-" = false ∧ startsWith key "X-Object-Meta-" = true

instance (key : Text) : Decidable (userHeader key) := by unfold userHeader; infer_instance

theorem getUserMetadata_eq (headers : Headers) : getUserMetadata headers =
    headers.items.foldl (fun metadata (key, value) =>
      if userHeader key then metadata.set (key.drop "X-Object-Meta-".length) value else metadata)
      .empty := by
  unfold getUserMetadata
  congr 1
  funext metadata item
  dsimp only
  -- the headers of storlets themselves are left out first
  by_cases foreign : startsWith item.1 "X-Object-Meta-Storlet-" = true
  · have other : ¬ userHeader item.1 := fun both => Bool.noConfusion (foreign.symm.trans both.1)
    rw [if_pos foreign, if_neg other]
  · rw [if_neg foreign]
    by_cases starts : startsWith item.1 "X-Object-Meta-" = true
    · have gives : userHeader item.1 := ⟨Bool.eq_false_iff.mpr foreign, starts⟩
      rw [if_pos starts, if_pos gives]
    · have other : ¬ userHeader item.1 := fun both => starts both.2
      rw [if_neg starts, if_neg other]

theorem userHeader_iff (key : Text) : userHeader key ↔ ∃ short, key = "X-Object-Meta-".toList ++ short ∧
    ¬ "Storlet-".toList <+: short := by
  unfold userHeader startsWith
  rw [Bool.eq_false_iff, ne_eq, List.isPrefixOf_iff_prefix, List.isPrefixOf_iff_prefix]
  have whole : "X-Object-Meta-Storlet-".toList = "X-Object-Meta-".toList ++ "Storlet-".toList := by
    decide
  rw [whole]
  constructor
  · rintro ⟨foreign, short, rfl⟩
    exact ⟨short, rfl, fun inside => foreign ((List.prefix_append_right_inj _).mpr inside)⟩
  · rintro ⟨short, rfl, foreign⟩
    exact ⟨fun inside => foreign ((List.prefix_append_right_inj _).mp inside),
      List.prefix_append _ _⟩

theorem title_meta (key : Text) :
    title ("X-Object-Meta-".toList ++ key) = "X-Object-Meta-".toList ++ title key :=
  title_prefixed key (by decide)

/-- What a storlet is given under a key is what the object has under the prefixed one. -/
theorem getUserMetadata_get? (headers : Headers) {key : Text} (titled : title key = key)
    (own : ¬ "Storlet-".toList <+: key) :
    (getUserMetadata headers).get? key = headers.get? ("X-Object-Meta-".toList ++ key) := by
  have kept : userHeader ("X-Object-Meta-".toList ++ key) := (userHeader_iff _).mpr ⟨key, rfl, own⟩
  have only (name : Text) (there : name ∈ headers.items.map Prod.fst) (gives : userHeader name) :
      name.drop "X-Object-Meta-".length = key ↔ name = "X-Object-Meta-".toList ++ key := by
    obtain ⟨short, rfl, _⟩ := (userHeader_iff name).mp gives
    change short = key ↔ _
    rw [List.append_cancel_left_eq]
  rw [getUserMetadata_eq, PyDict.get?_foldl_rename userHeader _ _ _ kept _ only
    headers.entries.distinct]
  unfold Headers.get?
  rw [title_meta, titled, PyDict.get?_empty, Option.or_none]
  rfl

/-- Only such keys are given. -/
theorem mem_keys_getUserMetadata {headers : Headers} {key : Text}
    (inside : key ∈ (getUserMetadata headers).keys) :
    title key = key ∧ ¬ "Storlet-".toList <+: key := by
  rw [getUserMetadata_eq] at inside
  rcases PyDict.mem_keys_foldl_rename _ _ _ _ inside with none | ⟨name, there, gives, same⟩
  · cases none
  · obtain ⟨short, made, own⟩ := (userHeader_iff name).mp gives
    have titled := headers.titled name there
    rw [made, title_meta, List.append_cancel_left_eq] at titled
    rw [made] at same
    change key = short at same
    rw [same]
    exact ⟨titled, own⟩

/-! ## The way out -/

theorem setMetadata_entries (headers : Headers) (metadata : Dict Text) :
    (setMetadataInHeaders headers metadata).entries =
      metadata.items.foldl (fun dict (key, value) =>
        if True then dict.set (title (placed key)) value else dict) headers.entries := by
  rw [setMetadataInHeaders_eq]
  -- one header for each entry, in their order
  induction metadata.items generalizing headers with
  | nil => rfl
  | cons item rest ih => exact ih _

theorem placed_type : placed "Content-Type" = "Content-Type".toList := by decide

theorem placed_other {key : Text} (titled : title key = key) (differs : key ≠ "Content-Type") :
    placed key = "X-Object-Meta-".toList ++ key := by
  unfold placed
  rw [if_neg]
  intro same
  have typed := congrArg title same
  rw [title_lower, titled] at typed
  exact differs (typed.trans (by decide))

theorem setMetadata_renamed {metadata : Dict Text}
    (titled : ∀ key ∈ metadata.keys, title key = key) {name source : Text}
    (only : ∀ key, title key = key → (title (placed key) = title name ↔ key = source))
    (headers : Headers) : (setMetadataInHeaders headers metadata).get? name =
      (metadata.get? source).or (headers.get? name) := by
  unfold Headers.get?
  rw [setMetadata_entries]
  exact PyDict.get?_foldl_rename (fun _ => True) (fun key => title (placed key)) source
    (title name) trivial metadata.items (fun key there _ => only key (titled key there))
    metadata.distinct headers.entries

theorem title_placed {key : Text} (titled : title key = key) :
    title (placed key) = if key = "Content-Type" then "Content-Type".toList
      else "X-Object-Meta-".toList ++ key := by
  by_cases typed : key = "Content-Type"
  · rw [if_pos typed, typed, placed_type]
    decide
  · rw [if_neg typed, placed_other titled typed, title_meta, titled]

theorem title_placed_type {key : Text} (titled : title key = key) :
    title (placed key) = title "Content-Type" ↔ key = "Content-Type" := by
  rw [title_placed titled]
  split
  · next typed => exact iff_of_true (by decide) typed
  · next typed =>
    refine iff_of_false ?_ typed
    intro same
    have front : "X-Object-Meta-".toList <+: title "Content-Type" := ⟨key, same⟩
    revert front
    decide

theorem title_placed_meta {key short : Text} (titled : title key = key)
    (differs : short ≠ "Content-Type") :
    title (placed key) = "X-Object-Meta-".toList ++ short ↔ key = short := by
  rw [title_placed titled]
  split
  · next typed =>
    refine iff_of_false ?_ (fun same => differs (same ▸ typed))
    intro same
    have front : "X-Object-Meta-".toList <+: "Content-Type".toList := ⟨short, same.symm⟩
    revert front
    decide
  · rw [List.append_cancel_left_eq]

/-- What the storlet was given, in any order. -/
def Echoes (metadata : Dict Text) (headers : Headers) : Prop :=
  ∀ key, metadata.get? key = (getUserMetadata headers).get? key

variable {metadata : Dict Text} {headers : Headers}

theorem Echoes.key (echoes : Echoes metadata headers) {key : Text} (inside : key ∈ metadata.keys) :
    title key = key ∧ ¬ "Storlet-".toList <+: key := by
  apply mem_keys_getUserMetadata
  rw [← PyDict.get?_isSome, ← echoes key]
  exact (PyDict.get?_isSome _ _).mpr inside

theorem Echoes.type (echoes : Echoes metadata headers) (base : Headers) :
    (setMetadataInHeaders base metadata).get? "Content-Type" =
      (headers.get? "X-Object-Meta-Content-Type").or (base.get? "Content-Type") := by
  rw [setMetadata_renamed (fun key inside => (echoes.key inside).1)
    (fun key titled => title_placed_type titled), echoes, getUserMetadata_get? headers (by decide)
    (by decide)]
  rfl

theorem Echoes.userMetadata (echoes : Echoes metadata headers) {name : Text}
    (own : IsUserMetadata name) {base : Headers} (same : base.get? name = headers.get? name) :
    (setMetadataInHeaders base metadata).get? name = headers.get? name := by
  obtain ⟨⟨short, named⟩, foreign⟩ := own
  have titled : title short = short := by
    have twice := title_title name
    rw [← named, title_meta, List.append_cancel_left_eq] at twice
    exact twice
  have own : ¬ "Storlet-".toList <+: short := by
    intro inside
    have longer : "X-Object-Meta-".toList ++ "Storlet-".toList <+: title name := by
      rw [← named]
      exact (List.prefix_append_right_inj _).mpr inside
    exact foreign longer
  -- a key that is set as the content type, or with the prefix
  by_cases typed : short = "Content-Type"
  · -- nothing is set under this name: no key is called `content-type`
    have only (key : Text) (titled : title key = key) :
        title (placed key) = title name ↔ key = "content-type" := by
      apply iff_of_false
      · rw [title_placed titled, ← named, typed]
        split
        · decide
        · next other =>
          rw [List.append_cancel_left_eq]
          exact other
      · intro same
        rw [same] at titled
        revert titled
        decide
    have absent : metadata.get? "content-type" = none := by
      rw [← Option.not_isSome_iff_eq_none, PyDict.get?_isSome]
      intro inside
      have titled := (echoes.key inside).1
      revert titled
      decide
    rw [setMetadata_renamed (fun key inside => (echoes.key inside).1) only, absent,
      Option.none_or, same]
  · have only (key : Text) (titled : title key = key) :
        title (placed key) = title name ↔ key = short := by
      rw [← named]
      exact title_placed_meta titled typed
    have prefixed : headers.get? ("X-Object-Meta-".toList ++ short) = headers.get? name := by
      unfold Headers.get?
      rw [title_meta, titled, named]
    rw [setMetadata_renamed (fun key inside => (echoes.key inside).1) only, echoes,
      getUserMetadata_get? headers titled own, prefixed, same, Option.or_self]

/-! ## The response -/

/-- The headers that are removed or renamed are none of these. -/
theorem appliedHeaders_eq (headers : Headers) (metadata : Dict Text) :
    ∃ base, appliedHeaders headers metadata = setMetadataInHeaders base metadata ∧
      ∀ name, title name = "Content-Type" ∨ "X-Object-Meta-".toList <+: title name →
        base.get? name = headers.get? name := by
  have differs (name other : Text) (notType : title other ≠ "Content-Type")
      (notMeta : ¬ "X-Object-Meta-".toList <+: title other)
      (kept : title name = "Content-Type" ∨ "X-Object-Meta-".toList <+: title name) :
      title name ≠ title other := by
    intro same
    rw [same] at kept
    exact kept.elim notType notMeta
  unfold appliedHeaders
  refine ⟨_, rfl, fun name kept => ?_⟩
  have length := differs name "Content-Length" (by decide) (by decide) kept
  have encoding := differs name "Transfer-Encoding" (by decide) (by decide) kept
  have range := differs name "Content-Range" (by decide) (by decide) kept
  have input := differs name "Storlet-Input-Range" (by decide) (by decide) kept
  split
  · rw [Headers.get?_pop, if_neg range, Headers.get?_set, if_neg input, Headers.get?_pop,
      if_neg encoding, Headers.get?_pop, if_neg length]
  · rw [Headers.get?_pop, if_neg encoding, Headers.get?_pop, if_neg length]

/-- The response to an echo: the metadata is as it was, and the content type too, unless the
object has metadata of that name. -/
theorem echo_keeps_metadata (site : Site) (callGateway : Response → Handler StorletResponse)
    (resp : Response) (sresp : StorletResponse)
    (returned : (callGateway resp).result = .ok sresp)
    (echoes : Echoes sresp.userMetadata resp.headers) :
    ∃ out, (applyStorlet site callGateway resp).result = .ok out ∧
      (∀ name, IsUserMetadata name → out.headers.get? name = resp.headers.get? name) ∧
      out.headers.get? "Content-Type" =
        (resp.headers.get? "X-Object-Meta-Content-Type").or
          (resp.headers.get? "Content-Type") := by
  obtain ⟨base, applied, kept⟩ := appliedHeaders_eq resp.headers sresp.userMetadata
  refine ⟨⟨200, appliedHeaders resp.headers sresp.userMetadata,
    { origin := .storlet, content := sresp.content }⟩, ?_, ?_, ?_⟩
  · simp only [applyStorlet, emit_bind, result_catching]
    rw [bind_of_ok returned]
    rfl
  · intro name own
    dsimp only
    rw [applied, echoes.userMetadata own (kept name (.inr own.1))]
  · dsimp only
    rw [applied, echoes.type, kept "Content-Type" (.inl (by decide))]

/-- An object with a content type and metadata of that name. -/
def typedHeaders : Headers := Headers.ofList [("Content-Type".toList, "text/plain".toList),
  ("x-object-meta-content-type".toList, "text/x-other".toList),
  ("x-object-meta-colour".toList, "red".toList)]

/-- A storlet that returns the metadata it was given. -/
def identity (resp : Response) : Handler StorletResponse :=
  pure ⟨getUserMetadata resp.headers, resp.body.content⟩

def typedResponse : Response := ⟨200, typedHeaders, { origin := .object, content := [] }⟩

theorem typed_object_echoed : ∃ out,
    (applyStorlet .object identity typedResponse).result = .ok out ∧
      (∀ name, IsUserMetadata name → out.headers.get? name = typedHeaders.get? name) ∧
      out.headers.get? "Content-Type" =
        (typedHeaders.get? "X-Object-Meta-Content-Type").or (typedHeaders.get? "Content-Type") :=
  echo_keeps_metadata .object identity typedResponse
    ⟨getUserMetadata typedHeaders, []⟩ rfl (fun _ => rfl)

theorem content_type_replaced : Echoes (getUserMetadata typedHeaders) typedHeaders ∧
    ∃ out, (applyStorlet .object identity typedResponse).result = .ok out ∧
      out.headers.get? "Content-Type" ≠ typedHeaders.get? "Content-Type" := by
  refine ⟨fun _ => rfl, _, rfl, ?_⟩
  decide

end Storlets
