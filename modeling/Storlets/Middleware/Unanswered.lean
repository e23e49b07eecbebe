import Storlets.Middleware.FrontDoor

set_option autoImplicit false

/-!
# What the middleware leaves to others

The constructor of the handler may raise what the middleware makes no response of.
-/

namespace Storlets

open PyStr Traced

/-! ## The parameters in headers -/

theorem splitOnce_eq_none_iff (sep : Char) (s : Text) : splitOnce sep s = none ↔ sep ∉ s := by
  induction s with
  | nil => simp [splitOnce]
  | cons c rest ih =>
    unfold splitOnce
    by_cases same : c = sep
    · simp [same]
    · simp [same, ih, Ne.symm same]

/-- A parameter without a value. -/
def Valueless (item : Text × Text) : Prop :=
  startsWith (lower item.1) "x-storlet-parameter" = true ∧ ':' ∉ unquote item.2

theorem updateStorletParameters_error_iff (req : Request) :
    (∃ exception, updateStorletParametersFromHeaders req = .error exception) ↔
      ∃ item ∈ req.headers.items, Valueless item := by
  unfold updateStorletParametersFromHeaders
  generalize req.headers.items = items
  generalize req.query = params
  induction items generalizing params with
  | nil =>
    refine iff_of_false ?_ ?_
    · rintro ⟨_, ends⟩
      cases ends
    · rintro ⟨_, inside, _⟩
      cases inside
  | cons item rest ih =>
    rw [List.foldlM_cons]
    dsimp only
    by_cases named : startsWith (lower item.1) "x-storlet-parameter" = true
    · rw [if_pos named]
      cases read : splitOnce ':' (unquote item.2) with
      | none =>
        have absent := (splitOnce_eq_none_iff _ _).mp read
        exact iff_of_true ⟨_, rfl⟩ ⟨item, List.mem_cons_self, named, absent⟩
      | some pair =>
        have there : ¬ Valueless item := by
          rintro ⟨_, absent⟩
          rw [(splitOnce_eq_none_iff _ _).mpr absent] at read
          cases read
        rw [List.exists_mem_cons_iff, or_iff_right there]
        exact ih _
    · rw [if_neg named, List.exists_mem_cons_iff, or_iff_right fun valueless => named valueless.1]
      exact ih _

/-! ## Registrations -/

/-- The parameters of a Python storlet for an infinite version of the language. -/
def InfiniteVersion (params : Dict Text) : Prop :=
  (∀ md ∈ ["Language".toList, "Interface-Version".toList, "Object-Metadata".toList, "Main".toList],
      (params.get? md).isSome) ∧
    lower ((params.get? "Language").getD []) = "python".toList ∧
    ∃ version negative, params.get? "Language-Version" = some version ∧
      float version = some (.infinity negative)

theorem checkMandatoryParams_cases (params : Dict Text) (mandatory : List Text) :
    (checkMandatoryParams params mandatory = .ok () ∧
        ∀ md ∈ mandatory, (params.get? md).isSome) ∨
      (∃ message, checkMandatoryParams params mandatory = .error (.valueError message)) ∧
        ¬ ∀ md ∈ mandatory, (params.get? md).isSome := by
  unfold checkMandatoryParams
  cases missing : mandatory.find? fun md => (params.get? md).isNone with
  | none =>
    refine .inl ⟨rfl, fun md inside => ?_⟩
    have there := List.find?_eq_none.mp missing md inside
    exact Option.isSome_iff_ne_none.mpr (by simpa using there)
  | some md =>
    refine .inr ⟨⟨_, rfl⟩, fun all => ?_⟩
    have absent := List.find?_some missing
    have there := all md (List.mem_of_find?_eq_some missing)
    rw [Option.isNone_iff_eq_none] at absent
    rw [absent] at there
    cases there

theorem checkPythonStorlet_overflow_iff (params : Dict Text) (main name : Text) :
    checkPythonStorlet params main name = .error .overflowError ↔
      ∃ version negative, params.get? "Language-Version" = some version ∧
        float version = some (.infinity negative) := by
  -- past the version nothing overflows
  have later (value : ℚ) : ¬ (do
      if ← isVersionThree (.finite value) then
        if endsWith name ".py" then
          if startsWith main (name.take (name.length - 3) ++ ['.']) then
            if (split '.' main).length = 2 then Except.ok ()
            else .error (.valueError "Submodule is currently not supported")
          else .error (.valueError "Main class should be included in storlet file")
        else .error (.valueError "Storlet name is incorrect")
      else .error (.valueError "Not supported version specified")) =
        .error RegistrationError.overflowError := by
    intro overflows
    change (if _ then _ else _) = _ at overflows
    split_ifs at overflows <;> cases overflows
  unfold checkPythonStorlet
  cases given : params.get? "Language-Version" with
  | none =>
    refine iff_of_false (later 3) ?_
    rintro ⟨_, _, given, _⟩
    cases given
  | some text =>
    dsimp only
    have only : (∃ version negative, some text = some version ∧
        float version = some (.infinity negative)) ↔
        ∃ negative, float text = some (.infinity negative) := by simp
    rw [only]
    cases read : float text with
    | none =>
      refine iff_of_false (fun overflows => by cases overflows) ?_
      rintro ⟨_, infinite⟩
      cases infinite
    | some version =>
      cases version with
      | finite value =>
        refine iff_of_false (later value) ?_
        rintro ⟨_, infinite⟩
        cases infinite
      | infinity negative => exact iff_of_true rfl ⟨negative, rfl⟩
      | nan =>
        refine iff_of_false (fun overflows => by cases overflows) ?_
        rintro ⟨_, infinite⟩
        cases infinite

theorem dependencies_overflow_iff (params : Dict Text) (name : Text)
    (checked : Except RegistrationError Unit) :
    (checked >>= fun _ => checkDependencies params name) = .error .overflowError ↔
      checked = .error .overflowError := by
  cases checked with
  | error exception => exact Iff.rfl
  | ok _ =>
    refine iff_of_false (fun overflows => ?_) (fun overflows => by cases overflows)
    change checkDependencies params name = _ at overflows
    unfold checkDependencies at overflows
    split at overflows
    · cases overflows
    · cases overflows
    · dsimp only at overflows
      split_ifs at overflows <;> cases overflows

theorem validateStorletRegistration_overflow_iff (params : Dict Text) (name : Text) :
    validateStorletRegistration params name = .error .overflowError ↔ InfiniteVersion params := by
  unfold validateStorletRegistration InfiniteVersion
  rcases checkMandatoryParams_cases params
    ["Language", "Interface-Version", "Object-Metadata", "Main"] with
    ⟨present, all⟩ | ⟨⟨message, missing⟩, lacks⟩
  · rw [present, and_iff_right all, ← checkPythonStorlet_overflow_iff params
      ((params.get? "Main").getD []) name]
    generalize lower ((params.get? "Language").getD []) = language
    change (if language = "java".toList then
        checkJavaStorlet name >>= fun _ => checkDependencies params name
      else if language = "python".toList then
        checkPythonStorlet params ((params.get? "Main").getD []) name >>=
          fun _ => checkDependencies params name
      else Except.error (.valueError "Unsupported Language") >>=
        fun _ => checkDependencies params name) = _ ↔ _
    by_cases java : language = "java".toList
    · rw [if_pos java, java, dependencies_overflow_iff]
      refine iff_of_false (fun overflows => ?_) (fun both => absurd both.1 (by decide))
      unfold checkJavaStorlet at overflows
      split_ifs at overflows
      cases overflows
    · rw [if_neg java]
      by_cases python : language = "python".toList
      · rw [if_pos python, and_iff_right python, dependencies_overflow_iff]
      · rw [if_neg python]
        exact iff_of_false (fun overflows => by cases overflows) fun both => python both.1
  · rw [missing]
    exact iff_of_false (fun overflows => by cases overflows) fun both => lacks both.1

theorem validateDependencyRegistration_ne_overflow (params : Dict Text) :
    validateDependencyRegistration params ≠ .error .overflowError := by
  intro overflows
  unfold validateDependencyRegistration at overflows
  rcases checkMandatoryParams_cases params ["Dependency-Version"] with
    ⟨present, _⟩ | ⟨⟨message, missing⟩, _⟩
  · rw [present] at overflows
    cases given : params.get? "Dependency-Permissions" with
    | none =>
      simp only [given] at overflows
      cases overflows
    | some perm =>
      cases read : intOf 8 perm with
      | none =>
        simp only [given, read] at overflows
        cases overflows
      | some bits =>
        simp only [given, read] at overflows
        change (if _ then _ else _) = _ at overflows
        split_ifs at overflows <;> cases overflows
  · rw [missing] at overflows
    cases overflows

/-! ## The constructor -/

/-- What is raised is no HTTP exception. -/
def Escapes {α : Type} (run : Except PyError α) : Prop :=
  ∃ exception : PyError, exception.Internal ∧ run = .error exception

theorem Escapes.not_ok {α : Type} {value : α} : ¬ Escapes (.ok value : Except PyError α) := by
  rintro ⟨_, _, ends⟩
  cases ends

theorem Escapes.not_pure {α : Type} {value : α} : ¬ Escapes (pure value : Except PyError α) :=
  Escapes.not_ok

theorem Escapes.not_http {α : Type} {status : Nat} {message : String} :
    ¬ Escapes (.error (.http status message) : Except PyError α) := by
  rintro ⟨_, internal, ends⟩
  cases ends
  exact internal

theorem Escapes.bind_iff {α β : Type} {first : Except PyError α} {next : α → Except PyError β}
    (later : ∀ value, ¬ Escapes (next value)) : Escapes (first >>= next) ↔ Escapes first := by
  cases first with
  | ok value => exact iff_of_false (later value) Escapes.not_ok
  | error exception =>
    refine ⟨?_, ?_⟩
    · rintro ⟨_, internal, ends⟩
      cases ends
      exact ⟨_, internal, rfl⟩
    · rintro ⟨_, internal, ends⟩
      cases ends
      exact ⟨_, internal, rfl⟩

theorem mapError_escapes_iff {checked : Except RegistrationError Unit}
    {response : RegistrationError → PyError}
    (answers : ∀ message, ∃ status text, response (.valueError message) = .http status text)
    (internal : (response .overflowError).Internal) :
    Escapes (checked.mapError response) ↔ checked = .error .overflowError := by
  cases checked with
  | ok _ => exact iff_of_false Escapes.not_ok fun overflows => by cases overflows
  | error exception =>
    cases exception with
    | overflowError => exact iff_of_true ⟨_, internal, rfl⟩ rfl
    | valueError message =>
      obtain ⟨status, text, answered⟩ := answers message
      have same : Except.mapError response (.error (.valueError message) : Except _ Unit) =
          .error (.http status text) := congrArg Except.error answered
      rw [same]
      exact iff_of_false Escapes.not_http fun overflows => by cases overflows

theorem validateRegistration_escapes_iff (conf : ProxyConf) (req : Request) :
    Escapes (validateRegistration conf req) ↔
      req.container = conf.handler.storletContainer ∧
        InfiniteVersion (ProxyHandler.parseStorletParams req.headers) := by
  unfold validateRegistration
  dsimp only
  rw [mapError_escapes_iff]
  · by_cases storlet : req.container = conf.handler.storletContainer
    · rw [if_pos storlet, and_iff_right storlet, validateStorletRegistration_overflow_iff]
    · rw [if_neg storlet]
      exact iff_of_false (validateDependencyRegistration_ne_overflow _) fun both => storlet both.1
  · exact fun _ => ⟨_, _, rfl⟩
  · trivial

section Middleware

variable {swift : Swift} {conf : ProxyConf} {req : Request}

theorem validateAclUpdate_not_escapes {cleanAcl : Text → Except String Unit}
    {storletContainers : List Text} {container : Text} {headers : Headers} :
    ¬ Escapes (validateAclUpdate cleanAcl storletContainers container headers) := by
  unfold validateAclUpdate
  split
  · exact Escapes.not_http
  · split
    · dsimp only
      split
      · exact Escapes.not_http
      · split
        · exact Escapes.not_http
        · exact Escapes.not_ok
    · exact Escapes.not_http

theorem parse_not_escapes {extra : ExtraConf} {headers : Headers} :
    ¬ Escapes (extra.parse headers) := by
  unfold ExtraConf.parse
  dsimp only
  split_ifs
  · exact Escapes.not_ok
  · exact Escapes.not_http
  · exact Escapes.not_http
  · split
    · exact Escapes.not_ok
    · exact Escapes.not_http

theorem updateStorletParameters_escapes_iff :
    Escapes (updateStorletParametersFromHeaders req) ↔ ∃ item ∈ req.headers.items, Valueless item := by
  rw [← updateStorletParameters_error_iff]
  constructor
  · rintro ⟨exception, _, raises⟩
    exact ⟨exception, raises⟩
  · rintro ⟨exception, raises⟩
    obtain ⟨message, rfl⟩ := updateStorletParameters_error raises
    exact ⟨.valueError message, trivial, raises⟩

theorem init_escapes_iff : Escapes (ProxyHandler.init swift conf req) ↔
    ¬ Pretends req ∧ Enabled swift conf req ∧
      (isStorletObjectUpdate conf req = true ∧ req.container = conf.handler.storletContainer ∧
          InfiniteVersion (ProxyHandler.parseStorletParams req.headers) ∨
        isStorletObjectUpdate conf req = false ∧ isStorletExecution req = true ∧
          ∃ item ∈ req.headers.items, Valueless item) := by
  unfold ProxyHandler.init shouldBlock
  by_cases pretends : Pretends req
  · rw [if_pos pretends]
    exact iff_of_false Escapes.not_http fun all => all.1 pretends
  rw [if_neg pretends, and_iff_right pretends]
  change Escapes (if _ then _ else _) ↔ _
  by_cases related : isStorletRequest conf req = true
  swap
  · -- it is passed down
    rw [if_pos (by simp [related])]
    simp only [isStorletRequest, Bool.or_eq_true, not_or] at related
    refine iff_of_false Escapes.not_ok ?_
    rintro ⟨_, ⟨object, _⟩ | ⟨_, runs, _⟩⟩
    · exact related.1.2 object
    · exact related.1.1 runs
  rw [if_neg (by simp [related])]
  change Escapes (if _ then _ else _) ↔ _
  by_cases enabled : Enabled swift conf req
  swap
  · rw [if_pos enabled]
    exact iff_of_false Escapes.not_http fun all => enabled all.1
  rw [if_neg (not_not.mpr enabled), and_iff_right enabled]
  change Escapes (if _ then _ else _) ↔ _
  by_cases updates : isStorletAclUpdate req = true
  · -- of a container, while the other two are of an object
    rw [if_pos updates, Escapes.bind_iff fun _ => Escapes.not_pure]
    simp only [isStorletAclUpdate, Bool.and_eq_true, decide_eq_true_eq] at updates
    refine iff_of_false validateAclUpdate_not_escapes ?_
    rintro (⟨object, _⟩ | ⟨_, runs, _⟩)
    · simp [isStorletObjectUpdate, updates.1.2] at object
    · simp [isStorletExecution, updates.1.2] at runs
  rw [if_neg updates]
  by_cases object : isStorletObjectUpdate conf req = true
  · rw [if_pos object, Escapes.bind_iff fun _ => Escapes.not_pure, validateRegistration_escapes_iff]
    simp [object]
  · have runs : isStorletExecution req = true := by
      simpa [isStorletRequest, updates, object] using related
    rw [if_neg object, Escapes.bind_iff, updateStorletParameters_escapes_iff]
    · simp [object, runs]
    · intro params
      rw [Escapes.bind_iff fun _ => Escapes.not_pure]
      exact parse_not_escapes

/-- The clients whose request the middleware makes no response of: those who run a storlet with a
parameter without a value, and those who register a Python storlet for an infinite version. -/
theorem unanswered_iff (gateway : Gateway) (pipeline : Pipeline) :
    (∃ exception, (proxyMiddleware swift conf gateway pipeline.app req).result =
        .error exception) ↔
      ¬ Pretends req ∧ Enabled swift conf req ∧
        (isStorletObjectUpdate conf req = true ∧ req.container = conf.handler.storletContainer ∧
            InfiniteVersion (ProxyHandler.parseStorletParams req.headers) ∨
          isStorletObjectUpdate conf req = false ∧ isStorletExecution req = true ∧
            ∃ item ∈ req.headers.items, Valueless item) := by
  rw [← init_escapes_iff]
  unfold proxyMiddleware
  cases made : ProxyHandler.init swift conf req with
  | error exception =>
    cases exception with
    | http status message =>
      refine iff_of_false ?_ Escapes.not_http
      rintro ⟨_, ends⟩
      cases ends
    | valueError | keyError | typeError | gateway =>
      refine iff_of_true ⟨_, rfl⟩ ⟨_, ?_, rfl⟩
      trivial
  | ok admitted =>
    refine iff_of_false ?_ Escapes.not_ok
    rintro ⟨exception, ends⟩
    cases admitted with
    | passes =>
      obtain ⟨resp, answered⟩ := pipeline.answers req
      cases ends.symm.trans answered
    | handles handler aclString =>
      dsimp only at ends
      rw [result_catching] at ends
      split at ends <;> cases ends

end Middleware

end Storlets
