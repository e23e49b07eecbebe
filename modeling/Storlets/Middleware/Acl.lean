import Storlets.Library.Runs
import Storlets.Middleware.Proxy

set_option autoImplicit false

/-!
# Storlet ACLs

A POST on a container adds to its read ACL an entry made of a user and a storlet. A GET that
is not authorised is tried again with a referer made the same way.
-/

namespace Storlets

open PyStr Traced Runs

/-! ## Referers in Swift's ACLs -/

/-- `urlparse(referer).hostname` of a referer without a scheme. An address in brackets is none. -/
def hostname (referer : Text) : Option Text :=
  if startsWith referer "//" then
    let visible := (referer.drop 2).filter fun c => c ∉ ['\t', '\r', '\n']
    let netloc := visible.takeWhile fun c => c ∉ ['/', '?', '#']
    -- what stands before the last @ is the user's
    let hostinfo := (netloc.reverse.takeWhile (· ≠ '@')).reverse
    let host := hostinfo.takeWhile (· ≠ ':')
    -- the zone after a % keeps its case
    if '[' ∈ netloc ∨ ']' ∈ netloc ∨ host = [] then none
    else some (lower (host.takeWhile (· ≠ '%')) ++ host.dropWhile (· ≠ '%'))
  else none

/-- What follows `.r:` in the referrer entries of an ACL. -/
def referrers (acl : Text) : List Text :=
  ((split ',' acl).filter fun entry => startsWith entry ".r:").map fun entry => entry.drop 3

def isStorletEntry (entry : Text) : Bool := startsWith entry "storlets."

/-- A storlet entry of the ACL admits the request. -/
def letThrough (acl : Option Text) (req : Request) : Prop :=
  ∃ entry ∈ referrers (acl.getD []), isStorletEntry entry ∧
    ∃ referer, req.headers.get? "Referer" = some referer ∧ hostname referer = some (lower entry)

/-! ## Updates -/

section Updates

variable (cleanAcl : Text → Except String Unit) (storletContainers : List Text) (container : Text)

/-- `cleanAcl` is Swift's check of an ACL, which may raise a `ValueError`. -/
def validateAclUpdate (headers : Headers) : Except PyError Text :=
  if container ∈ storletContainers then
    .error (.http 400 "storlet ACL update cannot be a storlet container")
  else
    match headers.get? "X-Storlet-Container-Read", headers.get? "X-Storlet-Name" with
    | some (u :: user), some (s :: storlet) =>
        let aclString := ".r:".toList ++ ProxyHandler.buildAclString (u :: user) (s :: storlet)
        match cleanAcl aclString with
        | .error err =>
            .error (.http 400 ("storlet ACL update request has invalid values " ++ err))
        | .ok () =>
            if ',' ∈ aclString then
              .error (.http 400
                "storlet ACL update request has mulformed storlet or user name")
            else .ok aclString
    | _, _ => .error (.http 400 "storlet ACL update request is missing a mandatory header")

structure AclUpdate where
  headers : Headers
  /-- What the `HEAD` of the container is answered with. -/
  headStatus : Nat
  /-- Whether Swift takes the request that is forwarded. -/
  taken : Bool

structure ContainerAcl where
  /-- `X-Container-Read`. -/
  readAcl : Option Text
  /-- The users and storlets of the updates that were made. -/
  granted : List (Text × Text) := []

def newReadAcl (readAcl : Option Text) (aclString : Text) : Text :=
  match readAcl with
  | none | some [] => aclString
  | some readAcl => readAcl ++ ',' :: aclString

def AclUpdate.pair (update : AclUpdate) : Text × Text :=
  ((update.headers.get? "X-Storlet-Container-Read").getD [],
    (update.headers.get? "X-Storlet-Name").getD [])

/-- `POST` of a request that the handler's constructor takes. -/
def post (state : ContainerAcl) (update : AclUpdate) : ContainerAcl :=
  match validateAclUpdate cleanAcl storletContainers container update.headers with
  | .error _ => state
  | .ok aclString =>
      if update.headStatus = 204 ∧ update.taken then
        ⟨some (newReadAcl state.readAcl aclString), state.granted ++ [update.pair]⟩
      else state

/-- The ACL of a container after a history of updates. -/
def updated (initial : Option Text) (updates : List AclUpdate) : ContainerAcl :=
  after (post cleanAcl storletContainers container) ⟨initial, []⟩ updates

end Updates

/-! ## Names that run together -/

/-- The two pairs differ by an underscore that one has in the user and the other in the storlet. -/
def Shifted (granted asked : Text × Text) : Prop :=
  ∃ middle, (asked.1 = granted.1 ++ '_' :: middle ∧ granted.2 = middle ++ '_' :: asked.2) ∨
    (granted.1 = asked.1 ++ '_' :: middle ∧ asked.2 = middle ++ '_' :: granted.2)

/-- What means something in the host of a URL. -/
def urlMarks : List Char := ['\t', '\r', '\n', '/', '?', '#', '@', ':', '[', ']', '%']

def HostText (name : Text) : Prop := ∀ c ∈ name, c ∉ urlMarks ∧ c.toLower = c

instance (name : Text) : Decidable (HostText name) :=
  inferInstanceAs (Decidable (∀ c ∈ name, c ∉ urlMarks ∧ c.toLower = c))

/-- The host of the referer for the asked pair is the entry of the granted one. -/
def Alike (granted asked : Text × Text) : Prop :=
  hostname ("//".toList ++ ProxyHandler.buildAclString asked.1 asked.2) =
    some (lower (ProxyHandler.buildAclString granted.1 granted.2))

/-- Nobody was granted a pair alike to the asked one, unless that was granted too. -/
def Distinct (granted : List (Text × Text)) (asked : Text × Text) : Prop :=
  asked.1 ≠ [] → asked ∉ granted → ∀ pair ∈ granted, ¬ Alike pair asked

theorem joined_eq_iff (granted asked : Text × Text) :
    asked.1 ++ '_' :: asked.2 = granted.1 ++ '_' :: granted.2 ↔
      granted = asked ∨ Shifted granted asked := by
  obtain ⟨user, storlet⟩ := granted
  obtain ⟨asker, wanted⟩ := asked
  constructor
  · intro same
    rcases List.append_eq_append_iff.mp same with ⟨more, rfl, back⟩ | ⟨more, rfl, back⟩
    · cases more with
      | nil => simp_all
      | cons c middle =>
        obtain ⟨rfl, rest⟩ := List.cons.inj back
        exact .inr ⟨middle, .inr ⟨rfl, rest⟩⟩
    · cases more with
      | nil => simp_all
      | cons c middle =>
        obtain ⟨rfl, rest⟩ := List.cons.inj back
        exact .inr ⟨middle, .inl ⟨rfl, rest⟩⟩
  · rintro (same | ⟨middle, ⟨user, storlet⟩ | ⟨user, storlet⟩⟩)
    · obtain ⟨rfl, rfl⟩ := Prod.mk.inj same
      rfl
    · simp_all
    · simp_all

theorem lower_of_hostText {name : Text} (plain : HostText name) : lower name = name := by
  induction name with
  | nil => rfl
  | cons c rest ih =>
    have tail := ih fun other inside => plain other (List.mem_cons_of_mem _ inside)
    simpa [lower, (plain c (List.mem_cons_self ..)).2] using tail

theorem hostname_of_hostText {name : Text} (plain : HostText name) (filled : name ≠ []) :
    hostname ("//".toList ++ name) = some name := by
  have without : ∀ banned ∈ urlMarks, banned ∉ name :=
    fun banned listed inside => (plain banned inside).1 listed
  have passes : ∀ listed ⊆ urlMarks, ∀ c ∈ name, (decide (c ∉ listed)) = true := by
    intro listed inside c there
    exact decide_eq_true fun bad => (plain c there).1 (inside bad)
  have visible : name.filter (fun c => decide (c ∉ ['\t', '\r', '\n'])) = name :=
    List.filter_eq_self.mpr (passes _ (by simp [urlMarks]))
  have netloc : name.takeWhile (fun c => decide (c ∉ ['/', '?', '#'])) = name :=
    List.takeWhile_eq_self_iff.mpr (passes _ (by simp [urlMarks]))
  have hostinfo : name.reverse.takeWhile (fun c => decide (c ≠ '@')) = name.reverse := by
    refine List.takeWhile_eq_self_iff.mpr fun c there => decide_eq_true ?_
    rintro rfl
    exact without '@' (by simp [urlMarks]) (List.mem_reverse.mp there)
  have host : ∀ banned ∈ [':', '%'], name.takeWhile (fun c => decide (c ≠ banned)) = name := by
    intro banned listed
    refine List.takeWhile_eq_self_iff.mpr fun c there => decide_eq_true ?_
    rintro rfl
    exact without c (by revert listed; simp [urlMarks]; tauto) there
  have zone : name.dropWhile (fun c => decide (c ≠ '%')) = [] := by
    refine List.dropWhile_eq_nil_iff.mpr fun c there => decide_eq_true ?_
    rintro rfl
    exact without '%' (by simp [urlMarks]) there
  have slashes : startsWith ("//".toList ++ name) "//" = true := by simp [startsWith]
  have dropped : ("//".toList ++ name).drop 2 = name := rfl
  have first := without '[' (by simp [urlMarks])
  have second := without ']' (by simp [urlMarks])
  simp only [hostname, slashes, if_true, dropped, visible, netloc, hostinfo, List.reverse_reverse,
    host ':' (by simp), host '%' (by simp), zone, first, second, filled, or_self, if_false,
    lower_of_hostText plain, List.append_nil]

/-- Pairs of names that can stand in a host run together where an underscore shifts. -/
theorem alike_iff_shifted {granted asked : Text × Text}
    (grantedText : HostText granted.1 ∧ HostText granted.2)
    (askedText : HostText asked.1 ∧ HostText asked.2) :
    Alike granted asked ↔ granted = asked ∨ Shifted granted asked := by
  have builds : ∀ user storlet : Text, HostText user → HostText storlet →
      HostText (ProxyHandler.buildAclString user storlet) := by
    intro user storlet userText storletText c inside
    have front : HostText (refererPrefix.toList ++ ['.', '_']) := by
      simp [HostText, refererPrefix, urlMarks]
    simp only [ProxyHandler.buildAclString, List.mem_append, List.mem_cons] at inside
    rcases inside with (there | rfl | there) | rfl | there
    · exact front c (List.mem_append_left _ there)
    · exact front '.' (by simp)
    · exact userText c there
    · exact front '_' (by simp)
    · exact storletText c there
  rw [Alike, hostname_of_hostText (builds _ _ askedText.1 askedText.2) (by
      simp [ProxyHandler.buildAclString]),
    lower_of_hostText (builds _ _ grantedText.1 grantedText.2), ← joined_eq_iff]
  simp [ProxyHandler.buildAclString]

/-! ## The entries of the ACL -/

theorem referrers_of_no_comma {acl : Text} (single : ',' ∉ acl) :
    referrers acl = if startsWith acl ".r:" then [acl.drop 3] else [] := by
  have whole : split ',' acl = [acl] := List.splitOn_eq_singleton single
  rw [referrers, whole]
  cases named : startsWith acl ".r:" with
  | true => rw [List.filter_cons_of_pos (by simpa using named)]; rfl
  | false => rw [List.filter_cons_of_neg (by simpa using named)]; rfl

theorem mem_referrers_newReadAcl (readAcl : Option Text) {entry other : Text}
    (single : ',' ∉ ".r:".toList ++ entry) :
    other ∈ referrers (newReadAcl readAcl (".r:".toList ++ entry)) ↔
      other ∈ referrers (readAcl.getD []) ∨ other = entry := by
  have added : referrers (".r:".toList ++ entry) = [entry] := by
    rw [referrers_of_no_comma single, if_pos (by simp [startsWith])]
    rfl
  have nothing : referrers [] = [] := by rfl
  unfold newReadAcl
  split
  · simp only [added, nothing, Option.getD_none, List.not_mem_nil, false_or, List.mem_singleton]
  · simp only [added, nothing, Option.getD_some, List.not_mem_nil, false_or, List.mem_singleton]
  · next acl filled =>
    have parts : split ',' (acl ++ ',' :: (".r:".toList ++ entry)) =
        split ',' acl ++ split ',' (".r:".toList ++ entry) := List.splitOn_append_cons_self _ _
    have whole : referrers (acl ++ ',' :: (".r:".toList ++ entry)) =
        referrers acl ++ referrers (".r:".toList ++ entry) := by
      simp only [referrers, parts, List.filter_append, List.map_append]
    rw [whole, added, List.mem_append, List.mem_singleton]
    rfl

/-- The storlet entries of the ACL are those of the updates that were made. -/
def ContainerAcl.Accounted (state : ContainerAcl) : Prop :=
  ∀ entry, isStorletEntry entry → (entry ∈ referrers (state.readAcl.getD []) ↔
    ∃ pair ∈ state.granted, entry = ProxyHandler.buildAclString pair.1 pair.2)

section Runs

variable {cleanAcl : Text → Except String Unit} {storletContainers : List Text} {container : Text}

theorem validateAclUpdate_ok {headers : Headers} {aclString : Text}
    (accepted : validateAclUpdate cleanAcl storletContainers container headers = .ok aclString) :
    ∃ user storlet, headers.get? "X-Storlet-Container-Read" = some user ∧
      headers.get? "X-Storlet-Name" = some storlet ∧
      aclString = ".r:".toList ++ ProxyHandler.buildAclString user storlet ∧ ',' ∉ aclString := by
  unfold validateAclUpdate at accepted
  split at accepted
  · cases accepted
  · split at accepted
    · next u user s storlet hasUser hasStorlet =>
      dsimp only at accepted
      split at accepted
      · cases accepted
      · split at accepted
        · cases accepted
        · next single =>
          obtain rfl := Except.ok.inj accepted
          exact ⟨_, _, hasUser, hasStorlet, rfl, single⟩
    · cases accepted

theorem post_accounted (state : ContainerAcl) (update : AclUpdate) (accounted : state.Accounted) :
    (post cleanAcl storletContainers container state update).Accounted := by
  unfold post
  split
  · exact accounted
  · next aclString accepted =>
    split
    · obtain ⟨user, storlet, hasUser, hasStorlet, rfl, single⟩ := validateAclUpdate_ok accepted
      intro entry isEntry
      have pair : update.pair = (user, storlet) := by
        rw [AclUpdate.pair, hasUser, hasStorlet, Option.getD_some, Option.getD_some]
      simp only [Option.getD_some, mem_referrers_newReadAcl _ single, accounted entry isEntry, pair,
        List.mem_append, List.mem_singleton, or_and_right, exists_or, exists_eq_left]
    · exact accounted

theorem updated_accounted {initial : Option Text}
    (fresh : ∀ entry ∈ referrers (initial.getD []), isStorletEntry entry = false)
    (updates : List AclUpdate) :
    (updated cleanAcl storletContainers container initial updates).Accounted := by
  refine after_invariant post_accounted ?_ updates
  intro entry isEntry
  refine iff_of_false (fun listed => ?_) (by simp)
  simpa [isEntry] using fresh entry listed

theorem isStorletEntry_buildAclString (user storlet : Text) :
    isStorletEntry (ProxyHandler.buildAclString user storlet) = true := by
  simp [isStorletEntry, ProxyHandler.buildAclString, refererPrefix, startsWith]

/-- An entry admits the retry exactly when an update granted a pair that is alike. -/
theorem letThrough_iff {state : ContainerAcl} (accounted : state.Accounted) {req : Request}
    (asked : Text × Text) (referer : req.headers.get? "Referer" =
      some ("//".toList ++ ProxyHandler.buildAclString asked.1 asked.2)) :
    letThrough state.readAcl req ↔ ∃ pair ∈ state.granted, Alike pair asked := by
  constructor
  · rintro ⟨entry, listed, isEntry, other, given, same⟩
    obtain rfl := Option.some.inj (given.symm.trans referer)
    obtain ⟨pair, inside, rfl⟩ := (accounted entry isEntry).mp listed
    exact ⟨pair, inside, same⟩
  · rintro ⟨pair, inside, same⟩
    have isEntry := isStorletEntry_buildAclString pair.1 pair.2
    exact ⟨_, (accounted _ isEntry).mpr ⟨pair, inside, rfl⟩, isEntry, _, referer, same⟩

end Runs

/-- The request, sent again with the internal referer. -/
def retried (req : Request) (user storlet : Text) : Request :=
  { req with
    headers := req.headers.set "Referer" ("//".toList ++ ProxyHandler.buildAclString user storlet) }

theorem retried_referer (req : Request) (user storlet : Text) :
    (retried req user storlet).headers.get? "Referer" =
      some ("//".toList ++ ProxyHandler.buildAclString user storlet) := by
  rw [retried, Headers.get?_set, if_pos rfl]

section Retry

variable {req : Request} {user storlet : Text}
  (named : req.headers.get? "X-User-Name" = some user)
  (runs : req.headers.get? "X-Run-Storlet" = some storlet)

include named runs

/-- The retry goes out with the referer of the asked pair, unless nobody asks. -/
theorem retry_sends (app : App) :
    (ProxyHandler.retryWithReferer app req).trace.head? =
      if user = [] then none else some (.getResponse (retried req user storlet)) := by
  unfold ProxyHandler.retryWithReferer
  rw [named, runs]
  dsimp only
  split
  · rfl
  · have first := trace_starts_bind (emit (.getResponse (retried req user storlet)) : Handler PUnit)
      fun _ => app (retried req user storlet)
    have whole := first.trans (trace_starts_bind _ fun resp =>
      (pure (retried req user storlet, resp) : Handler (Request × Response)))
    obtain ⟨rest, same⟩ := whole
    exact (congrArg List.head? same).symm

end Retry

/-- If a storlet entry lets the retry through, the user was granted that storlet. -/
def AuthorisesExactly (state : ContainerAcl) (req : Request) (asked : Text × Text) : Prop :=
  ∀ app sent, (ProxyHandler.retryWithReferer app req).trace.head? = some (.getResponse sent) →
    letThrough state.readAcl sent → asked ∈ state.granted

/-- A grant to `bob_dev` of a storlet `encrypt-1.0.jar`. -/
def bobDevUpdate : AclUpdate where
  headers := .ofList [("X-Storlet-Container-Read", "bob_dev"), ("X-Storlet-Name", "encrypt-1.0.jar")]
  headStatus := 204
  taken := true

/-- `bob` runs a storlet `dev_encrypt-1.0.jar`. -/
def bobRequest : Request where
  method := "GET"
  version := "v1"
  account := "AUTH_test"
  container := "data"
  obj := "secret"
  headers := .ofList [("X-User-Name", "bob"), ("X-Run-Storlet", "dev_encrypt-1.0.jar")]
  query := .empty
  input := []

end Storlets
