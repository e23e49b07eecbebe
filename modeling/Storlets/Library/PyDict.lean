import Mathlib.Data.List.Basic
import Mathlib.Data.List.Nodup

set_option autoImplicit false

/-!
# Python dictionaries

A `dict` is the list of its items in insertion order, each key once: setting a
key that is there keeps its place.
-/

universe u v

structure PyDict (K : Type u) (V : Type v) where
  items : List (K × V)
  distinct : (items.map Prod.fst).Nodup
  deriving DecidableEq

namespace PyDict

variable {K : Type u} {V : Type v} [DecidableEq K]

def empty : PyDict K V := ⟨[], List.nodup_nil⟩

def keys (dict : PyDict K V) : List K := dict.items.map Prod.fst

def get? (dict : PyDict K V) (key : K) : Option V := dict.items.lookup key

def setItem (key : K) (value : V) : List (K × V) → List (K × V)
  | [] => [(key, value)]
  | (other, old) :: rest =>
      if other = key then (key, value) :: rest else (other, old) :: setItem key value rest

theorem keys_setItem (key : K) (value : V) (items : List (K × V)) :
    (setItem key value items).map Prod.fst =
      if key ∈ items.map Prod.fst then items.map Prod.fst else items.map Prod.fst ++ [key] := by
  induction items with
  | nil => rfl
  | cons item rest ih =>
    obtain ⟨other, old⟩ := item
    by_cases same : other = key
    · simp [setItem, same]
    · simp only [setItem, same, if_false, List.map_cons, ih, List.mem_cons, Ne.symm same, false_or]
      split <;> rfl

theorem forall_setItem {P : K × V → Prop} {key : K} {value : V} {items : List (K × V)}
    (each : ∀ item ∈ items, P item) (set : P (key, value)) :
    ∀ item ∈ setItem key value items, P item := by
  induction items with
  | nil => simpa [setItem] using set
  | cons item rest ih =>
    obtain ⟨here, later⟩ := List.forall_mem_cons.mp each
    obtain ⟨other, old⟩ := item
    rw [setItem]
    split
    · exact List.forall_mem_cons.mpr ⟨set, later⟩
    · exact List.forall_mem_cons.mpr ⟨here, ih later⟩

theorem setItem_absent {key : K} {value : V} {items : List (K × V)}
    (absent : key ∉ items.map Prod.fst) : setItem key value items = items ++ [(key, value)] := by
  induction items with
  | nil => rfl
  | cons item rest ih =>
    obtain ⟨other, old⟩ := item
    obtain ⟨differs, absent⟩ : key ≠ other ∧ key ∉ rest.map Prod.fst := by simpa using absent
    rw [setItem, if_neg differs.symm, ih absent]
    rfl

theorem foldl_setItem_distinct {items seen : List (K × V)}
    (distinct : ((seen ++ items).map Prod.fst).Nodup) :
    items.foldl (fun items (key, value) => setItem key value items) seen = seen ++ items := by
  induction items generalizing seen with
  | nil => simp
  | cons item rest ih =>
    obtain ⟨key, value⟩ := item
    have absent : key ∉ seen.map Prod.fst := by
      rw [List.map_append, List.nodup_append] at distinct
      intro inside
      exact distinct.2.2 _ inside _ (by simp) rfl
    rw [List.foldl_cons]
    change List.foldl _ (setItem key value seen) rest = _
    rw [setItem_absent absent, ih (by simpa using distinct)]
    simp

/-- A loop that passes over a key does not see it set. -/
theorem foldl_setItem {R : Type*} (loop : R → K × V → R) (key : K)
    (ignores : ∀ result value, loop result (key, value) = result) (value : V)
    (items : List (K × V)) (result : R) :
    (setItem key value items).foldl loop result = items.foldl loop result := by
  induction items generalizing result with
  | nil => simp [setItem, ignores]
  | cons item rest ih =>
    obtain ⟨other, old⟩ := item
    by_cases same : other = key
    · simp [setItem, same, ignores]
    · simp [setItem, same, ih]

def set (dict : PyDict K V) (key : K) (value : V) : PyDict K V where
  items := setItem key value dict.items
  distinct := by
    rw [keys_setItem]
    split
    · exact dict.distinct
    · next absent =>
      refine List.nodup_append.mpr ⟨dict.distinct, List.nodup_singleton key, ?_⟩
      rintro other inside _ last rfl
      exact absent (List.mem_singleton.mp last ▸ inside)

def pop (dict : PyDict K V) (key : K) : PyDict K V where
  items := dict.items.filter fun item => !decide (item.1 = key)
  distinct := dict.distinct.sublist (List.filter_sublist.map Prod.fst)

def update (dict : PyDict K V) (pairs : List (K × V)) : PyDict K V :=
  pairs.foldl (fun dict pair => dict.set pair.1 pair.2) dict

def ofList (pairs : List (K × V)) : PyDict K V := empty.update pairs

@[simp] theorem get?_empty (key : K) : (empty : PyDict K V).get? key = none := rfl

theorem lookup_cons (key first : K) (value : V) (rest : List (K × V)) :
    ((first, value) :: rest).lookup key = if key = first then some value else rest.lookup key := by
  by_cases same : key = first <;> simp [List.lookup_cons, same, beq_false_of_ne]

theorem lookup_setItem (key other : K) (value : V) (items : List (K × V)) :
    (setItem key value items).lookup other =
      if other = key then some value else items.lookup other := by
  induction items with
  | nil => simp [setItem, lookup_cons]
  | cons item rest ih =>
    obtain ⟨first, old⟩ := item
    by_cases same : first = key
    · subst same
      by_cases asked : other = first <;> simp [setItem, lookup_cons, asked]
    · by_cases asked : other = first
      · subst asked
        simp [setItem, same]
      · simp [setItem, lookup_cons, same, asked, ih]

theorem get?_set (dict : PyDict K V) (key other : K) (value : V) :
    (dict.set key value).get? other = if other = key then some value else dict.get? other :=
  lookup_setItem key other value dict.items

theorem get?_update_const (dict : PyDict K V) (keys : List K) (value : V) (key : K) :
    (dict.update (keys.map fun other => (other, value))).get? key =
      if key ∈ keys then some value else dict.get? key := by
  induction keys generalizing dict with
  | nil => simp [update]
  | cons first rest ih =>
    show ((dict.set first value).update _).get? key = _
    rw [ih, get?_set]
    by_cases later : key ∈ rest
    · simp [later]
    · simp [later]

theorem get?_pop (dict : PyDict K V) (key other : K) :
    (dict.pop key).get? other = if other = key then none else dict.get? other := by
  show (dict.items.filter _).lookup other =
    if other = key then none else dict.items.lookup other
  induction dict.items with
  | nil => simp
  | cons item rest ih =>
    obtain ⟨first, value⟩ := item
    by_cases same : first = key
    · subst same
      rw [List.filter_cons_of_neg (by simp), ih, lookup_cons]
      split <;> rfl
    · rw [List.filter_cons_of_pos (by simpa using same), lookup_cons, lookup_cons, ih]
      by_cases asked : other = first
      · simp [asked, same]
      · simp [asked]

theorem lookup_isSome (key : K) (items : List (K × V)) :
    (items.lookup key).isSome ↔ key ∈ items.map Prod.fst := by
  induction items with
  | nil => simp
  | cons item rest ih =>
    obtain ⟨first, value⟩ := item
    by_cases same : key = first
    · simp [same]
    · simp only [lookup_cons, same, if_false, List.map_cons, List.mem_cons, false_or, ih]

theorem get?_isSome (dict : PyDict K V) (key : K) : (dict.get? key).isSome ↔ key ∈ dict.keys :=
  lookup_isSome key dict.items

theorem mem_keys_set (dict : PyDict K V) (key other : K) (value : V) :
    other ∈ (dict.set key value).keys ↔ other = key ∨ other ∈ dict.keys := by
  rw [← get?_isSome, ← get?_isSome, get?_set]
  by_cases same : other = key <;> simp [same]

theorem mem_keys_pop (dict : PyDict K V) (key other : K) :
    other ∈ (dict.pop key).keys ↔ other ≠ key ∧ other ∈ dict.keys := by
  rw [← get?_isSome, ← get?_isSome, get?_pop]
  by_cases same : other = key <;> simp [same]

/-- A loop that keeps some items under new keys finds under a new key what was under the only
old one that becomes it. -/
theorem get?_foldl_rename {K' : Type*} [DecidableEq K'] (keep : K → Prop) [DecidablePred keep]
    (rename : K → K') (source : K) (target : K') (kept : keep source) (items : List (K × V))
    (only : ∀ key ∈ items.map Prod.fst, keep key → (rename key = target ↔ key = source))
    (distinct : (items.map Prod.fst).Nodup) (start : PyDict K' V) :
    (items.foldl (fun dict (key, value) =>
      if keep key then dict.set (rename key) value else dict) start).get? target =
      (items.lookup source).or (start.get? target) := by
  induction items generalizing start with
  | nil => rfl
  | cons item rest ih =>
    obtain ⟨key, value⟩ := item
    simp only [List.map_cons, List.nodup_cons, List.forall_mem_cons] at distinct only
    rw [List.foldl_cons, ih only.2 distinct.2, lookup_cons]
    by_cases same : source = key
    · subst same
      have absent : rest.lookup source = none := by
        rw [← Option.not_isSome_iff_eq_none, lookup_isSome]
        exact distinct.1
      simp [kept, absent, get?_set, (only.1 kept).mpr rfl]
    · by_cases keeps : keep key
      · have other : target ≠ rename key := fun bad => same ((only.1 keeps).mp bad.symm).symm
        simp [same, keeps, get?_set, other]
      · simp [same, keeps]

omit [DecidableEq K] in
theorem mem_keys_foldl_rename {K' : Type*} [DecidableEq K'] (keep : K → Prop) [DecidablePred keep]
    (rename : K → K') (items : List (K × V)) (start : PyDict K' V) {target : K'}
    (inside : target ∈ (items.foldl (fun dict (key, value) =>
      if keep key then dict.set (rename key) value else dict) start).keys) :
    target ∈ start.keys ∨ ∃ key ∈ items.map Prod.fst, keep key ∧ target = rename key := by
  induction items generalizing start with
  | nil => exact .inl inside
  | cons item rest ih =>
    obtain ⟨key, value⟩ := item
    rcases ih _ inside with early | ⟨other, listed, kept, same⟩
    · by_cases keeps : keep key
      · simp only [keeps, if_true, mem_keys_set] at early
        exact early.symm.imp_right fun same => ⟨key, by simp, keeps, same⟩
      · simp only [keeps, if_false] at early
        exact .inl early
    · exact .inr ⟨other, List.mem_cons_of_mem _ listed, kept, same⟩

omit [DecidableEq K] in
theorem mem_keys_foldl_renamed {K' : Type*} [DecidableEq K'] (keep : K → Prop) [DecidablePred keep]
    (rename : K → K') {key : K} (kept : keep key) (items : List (K × V)) (start : PyDict K' V)
    (there : rename key ∈ start.keys ∨ key ∈ items.map Prod.fst) :
    rename key ∈ (items.foldl (fun dict (key, value) =>
      if keep key then dict.set (rename key) value else dict) start).keys := by
  induction items generalizing start with
  | nil => simpa using there
  | cons item rest ih =>
    obtain ⟨other, value⟩ := item
    apply ih
    by_cases keeps : keep other
    · simp only [keeps, if_true, mem_keys_set]
      rcases there with early | listed
      · exact .inl (.inr early)
      · rcases List.mem_cons.mp listed with same | later
        · exact .inl (.inl (congrArg rename same))
        · exact .inr later
    · simp only [keeps, if_false]
      rcases there with early | listed
      · exact .inl early
      · rcases List.mem_cons.mp listed with same | later
        · have same : key = other := same
          exact absurd (same ▸ kept) keeps
        · exact .inr later

/-- The items are what the keys look up. -/
theorem mem_items (dict : PyDict K V) (key : K) (value : V) :
    (key, value) ∈ dict.items ↔ dict.get? key = some value := by
  obtain ⟨items, distinct⟩ := dict
  show _ ↔ items.lookup key = some value
  induction items with
  | nil => simp
  | cons item rest ih =>
    obtain ⟨first, old⟩ := item
    simp only [List.map_cons, List.nodup_cons] at distinct
    by_cases same : key = first
    · subst same
      have absent : (key, value) ∉ rest := fun inside =>
        distinct.1 (List.mem_map_of_mem inside)
      simp [absent, eq_comm]
    · simp [lookup_cons, same, ih distinct.2]

end PyDict
