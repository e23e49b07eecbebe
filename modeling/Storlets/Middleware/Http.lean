import Storlets.Library.PyStr

set_option autoImplicit false

namespace Storlets

open PyStr

abbrev Bytes := List UInt8

/-- A header map: `HeaderKeyDict` of a response, `HeaderEnvironProxy` of a request. The names are
title-cased, whatever case they were set with. -/
structure Headers where
  entries : Dict Text
  titled : ∀ name ∈ entries.keys, title name = name
  deriving DecidableEq

namespace Headers

def empty : Headers := ⟨.empty, by simp [PyDict.keys, PyDict.empty]⟩

def get? (headers : Headers) (name : Text) : Option Text := headers.entries.get? (title name)

def contains (headers : Headers) (name : Text) : Bool := (headers.get? name).isSome

def set (headers : Headers) (name value : Text) : Headers where
  entries := headers.entries.set (title name) value
  titled := by
    intro other inside
    rcases (PyDict.mem_keys_set _ _ _ _).mp inside with rfl | old
    · exact title_title name
    · exact headers.titled other old

def pop (headers : Headers) (name : Text) : Headers where
  entries := headers.entries.pop (title name)
  titled := fun other inside => headers.titled other ((PyDict.mem_keys_pop _ _ _).mp inside).2

/-- `for key in headers`, with the value of each key. -/
def items (headers : Headers) : List (Text × Text) := headers.entries.items

def update (headers : Headers) (pairs : List (Text × Text)) : Headers :=
  pairs.foldl (fun headers pair => headers.set pair.1 pair.2) headers

def ofList (pairs : List (Text × Text)) : Headers := empty.update pairs

@[simp] theorem get?_empty (name : Text) : empty.get? name = none := rfl

theorem get?_set (headers : Headers) (name other value : Text) :
    (headers.set name value).get? other =
      if title other = title name then some value else headers.get? other :=
  PyDict.get?_set _ _ _ _

theorem get?_pop (headers : Headers) (name other : Text) :
    (headers.pop name).get? other =
      if title other = title name then none else headers.get? other :=
  PyDict.get?_pop _ _ _

theorem get?_set_prefixed (headers : Headers) (front key name value : Text)
    (differs : ¬ title front <+: title name) :
    (headers.set (front ++ key) value).get? name = headers.get? name := by
  have other : title name ≠ title (front ++ key) := by
    intro same
    rw [title_append] at same
    exact differs (same ▸ List.prefix_append _ _)
  rw [get?_set, if_neg other]

theorem get?_update_prefixed (headers : Headers) (front name : Text)
    (differs : ¬ title front <+: title name) (pairs : List (Text × Text)) :
    (headers.update (pairs.map fun (key, value) => (front ++ key, value))).get? name =
      headers.get? name := by
  induction pairs generalizing headers with
  | nil => rfl
  | cons pair rest ih =>
    show ((headers.set (front ++ pair.1) pair.2).update _).get? name = _
    rw [ih, get?_set_prefixed _ _ _ _ _ differs]

theorem contains_set (headers : Headers) (name other value : Text) :
    (headers.set name value).contains other =
      (decide (title other = title name) || headers.contains other) := by
  by_cases same : title other = title name <;> simp [contains, get?_set, same]

end Headers

/-- Where the bytes of a response body come from. -/
inductive Origin where
  | object
  | storlet
  | error
  deriving DecidableEq

structure Body where
  origin : Origin
  content : Bytes
  /-- The iterator has the `_fp` of an object server's disk file. -/
  hasFp : Bool := false

structure Response where
  status : Nat
  headers : Headers
  body : Body

def Response.isSuccess (resp : Response) : Bool := 200 ≤ resp.status && resp.status < 300

structure Request where
  method : Text
  version : Text
  account : Text
  container : Text
  obj : Text
  headers : Headers
  /-- The query string, which is forwarded as it came. -/
  query : Dict Text
  /-- What `wsgi.input` reads. -/
  input : Bytes

/-- What a gateway raises. -/
inductive GatewayError where
  | storletRuntime
  | storletTimeout
  | fileManagement
  | other
  deriving DecidableEq

/-- Whether `except StorletRuntimeException` catches it: `StorletTimeout` is a subclass. -/
def GatewayError.isStorletRuntime : GatewayError → Bool
  | .storletRuntime | .storletTimeout => true
  | _ => false

/-- What leaves a handler other than by `return`. The middleware turns an HTTP exception into
that response and every other one into a 500. -/
inductive PyError where
  | http (status : Nat) (message : String)
  | valueError (message : String)
  | keyError (key : String)
  | typeError
  | gateway (exception : GatewayError)
  deriving DecidableEq

/-- One range of swob's `Range`: `(first, last)`, `(first, None)` or `(None, suffix)`. -/
abbrev ByteRange := Option Nat × Option Nat

end Storlets
