import Storlets.Gateway.Request

set_option autoImplicit false

namespace Storlets

open PyStr

/-- What `validate_storlet_registration` raises. The `ValueError`s become a 400 with the message. -/
inductive RegistrationError where
  | valueError (message : Text)
  | overflowError
  deriving DecidableEq

def checkMandatoryParams (params : Dict Text) (mandatory : List Text) :
    Except RegistrationError Unit :=
  match mandatory.find? fun md => (params.get? md).isNone with
  | some md => .error (.valueError ("Mandatory parameter is missing: ".toList ++ md))
  | none => .ok ()

/-- Whether `int(version)` is 3 once the text is rounded to a double: the doubles next to 3 and
to 4 are 2⁻⁵¹ below, and a tie goes to 3 and to 4. -/
def isVersionThree : PyStr.Float → Except RegistrationError Bool
  | .finite version => .ok (3 - 1 / 2 ^ 52 ≤ version ∧ version < 4 - 1 / 2 ^ 52)
  | .infinity _ => .error .overflowError
  | .nan => .error (.valueError "cannot convert float NaN to integer")

def checkJavaStorlet (name : Text) : Except RegistrationError Unit :=
  if '-' ∉ name ∨ '.' ∉ name then .error (.valueError "Storlet name is incorrect") else .ok ()

def checkPythonStorlet (params : Dict Text) (main name : Text) : Except RegistrationError Unit := do
  let version ← match params.get? "Language-Version" with
    | none => .ok (.finite 3)
    | some text =>
        match float text with
        | some version => .ok version
        | none => .error (.valueError "Language-Version is invalid")
  if ← isVersionThree version then
    if endsWith name ".py" then
      if startsWith main (name.take (name.length - 3) ++ ['.']) then
        if (split '.' main).length = 2 then .ok ()
        else .error (.valueError "Submodule is currently not supported")
      else .error (.valueError "Main class should be included in storlet file")
    else .error (.valueError "Storlet name is incorrect")
  else .error (.valueError "Not supported version specified")

def checkDependencies (params : Dict Text) (name : Text) : Except RegistrationError Unit :=
  match params.get? "Dependency" with
  | none | some [] => .ok ()
  | some dep =>
      let deps := split ',' dep
      if name ∈ deps then
        .error (.valueError "Using the same name for storlet and dependency is not allowed")
      else if deps.Nodup then .ok ()
      else .error (.valueError "Duplicated name in dependencies")

def validateStorletRegistration (params : Dict Text) (name : Text) :
    Except RegistrationError Unit := do
  checkMandatoryParams params ["Language", "Interface-Version", "Object-Metadata", "Main"]
  let language := lower ((params.get? "Language").getD [])
  if language = "java".toList then checkJavaStorlet name
  else if language = "python".toList then
    checkPythonStorlet params ((params.get? "Main").getD []) name
  else .error (.valueError "Unsupported Language")
  checkDependencies params name

/-- The permissions are an octal number whose bits 0600 are set. -/
def validateDependencyRegistration (params : Dict Text) : Except RegistrationError Unit := do
  checkMandatoryParams params ["Dependency-Version"]
  match params.get? "Dependency-Permissions" with
  | none => return
  | some perm =>
      match intOf 8 perm with
      | none => throw (.valueError "Dependency permission is incorrect")
      | some bits =>
          if bits / 128 % 4 = 3 then return
          else throw (.valueError "The owner should have rw permission")

/-- A storlet object whose parameters the gateway has accepted. -/
structure Registration where
  params : Dict Text
  name : Text
  accepted : validateStorletRegistration params name = .ok ()

/-- What a `HEAD` of a storlet object answers, and what the gateway reads it as. -/
structure StorletHead where
  contentLength : Text
  timestamp : Text
  length : Nat
  time : ℚ
  readsLength : intOf 10 (rstrip 'L' contentLength) = some (length : Int)
  readsTime : float timestamp = some (.finite time)

def Registration.parameters (registration : Registration) : Dict Text :=
  registration.params.items.foldl (fun options (key, value) =>
    options.set ("storlet_".toList ++ replace '-' '_' (lower key)) value) .empty

/-- The options of a request that runs the storlet. -/
def Registration.options (registration : Registration) (head : StorletHead) (scope : Text) :
    InvocationOptions where
  storlet :=
    (registration.parameters.set "storlet_content_length" head.contentLength).set
      "storlet_x_timestamp" head.timestamp
  scope := scope
  generateLog := false

end Storlets
