import Kanna.Lib.Run
import Kanna.Transfer.Trust

/-!
# Sealed JSON payloads

The JSON values the peers seal for each other, read as `serde_json` reads them, and sealing
itself (`seal_json` and `open_json` of `crypto.rs`) as ideal authenticated encryption: a
sealed payload is a term that carries who sealed it for whom, and it opens for this receiver,
against this sender's key, and to the value it was made from. The term has a nonce, since
sealing the same value twice gives two different texts.

`ensureAuthenticatedArgument` is how a handler compares a field of its request with the
authenticated one.
-/

namespace Kanna

/-- `serde_json::Value`; a number is `PosInt`, `NegInt` or `Float` as in `serde_json`. -/
inductive Value where
  | null
  | bool (b : Bool)
  | posInt (n : UInt64)
  | negInt (n : Int)
  | float (digits : String)
  | string (text : String)
  | array (values : List Value)
  | object (fields : List (String × Value))

namespace Value

/-- `Value::get` with a name. -/
def get (name : String) : Value → Option Value
  | .object fields => (fields.find? fun field => field.1 = name).map Prod.snd
  | _ => none

/-- `Value::as_str`. -/
def asStr : Value → Option String
  | .string text => some text
  | _ => none

/-- `Value::as_bool`. -/
def asBool : Value → Option Bool
  | .bool b => some b
  | _ => none

/-- `Value::as_u64`. -/
def asU64 : Value → Option UInt64
  | .posInt n => some n
  | _ => none

/-- The index a token of a pointer stands for: digits without a sign or a leading zero. -/
def parseIndex (token : String) : Option ℕ :=
  if token.toList.head? = some '+' ∨ (token.toList.head? = some '0' ∧ token.length ≠ 1) then none
  else token.toNat?

/-- `Value::pointer`, of the tokens of a path. -/
def pointer : List String → Value → Option Value
  | [], value => some value
  | token :: path, .object fields =>
    (get token (.object fields)).bind (pointer path)
  | token :: path, .array values =>
    ((parseIndex token).bind fun index => values[index]?).bind (pointer path)
  | _ :: _, _ => none

/-- A field that is a text. -/
def str (name : String) (value : Value) : Option String := (value.get name).bind asStr

end Value

/-! ### Authenticated arguments -/

/-- How an error of `serde_json` names a value of a wrong type. -/
def Value.unexpected : Value → String
  | .null => "null"
  | .bool b => "boolean `" ++ toString b ++ "`"
  | .posInt n => "integer `" ++ n.toNat.repr ++ "`"
  | .negInt n => "integer `" ++ toString n ++ "`"
  | .float digits => "floating point `" ++ digits ++ "`"
  | .string text => "string " ++ text.quote
  | .array _ => "sequence"
  | .object _ => "map"

/-- `authenticated_argument` at `String`. -/
def authenticatedArgument (payload : Value) (name : String) : Except RuntimeError String :=
  match payload.get name with
  | none => .error (.protocol ("authenticated payload is missing " ++ name))
  | some (.string text) => .ok text
  | some value => .error (.protocol ("authenticated payload has invalid " ++ name ++
      ": invalid type: " ++ value.unexpected ++ ", expected a string"))

/-- `ensure_authenticated_argument` at `String`. -/
def ensureAuthenticatedArgument (payload : Value) (name outer : String) :
    Except RuntimeError Unit := do
  if (← authenticatedArgument payload name) = outer then .ok ()
  else .error (.protocol (name ++ " does not match authenticated payload"))

/-- The action and the request that an authenticated payload names. -/
def ensureAuthenticatedRequest (payload : Value) (action requestId : String) :
    Except RuntimeError Unit :=
  if payload.str "action" ≠ some action then
    .error (.protocol ("authenticated payload action does not match " ++ action))
  else if payload.str "request_id" ≠ some requestId then
    .error (.protocol "authenticated payload request_id does not match outer request")
  else .ok ()

/-! ### Sealing -/

/-- What `seal_json` makes. -/
structure SealedJson where
  sender : String
  receiver : String
  nonce : ℕ
  payload : Value

/-- `open_json`: for the receiver with this key, against the key of a sender. -/
def openJson (receiver sender : String) (sealed : SealedJson) : Except RuntimeError Value :=
  if sealed.receiver = receiver ∧ sealed.sender = sender then .ok sealed.payload
  else .error (.crypto "payload decryption failed")

/-- A payload opens only to the value it was sealed from, between the keys it was sealed for. -/
theorem openJson_eq_ok_iff {receiver sender : String} {sealed : SealedJson} {payload : Value} :
    openJson receiver sender sealed = .ok payload ↔
      sealed.receiver = receiver ∧ sealed.sender = sender ∧ sealed.payload = payload := by
  rw [openJson]
  split
  next h =>
    rw [Except.ok.injEq]
    exact ⟨fun hp => ⟨h.1, h.2, hp⟩, fun hp => hp.2.2⟩
  next h =>
    constructor
    · rintro ⟨⟩
    · exact fun hp => absurd ⟨hp.1, hp.2.1⟩ h

end Kanna
