import LspHost.Json.Reader
import LspHost.Json.Shape
import LspHost.Wire.Frame

/-!
# Messages from the server

A body is an object that names version 2.0 of the protocol. It is a request if it has an id and a
method, else a response if it has an id, else a notification if it has a method. A member that
occurs twice makes the reading it belongs to impossible.
-/

namespace LspHost

inductive MessageId where
  | number (n : Int)
  | text (s : String)
deriving Repr, DecidableEq

def MessageId.toJson : MessageId → Json
  | number n => .int n
  | text s => .str s

structure RemoteError where
  code : Int
  message : String
deriving Repr, DecidableEq

def RemoteError.text (e : RemoteError) : String :=
  e.message ++ " (jsonrpc error " ++ toString e.code ++ ")"

inductive Incoming where
  | request (id : MessageId) (method : String) (params : Json)
  | response (id : MessageId) (outcome : Except RemoteError Json)
  | notification (method : String) (params : Json)
deriving Repr

namespace Incoming

/-- The value of a member that occurs at most once, `none` if it is absent. -/
def once? (members : List (String × Json)) (key : String) : Option (Option Json) :=
  match members.filter (·.1 = key) with
  | [] => some none
  | [(_, j)] => some (some j)
  | _ => none

def need? (members : List (String × Json)) (key : String) : Option Json :=
  (once? members key).bind id

def fitsI32 (n : Int) : Bool :=
  -0x80000000 ≤ n && n < 0x80000000

def id? (members : List (String × Json)) : Option MessageId :=
  (need? members "id").bind fun
    | .int n => if fitsI32 n then some (.number n) else none
    | .str s => some (.text s)
    | _ => none

def method? (members : List (String × Json)) : Option String :=
  (need? members "method").bind Json.str?

/-- The value of a member as a value on its own: the last of equal names counts. -/
def valueOr (j : Option Json) : Json :=
  (j.map Json.sorted).getD .null

def remoteError? (j : Json) : Option RemoteError :=
  match j with
  | .obj members => do
    let code ← (need? members "code").bind Json.int?
    let message ← (need? members "message").bind Json.str?
    let _ ← once? members "data"
    if fitsI32 code then some { code, message } else none
  | .arr (.int code :: .str message :: rest) =>
    if fitsI32 code ∧ rest.length = 1 then some { code, message } else none
  | _ => none

def request? (members : List (String × Json)) : Option Incoming := do
  let id ← id? members
  let method ← method? members
  let params ← once? members "params"
  some (.request id method (valueOr params))

def response? (members : List (String × Json)) : Option Incoming := do
  let id ← id? members
  let result ← once? members "result"
  let error ← once? members "error"
  match error with
  | none => some (.response id (.ok (valueOr result)))
  | some .null => some (.response id (.ok (valueOr result)))
  | some j => (remoteError? j).map fun e => .response id (.error e)

def notification? (members : List (String × Json)) : Option Incoming := do
  let method ← method? members
  let params ← once? members "params"
  some (.notification method (valueOr params))

/-- Version 2.0 is named by a text, or by the one member, without a value, of an object. -/
def isVersion : Json → Bool
  | .str v => v = "2.0"
  | .obj [(v, .null)] => v = "2.0"
  | _ => false

def ofJson? (j : Json) : Option Incoming :=
  match j with
  | .obj members =>
    if (need? members "jsonrpc").any isVersion then
      (request? members).or ((response? members).or (notification? members))
    else none
  | _ => none

def ofBytes? (bs : Bytes) : Option Incoming :=
  Json.ofBytes? bs >>= ofJson?

end Incoming

structure Reply where
  id : MessageId
  outcome : Except RemoteError Json
deriving Repr

def Reply.toJson (r : Reply) : Json :=
  match r.outcome with
  | .ok result => .obj [("id", r.id.toJson), ("result", result)]
  | .error e =>
    .obj [("id", r.id.toJson),
      ("error", .obj [("code", .int e.code), ("message", .str e.message), ("data", .null)])]

end LspHost
