import LspHost.Json.Writer
import LspHost.Wire.Frame

/-!
# Scripted servers

A script says how a server behaves on each message it receives: what it sends, how it answers, and
whether it closes its side afterwards, possibly after a delay. The behaviours for one method are
used one after another, and the last one stays. Without a script a server answers the first and the
last request, refuses other requests and closes when told to exit.
-/

namespace LspHost.Rehearsal

structure Behavior where
  delay : Nat := 0
  send : List Json := []
  reply : Option (String × Json) := none
  raw : Bytes := []
  closes : Bool := false
deriving Repr, Inhabited

structure Script where
  behaviors : List (String × List Behavior) := []
deriving Repr

/-- What a server sends at once, and whether it closes its side after it. -/
structure Emission where
  bytes : Bytes
  closes : Bool
deriving Repr

def versioned (j : Json) : Json :=
  match j with
  | .obj members =>
    if members.any (·.1 = "jsonrpc") then j else .obj (("jsonrpc", .str "2.0") :: members)
  | j => j

def frame (j : Json) : Bytes :=
  Frame.write (versioned j).sorted

def refusal (method : String) : Json :=
  .obj [("code", .int (-32601)), ("message", .str ("no such method: " ++ method))]

/-- The behaviour on a message that the script does not mention. -/
def defaultBehavior (method : String) (isRequest : Bool) : Behavior :=
  match method with
  | "initialize" => { reply := some ("result", .obj [("capabilities", .obj [])]) }
  | "shutdown" => { reply := some ("result", .null) }
  | "exit" => { closes := true }
  | method => if isRequest then { reply := some ("error", refusal method) } else {}

def emission (b : Behavior) (id : Option Json) : Emission :=
  let reply := match id, b.reply with
    | some id, some (key, value) => frame (.obj [("id", id), (key, value)])
    | _, _ => []
  { bytes := b.send.flatMap frame ++ reply ++ b.raw, closes := b.closes }

/-- The behaviour on the next message with this method, and the script for those after it. -/
def Script.next (s : Script) (method : String) (isRequest : Bool) : Behavior × Script :=
  match s.behaviors.find? (·.1 = method) with
  | some (_, b :: later@(_ :: _)) =>
    (b, { behaviors := s.behaviors.map fun (m, bs) => (m, if m = method then later else bs) })
  | some (_, [b]) => (b, s)
  | _ => (defaultBehavior method isRequest, s)

end LspHost.Rehearsal
