import LspHost.Json.Number
import LspHost.Text.Quoted
import LspHost.Url.Parser

/-!
# Shapes of JSON values

A shape says which values a place in a message admits. Decoding a value by a shape gives the value
as it is understood there: members the shape does not name are dropped, members without a value are
left out, and URLs are normalised. What does not fit is reported with a message that says what was
found and what was expected.
-/

namespace LspHost

/-- What becomes of a member of a record that is absent or null. -/
inductive Presence where
  | required
  | optional
  | defaultTo (j : Json)
  | nullable
deriving Repr, Inhabited

def Presence.admitsNull : Presence → Bool
  | .optional => true
  | .nullable => true
  | _ => false

/--
What a place admits. A record may be written as an array of the values of its fields. A merged
record has the members of several parts, which are understood one after the other, and is never an
array. A tagged value names its case, in the member `key` or as the first item.
-/
inductive Shape where
  | any
  | unit
  | bool
  | whole (name : String) (low high : Int)
  | text
  | url
  | word (words : List String)
  | option (s : Shape)
  | list (s : Shape)
  | record (name : String) (fields : List (String × Presence × Shape))
  | merged (name : String) (parts : List (List (String × Presence × Shape)))
  | tagged (key : String) (cases : List (String × Shape))
  | choice (name : String) (alternatives : List Shape)
deriving Repr, Inhabited

namespace Shape

def i32 : Shape := whole "i32" (-0x80000000) 0x7FFFFFFF
def u32 : Shape := whole "u32" 0 0xFFFFFFFF

inductive Mismatch where
  | wrongType (found : Json) (expected : String)
  | wrongValue (found : Json) (expected : String)
  | wrongLength (n : Nat) (expected : String)
  | missing (field : String)
  | noAlternative (name : String)
  | manyKeys
  | unknownWord (found : String) (words : List String)
deriving Repr, Inhabited

def describe : Json → String
  | .null => "null"
  | .bool b => "boolean `" ++ (if b then "true" else "false") ++ "`"
  | .int n => "integer `" ++ toString n ++ "`"
  | .double d => "floating point `" ++ Json.doubleText d ++ "`"
  | .str s => "string " ++ Quoted.ofString s
  | .arr _ => "sequence"
  | .obj _ => "map"

def alternatives : List String → String
  | [] => "there are no variants"
  | [a] => "expected `" ++ a ++ "`"
  | [a, b] => "expected `" ++ a ++ "` or `" ++ b ++ "`"
  | words => "expected one of " ++ ", ".intercalate (words.map fun w => "`" ++ w ++ "`")

def Mismatch.message : Mismatch → String
  | wrongType found expected => "invalid type: " ++ describe found ++ ", expected " ++ expected
  | wrongValue found expected => "invalid value: " ++ describe found ++ ", expected " ++ expected
  | wrongLength n expected => "invalid length " ++ toString n ++ ", expected " ++ expected
  | manyKeys => "invalid value: map, expected map with a single key"
  | missing field => "missing field `" ++ field ++ "`"
  | noAlternative name => "data did not match any variant of untagged enum " ++ name
  | unknownWord found words => "unknown variant `" ++ found ++ "`, " ++ alternatives words

/-- The members of a record in the order of its fields, with those that are left out dropped. -/
def collect (found : List (String × Json)) :
    List (String × Presence × Shape) → Except Mismatch (List (String × Json))
  | [] => .ok []
  | (key, presence, _) :: rest =>
    match found.find? (·.1 = key), presence with
    | some (_, .null), .optional => collect found rest
    | some (_, j), _ => (collect found rest).map ((key, j) :: ·)
    | none, .required => .error (.missing key)
    | none, .optional => collect found rest
    | none, .defaultTo j => (collect found rest).map ((key, j) :: ·)
    | none, .nullable => (collect found rest).map ((key, .null) :: ·)

def recordName (name : String) : String :=
  "struct " ++ name

def knownWord (words : List String) (s : String) : Except Mismatch Json :=
  if words.contains s then .ok (.str s) else .error (.unknownWord s words)

def elements (n : Nat) : String :=
  toString n ++ if n = 1 then " element" else " elements"

mutual

def decode : Shape → Json → Except Mismatch Json
  | any, j => .ok j
  | unit, j => match j with
    | .null => .ok .null
    | j => .error (.wrongType j "unit")
  | bool, j => match j with
    | .bool b => .ok (.bool b)
    | j => .error (.wrongType j "a boolean")
  | whole name low high, j => match j with
    | .int n => if low ≤ n ∧ n ≤ high then .ok (.int n) else .error (.wrongValue (.int n) name)
    | j => .error (.wrongType j name)
  | text, j => match j with
    | .str s => .ok (.str s)
    | j => .error (.wrongType j "a string")
  | url, j => match j with
    | .str s => match Url.ofString? s with
      | some u => .ok (.str u.text)
      | none => .error (.wrongValue (.str s) "a string representing an URL")
    | j => .error (.wrongType j "a string representing an URL")
  | word words, j => match j with
    | .str s => knownWord words s
    | .obj [(s, payload)] => do
      let found ← knownWord words s
      if payload.isNull then .ok found else .error (.wrongType payload "unit")
    | .obj _ => .error .manyKeys
    | j => .error (.wrongType j "string or map")
  | option s, j => match j with
    | .null => .ok .null
    | j => decode s j
  | list s, j => match j with
    | .arr items => (items.mapM (decode s)).map .arr
    | j => .error (.wrongType j "a sequence")
  | record name fields, j => match j with
    | .obj members => do
      let found ← members.mapM fun (m : String × Json) =>
        (decodeMember fields m.1 m.2).map fun v => (m.1, v)
      (collect found fields).map .obj
    | .arr items => do
      let found ← decodeItems (recordName name ++ " with " ++ elements fields.length) 0 fields items
      if items.length > fields.length then
        .error (.wrongLength items.length "fewer elements in array")
      else (collect found fields).map .obj
    | j => .error (.wrongType j (recordName name))
  | merged name parts, j => match j with
    | .obj members => (decodeParts parts members).map .obj
    | j => .error (.wrongType j (recordName name))
  | tagged key cases, j => match j with
    | .obj members =>
      match members.find? (·.1 = key) with
      | some (_, tag) => decodeCase 0 cases tag (.obj (members.filter (·.1 ≠ key)))
      | none => .error (.missing key)
    | .arr (tag :: items) => decodeCase 0 cases tag (.arr items)
    | .arr [] => .error (.missing key)
    | j => .error (.wrongType j "internally tagged enum")
  | choice name alternatives, j => decodeFirst name alternatives j

def decodeParts : List (List (String × Presence × Shape)) → List (String × Json) →
    Except Mismatch (List (String × Json))
  | [], _ => .ok []
  | fields :: rest, members => do
    let found ← members.mapM fun (m : String × Json) =>
      (decodeMember fields m.1 m.2).map fun v => (m.1, v)
    let part ← collect found fields
    (decodeParts rest members).map (part ++ ·)

/-- The value in the case that the tag names, by its word or by its number. -/
def decodeCase (i : Nat) : List (String × Shape) → Json → Json → Except Mismatch Json
  | [], tag, _ => .error (.wrongType tag "variant identifier")
  | (name, s) :: rest, tag, j =>
    if tag == .str name || tag == .int i then decode s j else decodeCase (i + 1) rest tag j

/-- The value of one member; a member that is no field is kept as it is. -/
def decodeMember : List (String × Presence × Shape) → String → Json → Except Mismatch Json
  | [], _, v => .ok v
  | (key, presence, s) :: rest, k, v =>
    if key = k then
      if presence.admitsNull && v.isNull then .ok .null else decode s v
    else decodeMember rest k v

def decodeItems (expected : String) (i : Nat) :
    List (String × Presence × Shape) → List Json → Except Mismatch (List (String × Json))
  | [], _ => .ok []
  | (key, presence, s) :: rest, items =>
    match items with
    | [] => match presence with
      | .defaultTo j => do
        let found ← decodeItems expected (i + 1) rest []
        .ok ((key, j) :: found)
      | _ => .error (.wrongLength i expected)
    | v :: vs => do
      let v ← if presence.admitsNull && v.isNull then .ok .null else decode s v
      let found ← decodeItems expected (i + 1) rest vs
      .ok ((key, v) :: found)

def decodeFirst (name : String) : List Shape → Json → Except Mismatch Json
  | [], _ => .error (.noAlternative name)
  | s :: rest, j =>
    match decode s j with
    | .ok v => .ok v
    | .error _ => decodeFirst name rest j

end

end Shape
end LspHost
