import LspHost.Path.Basic
import LspHost.Protocol.Initialize
import LspHost.Trace
import LspHost.Text.LowerCase

/-!
# Arguments

A command line names one of two commands, with options of its own and options that may also stand
before it. An option with a value takes it from the same argument or from the next one, unless that
looks like an option. No option may be given twice in one place, and one given after the command
counts for more than one given before it. Behind `--` everything is a file.
-/

namespace LspHost

inductive Command where
  | resolve (extension : Option Path) (json : Bool)
  | run (extension : Option Path) (workspace : Path) (debug : Bool) (files : List Path)
deriving Repr, DecidableEq

structure CommandLine where
  logLevel : String
  logJson : Bool
  command : Command
deriving Repr, DecidableEq

namespace CommandLine

inductive Refusal where
  | usage
  | help
  | version
deriving Repr, DecidableEq

namespace Refusal

def code : Refusal → Nat
  | usage => 2
  | help => 0
  | version => 0

def output : Refusal → String
  | version => "margarine-client " ++ Protocol.clientVersion ++ "\n"
  | _ => ""

end Refusal

inductive Shape where
  | word
  | ending
  | long (name : Bytes) (attached : Option Bytes)
  | short (rest : Bytes)
deriving Repr, DecidableEq

def dash : UInt8 := 0x2D
def equals : UInt8 := 0x3D

def Shape.ofLong (arg : Bytes) : Shape :=
  match arg.dropWhile (· ≠ equals) with
  | [] => .long arg none
  | _ :: value => .long (arg.takeWhile (· ≠ equals)) (some value)

def Shape.ofBytes (arg : Bytes) : Shape :=
  match arg with
  | a :: b :: rest =>
    if a ≠ dash then .word
    else if b ≠ dash then .short (b :: rest)
    else if rest = [] then .ending
    else .ofLong rest
  | _ => .word

inductive Operand where
  | nothing
  | text
  | path
deriving Repr, DecidableEq

structure Switch where
  name : String
  letter : Option Char := none
  operand : Operand := .nothing
deriving Repr, DecidableEq

inductive Words where
  | halt
  | refuse
  | collect
deriving Repr, DecidableEq

/-- The options that are known in one place. -/
structure Scope where
  switches : List Switch
  words : Words
deriving Repr

structure Given where
  values : List (String × Bytes) := []
  words : List Bytes := []
deriving Repr

namespace Given

def value? (g : Given) (name : String) : Option Bytes :=
  (g.values.find? (·.1 = name)).map Prod.snd

def has (g : Given) (name : String) : Bool :=
  (g.value? name).isSome

def path? (g : Given) (name : String) : Option Path :=
  (g.value? name).map Path.mk

def isFit (operand : Operand) (value : Bytes) : Bool :=
  match operand with
  | .nothing => true
  | .text => (Utf8.decode? value).isSome
  | .path => value ≠ []

def add (g : Given) (s : Switch) (value : Bytes) : Except Refusal Given :=
  if s.name = "help" then .error .help
  else if s.name = "version" then .error .version
  else if g.has s.name ∨ !isFit s.operand value then .error .usage
  else .ok { g with values := g.values ++ [(s.name, value)] }

/-- Files have to be named. -/
def addWords (g : Given) (words : List Bytes) : Except Refusal Given :=
  if words.contains [] then .error .usage else .ok { g with words := g.words ++ words }

end Given

def general : List Switch := [
  { name := "log-level", operand := .text },
  { name := "log-json" },
  { name := "help", letter := some 'h' }]

def outer : Scope :=
  { switches := { name := "version", letter := some 'V' } :: general, words := .halt }

def extensionPath : Switch :=
  { name := "extension-path", operand := .path }

def resolveScope : Scope :=
  { switches := extensionPath :: { name := "json" } :: general, words := .refuse }

def runScope : Scope :=
  { switches := extensionPath :: { name := "workspace", letter := some 'w', operand := .path } ::
      { name := "debug" } :: general
    words := .collect }

namespace Scope

def long? (s : Scope) (name : Bytes) : Option Switch :=
  s.switches.find? fun x => Utf8.encode x.name = name

/-- The option that an argument with one dash begins with, and what is attached to it. -/
def short? (s : Scope) (rest : Bytes) : Option (Switch × Bytes) :=
  s.switches.findSome? fun x => do
    let letter := Utf8.encode (String.singleton (← x.letter))
    if letter.isPrefixOf rest then some (x, rest.drop letter.length) else none

/-- The value attached to a letter, which may be set off by a sign of equality. -/
def attachedValue (attached : Bytes) : Option Bytes :=
  match attached with
  | [] => none
  | b :: rest => some (if b = equals then rest else b :: rest)

/-- Reads arguments as long as they belong to this place. -/
def read (s : Scope) (g : Given) : List Bytes → Except Refusal (Given × List Bytes)
  | [] => .ok (g, [])
  | arg :: rest =>
    let give (x : Switch) (attached : Option Bytes) : Except Refusal (Given × List Bytes) :=
      match x.operand, attached with
      | .nothing, some _ => .error .usage
      | .nothing, none => (g.add x []).bind fun g => read s g rest
      | _, some value => (g.add x value).bind fun g => read s g rest
      | _, none =>
        match rest with
        | [] => .error .usage
        | value :: later =>
          if Shape.ofBytes value = .word then (g.add x value).bind fun g => read s g later
          else .error .usage
    match Shape.ofBytes arg with
    | .word => match s.words with
      | .halt => .ok (g, arg :: rest)
      | .refuse => .error .usage
      | .collect => (g.addWords [arg]).bind fun g => read s g rest
    | .ending => match s.words with
      | .collect => (g.addWords rest).map fun g => (g, [])
      | .refuse => if rest = [] then .ok (g, []) else .error .usage
      | .halt => .error .usage
    | .long name attached => match s.long? name with
      | some x => give x attached
      | none => .error .usage
    | .short letters => match s.short? letters with
      | some (x, attached) =>
        if x.operand = .nothing then give x none else give x (attachedValue attached)
      | none => .error .usage

end Scope

/-- The command line whose command was given `inner` after `before`. -/
def assemble (before inner : Given) (command : Command) : CommandLine :=
  let level := (inner.value? "log-level").or (before.value? "log-level")
  { logLevel := (level.map Utf8.decodeLossy).getD "info"
    logJson := before.has "log-json" || inner.has "log-json"
    command }

def resolveCommand (g : Given) : Command :=
  .resolve (g.path? "extension-path") (g.has "json")

def runCommand (g : Given) : Command :=
  .run (g.path? "extension-path") ((g.path? "workspace").getD (.ofString ".")) (g.has "debug")
    (g.words.map Path.mk)

/-- Help on a command, if the name is that of one. -/
def refuseWithHelp (names : List Bytes) : Refusal :=
  match names with
  | [] => .help
  | [name] =>
    if ["resolve", "run", "help"].any (Utf8.encode · = name) then .help else .usage
  | _ => .usage

def ofArguments (args : List Bytes) : Except Refusal CommandLine := do
  let (before, rest) ← outer.read {} args
  match rest with
  | [] => .error .usage
  | name :: rest =>
    if name = Utf8.encode "resolve" then
      let (inner, _) ← resolveScope.read {} rest
      .ok (assemble before inner (resolveCommand inner))
    else if name = Utf8.encode "run" then
      let (inner, _) ← runScope.read {} rest
      .ok (assemble before inner (runCommand inner))
    else if name = Utf8.encode "help" then .error (refuseWithHelp rest)
    else .error .usage

/-- The level that a word stands for, in capitals or not. -/
def levelOf? (word : String) : Option Level :=
  match lowerCase word with
  | "trace" => some .trace
  | "debug" => some .debug
  | "info" => some .info
  | "warn" => some .warn
  | "error" => some .error
  | _ => none

end CommandLine
end LspHost
