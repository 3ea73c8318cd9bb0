import LspHost.Url.Domain.LabelTable

/-!
# The direction of labels

In a domain with characters written from right to left, each label keeps to one direction: its first
character says which, its last one, marks aside, ends it in that direction, and the two kinds of
digits do not meet.
-/

namespace LspHost.Domain

inductive Direction where
  | left
  | right
  | european
  | arabic
  | attached
  | neutral
deriving Repr, DecidableEq

def direction (c : Char) : Direction :=
  if c.toNat < 0x80 then
    if c.isAlpha then .left else if c.isDigit then .european else .neutral
  else if attached.contains c then .attached
  else if neutral.contains c then .neutral
  else if rightToLeft.contains c then .right
  else if arabicDigits.contains c then .arabic
  else if europeanDigits.contains c then .european
  else .left

/-- Whether a domain with the character is one with two directions. -/
def Direction.isRightward : Direction → Bool
  | right => true
  | arabic => true
  | _ => false

/-- The directions after the first one, without the marks at the end. -/
def body (ds : List Direction) : List Direction :=
  (ds.reverse.dropWhile (· = .attached)).reverse

def keepsLeft (ds : List Direction) : Bool :=
  (body ds).all (fun d => d ≠ .right && d ≠ .arabic) &&
    match (body ds).getLast? with
    | none => true
    | some d => d = .left || d = .european

def keepsRight (ds : List Direction) : Bool :=
  (body ds).all (· ≠ .left) && !((body ds).contains .european && (body ds).contains .arabic) &&
    match (body ds).getLast? with
    | none => true
    | some d => d = .right || d = .european || d = .arabic

def keepsDirection (label : List Char) : Bool :=
  match label.map direction with
  | [] => true
  | .left :: rest => keepsLeft rest
  | .right :: rest => keepsRight rest
  | _ => false

/-- Whether the labels keep their directions, where that is asked for. -/
def directed (labels : List (List Char)) : Bool :=
  !(labels.any (·.any (direction · |>.isRightward))) || labels.all keepsDirection

end LspHost.Domain
