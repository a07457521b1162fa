/-!
# Message templates

A template is text with references to arguments: the number of the argument between two percent
signs, counted from zero. `Template.cut` takes a template apart, given only the number of arguments,
and `Template.fill` puts the arguments in, so that nothing inside an argument is ever read as a
reference.

The cutting is leftmost. A percent sign opens a reference exactly when another one follows and the
text up to the next one is the number of an argument; otherwise it stands for itself.
-/

namespace DocShape.Template

/-- A piece of a template. -/
inductive Piece where
  /-- A character that stands for itself. -/
  | literal (c : Char)
  /-- A reference to an argument: the digits as written, and the number they give. -/
  | argument (digits : List Char) (index : Nat)
  deriving DecidableEq, Repr

/-- The natural number that some characters write: decimal digits, at least one, perhaps behind a
plus sign, and a value that fits 64 bits. -/
def index? (cs : List Char) : Option Nat :=
  let digits := match cs with
    | '+' :: rest => rest
    | _ => cs
  let n := digits.foldl (fun n d => 10 * n + (d.toNat - '0'.toNat)) 0
  if !digits.isEmpty && digits.all Char.isDigit && n < UInt64.size then some n else none

/-- The reference that the text behind a percent sign begins with, for `count` arguments: its digits
and its number. -/
def reference? (count : Nat) (cs : List Char) : Option (List Char × Nat) :=
  let digits := cs.takeWhile (· != '%')
  if digits.length < cs.length then
    match index? digits with
    | some i => if i < count then some (digits, i) else none
    | none => none
  else none

/-- The pieces of a text for `count` arguments, after leaving out `skip` characters that belong to a
reference already read. -/
def cutFrom (count : Nat) (skip : Nat) : List Char → List Piece
  | [] => []
  | c :: cs =>
    match skip with
    | skip + 1 => cutFrom count skip cs
    | 0 =>
      if c = '%' then
        match reference? count cs with
        | some (digits, i) => .argument digits i :: cutFrom count (digits.length + 1) cs
        | none => .literal c :: cutFrom count 0 cs
      else .literal c :: cutFrom count 0 cs

/-- The pieces of a template for `count` arguments. -/
def cut (count : Nat) (template : String) : List Piece := cutFrom count 0 template.toList

/-- What a piece becomes. -/
def Piece.fill (arguments : List String) : Piece → List Char
  | .literal c => [c]
  | .argument _ i => (arguments.getD i "").toList

/-- The template with its arguments put in. -/
def fill (template : String) (arguments : List String) : String :=
  String.ofList ((cut arguments.length template).flatMap (·.fill arguments))

end DocShape.Template
