import Typelib.Json.Basic
import Typelib.Double.Text
import Typelib.Text.Number

/-!
# Writing data

`Json.compact` writes a value without any space, `Json.pretty` over several lines with two spaces
a level.  Both keep the order of members.
-/

namespace Typelib

namespace Json

/-- Documents write numbers from 0.00001 up to, but not including, 10 ^ 16 without an exponent, and
a tie goes to the even digit. -/
def numberStyle : NumberStyle := ⟨-5, 15, .even⟩

/-- One character of a text. -/
def writtenChar (c : Char) : List Char :=
  match c with
  | '\x22' => ['\\', '\x22']
  | '\\' => ['\\', '\\']
  | '\x08' => ['\\', 'b']
  | '\x0c' => ['\\', 'f']
  | '\n' => ['\\', 'n']
  | '\r' => ['\\', 'r']
  | '\t' => ['\\', 't']
  | _ => if c.toNat < 0x20 then ['\\', 'u'] ++ Text.fixedHex 4 c.toNat else [c]

/-- A text between quotes. -/
def writtenText (s : String) : String :=
  "\x22" ++ String.ofList (s.toList.flatMap writtenChar) ++ "\x22"

/-- A number; an infinity or a NaN is written as null. -/
def writtenNumber : Number → String
  | .integer n => toString n
  | .double d => if d.isFinite then d.text numberStyle else "null"

mutual

/-- A value without spaces. -/
def compact : Json → String
  | null => "null"
  | bool b => if b then "true" else "false"
  | number n => writtenNumber n
  | string s => writtenText s
  | array elements => "[" ++ ",".intercalate (compactElements elements) ++ "]"
  | object members => "\x7b" ++ ",".intercalate (compactMembers members) ++ "\x7d"

def compactElements : List Json → List String
  | [] => []
  | j :: rest => compact j :: compactElements rest

def compactMembers : List (String × Json) → List String
  | [] => []
  | (key, j) :: rest => (writtenText key ++ ":" ++ compact j) :: compactMembers rest

end

/-- The start of a line at a level. -/
def lineStart (level : Nat) : String := "\n" ++ String.ofList (List.replicate (2 * level) ' ')

/-- Lines at a level between two brackets, or the brackets alone around nothing. -/
def block (opening closing : String) (level : Nat) (lines : List String) : String :=
  if lines = [] then opening ++ closing
  else opening ++ ",".intercalate (lines.map (lineStart (level + 1) ++ ·)) ++ lineStart level ++
    closing

mutual

/-- A value over several lines, inside `level` containers. -/
def prettyAt (level : Nat) : Json → String
  | array elements => block "[" "]" level (prettyElements (level + 1) elements)
  | object members => block "\x7b" "\x7d" level (prettyMembers (level + 1) members)
  | null => "null"
  | bool b => if b then "true" else "false"
  | number n => writtenNumber n
  | string s => writtenText s

def prettyElements (level : Nat) : List Json → List String
  | [] => []
  | j :: rest => prettyAt level j :: prettyElements level rest

def prettyMembers (level : Nat) : List (String × Json) → List String
  | [] => []
  | (key, j) :: rest => (writtenText key ++ ": " ++ prettyAt level j) :: prettyMembers level rest

end

/-- A value over several lines. -/
def pretty (j : Json) : String := prettyAt 0 j

end Json

end Typelib
