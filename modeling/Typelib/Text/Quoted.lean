import Typelib.Text.Unprintable

/-!
# Quoted texts

A quoted text stands between double quotes.  Inside, a quote and a backslash are written after a
backslash, the characters NUL, tab, line feed and carriage return have escapes of one letter, and
any other character that does not print is written by its code.  So a quoted text stays on one
line and holds no bare quote.
-/

namespace Typelib.Text

/-- One character inside a quoted text. -/
def quotedChar (c : Char) : List Char :=
  match c with
  | '\x00' => ['\\', '0']
  | '\t' => ['\\', 't']
  | '\n' => ['\\', 'n']
  | '\r' => ['\\', 'r']
  | '\x22' => ['\\', '\x22']
  | '\\' => ['\\', '\\']
  | _ =>
    if isUnprintable c then
      ['\\', 'u', '\x7b'] ++ Nat.toDigits 16 c.toNat ++ ['\x7d']
    else [c]

/-- What stands between the quotes. -/
def quotedBody (cs : List Char) : List Char := cs.flatMap quotedChar

/-- A text between double quotes. -/
def quoted (s : String) : String :=
  String.ofList (['\x22'] ++ quotedBody s.toList ++ ['\x22'])

example : quotedBody ['a', '\n', '\x22', '\x01'] =
    ['a', '\\', 'n', '\\', '\x22', '\\', 'u', '\x7b', '1', '\x7d'] := by decide +kernel

end Typelib.Text
