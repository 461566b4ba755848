import Typelib.Json.Numeral

/-!
# Tokens of documents

A document is read in one pass over its characters.  The reader's `Mode` says what it is in the
middle of: nothing, a word (a numeral or one of the three literals), a text, an escape in a text,
or the four digits of a code.  A text may name the two halves of a surrogate pair by their codes;
a half that stands alone makes the text unreadable, which is an error only where the text is used.
-/

namespace Typelib

/-- The words and marks of a document; a text that cannot be decoded has no value. -/
inductive Token where
  | arrayOpen
  | arrayClose
  | objectOpen
  | objectClose
  | comma
  | colon
  | null
  | bool (value : Bool)
  | number (numeral : Numeral)
  | string (value : Option String)

namespace Token

/-- A piece of a text: a character, or a 16-bit code that an escape names. -/
inductive Piece where
  | char (c : Char)
  | code (n : Nat)

/-- The characters of a text; codes from D800 to DFFF count only as a pair. -/
def textOf? : List Piece → Option (List Char)
  | [] => some []
  | .char c :: rest => (textOf? rest).map (c :: ·)
  | .code n :: rest =>
    if n < 0xd800 ∨ 0xe000 ≤ n then (textOf? rest).map (Char.ofNat n :: ·)
    else match rest with
      | .code m :: rest =>
        if n < 0xdc00 ∧ 0xdc00 ≤ m ∧ m < 0xe000 then
          (textOf? rest).map (Char.ofNat (0x10000 + (n - 0xd800) * 0x400 + (m - 0xdc00)) :: ·)
        else none
      | _ => none

/-- What the reader is in the middle of; pieces and characters are kept last first. -/
inductive Mode where
  | between
  | word (read : List Char)
  | text (read : List Piece)
  | escape (read : List Piece)
  | code (read : List Piece) (digits : List Nat)

/-- The tokens read so far, last first, and the mode. -/
structure Reader where
  tokens : List Token
  mode : Mode

/-- The four characters between tokens. -/
def isSpace (c : Char) : Bool := c = ' ' || c = '\t' || c = '\n' || c = '\r'

/-- The characters of numerals and literals. -/
def isWordChar (c : Char) : Bool := c.isAlphanum || c = '+' || c = '-' || c = '.'

/-- The token a word stands for. -/
def ofWord? (cs : List Char) : Option Token :=
  if cs = ['n', 'u', 'l', 'l'] then some null
  else if cs = ['t', 'r', 'u', 'e'] then some (bool true)
  else if cs = ['f', 'a', 'l', 's', 'e'] then some (bool false)
  else (Numeral.parse? cs).map number

/-- The character an escape of one letter stands for. -/
def ofEscape? (c : Char) : Option Char :=
  match c with
  | '\x22' => some '\x22'
  | '\\' => some '\\'
  | '/' => some '/'
  | 'b' => some '\x08'
  | 'f' => some '\x0c'
  | 'n' => some '\n'
  | 'r' => some '\r'
  | 't' => some '\t'
  | _ => none

/-- The value of a hexadecimal digit. -/
def hexDigit? (c : Char) : Option Nat :=
  if '0' ≤ c ∧ c ≤ '9' then some (c.toNat - '0'.toNat)
  else if 'a' ≤ c ∧ c ≤ 'f' then some (c.toNat - 'a'.toNat + 10)
  else if 'A' ≤ c ∧ c ≤ 'F' then some (c.toNat - 'A'.toNat + 10)
  else none

/-- Reads a character between tokens. -/
def Reader.start (tokens : List Token) (c : Char) : Option Reader :=
  if isSpace c then some ⟨tokens, .between⟩
  else if isWordChar c then some ⟨tokens, .word [c]⟩
  else match c with
    | '[' => some ⟨arrayOpen :: tokens, .between⟩
    | ']' => some ⟨arrayClose :: tokens, .between⟩
    | '\x7b' => some ⟨objectOpen :: tokens, .between⟩
    | '\x7d' => some ⟨objectClose :: tokens, .between⟩
    | ',' => some ⟨comma :: tokens, .between⟩
    | ':' => some ⟨colon :: tokens, .between⟩
    | '\x22' => some ⟨tokens, .text []⟩
    | _ => none

/-- Reads one character. -/
def Reader.step (r : Reader) (c : Char) : Option Reader :=
  match r.mode with
  | .between => start r.tokens c
  | .word read =>
    if isWordChar c then some ⟨r.tokens, .word (c :: read)⟩
    else (ofWord? read.reverse).bind fun token => start (token :: r.tokens) c
  | .text read =>
    if c = '\x22' then
      some ⟨string ((textOf? read.reverse).map String.ofList) :: r.tokens, .between⟩
    else if c = '\\' then some ⟨r.tokens, .escape read⟩
    else if c.toNat < 0x20 then none
    else some ⟨r.tokens, .text (.char c :: read)⟩
  | .escape read =>
    if c = 'u' then some ⟨r.tokens, .code read []⟩
    else (ofEscape? c).map fun d => ⟨r.tokens, .text (.char d :: read)⟩
  | .code read digits =>
    (hexDigit? c).map fun d =>
      match digits with
      | [d₁, d₂, d₃] =>
        ⟨r.tokens, .text (.code (((d₁ * 16 + d₂) * 16 + d₃) * 16 + d) :: read)⟩
      | _ => ⟨r.tokens, .code read (digits ++ [d])⟩

/-- The tokens at the end of the document. -/
def Reader.finish (r : Reader) : Option (List Token) :=
  match r.mode with
  | .between => some r.tokens.reverse
  | .word read => (ofWord? read.reverse).map fun token => (token :: r.tokens).reverse
  | _ => none

/-- The tokens of a text. -/
def scan (cs : List Char) : Option (List Token) :=
  (cs.foldlM Reader.step ⟨[], .between⟩).bind Reader.finish

end Token

end Typelib
