import Typelib.Text.Blank
import Typelib.Text.Segments
import Typelib.Text.Number

/-!
# Globally unique identifiers

A `Guid` names a library, a class or an interface by 128 bits.  Its text is five groups of
hexadecimal digits, 8-4-4-4-12; the registry writes them in upper case between braces
(`Guid.braced`).  Reading (`Guid.parse?`) removes blanks at both ends and then one pair of braces,
and accepts digits of either case in exactly these groups.
-/

namespace Typelib

/-- A globally unique identifier. -/
structure Guid where
  value : BitVec 128
  deriving DecidableEq

namespace Guid

open Text

/-- The lengths of the five groups of digits. -/
def groupLengths : List Nat := [8, 4, 4, 4, 12]

/-- All thirty-two digits, in lower case. -/
def digits (g : Guid) : List Char := fixedHex 32 g.value.toNat

/-- Cuts a row of digits into groups of the given lengths. -/
def groups : List Nat → List Char → List (List Char)
  | [], _ => []
  | n :: rest, cs => cs.take n :: groups rest (cs.drop n)

/-- The groups with a separator between them. -/
def separated (separator : Char) (g : Guid) : List Char :=
  [separator].intercalate (groups groupLengths g.digits)

/-- The text with hyphens, in lower case. -/
def lower (g : Guid) : String := String.ofList (g.separated '-')

/-- The text with hyphens, in upper case. -/
def hyphenated (g : Guid) : String := String.ofList ((g.separated '-').map Char.toUpper)

/-- The registry's text: upper case, between braces. -/
def braced (g : Guid) : String := "\x7b" ++ g.hyphenated ++ "\x7d"

/-- Removes one pair of braces, if both are there. -/
def withoutBraces (cs : List Char) : List Char :=
  match cs with
  | '\x7b' :: rest => if rest.getLast? = some '\x7d' then rest.dropLast else cs
  | _ => cs

/-- Reads the five groups of digits. -/
def ofGroups? (cs : List Char) : Option Guid :=
  let parts := fields '-' cs
  if parts.map List.length = groupLengths then
    (natural? 16 parts.flatten).map fun n => ⟨BitVec.ofNat 128 n⟩
  else none

/-- Reads an identifier, with or without braces, between any blanks. -/
def parse? (s : String) : Option Guid := ofGroups? (withoutBraces (trim s.toList))

/-- The order of identifiers is the order of their values. -/
def below (a b : Guid) : Bool := decide (a.value.toNat < b.value.toNat)

end Guid

end Typelib
