import Typelib.Identifier
import Typelib.Identity
import Typelib.Module.Name

/-!
# Names of the two modules of a library

The wrapper module of a library is named after the library's identity alone
(`Identity.wrapperStem`).  The friendly module is named after the name the library declares, so
several versions of a library share it; a library whose name has no letter and no digit has none,
and a name that would look like a wrapper's is refused (`friendlyName`).
-/

namespace Typelib

namespace Identity

/-- The stem of a library's wrapper module: identifier, locale and version. -/
def wrapperStem (i : Identity) : String :=
  "_" ++ String.ofList ((i.libid.separated '_').map Char.toUpper) ++
    s!"_{i.lcid.toNat}_{i.major.toNat}_{i.minor.toNat}"

/-- The name of a library's wrapper module. -/
def wrapperName (i : Identity) : ModuleName := ⟨i.wrapperStem⟩

end Identity

/-- The digits of hexadecimal numbers in upper case. -/
def isUpperHex (c : Char) : Bool := c.isDigit || ('A' ≤ c && c ≤ 'F')

/-- Whether the parts of a stem are five groups of hexadecimal digits and three numbers. -/
def areWrapperParts (parts : List (List Char)) : Bool :=
  let groups := parts.take 5
  let numbers := parts.drop 5
  groups.map List.length = Guid.groupLengths && groups.all (·.all isUpperHex) &&
    numbers.length = 3 && numbers.all fun part => part ≠ [] && part.all Char.isDigit

/-- Whether a stem has the shape of a wrapper's. -/
def isWrapperStem (stem : String) : Bool :=
  match stem.toList with
  | '_' :: rest => areWrapperParts (Text.fields '_' rest)
  | _ => false

/-- The name a library declares would give its friendly module the name of a wrapper. -/
structure NameCollision where
  declared : String
  taken : ModuleName
  deriving DecidableEq

/-- The message of a collision. -/
def NameCollision.message (e : NameCollision) : String :=
  "friendly name '" ++ e.declared ++ "' collides with generated module " ++ e.taken.text

/-- The stem of the friendly module for a declared name, if the name is usable. -/
def friendlyStem (declared : String) : Except NameCollision (Option String) :=
  if declared.toList.any isLetterOrDigit then
    let stem := identifier declared
    if isWrapperStem stem then .error ⟨declared, ⟨stem⟩⟩ else .ok (some stem)
  else .ok none

/-- The name of a library's friendly module, if it has one. -/
def friendlyName : Option String → Except NameCollision (Option ModuleName)
  | none => .ok none
  | some declared => (friendlyStem declared).map (Option.map ModuleName.mk)

end Typelib
