import Typelib.Digest.Blake3
import Typelib.Module.Name

/-!
# Sealed modules

A stored module is sealed: three lines before its source give the program that wrote it, the name
of the module and the digest of the source.  `readSealed` checks all three, so a text that was
edited or stored under another name does not open.  The line feed before an empty source may be
missing.
-/

namespace Typelib

/-- Why a sealed text does not open. -/
inductive SealError where
  | malformedHeader
  | nameMismatch (expected : ModuleName) (found : String)
  | checksumMismatch (expected computed : String)
  deriving DecidableEq

/-- What is wrong with a seal, in words. -/
def SealError.message : SealError → String
  | malformedHeader => "missing or malformed header"
  | nameMismatch expected found =>
    "module name mismatch: expected " ++ expected.text ++ ", found " ++ found
  | checksumMismatch expected computed =>
    "checksum mismatch: expected " ++ expected ++ ", computed " ++ computed

namespace Seal

/-- The first line of a sealed text. -/
def marker : String := "// @generated by tlbgen. Do not edit."

/-- The start of the line with the module's name. -/
def nameStart : String := "// module: "

/-- The start of the line with the digest. -/
def checksumStart : String := "// checksum: blake3:"

/-- The three lines before a source. -/
structure Header where
  marker : List Char
  nameLine : List Char
  checksumLine : List Char

/-- Cuts a sealed text into its three first lines and the source, which is empty if the text ends
with the third line. -/
def split? (text : List Char) : Option (Header × List Char) :=
  (Text.cut '\n' text).bind fun (marker, rest) =>
    (Text.cut '\n' rest).map fun (nameLine, rest) =>
      let (checksumLine, body) := (Text.cut '\n' rest).getD (rest, [])
      (⟨marker, nameLine, checksumLine⟩, body)

end Seal

open Seal

/-- The digest of a source. -/
def checksum (body : String) : String := Digest.hex body

/-- The text of a module with its seal. -/
def sealText (name : ModuleName) (body : String) : String :=
  marker ++ "\n" ++ nameStart ++ name.text ++ "\n" ++ checksumStart ++ checksum body ++ "\n" ++ body

/-- Checks the header of a sealed text against a name and the source. -/
def checkHeader (name : ModuleName) (header : Header) (body : String) : Except SealError String :=
  if header.marker ≠ marker.toList then .error .malformedHeader
  else match Text.afterStart nameStart.toList header.nameLine with
    | none => .error .malformedHeader
    | some found =>
      if found ≠ name.text.toList then .error (.nameMismatch name (String.ofList found))
      else match Text.afterStart checksumStart.toList header.checksumLine with
        | none => .error .malformedHeader
        | some expected =>
          let computed := checksum body
          if expected ≠ computed.toList then
            .error (.checksumMismatch (String.ofList expected) computed)
          else .ok body

/-- The source in a sealed text, if the seal is that of a module of the given name. -/
def readSealed (name : ModuleName) (text : String) : Except SealError String :=
  match split? text.toList with
  | none => .error .malformedHeader
  | some (header, body) => checkHeader name header (String.ofList body)

end Typelib
