import Typelib.Identifier
import Typelib.Module.Seal
import Typelib.Proofs.Text.Digits
import Typelib.Proofs.Text.Segments

/-!
# A sealed source is read back

The three lines of a seal hold no line feed of their own: the marker is fixed, the name is free
of line feeds by hypothesis, and a digest is written in hexadecimal digits
(`lineFeed_not_mem_checksum`).  So the three cuts of `Seal.split?` find the lines that
`sealText` wrote (`split?_sealText`), whatever the source is, and `readSealed_sealText` follows.
-/

namespace Typelib

open Seal

/-- The name of a generated module has no line feed. -/
theorem lineFeed_not_mem_text {name : ModuleName} (h : IsIdentifier name.member) :
    '\n' ∉ name.text.toList := by
  have hmember : '\n' ∉ name.member.toList := fun hmem => absurd (h.chars _ hmem) (by decide)
  have hpackage : '\n' ∉ (ModuleName.package ++ "::").toList := by decide
  rw [ModuleName.text, String.toList_append]
  exact List.not_mem_append hpackage hmember

theorem lineFeed_not_mem_checksum (body : String) : '\n' ∉ (checksum body).toList := by
  have hdigit : ∀ d < 16, '\n' ≠ Nat.digitChar d := by decide
  intro hmem
  simp only [checksum, Digest.hex, String.toList_ofList, List.mem_flatMap, Digest.wordHex] at hmem
  obtain ⟨word, -, shift, -, hmem⟩ := hmem
  obtain ⟨d, hd, heq⟩ := Text.mem_fixedHex hmem
  exact hdigit d hd heq

/-- A sealed text is its three lines and the source. -/
theorem toList_sealText (name : ModuleName) (body : String) :
    (sealText name body).toList =
      marker.toList ++ '\n' :: ((nameStart.toList ++ name.text.toList) ++ '\n' ::
        ((checksumStart.toList ++ (checksum body).toList) ++ '\n' :: body.toList)) := by
  have hfeed : "\n".toList = ['\n'] := by decide
  simp [sealText, hfeed]

theorem lineFeed_not_mem_marker : '\n' ∉ marker.toList := by decide

theorem lineFeed_not_mem_nameLine {name : ModuleName} :
    '\n' ∉ nameStart.toList ++ name.text.toList ↔ '\n' ∉ name.text.toList := by
  have hstart : '\n' ∉ nameStart.toList := by decide
  rw [List.mem_append, not_or, and_iff_right hstart]

theorem lineFeed_not_mem_checksumLine (body : String) :
    '\n' ∉ checksumStart.toList ++ (checksum body).toList :=
  List.not_mem_append (by decide) (lineFeed_not_mem_checksum body)

theorem split?_sealText {name : ModuleName} {body : String} (h : '\n' ∉ name.text.toList) :
    split? (sealText name body).toList =
      some (⟨marker.toList, nameStart.toList ++ name.text.toList,
        checksumStart.toList ++ (checksum body).toList⟩, body.toList) := by
  rw [toList_sealText, split?, Text.cut_append lineFeed_not_mem_marker]
  simp only [Option.bind_some, Text.cut_append (lineFeed_not_mem_nameLine.mpr h),
    Text.cut_append (lineFeed_not_mem_checksumLine body), Option.map_some, Option.getD_some]

/-- A sealed source opens under its own name. -/
theorem readSealed_sealText {name : ModuleName} (body : String) (h : '\n' ∉ name.text.toList) :
    readSealed name (sealText name body) = .ok body := by
  simp [readSealed, split?_sealText h, checkHeader, Text.afterStart_append]

end Typelib
