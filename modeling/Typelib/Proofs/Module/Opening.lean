import Typelib.Proofs.Module.Name
import Typelib.Proofs.Module.Seal

/-!
# Which texts open

A sealed text says under which name it opens (`sealed_opens_under_name`), as long as that name has
no line feed; a name that has one opens nothing, since only its first line is read back
(`readSealed_sealText_of_mem`).

In the other direction the header settles almost everything: the marker, the name and the digest of
the source that follows are compared with what sealing writes.  Only the end of the header is not.
A text that opens is the sealed one, or it is the header of an empty source without its last line
feed (`readSealed_eq_ok_iff`), so exactly one text opens that sealing does not produce, and it is a
truncated one (`opened_eq_sealText_iff`, `header_alone_opens`).
-/

namespace Typelib

open Seal

variable {name other : ModuleName} {text body : String}

/-! ## Opening what was sealed -/

/-- Whatever the source is, a sealed text opens under its own name, and no other name opens it. -/
theorem sealed_opens_under_name (body : String) (h : '\n' ∉ name.text.toList) :
    readSealed other (sealText name body) =
      if other = name then .ok body else .error (.nameMismatch other name.text) := by
  split
  · rename_i heq
    rw [heq, readSealed_sealText body h]
  · rename_i hne
    have hfound : name.text.toList ≠ other.text.toList := fun htext =>
      hne (ModuleName.text_injective (String.toList_injective htext.symm))
    simp [readSealed, split?_sealText h, checkHeader, Text.afterStart_append, hfound]

/-- The source may itself look like a sealed text. -/
theorem sealed_opens_under_name_nested :
    '\n' ∉ (⟨"Acme"⟩ : ModuleName).text.toList ∧
      readSealed ⟨"Acme"⟩ (sealText ⟨"Acme"⟩ (sealText ⟨"Other"⟩ "\n")) =
        .ok (sealText ⟨"Other"⟩ "\n") ∧
      readSealed ⟨"Other"⟩ (sealText ⟨"Acme"⟩ (sealText ⟨"Other"⟩ "\n")) =
        .error (.nameMismatch ⟨"Other"⟩ "gen::Acme") := by
  have hline : '\n' ∉ (⟨"Acme"⟩ : ModuleName).text.toList := by decide
  have hopens (other : ModuleName) :
      readSealed other (sealText ⟨"Acme"⟩ (sealText ⟨"Other"⟩ "\n")) =
        if other = ⟨"Acme"⟩ then .ok (sealText ⟨"Other"⟩ "\n")
        else .error (.nameMismatch other "gen::Acme") :=
    sealed_opens_under_name (sealText ⟨"Other"⟩ "\n") hline
  exact ⟨hline, (hopens ⟨"Acme"⟩).trans (if_pos rfl),
    (hopens ⟨"Other"⟩).trans (if_neg (by decide))⟩

/-- Of a name with a line feed only the first line is read back. -/
theorem readSealed_sealText_of_mem {first rest : List Char} (body : String)
    (hname : name.text.toList = first ++ '\n' :: rest) (hfirst : '\n' ∉ first) :
    readSealed name (sealText name body) = .error (.nameMismatch name (String.ofList first)) := by
  have hline : '\n' ∉ nameStart.toList ++ first :=
    List.not_mem_append (by decide) hfirst
  have hne : first ≠ name.text.toList := by simp [hname]
  obtain ⟨checksumLine, source, hsplit⟩ : ∃ checksumLine source,
      split? (sealText name body).toList =
        some (⟨marker.toList, nameStart.toList ++ first, checksumLine⟩, source) := by
    rw [toList_sealText, hname, split?, Text.cut_append lineFeed_not_mem_marker]
    simp only [Option.bind_some, List.append_assoc, List.cons_append]
    rw [← List.append_assoc, Text.cut_append hline]
    exact ⟨_, _, rfl⟩
  simp [readSealed, hsplit, checkHeader, Text.afterStart_append, hne]

/-! ## What opens -/

theorem split?_eq_some_iff {cs source : List Char} {header : Header} :
    split? cs = some (header, source) ↔
      '\n' ∉ header.marker ∧ '\n' ∉ header.nameLine ∧ '\n' ∉ header.checksumLine ∧
        ∃ rest, cs = header.marker ++ '\n' :: (header.nameLine ++ '\n' :: rest) ∧
          (rest = header.checksumLine ++ '\n' :: source ∨
            source = [] ∧ rest = header.checksumLine) := by
  obtain ⟨first, second, third⟩ := header
  constructor
  · intro h
    obtain ⟨⟨m, afterMarker⟩, hmarker, hlines⟩ := Option.bind_eq_some_iff.mp h
    obtain ⟨⟨n, rest⟩, hname, hparts⟩ := Option.map_eq_some_iff.mp hlines
    obtain ⟨rfl, hfirst⟩ := Text.cut_eq_some_iff.mp hmarker
    obtain ⟨rfl, hsecond⟩ := Text.cut_eq_some_iff.mp hname
    rcases hcut : Text.cut '\n' rest with _ | ⟨c, after⟩
    · simp only [hcut, Option.getD_none, Prod.mk.injEq, Header.mk.injEq] at hparts
      obtain ⟨⟨rfl, rfl, rfl⟩, rfl⟩ := hparts
      exact ⟨hfirst, hsecond, Text.not_mem_of_cut_eq_none hcut, rest, rfl, .inr ⟨rfl, rfl⟩⟩
    · simp only [hcut, Option.getD_some, Prod.mk.injEq, Header.mk.injEq] at hparts
      obtain ⟨⟨rfl, rfl, rfl⟩, rfl⟩ := hparts
      obtain ⟨hrest, hthird⟩ := Text.cut_eq_some_iff.mp hcut
      exact ⟨hfirst, hsecond, hthird, rest, rfl, .inl hrest⟩
  · rintro ⟨hfirst, hsecond, hthird, rest, rfl, rfl | ⟨rfl, rfl⟩⟩
    · simp only [split?, Text.cut_append hfirst, Text.cut_append hsecond, Text.cut_append hthird,
        Option.bind_some, Option.map_some, Option.getD_some]
    · simp only [split?, Text.cut_append hfirst, Text.cut_append hsecond, Text.cut_eq_none hthird,
        Option.bind_some, Option.map_some, Option.getD_none]

/-- A header passes if it is the one that sealing writes. -/
theorem checkHeader_eq_ok_iff {header : Header} {source : String} :
    checkHeader name header source = .ok body ↔ source = body ∧
      header = ⟨marker.toList, nameStart.toList ++ name.text.toList,
        checksumStart.toList ++ (checksum body).toList⟩ := by
  obtain ⟨first, second, third⟩ := header
  constructor
  · intro h
    unfold checkHeader at h
    split at h
    · cases h
    · rename_i hmarker
      split at h
      · cases h
      · rename_i found hfound
        split at h
        · cases h
        · rename_i hname
          split at h
          · cases h
          · rename_i expected hexpected
            dsimp only at h
            split at h
            · cases h
            · rename_i hchecksum
              cases h
              rw [Text.afterStart_eq_some_iff, not_not.mp hname] at hfound
              rw [Text.afterStart_eq_some_iff, not_not.mp hchecksum] at hexpected
              exact ⟨rfl, by rw [← hfound, ← hexpected, ← not_not.mp hmarker]⟩
  · rintro ⟨rfl, hheader⟩
    obtain ⟨rfl, rfl, rfl⟩ := Header.mk.inj hheader
    simp [checkHeader, Text.afterStart_append]

/-- A text opens if it is cut into the three lines that sealing writes and the source. -/
theorem readSealed_eq_ok :
    readSealed name text = .ok body ↔
      split? text.toList = some (⟨marker.toList, nameStart.toList ++ name.text.toList,
        checksumStart.toList ++ (checksum body).toList⟩, body.toList) := by
  unfold readSealed
  rcases hsplit : split? text.toList with _ | ⟨header, source⟩
  · simp
  · simp only [checkHeader_eq_ok_iff, Option.some.injEq, Prod.mk.injEq]
    rw [and_comm, ← String.toList_inj, String.toList_ofList]

theorem ne_of_append_lineFeed {whole : String} (h : text ++ "\n" = whole) : text ≠ whole := by
  rintro rfl
  have hlength := congrArg (fun s => s.toList.length) h
  simp at hlength

/-- Without its last line feed, the sealed text of an empty source ends with the digest. -/
theorem append_lineFeed_eq_sealText_iff :
    text ++ "\n" = sealText name "" ↔
      text.toList = marker.toList ++ '\n' :: ((nameStart.toList ++ name.text.toList) ++ '\n' ::
        (checksumStart.toList ++ (checksum "").toList)) := by
  have hfeed : "\n".toList = ['\n'] := by decide
  have hend : (sealText name "").toList = (marker.toList ++ '\n' ::
      ((nameStart.toList ++ name.text.toList) ++ '\n' ::
        (checksumStart.toList ++ (checksum "").toList))) ++ ['\n'] := by
    rw [toList_sealText]
    simp
  rw [← String.toList_inj, String.toList_append, hfeed, hend, List.append_left_inj]

/-- The texts that open are the sealed ones, and the header of an empty source without its last line
feed. -/
theorem readSealed_eq_ok_iff :
    readSealed name text = .ok body ↔ '\n' ∉ name.text.toList ∧
      (text = sealText name body ∨ body = "" ∧ text ++ "\n" = sealText name "") := by
  rw [readSealed_eq_ok, split?_eq_some_iff]
  simp only [lineFeed_not_mem_nameLine, lineFeed_not_mem_marker, lineFeed_not_mem_checksumLine,
    not_false_eq_true, true_and]
  refine and_congr_right fun _ => ?_
  rw [append_lineFeed_eq_sealText_iff, ← String.toList_inj, toList_sealText,
    ← String.toList_eq_nil_iff]
  constructor
  · rintro ⟨rest, htext, rfl | ⟨hbody, rfl⟩⟩
    · exact .inl htext
    · refine .inr ⟨hbody, ?_⟩
      rwa [String.toList_eq_nil_iff.mp hbody] at htext
  · rintro (htext | ⟨hbody, htext⟩)
    · exact ⟨_, htext, .inl rfl⟩
    · refine ⟨_, htext, .inr ⟨hbody, ?_⟩⟩
      rw [String.toList_eq_nil_iff.mp hbody]

/-- A text that opens is the sealed one unless it lacks the line feed before an empty source. -/
theorem opened_eq_sealText_iff (h : readSealed name text = .ok body) :
    text = sealText name body ↔ body ≠ "" ∨ text.toList.getLast? = some '\n' := by
  obtain ⟨-, htext | ⟨rfl, htext⟩⟩ := readSealed_eq_ok_iff.mp h
  · refine iff_of_true htext ?_
    by_cases hbody : body = ""
    · right
      rw [htext, toList_sealText, hbody]
      simp [List.getLast?_append, List.getLast?_cons]
    · exact .inl hbody
  · refine iff_of_false (ne_of_append_lineFeed htext) ?_
    rintro (hbody | hlast)
    · exact hbody rfl
    -- what stands before the missing line feed is the end of a digest
    · have hend : text.toList = (marker.toList ++ '\n' :: (nameStart.toList ++ name.text.toList ++
          ['\n'])) ++ (checksumStart.toList ++ (checksum "").toList) := by
        rw [append_lineFeed_eq_sealText_iff.mp htext]
        simp
      have hnonempty : checksumStart.toList ++ (checksum "").toList ≠ [] :=
        List.append_ne_nil_of_left_ne_nil (by decide) _
      rw [hend, List.getLast?_append_of_ne_nil _ hnonempty] at hlast
      exact lineFeed_not_mem_checksumLine "" (List.mem_of_getLast? hlast)

/-! ## An empty source -/

theorem checksum_empty :
    checksum "" = "af1349b9f5f9a1a6a0404dea36dcc9499bcb25c9adc112b7cc9a93cae41f3262" := by
  decide +kernel

/-- The header of an empty source, without its last line feed. -/
def headerAlone : String :=
  "// @generated by tlbgen. Do not edit.\n// module: gen::Acme\n" ++
    "// checksum: blake3:af1349b9f5f9a1a6a0404dea36dcc9499bcb25c9adc112b7cc9a93cae41f3262"

theorem headerAlone_append : headerAlone ++ "\n" = sealText ⟨"Acme"⟩ "" := by
  rw [sealText, checksum_empty]
  decide +kernel

/-- With its last line feed it is the sealed text. -/
theorem opened_eq_sealText_empty :
    readSealed ⟨"Acme"⟩ (headerAlone ++ "\n") = .ok "" ∧
      (headerAlone ++ "\n").toList.getLast? = some '\n' ∧
      headerAlone ++ "\n" = sealText ⟨"Acme"⟩ "" := by
  have hopens : readSealed ⟨"Acme"⟩ (headerAlone ++ "\n") = .ok "" := by
    rw [headerAlone_append, readSealed_sealText "" (by decide)]
  have hlast : (headerAlone ++ "\n").toList.getLast? = some '\n' := by
    rw [String.toList_append, List.getLast?_append_of_ne_nil _ (by decide)]
    decide
  exact ⟨hopens, hlast, (opened_eq_sealText_iff hopens).mpr (.inr hlast)⟩

/-- It still opens when the last line feed has been cut off. -/
theorem header_alone_opens :
    readSealed ⟨"Acme"⟩ headerAlone = .ok "" ∧ headerAlone ++ "\n" = sealText ⟨"Acme"⟩ "" ∧
      headerAlone ≠ sealText ⟨"Acme"⟩ "" := by
  exact ⟨readSealed_eq_ok_iff.mpr ⟨by decide, .inr ⟨rfl, headerAlone_append⟩⟩,
    headerAlone_append, ne_of_append_lineFeed headerAlone_append⟩

end Typelib
