import Typelib.Proofs.Naming.Stems
import Typelib.Proofs.Wrapper.Siblings

/-!
# Paths in texts

In a text, `PathsLead` to the modules of some stems if every path out of its own module that can be
read in it leads to one of them.  In the text of a type they do as soon as they do in its names, and
the paths that the structure of the type has lead there (`TypeExpr.pathsLead_text`): what a type
puts between its parts is in no path, and a stem has no letter in which another path could start.
-/

namespace Typelib

/-! ## Where a text occurs in another -/

namespace Text

variable {α : Type} {xs ys part front back : List α} {c : α}

/-- What occurs around an element that it does not have occurs on one side of it. -/
theorem occurs_append_cons (hc : c ∉ part) (h : xs ++ c :: ys = front ++ part ++ back) :
    (∃ rest, xs = front ++ part ++ rest ∧ back = rest ++ c :: ys) ∨
      ∃ rest, ys = rest ++ part ++ back ∧ front = xs ++ c :: rest := by
  rcases List.append_eq_append_iff.mp h with ⟨rest, hfront, hrest⟩ | ⟨rest, hxs, hback⟩
  · rcases List.cons_eq_append_iff.mp hrest with ⟨rfl, hback⟩ | ⟨more, rfl, hys⟩
    · exact .inl ⟨[], by rw [hfront, List.append_nil, List.append_nil], hback⟩
    · -- the element belongs to what stands in front
      rcases List.append_eq_append_iff.mp hfront with ⟨as, -, hpart⟩ | ⟨as, hfront, hcons⟩
      · exact absurd (hpart ▸ List.mem_append_right _ List.mem_cons_self) hc
      · rcases List.cons_eq_append_iff.mp hcons with ⟨rfl, hpart⟩ | ⟨rest, rfl, hmore⟩
        · exact absurd (hpart ▸ List.mem_cons_self) hc
        · exact .inr ⟨rest, by rw [hys, hmore], hfront⟩
  · exact .inl ⟨rest, hxs, hback⟩

end Text

/-! ## Paths that lead out of a module -/

/-- What a path that leads out of a module starts with. -/
def pathStart : List Char := "super::".toList

/-- Every path in a text that leads out of its module leads to one of the modules of some stems. -/
def PathsLead (stems : List String) (text : List Char) : Prop :=
  ∀ front back, text = front ++ pathStart ++ back →
    ∃ stem ∈ stems, ∃ ident, IsIdentifier ident ∧ (stem ++ "::" ++ ident).toList <+: back

namespace PathsLead

variable {stems : List String} {xs ys : List Char} {c : Char}

/-- Where there is no path, every path leads wherever it should. -/
theorem of_nil (h : PathsLead [] xs) : PathsLead stems xs := by
  intro front back heq
  obtain ⟨stem, hstem, -⟩ := h front back heq
  cases hstem

/-- Without a colon there is no path. -/
theorem of_not_mem (h : ':' ∉ xs) : PathsLead stems xs := by
  intro front back heq
  refine absurd ?_ h
  rw [heq]
  exact List.mem_append_left _ (List.mem_append_right _ (by decide))

theorem of_isIdentifier {ident : String} (h : IsIdentifier ident) : PathsLead stems ident.toList :=
  of_not_mem fun hcolon => absurd (h.chars _ hcolon) (by decide)

/-- No path starts in the first part of a text, or goes on in the second. -/
theorem not_occurs {front back : List Char} (hxs : 's' ∉ xs) (hys : ':' ∉ ys) :
    xs ++ ys ≠ front ++ pathStart ++ back := by
  intro heq
  have hcolon : ':' ∈ pathStart ++ back := List.mem_append_left _ (by decide)
  rw [List.append_assoc] at heq
  rcases List.append_eq_append_iff.mp heq with ⟨as, -, rfl⟩ | ⟨as, rfl, hback⟩
  · exact hys (List.mem_append_right _ hcolon)
  · rcases as with _ | ⟨c, as⟩
    · rw [List.nil_append] at hback
      exact hys (hback ▸ hcolon)
    · obtain rfl : 's' = c := (List.cons.inj hback).1
      exact hxs (List.mem_append_right _ List.mem_cons_self)

/-- A character of no path tells the paths on its sides apart. -/
theorem append_cons (hxs : PathsLead stems xs) (hys : PathsLead stems ys) (hc : c ∉ pathStart) :
    PathsLead stems (xs ++ c :: ys) := by
  intro front back heq
  rcases Text.occurs_append_cons hc heq with ⟨rest, hleft, rfl⟩ | ⟨rest, hright, -⟩
  · obtain ⟨stem, hstem, ident, hident, hprefix⟩ := hxs front rest hleft
    exact ⟨stem, hstem, ident, hident, hprefix.trans (List.prefix_append _ _)⟩
  · exact hys rest back hright

/-- The text of a path, in whose stem no path can start. -/
theorem path {stem ident : String} (hmem : stem ∈ stems) (hstem : 's' ∉ stem.toList)
    (hident : IsIdentifier ident) :
    PathsLead stems ("super::" ++ stem ++ "::" ++ ident).toList := by
  intro front back heq
  have hsplit : ("super::" ++ stem ++ "::" ++ ident).toList =
      pathStart ++ (stem ++ "::" ++ ident).toList := by
    rw [String.append_assoc, String.append_assoc, ← @String.append_assoc stem, String.toList_append]
    rfl
  rw [hsplit] at heq
  rcases front with _ | ⟨c, front⟩
  · refine ⟨stem, hmem, ident, hident, ?_⟩
    rw [List.append_cancel_left heq]
  · -- a path that starts later would have to start in the stem
    have hlater : pathStart.tail ++ (stem ++ "::").toList ++ ident.toList =
        front ++ pathStart ++ back := by
      rw [List.append_assoc, ← String.toList_append]
      exact (List.cons.inj heq).2
    refine absurd hlater (not_occurs ?_ ?_)
    · have hown : 's' ∉ pathStart.tail ∧ 's' ∉ "::".toList := by decide
      rw [List.mem_append, String.toList_append, List.mem_append]
      exact not_or.mpr ⟨hown.1, not_or.mpr ⟨hstem, hown.2⟩⟩
    · exact fun hcolon => absurd (hident.chars _ hcolon) (by decide)

end PathsLead

namespace TypeExpr

variable {stems : List String}

/-- Paths in the text of a type are those of its structure. -/
theorem pathsLead_text {type : TypeExpr}
    (hnames : ∀ ref ∈ type.names, PathsLead stems ref.ident.toList)
    (hpaths : ∀ path ∈ type.paths, ∃ stem ∈ stems, ∃ ident, IsIdentifier ident ∧
      path = .sibling stem ident)
    (hstems : ∀ stem ∈ stems, 's' ∉ stem.toList) : PathsLead stems type.text.toList := by
  induction type with
  | unit => exact .of_not_mem (by decide)
  | primitive type =>
    refine .of_not_mem ?_
    cases type <;> decide
  | name ref => exact hnames ref List.mem_cons_self
  | sibling stem ident =>
    obtain ⟨stem, hstem, ident, hident, heq⟩ := hpaths _ List.mem_cons_self
    obtain ⟨rfl, rfl⟩ := TypeExpr.sibling.inj heq
    exact .path hstem (hstems _ hstem) hident
  | pointer target ih =>
    have htext : (pointer target).text.toList =
        ['*', 'm', 'u', 't'] ++ ' ' :: target.text.toList := by
      simp [text]
    rw [htext]
    exact .append_cons (.of_not_mem (by decide)) (ih hnames hpaths) (by decide)
  | array element length ih =>
    have htext : (array element length).text.toList =
        [] ++ '[' :: (element.text.toList ++
          ';' :: ' ' :: ((toString length.toNat).toList ++ [']'])) := by
      simp [text]
    rw [htext]
    refine .append_cons (.of_not_mem (by decide))
      (.append_cons (ih hnames hpaths) (.of_not_mem fun hcolon => ?_) (by decide)) (by decide)
    simp only [List.mem_cons, List.mem_append, List.not_mem_nil, or_false] at hcolon
    rcases hcolon with hblank | hdigit | hclose
    · exact absurd hblank (by decide)
    · rw [Text.toList_toString] at hdigit
      exact absurd (Nat.isDigit_of_mem_toDigits (by decide) (by decide) hdigit) (by decide)
    · exact absurd hclose (by decide)

end TypeExpr

end Typelib
