import Typelib.Proofs.Wrapper.Lines

/-!
# The names that lines declare

`declaredName?` reads the name that a line declares off its characters: the first word after `pub`
that says no kind, or the start of a private field.  In the lines of a declaration it finds the name
of the declaration and those of its parts (`Declaration.filterMap_lines`), and in a wrapper what the
declarations declare (`Wrapper.declaredNames_ofItems`).  The lines of every declaration stand in the
text of the wrapper as they are, one after the other (`Wrapper.shows_of_mem_declarations`).
-/

namespace Typelib

/-! ## Reading a line -/

/-- The characters at which a word of a line ends. -/
def wordEnds : List Char := [' ', ':', '(', ';']

/-- The word at the start of a line. -/
def firstWord (cs : List Char) : List Char := cs.takeWhile (· ∉ wordEnds)

/-- What comes after the first word and the character at its end. -/
def afterWord (cs : List Char) : List Char := (cs.dropWhile (· ∉ wordEnds)).drop 1

/-- The words for the kind of a declaration. -/
def kindWords : List String := ["struct", "type", "const", "mod"]

/-- The name that a line declares, if it declares one. -/
def declaredName? (line : String) : Option String :=
  let start := line.toList.dropWhile (· = ' ')
  let next := afterWord start
  if firstWord start = "pub".toList then
    if String.ofList (firstWord next) ∈ kindWords then
      some (String.ofList (firstWord (afterWord next)))
    else some (String.ofList (firstWord next))
  else if (start.dropWhile (· ∉ wordEnds)).head? = some ':' then
    some (String.ofList (firstWord start))
  else none

variable {word rest : List Char} {c : Char} {kind name line : String}

theorem firstWord_append (hword : ∀ c ∈ word, c ∉ wordEnds) (hc : c ∈ wordEnds) :
    firstWord (word ++ c :: rest) = word := by
  rw [firstWord, List.takeWhile_append_of_pos (by simpa using hword), List.takeWhile_cons]
  simp [hc]

theorem afterWord_append (hword : ∀ c ∈ word, c ∉ wordEnds) (hc : c ∈ wordEnds) :
    afterWord (word ++ c :: rest) = rest := by
  rw [afterWord, List.dropWhile_append_of_pos (by simpa using hword), List.dropWhile_cons]
  simp [hc]

theorem IsIdentifier.not_wordEnd (h : IsIdentifier name) : ∀ c ∈ name.toList, c ∉ wordEnds := by
  have hends : wordEnds.all (!isIdentifierChar ·) := by decide
  intro c hc hend
  have hchar := List.all_eq_true.mp hends c hend
  rw [h.chars c hc] at hchar
  cases hchar

theorem not_wordEnd_of_keyword {word : String} (h : word ∈ keywords) :
    ∀ c ∈ word.toList, c ∉ wordEnds := by
  have hwords : ∀ word ∈ keywords, word.toList.all (· ∉ wordEnds) := by decide
  simpa using hwords word h

theorem kindWords_subset : ∀ kind ∈ kindWords, kind ∈ keywords := by decide

/-- After `pub` and the word for a kind stands the name. -/
theorem declaredName?_kind (kind : String) (hkind : kind ∈ kindWords) (hname : IsIdentifier name)
    (hc : c ∈ wordEnds)
    (h : ("pub " ++ kind ++ " " ++ name).toList ++ [c] <+: line.toList.dropWhile (· = ' ')) :
    declaredName? line = some name := by
  obtain ⟨rest, hrest⟩ := h
  have hstart : line.toList.dropWhile (· = ' ') =
      "pub".toList ++ ' ' :: (kind.toList ++ ' ' :: (name.toList ++ c :: rest)) := by
    rw [← hrest]
    simp
  have hpub : ∀ c ∈ "pub".toList, c ∉ wordEnds := not_wordEnd_of_keyword (by decide)
  have hkind' := not_wordEnd_of_keyword (kindWords_subset kind hkind)
  have hblank : ' ' ∈ wordEnds := by decide
  simp only [declaredName?, hstart, firstWord_append hpub hblank, afterWord_append hpub hblank,
    firstWord_append hkind' hblank, afterWord_append hkind' hblank,
    firstWord_append hname.not_wordEnd hc, String.ofList_toList, if_pos hkind, if_true]

/-- After `pub` alone stands the name of a field. -/
theorem declaredName?_field (hname : IsIdentifier name)
    (h : ("pub " ++ name ++ ":").toList <+: line.toList.dropWhile (· = ' ')) :
    declaredName? line = some name := by
  obtain ⟨rest, hrest⟩ := h
  have hstart : line.toList.dropWhile (· = ' ') =
      "pub".toList ++ ' ' :: (name.toList ++ ':' :: rest) := by
    rw [← hrest]
    simp
  have hpub : ∀ c ∈ "pub".toList, c ∉ wordEnds := not_wordEnd_of_keyword (by decide)
  have hends : ' ' ∈ wordEnds ∧ ':' ∈ wordEnds := by decide
  -- a word for a kind is a keyword, so no field is called by one
  have hkind : name ∉ kindWords := fun hmem => hname.notKeyword (kindWords_subset name hmem)
  simp only [declaredName?, hstart, firstWord_append hpub hends.1, afterWord_append hpub hends.1,
    firstWord_append hname.not_wordEnd hends.2, String.ofList_toList, if_neg hkind, if_true]

/-- A line that starts with another word declares nothing. -/
theorem declaredName?_none (word : String) (hword : word.toList.all (· ∉ wordEnds))
    (hpub : word ≠ "pub") (hc : c ∈ wordEnds) (hcolon : c ≠ ':')
    (h : word.toList ++ [c] <+: line.toList.dropWhile (· = ' ')) : declaredName? line = none := by
  obtain ⟨rest, hrest⟩ := h
  have hstart : line.toList.dropWhile (· = ' ') = word.toList ++ c :: rest := by
    rw [← hrest, List.append_assoc, List.singleton_append]
  have hfirst : ∀ c ∈ word.toList, c ∉ wordEnds := by simpa using hword
  have hafter : ((word.toList ++ c :: rest).dropWhile (· ∉ wordEnds)).head? = some c := by
    rw [List.dropWhile_append_of_pos (by simpa using hfirst), List.dropWhile_cons]
    simp [hc]
  have hpub' : word.toList ≠ "pub".toList := fun heq => hpub (String.toList_injective heq)
  simp only [declaredName?, hstart, firstWord_append hfirst hc, hafter, if_neg hpub',
    Option.some.injEq, if_neg hcolon]

/-! ## The lines of a declaration -/

namespace Declaration

/-- The name that a declaration declares for itself. -/
def ownName? : Declaration → Option String
  | handle name _ | unit name | record name _ | hollow name | vtable name .. | typeAlias name _
  | guid name _ _ | member name _ _ | constants name _ => some name
  | comment .. | memberNumbers .. | labels .. => none

/-- The names that a declaration declares for its parts: fields, slots and constants inside. -/
def parts : Declaration → List String
  | record _ fields => fields.map Prod.fst
  | hollow _ => ["_opaque"]
  | vtable _ _ _ _ slots => "base__" :: slots.map Slot.name
  | memberNumbers _ values => values.map fun v => "DISPID_" ++ v.1
  | labels .. => ["INTERFACES"]
  | constants _ values => values.map Prod.fst
  | handle .. | unit _ | typeAlias .. | guid .. | member .. | comment .. => []

variable {d : Declaration} {head : String} {inner : List String} {type value tail : String}

theorem declaredName?_struct (hname : IsIdentifier name) (hc : c ∈ wordEnds)
    (h : [c] <+: tail.toList) : declaredName? ("pub struct " ++ name ++ tail) = some name :=
  declaredName?_kind "struct" (by decide) hname hc (by simpa using h)

theorem declaredName?_constantLine (hname : IsIdentifier name) :
    declaredName? (constantLine name type value) = some name :=
  declaredName?_kind "const" (c := ':') (by decide) hname (by decide) (by simp [constantLine])

theorem declaredName?_fieldLine {content : TypeExpr} (hname : IsIdentifier name) :
    declaredName? (fieldLine name content) = some name :=
  declaredName?_field hname (by simp [fieldLine])

theorem declaredName?_slotLine {object status : TypeExpr} {s : Slot} (hname : IsIdentifier s.name) :
    declaredName? (s.line object status) = some s.name :=
  declaredName?_field hname (by simp [Slot.line])

/-- Blanks before a line do not matter. -/
theorem declaredName?_indented : declaredName? ("    " ++ line) = declaredName? line := by
  simp [declaredName?]

theorem filterMap_block :
    (block head inner).filterMap declaredName? =
      (declaredName? (head ++ " \x7b")).toList ++ inner.filterMap declaredName? := by
  have hclose : declaredName? "\x7d" = none := by decide
  cases h : declaredName? (head ++ " \x7b") <;> simp [block, h, hclose, List.filterMap_append]

/-- The lines of parts that declare their names one by one. -/
theorem filterMap_parts {α : Type} {parts : List α} {line : α → String} {part : α → String}
    (h : ∀ a ∈ parts, declaredName? (line a) = some (part a)) :
    (parts.map line).filterMap declaredName? = parts.map part := by
  have hsome : parts.filterMap (declaredName? ∘ line) = parts.filterMap (some ∘ part) :=
    List.filterMap_congr h
  rw [List.filterMap_map, hsome, List.filterMap_eq_map]

theorem declaredName?_comment (isDoc : Bool) (text : String) :
    declaredName? ((if isDoc then "/// " else "// ") ++ text) = none := by
  have hblank : ' ' ∈ wordEnds := by decide
  cases isDoc
  · exact declaredName?_none "//" (by decide) (by decide) hblank (by decide) (by simp)
  · exact declaredName?_none "///" (by decide) (by decide) hblank (by decide) (by simp)

theorem declaredName?_handle {content : String} (hname : IsIdentifier name) :
    declaredName? ("pub struct " ++ name ++ "(pub " ++ content ++ ");") = some name := by
  simp only [String.append_assoc]
  exact declaredName?_kind "struct" (c := '(') (by decide) hname (by decide) (by simp)

theorem declaredName?_unit (hname : IsIdentifier name) :
    declaredName? ("pub struct " ++ name ++ ";") = some name :=
  declaredName?_struct (c := ';') hname (by decide) (by simp)

theorem declaredName?_typeAlias {target : String} (hname : IsIdentifier name) :
    declaredName? ("pub type " ++ name ++ " = " ++ target ++ ";") = some name :=
  declaredName?_kind "type" (c := ' ') (by decide) hname (by decide) (by simp)

/-- The lines of a structure declare its name, and what its content does. -/
theorem filterMap_struct (hname : IsIdentifier name) :
    ("#[repr(C)]" :: block ("pub struct " ++ name) inner).filterMap declaredName? =
      name :: inner.filterMap declaredName? := by
  have hlayout : declaredName? "#[repr(C)]" = none := by decide
  have hhead : declaredName? ("pub struct " ++ name ++ " \x7b") = some name :=
    declaredName?_struct (c := ' ') hname (by decide) (by simp)
  rw [List.filterMap_cons_none hlayout, filterMap_block, hhead]
  rfl

/-- What is added to a structure has no name of its own. -/
theorem filterMap_impl (owner : String) :
    (block ("impl " ++ owner) inner).filterMap declaredName? = inner.filterMap declaredName? := by
  have hhead : declaredName? ("impl " ++ owner ++ " \x7b") = none :=
    declaredName?_none "impl" (c := ' ') (by decide) (by decide) (by decide) (by decide) (by simp)
  rw [filterMap_block, hhead]
  rfl

theorem filterMap_mod (hname : IsIdentifier name) :
    (block ("pub mod " ++ name) inner).filterMap declaredName? =
      name :: inner.filterMap declaredName? := by
  have hhead : declaredName? ("pub mod " ++ name ++ " \x7b") = some name :=
    declaredName?_kind "mod" (c := ' ') (by decide) hname (by decide) (by simp)
  rw [filterMap_block, hhead]
  rfl

/-- The lines of constants inside of something else. -/
theorem filterMap_constantLines {α : Type} {values : List α} {ident type content : α → String}
    (h : ∀ v ∈ values, IsIdentifier (ident v)) :
    (values.map fun v => "    " ++ constantLine (ident v) (type v) (content v)).filterMap
      declaredName? = values.map ident := by
  refine filterMap_parts fun v hv => ?_
  rw [declaredName?_indented]
  exact declaredName?_constantLine (h v hv)

theorem filterMap_record {fields : List (String × TypeExpr)} (hname : IsIdentifier name)
    (hfields : ∀ f ∈ fields, IsIdentifier f.1) :
    (record name fields).lines.filterMap declaredName? = name :: fields.map Prod.fst := by
  rw [lines, filterMap_struct hname]
  exact congrArg (name :: ·) (filterMap_parts fun f hf => declaredName?_fieldLine (hfields f hf))

theorem filterMap_vtable {base object status : TypeExpr} {slots : List Slot}
    (hname : IsIdentifier name) (hslots : ∀ s ∈ slots, IsIdentifier s.name) :
    (vtable name base object status slots).lines.filterMap declaredName? =
      name :: "base__" :: slots.map Slot.name := by
  have hbase : declaredName? (fieldLine "base__" base) = some "base__" :=
    declaredName?_fieldLine (by decide)
  rw [lines, filterMap_struct hname, List.filterMap_cons_some hbase]
  refine congrArg (name :: "base__" :: ·) (filterMap_parts fun s hs => ?_)
  exact declaredName?_slotLine (hslots s hs)

theorem filterMap_hollow (hname : IsIdentifier name) :
    (hollow name).lines.filterMap declaredName? = [name, "_opaque"] := by
  rw [lines, filterMap_struct hname]
  exact congrArg (name :: ·) (by decide)

/-- The names that the lines of a declaration declare. -/
theorem filterMap_lines (h : ∀ ident ∈ d.idents, IsIdentifier ident) :
    d.lines.filterMap declaredName? = d.ownName?.toList ++ d.parts := by
  cases d with
  | comment isDoc text => simp [lines, ownName?, parts, declaredName?_comment]
  | handle name content =>
    have hlayout : declaredName? "#[repr(transparent)]" = none := by decide
    simp [lines, ownName?, parts, hlayout, declaredName?_handle (h name List.mem_cons_self)]
  | unit name => simp [lines, ownName?, parts, declaredName?_unit (h name List.mem_cons_self)]
  | record name fields =>
    refine filterMap_record (h name List.mem_cons_self) fun f hf => ?_
    exact h f.1 (.tail _ (List.mem_map_of_mem hf))
  | hollow name => exact filterMap_hollow (h name List.mem_cons_self)
  | vtable name base object status slots =>
    refine filterMap_vtable (h name List.mem_cons_self) fun s hs => ?_
    exact h s.name (.tail _ (List.mem_flatMap.mpr ⟨s, hs, List.mem_cons_self⟩))
  | typeAlias name target =>
    simp [lines, ownName?, parts, declaredName?_typeAlias (h name List.mem_cons_self)]
  | guid name type value | member name owner value =>
    simp [lines, ownName?, parts, declaredName?_constantLine (h name List.mem_cons_self)]
  | memberNumbers owner values =>
    rw [lines, filterMap_impl]
    refine filterMap_constantLines fun v hv => ?_
    have hword : IsIdentifier "DISPID" := by decide
    exact hword.joined (h v.1 (.tail _ (List.mem_map_of_mem hv))).chars
  | labels owner values =>
    rw [lines, filterMap_impl]
    have hname : IsIdentifier "INTERFACES" := by decide
    simp [ownName?, parts, declaredName?_indented, declaredName?_constantLine hname]
  | constants name values =>
    rw [lines, filterMap_mod (h name List.mem_cons_self)]
    refine congrArg (name :: ·) (filterMap_constantLines fun v hv => ?_)
    exact h v.1 (.tail _ (List.mem_map_of_mem hv))

end Declaration

/-! ## The lines of a wrapper -/

namespace Wrapper

/-- The names that the lines of a wrapper declare. -/
def declaredNames (w : Wrapper) : List String := w.lines.filterMap declaredName?

theorem declaredName?_importLine (i : Import) : declaredName? (importLine i) = none := by
  have huse (text : String) : declaredName? ("use " ++ text) = none :=
    declaredName?_none "use" (c := ' ') (by decide) (by decide) (by decide) (by decide) (by simp)
  unfold importLine
  split
  · simp only [String.append_assoc, huse]
  · simp only [String.append_assoc, huse]

/-- The lines before the declarations declare nothing. -/
theorem filterMap_front (w : Wrapper) :
    (w.headLines ++ w.importLines).filterMap declaredName? = [] := by
  have hcomment (text : String) : declaredName? ("//! " ++ text) = none :=
    declaredName?_none "//!" (c := ' ') (by decide) (by decide) (by decide) (by decide) (by simp)
  have htitle : declaredName? ("//! Wrapper module for type library " ++ w.library.text ++ ".") =
      none := by
    rw [String.append_assoc]
    exact hcomment ("Wrapper module for type library " ++ (w.library.text ++ "."))
  have hsource : declaredName? ("//! Source: " ++ (w.source.map Path.text).getD "<no file>") =
      none := hcomment ("Source: " ++ (w.source.map Path.text).getD "<no file>")
  have hplain : ∀ line ∈ ["//!", "",
      "#![allow(non_camel_case_types, non_snake_case, non_upper_case_globals, dead_code)]"],
      declaredName? line = none := by decide
  refine List.filterMap_eq_nil_iff.mpr fun line hline => ?_
  rcases List.mem_append.mp hline with hline | hline
  · simp only [headLines, List.mem_cons, List.not_mem_nil, or_false] at hline
    rcases hline with rfl | rfl | rfl | rfl | rfl
    · exact htitle
    · exact hplain _ (by simp)
    · exact hsource
    · exact hplain _ (by simp)
    · exact hplain _ (by simp)
  · unfold importLines at hline
    split at hline
    · cases hline
    · rcases List.mem_append.mp hline with hline | hline
      · obtain ⟨i, -, rfl⟩ := List.mem_map.mp hline
        exact declaredName?_importLine i
      · rw [List.mem_singleton.mp hline]
        exact hplain _ (by simp)

/-- The lines of a declaration stand in the wrapper one after the other, and the last line, which
is empty, is none of them. -/
theorem lines_isInfix_dropLast {w : Wrapper} {decl : Declaration} (h : decl ∈ w.declarations) :
    decl.lines <:+: w.lines.dropLast := by
  obtain ⟨decls, hdecls, hdecl⟩ := List.mem_flatten.mp h
  obtain ⟨before, after, hsections⟩ := List.append_of_mem hdecls
  have hsplit : w.lines =
      (w.headLines ++ w.importLines ++ before.flatMap sectionLines) ++
        (decls.flatMap Declaration.lines ++ ("" :: after.flatMap sectionLines)) := by
    simp [lines, hsections, sectionLines]
  rw [hsplit, List.dropLast_append_of_ne_nil (by simp),
    List.dropLast_append_of_ne_nil (List.cons_ne_nil _ _)]
  have hblock : [decl].flatMap Declaration.lines <:+: decls.flatMap Declaration.lines :=
    List.IsInfix.flatMap ((List.singleton_infix_iff decl decls).mpr hdecl) _
  rw [List.flatMap_singleton] at hblock
  exact hblock.trans (List.infix_append' _ _ _)

variable {library : Identity} {items : Items} {known : Symbols} {source : Option Path}

/-- What the lines of a wrapper declare is what its declarations declare. -/
theorem declaredNames_ofItems :
    (ofItems library items known source).declaredNames =
      (ofItems library items known source).declarations.flatMap fun d =>
        d.ownName?.toList ++ d.parts := by
  have hdecl : ∀ d ∈ (ofItems library items known source).declarations,
      d.lines.filterMap declaredName? = d.ownName?.toList ++ d.parts := fun d hd =>
    Declaration.filterMap_lines (idents_sound hd)
  have hblank : declaredName? "" = none := by decide
  rw [declaredNames, lines, List.filterMap_append, filterMap_front, List.nil_append,
    List.filterMap_flatMap, declarations, List.flatten_eq_flatMap, List.flatMap_assoc]
  refine List.flatMap_congr fun decls hdecls => ?_
  rw [sectionLines, List.filterMap_append, List.filterMap_flatMap, List.filterMap_cons, hblank,
    List.filterMap_nil, List.append_nil]
  exact List.flatMap_congr fun d hd => hdecl d (List.mem_flatten.mpr ⟨decls, hdecls, hd⟩)

/-- Whether lines stand in a wrapper one after the other, and in its text each with a line feed. -/
def Shows (w : Wrapper) (lines : List String) : Prop :=
  lines <:+: w.lines ∧ ofLines lines <:+: w.text.toList

/-- A wrapper shows its declarations. -/
theorem shows_of_mem_declarations {decl : Declaration}
    (h : decl ∈ (ofItems library items known source).declarations) :
    (ofItems library items known source).Shows decl.lines := by
  have hlines := lines_isInfix_dropLast h
  refine ⟨hlines.trans (List.dropLast_prefix _).isInfix, ?_⟩
  rw [toList_text]
  exact hlines.flatMap _

/-- An item that is no known symbol has its declarations in the wrapper. -/
theorem mem_declarations_of_novel {item : Item} (h : item ∈ items.novel known) {decl : Declaration}
    (hdecl : ∀ d, decl ∈ ((Scope.of library items known).declareItem item d).declarations) :
    decl ∈ (ofItems library items known source).declarations := by
  obtain ⟨hvalue, hnovel⟩ := Items.mem_novel.mp h
  obtain ⟨before, -, hsection⟩ := Scope.exists_section hvalue
    (Scope.of library items known).names.taken
  rw [Scope.declare_novel (.of library items known) hnovel] at hsection
  exact mem_declarations_ofItems.mpr (.inl (hsection (hdecl _)))

end Wrapper

end Typelib
