import Typelib.Proofs.Wrapper.Comments

/-!
# The lines of a wrapper's text

The text of a wrapper is its lines but for the last one, which is empty; so it ends with one line
feed (`Wrapper.toList_text`).  The lines read off the text are these lines exactly when no copied
text and no name or owner in an import has a line feed in it (`Wrapper.fields_text_iff`); one that
has starts a line of its own, and what follows is part of the source (`Wrapper.injected_escapes`).
-/

namespace Typelib

/-! ## Ends of lines -/

namespace Declaration

variable {head line : String} {inner : List String} {d : Declaration}

theorem hasEnd_block (hinner : ∀ text ∈ inner, HasEnd text) (h : line ∈ block head inner) :
    HasEnd line := by
  have hends : HasEnd " \x7b" ∧ HasEnd "\x7d" := by decide
  simp only [block, List.cons_append, List.mem_cons, List.mem_append, List.not_mem_nil,
    or_false] at h
  rcases h with rfl | h | rfl
  · exact hends.1.append head
  · exact hinner line h
  · exact hends.2

theorem hasEnd_struct (hinner : ∀ text ∈ inner, HasEnd text)
    (h : line ∈ "#[repr(C)]" :: block head inner) : HasEnd line := by
  rcases List.mem_cons.mp h with rfl | h
  · decide
  · exact hasEnd_block hinner h

/-- Lines that end with a comma. -/
theorem hasEnd_commas {α : Type} {parts : List α} {front : α → String} :
    ∀ text ∈ parts.map fun part => front part ++ ",", HasEnd text := by
  have hcomma : HasEnd "," := by decide
  intro text htext
  obtain ⟨part, -, rfl⟩ := List.mem_map.mp htext
  exact hcomma.append _

/-- The lines of a declaration have ends if it is no comment without one. -/
theorem hasEnd_of_mem_lines (hcomment : ∀ isDoc text, d = .comment isDoc text → HasEnd text)
    (h : line ∈ d.lines) : HasEnd line := by
  have hlayout : HasEnd "#[repr(transparent)]" := by decide
  have hcomma : HasEnd "," := by decide
  have hsemicolon : HasEnd ";" ∧ HasEnd ");" := by decide
  have hconstant (name type value : String) : HasEnd (constantLine name type value) :=
    hsemicolon.1.append _
  cases d with
  | comment isDoc text =>
    rw [List.mem_singleton.mp h]
    exact (hcomment isDoc text rfl).append _
  | handle name content =>
    simp only [lines, List.mem_cons, List.not_mem_nil, or_false] at h
    rcases h with rfl | rfl
    · exact hlayout
    · exact hsemicolon.2.append _
  | unit name | typeAlias name target =>
    rw [List.mem_singleton.mp h]
    exact hsemicolon.1.append _
  | record name fields => exact hasEnd_struct hasEnd_commas h
  | hollow name => exact hasEnd_struct (List.forall_mem_singleton.mpr (by decide)) h
  | vtable name base object status slots =>
    exact hasEnd_struct (List.forall_mem_cons.mpr ⟨hcomma.append _, hasEnd_commas⟩) h
  | guid _ _ _ | member _ _ _ =>
    rw [List.mem_singleton.mp h]
    exact hconstant _ _ _
  | memberNumbers owner values | constants owner values =>
    refine hasEnd_block (fun text htext => ?_) h
    obtain ⟨entry, -, rfl⟩ := List.mem_map.mp htext
    exact (hconstant _ _ _).append _
  | labels owner values =>
    refine hasEnd_block (List.forall_mem_singleton.mpr ?_) h
    exact (hconstant _ _ _).append _

theorem lines_ne_nil (d : Declaration) : d.lines ≠ [] := by
  cases d <;> exact List.cons_ne_nil _ _

end Declaration

/-- Whether lines end with one that has an end and an empty one. -/
def EndBlank (lines : List String) : Prop :=
  ∃ front line, lines = front ++ [line, ""] ∧ HasEnd line

namespace EndBlank

theorem append {back : List String} (h : EndBlank back) (front : List String) :
    EndBlank (front ++ back) := by
  obtain ⟨lines, line, rfl, hend⟩ := h
  exact ⟨front ++ lines, line, (List.append_assoc _ _ _).symm, hend⟩

/-- Lines with ends, and an empty one. -/
theorem of_lines {lines : List String} (hne : lines ≠ []) (hends : ∀ line ∈ lines, HasEnd line) :
    EndBlank (lines ++ [""]) := by
  refine ⟨lines.dropLast, lines.getLast hne, ?_, hends _ (List.getLast_mem hne)⟩
  calc lines ++ [""] = lines.dropLast ++ [lines.getLast hne] ++ [""] := by
        rw [List.dropLast_concat_getLast hne]
    _ = lines.dropLast ++ [lines.getLast hne, ""] := List.append_assoc _ _ _

theorem append_flatMap {α : Type} {parts : List α} {f : α → List String} {front : List String}
    (h : EndBlank front) (hparts : ∀ part ∈ parts, EndBlank (f part)) :
    EndBlank (front ++ parts.flatMap f) := by
  induction parts generalizing front with
  | nil => rwa [List.flatMap_nil, List.append_nil]
  | cons part rest ih =>
    obtain ⟨hpart, hrest⟩ := List.forall_mem_cons.mp hparts
    rw [List.flatMap_cons, ← List.append_assoc]
    exact ih (hpart.append front) hrest

end EndBlank

namespace Scope

variable {scope : Scope}

theorem declare_ne_nil (scope : Scope) (item : Item) (taken : List String) :
    (scope.declare item taken).declarations ≠ [] := by
  intro hnil
  cases howner : scope.known.get? item.name with
  | some owner =>
    rw [declare_known howner] at hnil
    cases hnil
  | none =>
    rw [declare_novel scope (by simp [Table.contains, howner])] at hnil
    have hgiven := (builds_declareItem scope item taken).given_subset
      (LocalNames.identOf_mem_namesOf scope.names item)
    rw [hnil] at hgiven
    cases hgiven

theorem ne_nil_of_mem_sections {items : List Item} {taken : List String}
    {decls : List Declaration} (h : decls ∈ scope.sections taken items) : decls ≠ [] := by
  induction items generalizing taken with
  | nil => cases h
  | cons item rest ih =>
    rcases List.mem_cons.mp h with rfl | h
    · exact declare_ne_nil scope item taken
    · exact ih h

end Scope

namespace Wrapper

section

variable {library : Identity} {items : Items} {known : Symbols} {source : Option Path}

theorem section_ne_nil {decls : List Declaration}
    (h : decls ∈ (ofItems library items known source).sections) : decls ≠ [] := by
  rcases List.mem_append.mp h with h | h
  · exact Scope.ne_nil_of_mem_sections h
  · obtain ⟨ident, -, rfl⟩ := List.mem_map.mp h
    exact List.cons_ne_nil _ _

theorem endBlank_section {decls : List Declaration}
    (h : decls ∈ (ofItems library items known source).sections) :
    EndBlank (sectionLines decls) := by
  refine EndBlank.of_lines (fun hnil => ?_) fun line hline => ?_
  · obtain ⟨decl, hdecl⟩ := List.exists_mem_of_ne_nil _ (section_ne_nil h)
    exact decl.lines_ne_nil (List.flatMap_eq_nil_iff.mp hnil decl hdecl)
  · obtain ⟨decl, hdecl, hline⟩ := List.mem_flatMap.mp hline
    have hmem : decl ∈ (ofItems library items known source).declarations :=
      List.mem_flatten.mpr ⟨decls, h, hdecl⟩
    refine decl.hasEnd_of_mem_lines (fun isDoc text heq => ?_) hline
    rw [heq] at hmem
    exact comment_hasEnd hmem

theorem hasEnd_importLine (i : Import) : HasEnd (importLine i) := by
  have hends : HasEnd ";" ∧ HasEnd "\x7d;" := by decide
  unfold importLine
  split
  · exact hends.1.append _
  · exact hends.2.append _

theorem endBlank_lines (library : Identity) (items : Items) (known : Symbols)
    (source : Option Path) : EndBlank (ofItems library items known source).lines := by
  have hhead : EndBlank (ofItems library items known source).headLines :=
    ⟨_ :: _ :: [_], _, rfl, by decide⟩
  refine EndBlank.append_flatMap ?_ fun decls hdecls => endBlank_section hdecls
  unfold importLines
  split
  · rwa [List.append_nil]
  · rename_i hne
    refine EndBlank.append (.of_lines (fun hnil => hne (List.map_eq_nil_iff.mp hnil)) ?_) _
    intro line hline
    obtain ⟨i, -, rfl⟩ := List.mem_map.mp hline
    exact hasEnd_importLine i

/-- The text of a wrapper is its lines but for the last one, which is empty. -/
theorem toList_text :
    (ofItems library items known source).text.toList =
      ofLines (ofItems library items known source).lines.dropLast := by
  obtain ⟨front, line, hlines, hend⟩ := endBlank_lines library items known source
  obtain ⟨cs, c, hline, hne⟩ := hend.exists_eq
  have hdrop : (front ++ [line, ""]).dropLast = front ++ [line] := by
    rw [List.dropLast_append_of_ne_nil (List.cons_ne_nil _ _)]
    rfl
  rw [text, String.toList_ofList, hlines, hdrop]
  simp [withOneBreak, withoutBlankStart, ofLines, hline, hne]

/-! ## Lines with line feeds -/

theorem dropLast_lines : (ofItems library items known source).lines.dropLast ++ [""] =
    (ofItems library items known source).lines := by
  obtain ⟨front, line, hlines, -⟩ := endBlank_lines library items known source
  have hconcat : front ++ [line, ""] = front ++ [line] ++ [""] := by
    rw [List.append_assoc]
    rfl
  rw [hlines, hconcat, List.dropLast_concat]

/-- What stands between the line feeds of the text is what stands between those of the lines. -/
theorem fields_text :
    Text.fields '\n' (ofItems library items known source).text.toList =
      ((ofItems library items known source).lines.map String.toList).flatMap
        (Text.fields '\n') := by
  have hlines (lines : List String) : ofLines lines =
      (lines.map String.toList).flatMap fun text => text ++ ['\n'] := by
    rw [ofLines, List.flatMap_map]
  rw [toList_text, hlines, Text.fields_terminated]
  conv_rhs => rw [← dropLast_lines, List.map_append, List.flatMap_append]
  rfl

theorem onOneLine_importLine_iff {i : Import} :
    OnOneLine (importLine i) ↔ ∀ text ∈ i.owner :: i.names, OnOneLine text := by
  have hmarks : OnOneLine "use " ∧ OnOneLine "::" ∧ OnOneLine ";" ∧ OnOneLine "::\x7b" ∧
      OnOneLine "\x7d;" := by decide
  unfold importLine
  split
  · rename_i name hnames
    simp only [OnOneLine.append_iff, hmarks, hnames, List.forall_mem_cons, List.not_mem_nil,
      false_imp_iff, implies_true, true_and, and_true]
  · simp only [OnOneLine.append_iff, hmarks, OnOneLine.intercalate_iff, List.forall_mem_cons,
      true_and, and_true]

theorem mem_lines_of_mem_declarations {w : Wrapper} {decl : Declaration} {line : String}
    (hdecl : decl ∈ w.declarations) (hline : line ∈ decl.lines) : line ∈ w.lines := by
  obtain ⟨decls, hdecls, hdecl⟩ := List.mem_flatten.mp hdecl
  refine List.mem_append_right _ (List.mem_flatMap.mpr ⟨decls, hdecls, ?_⟩)
  exact List.mem_append_left _ (List.mem_flatMap.mpr ⟨decl, hdecl, hline⟩)

theorem importLine_mem_lines {w : Wrapper} {i : Import} (h : i ∈ w.imports) :
    importLine i ∈ w.lines := by
  have hne : w.imports ≠ [] := List.ne_nil_of_mem h
  refine List.mem_append_left _ (List.mem_append_right _ ?_)
  rw [importLines, if_neg hne]
  exact List.mem_append_left _ (List.mem_map_of_mem h)

end

/-- The texts that a wrapper copies without change: the path of the source and what comments copy
from the items. -/
def copiedTexts (items : Items) (known : Symbols) (source : Option Path) : List String :=
  source.toList.map Path.text ++ items.copied known

section

variable {library : Identity} {items : Items} {known : Symbols} {source : Option Path}

variable (library) in
/-- What is copied is part of a comment. -/
theorem exists_line_of_copied {text : String} (h : text ∈ copiedTexts items known source) :
    ∃ line ∈ (ofItems library items known source).lines,
      IsComment line ∧ text.toList <:+: line.toList := by
  rcases List.mem_append.mp h with h | h
  · obtain ⟨p, hp, rfl⟩ := List.mem_map.mp h
    obtain rfl := Option.mem_toList.mp hp
    refine ⟨"//! Source: " ++ p.text, ?_, .append (by decide) _, ?_⟩
    · refine List.mem_append_left _ (List.mem_append_left _ ?_)
      exact .tail _ (.tail _ List.mem_cons_self)
    · rw [String.toList_append]
      exact (List.suffix_append _ _).isInfix
  · obtain ⟨isDoc, comment, hdecl, hpart⟩ := exists_comment_of_copied h
    refine ⟨_, mem_lines_of_mem_declarations hdecl List.mem_cons_self, .append ?_ _, ?_⟩
    · cases isDoc <;> decide
    · rw [String.toList_append]
      exact hpart.trans (List.suffix_append _ _).isInfix

theorem headLines_onOneLine {w : Wrapper} (hsource : ∀ p ∈ w.source, OnOneLine p.text) :
    ∀ line ∈ w.headLines, OnOneLine line := by
  have hpath : OnOneLine ((w.source.map Path.text).getD "<no file>") := by
    cases hpath : w.source with
    | none => exact (by decide : OnOneLine "<no file>")
    | some p => exact hsource p (by rw [hpath]; rfl)
  intro line hline
  simp only [headLines, List.mem_cons, List.not_mem_nil, or_false] at hline
  rcases hline with rfl | rfl | rfl | rfl | rfl
  · simp only [OnOneLine.append_iff]
    exact ⟨⟨by decide, w.library.text_onOneLine⟩, by decide⟩
  · decide
  · exact OnOneLine.append_iff.mpr ⟨by decide, hpath⟩
  · exact lineFeed_isForeign.own _ (by simp [ownTexts])
  · decide

theorem externalStems_areIdentifiers (items : Items) (library : Identity) :
    ∀ stem ∈ externalStems items library, IsIdentifier stem := by
  intro stem hstem
  obtain ⟨other, -, rfl⟩ := List.mem_map.mp hstem
  exact other.wrapperName_isIdentifier

/-- All lines of a wrapper are on one line exactly when what it copies and imports is. -/
theorem lines_onOneLine_iff :
    (∀ line ∈ (ofItems library items known source).lines, OnOneLine line) ↔
      ∀ text ∈ copiedTexts items known source ++
        (ofItems library items known source).importTexts, OnOneLine text := by
  constructor
  · intro h text htext
    rcases List.mem_append.mp htext with htext | htext
    · obtain ⟨line, hline, -, hpart⟩ := exists_line_of_copied library htext
      exact fun hmem => h line hline (hpart.subset hmem)
    · obtain ⟨i, hi, htext⟩ := List.mem_flatMap.mp htext
      exact onOneLine_importLine_iff.mp (h _ (importLine_mem_lines hi)) text htext
  · intro h line hline
    have hsource : ∀ p ∈ source, OnOneLine p.text := fun p hp => h p.text
      (List.mem_append_left _ (List.mem_append_left _ (List.mem_map_of_mem
        (Option.mem_toList.mpr hp))))
    have hcopied : ∀ text ∈ items.copied known, OnOneLine text := fun text htext =>
      h text (List.mem_append_left _ (List.mem_append_right _ htext))
    have himports : ∀ text ∈ (ofItems library items known source).importTexts, OnOneLine text :=
      fun text htext => h text (List.mem_append_right _ htext)
    rcases mem_lines_cases hline with hline | ⟨i, hi, rfl⟩ | ⟨decl, hdecl, hline⟩ | rfl
    · exact headLines_onOneLine hsource line hline
    · exact onOneLine_importLine_iff.mpr fun text htext =>
        himports text (List.mem_flatMap.mpr ⟨i, hi, htext⟩)
    · rcases Declaration.isCode_of_mem_lines
          (declarations_sound (importedNames_subset _) hdecl) hline with
        ⟨isDoc, text, rfl⟩ | hcode
      · rw [List.mem_singleton.mp hline]
        refine OnOneLine.append_iff.mpr ⟨?_, comment_onOneLine hcopied hdecl⟩
        cases isDoc <;> decide
      · exact hcode.onOneLine himports (externalStems_areIdentifiers items library)
    · decide

end

/-- The lines of a wrapper are comments or code, and what it copies without change is part of a
comment.  The lines of its text are these lines exactly when neither a copied text nor a name or
owner in an import has a line feed in it. -/
theorem fields_text_iff (library : Identity) (items : Items) (known : Symbols)
    (source : Option Path) :
    let w := ofItems library items known source
    (Text.fields '\n' w.text.toList = w.lines.map String.toList ↔
      ∀ text ∈ copiedTexts items known source ++ w.importTexts, '\n' ∉ text.toList) ∧
    (∀ line ∈ w.lines, IsComment line ∨
      IsCode w.importTexts ((items.externals library).map Identity.wrapperStem) line) ∧
    ∀ text ∈ copiedTexts items known source,
      ∃ line ∈ w.lines, IsComment line ∧ text.toList <:+: line.toList := by
  intro w
  refine ⟨?_, fun line hline => line_cases hline,
    fun text htext => exists_line_of_copied library htext⟩
  rw [fields_text, Text.flatMap_fields_eq_self_iff, List.forall_mem_map]
  exact lines_onOneLine_iff

theorem fields_text_crowded :
    let w := ofItems ⟨⟨10#128⟩, 1, 0, 0⟩ crowded .standard (some ⟨"shapes.json"⟩)
    copiedTexts crowded .standard (some ⟨"shapes.json"⟩) =
        ["shapes.json", "IShape", "Shape", "Fill", "Line"] ∧
      Text.fields '\n' w.text.toList = w.lines.map String.toList := by
  intro w
  obtain ⟨hfields, -⟩ :=
    fields_text_iff ⟨⟨10#128⟩, 1, 0, 0⟩ crowded .standard (some ⟨"shapes.json"⟩)
  exact ⟨by decide, hfields.mpr (by decide)⟩

/-- A name with line feeds. -/
def brokenName : String := "E\npub type Injected = Option<i32>;\n//"

/-- An enumeration of that name. -/
def injected : Items := Table.ofList [(brokenName, .enumeration brokenName [])]

/-- The name is part of no line of the text, and what follows its first line feed is a line of the
source that is neither a comment nor code of the generator. -/
theorem injected_escapes :
    let library : Identity := ⟨⟨10#128⟩, 1, 0, 0⟩
    let w := ofItems library injected .standard none
    let lines := (Text.fields '\n' w.text.toList).map String.ofList
    (¬∀ line ∈ lines, IsComment line ∨
      IsCode w.importTexts ((injected.externals library).map Identity.wrapperStem) line) ∧
    ¬∀ text ∈ copiedTexts injected .standard none,
      ∃ line ∈ lines, IsComment line ∧ text.toList <:+: line.toList := by
  intro library w lines
  constructor
  · intro h
    have hdecl : .comment true ("Enumeration \x60" ++ brokenName ++ "\x60.") ∈ w.declarations := by
      decide
    have hline : "pub type Injected = Option<i32>;" ∈ lines := by
      refine List.mem_map.mpr ⟨"pub type Injected = Option<i32>;".toList, ?_, String.ofList_toList⟩
      rw [fields_text, List.flatMap_map]
      exact List.mem_flatMap.mpr
        ⟨_, mem_lines_of_mem_declarations hdecl List.mem_cons_self, by decide⟩
    rcases h _ hline with hcomment | hcode
    · exact absurd hcomment (by decide)
    · -- only a quoted text could have the bracket, and there is no quote
      have hforeign : IsForeign '<' := ⟨by decide, by decide, by decide⟩
      have himports : w.importTexts = [] := by decide
      obtain ⟨value, -, hsubset⟩ := hcode.mem_quoted hforeign (by simp [himports])
        (externalStems_areIdentifiers injected library) (by decide)
      have hquote : '\x22' ∈ "pub type Injected = Option<i32>;".toList :=
        hsubset (by simp [Text.quoted])
      exact absurd hquote (by decide)
  · intro h
    have hname : brokenName ∈ copiedTexts injected .standard none := by decide
    obtain ⟨line, hline, -, hpart⟩ := h _ hname
    obtain ⟨field, hfield, rfl⟩ := List.mem_map.mp hline
    rw [String.toList_ofList] at hpart
    have hfeed : '\n' ∈ brokenName.toList := by decide
    exact Text.not_mem_of_mem_fields hfield (hpart.subset hfeed)

end Wrapper

end Typelib
