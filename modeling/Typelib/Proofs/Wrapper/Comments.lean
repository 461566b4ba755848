import Typelib.Proofs.Wrapper.Dependencies

/-!
# Comments

A wrapper copies three kinds of text from a library without change: the names and kinds of items,
in the comments before their declarations, the names of known symbols and of their owners, in the
comments that stand for these (`Items.copied`), and the path of the source.  A comment is on one
line if what it copies is (`Wrapper.comment_onOneLine`).  Code needs no such condition but for the
names that are imported, since identifiers, numerals and quoted texts have no line feed
(`IsCode.onOneLine`).
-/

namespace Typelib

/-! ## Texts on one line -/

/-- Whether a text has no line feed. -/
def OnOneLine (text : String) : Prop := '\n' ∉ text.toList

namespace OnOneLine

instance : DecidablePred OnOneLine := fun text =>
  inferInstanceAs (Decidable ('\n' ∉ text.toList))

theorem append_iff {front back : String} :
    OnOneLine (front ++ back) ↔ OnOneLine front ∧ OnOneLine back := by
  simp only [OnOneLine, String.toList_append, List.mem_append, not_or]

theorem of_isIdentifier {name : String} (h : IsIdentifier name) : OnOneLine name :=
  fun hmem => absurd (h.chars '\n' hmem) (by decide)

theorem natural (n : Nat) : OnOneLine (toString n) := fun hmem => by
  have hdigit := Nat.isDigit_of_mem_toDigits (b := 10) (by decide) (by decide)
    (Text.toList_toString n ▸ hmem)
  exact absurd hdigit (by decide)

/-- Joined texts are on one line exactly when each of them is. -/
theorem intercalate_iff {texts : List String} :
    OnOneLine (", ".intercalate texts) ↔ ∀ text ∈ texts, OnOneLine text := by
  induction texts with
  | nil =>
    have hempty : OnOneLine (", ".intercalate []) := by decide
    exact iff_of_true hempty fun text htext => absurd htext List.not_mem_nil
  | cons text rest ih =>
    cases rest with
    | nil =>
      rw [List.forall_mem_singleton]
      exact Iff.rfl
    | cons next more =>
      have hcomma : OnOneLine ", " := by decide
      rw [String.intercalate_cons_cons, append_iff, append_iff, ih]
      rw [List.forall_mem_cons (a := text)]
      constructor
      · rintro ⟨⟨htext, -⟩, hrest⟩
        exact ⟨htext, hrest⟩
      · rintro ⟨htext, hrest⟩
        exact ⟨⟨htext, hcomma⟩, hrest⟩

end OnOneLine

/-! ## Foreign characters -/

/-- Whether a character is in no own text of the generator, no identifier and no numeral. -/
structure IsForeign (c : Char) : Prop where
  own : ∀ text ∈ ownTexts, c ∉ text.toList
  identifier : isIdentifierChar c = false
  numeral : isNumeralChar c = false

/-- A foreign character is in no text of identifier characters. -/
theorem IsForeign.not_mem {c : Char} (h : IsForeign c) {cs : List Char}
    (hcs : ∀ d ∈ cs, isIdentifierChar d) : c ∉ cs := by
  intro hmem
  have hchar := hcs c hmem
  rw [h.identifier] at hchar
  cases hchar

theorem Guid.mem_separated {g : Guid} {separator c : Char} (h : c ∈ g.separated separator) :
    c = separator ∨ ∃ d < 16, c = Nat.digitChar d := by
  rcases Text.mem_intercalate h with rfl | ⟨group, hgroup, hc⟩
  · exact .inl rfl
  · right
    have hmem : c ∈ (Guid.groups Guid.groupLengths g.digits).flatten :=
      List.mem_flatten.mpr ⟨group, hgroup, hc⟩
    rw [Guid.flatten_groups] at hmem
    exact Text.mem_fixedHex (List.mem_of_mem_take hmem)

namespace IsForeign

variable {c : Char} (h : IsForeign c)

include h

theorem not_mem_path {stem ident : String} (hstem : IsIdentifier stem)
    (hident : IsIdentifier ident) : c ∉ ("super::" ++ stem ++ "::" ++ ident).toList := by
  have hword : c ∉ "super".toList := h.not_mem (List.all_eq_true.mp (by decide))
  have hcolons : c ∉ "::".toList := h.own "::" (by simp [ownTexts])
  have hsuper : "super::" = "super" ++ "::" := rfl
  simp only [hsuper, String.toList_append, List.mem_append, not_or]
  exact ⟨⟨⟨⟨hword, hcolons⟩, h.not_mem hstem.chars⟩, hcolons⟩, h.not_mem hident.chars⟩

theorem not_mem_guid (g : Guid) : c ∉ g.separated '_' := by
  have hdigits : ∀ n < 16, isIdentifierChar (Nat.digitChar n) := by decide
  refine h.not_mem fun d hd => ?_
  rcases Guid.mem_separated hd with rfl | ⟨n, hn, rfl⟩
  · decide
  · exact hdigits n hn

end IsForeign

/-- A foreign character in a text of code stands in a quoted text. -/
theorem IsCode.mem_quoted {symbols stems : List String} {c : Char} (hforeign : IsForeign c)
    (hsymbols : ∀ symbol ∈ symbols, c ∉ symbol.toList)
    (hstems : ∀ stem ∈ stems, IsIdentifier stem) {line : String} (h : IsCode symbols stems line)
    (hc : c ∈ line.toList) :
    ∃ value, c ∈ (Text.quoted value).toList ∧ (Text.quoted value).toList ⊆ line.toList := by
  induction h with
  | empty => cases hc
  | own h => exact absurd hc (hforeign.own _ h)
  | identifier h => exact absurd hc (hforeign.not_mem h.chars)
  | symbol h => exact absurd hc (hsymbols _ h)
  | path hstem h => exact absurd hc (hforeign.not_mem_path (hstems _ hstem) h)
  | numeral h =>
    have hchar := h c hc
    rw [hforeign.numeral] at hchar
    cases hchar
  | guid value =>
    rw [String.toList_ofList] at hc
    exact absurd hc (hforeign.not_mem_guid value)
  | quoted value => exact ⟨value, hc, List.Subset.refl _⟩
  | before h _ ih =>
    rw [String.toList_append] at hc ⊢
    rcases List.mem_append.mp hc with hc | hc
    · exact absurd hc (hforeign.own _ h)
    · obtain ⟨value, hvalue, hsubset⟩ := ih hc
      exact ⟨value, hvalue, List.subset_append_of_subset_right _ hsubset⟩
  | after _ h ih =>
    rw [String.toList_append] at hc ⊢
    rcases List.mem_append.mp hc with hc | hc
    · obtain ⟨value, hvalue, hsubset⟩ := ih hc
      exact ⟨value, hvalue, List.subset_append_of_subset_left _ hsubset⟩
    · exact absurd hc (hforeign.own _ h)
  | between _ h _ ihfront ihback =>
    rw [String.toList_append, String.toList_append] at hc ⊢
    rcases List.mem_append.mp hc with hc | hc
    · rcases List.mem_append.mp hc with hc | hc
      · obtain ⟨value, hvalue, hsubset⟩ := ihfront hc
        refine ⟨value, hvalue, ?_⟩
        exact List.subset_append_of_subset_left _ (List.subset_append_of_subset_left _ hsubset)
      · exact absurd hc (hforeign.own _ h)
    · obtain ⟨value, hvalue, hsubset⟩ := ihback hc
      exact ⟨value, hvalue, List.subset_append_of_subset_right _ hsubset⟩

theorem lineFeed_isForeign : IsForeign '\n' := ⟨by decide, by decide, by decide⟩

/-- Code is on one line if the imported names in it are. -/
theorem IsCode.onOneLine {symbols stems : List String}
    (hsymbols : ∀ symbol ∈ symbols, OnOneLine symbol) (hstems : ∀ stem ∈ stems, IsIdentifier stem)
    {line : String} (h : IsCode symbols stems line) : OnOneLine line := by
  intro hc
  obtain ⟨value, hvalue, -⟩ := h.mem_quoted lineFeed_isForeign hsymbols hstems hc
  exact Text.lineFeed_not_mem_quoted value hvalue

theorem Identity.text_onOneLine (i : Identity) : OnOneLine i.text := by
  have hguid : OnOneLine i.libid.hyphenated := by
    have hdigits : ∀ d < 16, (Nat.digitChar d).toUpper ≠ '\n' := by decide
    rw [OnOneLine, Guid.hyphenated, String.toList_ofList, List.mem_map]
    rintro ⟨c, hc, heq⟩
    rcases Guid.mem_separated hc with rfl | ⟨d, hd, rfl⟩
    · exact absurd heq (by decide)
    · exact hdigits d hd heq
  have hmajor := OnOneLine.natural i.major.toNat
  have hminor := OnOneLine.natural i.minor.toNat
  have hlcid := OnOneLine.natural i.lcid.toNat
  simp only [Identity.text, Guid.braced, Identity.versionText, OnOneLine.append_iff]
  refine ⟨⟨⟨⟨⟨⟨⟨?_, hguid⟩, ?_⟩, ?_⟩, ⟨hmajor, ?_⟩, hminor⟩, ?_⟩, hlcid⟩, ?_⟩ <;> decide

/-! ## Comments -/

/-- A comment that copies a text. -/
structure Copy where
  front : String
  copied : String
  back : String

/-- The text of the comment. -/
def Copy.text (c : Copy) : String := c.front ++ c.copied ++ c.back

/-- The comment before the declarations of an item. -/
def Item.copy? : Item → Option Copy
  | .interface name .. => some ⟨"Interface \x60", name, "\x60."⟩
  | .dispInterface name .. => some ⟨"Dispatch interface \x60", name, "\x60."⟩
  | .coClass name .. => some ⟨"Coclass \x60", name, "\x60."⟩
  | .enumeration name _ => some ⟨"Enumeration \x60", name, "\x60."⟩
  | .unsupported _ construct => some ⟨"Unsupported \x60", construct, "\x60 declaration."⟩
  | .struct .. | .typeAlias .. | .constants .. => none

/-- The texts that comments copy from the items; for a known symbol they are its name and its
owner. -/
def Items.copied (items : Items) (known : Symbols) : List String :=
  items.values.flatMap fun item =>
    match known.get? item.name with
    | some owner => [item.name, owner]
    | none => (item.copy?.map Copy.copied).toList

/-- Whether a line has an end that can be seen. -/
def HasEnd (line : String) : Prop := line.toList.getLast?.any (· ≠ '\n')

instance : DecidablePred HasEnd := fun line =>
  inferInstanceAs (Decidable (line.toList.getLast?.any (· ≠ '\n') = true))

theorem HasEnd.append {back : String} (h : HasEnd back) (front : String) :
    HasEnd (front ++ back) := by
  unfold HasEnd at h ⊢
  rw [String.toList_append, List.getLast?_append]
  cases hback : back.toList.getLast? with
  | none =>
    rw [hback] at h
    cases h
  | some c => rwa [hback] at h

theorem HasEnd.exists_eq {line : String} (h : HasEnd line) :
    ∃ cs c, line.toList = cs ++ [c] ∧ c ≠ '\n' := by
  unfold HasEnd at h
  cases hlast : line.toList.getLast? with
  | none =>
    rw [hlast] at h
    cases h
  | some c =>
    rw [hlast] at h
    obtain ⟨cs, hcs⟩ := List.getLast?_eq_some_iff.mp hlast
    exact ⟨cs, c, hcs, of_decide_eq_true h⟩

variable {item : Item} {text : String} {c : Copy}

theorem Item.onOneLine_copy_iff (h : item.copy? = some c) :
    OnOneLine c.text ↔ OnOneLine c.copied := by
  have hmarks : OnOneLine c.front ∧ OnOneLine c.back := by
    cases item <;> cases h <;> dsimp only <;> decide
  simp only [Copy.text, OnOneLine.append_iff, hmarks, true_and, and_true]

theorem Item.hasEnd_copy (h : item.copy? = some c) : HasEnd c.text := by
  have hback : HasEnd c.back := by
    cases item <;> cases h <;> dsimp only <;> decide
  exact hback.append _

theorem Item.isInfix_copy (c : Copy) : c.copied.toList <:+: c.text.toList := by
  refine ⟨c.front.toList, c.back.toList, ?_⟩
  rw [Copy.text, String.toList_append, String.toList_append]

namespace Declared

variable {scope : Scope} {d : Declared} {decl : Declaration}

theorem mem_add_self : decl ∈ (d.add decl).declarations :=
  List.mem_append_right _ List.mem_cons_self

theorem mem_add (h : decl ∈ d.declarations) {other : Declaration} :
    decl ∈ (d.add other).declarations :=
  List.mem_append_left _ h

theorem mem_withGuid (h : decl ∈ d.declarations) {kind ident : String} {guid : Option Guid} :
    decl ∈ (scope.withGuid kind ident guid d).declarations := by
  cases guid with
  | none => exact h
  | some value => exact List.mem_append_left _ h

theorem mem_withChosen (h : decl ∈ d.declarations) {ident ending : String}
    {choice : Option Implemented} :
    decl ∈ (scope.withChosen ident ending choice d).declarations := by
  cases choice with
  | none => exact h
  | some i => exact List.mem_append_left _ h

theorem mem_members (h : decl ∈ d.declarations) {ident : String}
    {members : List (String × Int64)} :
    decl ∈ (members.foldl
      (fun d m => d.reserve (identifier m.1) ident fun constant => .member constant ident m.2)
      d).declarations := by
  induction members generalizing d with
  | nil => exact h
  | cons m rest ih => exact ih (List.mem_append_left _ h)

end Declared

namespace Scope

variable {scope : Scope}

/-- The comment before an item is in its section. -/
theorem copy_mem_declareItem (h : item.copy? = some c) (d : Declared) :
    .comment true c.text ∈ (scope.declareItem item d).declarations := by
  cases item with
  | interface name iid base methods =>
    cases h
    exact Declared.mem_add (Declared.mem_withGuid (Declared.mem_add Declared.mem_add_self))
  | dispInterface name iid methods =>
    cases h
    simp only [declareItem, declareDispInterface]
    split
    · exact Declared.mem_withGuid (Declared.mem_add Declared.mem_add_self)
    · exact Declared.mem_add (Declared.mem_withGuid (Declared.mem_add Declared.mem_add_self))
  | coClass name clsid implemented =>
    cases h
    refine Declared.mem_withChosen (Declared.mem_withChosen ?_)
    split
    · exact Declared.mem_add (Declared.mem_withGuid Declared.mem_add_self)
    · exact Declared.mem_add (Declared.mem_add (Declared.mem_withGuid Declared.mem_add_self))
  | enumeration name members =>
    cases h
    exact Declared.mem_members (Declared.mem_add Declared.mem_add_self)
  | unsupported name construct =>
    cases h
    exact Declared.mem_add Declared.mem_add_self
  | struct _ _ | typeAlias _ _ | constants _ _ => cases h

/-- The other declarations of an item are no comments. -/
theorem Emits.copy {isDoc : Bool} (h : scope.Emits item (.comment isDoc text)) :
    ∃ c, item.copy? = some c ∧ text = c.text := by
  cases h <;> exact ⟨_, rfl, rfl⟩

end Scope

namespace Wrapper

variable {library : Identity} {items : Items} {known : Symbols} {source : Option Path}
  {isDoc : Bool}

/-- A comment of a wrapper mentions a known symbol, stands before an item or announces a
placeholder. -/
theorem comment_cases
    (h : .comment isDoc text ∈ (ofItems library items known source).declarations) :
    (∃ item ∈ items.values, ∃ owner, known.get? item.name = some owner ∧
      text = "\x60" ++ item.name ++ "\x60 is provided by " ++ owner ++ ".") ∨
    (∃ item ∈ items.values, known.get? item.name = none ∧
      ∃ c, item.copy? = some c ∧ text = c.text) ∨
    ∃ ident, IsIdentifier ident ∧
      text = "Placeholder for unresolved type \x60" ++ ident ++ "\x60." := by
  rcases mem_declarations_ofItems.mp h with hsection | ⟨ident, hplaceholder, hcomment⟩
  · obtain ⟨item, hitem, before, -, hdecl⟩ := Scope.mem_sections hsection
    rcases Scope.mem_declare hdecl with ⟨owner, howner, heq⟩ | ⟨hnovel, hemits⟩
    · obtain ⟨-, rfl⟩ := Declaration.comment.inj heq
      exact .inl ⟨item, hitem, owner, howner, rfl⟩
    · have hnone : known.get? item.name = none :=
        Option.not_isSome_iff_eq_none.mp (by rw [Bool.not_eq_true]; exact hnovel)
      exact .inr (.inl ⟨item, hitem, hnone, hemits.copy⟩)
  · right
    right
    refine ⟨ident, ?_, ?_⟩
    · have hhollow : .hollow ident ∈ (ofItems library items known source).declarations :=
        mem_declarations_ofItems.mpr (.inr ⟨ident, hplaceholder, .tail _ List.mem_cons_self⟩)
      exact idents_sound hhollow ident List.mem_cons_self
    · simp only [placeholder, List.mem_cons, List.not_mem_nil, or_false] at hcomment
      rcases hcomment with heq | heq
      · exact (Declaration.comment.inj heq).2
      · cases heq

/-- A text that is copied from an item is part of a comment. -/
theorem exists_comment_of_copied (h : text ∈ items.copied known) :
    ∃ isDoc comment,
      .comment isDoc comment ∈ (ofItems library items known source).declarations ∧
        text.toList <:+: comment.toList := by
  obtain ⟨item, hitem, htext⟩ := List.mem_flatMap.mp h
  obtain ⟨before, -, hsection⟩ :=
    (Scope.of library items known).exists_section hitem (LocalNames.assign items known).taken
  have hdeclared {decl : Declaration}
      (hdecl : decl ∈ ((Scope.of library items known).declare item before).declarations) :
      decl ∈ (ofItems library items known source).declarations :=
    mem_declarations_ofItems.mpr (.inl (hsection hdecl))
  cases howner : known.get? item.name with
  | some owner =>
    rw [howner] at htext
    have hcomment := hdeclared (by
      rw [(Scope.of library items known).declare_known howner]
      exact List.mem_cons_self)
    refine ⟨_, _, hcomment, ?_⟩
    simp only [List.mem_cons, List.not_mem_nil, or_false] at htext
    rcases htext with rfl | rfl
    · refine ⟨['\x60'], ("\x60 is provided by " ++ owner ++ ".").toList, ?_⟩
      simp [String.toList_append]
    · refine ⟨("\x60" ++ item.name ++ "\x60 is provided by ").toList, ['.'], ?_⟩
      simp [String.toList_append]
  | none =>
    rw [howner] at htext
    obtain ⟨c, hcopy, rfl⟩ := Option.map_eq_some_iff.mp (Option.mem_toList.mp htext)
    have hnovel : (Scope.of library items known).known.contains item.name = false := by
      rw [← Bool.not_eq_true]
      exact Option.not_isSome_iff_eq_none.mpr howner
    refine ⟨true, c.text, hdeclared ?_, Item.isInfix_copy c⟩
    rw [Scope.declare_novel _ hnovel]
    exact Scope.copy_mem_declareItem hcopy _

/-- A comment is on one line if the texts are that comments copy. -/
theorem comment_onOneLine (hcopied : ∀ text ∈ items.copied known, OnOneLine text)
    (h : .comment isDoc text ∈ (ofItems library items known source).declarations) :
    OnOneLine text := by
  have hmarks : OnOneLine "\x60" ∧ OnOneLine "\x60 is provided by " ∧ OnOneLine "." ∧
      OnOneLine "Placeholder for unresolved type \x60" ∧ OnOneLine "\x60." := by decide
  obtain ⟨hquote, hprovided, hdot, hplaceholder, hclose⟩ := hmarks
  have hmem {item : Item} (hitem : item ∈ items.values) {text : String}
      (htext : text ∈ match known.get? item.name with
        | some owner => [item.name, owner]
        | none => (item.copy?.map Copy.copied).toList) : OnOneLine text :=
    hcopied text (List.mem_flatMap.mpr ⟨item, hitem, htext⟩)
  rcases comment_cases h with ⟨item, hitem, owner, howner, rfl⟩ |
    ⟨item, hitem, hnone, c, hcopy, rfl⟩ | ⟨ident, hident, rfl⟩
  · have hname : OnOneLine item.name := hmem hitem (by simp [howner])
    have howner : OnOneLine owner := hmem hitem (by simp [howner])
    simp only [OnOneLine.append_iff]
    exact ⟨⟨⟨⟨hquote, hname⟩, hprovided⟩, howner⟩, hdot⟩
  · exact (Item.onOneLine_copy_iff hcopy).mpr (hmem hitem (by simp [hnone, hcopy]))
  · simp only [OnOneLine.append_iff]
    exact ⟨⟨hplaceholder, .of_isIdentifier hident⟩, hclose⟩

theorem comment_hasEnd
    (h : .comment isDoc text ∈ (ofItems library items known source).declarations) :
    HasEnd text := by
  have hends : HasEnd "." ∧ HasEnd "\x60." := by decide
  rcases comment_cases h with ⟨item, -, owner, -, rfl⟩ | ⟨item, -, -, c, hcopy, rfl⟩ |
    ⟨ident, -, rfl⟩
  · exact hends.1.append _
  · exact Item.hasEnd_copy hcopy
  · exact hends.2.append _

end Wrapper

end Typelib
