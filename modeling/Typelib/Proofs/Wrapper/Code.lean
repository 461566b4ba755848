import Typelib.Proofs.Naming.Identifiers
import Typelib.Proofs.Text.Lines
import Typelib.Proofs.Text.Numerals
import Typelib.Proofs.Wrapper.Siblings

/-!
# What the lines of a wrapper are made of

`IsCode` says of a text that it is put together from the generator's own texts (`ownTexts`),
identifiers, numerals, quoted texts, names that are imported, and paths to wrappers beside this one;
which imported names and which wrappers may stand in it are its parameters.  The own texts are a
list, so no text of a library is one of them.  The lines of a declaration are code as soon as its
identifiers are identifiers and its types are code (`Declaration.isCode_of_mem_lines`), and every
line of a wrapper is a comment or code (`Wrapper.line_cases`).
-/

namespace Typelib

/-! ## Code -/

/-- The texts that generated sources have of their own. -/
def ownTexts : List String :=
  ["#![allow(non_camel_case_types, non_snake_case, non_upper_case_globals, dead_code)]",
   "#[repr(C)]", "#[repr(transparent)]", "pub struct ", "pub type ", "pub const ", "pub mod ",
   "impl ", "use ", "(pub ", ");", " \x7b", "\x7d", "\x7d;", "::\x7b", "::", ";", ",", ", ", ": ",
   " = ", "    ", "    pub ", "    _opaque: [u8; 0],", ": unsafe extern \x22system\x22 fn(",
   ") -> ", "()", "*mut ", "[", "; ", "]", "&[", "&'static [&'static str]", "::from_u128(0x", ")",
   "i8", "i16", "i32", "i64", "u8", "u16", "u32", "u64", "f32", "f64", "&str", "bool", "true",
   "false", "f64::NAN", "f64::NEG_INFINITY", "f64::INFINITY"]

/-- A text is put together from own texts, identifiers, numerals and quoted texts, from imported
names among `symbols`, and from paths to the modules of `stems`.  There is always an own text
between two others, so no two of them run into one word. -/
inductive IsCode (symbols stems : List String) : String → Prop
  | empty : IsCode symbols stems ""
  | own {text : String} (h : text ∈ ownTexts) : IsCode symbols stems text
  | identifier {name : String} (h : IsIdentifier name) : IsCode symbols stems name
  | symbol {name : String} (h : name ∈ symbols) : IsCode symbols stems name
  | path {stem ident : String} (hstem : stem ∈ stems) (hident : IsIdentifier ident) :
      IsCode symbols stems ("super::" ++ stem ++ "::" ++ ident)
  | numeral {text : String} (h : ∀ c ∈ text.toList, isNumeralChar c) : IsCode symbols stems text
  | guid (value : Guid) : IsCode symbols stems (String.ofList (value.separated '_'))
  | quoted (value : String) : IsCode symbols stems (Text.quoted value)
  | before {own back : String} (h : own ∈ ownTexts) (hback : IsCode symbols stems back) :
      IsCode symbols stems (own ++ back)
  | after {front own : String} (hfront : IsCode symbols stems front) (h : own ∈ ownTexts) :
      IsCode symbols stems (front ++ own)
  | between {front own back : String} (hfront : IsCode symbols stems front) (h : own ∈ ownTexts)
      (hback : IsCode symbols stems back) : IsCode symbols stems (front ++ own ++ back)

/-- Whether a line is a comment, from its start to its end. -/
def IsComment (line : String) : Prop := ['/', '/'] <+: line.toList

instance : DecidablePred IsComment := fun line =>
  inferInstanceAs (Decidable (['/', '/'] <+: line.toList))

/-- What follows the start of a comment belongs to it. -/
theorem IsComment.append {front : String} (h : IsComment front) (back : String) :
    IsComment (front ++ back) := by
  unfold IsComment
  rw [String.toList_append]
  exact List.IsPrefix.trans h (List.prefix_append _ _)

namespace IsCode

variable {symbols stems : List String}

theorem natural (n : Nat) : IsCode symbols stems (toString n) :=
  .numeral fun _ hc => isNumeralChar_of_mem_toDigits (Text.toList_toString n ▸ hc)

theorem integer (n : Int) : IsCode symbols stems (toString n) := by
  cases n with
  | ofNat m => exact natural m
  | negSucc m =>
    refine .numeral fun c hc => ?_
    have hsign : toString (Int.negSucc m) = "-" ++ toString (m + 1) := rfl
    rw [hsign, String.toList_append] at hc
    rcases List.mem_append.mp hc with hc | hc
    · rw [List.mem_singleton.mp hc]
      decide
    · exact isNumeralChar_of_mem_toDigits (Text.toList_toString (m + 1) ▸ hc)

theorem double (style : NumberStyle) {d : Double} (hfinite : d.isFinite) :
    IsCode symbols stems (d.text style) :=
  .numeral fun _ hc => d.isNumeralChar_of_mem_text hfinite hc

theorem intercalate {texts : List String} (h : ∀ text ∈ texts, IsCode symbols stems text) :
    IsCode symbols stems (", ".intercalate texts) := by
  induction texts with
  | nil => exact .empty
  | cons text rest ih =>
    have hfirst := h text List.mem_cons_self
    cases rest with
    | nil => exact hfirst
    | cons next more =>
      rw [String.intercalate_cons_cons]
      exact .between hfirst (by simp [ownTexts]) (ih fun other hother => h other (.tail _ hother))

end IsCode

/-! ## Types -/

/-- Whether a bare name may stand in code: it is an identifier or one of some known symbols. -/
def NameRef.IsSound (symbols : List String) (ref : NameRef) : Prop :=
  IsIdentifier ref.ident ∨ ∃ name ∈ symbols, ref = .symbol name

/-- Whether the names in a type may stand in code, and the paths lead to the given modules. -/
structure TypeExpr.IsSound (symbols stems : List String) (type : TypeExpr) : Prop where
  names : ∀ ref ∈ type.names, ref.IsSound symbols
  paths : ∀ path ∈ type.paths, ∃ stem ∈ stems, ∃ ident, IsIdentifier ident ∧
    path = .sibling stem ident

variable {symbols stems : List String}

theorem NameRef.IsSound.isCode {ref : NameRef} (h : ref.IsSound symbols) :
    IsCode symbols stems ref.ident := by
  rcases h with hident | ⟨name, hname, rfl⟩
  · exact .identifier hident
  · exact .symbol hname

theorem TypeExpr.IsSound.isCode {type : TypeExpr} (h : type.IsSound symbols stems) :
    IsCode symbols stems type.text := by
  induction type with
  | unit => exact .own (by simp [text, ownTexts])
  | primitive type => exact .own (by cases type <;> simp [text, Primitive.text, ownTexts])
  | name ref => exact (h.names ref List.mem_cons_self).isCode
  | sibling stem ident =>
    obtain ⟨stem, hstem, ident, hident, heq⟩ := h.paths _ List.mem_cons_self
    obtain ⟨rfl, rfl⟩ := TypeExpr.sibling.inj heq
    exact .path hstem hident
  | pointer target ih =>
    have htarget : target.IsSound symbols stems := ⟨h.names, h.paths⟩
    exact .before (by simp [ownTexts]) (ih htarget)
  | array element length ih =>
    have helement : element.IsSound symbols stems := ⟨h.names, h.paths⟩
    refine .after (.between (.before ?_ (ih helement)) ?_ (.natural _)) ?_ <;> simp [ownTexts]

/-! ## Declarations -/

namespace ConstValue

theorem isCode_typeText (value : ConstValue) : IsCode symbols stems value.typeText := by
  refine .own ?_
  cases value with
  | int n => by_cases h : fitsInt32 n <;> simp [typeText, h, ownTexts]
  | float _ | str _ | bool _ => simp [typeText, ownTexts]

theorem isCode_literal (value : ConstValue) : IsCode symbols stems value.literal := by
  cases value with
  | int n => exact .integer _
  | float d =>
    by_cases hfinite : d.isFinite
    · rw [literal, if_pos hfinite]
      exact .double _ hfinite
    · refine .own ?_
      by_cases hnumber : d.isNaN <;> by_cases hsign : d.isNegative <;>
        simp [literal, hfinite, hnumber, hsign, ownTexts]
  | str s => exact .quoted s
  | bool b => cases b <;> exact .own (by simp [literal, ownTexts])

end ConstValue

namespace Declaration

/-- The identifiers in a declaration, those in its types left out. -/
def idents : Declaration → List String
  | handle name _ | unit name | hollow name | typeAlias name _ | guid name _ _ => [name]
  | record name fields => name :: fields.map Prod.fst
  | vtable name _ _ _ slots => name :: slots.flatMap fun s => s.name :: s.params.map Prod.fst
  | member name owner _ => [name, owner]
  | memberNumbers owner values => owner :: values.map Prod.fst
  | labels owner _ => [owner]
  | constants name values => name :: values.map Prod.fst
  | comment .. => []

/-- Whether the identifiers of a declaration are identifiers and its types are sound. -/
structure IsSound (symbols stems : List String) (d : Declaration) : Prop where
  idents : ∀ ident ∈ d.idents, IsIdentifier ident
  types : ∀ type ∈ d.types, type.IsSound symbols stems

variable {name type value head line : String} {inner : List String} {d : Declaration}

theorem isCode_fieldLine {content : TypeExpr} (hname : IsIdentifier name)
    (htype : content.IsSound symbols stems) : IsCode symbols stems (fieldLine name content) := by
  refine .after (.between (.before ?_ (.identifier hname)) ?_ htype.isCode) ?_ <;> simp [ownTexts]

theorem isCode_constantLine (hname : IsIdentifier name) (htype : IsCode symbols stems type)
    (hvalue : IsCode symbols stems value) :
    IsCode symbols stems (constantLine name type value) := by
  refine .after (.between (.between (.before ?_ (.identifier hname)) ?_ htype) ?_ hvalue) ?_ <;>
    simp [ownTexts]

/-- The lines of a block are code if its head and what is inside are. -/
theorem isCode_block (hhead : IsCode symbols stems head)
    (hinner : ∀ text ∈ inner, IsCode symbols stems text) (h : line ∈ block head inner) :
    IsCode symbols stems line := by
  simp only [block, List.cons_append, List.mem_cons, List.mem_append, List.not_mem_nil,
    or_false] at h
  rcases h with rfl | h | rfl
  · exact hhead.after (by simp [ownTexts])
  · exact hinner line h
  · exact .own (by simp [ownTexts])

/-- An own text and an identifier. -/
theorem isCode_head {own : String} (hown : own ∈ ownTexts) (hname : IsIdentifier name) :
    IsCode symbols stems (own ++ name) :=
  .before hown (.identifier hname)

/-- A line with four blanks in front. -/
theorem isCode_indented (h : IsCode symbols stems line) : IsCode symbols stems ("    " ++ line) :=
  .before (by simp [ownTexts]) h

theorem isCode_slotLine {object status : TypeExpr} {s : Slot} (hname : IsIdentifier s.name)
    (hparams : ∀ param ∈ s.allParams object,
      IsIdentifier param.1 ∧ param.2.IsSound symbols stems)
    (hstatus : status.IsSound symbols stems) :
    IsCode symbols stems (s.line object status) := by
  have htexts : ∀ text ∈ (s.allParams object).map fun param => param.1 ++ ": " ++ param.2.text,
      IsCode symbols stems text := by
    intro text htext
    obtain ⟨param, hparam, rfl⟩ := List.mem_map.mp htext
    obtain ⟨hident, htype⟩ := hparams param hparam
    exact .between (.identifier hident) (by simp [ownTexts]) htype.isCode
  refine .after (.between (.between (.before ?_ (.identifier hname)) ?_ (.intercalate htexts)) ?_
    hstatus.isCode) ?_ <;> simp [ownTexts]

/-- The parameters of a slot have identifiers, and their types are among those of the method
structure. -/
theorem IsSound.allParams {base object status : TypeExpr} {slots : List Slot}
    (h : (vtable name base object status slots).IsSound symbols stems) {s : Slot}
    (hs : s ∈ slots) : ∀ param ∈ s.allParams object,
      IsIdentifier param.1 ∧ param.2.IsSound symbols stems := by
  intro param hparam
  have htype : param.2 ∈ (vtable name base object status slots).types := by
    refine List.mem_append_left _ (List.mem_cons_of_mem _ ?_)
    exact List.mem_flatMap.mpr ⟨s, hs, List.mem_map_of_mem hparam⟩
  refine ⟨?_, h.types _ htype⟩
  simp only [Slot.allParams, List.cons_append, List.mem_cons, List.mem_append,
    List.mem_map] at hparam
  rcases hparam with rfl | hparam | ⟨result, -, rfl⟩
  · show IsIdentifier "this"
    decide
  · refine h.idents _ (List.mem_cons_of_mem _ (List.mem_flatMap.mpr ⟨s, hs, ?_⟩))
    exact List.mem_cons_of_mem _ (List.mem_map_of_mem hparam)
  · show IsIdentifier "result__"
    decide

/-! ### The lines of each kind of declaration -/

theorem isCode_layout : IsCode symbols stems "#[repr(C)]" := .own (by simp [ownTexts])

theorem isCode_handle {content : TypeExpr} (h : (handle name content).IsSound symbols stems)
    (hline : line ∈ (handle name content).lines) : IsCode symbols stems line := by
  have hname := h.idents name List.mem_cons_self
  have hcontent := h.types content List.mem_cons_self
  simp only [lines, List.mem_cons, List.not_mem_nil, or_false] at hline
  rcases hline with rfl | rfl
  · exact .own (by simp [ownTexts])
  · refine .after (.between (isCode_head ?_ hname) ?_ hcontent.isCode) ?_ <;> simp [ownTexts]

theorem isCode_unit (h : (unit name).IsSound symbols stems) (hline : line ∈ (unit name).lines) :
    IsCode symbols stems line := by
  obtain rfl := List.mem_singleton.mp hline
  have hname := h.idents name List.mem_cons_self
  exact .after (isCode_head (by simp [ownTexts]) hname) (by simp [ownTexts])

/-- A structure with C layout is code if what is inside is. -/
theorem isCode_struct (hname : IsIdentifier name)
    (hinner : ∀ text ∈ inner, IsCode symbols stems text)
    (hline : line ∈ "#[repr(C)]" :: block ("pub struct " ++ name) inner) :
    IsCode symbols stems line := by
  rcases List.mem_cons.mp hline with rfl | hline
  · exact isCode_layout
  · exact isCode_block (isCode_head (by simp [ownTexts]) hname) hinner hline

theorem isCode_record {fields : List (String × TypeExpr)}
    (h : (record name fields).IsSound symbols stems) (hline : line ∈ (record name fields).lines) :
    IsCode symbols stems line := by
  refine isCode_struct (h.idents name List.mem_cons_self) (fun text htext => ?_) hline
  obtain ⟨field, hfield, rfl⟩ := List.mem_map.mp htext
  exact isCode_fieldLine (h.idents _ (.tail _ (List.mem_map_of_mem hfield)))
    (h.types _ (List.mem_map_of_mem hfield))

theorem isCode_hollow (h : (hollow name).IsSound symbols stems)
    (hline : line ∈ (hollow name).lines) : IsCode symbols stems line := by
  refine isCode_struct (h.idents name List.mem_cons_self) (fun text htext => ?_) hline
  obtain rfl := List.mem_singleton.mp htext
  exact .own (by simp [ownTexts])

theorem isCode_vtable {base object status : TypeExpr} {slots : List Slot}
    (h : (vtable name base object status slots).IsSound symbols stems)
    (hline : line ∈ (vtable name base object status slots).lines) : IsCode symbols stems line := by
  have hstatus : status ∈ (vtable name base object status slots).types :=
    List.mem_append_right _ (.tail _ List.mem_cons_self)
  refine isCode_struct (h.idents name List.mem_cons_self) (fun text htext => ?_) hline
  rcases List.mem_cons.mp htext with rfl | htext
  · exact isCode_fieldLine (by decide) (h.types base List.mem_cons_self)
  · obtain ⟨s, hs, rfl⟩ := List.mem_map.mp htext
    refine isCode_slotLine (h.idents _ (.tail _ ?_)) (h.allParams hs) (h.types _ hstatus)
    exact List.mem_flatMap.mpr ⟨s, hs, List.mem_cons_self⟩

theorem isCode_typeAlias {target : TypeExpr} (h : (typeAlias name target).IsSound symbols stems)
    (hline : line ∈ (typeAlias name target).lines) : IsCode symbols stems line := by
  obtain rfl := List.mem_singleton.mp hline
  have hname := h.idents name List.mem_cons_self
  have htarget := h.types target List.mem_cons_self
  refine .after (.between (isCode_head ?_ hname) ?_ htarget.isCode) ?_ <;> simp [ownTexts]

theorem isCode_guid {type : TypeExpr} {value : Guid}
    (h : (guid name type value).IsSound symbols stems)
    (hline : line ∈ (guid name type value).lines) : IsCode symbols stems line := by
  obtain rfl := List.mem_singleton.mp hline
  have htype := (h.types type List.mem_cons_self).isCode
  refine isCode_constantLine (h.idents name List.mem_cons_self) htype ?_
  refine .after (.between htype ?_ (.guid value)) ?_ <;> simp [ownTexts]

theorem isCode_member {owner : String} {value : Int64}
    (h : (member name owner value).IsSound symbols stems)
    (hline : line ∈ (member name owner value).lines) : IsCode symbols stems line := by
  obtain rfl := List.mem_singleton.mp hline
  exact isCode_constantLine (h.idents name List.mem_cons_self)
    (.identifier (h.idents owner (.tail _ List.mem_cons_self))) (.integer _)

theorem isCode_memberNumbers {owner : String} {values : List (String × Int32)}
    (h : (memberNumbers owner values).IsSound symbols stems)
    (hline : line ∈ (memberNumbers owner values).lines) : IsCode symbols stems line := by
  have howner := h.idents owner List.mem_cons_self
  refine isCode_block (isCode_head (by simp [ownTexts]) howner) (fun text htext => ?_) hline
  obtain ⟨entry, hentry, rfl⟩ := List.mem_map.mp htext
  have hname := h.idents _ (.tail _ (List.mem_map_of_mem hentry))
  have hnumber : IsIdentifier ("DISPID" ++ "_" ++ entry.1) :=
    IsIdentifier.joined (by decide) hname.chars
  exact isCode_indented (isCode_constantLine hnumber (.own (by simp [ownTexts])) (.integer _))

theorem isCode_labels {owner : String} {values : List String}
    (h : (labels owner values).IsSound symbols stems)
    (hline : line ∈ (labels owner values).lines) : IsCode symbols stems line := by
  have howner := h.idents owner List.mem_cons_self
  refine isCode_block (isCode_head (by simp [ownTexts]) howner) (fun text htext => ?_) hline
  obtain rfl := List.mem_singleton.mp htext
  have hvalues : ∀ text ∈ values.map Text.quoted, IsCode symbols stems text := by
    intro text htext
    obtain ⟨label, -, rfl⟩ := List.mem_map.mp htext
    exact .quoted label
  refine isCode_indented (isCode_constantLine (by decide) (.own ?_)
    (.after (.before ?_ (.intercalate hvalues)) ?_)) <;> simp [ownTexts]

theorem isCode_constants {values : List (String × ConstValue)}
    (h : (constants name values).IsSound symbols stems)
    (hline : line ∈ (constants name values).lines) : IsCode symbols stems line := by
  have hname := h.idents name List.mem_cons_self
  refine isCode_block (isCode_head (by simp [ownTexts]) hname) (fun text htext => ?_) hline
  obtain ⟨entry, hentry, rfl⟩ := List.mem_map.mp htext
  exact isCode_indented (isCode_constantLine (h.idents _ (.tail _ (List.mem_map_of_mem hentry)))
    entry.2.isCode_typeText entry.2.isCode_literal)

/-- Every line of a sound declaration that is no comment is code. -/
theorem isCode_of_mem_lines (h : d.IsSound symbols stems) (hline : line ∈ d.lines) :
    (∃ isDoc text, d = .comment isDoc text) ∨ IsCode symbols stems line := by
  cases d with
  | comment isDoc text => exact .inl ⟨isDoc, text, rfl⟩
  | handle => exact .inr (isCode_handle h hline)
  | unit => exact .inr (isCode_unit h hline)
  | record => exact .inr (isCode_record h hline)
  | hollow => exact .inr (isCode_hollow h hline)
  | vtable => exact .inr (isCode_vtable h hline)
  | typeAlias => exact .inr (isCode_typeAlias h hline)
  | guid => exact .inr (isCode_guid h hline)
  | member => exact .inr (isCode_member h hline)
  | memberNumbers => exact .inr (isCode_memberNumbers h hline)
  | labels => exact .inr (isCode_labels h hline)
  | constants => exact .inr (isCode_constants h hline)

end Declaration

end Typelib
