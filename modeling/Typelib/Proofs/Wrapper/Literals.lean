import Typelib.Proofs.Text.Literals
import Typelib.Proofs.Wrapper.Members

/-!
# The literals of a wrapper

The constants of a module and the labels of a coclass come in from the library as they are, and a
wrapper writes them as literals.  Whatever they are, the literal of a text is read as that text and
ends where it should, and the literal of an integer has the smaller type that it fits and is read as
that integer (`ConstValue.isWrittenAs_literal`).  So the lines in which a wrapper defines constants
and labels say what the library declares (`literals_denote`).
-/

namespace Typelib

namespace ConstValue

/-- A literal of a type is one for a constant.  An integer of 32 bits has that type, and a larger
one the type of 64 bits. -/
def IsWrittenAs (value : ConstValue) (type literal : String) : Prop :=
  match value with
  | int n =>
    type = (if -2 ^ 31 ≤ n.toInt ∧ n.toInt < 2 ^ 31 then "i32" else "i64") ∧
      Text.integer? literal.toList = some n.toInt
  | float _ => type = "f64"
  | str s => type = "&str" ∧ Text.IsLiteralOf literal s
  | bool b => type = "bool" ∧ literal = if b then "true" else "false"

theorem isWrittenAs_literal (value : ConstValue) :
    value.IsWrittenAs value.typeText value.literal := by
  cases value with
  | int n =>
    refine ⟨?_, Text.integer?_toString n.toInt⟩
    simp [typeText, fitsInt32]
  | float d => rfl
  | str s => exact ⟨rfl, Text.isLiteralOf_quoted s⟩
  | bool b => exact ⟨rfl, rfl⟩

end ConstValue

/-- A line defines a constant under a name. -/
def IsConstantLine (entry : String × ConstValue) (line : String) : Prop :=
  ∃ type literal, line = "    pub const " ++ entry.1 ++ ": " ++ type ++ " = " ++ literal ++ ";" ∧
    entry.2.IsWrittenAs type literal

/-- A line lists labels. -/
def IsLabelLine (labels : List String) (line : String) : Prop :=
  ∃ literals, line = "    pub const INTERFACES: &'static [&'static str] = &[" ++
      ", ".intercalate literals ++ "];" ∧
    List.Forall₂ Text.IsLiteralOf literals labels

/-- Each constant is defined by its line. -/
theorem isConstantLine_constantLine (entry : String × ConstValue) :
    IsConstantLine entry
      ("    " ++ Declaration.constantLine entry.1 entry.2.typeText entry.2.literal) := by
  refine ⟨entry.2.typeText, entry.2.literal, ?_, entry.2.isWrittenAs_literal⟩
  simp [Declaration.constantLine, ← String.append_assoc]

/-- The labels of a coclass are listed by their line. -/
theorem isLabelLine_constantLine (labels : List String) :
    IsLabelLine labels ("    " ++ Declaration.constantLine "INTERFACES" "&'static [&'static str]"
      ("&[" ++ ", ".intercalate (labels.map Text.quoted) ++ "]")) := by
  have hend : "];" = "]" ++ ";" := rfl
  refine ⟨labels.map Text.quoted, ?_, ?_⟩
  · simp only [Declaration.constantLine, hend, String.append_assoc]
    rfl
  · exact List.forall₂_map_left_iff.mpr (List.forall₂_same.mpr fun s _ => Text.isLiteralOf_quoted s)

namespace Wrapper

variable {library : Identity} {items : Items} {known : Symbols} {source : Option Path}
  {name : String}

theorem labels_mem_declarations {clsid : Option Guid} {implemented : List Implemented}
    (h : .coClass name clsid implemented ∈ items.novel known) (hne : implemented ≠ []) :
    .labels ((Scope.of library items known).names.identOf name)
        (implemented.map fun i => i.interface.label) ∈
      (ofItems library items known source).declarations := by
  refine mem_declarations_of_novel h fun d => ?_
  simp only [Scope.declareItem, Scope.declareCoClass, if_neg hne]
  exact Declared.mem_withChosen (Declared.mem_withChosen Declared.mem_add_self)

/-- The constants of a module that are written, which are declared ones in their order, and the
labels of a coclass stand in the wrapper, each on its line, with literals that denote them. -/
theorem literals_denote (library : Identity) (items : Items) (known : Symbols)
    (source : Option Path) :
    let w := ofItems library items known source
    let scope := Scope.of library items known
    (∀ name values, .constants name values ∈ items.novel known →
      (Scope.moduleConstants values).Sublist (values.map Constant.entry) ∧
        ∃ lines, w.Shows (Declaration.block ("pub mod " ++ scope.names.identOf name) lines) ∧
          List.Forall₂ IsConstantLine (Scope.moduleConstants values) lines) ∧
    ∀ name clsid implemented, .coClass name clsid implemented ∈ items.novel known →
      implemented ≠ [] →
        ∃ line, w.Shows (Declaration.block ("impl " ++ scope.names.identOf name) [line]) ∧
          IsLabelLine (implemented.map fun i => i.interface.label) line := by
  intro w scope
  refine ⟨fun name values h => ⟨firstByName_sublist, _,
    shows_of_mem_declarations (constantModule_mem_declarations h), ?_⟩,
    fun name clsid implemented h hne => ⟨_,
      shows_of_mem_declarations (labels_mem_declarations h hne), isLabelLine_constantLine _⟩⟩
  exact List.forall₂_map_right_iff.mpr
    (List.forall₂_same.mpr fun entry _ => isConstantLine_constantLine entry)

/-- Constants whose texts look like code, and integers at the ends of 32 bits. -/
def awkwardConstants : List Constant :=
  [⟨"closing", .str "\x22;\n\x7d // \\"⟩, ⟨"marked", .str "e\u0301\u200b\x00"⟩,
    ⟨"least", .int (-2147483648)⟩, ⟨"large", .int 2147483648⟩]

/-- A coclass whose interfaces have such labels. -/
def awkwardImplemented : List Implemented :=
  [⟨.named "\x22]; \r", true, false⟩, ⟨.safeArray (.named "\x22"), false, false⟩]

/-- A module and a coclass of these. -/
def awkwardTexts : Items :=
  Table.ofList
    [("Texts", .constants "Texts" awkwardConstants),
      ("Shape", .coClass "Shape" none awkwardImplemented)]

theorem literals_denote_awkward :
    let w := ofItems ⟨⟨10#128⟩, 1, 0, 0⟩ awkwardTexts .standard none
    (.constants "Texts" awkwardConstants ∈ awkwardTexts.novel .standard ∧
      .coClass "Shape" none awkwardImplemented ∈ awkwardTexts.novel .standard ∧
      awkwardImplemented ≠ []) ∧
    (∃ lines, w.Shows (Declaration.block "pub mod Texts" lines) ∧
      List.Forall₂ IsConstantLine (awkwardConstants.map Constant.entry) lines) ∧
    ∃ line, w.Shows (Declaration.block "impl Shape" [line]) ∧
      IsLabelLine ["\x22]; \r", "SafeArray(Named(\x22\\\x22\x22))"] line := by
  intro w
  have hmodule : .constants "Texts" awkwardConstants ∈ awkwardTexts.novel .standard := by
    decide
  have hclass : .coClass "Shape" none awkwardImplemented ∈ awkwardTexts.novel .standard := by
    decide
  obtain ⟨hmodules, hclasses⟩ := literals_denote ⟨⟨10#128⟩, 1, 0, 0⟩ awkwardTexts .standard none
  obtain ⟨-, hlines⟩ := hmodules "Texts" awkwardConstants hmodule
  exact ⟨⟨hmodule, hclass, List.cons_ne_nil _ _⟩, hlines,
    hclasses "Shape" none awkwardImplemented hclass (List.cons_ne_nil _ _)⟩

end Wrapper

end Typelib
