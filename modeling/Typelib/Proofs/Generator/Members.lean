import Typelib.Proofs.Generator.History
import Typelib.Proofs.Store.Directory

/-!
# Members of the package

The modules that a generator commits become files of one package, beside the file of the package
itself, and what goes into their names comes from descriptors: four numbers, or a declared name
that may be any text.  Whatever it is, the name of the module is that of a member of the package
(`ModuleName.IsMember`): its stem is an identifier, so it holds neither a slash nor a dot, and it is
not the stem of the package's own file.

The files of two wrappers are the same only if the libraries are (`wrapperName_modulePath_eq_iff`),
and no friendly module takes the stem of a wrapper, even if it was declared in the shape of one or
is given that shape on the way to an identifier.  `committed_isMember` puts this together for
everything a generator commits.
-/

namespace Typelib

universe u

variable {σ : Type u}

/-! ## Stems and files -/

namespace ModuleName

variable {name : ModuleName}

/-- The name stands in the package, by a stem that is an identifier and is not the stem of the
package's own file. -/
structure IsMember (name : ModuleName) : Prop where
  text_eq : name.text = package ++ "::" ++ name.stem
  identifier : IsIdentifier name.stem
  apart : name.stem ≠ packageStem

theorem isMember_of_isIdentifier (h : IsIdentifier name.member) : name.IsMember where
  text_eq := by rw [stem_of_isIdentifier h, text]
  identifier := by rwa [stem_of_isIdentifier h]
  apart := ModuleDirectory.stem_ne_packageStem h

end ModuleName

/-- Modules of different names have different files. -/
theorem ModuleDirectory.modulePath_injective {d : ModuleDirectory} {name other : ModuleName}
    (hname : IsIdentifier name.member) (hother : IsIdentifier other.member)
    (h : d.modulePath name = d.modulePath other) : name = other := by
  have hfile : name.stem ++ ".rs" = other.stem ++ ".rs" :=
    Path.child_injective (isFileName_source (slash_not_mem_stem hname))
      (isFileName_source (slash_not_mem_stem hother)) h
  rw [String.append_left_inj, ModuleName.stem_of_isIdentifier hname,
    ModuleName.stem_of_isIdentifier hother] at hfile
  exact congrArg ModuleName.mk hfile

/-- The wrappers of two libraries have the same name, and the same file in a directory, only if the
libraries are the same. -/
theorem wrapperName_modulePath_eq_iff (a b : Identity) (d : ModuleDirectory) :
    (a.wrapperName = b.wrapperName ↔ a = b) ∧
      (a.wrapperName.text = b.wrapperName.text ↔ a = b) ∧
      (d.modulePath a.wrapperName = d.modulePath b.wrapperName ↔ a = b) := by
  have hname : a.wrapperName = b.wrapperName ↔ a = b :=
    ⟨Identity.wrapperName_injective, congrArg Identity.wrapperName⟩
  refine ⟨hname, ?_, ?_⟩
  · rw [← hname]
    exact ⟨ModuleName.text_injective, congrArg ModuleName.text⟩
  · rw [← hname]
    exact ⟨ModuleDirectory.modulePath_injective a.wrapperName_isIdentifier
      b.wrapperName_isIdentifier, congrArg d.modulePath⟩

theorem wrapperName_stem (i : Identity) : i.wrapperName.stem = i.wrapperStem :=
  ModuleName.stem_of_isIdentifier i.wrapperName_isIdentifier

/-- The stem of a friendly module is not that of a wrapper. -/
theorem friendlyName_stem_ne {declared : Option String} {name : ModuleName}
    (h : friendlyName declared = .ok (some name)) (i : Identity) : name.stem ≠ i.wrapperStem := by
  rw [ModuleName.stem_of_isIdentifier (friendlyName_isIdentifier h)]
  intro hstem
  exact friendlyName_ne_wrapperName h i (congrArg ModuleName.mk hstem)

/-! ## The names of what is committed -/

/-- A friendly module that is generated goes by the friendly name of its library. -/
def Event.IsNamed : Event → Prop
  | aliased library name => library.friendlyName = .ok (some name)
  | corrupt _ | parsed _ | generated .. => True

/-- So it is committed under the name of a wrapper or under a friendly name. -/
theorem Event.IsNamed.target {event : Event} {name : ModuleName} (h : event.IsNamed)
    (htarget : event.target? = some name) :
    (∃ i : Identity, name = i.wrapperName) ∨
      ∃ declared, friendlyName declared = .ok (some name) := by
  cases event with
  | corrupt library => cases htarget
  | parsed library => cases htarget
  | generated library items => exact .inl ⟨library.identity, (Option.some.inj htarget).symm⟩
  | aliased library other =>
    obtain rfl : other = name := Option.some.inj htarget
    exact .inr ⟨library.declaredName, h⟩

namespace Generator

section Named

variable {env : Environment σ} {store : Store σ} {located : Located} {library : Library}
  {wrapper : Module} {identity : Identity} {events : List Event} {g after : Generator σ}

theorem WrapperStep.isNamed {r : Except RequestError (Module × List Identity) × Generator σ}
    (h : WrapperStep env store located g events r) : ∀ event ∈ events, event.IsNamed := by
  cases h <;> simp [Event.IsNamed]

theorem FriendlyStep.isNamed {r : Except RequestError (Option Module) × Generator σ}
    (h : FriendlyStep store library wrapper g events r) : ∀ event ∈ events, event.IsNamed := by
  cases h <;> simp [Event.IsNamed, *]

theorem TakeUpStep.isNamed {r : Outcome × Generator σ}
    (h : TakeUpStep env store identity g events r) : ∀ event ∈ events, event.IsNamed := by
  cases h with
  | unlocated hlocate => exact List.forall_mem_nil _
  | mismatch hlocate hother => exact List.forall_mem_nil _
  | failed hlocate hidentity hwrapper => exact hwrapper.isNamed
  | finished hlocate hidentity hwrapper hfriendly =>
    exact List.forall_mem_append.mpr ⟨hwrapper.isNamed, hfriendly.isNamed⟩

theorem Taken.isNamed {visits : List Visit} (h : Taken env store g visits after) :
    ∀ event ∈ visitEvents env store visits g, event.IsNamed := by
  induction h with
  | nil => exact List.forall_mem_nil _
  | cons h ih => exact List.forall_mem_append.mpr ⟨(takeUp_step env store _ _).isNamed, ih⟩

theorem ServeStep.isNamed {designator : Designator} {base : Option Path} {served : Served σ}
    (h : ServeStep env store designator base g events served) :
    ∀ event ∈ events, event.IsNamed := by
  cases h with
  | unlocated hlocate => exact List.forall_mem_nil _
  | failed hlocate hwrapper => exact hwrapper.isNamed
  | finished hlocate hwrapper hchase hfriendly =>
    have hvisits := (Taken.of_chaseFrom hchase).isNamed
    exact List.forall_mem_append.mpr
      ⟨hwrapper.isNamed, List.forall_mem_append.mpr ⟨hvisits, hfriendly.isNamed⟩⟩

theorem history_isNamed (actions : List (Action σ)) (g : Generator σ) :
    ∀ event ∈ history actions g, event.IsNamed := by
  induction actions generalizing g with
  | nil => exact List.forall_mem_nil _
  | cons action rest ih =>
    refine List.forall_mem_append.mpr ⟨?_, ih _⟩
    cases action with
    | request env designator base => exact (serve_step env designator base g).isNamed
    | configure directory => exact List.forall_mem_nil _
    | change world => exact List.forall_mem_nil _

end Named

/-- The wrapper of every library and the friendly module of every declared name are members of the
package, no friendly module has the stem of a wrapper, and in whatever is done with a generator
nothing is committed under another name. -/
theorem committed_isMember (i : Identity) (declared : Option String) (actions : List (Action σ))
    (g : Generator σ) :
    (i.wrapperName.IsMember ∧ i.wrapperName.stem = i.wrapperStem) ∧
    (∀ name, friendlyName declared = .ok (some name) →
      name.IsMember ∧ ∀ j : Identity, name.stem ≠ j.wrapperStem) ∧
    ∀ event ∈ history actions g, ∀ name, event.target? = some name →
      name.IsMember ∧ ((∃ j : Identity, name = j.wrapperName) ∨
        ∃ declared, friendlyName declared = .ok (some name)) := by
  have hwrapper (j : Identity) : j.wrapperName.IsMember :=
    ModuleName.isMember_of_isIdentifier j.wrapperName_isIdentifier
  have hfriendly {declared : Option String} {name : ModuleName}
      (h : friendlyName declared = .ok (some name)) : name.IsMember :=
    ModuleName.isMember_of_isIdentifier (friendlyName_isIdentifier h)
  refine ⟨⟨hwrapper i, wrapperName_stem i⟩, fun name hname => ?_, ?_⟩
  · exact ⟨hfriendly hname, friendlyName_stem_ne hname⟩
  · intro event hevent name htarget
    have hform := (history_isNamed actions g event hevent).target htarget
    refine ⟨?_, hform⟩
    rcases hform with ⟨j, rfl⟩ | ⟨other, hother⟩
    · exact hwrapper j
    · exact hfriendly hother

/-- A name with a way out of the directory, a pair of colons and a line feed becomes a member of the
package; one that takes the shape of a wrapper's as an identifier is refused. -/
theorem committed_isMember_hostile :
    friendlyName (some "../mod::type\n") = .ok (some ⟨"___mod__type_"⟩) ∧
      (⟨"___mod__type_"⟩ : ModuleName).IsMember ∧
      (∀ j : Identity, (⟨"___mod__type_"⟩ : ModuleName).stem ≠ j.wrapperStem) ∧
      friendlyName (some "11111111-1111 1111:1111.111111111111/0,1;0") =
        .error ⟨"11111111-1111 1111:1111.111111111111/0,1;0",
          ⟨"_11111111_1111_1111_1111_111111111111_0_1_0"⟩⟩ := by
  have hname : friendlyName (some "../mod::type\n") = .ok (some ⟨"___mod__type_"⟩) := by
    decide
  obtain ⟨-, hfriendly, -⟩ := committed_isMember ⟨⟨1⟩, 1, 0, 0⟩ (some "../mod::type\n")
    ([] : List (Action World)) (.start ⟨⟨.empty, none⟩, [.empty]⟩ (.configured none))
  obtain ⟨hmember, hstem⟩ := hfriendly _ hname
  exact ⟨hname, hmember, hstem, by decide⟩

end Generator

end Typelib
