import Typelib.Proofs.Generator.Fixed
import Typelib.Proofs.Naming.Stems
import Typelib.Proofs.Store.Interchange

/-!
# Directories that were empty when they were opened

Once an empty directory has been opened, nothing lies in it but what is committed from then on
(`ModuleDirectory.Holds`, `World.IsHeld`).  A store in the directory is lawful then, it carries out
the commits for which there is room (`World.directory_commits_isHeld`), and opening it again leaves
it alone; to begin with it holds no wrapper (`World.fixes_of_empty`).
-/

namespace Typelib

/-! ## What can be found -/

namespace ModuleDirectory

variable {d : ModuleDirectory} {files : Files} {loc : Location} {held : ModuleName → Option String}
  {name : ModuleName}

/-- What is found under a plain name is held there, whether or not there is room for the name. -/
theorem Holds.isSome_of_lookup (h : d.Holds loc files held) (hname : name.IsPlain) {m : Module}
    (hfound : d.lookup files name = .hit m) : (held name).isSome := by
  obtain ⟨text, body, hread, -⟩ := lookup_eq_hit.mp hfound
  obtain ⟨-, content, hfile, -⟩ :=
    (h.leads.readText_eq_ok (isFileName_source (slash_not_mem_of_isPlain hname))).mp hread
  have hnode := (h.node_eq hname).symm.trans hfile
  obtain ⟨text, htext, -⟩ := Option.map_eq_some_iff.mp hnode
  rw [htext]
  rfl

/-- A commit, successful or not, leaves nothing else in the directory. -/
theorem Holds.exists_commit (h : d.Holds loc files held) (hname : name.IsPlain) (text : String) :
    ∃ held, d.Holds loc (d.commit files name text).2 held := by
  have hstep := d.commit_step files hname.lineFeed_not_mem_text text
  have hprepared := h.prepared.prepare
  generalize d.commit files name text = r at hstep
  cases hstep with
  | unprepared hprepare =>
    rw [hprepared] at hprepare
    cases hprepare
  | unwritten hprepare hwrite =>
    rw [hprepared] at hprepare
    cases hprepare
    exact ⟨held, h⟩
  | written hprepare hwrite hfound =>
    rw [hprepared] at hprepare
    cases hprepare
    exact ⟨_, h.writeText hname hwrite⟩

end ModuleDirectory

/-! ## The worlds in which a directory holds texts -/

namespace World

variable {d : ModuleDirectory} {loc : Location} {w : World} {name : ModuleName} {number : Nat}
  {p : Path}

/-- Nothing lies in a directory but texts under plain names and the file of the package. -/
def IsHeld (d : ModuleDirectory) (loc : Location) (w : World) : Prop :=
  ∃ held, d.Holds loc w.files held

theorem directory_lawful_isHeld (d : ModuleDirectory) (loc : Location) :
    (directory d).Lawful (IsHeld d loc) where
  named := directory_named d
  keeps hw hname text := by
    obtain ⟨held, h⟩ := hw
    exact h.exists_commit (ModuleName.isPlain_of_isIdentifier hname) text
  frame hw hname hother hne := by
    obtain ⟨held, h⟩ := hw
    exact (directory_lawful d).frame ⟨loc, h.leads⟩ hname hother hne

/-- A commit for which there is room is carried out. -/
theorem directory_commits_isHeld (hname : IsIdentifier name.member) (hroom : d.HasRoomFor name) :
    (directory d).Commits (IsHeld d loc) name := by
  rintro w ⟨held, h⟩ text
  obtain ⟨after, hcommit, -⟩ := h.commit (ModuleName.isPlain_of_isIdentifier hname) hroom text
  exact ⟨_, _, directory_commit hcommit⟩

/-- Opening an empty directory leads to a world in which no text is held. -/
theorem holds_of_empty (number : Nat) (hempty : w.files.entries p = .ok [])
    (hopens : (ModuleDirectory.prepare ⟨p⟩ w.files).2 = none) :
    ∃ loc, ModuleDirectory.Holds ⟨p⟩ loc (openStore number (some p) w).2.files fun _ => none := by
  rw [openStore_of_prepare hopens]
  exact ModuleDirectory.holds_openAt hempty (ModuleDirectory.openAt_of_prepare hopens)

/-- A store in a directory in which no text is held holds no wrapper. -/
theorem holdsNoWrapper_of_holds (h : d.Holds loc w.files fun _ => none) :
    (directory d).HoldsNoWrapper w := by
  intro i m hfound
  rw [directory_load] at hfound
  have hname := ModuleName.isPlain_of_isIdentifier i.wrapperName_isIdentifier
  cases h.isSome_of_lookup hname hfound

/-- The requests of a generator work with the directory that was empty, and no wrapper is stored
there when it is opened. -/
theorem fixes_of_empty (number : Nat) (hempty : w.files.entries p = .ok [])
    (hopens : (ModuleDirectory.prepare ⟨p⟩ w.files).2 = none) :
    ∃ loc, Destination.Fixes (.configured (some p)) (openStore number) w (directory ⟨p⟩)
        (IsHeld ⟨p⟩ loc) ∧
      (directory ⟨p⟩).HoldsNoWrapper (openStore number (some p) w).2 := by
  obtain ⟨loc, h⟩ := holds_of_empty number hempty hopens
  have hprepared : ∀ {later}, IsHeld ⟨p⟩ loc later → ModuleDirectory.IsPrepared ⟨p⟩ later.files :=
    fun ⟨_, hlater⟩ => hlater.prepared
  exact ⟨loc, (directory_fixes hopens).mono hprepared ⟨_, h⟩, holdsNoWrapper_of_holds h⟩

/-! ## An example -/

/-- A world with an empty directory right below the root, and an empty store in memory. -/
def bare : World := ⟨Store.bareTree, [.empty]⟩

theorem entries_bare : bare.files.entries ⟨"/gen"⟩ = .ok [] := by decide

theorem prepare_bare : (ModuleDirectory.prepare ⟨⟨"/gen"⟩⟩ bare.files).2 = none := by
  decide

theorem openStore_bare (number : Nat) :
    (openStore number (some ⟨"/gen"⟩) bare).1 = directory ⟨⟨"/gen"⟩⟩ := by
  rw [openStore_of_prepare prepare_bare]

end World

end Typelib
