import Typelib.Proofs.Module.Opening
import Typelib.Proofs.Store.Neighbours

/-!
# What a commit leaves when it fails

A commit writes first and looks the module up afterwards.  Under a name without a line feed nothing
can go wrong in between: memory refuses nothing, and a directory refuses before it writes, so that
all it can leave is a directory prepared (`refused_eq_prepare`).  Under a name with a line feed the
module is written and is not read back: the commit fails, and what it wrote stays
(`memory_commit_of_mem`, `directory_commit_of_mem`).  So failed commits leave a store as it looked
before exactly if the name has no line feed (`refused_untouched_iff`, `written_and_refused`).
-/

namespace Typelib

universe u

namespace Store

variable {σ : Type u} {name : ModuleName} {first rest : List Char} {text : String}

/-- Two states of a store cannot be told apart: under every name the same is found, and the same
names are listed. -/
def LooksAlike (store : Store σ) (before after : σ) : Prop :=
  (∀ name, store.load after name = store.load before name) ∧ store.list after = store.list before

theorem LooksAlike.refl (store : Store σ) (state : σ) : store.LooksAlike state state :=
  ⟨fun _ => rfl, rfl⟩

/-! ## Names with a line feed -/

/-- Memory keeps what is committed under a name with a line feed, and fails to read it back. -/
theorem memory_commit_of_mem (hname : name.text.toList = first ++ '\n' :: rest)
    (hfirst : '\n' ∉ first) (sealed : SealedTable) (text : String) :
    let fault := ImportFault.unsealed none (.nameMismatch name (String.ofList first))
    let after := sealed.insert name (sealText name text)
    memory.commit sealed name text = (.error (.importFailed name fault), after) ∧
      memory.load after name = .invalid fault := by
  intro fault after
  have hsealed : after.get? name = some (sealText name text) := by
    rw [Table.get?_insert, if_pos rfl]
  have hlookup : SealedTable.lookup after name = .invalid fault :=
    sealedTable_lookup_unsealed hsealed (readSealed_sealText_of_mem text hname hfirst)
  refine ⟨?_, hlookup⟩
  show (imported name (SealedTable.lookup after name), after) = _
  rw [hlookup, imported]

/-- So does a directory, if the file can be written. -/
theorem directory_commit_of_mem {d : ModuleDirectory} {files made after : Files}
    (hname : name.text.toList = first ++ '\n' :: rest) (hfirst : '\n' ∉ first)
    (hprepare : d.prepare files = (made, none))
    (hwrite : d.writeText made (d.modulePath name) (sealText name text) = .ok after) :
    let fault := ImportFault.unsealed (some (d.modulePath name))
      (.nameMismatch name (String.ofList first))
    (directory d).commit files name text = (.error (.importFailed name fault), after) ∧
      (directory d).load after name = .invalid fault := by
  intro fault
  have hread := ModuleDirectory.readText_writeText hwrite
  have hlookup : d.lookup after name = .invalid fault := by
    unfold ModuleDirectory.lookup
    simp only [hread, readSealed_sealText_of_mem text hname hfirst, fault]
  refine ⟨?_, by rw [directory_load, hlookup]⟩
  rw [directory_commit, ModuleDirectory.commit_of_writeText hprepare hwrite, hlookup, imported]

/-! ## Names without one -/

/-- A directory that refuses a commit is left as preparing it leaves it. -/
theorem refused_eq_prepare {d : ModuleDirectory} {files after : Files} {e : StoreError}
    (hname : '\n' ∉ name.text.toList)
    (hcommit : (directory d).commit files name text = (.error e, after)) :
    after = (d.prepare files).1 := by
  have hstep := d.commit_step files hname text
  rw [directory_commit] at hcommit
  rw [hcommit] at hstep
  cases hstep with
  | unprepared hprepare => rw [hprepare]
  | unwritten hprepare hwrite => rw [hprepare]

/-- Failed commits under a name leave a store as it looked before, whatever it holds, exactly if the
name has no line feed.  A directory that is not prepared looks as if it had been prepared. -/
theorem refused_untouched_iff (name : ModuleName) :
    ((∀ sealed text e after, memory.commit sealed name text = (.error e, after) →
        memory.LooksAlike sealed after) ∧
      ∀ d files text e after, (directory d).commit files name text = (.error e, after) →
        (directory d).LooksAlike (d.prepare files).1 after ∧
          (d.IsPrepared files → (directory d).LooksAlike files after)) ↔
      '\n' ∉ name.text.toList := by
  constructor
  · rintro ⟨hmemory, -⟩ hmem
    obtain ⟨first, rest, hname, hfirst⟩ := List.eq_append_cons_of_mem hmem
    obtain ⟨hcommit, hload⟩ := memory_commit_of_mem hname hfirst .empty ""
    have hsame := (hmemory _ _ _ _ hcommit).1 name
    rw [hload] at hsame
    cases hsame
  · intro hname
    constructor
    · intro sealed text e after hcommit
      rw [memory_commit hname] at hcommit
      cases hcommit
    · intro d files text e after hcommit
      have hafter := refused_eq_prepare hname hcommit
      refine ⟨by rw [hafter]; exact .refl _ _, fun hprepared => ?_⟩
      rw [hafter, hprepared.prepare]
      exact .refl _ _

/-! ## A module that stays -/

/-- A directory right below the root. -/
def bindings : ModuleDirectory := ⟨⟨"/gen"⟩⟩

/-- The directory as it is when it has been opened, with nothing else below the root. -/
def bindingsOpened : Files := (bindings.prepare ⟨.empty, none⟩).1

theorem bindingsOpened_isPrepared : bindings.IsPrepared bindingsOpened := by
  have hprepare : bindings.prepare ⟨.empty, none⟩ = (bindingsOpened, none) :=
    Prod.ext rfl (by decide)
  exact ModuleDirectory.isPrepared_of_prepare hprepare

/-- Under a name with a line feed nothing is found and nothing is listed.  A commit under it fails,
in memory and in a directory, and then something is. -/
theorem written_and_refused :
    let name : ModuleName := ⟨"Acme\nMore"⟩
    (memory.load .empty name = .absent ∧ memory.list .empty = .ok [] ∧
      ∃ e after, memory.commit .empty name "" = (.error e, after) ∧
        (∃ fault, memory.load after name = .invalid fault) ∧ memory.list after = .ok [name]) ∧
    (directory bindings).load bindingsOpened name = .absent ∧
      (directory bindings).list bindingsOpened = .ok [] ∧
      ∃ e after, (directory bindings).commit bindingsOpened name "" = (.error e, after) ∧
        (∃ fault, (directory bindings).load after name = .invalid fault) ∧
        (directory bindings).list after = .ok [name] := by
  intro name
  have hname : name.text.toList = "gen::Acme".toList ++ '\n' :: "More".toList := by decide
  have hfirst : '\n' ∉ "gen::Acme".toList := by decide
  constructor
  · obtain ⟨hcommit, hload⟩ := memory_commit_of_mem hname hfirst .empty ""
    exact ⟨rfl, rfl, _, _, hcommit, ⟨_, hload⟩, rfl⟩
  · have hlocate : bindingsOpened.locate (bindings.modulePath name) =
        .ok ["gen", "Acme\nMore.rs"] := by decide
    have hwrite : bindings.writeText bindingsOpened (bindings.modulePath name) (sealText name "") =
        .ok (bindingsOpened.put ["gen", "Acme\nMore.rs"] (.file (sealText name "").toUTF8)) :=
      Files.replaceFile_of_find (by decide) (l := ["gen"]) (by decide) hlocate
        (by decide) (by decide)
    obtain ⟨hcommit, hload⟩ :=
      directory_commit_of_mem hname hfirst bindingsOpened_isPrepared.prepare hwrite
    exact ⟨by decide, by decide, _, _, hcommit, ⟨_, hload⟩, by decide⟩

end Store

end Typelib
