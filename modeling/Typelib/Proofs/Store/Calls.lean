import Mathlib
import Typelib.Proofs.Module.Name
import Typelib.Proofs.Naming.Imports
import Typelib.Store.Basic

/-!
# Sequences of calls

A caller sees a store through the answers to its calls (`Store.answers`).  A store `Represents`
texts if each of its states holds a text under some names: these are found, they are listed, and a
commit puts one in place of what was held under the name.  So after any calls a store that held
nothing holds under every name the text of the last commit (`Represents.after`), and two stores that
represent texts answer alike, except that the modules are stored in different places
(`Represents.answers_eq`).
-/

namespace Typelib

universe u v

/-- A call of a store. -/
inductive StoreCall where
  | commit (name : ModuleName) (text : String)
  | load (name : ModuleName)
  | list

/-- What a call answers. -/
inductive StoreAnswer where
  | committed (result : Except StoreError Module)
  | found (result : Lookup)
  | listed (result : Except StoreError (List ModuleName))

/-- The module, stored elsewhere. -/
def Module.storedIn (backing : ModuleName → Backing) (m : Module) : Module :=
  { m with backing := backing m.name }

namespace Lookup

/-- What is found where a text is held, or none. -/
def ofText? (name : ModuleName) (backing : Backing) : Option String → Lookup
  | some text => .hit ⟨name, text, backing⟩
  | none => .absent

/-- What is found, stored elsewhere. -/
def storedIn (backing : ModuleName → Backing) : Lookup → Lookup
  | hit m => hit (m.storedIn backing)
  | absent => absent
  | invalid fault => invalid fault

theorem storedIn_ofText? {name : ModuleName} {place : Backing} {text : Option String}
    (backing : ModuleName → Backing) :
    (ofText? name place text).storedIn backing = ofText? name (backing name) text := by
  cases text <;> rfl

end Lookup

/-- The answer, with its modules stored elsewhere. -/
def StoreAnswer.storedIn (backing : ModuleName → Backing) : StoreAnswer → StoreAnswer
  | committed result => committed (result.map (Module.storedIn backing))
  | found result => found (result.storedIn backing)
  | listed result => listed result

/-! ## What was committed last -/

namespace StoreCall

variable {calls : List StoreCall} {name : ModuleName} {text : String}

/-- The name of the call, if it has one, is of some kind. -/
def Names (kind : ModuleName → Prop) : StoreCall → Prop
  | commit name _ => kind name
  | load name => kind name
  | list => True

/-- The text that the call commits under a name. -/
def text? (name : ModuleName) : StoreCall → Option String
  | commit other text => if other = name then some text else none
  | load _ => none
  | list => none

/-- The text that was committed last under a name. -/
def lastText? (calls : List StoreCall) (name : ModuleName) : Option String :=
  calls.reverse.findSome? (text? name)

/-- The texts that are held after a call. -/
def update (held : ModuleName → Option String) : StoreCall → ModuleName → Option String
  | commit name text => Function.update held name (some text)
  | load _ => held
  | list => held

theorem lastText?_append (calls : List StoreCall) (call : StoreCall) :
    lastText? (calls ++ [call]) = call.update (lastText? calls) := by
  funext name
  have hlast : lastText? (calls ++ [call]) name =
      (call.text? name).or (lastText? calls name) := by
    simp only [lastText?, List.reverse_append, List.reverse_singleton, List.singleton_append,
      List.findSome?_cons]
    cases call.text? name <;> rfl
  rw [hlast]
  cases call with
  | commit other text =>
    by_cases hname : other = name
    · subst hname
      simp [text?, update]
    · simp [text?, update, hname, Function.update_of_ne (Ne.symm hname)]
  | load other => rfl
  | list => rfl

end StoreCall

open StoreCall

/-! ## Answers -/

/-- The names that are listed depend on which there are only. -/
theorem sortedNames_congr {xs ys : List ModuleName} (h : ∀ name, name ∈ xs ↔ name ∈ ys) :
    sortedNames xs = sortedNames ys :=
  ascending_congr ModuleName.not_below_self (fun _ _ _ => ModuleName.below_trans)
    (fun _ _ => ModuleName.below_total) h

/-- No name is listed twice. -/
theorem nodup_sortedNames (xs : List ModuleName) : (sortedNames xs).Nodup := by
  have htrans (a b c : ModuleName) (hab : a.below b) (hbc : b.below c) : a.below c :=
    ModuleName.below_trans hab hbc
  have htotal (a b : ModuleName) (hne : a ≠ b) (hab : a.below b = false) : b.below a :=
    ModuleName.below_total hne hab
  have hsorted : (sortedNames xs).Pairwise fun a b => a.below b :=
    pairwise_ascending htrans htotal xs
  refine hsorted.imp fun {a b} hab heq => ?_
  rw [heq, ModuleName.not_below_self] at hab
  cases hab

namespace Store

variable {σ : Type u} {τ : Type v}

/-- The answer to a call, and the state afterwards. -/
def answer (store : Store σ) (state : σ) : StoreCall → StoreAnswer × σ
  | .commit name text =>
    let (result, after) := store.commit state name text
    (.committed result, after)
  | .load name => (.found (store.load state name), state)
  | .list => (.listed (store.list state), state)

/-- The state after some calls. -/
def after (store : Store σ) (state : σ) (calls : List StoreCall) : σ :=
  calls.foldl (fun state call => (store.answer state call).2) state

/-- The answers to some calls, one after the other. -/
def answers (store : Store σ) (state : σ) : List StoreCall → List StoreAnswer
  | [] => []
  | call :: rest =>
    (store.answer state call).1 :: store.answers (store.answer state call).2 rest

/-- Each state of a store holds texts under names of some kind, and commits replace them. -/
structure Represents (store : Store σ) (kind : ModuleName → Prop) (backing : ModuleName → Backing)
    (holds : σ → (ModuleName → Option String) → Prop) : Prop where
  load_eq : ∀ {state held name}, holds state held → kind name →
    store.load state name = .ofText? name (backing name) (held name)
  commit_eq : ∀ {state held name}, holds state held → kind name → ∀ text, ∃ after,
    store.commit state name text = (.ok ⟨name, text, backing name⟩, after) ∧
      holds after (Function.update held name (some text))
  list_eq : ∀ {state held}, holds state held → ∃ listed,
    store.list state = .ok (sortedNames listed) ∧ ∀ name, name ∈ listed ↔ (held name).isSome

theorem Represents.mono {store : Store σ} {kind fewer : ModuleName → Prop}
    {backing : ModuleName → Backing} {holds : σ → (ModuleName → Option String) → Prop}
    (h : store.Represents kind backing holds) (hfewer : ∀ {name}, fewer name → kind name) :
    store.Represents fewer backing holds where
  load_eq hstate hname := h.load_eq hstate (hfewer hname)
  commit_eq hstate hname := h.commit_eq hstate (hfewer hname)
  list_eq := h.list_eq

section Represents

variable {store : Store σ} {kind : ModuleName → Prop} {backing : ModuleName → Backing}
  {holds : σ → (ModuleName → Option String) → Prop} {state : σ}
  {held : ModuleName → Option String} {call : StoreCall} {calls : List StoreCall}
  (h : store.Represents kind backing holds)

include h

/-- A call replaces the text that it commits. -/
theorem Represents.answer (hstate : holds state held) (hcall : call.Names kind) :
    holds (store.answer state call).2 (call.update held) := by
  cases call with
  | commit name text =>
    obtain ⟨after, hcommit, hafter⟩ := h.commit_eq hstate hcall text
    simpa only [Store.answer, hcommit, StoreCall.update] using hafter
  | load name => exact hstate
  | list => exact hstate

/-- After some calls a store that held nothing holds the texts that were committed last. -/
theorem Represents.after (hstate : holds state fun _ => none)
    (hcalls : ∀ call ∈ calls, call.Names kind) :
    holds (store.after state calls) (lastText? calls) := by
  induction calls using List.reverseRecOn with
  | nil => exact hstate
  | append_singleton calls call ih =>
    rw [List.forall_mem_append, List.forall_mem_singleton] at hcalls
    have hafter := h.answer (ih hcalls.1) hcalls.2
    rw [← lastText?_append] at hafter
    simpa only [Store.after, List.foldl_append, List.foldl_cons, List.foldl_nil] using hafter

theorem Represents.load_after {name : ModuleName} (hstate : holds state fun _ => none)
    (hcalls : ∀ call ∈ calls, call.Names kind) (hname : kind name) :
    store.load (store.after state calls) name =
      .ofText? name (backing name) (lastText? calls name) :=
  h.load_eq (h.after hstate hcalls) hname

/-- One more commit changes what is found under its own name only. -/
theorem Represents.load_after_commit {name committed : ModuleName} {text : String}
    (hstate : holds state fun _ => none) (hcalls : ∀ call ∈ calls, call.Names kind)
    (hname : kind name) (hcommitted : kind committed) (hne : committed ≠ name) :
    store.load (store.after state (calls ++ [StoreCall.commit committed text])) name =
      store.load (store.after state calls) name := by
  have hmore : ∀ call ∈ calls ++ [StoreCall.commit committed text], call.Names kind := by
    rw [List.forall_mem_append, List.forall_mem_singleton]
    exact ⟨hcalls, hcommitted⟩
  rw [h.load_after hstate hmore hname, h.load_after hstate hcalls hname, lastText?_append, update,
    Function.update_of_ne hne.symm]

variable {other : Store τ} {elsewhere : ModuleName → Backing}
  {holdsToo : τ → (ModuleName → Option String) → Prop} {stateToo : τ}
  (hother : other.Represents kind elsewhere holdsToo)

include hother

/-- Stores that hold the same texts answer a call alike, up to where the modules are stored. -/
theorem Represents.answer_eq (hstate : holds state held) (hstateToo : holdsToo stateToo held)
    (hcall : call.Names kind) :
    (store.answer state call).1 = (other.answer stateToo call).1.storedIn backing := by
  cases call with
  | commit name text =>
    obtain ⟨after, hcommit, -⟩ := h.commit_eq hstate hcall text
    obtain ⟨afterToo, hcommitToo, -⟩ := hother.commit_eq hstateToo hcall text
    simp only [Store.answer, hcommit, hcommitToo]
    rfl
  | load name =>
    simp only [Store.answer, h.load_eq hstate hcall, hother.load_eq hstateToo hcall,
      StoreAnswer.storedIn, Lookup.storedIn_ofText?]
  | list =>
    obtain ⟨listed, hlist, hmem⟩ := h.list_eq hstate
    obtain ⟨listedToo, hlistToo, hmemToo⟩ := hother.list_eq hstateToo
    have hsame : sortedNames listed = sortedNames listedToo :=
      sortedNames_congr fun name => (hmem name).trans (hmemToo name).symm
    simp only [Store.answer, hlist, hlistToo, hsame, StoreAnswer.storedIn]

/-- They answer a sequence of calls alike. -/
theorem Represents.answers_eq (hstate : holds state held) (hstateToo : holdsToo stateToo held)
    (hcalls : ∀ call ∈ calls, call.Names kind) :
    store.answers state calls =
      (other.answers stateToo calls).map (StoreAnswer.storedIn backing) := by
  induction calls generalizing state stateToo held with
  | nil => rfl
  | cons call rest ih =>
    rw [List.forall_mem_cons] at hcalls
    have hnext := h.answer hstate hcalls.1
    have hnextToo := hother.answer hstateToo hcalls.1
    rw [answers, answers, List.map_cons, h.answer_eq hother hstate hstateToo hcalls.1,
      ih hnext hnextToo hcalls.2]

end Represents

end Store

end Typelib
