import Typelib.Generator.World
import Typelib.Proofs.Module.Seal

/-!
# Laws of stores

In a store that is `Named` a module goes by the name it is asked for or committed under.  A store
is `Lawful` in a set of worlds if, moreover, commits do not lead out of it and leave the modules
under other names as they were; names are told apart as far as they are identifiers, since the
stem of a module's file is then the member part of its name.  It is `Faithful` if a committed module
has the text that was given.  It is `Retentive` if a module that was committed is found under its
name from then on, until another one is committed under the same name.  That commits under a name
succeed (`Commits`) is no law, since a store may refuse them; it is `Atomic` if it then holds what
it held before.  A store that is retentive, faithful and atomic is `Reliable`.

The store in memory is lawful, faithful, retentive and atomic, and it carries out every commit
(`memory_lawful`, `memory_faithful`, `memory_retentive`, `memory_atomic`, `memory_commits`); the
stores of a configured `World` are named (`openStore_named`).
-/

namespace Typelib

universe u v

namespace Store

variable {σ : Type u} {τ : Type v}

/-- The modules of a store go by the names they are asked for. -/
structure Named (store : Store σ) : Prop where
  load_name : ∀ {state name m}, store.load state name = .hit m → m.name = name
  commit_name : ∀ {state name text m after},
    store.commit state name text = (.ok m, after) → m.name = name

/-- In a set of worlds a store keeps modules apart, and commits do not lead out of it. -/
structure Lawful (store : Store σ) (worlds : σ → Prop) : Prop where
  named : store.Named
  keeps : ∀ {state name}, worlds state → IsIdentifier name.member → ∀ text,
    worlds (store.commit state name text).2
  /-- A commit, successful or not, concerns the modules under its own name only. -/
  frame : ∀ {state name text other m}, worlds state → IsIdentifier name.member →
    IsIdentifier other.member → other ≠ name →
    (store.load (store.commit state name text).2 other = .hit m ↔ store.load state other = .hit m)

/-- In a set of worlds every commit under a name succeeds. -/
def Commits (store : Store σ) (worlds : σ → Prop) (name : ModuleName) : Prop :=
  ∀ state, worlds state → ∀ text, ∃ m after, store.commit state name text = (.ok m, after)

/-- In a set of worlds a module that was committed has the text that was given. -/
structure Faithful (store : Store σ) (worlds : σ → Prop) : Prop where
  text_eq : ∀ {state name text m after}, worlds state → IsIdentifier name.member →
    store.commit state name text = (.ok m, after) → m.text = text

/-- In a set of worlds a module that was committed is found, and whatever is found under a name
stays there until a commit under the same name succeeds. -/
structure Retentive (store : Store σ) (worlds : σ → Prop) : Prop where
  named : store.Named
  keeps : ∀ {state name}, worlds state → IsIdentifier name.member → ∀ text,
    worlds (store.commit state name text).2
  found : ∀ {state name text m after}, worlds state → IsIdentifier name.member →
    store.commit state name text = (.ok m, after) → store.load after name = .hit m
  stays : ∀ {state name text other m}, worlds state → IsIdentifier name.member →
    IsIdentifier other.member → other ≠ name → store.load state other = .hit m →
    store.load (store.commit state name text).2 other = .hit m
  refused : ∀ {state name text e after m}, worlds state → IsIdentifier name.member →
    store.commit state name text = (.error e, after) → store.load state name = .hit m →
    store.load after name = .hit m

/-- In a set of worlds a commit that is refused leaves what is stored as it was. -/
structure Atomic (store : Store σ) (worlds : σ → Prop) : Prop where
  load_eq : ∀ {state name text e after other}, worlds state → IsIdentifier name.member →
    IsIdentifier other.member → store.commit state name text = (.error e, after) →
    store.load after other = store.load state other

/-- In a set of worlds a store keeps what it is given, whichever commits it refuses. -/
structure Reliable (store : Store σ) (worlds : σ → Prop) : Prop where
  retentive : store.Retentive worlds
  faithful : store.Faithful worlds
  atomic : store.Atomic worlds

theorem Faithful.mono {store : Store σ} {worlds smaller : σ → Prop} (h : store.Faithful worlds)
    (hsmaller : ∀ {state}, smaller state → worlds state) : store.Faithful smaller where
  text_eq hstate := h.text_eq (hsmaller hstate)

/-- The set of worlds may be made smaller if commits do not lead out of it. -/
theorem Retentive.mono {store : Store σ} {worlds smaller : σ → Prop} (h : store.Retentive worlds)
    (hsmaller : ∀ {state}, smaller state → worlds state)
    (hkeeps : ∀ {state name}, smaller state → IsIdentifier name.member → ∀ text,
      smaller (store.commit state name text).2) : store.Retentive smaller where
  named := h.named
  keeps := hkeeps
  found hstate := h.found (hsmaller hstate)
  stays hstate := h.stays (hsmaller hstate)
  refused hstate := h.refused (hsmaller hstate)

/-- A commit, successful or not, leaves what is found under another name. -/
theorem Retentive.load_commit {store : Store σ} {worlds : σ → Prop} {state after : σ}
    {name other : ModuleName} {text : String} {r : Except StoreError Module} {m : Module}
    (h : store.Retentive worlds) (hstate : worlds state) (hname : IsIdentifier name.member)
    (hother : IsIdentifier other.member) (hne : other ≠ name)
    (hcommit : store.commit state name text = (r, after))
    (hfound : store.load state other = .hit m) : store.load after other = .hit m := by
  have hstays := @h.stays state name text other m hstate hname hother hne hfound
  rwa [hcommit] at hstays

/-- No wrapper can be looked up in a store: under the name of each there is nothing, or something
that cannot be used. -/
def HoldsNoWrapper (store : Store σ) (state : σ) : Prop :=
  ∀ (i : Identity) m, store.load state i.wrapperName ≠ .hit m

theorem imported_eq_ok {name : ModuleName} {found : Lookup} {m : Module}
    (h : imported name found = .ok m) : found = .hit m := by
  cases found <;> simp_all [imported]

/-! ## The store in memory -/

theorem sealedTable_lookup_name {sealed : SealedTable} {name : ModuleName} {m : Module}
    (h : sealed.lookup name = .hit m) : m.name = name := by
  unfold SealedTable.lookup at h
  split at h
  · simp at h
  · split at h
    · rw [← Lookup.hit.inj h]
    · simp at h

theorem memory_named : memory.Named where
  load_name := sealedTable_lookup_name
  commit_name h := by
    simp only [memory, SealedTable.commit, Prod.mk.injEq] at h
    exact sealedTable_lookup_name (imported_eq_ok h.1)

theorem memory_lawful : memory.Lawful fun _ => True where
  named := memory_named
  keeps _ _ _ := trivial
  frame {sealed name text other m} _ _ _ hne := by
    have hsame : (sealed.insert name (sealText name text)).get? other = sealed.get? other := by
      rw [Table.get?_insert, if_neg hne]
    simp only [memory, SealedTable.commit, SealedTable.lookup, hsame]

/-- A module that is sealed under its name is found, if the name has no line feed. -/
theorem sealedTable_lookup_sealText {sealed : SealedTable} {name : ModuleName} {text : String}
    (h : '\n' ∉ name.text.toList) (hsealed : sealed.get? name = some (sealText name text)) :
    sealed.lookup name = .hit ⟨name, text, .memory⟩ := by
  have hread := readSealed_sealText text h
  simp only [SealedTable.lookup, hsealed, hread]

theorem sealedTable_lookup {sealed : SealedTable} {name : ModuleName} {text : String}
    (h : IsIdentifier name.member) (hsealed : sealed.get? name = some (sealText name text)) :
    sealed.lookup name = .hit ⟨name, text, .memory⟩ :=
  sealedTable_lookup_sealText (lineFeed_not_mem_text h) hsealed

/-- A text that does not open is not found. -/
theorem sealedTable_lookup_unsealed {sealed : SealedTable} {name : ModuleName} {text : String}
    {e : SealError} (hsealed : sealed.get? name = some text)
    (hread : readSealed name text = .error e) :
    sealed.lookup name = .invalid (.unsealed none e) := by
  simp only [SealedTable.lookup, hsealed, hread]

theorem sealedTable_lookup_absent {sealed : SealedTable} {name : ModuleName}
    (h : sealed.get? name = none) : sealed.lookup name = .absent := by
  simp only [SealedTable.lookup, h]

theorem memory_holdsNoWrapper : memory.HoldsNoWrapper .empty := by
  intro i m hfound
  have habsent : memory.load .empty i.wrapperName = .absent := rfl
  cases habsent.symm.trans hfound

/-- What is committed to memory is found there. -/
theorem memory_commit {sealed : SealedTable} {name : ModuleName} (h : '\n' ∉ name.text.toList)
    (text : String) :
    memory.commit sealed name text =
      (.ok ⟨name, text, .memory⟩, sealed.insert name (sealText name text)) := by
  have hsealed : (sealed.insert name (sealText name text)).get? name =
      some (sealText name text) := by
    rw [Table.get?_insert, if_pos rfl]
  simp only [memory, SealedTable.commit, sealedTable_lookup_sealText h hsealed, imported]

theorem memory_commits (worlds : SealedTable → Prop) {name : ModuleName}
    (h : IsIdentifier name.member) : memory.Commits worlds name :=
  fun _ _ text => ⟨_, _, memory_commit (lineFeed_not_mem_text h) text⟩

theorem memory_faithful (worlds : SealedTable → Prop) : memory.Faithful worlds where
  text_eq _ hname hcommit := by
    rw [memory_commit (lineFeed_not_mem_text hname)] at hcommit
    cases hcommit
    rfl

theorem memory_retentive : memory.Retentive fun _ => True where
  named := memory_named
  keeps _ _ _ := trivial
  found _ _ hcommit := by
    obtain ⟨hm, rfl⟩ := Prod.mk.inj hcommit
    exact imported_eq_ok hm
  stays hstate hname hother hne hfound :=
    (memory_lawful.frame hstate hname hother hne).mpr hfound
  refused _ hname hcommit := by
    rw [memory_commit (lineFeed_not_mem_text hname)] at hcommit
    cases hcommit

/-- No commit to memory is refused. -/
theorem memory_atomic (worlds : SealedTable → Prop) : memory.Atomic worlds where
  load_eq _ hname _ hcommit := by
    rw [memory_commit (lineFeed_not_mem_text hname)] at hcommit
    cases hcommit

/-! ## Stores over a part of a state -/

section Within

variable {store : Store σ} {get : τ → σ} {set : τ → σ → τ}

theorem Named.within (h : store.Named) : (store.within get set).Named where
  load_name := h.load_name
  commit_name hcommit := h.commit_name (Prod.ext (Prod.mk.inj hcommit).1 rfl)

/-- A part that takes a new value or keeps its old one is enough. -/
theorem Lawful.within {worlds : σ → Prop} {wider : τ → Prop} (h : store.Lawful worlds)
    (hget : ∀ {state}, wider state → worlds (get state))
    (hset : ∀ {state part}, wider state → worlds part → wider (set state part))
    (hread : ∀ state part, get (set state part) = part ∨ get (set state part) = get state) :
    (store.within get set).Lawful wider where
  named := h.named.within
  keeps hstate hname text := hset hstate (h.keeps (hget hstate) hname text)
  frame {state name text other m} hstate hname hother hne := by
    simp only [Store.within]
    rcases hread state (store.commit (get state) name text).2 with heq | heq
    · rw [heq]
      exact h.frame (hget hstate) hname hother hne
    · rw [heq]

theorem Commits.within {worlds : σ → Prop} {wider : τ → Prop} {name : ModuleName}
    (h : store.Commits worlds name) (hget : ∀ {state}, wider state → worlds (get state)) :
    (store.within get set).Commits wider name := by
  intro state hstate text
  obtain ⟨m, part, hcommit⟩ := h (get state) (hget hstate) text
  refine ⟨m, set state part, ?_⟩
  simp only [Store.within, hcommit]

theorem Faithful.within {worlds : σ → Prop} {wider : τ → Prop} (h : store.Faithful worlds)
    (hget : ∀ {state}, wider state → worlds (get state)) :
    (store.within get set).Faithful wider where
  text_eq hstate hname hcommit :=
    h.text_eq (hget hstate) hname (Prod.ext (Prod.mk.inj hcommit).1 rfl)

theorem Atomic.within {worlds : σ → Prop} {wider : τ → Prop} (h : store.Atomic worlds)
    (hget : ∀ {state}, wider state → worlds (get state))
    (hread : ∀ state part, get (set state part) = part ∨ get (set state part) = get state) :
    (store.within get set).Atomic wider where
  load_eq {state name text e after other} hstate hname hother hcommit := by
    obtain ⟨hresult, rfl⟩ := Prod.mk.inj hcommit
    simp only [Store.within]
    rcases hread state (store.commit (get state) name text).2 with heq | heq
    · rw [heq]
      exact h.load_eq (hget hstate) hname hother (Prod.ext hresult rfl)
    · rw [heq]

/-- A part that takes a new value is needed to keep what it is given. -/
theorem Retentive.within {worlds : σ → Prop} {wider : τ → Prop} (h : store.Retentive worlds)
    (hget : ∀ {state}, wider state → worlds (get state))
    (hset : ∀ {state part}, wider state → worlds part → wider (set state part))
    (hread : ∀ {state part}, wider state → get (set state part) = part) :
    (store.within get set).Retentive wider where
  named := h.named.within
  keeps hstate hname text := hset hstate (h.keeps (hget hstate) hname text)
  found {state name text m after} hstate hname hcommit := by
    obtain ⟨hresult, rfl⟩ := Prod.mk.inj hcommit
    simp only [Store.within, hread hstate]
    exact h.found (hget hstate) hname (Prod.ext hresult rfl)
  stays hstate hname hother hne hfound := by
    simp only [Store.within, hread hstate]
    exact h.stays (hget hstate) hname hother hne hfound
  refused {state name text e after m} hstate hname hcommit hfound := by
    obtain ⟨hresult, rfl⟩ := Prod.mk.inj hcommit
    simp only [Store.within, hread hstate]
    exact h.refused (hget hstate) hname (Prod.ext hresult rfl) hfound

end Within

/-! ## The store in a directory -/

theorem directory_lookup_name {d : ModuleDirectory} {files : Files} {name : ModuleName}
    {m : Module} (h : d.lookup files name = .hit m) : m.name = name := by
  unfold ModuleDirectory.lookup at h
  dsimp only at h
  cases hread : files.readText (d.modulePath name) with
  | error fault =>
    rw [hread] at h
    cases fault <;> cases h
  | ok text =>
    rw [hread] at h
    dsimp only at h
    cases hopen : readSealed name text with
    | error e =>
      rw [hopen] at h
      cases h
    | ok body =>
      rw [hopen] at h
      cases h
      rfl

theorem directory_commit_name {d : ModuleDirectory} {files after : Files} {name : ModuleName}
    {text : String} {m : Module} (h : d.commit files name text = (.ok m, after)) :
    m.name = name := by
  unfold ModuleDirectory.commit at h
  split at h
  · cases h
  · split at h
    · cases h
    · rw [Prod.mk.injEq] at h
      exact directory_lookup_name (imported_eq_ok h.1)

theorem directory_named (d : ModuleDirectory) : (directory d).Named := by
  refine ⟨fun h => ?_, fun h => ?_⟩ <;> simp only [directory] at h
  · exact directory_lookup_name h
  · exact directory_commit_name h

end Store

/-! ## The stores of a world -/

namespace World

theorem memory_named (number : Nat) : (memory number).Named := Store.memory_named.within

theorem memory_commits (number : Nat) {name : ModuleName} (h : IsIdentifier name.member) :
    (memory number).Commits (fun _ => True) name :=
  (Store.memory_commits (fun _ => True) h).within id

theorem memory_faithful (number : Nat) : (memory number).Faithful fun _ => True :=
  (Store.memory_faithful fun _ => True).within id

/-- Setting what a number stands for changes nothing if no store in memory has that number. -/
theorem sealed_set (number : Nat) (w : World) (table : SealedTable) :
    World.sealed { w with memories := w.memories.set number table } number = table ∨
      World.sealed { w with memories := w.memories.set number table } number =
        w.sealed number := by
  by_cases h : number < w.memories.length
  · exact .inl (by simp [sealed, h])
  · have hset : w.memories.set number table = w.memories :=
      List.set_eq_of_length_le (Nat.le_of_not_lt h)
    exact .inr (by simp [hset])

theorem memory_lawful (number : Nat) : (memory number).Lawful fun _ => True :=
  Store.memory_lawful.within id (fun _ => id) (sealed_set number)

/-- The store in memory of a number keeps what it is given as long as there is one. -/
theorem memory_retentive (number : Nat) :
    (memory number).Retentive fun w => number < w.memories.length := by
  refine Store.memory_retentive.within (fun _ => trivial) (fun hw _ => ?_) fun hw => ?_
  · simpa using hw
  · simp [sealed, hw]

theorem memory_reliable (number : Nat) :
    (memory number).Reliable fun w => number < w.memories.length where
  retentive := memory_retentive number
  faithful := (memory_faithful number).mono fun _ => trivial
  atomic := (Store.memory_atomic fun _ => True).within (fun _ => trivial) (sealed_set number)

theorem directory_named (d : ModuleDirectory) : (directory d).Named :=
  (Store.directory_named d).within

theorem openStore_named (number : Nat) (configured : Option Path) (w : World) :
    (openStore number configured w).1.Named := by
  unfold openStore
  split
  · exact memory_named number
  · split
    · exact directory_named _
    · exact memory_named number

end World

end Typelib
