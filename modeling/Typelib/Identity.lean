import Typelib.Ascending
import Typelib.Guid

/-!
# Identities of libraries

A type library is identified by its identifier, its version and its locale.  `Identity.rank` puts
the four numbers into one, so identities are ordered by identifier, then version, then locale, and
there are `Identity.count` of them in all.
-/

namespace Typelib

/-- What identifies a type library: identifier, version and locale. -/
structure Identity where
  libid : Guid
  major : UInt16
  minor : UInt16
  lcid : UInt32
  deriving DecidableEq

namespace Identity

/-- The four parts in one number, the identifier first. -/
def rank (i : Identity) : Nat :=
  ((i.libid.value.toNat * 0x10000 + i.major.toNat) * 0x10000 + i.minor.toNat) * 0x100000000 +
    i.lcid.toNat

/-- The number of identities. -/
def count : Nat := 0x1000000000000000000000000000000000000000000000000

/-- The order by identifier, then version, then locale. -/
def below (a b : Identity) : Bool := decide (a.rank < b.rank)

/-- The distinct identities of a list, in order. -/
def sorted (is : List Identity) : List Identity := ascending below is

/-- The version, as `major.minor` in decimal. -/
def versionText (i : Identity) : String := s!"{i.major.toNat}.{i.minor.toNat}"

/-- The text of an identity in messages and headers. -/
def text (i : Identity) : String :=
  i.libid.braced ++ " " ++ i.versionText ++ " (lcid " ++ toString i.lcid.toNat ++ ")"

theorem rank_lt_count (i : Identity) : i.rank < count := by
  have hg := i.libid.value.isLt
  have hM := i.major.toNat_lt
  have hm := i.minor.toNat_lt
  have hl := i.lcid.toNat_lt
  simp only [rank, count]
  omega

/-- The rank determines the identity. -/
theorem rank_injective {a b : Identity} (h : a.rank = b.rank) : a = b := by
  have hM := a.major.toNat_lt
  have hM' := b.major.toNat_lt
  have hm := a.minor.toNat_lt
  have hm' := b.minor.toNat_lt
  have hl := a.lcid.toNat_lt
  have hl' := b.lcid.toNat_lt
  simp only [rank] at h
  obtain ⟨⟨ga⟩, Ma, ma, la⟩ := a
  obtain ⟨⟨gb⟩, Mb, mb, lb⟩ := b
  simp only at *
  have h1 : ga.toNat = gb.toNat := by omega
  have h2 : Ma.toNat = Mb.toNat := by omega
  have h3 : ma.toNat = mb.toNat := by omega
  have h4 : la.toNat = lb.toNat := by omega
  rw [BitVec.eq_of_toNat_eq h1, UInt16.toNat_inj.mp h2, UInt16.toNat_inj.mp h3,
    UInt32.toNat_inj.mp h4]

/-- Distinct numbers below a bound are at most as many as the bound. -/
theorem length_le_of_below {ns : List Nat} {bound : Nat} (distinct : ns.Nodup)
    (below : ∀ n ∈ ns, n < bound) : ns.length ≤ bound := by
  induction bound generalizing ns with
  | zero =>
    cases ns with
    | nil => exact Nat.le_refl _
    | cons n rest => exact absurd (below n (by simp)) (Nat.not_lt_zero n)
  | succ bound ih =>
    have rest : (ns.erase bound).length ≤ bound := ih (distinct.erase bound) fun n mem => by
      have := (List.Nodup.mem_erase_iff distinct).mp mem
      have := below n this.2
      omega
    have := List.length_erase (a := bound) (l := ns)
    split at this <;> omega

/-- There are no more distinct identities than `count`. -/
theorem length_le_count {is : List Identity} (distinct : is.Nodup) : is.length ≤ count := by
  have ranks : (is.map rank).Nodup :=
    (List.pairwise_map).mpr (distinct.imp fun different same => different (rank_injective same))
  simpa using length_le_of_below ranks (by simpa using fun i _ => rank_lt_count i)

end Identity

end Typelib
