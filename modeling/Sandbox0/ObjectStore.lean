-- Objects behind an API server with optimistic concurrency. Every write gives its
-- object a new version, a conditional write names the version that it was read at,
-- and a cache holds versions of the past.
import Mathlib

namespace sandbox0

open Function List Nat

structure Object (α : Type) where
  uid : Nat
  resourceVersion : Nat
  value : α
  deriving DecidableEq

/-- The objects of a server, with every version that it ever stored. -/
structure ObjectStore (κ α : Type) where
  objects : κ → Option (Object α)
  revision : Nat
  history : List (κ × Object α)

namespace ObjectStore

variable {κ α : Type}

def empty : ObjectStore κ α where
  objects _ := none
  revision := 0
  history := []

variable [DecidableEq κ]

def put (s : ObjectStore κ α) (k : κ) (o : Object α) : ObjectStore κ α where
  objects := Function.update s.objects k (some o)
  revision := s.revision + 1
  history := (k, o) :: s.history

/-- A new object has a new uid. -/
def create (s : ObjectStore κ α) (k : κ) (a : α) : ObjectStore κ α :=
  s.put k { uid := s.revision + 1, resourceVersion := s.revision + 1, value := a }

def write (s : ObjectStore κ α) (k : κ) (uid : Nat) (a : α) : ObjectStore κ α :=
  s.put k { uid, resourceVersion := s.revision + 1, value := a }

def remove (s : ObjectStore κ α) (k : κ) : ObjectStore κ α :=
  { s with objects := Function.update s.objects k none, revision := s.revision + 1 }

def removeWhere (s : ObjectStore κ α) (p : κ → Bool) : ObjectStore κ α :=
  { s with objects := fun k => if p k then none else s.objects k, revision := s.revision + 1 }

/-- The precondition of a conditional write: the uid and the version are current. -/
def IsCurrent (s : ObjectStore κ α) (k : κ) (o : Object α) : Prop :=
  ∃ cur ∈ s.objects k, cur.uid = o.uid ∧ cur.resourceVersion = o.resourceVersion

instance (s : ObjectStore κ α) (k : κ) (o : Object α) : Decidable (s.IsCurrent k o) :=
  inferInstanceAs (Decidable (∃ cur ∈ s.objects k, _))

/-! ## What every store keeps -/

/-- A version is of one object, and a uid is in one place. -/
structure Sound (s : ObjectStore κ α) : Prop where
  stored : ∀ k o, s.objects k = some o → (k, o) ∈ s.history
  version_le : ∀ k o, (k, o) ∈ s.history → o.resourceVersion ≤ s.revision
  uid_le : ∀ k o, (k, o) ∈ s.history → o.uid ≤ s.revision
  version_inj : ∀ k o k' o', (k, o) ∈ s.history → (k', o') ∈ s.history →
    o.resourceVersion = o'.resourceVersion → o = o'
  place : ∀ k o k' o', (k, o) ∈ s.history → (k', o') ∈ s.history → o.uid = o'.uid → k = k'

omit [DecidableEq κ] in
lemma sound_empty : (empty : ObjectStore κ α).Sound :=
  ⟨nofun, nofun, nofun, nofun, nofun⟩

lemma objects_put (s : ObjectStore κ α) (k : κ) (o : Object α) : (s.put k o).objects k = some o :=
  update_self ..

variable {s : ObjectStore κ α} {k : κ} {o : Object α}

lemma of_objects_put {k' : κ} {o' : Object α} (h : (s.put k o).objects k' = some o') :
    (k' = k ∧ o' = o) ∨ (k' ≠ k ∧ s.objects k' = some o') := by
  by_cases hk : k' = k
  · subst hk
    rw [objects_put] at h
    cases h
    exact .inl ⟨rfl, rfl⟩
  · rw [put] at h
    dsimp only at h
    rw [update_of_ne hk] at h
    exact .inr ⟨hk, h⟩

lemma of_objects_remove {k' : κ}
    (h : (s.remove k).objects k' = some o) : s.objects k' = some o := by
  rw [remove] at h
  dsimp only at h
  by_cases hk : k' = k
  · subst hk
    rw [update_self] at h
    cases h
  · rwa [update_of_ne hk] at h

/-- A version that is new, of an object whose uid is in this place or nowhere. -/
lemma Sound.put (h : s.Sound)
    (hversion : o.resourceVersion = s.revision + 1) (huid : o.uid ≤ s.revision + 1)
    (hplace : ∀ k' o', (k', o') ∈ s.history → o'.uid = o.uid → k' = k) : (s.put k o).Sound := by
  have hnew : ∀ k' o', (k', o') ∈ s.history → o'.resourceVersion ≠ o.resourceVersion := by
    intro k' o' hmem hsame
    have := h.version_le k' o' hmem
    omega
  refine ⟨?_, ?_, ?_, ?_, ?_⟩
  · intro k' o' ho
    rcases of_objects_put ho with ⟨rfl, rfl⟩ | ⟨-, ho⟩
    · exact mem_cons_self
    · exact mem_cons_of_mem _ (h.stored k' o' ho)
  · rintro k' o' (_ | ⟨_, hmem⟩)
    · exact hversion.le
    · exact le_succ_of_le (h.version_le k' o' hmem)
  · rintro k' o' (_ | ⟨_, hmem⟩)
    · exact huid
    · exact le_succ_of_le (h.uid_le k' o' hmem)
  · rintro k₁ o₁ k₂ o₂ (_ | ⟨_, h₁⟩) (_ | ⟨_, h₂⟩) hsame
    · rfl
    · exact absurd hsame.symm (hnew k₂ o₂ h₂)
    · exact absurd hsame (hnew k₁ o₁ h₁)
    · exact h.version_inj k₁ o₁ k₂ o₂ h₁ h₂ hsame
  · rintro k₁ o₁ k₂ o₂ (_ | ⟨_, h₁⟩) (_ | ⟨_, h₂⟩) hsame
    · rfl
    · exact (hplace k₂ o₂ h₂ hsame.symm).symm
    · exact hplace k₁ o₁ h₁ hsame
    · exact h.place k₁ o₁ k₂ o₂ h₁ h₂ hsame

lemma Sound.create (h : s.Sound) (k : κ) (a : α) : (s.create k a).Sound := by
  refine h.put rfl le_rfl ?_
  intro k' o' hmem hsame
  have := h.uid_le k' o' hmem
  dsimp only at hsame
  omega

lemma Sound.write (h : s.Sound) {cur : Object α}
    (hcur : s.objects k = some cur) (a : α) : (s.write k cur.uid a).Sound := by
  have hstored := h.stored k cur hcur
  refine h.put rfl (le_succ_of_le (h.uid_le k cur hstored)) ?_
  intro k' o' hmem hsame
  exact h.place k' o' k cur hmem hstored hsame

lemma Sound.remove (h : s.Sound) (k : κ) : (s.remove k).Sound :=
  ⟨fun k' o ho => h.stored k' o (of_objects_remove ho),
    fun k' o hmem => le_succ_of_le (h.version_le k' o hmem),
    fun k' o hmem => le_succ_of_le (h.uid_le k' o hmem), h.version_inj, h.place⟩

omit [DecidableEq κ] in
lemma of_objects_removeWhere {p : κ → Bool}
    (h : (s.removeWhere p).objects k = some o) : p k = false ∧ s.objects k = some o := by
  rw [removeWhere] at h
  dsimp only at h
  split at h
  · cases h
  · rename_i hp
    exact ⟨Bool.eq_false_of_not_eq_true hp, h⟩

omit [DecidableEq κ] in
lemma Sound.removeWhere (h : s.Sound) (p : κ → Bool) : (s.removeWhere p).Sound :=
  ⟨fun k o ho => h.stored k o (of_objects_removeWhere ho).2,
    fun k o hmem => le_succ_of_le (h.version_le k o hmem),
    fun k o hmem => le_succ_of_le (h.uid_le k o hmem), h.version_inj, h.place⟩

omit [DecidableEq κ] in
lemma Sound.eq_of_isCurrent (h : s.Sound)
    (hcached : (k, o) ∈ s.history) (hcur : s.IsCurrent k o) : s.objects k = some o := by
  obtain ⟨cur, hcur, -, hversion⟩ := hcur
  rw [h.version_inj k o k cur hcached (h.stored k cur hcur) hversion.symm]
  exact hcur

end ObjectStore

end sandbox0
