-- The handles of a mounted volume: the tables of `VolumeContext` in
-- `storage-proxy/pkg/volume/backend.go`. The count of an inode is the number of
-- its open handles.
import Sandbox0.GoMap

namespace sandbox0.volume

open Set

/-- The fields of `VolumeContext` under `handleMu`. -/
structure Handles where
  nextHandleID : Nat
  fileHandles : GoMap Nat Nat
  openFileCount : GoMap Nat Nat
  unlinkedFiles : GoMap Nat Unit

open GoMap

namespace Handles

def empty : Handles := ⟨0, ∅, ∅, ∅⟩

/-- `v.openFileCount[inode]`. -/
def count (v : Handles) (inode : Nat) : Nat := v.openFileCount[inode]?.getD 0

def openFileHandle (inode : Nat) (v : Handles) : Nat × Handles :=
  let handleID := v.nextHandleID + 1
  (handleID, { v with
    nextHandleID := handleID
    fileHandles := v.fileHandles.insert handleID inode
    openFileCount := v.openFileCount.insert inode (v.count inode + 1) })

/-- The answer tells whether a handle is open. -/
def markUnlinkedFileIfOpen (inode : Nat) (v : Handles) : Bool × Handles :=
  if v.count inode = 0 then (false, v)
  else (true, { v with unlinkedFiles := v.unlinkedFiles.insert inode () })

/-- What `ReleaseFileHandle` returns. -/
structure Released where
  inode : Nat
  remaining : Nat
  unlinked : Bool
  ok : Bool

def dropCount (inode : Nat) (v : Handles) : GoMap Nat Nat :=
  if v.count inode > 1 then v.openFileCount.insert inode (v.count inode - 1)
  else v.openFileCount.erase inode

/-- An unknown handle has inode 0. -/
def releaseFileHandle (handleID : Nat) (v : Handles) : Released × Handles :=
  let found := v.fileHandles[handleID]?
  let inode := found.getD 0
  let counts := if found.isSome then v.dropCount inode else v.openFileCount
  let remaining := counts[inode]?.getD 0
  let unlinked := v.unlinkedFiles[inode]?.isSome
  (⟨inode, remaining, unlinked, found.isSome⟩, { v with
    fileHandles := v.fileHandles.erase handleID
    openFileCount := counts
    unlinkedFiles := if unlinked ∧ remaining = 0 then v.unlinkedFiles.erase inode
      else v.unlinkedFiles })

/-! ## The counts -/

def holders (v : Handles) (inode : Nat) : Set Nat := {h | v.fileHandles[h]? = some inode}

/-- Each count is the number of the handles, and a new handle has a new number. -/
structure Counted (v : Handles) : Prop where
  count : ∀ inode, v.count inode = (v.holders inode).ncard
  issued : ∀ h inode : Nat, v.fileHandles[h]? = some inode → h ≤ v.nextHandleID

lemma finite_holders (v : Handles) (inode : Nat) : (v.holders inode).Finite :=
  (finite_keys v.fileHandles).subset fun _ h => ⟨inode, h⟩

lemma counted_empty : Counted empty := by
  refine ⟨fun inode => ?_, fun h inode hget => ?_⟩
  · have hnone : empty.holders inode = ∅ := by
      ext h
      simp [holders, empty]
    rw [hnone, ncard_empty]
    simp [count, empty]
  · simp [empty] at hget

variable {v : Handles}

lemma Counted.pos (h : Counted v) {handleID inode : Nat}
    (hget : v.fileHandles[handleID]? = some inode) : 0 < v.count inode := by
  rw [h.count]
  exact (ncard_pos (finite_holders v inode)).mpr ⟨handleID, hget⟩

lemma count_openFileHandle (inode i : Nat) (v : Handles) :
    (v.openFileHandle inode).2.count i = if inode = i then v.count i + 1 else v.count i := by
  unfold Handles.count openFileHandle
  by_cases hi : inode = i
  · subst hi
    simp [Handles.count]
  · simp [get_insert_ne _ _ hi, hi]

lemma Counted.fresh (h : Counted v) : v.fileHandles[v.nextHandleID + 1]? = none := by
  cases hget : v.fileHandles[v.nextHandleID + 1]? with
  | none => rfl
  | some inode =>
    have hle := h.issued _ _ hget
    omega

lemma Counted.openFileHandle (h : Counted v) (inode : Nat) :
    Counted (v.openFileHandle inode).2 := by
  have hget : ∀ x i : Nat, (v.openFileHandle inode).2.fileHandles[x]? = some i ↔
      (x = v.nextHandleID + 1 ∧ i = inode) ∨ v.fileHandles[x]? = some i := by
    intro x i
    simp only [Handles.openFileHandle, get_insert]
    by_cases hx : v.nextHandleID + 1 = x
    · subst hx
      simp [h.fresh, eq_comm]
    · simp [hx, Ne.symm hx]
  refine ⟨fun i => ?_, fun x i hx => ?_⟩
  · rw [count_openFileHandle]
    by_cases hi : inode = i
    · subst hi
      have hset : (v.openFileHandle inode).2.holders inode =
          insert (v.nextHandleID + 1) (v.holders inode) := by
        ext x
        simp [holders, hget]
      rw [if_pos rfl, hset, ncard_insert_of_notMem _ (finite_holders v inode), ← h.count]
      simp [holders, h.fresh]
    · have hset : (v.openFileHandle inode).2.holders i = v.holders i := by
        ext x
        simp [holders, hget, Ne.symm hi]
      rw [if_neg hi, hset, ← h.count]
  · have hle : x ≤ v.nextHandleID + 1 := by
      rcases (hget x i).mp hx with ⟨rfl, _⟩ | hold
      · exact Nat.le_refl _
      · exact Nat.le_succ_of_le (h.issued x i hold)
    exact hle

lemma Counted.markUnlinkedFileIfOpen (h : Counted v) (inode : Nat) :
    Counted (v.markUnlinkedFileIfOpen inode).2 := by
  unfold Handles.markUnlinkedFileIfOpen
  split
  · exact h
  · exact ⟨h.count, h.issued⟩

lemma get_releaseFileHandle (handleID x : Nat) (v : Handles) :
    (v.releaseFileHandle handleID).2.fileHandles[x]? =
      if handleID = x then none else v.fileHandles[x]? := by
  simp only [releaseFileHandle, get_erase]

lemma count_releaseFileHandle {handleID inode : Nat}
    (hget : v.fileHandles[handleID]? = some inode) (i : Nat) :
    (v.releaseFileHandle handleID).2.count i = if inode = i then v.count i - 1 else v.count i := by
  have hcount : (v.releaseFileHandle handleID).2.count i = (v.dropCount inode)[i]?.getD 0 := by
    simp [releaseFileHandle, hget, Handles.count]
  rw [hcount, dropCount]
  by_cases hi : inode = i
  · subst hi
    rw [if_pos rfl]
    split
    · simp
    · rw [get_erase_self, Option.getD_none]
      omega
  · rw [if_neg hi]
    split
    · rw [get_insert_ne _ _ hi]
      rfl
    · rw [get_erase_ne _ hi]
      rfl

lemma Counted.releaseFileHandle (h : Counted v) (handleID : Nat) :
    Counted (v.releaseFileHandle handleID).2 := by
  refine ⟨fun i => ?_, fun x i hx => ?_⟩
  · cases hget : v.fileHandles[handleID]? with
    | none =>
      have hset : (v.releaseFileHandle handleID).2.holders i = v.holders i := by
        ext x
        simp only [holders, mem_ofPred_eq, get_releaseFileHandle]
        split
        · rename_i hx
          simp [← hx, hget]
        · rfl
      rw [hset, ← h.count]
      simp [Handles.count, Handles.releaseFileHandle, hget]
    | some inode =>
      rw [count_releaseFileHandle hget]
      by_cases hi : inode = i
      · subst hi
        have hset : (v.releaseFileHandle handleID).2.holders inode =
          v.holders inode \ {handleID} := by
          ext x
          simp only [holders, mem_ofPred_eq, get_releaseFileHandle, mem_sdiff, mem_singleton_iff]
          split
          · rename_i hx
            simp [← hx]
          · rename_i hx
            simp [Ne.symm hx]
        have hmem : handleID ∈ v.holders inode := hget
        rw [if_pos rfl, hset, ncard_sdiff_singleton_of_mem hmem, h.count]
      · have hset : (v.releaseFileHandle handleID).2.holders i = v.holders i := by
          ext x
          simp only [holders, mem_ofPred_eq, get_releaseFileHandle]
          split
          · rename_i hx
            simp [← hx, hget, hi]
          · rfl
        rw [if_neg hi, hset, ← h.count]
  · rw [get_releaseFileHandle] at hx
    split at hx
    · cases hx
    · exact h.issued x i hx

end Handles

end sandbox0.volume
