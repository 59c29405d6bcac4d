-- The read cache of a ctld session: small whole files by inode, in
-- `ctld/internal/ctld/portal/session.go`. A full cache is cleared, so an entry
-- may always go, but it never gets bytes that nobody put there.
import Sandbox0.ByteRange
import Sandbox0.S0fsTypes

namespace sandbox0.portal.session

open s0fs (Bytes)

def maxLocalReadCacheFileSize : Nat := 1 <<< 20

def maxLocalReadCacheBytes : Nat := 64 <<< 20

/-- `readCache` and `readCacheBytes`. -/
structure ReadCache where
  entries : GoMap Nat Bytes
  bytes : Int

namespace ReadCache

def empty : ReadCache := ⟨∅, 0⟩

/-- The length of an entry, 0 without one. -/
def oldLen (c : ReadCache) (inode : Nat) : Int := (c.entries[inode]?.getD []).length

/-- `putReadCacheLocked`. -/
def put (inode : Nat) (data : Bytes) (c : ReadCache) : ReadCache :=
  if data.length > maxLocalReadCacheFileSize then
    { entries := c.entries.erase inode, bytes := max 0 (c.bytes - c.oldLen inode) }
  else if c.bytes + (data.length - c.oldLen inode) > maxLocalReadCacheBytes then
    { entries := (∅ : GoMap Nat Bytes).insert inode data, bytes := data.length }
  else
    { entries := c.entries.insert inode data, bytes := c.bytes + (data.length - c.oldLen inode) }

/-- `evictReadCache`. -/
def evict (inode : Nat) (c : ReadCache) : ReadCache :=
  { entries := c.entries.erase inode, bytes := max 0 (c.bytes - c.oldLen inode) }

/-- `readCacheLookup`: the bytes that fit into `n`, and whether they reach the end. -/
def lookup (inode offset n : Nat) (c : ReadCache) : Option (Bytes × Bool) :=
  c.entries[inode]?.map fun data =>
    if offset ≥ data.length then ([], true)
    else
      let out := (data.drop offset).take n
      (out, decide (offset + out.length ≥ data.length))

/-- The locked part of `updateReadCacheAfterWrite`: whether there is an entry to write to. -/
def overwrite (inode offset : Nat) (data : Bytes) (c : ReadCache) : Bool × ReadCache :=
  match c.entries[inode]? with
  | none => (false, c)
  | some old => (true, c.put inode (overlaid offset data old))

/-- The locked part of `resizeReadCache`. -/
def resize (inode size : Nat) (c : ReadCache) : ReadCache :=
  match c.entries[inode]? with
  | none => if size = 0 then c.put inode [] else c
  | some old => if size = old.length then c else c.put inode (resized size old)

/-! ## What the entries are -/

/-- Each entry is as `P` wants it. -/
def All (P : Nat → Bytes → Prop) (c : ReadCache) : Prop :=
  ∀ (inode : Nat) data, c.entries[inode]? = some data → P inode data

variable {P : Nat → Bytes → Prop} {c : ReadCache} {inode : Nat} {data : Bytes}

lemma all_empty : empty.All P := by
  intro i data h
  simp [empty] at h

variable (h : c.All fun i data => i ≠ inode → P i data)

include h

lemma All.erase (bytes : Int) : All P ⟨c.entries.erase inode, bytes⟩ := by
  intro i data hget
  obtain ⟨hi, hget⟩ := GoMap.of_get_erase hget
  exact h i data hget hi

lemma All.evict : (c.evict inode).All P :=
  h.erase _

lemma All.insert (hdata : P inode data)
    (bytes : Int) : All P ⟨c.entries.insert inode data, bytes⟩ := by
  intro i data' hget
  rcases GoMap.of_get_insert hget with ⟨rfl, rfl⟩ | ⟨hi, hget⟩
  · exact hdata
  · exact h i data' hget hi

lemma All.put (hdata : P inode data) : (c.put inode data).All P := by
  unfold ReadCache.put
  split
  · exact h.erase _
  · split
    · exact all_empty.insert hdata _
    · exact h.insert hdata _

lemma All.overwrite {offset : Nat}
    (hold : ∀ old, c.entries[inode]? = some old → P inode (overlaid offset data old)) :
    (c.overwrite inode offset data).2.All P := by
  unfold ReadCache.overwrite
  cases hget : c.entries[inode]? with
  | none =>
    intro i data' hi
    refine h i data' hi ?_
    rintro rfl
    cases hget.symm.trans hi
  | some old => exact h.put (hold old hget)

lemma All.resize {size : Nat}
    (hold : ∀ old, c.entries[inode]? = some old → P inode (resized size old))
    (hnil : size = 0 → P inode []) : (c.resize inode size).All P := by
  unfold ReadCache.resize
  cases hget : c.entries[inode]? with dsimp only
  | none =>
    split
    · rename_i h0
      exact h.put (hnil h0)
    intro i data hi
    refine h i data hi ?_
    rintro rfl
    cases hget.symm.trans hi
  | some old =>
    split
    · rename_i hsize
      intro i data hi
      by_cases hne : i = inode
      · subst hne
        cases hget.symm.trans hi
        have hp := hold old hget
        rw [hsize, resized_self] at hp
        exact hp
      · exact h i data hi hne
    · exact h.put (hold old hget)

end ReadCache

end sandbox0.portal.session
