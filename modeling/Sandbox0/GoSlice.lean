-- Go's byte slices: a part of an array that ends before the array may. An index
-- has to be below the length, and the end of a new slice has to be inside the
-- array. Nothing stands for a panic.
import Mathlib

namespace sandbox0

/-- A slice of bytes: the array from the slice's first byte on, and the slice's length. -/
structure GoSlice where
  array : List UInt8
  len : Nat
  len_le : len ≤ array.length

namespace GoSlice

def ofBytes (bs : List UInt8) : GoSlice := ⟨bs, bs.length, le_rfl⟩

def bytes (s : GoSlice) : List UInt8 := s.array.take s.len

/-- `s[i]`. -/
def get (s : GoSlice) (i : Nat) : Option UInt8 := if i < s.len then s.array[i]? else none

/-- `s[low:high]`. -/
def slice (s : GoSlice) (low high : Nat) : Option GoSlice :=
  if h : low ≤ high ∧ high ≤ s.array.length then
    some ⟨s.array.drop low, high - low, by rw [List.length_drop]; omega⟩
  else none

/-- `int(s[i])<<8 | int(s[i+1])`. -/
def uint16 (s : GoSlice) (i : Nat) : Option Nat := do
  let high ← s.get i
  let low ← s.get (i + 1)
  return 256 * high.toNat + low.toNat

/-- `int(s[i])<<16 | int(s[i+1])<<8 | int(s[i+2])`. -/
def uint24 (s : GoSlice) (i : Nat) : Option Nat := do
  let high ← s.get i
  let low ← s.uint16 (i + 1)
  return 65536 * high.toNat + low

/-- `bytes.IndexByte`. -/
def indexByte (s : GoSlice) (b : UInt8) : Option Nat := s.bytes.findIdx? (· = b)

lemma get_isSome (s : GoSlice) (i : Nat) : (s.get i).isSome ↔ i < s.len := by
  unfold get
  split
  · rename_i h
    have hlt : i < s.array.length := lt_of_lt_of_le h s.len_le
    simp [h, hlt]
  · simp [*]

lemma uint16_isSome (s : GoSlice) (i : Nat) : (s.uint16 i).isSome ↔ i + 1 < s.len := by
  have h0 := s.get_isSome i
  have h1 := s.get_isSome (i + 1)
  unfold uint16
  rcases hhigh : s.get i with _ | high
  · rw [hhigh] at h0
    simp at h0 ⊢
    omega
  rcases hlow : s.get (i + 1) with _ | low
  · rw [hlow] at h1
    simpa using h1
  · rw [hlow] at h1
    simpa using h1

variable {s : GoSlice}

lemma get_of_lt {i : Nat} (h : i < s.len) : ∃ b, s.get i = some b :=
  Option.isSome_iff_exists.mp ((s.get_isSome i).mpr h)

lemma uint16_of_lt {i : Nat} (h : i + 1 < s.len) : ∃ n, s.uint16 i = some n :=
  Option.isSome_iff_exists.mp ((s.uint16_isSome i).mpr h)

lemma uint24_of_lt {i : Nat} (h : i + 2 < s.len) : ∃ n, s.uint24 i = some n := by
  obtain ⟨high, hhigh⟩ := get_of_lt (s := s) (i := i) (by omega)
  obtain ⟨low, hlow⟩ := uint16_of_lt (s := s) (i := i + 1) (by omega)
  exact ⟨_, by simp [uint24, hhigh, hlow]; rfl⟩

lemma slice_of_le {low high : Nat} (h : low ≤ high) (hhigh : high ≤ s.array.length) :
    ∃ t, s.slice low high = some t ∧ t.len = high - low := by
  unfold slice
  rw [dif_pos ⟨h, hhigh⟩]
  exact ⟨_, rfl, rfl⟩

end GoSlice

end sandbox0
