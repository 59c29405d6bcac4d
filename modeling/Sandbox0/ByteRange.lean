-- Ranges of lists: what a read of some bytes at an offset gives, how
-- neighbouring ranges join, what a write at an offset leaves, and lists that
-- are stored in chunks of one size.
import Mathlib

namespace sandbox0

open List

variable {α : Type} {f : Nat → List α → List α}

/-! ## Ranges -/

/-- The `len` elements from `off` on, or as many as there are. -/
def slice (b : List α) (off len : Nat) : List α := (b.drop off).take len

section

variable (b : List α) (off len : Nat)

@[simp] lemma length_slice : (slice b off len).length = min len (b.length - off) := by
  simp [slice]

@[simp] lemma slice_zero : slice b off 0 = [] := by
  simp [slice]

lemma slice_all {len : Nat} (h : b.length ≤ len) : slice b 0 len = b := by
  simp [slice, take_of_length_le h]

lemma slice_beyond {off : Nat} (h : b.length ≤ off) : slice b off len = [] := by
  simp [slice, drop_eq_nil_of_le h]

lemma slice_clamp : slice b off len = slice b off (min len (b.length - off)) := by
  unfold slice
  rw [← length_drop]
  by_cases h : len ≤ (b.drop off).length
  · rw [Nat.min_eq_left h]
  · rw [Nat.min_eq_right (by omega), take_length, take_of_length_le (by omega)]

lemma drop_take_slice (stop : Nat) : (b.take stop).drop off = slice b off (stop - off) := by
  rw [slice, drop_take]

lemma slice_append (l1 l2 : Nat) :
    slice b off l1 ++ slice b (off + l1) l2 = slice b off (l1 + l2) := by
  unfold slice
  rw [← drop_drop, ← take_add]

lemma slice_slice (o l o' l' : Nat) :
    slice (slice b o l) o' l' = slice b (o + o') (min l' (l - o')) := by
  unfold slice
  rw [drop_take, take_take, drop_drop]

lemma slice_left (a b : List α) {off len : Nat} (h : off + len ≤ a.length) :
    slice (a ++ b) off len = slice a off len := by
  unfold slice
  rw [drop_append_of_le_length (by omega), take_append_of_le_length]
  rw [length_drop]
  omega

lemma slice_right (a b : List α) (off len : Nat) :
    slice (a ++ b) (a.length + off) len = slice b off len := by
  unfold slice
  rw [← drop_drop, drop_left]

lemma slice_of_append (a b : List α) (off len : Nat) :
    slice (a ++ b) off len = slice a off len ++ slice b (off - a.length)
      (len - (a.length - off)) := by
  simp only [slice, drop_append, take_append, length_drop]

/-- Neighbouring ranges between the points of `g` join into one range. -/
lemma slice_telescope {g : Nat → Nat} (hg : Monotone g) (k n : Nat) :
    (range' k n).flatMap (fun j => slice b (g j) (g (j + 1) - g j)) =
      slice b (g k) (g (k + n) - g k) := by
  induction n generalizing k with
  | zero => simp
  | succ n ih =>
    have h1 : g k ≤ g (k + 1) := hg (by omega)
    have h2 : g (k + 1) ≤ g (k + (n + 1)) := hg (by omega)
    have hsum : g (k + (n + 1)) - g k = (g (k + 1) - g k) + (g (k + (n + 1)) - g (k + 1)) := by
      omega
    have hnext : g (k + 1) = g k + (g (k + 1) - g k) := by omega
    rw [range'_succ, flatMap_cons, ih, hsum, ← slice_append, ← hnext,
      show k + 1 + n = k + (n + 1) by omega]

end

/-! ## Writes -/

section
variable [Zero α] {b : List α}

/-- `b` with zeros up to the length `n`. -/
def extended (n : Nat) (b : List α) : List α :=
  if n > b.length then b ++ List.replicate (n - b.length) 0 else b

/-- `b` with `data` written at `offset`. -/
def overlaid (offset : Nat) (data b : List α) : List α :=
  let grown := extended (offset + data.length) b
  grown.take offset ++ data ++ grown.drop (offset + data.length)

/-- `b` cut to `size`, or extended to it. -/
def resized (size : Nat) (b : List α) : List α :=
  if size < b.length then b.take size else extended size b

@[simp] lemma length_extended (n : Nat) (b : List α) : (extended n b).length = max n b.length := by
  unfold extended
  split
  · simp only [length_append, length_replicate]
    omega
  · omega

lemma extended_of_le {n : Nat} (h : n ≤ b.length) : extended n b = b :=
  if_neg (by omega)

@[simp] lemma length_overlaid (offset : Nat) (data b : List α) :
    (overlaid offset data b).length = max (offset + data.length) b.length := by
  simp only [overlaid, length_append, length_take, length_drop, length_extended]
  omega

lemma overlaid_nil {offset : Nat} (h : offset ≤ b.length) : overlaid offset [] b = b := by
  simp [overlaid, extended_of_le h]

lemma overlaid_overlaid (offset : Nat) (data b : List α) :
    overlaid offset data (overlaid offset data b) = overlaid offset data b := by
  have hle : offset + data.length ≤ (overlaid offset data b).length := by
    rw [length_overlaid]
    omega
  have htake : ((extended (offset + data.length) b).take offset).length = offset := by
    simp only [length_take, length_extended]
    omega
  rw [overlaid, extended_of_le hle]
  simp only [overlaid, append_assoc]
  rw [take_left' htake, ← drop_drop, drop_left' htake, drop_left' rfl]

/-- A write from the start that is as long as what it leaves is all of it. -/
lemma overlaid_all {data : List α} (h : (overlaid 0 data b).length = data.length) :
    overlaid 0 data b = data := by
  rw [length_overlaid] at h
  have hshort : b.length ≤ data.length := by omega
  simp [overlaid, hshort]

@[simp] lemma length_resized (size : Nat) (b : List α) : (resized size b).length = size := by
  unfold resized
  split
  · rw [length_take]
    omega
  · rw [length_extended]
    omega

lemma resized_self (b : List α) : resized b.length b = b := by
  simp [resized, extended]

@[simp] lemma resized_zero (b : List α) : resized 0 b = [] :=
  length_eq_zero_iff.mp (length_resized 0 b)

end

/-! ## Chunks -/

/-- The chunks of `b` from chunk `k` on, each changed by `f`, one after the
other: the loop that writes them. A turn moves on by `size`, so `b.length`
turns are enough. -/
def packFrom (f : Nat → List α → List α) (size : Nat) (b : List α) : Nat → Nat → List α
  | 0, _ => []
  | fuel + 1, k =>
    if k * size < b.length then f k (slice b (k * size) size) ++ packFrom f size b fuel (k + 1)
    else []

/-- Each chunk adds `extra` to the length, and there are at most `fuel` chunks. -/
lemma length_packFrom_le {extra : Nat}
    (hf : ∀ k c, (f k c).length = c.length + extra) (size : Nat) (b : List α) (fuel k : Nat) :
    (packFrom f size b fuel k).length ≤ b.length - k * size + fuel * extra := by
  induction fuel generalizing k with
  | zero => simp [packFrom]
  | succ fuel ih =>
    rw [packFrom]
    split
    · rename_i hk
      have hrest := ih (k + 1)
      rw [length_append, hf, length_slice]
      rw [Nat.succ_mul] at hrest ⊢
      omega
    · exact Nat.zero_le _

/-- Where a chunk stands in the packed list, when `f` makes each chunk
longer by `extra`. -/
lemma packFrom_chunk {size extra : Nat} {b : List α}
    (hf : ∀ k c, (f k c).length = c.length + extra) (fuel k j : Nat)
    (hfuel : b.length ≤ (k + fuel) * size) (hj : (k + j) * size < b.length) :
    slice (packFrom f size b fuel k) (j * (size + extra))
        (min size (b.length - (k + j) * size) + extra) =
      f (k + j) (slice b ((k + j) * size) size) := by
  induction fuel generalizing k j with
  | zero =>
    have hle : k * size ≤ (k + j) * size := Nat.mul_le_mul_right _ (by omega)
    rw [Nat.add_zero] at hfuel
    omega
  | succ fuel ih =>
    have hk : k * size < b.length :=
      lt_of_le_of_lt (Nat.mul_le_mul_right _ (by omega)) hj
    rw [packFrom, if_pos hk]
    cases j with
    | zero =>
      have hlen : (f k (slice b (k * size) size)).length =
          min size (b.length - k * size) + extra := by
        rw [hf, length_slice]
      simp only [Nat.zero_mul, Nat.add_zero]
      rw [slice_left _ _ (by rw [hlen]; omega), slice_all _ (by rw [hlen])]
    | succ j =>
      have hfull : k * size + size ≤ b.length := by
        have : (k + 1) * size ≤ (k + (j + 1)) * size := Nat.mul_le_mul_right _ (by omega)
        rw [Nat.succ_mul] at this
        omega
      have hlen : (f k (slice b (k * size) size)).length = size + extra := by
        rw [hf, length_slice, Nat.min_eq_left (by omega)]
      have hstep : k + 1 + j = k + (j + 1) := by omega
      have hpos : (j + 1) * (size + extra) =
          (f k (slice b (k * size) size)).length + j * (size + extra) := by
        rw [hlen, Nat.succ_mul]
        omega
      have hrec := ih (k + 1) j (by rw [show k + 1 + fuel = k + (fuel + 1) by omega]; exact hfuel)
        (by rw [hstep]; exact hj)
      rw [hstep] at hrec
      rw [hpos, slice_right, hrec]

/-- The point `x` moved into the range from `off` to `stop`. -/
def clampTo (off stop x : Nat) : Nat := max off (min stop x)

lemma clampTo_monotone (off stop : Nat) : Monotone (clampTo off stop) := by
  intro x y h
  unfold clampTo
  omega

end sandbox0
