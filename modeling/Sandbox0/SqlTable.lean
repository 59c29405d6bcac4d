-- A table of rows with a unique key, and the statement
-- `INSERT ... ON CONFLICT (key) DO UPDATE`.
import Mathlib

namespace sandbox0

open List

section upsert

variable {α κ : Type} [DecidableEq κ] (key : α → κ) (renew : α → α → α)

/-- The row of the key of `x` is renewed from `x`, and without such a row `x`
is a new row. -/
def upsert (x : α) (rows : List α) : List α :=
  if ∃ row ∈ rows, key row = key x then
    rows.map (fun row => if key row = key x then renew row x else row)
  else rows ++ [x]

variable {key renew}

lemma of_mem_upsert {x row : α} {rows : List α} (h : row ∈ upsert key renew x rows) :
    (row ∈ rows ∧ key row ≠ key x) ∨ (∃ old ∈ rows, key old = key x ∧ row = renew old x) ∨
      row = x := by
  unfold upsert at h
  split at h
  · obtain ⟨old, hold, rfl⟩ := mem_map.mp h
    by_cases hk : key old = key x
    · rw [if_pos hk]
      exact .inr (.inl ⟨old, hold, hk, rfl⟩)
    · rw [if_neg hk]
      exact .inl ⟨hold, hk⟩
  · rename_i hnone
    rcases mem_append.mp h with hold | hnew
    · exact .inl ⟨hold, fun hk => hnone ⟨row, hold, hk⟩⟩
    · exact .inr (.inr (mem_singleton.mp hnew))

variable (hrenew : ∀ row x : α, key (renew row x) = key row)

include hrenew

lemma map_key_upsert (x : α) (rows : List α) : (upsert key renew x rows).map key =
      if ∃ row ∈ rows, key row = key x then rows.map key else rows.map key ++ [key x] := by
  unfold upsert
  split
  · rw [map_map]
    apply map_congr_left
    intro row _
    simp only [Function.comp_apply]
    split
    · exact hrenew row x
    · rfl
  · rw [map_append]
    rfl

lemma nodup_key_upsert (x : α)
    {rows : List α} (h : (rows.map key).Nodup) : ((upsert key renew x rows).map key).Nodup := by
  rw [map_key_upsert hrenew]
  split
  · exact h
  rename_i hnone
  rw [nodup_append]
  refine ⟨h, nodup_singleton _, ?_⟩
  rintro k hk k' hk' rfl
  rw [mem_singleton] at hk'
  obtain ⟨row, hrow, hkey⟩ := mem_map.mp hk
  exact hnone ⟨row, hrow, hkey.trans hk'⟩

lemma countP_key_upsert_le (p : κ → Bool) (x : α) (rows : List α) :
    rows.countP (fun row => p (key row)) ≤
      (upsert key renew x rows).countP (fun row => p (key row)) := by
  have hmap : ∀ l : List α, l.countP (fun row => p (key row)) = (l.map key).countP p := by
    intro l
    rw [countP_map]
    rfl
  rw [hmap, hmap, map_key_upsert hrenew]
  split
  · exact Nat.le_refl _
  · rw [countP_append]
    exact Nat.le_add_right _ _

end upsert

end sandbox0
