-- Go maps. A map is a finite map that equals another one when it has the
-- same value at each key, so a loop over a map in any order is a fold over
-- its sorted list of entries.
import Mathlib

namespace sandbox0

open List Std.ExtTreeMap Set

/-- A Go `map[κ]ν`. A nil map and an empty map read the same. -/
abbrev GoMap (κ ν : Type) [Ord κ] := Std.ExtTreeMap κ ν compare

namespace GoMap

variable {κ ν : Type} [Ord κ] [Std.TransOrd κ] [Std.LawfulEqOrd κ]

/-! ## One key -/

lemma get_insert (m : GoMap κ ν) (k a : κ) (v : ν) [DecidableEq κ] :
    (m.insert k v)[a]? = if k = a then some v else m[a]? := by
  simp only [Std.ExtTreeMap.getElem?_insert, Std.LawfulEqCmp.compare_eq_iff_eq]

variable {k a : κ} {m : GoMap κ ν} {v : ν} {p : ν → Prop}

@[simp] lemma get_insert_self (m : GoMap κ ν) (k : κ) (v : ν) : (m.insert k v)[k]? = some v := by
  simp

lemma get_insert_ne (m : GoMap κ ν) (v : ν) (h : k ≠ a) : (m.insert k v)[a]? = m[a]? := by
  simp [Std.ExtTreeMap.getElem?_insert, h]

lemma get_erase (m : GoMap κ ν) (k a : κ) [DecidableEq κ] :
    (m.erase k)[a]? = if k = a then none else m[a]? := by
  simp only [getElem?_erase, Std.LawfulEqCmp.compare_eq_iff_eq]

@[simp] lemma get_erase_self (m : GoMap κ ν) (k : κ) : (m.erase k)[k]? = none := by
  simp

lemma get_erase_ne (m : GoMap κ ν) (h : k ≠ a) : (m.erase k)[a]? = m[a]? := by
  simp [getElem?_erase, h]

lemma get_erase_insert_ne (h : a ≠ k) : ((m.insert k v).erase k)[a]? = m[a]? :=
  (get_erase_ne _ h.symm).trans (get_insert_ne _ _ h.symm)

lemma of_get_insert {v' : ν} (h : (m.insert k v)[a]? = some v') :
    (a = k ∧ v' = v) ∨ (a ≠ k ∧ m[a]? = some v') := by
  classical
  rw [get_insert] at h
  split at h
  · rename_i hk
    cases h
    exact .inl ⟨hk.symm, rfl⟩
  · rename_i hk
    exact .inr ⟨Ne.symm hk, h⟩

lemma all_insert {P : κ → ν → Prop} (hv : P k v)
    (h : ∀ (a : κ) (v' : ν), m[a]? = some v' → P a v') :
    ∀ (a : κ) (v' : ν), (m.insert k v)[a]? = some v' → P a v' := by
  intro a v' hget
  rcases of_get_insert hget with ⟨rfl, rfl⟩ | ⟨-, hget⟩
  · exact hv
  · exact h a v' hget

/-- What `f` sees of the values is kept when a value is replaced by one that looks the same to
it. -/
lemma map_insert_of_get {β : Type} {f : ν → β} {old : ν} (h : m[k]? = some old) (hf : f v = f old)
    (a : κ) : (m.insert k v)[a]?.map f = m[a]?.map f := by
  classical
  rw [get_insert]
  split
  · rename_i hk
    rw [← hk, h]
    exact congrArg some hf
  · rfl

lemma of_get_erase (h : (m.erase k)[a]? = some v) : a ≠ k ∧ m[a]? = some v := by
  classical
  rw [get_erase] at h
  split at h
  · cases h
  · rename_i hk
    exact ⟨Ne.symm hk, h⟩

lemma eq_of_get {m' : GoMap κ ν} (h : ∀ k : κ, m[k]? = m'[k]?) : m = m' :=
  ext_getElem? h

section

variable (m)

/-- `if !keep(k, v) { delete(m, k) }` for each entry. -/
lemma get_filter (keep : κ → ν → Bool) (a : κ) : (m.filter keep)[a]? = m[a]?.filter (keep a) := by
  simp

lemma insert_insert (k : κ) (v v' : ν) : (m.insert k v).insert k v' = m.insert k v' := by
  classical
  apply eq_of_get
  intro a
  simp only [get_insert]
  split <;> rfl

lemma erase_insert (k : κ) (v : ν) : (m.insert k v).erase k = m.erase k := by
  classical
  apply eq_of_get
  intro a
  simp only [get_erase, get_insert]
  split <;> rfl

lemma mem_toList (k : κ) (v : ν) : (k, v) ∈ m.toList ↔ m[k]? = some v :=
  mem_toList_iff_getElem?_eq_some

lemma isEmpty_iff : m.isEmpty = true ↔ ∀ k : κ, m[k]? = none := by
  rw [Std.ExtTreeMap.isEmpty_iff]
  constructor
  · intro h k
    simp [h]
  · intro h
    exact eq_of_get (fun k => by simp [h k])

lemma finite_keys : {k : κ | ∃ v, m[k]? = some v}.Finite := by
  apply Finite.subset (finite_toSet (m.toList.map Prod.fst))
  rintro k ⟨v, hv⟩
  exact mem_map.mpr ⟨(k, v), (mem_toList m k v).mpr hv, rfl⟩

end

lemma size_erase_lt (h : m[k]? = some v) : (m.erase k).size < m.size := by
  have hmem : m.contains k = true := by
    rw [contains_eq_isSome_getElem?, h]
    rfl
  have hpos : m.size ≠ 0 := by
    intro hzero
    have hempty : m.isEmpty = true := by
      rw [isEmpty_eq_size_beq_zero, hzero]
      rfl
    simp [(isEmpty_iff m).mp hempty k] at h
  rw [size_erase, if_pos hmem]
  omega

/-! ## Counting values -/

/-- How many keys have a value with the property. -/
noncomputable def count (m : GoMap κ ν) (p : ν → Prop) : Nat :=
  {k : κ | ∃ v ∈ m[k]?, p v}.ncard

lemma finite_count (m : GoMap κ ν) (p : ν → Prop) : {k : κ | ∃ v ∈ m[k]?, p v}.Finite :=
  (finite_keys m).subset fun _ ⟨v, hv, _⟩ => ⟨v, hv⟩

lemma count_eq_zero : m.count p = 0 ↔ ∀ (k : κ) (v : ν), m[k]? = some v → ¬ p v := by
  unfold count
  rw [ncard_eq_zero (finite_count m p)]
  constructor
  · intro h k v hv hp
    have hk : k ∈ {k : κ | ∃ v ∈ m[k]?, p v} := ⟨v, hv, hp⟩
    rw [h] at hk
    exact hk
  · intro h
    ext k
    constructor
    · rintro ⟨v, hv, hp⟩
      exact h k v hv hp
    · exact False.elim

lemma count_empty (p : ν → Prop) : count (∅ : GoMap κ ν) p = 0 := by
  rw [count_eq_zero]
  simp

section

variable (m : GoMap κ ν)

lemma count_erase_of_not (h : ∀ v ∈ m[k]?, ¬ p v) : count (m.erase k) p = m.count p := by
  classical
  unfold count
  congr 1
  ext a
  simp only [mem_ofPred_eq, get_erase]
  split
  · rename_i hk
    subst hk
    constructor
    · rintro ⟨v, hv, _⟩
      cases hv
    · rintro ⟨v, hv, hp⟩
      exact absurd hp (h v hv)
  · rfl

lemma count_erase_of (hv : m[k]? = some v) (hp : p v) : count (m.erase k) p + 1 = m.count p := by
  classical
  unfold count
  have hset : {a : κ | ∃ v ∈ (m.erase k)[a]?, p v} = {a : κ | ∃ v ∈ m[a]?, p v} \ {k} := by
    ext a
    simp only [mem_ofPred_eq, get_erase, mem_sdiff, mem_singleton_iff]
    split
    · rename_i hk
      subst hk
      simp
    · rename_i hk
      simp [Ne.symm hk]
  rw [hset]
  exact ncard_sdiff_singleton_add_one (show k ∈ {a : κ | ∃ v ∈ m[a]?, p v} from ⟨v, hv, hp⟩)
    (finite_count m p)

lemma count_insert_of_not (k : κ) (hp : ¬ p v) : count (m.insert k v) p = count (m.erase k) p := by
  classical
  unfold count
  congr 1
  ext a
  simp only [mem_ofPred_eq, get_erase, get_insert]
  split <;> simp [hp]

lemma count_insert_of (k : κ) (hp : p v) : count (m.insert k v) p = count (m.erase k) p + 1 := by
  have hself : (m.insert k v)[k]? = some v := get_insert_self m k v
  rw [← count_erase_of (m.insert k v) hself hp, erase_insert]

lemma count_erase (p : ν → Prop) [DecidablePred p] (k : κ) :
    count (m.erase k) p + (if ∃ v ∈ m[k]?, p v then 1 else 0) = m.count p := by
  split
  · rename_i h
    obtain ⟨v, hv, hp⟩ := h
    exact count_erase_of m hv hp
  · rename_i h
    exact count_erase_of_not m (fun v hv hp => h ⟨v, hv, hp⟩)

lemma count_insert (p : ν → Prop) [DecidablePred p] (k : κ) (v : ν) :
    count (m.insert k v) p + (if ∃ v ∈ m[k]?, p v then 1 else 0) = m.count p + if p v then
      1 else 0 := by
  rw [← count_erase m p k]
  by_cases hp : p v
  · rw [count_insert_of m k hp, if_pos hp]
    omega
  · rw [count_insert_of_not m k hp, if_neg hp]
    omega

end

/-! ## A loop that deletes keys -/

/-- `for _, k := range ks { delete(m, k) }`. -/
def deleteKeys (ks : List κ) (m : GoMap κ ν) : GoMap κ ν := ks.foldl (fun m k => m.erase k) m

lemma get_deleteKeys (ks : List κ) (m : GoMap κ ν) (a : κ) [DecidableEq κ] :
    (deleteKeys ks m)[a]? = if a ∈ ks then none else m[a]? := by
  induction ks generalizing m with
  | nil => simp [deleteKeys]
  | cons k ks ih =>
    have hstep : deleteKeys (k :: ks) m = deleteKeys ks (m.erase k) := rfl
    rw [hstep, ih, get_erase]
    by_cases ha : a ∈ ks
    · simp [ha]
    · by_cases hk : k = a
      · subst hk; simp
      · simp [ha, hk, Ne.symm hk]

/-! ## A loop that writes the entries under new keys -/

/-- The entries of `m` under the keys `f k`. When two keys become one, the
later key in the order of `m` wins. -/
def rekey (f : κ → κ) (m : GoMap κ ν) : GoMap κ ν :=
  m.toList.foldl (fun acc p => acc.insert (f p.1) p.2) ∅

lemma get_foldl_insert (f : κ → κ) (l : List (κ × ν)) (acc : GoMap κ ν) (k : κ) (v : ν)
    (h : (l.foldl (fun acc p => acc.insert (f p.1) p.2) acc)[k]? = some v) :
    acc[k]? = some v ∨ ∃ k', f k' = k ∧ (k', v) ∈ l := by
  induction l generalizing acc with
  | nil => exact .inl h
  | cons p l ih =>
    rcases ih _ h with h1 | ⟨k', hk', hm⟩
    · by_cases hp : f p.1 = k
      · subst hp
        simp only [get_insert_self, Option.some.injEq] at h1
        subst h1
        exact .inr ⟨p.1, rfl, mem_cons_self⟩
      · rw [get_insert_ne _ _ hp] at h1
        exact .inl h1
    · exact .inr ⟨k', hk', mem_cons_of_mem _ hm⟩

/-- Each entry of `rekey f m` is an entry of `m` under another key. -/
lemma get_rekey {f : κ → κ} (h : (rekey f m)[k]? = some v) : ∃ k', f k' = k ∧ m[k']? = some v := by
  rcases get_foldl_insert f m.toList ∅ k v h with h1 | ⟨k', hk', hm⟩
  · simp at h1
  · exact ⟨k', hk', (mem_toList m k' v).mp hm⟩

lemma nodup_keys (m : GoMap κ ν) : (m.toList.map Prod.fst).Nodup := by
  have h := distinct_keys_toList (t := m)
  rw [List.Nodup, pairwise_map]
  exact h.imp (fun hne he => hne (by rw [he]; exact Std.ReflCmp.compare_self))

/-! ## A loop in which each entry changes only what is kept under its own key -/

omit [Ord κ] [Std.TransOrd κ] [Std.LawfulEqOrd κ] in
/-- What such a loop leaves under a key comes from the entry of that key alone. -/
lemma foldl_at_key {β γ : Type} {step : β → κ × ν → β} {kept : β → γ} {l : List (κ × ν)}
    (hl : (l.map Prod.fst).Nodup) (hne : ∀ b, ∀ p ∈ l, p.1 ≠ k → kept (step b p) = kept b)
    (hown : ∀ b b' v, kept b = kept b' → kept (step b (k, v)) = kept (step b' (k, v))) (b : β) :
    (∀ v, (k, v) ∈ l → kept (l.foldl step b) = kept (step b (k, v))) ∧
      ((∀ v, (k, v) ∉ l) → kept (l.foldl step b) = kept b) := by
  induction l generalizing b with
  | nil => simp
  | cons p l ih =>
    rw [map_cons, nodup_cons] at hl
    have hne' : ∀ b, ∀ q ∈ l, q.1 ≠ k → kept (step b q) = kept b :=
      fun b q hq => hne b q (mem_cons_of_mem _ hq)
    obtain ⟨hsome, hnone⟩ := ih hl.2 hne' (step b p)
    rw [foldl_cons]
    constructor
    · intro v hv
      rcases mem_cons.mp hv with rfl | hv
      · apply hnone
        intro v' hv'
        exact hl.1 (mem_map.mpr ⟨_, hv', rfl⟩)
      have hp : p.1 ≠ k := by
        rintro rfl
        exact hl.1 (mem_map.mpr ⟨_, hv, rfl⟩)
      rw [hsome v hv]
      exact hown _ _ v (hne b p mem_cons_self hp)
    · intro hnot
      have hp : p.1 ≠ k := by
        rintro rfl
        exact hnot p.2 mem_cons_self
      rw [hnone (fun v hv => hnot v (mem_cons_of_mem _ hv)), hne b p mem_cons_self hp]

lemma foldl_toList_at {β γ : Type} (step : β → κ × ν → β) (kept : β → γ) (m : GoMap κ ν) (k : κ)
    (hne : ∀ b k' v, m[k']? = some v → k' ≠ k → kept (step b (k', v)) = kept b)
    (hown : ∀ b b' v, kept b = kept b' → kept (step b (k, v)) = kept (step b' (k, v))) (b : β) :
    kept (m.toList.foldl step b) =
      match m[k]? with
      | some v => kept (step b (k, v))
      | none => kept b := by
  obtain ⟨hsome, hnone⟩ := foldl_at_key (nodup_keys m)
    (fun b p hp => hne b p.1 p.2 ((mem_toList m p.1 p.2).mp hp)) hown b
  cases hm : m[k]? with
  | some v => exact hsome v ((mem_toList m k v).mpr hm)
  | none =>
    apply hnone
    intro v hv
    rw [(mem_toList m k v).mp hv] at hm
    cases hm

lemma sum_toList_at [DecidableEq κ] (m : GoMap κ ν) (k : κ) (g : ν → Int) :
    (m.toList.map fun p => if p.1 = k then g p.2 else 0).sum = (m[k]?.map g).getD 0 := by
  have hloop := foldl_toList_at (fun (n : Int) p => n + if p.1 = k then g p.2 else 0)
    (fun n => n) m k (fun b k' v _ hne => by simp [hne]) (fun b b' v hb => by simp [hb]) 0
  rw [sum_eq_foldl, foldl_map, hloop]
  cases m[k]? <;> simp

end GoMap

end sandbox0
