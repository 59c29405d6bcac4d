-- Readers of the first bytes of a stream. A reader sees the bytes so far and
-- whether more will come, and it accepts, rejects or waits. One that settles
-- does so for good: bytes that come later change nothing.
import Mathlib

namespace sandbox0

open List

inductive Decision (α : Type) where
  | noMatch
  | needMore
  | matched (a : α)
  deriving DecidableEq

/-- A reader: of the bytes so far, and whether they are all. -/
def Peek (α : Type) : Type := List UInt8 → Bool → Decision α

namespace Peek

variable {α β : Type}

instance : Monad Peek where
  pure a := fun _ _ => .matched a
  bind x f := fun data complete =>
    match x data complete with
    | .noMatch => .noMatch
    | .needMore => .needMore
    | .matched a => f a data complete

lemma bind_apply (x : Peek α) (f : α → Peek β) (data : List UInt8) (complete : Bool) :
    (x >>= f) data complete =
      match x data complete with
      | .noMatch => .noMatch
      | .needMore => .needMore
      | .matched a => f a data complete := rfl

lemma pure_apply (a : α) (data : List UInt8) (complete : Bool) :
    (pure a : Peek α) data complete = .matched a := rfl

/-! ## The moves of a reader -/

def reject : Peek α := fun _ _ => .noMatch

/-- More bytes are needed, and none will do when the bytes are all. -/
def wait : Peek α := fun _ complete => if complete then .noMatch else .needMore

def rejectIf (c : Prop) [Decidable c] : Peek Unit := if c then reject else pure ()

def waitIf (c : Prop) [Decidable c] : Peek Unit := if c then wait else pure ()

/-- An answer that the bytes so far may not have yet. -/
def await (f : List UInt8 → Option α) : Peek α := fun data complete =>
  match f data with
  | some a => .matched a
  | none => wait data complete

/-- At least `n` bytes. -/
def need (n : Nat) : Peek Unit := await fun data => if data.length < n then none else some ()

def byteAt (i : Nat) : Peek UInt8 := await fun data => data[i]?

/-- The `n` bytes from `i` on. -/
def bytesAt (i n : Nat) : Peek (List UInt8) :=
  await fun data => if data.length < i + n then none else some ((data.drop i).take n)

def uint16At (i : Nat) : Peek Nat := do
  let high ← byteAt i
  let low ← byteAt (i + 1)
  return 256 * high.toNat + low.toNat

def uint32At (i : Nat) : Peek UInt32 := do
  let b0 ← byteAt i
  let b1 ← byteAt (i + 1)
  let b2 ← byteAt (i + 2)
  let b3 ← byteAt (i + 3)
  return b0.toUInt32 ||| b1.toUInt32 <<< 8 ||| b2.toUInt32 <<< 16 ||| b3.toUInt32 <<< 24

def literal (bytes : List UInt8) : Peek Unit := fun data complete =>
  if data.length < bytes.length then
    if data <+: bytes ∧ complete = false then .needMore else .noMatch
  else if data.take bytes.length = bytes then .matched ()
  else .noMatch

def indexOf (pattern : List UInt8) : List UInt8 → Option Nat
  | [] => if pattern = [] then some 0 else none
  | b :: data => if pattern <+: b :: data then some 0 else (indexOf pattern data).map (· + 1)

def find (pattern : List UInt8) : Peek Nat := await (indexOf pattern)

/-! ## Readers that settle -/

/-- What is accepted before the limit stays accepted, and does not need the end of the stream. -/
structure Keeps (limit : Nat) (x : Peek α) : Prop where
  matched : ∀ {p q : List UInt8} {complete : Bool} {a : α}, p <+: q → p.length < limit →
    x p false = .matched a → x q complete = .matched a
  early : ∀ {p : List UInt8} {a : α}, p.length < limit → x p true = .matched a →
    x p false = .matched a

/-- What is rejected stays rejected, too. -/
structure Settles (limit : Nat) (x : Peek α) : Prop extends Keeps limit x where
  noMatch : ∀ {p q : List UInt8} {complete : Bool}, p <+: q → p.length < limit →
    x p false = .noMatch → x q complete = .noMatch

variable {limit : Nat}

variable {x : Peek α} {pattern data : List UInt8} {i : Nat} {f : List UInt8 → Option α}

/-- Once `x` has matched or rejected `p`, it says the same of `q`. -/
def Final (x : Peek α) (p q : List UInt8) : Prop :=
  x p false ≠ .needMore → ∀ complete, x q complete = x p false

lemma Settles.final {p q : List UInt8} (h : Settles limit x) (hpq : p <+: q)
    (hlimit : p.length < limit) : Final x p q := by
  intro hset complete
  cases hp : x p false with
  | needMore => exact absurd hp hset
  | noMatch => exact h.noMatch hpq hlimit hp
  | matched a => exact h.matched hpq hlimit hp

@[simp] lemma settles_pure (a : α) : Settles limit (pure a : Peek α) where
  matched _ _ h := h
  early _ h := h
  noMatch _ _ h := by cases h

lemma keeps_bind {f : α → Peek β} (hx : Keeps limit x)
    (hf : ∀ a, Keeps limit (f a)) : Keeps limit (x >>= f) where
  matched {p q complete b} hpq hlimit h := by
    rw [bind_apply] at h ⊢
    cases ha : x p false with
    | noMatch | needMore => simp [ha] at h
    | matched a =>
      rw [ha] at h
      rw [hx.matched hpq hlimit ha]
      exact (hf a).matched hpq hlimit h
  early {p b} hlimit h := by
    rw [bind_apply] at h ⊢
    cases ha : x p true with
    | noMatch | needMore => simp [ha] at h
    | matched a =>
      rw [ha] at h
      rw [hx.early hlimit ha]
      exact (hf a).early hlimit h

@[simp] lemma settles_bind {f : α → Peek β} (hx : Settles limit x)
    (hf : ∀ a, Settles limit (f a)) : Settles limit (x >>= f) where
  toKeeps := keeps_bind hx.toKeeps fun a => (hf a).toKeeps
  noMatch {p q complete} hpq hlimit h := by
    rw [bind_apply] at h ⊢
    cases ha : x p false with
    | noMatch => rw [hx.noMatch hpq hlimit ha]
    | needMore => simp [ha] at h
    | matched a =>
      rw [ha] at h
      rw [hx.matched hpq hlimit ha]
      exact (hf a).noMatch hpq hlimit h

@[simp] lemma settles_reject : Settles limit (reject : Peek α) where
  matched _ _ h := h
  early _ h := h
  noMatch _ _ h := h

@[simp] lemma settles_wait : Settles limit (wait : Peek α) where
  matched _ _ h := by cases h
  early _ h := by cases h
  noMatch _ _ h := by cases h

@[simp] lemma settles_ite {c : Prop} [Decidable c] {y : Peek α} (hx : c → Settles limit x)
    (hy : ¬ c → Settles limit y) : Settles limit (if c then x else y) := by
  split
  · exact hx ‹_›
  · exact hy ‹_›

@[simp] lemma settles_rejectIf (c : Prop) [Decidable c] : Settles limit (rejectIf c) := by
  simp [rejectIf]

@[simp] lemma settles_waitIf (c : Prop) [Decidable c] : Settles limit (waitIf c) := by
  simp [waitIf]

lemma await_matched {p : List UInt8} {complete : Bool} {a : α} :
    await f p complete = .matched a ↔ f p = some a := by
  unfold await wait
  cases f p <;> cases complete <;> simp

lemma settles_await (hf : ∀ {p q a}, p <+: q → f p = some a → f q = some a) :
    Settles limit (await f) where
  matched hpq _ h := await_matched.mpr (hf hpq (await_matched.mp h))
  early _ h := await_matched.mpr (await_matched.mp h)
  noMatch {p q complete} _ _ h := by
    unfold await at h
    cases hp : f p with
    | none => simp [hp, wait] at h
    | some b => simp [hp] at h

@[simp] lemma settles_need (n : Nat) : Settles limit (need n) := by
  apply settles_await
  intro p q a hpq h
  have hle := hpq.length_le
  split at h
  · cases h
  · rw [if_neg (by omega)]

@[simp] lemma settles_byteAt (i : Nat) : Settles limit (byteAt i) := by
  apply settles_await
  rintro p _ b ⟨rest, rfl⟩ h
  have hlt := (List.getElem?_eq_some_iff.mp h).1
  rw [List.getElem?_append_left hlt, h]

@[simp] lemma settles_bytesAt (i n : Nat) : Settles limit (bytesAt i n) := by
  apply settles_await
  rintro p _ bs ⟨rest, rfl⟩ h
  split at h
  · cases h
  · rename_i hlong
    rw [if_neg (by rw [length_append]; omega), ← h, drop_append_of_le_length (by omega),
      take_append_of_le_length (by rw [length_drop]; omega)]

@[simp] lemma settles_uint16At (i : Nat) : Settles limit (uint16At i) := by
  simp [uint16At]

lemma isPrefix_append_iff (h : pattern.length ≤ data.length)
    (rest : List UInt8) : pattern <+: data ++ rest ↔ pattern <+: data := by
  rw [prefix_iff_eq_take, prefix_iff_eq_take, take_append_of_le_length h]

lemma length_le_of_indexOf (h : indexOf pattern data = some i) :
    i + pattern.length ≤ data.length := by
  induction data generalizing i with unfold indexOf at h
  | nil =>
    split at h
    · cases h
      simp_all
    · cases h
  | cons b data ih =>
    split at h
    · rename_i hpre
      cases h
      simpa using hpre.length_le
    obtain ⟨j, hj, rfl⟩ := Option.map_eq_some_iff.mp h
    have hle := ih hj
    rw [length_cons]
    omega

/-- The first place of a pattern is found as soon as the pattern is there. -/
lemma indexOf_append (h : indexOf pattern data = some i)
    (rest : List UInt8) : indexOf pattern (data ++ rest) = some i := by
  induction data generalizing i with
  | nil =>
    unfold indexOf at h
    split at h
    · rename_i hempty
      cases h
      cases rest <;> simp [indexOf, hempty]
    · cases h
  | cons b data ih =>
    have hle := length_le_of_indexOf h
    have hlong : pattern.length ≤ (b :: data).length := by omega
    rw [cons_append, indexOf, ← cons_append]
    simp only [isPrefix_append_iff hlong]
    rw [indexOf] at h
    split at h
    · rename_i hpre
      rw [if_pos hpre]
      exact h
    rename_i hpre
    obtain ⟨j, hj, rfl⟩ := Option.map_eq_some_iff.mp h
    rw [if_neg hpre, ih hj]
    rfl

lemma indexOf_isSome_iff : (indexOf pattern data).isSome ↔ pattern <:+: data := by
  induction data with
  | nil =>
    unfold indexOf
    by_cases h : pattern = [] <;> simp [h]
  | cons b data ih =>
    rw [indexOf, infix_cons_iff, ← ih]
    by_cases h : pattern <+: b :: data <;> simp [h]

lemma suffix_take_of_indexOf (h : indexOf pattern data = some i) :
    pattern <:+ data.take (i + pattern.length) := by
  induction data generalizing i with
  | nil =>
    unfold indexOf at h
    split at h
    · simp_all
    · cases h
  | cons b data ih =>
    rw [indexOf] at h
    split at h
    · rename_i hpre
      cases h
      rw [Nat.zero_add, ← prefix_iff_eq_take.mp hpre]
    · obtain ⟨j, hj, rfl⟩ := Option.map_eq_some_iff.mp h
      rw [show j + 1 + pattern.length = j + pattern.length + 1 by omega, take_succ_cons]
      exact (ih hj).trans (suffix_cons _ _)

lemma indexOf_of_append {rest : List UInt8} (h : indexOf pattern (data ++ rest) = some i)
    (hle : i + pattern.length ≤ data.length) : indexOf pattern data = some i := by
  have hinfix : pattern <:+: data := by
    have hsuffix := suffix_take_of_indexOf h
    rw [take_append_of_le_length hle] at hsuffix
    have htake : data.take (i + pattern.length) <+: data := take_prefix _ data
    exact hsuffix.isInfix.trans htake.isInfix
  obtain ⟨j, hj⟩ := Option.isSome_iff_exists.mp (indexOf_isSome_iff.mpr hinfix)
  rw [hj, ← indexOf_append hj rest, h]

@[simp] lemma settles_find (pattern : List UInt8) : Settles limit (find pattern) := by
  apply settles_await
  rintro p _ i ⟨rest, rfl⟩ h
  exact indexOf_append h rest

@[simp] lemma settles_literal (bytes : List UInt8) : Settles limit (literal bytes) where
  matched {p q complete a} hpq _ h := by
    obtain ⟨rest, rfl⟩ := hpq
    unfold literal at h ⊢
    split at h
    · split at h <;> cases h
    · rename_i hlong
      rw [if_neg (by rw [length_append]; omega), take_append_of_le_length (by omega)]
      exact h
  early {p a} _ h := by
    unfold literal at h ⊢
    split at h
    · split at h <;> cases h
    · rename_i hlong
      rw [if_neg hlong]
      exact h
  noMatch {p q complete} hpq _ h := by
    obtain ⟨rest, rfl⟩ := hpq
    unfold literal at h ⊢
    split at h
    · rename_i hshort
      split at h
      · cases h
      rename_i hnot
      -- the bytes so far are not the beginning of the literal, and stay so
      have hnot : ¬ p <+: bytes := by simpa using hnot
      split
      · rw [if_neg]
        rintro ⟨hpre, -⟩
        exact hnot ((prefix_append p rest).trans hpre)
      rw [if_neg]
      intro htake
      rw [← htake] at hnot
      exact hnot (prefix_take_iff.mpr ⟨prefix_append p rest, by omega⟩)
    · rename_i hlong
      rw [if_neg (by rw [length_append]; omega), take_append_of_le_length (by omega)]
      exact h

end Peek

end sandbox0
