-- Go calls. A call on a state ends with a value, with an error or with a
-- panic, and each end leaves a state. Runs of calls reach states, and what
-- each call keeps, every run keeps.
import Mathlib

namespace sandbox0

open List

inductive Outcome (ε α : Type) where
  | ok (a : α)
  | err (e : ε)
  | panic
  deriving DecidableEq

instance {ε : Type} : Monad (Outcome ε) where
  pure a := .ok a
  bind x f :=
    match x with
    | .ok a => f a
    | .err e => .err e
    | .panic => .panic

variable {ε α β : Type}

lemma Outcome.of_bind_ok {x : Outcome ε α} {f : α → Outcome ε β} {b : β}
    (h : (x >>= f) = .ok b) : ∃ a, x = .ok a ∧ f a = .ok b := by
  cases x with
  | ok a => exact ⟨a, rfl, h⟩
  | err | panic => cases h

def Outcome.isOk {ε α : Type} : Outcome ε α → Bool
  | .ok _ => true
  | _ => false

/-- The value of a call, or `a` when it has none. -/
def Outcome.getD {ε α : Type} : Outcome ε α → α → α
  | .ok a, _ => a
  | _, a => a

def Outcome.mapErr {ε ε' α : Type} (f : ε → ε') : Outcome ε α → Outcome ε' α
  | .ok a => .ok a
  | .err e => .err (f e)
  | .panic => .panic

/-! ## Loops that may fail -/

section

variable {f : α → Except ε β} {l : List α} {out : List β}

/-- A value of `x >>= f` comes from a value of `x`, where only an error can end it. -/
lemma of_bind_ok {x : Except ε α} {b : β} (h : (x >>= f) = .ok b) :
    ∃ a, x = .ok a ∧ f a = .ok b := by
  cases x with
  | ok a => exact ⟨a, rfl, h⟩
  | error e => cases h

lemma mapM_ok (h : l.mapM f = .ok out) : List.Forall₂ (fun a b => f a = .ok b) l out := by
  induction l generalizing out with
  | nil =>
    cases h
    exact .nil
  | cons a l ih =>
    rw [mapM_cons] at h
    obtain ⟨b, hb, h⟩ := of_bind_ok h
    obtain ⟨rest, hrest, h⟩ := of_bind_ok h
    cases h
    exact .cons hb (ih hrest)

lemma mem_of_mapM_ok (h : l.mapM f = .ok out) (b : β) : b ∈ out ↔ ∃ a ∈ l, f a = .ok b := by
  have hall := mapM_ok h
  clear h
  induction hall with
  | nil => simp
  | @cons a b' l out hb _ ih =>
    rw [mem_cons]
    constructor
    · rintro (rfl | hmem)
      · exact ⟨a, mem_cons_self, hb⟩
      · obtain ⟨x, hx, hfx⟩ := ih.mp hmem
        exact ⟨x, mem_cons_of_mem _ hx, hfx⟩
    · rintro ⟨x, hx, hfx⟩
      rcases mem_cons.mp hx with rfl | hx
      · rw [hb] at hfx
        cases hfx
        exact .inl rfl
      · exact .inr (ih.mpr ⟨x, hx, hfx⟩)

lemma ok_of_mapM_ok (h : l.mapM f = .ok out) {a : α} (ha : a ∈ l) : ∃ b, f a = .ok b := by
  have hall := mapM_ok h
  clear h
  induction hall with
  | nil => cases ha
  | cons hb _ ih =>
    rcases mem_cons.mp ha with rfl | ha
    · exact ⟨_, hb⟩
    · exact ih ha

lemma mapM_ok_of_all (h : ∀ a ∈ l, ∃ b, f a = .ok b) : ∃ out, l.mapM f = .ok out := by
  induction l with
  | nil => exact ⟨[], rfl⟩
  | cons a l ih =>
    obtain ⟨b, hb⟩ := h a mem_cons_self
    obtain ⟨out, hout⟩ := ih fun x hx => h x (mem_cons_of_mem _ hx)
    refine ⟨b :: out, ?_⟩
    rw [mapM_cons, hb, hout]
    rfl

lemma mapM_ok_iff : (∃ out, l.mapM f = .ok out) ↔ ∀ a ∈ l, ∃ b, f a = .ok b :=
  ⟨fun ⟨_, h⟩ _ ha => ok_of_mapM_ok h ha, mapM_ok_of_all⟩

end

/-! ## Calls -/

/-- A Go call on the state `σ`. -/
def Call (ε σ α : Type) : Type := σ → Outcome ε α × σ

namespace Call

variable {ε σ τ α β : Type}

instance : Monad (Call ε σ) where
  pure a := fun s => (.ok a, s)
  bind x f := fun s =>
    match x s with
    | (.ok a, s') => f a s'
    | (.err e, s') => (.err e, s')
    | (.panic, s') => (.panic, s')

/-- `return err`. -/
def fail (e : ε) : Call ε σ α := fun s => (.err e, s)

/-- `if c { return err }`. -/
def failIf (c : Prop) [Decidable c] (e : ε) : Call ε σ Unit := if c then fail e else pure ()

/-- `if c { ... }`. -/
def onlyIf (c : Prop) [Decidable c] (x : Call ε σ Unit) : Call ε σ Unit := if c then x else pure ()

/-- A run-time panic: a nil dereference, a slice bound, a slice that is too long. -/
def panics : Call ε σ α := fun s => (.panic, s)

def read : Call ε σ σ := fun s => (.ok s, s)

def write (s : σ) : Call ε σ Unit := fun _ => (.ok (), s)

def update (f : σ → σ) : Call ε σ Unit := fun s => (.ok (), f s)

/-! ## How a call runs -/

variable {c P : Prop} {e : ε} {s s' : σ} {x : Call ε σ α} {f : α → Call ε σ β} {Q : σ → Prop}

@[simp] lemma pure_run (a : α) (s : σ) : (pure a : Call ε σ α) s = (.ok a, s) := rfl

@[simp] lemma fail_run (e : ε) (s : σ) : (fail e : Call ε σ α) s = (.err e, s) := rfl

@[simp] lemma panics_run (s : σ) : (panics : Call ε σ α) s = (.panic, s) := rfl

@[simp] lemma read_run (s : σ) : (read : Call ε σ σ) s = (.ok s, s) := rfl

@[simp] lemma write_run (s s' : σ) : (write s' : Call ε σ Unit) s = (.ok (), s') := rfl

@[simp] lemma update_run (f : σ → σ) (s : σ) : (update f : Call ε σ Unit) s = (.ok (), f s) := rfl

lemma failIf_pos [Decidable c] (e : ε) (h : c) : (failIf c e : Call ε σ Unit) = fail e := if_pos h

lemma failIf_neg [Decidable c] (e : ε) (h : ¬ c) :
    (failIf c e : Call ε σ Unit) = pure () := if_neg h

lemma of_failIf_ok [Decidable c]
    (h : (failIf c e : Call ε σ Unit) s = (.ok (), s')) : ¬ c ∧ s' = s := by
  by_cases hc : c
  · rw [failIf_pos e hc] at h; cases h
  · rw [failIf_neg e hc] at h; cases h; exact ⟨hc, rfl⟩

lemma onlyIf_pos [Decidable c] (x : Call ε σ Unit) (h : c) : onlyIf c x = x := if_pos h

lemma onlyIf_neg [Decidable c] (x : Call ε σ Unit) (h : ¬ c) : onlyIf c x = pure () := if_neg h

lemma bind_run (x : Call ε σ α) (f : α → Call ε σ β) (s : σ) :
    (x >>= f) s =
      match x s with
      | (.ok a, s') => f a s'
      | (.err e, s') => (.err e, s')
      | (.panic, s') => (.panic, s') := rfl

@[simp] lemma bind_pure_run (a : α) (f : α → Call ε σ β) (s : σ) :
    ((pure a : Call ε σ α) >>= f) s = f a s := rfl

@[simp] lemma bind_fail_run (e : ε) (f : α → Call ε σ β) (s : σ) :
    ((fail e : Call ε σ α) >>= f) s = (.err e, s) := rfl

@[simp] lemma bind_panics_run (f : α → Call ε σ β) (s : σ) :
    ((panics : Call ε σ α) >>= f) s = (.panic, s) := rfl

@[simp] lemma bind_read_run (f : σ → Call ε σ β) (s : σ) : (read >>= f) s = f s s := rfl

@[simp] lemma bind_write_run (s s' : σ) (f : Unit → Call ε σ β) :
    (write s' >>= f) s = f () s' := rfl

@[simp] lemma bind_update_run (g : σ → σ) (f : Unit → Call ε σ β) (s : σ) :
    (update g >>= f) s = f () (g s) := rfl

lemma bind_ok {a : α} (h : x s = (.ok a, s')) : (x >>= f) s = f a s' := by
  rw [bind_run, h]

lemma bind_err (h : x s = (.err e, s')) : (x >>= f) s = (.err e, s') := by
  rw [bind_run, h]

lemma bind_const_run (x : Call ε σ α) (b : β) (s : σ) :
    (x >>= fun _ => pure b) s = ((do let _ ← (x s).1; pure b), (x s).2) := by
  rw [bind_run]
  rcases x s with ⟨_ | _ | _, s'⟩ <;> rfl

/-- What holds of every end of `x`, and of `f` after each value of `x`,
holds of `x >>= f`. -/
lemma bind_elim {Q : Outcome ε β × σ → Prop} (hok : ∀ a s', x s = (.ok a, s') → Q (f a s'))
    (herr : ∀ e s', x s = (.err e, s') → Q (.err e, s'))
    (hpanic : ∀ s', x s = (.panic, s') → Q (.panic, s')) : Q ((x >>= f) s) := by
  rw [bind_run]
  rcases hx : x s with ⟨_ | _ | _, s'⟩
  · exact hok _ _ hx
  · exact herr _ _ hx
  · exact hpanic _ hx

lemma bind_keeps {P : σ → Prop} (hx : P (x s).2)
    (hf : ∀ a s', x s = (.ok a, s') → P s' → P (f a s').2) : P ((x >>= f) s).2 := by
  refine bind_elim (Q := fun r => P r.2) (fun a s' h => hf a s' h ?_) (fun e s' h => ?_)
    fun s' h => ?_
  all_goals
    rw [h] at hx
    exact hx

lemma onlyIf_keeps {_ : Decidable c} {x : Call ε σ Unit} {P : σ → Prop}
    (h0 : P s) (hx : c → P (x s).2) : P (onlyIf c x s).2 := by
  by_cases hc : c
  · rw [onlyIf_pos x hc]
    exact hx hc
  · rw [onlyIf_neg x hc]
    exact h0

lemma of_bind_ok {b : β}
    (h : (x >>= f) s = (.ok b, s')) : ∃ a s1, x s = (.ok a, s1) ∧ f a s1 = (.ok b, s') := by
  rw [bind_run] at h
  rcases hx : x s with ⟨_ | _ | _, s1⟩
  · rw [hx] at h; exact ⟨_, _, rfl, h⟩
  · rw [hx] at h; cases h
  · rw [hx] at h; cases h

/-- When `x` does not end well, `f` does not run. -/
lemma bind_failed (h : (x s).1.isOk = false) :
    ((x >>= f) s).1.isOk = false ∧ ((x >>= f) s).2 = (x s).2 := by
  rw [bind_run]
  rcases hx : x s with ⟨_ | _ | _, s'⟩
  · rw [hx] at h
    cases h
  · exact ⟨rfl, rfl⟩
  · exact ⟨rfl, rfl⟩

lemma ok_of_isOk {r : Outcome ε α × σ} (h : r.1.isOk = true) : ∃ a s, r = (.ok a, s) := by
  obtain ⟨_ | _ | _, s⟩ := r
  · exact ⟨_, s, rfl⟩
  · cases h
  · cases h

/-! ## Checks -/

/-- A check that only looks at the state: it ends well exactly when `P` holds. -/
def Checks (x : Call ε σ α) (s : σ) (P : Prop) : Prop :=
  (P ∧ ∃ a, x s = (.ok a, s)) ∨ (¬ P ∧ ∃ e, x s = (.err e, s))

/-- A change behind checks: it makes `s` into `s'` when `P` holds, and else
it ends with an error and changes nothing. -/
def Applies (x : Call ε σ Unit) (s : σ) (P : Prop) (s' : σ) : Prop :=
  (P ∧ x s = (.ok (), s')) ∨ (¬ P ∧ ∃ e, x s = (.err e, s))

lemma Checks.refuses (h : Checks x s P) (hp : ¬ P) : ∃ e, x s = (.err e, s) := by
  rcases h with ⟨hp', _⟩ | ⟨_, he⟩
  · exact absurd hp' hp
  · exact he

lemma Checks.of_ok {a : α} (h : Checks x s P) (hx : x s = (.ok a, s')) : P ∧ s' = s := by
  rcases h with ⟨hp, a', hx'⟩ | ⟨_, e, hx'⟩
  · rw [hx'] at hx
    cases hx
    exact ⟨hp, rfl⟩
  · rw [hx'] at hx
    cases hx

lemma Checks.elim (hx : Checks x s P) (h0 : Q s) (hf : P → ∀ a, x s = (.ok a, s) → Q (f a s).2) :
    Q ((x >>= f) s).2 := by
  rcases hx with ⟨hp, a, ha⟩ | ⟨_, e, he⟩
  · rw [bind_ok ha]; exact hf hp a ha
  · rw [bind_err he]; exact h0

lemma failIf_elim {_ : Decidable c} {f : Unit → Call ε σ β} (h0 : Q s) (hf : ¬ c → Q (f () s).2) :
    Q ((failIf c e >>= f) s).2 := by
  by_cases hc : c
  · rw [failIf_pos e hc]; exact h0
  · rw [failIf_neg e hc]; exact hf hc

section

variable {x : Call ε σ Unit}

lemma applies_of_ok (h : x s = (.ok (), s')) : Applies x s True s' :=
  .inl ⟨trivial, h⟩

lemma Applies.ok (h : Applies x s P s') (hp : P) : x s = (.ok (), s') := by
  rcases h with ⟨_, hx⟩ | ⟨hn, _⟩
  · exact hx
  · exact absurd hp hn

lemma Applies.no_panic (h : Applies x s P s') : (x s).1 ≠ .panic := by
  rcases h with ⟨_, hx⟩ | ⟨_, e, hx⟩
  · rw [hx]; simp
  · rw [hx]; simp

lemma Applies.elim (h : Applies x s P s') (h0 : Q s) (h1 : P → Q s') : Q (x s).2 := by
  rcases h with ⟨hp, hx⟩ | ⟨_, e, hx⟩
  · rw [hx]; exact h1 hp
  · rw [hx]; exact h0

lemma Applies.imp {P' : Prop} (h : Applies x s P s') (hp : P ↔ P') : Applies x s P' s' := by
  rcases h with ⟨h1, hx⟩ | ⟨h1, hx⟩
  · exact .inl ⟨hp.mp h1, hx⟩
  · exact .inr ⟨fun h2 => h1 (hp.mpr h2), hx⟩

end

lemma Checks.applies {f : α → Call ε σ Unit} {P' : Prop} (hx : Checks x s P)
    (hf : P → ∀ a, x s = (.ok a, s) → Applies (f a) s P' s') : Applies (x >>= f) s (P ∧ P') s' := by
  rcases hx with ⟨hp, a, ha⟩ | ⟨hp, e, he⟩
  · rcases hf hp a ha with ⟨hp', h⟩ | ⟨hp', e, h⟩
    · exact .inl ⟨⟨hp, hp'⟩, by rw [bind_ok ha, h]⟩
    · exact .inr ⟨fun hpp => hp' hpp.2, e, by rw [bind_ok ha, h]⟩
  · exact .inr ⟨fun hpp => hp hpp.1, e, by rw [bind_err he]⟩

lemma failIf_applies {_ : Decidable c} {f : Unit → Call ε σ Unit}
    (hf : ¬ c → Applies (f ()) s P s') : Applies (failIf c e >>= f) s (¬ c ∧ P) s' := by
  by_cases hc : c
  · rw [failIf_pos e hc]
    exact .inr ⟨fun h => h.1 hc, e, rfl⟩
  rw [failIf_neg e hc]
  rcases hf hc with ⟨hp, h⟩ | ⟨hp, h⟩
  · exact .inl ⟨⟨hc, hp⟩, h⟩
  · exact .inr ⟨fun hpp => hp hpp.2, h⟩

def on (get : τ → σ) (put : τ → σ → τ) (x : Call ε σ α) : Call ε τ α := fun t =>
  let r := x (get t)
  (r.1, put t r.2)

@[simp] lemma on_run (get : τ → σ) (put : τ → σ → τ) (x : Call ε σ α) (t : τ) :
    on get put x t = ((x (get t)).1, put t (x (get t)).2) := rfl

end Call

/-! ## Runs -/

/-- The states that a run reaches: it starts in a state of `init`, and each
step takes a label that `ok` admits in the state before it. -/
inductive Reach {σ α : Type} (init : σ → Prop) (next : σ → α → σ → Prop) (ok : σ → α → Prop) :
    σ → Prop where
  | start {s : σ} : init s → Reach init next ok s
  | step {s s' : σ} {a : α} :
      Reach init next ok s → ok s a → next s a s' → Reach init next ok s'

variable {σ α : Type} {init : σ → Prop} {next : σ → α → σ → Prop} {ok : σ → α → Prop}

/-- What holds at the start and is kept by each step holds in every state
that a run reaches. -/
lemma Reach.keeps {f : σ → α → σ} {P : σ → Prop} (h0 : ∀ s, init s → P s)
    (hstep : ∀ s a, P s → ok s a → P (f s a)) {s : σ}
    (h : Reach init (fun s a s' => s' = f s a) ok s) : P s := by
  induction h with
  | start hi => exact h0 _ hi
  | step _ ha hn ih =>
    rw [hn]
    exact hstep _ _ ih ha

/-- Each label of the list is admitted in the state that those before it lead to. -/
def Admits (f : σ → α → σ) (ok : σ → α → Prop) : σ → List α → Prop
  | _, [] => True
  | s, a :: as => ok s a ∧ Admits f ok (f s a) as

instance Admits.decidable (f : σ → α → σ) [h : ∀ s a, Decidable (ok s a)] :
    ∀ (s : σ) (as : List α), Decidable (Admits f ok s as)
  | _, [] => inferInstanceAs (Decidable True)
  | s, a :: as =>
    have := Admits.decidable f (f s a) as
    inferInstanceAs (Decidable (ok s a ∧ Admits f ok (f s a) as))

lemma Admits.keeps {f : σ → α → σ} {P : σ → Prop} {s : σ} {as : List α} (ha : Admits f ok s as)
    (hstep : ∀ s a, P s → ok s a → P (f s a)) (h : P s) : P (as.foldl f s) := by
  induction as generalizing s with
  | nil => exact h
  | cons a as ih => exact ih ha.2 (hstep s a h ha.1)

lemma Reach.run {f : σ → α → σ} {s : σ} (h : Reach init (fun s a s' => s' = f s a) ok s)
    (as : List α) (ha : Admits f ok s as) :
    Reach init (fun s a s' => s' = f s a) ok (as.foldl f s) :=
  ha.keeps (fun _ _ hs hok => .step hs hok rfl) h

end sandbox0
