-- Tasks that take connections from pools and locks from queues. A lock is
-- shared or exclusive, and its queue is served first come, first served. The
-- rule at the end says when every task gets through.
import Mathlib

namespace sandbox0.sched

open List Function

/-! ## Goals that no run can miss -/

section Inevitable

variable {σ : Type} {next : σ → σ → Prop} {goal : σ → Prop}

/-- Every run that goes on as long as it can comes to the goal. -/
inductive Inevitable (next : σ → σ → Prop) (goal : σ → Prop) : σ → Prop where
  | reached {s : σ} (h : goal s) : Inevitable next goal s
  | moves {s : σ} (hsome : ∃ s', next s s') (hall : ∀ s', next s s' → Inevitable next goal s') :
      Inevitable next goal s

variable {s : σ}

lemma Inevitable.of_measure {P : σ → Prop} (measure : σ → Nat)
    (hstep : ∀ s s', P s → next s s' → P s' ∧ measure s' < measure s)
    (hprogress : ∀ s, P s → ¬ goal s → ∃ s', next s s') (hs : P s) : Inevitable next goal s := by
  induction hm : measure s using Nat.strong_induction_on generalizing s with
  | h m ih =>
    by_cases hgoal : goal s
    · exact .reached hgoal
    refine .moves (hprogress s hs hgoal) ?_
    intro s' hnext
    obtain ⟨hs', hlt⟩ := hstep s s' hs hnext
    exact ih _ (hm ▸ hlt) hs' rfl

lemma Inevitable.not_stuck (h : Inevitable next goal s) (hgoal : ¬ goal s) : ∃ s', next s s' := by
  cases h with
  | reached h => exact absurd h hgoal
  | moves hsome _ => exact hsome

lemma Inevitable.step {s' : σ} (h : Inevitable next goal s) (hgoal : ¬ goal s)
    (hnext : next s s') : Inevitable next goal s' := by
  cases h with
  | reached h => exact absurd h hgoal
  | moves _ hall => exact hall s' hnext

end Inevitable

/-! ## Tasks -/

inductive Mode where
  | shared
  | exclusive
  deriving DecidableEq

variable {ρ κ : Type} [DecidableEq ρ] [DecidableEq κ]

inductive Cmd (ρ κ : Type) where
  | acquire (pool : ρ)
  | release (pool : ρ)
  | lock (key : κ) (mode : Mode)
  | unlock (key : κ) (mode : Mode)

inductive Held (ρ κ : Type) where
  | conn (pool : ρ)
  | lock (key : κ) (mode : Mode)
  deriving DecidableEq

def Cmd.after : Cmd ρ κ → List (Held ρ κ) → List (Held ρ κ)
  | .acquire r, hs => .conn r :: hs
  | .release r, hs => hs.erase (.conn r)
  | .lock k m, hs => .lock k m :: hs
  | .unlock k m, hs => hs.erase (.lock k m)

def after (cs : List (Cmd ρ κ)) (hs : List (Held ρ κ)) : List (Held ρ κ) :=
  cs.foldl (fun hs c => c.after hs) hs

def Cmd.waits : Cmd ρ κ → Bool
  | .acquire _ => true
  | .lock _ _ => true
  | _ => false

structure Task (ρ κ : Type) where
  holds : List (Held ρ κ)
  /-- The next command is a lock, and it stands in the queue. -/
  queued : Bool
  rest : List (Cmd ρ κ)

/-- The task has something or waits for a lock. -/
def Task.busy (t : Task ρ κ) : Bool := !t.holds.isEmpty || t.queued

def Task.moved (t : Task ρ κ) : Task ρ κ :=
  match t.rest with
  | [] => t
  | c :: cs => { holds := c.after t.holds, queued := false, rest := cs }

structure Sys (ρ κ : Type) where
  tasks : List (Task ρ κ)
  queue : κ → List (Nat × Mode)

def Sys.start (scripts : List (List (Cmd ρ κ))) : Sys ρ κ :=
  { tasks := scripts.map fun cs => { holds := [], queued := false, rest := cs },
    queue := fun _ => [] }

def Sys.used (s : Sys ρ κ) (r : ρ) : Nat := (s.tasks.map fun t => t.holds.count (.conn r)).sum

/-- No task has the lock in a way that keeps others out. -/
def Sys.free (s : Sys ρ κ) (k : κ) : Mode → Prop
  | .shared => ∀ t ∈ s.tasks, .lock k .exclusive ∉ t.holds
  | .exclusive => ∀ t ∈ s.tasks, .lock k .exclusive ∉ t.holds ∧ .lock k .shared ∉ t.holds

instance (s : Sys ρ κ) (k : κ) : (m : Mode) → Decidable (s.free k m)
  | .shared => inferInstanceAs (Decidable (∀ t ∈ s.tasks, .lock k .exclusive ∉ t.holds))
  | .exclusive =>
    inferInstanceAs
      (Decidable (∀ t ∈ s.tasks, .lock k .exclusive ∉ t.holds ∧ .lock k .shared ∉ t.holds))

def Sys.move (s : Sys ρ κ) (i : Nat) (t : Task ρ κ) : Sys ρ κ :=
  { s with tasks := s.tasks.set i t.moved }

def Sys.step (size : ρ → Nat) (s : Sys ρ κ) (i : Nat) : Option (Sys ρ κ) :=
  match s.tasks[i]? with
  | none => none
  | some t =>
    match t.rest with
    | [] => none
    | .acquire r :: _ => if s.used r < size r then some (s.move i t) else none
    | .release _ :: _ => some (s.move i t)
    | .unlock _ _ :: _ => some (s.move i t)
    | .lock k m :: _ =>
      if t.queued then
        if (s.queue k).head? = some (i, m) ∧ s.free k m then
          some { s.move i t with queue := Function.update s.queue k (s.queue k).tail }
        else none
      else
        some { tasks := s.tasks.set i { t with queued := true }
               queue := Function.update s.queue k (s.queue k ++ [(i, m)]) }

def Sys.returned (s : Sys ρ κ) : Prop := ∀ t ∈ s.tasks, t.rest = []

instance (s : Sys ρ κ) : Decidable s.returned := inferInstanceAs (Decidable (∀ t ∈ s.tasks, _))

def Sys.next (size : ρ → Nat) (s s' : Sys ρ κ) : Prop := ∃ i, s.step size i = some s'

/-- The steps of these tasks, one after the other. -/
def Sys.run (size : ρ → Nat) (s : Sys ρ κ) : List Nat → Option (Sys ρ κ)
  | [] => some s
  | i :: is => (s.step size i).bind fun s' => s'.run size is

def Sys.stuck (size : ρ → Nat) (s : Sys ρ κ) : Prop :=
  ∀ i < s.tasks.length, (s.step size i).isNone = true

instance (size : ρ → Nat) (s : Sys ρ κ) : Decidable (s.stuck size) :=
  inferInstanceAs (Decidable (∀ i < s.tasks.length, _))

/-! ## Runs that end too early -/

variable {size : ρ → Nat} {s s' : Sys ρ κ} {i d : Nat} {t t' : Task ρ κ} {ts : List (Task ρ κ)}
    {cs : List (Cmd ρ κ)} {r : ρ}

lemma Sys.not_returned (h : s.step size i = some s') : ¬ s.returned := by
  intro hret
  unfold Sys.step at h
  split at h
  · cases h
  · rename_i t ht
    rw [hret t (mem_of_getElem? ht)] at h
    cases h

lemma Inevitable.run {is : List Nat} (h : Inevitable (Sys.next size) Sys.returned s)
    (hrun : s.run size is = some s') : Inevitable (Sys.next size) Sys.returned s' := by
  induction is generalizing s with
  | nil =>
    cases hrun
    exact h
  | cons i is ih =>
    obtain ⟨s1, h1, hrun⟩ := Option.bind_eq_some_iff.mp hrun
    exact ih (h.step (Sys.not_returned h1) ⟨i, h1⟩) hrun

/-- These steps lead to a state in which some task is not done and none can go on. -/
def Sys.deadlocks (size : ρ → Nat) (s : Sys ρ κ) (is : List Nat) : Bool :=
  match s.run size is with
  | none => false
  | some s' => decide (¬ s'.returned) && decide (s'.stuck size)

lemma not_inevitable (is : List Nat) (h : s.deadlocks size is = true) :
    ¬ Inevitable (Sys.next size) Sys.returned s := by
  intro hall
  unfold Sys.deadlocks at h
  split at h
  · cases h
  rename_i s' hrun
  simp only [Bool.and_eq_true, decide_eq_true_eq] at h
  obtain ⟨hopen, hstuck⟩ := h
  obtain ⟨s2, i, hi⟩ := (hall.run hrun).not_stuck hopen
  by_cases hlt : i < s'.tasks.length
  · have hnone := hstuck i hlt
    rw [hi] at hnone
    cases hnone
  · unfold Sys.step at hi
    rw [getElem?_eq_none (by omega)] at hi
    cases hi

/-! ## What a task may still need -/

/-- The most connections of the pool that the task has when it waits for something. -/
def peak (r : ρ) : List (Held ρ κ) → List (Cmd ρ κ) → Nat
  | _, [] => 0
  | hs, c :: cs => max (if c.waits then hs.count (.conn r) else 0) (peak r (c.after hs) cs)

/-- The task will ask for a lock while it has the lock of this key. -/
def nests (k : κ) : List (Held ρ κ) → List (Cmd ρ κ) → Prop
  | _, [] => False
  | hs, c :: cs =>
    ((∃ k' m', c = .lock k' m') ∧ ∃ m, .lock k m ∈ hs) ∨ nests k (c.after hs) cs

/-- The task has the lock alone, or will ask for it alone. -/
def excludes (k : κ) (hs : List (Held ρ κ)) (cs : List (Cmd ρ κ)) : Prop :=
  .lock k .exclusive ∈ hs ∨ .lock k .exclusive ∈ cs

/-- The tasks can be under way together. -/
structure Compatible (size : ρ → Nat) (ts : List (Task ρ κ)) : Prop where
  /-- While all of them wait, no pool is empty. -/
  pools : ∀ r, (ts.map fun t => peak r t.holds t.rest).sum < size r
  /-- A lock under which one of them takes a lock is shared by all. -/
  locks : ∀ t ∈ ts, ∀ t' ∈ ts, ∀ k, nests k t.holds t.rest → ¬ excludes k t'.holds t'.rest

def Sys.busy (s : Sys ρ κ) : List (Task ρ κ) := s.tasks.filter Task.busy

/-- A task that has nothing starts only when it can be under way with those that are. -/
def Sys.Admits (size : ρ → Nat) (s : Sys ρ κ) (i : Nat) : Prop :=
  ∀ t, s.tasks[i]? = some t → t.busy = false → Compatible size (t :: s.busy)

def Sys.nextAdmitted (size : ρ → Nat) (s s' : Sys ρ κ) : Prop :=
  ∃ i, s.Admits size i ∧ s.step size i = some s'

/-! ## A task needs less and less -/

/-- `t'` needs no more than `t`. -/
structure Task.Le (t' t : Task ρ κ) : Prop where
  peak : ∀ r, peak r t'.holds t'.rest ≤ peak r t.holds t.rest
  nests : ∀ k, nests k t'.holds t'.rest → nests k t.holds t.rest
  excludes : ∀ k, excludes k t'.holds t'.rest → excludes k t.holds t.rest

lemma Task.moved_le (t : Task ρ κ) : t.moved.Le t := by
  unfold Task.moved
  cases hrest : t.rest with
  | nil => exact ⟨fun _ => Nat.le_refl _, fun _ h => h, fun _ h => h⟩
  | cons c cs =>
    refine ⟨fun r => ?_, fun k h => ?_, fun k h => ?_⟩
    · rw [hrest]
      exact Nat.le_max_right _ _
    · rw [hrest]
      exact .inr h
    · rw [hrest]
      rcases h with h | h
      · cases c with
        | acquire r =>
          left
          simpa [Cmd.after] using h
        | release | unlock =>
          left
          exact mem_of_mem_erase h
        | lock k' m =>
          simp only [Cmd.after, mem_cons, Held.lock.injEq] at h
          rcases h with ⟨rfl, rfl⟩ | h
          · exact .inr mem_cons_self
          · exact .inl h
      · exact .inr (mem_cons_of_mem _ h)

lemma Compatible.tail (h : Compatible size (t :: ts)) : Compatible size ts := by
  refine ⟨fun r => ?_,
    fun t1 h1 t2 h2 => h.locks t1 (mem_cons_of_mem _ h1) t2 (mem_cons_of_mem _ h2)⟩
  have hr := h.pools r
  rw [map_cons, sum_cons] at hr
  omega

lemma Compatible.head (h : Compatible size (t :: ts)) : Compatible size [t] := by
  refine ⟨fun r => ?_, fun t1 h1 t2 h2 => ?_⟩
  · have hr := h.pools r
    simp only [map_cons, map_nil, sum_cons, sum_nil] at hr ⊢
    omega
  · rw [mem_singleton] at h1 h2
    subst h1 h2
    exact h.locks _ mem_cons_self _ mem_cons_self

lemma Compatible.replace
    (h : Compatible size (t :: ts)) (hle : t'.Le t) : Compatible size (t' :: ts) := by
  refine ⟨fun r => ?_, fun t1 h1 t2 h2 k hn he => ?_⟩
  · have hr := h.pools r
    have hp := hle.peak r
    rw [map_cons, sum_cons] at hr ⊢
    omega
  · have hn' : ∃ u ∈ t :: ts, nests k u.holds u.rest := by
      rcases mem_cons.mp h1 with rfl | h1
      · exact ⟨t, mem_cons_self, hle.nests k hn⟩
      · exact ⟨t1, mem_cons_of_mem _ h1, hn⟩
    have he' : ∃ u ∈ t :: ts, excludes k u.holds u.rest := by
      rcases mem_cons.mp h2 with rfl | h2
      · exact ⟨t, mem_cons_self, hle.excludes k he⟩
      · exact ⟨t2, mem_cons_of_mem _ h2, he⟩
    obtain ⟨u, hu, hnu⟩ := hn'
    obtain ⟨w, hw, hew⟩ := he'
    exact h.locks u hu w hw k hnu hew

lemma Compatible.perm {ts' : List (Task ρ κ)} (h : Compatible size ts)
    (hp : ts'.Perm ts) : Compatible size ts' := by
  refine ⟨fun r => ?_, fun t1 h1 t2 h2 => h.locks t1 (hp.subset h1) t2 (hp.subset h2)⟩
  rw [(hp.map _).sum_eq]
  exact h.pools r

/-! ## What a step does -/

/-- A step of task `t` at place `i`, which has `t'` for it and changes the queues. -/
inductive Moved (size : ρ → Nat) (s : Sys ρ κ) (i : Nat) (t : Task ρ κ) :
    Task ρ κ → Sys ρ κ → Prop where
  | command (c : Cmd ρ κ) (cs : List (Cmd ρ κ)) (hrest : t.rest = c :: cs)
      (hlock : ∀ k m, c ≠ .lock k m) :
      Moved size s i t t.moved { tasks := s.tasks.set i t.moved, queue := s.queue }
  | enqueued (k : κ) (m : Mode) (cs : List (Cmd ρ κ)) (hrest : t.rest = .lock k m :: cs)
      (hout : t.queued = false) :
      Moved size s i t { t with queued := true }
        { tasks := s.tasks.set i { t with queued := true }
          queue := Function.update s.queue k (s.queue k ++ [(i, m)]) }
  | granted (k : κ) (m : Mode) (cs : List (Cmd ρ κ)) (waiting : List (Nat × Mode))
      (hrest : t.rest = .lock k m :: cs) (hin : t.queued = true)
      (hqueue : s.queue k = (i, m) :: waiting) :
      Moved size s i t t.moved
        { tasks := s.tasks.set i t.moved, queue := Function.update s.queue k waiting }

lemma Sys.step_cases (h : s.step size i = some s') :
    ∃ t t', s.tasks[i]? = some t ∧ Moved size s i t t' s' := by
  unfold Sys.step at h
  split at h
  · cases h
  rename_i t ht
  refine ⟨t, ?_⟩
  split at h
  · cases h
  · rename_i r cs hrest
    split at h
    · cases h
      exact ⟨t.moved, ht, .command _ cs hrest (by simp)⟩
    · cases h
  · rename_i r cs hrest
    cases h
    exact ⟨t.moved, ht, .command _ cs hrest (by simp)⟩
  · rename_i k m cs hrest
    cases h
    exact ⟨t.moved, ht, .command _ cs hrest (by simp)⟩
  · rename_i k m cs hrest
    split at h
    · rename_i hin
      split at h
      · rename_i hhead
        cases h
        obtain ⟨waiting, hqueue⟩ := head?_eq_some_iff.mp hhead.1
        refine ⟨t.moved, ht, ?_⟩
        rw [hqueue, tail_cons]
        exact .granted k m cs waiting hrest hin hqueue
      · cases h
    · rename_i hout
      cases h
      exact ⟨_, ht, .enqueued k m cs hrest (by simpa using hout)⟩

lemma Moved.tasks (ht : s.tasks[i]? = some t) (h : Moved size s i t t' s') :
    ∃ l1 l2, s.tasks = l1 ++ t :: l2 ∧ s'.tasks = l1 ++ t' :: l2 := by
  have hset : s'.tasks = s.tasks.set i t' := by cases h <;> rfl
  obtain ⟨hlt, rfl⟩ := List.getElem?_eq_some_iff.mp ht
  obtain ⟨l1, l2, hl, _, hl'⟩ := @List.exists_of_set _ _ t' _ hlt
  exact ⟨l1, l2, hl, hset.trans hl'⟩

lemma Moved.le (h : Moved size s i t t' s') : t'.Le t := by
  cases h with
  | command | granted => exact t.moved_le
  | enqueued => exact ⟨fun _ => Nat.le_refl _, fun _ h => h, fun _ h => h⟩

/-- What is still to be done. A lock is two steps. -/
def Task.work (t : Task ρ κ) : Nat := 2 * t.rest.length - t.queued.toNat

def Sys.work (s : Sys ρ κ) : Nat := (s.tasks.map Task.work).sum

lemma Moved.work (ht : s.tasks[i]? = some t) (h : Moved size s i t t' s') : s'.work < s.work := by
  have hq : t.queued.toNat ≤ 1 := Bool.toNat_le _
  have hlt : t'.work < t.work := by
    cases h with
    | command c cs hrest | granted k m cs waiting hrest =>
      simp only [Task.work, Task.moved, hrest, length_cons, Bool.toNat_false]
      omega
    | enqueued k m cs hrest hout =>
      simp only [Task.work, hrest, hout, length_cons, Bool.toNat_false, Bool.toNat_true]
      omega
  obtain ⟨l1, l2, hl, hl'⟩ := h.tasks ht
  simp only [Sys.work, hl, hl', map_append, map_cons, sum_append, sum_cons]
  omega

/-! ## The invariant -/

/-- The task stands in the queue of `k` for this mode. -/
def Task.Waits (t : Task ρ κ) (k : κ) (m : Mode) : Prop :=
  t.queued = true ∧ ∃ cs, t.rest = .lock k m :: cs

structure Inv (size : ρ → Nat) (s : Sys ρ κ) : Prop where
  /-- A task that is done has given all back. -/
  balanced : ∀ t ∈ s.tasks, after t.rest t.holds = []
  queued : ∀ t ∈ s.tasks, t.queued = true → ∃ k m, t.Waits k m
  waits : ∀ k i m, (i, m) ∈ s.queue k ↔ ∃ t, s.tasks[i]? = some t ∧ t.Waits k m
  nodup : ∀ k, (s.queue k).Nodup
  compatible : Compatible size s.busy
  /-- Each task can be under way alone. -/
  alone : ∀ t ∈ s.tasks, t.busy = false → Compatible size [t]

section

variable (t)

lemma Task.moved_queued (h : t.rest ≠ []) : t.moved.queued = false := by
  unfold Task.moved
  cases hrest : t.rest with
  | nil => exact absurd hrest h
  | cons c cs => rfl

lemma Task.after_moved : after t.moved.rest t.moved.holds = after t.rest t.holds := by
  unfold Task.moved
  cases hrest : t.rest with
  | nil => simp [hrest]
  | cons c cs => rfl

omit [DecidableEq ρ] [DecidableEq κ] in
lemma busy_split {l1 l2 : List (Task ρ κ)} (hb : t.busy = true) :
    ((l1 ++ t :: l2).filter Task.busy).Perm (t :: (l1 ++ l2).filter Task.busy) := by
  rw [filter_append, filter_cons_of_pos hb, filter_append]
  exact perm_middle

omit [DecidableEq ρ] [DecidableEq κ] in
lemma busy_skip {l1 l2 : List (Task ρ κ)} (hb : t.busy = false) :
    (l1 ++ t :: l2).filter Task.busy = (l1 ++ l2).filter Task.busy := by
  rw [filter_append, filter_cons_of_neg (by simp [hb]), filter_append]

end

section

variable (ht : s.tasks[i]? = some t) (h : Moved size s i t t' s')

include ht h

lemma Moved.compatible (hs : Compatible size s.busy) (hadmits : s.Admits size i) :
    Compatible size s'.busy ∧ (t'.busy = false → Compatible size [t']) := by
  obtain ⟨l1, l2, hl, hl'⟩ := h.tasks ht
  have hwith : Compatible size (t :: (l1 ++ l2).filter Task.busy) := by
    cases hb : t.busy with
    | true =>
      rw [Sys.busy, hl] at hs
      exact hs.perm (busy_split t hb).symm
    | false =>
      have hstart := hadmits t ht hb
      rw [Sys.busy, hl, busy_skip t hb] at hstart
      exact hstart
  have hwith' := hwith.replace h.le
  refine ⟨?_, fun _ => hwith'.head⟩
  rw [Sys.busy, hl']
  cases hb : t'.busy with
  | true => exact hwith'.perm (busy_split t' hb)
  | false =>
    rw [busy_skip t' hb]
    exact hwith'.tail

lemma Moved.get (j : Nat) : s'.tasks[j]? = if i = j then some t' else s.tasks[j]? := by
  have hset : s'.tasks = s.tasks.set i t' := by cases h <;> rfl
  obtain ⟨hlt, _⟩ := List.getElem?_eq_some_iff.mp ht
  rw [hset, List.getElem?_set]
  simp only [hlt, if_true]

/-- The task that moves stands in a queue after the step just when it was put there. -/
lemma Moved.queue (hinv : Inv size s) (k : κ) (j : Nat) (m : Mode) :
    (j, m) ∈ s'.queue k ↔ if i = j then t'.Waits k m else (j, m) ∈ s.queue k := by
  have hown : ∀ k m, (i, m) ∈ s.queue k ↔ t.Waits k m := by
    intro k m
    rw [hinv.waits k i m]
    constructor
    · rintro ⟨u, hu, hw⟩
      rw [ht] at hu
      cases hu
      exact hw
    · exact fun hw => ⟨t, ht, hw⟩
  have hidle : t.rest ≠ [] → ¬ t.moved.Waits k m := by
    rintro hne ⟨hq, _⟩
    rw [t.moved_queued hne] at hq
    cases hq
  cases h with
  | command c cs hrest hlock =>
    by_cases hij : i = j
    · subst hij
      simp only [if_true, iff_false_right (hidle (by simp [hrest])), hown]
      rintro ⟨_, cs', hcs⟩
      rw [hrest] at hcs
      exact hlock k m (List.cons.inj hcs).1
    · simp only [if_neg hij]
  | enqueued k' m' cs hrest hout =>
    have hmem : (j, m) ∈ Function.update s.queue k' (s.queue k' ++ [(i, m')]) k ↔
        (j, m) ∈ s.queue k ∨ k = k' ∧ j = i ∧ m = m' := by
      by_cases hk : k = k'
      · subst hk
        simp
      · simp [hk]
    refine hmem.trans ?_
    by_cases hij : i = j
    · subst hij
      have hnot : ¬ t.Waits k m := by simp [Task.Waits, hout]
      simp only [if_true, hown, hnot, false_or, true_and]
      constructor
      · rintro ⟨rfl, rfl⟩
        exact ⟨rfl, cs, hrest⟩
      · rintro ⟨_, cs', hcs⟩
        simp only [hrest, List.cons.injEq, Cmd.lock.injEq] at hcs
        exact ⟨hcs.1.1.symm, hcs.1.2.symm⟩
    · simp [hij, Ne.symm hij]
  | granted k' m' cs waiting hrest hin hqueue =>
    have hmem : (j, m) ∈ Function.update s.queue k' waiting k ↔
        (j, m) ∈ s.queue k ∧ ¬ (k = k' ∧ j = i ∧ m = m') := by
      by_cases hk : k = k'
      · subst hk
        have hnodup := hinv.nodup k
        rw [hqueue, nodup_cons] at hnodup
        simp only [Function.update_self, hqueue, mem_cons, Prod.mk.injEq, true_and]
        constructor
        · exact fun hmem => ⟨.inr hmem, by rintro ⟨rfl, rfl⟩; exact hnodup.1 hmem⟩
        · exact fun ⟨hmem, hne⟩ => hmem.resolve_left hne
      · simp [hk]
    refine hmem.trans ?_
    by_cases hij : i = j
    · subst hij
      simp only [if_true, iff_false_right (hidle (by simp [hrest])), hown]
      -- the task waits for one lock only, and its place was at the head
      rintro ⟨⟨_, cs', hcs⟩, hne⟩
      simp only [hrest, List.cons.injEq, Cmd.lock.injEq] at hcs
      exact hne ⟨hcs.1.1.symm, trivial, hcs.1.2.symm⟩
    · simp [hij, Ne.symm hij]

lemma Moved.nodup (hinv : Inv size s) (k : κ) : (s'.queue k).Nodup := by
  cases h with
  | command => exact hinv.nodup k
  | enqueued k' m' cs hrest hout =>
    by_cases hk : k = k'
    · subst hk
      dsimp only
      rw [update_self]
      refine (hinv.nodup k).append (by simp) ?_
      rintro x hx hmem
      rw [mem_singleton.mp hmem] at hx
      obtain ⟨u, hu, hq, _⟩ := (hinv.waits k i m').mp hx
      rw [ht] at hu
      cases hu
      rw [hout] at hq
      cases hq
    · dsimp only
      rw [update_of_ne hk]
      exact hinv.nodup k
  | granted k' m' cs waiting hrest hin hqueue =>
    by_cases hk : k = k'
    · subst hk
      have hnodup := hinv.nodup k
      rw [hqueue, nodup_cons] at hnodup
      dsimp only
      rw [update_self]
      exact hnodup.2
    · dsimp only
      rw [update_of_ne hk]
      exact hinv.nodup k

lemma Moved.inv (hinv : Inv size s) (hadmits : s.Admits size i) : Inv size s' := by
  obtain ⟨l1, l2, hl, hl'⟩ := h.tasks ht
  have hmem : ∀ u ∈ s'.tasks, u = t' ∨ u ∈ s.tasks := by
    intro u hu
    rw [hl'] at hu
    rw [hl]
    simp only [mem_append, mem_cons] at hu ⊢
    tauto
  have htmem : t ∈ s.tasks := mem_of_getElem? ht
  obtain ⟨hcompat, halone⟩ := h.compatible ht hinv.compatible hadmits
  refine ⟨?_, ?_, ?_, h.nodup ht hinv, hcompat, ?_⟩
  · intro u hu
    rcases hmem u hu with rfl | hu
    · have hold := hinv.balanced t htmem
      cases h with
      | command | granted => rw [t.after_moved]; exact hold
      | enqueued => exact hold
    · exact hinv.balanced u hu
  · intro u hu hq
    rcases hmem u hu with rfl | hu
    · cases h with
      | command c cs hrest | granted k m cs waiting hrest =>
        rw [t.moved_queued (by simp [hrest])] at hq
        cases hq
      | enqueued k m cs hrest => exact ⟨k, m, rfl, cs, hrest⟩
    · exact hinv.queued u hu hq
  · intro k j m
    rw [h.queue ht hinv k j m]
    have hget := h.get ht j
    by_cases hij : i = j
    · simp only [if_pos hij] at hget ⊢
      rw [hget]
      simp
    · simp only [if_neg hij] at hget ⊢
      rw [hinv.waits k j m, hget]
  · intro u hu hb
    rcases hmem u hu with rfl | hu
    · exact halone hb
    · exact hinv.alone u hu hb

end

/-! ## There is always a step -/

lemma Inv.rest_ne_nil (h : Inv size s) (ht : t ∈ s.tasks) (hb : t.busy = true) : t.rest ≠ [] := by
  intro hnil
  have hholds := h.balanced t ht
  rw [hnil] at hholds
  change t.holds = [] at hholds
  cases hq : t.queued with
  | true =>
    obtain ⟨_, _, _, cs, hcs⟩ := h.queued t ht hq
    rw [hnil] at hcs
    cases hcs
  | false => simp [Task.busy, hholds, hq] at hb

/-- A task that cannot go on waits for a connection or stands in a queue. -/
lemma blocked_cases (ht : s.tasks[i]? = some t) (hne : t.rest ≠ []) (h : s.step size i = none) :
    (∃ r cs, t.rest = .acquire r :: cs ∧ size r ≤ s.used r) ∨
      ∃ k m, t.Waits k m ∧ ¬ ((s.queue k).head? = some (i, m) ∧ s.free k m) := by
  unfold Sys.step at h
  rw [ht] at h
  dsimp only at h
  split at h
  · rename_i hnil
    exact absurd hnil hne
  · rename_i r cs hrest
    split at h
    · cases h
    · exact .inl ⟨r, cs, hrest, by omega⟩
  · cases h
  · cases h
  · rename_i k m cs hrest
    split at h
    · rename_i hin
      split at h
      · cases h
      · rename_i hhead
        exact .inr ⟨k, m, ⟨hin, cs, hrest⟩, hhead⟩
    · cases h

lemma Inv.used_lt (h : Inv size s)
    (hwait : ∀ t ∈ s.tasks, t.busy = true → ∃ c cs, t.rest = c :: cs ∧ c.waits = true) (r : ρ) :
    s.used r < size r := by
  refine lt_of_le_of_lt ?_ (h.compatible.pools r)
  have hle : ∀ ts : List (Task ρ κ), (∀ t ∈ ts, t ∈ s.tasks) →
      (ts.map fun t => t.holds.count (.conn r)).sum ≤
        ((ts.filter Task.busy).map fun t => peak r t.holds t.rest).sum := by
    intro ts hts
    induction ts with
    | nil => simp
    | cons t ts ih =>
      have hrest := ih fun u hu => hts u (List.mem_cons_of_mem _ hu)
      cases hb : t.busy with
      | true =>
        obtain ⟨c, cs, hcs, hc⟩ := hwait t (hts t List.mem_cons_self) hb
        have hpeak : t.holds.count (.conn r) ≤ peak r t.holds t.rest := by
          rw [hcs]
          simp only [peak, hc, if_true]
          exact Nat.le_max_left _ _
        rw [List.filter_cons_of_pos hb]
        simp only [List.map_cons, List.sum_cons]
        omega
      | false =>
        have hnil : t.holds = [] := by
          simp only [Task.busy, Bool.or_eq_false_iff, Bool.not_eq_false', List.isEmpty_iff] at hb
          exact hb.1
        rw [List.filter_cons_of_neg (by simp [hb])]
        simpa [hnil] using hrest
  exact hle s.tasks fun t ht => ht

lemma Inv.busy_step (h : Inv size s) (hbusy : ∃ t ∈ s.tasks, t.busy = true) :
    ∃ (i : Nat) (t : Task ρ κ) (s' : Sys ρ κ), s.tasks[i]? = some t ∧ t.busy = true ∧
      s.step size i = some s' := by
  by_contra hnone
  have hblocked : ∀ i t, s.tasks[i]? = some t → t.busy = true → s.step size i = none := by
    intro i t ht hb
    by_contra hstep
    obtain ⟨s', hs'⟩ := Option.ne_none_iff_exists'.mp hstep
    exact hnone ⟨i, t, s', ht, hb, hs'⟩
  -- nobody waits for a connection, since a pool that all wait for is not empty
  have hwaits : ∀ i t, s.tasks[i]? = some t → t.busy = true →
      ∃ k m, t.Waits k m ∧ ¬ ((s.queue k).head? = some (i, m) ∧ s.free k m) := by
    intro i t ht hb
    have hmem := mem_of_getElem? ht
    rcases blocked_cases ht (h.rest_ne_nil hmem hb)
      (hblocked i t ht hb) with ⟨r, cs, _, hfull⟩ | hlock
    · have hlt := h.used_lt (fun u hu hub => by
        obtain ⟨j, hj⟩ := mem_iff_getElem?.mp hu
        rcases blocked_cases hj (h.rest_ne_nil hu hub) (hblocked j u hj hub) with
          ⟨r', cs', hcs', _⟩ | ⟨k, m, ⟨_, cs', hcs'⟩, _⟩
        · exact ⟨_, cs', hcs', rfl⟩
        · exact ⟨_, cs', hcs', rfl⟩) r
      omega
    · exact hlock
  -- so the task at the head of a queue waits for one that waits too
  obtain ⟨t, ht, hb⟩ := hbusy
  obtain ⟨i, hi⟩ := mem_iff_getElem?.mp ht
  obtain ⟨k, m, hw, _⟩ := hwaits i t hi hb
  have hin : (i, m) ∈ s.queue k := (h.waits k i m).mpr ⟨t, hi, hw⟩
  obtain ⟨⟨j, mj⟩, waiting, hqueue⟩ := exists_cons_of_ne_nil (ne_nil_of_mem hin)
  obtain ⟨u, hu, hwu⟩ := (h.waits k j mj).mp (by rw [hqueue]; exact mem_cons_self)
  have hub : u.busy = true := by simp [Task.busy, hwu.1]
  obtain ⟨k', m', hw', hnot⟩ := hwaits j u hu hub
  have hsame : k' = k ∧ m' = mj := by
    obtain ⟨_, cs, hcs⟩ := hwu
    obtain ⟨_, cs', hcs'⟩ := hw'
    rw [hcs] at hcs'
    simp only [List.cons.injEq, Cmd.lock.injEq] at hcs'
    exact ⟨hcs'.1.1.symm, hcs'.1.2.symm⟩
  obtain ⟨rfl, rfl⟩ := hsame
  have hfree : ¬ s.free k' m' := fun hf => hnot ⟨by rw [hqueue]; rfl, hf⟩
  have hholder : ∀ v ∈ s.tasks, ∀ mv, Held.lock k' mv ∈ v.holds →
      v ∈ s.busy ∧ nests k' v.holds v.rest := by
    intro v hv mv hmv
    have hvb : v.busy = true := by
      have hne := ne_nil_of_mem hmv
      simp [Task.busy, hne]
    obtain ⟨l, hl⟩ := mem_iff_getElem?.mp hv
    obtain ⟨kv, mv', ⟨_, cs, hcs⟩, _⟩ := hwaits l v hl hvb
    refine ⟨mem_filter.mpr ⟨hv, hvb⟩, ?_⟩
    rw [hcs]
    exact .inl ⟨⟨kv, mv', rfl⟩, mv, hmv⟩
  have huBusy : u ∈ s.busy := mem_filter.mpr ⟨mem_of_getElem? hu, hub⟩
  cases m' with
  | shared =>
    simp only [Sys.free, not_forall, not_not] at hfree
    obtain ⟨v, hv, hmv⟩ := hfree
    obtain ⟨hvb, hn⟩ := hholder v hv _ hmv
    exact h.compatible.locks v hvb v hvb k' hn (.inl hmv)
  | exclusive =>
    simp only [Sys.free, not_forall] at hfree
    obtain ⟨v, hv, hmv⟩ := hfree
    have hsome : ∃ mv, Held.lock k' mv ∈ v.holds := by
      by_contra hno
      exact hmv ⟨fun hx => hno ⟨_, hx⟩, fun hx => hno ⟨_, hx⟩⟩
    obtain ⟨mv, hmv⟩ := hsome
    obtain ⟨hvb, hn⟩ := hholder v hv _ hmv
    obtain ⟨_, cs, hcs⟩ := hwu
    exact h.compatible.locks v hvb u huBusy k' hn (.inr (by rw [hcs]; exact mem_cons_self))

lemma Inv.progress (h : Inv size s) (hopen : ¬ s.returned) : ∃ s', s.nextAdmitted size s' := by
  by_cases hbusy : ∃ t ∈ s.tasks, t.busy = true
  · obtain ⟨i, t, s', ht, hb, hs'⟩ := h.busy_step hbusy
    refine ⟨s', i, ?_, hs'⟩
    intro u hu hidle
    rw [ht] at hu
    cases hu
    rw [hb] at hidle
    cases hidle
  · simp only [not_exists, not_and, Bool.not_eq_true] at hbusy
    simp only [Sys.returned, not_forall] at hopen
    obtain ⟨t, ht, hne⟩ := hopen
    obtain ⟨i, hi⟩ := mem_iff_getElem?.mp ht
    have hnone : s.busy = [] := filter_eq_nil_iff.mpr fun u hu => by simp [hbusy u hu]
    have halone := h.alone t ht (hbusy t ht)
    have hstep : ∃ s', s.step size i = some s' := by
      by_contra hstuck
      have hstep : s.step size i = none := by
        cases hs : s.step size i with
        | none => rfl
        | some s' => exact absurd ⟨s', hs⟩ hstuck
      rcases blocked_cases hi hne hstep with ⟨r, cs, _, hfull⟩ | ⟨k, m, ⟨hq, _⟩, _⟩
      · have hlt := h.used_lt (fun u hu hub => by
          rw [hbusy u hu] at hub
          cases hub) r
        omega
      · have hidle := hbusy t ht
        simp [Task.busy, hq] at hidle
    obtain ⟨s', hs'⟩ := hstep
    refine ⟨s', i, ?_, hs'⟩
    intro u hu _
    rw [hi] at hu
    cases hu
    rw [hnone]
    exact halone

lemma Inv.start {scripts : List (List (Cmd ρ κ))} (hbalanced : ∀ cs ∈ scripts, after cs [] = [])
    (halone : ∀ cs ∈ scripts, Compatible size [{ holds := [], queued := false, rest := cs }])
    (hsize : ∀ r, 0 < size r) : Inv size (Sys.start scripts) := by
  have hmem : ∀ t ∈ (Sys.start scripts).tasks,
      ∃ cs ∈ scripts, t = { holds := [], queued := false, rest := cs } := by
    intro t ht
    obtain ⟨cs, hcs, rfl⟩ := mem_map.mp ht
    exact ⟨cs, hcs, rfl⟩
  refine ⟨?_, ?_, ?_, fun _ => nodup_nil, ?_, ?_⟩
  · intro t ht
    obtain ⟨cs, hcs, rfl⟩ := hmem t ht
    exact hbalanced cs hcs
  · intro t ht hq
    obtain ⟨cs, hcs, rfl⟩ := hmem t ht
    cases hq
  · intro k i m
    refine ⟨fun h => (by cases h), ?_⟩
    rintro ⟨t, ht, hq, _⟩
    obtain ⟨cs, _, rfl⟩ := hmem t (mem_of_getElem? ht)
    cases hq
  · have hnone : (Sys.start scripts).busy = [] := by
      refine filter_eq_nil_iff.mpr fun t ht => ?_
      obtain ⟨cs, _, rfl⟩ := hmem t ht
      simp [Task.busy]
    rw [hnone]
    exact ⟨fun r => by simpa using hsize r, fun t ht => (by cases ht)⟩
  · intro t ht _
    obtain ⟨cs, hcs, rfl⟩ := hmem t ht
    exact halone cs hcs

/-- When tasks start only with those that they can be under way with, every one of them
gets through. -/
lemma inevitable_returned (h : Inv size s) : Inevitable (Sys.nextAdmitted size) Sys.returned s := by
  refine Inevitable.of_measure (P := Inv size) Sys.work ?_ (fun s hs hopen => hs.progress hopen) h
  rintro s s' hs ⟨i, hadmits, hstep⟩
  obtain ⟨t, t', ht, hmoved⟩ := Sys.step_cases hstep
  exact ⟨hmoved.inv ht hs hadmits, hmoved.work ht⟩

/-! ## Scripts -/

lemma after_append (cs ds : List (Cmd ρ κ)) (hs : List (Held ρ κ)) :
    after (cs ++ ds) hs = after ds (after cs hs) := foldl_append

def Neutral (cs : List (Cmd ρ κ)) : Prop := ∀ hs, after cs hs = hs

lemma Neutral.nil : Neutral ([] : List (Cmd ρ κ)) := fun _ => rfl

lemma Neutral.append {ds : List (Cmd ρ κ)} (hc : Neutral cs) (hd : Neutral ds) :
    Neutral (cs ++ ds) := by
  intro hs
  rw [after_append, hc, hd]

lemma Neutral.flatMap {α : Type} {f : α → List (Cmd ρ κ)} {xs : List α}
    (h : ∀ x ∈ xs, Neutral (f x)) : Neutral (xs.flatMap f) := by
  induction xs with
  | nil => exact Neutral.nil
  | cons x xs ih =>
    rw [flatMap_cons]
    exact (h x mem_cons_self).append (ih fun y hy => h y (mem_cons_of_mem _ hy))

def visit (r : ρ) : List (Cmd ρ κ) := [.acquire r, .release r]

/-- A connection that has the lock while `cs` runs. -/
def bracket (r : ρ) (k : κ) (m : Mode) (cs : List (Cmd ρ κ)) : List (Cmd ρ κ) :=
  .acquire r :: .lock k m :: (cs ++ [.unlock k m, .release r])

lemma Neutral.visit (r : ρ) : Neutral (sched.visit r : List (Cmd ρ κ)) := by
  intro hs
  simp [sched.visit, after, Cmd.after]

lemma Neutral.bracket (h : Neutral cs) (r : ρ) (k : κ) (m : Mode) :
    Neutral (sched.bracket r k m cs) := by
  intro hs
  change after (cs ++ [.unlock k m, .release r]) (.lock k m :: .conn r :: hs) = hs
  rw [after_append, h]
  simp [after, Cmd.after]

/-- Between waits the script has at most `d` connections of the pool more than at its start. -/
def PeakLe (r : ρ) (d : Nat) (cs : List (Cmd ρ κ)) : Prop :=
  ∀ hs, peak r hs cs ≤ hs.count (.conn r) + d

lemma peak_append (r : ρ) (cs ds : List (Cmd ρ κ)) (hs : List (Held ρ κ)) :
    peak r hs (cs ++ ds) = max (peak r hs cs) (peak r (after cs hs) ds) := by
  induction cs generalizing hs with
  | nil => simp [peak, after]
  | cons c cs ih =>
    simp only [cons_append, peak, ih, max_assoc]
    rfl

lemma PeakLe.nil (r : ρ) (d : Nat) : PeakLe r d ([] : List (Cmd ρ κ)) := fun _ => Nat.zero_le _

lemma PeakLe.mono {d' : Nat} (h : PeakLe r d cs) (hd : d ≤ d') :
    PeakLe r d' cs := fun hs => (h hs).trans (by omega)

lemma PeakLe.append {ds : List (Cmd ρ κ)} (hc : PeakLe r d cs) (hn : Neutral cs)
    (hd : PeakLe r d ds) : PeakLe r d (cs ++ ds) := by
  intro hs
  rw [peak_append, hn]
  exact max_le (hc hs) (hd hs)

lemma PeakLe.flatMap {α : Type} {f : α → List (Cmd ρ κ)} {xs : List α}
    (h : ∀ x ∈ xs, PeakLe r d (f x) ∧ Neutral (f x)) : PeakLe r d (xs.flatMap f) := by
  induction xs with
  | nil => exact PeakLe.nil r d
  | cons x xs ih =>
    rw [flatMap_cons]
    obtain ⟨hx, hn⟩ := h x mem_cons_self
    exact hx.append hn (ih fun y hy => h y (mem_cons_of_mem _ hy))

lemma PeakLe.visit (r r' : ρ) : PeakLe r 0 (sched.visit r' : List (Cmd ρ κ)) := by
  intro hs
  simp [sched.visit, peak, Cmd.waits]

lemma PeakLe.bracket {r' : ρ} (h : PeakLe r d cs) (k : κ) (m : Mode) :
    PeakLe r (d + if r' = r then 1 else 0) (sched.bracket r' k m cs) := by
  intro hs
  have hin := h (.lock k m :: .conn r' :: hs)
  have hcount : (Held.lock k m :: Held.conn r' :: hs).count (Held.conn r) =
      hs.count (.conn r) + if r' = r then 1 else 0 := by
    simp [count_cons]
  have hlock : (Held.conn r' :: hs : List (Held ρ κ)).count (Held.conn r) =
      hs.count (.conn r) + if r' = r then 1 else 0 := by
    simp [count_cons]
  rw [hcount] at hin
  simp only [sched.bracket, peak, peak_append, Cmd.waits, Cmd.after, if_true, hlock,
    Bool.false_eq_true, if_false]
  omega

def Lockless (cs : List (Cmd ρ κ)) : Prop := ∀ k m, .lock k m ∉ cs

lemma Lockless.nests (h : Lockless cs) (k : κ) (hs : List (Held ρ κ)) : ¬ nests k hs cs := by
  induction cs generalizing hs with
  | nil => exact id
  | cons c cs ih =>
    rintro (⟨⟨k', m', rfl⟩, _⟩ | hrest)
    · exact h k' m' mem_cons_self
    · exact ih (fun k m hm => h k m (mem_cons_of_mem _ hm)) _ hrest

lemma nests_append (k : κ) (cs ds : List (Cmd ρ κ)) (hs : List (Held ρ κ)) :
    nests k hs (cs ++ ds) ↔ nests k hs cs ∨ nests k (after cs hs) ds := by
  induction cs generalizing hs with
  | nil => simp [nests, after]
  | cons c cs ih =>
    simp only [cons_append, nests, ih, or_assoc]
    rfl

lemma nests_bracket (h : Lockless cs) (r : ρ) (k k' : κ) (m : Mode) :
    ¬ nests k [] (bracket r k' m cs) := by
  have htail : Lockless (cs ++ [Cmd.unlock k' m, Cmd.release r]) := by
    intro k1 m1 hmem
    simp only [mem_append, mem_cons, reduceCtorEq, not_mem_nil, or_false] at hmem
    exact h k1 m1 hmem
  rintro (⟨_, m', hm⟩ | ⟨_, m', hm⟩ | hrest)
  · cases hm
  · simp [Cmd.after] at hm
  · exact htail.nests k _ hrest

end sandbox0.sched
