-- Go calls that let other calls run in between. A call is cut into parts, and
-- each part holds its locks from its start to its end. A call that runs alone
-- takes its parts one after the other.
import Sandbox0.GoCall
import Sandbox0.GoMap

namespace sandbox0

/-- A Go call on the state `σ`, cut into its parts. -/
inductive Proc (ε σ α : Type) where
  | ends (o : Outcome ε α)
  /-- A part: the state that it leaves and the rest of the call, both from the
  state that it finds. -/
  | part (put : σ → σ) (rest : σ → Proc ε σ α)

namespace Proc

variable {ε σ τ α β : Type}

def bind : Proc ε σ α → (α → Proc ε σ β) → Proc ε σ β
  | .ends (.ok a), f => f a
  | .ends (.err e), _ => .ends (.err e)
  | .ends .panic, _ => .ends .panic
  | .part put rest, f => .part put fun s => (rest s).bind f

instance : Monad (Proc ε σ) where
  pure a := .ends (.ok a)
  bind := bind

def once (x : Call ε σ α) : Proc ε σ α := .part (fun s => (x s).2) fun s => .ends (x s).1

def fail (e : ε) : Proc ε σ α := .ends (.err e)

def failIf (c : Prop) [Decidable c] (e : ε) : Proc ε σ Unit := if c then fail e else pure ()

def onlyIf (c : Prop) [Decidable c] (x : Proc ε σ Unit) : Proc ε σ Unit := if c then x else pure ()

def panics : Proc ε σ α := .ends .panic

def on (get : τ → σ) (put : τ → σ → τ) : Proc ε σ α → Proc ε τ α
  | .ends o => .ends o
  | .part put' rest => .part (fun t => put t (put' (get t))) fun t => (rest (get t)).on get put

/-! ## A call that runs alone -/

def run : Proc ε σ α → Call ε σ α
  | .ends o => fun s => (o, s)
  | .part put rest => fun s => (rest s).run (put s)

@[simp] lemma run_bind (x : Proc ε σ α) (f : α → Proc ε σ β) :
    (x >>= f).run = x.run >>= fun a => (f a).run := by
  funext s
  induction x generalizing s with
  | ends o => cases o <;> rfl
  | part put rest ih => exact ih s (put s)

@[simp] lemma run_failIf (c : Prop) [Decidable c] (e : ε) :
    (failIf c e : Proc ε σ Unit).run = Call.failIf c e := by
  unfold failIf Call.failIf
  split <;> rfl

@[simp] lemma run_onlyIf (c : Prop) [Decidable c] (x : Proc ε σ Unit) :
    (onlyIf c x).run = Call.onlyIf c x.run := by
  unfold onlyIf Call.onlyIf
  split <;> rfl

/-- A call on a part of the state, when what is put is what is got. -/
lemma run_on (get : τ → σ) (put : τ → σ → τ) (hget : ∀ t s, get (put t s) = s)
    (hput : ∀ t s s', put (put t s) s' = put t s') (hself : ∀ t, put t (get t) = t)
    (x : Proc ε σ α) : (x.on get put).run = Call.on get put x.run := by
  funext t
  induction x generalizing t with
  | ends o => exact Prod.ext rfl (hself t).symm
  | part put' rest ih =>
    simp only [on, run, ih, Call.on_run, hget, hput]
    rfl

end Proc

end sandbox0
