-- The replica count of a template's pool (`manager/pkg/controller/autoscaler.go` and
-- `ReconcilePool` of `pool_manager.go`). Cold claims raise it, the scale down lowers
-- it, and the pool manager sets it, each from a count it has read before.
import Sandbox0.GoCall

namespace sandbox0.autoscaler

/-! ## Decisions -/

/-- The `spec.pool` of a template. -/
structure Pool where
  minIdle : Int
  maxIdle : Int

/-- `AutoScaleConfig`. The products with its ratios are rounded to `int32`. -/
structure Config where
  /-- `int32(float64(n) * ScaleUpFactor)` -/
  scaled : Int → Int
  maxScaleStep : Int
  minIdleBuffer : Int
  /-- `int32(float64(activeCount) * TargetIdleRatio)` -/
  targetIdle : Int → Int
  noTrafficScaleDownAfter : Int
  /-- `int32(float64(n) * ScaleDownPercent)` -/
  reduction : Int → Int

/-- The value of an `int32`. -/
def int32 (n : Int) : Int := (n + 2 ^ 31) % 2 ^ 32 - 2 ^ 31

def Pool.clamp (pool : Pool) (desired : Int) : Int :=
  let maxIdle := if pool.maxIdle < pool.minIdle then pool.minIdle else pool.maxIdle
  let desired := if desired < pool.minIdle then pool.minIdle else desired
  if desired > maxIdle then maxIdle else desired

def calculateDesiredReplicas (cfg : Config) (pool : Pool)
    (currentReplicas activeCount : Int) : Int :=
  let desired := if currentReplicas < pool.minIdle then pool.minIdle else currentReplicas
  let minRecommended := int32 (pool.minIdle + cfg.minIdleBuffer)
  let minRecommended :=
    if cfg.targetIdle activeCount > minRecommended then cfg.targetIdle activeCount
    else minRecommended
  let scaledDesired := cfg.scaled desired
  let desired :=
    if scaledDesired > desired then
      let delta := int32 (scaledDesired - desired)
      int32 (desired + if delta > cfg.maxScaleStep then cfg.maxScaleStep else delta)
    else desired
  pool.clamp (if desired < minRecommended then minRecommended else desired)

/-- `getLastClaimTime` over the claim times of the active pods, from the zero time on. -/
def getLastClaimTime (claims : List Int) : Int :=
  claims.foldl (fun lastClaim claimedAt => if claimedAt > lastClaim then claimedAt else lastClaim) 0

/-- The count that `ReconcileScaleDown` decides on. -/
def scaleDown (cfg : Config) (pool : Pool) (now : Int) (claims : List Int)
    (currentReplicas : Int) : Option Int :=
  let lastClaimTime := getLastClaimTime claims
  if lastClaimTime = 0 ∨ now - lastClaimTime < cfg.noTrafficScaleDownAfter ∨
    currentReplicas ≤ pool.minIdle then
    none
  else
    let delta := if cfg.reduction currentReplicas < 1 then 1 else cfg.reduction currentReplicas
    let newReplicas := if currentReplicas - delta < pool.minIdle then pool.minIdle
      else currentReplicas - delta
    if newReplicas = currentReplicas then none else some newReplicas

/-! ## Replicas of the manager at work -/

/-- A call before its update, with what it has read. -/
inductive Call where
  | scalesUp (currentReplicas newReplicas : Int)
  | scalesDown (now currentReplicas newReplicas : Int) (claims : List Int)
  | reconcilesPool (version : Nat)

/-- The ReplicaSet, the claim times of the active pods, and the calls. -/
structure World where
  replicas : Int
  version : Nat := 0
  claims : List Int := []
  calls : Nat → Option Call := fun _ => none

inductive Event where
  | claimed (claimedAt : Int)
  | released (claimedAt : Int)
  /-- A write of the ReplicaSet's other fields. -/
  | touched
  /-- `OnColdClaim` up to its update, with what its listers show. -/
  | onColdClaim (n : Nat) (currentReplicas activeCount : Int)
  | reconcileScaleDown (n : Nat) (now currentReplicas : Int) (claims : List Int)
  /-- An attempt of `executeScaleUp`, at the version that its lister shows. -/
  | executeScaleUp (n : Nat) (version : Nat)
  /-- `ReconcilePool` with the ReplicaSet at a version. -/
  | reconcilePool (n : Nat) (replicas : Int) (version : Nat)
  | updatePool (n : Nat)
  | giveUp (n : Nat)

namespace World

def set (w : World) (n : Nat) (call : Option Call) : World :=
  { w with calls := Function.update w.calls n call }

/-- A successful update of the count ends its call. -/
def scale (w : World) (n : Nat) (newReplicas : Int) : World :=
  { w.set n none with replicas := newReplicas, version := w.version + 1 }

def next (cfg : Config) (pool : Pool) (w : World) : Event → World
  | .claimed claimedAt => { w with claims := claimedAt :: w.claims }
  | .released claimedAt => { w with claims := w.claims.erase claimedAt }
  | .touched => { w with version := w.version + 1 }
  | .onColdClaim n currentReplicas activeCount =>
    let desiredReplicas := calculateDesiredReplicas cfg pool currentReplicas activeCount
    if desiredReplicas ≤ currentReplicas then w
    else w.set n (some (.scalesUp currentReplicas desiredReplicas))
  | .reconcileScaleDown n now currentReplicas claims =>
    match scaleDown cfg pool now claims currentReplicas with
    | some newReplicas => w.set n (some (.scalesDown now currentReplicas newReplicas claims))
    | none => w
  | .executeScaleUp n version =>
    if version = w.version then
      match w.calls n with
      | some (.scalesUp _ newReplicas) | some (.scalesDown _ _ newReplicas _) =>
        w.scale n newReplicas
      | _ => w
    else w
  | .reconcilePool n replicas version =>
    if replicas = pool.minIdle then w else w.set n (some (.reconcilesPool version))
  | .updatePool n =>
    match w.calls n with
    | some (.reconcilesPool version) =>
      if version = w.version then w.scale n pool.minIdle else w.set n none
    | _ => w
  | .giveUp n => w.set n none

/-- An update of the autoscaler that is not refused finds the count that it was computed from,
and a scale down has seen every claim; the pool manager writes a count that is not above
`MinIdle`. -/
def Careful (pool : Pool) (w : World) : Event → Prop
  | .executeScaleUp n version => version = w.version →
    match w.calls n with
    | some (.scalesUp currentReplicas _) => currentReplicas = w.replicas
    | some (.scalesDown _ currentReplicas _ claims) =>
      currentReplicas = w.replicas ∧ w.claims ⊆ claims
    | _ => True
  | .updatePool n =>
    match w.calls n with
    | some (.reconcilesPool version) => version = w.version → w.replicas ≤ pool.minIdle
    | _ => True
  | _ => True

instance (pool : Pool) (w : World) (e : Event) : Decidable (w.Careful pool e) := by
  unfold Careful
  split
  · refine @instDecidableForall _ _ _ ?_
    split <;> infer_instance
  · split <;> infer_instance
  · infer_instance

def Within (pool : Pool) (w : World) : Prop := pool.minIdle ≤ w.replicas ∧ w.replicas ≤ pool.maxIdle

/-- The event is the update of a scale down that comes long enough after every claim. -/
def Idles (cfg : Config) (w : World) : Event → Prop
  | .executeScaleUp n _ => ∃ now currentReplicas newReplicas claims,
      w.calls n = some (.scalesDown now currentReplicas newReplicas claims) ∧
        ∀ claimedAt ∈ w.claims, cfg.noTrafficScaleDownAfter ≤ now - claimedAt
  | _ => False

def Reached (cfg : Config) (pool : Pool) : World → Prop :=
  Reach (fun w => w.calls = fun _ => none) (fun w e w' => w' = w.next cfg pool e) (Careful pool)

end World

/-! ## What the calls have decided -/

variable {cfg : Config} {pool : Pool} {w : World}

lemma clamp_within (hpool : pool.minIdle ≤ pool.maxIdle) (desired : Int) :
    pool.minIdle ≤ pool.clamp desired ∧ pool.clamp desired ≤ pool.maxIdle := by
  unfold Pool.clamp
  dsimp only
  rw [if_neg (not_lt.mpr hpool)]
  constructor <;> split <;> (try split) <;> omega

lemma le_foldl_max (claims : List Int) (lastClaim : Int) :
    lastClaim ≤ claims.foldl
      (fun last claimedAt => if claimedAt > last then claimedAt else last) lastClaim ∧
      ∀ claimedAt ∈ claims, claimedAt ≤
        claims.foldl (fun last claimedAt => if claimedAt > last then claimedAt else last)
          lastClaim := by
  induction claims generalizing lastClaim with
  | nil => exact ⟨le_refl _, nofun⟩
  | cons t claims ih =>
    obtain ⟨hlast, hrest⟩ := ih (if t > lastClaim then t else lastClaim)
    have hstep : lastClaim ≤ (if t > lastClaim then t else lastClaim) ∧ t ≤ if t > lastClaim then t
      else lastClaim := by
      split <;> omega
    refine ⟨hstep.1.trans hlast, ?_⟩
    rintro claimedAt (_ | ⟨_, hmem⟩)
    · exact hstep.2.trans hlast
    · exact hrest claimedAt hmem

def Call.Decided (cfg : Config) (pool : Pool) : Call → Prop
  | .scalesUp currentReplicas newReplicas => currentReplicas < newReplicas ∧
      pool.minIdle ≤ newReplicas ∧ newReplicas ≤ pool.maxIdle
  | .scalesDown now currentReplicas newReplicas claims =>
    pool.minIdle ≤ newReplicas ∧ newReplicas < currentReplicas ∧
      ∀ claimedAt ∈ claims, cfg.noTrafficScaleDownAfter ≤ now - claimedAt
  | .reconcilesPool _ => True

lemma scaleDown_decided {now currentReplicas newReplicas : Int} {claims : List Int}
    (h : scaleDown cfg pool now claims currentReplicas = some newReplicas) :
    (Call.scalesDown now currentReplicas newReplicas claims).Decided cfg pool := by
  simp only [scaleDown, Option.ite_none_left_eq_some, Option.some.injEq] at h
  obtain ⟨hgo, -, rfl⟩ := h
  refine ⟨by split <;> omega, by split <;> split <;> omega, fun claimedAt hmem => ?_⟩
  have hle : claimedAt ≤ getLastClaimTime claims := (le_foldl_max claims 0).2 claimedAt hmem
  omega

def World.Inv (cfg : Config) (pool : Pool) (w : World) : Prop :=
  ∀ n, ∀ call ∈ w.calls n, call.Decided cfg pool

lemma World.Inv.set {n : Nat} {call : Option Call} (h : w.Inv cfg pool)
    (hcall : ∀ c ∈ call, c.Decided cfg pool) : (w.set n call).Inv cfg pool := by
  intro m c hc
  simp only [World.set, Function.update_apply] at hc
  split at hc
  · exact hcall c hc
  · exact h m c hc

lemma World.Inv.next (hpool : pool.minIdle ≤ pool.maxIdle) (h : w.Inv cfg pool) (e : Event) :
    (w.next cfg pool e).Inv cfg pool := by
  cases e with rw [World.next]
  | onColdClaim n currentReplicas activeCount =>
    split
    · exact h
    rename_i hmore
    refine h.set ?_
    rintro _ ⟨rfl⟩
    exact ⟨not_le.mp hmore, clamp_within hpool _⟩
  | reconcileScaleDown n now currentReplicas claims =>
    split
    · rename_i hdown
      refine h.set ?_
      rintro _ ⟨rfl⟩
      exact scaleDown_decided hdown
    · exact h
  | executeScaleUp n version =>
    split
    · split <;> first | exact h | exact h.set nofun
    · exact h
  | reconcilePool n replicas version =>
    split
    · exact h
    · refine h.set ?_
      rintro _ ⟨rfl⟩
      trivial
  | updatePool n =>
    split
    · split <;> exact h.set nofun
    · exact h
  | giveUp n => exact h.set nofun
  | _ => exact h

/-! ## Bounds and decreases -/

lemma replicas_next (hpool : pool.minIdle ≤ pool.maxIdle) (h : w.Inv cfg pool) {e : Event}
    (he : w.Careful pool e) : (w.Within pool → (w.next cfg pool e).Within pool) ∧
      ((w.next cfg pool e).replicas < w.replicas → w.Idles cfg e) := by
  have hsame : ∀ w' : World, w'.replicas = w.replicas → (w.Within pool → w'.Within pool) ∧
      (w'.replicas < w.replicas → w.Idles cfg e) := by
    intro w' heq
    unfold World.Within
    rw [heq]
    exact ⟨id, fun hlt => absurd hlt (lt_irrefl _)⟩
  cases e with rw [World.next]
  | executeScaleUp n version =>
    split
    · rename_i hversion
      replace he := he hversion
      split
      · rename_i hcall
        rw [hcall] at he
        obtain ⟨hmore, hwithin⟩ := h n _ hcall
        refine ⟨fun _ => hwithin, fun hlt => ?_⟩
        dsimp only [World.scale] at he hlt
        omega
      · rename_i hcall
        rw [hcall] at he
        obtain ⟨hmin, hless, hidle⟩ := h n _ hcall
        refine ⟨fun hw => ⟨hmin, ?_⟩, fun _ => ⟨_, _, _, _, hcall, fun t ht => hidle t (he.2 ht)⟩⟩
        have hmax := hw.2
        dsimp only [World.scale] at he ⊢
        omega
      · exact hsame w rfl
    · exact hsame w rfl
  | updatePool n =>
    split
    · rename_i hcall
      rw [World.Careful, hcall] at he
      split
      · rename_i hversion
        refine ⟨fun _ => ⟨le_refl _, hpool⟩, fun hlt => ?_⟩
        exact absurd (he hversion) (not_le.mpr hlt)
      · exact hsame _ rfl
    · exact hsame w rfl
  | onColdClaim | reconcileScaleDown | reconcilePool =>
    split <;> exact hsame _ rfl
  | _ => exact hsame _ rfl

/-- In every run whose updates of the count are careful: a count inside the bounds of
the pool stays there, and it decreases only by the update of a scale down that comes
long enough after the latest claim of an active pod. -/
theorem autoscaling_is_not_undone (cfg : Config) (pool : Pool)
    (hpool : 0 ≤ pool.minIdle ∧ pool.minIdle ≤ pool.maxIdle) (w : World)
    (hw : World.Reached cfg pool w) :
    (w.Within pool → ∀ events, Admits (World.next cfg pool) (World.Careful pool) w events →
      (events.foldl (World.next cfg pool) w).Within pool) ∧
      ∀ e, w.Careful pool e → (w.next cfg pool e).replicas < w.replicas → w.Idles cfg e := by
  have hinv : w.Inv cfg pool :=
    Reach.keeps (P := World.Inv cfg pool) (fun w hw n => by rw [hw]; nofun)
    (fun w e hw _ => hw.next hpool.2 e) hw
  refine ⟨fun hwithin events hevents => ?_, fun e he => (replicas_next hpool.2 hinv he).2⟩
  clear hw
  induction events generalizing w with
  | nil => exact hwithin
  | cons e events ih =>
    exact ih _ (hinv.next hpool.2 e) ((replicas_next hpool.2 hinv hevents.1).1 hwithin) hevents.2

def sampleConfig : Config := ⟨(2 * ·), 10, 0, id, 600, (· / 2)⟩

def sampleRun : World :=
  [Event.claimed 100, .onColdClaim 0 2 1, .executeScaleUp 0 0].foldl
    (World.next sampleConfig ⟨1, 5⟩) ⟨2, 0, [], fun _ => none⟩

/-- A cold claim doubles the count. A later one decides on the same count, its first update is
refused, and it gives up; then a scale down halves the count. -/
theorem doubled_pool_stays_within :
    let events := [Event.onColdClaim 1 4 1, .executeScaleUp 1 0, .giveUp 1,
      .reconcileScaleDown 2 800 4 [100], .executeScaleUp 2 1]
    let w := events.foldl (World.next sampleConfig ⟨1, 5⟩) sampleRun
    w.Within ⟨1, 5⟩ ∧ sampleRun.replicas = 4 ∧ w.replicas = 2 := by
  have hstart : World.Reached sampleConfig ⟨1, 5⟩ ⟨2, 0, [], fun _ => none⟩ := .start rfl
  have hrun : World.Reached sampleConfig ⟨1, 5⟩ sampleRun := Reach.run hstart _ (by decide)
  exact ⟨(autoscaling_is_not_undone _ ⟨1, 5⟩ (by decide) _ hrun).1 ⟨by decide, by decide⟩
    _ (by decide), by decide, by decide⟩

/-- The pool manager sets the count back to `MinIdle`, 500 before a scale down could. -/
theorem pool_manager_undoes_the_autoscaler :
    sampleRun.replicas = 4 ∧
      ([Event.reconcilePool 1 4 1, .updatePool 1].foldl
        (World.next sampleConfig ⟨1, 5⟩) sampleRun).replicas = 1 := by
  decide

end sandbox0.autoscaler
