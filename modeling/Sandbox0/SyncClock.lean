-- The clock that follows the database (`pkg/clock`). Times are nanoseconds of the local
-- monotonic clock, and the database runs at its rate, some time `ahead` of it.
import Mathlib

namespace sandbox0.clock

structure Clock where
  offset : Int
  lastSync : Int
  lastRTT : Int
  localStart : Int
  pgTimeAtSync : Int
  syncCount : Nat

/-- A sync that succeeds: when its query starts, when the database reads its clock, when
the answer is there, and the two readings that the clock stores. -/
structure Sync where
  start : Int
  read : Int
  received : Int
  lastSync : Int
  localStart : Int
  asked : start ≤ read
  answered : read ≤ received
  stored : received ≤ lastSync
  set : lastSync ≤ localStart

def Clock.sync (ahead : Int) (c : Clock) (s : Sync) : Clock :=
  let pgTime := s.read + ahead
  let rtt := s.received - s.start
  { offset := pgTime - (s.start + rtt.tdiv 2)
    lastSync := s.lastSync
    lastRTT := rtt
    localStart := s.localStart
    pgTimeAtSync := pgTime
    syncCount := c.syncCount + 1 }

/-- `New`, whose first sync has to succeed. -/
def new (ahead : Int) (first : Sync) : Clock := Clock.sync ahead ⟨0, 0, 0, 0, 0, 0⟩ first

def Clock.now (c : Clock) (t : Int) : Int := c.pgTimeAtSync + (t - c.localStart)

inductive Event where
  | sync (s : Sync)
  | failedSync
  | now (t : Int)

/-- What a call of `Now` returns, when, and the round trip of the last sync. -/
structure Reading where
  time : Int
  value : Int
  rtt : Int

def Clock.run (ahead : Int) (c : Clock) : List Event → List Reading
  | [] => []
  | .sync s :: events => (c.sync ahead s).run ahead events
  | .failedSync :: events => c.run ahead events
  | .now t :: events => ⟨t, c.now t, c.lastRTT⟩ :: c.run ahead events

/-- No value is below the one before it, and each is off by half a round trip at most. -/
def MonotoneAndClose (ahead : Int) (readings : List Reading) : Prop :=
  readings.IsChain (fun r r' => r.value ≤ r'.value) ∧
    ∀ r ∈ readings, 2 * |r.value - (r.time + ahead)| ≤ r.rtt

/-! ## How far the clock is behind -/

/-- The time from the reading of the database to the reference of `Now`. -/
def Sync.lag (s : Sync) : Int := s.localStart - s.read

/-- The calls of `Now`, each with the last sync before it. -/
def calls (s : Sync) : List Event → List (Int × Sync)
  | [] => []
  | .sync s' :: events => calls s' events
  | .failedSync :: events => calls s events
  | .now t :: events => (t, s) :: calls s events

lemma run_eq (ahead : Int) (c : Clock) (s : Sync) (events : List Event) :
    (c.sync ahead s).run ahead events =
      (calls s events).map fun p => ⟨p.1, p.1 + ahead - p.2.lag, p.2.received - p.2.start⟩ := by
  induction events generalizing c s with
  | nil => rfl
  | cons event events ih =>
    cases event with
    | sync s' => exact ih (c.sync ahead s) s'
    | failedSync => exact ih c s
    | now t =>
      have hvalue : (c.sync ahead s).now t = t + ahead - s.lag := by
        simp only [Clock.now, Clock.sync, Sync.lag]
        omega
      simp only [Clock.run, calls, List.map_cons, hvalue, ih]
      rfl

lemma Sync.lag_nonneg (s : Sync) : 0 ≤ s.lag := by
  have := s.answered
  have := s.stored
  have := s.set
  unfold lag
  omega

/-- The clock is monotone and close exactly when between two calls the lag grows by no more
than the time that passes, and no lag is over half of its round trip. -/
theorem clock_is_monotone_and_close_iff (ahead : Int) (first : Sync) (events : List Event) :
    MonotoneAndClose ahead ((new ahead first).run ahead events) ↔
      (calls first events).IsChain (fun p p' => p'.2.lag - p.2.lag ≤ p'.1 - p.1) ∧
        ∀ p ∈ calls first events, 2 * p.2.lag ≤ p.2.received - p.2.start := by
  rw [new, run_eq, MonotoneAndClose, List.isChain_map, List.forall_mem_map]
  apply and_congr
  · refine List.IsChain.iff fun p p' => ?_
    dsimp only
    omega
  · refine forall₂_congr fun p _ => ?_
    have hoff : p.1 + ahead - p.2.lag - (p.1 + ahead) = -p.2.lag := by omega
    rw [hoff, abs_neg, abs_of_nonneg p.2.lag_nonneg]

/-- The database reads its clock at the start of a round trip of ten, so that `Now` is ten
behind: the calls at 19 and at 21 return 19 and 11. -/
theorem clock_goes_back : ¬ MonotoneAndClose 0
    ((new 0 ⟨0, 0, 0, 0, 0, by decide, by decide, by decide, by decide⟩).run 0
      [.now 19, .sync ⟨10, 10, 20, 20, 20, by decide, by decide, by decide, by decide⟩,
        .now 21]) := by
  rintro ⟨hmonotone, -⟩
  revert hmonotone
  decide

end sandbox0.clock
