-- The metering of `netd/pkg/metering`: bytes are counted per sandbox, and a loop
-- flushes the counts as windows into the database. A window whose id is stored
-- already is ignored there, so a flush must not make the same id twice.
import Sandbox0.NetdPolicy

namespace sandbox0.netd.metering

open sandbox0.netd.policy GoMap List

/-! ## The aggregator -/

/-- A `time.Time`, in nanoseconds of Unix time. -/
abbrev Time := Int

/-- The zero `time.Time`, the first of January of the year one. -/
def zeroTime : Time := -62135596800 * 10 ^ 9

/-- The value of an `int64`. -/
def int64 (n : Int) : Int := (n + 2 ^ 63) % 2 ^ 64 - 2 ^ 63

inductive Direction where
  | egress
  | ingress
  deriving DecidableEq

def Direction.windowType : Direction → GoString
  | .egress => lit "sandbox.egress_bytes"
  | .ingress => lit "sandbox.ingress_bytes"

structure UsageTotals where
  sandboxID : GoString
  teamID : GoString
  egress : Int := 0
  ingress : Int := 0

def UsageTotals.amount (u : UsageTotals) : Direction → Int
  | .egress => u.egress
  | .ingress => u.ingress

def UsageTotals.setAmount (u : UsageTotals) (d : Direction) (n : Int) : UsageTotals :=
  match d with
  | .egress => { u with egress := n }
  | .ingress => { u with ingress := n }

structure Aggregator where
  producer : GoString
  windowStart : Time
  usage : GoMap GoString UsageTotals := ∅

def producerName (nodeName : GoString) : GoString :=
  if nodeName = [] then lit "netd.byte_windows" else lit "netd.byte_windows/" ++ nodeName

/-- `NewAggregator`, at the clock reading `now`. -/
def newAggregator (nodeName : GoString) (now : Time) : Aggregator :=
  { producer := producerName nodeName, windowStart := now }

/-- `(*Aggregator).record`. -/
def Aggregator.record (a : Aggregator) (compiled : Option CompiledPolicy) (bytes : Int)
    (d : Direction) : Aggregator :=
  match compiled with
  | none => a
  | some compiled =>
    if compiled.sandboxID = [] ∨ bytes ≤ 0 then a
    else
      let entry := (a.usage[compiled.sandboxID]?).getD
        { sandboxID := compiled.sandboxID, teamID := compiled.teamID }
      { a with
        usage := a.usage.insert compiled.sandboxID
          (entry.setAmount d (int64 (entry.amount d + bytes))) }

/-! ## Windows -/

/-- A row of `metering.usage_windows`. -/
structure Window where
  windowID : GoString
  producer : GoString
  windowType : GoString
  subjectType : GoString
  subjectID : GoString
  teamID : GoString
  sandboxID : GoString
  windowStart : Time
  windowEnd : Time
  value : Int
  unit : GoString

/-- `%d` of an integer. -/
def decimalInt (n : Int) : GoString :=
  if n < 0 then 45 :: decimal n.natAbs else decimal n.natAbs

def windowID (producer sandboxID windowType : GoString) (start stop : Time) : GoString :=
  producer ++
    47 :: (sandboxID ++ 47 :: (windowType ++ 47 :: (decimalInt start ++ 47 :: decimalInt stop)))

def buildWindow (producer : GoString) (usage : UsageTotals) (windowType : GoString)
    (start stop : Time) (value : Int) : Window :=
  { windowID := windowID producer usage.sandboxID windowType start stop
    producer, windowType, subjectType := lit "sandbox", subjectID := usage.sandboxID,
    teamID := usage.teamID, sandboxID := usage.sandboxID, windowStart := start, windowEnd := stop,
    value, unit := lit "bytes" }

/-- `(*Repository).appendWindow`. A row with the same `window_id` is left as it is. -/
def appendWindow (rows : List Window) (w : Window) : Except GoString (List Window) :=
  if w.windowID = [] then .error (lit "window_id is required")
  else if w.producer = [] then .error (lit "producer is required")
  else if w.windowType = [] then .error (lit "window_type is required")
  else if w.subjectType = [] ∨ w.subjectID = [] then
    .error (lit "subject_type and subject_id are required")
  else if w.windowStart = zeroTime ∨ w.windowEnd = zeroTime then
    .error (lit "window_start and window_end are required")
  else if w.windowEnd < w.windowStart then
    .error (lit "window_end must be greater than or equal to window_start")
  else if w.unit = [] then .error (lit "unit is required")
  else if w.value < 0 then .error (lit "value must be non-negative")
  else if ∃ row ∈ rows, row.windowID = w.windowID then .ok rows
  else .ok (rows ++ [w])

/-- `(*Repository).upsertProducerWatermark`, up to its statement. -/
def upsertProducerWatermark (producer : GoString) (completeBefore : Time) : Except GoString Unit :=
  if producer = [] then .error (lit "producer is required")
  else if completeBefore = zeroTime then .error (lit "complete_before is required")
  else .ok ()

/-! ## A flush -/

/-- What `Flush` has taken under the lock. -/
structure Taken where
  start : Time
  stop : Time
  snapshot : GoMap GoString UsageTotals

/-- Where the flush loop is: between two calls, after the clock reading of a call,
before its transaction, or between the transaction and the subtraction. -/
inductive Flushing where
  | idle
  | clocked (stop : Time)
  | taken (f : Taken)
  | written (f : Taken)

/-- The first critical section of `Flush`, and the correction of a clock that went back. -/
def Aggregator.take (a : Aggregator) (stop : Time) : Taken :=
  let start := if a.windowStart = zeroTime then stop else a.windowStart
  { start, stop := if stop < start then start else stop, snapshot := a.usage }

def usageWindows (producer : GoString) (f : Taken) (usage : UsageTotals) : List Window :=
  (if 0 < usage.egress then
    [buildWindow producer usage Direction.egress.windowType f.start f.stop usage.egress] else []) ++
  (if 0 < usage.ingress then
    [buildWindow producer usage Direction.ingress.windowType f.start f.stop usage.ingress] else [])

def flushWindows (producer : GoString) (f : Taken) : List Window :=
  f.snapshot.toList.flatMap fun p => usageWindows producer f p.2

/-- The transaction of `Flush`. -/
def flushTx (producer : GoString) (f : Taken) (rows : List Window) :
    Except GoString (List Window) := do
  let rows ← (flushWindows producer f).foldlM appendWindow rows
  upsertProducerWatermark producer f.stop
  return rows

/-- One turn of the last loop of `Flush`. -/
def subtractUsage (m : GoMap GoString UsageTotals) (p : GoString × UsageTotals) :
    GoMap GoString UsageTotals :=
  match m[p.1]? with
  | none => m
  | some current =>
    let egress := max 0 (current.egress - p.2.egress)
    let ingress := max 0 (current.ingress - p.2.ingress)
    if egress = 0 ∧ ingress = 0 then m.erase p.1
    else m.insert p.1 { current with egress, ingress }

/-- The last critical section of `Flush`. -/
def Aggregator.finish (a : Aggregator) (f : Taken) : Aggregator :=
  { a with windowStart := f.stop, usage := f.snapshot.toList.foldl subtractUsage a.usage }

/-! ## Runs -/

/-- The aggregator, the table, the flush loop, and every amount that was recorded. -/
structure World where
  agg : Aggregator
  stored : List Window
  flushing : Flushing
  recorded : List (GoString × Direction × Int)

inductive Event where
  | record (compiled : Option CompiledPolicy) (bytes : Int) (d : Direction)
  | readClock (now : Time)
  | take
  | transact (fault : Bool)
  | finish

def World.start (nodeName : GoString) (now : Time) : World :=
  { agg := newAggregator nodeName now, stored := [], flushing := .idle, recorded := [] }

/-- What a call of `record` adds to the amounts. -/
def recordedBy (compiled : Option CompiledPolicy) (bytes : Int) (d : Direction) :
    List (GoString × Direction × Int) :=
  match compiled with
  | none => []
  | some compiled =>
    if compiled.sandboxID = [] ∨ bytes ≤ 0 then [] else [(compiled.sandboxID, d, bytes)]

def World.next (w : World) : Event → World
  | .record compiled bytes d =>
    { w with agg := w.agg.record compiled bytes d,
             recorded := w.recorded ++ recordedBy compiled bytes d }
  | .readClock now =>
    match w.flushing with
    | .idle => { w with flushing := .clocked now }
    | _ => w
  | .take =>
    match w.flushing with
    | .clocked stop => { w with flushing := .taken (w.agg.take stop) }
    | _ => w
  | .transact fault =>
    match w.flushing with
    | .taken f =>
      match if fault then .error (lit "fault") else flushTx w.agg.producer f w.stored with
      | .ok rows => { w with stored := rows, flushing := .written f }
      | .error _ => { w with flushing := .idle }
    | _ => w
  | .finish =>
    match w.flushing with
    | .written f => { w with agg := w.agg.finish f, flushing := .idle }
    | _ => w

/-! ## The three sums -/

def usageOf (m : GoMap GoString UsageTotals) (s : GoString) (d : Direction) : Int :=
  ((m[s]?).map (·.amount d)).getD 0

def storedTotal (rows : List Window) (s : GoString) (d : Direction) : Int :=
  ((rows.filter fun row => row.sandboxID = s ∧ row.windowType = d.windowType).map (·.value)).sum

def recordedTotal (records : List (GoString × Direction × Int)) (s : GoString)
    (d : Direction) : Int :=
  ((records.filter fun r => r.1 = s ∧ r.2.1 = d).map (·.2.2)).sum

/-- The bytes that a flush has stored and not yet taken out of the usage. -/
def inFlight (w : World) (s : GoString) (d : Direction) : Int :=
  match w.flushing with
  | .written f => usageOf f.snapshot s d
  | _ => 0

lemma storedTotal_append (rows rows' : List Window) (s : GoString) (d : Direction) :
    storedTotal (rows ++ rows') s d = storedTotal rows s d + storedTotal rows' s d := by
  simp [storedTotal, filter_append]

lemma storedTotal_flatMap {α : Type} (l : List α) (g : α → List Window) (s : GoString)
    (d : Direction) :
    storedTotal (l.flatMap g) s d = (l.map fun a => storedTotal (g a) s d).sum := by
  induction l with
  | nil => rfl
  | cons a l ih => rw [flatMap_cons, storedTotal_append, ih, map_cons, sum_cons]

lemma recordedTotal_append (r r' : List (GoString × Direction × Int)) (s : GoString)
    (d : Direction) : recordedTotal (r ++ r') s d = recordedTotal r s d + recordedTotal r' s d := by
  simp [recordedTotal, filter_append]

variable {d : Direction} {m : GoMap GoString UsageTotals} {s producer : GoString}
    {u : UsageTotals} {f : Taken} {w : World} {rows rows' : List Window}

lemma windowType_injective {d' : Direction} (h : d.windowType = d'.windowType) : d = d' := by
  cases d <;> cases d'
  · rfl
  · exact absurd h (by decide +kernel)
  · exact absurd h (by decide +kernel)
  · rfl

lemma amount_setAmount (u : UsageTotals) (d d' : Direction) (n : Int) :
    (u.setAmount d n).amount d' = if d = d' then n else u.amount d' := by
  cases d <;> cases d' <;> rfl

lemma setAmount_sandboxID (u : UsageTotals) (d : Direction) (n : Int) :
    (u.setAmount d n).sandboxID = u.sandboxID := by
  cases d <;> rfl

lemma usageOf_some (h : m[s]? = some u) (d : Direction) : usageOf m s d = u.amount d := by
  simp [usageOf, h]

lemma usageOf_none (h : m[s]? = none) (d : Direction) : usageOf m s d = 0 := by
  simp [usageOf, h]

/-! ## Ids of windows -/

lemma decimalInt_no_slash (n : Int) : (47 : UInt8) ∉ decimalInt n := by
  unfold decimalInt
  split
  · intro hmem
    rcases mem_cons.mp hmem with heq | hmem
    · cases heq
    · simpa using digit_of_mem_decimal hmem
  · exact fun hmem => by simpa using digit_of_mem_decimal hmem

lemma decimalInt_injective {m n : Int} (h : decimalInt m = decimalInt n) : m = n := by
  have hmixed : ∀ (a b : Nat), 45 :: decimal a ≠ decimal b := by
    intro a b heq
    have hmem : (45 : UInt8) ∈ decimal b := heq ▸ mem_cons_self
    simpa using digit_of_mem_decimal hmem
  unfold decimalInt at h
  split at h <;> split at h
  · have := decimal_injective (List.cons.inj h).2
    omega
  · exact absurd h (hmixed _ _)
  · exact absurd h.symm (hmixed _ _)
  · have := decimal_injective h
    omega

lemma last_slash {a a' b b' : GoString} (hb : (47 : UInt8) ∉ b) (hb' : (47 : UInt8) ∉ b')
    (h : a ++ 47 :: b = a' ++ 47 :: b') : a = a' ∧ b = b' := by
  have hlen : b.length = b'.length := by
    have hrev := congrArg (fun l => (reverse l).idxOf 47) h
    simpa [idxOf_append_of_notMem, hb, hb'] using hrev
  obtain ⟨ha, hrest⟩ := append_inj' h (by simp [hlen])
  exact ⟨ha, (List.cons.inj hrest).2⟩

lemma windowType_no_slash (d : Direction) : (47 : UInt8) ∉ d.windowType := by
  cases d <;> decide +kernel

/-- The id of a window tells the sandbox, the type and both times. -/
lemma windowID_injective {s' : GoString} {d' : Direction} {start start' stop stop' : Time}
    (h : windowID producer s d.windowType start stop =
      windowID producer s' d'.windowType start' stop') :
    s = s' ∧ d = d' ∧ start = start' ∧ stop = stop' := by
  unfold windowID at h
  have h := (List.cons.inj (append_cancel_left h)).2
  have hassoc : ∀ (s t x y : GoString), s ++ 47 :: (t ++ 47 :: (x ++ 47 :: y)) =
      ((s ++ 47 :: t) ++ 47 :: x) ++ 47 :: y := by simp
  rw [hassoc, hassoc] at h
  obtain ⟨h, hstop⟩ := last_slash (decimalInt_no_slash _) (decimalInt_no_slash _) h
  obtain ⟨h, hstart⟩ := last_slash (decimalInt_no_slash _) (decimalInt_no_slash _) h
  obtain ⟨hs, htype⟩ := last_slash (windowType_no_slash d) (windowType_no_slash d') h
  exact ⟨hs, windowType_injective htype, decimalInt_injective hstart, decimalInt_injective hstop⟩

/-! ## Loops over a map -/

lemma get_subtractUsage_ne {p : GoString × UsageTotals}
    (h : p.1 ≠ s) : (subtractUsage m p)[s]? = m[s]? := by
  unfold subtractUsage
  split
  · rfl
  dsimp only
  split
  · exact get_erase_ne _ h
  · exact get_insert_ne _ _ h

lemma subtractUsage_congr {m' : GoMap GoString UsageTotals} (u : UsageTotals)
    (h : m[s]? = m'[s]?) : (subtractUsage m (s, u))[s]? = (subtractUsage m' (s, u))[s]? := by
  unfold subtractUsage
  simp only [h]
  split
  · exact h
  · split
    · rw [get_erase_self, get_erase_self]
    · rw [get_insert_self, get_insert_self]

open Aggregator

lemma get_finish (a : Aggregator) (f : Taken) (s : GoString) :
    (a.finish f).usage[s]? =
      match f.snapshot[s]? with
      | some u => (subtractUsage a.usage (s, u))[s]?
      | none => a.usage[s]? := by
  unfold finish
  rw [foldl_toList_at subtractUsage (fun m => m[s]?) f.snapshot s
    (fun _ _ _ _ hne => get_subtractUsage_ne hne) (fun _ _ u h => subtractUsage_congr u h)]
  cases f.snapshot[s]? <;> rfl

lemma get_finish_some (a : Aggregator) (h : f.snapshot[s]? = some u) :
    (a.finish f).usage[s]? = (subtractUsage a.usage (s, u))[s]? := by
  rw [get_finish, h]

lemma get_finish_none (a : Aggregator) (h : f.snapshot[s]? = none) :
    (a.finish f).usage[s]? = a.usage[s]? := by
  rw [get_finish, h]

/-! ## The invariant -/

/-- The entries of a map of usage are under their own ids, and no amount is negative. -/
def Counted (m : GoMap GoString UsageTotals) : Prop :=
  ∀ (s : GoString) (u : UsageTotals), m[s]? = some u → u.sandboxID = s ∧ ∀ d, 0 ≤ u.amount d

/-- The usage has grown since the snapshot. -/
def Grown (snapshot usage : GoMap GoString UsageTotals) : Prop :=
  ∀ (s : GoString) (u : UsageTotals), snapshot[s]? = some u →
    ∃ u', usage[s]? = some u' ∧ ∀ d, u.amount d ≤ u'.amount d

/-- What a flush has taken fits the usage and the stored windows. -/
structure Fits (w : World) (f : Taken) : Prop where
  counted : Counted f.snapshot
  grown : Grown f.snapshot w.agg.usage
  start : f.start = w.agg.windowStart ∨ w.agg.windowStart = zeroTime ∧ f.start = f.stop
  ordered : f.start ≤ f.stop

/-- The time that every stored window ends at or before. -/
def World.reached (w : World) : Time :=
  match w.flushing with
  | .written f => f.stop
  | _ => w.agg.windowStart

structure Inv (w : World) : Prop where
  conserved : ∀ s d, storedTotal w.stored s d + usageOf w.agg.usage s d =
    recordedTotal w.recorded s d + inFlight w s d
  counted : Counted w.agg.usage
  ids : ∀ row ∈ w.stored, ∃ d : Direction, row.windowType = d.windowType ∧
    row.windowID =
      windowID w.agg.producer row.sandboxID d.windowType row.windowStart row.windowEnd
  ended : ∀ row ∈ w.stored, row.windowEnd ≤ w.reached
  unset : w.reached = zeroTime → w.stored = []
  taken : ∀ f, w.flushing = .taken f → Fits w f
  written : ∀ f, w.flushing = .written f → Fits w f

/-- The clock of a flush stands at the start of its window. Then no sandbox that has bytes in
the flush has a stored window for that instant yet. And no count goes over an `int64`. -/
def Event.Safe (w : World) : Event → Prop
  | .record (some compiled) bytes d => usageOf w.agg.usage compiled.sandboxID d + bytes < 2 ^ 63
  | .transact _ =>
    ∀ f, w.flushing = .taken f → f.start = f.stop → ∀ row ∈ w.stored,
      row.windowStart = f.start → row.windowEnd = f.stop → ∀ d : Direction,
        row.windowType = d.windowType → usageOf f.snapshot row.sandboxID d = 0
  | _ => True

/-! ## Recording -/

lemma int64_of_bounds {n : Int} (hlow : 0 ≤ n) (hhigh : n < 2 ^ 63) : int64 n = n := by
  unfold int64
  omega

lemma record_usage {a : Aggregator} (hcounted : Counted a.usage) {compiled : CompiledPolicy}
    {bytes : Int} (hid : compiled.sandboxID ≠ []) (hbytes : 0 < bytes)
    (hfits : usageOf a.usage compiled.sandboxID d + bytes < 2 ^ 63) :
    ∃ u, u.sandboxID = compiled.sandboxID ∧
      (∀ d', u.amount d' = usageOf a.usage compiled.sandboxID d' + if d = d' then bytes else 0) ∧
      (∀ d', 0 ≤ usageOf a.usage compiled.sandboxID d') ∧ a.record (some compiled) bytes d =
        { a with usage := a.usage.insert compiled.sandboxID u } := by
  have hentry : ∃ entry : UsageTotals, (a.usage[compiled.sandboxID]?).getD
      { sandboxID := compiled.sandboxID, teamID := compiled.teamID } = entry ∧
      entry.sandboxID = compiled.sandboxID ∧
      ∀ d', entry.amount d' = usageOf a.usage compiled.sandboxID d' ∧ 0 ≤ entry.amount d' := by
    cases hget : a.usage[compiled.sandboxID]? with
    | none =>
      refine ⟨_, rfl, rfl, ?_⟩
      intro d'
      rw [usageOf_none hget]
      cases d' <;> exact ⟨rfl, le_refl 0⟩
    | some u =>
      obtain ⟨hkey, hpos⟩ := hcounted _ u hget
      refine ⟨u, rfl, hkey, ?_⟩
      intro d'
      exact ⟨(usageOf_some hget d').symm, hpos d'⟩
  obtain ⟨entry, hget, hkey, hamounts⟩ := hentry
  have hnew : int64 (entry.amount d + bytes) = usageOf a.usage compiled.sandboxID d + bytes := by
    have hpos := (hamounts d).2
    rw [(hamounts d).1] at hpos ⊢
    exact int64_of_bounds (by omega) hfits
  refine ⟨entry.setAmount d (int64 (entry.amount d + bytes)), ?_, ?_, ?_, ?_⟩
  · rw [setAmount_sandboxID, hkey]
  · intro d'
    rw [amount_setAmount, hnew]
    split
    · rename_i hd
      rw [hd]
    · rw [(hamounts d').1, add_zero]
  · intro d'
    rw [← (hamounts d').1]
    exact (hamounts d').2
  · have hrecords : ¬ (compiled.sandboxID = [] ∨ bytes ≤ 0) := by
      rintro (hnil | hle)
      · exact hid hnil
      · omega
    simp only [record, if_neg hrecords, hget]

/-- A world whose aggregator counts on keeps what the flush took. -/
lemma Fits.insert {w' : World} (h : Fits w f)
    (hagg : w'.agg = { w.agg with usage := w.agg.usage.insert s u })
    (hgrow : ∀ d, usageOf w.agg.usage s d ≤ u.amount d) : Fits w' f := by
  refine ⟨h.counted, ?_, ?_, h.ordered⟩
  · intro k v hv
    obtain ⟨v', hv', hle⟩ := h.grown k v hv
    rw [hagg]
    by_cases hk : s = k
    · subst hk
      refine ⟨u, get_insert_self _ _ _, ?_⟩
      intro d
      have hlt := hgrow d
      rw [usageOf_some hv'] at hlt
      exact le_trans (hle d) hlt
    · exact ⟨v', (get_insert_ne _ _ hk).trans hv', hle⟩
  · rw [hagg]
    exact h.start

lemma Inv.record (h : Inv w) {compiled : Option CompiledPolicy} {bytes : Int}
    (hsafe : Event.Safe w (.record compiled bytes d)) :
    Inv (w.next (.record compiled bytes d)) := by
  cases compiled with
  | none => simpa [World.next, Aggregator.record, recordedBy] using h
  | some compiled =>
    by_cases hnothing : compiled.sandboxID = [] ∨ bytes ≤ 0
    · simpa [World.next, Aggregator.record, recordedBy, hnothing] using h
    obtain ⟨hid, hbytes⟩ := not_or.mp hnothing
    obtain ⟨u, hkey, hamount, hpos, hrecord⟩ :=
      record_usage (d := d) h.counted hid (by omega) hsafe
    have hgrow : ∀ d', usageOf w.agg.usage compiled.sandboxID d' ≤ u.amount d' := by
      intro d'
      rw [hamount]
      split <;> omega
    have hnext : w.next (.record (some compiled) bytes d) =
        { w with agg := { w.agg with usage := w.agg.usage.insert compiled.sandboxID u }
                 recorded := w.recorded ++ [(compiled.sandboxID, d, bytes)] } := by
      simp only [World.next, hrecord, recordedBy, if_neg hnothing]
    rw [hnext]
    refine ⟨?_, ?_, h.ids, h.ended, h.unset, ?_, ?_⟩
    · intro s d'
      have hsum := h.conserved s d'
      have hmore : recordedTotal (w.recorded ++ [(compiled.sandboxID, d, bytes)]) s d' =
          recordedTotal w.recorded s d' +
            if compiled.sandboxID = s ∧ d = d' then bytes else 0 := by
        rw [recordedTotal_append]
        congr 1
        by_cases hone : compiled.sandboxID = s ∧ d = d' <;> simp [recordedTotal, hone]
      have husage : usageOf (w.agg.usage.insert compiled.sandboxID u) s d' =
          usageOf w.agg.usage s d' + if compiled.sandboxID = s ∧ d = d' then bytes else 0 := by
        by_cases hs : compiled.sandboxID = s
        · subst hs
          rw [usageOf_some (get_insert_self _ _ _), hamount]
          simp
        have hsame : usageOf (w.agg.usage.insert compiled.sandboxID u) s d' =
            usageOf w.agg.usage s d' := by
          unfold usageOf
          rw [get_insert_ne _ _ hs]
        rw [hsame]
        simp [hs]
      show storedTotal w.stored s d' + usageOf (w.agg.usage.insert compiled.sandboxID u) s d' =
        recordedTotal (w.recorded ++ [(compiled.sandboxID, d, bytes)]) s d' + inFlight w s d'
      rw [hmore, husage]
      omega
    · exact all_insert ⟨hkey, fun d' => le_trans (hpos d') (hgrow d')⟩ h.counted
    · intro f hf
      exact (h.taken f hf).insert rfl hgrow
    · intro f hf
      exact (h.written f hf).insert rfl hgrow

/-! ## Flushing -/

lemma inFlight_of_not_written (h : ∀ f, w.flushing ≠ .written f) (s : GoString)
    (d : Direction) : inFlight w s d = 0 := by
  unfold inFlight
  split
  · exact absurd ‹_› (h _)
  · rfl

open World

lemma reached_of_not_written (h : ∀ f, w.flushing ≠ .written f) :
    w.reached = w.agg.windowStart := by
  unfold reached
  split
  · exact absurd ‹_› (h _)
  · rfl

lemma Inv.goesOn (h : Inv w) {next : Flushing} (hwas : ∀ f, w.flushing ≠ .written f)
    (hnext : ∀ f, next ≠ .written f) (htaken : ∀ f, next = .taken f → Fits w f) :
    Inv { w with flushing := next } := by
  have hended := h.ended
  have hunset := h.unset
  rw [reached_of_not_written hwas] at hended hunset
  refine ⟨fun s d => ?_, h.counted, h.ids, ?_, ?_, ?_, fun f hf => absurd hf (hnext f)⟩
  · have hsum := h.conserved s d
    rw [inFlight_of_not_written hwas] at hsum
    rw [inFlight_of_not_written hnext]
    exact hsum
  · rw [reached_of_not_written hnext]
    exact hended
  · rw [reached_of_not_written hnext]
    exact hunset
  · intro f hf
    obtain ⟨hcounted, hgrown, hstart, hordered⟩ := htaken f hf
    exact ⟨hcounted, hgrown, hstart, hordered⟩

lemma Inv.readClock (h : Inv w) (now : Time) : Inv (w.next (.readClock now)) := by
  cases hflush : w.flushing with
  | idle =>
    simp only [World.next, hflush]
    exact h.goesOn (by simp [hflush]) nofun nofun
  | _ => simpa only [World.next, hflush] using h

lemma take_fits (h : Inv w) (stop : Time) : Fits w (w.agg.take stop) := by
  refine ⟨h.counted, ?_, ?_, ?_⟩
  · intro s u hu
    exact ⟨u, hu, fun d => le_refl _⟩
  · unfold Aggregator.take
    by_cases hzero : w.agg.windowStart = zeroTime <;> simp [hzero]
  · have hlater : ∀ start stop : Int, start ≤ if stop < start then start else stop := by
      intro start stop
      split <;> omega
    exact hlater _ _

lemma Inv.take (h : Inv w) : Inv (w.next .take) := by
  cases hflush : w.flushing with
  | clocked stop =>
    simp only [World.next, hflush]
    refine h.goesOn (by simp [hflush]) (fun f hf => nomatch hf) ?_
    rintro f ⟨rfl⟩
    exact take_fits h stop
  | _ => simpa only [World.next, hflush] using h

lemma appendWindow_new {w : Window} (h : appendWindow rows w = .ok rows')
    (hnew : ∀ row ∈ rows, row.windowID ≠ w.windowID) : rows' = rows ++ [w] := by
  have hnone : ¬ ∃ row ∈ rows, row.windowID = w.windowID := by
    rintro ⟨row, hrow, heq⟩
    exact hnew row hrow heq
  unfold appendWindow at h
  rw [if_neg hnone] at h
  split_ifs at h
  exact (Except.ok.inj h).symm

lemma foldlM_appendWindow_new {ws : List Window} (h : ws.foldlM appendWindow rows = .ok rows')
    (hnew : ∀ w ∈ ws, ∀ row ∈ rows, row.windowID ≠ w.windowID) (hws : (ws.map (·.windowID)).Nodup) :
    rows' = rows ++ ws := by
  induction ws generalizing rows with
  | nil =>
    rw [append_nil]
    exact (Except.ok.inj h).symm
  | cons w ws ih =>
    rw [foldlM_cons] at h
    obtain ⟨rows₁, hone, h⟩ := of_bind_ok h
    rw [map_cons, nodup_cons] at hws
    have heq := appendWindow_new hone (hnew w mem_cons_self)
    subst heq
    have hrest := ih h ?_ hws.2
    · rw [hrest, append_assoc]
      rfl
    · intro w' hw' row hrow
      rcases mem_append.mp hrow with hrow | hrow
      · exact hnew w' (mem_cons_of_mem _ hw') row hrow
      · rw [mem_singleton.mp hrow]
        intro heq
        exact hws.1 (mem_map.mpr ⟨w', hw', heq.symm⟩)

lemma mem_usageWindows {x : Window} (hx : x ∈ usageWindows producer f u) :
    ∃ d : Direction, 0 < u.amount d ∧
      x = buildWindow producer u d.windowType f.start f.stop (u.amount d) := by
  unfold usageWindows at hx
  rcases mem_append.mp hx with hx | hx
  · split at hx
    · exact ⟨.egress, by assumption, mem_singleton.mp hx⟩
    · cases hx
  · split at hx
    · exact ⟨.ingress, by assumption, mem_singleton.mp hx⟩
    · cases hx

lemma mem_flushWindows (hcounted : Counted f.snapshot) {x : Window}
    (hx : x ∈ flushWindows producer f) :
    ∃ (u : UsageTotals) (d : Direction), f.snapshot[u.sandboxID]? = some u ∧ 0 < u.amount d ∧
      x = buildWindow producer u d.windowType f.start f.stop (u.amount d) := by
  obtain ⟨⟨s, u⟩, hp, hx⟩ := mem_flatMap.mp hx
  obtain ⟨d, hpos, rfl⟩ := mem_usageWindows hx
  have hget := (mem_toList f.snapshot s u).mp hp
  have hkey := (hcounted s u hget).1
  exact ⟨u, d, by rw [hkey]; exact hget, hpos, rfl⟩

lemma usageWindows_ids (producer : GoString) (f : Taken) (u : UsageTotals) :
    ((usageWindows producer f u).map (·.windowID)).Nodup := by
  unfold usageWindows
  split <;> split
  · rw [map_append, nodup_append]
    refine ⟨nodup_singleton _, nodup_singleton _, ?_⟩
    rintro a ha b hb rfl
    rw [map_singleton, mem_singleton] at ha hb
    obtain ⟨-, hd, -⟩ := windowID_injective (ha.symm.trans hb)
    cases hd
  all_goals simp

lemma flushWindows_ids (hcounted : Counted f.snapshot) :
    ((flushWindows producer f).map (·.windowID)).Nodup := by
  unfold flushWindows
  rw [map_flatMap, nodup_flatMap]
  refine ⟨fun p _ => usageWindows_ids producer f p.2, ?_⟩
  have hkeys := nodup_keys f.snapshot
  rw [List.Nodup, pairwise_map] at hkeys
  refine hkeys.imp_of_mem ?_
  rintro ⟨s, u⟩ ⟨s', u'⟩ hp hp' hne id hid hid'
  obtain ⟨x, hx, rfl⟩ := mem_map.mp hid
  obtain ⟨x', hx', heq⟩ := mem_map.mp hid'
  obtain ⟨d, -, rfl⟩ := mem_usageWindows hx
  obtain ⟨d', -, rfl⟩ := mem_usageWindows hx'
  obtain ⟨hs, -⟩ := windowID_injective heq
  apply hne
  rw [← (hcounted s u ((mem_toList _ _ _).mp hp)).1,
    ← (hcounted s' u' ((mem_toList _ _ _).mp hp')).1]
  exact hs.symm

open UsageTotals

lemma storedTotal_flushWindows (hcounted : Counted f.snapshot) (s : GoString) (d : Direction) :
    storedTotal (flushWindows producer f) s d = usageOf f.snapshot s d := by
  unfold flushWindows usageOf
  rw [storedTotal_flatMap, ← sum_toList_at]
  congr 1
  apply map_congr_left
  rintro ⟨k, u⟩ hp
  obtain ⟨hkey, hpos⟩ := hcounted k u ((mem_toList _ _ _).mp hp)
  have hegress : 0 ≤ u.egress := hpos .egress
  have hingress : 0 ≤ u.ingress := hpos .ingress
  have htypes : Direction.egress.windowType ≠ Direction.ingress.windowType := by decide +kernel
  subst hkey
  by_cases hs : u.sandboxID = s
  · subst hs
    cases d with
    | egress =>
      by_cases h : 0 < u.egress <;> by_cases h' : 0 < u.ingress <;>
        simp [storedTotal, usageWindows, buildWindow, amount, h, h', htypes.symm] <;> omega
    | ingress =>
      by_cases h : 0 < u.egress <;> by_cases h' : 0 < u.ingress <;>
        simp [storedTotal, usageWindows, buildWindow, amount, h, h', htypes] <;> omega
  · by_cases h : 0 < u.egress <;> by_cases h' : 0 < u.ingress <;>
      simp [storedTotal, usageWindows, buildWindow, h, h', hs]

lemma Inv.no_conflict (h : Inv w) (hflush : w.flushing = .taken f)
    (hsafe : ∀ fault, Event.Safe w (.transact fault)) :
    ∀ x ∈ flushWindows w.agg.producer f, ∀ row ∈ w.stored, row.windowID ≠ x.windowID := by
  intro x hx row hrow heq
  have hfits := h.taken f hflush
  obtain ⟨u, d, hget, hpos, rfl⟩ := mem_flushWindows hfits.counted hx
  obtain ⟨d', htype, hid⟩ := h.ids row hrow
  obtain ⟨hs, rfl, hstart, hstop⟩ := windowID_injective (hid.symm.trans heq)
  have hended := h.ended row hrow
  have hunset := h.unset
  simp only [reached, hflush] at hended hunset
  rcases hfits.start with hsame | ⟨hzero, -⟩
  · -- the row ends where the flush ends, and not after its start
    have hback : f.stop ≤ f.start := by
      rw [hsame, ← hstop]
      exact hended
    have hinstant : f.start = f.stop := le_antisymm hfits.ordered hback
    have hnone := hsafe false f hflush hinstant row hrow hstart hstop d' htype
    rw [hs, usageOf_some hget] at hnone
    omega
  · rw [hunset hzero] at hrow
    cases hrow

lemma flushTx_ok (h : flushTx producer f rows = .ok rows') :
    (flushWindows producer f).foldlM appendWindow rows = .ok rows' ∧ f.stop ≠ zeroTime := by
  unfold flushTx at h
  obtain ⟨rows₁, hrows, h⟩ := of_bind_ok h
  obtain ⟨_, hmark, h⟩ := of_bind_ok h
  cases h
  refine ⟨hrows, ?_⟩
  unfold upsertProducerWatermark at hmark
  split_ifs at hmark with hproducer hzero
  exact hzero

lemma Inv.transact (h : Inv w) (fault : Bool)
    (hsafe : ∀ fault, Event.Safe w (.transact fault)) : Inv (w.next (.transact fault)) := by
  cases hflush : w.flushing with
  | taken f =>
    have hfits := h.taken f hflush
    have hconserved := h.conserved
    have hended := h.ended
    have hunset := h.unset
    simp only [inFlight, reached, hflush, add_zero] at hconserved hended hunset
    simp only [World.next, hflush]
    split
    case h_1 rows hrows =>
      have htx : flushTx w.agg.producer f w.stored = .ok rows := by
        cases fault with
        | true => cases hrows
        | false => exact hrows
      obtain ⟨hfold, hstop⟩ := flushTx_ok htx
      have hnew := foldlM_appendWindow_new hfold (h.no_conflict hflush hsafe)
        (flushWindows_ids hfits.counted)
      subst hnew
      refine ⟨?_, h.counted, ?_, ?_, ?_, nofun, ?_⟩
      · intro s d
        show storedTotal (w.stored ++ flushWindows w.agg.producer f) s d + usageOf w.agg.usage s d =
          recordedTotal w.recorded s d + usageOf f.snapshot s d
        rw [storedTotal_append, storedTotal_flushWindows hfits.counted]
        have hsum := hconserved s d
        omega
      · intro row hrow
        rcases mem_append.mp hrow with hrow | hrow
        · exact h.ids row hrow
        · obtain ⟨u, d, -, -, rfl⟩ := mem_flushWindows hfits.counted hrow
          exact ⟨d, rfl, rfl⟩
      · intro row hrow
        rcases mem_append.mp hrow with hrow | hrow
        · show row.windowEnd ≤ f.stop
          rcases hfits.start with hsame | ⟨hzero, -⟩
          · have hle := hended row hrow
            rw [← hsame] at hle
            exact le_trans hle hfits.ordered
          · rw [hunset hzero] at hrow
            cases hrow
        · obtain ⟨u, d, -, -, rfl⟩ := mem_flushWindows hfits.counted hrow
          exact le_refl f.stop
      · intro hzero
        exact absurd hzero hstop
      · rintro f' ⟨rfl⟩
        exact ⟨hfits.counted, hfits.grown, hfits.start, hfits.ordered⟩
    case h_2 => exact h.goesOn (by simp [hflush]) nofun nofun
  | _ => simpa only [World.next, hflush] using h

lemma usageOf_finish (h : Fits w f) (s : GoString) (d : Direction) :
    usageOf (w.agg.finish f).usage s d = usageOf w.agg.usage s d - usageOf f.snapshot s d := by
  cases hsnap : f.snapshot[s]? with
  | none =>
    rw [usageOf_none hsnap, sub_zero]
    unfold usageOf
    rw [get_finish_none w.agg hsnap]
  | some u =>
    obtain ⟨current, hcurrent, hle⟩ := h.grown s u hsnap
    rw [usageOf_some hsnap, usageOf_some hcurrent]
    have hegress : u.egress ≤ current.egress := hle .egress
    have hingress : u.ingress ≤ current.ingress := hle .ingress
    have hleft := get_finish_some w.agg hsnap
    simp only [subtractUsage, hcurrent] at hleft
    rw [max_eq_right (by omega), max_eq_right (by omega)] at hleft
    split at hleft
    case isTrue hzero =>
      rw [get_erase_self] at hleft
      rw [usageOf_none hleft]
      cases d <;> simp only [amount] <;> omega
    case isFalse =>
      rw [get_insert_self] at hleft
      rw [usageOf_some hleft]
      cases d <;> rfl

lemma finish_counted (hw : Counted w.agg.usage) (h : Fits w f) :
    Counted (w.agg.finish f).usage := by
  intro s v hv
  have hamount : ∀ d, v.amount d = usageOf w.agg.usage s d - usageOf f.snapshot s d := by
    intro d
    rw [← usageOf_finish h, usageOf_some hv]
  cases hsnap : f.snapshot[s]? with
  | none =>
    rw [get_finish_none w.agg hsnap] at hv
    exact hw s v hv
  | some u =>
    obtain ⟨current, hcurrent, hle⟩ := h.grown s u hsnap
    refine ⟨?_, fun d => ?_⟩
    · have hleft := get_finish_some w.agg hsnap
      simp only [subtractUsage, hcurrent] at hleft
      rw [hv] at hleft
      split at hleft
      · rw [get_erase_self] at hleft
        cases hleft
      · rw [get_insert_self, Option.some.injEq] at hleft
        rw [hleft]
        exact (hw s current hcurrent).1
    · rw [hamount, usageOf_some hcurrent, usageOf_some hsnap]
      have := hle d
      omega

lemma Inv.finish (h : Inv w) : Inv (w.next .finish) := by
  cases hflush : w.flushing with
  | written f =>
    have hfits := h.written f hflush
    have hconserved := h.conserved
    have hended := h.ended
    have hunset := h.unset
    simp only [inFlight, reached, hflush] at hconserved hended hunset
    simp only [World.next, hflush]
    refine ⟨?_, finish_counted h.counted hfits, h.ids, hended, hunset, nofun, nofun⟩
    intro s d
    show storedTotal w.stored s d + usageOf (w.agg.finish f).usage s d =
      recordedTotal w.recorded s d + 0
    rw [usageOf_finish hfits]
    have hsum := hconserved s d
    omega
  | _ => simpa only [World.next, hflush] using h

lemma Inv.next (h : Inv w) {e : Event} (hsafe : e.Safe w) : Inv (w.next e) := by
  cases e with
  | record compiled bytes d => exact h.record hsafe
  | readClock now => exact h.readClock now
  | take => exact h.take
  | transact fault => exact h.transact fault (fun _ => hsafe)
  | finish => exact h.finish

def World.Reached (ok : World → Event → Prop) (nodeName : GoString) (now : Time) : World → Prop :=
  Reach (· = World.start nodeName now) (fun w e w' => w' = w.next e) ok

lemma Inv.start (nodeName : GoString) (now : Time) : Inv (World.start nodeName now) := by
  refine ⟨?_, ?_, nofun, nofun, fun _ => rfl, nofun, nofun⟩
  · intro s d
    simp [World.start, newAggregator, storedTotal, recordedTotal, usageOf, inFlight]
  · intro s u hu
    simp [World.start, newAggregator] at hu

/-- In every run in which no flush at a standing clock meets its own stored window, the stored
windows and the usage together are what was recorded. A flush between its transaction
and its subtraction has its amounts in both. -/
theorem metered_bytes_are_conserved_while_instants_differ (nodeName : GoString) (now : Time)
    (w : World) (hw : World.Reached (fun w e => e.Safe w) nodeName now w) (s : GoString)
    (d : Direction) :
    storedTotal w.stored s d + usageOf w.agg.usage s d =
      recordedTotal w.recorded s d + inFlight w s d := by
  have hinv : Inv w := by
    refine Reach.keeps (P := Inv) ?_ (fun w e h hsafe => h.next hsafe) hw
    rintro _ rfl
    exact Inv.start nodeName now
  exact hinv.conserved s d

def metered : Option CompiledPolicy :=
  some { sandboxID := lit "sb", teamID := lit "team", mode := .allowAll }

/-- Bytes are recorded, flushed at the clock reading `now`, and the flush finishes. -/
def recordAndFlush (bytes : Int) (now : Time) : List Event :=
  [.record metered bytes .egress, .readClock now, .take, .transact false, .finish]

def runFrom (es : List Event) : World := es.foldl World.next (World.start (lit "node") 0)

/-- Five bytes are stored and seven are still in the usage. -/
theorem metered_bytes_are_conserved_in_a_run :
    storedTotal (runFrom (recordAndFlush 5 10 ++ [.record metered 7 .egress])).stored
      (lit "sb") .egress +
        usageOf (runFrom (recordAndFlush 5 10 ++ [.record metered 7 .egress])).agg.usage
          (lit "sb") .egress =
      recordedTotal (runFrom (recordAndFlush 5 10 ++ [.record metered 7 .egress])).recorded
          (lit "sb") .egress +
        inFlight (runFrom (recordAndFlush 5 10 ++ [.record metered 7 .egress]))
          (lit "sb") .egress := by
  have hrun : Reached (fun w e => e.Safe w) (lit "node") 0
      (runFrom (recordAndFlush 5 10 ++ [.record metered 7 .egress])) := by
    have hadmits : Admits World.next (fun w e => e.Safe w) (start (lit "node") 0)
        (recordAndFlush 5 10 ++ [.record metered 7 .egress]) := by
      refine ⟨?_, trivial, trivial, ?_, trivial, ?_, trivial⟩
      · show usageOf _ (lit "sb") .egress + 5 < 2 ^ 63
        decide +kernel
      · intro f _ _ row hrow
        cases hrow
      · show usageOf _ (lit "sb") .egress + 7 < 2 ^ 63
        decide +kernel
    exact Reach.run (.start (by rfl)) _ hadmits
  exact metered_bytes_are_conserved_while_instants_differ (lit "node") 0 _ hrun (lit "sb") .egress

/-- Two flushes at one clock reading, and a third after the clock went back a little. The last
two have windows from the reading to itself, and the five bytes of the third are lost. -/
theorem standing_clock_loses_bytes :
    ∃ w, World.Reached (fun _ _ => True) (lit "node") 0 w ∧ inFlight w (lit "sb") .egress = 0 ∧
      storedTotal w.stored (lit "sb") .egress = 10 ∧ usageOf w.agg.usage (lit "sb") .egress = 0 ∧
      recordedTotal w.recorded (lit "sb") .egress = 15 := by
  refine ⟨runFrom (recordAndFlush 5 10 ++ recordAndFlush 5 10 ++ recordAndFlush 5 9), ?_, ?_⟩
  · have hadmits : Admits World.next (fun _ _ => True) (start (lit "node") 0)
        (recordAndFlush 5 10 ++ recordAndFlush 5 10 ++ recordAndFlush 5 9) := by
      repeat' constructor
    exact Reach.run (.start (by rfl)) _ hadmits
  · decide +kernel

end sandbox0.netd.metering
