-- The volume barrier of the storage proxy: the advisory locks of
-- `volumelock/lock.go`, the handlers that take them, and the connections that
-- they and the repository take from the pool of an instance.
import Sandbox0.GoString
import Sandbox0.LockQueue

namespace sandbox0.volumelock

open List Nat
open sched (Cmd Mode Sys Inevitable Compatible Neutral PeakLe Lockless)

/-! ## The lock -/

/-- FNV-1a. -/
def advisoryKey (volumeID : GoString) : UInt64 :=
  volumeID.foldl (fun h b => (h ^^^ b.toUInt64) * 1099511628211) 14695981039346656037

/-- What a call does that others can notice. A pool is named by its instance. -/
abbrev Code := List (Cmd Nat UInt64)

def withLock (inst : Nat) (volumeID : GoString) (mode : Mode) (fn : Code) : Code :=
  if volumeID = [] then fn else sched.bracket inst (advisoryKey volumeID) mode fn

def withShared (inst : Nat) (volumeID : GoString) (fn : Code) : Code :=
  withLock inst volumeID .shared fn

def withExclusive (inst : Nat) (volumeID : GoString) (fn : Code) : Code :=
  withLock inst volumeID .exclusive fn

/-! ## The handlers -/

/-- Calls of the repository and of `pg_notify`, each with a connection of its own. -/
def queries (inst n : Nat) : Code := (List.replicate n ()).flatMap fun _ => sched.visit inst

/-- `withAuthorizedVolumeMutation`, with the queries of its `run`. -/
def withAuthorizedVolumeMutation (inst : Nat) (volumeID : GoString) (n : Nat) : Code :=
  withShared inst volumeID (queries inst n)

/-- What a file handler does on the volume that it has prepared. Stat, list and read make no
mutation. A write, a move or a delete makes one for each call of the file server that changes
the volume. -/
inductive Work where
  | query
  | mutation (queries : Nat)

def Work.code (inst : Nat) (volumeID : GoString) : Work → Code
  | .query => sched.visit inst
  | .mutation n => withAuthorizedVolumeMutation inst volumeID n

def works (inst : Nat) (volumeID : GoString) (body : List Work) : Code :=
  body.flatMap (Work.code inst volumeID)

def withSharedVolumeFileRequest (inst : Nat) (volumeID : GoString) (fn : Code) : Code :=
  if trimSpace volumeID = [] then fn else withShared inst volumeID fn

/-- What `prepareOrProxyVolumeFileRequest` finds. -/
structure Route where
  queries : Nat
  /-- The instance that has the volume mounted, and the queries that it makes before it serves. -/
  owner : Option (Nat × Nat)

/-- The file handlers. A request that goes to its owner keeps its lock here until the owner
has answered, and the owner takes the lock too. -/
def volumeFileRequest (inst : Nat) (volumeID : GoString) (route : Route)
    (body : List Work) : Code :=
  if volumeID = [] then []
  else withSharedVolumeFileRequest inst volumeID <|
    queries inst route.queries ++
      match route.owner with
      | none => works inst volumeID body
      | some (owner, n) =>
        if owner = inst then works inst volumeID body
        else withSharedVolumeFileRequest owner volumeID
          (queries owner n ++ works owner volumeID body)

/-- `run` is none when the handler ends before the barrier. -/
def prepareSandboxVolumeForPortalBind (inst : Nat) (id : GoString) (run : Option Nat) : Code :=
  if trimSpace id = [] then []
  else queries inst 1 ++
    match run with
    | none => []
    | some n => withExclusive inst (trimSpace id) (queries inst n)

inductive Request where
  | file (inst : Nat) (volumeID : GoString) (route : Route) (body : List Work)
  | mutation (inst : Nat) (volumeID : GoString) (queries : Nat)
  | prepare (inst : Nat) (id : GoString) (run : Option Nat)

def Request.code : Request → Code
  | .file inst volumeID route body => volumeFileRequest inst volumeID route body
  | .mutation inst volumeID n => withAuthorizedVolumeMutation inst volumeID n
  | .prepare inst id run => prepareSandboxVolumeForPortalBind inst id run

/-- The most connections of the instance that the request has while it waits for another
connection or for a lock. -/
def Request.need (r : Request) (inst : Nat) : Nat := sched.peak inst [] r.code

def issued (requests : List Request) : Sys Nat UInt64 := Sys.start (requests.map Request.code)

/-! ## What the code of a request takes -/

lemma queries_neutral (inst n : Nat) : Neutral (queries inst n) :=
  Neutral.flatMap fun _ _ => Neutral.visit inst

lemma queries_peakLe (r inst n : Nat) : PeakLe r 0 (queries inst n) :=
  PeakLe.flatMap fun _ _ => ⟨PeakLe.visit r inst, Neutral.visit inst⟩

open Request

section

variable (inst : Nat) (r : Request) (n : Nat) (volumeID : GoString) (body : List Work)

lemma queries_lockless : Lockless (queries inst n) := by
  intro k m hmem
  obtain ⟨_, _, hx⟩ := mem_flatMap.mp hmem
  simp [sched.visit] at hx

variable {fn : Code}

lemma withLock_neutral (h : Neutral fn) (inst : Nat) (volumeID : GoString) (mode : Mode) :
    Neutral (withLock inst volumeID mode fn) := by
  unfold withLock
  split
  · exact h
  · exact h.bracket _ _ _

lemma withLock_peakLe {r d : Nat} (h : PeakLe r d fn) (inst : Nat) (volumeID : GoString)
    (mode : Mode) : PeakLe r (d + if inst = r then 1 else 0) (withLock inst volumeID mode fn) := by
  unfold withLock
  by_cases hid : volumeID = []
  · rw [if_pos hid]
    exact h.mono (le_add_right _ _)
  · rw [if_neg hid]
    exact h.bracket _ _

lemma work_neutral (w : Work) : Neutral (w.code inst volumeID) := by
  cases w with
  | query => exact Neutral.visit inst
  | mutation n => exact withLock_neutral (queries_neutral inst n) inst volumeID .shared

lemma works_neutral : Neutral (works inst volumeID body) :=
  Neutral.flatMap fun w _ => work_neutral inst volumeID w

lemma works_peakLe (r inst : Nat) (volumeID : GoString) (body : List Work) :
    PeakLe r (if inst = r then 1 else 0) (works inst volumeID body) := by
  refine PeakLe.flatMap fun w _ => ⟨?_, work_neutral inst volumeID w⟩
  cases w with
  | query => exact (PeakLe.visit r inst).mono (Nat.zero_le _)
  | mutation n =>
    have h := withLock_peakLe (queries_peakLe r inst n) inst volumeID .shared
    rw [Nat.zero_add] at h
    exact h

lemma withSharedVolumeFileRequest_neutral (h : Neutral fn) (inst : Nat)
    (volumeID : GoString) : Neutral (withSharedVolumeFileRequest inst volumeID fn) := by
  unfold withSharedVolumeFileRequest
  split
  · exact h
  · exact withLock_neutral h _ _ _

lemma withSharedVolumeFileRequest_peakLe {r d : Nat} (h : PeakLe r d fn) (inst : Nat)
    (volumeID : GoString) :
    PeakLe r (d + if inst = r then 1 else 0) (withSharedVolumeFileRequest inst volumeID fn) := by
  unfold withSharedVolumeFileRequest
  by_cases hid : trimSpace volumeID = []
  · rw [if_pos hid]
    exact h.mono (le_add_right _ _)
  · rw [if_neg hid]
    exact withLock_peakLe h _ _ _

lemma served_neutral : Neutral (queries inst n ++ works inst volumeID body) :=
  (queries_neutral inst n).append (works_neutral inst volumeID body)

lemma served_peakLe (r inst n : Nat) (volumeID : GoString) (body : List Work) :
    PeakLe r (if inst = r then 1 else 0) (queries inst n ++ works inst volumeID body) :=
  ((queries_peakLe r inst n).mono (zero_le _)).append (queries_neutral inst n)
    (works_peakLe r inst volumeID body)

lemma Request.neutral : Neutral r.code := by
  cases r with
  | mutation inst volumeID n => exact withLock_neutral (queries_neutral inst n) _ _ _
  | prepare inst id run =>
    simp only [code, prepareSandboxVolumeForPortalBind]
    split
    · exact Neutral.nil
    refine (queries_neutral inst 1).append ?_
    cases run with
    | none => exact Neutral.nil
    | some n => exact withLock_neutral (queries_neutral inst n) _ _ _
  | file inst volumeID route body =>
    simp only [code, volumeFileRequest]
    split
    · exact Neutral.nil
    refine withSharedVolumeFileRequest_neutral ((queries_neutral _ _).append ?_) _ _
    split
    · exact works_neutral _ _ _
    · split
      · exact works_neutral _ _ _
      · exact withSharedVolumeFileRequest_neutral (served_neutral _ _ _ _) _ _

/-- Two connections of an instance are the most that a waiting request has. -/
lemma Request.need_le (inst : Nat) : r.need inst ≤ 2 := by
  have hle : PeakLe inst 2 r.code := by
    cases r with
    | mutation i volumeID n =>
      exact (withLock_peakLe (queries_peakLe inst i n) i volumeID .shared).mono (by split <;> omega)
    | prepare i id run =>
      simp only [code, prepareSandboxVolumeForPortalBind]
      split
      · exact PeakLe.nil _ _
      refine ((queries_peakLe inst i 1).mono (by omega)).append (queries_neutral i 1) ?_
      cases run with
      | none => exact PeakLe.nil _ _
      | some n =>
        exact (withLock_peakLe (queries_peakLe inst i n) i _ .exclusive).mono (by split <;> omega)
    | file i volumeID route body =>
      simp only [code, volumeFileRequest]
      split
      · exact PeakLe.nil _ _
      split
      · exact (withSharedVolumeFileRequest_peakLe (served_peakLe inst i _ volumeID body) i
          volumeID).mono
          (by split <;> omega)
      rename_i owner n _
      by_cases hself : owner = i
      · rw [if_pos hself]
        exact (withSharedVolumeFileRequest_peakLe (served_peakLe inst i _ volumeID body) i
          volumeID).mono (by split <;> omega)
      rw [if_neg hself]
      -- the owner is another instance, so the two locks are on two pools
      have howner := withSharedVolumeFileRequest_peakLe (served_peakLe inst owner n volumeID body)
        owner volumeID
      have hhere := ((queries_peakLe inst i route.queries).mono (zero_le _)).append
        (queries_neutral i route.queries) howner
      refine (withSharedVolumeFileRequest_peakLe hhere i volumeID).mono ?_
      by_cases hi : i = inst
      · have hne : owner ≠ inst := fun h => hself (h.trans hi.symm)
        simp [hi, hne]
      · simp only [hi, if_false]
        split <;> omega
  simpa [need] using hle []

def Exclusive (cs : Code) : Prop := ∃ k, .lock k .exclusive ∈ cs

lemma withLock_shared (h : ¬ Exclusive fn) (inst : Nat) (volumeID : GoString) :
    ¬ Exclusive (withLock inst volumeID .shared fn) := by
  rintro ⟨k, hk⟩
  unfold withLock at hk
  split at hk
  · exact h ⟨k, hk⟩
  · simp only [sched.bracket, mem_cons, mem_append, reduceCtorEq, Cmd.lock.injEq, and_false,
      not_mem_nil, or_false, false_or] at hk
    exact h ⟨k, hk⟩

lemma withSharedVolumeFileRequest_shared (h : ¬ Exclusive fn) (inst : Nat)
    (volumeID : GoString) : ¬ Exclusive (withSharedVolumeFileRequest inst volumeID fn) := by
  unfold withSharedVolumeFileRequest
  split
  · exact h
  · exact withLock_shared h _ _

lemma queries_shared : ¬ Exclusive (queries inst n) :=
  fun ⟨k, hk⟩ => queries_lockless inst n k _ hk

lemma append_shared {cs ds : Code} (hc : ¬ Exclusive cs)
    (hd : ¬ Exclusive ds) : ¬ Exclusive (cs ++ ds) := by
  rintro ⟨k, hk⟩
  rcases mem_append.mp hk with hk | hk
  · exact hc ⟨k, hk⟩
  · exact hd ⟨k, hk⟩

lemma works_shared : ¬ Exclusive (works inst volumeID body) := by
  rintro ⟨k, hk⟩
  obtain ⟨w, _, hw⟩ := mem_flatMap.mp hk
  cases w with
  | query => simp [Work.code, sched.visit] at hw
  | mutation n => exact withLock_shared (queries_shared inst n) inst volumeID ⟨k, hw⟩

lemma file_shared (route : Route) (body : List Work) :
    ¬ Exclusive (volumeFileRequest inst volumeID route body) := by
  unfold volumeFileRequest
  split
  · rintro ⟨k, hk⟩
    cases hk
  refine withSharedVolumeFileRequest_shared (append_shared (queries_shared _ _) ?_) _ _
  split
  · exact works_shared _ _ _
  · split
    · exact works_shared _ _ _
    · exact withSharedVolumeFileRequest_shared
        (append_shared (queries_shared _ _) (works_shared _ _ _)) _ _

lemma prepare_flat (id : GoString) (run : Option Nat) (k : UInt64) :
    ¬ sched.nests k [] (prepareSandboxVolumeForPortalBind inst id run) := by
  unfold prepareSandboxVolumeForPortalBind
  split
  · exact fun h => h
  rw [sched.nests_append, queries_neutral]
  rintro (h | h)
  · exact (queries_lockless inst 1).nests k [] h
  · cases run with
    | none => exact h
    | some n =>
      simp only [withExclusive, withLock] at h
      split at h
      · exact (queries_lockless inst n).nests k [] h
      · exact sched.nests_bracket (queries_lockless inst n) inst k _ _ h

lemma Request.alone {size : Nat → Nat} (h : ∀ inst, r.need inst < size inst) :
    Compatible size [{ holds := [], queued := false, rest := r.code }] := by
  refine ⟨fun inst => by simpa [need] using h inst, ?_⟩
  intro t ht t' ht' k hn he
  rw [mem_singleton] at ht ht'
  subst ht ht'
  have hex : Exclusive r.code := by
    rcases he with he | he
    · cases he
    · exact ⟨k, he⟩
  cases r with
  | file inst volumeID route body => exact file_shared inst volumeID route body hex
  | mutation inst volumeID n => exact withLock_shared (queries_shared inst n) inst volumeID hex
  | prepare inst id run => exact prepare_flat inst id run k hn

end

/-! ## Every request returns -/

/-- When each request fits into the pools by itself, and a request takes its first connection
only while it is compatible with those under way, every request returns on every schedule. -/
theorem every_request_returns {size : Nat → Nat} {requests : List Request}
    (hsize : ∀ inst, 2 ≤ size inst) (hfit : ∀ r ∈ requests, ∀ inst, r.need inst < size inst) :
    Inevitable (Sys.nextAdmitted size) Sys.returned (issued requests) := by
  refine sched.inevitable_returned
    (sched.Inv.start ?_ ?_ fun inst => lt_of_lt_of_le (by omega) (hsize inst))
  · intro cs hcs
    obtain ⟨r, _, rfl⟩ := mem_map.mp hcs
    exact r.neutral []
  · intro cs hcs
    obtain ⟨r, hr, rfl⟩ := mem_map.mp hcs
    exact r.alone (hfit r hr)

/-- A write with one call of the file server, which sends one notification. -/
def writeRequest (inst : Nat) (volumeID : GoString) : Request :=
  .file inst volumeID { queries := 1, owner := none } [.mutation 1, .query]

def statRequest (inst : Nat) (volumeID : GoString) : Request :=
  .file inst volumeID { queries := 1, owner := none } [.query]

theorem three_requests_return : Inevitable (Sys.nextAdmitted fun _ => 10) Sys.returned
      (issued [writeRequest 0 (lit "v"), writeRequest 1 (lit "v"),
        .prepare 0 (lit "v") (some 1)]) :=
  every_request_returns (fun _ => by omega) fun r _ inst =>
    lt_of_le_of_lt (r.need_le inst) (by omega)

/-- Two reads each have one of two connections and wait for another; a single write has both and
waits for a third; and a portal bind that comes between the two locks of a write stops both. -/
theorem requests_can_deadlock :
    ¬ Inevitable (Sys.next fun _ => 2) Sys.returned
      (issued [statRequest 0 (lit "v"), statRequest 0 (lit "v")]) ∧
      ¬ Inevitable (Sys.next fun _ => 2) Sys.returned (issued [writeRequest 0 (lit "v")]) ∧
      ¬ Inevitable (Sys.next fun _ => 10) Sys.returned
        (issued [writeRequest 0 (lit "v"), .prepare 0 (lit "v") (some 1)]) := by
  refine ⟨?_, ?_, ?_⟩
  · exact sched.not_inevitable [0, 0, 0, 1, 1, 1] (by decide +kernel)
  · exact sched.not_inevitable [0, 0, 0, 0, 0, 0, 0, 0] (by decide +kernel)
  · exact sched.not_inevitable [0, 0, 0, 1, 1, 1, 1, 0, 0, 0, 0] (by decide +kernel)

end sandbox0.volumelock
