-- The delete of a volume in `storage-proxy/pkg/http/handlers_sandboxvolume.go`.
-- The handler looks for active mounts and removes the record in two database
-- steps, and mounts are acquired and renewed by other instances in between.
import Sandbox0.DbMounts

namespace sandbox0.http

open db

/-! ## Requests -/

/-- `const heartbeatTimeout = 15`. -/
def heartbeatTimeout : Int := 15

inductive Route where
  /-- `deleteSandboxVolume`, with the team of the claims. -/
  | sandboxVolume (teamID : Option GoString)
  /-- `deleteSandboxVolumeRecord`. -/
  | record
  deriving DecidableEq

inductive Progress where
  /-- `GetSandboxVolume`. -/
  | get
  /-- `GetSandboxVolumeOwner`. -/
  | owner
  /-- `GetActiveMounts`. -/
  | check
  /-- `DeleteMount` for each of the mounts. -/
  | unmount (mounts : List VolumeMount)
  /-- The transaction with `DeleteSandboxVolumeTx`. -/
  | remove
  deriving DecidableEq

structure Request where
  route : Route
  id : GoString
  force : Bool
  progress : Progress
  deriving DecidableEq

inductive Answer where
  | deleted
  /-- A status and the message, or the error of `deleteSandboxVolumeRecord`. -/
  | error (status : Nat) (message : GoString)
  | returned (err : GoString)
  /-- `volume has active mounts`, with the mounts. -/
  | conflict (mounts : List VolumeMount)

def Answer.notFound : Answer := .error 404 (lit "not found")

def Request.faulted (r : Request) (cause : GoString) : Answer :=
  match r.route, r.progress with
  | .record, .get => .returned (lit "get sandbox volume: " ++ cause)
  | .record, .check => .returned (lit "check active mounts: " ++ cause)
  | .record, .unmount _ => .returned (lit "cleanup mount records: " ++ cause)
  | .record, _ => .returned cause
  | _, .check => .error 500 (lit "failed to check active mounts")
  | _, .unmount _ => .error 500 (lit "failed to cleanup mount records")
  | _, _ => .error 500 (lit "internal server error")

def Request.missing (r : Request) : Answer :=
  match r.route with
  | .sandboxVolume _ => .deleted
  | .record => .returned Err.notFound.text

def Request.inUse (r : Request) (mounts : List VolumeMount) : Answer :=
  match r.route with
  | .sandboxVolume _ => .conflict mounts
  | .record => .returned (lit "volume has active mounts")

def Request.arrive (route : Route) (id : GoString) (force : Bool) : Answer ⊕ Request :=
  match route with
  | .sandboxVolume none => .inl (.error 401 (lit "unauthorized"))
  | .sandboxVolume (some _) =>
    if id = [] then .inl (.error 400 (lit "id is required"))
    else .inr { route, id, force, progress := .get }
  | .record => .inr { route, id, force, progress := .get }

/-! ## The database steps of a request -/

structure Tables where
  db : Database
  /-- `team_id` of `sandbox_volumes`, by `id`. -/
  teams : GoMap GoString GoString
  /-- The keys of `sandbox_volume_owners`. -/
  owners : GoMap GoString Unit

/-- `DELETE FROM sandbox_volumes WHERE id = $1`. The owner goes with it (`ON DELETE
CASCADE`); the mount rows have no foreign key. -/
def Tables.deleteSandboxVolume (t : Tables) (id : GoString) : Tables :=
  { db := { t.db with volumes := t.db.volumes.erase id }
    teams := t.teams.erase id
    owners := t.owners.erase id }

abbrev Turn := Answer ⊕ Progress

/-- After `GetSandboxVolume`. -/
def Request.afterGet (r : Request) (t : Tables) : Turn :=
  match t.db.volumes[r.id]? with
  | none => .inl r.missing
  | some _ =>
    match r.route with
    | .sandboxVolume teamID =>
      if t.teams[r.id]? ≠ teamID then .inl .notFound else .inr .owner
    | .record => .inr .check

/-- After `GetActiveMounts`. -/
def Request.afterCheck (r : Request) (mounts : List VolumeMount) : Turn :=
  if mounts = [] then .inr .remove
  else if r.force then .inr (.unmount mounts)
  else .inl (r.inUse mounts)

/-- One database call that does not fail, the tables after it and what the handler does then. -/
def Request.turn (r : Request) (t : Tables) : Turn × Tables :=
  match r.progress with
  | .get => (r.afterGet t, t)
  | .owner => (if t.owners[r.id]? = none then .inr .check else .inl .notFound, t)
  | .check => (r.afterCheck (t.db.activeMounts r.id heartbeatTimeout), t)
  | .unmount [] => (.inr .remove, t)
  | .unmount (mount :: mounts) =>
    (.inr (.unmount mounts), { t with db := (deleteMount r.id mount.clusterID mount.podID t.db).2 })
  | .remove =>
    match t.db.volumes[r.id]? with
    | none => (.inl r.missing, t)
    | some _ => (.inl .deleted, t.deleteSandboxVolume r.id)

/-- One database call. `isOwnedSandboxVolume` takes every error for "not owned". -/
def Request.step (r : Request) (fault : Option GoString) (t : Tables) : Turn × Tables :=
  match fault with
  | none => r.turn t
  | some cause => (if r.progress = .owner then .inr .check else .inl (r.faulted cause), t)

/-! ## Requests and instances -/

structure World where
  tables : Tables
  requests : GoMap Nat Request
  answers : GoMap Nat Answer

inductive Event where
  | arrive (n : Nat) (route : Route) (id : GoString) (force : Bool)
  | step (n : Nat) (fault : Option GoString)
  /-- A transaction of an instance. An idle direct mount that the handler gives up before its
  check is the `Txn.delete` of its row. -/
  | txn (txn : Txn)

def World.arrive (w : World) (n : Nat) : Answer ⊕ Request → World
  | .inl answer => { w with answers := w.answers.insert n answer }
  | .inr r => { w with requests := w.requests.insert n r }

/-- The call `n` goes on after a database call. -/
def World.turn (w : World) (n : Nat) (r : Request) : Turn × Tables → World
  | (.inl answer, t) =>
    { tables := t, requests := w.requests.erase n, answers := w.answers.insert n answer }
  | (.inr progress, t) =>
    { w with tables := t, requests := w.requests.insert n { r with progress } }

/-- `timeout` is the heartbeat timeout of the instances. -/
def World.next (timeout : Int) (w : World) : Event → World
  | .arrive n route id force =>
    if w.requests[n]? = none then w.arrive n (Request.arrive route id force) else w
  | .step n fault =>
    match w.requests[n]? with
    | none => w
    | some r => w.turn n r (r.step fault w.tables)
  | .txn txn => { w with tables := { w.tables with db := txn.next timeout w.tables.db } }

def World.Started (w : World) : Prop := w.requests = ∅

def Idle (db : Database) (volumeID : GoString) : Prop :=
  ∀ row ∈ db.mounts, row.volumeID = volumeID → ¬ row.Active db.now heartbeatTimeout

instance (db : Database) (volumeID : GoString) : Decidable (Idle db volumeID) :=
  inferInstanceAs (Decidable (∀ row ∈ db.mounts, _ → _))

/-- The transaction writes a row of the volume, new or with a new heartbeat. -/
def Writes (timeout : Int) (db : Database) (volumeID : GoString) (txn : Txn) : Prop :=
  ∃ row ∈ (txn.next timeout db).mounts, row.volumeID = volumeID ∧ row ∉ db.mounts

instance (timeout : Int) (db : Database) (volumeID : GoString) (txn : Txn) :
    Decidable (Writes timeout db volumeID txn) :=
  inferInstanceAs (Decidable (∃ row ∈ (txn.next timeout db).mounts, _ ∧ _))

/-- No instance writes a row of a volume while a delete that is not forced stands between its
check and its removal. -/
def World.Undisturbed (timeout : Int) (w : World) : Event → Prop
  | .txn txn => ∀ p ∈ w.requests.toList, p.2.force = false → p.2.progress = .remove →
      ¬ Writes timeout w.tables.db p.2.id txn
  | _ => True

instance (timeout : Int) (w : World) (e : Event) : Decidable (w.Undisturbed timeout e) := by
  unfold World.Undisturbed
  split <;> infer_instance

def World.Reached (timeout : Int) (ok : World → Event → Prop) : World → Prop :=
  Reach World.Started (fun w e w' => w' = w.next timeout e) ok

/-! ## Transactions of the instances -/

variable {db : Database} {volumeID id : GoString} {r : Request} {fault : Option GoString}
    {t : Tables} {w : World}

lemma Idle.without {p : VolumeMount → Prop} [DecidablePred p]
    (h : Idle db volumeID) : Idle (db.without p) volumeID :=
  fun row hrow => h row (mem_without.mp hrow).1

lemma now_le_txn (timeout : Int) (db : Database) (txn : Txn) :
    db.now ≤ (txn.next timeout db).now := by
  cases txn with
  | acquire mount =>
    exact acquireMount_elim (Q := fun db' => db.now ≤ db'.now) le_rfl fun _ _ _ => le_rfl
  | transfer volumeID sourceClusterID sourcePodID target =>
    exact transferMount_elim (Q := fun db' => db.now ≤ db'.now) le_rfl fun _ _ _ => le_rfl
  | heartbeat fault id clusterID podID =>
    simp only [Txn.next, updateMountHeartbeat]
    split
    · exact le_rfl
    · split <;> exact le_rfl
  | delete | deleteByPod | deleteStale => exact le_rfl
  | wait microseconds =>
    simp only [Txn.next]
    omega

/-- A volume that is not in use stays so until one of its rows is written. -/
lemma Idle.txn {timeout : Int} {txn : Txn} (h : Idle db volumeID)
    (hnot : ¬ Writes timeout db volumeID txn) : Idle (txn.next timeout db) volumeID := by
  intro row hrow hvol hact
  have hold : row ∈ db.mounts := by
    by_contra hnew
    exact hnot ⟨row, hrow, hvol, hnew⟩
  have hnow := now_le_txn timeout db txn
  apply h row hold hvol
  simp only [VolumeMount.Active] at hact ⊢
  omega

/-! ## The invariant -/

/-- A delete that is not forced deletes no mounts, and it is about to remove a record only
when the volume is not in use. -/
structure Request.Checked (db : Database) (r : Request) : Prop where
  unforced : ∀ mounts, r.progress ≠ .unmount mounts
  idle : r.progress = .remove → Idle db r.id

def World.Inv (w : World) : Prop :=
  ∀ (n : Nat) (r : Request), w.requests[n]? = some r → r.force = false → r.Checked w.tables.db

lemma idle_of_activeMounts_nil
    (h : db.activeMounts volumeID heartbeatTimeout = []) : Idle db volumeID := by
  intro row hrow hvol hact
  have hmem := mem_activeMounts.mpr ⟨hrow, hvol, hact⟩
  rw [h] at hmem
  cases hmem

open Request

/-- A step of any request makes no volume busy. -/
lemma Idle.step (h : Idle t.db volumeID) : Idle (r.step fault t).2.db volumeID := by
  cases fault with
  | some cause => exact h
  | none =>
    unfold step turn
    dsimp only
    split
    · exact h
    · exact h
    · exact h
    · exact h
    · exact without h
    · split <;> exact h

lemma Request.Checked.step {progress : Progress}
    (h : r.Checked t.db) (hforce : r.force = false) (hp : (r.step fault t).1 = .inr progress) :
    Checked (r.step fault t).2.db { r with progress } := by
  suffices hnext : (∀ mounts, progress ≠ .unmount mounts) ∧
    (progress = .remove → Idle t.db r.id) from
    ⟨hnext.1, fun hr => (hnext.2 hr).step⟩
  cases fault with
  | some cause =>
    simp only [step] at hp
    split at hp
    · cases hp
      exact ⟨by simp, by simp⟩
    · cases hp
  | none =>
    simp only [step, turn] at hp
    split at hp
    · simp only [afterGet] at hp
      split at hp
      · cases hp
      split at hp
      · split at hp
        · cases hp
        · cases hp
          exact ⟨by simp, by simp⟩
      · cases hp
        exact ⟨by simp, by simp⟩
    · split at hp
      · cases hp
        exact ⟨by simp, by simp⟩
      · cases hp
    · simp only [afterCheck, hforce] at hp
      split at hp
      · rename_i hnil
        cases hp
        exact ⟨by simp, fun _ => idle_of_activeMounts_nil hnil⟩
      · cases hp
    · rename_i hu
      exact absurd hu (h.unforced _)
    · rename_i hu
      exact absurd hu (h.unforced _)
    · split at hp <;> cases hp

open GoMap

lemma World.Inv.arrive {n : Nat} {route : Route} {force : Bool}
    (h : w.Inv) : (w.arrive n (Request.arrive route id force)).Inv := by
  have hnew : ∀ r, Request.arrive route id force = .inr r → r.Checked w.tables.db := by
    intro r hr
    have hget : r.progress = .get := by
      unfold Request.arrive at hr
      split at hr
      · cases hr
      · split at hr
        · cases hr
        · cases hr
          rfl
      · cases hr
        rfl
    exact ⟨by simp [hget], by simp [hget]⟩
  cases harr : Request.arrive route id force with
  | inl answer => exact h
  | inr r => exact GoMap.all_insert (fun _ => hnew _ harr) h

lemma World.Inv.turn {n : Nat} (h : w.Inv)
    (hr : w.requests[n]? = some r) : (w.turn n r (r.step fault w.tables)).Inv := by
  have hother : ∀ (k : Nat) (r' : Request), w.requests[k]? = some r' → r'.force = false →
      r'.Checked (r.step fault w.tables).2.db := by
    intro k r' hr' hforce
    have hc := h k r' hr' hforce
    exact ⟨hc.unforced, fun hp => (hc.idle hp).step⟩
  rcases hstep : r.step fault w.tables with ⟨answer | progress, t⟩
  · rw [hstep] at hother
    intro k r' hr' hforce
    exact hother k r' (of_get_erase hr').2 hforce
  · have hown := fun hforce => (h n r hr hforce).step hforce (by rw [hstep])
    rw [hstep] at hother hown
    exact all_insert hown hother

lemma World.Inv.next {timeout : Int} {e : Event} (h : w.Inv) (hok : w.Undisturbed timeout e) :
    (w.next timeout e).Inv := by
  cases e with
  | arrive n route id force =>
    simp only [World.next]
    split
    · exact h.arrive
    · exact h
  | step n fault =>
    simp only [World.next]
    split
    · exact h
    · rename_i r hr
      exact h.turn hr
  | txn txn =>
    intro n r hr hforce
    have hc := h n r hr hforce
    refine ⟨hc.unforced, fun hp => (hc.idle hp).txn ?_⟩
    exact hok (n, r) ((mem_toList _ _ _).mpr hr) hforce hp

lemma Request.step_volumes (hbefore : t.db.volumes[id]? ≠ none)
    (hafter : (r.step fault t).2.db.volumes[id]? = none) : r.progress = .remove ∧ r.id = id := by
  cases fault with
  | some cause => exact absurd hafter hbefore
  | none =>
    simp only [step, turn] at hafter
    split at hafter
    iterate 5 exact absurd hafter hbefore
    rename_i hp
    refine ⟨hp, ?_⟩
    split at hafter
    · exact absurd hafter hbefore
    · by_contra hne
      simp only [Tables.deleteSandboxVolume, get_erase_ne _ hne] at hafter
      exact hbefore hafter

/-- One RWO volume of the team `t`. -/
def oneVolumeWorld : World :=
  { tables :=
      { db := oneVolume
        teams := (∅ : GoMap GoString GoString).insert (lit "v") (lit "t")
        owners := ∅ }
    requests := ∅
    answers := ∅ }

def deleteOneVolume : Event := .arrive 1 (.sandboxVolume (some (lit "t"))) (lit "v") false

end sandbox0.http
