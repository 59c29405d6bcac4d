-- The mount rows of `storage-proxy/pkg/db/repository.go`. A row is a lease on
-- a volume: an instance takes it, renews it with heartbeats, hands it to
-- another instance or lets it run out.
import Sandbox0.GoCall
import Sandbox0.GoMap
import Sandbox0.GoString
import Sandbox0.SqlTable

namespace sandbox0.db

open Call List

/-! ## Access modes -/

/-- `volume.AccessMode`. -/
inductive AccessMode where
  | rwo
  | rox
  | rwx
  deriving DecidableEq

def AccessMode.text : AccessMode → GoString
  | .rwo => lit "RWO"
  | .rox => lit "ROX"
  | .rwx => lit "RWX"

/-- `volume.ParseAccessMode`. -/
def parseAccessMode (value : GoString) : Option AccessMode :=
  let normalized := toUpper (trimSpace value)
  [AccessMode.rwo, .rox, .rwx].find? (fun mode => normalized = mode.text)

/-- `volume.NormalizeAccessMode`. -/
def normalizeAccessMode (value : GoString) : AccessMode := (parseAccessMode value).getD .rwo

def normalizeMountAccessMode (value : GoString) : AccessMode :=
  if toUpper (trimSpace value) = lit "ROX" then .rox
  else if toUpper (trimSpace value) = lit "RWX" then .rwx
  else .rwo

lemma normalizeMountAccessMode_text (mode : AccessMode) :
    normalizeMountAccessMode mode.text = mode := by
  cases mode <;> decide +kernel

/-! ## Rows -/

/-- `volume.MountOptions`. -/
structure MountOptions where
  accessMode : GoString
  ownerKind : GoString
  ownerPort : Int
  nodeName : GoString
  podNamespace : GoString
  deriving DecidableEq

/-- A `json.RawMessage` in the column `mount_options`. -/
inductive RawMessage where
  /-- What `json.Marshal` makes of options. -/
  | marshaled (options : MountOptions)
  /-- No bytes, or bytes that do not unmarshal. -/
  | malformed
  deriving DecidableEq

def decodeMountAccessMode : Option RawMessage → AccessMode
  | none => .rwo
  | some .malformed => .rwo
  | some (.marshaled options) => normalizeMountAccessMode options.accessMode

/-- A row of `sandbox_volume_mounts`. Times are in microseconds. -/
structure VolumeMount where
  id : GoString
  volumeID : GoString
  clusterID : GoString
  podID : GoString
  lastHeartbeat : Int
  mountedAt : Int
  mountOptions : Option RawMessage
  deriving DecidableEq

namespace VolumeMount

/-- The unique key `(volume_id, cluster_id, pod_id)`. -/
def key (row : VolumeMount) : GoString × GoString × GoString :=
  (row.volumeID, row.clusterID, row.podID)

/-- `WHERE volume_id = $1 AND cluster_id = $2 AND pod_id = $3`. -/
def Of (row : VolumeMount) (volumeID clusterID podID : GoString) : Prop :=
  row.volumeID = volumeID ∧ row.clusterID = clusterID ∧ row.podID = podID

instance (row : VolumeMount) (volumeID clusterID podID : GoString) :
    Decidable (row.Of volumeID clusterID podID) :=
  inferInstanceAs (Decidable (_ ∧ _ ∧ _))

/-- `last_heartbeat > NOW() - INTERVAL '1 second' * $2`. -/
def Active (now heartbeatTimeout : Int) (row : VolumeMount) : Prop :=
  row.lastHeartbeat > now - 1000000 * heartbeatTimeout

instance (now heartbeatTimeout : Int) (row : VolumeMount) :
    Decidable (row.Active now heartbeatTimeout) :=
  inferInstanceAs (Decidable (_ > _))

end VolumeMount

/-- The tables that the mount transactions read and write, and `NOW()`. -/
structure Database where
  now : Int
  /-- `access_mode` of `sandbox_volumes`, by `id`. -/
  volumes : GoMap GoString GoString
  mounts : List VolumeMount

/-- The volume has a record, and its access mode is `mode`. -/
def Database.HasMode (db : Database) (volumeID : GoString) (mode : AccessMode) : Prop :=
  ∃ accessMode, db.volumes[volumeID]? = some accessMode ∧
    normalizeMountAccessMode accessMode = mode

/-! ## Errors -/

inductive Err where
  | mountRequired
  | notFound
  | conflict
  | alreadyMounted (volumeID : GoString)
  | mountedReadWrite (volumeID : GoString)
  | duplicateID
  | targetRequired
  | sourceRequired
  | targetIdentity
  | transferOnlyRWO
  /-- A statement that the database did not run, with the text of its error. -/
  | statement (what : GoString) (cause : GoString)
  deriving DecidableEq

/-- `err.Error()`. -/
def Err.text : Err → GoString
  | .mountRequired => lit "mount is required"
  | .notFound => lit "not found"
  | .conflict => lit "conflict"
  | .alreadyMounted volumeID =>
    lit "conflict: volume " ++ volumeID ++ lit " already mounted on another instance"
  | .mountedReadWrite volumeID =>
    lit "conflict: volume " ++ volumeID ++ lit " already mounted read-write"
  | .duplicateID => lit "create mount: duplicate key value violates unique constraint"
  | .targetRequired => lit "target mount is required"
  | .sourceRequired => lit "volume id and source mount identity are required"
  | .targetIdentity => lit "target mount cluster_id and pod_id are required"
  | .transferOnlyRWO => lit "conflict: transfer mount only supports RWO volumes"
  | .statement what cause => what ++ lit ": " ++ cause

/-! ## Statements -/

/-- `WithTx`: a transaction that ends with an error is rolled back. -/
def withTx {α : Type} (fn : Call Err Database α) : Call Err Database α := fun db =>
  match fn db with
  | (.ok a, db') => (.ok a, db')
  | (r, _) => (r, db)

/-- `SELECT access_mode ... FOR UPDATE`. The lock is the atomicity of the step. -/
def lockVolume (volumeID : GoString) : Call Err Database GoString := fun db =>
  match db.volumes[volumeID]? with
  | some accessMode => (.ok accessMode, db)
  | none => (.err .notFound, db)

/-- The rows that `getActiveMounts` selects, ordered by `mounted_at DESC`. -/
def Database.activeMounts (db : Database) (volumeID : GoString) (heartbeatTimeout : Int) :
    List VolumeMount :=
  (db.mounts.filter (fun row => row.volumeID = volumeID ∧
    row.Active db.now heartbeatTimeout)).insertionSort
    (fun a b => b.mountedAt ≤ a.mountedAt)

def getActiveMounts (volumeID : GoString) (heartbeatTimeout : Int) :
    Call Err Database (List VolumeMount) := fun db =>
  (.ok (db.activeMounts volumeID heartbeatTimeout), db)

/-- `DO UPDATE SET last_heartbeat = $5, mount_options = $7`. -/
def VolumeMount.renewed (row mount : VolumeMount) : VolumeMount :=
  { row with lastHeartbeat := mount.lastHeartbeat, mountOptions := mount.mountOptions }

/-- `INSERT ... ON CONFLICT (volume_id, cluster_id, pod_id) DO UPDATE`. -/
def Database.upsert (db : Database) (mount : VolumeMount) : Database :=
  { db with mounts := sandbox0.upsert VolumeMount.key VolumeMount.renewed mount db.mounts }

/-- Only a new row can clash with the primary key `id`. -/
def createMount (mount : VolumeMount) : Call Err Database Unit := fun db =>
  if (∃ row ∈ db.mounts, row.Of mount.volumeID mount.clusterID mount.podID) ∨
      ∀ row ∈ db.mounts, row.id ≠ mount.id then
    (.ok (), db.upsert mount)
  else (.err .duplicateID, db)

/-- `DELETE FROM sandbox_volume_mounts WHERE ...`. -/
def Database.without (db : Database) (p : VolumeMount → Prop) [DecidablePred p] : Database :=
  { db with mounts := db.mounts.filter (fun row => ¬ p row) }

/-! ## Transactions -/

/-- `if heartbeatTimeout <= 0 { heartbeatTimeout = 15 }`. -/
def timeoutOrDefault (heartbeatTimeout : Int) : Int :=
  if heartbeatTimeout ≤ 0 then 15 else heartbeatTimeout

/-- The switch of `AcquireMount` over the access mode. -/
def checkAccess (accessMode : AccessMode) (mount : VolumeMount) (activeMounts : List VolumeMount) :
    Call Err Database Unit :=
  match accessMode with
  | .rwo =>
    Call.failIf (∃ active ∈ activeMounts,
      ¬ (active.clusterID = mount.clusterID ∧ active.podID = mount.podID))
      (.alreadyMounted mount.volumeID)
  | .rox =>
    Call.failIf (∃ active ∈ activeMounts, decodeMountAccessMode active.mountOptions ≠ .rox)
      (.mountedReadWrite mount.volumeID)
  | .rwx => pure ()

def acquireMount (mount : Option VolumeMount) (heartbeatTimeout : Int) : Call Err Database Unit :=
  match mount with
  | none => Call.fail .mountRequired
  | some mount => withTx do
    let accessMode ← lockVolume mount.volumeID
    let activeMounts ← getActiveMounts mount.volumeID (timeoutOrDefault heartbeatTimeout)
    checkAccess (normalizeMountAccessMode accessMode) mount activeMounts
    createMount mount

/-- `fault` is the text of an error of the database itself. -/
def updateMountHeartbeat (fault : Option GoString) (volumeID clusterID podID : GoString) :
    Call Err Database Unit := fun db =>
  match fault with
  | some cause => (.err (.statement (lit "update mount heartbeat") cause), db)
  | none =>
    if ∃ row ∈ db.mounts, row.Of volumeID clusterID podID then
      (.ok (), { db with
        mounts := db.mounts.map (fun row =>
          if row.Of volumeID clusterID podID then { row with lastHeartbeat := db.now } else row) })
    else (.err .notFound, db)

def deleteMount (volumeID clusterID podID : GoString) : Call Err Database Unit :=
  Call.update (fun db => db.without (fun row => row.Of volumeID clusterID podID))

def deleteMountByPodID (clusterID podID : GoString) : Call Err Database Unit :=
  Call.update (fun db => db.without (fun row => row.clusterID = clusterID ∧ row.podID = podID))

/-- This one takes the timeout as it is. -/
def deleteStaleMounts (heartbeatTimeout : Int) : Call Err Database Unit :=
  Call.update (fun db =>
    db.without (fun row => row.lastHeartbeat < db.now - 1000000 * heartbeatTimeout))

def VolumeMount.Between (active : VolumeMount) (sourceClusterID sourcePodID : GoString)
    (target : VolumeMount) : Prop :=
  active.clusterID = sourceClusterID ∧ active.podID = sourcePodID ∨
    active.clusterID = target.clusterID ∧ active.podID = target.podID

instance (active : VolumeMount) (sourceClusterID sourcePodID : GoString) (target : VolumeMount) :
    Decidable (active.Between sourceClusterID sourcePodID target) :=
  inferInstanceAs (Decidable (_ ∨ _))

/-- The transaction of `TransferMount`. The volume of `target` is not compared
with `volumeID`. -/
def transferTx (volumeID sourceClusterID sourcePodID : GoString) (target : VolumeMount)
    (heartbeatTimeout : Int) : Call Err Database Unit := withTx do
  let accessMode ← lockVolume volumeID
  Call.failIf (normalizeMountAccessMode accessMode ≠ .rwo) .transferOnlyRWO
  let activeMounts ← getActiveMounts volumeID (timeoutOrDefault heartbeatTimeout)
  Call.failIf (∃ active ∈ activeMounts, ¬ active.Between sourceClusterID sourcePodID target)
    (.alreadyMounted volumeID)
  Call.failIf (¬ ∃ active ∈ activeMounts,
    active.clusterID = sourceClusterID ∧ active.podID = sourcePodID) .conflict
  deleteMount volumeID sourceClusterID sourcePodID
  createMount target

def transferMount (volumeID sourceClusterID sourcePodID : GoString) (target : Option VolumeMount)
    (heartbeatTimeout : Int) : Call Err Database Unit :=
  match target with
  | none => Call.fail .targetRequired
  | some target => do
    Call.failIf (trimSpace volumeID = [] ∨ trimSpace sourceClusterID = [] ∨
      trimSpace sourcePodID = []) .sourceRequired
    Call.failIf (trimSpace target.clusterID = [] ∨ trimSpace target.podID = []) .targetIdentity
    transferTx volumeID sourceClusterID sourcePodID target heartbeatTimeout

/-! ## What the statements do to the rows -/

variable {db db' : Database} {volumeID : GoString} {heartbeatTimeout : Int}
    {row mount : VolumeMount} {Q : Database → Prop} {target : Option VolumeMount}

lemma mem_activeMounts : row ∈ db.activeMounts volumeID heartbeatTimeout ↔
      row ∈ db.mounts ∧ row.volumeID = volumeID ∧ row.Active db.now heartbeatTimeout := by
  unfold Database.activeMounts
  rw [mem_insertionSort, mem_filter]
  simp

lemma mem_without {p : VolumeMount → Prop} [DecidablePred p] :
    row ∈ (db.without p).mounts ↔ row ∈ db.mounts ∧ ¬ p row := by
  unfold Database.without
  simp [mem_filter]

@[simp] lemma without_now (db : Database) (p : VolumeMount → Prop) [DecidablePred p] :
    (db.without p).now = db.now := rfl

@[simp] lemma upsert_now (db : Database) (mount : VolumeMount) :
    (db.upsert mount).now = db.now := rfl

@[simp] lemma upsert_volumes (db : Database) (mount : VolumeMount) :
    (db.upsert mount).volumes = db.volumes := rfl

open VolumeMount

lemma VolumeMount.key_eq_iff {a b : VolumeMount} :
    a.key = b.key ↔ a.Of b.volumeID b.clusterID b.podID := by
  simp [key, Of]

/-- A row after the upsert is an old row of another key, or the row of the
key with the mount's heartbeat and options. -/
lemma of_mem_upsert_mount (h : row ∈ (db.upsert mount).mounts) :
    row ∈ db.mounts ∧ ¬ row.Of mount.volumeID mount.clusterID mount.podID ∨
      row.Of mount.volumeID mount.clusterID mount.podID ∧
        row.lastHeartbeat = mount.lastHeartbeat ∧ row.mountOptions = mount.mountOptions := by
  rcases of_mem_upsert h with ⟨hold, hkey⟩ | ⟨old, _, hkey, rfl⟩ | rfl
  · exact .inl ⟨hold, fun hof => hkey (key_eq_iff.mpr hof)⟩
  · exact .inr ⟨key_eq_iff.mp hkey, rfl, rfl⟩
  · exact .inr ⟨⟨rfl, rfl, rfl⟩, rfl, rfl⟩

lemma withTx_elim {α : Type} {fn : Call Err Database α} (h0 : Q db)
    (h1 : ∀ a db', fn db = (.ok a, db') → Q db') : Q (withTx fn db).2 := by
  unfold withTx
  rcases hfn : fn db with ⟨a | e | _, db'⟩
  · exact h1 a db' hfn
  · exact h0
  · exact h0

lemma withTx_fst {α : Type} (fn : Call Err Database α) (db : Database) :
    (withTx fn db).1 = (fn db).1 := by
  unfold withTx
  rcases fn db with ⟨a | e | _, db'⟩ <;> rfl

lemma createMount_ok (h : createMount mount db = (.ok (), db')) : db' = db.upsert mount := by
  unfold createMount at h
  split at h
  · cases h; rfl
  · cases h

lemma lockVolume_ok {accessMode : GoString} (h : lockVolume volumeID db = (.ok accessMode, db')) :
    db.volumes[volumeID]? = some accessMode ∧ db' = db := by
  unfold lockVolume at h
  split at h
  · rename_i hmode
    cases h
    exact ⟨hmode, rfl⟩
  · cases h

/-- The access mode admits the mount next to the active rows. -/
def AccessMode.Admits (mount : VolumeMount) (activeMounts : List VolumeMount) : AccessMode → Prop
  | .rwo => ∀ active ∈ activeMounts,
      active.clusterID = mount.clusterID ∧ active.podID = mount.podID
  | .rox => ∀ active ∈ activeMounts, decodeMountAccessMode active.mountOptions = .rox
  | .rwx => True

/-- The volume of the mount has a record whose access mode admits the mount. -/
def Admitted (db : Database) (mount : VolumeMount) (heartbeatTimeout : Int) : Prop :=
  ∃ accessMode, db.volumes[mount.volumeID]? = some accessMode ∧
    (normalizeMountAccessMode accessMode).Admits mount
      (db.activeMounts mount.volumeID heartbeatTimeout)

lemma checkAccess_ok {accessMode : AccessMode} {rows : List VolumeMount}
    (h : checkAccess accessMode mount rows db = (.ok (), db')) :
    db' = db ∧ accessMode.Admits mount rows := by
  cases accessMode with
  | rwo | rox =>
    obtain ⟨hc, hdb⟩ := of_failIf_ok h
    exact ⟨hdb, fun active ha => by_contra (fun hn => hc ⟨active, ha, hn⟩)⟩
  | rwx => cases h; exact ⟨rfl, trivial⟩

/-- `AcquireMount` changes nothing or writes the row of an admitted mount. -/
lemma acquireMount_elim {mount : Option VolumeMount} (h0 : Q db)
    (h1 : ∀ m, mount = some m → Admitted db m (timeoutOrDefault heartbeatTimeout) →
      Q (db.upsert m)) : Q (acquireMount mount heartbeatTimeout db).2 := by
  cases mount with
  | none => exact h0
  | some m =>
    apply withTx_elim h0
    intro a db' h
    obtain ⟨accessMode, db1, hlock, h2⟩ := Call.of_bind_ok h
    obtain ⟨hmode, rfl⟩ := lockVolume_ok hlock
    obtain ⟨rows, db2, hrows, h3⟩ := Call.of_bind_ok h2
    cases hrows
    obtain ⟨_, db3, hcheck, h4⟩ := Call.of_bind_ok h3
    obtain ⟨rfl, hadm⟩ := checkAccess_ok hcheck
    rw [createMount_ok h4]
    exact h1 m rfl ⟨accessMode, hmode, hadm⟩

/-- The rows of the volume that are active belong to the source or the target. -/
def Transferable (db : Database) (volumeID sourceClusterID sourcePodID : GoString)
    (target : VolumeMount) (heartbeatTimeout : Int) : Prop :=
  ∀ active ∈ db.activeMounts volumeID heartbeatTimeout,
    active.Between sourceClusterID sourcePodID target

/-- `TransferMount` changes nothing or puts the target's row in the place of
the source's. -/
lemma transferMount_elim {sourceClusterID sourcePodID : GoString} (h0 : Q db)
    (h1 : ∀ t, target = some t →
      Transferable db volumeID sourceClusterID sourcePodID t (timeoutOrDefault heartbeatTimeout) →
      Q ((db.without (fun row => row.Of volumeID sourceClusterID sourcePodID)).upsert t)) :
    Q (transferMount volumeID sourceClusterID sourcePodID target heartbeatTimeout db).2 := by
  cases target with
  | none => exact h0
  | some t =>
    apply failIf_elim h0
    intro _
    apply failIf_elim h0
    intro _
    apply withTx_elim h0
    intro a db' h
    obtain ⟨accessMode, db1, hlock, h2⟩ := Call.of_bind_ok h
    obtain ⟨_, rfl⟩ := lockVolume_ok hlock
    obtain ⟨_, db2, hmode, h3⟩ := Call.of_bind_ok h2
    obtain ⟨_, rfl⟩ := of_failIf_ok hmode
    obtain ⟨rows, db3, hrows, h4⟩ := Call.of_bind_ok h3
    cases hrows
    obtain ⟨_, db4, hothers, h5⟩ := Call.of_bind_ok h4
    obtain ⟨hothers, rfl⟩ := of_failIf_ok hothers
    obtain ⟨_, db5, hsource, h6⟩ := Call.of_bind_ok h5
    obtain ⟨_, rfl⟩ := of_failIf_ok hsource
    rw [deleteMount, bind_update_run] at h6
    rw [createMount_ok h6]
    exact h1 t rfl (fun active ha => by_contra (fun hn => hothers ⟨active, ha, hn⟩))

/-! ## Runs of transactions -/

/-- A transaction of some instance, or time that passes. -/
inductive Txn where
  | acquire (mount : Option VolumeMount)
  | transfer (volumeID sourceClusterID sourcePodID : GoString) (target : Option VolumeMount)
  | heartbeat (fault : Option GoString) (volumeID clusterID podID : GoString)
  | delete (volumeID clusterID podID : GoString)
  | deleteByPod (clusterID podID : GoString)
  | deleteStale (heartbeatTimeout : Int)
  | wait (microseconds : Nat)

/-- The tables after the transaction. All instances use one heartbeat timeout. -/
def Txn.next (heartbeatTimeout : Int) (db : Database) : Txn → Database
  | .acquire mount => (acquireMount mount heartbeatTimeout db).2
  | .transfer volumeID sourceClusterID sourcePodID target =>
    (transferMount volumeID sourceClusterID sourcePodID target heartbeatTimeout db).2
  | .heartbeat fault volumeID clusterID podID =>
    (updateMountHeartbeat fault volumeID clusterID podID db).2
  | .delete volumeID clusterID podID => (deleteMount volumeID clusterID podID db).2
  | .deleteByPod clusterID podID => (deleteMountByPodID clusterID podID db).2
  | .deleteStale timeout => (deleteStaleMounts timeout db).2
  | .wait microseconds => { db with now := db.now + microseconds }

def Unmounted (db : Database) : Prop := db.mounts = []

/-- Two active rows of one RWO volume have the same cluster and pod. -/
def SingleOwner (heartbeatTimeout : Int) (db : Database) : Prop :=
  ∀ a ∈ db.mounts, ∀ b ∈ db.mounts, a.volumeID = b.volumeID → db.HasMode a.volumeID .rwo →
    a.Active db.now (timeoutOrDefault heartbeatTimeout) →
    b.Active db.now (timeoutOrDefault heartbeatTimeout) →
    a.clusterID = b.clusterID ∧ a.podID = b.podID

/-- A heartbeat comes while no other instance holds the RWO volume, and a
transfer names one volume. -/
def Txn.Orderly (heartbeatTimeout : Int) (db : Database) : Txn → Prop
  | .heartbeat none volumeID clusterID podID =>
    (∃ row ∈ db.mounts, row.Of volumeID clusterID podID) → db.HasMode volumeID .rwo →
      ∀ other ∈ db.mounts, other.volumeID = volumeID →
        other.Active db.now (timeoutOrDefault heartbeatTimeout) →
        other.clusterID = clusterID ∧ other.podID = podID
  | .transfer volumeID _ _ target => ∀ t, target = some t → t.volumeID = volumeID
  | _ => True

section

variable (h : SingleOwner heartbeatTimeout db)

include h

/-- The owner of each active row of an RWO volume is `(clusterID, podID)`
once every active row of the volume is so before the upsert. -/
lemma SingleOwner.upsert
    (hm : db.HasMode mount.volumeID .rwo → ∀ row ∈ db.mounts, row.volumeID = mount.volumeID →
      row.Active db.now (timeoutOrDefault heartbeatTimeout) →
      row.clusterID = mount.clusterID ∧ row.podID = mount.podID) :
    SingleOwner heartbeatTimeout (db.upsert mount) := by
  intro a ha b hb hab hmode hact hbct
  rw [upsert_now] at hact hbct
  have hmode' : db.HasMode a.volumeID .rwo := by
    obtain ⟨accessMode, hm, hn⟩ := hmode
    exact ⟨accessMode, by rwa [upsert_volumes] at hm, hn⟩
  -- a row of the mount's volume belongs to the mount's owner, old or new
  have howner : ∀ row ∈ (db.upsert mount).mounts, row.volumeID = mount.volumeID →
      db.HasMode mount.volumeID .rwo → row.Active db.now (timeoutOrDefault heartbeatTimeout) →
      row.clusterID = mount.clusterID ∧ row.podID = mount.podID := by
    intro row hrow hvol hrwo hract
    rcases of_mem_upsert_mount hrow with ⟨hold, _⟩ | ⟨hkey, _⟩
    · exact hm hrwo row hold hvol hract
    · exact hkey.2
  by_cases hvol : a.volumeID = mount.volumeID
  · have h1 := howner a ha hvol (hvol ▸ hmode') hact
    have h2 := howner b hb (hab ▸ hvol) (hvol ▸ hmode') hbct
    exact ⟨h1.1.trans h2.1.symm, h1.2.trans h2.2.symm⟩
  have hold : ∀ row ∈ (db.upsert mount).mounts, row.volumeID = a.volumeID → row ∈ db.mounts := by
    intro row hrow hrv
    rcases of_mem_upsert_mount hrow with ⟨hold, _⟩ | ⟨hkey, _⟩
    · exact hold
    · exact absurd (hrv.symm.trans hkey.1) hvol
  exact h a (hold a ha rfl) b (hold b hb hab.symm) hab hmode' hact hbct

lemma SingleOwner.without {p : VolumeMount → Prop} [DecidablePred p] :
    SingleOwner heartbeatTimeout (db.without p) :=
  fun a ha b hb => h a (mem_without.mp ha).1 b (mem_without.mp hb).1

lemma SingleOwner.wait (microseconds : Nat) :
    SingleOwner heartbeatTimeout { db with now := db.now + microseconds } := by
  intro a ha b hb hab hmode hact hbct
  have hearlier : ∀ row : VolumeMount,
      row.Active (db.now + microseconds) (timeoutOrDefault heartbeatTimeout) →
      row.Active db.now (timeoutOrDefault heartbeatTimeout) := by
    intro row hrow
    unfold Active at *
    omega
  exact h a ha b hb hab hmode (hearlier a hact) (hearlier b hbct)

lemma SingleOwner.heartbeat {fault : Option GoString} {clusterID podID : GoString}
    (hok : Txn.Orderly heartbeatTimeout db (.heartbeat fault volumeID clusterID podID)) :
    SingleOwner heartbeatTimeout (updateMountHeartbeat fault volumeID clusterID podID db).2 := by
  cases fault with
  | some cause => exact h
  | none =>
    by_cases hrow : ∃ row ∈ db.mounts, row.Of volumeID clusterID podID
    · simp only [updateMountHeartbeat, if_pos hrow]
      intro a ha b hb hab hmode hact hbct
      obtain ⟨a0, ha0, rfl⟩ := mem_map.mp ha
      obtain ⟨b0, hb0, rfl⟩ := mem_map.mp hb
      by_cases hka : a0.Of volumeID clusterID podID
      · by_cases hkb : b0.Of volumeID clusterID podID
        · simp only [if_pos hka, if_pos hkb]
          exact ⟨hka.2.1.trans hkb.2.1.symm, hka.2.2.trans hkb.2.2.symm⟩
        · simp only [if_pos hka, if_neg hkb] at hab hmode hbct ⊢
          have hb := hok hrow (hka.1 ▸ hmode) b0 hb0 (hab.symm.trans hka.1) hbct
          exact ⟨hka.2.1.trans hb.1.symm, hka.2.2.trans hb.2.symm⟩
      · by_cases hkb : b0.Of volumeID clusterID podID
        · simp only [if_neg hka, if_pos hkb] at hab hmode hact ⊢
          have ha := hok hrow (hab.trans hkb.1 ▸ hmode) a0 ha0 (hab.trans hkb.1) hact
          exact ⟨ha.1.trans hkb.2.1.symm, ha.2.trans hkb.2.2.symm⟩
        · simp only [if_neg hka, if_neg hkb] at hab hmode hact hbct ⊢
          exact h a0 ha0 b0 hb0 hab hmode hact hbct
    · simp only [updateMountHeartbeat, if_neg hrow]
      exact h

lemma SingleOwner.acquire {mount : Option VolumeMount} :
    SingleOwner heartbeatTimeout (acquireMount mount heartbeatTimeout db).2 := by
  apply acquireMount_elim h
  rintro m - ⟨accessMode, hmode, hadm⟩
  apply h.upsert
  rintro ⟨accessMode', hmode', hrwo⟩ row hrow hvol hact
  cases hmode.symm.trans hmode'
  rw [hrwo] at hadm
  exact hadm row (mem_activeMounts.mpr ⟨hrow, hvol, hact⟩)

lemma SingleOwner.transfer {sourceClusterID sourcePodID : GoString}
    (ht : ∀ t, target = some t → t.volumeID = volumeID) : SingleOwner heartbeatTimeout
      (transferMount volumeID sourceClusterID sourcePodID target heartbeatTimeout db).2 := by
  apply transferMount_elim h
  intro t hsome htrans
  have hvolume := ht t hsome
  apply upsert (without h)
  intro _ row hrow hvol hact
  obtain ⟨hrow, hnot⟩ := mem_without.mp hrow
  rw [without_now] at hact
  rcases htrans row (mem_activeMounts.mpr ⟨hrow, hvol.trans hvolume, hact⟩) with hsrc | htgt
  · exact absurd ⟨hvol.trans hvolume, hsrc⟩ hnot
  · exact htgt

end

/-- An RWO volume never has two owners, in runs whose heartbeats come while
no other instance holds the volume. -/
theorem rwo_volume_has_one_owner (heartbeatTimeout : Int) {db : Database}
    (h : Reach Unmounted (fun db txn db' => db' = Txn.next heartbeatTimeout db txn)
      (Txn.Orderly heartbeatTimeout) db) : SingleOwner heartbeatTimeout db := by
  refine Reach.keeps ?_ ?_ h
  · intro db hdb a ha
    rw [hdb] at ha
    cases ha
  · intro db txn hdb hok
    cases txn with
    | acquire mount => exact hdb.acquire
    | transfer volumeID sourceClusterID sourcePodID target => exact hdb.transfer hok
    | heartbeat fault volumeID clusterID podID => exact hdb.heartbeat hok
    | delete | deleteByPod | deleteStale => exact SingleOwner.without hdb
    | wait microseconds => exact hdb.wait microseconds

def oneVolume : Database :=
  { now := 0, volumes := (∅ : GoMap GoString GoString).insert (lit "v") (lit "RWO"), mounts := [] }

def mountBy (pod : String) (now : Int) : VolumeMount :=
  { id := lit pod, volumeID := lit "v", clusterID := lit "c", podID := lit pod
    lastHeartbeat := now, mountedAt := now, mountOptions := none }

/-- Pod `a` mounts, renews and hands over to pod `b`. -/
def orderlyRun : List Txn :=
  [.acquire (some (mountBy "a" 0)), .wait 5000000, .heartbeat none (lit "v") (lit "c") (lit "a"),
    .transfer (lit "v") (lit "c") (lit "a") (some (mountBy "b" 5000000))]

theorem rwo_volume_has_one_owner_after_a_transfer :
    SingleOwner 15 (orderlyRun.foldl (Txn.next 15) oneVolume) := by
  have h0 : Unmounted oneVolume := rfl
  apply rwo_volume_has_one_owner
  apply Reach.run (.start h0)
  refine ⟨trivial, trivial, ?_, ?_, trivial⟩
  · rintro - - other hother - -
    revert other
    decide +kernel
  · rintro t ht
    cases ht
    rfl

/-- Pod `a` is late, pod `b` mounts, and then the heartbeat of `a` comes. -/
def lateHeartbeat : List Txn :=
  [.acquire (some (mountBy "a" 0)), .wait 20000000, .acquire (some (mountBy "b" 20000000)),
    .heartbeat none (lit "v") (lit "c") (lit "a")]

theorem late_heartbeat_makes_two_owners :
    ∃ db, Reach Unmounted (fun db txn db' => db' = Txn.next 15 db txn) (fun _ _ => True) db ∧
      ¬ SingleOwner 15 db := by
  have h0 : Unmounted oneVolume := rfl
  refine ⟨lateHeartbeat.foldl (Txn.next 15) oneVolume, ?_, ?_⟩
  · exact Reach.run (.start h0) lateHeartbeat ⟨trivial, trivial, trivial, trivial, trivial⟩
  · intro h
    have h2 := h { mountBy "a" 0 with lastHeartbeat := 20000000 } (by decide +kernel)
      (mountBy "b" 20000000) (by decide +kernel) rfl
        ⟨lit "RWO", by decide +kernel, by decide +kernel⟩
      (by decide +kernel) (by decide +kernel)
    exact absurd h2.2 (by decide +kernel)

end sandbox0.db
