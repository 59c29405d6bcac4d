-- Mount registration of `storage-proxy/pkg/coordinator/coordinator.go`. Each
-- coordinator keeps the set of volumes it has mounted, writes a mount row for
-- each, and in each heartbeat round renews the rows and writes lost ones again.
import Sandbox0.DbMounts

namespace sandbox0.coordinator

open db

/-! ## One coordinator -/

/-- Where `updateHeartbeats` stands. -/
inductive Round where
  | beat (volumes : List GoString)
  /-- The row was not found, and the volume is still in the set. -/
  | forget (volumeID : GoString) (volumes : List GoString)
  /-- Before the call of `RegisterMount`. -/
  | reregister (volumeID : GoString) (volumes : List GoString)
  deriving DecidableEq

structure Coordinator where
  clusterID : GoString
  podID : GoString
  /-- `config.HeartbeatTimeout`. -/
  heartbeatTimeout : Int
  /-- `config.HTTPPort`. -/
  httpPort : Int
  mountedVolumes : GoMap GoString Unit
  /-- The heartbeat goroutine runs one round at a time. -/
  round : Option Round

structure Session where
  own : Coordinator
  db : Database

/-- `normalizedOptions` of `RegisterMount`. -/
def Coordinator.normalizedOptions (c : Coordinator) (options : MountOptions) : MountOptions :=
  { options with
    accessMode := (normalizeAccessMode options.accessMode).text
    ownerKind := if options.ownerKind = [] then lit "storage-proxy" else options.ownerKind
    ownerPort := if options.ownerPort = 0 ∧ c.httpPort > 0 then c.httpPort else options.ownerPort }

/-- `c.config.HeartbeatTimeout`, or the constant `HeartbeatTimeout`. -/
def Coordinator.timeout (c : Coordinator) : Int :=
  if c.heartbeatTimeout = 0 then 15 else c.heartbeatTimeout

/-- What the clock and the random source of the process give to a call. -/
structure Fresh where
  id : GoString
  lastHeartbeat : Int
  mountedAt : Int

/-- The row that `RegisterMount` asks for. -/
def Coordinator.mount (c : Coordinator) (fresh : Fresh) (volumeID : GoString)
    (options : MountOptions) : VolumeMount :=
  { id := fresh.id, volumeID := volumeID, clusterID := c.clusterID, podID := c.podID
    lastHeartbeat := fresh.lastHeartbeat, mountedAt := fresh.mountedAt
    mountOptions := some (.marshaled (c.normalizedOptions options)) }

/-- The lock of the coordinator is held to the end, so the call is one step. -/
def registerMount (fresh : Fresh) (volumeID : GoString) (options : MountOptions) :
    Call Err Session Unit := fun s =>
  match s.own.mountedVolumes[volumeID]? with
  | some _ => (.ok (), s)
  | none =>
    match acquireMount (some (s.own.mount fresh volumeID options)) s.own.timeout s.db with
    | (.ok _, db') =>
      (.ok (), ⟨{ s.own with
        mountedVolumes := s.own.mountedVolumes.insert volumeID () }, db'⟩)
    | (.err e, db') => (.err (.statement (lit "acquire mount") e.text), ⟨s.own, db'⟩)
    | (.panic, db') => (.panic, ⟨s.own, db'⟩)

def unregisterMount (volumeID : GoString) : Call Err Session Unit := fun s =>
  match s.own.mountedVolumes[volumeID]? with
  | none => (.ok (), s)
  | some _ =>
    let c := s.own
    (.ok (), ⟨{ c with mountedVolumes := c.mountedVolumes.erase volumeID },
      (deleteMount volumeID c.clusterID c.podID s.db).2⟩)

/-! ## A heartbeat round -/

/-- The start of `updateHeartbeats`: it copies the keys of the set, in any order. -/
def startRound (volumes : List GoString) (s : Session) : Session :=
  if s.own.round = none ∧ volumes.Perm (s.own.mountedVolumes.toList.map Prod.fst) then
    ⟨{ s.own with round := some (.beat volumes) }, s.db⟩
  else s

/-- What the turn for a volume does after `UpdateMountHeartbeat`. -/
def afterBeat (volumeID : GoString) (volumes : List GoString) : Outcome Err Unit → Round
  | .err e => if contains e.text (lit "not found") then .forget volumeID volumes else .beat volumes
  | _ => .beat volumes

/-- One step of the round. The set is not locked between two steps. -/
def stepRound (fault : Option GoString) (fresh : Fresh) (s : Session) : Session :=
  let c := s.own
  match c.round with
  | none => s
  | some (.beat []) => ⟨{ c with round := none }, s.db⟩
  | some (.beat (volumeID :: volumes)) =>
    let r := updateMountHeartbeat fault volumeID c.clusterID c.podID s.db
    ⟨{ c with round := some (afterBeat volumeID volumes r.1) }, r.2⟩
  | some (.forget volumeID volumes) =>
    ⟨{ c with
      mountedVolumes := c.mountedVolumes.erase volumeID
      round := some (.reregister volumeID volumes) }, s.db⟩
  | some (.reregister volumeID volumes) =>
    -- `volume.MountOptions{}`: the options of the lost row are not known here
    let s' := (registerMount fresh volumeID ⟨[], [], 0, [], []⟩ s).2
    ⟨{ s'.own with round := some (.beat volumes) }, s'.db⟩

/-! ## All coordinators -/

structure World where
  db : Database
  coordinators : GoMap Nat Coordinator

inductive Event where
  | register (i : Nat) (fresh : Fresh) (volumeID : GoString) (options : MountOptions)
  | unregister (i : Nat) (volumeID : GoString)
  | tick (i : Nat) (volumes : List GoString)
  | turn (i : Nat) (fault : Option GoString) (fresh : Fresh)
  /-- A row goes away underneath the coordinators. -/
  | lose (volumeID clusterID podID : GoString)
  | wait (microseconds : Nat)

/-- A step of the coordinator `i`. -/
def World.on (w : World) (i : Nat) (f : Session → Session) : World :=
  match w.coordinators[i]? with
  | none => w
  | some c =>
    let s := f ⟨c, w.db⟩
    { db := s.db, coordinators := w.coordinators.insert i s.own }

def Event.next (w : World) : Event → World
  | .register i fresh volumeID options =>
    w.on i (fun s => (registerMount fresh volumeID options s).2)
  | .unregister i volumeID => w.on i (fun s => (unregisterMount volumeID s).2)
  | .tick i volumes => w.on i (startRound volumes)
  | .turn i fault fresh => w.on i (stepRound fault fresh)
  | .lose volumeID clusterID podID =>
    { w with db := (deleteMount volumeID clusterID podID w.db).2 }
  | .wait microseconds => { w with db := { w.db with now := w.db.now + microseconds } }

def Started (w : World) : Prop :=
  w.db.mounts = [] ∧
    ∀ (i : Nat) (c : Coordinator), w.coordinators[i]? = some c → c.mountedVolumes = ∅ ∧
    c.round = none

/-- The caller of `RegisterMount` passes the access mode of the volume. -/
def Event.OwnMode (w : World) : Event → Prop
  | .register _ _ volumeID options => ∀ accessMode, w.db.volumes[volumeID]? = some accessMode →
      normalizeAccessMode options.accessMode = normalizeMountAccessMode accessMode
  | _ => True

/-- The heartbeat finds its row, or it ends with an error that does not read
like a lost row. -/
def Found (db : Database) (c : Coordinator) (fault : Option GoString)
    (volumeID : GoString) : Prop :=
  match fault with
  | none => ∃ row ∈ db.mounts, row.Of volumeID c.clusterID c.podID
  | some cause =>
    contains (Err.statement (lit "update mount heartbeat") cause).text (lit "not found") = false

/-- A heartbeat for a ROX volume finds its row. -/
def Event.RowFound (w : World) : Event → Prop
  | .turn i fault _ => ∀ (c : Coordinator) (volumeID : GoString) (volumes : List GoString),
      w.coordinators[i]? = some c → c.round = some (.beat (volumeID :: volumes)) →
      w.db.HasMode volumeID .rox → Found w.db c fault volumeID
  | _ => True

/-! ## The access mode of the rows -/

def RowsROX (db : Database) : Prop :=
  ∀ row ∈ db.mounts, db.HasMode row.volumeID .rox → decodeMountAccessMode row.mountOptions = .rox

/-- The round is not about to write the row of a ROX volume again. -/
def Round.Sure (db : Database) : Round → Prop
  | .beat _ => True
  | .forget volumeID _ => ¬ db.HasMode volumeID .rox
  | .reregister volumeID _ => ¬ db.HasMode volumeID .rox

/-- The session keeps the volumes of the database and the access mode of the rows. -/
structure Keeps (s s' : Session) : Prop where
  volumes : s'.db.volumes = s.db.volumes
  rows : RowsROX s'.db
  round : ∀ r, s'.own.round = some r → r.Sure s.db

variable {db : Database} {volumeID : GoString} {s : Session} {w : World}

lemma HasMode.congr {db' : Database} (h : db'.volumes = db.volumes) {mode : AccessMode} :
    db'.HasMode volumeID mode ↔ db.HasMode volumeID mode := by
  unfold Database.HasMode
  rw [h]

lemma Round.Sure.congr {db' : Database} (h : db'.volumes = db.volumes) {r : Round}
    (hr : r.Sure db) : r.Sure db' := by
  cases r with
  | beat volumes => trivial
  | forget | reregister => exact fun hm => hr ((HasMode.congr h).mp hm)

lemma RowsROX.without {p : VolumeMount → Prop} [DecidablePred p] (h : RowsROX db) :
    RowsROX (db.without p) :=
  fun row hrow => h row (mem_without.mp hrow).1

lemma RowsROX.acquire (h : RowsROX db) (mount : VolumeMount) (timeout : Int)
    (hm : db.HasMode mount.volumeID .rox → decodeMountAccessMode mount.mountOptions = .rox) :
    RowsROX (acquireMount (some mount) timeout db).2 := by
  apply acquireMount_elim h
  rintro m hsome -
  cases hsome
  intro row hrow hmode
  rw [HasMode.congr (upsert_volumes db mount)] at hmode
  rcases of_mem_upsert_mount hrow with ⟨hold, _⟩ | ⟨hkey, _, hopt⟩
  · exact h row hold hmode
  · rw [hopt]
    exact hm (hkey.1 ▸ hmode)

lemma acquireMount_volumes (mount : Option VolumeMount) (timeout : Int) (db : Database) :
    (acquireMount mount timeout db).2.volumes = db.volumes := by
  apply acquireMount_elim (Q := fun db' : Database => db'.volumes = db.volumes) rfl
  intro m _ _
  exact upsert_volumes db m

lemma RowsROX.heartbeat (h : RowsROX db) (fault : Option GoString)
    (volumeID clusterID podID : GoString) :
    RowsROX (updateMountHeartbeat fault volumeID clusterID podID db).2 := by
  cases fault with
  | some cause => exact h
  | none =>
    unfold updateMountHeartbeat
    dsimp only
    split
    · intro row hrow hmode
      obtain ⟨old, hold, rfl⟩ := List.mem_map.mp hrow
      have hopt : (if old.Of volumeID clusterID podID then { old with lastHeartbeat := db.now }
          else old).mountOptions = old.mountOptions := by
        split <;> rfl
      have hvol : (if old.Of volumeID clusterID podID then { old with lastHeartbeat := db.now }
          else old).volumeID = old.volumeID := by
        split <;> rfl
      rw [hopt]
      rw [hvol] at hmode
      exact h old hold hmode
    · exact h

lemma updateMountHeartbeat_volumes (fault : Option GoString) (volumeID clusterID podID : GoString)
    (db : Database) :
    (updateMountHeartbeat fault volumeID clusterID podID db).2.volumes = db.volumes := by
  cases fault with
  | some cause => rfl
  | none =>
    unfold updateMountHeartbeat
    dsimp only
    split <;> rfl

lemma decode_mount (c : Coordinator) (fresh : Fresh) (volumeID : GoString)
    (options : MountOptions) :
    decodeMountAccessMode (c.mount fresh volumeID options).mountOptions =
      normalizeAccessMode options.accessMode :=
  normalizeMountAccessMode_text _

/-- After a heartbeat that finds its row the round goes on with the next volume. -/
lemma afterBeat_sure {c : Coordinator} {fault : Option GoString} {volumes : List GoString}
    (hok : db.HasMode volumeID .rox → Found db c fault volumeID) : (afterBeat volumeID volumes
      (updateMountHeartbeat fault volumeID c.clusterID c.podID db).1).Sure db := by
  by_cases hmode : db.HasMode volumeID .rox
  · cases fault with
    | none =>
      have hrow : ∃ row ∈ db.mounts, row.Of volumeID c.clusterID c.podID := hok hmode
      simp only [updateMountHeartbeat, if_pos hrow]
      trivial
    | some cause =>
      have hno : contains (Err.statement (lit "update mount heartbeat") cause).text
          (lit "not found") = false := hok hmode
      simp only [updateMountHeartbeat, afterBeat, hno]
      trivial
  · unfold afterBeat
    split
    · split
      · exact hmode
      · trivial
    · trivial

section

variable (h : RowsROX s.db) (hr : ∀ r, s.own.round = some r → r.Sure s.db)

include h hr

lemma registerMount_keeps (fresh : Fresh) (volumeID : GoString) (options : MountOptions)
    (hm : s.db.HasMode volumeID .rox → normalizeAccessMode options.accessMode = .rox) :
    Keeps s (registerMount fresh volumeID options s).2 := by
  have hrows := h.acquire (s.own.mount fresh volumeID options) s.own.timeout
    (by rw [decode_mount]; exact hm)
  have hvolumes := acquireMount_volumes (some (s.own.mount fresh volumeID options))
    s.own.timeout s.db
  unfold registerMount
  cases s.own.mountedVolumes[volumeID]? with
  | some _ => exact ⟨rfl, h, hr⟩
  | none =>
    rcases hacq : acquireMount (some (s.own.mount fresh volumeID options))
      s.own.timeout s.db with ⟨_ | _ | _, db'⟩ <;>
    · rw [hacq] at hrows hvolumes
      exact ⟨hvolumes, hrows, hr⟩

lemma unregisterMount_keeps : Keeps s (unregisterMount volumeID s).2 := by
  unfold unregisterMount
  cases s.own.mountedVolumes[volumeID]? with
  | none => exact ⟨rfl, h, hr⟩
  | some _ => exact ⟨rfl, RowsROX.without h, hr⟩

lemma startRound_keeps {volumes : List GoString} : Keeps s (startRound volumes s) := by
  unfold startRound
  split
  · refine ⟨rfl, h, ?_⟩
    rintro r hround
    cases hround
    trivial
  · exact ⟨rfl, h, hr⟩

lemma stepRound_keeps {fault : Option GoString} {fresh : Fresh}
    (hok : ∀ volumeID volumes, s.own.round = some (.beat (volumeID :: volumes)) →
      s.db.HasMode volumeID .rox → Found s.db s.own fault volumeID) :
    Keeps s (stepRound fault fresh s) := by
  rcases hround : s.own.round with _ | ⟨_ | ⟨volumeID, volumes⟩⟩ | ⟨volumeID,
    volumes⟩ | ⟨volumeID, volumes⟩
  · simp only [stepRound, hround]
    exact ⟨rfl, h, hr⟩
  · simp only [stepRound, hround]
    exact ⟨rfl, h, fun r hr2 => by cases hr2⟩
  · simp only [stepRound, hround]
    refine ⟨updateMountHeartbeat_volumes _ _ _ _ _, h.heartbeat _ _ _ _, ?_⟩
    rintro r hr2
    cases hr2
    exact afterBeat_sure (hok volumeID volumes hround)
  · simp only [stepRound, hround]
    refine ⟨rfl, h, ?_⟩
    rintro r hr2
    cases hr2
    exact hr (.forget volumeID volumes) hround
  · -- a volume that is written again here is no ROX volume
    have hnot : ¬ s.db.HasMode volumeID .rox := hr _ hround
    have hreg := registerMount_keeps h hr fresh volumeID ⟨[], [], 0, [], []⟩
      (fun hm => absurd hm hnot)
    simp only [stepRound, hround]
    refine ⟨hreg.volumes, hreg.rows, ?_⟩
    rintro r hr2
    cases hr2
    trivial

end

/-! ## Runs -/

/-- Each row of a ROX volume says ROX, and no round will write another one. -/
structure Sound (w : World) : Prop where
  rows : RowsROX w.db
  rounds : ∀ (i : Nat) (c : Coordinator) (r : Round), w.coordinators[i]? = some c →
    c.round = some r → r.Sure w.db

lemma Sound.on (h : Sound w) (i : Nat) (f : Session → Session)
    (hf : ∀ c : Coordinator, w.coordinators[i]? = some c → Keeps ⟨c, w.db⟩ (f ⟨c, w.db⟩)) :
    Sound (w.on i f) := by
  unfold World.on
  cases hc : w.coordinators[i]? with
  | none => exact h
  | some c =>
    obtain ⟨hvolumes, hrows, hround⟩ := hf c hc
    refine ⟨hrows, ?_⟩
    intro j c' r hj hr
    rcases GoMap.of_get_insert hj with ⟨-, rfl⟩ | ⟨-, hj⟩
    · exact (hround r hr).congr hvolumes
    · exact (h.rounds j c' r hj hr).congr hvolumes

lemma Sound.next (h : Sound w) {e : Event} (hmode : e.OwnMode w) (hfound : e.RowFound w) :
    Sound (e.next w) := by
  cases e with
  | register i fresh volumeID options =>
    refine h.on i (fun s => (registerMount fresh volumeID options s).2) (fun c hc => ?_)
    apply registerMount_keeps h.rows (fun r => h.rounds i c r hc)
    rintro ⟨accessMode, hvolume, hrox⟩
    exact (hmode accessMode hvolume).trans hrox
  | unregister i volumeID =>
    exact h.on i (fun s => (unregisterMount volumeID s).2)
      (fun c hc => unregisterMount_keeps h.rows (fun r => h.rounds i c r hc))
  | tick i volumes =>
    exact h.on i (startRound volumes)
      (fun c hc => startRound_keeps h.rows (fun r => h.rounds i c r hc))
  | turn i fault fresh =>
    refine h.on i (stepRound fault fresh) (fun c hc => ?_)
    exact stepRound_keeps h.rows (fun r => h.rounds i c r hc)
      (fun volumeID volumes hround => hfound c volumeID volumes hc hround)
  | lose volumeID clusterID podID =>
    exact ⟨RowsROX.without h.rows, fun i c r hc hr => (h.rounds i c r hc hr).congr rfl⟩
  | wait microseconds =>
    exact ⟨h.rows, fun i c r hc hr => (h.rounds i c r hc hr).congr rfl⟩

lemma RowsROX.admits (h : RowsROX db) {mount : VolumeMount}
    (hrox : db.HasMode mount.volumeID .rox) (timeout : Int) :
    (acquireMount (some mount) timeout db).1 ≠ .err (.mountedReadWrite mount.volumeID) := by
  obtain ⟨accessMode, hvolume, hmode⟩ := hrox
  have hrows : ∀ active ∈ db.activeMounts mount.volumeID (timeoutOrDefault timeout),
      decodeMountAccessMode active.mountOptions = .rox := by
    intro active hactive
    obtain ⟨hmem, hvol, _⟩ := mem_activeMounts.mp hactive
    exact h active hmem (by rw [hvol]; exact ⟨accessMode, hvolume, hmode⟩)
  have hnone : ¬ ∃ active ∈ db.activeMounts mount.volumeID (timeoutOrDefault timeout),
      decodeMountAccessMode active.mountOptions ≠ .rox := by
    rintro ⟨active, ha, hn⟩
    exact hn (hrows active ha)
  have hcheck : checkAccess .rox mount
    (db.activeMounts mount.volumeID (timeoutOrDefault timeout)) db =
      (.ok (), db) := congrFun (Call.failIf_neg _ hnone) db
  have hlock : lockVolume mount.volumeID db = (.ok accessMode, db) := by
    unfold lockVolume
    rw [hvolume]
  have hactive : getActiveMounts mount.volumeID (timeoutOrDefault timeout) db =
      (.ok (db.activeMounts mount.volumeID (timeoutOrDefault timeout)), db) := rfl
  unfold acquireMount
  dsimp only
  rw [withTx_fst, Call.bind_ok hlock, hmode, Call.bind_ok hactive, Call.bind_ok hcheck]
  unfold createMount
  split <;> simp

/-- Where each heartbeat finds its row, each active row of a ROX volume says
ROX, and no further ROX mount is refused as mounted read-write. -/
theorem rox_volume_keeps_its_mode {w : World} (h : Reach Started (fun w e w' => w' = Event.next w e)
      (fun w e => e.OwnMode w ∧ e.RowFound w) w) (timeout : Int) :
    (∀ row ∈ w.db.mounts, w.db.HasMode row.volumeID .rox → row.Active w.db.now timeout →
        decodeMountAccessMode row.mountOptions = .rox) ∧
      ∀ mount : VolumeMount, w.db.HasMode mount.volumeID .rox →
        (acquireMount (some mount) timeout w.db).1 ≠ .err (.mountedReadWrite mount.volumeID) := by
  have hs : Sound w := by
    refine Reach.keeps ?_ (fun w e hw hok => hw.next hok.1 hok.2) h
    rintro w ⟨hmounts, hnew⟩
    refine ⟨fun row hrow => ?_, fun i c r hc hr => ?_⟩
    · rw [hmounts] at hrow
      cases hrow
    · rw [(hnew i c hc).2] at hr
      cases hr
  exact ⟨fun row hrow hrox _ => hs.rows row hrow hrox,
    fun mount hrox => hs.rows.admits hrox timeout⟩

def twoPods : World :=
  let coordinator (pod : String) : Coordinator :=
    { clusterID := lit "c", podID := lit pod, heartbeatTimeout := 15, httpPort := 8080
      mountedVolumes := ∅, round := none }
  { db := { now := 0, volumes := (∅ : GoMap GoString GoString).insert (lit "v") (lit "ROX"),
            mounts := [] }
    coordinators := ((∅ : GoMap Nat Coordinator).insert 0 (coordinator "a")).insert 1
      (coordinator "b") }

def readOnly : MountOptions := ⟨lit "ROX", [], 0, [], []⟩

lemma twoPods_started : Started twoPods := by
  refine ⟨rfl, fun i c hc => ?_⟩
  unfold twoPods at hc
  simp only [GoMap.get_insert] at hc
  split at hc
  · cases hc; exact ⟨rfl, rfl⟩
  · split at hc
    · cases hc; exact ⟨rfl, rfl⟩
    · simp at hc

lemma ownMode_readOnly {i : Nat} {fresh : Fresh} (h : w.db.volumes[lit "v"]? = some (lit "ROX")) :
    (Event.register i fresh (lit "v") readOnly).OwnMode w := by
  intro accessMode hvolume
  rw [h, Option.some.injEq] at hvolume
  subst hvolume
  decide +kernel

/-- Both pods mount the volume, and the first one sends a heartbeat. -/
def steadyRun : List Event :=
  [.register 0 ⟨lit "1", 0, 0⟩ (lit "v") readOnly, .register 1 ⟨lit "2", 0, 0⟩ (lit "v") readOnly,
    .tick 0 [lit "v"], .turn 0 none ⟨lit "3", 1, 1⟩]

theorem rox_volume_keeps_its_mode_in_a_steady_run :
    ∃ row ∈ (steadyRun.foldl Event.next twoPods).db.mounts,
      (steadyRun.foldl Event.next twoPods).db.HasMode row.volumeID .rox ∧
      row.Active (steadyRun.foldl Event.next twoPods).db.now 15 ∧
      decodeMountAccessMode row.mountOptions = .rox := by
  obtain ⟨row, hrow, hvolume, hactive⟩ : ∃ row ∈ (steadyRun.foldl Event.next twoPods).db.mounts,
      (steadyRun.foldl Event.next twoPods).db.volumes[row.volumeID]? = some (lit "ROX") ∧
      row.Active (steadyRun.foldl Event.next twoPods).db.now 15 := by decide +kernel
  have hmode : (steadyRun.foldl Event.next twoPods).db.HasMode row.volumeID .rox :=
    ⟨lit "ROX", hvolume, by decide +kernel⟩
  refine ⟨row, hrow, hmode, hactive, (rox_volume_keeps_its_mode ?_ 15).1 row hrow hmode hactive⟩
  apply Reach.run (.start twoPods_started) steadyRun
  refine ⟨⟨?_, trivial⟩, ⟨?_, trivial⟩, ⟨trivial, trivial⟩, ⟨trivial, ?_⟩, trivial⟩
  · exact ownMode_readOnly (by decide +kernel)
  · exact ownMode_readOnly (by decide +kernel)
  · intro c volumeID volumes hc hround _
    have hbeat : Option.map (fun c : Coordinator => (c.round, c.clusterID, c.podID))
        ((steadyRun.take 3).foldl Event.next twoPods).coordinators[0]? =
        some (some (.beat [lit "v"]), lit "c", lit "a") := by decide +kernel
    have hc' : ((steadyRun.take 3).foldl Event.next twoPods).coordinators[0]? = some c := hc
    rw [hc', Option.map_some, Option.some.injEq, hround] at hbeat
    simp only [Prod.mk.injEq, Option.some.injEq, Round.beat.injEq, List.cons.injEq] at hbeat
    obtain ⟨⟨rfl, rfl⟩, h1, h2⟩ := hbeat
    unfold Found
    dsimp only
    rw [h1, h2]
    decide +kernel

/-- The row of the first pod is lost before its heartbeat. -/
def lostRow : List Event :=
  [.register 0 ⟨lit "1", 0, 0⟩ (lit "v") readOnly, .lose (lit "v") (lit "c") (lit "a"),
    .tick 0 [lit "v"], .turn 0 none ⟨lit "2", 1, 1⟩, .turn 0 none ⟨lit "2", 1, 1⟩,
    .turn 0 none ⟨lit "2", 1, 1⟩]

def furtherMount : VolumeMount :=
  { id := lit "3", volumeID := lit "v", clusterID := lit "c", podID := lit "b"
    lastHeartbeat := 2, mountedAt := 2, mountOptions := some (.marshaled readOnly) }

theorem lost_row_comes_back_read_write :
    ∃ w, Reach Started (fun w e w' => w' = Event.next w e) (fun w e => e.OwnMode w) w ∧
      (∃ row ∈ w.db.mounts, w.db.HasMode row.volumeID .rox ∧ row.Active w.db.now 15 ∧
        decodeMountAccessMode row.mountOptions ≠ .rox) ∧
      (acquireMount (some furtherMount) 15 w.db).1 = .err (.mountedReadWrite (lit "v")) := by
  refine ⟨lostRow.foldl Event.next twoPods, ?_, ?_, by decide +kernel⟩
  · apply Reach.run (.start twoPods_started) lostRow
    exact ⟨ownMode_readOnly (by decide +kernel), trivial, trivial, trivial, trivial,
      trivial, trivial⟩
  · have hrow : ∃ row ∈ (lostRow.foldl Event.next twoPods).db.mounts, row.volumeID = lit "v" ∧
        row.Active (lostRow.foldl Event.next twoPods).db.now 15 ∧
        decodeMountAccessMode row.mountOptions ≠ .rox := by decide +kernel
    obtain ⟨row, hmem, hvol, hactive, hmode⟩ := hrow
    refine ⟨row, hmem, ?_, hactive, hmode⟩
    rw [hvol]
    exact ⟨lit "ROX", by decide +kernel, by decide +kernel⟩

end sandbox0.coordinator
