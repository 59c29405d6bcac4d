-- The mount sessions of `storage-proxy/pkg/volume/manager.go`: the volumes that
-- an instance has mounted, the sessions that use them, and the lease of the
-- session that the HTTP file calls on a volume share.
import Sandbox0.DbMounts

namespace sandbox0.volume

open List
open db (AccessMode normalizeAccessMode)
open GoMap

/-! ## The manager -/

inductive MountSessionScope where
  | unknown
  | direct
  deriving DecidableEq

structure MountSession where
  teamID : GoString
  createdAt : Int
  scope : MountSessionScope

structure DirectMountLease where
  sessionID : Nat
  inFlight : Nat
  lastUsed : Int

/-- `invalidateTracker`. `done` says whether the channel is closed. -/
structure InvalidateTracker where
  pending : GoMap Nat Unit
  done : Bool
  err : Option GoString

/-- The fields of `VolumeContext` that the manager reads. -/
structure Mounted where
  teamID : GoString
  access : AccessMode

/-- Session ids are numbered in the order of `uuid.New`; 0 is the empty id. -/
structure Manager where
  volumes : GoMap GoString Mounted
  mountSessions : GoMap GoString (GoMap Nat MountSession)
  directMounts : GoMap GoString DirectMountLease
  invalidates : GoMap GoString (GoMap GoString InvalidateTracker)
  lastSession : Nat

inductive Err where
  /-- `missing team id for volume mount`. -/
  | missingTeam
  /-- `volume %s already mounted by another team`. -/
  | otherTeam (volumeID : GoString)
  /-- `volume %s already mounted with access_mode=%s`. -/
  | otherAccess (volumeID : GoString) (access : AccessMode)
  /-- The error of the registrar, of `selectBackend` or of the backend. -/
  | backend (cause : GoString)
  /-- `volume %s not mounted`. -/
  | notMounted (volumeID : GoString)
  /-- `missing mount session id`. -/
  | missingSession
  /-- `mount session %s not found for volume %s`. -/
  | sessionNotFound (sessionID : Nat) (volumeID : GoString)
  /-- `missing invalidate id`. -/
  | missingInvalidate
  /-- `invalidate %s already registered`. -/
  | invalidateRegistered (invalidateID : GoString)

namespace Manager

/-- `m.mountSessions[volumeID]`; a nil map reads as an empty one. -/
def sessions (m : Manager) (volumeID : GoString) : GoMap Nat MountSession :=
  m.mountSessions[volumeID]?.getD ∅

/-- `m.mountSessions[volumeID][sessionID] = session`. -/
def setSession (m : Manager) (volumeID : GoString) (sessionID : Nat)
    (session : MountSession) : Manager :=
  { m with mountSessions := m.mountSessions.insert volumeID
             ((m.sessions volumeID).insert sessionID session) }

def leaseSession (m : Manager) (volumeID : GoString) : Option Nat :=
  m.directMounts[volumeID]?.map DirectMountLease.sessionID

/-- `m.directMounts[volumeID] = lease`. -/
def setLease (m : Manager) (volumeID : GoString) (lease : DirectMountLease) : Manager :=
  { m with directMounts := m.directMounts.insert volumeID lease }

def addSession (m : Manager) (volumeID teamID : GoString) (now : Int) : Manager :=
  { m.setSession volumeID (m.lastSession + 1) ⟨teamID, now, .unknown⟩ with
    lastSession := m.lastSession + 1 }

end Manager

/-- `fault` is the error of the registrar or the backend, when one fails. -/
def mountVolume (fault : Option GoString) (volumeID teamID accessMode : GoString) (now : Int) :
    Call Err Manager Nat := fun m =>
  let access := normalizeAccessMode accessMode
  if teamID = [] then (.err .missingTeam, m)
  else
    match m.volumes[volumeID]? with
    | some existing =>
      if existing.teamID ≠ [] ∧ existing.teamID ≠ teamID then (.err (.otherTeam volumeID), m)
      else if existing.access ≠ access then (.err (.otherAccess volumeID existing.access), m)
      else (.ok (m.lastSession + 1), m.addSession volumeID teamID now)
    | none =>
      match fault with
      | some cause => (.err (.backend cause), m)
      | none =>
        (.ok (m.lastSession + 1),
          { m with volumes := m.volumes.insert volumeID ⟨teamID, access⟩ }.addSession
            volumeID teamID now)

/-- A session does not have to answer any more. -/
def InvalidateTracker.clear (sessionID : Nat) (t : InvalidateTracker) : InvalidateTracker :=
  if t.pending[sessionID]? = none then t
  else
    let pending := t.pending.erase sessionID
    { t with pending, done := t.done || t.err.isSome || pending.isEmpty }

/-- `clearSessionFromInvalidatesLocked`. -/
def Manager.clearSessionFromInvalidates (m : Manager) (volumeID : GoString)
    (sessionID : Nat) : Manager :=
  match m.invalidates[volumeID]? with
  | none => m
  | some trackers =>
    { m with invalidates := m.invalidates.insert volumeID
               (trackers.map fun _ t => t.clear sessionID) }

/-- The part of `UnmountVolume` after its checks. Errors of the registrar and of the
backend are only logged. -/
def Manager.removeSession (m : Manager) (volumeID : GoString) (sessionID : Nat) : Manager :=
  let sessions := (m.sessions volumeID).erase sessionID
  let isLease := ∃ lease ∈ m.directMounts[volumeID]?, lease.sessionID = sessionID
  let m := { m with
    mountSessions := m.mountSessions.insert volumeID sessions
    directMounts := if isLease then m.directMounts.erase volumeID else m.directMounts }
  let m := m.clearSessionFromInvalidates volumeID sessionID
  if sessions.isEmpty then
    { m with
      mountSessions := m.mountSessions.erase volumeID
      directMounts := m.directMounts.erase volumeID
      volumes := m.volumes.erase volumeID }
  else m

def unmountVolume (volumeID : GoString) (sessionID : Nat) : Call Err Manager Unit := fun m =>
  if m.volumes[volumeID]? = none then (.err (.notMounted volumeID), m)
  else if sessionID = 0 then (.err .missingSession, m)
  else if (m.sessions volumeID)[sessionID]? = none then
    (.err (.sessionNotFound sessionID volumeID), m)
  else (.ok (), m.removeSession volumeID sessionID)

/-! ## Invalidations -/

def beginInvalidate (volumeID invalidateID : GoString) : Call Err Manager Nat := fun m =>
  if invalidateID = [] then (.err .missingInvalidate, m)
  else if (m.sessions volumeID).isEmpty then (.ok 0, m)
  else
    let trackers := m.invalidates[volumeID]?.getD ∅
    if trackers[invalidateID]?.isSome then (.err (.invalidateRegistered invalidateID), m)
    else
      let pending := ((m.sessions volumeID).filter fun _ s => s.scope ≠ .direct).map fun _ _ => ()
      (.ok pending.size, { m with
        invalidates :=
          m.invalidates.insert volumeID (trackers.insert invalidateID ⟨pending, false, none⟩) })

/-- `AckInvalidate` on the tracker. -/
def InvalidateTracker.ack (sessionID : Nat) (success : Bool) (errorMessage : GoString)
    (t : InvalidateTracker) : InvalidateTracker :=
  if t.pending[sessionID]? = none then t
  else
    let pending := t.pending.erase sessionID
    let message := if errorMessage = [] then lit "remount failed" else errorMessage
    let err := if success then t.err else some (t.err.getD message)
    { pending, err, done := t.done || err.isSome || pending.isEmpty }

def ackInvalidate (volumeID : GoString) (sessionID : Nat) (invalidateID : GoString) (success : Bool)
    (errorMessage : GoString) (m : Manager) : Manager :=
  match m.invalidates[volumeID]? with
  | none => m
  | some trackers =>
    match trackers[invalidateID]? with
    | none => m
    | some t =>
      { m with invalidates := m.invalidates.insert volumeID
                (trackers.insert invalidateID (t.ack sessionID success errorMessage)) }

/-- The end of `WaitForInvalidate`, once the channel is closed. -/
def finishInvalidate (volumeID invalidateID : GoString) (m : Manager) : Manager :=
  match m.invalidates[volumeID]? with
  | none => m
  | some trackers =>
    match trackers[invalidateID]? with
    | none => m
    | some t =>
      if t.done then
        let trackers := trackers.erase invalidateID
        { m with invalidates :=
            if trackers.isEmpty then m.invalidates.erase volumeID
            else m.invalidates.insert volumeID trackers }
      else m

/-! ## Direct mounts -/

/-- The lease of the volume, when its session is still mounted: the call joins it. A lease
whose session is gone is dropped. Both locked parts of `AcquireDirectVolumeFileMount` begin so. -/
def Manager.join (m : Manager) (volumeID : GoString) (now : Int) : Option Nat × Manager :=
  match m.directMounts[volumeID]? with
  | none => (none, m)
  | some lease =>
    match (m.sessions volumeID)[lease.sessionID]? with
    | some session =>
      (some lease.sessionID,
        (m.setSession volumeID lease.sessionID { session with scope := .direct }).setLease volumeID
          { lease with inFlight := lease.inFlight + 1, lastUsed := now })
    | none => (none, { m with directMounts := m.directMounts.erase volumeID })

/-- The end of `AcquireDirectVolumeFileMount`: the own session becomes the lease. -/
def Manager.lease (m : Manager) (volumeID : GoString) (sessionID : Nat) (now : Int) : Manager :=
  let m :=
    match (m.sessions volumeID)[sessionID]? with
    | some session => m.setSession volumeID sessionID { session with scope := .direct }
    | none => m
  m.setLease volumeID ⟨sessionID, 1, now⟩

/-- The function that `releaseDirectVolumeFileMount` returns. -/
def Manager.release (m : Manager) (volumeID : GoString) (sessionID : Nat) (now : Int) : Manager :=
  match m.directMounts[volumeID]? with
  | none => m
  | some lease =>
    if lease.sessionID ≠ sessionID then m
    else m.setLease volumeID { lease with inFlight := lease.inFlight - 1, lastUsed := now }

/-- The locked part of `CleanupIdleDirectVolumeFileMount`: the session to unmount. -/
def Manager.takeIdle (m : Manager) (volumeID : GoString) : List (GoString × Nat) × Manager :=
  if volumeID = [] then ([], m)
  else
    match m.directMounts[volumeID]? with
    | none => ([], m)
    | some lease =>
      if lease.inFlight > 0 then ([], m)
      else ([(volumeID, lease.sessionID)], { m with directMounts := m.directMounts.erase volumeID })

/-- The leases that `CleanupIdleDirectVolumeFileMounts` takes. -/
def Manager.idle (m : Manager) (idleTTL now : Int) : List (GoString × DirectMountLease) :=
  m.directMounts.toList.filter fun p => p.2.inFlight = 0 ∧ p.2.lastUsed ≤ now - idleTTL

/-- The locked part of `CleanupIdleDirectVolumeFileMounts`. -/
def Manager.takeAllIdle (m : Manager) (idleTTL now : Int) : List (GoString × Nat) × Manager :=
  if idleTTL ≤ 0 then ([], m)
  else
    ((m.idle idleTTL now).map fun p => (p.1, p.2.sessionID),
      { m with directMounts := GoMap.deleteKeys ((m.idle idleTTL now).map Prod.fst)
                 m.directMounts })

/-! ## Sessions and leases of the manager -/

/-- The session is in `mountSessions`. -/
def Manager.Live (m : Manager) (volumeID : GoString) (sessionID : Nat) : Prop :=
  (m.sessions volumeID)[sessionID]?.isSome

open Manager

namespace Manager

variable {m : Manager} {volumeID v : GoString} {sessionID s : Nat} {lease : DirectMountLease}

@[simp] lemma setSession_directMounts (m : Manager) (volumeID : GoString) (sessionID : Nat)
    (session : MountSession) :
    (m.setSession volumeID sessionID session).directMounts = m.directMounts := rfl

lemma setSession_live {session : MountSession} :
    (m.setSession volumeID sessionID session).Live v s ↔
      m.Live v s ∨ (v = volumeID ∧ s = sessionID) := by
  unfold Live sessions setSession
  by_cases hv : volumeID = v
  · subst hv
    by_cases hs : sessionID = s
    · subst hs
      simp
    · simp [sessions, get_insert_ne _ _ hs, Ne.symm hs]
  · simp [get_insert_ne _ _ hv, Ne.symm hv]

lemma leaseSession_insert {m' : Manager}
    (h : m'.directMounts = m.directMounts.insert volumeID lease) (v : GoString) :
    m'.leaseSession v = if volumeID = v then some lease.sessionID else m.leaseSession v := by
  simp only [leaseSession, h, get_insert]
  split <;> rfl

lemma setLease_leaseSession : (m.setLease volumeID lease).leaseSession v =
      if volumeID = v then some lease.sessionID else m.leaseSession v :=
  leaseSession_insert rfl v

lemma leaseSession_eq_some : m.leaseSession volumeID = some sessionID ↔
      ∃ lease, m.directMounts[volumeID]? = some lease ∧ lease.sessionID = sessionID := by
  simp [leaseSession]

/-- A session is mounted with its volume and has a number that was issued, and the session
of a lease is mounted. -/
structure WF (m : Manager) : Prop where
  mounted : ∀ v s, m.Live v s → m.volumes[v]?.isSome
  leased : ∀ v s, m.leaseSession v = some s → m.Live v s
  issued : ∀ v s, m.Live v s → 0 < s ∧ s ≤ m.lastSession

/-- The same sessions and the same session in each lease. -/
structure Same (m m' : Manager) : Prop where
  live : ∀ v s, m'.Live v s ↔ m.Live v s
  lease : ∀ v, m'.leaseSession v = m.leaseSession v
  volumes : m'.volumes = m.volumes
  lastSession : m'.lastSession = m.lastSession

lemma Same.refl (m : Manager) : m.Same m := ⟨fun _ _ => Iff.rfl, fun _ => rfl, rfl, rfl⟩

lemma WF.same {m' : Manager} (h : m.WF) (hs : m.Same m') : m'.WF := by
  refine ⟨?_, ?_, ?_⟩
  · intro v s hl
    rw [hs.volumes]
    exact h.mounted v s ((hs.live v s).mp hl)
  · intro v s hl
    rw [hs.lease] at hl
    exact (hs.live v s).mpr (h.leased v s hl)
  · intro v s hl
    rw [hs.lastSession]
    exact h.issued v s ((hs.live v s).mp hl)

/-- What `join` does: the call joins the lease, or there is none. -/
lemma join_cases (h : m.WF) (volumeID : GoString) (now : Int) :
    (∃ lease m', m.directMounts[volumeID]? = some lease ∧
      m.join volumeID now = (some lease.sessionID, m') ∧ m.Same m' ∧
      m'.directMounts = m.directMounts.insert volumeID
        { lease with inFlight := lease.inFlight + 1, lastUsed := now }) ∨
    (m.directMounts[volumeID]? = none ∧ m.join volumeID now = (none, m)) := by
  unfold join
  cases hl : m.directMounts[volumeID]? with
  | none => exact .inr ⟨rfl, rfl⟩
  | some lease =>
    have hlease : m.leaseSession volumeID = some lease.sessionID := by simp [leaseSession, hl]
    have hlive := h.leased volumeID lease.sessionID hlease
    obtain ⟨session, hsession⟩ := Option.isSome_iff_exists.mp hlive
    dsimp only
    rw [hsession]
    refine .inl ⟨lease, _, rfl, rfl, ⟨?_, ?_, rfl, rfl⟩, rfl⟩
    · intro v s
      refine setSession_live.trans ⟨?_, .inl⟩
      rintro (hv | ⟨rfl, rfl⟩)
      · exact hv
      · exact hlive
    · intro v
      rw [setLease_leaseSession]
      split
      · rename_i hv
        subst hv
        exact hlease.symm
      · rfl

lemma lease_live {now : Int} : (m.lease volumeID sessionID now).Live v s ↔ m.Live v s := by
  unfold lease
  dsimp only
  split
  · rename_i session hsession
    refine setSession_live.trans ⟨?_, .inl⟩
    rintro (hv | ⟨rfl, rfl⟩)
    · exact hv
    · rw [Live, hsession]
      rfl
  · rfl

section

variable (m : Manager) (volumeID : GoString) (sessionID : Nat) (now : Int)

lemma lease_directMounts :
    (m.lease volumeID sessionID now).directMounts =
      m.directMounts.insert volumeID ⟨sessionID, 1, now⟩ := by
  unfold lease
  dsimp only
  split <;> rfl

lemma lease_volumes : (m.lease volumeID sessionID now).volumes = m.volumes := by
  unfold lease
  dsimp only
  split <;> rfl

lemma lease_lastSession : (m.lease volumeID sessionID now).lastSession = m.lastSession := by
  unfold lease
  dsimp only
  split <;> rfl

end

lemma release_cases (now : Int) (hl : m.directMounts[volumeID]? = some lease) :
    m.Same (m.release volumeID lease.sessionID now) ∧
      (m.release volumeID lease.sessionID now).directMounts = m.directMounts.insert volumeID
        { lease with inFlight := lease.inFlight - 1, lastUsed := now } := by
  have hrel : m.release volumeID lease.sessionID now =
      m.setLease volumeID { lease with inFlight := lease.inFlight - 1, lastUsed := now } := by
    simp [release, hl]
  rw [hrel]
  refine ⟨⟨fun _ _ => Iff.rfl, ?_, rfl, rfl⟩, rfl⟩
  intro v
  rw [setLease_leaseSession]
  split
  · rename_i hv
    subst hv
    simp [leaseSession, hl]
  · rfl

/-! ## Mounting and unmounting -/

structure Adds (m m' : Manager) (volumeID : GoString) (sessionID : Nat) : Prop where
  live : ∀ v s, m'.Live v s ↔ m.Live v s ∨ (v = volumeID ∧ s = sessionID)
  directMounts : m'.directMounts = m.directMounts
  number : sessionID = m.lastSession + 1
  lastSession : m'.lastSession = m.lastSession + 1
  wf : m'.WF

lemma WF.addSession {m0 : Manager} {teamID : GoString} {now : Int} (h : m0.WF)
    (hsessions : m.mountSessions = m0.mountSessions) (hleases : m.directMounts = m0.directMounts)
    (hlast : m.lastSession = m0.lastSession) (hnew : m.volumes[volumeID]?.isSome)
    (hvolumes : ∀ v : GoString, m0.volumes[v]?.isSome → m.volumes[v]?.isSome) :
    m0.Adds (m.addSession volumeID teamID now) volumeID (m.lastSession + 1) := by
  have hold : ∀ v s, m.Live v s ↔ m0.Live v s := by
    intro v s
    unfold Live sessions
    rw [hsessions]
  have hlive : ∀ v s, (m.addSession volumeID teamID now).Live v s ↔
      m0.Live v s ∨ (v = volumeID ∧ s = m.lastSession + 1) := by
    intro v s
    rw [← hold v s]
    exact setSession_live
  refine ⟨hlive, hleases, by rw [hlast], by simp [Manager.addSession, hlast], ?_, ?_, ?_⟩
  · intro v s hl
    rcases (hlive v s).mp hl with hl | ⟨rfl, rfl⟩
    · exact hvolumes v (h.mounted v s hl)
    · exact hnew
  · intro v s hl
    have hl0 : m0.leaseSession v = some s := by
      rw [← hl]
      simp only [leaseSession, Manager.addSession, setSession_directMounts, hleases]
    exact (hlive v s).mpr (Or.inl (h.leased v s hl0))
  · intro v s hl
    simp only [Manager.addSession, hlast]
    rcases (hlive v s).mp hl with hl | ⟨_, rfl⟩
    · have hi := h.issued v s hl
      omega
    · omega

lemma mountVolume_cases (h : m.WF) (fault : Option GoString) (volumeID teamID accessMode : GoString)
    (now : Int) :
    (∃ s m', mountVolume fault volumeID teamID accessMode now m = (.ok s, m') ∧
      m.Adds m' volumeID s) ∨
      ∃ e, mountVolume fault volumeID teamID accessMode now m = (.err e, m) := by
  unfold mountVolume
  dsimp only
  split
  · exact .inr ⟨_, rfl⟩
  split
  · rename_i existing hexisting
    split
    · exact .inr ⟨_, rfl⟩
    · split
      · exact .inr ⟨_, rfl⟩
      · exact .inl ⟨_, _, rfl, h.addSession rfl rfl rfl (by simp [hexisting]) (fun _ hv => hv)⟩
  · rename_i hnone
    split
    · exact .inr ⟨_, rfl⟩
    refine .inl ⟨_, _, rfl, h.addSession rfl rfl rfl (by simp) ?_⟩
    intro v hv
    dsimp only
    rw [get_insert]
    split
    · rfl
    · exact hv

structure Removes (m m' : Manager) (volumeID : GoString) (sessionID : Nat) : Prop where
  live : ∀ v s, m'.Live v s ↔ m.Live v s ∧ ¬ (v = volumeID ∧ s = sessionID)
  directMounts : m'.directMounts = m.directMounts
  lastSession : m'.lastSession = m.lastSession
  wf : m'.WF

section

variable (m : Manager) (volumeID : GoString) (sessionID : Nat)

@[simp] lemma clearSessionFromInvalidates_mountSessions :
    (m.clearSessionFromInvalidates volumeID sessionID).mountSessions = m.mountSessions := by
  unfold clearSessionFromInvalidates
  split <;> rfl

@[simp] lemma clearSessionFromInvalidates_directMounts :
    (m.clearSessionFromInvalidates volumeID sessionID).directMounts = m.directMounts := by
  unfold clearSessionFromInvalidates
  split <;> rfl

@[simp] lemma clearSessionFromInvalidates_volumes :
    (m.clearSessionFromInvalidates volumeID sessionID).volumes = m.volumes := by
  unfold clearSessionFromInvalidates
  split <;> rfl

@[simp] lemma clearSessionFromInvalidates_lastSession :
    (m.clearSessionFromInvalidates volumeID sessionID).lastSession = m.lastSession := by
  unfold clearSessionFromInvalidates
  split <;> rfl

@[simp] lemma removeSession_lastSession :
    (m.removeSession volumeID sessionID).lastSession = m.lastSession := by
  unfold removeSession
  dsimp only
  split <;> simp

end

lemma removeSession_live :
    (m.removeSession volumeID sessionID).Live v s ↔ m.Live v s ∧
      ¬ (v = volumeID ∧ s = sessionID) := by
  have herase : ∀ s, ((m.sessions volumeID).erase sessionID)[s]?.isSome ↔
      (m.sessions volumeID)[s]?.isSome ∧ s ≠ sessionID := by
    intro s
    rw [get_erase]
    split
    · rename_i hs
      simp [hs]
    · rename_i hs
      simp [Ne.symm hs]
  unfold removeSession Live
  dsimp only
  by_cases hv : volumeID = v
  · subst hv
    split
    · -- the volume goes with its last session
      rename_i hempty
      have hnone := (isEmpty_iff _).mp hempty s
      have hs := herase s
      rw [hnone] at hs
      simp only [sessions, get_erase_self, Option.getD_none] at hs ⊢
      simpa using hs
    · simp only [sessions, clearSessionFromInvalidates_mountSessions, get_insert_self,
        Option.getD_some] at herase ⊢
      simpa using herase s
  · have hne : ¬ (v = volumeID ∧ s = sessionID) := fun h => hv h.1.symm
    split
    · simp [sessions, get_erase_ne _ hv, get_insert_ne _ _ hv, hne]
    · simp [sessions, get_insert_ne _ _ hv, hne]

/-- A session that is not the one of the lease leaves the leases alone. -/
lemma WF.removeSession (h : m.WF) (hlease : m.leaseSession volumeID ≠ some sessionID) :
    m.Removes (m.removeSession volumeID sessionID) volumeID sessionID := by
  have hnot : ¬ ∃ lease ∈ m.directMounts[volumeID]?, lease.sessionID = sessionID := by
    rintro ⟨lease, hl, hs⟩
    exact hlease (leaseSession_eq_some.mpr ⟨lease, hl, hs⟩)
  -- the last session of a volume with a lease is the session of the lease
  have hlast : ((m.sessions volumeID).erase sessionID).isEmpty = true →
      m.directMounts[volumeID]? = none := by
    intro hempty
    cases hl : m.directMounts[volumeID]? with
    | none => rfl
    | some lease =>
      have hls : m.leaseSession volumeID = some lease.sessionID := by simp [leaseSession, hl]
      have hlive := h.leased volumeID lease.sessionID hls
      have hnone := (isEmpty_iff _).mp hempty lease.sessionID
      have hne : sessionID ≠ lease.sessionID := by
        rintro rfl
        exact hlease hls
      rw [get_erase_ne _ hne] at hnone
      rw [Live, hnone] at hlive
      cases hlive
  have hdirect : (m.removeSession volumeID sessionID).directMounts = m.directMounts := by
    unfold Manager.removeSession
    dsimp only
    split
    · rename_i hempty
      simp only [clearSessionFromInvalidates_directMounts]
      apply eq_of_get
      intro v
      rw [get_erase]
      split
      · rename_i hv
        rw [← hv, hlast hempty]
      · rfl
    · simp only [clearSessionFromInvalidates_directMounts]
  refine ⟨fun v s => removeSession_live, hdirect, removeSession_lastSession _ _ _, ?_, ?_, ?_⟩
  · intro v s hl
    obtain ⟨hl, hne⟩ := removeSession_live.mp hl
    have hm := h.mounted v s hl
    unfold Manager.removeSession
    dsimp only
    split
    · rename_i hempty
      have hv : volumeID ≠ v := by
        rintro rfl
        have hnone := (isEmpty_iff _).mp hempty s
        rw [get_erase_ne _ (fun hs => hne ⟨rfl, hs.symm⟩)] at hnone
        rw [Live, hnone] at hl
        cases hl
      simp only [clearSessionFromInvalidates_volumes, get_erase_ne _ hv]
      exact hm
    · simp only [clearSessionFromInvalidates_volumes]
      exact hm
  · intro v s hl
    have hl0 : m.leaseSession v = some s := by rwa [leaseSession, hdirect] at hl
    refine removeSession_live.mpr ⟨h.leased v s hl0, ?_⟩
    rintro ⟨rfl, rfl⟩
    exact hlease hl0
  · intro v s hl
    rw [removeSession_lastSession]
    exact h.issued v s (removeSession_live.mp hl).1

lemma WF.unmountVolume (h : m.WF) (hlease : m.leaseSession volumeID ≠ some sessionID) :
    m.Removes (unmountVolume volumeID sessionID m).2 volumeID sessionID := by
  have hsame : ¬ m.Live volumeID sessionID → m.Removes m volumeID sessionID := by
    intro hnot
    refine ⟨fun v s => ⟨fun hl => ⟨hl, ?_⟩, And.left⟩, rfl, rfl, h⟩
    rintro ⟨rfl, rfl⟩
    exact hnot hl
  unfold volume.unmountVolume
  split
  · rename_i hnone
    refine hsame (fun hl => ?_)
    have hm := h.mounted _ _ hl
    rw [hnone] at hm
    cases hm
  · split
    · rename_i hzero
      refine hsame (fun hl => ?_)
      have hi := h.issued _ _ hl
      omega
    · split
      · rename_i hnone
        refine hsame (fun hl => ?_)
        rw [Live, hnone] at hl
        cases hl
      · exact h.removeSession hlease

end Manager

/-! ## Idle leases -/

/-- Idle leases are taken out of the table with their sessions. -/
structure Manager.Takes (m : Manager) (taken : List (GoString × Nat) × Manager) : Prop where
  live : ∀ v s, taken.2.Live v s ↔ m.Live v s
  volumes : taken.2.volumes = m.volumes
  lastSession : taken.2.lastSession = m.lastSession
  leases : ∀ v : GoString, taken.2.directMounts[v]? =
    if v ∈ taken.1.map Prod.fst then none else m.directMounts[v]?
  idle : ∀ v s, (v, s) ∈ taken.1 → ∃ lease, m.directMounts[v]? = some lease ∧
    lease.sessionID = s ∧ lease.inFlight = 0

lemma Manager.Takes.nothing (m : Manager) : m.Takes ([], m) :=
  ⟨fun _ _ => Iff.rfl, rfl, rfl, fun _ => by simp, fun _ _ h => by cases h⟩

lemma Manager.takeIdle_takes (m : Manager) (volumeID : GoString) :
    m.Takes (m.takeIdle volumeID) := by
  unfold takeIdle
  split
  · exact .nothing m
  split
  · exact .nothing m
  rename_i lease hl
  split
  · exact .nothing m
  rename_i hidle
  refine ⟨fun _ _ => Iff.rfl, rfl, rfl, ?_, ?_⟩
  · intro v
    simp only [get_erase, map_cons, map_nil, mem_singleton, eq_comm]
  · intro v s hmem
    cases mem_singleton.mp hmem
    exact ⟨lease, hl, rfl, by omega⟩

lemma Manager.takeAllIdle_takes (m : Manager) (idleTTL now : Int) :
    m.Takes (m.takeAllIdle idleTTL now) := by
  unfold takeAllIdle
  split
  · exact .nothing m
  refine ⟨fun _ _ => Iff.rfl, rfl, rfl, ?_, ?_⟩
  · intro v
    rw [get_deleteKeys]
    simp only [map_map, Function.comp_def]
    congr
  · intro v s hmem
    obtain ⟨⟨v', lease⟩, hp, hvs⟩ := mem_map.mp hmem
    cases hvs
    obtain ⟨hlist, hcond⟩ := mem_filter.mp hp
    exact ⟨lease, (mem_toList _ _ _).mp hlist, rfl, (of_decide_eq_true hcond).1⟩

end sandbox0.volume
