-- The volumes that a ctld has mounted: `localVolumeManager` of
-- `ctld/internal/ctld/portal/session.go`. Next to each volume stand the count
-- of its requests in flight and the flag of a handoff in progress.
import Sandbox0.DbMounts

namespace sandbox0.portal

open db (AccessMode)

/-- `volume.VolumeContext`, without the engine. -/
structure VolumeContext where
  volumeID : GoString
  teamID : GoString
  access : AccessMode
  mountedAt : Int
  cacheDir : GoString

/-- `localVolumeRequestState`. -/
structure RequestState where
  inFlight : Nat
  transferring : Bool
  /-- The channel `done` is set. -/
  done : Bool
  /-- The zero time is `none`. -/
  lastAccess : Option Int
  deriving DecidableEq

/-- `localVolumeManager`. Each function below runs under its lock. -/
structure LocalVolumes where
  volumes : GoMap GoString VolumeContext
  requests : GoMap GoString RequestState

namespace LocalVolumes

def add (now : Int) (volCtx : VolumeContext) (m : LocalVolumes) : LocalVolumes :=
  { volumes := m.volumes.insert volCtx.volumeID volCtx
    requests :=
      match m.requests[volCtx.volumeID]? with
      | some _ => m.requests
      | none => m.requests.insert volCtx.volumeID ⟨0, false, false, some now⟩ }

/-- Who waits on the channel `done` goes on when it is closed here. -/
def remove (volumeID : GoString) (m : LocalVolumes) : LocalVolumes :=
  { volumes := m.volumes.erase volumeID, requests := m.requests.erase volumeID }

/-- How one turn of the loop of `acquire` ends. -/
inductive Acquired where
  | notMounted
  /-- A handoff is in progress: the caller waits for `done` and tries again. -/
  | waits
  | admitted

def acquire (now : Int) (volumeID : GoString) (m : LocalVolumes) : Acquired × LocalVolumes :=
  match m.volumes[volumeID]?, m.requests[volumeID]? with
  | some _, some state =>
    if state.transferring ∧ state.done then (.waits, m)
    else
      let state' := { state with inFlight := state.inFlight + 1, lastAccess := some now }
      (.admitted, { m with requests := m.requests.insert volumeID state' })
  | _, _ => (.notMounted, m)

/-- The function that `acquire` returns. -/
def release (now : Int) (volumeID : GoString) (m : LocalVolumes) : LocalVolumes :=
  match m.requests[volumeID]? with
  | none => m
  | some state =>
    let state' := { state with inFlight := state.inFlight - 1, lastAccess := some now }
    { m with requests := m.requests.insert volumeID state' }

inductive HandoffErr where
  | notMounted
  | inProgress
  | cancelled

/-- `prepareHandoff` up to its loop. -/
def startHandoff (volumeID : GoString) (m : LocalVolumes) :
    Outcome HandoffErr Unit × LocalVolumes :=
  match m.volumes[volumeID]?, m.requests[volumeID]? with
  | some _, some state =>
    if state.transferring then (.err .inProgress, m)
    else
      let state' := { state with transferring := true, done := true }
      (.ok (), { m with requests := m.requests.insert volumeID state' })
  | _, _ => (.err .notMounted, m)

/-- The loop of `prepareHandoff` is over: no request is in flight. -/
def drained (volumeID : GoString) (m : LocalVolumes) : Bool :=
  match m.requests[volumeID]? with
  | none => false
  | some state => state.inFlight = 0

/-- The flags go back when the context ends inside the loop. -/
def cancelHandoff (volumeID : GoString) (m : LocalVolumes) : LocalVolumes :=
  match m.requests[volumeID]? with
  | none => m
  | some state =>
    { m with requests := m.requests.insert volumeID
               { state with transferring := false, done := false } }

def abortHandoff (now : Int) (volumeID : GoString) (m : LocalVolumes) : LocalVolumes :=
  match m.requests[volumeID]? with
  | none => m
  | some state =>
    if state.transferring then
      let state' := { state with transferring := false, done := false, lastAccess := some now }
      { m with requests := m.requests.insert volumeID state' }
    else m

def touch (now : Int) (volumeID : GoString) (m : LocalVolumes) : LocalVolumes :=
  match m.requests[volumeID]? with
  | none => m
  | some state =>
    { m with requests := m.requests.insert volumeID { state with lastAccess := some now } }

def canCleanupOwnerOnly (volumeID : GoString) (cutoff : Int) (m : LocalVolumes) : Bool :=
  match m.volumes[volumeID]?, m.requests[volumeID]? with
  | some _, some state =>
    if state.transferring ∨ state.inFlight > 0 then false
    else
      match state.lastAccess with
      | none => false
      | some lastAccess => ¬ lastAccess > cutoff
  | _, _ => false

/-- The call of `UnmountVolume` that fails. -/
inductive UnmountErr where
  | syncMaterialize
  | close
  | removeAll

/-- `UnmountVolume`: what it does to the tables. -/
def unmountVolume (fault : Option UnmountErr) (volumeID : GoString) (m : LocalVolumes) :
    Outcome UnmountErr Unit × LocalVolumes :=
  match m.volumes[volumeID]? with
  | none => (.ok (), m)
  | some _ =>
    match fault with
    | some e => (.err e, m)
    | none => (.ok (), m.remove volumeID)

/-! ## The table of volumes -/

section

variable (now : Int) (volumeID : GoString) (m : LocalVolumes)

@[simp] lemma acquire_volumes : (m.acquire now volumeID).2.volumes = m.volumes := by
  unfold acquire
  split
  · split <;> rfl
  · rfl

@[simp] lemma release_volumes : (m.release now volumeID).volumes = m.volumes := by
  unfold release
  split <;> rfl

@[simp] lemma startHandoff_volumes : (m.startHandoff volumeID).2.volumes = m.volumes := by
  unfold startHandoff
  split
  · split <;> rfl
  · rfl

@[simp] lemma cancelHandoff_volumes : (m.cancelHandoff volumeID).volumes = m.volumes := by
  unfold cancelHandoff
  split <;> rfl

@[simp] lemma abortHandoff_volumes : (m.abortHandoff now volumeID).volumes = m.volumes := by
  unfold abortHandoff
  split
  · rfl
  · split <;> rfl

@[simp] lemma touch_volumes : (m.touch now volumeID).volumes = m.volumes := by
  unfold touch
  split <;> rfl

@[simp] lemma add_volumes (volCtx : VolumeContext) (m : LocalVolumes) :
    (m.add now volCtx).volumes = m.volumes.insert volCtx.volumeID volCtx := rfl

end

lemma unmountVolume_volumes (fault : Option UnmountErr) (volumeID : GoString) (m : LocalVolumes) :
    (∃ e, fault = some e ∧ m.unmountVolume fault volumeID = (.err e, m)) ∨
      ∃ m', m.unmountVolume fault volumeID = (.ok (), m') ∧
        ∀ other, other ≠ volumeID → m'.volumes[other]? = m.volumes[other]? := by
  unfold unmountVolume
  cases m.volumes[volumeID]? with
  | none => exact Or.inr ⟨m, rfl, fun _ _ => rfl⟩
  | some volCtx =>
    cases fault with
    | some e => exact Or.inl ⟨e, rfl, rfl⟩
    | none =>
      exact Or.inr ⟨m.remove volumeID, rfl, fun other hne => GoMap.get_erase_ne _ (Ne.symm hne)⟩

/-! ## The table of requests -/

/-- A request that is admitted is counted, and no handoff was in progress. -/
lemma of_acquire_admitted {now : Int} {volumeID : GoString} {m m' : LocalVolumes}
    (h : m.acquire now volumeID = (.admitted, m')) :
    ∃ state, m.requests[volumeID]? = some state ∧ ¬ (state.transferring ∧ state.done) ∧
      m'.requests[volumeID]? =
        some { state with inFlight := state.inFlight + 1, lastAccess := some now } := by
  unfold acquire at h
  split at h
  case h_1 state _ hget =>
    split at h
    · cases h
    · rename_i hfree
      cases h
      exact ⟨state, hget, hfree, by simp⟩
  case h_2 => cases h

lemma of_startHandoff_ok {volumeID : GoString} {m m' : LocalVolumes}
    (h : m.startHandoff volumeID = (.ok (), m')) : ∃ state, m.requests[volumeID]? = some state ∧
      m'.requests[volumeID]? = some { state with transferring := true, done := true } := by
  unfold startHandoff at h
  split at h
  case h_1 state _ hget =>
    split at h
    · cases h
    · cases h
      exact ⟨state, hget, by simp⟩
  case h_2 => cases h

end LocalVolumes

end sandbox0.portal
