-- The bookkeeping of `ctld/internal/ctld/portal/manager.go`: which portals are
-- published, which volume each is bound to, how often a volume is bound and
-- which volumes are mounted. An operation that drops the lock is cut at the
-- places where it does so.
import Sandbox0.PortalVolumes

namespace sandbox0.portal

open List Option
open db (AccessMode)
open LocalVolumes (UnmountErr)
open GoMap

/-! ## Portals and bound volumes -/

structure PortalMount where
  podUID : GoString
  name : GoString
  mountPath : GoString
  targetPath : GoString
  volumeID : GoString
  teamID : GoString
  mountedAt : Int

/-- `podUID + "\x00" + name`. -/
def portalKey (podUID name : GoString) : GoString := podUID ++ [0] ++ name

def PortalMount.key (pm : PortalMount) : GoString := portalKey pm.podUID pm.name

structure BoundVolume where
  volumeID : GoString
  teamID : GoString
  access : AccessMode
  mountedAt : Int
  refCount : Int
  /-- The heartbeat goroutine that `registerOwner` starts. -/
  heartbeat : Bool
  /-- The goroutine of `startMaterializer`. -/
  materializer : Bool

structure PublishRequest where
  podUID : GoString
  name : GoString
  mountPath : GoString
  targetPath : GoString

/-- A bind request whose volume record was found valid: `teamID` and `access`
are those of the record. -/
structure BindRequest where
  podUID : GoString
  portalName : GoString
  volumeID : GoString
  teamID : GoString
  access : AccessMode
  mountedAt : Int
  cacheDir : GoString

inductive Job where
  /-- `PublishPortal` while it mounts the file system. -/
  | publish (req : PublishRequest)
  /-- `Bind` after its first look at the portal. -/
  | bind (req : BindRequest)
  /-- `Bind` while it opens the engine. -/
  | bindOpen (req : BindRequest)
  /-- `AttachOwner` while it opens the engine. -/
  | attach (req : BindRequest)
  /-- `PrepareHandoff` after it has found the volume without portals. -/
  | prepare (volumeID : GoString)
  /-- `PrepareHandoff` from the flag to the end of `SyncMaterialize`. -/
  | drain (volumeID : GoString)
  /-- `CompleteHandoff` after `abortHandoff`. -/
  | complete (volumeID : GoString)
  /-- The volumes that the idle cleanup still has to look at. -/
  | cleanup (volumeIDs : List GoString)

def Job.publishes : Job → Option PublishRequest
  | .publish req => some req
  | _ => none

def Job.completes : Job → Option GoString
  | .complete volumeID => some volumeID
  | _ => none

structure Manager where
  /-- The `portalMount` objects, by address. -/
  mounts : GoMap Nat PortalMount
  portals : GoMap GoString Nat
  portalsByTarget : GoMap GoString Nat
  boundVolumes : GoMap GoString BoundVolume
  volumes : LocalVolumes
  jobs : GoMap Nat Job

inductive Err where
  | targetRequired
  | podUIDRequired
  | portalNameRequired
  | notPublished (portalName podUID : GoString)
  | portalBound (volumeID : GoString)
  | volumeBound (volumeID mountPath : GoString)
  | unmount (e : UnmountErr)
  | registerOwner (cause : GoString)

namespace Manager

def lookup (m : Manager) (key : GoString) : Option (Nat × PortalMount) :=
  match m.portals[key]? with
  | none => none
  | some addr => (m.mounts[addr]?).map (fun pm => (addr, pm))

def setMount (m : Manager) (addr : Nat) (pm : PortalMount) : Manager :=
  { m with mounts := m.mounts.insert addr pm }

def attachPortalLocked (m : Manager) (addr : Nat) (pm : PortalMount)
    (req : BindRequest) : Manager :=
  m.setMount addr { pm with volumeID := req.volumeID, teamID := req.teamID,
                            mountedAt := req.mountedAt }

def clearPortalLocked (m : Manager) (addr : Nat) (pm : PortalMount) : Manager :=
  m.setMount addr { pm with volumeID := [], teamID := [], mountedAt := 0 }

def setBound (m : Manager) (volumeID : GoString) (bound : BoundVolume) : Manager :=
  { m with boundVolumes := m.boundVolumes.insert volumeID bound }

/-- The keys of the portals whose `volumeID` is this volume. -/
def portalsOf (m : Manager) (volumeID : GoString) : List GoString :=
  (m.portals.toList.filter (fun p => (m.mounts[p.2]?).any (fun pm => pm.volumeID = volumeID))).map
    Prod.fst

/-- Another portal that is bound to the volume; a blank volume has none. -/
def findBoundPortalForVolume (m : Manager) (volumeID exceptKey : GoString) : Option PortalMount :=
  if trimSpace volumeID = [] then none
  else
    (m.portalsOf volumeID).findSome? (fun key =>
      if key = exceptKey then none else (m.lookup key).map Prod.snd)

/-! ## Publish and unpublish -/

/-- `PublishPortal` up to the mount: a portal that is there gets one more target. -/
def publishPortal (m : Manager) (req : PublishRequest) : Outcome Err (Option Job) × Manager :=
  if req.targetPath = [] then (.err .targetRequired, m)
  else if req.podUID = [] then (.err .podUIDRequired, m)
  else if req.name = [] then (.err .portalNameRequired, m)
  else
    match m.portals[portalKey req.podUID req.name]? with
    | some existing =>
      (.ok none, { m with portalsByTarget := m.portalsByTarget.insert req.targetPath existing })
    | none => (.ok (some (.publish req)), m)

/-- The new portal takes the place of whatever has its key and its target. -/
def portalMounted (m : Manager) (addr : Nat) (req : PublishRequest) : Manager :=
  { m with
    mounts := m.mounts.insert addr ⟨req.podUID, req.name, req.mountPath, req.targetPath, [], [], 0⟩
    portals := m.portals.insert (portalKey req.podUID req.name) addr
    portalsByTarget := m.portalsByTarget.insert req.targetPath addr }

/-- `unregisterOwner` only stops the heartbeats and deletes the row. -/
def dropBound (m : Manager) (volumeID : GoString) : Manager :=
  { m with boundVolumes := m.boundVolumes.erase volumeID }

/-- `UnmountVolume` for the last holder, then the entry goes. -/
def unmountBound (m : Manager) (fault : Option UnmountErr) (volumeID : GoString)
    (bound : BoundVolume) : Outcome Err Unit × Manager :=
  -- the materializer is stopped first, and stays stopped when the unmount fails
  let m1 := m.setBound volumeID { bound with materializer := false }
  match m1.volumes.unmountVolume fault volumeID with
  | (.ok _, volumes) => (.ok (), { m1 with volumes }.dropBound volumeID)
  | (.err e, volumes) => (.err (.unmount e), { m1 with volumes })
  | (.panic, volumes) => (.panic, { m1 with volumes })

/-- The portal is cleared first, also when the unmount then fails. -/
def unbindLockedSnapshot (m : Manager) (fault : Option UnmountErr) (addr : Nat) (pm : PortalMount) :
    Outcome Err Unit × Manager :=
  let m1 := m.clearPortalLocked addr pm
  if pm.volumeID = [] then (.ok (), m1)
  else
    match m1.boundVolumes[pm.volumeID]? with
    | none => (.ok (), m1)
    | some bound =>
      if bound.refCount > 1 then
        (.ok (), m1.setBound pm.volumeID { bound with refCount := bound.refCount - 1 })
      else m1.unmountBound fault pm.volumeID bound

def unpublishPortal (m : Manager) (fault : Option UnmountErr) (targetPath : GoString) :
    Outcome Err Unit × Manager :=
  match m.portalsByTarget[targetPath]? with
  | none => (.ok (), m)
  | some addr =>
    match m.mounts[addr]? with
    | none => (.ok (), m)
    | some pm =>
      let m1 : Manager :=
        { m with
          portalsByTarget := m.portalsByTarget.erase targetPath
          portals := m.portals.erase pm.key }
      m1.unbindLockedSnapshot fault addr pm

/-! ## Bind and unbind -/

/-- The first look of `Bind` at the portal. -/
def bindLookup (m : Manager) (req : BindRequest) : Outcome Err (Option Job) :=
  match m.lookup (portalKey req.podUID req.portalName) with
  | none => .err (.notPublished req.portalName req.podUID)
  | some (_, pm) =>
    if pm.volumeID ≠ [] ∧ pm.volumeID ≠ req.volumeID then .err (.portalBound pm.volumeID)
    else if pm.volumeID = req.volumeID then .ok none
    else .ok (some (.bind req))

/-- What `Bind` does each time it has taken the lock again: it ends, or it
goes on with the portal. -/
def bindShared (m : Manager) (req : BindRequest) :
    Outcome Err (Option (Nat × PortalMount)) × Manager :=
  let key := portalKey req.podUID req.portalName
  match m.lookup key with
  | none => (.err (.notPublished req.portalName req.podUID), m)
  | some (addr, pm) =>
    if pm.volumeID ≠ [] then
      if pm.volumeID ≠ req.volumeID then (.err (.portalBound pm.volumeID), m) else (.ok none, m)
    else
      match m.boundVolumes[req.volumeID]? with
      | some bound =>
        if bound.refCount = 0 then
          (.ok none, (m.attachPortalLocked addr pm req).setBound req.volumeID
            { bound with refCount := 1 })
        else if req.access ≠ .rox then
          let mountPath := ((m.findBoundPortalForVolume req.volumeID key).map
            PortalMount.mountPath).getD req.volumeID
          (.err (.volumeBound req.volumeID mountPath), m)
        else
          (.ok none, (m.attachPortalLocked addr pm req).setBound req.volumeID
            { bound with refCount := bound.refCount + 1 })
      | none =>
        match m.findBoundPortalForVolume req.volumeID key with
        | some existing => (.err (.volumeBound req.volumeID existing.mountPath), m)
        | none => (.ok (some (addr, pm)), m)

/-- The volume that `Bind` and `AttachOwner` enter in the tables. -/
def newBound (req : BindRequest) (refCount : Int) : BoundVolume :=
  ⟨req.volumeID, req.teamID, req.access, req.mountedAt, refCount, false, false⟩

def newContext (req : BindRequest) : VolumeContext :=
  ⟨req.volumeID, req.teamID, req.access, req.mountedAt, req.cacheDir⟩

/-- `m.boundVolumes[...] = bound` and `m.volumes.add(volCtx)`. -/
def enterVolume (m : Manager) (now : Int) (req : BindRequest) (refCount : Int) : Manager :=
  { m.setBound req.volumeID (newBound req refCount) with
    volumes := m.volumes.add now (newContext req) }

/-- Both entries go when `registerOwner` fails. -/
def leaveVolume (m : Manager) (volumeID : GoString) : Manager :=
  { m.dropBound volumeID with volumes := m.volumes.remove volumeID }

/-- The heartbeats and the materializer run. -/
def running (m : Manager) (req : BindRequest) (refCount : Int) : Manager :=
  m.setBound req.volumeID { newBound req refCount with heartbeat := true, materializer := true }

/-- The last section of `Bind`. `fault` is the error of `registerOwner`. -/
def bindOpened (m : Manager) (now : Int) (fault : Option GoString) (req : BindRequest) :
    Outcome Err Unit × Manager :=
  match m.bindShared req with
  | (.ok (some (addr, pm)), m1) =>
    let m2 := (m1.enterVolume now req 1).attachPortalLocked addr pm req
    match fault with
    | some cause =>
      (.err (.registerOwner cause), (m2.clearPortalLocked addr pm).leaveVolume req.volumeID)
    | none => (.ok (), m2.running req 1)
  | (.ok none, m1) => (.ok (), m1)
  | (.err e, m1) => (.err e, m1)
  | (.panic, m1) => (.panic, m1)

def unbind (m : Manager) (fault : Option UnmountErr) (podUID portalName : GoString) :
    Outcome Err Unit × Manager :=
  match m.lookup (portalKey podUID portalName) with
  | none => (.ok (), m)
  | some (addr, pm) => m.unbindLockedSnapshot fault addr pm

/-! ## Owners without portals -/

/-- The last section of `AttachOwner`. -/
def attachOpened (m : Manager) (now : Int) (fault : Option GoString) (req : BindRequest) :
    Outcome Err Unit × Manager :=
  match m.boundVolumes[req.volumeID]? with
  | some _ => (.ok (), { m with volumes := m.volumes.touch now req.volumeID })
  | none =>
    let m1 := m.enterVolume now req 0
    match fault with
    | some cause => (.err (.registerOwner cause), m1.leaveVolume req.volumeID)
    | none => (.ok (), m1.running req 0)

/-- The section of `CompleteHandoff` under the lock. The number of portals is
not looked at. -/
def completeHandoff (m : Manager) (fault : Option UnmountErr) (volumeID : GoString) :
    Outcome Err Unit × Manager :=
  match m.boundVolumes[volumeID]? with
  | none => (.ok (), m)
  | some bound => m.unmountBound fault volumeID bound

def releaseOwnerOnlyVolume (m : Manager) (cutoff : Int) (fault : Option UnmountErr)
    (volumeID : GoString) : Outcome Err Unit × Manager :=
  match m.boundVolumes[volumeID]? with
  | none => (.ok (), m)
  | some bound =>
    if bound.refCount > 0 ∨ m.volumes.canCleanupOwnerOnly volumeID cutoff = false then (.ok (), m)
    else m.unmountBound fault volumeID bound

/-- The volumes that `cleanupIdleOwnerOnlyVolumes` sets out to release. -/
def idleOwnerOnly (m : Manager) (cutoff : Int) : List GoString :=
  (m.boundVolumes.toList.filter (fun p =>
    p.2.refCount ≤ 0 ∧ m.volumes.canCleanupOwnerOnly p.1 cutoff = true)).map Prod.fst

end Manager

/-! ## Steps -/

inductive Event where
  | publish (j : Nat) (req : PublishRequest)
  | published (j addr : Nat)
  | unpublish (fault : Option UnmountErr) (targetPath : GoString)
  | bind (j : Nat) (req : BindRequest)
  | bindAgain (j : Nat)
  | bindOpened (j : Nat) (now : Int) (fault : Option GoString)
  | unbind (fault : Option UnmountErr) (podUID portalName : GoString)
  | attach (j : Nat) (now : Int) (req : BindRequest)
  | attachOpened (j : Nat) (now : Int) (fault : Option GoString)
  | prepare (j : Nat) (volumeID : GoString)
  | transfer (j : Nat)
  /-- The end of `PrepareHandoff`: all is drained and materialized, the
  context ends in the loop, or `SyncMaterialize` fails. -/
  | prepared (j : Nat)
  | prepareCancelled (j : Nat)
  | prepareFailed (j : Nat) (now : Int)
  | complete (j : Nat) (now : Int) (volumeID : GoString)
  | completeLocked (j : Nat) (fault : Option UnmountErr)
  | abort (now : Int) (volumeID : GoString)
  | cleanup (j : Nat) (cutoff : Int)
  | cleanupNext (j : Nat) (cutoff : Int) (fault : Option UnmountErr)
  /-- A direct file request comes in or ends. -/
  | acquire (now : Int) (volumeID : GoString)
  | release (now : Int) (volumeID : GoString)
  /-- An operation ends with an error between its sections. -/
  | giveUp (j : Nat)

namespace Manager

def setJob (m : Manager) (j : Nat) : Option Job → Manager
  | some job => { m with jobs := m.jobs.insert j job }
  | none => { m with jobs := m.jobs.erase j }

def newJob (m : Manager) (j : Nat) (job : Job) : Manager :=
  match m.jobs[j]? with
  | some _ => m
  | none => m.setJob j (some job)

end Manager

/-- A bind request with all its fields, for a volume that portals can bind. -/
def BindRequest.Valid (req : BindRequest) : Prop :=
  req.podUID ≠ [] ∧ req.portalName ≠ [] ∧ req.volumeID ≠ [] ∧ req.teamID ≠ [] ∧ req.access ≠ .rwx

instance (req : BindRequest) : Decidable req.Valid :=
  inferInstanceAs (Decidable (_ ∧ _ ∧ _ ∧ _ ∧ _))

/-- The fields that `AttachOwner` asks for. -/
def BindRequest.ValidOwner (req : BindRequest) : Prop :=
  trimSpace req.volumeID ≠ [] ∧ trimSpace req.teamID ≠ [] ∧ req.access ≠ .rwx

instance (req : BindRequest) : Decidable req.ValidOwner := inferInstanceAs (Decidable (_ ∧ _ ∧ _))

def Job.next (m : Manager) (j : Nat) : Job → Event → Manager
  | .publish req, .published _ addr =>
    match m.mounts[addr]? with
    | some _ => m
    | none => (m.portalMounted addr req).setJob j none
  | .bind req, .bindAgain _ =>
    match m.bindShared req with
    | (.ok (some _), m1) => m1.setJob j (some (.bindOpen req))
    | (_, m1) => m1.setJob j none
  | .bindOpen req, .bindOpened _ now fault => (m.bindOpened now fault req).2.setJob j none
  | .attach req, .attachOpened _ now fault => (m.attachOpened now fault req).2.setJob j none
  | .prepare volumeID, .transfer _ =>
    let r := m.volumes.startHandoff volumeID
    { m with volumes := r.2 }.setJob j (if r.1.isOk then some (.drain volumeID) else none)
  | .drain volumeID, .prepared _ =>
    if m.volumes.drained volumeID then m.setJob j none else m
  | .drain volumeID, .prepareCancelled _ =>
    { m with volumes := m.volumes.cancelHandoff volumeID }.setJob j none
  | .drain volumeID, .prepareFailed _ now =>
    { m with volumes := m.volumes.abortHandoff now volumeID }.setJob j none
  | .complete volumeID, .completeLocked _ fault =>
    (m.completeHandoff fault volumeID).2.setJob j none
  | .cleanup (volumeID :: rest), .cleanupNext _ cutoff fault =>
    (m.releaseOwnerOnlyVolume cutoff fault volumeID).2.setJob j (some (.cleanup rest))
  | .cleanup [], .cleanupNext _ _ _ => m.setJob j none
  | _, .giveUp _ => m.setJob j none
  | _, _ => m

def Event.job : Event → Option Nat
  | .published j _ | .bindAgain j | .bindOpened j _ _ | .attachOpened j _ _
  | .transfer j | .prepared j
  | .prepareCancelled j | .prepareFailed j _ | .completeLocked j _ | .cleanupNext j _ _
  | .giveUp j => some j
  | _ => none

/-- An event that starts an operation, or that is one. -/
def Event.begin (m : Manager) : Event → Manager
  | .publish j req =>
    match m.publishPortal req with
    | (.ok (some job), m1) => m1.newJob j job
    | (_, m1) => m1
  | .unpublish fault targetPath => (m.unpublishPortal fault targetPath).2
  | .bind j req =>
    if req.Valid then
      match m.bindLookup req with
      | .ok (some job) => m.newJob j job
      | _ => m
    else m
  | .unbind fault podUID portalName => (m.unbind fault podUID portalName).2
  | .attach j now req =>
    if req.ValidOwner then
      match m.boundVolumes[req.volumeID]? with
      | some _ => { m with volumes := m.volumes.touch now req.volumeID }
      | none => m.newJob j (.attach req)
    else m
  | .prepare j volumeID =>
    match m.boundVolumes[volumeID]? with
    | some bound => if bound.refCount > 0 then m else m.newJob j (.prepare volumeID)
    | none => m
  | .complete j now volumeID =>
    { m with volumes := m.volumes.abortHandoff now volumeID }.newJob j (.complete volumeID)
  | .abort now volumeID => { m with volumes := m.volumes.abortHandoff now volumeID }
  | .cleanup j cutoff => m.newJob j (.cleanup (m.idleOwnerOnly cutoff))
  | .acquire now volumeID => { m with volumes := (m.volumes.acquire now volumeID).2 }
  | .release now volumeID => { m with volumes := m.volumes.release now volumeID }
  | _ => m

def Event.next (m : Manager) (e : Event) : Manager :=
  match e.job with
  | none => e.begin m
  | some j =>
    match m.jobs[j]? with
    | none => m
    | some job => job.next m j e

def Fresh (m : Manager) : Prop :=
  (∀ addr : Nat, m.mounts[addr]? = none) ∧ (∀ key : GoString, m.portals[key]? = none) ∧
    (∀ volumeID : GoString, m.boundVolumes[volumeID]? = none) ∧ ∀ j : Nat, m.jobs[j]? = none

/-! ## Consistency -/

/-- The portal with this key has this `volumeID`. -/
def Manager.Binds (m : Manager) (key volumeID : GoString) : Prop :=
  ∃ addr pm, m.portals[key]? = some addr ∧ m.mounts[addr]? = some pm ∧ pm.volumeID = volumeID

/-- Each reference count is the number of portals of its volume, and each
bound portal has an entry and a mounted volume. -/
structure Bookkeeping (m : Manager) : Prop where
  refCount : ∀ (volumeID : GoString) (bound : BoundVolume),
    m.boundVolumes[volumeID]? = some bound → bound.refCount = (m.portalsOf volumeID).length
  bound : ∀ key volumeID : GoString, m.Binds key volumeID → volumeID ≠ [] →
    (∃ bound, m.boundVolumes[volumeID]? = some bound) ∧
      ∃ volCtx, m.volumes.volumes[volumeID]? = some volCtx

/-- A portal stands under its own key, and an object that is out of the table
is bound to nothing. -/
structure Shaped (m : Manager) : Prop where
  own : ∀ (key : GoString) (addr : Nat), m.portals[key]? = some addr →
    ∃ pm, m.mounts[addr]? = some pm ∧ pm.key = key
  listed : ∀ (addr : Nat) (pm : PortalMount), m.mounts[addr]? = some pm → pm.volumeID ≠ [] →
    m.portals[pm.key]? = some addr

/-- The entries count the portals, and their volumes are mounted. -/
structure Counted (m : Manager) : Prop where
  bound : ∀ key volumeID : GoString, m.Binds key volumeID → volumeID ≠ [] →
    ∃ bound, m.boundVolumes[volumeID]? = some bound
  mounted : ∀ (volumeID : GoString) (bound : BoundVolume), m.boundVolumes[volumeID]? = some bound →
    ∃ volCtx, m.volumes.volumes[volumeID]? = some volCtx
  named : ∀ (volumeID : GoString) (bound : BoundVolume), m.boundVolumes[volumeID]? = some bound →
    volumeID ≠ []
  refCount : ∀ (volumeID : GoString) (bound : BoundVolume),
    m.boundVolumes[volumeID]? = some bound → bound.refCount = (m.portalsOf volumeID).length

variable {m m' : Manager} {volumeID k v key : GoString} {addr : Nat} {pm : PortalMount}
    {bound : BoundVolume} {fault : Option UnmountErr} {req : BindRequest} {e : Event}

open Manager

lemma mem_portalsOf : key ∈ m.portalsOf volumeID ↔ m.Binds key volumeID := by
  unfold portalsOf Binds
  constructor
  · intro h
    obtain ⟨⟨key', addr⟩, hmem, rfl⟩ := mem_map.mp h
    obtain ⟨hin, hany⟩ := mem_filter.mp hmem
    cases hm : m.mounts[addr]? with
    | none => simp [hm] at hany
    | some pm =>
      simp [hm] at hany
      exact ⟨addr, pm, (mem_toList _ _ _).mp hin, hm, hany⟩
  · rintro ⟨addr, pm, hkey, hm, hvol⟩
    refine mem_map.mpr ⟨(key, addr), mem_filter.mpr ⟨?_, ?_⟩, rfl⟩
    · exact (mem_toList _ _ _).mpr hkey
    · simp [hm, hvol]

lemma nodup_portalsOf (m : Manager) (volumeID : GoString) : (m.portalsOf volumeID).Nodup :=
  (nodup_keys m.portals).sublist (filter_sublist.map _)

lemma lookup_some (h : m.lookup key = some (addr, pm)) :
    m.portals[key]? = some addr ∧ m.mounts[addr]? = some pm := by
  unfold Manager.lookup at h
  split at h
  · cases h
  rename_i a ha
  obtain ⟨q, hq, heq⟩ := map_eq_some_iff.mp h
  cases heq
  exact ⟨ha, hq⟩

lemma Counted.bookkeeping (h : Counted m) : Bookkeeping m := by
  refine ⟨h.refCount, ?_⟩
  intro key volumeID hbinds hvol
  obtain ⟨bound, hbound⟩ := h.bound key volumeID hbinds hvol
  exact ⟨⟨bound, hbound⟩, h.mounted volumeID bound hbound⟩

lemma length_portalsOf_eq (h : ∀ key, m'.Binds key volumeID ↔ m.Binds key volumeID) :
    (m'.portalsOf volumeID).length = (m.portalsOf volumeID).length := by
  apply Perm.length_eq
  rw [perm_ext_iff_of_nodup (nodup_portalsOf m' volumeID) (nodup_portalsOf m volumeID)]
  intro key
  rw [mem_portalsOf, mem_portalsOf, h]

lemma length_portalsOf_succ (key : GoString) (hnew : ¬ m.Binds key volumeID)
    (h : ∀ k, m'.Binds k volumeID ↔ k = key ∨ m.Binds k volumeID) :
    (m'.portalsOf volumeID).length = (m.portalsOf volumeID).length + 1 := by
  have hnodup : (key :: m.portalsOf volumeID).Nodup :=
    nodup_cons.mpr ⟨fun hin => hnew (mem_portalsOf.mp hin), nodup_portalsOf m volumeID⟩
  have hperm : (m'.portalsOf volumeID).Perm (key :: m.portalsOf volumeID) := by
    rw [perm_ext_iff_of_nodup (nodup_portalsOf m' volumeID) hnodup]
    intro k
    rw [mem_portalsOf, h, mem_cons, mem_portalsOf]
  exact hperm.length_eq

/-! ## Changes of the count -/

lemma Counted.same (h : Counted m) (hbinds : ∀ k v, v ≠ [] → (m'.Binds k v ↔ m.Binds k v))
    (hbound : ∀ v : GoString, (m'.boundVolumes[v]?).map BoundVolume.refCount =
      (m.boundVolumes[v]?).map BoundVolume.refCount)
    (hvol : ∀ (v : GoString) (b : BoundVolume), m.boundVolumes[v]? = some b →
      (∃ c, m.volumes.volumes[v]? = some c) → ∃ c, m'.volumes.volumes[v]? = some c) :
    Counted m' := by
  have hback : ∀ (v : GoString) (b : BoundVolume), m'.boundVolumes[v]? = some b →
      ∃ b0, m.boundVolumes[v]? = some b0 ∧ b0.refCount = b.refCount := by
    intro v b hb
    have hv := hbound v
    rw [hb, map_some] at hv
    obtain ⟨b0, hb0, heq⟩ := map_eq_some_iff.mp hv.symm
    exact ⟨b0, hb0, heq⟩
  constructor
  case bound =>
    intro k v hk hv
    obtain ⟨b, hb⟩ := h.bound k v ((hbinds k v hv).mp hk) hv
    have hmap := hbound v
    rw [hb, map_some] at hmap
    obtain ⟨b', hb', _⟩ := map_eq_some_iff.mp hmap
    exact ⟨b', hb'⟩
  all_goals
    intro v b hb
    obtain ⟨b0, hb0, heq⟩ := hback v b hb
  · exact hvol v b0 hb0 (h.mounted v b0 hb0)
  · exact h.named v b0 hb0
  · rw [← heq, h.refCount v b0 hb0, length_portalsOf_eq (fun k => hbinds k v (h.named v b0 hb0))]

section

variable (h : Counted m)
  (hother : ∀ v : GoString, v ≠ volumeID → m'.boundVolumes[v]? = m.boundVolumes[v]? ∧
    ((∃ c, m.volumes.volumes[v]? = some c) → ∃ c, m'.volumes.volumes[v]? = some c))

include h hother

lemma Counted.changed (hbinds : ∀ k v, v ≠ volumeID → v ≠ [] → (m'.Binds k v ↔ m.Binds k v))
    (hbound : ∀ k, m'.Binds k volumeID → volumeID ≠ [] → ∃ b, m'.boundVolumes[volumeID]? = some b)
    (hentry : ∀ b : BoundVolume, m'.boundVolumes[volumeID]? = some b →
      (∃ c, m'.volumes.volumes[volumeID]? = some c) ∧ volumeID ≠ [] ∧
        b.refCount = (m'.portalsOf volumeID).length) : Counted m' := by
  have heach : ∀ (v : GoString) (b : BoundVolume), m'.boundVolumes[v]? = some b →
      (∃ c, m'.volumes.volumes[v]? = some c) ∧ v ≠ [] ∧ b.refCount = (m'.portalsOf v).length := by
    intro v b hb
    by_cases hv : v = volumeID
    · exact hv ▸ hentry b (hv ▸ hb)
    rw [(hother v hv).1] at hb
    have hname := h.named v b hb
    refine ⟨(hother v hv).2 (h.mounted v b hb), hname, ?_⟩
    rw [length_portalsOf_eq fun k => hbinds k v hv hname, h.refCount v b hb]
  refine ⟨?_, fun v b hb => (heach v b hb).1, fun v b hb => (heach v b hb).2.1,
    fun v b hb => (heach v b hb).2.2⟩
  intro k v hk hname
  by_cases hv : v = volumeID
  · exact hv ▸ hbound k (hv ▸ hk) (hv ▸ hname)
  · rw [(hother v hv).1]
    exact h.bound k v ((hbinds k v hv hname).mp hk) hname

/-- A portal loses its volume. The entry counts one less, or it goes when
this was the last portal. -/
lemma Counted.detach (hkey : m.Binds key volumeID)
    (hbinds : ∀ k v, v ≠ [] → (m'.Binds k v ↔ k ≠ key ∧ m.Binds k v))
    (hfree : ∀ v, v ≠ volumeID → v ≠ [] → ¬ m.Binds key v)
    (hown : (m'.boundVolumes[volumeID]? = none ∧ (m.portalsOf volumeID).length = 1) ∨
      ∃ bound, m'.boundVolumes[volumeID]? = some bound ∧
        bound.refCount + 1 = (m.portalsOf volumeID).length ∧
        volumeID ≠ [] ∧ ∃ c, m'.volumes.volumes[volumeID]? = some c) : Counted m' := by
  have hpred : volumeID ≠ [] →
      (m.portalsOf volumeID).length = (m'.portalsOf volumeID).length + 1 := by
    intro hname
    apply length_portalsOf_succ key
    · rw [hbinds key volumeID hname]
      simp
    · intro k
      rw [hbinds k volumeID hname]
      by_cases hk : k = key
      · simp [hk, hkey]
      · simp [hk]
  refine h.changed hother
    (fun k v hv hname => (hbinds k v hname).trans ⟨And.right, fun hk => ⟨?_, hk⟩⟩) ?_ ?_
  · rintro rfl
    exact hfree v hv hname hk
  · intro k hk hname
    rcases hown with ⟨_, hone⟩ | ⟨bound, hb, _⟩
    · -- the last portal is gone, so no other one is bound to the volume
      have hlength := hpred hname
      have hpos := length_pos_of_mem (mem_portalsOf.mpr hk)
      omega
    · exact ⟨bound, hb⟩
  · intro b hb
    rcases hown with ⟨hnone, _⟩ | ⟨bound, hb', hcount, hname, hc⟩
    · rw [hnone] at hb
      cases hb
    rw [hb', Option.some.injEq] at hb
    subst hb
    have hlength := hpred hname
    exact ⟨hc, hname, by omega⟩

end

lemma Counted.attach (h : Counted m) (hname : volumeID ≠ []) (hfree : ∀ v, v ≠ [] → ¬ m.Binds key v)
    (hbinds : ∀ k v, v ≠ [] → (m'.Binds k v ↔ (k = key ∧ v = volumeID) ∨ m.Binds k v))
    (hbound : ∀ v : GoString, m'.boundVolumes[v]? =
      if volumeID = v then some bound else m.boundVolumes[v]?)
    (hcount : bound.refCount = (m.portalsOf volumeID).length + 1)
    (hvol : ∀ v : GoString, (v = volumeID ∨ ∃ c, m.volumes.volumes[v]? = some c) →
      ∃ c, m'.volumes.volumes[v]? = some c) : Counted m' := by
  refine h.changed ?_ (fun k v hv hne => (hbinds k v hne).trans (by simp [hv]))
    (fun _ _ _ => ⟨bound, (hbound _).trans (if_pos rfl)⟩) ?_
  · intro v hv
    exact ⟨(hbound v).trans (if_neg (Ne.symm hv)), fun hc => hvol v (.inr hc)⟩
  · intro b hb
    rw [hbound, if_pos rfl, Option.some.injEq] at hb
    refine ⟨hvol _ (.inl rfl), hname, ?_⟩
    have hsucc := length_portalsOf_succ key (hfree volumeID hname)
      (fun k => (hbinds k volumeID hname).trans (by simp))
    rw [← hb, hcount, hsucc]
    simp

/-! ## Changes of an object -/

lemma binds_setMount : (m.setMount addr pm).Binds k v ↔
      (m.portals[k]? = some addr ∧ pm.volumeID = v) ∨
        (m.portals[k]? ≠ some addr ∧ m.Binds k v) := by
  constructor
  · rintro ⟨a, q, hka, hqa, hqv⟩
    rcases of_get_insert hqa with ⟨rfl, rfl⟩ | ⟨ha, hqa⟩
    · exact .inl ⟨hka, hqv⟩
    · exact .inr ⟨fun hk => ha (Option.some.inj (hka.symm.trans hk)), a, q, hka, hqa, hqv⟩
  · rintro (⟨hk, hv⟩ | ⟨hne, a, q, hka, hqa, hqv⟩)
    · exact ⟨addr, pm, hk, get_insert_self _ _ _, hv⟩
    · refine ⟨a, q, hka, (get_insert_ne _ _ ?_).trans hqa, hqv⟩
      rintro rfl
      exact hne hka

/-- A portal keeps its key; an object that is not listed stays unbound. -/
lemma Shaped.setMount (h : Shaped m) {pm' : PortalMount} (hm : m.mounts[addr]? = some pm)
    (hkey : pm'.key = pm.key) (hl : pm'.volumeID ≠ [] → m.portals[pm.key]? = some addr) :
    Shaped (m.setMount addr pm') := by
  refine ⟨?_, ?_⟩
  · intro k a hka
    obtain ⟨q, hq, hkq⟩ := h.own k a hka
    by_cases ha : addr = a
    · subst ha
      rw [hm, Option.some.injEq] at hq
      exact ⟨pm', get_insert_self _ _ _, by rw [hkey, hq, hkq]⟩
    · exact ⟨q, (get_insert_ne _ _ ha).trans hq, hkq⟩
  · refine all_insert ?_ h.listed
    rw [hkey]
    exact hl

lemma Shaped.same (h : Shaped m) (hm : m'.mounts = m.mounts) (hp : m'.portals = m.portals) :
    Shaped m' := by
  refine ⟨?_, ?_⟩
  · rw [hm, hp]; exact h.own
  · rw [hm, hp]; exact h.listed

lemma binds_same (hm : m'.mounts = m.mounts) (hp : m'.portals = m.portals) (k v : GoString) :
    m'.Binds k v ↔ m.Binds k v := by
  unfold Binds
  rw [hm, hp]

lemma Shaped.key_unique (h : Shaped m) (hkey : m.portals[key]? = some addr) :
    m.portals[k]? = some addr ↔ k = key := by
  constructor
  · intro hk
    obtain ⟨q, hq, hkq⟩ := h.own k addr hk
    obtain ⟨q', hq', hkq'⟩ := h.own key addr hkey
    cases hq.symm.trans hq'
    exact hkq.symm.trans hkq'
  · rintro rfl
    exact hkey

lemma binds_unique {v' : GoString} (h : m.Binds k v) (h' : m.Binds k v') : v = v' := by
  obtain ⟨a, q, hka, hqa, hqv⟩ := h
  obtain ⟨a', q', hka', hqa', hqv'⟩ := h'
  cases hka.symm.trans hka'
  cases hqa.symm.trans hqa'
  exact hqv.symm.trans hqv'

lemma not_binds_of_blank (hp : m.portals[k]? = some addr) (hm : m.mounts[addr]? = some pm)
    (hempty : pm.volumeID = []) (hv : v ≠ []) : ¬ m.Binds k v :=
  fun hb => hv ((binds_unique hb ⟨addr, pm, hp, hm, rfl⟩).trans hempty)

lemma unmountBound_cases (m : Manager) (fault : Option UnmountErr) (volumeID : GoString)
    (bound : BoundVolume) : let m' := (m.unmountBound fault volumeID bound).2
    (m'.mounts = m.mounts ∧ m'.portals = m.portals ∧ m'.jobs = m.jobs) ∧
      ((fault ≠ none ∧ m'.volumes = m.volumes ∧ ∀ v : GoString, m'.boundVolumes[v]? =
            if volumeID = v then some { bound with materializer := false }
            else m.boundVolumes[v]?) ∨
        ((∀ v : GoString, m'.boundVolumes[v]? = if volumeID = v then none else m.boundVolumes[v]?) ∧
          ∀ v : GoString, v ≠ volumeID → m'.volumes.volumes[v]? = m.volumes.volumes[v]?)) := by
  have hvolumes : (m.setBound volumeID { bound with materializer := false }).volumes =
    m.volumes := rfl
  unfold unmountBound
  rcases m.volumes.unmountVolume_volumes fault volumeID with ⟨e, he, hun⟩ | ⟨volumes, hun, hsame⟩
  · simp only [hvolumes, hun]
    refine ⟨⟨rfl, rfl, rfl⟩, .inl ⟨by simp [he], trivial, fun v => ?_⟩⟩
    exact get_insert _ _ _ _
  simp only [hvolumes, hun]
  refine ⟨⟨rfl, rfl, rfl⟩, .inr ⟨fun v => ?_, hsame⟩⟩
  simp only [dropBound, setBound, get_erase, get_insert]
  by_cases hv : volumeID = v <;> simp [hv]

/-- A portal, an entry and the table of volumes, kept together. -/
structure Consistent (m : Manager) : Prop where
  shaped : Shaped m
  counted : Counted m

/-- The volume leaves when its last portal does, so the unmount must not fail then. -/
def Manager.UnmountsWell (m : Manager) (fault : Option UnmountErr) (pm : PortalMount) : Prop :=
  pm.volumeID ≠ [] → ∀ bound ∈ m.boundVolumes[pm.volumeID]?, bound.refCount ≤ 1 → fault = none

instance (m : Manager) (fault : Option UnmountErr) (pm : PortalMount) :
    Decidable (m.UnmountsWell fault pm) :=
  inferInstanceAs (Decidable (_ → ∀ bound ∈ m.boundVolumes[pm.volumeID]?, _ → _))

section

variable (m addr pm fault)

/-- The object after the unbind has no volume; the others and the table of
portals are as before. -/
lemma unbindLockedSnapshot_frame : let m' := (m.unbindLockedSnapshot fault addr pm).2
    m'.mounts = (m.clearPortalLocked addr pm).mounts ∧ m'.portals = m.portals ∧
      m'.jobs = m.jobs := by
  unfold unbindLockedSnapshot
  dsimp only
  split
  · exact ⟨rfl, rfl, rfl⟩
  split
  · exact ⟨rfl, rfl, rfl⟩
  split
  · exact ⟨rfl, rfl, rfl⟩
  · exact (unmountBound_cases (m.clearPortalLocked addr pm) fault pm.volumeID _).1

lemma unbindLockedSnapshot_binds (hv : v ≠ []) :
    (m.unbindLockedSnapshot fault addr pm).2.Binds k v ↔
      m.portals[k]? ≠ some addr ∧ m.Binds k v := by
  obtain ⟨hmounts, hportals, _⟩ := unbindLockedSnapshot_frame m addr pm fault
  rw [binds_same (m := m.clearPortalLocked addr pm) hmounts hportals k v]
  unfold clearPortalLocked
  rw [binds_setMount]
  simp [Ne.symm hv]

end

lemma unbindLockedSnapshot_consistent (h : Consistent m) (hm : m.mounts[addr]? = some pm)
    (hwell : m.UnmountsWell fault pm) : Consistent (m.unbindLockedSnapshot fault addr pm).2 := by
  obtain ⟨hmounts, hportals, _⟩ := unbindLockedSnapshot_frame m addr pm fault
  have hclear : Shaped (m.clearPortalLocked addr pm) :=
    h.shaped.setMount hm rfl (fun hne => absurd rfl hne)
  refine ⟨hclear.same hmounts hportals, ?_⟩
  by_cases hvol : pm.volumeID = []
  · -- the object had no volume
    have heq : (m.unbindLockedSnapshot fault addr pm).2 = m.clearPortalLocked addr pm := by
      unfold unbindLockedSnapshot
      simp [hvol]
    refine h.counted.same (fun k v hv => ?_) (fun v => by rw [heq]; rfl)
      (fun v b _ hc => by rw [heq]; exact hc)
    rw [unbindLockedSnapshot_binds m addr pm fault hv]
    exact ⟨fun hk => hk.2, fun hk => ⟨fun hp => not_binds_of_blank hp hm hvol hv hk, hk⟩⟩
  · have hlisted := h.shaped.listed addr pm hm hvol
    have hkey : m.Binds pm.key pm.volumeID := ⟨addr, pm, hlisted, hm, rfl⟩
    obtain ⟨bound, hbound⟩ := h.counted.bound pm.key pm.volumeID hkey hvol
    have hcount := h.counted.refCount pm.volumeID bound hbound
    have hpos : 0 < (m.portalsOf pm.volumeID).length :=
      length_pos_of_mem (mem_portalsOf.mpr hkey)
    have hbinds' : ∀ k v, v ≠ [] → ((m.unbindLockedSnapshot fault addr pm).2.Binds k v ↔
        k ≠ pm.key ∧ m.Binds k v) := by
      intro k v hv
      rw [unbindLockedSnapshot_binds m addr pm fault hv, Ne, h.shaped.key_unique hlisted]
    have hfree : ∀ v, v ≠ pm.volumeID → v ≠ [] → ¬ m.Binds pm.key v :=
      fun v hv _ hb => hv (binds_unique hb hkey)
    have hb1 : (m.clearPortalLocked addr pm).boundVolumes[pm.volumeID]? = some bound := hbound
    have hmounted := h.counted.mounted pm.volumeID bound hbound
    by_cases hmany : bound.refCount > 1
    · have heq : (m.unbindLockedSnapshot fault addr pm).2 = (m.clearPortalLocked addr pm).setBound
          pm.volumeID { bound with refCount := bound.refCount - 1 } := by
        simp only [unbindLockedSnapshot, if_neg hvol, hb1, if_pos hmany]
      rw [heq] at hbinds' ⊢
      refine h.counted.detach ?_ hkey hbinds' hfree
        (.inr ⟨_, get_insert_self _ _ _, ?_, hvol, hmounted⟩)
      · exact fun v hv => ⟨get_insert_ne _ _ (Ne.symm hv), id⟩
      · rw [← hcount]
        ring
    · have hnone : fault = none := hwell hvol bound hbound (by omega)
      have heq : (m.unbindLockedSnapshot fault addr pm).2 =
          ((m.clearPortalLocked addr pm).unmountBound fault pm.volumeID bound).2 := by
        simp only [unbindLockedSnapshot, if_neg hvol, hb1, if_neg hmany]
      obtain ⟨_, ⟨hfault, _⟩ | ⟨hbv, hvs⟩⟩ :=
        unmountBound_cases (m.clearPortalLocked addr pm) fault pm.volumeID bound
      · exact absurd hnone hfault
      · rw [← heq] at hbv hvs
        refine h.counted.detach ?_ hkey hbinds' hfree (.inl ⟨(hbv _).trans (if_pos rfl), by omega⟩)
        intro v hv
        refine ⟨(hbv v).trans (if_neg (Ne.symm hv)), ?_⟩
        rw [hvs v hv]
        exact id

/-! ## The operations -/

lemma Consistent.erasePortal (h : Consistent m) (key : GoString)
    (hfree : ∀ v, v ≠ [] → ¬ m.Binds key v) (byTarget : GoMap GoString Nat) :
    Consistent { m with portals := m.portals.erase key, portalsByTarget := byTarget } := by
  have hbinds : ∀ k v, v ≠ [] →
      (Binds { m with portals := m.portals.erase key, portalsByTarget := byTarget } k v ↔
        m.Binds k v) := by
    intro k v hv
    unfold Binds
    simp only [get_erase]
    by_cases hk : key = k
    · subst hk
      have := hfree v hv
      unfold Binds at this
      simpa using this
    · simp [hk]
  refine ⟨⟨?_, ?_⟩, h.counted.same hbinds (fun _ => rfl) (fun _ _ _ hc => hc)⟩
  · intro k a hka
    exact h.shaped.own k a (of_get_erase hka).2
  · intro a q hqa hqv
    have hlisted := h.shaped.listed a q hqa hqv
    simp only [get_erase]
    rw [if_neg]
    · exact hlisted
    · rintro rfl
      exact hfree q.volumeID hqv ⟨a, q, hlisted, hqa, rfl⟩

/-- The tables after an unbind do not depend on which keys and targets are listed. -/
lemma unbindLockedSnapshot_erase (m : Manager) (fault : Option UnmountErr) (addr : Nat)
    (pm : PortalMount) (portals byTarget : GoMap GoString Nat) :
    (({ m with portals := portals, portalsByTarget := byTarget } : Manager).unbindLockedSnapshot
      fault addr pm).2 =
      { (m.unbindLockedSnapshot fault addr pm).2 with
        portals := portals, portalsByTarget := byTarget } := by
  unfold unbindLockedSnapshot unmountBound
  dsimp only [clearPortalLocked, setMount, setBound]
  split
  · rfl
  split
  · rfl
  split
  · rfl
  split <;> rfl

/-- The target's portal is the one in the table, or the one in the table has
no volume. -/
def Manager.Stands (m : Manager) (addr : Nat) (pm : PortalMount) : Prop :=
  ∀ addr' ∈ m.portals[pm.key]?, addr' = addr ∨ ∀ pm' ∈ m.mounts[addr']?, pm'.volumeID = []

instance (m : Manager) (addr : Nat) (pm : PortalMount) : Decidable (m.Stands addr pm) :=
  inferInstanceAs (Decidable (∀ addr' ∈ m.portals[pm.key]?, _ ∨ ∀ pm' ∈ m.mounts[addr']?, _))

open LocalVolumes

section

variable (h : Consistent m)

include h

lemma unpublishPortal_consistent {targetPath : GoString}
    (hok : ∀ addr ∈ m.portalsByTarget[targetPath]?, ∀ pm ∈ m.mounts[addr]?,
      m.UnmountsWell fault pm ∧ m.Stands addr pm) :
    Consistent (m.unpublishPortal fault targetPath).2 := by
  unfold unpublishPortal
  split
  · exact h
  rename_i addr haddr
  split
  · exact h
  rename_i pm hm
  obtain ⟨hwell, hstands⟩ := hok addr haddr pm hm
  dsimp only
  rw [unbindLockedSnapshot_erase]
  have hportals := (unbindLockedSnapshot_frame m addr pm fault).2.1
  have herase := (unbindLockedSnapshot_consistent h hm hwell).erasePortal pm.key (fun v hv hb => ?_)
    (m.portalsByTarget.erase targetPath)
  · rw [hportals] at herase
    exact herase
  · obtain ⟨hne, a, q, hka, hqa, hqv⟩ := (unbindLockedSnapshot_binds m addr pm fault hv).mp hb
    rcases hstands a hka with rfl | hblank
    · exact hne hka
    · exact hv (hqv.symm.trans (hblank q hqa))

/-- A new portal without a volume, where none with a volume stood. -/
lemma portalMounted_consistent {req : PublishRequest} (hnew : m.mounts[addr]? = none)
    (hfree : ∀ v, v ≠ [] → ¬ m.Binds (portalKey req.podUID req.name) v) :
    Consistent (m.portalMounted addr req) := by
  have hold : ∀ (k : GoString) (a : Nat), m.portals[k]? = some a → addr ≠ a := by
    rintro k a hka rfl
    obtain ⟨q, hq, _⟩ := h.shaped.own k addr hka
    rw [hnew] at hq
    cases hq
  have hbinds : ∀ k v, v ≠ [] → ((m.portalMounted addr req).Binds k v ↔ m.Binds k v) := by
    intro k v hv
    constructor
    · rintro ⟨a, q, hka, hqa, hqv⟩
      rcases of_get_insert hqa with ⟨-, rfl⟩ | ⟨ha, hqa⟩
      · exact absurd hqv.symm hv
      · rcases of_get_insert hka with ⟨-, rfl⟩ | ⟨-, hka⟩
        · exact absurd rfl ha
        · exact ⟨a, q, hka, hqa, hqv⟩
    · rintro ⟨a, q, hka, hqa, hqv⟩
      refine ⟨a, q, (get_insert_ne _ _ ?_).trans hka,
        (get_insert_ne _ _ (hold k a hka)).trans hqa, hqv⟩
      rintro rfl
      exact hfree v hv ⟨a, q, hka, hqa, hqv⟩
  refine ⟨⟨?_, ?_⟩, h.counted.same hbinds (fun _ => rfl) (fun _ _ _ hc => hc)⟩
  · intro k a hka
    rcases of_get_insert hka with ⟨rfl, rfl⟩ | ⟨-, hka⟩
    · exact ⟨_, get_insert_self _ _ _, rfl⟩
    · obtain ⟨q, hq, hkq⟩ := h.shaped.own k a hka
      exact ⟨q, (get_insert_ne _ _ (hold k a hka)).trans hq, hkq⟩
  · intro a q hqa hqv
    rcases of_get_insert hqa with ⟨-, rfl⟩ | ⟨-, hqa⟩
    · exact absurd rfl hqv
    have hlisted := h.shaped.listed a q hqa hqv
    refine (get_insert_ne _ _ fun hk => ?_).trans hlisted
    rw [← hk] at hlisted
    exact hfree q.volumeID hqv ⟨a, q, hlisted, hqa, rfl⟩

lemma Consistent.attach {volumes : LocalVolumes} (hlookup : m.lookup key = some (addr, pm))
    (hempty : pm.volumeID = []) (hname : req.volumeID ≠ [])
    (hcount : bound.refCount = (m.portalsOf req.volumeID).length + 1)
    (hvol : ∀ v : GoString, (v = req.volumeID ∨ ∃ c, m.volumes.volumes[v]? = some c) →
      ∃ c, volumes.volumes[v]? = some c) :
    Consistent { (m.attachPortalLocked addr pm req).setBound req.volumeID bound with volumes } := by
  obtain ⟨hp, hm⟩ := lookup_some hlookup
  obtain ⟨q, hq, hkq⟩ := h.shaped.own key addr hp
  cases hm.symm.trans hq
  have hshaped : Shaped (m.attachPortalLocked addr pm req) :=
    h.shaped.setMount hm rfl (fun _ => by rw [hkq]; exact hp)
  have hfree : ∀ v, v ≠ [] → ¬ m.Binds key v := fun _ => not_binds_of_blank hp hm hempty
  refine ⟨hshaped.same rfl rfl,
    h.counted.attach hname hfree ?_ (fun v => get_insert _ _ _ _) hcount hvol⟩
  intro k v hv
  have hbinds : (m.attachPortalLocked addr pm req).Binds k v ↔
      (m.portals[k]? = some addr ∧ req.volumeID = v) ∨ (m.portals[k]? ≠ some addr ∧ m.Binds k v) :=
    binds_setMount
  rw [Ne, h.shaped.key_unique hp] at hbinds
  refine (binds_same rfl rfl k v).trans (hbinds.trans ?_)
  by_cases hk : k = key
  · simp [hk, hfree v hv, eq_comm]
  · simp [hk]

/-- An entry without portals comes, changes its flags or goes. -/
lemma Consistent.entry (hm : m'.mounts = m.mounts) (hp : m'.portals = m.portals)
    (hzero : m.portalsOf volumeID = [])
    (hother : ∀ v : GoString, v ≠ volumeID → m'.boundVolumes[v]? = m.boundVolumes[v]? ∧
      m'.volumes.volumes[v]? = m.volumes.volumes[v]?)
    (hown : ∀ bound : BoundVolume, m'.boundVolumes[volumeID]? = some bound →
      bound.refCount = 0 ∧ volumeID ≠ [] ∧ ∃ c, m'.volumes.volumes[volumeID]? = some c) :
    Consistent m' := by
  have hbinds := binds_same hm hp
  refine ⟨h.shaped.same hm hp,
    h.counted.changed ?_ (fun k v (_ : v ≠ volumeID) _ => hbinds k v) ?_ ?_⟩
  · intro v hv
    exact ⟨(hother v hv).1, by rw [(hother v hv).2]; exact id⟩
  · intro k hk
    have hin := mem_portalsOf.mpr ((hbinds k volumeID).mp hk)
    rw [hzero] at hin
    cases hin
  · intro b hb
    obtain ⟨hcount, hname, hc⟩ := hown b hb
    refine ⟨hc, hname, ?_⟩
    rw [hcount, length_portalsOf_eq fun k => hbinds k volumeID, hzero]
    rfl

/-- The entry goes with its volume only when no portal is left. -/
lemma unmountBound_consistent (hb : m.boundVolumes[volumeID]? = some bound)
    (hok : fault = none → bound.refCount = 0) :
    Consistent (m.unmountBound fault volumeID bound).2 := by
  have hcount := h.counted.refCount volumeID bound hb
  obtain ⟨⟨hm, hp, _⟩, ⟨_, hvs, hbv⟩ | ⟨hbv, hvs⟩⟩ := unmountBound_cases m fault volumeID bound
  · refine ⟨h.shaped.same hm hp, h.counted.same (fun k v _ => binds_same hm hp k v) ?_ ?_⟩
    · intro v
      rw [hbv]
      by_cases hv : volumeID = v
      · rw [if_pos hv, ← hv, hb]
        rfl
      · rw [if_neg hv]
    · intro v b _ hc
      rw [hvs]
      exact hc
  · by_cases hzero : m.portalsOf volumeID = []
    · refine h.entry hm hp hzero (fun v hv => ⟨?_, hvs v hv⟩) (fun b hb' => ?_)
      · rw [hbv, if_neg (Ne.symm hv)]
      · rw [hbv, if_pos rfl] at hb'
        cases hb'
    · -- with portals left the call has failed, and the entry is still there
      cases fault with
      | none =>
        rw [hok rfl] at hcount
        have hlen : (m.portalsOf volumeID).length = 0 := by omega
        exact absurd (eq_nil_of_length_eq_zero hlen) hzero
      | some e =>
        obtain ⟨volCtx, hvc⟩ := h.counted.mounted volumeID bound hb
        have hgone := hbv volumeID
        rw [if_pos rfl] at hgone
        simp [unmountBound, setBound, unmountVolume, hvc] at hgone

lemma bindShared_consistent (hname : req.volumeID ≠ []) :
    Consistent (m.bindShared req).2 ∧ (m.bindShared req).2.jobs = m.jobs ∧
      ∀ addr pm, (m.bindShared req).1 = .ok (some (addr, pm)) → (m.bindShared req).2 = m ∧
        m.lookup (portalKey req.podUID req.portalName) = some (addr, pm) ∧ pm.volumeID = [] ∧
        m.boundVolumes[req.volumeID]? = none := by
  unfold bindShared
  dsimp only
  split
  · exact ⟨h, rfl, nofun⟩
  rename_i addr pm hlookup
  split
  · split <;> exact ⟨h, rfl, nofun⟩
  rename_i hempty
  rw [not_not] at hempty
  split
  · rename_i bound hb
    have hcount := h.counted.refCount req.volumeID bound hb
    have hmounts : ∀ v : GoString, (v = req.volumeID ∨ ∃ c, m.volumes.volumes[v]? = some c) →
        ∃ c, m.volumes.volumes[v]? = some c := by
      rintro v (rfl | hc)
      · exact h.counted.mounted _ bound hb
      · exact hc
    split
    · exact ⟨h.attach hlookup hempty hname (by dsimp only; omega) hmounts, rfl, nofun⟩
    split
    · exact ⟨h, rfl, nofun⟩
    · exact ⟨h.attach hlookup hempty hname (by dsimp only; omega) hmounts, rfl, nofun⟩
  · rename_i hb
    split
    · exact ⟨h, rfl, nofun⟩
    · refine ⟨h, rfl, fun addr' pm' he => ?_⟩
      cases he
      exact ⟨rfl, hlookup, hempty, hb⟩

lemma Consistent.no_portals (hname : volumeID ≠ []) (hb : m.boundVolumes[volumeID]? = none) :
    m.portalsOf volumeID = [] := by
  rw [eq_nil_iff_forall_not_mem]
  intro key hkey
  obtain ⟨b, hb'⟩ := h.counted.bound key volumeID (mem_portalsOf.mp hkey) hname
  rw [hb] at hb'
  cases hb'

lemma bindOpened_consistent (now : Int) (fault : Option GoString) (hname : req.volumeID ≠ []) :
    Consistent (m.bindOpened now fault req).2 ∧ (m.bindOpened now fault req).2.jobs = m.jobs := by
  obtain ⟨hc, hj, hgo⟩ := bindShared_consistent h hname
  unfold bindOpened
  rcases hshared : m.bindShared req with ⟨(_ | ⟨addr, pm⟩) | e | _, m1⟩
  · rw [hshared] at hc hj
    exact ⟨hc, hj⟩
  · rw [hshared] at hgo
    obtain ⟨rfl, hlookup, hempty, hb⟩ := hgo addr pm rfl
    have hzero := h.no_portals hname hb
    have hadded : ∀ v : GoString, (v = req.volumeID ∨ ∃ c, m1.volumes.volumes[v]? = some c) →
        ∃ c, (m1.volumes.add now (newContext req)).volumes[v]? = some c := by
      intro v hv
      rw [add_volumes, get_insert]
      by_cases hvv : (newContext req).volumeID = v
      · exact ⟨_, if_pos hvv⟩
      · rw [if_neg hvv]
        exact hv.resolve_left (fun he => hvv he.symm)
    cases fault with
    | none =>
      have heq : ((m1.enterVolume now req 1).attachPortalLocked addr pm req).running req 1 =
          { (m1.attachPortalLocked addr pm req).setBound req.volumeID
              { newBound req 1 with heartbeat := true, materializer := true } with
            volumes := m1.volumes.add now (newContext req) } := by
        simp only [enterVolume, attachPortalLocked, running, setBound, setMount, insert_insert]
      refine ⟨?_, rfl⟩
      dsimp only
      rw [heq]
      exact h.attach hlookup hempty hname (by simp [newBound, hzero]) hadded
    | some cause =>
      obtain ⟨_, hm⟩ := lookup_some hlookup
      have hwell : m1.UnmountsWell none pm := fun hne => absurd hempty hne
      have hcleared := unbindLockedSnapshot_consistent h hm hwell
      have heq : (m1.unbindLockedSnapshot none addr pm).2 = m1.clearPortalLocked addr pm := by
        unfold unbindLockedSnapshot
        simp [hempty]
      rw [heq] at hcleared
      refine ⟨hcleared.entry ?_ rfl (hcleared.no_portals hname hb) ?_ ?_, rfl⟩
      · exact insert_insert _ _ _ _
      · exact fun v hv => ⟨get_erase_insert_ne hv, get_erase_insert_ne hv⟩
      · exact fun bound hbound => absurd rfl (of_get_erase hbound).1
  · rw [hshared] at hc hj
    exact ⟨hc, hj⟩
  · rw [hshared] at hc hj
    exact ⟨hc, hj⟩

lemma attachOpened_consistent (now : Int) (fault : Option GoString) (hname : req.volumeID ≠ []) :
    Consistent (m.attachOpened now fault req).2 ∧
      (m.attachOpened now fault req).2.jobs = m.jobs := by
  unfold attachOpened
  split
  · refine ⟨⟨h.shaped.same rfl rfl,
      h.counted.same (fun k v _ => binds_same rfl rfl k v) (fun _ => rfl) ?_⟩, rfl⟩
    intro v b _ hc
    rw [touch_volumes]
    exact hc
  · rename_i hb
    have hzero := h.no_portals hname hb
    cases fault with
    | none =>
      refine ⟨h.entry rfl rfl hzero (fun v hv => ⟨?_, ?_⟩) (fun bound hbound => ?_), rfl⟩
      · exact (get_insert_ne _ _ (Ne.symm hv)).trans (get_insert_ne _ _ (Ne.symm hv))
      · exact get_insert_ne _ _ (Ne.symm hv)
      · rcases of_get_insert hbound with ⟨-, rfl⟩ | ⟨hne, -⟩
        · exact ⟨rfl, hname, newContext req, get_insert_self _ _ _⟩
        · exact absurd rfl hne
    | some cause =>
      refine ⟨h.entry rfl rfl hzero (fun v hv => ?_) (fun bound hbound => ?_), rfl⟩
      · exact ⟨get_erase_insert_ne hv, get_erase_insert_ne hv⟩
      · exact absurd rfl (of_get_erase hbound).1

end

/-! ## Runs -/

/-- The volume that a job will enter has a name. -/
def Job.Named : Job → Prop
  | .bind req | .bindOpen req | .attach req => req.volumeID ≠ []
  | _ => True

structure Sound (m : Manager) : Prop where
  consistent : Consistent m
  jobs : ∀ (j : Nat) (job : Job), m.jobs[j]? = some job → job.Named

/-- The step that the bookkeeping stands or falls with: the unmount of a last
portal's volume does not fail, a portal that is replaced or taken out with
another's target has no volume, and a handoff is completed without portals. -/
def Event.Careful (m : Manager) : Event → Prop
  | .published j _ => ∀ job ∈ m.jobs[j]?, ∀ req ∈ job.publishes,
      ∀ addr ∈ m.portals[portalKey req.podUID req.name]?, ∀ pm ∈ m.mounts[addr]?, pm.volumeID = []
  | .unpublish fault targetPath => ∀ addr ∈ m.portalsByTarget[targetPath]?, ∀ pm ∈ m.mounts[addr]?,
      m.UnmountsWell fault pm ∧ m.Stands addr pm
  | .unbind fault podUID portalName => ∀ p ∈ m.lookup (portalKey podUID portalName),
      m.UnmountsWell fault p.2
  | .completeLocked j fault => ∀ job ∈ m.jobs[j]?, ∀ volumeID ∈ job.completes,
      ∀ bound ∈ m.boundVolumes[volumeID]?, fault = none → bound.refCount = 0
  | _ => True

lemma Consistent.sameTables (h : Consistent m) (hm : m'.mounts = m.mounts)
    (hp : m'.portals = m.portals) (hb : m'.boundVolumes = m.boundVolumes)
    (hv : m'.volumes.volumes = m.volumes.volumes) : Consistent m' := by
  refine ⟨h.shaped.same hm hp, h.counted.same (fun k v _ => binds_same hm hp k v) ?_ ?_⟩
  · intro v
    rw [hb]
  · intro v b _ hc
    rw [hv]
    exact hc

/-- A consistent state whose jobs are those of a sound one, up to one. -/
lemma Sound.setJob (h : Sound m) (hc : Consistent m') (hj : m'.jobs = m.jobs) (j : Nat)
    {job : Option Job} (hjob : ∀ x ∈ job, x.Named := by simp) : Sound (m'.setJob j job) := by
  cases job with refine ⟨hc.sameTables rfl rfl rfl rfl, fun i x hx => ?_⟩
  | none =>
    exact h.jobs i x (hj ▸ (of_get_erase hx).2)
  | some y =>
    rcases of_get_insert hx with ⟨-, rfl⟩ | ⟨-, hx⟩
    · exact hjob _ rfl
    · exact h.jobs i x (hj ▸ hx)

lemma Sound.newJob (h : Sound m) (hc : Consistent m') (hj : m'.jobs = m.jobs) (j : Nat)
    {job : Job} (hjob : job.Named) : Sound (m'.newJob j job) := by
  unfold Manager.newJob
  split
  · exact ⟨hc, by rw [hj]; exact h.jobs⟩
  · exact h.setJob hc hj j (fun x hx => by cases hx; exact hjob)

lemma Sound.requests (h : Sound m) {volumes : LocalVolumes}
    (hv : volumes.volumes = m.volumes.volumes) : Sound { m with volumes } :=
  ⟨h.consistent.sameTables rfl rfl rfl hv, h.jobs⟩

lemma releaseOwnerOnlyVolume_consistent (h : Consistent m) (cutoff : Int)
    (fault : Option UnmountErr) (volumeID : GoString) :
    Consistent (m.releaseOwnerOnlyVolume cutoff fault volumeID).2 ∧
      (m.releaseOwnerOnlyVolume cutoff fault volumeID).2.jobs = m.jobs := by
  unfold releaseOwnerOnlyVolume
  split
  · exact ⟨h, rfl⟩
  rename_i bound hb
  split
  · exact ⟨h, rfl⟩
  rename_i hidle
  have hcount := h.counted.refCount volumeID bound hb
  refine ⟨unmountBound_consistent h hb (fun _ => ?_),
    (unmountBound_cases m fault volumeID bound).1.2.2⟩
  rw [not_or] at hidle
  omega

lemma Sound.jobNext (h : Sound m) {j : Nat} {job : Job} (hjob : m.jobs[j]? = some job)
    (hej : e.job = some j) (hcare : e.Careful m) : Sound (job.next m j e) := by
  have hnamed := h.jobs j job hjob
  have hc := h.consistent
  unfold Job.next
  split
  · rename_i req j' addr
    cases hej
    split
    · exact h
    rename_i hnew
    refine h.setJob (portalMounted_consistent hc hnew ?_) rfl j
    rintro v hv ⟨a, q, hka, hqa, hqv⟩
    have hblank := hcare _ hjob req rfl a hka q hqa
    exact hv (hqv.symm.trans hblank)
  · rename_i req j'
    obtain ⟨hc', hj', _⟩ := bindShared_consistent hc hnamed
    split
    · rename_i m1 hshared
      rw [hshared] at hc' hj'
      exact h.setJob hc' hj' j (fun x hx => by cases hx; exact hnamed)
    · rename_i m1 _ hshared
      rw [hshared] at hc' hj'
      exact h.setJob hc' hj' j
  · rename_i req j' now fault
    obtain ⟨hc', hj'⟩ := bindOpened_consistent hc now fault hnamed
    exact h.setJob hc' hj' j
  · rename_i req j' now fault
    obtain ⟨hc', hj'⟩ := attachOpened_consistent hc now fault hnamed
    exact h.setJob hc' hj' j
  · rename_i volumeID j'
    have hs := h.requests (startHandoff_volumes volumeID m.volumes)
    refine hs.setJob hs.consistent rfl j ?_
    intro x hx
    split at hx
    · cases hx
      trivial
    · cases hx
  · split
    · exact h.setJob hc rfl j
    · exact h
  · rename_i volumeID j'
    have hs := h.requests (cancelHandoff_volumes volumeID m.volumes)
    exact hs.setJob hs.consistent rfl j
  · rename_i volumeID j' now
    have hs := h.requests (abortHandoff_volumes now volumeID m.volumes)
    exact hs.setJob hs.consistent rfl j
  · rename_i volumeID j' fault
    cases hej
    unfold completeHandoff
    split
    · exact h.setJob hc rfl j
    rename_i bound hb
    refine h.setJob (unmountBound_consistent hc hb ?_)
      (unmountBound_cases m fault volumeID bound).1.2.2 j
    exact hcare _ hjob volumeID rfl bound hb
  · rename_i volumeID rest j' cutoff fault
    obtain ⟨hc', hj'⟩ := releaseOwnerOnlyVolume_consistent hc cutoff fault volumeID
    exact h.setJob hc' hj' j (fun x hx => by cases hx; trivial)
  · exact h.setJob hc rfl j
  · exact h.setJob hc rfl j
  · exact h

lemma publishPortal_sound (h : Sound m) (req : PublishRequest) : Sound (m.publishPortal req).2 ∧
      ∀ job, (m.publishPortal req).1 = .ok (some job) → job.Named := by
  unfold publishPortal
  split
  · exact ⟨h, nofun⟩
  split
  · exact ⟨h, nofun⟩
  split
  · exact ⟨h, nofun⟩
  split
  · exact ⟨⟨h.consistent.sameTables rfl rfl rfl rfl, h.jobs⟩, nofun⟩
  · refine ⟨h, fun _ he => ?_⟩
    cases he
    trivial

lemma unpublishPortal_jobs (m : Manager) (fault : Option UnmountErr) (targetPath : GoString) :
    (m.unpublishPortal fault targetPath).2.jobs = m.jobs := by
  unfold unpublishPortal
  split
  · rfl
  · split
    · rfl
    · exact (unbindLockedSnapshot_frame _ _ _ fault).2.2

lemma bindLookup_named (hname : req.volumeID ≠ []) {job : Job}
    (h : m.bindLookup req = .ok (some job)) : job.Named := by
  unfold bindLookup at h
  split at h
  · cases h
  split at h
  · cases h
  split at h
  · cases h
  · cases h
    exact hname

open Event

lemma Sound.begin (h : Sound m) (hcare : e.Careful m) : Sound (e.begin m) := by
  have hc := h.consistent
  cases e with
  | publish j req =>
    obtain ⟨hs, hjob⟩ := publishPortal_sound h req
    simp only [begin]
    split
    · rename_i job m1 heq
      rw [heq] at hs hjob
      exact hs.newJob hs.consistent rfl j (hjob job rfl)
    · rename_i m1 _ heq
      rw [heq] at hs
      exact hs
  | unpublish fault targetPath =>
    refine ⟨unpublishPortal_consistent hc hcare, ?_⟩
    simp only [begin, unpublishPortal_jobs]
    exact h.jobs
  | bind j req =>
    simp only [begin]
    split
    · rename_i hvalid
      split
      · rename_i job heq
        exact h.newJob hc rfl j (bindLookup_named hvalid.2.2.1 heq)
      · exact h
    · exact h
  | unbind fault podUID portalName =>
    simp only [begin, Manager.unbind]
    split
    · exact h
    rename_i addr pm hlookup
    refine ⟨unbindLockedSnapshot_consistent hc (lookup_some hlookup).2 (hcare _ hlookup), ?_⟩
    rw [(unbindLockedSnapshot_frame m addr pm fault).2.2]
    exact h.jobs
  | attach j now req =>
    simp only [begin]
    split
    · rename_i hvalid
      split
      · exact h.requests (touch_volumes _ _ _)
      · refine h.newJob hc rfl j (fun hempty => hvalid.1 ?_)
        rw [hempty]
        rfl
    · exact h
  | prepare j volumeID =>
    simp only [begin]
    split
    · split
      · exact h
      · exact h.newJob hc rfl j trivial
    · exact h
  | complete j now volumeID =>
    have hs := h.requests (abortHandoff_volumes now volumeID m.volumes)
    exact hs.newJob hs.consistent rfl j trivial
  | abort now volumeID => exact h.requests (abortHandoff_volumes _ _ _)
  | cleanup j cutoff => exact h.newJob hc rfl j trivial
  | acquire now volumeID => exact h.requests (acquire_volumes _ _ _)
  | release now volumeID => exact h.requests (release_volumes _ _ _)
  -- the later sections of a job begin nothing
  | _ => exact h

lemma Sound.next (h : Sound m) (hcare : e.Careful m) : Sound (e.next m) := by
  unfold Event.next
  split
  · exact h.begin hcare
  rename_i j hej
  split
  · exact h
  · rename_i job hjob
    exact h.jobNext hjob hej hcare

/-- The counts and the tables agree in every state of a careful run. -/
theorem portals_are_counted {m : Manager}
    (h : Reach Fresh (fun m e m' => m' = Event.next m e) (fun m e => e.Careful m) m) :
    Bookkeeping m := by
  have hs : Sound m := by
    refine Reach.keeps ?_ (fun m e hm hcare => hm.next hcare) h
    rintro m ⟨hmounts, hportals, hbound, hjobs⟩
    have hnone : ∀ k v, ¬ m.Binds k v := by
      rintro k v ⟨a, q, hka, _⟩
      rw [hportals k] at hka
      cases hka
    refine ⟨⟨⟨?_, ?_⟩, fun k v hk _ => absurd hk (hnone k v), ?_, ?_, ?_⟩, ?_⟩
    · simp [hportals]
    · simp [hmounts]
    · simp [hbound]
    · simp [hbound]
    · simp [hbound]
    · simp [hjobs]
  exact hs.consistent.counted.bookkeeping

instance (m : Manager) (e : Event) : Decidable (e.Careful m) := by
  unfold Event.Careful
  split <;> infer_instance

def newManager : Manager := ⟨∅, ∅, ∅, ∅, ⟨∅, ∅⟩, ∅⟩

lemma newManager_fresh : Fresh newManager := by
  refine ⟨?_, ?_, ?_, ?_⟩ <;> intro k <;> simp [newManager]

def publishing (j addr : Nat) (pod : String) : List Event :=
  [.publish j ⟨lit pod, lit "data", lit "/data", lit pod⟩, .published j addr]

/-- The portal of a pod is bound to the volume `v`. -/
def binding (j : Nat) (pod : String) (access : AccessMode) : List Event :=
  [.bind j ⟨lit pod, lit "data", lit "v", lit "t", access, 0, lit "/cache"⟩, .bindAgain j,
    .bindOpened j 0 none]

/-- Two pods share a read-only volume, and one of them leaves it. -/
def sharing : List Event :=
  publishing 0 0 "a" ++ publishing 1 1 "b" ++ binding 2 "a" .rox ++ binding 3 "b" .rox ++
    [.unbind none (lit "a") (lit "data")]

theorem portals_are_counted_while_sharing : Bookkeeping (sharing.foldl Event.next newManager) := by
  apply portals_are_counted
  exact Reach.run (.start newManager_fresh) sharing (by decide +kernel)

/-- The unmount of a volume fails when its only portal is unbound. -/
def failedUnbind : List Event :=
  publishing 0 0 "a" ++ binding 1 "a" .rwo ++
    [.unbind (some .syncMaterialize) (lit "a") (lit "data")]

theorem failed_unbind_leaves_a_count :
    ∃ m, Reach Fresh (fun m e m' => m' = Event.next m e) (fun _ _ => True) m ∧ ¬ Bookkeeping m := by
  refine ⟨failedUnbind.foldl Event.next newManager, ?_, ?_⟩
  · exact Reach.run (.start newManager_fresh) failedUnbind (by decide +kernel)
  · intro h
    have hbound : ((failedUnbind.foldl Event.next newManager).boundVolumes[lit "v"]?).map
        BoundVolume.refCount = some 1 := by decide +kernel
    obtain ⟨bound, hb, hone⟩ := map_eq_some_iff.mp hbound
    have hcount := h.refCount (lit "v") bound hb
    have hzero : (failedUnbind.foldl Event.next newManager).portalsOf (lit "v") = [] := by
      decide +kernel
    rw [hone, hzero] at hcount
    exact absurd hcount (by decide)

end sandbox0.portal
