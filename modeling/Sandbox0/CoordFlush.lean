-- Flush coordination of `storage-proxy/pkg/coordinator/coordinator.go`. One
-- instance counts the active mounts of a volume, writes a coordination record
-- and notifies; each instance that has the volume mounted flushes and writes a
-- response; the first one waits until it has as many responses as mounts.
import Sandbox0.CoordMounts

namespace sandbox0.coordinator.flush

open db List

/-! ## Tables and payloads -/

structure FlushRequest where
  coordID : GoString
  volumeID : GoString
  deriving DecidableEq

inductive CoordStatus where
  | flushing
  | completed
  | failed
  | timeout
  deriving DecidableEq

/-- `db.SnapshotCoordination`. -/
structure Coordination where
  id : GoString
  volumeID : GoString
  status : CoordStatus
  expectedNodes : Nat
  deriving DecidableEq

/-- A row of `snapshot_coordinations`, with the mounts of the volume that were
active when it was written. The code does not store those. -/
structure Record where
  coord : Coordination
  activeMounts : List VolumeMount

/-- A row of `snapshot_flush_responses`. -/
structure FlushResponse where
  id : GoString
  coordID : GoString
  clusterID : GoString
  podID : GoString
  success : Bool
  errorMessage : GoString

/-- The unique key `(coord_id, cluster_id, pod_id)`. -/
def FlushResponse.key (row : FlushResponse) : GoString × GoString × GoString :=
  (row.coordID, row.clusterID, row.podID)

/-- `DO UPDATE SET success = $5, flushed_at = $6, error_message = $7`. -/
def FlushResponse.renewed (row resp : FlushResponse) : FlushResponse :=
  { row with success := resp.success, errorMessage := resp.errorMessage }

inductive FlushErr where
  /-- `get active mounts: %w` and the other wrapped errors of the database. -/
  | wrapped (what cause : GoString)
  | cancelled
  | flushTimeout
  | flushFailed (clusterID podID errorMessage : GoString)
  deriving DecidableEq

/-! ## Instances and calls -/

/-- Where `handleFlushRequest` stands. -/
inductive Handler where
  | idle
  /-- The volume was mounted here; before `GetVolume` and `FlushAll`. -/
  | mounted (req : FlushRequest)
  /-- Before `CreateFlushResponse`. -/
  | flushed (req : FlushRequest) (success : Bool) (errMsg : GoString)
  deriving DecidableEq

structure Instance where
  own : Coordinator
  flushCh : List FlushRequest
  /-- One goroutine handles the requests, one after the other. -/
  handler : Handler

/-- Where `CoordinateFlush` stands. -/
inductive Flushing where
  | counting (volumeID : GoString) (heartbeatTimeout : Int)
  | creating (volumeID : GoString) (heartbeatTimeout : Int) (mounts : List VolumeMount)
  | notifying (coord : Coordination)
  | waiting (coord : Coordination)
  /-- Enough responses were counted; before `GetFlushResponses`. -/
  | verifying (coord : Coordination)
  | returned (coordID : Option GoString) (err : Option FlushErr)
  deriving DecidableEq

structure World where
  db : Database
  instances : GoMap Nat Instance
  coordinations : GoMap GoString Record
  responses : List FlushResponse
  /-- The payloads sent on `snapshot_flush_request`. -/
  notified : List FlushRequest
  calls : GoMap Nat Flushing
  /-- Each `FlushAll` that ended well: the coordination, the cluster and the pod. -/
  flushed : List (GoString × GoString × GoString)

/-! ## The instance that answers -/

/-- The capacity of `flushCh`. -/
def flushChSize : Nat := 100

/-- `case c.flushCh <- &req: default:`. -/
def Instance.receive (inst : Instance) (req : FlushRequest) : Instance :=
  if inst.flushCh.length < flushChSize then { inst with flushCh := inst.flushCh ++ [req] } else inst

def Instance.isVolumeMounted (inst : Instance) (volumeID : GoString) : Bool :=
  inst.own.mountedVolumes.contains volumeID

/-- `handleFlushRequest` up to the check of the mount. -/
def Instance.take (inst : Instance) : Instance :=
  match inst.handler, inst.flushCh with
  | .idle, req :: rest =>
    if inst.isVolumeMounted req.volumeID then
      { inst with flushCh := rest, handler := .mounted req }
    else { inst with flushCh := rest }
  | _, _ => inst

/-- The row is refused when its coordination is gone, when a new row has the
`id` of another one, or when the database does not run the statement. -/
def createFlushResponse (fault : Option GoString) (resp : FlushResponse) (w : World) : World :=
  if fault = none ∧ w.coordinations.contains resp.coordID ∧
      ((∃ row ∈ w.responses, row.key = resp.key) ∨ ∀ row ∈ w.responses, row.id ≠ resp.id) then
    { w with responses := upsert FlushResponse.key FlushResponse.renewed resp w.responses }
  else w

/-! ## The instance that asks -/

def countCompletedFlushes (coordID : GoString) (w : World) : Nat :=
  (w.responses.filter (fun r => r.coordID = coordID ∧ r.success = true)).length

def getFlushResponses (coordID : GoString) (w : World) : List FlushResponse :=
  w.responses.filter (fun r => r.coordID = coordID)

/-- `UpdateCoordinationStatus`; its error is not looked at. -/
def World.updateStatus (w : World) (id : GoString) (status : CoordStatus) : World :=
  match w.coordinations[id]? with
  | none => w
  | some r =>
    { w with coordinations := w.coordinations.insert id
               { r with coord := { r.coord with status } } }

/-- What happens in one step of `CoordinateFlush` besides the tables: a fresh
`id`, an error of the database, the end of the context or the deadline. -/
structure Choice where
  id : GoString
  fault : Option GoString
  ended : Option FlushErr

/-- `CreateCoordination`. The record is written with the mounts of this moment. -/
def World.createCoordination (w : World) (coord : Coordination) (heartbeatTimeout : Int) : World :=
  let activeMounts := w.db.activeMounts coord.volumeID heartbeatTimeout
  { w with coordinations := w.coordinations.insert coord.id ⟨coord, activeMounts⟩ }

/-- One turn of the loop of `waitForFlushCompletion`. -/
def waitTurn (choice : Choice) (coord : Coordination) (w : World) : Flushing × World :=
  match choice.ended with
  | some .flushTimeout =>
    (.returned (some coord.id) (some .flushTimeout), w.updateStatus coord.id .timeout)
  | some _ => (.returned (some coord.id) (some .cancelled), w.updateStatus coord.id .failed)
  | none =>
    if choice.fault = none ∧ coord.expectedNodes ≤ countCompletedFlushes coord.id w then
      (.verifying coord, w)
    else (.waiting coord, w)

/-- All nodes responded: each response must be a success. -/
def verify (choice : Choice) (coord : Coordination) (w : World) : Flushing × World :=
  match choice.fault with
  | some cause =>
    (.returned (some coord.id) (some (.wrapped (lit "get flush responses") cause)),
      w.updateStatus coord.id .failed)
  | none =>
    match (getFlushResponses coord.id w).find? (fun r => ¬ r.success) with
    | some resp =>
      (.returned (some coord.id) (some (.flushFailed resp.clusterID resp.podID resp.errorMessage)),
        w.updateStatus coord.id .failed)
    | none => (.returned (some coord.id) none, w.updateStatus coord.id .completed)

/-- One step of `CoordinateFlush`. -/
def coordinateFlush (choice : Choice) (w : World) : Flushing → Flushing × World
  | .counting volumeID heartbeatTimeout =>
    match choice.fault with
    | some cause => (.returned none (some (.wrapped (lit "get active mounts") cause)), w)
    | none =>
      match w.db.activeMounts volumeID heartbeatTimeout with
      | [] => (.returned none none, w)
      | mounts => (.creating volumeID heartbeatTimeout mounts, w)
  | .creating volumeID heartbeatTimeout mounts =>
    if choice.fault = none ∧ ¬ w.coordinations.contains choice.id then
      let coord : Coordination := ⟨choice.id, volumeID, .flushing, mounts.length⟩
      (.notifying coord, w.createCoordination coord heartbeatTimeout)
    else
      (.returned none (some (.wrapped (lit "create coordination") (choice.fault.getD []))), w)
  | .notifying coord =>
    match choice.fault with
    | some cause =>
      (.returned (some coord.id) (some (.wrapped (lit "send flush request") cause)),
        w.updateStatus coord.id .failed)
    | none => (.waiting coord, { w with notified := w.notified ++ [⟨coord.id, coord.volumeID⟩] })
  | .waiting coord => waitTurn choice coord w
  | .verifying coord => verify choice coord w
  | .returned coordID err => (.returned coordID err, w)

/-! ## Steps -/

inductive Event where
  | register (i : Nat) (fresh : Fresh) (volumeID : GoString) (options : MountOptions)
  | unregister (i : Nat) (volumeID : GoString)
  /-- Any other transaction on the mount rows, or time that passes. -/
  | rows (heartbeatTimeout : Int) (txn : Txn)
  | deliver (i : Nat) (req : FlushRequest)
  | take (i : Nat)
  /-- `GetVolume` and `FlushAll`, with the error of the one that failed. -/
  | flushAll (i : Nat) (err : Option GoString)
  | respond (i : Nat) (id : GoString) (fault : Option GoString)
  | start (k i : Nat) (volumeID : GoString)
  | advance (k : Nat) (choice : Choice)

def World.setInstance (w : World) (i : Nat) (inst : Instance) : World :=
  { w with instances := w.instances.insert i inst }

/-- A step of the instance `i`. -/
def World.atInstance (w : World) (i : Nat) (f : Instance → World) : World :=
  match w.instances[i]? with
  | none => w
  | some inst => f inst

/-- A call of `RegisterMount` or `UnregisterMount` by the instance. -/
def World.onMounts (w : World) (i : Nat) (f : Session → Session) (inst : Instance) : World :=
  let s := f ⟨inst.own, w.db⟩
  { w.setInstance i { inst with own := s.own } with db := s.db }

/-- `GetVolume` and `FlushAll` of `handleFlushRequest`. -/
def World.flushAll (w : World) (i : Nat) (err : Option GoString) (inst : Instance) : World :=
  match inst.handler, err with
  | .mounted req, some cause => w.setInstance i { inst with handler := .flushed req false cause }
  | .mounted req, none =>
    { w.setInstance i { inst with handler := .flushed req true [] } with
      flushed := (req.coordID, inst.own.clusterID, inst.own.podID) :: w.flushed }
  | _, _ => w

/-- The end of `handleFlushRequest`; an error of the insert is only logged. -/
def World.respond (w : World) (i : Nat) (id : GoString) (fault : Option GoString)
    (inst : Instance) : World :=
  match inst.handler with
  | .flushed req success errMsg =>
    createFlushResponse fault
      ⟨id, req.coordID, inst.own.clusterID, inst.own.podID, success, errMsg⟩
      (w.setInstance i { inst with handler := .idle })
  | _ => w

def World.startCall (w : World) (k : Nat) (volumeID : GoString) (inst : Instance) : World :=
  match w.calls[k]? with
  | some _ => w
  | none => { w with calls := w.calls.insert k (.counting volumeID inst.own.timeout) }

def World.advanceCall (w : World) (k : Nat) (choice : Choice) : World :=
  match w.calls[k]? with
  | none => w
  | some call =>
    let r := coordinateFlush choice w call
    { r.2 with calls := r.2.calls.insert k r.1 }

def Event.next (w : World) : Event → World
  | .register i fresh volumeID options =>
    w.atInstance i (w.onMounts i (fun s => (registerMount fresh volumeID options s).2))
  | .unregister i volumeID =>
    w.atInstance i (w.onMounts i (fun s => (unregisterMount volumeID s).2))
  | .rows heartbeatTimeout txn => { w with db := Txn.next heartbeatTimeout w.db txn }
  | .deliver i req =>
    w.atInstance i (fun inst => if req ∈ w.notified then w.setInstance i (inst.receive req) else w)
  | .take i => w.atInstance i (fun inst => w.setInstance i inst.take)
  | .flushAll i err => w.atInstance i (w.flushAll i err)
  | .respond i id fault => w.atInstance i (w.respond i id fault)
  | .start k i volumeID => w.atInstance i (w.startCall k volumeID)
  | .advance k choice => w.advanceCall k choice

def Started (w : World) : Prop :=
  w.responses = [] ∧ w.notified = [] ∧
    (∀ (i : Nat) (inst : Instance), w.instances[i]? = some inst →
      inst.flushCh = [] ∧ inst.handler = .idle) ∧
    ∀ k : Nat, w.calls[k]? = none

/-! ## The instances that have to flush -/

/-- The instances whose mounts of the volume were active when the record was
written. -/
def World.activeAt (w : World) (coordID : GoString) : Option (List (GoString × GoString)) :=
  (w.coordinations[coordID]?).map (fun r => r.activeMounts.map (fun m => (m.clusterID, m.podID)))

/-- Every instance that was active for the coordination has flushed for it. -/
def World.AllFlushed (w : World) (coordID : GoString) : Prop :=
  ∃ active ∈ w.activeAt coordID, ∀ p ∈ active, (coordID, p) ∈ w.flushed

instance (w : World) (coordID : GoString) : Decidable (w.AllFlushed coordID) :=
  inferInstanceAs (Decidable (∃ active ∈ w.activeAt coordID, _))

def World.Counts (w : World) (coordID clusterID podID : GoString) : Prop :=
  ∃ active ∈ w.activeAt coordID, (clusterID, podID) ∈ active

instance (w : World) (coordID clusterID podID : GoString) :
    Decidable (w.Counts coordID clusterID podID) :=
  inferInstanceAs (Decidable (∃ active ∈ w.activeAt coordID, _))

/-- A call that writes its record has counted every active mount. -/
def Flushing.Steady (w : World) (choice : Choice) : Flushing → Prop
  | .creating volumeID heartbeatTimeout mounts =>
    choice.fault = none → ¬ w.coordinations.contains choice.id →
      ∀ m ∈ w.db.activeMounts volumeID heartbeatTimeout,
        ∃ m' ∈ mounts, m'.clusterID = m.clusterID ∧ m'.podID = m.podID
  | _ => True

/-- A request is taken up only where the mount was active for its record. -/
def Instance.Steady (w : World) (inst : Instance) : Prop :=
  inst.handler = .idle → ∀ req ∈ inst.flushCh.head?, inst.isVolumeMounted req.volumeID = true →
    w.Counts req.coordID inst.own.clusterID inst.own.podID

/-- No mount joins between the count and the record, and no instance joins in
that was not active for the record. -/
def Event.Steady (w : World) : Event → Prop
  | .advance k choice => ∀ call ∈ w.calls[k]?, call.Steady w choice
  | .take i => ∀ inst ∈ w.instances[i]?, inst.Steady w
  | _ => True

instance (w : World) (choice : Choice) (call : Flushing) : Decidable (call.Steady w choice) := by
  unfold Flushing.Steady
  split <;> infer_instance

instance (w : World) (inst : Instance) : Decidable (inst.Steady w) :=
  inferInstanceAs (Decidable (_ → ∀ req ∈ inst.flushCh.head?, _ → _))

instance (w : World) (e : Event) : Decidable (e.Steady w) := by
  unfold Event.Steady
  split <;> infer_instance

/-- Records stay, flushes stay, and responses stay. -/
structure Grows (w w' : World) : Prop where
  activeAt : ∀ coordID active, w.activeAt coordID = some active → w'.activeAt coordID = some active
  flushed : ∀ f ∈ w.flushed, f ∈ w'.flushed
  responses : ∀ coordID, w.responses.countP (fun r => r.coordID = coordID) ≤
    w'.responses.countP (fun r => r.coordID = coordID)

lemma Grows.refl (w : World) : Grows w w :=
  ⟨fun _ _ h => h, fun _ h => h, fun _ => Nat.le_refl _⟩

variable {w w' : World} {coord : Coordination} {call : Flushing} {inst : Instance}

lemma World.Counts.mono (hg : Grows w w') {coordID clusterID podID : GoString}
    (h : w.Counts coordID clusterID podID) : w'.Counts coordID clusterID podID := by
  obtain ⟨active, hact, hmem⟩ := h
  exact ⟨active, hg.activeAt _ _ hact, hmem⟩

def Handler.Ok (w : World) (c : Coordinator) : Handler → Prop
  | .idle => True
  | .mounted req => w.Counts req.coordID c.clusterID c.podID
  | .flushed req success _ => w.Counts req.coordID c.clusterID c.podID ∧
      (success = true → (req.coordID, c.clusterID, c.podID) ∈ w.flushed)

/-- The coordination has a record, and it expects no fewer nodes than were
active when the record was written. -/
def World.Expects (w : World) (coord : Coordination) : Prop :=
  ∃ active, w.activeAt coord.id = some active ∧ active.toFinset.card ≤ coord.expectedNodes

/-- What a call of `CoordinateFlush` knows. -/
def Flushing.Ok (w : World) : Flushing → Prop
  | .counting _ _ => True
  | .creating _ _ _ => True
  | .notifying coord => w.Expects coord
  | .waiting coord => w.Expects coord
  | .verifying coord => w.Expects coord ∧
      coord.expectedNodes ≤ w.responses.countP (fun r => r.coordID = coord.id)
  | .returned (some coordID) none => w.AllFlushed coordID
  | .returned _ _ => True

/-- A successful response comes from an instance that was active and has flushed. -/
structure ResponsesOk (w : World) : Prop where
  keys : (w.responses.map FlushResponse.key).Nodup
  backed : ∀ r ∈ w.responses, r.success = true →
    w.Counts r.coordID r.clusterID r.podID ∧ (r.coordID, r.clusterID, r.podID) ∈ w.flushed

structure Sound (w : World) : Prop where
  responses : ResponsesOk w
  handlers : ∀ (i : Nat) (inst : Instance), w.instances[i]? = some inst → inst.handler.Ok w inst.own
  calls : ∀ (k : Nat) (call : Flushing), w.calls[k]? = some call → call.Ok w

/-! ## Growth keeps what is known -/

lemma World.Expects.mono (hg : Grows w w') (h : w.Expects coord) : w'.Expects coord := by
  obtain ⟨active, hact, hcard⟩ := h
  exact ⟨active, hg.activeAt _ _ hact, hcard⟩

open flush.World

lemma Handler.Ok.mono (hg : Grows w w') {c : Coordinator} {handler : Handler} (h : handler.Ok w c) :
    handler.Ok w' c := by
  cases handler with
  | idle => trivial
  | mounted req => exact Counts.mono hg h
  | flushed req success errMsg => exact ⟨h.1.mono hg, fun hs => hg.flushed _ (h.2 hs)⟩

lemma Flushing.Ok.mono (hg : Grows w w') (h : call.Ok w) : call.Ok w' := by
  cases call with
  | counting | creating => trivial
  | notifying | waiting => exact Expects.mono hg h
  | verifying coord => exact ⟨h.1.mono hg, h.2.trans (hg.responses coord.id)⟩
  | returned coordID err =>
    cases coordID with
    | none => trivial
    | some coordID =>
      cases err with
      | some err => trivial
      | none =>
        obtain ⟨active, hact, hall⟩ := h
        exact ⟨active, hg.activeAt _ _ hact, fun p hp => hg.flushed _ (hall p hp)⟩

lemma ResponsesOk.mono (hg : Grows w w') (hr : w'.responses = w.responses) (h : ResponsesOk w) :
    ResponsesOk w' := by
  refine ⟨by rw [hr]; exact h.keys, ?_⟩
  intro r hmem hs
  rw [hr] at hmem
  obtain ⟨hc, hf⟩ := h.backed r hmem hs
  exact ⟨hc.mono hg, hg.flushed _ hf⟩

lemma Sound.step (h : Sound w) (hg : Grows w w') (hr : ResponsesOk w')
    (hi : ∀ (i : Nat) (inst : Instance), w'.instances[i]? = some inst →
      w.instances[i]? = some inst ∨ inst.handler.Ok w' inst.own)
    (hc : ∀ (k : Nat) (call : Flushing), w'.calls[k]? = some call →
      w.calls[k]? = some call ∨ call.Ok w') : Sound w' := by
  refine ⟨hr, ?_, ?_⟩
  · intro i inst hinst
    rcases hi i inst hinst with hold | hok
    · exact (h.handlers i inst hold).mono hg
    · exact hok
  · intro k call hcall
    rcases hc k call hcall with hold | hok
    · exact (h.calls k call hold).mono hg
    · exact hok

open GoMap

lemma Sound.setInstance (h : Sound w) (i : Nat) {inst' : Instance}
    (hw : w'.responses = w.responses ∧ w'.coordinations = w.coordinations ∧ w'.calls = w.calls ∧
      w'.instances = w.instances.insert i inst')
    (hf : ∀ f ∈ w.flushed, f ∈ w'.flushed) (hok : inst'.handler.Ok w' inst'.own) : Sound w' := by
  obtain ⟨hr, hco, hca, hin⟩ := hw
  have hg : Grows w w' := by
    refine ⟨fun coordID active h => ?_, hf, fun coordID => by rw [hr]⟩
    unfold activeAt at *
    rw [hco]
    exact h
  refine h.step hg (h.responses.mono hg hr) ?_ (fun k call hcall => .inl (by rwa [hca] at hcall))
  intro j inst hinst
  rw [hin] at hinst
  rcases of_get_insert hinst with ⟨-, rfl⟩ | ⟨-, hinst⟩
  · exact .inr hok
  · exact .inl hinst

/-! ## The instance that answers -/

lemma Handler.Ok.own {c c' : Coordinator} {handler : Handler}
    (hid : c'.clusterID = c.clusterID ∧ c'.podID = c.podID) (h : handler.Ok w c) :
    handler.Ok w c' := by
  unfold Ok at *
  rw [hid.1, hid.2]
  exact h

lemma registerMount_own (fresh : Fresh) (volumeID : GoString) (options : MountOptions)
    (s : Session) :
    (registerMount fresh volumeID options s).2.own.clusterID = s.own.clusterID ∧
      (registerMount fresh volumeID options s).2.own.podID = s.own.podID := by
  unfold registerMount
  split
  · exact ⟨rfl, rfl⟩
  · split <;> exact ⟨rfl, rfl⟩

lemma unregisterMount_own (volumeID : GoString) (s : Session) :
    (unregisterMount volumeID s).2.own.clusterID = s.own.clusterID ∧
      (unregisterMount volumeID s).2.own.podID = s.own.podID := by
  unfold unregisterMount
  split <;> exact ⟨rfl, rfl⟩

lemma Sound.atInstance (h : Sound w) {i : Nat} {f : Instance → World}
    (hf : ∀ inst, w.instances[i]? = some inst → inst.handler.Ok w inst.own → Sound (f inst)) :
    Sound (w.atInstance i f) := by
  unfold World.atInstance
  cases hinst : w.instances[i]? with
  | none => exact h
  | some inst => exact hf inst hinst (h.handlers i inst hinst)

lemma Sound.onMounts (h : Sound w) (i : Nat) {f : Session → Session}
    (hf : ∀ s, (f s).own.clusterID = s.own.clusterID ∧ (f s).own.podID = s.own.podID)
    (hok : inst.handler.Ok w inst.own) : Sound (w.onMounts i f inst) := by
  refine h.setInstance i ⟨rfl, rfl, rfl, rfl⟩ (fun _ hm => hm) ?_
  exact Handler.Ok.own (w := w) (hf ⟨inst.own, w.db⟩) hok

lemma receive_handler (inst : Instance) (req : FlushRequest) :
    (inst.receive req).handler = inst.handler ∧ (inst.receive req).own = inst.own := by
  unfold Instance.receive
  split <;> exact ⟨rfl, rfl⟩

/-- The handler after `take` has a request of an instance that was active. -/
lemma take_ok (h : inst.handler.Ok w inst.own) (hsteady : inst.Steady w) :
    inst.take.handler.Ok w inst.take.own := by
  unfold Instance.take
  split
  · rename_i req rest hidle hch
    split
    · rename_i hmounted
      exact hsteady hidle req (by rw [hch]; rfl) hmounted
    · rw [hidle]
      trivial
  · exact h

lemma Sound.flushAll (h : Sound w) (i : Nat) (err : Option GoString)
    (hok : inst.handler.Ok w inst.own) : Sound (w.flushAll i err inst) := by
  unfold World.flushAll
  split
  · rename_i req cause hhandler
    rw [hhandler] at hok
    exact h.setInstance i ⟨rfl, rfl, rfl, rfl⟩ (fun _ hm => hm) ⟨hok, fun hs => by cases hs⟩
  · rename_i req hhandler
    rw [hhandler] at hok
    exact h.setInstance i ⟨rfl, rfl, rfl, rfl⟩ (fun _ hm => mem_cons_of_mem _ hm)
      ⟨hok, fun _ => mem_cons_self⟩
  · exact h

open FlushResponse

lemma Sound.createFlushResponse (h : Sound w) (fault : Option GoString) {resp : FlushResponse}
    (hc : w.Counts resp.coordID resp.clusterID resp.podID)
    (hf : resp.success = true → (resp.coordID, resp.clusterID, resp.podID) ∈ w.flushed) :
    Sound (flush.createFlushResponse fault resp w) := by
  unfold flush.createFlushResponse
  split
  · have hrenew : ∀ row x : FlushResponse, (row.renewed x).key = row.key := fun _ _ => rfl
    have hg : Grows w { w with responses := upsert key renewed resp w.responses } := by
      refine ⟨fun _ _ hact => hact, fun _ hm => hm, fun coordID => ?_⟩
      exact countP_key_upsert_le hrenew (fun k => decide (k.1 = coordID)) resp w.responses
    refine h.step hg ⟨nodup_key_upsert hrenew resp h.responses.keys, ?_⟩
      (fun i inst hinst => .inl hinst) (fun k call hcall => .inl hcall)
    intro r hr hs
    rcases of_mem_upsert hr with ⟨hold, _⟩ | ⟨old, _, hkey, rfl⟩ | rfl
    · exact h.responses.backed r hold hs
    · obtain ⟨h1, h2, h3⟩ : old.coordID = resp.coordID ∧ old.clusterID = resp.clusterID ∧
          old.podID = resp.podID := by
        simpa [key] using hkey
      have hcoord : (old.renewed resp).coordID = resp.coordID := h1
      have hcluster : (old.renewed resp).clusterID = resp.clusterID := h2
      have hpod : (old.renewed resp).podID = resp.podID := h3
      rw [hcoord, hcluster, hpod]
      exact ⟨hc, hf hs⟩
    · exact ⟨hc, hf hs⟩
  · exact h

lemma Sound.respond (h : Sound w) (i : Nat) (id : GoString) (fault : Option GoString)
    (hok : inst.handler.Ok w inst.own) : Sound (w.respond i id fault inst) := by
  unfold World.respond
  split
  · rename_i req success errMsg hhandler
    rw [hhandler] at hok
    have hidle : Sound (w.setInstance i { inst with handler := .idle }) :=
      h.setInstance i ⟨rfl, rfl, rfl, rfl⟩ (fun _ hm => hm) trivial
    apply hidle.createFlushResponse fault
    · exact hok.1
    · exact hok.2
  · exact h

/-! ## The instance that asks -/

lemma updateStatus_activeAt (w : World) (id : GoString) (status : CoordStatus)
    (coordID : GoString) : (w.updateStatus id status).activeAt coordID = w.activeAt coordID := by
  unfold World.updateStatus
  cases hr : w.coordinations[id]? with
  | none => rfl
  | some r =>
    unfold activeAt
    dsimp only
    exact map_insert_of_get hr (by rfl) coordID

/-- The parts of the world that a step of `CoordinateFlush` leaves alone. -/
structure Kept (w w' : World) : Prop where
  grows : Grows w w'
  responses : w'.responses = w.responses
  instances : w'.instances = w.instances
  calls : w'.calls = w.calls

lemma Kept.refl (w : World) : Kept w w := ⟨Grows.refl w, rfl, rfl, rfl⟩

lemma Kept.updateStatus (w : World) (id : GoString) (status : CoordStatus) :
    Kept w (w.updateStatus id status) := by
  have hsame : (w.updateStatus id status).responses = w.responses ∧
      (w.updateStatus id status).instances = w.instances ∧
      (w.updateStatus id status).calls = w.calls ∧
      (w.updateStatus id status).flushed = w.flushed := by
    unfold World.updateStatus
    split <;> exact ⟨rfl, rfl, rfl, rfl⟩
  obtain ⟨hr, hi, hc, hf⟩ := hsame
  refine ⟨⟨?_, ?_, ?_⟩, hr, hi, hc⟩
  · intro coordID active hact
    rw [updateStatus_activeAt]
    exact hact
  · intro f hmem
    rw [hf]
    exact hmem
  · intro coordID
    rw [hr]

lemma Kept.createCoordination {heartbeatTimeout : Int}
    (hfresh : ¬ w.coordinations.contains coord.id) :
    Kept w (w.createCoordination coord heartbeatTimeout) := by
  refine ⟨⟨?_, fun _ hm => hm, fun _ => Nat.le_refl _⟩, rfl, rfl, rfl⟩
  intro coordID active hact
  unfold activeAt World.createCoordination at *
  dsimp only
  rw [get_insert, if_neg]
  · exact hact
  · rintro rfl
    apply hfresh
    obtain ⟨r, hr, _⟩ := Option.map_eq_some_iff.mp hact
    rw [Std.ExtTreeMap.contains_eq_isSome_getElem?, hr]
    rfl

/-- The record expects as many nodes as were counted, and so no fewer than
are active. -/
lemma Expects.createCoordination {id volumeID : GoString} {heartbeatTimeout : Int}
    {mounts : List VolumeMount} (hsteady : ∀ m ∈ w.db.activeMounts volumeID heartbeatTimeout,
      ∃ m' ∈ mounts, m'.clusterID = m.clusterID ∧ m'.podID = m.podID) :
    (w.createCoordination ⟨id, volumeID, .flushing, mounts.length⟩ heartbeatTimeout).Expects
      ⟨id, volumeID, .flushing, mounts.length⟩ := by
  refine ⟨(w.db.activeMounts volumeID heartbeatTimeout).map
    (fun m => (m.clusterID, m.podID)), ?_, ?_⟩
  · unfold activeAt World.createCoordination
    simp
  · have hsub : ((w.db.activeMounts volumeID heartbeatTimeout).map
        (fun m => (m.clusterID, m.podID))).toFinset ⊆
        (mounts.map (fun m => (m.clusterID, m.podID))).toFinset := by
      intro p hp
      rw [mem_toFinset, mem_map] at hp ⊢
      obtain ⟨m, hm, rfl⟩ := hp
      obtain ⟨m', hm', h1, h2⟩ := hsteady m hm
      exact ⟨m', hm', by rw [h1, h2]⟩
    calc _ ≤ (mounts.map (fun m => (m.clusterID, m.podID))).toFinset.card :=
      Finset.card_le_card hsub
      _ ≤ (mounts.map (fun m => (m.clusterID, m.podID))).length := toFinset_card_le _
      _ = mounts.length := length_map _

/-- As many responses as nodes that were active, each a success of such a
node, are a flush of every one of them. -/
lemma AllFlushed.of_responses (h : ResponsesOk w) (he : w.Expects coord)
    (hn : coord.expectedNodes ≤ w.responses.countP (fun r => r.coordID = coord.id))
    (hs : ∀ r ∈ w.responses, r.coordID = coord.id → r.success = true) : w.AllFlushed coord.id := by
  obtain ⟨active, hact, hcard⟩ := he
  refine ⟨active, hact, fun p hp => ?_⟩
  let rows := w.responses.filter (fun r => r.coordID = coord.id)
  have hrows : ∀ r ∈ rows, r ∈ w.responses ∧ r.coordID = coord.id := by
    intro r hr
    simpa [rows] using hr
  have hsub : (rows.map (fun r => (r.clusterID, r.podID))).toFinset ⊆ active.toFinset := by
    intro q hq
    rw [mem_toFinset, mem_map] at hq
    obtain ⟨r, hr, rfl⟩ := hq
    obtain ⟨hmem, hid⟩ := hrows r hr
    obtain ⟨⟨active', hact', hin⟩, _⟩ := h.backed r hmem (hs r hmem hid)
    rw [hid, hact, Option.mem_some_iff] at hact'
    subst hact'
    exact mem_toFinset.mpr hin
  have hnodup : (rows.map (fun r => (r.clusterID, r.podID))).Nodup := by
    have hkeys : (rows.map key).Nodup := h.keys.sublist (filter_sublist.map _)
    have heq : rows.map key =
        (rows.map (fun r => (r.clusterID, r.podID))).map (fun q => (coord.id, q)) := by
      rw [map_map]
      apply map_congr_left
      intro r hr
      simp only [key, Function.comp_apply, (hrows r hr).2]
    rw [heq] at hkeys
    exact hkeys.of_map _
  have hcount : active.toFinset.card ≤
    (rows.map (fun r => (r.clusterID, r.podID))).toFinset.card := by
    rw [toFinset_card_of_nodup hnodup, length_map]
    calc _ ≤ coord.expectedNodes := hcard
      _ ≤ w.responses.countP (fun r => r.coordID = coord.id) := hn
      _ = rows.length := countP_eq_length_filter
  have heq := Finset.eq_of_subset_of_card_le hsub hcount
  have hp' : p ∈ (rows.map (fun r => (r.clusterID, r.podID))).toFinset := by
    rw [heq]
    exact mem_toFinset.mpr hp
  rw [mem_toFinset, mem_map] at hp'
  obtain ⟨r, hr, rfl⟩ := hp'
  obtain ⟨hmem, hid⟩ := hrows r hr
  have hf := (h.backed r hmem (hs r hmem hid)).2
  rwa [hid] at hf

lemma countCompletedFlushes_le (coordID : GoString) (w : World) :
    countCompletedFlushes coordID w ≤ w.responses.countP (fun r => r.coordID = coordID) := by
  unfold countCompletedFlushes
  rw [← countP_eq_length_filter]
  apply countP_mono_left
  intro r _ hr
  simp only [decide_eq_true_eq] at hr ⊢
  exact hr.1

open Kept

lemma waitTurn_ok (choice : Choice) (h : w.Expects coord) : Kept w (waitTurn choice coord w).2 ∧
      (waitTurn choice coord w).1.Ok (waitTurn choice coord w).2 := by
  unfold waitTurn
  split
  · exact ⟨Kept.updateStatus w _ _, trivial⟩
  · exact ⟨Kept.updateStatus w _ _, trivial⟩
  split
  · rename_i hdone
    exact ⟨refl w, h, hdone.2.trans (countCompletedFlushes_le coord.id w)⟩
  · exact ⟨refl w, h⟩

lemma verify_ok (choice : Choice) (hr : ResponsesOk w) (h : (Flushing.verifying coord).Ok w) :
    Kept w (verify choice coord w).2 ∧ (verify choice coord w).1.Ok (verify choice coord w).2 := by
  unfold verify
  split
  · exact ⟨Kept.updateStatus w _ _, trivial⟩
  split
  · exact ⟨Kept.updateStatus w _ _, trivial⟩
  rename_i hall
  refine ⟨Kept.updateStatus w _ _, ?_⟩
  obtain ⟨he, hn⟩ := h
  have hflushed : w.AllFlushed coord.id := by
    apply AllFlushed.of_responses hr he hn
    intro r hmem hid
    have hnone := find?_eq_none.mp hall r
      (mem_filter.mpr ⟨hmem, by simpa using hid⟩)
    simpa using hnone
  have hok : (Flushing.returned (some coord.id) none).Ok w := hflushed
  exact hok.mono (Kept.updateStatus w coord.id .completed).grows

lemma coordinateFlush_ok (h : Sound w) (choice : Choice) (hok : call.Ok w)
    (hsteady : call.Steady w choice) : Kept w (coordinateFlush choice w call).2 ∧
      (coordinateFlush choice w call).1.Ok (coordinateFlush choice w call).2 := by
  cases call with simp only [coordinateFlush]
  | counting volumeID heartbeatTimeout =>
    split
    · exact ⟨refl w, trivial⟩
    · split <;> exact ⟨refl w, trivial⟩
  | creating volumeID heartbeatTimeout mounts =>
    split
    · rename_i hfresh
      exact ⟨Kept.createCoordination hfresh.2,
        Expects.createCoordination (hsteady hfresh.1 hfresh.2)⟩
    · exact ⟨refl w, trivial⟩
  | notifying coord =>
    split
    · exact ⟨Kept.updateStatus w _ _, trivial⟩
    · exact ⟨⟨⟨fun _ _ h => h, fun _ h => h, fun _ => Nat.le_refl _⟩, rfl, rfl, rfl⟩, hok⟩
  | waiting coord => exact waitTurn_ok choice hok
  | verifying coord => exact verify_ok choice h.responses hok
  | returned coordID err => exact ⟨refl w, hok⟩

lemma Sound.insertCall (h : Sound w) (hk : Kept w w') (k : Nat) (hok : call.Ok w') :
    Sound { w' with calls := w'.calls.insert k call } := by
  have hs : Sound w' := by
    refine h.step hk.grows (h.responses.mono hk.grows hk.responses) ?_ ?_
    · intro i inst hinst
      rw [hk.instances] at hinst
      exact .inl hinst
    · intro j c hc
      rw [hk.calls] at hc
      exact .inl hc
  exact ⟨⟨hs.responses.keys, hs.responses.backed⟩, hs.handlers, all_insert hok hs.calls⟩

lemma Sound.next (h : Sound w) {e : Event} (hsteady : e.Steady w) : Sound (e.next w) := by
  cases e with
  | register i fresh volumeID options =>
    exact h.atInstance (fun _ _ hok => h.onMounts i (registerMount_own fresh volumeID options) hok)
  | unregister i volumeID =>
    exact h.atInstance (fun _ _ hok => h.onMounts i (unregisterMount_own volumeID) hok)
  | rows heartbeatTimeout txn =>
    exact ⟨⟨h.responses.keys, h.responses.backed⟩, h.handlers, h.calls⟩
  | deliver i req =>
    refine h.atInstance (fun inst _ hok => ?_)
    split
    · refine h.setInstance i ⟨rfl, rfl, rfl, rfl⟩ (fun _ hm => hm) ?_
      obtain ⟨hhandler, hown⟩ := receive_handler inst req
      rw [hhandler, hown]
      exact hok
    · exact h
  | take i =>
    refine h.atInstance (fun inst hinst hok => ?_)
    have htake := take_ok hok (hsteady inst hinst)
    exact h.setInstance i ⟨rfl, rfl, rfl, rfl⟩ (fun _ hm => hm) htake
  | flushAll i err => exact h.atInstance (fun _ _ hok => h.flushAll i err hok)
  | respond i id fault => exact h.atInstance (fun _ _ hok => h.respond i id fault hok)
  | start k i volumeID =>
    refine h.atInstance (fun inst _ _ => ?_)
    unfold startCall
    split
    · exact h
    · exact h.insertCall (refl w) k trivial
  | advance k choice =>
    simp only [Event.next, advanceCall]
    cases hcall : w.calls[k]? with
    | none => exact h
    | some call =>
      obtain ⟨hkept, hok⟩ := coordinateFlush_ok h choice (h.calls k call hcall) (hsteady call hcall)
      exact h.insertCall hkept k hok

/-- `CoordinateFlush` returns nil only when each instance that was active has
flushed, in runs where no mount joins between the count and the record and
only instances that were active take the request up. -/
theorem nil_means_all_flushed {w : World}
    (h : Reach Started (fun w e w' => w' = Event.next w e) (fun w e => e.Steady w) w) {k : Nat}
    {coordID : GoString} (hk : w.calls[k]? = some (.returned (some coordID) none)) :
    w.AllFlushed coordID := by
  have hs : Sound w := by
    refine Reach.keeps ?_ (fun w e hw hsteady => hw.next hsteady) h
    rintro w ⟨hresp, _, hinst, hcalls⟩
    refine ⟨⟨by rw [hresp]; exact nodup_nil, fun r hr => by rw [hresp] at hr; cases hr⟩, ?_, ?_⟩
    · intro i inst hi
      rw [(hinst i inst hi).2]
      trivial
    · intro k call hcall
      rw [hcalls k] at hcall
      cases hcall
  exact hs.calls k _ hk

def threePods : World :=
  let inst (pod : String) : Instance :=
    { own :=
        { clusterID := lit "c", podID := lit pod, heartbeatTimeout := 15, httpPort := 8080
          mountedVolumes := ∅, round := none }
      flushCh := [], handler := .idle }
  { db := { now := 0, volumes := (∅ : GoMap GoString GoString).insert (lit "v") (lit "RWX"),
            mounts := [] }
    instances :=
      (((∅ : GoMap Nat Instance).insert 0 (inst "a")).insert 1 (inst "b")).insert 2 (inst "c")
    coordinations := ∅, responses := [], notified := [], calls := ∅, flushed := [] }

lemma threePods_started : Started threePods := by
  refine ⟨rfl, rfl, fun i inst hinst => ?_, fun k => by simp [threePods]⟩
  unfold threePods at hinst
  simp only [get_insert] at hinst
  split at hinst
  · cases hinst; exact ⟨rfl, rfl⟩
  split at hinst
  · cases hinst; exact ⟨rfl, rfl⟩
  · split at hinst
    · cases hinst; exact ⟨rfl, rfl⟩
    · simp at hinst

def writable : MountOptions := ⟨lit "RWX", [], 0, [], []⟩

def request : FlushRequest := ⟨lit "x", lit "v"⟩

/-- The instance takes the request, flushes and responds. -/
def answer (i : Nat) (id : String) : List Event :=
  [.deliver i request, .take i, .flushAll i none, .respond i (lit id) none]

/-- Two pods mount the volume, and the first one counts, writes the record
and notifies. -/
def asked : List Event :=
  [.register 0 ⟨lit "1", 0, 0⟩ (lit "v") writable, .register 1 ⟨lit "2", 0, 0⟩ (lit "v") writable,
    .start 0 0 (lit "v"), .advance 0 ⟨[], none, none⟩, .advance 0 ⟨lit "x", none, none⟩,
    .advance 0 ⟨[], none, none⟩]

def counted : List Event := [.advance 0 ⟨[], none, none⟩, .advance 0 ⟨[], none, none⟩]

def fullFlush : List Event := asked ++ answer 0 "r0" ++ answer 1 "r1" ++ counted

theorem nil_means_all_flushed_by_two_pods :
    (fullFlush.foldl Event.next threePods).AllFlushed (lit "x") := by
  have hreach : Reach Started (fun w e w' => w' = Event.next w e) (fun w e => e.Steady w)
      (fullFlush.foldl Event.next threePods) :=
    Reach.run (.start threePods_started) fullFlush (by decide +kernel)
  exact nil_means_all_flushed hreach (k := 0) (by decide +kernel)

/-- The request does not reach the second pod, and a third pod joins and
answers in its place. -/
def lateJoin : List Event :=
  asked ++ [.register 2 ⟨lit "3", 0, 0⟩ (lit "v") writable] ++ answer 0 "r0" ++
    answer 2 "r2" ++ counted

theorem late_join_hides_a_missing_flush :
    ∃ w, Reach Started (fun w e w' => w' = Event.next w e) (fun _ _ => True) w ∧
      w.calls[0]? = some (.returned (some (lit "x")) none) ∧ ¬ w.AllFlushed (lit "x") := by
  refine ⟨lateJoin.foldl Event.next threePods, ?_, by decide +kernel, by decide +kernel⟩
  exact Reach.run (.start threePods_started) lateJoin (by decide +kernel)

end sandbox0.coordinator.flush
