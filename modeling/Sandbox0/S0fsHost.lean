-- One engine on its host, step by step: the calls, the phases of
-- `SyncMaterialize` and of `RefreshMaterialized`, the two writes of a
-- checkpoint, and what a crash in between leaves.
import Sandbox0.S0fsMaterializer
import Sandbox0.S0fsCalls

namespace sandbox0.s0fs

/-! ## The phases of SyncMaterialize -/

/-- What `SyncMaterialize` takes from the engine under the read lock. -/
structure Capture where
  version : Nat
  state : SnapshotState
  expectedManifestSeq : Nat

def Engine.capture (e : Engine) : Capture :=
  { version := e.mutationVersion, state := materializeStateLocked e.toSnapshotState,
    expectedManifestSeq := e.lastCommittedManifest }

/-- The first part: `none` when there is nothing to do. -/
def startMaterialize : Eng (Option Capture) := do
  checkOpen
  let e ← Call.read
  pure (if e.dirty then some e.capture else none)

def Capture.current (c : Capture) (e : Engine) : Prop :=
  e.mutationVersion = c.version ∧ e.lastCommittedManifest = c.expectedManifestSeq

instance (c : Capture) (e : Engine) : Decidable (c.current e) := inferInstanceAs (Decidable (_ ∧ _))

/-- The last part, up to the first write to disk: it tells whether the
state of the manifest was installed. -/
def startInstall (c : Capture) (manifest : Manifest) : Eng Bool := fun e =>
  if c.current e then (.ok true, (replaceStateLocked manifest.state e).2)
  else if manifest.manifestSeq > e.lastCommittedManifest then
    (.ok false, { e with lastCommittedManifest := manifest.manifestSeq })
  else (.ok false, e)

/-! ## RefreshMaterialized -/

/-- What `LoadLatestState` gives to `Open`. -/
def loadLatestState (m : Materializer) (cloud : Cloud) : Latest :=
  match (loadLatestManifest m cloud).1 with
  | .ok manifest => some (.ok (manifest.state, manifest))
  | .err e => some (.error e)
  | .panic => none

/-- The first part: the engine has nothing to write, and the manifest that
it loads is newer than its state. -/
def startRefresh (m : Materializer) (cloud : Cloud) (e : Engine) : Option Manifest :=
  if e.closed ∨ e.dirty then none
  else match loadLatestState m cloud with
    | some (.ok (state, manifest)) => if state.nextSeq ≤ e.nextSeq then none else some manifest
    | _ => none

/-- The last part, up to the first write to disk. -/
def finishRefresh (manifest : Manifest) : Eng Bool := do
  checkOpen
  let e ← Call.read
  if e.dirty ∨ manifest.state.nextSeq ≤ e.nextSeq then pure false
  else do
    replaceStateLocked manifest.state
    pure true

/-! ## Checkpoints -/

inductive Cause where
  | close
  | install (c : Capture) (manifest : Manifest)
  | restore
  | replace
  | refresh (manifest : Manifest)

/-- What a call does to the engine once its log is truncated. -/
def Cause.finish : Cause → Engine → Engine
  | .close, e => { e with closed := true }
  | .install c manifest, e =>
    { e with lastCommittedManifest := manifest.manifestSeq, lastMaterializedVersion := c.version,
             dirty := false }
  | .restore, e => (markDirtyLocked e).2
  | .replace, e => (markDirtyLocked e).2
  | .refresh manifest, e => { e with lastCommittedManifest := manifest.manifestSeq }

/-- A checkpoint that holds the lock: `saved` once `head.json` is replaced. -/
structure Pending where
  cause : Cause
  saved : Bool

/-! ## The host -/

/-- How far a `SyncMaterialize` call is. -/
inductive Stage where
  | captured
  | planned (p : Plan)
  | segmentPut (p : Plan)
  | manifestPut (p : Plan)
  | committed (p : Plan)

structure Job where
  capture : Capture
  stage : Stage

/-- An engine with its calls in flight. `found` is the number of the
manifest that its `Open` found, or zero; no call reads it. -/
structure Host where
  engine : Engine
  job : Option Job
  loaded : Option Manifest
  pending : Option Pending
  found : Nat

inductive Act where
  | call (now : Int) (appendErr : Option AppendFault) (op : Op)
  | createSnapshot (id : GoString)
  | deleteSnapshot (id : GoString)
  | startMaterialize
  | advance (now : Int) (random : Entropy)
  | abandon
  | startRefresh
  | finishRefresh
  | close
  | restore (id : GoString)
  | replace (state : SnapshotState)
  | save
  | saveFails
  | reset
  | resetFails
  | reopen (now : Int)
  | crash (now : Int)

/-- Reads of segments go to the object store. -/
def reader (m : Materializer) (cloud : Cloud) : Option SegmentReader :=
  some (readSegmentRange m cloud.objects)

/-- A host whose engine `Open` made. -/
def Host.opened (e : Engine) : Host :=
  { engine := e, job := none, loaded := none, pending := none, found := e.lastCommittedManifest }

/-- `Open` on the files of the host, with the manifest that is committed. -/
def openOn (m : Materializer) (now : Int) (cloud : Cloud) (disk : Disk) : Outcome Err Engine :=
  openEngine m.volumeID now (reader m cloud) (loadLatestState m cloud) disk

def Host.open (m : Materializer) (now : Int) (h : Host) (cloud : Cloud) : Host × Cloud :=
  match openOn m now cloud h.engine.disk with
  | .ok e => (Host.opened e, (loadLatestManifest m cloud).2)
  | _ => (h, (loadLatestManifest m cloud).2)

/-- The engine after a call that starts a checkpoint, if it does. -/
def Host.begin (h : Host) (cause : Cause) (r : Outcome Err Unit × Engine) : Host :=
  match r with
  | (.ok _, e) => { h with engine := e, pending := some { cause, saved := false } }
  | (_, e) => { h with engine := e }

/-- The host after the first part of `SyncMaterialize`. -/
def Host.capturing (h : Host) : Outcome Err (Option Capture) → Host
  | .ok (some c) => { h with job := some { capture := c, stage := .captured } }
  | _ => h

/-- The host after the last part of `RefreshMaterialized`. -/
def Host.refreshing (h : Host) (manifest : Manifest) : Outcome Err Bool × Engine → Host
  | (.ok true, e) =>
    { h with engine := e, loaded := none,
             pending := some { cause := .refresh manifest, saved := false } }
  | _ => { h with loaded := none }

/-- One step of a `SyncMaterialize` call. -/
def Host.advance (m : Materializer) (now : Int) (random : Entropy) (h : Host) (job : Job)
    (cloud : Cloud) : Host × Cloud :=
  match job.stage with
  | .captured =>
    match plan m now random job.capture.state job.capture.expectedManifestSeq with
    | .ok p => ({ h with job := some { job with stage := .planned p } }, cloud)
    | _ => ({ h with job := none }, cloud)
  | .planned p =>
    ({ h with job := some { job with stage := .segmentPut p } }, (putSegment p cloud).2)
  | .segmentPut p =>
    ({ h with job := some { job with stage := .manifestPut p } }, (putManifest p cloud).2)
  | .manifestPut p =>
    match commit m.headStore p cloud with
    | (.ok _, cloud) => ({ h with job := some { job with stage := .committed p } }, cloud)
    | (_, cloud) => ({ h with job := none }, cloud)
  | .committed p =>
    if h.pending.isSome then (h, cloud)
    else match startInstall job.capture p.manifest h.engine with
      | (.ok true, e) =>
        ({ h with engine := e, job := none,
                  pending :=
                    some { cause := .install job.capture p.manifest, saved := false } }, cloud)
      | (_, e) => ({ h with engine := e, job := none }, cloud)

/-- A call that needs the lock waits while a checkpoint holds it. -/
def Host.locked (h : Host) (h' : Host) : Host := if h.pending.isSome then h else h'

def Act.next (m : Materializer) (h : Host) (cloud : Cloud) : Act → Host × Cloud
  | .call now appendErr op =>
    (h.locked { h with engine := op.next { now, appendErr, reader := reader m cloud } h.engine },
      cloud)
  | .createSnapshot id =>
    (h.locked { h with engine :=
      (s0fs.createSnapshot { now := 0, appendErr := none, reader := reader m cloud } id
        h.engine).2 }, cloud)
  | .deleteSnapshot id => (h.locked { h with engine := (s0fs.deleteSnapshot id h.engine).2 }, cloud)
  | .startMaterialize =>
    if h.job.isSome then (h, cloud)
    else (h.locked (h.capturing (s0fs.startMaterialize h.engine).1), cloud)
  | .advance now random =>
    match h.job with
    | none => (h, cloud)
    | some job => h.advance m now random job cloud
  | .abandon =>
    match h.job with
    | some { stage := .committed _, .. } => (h, cloud)
    | _ => ({ h with job := none }, cloud)
  | .startRefresh =>
    (h.locked { h with loaded := s0fs.startRefresh m cloud h.engine },
      (loadLatestManifest m cloud).2)
  | .finishRefresh =>
    match h.loaded with
    | none => (h, cloud)
    | some manifest =>
      (h.locked (h.refreshing manifest (s0fs.finishRefresh manifest h.engine)), cloud)
  | .close =>
    (h.locked (if h.engine.closed then h
      else { h with pending := some { cause := .close, saved := false } }), cloud)
  | .restore id => (h.locked (h.begin .restore (startRestore id h.engine)), cloud)
  | .replace state => (h.locked (h.begin .replace (startReplace state h.engine)), cloud)
  | .save =>
    match h.pending with
    | some { cause, saved := false } =>
      ({ h with engine := (persistCurrentStateLocked h.engine).2,
                pending := some { cause, saved := true } }, cloud)
    | _ => (h, cloud)
  | .saveFails =>
    match h.pending with
    | some { saved := false, .. } => ({ h with pending := none }, cloud)
    | _ => (h, cloud)
  | .reset =>
    match h.pending with
    | some { cause, saved := true } =>
      ({ h with engine := cause.finish (s0fs.reset h.engine).2, pending := none }, cloud)
    | _ => (h, cloud)
  -- the log is closed then, and each write to it fails
  | .resetFails =>
    match h.pending with
    | some { saved := true, .. } => ({ h with pending := none }, cloud)
    | _ => (h, cloud)
  | .reopen now =>
    if h.engine.closed ∧ h.job.isNone ∧ h.pending.isNone then h.open m now cloud else (h, cloud)
  | .crash now => h.open m now cloud

/-! ## Runs -/

structure World where
  host : Host
  cloud : Cloud

def World.next (m : Materializer) (w : World) (a : Act) : World :=
  let r := a.next m w.host w.cloud
  { host := r.1, cloud := r.2 }

def ActStep (m : Materializer) (w : World) (a : Act) (w' : World) : Prop := w' = w.next m a

/-- The engine of a new volume, and a cloud that holds nothing of it. -/
def World.new (m : Materializer) (now : Int) : World :=
  { host := Host.opened (freshEngine m.volumeID now), cloud := Cloud.empty }

def NewVolume (m : Materializer) (w : World) : Prop := ∃ now, w = World.new m now

end sandbox0.s0fs
