-- The s0fs engine: its public calls, the log, `head.json`, the snapshots,
-- and `Open`, which picks a base state and replays the log on it.
import Sandbox0.S0fsApply

namespace sandbox0.s0fs

/-! ## The engine and its files -/

/-- What a write that failed has left of its line: nothing, a part, or all but its end. -/
inductive Written where
  | nothing
  | part
  | unended
  deriving DecidableEq

/-- How the log ends: with a whole line, with a record whose line has no end, or behind a
line that cannot be read. -/
inductive LogTail where
  | ended
  | unended
  | torn
  deriving DecidableEq

/-- The files in the directory of the log, each as its reader decodes it. -/
structure Disk where
  wal : List WalRecord
  tail : LogTail := .ended
  head : Option SnapshotState
  snapshots : GoMap GoString SnapshotState
  deriving DecidableEq

def Disk.empty : Disk := { wal := [], head := none, snapshots := ∅ }

structure Manifest where
  version : Nat
  volumeID : GoString
  manifestSeq : Nat
  checkpointSeq : Nat
  createdAt : Int
  state : SnapshotState
  deriving DecidableEq

/-- An engine. A crash leaves only its `disk`. -/
structure Engine extends SnapshotState where
  volumeID : GoString
  disk : Disk
  closed : Bool
  mutationVersion : Nat
  lastCommittedManifest : Nat
  lastMaterializedVersion : Nat
  dirty : Bool
  deriving DecidableEq

structure AppendFault where
  err : Err
  written : Written

/-- What a call meets outside the engine: the clock, an error of the write
to the log, and the reads of the segments. -/
structure Env where
  now : Int
  appendErr : Option AppendFault
  reader : Option SegmentReader

abbrev Eng := Call Err Engine

def onState {α : Type} (x : Fs α) : Eng α :=
  Call.on Engine.toSnapshotState (fun e s => { e with toSnapshotState := s }) x

def checkOpen : Eng Unit := do
  Call.failIf ((← Call.read).closed) .closed

/-! ## The log -/

def newRecord (env : Env) (op : WalOp) : Eng WalRecord := fun e =>
  (.ok { seq := e.nextSeq, op, timeUnix := env.now }, { e with nextSeq := e.nextSeq + 1 })

/-- A record behind the last line. Without a line end before it, the two are one line that
cannot be read. -/
def Disk.appended (d : Disk) (r : WalRecord) (tail : LogTail) : Disk :=
  { d with wal := d.wal ++ [jsonRecord r], tail := if d.tail = .ended then tail else .torn }

/-- The log after a write that failed. -/
def Disk.failed (d : Disk) (r : WalRecord) : Written → Disk
  | .nothing => d
  | .part => { d with tail := .torn }
  | .unended => d.appended r .unended

/-- `wal.append`. -/
def append (env : Env) (r : WalRecord) : Eng Unit :=
  match env.appendErr with
  | some fault => do
    Call.update fun e => { e with disk := e.disk.failed r fault.written }
    Call.fail fault.err
  | none => Call.update fun e => { e with disk := e.disk.appended r .ended }

def markDirtyLocked : Eng Unit :=
  Call.update fun e => { e with mutationVersion := e.mutationVersion + 1, dirty := true }

/-- The end of every call that changes the volume: the record is logged,
then applied. -/
def logAndApply (env : Env) (r : WalRecord) : Eng Unit := do
  append env r
  onState (apply env.reader r)
  markDirtyLocked

/-! ## Calls that change the volume -/

def create (env : Env) (parent : Nat) (name : GoString) (type : FileType) (mode : UInt32)
    (target : GoString) : Eng (Option Node) := do
  checkOpen
  Call.failIf (name = []) (.invalidInput "empty name")
  onState (ensureDirLocked parent)
  let e ← Call.read
  Call.failIf ((e.child parent name).isSome) .alreadyExists
  let record ← newRecord env .create
  let inode := e.nextInode
  logAndApply env { record with inode, parent, name, type := some type, mode, target }
  pure (← Call.read).nodes[inode]?

def createFile (env : Env) (parent : Nat) (name : GoString) (mode : UInt32) : Eng (Option Node) :=
  create env parent name .file mode []

def mkdir (env : Env) (parent : Nat) (name : GoString) (mode : UInt32) : Eng (Option Node) :=
  create env parent name .directory mode []

def symlink (env : Env) (parent : Nat) (name target : GoString) (mode : UInt32) :
    Eng (Option Node) := do
  Call.failIf (target = []) (.invalidInput "symlink target is required")
  create env parent name .symlink mode target

def link (env : Env) (inode newParent : Nat) (newName : GoString) : Eng (Option Node) := do
  checkOpen
  Call.failIf (newName = []) (.invalidInput "empty link name")
  match (← Call.read).nodes[inode]? with
  | none => Call.fail .notFound
  | some node =>
    Call.failIf (node.type = .directory) .isDir
    onState (ensureDirLocked newParent)
    Call.failIf (((← Call.read).child newParent newName).isSome) .alreadyExists
    let record ← newRecord env .link
    logAndApply env { record with inode, newParent, newName }
    pure (← Call.read).nodes[inode]?

def write (env : Env) (inode : Nat) (offset : UInt64) (payload : Bytes) : Eng Nat := do
  checkOpen
  let _ ← onState (fileNodeLocked inode)
  let record ← newRecord env .write
  logAndApply env { record with inode, offset, data := payload }
  pure payload.length

def rename (env : Env) (oldParent : Nat) (oldName : GoString) (newParent : Nat)
    (newName : GoString) : Eng Unit := do
  checkOpen
  Call.failIf (oldName = [] ∨ newName = []) (.invalidInput "empty rename component")
  let _ ← onState (lookupLocked oldParent oldName)
  onState (ensureDirLocked newParent)
  let record ← newRecord env .rename
  logAndApply env { record with parent := oldParent, name := oldName, newParent, newName }

/-- An entry without a node is a nil dereference. -/
def unlinkWithInode (env : Env) (parent : Nat) (name : GoString) : Eng Nat := do
  checkOpen
  let inode ← onState (lookupLocked parent name)
  match (← Call.read).nodes[inode]? with
  | none => Call.panics
  | some node =>
    Call.failIf (node.type = .directory) .isDir
    let record ← newRecord env .unlink
    logAndApply env { record with parent, name }
    pure inode

/-- The extents of the inode stay. -/
def forget (inode : Nat) : Eng Unit := do
  checkOpen
  match (← Call.read).nodes[inode]? with
  | none => pure ()
  | some node =>
    Call.onlyIf (node.nlink = 0) (Call.update fun e => { e with
      children := e.children.erase inode
      nodes := e.nodes.erase inode
      data := e.data.erase inode })

def removeDir (env : Env) (parent : Nat) (name : GoString) : Eng Unit := do
  checkOpen
  let inode ← onState (lookupLocked parent name)
  let e ← Call.read
  match e.nodes[inode]? with
  | none => Call.fail .notFound
  | some node =>
    Call.failIf (node.type ≠ .directory) .notDir
    Call.failIf (e.hasEntries inode) .notEmpty
    let record ← newRecord env .rmdir
    logAndApply env { record with parent, name }

def setMode (env : Env) (inode : Nat) (mode : UInt32) : Eng Unit := do
  checkOpen
  match (← Call.read).nodes[inode]? with
  | none => Call.fail .notFound
  | some _ =>
    let record ← newRecord env .chmod
    logAndApply env { record with inode, mode }

/-- The record carries the owner in its mode and the group in its offset. -/
def setOwner (env : Env) (inode : Nat) (uid gid : UInt32) : Eng Unit := do
  checkOpen
  match (← Call.read).nodes[inode]? with
  | none => Call.fail .notFound
  | some _ =>
    let record ← newRecord env .chown
    logAndApply env { record with inode, mode := uid, offset := gid.toUInt64 }

def truncate (env : Env) (inode : Nat) (size : UInt64) : Eng Unit := do
  checkOpen
  let _ ← onState (fileNodeLocked inode)
  let record ← newRecord env .truncate
  logAndApply env { record with inode, offset := size }

/-! ## Calls that read the volume -/

/-- The node of an entry without a node is nil. -/
def lookup (parent : Nat) (name : GoString) : Eng (Option Node) := do
  checkOpen
  let inode ← onState (lookupLocked parent name)
  pure (← Call.read).nodes[inode]?

def getAttr (inode : Nat) : Eng Node := do
  checkOpen
  match (← Call.read).nodes[inode]? with
  | none => Call.fail .notFound
  | some node => pure node

structure DirEntry where
  name : GoString
  inode : Nat
  type : FileType

/-- The list of a map is sorted by name. An entry without a node is left out. -/
def readDir (inode : Nat) : Eng (List DirEntry) := do
  checkOpen
  onState (ensureDirLocked inode)
  let e ← Call.read
  pure ((e.children[inode]?.getD ∅).toList.filterMap fun entry =>
    e.nodes[entry.2]?.map fun node => { name := entry.1, inode := entry.2, type := node.type })

def readFile (env : Env) (inode : Nat) (offset size : UInt64) : Eng Bytes := do
  checkOpen
  let node ← onState (fileNodeLocked inode)
  ends (readFileLocked env.reader (← Call.read).toSnapshotState node inode offset size)

/-! ## Checkpoints -/

/-- The state that `replaceStateLocked` installs. -/
def SnapshotState.installed (state : SnapshotState) : SnapshotState :=
  collectUnlinkedLocked { state with
    nextSeq := if state.nextSeq = 0 then 1 else state.nextSeq
    nextInode := if state.nextInode ≤ rootInode then rootInode + 1 else state.nextInode }

def replaceStateLocked (state : SnapshotState) : Eng Unit :=
  Call.update fun e => { e with toSnapshotState := state.installed }

def persistCurrentStateLocked : Eng Unit :=
  Call.update fun e => { e with disk := { e.disk with head := some (jsonState e.toSnapshotState) } }

/-- `wal.reset`. -/
def reset : Eng Unit :=
  Call.update fun e => { e with disk := { e.disk with wal := [], tail := .ended } }

def close : Eng Unit := do
  Call.onlyIf ((← Call.read).closed = false) do
    persistCurrentStateLocked
    reset
    Call.update fun e => { e with closed := true }

/-- The loop of `exportStateLocked` over the cold files. -/
def hydrate (m : Option SegmentReader) (s : SnapshotState) :
    List (Nat × List FileExtent) → GoMap Nat Bytes → Outcome Err (GoMap Nat Bytes)
  | [], data => .ok data
  | (inode, _) :: rest, data =>
    match s.nodes[inode]? with
    | none => hydrate m s rest data
    | some node =>
      match readColdRangeLocked m s inode 0 node.size with
      | .ok payload => hydrate m s rest (data.insert inode payload)
      | .err e => .err e
      | .panic => .panic

def exportStateLocked (m : Option SegmentReader) (s : SnapshotState) : Outcome Err SnapshotState :=
  match hydrate m s s.coldFiles.toList s.data with
  | .ok data => .ok { s with data, coldFiles := ∅, segments := ∅ }
  | .err e => .err e
  | .panic => .panic

def createSnapshot (env : Env) (snapshotID : GoString) : Eng SnapshotState := do
  checkOpen
  Call.failIf (snapshotID = []) (.invalidInput "snapshot id is required")
  let state ← ends (exportStateLocked env.reader (← Call.read).toSnapshotState)
  Call.update fun e => { e with
    disk := { e.disk with snapshots := e.disk.snapshots.insert snapshotID (jsonState state) } }
  pure state

/-- The smallest next sequence number that a restore leaves. -/
def Engine.minNextSeq (e : Engine) : Nat := max (e.nextSeq + 1) (e.lastCommittedManifest + 2)

/-- `RestoreSnapshot` up to the first write to disk. -/
def startRestore (snapshotID : GoString) : Eng Unit := do
  checkOpen
  let e ← Call.read
  match e.disk.snapshots[snapshotID]? with
  | none => Call.fail .snapshotNotFound
  | some state =>
    replaceStateLocked { state with
      nextSeq := if state.nextSeq < e.minNextSeq then e.minNextSeq else state.nextSeq }

def restoreSnapshot (snapshotID : GoString) : Eng Unit := do
  startRestore snapshotID
  persistCurrentStateLocked
  reset
  markDirtyLocked

/-- `ReplaceState` up to the first write to disk. -/
def startReplace (state : SnapshotState) : Eng Unit := do
  checkOpen
  replaceStateLocked state

def replaceState (state : SnapshotState) : Eng Unit := do
  startReplace state
  persistCurrentStateLocked
  reset
  markDirtyLocked

def deleteSnapshot (snapshotID : GoString) : Eng Unit := do
  checkOpen
  Call.failIf (snapshotID = []) (.invalidInput "snapshot id is required")
  Call.failIf ((← Call.read).disk.snapshots[snapshotID]?.isNone) .snapshotNotFound
  Call.update fun e =>
    { e with disk := { e.disk with snapshots := e.disk.snapshots.erase snapshotID } }

/-! ## Open -/

/-- `current` is the state of `head.json`, if there is one. -/
def shouldUseMaterializedState (current : Option SnapshotState) (latest : SnapshotState)
    (walRecords : Nat) : Bool :=
  match current with
  | none => true
  | some current => if walRecords > 0 then false else latest.nextSeq > current.nextSeq

/-- What `LoadLatestState` gives: `none` stands for an engine without a
materializer. -/
abbrev Latest := Option (Except Err (SnapshotState × Manifest))

/-- The state that `Open` starts from, and the manifest whose number it takes. -/
def openBase (now : Int) (disk : Disk) (latest : Latest) :
    Except Err (SnapshotState × Option Manifest) :=
  match latest with
  | none => .ok (disk.head.getD (freshState now), none)
  | some (.ok (state, manifest)) =>
    if shouldUseMaterializedState disk.head state disk.wal.length then .ok (state, some manifest)
    else .ok (disk.head.getD (freshState now), some manifest)
  | some (.error latestErr) =>
    match disk.head with
    | some state => .ok (state, none)
    | none =>
      if latestErr = .materializedManifestNotFound ∨ latestErr = .snapshotNotFound then
        .ok (freshState now, none)
      else .error latestErr

/-- One turn of the replay loop of `Open`. -/
def replayOne (m : Option SegmentReader) (r : WalRecord) : Fs Unit := fun s =>
  match apply m r s with
  | (.err e, s) => (.err (.replayWal r.seq e), s)
  | (.panic, s) => (.panic, s)
  | (.ok _, s) =>
    (.ok (), { s with
      nextSeq := if r.seq ≥ s.nextSeq then r.seq + 1 else s.nextSeq
      nextInode := if r.inode ≥ s.nextInode then r.inode + 1 else s.nextInode })

def replay (m : Option SegmentReader) : List WalRecord → Fs Unit
  | [] => pure ()
  | r :: rest => do
    replayOne m r
    replay m rest

def openEngine (volumeID : GoString) (now : Int) (m : Option SegmentReader) (latest : Latest)
    (disk : Disk) : Outcome Err Engine :=
  if volumeID = [] then .err (.invalidInput "volume id is required")
  else if disk.tail = .torn then .err .decodeWalRecord
  else match openBase now disk latest with
    | .error e => .err e
    | .ok (state, manifest) =>
      match replay m disk.wal state with
      | (.err e, _) => .err e
      | (.panic, _) => .panic
      | (.ok _, s) =>
        .ok { toSnapshotState := collectUnlinkedLocked s, volumeID, disk, closed := false,
              mutationVersion := if disk.wal.length > 0 then 1 else 0,
              lastCommittedManifest := (manifest.map Manifest.manifestSeq).getD 0,
              lastMaterializedVersion := 0, dirty := decide (disk.wal.length > 0) }

def freshEngine (volumeID : GoString) (now : Int) : Engine :=
  { toSnapshotState := freshState now, volumeID, disk := .empty, closed := false,
    mutationVersion := 0, lastCommittedManifest := 0, lastMaterializedVersion := 0, dirty := false }

end sandbox0.s0fs
