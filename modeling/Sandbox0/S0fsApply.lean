-- The file system part of the s0fs engine: the lookups, the reads, and
-- `apply`, which both a call and the replay of the log use.
import Sandbox0.S0fsTypes

namespace sandbox0.s0fs

/-! ## Machine numbers and slices -/

/-- `int64(x)`, also `int(x)`, of a `uint64`. -/
def int64 (x : UInt64) : Int := if x.toNat < 2 ^ 63 then x.toNat else x.toNat - 2 ^ 64

/-- The longest slice of bytes that `make` gives. A longer one panics. -/
def maxAlloc : Nat := 2 ^ 48

/-- `make([]byte, n)`. -/
def makeBytes (n : Nat) : Outcome Err Bytes :=
  if n ≤ maxAlloc then .ok (List.replicate n 0) else .panic

/-- `copy(dst, src)`. -/
def copyBytes (dst src : Bytes) : Bytes := src.take dst.length ++ dst.drop src.length

/-- A longer slice of `n` bytes that starts with the bytes of `b`. -/
def growBytes (n : Nat) (b : Bytes) : Outcome Err Bytes :=
  if n > b.length then do
    let grown ← makeBytes n
    pure (copyBytes grown b)
  else .ok b

/-- `b[low:high]`. -/
def sliceBytes (b : Bytes) (low high : Nat) : Outcome Err Bytes :=
  if low ≤ high ∧ high ≤ b.length then .ok ((b.take high).drop low) else .panic

def minUint64 (a b : UInt64) : UInt64 := if a < b then a else b

def maxUint64 (a b : UInt64) : UInt64 := if a > b then a else b

abbrev Fs := Call Err SnapshotState

/-- The end of a read, as the end of a call that changes nothing. -/
def ends {σ α : Type} (r : Outcome Err α) : Call Err σ α := fun s => (r, s)

@[simp] lemma ends_run {σ α : Type} (r : Outcome Err α) (s : σ) : ends r s = (r, s) := rfl

/-! ## Lookups -/

/-- A directory without a map of entries gets an empty one. -/
def ensureDirLocked (inode : Nat) : Fs Unit := fun s =>
  match s.nodes[inode]? with
  | none => (.err .notFound, s)
  | some node =>
    if node.type ≠ .directory then (.err .notDir, s)
    else match s.children[inode]? with
      | none => (.ok (), { s with children := s.children.insert inode ∅ })
      | some _ => (.ok (), s)

def lookupLocked (parent : Nat) (name : GoString) : Fs Nat := do
  ensureDirLocked parent
  let s ← Call.read
  match s.child parent name with
  | none => Call.fail .notFound
  | some inode => pure inode

def fileNodeLocked (inode : Nat) : Fs Node := do
  let s ← Call.read
  match s.nodes[inode]? with
  | none => Call.fail .notFound
  | some node => if node.type = .directory then Call.fail .isDir else pure node

/-! ## Reads -/

/-- `(*Materializer).ReadSegmentRange`, as the engine calls it. -/
abbrev SegmentReader := Segment → Int → Int → Outcome Err Bytes

/-- The loop of `readColdRangeLocked` over the extents of a file. -/
def readExtents (rd : SegmentReader) (segments : GoMap GoString Segment)
    (rangeStart rangeEnd : UInt64) : List FileExtent → UInt64 → UInt64 → Bytes → Outcome Err Bytes
  | [], _, _, out => .ok out
  | extent :: rest, fileOffset, remaining, out =>
    let extentStart := fileOffset
    let extentEnd := fileOffset + extent.length
    if rangeEnd ≤ extentStart ∨ rangeStart ≥ extentEnd then
      readExtents rd segments rangeStart rangeEnd rest extentEnd remaining out
    else
      let readStart := maxUint64 rangeStart extentStart
      let readEnd := minUint64 rangeEnd extentEnd
      match segments[extent.segmentID]? with
      | none => .err (.missingSegment extent.segmentID)
      | some segment =>
        let segmentOffset := extent.offset + (readStart - extentStart)
        match rd segment (int64 segmentOffset) (int64 (readEnd - readStart)) with
        | .err e => .err (.readColdSegment segment.key e)
        | .panic => .panic
        | .ok chunk =>
          let left := remaining - UInt64.ofNat chunk.length
          if left = 0 then .ok (out ++ chunk)
          else readExtents rd segments rangeStart rangeEnd rest extentEnd left (out ++ chunk)

/-- `none` stands for an engine without a materializer. -/
def readColdRangeLocked (m : Option SegmentReader) (s : SnapshotState) (inode : Nat)
    (offset size : UInt64) : Outcome Err Bytes :=
  match m with
  | none => .err (.invalidInput "cold data resolver is not configured")
  | some rd => readExtents rd s.segments offset (offset + size) (s.extents inode) 0 size []

/-- A file is hot when it has inline data, or no extents. -/
def SnapshotState.isHot (s : SnapshotState) (inode : Nat) : Bool :=
  decide ((s.inline inode).length > 0) || (s.extents inode).isEmpty

def readFileLocked (m : Option SegmentReader) (s : SnapshotState) (node : Node) (inode : Nat)
    (offset size : UInt64) : Outcome Err Bytes :=
  if offset ≥ node.size then .ok []
  else if s.isHot inode then
    let payload := s.inline inode
    if offset.toNat ≥ payload.length then .ok []
    else
      let stop := (offset + size).toNat
      sliceBytes payload offset.toNat (if stop > payload.length then payload.length else stop)
  else readColdRangeLocked m s inode offset size

/-- The contents that a write or a truncate starts from. A cold file
becomes a hot one. -/
def mutableFileDataLocked (m : Option SegmentReader) (inode : Nat) : Fs Bytes := do
  let s ← Call.read
  if s.isHot inode then pure (s.inline inode)
  else match s.nodes[inode]? with
    | none => Call.fail .notFound
    | some node =>
      let payload ← ends (readColdRangeLocked m s inode 0 node.size)
      Call.write { s with data := s.data.insert inode payload,
                          coldFiles := s.coldFiles.erase inode }
      pure payload

/-! ## Changes -/

def setNode (inode : Nat) (node : Node) : Fs Unit :=
  Call.update fun s => { s with nodes := s.nodes.insert inode node }

def setData (inode : Nat) (payload : Bytes) : Fs Unit :=
  Call.update fun s => { s with data := s.data.insert inode payload }

/-- `e.children[parent][name] = inode`. A store to a nil map panics. -/
def setChild (parent : Nat) (name : GoString) (inode : Nat) : Fs Unit := fun s =>
  match s.children[parent]? with
  | none => (.panic, s)
  | some entries =>
    (.ok (), { s with children := s.children.insert parent (entries.insert name inode) })

/-- `delete(e.children[parent], name)`. -/
def deleteChild (parent : Nat) (name : GoString) : Fs Unit := fun s =>
  match s.children[parent]? with
  | none => (.ok (), s)
  | some entries =>
    (.ok (), { s with children := s.children.insert parent (entries.erase name) })

/-! ## Records -/

def createdNode (r : WalRecord) : Node :=
  { inode := r.inode, type := r.type.getD .file, mode := r.mode, uid := 0, gid := 0, nlink := 1,
    size := 0, target := r.target, atime := r.timeUnix, mtime := r.timeUnix, ctime := r.timeUnix }

def applyCreate (r : WalRecord) : Fs Unit := do
  Call.failIf (r.inode = 0 ∨ r.parent = 0 ∨ r.name = []) (.invalidInput "invalid create record")
  ensureDirLocked r.parent
  Call.failIf (((← Call.read).child r.parent r.name).isSome) .alreadyExists
  Call.onlyIf (r.type.getD .file = .directory)
    (Call.update fun s => { s with children := s.children.insert r.inode ∅ })
  setNode r.inode (createdNode r)
  setChild r.parent r.name r.inode
  Call.update fun s => if r.inode ≥ s.nextInode then { s with nextInode := r.inode + 1 } else s

def applyLink (r : WalRecord) : Fs Unit := do
  Call.failIf (r.inode = 0 ∨ r.newParent = 0 ∨ r.newName = []) (.invalidInput "invalid link record")
  match (← Call.read).nodes[r.inode]? with
  | none => Call.fail .notFound
  | some node =>
    Call.failIf (node.type = .directory) .isDir
    ensureDirLocked r.newParent
    Call.failIf (((← Call.read).child r.newParent r.newName).isSome) .alreadyExists
    setChild r.newParent r.newName r.inode
    setNode r.inode { node with nlink := node.nlink + 1, ctime := r.timeUnix }

/-- Stores new contents: the last steps of a write and of a truncate. -/
def storeData (r : WalRecord) (node : Node) (current : Bytes) : Fs Unit := do
  setData r.inode current
  setNode r.inode { node with
    size := UInt64.ofNat current.length, mtime := r.timeUnix, ctime := r.timeUnix }

/-- The contents after a write. The end of the write is a `uint64`: it can wrap. -/
def writtenBytes (r : WalRecord) (current : Bytes) : Outcome Err Bytes := do
  let stop := (r.offset + UInt64.ofNat r.data.length).toNat
  let current ← growBytes stop current
  let _ ← sliceBytes current r.offset.toNat stop
  pure (current.take r.offset.toNat ++ r.data ++ current.drop stop)

def applyWrite (m : Option SegmentReader) (r : WalRecord) : Fs Unit := do
  let node ← fileNodeLocked r.inode
  let current ← mutableFileDataLocked m r.inode
  storeData r node (← ends (writtenBytes r current))

def applyRename (r : WalRecord) : Fs Unit := do
  let inode ← lookupLocked r.parent r.name
  ensureDirLocked r.newParent
  deleteChild r.parent r.name
  setChild r.newParent r.newName inode
  match (← Call.read).nodes[inode]? with
  | none => pure ()
  | some node => setNode inode { node with ctime := r.timeUnix }

/-- `len(e.children[inode]) > 0`. -/
def SnapshotState.hasEntries (s : SnapshotState) (inode : Nat) : Bool :=
  !(s.children[inode]?.getD ∅).isEmpty

def applyRemoveDir (r : WalRecord) : Fs Unit := do
  let inode ← lookupLocked r.parent r.name
  let s ← Call.read
  match s.nodes[inode]? with
  | none => Call.fail .notFound
  | some node =>
    Call.failIf (node.type ≠ .directory) .notDir
    Call.failIf (s.hasEntries inode) .notEmpty
    deleteChild r.parent r.name
    Call.update fun s =>
      { s with children := s.children.erase inode, nodes := s.nodes.erase inode }

def applySetMode (r : WalRecord) : Fs Unit := do
  match (← Call.read).nodes[r.inode]? with
  | none => Call.fail .notFound
  | some node => setNode r.inode { node with mode := r.mode, ctime := r.timeUnix }

def applySetOwner (r : WalRecord) : Fs Unit := do
  match (← Call.read).nodes[r.inode]? with
  | none => Call.fail .notFound
  | some node =>
    setNode r.inode { node with uid := r.mode, gid := r.offset.toUInt32, ctime := r.timeUnix }

/-- The contents after a truncate. The new size is an `int`: it can be negative. -/
def truncatedBytes (r : WalRecord) (current : Bytes) : Outcome Err Bytes :=
  let target := int64 r.offset
  if target < current.length then
    if target < 0 then .panic else .ok (current.take target.toNat)
  else growBytes target.toNat current

def applyTruncate (m : Option SegmentReader) (r : WalRecord) : Fs Unit := do
  let node ← fileNodeLocked r.inode
  let current ← mutableFileDataLocked m r.inode
  storeData r node (← ends (truncatedBytes r current))

def applyUnlink (r : WalRecord) : Fs Unit := do
  let inode ← lookupLocked r.parent r.name
  match (← Call.read).nodes[inode]? with
  | none => deleteChild r.parent r.name
  | some node =>
    Call.failIf (node.type = .directory) .isDir
    deleteChild r.parent r.name
    Call.onlyIf (node.nlink > 0)
      (setNode inode { node with nlink := node.nlink - 1, ctime := r.timeUnix })

def apply (m : Option SegmentReader) (r : WalRecord) : Fs Unit :=
  match r.op with
  | .create => applyCreate r
  | .write => applyWrite m r
  | .link => applyLink r
  | .rmdir => applyRemoveDir r
  | .rename => applyRename r
  | .chmod => applySetMode r
  | .chown => applySetOwner r
  | .truncate => applyTruncate m r
  | .unlink => applyUnlink r
  | .other op => Call.fail (.unknownWalOp op)

/-! ## The nodes that nothing names -/

/-- The inodes that `collectUnlinkedLocked` removes. -/
def SnapshotState.unlinked (s : SnapshotState) : List Nat :=
  (s.nodes.toList.filter (fun p => p.1 ≠ rootInode ∧ p.2.nlink = 0)).map Prod.fst

def collectUnlinkedLocked (s : SnapshotState) : SnapshotState :=
  { s with
    children := GoMap.deleteKeys s.unlinked s.children
    nodes := GoMap.deleteKeys s.unlinked s.nodes
    data := GoMap.deleteKeys s.unlinked s.data
    coldFiles := GoMap.deleteKeys s.unlinked s.coldFiles }

end sandbox0.s0fs
