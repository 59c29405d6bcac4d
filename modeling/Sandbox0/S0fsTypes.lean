-- The data of an s0fs volume: the nodes, the directory entries, the file
-- contents, the log records, and what each of them is after JSON.
import Sandbox0.GoMap
import Sandbox0.GoString
import Sandbox0.GoCall

namespace sandbox0.s0fs

/-! ## Errors -/

/-- The errors of the package. Where the source wraps an error with a text,
the text, or its values, stands with the error. -/
inductive Err where
  | closed
  | committedHeadConflict
  | manifestMustAdvance (seq expected : Nat)
  | committedHeadNotFound
  | alreadyExists
  | invalidInput (text : String)
  | missingSegment (id : GoString)
  | missingRetainedSegment (id : GoString)
  | missingSourceSegment (id : GoString)
  | inlineData (inode : Nat)
  | isDir
  | notEmpty
  | notDir
  | notFound
  | snapshotNotFound
  | materializedManifestNotFound
  | decodeWalRecord
  | unknownWalOp (op : GoString)
  | replayWal (seq : Nat) (cause : Err)
  | readColdSegment (key : GoString) (cause : Err)
  | objectNotFound (key : GoString)
  | decode (key : GoString)
  | unsupportedAlgorithm (algorithm : GoString)
  | unsupportedSegmentEncryption (version : Nat)
  | wrapSegmentKey (cause : Err)
  | unwrapSegmentKey (cause : Err)
  | decryptSegmentChunk (chunkIndex : Nat)
  | foreignSegment (id volumeID : GoString)
  | noStoreForVolume (volumeID : GoString)
  | io (text : String)
  deriving DecidableEq

/-! ## Nodes, extents and segments -/

abbrev Bytes := List UInt8

def rootInode : Nat := 1

inductive FileType where
  | directory
  | file
  | symlink
  deriving DecidableEq

/-- A node. A time is its count of nanoseconds since 1970. -/
structure Node where
  inode : Nat
  type : FileType
  mode : UInt32
  uid : UInt32
  gid : UInt32
  nlink : UInt32
  size : UInt64
  target : GoString
  atime : Int
  mtime : Int
  ctime : Int
  deriving DecidableEq

structure FileExtent where
  segmentID : GoString
  offset : UInt64
  length : UInt64
  deriving DecidableEq

structure SegmentEncryption where
  version : Nat
  algorithm : GoString
  chunkSize : UInt64
  plaintextSize : UInt64
  ciphertextSize : UInt64
  wrappedKey : Bytes
  noncePrefix : Bytes
  deriving DecidableEq

structure Segment where
  id : GoString
  volumeID : GoString
  key : GoString
  length : UInt64
  encryption : Option SegmentEncryption
  deriving DecidableEq

/-! ## The state of a volume -/

/-- The file system part of an engine, which is also what `head.json`, a
snapshot and a manifest hold. The counters have no upper bound here: a
volume would need 2^64 records to wrap one. -/
structure SnapshotState where
  nextSeq : Nat
  nextInode : Nat
  nodes : GoMap Nat Node
  children : GoMap Nat (GoMap GoString Nat)
  data : GoMap Nat Bytes
  coldFiles : GoMap Nat (List FileExtent)
  segments : GoMap GoString Segment
  deriving DecidableEq

/-- `e.children[parent][name]`. -/
def SnapshotState.child (s : SnapshotState) (parent : Nat) (name : GoString) : Option Nat :=
  s.children[parent]?.bind (fun entries => entries[name]?)

/-- `e.data[inode]`, with the nil slice for an inode that has none. -/
def SnapshotState.inline (s : SnapshotState) (inode : Nat) : Bytes := s.data[inode]?.getD []

/-- `e.coldFiles[inode]`, with the nil slice for an inode that has none. -/
def SnapshotState.extents (s : SnapshotState) (inode : Nat) : List FileExtent :=
  s.coldFiles[inode]?.getD []

/-- The root directory that `Open` makes for a new volume. -/
def freshRoot (now : Int) : Node :=
  { inode := rootInode, type := .directory, mode := 0o755, uid := 0, gid := 0, nlink := 1,
    size := 0, target := [], atime := now, mtime := now, ctime := now }

/-- The state that `Open` makes for a new volume. -/
def freshState (now : Int) : SnapshotState :=
  { nextSeq := 1, nextInode := rootInode + 1,
    nodes := (∅ : GoMap Nat Node).insert rootInode (freshRoot now),
    children := (∅ : GoMap Nat (GoMap GoString Nat)).insert rootInode ∅,
    data := ∅, coldFiles := ∅, segments := ∅ }

/-! ## Log records -/

inductive WalOp where
  | create
  | write
  | link
  | rmdir
  | rename
  | chmod
  | chown
  | truncate
  | unlink
  | other (op : GoString)
  deriving DecidableEq

/-- A record of the log. The type of the node is empty in every record but
the one of a create. -/
structure WalRecord where
  seq : Nat
  op : WalOp
  inode : Nat := 0
  parent : Nat := 0
  name : GoString := []
  newParent : Nat := 0
  newName : GoString := []
  type : Option FileType := none
  mode : UInt32 := 0
  offset : UInt64 := 0
  data : Bytes := []
  target : GoString := []
  timeUnix : Int
  deriving DecidableEq

/-! ## JSON

Numbers, times and file contents come back as they were written. A string
comes back as `coerceUTF8`, also where it is the key of a map. -/

def jsonNode (node : Node) : Node := { node with target := coerceUTF8 node.target }

/-- The state that `loadSnapshotState` reads after `saveSnapshotState` wrote it. -/
def jsonState (s : SnapshotState) : SnapshotState :=
  { s with
    nodes := s.nodes.map (fun _ node => jsonNode node)
    children := s.children.map (fun _ entries => GoMap.rekey coerceUTF8 entries) }

/-- The record that `readWAL` reads after `append` wrote it. -/
def jsonRecord (r : WalRecord) : WalRecord :=
  { r with
    name := coerceUTF8 r.name
    newName := coerceUTF8 r.newName
    target := coerceUTF8 r.target }

@[simp] lemma jsonState_nodes (s : SnapshotState) (i : Nat) :
    (jsonState s).nodes[i]? = s.nodes[i]?.map jsonNode := by
  simp [jsonState, Std.ExtTreeMap.getElem?_map]

@[simp] lemma jsonState_children (s : SnapshotState) (p : Nat) :
    (jsonState s).children[p]? = s.children[p]?.map (GoMap.rekey coerceUTF8) := by
  simp [jsonState, Std.ExtTreeMap.getElem?_map]

/-- Each entry that JSON gives back was an entry before, under a name that
JSON turns into the new one. -/
lemma jsonState_child {s : SnapshotState} {p i : Nat} {n : GoString}
    (h : (jsonState s).child p n = some i) : ∃ n', coerceUTF8 n' = n ∧ s.child p n' = some i := by
  unfold SnapshotState.child at h ⊢
  rw [jsonState_children] at h
  cases hm : s.children[p]? with
  | none => rw [hm] at h; cases h
  | some m =>
    rw [hm] at h
    exact GoMap.get_rekey h

/-- The names and the target of a record are UTF-8. -/
structure RecordValid (r : WalRecord) : Prop where
  name : ValidUTF8 r.name
  newName : ValidUTF8 r.newName
  target : ValidUTF8 r.target

lemma jsonRecord_of_valid {r : WalRecord} (h : RecordValid r) : jsonRecord r = r := by
  unfold jsonRecord
  rw [coerceUTF8_of_valid h.name, coerceUTF8_of_valid h.newName, coerceUTF8_of_valid h.target]

end sandbox0.s0fs
