-- The materializer: it packs the inline files of a state into one segment,
-- puts the segment and a manifest into the object store, and then moves the
-- committed head. Reads of cold files go back through it.
import Sandbox0.S0fsEngine
import Sandbox0.S0fsCrypto

namespace sandbox0.s0fs

/-! ## The object store -/

/-- An object: the bytes of a segment, or the JSON of a manifest, which
stands here as the manifest that its reader decodes. -/
inductive Object where
  | bytes (payload : Bytes)
  | json (manifest : Manifest)

abbrev Objects := GoMap GoString Object

/-- `strings.TrimLeft(key, "/")`, which every store does. -/
def objectKey (key : GoString) : GoString := key.dropWhile fun b => b == 47

/-- The sum of two `int64`. -/
def addInt64 (a b : Int) : Int := Int.bmod (a + b) (2 ^ 64)

/-- `cloneByteRange`, and the same range in `store.Get`. -/
def cloneByteRange (payload : Bytes) (off limit : Int) : Outcome Err Bytes :=
  let off := if off > payload.length then (payload.length : Int) else off
  let stop := if limit ≥ 0 ∧ addInt64 off limit < payload.length then addInt64 off limit
    else (payload.length : Int)
  if 0 ≤ off ∧ off ≤ stop then .ok ((payload.take stop.toNat).drop off.toNat) else .panic

/-- `store.Get`, read to its end. -/
def storeGet (objects : Objects) : StoreGet := fun key off limit =>
  match objects[objectKey key]? with
  | some (.bytes payload) => cloneByteRange payload off limit
  | some (.json _) => .err (.decode key)
  | none => .err (.objectNotFound key)

/-! ## Heads -/

structure CommittedHead where
  volumeID : GoString
  manifestSeq : Nat
  checkpointSeq : Nat
  manifestKey : GoString
  updatedAt : Int

/-- What the engines of a volume share: its object store, and its row in
the head store. -/
structure Cloud where
  objects : Objects
  head : Option CommittedHead

def Cloud.empty : Cloud := { objects := ∅, head := none }

abbrev Clouds := Call Err Cloud

/-- The rows that `CompareAndSwapS0FSCommittedHead` refuses to replace. -/
def headConflicts (existing : Option CommittedHead) (expectedManifestSeq : Nat)
    (head : CommittedHead) : Bool :=
  match existing with
  | none => expectedManifestSeq ≠ 0
  | some existing =>
    existing.manifestSeq ≠ expectedManifestSeq ∨ head.manifestSeq ≤ existing.manifestSeq

/-- `CompareAndSwapS0FSCommittedHead`: one transaction. -/
def compareAndSwapCommittedHead (volumeID : GoString) (expectedManifestSeq : Nat)
    (head : CommittedHead) : Clouds Unit := do
  Call.failIf (trimSpace volumeID = [])
    (.io "compare and swap s0fs committed head: volume id is required")
  Call.failIf (head.manifestSeq = 0)
    (.io "compare and swap s0fs committed head: manifest sequence must be non-zero")
  Call.failIf (headConflicts (← Call.read).head expectedManifestSeq head) .committedHeadConflict
  Call.update fun cloud => { cloud with head := some head }

/-! ## Keys -/

def segmentIDOf (manifestSeq : Nat) : GoString := decimal20 manifestSeq ++ lit "-0"

def segmentKeyOf (manifestSeq : Nat) : GoString :=
  lit "segments/" ++ segmentIDOf manifestSeq ++ lit ".bin"

def manifestKey (seq : Nat) : GoString := lit "manifests/" ++ decimal20 seq ++ lit ".json"

def manifestLatestKey : GoString := lit "manifests/latest.json"

lemma lit_segments : lit "segments/" = 115 :: lit "egments/" := by decide +kernel

lemma lit_manifests : lit "manifests/" = 109 :: lit "anifests/" := by decide +kernel

@[simp] lemma objectKey_segmentKeyOf (seq : Nat) :
    objectKey (segmentKeyOf seq) = segmentKeyOf seq := by
  simp [objectKey, segmentKeyOf, lit_segments]

@[simp] lemma objectKey_manifestKey (seq : Nat) :
    objectKey (manifestKey seq) = manifestKey seq := by
  simp [objectKey, manifestKey, lit_manifests]

@[simp] lemma objectKey_manifestLatestKey : objectKey manifestLatestKey = manifestLatestKey := by
  decide +kernel

/-- A segment never stands where a manifest stands. -/
lemma segmentKeyOf_ne_manifestKey (a b : Nat) : segmentKeyOf a ≠ manifestKey b := by
  simp [segmentKeyOf, manifestKey, lit_segments, lit_manifests]

lemma segmentKeyOf_ne_latest (a : Nat) : segmentKeyOf a ≠ manifestLatestKey := by
  have hlatest : manifestLatestKey = 109 :: lit "anifests/latest.json" := by decide +kernel
  simp [segmentKeyOf, lit_segments, hlatest]

/-! ## The state of a manifest -/

def checkpointSequence (s : SnapshotState) : Nat := s.nextSeq - 1

/-- The inodes that `materializeStateLocked` drops from the cold files. -/
def SnapshotState.nodeless (s : SnapshotState) : List Nat :=
  (s.coldFiles.toList.map Prod.fst).filter fun i => s.nodes[i]?.isNone

def materializeStateLocked (s : SnapshotState) : SnapshotState :=
  { s with coldFiles := GoMap.deleteKeys s.nodeless s.coldFiles }

def defaultVolumeID (volumeID : GoString) (segment : Segment) : Segment :=
  if trimSpace segment.volumeID = [] then { segment with volumeID } else segment

lemma defaultVolumeID_key (volumeID : GoString) (segment : Segment) :
    (defaultVolumeID volumeID segment).key = segment.key := by
  unfold defaultVolumeID
  split <;> rfl

def defaultSegmentVolumeIDs (s : SnapshotState) (volumeID : GoString) : SnapshotState :=
  { s with segments := s.segments.map fun _ segment => defaultVolumeID volumeID segment }

/-- The inline files that go into the segment, in the order of their inodes. -/
def SnapshotState.hotFiles (s : SnapshotState) : List (Nat × Bytes) :=
  s.data.toList.filter fun f =>
    decide (f.2 ≠ []) && (s.nodes[f.1]?.any fun node => decide (node.type ≠ .directory))

/-- The loop of `buildSegment`. A buffer that grows too long panics. -/
def packFiles (segmentID : GoString) :
    List (Nat × Bytes) → Bytes → GoMap Nat (List FileExtent) →
      Outcome Err (Bytes × GoMap Nat (List FileExtent))
  | [], buf, files => .ok (buf, files)
  | (inode, payload) :: rest, buf, files =>
    if buf.length + payload.length > maxAlloc then .panic
    else packFiles segmentID rest (buf ++ payload)
      (files.insert inode
        [{ segmentID, offset := UInt64.ofNat buf.length, length := UInt64.ofNat payload.length }])

def buildSegment (manifestSeq : Nat) (volumeID : GoString) (s : SnapshotState) :
    Outcome Err (MaterializedSegment × GoMap Nat (List FileExtent)) := do
  let (payload, files) ← packFiles (segmentIDOf manifestSeq) s.hotFiles [] ∅
  pure
    ({ id := segmentIDOf manifestSeq, volumeID, key := segmentKeyOf manifestSeq, payload }, files)

/-- The segments that the extents of one retained file name. -/
def retainSegments (known : GoMap GoString Segment) :
    List FileExtent → GoMap GoString Segment → Outcome Err (GoMap GoString Segment)
  | [], segments => .ok segments
  | extent :: rest, segments =>
    match known[extent.segmentID]? with
    | none => .err (.missingRetainedSegment extent.segmentID)
    | some segment => retainSegments known rest (segments.insert extent.segmentID segment)

/-- The first loop of `buildManifestState`: the cold files that stay. -/
def retainFiles (s : SnapshotState) :
    List (Nat × List FileExtent) → GoMap Nat (List FileExtent) → GoMap GoString Segment →
      Outcome Err (GoMap Nat (List FileExtent) × GoMap GoString Segment)
  | [], coldFiles, segments => .ok (coldFiles, segments)
  | (inode, extents) :: rest, coldFiles, segments =>
    if s.data[inode]?.isSome ∨ s.nodes[inode]?.isNone then retainFiles s rest coldFiles segments
    else do
      let segments ← retainSegments s.segments extents segments
      retainFiles s rest (coldFiles.insert inode extents) segments

/-- The second loop of `buildManifestState`: the files of the new segment. -/
def addHotFiles (s : SnapshotState) (hot : List (Nat × List FileExtent))
    (coldFiles : GoMap Nat (List FileExtent)) : GoMap Nat (List FileExtent) :=
  hot.foldl (fun acc f => if s.nodes[f.1]?.isNone then acc else acc.insert f.1 f.2) coldFiles

/-- The segment, as a manifest describes it. -/
def describeSegment (ms : MaterializedSegment) (encryption : Option SegmentEncryption) : Segment :=
  { id := ms.id, volumeID := ms.volumeID, key := ms.key,
    length := UInt64.ofNat ms.payload.length, encryption }

def buildManifestState (s : SnapshotState) (ms : MaterializedSegment)
    (encryption : Option SegmentEncryption) (hotFiles : GoMap Nat (List FileExtent)) :
    Outcome Err SnapshotState := do
  let (coldFiles, segments) ← retainFiles s s.coldFiles.toList ∅ ∅
  pure { s with
    data := ∅
    coldFiles := addHotFiles s hotFiles.toList coldFiles
    segments := if ms.payload = [] then segments
      else segments.insert ms.id (describeSegment ms encryption) }

/-! ## Materialize -/

/-- `Materializer`, without its cache. -/
structure Materializer where
  volumeID : GoString
  objectStoreForVolume : Option (GoString → Outcome Err (Option Objects))
  headStore : Bool
  encryption : Option EncryptionConfig

/-- What a call has computed before it writes to the store. -/
structure Plan where
  volumeID : GoString
  expected : Nat
  segmentKey : GoString
  payload : Bytes
  stored : Bytes
  manifest : Manifest

/-- The part of `Materialize` before the first put. -/
def plan (m : Materializer) (now : Int) (random : Entropy) (state : SnapshotState)
    (expectedManifestSeq : Nat) : Outcome Err Plan :=
  if m.volumeID = [] then .err (.invalidInput "volume id is required")
  else
    let inline := defaultSegmentVolumeIDs state m.volumeID
    let nextSeq := checkpointSequence inline
    if nextSeq = 0 then .err (.invalidInput "manifest sequence must be non-zero")
    else if nextSeq ≤ expectedManifestSeq then
      .err (.manifestMustAdvance nextSeq expectedManifestSeq)
    else do
      let (segment, fileExtents) ← buildSegment nextSeq m.volumeID inline
      let (stored, encryption) ← encryptSegment m.encryption random m.volumeID segment
      let manifestState ← buildManifestState inline segment encryption fileExtents
      pure
        { volumeID := m.volumeID, expected := expectedManifestSeq, segmentKey := segment.key,
          payload := segment.payload, stored,
          manifest :=
            { version := 1, volumeID := m.volumeID, manifestSeq := nextSeq,
              checkpointSeq := checkpointSequence inline, createdAt := now, state :=
                manifestState } }

def putObject (key : GoString) (object : Object) : Clouds Unit :=
  Call.update fun cloud => { cloud with objects := cloud.objects.insert (objectKey key) object }

def putSegment (p : Plan) : Clouds Unit :=
  Call.onlyIf (p.payload ≠ []) (putObject p.segmentKey (.bytes p.stored))

def putManifest (p : Plan) : Clouds Unit :=
  putObject (manifestKey p.manifest.manifestSeq) (.json p.manifest)

def Plan.head (p : Plan) : CommittedHead :=
  { volumeID := p.volumeID, manifestSeq := p.manifest.manifestSeq,
    checkpointSeq := p.manifest.checkpointSeq, manifestKey := manifestKey p.manifest.manifestSeq,
    updatedAt := p.manifest.createdAt }

/-- Without a head store the latest manifest stands under a fixed key. -/
def commit (headStore : Bool) (p : Plan) : Clouds Unit :=
  if headStore then compareAndSwapCommittedHead p.volumeID p.expected p.head
  else putObject manifestLatestKey (.json p.manifest)

def materialize (m : Materializer) (now : Int) (random : Entropy) (state : SnapshotState)
    (expectedManifestSeq : Nat) : Clouds Manifest := do
  let p ← ends (plan m now random state expectedManifestSeq)
  putSegment p
  putManifest p
  commit m.headStore p
  pure p.manifest

/-! ## The latest manifest -/

/-- The manifest that `getJSON` reads after `putJSON` wrote it. -/
def jsonManifest (m : Manifest) : Manifest := { m with state := jsonState m.state }

/-- A manifest, as `loadManifestByKey` gives it. -/
def Manifest.loaded (m : Materializer) (manifest : Manifest) : Manifest :=
  let manifest := jsonManifest manifest
  let source := if trimSpace manifest.volumeID = [] then m.volumeID else manifest.volumeID
  { manifest with state := defaultSegmentVolumeIDs manifest.state source }

def loadManifestByKey (m : Materializer) (key : GoString) : Clouds Manifest := do
  Call.failIf (trimSpace key = []) .materializedManifestNotFound
  match (← Call.read).objects[objectKey key]? with
  | some (.json manifest) => pure (manifest.loaded m)
  | some (.bytes _) => Call.fail (.decode key)
  | none => Call.fail (.objectNotFound key)

def loadLegacyLatestManifest (m : Materializer) : Clouds Manifest := do
  match (← Call.read).objects[objectKey manifestLatestKey]? with
  | none => Call.fail .materializedManifestNotFound
  | some _ => loadManifestByKey m manifestLatestKey

/-- The call is one step here, so that the head it did not find is still
missing when it inserts one. -/
def loadLatestManifest (m : Materializer) : Clouds Manifest := do
  if m.headStore then
    match (← Call.read).head with
    | some head => loadManifestByKey m head.manifestKey
    | none => do
      let manifest ← loadLegacyLatestManifest m
      compareAndSwapCommittedHead m.volumeID 0
        { volumeID := m.volumeID, manifestSeq := manifest.manifestSeq,
          checkpointSeq := manifest.checkpointSeq, manifestKey := manifestKey manifest.manifestSeq,
          updatedAt := manifest.createdAt }
      pure manifest
  else loadLegacyLatestManifest m

/-! ## Reads of segments -/

/-- The volume and the objects that a segment belongs to. -/
def storeForSegment (m : Materializer) (objects : Objects) (segment : Segment) :
    Outcome Err (GoString × Objects) :=
  let volumeID := if trimSpace segment.volumeID = [] then m.volumeID else trimSpace segment.volumeID
  if volumeID = [] ∨ volumeID = m.volumeID then .ok (m.volumeID, objects)
  else match m.objectStoreForVolume with
    | none => .err (.foreignSegment segment.id volumeID)
    | some resolve => do
      match ← resolve volumeID with
      | none => .err (.noStoreForVolume volumeID)
      | some store => pure (volumeID, store)

def segmentCacheMaxBytes : Int := 67108864

/-- A segment that the cache can hold is read as a whole. -/
def cacheable (segment : Segment) : Prop :=
  segment.length > 0 ∧ int64 segment.length ≤ segmentCacheMaxBytes

instance (segment : Segment) : Decidable (cacheable segment) := inferInstanceAs (Decidable (_ ∧ _))

/-- The bytes of a segment from the store, decrypted if they are encrypted. -/
def fetchRange (m : Materializer) (volumeID : GoString) (store : Objects) (segment : Segment)
    (off limit : Int) : Outcome Err Bytes :=
  if segment.encryption.isSome then
    decryptSegmentRange m.encryption (storeGet store) volumeID segment off limit
  else storeGet store segment.key off limit

/-- `ReadSegmentRange` with an empty cache. -/
def readSegmentRange (m : Materializer) (objects : Objects) : SegmentReader :=
  fun segment off limit =>
  if segment.key = [] then .err (.invalidInput "segment is required")
  else if limit = 0 then .ok []
  else if off < 0 then .err (.invalidInput "negative segment offset")
  else do
    let (volumeID, store) ← storeForSegment m objects segment
    if cacheable segment then
      let payload ← fetchRange m volumeID store segment 0 (int64 segment.length)
      cloneByteRange payload off limit
    else fetchRange m volumeID store segment off limit

/-- `ReadSegmentRange`. Its state is what the cache holds under the key of the segment. -/
def readSegmentRangeCached (m : Materializer) (objects : Objects) (segment : Segment)
    (off limit : Int) : Call Err (Option Bytes) Bytes := do
  Call.failIf (segment.key = []) (.invalidInput "segment is required")
  if limit = 0 then pure []
  else do
    Call.failIf (off < 0) (.invalidInput "negative segment offset")
    let (volumeID, store) ← ends (storeForSegment m objects segment)
    if cacheable segment then
      match ← Call.read with
      | some payload => ends (cloneByteRange payload off limit)
      | none =>
        let payload ← ends (fetchRange m volumeID store segment 0 (int64 segment.length))
        Call.write (some payload)
        ends (cloneByteRange payload off limit)
    else ends (fetchRange m volumeID store segment off limit)

end sandbox0.s0fs
