-- The file calls of a ctld session: `localSession` of
-- `ctld/internal/ctld/portal/session.go`. A session passes each call on to the
-- file server of its volume, and answers the reads of a read-only handle from
-- its read cache.
import Sandbox0.DbMounts
import Sandbox0.FsServer
import Sandbox0.PortalCache

namespace sandbox0.portal.session

open s0fs (Bytes Env Node SegmentReader)
open fsserver

/-! ## The session -/

structure Session where
  server : Server
  /-- `volCtx.Access`. -/
  access : GoString
  readOnlyHandles : GoMap Nat Unit
  readCache : ReadCache

def Session.localReadCacheEnabled (s : Session) : Bool :=
  decide (db.normalizeAccessMode s.access ≠ .rwx)

abbrev SessionCall := Proc FsErr Session

def onServer {α : Type} (x : Rpc α) : SessionCall α :=
  x.on Session.server fun s server => { s with server }

def onCache {α : Type} (f : Session → α × ReadCache) : SessionCall α :=
  .once fun s => (.ok (f s).1, { s with readCache := (f s).2 })

/-! ## The read cache -/

def readCacheLookup (inode offset n : Nat) : SessionCall (Option (Bytes × Bool)) :=
  onCache fun s =>
    (if s.localReadCacheEnabled then s.readCache.lookup inode offset n else none, s.readCache)

def storeCompleteReadCache (inode : Nat) (data : Bytes) : SessionCall Unit :=
  onCache fun s =>
    ((), if s.localReadCacheEnabled = false ∨
      data.length > maxLocalReadCacheFileSize then s.readCache
      else s.readCache.put inode data)

def evictReadCache (inode : Nat) : SessionCall Unit :=
  onCache fun s => ((), s.readCache.evict inode)

/-- The first part of `updateReadCacheAfterWrite`: whether the entry is up to date. -/
def overwriteReadCache (req : WriteRequest) (data : Bytes) : SessionCall Bool :=
  onCache fun s =>
    if s.localReadCacheEnabled = false ∨ req.offset < 0 ∨ data = [] then (true, s.readCache)
    else if req.offset.toInt.toNat + data.length > maxLocalReadCacheFileSize then
      (true, s.readCache.evict req.inode)
    else s.readCache.overwrite req.inode req.offset.toInt.toNat data

/-- `GetAttr` of the engine, for a caller that takes an error for a missing node. -/
def findNode (inode : Nat) : SessionCall (Option Node) :=
  .once fun s =>
    (.ok (match (s0fs.getAttr inode s.server.engine).1 with
      | .ok node => some node
      | _ => none), s)

/-- The new file is cached when the write was all of it. -/
def cacheWritten (inode : Nat) (data : Bytes) (node : Option Node) : SessionCall Unit :=
  Proc.onlyIf (∃ n ∈ node, n.size.toNat = data.length) (storeCompleteReadCache inode data)

def updateReadCacheAfterWrite (req : WriteRequest) (written : Nat) : SessionCall Unit := do
  let data := req.data.take written
  let done ← overwriteReadCache req data
  Proc.onlyIf (done = false ∧ req.offset = 0) do
    let node ← findNode req.inode
    cacheWritten req.inode data node

def resizeReadCache (inode : Nat) (size : UInt64) : SessionCall Unit :=
  onCache fun s =>
    ((), if s.localReadCacheEnabled = false ∨ size.toNat > maxLocalReadCacheFileSize then
        s.readCache.evict inode
      else s.readCache.resize inode size.toNat)

/-! ## The calls -/

def setAttr (env : Env) (req : SetAttrRequest) : SessionCall Node := do
  let node ← onServer (fsserver.setAttr env req)
  Proc.onlyIf (req.valid &&& setAttrSize ≠ 0) (resizeReadCache req.inode req.attrs.size)
  pure node

def create (env : Env) (req : CreateRequest) : SessionCall (Nat × Nat) :=
  onServer (fsserver.create env req)

def unlink (env : Env) (parent : Nat) (name : GoString) : SessionCall Unit :=
  onServer (fsserver.unlink env parent name)

def rename (env : Env) (oldParent : Nat) (oldName : GoString) (newParent : Nat)
    (newName : GoString) : SessionCall Unit :=
  onServer (fsserver.rename env oldParent oldName newParent newName)

def link (env : Env) (inode newParent : Nat) (newName : GoString) : SessionCall (Option Node) :=
  onServer (fsserver.link env inode newParent newName)

def trackReadOnlyHandle (handleID : Nat) : SessionCall Unit :=
  .once fun s => (.ok (), { s with readOnlyHandles := s.readOnlyHandles.insert handleID () })

def hasReadOnlyHandle (handleID : Nat) : SessionCall Bool :=
  .once fun s => (.ok s.readOnlyHandles[handleID]?.isSome, s)

def takeReadOnlyHandle (handleID : Nat) : SessionCall Bool :=
  .once fun s => (.ok s.readOnlyHandles[handleID]?.isSome,
    { s with readOnlyHandles := s.readOnlyHandles.erase handleID })

/-- `Open`. -/
def openFile (env : Env) (req : OpenRequest) : SessionCall Nat := do
  let handleID ← onServer (openS0FS env req)
  Proc.onlyIf (req.flags &&& oAccMode = oRdonly) (trackReadOnlyHandle handleID)
  pure handleID

structure ReadIntoRequest extends ReadRequest where
  /-- `len(dest)`. -/
  dest : Nat
  /-- The length of a slice is an `int`. -/
  fits : dest < 2 ^ 63

def ReadIntoRequest.wanted (req : ReadIntoRequest) : Nat :=
  if (req.dest : Int) > req.size.toInt then req.size.toInt.toNat else req.dest

def readIntoViaFSServer (env : Env) (req : ReadIntoRequest) : SessionCall (Bytes × Bool) := do
  let (data, eof) ← onServer (read env req.toReadRequest)
  let out := data.take req.wanted
  pure (out, eof || decide (out.length < req.wanted))

/-- The engine is read, and a file that is shorter than the buffer is cached. -/
def readIntoEngine (env : Env) (req : ReadIntoRequest) : SessionCall (Bytes × Bool) := do
  let out ← onServer (engine (s0fs.readInto env req.inode req.offset.toUInt64 req.wanted))
  Proc.onlyIf (out.length ≤ req.wanted ∧ out.length ≤ maxLocalReadCacheFileSize ∧
      out.length < req.wanted ∧ req.offset = 0)
    (storeCompleteReadCache req.inode out)
  pure (out, decide (out.length < req.wanted))

def readIntoCached (env : Env) (req : ReadIntoRequest) : SessionCall (Bytes × Bool) := do
  match ← readCacheLookup req.inode req.offset.toUInt64.toNat req.wanted with
  | some hit => pure hit
  | none => readIntoEngine env req

/-- `ReadInto`: the bytes, and whether they are the last ones. -/
def readInto (env : Env) (req : ReadIntoRequest) : SessionCall (Bytes × Bool) :=
  if req.offset < 0 ∨ req.size < 0 then
    Proc.fail ⟨.invalidArgument, .plain "negative read offset or size"⟩
  else if req.wanted = 0 then pure ([], true)
  else do
    let tracked ← hasReadOnlyHandle req.handleID
    if tracked then readIntoCached env req else readIntoViaFSServer env req

def write (env : Env) (req : WriteRequest) : SessionCall Nat := do
  let written ← onServer (fsserver.write env req)
  Proc.onlyIf (written > 0) (updateReadCacheAfterWrite req written)
  pure written

def releaseTracked (handleID : Nat) : SessionCall Unit := do
  let r ← onServer (handles (volume.Handles.releaseFileHandle handleID))
  Proc.onlyIf (r.ok ∧ r.remaining = 0 ∧ r.unlinked) do
    evictReadCache r.inode
    onServer (ignoring (s0fs.forget r.inode))

def release (syncErr : Option s0fs.Err) (handleID : Nat) : SessionCall Unit := do
  let took ← takeReadOnlyHandle handleID
  if took then releaseTracked handleID else onServer (fsserver.release syncErr handleID)

/-- What a request meets besides the segments: the clock, and an error of the
write to the log. -/
structure Moment where
  now : Int
  appendErr : Option s0fs.AppendFault

def Moment.env (m : Moment) (rd : Option SegmentReader) : Env := ⟨m.now, m.appendErr, rd⟩

end sandbox0.portal.session
