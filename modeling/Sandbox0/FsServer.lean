-- The file calls of a mounted volume: `FileSystemServer` of
-- `storage-proxy/pkg/fsserver/server.go` over one engine and its handles. Each
-- call of the engine and each use of the handle tables is a part of its own.
import Sandbox0.GoProc
import Sandbox0.S0fsFiles
import Sandbox0.VolumeHandles

namespace sandbox0.s0fs

/-- The error that `errors.Is` finds below the wrapping ones. -/
def Err.root : Err → Err
  | .replayWal _ cause => cause.root
  | .readColdSegment _ cause => cause.root
  | .wrapSegmentKey cause => cause.root
  | .unwrapSegmentKey cause => cause.root
  | e => e

/-- `Fsync`: only the file of the log is synced. -/
def fsync (syncErr : Option Err) : Eng Unit := do
  checkOpen
  match syncErr with
  | some e => Call.fail e
  | none => pure ()

end sandbox0.s0fs

namespace sandbox0.fsserver

open s0fs (Env Node)
open volume (Handles)

/-! ## Errors -/

/-- `fserror.Code`. -/
inductive Code where
  | notFound
  | alreadyExists
  | failedPrecondition
  | invalidArgument
  | permissionDenied
  | internal
  deriving DecidableEq

inductive Text where
  | plain (text : String)
  | s0fs (e : s0fs.Err)
  /-- `fmt.Errorf("...: %w", err)`. -/
  | wrapping (text : String) (e : s0fs.Err)
  deriving DecidableEq

structure FsErr where
  code : Code
  text : Text
  deriving DecidableEq

/-- `mapS0FSError`, and `mapLocalS0FSError` of ctld, which is the same. -/
def mapS0FSError (e : s0fs.Err) : FsErr :=
  let code := match e.root with
    | .notFound | .snapshotNotFound => .notFound
    | .alreadyExists => .alreadyExists
    | .notEmpty | .isDir => .failedPrecondition
    | .invalidInput _ | .missingSegment _ | .missingRetainedSegment _ | .missingSourceSegment _
    | .inlineData _ | .unsupportedSegmentEncryption _ | .foreignSegment _ _ | .noStoreForVolume _
    | .notDir => .invalidArgument
    | .closed => .failedPrecondition
    | _ => .internal
  ⟨code, .s0fs e⟩

/-! ## The server -/

structure Server where
  engine : s0fs.Engine
  handles : Handles
  dirtyWriteHandles : GoMap Nat Nat

abbrev Rpc := Proc FsErr Server

def engineCall {α : Type} (mapErr : s0fs.Err → FsErr) (x : s0fs.Eng α) : Rpc α :=
  .once fun s => ((x s.engine).1.mapErr mapErr, { s with engine := (x s.engine).2 })

def engine {α : Type} (x : s0fs.Eng α) : Rpc α := engineCall mapS0FSError x

/-- A call of the engine whose error nobody looks at. -/
def ignoring (x : s0fs.Eng Unit) : Rpc Unit :=
  .once fun s => (.ok (), { s with engine := (x s.engine).2 })

def handles {α : Type} (f : Handles → α × Handles) : Rpc α :=
  .once fun s => (.ok (f s.handles).1, { s with handles := (f s.handles).2 })

/-! ## Permissions -/

structure PosixActor where
  uid : UInt32
  gids : List UInt32

def oAccMode : UInt32 := 3
def oRdonly : UInt32 := 0
def oWronly : UInt32 := 1
def oRdwr : UInt32 := 2
def oTrunc : UInt32 := 0x200
def oAppend : UInt32 := 0x400

def s0fsAccessExecute : UInt32 := 1
def s0fsAccessWrite : UInt32 := 2
def s0fsAccessRead : UInt32 := 4

def s0fsOpenAccessMask (flags : UInt32) : UInt32 :=
  let mask :=
    if flags &&& oAccMode = oWronly then s0fsAccessWrite
    else if flags &&& oAccMode = oRdwr then s0fsAccessRead ||| s0fsAccessWrite
    else s0fsAccessRead
  if flags &&& (oTrunc ||| oAppend) ≠ 0 then mask ||| s0fsAccessWrite else mask

/-- The bits of the mode that hold for the actor. -/
def permBits (node : Node) (actor : PosixActor) : UInt32 :=
  if actor.uid = node.uid then (node.mode >>> 6) &&& 7
  else if node.gid ∈ actor.gids then (node.mode >>> 3) &&& 7
  else node.mode &&& 7

def checkS0FSAccess (node : Node) (actor : Option PosixActor) (mask : UInt32) : Rpc Unit :=
  match actor with
  | none => pure ()
  | some actor =>
    if actor.uid = 0 ∨ mask = 0 then pure ()
    else do
      let perm := permBits node actor
      Proc.failIf (mask &&& s0fsAccessRead ≠ 0 ∧ perm &&& 4 = 0)
        ⟨.permissionDenied, .plain "read permission denied"⟩
      Proc.failIf (mask &&& s0fsAccessWrite ≠ 0 ∧ perm &&& 2 = 0)
        ⟨.permissionDenied, .plain "write permission denied"⟩
      Proc.failIf (mask &&& s0fsAccessExecute ≠ 0 ∧ perm &&& 1 = 0)
        ⟨.permissionDenied, .plain "execute permission denied"⟩

/-- `volume.EnsureLazyRootPosixIdentity`, as a call on a new entry in `parent` makes it. -/
def ensureLazyRootPosixIdentity (env : Env) (actor : Option PosixActor) (parent : Nat) : Rpc Unit :=
  match actor with
  | some ⟨uid, gid :: _⟩ =>
    if parent ≠ s0fs.rootInode ∨ (uid = 0 ∧ gid = 0) then pure ()
    else do
      let attr ← engineCall (fun e => ⟨.internal, .wrapping "get root attr" e⟩)
        (s0fs.getAttr s0fs.rootInode)
      Proc.onlyIf (¬ (attr.uid = uid ∧ attr.gid = gid) ∧ attr.uid = 0 ∧ attr.gid = 0)
        (engineCall (fun e => ⟨.internal, .wrapping "set root posix identity" e⟩)
          (s0fs.setOwner env s0fs.rootInode uid gid))
  | _ => pure ()

/-! ## Open, Create and Release -/

structure OpenRequest where
  inode : Nat
  flags : UInt32
  actor : Option PosixActor

/-- `Open`: the new handle. -/
def openS0FS (env : Env) (req : OpenRequest) : Rpc Nat := do
  let node ← engine (s0fs.getAttr req.inode)
  Proc.failIf (node.type = .directory) ⟨.failedPrecondition, .plain "inode is a directory"⟩
  checkS0FSAccess node req.actor (s0fsOpenAccessMask req.flags)
  Proc.onlyIf (req.flags &&& oTrunc ≠ 0) (engine (s0fs.truncate env req.inode 0))
  handles (Handles.openFileHandle node.inode)

structure CreateRequest where
  parent : Nat
  name : GoString
  mode : UInt32
  actor : Option PosixActor

/-- `Create`: the new inode and its handle. -/
def create (env : Env) (req : CreateRequest) : Rpc (Nat × Nat) := do
  ensureLazyRootPosixIdentity env req.actor req.parent
  match ← engine (s0fs.createFile env req.parent req.name req.mode) with
  | none => Proc.panics
  | some node =>
    match req.actor with
    | some ⟨uid, gid :: _⟩ => do
      engineCall (fun e => ⟨.internal, .s0fs e⟩) (s0fs.setOwner env node.inode uid gid)
      let node ← engine (s0fs.getAttr node.inode)
      let handleID ← handles (Handles.openFileHandle node.inode)
      pure (node.inode, handleID)
    | _ => do
      let handleID ← handles (Handles.openFileHandle node.inode)
      pure (node.inode, handleID)

/-- An inode whose last handle is released is forgotten when it was unlinked. -/
def forgetReleased (r : Handles.Released) : Rpc Unit :=
  Proc.onlyIf (r.ok ∧ r.remaining = 0 ∧ r.unlinked) (ignoring (s0fs.forget r.inode))

/-- The error of `syncS0FSHandle`, if the handle has written. -/
def syncDirty (syncErr : Option s0fs.Err) (handleID : Nat) : Rpc (Option FsErr) :=
  .once fun s =>
    match s.dirtyWriteHandles[handleID]? with
    | none | some 0 => (.ok none, s)
    | some _ =>
      match s0fs.fsync syncErr s.engine with
      | (.err e, _) => (.ok (some (mapS0FSError e)), s)
      | _ => (.ok none, s)

def clearDirtyWrite (handleID : Nat) : Rpc Unit :=
  .once fun s => (.ok (), { s with dirtyWriteHandles := s.dirtyWriteHandles.erase handleID })

def release (syncErr : Option s0fs.Err) (handleID : Nat) : Rpc Unit := do
  let failed ← syncDirty syncErr handleID
  let r ← handles (Handles.releaseFileHandle handleID)
  forgetReleased r
  clearDirtyWrite handleID
  match failed with
  | some e => Proc.fail e
  | none => pure ()

/-! ## Read and Write -/

structure ReadRequest where
  inode : Nat
  handleID : Nat
  offset : Int64
  size : Int64

/-- `Read`: the bytes, and whether they are the last ones. -/
def read (env : Env) (req : ReadRequest) : Rpc (s0fs.Bytes × Bool) := do
  let data ← engine (s0fs.readFile env req.inode req.offset.toUInt64 req.size.toUInt64)
  pure (data, decide ((data.length : Int) < req.size.toInt))

structure WriteRequest where
  inode : Nat
  handleID : Nat
  offset : Int64
  data : s0fs.Bytes
  /-- The length of a slice is an `int`. -/
  fits : data.length < 2 ^ 63

def markDirtyWrite (inode handleID : Nat) : Rpc Unit :=
  .once fun s => (.ok (), { s with dirtyWriteHandles := s.dirtyWriteHandles.insert handleID inode })

/-- `Write`: `BytesWritten`. -/
def write (env : Env) (req : WriteRequest) : Rpc Nat := do
  let _ ← engine (s0fs.write env req.inode req.offset.toUInt64 req.data)
  markDirtyWrite req.inode req.handleID
  pure req.data.length

/-! ## SetAttr -/

def setAttrMode : UInt32 := 1
def setAttrUID : UInt32 := 2
def setAttrGID : UInt32 := 4
def setAttrSize : UInt32 := 8

/-- The fields of `GetAttrResponse` that `SetAttr` reads. -/
structure Attr where
  mode : UInt32 := 0
  uid : UInt32 := 0
  gid : UInt32 := 0
  size : UInt64 := 0

structure SetAttrRequest where
  inode : Nat
  valid : UInt32
  attr : Option Attr

/-- A missing attribute is a zero one. -/
def SetAttrRequest.attrs (req : SetAttrRequest) : Attr := req.attr.getD {}

/-- The owner part of `SetAttr`. -/
def setOwners (env : Env) (req : SetAttrRequest) : Rpc Unit := do
  let current ← engine (s0fs.getAttr req.inode)
  let uid := if req.valid &&& setAttrUID ≠ 0 then req.attrs.uid else current.uid
  let gid := if req.valid &&& setAttrGID ≠ 0 then req.attrs.gid else current.gid
  engine (s0fs.setOwner env req.inode uid gid)

/-- `SetAttr` up to the size. -/
def setModeAndOwners (env : Env) (req : SetAttrRequest) : Rpc Unit := do
  Proc.onlyIf (req.valid &&& setAttrMode ≠ 0)
    (engine (s0fs.setMode env req.inode (req.attrs.mode &&& 0o7777)))
  Proc.onlyIf (req.valid &&& (setAttrUID ||| setAttrGID) ≠ 0) (setOwners env req)

def setAttr (env : Env) (req : SetAttrRequest) : Rpc Node := do
  setModeAndOwners env req
  Proc.onlyIf (req.valid &&& setAttrSize ≠ 0)
    (engine (s0fs.truncate env req.inode req.attrs.size))
  engine (s0fs.getAttr req.inode)

/-! ## Names -/

def unlink (env : Env) (parent : Nat) (name : GoString) : Rpc Unit := do
  let inode ← engine (s0fs.unlinkWithInode env parent name)
  let marked ← handles (Handles.markUnlinkedFileIfOpen inode)
  Proc.onlyIf (marked = false) (ignoring (s0fs.forget inode))

def link (env : Env) (inode newParent : Nat) (newName : GoString) : Rpc (Option Node) :=
  engine (s0fs.link env inode newParent newName)

def rename (env : Env) (oldParent : Nat) (oldName : GoString) (newParent : Nat)
    (newName : GoString) : Rpc Unit :=
  engine (s0fs.rename env oldParent oldName newParent newName)

end sandbox0.fsserver
