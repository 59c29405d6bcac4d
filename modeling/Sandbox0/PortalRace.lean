-- Concurrent reads and writes of one session, with file writes over HTTP on the
-- same engine. Engine and cache change in separate parts, so an entry can be left
-- behind. It is not when no call changes a file while another call on that file
-- stands between its use of the engine and its use of the cache.
import Sandbox0.PortalReads

namespace sandbox0.portal.session

open s0fs (Bytes Engine Env FileHas Files IsFile Node Op SegmentReader)
open fsserver

/-! ## Calls in flight -/

/-- A call in flight, by its next part. -/
inductive Stage where
  | track (m : Moment) (req : ReadIntoRequest)
  | lookup (m : Moment) (req : ReadIntoRequest)
  | readEngine (m : Moment) (req : ReadIntoRequest)
  | readServer (m : Moment) (req : ReadIntoRequest)
  | store (inode : Nat) (data : Bytes)
  | writeEngine (m : Moment) (req : WriteRequest)
  | markDirty (req : WriteRequest)
  | overwrite (req : WriteRequest)
  | findNode (req : WriteRequest)
  | setMode (m : Moment) (req : SetAttrRequest)
  | ownerAttr (m : Moment) (req : SetAttrRequest)
  | setOwner (m : Moment) (req : SetAttrRequest) (uid gid : UInt32)
  | truncate (m : Moment) (req : SetAttrRequest)
  | resultAttr (req : SetAttrRequest)
  | resize (req : SetAttrRequest)

namespace Stage

/-- `SetAttr` before the size, the owner and the mode. -/
def atSize (m : Moment) (req : SetAttrRequest) : Stage :=
  if req.valid &&& setAttrSize ≠ 0 then .truncate m req else .resultAttr req

def atOwner (m : Moment) (req : SetAttrRequest) : Stage :=
  if req.valid &&& (setAttrUID ||| setAttrGID) ≠ 0 then .ownerAttr m req else atSize m req

def atMode (m : Moment) (req : SetAttrRequest) : Stage :=
  if req.valid &&& setAttrMode ≠ 0 then .setMode m req else atOwner m req

/-- A part of a call, and the stage after each of its values. -/
def taking {α : Type} (x : SessionCall α) (k : α → Option Stage) :
    Call FsErr Session (Option Stage) :=
  x.run >>= fun a => pure (k a)

/-- The next part of a call. It gives the next stage, if there is one. -/
def part (rd : Option SegmentReader) : Stage → Call FsErr Session (Option Stage)
  | .track m req => taking (hasReadOnlyHandle req.handleID) fun tracked =>
      some (if tracked then .lookup m req else .readServer m req)
  | .lookup m req =>
      taking (readCacheLookup req.inode req.offset.toUInt64.toNat req.wanted) fun hit =>
        if hit.isSome then none else some (.readEngine m req)
  | .readEngine m req =>
      taking (onServer (engine (s0fs.readInto (m.env rd) req.inode req.offset.toUInt64 req.wanted)))
        fun out =>
          if out.length ≤ req.wanted ∧ out.length ≤ maxLocalReadCacheFileSize ∧
            out.length < req.wanted ∧ req.offset = 0 then some (.store req.inode out)
          else none
  | .readServer m req =>
      taking (onServer (engine (s0fs.readFile (m.env rd) req.inode req.offset.toUInt64
        req.size.toUInt64))) fun _ => none
  | .store inode data => taking (storeCompleteReadCache inode data) fun _ => none
  | .writeEngine m req =>
      taking (onServer (engine (s0fs.write (m.env rd) req.inode req.offset.toUInt64 req.data)))
        fun _ => some (.markDirty req)
  | .markDirty req => taking (onServer (markDirtyWrite req.inode req.handleID)) fun _ =>
      if req.data.length > 0 then some (.overwrite req) else none
  | .overwrite req => taking (overwriteReadCache req req.data) fun done =>
      if done = false ∧ req.offset = 0 then some (.findNode req) else none
  | .findNode req => taking (session.findNode req.inode) fun node =>
      if ∃ n ∈ node, n.size.toNat = req.data.length then some (.store req.inode req.data) else none
  | .setMode m req =>
      taking (onServer (engine (s0fs.setMode (m.env rd) req.inode (req.attrs.mode &&& 0o7777))))
        fun _ => some (atOwner m req)
  | .ownerAttr m req => taking (onServer (engine (s0fs.getAttr req.inode))) fun current =>
      some (.setOwner m req
        (if req.valid &&& setAttrUID ≠ 0 then req.attrs.uid else current.uid)
        (if req.valid &&& setAttrGID ≠ 0 then req.attrs.gid else current.gid))
  | .setOwner m req uid gid =>
      taking (onServer (engine (s0fs.setOwner (m.env rd) req.inode uid gid))) fun _ =>
        some (atSize m req)
  | .truncate m req =>
      taking (onServer (engine (s0fs.truncate (m.env rd) req.inode req.attrs.size))) fun _ =>
        some (.resultAttr req)
  | .resultAttr req => taking (onServer (engine (s0fs.getAttr req.inode))) fun _ =>
      if req.valid &&& setAttrSize ≠ 0 then some (.resize req) else none
  | .resize req => taking (resizeReadCache req.inode req.attrs.size) fun _ => none

/-- The stage that `ReadInto` starts in. -/
def ofReadInto (m : Moment) (req : ReadIntoRequest) : Option Stage :=
  if req.offset < 0 ∨ req.size < 0 ∨ req.wanted = 0 then none else some (.track m req)

/-! ## What a stage waits for -/

/-- The file whose bytes a call has read or changed, and has not yet brought
into the cache. -/
def holds : Stage → Option Nat
  | .store inode _ => some inode
  | .markDirty req | .overwrite req | .findNode req => some req.inode
  | .resultAttr req | .resize req =>
    if req.valid &&& setAttrSize ≠ 0 then some req.inode else none
  | _ => none

end Stage

structure World where
  state : Session
  calls : GoMap Nat Stage

/-- No call but `t` stands between its use of the engine and of the cache on file `i`. -/
def World.Free (w : World) (t : Option Nat) (i : Nat) : Prop :=
  ∀ p ∈ w.calls.toList, some p.1 ≠ t → p.2.holds ≠ some i

instance (w : World) (t : Option Nat) (i : Nat) : Decidable (w.Free t i) :=
  inferInstanceAs (Decidable (∀ p ∈ w.calls.toList, some p.1 ≠ t → p.2.holds ≠ some i))

/-- An engine call of a file write over HTTP. -/
inductive HttpPart where
  | mkdir (parent : Nat) (name : GoString) (mode : UInt32)
  | createFile (parent : Nat) (name : GoString) (mode : UInt32)
  | setOwner (inode : Nat) (uid gid : UInt32)
  | truncate (inode : Nat)
  | write (inode : Nat) (data : Bytes) (fits : data.length < 2 ^ 63)

def HttpPart.op : HttpPart → Op
  | .mkdir parent name mode => .mkdir parent name mode
  | .createFile parent name mode => .createFile parent name mode
  | .setOwner inode uid gid => .setOwner inode uid gid
  | .truncate inode => .truncate inode 0
  | .write inode data _ => .write inode 0 data

inductive Event where
  | readInto (t : Nat) (m : Moment) (req : ReadIntoRequest)
  | write (t : Nat) (m : Moment) (req : WriteRequest)
  | setAttr (t : Nat) (m : Moment) (req : SetAttrRequest)
  | part (t : Nat)
  | http (m : Moment) (p : HttpPart)

def World.start (w : World) (t : Nat) (st : Option Stage) : World :=
  match w.calls[t]?, st with
  | none, some st => { w with calls := w.calls.insert t st }
  | _, _ => w

/-- Call `t` after a part. -/
def World.moved (w : World) (t : Nat) (s : Session) (st : Option Stage) : World :=
  ⟨s, match st with
    | some st => w.calls.insert t st
    | none => w.calls.erase t⟩

def Event.next (rd : Option SegmentReader) (w : World) : Event → World
  | .readInto t m req => w.start t (Stage.ofReadInto m req)
  | .write t m req => w.start t (some (.writeEngine m req))
  | .setAttr t m req => w.start t (some (Stage.atMode m req))
  | .part t =>
    match w.calls[t]? with
    | none => w
    | some st => w.moved t (st.part rd w.state).2 ((st.part rd w.state).1.getD none)
  | .http m p =>
    let engine := p.op.next (m.env rd) w.state.server.engine
    { w with state := { w.state with server := { w.state.server with engine } } }

/-- The next part of call `t` changes a file only while no other call stands
between engine and cache on it. An empty write ends within the entry. -/
def Stage.Apart (w : World) (t : Nat) : Stage → Prop
  | .writeEngine _ req =>
    w.Free (some t) req.inode ∧
      (req.data = [] → ∀ d ∈ w.state.readCache.entries[req.inode]?,
        req.offset.toUInt64.toNat ≤ d.length)
  | .truncate _ req => w.Free (some t) req.inode
  | _ => True

instance (w : World) (t : Nat) (st : Stage) : Decidable (st.Apart w t) := by
  unfold Stage.Apart
  split <;> infer_instance

/-- A write over HTTP meets neither such a call nor an entry. -/
def Event.Apart (w : World) : Event → Prop
  | .part t => ∀ st ∈ w.calls[t]?, st.Apart w t
  | .http _ p => ∀ i ∈ p.op.writes, w.Free none i ∧ w.state.readCache.entries[i]? = none
  | _ => True

instance (w : World) (ev : Event) : Decidable (ev.Apart w) := by
  unfold Event.Apart
  split <;> infer_instance

end sandbox0.portal.session
