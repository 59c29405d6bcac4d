-- What the calls of the file server leave when they run alone: the files that a
-- call does not write hold the bytes that they held, and the file of an open
-- handle stays.
import Sandbox0.FsServer

namespace sandbox0.fsserver

open s0fs (Bytes Called Engine Env Eng FileHas Files IsFile Node Op SegmentReader)
open volume (Handles)
open Call

/-- A server of an open volume: every file can be read, the counts of the
handles are right, and each open handle has its file. -/
structure Sound (rd : Option SegmentReader) (v : Server) : Prop where
  files : Files rd v.engine.toSnapshotState
  isOpen : v.engine.closed = false
  counted : v.handles.Counted
  held : ∀ h i : Nat, v.handles.fileHandles[h]? = some i → IsFile v.engine.toSnapshotState i

/-- A server whose files, but for `w`, hold what they held in `e0`. -/
structure Since (rd : Option SegmentReader) (e0 : Engine) (w : Option Nat) (v : Server) : Prop
    extends Sound rd v where
  nextInode : e0.nextInode ≤ v.engine.nextInode
  bytes : ∀ i c, i < e0.nextInode → w ≠ some i → FileHas rd v.engine.toSnapshotState i c →
    FileHas rd e0.toSnapshotState i c

variable {env : Env} {rd : Option SegmentReader} {e0 : Engine} {w : Option Nat} {v : Server}

lemma Sound.since (h : Sound rd v) : Since rd v.engine w v :=
  ⟨h, Nat.le_refl _, fun _ _ _ _ hc => hc⟩

lemma Since.but (h : Since rd e0 none v) (w : Option Nat) : Since rd e0 w v :=
  ⟨h.toSound, h.nextInode, fun i c hi _ hc => h.bytes i c hi nofun hc⟩

variable {inode : Nat} {α : Type} {v' : Server} {x : Eng α}

lemma Since.all (h : Since rd e0 (some inode) v)
    (hown : ∀ c, inode < e0.nextInode → FileHas rd v.engine.toSnapshotState inode c →
      FileHas rd e0.toSnapshotState inode c) : Since rd e0 none v := by
  refine ⟨h.toSound, h.nextInode, fun i c hi _ hc => ?_⟩
  by_cases hne : inode = i
  · subst hne
    exact hown c hi hc
  · exact h.bytes i c hi (by simpa using hne) hc

/-! ## One part -/

/-- A call of the engine that writes at most the file `w`, and forgets no file
with an open handle. -/
lemma Since.called {e' : Engine} {op : Op} (h : Since env.reader e0 w v)
    (hc : Called env v.engine op e') (hop : op.Slices) (hw : op.writes = none ∨ op.writes = w)
    (hforget : ∀ i, op = .forget i → v.handles.count i = 0) :
    Since env.reader e0 w { v with engine := e' } := by
  have hafter := hc.after h.files hop
  refine ⟨⟨hafter.files, hafter.closed.trans h.isOpen, h.counted, fun x i hx => ?_⟩,
    h.nextInode.trans hafter.nextInode, fun i c hi hne hhas => ?_⟩
  · refine hafter.kept i (h.held x i hx) fun hop' => ?_
    have hpos := h.counted.pos hx
    have hzero := hforget i hop'
    omega
  · have hunwritten : op.writes ≠ some i := by
      rcases hw with hnone | hsome
      · rw [hnone]
        simp
      · rw [hsome]
        exact hne
    exact h.bytes i c hi hne (hafter.bytes i c (hi.trans_le h.nextInode) hunwritten hhas)

lemma engineCall_run (f : s0fs.Err → FsErr) (x : Eng α) (v : Server) :
    (engineCall f x).run v = ((x v.engine).1.mapErr f, { v with engine := (x v.engine).2 }) := rfl

lemma handles_run (f : Handles → α × Handles) (v : Server) :
    (handles f).run v = (.ok (f v.handles).1, { v with handles := (f v.handles).2 }) := rfl

lemma Since.reads (h : Since rd e0 w v) (hx : ∀ e, (x e).2 = e) (f : s0fs.Err → FsErr) :
    Since rd e0 w ((engineCall f x).run v).2 := by
  rw [engineCall_run, hx]
  exact h

lemma Since.getAttr (h : Since rd e0 w v) (inode : Nat) (f : s0fs.Err → FsErr) :
    Since rd e0 w ((engineCall f (s0fs.getAttr inode)).run v).2 :=
  h.reads (s0fs.getAttr_state inode) f

lemma engineCall_ok {f : s0fs.Err → FsErr} {a : α} (h : (engineCall f x).run v = (.ok a, v')) :
    x v.engine = (.ok a, v'.engine) ∧ v' = { v with engine := v'.engine } := by
  rw [engineCall_run] at h
  rcases hx : x v.engine with ⟨_ | _ | _, e'⟩
  · rw [hx] at h
    cases h
    exact ⟨rfl, rfl⟩
  · rw [hx] at h
    cases h
  · rw [hx] at h
    cases h

lemma engine_ok {a : α} {e' : Engine} (h : x v.engine = (.ok a, e')) :
    (engine x).run v = (.ok a, { v with engine := e' }) := by
  rw [engine, engineCall_run, h]
  rfl

lemma engine_failed (h : (x v.engine).1.isOk = false) : ((engine x).run v).1.isOk = false := by
  rw [engine, engineCall_run]
  rcases hx : x v.engine with ⟨_ | _ | _, e'⟩
  · rw [hx] at h
    cases h
  · rfl
  · rfl

lemma engine_getAttr (hopen : v.engine.closed = false)
    (hfile : IsFile v.engine.toSnapshotState inode) :
    ∃ node, (engine (s0fs.getAttr inode)).run v = (.ok node, v) := by
  obtain ⟨node, hget⟩ := s0fs.getAttr_found hopen hfile
  exact ⟨node, engine_ok hget⟩

lemma getAttr_ok {f : s0fs.Err → FsErr} {node : Node}
    (h : (engineCall f (s0fs.getAttr inode)).run v = (.ok node, v')) :
    v' = v ∧ v.engine.nodes[inode]? = some node := by
  obtain ⟨hget, hv'⟩ := engineCall_ok h
  have hstate := s0fs.getAttr_state inode v.engine
  rw [hget] at hstate
  refine ⟨?_, s0fs.getAttr_ok hget⟩
  rw [hv', show v'.engine = v.engine from hstate]

section

variable (h : Since env.reader e0 w v)

include h

lemma Since.setOwner (inode : Nat) (uid gid : UInt32) (f : s0fs.Err → FsErr) :
    Since env.reader e0 w ((engineCall f (s0fs.setOwner env inode uid gid)).run v).2 :=
  h.called (s0fs.setOwner_called inode uid gid) trivial (.inl rfl) nofun

lemma Since.setMode (inode : Nat) (mode : UInt32) :
    Since env.reader e0 w ((engine (s0fs.setMode env inode mode)).run v).2 :=
  h.called (s0fs.setMode_called inode mode) trivial (.inl rfl) nofun

lemma Since.truncate (hw : w = some inode) (size : UInt64) :
    Since env.reader e0 w ((engine (s0fs.truncate env inode size)).run v).2 :=
  h.called (s0fs.truncate_called inode size) trivial (.inr hw.symm) nofun

lemma Since.writeFile (hw : w = some inode) (offset : UInt64) {data : Bytes}
    (hdata : data.length < 2 ^ 64) :
    Since env.reader e0 w ((engine (s0fs.write env inode offset data)).run v).2 :=
  h.called (s0fs.write_called inode offset data) hdata (.inr hw.symm) nofun

lemma Since.createFile (req : CreateRequest) :
    Since env.reader e0 w ((engine (s0fs.createFile env req.parent req.name req.mode)).run v).2 :=
  h.called (s0fs.next_called env h.files.listed (.createFile req.parent req.name req.mode)) trivial
    (.inl rfl) nofun

end

lemma Since.truncate_empty (h : Since env.reader e0 none v)
    (hempty : ∀ c, FileHas env.reader e0.toSnapshotState inode c → c = []) :
    Since env.reader e0 none ((engine (s0fs.truncate env inode 0)).run v).2 := by
  refine ((h.but (some inode)).truncate rfl 0).all fun c hi hc => ?_
  have hi' := hi.trans_le h.nextInode
  cases hend : s0fs.truncate env inode 0 v.engine with
  | mk o e' =>
    have hstate : ((engine (s0fs.truncate env inode 0)).run v).2.engine = e' := by
      rw [engine, engineCall_run, hend]
    rw [hstate] at hc
    cases o with
    | ok =>
      obtain ⟨c0, hold, hnew⟩ := s0fs.truncate_ok h.files hend
      have hold' := h.bytes inode c0 hi nofun hold
      have hc0 := hempty c0 hold'
      have hnil : c = [] := by
        rw [hc.unique hnew]
        exact resized_zero c0
      rw [hnil, ← hc0]
      exact hold'
    | err | panic =>
      have hfail : (s0fs.truncate env inode 0 v.engine).1.isOk = false := by
        rw [hend]
        rfl
      refine h.bytes inode c hi nofun (s0fs.truncate_failed h.files h.isOpen hfail hi' ?_)
      rw [hend]
      exact hc

section

variable (h : Since rd e0 w v)

include h

lemma Since.forget (hcount : v.handles.count inode = 0) :
    Since rd e0 w ((ignoring (s0fs.forget inode)).run v).2 := by
  let env : Env := ⟨0, none, rd⟩
  have hsince : Since env.reader e0 w v := h
  refine hsince.called (s0fs.forget_called inode) trivial (.inl rfl) fun i hi => ?_
  cases hi
  exact hcount

lemma Since.setHandles {t : Handles} (hcounted : t.Counted)
    (hheld : ∀ x i : Nat, t.fileHandles[x]? = some i → IsFile v.engine.toSnapshotState i) :
    Since rd e0 w { v with handles := t } :=
  ⟨⟨h.files, h.isOpen, hcounted, hheld⟩, h.nextInode, h.bytes⟩

lemma Since.openFileHandle (hfile : IsFile v.engine.toSnapshotState inode) :
    Since rd e0 w ((handles (Handles.openFileHandle inode)).run v).2 :=
  h.setHandles (h.counted.openFileHandle inode) (GoMap.all_insert hfile h.held)

lemma Since.markUnlinkedFileIfOpen (inode : Nat) :
    Since rd e0 w ((handles (Handles.markUnlinkedFileIfOpen inode)).run v).2 := by
  refine h.setHandles (h.counted.markUnlinkedFileIfOpen inode) fun x i hx => h.held x i ?_
  unfold Handles.markUnlinkedFileIfOpen at hx
  split at hx <;> exact hx

lemma Since.releaseFileHandle (handleID : Nat) :
    Since rd e0 w ((handles (Handles.releaseFileHandle handleID)).run v).2 := by
  refine h.setHandles (h.counted.releaseFileHandle handleID) fun x i hx => ?_
  rw [Handles.get_releaseFileHandle] at hx
  split at hx
  · cases hx
  · exact h.held x i hx

lemma Since.clearDirtyWrite (handleID : Nat) : Since rd e0 w ((clearDirtyWrite handleID).run v).2 :=
  ⟨⟨h.files, h.isOpen, h.counted, h.held⟩, h.nextInode, h.bytes⟩

lemma Since.markDirtyWrite (inode handleID : Nat) :
    Since rd e0 w ((markDirtyWrite inode handleID).run v).2 :=
  ⟨⟨h.files, h.isOpen, h.counted, h.held⟩, h.nextInode, h.bytes⟩

end

/-! ## The calls -/

open Proc

lemma checkS0FSAccess_state (node : Node) (actor : Option PosixActor) (mask : UInt32) (v : Server) :
    ((checkS0FSAccess node actor mask).run v).2 = v := by
  unfold checkS0FSAccess
  split
  · rfl
  split
  · rfl
  simp only [run_bind, run_failIf]
  refine failIf_elim (Q := (· = v)) rfl fun _ => ?_
  refine failIf_elim (Q := (· = v)) rfl fun _ => ?_
  unfold Call.failIf
  split <;> rfl

lemma Since.forgetReleased {handleID : Nat} {r : Handles.Released} (h : Since rd e0 w v')
    (hr : (handles (Handles.releaseFileHandle handleID)).run v = (.ok r, v')) :
    Since rd e0 w ((forgetReleased r).run v').2 := by
  unfold fsserver.forgetReleased
  rw [run_onlyIf]
  refine onlyIf_keeps h fun hlast => h.forget ?_
  rw [handles_run] at hr
  cases hr
  exact hlast.2.1

lemma syncDirty_run (syncErr : Option s0fs.Err) (handleID : Nat) (v : Server) :
    ∃ failed, (syncDirty syncErr handleID).run v = (.ok failed, v) := by
  unfold syncDirty
  simp only [once, Proc.run]
  split
  · exact ⟨_, rfl⟩
  · exact ⟨_, rfl⟩
  · split <;> exact ⟨_, rfl⟩

lemma Since.release (h : Since rd e0 w v) (syncErr : Option s0fs.Err) (handleID : Nat) :
    Since rd e0 w ((release syncErr handleID).run v).2 := by
  unfold fsserver.release
  obtain ⟨failed, hfailed⟩ := syncDirty_run syncErr handleID v
  simp only [run_bind]
  rw [bind_ok hfailed]
  refine bind_keeps (h.releaseFileHandle handleID) fun r v1 hr h1 => ?_
  refine bind_keeps (h1.forgetReleased hr) fun _ v2 _ h2 => ?_
  refine bind_keeps (h2.clearDirtyWrite handleID) fun _ v3 _ h3 => ?_
  cases failed <;> exact h3

section

variable (h : Since env.reader e0 w v)

include h

lemma Since.ensureLazyRootPosixIdentity (actor : Option PosixActor) (parent : Nat) :
    Since env.reader e0 w ((ensureLazyRootPosixIdentity env actor parent).run v).2 := by
  unfold fsserver.ensureLazyRootPosixIdentity
  split
  · split
    · exact h
    · simp only [run_bind, run_onlyIf]
      refine bind_keeps (h.getAttr _ _) fun attr v1 _ h1 => ?_
      exact onlyIf_keeps h1 fun _ => h1.setOwner _ _ _ _
  · exact h

lemma Since.openS0FS {req : OpenRequest}
    (htruncate : req.flags &&& oTrunc ≠ 0 → ∀ v', Since env.reader e0 w v' →
      Since env.reader e0 w ((engine (s0fs.truncate env req.inode 0)).run v').2) :
    Since env.reader e0 w ((openS0FS env req).run v).2 := by
  unfold fsserver.openS0FS
  simp only [run_bind, run_failIf, run_onlyIf]
  refine bind_keeps (h.getAttr _ _) fun node v1 hget h1 => ?_
  obtain ⟨rfl, hnode⟩ := getAttr_ok hget
  refine failIf_elim h1 fun hfile => ?_
  have hopened : IsFile v1.engine.toSnapshotState node.inode := by
    rw [h1.files.inode_eq _ _ hnode]
    exact ⟨node, hnode, hfile⟩
  -- from here on the file is there
  let P (v' : Server) : Prop :=
    Since env.reader e0 w v' ∧ IsFile v'.engine.toSnapshotState node.inode
  refine (bind_keeps (P := P) ?_ fun _ v2 _ h2 => ?_).1
  · rw [checkS0FSAccess_state]
    exact ⟨h1, hopened⟩
  refine bind_keeps (P := P) (onlyIf_keeps (P := P) h2 fun htrunc => ?_) fun _ v3 _ h3 => ?_
  · exact ⟨htruncate htrunc v2 h2.1,
      (s0fs.truncate_called req.inode 0).kept h2.1.files trivial h2.2 (by simp)⟩
  · exact ⟨h3.1.openFileHandle h3.2, h3.2⟩

lemma Since.create {req : CreateRequest} : Since env.reader e0 w ((create env req).run v).2 := by
  unfold fsserver.create
  simp only [run_bind]
  refine bind_keeps (h.ensureLazyRootPosixIdentity req.actor req.parent) fun _ v1 _ h1 => ?_
  refine bind_keeps (h1.createFile req) fun node v2 hcreate h2 => ?_
  cases node with
  | none => exact h2
  | some node =>
    have hfile : IsFile v2.engine.toSnapshotState node.inode :=
      s0fs.createFile_ok h1.files.toShaped (engineCall_ok hcreate).1
    dsimp only
    split
    · simp only [run_bind]
      rename_i uid gid _ _
      have hkept : IsFile ((engineCall (fun e => ⟨.internal, .s0fs e⟩)
          (s0fs.setOwner env node.inode uid gid)).run v2).2.engine.toSnapshotState node.inode :=
        (s0fs.setOwner_called node.inode uid gid).kept h2.files trivial hfile nofun
      refine bind_keeps (h2.setOwner _ _ _ _) fun _ v3 howner h3 => ?_
      rw [howner] at hkept
      refine bind_keeps (h3.getAttr _ _) fun node' v4 hget h4 => ?_
      obtain ⟨rfl, hnode⟩ := getAttr_ok hget
      have hinode := h4.files.inode_eq _ _ hnode
      refine bind_keeps (h4.openFileHandle ?_) fun _ v5 _ h5 => h5
      rw [hinode]
      exact hkept
    · simp only [run_bind]
      exact bind_keeps (h2.openFileHandle hfile) fun _ v3 _ h3 => h3

lemma Since.unlink (parent : Nat) (name : GoString) :
    Since env.reader e0 w ((unlink env parent name).run v).2 := by
  unfold fsserver.unlink
  simp only [run_bind, run_onlyIf]
  refine bind_keeps (h.called (s0fs.unlink_called h.files.listed parent name) trivial (.inl rfl)
    (by simp))
    fun inode v1 _ h1 => ?_
  refine bind_keeps (h1.markUnlinkedFileIfOpen inode) fun marked v2 hmark h2 => ?_
  refine onlyIf_keeps h2 fun hfree => h2.forget ?_
  rw [handles_run, Handles.markUnlinkedFileIfOpen] at hmark
  split at hmark
  · rename_i hzero
    cases hmark
    exact hzero
  · cases hmark
    cases hfree

lemma Since.link (inode newParent : Nat) (newName : GoString) :
    Since env.reader e0 w ((link env inode newParent newName).run v).2 :=
  h.called (s0fs.link_called h.files.listed inode newParent newName) trivial (.inl rfl) nofun

lemma Since.rename (oldParent : Nat) (oldName : GoString) (newParent : Nat) (newName : GoString) :
    Since env.reader e0 w ((rename env oldParent oldName newParent newName).run v).2 :=
  h.called (s0fs.rename_called h.files.listed oldParent oldName newParent newName) trivial
    (.inl rfl) nofun

lemma Since.read (req : ReadRequest) : Since env.reader e0 w ((read env req).run v).2 := by
  unfold fsserver.read
  simp only [run_bind]
  exact bind_keeps (h.reads (s0fs.readFile_state env _ _ _) _) fun _ v1 _ h1 => h1

lemma Since.setModeAndOwners (req : SetAttrRequest) :
    Since env.reader e0 w ((setModeAndOwners env req).run v).2 := by
  unfold fsserver.setModeAndOwners setOwners
  simp only [run_bind, run_onlyIf]
  refine bind_keeps (onlyIf_keeps h fun _ => h.setMode _ _) fun _ v1 _ h1 => ?_
  refine onlyIf_keeps h1 fun _ => ?_
  exact bind_keeps (h1.getAttr _ _) fun _ v2 _ h2 => h2.setOwner _ _ _ _

lemma Since.setAttr {req : SetAttrRequest} (hsize : req.valid &&& setAttrSize = 0) :
    Since env.reader e0 w ((setAttr env req).run v).2 := by
  unfold fsserver.setAttr
  simp only [run_bind, run_onlyIf]
  refine bind_keeps (h.setModeAndOwners req) fun _ v1 _ h1 => ?_
  rw [onlyIf_neg _ (not_not.mpr hsize), bind_pure_run]
  exact h1.getAttr _ _

end

/-- A write ends well and changes the bytes of its file, or it fails and
changes no bytes. -/
lemma Sound.write_cases (h : Sound env.reader v) (req : WriteRequest) :
    (∃ c v', (write env req).run v = (.ok req.data.length, v') ∧
      Since env.reader v.engine (some req.inode) v' ∧
      FileHas env.reader v.engine.toSnapshotState req.inode c ∧
      FileHas env.reader v'.engine.toSnapshotState req.inode
        (overlaid req.offset.toUInt64.toNat req.data c) ∧
      req.offset.toUInt64.toNat + req.data.length ≤ s0fs.maxAlloc) ∨
    (((write env req).run v).1.isOk = false ∧
      Since env.reader v.engine none ((write env req).run v).2) := by
  have hdata : req.data.length < 2 ^ 64 := req.fits.trans (by decide)
  have hsince : Since env.reader v.engine (some req.inode)
      ((engine (s0fs.write env req.inode req.offset.toUInt64 req.data)).run v).2 :=
    h.since.writeFile rfl _ hdata
  unfold fsserver.write
  simp only [run_bind]
  cases hok : (s0fs.write env req.inode req.offset.toUInt64 req.data v.engine).1.isOk with
  | true =>
    obtain ⟨n, e', hx⟩ := ok_of_isOk hok
    obtain ⟨c, hold, hnew, hend, _⟩ := s0fs.write_ok h.files hdata hx
    have hrun := engine_ok hx
    rw [hrun] at hsince
    exact .inl ⟨c, _, bind_ok hrun, hsince.markDirtyWrite _ _, hold, hnew, hend⟩
  | false =>
    obtain ⟨hfail, hstate⟩ := bind_failed (engine_failed hok)
    refine .inr ⟨hfail, ?_⟩
    rw [hstate]
    exact hsince.all fun c hi hc => s0fs.write_failed h.files h.isOpen hdata hok hi hc

/-- A call that sets a size ends well and resizes the file, or it fails and
changes no bytes. -/
lemma Sound.setAttr_cases (h : Sound env.reader v) {req : SetAttrRequest}
    (hsize : req.valid &&& setAttrSize ≠ 0) :
    (∃ c node v', (setAttr env req).run v = (.ok node, v') ∧
      Since env.reader v.engine (some req.inode) v' ∧
      (req.inode < v.engine.nextInode → FileHas env.reader v.engine.toSnapshotState req.inode c) ∧
      FileHas env.reader v'.engine.toSnapshotState req.inode (resized req.attrs.size.toNat c)) ∨
    (((setAttr env req).run v).1.isOk = false ∧
      Since env.reader v.engine none ((setAttr env req).run v).2) := by
  have hbefore : Since env.reader v.engine none ((setModeAndOwners env req).run v).2 :=
    h.since.setModeAndOwners req
  unfold fsserver.setAttr
  simp only [run_bind, run_onlyIf, onlyIf_pos _ hsize]
  cases hfirst : ((setModeAndOwners env req).run v).1.isOk with
  | false =>
    obtain ⟨hfail, hstate⟩ := bind_failed hfirst
    exact .inr ⟨hfail, by rw [hstate]; exact hbefore⟩
  | true =>
    obtain ⟨_, v1, hrun1⟩ := ok_of_isOk hfirst
    rw [hrun1] at hbefore
    rw [bind_ok hrun1]
    have hsince := (hbefore.but (some req.inode)).truncate rfl req.attrs.size
    cases hok : (s0fs.truncate env req.inode req.attrs.size v1.engine).1.isOk with
    | true =>
      obtain ⟨_, e', hx⟩ := ok_of_isOk hok
      obtain ⟨c, hold, hnew⟩ := s0fs.truncate_ok hbefore.files hx
      have hrun := engine_ok hx
      rw [hrun] at hsince
      have hget := engine_getAttr hsince.isOpen hnew.isFile
      obtain ⟨node, hget⟩ := hget
      refine .inl ⟨c, node, _, ?_, hsince, fun hi => hbefore.bytes _ c hi (by simp) hold, hnew⟩
      rw [bind_ok hrun]
      exact hget
    | false =>
      obtain ⟨hfail, hstate⟩ := bind_failed (engine_failed hok)
      refine .inr ⟨hfail, ?_⟩
      rw [hstate]
      refine hsince.all fun c hi hc => hbefore.bytes _ c hi (by simp) ?_
      exact s0fs.truncate_failed hbefore.files hbefore.isOpen hok (hi.trans_le hbefore.nextInode) hc

end sandbox0.fsserver
