-- The read cache of a session is transparent: a read of a read-only handle gives
-- the bytes that the engine would give. Each call keeps every entry equal to the
-- bytes of its file, but for an open that truncates a file with an entry, and an
-- empty write behind the end of an entry.
import Sandbox0.FsServerCalls
import Sandbox0.PortalSession

namespace sandbox0.portal.session

open Option
open s0fs (Bytes Engine Env FileHas Files IsFile Node SegmentReader)
open fsserver Call
open volume (Handles)

/-! ## The invariant -/

/-- The entry of a file holds its bytes. An entry may outlive its file, and no
inode comes back. -/
def Fits (rd : Option SegmentReader) (e : Engine) (i : Nat) (data : Bytes) : Prop :=
  i < e.nextInode ∧ ∀ c, FileHas rd e.toSnapshotState i c → c = data

structure Inv (rd : Option SegmentReader) (s : Session) : Prop where
  sound : fsserver.Sound rd s.server
  cached : s.localReadCacheEnabled = true → s.readCache.All (Fits rd s.server.engine)

variable {env : Env} {rd : Option SegmentReader} {s : Session}

variable {data c : Bytes} {α : Type} {inode : Nat} {e : Engine} {req : ReadIntoRequest}

lemma Fits.since {e0 : Engine} {w : Option Nat} {v : Server} {i : Nat}
    (h : Fits rd e0 i data) (hv : Since rd e0 w v) (hi : w ≠ some i) : Fits rd v.engine i data :=
  ⟨h.1.trans_le hv.nextInode, fun c hc => h.2 c (hv.bytes i c h.1 hi hc)⟩

lemma Inv.since {v : Server} (h : Inv rd s) (hv : Since rd s.server.engine none v) :
    Inv rd { s with server := v } :=
  ⟨hv.toSound, fun hon i data hget => (h.cached hon i data hget).since hv nofun⟩

open Proc

lemma onServer_run (x : Rpc α) (s : Session) :
    (onServer x).run s = ((x.run s.server).1, { s with server := (x.run s.server).2 }) := by
  unfold onServer
  rw [run_on]
  · rfl
  · exact fun _ _ => rfl
  · exact fun _ _ _ => rfl
  · exact fun _ => rfl

lemma Inv.passed {x : Rpc α} (h : Inv rd s)
    (hx : Since rd s.server.engine none (x.run s.server).2) : Inv rd ((onServer x).run s).2 := by
  rw [onServer_run]
  exact h.since hx

lemma onCache_run (f : Session → α × ReadCache) (s : Session) :
    (onCache f).run s = (.ok (f s).1, { s with readCache := (f s).2 }) := rfl

lemma Inv.recached {c : ReadCache} (hs : fsserver.Sound rd s.server)
    (hc : s.localReadCacheEnabled = true → c.All (Fits rd s.server.engine)) :
    Inv rd { s with readCache := c } :=
  ⟨hs, hc⟩

/-- The entries of all files but `i` fit. -/
def FitsBut (rd : Option SegmentReader) (i : Nat) (s : Session) : Prop :=
  s.readCache.All fun k data => k ≠ i → Fits rd s.server.engine k data

lemma Inv.fitsBut (h : Inv rd s) (hon : s.localReadCacheEnabled = true)
    (i : Nat) : FitsBut rd i s :=
  fun k data hget _ => h.cached hon k data hget

lemma Inv.evict (h : Inv rd s) (inode : Nat) : Inv rd ((evictReadCache inode).run s).2 :=
  .recached h.sound fun hon => (h.fitsBut hon inode).evict

lemma Inv.store (h : Inv rd s) (hdata : Fits rd s.server.engine inode data) :
    Inv rd ((storeCompleteReadCache inode data).run s).2 := by
  refine .recached h.sound fun hon => ?_
  dsimp only
  split
  · exact h.cached hon
  · exact (h.fitsBut hon inode).put hdata

lemma FileHas.fits {i : Nat} (hfiles : Files rd e.toSnapshotState)
    (h : FileHas rd e.toSnapshotState i c) : Fits rd e i c :=
  ⟨h.below hfiles.toShaped, fun _ hc' => hc'.unique h⟩

/-! ## Reads -/

open Int64

lemma offset_nonneg {x : Int64} : 0 ≤ x ↔ x.toUInt64.toNat < 2 ^ 63 := by
  have hlt := x.toBitVec.isLt
  have hnat : x.toUInt64.toNat = x.toBitVec.toNat := rfl
  rw [le_iff_toInt_le, ← toInt_toBitVec x, BitVec.toInt_eq_toNat_cond, hnat, toInt_zero]
  split <;> omega

lemma offset_toNat {x : Int64} (h : 0 ≤ x) : x.toInt.toNat = x.toUInt64.toNat := by
  have hsmall := offset_nonneg.mp h
  have hnat : x.toUInt64.toNat = x.toBitVec.toNat := rfl
  rw [hnat] at hsmall ⊢
  rw [← toInt_toBitVec x, BitVec.toInt_eq_toNat_cond, if_pos (by omega), Int.toNat_natCast]

lemma ReadIntoRequest.range (h : 0 ≤ req.offset) :
    req.offset.toUInt64.toNat + req.wanted < 2 ^ 64 := by
  have hoff := offset_nonneg.mp h
  have hfits := req.fits
  unfold ReadIntoRequest.wanted
  split <;> omega

open ReadIntoRequest

/-- A read that ends before the buffer does gives all of the file. -/
lemma readInto_whole {out : Bytes} {e' : Engine} (hfiles : Files env.reader e.toSnapshotState)
    (hopen : e.closed = false) (hoff : req.offset = 0) (hshort : out.length < req.wanted)
    (h : s0fs.readInto env req.inode req.offset.toUInt64 req.wanted e = (.ok out, e')) :
    FileHas env.reader e.toSnapshotState req.inode out := by
  obtain ⟨_, node, hn, hd⟩ := s0fs.readInto_ok h
  obtain ⟨c, hc⟩ := hfiles.has hn hd
  have hzero : req.offset.toUInt64.toNat = 0 := by
    rw [hoff]
    rfl
  rw [hc.readInto hopen (range (offset_nonneg.mpr (by omega))), hzero] at h
  cases h
  rw [length_slice] at hshort
  rw [slice_all c (by omega)]
  exact hc

lemma onServer_ok {x : Rpc α} {a : α} {s' : Session} (h : (onServer x).run s = (.ok a, s')) :
    x.run s.server = (.ok a, s'.server) ∧ s' = { s with server := s'.server } := by
  rw [onServer_run] at h
  rcases hx : x.run s.server with ⟨o, v⟩
  rw [hx] at h
  cases h
  exact ⟨rfl, rfl⟩

open FileHas

lemma Inv.readIntoEngine (h : Inv env.reader s) (req : ReadIntoRequest) :
    Inv env.reader ((readIntoEngine env req).run s).2 := by
  unfold session.readIntoEngine
  simp only [run_bind, run_onlyIf]
  refine bind_keeps (h.passed (h.sound.since.reads (s0fs.readInto_state env _ _ _) _))
    fun out s1 hread h1 => ?_
  refine bind_keeps (onlyIf_keeps h1 fun hshort => h1.store ?_) fun _ s2 _ h2 => h2
  obtain ⟨hread, _⟩ := engineCall_ok (onServer_ok hread).1
  have hsame := s0fs.readInto_state env req.inode req.offset.toUInt64 req.wanted s.server.engine
  rw [hread] at hsame
  dsimp only at hsame
  rw [hsame]
  exact fits h.sound.files
    (readInto_whole h.sound.files h.sound.isOpen hshort.2.2.2 hshort.2.2.1 hread)

lemma Inv.readInto (h : Inv env.reader s) (req : ReadIntoRequest) :
    Inv env.reader ((readInto env req).run s).2 := by
  unfold session.readInto
  split
  · exact h
  split
  · exact h
  simp only [run_bind]
  refine bind_keeps (x := (hasReadOnlyHandle req.handleID).run) h fun tracked s1 _ h1 => ?_
  cases tracked with
  | false =>
    unfold readIntoViaFSServer
    simp only [Bool.false_eq_true, if_false, run_bind]
    exact bind_keeps (h1.passed (h1.sound.since.read _)) fun _ s2 _ h2 => h2
  | true =>
    unfold readIntoCached
    simp only [if_true, run_bind]
    refine bind_keeps (x := (readCacheLookup _ _ _).run) h1 fun hit s2 _ h2 => ?_
    cases hit with
    | some hit => exact h2
    | none => exact h2.readIntoEngine req

/-! ## Writes -/

lemma findNode_run (inode : Nat) (s : Session) : ∃ found, (findNode inode).run s = (.ok found, s) ∧
      ∀ node ∈ found, s.server.engine.nodes[inode]? = some node := by
  refine ⟨_, rfl, fun node hmem => ?_⟩
  rcases hget : s0fs.getAttr inode s.server.engine with ⟨_ | _ | _, e'⟩
  · rw [hget] at hmem
    cases hmem
    exact s0fs.getAttr_ok hget
  · rw [hget] at hmem
    cases hmem
  · rw [hget] at hmem
    cases hmem

lemma FileHas.written {node : Node}
    (h : FileHas rd e.toSnapshotState inode (overlaid 0 data c)) (hn : e.nodes[inode]? = some node)
    (hlen : node.size.toNat = data.length) : FileHas rd e.toSnapshotState inode data := by
  have hall : overlaid 0 data c = data := by
    apply overlaid_all
    obtain ⟨node', hn', _, hfile⟩ := h
    cases hn.symm.trans hn'
    rw [← hfile.sized, hlen]
  rw [hall] at h
  exact h

lemma Inv.cacheWritten (h : Inv rd s)
    (hnew : FileHas rd s.server.engine.toSnapshotState inode (overlaid 0 data c)) :
    Inv rd ((do
      let node ← findNode inode
      cacheWritten inode data node : SessionCall Unit).run s).2 := by
  obtain ⟨found, hfound, hnodes⟩ := findNode_run inode s
  rw [run_bind, bind_ok hfound]
  unfold session.cacheWritten
  rw [run_onlyIf]
  refine onlyIf_keeps h fun hsize => h.store ?_
  obtain ⟨node, hmem, hlen⟩ := hsize
  exact fits h.sound.files (written hnew (hnodes node hmem) hlen)

lemma Inv.updateReadCacheAfterWrite {req : WriteRequest} (hs : fsserver.Sound rd s.server)
    (hnew : FileHas rd s.server.engine.toSnapshotState req.inode
      (overlaid req.offset.toUInt64.toNat req.data c))
    (hbut : s.localReadCacheEnabled = true → FitsBut rd req.inode s)
    (hown : s.localReadCacheEnabled = true →
      ∀ old, s.readCache.entries[req.inode]? = some old → old = c)
    (hoff : 0 ≤ req.offset) (hdata : req.data ≠ []) :
    Inv rd ((updateReadCacheAfterWrite req req.data.length).run s).2 := by
  have hpart : Inv rd ((overwriteReadCache req req.data).run s).2 := by
    refine .recached hs fun hon => ?_
    dsimp only
    rw [if_neg (by simp [hon, hoff, hdata])]
    split
    · exact (hbut hon).evict
    · refine (hbut hon).overwrite fun old hget => ?_
      rw [hown hon old hget, offset_toNat hoff]
      exact fits hs.files hnew
  unfold session.updateReadCacheAfterWrite
  rw [List.take_length, run_bind]
  unfold overwriteReadCache at hpart ⊢
  rw [bind_ok (onCache_run _ s), run_onlyIf]
  refine onlyIf_keeps hpart fun hstart => hpart.cacheWritten (c := c) ?_
  rw [hstart.2] at hnew
  exact hnew

lemma Inv.write {req : WriteRequest} (h : Inv env.reader s)
    (hempty : req.data = [] → ∀ d ∈ s.readCache.entries[req.inode]?,
      req.offset.toUInt64.toNat ≤ d.length) :
    Inv env.reader ((write env req).run s).2 := by
  unfold session.write
  simp only [run_bind, run_onlyIf]
  rcases h.sound.write_cases req with ⟨c, v', hrun, hsince, hold, hnew, hend⟩ | ⟨hfail, hsince⟩
  · have hs : (onServer (fsserver.write env req)).run s =
        (.ok req.data.length, { s with server := v' }) := by
      rw [onServer_run, hrun]
    have hbut : s.localReadCacheEnabled = true →
      FitsBut env.reader req.inode { s with server := v' } :=
      fun hon k data hget hk => (h.cached hon k data hget).since hsince (by simpa using Ne.symm hk)
    have hown : s.localReadCacheEnabled = true →
      ∀ old, s.readCache.entries[req.inode]? = some old → old = c :=
      fun hon old hget => ((h.cached hon _ old hget).2 c hold).symm
    rw [bind_ok hs]
    refine bind_keeps ?_ fun _ s2 _ h2 => h2
    by_cases hdata : req.data = []
    · rw [onlyIf_neg _ (by simp [hdata])]
      refine ⟨hsince.toSound, fun hon k data hget => ?_⟩
      by_cases hk : k = req.inode
      · subst hk
        have hlen := hempty hdata data hget
        rw [hown hon data hget] at hlen ⊢
        rw [hdata, overlaid_nil hlen] at hnew
        exact fits hsince.files hnew
      · exact hbut hon k data hget hk
    · rw [onlyIf_pos _ (List.length_pos_iff.mpr hdata)]
      refine Inv.updateReadCacheAfterWrite hsince.toSound hnew hbut hown
        (offset_nonneg.mpr ?_) hdata
      unfold s0fs.maxAlloc at hend
      omega
  · have hs : ((onServer (fsserver.write env req)).run s).1.isOk = false := by
      rw [onServer_run]
      exact hfail
    rw [(bind_failed hs).2]
    exact h.passed hsince

/-! ## The other calls -/

lemma Inv.setAttr (h : Inv env.reader s) (req : SetAttrRequest) :
    Inv env.reader ((setAttr env req).run s).2 := by
  unfold session.setAttr
  simp only [run_bind, run_onlyIf]
  by_cases hsize : req.valid &&& setAttrSize = 0
  · refine bind_keeps (h.passed (h.sound.since.setAttr hsize)) fun _ s1 _ h1 => ?_
    rw [onlyIf_neg _ (not_not.mpr hsize)]
    exact h1
  rcases h.sound.setAttr_cases hsize with ⟨c, node, v', hrun, hsince, hold, hnew⟩ | ⟨hfail, hsince⟩
  · have hs : (onServer (fsserver.setAttr env req)).run s =
      (.ok node, { s with server := v' }) := by
      rw [onServer_run, hrun]
    rw [bind_ok hs, onlyIf_pos _ hsize]
    refine bind_keeps (.recached hsince.toSound fun hon => ?_) fun _ s2 _ h2 => h2
    have hbut : FitsBut env.reader req.inode { s with server := v' } :=
      fun k data hget hk => (h.cached hon k data hget).since hsince (by simpa using Ne.symm hk)
    have hfits := fits hsince.files hnew
    dsimp only
    split
    · exact hbut.evict
    refine hbut.resize (fun old hget => ?_) fun hzero => ?_
    · have hentry := h.cached hon _ old hget
      rw [← hentry.2 c (hold hentry.1)]
      exact hfits
    · rw [hzero, resized_zero] at hfits
      exact hfits
  · have hs : ((onServer (fsserver.setAttr env req)).run s).1.isOk = false := by
      rw [onServer_run]
      exact hfail
    rw [(bind_failed hs).2]
    exact h.passed hsince

lemma Inv.setReadOnlyHandles (h : Inv rd s) (t : GoMap Nat Unit) :
    Inv rd { s with readOnlyHandles := t } :=
  ⟨h.sound, h.cached⟩

/-- An open that truncates is admitted on a file whose entry is empty. -/
lemma Inv.openFile {req : OpenRequest} (h : Inv env.reader s)
    (htrunc : req.flags &&& oTrunc ≠ 0 → ∀ d ∈ s.readCache.entries[req.inode]?, d = []) :
    Inv env.reader ((openFile env req).run s).2 := by
  unfold session.openFile
  simp only [run_bind, run_onlyIf]
  refine bind_keeps ?_ fun handleID s1 _ h1 => ?_
  · by_cases hflag : req.flags &&& oTrunc = 0
    · exact h.passed (h.sound.since.openS0FS fun hne => absurd hflag hne)
    · have hsince : Since env.reader s.server.engine (some req.inode)
          ((openS0FS env req).run s.server).2 :=
        h.sound.since.openS0FS fun _ v' hv' => hv'.truncate rfl 0
      rw [onServer_run]
      refine ⟨hsince.toSound, fun hon k data hget => ?_⟩
      have hfits := h.cached hon k data hget
      by_cases hk : k = req.inode
      · subst hk
        have hnil := htrunc hflag data hget
        refine hfits.since (w := none)
          (h.sound.since.openS0FS fun _ v' hv' => hv'.truncate_empty ?_)
          (by simp)
        exact fun c hc => (hfits.2 c hc).trans hnil
      · exact hfits.since hsince (by simpa using Ne.symm hk)
  · refine bind_keeps (onlyIf_keeps h1 fun _ => ?_) fun _ s2 _ h2 => h2
    exact h1.setReadOnlyHandles _

lemma Inv.release (h : Inv rd s) (syncErr : Option s0fs.Err) (handleID : Nat) :
    Inv rd ((release syncErr handleID).run s).2 := by
  unfold session.release
  simp only [run_bind]
  refine bind_keeps (x := (takeReadOnlyHandle handleID).run) (h.setReadOnlyHandles _)
    fun took s1 _ h1 => ?_
  cases took with
  | false =>
    simp only [Bool.false_eq_true, if_false]
    exact h1.passed (h1.sound.since.release syncErr handleID)
  | true =>
    unfold releaseTracked
    simp only [if_true, run_bind, run_onlyIf]
    refine bind_keeps (h1.passed (h1.sound.since.releaseFileHandle handleID)) fun r s2 hr h2 => ?_
    refine onlyIf_keeps h2 fun hlast => ?_
    have h3 := h2.evict r.inode
    unfold evictReadCache at h3 ⊢
    rw [bind_ok (onCache_run _ s2)]
    refine h3.passed (h3.sound.since.forget ?_)
    have hrun := (onServer_ok hr).1
    rw [handles_run, Prod.mk.injEq, Outcome.ok.injEq] at hrun
    obtain ⟨hr', hserver⟩ := hrun
    have hcount : s2.server.handles.count r.inode = 0 := by
      rw [← hr'] at hlast ⊢
      rw [← hserver]
      exact hlast.2.1
    exact hcount

/-! ## Runs -/

inductive Request where
  | openFile (m : Moment) (req : OpenRequest)
  | create (m : Moment) (req : CreateRequest)
  | write (m : Moment) (req : WriteRequest)
  | setAttr (m : Moment) (req : SetAttrRequest)
  | readInto (m : Moment) (req : ReadIntoRequest)
  | release (syncErr : Option s0fs.Err) (handleID : Nat)
  | unlink (m : Moment) (parent : Nat) (name : GoString)
  | rename (m : Moment) (oldParent : Nat) (oldName : GoString) (newParent : Nat)
      (newName : GoString)
  | link (m : Moment) (inode newParent : Nat) (newName : GoString)

def Request.next (rd : Option SegmentReader) (s : Session) : Request → Session
  | .openFile m req => ((session.openFile (m.env rd) req).run s).2
  | .create m req => ((session.create (m.env rd) req).run s).2
  | .write m req => ((session.write (m.env rd) req).run s).2
  | .setAttr m req => ((session.setAttr (m.env rd) req).run s).2
  | .readInto m req => ((session.readInto (m.env rd) req).run s).2
  | .release syncErr handleID => ((session.release syncErr handleID).run s).2
  | .unlink m parent name => ((session.unlink (m.env rd) parent name).run s).2
  | .rename m oldParent oldName newParent newName =>
    ((session.rename (m.env rd) oldParent oldName newParent newName).run s).2
  | .link m inode newParent newName => ((session.link (m.env rd) inode newParent newName).run s).2

/-- An open that truncates finds no bytes in the cache, and an empty write ends
within the entry of its file. -/
def Request.Updates (s : Session) : Request → Prop
  | .openFile _ req => req.flags &&& oTrunc ≠ 0 → ∀ d ∈ s.readCache.entries[req.inode]?, d = []
  | .write _ req =>
    req.data = [] → ∀ d ∈ s.readCache.entries[req.inode]?, req.offset.toUInt64.toNat ≤ d.length
  | _ => True

instance (s : Session) (r : Request) : Decidable (r.Updates s) := by
  unfold Request.Updates
  split <;> infer_instance

structure Start (rd : Option SegmentReader) (s : Session) : Prop where
  sound : fsserver.Sound rd s.server
  readOnlyHandles : s.readOnlyHandles = ∅
  readCache : s.readCache = .empty

def Reached (rd : Option SegmentReader) (ok : Session → Request → Prop) : Session → Prop :=
  Reach (Start rd) (fun s r s' => s' = r.next rd s) ok

lemma Inv.next {r : Request} (h : Inv rd s) (hr : r.Updates s) : Inv rd (r.next rd s) := by
  have h' (m : Moment) : Inv (m.env rd).reader s := h
  cases r with
  | openFile m req => exact (h' m).openFile hr
  | create m req => exact (h' m).passed (h' m).sound.since.create
  | write m req => exact (h' m).write hr
  | setAttr m req => exact (h' m).setAttr req
  | readInto m req => exact (h' m).readInto req
  | release syncErr handleID => exact h.release syncErr handleID
  | unlink m parent name => exact (h' m).passed ((h' m).sound.since.unlink parent name)
  | rename m oldParent oldName newParent newName =>
    exact (h' m).passed ((h' m).sound.since.rename oldParent oldName newParent newName)
  | link m inode newParent newName =>
    exact (h' m).passed ((h' m).sound.since.link inode newParent newName)

lemma Reached.inv (h : Reached rd Request.Updates s) : Inv rd s := by
  refine Reach.keeps (P := Inv rd) (fun s hs => ⟨hs.sound, fun _ => ?_⟩)
    (fun s r hinv hr => hinv.next hr) h
  rw [hs.readCache]
  exact ReadCache.all_empty

/-! ## Reads through the cache -/

/-- What `S0FS.ReadInto` answers, as a session passes it on. -/
def engineAnswer (env : Env) (s : Session) (req : ReadIntoRequest) : Outcome FsErr Bytes :=
  (s0fs.readInto env req.inode req.offset.toUInt64 req.wanted s.server.engine).1.mapErr mapS0FSError

lemma lookup_slice {c : ReadCache} (h : c.entries[inode]? = some data) (offset n : Nat) :
    (c.lookup inode offset n).map Prod.fst = some (slice data offset n) := by
  unfold ReadCache.lookup
  rw [h, map_some, map_some]
  split
  · rename_i hbeyond
    rw [slice_beyond data n hbeyond]
  · rfl

lemma readIntoEngine_bytes {out : Bytes}
    (h : s0fs.readInto env req.inode req.offset.toUInt64 req.wanted s.server.engine =
      (.ok out, s.server.engine)) : Prod.fst <$> ((readIntoEngine env req).run s).1 = .ok out := by
  have hread :
      (onServer (engine (s0fs.readInto env req.inode req.offset.toUInt64 req.wanted))).run s =
        (.ok out, s) := by
    rw [onServer_run, engine_ok h]
  unfold readIntoEngine
  simp only [run_bind, run_onlyIf]
  rw [bind_ok hread]
  unfold Call.onlyIf
  split <;> rfl

lemma Inv.readIntoCached (h : Inv env.reader s)
    (hoff : 0 ≤ req.offset) (hc : FileHas env.reader s.server.engine.toSnapshotState req.inode c) :
    Prod.fst <$> ((readIntoCached env req).run s).1 =
      .ok (slice c req.offset.toUInt64.toNat req.wanted) := by
  have hread := hc.readInto h.sound.isOpen (range hoff)
  have hmiss := readIntoEngine_bytes hread
  unfold session.readIntoCached readCacheLookup
  rw [run_bind, bind_ok (onCache_run _ s)]
  cases hon : s.localReadCacheEnabled with
  | false => exact hmiss
  | true =>
    cases hget : s.readCache.entries[req.inode]? with
    | none =>
      have hnone : s.readCache.lookup req.inode req.offset.toUInt64.toNat req.wanted = none := by
        simp [ReadCache.lookup, hget]
      simp only [if_true, hnone]
      exact hmiss
    | some data =>
      have hdata := (h.cached hon _ data hget).2 c hc
      have hhit := lookup_slice hget req.offset.toUInt64.toNat req.wanted
      obtain ⟨hit, hlookup, hfst⟩ := map_eq_some_iff.mp hhit
      simp only [if_true, hlookup]
      rw [hdata, ← hfst]
      rfl

/-- Over every run, a read through a read-only handle of its file gives the
bytes that the engine gives at that moment. -/
theorem read_cache_is_transparent (rd : Option SegmentReader) {s : Session}
    (h : Reached rd Request.Updates s) (m : Moment) (req : ReadIntoRequest)
    (htracked : s.readOnlyHandles[req.handleID]? = some ())
    (hopen : s.server.handles.fileHandles[req.handleID]? = some req.inode) :
    Prod.fst <$> ((readInto (m.env rd) req).run s).1 =
      if req.offset < 0 ∨ req.size < 0 then
        .err ⟨.invalidArgument, .plain "negative read offset or size"⟩
      else engineAnswer (m.env rd) s req := by
  have hinv : Inv (m.env rd).reader s := h.inv
  obtain ⟨node, hn, hd⟩ := hinv.sound.held _ _ hopen
  obtain ⟨c, hc⟩ := hinv.sound.files.has hn hd
  unfold readInto
  split
  · rfl
  rename_i hneg
  have hoff : 0 ≤ req.offset := by simpa using (not_or.mp hneg).1
  have hanswer : engineAnswer (m.env rd) s req =
      .ok (slice c req.offset.toUInt64.toNat req.wanted) := by
    unfold engineAnswer
    rw [hc.readInto hinv.sound.isOpen (range hoff)]
    rfl
  rw [hanswer]
  split
  · rename_i hzero
    rw [hzero, slice_zero]
    rfl
  have htrack : (hasReadOnlyHandle req.handleID).run s = (.ok true, s) := by
    simp only [hasReadOnlyHandle, once, Proc.run, htracked, isSome_some]
  rw [run_bind, bind_ok htrack]
  exact hinv.readIntoCached hoff hc

def newSession : Session :=
  { server := ⟨s0fs.freshEngine (lit "vol") 0, .empty, ∅⟩, access := lit "RWO",
    readOnlyHandles := ∅, readCache := .empty }

lemma newSession_start : Start none newSession := by
  refine ⟨⟨(s0fs.freshState_sound 0 none).toFiles, rfl, Handles.counted_empty, fun h i hget => ?_⟩,
    rfl, rfl⟩
  simp [newSession, Handles.empty] at hget

def atStart : Moment := ⟨0, none⟩

lemma hi_fits : (lit "hi").length < 2 ^ 63 := by decide +kernel

/-- A file is created, written and opened for reading. -/
def openedForReading : List Request :=
  [.create atStart ⟨1, lit "a", 0o644, none⟩, .write atStart ⟨2, 1, 0, lit "hi", hi_fits⟩,
    .openFile atStart ⟨2, oRdonly, none⟩]

def readAll : ReadIntoRequest :=
  { inode := 2, handleID := 2, offset := 0, size := 8, dest := 8, fits := by decide }

def sessionAfter (run : List Request) : Session := run.foldl (Request.next none) newSession

theorem read_of_a_new_file_is_transparent :
    Prod.fst <$> ((readInto (atStart.env none) readAll).run (sessionAfter openedForReading)).1 =
      engineAnswer (atStart.env none) (sessionAfter openedForReading) readAll :=
  read_cache_is_transparent none
    (.run (.start newSession_start) openedForReading (by decide +kernel))
    atStart readAll (by decide +kernel) (by decide +kernel)

/-- An open with `O_TRUNC` leaves the entry of the file, and the next read
gives bytes that the file no longer has. -/
theorem truncating_open_leaves_old_bytes :
    let s := sessionAfter (openedForReading ++ [.openFile atStart ⟨2, oWronly ||| oTrunc, none⟩])
    Reached none (fun _ _ => True) s ∧ s.readOnlyHandles[readAll.handleID]? = some () ∧
      s.server.handles.fileHandles[readAll.handleID]? = some readAll.inode ∧
      Prod.fst <$> ((readInto (atStart.env none) readAll).run s).1 = .ok (lit "hi") ∧
      engineAnswer (atStart.env none) s readAll = .ok [] :=
  ⟨.run (.start newSession_start) _ (by decide +kernel), by decide +kernel, by decide +kernel,
    by decide +kernel, by decide +kernel⟩

end sandbox0.portal.session
