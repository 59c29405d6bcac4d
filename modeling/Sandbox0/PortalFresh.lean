-- No entry of the read cache is left behind: while a call that changed a file has
-- not reached the cache, the entry is what that call will make right, and when no
-- call is in flight every entry holds the bytes of its file.
import Sandbox0.PortalRace

namespace sandbox0.portal.session

open Option
open s0fs (Bytes Engine Env FileHas Files IsFile Node Op SegmentReader)
open fsserver GoMap Call

/-! ## What a call owes -/

/-- What a call will still do to the entry of the file that it changed. -/
def Stage.repair : Stage → Option (Nat × (Bytes → Bytes))
  | .markDirty req | .overwrite req =>
    if req.data = [] then none else some (req.inode, overlaid req.offset.toUInt64.toNat req.data)
  | .resultAttr req | .resize req =>
    if req.valid &&& setAttrSize ≠ 0 then some (req.inode, resized req.attrs.size.toNat) else none
  | _ => none

def Written (rd : Option SegmentReader) (e : Engine) (req : WriteRequest) : Prop :=
  0 ≤ req.offset ∧ ∃ c, FileHas rd e.toSnapshotState req.inode c ∧
    overlaid req.offset.toUInt64.toNat req.data c = c

def Resized (rd : Option SegmentReader) (e : Engine) (req : SetAttrRequest) : Prop :=
  ∃ c, FileHas rd e.toSnapshotState req.inode c ∧ resized req.attrs.size.toNat c = c

/-- What a call in flight knows of the engine. -/
def Stage.Ok (rd : Option SegmentReader) (e : Engine) : Stage → Prop
  | .store inode data => FileHas rd e.toSnapshotState inode data
  | .markDirty req => Written rd e req
  | .overwrite req => req.data ≠ [] ∧ Written rd e req
  | .findNode req => req.offset = 0 ∧ Written rd e req
  | .truncate _ req => req.valid &&& setAttrSize ≠ 0
  | .resultAttr req => req.valid &&& setAttrSize ≠ 0 → Resized rd e req
  | .resize req => req.valid &&& setAttrSize ≠ 0 ∧ Resized rd e req
  | _ => True

variable {rd : Option SegmentReader} {w : World} {e e' : Engine} {st : Stage} {t : Nat}

variable {i : Nat} {req : WriteRequest} {d c : Bytes} {s s' : Session} {op : Op} {α : Type}
    {m : Moment} {k : α → Option Stage} {x : SessionCall α}

lemma Stage.repair_holds {f : Bytes → Bytes} (h : st.repair = some (i, f)) : st.holds = some i := by
  cases st with
  | markDirty req | overwrite req =>
    simp only [repair] at h
    split at h
    · cases h
    · cases h
      rfl
  | resultAttr req | resize req =>
    simp only [repair] at h
    simp only [holds]
    split at h
    · rename_i hsize
      cases h
      rw [if_pos hsize]
    · cases h
  | _ => cases h

lemma Written.mono (h : Written rd e req)
    (hhas : ∀ c, FileHas rd e.toSnapshotState req.inode c →
      FileHas rd e'.toSnapshotState req.inode c) :
    Written rd e' req := by
  obtain ⟨hoff, c, hc, hfix⟩ := h
  exact ⟨hoff, c, hhas c hc, hfix⟩

/-- What a call knows stays true while its file is left alone. -/
lemma Stage.Ok.mono (h : st.Ok rd e)
    (hhas : ∀ i c, st.holds = some i → FileHas rd e.toSnapshotState i c →
      FileHas rd e'.toSnapshotState i c) :
    st.Ok rd e' := by
  cases st with
  | store inode data => exact hhas inode data rfl h
  | markDirty req => exact h.mono fun c => hhas req.inode c rfl
  | overwrite req | findNode req => exact ⟨h.1, h.2.mono fun c => hhas req.inode c rfl⟩
  | resultAttr req =>
    intro hsize
    obtain ⟨c, hc, hfix⟩ := h hsize
    exact ⟨c, hhas req.inode c (if_pos hsize) hc, hfix⟩
  | resize req =>
    obtain ⟨hsize, c, hc, hfix⟩ := h
    exact ⟨hsize, c, hhas req.inode c (if_pos hsize) hc, hfix⟩
  | _ => exact h

/-! ## The invariant -/

/-- The entry `d` of file `i` holds the bytes `c`, or a call will make it so. -/
def Due (calls : GoMap Nat Stage) (i : Nat) (d c : Bytes) : Prop :=
  d = c ∨ ∃ (t : Nat) (st : Stage) (f : Bytes → Bytes),
    calls[t]? = some st ∧ st.repair = some (i, f) ∧ f d = c

structure Fresh (rd : Option SegmentReader) (w : World) : Prop where
  files : Files rd w.state.server.engine.toSnapshotState
  isOpen : w.state.server.engine.closed = false
  enabled : w.state.readCache.All fun _ _ => w.state.localReadCacheEnabled = true
  entries : w.state.readCache.All fun i d =>
    ∃ c, FileHas rd w.state.server.engine.toSnapshotState i c ∧ Due w.calls i d c
  calls : ∀ (t : Nat) st, w.calls[t]? = some st → st.Ok rd w.state.server.engine
  /-- One call at a time owes something to a file. -/
  single : ∀ (t t' : Nat) st st' i f f', w.calls[t]? = some st → w.calls[t']? = some st' →
    st.repair = some (i, f) → st'.repair = some (i, f') → t = t'

lemma get_moved (w : World) (t : Nat) (s : Session) (next : Option Stage) (t' : Nat) :
    (w.moved t s next).calls[t']? = if t = t' then next else w.calls[t']? := by
  unfold World.moved
  cases next with
  | none => exact get_erase ..
  | some st => exact get_insert ..

lemma Due.mono {calls calls' : GoMap Nat Stage} (h : Due calls i d c) (hkept : ∀ (t : Nat) st f,
      calls[t]? = some st → st.repair = some (i, f) → calls'[t]? = some st) : Due calls' i d c := by
  rcases h with rfl | ⟨t, st, f, hget, hf, hfix⟩
  · exact .inl rfl
  · exact .inr ⟨t, st, f, hkept t st f hget hf, hf, hfix⟩

/-- A call that owes the same before and after a part. -/
lemma Due.moved {next : Option Stage} (h : Due w.calls i d c) (hst : w.calls[t]? = some st)
    (hsame : next.bind Stage.repair = st.repair) : Due (w.moved t s next).calls i d c := by
  rcases h with rfl | ⟨t', st', f, hget, hf, hfix⟩
  · exact .inl rfl
  by_cases ht : t = t'
  · subst ht
    cases hst.symm.trans hget
    rw [hf] at hsame
    obtain ⟨st', hnext, hrep⟩ := bind_eq_some_iff.mp hsame
    exact .inr ⟨t, st', f, by rw [get_moved, if_pos rfl, hnext], hrep, hfix⟩
  · exact .inr ⟨t', st', f, by rw [get_moved, if_neg ht]; exact hget, hf, hfix⟩

/-- An open engine in which each file holds what it held. -/
structure Steady (rd : Option SegmentReader) (e e' : Engine) : Prop where
  files : Files rd e'.toSnapshotState
  isOpen : e'.closed = false
  has : ∀ i c, FileHas rd e.toSnapshotState i c → FileHas rd e'.toSnapshotState i c

lemma Fresh.advance {next : Option Stage} (h : Fresh rd w) (hst : w.calls[t]? = some st)
    (hcache : s'.readCache = w.state.readCache) (haccess : s'.access = w.state.access)
    (hsteady : Steady rd w.state.server.engine s'.server.engine)
    (hok : ∀ st' ∈ next, st'.Ok rd s'.server.engine) (hsame : next.bind Stage.repair = st.repair) :
    Fresh rd (w.moved t s' next) := by
  have hrep : ∀ (t' : Nat) st' i f, (w.moved t s' next).calls[t']? = some st' →
    st'.repair = some (i, f) → ∃ st0, w.calls[t']? = some st0 ∧ st0.repair = some (i, f) := by
    intro t' st' i f hget hf
    rw [get_moved] at hget
    split at hget
    · rename_i ht
      subst ht
      rw [hget] at hsame
      exact ⟨st, hst, hsame.symm.trans hf⟩
    · exact ⟨st', hget, hf⟩
  refine ⟨hsteady.files, hsteady.isOpen, fun i d hget => ?_, fun i d hget => ?_,
    fun t' st' hget => ?_, ?_⟩
  · have hon := h.enabled i d (hcache ▸ hget)
    unfold Session.localReadCacheEnabled at hon ⊢
    rw [show (w.moved t s' next).state.access = w.state.access from haccess]
    exact hon
  · obtain ⟨c, hc, hdue⟩ := h.entries i d (hcache ▸ hget)
    exact ⟨c, hsteady.has i c hc, hdue.moved hst hsame⟩
  · rw [get_moved] at hget
    split at hget
    · exact hok st' hget
    · exact (h.calls t' st' hget).mono fun i c _ => hsteady.has i c
  · intro t1 t2 st1 st2 i f f' h1 h2 hf1 hf2
    obtain ⟨st1', h1', hf1'⟩ := hrep t1 st1 i f h1 hf1
    obtain ⟨st2', h2', hf2'⟩ := hrep t2 st2 i f' h2 hf2
    exact h.single t1 t2 st1' st2' i f f' h1' h2' hf1' hf2'

/-- A part that changes the entry of one file, and ends what the call owes to it. -/
lemma Fresh.recached {cache : ReadCache} {next : Option Stage} (h : Fresh rd w)
    (hst : w.calls[t]? = some st)
    (hcache : w.state.localReadCacheEnabled = true → cache.All fun k d =>
      (k = i → FileHas rd w.state.server.engine.toSnapshotState i d) ∧
      (k ≠ i → w.state.readCache.entries[k]? = some d))
    (hoff : w.state.localReadCacheEnabled = false → cache.All fun _ _ => False)
    (howed : ∀ k f, st.repair = some (k, f) → k = i)
    (hok : ∀ st' ∈ next, st'.Ok rd w.state.server.engine ∧ st'.repair = none) :
    Fresh rd (w.moved t { w.state with readCache := cache } next) := by
  have hon : cache.All fun _ _ => w.state.localReadCacheEnabled = true := by
    intro k d hget
    cases henabled : w.state.localReadCacheEnabled with
    | true => rfl
    | false => exact (hoff henabled k d hget).elim
  have hrep : ∀ (t' : Nat) st' k f,
    (w.moved t { w.state with readCache := cache } next).calls[t']? = some st' →
      st'.repair = some (k, f) → w.calls[t']? = some st' := by
    intro t' st' k f hget hf
    rw [get_moved] at hget
    split at hget
    · rw [(hok st' hget).2] at hf
      cases hf
    · exact hget
  refine ⟨h.files, h.isOpen, hon, fun k d hget => ?_, fun t' st' hget => ?_, ?_⟩
  · obtain ⟨hown, hother⟩ := hcache (hon k d hget) k d hget
    by_cases hk : k = i
    · subst hk
      exact ⟨d, hown rfl, .inl rfl⟩
    obtain ⟨c, hc, hdue⟩ := h.entries k d (hother hk)
    refine ⟨c, hc, hdue.mono fun t' st' f hget' hf => ?_⟩
    rw [get_moved, if_neg]
    · exact hget'
    · rintro rfl
      cases hst.symm.trans hget'
      exact hk (howed k f hf)
  · rw [get_moved] at hget
    split at hget
    · exact (hok st' hget).1
    · exact h.calls t' st' hget
  · intro t1 t2 st1 st2 k f f' h1 h2 hf1 hf2
    exact h.single t1 t2 st1 st2 k f f' (hrep t1 st1 k f h1 hf1) (hrep t2 st2 k f' h2 hf2) hf1 hf2

open Stage

/-- A change of file `i` in the engine, on which no other call stands between
engine and cache. `t` is the call that makes it. -/
lemma Fresh.updated (h : Fresh rd w) (calls : GoMap Nat Stage)
    (hcache : s'.readCache = w.state.readCache) (haccess : s'.access = w.state.access)
    (hfiles : Files rd s'.server.engine.toSnapshotState) (hopen : s'.server.engine.closed = false)
    (hhas : ∀ k c, k ≠ i → FileHas rd w.state.server.engine.toSnapshotState k c →
      FileHas rd s'.server.engine.toSnapshotState k c)
    (hcalls : ∀ (t' : Nat) st', calls[t']? = some st' →
      (w.calls[t']? = some st' ∧ st'.holds ≠ some i) ∨
      (st'.Ok rd s'.server.engine ∧ ∀ k f, st'.repair = some (k, f) → k = i ∧ t' = t))
    (hkept : ∀ (t' : Nat) st' k f, w.calls[t']? = some st' → st'.repair = some (k, f) →
      calls[t']? = some st') (hentry : ∀ d, w.state.readCache.entries[i]? = some d →
      ∃ c, FileHas rd s'.server.engine.toSnapshotState i c ∧ Due calls i d c) :
    Fresh rd ⟨s', calls⟩ := by
  refine ⟨hfiles, hopen, fun k d hget => ?_, fun k d hget => ?_, fun t' st' hget => ?_, ?_⟩
  · have hon := h.enabled k d (hcache ▸ hget)
    unfold Session.localReadCacheEnabled at hon ⊢
    dsimp only
    rw [haccess]
    exact hon
  · by_cases hk : k = i
    · subst hk
      exact hentry d (hcache ▸ hget)
    · obtain ⟨c, hc, hdue⟩ := h.entries k d (hcache ▸ hget)
      exact ⟨c, hhas k c hk hc, hdue.mono fun t' st' => hkept t' st' k⟩
  · rcases hcalls t' st' hget with ⟨hold, hfree⟩ | ⟨hok, _⟩
    · refine (h.calls t' st' hold).mono fun k c hk => hhas k c ?_
      rintro rfl
      exact hfree hk
    · exact hok
  · intro t1 t2 st1 st2 k f f' h1 h2 hf1 hf2
    rcases hcalls t1 st1 h1 with ⟨hold1, hfree1⟩ | ⟨_, hnew1⟩
    · rcases hcalls t2 st2 h2 with ⟨hold2, _⟩ | ⟨_, hnew2⟩
      · exact h.single t1 t2 st1 st2 k f f' hold1 hold2 hf1 hf2
      · obtain ⟨rfl, _⟩ := hnew2 k f' hf2
        exact absurd (repair_holds hf1) hfree1
    · obtain ⟨rfl, rfl⟩ := hnew1 k f hf1
      rcases hcalls t2 st2 h2 with ⟨_, hfree2⟩ | ⟨_, hnew2⟩
      · exact absurd (repair_holds hf2) hfree2
      · exact (hnew2 k f' hf2).2.symm

/-! ## Parts -/

lemma Steady.refl (hfiles : Files rd e.toSnapshotState)
    (hopen : e.closed = false) : Steady rd e e :=
  ⟨hfiles, hopen, fun _ _ hc => hc⟩

lemma Steady.of_after (h : s0fs.After rd e e' op) (hfiles : Files rd e.toSnapshotState)
    (hopen : e.closed = false) (hforget : ∀ i, op ≠ .forget i)
    (hown : ∀ i c, op.writes = some i → i < e.nextInode → FileHas rd e'.toSnapshotState i c →
      FileHas rd e.toSnapshotState i c) : Steady rd e e' := by
  refine ⟨h.files, h.closed.trans hopen, fun i c hc => ?_⟩
  by_cases hw : op.writes = some i
  · obtain ⟨node, hn, hd⟩ := h.kept i hc.isFile (hforget i)
    obtain ⟨c', hc'⟩ := h.files.has hn hd
    rw [hc.unique (hown i c' hw (hc.below hfiles.toShaped) hc')]
    exact hc'
  · exact h.has hfiles hc hw (hforget i)

lemma Stage.taking_ok {a : α} (h : x.run s = (.ok a, s')) : taking x k s = (.ok (k a), s') :=
  bind_ok h

lemma Stage.taking_failed (h : (x.run s).1.isOk = false) :
    (taking x k s).1.getD none = none ∧ (taking x k s).2 = (x.run s).2 := by
  obtain ⟨hfail, hstate⟩ := bind_failed (f := fun a => (pure (k a) : Call FsErr Session _)) h
  refine ⟨?_, hstate⟩
  change (taking x k s).1.isOk = false at hfail
  rcases ho : (taking x k s).1 with _ | _ | _
  · rw [ho] at hfail
    cases hfail
  · rfl
  · rfl

/-- The world after call `t` did `x` and goes on with `k` of its value. -/
def World.taken (w : World) (t : Nat) (x : SessionCall α) (k : α → Option Stage) : World :=
  w.moved t (Stage.taking x k w.state).2 ((Stage.taking x k w.state).1.getD none)

open World

/-- The world after stage `st` of call `t`. -/
def World.parted (w : World) (rd : Option SegmentReader) (t : Nat) (st : Stage) : World :=
  w.moved t (st.part rd w.state).2 ((st.part rd w.state).1.getD none)

section

variable {y : s0fs.Eng α} {k : α → Option Stage} {a : α}

lemma World.taken_ok (h : y w.state.server.engine = (.ok a, e')) :
    w.taken t (onServer (engine y)) k =
    w.moved t { w.state with server := { w.state.server with engine := e' } } (k a) := by
  have hrun : (onServer (engine y)).run w.state =
      (.ok a, { w.state with server := { w.state.server with engine := e' } }) := by
    rw [onServer_run, engine_ok h]
  rw [taken, taking_ok hrun]
  rfl

lemma World.taken_failed (h : (y w.state.server.engine).1.isOk = false) :
    w.taken t (onServer (engine y)) k = w.moved t
      { w.state with server := { w.state.server with engine := (y w.state.server.engine).2 } }
      none := by
  have hfailed : ((onServer (engine y)).run w.state).1.isOk = false := by
    rw [onServer_run]
    exact engine_failed h
  obtain ⟨hnone, hleft⟩ := taking_failed (k := k) hfailed
  rw [taken, hnone, hleft, onServer_run]
  rfl

end

lemma Fresh.enginePart {y : s0fs.Eng α} (h : Fresh rd w) (hst : w.calls[t]? = some st)
    (hsteady : Steady rd w.state.server.engine (y w.state.server.engine).2)
    (hok : ∀ a e', y w.state.server.engine = (.ok a, e') → ∀ st' ∈ k a, st'.Ok rd e')
    (hsame : ∀ a, (k a).bind Stage.repair = st.repair)
    (hfail : (y w.state.server.engine).1.isOk = false → st.repair = none) :
    Fresh rd (w.taken t (onServer (engine y)) k) := by
  cases hend : (y w.state.server.engine).1.isOk with
  | true =>
    obtain ⟨a, e', hy⟩ := ok_of_isOk hend
    rw [taken_ok hy]
    rw [hy] at hsteady
    exact h.advance hst rfl rfl hsteady (hok a e' hy) (hsame a)
  | false =>
    rw [taken_failed hend]
    exact h.advance hst rfl rfl hsteady nofun (hfail hend).symm

lemma Fresh.idlePart {a : α} (h : Fresh rd w) (hst : w.calls[t]? = some st)
    (hx : x.run w.state = (.ok a, s')) (hcache : s'.readCache = w.state.readCache)
    (haccess : s'.access = w.state.access) (hengine : s'.server.engine = w.state.server.engine)
    (hok : ∀ st' ∈ k a, st'.Ok rd w.state.server.engine)
    (hsame : ∀ a, (k a).bind Stage.repair = st.repair) : Fresh rd (w.taken t x k) := by
  rw [taken, taking_ok hx]
  refine h.advance hst hcache haccess ?_ ?_ (hsame a)
  · rw [hengine]
    exact .refl h.files h.isOpen
  · rw [hengine]
    exact hok

section

variable (rd : Option SegmentReader) (e : Engine) (m : Moment) (req : SetAttrRequest)

lemma Stage.atSize_fresh : (atSize m req).repair = none ∧ (atSize m req).Ok rd e := by
  unfold atSize
  split
  · rename_i hsize
    exact ⟨rfl, hsize⟩
  · rename_i hsize
    exact ⟨if_neg hsize, fun h => absurd h hsize⟩

lemma Stage.atOwner_fresh : (atOwner m req).repair = none ∧ (atOwner m req).Ok rd e := by
  unfold atOwner
  split
  · exact ⟨rfl, trivial⟩
  · exact atSize_fresh rd e m req

lemma Stage.atMode_fresh : (atMode m req).repair = none ∧ (atMode m req).Ok rd e := by
  unfold atMode
  split
  · exact ⟨rfl, trivial⟩
  · exact atOwner_fresh rd e m req

end

lemma steady_called {env : Env} (h : Fresh env.reader w)
    (hc : s0fs.Called env w.state.server.engine op e') (hop : op.Slices) (hw : op.writes = none)
    (hforget : ∀ i, op ≠ .forget i) : Steady env.reader w.state.server.engine e' := by
  refine .of_after (hc.after h.files hop) h.files h.isOpen hforget fun i c hi => ?_
  rw [hw] at hi
  cases hi

/-- What a call owes to the entry of its file makes it right. -/
lemma Fresh.repaired {f : Bytes → Bytes} (h : Fresh rd w) (hst : w.calls[t]? = some st)
    (hrep : st.repair = some (i, f)) (hc : FileHas rd w.state.server.engine.toSnapshotState i c)
    (hfix : f c = c) (hget : w.state.readCache.entries[i]? = some d) :
    FileHas rd w.state.server.engine.toSnapshotState i (f d) := by
  obtain ⟨c', hc', hdue⟩ := h.entries i d hget
  obtain rfl := hc.unique hc'
  rcases hdue with rfl | ⟨t', st', f', hget', hrep', hfix'⟩
  · rw [hfix]
    exact hc
  obtain rfl := h.single t t' st st' i f f' hst hget' hrep hrep'
  cases hst.symm.trans hget'
  cases hrep.symm.trans hrep'
  rw [hfix']
  exact hc

lemma all_others (c : ReadCache) (P : Bytes → Prop) (i : Nat) :
    c.All fun k d => k ≠ i → (k = i → P d) ∧ (k ≠ i → c.entries[k]? = some d) :=
  fun _ _ hget hk => ⟨fun hki => absurd hki hk, fun _ => hget⟩

lemma Fresh.storePart {inode : Nat} {data : Bytes} (h : Fresh rd w)
    (hst : w.calls[t]? = some (.store inode data)) :
    Fresh rd (w.parted rd t (.store inode data)) := by
  have hdata : FileHas rd w.state.server.engine.toSnapshotState inode data := h.calls t _ hst
  simp only [parted, part, storeCompleteReadCache]
  rw [taking_ok (onCache_run _ w.state)]
  by_cases hskip : w.state.localReadCacheEnabled = false ∨ data.length > maxLocalReadCacheFileSize
  · rw [if_pos hskip]
    exact h.advance hst rfl rfl (.refl h.files h.isOpen) nofun rfl
  · rw [if_neg hskip]
    refine h.recached (i := inode) hst (fun _ => ?_)
      (fun hoff => absurd (.inl hoff) hskip) nofun nofun
    exact (all_others _ _ inode).put ⟨fun _ => hdata, fun hne => absurd rfl hne⟩

lemma Fresh.none_off (h : Fresh rd w) (hoff : w.state.localReadCacheEnabled = false) :
    w.state.readCache.All fun _ _ => False := by
  intro i d hget
  have hon := h.enabled i d hget
  rw [hoff] at hon
  cases hon

lemma Fresh.overwritePart (h : Fresh rd w) (hst : w.calls[t]? = some (.overwrite req)) :
    Fresh rd (w.parted rd t (.overwrite req)) := by
  obtain ⟨hdata, hwritten⟩ : req.data ≠ [] ∧ Written rd w.state.server.engine req := h.calls t _ hst
  obtain ⟨hoff, c, hc, hfix⟩ := hwritten
  have hrep : (overwrite req).repair =
      some (req.inode, overlaid req.offset.toUInt64.toNat req.data) := if_neg hdata
  simp only [parted, part, overwriteReadCache]
  rw [taking_ok (onCache_run _ w.state)]
  refine h.recached (i := req.inode) hst (fun hon => ?_) (fun hdisabled => ?_) (fun k f hf => ?_)
    fun st' hnext => ?_
  · rw [if_neg (by simp [hon, hoff, hdata])]
    split
    · exact (all_others _ _ req.inode).evict
    · refine (all_others _ _ req.inode).overwrite fun old hget =>
        ⟨fun _ => ?_, fun hne => absurd rfl hne⟩
      rw [offset_toNat hoff]
      exact h.repaired hst hrep hc hfix hget
  · rw [if_pos (.inl hdisabled)]
    exact h.none_off hdisabled
  · rw [hrep] at hf
    cases hf
    rfl
  · obtain ⟨hstart, hst'⟩ := ite_none_right_eq_some.mp hnext
    cases hst'
    exact ⟨⟨hstart.2, hoff, c, hc, hfix⟩, rfl⟩

lemma Fresh.resizePart {req : SetAttrRequest} (h : Fresh rd w)
    (hst : w.calls[t]? = some (.resize req)) : Fresh rd (w.parted rd t (.resize req)) := by
  obtain ⟨hsize, c, hc, hfix⟩ : req.valid &&& setAttrSize ≠ 0 ∧
    Resized rd w.state.server.engine req :=
    h.calls t _ hst
  have hrep : (resize req).repair = some (req.inode, resized req.attrs.size.toNat) := if_pos hsize
  simp only [parted, part, resizeReadCache]
  rw [taking_ok (onCache_run _ w.state)]
  refine h.recached (i := req.inode) hst (fun hon => ?_) (fun hdisabled => ?_)
    (fun k f hf => ?_) nofun
  · split
    · exact (all_others _ _ req.inode).evict
    · refine (all_others _ _ req.inode).resize
        (fun old hget => ⟨fun _ => ?_, fun hne => absurd rfl hne⟩)
        fun hzero => ⟨fun _ => ?_, fun hne => absurd rfl hne⟩
      · exact h.repaired hst hrep hc hfix hget
      · rw [hzero, resized_zero] at hfix
        rw [hfix]
        exact hc
  · rw [if_pos (.inl hdisabled)]
    have hnone := h.none_off hdisabled
    exact ReadCache.All.evict fun i d hget _ => hnone i d hget
  · rw [hrep] at hf
    cases hf
    rfl

/-- A call that is the only one on its file has a right entry before it. -/
lemma Fresh.entry_of_free {free : Option Nat} (h : Fresh rd w) (hfree : w.Free free i)
    (hnone : ∀ t st, free = some t → w.calls[t]? = some st → st.repair = none)
    (hc : FileHas rd w.state.server.engine.toSnapshotState i c)
    (hget : w.state.readCache.entries[i]? = some d) : d = c := by
  obtain ⟨c', hc', hdue⟩ := h.entries i d hget
  obtain rfl := hc.unique hc'
  rcases hdue with rfl | ⟨t', st', f, hget', hrep, _⟩
  · rfl
  have hmem := (mem_toList w.calls t' st').mpr hget'
  by_cases ht : some t' = free
  · rw [hnone t' st' ht.symm hget'] at hrep
    cases hrep
  · exact absurd (repair_holds hrep) (hfree (t', st') hmem ht)

/-- A part of call `t` that changes file `i`, and leaves a stage that owes it to the entry. -/
lemma Fresh.updatePart {c' : Bytes} {next : Stage} {env : Env} (h : Fresh env.reader w)
    (hst : w.calls[t]? = some st) (hnone : st.repair = none) (hfree : w.Free (some t) i)
    (hcalled : s0fs.Called env w.state.server.engine op e') (hop : op.Slices)
    (hw : op.writes = some i) (hforget : ∀ k, op ≠ .forget k)
    (hold : FileHas env.reader w.state.server.engine.toSnapshotState i c)
    (hnew : FileHas env.reader e'.toSnapshotState i c') (hok : next.Ok env.reader e')
    (hnext : ∀ k f, next.repair = some (k, f) → k = i)
    (hdue : ∀ d, w.state.readCache.entries[i]? = some d → d = c →
      d = c' ∨ ∃ f, next.repair = some (i, f) ∧ f d = c') : Fresh env.reader (w.moved t
      { w.state with server := { w.state.server with engine := e' } } (some next)) := by
  have hafter := hcalled.after h.files hop
  refine h.updated (t := t) (i := i) (w.calls.insert t next) rfl rfl hafter.files
    (hafter.closed.trans h.isOpen)
    (fun k x hk hx => hafter.has h.files hx ?_ (hforget k)) (fun t' st' hst' => ?_)
    (fun t' st' k f hst' hf => ?_) fun d hd => ⟨c', hnew, ?_⟩
  · rw [hw]
    simpa using Ne.symm hk
  · rcases of_get_insert hst' with ⟨ht, rfl⟩ | ⟨ht, hst'⟩
    · exact .inr ⟨hok, fun k f hf => ⟨hnext k f hf, ht⟩⟩
    · refine .inl ⟨hst', hfree (t', st') ((mem_toList w.calls t' st').mpr hst') ?_⟩
      simpa using ht
  · rw [get_insert, if_neg]
    · exact hst'
    · rintro rfl
      cases hst.symm.trans hst'
      rw [hnone] at hf
      cases hf
  · have hdc : d = c := by
      refine h.entry_of_free hfree (fun t' st' ht hst' => ?_) hold hd
      cases ht
      cases hst.symm.trans hst'
      exact hnone
    rcases hdue d hd hdc with hsame | ⟨f, hf, hfix⟩
    · exact .inl hsame
    · exact .inr ⟨t, next, f, get_insert_self .., hf, hfix⟩

lemma Fresh.writePart (h : Fresh rd w) (hst : w.calls[t]? = some (.writeEngine m req))
    (hapart : (Stage.writeEngine m req).Apart w t) :
    Fresh rd (w.parted rd t (.writeEngine m req)) := by
  have hdata : req.data.length < 2 ^ 64 := req.fits.trans (by decide)
  have h' : Fresh (m.env rd).reader w := h
  have hcalled : s0fs.Called (m.env rd) w.state.server.engine _ _ :=
    s0fs.write_called req.inode req.offset.toUInt64 req.data
  change Fresh rd (w.taken t _ _)
  cases hend :
    (s0fs.write (m.env rd) req.inode req.offset.toUInt64 req.data w.state.server.engine).1.isOk with
  | true =>
    obtain ⟨n, e', hy⟩ := ok_of_isOk hend
    rw [taken_ok hy]
    rw [hy] at hcalled
    obtain ⟨c, hold, hnew, hbound, _⟩ := s0fs.write_ok h'.files hdata hy
    have hoff : 0 ≤ req.offset := by
      apply offset_nonneg.mpr
      unfold s0fs.maxAlloc at hbound
      omega
    refine h'.updatePart hst rfl hapart.1 hcalled hdata rfl nofun hold hnew
      ⟨hoff, _, hnew, overlaid_overlaid _ _ _⟩ (fun k f hf => ?_) fun d hd hdc => ?_
    · cases (repair_holds hf)
      rfl
    · by_cases hnil : req.data = []
      · have hlen := hapart.2 hnil d hd
        left
        rw [← hdc, hnil, overlaid_nil hlen]
      · right
        exact ⟨_, if_neg hnil, by rw [hdc]⟩
  | false =>
    rw [taken_failed hend]
    refine h.advance hst rfl rfl ?_ nofun rfl
    refine Steady.of_after (hcalled.after h'.files hdata) h'.files h'.isOpen nofun
      fun i c hi hlt hc => ?_
    cases hi
    exact s0fs.write_failed h'.files h'.isOpen hdata hend hlt hc

lemma Fresh.truncatePart {req : SetAttrRequest} (h : Fresh rd w)
    (hst : w.calls[t]? = some (.truncate m req)) (hapart : (Stage.truncate m req).Apart w t) :
    Fresh rd (w.parted rd t (.truncate m req)) := by
  have hsize : req.valid &&& setAttrSize ≠ 0 := h.calls t _ hst
  have h' : Fresh (m.env rd).reader w := h
  have hcalled : s0fs.Called (m.env rd) w.state.server.engine _ _ :=
    s0fs.truncate_called req.inode req.attrs.size
  change Fresh rd (w.taken t _ _)
  cases hend : (s0fs.truncate (m.env rd) req.inode req.attrs.size w.state.server.engine).1.isOk with
  | true =>
    obtain ⟨_, e', hy⟩ := ok_of_isOk hend
    rw [taken_ok hy]
    rw [hy] at hcalled
    obtain ⟨c, hold, hnew⟩ := s0fs.truncate_ok h'.files hy
    have hfix : resized req.attrs.size.toNat (resized req.attrs.size.toNat c) =
        resized req.attrs.size.toNat c := by
      have hself := resized_self (resized req.attrs.size.toNat c)
      rwa [length_resized] at hself
    have hrep : (resultAttr req).repair = some (req.inode, resized req.attrs.size.toNat) :=
      if_pos hsize
    refine h'.updatePart hst rfl hapart hcalled trivial rfl nofun hold hnew
      (fun _ => ⟨_, hnew, hfix⟩) (fun k f hf => ?_) fun d hd hdc => ?_
    · rw [hrep] at hf
      cases hf
      rfl
    · exact .inr ⟨_, hrep, by rw [hdc]⟩
  | false =>
    rw [taken_failed hend]
    refine h.advance hst rfl rfl ?_ nofun rfl
    refine Steady.of_after (hcalled.after h'.files trivial) h'.files h'.isOpen nofun
      fun i c hi hlt hc => ?_
    cases hi
    exact s0fs.truncate_failed h'.files h'.isOpen hend hlt hc

lemma Fresh.readPart {y : s0fs.Eng α} (h : Fresh rd w) (hst : w.calls[t]? = some st)
    (hy : ∀ e, (y e).2 = e) (hok : ∀ a, y w.state.server.engine = (.ok a, w.state.server.engine) →
      ∀ st' ∈ k a, st'.Ok rd w.state.server.engine)
    (hsame : ∀ a, (k a).bind Stage.repair = st.repair)
    (hfail : (y w.state.server.engine).1.isOk = false → st.repair = none) :
    Fresh rd (w.taken t (onServer (engine y)) k) := by
  refine h.enginePart hst ?_ (fun a e' hrun st' hst' => ?_) hsame hfail
  · rw [hy]
    exact .refl h.files h.isOpen
  · have hsame' := hy w.state.server.engine
    rw [hrun] at hsame'
    dsimp only at hsame'
    subst hsame'
    exact hok a hrun st' hst'

lemma Fresh.part (h : Fresh rd w) (hst : w.calls[t]? = some st) (hapart : st.Apart w t) :
    Fresh rd (w.parted rd t st) := by
  have h' (m : Moment) : Fresh (m.env rd).reader w := h
  cases st with
  | track m req =>
    refine h.idlePart hst (x := hasReadOnlyHandle req.handleID) rfl rfl rfl rfl ?_ fun tracked => ?_
    · rintro st' ⟨⟩
      split <;> trivial
    · cases tracked <;> rfl
  | lookup m req =>
    refine h.idlePart hst (x := readCacheLookup req.inode req.offset.toUInt64.toNat req.wanted)
      rfl rfl rfl rfl (fun st' hst' => ?_) fun hit => ?_
    · obtain ⟨_, hst'⟩ := ite_none_left_eq_some.mp hst'
      cases hst'
      trivial
    · cases hit <;> rfl
  | readEngine m req =>
    refine h.readPart hst (s0fs.readInto_state (m.env rd) _ _ _) (fun out hread st' hst' => ?_)
      (fun out => ?_) fun _ => rfl
    · obtain ⟨hshort, hst'⟩ := ite_none_right_eq_some.mp hst'
      cases hst'
      exact readInto_whole (h' m).files h.isOpen hshort.2.2.2 hshort.2.2.1 hread
    · split <;> rfl
  | readServer m req =>
    exact h.readPart hst (s0fs.readFile_state (m.env rd) _ _ _) nofun (fun _ => rfl) fun _ => rfl
  | store inode data => exact h.storePart hst
  | writeEngine m req => exact h.writePart hst hapart
  | markDirty req =>
    have hwritten : Written rd w.state.server.engine req := h.calls t _ hst
    refine h.idlePart hst (x := onServer (markDirtyWrite req.inode req.handleID)) rfl rfl rfl rfl
      (fun st' hst' => ?_) fun _ => ?_
    · obtain ⟨hpos, hst'⟩ := ite_none_right_eq_some.mp hst'
      cases hst'
      exact ⟨List.length_pos_iff.mp hpos, hwritten⟩
    · by_cases hnil : req.data = []
      · simp [repair, hnil]
      · rw [if_pos (List.length_pos_iff.mpr hnil)]
        rfl
  | overwrite req => exact h.overwritePart hst
  | findNode req =>
    obtain ⟨hzero, _, c, hc, hfix⟩ : req.offset = 0 ∧ Written rd w.state.server.engine req :=
      h.calls t _ hst
    obtain ⟨found, hfound, hnodes⟩ := findNode_run req.inode w.state
    refine h.idlePart hst hfound rfl rfl rfl (fun st' hst' => ?_) fun node => ?_
    · obtain ⟨⟨node, hmem, hlen⟩, hst'⟩ := ite_none_right_eq_some.mp hst'
      cases hst'
      rw [hzero] at hfix
      rw [← hfix] at hc
      exact FileHas.written hc (hnodes node hmem) hlen
    · split <;> rfl
  | setMode m req =>
    refine h.enginePart hst (steady_called (h' m) (s0fs.setMode_called _ _) trivial rfl nofun) ?_
      (fun _ => (atOwner_fresh rd w.state.server.engine m req).1) fun _ => rfl
    rintro _ e' _ st' ⟨⟩
    exact (atOwner_fresh rd e' m req).2
  | ownerAttr m req =>
    refine h.readPart hst (s0fs.getAttr_state _) ?_ (fun _ => rfl) fun _ => rfl
    rintro _ _ st' ⟨⟩
    trivial
  | setOwner m req uid gid =>
    refine h.enginePart hst (steady_called (h' m) (s0fs.setOwner_called _ _ _) trivial rfl nofun) ?_
      (fun _ => (atSize_fresh rd w.state.server.engine m req).1) fun _ => rfl
    rintro _ e' _ st' ⟨⟩
    exact (atSize_fresh rd e' m req).2
  | truncate m req => exact h.truncatePart hst hapart
  | resultAttr req =>
    have hknown : req.valid &&& setAttrSize ≠ 0 → Resized rd w.state.server.engine req :=
      h.calls t _ hst
    refine h.readPart hst (s0fs.getAttr_state _) (fun _ _ st' hst' => ?_) (fun _ => ?_)
      fun hfail => ?_
    · obtain ⟨hsize, hst'⟩ := ite_none_right_eq_some.mp hst'
      cases hst'
      exact ⟨hsize, hknown hsize⟩
    · by_cases hsize : req.valid &&& setAttrSize ≠ 0
      · rw [if_pos hsize]
        rfl
      · rw [if_neg hsize]
        exact (if_neg hsize).symm
    · refine if_neg fun hsize => ?_
      obtain ⟨c, hc, _⟩ := hknown hsize
      obtain ⟨node, hget⟩ := s0fs.getAttr_found h.isOpen hc.isFile
      rw [hget] at hfail
      cases hfail
  | resize req => exact h.resizePart hst

/-! ## Runs -/

lemma Fresh.start (h : Fresh rd w) (t : Nat) {first : Option Stage}
    (hfirst : ∀ st ∈ first, st.repair = none ∧ st.Ok rd w.state.server.engine) :
    Fresh rd (w.start t first) := by
  unfold World.start
  split
  · rename_i st hnew
    obtain ⟨hnone, hok⟩ := hfirst st rfl
    have hold : ∀ (t' : Nat) st', (w.calls.insert t st)[t']? = some st' → st'.repair ≠ none →
        w.calls[t']? = some st' := all_insert (absurd hnone) fun _ _ hst' _ => hst'
    refine ⟨h.files, h.isOpen, h.enabled, fun i d hd => ?_, all_insert hok h.calls, ?_⟩
    · obtain ⟨c, hc, hdue⟩ := h.entries i d hd
      refine ⟨c, hc, hdue.mono fun t' st' f hst' hf => ?_⟩
      rw [get_insert_ne]
      · exact hst'
      · rintro rfl
        cases hnew.symm.trans hst'
    · intro t1 t2 st1 st2 i f f' h1 h2 hf1 hf2
      exact h.single t1 t2 st1 st2 i f f' (hold t1 st1 h1 (by simp [hf1]))
        (hold t2 st2 h2 (by simp [hf2])) hf1 hf2
  · exact h

lemma HttpPart.slices (p : HttpPart) : p.op.Slices := by
  cases p with
  | write inode data fits => exact fits.trans (by decide)
  | _ => trivial

lemma HttpPart.keeps_files (p : HttpPart) (i : Nat) : p.op ≠ .forget i := by
  cases p <;> nofun

lemma Fresh.http {p : HttpPart} (h : Fresh rd w) (hapart : (Event.http m p).Apart w) :
    Fresh rd ((Event.http m p).next rd w) := by
  have h' : Fresh (m.env rd).reader w := h
  have hafter := (s0fs.next_called (m.env rd) h.files.listed p.op).after h'.files p.slices
  have hopen := hafter.closed.trans h.isOpen
  cases hw : p.op.writes with
  | none =>
    have hhas : ∀ i c, FileHas rd w.state.server.engine.toSnapshotState i c → FileHas rd _ i c :=
      fun i c hc => hafter.has h'.files hc (by simp [hw]) (p.keeps_files i)
    refine ⟨hafter.files, hopen, h.enabled, fun i d hget => ?_, fun t st hst => ?_, h.single⟩
    · obtain ⟨c, hc, hdue⟩ := h.entries i d hget
      exact ⟨c, hhas i c hc, hdue⟩
    · exact (h.calls t st hst).mono fun i c _ => hhas i c
  | some i =>
    obtain ⟨hfree, hnone⟩ := hapart i hw
    refine h.updated (t := 0) (i := i) w.calls rfl rfl hafter.files hopen
      (fun k c hk hc => hafter.has h'.files hc ?_ (p.keeps_files k))
        (fun t st hst => .inl ⟨hst, ?_⟩)
      (fun _ _ _ _ hst _ => hst) fun d hd => ?_
    · rw [hw]
      simpa using Ne.symm hk
    · exact hfree (t, st) ((mem_toList w.calls t st).mpr hst) nofun
    · cases hnone.symm.trans hd

lemma Fresh.next {ev : Event} (h : Fresh rd w) (hev : ev.Apart w) : Fresh rd (ev.next rd w) := by
  cases ev with
  | readInto t m req =>
    refine h.start t fun st hst => ?_
    obtain ⟨_, hst⟩ := ite_none_left_eq_some.mp hst
    cases hst
    exact ⟨rfl, trivial⟩
  | write t m req =>
    refine h.start t fun st hst => ?_
    cases hst
    exact ⟨rfl, trivial⟩
  | setAttr t m req =>
    refine h.start t fun st hst => ?_
    cases hst
    exact atMode_fresh rd _ m req
  | part t =>
    cases hst : w.calls[t]? with simp only [Event.next, hst]
    | none =>
      exact h
    | some st =>
      exact h.part hst (hev st hst)
  | http m p => exact h.http hev

/-- Each entry holds the bytes that its file has in the engine. -/
def Settled (rd : Option SegmentReader) (s : Session) : Prop :=
  s.readCache.All fun i d => FileHas rd s.server.engine.toSnapshotState i d

structure Idle (rd : Option SegmentReader) (w : World) : Prop where
  files : Files rd w.state.server.engine.toSnapshotState
  isOpen : w.state.server.engine.closed = false
  enabled : w.state.readCache.All fun _ _ => w.state.localReadCacheEnabled = true
  settled : Settled rd w.state
  calls : w.calls = ∅

def Scheduled (rd : Option SegmentReader) (ok : World → Event → Prop) : World → Prop :=
  Reach (Idle rd) (fun w ev w' => w' = ev.next rd w) ok

lemma Idle.fresh (h : Idle rd w) : Fresh rd w := by
  have hnone : ∀ (t : Nat), w.calls[t]? = none := by
    intro t
    rw [h.calls]
    rfl
  refine ⟨h.files, h.isOpen, h.enabled, fun i d hget => ⟨d, h.settled i d hget, .inl rfl⟩,
    fun t st hst => ?_, fun t _ st _ _ _ _ hst => ?_⟩
  · cases (hnone t).symm.trans hst
  · cases (hnone t).symm.trans hst

lemma Scheduled.fresh (h : Scheduled rd (fun w ev => ev.Apart w) w) : Fresh rd w := by
  exact Reach.keeps (P := Fresh rd) (fun w hw => hw.fresh)
    (fun w ev hfresh hev => hfresh.next hev) h

/-- Over every schedule of calls that stay apart on each file, no entry is
stale once all calls have finished. -/
theorem read_cache_is_settled (rd : Option SegmentReader) {w : World}
    (h : Scheduled rd (fun w ev => ev.Apart w) w) (hdone : w.calls.isEmpty = true) :
    Settled rd w.state := by
  intro i d hget
  obtain ⟨c, hc, hdue⟩ := h.fresh.entries i d hget
  rcases hdue with rfl | ⟨t, st, f, hst, _, _⟩
  · exact hc
  · cases ((isEmpty_iff w.calls).mp hdone t).symm.trans hst

def newWorld : World :=
  { state := { newSession with readOnlyHandles := newSession.readOnlyHandles.insert 1 () },
    calls := ∅ }

lemma newWorld_idle : Idle none newWorld :=
  ⟨newSession_start.sound.files, rfl, ReadCache.all_empty, ReadCache.all_empty, rfl⟩

def worldAfter (run : List Event) : World := run.foldl (Event.next none) newWorld

/-- A file is created and written over HTTP, and a read of it through the
handle stands before the cache. -/
def readUpToStore : List Event :=
  [.http atStart (.createFile 1 (lit "a") 0o644), .http atStart (.write 2 (lit "hi") hi_fits),
    .readInto 1 atStart { readAll with handleID := 1 }, .part 1, .part 1, .part 1]

def writeOver : List Event :=
  [.write 2 atStart ⟨2, 2, 0, lit "yo", by decide +kernel⟩, .part 2, .part 2, .part 2,
    .part 2, .part 2]

theorem write_after_read_is_settled :
    (worldAfter (readUpToStore ++ .part 1 :: writeOver)).state.readCache.entries[2]? =
      some (lit "yo") ∧ Settled none (worldAfter (readUpToStore ++ .part 1 :: writeOver)).state :=
  ⟨by decide +kernel, read_cache_is_settled none (.run (.start newWorld_idle) _ (by decide +kernel))
    (by decide +kernel)⟩

/-- A read that stores after a write of the same file leaves the bytes from
before the write. -/
theorem late_store_leaves_old_bytes : let w := worldAfter (readUpToStore ++ writeOver ++ [.part 1])
    Scheduled none (fun _ _ => True) w ∧ w.calls.isEmpty = true ∧
      w.state.readCache.entries[2]? = some (lit "hi") ∧
      (s0fs.readInto (atStart.env none) 2 0 8 w.state.server.engine).1 = .ok (lit "yo") ∧
      ¬ Settled none w.state := by
  refine ⟨.run (.start newWorld_idle) _ (by decide +kernel), by decide +kernel, by decide +kernel,
    by decide +kernel, fun hsettled => ?_⟩
  have hhas : FileHas (atStart.env none).reader _ 2 (lit "hi") :=
    hsettled 2 (lit "hi") (by decide +kernel)
  have hread : s0fs.readInto (atStart.env none) 2 0 8 _ = (.ok (slice (lit "hi") 0 8), _) :=
    hhas.readInto (by decide +kernel) (by decide)
  replace hread := congrArg Prod.fst hread
  revert hread
  decide +kernel

end sandbox0.portal.session
