-- The entries of a volume on a host that materializes, takes and restores
-- snapshots, and closes and opens again: every state that the host, its disk
-- and the cloud hold is well formed, so no call meets an entry without a node.
import Sandbox0.S0fsHostSteps

namespace sandbox0.s0fs

open GoMap Call

/-! ## Well formed states from well formed states -/

variable {s : SnapshotState} {m : Materializer} {now : Int} {h : Host} {cloud : Cloud}
    {manifest : Manifest} {e : Engine}

lemma WF.same {s' : SnapshotState} (h : WF s) (hnodes : s'.nodes = s.nodes)
    (hkids : s'.children = s.children) (hnext : s'.nextInode = s.nextInode) : WF s' :=
  h.quiet ⟨hkids, hnext, fun i => by rw [hnodes]⟩

lemma WF.installed (h : WF s) : WF s.installed := by
  have hpos := h.nextInode_pos
  apply WF.collected
  exact WF.same h rfl rfl (if_neg (Nat.not_le.mpr hpos))

lemma WF.exported {m : Option SegmentReader} {s' : SnapshotState} (h : WF s)
    (hx : exportStateLocked m s = .ok s') : WF s' := by
  unfold exportStateLocked at hx
  cases hh : hydrate m s s.coldFiles.toList s.data with
  | ok data =>
    rw [hh] at hx
    cases hx
    exact h.same rfl rfl rfl
  | err | panic => rw [hh] at hx; cases hx

lemma WF.planned {random : Entropy} {expected : Nat} {p : Plan} (h : WF s)
    (hp : plan m now random s expected = .ok p) : WF p.manifest.state := by
  obtain ⟨ms, files, enc, hplan⟩ := plan_ok hp
  obtain ⟨_, _, _, hpack⟩ := buildSegment_ok hplan.segment
  have hr := buildManifestState_ok hpack hplan.built
  exact h.same hr.nodes hr.children hr.nextInode

/-! ## The manifest that is loaded -/

/-- A manifest that is an object, as `getJSON` reads it. -/
def ReadFrom (cloud : Cloud) (manifest : Manifest) : Prop :=
  ∃ (key : GoString) (stored : Manifest) (volumeID : GoString),
    cloud.objects[key]? = some (.json stored) ∧
      manifest.state = defaultSegmentVolumeIDs (jsonState stored.state) volumeID

lemma loadManifestByKey_reads (m : Materializer) (key : GoString) (cloud : Cloud) :
    (loadManifestByKey m key cloud).2 = cloud ∧
      ∀ manifest, (loadManifestByKey m key cloud).1 = .ok manifest → ReadFrom cloud manifest := by
  unfold loadManifestByKey
  by_cases hk : trimSpace key = []
  · rw [failIf_pos _ hk, bind_fail_run]
    exact ⟨rfl, by simp⟩
  rw [failIf_neg _ hk, bind_pure_run, bind_read_run]
  rcases ho : cloud.objects[objectKey key]? with _ | ⟨payload | stored⟩
  · exact ⟨rfl, by simp⟩
  · exact ⟨rfl, by simp⟩
  · refine ⟨rfl, fun manifest hm => ?_⟩
    cases hm
    exact ⟨_, stored, _, ho, rfl⟩

lemma loadLegacyLatestManifest_reads (m : Materializer) (cloud : Cloud) :
    (loadLegacyLatestManifest m cloud).2 = cloud ∧
      ∀ manifest, (loadLegacyLatestManifest m cloud).1 = .ok manifest →
        ReadFrom cloud manifest := by
  unfold loadLegacyLatestManifest
  rw [bind_read_run]
  cases cloud.objects[objectKey manifestLatestKey]? with
  | none => exact ⟨rfl, by simp⟩
  | some object => exact loadManifestByKey_reads m manifestLatestKey cloud

lemma loadLatestManifest_reads (m : Materializer) (cloud : Cloud) :
    (loadLatestManifest m cloud).2.objects = cloud.objects ∧
      ∀ manifest, (loadLatestManifest m cloud).1 = .ok manifest → ReadFrom cloud manifest := by
  have hlegacy := loadLegacyLatestManifest_reads m cloud
  unfold loadLatestManifest
  cases m.headStore with
  | false => exact ⟨by rw [if_neg (by simp), hlegacy.1], hlegacy.2⟩
  | true =>
    rw [if_pos rfl, bind_read_run]
    cases cloud.head with
    | some head =>
      have hkey := loadManifestByKey_reads m head.manifestKey cloud
      exact ⟨by rw [hkey.1], hkey.2⟩
    | none =>
      simp only
      rw [bind_run]
      rcases hl : loadLegacyLatestManifest m cloud with ⟨found | _ | _, cloud1⟩
      all_goals rw [hl] at hlegacy; obtain rfl : cloud = cloud1 := hlegacy.1.symm
      · simp only
        rw [bind_run]
        rcases compareAndSwapCommittedHead_applies m.volumeID 0
            { volumeID := m.volumeID, manifestSeq := found.manifestSeq,
              checkpointSeq := found.checkpointSeq, manifestKey := manifestKey found.manifestSeq,
              updatedAt := found.createdAt } cloud with ⟨_, hcas⟩ | ⟨_, err, hcas⟩
        · rw [hcas]
          exact ⟨rfl, fun manifest hm => by cases hm; exact hlegacy.2 found rfl⟩
        · rw [hcas]
          exact ⟨rfl, by simp⟩
      · exact ⟨rfl, by simp⟩
      · exact ⟨rfl, by simp⟩

/-! ## What every step keeps -/

/-- The plan of a call that has made one. -/
def Stage.plan? : Stage → Option Plan
  | .captured => none
  | .planned p | .segmentPut p | .manifestPut p | .committed p => some p

/-- Every state that a host and its cloud hold is well formed, and a closed
engine has no record left. -/
structure Formed (h : Host) (cloud : Cloud) : Prop where
  engine : WF h.engine.toSnapshotState
  head : ∀ s, h.engine.disk.head = some s → WF s
  snapshots : ∀ (id : GoString) s, h.engine.disk.snapshots[id]? = some s → WF s
  captured : ∀ job, h.job = some job → WF job.capture.state
  planned : ∀ job p, h.job = some job → job.stage.plan? = some p → WF p.manifest.state
  loaded : ∀ manifest, h.loaded = some manifest → WF manifest.state
  objects : ∀ (key : GoString) manifest, cloud.objects[key]? = some (.json manifest) →
    WF manifest.state
  closed : h.engine.closed = true → h.engine.disk.wal = []

lemma Formed.reads (hf : Formed h cloud) (hm : ReadFrom cloud manifest) : WF manifest.state := by
  obtain ⟨key, stored, volumeID, hkey, hstate⟩ := hm
  rw [hstate]
  exact (hf.objects key stored hkey).json.same rfl rfl rfl

lemma loadLatestState_ok {state : SnapshotState}
    (hl : loadLatestState m cloud = some (.ok (state, manifest))) :
    state = manifest.state ∧ (loadLatestManifest m cloud).1 = .ok manifest := by
  unfold loadLatestState at hl
  cases hm : (loadLatestManifest m cloud).1 with
  | ok found =>
    rw [hm] at hl
    cases hl
    exact ⟨rfl, rfl⟩
  | err | panic => rw [hm] at hl; cases hl

lemma Formed.latest (hf : Formed h cloud) {state : SnapshotState}
    (hl : loadLatestState m cloud = some (.ok (state, manifest))) :
    WF state ∧ WF manifest.state := by
  obtain ⟨rfl, hm⟩ := loadLatestState_ok hl
  have hwf := hf.reads ((loadLatestManifest_reads m cloud).2 manifest hm)
  exact ⟨hwf, hwf⟩

/-- What `RefreshMaterialized` takes from its first part to its last. -/
lemma startRefresh_ok (hl : startRefresh m cloud e = some manifest) :
    e.closed = false ∧ e.dirty = false ∧ (loadLatestManifest m cloud).1 = .ok manifest ∧
      e.nextSeq < manifest.state.nextSeq := by
  unfold startRefresh at hl
  by_cases hbusy : e.closed ∨ e.dirty
  · rw [if_pos hbusy] at hl
    cases hl
  rw [if_neg hbusy] at hl
  obtain ⟨hopen, hclean⟩ := not_or.mp hbusy
  rcases hs : loadLatestState m cloud with _ | ⟨err | ⟨state, found⟩⟩
  · rw [hs] at hl; cases hl
  · rw [hs] at hl; cases hl
  obtain ⟨rfl, hm⟩ := loadLatestState_ok hs
  rw [hs] at hl
  simp only at hl
  split at hl
  · cases hl
  · rename_i hnewer
    cases hl
    exact ⟨by simpa using hopen, by simpa using hclean, hm, Nat.lt_of_not_le hnewer⟩

lemma Formed.base (hf : Formed h cloud) {b : SnapshotState} {manifest : Option Manifest}
    (hb : openBase now h.engine.disk (loadLatestState m cloud) = .ok (b, manifest)) : WF b := by
  have hlocal : WF (h.engine.disk.head.getD (freshState now)) := by
    cases hh : h.engine.disk.head with
    | none => exact freshState_wf now
    | some s => exact hf.head s hh
  unfold openBase at hb
  rcases hl : loadLatestState m cloud with _ | ⟨err | ⟨state, found⟩⟩
  · rw [hl] at hb
    cases hb
    exact hlocal
  · rw [hl] at hb
    cases hh : h.engine.disk.head with simp only [hh] at hb
    | some s =>
      cases hb
      exact hf.head _ hh
    | none =>
      split at hb
      · cases hb
        exact freshState_wf now
      · cases hb
  · rw [hl] at hb
    simp only at hb
    split at hb
    · cases hb
      exact (hf.latest hl).1
    · cases hb
      exact hlocal

/-- A call leaves the files beside the log, and nothing of a closed engine changes. -/
lemma Called.disk {env : Env} {e' : Engine} {op : Op} (hc : Called env e op e') :
    e'.disk.head = e.disk.head ∧ e'.disk.snapshots = e.disk.snapshots ∧
      (e'.closed = true → e.closed = true ∧ e' = e) := by
  cases hc with
  | refused => exact ⟨rfl, rfl, fun h => ⟨h, rfl⟩⟩
  | forgot i node hopen hop hn hl =>
    refine ⟨rfl, rfl, fun h => ?_⟩
    rw [forgotten, hopen] at h
    cases h
  | logs r hopen hpre hr =>
    obtain ⟨hclosed, hhead, hsnap⟩ := logged_disk env e r
    refine ⟨hhead, hsnap, fun h => ?_⟩
    rw [hclosed, hopen] at h
    cases h

/-- A step without a crash: no link count wraps, and a state that comes
from outside is well formed. -/
def Act.Clean (h : Host) : Act → Prop
  | .call _ _ op => op.LinksFit h.engine.toSnapshotState
  | .replace state => WF state
  | .crash _ => False
  | _ => True

section

variable (hf : Formed h cloud)

include hf

lemma Formed.open {cloud' : Cloud} (hclosed : h.engine.closed = true)
    (hobjects : cloud'.objects = cloud.objects) (ho : openOn m now cloud h.engine.disk = .ok e) :
    Formed (Host.opened e) cloud' := by
  have hwal := hf.closed hclosed
  unfold openOn openEngine at ho
  split at ho
  · cases ho
  split at ho
  · cases ho
  rcases hb : openBase now h.engine.disk (loadLatestState m cloud) with err | ⟨b, manifest⟩
  · rw [hb] at ho
    cases ho
  rw [hb, hwal] at ho
  cases ho
  refine ⟨(hf.base hb).collected, hf.head, hf.snapshots, ?_, ?_, ?_, ?_, ?_⟩
  · intro job hj; cases hj
  · intro job p hj; cases hj
  · intro manifest hl; cases hl
  · rw [hobjects]
    exact hf.objects
  · intro hc; cases hc

lemma Formed.put {key : GoString} {object : Object}
    (hobject : ∀ manifest, object = .json manifest → WF manifest.state) :
    ∀ (k : GoString) manifest, (cloud.objects.insert key object)[k]? = some (.json manifest) →
      WF manifest.state := by
  intro k manifest hk
  rcases of_get_insert hk with ⟨-, hnew⟩ | ⟨-, hk⟩
  · exact hobject manifest hnew.symm
  · exact hf.objects k manifest hk

lemma Formed.staged {job : Job} (stage : Stage)
    (hj : h.job = some job) (hplan : ∀ p, stage.plan? = some p → WF p.manifest.state) :
    Formed { h with job := some { job with stage } } cloud := by
  refine { hf with captured := ?_, planned := ?_ }
  · rintro _ ⟨⟩
    exact hf.captured job hj
  · rintro _ p ⟨⟩ hp
    exact hplan p hp

lemma Formed.unstaged : Formed { h with job := none } cloud := by
  refine { hf with captured := ?_, planned := ?_ }
  · rintro job ⟨⟩
  · rintro job p ⟨⟩

lemma Formed.with (hs : WF s) (pending : Option Pending) :
    Formed { h with engine := h.engine.with s.installed, pending } cloud :=
  { hf with engine := hs.installed }

lemma Formed.moved {h' : Host} {cloud' : Cloud} {a : Act} (hok : a.Clean h)
    (hm : Moved m h cloud a h' cloud') : Formed h' cloud' := by
  have hobjects := (loadLatestManifest_reads m cloud).1
  cases hm with
  | still => exact hf
  | called now appendErr op hp =>
    have hcalled := next_called { now, appendErr, reader := reader m cloud } hf.engine.listed op
    obtain ⟨hhead, hsnap, hclosed⟩ := hcalled.disk
    refine { hf with engine := hf.engine.called hok hcalled, head := ?_, snapshots := ?_,
                     closed := ?_ }
    · rw [hhead]
      exact hf.head
    · rw [hsnap]
      exact hf.snapshots
    · intro hc
      obtain ⟨hc, he⟩ := hclosed hc
      rw [he]
      exact hf.closed hc
  | snapshot id state hp hx =>
    exact { hf with snapshots := all_insert (hf.engine.exported hx).json hf.snapshots }
  | deleted id hp =>
    refine { hf with snapshots := ?_ }
    intro id' s hs
    exact hf.snapshots id' s (of_get_erase hs).2
  | captured hp hj hopen hdirty =>
    refine { hf with captured := ?_, planned := ?_ }
    · rintro _ ⟨⟩
      exact hf.engine.same rfl rfl rfl
    · rintro _ p ⟨⟩ ⟨⟩
  | gone hj => exact hf.unstaged
  | planned now random job p hj hstage hp =>
    apply hf.staged _ hj
    rintro _ ⟨⟩
    exact (hf.captured job hj).planned hp
  | segmentPut now random job p hj hstage =>
    have hp := hf.planned job p hj (by rw [hstage]; rfl)
    have hnext := hf.staged (.segmentPut p) hj (by rintro _ ⟨⟩; exact hp)
    refine { hnext with objects := ?_ }
    rw [putSegment_run]
    unfold Plan.segmentPut
    split
    · exact hf.put (by rintro _ ⟨⟩)
    · exact hf.objects
  | manifestPut now random job p hj hstage =>
    have hp := hf.planned job p hj (by rw [hstage]; rfl)
    have hnext := hf.staged (.manifestPut p) hj (by rintro _ ⟨⟩; exact hp)
    exact { hnext with objects := hf.put (by rintro _ ⟨⟩; exact hp) }
  | committed now random job p cloud' hj hstage hc =>
    have hp := hf.planned job p hj (by rw [hstage]; rfl)
    have hnext := hf.staged (.committed p) hj (by rintro _ ⟨⟩; exact hp)
    refine { hnext with objects := ?_ }
    rw [commit_ok hc]
    unfold Plan.latestPut
    split
    · exact hf.objects
    · exact hf.put (by rintro _ ⟨⟩; exact hp)
  | installed now random job p hj hstage hp hcur =>
    have hp := hf.planned job p hj (by rw [hstage]; rfl)
    exact hf.unstaged.with hp _
  | outdated now random job p hj hstage hp hcur => exact { hf.unstaged with }
  | loaded hp =>
    refine { hf with loaded := ?_, objects := by rw [hobjects]; exact hf.objects }
    exact fun manifest hl =>
      hf.reads ((loadLatestManifest_reads m cloud).2 manifest (startRefresh_ok hl).2.2.1)
  | waiting | unopened => exact { hf with objects := by rw [hobjects]; exact hf.objects }
  | refreshed manifest hp hl hopen hclean hnewer =>
    refine { hf with engine := (hf.loaded manifest hl).installed, loaded := ?_ }
    rintro _ ⟨⟩
  | stale hp =>
    refine { hf with loaded := ?_ }
    rintro _ ⟨⟩
  | closing | failed => exact { hf with }
  | restored id state hp hopen hs => exact hf.with ((hf.snapshots id state hs).seq _) _
  | replaced state hp hopen => exact hf.with hok _
  | saved cause hp =>
    refine { hf with head := ?_ }
    rintro s ⟨⟩
    exact hf.engine.json
  | reset cause hp =>
    cases cause with
    | close | install | restore | replace | refresh => exact { hf with closed := fun _ => rfl }
  | opened a now e ha ho =>
    rcases ha with rfl | ⟨rfl, hclosed, _⟩
    · exact hok.elim
    · exact hf.open hclosed hobjects ho

end

lemma Formed.reach {w : World} (h : Reach (NewVolume m) (ActStep m) (fun w a => a.Clean w.host) w) :
    Formed w.host w.cloud := by
  apply h.keeps (P := fun w => Formed w.host w.cloud)
  · rintro w ⟨now, rfl⟩
    refine ⟨freshState_wf now, ?_, ?_, ?_, ?_, ?_, ?_, ?_⟩
    · rintro s ⟨⟩
    · intro id s hs
      simp [World.new, Host.opened, freshEngine, Disk.empty] at hs
    · rintro job ⟨⟩
    · rintro job p ⟨⟩
    · rintro manifest ⟨⟩
    · intro key manifest hk
      simp [World.new, Cloud.empty] at hk
    · rintro ⟨⟩
  · intro w a hf hok
    exact hf.moved hok (next_moved m w.host w.cloud a)

/-! ## The calls on a well formed state -/

lemma WF.create_nodes (h : WF e.toSnapshotState) (env : Env) (parent : Nat)
    (name : GoString) (type : FileType) (mode : UInt32) (target : GoString) {i : Nat} {node : Node}
    (hn : e.nodes[i]? = some node) :
    (create env parent name type mode target e).2.nodes[i]? = some node := by
  have hbelow := h.below i node hn
  unfold create
  apply (checkOpen_checks e).elim (Q := fun e' : Engine => e'.nodes[i]? = some node) hn
  intro _ _ _
  apply failIf_elim (Q := fun e' : Engine => e'.nodes[i]? = some node) hn
  intro _
  apply (checks_onState (ensureDirLocked_checks h.listed parent)).elim
    (Q := fun e' : Engine => e'.nodes[i]? = some node) hn
  intro _ _ _
  rw [bind_read_run]
  apply failIf_elim (Q := fun e' : Engine => e'.nodes[i]? = some node) hn
  intro _
  rw [after_log _ _ _ _ _ fun _ => rfl, logged_state]
  cases env.appendErr with
  | some fault => exact hn
  | none =>
    apply (applyCreate_applies (h.quiet (quiet_bumped _)).listed _).elim
      (Q := fun s : SnapshotState => s.nodes[i]? = some node) hn
    intro _
    simp only [s0fs.created]
    rw [get_insert_ne _ _ (Nat.ne_of_gt hbelow)]
    exact hn

lemma WF.lookup_node (h : WF e.toSnapshotState) (parent : Nat) (name : GoString) :
    (lookup parent name e).1 ≠ .ok none := by
  unfold lookup
  apply checkOpen_elim (Q := fun r => r.1 ≠ .ok none) (by simp)
  intro _
  refine lookup_elim h.listed parent name (Q := fun r => r.1 ≠ .ok none) (by simp) fun i _ hc => ?_
  obtain ⟨node, hn⟩ := h.entry parent name i hc
  rw [bind_read_run]
  simp [hn]

lemma WF.readDir_entries (h : WF e.toSnapshotState) {inode : Nat} {list : List DirEntry}
    (hr : (readDir inode e).1 = .ok list) {name : GoString} {i : Nat}
    (hc : e.child inode name = some i) : ∃ type, { name, inode := i, type } ∈ list := by
  obtain ⟨node, hn⟩ := h.entry inode name i hc
  refine ⟨node.type, ?_⟩
  unfold readDir at hr
  revert hr
  apply checkOpen_elim
    (Q := fun r => r.1 = .ok list → ({ name, inode := i, type := node.type } : DirEntry) ∈ list)
    (by simp)
  intro _
  rcases checks_onState (ensureDirLocked_checks h.listed inode) with ⟨hp, _, hx⟩ | ⟨_, err, hx⟩
  · rw [bind_ok hx, bind_read_run]
    rintro ⟨⟩
    unfold SnapshotState.child at hc
    obtain ⟨kids, hk, hname⟩ := Option.bind_eq_some_iff.mp hc
    rw [List.mem_filterMap]
    refine ⟨(name, i), ?_, by simp [hn]⟩
    rw [hk]
    exact (GoMap.mem_toList kids name i).mpr hname
  · rw [bind_err hx]
    simp

lemma logAndApply_no_panic {env : Env} {e' : Engine} {r : WalRecord}
    (h : (apply env.reader r e.toSnapshotState).1 ≠ .panic) :
    logAndApply env r e ≠ (.panic, e') := by
  unfold logAndApply append
  cases env.appendErr with
  | some fault => rintro ⟨⟩
  | none =>
    rw [bind_update_run, bind_run]
    simp only [onState, on_run]
    rcases ha : apply env.reader r e.toSnapshotState with ⟨_ | _ | _, s⟩
    · simp [markDirtyLocked]
    · simp
    · rw [ha] at h
      exact absurd rfl h

/-- An unlink never panics: its entry leads to a node. -/
lemma WF.unlink_no_panic (h : WF e.toSnapshotState) (env : Env) (parent : Nat)
    (name : GoString) : (unlinkWithInode env parent name e).1 ≠ .panic := by
  unfold unlinkWithInode
  apply checkOpen_elim (Q := fun r => r.1 ≠ .panic) (by simp)
  intro _
  refine lookup_elim h.listed parent name (Q := fun r => r.1 ≠ .panic) (by simp) fun i _ hc => ?_
  obtain ⟨node, hn⟩ := h.entry parent name i hc
  rw [bind_read_run, hn]
  simp only
  by_cases hd : node.type = .directory
  · rw [failIf_pos _ hd, bind_fail_run]
    simp
  rw [failIf_neg _ hd, bind_pure_run, bind_run]
  simp only [newRecord]
  apply bind_elim (Q := fun r => r.1 ≠ .panic)
  · intro _ _ _
    simp
  · intro _ _ _
    simp
  · intro e' hlog
    have hb := h.quiet (quiet_bumped e.toSnapshotState)
    refine absurd hlog (logAndApply_no_panic ?_)
    exact (applyUnlink_applies hb.listed
      { seq := e.nextSeq, op := .unlink, parent, name, timeUnix := env.now } hc).no_panic

/-! ## Every state of a run -/

/-- Each entry leads to a node, and so no call meets one that does not. -/
structure Intact (e : Engine) : Prop where
  entry : ∀ p n i, e.child p n = some i → ∃ node, e.nodes[i]? = some node
  parent : ∀ (p : Nat) kids, e.children[p]? = some kids → IsDir e.toSnapshotState p
  unnamed : ∀ (i : Nat) node, e.nodes[i]? = some node → node.nlink = 0 → ∀ p n, e.child p n ≠ some i
  below : ∀ (i : Nat) node, e.nodes[i]? = some node → i < e.nextInode
  create_keeps : ∀ env parent name type mode target (i : Nat) node, e.nodes[i]? = some node →
    (create env parent name type mode target e).2.nodes[i]? = some node
  lookup_finds : ∀ parent name, (lookup parent name e).1 ≠ .ok none
  readDir_lists : ∀ inode list, (readDir inode e).1 = .ok list →
    ∀ name i, e.child inode name = some i → ∃ type, { name, inode := i, type } ∈ list
  unlink_finds : ∀ env parent name, (unlinkWithInode env parent name e).1 ≠ .panic

/-- In every run without a crash whose links never wrap a count, each entry
leads to a node. -/
theorem every_entry_leads_to_a_node {m : Materializer} {w : World}
    (h : Reach (NewVolume m) (ActStep m) (fun w a => a.Clean w.host) w) : Intact w.host.engine := by
  have hwf := (Formed.reach h).engine
  refine ⟨hwf.entry, hwf.parent, ?_, hwf.below, ?_, hwf.lookup_node, ?_, hwf.unlink_no_panic⟩
  · intro i node hn hl
    exact hwf.dead_unnamed ⟨node, hn, hl⟩
  · intro env parent name type mode target i node hn
    exact hwf.create_nodes env parent name type mode target hn
  · intro inode list hr name i hc
    exact hwf.readDir_entries hr hc

/-- A call on a clock that stands, with a log that takes every record. -/
def Act.does (op : Op) : Act := .call 0 none op

/-- All the steps of one `SyncMaterialize`. -/
def materializing : List Act :=
  .startMaterialize :: List.replicate 5 (.advance 0 ⟨[], [], []⟩) ++ [.save, .reset]

def afterActs (acts : List Act) : World :=
  acts.foldl (World.next plainMaterializer) (World.new plainMaterializer 0)

/-- A file is materialized, linked and unlinked, a snapshot is restored, and
the engine is closed and opened again. -/
def busyDay : List Act :=
  [.does (.createFile 1 (lit "a") 0o644), .does (.write 2 0 [104, 105]),
    .createSnapshot (lit "s")] ++ materializing ++
    [.does (.link 2 1 (lit "b")), .does (.unlink 1 (lit "a")), .does (.mkdir 1 (lit "d") 0o755),
      .restore (lit "s"), .save, .reset, .does (.createFile 1 (lit "c") 0o644),
      .close, .save, .reset, .reopen 0]

theorem every_entry_leads_to_a_node_after_a_busy_day : Intact (afterActs busyDay).host.engine ∧
      (afterActs busyDay).host.engine.child 1 (lit "c") = some 3 := by
  refine ⟨every_entry_leads_to_a_node (m := plainMaterializer)
    (Reach.run (.start ⟨0, rfl⟩) busyDay ?_), ?_⟩
  · refine ⟨trivial, trivial, trivial, trivial, trivial, trivial, trivial, trivial, trivial,
      trivial, trivial,
      ?_, trivial, trivial, trivial, trivial, trivial, trivial, trivial, trivial, trivial,
      trivial, trivial⟩
    change Op.LinksFit _ (.link 2 1 (lit "b"))
    decide +kernel
  · decide +kernel

end sandbox0.s0fs
