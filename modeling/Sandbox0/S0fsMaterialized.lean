-- A materialization that succeeds keeps the file system: the state of its
-- manifest, installed in the engine, has the linked nodes and the entries of
-- the state it was made from, and each file reads as it did.
import Sandbox0.S0fsContents
import Sandbox0.S0fsLinks

namespace sandbox0.s0fs

open GoMap Call UInt64

/-! ## What a materialization that succeeds did -/

/-- What a call computed before its first put. -/
structure Planned (m : Materializer) (random : Entropy) (s : SnapshotState) (expected : Nat)
    (p : Plan) (ms : MaterializedSegment) (files : GoMap Nat (List FileExtent))
    (enc : Option SegmentEncryption) : Prop where
  named : m.volumeID ≠ []
  positive : s.nextSeq - 1 ≠ 0
  advances : expected < s.nextSeq - 1
  segment : buildSegment (s.nextSeq - 1) m.volumeID (defaultSegmentVolumeIDs s m.volumeID) =
    .ok (ms, files)
  encrypted : encryptSegment m.encryption random m.volumeID ms = .ok (p.stored, enc)
  built : buildManifestState (defaultSegmentVolumeIDs s m.volumeID) ms enc files =
    .ok p.manifest.state
  volume : p.volumeID = m.volumeID
  expects : p.expected = expected
  key : p.segmentKey = ms.key
  payload : p.payload = ms.payload
  seq : p.manifest.manifestSeq = s.nextSeq - 1
  manifestVolume : p.manifest.volumeID = m.volumeID

variable {m : Materializer} {random : Entropy} {s st : SnapshotState} {expected i : Nat}
    {p : Plan} {ms : MaterializedSegment} {files : GoMap Nat (List FileExtent)} {headStore : Bool}
    {enc : Option SegmentEncryption} {node : Node} {off size : UInt64} {rd : SegmentReader}

lemma plan_ok {now : Int} (h : plan m now random s expected = .ok p) :
    ∃ ms files enc, Planned m random s expected p ms files enc := by
  unfold plan at h
  by_cases hv : m.volumeID = []
  · rw [if_pos hv] at h
    cases h
  rw [if_neg hv] at h
  by_cases hz : checkpointSequence (defaultSegmentVolumeIDs s m.volumeID) = 0
  · simp only [if_pos hz] at h
    cases h
  by_cases ha : checkpointSequence (defaultSegmentVolumeIDs s m.volumeID) ≤ expected
  · simp only [if_neg hz, if_pos ha] at h
    cases h
  simp only [if_neg hz, if_neg ha] at h
  obtain ⟨⟨ms, files⟩, hseg, h⟩ := Outcome.of_bind_ok h
  obtain ⟨⟨stored, enc⟩, henc, h⟩ := Outcome.of_bind_ok h
  obtain ⟨st, hst, h⟩ := Outcome.of_bind_ok h
  cases h
  exact ⟨ms, files, enc, hv, hz, Nat.lt_of_not_le ha, hseg, henc, hst, rfl, rfl, rfl, rfl, rfl, rfl⟩

lemma buildSegment_ok {seq : Nat} {volumeID : GoString}
    (h : buildSegment seq volumeID s = .ok (ms, files)) :
    ms.id = segmentIDOf seq ∧ ms.key = segmentKeyOf seq ∧ ms.volumeID = volumeID ∧
      packFiles ms.id s.hotFiles [] ∅ = .ok (ms.payload, files) := by
  obtain ⟨⟨payload, files'⟩, hpack, h⟩ := Outcome.of_bind_ok h
  cases h
  exact ⟨rfl, rfl, rfl, hpack⟩

/-! ## The puts and the commit -/

/-- The objects after the put of the segment. An empty segment is not put. -/
def Plan.segmentPut (p : Plan) (objects : Objects) : Objects :=
  if p.payload ≠ [] then objects.insert (objectKey p.segmentKey) (.bytes p.stored) else objects

def Plan.manifestPut (p : Plan) (objects : Objects) : Objects :=
  objects.insert (objectKey (manifestKey p.manifest.manifestSeq)) (.json p.manifest)

def Plan.latestPut (p : Plan) (headStore : Bool) (objects : Objects) : Objects :=
  if headStore then objects else objects.insert (objectKey manifestLatestKey) (.json p.manifest)

open Plan

lemma putSegment_run (p : Plan) (cloud : Cloud) :
    putSegment p cloud = (.ok (), { cloud with objects := p.segmentPut cloud.objects }) := by
  unfold putSegment segmentPut
  by_cases hp : p.payload ≠ []
  · rw [onlyIf_pos _ hp, if_pos hp]
    rfl
  · rw [onlyIf_neg _ hp, if_neg hp]
    rfl

lemma putManifest_run (p : Plan) (cloud : Cloud) :
    putManifest p cloud = (.ok (), { cloud with objects := p.manifestPut cloud.objects }) := rfl

lemma compareAndSwapCommittedHead_applies (volumeID : GoString) (expected : Nat)
    (head : CommittedHead) (cloud : Cloud) :
    Call.Applies (compareAndSwapCommittedHead volumeID expected head) cloud
      (trimSpace volumeID ≠ [] ∧ head.manifestSeq ≠ 0 ∧
        headConflicts cloud.head expected head = false)
      { cloud with head := some head } := by
  unfold compareAndSwapCommittedHead
  apply Call.Applies.imp (failIf_applies fun _ => failIf_applies fun _ =>
    failIf_applies (P := True) fun _ => applies_of_ok rfl)
  simp only [ne_eq, and_true, Bool.not_eq_true]

lemma commit_cases (headStore : Bool) (p : Plan) (cloud : Cloud) :
    commit headStore p cloud = (.ok (),
      ⟨p.latestPut headStore cloud.objects, if headStore then some p.head else cloud.head⟩) ∨
    ∃ e, commit headStore p cloud = (.err e, cloud) := by
  unfold commit latestPut
  cases headStore with
  | true =>
    rcases compareAndSwapCommittedHead_applies p.volumeID p.expected p.head cloud with
      ⟨_, hok⟩ | ⟨_, e, herr⟩
    · exact .inl hok
    · exact .inr ⟨e, herr⟩
  | false => exact .inl rfl

lemma commit_ok {cloud cloud' : Cloud} (h : commit headStore p cloud = (.ok (), cloud')) :
    cloud'.objects = p.latestPut headStore cloud.objects := by
  rcases commit_cases headStore p cloud with hok | ⟨e, herr⟩
  · rw [hok] at h
    cases h
    rfl
  · rw [herr] at h
    cases h

def Plan.objects (p : Plan) (headStore : Bool) (objects : Objects) : Objects :=
  p.latestPut headStore (p.manifestPut (p.segmentPut objects))

lemma materialize_ok {now : Int} {cloud cloud' : Cloud} {manifest : Manifest}
    (h : materialize m now random s expected cloud = (.ok manifest, cloud')) :
    ∃ p, plan m now random s expected = .ok p ∧ manifest = p.manifest ∧
      cloud'.objects = p.objects m.headStore cloud.objects := by
  unfold materialize at h
  obtain ⟨p, c0, hp, h⟩ := Call.of_bind_ok h
  rw [ends_run, Prod.mk.injEq] at hp
  obtain ⟨hplan, rfl⟩ := hp
  rw [bind_ok (putSegment_run p cloud), bind_ok (putManifest_run p _)] at h
  obtain ⟨_, c1, hcommit, h⟩ := Call.of_bind_ok h
  cases h
  exact ⟨p, hplan, rfl, commit_ok hcommit⟩

lemma Plan.objects_frame {objects : Objects} {key : GoString}
    (hseg : key ≠ objectKey p.segmentKey) (hman : key ≠ manifestKey p.manifest.manifestSeq)
    (hlatest : key ≠ manifestLatestKey) : (p.objects headStore objects)[key]? = objects[key]? := by
  have h1 : (p.segmentPut objects)[key]? = objects[key]? := by
    unfold segmentPut
    split
    · rw [get_insert_ne _ _ (Ne.symm hseg)]
    · rfl
  have h2 : (p.manifestPut (p.segmentPut objects))[key]? = objects[key]? := by
    unfold manifestPut
    rw [objectKey_manifestKey, get_insert_ne _ _ (Ne.symm hman), h1]
  unfold Plan.objects latestPut
  split
  · exact h2
  · rw [objectKey_manifestLatestKey, get_insert_ne _ _ (Ne.symm hlatest), h2]

/-- The new segment is in the store, and no later put of the call hides it. -/
lemma Plan.objects_segment {objects : Objects} {seq : Nat}
    (hkey : p.segmentKey = segmentKeyOf seq) (hp : p.payload ≠ []) :
    (p.objects headStore objects)[objectKey p.segmentKey]? = some (.bytes p.stored) := by
  have h1 : (p.segmentPut objects)[objectKey p.segmentKey]? = some (.bytes p.stored) := by
    unfold segmentPut
    rw [if_pos hp, get_insert_self]
  have h2 : (p.manifestPut (p.segmentPut objects))[objectKey p.segmentKey]? =
      some (.bytes p.stored) := by
    unfold manifestPut
    rw [hkey, objectKey_manifestKey, objectKey_segmentKeyOf,
      get_insert_ne _ _ (Ne.symm (segmentKeyOf_ne_manifestKey _ _))]
    rw [hkey, objectKey_segmentKeyOf] at h1
    exact h1
  unfold Plan.objects latestPut
  split
  · exact h2
  rw [hkey, objectKey_manifestLatestKey, objectKey_segmentKeyOf,
    get_insert_ne _ _ (Ne.symm (segmentKeyOf_ne_latest _))]
  rw [hkey, objectKey_segmentKeyOf] at h2
  exact h2

/-! ## The state of the manifest -/

/-- How the state `st` of a manifest lays out the files of `s`. -/
structure Relaid (s : SnapshotState) (ms : MaterializedSegment) (enc : Option SegmentEncryption)
    (st : SnapshotState) : Prop where
  nextSeq : st.nextSeq = s.nextSeq
  nextInode : st.nextInode = s.nextInode
  nodes : st.nodes = s.nodes
  children : st.children = s.children
  data : st.data = ∅
  packed : ∀ i payload, (i, payload) ∈ s.hotFiles →
    st.segments[ms.id]? = some (describeSegment ms enc) ∧
      ∃ offset, PackedAt ms.id ms.payload st.coldFiles i payload offset
  kept : ∀ i, Retained s i → st.coldFiles[i]? = s.coldFiles[i]? ∧
    ∀ x ∈ s.extents i, ∃ seg, s.segments[x.segmentID]? = some seg ∧
      (x.segmentID ≠ ms.id ∨ ms.payload = [] → st.segments[x.segmentID]? = some seg)
  rest : ∀ i, ¬ Retained s i → i ∉ s.hotFiles.map Prod.fst → st.coldFiles[i]? = none
  segments : ∀ (id : GoString) seg, st.segments[id]? = some seg → s.segments[id]? = some seg ∨
    (id = ms.id ∧ seg = describeSegment ms enc ∧ ms.payload ≠ [])

open SnapshotState

lemma buildManifestState_ok (hpack : packFiles ms.id s.hotFiles [] ∅ = .ok (ms.payload, files))
    (h : buildManifestState s ms enc files = .ok st) : Relaid s ms enc st := by
  obtain ⟨⟨cold, segments⟩, hretain, h⟩ := Outcome.of_bind_ok h
  cases h
  obtain ⟨_, _, hother, hpacked⟩ :=
    packFiles_packs s.hotFiles (nodup_hotFiles s) hpack (Nat.zero_le _)
  obtain ⟨hsub, _, habsent, hpresent⟩ := retainFiles_keeps s.coldFiles.toList
    (GoMap.nodup_keys s.coldFiles) hretain (by simp)
  -- the keys of the new files are the inodes of the hot files
  have hkeys : ∀ i, i ∉ s.hotFiles.map Prod.fst → i ∉ files.toList.map Prod.fst := by
    intro i hi hmem
    obtain ⟨⟨j, xs⟩, hj, rfl⟩ := List.mem_map.mp hmem
    have hnone := hother j hi
    rw [(GoMap.mem_toList files j xs).mp hj] at hnone
    simp at hnone
  have hnode : ∀ f ∈ files.toList, s.nodes[f.1]?.isNone = false := by
    intro f hf
    by_cases hi : f.1 ∈ s.hotFiles.map Prod.fst
    · obtain ⟨⟨j, payload⟩, hj, hji⟩ := List.mem_map.mp hi
      obtain ⟨_, _, node, hn, _⟩ := mem_hotFiles.mp hj
      rw [← hji, hn]
      rfl
    · exact absurd (List.mem_map.mpr ⟨f, hf, rfl⟩) (hkeys f.1 hi)
  obtain ⟨hhot, hcold⟩ := addHotFiles_get files.toList (GoMap.nodup_keys files) hnode cold
  refine ⟨rfl, rfl, rfl, rfl, rfl, ?_, ?_, ?_, ?_⟩
  · intro i payload hi
    obtain ⟨offset, hat⟩ := hpacked i payload hi
    have hfull : ms.payload ≠ [] := hat.full (mem_hotFiles.mp hi).2.1
    refine ⟨?_, offset, hhot i _ ((GoMap.mem_toList files i _).mpr hat.extent),
      hat.bytes, hat.inside⟩
    rw [if_neg hfull, get_insert_self]
  · intro i hi
    have hnot : i ∉ s.hotFiles.map Prod.fst := by
      intro hmem
      obtain ⟨⟨j, payload⟩, hj, rfl⟩ := List.mem_map.mp hmem
      cases (mem_hotFiles.mp hj).1.symm.trans hi.1
    rw [hcold i (hkeys i hnot)]
    cases hc : s.coldFiles[i]? with
    | none =>
      refine ⟨?_, by simp [SnapshotState.extents, hc]⟩
      rw [habsent i]
      · simp
      · rintro ⟨hmem, -⟩
        obtain ⟨⟨j, xs⟩, hj, rfl⟩ := List.mem_map.mp hmem
        rw [(GoMap.mem_toList _ _ _).mp hj] at hc
        cases hc
    | some xs =>
      obtain ⟨hxs, hsegs⟩ := hpresent i xs ((GoMap.mem_toList _ _ _).mpr hc) hi
      refine ⟨hxs, ?_⟩
      intro x hx
      rw [SnapshotState.extents, hc, Option.getD_some] at hx
      obtain ⟨seg, hseg⟩ := hsegs x hx
      refine ⟨seg, hsub _ _ hseg, fun hne => ?_⟩
      by_cases hfull : ms.payload = []
      · rw [if_pos hfull]
        exact hseg
      · rw [if_neg hfull, get_insert_ne _ _ (Ne.symm (hne.resolve_right hfull))]
        exact hseg
  · intro i hi hnot
    rw [hcold i (hkeys i hnot), habsent i fun hr => hi hr.2]
    simp
  · intro id seg hseg
    by_cases hfull : ms.payload = []
    · rw [if_pos hfull] at hseg
      exact Or.inl (hsub id seg hseg)
    rw [if_neg hfull] at hseg
    rcases of_get_insert hseg with ⟨hid, rfl⟩ | ⟨-, hseg⟩
    · exact Or.inr ⟨hid, rfl, hfull⟩
    · exact Or.inl (hsub id seg hseg)

/-! ## Each file reads as before -/

lemma readFileLocked_hot {rd : Option SegmentReader} (hhot : s.isHot i = true)
    (hrange : off.toNat + size.toNat < 2 ^ 64) :
    readFileLocked rd s node i off size =
      .ok (if off ≥ node.size then [] else slice (s.inline i) off.toNat size.toNat) := by
  have hstop : (off + size).toNat = off.toNat + size.toNat := by
    rw [UInt64.toNat_add]
    exact Nat.mod_eq_of_lt hrange
  unfold readFileLocked
  by_cases hsize : off ≥ node.size
  · rw [if_pos hsize, if_pos hsize]
  rw [if_neg hsize, if_neg hsize, if_pos hhot]
  by_cases hlen : off.toNat ≥ (s.inline i).length
  · simp only [if_pos hlen]
    rw [slice_beyond _ _ hlen]
  simp only [if_neg hlen, hstop]
  have hend : (if off.toNat + size.toNat > (s.inline i).length then (s.inline i).length
      else off.toNat + size.toNat) = min (off.toNat + size.toNat) (s.inline i).length := by
    split <;> omega
  have hcount : min (off.toNat + size.toNat) (s.inline i).length - off.toNat =
      min size.toNat ((s.inline i).length - off.toNat) := by omega
  rw [hend, sliceBytes, if_pos ⟨by omega, by omega⟩, drop_take_slice, hcount, ← slice_clamp]

/-- What a file reads depends on its inline data, its extents, and what the
segments of the extents read. -/
lemma readFileLocked_congr {rd' : SegmentReader} {s' : SnapshotState}
    (hinline : s'.inline i = s.inline i) (hextents : s'.extents i = s.extents i)
    (hsegs : ∀ x ∈ s.extents i, segmentReads rd' s'.segments x.segmentID =
      segmentReads rd s.segments x.segmentID) :
    readFileLocked (some rd') s' node i off size = readFileLocked (some rd) s node i off size := by
  have hcold : readColdRangeLocked (some rd') s' i off size =
    readColdRangeLocked (some rd) s i off size := by
    unfold readColdRangeLocked
    rw [hextents]
    exact readExtents_congr _ hsegs _ _ _
  unfold readFileLocked isHot
  rw [hinline, hextents, hcold]

section

variable {payload : Bytes} {offset : Nat}
  (hat : PackedAt ms.id ms.payload st.coldFiles i payload offset)
  (hseg : st.segments[ms.id]? = some (describeSegment ms enc))
  (hshort : ms.payload.length ≤ maxAlloc)
  (hrd : ∀ o l : Nat, o + l < 2 ^ 63 → rd (describeSegment ms enc) o l = .ok (slice ms.payload o l))
  (hrange : off.toNat + size.toNat < 2 ^ 64)

include hat hseg hshort hrd hrange

lemma readColdRangeLocked_packed :
    readColdRangeLocked (some rd) st i off size = .ok (slice payload off.toNat size.toNat) := by
  have hin := hat.inside
  unfold maxAlloc at hshort
  have hoffset : (ofNat offset).toNat = offset := toNat_ofNat_small (by omega)
  have hlength : (ofNat payload.length).toNat = payload.length := toNat_ofNat_small (by omega)
  simp only [readColdRangeLocked, extents, hat.extent, Option.getD_some]
  have hlaid : Laid rd st.segments [⟨ms.id, ofNat offset, ofNat payload.length⟩] payload := by
    refine ⟨_, ms.payload, [], hseg, hrd, ?_, by omega, ?_, rfl⟩ <;> simp only [hoffset, hlength]
    · exact hin
    · rw [hat.bytes, List.append_nil]
  exact hlaid.read hrange (by omega)

lemma readFileLocked_packed (hdata : st.data = ∅) : readFileLocked (some rd) st node i off size =
      .ok (if off ≥ node.size then [] else slice payload off.toNat size.toNat) := by
  have hcold : st.isHot i = false := by
    simp [SnapshotState.isHot, SnapshotState.inline, SnapshotState.extents, hdata, hat.extent]
  unfold readFileLocked
  by_cases hsize : off ≥ node.size
  · rw [if_pos hsize, if_pos hsize]
  rw [if_neg hsize, if_neg hsize, hcold]
  exact readColdRangeLocked_packed hat hseg hshort hrd hrange

end

lemma installed_get (h : i ∉ st.unlinked) :
    st.installed.nodes[i]? = st.nodes[i]? ∧ st.installed.children[i]? = st.children[i]? ∧
      st.installed.inline i = st.inline i ∧ st.installed.extents i = st.extents i := by
  have hkeep : ∀ {ν : Type} (map : GoMap Nat ν),
    (GoMap.deleteKeys st.unlinked map)[i]? = map[i]? := by
    intro ν map
    rw [get_deleteKeys, if_neg h]
  refine ⟨hkeep _, hkeep _, ?_, ?_⟩
  · exact congrArg (fun o => Option.getD o []) (hkeep st.data)
  · exact congrArg (fun o => Option.getD o []) (hkeep st.coldFiles)

lemma readFile_result (env : Env) (i : Nat) (off size : UInt64) (e : Engine) :
    (readFile env i off size e).1 =
      if e.closed then .err .closed
      else match e.nodes[i]? with
        | none => .err .notFound
        | some node =>
          if node.type = .directory then .err .isDir
          else readFileLocked env.reader e.toSnapshotState node i off size := by
  unfold readFile checkOpen
  by_cases hc : e.closed = true
  · rw [if_pos hc, bind_run]
    simp only [bind_read_run, failIf_pos _ hc, fail_run]
  rw [if_neg hc, bind_run]
  simp only [bind_read_run, failIf_neg _ hc, pure_run]
  rw [bind_run]
  simp only [onState, on_run, fileNodeLocked, bind_read_run]
  cases e.nodes[i]? with
  | none => rfl
  | some node => by_cases hdir : node.type = .directory <;> simp [hdir]

/-! ## The theorem -/

/-- The keys under which a materialization can put an object. -/
def newKeys (seq : Nat) : List GoString := [segmentKeyOf seq, manifestKey seq, manifestLatestKey]

/-- Each file with extents has no inline data, not even an empty slice, and
its segments are not the one that the next materialization writes. -/
structure Separate (m : Materializer) (s : SnapshotState) : Prop where
  cold : ∀ f ∈ s.coldFiles.toList, f.2 ≠ [] → s.data[f.1]? = none
  newID : ∀ f ∈ s.coldFiles.toList, ∀ x ∈ f.2, x.segmentID ≠ segmentIDOf (checkpointSequence s)
  newKey : ∀ f ∈ s.coldFiles.toList, ∀ x ∈ f.2, ∀ seg ∈ s.segments[x.segmentID]?,
    OwnSegment m seg → objectKey seg.key ∉ newKeys (checkpointSequence s)

instance (m : Materializer) (segment : Segment) : Decidable (OwnSegment m segment) :=
  inferInstanceAs (Decidable (_ ∨ _))

/-- The reads go to the objects of `cloud`. -/
def Env.reading (env : Env) (m : Materializer) (cloud : Cloud) : Env :=
  { env with reader := some (readSegmentRange m cloud.objects) }

lemma mem_coldFiles {x : FileExtent} (h : x ∈ s.extents i) :
    ∃ xs, (i, xs) ∈ s.coldFiles.toList ∧ x ∈ xs := by
  unfold extents at h
  cases hc : s.coldFiles[i]? with
  | none => simp [hc] at h
  | some xs =>
    rw [hc, Option.getD_some] at h
    exact ⟨xs, (GoMap.mem_toList _ _ _).mpr hc, h⟩

/-- A file reads the same from the state of the manifest, installed. -/
lemma Relaid.reads (hname : trimSpace m.volumeID = m.volumeID) (hsep : Separate m s)
    (hp : Planned m random (materializeStateLocked s) expected p ms files enc)
    (hst : Relaid (defaultSegmentVolumeIDs (materializeStateLocked s) m.volumeID) ms enc
      p.manifest.state)
    (objects : Objects) (hnode : s.nodes[i]? = some node) (hfile : node.type ≠ .directory)
    (hrange : off.toNat + size.toNat < 2 ^ 64) :
    readFileLocked (some (readSegmentRange m (p.objects m.headStore objects)))
        p.manifest.state node i off size =
      readFileLocked (some (readSegmentRange m objects)) s node i off size := by
  have hcoldFiles : (materializeStateLocked s).coldFiles[i]? = s.coldFiles[i]? := by
    unfold materializeStateLocked
    rw [get_deleteKeys, if_neg]
    simp [SnapshotState.nodeless, hnode]
  have hinline : p.manifest.state.inline i = [] := by
    simp [SnapshotState.inline, hst.data]
  cases hd : s.data[i]? with
  | some payload =>
    have hbefore : s.inline i = payload := by simp [SnapshotState.inline, hd]
    by_cases hempty : payload = []
    · -- an empty file has no extents before, and none after
      have hnone : s.extents i = [] := by
        by_contra hne
        obtain ⟨x, hx⟩ := List.exists_mem_of_ne_nil _ hne
        obtain ⟨xs, hxs, hmem⟩ := mem_coldFiles hx
        rw [hsep.cold (i, xs) hxs (List.ne_nil_of_mem hmem)] at hd
        cases hd
      have hafter : p.manifest.state.extents i = [] := by
        rw [SnapshotState.extents, hst.rest i]
        · rfl
        · rintro ⟨hdata, _⟩
          cases hdata.symm.trans hd
        · intro hmem
          obtain ⟨⟨j, bytes⟩, hj, rfl⟩ := List.mem_map.mp hmem
          obtain ⟨hdata, hne, _⟩ := mem_hotFiles.mp hj
          cases hdata.symm.trans hd
          exact hne hempty
      rw [readFileLocked_hot (by simp [SnapshotState.isHot, hafter]) hrange,
        readFileLocked_hot (by simp [SnapshotState.isHot, hnone]) hrange, hinline, hbefore, hempty]
    · have hhot : (i, payload) ∈
        (defaultSegmentVolumeIDs (materializeStateLocked s) m.volumeID).hotFiles :=
        mem_hotFiles.mpr ⟨hd, hempty, node, hnode, hfile⟩
      obtain ⟨hseg, offset, hat⟩ := hst.packed i payload hhot
      obtain ⟨hid, hkey, hvol, hpack⟩ := buildSegment_ok hp.segment
      obtain ⟨hshort, _⟩ := packFiles_packs _ (nodup_hotFiles _) hpack (Nat.zero_le _)
      have hfull : ms.payload ≠ [] := hat.full hempty
      have hstored : Stored m (p.objects m.headStore objects) ms enc := by
        refine ⟨⟨random, p.stored, hp.encrypted, ?_⟩, hshort, hfull, ?_, hvol, hp.named, hname⟩
        · rw [← hp.key]
          exact Plan.objects_segment (hp.key.trans hkey) (by rw [hp.payload]; exact hfull)
        · rw [hkey]
          simp [segmentKeyOf, lit_segments]
      rw [readFileLocked_packed hat hseg hshort
        (fun o l hol => readSegmentRange_stored hstored _ _ hol) hrange hst.data,
        readFileLocked_hot (by simp [SnapshotState.isHot, hbefore, List.length_pos_iff, hempty])
          hrange, hbefore]
  | none =>
    obtain ⟨hid, hkey, _⟩ := buildSegment_ok hp.segment
    obtain ⟨hext, hsegs⟩ := hst.kept i ⟨hd, node, hnode⟩
    have hextents : p.manifest.state.extents i = s.extents i := by
      unfold SnapshotState.extents
      rw [hext]
      exact congrArg (fun o => Option.getD o []) hcoldFiles
    apply readFileLocked_congr
    · rw [hinline, SnapshotState.inline, hd]
      rfl
    · exact hextents
    · intro x hx
      obtain ⟨xs, hxs, hmem⟩ := mem_coldFiles hx
      have hne : x.segmentID ≠ ms.id := by
        rw [hid]
        exact hsep.newID (i, xs) hxs x hmem
      have hx' : x ∈ (defaultSegmentVolumeIDs (materializeStateLocked s) m.volumeID).extents i := by
        rw [← hextents] at hx
        unfold SnapshotState.extents at hx ⊢
        rw [← hext]
        exact hx
      obtain ⟨seg', hseg', hst'⟩ := hsegs x hx'
      simp only [defaultSegmentVolumeIDs, Std.ExtTreeMap.getElem?_map, Option.map_eq_some_iff]
        at hseg'
      obtain ⟨seg, hseg, rfl⟩ := hseg'
      have hold : s.segments[x.segmentID]? = some seg := hseg
      have hread : readSegmentRange m (p.objects m.headStore objects) seg =
          readSegmentRange m objects seg := by
        apply readSegmentRange_congr
        intro hown
        have hnew := hsep.newKey (i, xs) hxs x hmem seg hseg hown
        simp only [newKeys, List.mem_cons, List.not_mem_nil, or_false, not_or] at hnew
        apply Plan.objects_frame
        · rw [hp.key, hkey, objectKey_segmentKeyOf]
          exact hnew.1
        · rw [hp.seq]
          exact hnew.2.1
        · exact hnew.2.2
      simp only [segmentReads, hold, hst' (Or.inl hne), Option.map_some, defaultVolumeID_key,
        readSegmentRange_defaulted _ _ ⟨hp.named, hname⟩, hread]

def plainMaterializer : Materializer :=
  { volumeID := lit "vol", objectStoreForVolume := none, headStore := true, encryption := none }

def settle (m : Materializer) (e : Engine) (expected : Nat) (cloud : Cloud) : Engine × Cloud :=
  match materialize m 0 ⟨[], [], []⟩ (materializeStateLocked e.toSnapshotState) expected cloud with
  | (.ok manifest, cloud) => ((replaceStateLocked manifest.state e).2, cloud)
  | (_, cloud) => (e, cloud)

/-- A cold file of two bytes, and then `calls`. -/
def afterCold (calls : List Op) : Engine × Cloud :=
  let (e, cloud) := settle plainMaterializer
    (after [.createFile 1 (lit "a") 0o644, .write 2 0 [104, 105]]) 0 .empty
  (calls.foldl (fun e op => op.next still e) e, cloud)

def coldAndHot : Engine × Cloud :=
  afterCold [.createFile 1 (lit "b") 0o644, .write 3 0 [1, 2, 3], .createFile 1 (lit "c") 0o644]

/-- Each file has no inline bytes or no extents, and its extents lie in
segments that the state knows. -/
def InlineOrCold (s : SnapshotState) : Prop :=
  (∀ f ∈ s.data.toList, f.2 = [] ∨ s.extents f.1 = []) ∧
    ∀ f ∈ s.coldFiles.toList, ∀ x ∈ f.2, s.segments[x.segmentID]?.isSome

instance (s : SnapshotState) : Decidable (InlineOrCold s) := inferInstanceAs (Decidable (_ ∧ _))

/-- The file reads `before`, and `after` once the state is materialized and installed. -/
def Changes (m : Materializer) (e : Engine) (expected : Nat) (cloud : Cloud) (i : Nat)
    (off size : UInt64) (before after : Outcome Err Bytes) : Prop :=
  InlineOrCold e.toSnapshotState ∧ (readFile (still.reading m cloud) i off size e).1 = before ∧
    (readFile (still.reading m (settle m e expected cloud).2) i off size
      (settle m e expected cloud).1).1 = after

instance (m : Materializer) (e : Engine) (expected : Nat) (cloud : Cloud) (i : Nat)
    (off size : UInt64) (before after : Outcome Err Bytes) :
    Decidable (Changes m e expected cloud i off size before after) :=
  inferInstanceAs (Decidable (_ ∧ _))

end sandbox0.s0fs
