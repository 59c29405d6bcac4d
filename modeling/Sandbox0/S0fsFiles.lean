-- The contents of the files under the calls of an engine: a call changes the
-- bytes of the file that it writes or truncates, and of no other.
import Sandbox0.S0fsAgree

namespace sandbox0.s0fs

open GoMap Call

/-! ## ReadInto -/

/-- The bytes that are copied into a buffer of `size` bytes. -/
def readFileIntoLocked (m : Option SegmentReader) (s : SnapshotState) (node : Node) (inode : Nat)
    (offset : UInt64) (size : Nat) : Outcome Err Bytes :=
  if size = 0 then .ok []
  else do
    let payload ← readFileLocked m s node inode offset (UInt64.ofNat size)
    pure (payload.take size)

def readInto (env : Env) (inode : Nat) (offset : UInt64) (size : Nat) : Eng Bytes := do
  checkOpen
  let node ← onState (fileNodeLocked inode)
  ends (readFileIntoLocked env.reader (← Call.read).toSnapshotState node inode offset size)

/-! ## The bytes of a file -/

/-- `i` is a file that holds the bytes `c`. -/
def FileHas (rd : Option SegmentReader) (s : SnapshotState) (i : Nat) (c : Bytes) : Prop :=
  ∃ node, s.nodes[i]? = some node ∧ node.type ≠ .directory ∧ FileIs rd s i node c

/-- Every file can be read, and no inode that is still to come has contents.
Link counts do not matter here. -/
structure Files (rd : Option SegmentReader) (s : SnapshotState) : Prop extends Shaped s where
  file : ∀ (i : Nat) node, s.nodes[i]? = some node → node.type ≠ .directory →
    ∃ c, FileIs rd s i node c
  unused : ∀ i, s.nextInode ≤ i → s.extents i = [] ∧ s.inline i = []

variable {rd : Option SegmentReader} {s s' : SnapshotState} {i size j n : Nat} {node : Node}
    {c c' payload : Bytes} {offset : UInt64} {env : Env} {e e' : Engine} {r : WalRecord}
    {f : Bytes → Outcome Err Bytes} {op : Op}

lemma Sound.toFiles (h : Sound rd s) : Files rd s :=
  ⟨h.wf.toShaped, h.files, h.unused⟩

lemma FileIs.readInto (h : FileIs rd s i node c) (hrange : offset.toNat + size < 2 ^ 64) :
    readFileIntoLocked rd s node i offset size = .ok (slice c offset.toNat size) := by
  have hsize : (UInt64.ofNat size).toNat = size := toNat_ofNat_small (by omega)
  unfold readFileIntoLocked
  by_cases h0 : size = 0
  · rw [if_pos h0, h0, slice_zero]
  rw [if_neg h0, h.holds.read (by rw [hsize]; exact hrange), hsize]
  by_cases hoff : offset ≥ node.size
  · have hle : c.length ≤ offset.toNat := by
      rw [← h.sized]
      exact UInt64.le_iff_toNat_le.mp hoff
    simp [slice_beyond c size hle, bind, pure]
  · simp [if_neg hoff, slice, bind, pure]

lemma FileHas.readInto (h : FileHas env.reader e.toSnapshotState i c) (hopen : e.closed = false)
    (hrange : offset.toNat + size < 2 ^ 64) :
    s0fs.readInto env i offset size e = (.ok (slice c offset.toNat size), e) := by
  obtain ⟨node, hn, hd, hf⟩ := h
  have hcheck := checkOpen_ok hopen
  have hnode : onState (fileNodeLocked i) e = (.ok node, e) := by
    simp [onState, fileNodeLocked_ok hn hd]
  unfold s0fs.readInto
  rw [bind_ok hcheck, bind_ok hnode, bind_read_run, ends_run, hf.readInto hrange]

lemma FileHas.unique (h : FileHas rd s i c) (h' : FileHas rd s i c') : c = c' := by
  obtain ⟨node, hn, _, hf⟩ := h
  obtain ⟨node', hn', _, hf'⟩ := h'
  cases hn.symm.trans hn'
  have heq := (hf.holds.contents hf.sized).symm.trans (hf'.holds.contents hf'.sized)
  cases heq
  rfl

lemma FileHas.isFile (h : FileHas rd s i c) : IsFile s i := by
  obtain ⟨node, hn, hd, _⟩ := h
  exact ⟨node, hn, hd⟩

lemma FileHas.short (h : FileHas rd s i c) : c.length ≤ maxAlloc := by
  obtain ⟨_, _, _, hf⟩ := h
  exact hf.short

lemma Files.has (h : Files rd s)
    (hn : s.nodes[i]? = some node) (hd : node.type ≠ .directory) : ∃ c, FileHas rd s i c := by
  obtain ⟨c, hc⟩ := h.file i node hn hd
  exact ⟨c, node, hn, hd, hc⟩

/-! ## What a record leaves alone -/

/-- File `i` stays as it is, but for its links and times. -/
structure SameFile (s s' : SnapshotState) (i : Nat) : Prop where
  node : ∀ node, s.nodes[i]? = some node → node.type ≠ .directory →
    ∃ node', s'.nodes[i]? = some node' ∧ node'.type ≠ .directory ∧ node'.size = node.size
  data : s'.data[i]? = s.data[i]?
  coldFiles : s'.coldFiles[i]? = s.coldFiles[i]?
  segments : s'.segments = s.segments

lemma SameFile.refl (s : SnapshotState) (i : Nat) : SameFile s s i :=
  ⟨fun node hn hd => ⟨node, hn, hd, rfl⟩, rfl, rfl, rfl⟩

lemma FileHas.same (h : FileHas rd s i c) (hs : SameFile s s' i) : FileHas rd s' i c := by
  obtain ⟨node, hn, hd, hf⟩ := h
  obtain ⟨node', hn', hd', hsize⟩ := hs.node node hn hd
  exact ⟨node', hn', hd', hf.holds.congr hs.data hs.coldFiles hs.segments, by rw [hsize, hf.sized],
    hf.short⟩

lemma SameFile.of_nodes (hf : SameFiles s s')
    (h : ∀ node, s.nodes[i]? = some node → node.type ≠ .directory →
      ∃ node', s'.nodes[i]? = some node' ∧ node'.type ≠ .directory ∧ node'.size = node.size) :
    SameFile s s' i :=
  ⟨h, by rw [hf.data], by rw [hf.coldFiles], hf.segments⟩

lemma SameFile.of_map (hf : SameFiles s s')
    (h : s'.nodes[i]?.map (fun node => (node.type, node.size)) = s.nodes[i]?.map fun node =>
      (node.type, node.size)) :
    SameFile s s' i := by
  refine .of_nodes hf fun node hn hd => ?_
  rw [hn, Option.map_some, Option.map_eq_some_iff] at h
  obtain ⟨node', hn', heq⟩ := h
  rw [Prod.mk.injEq] at heq
  exact ⟨node', hn', by rw [heq.1]; exact hd, heq.2⟩

/-- A file that another file's contents are stored next to. -/
lemma SameFile.change (m : Option SegmentReader) (s : SnapshotState) (r : WalRecord)
    (f : Bytes → Outcome Err Bytes) (hi : r.inode ≠ i) : SameFile s (change m r f s).2 i := by
  have hhyd : ∀ c, SameFile s (hydrated s r.inode c) i := by
    intro c
    refine ⟨fun node hn hd => ⟨node, by simpa using hn, hd, rfl⟩, ?_, ?_, ?_⟩ <;>
    · unfold hydrated
      split
      · rfl
      · simp [get_insert_ne _ _ hi, get_erase_ne _ hi]
  rcases fileNodeLocked_checks s r.inode with ⟨⟨node, hn, hd⟩, _⟩ | ⟨_, e, hx⟩
  · rw [change_run m r f hn hd]
    cases contents m s node r.inode with
    | err | panic => exact .refl s i
    | ok c =>
      dsimp only
      cases f c with
      | err | panic => exact hhyd c
      | ok c' =>
        obtain ⟨hdata, hcold, hnodes⟩ := stored_other s node c c' hi
        exact ⟨fun node' hn' hd' => ⟨node', hnodes.trans hn', hd', rfl⟩, hdata, hcold,
          stored_segments s r node c c'⟩
  · unfold s0fs.change
    rw [bind_err hx]
    exact .refl s i

lemma SameFile.of_refused {x : Fs Unit} (i : Nat)
    (h : ∃ e, x s = (.err e, s)) : SameFile s (x s).2 i := by
  obtain ⟨e, he⟩ := h
  rw [he]
  exact .refl s i

lemma SameFile.attr (i : Nat) (f : Node → Node)
    (hf : ∀ node, (f node).type = node.type ∧ (f node).size = node.size) :
    SameFile s ((Call.read >>= fun s => match s.nodes[j]? with
      | none => Call.fail Err.notFound
      | some node => setNode j (f node)) s).2 i := by
  rw [bind_read_run]
  cases hn : s.nodes[j]? with
  | none => exact .refl s i
  | some node =>
    exact .of_map ⟨rfl, rfl, rfl⟩ (map_insert_of_get hn (Prod.ext (hf node).1 (hf node).2) i)

lemma SameFile.apply (m : Option SegmentReader) (h : Shaped s)
    (hr : r.op = .create → s.nextInode ≤ r.inode)
    (hi : bytesChange r = none ∨ r.inode ≠ i) : SameFile s (apply m r s).2 i := by
  have hrefl : SameFile s s i := .refl s i
  unfold s0fs.apply
  cases hop : r.op with
  | create =>
    refine (applyCreate_applies h.listed r).elim (Q := (SameFile s · i)) hrefl fun _ => ?_
    refine .of_nodes ⟨rfl, rfl, rfl⟩ fun node' hn' hd' => ⟨node', ?_, hd', rfl⟩
    have hne : r.inode ≠ i := by
      have hbelow := h.below i node' hn'
      have hfresh := hr hop
      omega
    exact (get_insert_ne _ _ hne).trans hn'
  | write | truncate => exact .change m s r _ (hi.resolve_left (by simp [bytesChange, hop]))
  | link =>
    cases hj : s.nodes[r.inode]? with
    | none => exact .of_refused i (applyLink_refused hj)
    | some old =>
      refine (applyLink_applies h.listed r hj).elim (Q := (SameFile s · i)) hrefl fun _ => ?_
      exact .of_map ⟨rfl, rfl, rfl⟩ (map_insert_of_get hj (by rfl) i)
  | rmdir =>
    cases hc : s.child r.parent r.name with
    | none => exact .of_refused i (lookupLocked_refuses h.listed hc _)
    | some inode =>
      cases hj : s.nodes[inode]? with
      | none => exact .of_refused i (applyRemoveDir_refused h.listed r hc hj)
      | some dir =>
        refine (applyRemoveDir_applies h.listed r hc hj).elim (Q := (SameFile s · i))
          hrefl fun hp => ?_
        refine .of_nodes ⟨rfl, rfl, rfl⟩ fun node' hn' hd' => ⟨node', ?_, hd', rfl⟩
        have hne : inode ≠ i := by
          rintro rfl
          rw [hn', Option.some.injEq] at hj
          subst hj
          exact hp.2.1 hd'
        exact (get_erase_ne _ hne).trans hn'
  | rename =>
    cases hc : s.child r.parent r.name with
    | none => exact .of_refused i (lookupLocked_refuses h.listed hc _)
    | some inode =>
      refine (applyRename_applies h.listed r hc).elim (Q := (SameFile s · i)) hrefl fun _ => ?_
      exact .of_map ⟨rfl, rfl, rfl⟩ (touched_map s (fun _ _ => rfl) inode r.timeUnix i)
  | chmod | chown => exact .attr i _ fun _ => ⟨rfl, rfl⟩
  | unlink =>
    cases hc : s.child r.parent r.name with
    | none => exact .of_refused i (lookupLocked_refuses h.listed hc _)
    | some inode =>
      refine (applyUnlink_applies h.listed r hc).elim (Q := (SameFile s · i)) hrefl fun _ => ?_
      exact .of_map ⟨rfl, rfl, rfl⟩ (lessLinked_map s (fun _ _ _ => rfl) inode r.timeUnix i)
  | other op => exact hrefl

/-! ## The file that a record writes -/

lemma bytesChange_short (hdata : r.data.length < 2 ^ 64) (hf : bytesChange r = some f)
    (hc : c.length ≤ maxAlloc) (h : f c = .ok c') : c'.length ≤ maxAlloc := by
  unfold bytesChange at hf
  split at hf <;> cases hf
  · rw [writtenBytes_run hc hdata] at h
    split at h <;> cases h
    rename_i hfit
    rw [length_overlaid]
    exact max_le hfit hc
  · rw [truncatedBytes_run hc] at h
    split at h <;> cases h
    rename_i hfit
    rw [length_resized]
    exact hfit

lemma FileHas.change (h : FileHas rd s r.inode c) (hf : bytesChange r = some f)
    (hdata : r.data.length < 2 ^ 64) :
    (change rd r f s).1 = (do let _ ← f c) ∧
      FileHas rd (change rd r f s).2 r.inode ((f c).getD c) := by
  obtain ⟨node, hn, hd, hfile⟩ := h
  have hhyd : FileHas rd (hydrated s r.inode c) r.inode c := by
    refine ⟨node, by simpa using hn, hd, ?_, hfile.sized, hfile.short⟩
    cases hfile.holds with
    | hot hext hc =>
      rw [hydrated, if_pos (by simp [SnapshotState.isHot, hext])]
      exact .hot hext hc
    | cold hext hnone hread =>
      rw [hydrated, Holds.notHot hext hnone, if_neg Bool.false_ne_true]
      exact .hot (by simp [SnapshotState.extents]) (by simp [SnapshotState.inline])
  rw [change_run rd r f hn hd, hfile.holds.contents hfile.sized]
  dsimp only
  cases hc : f c with
  | err | panic => exact ⟨rfl, hhyd⟩
  | ok c' =>
    have hshort := bytesChange_short hdata hf hfile.short hc
    refine ⟨rfl, storedNode r node c', by simp [stored], hd, hfile.holds.stored c', ?_, hshort⟩
    unfold maxAlloc at hshort
    exact toNat_ofNat_small (by omega)

/-! ## Records and calls keep every file readable -/

lemma NameStep.file (h : NameStep s r s')
    (hn : s'.nodes[i]? = some node) (hd : node.type ≠ .directory) :
    IsFile s i ∨ (r.op = .create ∧ i = r.inode ∧ s' = created s r) := by
  have hkept : SameKinds s s' → IsFile s i := by
    intro hk
    obtain ⟨old, hold, _, ht⟩ := hk.node hn
    exact ⟨old, hold, by rw [ht]; exact hd⟩
  cases h with
  | quiet hq => exact .inl (hkept hq.sameKinds)
  | create hop _ _ _ _ =>
    by_cases hi : r.inode = i
    · exact .inr ⟨hop, hi.symm, rfl⟩
    · exact .inl ⟨node, (get_insert_ne _ _ hi).symm.trans hn, hd⟩
  | link old _ hold => exact .inl (hkept (linked_kinds hold))
  | rename inode => exact .inl (hkept (renamed_kinds s r inode))
  | unlink inode => exact .inl (hkept (nameRemoved_kinds s r inode))
  | rmdir inode =>
    by_cases hi : inode = i
    · subst hi
      simp [dirRemoved] at hn
    · exact .inl ⟨node, (get_erase_ne _ hi).symm.trans hn, hd⟩

lemma NameStep.nextInode_le (h : NameStep s r s') : s.nextInode ≤ s'.nextInode := by
  cases h with
  | quiet hq => exact hq.nextInode.ge
  | create =>
    simp only [created]
    split <;> omega
  | link | rename | rmdir | unlink => exact Nat.le_refl _

/-- The bytes of a file after a record. -/
def bytesAfter (r : WalRecord) (i : Nat) (c : Bytes) : Bytes :=
  if r.inode = i then
    match bytesChange r with
    | some f => (f c).getD c
    | none => c
  else c

lemma FileHas.apply (hs : Shaped s)
    (hr : r.op = .create → s.nextInode ≤ r.inode) (hdata : r.data.length < 2 ^ 64)
    (h : FileHas rd s i c) : FileHas rd (apply rd r s).2 i (bytesAfter r i c) := by
  unfold bytesAfter
  by_cases hi : r.inode = i
  · rw [if_pos hi]
    cases hf : bytesChange r with
    | none => exact h.same (.apply rd hs hr (.inl hf))
    | some f =>
      subst hi
      rw [apply_change rd hf]
      exact (h.change hf hdata).2
  · rw [if_neg hi]
    exact h.same (.apply rd hs hr (.inr hi))

lemma change_missing (rd : Option SegmentReader) (r : WalRecord) (f : Bytes → Outcome Err Bytes)
    (hn : s.nodes[r.inode]? = none) : change rd r f s = (.err .notFound, s) := by
  unfold change
  exact bind_err (by simp [fileNodeLocked, hn])

lemma Files.apply (h : Files rd s) (hr : r.op = .create → s.nextInode ≤ r.inode)
    (hdata : r.data.length < 2 ^ 64) : Files rd (apply rd r s).2 := by
  have hstep := apply_step rd h.listed r
  refine ⟨h.toShaped.step hr hstep, fun i node hn hd => ?_, fun i hi => ?_⟩
  · rcases hstep.file hn hd with ⟨old, hold, hfile⟩ | ⟨hop, rfl, hcreated⟩
    · obtain ⟨c, hc⟩ := h.has hold hfile
      obtain ⟨node', hn', _, hafter⟩ := hc.apply h.toShaped hr hdata
      cases hn'.symm.trans hn
      exact ⟨_, hafter⟩
    · have hsame := SameFile.apply rd h.toShaped hr (r := r) (i := r.inode)
        (Or.inl (by simp [bytesChange, hop]))
      obtain ⟨hext, hinline⟩ := h.unused r.inode (hr hop)
      have hnode : node = createdNode r := by
        rw [hcreated] at hn
        simpa [created] using hn.symm
      refine ⟨[], .hot ?_ ?_, by rw [hnode]; rfl, by simp [maxAlloc]⟩
      · rw [SnapshotState.extents, hsame.coldFiles]
        exact hext
      · rw [SnapshotState.inline, hsame.data]
        exact hinline
  · have hold : s.nextInode ≤ i := hstep.nextInode_le.trans hi
    obtain ⟨hext, hinline⟩ := h.unused i hold
    have hsame : (s0fs.apply rd r s).2.data[i]? = s.data[i]? ∧
        (s0fs.apply rd r s).2.coldFiles[i]? = s.coldFiles[i]? := by
      by_cases hi' : r.inode = i
      · cases hf : bytesChange r with
        | none =>
          have hsame := SameFile.apply rd h.toShaped hr (i := i) (Or.inl hf)
          exact ⟨hsame.data, hsame.coldFiles⟩
        | some f =>
          -- an inode that is still to come cannot be written
          rw [apply_change rd hf, change_missing rd r f (hi' ▸ (h.toShaped.fresh hold).1)]
          exact ⟨rfl, rfl⟩
      · have hsame := SameFile.apply rd h.toShaped hr (i := i) (Or.inr hi')
        exact ⟨hsame.data, hsame.coldFiles⟩
    rw [SnapshotState.extents, SnapshotState.inline, hsame.1, hsame.2]
    exact ⟨hext, hinline⟩

lemma Files.bumped (h : Files rd s) : Files rd s.bumped := by
  refine ⟨h.toShaped.quiet (quiet_bumped s), fun i node hn hd => ?_, h.unused⟩
  obtain ⟨c, hc⟩ := h.file i node hn hd
  exact ⟨c, hc.holds.congr rfl rfl rfl, hc.sized, hc.short⟩

lemma FileHas.bumped (h : FileHas rd s i c) : FileHas rd s.bumped i c :=
  h.same ⟨fun node hn hd => ⟨node, hn, hd, rfl⟩, rfl, rfl, rfl⟩

/-- The payload of a write is a Go slice. -/
def Op.Slices : Op → Prop
  | .write _ _ payload => payload.length < 2 ^ 64
  | _ => True

lemma Op.Slices.data (h : op.Slices) (hr : op.record env s = some r) : r.data.length < 2 ^ 64 := by
  cases op with
  | write inode offset payload =>
    cases hr
    exact h
  | forget _ | lookup _ _ | readDir _ => cases hr
  | _ =>
    cases hr
    simp

lemma SameFile.forgotten (e : Engine) (hij : i ≠ j) :
    SameFile e.toSnapshotState (forgotten e i).toSnapshotState j := by
  refine ⟨fun node hn hd => ⟨node, ?_, hd, rfl⟩, ?_, rfl, rfl⟩
  · exact (get_erase_ne _ hij).trans hn
  · exact get_erase_ne _ hij

lemma Files.called (h : Files env.reader e.toSnapshotState)
    (hop : op.Slices) (hc : Called env e op e') : Files env.reader e'.toSnapshotState := by
  cases hc with
  | refused => exact h
  | logs r _ _ hr =>
    rw [logged_state]
    cases env.appendErr with
    | some err => exact h.bumped
    | none => exact h.bumped.apply (fun hcreate => (record_create hr hcreate).ge) (hop.data hr)
  | forgot i node _ _ hn hl =>
    have hforgot : Called env e op (forgotten e i) := .forgot i node ‹_› ‹_› hn hl
    have hshaped := h.toShaped.called hforgot
    refine ⟨hshaped, fun j node' hn' hd' => ?_, fun j hj => ?_⟩
    · have hij : i ≠ j := by
        rintro rfl
        simp [forgotten] at hn'
      have hold : e.nodes[j]? = some node' := (get_erase_ne _ hij).symm.trans hn'
      obtain ⟨c, hc⟩ := h.has hold hd'
      obtain ⟨node'', hn'', _, hafter⟩ := hc.same (.forgotten e hij)
      cases hn''.symm.trans hn'
      exact ⟨c, hafter⟩
    · obtain ⟨hext, hinline⟩ := h.unused j hj
      have hij : i ≠ j := by
        rintro rfl
        have hbelow := h.below i node hn
        have hj' : e.nextInode ≤ i := hj
        omega
      have hsame := SameFile.forgotten e hij
      rw [SnapshotState.extents, SnapshotState.inline, hsame.data, hsame.coldFiles]
      exact ⟨hext, hinline⟩

/-- A call that does not write or truncate a file, nor forgets it, leaves its bytes alone. -/
lemma FileHas.called (h : Files env.reader e.toSnapshotState) (hc : Called env e op e')
    (hi : FileHas env.reader e.toSnapshotState i c)
    (hw : ∀ r, op.record env e.toSnapshotState = some r → bytesChange r = none ∨ r.inode ≠ i)
    (hf : op ≠ .forget i) : FileHas env.reader e'.toSnapshotState i c := by
  cases hc with
  | refused => exact hi
  | logs r _ _ hr =>
    rw [logged_state]
    cases env.appendErr with
    | some err => exact hi.bumped
    | none =>
      exact hi.bumped.same (.apply env.reader h.bumped.toShaped
        (fun hcreate => (record_create hr hcreate).ge) (hw r hr))
  | forgot j node _ hop' hn hl =>
    have hij : j ≠ i := fun hij => hf (by rw [hop', hij])
    exact hi.same (.forgotten e hij)

/-! ## What a call leaves -/

def Op.writes : Op → Option Nat
  | .write inode _ _ => some inode
  | .truncate inode _ => some inode
  | _ => none

/-- What a call leaves of the files: a file that it does not write holds the
bytes that it held, and only a forgotten file goes. -/
structure After (rd : Option SegmentReader) (e e' : Engine) (op : Op) : Prop where
  files : Files rd e'.toSnapshotState
  closed : e'.closed = e.closed
  nextInode : e.nextInode ≤ e'.nextInode
  bytes : ∀ i c, i < e.nextInode → op.writes ≠ some i → FileHas rd e'.toSnapshotState i c →
    FileHas rd e.toSnapshotState i c
  kept : ∀ i, IsFile e.toSnapshotState i → op ≠ .forget i → IsFile e'.toSnapshotState i

lemma Op.record_writes (hr : op.record env s = some r) (hw : op.writes ≠ some i) :
    bytesChange r = none ∨ r.inode ≠ i := by
  cases op with
  | write | truncate =>
    cases hr
    exact .inr fun hi => hw (congrArg some hi)
  | forget _ | lookup _ _ | readDir _ => cases hr
  | _ =>
    cases hr
    exact .inl rfl

/-- A call adds no file below the next inode. -/
lemma Called.file (h : Shaped e.toSnapshotState) (hc : Called env e op e') (hi : i < e.nextInode)
    (hf : IsFile e'.toSnapshotState i) : IsFile e.toSnapshotState i := by
  obtain ⟨node, hn, hd⟩ := hf
  cases hc with
  | refused => exact ⟨node, hn, hd⟩
  | logs r _ _ hr =>
    rw [logged_state] at hn
    cases happend : env.appendErr with rw [happend] at hn
    | some err =>
      exact ⟨node, hn, hd⟩
    | none =>
      have hbumped := h.quiet (quiet_bumped e.toSnapshotState)
      rcases (apply_step env.reader hbumped.listed r).file hn hd with hold | ⟨hcreate, hi', _⟩
      · exact hold
      · have hnew := record_create hr hcreate
        omega
  | forgot j node' _ _ _ _ =>
    have hij : j ≠ i := by
      rintro rfl
      simp [forgotten] at hn
    exact ⟨node, (get_erase_ne _ hij).symm.trans hn, hd⟩

lemma Called.nextInode_le (h : Shaped e.toSnapshotState)
    (hc : Called env e op e') : e.nextInode ≤ e'.nextInode := by
  cases hc with
  | refused | forgot => exact Nat.le_refl _
  | logs r _ _ hr =>
    have hstate := logged_state env e r
    rw [hstate]
    cases env.appendErr with
    | some err => exact Nat.le_refl _
    | none =>
      have hbumped := h.quiet (quiet_bumped e.toSnapshotState)
      exact (apply_step env.reader hbumped.listed r).nextInode_le

lemma Called.closed (hc : Called env e op e') : e'.closed = e.closed := by
  cases hc with
  | refused => rfl
  | forgot => rfl
  | logs r => exact (logged_disk env e r).1

lemma Called.kept (hc : Called env e op e')
    (h : Files env.reader e.toSnapshotState) (hop : op.Slices) (hi : IsFile e.toSnapshotState i)
    (hf : op ≠ .forget i) : IsFile e'.toSnapshotState i := by
  obtain ⟨node, hn, hd⟩ := hi
  cases hc with
  | refused => exact ⟨node, hn, hd⟩
  | logs r _ _ hr =>
    obtain ⟨c, hhas⟩ := h.has hn hd
    rw [logged_state]
    cases env.appendErr with
    | some err => exact ⟨node, hn, hd⟩
    | none =>
      obtain ⟨node', hn', hd', _⟩ := hhas.bumped.apply h.bumped.toShaped
        (fun hcreate => (record_create hr hcreate).ge) (hop.data hr)
      exact ⟨node', hn', hd'⟩
  | forgot j node' _ hop' _ _ =>
    have hij : j ≠ i := fun hij => hf (by rw [hop', hij])
    exact ⟨node, (get_erase_ne _ hij).trans hn, hd⟩

lemma Called.after (hc : Called env e op e')
    (h : Files env.reader e.toSnapshotState) (hop : op.Slices) : After env.reader e e' op := by
  refine ⟨h.called hop hc, hc.closed, hc.nextInode_le h.toShaped, fun i c hi hw hhas => ?_,
    fun i hi hf => hc.kept h hop hi hf⟩
  have hfile := hhas.isFile
  by_cases hforget : op = .forget i
  · subst hforget
    cases hc with
    | refused => exact hhas
    | logs r _ _ hr => cases hr
    | forgot j node _ hop' _ _ =>
      cases hop'
      obtain ⟨node', hn', _⟩ := hfile
      simp [forgotten] at hn'
  · obtain ⟨node, hn, hd⟩ := hc.file h.toShaped hi hfile
    obtain ⟨c0, hold⟩ := h.has hn hd
    have hnew := hold.called h hc (fun r hr => Op.record_writes hr hw) hforget
    rw [hhas.unique hnew]
    exact hold

lemma FileHas.below (h : FileHas rd s i c) (hs : Shaped s) : i < s.nextInode := by
  obtain ⟨node, hn, _⟩ := h
  exact hs.below i node hn

lemma After.has (h : After rd e e' op)
    (hfiles : Files rd e.toSnapshotState) (hc : FileHas rd e.toSnapshotState i c)
    (hw : op.writes ≠ some i) (hf : op ≠ .forget i) : FileHas rd e'.toSnapshotState i c := by
  obtain ⟨node, hn, hd⟩ := h.kept i hc.isFile hf
  obtain ⟨c', hc'⟩ := h.files.has hn hd
  have hold := h.bytes i c' (hc.below hfiles.toShaped) hw hc'
  rw [hc.unique hold]
  exact hc'

/-! ## Write and Truncate -/

/-- How the bytes of a file change, and how the call ends, when its record is
logged: a log write that fails changes nothing. -/
def logChange (env : Env) (f : Bytes → Outcome Err Bytes) (c : Bytes) : Outcome Err Bytes :=
  match env.appendErr with
  | some fault => .err fault.err
  | none => f c

lemma FileHas.logAndApply (h : FileHas env.reader e.toSnapshotState r.inode c)
    (hf : bytesChange r = some f) (hdata : r.data.length < 2 ^ 64) :
    (logAndApply env r e).1 = (do let _ ← logChange env f c) ∧
    FileHas env.reader (logAndApply env r e).2.toSnapshotState r.inode
      ((logChange env f c).getD c) := by
  obtain ⟨hend, hafter⟩ := h.change hf hdata
  unfold s0fs.logAndApply append logChange
  cases env.appendErr with
  | some err => exact ⟨rfl, h⟩
  | none =>
    rw [bind_update_run, apply_change env.reader hf, bind_run]
    simp only [onState, on_run]
    rcases hx : s0fs.change env.reader r f e.toSnapshotState with ⟨o, s'⟩
    rw [hx] at hend hafter
    dsimp only at hend hafter
    subst hend
    cases hc : f c with
    | ok | err | panic =>
      rw [hc] at hafter
      exact ⟨rfl, hafter⟩

lemma FileHas.open (h : FileHas rd e.toSnapshotState i c) (hopen : e.closed = false) :
    ∃ node, checkOpen e = (.ok (), e) ∧ onState (fileNodeLocked i) e = (.ok node, e) := by
  obtain ⟨node, hn, hd, _⟩ := h
  refine ⟨node, checkOpen_ok hopen, ?_⟩
  simp [onState, fileNodeLocked_ok hn hd]

def writeRecord (env : Env) (e : Engine) (i : Nat) (offset : UInt64)
    (payload : Bytes) : WalRecord :=
  { seq := e.nextSeq, op := .write, timeUnix := env.now, inode := i, offset, data := payload }

def truncateRecord (env : Env) (e : Engine) (i : Nat) (size : UInt64) : WalRecord :=
  { seq := e.nextSeq, op := .truncate, timeUnix := env.now, inode := i, offset := size }

lemma FileHas.write (h : FileHas env.reader e.toSnapshotState i c) (hopen : e.closed = false)
    (hdata : payload.length < 2 ^ 64) (offset : UInt64) :
    let o := logChange env (writtenBytes (writeRecord env e i offset payload)) c
    (write env i offset payload e).1 = (do let _ ← o; pure payload.length) ∧
      FileHas env.reader (write env i offset payload e).2.toSnapshotState i (o.getD c) := by
  obtain ⟨node, hcheck, hnode⟩ := h.open hopen
  have hbumped : FileHas env.reader e.toSnapshotState.bumped i c := h.bumped
  obtain ⟨hend, hafter⟩ := FileHas.logAndApply (r := writeRecord env e i offset payload)
    (e := { e with nextSeq := e.nextSeq + 1 }) hbumped rfl hdata
  have hrun : s0fs.write env i offset payload e =
      (s0fs.logAndApply env (writeRecord env e i offset payload) >>= fun _ => pure payload.length)
        { e with nextSeq := e.nextSeq + 1 } := by
    unfold s0fs.write
    rw [bind_ok hcheck, bind_ok hnode]
    rfl
  rw [hrun, bind_const_run]
  refine ⟨?_, hafter⟩
  rw [hend]
  cases logChange env (writtenBytes (writeRecord env e i offset payload)) c <;> rfl

lemma FileHas.truncate (h : FileHas env.reader e.toSnapshotState i c) (hopen : e.closed = false)
    (size : UInt64) : let o := logChange env (truncatedBytes (truncateRecord env e i size)) c
    (truncate env i size e).1 = (do let _ ← o) ∧
      FileHas env.reader (truncate env i size e).2.toSnapshotState i (o.getD c) := by
  obtain ⟨node, hcheck, hnode⟩ := h.open hopen
  have hbumped : FileHas env.reader e.toSnapshotState.bumped i c := h.bumped
  have hrun : s0fs.truncate env i size e =
      s0fs.logAndApply env (truncateRecord env e i size) { e with nextSeq := e.nextSeq + 1 } := by
    unfold s0fs.truncate
    rw [bind_ok hcheck, bind_ok hnode]
    rfl
  rw [hrun]
  exact FileHas.logAndApply (r := truncateRecord env e i size)
    (e := { e with nextSeq := e.nextSeq + 1 }) hbumped rfl (by simp [truncateRecord])

section

variable (hfiles : Files env.reader e.toSnapshotState)

include hfiles

lemma opened_ok {α : Type} {a : α} {k : Node → Eng α}
    (h : (do checkOpen; let node ← onState (fileNodeLocked i); k node : Eng α) e = (.ok a, e')) :
    e.closed = false ∧ ∃ c, FileHas env.reader e.toSnapshotState i c := by
  obtain ⟨_, _, h1, h2⟩ := Call.of_bind_ok h
  obtain ⟨hopen, rfl⟩ := (checkOpen_checks e).of_ok h1
  obtain ⟨_, _, h3, _⟩ := Call.of_bind_ok h2
  obtain ⟨⟨node, hn, hd⟩, _⟩ := (checks_onState (fileNodeLocked_checks _ i)).of_ok h3
  exact ⟨hopen, hfiles.has hn hd⟩

lemma write_ok (hdata : payload.length < 2 ^ 64) (h : write env i offset payload e = (.ok n, e')) :
    ∃ c, FileHas env.reader e.toSnapshotState i c ∧
      FileHas env.reader e'.toSnapshotState i (overlaid offset.toNat payload c) ∧
      offset.toNat + payload.length ≤ maxAlloc ∧ n = payload.length := by
  obtain ⟨hopen, c, hc⟩ := opened_ok hfiles h
  have hshort := hc.short
  obtain ⟨hend, hafter⟩ := hc.write hopen hdata offset
  rw [h] at hend hafter
  dsimp only at hend hafter
  obtain ⟨c', hc', hn'⟩ := Outcome.of_bind_ok hend.symm
  rw [hc'] at hafter
  cases hn'
  unfold logChange at hc'
  split at hc'
  · cases hc'
  rw [writtenBytes_run hshort hdata] at hc'
  split at hc' <;> cases hc'
  rename_i hfit
  exact ⟨c, hc, hafter, hfit, rfl⟩

lemma truncate_ok {size : UInt64} (h : truncate env i size e = (.ok (), e')) :
    ∃ c, FileHas env.reader e.toSnapshotState i c ∧
      FileHas env.reader e'.toSnapshotState i (resized size.toNat c) := by
  obtain ⟨hopen, c, hc⟩ := opened_ok hfiles h
  have hshort := hc.short
  obtain ⟨hend, hafter⟩ := hc.truncate hopen size
  rw [h] at hend hafter
  dsimp only at hend hafter
  obtain ⟨c', hc', _⟩ := Outcome.of_bind_ok hend.symm
  rw [hc'] at hafter
  unfold logChange at hc'
  split at hc'
  · cases hc'
  rw [truncatedBytes_run hshort] at hc'
  split at hc' <;> cases hc'
  exact ⟨c, hc, hafter⟩

lemma write_failed (hopen : e.closed = false) (hdata : payload.length < 2 ^ 64)
    (h : (write env i offset payload e).1.isOk = false) (hi : i < e.nextInode)
    (hc : FileHas env.reader (write env i offset payload e).2.toSnapshotState i c) :
    FileHas env.reader e.toSnapshotState i c := by
  obtain ⟨node, hn, hd⟩ := (write_called i offset payload).file hfiles.toShaped hi hc.isFile
  obtain ⟨c0, hc0⟩ := hfiles.has hn hd
  obtain ⟨hend, hafter⟩ := hc0.write hopen hdata offset
  rw [hend] at h
  obtain rfl := hc.unique hafter
  cases ho : logChange env (writtenBytes (writeRecord env e i offset payload)) c0 with
  | ok c' =>
    rw [ho] at h
    cases h
  | err | panic => exact hc0

lemma truncate_failed {size : UInt64}
    (hopen : e.closed = false) (h : (truncate env i size e).1.isOk = false) (hi : i < e.nextInode)
    (hc : FileHas env.reader (truncate env i size e).2.toSnapshotState i c) :
    FileHas env.reader e.toSnapshotState i c := by
  obtain ⟨node, hn, hd⟩ := (truncate_called i size).file hfiles.toShaped hi hc.isFile
  obtain ⟨c0, hc0⟩ := hfiles.has hn hd
  obtain ⟨hend, hafter⟩ := hc0.truncate hopen size
  rw [hend] at h
  obtain rfl := hc.unique hafter
  cases ho : logChange env (truncatedBytes (truncateRecord env e i size)) c0 with
  | ok c' =>
    rw [ho] at h
    cases h
  | err | panic => exact hc0

end

/-! ## GetAttr and CreateFile -/

lemma getAttr_state (i : Nat) (e : Engine) : (getAttr i e).2 = e := by
  unfold getAttr
  refine (checkOpen_checks e).elim (Q := (· = e)) rfl fun _ _ _ => ?_
  rw [bind_read_run]
  cases e.nodes[i]? <;> rfl

lemma getAttr_found (hopen : e.closed = false)
    (hfile : IsFile e.toSnapshotState i) : ∃ node, getAttr i e = (.ok node, e) := by
  obtain ⟨node, hn, _⟩ := hfile
  refine ⟨node, ?_⟩
  unfold getAttr
  rw [bind_ok (checkOpen_ok hopen), bind_read_run, hn]
  rfl

lemma getAttr_ok (h : getAttr i e = (.ok node, e')) : e.nodes[i]? = some node := by
  obtain ⟨_, e1, h1, h2⟩ := Call.of_bind_ok h
  obtain ⟨_, rfl⟩ := (checkOpen_checks e).of_ok h1
  rw [bind_read_run] at h2
  cases hn : e1.nodes[i]? with rw [hn] at h2
  | none =>
    cases h2
  | some node' =>
    cases h2
    rfl

lemma file_read_state {α : Type} (i : Nat) (f : Node → Engine → Outcome Err α) (e : Engine) :
    ((do
      checkOpen
      let node ← onState (fileNodeLocked i)
      ends (f node (← Call.read)) : Eng α) e).2 = e := by
  refine (checkOpen_checks e).elim (Q := (· = e)) rfl fun _ _ _ => ?_
  exact (checks_onState (fileNodeLocked_checks _ i)).elim (Q := (· = e)) rfl fun _ _ _ => rfl

lemma readInto_state (env : Env) (i : Nat) (offset : UInt64) (size : Nat) (e : Engine) :
    (readInto env i offset size e).2 = e :=
  file_read_state i
    (fun node e => readFileIntoLocked env.reader e.toSnapshotState node i offset size) e

lemma readFile_state (env : Env) (i : Nat) (offset size : UInt64) (e : Engine) :
    (readFile env i offset size e).2 = e :=
  file_read_state i (fun node e => readFileLocked env.reader e.toSnapshotState node i offset size) e

lemma readInto_ok {out : Bytes} (h : readInto env i offset size e = (.ok out, e')) :
    e.closed = false ∧ IsFile e.toSnapshotState i := by
  obtain ⟨_, e1, h1, h2⟩ := Call.of_bind_ok h
  obtain ⟨hopen, rfl⟩ := (checkOpen_checks e).of_ok h1
  obtain ⟨_, _, h3, _⟩ := Call.of_bind_ok h2
  exact ⟨hopen, ((checks_onState (fileNodeLocked_checks _ i)).of_ok h3).1⟩

lemma create_node {parent : Nat} {name : GoString} {type : FileType}
    {mode : UInt32} {target : GoString} {node : Option Node} (hs : DirsListed e.toSnapshotState)
    (h : create env parent name type mode target e = (.ok node, e')) :
    e'.nodes[e.nextInode]? = node := by
  obtain ⟨_, _, h1, h2⟩ := Call.of_bind_ok h
  obtain ⟨_, rfl⟩ := (checkOpen_checks e).of_ok h1
  obtain ⟨_, _, h3, h4⟩ := Call.of_bind_ok h2
  obtain ⟨_, rfl⟩ := of_failIf_ok h3
  obtain ⟨_, _, h5, h6⟩ := Call.of_bind_ok h4
  obtain ⟨_, rfl⟩ := (checks_onState (ensureDirLocked_checks hs parent)).of_ok h5
  rw [bind_read_run] at h6
  obtain ⟨_, _, h7, h8⟩ := Call.of_bind_ok h6
  obtain ⟨_, rfl⟩ := of_failIf_ok h7
  obtain ⟨record, e1, _, h9⟩ := Call.of_bind_ok h8
  obtain ⟨_, e2, _, h10⟩ := Call.of_bind_ok h9
  rw [bind_read_run] at h10
  cases h10
  rfl

lemma createFile_ok (hs : Shaped e.toSnapshotState) {parent : Nat} {name : GoString}
    {mode : UInt32} (h : createFile env parent name mode e = (.ok (some node), e')) :
    IsFile e'.toSnapshotState node.inode := by
  have hnode : e'.nodes[e.nextInode]? = some node := create_node hs.listed h
  have hold : e.nodes[e.nextInode]? = none := (hs.fresh (Nat.le_refl _)).1
  have hcalled : Called env e (.createFile parent name mode) e' := by
    have hc := next_called env hs.listed (.createFile parent name mode)
    rwa [Op.next, h] at hc
  have hinode : node.inode = e.nextInode := (hs.called hcalled).inode_eq _ _ hnode
  rw [hinode]
  refine ⟨node, hnode, ?_⟩
  cases hcalled with
  | refused => cases hold.symm.trans hnode
  | logs r _ _ hr =>
    rw [logged_state] at hnode
    cases happend : env.appendErr with rw [happend] at hnode
    | some err =>
      cases hold.symm.trans hnode
    | none =>
      cases hr
      have hbumped := hs.quiet (quiet_bumped e.toSnapshotState)
      refine (applyCreate_applies hbumped.listed _).elim
        (Q := fun s => s.nodes[e.nextInode]? = some node → node.type ≠ .directory) ?_ ?_ hnode
      · intro hget
        cases hold.symm.trans hget
      · intro _ hget
        rw [created, get_insert_self] at hget
        cases hget
        simp [createdNode]
  | forgot _ _ _ hop => cases hop

end sandbox0.s0fs
