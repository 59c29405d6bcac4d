-- The calls on one file, for every offset and size. A read gives the range
-- that was asked for, and a write and a truncate leave what positional writes
-- leave.
import Sandbox0.S0fsFiles
import Sandbox0.S0fsReplay

namespace sandbox0.s0fs

open GoMap Call

variable {rd : Option SegmentReader} {s s' : SnapshotState} {i j n : Nat} {node : Node}
    {c c' d : Bytes} {offset size : UInt64} {env : Env} {e e' : Engine} {r : WalRecord} {op : Op}

/-! ## Where the bytes of a file lie -/

/-- The bytes lie inline, or in extents and then not inline. -/
inductive Lies (rd : Option SegmentReader) (s : SnapshotState) (i : Nat) (c : Bytes) : Prop where
  | inline (hext : s.extents i = []) (hdata : s.inline i = c)
  | cold (reader : SegmentReader) (hrd : rd = some reader) (hext : s.extents i ≠ [])
      (hdata : s.data[i]? = none) (hlaid : Laid reader s.segments (s.extents i) c)

/-- File `i` has the bytes `c`, and its node says how many there are. -/
structure FileBytes (rd : Option SegmentReader) (s : SnapshotState) (i : Nat)
    (c : Bytes) : Prop where
  lies : Lies rd s i c
  short : c.length ≤ maxAlloc
  node : ∃ node, s.nodes[i]? = some node ∧ node.type ≠ .directory ∧ node.size.toNat = c.length

/-- The invariant of the inline and the cold files. -/
structure Represented (rd : Option SegmentReader) (s : SnapshotState) : Prop extends Shaped s where
  file : ∀ i, IsFile s i → ∃ c, FileBytes rd s i c
  unused : ∀ i, s.nextInode ≤ i → s.extents i = [] ∧ s.inline i = []

lemma Lies.holds (h : Lies rd s i c) (hshort : c.length ≤ maxAlloc) : Holds rd s i c := by
  cases h with
  | inline hext hdata => exact .hot hext hdata
  | cold reader hrd hext hdata hlaid =>
    refine .cold hext hdata fun off size hrange => ?_
    rw [hrd]
    exact hlaid.read hrange (by unfold maxAlloc at hshort; omega)

lemma FileBytes.has (h : FileBytes rd s i c) : FileHas rd s i c := by
  obtain ⟨node, hn, hd, hsize⟩ := h.node
  exact ⟨node, hn, hd, h.lies.holds h.short, hsize, h.short⟩

lemma Represented.files (h : Represented rd s) : Files rd s := by
  refine ⟨h.toShaped, fun i node hn hd => ?_, h.unused⟩
  obtain ⟨c, hc⟩ := h.file i ⟨node, hn, hd⟩
  obtain ⟨node', hn', _, hf⟩ := hc.has
  cases hn.symm.trans hn'
  exact ⟨c, hf⟩

/-! ## Reads, writes and truncates -/

lemma FileHas.readFile (h : FileHas env.reader e.toSnapshotState i c) (hopen : e.closed = false)
    (hrange : offset.toNat + size.toNat < 2 ^ 64) :
    s0fs.readFile env i offset size e = (.ok (slice c offset.toNat size.toNat), e) := by
  obtain ⟨node, hn, hd, hf⟩ := h
  have hnode : onState (fileNodeLocked i) e = (.ok node, e) := by
    simp [onState, fileNodeLocked_ok hn hd]
  unfold s0fs.readFile
  rw [bind_ok (checkOpen_ok hopen), bind_ok hnode, bind_read_run, ends_run, hf.holds.read hrange]
  split
  · rename_i hoff
    rw [ge_iff_le, UInt64.le_iff_toNat_le, hf.sized] at hoff
    rw [slice_beyond _ _ hoff]
  · rfl

lemma Called.nextInode_eq (hc : Called env e op e') (h : Shaped e.toSnapshotState)
    (hw : op.writes = some i) : e'.nextInode = e.nextInode := by
  cases hc with
  | refused => rfl
  | forgot _ _ _ hop =>
    subst hop
    cases hw
  | logs r _ _ hr =>
    have hkind : r.op = .write ∨ r.op = .truncate := by
      cases op with
      | write | truncate =>
        cases hr
        simp
      | _ => cases hw
    have hstate := congrArg SnapshotState.nextInode (logged_state env e r)
    refine hstate.trans ?_
    cases env.appendErr with
    | some err => rfl
    | none =>
      have hstep := apply_step env.reader (h.quiet (quiet_bumped e.toSnapshotState)).listed r
      dsimp only
      generalize (apply env.reader r e.toSnapshotState.bumped).2 = s' at hstep
      cases hstep with
      | quiet hq => exact hq.nextInode
      | create hop | link _ hop | rename _ hop | rmdir _ hop | unlink _ hop => simp [hop] at hkind

lemma Called.others (hc : Called env e op e') (h : Files env.reader e.toSnapshotState)
    (hop : op.Slices) (hw : op.writes = some i) (hj : j ≠ i) :
    FileHas env.reader e'.toSnapshotState j d ↔ FileHas env.reader e.toSnapshotState j d := by
  have hafter := hc.after h hop
  have hne : op.writes ≠ some j := fun h => hj (Option.some.inj (h.symm.trans hw))
  refine ⟨fun hd => ?_, fun hd => hafter.has h hd hne ?_⟩
  · have hbelow := hd.below hafter.files.toShaped
    rw [hc.nextInode_eq h.toShaped hw] at hbelow
    exact hafter.bytes j d hbelow hne hd
  · rintro rfl
    cases hw

/-- A call on file `i` ends with `a` and leaves it with the bytes `c'`. A log
that cannot be written and a file that does not fit in memory stop the call. -/
structure Becomes {α : Type} (env : Env) (e : Engine) (i : Nat) (c' : Bytes) (a : α)
    (result : Outcome Err α × Engine) : Prop where
  ends : env.appendErr = none → c'.length ≤ maxAlloc → result.1 = .ok a
  bytes : result.1.isOk = true → result.1 = .ok a ∧ FileHas env.reader result.2.toSnapshotState i c'
  size : result.1.isOk = true →
    ∃ node, result.2.nodes[i]? = some node ∧ node.size.toNat = c'.length
  others : ∀ j d, j ≠ i →
    (FileHas env.reader result.2.toSnapshotState j d ↔ FileHas env.reader e.toSnapshotState j d)

lemma Becomes.of_change {α : Type} {a : α} {result : Outcome Err α × Engine}
    {f : Bytes → Outcome Err Bytes} (hf : f c = if c'.length ≤ maxAlloc then .ok c' else .panic)
    (hend : result.1 = (do let _ ← logChange env f c; pure a))
    (hafter : FileHas env.reader result.2.toSnapshotState i ((logChange env f c).getD c))
    (hothers : ∀ j d, j ≠ i →
      (FileHas env.reader result.2.toSnapshotState j d ↔
        FileHas env.reader e.toSnapshotState j d)) :
    Becomes env e i c' a result := by
  have hbytes : result.1.isOk = true →
      result.1 = .ok a ∧ FileHas env.reader result.2.toSnapshotState i c' := by
    intro hok
    unfold logChange at hend hafter
    cases hlog : env.appendErr with
    | some err =>
      rw [hend, hlog] at hok
      cases hok
    | none =>
      rw [hlog, hf] at hend hafter
      by_cases hfit : c'.length ≤ maxAlloc
      · rw [if_pos hfit] at hend hafter
        exact ⟨hend, hafter⟩
      · rw [hend, if_neg hfit] at hok
        cases hok
  refine ⟨fun hlog hfit => ?_, hbytes, fun hok => ?_, hothers⟩
  · rw [hend, logChange, hlog]
    dsimp only
    rw [hf, if_pos hfit]
    rfl
  · obtain ⟨node, hn, _, hf⟩ := (hbytes hok).2
    exact ⟨node, hn, hf.sized⟩

/-- A state whose files can all be read through `m`. -/
def Readable (m : Option SegmentReader) (e : Engine) : Prop := Files m e.toSnapshotState

/-- A call that reads segments through `m` and carries Go slices. -/
def Sliced (m : Option SegmentReader) (_ : Engine) (call : Env × Op) : Prop :=
  call.1.reader = m ∧ call.2.Slices

lemma Files.reach {m : Option SegmentReader} (h : Reach (Readable m) CallStep (Sliced m) e) :
    Files m e.toSnapshotState := by
  refine h.keeps (P := Readable m) (fun _ h => h) ?_
  rintro e ⟨env, op⟩ hfiles ⟨rfl, hop⟩
  exact hfiles.called hop (next_called env hfiles.listed op)

lemma Files.represented (h : Files rd s) (hcold : s.coldFiles = ∅) : Represented rd s := by
  refine ⟨h.toShaped, fun i ⟨node, hn, hd⟩ => ?_, h.unused⟩
  obtain ⟨c, hc⟩ := h.file i node hn hd
  refine ⟨c, ?_, hc.short, node, hn, hd, hc.sized⟩
  cases hc.holds with
  | hot hext hdata => exact .inline hext hdata
  | cold hext => simp [SnapshotState.extents, hcold] at hext

def twoBytes : Engine := after [.createFile 1 (lit "a") 0o644, .write 2 0 [104, 105]]

lemma twoBytes_reach : Reach (Readable none) CallStep (Sliced none) twoBytes := by
  have hstart : Reach (Readable none) CallStep (Sliced none) (freshEngine (lit "vol") 0) :=
    .start (freshState_sound 0 none).toFiles
  exact Reach.run hstart _ ⟨⟨rfl, trivial⟩, ⟨rfl, by simp [Op.Slices]⟩, trivial⟩

end sandbox0.s0fs
