-- Two states that hold the same volume: one of them may have dropped nodes
-- without links, and a file may lie inline in one and in segments in the
-- other. A record that one of them takes does the same to both.
import Sandbox0.S0fsMaterialized

namespace sandbox0.s0fs

open GoMap Nat

/-! ## What a record that succeeds does -/

def attrChange (r : WalRecord) : Option (Node → Node) :=
  match r.op with
  | .chmod => some fun node => { node with mode := r.mode, ctime := r.timeUnix }
  | .chown => some fun node =>
    { node with uid := r.mode, gid := r.offset.toUInt32, ctime := r.timeUnix }
  | _ => none

def bytesChange (r : WalRecord) : Option (Bytes → Outcome Err Bytes) :=
  match r.op with
  | .write => some (writtenBytes r)
  | .truncate => some (truncatedBytes r)
  | _ => none

inductive Effect (m : Option SegmentReader) (s : SnapshotState) (r : WalRecord) :
    SnapshotState → Prop where
  | create (hop : r.op = .create) (hi : r.inode = s.nextInode) (hname : r.name ≠ [])
      (hp : IsDir s r.parent) (hc : s.child r.parent r.name = none) : Effect m s r (created s r)
  | link (node : Node) (hop : r.op = .link) (hname : r.newName ≠ [])
      (hn : s.nodes[r.inode]? = some node) (hd : node.type ≠ .directory) (hp : IsDir s r.newParent)
      (hc : s.child r.newParent r.newName = none) (hfit : node.nlink.toNat + 1 < 2 ^ 32) :
      Effect m s r (linked s r node)
  | rename (inode : Nat) (hop : r.op = .rename) (hi : r.inode = 0) (hp : IsDir s r.parent)
      (hc : s.child r.parent r.name = some inode) (hnp : IsDir s r.newParent) :
      Effect m s r (renamed s r inode)
  | rmdir (inode : Nat) (hop : r.op = .rmdir) (hi : r.inode = 0) (hp : IsDir s r.parent)
      (hc : s.child r.parent r.name = some inode) (hd : IsDir s inode)
      (he : s.hasEntries inode = false) : Effect m s r (dirRemoved s r inode)
  | unlink (inode : Nat) (hop : r.op = .unlink) (hi : r.inode = 0) (hp : IsDir s r.parent)
      (hc : s.child r.parent r.name = some inode) (hd : ¬ IsDir s inode) :
      Effect m s r (nameRemoved s r inode)
  | attr (node : Node) (f : Node → Node) (hf : attrChange r = some f)
      (hn : s.nodes[r.inode]? = some node) :
      Effect m s r { s with nodes := s.nodes.insert r.inode (f node) }
  | store (node : Node) (f : Bytes → Outcome Err Bytes) (c c' : Bytes) (hf : bytesChange r = some f)
      (hn : s.nodes[r.inode]? = some node) (hd : node.type ≠ .directory)
      (hc : contents m s node r.inode = .ok c) (hc' : f c = .ok c')
        (hshort : c'.length ≤ maxAlloc) :
      Effect m s r (stored (hydrated s r.inode c) r node c')

variable {s s' : SnapshotState} {r : WalRecord} {rd rd' : Option SegmentReader} {i : Nat}
    {c : Bytes} {f : Bytes → Outcome Err Bytes}

lemma IsDir.ne_zero (h : Shaped s) {p : Nat} (hp : IsDir s p) : p ≠ 0 := by
  rintro rfl
  obtain ⟨node, hn, _⟩ := hp
  cases h.zero.symm.trans hn

lemma apply_change (rd : Option SegmentReader) (hf : bytesChange r = some f) :
    apply rd r = change rd r f := by
  unfold bytesChange at hf
  unfold apply
  split at hf <;> cases hf
  · rename_i hop
    rw [hop]
    rfl
  · rename_i hop
    rw [hop]
    rfl

lemma Effect.run {m : Option SegmentReader} (h : Shaped s) (he : Effect m s r s') :
    apply m r s = (.ok (), s') := by
  have hnode0 : ∀ node, s.nodes[r.inode]? = some node → r.inode ≠ 0 := by
    intro node hn h0
    rw [h0, h.zero] at hn
    cases hn
  cases he with
  | create hop hi hname hp hc =>
    have hpos := h.nextInode_pos
    rw [apply, hop]
    apply (applyCreate_applies h.listed r).ok
    refine ⟨?_, hp, hc⟩
    rintro (h0 | h0 | h0)
    · omega
    · exact hp.ne_zero h h0
    · exact hname h0
  | link node hop hname hn hd hp hc _ =>
    rw [apply, hop]
    apply (applyLink_applies h.listed r hn).ok
    refine ⟨?_, hd, hp, hc⟩
    rintro (h0 | h0 | h0)
    · exact hnode0 node hn h0
    · exact hp.ne_zero h h0
    · exact hname h0
  | rename inode hop _ hp hc hnp =>
    rw [apply, hop]
    exact (applyRename_applies h.listed r hc).ok ⟨hp, hnp⟩
  | rmdir inode hop _ hp hc hd he =>
    obtain ⟨node, hn, ht⟩ := hd
    rw [apply, hop]
    exact (applyRemoveDir_applies h.listed r hc hn).ok ⟨hp, not_not.mpr ht, he⟩
  | unlink inode hop _ hp hc hd =>
    rw [apply, hop]
    exact (applyUnlink_applies h.listed r hc).ok ⟨hp, hd⟩
  | attr node f hf hn =>
    unfold attrChange at hf
    split at hf
    · rename_i hop
      cases hf
      rw [apply, hop]
      simp only [applySetMode, Call.bind_read_run, hn]
      rfl
    · rename_i hop
      cases hf
      rw [apply, hop]
      simp only [applySetOwner, Call.bind_read_run, hn]
      rfl
    · cases hf
  | store node f c c' hf hn hd hc hc' _ =>
    have hrun : change m r f s = (.ok (), stored (hydrated s r.inode c) r node c') := by
      rw [change_run m r f hn hd, hc]
      simp only [hc']
    rw [apply_change m hf]
    exact hrun

lemma WF.effect {m : Option SegmentReader} (h : WF s) (he : Effect m s r s') : WF s' := by
  have hstep := apply_step m h.listed r
  rw [he.run h.toShaped] at hstep
  refine h.step ?_ ?_ hstep
  · intro hop
    cases he with
    | create _ hi => exact hi.ge
    | attr node f hf hn => simp [attrChange, hop] at hf
    | store node f c c' hf => simp [bytesChange, hop] at hf
    | _ => simp_all
  · intro hop node hn
    cases he with
    | link node' _ _ hn' _ _ _ hfit =>
      rw [hn] at hn'
      cases hn'
      exact hfit
    | attr node f hf hn => simp [attrChange, hop] at hf
    | store node f c c' hf => simp [bytesChange, hop] at hf
    | _ => simp_all

/-! ## The bytes of a file -/

/-- File `i` of `s` holds the bytes `c`: inline, or in segments that read as them. -/
inductive Holds (rd : Option SegmentReader) (s : SnapshotState) (i : Nat) (c : Bytes) : Prop where
  | hot (hext : s.extents i = []) (hdata : s.inline i = c)
  | cold (hext : s.extents i ≠ []) (hdata : s.data[i]? = none)
      (hread : ∀ off size : UInt64, off.toNat + size.toNat < 2 ^ 64 →
        readColdRangeLocked rd s i off size = .ok (slice c off.toNat size.toNat))

/-- The maps of the contents of two states are the same. -/
structure SameFiles (s s' : SnapshotState) : Prop where
  data : s'.data = s.data
  coldFiles : s'.coldFiles = s.coldFiles
  segments : s'.segments = s.segments

open SnapshotState

/-- What a file holds depends on its own entries and on the segments. -/
lemma Holds.congr (h : Holds rd s i c) (hdata : s'.data[i]? = s.data[i]?)
    (hcold : s'.coldFiles[i]? = s.coldFiles[i]?) (hsegs : s'.segments = s.segments) :
    Holds rd s' i c := by
  have hinline : s'.inline i = s.inline i := by rw [SnapshotState.inline, hdata]; rfl
  have hextents : s'.extents i = s.extents i := by rw [extents, hcold]; rfl
  cases h with
  | hot hext hc => exact .hot (hextents.trans hext) (hinline.trans hc)
  | cold hext hnone hread =>
    refine .cold (by rw [hextents]; exact hext) (hdata.trans hnone) ?_
    intro off size hrange
    rw [← hread off size hrange]
    unfold readColdRangeLocked
    rw [hextents, hsegs]

lemma Holds.sameFiles (h : Holds rd s i c) (hs : SameFiles s s') : Holds rd s' i c :=
  h.congr (by rw [hs.data]) (by rw [hs.coldFiles]) hs.segments

lemma Holds.notHot (hext : s.extents i ≠ []) (hdata : s.data[i]? = none) : s.isHot i = false := by
  simp [SnapshotState.isHot, SnapshotState.inline, hdata, hext]

lemma Holds.contents {node : Node} (h : Holds rd s i c) (hsize : node.size.toNat = c.length) :
    contents rd s node i = .ok c := by
  unfold s0fs.contents
  cases h with
  | hot hext hc =>
    rw [if_pos (by simp [isHot, hext]), hc]
  | cold hext hnone hread =>
    have hlt := node.size.toNat_lt
    rw [Holds.notHot hext hnone, if_neg Bool.false_ne_true,
      hread 0 node.size (by simpa using hlt), hsize]
    simp [slice]

lemma Holds.read {node : Node} {off size : UInt64} (h : Holds rd s i c)
    (hrange : off.toNat + size.toNat < 2 ^ 64) : readFileLocked rd s node i off size =
      .ok (if off ≥ node.size then [] else slice c off.toNat size.toNat) := by
  cases h with
  | hot hext hc => rw [readFileLocked_hot (by simp [isHot, hext]) hrange, hc]
  | cold hext hnone hread =>
    unfold readFileLocked
    by_cases hsize : off ≥ node.size
    · rw [if_pos hsize, if_pos hsize]
    · rw [if_neg hsize, if_neg hsize, Holds.notHot hext hnone, if_neg Bool.false_ne_true,
        hread off size hrange]

lemma Holds.stored {node : Node} (h : Holds rd s r.inode c) (c' : Bytes) :
    Holds rd (stored (hydrated s r.inode c) r node c') r.inode c' := by
  refine .hot ?_ (by simp [SnapshotState.inline, s0fs.stored])
  cases h with
  | hot hext hc =>
    have hhot : hydrated s r.inode c = s := by
      rw [hydrated, if_pos (by simp [SnapshotState.isHot, hext])]
    rw [hhot]
    exact hext
  | cold hext hnone hread =>
    rw [hydrated, Holds.notHot hext hnone, if_neg Bool.false_ne_true]
    simp [SnapshotState.extents, s0fs.stored]

lemma stored_other (s : SnapshotState) (node : Node) (c c' : Bytes) (hi : r.inode ≠ i) :
    (stored (hydrated s r.inode c) r node c').data[i]? = s.data[i]? ∧
      (stored (hydrated s r.inode c) r node c').coldFiles[i]? = s.coldFiles[i]? ∧
      (stored (hydrated s r.inode c) r node c').nodes[i]? = s.nodes[i]? := by
  unfold stored hydrated
  split
  · simp only [get_insert_ne _ _ hi, and_self]
  · simp only [get_insert_ne _ _ hi, get_erase_ne _ hi, and_self]

lemma stored_segments (s : SnapshotState) (r : WalRecord) (node : Node) (c c' : Bytes) :
    (stored (hydrated s r.inode c) r node c').segments = s.segments := by
  unfold stored hydrated
  split <;> rfl

/-! ## Two states of one volume -/

/-- A file with its node: it holds as many bytes as the node says. -/
structure FileIs (rd : Option SegmentReader) (s : SnapshotState) (i : Nat) (node : Node)
    (c : Bytes) : Prop where
  holds : Holds rd s i c
  sized : node.size.toNat = c.length
  short : c.length ≤ maxAlloc

/-- The state `l` holds the volume of `r`, without some of the nodes that
have no links. -/
structure Agree (rd rd' : Option SegmentReader) (l r : SnapshotState) : Prop where
  wf : WF r
  children : l.children = r.children
  nextInode : l.nextInode = r.nextInode
  nodes : ∀ i : Nat, l.nodes[i]? = r.nodes[i]? ∨ (l.nodes[i]? = none ∧ Dead r i)
  files : ∀ (i : Nat) node, l.nodes[i]? = some node → node.type ≠ .directory →
    ∃ c, FileIs rd l i node c ∧ FileIs rd' r i node c
  unused : ∀ i, r.nextInode ≤ i → (l.extents i = [] ∧ l.inline i = []) ∧ r.extents i = [] ∧
    r.inline i = []

namespace Agree

variable {rd rd' : Option SegmentReader} {l r : SnapshotState}

variable {i : Nat} {l' : SnapshotState} {rec : WalRecord}

/-- A node that a record changes, creates or removes in both states. The
size of a file stays, or is zero for a new file. -/
def Renoded (l : SnapshotState) (nodes nodes' : GoMap Nat Node) (i : Nat) : Prop :=
  nodes[i]? = nodes'[i]? ∧ ∀ node', nodes[i]? = some node' → node'.type ≠ .directory →
    (∃ node, l.nodes[i]? = some node ∧ node.type ≠ .directory ∧ node.size = node'.size) ∨
      (l.nextInode ≤ i ∧ node'.size = 0)

lemma renoded_insert {j : Nat} {node' : Node} (hold : node'.type ≠ .directory →
      (∃ node, l.nodes[j]? = some node ∧ node.type ≠ .directory ∧ node.size = node'.size) ∨
        (l.nextInode ≤ j ∧ node'.size = 0)) (i : Nat) :
    ((l.nodes.insert j node')[i]? = l.nodes[i]? ∧ (r.nodes.insert j node')[i]? = r.nodes[i]?) ∨
      Renoded l (l.nodes.insert j node') (r.nodes.insert j node') i := by
  by_cases hj : j = i
  · subst hj
    refine .inr ⟨by rw [get_insert_self, get_insert_self], ?_⟩
    intro node hn ht
    rw [get_insert_self, Option.some.injEq] at hn
    subst hn
    exact hold ht
  · exact .inl ⟨get_insert_ne _ _ hj, get_insert_ne _ _ hj⟩

lemma attrChange_keeps {f : Node → Node} (hf : attrChange rec = some f) (node : Node) :
    (f node).type = node.type ∧ (f node).size = node.size := by
  unfold attrChange at hf
  split at hf
  · cases hf
    exact ⟨rfl, rfl⟩
  · cases hf
    exact ⟨rfl, rfl⟩
  · cases hf

section

variable (h : Agree rd rd' l r)

include h

lemma node {node : Node} (hn : l.nodes[i]? = some node) : r.nodes[i]? = some node := by
  rcases h.nodes i with heq | ⟨hnone, _⟩
  · rw [← heq, hn]
  · rw [hnone] at hn
    cases hn

lemma child (p : Nat) (n : GoString) : l.child p n = r.child p n := by
  rw [child_eq, child_eq, h.children]

lemma isDir (i : Nat) : IsDir l i ↔ IsDir r i := by
  constructor
  · rintro ⟨node, hn, ht⟩
    exact ⟨node, h.node hn, ht⟩
  · intro hd
    rcases h.nodes i with heq | ⟨_, hdead⟩
    · obtain ⟨node, hn, ht⟩ := hd
      exact ⟨node, heq.trans hn, ht⟩
    · exact absurd hd (h.wf.dead_file hdead)

/-- An inode with a name has the same node in both. -/
lemma named {p : Nat} {n : GoString} (hc : r.child p n = some i) : l.nodes[i]? = r.nodes[i]? := by
  rcases h.nodes i with heq | ⟨_, hdead⟩
  · exact heq
  · exact absurd hc (h.wf.dead_unnamed hdead p n)

lemma wf_left : WF l := by
  have hgone : ∀ i, (l.nodes[i]? = none ∧ Dead r i) → Dead r i := fun _ hg => hg.2
  refine h.wf.without_dead hgone (h.wf.toShaped.without_dead hgone ?_ h.children h.nextInode)
  intro i node
  rcases h.nodes i with heq | ⟨hnone, hdead⟩
  · rw [heq]
    refine ⟨fun hn => ⟨?_, hn⟩, fun hn => hn.2⟩
    rintro ⟨hnone, _⟩
    rw [hn] at hnone
    cases hnone
  · simp [hnone, hdead]

lemma relink {r' : SnapshotState} (he : Effect rd' r rec r') (hkids : l'.children = r'.children)
    (hnext : l'.nextInode = r'.nextInode) (hle : r.nextInode ≤ r'.nextInode)
    (hnodes : ∀ i : Nat, (l'.nodes[i]? = l.nodes[i]? ∧ r'.nodes[i]? = r.nodes[i]?) ∨
      Renoded l l'.nodes r'.nodes i)
    (hl : SameFiles l l' := by exact ⟨rfl, rfl, rfl⟩)
    (hr : SameFiles r r' := by exact ⟨rfl, rfl, rfl⟩) :
    ∃ r', Effect rd' r rec r' ∧ Agree rd rd' l' r' := by
  refine ⟨r', he, h.wf.effect he, hkids, hnext, ?_, ?_, ?_⟩
  · intro i
    rcases hnodes i with ⟨hl', hr'⟩ | ⟨heq, _⟩
    · unfold Dead
      rw [hl', hr']
      exact h.nodes i
    · exact .inl heq
  · intro i node' hn' ht'
    have hfile : ∃ c, (Holds rd l i c ∧ Holds rd' r i c) ∧ node'.size.toNat = c.length ∧
        c.length ≤ maxAlloc := by
      rcases hnodes i with ⟨hl', _⟩ | ⟨_, hold⟩
      · rw [hl'] at hn'
        obtain ⟨c, hc, hc'⟩ := h.files i node' hn' ht'
        exact ⟨c, ⟨hc.holds, hc'.holds⟩, hc.sized, hc.short⟩
      rcases hold node' hn' ht' with ⟨node, hn, ht, hsize⟩ | ⟨hfresh, hsize⟩
      · obtain ⟨c, hc, hc'⟩ := h.files i node hn ht
        exact ⟨c, ⟨hc.holds, hc'.holds⟩, by rw [← hsize]; exact hc.sized, hc.short⟩
      · rw [h.nextInode] at hfresh
        obtain ⟨⟨hle1, hli⟩, hre, hri⟩ := h.unused i hfresh
        exact ⟨[], ⟨.hot hle1 hli, .hot hre hri⟩, by rw [hsize]; rfl, zero_le _⟩
    obtain ⟨c, ⟨hcl, hcr⟩, hsize, hshort⟩ := hfile
    exact ⟨c, ⟨hcl.sameFiles hl, hsize, hshort⟩, ⟨hcr.sameFiles hr, hsize, hshort⟩⟩
  · intro i hi
    have hold := h.unused i (hle.trans hi)
    unfold extents SnapshotState.inline at hold ⊢
    rw [hl.data, hl.coldFiles, hr.data, hr.coldFiles]
    exact hold

lemma store {node : Node} {c c' : Bytes} (hn : l.nodes[rec.inode]? = some node)
    (hl : FileIs rd l rec.inode node c) (hr : FileIs rd' r rec.inode node c)
    (hshort : c'.length ≤ maxAlloc) (hwf : WF (stored (hydrated r rec.inode c) rec node c')) :
    Agree rd rd' (stored (hydrated l rec.inode c) rec node c')
      (stored (hydrated r rec.inode c) rec node c') := by
  have hself : ∀ s : SnapshotState,
    (stored (hydrated s rec.inode c) rec node c').nodes[rec.inode]? =
      some (storedNode rec node c') := by
    intro s
    simp [stored]
  refine ⟨hwf, by simpa [stored] using h.children, by simpa [stored] using h.nextInode, ?_, ?_, ?_⟩
  · intro i
    by_cases hi : rec.inode = i
    · subst hi
      exact .inl ((hself l).trans (hself r).symm)
    · unfold Dead
      rw [(stored_other l node c c' hi).2.2, (stored_other r node c c' hi).2.2]
      exact h.nodes i
  · intro i node' hn' ht'
    by_cases hi : rec.inode = i
    · subst hi
      rw [hself l, Option.some.injEq] at hn'
      subst hn'
      have hsize : (storedNode rec node c').size.toNat = c'.length := by
        unfold maxAlloc at hshort
        exact toNat_ofNat_small (by omega)
      exact ⟨c', ⟨hl.holds.stored c', hsize, hshort⟩, ⟨hr.holds.stored c', hsize, hshort⟩⟩
    · obtain ⟨hdl, hcl, hnl⟩ := stored_other l node c c' hi
      obtain ⟨hdr, hcr, _⟩ := stored_other r node c c' hi
      rw [hnl] at hn'
      obtain ⟨b, hbl, hbr⟩ := h.files i node' hn' ht'
      exact ⟨b, ⟨hbl.holds.congr hdl hcl (stored_segments _ _ _ _ _), hbl.sized, hbl.short⟩,
        ⟨hbr.holds.congr hdr hcr (stored_segments _ _ _ _ _), hbr.sized, hbr.short⟩⟩
  · intro i hi
    have hne : rec.inode ≠ i := by
      have hbelow := h.wf.below rec.inode node (h.node hn)
      have hi' : r.nextInode ≤ i := by simpa [stored] using hi
      omega
    obtain ⟨hdl, hcl, _⟩ := stored_other l node c c' hne
    obtain ⟨hdr, hcr, _⟩ := stored_other r node c c' hne
    have hold := h.unused i (by simpa [stored] using hi)
    unfold extents SnapshotState.inline at hold ⊢
    rw [hdl, hcl, hdr, hcr]
    exact hold

lemma effect (he : Effect rd l rec l') : ∃ r', Effect rd' r rec r' ∧ Agree rd rd' l' r' := by
  cases he with
  | create hop hi hname hp hc =>
    have he' : Effect rd' r rec (created r rec) := .create hop (hi.trans h.nextInode) hname
      ((h.isDir _).mp hp) ((h.child _ _).symm.trans hc)
    refine h.relink he' ?_ ?_ ?_ ?_
    · simp only [created, h.children]
    · simp only [created, h.nextInode]
    · simp only [created]
      split <;> omega
    · exact renoded_insert fun _ => .inr ⟨hi.ge, rfl⟩
  | link node hop hname hn hd hp hc hfit =>
    have he' : Effect rd' r rec (linked r rec node) := .link node hop hname (h.node hn) hd
      ((h.isDir _).mp hp) ((h.child _ _).symm.trans hc) hfit
    refine h.relink he' ?_ h.nextInode le_rfl ?_
    · simp only [linked, h.children]
    · exact renoded_insert fun _ => .inl ⟨node, hn, hd, rfl⟩
  | rename inode hop hi hp hc hnp =>
    rw [h.child] at hc
    have he' : Effect rd' r rec (renamed r rec inode) :=
      .rename inode hop hi ((h.isDir _).mp hp) hc ((h.isDir _).mp hnp)
    refine h.relink he' ?_ h.nextInode le_rfl ?_
    · simp only [renamed, h.children]
    · obtain ⟨node, hn⟩ := h.wf.entry _ _ _ hc
      have hnl := (h.named hc).trans hn
      simp only [renamed, touched, hn, hnl]
      exact renoded_insert fun ht => .inl ⟨node, hnl, ht, rfl⟩
  | rmdir inode hop hi hp hc hd hempty =>
    rw [h.child] at hc
    have hempty' : r.hasEntries inode = false := by
      rw [hasEntries, ← h.children]
      exact hempty
    have he' : Effect rd' r rec (dirRemoved r rec inode) :=
      .rmdir inode hop hi ((h.isDir _).mp hp) hc ((h.isDir _).mp hd) hempty'
    refine h.relink he' ?_ h.nextInode le_rfl ?_
    · simp only [dirRemoved, h.children]
    · intro i
      simp only [dirRemoved]
      by_cases hi : inode = i
      · subst hi
        exact .inr ⟨by simp, by simp⟩
      · exact .inl ⟨get_erase_ne _ hi, get_erase_ne _ hi⟩
  | unlink inode hop hi hp hc hd =>
    rw [h.child] at hc
    have hd' : ¬ IsDir r inode := fun hdir => hd ((h.isDir _).mpr hdir)
    have he' : Effect rd' r rec (nameRemoved r rec inode) :=
      .unlink inode hop hi ((h.isDir _).mp hp) hc hd'
    refine h.relink he' ?_ h.nextInode le_rfl ?_
    · simp only [nameRemoved, h.children]
    · obtain ⟨node, hn, ht, hpos⟩ := h.wf.named_file hc hd'
      have hnl := (h.named hc).trans hn
      have hlt : node.nlink > 0 := UInt32.lt_iff_toNat_lt.mpr hpos
      simp only [nameRemoved, lessLinked, hn, hnl, hlt, if_true]
      exact renoded_insert fun ht => .inl ⟨node, hnl, ht, rfl⟩
  | attr node f hf hn =>
    have he' : Effect rd' r rec { r with nodes := r.nodes.insert rec.inode (f node) } :=
      .attr node f hf (h.node hn)
    refine h.relink he' h.children h.nextInode le_rfl ?_
    obtain ⟨htype, hsize⟩ := attrChange_keeps hf node
    exact renoded_insert fun ht => .inl ⟨node, hn, by rw [← htype]; exact ht, hsize.symm⟩
  | store node f c c' hf hn hd hc hc' hshort =>
    obtain ⟨b, hbl, hbr⟩ := h.files _ node hn hd
    rw [hbl.holds.contents hbl.sized] at hc
    cases hc
    have he' : Effect rd' r rec (stored (hydrated r rec.inode c) rec node c') :=
      .store node f c c' hf (h.node hn) hd (hbr.holds.contents hbr.sized) hc' hshort
    exact ⟨_, he', h.store hn hbl hbr hshort (h.wf.effect he')⟩

lemma drop (hkids : l'.children = l.children) (hnext : l'.nextInode = l.nextInode)
    (hsegs : l'.segments = l.segments)
    (hnodes : ∀ i : Nat, (l'.nodes[i]? = l.nodes[i]? ∧ l'.data[i]? = l.data[i]? ∧
      l'.coldFiles[i]? = l.coldFiles[i]?) ∨ (l'.nodes[i]? = none ∧ Dead l i)) :
    Agree rd rd' l' r := by
  have hdead : ∀ i, Dead l i → Dead r i := fun i ⟨node, hn, hz⟩ => ⟨node, h.node hn, hz⟩
  refine ⟨h.wf, hkids.trans h.children, hnext.trans h.nextInode, ?_, ?_, ?_⟩
  · intro i
    rcases hnodes i with ⟨hn, _⟩ | ⟨hn, hd⟩
    · rw [hn]
      exact h.nodes i
    · exact .inr ⟨hn, hdead i hd⟩
  · intro i node hn' ht
    rcases hnodes i with ⟨hn, hdata, hcold⟩ | ⟨hn, _⟩
    · rw [hn] at hn'
      obtain ⟨c, hcl, hcr⟩ := h.files i node hn' ht
      exact ⟨c, ⟨hcl.holds.congr hdata hcold hsegs, hcl.sized, hcl.short⟩, hcr⟩
    · rw [hn] at hn'
      cases hn'
  · intro i hi
    have hold := h.unused i hi
    rcases hnodes i with ⟨_, hdata, hcold⟩ | ⟨_, hd⟩
    · unfold extents SnapshotState.inline at hold ⊢
      rw [hdata, hcold]
      exact hold
    · obtain ⟨node, hn, _⟩ := hdead i hd
      have := h.wf.below i node hn
      omega

lemma collected : Agree rd rd' (collectUnlinkedLocked l) r := by
  refine h.drop h.wf_left.collect_children rfl rfl ?_
  intro i
  simp only [collectUnlinkedLocked, get_deleteKeys]
  split
  · rename_i hi
    exact .inr ⟨rfl, ((mem_unlinked l i).mp hi).2⟩
  · exact .inl ⟨rfl, rfl, rfl⟩

end

lemma forgotten {e : Engine} (h : Agree rd rd' e.toSnapshotState r)
    (hd : Dead e.toSnapshotState i) : Agree rd rd' (s0fs.forgotten e i).toSnapshotState r := by
  refine h.drop (h.wf_left.forgotten_children hd) rfl rfl ?_
  intro j
  by_cases hj : i = j
  · subst hj
    exact .inr ⟨get_erase_self _ _, hd⟩
  · exact .inl ⟨get_erase_ne _ hj, get_erase_ne _ hj, rfl⟩

end Agree

/-- Every file of a state can be read, and no inode that is still to come has contents. -/
structure Sound (rd : Option SegmentReader) (s : SnapshotState) : Prop where
  wf : WF s
  files : ∀ (i : Nat) node, s.nodes[i]? = some node → node.type ≠ .directory →
    ∃ c, FileIs rd s i node c
  unused : ∀ i, s.nextInode ≤ i → s.extents i = [] ∧ s.inline i = []

lemma Sound.agree (h : Sound rd s) : Agree rd rd s s := by
  refine ⟨h.wf, rfl, rfl, fun _ => .inl rfl, ?_, fun i hi => ⟨h.unused i hi, h.unused i hi⟩⟩
  intro i node hn ht
  obtain ⟨c, hc⟩ := h.files i node hn ht
  exact ⟨c, hc, hc⟩

lemma Agree.sound {l r : SnapshotState} (h : Agree rd rd' l r) : Sound rd l := by
  refine ⟨h.wf_left, ?_, fun i hi => (h.unused i (by rw [← h.nextInode]; exact hi)).1⟩
  intro i node hn ht
  obtain ⟨c, hc, _⟩ := h.files i node hn ht
  exact ⟨c, hc⟩

lemma freshState_sound (now : Int) (rd : Option SegmentReader) : Sound rd (freshState now) := by
  refine ⟨freshState_wf now, ?_, ?_⟩
  · intro i node hn ht
    obtain ⟨_, rfl⟩ := freshState_nodes hn
    exact absurd rfl ht
  · intro i _
    simp [SnapshotState.extents, SnapshotState.inline, freshState]

/-! ## The same volume -/

/-- Two states hold the same volume: the same nodes, entries and contents,
once the nodes without links are dropped. -/
structure SameVolume (rd rd' : Option SegmentReader) (s t : SnapshotState) : Prop where
  nodes : (collectUnlinkedLocked s).nodes = (collectUnlinkedLocked t).nodes
  children : (collectUnlinkedLocked s).children = (collectUnlinkedLocked t).children
  nextInode : s.nextInode = t.nextInode
  reads : ∀ (i : Nat) node off size, (collectUnlinkedLocked s).nodes[i]? = some node →
    node.type ≠ .directory → off.toNat + size.toNat < 2 ^ 64 →
    readFileLocked rd s node i off size = readFileLocked rd' t node i off size

lemma SameVolume.symm {t : SnapshotState} (h : SameVolume rd rd' s t) : SameVolume rd' rd t s := by
  refine ⟨h.nodes.symm, h.children.symm, h.nextInode.symm, ?_⟩
  intro i node off size hn ht hrange
  rw [← h.nodes] at hn
  exact (h.reads i node off size hn ht hrange).symm

lemma SameVolume.trans {rd'' : Option SegmentReader} {t u : SnapshotState}
    (h : SameVolume rd rd' s t) (h' : SameVolume rd' rd'' t u) : SameVolume rd rd'' s u := by
  refine ⟨h.nodes.trans h'.nodes, h.children.trans h'.children, h.nextInode.trans h'.nextInode, ?_⟩
  intro i node off size hn ht hrange
  rw [h.reads i node off size hn ht hrange]
  rw [h.nodes] at hn
  exact h'.reads i node off size hn ht hrange

lemma Agree.sameVolume {l r : SnapshotState} (h : Agree rd rd' l r) : SameVolume rd rd' l r := by
  have hwf := h.wf_left
  refine ⟨?_, ?_, h.nextInode, ?_⟩
  · apply eq_of_get
    intro i
    apply Option.ext
    intro node
    rw [hwf.collect_nodes, h.wf.collect_nodes]
    constructor
    · rintro ⟨hlive, hn⟩
      refine ⟨?_, h.node hn⟩
      rintro ⟨node', hn', hz⟩
      rw [h.node hn] at hn'
      cases hn'
      exact hlive ⟨node, hn, hz⟩
    · rintro ⟨hlive, hn⟩
      rcases h.nodes i with heq | ⟨_, hdead⟩
      · refine ⟨?_, heq.trans hn⟩
        rintro ⟨node', hn', hz⟩
        exact hlive ⟨node', heq.symm.trans hn', hz⟩
      · exact absurd hdead hlive
  · rw [hwf.collect_children, h.wf.collect_children, h.children]
  · intro i node off size hn ht hrange
    obtain ⟨c, hcl, hcr⟩ := h.files i node ((hwf.collect_nodes i node).mp hn).2 ht
    rw [hcl.holds.read hrange, hcr.holds.read hrange]

/-- To drop the nodes without links changes nothing else. -/
lemma collect_sameVolume (rd : Option SegmentReader) (h : WF s) :
    SameVolume rd rd (collectUnlinkedLocked s) s := by
  have hagain : (collectUnlinkedLocked s).unlinked = [] := by
    apply List.eq_nil_iff_forall_not_mem.mpr
    intro i hi
    obtain ⟨_, node, hn, hz⟩ := (mem_unlinked _ i).mp hi
    obtain ⟨hlive, hn'⟩ := (h.collect_nodes i node).mp hn
    exact hlive ⟨node, hn', hz⟩
  have hidem : collectUnlinkedLocked (collectUnlinkedLocked s) = collectUnlinkedLocked s := by
    rw [collectUnlinkedLocked, hagain]
    rfl
  refine ⟨by rw [hidem], by rw [hidem], rfl, ?_⟩
  intro i node off size hn _ _
  rw [hidem] at hn
  have hkept : i ∉ s.unlinked := by
    intro hi
    exact ((h.collect_nodes i node).mp hn).1 ((mem_unlinked s i).mp hi).2
  have hinline : (collectUnlinkedLocked s).inline i = s.inline i := by
    simp [SnapshotState.inline, collectUnlinkedLocked, get_deleteKeys, hkept]
  have hextents : (collectUnlinkedLocked s).extents i = s.extents i := by
    simp [SnapshotState.extents, collectUnlinkedLocked, get_deleteKeys, hkept]
  unfold readFileLocked SnapshotState.isHot readColdRangeLocked
  rw [hinline, hextents]
  rfl

/-! ## The record of a call -/

/-- A write or a truncate that stays below the longest slice. -/
def Op.InRange : Op → Prop
  | .write _ offset payload => offset.toNat + payload.length ≤ maxAlloc
  | .truncate _ size => size.toNat ≤ maxAlloc
  | _ => True

instance (op : Op) : Decidable op.InRange := by
  unfold Op.InRange
  split <;> infer_instance

lemma growBytes_run {n : Nat} (hc : c.length ≤ maxAlloc) :
    growBytes n c = if n ≤ maxAlloc then .ok (extended n c) else .panic := by
  unfold growBytes makeBytes extended
  by_cases hn : n > c.length
  · rw [if_pos hn, if_pos hn]
    split
    · have htake : c.take n = c := List.take_of_length_le (by omega)
      simp [copyBytes, htake, bind, pure]
    · rfl
  · rw [if_neg hn, if_neg hn, if_pos (by omega)]

/-- A write overlays its bytes, unless its end lies behind the longest slice.
An end that wraps lies before the offset. -/
lemma writtenBytes_run (hc : c.length ≤ maxAlloc) (hdata : r.data.length < 2 ^ 64) :
    writtenBytes r c = if r.offset.toNat + r.data.length ≤ maxAlloc
      then .ok (overlaid r.offset.toNat r.data c) else .panic := by
  have hlt := r.offset.toNat_lt
  unfold writtenBytes
  rw [UInt64.toNat_add, UInt64.toNat_ofNat_of_lt' hdata]
  rcases lt_or_ge (r.offset.toNat + r.data.length) (2 ^ 64) with hfit | hwrap
  · simp only [mod_eq_of_lt hfit, growBytes_run hc]
    split
    · have hslice : sliceBytes (extended (r.offset.toNat + r.data.length) c) r.offset.toNat
          (r.offset.toNat + r.data.length) = .ok _ :=
            if_pos ⟨by omega, by rw [length_extended]; omega⟩
      simp only [bind, hslice]
      rfl
    · rfl
  · have hstop : (r.offset.toNat + r.data.length) % 2 ^ 64 < r.offset.toNat := by
      rw [mod_eq_sub_mod hwrap, mod_eq_of_lt (by omega)]
      omega
    rw [if_neg (by unfold maxAlloc; omega)]
    simp only [growBytes_run hc]
    split
    · have hslice : ∀ b, sliceBytes b r.offset.toNat ((r.offset.toNat + r.data.length) % 2 ^ 64) =
          .panic := fun b => if_neg (by omega)
      simp only [bind, hslice]
    · rfl

lemma truncatedBytes_run (hc : c.length ≤ maxAlloc) :
    truncatedBytes r c = if r.offset.toNat ≤ maxAlloc
      then .ok (resized r.offset.toNat c) else .panic := by
  have hlt := r.offset.toNat_lt
  unfold truncatedBytes resized int64
  by_cases hpos : r.offset.toNat < 2 ^ 63
  · simp only [if_pos hpos, cast_lt, Int.toNat_natCast]
    by_cases hshort : r.offset.toNat < c.length
    · rw [if_pos hshort, if_pos hshort, if_neg (by omega), if_pos (by omega)]
    · rw [if_neg hshort, if_neg hshort, growBytes_run hc]
  · simp only [if_neg hpos]
    rw [if_pos (by omega), if_pos (by omega), if_neg (by unfold maxAlloc; omega)]
/-- A file whose contents can be read takes a change that succeeds on every slice. -/
lemma Sound.store (hs : Sound rd s) (hfile : IsFile s r.inode) (hf : bytesChange r = some f)
    (hok : ∀ c : Bytes, c.length ≤ maxAlloc → ∃ c', f c = .ok c' ∧ c'.length ≤ maxAlloc) :
    ∃ s', Effect rd s r s' := by
  obtain ⟨node, hn, hd⟩ := hfile
  obtain ⟨c, hc⟩ := hs.files _ node hn hd
  obtain ⟨c', hc', hshort⟩ := hok c hc.short
  exact ⟨_, .store node f c c' hf hn hd (hc.holds.contents hc.sized) hc' hshort⟩

lemma Sound.effect {s0 : SnapshotState} (hs : Sound rd s) {op : Op} {env : Env}
    (hr : op.record env s0 = some r) (hnext : s0.nextInode = s.nextInode) (hpre : op.Pre s)
    (hfit : op.LinksFit s) (hrange : op.InRange) : ∃ s', Effect rd s r s' := by
  cases op with cases hr
  | createFile | mkdir =>
    exact ⟨_, .create rfl hnext hpre.1 hpre.2.1 hpre.2.2⟩
  | symlink parent name target mode =>
    exact ⟨_, .create rfl hnext hpre.2.1 hpre.2.2.1 hpre.2.2.2⟩
  | link inode newParent newName =>
    obtain ⟨hname, ⟨node, hn, hd⟩, hp, hc⟩ := hpre
    exact ⟨_, .link node rfl hname hn hd hp hc (hfit node hn)⟩
  | rename oldParent oldName newParent newName =>
    obtain ⟨_, _, ⟨hp, inode, hc⟩, hnp⟩ := hpre
    exact ⟨_, .rename inode rfl rfl hp hc hnp⟩
  | unlink parent name =>
    obtain ⟨hp, inode, hc, node, hn, hd⟩ := hpre
    refine ⟨_, .unlink inode rfl rfl hp hc ?_⟩
    rintro ⟨node', hn', ht⟩
    rw [hn] at hn'
    cases hn'
    exact hd ht
  | removeDir parent name =>
    obtain ⟨hp, inode, hc, hd, he⟩ := hpre
    exact ⟨_, .rmdir inode rfl rfl hp hc hd he⟩
  | write inode offset payload =>
    have hfit : offset.toNat + payload.length ≤ maxAlloc := hrange
    refine hs.store hpre rfl fun c hc => ⟨_, (writtenBytes_run hc ?_).trans (if_pos hfit), ?_⟩
    · unfold maxAlloc at hfit
      dsimp only
      omega
    · rw [length_overlaid]
      exact max_le hfit hc
  | truncate inode size =>
    refine hs.store hpre rfl fun c hc => ⟨_, (truncatedBytes_run hc).trans (if_pos hrange), ?_⟩
    rw [length_resized]
    exact hrange
  | setMode | setOwner =>
    obtain ⟨node, hn⟩ := hpre
    exact ⟨_, .attr node _ rfl hn⟩

end sandbox0.s0fs
