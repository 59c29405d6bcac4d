-- What keeps a state well formed: every record, the removal of unlinked
-- nodes, and JSON.
import Sandbox0.S0fsNames

namespace sandbox0.s0fs

open GoMap Set

/-! ## Records -/

variable {s s' : SnapshotState} {r : WalRecord} {i p inode : Nat} {node : Node}
    {gone : Nat → Prop} {e : Engine}

lemma created_child (h : Shaped s) (hi : s.nextInode ≤ r.inode) (q : Nat) (k : GoString) :
    (created s r).child q k = if r.parent = q ∧ r.name = k then some r.inode else s.child q k := by
  rw [child_eq, child_eq]
  simp only [created, childOf_putChild]
  split
  · rfl
  by_cases hd : r.type.getD .file = .directory
  · simp only [hd, if_true, childOf_insert_empty]
    split
    · rename_i hq
      subst hq
      simp [childOf, (h.fresh hi).2.1]
    · rfl
  · simp [hd]

lemma created_names (h : Shaped s) (hi : s.nextInode ≤ r.inode)
    (hc : s.child r.parent r.name = none) (i : Nat) :
    names (created s r).children i = if r.inode = i then {(r.parent, r.name)}
    else names s.children i := by
  ext ⟨q, k⟩
  have hchild := created_child h hi q k
  rw [child_eq] at hchild
  rw [mem_names, hchild]
  by_cases hri : r.inode = i
  · subst hri
    rw [if_pos rfl, mem_singleton_iff, Prod.mk.injEq]
    split
    · rename_i hq; simp [hq.1, hq.2]
    rename_i hq
    constructor
    · intro hs
      have hm : (q, k) ∈ names s.children r.inode := hs
      rw [(h.fresh hi).2.2] at hm
      exact absurd hm (notMem_empty _)
    · rintro ⟨rfl, rfl⟩
      exact absurd ⟨rfl, rfl⟩ hq
  · rw [if_neg hri, mem_names, ← child_eq]
    split
    · rename_i hq
      rw [← hq.1, ← hq.2, hc]
      simp [hri]
    · rfl

lemma created_isDir (h : Shaped s) (hi : s.nextInode ≤ r.inode) (hd : IsDir s i) :
    IsDir (created s r) i ∧ r.inode ≠ i := by
  obtain ⟨node, hn, ht⟩ := hd
  have hne : r.inode ≠ i := by
    rintro rfl
    rw [(h.fresh hi).1] at hn
    cases hn
  exact ⟨⟨node, by rw [created]; simpa [get_insert_ne _ _ hne] using hn, ht⟩, hne⟩

lemma created_nodes (hn : (created s r).nodes[i]? = some node) :
    (i = r.inode ∧ node = createdNode r) ∨ (r.inode ≠ i ∧ s.nodes[i]? = some node) := by
  rcases of_get_insert hn with hown | ⟨hne, ho⟩
  · exact .inl hown
  · exact .inr ⟨hne.symm, ho⟩

lemma Shaped.created (h : Shaped s) (hi : s.nextInode ≤ r.inode) (hp : IsDir s r.parent)
    (hc : s.child r.parent r.name = none) : Shaped (created s r) := by
  have hnext : (s0fs.created s r).nextInode = r.inode + 1 := by
    simp [s0fs.created, hi]
  have hold : ∀ p, IsDir s p → IsDir (s0fs.created s r) p := fun p hd => (created_isDir h hi hd).1
  refine ⟨?_, ?_, ?_, ?_, ?_, ?_, hold _ h.root, ?_, ?_, ?_⟩
  · obtain ⟨root, hroot, _⟩ := h.root
    have hused := h.below _ _ hroot
    have hne : r.inode ≠ 0 := by omega
    show (s.nodes.insert r.inode (createdNode r))[0]? = none
    rw [get_insert_ne _ _ hne]
    exact h.zero
  · intro i node hn
    rcases created_nodes hn with ⟨rfl, rfl⟩ | ⟨_, ho⟩
    · rfl
    · exact h.inode_eq i node ho
  · intro i node hn
    rw [hnext]
    rcases created_nodes hn with ⟨rfl, _⟩ | ⟨_, ho⟩
    · omega
    · have := h.below i node ho
      omega
  · intro p n i hs
    rw [hnext]
    rw [created_child h hi] at hs
    split at hs
    · cases hs
      omega
    · have := h.entry_below p n i hs
      omega
  · intro p m hm
    simp only [s0fs.created, putChild] at hm
    by_cases hpp : r.parent = p
    · exact hold p (hpp ▸ hp)
    rw [get_insert_ne _ _ hpp] at hm
    by_cases hd : r.type.getD .file = .directory
    · rw [if_pos hd] at hm
      by_cases hrp : r.inode = p
      · subst hrp
        exact ⟨createdNode r, by simp [s0fs.created], hd⟩
      · rw [get_insert_ne _ _ hrp] at hm
        exact hold p (h.parent p m hm)
    · rw [if_neg hd] at hm
      exact hold p (h.parent p m hm)
  · intro i node hn ht
    simp only [s0fs.created, putChild]
    by_cases hpi : r.parent = i
    · subst hpi
      exact ⟨_, get_insert_self _ _ _⟩
    rw [get_insert_ne _ _ hpi]
    rcases created_nodes hn with ⟨rfl, rfl⟩ | ⟨hri, ho⟩
    · have hd : r.type.getD .file = .directory := ht
      rw [if_pos hd]
      exact ⟨∅, get_insert_self _ _ _⟩
    obtain ⟨m, hm⟩ := h.listed i node ho ht
    refine ⟨m, ?_⟩
    split
    · rw [get_insert_ne _ _ hri]
      exact hm
    · exact hm
  · intro p n hs
    rw [created_child h hi] at hs
    split at hs
    · exact (created_isDir h hi h.root).2 (Option.some.inj hs)
    · exact h.root_unnamed p n hs
  · intro i hd
    rw [created_names h hi hc]
    split
    · exact subsingleton_singleton
    rename_i hri
    obtain ⟨node, hn, ht⟩ := hd
    rcases created_nodes hn with ⟨hi', _⟩ | ⟨_, ho⟩
    · exact absurd hi'.symm hri
    · exact h.dir_once i ⟨node, ho, ht⟩
  · intro i node hn ht
    rcases created_nodes hn with ⟨_, rfl⟩ | ⟨_, ho⟩
    · exact (by decide : (1 : UInt32) ≠ 0)
    · exact h.dir_nlink i node ho ht

lemma WF.created (h : WF s) (hi : s.nextInode ≤ r.inode)
    (hp : IsDir s r.parent) (hc : s.child r.parent r.name = none) : WF (created s r) := by
  refine ⟨h.toShaped.created hi hp hc, ?_, ?_⟩
  · intro p n i hs
    rw [created_child h.toShaped hi] at hs
    split at hs
    · cases hs
      exact ⟨createdNode r, by simp [s0fs.created]⟩
    obtain ⟨node, hn⟩ := h.entry p n i hs
    have hri : r.inode ≠ i := by
      have := h.below i node hn
      omega
    exact ⟨node, by simp only [s0fs.created, get_insert_ne _ _ hri]; exact hn⟩
  · intro i node hn ht
    rw [created_names h.toShaped hi hc]
    rcases created_nodes hn with ⟨rfl, rfl⟩ | ⟨hri, ho⟩
    · rw [if_pos rfl, ncard_singleton]
      exact Nat.le_refl 1
    · rw [if_neg hri]
      exact h.file_links i node ho ht

section

variable {kids : Children} {m : GoMap GoString Nat} (hp : kids[p]? = some m)

include hp

lemma keys_insert (m' : GoMap GoString Nat) (q : Nat) :
    (kids.insert p m')[q]?.isSome = kids[q]?.isSome := by
  have hmap := map_insert_of_get (f := fun _ => ()) hp (v := m') rfl q
  simpa using congrArg Option.isSome hmap

lemma putChild_keys (n : GoString) (i q : Nat) :
    (putChild kids p n i)[q]?.isSome = kids[q]?.isSome :=
  keys_insert hp _ q

lemma dropChild_keys (n : GoString) (q : Nat) : (dropChild kids p n)[q]?.isSome = kids[q]?.isSome :=
  keys_insert hp _ q

end

lemma succ_nlink {l : UInt32} (h : l.toNat + 1 < 2 ^ 32) : (l + 1).toNat = l.toNat + 1 := by
  rw [UInt32.toNat_add]
  exact Nat.mod_eq_of_lt h

lemma pred_nlink {l : UInt32} (h : 0 < l.toNat) : (l - 1).toNat + 1 = l.toNat := by
  have hle : (1 : UInt32) ≤ l := by
    rw [UInt32.le_iff_toNat_le]
    exact h
  rw [UInt32.toNat_sub_of_le _ _ hle]
  exact Nat.succ_pred_eq_of_pos h

lemma linked_nodes {node' : Node} (hn : (linked s r node).nodes[i]? = some node') :
    (r.inode = i ∧ node'.type = node.type ∧ node'.nlink = node.nlink + 1) ∨
      (r.inode ≠ i ∧ s.nodes[i]? = some node') := by
  rcases of_get_insert hn with ⟨rfl, rfl⟩ | ⟨hne, ho⟩
  · exact .inl ⟨rfl, rfl, rfl⟩
  · exact .inr ⟨hne.symm, ho⟩

lemma linked_kinds (hn : s.nodes[r.inode]? = some node) : SameKinds s (linked s r node) :=
  map_insert_of_get hn rfl

section

variable (hc : s.child r.newParent r.newName = none)

include hc

lemma linked_names (node : Node) (i : Nat) : names (linked s r node).children i =
      if r.inode = i then insert (r.newParent, r.newName) (names s.children i)
      else names s.children i := by
  simp only [linked, names_putChild]
  split
  · rfl
  · refine sdiff_singleton_eq_self fun hmem => ?_
    rw [mem_names, ← child_eq, hc] at hmem
    cases hmem

lemma linked_ncard (node : Node) :
    (names (linked s r node).children r.inode).ncard = (names s.children r.inode).ncard + 1 := by
  have hfresh : (r.newParent, r.newName) ∉ names s.children r.inode := by
    rw [mem_names, ← child_eq, hc]
    simp
  rw [linked_names hc, if_pos rfl, ncard_insert_of_notMem hfresh (finite_names _ _)]

lemma Shaped.linked (h : Shaped s) (hn : s.nodes[r.inode]? = some node)
    (hd : node.type ≠ .directory) (hp : IsDir s r.newParent) : Shaped (linked s r node) := by
  obtain ⟨m, hm⟩ := hp.listed h.listed
  have hndir : ¬ IsDir s r.inode := by
    rintro ⟨node', hn', ht⟩
    rw [hn] at hn'
    cases hn'
    exact hd ht
  refine h.regraph (linked_kinds hn) rfl (putChild_keys hm _ _) ?_ ?_ ?_
  · intro p n i hs
    rw [child_eq] at hs
    simp only [s0fs.linked, childOf_putChild] at hs
    split at hs
    · cases hs
      exact ⟨h.below _ node hn, fun hi => hndir (hi ▸ h.root)⟩
    · exact h.named hs
  · intro i hdi
    have hi : r.inode ≠ i := by
      rintro rfl
      exact hndir hdi
    rw [linked_names hc, if_neg hi]
    exact h.dir_once i hdi
  · intro i node' hn' ht
    rcases linked_nodes hn' with ⟨_, hto, _⟩ | ⟨_, ho⟩
    · exact absurd (hto.symm.trans ht) hd
    · exact h.dir_nlink i node' ho ht

lemma WF.linked (h : WF s) (hn : s.nodes[r.inode]? = some node) (hd : node.type ≠ .directory)
    (hp : IsDir s r.newParent) (hl : node.nlink.toNat + 1 < 2 ^ 32) : WF (linked s r node) := by
  refine ⟨h.toShaped.linked hc hn hd hp, ?_, ?_⟩
  · intro p n i hs
    rw [child_eq] at hs
    simp only [s0fs.linked, childOf_putChild] at hs
    split at hs
    · cases hs
      exact ⟨_, get_insert_self _ _ _⟩
    · exact h.entry_kept (linked_kinds hn) hs
  · intro i node' hn' ht
    rcases linked_nodes hn' with ⟨rfl, _, hl'⟩ | ⟨hi, ho⟩
    · have hle := h.file_links r.inode node hn hd
      rw [linked_ncard hc, hl', succ_nlink hl]
      omega
    · rw [linked_names hc, if_neg hi]
      exact h.file_links i node' ho ht

end

section

variable (s)

lemma touched_map {β : Type} {f : Node → β} (hf : ∀ node t, f { node with ctime := t } = f node)
    (j : Nat) (time : Int) (i : Nat) : (touched s j time)[i]?.map f = s.nodes[i]?.map f := by
  unfold touched
  cases hj : s.nodes[j]? with
  | none => rfl
  | some node => exact map_insert_of_get hj (hf node time) i

lemma lessLinked_map {β : Type} {f : Node → β}
    (hf : ∀ node l t, f { node with nlink := l, ctime := t } = f node) (j : Nat) (time : Int)
    (i : Nat) : (lessLinked s j time)[i]?.map f = s.nodes[i]?.map f := by
  unfold lessLinked
  cases hj : s.nodes[j]? with
  | none => rfl
  | some node =>
    dsimp only
    split
    · exact map_insert_of_get hj (hf node _ time) i
    · rfl

lemma renamed_names (r : WalRecord) (inode i : Nat) : names (renamed s r inode).children i =
      if inode = i then insert (r.newParent, r.newName) (names s.children i \ {(r.parent, r.name)})
      else (names s.children i \ {(r.parent, r.name)}) \ {(r.newParent, r.newName)} := by
  simp only [renamed, names_putChild, names_dropChild]

lemma quiet_touched (inode : Nat) (time : Int) : Quiet s { s with nodes := touched s inode time } :=
  ⟨rfl, rfl, touched_map s (fun _ _ => rfl) inode time⟩

lemma renamed_kinds (r : WalRecord) (inode : Nat) : SameKinds s (renamed s r inode) :=
  (quiet_touched s inode r.timeUnix).sameKinds

end

section

variable (hc : s.child r.parent r.name = some inode)

include hc

lemma renamed_child {n : GoString}
    (hs : (renamed s r inode).child p n = some i) : ∃ q k, s.child q k = some i := by
  rw [child_eq] at hs
  simp only [renamed, childOf_putChild, childOf_dropChild] at hs
  split at hs
  · cases hs
    exact ⟨_, _, hc⟩
  · split at hs
    · cases hs
    · exact ⟨p, n, hs⟩

lemma Shaped.renamed (h : Shaped s) (hp : IsDir s r.parent) (hnp : IsDir s r.newParent) :
    Shaped (renamed s r inode) := by
  obtain ⟨m, hm⟩ := hp.listed h.listed
  obtain ⟨m', hm'⟩ := hnp.listed h.listed
  obtain ⟨m'', hm''⟩ := dropChild_listed (p := r.parent) (n := r.name) hm'
  have hmem : (r.parent, r.name) ∈ names s.children inode := hc
  refine h.regraph (renamed_kinds s r inode) rfl ?_ ?_ ?_ ?_
  · intro q
    simp only [s0fs.renamed]
    rw [putChild_keys hm'', dropChild_keys hm]
  · intro p n i hs
    obtain ⟨q, k, hq⟩ := renamed_child hc hs
    exact h.named hq
  · intro i hd
    have hone := h.dir_once i hd
    rw [renamed_names]
    split
    · rename_i hi
      subst hi
      have hempty : names s.children inode \ {(r.parent, r.name)} = ∅ := by
        rw [sdiff_eq_empty]
        exact fun x hx => hone hx hmem
      rw [hempty]
      simp
    · exact hone.anti (sdiff_subset.trans sdiff_subset)
  · intro i node hn ht
    exact (h.quiet (quiet_touched s inode r.timeUnix)).dir_nlink i node hn ht

/-- The new entry takes the place of the old one, so an inode has no more
names than before. -/
lemma renamed_ncard (i : Nat) :
    (names (renamed s r inode).children i).ncard ≤ (names s.children i).ncard := by
  have hfin := finite_names s.children i
  rw [renamed_names]
  split
  · rename_i hi
    subst hi
    calc _ ≤ (names s.children inode \ {(r.parent, r.name)}).ncard + 1 := ncard_insert_le _ _
      _ = (names s.children inode).ncard := ncard_sdiff_singleton_add_one hc hfin
  · exact ncard_le_ncard (sdiff_subset.trans sdiff_subset) hfin

lemma WF.renamed (h : WF s) (hp : IsDir s r.parent) (hnp : IsDir s r.newParent) :
    WF (renamed s r inode) := by
  refine ⟨h.toShaped.renamed hc hp hnp, ?_, ?_⟩
  · intro p n i hs
    obtain ⟨q, k, hq⟩ := renamed_child hc hs
    exact h.entry_kept (renamed_kinds s r inode) hq
  · intro i node hn ht
    exact (renamed_ncard hc i).trans
      ((h.quiet (quiet_touched s inode r.timeUnix)).file_links i node hn ht)

end

lemma nameRemoved_eq (hn : s.nodes[inode]? = some node) (hpos : 0 < node.nlink.toNat) :
    nameRemoved s r inode =
      { s with
        nodes := s.nodes.insert inode { node with nlink := node.nlink - 1, ctime := r.timeUnix }
        children := dropChild s.children r.parent r.name } := by
  have hgt : node.nlink > 0 := UInt32.lt_iff_toNat_lt.mpr hpos
  simp [nameRemoved, lessLinked, hn, hgt]

lemma nameRemoved_nodes {node' : Node} (hn : s.nodes[inode]? = some node)
    (hpos : 0 < node.nlink.toNat) (hn' : (nameRemoved s r inode).nodes[i]? = some node') :
    (inode = i ∧ node'.type = node.type ∧ node'.nlink = node.nlink - 1) ∨
      (inode ≠ i ∧ s.nodes[i]? = some node') := by
  rw [nameRemoved_eq hn hpos] at hn'
  rcases of_get_insert hn' with ⟨rfl, rfl⟩ | ⟨hne, ho⟩
  · exact .inl ⟨rfl, rfl, rfl⟩
  · exact .inr ⟨hne.symm, ho⟩

lemma nameRemoved_names (s : SnapshotState) (r : WalRecord) (inode i : Nat) :
    names (nameRemoved s r inode).children i = names s.children i \ {(r.parent, r.name)} :=
  names_dropChild s.children r.parent r.name i

lemma nameRemoved_ncard (hc : s.child r.parent r.name = some inode) :
    (names (nameRemoved s r inode).children inode).ncard + 1 = (names s.children inode).ncard := by
  rw [nameRemoved_names]
  exact ncard_sdiff_singleton_add_one hc (finite_names _ _)

lemma nameRemoved_kinds (s : SnapshotState) (r : WalRecord) (inode : Nat) :
    SameKinds s (nameRemoved s r inode) := lessLinked_map s (fun _ _ _ => rfl) inode r.timeUnix

lemma nameRemoved_child {n : GoString}
    (hs : (nameRemoved s r inode).child p n = some i) : s.child p n = some i := by
  rw [child_eq] at hs
  simp only [nameRemoved, childOf_dropChild] at hs
  split at hs
  · cases hs
  · exact hs

lemma Shaped.nameRemoved (h : Shaped s)
    (hp : IsDir s r.parent) (hd : ¬ IsDir s inode) : Shaped (nameRemoved s r inode) := by
  obtain ⟨m, hm⟩ := hp.listed h.listed
  refine h.regraph (nameRemoved_kinds s r inode) rfl (dropChild_keys hm _) ?_ ?_ ?_
  · intro p n i hs
    exact h.named (nameRemoved_child hs)
  · intro i hdi
    rw [nameRemoved_names]
    exact (h.dir_once i hdi).anti sdiff_subset
  · intro i node hn ht
    have hdi : IsDir s i := (nameRemoved_kinds s r inode).symm.isDir ⟨node, hn, ht⟩
    have hi : inode ≠ i := fun hi => hd (hi ▸ hdi)
    simp only [s0fs.nameRemoved, lessLinked] at hn
    split at hn
    · exact h.dir_nlink i node hn ht
    split at hn
    · rw [get_insert_ne _ _ hi] at hn
      exact h.dir_nlink i node hn ht
    · exact h.dir_nlink i node hn ht

lemma WF.nameRemoved (h : WF s)
    (hp : IsDir s r.parent) (hc : s.child r.parent r.name = some inode) (hd : ¬ IsDir s inode) :
    WF (nameRemoved s r inode) := by
  obtain ⟨node, hn, ht, hpos⟩ := h.named_file hc hd
  refine ⟨h.toShaped.nameRemoved hp hd, ?_, ?_⟩
  · intro p n i hs
    exact h.entry_kept (nameRemoved_kinds s r inode) (nameRemoved_child hs)
  · intro i node' hn' ht'
    rcases nameRemoved_nodes hn hpos hn' with ⟨rfl, _, hl⟩ | ⟨_, ho⟩
    · have hle := h.file_links inode node hn ht
      have hcard := nameRemoved_ncard hc
      have hpred := pred_nlink hpos
      rw [hl]
      omega
    · rw [nameRemoved_names]
      exact (ncard_le_ncard sdiff_subset (finite_names _ _)).trans
        (h.file_links i node' ho ht')

/-- Some nodes go, with their maps of entries. -/
structure Without (s s' : SnapshotState) (gone : Nat → Prop) : Prop where
  nodes : ∀ (i : Nat) node, s'.nodes[i]? = some node ↔ ¬ gone i ∧ s.nodes[i]? = some node
  kids : ∀ (p : Nat) m, s'.children[p]? = some m → ¬ gone p ∧ ∃ m', s.children[p]? = some m'
  listed : ∀ (p : Nat) m, s.children[p]? = some m → ¬ gone p → ∃ m', s'.children[p]? = some m'
  child : ∀ p n i, s'.child p n = some i → s.child p n = some i
  root : ¬ gone rootInode
  nextInode : s'.nextInode = s.nextInode

lemma Without.names_subset (hw : Without s s' gone)
    (i : Nat) : names s'.children i ⊆ names s.children i := by
  rintro ⟨p, n⟩ hm
  exact hw.child p n i hm

lemma Shaped.without (h : Shaped s) (hw : Without s s' gone) : Shaped s' := by
  have hdir : ∀ i, IsDir s' i → IsDir s i := by
    rintro i ⟨node, hn, ht⟩
    exact ⟨node, ((hw.nodes i node).mp hn).2, ht⟩
  have hdir' : ∀ i, ¬ gone i → IsDir s i → IsDir s' i := by
    rintro i hg ⟨node, hn, ht⟩
    exact ⟨node, (hw.nodes i node).mpr ⟨hg, hn⟩, ht⟩
  refine ⟨?_, ?_, ?_, ?_, ?_, ?_, hdir' _ hw.root h.root, ?_, ?_, ?_⟩
  · cases hn : s'.nodes[0]? with
    | none => rfl
    | some node => cases h.zero.symm.trans ((hw.nodes 0 node).mp hn).2
  · intro i node hn
    exact h.inode_eq i node ((hw.nodes i node).mp hn).2
  · intro i node hn
    rw [hw.nextInode]
    exact h.below i node ((hw.nodes i node).mp hn).2
  · intro p n i hc
    rw [hw.nextInode]
    exact h.entry_below p n i (hw.child p n i hc)
  · intro p m hm
    obtain ⟨hg, m', hm'⟩ := hw.kids p m hm
    exact hdir' p hg (h.parent p m' hm')
  · intro i node hn ht
    obtain ⟨hg, hn'⟩ := (hw.nodes i node).mp hn
    obtain ⟨m, hm⟩ := h.listed i node hn' ht
    exact hw.listed i m hm hg
  · intro p n hc
    exact h.root_unnamed p n (hw.child p n rootInode hc)
  · intro i hd
    exact (h.dir_once i (hdir i hd)).anti (hw.names_subset i)
  · intro i node hn ht
    exact h.dir_nlink i node ((hw.nodes i node).mp hn).2 ht

/-- Nodes that no entry leads to can go. -/
lemma WF.without (h : WF s) (hw : Without s s' gone)
    (hgone : ∀ p n i, s'.child p n = some i → ¬ gone i) : WF s' := by
  refine ⟨h.toShaped.without hw, ?_, ?_⟩
  · intro p n i hc
    obtain ⟨node, hn⟩ := h.entry p n i (hw.child p n i hc)
    exact ⟨node, (hw.nodes i node).mpr ⟨hgone p n i hc, hn⟩⟩
  · intro i node hn ht
    exact (ncard_le_ncard (hw.names_subset i) (finite_names _ _)).trans
      (h.file_links i node ((hw.nodes i node).mp hn).2 ht)

lemma dirRemoved_child (q : Nat) (k : GoString) : (dirRemoved s r inode).child q k =
      if inode = q ∨ (r.parent = q ∧ r.name = k) then none else s.child q k := by
  rw [child_eq, child_eq]
  simp only [dirRemoved, childOf_erase, childOf_dropChild]
  split <;> rename_i hq <;> simp [hq]

lemma get_erase_iff {ν : Type} (m : GoMap Nat ν) (k a : Nat) (v : ν) :
    (m.erase k)[a]? = some v ↔ ¬ a = k ∧ m[a]? = some v := by
  by_cases h : k = a
  · subst h; simp
  · rw [get_erase_ne _ h]
    exact ⟨fun hv => ⟨fun he => h he.symm, hv⟩, fun hv => hv.2⟩

lemma dirRemoved_without (h : Shaped s)
    (hp : IsDir s r.parent) (hc : s.child r.parent r.name = some inode) :
    Without s (dirRemoved s r inode) (fun i => i = inode) := by
  obtain ⟨m, hm⟩ := hp.listed h.listed
  refine ⟨get_erase_iff s.nodes inode, ?_, ?_, ?_, ?_, rfl⟩
  · intro p m' hm'
    obtain ⟨hne, hp'⟩ := (get_erase_iff _ inode p m').mp hm'
    refine ⟨hne, Option.isSome_iff_exists.mp ?_⟩
    rw [← dropChild_keys hm r.name p, hp']
    rfl
  · intro p m' hm' hne
    obtain ⟨m'', hm''⟩ := dropChild_listed (p := r.parent) (n := r.name) hm'
    exact ⟨m'', (get_erase_iff _ inode p m'').mpr ⟨hne, hm''⟩⟩
  · intro p n i hs
    rw [dirRemoved_child] at hs
    split at hs
    · cases hs
    · exact hs
  · intro hr
    exact h.root_unnamed _ _ (hr ▸ hc)

lemma WF.dirRemoved (h : WF s) (hp : IsDir s r.parent) (hc : s.child r.parent r.name = some inode)
    (hd : IsDir s inode) : WF (dirRemoved s r inode) := by
  refine h.without (dirRemoved_without h.toShaped hp hc) ?_
  intro p n i hs
  -- the removed entry was the only one of the directory
  rintro rfl
  rw [dirRemoved_child] at hs
  split at hs
  · cases hs
  rename_i hq
  have heq := h.dir_once i hd (show (r.parent, r.name) ∈ names s.children i from hc)
    (show (p, n) ∈ names s.children i from hs)
  simp only [Prod.mk.injEq] at heq
  exact hq (.inr heq)

lemma Shaped.step (h : Shaped s)
    (hcreate : r.op = .create → s.nextInode ≤ r.inode) (hs : NameStep s r s') : Shaped s' := by
  cases hs with
  | quiet hq => exact h.quiet hq
  | create hop _ _ hp hc => exact h.created (hcreate hop) hp hc
  | link node _ hn hd hp hc => exact h.linked hc hn hd hp
  | rename inode _ hp hc hnp => exact h.renamed hc hp hnp
  | rmdir inode _ hp hc _ _ => exact h.without (dirRemoved_without h hp hc)
  | unlink inode _ hp _ hd => exact h.nameRemoved hp hd

lemma WF.step (h : WF s) (hcreate : r.op = .create → s.nextInode ≤ r.inode)
    (hlink : r.op = .link → ∀ node, s.nodes[r.inode]? = some node → node.nlink.toNat + 1 < 2 ^ 32)
    (hs : NameStep s r s') : WF s' := by
  cases hs with
  | quiet hq => exact h.quiet hq
  | create hop _ _ hp hc => exact h.created (hcreate hop) hp hc
  | link node hop hn hd hp hc => exact h.linked hc hn hd hp (hlink hop node hn)
  | rename inode _ hp hc hnp => exact h.renamed hc hp hnp
  | rmdir inode _ hp hc hd _ => exact h.dirRemoved hp hc hd
  | unlink inode _ hp hc hd => exact h.nameRemoved hp hc hd

/-! ## The nodes that go -/

lemma mem_unlinked (s : SnapshotState) (i : Nat) : i ∈ s.unlinked ↔ i ≠ rootInode ∧ Dead s i := by
  unfold SnapshotState.unlinked Dead
  simp only [List.mem_map, List.mem_filter, Prod.exists, GoMap.mem_toList, decide_eq_true_eq]
  constructor
  · rintro ⟨j, node, ⟨hn, hr, hl⟩, rfl⟩
    exact ⟨hr, node, hn, hl⟩
  · rintro ⟨hr, node, hn, hl⟩
    exact ⟨i, node, ⟨hn, hr, hl⟩, rfl⟩

lemma Shaped.without_dead (h : Shaped s) (hgone : ∀ i, gone i → Dead s i)
    (hnodes : ∀ (i : Nat) node, s'.nodes[i]? = some node ↔ ¬ gone i ∧ s.nodes[i]? = some node)
    (hkids : s'.children = s.children) (hnext : s'.nextInode = s.nextInode) :
    Without s s' gone := by
  refine ⟨hnodes, ?_, ?_, ?_, fun hg => h.root_alive (hgone rootInode hg), hnext⟩
  · intro p m hm
    rw [hkids] at hm
    exact ⟨fun hg => h.dead_file (hgone p hg) (h.parent p m hm), m, hm⟩
  · intro p m hm _
    exact ⟨m, by rw [hkids]; exact hm⟩
  · intro p n i hc
    rw [child_eq, hkids, ← child_eq] at hc
    exact hc

lemma WF.without_dead (h : WF s)
    (hgone : ∀ i, gone i → Dead s i) (hw : Without s s' gone) : WF s' :=
  h.without hw fun p n i hc hg => h.dead_unnamed (hgone i hg) p n (hw.child p n i hc)

lemma Shaped.collect_children (h : Shaped s) : (collectUnlinkedLocked s).children = s.children := by
  apply eq_of_get
  intro p
  simp only [collectUnlinkedLocked, get_deleteKeys]
  split
  · rename_i hp
    exact (h.dead_unlisted ((mem_unlinked s p).mp hp).2).symm
  · rfl

lemma Shaped.collect_nodes (h : Shaped s) (i : Nat) (node : Node) :
    (collectUnlinkedLocked s).nodes[i]? = some node ↔ ¬ Dead s i ∧ s.nodes[i]? = some node := by
  simp only [collectUnlinkedLocked, get_deleteKeys]
  split
  · rename_i hi
    have hd := ((mem_unlinked s i).mp hi).2
    simp [hd]
  rename_i hi
  rw [mem_unlinked, not_and] at hi
  by_cases hr : i = rootInode
  · subst hr
    simp [h.root_alive]
  · simp [hi hr]

lemma Shaped.collect_without (h : Shaped s) : Without s (collectUnlinkedLocked s) (Dead s) :=
  h.without_dead (fun _ hd => hd) h.collect_nodes h.collect_children rfl

lemma WF.collected (h : WF s) : WF (collectUnlinkedLocked s) :=
  h.without_dead (fun _ hd => hd) h.collect_without

lemma Shaped.forgotten_children (h : Shaped e.toSnapshotState)
    (hd : Dead e.toSnapshotState i) : (forgotten e i).children = e.children := by
  apply eq_of_get
  intro p
  by_cases hp : i = p
  · subst hp
    simp only [forgotten, get_erase_self]
    exact (h.dead_unlisted hd).symm
  · simp only [forgotten, get_erase_ne _ hp]

lemma Shaped.forgotten_without (h : Shaped e.toSnapshotState) (hd : Dead e.toSnapshotState i) :
    Without e.toSnapshotState (forgotten e i).toSnapshotState (fun j => j = i) :=
  h.without_dead (fun _ hj => hj ▸ hd) (get_erase_iff e.nodes i) (h.forgotten_children hd) rfl

lemma WF.forgotten (h : WF e.toSnapshotState)
    (hd : Dead e.toSnapshotState i) : WF (forgotten e i).toSnapshotState := by
  refine h.without_dead ?_ (h.forgotten_without hd)
  rintro j rfl
  exact hd

/-! ## JSON -/

lemma json_names_ncard (s : SnapshotState) (i : Nat) :
    (names (jsonState s).children i).ncard ≤ (names s.children i).ncard := by
  have hsub : names (jsonState s).children i ⊆
      (fun q : Nat × GoString => (q.1, coerceUTF8 q.2)) '' names s.children i := by
    rintro ⟨p, n⟩ hm
    obtain ⟨n', hn', hc⟩ := jsonState_child (s := s) hm
    exact ⟨(p, n'), hc, by simp [hn']⟩
  exact (ncard_le_ncard hsub ((finite_names _ _).image _)).trans
    (ncard_image_le (finite_names _ _))

lemma json_kinds (s : SnapshotState) : SameKinds s (jsonState s) := by
  intro i
  rw [jsonState_nodes]
  cases s.nodes[i]? <;> rfl

/-- JSON can join two names of a directory into one, but no node loses its kind. -/
lemma WF.json (h : WF s) : WF (jsonState s) := by
  have hnode : ∀ (i : Nat) node, (jsonState s).nodes[i]? = some node →
      ∃ old, s.nodes[i]? = some old ∧ node = jsonNode old := by
    intro i node hn
    rw [jsonState_nodes, Option.map_eq_some_iff] at hn
    obtain ⟨old, ho, rfl⟩ := hn
    exact ⟨old, ho, rfl⟩
  refine ⟨h.regraph (json_kinds s) rfl ?_ ?_ ?_ ?_, ?_, ?_⟩
  · intro p
    rw [jsonState_children, Option.isSome_map]
  · intro p n i hc
    obtain ⟨n', _, hc'⟩ := jsonState_child hc
    exact h.named hc'
  · rintro i hd ⟨p, n⟩ hx ⟨q, k⟩ hy
    obtain ⟨n', hn', hcx⟩ := jsonState_child (s := s) hx
    obtain ⟨k', hk', hcy⟩ := jsonState_child (s := s) hy
    have heq := h.dir_once i hd (show (p, n') ∈ names s.children i from hcx)
      (show (q, k') ∈ names s.children i from hcy)
    simp only [Prod.mk.injEq] at heq hn' hk' ⊢
    exact ⟨heq.1, by rw [← hn', ← hk', heq.2]⟩
  · intro i node hn ht
    obtain ⟨old, ho, rfl⟩ := hnode i node hn
    exact h.dir_nlink i old ho ht
  · intro p n i hc
    obtain ⟨n', _, hc'⟩ := jsonState_child hc
    exact h.entry_kept (json_kinds s) hc'
  · intro i node hn ht
    obtain ⟨old, ho, rfl⟩ := hnode i node hn
    exact (json_names_ncard s i).trans (h.file_links i old ho ht)

end sandbox0.s0fs
