-- The names of a volume. An inode has as many names as entries lead to it;
-- in a well formed state each entry leads to a node, and no node has more
-- names than its link count says.
import Sandbox0.S0fsEffects

namespace sandbox0.s0fs

open Set Option

/-! ## The names of an inode -/

/-- Every entry of every directory: the directory, the name and the inode. -/
def SnapshotState.entries (s : SnapshotState) : List (Nat × GoString × Nat) :=
  s.children.toList.flatMap fun d => d.2.toList.map fun e => (d.1, e.1, e.2)

def SnapshotState.links (s : SnapshotState) (inode : Nat) : Nat :=
  s.entries.countP fun e => e.2.2 = inode

def names (kids : Children) (inode : Nat) : Set (Nat × GoString) :=
  { q | childOf kids q.1 q.2 = some inode }

variable {i p : Nat} {n : GoString} {s s' : SnapshotState}

lemma mem_names {kids : Children} : (p, n) ∈ names kids i ↔ childOf kids p n = some i := Iff.rfl

section

variable (kids : Children) (s : SnapshotState) (p : Nat) (n : GoString) (i : Nat)

lemma mem_entries : (p, n, i) ∈ s.entries ↔ s.child p n = some i := by
  unfold SnapshotState.entries SnapshotState.child
  simp only [List.mem_flatMap, List.mem_map, Prod.exists, Prod.mk.injEq, GoMap.mem_toList]
  constructor
  · rintro ⟨p', m, hm, n', i', hi, rfl, rfl, rfl⟩
    rw [hm]
    exact hi
  · intro h
    cases hm : s.children[p]? with
    | none => rw [hm] at h; cases h
    | some m =>
      rw [hm] at h
      exact ⟨p, m, hm, n, i, h, rfl, rfl, rfl⟩

lemma nodup_entries : s.entries.Nodup := by
  unfold SnapshotState.entries
  rw [List.nodup_flatMap]
  constructor
  · rintro ⟨p, m⟩ _
    have h := GoMap.nodup_keys m
    rw [List.Nodup, List.pairwise_map] at h ⊢
    exact h.imp fun hne he => hne (by simp_all)
  · have h := GoMap.nodup_keys s.children
    rw [List.Nodup, List.pairwise_map] at h
    refine h.imp fun {a b} hne => ?_
    intro x hx hx'
    simp only [List.mem_map] at hx hx'
    obtain ⟨e, _, rfl⟩ := hx
    obtain ⟨e', _, he'⟩ := hx'
    exact hne (by simpa using (congrArg Prod.fst he').symm)

lemma finite_names : (names kids i).Finite := by
  let s : SnapshotState := { freshState 0 with children := kids }
  refine (s.entries.map fun e => (e.1, e.2.1)).toFinset.finite_toSet.subset ?_
  rintro ⟨p, n⟩ h
  have hm : (p, n, i) ∈ s.entries := (mem_entries s p n i).mpr h
  simp only [List.coe_toFinset, List.mem_map, Set.mem_ofPred_eq]
  exact ⟨_, hm, rfl⟩

lemma links_eq_ncard : s.links i = (names s.children i).ncard := by
  let l := (s.entries.filter fun e => e.2.2 = i).map fun e => (e.1, e.2.1)
  have hnd : l.Nodup := by
    refine List.Nodup.map_on ?_ ((nodup_entries s).filter _)
    rintro ⟨p, n, j⟩ hx ⟨p', n', j'⟩ hy he
    simp only [List.mem_filter, decide_eq_true_eq] at hx hy
    simp_all
  have hset : names s.children i = l.toFinset := by
    ext ⟨p, n⟩
    simp only [l, List.coe_toFinset, List.mem_map, List.mem_filter, decide_eq_true_eq,
      Set.mem_ofPred_eq, Prod.exists, Prod.mk.injEq]
    constructor
    · intro h
      exact ⟨p, n, i, ⟨(mem_entries s p n i).mpr h, rfl⟩, rfl, rfl⟩
    · rintro ⟨p', n', j, ⟨hm, rfl⟩, rfl, rfl⟩
      exact (mem_entries s _ _ _).mp hm
  rw [hset, Set.ncard_coe_finset, List.toFinset_card_of_nodup hnd]
  simp only [l, List.length_map, SnapshotState.links, List.countP_eq_length_filter]

lemma names_dropChild : names (dropChild kids p n) i = names kids i \ {(p, n)} := by
  ext ⟨q, k⟩
  simp only [mem_names, childOf_dropChild, mem_sdiff, mem_singleton_iff, Prod.mk.injEq]
  split
  · rename_i h; simp [h.1, h.2]
  rename_i h
  constructor
  · exact fun h' => ⟨h', fun he => h ⟨he.1.symm, he.2.symm⟩⟩
  · exact fun h' => h'.1

lemma names_putChild (j i : Nat) : names (putChild kids p n j) i =
      if j = i then insert (p, n) (names kids i) else names kids i \ {(p, n)} := by
  by_cases hj : j = i
  · subst hj
    ext ⟨q, k⟩
    simp only [mem_names, childOf_putChild, if_true, mem_insert_iff, Prod.mk.injEq]
    split
    · rename_i h; simp [h.1, h.2]
    rename_i h
    constructor
    · exact .inr
    · rintro (⟨rfl, rfl⟩ | h')
      · exact absurd ⟨rfl, rfl⟩ h
      · exact h'
  · rw [if_neg hj, ← names_dropChild]
    ext ⟨q, k⟩
    simp only [mem_names, childOf_putChild, childOf_dropChild]
    split <;> simp [hj]

end

/-! ## Well formed states -/

/-- The directories of a state are in order: each has a map of entries and
at most one name, no inode above `nextInode` is in use, and inode 0 never is. -/
structure Shaped (s : SnapshotState) : Prop where
  zero : s.nodes[0]? = none
  inode_eq : ∀ (i : Nat) node, s.nodes[i]? = some node → node.inode = i
  below : ∀ (i : Nat) node, s.nodes[i]? = some node → i < s.nextInode
  entry_below : ∀ p n i, s.child p n = some i → i < s.nextInode
  parent : ∀ (p : Nat) m, s.children[p]? = some m → IsDir s p
  listed : DirsListed s
  root : IsDir s rootInode
  root_unnamed : ∀ p n, s.child p n ≠ some rootInode
  dir_once : ∀ i, IsDir s i → (names s.children i).Subsingleton
  dir_nlink : ∀ (i : Nat) node, s.nodes[i]? = some node → node.type = .directory → node.nlink ≠ 0

/-- Each entry leads to a node, and no file has more names than links. -/
structure WF (s : SnapshotState) : Prop extends Shaped s where
  entry : ∀ p n i, s.child p n = some i → ∃ node, s.nodes[i]? = some node
  file_links : ∀ (i : Nat) node, s.nodes[i]? = some node → node.type ≠ .directory →
    (names s.children i).ncard ≤ node.nlink.toNat

def Dead (s : SnapshotState) (i : Nat) : Prop := ∃ node, s.nodes[i]? = some node ∧ node.nlink = 0

lemma Shaped.entry_listed (h : Shaped s) (hc : s.child p n = some i) : IsDir s p := by
  obtain ⟨m, hm⟩ := listed_of_child hc
  exact h.parent p m hm

lemma Shaped.nextInode_pos (h : Shaped s) : 1 < s.nextInode := by
  obtain ⟨root, hroot, _⟩ := h.root
  exact h.below _ _ hroot

lemma Shaped.dead_file (h : Shaped s) (hd : Dead s i) : ¬ IsDir s i := by
  obtain ⟨node, hn, hl⟩ := hd
  rintro ⟨node', hn', ht⟩
  rw [hn] at hn'
  cases hn'
  exact h.dir_nlink i node hn ht hl

lemma Shaped.root_alive (h : Shaped s) : ¬ Dead s rootInode :=
  fun hd => h.dead_file hd h.root

lemma Shaped.dead_unlisted (h : Shaped s) (hd : Dead s i) : s.children[i]? = none := by
  cases hm : s.children[i]? with
  | none => rfl
  | some m => exact absurd (h.parent i m hm) (h.dead_file hd)

lemma WF.dead_unnamed (h : WF s) (hd : Dead s i) (p : Nat)
    (n : GoString) : s.child p n ≠ some i := by
  intro hc
  have hf := h.dead_file hd
  obtain ⟨node, hn, hl⟩ := hd
  have hle := h.file_links i node hn (fun ht => hf ⟨node, hn, ht⟩)
  rw [hl] at hle
  have hpos : 0 < (names s.children i).ncard :=
    (ncard_pos (finite_names _ _)).mpr ⟨(p, n), hc⟩
  simp at hle
  omega

/-- An entry that is no directory leads to a file with a link to lose. -/
lemma WF.named_file (h : WF s) (hc : s.child p n = some i) (hd : ¬ IsDir s i) :
    ∃ node, s.nodes[i]? = some node ∧ node.type ≠ .directory ∧ 0 < node.nlink.toNat := by
  obtain ⟨node, hn⟩ := h.entry p n i hc
  have ht : node.type ≠ .directory := fun ht => hd ⟨node, hn, ht⟩
  have hle := h.file_links i node hn ht
  have hpos : 0 < (names s.children i).ncard :=
    (ncard_pos (finite_names _ _)).mpr ⟨(p, n), hc⟩
  exact ⟨node, hn, ht, by omega⟩

lemma Shaped.fresh (h : Shaped s) (hi : s.nextInode ≤ i) :
    s.nodes[i]? = none ∧ s.children[i]? = none ∧ names s.children i = ∅ := by
  have hn : s.nodes[i]? = none := by
    cases hn : s.nodes[i]? with
    | none => rfl
    | some node => have := h.below i node hn; omega
  refine ⟨hn, ?_, ?_⟩
  · cases hm : s.children[i]? with
    | none => rfl
    | some m =>
      obtain ⟨node, hn', _⟩ := h.parent i m hm
      rw [hn] at hn'; cases hn'
  · ext ⟨p, n⟩
    simp only [mem_names, mem_empty_iff_false, iff_false]
    intro hc
    have := h.entry_below p n i hc
    omega

lemma freshState_nodes {now : Int} {node : Node}
    (hn : (freshState now).nodes[i]? = some node) : i = rootInode ∧ node = freshRoot now := by
  rcases GoMap.of_get_insert hn with hroot | ⟨-, hn⟩
  · exact hroot
  · simp at hn

lemma freshState_child (now : Int) (p : Nat) (n : GoString) :
    (freshState now).child p n = none := by
  rw [child_eq]
  simp only [freshState, childOf_insert_empty]
  split
  · rfl
  · simp [childOf]

lemma freshState_wf (now : Int) : WF (freshState now) := by
  have hchild := freshState_child now
  have hnames : ∀ i, names (freshState now).children i = ∅ := by
    intro i
    ext ⟨p, n⟩
    have h := hchild p n
    rw [child_eq] at h
    simp [mem_names, h]
  have hroot : IsDir (freshState now) rootInode := ⟨freshRoot now, by simp [freshState], rfl⟩
  have hall {P : Nat → Node → Prop} (h : P rootInode (freshRoot now)) :
      ∀ i node, (freshState now).nodes[i]? = some node → P i node := GoMap.all_insert h (by simp)
  refine ⟨⟨?_, ?_, ?_, ?_, ?_, ?_, hroot, ?_, ?_, ?_⟩, ?_, ?_⟩
  · cases hn : (freshState now).nodes[0]? with
    | none => rfl
    | some node => cases (freshState_nodes hn).1
  · exact hall rfl
  · exact hall (Nat.lt_succ_self rootInode)
  · intro p n i hc
    rw [hchild] at hc; cases hc
  · intro p m hm
    by_cases hp : rootInode = p
    · exact hp ▸ hroot
    · simp [freshState, GoMap.get_insert_ne _ _ hp] at hm
  · exact hall fun _ => ⟨∅, by simp [freshState]⟩
  · intro p n
    rw [hchild]; simp
  · intro i _
    rw [hnames]
    exact subsingleton_empty
  · exact hall fun _ => (by decide : (1 : UInt32) ≠ 0)
  · intro p n i hc
    rw [hchild] at hc; cases hc
  · exact hall fun ht => absurd rfl ht

/-! ## New entries on the same nodes -/

/-- The part of a node that no call changes. -/
def kind (node : Node) : Nat × FileType := (node.inode, node.type)

/-- The nodes of two states are of the same kinds. -/
def SameKinds (s s' : SnapshotState) : Prop :=
  ∀ i : Nat, s'.nodes[i]?.map kind = s.nodes[i]?.map kind

lemma SameKinds.symm (hk : SameKinds s s') : SameKinds s' s :=
  fun i => (hk i).symm

lemma SameKinds.node (hk : SameKinds s s') {node : Node} (hn : s'.nodes[i]? = some node) :
    ∃ old, s.nodes[i]? = some old ∧ old.inode = node.inode ∧ old.type = node.type := by
  have hi := hk i
  rw [hn, map_some, eq_comm, Option.map_eq_some_iff] at hi
  obtain ⟨old, ho, heq⟩ := hi
  exact ⟨old, ho, Prod.mk.inj heq⟩

lemma SameKinds.isDir (hk : SameKinds s s') (hd : IsDir s i) : IsDir s' i := by
  obtain ⟨node, hn, ht⟩ := hd
  obtain ⟨new, hn', _, ht'⟩ := hk.symm.node hn
  exact ⟨new, hn', ht'.trans ht⟩

lemma Quiet.sameKinds (hq : Quiet s s') : SameKinds s s' := by
  intro i
  have hs := congrArg (Option.map fun sh : Nat × FileType × UInt32 => (sh.1, sh.2.1)) (hq.nodes i)
  rw [Option.map_map, Option.map_map] at hs
  exact hs

/-- New entries and link counts on the same nodes and directories. -/
lemma Shaped.regraph (h : Shaped s) (hk : SameKinds s s') (hnext : s'.nextInode = s.nextInode)
    (hkeys : ∀ p : Nat, s'.children[p]?.isSome = s.children[p]?.isSome)
    (hnamed : ∀ p n i, s'.child p n = some i → i < s.nextInode ∧ i ≠ rootInode)
    (honce : ∀ i, IsDir s i → (names s'.children i).Subsingleton)
    (hdir : ∀ (i : Nat) node, s'.nodes[i]? = some node → node.type = .directory → node.nlink ≠ 0) :
    Shaped s' := by
  refine ⟨?_, ?_, ?_, ?_, ?_, ?_, hk.isDir h.root, ?_, ?_, hdir⟩
  · have hzero := hk 0
    rw [h.zero] at hzero
    simpa using hzero
  · intro i node hn
    obtain ⟨old, ho, hi, _⟩ := hk.node hn
    exact hi ▸ h.inode_eq i old ho
  · intro i node hn
    obtain ⟨old, ho, _⟩ := hk.node hn
    rw [hnext]
    exact h.below i old ho
  · intro p n i hc
    rw [hnext]
    exact (hnamed p n i hc).1
  · intro p m hm
    have hs := hkeys p
    rw [hm, isSome_some] at hs
    obtain ⟨m', hm'⟩ := isSome_iff_exists.mp hs.symm
    exact hk.isDir (h.parent p m' hm')
  · intro i node hn ht
    obtain ⟨old, ho, _, hto⟩ := hk.node hn
    obtain ⟨m, hm⟩ := h.listed i old ho (hto.trans ht)
    apply isSome_iff_exists.mp
    rw [hkeys, hm]
    rfl
  · intro p n hc
    exact (hnamed p n rootInode hc).2 rfl
  · intro i hd
    exact honce i (hk.symm.isDir hd)

lemma Shaped.named (h : Shaped s) (hc : s.child p n = some i) : i < s.nextInode ∧ i ≠ rootInode :=
  ⟨h.entry_below p n i hc, fun hi => h.root_unnamed p n (hi ▸ hc)⟩

lemma WF.entry_kept (h : WF s) (hk : SameKinds s s') (hc : s.child p n = some i) :
    ∃ node, s'.nodes[i]? = some node := by
  obtain ⟨node, hn⟩ := h.entry p n i hc
  obtain ⟨new, hn', _⟩ := hk.symm.node hn
  exact ⟨new, hn'⟩

lemma Quiet.link (hq : Quiet s s') {node : Node} (hn : s'.nodes[i]? = some node) :
    ∃ old, s.nodes[i]? = some old ∧ old.type = node.type ∧ old.nlink = node.nlink := by
  obtain ⟨old, ho, hs⟩ := hq.node hn
  simp only [shape, Prod.mk.injEq] at hs
  exact ⟨old, ho, hs.2.1, hs.2.2⟩

lemma Quiet.child (hq : Quiet s s') (p : Nat) (n : GoString) : s'.child p n = s.child p n := by
  rw [child_eq, hq.children, ← child_eq]

lemma Shaped.quiet (h : Shaped s) (hq : Quiet s s') : Shaped s' := by
  refine h.regraph hq.sameKinds hq.nextInode (fun p => by rw [hq.children]) ?_ ?_ ?_
  · intro p n i hc
    rw [hq.child] at hc
    exact h.named hc
  · intro i hd
    rw [hq.children]
    exact h.dir_once i hd
  · intro i node hn ht
    obtain ⟨old, ho, hto, hl⟩ := hq.link hn
    rw [← hl]
    exact h.dir_nlink i old ho (hto.trans ht)

lemma WF.quiet (h : WF s) (hq : Quiet s s') : WF s' := by
  refine ⟨h.toShaped.quiet hq, ?_, ?_⟩
  · intro p n i hc
    rw [hq.child] at hc
    exact h.entry_kept hq.sameKinds hc
  · intro i node hn ht
    obtain ⟨old, ho, hto, hl⟩ := hq.link hn
    rw [hq.children, ← hl]
    exact h.file_links i old ho (hto.trans_ne ht)

lemma WF.seq (h : WF s) (n : Nat) : WF { s with nextSeq := n } :=
  h.quiet ⟨rfl, rfl, fun _ => rfl⟩

end sandbox0.s0fs
