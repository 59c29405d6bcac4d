-- The directories of a volume as a tree. A rename onto a directory, or of a
-- directory to a place below itself, breaks the tree; no other call does.
import Sandbox0.S0fsLinks

namespace sandbox0.s0fs

open Relation (ReflTransGen)

/-! ## Paths from a root -/

section Paths

variable {α : Type} {E E' : α → α → Prop} {root : α}

variable {d x : α}

variable (hkeep : ∀ y z, E y z → z ≠ d → E' y z)

include hkeep

/-- Paths that do not pass through `d` survive a change of the edges into `d`. -/
lemma path_around (hx : ReflTransGen E root x) (hd : ¬ ReflTransGen E d x) :
    ReflTransGen E' root x := by
  induction hx with
  | refl => exact .refl
  | @tail y z _ hyz ih =>
    have hy : ¬ ReflTransGen E d y := fun hdy => hd (hdy.tail hyz)
    have hz : z ≠ d := fun he => hd (he ▸ .refl)
    exact (ih hy).tail (hkeep y z hyz hz)

/-- A vertex that moves to a place that is not below it takes everything
below it along. -/
lemma path_after_move {q : α} (hq : ReflTransGen E root q) (hbelow : ¬ ReflTransGen E d q)
    (hnew : E' q d) (hx : ReflTransGen E root x) : ReflTransGen E' root x := by
  have hd : ReflTransGen E' root d := (path_around hkeep hq hbelow).tail hnew
  induction hx with
  | refl => exact .refl
  | @tail y z _ hyz ih =>
    by_cases hz : z = d
    · exact hz ▸ hd
    · exact ih.tail (hkeep y z hyz hz)

lemma path_after_removal (hleaf : ∀ z, ¬ E d z) (hx : ReflTransGen E root x) (hne : x ≠ d) :
    ReflTransGen E' root x := by
  refine path_around hkeep hx ?_
  intro hdx
  rcases hdx.cases_head with he | ⟨y, hdy, _⟩
  · exact hne he.symm
  · exact hleaf y hdy

end Paths

/-! ## The tree of the directories -/

/-- `p` has an entry for the directory `i`. -/
def Edge (s : SnapshotState) (p i : Nat) : Prop := IsDir s i ∧ ∃ n, s.child p n = some i

/-- `i` is `p` or a directory below it. -/
def Under (s : SnapshotState) (p i : Nat) : Prop := ReflTransGen (Edge s) p i

/-- Every directory is the root or below it. -/
def Rooted (s : SnapshotState) : Prop := ∀ i, IsDir s i → Under s rootInode i

variable {s : SnapshotState} {i inode : Nat} {r : WalRecord}

lemma named_of_under (h : Under s rootInode i) (hne : i ≠ rootInode) :
    ∃ p n, s.child p n = some i := by
  rcases h.cases_tail with he | ⟨p, _, hedge⟩
  · exact absurd he hne
  · exact ⟨p, hedge.2⟩

lemma under_of_empty {j : Nat} (he : s.hasEntries i = false) (h : Under s i j) : j = i := by
  rcases h.cases_head with hij | ⟨k, ⟨_, n, hc⟩, _⟩
  · exact hij.symm
  · rw [hasEntries_false he] at hc
    cases hc

/-- Directories that keep their entries keep the tree. -/
lemma Rooted.of_edges {s' : SnapshotState} (h : Rooted s) (hdir : ∀ i, IsDir s' i → IsDir s i)
    (hedge : ∀ p i, Edge s p i → Edge s' p i) : Rooted s' := by
  intro i hi
  exact ReflTransGen.mono hedge _ _ (h i (hdir i hi))

lemma Rooted.quiet {s' : SnapshotState} (h : Rooted s) (hq : Quiet s s') : Rooted s' := by
  refine h.of_edges (fun i hi => hq.sameKinds.symm.isDir hi) ?_
  rintro p i ⟨hi, n, hc⟩
  exact ⟨hq.sameKinds.isDir hi, n, by rw [hq.child]; exact hc⟩

lemma Rooted.created (h : Rooted s) (hsh : Shaped s) (hi : s.nextInode ≤ r.inode)
    (hp : IsDir s r.parent) (hc : s.child r.parent r.name = none) : Rooted (s0fs.created s r) := by
  have hedge : ∀ p i, Edge s p i → Edge (s0fs.created s r) p i := by
    rintro p i ⟨hd, n, hs⟩
    refine ⟨(created_isDir hsh hi hd).1, n, ?_⟩
    rw [created_child hsh hi, if_neg]
    · exact hs
    · rintro ⟨rfl, rfl⟩
      rw [hc] at hs
      cases hs
  rintro i ⟨node, hn, ht⟩
  rcases created_nodes hn with ⟨rfl, rfl⟩ | ⟨_, ho⟩
  · refine ReflTransGen.tail (ReflTransGen.mono hedge _ _ (h r.parent hp)) ⟨⟨_, hn, ht⟩, r.name, ?_⟩
    rw [created_child hsh hi, if_pos ⟨rfl, rfl⟩]
  · exact ReflTransGen.mono hedge _ _ (h i ⟨node, ho, ht⟩)

lemma Rooted.linked (h : Rooted s) {node : Node} (hn : s.nodes[r.inode]? = some node)
    (hc : s.child r.newParent r.newName = none) : Rooted (s0fs.linked s r node) := by
  have hk := linked_kinds hn
  refine h.of_edges (fun i hi => hk.symm.isDir hi) ?_
  rintro p i ⟨hd, n, hs⟩
  refine ⟨hk.isDir hd, n, ?_⟩
  rw [child_eq]
  simp only [s0fs.linked, childOf_putChild]
  rw [if_neg]
  · exact hs
  · rintro ⟨rfl, rfl⟩
    rw [hc] at hs
    cases hs

/-- A rename that keeps the tree: it takes no name from a directory, and it
moves no directory to itself or to a place below itself. -/
def KeepsTree (s : SnapshotState) (parent : Nat) (name : GoString) (newParent : Nat)
    (newName : GoString) : Prop :=
  ((parent = newParent ∧ name = newName) ∨ ∀ i ∈ s.child newParent newName, ¬ IsDir s i) ∧
    ∀ i ∈ s.child parent name, IsDir s i → ¬ Under s i newParent

lemma renamed_isDir : IsDir (renamed s r inode) i ↔ IsDir s i :=
  ⟨fun hd => (renamed_kinds s r inode).symm.isDir hd, fun hd => (renamed_kinds s r inode).isDir hd⟩

section

variable (h : Rooted s) (hc : s.child r.parent r.name = some inode)

include h hc

lemma Rooted.renamed (hnp : IsDir s r.newParent)
    (hkeep : KeepsTree s r.parent r.name r.newParent r.newName) :
    Rooted (s0fs.renamed s r inode) := by
  have hedge : ∀ p i, Edge s p i → i ≠ inode → Edge (s0fs.renamed s r inode) p i := by
    rintro p i ⟨hd, n, hs⟩ hne
    have hold : ¬ (r.parent = p ∧ r.name = n) := by
      rintro ⟨rfl, rfl⟩
      rw [hc] at hs
      exact hne (Option.some.inj hs).symm
    have hnew : ¬ (r.newParent = p ∧ r.newName = n) := by
      rintro ⟨rfl, rfl⟩
      rcases hkeep.1 with he | hfile
      · exact hold he
      · exact hfile i hs hd
    refine ⟨renamed_isDir.mpr hd, n, ?_⟩
    rw [child_eq]
    simp only [s0fs.renamed, childOf_putChild, childOf_dropChild, if_neg hnew, if_neg hold]
    exact hs
  intro i hi
  have hi' : IsDir s i := renamed_isDir.mp hi
  by_cases hd : IsDir s inode
  · -- a directory moves, and `newParent` is not below it
    refine path_after_move hedge (h r.newParent hnp) (hkeep.2 inode hc hd) ?_ (h i hi')
    refine ⟨renamed_isDir.mpr hd, r.newName, ?_⟩
    rw [child_eq]
    simp [s0fs.renamed, childOf_putChild]
  · refine ReflTransGen.mono ?_ _ _ (h i hi')
    rintro p j hpj
    exact hedge p j hpj (fun he => hd (he ▸ hpj.1))

lemma Rooted.dirRemoved (he : s.hasEntries inode = false) : Rooted (s0fs.dirRemoved s r inode) := by
  rintro i ⟨node, hn, ht⟩
  obtain ⟨hne, ho⟩ := (get_erase_iff s.nodes inode i node).mp hn
  refine path_after_removal (d := inode) ?_ ?_ (h i ⟨node, ho, ht⟩) hne
  · rintro p j ⟨⟨nodej, hnj, htj⟩, n, hs⟩ hj
    refine ⟨⟨nodej, (get_erase_iff s.nodes inode j nodej).mpr ⟨hj, hnj⟩, htj⟩, n, ?_⟩
    rw [dirRemoved_child, if_neg]
    · exact hs
    · rintro (rfl | ⟨rfl, rfl⟩)
      · rw [hasEntries_false he] at hs
        cases hs
      · rw [hc] at hs
        exact hj (Option.some.inj hs).symm
  · rintro j ⟨_, n, hs⟩
    rw [hasEntries_false he] at hs
    cases hs

lemma Rooted.nameRemoved (hd : ¬ IsDir s inode) : Rooted (s0fs.nameRemoved s r inode) := by
  have hk := nameRemoved_kinds s r inode
  refine h.of_edges (fun i hi => hk.symm.isDir hi) ?_
  rintro p i ⟨hi, n, hs⟩
  refine ⟨hk.isDir hi, n, ?_⟩
  rw [child_eq]
  simp only [s0fs.nameRemoved, childOf_dropChild]
  rw [if_neg]
  · exact hs
  · rintro ⟨rfl, rfl⟩
    rw [hc] at hs
    exact hd (Option.some.inj hs ▸ hi)

end

lemma Rooted.forgotten {e : Engine} (h : Rooted e.toSnapshotState) (hsh : Shaped e.toSnapshotState)
    {j : Nat} (hd : Dead e.toSnapshotState j) : Rooted (s0fs.forgotten e j).toSnapshotState := by
  refine h.of_edges ?_ ?_
  · rintro i ⟨node, hn, ht⟩
    exact ⟨node, ((get_erase_iff e.nodes j i node).mp hn).2, ht⟩
  · rintro p i ⟨⟨node, hn, ht⟩, n, hs⟩
    refine ⟨⟨node, (get_erase_iff e.nodes j i node).mpr ⟨?_, hn⟩, ht⟩, n, ?_⟩
    · rintro rfl
      exact hsh.dead_file hd ⟨node, hn, ht⟩
    · rw [child_eq, hsh.forgotten_children hd]
      exact hs

/-- A call whose rename, if it is one, keeps the tree. -/
def Op.KeepsTree (s : SnapshotState) : Op → Prop
  | .rename parent name newParent newName => s0fs.KeepsTree s parent name newParent newName
  | _ => True

lemma Rooted.called {env : Env} {e e' : Engine} {op : Op} (h : Rooted e.toSnapshotState)
    (hsh : Shaped e.toSnapshotState) (hkeep : op.KeepsTree e.toSnapshotState)
    (hc : Called env e op e') : Rooted e'.toSnapshotState := by
  refine hc.keeps hsh h (fun s' hq => h.quiet hq) ?_ (fun i hd => h.forgotten hsh hd)
  intro r s' hr hs
  have hb := quiet_bumped e.toSnapshotState
  have h1 := h.quiet hb
  cases hs with
  | quiet hq => exact h1.quiet hq
  | create hop _ _ hp hc => exact h1.created (hsh.quiet hb) (record_create hr hop).ge hp hc
  | link node _ hn _ _ hc => exact h1.linked hn hc
  | rename inode hop _ hc hnp =>
    rw [record_rename hr hop] at hkeep
    exact h1.renamed hc hnp hkeep
  | rmdir inode _ _ hc _ he => exact h1.dirRemoved hc he
  | unlink inode _ _ hc hd => exact h1.nameRemoved hc hd

/-- The directories form a tree at the root: every other directory has
exactly one name, and every directory, also the one of any entry, is the
root or below it. -/
structure IsTree (s : SnapshotState) : Prop where
  named_once : ∀ i, IsDir s i → i ≠ rootInode →
    ∃! q : Nat × GoString, s.child q.1 q.2 = some i
  root_unnamed : ∀ p n, s.child p n ≠ some rootInode
  reached : ∀ i, IsDir s i → Under s rootInode i
  entries_reached : ∀ p n i, s.child p n = some i → Under s rootInode p

lemma Rooted.isTree (h : Rooted s) (hsh : Shaped s) : IsTree s := by
  refine ⟨?_, hsh.root_unnamed, h, fun p n i hc => h p (hsh.entry_listed hc)⟩
  intro i hd hne
  obtain ⟨p, n, hc⟩ := named_of_under (h i hd) hne
  exact ⟨(p, n), hc, fun q hq => hsh.dir_once i hd hq hc⟩

/-- In every run whose renames keep the tree, the directories form a tree. -/
theorem the_directories_form_a_tree {e : Engine}
    (h : Reach Fresh CallStep (fun e c => c.2.KeepsTree e.toSnapshotState) e) :
    IsTree e.toSnapshotState := by
  have hinv : Shaped e.toSnapshotState ∧ Rooted e.toSnapshotState := by
    refine h.keeps (P := fun e => Shaped e.toSnapshotState ∧ Rooted e.toSnapshotState) ?_ ?_
    · rintro e ⟨volumeID, now, rfl⟩
      refine ⟨(freshState_wf now).toShaped, ?_⟩
      rintro i ⟨node, hn, _⟩
      obtain ⟨rfl, _⟩ := freshState_nodes hn
      exact .refl
    · rintro e c ⟨hsh, hrooted⟩ hkeep
      refine ⟨hsh.callStep rfl, ?_⟩
      exact hrooted.called hsh hkeep (next_called c.1 hsh.listed c.2)
  exact hinv.2.isTree hinv.1

/-- A directory moves into another one. -/
theorem a_directory_moves_into_another :
    IsTree (after [.mkdir 1 (lit "a") 0o755, .mkdir 1 (lit "b") 0o755,
      .rename 1 (lit "a") 3 (lit "c")]).toSnapshotState := by
  refine the_directories_form_a_tree
    (Reach.run (.start ⟨_, _, rfl⟩) _ ⟨trivial, trivial, ?_, trivial⟩)
  refine ⟨Or.inr (by decide +kernel), ?_⟩
  intro i hi _ hunder
  have hi2 : (after [.mkdir 1 (lit "a") 0o755, .mkdir 1 (lit "b") 0o755]).child 1
    (lit "a") = some 2 := by
    decide +kernel
  cases hi2.symm.trans hi
  cases under_of_empty (by decide +kernel) hunder

/-- A rename onto a directory leaves that directory without a name, and a
rename of a directory into itself leaves it below no other directory. -/
theorem a_rename_can_break_the_tree : (∃ e : Engine, Reach Fresh CallStep (fun _ _ => True) e ∧
      IsDir e.toSnapshotState 3 ∧ e.links 3 = 0 ∧ ¬ IsTree e.toSnapshotState) ∧
    (∃ e : Engine, Reach Fresh CallStep (fun _ _ => True) e ∧
      IsDir e.toSnapshotState 2 ∧ e.child 2 (lit "x") = some 2 ∧ ¬ IsTree e.toSnapshotState) := by
  constructor
  · refine ⟨after [.mkdir 1 (lit "a") 0o755, .mkdir 1 (lit "b") 0o755,
      .rename 1 (lit "a") 1 (lit "b")], Reach.run (.start ⟨_, _, rfl⟩) _ (by decide +kernel), ?_⟩
    refine ⟨by decide +kernel, by decide +kernel, fun htree => ?_⟩
    obtain ⟨q, hq, _⟩ := htree.named_once 3 (by decide +kernel) (by decide)
    have hmem := (mem_entries _ q.1 q.2 3).mpr hq
    have hnone : ∀ x ∈ (after [.mkdir 1 (lit "a") 0o755, .mkdir 1 (lit "b") 0o755,
        .rename 1 (lit "a") 1 (lit "b")]).entries, x.2.2 ≠ 3 := by decide +kernel
    exact hnone _ hmem rfl
  · refine ⟨after [.mkdir 1 (lit "a") 0o755, .rename 1 (lit "a") 2 (lit "x")],
      Reach.run (.start ⟨_, _, rfl⟩) _ (by decide +kernel), ?_⟩
    refine ⟨by decide +kernel, by decide +kernel, fun htree => ?_⟩
    have hunder := htree.reached 2 (by decide +kernel)
    cases under_of_empty (by decide +kernel) hunder

end sandbox0.s0fs
