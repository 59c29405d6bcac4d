-- Runs of calls on a new volume, and the link counts along them. A rename
-- onto an entry of a file never lowers the count of that file; without such
-- renames the count of a file is the number of its names.
import Sandbox0.S0fsNameSteps

namespace sandbox0.s0fs

/-! ## One call -/

def SnapshotState.bumped (s : SnapshotState) : SnapshotState := { s with nextSeq := s.nextSeq + 1 }

lemma quiet_bumped (s : SnapshotState) : Quiet s s.bumped := ⟨rfl, rfl, fun _ => rfl⟩

lemma logged_state (env : Env) (e : Engine) (r : WalRecord) :
    (logged env e r).toSnapshotState =
      match env.appendErr with
      | some _ => e.toSnapshotState.bumped
      | none => (apply env.reader r e.toSnapshotState.bumped).2 := by
  unfold logged logAndApply append
  cases env.appendErr with
  | some err => rfl
  | none =>
    rw [Call.bind_update_run, Call.bind_run]
    simp only [onState, Call.on_run]
    rcases ha : apply env.reader r e.toSnapshotState.bumped with ⟨o, s'⟩
    unfold SnapshotState.bumped at ha
    rw [ha]
    cases o <;> rfl

/-- The link that a call adds to an inode does not wrap its count. -/
def Op.LinksFit (s : SnapshotState) : Op → Prop
  | .link inode _ _ => ∀ node ∈ s.nodes[inode]?, node.nlink.toNat + 1 < 2 ^ 32
  | _ => True

instance (s : SnapshotState) (op : Op) : Decidable (op.LinksFit s) := by
  unfold Op.LinksFit
  split <;> infer_instance

variable {env : Env} {s : SnapshotState} {op : Op} {r : WalRecord} {e e' : Engine} {inode : Nat}

lemma record_create (hr : op.record env s = some r) (hop : r.op = .create) :
    r.inode = s.nextInode := by
  cases op with
  | createFile | mkdir | symlink => cases hr; rfl
  | forget | lookup | readDir => cases hr
  | _ => cases hr; cases hop

lemma record_link (hr : op.record env s = some r) (hop : r.op = .link) :
    op = .link r.inode r.newParent r.newName := by
  cases op with
  | link _ _ _ => cases hr; rfl
  | forget | lookup | readDir => cases hr
  | _ => cases hr; cases hop

lemma record_rename (hr : op.record env s = some r) (hop : r.op = .rename) :
    op = .rename r.parent r.name r.newParent r.newName := by
  cases op with
  | rename _ _ _ _ => cases hr; rfl
  | forget | lookup | readDir => cases hr
  | _ => cases hr; cases hop

/-- What holds of the names after a call: the rule that every invariant of
the names uses. -/
lemma Called.keeps {P : SnapshotState → Prop} (hc : Called env e op e')
    (h : Shaped e.toSnapshotState) (h0 : P e.toSnapshotState)
    (hquiet : ∀ s', Quiet e.toSnapshotState s' → P s')
    (hlog : ∀ r s', op.record env e.toSnapshotState = some r →
      NameStep e.toSnapshotState.bumped r s' → P s')
    (hforget : ∀ i, Dead e.toSnapshotState i → P (forgotten e i).toSnapshotState) :
    P e'.toSnapshotState := by
  cases hc with
  | refused => exact h0
  | logs r hopen hpre hr =>
    rw [logged_state]
    cases env.appendErr with
    | some err => exact hquiet _ (quiet_bumped _)
    | none => exact hlog r _ hr (apply_step env.reader (h.quiet (quiet_bumped _)).listed r)
  | forgot i node hopen hop hn hl => exact hforget i ⟨node, hn, hl⟩

lemma Shaped.called (h : Shaped e.toSnapshotState) (hc : Called env e op e') :
    Shaped e'.toSnapshotState := by
  refine hc.keeps h h (fun s' hq => h.quiet hq) ?_ (fun i hd => h.without (h.forgotten_without hd))
  intro r s' hr hs
  exact (h.quiet (quiet_bumped _)).step (fun hop => (record_create hr hop).ge) hs

lemma WF.called (h : WF e.toSnapshotState) (hfit : op.LinksFit e.toSnapshotState)
    (hc : Called env e op e') : WF e'.toSnapshotState := by
  refine hc.keeps h.toShaped h (fun s' hq => h.quiet hq) ?_ (fun i hd => h.forgotten hd)
  intro r s' hr hs
  refine (h.quiet (quiet_bumped _)).step ?_ ?_ hs
  · intro hop
    exact (record_create hr hop).ge
  · intro hop
    rw [record_link hr hop] at hfit
    exact hfit

/-! ## Runs of calls -/

/-- The engine of a new volume, as `Open` gives it. -/
def Fresh (e : Engine) : Prop := ∃ volumeID now, e = freshEngine volumeID now

/-- One call of a run, with the clock, the log writes and the segment reads
that it meets. -/
def CallStep (e : Engine) (c : Env × Op) (e' : Engine) : Prop := e' = c.2.next c.1 e

lemma Shaped.callStep {c : Env × Op} (h : Shaped e.toSnapshotState) (hs : CallStep e c e') :
    Shaped e'.toSnapshotState := by
  rw [hs]
  exact h.called (next_called c.1 h.listed c.2)

lemma WF.callStep {c : Env × Op} (h : WF e.toSnapshotState)
    (hfit : c.2.LinksFit e.toSnapshotState) (hs : CallStep e c e') : WF e'.toSnapshotState := by
  rw [hs]
  exact h.called hfit (next_called c.1 h.listed c.2)

/-- `Open` of an empty directory gives the engine of a new volume. -/
lemma openEngine_fresh {volumeID : GoString} (hid : volumeID ≠ []) (now : Int)
    (m : Option SegmentReader) :
    openEngine volumeID now m none .empty = .ok (freshEngine volumeID now) := by
  have hcollect : collectUnlinkedLocked (freshState now) = freshState now := by
    have hnone : (freshState now).unlinked = [] := by
      apply List.eq_nil_iff_forall_not_mem.mpr
      intro i hi
      obtain ⟨hr, node, hn, _⟩ := (mem_unlinked _ i).mp hi
      simp [freshState, GoMap.get_insert_ne _ _ (Ne.symm hr)] at hn
    unfold collectUnlinkedLocked
    rw [hnone]
    rfl
  unfold openEngine
  rw [if_neg hid]
  simp [openBase, Disk.empty, replay, hcollect, freshEngine]

/-! ## The count of the names -/

/-- The link count of every file is the number of its names. -/
def Counted (s : SnapshotState) : Prop :=
  ∀ (i : Nat) node, s.nodes[i]? = some node → node.type ≠ .directory →
    (names s.children i).ncard = node.nlink.toNat

lemma Counted.quiet {s' : SnapshotState} (h : Counted s) (hq : Quiet s s') : Counted s' := by
  intro i node hn ht
  obtain ⟨old, ho, hto, hl⟩ := hq.link hn
  rw [hq.children, ← hl]
  exact h i old ho (hto.trans_ne ht)

lemma Counted.created (h : Counted s) (hwf : WF s) (hi : s.nextInode ≤ r.inode)
    (hc : s.child r.parent r.name = none) : Counted (s0fs.created s r) := by
  intro i node hn ht
  rw [created_names hwf.toShaped hi hc]
  rcases created_nodes hn with ⟨rfl, rfl⟩ | ⟨hri, ho⟩
  · rw [if_pos rfl, Set.ncard_singleton]
    rfl
  · rw [if_neg hri]
    exact h i node ho ht

lemma Counted.linked (h : Counted s) {node : Node} (hn : s.nodes[r.inode]? = some node)
    (hd : node.type ≠ .directory) (hc : s.child r.newParent r.newName = none)
    (hl : node.nlink.toNat + 1 < 2 ^ 32) : Counted (s0fs.linked s r node) := by
  intro i node' hn' ht
  rcases linked_nodes hn' with ⟨rfl, _, hl'⟩ | ⟨hi, ho⟩
  · rw [linked_ncard hc, hl', succ_nlink hl, h r.inode node hn hd]
  · rw [linked_names hc, if_neg hi]
    exact h i node' ho ht

/-- A rename that takes no name from a file. -/
def TakesNoFile (s : SnapshotState) (parent : Nat) (name : GoString) (newParent : Nat)
    (newName : GoString) : Prop :=
  (parent = newParent ∧ name = newName) ∨ ∀ i ∈ s.child newParent newName, IsDir s i

section

variable (h : Counted s) (hc : s.child r.parent r.name = some inode)

include h hc

lemma Counted.renamed (htake : TakesNoFile s r.parent r.name r.newParent r.newName) :
    Counted (s0fs.renamed s r inode) := by
  intro i node hn ht
  obtain ⟨old, ho, hto, hl⟩ := (quiet_touched s inode r.timeUnix).link hn
  have hfile : ¬ IsDir s i := by
    rintro ⟨node', hn', ht'⟩
    rw [ho] at hn'
    cases hn'
    exact ht (hto.symm.trans ht')
  have hmem : (r.parent, r.name) ∈ names s.children inode := hc
  have hfin := finite_names s.children i
  -- the new entry led to no file but through the entry that goes
  have hnew : (r.newParent, r.newName) ∉ names s.children i \ {(r.parent, r.name)} := by
    rintro ⟨hin, hne⟩
    rcases htake with ⟨hp, hnm⟩ | hdir
    · exact hne (by rw [hp, hnm]; rfl)
    · exact hfile (hdir i hin)
  rw [renamed_names, ← hl, ← h i old ho (hto.trans_ne ht)]
  split
  · rename_i hi
    subst hi
    rw [Set.ncard_insert_of_notMem hnew (hfin.sdiff)]
    exact Set.ncard_sdiff_singleton_add_one hmem hfin
  · rename_i hi
    have hold : (r.parent, r.name) ∉ names s.children i := by
      intro hin
      rw [mem_names, ← child_eq, hc] at hin
      exact hi (Option.some.inj hin)
    rw [Set.sdiff_singleton_eq_self hnew, Set.sdiff_singleton_eq_self hold]

lemma Counted.dirRemoved (he : s.hasEntries inode = false) :
    Counted (s0fs.dirRemoved s r inode) := by
  intro i node hn ht
  obtain ⟨hne, ho⟩ := (get_erase_iff s.nodes inode i node).mp hn
  rw [← h i node ho ht]
  congr 1
  ext ⟨q, k⟩
  have hchild : (s0fs.dirRemoved s r inode).child q k = _ := dirRemoved_child q k
  rw [child_eq] at hchild
  rw [mem_names, mem_names, hchild, ← child_eq]
  split
  · rename_i hq
    rcases hq with rfl | ⟨rfl, rfl⟩
    · simp [hasEntries_false he]
    · rw [hc]
      simp [Ne.symm hne]
  · rfl

lemma Counted.nameRemoved (hwf : WF s) (hd : ¬ IsDir s inode) :
    Counted (s0fs.nameRemoved s r inode) := by
  obtain ⟨node, hn, ht, hpos⟩ := hwf.named_file hc hd
  intro i node' hn' ht'
  rcases nameRemoved_nodes hn hpos hn' with ⟨rfl, _, hl⟩ | ⟨hi, ho⟩
  · have hcard := nameRemoved_ncard hc
    have hpred := pred_nlink hpos
    have heq := h inode node hn ht
    rw [hl]
    omega
  · have hold : (r.parent, r.name) ∉ names s.children i := by
      intro hin
      rw [mem_names, ← child_eq, hc] at hin
      exact hi (Option.some.inj hin)
    rw [nameRemoved_names, Set.sdiff_singleton_eq_self hold]
    exact h i node' ho ht'

end

lemma Counted.forgotten (h : Counted e.toSnapshotState) (hwf : WF e.toSnapshotState) {i : Nat}
    (hd : Dead e.toSnapshotState i) : Counted (s0fs.forgotten e i).toSnapshotState := by
  intro j node hn ht
  rw [hwf.forgotten_children hd]
  exact h j node ((get_erase_iff e.nodes i j node).mp hn).2 ht

/-- A call whose rename, if it is one, takes no name from a file. -/
def Op.TakesNoFile (s : SnapshotState) : Op → Prop
  | .rename parent name newParent newName => s0fs.TakesNoFile s parent name newParent newName
  | _ => True

instance (s : SnapshotState) (op : Op) : Decidable (op.TakesNoFile s) := by
  unfold Op.TakesNoFile sandbox0.s0fs.TakesNoFile
  split <;> infer_instance

lemma Counted.called (h : Counted e.toSnapshotState) (hwf : WF e.toSnapshotState)
    (hfit : op.LinksFit e.toSnapshotState) (htake : op.TakesNoFile e.toSnapshotState)
    (hc : Called env e op e') : Counted e'.toSnapshotState := by
  refine hc.keeps hwf.toShaped h (fun s' hq => h.quiet hq) ?_ (fun i hd => h.forgotten hwf hd)
  intro r s' hr hs
  have hb := quiet_bumped e.toSnapshotState
  have h1 := h.quiet hb
  cases hs with
  | quiet hq => exact h1.quiet hq
  | create hop _ _ _ hc => exact h1.created (hwf.quiet hb) (record_create hr hop).ge hc
  | link node hop hn hd _ hc =>
    rw [record_link hr hop] at hfit
    exact h1.linked hn hd hc (hfit node hn)
  | rename inode hop _ hc _ =>
    rw [record_rename hr hop] at htake
    exact h1.renamed hc htake
  | rmdir inode _ _ hc _ he => exact h1.dirRemoved hc he
  | unlink inode _ _ hc hd => exact h1.nameRemoved hc (hwf.quiet hb) hd

/-- In every run whose renames take no name from a file, and whose links
never wrap a count, the link count of every file is the number of its names. -/
theorem a_link_count_is_the_number_of_names {e : Engine} (h : Reach Fresh CallStep
      (fun e c => c.2.LinksFit e.toSnapshotState ∧ c.2.TakesNoFile e.toSnapshotState) e) :
    ∀ (i : Nat) node, e.nodes[i]? = some node → node.type ≠ .directory →
      node.nlink.toNat = e.links i := by
  have hinv : WF e.toSnapshotState ∧ Counted e.toSnapshotState := by
    refine h.keeps (P := fun e => WF e.toSnapshotState ∧ Counted e.toSnapshotState) ?_ ?_
    · rintro e ⟨volumeID, now, rfl⟩
      refine ⟨freshState_wf now, ?_⟩
      intro i node hn ht
      obtain ⟨-, rfl⟩ := freshState_nodes hn
      exact absurd rfl ht
    · rintro e c ⟨hwf, hcnt⟩ ⟨hfit, htake⟩
      refine ⟨hwf.callStep hfit rfl, ?_⟩
      exact hcnt.called hwf hfit htake (next_called c.1 hwf.listed c.2)
  intro i node hn ht
  rw [links_eq_ncard, hinv.2 i node hn ht]

/-- A clock that stands, a log that takes every record, and no segments. -/
def still : Env := { now := 0, appendErr := none, reader := none }

def after (calls : List Op) : Engine :=
  (calls.map fun op => (still, op)).foldl (fun e c => c.2.next c.1 e) (freshEngine (lit "vol") 0)

def twoNames : Engine :=
  after [.mkdir 1 (lit "d") 0o755, .createFile 1 (lit "f") 0o644, .link 3 2 (lit "g"),
    .rename 1 (lit "f") 1 (lit "h")]

theorem a_link_count_is_two_for_two_names :
    ∃ node : Node, twoNames.nodes[3]? = some node ∧ node.type ≠ .directory ∧
      node.nlink.toNat = twoNames.links 3 := by
  have hfile : twoNames.nodes[3]?.map (·.type) = some .file := by decide +kernel
  obtain ⟨node, hnode, htype⟩ := Option.map_eq_some_iff.mp hfile
  have hdir : node.type ≠ .directory := by rw [htype]; decide
  refine ⟨node, hnode, hdir, ?_⟩
  exact a_link_count_is_the_number_of_names (Reach.run (.start ⟨_, _, rfl⟩) _ (by decide +kernel))
    3 node hnode hdir

/-- A rename onto the name of a file leaves that file with a link count of
one and no name. -/
theorem a_rename_onto_a_file_leaves_its_count :
    ∃ e : Engine, Reach Fresh CallStep (fun _ _ => True) e ∧
      ∃ (i : Nat) (node : Node), e.nodes[i]? = some node ∧ node.type ≠ .directory ∧
        node.nlink = 1 ∧ e.links i = 0 := by
  refine ⟨after [.createFile 1 (lit "a") 0o644, .createFile 1 (lit "b") 0o644,
    .rename 1 (lit "a") 1 (lit "b")], Reach.run (.start ⟨_, _, rfl⟩) _ (by decide +kernel), 3,
    createdNode { seq := 2, op := .create, inode := 3, mode := 0o644, timeUnix := 0 }, ?_⟩
  decide +kernel

end sandbox0.s0fs
