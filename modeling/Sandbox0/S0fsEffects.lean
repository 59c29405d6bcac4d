-- What one record does to the names of a volume. `apply` either leaves the
-- names alone, or does one of five things to them, and each needs what the
-- record checks.
import Sandbox0.S0fsCalls

namespace sandbox0.s0fs

open GoMap Call

/-! ## The entries of the directories -/

abbrev Children := GoMap Nat (GoMap GoString Nat)

def childOf (kids : Children) (parent : Nat) (name : GoString) : Option Nat :=
  kids[parent]?.bind (fun entries => entries[name]?)

section

variable (kids : Children) (p i q : Nat) (m : GoString)

lemma child_eq (s : SnapshotState) (p : Nat) (n : GoString) :
    s.child p n = childOf s.children p n :=
  rfl

def putChild (kids : Children) (parent : Nat) (name : GoString) (inode : Nat) : Children :=
  kids.insert parent ((kids[parent]?.getD ∅).insert name inode)

def dropChild (kids : Children) (parent : Nat) (name : GoString) : Children :=
  kids.insert parent ((kids[parent]?.getD ∅).erase name)

lemma childOf_insert (entries : GoMap GoString Nat) :
    childOf (kids.insert p entries) q m = if p = q then entries[m]? else childOf kids q m := by
  unfold childOf
  rw [get_insert]
  split <;> rfl

lemma getD_childOf : (kids[p]?.getD ∅)[m]? = childOf kids p m := by
  unfold childOf
  cases kids[p]? <;> simp

lemma childOf_putChild (i : Nat) (n m : GoString) :
    childOf (putChild kids p n i) q m = if p = q ∧ n = m then some i else childOf kids q m := by
  rw [putChild, childOf_insert, get_insert, getD_childOf]
  by_cases hp : p = q
  · simp [hp]
  · simp [hp]

lemma childOf_dropChild (n m : GoString) :
    childOf (dropChild kids p n) q m = if p = q ∧ n = m then none else childOf kids q m := by
  rw [dropChild, childOf_insert, get_erase, getD_childOf]
  by_cases hp : p = q
  · simp [hp]
  · simp [hp]

lemma childOf_insert_empty :
    childOf (kids.insert i ∅) q m = if i = q then none else childOf kids q m := by
  simp [childOf_insert]

lemma childOf_erase : childOf (kids.erase i) q m = if i = q then none else childOf kids q m := by
  unfold childOf
  by_cases hi : i = q
  · subst hi; simp
  · simp [get_erase_ne _ hi, hi]

end

variable {p i inode : Nat} {n : GoString} {s : SnapshotState} {m : GoMap GoString Nat}
    {r : WalRecord}

lemma listed_of_child {kids : Children} (h : childOf kids p n = some i) :
    ∃ m, kids[p]? = some m := by
  unfold childOf at h
  cases hm : kids[p]? with
  | none => rw [hm] at h; cases h
  | some m => exact ⟨m, rfl⟩

lemma hasEntries_false (h : s.hasEntries i = false) (n : GoString) : s.child i n = none := by
  unfold SnapshotState.hasEntries at h
  unfold SnapshotState.child
  cases hm : s.children[i]? with
  | none => rfl
  | some m =>
    rw [hm, Option.getD_some, Bool.not_eq_false'] at h
    exact (GoMap.isEmpty_iff m).mp h n

/-! ## The state after each record -/

def created (s : SnapshotState) (r : WalRecord) : SnapshotState :=
  { s with
    nodes := s.nodes.insert r.inode (createdNode r)
    children := putChild
      (if r.type.getD .file = .directory then s.children.insert r.inode ∅ else s.children)
      r.parent r.name r.inode
    nextInode := if r.inode ≥ s.nextInode then r.inode + 1 else s.nextInode }

def linked (s : SnapshotState) (r : WalRecord) (node : Node) : SnapshotState :=
  { s with
    nodes := s.nodes.insert r.inode { node with nlink := node.nlink + 1, ctime := r.timeUnix }
    children := putChild s.children r.newParent r.newName r.inode }

/-- The node of the entry gets a new change time, if there is one. -/
def touched (s : SnapshotState) (inode : Nat) (time : Int) : GoMap Nat Node :=
  match s.nodes[inode]? with
  | none => s.nodes
  | some node => s.nodes.insert inode { node with ctime := time }

def renamed (s : SnapshotState) (r : WalRecord) (inode : Nat) : SnapshotState :=
  { s with
    nodes := touched s inode r.timeUnix
    children := putChild (dropChild s.children r.parent r.name) r.newParent r.newName inode }

def dirRemoved (s : SnapshotState) (r : WalRecord) (inode : Nat) : SnapshotState :=
  { s with
    nodes := s.nodes.erase inode
    children := (dropChild s.children r.parent r.name).erase inode }

/-- The node of the entry has one name less, if it has a count to lower. -/
def lessLinked (s : SnapshotState) (inode : Nat) (time : Int) : GoMap Nat Node :=
  match s.nodes[inode]? with
  | none => s.nodes
  | some node =>
    if node.nlink > 0 then s.nodes.insert inode { node with nlink := node.nlink - 1, ctime := time }
    else s.nodes

def nameRemoved (s : SnapshotState) (r : WalRecord) (inode : Nat) : SnapshotState :=
  { s with
    nodes := lessLinked s inode r.timeUnix
    children := dropChild s.children r.parent r.name }

def shape (node : Node) : Nat × FileType × UInt32 := (node.inode, node.type, node.nlink)

/-- Only contents, modes, owners, times and the sequence number changed. -/
structure Quiet (s s' : SnapshotState) : Prop where
  children : s'.children = s.children
  nextInode : s'.nextInode = s.nextInode
  nodes : ∀ i : Nat, s'.nodes[i]?.map shape = s.nodes[i]?.map shape

lemma Quiet.refl (s : SnapshotState) : Quiet s s := ⟨rfl, rfl, fun _ => rfl⟩

lemma Quiet.trans {s1 s2 : SnapshotState} (h1 : Quiet s s1) (h2 : Quiet s1 s2) : Quiet s s2 :=
  ⟨h2.children.trans h1.children, h2.nextInode.trans h1.nextInode,
    fun i => (h2.nodes i).trans (h1.nodes i)⟩

lemma Quiet.node {s' : SnapshotState} (h : Quiet s s') {node : Node}
    (hn : s'.nodes[i]? = some node) : ∃ old, s.nodes[i]? = some old ∧ shape old = shape node := by
  have hi := h.nodes i
  rw [hn, Option.map_some, eq_comm, Option.map_eq_some_iff] at hi
  exact hi

lemma quiet_setNode (s : SnapshotState) {old : Node} (node : Node) (ho : s.nodes[i]? = some old)
    (hs : shape node = shape old) : Quiet s { s with nodes := s.nodes.insert i node } :=
  ⟨rfl, rfl, map_insert_of_get ho hs⟩

/-- What a record can do to the names of a volume. -/
inductive NameStep (s : SnapshotState) (r : WalRecord) : SnapshotState → Prop where
  | quiet {s' : SnapshotState} (h : Quiet s s') : NameStep s r s'
  | create (hop : r.op = .create) (hi : r.inode ≠ 0) (hname : r.name ≠ [])
      (hp : IsDir s r.parent) (hc : s.child r.parent r.name = none) : NameStep s r (created s r)
  | link (node : Node) (hop : r.op = .link) (hn : s.nodes[r.inode]? = some node)
      (hd : node.type ≠ .directory) (hp : IsDir s r.newParent)
      (hc : s.child r.newParent r.newName = none) : NameStep s r (linked s r node)
  | rename (inode : Nat) (hop : r.op = .rename) (hp : IsDir s r.parent)
      (hc : s.child r.parent r.name = some inode) (hnp : IsDir s r.newParent) :
      NameStep s r (renamed s r inode)
  | rmdir (inode : Nat) (hop : r.op = .rmdir) (hp : IsDir s r.parent)
      (hc : s.child r.parent r.name = some inode) (hd : IsDir s inode)
      (he : s.hasEntries inode = false) : NameStep s r (dirRemoved s r inode)
  | unlink (inode : Nat) (hop : r.op = .unlink) (hp : IsDir s r.parent)
      (hc : s.child r.parent r.name = some inode) (hd : ¬ IsDir s inode) :
      NameStep s r (nameRemoved s r inode)

/-! ## Each record does one of these -/

lemma IsDir.listed (h : DirsListed s) (hp : IsDir s p) : ∃ m, s.children[p]? = some m := by
  obtain ⟨node, hn, hd⟩ := hp
  exact h p node hn hd

lemma setChild_run (h : s.children[p]? = some m) :
    setChild p n i s = (.ok (), { s with children := putChild s.children p n i }) := by
  simp [setChild, putChild, h]

lemma deleteChild_run (h : s.children[p]? = some m) :
    deleteChild p n s = (.ok (), { s with children := dropChild s.children p n }) := by
  simp [deleteChild, dropChild, h]

lemma dropChild_listed {kids : Children} {q : Nat} (h : kids[q]? = some m) :
    ∃ m', (dropChild kids p n)[q]? = some m' := by
  by_cases hp : p = q
  · subst hp
    exact ⟨_, get_insert_self _ _ _⟩
  · exact ⟨m, by rw [dropChild, get_insert_ne _ _ hp]; exact h⟩

lemma applyCreate_applies (h : DirsListed s) (r : WalRecord) : Applies (applyCreate r) s
      (¬ (r.inode = 0 ∨ r.parent = 0 ∨ r.name = []) ∧ IsDir s r.parent ∧
        s.child r.parent r.name = none) (created s r) := by
  unfold applyCreate
  refine failIf_applies fun _ => (ensureDirLocked_checks h r.parent).applies fun hp _ _ => ?_
  obtain ⟨m, hm⟩ := hp.listed h
  refine (failIf_applies fun _ => applies_of_ok ?_).imp (P := _ ∧ True) (by simp)
  by_cases hd : r.type.getD .file = .directory
  · have hm' : ∃ m', (s.children.insert r.inode ∅)[r.parent]? = some m' := by
      by_cases hip : r.inode = r.parent
      · rw [hip]; exact ⟨∅, get_insert_self _ _ _⟩
      · exact ⟨m, by rw [get_insert_ne _ _ hip]; exact hm⟩
    obtain ⟨m', hm'⟩ := hm'
    rw [onlyIf_pos _ hd, bind_update_run, setNode, bind_update_run,
      bind_ok (setChild_run hm'), update_run]
    simp only [created, hd, if_true]
    split <;> rfl
  · have hset := setChild_run (n := r.name) (i := r.inode)
      (s := { s with nodes := s.nodes.insert r.inode (createdNode r) }) hm
    rw [onlyIf_neg _ hd, bind_pure_run, setNode, bind_update_run, bind_ok hset, update_run]
    simp only [created, hd, if_false]
    split <;> rfl

lemma applyLink_applies (h : DirsListed s) (r : WalRecord) {node : Node}
    (hn : s.nodes[r.inode]? = some node) : Applies (applyLink r) s
      (¬ (r.inode = 0 ∨ r.newParent = 0 ∨ r.newName = []) ∧ node.type ≠ .directory ∧
        IsDir s r.newParent ∧ s.child r.newParent r.newName = none) (linked s r node) := by
  unfold applyLink
  refine failIf_applies fun _ => ?_
  simp only [Call.Applies, bind_read_run, hn]
  refine failIf_applies fun _ => (ensureDirLocked_checks h r.newParent).applies fun hp _ _ => ?_
  obtain ⟨m, hm⟩ := hp.listed h
  refine (failIf_applies fun _ => applies_of_ok ?_).imp (P := _ ∧ True) (by simp)
  rw [bind_ok (setChild_run hm)]
  rfl

lemma applyLink_refused (hn : s.nodes[r.inode]? = none) : ∃ e, applyLink r s = (.err e, s) := by
  unfold applyLink
  by_cases hg : r.inode = 0 ∨ r.newParent = 0 ∨ r.newName = []
  · rw [failIf_pos _ hg]
    exact ⟨_, rfl⟩
  · rw [failIf_neg _ hg, bind_pure_run, bind_read_run, hn]
    exact ⟨_, rfl⟩

lemma lookupLocked_applies {s' : SnapshotState} (h : DirsListed s) {f : Nat → Fs Unit} {P : Prop}
    (hc : s.child p n = some i) (hf : IsDir s p → Applies (f i) s P s') :
    Applies (lookupLocked p n >>= f) s (IsDir s p ∧ P) s' := by
  have hrest : (IsDir s p ∧ ∃ i, s.child p n = some i) →
      ∀ a, lookupLocked p n s = (.ok a, s) → Applies (f a) s P s' := by
    intro hl a ha
    rw [lookupLocked_ok h hl.1 hc] at ha
    cases ha
    exact hf hl.1
  exact ((lookupLocked_checks h p n).applies hrest).imp (by simp [hc])

lemma lookupLocked_refuses (h : DirsListed s) (hc : s.child p n = none) (f : Nat → Fs Unit) :
    ∃ e, (lookupLocked p n >>= f) s = (.err e, s) := by
  obtain ⟨e, he⟩ := (lookupLocked_checks h p n).refuses (by simp [hc])
  exact ⟨e, bind_err he⟩

section

variable (h : DirsListed s) (r : WalRecord) (hc : s.child r.parent r.name = some inode)

include h hc

lemma applyRename_applies :
    Applies (applyRename r) s (IsDir s r.parent ∧ IsDir s r.newParent) (renamed s r inode) := by
  unfold applyRename
  refine lookupLocked_applies h hc fun hp => ?_
  refine ((ensureDirLocked_checks h r.newParent).applies fun hnp _ _ =>
    applies_of_ok ?_).imp (P := _ ∧ True) (by simp)
  obtain ⟨m, hm⟩ := hp.listed h
  obtain ⟨m', hm'⟩ := hnp.listed h
  obtain ⟨m'', hm''⟩ := dropChild_listed (p := r.parent) (n := r.name) hm'
  have hset := setChild_run (n := r.newName) (i := inode)
    (s := { s with children := dropChild s.children r.parent r.name }) hm''
  rw [bind_ok (deleteChild_run hm), bind_ok hset, bind_read_run]
  unfold renamed touched
  cases hn : s.nodes[inode]? <;> rfl

lemma applyRemoveDir_applies {node : Node} (hn : s.nodes[inode]? = some node) :
    Applies (applyRemoveDir r) s
      (IsDir s r.parent ∧ ¬ node.type ≠ .directory ∧ s.hasEntries inode = false)
      (dirRemoved s r inode) := by
  unfold applyRemoveDir
  refine lookupLocked_applies h hc fun hp => ?_
  obtain ⟨m, hm⟩ := hp.listed h
  simp only [Call.Applies, bind_read_run, hn]
  refine failIf_applies fun _ => ?_
  refine (failIf_applies fun _ => applies_of_ok ?_).imp (P := _ ∧ True) (by simp)
  rw [bind_ok (deleteChild_run hm)]
  rfl

lemma applyRemoveDir_refused (hn : s.nodes[inode]? = none) :
    ∃ e, applyRemoveDir r s = (.err e, s) := by
  unfold applyRemoveDir
  rcases lookupLocked_checks h r.parent r.name with ⟨hl, _⟩ | ⟨_, e, hx⟩
  · rw [bind_ok (lookupLocked_ok h hl.1 hc), bind_read_run, hn]
    exact ⟨_, rfl⟩
  · exact ⟨e, bind_err hx⟩

lemma applyUnlink_applies :
    Applies (applyUnlink r) s (IsDir s r.parent ∧ ¬ IsDir s inode) (nameRemoved s r inode) := by
  unfold applyUnlink
  refine lookupLocked_applies h hc fun hp => ?_
  obtain ⟨m, hm⟩ := hp.listed h
  simp only [Call.Applies, bind_read_run]
  cases hn : s.nodes[inode]? with
  | none =>
    refine (applies_of_ok ?_).imp (P := True) (by simp [IsDir, hn])
    simp only
    rw [deleteChild_run hm, nameRemoved, lessLinked, hn]
  | some node =>
    refine (failIf_applies fun _ => applies_of_ok ?_).imp (P := _ ∧ True)
      (by simp [IsDir, hn])
    rw [bind_ok (deleteChild_run hm), nameRemoved, lessLinked, hn]
    by_cases hl : node.nlink > 0
    · rw [onlyIf_pos _ hl]
      simp only [hl, if_true]
      rfl
    · rw [onlyIf_neg _ hl]
      simp only [hl, if_false]
      rfl

end

/-! ## Contents -/

def contents (m : Option SegmentReader) (s : SnapshotState) (node : Node) (inode : Nat) :
    Outcome Err Bytes :=
  if s.isHot inode then .ok (s.inline inode) else readColdRangeLocked m s inode 0 node.size

/-- The state once the contents of a file are inline. -/
def hydrated (s : SnapshotState) (inode : Nat) (payload : Bytes) : SnapshotState :=
  if s.isHot inode then s
  else { s with data := s.data.insert inode payload, coldFiles := s.coldFiles.erase inode }

def storedNode (r : WalRecord) (node : Node) (payload : Bytes) : Node :=
  { node with size := UInt64.ofNat payload.length, mtime := r.timeUnix, ctime := r.timeUnix }

def stored (s : SnapshotState) (r : WalRecord) (node : Node) (payload : Bytes) : SnapshotState :=
  { s with
    data := s.data.insert r.inode payload
    nodes := s.nodes.insert r.inode (storedNode r node payload) }

lemma mutableFileDataLocked_run (m : Option SegmentReader) {node : Node}
    (hn : s.nodes[i]? = some node) :
    mutableFileDataLocked m i s =
      match contents m s node i with
      | .ok payload => (.ok payload, hydrated s i payload)
      | .err e => (.err e, s)
      | .panic => (.panic, s) := by
  unfold mutableFileDataLocked contents hydrated
  rw [bind_read_run]
  by_cases hh : s.isHot i = true
  · simp [hh]
  simp only [hh, hn]
  cases hr : readColdRangeLocked m s i 0 node.size with
  | ok | err | panic => simp [bind_run]

section

variable (s : SnapshotState) (i : Nat) (p : Bytes)

@[simp] lemma hydrated_nodes : (hydrated s i p).nodes = s.nodes := by
  unfold hydrated; split <;> rfl

@[simp] lemma hydrated_children : (hydrated s i p).children = s.children := by
  unfold hydrated; split <;> rfl

@[simp] lemma hydrated_nextInode : (hydrated s i p).nextInode = s.nextInode := by
  unfold hydrated; split <;> rfl

lemma quiet_hydrated : Quiet s (hydrated s i p) :=
  ⟨by simp, by simp, fun j => by simp⟩

end

lemma quiet_stored {node : Node} (hn : s.nodes[r.inode]? = some node) (payload : Bytes) :
    Quiet s (stored s r node payload) := by
  have h := quiet_setNode s (storedNode r node payload) hn rfl
  exact ⟨h.children, h.nextInode, h.nodes⟩

/-- The part that a write and a truncate share: load the contents, compute
the new ones, store them. -/
def change (m : Option SegmentReader) (r : WalRecord)
    (f : Bytes → Outcome Err Bytes) : Fs Unit := do
  let node ← fileNodeLocked r.inode
  let current ← mutableFileDataLocked m r.inode
  storeData r node (← ends (f current))

lemma change_run (m : Option SegmentReader) (r : WalRecord) (f : Bytes → Outcome Err Bytes)
    {node : Node} (hn : s.nodes[r.inode]? = some node) (hd : node.type ≠ .directory) :
    change m r f s =
      match contents m s node r.inode with
      | .err e => (.err e, s)
      | .panic => (.panic, s)
      | .ok payload =>
        match f payload with
        | .err e => (.err e, hydrated s r.inode payload)
        | .panic => (.panic, hydrated s r.inode payload)
        | .ok payload' => (.ok (), stored (hydrated s r.inode payload) r node payload') := by
  unfold change
  rw [bind_ok (fileNodeLocked_ok hn hd), bind_run, mutableFileDataLocked_run m hn]
  cases contents m s node r.inode with
  | err e => rfl
  | panic => rfl
  | ok payload =>
    simp only [bind_run, ends_run]
    cases f payload <;> rfl

lemma quiet_change (m : Option SegmentReader) (s : SnapshotState) (r : WalRecord)
    (f : Bytes → Outcome Err Bytes) : Quiet s (change m r f s).2 := by
  rcases fileNodeLocked_checks s r.inode with ⟨⟨node, hn, hd⟩, _⟩ | ⟨_, e, hx⟩
  · rw [change_run m r f hn hd]
    cases contents m s node r.inode with
    | err | panic => exact Quiet.refl s
    | ok payload =>
      have hq := quiet_hydrated s r.inode payload
      simp only
      cases f payload with
      | err | panic => exact hq
      | ok payload' => exact hq.trans (quiet_stored (by simpa using hn) payload')
  · unfold change
    rw [bind_err hx]
    exact Quiet.refl s

/-! ## Every record -/

lemma step_of_refused {x : Fs Unit} (h : ∃ e, x s = (.err e, s)) : NameStep s r (x s).2 := by
  obtain ⟨e, he⟩ := h
  rw [he]
  exact .quiet (Quiet.refl s)

lemma applyAttr_step (f : Node → Node) (hf : ∀ node, shape (f node) = shape node) :
    NameStep s r ((Call.read >>= fun s => match s.nodes[r.inode]? with
      | none => Call.fail Err.notFound
      | some node => setNode r.inode (f node)) s).2 := by
  rw [bind_read_run]
  cases hn : s.nodes[r.inode]? with
  | none => exact .quiet (Quiet.refl s)
  | some node => exact .quiet (quiet_setNode s _ hn (hf node))

/-- A record does to the names what `NameStep` lists. -/
lemma apply_step (m : Option SegmentReader) (h : DirsListed s) (r : WalRecord) :
    NameStep s r (apply m r s).2 := by
  have hq : NameStep s r s := .quiet (Quiet.refl s)
  unfold apply
  cases hop : r.op with
  | create =>
    refine (applyCreate_applies h r).elim hq fun hp => ?_
    obtain ⟨hg, hd, hc⟩ := hp
    rw [not_or, not_or] at hg
    exact .create hop hg.1 hg.2.2 hd hc
  | write | truncate => exact .quiet (quiet_change m s r _)
  | link =>
    cases hn : s.nodes[r.inode]? with
    | none => exact step_of_refused (applyLink_refused hn)
    | some node =>
      refine (applyLink_applies h r hn).elim hq fun hp => ?_
      exact .link node hop hn hp.2.1 hp.2.2.1 hp.2.2.2
  | rmdir =>
    cases hc : s.child r.parent r.name with
    | none => exact step_of_refused (lookupLocked_refuses h hc _)
    | some inode =>
      cases hn : s.nodes[inode]? with
      | none => exact step_of_refused (applyRemoveDir_refused h r hc hn)
      | some node =>
        refine (applyRemoveDir_applies h r hc hn).elim hq fun hp => ?_
        exact .rmdir inode hop hp.1 hc ⟨node, hn, not_not.mp hp.2.1⟩ hp.2.2
  | rename =>
    cases hc : s.child r.parent r.name with
    | none => exact step_of_refused (lookupLocked_refuses h hc _)
    | some inode =>
      refine (applyRename_applies h r hc).elim hq fun hp => ?_
      exact .rename inode hop hp.1 hc hp.2
  | chmod | chown => exact applyAttr_step _ fun _ => rfl
  | unlink =>
    cases hc : s.child r.parent r.name with
    | none => exact step_of_refused (lookupLocked_refuses h hc _)
    | some inode =>
      refine (applyUnlink_applies h r hc).elim hq fun hp => ?_
      exact .unlink inode hop hp.1 hc hp.2
  | other op => exact hq

end sandbox0.s0fs
