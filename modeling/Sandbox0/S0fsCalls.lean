-- What one call of the engine can do. A call that fails its checks changes
-- nothing; a call that passes them logs one record and applies it.
import Sandbox0.S0fsEngine

namespace sandbox0.s0fs

open Call

/-! ## Directories have entries -/

/-- Every directory node has a map of entries, so that the checks of a call
never have to make one. -/
def DirsListed (s : SnapshotState) : Prop :=
  ∀ (i : Nat) node, s.nodes[i]? = some node → node.type = .directory → ∃ m, s.children[i]? = some m

def IsDir (s : SnapshotState) (i : Nat) : Prop :=
  ∃ node, s.nodes[i]? = some node ∧ node.type = .directory

instance (s : SnapshotState) (i : Nat) : Decidable (IsDir s i) :=
  decidable_of_iff (∃ node ∈ s.nodes[i]?, node.type = .directory) Iff.rfl

/-- A node that is not a directory: what `fileNodeLocked` accepts. -/
def IsFile (s : SnapshotState) (i : Nat) : Prop :=
  ∃ node, s.nodes[i]? = some node ∧ node.type ≠ .directory

variable {s : SnapshotState} {e : Engine} {env : Env} {op : Op} {β : Type}

lemma ensureDirLocked_checks (h : DirsListed s) (i : Nat) :
    Checks (ensureDirLocked i) s (IsDir s i) := by
  unfold Call.Checks ensureDirLocked IsDir
  cases hn : s.nodes[i]? with
  | none => exact Or.inr ⟨by simp, _, rfl⟩
  | some node =>
    by_cases hd : node.type = .directory
    · obtain ⟨m, hm⟩ := h i node hn hd
      refine Or.inl ⟨⟨node, rfl, hd⟩, (), ?_⟩
      simp [hd, hm]
    · refine Or.inr ⟨by simp [hd], .notDir, ?_⟩
      simp [hd]

lemma lookupLocked_ok (h : DirsListed s) {p i : Nat} {n : GoString}
    (hp : IsDir s p) (hc : s.child p n = some i) : lookupLocked p n s = (.ok i, s) := by
  unfold lookupLocked
  rcases ensureDirLocked_checks h p with ⟨_, _, hx⟩ | ⟨hn, _⟩
  · rw [bind_ok hx, bind_read_run, hc]
    rfl
  · exact absurd hp hn

lemma lookupLocked_checks (h : DirsListed s) (p : Nat) (n : GoString) :
    Checks (lookupLocked p n) s (IsDir s p ∧ ∃ i, s.child p n = some i) := by
  rcases ensureDirLocked_checks h p with ⟨hp, _, hx⟩ | ⟨hp, e, hx⟩
  · cases hc : s.child p n with
    | none =>
      refine Or.inr ⟨by simp, .notFound, ?_⟩
      unfold lookupLocked
      rw [bind_ok hx, bind_read_run, hc]
      rfl
    | some i => exact Or.inl ⟨⟨hp, i, rfl⟩, i, lookupLocked_ok h hp hc⟩
  · refine Or.inr ⟨fun hpc => hp hpc.1, e, ?_⟩
    unfold lookupLocked
    rw [bind_err hx]

lemma fileNodeLocked_ok {i : Nat} {node : Node} (hn : s.nodes[i]? = some node)
    (hd : node.type ≠ .directory) : fileNodeLocked i s = (.ok node, s) := by
  simp [fileNodeLocked, hn, hd]

lemma fileNodeLocked_checks (s : SnapshotState) (i : Nat) :
    Checks (fileNodeLocked i) s (IsFile s i) := by
  unfold Call.Checks IsFile
  cases hn : s.nodes[i]? with
  | none => exact Or.inr ⟨by simp, .notFound, by simp [fileNodeLocked, hn]⟩
  | some node =>
    by_cases hd : node.type = .directory
    · exact Or.inr ⟨by simp [hd], .isDir, by simp [fileNodeLocked, hn, hd]⟩
    · exact Or.inl ⟨⟨node, rfl, hd⟩, node, fileNodeLocked_ok hn hd⟩

lemma checks_onState {α : Type} {x : Fs α} {P : Prop}
    (h : Checks x e.toSnapshotState P) : Checks (onState x) e P := by
  rcases h with ⟨hp, a, hx⟩ | ⟨hp, err, hx⟩
  · exact Or.inl ⟨hp, a, by simp [onState, hx]⟩
  · exact Or.inr ⟨hp, err, by simp [onState, hx]⟩

/-! ## The calls -/

/-- The calls on a volume that can change its state. `lookup` and `readDir`
are here because they can make a map of entries. -/
inductive Op where
  | createFile (parent : Nat) (name : GoString) (mode : UInt32)
  | mkdir (parent : Nat) (name : GoString) (mode : UInt32)
  | symlink (parent : Nat) (name target : GoString) (mode : UInt32)
  | link (inode newParent : Nat) (newName : GoString)
  | rename (oldParent : Nat) (oldName : GoString) (newParent : Nat) (newName : GoString)
  | unlink (parent : Nat) (name : GoString)
  | removeDir (parent : Nat) (name : GoString)
  | write (inode : Nat) (offset : UInt64) (payload : Bytes)
  | truncate (inode : Nat) (size : UInt64)
  | setMode (inode : Nat) (mode : UInt32)
  | setOwner (inode : Nat) (uid gid : UInt32)
  | forget (inode : Nat)
  | lookup (parent : Nat) (name : GoString)
  | readDir (inode : Nat)
  deriving DecidableEq

def Op.next (env : Env) (e : Engine) : Op → Engine
  | .createFile parent name mode => (s0fs.createFile env parent name mode e).2
  | .mkdir parent name mode => (s0fs.mkdir env parent name mode e).2
  | .symlink parent name target mode => (s0fs.symlink env parent name target mode e).2
  | .link inode newParent newName => (s0fs.link env inode newParent newName e).2
  | .rename oldParent oldName newParent newName =>
    (s0fs.rename env oldParent oldName newParent newName e).2
  | .unlink parent name => (unlinkWithInode env parent name e).2
  | .removeDir parent name => (s0fs.removeDir env parent name e).2
  | .write inode offset payload => (s0fs.write env inode offset payload e).2
  | .truncate inode size => (s0fs.truncate env inode size e).2
  | .setMode inode mode => (s0fs.setMode env inode mode e).2
  | .setOwner inode uid gid => (s0fs.setOwner env inode uid gid e).2
  | .forget inode => (s0fs.forget inode e).2
  | .lookup parent name => (s0fs.lookup parent name e).2
  | .readDir inode => (s0fs.readDir inode e).2

def Op.record (env : Env) (s : SnapshotState) : Op → Option WalRecord
  | .createFile parent name mode =>
    some { seq := s.nextSeq, op := .create, timeUnix := env.now, inode := s.nextInode,
           parent, name, type := some .file, mode }
  | .mkdir parent name mode =>
    some { seq := s.nextSeq, op := .create, timeUnix := env.now, inode := s.nextInode,
           parent, name, type := some .directory, mode }
  | .symlink parent name target mode =>
    some { seq := s.nextSeq, op := .create, timeUnix := env.now, inode := s.nextInode,
           parent, name, type := some .symlink, mode, target }
  | .link inode newParent newName =>
    some { seq := s.nextSeq, op := .link, timeUnix := env.now, inode, newParent, newName }
  | .rename parent name newParent newName =>
    some { seq := s.nextSeq, op := .rename, timeUnix := env.now, parent, name, newParent, newName }
  | .unlink parent name =>
    some { seq := s.nextSeq, op := .unlink, timeUnix := env.now, parent, name }
  | .removeDir parent name =>
    some { seq := s.nextSeq, op := .rmdir, timeUnix := env.now, parent, name }
  | .write inode offset payload =>
    some { seq := s.nextSeq, op := .write, timeUnix := env.now, inode, offset, data := payload }
  | .truncate inode size =>
    some { seq := s.nextSeq, op := .truncate, timeUnix := env.now, inode, offset := size }
  | .setMode inode mode =>
    some { seq := s.nextSeq, op := .chmod, timeUnix := env.now, inode, mode }
  | .setOwner inode uid gid =>
    some { seq := s.nextSeq, op := .chown, timeUnix := env.now, inode, mode := uid,
           offset := gid.toUInt64 }
  | .forget _ => none
  | .lookup _ _ => none
  | .readDir _ => none

/-- The checks that a call makes before it logs. -/
def Op.Pre (s : SnapshotState) : Op → Prop
  | .createFile parent name _ => name ≠ [] ∧ IsDir s parent ∧ s.child parent name = none
  | .mkdir parent name _ => name ≠ [] ∧ IsDir s parent ∧ s.child parent name = none
  | .symlink parent name target _ =>
    target ≠ [] ∧ name ≠ [] ∧ IsDir s parent ∧ s.child parent name = none
  | .link inode newParent newName =>
    newName ≠ [] ∧ IsFile s inode ∧ IsDir s newParent ∧ s.child newParent newName = none
  | .rename oldParent oldName newParent newName =>
    oldName ≠ [] ∧ newName ≠ [] ∧ (IsDir s oldParent ∧ ∃ i, s.child oldParent oldName = some i) ∧
      IsDir s newParent
  | .unlink parent name => IsDir s parent ∧ ∃ i, s.child parent name = some i ∧ IsFile s i
  | .removeDir parent name =>
    IsDir s parent ∧ ∃ i, s.child parent name = some i ∧ IsDir s i ∧ s.hasEntries i = false
  | .write inode _ _ => IsFile s inode
  | .truncate inode _ => IsFile s inode
  | .setMode inode _ => ∃ node, s.nodes[inode]? = some node
  | .setOwner inode _ _ => ∃ node, s.nodes[inode]? = some node
  | .forget _ => False
  | .lookup _ _ => False
  | .readDir _ => False

/-- The engine after `logAndApply`. -/
def logged (env : Env) (e : Engine) (r : WalRecord) : Engine :=
  (logAndApply env r { e with nextSeq := e.nextSeq + 1 }).2

def forgotten (e : Engine) (inode : Nat) : Engine :=
  { e with
    children := e.children.erase inode
    nodes := e.nodes.erase inode
    data := e.data.erase inode }

inductive Called (env : Env) (e : Engine) (op : Op) : Engine → Prop where
  | refused : Called env e op e
  | logs (r : WalRecord) (hopen : e.closed = false) (hpre : op.Pre e.toSnapshotState)
      (hr : op.record env e.toSnapshotState = some r) : Called env e op (logged env e r)
  | forgot (inode : Nat) (node : Node) (hopen : e.closed = false) (hop : op = .forget inode)
      (hn : e.nodes[inode]? = some node) (hl : node.nlink = 0) : Called env e op (forgotten e inode)

/-! ## Each call is one of these -/

lemma called_check {α : Type} {x : Eng α} {f : α → Eng β} {P : Prop} (hx : Checks x e P)
    (hf : P → ∀ a, x e = (.ok a, e) → Called env e op (f a e).2) :
    Called env e op ((x >>= f) e).2 :=
  hx.elim .refused hf

lemma checkOpen_checks (e : Engine) : Checks checkOpen e (e.closed = false) := by
  unfold Call.Checks checkOpen
  cases hc : e.closed with
  | false => exact Or.inl ⟨rfl, (), by simp [Call.failIf, hc]⟩
  | true => exact Or.inr ⟨by simp, .closed, by simp [Call.failIf, hc]⟩

lemma called_open {f : Unit → Eng β} (hf : e.closed = false → Called env e op (f () e).2) :
    Called env e op ((checkOpen >>= f) e).2 :=
  called_check (checkOpen_checks e) fun hopen _ _ => hf hopen

lemma checkOpen_ok (h : e.closed = false) : checkOpen e = (.ok (), e) := by
  simp [checkOpen, Call.failIf, h]

lemma called_guard {c : Prop} {_ : Decidable c} {err : Err} {f : Unit → Eng β}
    (hf : ¬ c → Called env e op (f () e).2) : Called env e op ((Call.failIf c err >>= f) e).2 :=
  failIf_elim .refused hf

/-- The state after `newRecord` and `logAndApply`, whatever the call returns. -/
lemma after_log (env : Env) (e : Engine) (op : WalOp) (g : WalRecord → WalRecord)
    (f : Unit → Eng β) (hf : ∀ e', (f () e').2 = e') :
    ((newRecord env op >>= fun record => logAndApply env (g record) >>= f) e).2 =
      logged env e (g { seq := e.nextSeq, op, timeUnix := env.now }) := by
  unfold logged
  rw [bind_run]
  simp only [newRecord]
  apply bind_elim (Q := fun r => r.2 = _)
  · intro a s' hx
    rw [hf, hx]
  · intro err s' hx
    rw [hx]
  · intro s' hx
    rw [hx]

lemma logged_disk (env : Env) (e : Engine) (r : WalRecord) :
    (logged env e r).closed = e.closed ∧ (logged env e r).disk.head = e.disk.head ∧
      (logged env e r).disk.snapshots = e.disk.snapshots := by
  unfold logged logAndApply append
  cases env.appendErr with
  | some fault => cases fault with | mk err written => cases written <;> exact ⟨rfl, rfl, rfl⟩
  | none =>
    rw [bind_update_run, bind_run]
    simp only [onState, on_run]
    rcases apply env.reader r _ with ⟨_ | _ | _, s⟩
    all_goals exact ⟨rfl, rfl, rfl⟩

section

variable (h : DirsListed e.toSnapshotState)

include h

lemma create_called (op : Op)
    (parent : Nat) (name : GoString) (type : FileType) (mode : UInt32) (target : GoString)
    (hpre : name ≠ [] ∧ IsDir e.toSnapshotState parent ∧ e.child parent name = none →
      op.Pre e.toSnapshotState) (hr : op.record env e.toSnapshotState = some
      { seq := e.nextSeq, op := .create, timeUnix := env.now, inode := e.nextInode,
        parent, name, type := some type, mode, target }) :
    Called env e op (create env parent name type mode target e).2 := by
  unfold create
  refine called_open fun hopen => ?_
  refine called_guard fun hname => ?_
  refine called_check (checks_onState (ensureDirLocked_checks h parent)) fun hp _ _ => ?_
  rw [bind_read_run]
  refine called_guard fun hc => ?_
  rw [after_log]
  · exact .logs _ hopen (hpre ⟨hname, hp, by simpa using hc⟩) hr
  · intro e'; rfl

lemma link_called (inode newParent : Nat) (newName : GoString) :
    Called env e (.link inode newParent newName) (link env inode newParent newName e).2 := by
  unfold link
  refine called_open fun hopen => ?_
  refine called_guard fun hname => ?_
  rw [bind_read_run]
  cases hn : e.nodes[inode]? with
  | none => exact .refused
  | some node =>
    refine called_guard fun hd => ?_
    refine called_check (checks_onState (ensureDirLocked_checks h newParent)) fun hp _ _ => ?_
    rw [bind_read_run]
    refine called_guard fun hc => ?_
    rw [after_log]
    · exact .logs _ hopen ⟨hname, ⟨node, hn, hd⟩, hp, by simpa using hc⟩ rfl
    · intro e'; rfl

lemma rename_called (oldParent : Nat) (oldName : GoString) (newParent : Nat) (newName : GoString) :
    Called env e (.rename oldParent oldName newParent newName)
      (rename env oldParent oldName newParent newName e).2 := by
  unfold rename
  refine called_open fun hopen => ?_
  refine called_guard fun hname => ?_
  refine called_check (checks_onState (lookupLocked_checks h oldParent oldName)) fun hl _ _ => ?_
  refine called_check (checks_onState (ensureDirLocked_checks h newParent)) fun hp _ _ => ?_
  rw [not_or] at hname
  exact .logs _ hopen ⟨hname.1, hname.2, hl, hp⟩ rfl

lemma lookup_elim (parent : Nat) (name : GoString) {f : Nat → Eng β}
    {Q : Outcome Err β × Engine → Prop} (h0 : ∀ err, Q (.err err, e))
    (hf : ∀ inode, IsDir e.toSnapshotState parent → e.child parent name = some inode →
      Q (f inode e)) :
    Q ((onState (lookupLocked parent name) >>= f) e) := by
  rcases checks_onState (lookupLocked_checks h parent name) with ⟨⟨hp, i, hc⟩, j, hx⟩ | ⟨_, err, hx⟩
  · have hj : j = i := by simpa [onState, lookupLocked_ok h hp hc] using hx.symm
    rw [bind_ok hx, hj]
    exact hf i hp hc
  · rw [bind_err hx]
    exact h0 err

lemma unlink_called (parent : Nat) (name : GoString) :
    Called env e (.unlink parent name) (unlinkWithInode env parent name e).2 := by
  unfold unlinkWithInode
  refine called_open fun hopen => ?_
  refine lookup_elim h parent name (Q := fun r => Called env e _ r.2) (fun _ => .refused)
    fun inode hp hc => ?_
  rw [bind_read_run]
  cases hn : e.nodes[inode]? with
  | none => exact .refused
  | some node =>
    refine called_guard fun hd => ?_
    rw [after_log]
    · exact .logs _ hopen ⟨hp, inode, hc, node, hn, hd⟩ rfl
    · intro e'; rfl

lemma removeDir_called (parent : Nat) (name : GoString) :
    Called env e (.removeDir parent name) (removeDir env parent name e).2 := by
  unfold removeDir
  refine called_open fun hopen => ?_
  refine lookup_elim h parent name (Q := fun r => Called env e _ r.2) (fun _ => .refused)
    fun inode hp hc => ?_
  rw [bind_read_run]
  cases hn : e.nodes[inode]? with
  | none => exact .refused
  | some node =>
    refine called_guard fun hd => ?_
    refine called_guard fun he => ?_
    exact .logs _ hopen ⟨hp, inode, hc, ⟨node, hn, not_not.mp hd⟩, by simpa using he⟩ rfl

end

lemma write_called (inode : Nat) (offset : UInt64) (payload : Bytes) :
    Called env e (.write inode offset payload) (write env inode offset payload e).2 := by
  unfold write
  refine called_open fun hopen => ?_
  refine called_check (checks_onState (fileNodeLocked_checks _ inode)) fun hf _ _ => ?_
  rw [after_log]
  · exact .logs _ hopen hf rfl
  · intro e'; rfl

lemma truncate_called (inode : Nat) (size : UInt64) :
    Called env e (.truncate inode size) (truncate env inode size e).2 := by
  unfold truncate
  refine called_open fun hopen => ?_
  refine called_check (checks_onState (fileNodeLocked_checks _ inode)) fun hf _ _ => ?_
  exact .logs _ hopen hf rfl

lemma setMode_called (inode : Nat) (mode : UInt32) :
    Called env e (.setMode inode mode) (setMode env inode mode e).2 := by
  unfold setMode
  refine called_open fun hopen => ?_
  rw [bind_read_run]
  cases hn : e.nodes[inode]? with
  | none => exact .refused
  | some node => exact .logs _ hopen ⟨node, hn⟩ rfl

lemma setOwner_called (inode : Nat) (uid gid : UInt32) :
    Called env e (.setOwner inode uid gid) (setOwner env inode uid gid e).2 := by
  unfold setOwner
  refine called_open fun hopen => ?_
  rw [bind_read_run]
  cases hn : e.nodes[inode]? with
  | none => exact .refused
  | some node => exact .logs _ hopen ⟨node, hn⟩ rfl

lemma forget_called (inode : Nat) : Called env e (.forget inode) (forget inode e).2 := by
  unfold forget
  refine called_open fun hopen => ?_
  rw [bind_read_run]
  cases hn : e.nodes[inode]? with
  | none => exact .refused
  | some node =>
    by_cases hl : node.nlink = 0
    · simp only [onlyIf_pos _ hl, update_run]
      exact .forgot inode node hopen rfl hn hl
    · simp only [onlyIf_neg _ hl, pure_run]
      exact .refused

lemma next_called (env : Env) (h : DirsListed e.toSnapshotState) (op : Op) :
    Called env e op (op.next env e) := by
  cases op with
  | createFile parent name mode => exact create_called h _ parent name .file mode [] id rfl
  | mkdir parent name mode => exact create_called h _ parent name .directory mode [] id rfl
  | symlink parent name target mode =>
    simp only [Op.next, symlink]
    refine called_guard fun ht => ?_
    exact create_called h _ parent name .symlink mode target (fun hp => ⟨ht, hp⟩) rfl
  | link inode newParent newName => exact link_called h inode newParent newName
  | rename oldParent oldName newParent newName =>
    exact rename_called h oldParent oldName newParent newName
  | unlink parent name => exact unlink_called h parent name
  | removeDir parent name => exact removeDir_called h parent name
  | write inode offset payload => exact write_called inode offset payload
  | truncate inode size => exact truncate_called inode size
  | setMode inode mode => exact setMode_called inode mode
  | setOwner inode uid gid => exact setOwner_called inode uid gid
  | forget inode => exact forget_called inode
  | lookup parent name =>
    simp only [Op.next, lookup]
    refine called_open fun _ => ?_
    refine called_check (checks_onState (lookupLocked_checks h parent name)) fun _ _ _ => ?_
    exact .refused
  | readDir inode =>
    simp only [Op.next, readDir]
    refine called_open fun _ => ?_
    refine called_check (checks_onState (ensureDirLocked_checks h inode)) fun _ _ _ => ?_
    exact .refused

end sandbox0.s0fs
