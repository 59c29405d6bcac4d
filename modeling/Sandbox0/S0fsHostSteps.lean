-- What a step of a host can do: one relation lists every change of the
-- host and of the cloud, with what was checked before it.
import Sandbox0.S0fsHost
import Sandbox0.S0fsMaterialized

namespace sandbox0.s0fs

open Call

/-! ## What a step can do -/

def Engine.with (e : Engine) (s : SnapshotState) : Engine := { e with toSnapshotState := s }

def Engine.onDisk (e : Engine) (disk : Disk) : Engine := { e with disk }

def Engine.noting (e : Engine) (manifestSeq : Nat) : Engine :=
  { e with lastCommittedManifest := manifestSeq }

/-- What a step can do to a host and to the cloud. -/
inductive Moved (m : Materializer) (h : Host) (cloud : Cloud) : Act → Host → Cloud → Prop where
  | still {a : Act} : Moved m h cloud a h cloud
  | called (now : Int) (appendErr : Option AppendFault) (op : Op) (hp : h.pending = none) :
      Moved m h cloud (.call now appendErr op)
        { h with engine := op.next { now, appendErr, reader := reader m cloud } h.engine } cloud
  | snapshot (id : GoString) (state : SnapshotState) (hp : h.pending = none)
      (hx : exportStateLocked (reader m cloud) h.engine.toSnapshotState = .ok state) :
      Moved m h cloud (.createSnapshot id)
        { h with engine := h.engine.onDisk { h.engine.disk with
                   snapshots := h.engine.disk.snapshots.insert id (jsonState state) } } cloud
  | deleted (id : GoString) (hp : h.pending = none) :
      Moved m h cloud (.deleteSnapshot id)
        { h with engine := h.engine.onDisk { h.engine.disk with
                   snapshots := h.engine.disk.snapshots.erase id } } cloud
  | captured (hp : h.pending = none) (hj : h.job = none) (hopen : h.engine.closed = false)
      (hdirty : h.engine.dirty = true) :
      Moved m h cloud .startMaterialize
        { h with job := some { capture := h.engine.capture, stage := .captured } } cloud
  | gone {a : Act} (hj : ∀ job p, h.job = some job → job.stage ≠ .committed p) :
      Moved m h cloud a { h with job := none } cloud
  | planned (now : Int) (random : Entropy) (job : Job) (p : Plan) (hj : h.job = some job)
      (hstage : job.stage = .captured)
      (hp : plan m now random job.capture.state job.capture.expectedManifestSeq = .ok p) :
      Moved m h cloud (.advance now random)
      { h with job := some { job with stage := .planned p } } cloud
  | segmentPut (now : Int) (random : Entropy) (job : Job) (p : Plan) (hj : h.job = some job)
      (hstage : job.stage = .planned p) :
      Moved m h cloud (.advance now random)
      { h with job := some { job with stage := .segmentPut p } }
        (putSegment p cloud).2
  | manifestPut (now : Int) (random : Entropy) (job : Job) (p : Plan) (hj : h.job = some job)
      (hstage : job.stage = .segmentPut p) :
      Moved m h cloud (.advance now random)
      { h with job := some { job with stage := .manifestPut p } }
        (putManifest p cloud).2
  | committed (now : Int) (random : Entropy) (job : Job) (p : Plan) (cloud' : Cloud)
      (hj : h.job = some job) (hstage : job.stage = .manifestPut p)
      (hc : commit m.headStore p cloud = (.ok (), cloud')) :
      Moved m h cloud (.advance now random)
      { h with job := some { job with stage := .committed p } }
        cloud'
  | installed (now : Int) (random : Entropy) (job : Job) (p : Plan) (hj : h.job = some job)
      (hstage : job.stage = .committed p) (hp : h.pending = none)
        (hcur : job.capture.current h.engine) :
      Moved m h cloud (.advance now random)
        { h with engine := h.engine.with p.manifest.state.installed, job := none,
                 pending :=
                   some { cause := .install job.capture p.manifest, saved := false } } cloud
  | outdated (now : Int) (random : Entropy) (job : Job) (p : Plan) (hj : h.job = some job)
      (hstage : job.stage = .committed p) (hp : h.pending = none)
      (hcur : ¬ job.capture.current h.engine) :
      Moved m h cloud (.advance now random)
        { h with engine := h.engine.noting
                   (max h.engine.lastCommittedManifest p.manifest.manifestSeq),
                 job := none } cloud
  | loaded (hp : h.pending = none) :
      Moved m h cloud .startRefresh { h with loaded := startRefresh m cloud h.engine }
        (loadLatestManifest m cloud).2
  | waiting (hp : h.pending ≠ none) : Moved m h cloud .startRefresh h (loadLatestManifest m cloud).2
  | refreshed (manifest : Manifest) (hp : h.pending = none) (hl : h.loaded = some manifest)
      (hopen : h.engine.closed = false) (hclean : h.engine.dirty = false)
      (hnewer : h.engine.nextSeq < manifest.state.nextSeq) :
      Moved m h cloud .finishRefresh
        { h with engine := h.engine.with manifest.state.installed, loaded := none,
                 pending := some { cause := .refresh manifest, saved := false } } cloud
  | stale (hp : h.pending = none) : Moved m h cloud .finishRefresh { h with loaded := none } cloud
  | closing (hp : h.pending = none) (hopen : h.engine.closed = false) :
      Moved m h cloud .close { h with pending := some { cause := .close, saved := false } } cloud
  | restored (id : GoString) (state : SnapshotState) (hp : h.pending = none)
      (hopen : h.engine.closed = false) (hs : h.engine.disk.snapshots[id]? = some state) :
      Moved m h cloud (.restore id)
        { h with engine := h.engine.with (SnapshotState.installed
                   { state with nextSeq := max state.nextSeq h.engine.minNextSeq }),
                 pending := some { cause := .restore, saved := false } } cloud
  | replaced (state : SnapshotState) (hp : h.pending = none) (hopen : h.engine.closed = false) :
      Moved m h cloud (.replace state)
        { h with engine := h.engine.with state.installed,
                 pending := some { cause := .replace, saved := false } } cloud
  | saved (cause : Cause) (hp : h.pending = some { cause, saved := false }) :
      Moved m h cloud .save
        { h with engine := h.engine.onDisk { h.engine.disk with
                   head := some (jsonState h.engine.toSnapshotState) },
                 pending := some { cause, saved := true } } cloud
  | reset (cause : Cause) (hp : h.pending = some { cause, saved := true }) :
      Moved m h cloud .reset
        { h with engine := cause.finish (h.engine.onDisk { h.engine.disk with
                   wal := [], tail := .ended }),
                 pending := none } cloud
  | failed {a : Act} (pending : Pending) (hp : h.pending = some pending) :
      Moved m h cloud a { h with pending := none } cloud
  | opened (a : Act) (now : Int) (e : Engine)
      (ha : a = .crash now ∨
        (a = .reopen now ∧ h.engine.closed = true ∧ h.job = none ∧ h.pending = none))
      (ho : openOn m now cloud h.engine.disk = .ok e) :
      Moved m h cloud a (Host.opened e) (loadLatestManifest m cloud).2
  | unopened (a : Act) (now : Int)
      (ha : a = .crash now ∨
        (a = .reopen now ∧ h.engine.closed = true ∧ h.job = none ∧ h.pending = none))
      (ho : ∀ e, openOn m now cloud h.engine.disk ≠ .ok e) :
      Moved m h cloud a h (loadLatestManifest m cloud).2

variable {m : Materializer} {h : Host} {cloud : Cloud}

/-- A call that needs the lock changes nothing while it waits. -/
lemma moved_locked {h' : Host} {a : Act} (hm : h.pending = none → Moved m h cloud a h' cloud) :
    Moved m h cloud a (h.locked h') cloud := by
  unfold Host.locked
  cases hp : h.pending with
  | none => exact hm hp
  | some p => exact .still

lemma checkOpen_elim {α : Type} {f : Unit → Eng α} {e : Engine} {Q : Outcome Err α × Engine → Prop}
    (hclosed : Q (.err .closed, e)) (hopen : e.closed = false → Q (f () e)) :
    Q ((checkOpen >>= f) e) := by
  cases hc : e.closed with
  | true =>
    have hrun : checkOpen e = (.err .closed, e) := by
      simp only [checkOpen, bind_read_run, failIf_pos _ hc, fail_run]
    rw [bind_err hrun]
    exact hclosed
  | false =>
    have hrun : checkOpen e = (.ok (), e) := by
      simp [checkOpen, bind_read_run, Call.failIf, hc]
    rw [bind_ok hrun]
    exact hopen hc

lemma open_moved {a : Act} {now : Int}
    (ha : a = .crash now ∨
      (a = .reopen now ∧ h.engine.closed = true ∧ h.job = none ∧ h.pending = none)) :
    Moved m h cloud a (h.open m now cloud).1 (h.open m now cloud).2 := by
  unfold Host.open
  cases ho : openOn m now cloud h.engine.disk with
  | ok e => exact .opened a now e ha ho
  | err | panic => exact .unopened a now ha (by simp [ho])

section

variable (hp : h.pending = none)

include hp

lemma capturing_moved (hj : h.job = none) :
    Moved m h cloud .startMaterialize (h.capturing (startMaterialize h.engine).1) cloud := by
  unfold startMaterialize
  apply checkOpen_elim (Q := fun r => Moved m h cloud _ (h.capturing r.1) cloud) .still
  intro hopen
  rw [bind_read_run]
  cases hdirty : h.engine.dirty with
  | true => exact .captured hp hj hopen hdirty
  | false => exact .still

lemma refreshing_moved {manifest : Manifest} (hl : h.loaded = some manifest) :
    Moved m h cloud .finishRefresh
      (h.refreshing manifest (finishRefresh manifest h.engine)) cloud := by
  unfold finishRefresh
  apply checkOpen_elim (Q := fun r => Moved m h cloud _ (h.refreshing manifest r) cloud) (.stale hp)
  intro hopen
  rw [bind_read_run]
  by_cases hstale : h.engine.dirty ∨ manifest.state.nextSeq ≤ h.engine.nextSeq
  · rw [if_pos hstale]
    exact .stale hp
  · rw [if_neg hstale]
    have hnot := not_or.mp hstale
    exact .refreshed manifest hp hl hopen (by simpa using hnot.1) (Nat.lt_of_not_le hnot.2)

lemma restore_moved (id : GoString) :
    Moved m h cloud (.restore id) (h.begin .restore (startRestore id h.engine)) cloud := by
  unfold startRestore
  apply checkOpen_elim (Q := fun r => Moved m h cloud _ (h.begin .restore r) cloud) .still
  intro hopen
  rw [bind_read_run]
  cases hs : h.engine.disk.snapshots[id]? with
  | none => exact .still
  | some state =>
    have hmax : (if state.nextSeq < h.engine.minNextSeq then h.engine.minNextSeq
      else state.nextSeq) = max state.nextSeq h.engine.minNextSeq := by
      split <;> omega
    simp only [hmax]
    exact .restored id state hp hopen hs

lemma replace_moved (state : SnapshotState) :
    Moved m h cloud (.replace state) (h.begin .replace (startReplace state h.engine)) cloud := by
  unfold startReplace
  apply checkOpen_elim (Q := fun r => Moved m h cloud _ (h.begin .replace r) cloud) .still
  intro hopen
  exact .replaced state hp hopen

lemma createSnapshot_moved (id : GoString) : Moved m h cloud (.createSnapshot id) { h with engine :=
        (createSnapshot { now := 0, appendErr := none, reader := reader m cloud } id h.engine).2 }
      cloud := by
  unfold createSnapshot
  apply (checkOpen_checks h.engine).elim
    (Q := fun e => Moved m h cloud _ { h with engine := e } cloud) .still
  intro _ _ _
  apply failIf_elim (Q := fun e => Moved m h cloud _ { h with engine := e } cloud) .still
  intro _
  rw [bind_read_run, bind_run, ends_run]
  cases hx : exportStateLocked (reader m cloud) h.engine.toSnapshotState with
  | ok state => exact .snapshot id state hp hx
  | err | panic => exact .still

lemma deleteSnapshot_moved (id : GoString) :
    Moved m h cloud (.deleteSnapshot id)
    { h with engine := (deleteSnapshot id h.engine).2 } cloud := by
  unfold deleteSnapshot
  apply (checkOpen_checks h.engine).elim
    (Q := fun e => Moved m h cloud _ { h with engine := e } cloud) .still
  intro _ _ _
  apply failIf_elim (Q := fun e => Moved m h cloud _ { h with engine := e } cloud) .still
  intro _
  rw [bind_read_run]
  apply failIf_elim (Q := fun e => Moved m h cloud _ { h with engine := e } cloud) .still
  intro _
  exact .deleted id hp

end

lemma advance_moved (m : Materializer) (now : Int) (random : Entropy) {job : Job}
    (hj : h.job = some job) (cloud : Cloud) :
    Moved m h cloud (.advance now random) (h.advance m now random job cloud).1
      (h.advance m now random job cloud).2 := by
  have hgone : ∀ {stage : Stage}, job.stage = stage → (∀ p, stage ≠ .committed p) →
      Moved m h cloud (.advance now random) { h with job := none } cloud := by
    intro stage hs hne
    refine .gone fun job' p hj' hc => ?_
    rw [hj] at hj'
    cases hj'
    exact hne p (hs.symm.trans hc)
  unfold Host.advance
  cases hstage : job.stage with
  | captured =>
    simp only
    cases hp : plan m now random job.capture.state job.capture.expectedManifestSeq with
    | ok p => exact .planned now random job p hj hstage hp
    | err | panic => exact hgone hstage fun p => by simp
  | planned p => exact .segmentPut now random job p hj hstage
  | segmentPut p => exact .manifestPut now random job p hj hstage
  | manifestPut p =>
    simp only
    rcases commit_cases m.headStore p cloud with hc | ⟨err, hc⟩
    · rw [hc]
      exact .committed now random job p _ hj hstage hc
    · rw [hc]
      exact hgone hstage fun p => by simp
  | committed p =>
    simp only
    cases hp : h.pending with
    | some pending => exact .still
    | none =>
      unfold startInstall
      by_cases hcur : job.capture.current h.engine
      · rw [if_pos hcur]
        exact .installed now random job p hj hstage hp hcur
      rw [if_neg hcur]
      have hout : Moved m h cloud (.advance now random) _ cloud :=
        .outdated now random job p hj hstage hp hcur
      by_cases hlt : p.manifest.manifestSeq > h.engine.lastCommittedManifest
      · rw [if_pos hlt]
        rw [Nat.max_eq_right (Nat.le_of_lt hlt), hp] at hout
        exact hout
      · rw [if_neg hlt]
        rw [Nat.max_eq_left (Nat.le_of_not_lt hlt), hp] at hout
        exact hout

lemma next_moved (m : Materializer) (h : Host) (cloud : Cloud) (a : Act) :
    Moved m h cloud a (a.next m h cloud).1 (a.next m h cloud).2 := by
  cases a with simp only [Act.next]
  | call now appendErr op => exact moved_locked fun hp => .called now appendErr op hp
  | createSnapshot id => exact moved_locked fun hp => createSnapshot_moved hp id
  | deleteSnapshot id => exact moved_locked fun hp => deleteSnapshot_moved hp id
  | startMaterialize =>
    cases hj : h.job with
    | some job => exact .still
    | none =>
      exact moved_locked fun hp => capturing_moved hp hj
  | advance now random =>
    cases hj : h.job with
    | none => exact .still
    | some job => exact advance_moved m now random hj cloud
  | abandon =>
    split
    · exact .still
    · rename_i hj
      refine .gone fun job p hjob hstage => hj job.capture p ?_
      rw [hjob, ← hstage]
  | startRefresh =>
    rw [Host.locked]
    by_cases hp : h.pending = none
    · rw [if_neg (by simp [hp])]
      exact .loaded hp
    · rw [if_pos (Option.isSome_iff_ne_none.mpr hp)]
      exact .waiting hp
  | finishRefresh =>
    cases hl : h.loaded with
    | none => exact .still
    | some manifest => exact moved_locked fun hp => refreshing_moved hp hl
  | close =>
    refine moved_locked fun hp => ?_
    cases hclosed : h.engine.closed with
    | true => exact .still
    | false => exact .closing hp hclosed
  | restore id => exact moved_locked fun hp => restore_moved hp id
  | replace state => exact moved_locked fun hp => replace_moved hp state
  | save =>
    rcases hp : h.pending with _ | ⟨cause, _ | _⟩
    · exact .still
    · exact .saved cause hp
    · exact .still
  | saveFails =>
    rcases hp : h.pending with _ | ⟨cause, _ | _⟩
    · exact .still
    · exact .failed _ hp
    · exact .still
  | reset =>
    rcases hp : h.pending with _ | ⟨cause, _ | _⟩
    · exact .still
    · exact .still
    · exact .reset cause hp
  | resetFails =>
    rcases hp : h.pending with _ | ⟨cause, _ | _⟩
    · exact .still
    · exact .still
    · exact .failed _ hp
  | reopen now =>
    split
    · rename_i hdone
      simp only [Option.isNone_iff_eq_none] at hdone
      exact open_moved (.inr ⟨rfl, hdone⟩)
    · exact .still
  | crash now => exact open_moved (.inl rfl)

/-! ## Whole calls -/

/-- The whole call of an act that starts one. -/
def Act.whole : Act → Option (Eng Unit)
  | .close => some s0fs.close
  | .restore id => some (restoreSnapshot id)
  | .replace state => some (replaceState state)
  | _ => none

/-- The start of `Close`, `RestoreSnapshot` or `ReplaceState` and its two writes, one after
another, are the call. -/
lemma checkpoint_whole {w : World} {a : Act} {x : Eng Unit} {e : Engine} (ha : a.whole = some x)
    (hp : w.host.pending = none) (hopen : w.host.engine.closed = false)
    (hx : x w.host.engine = (.ok (), e)) :
    ([a, .save, .reset].foldl (World.next m) w).host.engine = e := by
  cases a with cases ha
  | close =>
    change (Call.read >>= _) w.host.engine = _ at hx
    rw [bind_read_run, onlyIf_pos _ hopen] at hx
    cases hx
    simp only [List.foldl, World.next, Act.next, Host.locked, hp, hopen]
    rfl
  | restore | replace =>
    obtain ⟨_, e', hstart, hx⟩ := Call.of_bind_ok hx
    cases hx
    simp only [List.foldl, World.next, Act.next, Host.locked, hp, Host.begin, hstart]
    rfl

end sandbox0.s0fs
