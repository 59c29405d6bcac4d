-- `SyncMaterialize` with a local disk that can fail. The commit goes to the head
-- store first, so an error of the disk leaves the engine behind its own head.
import Sandbox0.S0fsHost
import Sandbox0.S0fsReplay

namespace sandbox0.s0fs

open Call

/-! ## The call -/

/-- What a call of `SyncMaterialize` meets: the clock, the random bytes, the
engine when the call takes the lock again, and the errors of the local steps. -/
structure SyncCall where
  now : Int
  random : Entropy
  meanwhile : Engine
  persistErr : Option Err
  resetErr : Option Err

def failWith (err : Option Err) : Eng Unit :=
  match err with
  | some err => Call.fail err
  | none => pure ()

/-- The local steps after the state of the manifest is installed. -/
def SyncCall.finish (call : SyncCall) (c : Capture)
    (manifest : Manifest) : Eng (Option Manifest) := do
  failWith call.persistErr
  persistCurrentStateLocked
  failWith call.resetErr
  reset
  Call.update (Cause.install c manifest).finish
  pure (some manifest)

/-- The part of the call under the lock, after `Materialize` has returned. -/
def SyncCall.install (call : SyncCall) (c : Capture)
    (manifest : Manifest) : Eng (Option Manifest) := do
  if ← startInstall c manifest then call.finish c manifest else pure (some manifest)

def syncMaterialize (m : Materializer) (call : SyncCall) (e : Engine) (cloud : Cloud) :
    Outcome Err (Option Manifest) × Engine × Cloud :=
  match (startMaterialize e).1 with
  | .ok (some c) =>
    match materialize m call.now call.random c.state c.expectedManifestSeq cloud with
    | (.ok manifest, cloud) =>
      let (result, e) := call.install c manifest call.meanwhile
      (result, e, cloud)
    | (.err err, cloud) => (.err err, call.meanwhile, cloud)
    | (.panic, cloud) => (.panic, call.meanwhile, cloud)
  | .ok none => (.ok none, e, cloud)
  | .err err => (.err err, e, cloud)
  | .panic => (.panic, e, cloud)

/-! ## The calls in between -/

/-- What a call on the files does to the counters of the engine. -/
structure Mutated (e e' : Engine) : Prop where
  committed : e'.lastCommittedManifest = e.lastCommittedManifest
  counts : (e'.mutationVersion = e.mutationVersion ∧ e'.dirty = e.dirty ∧ e.nextSeq ≤ e'.nextSeq) ∨
    (e.mutationVersion < e'.mutationVersion ∧ e.nextSeq < e'.nextSeq)

/-- A call on the files, or a `SyncMaterialize` with the calls on the files that it lets through. -/
inductive Label where
  | mutate (e : Engine)
  | sync (call : SyncCall)

def SyncStep (m : Materializer) (w : Engine × Cloud) : Label → Engine × Cloud → Prop
  | .mutate e, w' => Mutated w.1 e ∧ w' = (e, w.2)
  | .sync call, w' => Mutated w.1 call.meanwhile ∧ w' = (syncMaterialize m call w.1 w.2).2

/-- No local step fails once the state of a committed manifest is installed. -/
def SpareLocal (m : Materializer) (w : Engine × Cloud) : Label → Prop
  | .mutate _ => True
  | .sync call => w.1.closed = false → w.1.dirty = true →
    (materialize m call.now call.random w.1.capture.state w.1.capture.expectedManifestSeq
      w.2).1.isOk = true →
    w.1.capture.current call.meanwhile → call.persistErr = none ∧ call.resetErr = none

def Cloud.headSeq (cloud : Cloud) : Nat := (cloud.head.map (·.manifestSeq)).getD 0

def InStep (w : Engine × Cloud) : Prop := w.1.lastCommittedManifest = w.2.headSeq

/-- The engine is in step, and its sequence number is ahead of the head. -/
structure Ahead (w : Engine × Cloud) : Prop where
  inStep : InStep w
  seq : w.1.lastCommittedManifest < w.1.nextSeq
  dirty : w.1.dirty = true → w.1.lastCommittedManifest + 1 < w.1.nextSeq

variable {m : Materializer} {e e' : Engine} {cloud cloud' : Cloud} {call : SyncCall}
  {manifest : Manifest} {c : Capture}

lemma Ahead.mutated (h : Ahead (e, cloud)) (hm : Mutated e e') : Ahead (e', cloud) := by
  have hseq := h.seq
  have hdirty := h.dirty
  have hcommitted := hm.committed
  refine ⟨hm.committed.trans h.inStep, ?_, fun hd => ?_⟩ <;>
    rcases hm.counts with ⟨_, heq, hle⟩ | ⟨_, hlt⟩
  all_goals dsimp only at *
  · omega
  · omega
  · have := hdirty (heq ▸ hd)
    omega
  · omega

/-- What a `Materialize` has done to the head. -/
lemma materialize_head {now : Int} {random : Entropy} {s : SnapshotState} {expected : Nat}
    (hstore : m.headStore = true) {result : Outcome Err Manifest}
    (h : materialize m now random s expected cloud = (result, cloud')) :
    match result with
    | .ok manifest => cloud'.headSeq = manifest.manifestSeq ∧ manifest.manifestSeq = s.nextSeq - 1 ∧
        expected < s.nextSeq - 1 ∧ manifest.state.nextSeq = s.nextSeq
    | _ => cloud'.head = cloud.head := by
  unfold materialize at h
  cases hplan : plan m now random s expected with
  | err | panic =>
    rw [hplan] at h
    cases h
    rfl
  | ok p =>
    rw [hplan, bind_ok (ends_run _ _), bind_ok (putSegment_run p cloud),
      bind_ok (putManifest_run p _), commit, hstore, if_pos rfl] at h
    obtain ⟨ms, files, enc, hp⟩ := plan_ok hplan
    obtain ⟨_, _, _, hpack⟩ := buildSegment_ok hp.segment
    rcases compareAndSwapCommittedHead_applies p.volumeID p.expected p.head
      { cloud with objects := p.manifestPut (p.segmentPut cloud.objects) } with ⟨_,
        hok⟩ | ⟨_, err, herr⟩
    · rw [bind_ok hok] at h
      cases h
      exact ⟨rfl, hp.seq, hp.advances, (buildManifestState_ok hpack hp.built).nextSeq⟩
    · rw [bind_err herr] at h
      cases h
      rfl

/-! ## The end of the call -/

lemma startMaterialize_busy (hopen : e.closed = false) (hdirty : e.dirty = true) :
    (startMaterialize e).1 = .ok (some e.capture) := by
  unfold startMaterialize
  rw [bind_ok (checkOpen_ok hopen), bind_read_run, if_pos hdirty]
  rfl

lemma syncMaterialize_idle (h : ¬ (e.closed = false ∧ e.dirty = true)) :
    (syncMaterialize m call e cloud).2 = (e, cloud) := by
  unfold syncMaterialize startMaterialize
  rcases checkOpen_checks e with ⟨hopen, _, hx⟩ | ⟨_, err, hx⟩
  · have hclean : ¬ e.dirty = true := fun hd => h ⟨hopen, hd⟩
    rw [bind_ok hx, bind_read_run, if_neg hclean]
    rfl
  · rw [bind_err hx]

lemma install_stale (hcur : ¬ c.current e) (hnew : e.lastCommittedManifest < manifest.manifestSeq) :
    call.install c manifest e =
      (.ok (some manifest), { e with lastCommittedManifest := manifest.manifestSeq }) := by
  have hrun : startInstall c manifest e =
      (.ok false, { e with lastCommittedManifest := manifest.manifestSeq }) := by
    rw [startInstall, if_neg hcur, if_pos hnew]
  rw [SyncCall.install, bind_ok hrun]
  rfl

lemma install_current (hcur : c.current e) :
    call.install c manifest e = call.finish c manifest (replaceStateLocked manifest.state e).2 := by
  have hrun : startInstall c manifest e = (.ok true, (replaceStateLocked manifest.state e).2) := by
    rw [startInstall, if_pos hcur]
  rw [SyncCall.install, bind_ok hrun]
  rfl

lemma finish_failed (h : ¬ (call.persistErr = none ∧ call.resetErr = none)) :
    (call.finish c manifest e).2.lastCommittedManifest = e.lastCommittedManifest := by
  unfold SyncCall.finish failWith
  cases hpersist : call.persistErr with
  | some err => rfl
  | none =>
    cases hreset : call.resetErr with
    | some err => rfl
    | none => exact absurd ⟨hpersist, hreset⟩ h

lemma finish_ok (h : call.persistErr = none ∧ call.resetErr = none) :
    (call.finish c manifest e).2 =
      (Cause.install c manifest).finish (reset (persistCurrentStateLocked e).2).2 := by
  unfold SyncCall.finish failWith
  rw [h.1, h.2]
  rfl

lemma Ahead.sync (h : Ahead (e, cloud)) (hstore : m.headStore = true)
    (hm : Mutated e call.meanwhile) :
    (SpareLocal m (e, cloud) (.sync call) → Ahead (syncMaterialize m call e cloud).2) ∧
      (InStep (syncMaterialize m call e cloud).2 → SpareLocal m (e, cloud) (.sync call)) := by
  by_cases hbusy : e.closed = false ∧ e.dirty = true
  · obtain ⟨hopen, hdirty⟩ := hbusy
    have hcommitted := hm.committed
    unfold syncMaterialize SpareLocal
    rw [startMaterialize_busy hopen hdirty]
    dsimp only
    rcases hmat : materialize m call.now call.random e.capture.state
      e.capture.expectedManifestSeq cloud with
      ⟨result, cloud'⟩
    have hhead := materialize_head hstore hmat
    cases result with
    | err | panic =>
      have hafter := h.mutated hm
      refine ⟨fun _ => ⟨?_, hafter.seq, hafter.dirty⟩, fun _ _ _ hok => by cases hok⟩
      exact hafter.inStep.trans (by rw [Cloud.headSeq, Cloud.headSeq, hhead])
    | ok manifest =>
      obtain ⟨hhead, hseq, hadv, hstate⟩ := hhead
      change e.lastCommittedManifest < e.nextSeq - 1 at hadv
      change manifest.manifestSeq = e.nextSeq - 1 at hseq
      by_cases hcur : e.capture.current call.meanwhile
      · dsimp only
        rw [install_current hcur]
        refine ⟨fun hspare => ?_, fun hstep _ _ _ _ => ?_⟩
        · rw [finish_ok (hspare hopen hdirty rfl hcur)]
          refine ⟨hhead.symm, ?_, nofun⟩
          change manifest.state.nextSeq = e.nextSeq at hstate
          change manifest.manifestSeq < if manifest.state.nextSeq = 0 then 1
            else manifest.state.nextSeq
          split <;> omega
        · by_contra hfail
          unfold InStep at hstep
          rw [finish_failed hfail, hhead] at hstep
          change call.meanwhile.lastCommittedManifest = _ at hstep
          omega
      · have hlt : e.nextSeq < call.meanwhile.nextSeq := by
          rcases hm.counts with ⟨hversion, _⟩ | ⟨_, hlt⟩
          · exact absurd ⟨hversion, hcommitted⟩ hcur
          · exact hlt
        dsimp only
        rw [install_stale hcur (by omega)]
        refine ⟨fun _ => ⟨hhead.symm, ?_, fun _ => ?_⟩, fun _ _ _ _ hc => absurd hc hcur⟩
        · change manifest.manifestSeq < call.meanwhile.nextSeq
          omega
        · change manifest.manifestSeq + 1 < call.meanwhile.nextSeq
          omega
  · rw [syncMaterialize_idle hbusy]
    exact ⟨fun _ => h, fun _ hopen hdirty => absurd ⟨hopen, hdirty⟩ hbusy⟩

/-- The engine is never behind its head, and never refused for it, as long as
the local steps of its calls do not fail; and a call in which one fails leaves it behind. -/
theorem failing_disk_wedges_commits_iff (hstore : m.headStore = true)
    (h : Reach Ahead (SyncStep m) (SpareLocal m) (e, cloud)) :
    InStep (e, cloud) ∧
    (e.dirty = true → e.lastCommittedManifest < checkpointSequence e.toSnapshotState ∧
      ∀ head : CommittedHead, head.manifestSeq = checkpointSequence e.toSnapshotState →
        headConflicts cloud.head e.lastCommittedManifest head = false) ∧
    ∀ call : SyncCall, Mutated e call.meanwhile →
      (InStep (syncMaterialize m call e cloud).2 ↔ SpareLocal m (e, cloud) (.sync call)) := by
  have hinv : Ahead (e, cloud) := by
    generalize (e, cloud) = w at h ⊢
    induction h with
    | start h => exact h
    | @step w _ a _ hok hs hinv =>
      rcases a with e' | call <;> obtain ⟨hm, rfl⟩ := hs
      · exact hinv.mutated hm
      · exact (hinv.sync hstore hm).1 hok
  refine ⟨hinv.inStep, fun hdirty => ?_, fun call hm => ?_⟩
  · have hlt : e.lastCommittedManifest + 1 < e.nextSeq := hinv.dirty hdirty
    have hstep : e.lastCommittedManifest = cloud.headSeq := hinv.inStep
    unfold checkpointSequence
    refine ⟨by omega, fun head hseq => ?_⟩
    unfold headConflicts
    unfold Cloud.headSeq at hstep
    cases hhead : cloud.head with
    | none => simpa [hhead] using hstep
    | some existing =>
      rw [hhead] at hstep
      simp only [Option.map_some, Option.getD_some] at hstep
      simp only [decide_eq_false_iff_not]
      omega
  · have hboth := hinv.sync hstore hm
    exact ⟨hboth.2, fun hspare => (hboth.1 hspare).inStep⟩

def oneFile : Engine := after [.createFile 1 (lit "a") 0o644]

/-- A call without anything in between, whose `head.json` cannot be written when `err` says so. -/
def syncOf (e : Engine) (err : Option Err) : SyncCall := ⟨0, ⟨[], [], []⟩, e, err, none⟩

lemma oneFile_ahead : Ahead (oneFile, .empty) :=
  ⟨show _ = _ by decide +kernel, by decide +kernel, by decide +kernel⟩

theorem first_sync_is_in_step :
    InStep (syncMaterialize plainMaterializer (syncOf oneFile none) oneFile .empty).2 := by
  have hstart : Reach Ahead (SyncStep plainMaterializer) (SpareLocal plainMaterializer)
    (oneFile, .empty) := .start oneFile_ahead
  exact ((failing_disk_wedges_commits_iff rfl hstart).2.2 (syncOf oneFile none)
    ⟨rfl, .inl ⟨rfl, rfl, Nat.le_refl _⟩⟩).mpr fun _ _ _ _ => ⟨rfl, rfl⟩

/-- `head.json` cannot be written once, and the next call is refused. -/
theorem failed_persist_wedges_the_next_commit :
    let w := (syncMaterialize plainMaterializer (syncOf oneFile (some .closed)) oneFile .empty).2
    Ahead (oneFile, .empty) ∧ w.1.lastCommittedManifest = 0 ∧ w.2.headSeq = 1 ∧ w.1.dirty = true ∧
      (match (syncMaterialize plainMaterializer (syncOf w.1 none) w.1 w.2).1 with
        | .err .committedHeadConflict => true
        | _ => false) = true := by
  refine ⟨oneFile_ahead, ?_⟩
  decide +kernel

end sandbox0.s0fs
