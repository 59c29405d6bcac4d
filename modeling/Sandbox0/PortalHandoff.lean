-- The handoff of a volume that has no portals: `PrepareHandoff`,
-- `CompleteHandoff` and `AbortHandoff` of the portal manager against the direct
-- file requests of the volume and the materializer in the background. Of the
-- engine only its counters matter: a write takes the next sequence number, and
-- a manifest holds the writes below the `NextSeq` of its state. The last section
-- takes them from the engine of the volume.
import Sandbox0.PortalVolumes
import Sandbox0.S0fsHostSteps
import Sandbox0.S0fsReplay

namespace sandbox0.portal.handoff

/-! ## The engine -/

structure Engine where
  /-- The volume has an object store to materialize to. -/
  enabled : Bool
  nextSeq : Nat
  mutationVersion : Nat
  dirty : Bool
  closed : Bool
  /-- `NextSeq` of the state in the manifest committed last. -/
  committed : Nat
  deriving DecidableEq

/-- What `SyncMaterialize` takes from the engine under the read lock. -/
structure Capture where
  version : Nat
  nextSeq : Nat

namespace Engine

def write (e : Engine) : Engine :=
  { e with nextSeq := e.nextSeq + 1, mutationVersion := e.mutationVersion + 1, dirty := true }

/-- A call whose record could not be appended has taken its number all the same. -/
def skip (e : Engine) : Engine := { e with nextSeq := e.nextSeq + 1 }

def capture (e : Engine) : Capture := ⟨e.mutationVersion, e.nextSeq⟩

/-- The manifest of the captured state is the one committed last. -/
def commit (e : Engine) (c : Capture) : Engine := { e with committed := c.nextSeq }

/-- The end of `SyncMaterialize`, after the commit, under the lock: the state is
installed only when nothing was written since the capture. -/
def install (e : Engine) (c : Capture) : Engine :=
  if e.mutationVersion = c.version then { e with nextSeq := c.nextSeq, dirty := false } else e

end Engine

/-! ## The source of a handoff -/

/-- Who called `SyncMaterialize`. -/
inductive Caller where
  | materializer
  | prepareHandoff
  | unmountVolume
  deriving DecidableEq

/-- A call of `SyncMaterialize` that has captured the state. It holds
`materializeMu`. -/
structure Sync where
  caller : Caller
  capture : Capture
  committed : Bool

inductive Stage where
  | idle
  /-- `PrepareHandoff` waits until no request is in flight. -/
  | draining
  /-- `PrepareHandoff` from the last request to the end of `SyncMaterialize`. -/
  | syncing
  | prepared
  /-- `CompleteHandoff` has called `abortHandoff`; the materializer stops. -/
  | completing
  /-- `UnmountVolume` from its start to the end of `SyncMaterialize`. -/
  | unmounting
  /-- Before `Close`. -/
  | closing
  /-- Before `RemoveAll`. -/
  | removing
  /-- The cache directory is gone; the volume is still in the table. -/
  | removed
  | completed
  deriving DecidableEq

/-- `CompleteHandoff` runs. -/
def Stage.completes : Stage → Bool
  | .completing | .unmounting | .closing | .removing | .removed => true
  | _ => false

structure Source where
  volumeID : GoString
  volumes : LocalVolumes
  engine : Engine
  sync : Option Sync
  /-- The goroutine of `startMaterializer` runs. -/
  ticking : Bool
  stage : Stage
  /-- The requests that were admitted and have not been released. -/
  admitted : List Nat
  /-- The sequence numbers of the writes that clients have been told of. -/
  acked : List Nat
  cacheDir : Bool
  /-- A request was admitted from the end of `PrepareHandoff` to the end of
  `CompleteHandoff`. -/
  late : Bool

inductive Event where
  | acquire (now : Int) (r : Nat)
  | write (r : Nat)
  /-- A write whose record cannot be appended. -/
  | writeFails (r : Nat)
  | release (now : Int) (r : Nat)
  /-- The materializer starts a `SyncMaterialize`. -/
  | tick (now : Int)
  | commit (now : Int) (ok : Bool)
  /-- The local checkpoint of the installed state can fail. -/
  | install (now : Int) (ok : Bool)
  | prepare
  | drained
  | prepareCancelled
  /-- `PrepareHandoff` calls `SyncMaterialize`. -/
  | prepareSync (now : Int)
  | abort (now : Int)
  | complete (now : Int)
  | stopMaterializer
  /-- `UnmountVolume` calls `SyncMaterialize`. -/
  | unmountSync (now : Int)
  | close (ok : Bool)
  | removeAll (ok : Bool)
  | remove

namespace Source

/-- The stage that the end of a `SyncMaterialize` leads to. -/
def synced (s : Source) (caller : Caller) : Source :=
  match caller, s.stage with
  | .prepareHandoff, .syncing => { s with sync := none, stage := .prepared }
  | .unmountVolume, .unmounting => { s with sync := none, stage := .closing }
  | _, _ => { s with sync := none }

/-- A failed `SyncMaterialize`: `PrepareHandoff` calls `abortHandoff`, and
`CompleteHandoff` returns the error. -/
def syncFailed (s : Source) (now : Int) (caller : Caller) : Source :=
  match caller, s.stage with
  | .prepareHandoff, .syncing =>
    { s with sync := none, stage := .idle, volumes := s.volumes.abortHandoff now s.volumeID }
  | .unmountVolume, .unmounting => { s with sync := none, stage := .idle }
  | _, _ => { s with sync := none }

/-- The start of `SyncMaterialize`: a closed engine fails, and an engine without
an object store or without changes has nothing to do. -/
def startSync (s : Source) (now : Int) (caller : Caller) : Source :=
  if s.sync.isSome then s
  else if s.engine.closed then s.syncFailed now caller
  else if s.engine.enabled ∧ s.engine.dirty then
    { s with sync := some ⟨caller, s.engine.capture, false⟩ }
  else s.synced caller

end Source

def Event.next (s : Source) : Event → Source
  | .acquire now r =>
    if r ∈ s.admitted then s
    else
      match s.volumes.acquire now s.volumeID with
      | (.admitted, volumes) =>
        { s with
          volumes, admitted := r :: s.admitted
          late := s.late || s.stage = .prepared || s.stage.completes }
      | _ => s
  | .write r =>
    if r ∈ s.admitted ∧ s.engine.closed = false then
      { s with engine := s.engine.write, acked := s.engine.nextSeq :: s.acked }
    else s
  | .writeFails r =>
    if r ∈ s.admitted ∧ s.engine.closed = false then { s with engine := s.engine.skip } else s
  | .release now r =>
    if r ∈ s.admitted then
      { s with volumes := s.volumes.release now s.volumeID, admitted := s.admitted.erase r }
    else s
  | .tick now => if s.ticking then s.startSync now .materializer else s
  | .commit now ok =>
    match s.sync with
    | some ⟨caller, capture, false⟩ =>
      if ok then { s with engine := s.engine.commit capture, sync := some ⟨caller, capture, true⟩ }
      else s.syncFailed now caller
    | _ => s
  | .install now ok =>
    match s.sync with
    | some ⟨caller, capture, true⟩ =>
      if ok ∨ s.engine.mutationVersion ≠ capture.version then
        { s with engine := s.engine.install capture, sync := none }.synced caller
      else s.syncFailed now caller
    | _ => s
  | .prepare =>
    if s.stage = .idle then
      match s.volumes.startHandoff s.volumeID with
      | (.ok _, volumes) => { s with volumes, stage := .draining }
      | _ => s
    else s
  | .drained =>
    if s.stage = .draining ∧ s.volumes.drained s.volumeID then { s with stage := .syncing } else s
  | .prepareCancelled =>
    if s.stage = .draining ∧ s.volumes.drained s.volumeID = false then
      { s with volumes := s.volumes.cancelHandoff s.volumeID, stage := .idle }
    else s
  | .prepareSync now => if s.stage = .syncing then s.startSync now .prepareHandoff else s
  | .abort now =>
    if s.stage = .prepared then
      { s with volumes := s.volumes.abortHandoff now s.volumeID, stage := .idle }
    else s
  | .complete now =>
    if s.stage = .prepared then
      { s with volumes := s.volumes.abortHandoff now s.volumeID, stage := .completing }
    else s
  | .stopMaterializer =>
    if s.stage = .completing ∧ s.sync = none then
      { s with ticking := false, stage := .unmounting } else s
  | .unmountSync now => if s.stage = .unmounting then s.startSync now .unmountVolume else s
  | .close ok =>
    if s.stage = .closing then
      if ok then { s with engine := { s.engine with closed := true }, stage := .removing }
      else { s with stage := .idle }
    else s
  | .removeAll ok =>
    if s.stage = .removing then
      if ok then { s with cacheDir := false, stage := .removed } else { s with stage := .idle }
    else s
  | .remove =>
    if s.stage = .removed then
      { s with volumes := s.volumes.remove s.volumeID, stage := .completed }
    else s

structure Start (s : Source) : Prop where
  requests : ∃ lastAccess, s.volumes.requests[s.volumeID]? = some ⟨0, false, false, lastAccess⟩
  calm : s.sync = none ∧ s.stage = .idle ∧ s.admitted = [] ∧ s.acked = [] ∧ s.late = false
  cacheDir : s.cacheDir = true

/-- The volume has an object store when `CompleteHandoff` is called, and no
direct file request comes while it runs. -/
def Event.Quiet (s : Source) : Event → Prop
  | .acquire _ _ => s.stage.completes = false
  | .complete _ => s.engine.enabled = true
  | _ => True

instance (s : Source) (e : Event) : Decidable (e.Quiet s) := by
  unfold Event.Quiet
  split <;> infer_instance

/-! ## The gate -/

def Stage.gated : Stage → Bool
  | .draining | .syncing | .prepared => true
  | _ => false

/-- The requests that were in flight are over. -/
def Stage.drained : Stage → Bool
  | .idle | .draining => false
  | _ => true

/-- `PrepareHandoff` has returned. -/
def Stage.synced : Stage → Bool
  | .idle | .draining | .syncing => false
  | _ => true

structure Gate (s : Source) : Prop where
  mounted : s.stage ≠ .completed → ∃ state, s.volumes.requests[s.volumeID]? = some state ∧
    state.inFlight = s.admitted.length ∧ (s.stage.gated → state.transferring ∧ state.done)
  unmounted : s.stage = .completed → s.volumes.requests[s.volumeID]? = none
  drained : s.stage.drained → s.admitted = []
  late : s.late = false

/-- What the gate knows at the first stage, it knows at the second. -/
def Stage.keepsGate (st st' : Stage) : Bool :=
  st ≠ .completed ∧ st' ≠ .completed ∧ (st'.gated → st.gated) ∧ (st'.drained → st.drained)

section

variable {s : Source} {caller : Caller} {volumeID : GoString} {volumes : LocalVolumes}
    {engine : Engine}
  {sync : Option Sync} {ticking : Bool} {st was : Stage} {admitted acked : List Nat}
  {cacheDir late : Bool}

lemma Gate.toStage (h : Gate s) (hwas : s.stage = was) (hst : was.keepsGate st := by rfl) :
    Gate ⟨s.volumeID, s.volumes, engine, sync, ticking, st, s.admitted, acked,
      cacheDir, s.late⟩ := by
  obtain ⟨h0, h1, hg, hd⟩ := of_decide_eq_true (hwas ▸ hst)
  obtain ⟨state, hget, hin, hflags⟩ := h.mounted h0
  exact ⟨fun _ => ⟨state, hget, hin, fun h => hflags (hg h)⟩, fun h => absurd h h1,
    fun h' => h.drained (hd h'), h.late⟩

/-- The gate opens: `abortHandoff` takes the flags away. -/
lemma Gate.open (now : Int) (h : Gate s) (hwas : s.stage = was) (hst : was.keepsGate st := by rfl)
    (hopen : st.gated = false := by rfl) :
    Gate ⟨s.volumeID, s.volumes.abortHandoff now s.volumeID, engine, sync, ticking, st, s.admitted,
      acked, cacheDir, s.late⟩ := by
  obtain ⟨h0, h1, -, hd⟩ := of_decide_eq_true (hwas ▸ hst)
  obtain ⟨state, hget, hin, -⟩ := h.mounted h0
  have hgated : ¬ st.gated = true := by simp [hopen]
  refine ⟨fun _ => ?_, fun h => absurd h h1, fun h' => h.drained (hd h'), h.late⟩
  unfold LocalVolumes.abortHandoff
  simp only [hget]
  split
  · exact ⟨_, GoMap.get_insert_self .., hin, fun h => absurd h hgated⟩
  · exact ⟨state, hget, hin, fun h => absurd h hgated⟩

/-! ## The writes -/

/-- What a `SyncMaterialize` in progress has captured. The one of
`PrepareHandoff` has captured everything, as nothing is written while it runs. -/
structure Captured (s : Source) (c : Sync) : Prop where
  dirty : s.engine.dirty = true
  version : c.capture.version ≤ s.engine.mutationVersion
  acked : s.engine.mutationVersion = c.capture.version → ∀ seq ∈ s.acked, seq < c.capture.nextSeq
  committed : c.committed = true → s.engine.committed = c.capture.nextSeq
  prepare : c.caller = .prepareHandoff →
    s.stage = .syncing ∧ s.engine.mutationVersion = c.capture.version

structure Saved (s : Source) : Prop where
  captured : ∀ c ∈ s.sync, Captured s c
  clean : s.engine.dirty = false → ∀ seq ∈ s.acked, seq < s.engine.committed
  acked : ∀ seq ∈ s.acked, seq < s.engine.nextSeq
  synced : s.stage.synced → s.engine.enabled = true → s.engine.dirty = false
  enabled : s.stage.completes ∨ s.stage = .completed → s.engine.enabled = true
  cacheDir : s.cacheDir = false → s.stage = .removed ∨ s.stage = .completed

/-- What the writes need of the first stage, they have at the second. -/
def Stage.keepsSaved (st st' : Stage) : Bool :=
  (st'.synced → st.synced) ∧ (st'.completes ∨ st' = .completed → st.completes ∨ st = .completed) ∧
    (st = .removed ∨ st = .completed → st' = .removed ∨ st' = .completed)

lemma Saved.moved (h : Saved s) (hc : ∀ c ∈ sync, c ∈ s.sync ∧ (s.stage = .syncing → st = .syncing))
    (hs : st.synced → s.engine.enabled = true → s.engine.dirty = false)
    (hen : st.completes ∨ st = .completed → s.engine.enabled = true)
    (hdir : cacheDir = false → st = .removed ∨ st = .completed) :
    Saved ⟨volumeID, volumes, s.engine, sync, ticking, st, admitted, s.acked, cacheDir, late⟩ := by
  refine ⟨fun c hmem => ?_, h.clean, h.acked, hs, hen, hdir⟩
  obtain ⟨hold, hst⟩ := hc c hmem
  obtain ⟨h1, h2, h3, h4, h5⟩ := h.captured c hold
  exact ⟨h1, h2, h3, h4, fun hcall => ⟨hst (h5 hcall).1, (h5 hcall).2⟩⟩

lemma Saved.toStage (h : Saved s) (hwas : s.stage = was)
    (hc : ∀ c ∈ sync, c ∈ s.sync ∧ (was = .syncing → st = .syncing) := by simp)
    (hst : was.keepsSaved st := by rfl) :
    Saved ⟨volumeID, volumes, s.engine, sync, ticking, st, admitted, s.acked,
      s.cacheDir, late⟩ := by
  obtain ⟨hs, hen, hdir⟩ := of_decide_eq_true (hwas ▸ hst)
  subst hwas
  exact h.moved hc (fun h' => h.synced (hs h')) (fun h' => h.enabled (hen h'))
    (fun h' => hdir (h.cacheDir h'))

/-- A write comes from a request in flight, so nothing was prepared yet. -/
lemma Saved.write (h : Saved s) (hst : s.stage.drained = false) :
    Saved { s with engine := s.engine.write, acked := s.engine.nextSeq :: s.acked } := by
  have hns : s.stage.synced = false := by
    cases hs : s.stage <;> simp_all [Stage.drained, Stage.synced]
  refine ⟨fun c hmem => ?_, by simp [Engine.write], ?_, by simp [hns], h.enabled, h.cacheDir⟩
  · obtain ⟨-, h2, -, h4, h5⟩ := h.captured c hmem
    refine ⟨rfl, Nat.le_succ_of_le h2, fun heq => ?_, h4, fun hcall => ?_⟩
    · simp only [Engine.write] at heq
      omega
    · simp [(h5 hcall).1, Stage.drained] at hst
  · intro seq hmem
    rcases List.mem_cons.mp hmem with rfl | hmem
    · exact Nat.lt_succ_self _
    · exact Nat.lt_succ_of_lt (h.acked seq hmem)

/-- A write that fails has taken its number and changed nothing else. -/
lemma Saved.skip (h : Saved s) : Saved { s with engine := s.engine.skip } where
  captured c hc := { h.captured c hc with }
  clean := h.clean
  acked seq hmem := Nat.lt_succ_of_lt (h.acked seq hmem)
  synced := h.synced
  enabled := h.enabled
  cacheDir := h.cacheDir

/-! ## Every step -/

structure Sound (s : Source) : Prop where
  gate : Gate s
  saved : Saved s

/-- `SyncMaterialize` ends well: for a handoff the engine is clean, when it has
an object store. -/
lemma Sound.synced (h : Sound s)
    (hp : caller = .prepareHandoff → s.engine.enabled = true → s.engine.dirty = false) :
    Sound (s.synced caller) := by
  unfold Source.synced
  split
  · rename_i hst
    refine ⟨h.gate.toStage hst,
      h.saved.moved (by simp) (fun _ => hp rfl) (by simp [Stage.completes]) ?_⟩
    exact fun hd => by simpa [hst] using h.saved.cacheDir hd
  · rename_i hst
    exact ⟨h.gate.toStage hst, h.saved.toStage hst⟩
  · exact ⟨{ h.gate with }, h.saved.moved (by simp) h.saved.synced h.saved.enabled h.saved.cacheDir⟩

lemma Sound.syncFailed (h : Sound s) (now : Int) (caller : Caller) :
    Sound (s.syncFailed now caller) := by
  unfold Source.syncFailed
  split
  · rename_i hst
    exact ⟨h.gate.open now hst, h.saved.toStage hst⟩
  · rename_i hst
    exact ⟨h.gate.toStage hst, h.saved.toStage hst⟩
  · exact ⟨{ h.gate with }, h.saved.moved (by simp) h.saved.synced h.saved.enabled h.saved.cacheDir⟩

lemma Sound.startSync (h : Sound s) (now : Int)
    (hp : caller = .prepareHandoff → s.stage = .syncing) : Sound (s.startSync now caller) := by
  unfold Source.startSync
  split
  · exact h
  split
  · exact h.syncFailed now caller
  split
  · rename_i hd
    refine ⟨{ h.gate with }, { h.saved with captured := ?_ }⟩
    rintro c ⟨rfl⟩
    exact ⟨hd.2, Nat.le_refl _, fun _ => h.saved.acked, by simp, fun hc => ⟨hp hc, rfl⟩⟩
  · rename_i hd
    exact h.synced fun _ hen => by simpa [hen] using hd

lemma Sound.commit {capture : Capture} (h : Sound s) (hs : s.sync = some ⟨caller, capture, false⟩) :
    Sound { s with engine := s.engine.commit capture, sync := some ⟨caller, capture, true⟩ } := by
  obtain ⟨h1, h2, h3, -, h5⟩ := h.saved.captured _ hs
  refine ⟨{ h.gate with }, { h.saved with captured := ?_, clean := fun hd => ?_ }⟩
  · rintro c ⟨rfl⟩
    exact ⟨h1, h2, h3, fun _ => rfl, h5⟩
  · simp [Engine.commit, h1] at hd

lemma Sound.install {capture : Capture} (h : Sound s) (hs : s.sync = some ⟨caller, capture, true⟩) :
    Sound ({ s with engine := s.engine.install capture, sync := none }.synced caller) := by
  obtain ⟨h1, h2, h3, h4, h5⟩ := h.saved.captured _ hs
  unfold Engine.install
  by_cases hv : s.engine.mutationVersion = capture.version
  · rw [if_pos hv]
    have hall : s.engine.committed = capture.nextSeq := h4 rfl
    exact Sound.synced ⟨{ h.gate with }, { h.saved with
      captured := nofun, clean := fun _ => hall ▸ h3 hv, acked := h3 hv, synced := fun _ _ => rfl }⟩
      (fun _ _ => rfl)
  · rw [if_neg hv]
    exact Sound.synced ⟨{ h.gate with }, { h.saved with captured := nofun }⟩ fun hcall =>
      absurd (h5 hcall).2 hv

/-- A request is admitted where the gate is open, and outside `CompleteHandoff`
that is before `PrepareHandoff` only. -/
lemma Sound.acquired {now : Int} (h : Sound s) (hq : s.stage.completes = false) (r : Nat)
    (ha : s.volumes.acquire now s.volumeID = (.admitted, volumes)) :
    Sound { s with
      volumes, admitted := r :: s.admitted
      late := s.late || s.stage = .prepared || s.stage.completes } := by
  obtain ⟨state, hget, hfree, hnew⟩ := LocalVolumes.of_acquire_admitted ha
  have hc : s.stage ≠ .completed := fun hc => by simp [h.gate.unmounted hc] at hget
  obtain ⟨state', hget', hin, hflags⟩ := h.gate.mounted hc
  cases hget.symm.trans hget'
  have hgate : ¬ s.stage.gated = true := fun hg => hfree (hflags hg)
  have hopen : s.stage = .idle := by
    cases hst : s.stage <;> simp_all [Stage.gated, Stage.completes]
  refine ⟨⟨fun _ => ⟨_, hnew, by simp [hin], fun hg => absurd hg hgate⟩,
    fun hc' => absurd hc' hc, fun hd => ?_, ?_⟩,
    h.saved.moved (fun c hc => ⟨hc, id⟩) h.saved.synced h.saved.enabled h.saved.cacheDir⟩
  · simp [hopen, Stage.drained] at hd
  · simp [hopen, h.gate.late, Stage.completes]

lemma Sound.released (h : Sound s) (now : Int) {r : Nat} (hr : r ∈ s.admitted) :
    Sound { s with
      volumes := s.volumes.release now s.volumeID, admitted := s.admitted.erase r } := by
  have hnd : ¬ s.stage.drained = true := fun hd => by simp [h.gate.drained hd] at hr
  have hc : s.stage ≠ .completed := fun hc => hnd (by rw [hc]; rfl)
  obtain ⟨state, hget, hin, hflags⟩ := h.gate.mounted hc
  refine ⟨⟨fun _ => ⟨{ state with inFlight := state.inFlight - 1, lastAccess := some now }, ?_, ?_,
    hflags⟩, fun hc' => absurd hc' hc, fun hd => absurd hd hnd, h.gate.late⟩,
    { h.saved with captured := fun c hc => { h.saved.captured c hc with } }⟩
  · simp [LocalVolumes.release, hget]
  · simp [List.length_erase_of_mem hr, hin]

lemma Sound.guard {c : Prop} [Decidable c] {s' : Source} (h : Sound s) (hs : c → Sound s') :
    Sound (if c then s' else s) := by
  split
  · exact hs ‹c›
  · exact h

/-- What each step keeps, when no request comes while `CompleteHandoff` runs. -/
lemma Sound.next {e : Event} (h : Sound s) (hq : e.Quiet s) : Sound (e.next s) := by
  cases e with try refine h.guard fun hst => ?_
  | acquire now r =>
    simp only [Event.next]
    split
    · exact h
    split
    · rename_i volumes ha
      exact h.acquired hq r ha
    · exact h
  | write r =>
    refine ⟨{ h.gate with }, h.saved.write ?_⟩
    by_contra hd
    simp [h.gate.drained (by simpa using hd)] at hst
  | writeFails r => exact ⟨{ h.gate with }, h.saved.skip⟩
  | release now r => exact h.released now hst
  | tick now | unmountSync now => exact h.startSync now nofun
  | commit now ok =>
    simp only [Event.next]
    split
    · rename_i hs
      split
      · exact h.commit hs
      · exact h.syncFailed now _
    · exact h
  | install now ok =>
    simp only [Event.next]
    split
    · rename_i hs
      split
      · exact h.install hs
      · exact h.syncFailed now _
    · exact h
  | prepare =>
    split
    · rename_i volumes hs
      obtain ⟨state, hget, hnew⟩ := LocalVolumes.of_startHandoff_ok hs
      obtain ⟨state', hget', hin, -⟩ := h.gate.mounted (by simp [hst])
      cases hget.symm.trans hget'
      exact ⟨⟨fun _ => ⟨_, hnew, hin, fun _ => ⟨rfl, rfl⟩⟩, by simp, by
        simp [Stage.drained], h.gate.late⟩, h.saved.toStage hst⟩
    · exact h
  | drained =>
    obtain ⟨hst, hd⟩ := hst
    obtain ⟨state, hget, hin, hflags⟩ := h.gate.mounted (by simp [hst])
    refine ⟨⟨fun _ => ⟨state, hget, hin, fun _ => hflags (by simp [hst, Stage.gated])⟩, by simp,
      fun _ => ?_, h.gate.late⟩, h.saved.toStage hst⟩
    simp [LocalVolumes.drained, hget, hin] at hd
    exact hd
  | prepareCancelled =>
    obtain ⟨hst, -⟩ := hst
    obtain ⟨state, hget, hin, -⟩ := h.gate.mounted (by simp [hst])
    refine ⟨⟨fun _ => ⟨{ state with transferring := false, done := false }, ?_,
      hin, by simp [Stage.gated]⟩, by simp, by simp [Stage.drained], h.gate.late⟩,
      h.saved.toStage hst⟩
    simp [LocalVolumes.cancelHandoff, hget]
  | prepareSync now => exact h.startSync now fun _ => hst
  | abort now =>
    exact ⟨h.gate.open now hst, h.saved.toStage hst⟩
  | complete now =>
    refine ⟨h.gate.open now hst, h.saved.moved (fun c hc => ⟨hc, by simp [hst]⟩) ?_
      (fun _ => hq) fun hd => ?_⟩
    · exact fun _ => h.saved.synced (by rw [hst]; rfl)
    · simpa [hst] using h.saved.cacheDir hd
  | stopMaterializer =>
    obtain ⟨hst, -⟩ := hst
    exact ⟨h.gate.toStage hst, h.saved.toStage hst⟩
  | close ok =>
    split
    · have hsaved : Saved { s with stage := .removing } :=
        h.saved.toStage hst
      exact ⟨h.gate.toStage hst,
        { hsaved with captured := fun c hc => { hsaved.captured c hc with } }⟩
    · exact ⟨h.gate.toStage hst, h.saved.toStage hst⟩
  | removeAll ok =>
    split
    · refine ⟨h.gate.toStage hst, h.saved.moved (fun c hc => ⟨hc, by simp [hst]⟩) ?_ ?_ (by simp)⟩
      · exact fun _ => h.saved.synced (by rw [hst]; rfl)
      · exact fun _ => h.saved.enabled (by simp [hst, Stage.completes])
    · exact ⟨h.gate.toStage hst, h.saved.toStage hst⟩
  | remove =>
    exact ⟨⟨by simp, fun _ => by simp [LocalVolumes.remove],
      fun _ => h.gate.drained (by rw [hst]; rfl), h.gate.late⟩,
      h.saved.toStage hst⟩

end

/-! ## The handoff -/

/-- Every run of direct file requests, of the materializer and of handoffs of
the volume. -/
def Reaches (ok : Source → Event → Prop) : Source → Prop :=
  Reach Start (fun s e s' => s' = e.next s) ok

def Source.after (s : Source) (run : List Event) : Source := run.foldl Event.next s

/-- Between `PrepareHandoff` and the end of `CompleteHandoff` no request is
admitted, and what is acknowledged before the cache directory goes is in the
manifest committed last. -/
structure NothingLost (s : Source) : Prop where
  late : s.late = false
  writes : s.cacheDir = false → ∀ seq ∈ s.acked, seq < s.engine.committed

lemma reaches_sound {s : Source} (h : Reaches (fun s e => e.Quiet s) s) : Sound s := by
  refine Reach.keeps (P := Sound) (fun s h0 => ?_) (fun s e h hq => h.next hq) h
  · obtain ⟨⟨_, hreq⟩, ⟨hsync, hst, hadm, hack, hl⟩, hdir⟩ := h0
    constructor
    · exact ⟨fun _ => ⟨_, hreq, by simp [hadm], by simp [hst, Stage.gated]⟩, by simp [hst],
        fun _ => hadm, hl⟩
    · exact ⟨by simp [hsync], by simp [hack], by simp [hack], by simp [hst, Stage.synced],
        by simp [hst, Stage.completes], by simp [hdir]⟩

/-- When no direct file request comes while `CompleteHandoff` runs, and the
volume has an object store, a handoff loses nothing. -/
theorem handoff_loses_no_write {s : Source} (h : Reaches (fun s e => e.Quiet s) s) :
    NothingLost s := by
  obtain ⟨hg, hs⟩ := reaches_sound h
  refine ⟨hg.late, fun hdir => ?_⟩
  have hst : s.stage = .removed ∨ s.stage = .completed := hs.cacheDir hdir
  have hen : s.engine.enabled = true := by
    apply hs.enabled
    rcases hst with hst | hst <;> simp [hst, Stage.completes]
  apply hs.clean
  apply hs.synced _ hen
  rcases hst with hst | hst <;> simp [hst, Stage.synced]

def mounted : Source where
  volumeID := lit "v1"
  volumes := LocalVolumes.add 0 ⟨lit "v1", lit "t1", .rwo, 0, lit "/cache/v1"⟩ ⟨∅, ∅⟩
  engine := ⟨true, 1, 0, false, false, 0⟩
  sync := none
  ticking := true
  stage := .idle
  admitted := []
  acked := []
  cacheDir := true
  late := false

lemma start_mounted : Start mounted :=
  ⟨⟨some 0, by decide +kernel⟩, ⟨rfl, rfl, rfl, rfl, rfl⟩, rfl⟩

/-- A write before the handoff, the handoff to its end, and a request that comes
while the gate is closed. -/
theorem handoff_loses_no_write_of_a_request :
    NothingLost
      (mounted.after [.acquire 1 7, .write 7, .release 2 7, .prepare, .drained, .acquire 3 8,
      .prepareSync 4, .commit 4 true, .install 4 true, .complete 5, .stopMaterializer,
      .unmountSync 6, .close true, .removeAll true, .remove]) :=
  handoff_loses_no_write (Reach.run (.start start_mounted) _ (by decide +kernel))

/-- `CompleteHandoff` opens the gate before it unmounts: a request that comes
then is admitted, and what it writes after the last `SyncMaterialize` goes with
the cache directory. -/
theorem complete_handoff_drops_a_write :
    ∃ s, Reaches (fun _ _ => True) s ∧ s.engine.enabled = true ∧ s.late = true ∧
      s.cacheDir = false ∧ ∃ seq ∈ s.acked, ¬ seq < s.engine.committed :=
  ⟨mounted.after [.prepare, .drained, .prepareSync 1, .complete 2, .acquire 3 7, .stopMaterializer,
      .unmountSync 4, .write 7, .close true, .removeAll true],
    Reach.run (.start start_mounted) _ (by decide +kernel), by decide +kernel⟩

/-! ## The engine of the volume -/

/-- The counters of an engine, with the number that its last manifest holds the
writes below. -/
def counters (enabled : Bool) (committed : Nat) (e : s0fs.Engine) : Engine :=
  ⟨enabled, e.nextSeq, e.mutationVersion, e.dirty, e.closed, committed⟩

/-- What a call does to the counters, if it does anything. -/
inductive Count where
  | skip
  | write

def Engine.count (e : Engine) : Count → Engine
  | .skip => e.skip
  | .write => e.write

/-- What `SyncMaterialize` captures, in counters. -/
def captureCounters (c : s0fs.Capture) : Capture := ⟨c.version, c.state.nextSeq⟩

section

variable (enabled : Bool) (committed : Nat)

/-- A call that appends a record is a write, and one whose append fails skips a number. -/
lemma counters_took {env : s0fs.Env} {e e' : s0fs.Engine} {op : s0fs.Op}
    (h : s0fs.Took env e op e') :
    counters enabled committed e' = counters enabled committed e ∨
      ∃ count, counters enabled committed e' = (counters enabled committed e).count count := by
  cases h with
  | refused | forgot => exact .inl rfl
  | unlogged => exact .inr ⟨.skip, rfl⟩
  | logs r s hopen hr he =>
    have hnext : s.nextSeq = e.nextSeq + 1 := he.nextSeq
    exact .inr ⟨.write, by simp [counters, s0fs.Engine.taken, Engine.count, Engine.write, hnext]⟩

lemma counters_run {m : Option s0fs.SegmentReader} {start e : s0fs.Engine}
    (hs : s0fs.Sound m start.toSnapshotState)
    (h : Reach (· = start) s0fs.CallStep (s0fs.Fitting m) e) :
    ∃ counts : List Count, counters enabled committed e =
      counts.foldl Engine.count (counters enabled committed start) := by
  induction h with
  | start hi => exact ⟨[], by rw [hi]; rfl⟩
  | step hreach hok hstep ih =>
    obtain ⟨counts, hcounts⟩ := ih
    have hsound := s0fs.Sound.reach (fun _ hi => hi ▸ hs) hreach
    rcases counters_took enabled committed (hok.took hsound hstep) with hsame | ⟨count, hcount⟩
    · exact ⟨counts, hsame.trans hcounts⟩
    · exact ⟨counts ++ [count], by rw [hcount, hcounts, List.foldl_append]; rfl⟩

lemma counters_install {m : s0fs.Materializer} {now : Int} {random : s0fs.Entropy} {e : s0fs.Engine}
    {c : s0fs.Capture} {p : s0fs.Plan} (hcur : c.current e)
    (hp : s0fs.plan m now random c.state c.expectedManifestSeq = .ok p) :
    counters enabled committed
      ((s0fs.Cause.install c p.manifest).finish (s0fs.startInstall c p.manifest e).2) =
        (counters enabled committed e).install (captureCounters c) := by
  obtain ⟨ms, files, enc, hplan⟩ := s0fs.plan_ok hp
  obtain ⟨_, _, _, hpack⟩ := s0fs.buildSegment_ok hplan.segment
  have hseq : p.manifest.state.nextSeq = c.state.nextSeq :=
    (s0fs.buildManifestState_ok hpack hplan.built).nextSeq
  have hpos : c.state.nextSeq ≠ 0 := fun h0 => hplan.positive (by simp [h0])
  have hnext : p.manifest.state.installed.nextSeq = c.state.nextSeq := by
    simp [s0fs.SnapshotState.installed, s0fs.collectUnlinkedLocked, hseq, hpos]
  simp [s0fs.startInstall, hcur, s0fs.Cause.finish, s0fs.replaceStateLocked, counters,
    captureCounters, Engine.install, hcur.1, hnext]

end

end sandbox0.portal.handoff
