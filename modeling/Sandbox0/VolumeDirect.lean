-- The direct mounts of `storage-proxy/pkg/volume/manager.go` under interleaved
-- calls. The HTTP file calls on a volume share one session: its lease counts
-- them, and an idle lease is given up and its session unmounted.
import Sandbox0.VolumeSessions

namespace sandbox0.volume

open GoMap

/-! ## Interleaved calls -/

/-- Where a call of `AcquireDirectVolumeFileMount` stands. -/
inductive Progress where
  /-- `mountFn` runs; the call began at `now`. -/
  | mounting (now : Int)
  /-- `mountFn` returned the session. -/
  | mounted (now : Int) (sessionID : Nat)
  /-- It joined the lease and unmounts its own session. -/
  | redundant (lease own : Nat)
  /-- It returned, and its release function was not called. -/
  | returned (sessionID : Nat)

structure Acquire where
  volumeID : GoString
  progress : Progress

def Progress.given : Progress → Option Nat
  | .redundant lease _ => some lease
  | .returned sessionID => some sessionID
  | _ => none

/-- The session that the call itself mounted and that no lease has yet. -/
def Progress.own : Progress → Option Nat
  | .mounted _ sessionID => some sessionID
  | _ => none

def Progress.spare : Progress → Option Nat
  | .redundant _ own => some own
  | _ => none

/-- The manager, the acquisitions that are not released, the cleanups in flight with the
sessions that they are to unmount, and the volume of each session that a `mountFn` mounted. -/
structure World where
  manager : Manager
  calls : GoMap Nat Acquire
  cleanups : GoMap Nat (List (GoString × Nat))
  direct : GoMap Nat GoString

def World.start : World :=
  { manager := ⟨∅, ∅, ∅, ∅, 0⟩, calls := ∅, cleanups := ∅, direct := ∅ }

/-- The arguments of a `MountVolume`. -/
structure MountRequest where
  fault : Option GoString
  teamID : GoString
  accessMode : GoString
  now : Int

inductive Event where
  /-- The call up to its `mountFn`. `hasFn` says whether there is one. -/
  | acquire (n : Nat) (volumeID : GoString) (hasFn : Bool) (now : Int)
  /-- `mountFn` mounts the volume, or it fails without doing so. -/
  | mountFn (n : Nat) (req : Option MountRequest)
  | settle (n : Nat)
  | discard (n : Nat)
  | release (n : Nat) (now : Int)
  | cleanup (k : Nat) (volumeID : GoString)
  | cleanupAll (k : Nat) (idleTTL now : Int)
  | unmountNext (k : Nat) (volumeID : GoString) (sessionID : Nat)
  /-- `MountVolume` and `UnmountVolume` of other sessions. -/
  | mount (volumeID : GoString) (req : MountRequest)
  | unmount (volumeID : GoString) (sessionID : Nat)
  | beginInvalidate (volumeID invalidateID : GoString)
  | ackInvalidate (volumeID : GoString) (sessionID : Nat) (invalidateID : GoString) (success : Bool)
      (errorMessage : GoString)
  | finishInvalidate (volumeID invalidateID : GoString)

namespace World

def setCall (w : World) (n : Nat) (volumeID : GoString) (progress : Progress) : World :=
  { w with calls := w.calls.insert n ⟨volumeID, progress⟩ }

def dropCall (w : World) (n : Nat) : World := { w with calls := w.calls.erase n }

def acquire (w : World) (n : Nat) (volumeID : GoString) (now : Int) : World :=
  match w.manager.join volumeID now with
  | (some sessionID, m) => { w with manager := m }.setCall n volumeID (.returned sessionID)
  | (none, m) => { w with manager := m }.setCall n volumeID (.mounting now)

def mountFn (w : World) (n : Nat) (volumeID : GoString) (now : Int) (req : MountRequest) : World :=
  match sandbox0.volume.mountVolume req.fault volumeID req.teamID req.accessMode req.now
    w.manager with
  | (.ok sessionID, m) =>
    { w with manager := m, direct := w.direct.insert sessionID volumeID }.setCall n volumeID
      (.mounted now sessionID)
  | (_, m) => { w with manager := m }.dropCall n

def settle (w : World) (n : Nat) (volumeID : GoString) (now : Int) (own : Nat) : World :=
  match w.manager.join volumeID now with
  | (some sessionID, m) => { w with manager := m }.setCall n volumeID (.redundant sessionID own)
  | (none, m) =>
    { w with manager := m.lease volumeID own now }.setCall n volumeID (.returned own)

/-- A cleanup that has nothing to unmount any more returns. -/
def setCleanup (w : World) (k : Nat) (pending : List (GoString × Nat)) : World :=
  { w with cleanups := if pending = [] then w.cleanups.erase k else w.cleanups.insert k pending }

def cleanup (w : World) (k : Nat) (taken : List (GoString × Nat) × Manager) : World :=
  { w with manager := taken.2 }.setCleanup k taken.1

/-- The manager after `UnmountVolume`. -/
def unmounted (w : World) (volumeID : GoString) (sessionID : Nat) : World :=
  { w with manager := (sandbox0.volume.unmountVolume volumeID sessionID w.manager).2 }

end World

def World.next (w : World) : Event → World
  | .acquire n volumeID hasFn now =>
    if w.calls[n]? = none ∧ volumeID ≠ [] ∧ hasFn then w.acquire n volumeID now else w
  | .mountFn n req =>
    match w.calls[n]? with
    | some ⟨volumeID, .mounting now⟩ =>
      match req with
      | some req => w.mountFn n volumeID now req
      | none => w.dropCall n
    | _ => w
  | .settle n =>
    match w.calls[n]? with
    | some ⟨volumeID, .mounted now own⟩ => w.settle n volumeID now own
    | _ => w
  | .discard n =>
    match w.calls[n]? with
    | some ⟨volumeID, .redundant lease own⟩ =>
      (w.unmounted volumeID own).setCall n volumeID (.returned lease)
    | _ => w
  | .release n now =>
    match w.calls[n]? with
    | some ⟨volumeID, .returned sessionID⟩ =>
      { w with manager := w.manager.release volumeID sessionID now }.dropCall n
    | _ => w
  | .cleanup k volumeID =>
    if w.cleanups[k]? = none then w.cleanup k (w.manager.takeIdle volumeID) else w
  | .cleanupAll k idleTTL now =>
    if w.cleanups[k]? = none then w.cleanup k (w.manager.takeAllIdle idleTTL now) else w
  | .unmountNext k volumeID sessionID =>
    match w.cleanups[k]? with
    | none => w
    | some pending =>
      if (volumeID, sessionID) ∈ pending then
        (w.unmounted volumeID sessionID).setCleanup k (pending.filter (· ≠ (volumeID, sessionID)))
      else w
  | .mount volumeID req =>
    { w with manager :=
               (mountVolume req.fault volumeID req.teamID req.accessMode req.now w.manager).2 }
  | .unmount volumeID sessionID =>
    if w.direct[sessionID]? = none then w.unmounted volumeID sessionID else w
  | .beginInvalidate volumeID invalidateID =>
    { w with manager := (beginInvalidate volumeID invalidateID w.manager).2 }
  | .ackInvalidate volumeID sessionID invalidateID success errorMessage =>
    { w with manager := ackInvalidate volumeID sessionID invalidateID success
               errorMessage w.manager }
  | .finishInvalidate volumeID invalidateID =>
    { w with manager := finishInvalidate volumeID invalidateID w.manager }

def World.Reached : World → Prop :=
  Reach (· = World.start) (fun w e w' => w' = w.next e) (fun _ _ => True)

/-! ## What is to hold -/

/-- `InFlight` of the lease; a volume without lease has no calls. -/
def World.inFlight (w : World) (volumeID : GoString) : Nat :=
  (w.manager.directMounts[volumeID]?.map DirectMountLease.inFlight).getD 0

/-- The call has a session of the volume. -/
def Acquire.Counts (volumeID : GoString) (c : Acquire) : Prop :=
  c.volumeID = volumeID ∧ c.progress.given.isSome

instance (volumeID : GoString) : DecidablePred (Acquire.Counts volumeID) := fun _ =>
  inferInstanceAs (Decidable (_ ∧ _))

noncomputable def World.unreleased (w : World) (volumeID : GoString) : Nat :=
  w.calls.count (Acquire.Counts volumeID)

def World.Quiescent (w : World) : Prop :=
  (∀ (n : Nat) (c : Acquire), w.calls[n]? = some c →
    ∃ sessionID, c.progress = .returned sessionID) ∧
    ∀ k : Nat, w.cleanups[k]? = none

structure World.Safe (w : World) : Prop where
  counted : ∀ volumeID, w.inFlight volumeID = w.unreleased volumeID
  /-- The session of an acquisition is mounted until it is released. -/
  held : ∀ (n : Nat) (c : Acquire) (sessionID : Nat), w.calls[n]? = some c →
    c.progress.given = some sessionID →
    w.manager.Live c.volumeID sessionID ∧ w.manager.volumes[c.volumeID]?.isSome
  /-- No session of a `mountFn` is left behind. -/
  settled : w.Quiescent → ∀ (sessionID : Nat) (volumeID : GoString),
    w.direct[sessionID]? = some volumeID →
    w.manager.leaseSession volumeID = some sessionID ∨ ¬ w.manager.Live volumeID sessionID

/-! ## Who answers for a session -/

/-- A session of a `mountFn` is held by the lease of its volume, by the call whose `mountFn`
mounted it, or by a call that is about to unmount it. -/
inductive Holder where
  | lease
  | call (n : Nat)
  | cleaner
  deriving DecidableEq

/-- The call is one of the volume, and `session` of it is the session. -/
def Has (session : Progress → Option Nat) (volumeID : GoString) (sessionID : Nat)
    (c : Acquire) : Prop :=
  c.volumeID = volumeID ∧ session c.progress = some sessionID

def World.Holds (w : World) : Holder → GoString → Nat → Prop
  | .lease, volumeID, sessionID => w.manager.leaseSession volumeID = some sessionID
  | .call n, volumeID, sessionID => ∃ c ∈ w.calls[n]?, Has Progress.own volumeID sessionID c
  | .cleaner, volumeID, sessionID =>
    (∃ n : Nat, ∃ c ∈ w.calls[n]?, Has Progress.spare volumeID sessionID c) ∨
      ∃ k : Nat, ∃ pending ∈ w.cleanups[k]?, (volumeID, sessionID) ∈ pending

/-- Each mounted session of a `mountFn` has one holder. -/
structure World.Owned (w : World) : Prop where
  wf : w.manager.WF
  issued : ∀ (s : Nat) (v : GoString), w.direct[s]? = some v → s ≤ w.manager.lastSession
  direct : ∀ h v s, w.Holds h v s → w.direct[s]? = some v
  unique : ∀ h h' v s, w.Holds h v s → w.Holds h' v s → h = h'
  covered : ∀ (s : Nat) (v : GoString), w.direct[s]? = some v → w.manager.Live v s →
    ∃ h, w.Holds h v s
  /-- Only a session that is about to be unmounted can be gone. -/
  live : ∀ h v s, w.Holds h v s → h ≠ .cleaner → w.manager.Live v s

/-- The calls that were given a session have that of the lease, and the lease counts them. -/
structure World.Counted (w : World) : Prop where
  given : ∀ (n : Nat) (c : Acquire) (s : Nat), w.calls[n]? = some c → c.progress.given = some s →
    w.manager.leaseSession c.volumeID = some s
  counted : ∀ volumeID, w.inFlight volumeID = w.unreleased volumeID

variable {w w' : World} {volumeID : GoString} {sessionID n k : Nat} {c : Option Acquire}
    {now : Int} {lease : DirectMountLease}

section

variable (h : w.Owned) (hwf : w'.manager.WF)
    (hlast : w.manager.lastSession ≤ w'.manager.lastSession)
  (hdirect : w'.direct = w.direct)
  (hlive : ∀ v s, s ≤ w.manager.lastSession → w'.manager.Live v s → w.manager.Live v s)

include h hwf hlast hdirect hlive

/-- Sessions pass from holder to holder, and some of them are unmounted. -/
lemma World.Owned.carry (f : Holder → GoString → Nat → Holder)
    (hstays : ∀ x v s, w.Holds x v s → f x v s ≠ .cleaner → w'.manager.Live v s)
    (hfrom : ∀ x v s, w'.Holds x v s → ∃ x0, w.Holds x0 v s ∧ f x0 v s = x)
    (hkeep : ∀ x v s, w.Holds x v s → w'.manager.Live v s → w'.Holds (f x v s) v s) : w'.Owned := by
  refine ⟨hwf, ?_, ?_, ?_, ?_, ?_⟩
  · intro s v hs
    rw [hdirect] at hs
    exact (h.issued s v hs).trans hlast
  · intro x v s hx
    obtain ⟨x0, hx0, _⟩ := hfrom x v s hx
    rw [hdirect]
    exact h.direct x0 v s hx0
  · intro x x' v s hx hx'
    obtain ⟨x0, hx0, rfl⟩ := hfrom x v s hx
    obtain ⟨x0', hx0', rfl⟩ := hfrom x' v s hx'
    rw [h.unique x0 x0' v s hx0 hx0']
  · intro s v hs hl
    rw [hdirect] at hs
    obtain ⟨x0, hx0⟩ := h.covered s v hs (hlive v s (h.issued s v hs) hl)
    exact ⟨_, hkeep x0 v s hx0 hl⟩
  · intro x v s hx hne
    obtain ⟨x0, hx0, rfl⟩ := hfrom x v s hx
    exact hstays x0 v s hx0 hne

lemma World.Owned.kept
    (hstays : ∀ x v s, w.Holds x v s → x ≠ .cleaner → w.manager.Live v s → w'.manager.Live v s)
    (hold : ∀ x v s, w'.Holds x v s → w.Holds x v s)
    (hkeep : ∀ x v s, w.Holds x v s → w'.manager.Live v s → w'.Holds x v s) : w'.Owned :=
  h.carry hwf hlast hdirect hlive (fun x _ _ => x)
    (fun x v s hx hne => hstays x v s hx hne (h.live x v s hx hne))
    (fun x v s hx => ⟨x, hold x v s hx, rfl⟩) hkeep

end

lemma World.Owned.same (h : w.Owned) (hm : w.manager.Same w'.manager)
    (hdirect : w'.direct = w.direct) (hholds : ∀ x v s, w'.Holds x v s ↔ w.Holds x v s) :
    w'.Owned :=
  h.kept (h.wf.same hm) hm.lastSession.ge hdirect (fun v s _ => (hm.live v s).mp)
    (fun _ v s _ _ => (hm.live v s).mpr) (fun x v s => (hholds x v s).mp)
    fun x v s hx _ => (hholds x v s).mpr hx

open Manager

lemma World.Owned.remove (h : w.Owned) (hfree : ∀ x, w.Holds x volumeID sessionID → x = .cleaner)
    (hm : w.manager.Removes w'.manager volumeID sessionID) (hdirect : w'.direct = w.direct)
    (hcalls : ∀ n v s, w'.Holds (.call n) v s ↔ w.Holds (.call n) v s)
    (hold : ∀ v s, w'.Holds .cleaner v s → w.Holds .cleaner v s)
    (hkeep : ∀ v s, w.Holds .cleaner v s → ¬ (v = volumeID ∧ s = sessionID) →
      w'.Holds .cleaner v s) :
    w'.Owned := by
  have hlease : ∀ v s, w'.Holds .lease v s ↔ w.Holds .lease v s := by
    simp only [Holds, leaseSession, hm.directMounts, implies_true]
  refine h.kept hm.wf hm.lastSession.ge hdirect (fun v s _ hl => ((hm.live v s).mp hl).1)
    (fun x v s hx hne hl => (hm.live v s).mpr ⟨hl, ?_⟩) (fun x v s hx => ?_) fun x v s hx hl => ?_
  · rintro ⟨rfl, rfl⟩
    exact hne (hfree x hx)
  · cases x with
    | lease => exact (hlease v s).mp hx
    | call n => exact (hcalls n v s).mp hx
    | cleaner => exact hold v s hx
  · cases x with
    | lease => exact (hlease v s).mpr hx
    | call n => exact (hcalls n v s).mpr hx
    | cleaner => exact hkeep v s hx ((hm.live v s).mp hl).2

lemma World.Owned.safe (h : w.Owned) (hc : w.Counted) : w.Safe := by
  refine ⟨hc.counted, ?_, ?_⟩
  · intro n c s hn hs
    have hl := h.wf.leased _ _ (hc.given n c s hn hs)
    exact ⟨hl, h.wf.mounted _ _ hl⟩
  · rintro ⟨hcalls, hcleanups⟩ s v hs
    by_cases hl : w.manager.Live v s
    · left
      obtain ⟨x, hx⟩ := h.covered s v hs hl
      cases x with
      | lease => exact hx
      | call n =>
        obtain ⟨c, hn, _, hown⟩ := hx
        obtain ⟨_, hp⟩ := hcalls n c hn
        rw [hp] at hown
        cases hown
      | cleaner =>
        rcases hx with ⟨n, c, hn, _, hspare⟩ | ⟨k, pending, hk, _⟩
        · obtain ⟨_, hp⟩ := hcalls n c hn
          rw [hp] at hspare
          cases hspare
        · rw [hcleanups k] at hk
          cases hk
    · exact .inr hl

/-! ## A call goes on -/

/-- The call `n` stands at `c` now, and no other call moved. -/
def World.Moves (w w' : World) (n : Nat) (c : Option Acquire) : Prop :=
  ∀ k : Nat, w'.calls[k]? = if n = k then c else w.calls[k]?

open World

lemma World.moves_setCall (h : w'.calls = w.calls) (n : Nat) (volumeID : GoString)
    (progress : Progress) :
    w.Moves (w'.setCall n volumeID progress) n (some ⟨volumeID, progress⟩) := by
  intro k
  simp only [setCall, get_insert, h]

lemma World.moves_dropCall (h : w'.calls = w.calls) (n : Nat) : w.Moves (w'.dropCall n) n none := by
  intro k
  simp only [dropCall, get_erase, h]

lemma World.Moves.has (h : w.Moves w' n c) (P : Acquire → Prop) (k : Nat) :
    (∃ a ∈ w'.calls[k]?, P a) ↔ (k = n ∧ ∃ a ∈ c, P a) ∨ (k ≠ n ∧ ∃ a ∈ w.calls[k]?, P a) := by
  rw [h k]
  by_cases hk : n = k
  · subst hk
    simp
  · simp [hk, Ne.symm hk]

lemma World.Moves.has_same (h : w.Moves w' n c) {P : Acquire → Prop}
    (hbefore : ∀ a ∈ w.calls[n]?, ¬ P a) (hafter : ∀ a ∈ c, ¬ P a) (k : Nat) :
    (∃ a ∈ w'.calls[k]?, P a) ↔ ∃ a ∈ w.calls[k]?, P a := by
  refine (h.has P k).trans ⟨?_, ?_⟩
  · rintro (⟨_, a, ha, hp⟩ | ⟨_, hk⟩)
    · exact absurd hp (hafter a ha)
    · exact hk
  · intro hk
    refine .inr ⟨?_, hk⟩
    rintro rfl
    obtain ⟨a, ha, hp⟩ := hk
    exact hbefore a ha hp

variable {session : Progress → Option Nat} {b a : Acquire} {taken : List (GoString × Nat) × Manager}

lemma not_has {c : Acquire} (h : session c.progress = none) :
    ¬ Has session volumeID sessionID c := by
  rintro ⟨_, hs⟩
  rw [h] at hs
  cases hs

lemma World.Moves.has_more (h : w.Moves w' n (some a)) (hcall : w.calls[n]? = some b)
    (hb : session b.progress = none) (k : Nat) :
    (∃ x ∈ w'.calls[k]?, Has session volumeID sessionID x) ↔
      (∃ x ∈ w.calls[k]?, Has session volumeID sessionID x) ∨
        (k = n ∧ Has session volumeID sessionID a) := by
  rw [h k]
  by_cases hk : n = k
  · subst hk
    simp [hcall, not_has hb]
  · simp [hk, Ne.symm hk]

lemma World.Moves.has_none (h : w.Moves w' n (some a)) (hcall : w.calls[n]? = some b)
    (hb : session b.progress = none) (ha : session a.progress = none) (k : Nat) :
    (∃ a ∈ w'.calls[k]?, Has session volumeID sessionID a) ↔
      ∃ a ∈ w.calls[k]?, Has session volumeID sessionID a :=
  (h.has_more hcall hb k).trans (or_iff_left fun hk => not_has ha hk.2)

lemma World.Owned.pass (h : w.Owned) (hm : w.manager.Same w'.manager)
    (hdirect : w'.direct = w.direct) (hcleanups : w'.cleanups = w.cleanups)
    (hmoves : w.Moves w' n c)
    (hbefore : ∀ a ∈ w.calls[n]?, a.progress.own = none ∧ a.progress.spare = none)
    (hafter : ∀ a ∈ c, a.progress.own = none ∧ a.progress.spare = none) : w'.Owned := by
  refine h.same hm hdirect fun x v s => ?_
  cases x with
  | lease => simp only [Holds, hm.lease]
  | call k =>
    exact hmoves.has_same (fun a ha => not_has (hbefore a ha).1)
      (fun a ha => not_has (hafter a ha).1) k
  | cleaner =>
    simp only [Holds, hcleanups]
    refine or_congr_left (exists_congr fun k => ?_)
    exact hmoves.has_same (fun a ha => not_has (hbefore a ha).2)
      (fun a ha => not_has (hafter a ha).2) k

open Progress

section

variable (h : w.Owned) (hwf : w'.manager.WF)
    (hlast : w'.manager.lastSession = w.manager.lastSession)
  (hdirect : w'.direct = w.direct) (hlive : ∀ v s, w'.manager.Live v s ↔ w.manager.Live v s)

include h hwf hlast hdirect hlive

/-- The sessions that `p` picks pass to `heir`. -/
lemma World.Owned.move (heir : Holder) (p : Holder → GoString → Nat → Prop)
    (hp : ∀ v s, ¬ p .cleaner v s) (hholds : ∀ x v s, w'.Holds x v s ↔
      (w.Holds x v s ∧ ¬ p x v s) ∨ (x = heir ∧ ∃ x0, w.Holds x0 v s ∧ p x0 v s)) : w'.Owned := by
  classical
  refine h.carry hwf hlast.ge hdirect (fun v s _ => (hlive v s).mp)
    (fun x v s => if p x v s then heir else x) (fun x v s hx hne => ?_) (fun x v s hx => ?_)
      fun x v s hx _ => ?_
  · refine (hlive v s).mpr (h.live x v s hx ?_)
    rintro rfl
    exact hne (if_neg (hp v s))
  · rcases (hholds x v s).mp hx with ⟨hx, hstays⟩ | ⟨rfl, x0, hx0, hpicked⟩
    · exact ⟨x, hx, if_neg hstays⟩
    · exact ⟨x0, hx0, if_pos hpicked⟩
  · refine (hholds _ v s).mpr ?_
    split
    · rename_i hpicked
      exact .inr ⟨rfl, x, hx, hpicked⟩
    · rename_i hstays
      exact .inl ⟨hx, hstays⟩

/-- The call `n` gives up the session that it mounted, and another holder has it. -/
lemma World.Owned.hand {own : Nat} {c : Acquire} (heir : Holder)
    (hcall : w.calls[n]? = some ⟨volumeID, .mounted now own⟩) (hmoves : w.Moves w' n (some c))
    (hown : c.progress.own = none) (hheir : ∀ k, heir ≠ .call k)
    (hnew : ∀ x v s, (∀ k, x ≠ .call k) →
      (w'.Holds x v s ↔ w.Holds x v s ∨ (x = heir ∧ v = volumeID ∧ s = own))) : w'.Owned := by
  have hheld : ∀ v s, w.Holds (.call n) v s ↔ v = volumeID ∧ s = own := by
    intro v s
    simp only [Holds, hcall]
    constructor
    · rintro ⟨a, ha, hv, hs⟩
      cases ha
      exact ⟨hv.symm, (Option.some.inj hs).symm⟩
    · rintro ⟨rfl, rfl⟩
      exact ⟨_, rfl, rfl, rfl⟩
  refine h.move hwf hlast hdirect hlive heir (fun x _ _ => x = .call n) (by simp) fun x v s => ?_
  by_cases hx : ∃ k, x = .call k
  · obtain ⟨k, rfl⟩ := hx
    have hnone : ¬ ∃ a ∈ some c, Has Progress.own v s a := by
      rintro ⟨a, ha, hs⟩
      cases ha
      exact not_has hown hs
    refine (hmoves.has _ k).trans ?_
    simp only [hnone, Ne.symm (hheir k), and_false, false_and, false_or, or_false,
      Holder.call.injEq]
    exact and_comm
  · have hother : x ≠ .call n := fun hk => hx ⟨n, hk⟩
    rw [hnew x v s (fun k hk => hx ⟨k, hk⟩)]
    simp only [hother, not_false_eq_true, and_true, exists_eq_right, hheld]

end

/-! ## The count of the lease -/

lemma World.Moves.unreleased (h : w.Moves w' n c) (volumeID : GoString) :
    w'.unreleased volumeID + (if ∃ a ∈ w.calls[n]?, a.Counts volumeID then 1 else 0) =
      w.unreleased volumeID + if ∃ a ∈ c, a.Counts volumeID then 1 else 0 := by
  unfold World.unreleased
  cases c with
  | none =>
    have hcalls : w'.calls = w.calls.erase n := by
      apply eq_of_get
      intro k
      rw [h k, get_erase]
    rw [hcalls, count_erase]
    simp
  | some a =>
    have hcalls : w'.calls = w.calls.insert n a := by
      apply eq_of_get
      intro k
      rw [h k, get_insert]
    rw [hcalls, count_insert]
    simp

/-- A call goes on: the calls keep their leases, and the lease counts what the call has. -/
lemma World.Counted.moved (h : w.Counted) (hmoves : w.Moves w' n c)
    (hkept : ∀ v s, w.manager.leaseSession v = some s → w'.manager.leaseSession v = some s)
    (hgiven : ∀ a ∈ c, ∀ s, a.progress.given = some s → w'.manager.leaseSession a.volumeID = some s)
    (hcount : ∀ v, w'.inFlight v + (if ∃ a ∈ w.calls[n]?, a.Counts v then 1 else 0) =
      w.inFlight v + if ∃ a ∈ c, a.Counts v then 1 else 0) : w'.Counted := by
  refine ⟨?_, ?_⟩
  · intro k a s hk hs
    rw [hmoves k] at hk
    split at hk
    · exact hgiven a hk s hs
    · exact hkept _ s (h.given k a s hk hs)
  · intro v
    have hmove := hmoves.unreleased v
    have hold := h.counted v
    have hnew := hcount v
    omega

lemma World.Counted.pass (h : w.Counted)
    (hleases : w'.manager.directMounts = w.manager.directMounts) (hmoves : w.Moves w' n c)
    (hgiven : ∀ a ∈ c, ∀ s, a.progress.given = some s → w.manager.leaseSession a.volumeID = some s)
    (hcounts : ∀ v, (∃ a ∈ w.calls[n]?, a.Counts v) ↔ ∃ a ∈ c, a.Counts v) : w'.Counted := by
  refine h.moved hmoves (fun v s hs => ?_) (fun a ha s hs => ?_) fun v => ?_
  · rwa [leaseSession, hleases]
  · rw [leaseSession, hleases]
    exact hgiven a ha s hs
  · simp only [inFlight, hleases, hcounts v]

lemma World.Counted.same (h : w.Counted)
    (hleases : w'.manager.directMounts = w.manager.directMounts) (hcalls : w'.calls = w.calls) :
    w'.Counted := by
  refine ⟨?_, ?_⟩
  · intro n c s hn hs
    simp only [leaseSession, hleases]
    rw [hcalls] at hn
    exact h.given n c s hn hs
  · intro v
    have hcount := h.counted v
    simpa only [inFlight, unreleased, hleases, hcalls] using hcount

section

variable {progress : Progress} (h : w.Counted) (hmoves : w.Moves w' n (some ⟨volumeID, progress⟩))
  (hbefore : ∀ a ∈ w.calls[n]?, a.progress.given = none)

include h hmoves hbefore

/-- A call that had no session is given the one of the lease, new or old. -/
lemma World.Counted.give
    (hleases : w'.manager.directMounts = w.manager.directMounts.insert volumeID lease)
    (hsession : ∀ s ∈ w.manager.leaseSession volumeID, s = lease.sessionID)
    (hcount : lease.inFlight = w.inFlight volumeID + 1)
    (hgiven : progress.given = some lease.sessionID) : w'.Counted := by
  have hlease := leaseSession_insert hleases
  refine h.moved hmoves (fun v s hs => ?_) (fun a ha s hs => ?_) fun v => ?_
  · rw [hlease]
    split
    · rename_i hv
      subst hv
      rw [hsession s hs]
    · exact hs
  · cases ha
    rw [hlease, if_pos rfl, ← hgiven, hs]
  · have hnone : ¬ ∃ a ∈ w.calls[n]?, a.Counts v := by
      rintro ⟨a, ha, _, hs⟩
      rw [hbefore a ha] at hs
      cases hs
    rw [if_neg hnone]
    by_cases hv : volumeID = v
    · subst hv
      rw [if_pos ⟨_, rfl, rfl, by rw [hgiven]; rfl⟩, ← hcount]
      simp [inFlight, hleases]
    · rw [if_neg]
      · simp only [inFlight, hleases, get_insert_ne _ _ hv]
      · rintro ⟨a, ha, hav, _⟩
        cases ha
        exact hv hav

lemma World.Counted.join (hl : w.manager.directMounts[volumeID]? = some lease)
    (hleases : w'.manager.directMounts = w.manager.directMounts.insert volumeID
      { lease with inFlight := lease.inFlight + 1, lastUsed := now })
    (hgiven : progress.given = some lease.sessionID) : w'.Counted := by
  refine h.give hmoves hbefore hleases ?_ ?_ hgiven
  · intro s hs
    rw [leaseSession, hl] at hs
    exact (Option.some.inj hs).symm
  · simp [inFlight, hl]

end

lemma World.Counted.release (h : w.Counted) (hl : w.manager.directMounts[volumeID]? = some lease)
    (hleases : w'.manager.directMounts = w.manager.directMounts.insert volumeID
      { lease with inFlight := lease.inFlight - 1, lastUsed := now })
    (hmoves : w.Moves w' n none) (hcall : w.calls[n]? = some ⟨volumeID, .returned sessionID⟩) :
    w'.Counted := by
  refine h.moved hmoves (fun v s hs => ?_) nofun fun v => ?_
  · rw [leaseSession_insert hleases]
    split
    · rename_i hv
      rw [← hv, leaseSession, hl] at hs
      exact hs
    · exact hs
  · have hno : ¬ ∃ a ∈ (none : Option Acquire), a.Counts v := by simp
    rw [if_neg hno]
    by_cases hv : volumeID = v
    · subst hv
      have hyes : ∃ a ∈ w.calls[n]?, a.Counts volumeID := ⟨_, hcall, rfl, rfl⟩
      have hmove := hmoves.unreleased volumeID
      have hold := h.counted volumeID
      have hin : w'.inFlight volumeID = w.inFlight volumeID - 1 := by
        simp [inFlight, hleases, hl]
      rw [if_pos hyes, if_neg hno] at hmove
      rw [if_pos hyes]
      omega
    · rw [if_neg]
      · simp only [inFlight, hleases, get_insert_ne _ _ hv]
      · rintro ⟨a, ha, hav, _⟩
        rw [hcall] at ha
        cases ha
        exact hv hav

/-! ## Idle leases -/

lemma World.Counted.cleanup (h : w.Counted) (ht : w.manager.Takes taken) :
    (w.cleanup k taken).Counted := by
  -- a volume whose lease is taken has no call with a session
  have hfree : ∀ v ∈ taken.1.map Prod.fst, w.unreleased v = 0 := by
    intro v hv
    obtain ⟨⟨v', s⟩, hp, rfl⟩ := List.mem_map.mp hv
    obtain ⟨lease, hl, _, hidle⟩ := ht.idle v' s hp
    rw [← h.counted v']
    simp [inFlight, hl, hidle]
  have hleases : ∀ v, (w.cleanup k taken).manager.directMounts[v]? = _ := ht.leases
  refine ⟨?_, ?_⟩
  · intro n c s hn hs
    have hold := h.given n c s hn hs
    have hv : c.volumeID ∉ taken.1.map Prod.fst := by
      intro hv
      exact count_eq_zero.mp (hfree _ hv) n c hn ⟨rfl, by rw [hs]; rfl⟩
    rwa [leaseSession, hleases, if_neg hv]
  · intro v
    have hold := h.counted v
    by_cases hv : v ∈ taken.1.map Prod.fst
    · rw [inFlight, hleases, if_pos hv]
      exact (hfree v hv).symm
    · rw [inFlight, hleases, if_neg hv]
      exact hold

lemma World.mem_setCleanup (w : World) (k : Nat) (pending : List (GoString × Nat))
    (p : GoString × Nat) :
    (∃ i : Nat, ∃ l ∈ (w.setCleanup k pending).cleanups[i]?, p ∈ l) ↔
      p ∈ pending ∨ ∃ i ≠ k, ∃ l ∈ w.cleanups[i]?, p ∈ l := by
  have hget : ∀ i : Nat, (w.setCleanup k pending).cleanups[i]? =
      if k = i then (if pending = [] then none else some pending) else w.cleanups[i]? := by
    intro i
    unfold setCleanup
    dsimp only
    split
    · rw [get_erase]
    · rw [get_insert]
  constructor
  · rintro ⟨i, l, hl, hp⟩
    rw [hget] at hl
    split at hl
    · left
      split at hl <;> cases hl
      exact hp
    · rename_i hne
      exact .inr ⟨i, Ne.symm hne, l, hl, hp⟩
  · rintro (hp | ⟨i, hne, l, hl, hp⟩)
    · refine ⟨k, pending, ?_, hp⟩
      rw [hget, if_pos rfl, if_neg (List.ne_nil_of_mem hp)]
      rfl
    · refine ⟨i, l, ?_, hp⟩
      rwa [hget, if_neg (Ne.symm hne)]

lemma World.Owned.cleanup (h : w.Owned) (ht : w.manager.Takes taken) (hk : w.cleanups[k]? = none) :
    (w.cleanup k taken).Owned := by
  have hlease : ∀ v, (w.cleanup k taken).manager.leaseSession v =
      if v ∈ taken.1.map Prod.fst then none else w.manager.leaseSession v := by
    intro v
    rw [leaseSession, show (w.cleanup k taken).manager.directMounts[v]? = _ from ht.leases v]
    split <;> rfl
  have htaken : ∀ v s, (v, s) ∈ taken.1 ↔
      v ∈ taken.1.map Prod.fst ∧ w.manager.leaseSession v = some s := by
    intro v s
    constructor
    · intro hp
      obtain ⟨lease, hl, hs, _⟩ := ht.idle v s hp
      exact ⟨List.mem_map.mpr ⟨_, hp, rfl⟩, Manager.leaseSession_eq_some.mpr ⟨lease, hl, hs⟩⟩
    · rintro ⟨hv, hs⟩
      obtain ⟨⟨v', s'⟩, hp, rfl⟩ := List.mem_map.mp hv
      obtain ⟨lease, hl, hs', _⟩ := ht.idle v' s' hp
      have heq : w.manager.leaseSession v' = some s' :=
        Manager.leaseSession_eq_some.mpr ⟨lease, hl, hs'⟩
      rw [heq] at hs
      cases hs
      exact hp
  have hcleanups : ∀ v s,
    (∃ i : Nat, ∃ pending ∈ (w.cleanup k taken).cleanups[i]?, (v, s) ∈ pending) ↔
      (∃ i : Nat, ∃ pending ∈ w.cleanups[i]?, (v, s) ∈ pending) ∨ (v, s) ∈ taken.1 := by
    intro v s
    refine (mem_setCleanup _ k taken.1 _).trans
      (or_comm.trans (or_congr_left (exists_congr fun i => ?_)))
    refine ⟨And.right, fun hi => ⟨?_, hi⟩⟩
    rintro rfl
    simp [hk] at hi
  refine h.move ?_ ht.lastSession rfl ht.live .cleaner
    (fun x v _ => x = .lease ∧ v ∈ taken.1.map Prod.fst) (by simp) fun x v s => ?_
  · refine ⟨?_, ?_, ?_⟩
    · intro v s hl
      have hm := h.wf.mounted v s ((ht.live v s).mp hl)
      simpa only [World.cleanup, World.setCleanup, ht.volumes] using hm
    · intro v s hl
      rw [hlease] at hl
      split at hl
      · cases hl
      · exact (ht.live v s).mpr (h.wf.leased v s hl)
    · intro v s hl
      have hi := h.wf.issued v s ((ht.live v s).mp hl)
      simpa only [World.cleanup, World.setCleanup, ht.lastSession] using hi
  · cases x with
    | lease =>
      simp only [Holds, hlease]
      split
      · rename_i hv
        simp [hv]
      · rename_i hv
        simp [hv]
    | call n =>
      refine Iff.trans (b := w.Holds (.call n) v s) Iff.rfl ?_
      simp
    | cleaner =>
      have hx : (w.cleanup k taken).Holds .cleaner v s ↔ w.Holds .cleaner v s ∨
        (v, s) ∈ taken.1 := by
        simp only [Holds, hcleanups v s]
        exact (or_assoc).symm
      rw [hx, htaken, and_comm]
      simp [Holds]

/-! ## The events -/

structure World.Inv (w : World) : Prop where
  owned : w.Owned
  counted : w.Counted

lemma World.Inv.start : World.start.Inv := by
  have hlive : ∀ v s, ¬ World.start.manager.Live v s := by
    intro v s
    simp [Manager.Live, Manager.sessions, World.start]
  have hholds : ∀ x v s, ¬ World.start.Holds x v s := by
    intro x v s
    cases x <;> simp [Holds, Manager.leaseSession, World.start]
  refine ⟨⟨⟨?_, fun v s hl => absurd hl (hholds .lease v s), ?_⟩, ?_, ?_, ?_, ?_, ?_⟩, ?_, ?_⟩
  · exact fun v s hl => absurd hl (hlive v s)
  · exact fun v s hl => absurd hl (hlive v s)
  · simp [World.start]
  · exact fun x v s hx => absurd hx (hholds x v s)
  · exact fun x _ v s hx => absurd hx (hholds x v s)
  · simp [World.start]
  · exact fun x v s hx => absurd hx (hholds x v s)
  · simp [World.start]
  · intro v
    have hzero : World.start.unreleased v = 0 := count_empty _
    rw [hzero]
    simp [inFlight, World.start]

lemma World.Inv.acquire (h : w.Inv) (hn : w.calls[n]? = none) : (w.acquire n volumeID now).Inv := by
  unfold World.acquire
  rcases join_cases h.owned.wf volumeID now with ⟨lease, m', hl, hj, hsame, hleases⟩ | ⟨_, hj⟩
  · rw [hj]
    have hmoves := @World.moves_setCall w { w with manager := m' } rfl n volumeID
      (.returned lease.sessionID)
    exact ⟨h.owned.pass hsame rfl rfl hmoves (by simp [hn]) (by simp [own, spare]),
      h.counted.join hmoves (by simp [hn]) hl hleases rfl⟩
  · rw [hj]
    have hmoves := @World.moves_setCall w w rfl n volumeID (.mounting now)
    exact ⟨h.owned.pass (.refl _) rfl rfl hmoves (by simp [hn]) (by simp [own, spare]),
      h.counted.pass rfl hmoves (by simp [given]) (by simp [hn, Acquire.Counts, given])⟩

lemma World.Inv.settle {own : Nat} (h : w.Inv)
    (hcall : w.calls[n]? = some ⟨volumeID, .mounted now own⟩) :
    (w.settle n volumeID now own).Inv := by
  have hbefore : ∀ a ∈ w.calls[n]?, a.progress.given = none := by simp [hcall, given]
  have hheld : w.Holds (.call n) volumeID own := ⟨_, hcall, rfl, rfl⟩
  unfold World.settle
  rcases join_cases h.owned.wf volumeID now with ⟨lease, m', hl, hj, hsame, hleases⟩ | ⟨hl, hj⟩
  · rw [hj]
    have hmoves := @World.moves_setCall w { w with manager := m' } rfl n volumeID
      (.redundant lease.sessionID own)
    refine ⟨h.owned.hand (h.owned.wf.same hsame) hsame.lastSession rfl hsame.live
      .cleaner hcall hmoves
      rfl (fun _ hc => by cases hc) ?_, h.counted.join hmoves hbefore hl hleases rfl⟩
    intro x v s hx
    cases x with
    | lease => simp only [Holds, setCall, hsame.lease, reduceCtorEq, false_and, or_false]
    | call k => exact absurd rfl (hx k)
    | cleaner =>
      simp only [Holds, true_and]
      rw [or_right_comm]
      refine or_congr_left ((exists_congr fun k => hmoves.has_more hcall rfl k).trans ?_)
      simp [exists_or, Has, eq_comm, spare]
  · rw [hj]
    have hmoves :=
      @World.moves_setCall w { w with manager := w.manager.lease volumeID own now } rfl n
      volumeID (.returned own)
    have hlease := leaseSession_insert (lease_directMounts w.manager volumeID own now)
    have hnone : w.manager.leaseSession volumeID = none := by simp [leaseSession, hl]
    have hwf : (w.manager.lease volumeID own now).WF := by
      refine ⟨?_, ?_, ?_⟩
      · intro v s hlive
        rw [lease_volumes]
        exact h.owned.wf.mounted v s (lease_live.mp hlive)
      · intro v s hs
        rw [hlease] at hs
        refine lease_live.mpr ?_
        split at hs
        · rename_i hv
          cases hs
          subst hv
          exact h.owned.live _ _ _ hheld (by simp)
        · exact h.owned.wf.leased v s hs
      · intro v s hlive
        rw [lease_lastSession]
        exact h.owned.wf.issued v s (lease_live.mp hlive)
    refine ⟨h.owned.hand hwf (lease_lastSession _ _ _ _) rfl (fun _ _ => lease_live)
      .lease hcall hmoves rfl (fun _ hc => by cases hc) ?_,
      h.counted.give hmoves hbefore (lease_directMounts _ _ _ _) ?_ ?_ rfl⟩
    · intro x v s hx
      cases x with
      | lease =>
        simp only [Holds, setCall, hlease, true_and]
        split
        · rename_i hv
          subst hv
          simp [hnone, eq_comm]
        · rename_i hv
          simp [Ne.symm hv]
      | call k => exact absurd rfl (hx k)
      | cleaner =>
        simp only [Holds, reduceCtorEq, false_and, or_false]
        exact or_congr_left (exists_congr fun k => hmoves.has_none hcall rfl rfl k)
    · simp [hnone]
    · simp [inFlight, hl]

lemma World.Owned.mountFn {now' : Int} {s0 : Nat} (h : w.Owned)
    (hcall : w.calls[n]? = some ⟨volumeID, .mounting now⟩)
    (hm : w.manager.Adds w'.manager volumeID s0) (hdirect : w'.direct = w.direct.insert s0 volumeID)
    (hcleanups : w'.cleanups = w.cleanups)
    (hmoves : w.Moves w' n (some ⟨volumeID, .mounted now' s0⟩)) : w'.Owned := by
  have hfresh : ∀ (s : Nat) (v : GoString), w.direct[s]? = some v → s ≠ s0 := by
    intro s v hs
    have hi := h.issued s v hs
    have hnumber := hm.number
    omega
  have hholds : ∀ x v s, w'.Holds x v s ↔ w.Holds x v s ∨
    (x = .call n ∧ v = volumeID ∧ s = s0) := by
    intro x v s
    cases x with
    | lease =>
      simp only [Holds, leaseSession, hm.directMounts, reduceCtorEq, false_and, or_false]
    | call k =>
      refine (hmoves.has_more hcall rfl k).trans (or_congr_right ?_)
      simp [Has, eq_comm, own]
    | cleaner =>
      simp only [Holds, hcleanups, reduceCtorEq, false_and, or_false]
      exact or_congr_left (exists_congr fun k => hmoves.has_none hcall rfl rfl k)
  have hget : ∀ (s : Nat) (v : GoString), w'.direct[s]? = some v →
      (s = s0 ∧ v = volumeID) ∨ (s ≠ s0 ∧ w.direct[s]? = some v) := by
    rw [hdirect]
    exact fun _ _ => of_get_insert
  refine ⟨hm.wf, ?_, ?_, ?_, ?_, ?_⟩
  · intro s v hs
    rw [hm.lastSession]
    have hnumber := hm.number
    rcases hget s v hs with ⟨rfl, -⟩ | ⟨-, hs⟩
    · omega
    · have hi := h.issued s v hs
      omega
  · intro x v s hx
    rw [hdirect]
    rcases (hholds x v s).mp hx with hx | ⟨_, rfl, rfl⟩
    · have hd := h.direct x v s hx
      exact (get_insert_ne _ _ (hfresh s v hd).symm).trans hd
    · exact get_insert_self _ _ _
  · intro x x' v s hx hx'
    rcases (hholds x v s).mp hx with hx | ⟨rfl, rfl, rfl⟩
    · rcases (hholds x' v s).mp hx' with hx' | ⟨rfl, rfl, rfl⟩
      · exact h.unique x x' v s hx hx'
      · exact absurd rfl (hfresh _ _ (h.direct _ _ _ hx))
    · rcases (hholds x' _ _).mp hx' with hx' | ⟨rfl, _, _⟩
      · exact absurd rfl (hfresh _ _ (h.direct _ _ _ hx'))
      · rfl
  · intro s v hs hl
    rcases hget s v hs with ⟨rfl, rfl⟩ | ⟨hne, hs⟩
    · exact ⟨.call n, (hholds _ _ _).mpr (.inr ⟨rfl, rfl, rfl⟩)⟩
    · have hl0 := ((hm.live v s).mp hl).resolve_right fun hs0 => hne hs0.2
      obtain ⟨x, hx⟩ := h.covered s v hs hl0
      exact ⟨x, (hholds _ _ _).mpr (.inl hx)⟩
  · intro x v s hx hne
    rcases (hholds x v s).mp hx with hx | ⟨_, hvs⟩
    · exact (hm.live v s).mpr (.inl (h.live x v s hx hne))
    · exact (hm.live v s).mpr (.inr hvs)

lemma World.Inv.dropMounting (h : w.Inv) (hcall : w.calls[n]? = some ⟨volumeID, .mounting now⟩) :
    (w.dropCall n).Inv := by
  have hmoves := @World.moves_dropCall w w rfl n
  exact ⟨h.owned.pass (.refl _) rfl rfl hmoves (by simp [hcall, own, spare]) (by simp),
    h.counted.pass rfl hmoves (by simp) (by simp [hcall, Acquire.Counts, given])⟩

lemma World.Inv.release (h : w.Inv) (hcall : w.calls[n]? = some ⟨volumeID, .returned sessionID⟩) :
    (World.dropCall { w with manager := w.manager.release volumeID sessionID now } n).Inv := by
  obtain ⟨lease, hl, rfl⟩ :=
    leaseSession_eq_some.mp (h.counted.given n _ sessionID hcall rfl)
  obtain ⟨hsame, hleases⟩ := release_cases now hl
  have hmoves := @World.moves_dropCall w
    { w with manager := w.manager.release volumeID lease.sessionID now } rfl n
  exact ⟨h.owned.pass hsame rfl rfl hmoves (by simp [hcall, own, spare]) (by simp),
    h.counted.release hl hleases hmoves hcall⟩

lemma World.Owned.removes (h : w.Owned) (hfree : ∀ x, w.Holds x volumeID sessionID → x = .cleaner) :
    w.manager.Removes (w.unmounted volumeID sessionID).manager volumeID sessionID := by
  refine h.wf.unmountVolume ?_
  intro hlease
  cases hfree .lease hlease

lemma World.Inv.discard {lease own : Nat} (h : w.Inv)
    (hcall : w.calls[n]? = some ⟨volumeID, .redundant lease own⟩) :
    ((w.unmounted volumeID own).setCall n volumeID (.returned lease)).Inv := by
  have hheld : w.Holds .cleaner volumeID own := .inl ⟨n, _, hcall, rfl, rfl⟩
  have hfree : ∀ x, w.Holds x volumeID own → x = .cleaner :=
    fun x hx => h.owned.unique _ _ _ _ hx hheld
  have hremoves := h.owned.removes hfree
  have hmoves := @World.moves_setCall w (w.unmounted volumeID own) rfl n volumeID (.returned lease)
  have hlease : w.manager.leaseSession volumeID = some lease := h.counted.given n _ lease hcall rfl
  refine ⟨h.owned.remove hfree hremoves rfl (fun k _ _ => hmoves.has_none hcall rfl rfl k) ?_ ?_,
    h.counted.pass hremoves.directMounts hmoves ?_ ?_⟩
  · intro v s hx
    rcases hx with ⟨k, hk⟩ | hx
    · rcases (hmoves.has _ k).mp hk with ⟨_, a, ha, hs⟩ | ⟨_, hk⟩
      · cases ha
        exact absurd hs (not_has rfl)
      · exact .inl ⟨k, hk⟩
    · exact .inr hx
  · intro v s hx hne
    rcases hx with ⟨k, hk⟩ | hx
    · refine .inl ⟨k, (hmoves.has _ k).mpr (.inr ⟨?_, hk⟩)⟩
      rintro rfl
      obtain ⟨a, ha, hv, hs⟩ := hk
      rw [hcall] at ha
      cases ha
      exact hne ⟨hv.symm, (Option.some.inj hs).symm⟩
    · exact .inr hx
  · simpa [given] using hlease
  · simp [hcall, Acquire.Counts, given]

lemma World.Inv.unmountNext {pending : List (GoString × Nat)} (h : w.Inv)
    (hk : w.cleanups[k]? = some pending) (hmem : (volumeID, sessionID) ∈ pending) :
    ((w.unmounted volumeID sessionID).setCleanup k
      (pending.filter (· ≠ (volumeID, sessionID)))).Inv := by
  have hheld : w.Holds .cleaner volumeID sessionID := .inr ⟨k, pending, hk, hmem⟩
  have hfree : ∀ x, w.Holds x volumeID sessionID → x = .cleaner :=
    fun x hx => h.owned.unique _ _ _ _ hx hheld
  have hremoves := h.owned.removes hfree
  refine ⟨h.owned.remove hfree hremoves rfl (fun _ _ _ => Iff.rfl) ?_ ?_,
    h.counted.same hremoves.directMounts rfl⟩
  · intro v s hx
    rcases hx with hx | hx
    · exact .inl hx
    rcases (mem_setCleanup _ k _ _).mp hx with hp | ⟨i, -, hi⟩
    · exact .inr ⟨k, pending, hk, (List.mem_filter.mp hp).1⟩
    · exact .inr ⟨i, hi⟩
  · intro v s hx hne
    rcases hx with hx | ⟨i, rest, hi, hvs⟩
    · exact .inl hx
    refine .inr ((mem_setCleanup _ k _ _).mpr ?_)
    by_cases hik : i = k
    · subst hik
      rw [hk] at hi
      cases hi
      exact .inl (List.mem_filter.mpr ⟨hvs, decide_eq_true fun heq => hne (Prod.mk.inj heq)⟩)
    · exact .inr ⟨i, hik, rest, hi, hvs⟩

lemma World.Inv.unmount (h : w.Inv) (hother : w.direct[sessionID]? = none) :
    (w.unmounted volumeID sessionID).Inv := by
  have hfree : ∀ x, w.Holds x volumeID sessionID → x = .cleaner := by
    intro x hx
    have hd := h.owned.direct _ _ _ hx
    rw [hother] at hd
    cases hd
  have hremoves := h.owned.removes hfree
  exact ⟨h.owned.remove hfree hremoves rfl (fun _ _ _ => Iff.rfl) (fun _ _ => id)
    fun _ _ hx _ => hx, h.counted.same hremoves.directMounts rfl⟩

lemma World.Inv.mount {m : Manager} (h : w.Inv) (hm : w.manager.Adds m volumeID sessionID) :
    Inv { w with manager := m } := by
  have hholds : ∀ x v s, Holds { w with manager := m } x v s ↔ w.Holds x v s := by
    intro x v s
    cases x with
    | lease => simp only [Holds, leaseSession, hm.directMounts]
    | call | cleaner => exact Iff.rfl
  refine ⟨h.owned.kept hm.wf (by simp only [hm.lastSession]; omega) rfl (fun v s hs hl => ?_)
    (fun _ v s _ _ hl => (hm.live v s).mpr (.inl hl)) (fun x v s => (hholds x v s).mp)
    fun x v s hx _ => (hholds x v s).mpr hx, h.counted.same hm.directMounts rfl⟩
  have hnumber := hm.number
  rcases (hm.live v s).mp hl with hl | ⟨_, heq⟩
  · exact hl
  · omega

lemma World.Inv.invalidate {m : Manager} (h : w.Inv)
    (hm : ∃ invalidates, m = { w.manager with invalidates }) : Inv { w with manager := m } := by
  obtain ⟨invalidates, rfl⟩ := hm
  have hsame : w.manager.Same { w.manager with invalidates } :=
    ⟨fun _ _ => Iff.rfl, fun _ => rfl, rfl, rfl⟩
  refine ⟨h.owned.same hsame rfl fun x v s => ?_, h.counted.same rfl rfl⟩
  cases x <;> exact Iff.rfl

lemma beginInvalidate_manager (volumeID invalidateID : GoString) (m : Manager) :
    ∃ invalidates, (beginInvalidate volumeID invalidateID m).2 = { m with invalidates } := by
  unfold beginInvalidate
  dsimp only
  split
  · exact ⟨_, rfl⟩
  split
  · exact ⟨_, rfl⟩
  split <;> exact ⟨_, rfl⟩

lemma ackInvalidate_manager (volumeID : GoString) (sessionID : Nat) (invalidateID : GoString)
    (success : Bool) (errorMessage : GoString) (m : Manager) :
    ∃ invalidates, ackInvalidate volumeID sessionID invalidateID success errorMessage m =
      { m with invalidates } := by
  unfold ackInvalidate
  split
  · exact ⟨_, rfl⟩
  · split <;> exact ⟨_, rfl⟩

lemma finishInvalidate_manager (volumeID invalidateID : GoString) (m : Manager) :
    ∃ invalidates, finishInvalidate volumeID invalidateID m = { m with invalidates } := by
  unfold finishInvalidate
  split
  · exact ⟨_, rfl⟩
  split
  · exact ⟨_, rfl⟩
  split <;> exact ⟨_, rfl⟩

lemma World.Inv.mountFn {req : MountRequest} (h : w.Inv)
    (hcall : w.calls[n]? = some ⟨volumeID, .mounting now⟩) :
    (w.mountFn n volumeID now req).Inv := by
  unfold World.mountFn
  rcases mountVolume_cases h.owned.wf req.fault volumeID req.teamID req.accessMode req.now with
    ⟨s, m', hmount, hadds⟩ | ⟨e, hmount⟩
  · rw [hmount]
    have hmoves := @World.moves_setCall w
      { w with manager := m', direct := w.direct.insert s volumeID } rfl n volumeID (.mounted now s)
    exact ⟨h.owned.mountFn hcall hadds rfl rfl hmoves, h.counted.pass hadds.directMounts hmoves
      (by simp [given]) (by simp [hcall, Acquire.Counts, given])⟩
  · rw [hmount]
    exact h.dropMounting hcall

lemma World.Inv.next (h : w.Inv) (e : Event) : (w.next e).Inv := by
  cases e with simp only [World.next]
  | acquire n volumeID hasFn now =>
    split
    · rename_i hnew
      exact h.acquire hnew.1
    · exact h
  | mountFn n req =>
    split
    · rename_i volumeID now hcall
      cases req with
      | some req => exact h.mountFn hcall
      | none => exact h.dropMounting hcall
    · exact h
  | settle n =>
    split
    · rename_i volumeID now own hcall
      exact h.settle hcall
    · exact h
  | discard n =>
    split
    · rename_i volumeID lease own hcall
      exact h.discard hcall
    · exact h
  | release n now =>
    split
    · rename_i volumeID sessionID hcall
      exact h.release hcall
    · exact h
  | cleanup k volumeID =>
    split
    · rename_i hk
      have ht := w.manager.takeIdle_takes volumeID
      exact ⟨h.owned.cleanup ht hk, h.counted.cleanup ht⟩
    · exact h
  | cleanupAll k idleTTL now =>
    split
    · rename_i hk
      have ht := w.manager.takeAllIdle_takes idleTTL now
      exact ⟨h.owned.cleanup ht hk, h.counted.cleanup ht⟩
    · exact h
  | unmountNext k volumeID sessionID =>
    split
    · exact h
    rename_i pending hk
    split
    · rename_i hmem
      exact h.unmountNext hk hmem
    · exact h
  | mount volumeID req =>
    rcases mountVolume_cases h.owned.wf req.fault volumeID req.teamID req.accessMode req.now with
      ⟨s, m', hmount, hadds⟩ | ⟨e, hmount⟩
    · rw [hmount]
      exact h.mount hadds
    · rw [hmount]
      exact h
  | unmount volumeID sessionID =>
    split
    · rename_i hother
      exact h.unmount hother
    · exact h
  | beginInvalidate volumeID invalidateID => exact h.invalidate (beginInvalidate_manager _ _ _)
  | ackInvalidate volumeID sessionID invalidateID success errorMessage =>
    exact h.invalidate (ackInvalidate_manager _ _ _ _ _ _)
  | finishInvalidate volumeID invalidateID => exact h.invalidate (finishInvalidate_manager _ _ _)

/-- In every interleaving the lease counts the acquisitions that are not released, the session
of each of them is mounted, and no session that a `mountFn` mounted is left behind. -/
theorem direct_session_stays_mounted {w : World} (h : World.Reached w) : w.Safe := by
  have hinv : w.Inv := by
    refine Reach.keeps (P := Inv) ?_ (fun w e hw _ => hw.next e) h
    rintro _ rfl
    exact Inv.start
  exact hinv.owned.safe hinv.counted

/-- Two first acquisitions meet, the second discards its session, both are released and the
lease is cleaned up while a third call mounts the volume again. -/
def meeting : List Event :=
  let req : MountRequest := { fault := none, teamID := lit "t", accessMode := lit "RWO", now := 0 }
  [.acquire 1 (lit "v") true 0, .acquire 2 (lit "v") true 0, .mountFn 1 (some req),
    .mountFn 2 (some req),
    .settle 1, .settle 2, .release 1 1, .discard 2, .release 2 1, .cleanup 1 (lit "v"),
    .acquire 3 (lit "v") true 2, .mountFn 3 (some req), .unmountNext 1 (lit "v") 1, .settle 3]

theorem direct_session_stays_mounted_when_calls_meet : (meeting.foldl World.next World.start).Safe ∧
      (meeting.foldl World.next World.start).inFlight (lit "v") = 1 ∧
      (meeting.foldl World.next World.start).manager.leaseSession (lit "v") = some 3 :=
  ⟨direct_session_stays_mounted (Reach.run (.start (by rfl)) meeting (by repeat' constructor)), by
    decide +kernel, by decide +kernel⟩

end sandbox0.volume
