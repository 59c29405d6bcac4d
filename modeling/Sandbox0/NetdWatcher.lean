-- The pods that `netd/pkg/watcher` follows. The informer tells the watcher of
-- each pod that is added, updated or deleted, and the watcher keeps the active
-- sandbox pods by name and calls the daemon's handlers.
import Sandbox0.GoCall
import Sandbox0.GoMap
import Sandbox0.GoString

namespace sandbox0.netd.watcher

open GoMap Option

/-! ## Pods and what the watcher keeps of them -/

/-- The parts of a `corev1.Pod` that the watcher reads. -/
structure Pod where
  nameSpace : GoString
  name : GoString
  uid : GoString
  resourceVersion : GoString
  labels : GoMap GoString GoString
  annotations : GoMap GoString GoString
  nodeName : GoString
  podIP : GoString

structure SandboxInfo where
  nameSpace : GoString
  name : GoString
  uid : GoString
  resourceVersion : GoString
  podIP : GoString
  nodeName : GoString
  sandboxID : GoString
  teamID : GoString
  networkPolicy : GoString
  networkPolicyHash : GoString
  networkAppliedHash : GoString
  deriving DecidableEq

def labelSandboxID : GoString := lit "sandbox0.ai/sandbox-id"
def labelPoolType : GoString := lit "sandbox0.ai/pool-type"
def poolTypeActive : GoString := lit "active"
def annotationTeamID : GoString := lit "sandbox0.ai/team-id"
def annotationNetworkPolicy : GoString := lit "sandbox0.ai/network-policy"
def annotationNetworkPolicyHash : GoString := lit "sandbox0.ai/network-policy-hash"
def annotationNetworkPolicyAppliedHash : GoString := lit "sandbox0.ai/network-policy-applied-hash"

/-- `m[key]` of a Go map of strings. -/
def text (m : GoMap GoString GoString) (key : GoString) : GoString := (m[key]?).getD []

/-- `sandboxInfoFromPod`: nothing for a pod that is not an active sandbox. -/
def sandboxInfoFromPod (pod : Pod) : Option SandboxInfo :=
  let sandboxID := text pod.labels labelSandboxID
  if sandboxID = [] then none
  else if text pod.labels labelPoolType ≠ poolTypeActive then none
  else
    some { nameSpace := pod.nameSpace, name := pod.name, uid := pod.uid,
           resourceVersion := pod.resourceVersion, podIP := pod.podIP, nodeName := pod.nodeName,
           sandboxID, teamID := text pod.annotations annotationTeamID,
           networkPolicy := text pod.annotations annotationNetworkPolicy,
           networkPolicyHash := text pod.annotations annotationNetworkPolicyHash,
           networkAppliedHash := text pod.annotations annotationNetworkPolicyAppliedHash }

variable {pod : Pod} {info : SandboxInfo} {w : World} {obj : Obj}

lemma sandboxInfoFromPod_resourceVersion (h : sandboxInfoFromPod pod = some info) :
    info.resourceVersion = pod.resourceVersion := by
  simp only [sandboxInfoFromPod, ite_none_left_eq_some, Option.some.injEq] at h
  obtain ⟨_, _, rfl⟩ := h
  rfl

/-- The object of a notification: a pod, a `DeletedFinalStateUnknown` with or
without a pod in it, or something else. -/
inductive Obj where
  | pod (pod : Pod)
  | tombstone (obj : Option Pod)
  | other

def getPod : Obj → Option Pod
  | .pod pod => some pod
  | .tombstone obj => obj
  | .other => none

def Pod.key (pod : Pod) : GoString := pod.nameSpace ++ lit "/" ++ pod.name

def isResourceVersionNewer (current incoming : GoString) : Bool :=
  if current = [] then true
  else if incoming = [] then false
  else
    match parseInt64 current, parseInt64 incoming with
    | some currentVal, some incomingVal => currentVal < incomingVal
    | _, _ => true

/-! ## The handlers -/

/-- The watcher, with the calls that it made of the daemon's handlers, the
newest first. -/
structure Watcher where
  sandboxes : GoMap GoString SandboxInfo
  onSandboxUpsert : List SandboxInfo
  onSandboxDelete : List SandboxInfo

/-- Whether the entry of `key` is kept from a change that carries `info`. -/
def Watcher.outdates (w : Watcher) (key : GoString) (info : SandboxInfo) : Prop :=
  ∃ existing ∈ w.sandboxes[key]?,
    isResourceVersionNewer existing.resourceVersion info.resourceVersion = false

instance (w : Watcher) (key : GoString) (info : SandboxInfo) : Decidable (w.outdates key info) :=
  inferInstanceAs (Decidable (∃ existing ∈ w.sandboxes[key]?, _ = false))

def Watcher.handlePodUpsert (w : Watcher) (obj : Obj) : Watcher :=
  match getPod obj with
  | none => w
  | some pod =>
    match sandboxInfoFromPod pod with
    | none => w
    | some info =>
      if w.outdates pod.key info then w
      else { w with sandboxes := w.sandboxes.insert pod.key info
                    onSandboxUpsert := info :: w.onSandboxUpsert }

/-- `handlePodDelete`: the entry of the map stands for the pod when there is
one, and then the same entry is asked whether it is newer than itself. -/
def Watcher.handlePodDelete (w : Watcher) (obj : Obj) : Watcher :=
  match getPod obj with
  | none => w
  | some pod =>
    match w.sandboxes[pod.key]? <|> sandboxInfoFromPod pod with
    | none => w
    | some info =>
      if w.outdates pod.key info then w
      else { w with sandboxes := w.sandboxes.erase pod.key
                    onSandboxDelete := info :: w.onSandboxDelete }

/-! ## The informer -/

inductive Notification where
  | add (obj : Obj)
  | update (obj : Obj)
  | delete (obj : Obj)

/-- The watcher next to what it was told: the newest object of each pod that
is not deleted, and the pods that were deleted as active sandboxes. -/
structure World where
  watch : Watcher
  live : GoMap GoString Pod
  gone : List GoString

def World.start : World :=
  { watch := { sandboxes := ∅, onSandboxUpsert := [], onSandboxDelete := [] },
    live := ∅, gone := [] }

def World.active (w : World) (key : GoString) : Prop :=
  ∃ pod ∈ w.live[key]?, (sandboxInfoFromPod pod).isSome

instance (w : World) (key : GoString) : Decidable (w.active key) :=
  inferInstanceAs (Decidable (∃ pod ∈ w.live[key]?, _))

def World.upserted (w : World) (obj : Obj) : World :=
  match getPod obj with
  | none => { w with watch := w.watch.handlePodUpsert obj }
  | some pod =>
    { w with watch := w.watch.handlePodUpsert obj, live := w.live.insert pod.key pod }

def World.deleted (w : World) (obj : Obj) : World :=
  match getPod obj with
  | none => { w with watch := w.watch.handlePodDelete obj }
  | some pod =>
    { watch := w.watch.handlePodDelete obj
      live := w.live.erase pod.key
      gone := if w.active pod.key then pod.uid :: w.gone else w.gone }

def World.next (w : World) : Notification → World
  | .add obj => w.upserted obj
  | .update obj => w.upserted obj
  | .delete obj => w.deleted obj

def Pod.version (pod : Pod) : Option Int := parseInt64 pod.resourceVersion

/-- The version of `pod` is a number, and not below the one that was told last. -/
def World.Follows (w : World) (pod : Pod) : Prop :=
  pod.version.isSome ∧
    ∀ last ∈ w.live[pod.key]?, ∀ v ∈ last.version, ∀ v' ∈ pod.version, v ≤ v'

/-- What an informer may tell: versions that do not decrease, and deletes of
pods that it told of before. -/
def World.Told (w : World) : Notification → Prop
  | .add obj | .update obj => ∀ pod ∈ getPod obj, w.Follows pod
  | .delete obj => ∀ pod ∈ getPod obj, w.Follows pod ∧ (w.live[pod.key]?).isSome

instance (w : World) (pod : Pod) : Decidable (w.Follows pod) :=
  inferInstanceAs (Decidable (_ ∧ ∀ last ∈ w.live[pod.key]?, ∀ v ∈ last.version, _))

instance (w : World) (n : Notification) : Decidable (w.Told n) := by
  unfold World.Told
  split <;> infer_instance

/-- The notification leaves the tracked pods alone: it does not delete one,
and it does not turn one into a pod that is no active sandbox. -/
def World.Spares (w : World) : Notification → Prop
  | .add obj | .update obj =>
    ∀ pod ∈ getPod obj, sandboxInfoFromPod pod = none → w.watch.sandboxes[pod.key]? = none
  | .delete obj => ∀ pod ∈ getPod obj, w.watch.sandboxes[pod.key]? = none

instance (w : World) (n : Notification) : Decidable (w.Spares n) := by
  unfold World.Spares
  split <;> infer_instance

/-- The watcher tracks the live pods. -/
structure World.Tracks (w : World) : Prop where
  /-- The map holds exactly the active sandbox pods that are not deleted. -/
  exact : ∀ key : GoString, (w.watch.sandboxes[key]?).isSome ↔ w.active key
  /-- Each entry is at the newest version of its pod. -/
  newest : ∀ key : GoString, ∀ info ∈ w.watch.sandboxes[key]?, ∀ pod ∈ w.live[key]?,
    parseInt64 info.resourceVersion = pod.version
  /-- Each pod that was deleted as a sandbox was reported once. -/
  reported : ∀ uid ∈ w.gone, (w.watch.onSandboxDelete.filter (·.uid = uid)).length = 1

def World.Reached (ok : World → Notification → Prop) : World → Prop :=
  Reach (· = World.start) (fun w n w' => w' = w.next n) fun w n => w.Told n ∧ ok w n

/-! ## What one notification does -/

lemma isResourceVersionNewer_iff {current incoming : GoString} {v v' : Int}
    (hc : parseInt64 current = some v) (hi : parseInt64 incoming = some v') :
    isResourceVersionNewer current incoming = true ↔ v < v' := by
  have hnone : parseInt64 [] = none := by decide
  have hc0 : current ≠ [] := by
    rintro rfl
    rw [hnone] at hc
    cases hc
  have hi0 : incoming ≠ [] := by
    rintro rfl
    rw [hnone] at hi
    cases hi
  simp [isResourceVersionNewer, hc0, hi0, hc, hi]

/-- The worlds of a run that spares the tracked pods: both maps agree, each
live pod has a number as its version, and no sandbox was deleted. -/
structure World.Inv (w : World) : Prop where
  exact : ∀ key : GoString, (w.watch.sandboxes[key]?).isSome ↔ w.active key
  newest : ∀ key : GoString, ∀ info ∈ w.watch.sandboxes[key]?, ∀ pod ∈ w.live[key]?,
    parseInt64 info.resourceVersion = pod.version
  numeric : ∀ key : GoString, ∀ pod ∈ w.live[key]?, pod.version.isSome
  none_gone : w.gone = []

lemma World.Inv.tracks (h : w.Inv) : w.Tracks := by
  refine ⟨h.exact, h.newest, ?_⟩
  intro uid huid
  rw [h.none_gone] at huid
  cases huid

/-- The entry of a tracked pod stands for the delete as well, so no delete
of a tracked pod is ever newer. -/
lemma Watcher.handlePodDelete_tracked {w : Watcher} (hobj : getPod obj = some pod)
    (hinfo : w.sandboxes[pod.key]? = some info) (hnum : (parseInt64 info.resourceVersion).isSome) :
    w.handlePodDelete obj = w := by
  obtain ⟨v, hv⟩ := isSome_iff_exists.mp hnum
  have hnot : ¬ isResourceVersionNewer info.resourceVersion info.resourceVersion = true := by
    rw [isResourceVersionNewer_iff hv hv]
    omega
  have hout : w.outdates pod.key info :=
    ⟨info, hinfo, by simpa using hnot⟩
  simp [handlePodDelete, hobj, hinfo, hout]

lemma Watcher.handlePodUpsert_inactive {w : Watcher} (hobj : getPod obj = some pod)
    (hinfo : sandboxInfoFromPod pod = none) : w.handlePodUpsert obj = w := by
  simp [handlePodUpsert, hobj, hinfo]

open Watcher

lemma World.Inv.handlePodUpsert_active (h : w.Inv) (hobj : getPod obj = some pod)
    (hinfo : sandboxInfoFromPod pod = some info) (hfollows : w.Follows pod) :
    ∃ entry, parseInt64 entry.resourceVersion = pod.version ∧
      (w.watch.handlePodUpsert obj).sandboxes = w.watch.sandboxes.insert pod.key entry := by
  have hrv : parseInt64 info.resourceVersion = pod.version := by
    rw [sandboxInfoFromPod_resourceVersion hinfo]
    rfl
  by_cases hout : w.watch.outdates pod.key info
  · obtain ⟨existing, hex, hold⟩ := hout
    have htracked : w.active pod.key := (h.exact pod.key).mp (by rw [hex]; rfl)
    obtain ⟨last, hlast, _⟩ := htracked
    have hsame := h.newest pod.key existing hex last hlast
    obtain ⟨v, hv⟩ := isSome_iff_exists.mp (h.numeric pod.key last hlast)
    obtain ⟨v', hv'⟩ := isSome_iff_exists.mp hfollows.1
    have hle : v ≤ v' := hfollows.2 last hlast v hv v' hv'
    have hnot : ¬ v < v' := by
      rw [← isResourceVersionNewer_iff (hsame.trans hv) (hrv.trans hv'), hold]
      simp
    refine ⟨existing, ?_, ?_⟩
    · rw [hsame, hv, hv']
      congr 1
      omega
    · have hout : w.watch.outdates pod.key info := ⟨existing, hex, hold⟩
      have hkeep : w.watch.handlePodUpsert obj = w.watch := by
        simp [handlePodUpsert, hobj, hinfo, hout]
      rw [hkeep]
      apply eq_of_get
      intro key
      by_cases hk : pod.key = key
      · subst hk
        rw [get_insert_self]
        exact hex
      · rw [get_insert_ne _ _ hk]
  · exact ⟨info, hrv, by simp [handlePodUpsert, hobj, hinfo, hout]⟩

/-- A delete of a pod that is not tracked leaves no entry for it, and no other
entry changes. -/
lemma Watcher.handlePodDelete_untracked {w : Watcher} (hobj : getPod obj = some pod)
    (hnone : w.sandboxes[pod.key]? = none) (key : GoString) :
    (w.handlePodDelete obj).sandboxes[key]? = w.sandboxes[key]? := by
  cases hinfo : sandboxInfoFromPod pod with
  | none => simp [handlePodDelete, hobj, hnone, hinfo]
  | some info =>
    have hout : ¬ w.outdates pod.key info := by
      rintro ⟨existing, hex, _⟩
      rw [hnone] at hex
      cases hex
    have herase : (w.handlePodDelete obj).sandboxes = w.sandboxes.erase pod.key := by
      simp [handlePodDelete, hobj, hnone, hinfo, hout]
    rw [herase]
    by_cases hk : pod.key = key
    · subst hk
      rw [get_erase_self, hnone]
    · exact get_erase_ne _ hk

/-! ## Runs -/

open World

lemma World.Inv.start : World.start.Inv := by
  refine ⟨?_, ?_, ?_, rfl⟩
  · intro key
    simp [World.start, World.active]
  · intro key info hinfo
    simp [World.start] at hinfo
  · intro key pod hpod
    simp [World.start] at hpod

/-- A change at one key of the two maps keeps the invariant when the new
values of that key agree. -/
lemma World.Inv.atKey {w' : World} (h : w.Inv) (key : GoString) (hgone : w'.gone = w.gone)
    (hentry : ∀ k, k ≠ key → w'.watch.sandboxes[k]? = w.watch.sandboxes[k]?)
    (hlive : ∀ k, k ≠ key → w'.live[k]? = w.live[k]?)
    (hexact : (w'.watch.sandboxes[key]?).isSome ↔ w'.active key)
    (hnewest : ∀ info ∈ w'.watch.sandboxes[key]?, ∀ pod ∈ w'.live[key]?,
      parseInt64 info.resourceVersion = pod.version)
    (hnumeric : ∀ pod ∈ w'.live[key]?, pod.version.isSome) : w'.Inv := by
  refine ⟨?_, ?_, ?_, hgone.trans h.none_gone⟩
  · intro k
    by_cases hk : k = key
    · subst hk
      exact hexact
    · rw [hentry k hk, h.exact k, active, active, hlive k hk]
  · intro k info hinfo pod hpod
    by_cases hk : k = key
    · subst hk
      exact hnewest info hinfo pod hpod
    · rw [hentry k hk] at hinfo
      rw [hlive k hk] at hpod
      exact h.newest k info hinfo pod hpod
  · intro k pod hpod
    by_cases hk : k = key
    · subst hk
      exact hnumeric pod hpod
    · rw [hlive k hk] at hpod
      exact h.numeric k pod hpod

lemma World.Inv.upserted (h : w.Inv) (htold : ∀ pod ∈ getPod obj, w.Follows pod)
    (hspare : ∀ pod ∈ getPod obj, sandboxInfoFromPod pod = none →
      w.watch.sandboxes[pod.key]? = none) : (w.upserted obj).Inv := by
  cases hobj : getPod obj with
  | none =>
    have hsame : w.upserted obj = w := by simp [World.upserted, Watcher.handlePodUpsert, hobj]
    rw [hsame]
    exact h
  | some pod =>
    have hnext : w.upserted obj =
        { w with watch := w.watch.handlePodUpsert obj, live := w.live.insert pod.key pod } := by
      simp [World.upserted, hobj]
    have hfollows := htold pod hobj
    have hlive : ∀ k, k ≠ pod.key → (w.live.insert pod.key pod)[k]? = w.live[k]? := fun k hk =>
      get_insert_ne _ _ (Ne.symm hk)
    rw [hnext]
    cases hinfo : sandboxInfoFromPod pod with
    | none =>
      have hnone := hspare pod hobj hinfo
      rw [Watcher.handlePodUpsert_inactive hobj hinfo]
      refine h.atKey pod.key rfl (fun _ _ => rfl) hlive ?_ ?_ ?_
      · simp [World.active, hnone, hinfo]
      · intro info hi
        simp [hnone] at hi
      · intro last hlast
        simp only [get_insert_self, Option.mem_some_iff] at hlast
        subst hlast
        exact hfollows.1
    | some info =>
      obtain ⟨entry, hversion, hinsert⟩ := h.handlePodUpsert_active hobj hinfo hfollows
      refine h.atKey pod.key rfl (fun k hk => ?_) hlive ?_ ?_ ?_
      · simp only [hinsert]
        exact get_insert_ne _ _ (Ne.symm hk)
      · simp [World.active, hinsert, hinfo]
      · intro i hi last hlast
        simp only [hinsert, get_insert_self, Option.mem_some_iff] at hi hlast
        subst hi hlast
        exact hversion
      · intro last hlast
        simp only [get_insert_self, Option.mem_some_iff] at hlast
        subst hlast
        exact hfollows.1

lemma World.Inv.deleted (h : w.Inv)
    (hspare : ∀ pod ∈ getPod obj, w.watch.sandboxes[pod.key]? = none) : (w.deleted obj).Inv := by
  cases hobj : getPod obj with
  | none =>
    have hsame : w.deleted obj = w := by simp [World.deleted, Watcher.handlePodDelete, hobj]
    rw [hsame]
    exact h
  | some pod =>
    have hnone := hspare pod hobj
    have hinactive : ¬ w.active pod.key := by
      rw [← h.exact pod.key, hnone]
      simp
    have hnext : w.deleted obj =
        { w with watch := w.watch.handlePodDelete obj, live := w.live.erase pod.key } := by
      simp [World.deleted, hobj, hinactive]
    have hentry := Watcher.handlePodDelete_untracked hobj hnone
    rw [hnext]
    refine h.atKey pod.key rfl (fun k _ => hentry k) (fun k hk => ?_) ?_ ?_ ?_
    · exact get_erase_ne _ (Ne.symm hk)
    · simp [World.active, hentry, hnone]
    · intro info hi
      simp [hentry, hnone] at hi
    · intro last hlast
      simp at hlast

lemma World.Inv.next {n : Notification} (h : w.Inv) (htold : w.Told n) (hspare : w.Spares n) :
    (w.next n).Inv := by
  cases n with
  | add | update => exact h.upserted htold hspare
  | delete obj => exact h.deleted hspare

/-- A watcher that still tracks the pods after a notification was spared by it. -/
lemma World.Inv.spares {n : Notification} (h : w.Inv) (hnext : (w.next n).Tracks) : w.Spares n := by
  have hupsert : ∀ obj, (w.upserted obj).Tracks → ∀ pod ∈ getPod obj,
      sandboxInfoFromPod pod = none → w.watch.sandboxes[pod.key]? = none := by
    intro obj ht pod hobj hinfo
    have hex := ht.exact pod.key
    have hobj' : getPod obj = some pod := hobj
    simp only [World.upserted, hobj', Watcher.handlePodUpsert_inactive hobj' hinfo, World.active,
      get_insert_self, Option.mem_some_iff, exists_eq_left', hinfo] at hex
    simpa using hex
  cases n with
  | add obj | update obj => exact hupsert obj hnext
  | delete obj =>
    intro pod hobj
    have hobj' : getPod obj = some pod := hobj
    by_contra hne
    obtain ⟨info, hinfo⟩ := Option.ne_none_iff_exists'.mp hne
    obtain ⟨last, hlast, _⟩ := (h.exact pod.key).mp (by rw [hinfo]; rfl)
    have hnum : (parseInt64 info.resourceVersion).isSome := by
      rw [h.newest pod.key info hinfo last hlast]
      exact h.numeric pod.key last hlast
    have hex := hnext.exact pod.key
    simp [World.next, World.deleted, hobj', Watcher.handlePodDelete_tracked hobj' hinfo hnum, hinfo,
      World.active] at hex

/-- As long as no notification deletes a tracked pod or makes it inactive, the
watcher tracks the live pods; and any other notification ends that. -/
theorem watcher_tracks_live_pods {w : World} (h : World.Reached World.Spares w) :
    w.Tracks ∧ ∀ n, w.Told n → ((w.next n).Tracks ↔ w.Spares n) := by
  have hinv : w.Inv := by
    refine Reach.keeps (P := Inv) ?_ (fun w n hw hok => hw.next hok.1 hok.2) h
    rintro _ rfl
    exact Inv.start
  refine ⟨hinv.tracks, fun n htold => ⟨hinv.spares, fun hspare => ?_⟩⟩
  exact (hinv.next htold hspare).tracks

/-- An active sandbox pod at version 5, and the same pod at version 6. -/
def sandboxPod (version : GoString) : Pod :=
  { nameSpace := lit "team", name := lit "box", uid := lit "u1", resourceVersion := version,
    labels := (∅ : GoMap GoString GoString).insert labelSandboxID (lit "s1")
      |>.insert labelPoolType poolTypeActive,
    annotations := ∅, nodeName := lit "n1", podIP := lit "10.0.0.7" }

theorem updated_pod_is_tracked : ((World.start.next (.add (.pod (sandboxPod (lit "5"))))).next
      (.update (.pod (sandboxPod (lit "6"))))).Tracks :=
  (watcher_tracks_live_pods (Reach.run (s := World.start) (.start (by rfl))
    ([.add (.pod (sandboxPod (lit "5"))), .update (.pod (sandboxPod (lit "6")))] :
      List Notification)
    (by decide +kernel))).1

/-- A pod that was added and then deleted stays in the map, and no handler is told. -/
theorem deleted_pod_stays : ∃ w, World.Reached (fun _ _ => True) w ∧ ¬ w.Tracks ∧
      w.live.isEmpty = true ∧ w.gone = [lit "u1"] ∧ w.watch.onSandboxDelete = [] ∧
      (w.watch.sandboxes[(sandboxPod []).key]?).isSome := by
  refine ⟨_, Reach.run (.start (by rfl))
    [.add (.pod (sandboxPod (lit "5"))), .delete (.tombstone (some (sandboxPod (lit "6"))))]
    (by decide +kernel), ?_, by decide +kernel, by decide +kernel, by decide +kernel,
    by decide +kernel⟩
  intro h
  have hex := h.reported (lit "u1") (by decide +kernel)
  revert hex
  decide +kernel

end sandbox0.netd.watcher
