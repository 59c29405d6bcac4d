-- Claims of idle pods (`claimIdlePod` of `manager/pkg/service`) beside the upkeep of
-- the pool (`manager/pkg/controller/pool_manager.go`). A claim starts from a cached
-- pod and writes it back at the version it has, the upkeep reads a pod and deletes
-- it at the version it read, and both try again on a conflict.
import Sandbox0.ManagerPolicy
import Sandbox0.ObjectStore

namespace sandbox0.manager

open GoMap List List.Subset

/-! ## Pods -/

def labelTemplateID : GoString := lit "sandbox0.ai/template-id"
def labelPoolType : GoString := lit "sandbox0.ai/pool-type"
def labelSandboxID : GoString := lit "sandbox0.ai/sandbox-id"
def poolTypeIdle : GoString := lit "idle"
def poolTypeActive : GoString := lit "active"
def annotationTeamID : GoString := lit "sandbox0.ai/team-id"
def annotationUserID : GoString := lit "sandbox0.ai/user-id"
def annotationClaimedAt : GoString := lit "sandbox0.ai/claimed-at"
def annotationClaimType : GoString := lit "sandbox0.ai/claim-type"
def annotationExpiresAt : GoString := lit "sandbox0.ai/expires-at"
def annotationHardExpiresAt : GoString := lit "sandbox0.ai/hard-expires-at"
def annotationConfig : GoString := lit "sandbox0.ai/config"
def annotationNetworkPolicy : GoString := lit "sandbox0.ai/network-policy"
def annotationNetworkPolicyHash : GoString := lit "sandbox0.ai/network-policy-hash"
def annotationNetworkPolicyAppliedHash : GoString := lit "sandbox0.ai/network-policy-applied-hash"
def annotationSandboxID : GoString := lit "sandbox0.ai/sandbox-id"
def annotationWebhookStateVolumeID : GoString := lit "sandbox0.ai/webhook-state-volume-id"
def annotationTemplateSpecHash : GoString := lit "sandbox0.ai/template-spec-hash"
def annotationSafeToEvict : GoString := lit "cluster-autoscaler.kubernetes.io/safe-to-evict"
def sandboxCleanupFinalizer : GoString := lit "sandbox0.ai/sandbox-cleanup"
def sandboxPodReadiness : GoString := lit "sandbox0.ai/ready"
def sandboxPodLiveness : GoString := lit "sandbox0.ai/live"

inductive PodPhase where
  | pending
  | running
  | succeeded
  | failed
  | other (text : GoString)
  deriving DecidableEq

structure PodCondition where
  type : GoString
  status : GoString

structure Pod where
  labels : GoMap GoString GoString
  annotations : GoMap GoString GoString
  finalizers : List GoString
  ownerReferences : List GoString
  deletionTimestamp : Option Int
  /-- Nothing for a zero time. -/
  creationTimestamp : Option Int
  phase : PodPhase
  conditions : List PodCondition
  readinessGates : List GoString

abbrev PodKey := GoString × GoString

def podConditionTrue (conditions : List PodCondition) (type : GoString) : Bool :=
  (conditions.find? (·.type = type)).any (·.status = lit "True")

def Pod.hasReadinessGate (pod : Pod) : Bool := sandboxPodReadiness ∈ pod.readinessGates

def Pod.dead (pod : Pod) : Bool :=
  (pod.conditions.find? (·.type = sandboxPodLiveness)).any (·.status = lit "False")

def isPodReady (pod : Pod) : Bool :=
  pod.phase = .running ∧ podConditionTrue pod.conditions (lit "Ready") ∧
    (¬ pod.hasReadinessGate ∨ podConditionTrue pod.conditions sandboxPodReadiness ∧ ¬ pod.dead)

def Pod.idle (pod : Pod) : Bool := pod.labels[labelPoolType]? = some poolTypeIdle

/-- A missing annotation reads as the empty text. -/
def Pod.specHash (pod : Pod) : GoString := (pod.annotations[annotationTemplateSpecHash]?).getD []

/-- `isHotClaimableIdlePod`, with the answer of the node cache. -/
def isHotClaimableIdlePod (pod : Pod) (dataPlaneReady : Bool)
    (desiredTemplateHash : GoString) : Bool :=
  pod.deletionTimestamp = none ∧ pod.specHash = desiredTemplateHash ∧ isPodReady pod ∧
    dataPlaneReady

/-- Two minutes, in nanoseconds. -/
def unhealthyIdlePodRepairGracePeriod : Int := 120000000000

def shouldRepairUnhealthyIdlePod (pod : Pod) (now : Int) : Bool :=
  pod.deletionTimestamp = none ∧ ¬ isPodReady pod ∧
    (pod.phase = .succeeded ∨ pod.phase = .failed ∨
      ∃ created ∈ pod.creationTimestamp, unhealthyIdlePodRepairGracePeriod ≤ now - created)

/-! ## Errors -/

/-- The reason of an error, as `k8serrors` reads it through wrapped errors. -/
inductive Reason where
  | conflict
  | notFound
  | invalid
  | other
  deriving DecidableEq

structure Failure where
  reason : Reason
  text : GoString

/-- `fmt.Errorf("<text>: %w", err)`. -/
def Failure.wrap (e : Failure) (text : GoString) : Failure :=
  { e with text := text ++ lit ": " ++ e.text }

def isIdlePodLostDuringClaim (e : Failure) : Bool :=
  e.reason = .notFound ∨
    (e.reason = .invalid ∧ contains e.text (lit "metadata.finalizers") ∧
      contains e.text (lit "no new finalizers can be added if the object is being deleted"))

/-! ## One attempt of a claim -/

variable {ρ : Type}

structure Service (ρ : Type) where
  parsers : Parsers
  /-- In nanoseconds. -/
  defaultTTL : Int
  noRest : ρ
  /-- `json.Marshal` of a configuration and of a policy. -/
  marshalConfig : SandboxConfig ρ → Except Failure GoString
  marshalPolicy : netd.policy.NetworkPolicySpec → Except Failure GoString
  policyAnnotationHash : GoString → GoString
  /-- `Format(time.RFC3339)`. -/
  format : Int → GoString
  /-- Whether the service has a `NetworkPolicyService` and a client for state volumes. -/
  buildsPolicies : Bool
  hasStateVolumes : Bool

structure Template where
  nameSpace : GoString
  name : GoString
  network : Option SandboxNetworkPolicy
  /-- `TemplateSpecHash`. -/
  specHash : Except Failure GoString

/-- `m[k] = v`, or `delete(m, k)` where there is no value. -/
def setOrDelete (m : GoMap GoString GoString) (k : GoString) :
    Option GoString → GoMap GoString GoString
  | some v => m.insert k v
  | none => m.erase k

/-- `sanitizedNetworkPolicyForPersistence`. -/
def SandboxNetworkPolicy.sanitized (policy : SandboxNetworkPolicy) : SandboxNetworkPolicy :=
  { policy with credentialBindings := [] }

def cloneSandboxConfig (config : SandboxConfig ρ) : SandboxConfig ρ :=
  { config with network := config.network.map (·.sanitized) }

def claimConfigForPersistence (svc : Service ρ) (config : Option (SandboxConfig ρ)) :
    Option (SandboxConfig ρ) :=
  let persisted :=
    match config with
    | some config => some (cloneSandboxConfig config)
    | none =>
      if svc.defaultTTL ≤ 0 then none
      else some { ttl := none, hardTTL := none, network := none, webhook := none,
                  rest := svc.noRest }
  persisted.map fun config =>
    if config.ttl = none ∧ 0 < svc.defaultTTL then
      { config with ttl := some (svc.defaultTTL / 1000000000) }
    else config

/-- The text of a time that a TTL ends at, or nothing where it has no end. -/
def expiration (svc : Service ρ) (now : Int) (ttl : Option Int) : Option GoString :=
  match ttl with
  | none => none
  | some ttl => if ttl ≤ 0 then none else some (svc.format (now + ttl * 1000000000))

def setExpirationAnnotation (svc : Service ρ) (m : GoMap GoString GoString) (now : Int)
    (ttl : Option Int) : GoMap GoString GoString :=
  setOrDelete m annotationExpiresAt (expiration svc now ttl)

def setHardExpirationAnnotation (svc : Service ρ) (m : GoMap GoString GoString) (now : Int)
    (hardTTL : Option Int) : GoMap GoString GoString :=
  setOrDelete m annotationHardExpiresAt (expiration svc now hardTTL)

/-- `setNetworkPolicyAnnotations`, with the JSON text of the policy. -/
def setNetworkPolicyAnnotations (svc : Service ρ) (m : GoMap GoString GoString)
    (policyText : GoString) : GoMap GoString GoString :=
  let newHash := svc.policyAnnotationHash policyText
  let oldHash := (m[annotationNetworkPolicyHash]?).getD []
  let m := m.insert annotationNetworkPolicy policyText
  let m := setOrDelete m annotationNetworkPolicyHash (if newHash ≠ [] then some newHash else none)
  if oldHash ≠ newHash then m.erase annotationNetworkPolicyAppliedHash else m

def claimedSandboxPodAnnotations (extra : GoMap GoString GoString) : GoMap GoString GoString :=
  extra.insert annotationSafeToEvict (lit "false")

def claimAnnotations (svc : Service ρ) (name : GoString) (req : ClaimRequest ρ) (now : Int)
    (stateVolume : Option GoString) (persisted : Option (SandboxConfig ρ × GoString))
    (annotations : GoMap GoString GoString) : GoMap GoString GoString :=
  let m := claimedSandboxPodAnnotations annotations
  let m := m.insert annotationSandboxID name
  let m := m.insert annotationTeamID req.teamID
  let m := m.insert annotationUserID req.userID
  let m := m.insert annotationClaimedAt (svc.format now)
  let m := m.insert annotationClaimType (lit "hot")
  let m := setOrDelete m annotationWebhookStateVolumeID stateVolume
  match persisted with
  | none => m
  | some (config, configJSON) =>
    let m := setExpirationAnnotation svc m now config.ttl
    let m := setHardExpirationAnnotation svc m now config.hardTTL
    m.insert annotationConfig configJSON

def ensureSandboxCleanupFinalizer (finalizers : List GoString) : List GoString :=
  if sandboxCleanupFinalizer ∈ finalizers then finalizers
  else finalizers ++ [sandboxCleanupFinalizer]

def claimedPod (name : GoString) (pod : Pod) (annotations : GoMap GoString GoString) : Pod :=
  { pod with
    labels := (pod.labels.insert labelPoolType poolTypeActive).insert labelSandboxID name
    finalizers := ensureSandboxCleanupFinalizer pod.finalizers
    ownerReferences := []
    annotations }

/-- What the calls of one attempt answer before the pod is written. -/
structure Answers where
  now : Int
  /-- The volume that is created for a webhook. -/
  createVolume : Except Failure GoString
  /-- The error of `syncCredentialBindings`. -/
  syncCredentialBindings : Option Failure

def prepareWebhookStateVolume (svc : Service ρ) (req : ClaimRequest ρ) (io : Answers) :
    Except Failure (Option GoString) :=
  match getWebhookInfo req with
  | none => .ok none
  | some _ =>
    if svc.hasStateVolumes then io.createVolume.map some
    else .error { reason := .other, text := lit "webhook state volume client is not configured" }

/-- The configuration that is kept, with its JSON text. -/
def marshalPersisted (svc : Service ρ) (req : ClaimRequest ρ) :
    Except Failure (Option (SandboxConfig ρ × GoString)) :=
  match claimConfigForPersistence svc req.config with
  | none => .ok none
  | some config => (svc.marshalConfig config).map fun configJSON => some (config, configJSON)

/-- One attempt up to the update, with the pod that it writes. -/
def prepareClaim (svc : Service ρ) (template : Template) (req : ClaimRequest ρ) (name : GoString)
    (pod : Pod) (io : Answers) : Except Failure Pod :=
  match prepareWebhookStateVolume svc req io with
  | .error e => .error (e.wrap (lit "prepare webhook state volume"))
  | .ok stateVolume =>
    match marshalPersisted svc req with
    | .error e => .error (e.wrap (lit "marshal config"))
    | .ok persisted =>
      let annotations := claimAnnotations svc name req io.now stateVolume persisted pod.annotations
      if ¬ svc.buildsPolicies then .ok (claimedPod name pod annotations)
      else
        match svc.marshalPolicy
          (applyPoliciesForPod svc.parsers name template.network req).policySpec with
        | .error e => .error (e.wrap (lit "serialize network policy"))
        | .ok policyText =>
          match io.syncCredentialBindings with
          | some e => .error (e.wrap (lit "stage credential bindings"))
          | none =>
            .ok (claimedPod name pod (setNetworkPolicyAnnotations svc annotations policyText))

/-- The request after that attempt: once the policies are applied, its own policy has
the host of the webhook. -/
def requestAfter (svc : Service ρ) (req : ClaimRequest ρ) (io : Answers) : ClaimRequest ρ :=
  match prepareWebhookStateVolume svc req io, marshalPersisted svc req with
  | .ok _, .ok _ => if svc.buildsPolicies then req.applied svc.parsers else req
  | _, _ => req

/-! ## Calls under way -/

inductive Stage (ρ : Type) where
  | list
  | prepare (name : GoString) (pod : Object Pod)
  /-- It writes the second pod over the first one. The request is the one that the
  attempt started with. -/
  | update (name : GoString) (old : Object Pod) (new : Pod) (used : ClaimRequest ρ)
  | apply (name : GoString) (stored : Object Pod)
  | done (result : Except Failure (Option (Object Pod)))

/-- A call of `claimIdlePod`. -/
structure Claim (ρ : Type) where
  template : Template
  /-- The request as it was sent, and as it is now. -/
  sent : ClaimRequest ρ
  req : ClaimRequest ρ
  desiredTemplateHash : GoString
  attempts : Nat
  stage : Stage ρ

inductive SweepKind where
  | unhealthy
  | stale

inductive SweepStage where
  | get
  | delete (pod : Object Pod)
  | done (result : Except Failure Bool)

/-- A call of `deleteUnhealthyIdlePodWithRetry` or `deleteStaleIdlePodWithRetry`. -/
structure Sweep where
  kind : SweepKind
  nameSpace : GoString
  podName : GoString
  desiredTemplateHash : GoString
  attempts : Nat
  stage : SweepStage

/-- The check between the read and the delete. -/
def Sweep.selects (s : Sweep) (pod : Pod) (now : Int) : Bool :=
  match s.kind with
  | .unhealthy =>
    pod.idle ∧ pod.specHash = s.desiredTemplateHash ∧ shouldRepairUnhealthyIdlePod pod now
  | .stale => pod.idle ∧ pod.specHash ≠ s.desiredTemplateHash

structure Claimed (ρ : Type) where
  claim : Nat
  sent : ClaimRequest ρ
  used : ClaimRequest ρ
  uid : Nat
  stored : Option (Object Pod)

structure Deletion where
  uid : Nat
  /-- A claim had written the pod before. -/
  afterClaim : Bool

structure World (ρ : Type) where
  store : ObjectStore PodKey Pod
  claims : GoMap Nat (Claim ρ)
  sweeps : GoMap Nat Sweep
  claimed : List (Claimed ρ)
  deletions : List Deletion

/-- What a delete does to an object: it goes, or it is marked and goes later. -/
inductive DeleteEffect where
  | remove
  | mark (now : Int)

/-- A version in the cache, by its place in the history, with what the node cache says
of the node of the pod. -/
structure CacheEntry where
  version : Nat
  dataPlaneReady : Bool

/-- A pod that the lister gives back. -/
structure ListedPod where
  name : GoString
  pod : Object Pod
  dataPlaneReady : Bool

/-- A call that fails, and whether the server did its work before. -/
structure Fault where
  applied : Bool
  error : Failure

inductive Event (ρ : Type) where
  | claim (n : Nat) (template : Template) (req : ClaimRequest ρ)
  | list (n : Nat) (fault : Option Failure) (cache : List CacheEntry) (pick : Nat)
  | prepare (n : Nat) (io : Answers)
  | update (n : Nat) (fault : Option Fault)
  /-- The answer of the network provider, and what the delete after an error does. -/
  | apply (n : Nat) (fault : Option Failure) (cleanup : Option DeleteEffect)
  | sweep (m : Nat) (kind : SweepKind) (nameSpace podName desiredTemplateHash : GoString)
  | get (m : Nat) (fault : Option Failure) (now : Int)
  | delete (m : Nat) (fault : Option Fault) (effect : DeleteEffect)
  /-- The rest of the system: pods come and go, and are written to. -/
  | create (key : PodKey) (pod : Pod)
  | write (key : PodKey) (pod : Pod)
  | remove (key : PodKey)

/-! ## The steps of a claim -/

/-- The attempts of `claimIdlePodBackoff` and of `retry.DefaultRetry`. -/
def claimSteps : Nat := 3
def sweepSteps : Nat := 5

def World.putClaim (w : World ρ) (n : Nat) (c : Claim ρ) : World ρ :=
  { w with claims := w.claims.insert n c }

/-- `retry.OnError`: another attempt after a conflict, as long as there are some left. -/
def Claim.failed (c : Claim ρ) (e : Failure) : Claim ρ :=
  if e.reason = .conflict ∧ 1 < c.attempts then
    { c with attempts := c.attempts - 1, stage := .list }
  else { c with stage := .done (.error e) }

/-- `errNoIdlePod`. -/
def Claim.noIdlePod (c : Claim ρ) : Claim ρ := { c with stage := .done (.ok none) }

def Claim.updateFailed (c : Claim ρ) (e : Failure) : Claim ρ :=
  if isIdlePodLostDuringClaim e then c.noIdlePod else c.failed e

def newClaim (template : Template) (req : ClaimRequest ρ) : Claim ρ :=
  match template.specHash with
  | .error e =>
    { template, sent := req, req, desiredTemplateHash := [], attempts := claimSteps
      stage := .done (.error (e.wrap (lit "compute template hash"))) }
  | .ok hash =>
    { template, sent := req, req, desiredTemplateHash := hash, attempts := claimSteps,
      stage := .list }

/-- `podLister.Pods(namespace).List`, for the labels of an idle pod of the template. -/
def listPods (history : List (PodKey × Object Pod)) (template : Template)
    (cache : List CacheEntry) : List ListedPod :=
  cache.filterMap fun x =>
    match history[x.version]? with
    | none => none
    | some ((nameSpace, name), pod) =>
      if nameSpace = template.nameSpace ∧ pod.value.labels[labelTemplateID]? = some template.name ∧
          pod.value.idle then
        some { name, pod, dataPlaneReady := x.dataPlaneReady }
      else none

def Claim.ready (c : Claim ρ) (pods : List ListedPod) : List ListedPod :=
  pods.filter fun x => isHotClaimableIdlePod x.pod.value x.dataPlaneReady c.desiredTemplateHash

def Claim.listed (c : Claim ρ) (fault : Option Failure) (pods : List ListedPod)
    (pick : Nat) : Claim ρ :=
  match fault with
  | some e => c.failed e
  | none =>
    match (c.ready pods)[pick % (c.ready pods).length]? with
    | none => c.noIdlePod
    | some x => { c with stage := .prepare x.name x.pod }

def Claim.prepared (svc : Service ρ) (c : Claim ρ) (name : GoString) (pod : Object Pod)
    (io : Answers) : Claim ρ :=
  let after := { c with req := requestAfter svc c.req io }
  match prepareClaim svc c.template c.req name pod.value io with
  | .error e => after.failed e
  | .ok new => { after with stage := .update name pod new c.req }

/-- What the server says about a write to a version that is not current. -/
def World.refusal (w : World ρ) (key : PodKey) : Failure :=
  match w.store.objects key with
  | none => { reason := .notFound, text := lit "not found" }
  | some _ => { reason := .conflict, text := lit "the object has been modified" }

def World.update (w : World ρ) (n : Nat) (c : Claim ρ) (name : GoString) (old : Object Pod)
    (new : Pod) (used : ClaimRequest ρ) (fault : Option Fault) : World ρ :=
  let key := (c.template.nameSpace, name)
  if ∃ f ∈ fault, f.applied = false then
    w.putClaim n (c.updateFailed ((fault.map (·.error)).getD { reason := .other, text := [] }))
  else if w.store.IsCurrent key old then
    let store := w.store.write key old.uid new
    let entry : Claimed ρ :=
      { claim := n, sent := c.sent, used, uid := old.uid, stored := store.objects key }
    let written : World ρ := { w with store, claimed := entry :: w.claimed }
    match fault with
    | some f => written.putClaim n (c.updateFailed f.error)
    | none =>
      let stored : Object Pod :=
        { uid := old.uid, resourceVersion := w.store.revision + 1, value := new }
      written.putClaim n { c with stage := .apply name stored }
  else w.putClaim n (c.updateFailed (w.refusal key))

def deleteObject (store : ObjectStore PodKey Pod) (key : PodKey) :
    DeleteEffect → ObjectStore PodKey Pod
  | .remove => store.remove key
  | .mark now =>
    match store.objects key with
    | none => store
    | some o =>
      store.write key o.uid
      { o.value with deletionTimestamp := some (o.value.deletionTimestamp.getD now) }

/-- The network provider has answered. After an error the claim asks for the deletion
of the pod, by its name. -/
def World.applied (w : World ρ) (n : Nat) (c : Claim ρ) (name : GoString) (stored : Object Pod)
    (fault : Option Failure) (cleanup : Option DeleteEffect) : World ρ :=
  match fault with
  | none => w.putClaim n { c with stage := .done (.ok (some stored)) }
  | some e =>
    let store :=
      match cleanup with
      | none => w.store
      | some effect => deleteObject w.store (c.template.nameSpace, name) effect
    let cleaned : World ρ := { w with store }
    cleaned.putClaim n (c.failed (e.wrap (lit "apply network policy")))

/-! ## The steps of the upkeep -/

def World.putSweep (w : World ρ) (m : Nat) (s : Sweep) : World ρ :=
  { w with sweeps := w.sweeps.insert m s }

/-- `retry.OnError`, for conflicts and for writes that are not valid. -/
def Sweep.failed (s : Sweep) (e : Failure) : Sweep :=
  if (e.reason = .conflict ∨ e.reason = .invalid) ∧ 1 < s.attempts then
    { s with attempts := s.attempts - 1, stage := .get }
  else { s with stage := .done (.error e) }

/-- The read of the pod. A pod that is gone, or that the check does not select, is left alone. -/
def World.get (w : World ρ) (s : Sweep) (fault : Option Failure) (now : Int) : Sweep :=
  match fault with
  | some e => if e.reason = .notFound then { s with stage := .done (.ok false) } else s.failed e
  | none =>
    match w.store.objects (s.nameSpace, s.podName) with
    | none => { s with stage := .done (.ok false) }
    | some o =>
      if s.selects o.value now then { s with stage := .delete o }
      else { s with stage := .done (.ok false) }

def Sweep.deleted (s : Sweep) (e : Failure) : Sweep :=
  if e.reason = .notFound then { s with stage := .done (.ok false) } else s.failed e

/-- The delete, with the uid and the version that were read. -/
def World.delete (w : World ρ) (m : Nat) (s : Sweep) (o : Object Pod) (fault : Option Fault)
    (effect : DeleteEffect) : World ρ :=
  let key := (s.nameSpace, s.podName)
  if ∃ f ∈ fault, f.applied = false then
    w.putSweep m (s.deleted ((fault.map (·.error)).getD { reason := .other, text := [] }))
  else if w.store.IsCurrent key o then
    let entry : Deletion := { uid := o.uid, afterClaim := w.claimed.any (·.uid = o.uid) }
    let gone : World ρ :=
      { w with store := deleteObject w.store key effect, deletions := entry :: w.deletions }
    match fault with
    | some f => gone.putSweep m (s.deleted f.error)
    | none => gone.putSweep m { s with stage := .done (.ok true) }
  else w.putSweep m (s.deleted (w.refusal key))

/-! ## Runs -/

/-- One step. An event that does not fit the state changes nothing, and the rest of the
system never makes a pod idle that was not. -/
def World.next (svc : Service ρ) (w : World ρ) : Event ρ → World ρ
  | .claim n template req => if w.claims[n]?.isNone then w.putClaim n (newClaim template req) else w
  | .list n fault cache pick =>
    match w.claims[n]? with
    | none => w
    | some c =>
      match c.stage with
      | .list => w.putClaim n (c.listed fault (listPods w.store.history c.template cache) pick)
      | _ => w
  | .prepare n io =>
    match w.claims[n]? with
    | none => w
    | some c =>
      match c.stage with
      | .prepare name pod => w.putClaim n (c.prepared svc name pod io)
      | _ => w
  | .update n fault =>
    match w.claims[n]? with
    | none => w
    | some c =>
      match c.stage with
      | .update name old new used => w.update n c name old new used fault
      | _ => w
  | .apply n fault cleanup =>
    match w.claims[n]? with
    | none => w
    | some c =>
      match c.stage with
      | .apply name stored => w.applied n c name stored fault cleanup
      | _ => w
  | .sweep m kind nameSpace podName desiredTemplateHash =>
    if w.sweeps[m]?.isNone then
      w.putSweep m { kind, nameSpace, podName, desiredTemplateHash, attempts := sweepSteps,
                     stage := .get }
    else w
  | .get m fault now =>
    match w.sweeps[m]? with
    | none => w
    | some s =>
      match s.stage with
      | .get => w.putSweep m (w.get s fault now)
      | _ => w
  | .delete m fault effect =>
    match w.sweeps[m]? with
    | none => w
    | some s =>
      match s.stage with
      | .delete o => w.delete m s o fault effect
      | _ => w
  | .create key pod =>
    if (w.store.objects key).isNone then { w with store := w.store.create key pod } else w
  | .write key pod =>
    match w.store.objects key with
    | none => w
    | some o =>
      if pod.idle ∧ ¬ o.value.idle then w else { w with store := w.store.write key o.uid pod }
  | .remove key => { w with store := w.store.remove key }

def World.start : World ρ where
  store := .empty
  claims := ∅
  sweeps := ∅
  claimed := []
  deletions := []

def World.Reached (svc : Service ρ) : World ρ → Prop :=
  Reach (· = World.start) (fun w e w' => w' = w.next svc e) (fun _ _ => True)

/-! ## The pod that a claim writes -/

/-- The annotations of a claim that say nothing about who claimed it. -/
def otherAnnotations : List GoString :=
  [annotationSafeToEvict, annotationSandboxID, annotationClaimedAt, annotationClaimType,
    annotationWebhookStateVolumeID, annotationExpiresAt, annotationHardExpiresAt,
    annotationNetworkPolicy, annotationNetworkPolicyHash, annotationNetworkPolicyAppliedHash]

/-- The annotations that say who claimed the pod, and with what. -/
def ownAnnotations : List GoString := [annotationTeamID, annotationUserID, annotationConfig]

lemma own_ne_other : ∀ a ∈ ownAnnotations, ∀ k ∈ otherAnnotations, k ≠ a := by decide +kernel

lemma own_nodup : ownAnnotations.Nodup := by decide +kernel

lemma team_mem : annotationTeamID ∈ ownAnnotations := by simp [ownAnnotations]

lemma user_mem : annotationUserID ∈ ownAnnotations := by simp [ownAnnotations]

lemma config_mem : annotationConfig ∈ ownAnnotations := by simp [ownAnnotations]

variable {m : GoMap GoString GoString} {a k : GoString} {history : List (PodKey × Object Pod)}

lemma get_insert_other (ha : a ∈ ownAnnotations) (hk : k ∈ otherAnnotations) (v : GoString) :
    (m.insert k v)[a]? = m[a]? :=
  get_insert_ne m v (own_ne_other a ha k hk)

lemma get_setOrDelete_other (ha : a ∈ ownAnnotations) (hk : k ∈ otherAnnotations)
    (v : Option GoString) : (setOrDelete m k v)[a]? = m[a]? := by
  cases v with
  | some v => exact get_insert_other ha hk v
  | none => exact get_erase_ne m (own_ne_other a ha k hk)

lemma get_setNetworkPolicyAnnotations (svc : Service ρ) (ha : a ∈ ownAnnotations)
    (policyText : GoString) : (setNetworkPolicyAnnotations svc m policyText)[a]? = m[a]? := by
  have hkept : ∀ v,
    (setOrDelete (m.insert annotationNetworkPolicy policyText) annotationNetworkPolicyHash v)[a]? =
      m[a]? := by
    intro v
    rw [get_setOrDelete_other ha (by simp [otherAnnotations]),
      get_insert_other ha (by simp [otherAnnotations])]
  unfold setNetworkPolicyAnnotations
  dsimp only
  split
  · rw [get_erase_ne _ (own_ne_other a ha _ (by simp [otherAnnotations])), hkept]
  · exact hkept _

section

variable (svc : Service ρ) (name : GoString) (req : ClaimRequest ρ) (now : Int)
  (stateVolume : Option GoString) (m : GoMap GoString GoString)

lemma get_claimAnnotations_none :
    (claimAnnotations svc name req now stateVolume none m)[annotationTeamID]? = some req.teamID ∧
      (claimAnnotations svc name req now stateVolume none m)[annotationUserID]? =
        some req.userID := by
  have hne : annotationUserID ≠ annotationTeamID := by
    intro h
    have := own_nodup
    simp [ownAnnotations, h] at this
  unfold claimAnnotations
  dsimp only
  constructor
  · rw [get_setOrDelete_other team_mem (by simp [otherAnnotations]),
      get_insert_other team_mem (by simp [otherAnnotations]),
      get_insert_other team_mem (by simp [otherAnnotations]), get_insert_ne _ _ hne,
      get_insert_self]
  · rw [get_setOrDelete_other user_mem (by simp [otherAnnotations]),
      get_insert_other user_mem (by simp [otherAnnotations]),
      get_insert_other user_mem (by simp [otherAnnotations]), get_insert_self]

/-- The annotations name the team and the user, and hold the configuration. -/
lemma get_claimAnnotations (persisted : Option (SandboxConfig ρ × GoString)) :
    let annotations := claimAnnotations svc name req now stateVolume persisted m
    annotations[annotationTeamID]? = some req.teamID ∧
      annotations[annotationUserID]? = some req.userID ∧
      ∀ x ∈ persisted, annotations[annotationConfig]? = some x.2 := by
  obtain ⟨hteam, huser⟩ := get_claimAnnotations_none svc name req now stateVolume m
  rcases persisted with _ | ⟨config, configJSON⟩
  · exact ⟨hteam, huser, nofun⟩
  have hkept : ∀ a ∈ ownAnnotations, a ≠ annotationConfig →
      (claimAnnotations svc name req now stateVolume (some (config, configJSON)) m)[a]? =
        (claimAnnotations svc name req now stateVolume none m)[a]? := by
    intro a ha hne
    unfold claimAnnotations setExpirationAnnotation setHardExpirationAnnotation
    dsimp only
    rw [get_insert_ne _ _ hne.symm, get_setOrDelete_other ha (by simp [otherAnnotations]),
      get_setOrDelete_other ha (by simp [otherAnnotations])]
  have hnodup := own_nodup
  simp only [ownAnnotations, nodup_cons, mem_cons, not_mem_nil, or_false, not_or] at hnodup
  refine ⟨?_, ?_, ?_⟩
  · rw [hkept _ team_mem hnodup.1.2, hteam]
  · rw [hkept _ user_mem hnodup.2.1, huser]
  · rintro x hx
    cases hx
    unfold claimAnnotations
    exact get_insert_self ..

end

/-- The configuration that a request leaves behind: its own, with the TTL of the service
where it has none and without the bindings of its policy, or only the TTL of the service. -/
def Keeps (svc : Service ρ) (req : ClaimRequest ρ) (kept : SandboxConfig ρ) : Prop :=
  match req.config with
  | some config =>
    kept = { config with
      ttl := config.ttl.or (if 0 < svc.defaultTTL then some (svc.defaultTTL / 1000000000) else none)
      network := config.network.map fun policy => { policy with credentialBindings := [] } }
  | none =>
    0 < svc.defaultTTL ∧ kept = { ttl := some (svc.defaultTTL / 1000000000), hardTTL := none,
                                  network := none, webhook := none, rest := svc.noRest }

/-- A pod has the annotations of a request: its team, its user and its configuration. -/
structure CarriesRequest (svc : Service ρ) (req : ClaimRequest ρ) (pod : Pod) : Prop where
  teamID : pod.annotations[annotationTeamID]? = some req.teamID
  userID : pod.annotations[annotationUserID]? = some req.userID
  config : ∀ kept, Keeps svc req kept →
    ∃ configJSON, svc.marshalConfig kept = .ok configJSON ∧
      pod.annotations[annotationConfig]? = some configJSON

lemma claimedPod_idle (name : GoString) (pod : Pod) (annotations : GoMap GoString GoString) :
    (claimedPod name pod annotations).idle = false := by
  have hne : labelSandboxID ≠ labelPoolType := by decide +kernel
  have hactive : poolTypeActive ≠ poolTypeIdle := by decide +kernel
  unfold claimedPod Pod.idle
  rw [get_insert_ne _ _ hne, get_insert_self]
  simp [hactive]

variable {req : ClaimRequest ρ} {name : GoString} {pod new : Pod} {key : PodKey} {o : Object Pod}
  {history' : List (PodKey × Object Pod)}

lemma Keeps.claimConfigForPersistence_eq {svc : Service ρ} {kept : SandboxConfig ρ}
    (h : Keeps svc req kept) : claimConfigForPersistence svc req.config = some kept := by
  unfold Keeps at h
  unfold claimConfigForPersistence
  dsimp only
  cases hconfig : req.config with
  | none =>
    rw [hconfig] at h
    obtain ⟨hdefault, rfl⟩ := h
    simp [hdefault, not_le.mpr hdefault]
  | some config =>
    rw [hconfig] at h
    rw [h]
    cases httl : config.ttl with
    | none =>
      by_cases hdefault : 0 < svc.defaultTTL <;> simp [cloneSandboxConfig, httl, hdefault] <;> rfl
    | some ttl =>
      simp [cloneSandboxConfig, httl]
      rfl

lemma marshalPersisted_ok {svc : Service ρ} {persisted : Option (SandboxConfig ρ × GoString)}
    (h : marshalPersisted svc req = .ok persisted) {config : SandboxConfig ρ}
    (hkept : Keeps svc req config) :
    ∃ configJSON, svc.marshalConfig config = .ok configJSON ∧
      persisted = some (config, configJSON) := by
  simp only [marshalPersisted, hkept.claimConfigForPersistence_eq] at h
  rcases hjson : svc.marshalConfig config with e | configJSON
  · rw [hjson] at h
    cases h
  · rw [hjson] at h
    cases h
    exact ⟨configJSON, rfl, rfl⟩

lemma prepareClaim_ok {svc : Service ρ} {template : Template} {io : Answers}
    (h : prepareClaim svc template req name pod io = .ok new) :
    new.idle = false ∧ CarriesRequest svc req new := by
  unfold prepareClaim at h
  split at h
  · cases h
  rename_i stateVolume hvolume
  split at h
  · cases h
  rename_i persisted hpersisted
  obtain ⟨hteam, huser, hjson⟩ :=
    get_claimAnnotations svc name req io.now stateVolume pod.annotations persisted
  have hconfig : ∀ config, Keeps svc req config →
      ∃ configJSON, svc.marshalConfig config = .ok configJSON ∧
        (claimAnnotations svc name req io.now stateVolume persisted
          pod.annotations)[annotationConfig]? = some configJSON := by
    intro config hconfig
    obtain ⟨configJSON, hmarshal, rfl⟩ := marshalPersisted_ok hpersisted hconfig
    exact ⟨configJSON, hmarshal, hjson _ rfl⟩
  dsimp only at h
  split at h
  · cases h
    exact ⟨claimedPod_idle .., hteam, huser, hconfig⟩
  split at h
  · cases h
  split at h
  · cases h
  cases h
  refine ⟨claimedPod_idle .., ?_, ?_, ?_⟩
  · exact (get_setNetworkPolicyAnnotations svc team_mem _).trans hteam
  · exact (get_setNetworkPolicyAnnotations svc user_mem _).trans huser
  · intro config hsome
    obtain ⟨configJSON, hmarshal, hget⟩ := hconfig config hsome
    exact ⟨configJSON, hmarshal, (get_setNetworkPolicyAnnotations svc config_mem _).trans hget⟩

/-! ## What every run keeps -/

/-- The request is the one that was sent, with the host of its webhook written into its
policy by earlier attempts. -/
def SentAs (svc : Service ρ) (sent req : ClaimRequest ρ) : Prop :=
  ∃ j, req = (ClaimRequest.applied svc.parsers)^[j] sent

/-- The pod that an update stored has the annotations of its claim. -/
def Claimed.Carries (svc : Service ρ) (e : Claimed ρ) : Prop :=
  SentAs svc e.sent e.used ∧ ∃ o, e.stored = some o ∧ o.uid = e.uid ∧
    CarriesRequest svc e.used o.value

/-- The store, the updates of claims and the deletes of the upkeep. -/
structure Ledger (svc : Service ρ) (store : ObjectStore PodKey Pod) (claimed : List (Claimed ρ))
    (deletions : List Deletion) : Prop where
  sound : store.Sound
  uid_le : ∀ e ∈ claimed, e.uid ≤ store.revision
  active : ∀ e ∈ claimed, ∀ key o, store.objects key = some o → o.uid = e.uid → o.value.idle = false
  once : (claimed.map (·.uid)).Nodup
  carries : ∀ e ∈ claimed, e.Carries svc
  kept : ∀ d ∈ deletions, d.afterClaim = false

def Claim.StageOk (svc : Service ρ) (history : List (PodKey × Object Pod))
    (claimed : List (Claimed ρ)) (n : Nat) (c : Claim ρ) : Prop :=
  match c.stage with
  | .list => True
  | .prepare name pod => ((c.template.nameSpace, name), pod) ∈ history ∧ pod.value.idle = true
  | .update name old new used =>
    ((c.template.nameSpace, name), old) ∈ history ∧ old.value.idle = true ∧ new.idle = false ∧
      CarriesRequest svc used new ∧ SentAs svc c.sent used
  | .apply _ stored => ∃ e ∈ claimed, e.claim = n ∧ e.sent = c.sent ∧ e.uid = stored.uid
  | .done (.ok (some o)) => ∃ e ∈ claimed, e.claim = n ∧ e.sent = c.sent ∧ e.uid = o.uid
  | .done _ => True

structure Claim.Ok (svc : Service ρ) (history : List (PodKey × Object Pod))
    (claimed : List (Claimed ρ)) (n : Nat) (c : Claim ρ) : Prop where
  sent : SentAs svc c.sent c.req
  stage : c.StageOk svc history claimed n

def Sweep.Ok (history : List (PodKey × Object Pod)) (s : Sweep) : Prop :=
  ∀ o, s.stage = .delete o → ((s.nameSpace, s.podName), o) ∈ history ∧ o.value.idle = true

structure World.Inv (svc : Service ρ) (w : World ρ) : Prop where
  ledger : Ledger svc w.store w.claimed w.deletions
  claims : ∀ (n : Nat) (c : Claim ρ), w.claims[n]? = some c → c.Ok svc w.store.history w.claimed n
  sweeps : ∀ (i : Nat) (s : Sweep), w.sweeps[i]? = some s → s.Ok w.store.history

variable {svc : Service ρ} {w : World ρ} {n : Nat} {c : Claim ρ} {s : Sweep}
  {store : ObjectStore PodKey Pod} {claimed : List (Claimed ρ)} {deletions : List Deletion}

lemma Claim.Ok.mono {claimed claimed' : List (Claimed ρ)} (hhistory : history ⊆ history')
    (hclaimed : claimed ⊆ claimed') (h : c.Ok svc history claimed n) :
    c.Ok svc history' claimed' n := by
  refine ⟨h.sent, ?_⟩
  have hstage := h.stage
  unfold StageOk at hstage ⊢
  split at hstage
  · trivial
  · exact ⟨hhistory hstage.1, hstage.2⟩
  · exact ⟨hhistory hstage.1, hstage.2⟩
  · obtain ⟨e, he, hn, huid⟩ := hstage
    exact ⟨e, hclaimed he, hn, huid⟩
  · obtain ⟨e, he, hn, huid⟩ := hstage
    exact ⟨e, hclaimed he, hn, huid⟩
  · trivial

lemma Sweep.Ok.mono (hhistory : history ⊆ history')
    (h : s.Ok history) : s.Ok history' := fun o ho => ⟨hhistory (h o ho).1, (h o ho).2⟩

/-! ## The ledger -/

open ObjectStore

section

variable (h : Ledger svc store claimed deletions)

include h

lemma Ledger.create (key : PodKey) (pod : Pod) :
    Ledger svc (store.create key pod) claimed deletions := by
  refine ⟨h.sound.create key pod, fun e he => Nat.le_succ_of_le (h.uid_le e he), ?_, h.once,
    h.carries, h.kept⟩
  intro e he key' o ho huid
  rcases of_objects_put ho with ⟨-, rfl⟩ | ⟨-, ho⟩
  · have := h.uid_le e he
    dsimp only at huid
    omega
  · exact h.active e he key' o ho huid

lemma Ledger.write {cur : Object Pod}
    (hcur : store.objects key = some cur) (hidle : cur.value.idle = false → pod.idle = false) :
    Ledger svc (store.write key cur.uid pod) claimed deletions := by
  refine ⟨h.sound.write hcur pod, fun e he => Nat.le_succ_of_le (h.uid_le e he), ?_, h.once,
    h.carries, h.kept⟩
  intro e he key' o ho huid
  rcases of_objects_put ho with ⟨-, rfl⟩ | ⟨-, ho⟩
  · exact hidle (h.active e he key cur hcur huid)
  · exact h.active e he key' o ho huid

lemma Ledger.remove (key : PodKey) : Ledger svc (store.remove key) claimed deletions :=
  ⟨h.sound.remove key, fun e he => Nat.le_succ_of_le (h.uid_le e he),
    fun e he key' o ho huid => h.active e he key' o (of_objects_remove ho) huid, h.once, h.carries,
    h.kept⟩

lemma Ledger.deleteObject (key : PodKey) (effect : DeleteEffect) :
    Ledger svc (deleteObject store key effect) claimed deletions := by
  cases effect with
  | remove => exact h.remove key
  | mark now =>
    unfold manager.deleteObject
    dsimp only
    split
    · exact h
    · rename_i o ho
      exact h.write ho fun hidle => hidle

lemma Ledger.not_claimed (hcached : (key, o) ∈ store.history) (hidle : o.value.idle = true)
    (hcur : store.IsCurrent key o) : ∀ e ∈ claimed, e.uid ≠ o.uid := by
  intro e he huid
  have hactive := h.active e he key o (h.sound.eq_of_isCurrent hcached hcur) huid.symm
  rw [hidle] at hactive
  cases hactive

/-- An update of a claim, from a version that was idle and is still current. -/
lemma Ledger.claim {old : Object Pod} {n : Nat} {sent used : ClaimRequest ρ}
    (hcached : (key, old) ∈ store.history) (hidle : old.value.idle = true)
    (hcur : store.IsCurrent key old) (hnew : new.idle = false)
    (hcarries : CarriesRequest svc used new) (hsent : SentAs svc sent used) :
    Ledger svc (store.write key old.uid new)
      ({ claim := n, sent, used, uid := old.uid,
         stored := (store.write key old.uid new).objects key } :: claimed)
      deletions := by
  have hstored := h.sound.eq_of_isCurrent hcached hcur
  have hfree := h.not_claimed hcached hidle hcur
  have hwritten : Ledger svc (store.write key old.uid new) claimed deletions :=
    h.write hstored (by simp [hidle])
  refine ⟨hwritten.sound, ?_, ?_, nodup_cons.mpr ⟨by simpa using hfree, h.once⟩, ?_, h.kept⟩
  · exact forall_mem_cons.mpr ⟨Nat.le_succ_of_le (h.sound.uid_le key old hcached), hwritten.uid_le⟩
  · intro e he key' o ho huid
    rcases mem_cons.mp he with rfl | he
    · rcases of_objects_put ho with ⟨-, rfl⟩ | ⟨hkey, ho⟩
      · exact hnew
      · exact absurd (h.sound.place key' o key old (h.sound.stored key' o ho) hcached huid) hkey
    · exact hwritten.active e he key' o ho huid
  · exact forall_mem_cons.mpr ⟨⟨hsent, _, objects_put .., rfl, hcarries⟩, h.carries⟩

lemma Ledger.delete (hread : (key, o) ∈ store.history)
    (hidle : o.value.idle = true) (hcur : store.IsCurrent key o) (effect : DeleteEffect) :
    Ledger svc (manager.deleteObject store key effect) claimed
      ({ uid := o.uid, afterClaim := claimed.any (·.uid = o.uid) } :: deletions) := by
  have hgone := h.deleteObject key effect
  refine ⟨hgone.sound, hgone.uid_le, hgone.active, h.once, h.carries,
    forall_mem_cons.mpr ⟨?_, h.kept⟩⟩
  simpa using h.not_claimed hread hidle hcur

end

lemma history_subset_put (key : PodKey) (o : Object Pod) :
    store.history ⊆ (store.put key o).history :=
  fun _ hx => mem_cons_of_mem _ hx

lemma history_subset_deleteObject (key : PodKey) (effect : DeleteEffect) :
    store.history ⊆ (manager.deleteObject store key effect).history := by
  cases effect with
  | remove => exact refl _
  | mark now =>
    unfold manager.deleteObject
    dsimp only
    split
    · exact refl _
    · exact history_subset_put ..

/-! ## The steps -/

/-- The store and the ledger change, and nothing that was known is lost. -/
lemma World.Inv.restore (h : w.Inv svc) (hledger : Ledger svc store claimed deletions)
    (hhistory : w.store.history ⊆ store.history) (hclaimed : w.claimed ⊆ claimed) :
    Inv svc { w with store, claimed, deletions } :=
  ⟨hledger, fun n c hc => (h.claims n c hc).mono hhistory hclaimed,
    fun i s hs => (h.sweeps i s hs).mono hhistory⟩

lemma World.Inv.putClaim (h : w.Inv svc) (hc : c.Ok svc w.store.history w.claimed n) :
    (w.putClaim n c).Inv svc :=
  ⟨h.ledger, all_insert hc h.claims, h.sweeps⟩

lemma World.Inv.putSweep (h : w.Inv svc) {i : Nat}
    (hs : s.Ok w.store.history) : (w.putSweep i s).Inv svc :=
  ⟨h.ledger, h.claims, all_insert hs h.sweeps⟩

variable {history : List (PodKey × Object Pod)}

lemma Claim.failed_ok (hsent : SentAs svc c.sent c.req) (e : Failure) :
    (c.failed e).Ok svc history claimed n := by
  unfold failed
  split <;> exact ⟨hsent, trivial⟩

lemma Claim.updateFailed_ok (hsent : SentAs svc c.sent c.req) (e : Failure) :
    (c.updateFailed e).Ok svc history claimed n := by
  unfold updateFailed
  split
  · exact ⟨hsent, trivial⟩
  · exact failed_ok hsent e

lemma newClaim_ok (template : Template) (req : ClaimRequest ρ) :
    (newClaim template req).Ok svc history claimed n := by
  unfold newClaim
  split <;> exact ⟨⟨0, rfl⟩, trivial⟩

lemma mem_listPods {template : Template} {cache : List CacheEntry} {x : ListedPod}
    (h : x ∈ listPods history template cache) :
    ((template.nameSpace, x.name), x.pod) ∈ history ∧ x.pod.value.idle = true := by
  obtain ⟨entry, -, hx⟩ := mem_filterMap.mp h
  split at hx
  · cases hx
  rename_i nameSpace name pod hget
  split at hx
  · rename_i hselected
    cases hx
    refine ⟨?_, hselected.2.2⟩
    rw [← hselected.1]
    exact mem_of_getElem? hget
  · cases hx

lemma Claim.listed_ok (hsent : SentAs svc c.sent c.req) (fault : Option Failure)
    (cache : List CacheEntry) (pick : Nat) :
    (c.listed fault (listPods history c.template cache) pick).Ok svc history claimed n := by
  unfold listed
  split
  · exact failed_ok hsent _
  split
  · exact ⟨hsent, trivial⟩
  · rename_i x hx
    exact ⟨hsent, mem_listPods (mem_of_mem_filter (mem_of_getElem? hx))⟩

lemma SentAs.requestAfter {sent : ClaimRequest ρ} (h : SentAs svc sent req) (io : Answers) :
    SentAs svc sent (requestAfter svc req io) := by
  obtain ⟨j, rfl⟩ := h
  unfold manager.requestAfter
  split
  · split
    · exact ⟨j + 1, (Function.iterate_succ_apply' ..).symm⟩
    · exact ⟨j, rfl⟩
  · exact ⟨j, rfl⟩

lemma Claim.prepared_ok (hsent : SentAs svc c.sent c.req) {pod : Object Pod}
    (hcached : ((c.template.nameSpace, name), pod) ∈ history) (hidle : pod.value.idle = true)
    (io : Answers) : (c.prepared svc name pod io).Ok svc history claimed n := by
  unfold prepared
  dsimp only
  split
  · exact failed_ok (hsent.requestAfter io) _
  · rename_i new hnew
    obtain ⟨hactive, hcarries⟩ := prepareClaim_ok hnew
    exact ⟨hsent.requestAfter io, hcached, hidle, hactive, hcarries, hsent⟩

open World Claim

/-- The update of a claim: refused, applied with or without an answer, or out of date. -/
lemma World.Inv.update (h : w.Inv svc) (hc : w.claims[n]? = some c) {old : Object Pod}
    {used : ClaimRequest ρ} (hstage : c.stage = .update name old new used) (fault : Option Fault) :
    (w.update n c name old new used fault).Inv svc := by
  obtain ⟨hsent, hok⟩ := h.claims n c hc
  unfold StageOk at hok
  rw [hstage] at hok
  obtain ⟨hcached, hidle, hnew, hcarries, hused⟩ := hok
  unfold World.update
  dsimp only
  split
  · exact h.putClaim (updateFailed_ok hsent _)
  split
  · rename_i hcur
    have hwritten := h.restore (h.ledger.claim (n := n) hcached hidle hcur hnew hcarries hused)
      (history_subset_put ..) (subset_cons_self ..)
    split
    · exact hwritten.putClaim (updateFailed_ok hsent _)
    · exact hwritten.putClaim ⟨hsent, _, mem_cons_self, rfl, rfl, rfl⟩
  · exact h.putClaim (updateFailed_ok hsent _)

lemma World.Inv.applied (h : w.Inv svc) (hc : w.claims[n]? = some c) {stored : Object Pod}
    (hstage : c.stage = .apply name stored) (fault : Option Failure)
    (cleanup : Option DeleteEffect) : (w.applied n c name stored fault cleanup).Inv svc := by
  obtain ⟨hsent, hok⟩ := h.claims n c hc
  unfold StageOk at hok
  rw [hstage] at hok
  unfold World.applied
  split
  · exact h.putClaim ⟨hsent, hok⟩
  dsimp only
  split
  · exact h.putClaim (failed_ok hsent _)
  · rename_i effect
    exact (h.restore (h.ledger.deleteObject _ effect) (history_subset_deleteObject _ effect)
      (refl _)).putClaim (failed_ok hsent _)

lemma Sweep.failed_ok (e : Failure) : (s.failed e).Ok history := by
  unfold failed
  split <;> rintro o ⟨⟩

lemma Sweep.deleted_ok (e : Failure) : (s.deleted e).Ok history := by
  unfold deleted
  split
  · rintro o ⟨⟩
  · exact failed_ok e

lemma Sweep.idle_of_selects {now : Int} (h : s.selects pod now = true) : pod.idle = true := by
  unfold selects at h
  split at h <;> exact (of_decide_eq_true h).1

open Sweep

lemma World.Inv.get_ok (h : w.Inv svc) (fault : Option Failure) (now : Int) :
    (w.get s fault now).Ok w.store.history := by
  unfold get
  split
  · split
    · rintro o ⟨⟩
    · exact failed_ok _
  split
  · rintro o ⟨⟩
  rename_i o ho
  split
  · rename_i hselects
    rintro o' ⟨⟩
    exact ⟨h.ledger.sound.stored _ o ho, idle_of_selects hselects⟩
  · rintro o' ⟨⟩

lemma World.Inv.delete (h : w.Inv svc) {i : Nat} (hs : w.sweeps[i]? = some s)
    (hstage : s.stage = .delete o) (fault : Option Fault) (effect : DeleteEffect) :
    (w.delete i s o fault effect).Inv svc := by
  obtain ⟨hread, hidle⟩ := h.sweeps i s hs o hstage
  unfold World.delete
  dsimp only
  split
  · exact h.putSweep (deleted_ok _)
  split
  · rename_i hcur
    have hgone := h.restore (h.ledger.delete hread hidle hcur effect)
      (history_subset_deleteObject _ effect) (refl _)
    split
    · exact hgone.putSweep (deleted_ok _)
    · exact hgone.putSweep (by rintro o ⟨⟩)
  · exact h.putSweep (deleted_ok _)

lemma World.Inv.next (h : w.Inv svc) (e : Event ρ) : (w.next svc e).Inv svc := by
  cases e with rw [World.next]
  | claim n template req =>
    split
    · exact h.putClaim (newClaim_ok template req)
    · exact h
  | list n fault cache pick =>
    split
    · exact h
    rename_i c hc
    split
    · exact h.putClaim (listed_ok (h.claims n c hc).sent fault cache pick)
    · exact h
  | prepare n io =>
    split
    · exact h
    rename_i c hc
    split
    · rename_i name pod hstage
      obtain ⟨hsent, hok⟩ := h.claims n c hc
      unfold StageOk at hok
      rw [hstage] at hok
      exact h.putClaim (prepared_ok hsent hok.1 hok.2 io)
    · exact h
  | update n fault =>
    split
    · exact h
    rename_i c hc
    split
    · rename_i hstage
      exact h.update hc hstage fault
    · exact h
  | apply n fault cleanup =>
    split
    · exact h
    rename_i c hc
    split
    · rename_i hstage
      exact h.applied hc hstage fault cleanup
    · exact h
  | sweep i kind nameSpace podName desiredTemplateHash =>
    split
    · exact h.putSweep (by rintro o ⟨⟩)
    · exact h
  | get i fault now =>
    split
    · exact h
    · split
      · exact h.putSweep (h.get_ok fault now)
      · exact h
  | delete i fault effect =>
    split
    · exact h
    rename_i s hs
    split
    · rename_i hstage
      exact h.delete hs hstage fault effect
    · exact h
  | create key pod =>
    split
    · exact h.restore (h.ledger.create key pod) (history_subset_put ..) (refl _)
    · exact h
  | write key pod =>
    split
    · exact h
    rename_i o ho
    split
    · exact h
    rename_i hallowed
    refine h.restore (h.ledger.write ho fun hidle => ?_) (history_subset_put ..) (refl _)
    by_contra hpod
    exact hallowed ⟨Bool.eq_true_of_not_eq_false hpod, by simp [hidle]⟩
  | remove key =>
    exact h.restore (h.ledger.remove key) (refl _) (refl _)

lemma World.inv_start : (start : World ρ).Inv svc where
  ledger :=
    { sound := ObjectStore.sound_empty
      uid_le := fun _ he => absurd he not_mem_nil
      active := fun _ he => absurd he not_mem_nil
      once := .nil
      carries := fun _ he => absurd he not_mem_nil
      kept := fun _ hd => absurd hd not_mem_nil }
  claims n c hc := by simp [start] at hc
  sweeps i s hs := by simp [start] at hs

lemma World.Reached.inv (h : Reached svc w) : w.Inv svc := by
  refine Reach.keeps ?_ (fun w e hw _ => hw.next e) h
  rintro w rfl
  exact inv_start

def World.Returned (w : World ρ) (n : Nat) (o : Object Pod) : Prop :=
  ∃ c, w.claims[n]? = some c ∧ c.stage = .done (.ok (some o))

lemma World.Inv.claimed_of_returned (h : w.Inv svc) (hreturned : w.Returned n o) :
    ∃ e ∈ w.claimed, e.claim = n ∧ e.uid = o.uid ∧ ∀ c, w.claims[n]? = some c →
      e.sent = c.sent := by
  obtain ⟨c, hc, hstage⟩ := hreturned
  have hok := (h.claims n c hc).stage
  unfold StageOk at hok
  rw [hstage] at hok
  obtain ⟨e, he, hn, hsent, huid⟩ := hok
  refine ⟨e, he, hn, huid, fun c' hc' => ?_⟩
  rw [hc] at hc'
  cases hc'
  exact hsent

/-- A service without policies and volumes. Its JSON only says whether the configuration has
a TTL of a minute and no bindings. -/
def plainService : Service Unit where
  parsers := { parseCIDR := fun _ => none, ipString := fun _ => [], urlHostname := fun _ => none,
               parseIP := fun _ => none, isDuration := fun _ => false }
  defaultTTL := 60000000000
  noRest := ()
  marshalConfig config :=
    .ok (if config.ttl = some 60 ∧ ∀ policy ∈ config.network, policy.credentialBindings = [] then
      lit "kept" else [])
  marshalPolicy _ := .ok []
  policyAnnotationHash _ := []
  format _ := []
  buildsPolicies := false
  hasStateVolumes := false

def plainTemplate : Template where
  nameSpace := lit "ns"
  name := lit "tpl"
  network := none
  specHash := .ok (lit "h1")

def idlePod : Pod where
  labels := (∅ : GoMap GoString GoString).insert labelTemplateID (lit "tpl") |>.insert
    labelPoolType poolTypeIdle
  annotations := (∅ : GoMap GoString GoString).insert annotationTemplateSpecHash (lit "h1")
  finalizers := []
  ownerReferences := [lit "rs"]
  deletionTimestamp := none
  creationTimestamp := some 0
  phase := .running
  conditions := [{ type := lit "Ready", status := lit "True" }]
  readinessGates := []

def claimOf (user : GoString) : ClaimRequest Unit where
  teamID := lit "team"
  userID := user
  config := some { ttl := none, hardTTL := none, webhook := none, rest := (),
                   network := some { credentialBindings :=
                     [⟨lit "b", lit "s", ⟨.httpHeaders, none, none, none, none⟩, none⟩] } }

def plainAnswers : Answers where
  now := 0
  createVolume := .ok []
  syncCredentialBindings := none

/-- Two claims and the upkeep for another hash read one pod before any of them writes. -/
def raceForOnePod : List (Event Unit) :=
  [.create (lit "ns", lit "pod") idlePod, .claim 1 plainTemplate (claimOf (lit "ann")),
    .claim 2 plainTemplate (claimOf (lit "bob")), .list 1 none [⟨0, true⟩] 0,
    .list 2 none [⟨0, true⟩] 0,
    .sweep 1 .stale (lit "ns") (lit "pod") (lit "h2"), .get 1 none 0, .prepare 1 plainAnswers,
    .prepare 2 plainAnswers, .update 1 none, .update 2 none, .delete 1 none .remove,
    .apply 1 none none]

def raceWorld : World Unit := raceForOnePod.foldl (World.next plainService) World.start

end sandbox0.manager
