-- The network policies that the manager builds for a claim
-- (`manager/pkg/service/network_policy_service.go`). The policy of the template and
-- the one of the request are merged, checked and handed to netd, and the host of a
-- webhook is written into the policy of the request first.
import Sandbox0.EgressRuntime
import Sandbox0.NetdRules

namespace sandbox0.manager

open sandbox0.net sandbox0.netd.policy List
open sandbox0.egressauth
  (ProjectionSpec CredentialProjectionType ProjectedHeader SSHProxyProjection)

/-! ## Policies and requests -/

/-- `v1alpha1.CredentialBinding`. -/
structure CredentialBinding where
  ref : GoString
  sourceRef : GoString
  projection : ProjectionSpec
  /-- `CachePolicy.TTL`. -/
  cachePolicy : Option GoString
  deriving DecidableEq

structure SandboxNetworkPolicy where
  mode : NetworkPolicyMode := .unset
  egress : Option NetworkEgressPolicy := none
  credentialBindings : List CredentialBinding := []

structure WebhookConfig where
  url : GoString
  secret : GoString
  watchDir : GoString

/-- The configuration of a claim. `rest` stands for the fields that the claim only
hands on: the environment, the gateway and the flag for resuming. -/
structure SandboxConfig (ρ : Type) where
  ttl : Option Int
  hardTTL : Option Int
  network : Option SandboxNetworkPolicy
  webhook : Option WebhookConfig
  rest : ρ

structure ClaimRequest (ρ : Type) where
  teamID : GoString
  userID : GoString
  config : Option (SandboxConfig ρ)

structure BuildNetworkPolicyResult where
  policySpec : NetworkPolicySpec
  credentialBindings : List CredentialBinding

/-- What the standard library makes of texts. -/
structure Parsers extends Texts where
  /-- `url.Parse` and `Hostname`, or nothing when the text is no URL. -/
  urlHostname : GoString → Option GoString
  /-- `net.ParseIP`. -/
  parseIP : GoString → Option IP
  /-- Whether `time.ParseDuration` reads the text. -/
  isDuration : GoString → Bool

/-! ## Merging by name -/

section Merge

variable {α : Type} (key : α → GoString)

def indexByKey (base : List α) : GoMap GoString Nat :=
  base.zipIdx.foldl (fun m p => if key p.1 = [] then m else m.insert (key p.1) p.2) ∅

def mergeOne (s : List α × GoMap GoString Nat) (a : α) : List α × GoMap GoString Nat :=
  if key a = [] then (s.1 ++ [a], s.2)
  else
    match s.2[key a]? with
    | some i => (s.1.set i a, s.2)
    | none => (s.1 ++ [a], s.2.insert (key a) s.1.length)

/-- The overrides replace the entries of their names and follow the others. -/
def mergeByKey [DecidableEq α] (base override : List α) : List α :=
  if base = [] ∧ override = [] then []
  else if base = [] then override
  else if override = [] then base
  else (override.foldl (mergeOne key) (base, indexByKey key base)).1

end Merge

def mergeTrafficRules : List TrafficRule → List TrafficRule → List TrafficRule :=
  mergeByKey TrafficRule.name

def mergeEgressCredentialRules :
    List EgressCredentialRule → List EgressCredentialRule → List EgressCredentialRule :=
  mergeByKey EgressCredentialRule.name

def mergeCredentialBindings :
    List CredentialBinding → List CredentialBinding → List CredentialBinding :=
  mergeByKey CredentialBinding.ref

def mergeEgress (merged request : NetworkEgressPolicy) : NetworkEgressPolicy where
  allowedCIDRs := merged.allowedCIDRs ++ request.allowedCIDRs
  allowedDomains := merged.allowedDomains ++ request.allowedDomains
  deniedCIDRs := merged.deniedCIDRs ++ request.deniedCIDRs
  deniedDomains := merged.deniedDomains ++ request.deniedDomains
  allowedPorts := merged.allowedPorts ++ request.allowedPorts
  deniedPorts := merged.deniedPorts ++ request.deniedPorts
  trafficRules := mergeTrafficRules merged.trafficRules request.trafficRules
  credentialRules := mergeEgressCredentialRules merged.credentialRules request.credentialRules

def mergeNetworkPolicies :
    Option SandboxNetworkPolicy → Option SandboxNetworkPolicy → SandboxNetworkPolicy
  | none, none => { mode := .allowAll }
  | none, some request => request
  | some template, none => template
  | some template, some request =>
    { template with
      mode := if request.mode ≠ .unset then request.mode else template.mode
      egress :=
        match request.egress, template.egress with
        | none, egress => egress
        | some egress, none => some egress
        | some egress, some merged => some (mergeEgress merged egress) }

/-! ## Validation

A nil error is `none`. -/

inductive PolicyError where
  /-- egress trafficRules cannot be combined with legacy allowed*/denied* fields -/
  | mixedRules
  /-- egress traffic rule has unsupported action -/
  | unsupportedAction (name : GoString) (action : TrafficRuleAction)
  /-- egress traffic rule must define at least one matcher -/
  | noMatcher (name : GoString)
  /-- egress traffic rule is invalid: invalid CIDR -/
  | invalidCIDR (name cidr : GoString)
  /-- egress traffic rule is invalid: invalid wildcard domain -/
  | invalidWildcard (name domain : GoString)
  /-- egress traffic rule is invalid: invalid port -/
  | invalidPort (name : GoString) (port : Int)
  /-- egress traffic rule is invalid: invalid end port -/
  | invalidEndPort (name : GoString) (port : Int)
  /-- egress traffic rule is invalid: unsupported protocol -/
  | unsupportedProtocol (name protocol : GoString)
  /-- egress traffic rule is invalid: unsupported app protocol -/
  | unsupportedAppProtocol (name protocol : GoString)
  /-- duplicate egress traffic rule name -/
  | duplicateTrafficRule (name : GoString)
  /-- credential binding ref is required -/
  | refRequired
  /-- credential binding sourceRef is required -/
  | sourceRefRequired (ref : GoString)
  /-- credential binding projection.httpHeaders is required -/
  | httpHeadersRequired (ref : GoString)
  /-- credential binding projected header name is required -/
  | headerNameRequired (ref : GoString)
  /-- credential binding projected header valueTemplate is required -/
  | headerValueRequired (ref : GoString)
  /-- credential binding projection.tlsClientCertificate is required -/
  | tlsClientCertificateRequired (ref : GoString)
  /-- credential binding projection.usernamePassword is required -/
  | usernamePasswordRequired (ref : GoString)
  /-- credential binding projection.sshProxy is required -/
  | sshProxyRequired (ref : GoString)
  /-- credential binding projection.sshProxy upstreamUsername is required -/
  | upstreamUsernameRequired (ref : GoString)
  /-- credential binding projection.sshProxy sandboxPublicKeys is required -/
  | sandboxPublicKeysRequired (ref : GoString)
  /-- credential binding projection.sshProxy sandbox public key is required -/
  | sandboxPublicKeyRequired (ref : GoString)
  /-- credential binding projection type is not supported -/
  | unsupportedProjection (type ref : GoString)
  /-- credential binding cachePolicy ttl is invalid -/
  | invalidTTL (ref : GoString)
  /-- duplicate credential binding ref -/
  | duplicateRef (ref : GoString)
  /-- egress rule credentialRef is required -/
  | credentialRefRequired
  /-- egress rule credentialRef not found -/
  | credentialRefNotFound (ref : GoString)
  /-- egress rule with protocol tls requires tlsMode terminate-reoriginate -/
  | tlsModeRequired (name : GoString)
  /-- egress rule requires another projection on its credentialRef -/
  | projectionRequired (name : GoString) (protocol : EgressAuthProtocol) (ref : GoString)
  /-- duplicate egress rule name -/
  | duplicateRule (name : GoString)

variable (p : Parsers)

def cidrError (name cidr : GoString) : Option PolicyError :=
  if trimSpace cidr = [] then none
  else if p.parseCIDR (trimSpace cidr) = none then some (.invalidCIDR name cidr)
  else none

def domainError (name domain : GoString) : Option PolicyError :=
  let value := toLower (trimSpace domain)
  if value = [] then none
  else if (lit "*.").isPrefixOf value ∧ value.drop 2 = [] then some (.invalidWildcard name domain)
  else none

def portError (name : GoString) (port : PortSpec) : Option PolicyError :=
  let proto := toLower (trimSpace port.protocol)
  if port.port ≤ 0 ∨ 65535 < port.port then some (.invalidPort name port.port)
  else if ∃ stop ∈ port.endPort, stop < port.port ∨ 65535 < stop then
    some (.invalidEndPort name (port.endPort.getD 0))
  else if proto ≠ [] ∧ proto ≠ lit "tcp" ∧ proto ≠ lit "udp" then
    some (.unsupportedProtocol name port.protocol)
  else none

def appProtocolError (name protocol : GoString) : Option PolicyError :=
  if toLower (trimSpace protocol) ∈ appProtocols then none
  else some (.unsupportedAppProtocol name protocol)

def validateTrafficRule (rule : TrafficRule) : Option PolicyError :=
  rule.cidrs.findSome? (cidrError p rule.name) <|>
  rule.domains.findSome? (domainError rule.name) <|>
  rule.ports.findSome? (portError rule.name) <|>
  rule.appProtocols.findSome? (appProtocolError rule.name)

/-- One turn of the loop of `validateTrafficRuleConfig`, up to the name. -/
def trafficRuleError (rule : TrafficRule) : Option PolicyError :=
  match rule.action with
  | .other _ => some (.unsupportedAction rule.name rule.action)
  | _ =>
    if rule.cidrs = [] ∧ rule.domains = [] ∧ rule.ports = [] ∧ rule.appProtocols = [] then
      some (.noMatcher rule.name)
    else validateTrafficRule p rule

/-- A loop that checks each entry and then that its name is new. -/
def checkEach {α : Type} (key : α → GoString) (check : α → Option PolicyError)
    (duplicate : GoString → PolicyError) : List α → List GoString → Option PolicyError
  | [], _ => none
  | a :: rest, seen =>
    check a <|>
      if key a = [] then checkEach key check duplicate rest seen
      else if key a ∈ seen then some (duplicate (key a))
      else checkEach key check duplicate rest (key a :: seen)

def validateTrafficRuleConfig (policy : Option SandboxNetworkPolicy) : Option PolicyError :=
  match policy.bind (·.egress) with
  | none => none
  | some egress =>
    if egress.trafficRules ≠ [] ∧ hasLegacyTrafficLists egress then some .mixedRules
    else checkEach TrafficRule.name (trafficRuleError p) .duplicateTrafficRule
      egress.trafficRules []

def headerError (ref : GoString) (header : ProjectedHeader) : Option PolicyError :=
  if trimSpace header.name = [] then some (.headerNameRequired ref)
  else if trimSpace header.valueTemplate = [] then some (.headerValueRequired ref)
  else none

def sshProxyError (ref : GoString) (ssh : SSHProxyProjection) : Option PolicyError :=
  if trimSpace ssh.upstreamUsername = [] then some (.upstreamUsernameRequired ref)
  else if ssh.sandboxPublicKeys = [] then some (.sandboxPublicKeysRequired ref)
  else if ∃ key ∈ ssh.sandboxPublicKeys, trimSpace key = [] then
    some (.sandboxPublicKeyRequired ref)
  else none

def validateProjection (ref : GoString) (projection : ProjectionSpec) : Option PolicyError :=
  match projection.type with
  | .httpHeaders =>
    match projection.httpHeaders with
    | none => some (.httpHeadersRequired ref)
    | some headers => headers.findSome? (headerError ref)
  | .tlsClientCertificate =>
    if projection.tlsClientCertificate.isNone then
      some (.tlsClientCertificateRequired ref) else none
  | .usernamePassword =>
    if projection.usernamePassword.isNone then some (.usernamePasswordRequired ref) else none
  | .sshProxy =>
    match projection.sshProxy with
    | none => some (.sshProxyRequired ref)
    | some ssh => sshProxyError ref ssh
  | .other text => some (.unsupportedProjection text ref)

/-- One turn of the loop over the bindings, up to the ref. -/
def bindingError (binding : CredentialBinding) : Option PolicyError :=
  if binding.ref = [] then some .refRequired
  else if trimSpace binding.sourceRef = [] then some (.sourceRefRequired binding.ref)
  else
    validateProjection binding.ref binding.projection <|>
      if ∃ ttl ∈ binding.cachePolicy, trimSpace ttl ≠ [] ∧ ¬ p.isDuration (trimSpace ttl) then
        some (.invalidTTL binding.ref)
      else none

def requiredProjection : EgressAuthProtocol → Option CredentialProjectionType
  | .tls => some .tlsClientCertificate
  | .socks5 | .mqtt | .redis => some .usernamePassword
  | .ssh => some .sshProxy
  | _ => none

/-- One turn of the loop over the credential rules, up to the name. -/
def credentialRuleError (bindings : List CredentialBinding) (rule : EgressCredentialRule) :
    Option PolicyError :=
  if rule.credentialRef = [] then some .credentialRefRequired
  else if bindings ≠ [] ∧ rule.credentialRef ∉ bindings.map (·.ref) then
    some (.credentialRefNotFound rule.credentialRef)
  else if rule.protocol = .tls ∧ rule.tlsMode ≠ .terminateReoriginate then
    some (.tlsModeRequired rule.name)
  else
    match requiredProjection rule.protocol with
    | none => none
    | some type =>
      if (bindings.find? (·.ref = rule.credentialRef)).map (·.projection.type) = some type then none
      else some (.projectionRequired rule.name rule.protocol rule.credentialRef)

/-- `validateNetworkCredentialConfig`, with the credential rules of the policy. -/
def validateNetworkCredentialConfig (rules : List EgressCredentialRule)
    (bindings : List CredentialBinding) : Option PolicyError :=
  checkEach CredentialBinding.ref (bindingError p) .duplicateRef bindings [] <|>
  checkEach EgressCredentialRule.name (credentialRuleError bindings) .duplicateRule rules []

/-! ## Building the state of a sandbox -/

def SandboxNetworkPolicy.mapEgress (policy : SandboxNetworkPolicy)
    (f : NetworkEgressPolicy → NetworkEgressPolicy) : SandboxNetworkPolicy :=
  { policy with egress := policy.egress.map f }

/-- Traffic rules that are not valid are dropped, all of them. -/
def dropInvalidTrafficRules (policy : SandboxNetworkPolicy) : SandboxNetworkPolicy :=
  if validateTrafficRuleConfig p (some policy) = none then policy
  else policy.mapEgress fun egress => { egress with trafficRules := [] }

def SandboxNetworkPolicy.credentialRules
    (policy : SandboxNetworkPolicy) : List EgressCredentialRule :=
  (policy.egress.map (·.credentialRules)).getD []

def buildNetworkPolicyState (sandboxID teamID : GoString)
    (templateSpec requestSpec : Option SandboxNetworkPolicy)
    (templateBindings requestBindings : List CredentialBinding) : BuildNetworkPolicyResult :=
  let merged := dropInvalidTrafficRules p (mergeNetworkPolicies templateSpec requestSpec)
  let bindings := mergeCredentialBindings templateBindings requestBindings
  let valid := validateNetworkCredentialConfig p merged.credentialRules bindings = none
  let merged :=
    if valid then merged else merged.mapEgress fun egress => { egress with credentialRules := [] }
  { policySpec := { sandboxID, teamID, mode := merged.mode, egress := merged.egress }
    credentialBindings := if valid then bindings else [] }

/-- The URL of `getWebhookInfo`. -/
def getWebhookInfo {ρ : Type} (req : ClaimRequest ρ) : Option GoString :=
  match req.config.bind (·.webhook) with
  | none => none
  | some webhook => if trimSpace webhook.url = [] then none else some (trimSpace webhook.url)

def formatCIDRForIP (ip : IP) : GoString :=
  if (to4 ip).isSome then p.ipString ip ++ lit "/32" else p.ipString ip ++ lit "/128"

def allowHost (host : GoString) (egress : NetworkEgressPolicy) : NetworkEgressPolicy :=
  match p.parseIP host with
  | some ip => { egress with allowedCIDRs := egress.allowedCIDRs ++ [formatCIDRForIP p ip] }
  | none => { egress with allowedDomains := egress.allowedDomains ++ [host] }

/-- The host that a URL writes into a policy. -/
def webhookHost (webhookURL : GoString) : Option GoString :=
  if webhookURL = [] then none
  else
    match p.urlHostname webhookURL with
    | none => none
    | some host => if host = [] then none else some host

/-- `appendWebhookNetworkPolicy`. A policy that is there is changed in place. -/
def appendWebhookNetworkPolicy (requestNetwork : Option SandboxNetworkPolicy)
    (webhookURL : GoString) : Option SandboxNetworkPolicy :=
  match webhookHost p webhookURL with
  | none => requestNetwork
  | some host =>
    let network := requestNetwork.getD {}
    some { network with egress := some (allowHost p host (network.egress.getD {})) }

/-- The policy of the request as `applyPoliciesForPod` hands it on. -/
def ClaimRequest.withWebhook {ρ : Type} (req : ClaimRequest ρ) : Option SandboxNetworkPolicy :=
  let requestNetwork := req.config.bind (·.network)
  match getWebhookInfo req with
  | none => requestNetwork
  | some url => appendWebhookNetworkPolicy p requestNetwork url

/-- The request after `applyPoliciesForPod`. The policy that the webhook changes in
place is the one of the request, where it has one. -/
def ClaimRequest.applied {ρ : Type} (req : ClaimRequest ρ) : ClaimRequest ρ :=
  { req with
    config := req.config.map fun config =>
      { config with network := if config.network.isSome then req.withWebhook p else none } }

/-- `applyPoliciesForPod`, up to the annotations. -/
def applyPoliciesForPod {ρ : Type} (sandboxID : GoString)
    (templateNetwork : Option SandboxNetworkPolicy) (req : ClaimRequest ρ) :
    BuildNetworkPolicyResult :=
  buildNetworkPolicyState p sandboxID req.teamID templateNetwork (req.withWebhook p)
    ((templateNetwork.map (·.credentialBindings)).getD [])
    (((req.config.bind (·.network)).map (·.credentialBindings)).getD [])

/-- The policy that a claim ends with whose first attempts ended in conflicts. -/
def policyAfterRetries {ρ : Type} (retries : Nat) (sandboxID : GoString)
    (templateNetwork : Option SandboxNetworkPolicy) (req : ClaimRequest ρ) : NetworkPolicySpec :=
  (applyPoliciesForPod p sandboxID templateNetwork
    ((ClaimRequest.applied p)^[retries] req)).policySpec

/-! ## What a merge keeps -/

section MergeLemmas

variable {α : Type} {key : α → GoString}

/-- The names of a list are different where they are not empty. -/
def DistinctKeys (key : α → GoString) (l : List α) : Prop :=
  l.Pairwise fun a b => key a ≠ [] → key a ≠ key b

/-- No entry has the name of one of the others. -/
def RedefinesNone (key : α → GoString) (base override : List α) : Prop :=
  ∀ a ∈ override, key a ≠ [] → ∀ b ∈ base, key b ≠ key a

lemma foldl_index_of_get {pairs : List (α × Nat)} {m : GoMap GoString Nat} {k : GoString} {i : Nat}
    (h : (pairs.foldl (fun m p => if key p.1 = [] then m else m.insert (key p.1) p.2) m)[k]? =
      some i) :
    m[k]? = some i ∨ ∃ q ∈ pairs, key q.1 = k := by
  induction pairs generalizing m with
  | nil => exact .inl h
  | cons q pairs ih =>
    rcases ih h with hm | ⟨q', hq', hk⟩
    · dsimp only at hm
      split at hm
      · exact .inl hm
      · rcases GoMap.of_get_insert hm with ⟨hk, -⟩ | ⟨-, hm⟩
        · exact .inr ⟨q, mem_cons_self, hk.symm⟩
        · exact .inl hm
    · exact .inr ⟨q', mem_cons_of_mem _ hq', hk⟩

variable {base override l : List α}

lemma indexByKey_of_get {k : GoString} {i : Nat} (h : (indexByKey key base)[k]? = some i) :
    ∃ b ∈ base, key b = k := by
  rcases foldl_index_of_get h with hm | ⟨q, hq, hk⟩
  · simp at hm
  · exact ⟨q.1, fst_mem_of_mem_zipIdx hq, hk⟩

/-- The index holds names of the list only, so a name that is new is not in it. -/
lemma foldl_mergeOne {m : GoMap GoString Nat}
    (hindex : ∀ k i, m[k]? = some i → ∃ b ∈ l, key b = k) (hnew : RedefinesNone key l override)
    (hdistinct : DistinctKeys key override) :
    (override.foldl (mergeOne key) (l, m)).1 = l ++ override := by
  induction override generalizing l m with
  | nil => simp
  | cons a override ih =>
    obtain ⟨hfirst, hrest⟩ := pairwise_cons.mp hdistinct
    have hstep : ∃ m', mergeOne key (l, m) a = (l ++ [a], m') ∧
        ∀ k i, m'[k]? = some i → ∃ b ∈ l ++ [a], key b = k := by
      have hkept : ∀ k i, m[k]? = some i → ∃ b ∈ l ++ [a], key b = k := by
        intro k i hk
        obtain ⟨b, hb, rfl⟩ := hindex k i hk
        exact ⟨b, mem_append_left _ hb, rfl⟩
      by_cases hname : key a = []
      · exact ⟨m, by simp only [mergeOne, if_pos hname], hkept⟩
      have hfree : m[key a]? = none := by
        rcases hget : m[key a]? with _ | i
        · rfl
        · obtain ⟨b, hb, hk⟩ := hindex _ _ hget
          exact absurd hk (hnew a mem_cons_self hname b hb)
      exact ⟨m.insert (key a) l.length, by simp only [mergeOne, if_neg hname, hfree],
        GoMap.all_insert ⟨a, by simp, rfl⟩ hkept⟩
    obtain ⟨m', hm', hindex'⟩ := hstep
    have hnew' : RedefinesNone key (l ++ [a]) override := by
      intro x hx hname b hb
      rcases mem_append.mp hb with hb | hb
      · exact hnew x (mem_cons_of_mem _ hx) hname b hb
      rw [mem_singleton] at hb
      subst hb
      by_cases hb : key b = []
      · rw [hb]
        exact Ne.symm hname
      · exact hfirst x hx hb
    rw [foldl_cons, hm', ih hindex' hnew' hrest, append_assoc]
    rfl

lemma mergeByKey_eq_append [DecidableEq α] (hnew : RedefinesNone key base override)
    (hdistinct : DistinctKeys key override) : mergeByKey key base override = base ++ override := by
  unfold mergeByKey
  split
  · rename_i hnil
    rw [hnil.1, hnil.2]
    rfl
  split
  · rename_i hbase
    rw [hbase]
    rfl
  split
  · rename_i hover
    rw [hover, append_nil]
  · exact foldl_mergeOne (fun _ _ => indexByKey_of_get) hnew hdistinct

@[simp] lemma mergeByKey_nil_right [DecidableEq α] (base : List α) :
    mergeByKey key base [] = base := by
  rw [mergeByKey_eq_append (fun _ ha => absurd ha not_mem_nil) .nil, append_nil]

lemma checkEach_eq_none {check : α → Option PolicyError} {duplicate : GoString → PolicyError}
    {seen : List GoString} : checkEach key check duplicate l seen = none ↔
      (∀ a ∈ l, check a = none) ∧ DistinctKeys key l ∧ ∀ a ∈ l, key a ≠ [] → key a ∉ seen := by
  induction l generalizing seen with
  | nil => simp [checkEach, DistinctKeys]
  | cons a l ih =>
    unfold checkEach DistinctKeys
    rw [Option.orElse_eq_none, pairwise_cons, forall_mem_cons, forall_mem_cons]
    by_cases hname : key a = []
    · rw [if_pos hname, ih]
      simp only [hname, ne_eq, not_true_eq_false, IsEmpty.forall_iff, implies_true, true_and]
      exact and_assoc.symm
    rw [if_neg hname]
    by_cases hseen : key a ∈ seen
    · simp [hname, hseen]
    rw [if_neg hseen, ih]
    unfold DistinctKeys
    constructor
    · rintro ⟨ha, hl, hd, hs⟩
      refine ⟨⟨ha, hl⟩, ⟨fun b hb _ hab => ?_, hd⟩, fun _ => hseen, fun b hb hb' hmem => ?_⟩
      · exact hs b hb (hab ▸ hname) (hab ▸ mem_cons_self)
      · exact hs b hb hb' (mem_cons_of_mem _ hmem)
    · rintro ⟨⟨ha, hl⟩, ⟨hfirst, hd⟩, -, hs⟩
      refine ⟨ha, hl, hd, fun b hb hb' hmem => ?_⟩
      rcases mem_cons.mp hmem with hab | hmem
      · exact hfirst b hb hname hab.symm
      · exact hs b hb hb' hmem

lemma DistinctKeys.append (hbase : DistinctKeys key base) (hover : DistinctKeys key override)
    (hnew : RedefinesNone key base override) : DistinctKeys key (base ++ override) := by
  refine pairwise_append.mpr ⟨hbase, hover, ?_⟩
  intro b hb a ha hname hab
  exact hnew a ha (hab ▸ hname) b hb hab

end MergeLemmas

/-! ## The policy of a template with traffic rules -/

def egressOf (policy : Option SandboxNetworkPolicy) : NetworkEgressPolicy :=
  (policy.bind (·.egress)).getD {}

/-- The mode of a policy merged into one of the mode `mode`. -/
def mergedMode (mode : NetworkPolicyMode)
    (request : Option SandboxNetworkPolicy) : NetworkPolicyMode :=
  match request with
  | none => mode
  | some request => if request.mode ≠ .unset then request.mode else mode

variable {p : Parsers}

variable {template policy : SandboxNetworkPolicy} {egress a b : NetworkEgressPolicy} {α : Type}
    {d : Destination} {texts : Texts} {mode : NetworkPolicyMode} {rules : List TrafficRule}
  {own : List CompiledTrafficRule} {l' : List α} {rule' : CompiledTrafficRule}

lemma mergeNetworkPolicies_egress (h : template.egress = some egress)
    (request : Option SandboxNetworkPolicy) :
    (mergeNetworkPolicies (some template) request).egress =
      some (mergeEgress egress (egressOf request)) := by
  have hnone : mergeEgress egress {} = egress := by
    simp [mergeEgress, mergeTrafficRules, mergeEgressCredentialRules]
  rcases request with _ | request
  · simp [mergeNetworkPolicies, egressOf, h, hnone]
  · rcases hreq : request.egress with _ | e
    · simp [mergeNetworkPolicies, egressOf, h, hreq, hnone]
    · simp [mergeNetworkPolicies, egressOf, h, hreq]

lemma mergeNetworkPolicies_mode (template : SandboxNetworkPolicy)
    (request : Option SandboxNetworkPolicy) :
    (mergeNetworkPolicies (some template) request).mode = mergedMode template.mode request := by
  rcases request with _ | request <;> rfl

/-- A valid policy with traffic rules has no legacy lists, and its rules pass their checks. -/
structure Valid (p : Parsers) (egress : NetworkEgressPolicy) : Prop where
  unmixed : egress.trafficRules = [] ∨ hasLegacyTrafficLists egress = false
  rules : ∀ rule ∈ egress.trafficRules, trafficRuleError p rule = none
  names : DistinctKeys TrafficRule.name egress.trafficRules

lemma valid_iff (h : policy.egress = some egress) :
    validateTrafficRuleConfig p (some policy) = none ↔ Valid p egress := by
  simp only [validateTrafficRuleConfig, Option.bind_some, h]
  split
  case isTrue hmixed =>
    refine iff_of_false (by simp) fun hvalid => ?_
    rcases hvalid.unmixed with hnil | hlists
    · exact hmixed.1 hnil
    · rw [hlists] at hmixed
      exact absurd hmixed.2 (by simp)
  case isFalse hmixed =>
    rw [checkEach_eq_none]
    constructor
    · rintro ⟨hrules, hnames, -⟩
      refine ⟨?_, hrules, hnames⟩
      rwa [not_and_or, not_not, Bool.not_eq_true] at hmixed
    · rintro ⟨-, hrules, hnames⟩
      exact ⟨hrules, hnames, by simp⟩

lemma valid_egressOf {policy : Option SandboxNetworkPolicy}
    (h : validateTrafficRuleConfig p policy = none) : Valid p (egressOf policy) := by
  rcases hegress : policy.bind (·.egress) with _ | egress
  · rw [egressOf, hegress]
    exact ⟨.inl rfl, fun _ hrule => absurd hrule not_mem_nil, .nil⟩
  · obtain ⟨policy, rfl, hsome⟩ := Option.bind_eq_some_iff.mp hegress
    rw [egressOf, hegress]
    exact (valid_iff hsome).mp h

/-- Two egress parts that differ at most in how often they allow a network or a domain. -/
structure Alike (a b : NetworkEgressPolicy) : Prop where
  allowedCIDRs : ∀ x, x ∈ a.allowedCIDRs ↔ x ∈ b.allowedCIDRs
  allowedDomains : ∀ x, x ∈ a.allowedDomains ↔ x ∈ b.allowedDomains
  deniedCIDRs : a.deniedCIDRs = b.deniedCIDRs
  deniedDomains : a.deniedDomains = b.deniedDomains
  allowedPorts : a.allowedPorts = b.allowedPorts
  deniedPorts : a.deniedPorts = b.deniedPorts
  trafficRules : a.trafficRules = b.trafficRules
  credentialRules : a.credentialRules = b.credentialRules

lemma eq_nil_congr {l : List α} (h : ∀ x, x ∈ l ↔ x ∈ l') : l = [] ↔ l' = [] := by
  simp only [eq_nil_iff_forall_not_mem, h]

lemma Alike.hasLists (h : Alike a b) : hasLegacyTrafficLists a = hasLegacyTrafficLists b := by
  simp only [hasLegacyTrafficLists, ne_eq, eq_nil_congr h.allowedCIDRs,
    eq_nil_congr h.allowedDomains, h.deniedCIDRs, h.deniedDomains, h.allowedPorts, h.deniedPorts]

lemma any_congr_mem {l : List α} (h : ∀ x, x ∈ l ↔ x ∈ l') (f : α → Bool) : l.any f = l'.any f := by
  rw [Bool.eq_iff_iff, List.any_eq_true, List.any_eq_true]
  simp only [h]

lemma collect_congr_mem {ε β : Type} {f : α → Except ε (List β)} {l : List α}
    (h : ∀ x, x ∈ l ↔ x ∈ l') {outs : List (List β)} (houts : l.mapM f = .ok outs) :
    ∃ outs', l'.mapM f = .ok outs' ∧ ∀ b, b ∈ outs.flatten ↔ b ∈ outs'.flatten := by
  obtain ⟨outs', houts'⟩ := mapM_ok_of_all (l := l') fun a ha => ok_of_mapM_ok houts ((h a).mpr ha)
  refine ⟨outs', houts', fun b => ?_⟩
  simp only [mem_flatten, mem_of_mapM_ok houts, mem_of_mapM_ok houts', h]

open Destination

lemma matchTrafficRule_congr {rule : CompiledTrafficRule}
    (hcidrs : ∀ x, x ∈ rule.cidrs ↔ x ∈ rule'.cidrs) (hports : rule.ports = rule'.ports)
    (hdomains : ∀ x, x ∈ rule.domains ↔ x ∈ rule'.domains)
    (happ : rule.appProtocols = rule'.appProtocols) (d : Destination) :
    d.matchedBy rule = d.matchedBy rule' := by
  have hnets : ∀ ip, matchCIDR ip rule.cidrs = matchCIDR ip rule'.cidrs := by
    intro ip
    rcases ip with _ | ip
    · rfl
    · exact any_congr_mem hcidrs _
  have hhost : ∀ host, matchDomain host rule.domains = matchDomain host rule'.domains := fun host =>
    any_congr_mem hdomains _
  simp only [matchedBy, matchTrafficRule, hnets, hhost, hports, happ, eq_nil_congr hcidrs,
    eq_nil_congr hdomains]

/-- What traffic rules and a mode say about a destination. -/
def allowedBy (rules : List CompiledTrafficRule) (mode : NetworkPolicyMode)
    (d : Destination) : Bool :=
  evaluateTrafficRules rules mode d.ip d.port.toNat d.transportName d.host
    (normalized d.appProtocol)

lemma allowedBy_single {rule : CompiledTrafficRule} (haction : rule.action = rule'.action)
    (hmatch : d.matchedBy rule = d.matchedBy rule') (mode : NetworkPolicyMode) :
    allowedBy [rule] mode d = allowedBy [rule'] mode d := by
  unfold matchedBy at hmatch
  simp only [allowedBy, evaluateTrafficRules, find?_cons, find?_nil, hmatch]
  cases matchTrafficRule rule' d.ip d.port.toNat d.transportName d.host
    (normalized d.appProtocol) with
  | true => simp only [haction]
  | false => rfl

/-- The legacy lists of a policy compile and deny the destination. -/
def listsDeny (texts : Texts) (mode : NetworkPolicyMode) (lists : NetworkEgressPolicy)
    (d : Destination) : Bool :=
  match compileLegacyTrafficRules texts mode lists with
  | .ok rules => !allowedBy rules mode d
  | .error _ => false

lemma listsDeny_iff {lists : NetworkEgressPolicy} : listsDeny texts mode lists d = true ↔
      ∃ rules, compileLegacyTrafficRules texts mode lists = .ok rules ∧
        allowedBy rules mode d = false := by
  unfold listsDeny
  rcases compileLegacyTrafficRules texts mode lists with e | rules <;> simp

lemma compileLegacyAllowRules_congr (h : Alike a b) {rules : List CompiledTrafficRule}
    (hrules : compileLegacyAllowRules texts a.allowedCIDRs a.allowedPorts
      a.allowedDomains = .ok rules) :
    ∃ rules', compileLegacyAllowRules texts b.allowedCIDRs b.allowedPorts
      b.allowedDomains = .ok rules' ∧
      ∀ mode d, allowedBy rules mode d = allowedBy rules' mode d := by
  unfold compileLegacyAllowRules at hrules ⊢
  split at hrules
  case isTrue hempty =>
    rw [eq_nil_congr h.allowedCIDRs, h.allowedPorts, eq_nil_congr h.allowedDomains] at hempty
    cases hrules
    exact ⟨[], by rw [if_pos hempty]; rfl, fun _ _ => rfl⟩
  case isFalse hsome =>
    rw [eq_nil_congr h.allowedCIDRs, h.allowedPorts, eq_nil_congr h.allowedDomains] at hsome
    obtain ⟨cidrs, hcidrs, hrules⟩ := of_bind_ok hrules
    obtain ⟨ports, hports, hrules⟩ := of_bind_ok hrules
    obtain ⟨domains, hdomains, hrules⟩ := of_bind_ok hrules
    cases hrules
    obtain ⟨nets, hnets, hcidrs⟩ := of_bind_ok hcidrs
    obtain ⟨hosts, hhosts, hdomains⟩ := of_bind_ok hdomains
    cases hcidrs
    cases hdomains
    obtain ⟨nets', hnets', hsame⟩ := collect_congr_mem h.allowedCIDRs hnets
    obtain ⟨hosts', hhosts', hsame'⟩ := collect_congr_mem h.allowedDomains hhosts
    rw [h.allowedPorts] at hports
    refine ⟨[{ name := lit "legacy-allow", action := .allow, cidrs := nets'.flatten, ports,
               domains := hosts'.flatten }], ?_, ?_⟩
    · rw [if_neg hsome]
      simp only [parseCIDRs, parseDomains, hnets', hports, hhosts']
      rfl
    · intro mode d
      exact allowedBy_single (by rfl) (matchTrafficRule_congr hsame (by rfl) hsame' (by rfl) d) mode

lemma Alike.symm (h : Alike a b) : Alike b a :=
  ⟨fun x => (h.allowedCIDRs x).symm, fun x => (h.allowedDomains x).symm, h.deniedCIDRs.symm,
    h.deniedDomains.symm, h.allowedPorts.symm, h.deniedPorts.symm, h.trafficRules.symm,
    h.credentialRules.symm⟩

lemma Alike.listsDeny_of (h : Alike a b) (hdeny : listsDeny texts mode a d = true) :
    listsDeny texts mode b d = true := by
  rw [listsDeny_iff] at hdeny ⊢
  obtain ⟨rules, hrules, hallowed⟩ := hdeny
  unfold compileLegacyTrafficRules at hrules ⊢
  split at hrules
  case h_1 | h_2 =>
    rw [h.deniedCIDRs, h.deniedPorts, h.deniedDomains] at hrules
    exact ⟨rules, hrules, hallowed⟩
  case h_3 =>
    obtain ⟨rules', hrules', hsame⟩ := compileLegacyAllowRules_congr h hrules
    exact ⟨rules', hrules', by rw [← hsame, hallowed]⟩
  case h_4 => cases hrules

lemma Alike.listsDeny (h : Alike a b) (d : Destination) :
    listsDeny texts mode a d = true ↔ listsDeny texts mode b d = true :=
  ⟨h.listsDeny_of, h.symm.listsDeny_of⟩

/-! ## Webhooks and retries -/

open ClaimRequest

section Requests

variable {ρ : Type}

def ClaimRequest.network (req : ClaimRequest ρ) : Option SandboxNetworkPolicy :=
  req.config.bind (·.network)

/-- The host that the webhook of the request writes into its policy. -/
def ClaimRequest.host (p : Parsers) (req : ClaimRequest ρ) : Option GoString :=
  (getWebhookInfo req).bind (webhookHost p)

lemma withWebhook_of_none {req : ClaimRequest ρ} (h : req.host p = none) :
    req.withWebhook p = req.network := by
  unfold ClaimRequest.host at h
  unfold withWebhook
  rcases hinfo : getWebhookInfo req with _ | url
  · rfl
  · rw [hinfo, Option.bind_some] at h
    simp only [appendWebhookNetworkPolicy, h]
    rfl

lemma withWebhook_of_some {req : ClaimRequest ρ} {host : GoString} (h : req.host p = some host) :
    req.withWebhook p =
      some { req.network.getD {} with
        egress := some (allowHost p host (egressOf req.network)) } := by
  unfold ClaimRequest.host at h
  unfold withWebhook
  obtain ⟨url, hinfo, hhost⟩ := Option.bind_eq_some_iff.mp h
  have hegress : (req.network.getD {}).egress.getD {} = egressOf req.network := by
    rcases hnetwork : req.network with _ | network <;> rfl
  rw [← hegress]
  simp only [hinfo, appendWebhookNetworkPolicy, hhost]
  rfl

section

variable (req : ClaimRequest ρ)

lemma getWebhookInfo_applied : getWebhookInfo (req.applied p) = getWebhookInfo req := by
  rcases hconfig : req.config with _ | config <;> simp [getWebhookInfo, applied, hconfig]

lemma host_applied : (req.applied p).host p = req.host p := by
  rw [ClaimRequest.host, ClaimRequest.host, getWebhookInfo_applied]

lemma network_applied :
    (req.applied p).network = if req.network.isSome then req.withWebhook p else none := by
  rcases hconfig : req.config with _ | config <;> simp [network, applied, hconfig]

/-- Two requests that `applyPoliciesForPod` makes the same of, up to how often a
host is allowed. -/
structure SamePolicies (p : Parsers) (a b : ClaimRequest ρ) : Prop where
  teamID : a.teamID = b.teamID
  host : a.host p = b.host p
  mode : ∀ mode, mergedMode mode (a.withWebhook p) = mergedMode mode (b.withWebhook p)
  bindings : (a.network.map (·.credentialBindings)).getD [] =
    (b.network.map (·.credentialBindings)).getD []
  egress : Alike (egressOf (a.withWebhook p)) (egressOf (b.withWebhook p))

lemma Alike.refl (a : NetworkEgressPolicy) : Alike a a :=
  ⟨fun _ => Iff.rfl, fun _ => Iff.rfl, rfl, rfl, rfl, rfl, rfl, rfl⟩

lemma Alike.trans {a b c : NetworkEgressPolicy} (h : Alike a b) (h' : Alike b c) : Alike a c :=
  ⟨fun x => (h.allowedCIDRs x).trans (h'.allowedCIDRs x),
    fun x => (h.allowedDomains x).trans (h'.allowedDomains x), h.deniedCIDRs.trans h'.deniedCIDRs,
    h.deniedDomains.trans h'.deniedDomains, h.allowedPorts.trans h'.allowedPorts,
    h.deniedPorts.trans h'.deniedPorts, h.trafficRules.trans h'.trafficRules,
    h.credentialRules.trans h'.credentialRules⟩

lemma allowHost_twice (host : GoString) (egress : NetworkEgressPolicy) :
    Alike (allowHost p host (allowHost p host egress)) (allowHost p host egress) := by
  unfold allowHost
  rcases p.parseIP host with _ | ip
  · refine ⟨fun _ => Iff.rfl, fun x => ?_, rfl, rfl, rfl, rfl, rfl, rfl⟩
    simp only [List.mem_append, List.mem_singleton, or_assoc, or_self]
  · refine ⟨fun x => ?_, fun _ => Iff.rfl, rfl, rfl, rfl, rfl, rfl, rfl⟩
    simp only [List.mem_append, List.mem_singleton, or_assoc, or_self]

lemma samePolicies_applied : SamePolicies p (req.applied p) req := by
  rcases hhost : req.host p with _ | host
  · have hsame : (req.applied p).network = req.network := by
      rw [network_applied, withWebhook_of_none hhost]
      rcases req.network with _ | network <;> rfl
    have hweb : (req.applied p).withWebhook p = req.withWebhook p := by
      rw [withWebhook_of_none hhost, withWebhook_of_none ((host_applied req).trans hhost), hsame]
    exact ⟨rfl, host_applied req,
      fun mode => by rw [hweb], by rw [hsame], by rw [hweb]; exact .refl _⟩
  · have hweb := withWebhook_of_some hhost
    have hweb' := withWebhook_of_some ((host_applied req).trans hhost)
    rcases hnetwork : req.network with _ | network
    · have hsame : (req.applied p).network = req.network := by
        rw [network_applied, hnetwork]
        rfl
      rw [hsame, ← hweb] at hweb'
      exact ⟨rfl, host_applied req,
        fun mode => by rw [hweb'], by rw [hsame], by rw [hweb']; exact .refl _⟩
    · have happlied : (req.applied p).network = req.withWebhook p := by
        rw [network_applied, hnetwork]
        rfl
      rw [happlied, hweb] at hweb'
      refine ⟨rfl, host_applied req, fun mode => ?_, ?_, ?_⟩
      · rw [hweb, hweb']
        rfl
      · rw [happlied, hweb]
        simp [hnetwork]
      · rw [hweb, hweb']
        exact allowHost_twice host _

lemma SamePolicies.trans {a b c : ClaimRequest ρ} (h : SamePolicies p a b)
    (h' : SamePolicies p b c) : SamePolicies p a c :=
  ⟨h.teamID.trans h'.teamID, h.host.trans h'.host, fun mode => (h.mode mode).trans (h'.mode mode),
    h.bindings.trans h'.bindings, h.egress.trans h'.egress⟩

lemma samePolicies_retries (retries : Nat) (req : ClaimRequest ρ) :
    SamePolicies p ((ClaimRequest.applied p)^[retries] req) req := by
  induction retries with
  | zero => exact ⟨rfl, rfl, fun _ => rfl, rfl, .refl _⟩
  | succ retries ih =>
    rw [Function.iterate_succ_apply']
    exact (samePolicies_applied _).trans ih

lemma withWebhook_mode (mode : NetworkPolicyMode) :
    mergedMode mode (req.withWebhook p) = mergedMode mode req.network := by
  rcases hhost : req.host p with _ | host
  · rw [withWebhook_of_none hhost]
  · rw [withWebhook_of_some hhost]
    rcases req.network with _ | network <;> rfl

lemma withWebhook_rules :
    (egressOf (req.withWebhook p)).trafficRules = (egressOf req.network).trafficRules ∧
      (egressOf (req.withWebhook p)).credentialRules = (egressOf req.network).credentialRules := by
  rcases hhost : req.host p with _ | host
  · rw [withWebhook_of_none hhost]
    exact ⟨rfl, rfl⟩
  · rw [withWebhook_of_some hhost]
    simp only [egressOf, Option.bind_some, Option.getD_some, allowHost]
    rcases p.parseIP host with _ | ip <;> exact ⟨rfl, rfl⟩

/-- The request writes no legacy list of its own and names no webhook with a host. -/
def ClaimRequest.WritesNoLists (p : Parsers) (req : ClaimRequest ρ) : Prop :=
  hasLegacyTrafficLists (egressOf req.network) = false ∧ req.host p = none

lemma withWebhook_hasLists :
    hasLegacyTrafficLists (egressOf (req.withWebhook p)) = false ↔ req.WritesNoLists p := by
  unfold WritesNoLists
  rcases hhost : req.host p with _ | host
  · rw [withWebhook_of_none hhost]
    simp
  · rw [withWebhook_of_some hhost]
    simp only [egressOf, Option.bind_some, Option.getD_some, allowHost]
    rcases p.parseIP host with _ | ip <;> simp [hasLegacyTrafficLists]

end

end Requests

/-! ## What netd makes of the policy -/

/-- What netd says about a destination when it is handed this policy. A policy that
does not compile is none, and without one everything is allowed. -/
def netdAllows (texts : Texts) (spec : NetworkPolicySpec) (d : Destination) : Bool :=
  allowEgressDestination texts (compileNetworkPolicy texts (some spec)).toOption d.ip d.port.toNat
    d.transport d.host d.appProtocol

def effectiveMode (mode : NetworkPolicyMode) : NetworkPolicyMode :=
  if mode = .unset then .allowAll else mode

lemma netd_denies_iff {spec : NetworkPolicySpec} (h : spec.egress = some egress) (d : Destination) :
    netdAllows texts spec d = false ↔
      ∃ c, compileEgress texts (effectiveMode spec.mode) egress = .ok c ∧
        allowedBy c.trafficRules (effectiveMode spec.mode) d = false := by
  have hunset : effectiveMode spec.mode ≠ .unset := by
    unfold effectiveMode
    split
    · simp
    · assumption
  rcases hc : compileEgress texts (effectiveMode spec.mode) egress with e | c
  · have hpolicy : compileNetworkPolicy texts (some spec) = .error e := by
      unfold effectiveMode at hc
      simp only [compileNetworkPolicy, h, hc]
      rfl
    simp [netdAllows, hpolicy, Except.toOption, allowEgressDestination]
  · obtain ⟨-, rules, auth, rfl⟩ := compileEgress_from h hc
    have hpolicy : compileNetworkPolicy texts (some spec) =
        .ok { sandboxID := spec.sandboxID, teamID := spec.teamID, mode := effectiveMode spec.mode,
              egress := { trafficRules := rules, authRules := auth } } := by
      unfold effectiveMode at hc ⊢
      simp only [compileNetworkPolicy, h, hc]
      rfl
    have hallow : netdAllows texts spec d = allowedBy rules (effectiveMode spec.mode) d := by
      simp only [netdAllows, hpolicy, Except.toOption, allowEgressDestination, platformVerdict]
      by_cases hrules : rules = []
      · -- without rules the mode decides alone
        subst hrules
        cases hmode : effectiveMode spec.mode with
        | unset => exact absurd hmode hunset
        | allowAll =>
          simp [allowedBy, evaluateTrafficRules, matchCIDR, matchPort]; cases d.ip <;> simp
        | blockAll =>
          simp [allowedBy, evaluateTrafficRules, hasExplicitL4AllowList, hasExplicitDomainAllowList]
        | other text => simp [allowedBy, evaluateTrafficRules]
      · rw [if_pos hrules]
        rfl
    rw [hallow]
    simp

lemma compileTrafficRules_ne_nil (h : compileTrafficRules texts rules = .ok own)
    (hrules : rules ≠ []) : own ≠ [] := by
  rintro rfl
  exact hrules (forall₂_nil_right_iff.mp (mapM_ok h))

lemma compileEgress_rules {c : CompiledRuleSet} (hrules : egress.trafficRules ≠ [])
    (hlists : hasLegacyTrafficLists egress = false) : compileEgress texts mode egress = .ok c ↔
      ∃ own auth, compileTrafficRules texts egress.trafficRules = .ok own ∧
        compileEgressAuthRules egress.credentialRules = .ok auth ∧
        c = { trafficRules := own, authRules := auth } := by
  unfold compileEgress
  simp only [hlists, Bool.false_eq_true, and_false, if_false]
  constructor
  · intro h
    obtain ⟨own, hown, h⟩ := of_bind_ok h
    rw [if_neg (compileTrafficRules_ne_nil hown hrules)] at h
    obtain ⟨rules, hkept, h⟩ := of_bind_ok h
    obtain ⟨auth, hauth, h⟩ := of_bind_ok h
    cases hkept
    cases h
    exact ⟨own, auth, hown, hauth, rfl⟩
  · rintro ⟨own, auth, hown, hauth, rfl⟩
    rw [hown]
    change (if own = [] then _ else _) = _
    rw [if_neg (compileTrafficRules_ne_nil hown hrules), hauth]
    rfl

lemma compileEgress_lists {c : CompiledRuleSet} (hrules : egress.trafficRules = []) :
    compileEgress texts mode egress = .ok c ↔
      ∃ rules auth, compileLegacyTrafficRules texts mode egress = .ok rules ∧
        compileEgressAuthRules egress.credentialRules = .ok auth ∧
        c = { trafficRules := rules, authRules := auth } := by
  unfold compileEgress compileTrafficRules
  simp only [hrules, ne_eq, not_true_eq_false, false_and, if_false, mapM_nil]
  change ((compileLegacyTrafficRules texts mode egress >>= fun rules =>
    compileEgressAuthRules egress.credentialRules >>= fun auth =>
    .ok { trafficRules := rules, authRules := auth }) = .ok c) ↔ _
  constructor
  · intro h
    obtain ⟨rules, hcompiled, h⟩ := of_bind_ok h
    obtain ⟨auth, hauth, h⟩ := of_bind_ok h
    cases h
    exact ⟨rules, auth, hcompiled, hauth, rfl⟩
  · rintro ⟨rules, auth, hcompiled, hauth, rfl⟩
    rw [hcompiled, hauth]
    rfl

/-- The first rule for a destination. A rule that does not compile is for none. -/
def firstMatch (texts : Texts) (rules : List TrafficRule) (d : Destination) : Option TrafficRule :=
  rules.find? fun rule =>
    match compileTrafficRule texts rule with
    | .ok compiled => d.matchedBy compiled
    | .error _ => false

/-- The first rule of a list stays the first one where more rules follow, and its
compiled rule decides. -/
lemma denied_by_firstMatch {more : List TrafficRule}
    (hown : compileTrafficRules texts (rules ++ more) = .ok own) {rule : TrafficRule}
    (hfirst : firstMatch texts rules d = some rule) (hdeny : rule.action = .deny)
    (mode : NetworkPolicyMode) : allowedBy own mode d = false := by
  have hall := mapM_ok hown
  clear hown
  suffices h : ∃ compiled, own.find? d.matchedBy = some compiled ∧ compiled.action = .deny by
    obtain ⟨compiled, hfind, haction⟩ := h
    unfold allowedBy evaluateTrafficRules
    unfold matchedBy at hfind
    rw [hfind]
    simp [haction]
  induction rules generalizing own with
  | nil => simp [firstMatch] at hfirst
  | cons value rules ih =>
    rcases hall with _ | ⟨hvalue, hrest⟩
    rename_i compiled own
    simp only [firstMatch, find?_cons, hvalue] at hfirst
    cases hmatch : d.matchedBy compiled with rw [hmatch] at hfirst
    | true =>
      cases hfirst
      exact ⟨compiled, by simp [hmatch], (compileTrafficRule_from hvalue).action.trans hdeny⟩
    | false =>
      obtain ⟨compiled', hfind, haction⟩ := ih hfirst hrest
      exact ⟨compiled', by simp [hmatch, hfind], haction⟩

/-! ## Deny rules of the template -/

def bindingsOf (policy : Option SandboxNetworkPolicy) : List CredentialBinding :=
  (policy.map (·.credentialBindings)).getD []

/-- The credential rules of both policies, unless they do not fit the bindings. -/
def keptCredentialRules (p : Parsers) (rules : List EgressCredentialRule)
    (bindings : List CredentialBinding) : List EgressCredentialRule :=
  if validateNetworkCredentialConfig p rules bindings = none then rules else []

open SandboxNetworkPolicy

lemma dropInvalidTrafficRules_egress (h : policy.egress = some egress) :
    (dropInvalidTrafficRules p policy).egress = some { egress with
        trafficRules := if validateTrafficRuleConfig p (some policy) = none then egress.trafficRules
          else [] } := by
  unfold dropInvalidTrafficRules
  split
  · exact h
  · simp [mapEgress, h]

lemma dropInvalidTrafficRules_mode (policy : SandboxNetworkPolicy) :
    (dropInvalidTrafficRules p policy).mode = policy.mode := by
  unfold dropInvalidTrafficRules
  split <;> rfl

lemma buildNetworkPolicyState_spec (h : template.egress = some egress)
    (sandboxID teamID : GoString) (request : Option SandboxNetworkPolicy)
    (templateBindings requestBindings : List CredentialBinding) :
    let merged := mergeEgress egress (egressOf request)
    let spec := (buildNetworkPolicyState p sandboxID teamID (some template) request templateBindings
      requestBindings).policySpec
    spec.mode = mergedMode template.mode request ∧
      spec.egress = some { merged with
        trafficRules :=
          if validateTrafficRuleConfig p
            (some (mergeNetworkPolicies (some template) request)) = none then
            merged.trafficRules
          else []
        credentialRules := keptCredentialRules p merged.credentialRules
          (mergeCredentialBindings templateBindings requestBindings) } := by
  have hdropped := dropInvalidTrafficRules_egress (p := p) (mergeNetworkPolicies_egress h request)
  have hmode :=
    (dropInvalidTrafficRules_mode (p := p) (mergeNetworkPolicies (some template) request)).trans
    (mergeNetworkPolicies_mode template request)
  have hrules :
    (dropInvalidTrafficRules p (mergeNetworkPolicies (some template) request)).credentialRules =
      (mergeEgress egress (egressOf request)).credentialRules := by
    rw [credentialRules, hdropped]
    rfl
  simp only [buildNetworkPolicyState, keptCredentialRules, hrules]
  split
  · exact ⟨hmode, hdropped⟩
  · refine ⟨hmode, ?_⟩
    simp [mapEgress, hdropped]

variable {request : NetworkEgressPolicy}

/-- The lists of the merged policy are those of the request where the template has none. -/
lemma mergeEgress_lists (h : hasLegacyTrafficLists egress = false) :
    mergeEgress egress request =
      { request with
        trafficRules := mergeTrafficRules egress.trafficRules request.trafficRules
        credentialRules :=
          mergeEgressCredentialRules egress.credentialRules request.credentialRules } := by
  simp only [hasLegacyTrafficLists, decide_eq_false_iff_not, not_or, not_not, ne_eq] at h
  obtain ⟨h1, h2, h3, h4, h5, h6⟩ := h
  simp [mergeEgress, h1, h2, h3, h4, h5, h6]

lemma mergeEgress_valid_iff (htemplate : Valid p egress) (hrules : egress.trafficRules ≠ [])
    (hchecks : ∀ rule ∈ request.trafficRules, trafficRuleError p rule = none)
    (hdistinct : DistinctKeys TrafficRule.name request.trafficRules)
    (hnew : RedefinesNone TrafficRule.name egress.trafficRules request.trafficRules) :
    Valid p (mergeEgress egress request) ↔ hasLegacyTrafficLists request = false := by
  have hlists := htemplate.unmixed.resolve_left hrules
  have hmerged : (mergeEgress egress request).trafficRules =
    egress.trafficRules ++ request.trafficRules :=
    mergeByKey_eq_append hnew hdistinct
  have hsame : hasLegacyTrafficLists (mergeEgress egress request) =
    hasLegacyTrafficLists request := by
    rw [mergeEgress_lists hlists]
    rfl
  constructor
  · intro hvalid
    rw [← hsame]
    refine hvalid.unmixed.resolve_left ?_
    rw [hmerged]
    simp [hrules]
  · intro hnone
    refine ⟨.inr (hsame.trans hnone), ?_, ?_⟩
    · rw [hmerged]
      exact forall_mem_append.mpr ⟨htemplate.rules, hchecks⟩
    · rw [hmerged]
      exact htemplate.names.append hdistinct hnew

lemma compileTrafficRules_ok_iff : (∃ own, compileTrafficRules texts rules = .ok own) ↔
      ∀ rule ∈ rules, ∃ compiled, compileTrafficRule texts rule = .ok compiled :=
  mapM_ok_iff

lemma compileEgressAuthRules_ok_iff {rules : List EgressCredentialRule} :
    (∃ auth, compileEgressAuthRules rules = .ok auth) ↔
      ∀ rule ∈ rules, ∃ compiled, compileEgressAuthRule rule = .ok compiled :=
  mapM_ok_iff

/-- What netd says about a destination that the template denies, by the lists of the
policy that is merged into it. -/
lemma built_denies_iff (hegress : template.egress = some egress) (htemplate : Valid p egress)
    {rule : TrafficRule} (hfirst : firstMatch p.toTexts egress.trafficRules d = some rule)
    (haction : rule.action = .deny) (request : Option SandboxNetworkPolicy)
    (hchecks : ∀ rule ∈ (egressOf request).trafficRules, trafficRuleError p rule = none)
    (hdistinct : DistinctKeys TrafficRule.name (egressOf request).trafficRules)
    (hnew : RedefinesNone TrafficRule.name egress.trafficRules (egressOf request).trafficRules)
    (sandboxID teamID : GoString) (templateBindings requestBindings : List CredentialBinding) :
    netdAllows p.toTexts
      (buildNetworkPolicyState p sandboxID teamID (some template) request templateBindings
      requestBindings).policySpec d = false ↔ (∀ rule ∈ keptCredentialRules p
          (mergeEgressCredentialRules egress.credentialRules (egressOf request).credentialRules)
          (mergeCredentialBindings templateBindings requestBindings),
        ∃ compiled, compileEgressAuthRule rule = .ok compiled) ∧
      (hasLegacyTrafficLists (egressOf request) = false →
        ∀ rule ∈ egress.trafficRules ++ (egressOf request).trafficRules,
          ∃ compiled, compileTrafficRule p.toTexts rule = .ok compiled) ∧
      (¬ hasLegacyTrafficLists (egressOf request) = false →
        listsDeny p.toTexts (effectiveMode (mergedMode template.mode request))
          (egressOf request) d = true) := by
  have hne : egress.trafficRules ≠ [] := by
    intro hnil
    simp [hnil, firstMatch] at hfirst
  have hunmixed := htemplate.unmixed.resolve_left hne
  have hmerged : (mergeEgress egress (egressOf request)).trafficRules =
      egress.trafficRules ++ (egressOf request).trafficRules := mergeByKey_eq_append hnew hdistinct
  obtain ⟨hmode, hspec⟩ := buildNetworkPolicyState_spec (p := p) hegress sandboxID teamID request
    templateBindings requestBindings
  have hkeeps := (valid_iff (mergeNetworkPolicies_egress hegress request)).trans
    (mergeEgress_valid_iff htemplate hne hchecks hdistinct hnew)
  rw [netd_denies_iff hspec, hmode, ← compileEgressAuthRules_ok_iff, ← compileTrafficRules_ok_iff,
    listsDeny_iff]
  by_cases hlists : hasLegacyTrafficLists (egressOf request) = false
  · -- the rules stay, and the first of them that matches is the template's
    rw [if_pos (hkeeps.mpr hlists)]
    have hnone : hasLegacyTrafficLists (mergeEgress egress (egressOf request)) = false := by
      rw [mergeEgress_lists hunmixed]
      exact hlists
    constructor
    · rintro ⟨c, hc, -⟩
      obtain ⟨own, auth, hown, hauth, -⟩ :=
        (compileEgress_rules (by simp [hmerged, hne]) (by exact hnone)).mp hc
      exact ⟨⟨auth, hauth⟩, fun _ => ⟨own, by rw [← hmerged]; exact hown⟩, fun h => absurd hlists h⟩
    · rintro ⟨⟨auth, hauth⟩, hcompiles, -⟩
      obtain ⟨own, hown⟩ := hcompiles hlists
      have hdenied :=
        denied_by_firstMatch hown hfirst haction (effectiveMode (mergedMode template.mode request))
      rw [← hmerged] at hown
      exact ⟨{ trafficRules := own, authRules := auth },
        (compileEgress_rules (by simp [hmerged, hne]) (by exact hnone)).mpr
          ⟨own, auth, hown, hauth, rfl⟩, hdenied⟩
  · -- the rules are dropped, and the lists of the request decide
    rw [if_neg fun hvalid => hlists (hkeeps.mp hvalid)]
    have hsame : ∀ mode rules creds, compileLegacyTrafficRules p.toTexts mode
        { mergeEgress egress (egressOf request) with
          trafficRules := rules, credentialRules := creds } =
        compileLegacyTrafficRules p.toTexts mode (egressOf request) := by
      intro mode rules creds
      rw [mergeEgress_lists hunmixed]
      rfl
    constructor
    · rintro ⟨c, hc, hdenied⟩
      obtain ⟨rules, auth, hrules, hauth, rfl⟩ := (compileEgress_lists rfl).mp hc
      rw [hsame] at hrules
      exact ⟨⟨auth, hauth⟩, fun h => absurd h hlists, fun _ => ⟨rules, hrules, hdenied⟩⟩
    · rintro ⟨⟨auth, hauth⟩, -, hdeny⟩
      obtain ⟨rules, hrules, hdenied⟩ := hdeny hlists
      rw [← hsame] at hrules
      exact ⟨{ trafficRules := rules, authRules := auth },
        (compileEgress_lists rfl).mpr ⟨rules, auth, hrules, hauth, rfl⟩, hdenied⟩

/-- When the deny rules of a template survive the merge for a destination. Either the
request brings no legacy list, of its own or by its webhook, and netd accepts all
the rules. Or it brings some, and they deny the destination themselves. -/
structure KeepsDeny {ρ : Type} (p : Parsers) (template : Option SandboxNetworkPolicy)
    (req : ClaimRequest ρ) (d : Destination) : Prop where
  credentials : ∀ rule ∈ keptCredentialRules p
      (mergeEgressCredentialRules (egressOf template).credentialRules
        (egressOf req.network).credentialRules)
      (mergeCredentialBindings (bindingsOf template) (bindingsOf req.network)),
    ∃ compiled, compileEgressAuthRule rule = .ok compiled
  rules : req.WritesNoLists p →
    ∀ rule ∈ (egressOf template).trafficRules ++ (egressOf req.network).trafficRules,
      ∃ compiled, compileTrafficRule p.toTexts rule = .ok compiled
  lists : ¬ req.WritesNoLists p →
    listsDeny p.toTexts
      (effectiveMode (mergedMode ((template.map (·.mode)).getD .allowAll) req.network))
      (egressOf (req.withWebhook p)) d = true

/-- A destination whose first rule in the template denies it is denied by the policy of
the sandbox, after any number of retries, exactly if the request and its webhook
bring no legacy list that replaces the rules and lets the destination through, and
netd accepts the rules. -/
theorem template_denies_survive_the_merge_iff {ρ : Type} (p : Parsers)
    (template : Option SandboxNetworkPolicy) (req : ClaimRequest ρ) (retries : Nat)
    (sandboxID : GoString) (d : Destination)
    (htemplate : validateTrafficRuleConfig p template = none)
    (hrequest : validateTrafficRuleConfig p req.network = none)
    (hnew : RedefinesNone TrafficRule.name (egressOf template).trafficRules
      (egressOf req.network).trafficRules)
    (hdeny : ∃ rule, firstMatch p.toTexts (egressOf template).trafficRules d = some rule ∧
      rule.action = .deny) :
    netdAllows p.toTexts (policyAfterRetries p retries sandboxID template req) d = false ↔
      KeepsDeny p template req d := by
  obtain ⟨rule, hfirst, haction⟩ := hdeny
  have hvalid := valid_egressOf htemplate
  have hvalid' := valid_egressOf hrequest
  have hne : (egressOf template).trafficRules ≠ [] := by
    intro hnil
    simp [hnil, firstMatch] at hfirst
  obtain ⟨template, rfl⟩ : ∃ t, template = some t := by
    rcases template with _ | t
    · exact absurd rfl hne
    · exact ⟨t, rfl⟩
  obtain ⟨egress, hegress⟩ : ∃ e, template.egress = some e := by
    rcases h : template.egress with _ | e
    · simp [egressOf, h] at hne
    · exact ⟨e, rfl⟩
  have hof : egressOf (some template) = egress := by simp [egressOf, hegress]
  rw [hof] at hvalid hne hfirst hnew
  -- the request as the last attempt finds it
  have hsame := samePolicies_retries (p := p) retries req
  obtain ⟨hrules, hcreds⟩ := withWebhook_rules (p := p) req
  have hrules' := hsame.egress.trafficRules.trans hrules
  have hcreds' := hsame.egress.credentialRules.trans hcreds
  have hbuilt : netdAllows p.toTexts (policyAfterRetries p retries sandboxID (some template) req)
    d = false ↔ _ :=
    built_denies_iff hegress hvalid hfirst haction (((applied p)^[retries] req).withWebhook p)
      (by rw [hrules']; exact hvalid'.rules) (by rw [hrules']; exact hvalid'.names)
      (by rw [hrules']; exact hnew) sandboxID ((applied p)^[retries] req).teamID
      (bindingsOf (some template)) (bindingsOf ((applied p)^[retries] req).network)
  have hbindings : bindingsOf ((applied p)^[retries] req).network = bindingsOf req.network :=
    hsame.bindings
  rw [hsame.egress.hasLists, withWebhook_hasLists, hrules', hcreds', hbindings,
    hsame.mode, withWebhook_mode, hsame.egress.listsDeny] at hbuilt
  rw [hbuilt]
  constructor
  · rintro ⟨hcredentials, hrules, hlists⟩
    exact ⟨by rw [hof]; exact hcredentials, by rw [hof]; exact hrules, hlists⟩
  · rintro ⟨hcredentials, hrules, hlists⟩
    rw [hof] at hcredentials hrules
    exact ⟨hcredentials, hrules, hlists⟩

/-- The only URL that these tests read. -/
def hookParsers : Parsers where
  parseCIDR _ := none
  ipString _ := []
  urlHostname text := if text = lit "https://hooks.example.com/run" then
    some (lit "hooks.example.com") else none
  parseIP _ := none
  isDuration _ := false

def domainRule (name : GoString) (action : TrafficRuleAction)
    (domain : GoString) : TrafficRule where
  name := name
  action := action
  cidrs := []
  domains := [domain]
  ports := []
  appProtocols := []

def evilDenied : SandboxNetworkPolicy where
  mode := .allowAll
  egress := some { trafficRules := [domainRule (lit "no-evil") .deny (lit "evil.test")] }

def testsAllowed : SandboxNetworkPolicy where
  egress := some { trafficRules := [domainRule (lit "all-tests") .allow (lit "*.test")] }

def evilHost : Destination where
  ip := some [198, 51, 100, 7]
  port := 443
  transport := lit "tcp"
  host := lit "evil.test"
  appProtocol := lit "tls"

def requestWith (network : Option SandboxNetworkPolicy)
    (url : Option GoString) : ClaimRequest Unit where
  teamID := lit "team"
  userID := lit "user"
  config := some { ttl := none, hardTTL := none, network,
                   webhook := url.map fun url => { url, secret := [], watchDir := [] }, rest := () }

/-- A request with a rule of its own. The template's rule stays before it. -/
theorem template_denies_survive_a_request_with_rules : netdAllows hookParsers.toTexts
      (policyAfterRetries hookParsers 2 (lit "sb") (some evilDenied)
        (requestWith (some testsAllowed) none)) evilHost = false := by
  refine (template_denies_survive_the_merge_iff hookParsers (some evilDenied) _ 2
    (lit "sb") evilHost
    (by decide +kernel) (by decide +kernel) ?_
    ⟨domainRule (lit "no-evil") .deny (lit "evil.test"), by decide +kernel, rfl⟩).mpr
    ⟨?_, fun _ => ?_, fun h => ?_⟩
  · intro a ha _ b hb
    rw [mem_singleton.mp ha, mem_singleton.mp hb]
    decide +kernel
  · exact fun rule hrule => absurd hrule not_mem_nil
  · intro rule hrule
    rcases mem_cons.mp hrule with rfl | hrule
    · exact ⟨{ name := lit "no-evil", action := .deny, domains := [⟨lit "evil.test", .exact⟩] },
        by decide +kernel⟩
    · rw [mem_singleton.mp hrule]
      exact ⟨{ name := lit "all-tests", action := .allow, domains := [⟨lit "test", .suffix⟩] },
        by decide +kernel⟩
  · exact absurd ⟨by decide +kernel, by decide +kernel⟩ h

/-- A webhook writes its host into the lists of the request. The rules of the template
are dropped for it, and the domain that they deny is let through. -/
theorem webhook_drops_the_deny_rules :
    validateTrafficRuleConfig hookParsers (some evilDenied) = none ∧
      (requestWith none (some (lit "https://hooks.example.com/run"))).network = none ∧
      (firstMatch hookParsers.toTexts (egressOf (some evilDenied)).trafficRules evilHost).map
        (·.action) = some .deny ∧
      netdAllows hookParsers.toTexts
        (policyAfterRetries hookParsers 0 (lit "sb") (some evilDenied) (requestWith none none))
        evilHost = false ∧
      netdAllows hookParsers.toTexts
        (policyAfterRetries hookParsers 0 (lit "sb") (some evilDenied)
          (requestWith none (some (lit "https://hooks.example.com/run")))) evilHost = true := by
  decide +kernel

end sandbox0.manager
