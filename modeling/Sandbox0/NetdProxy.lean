-- How `netd/pkg/proxy` decides about a connection. The first bytes are
-- classified, the host that they name is checked against the destination, and
-- the policy then denies the connection, passes it through or gives it to an
-- adapter, with a credential rule where one matches.
import Sandbox0.NetdPolicy

namespace sandbox0.netd.proxy

open sandbox0.net sandbox0.netd.policy

/-! ## Classification -/

structure TrafficClassification where
  transport : GoString
  protocol : GoString
  destIP : Option IP
  destPort : Int
  host : GoString := []
  unknownReason : GoString := []
  verification : GoString := []
  deriving DecidableEq

def classifyKnownTraffic (transport protocol : GoString) (destIP : Option IP) (destPort : Int)
    (host : GoString) : TrafficClassification :=
  { transport, protocol, destIP, destPort, host }

def classifyUnknownTraffic (transport protocol : GoString) (destIP : Option IP) (destPort : Int)
    (reason : GoString) : TrafficClassification :=
  { transport, protocol, destIP, destPort, unknownReason := reason }

/-- `normalizeHost`: the part before the port, in lower case. A host with colons
that is no host and port becomes empty. -/
def normalizeHost (host : GoString) : GoString :=
  let host := toLower (trimSpace host)
  if contains host (lit ":") then (splitHost host).getD [] else host

/-- A plaintext HTTP request on a connection: what `http.ReadRequest` found as
its host, and where the connection was going. -/
structure HTTPRequest where
  host : GoString
  origIP : IP
  origPort : Int

/-- `(*httpRequestClassifier).Classify` of a request that was read. -/
def classifyHTTP (req : HTTPRequest) : TrafficClassification :=
  let host := normalizeHost req.host
  if host = [] then
    classifyUnknownTraffic (lit "tcp") (lit "http") (some req.origIP) req.origPort
      (lit "missing_host")
  else classifyKnownTraffic (lit "tcp") (lit "http") (some req.origIP) req.origPort host

/-! ## Verification of the host -/

/-- `hostVerifier.Verify`: whether the host resolves to the address. -/
abbrev HostVerifier := GoString → IP → Except GoString Bool

def verifyClassifiedHost (verifier : Option HostVerifier) (compiled : Option CompiledPolicy)
    (c : TrafficClassification) : TrafficClassification :=
  match verifier, c.destIP with
  | some verify, some destIP =>
    if compiled = none ∨ hasDomainRules compiled = false then c
    else if c.unknownReason ≠ [] ∨ c.host = [] then c
    else
      match verify c.host destIP with
      | .error _ => { c with verification := lit "host_resolution_failed" }
      | .ok false => { c with verification := lit "host_dest_mismatch" }
      | .ok true => c
  | _, _ => c

/-- `probeServerFirstSSH`: unknown traffic becomes SSH when the policy has a rule
for SSH and the destination greets with a banner. -/
def probeServerFirstSSH (compiled : Option CompiledPolicy) (banner : Bool)
    (c : TrafficClassification) : TrafficClassification :=
  if c.transport ≠ lit "tcp" ∨ c.unknownReason = [] then c
  else if c.destIP = none ∨ c.destPort ≤ 0 then c
  else if hasTrafficRuleAppProtocol compiled (lit "ssh") = false then c
  else if banner then classifyKnownTraffic (lit "tcp") (lit "ssh") c.destIP c.destPort []
  else c

/-! ## The decision -/

inductive DecisionAction where
  | deny
  | passThrough
  | useAdapter
  deriving DecidableEq

structure TrafficDecision where
  action : DecisionAction
  transport : GoString
  protocol : GoString
  reason : GoString
  classifierResult : GoString
  needsAdapter : Bool := false
  needsEgressAuth : Bool := false
  matchedAuthRule : Option CompiledEgressAuthRule := none
  deriving DecidableEq

variable (texts : Texts)

/-- The L4 phase of `decideTraffic`. -/
def deniedAtL4 (compiled : Option CompiledPolicy) (c : TrafficClassification) : Bool :=
  let proto := if c.transport = [] then lit "tcp" else c.transport
  c.destIP ≠ none ∧ 0 < c.destPort ∧
    (if c.unknownReason = [] then
      allowEgressDestination texts compiled c.destIP c.destPort proto c.host c.protocol
    else allowEgressL4 texts compiled c.destIP c.destPort proto) = false

def plainDecision (c : TrafficClassification) (action : DecisionAction) (reason : GoString) :
    TrafficDecision :=
  { action, reason, transport := c.transport, protocol := c.protocol,
    classifierResult := if c.unknownReason ≠ [] then lit "unknown" else lit "known" }

def decideTraffic (compiled : Option CompiledPolicy)
    (c : TrafficClassification) : TrafficDecision :=
  if deniedAtL4 texts compiled c then plainDecision c .deny (lit "l4_denied")
  else if c.unknownReason ≠ [] then
    plainDecision c
      (if allowUnknownEgressFallback texts compiled c.destIP c.host then .passThrough else .deny)
      c.unknownReason
  else if c.host ≠ [] ∧ hasDomainRules compiled ∧ allowEgressDomain compiled c.host = false then
    plainDecision c .deny (lit "l7_denied")
  else if c.verification ≠ [] then
    plainDecision c
      (if (∃ p ∈ compiled, p.mode = .blockAll) ∧ hasDomainRules compiled then .deny
        else .passThrough)
      c.verification
  else
    let rule := matchEgressAuthRule compiled c.transport c.protocol c.destPort c.host
    { plainDecision c .useAdapter (lit "allowed") with
      needsAdapter := true, needsEgressAuth := rule.isSome, matchedAuthRule := rule }

/-- `handleTCPConn` of an HTTP request, up to its decision. `banner` says whether
a probed destination greets as an SSH server. -/
def decideHTTP (verifier : Option HostVerifier) (compiled : Option CompiledPolicy) (banner : Bool)
    (req : HTTPRequest) : TrafficDecision :=
  decideTraffic texts compiled
    (probeServerFirstSSH compiled banner
      (verifyClassifiedHost verifier compiled (classifyHTTP req)))

/-! ## Which credential rule a decision may name -/

variable {texts}

variable {compiled : Option CompiledPolicy} {c : TrafficClassification}
    {rule : CompiledEgressAuthRule} {verifier : Option HostVerifier} {banner : Bool}

/-- A decision that names a rule comes from a host that was not found wrong, and
the rule matched that host. -/
lemma decideTraffic_matched (h : (decideTraffic texts compiled c).matchedAuthRule = some rule) :
    c.unknownReason = [] ∧ c.verification = [] ∧
      matchEgressAuthRule compiled c.transport c.protocol c.destPort c.host = some rule := by
  unfold decideTraffic at h
  split at h
  · cases h
  split at h
  · cases h
  rename_i hknown
  split at h
  · cases h
  split at h
  · cases h
  · rename_i hverified
    exact ⟨not_not.mp hknown, not_not.mp hverified, h⟩

lemma matchEgressAuthRule_host {transport protocol host : GoString} {destPort : Int}
    (h : matchEgressAuthRule compiled transport protocol destPort host = some rule)
    (hdomains : rule.domains ≠ []) : host ≠ [] := by
  rintro rfl
  cases compiled with
  | none => cases h
  | some p =>
    have hmatch := List.find?_some h
    have hempty : normalized [] = [] := by decide +kernel
    simp [CompiledEgressAuthRule.matches, hdomains, hempty] at hmatch

lemma verifyClassifiedHost_cases (verifier : Option HostVerifier)
    (compiled : Option CompiledPolicy) (c : TrafficClassification) :
    verifyClassifiedHost verifier compiled c = c ∨ ∃ found, found ≠ [] ∧
        verifyClassifiedHost verifier compiled c = { c with verification := found } := by
  have hfailed : lit "host_resolution_failed" ≠ [] := by decide +kernel
  have hmismatch : lit "host_dest_mismatch" ≠ [] := by decide +kernel
  unfold verifyClassifiedHost
  split
  · split
    · exact Or.inl rfl
    · split
      · exact Or.inl rfl
      · split
        · exact Or.inr ⟨_, hfailed, rfl⟩
        · exact Or.inr ⟨_, hmismatch, rfl⟩
        · exact Or.inl rfl
  · exact Or.inl rfl

lemma verifyClassifiedHost_eq_self
    (h : (verifyClassifiedHost verifier compiled c).verification = []) :
    verifyClassifiedHost verifier compiled c = c := by
  rcases verifyClassifiedHost_cases verifier compiled c with hsame | ⟨found, hfound, hnoted⟩
  · exact hsame
  · rw [hnoted] at h
    exact absurd h hfound

lemma verifyClassifiedHost_unknownReason (verifier : Option HostVerifier)
    (compiled : Option CompiledPolicy) (c : TrafficClassification) :
    (verifyClassifiedHost verifier compiled c).unknownReason = c.unknownReason := by
  rcases verifyClassifiedHost_cases verifier compiled c with hsame | ⟨found, _, hnoted⟩
  · rw [hsame]
  · rw [hnoted]

/-- A policy with domain rules has the verifier asked, and only its consent
leaves the classification as it is. -/
lemma verifyClassifiedHost_confirms {verify : HostVerifier} {destIP : IP}
    (hrules : hasDomainRules compiled = true) (hip : c.destIP = some destIP)
    (hknown : c.unknownReason = []) (hhost : c.host ≠ [])
    (hclean : (verifyClassifiedHost (some verify) compiled c).verification = []) :
    verify c.host destIP = .ok true := by
  have hfailed : lit "host_resolution_failed" ≠ [] := by decide +kernel
  have hmismatch : lit "host_dest_mismatch" ≠ [] := by decide +kernel
  have hcompiled : compiled ≠ none := by
    rintro rfl
    cases hrules
  simp only [verifyClassifiedHost, hip, hcompiled, hrules, hknown, hhost, ne_eq, not_true_eq_false,
    or_self, Bool.true_eq_false, if_false] at hclean
  split at hclean
  · exact absurd hclean hfailed
  · exact absurd hclean hmismatch
  · assumption

lemma probeServerFirstSSH_known (h : c.unknownReason = []) :
    probeServerFirstSSH compiled banner c = c := by
  simp [probeServerFirstSSH, h]

lemma probeServerFirstSSH_unknown (compiled : Option CompiledPolicy) (banner : Bool)
    (c : TrafficClassification) :
    (probeServerFirstSSH compiled banner c).unknownReason = c.unknownReason ∨
      (probeServerFirstSSH compiled banner c).host = [] := by
  unfold probeServerFirstSSH
  split
  · exact Or.inl rfl
  split
  · exact Or.inl rfl
  split
  · exact Or.inl rfl
  · split
    · exact Or.inr rfl
    · exact Or.inl rfl

/-- A rule with domains is named for a request with a host whose classification
went through verification unchanged. -/
lemma decideHTTP_matched {req : HTTPRequest}
    (h : (decideHTTP texts verifier compiled banner req).matchedAuthRule = some rule)
    (hdomains : rule.domains ≠ []) : normalizeHost req.host ≠ [] ∧
      (verifyClassifiedHost verifier compiled (classifyHTTP req)).verification = [] ∧
      (decideTraffic texts compiled (classifyHTTP req)).matchedAuthRule = some rule := by
  unfold decideHTTP at h
  have hreason := verifyClassifiedHost_unknownReason verifier compiled (classifyHTTP req)
  by_cases hhost : normalizeHost req.host = []
  · -- without a host the traffic is unknown, and no probe finds a host for it
    obtain ⟨hknown, _, hmatch⟩ := decideTraffic_matched h
    have hmissing : (classifyHTTP req).unknownReason = lit "missing_host" := by
      simp [classifyHTTP, hhost, classifyUnknownTraffic]
    rcases probeServerFirstSSH_unknown compiled banner
      (verifyClassifiedHost verifier compiled (classifyHTTP req)) with hsame | hnone
    · rw [hsame, hreason, hmissing] at hknown
      exact absurd hknown (by decide +kernel)
    · rw [hnone] at hmatch
      exact absurd rfl (matchEgressAuthRule_host hmatch hdomains)
  · have hknown : (classifyHTTP req).unknownReason = [] := by
      simp [classifyHTTP, hhost, classifyKnownTraffic]
    rw [probeServerFirstSSH_known (hreason.trans hknown)] at h
    obtain ⟨_, hverified, _⟩ := decideTraffic_matched h
    refine ⟨hhost, hverified, ?_⟩
    rw [verifyClassifiedHost_eq_self hverified] at h
    exact h

lemma decideHTTP_unverified {req : HTTPRequest} (hrules : hasDomainRules compiled = false)
    (h : (decideTraffic texts compiled (classifyHTTP req)).matchedAuthRule = some rule) :
    (decideHTTP texts verifier compiled banner req).matchedAuthRule = some rule := by
  have hsame : verifyClassifiedHost verifier compiled (classifyHTTP req) = classifyHTTP req := by
    unfold verifyClassifiedHost
    split
    · rw [if_pos (Or.inr hrules)]
    · rfl
  obtain ⟨hknown, _, _⟩ := decideTraffic_matched h
  unfold decideHTTP
  rw [hsame, probeServerFirstSSH_known hknown]
  exact h

end sandbox0.netd.proxy
