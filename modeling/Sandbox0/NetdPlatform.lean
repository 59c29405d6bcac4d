-- What the platform's own rules are worth in a decision. A denial of the
-- platform always wins. An allowance of the platform wins over the user's
-- policy only in the phase that asks for it.
import Sandbox0.NetdProxy

namespace sandbox0.netd.proxy

open sandbox0.net sandbox0.netd.policy

variable {texts : Texts}

def hostMatches (host : GoString) (rules : List DomainRule) : Bool :=
  normalized host ≠ [] ∧ matchDomain (normalized host) rules

def addressDenied (texts : Texts) (platform : PlatformPolicy) (destIP : Option IP) : Bool :=
  isOtherSandboxPod texts platform destIP ∨ matchCIDR destIP platform.deniedCIDRs

/-! ## Denials -/

variable {policy : CompiledPolicy} {platform : PlatformPolicy} {destIP : Option IP}
    {host : GoString}

section

variable (hp : policy.platform = some platform)

include hp

lemma allowEgressDestination_denied (h : addressDenied texts platform destIP = true)
    (destPort : Int) (transport host appProtocol : GoString) :
    allowEgressDestination texts (some policy) destIP destPort transport host
      appProtocol = false := by
  have hverdict : platformVerdict texts policy destIP = some false := by
    simp only [addressDenied, decide_eq_true_eq] at h
    simp only [platformVerdict, hp]
    rw [if_pos h]
  simp only [allowEgressDestination, hverdict]

lemma deniedAtL4_of_addressDenied {c : TrafficClassification} (hip : c.destIP ≠ none)
    (hport : 0 < c.destPort) (h : addressDenied texts platform c.destIP = true) :
    deniedAtL4 texts (some policy) c = true := by
  have hdeny := allowEgressDestination_denied hp h
  apply decide_eq_true
  refine ⟨hip, hport, ?_⟩
  split <;> exact hdeny ..

lemma hasDomainRules_of_denied (h : matchDomain host platform.deniedDomains = true) :
    hasDomainRules (some policy) = true := by
  have hne : platform.deniedDomains ≠ [] := by
    rintro hnil
    simp [hnil, matchDomain] at h
  simp [hasDomainRules, hp, hne]

lemma allowEgressDomain_denied (h : hostMatches host platform.deniedDomains = true) :
    allowEgressDomain (some policy) host = false := by
  simp only [hostMatches, decide_eq_true_eq] at h
  obtain ⟨hname, hmatch⟩ := h
  simp [allowEgressDomain, hname, hp, hmatch]

lemma allowUnknownEgressFallback_denied (h : hostMatches host platform.deniedDomains = true) :
    allowUnknownEgressFallback texts (some policy) destIP host = false := by
  simp only [hostMatches, decide_eq_true_eq] at h
  simp only [allowUnknownEgressFallback, hp]
  rw [if_pos h]
  simp

end

/-- A destination that the platform denies, by its address or by its host, is
denied, whatever the user's rules and the platform's other lists say. -/
theorem platform_denial_always_wins (policy : CompiledPolicy) (platform : PlatformPolicy)
    (hp : policy.platform = some platform) (c : TrafficClassification) (hip : c.destIP ≠ none)
    (hport : 0 < c.destPort) (hdenied : matchCIDR c.destIP platform.deniedCIDRs = true ∨
      isOtherSandboxPod texts platform c.destIP = true ∨
      hostMatches c.host platform.deniedDomains = true) :
    (decideTraffic texts (some policy) c).action = .deny := by
  unfold decideTraffic
  by_cases haddress : addressDenied texts platform c.destIP = true
  · rw [if_pos (deniedAtL4_of_addressDenied hp hip hport haddress)]
    rfl
  have hhost : hostMatches c.host platform.deniedDomains = true := by
    simp only [addressDenied, decide_eq_true_eq, not_or] at haddress
    rcases hdenied with h | h | h
    · exact absurd h haddress.2
    · exact absurd h haddress.1
    · exact h
  have hname : c.host ≠ [] := by
    intro hnil
    rw [hnil] at hhost
    simp [hostMatches, show normalized [] = [] by decide +kernel] at hhost
  have hrules : hasDomainRules (some policy) = true := by
    simp only [hostMatches, decide_eq_true_eq] at hhost
    exact hasDomainRules_of_denied hp hhost.2
  split
  · rfl
  split
  · rw [allowUnknownEgressFallback_denied hp hhost]
    rfl
  · rw [if_pos ⟨hname, hrules, allowEgressDomain_denied hp hhost⟩]
    rfl

/-- The address is also platform-allowed, and the host is one that a user rule allows. -/
theorem platform_denial_always_wins_over_allowances : (decideTraffic ⟨fun _ => none, fun _ => []⟩
      (some { mode := .allowAll
              egress :=
                { trafficRules := [{ name := [], action := .allow,
                                     domains := [⟨lit "evil.test", .exact⟩] }] }
              platform := some { allowedCIDRs := [⟨[10, 0, 0, 0], [255, 0, 0, 0]⟩]
                                 deniedDomains := [⟨lit "evil.test", .exact⟩] } })
      { transport := lit "tcp", protocol := lit "tls", destIP := some [10, 0, 0, 7],
        destPort := 443, host := lit "evil.test" }).action = .deny :=
  platform_denial_always_wins _ _ rfl _ (by decide) (by decide)
    (Or.inr (Or.inr (by decide +kernel)))

/-! ## Allowances -/

/-- The phases of `decideTraffic` that a connection has to pass. -/
lemma decideTraffic_passes_iff (compiled : Option CompiledPolicy) (c : TrafficClassification) :
    (decideTraffic texts compiled c).action ≠ .deny ↔ deniedAtL4 texts compiled c = false ∧
      (c.unknownReason ≠ [] → allowUnknownEgressFallback texts compiled c.destIP c.host = true) ∧
      (c.unknownReason = [] → c.host ≠ [] → hasDomainRules compiled = true →
        allowEgressDomain compiled c.host = true) ∧
      (c.unknownReason = [] → c.verification ≠ [] → hasDomainRules compiled = true →
        ∀ p ∈ compiled, p.mode ≠ .blockAll) := by
  unfold decideTraffic
  split
  case isTrue hl4 => simp [hl4, plainDecision]
  case isFalse hl4 =>
    rw [Bool.not_eq_true] at hl4
    split
    case isTrue hunknown =>
      simp [hl4, hunknown, plainDecision]
    case isFalse hknown =>
      rw [not_not] at hknown
      split
      case isTrue hdomain =>
        simp [hl4, hknown, hdomain, plainDecision]
      case isFalse hdomain =>
        have hdomain' : c.host ≠ [] → hasDomainRules compiled = true →
            allowEgressDomain compiled c.host = true := by
          intro hhost hrules
          by_contra hno
          exact hdomain ⟨hhost, hrules, Bool.eq_false_of_not_eq_true hno⟩
        split
        case isTrue hverified =>
          simp only [plainDecision, hl4, hknown, hverified, ne_eq, not_true_eq_false,
            not_false_eq_true, true_and, false_implies, forall_const]
          by_cases hblock : (∃ p ∈ compiled, p.mode = .blockAll) ∧ hasDomainRules compiled = true
          · rw [if_pos hblock]
            obtain ⟨⟨p, hp, hmode⟩, hrules⟩ := hblock
            simp only [not_true_eq_false, false_iff, not_and, not_forall]
            intro _
            exact ⟨hrules, p, hp, by simp [hmode]⟩
          · rw [if_neg hblock]
            simp only [reduceCtorEq, not_false_eq_true, true_iff]
            refine ⟨hdomain', ?_⟩
            intro hrules p hp hmode
            exact hblock ⟨⟨p, hp, hmode⟩, hrules⟩
        case isFalse hverified =>
          simp only [ne_eq, not_not] at hverified
          simpa [hl4, hknown, hverified, plainDecision] using hdomain'

def withoutAddresses (policy : CompiledPolicy) (platform : PlatformPolicy) : CompiledPolicy :=
  { policy with
    platform := some { platform with allowedCIDRs := [], deniedCIDRs := [], sandboxPodIPs := [] } }

def withoutPlatform (policy : CompiledPolicy) : CompiledPolicy := { policy with platform := none }

section

variable (hp : policy.platform = some platform)

include hp

lemma allowEgressDestination_not_denied (hdenied : addressDenied texts platform destIP = false)
    (destPort : Int) (transport host appProtocol : GoString) :
    allowEgressDestination texts (some policy) destIP destPort transport host appProtocol = true ↔
      matchCIDR destIP platform.allowedCIDRs = true ∨
        allowEgressDestination texts (some (withoutAddresses policy platform)) destIP destPort
          transport host appProtocol = true := by
  have hverdict : platformVerdict texts policy destIP =
      if matchCIDR destIP platform.allowedCIDRs then some true else none := by
    simp only [addressDenied, decide_eq_false_iff_not] at hdenied
    simp only [platformVerdict, hp]
    rw [if_neg hdenied]
  have hnone : platformVerdict texts (withoutAddresses policy platform) destIP = none := by
    cases destIP <;> simp [platformVerdict, withoutAddresses, isOtherSandboxPod, matchCIDR]
  by_cases hallowed : matchCIDR destIP platform.allowedCIDRs = true
  · simp [allowEgressDestination, hverdict, hallowed]
  have hlist : hasExplicitDomainAllowList (withoutAddresses policy platform) =
      hasExplicitDomainAllowList policy := by
    simp [hasExplicitDomainAllowList, withoutAddresses, hp]
  have hl4 : hasExplicitL4AllowList (withoutAddresses policy platform) =
      hasExplicitL4AllowList policy := rfl
  have hsame : allowEgressDestination texts (some policy) destIP destPort transport
    host appProtocol =
      allowEgressDestination texts (some (withoutAddresses policy platform)) destIP destPort
        transport host appProtocol := by
    rw [if_neg hallowed] at hverdict
    simp only [allowEgressDestination, hverdict, hnone, hlist, hl4]
    rfl
  rw [hsame]
  simp [hallowed]

lemma allowEgressDomain_not_denied (hdenied : hostMatches host platform.deniedDomains = false) :
    allowEgressDomain (some policy) host = true ↔ hostMatches host platform.allowedDomains = true ∨
        allowEgressDomain (some (withoutPlatform policy)) host = true := by
  by_cases hname : normalized host = []
  · simp [allowEgressDomain, hostMatches, hname]
  have hmiss : matchDomain (normalized host) platform.deniedDomains = false := by
    simpa [hostMatches, hname] using hdenied
  by_cases hallowed : matchDomain (normalized host) platform.allowedDomains = true
  · simp [allowEgressDomain, hostMatches, hname, hp, hmiss, hallowed]
  have hsame : allowEgressDomain (some policy) host =
      allowEgressDomain (some (withoutPlatform policy)) host := by
    simp only [allowEgressDomain, hname, if_false, hp, Option.mem_def, Option.some.injEq,
      exists_eq_left', hmiss, hallowed, Bool.false_eq_true, withoutPlatform, reduceCtorEq,
      false_and, exists_false]
    rfl
  rw [hsame]
  simp [hostMatches, hname, hallowed]

lemma allowUnknownEgressFallback_allowed (haddress : addressDenied texts platform destIP = false)
    (hdenied : hostMatches host platform.deniedDomains = false)
    (hallowed : matchCIDR destIP platform.allowedCIDRs = true ∨
      hostMatches host platform.allowedDomains = true) :
    allowUnknownEgressFallback texts (some policy) destIP host = true := by
  simp only [addressDenied, decide_eq_false_iff_not, not_or] at haddress
  simp only [hostMatches, decide_eq_false_iff_not, decide_eq_true_eq] at hdenied hallowed
  simp only [allowUnknownEgressFallback, hp]
  rw [if_neg haddress.1, if_neg haddress.2, if_neg hdenied]
  split
  · rfl
  · rename_i hno
    rw [if_pos (hallowed.resolve_left hno)]

/-- Nothing of the user's policy stands between the platform's allowance and the
traffic. The address is on the platform's list or the user's rules let it
through, and known traffic has no host that the user's domain rules refuse and
no failed verification that block-all counts. -/
structure NotVetoed (texts : Texts) (policy : CompiledPolicy) (platform : PlatformPolicy)
    (c : TrafficClassification) : Prop where
  address : matchCIDR c.destIP platform.allowedCIDRs = true ∨
    allowEgressDestination texts (some (withoutAddresses policy platform)) c.destIP c.destPort
      (if c.transport = [] then lit "tcp" else c.transport)
      (if c.unknownReason = [] then c.host else [])
      (if c.unknownReason = [] then c.protocol else []) = true
  domain : c.unknownReason = [] → c.host ≠ [] → hasDomainRules (some policy) = true →
    hostMatches c.host platform.allowedDomains = true ∨
      allowEgressDomain (some (withoutPlatform policy)) c.host = true
  verified : c.unknownReason = [] → c.verification ≠ [] → hasDomainRules (some policy) = true →
    policy.mode ≠ .blockAll

lemma deniedAtL4_eq_false_iff {c : TrafficClassification} (hip : c.destIP ≠ none)
    (hport : 0 < c.destPort) (haddress : addressDenied texts platform c.destIP = false) :
    deniedAtL4 texts (some policy) c = false ↔ matchCIDR c.destIP platform.allowedCIDRs = true ∨
        allowEgressDestination texts (some (withoutAddresses policy platform)) c.destIP c.destPort
          (if c.transport = [] then lit "tcp" else c.transport)
          (if c.unknownReason = [] then c.host else [])
          (if c.unknownReason = [] then c.protocol else []) = true := by
  have hiff := allowEgressDestination_not_denied hp haddress c.destPort
    (if c.transport = [] then lit "tcp" else c.transport)
  by_cases hknown : c.unknownReason = []
  · simp only [deniedAtL4, hip, hport, hknown, if_true, ne_eq, not_false_eq_true, true_and,
      decide_eq_false_iff_not, Bool.not_eq_false]
    exact hiff ..
  · simp only [deniedAtL4, hip, hport, hknown, if_false, ne_eq, not_false_eq_true, true_and,
      decide_eq_false_iff_not, Bool.not_eq_false, allowEgressL4]
    exact hiff ..

end

/-- A destination that the platform does not deny and that it allows, by its
address or by its host, passes exactly if the user's policy has no veto. -/
theorem platform_allowance_wins_unless_vetoed (policy : CompiledPolicy) (platform : PlatformPolicy)
    (hp : policy.platform = some platform) (c : TrafficClassification) (hip : c.destIP ≠ none)
    (hport : 0 < c.destPort) (haddress : addressDenied texts platform c.destIP = false)
    (hhost : hostMatches c.host platform.deniedDomains = false)
    (hallowed : matchCIDR c.destIP platform.allowedCIDRs = true ∨
      hostMatches c.host platform.allowedDomains = true) :
    (decideTraffic texts (some policy) c).action ≠ .deny ↔ NotVetoed texts policy platform c := by
  rw [decideTraffic_passes_iff, deniedAtL4_eq_false_iff hp hip hport haddress,
    allowEgressDomain_not_denied hp hhost]
  have hfallback := allowUnknownEgressFallback_allowed hp haddress hhost hallowed
  constructor
  · rintro ⟨hl4, -, hdomain, hverified⟩
    refine ⟨hl4, hdomain, ?_⟩
    intro hknown hfailed hrules
    exact hverified hknown hfailed hrules policy rfl
  · rintro ⟨hl4, hdomain, hverified⟩
    refine ⟨hl4, fun _ => hfallback, hdomain, ?_⟩
    rintro hknown hfailed hrules p ⟨rfl⟩
    exact hverified hknown hfailed hrules

def blockedButPlatform : CompiledPolicy where
  mode := .blockAll
  platform := some { allowedCIDRs := [⟨[10, 0, 0, 0], [255, 0, 0, 0]⟩]
                     allowedDomains := [⟨lit "api.test", .exact⟩] }

def toPlatformAddress (host : GoString) : TrafficClassification :=
  classifyKnownTraffic (lit "tcp") (lit "http") (some [10, 0, 0, 7]) 80 host

/-- A host that is on the platform's list as well is not refused. -/
theorem platform_allowance_wins_for_its_domain :
    (decideTraffic ⟨fun _ => none, fun _ => []⟩ (some blockedButPlatform)
        (toPlatformAddress (lit "api.test"))).action ≠ .deny ↔
      NotVetoed ⟨fun _ => none, fun _ => []⟩ blockedButPlatform
        { allowedCIDRs := [⟨[10, 0, 0, 0], [255, 0, 0, 0]⟩]
          allowedDomains := [⟨lit "api.test", .exact⟩] } (toPlatformAddress (lit "api.test")) :=
  platform_allowance_wins_unless_vetoed _ _ rfl _ (by decide) (by decide) (by decide +kernel)
    (by decide +kernel) (Or.inl (by decide +kernel))

/-- The address is platform-allowed and nothing is platform-denied, but a host that
is on no list is refused under block-all. -/
theorem platform_address_refused_for_its_host :
    ∃ platform, blockedButPlatform.platform = some platform ∧
      addressDenied ⟨fun _ => none, fun _ => []⟩ platform (some [10, 0, 0, 7]) = false ∧
      hostMatches (lit "git.test") platform.deniedDomains = false ∧
      matchCIDR (some [10, 0, 0, 7]) platform.allowedCIDRs = true ∧
      decideTraffic ⟨fun _ => none, fun _ => []⟩ (some blockedButPlatform)
          (toPlatformAddress (lit "git.test")) =
        plainDecision (toPlatformAddress (lit "git.test")) .deny (lit "l7_denied") :=
  ⟨_, rfl, by decide +kernel, by decide +kernel, by decide +kernel, by decide +kernel⟩

end sandbox0.netd.proxy
