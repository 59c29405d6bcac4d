-- The network policies of `netd/pkg/policy`. A policy spec is compiled into
-- rules for traffic and rules for credentials, and the compiled policy is then
-- asked about each destination, host and protocol.
import Sandbox0.GoCall
import Sandbox0.GoMap
import Sandbox0.GoNet

namespace sandbox0.netd.policy

open sandbox0.net

/-! ## The spec

The modes and names below are Go strings, so each type has a value for a text
that is none of the constants. -/

/-- `v1alpha1.NetworkPolicyMode`. -/
inductive NetworkPolicyMode where
  | unset
  | allowAll
  | blockAll
  | other (text : GoString)
  deriving DecidableEq

/-- `v1alpha1.TrafficRuleAction`. -/
inductive TrafficRuleAction where
  | allow
  | deny
  | other (text : GoString)
  deriving DecidableEq

/-- `v1alpha1.EgressAuthRolloutMode`. -/
inductive EgressAuthRolloutMode where
  | unset
  | enabled
  | disabled
  | other (text : GoString)
  deriving DecidableEq

/-- `v1alpha1.EgressAuthProtocol`. -/
inductive EgressAuthProtocol where
  | unset
  | http
  | https
  | grpc
  | tls
  | ssh
  | socks5
  | mqtt
  | redis
  | other (text : GoString)
  deriving DecidableEq

/-- `v1alpha1.EgressTLSMode`. -/
inductive EgressTLSMode where
  | unset
  | passthrough
  | terminateReoriginate
  | other (text : GoString)
  deriving DecidableEq

/-- `v1alpha1.EgressAuthFailurePolicy`. -/
inductive EgressAuthFailurePolicy where
  | unset
  | failClosed
  | failOpen
  | other (text : GoString)
  deriving DecidableEq

structure PortSpec where
  port : Int
  protocol : GoString
  endPort : Option Int
  deriving DecidableEq

structure TrafficRule where
  name : GoString
  action : TrafficRuleAction
  cidrs : List GoString
  domains : List GoString
  ports : List PortSpec
  appProtocols : List GoString
  deriving DecidableEq

structure EgressCredentialRule where
  name : GoString
  credentialRef : GoString
  rollout : EgressAuthRolloutMode
  protocol : EgressAuthProtocol
  tlsMode : EgressTLSMode
  failurePolicy : EgressAuthFailurePolicy
  domains : List GoString
  ports : List PortSpec
  deriving DecidableEq

structure NetworkEgressPolicy where
  allowedCIDRs : List GoString := []
  allowedDomains : List GoString := []
  deniedCIDRs : List GoString := []
  deniedDomains : List GoString := []
  allowedPorts : List PortSpec := []
  deniedPorts : List PortSpec := []
  trafficRules : List TrafficRule := []
  credentialRules : List EgressCredentialRule := []

structure NetworkPolicySpec where
  sandboxID : GoString
  teamID : GoString
  mode : NetworkPolicyMode
  egress : Option NetworkEgressPolicy

/-! ## The compiled policy -/

inductive DomainMatchType where
  | exact
  | suffix
  deriving DecidableEq

structure DomainRule where
  pattern : GoString
  type : DomainMatchType
  deriving DecidableEq

structure PortRange where
  protocol : GoString
  start : Int
  stop : Int
  deriving DecidableEq

structure CompiledTrafficRule where
  name : GoString
  action : TrafficRuleAction
  cidrs : List IPNet := []
  ports : List PortRange := []
  domains : List DomainRule := []
  appProtocols : List GoString := []
  deriving DecidableEq

structure CompiledEgressAuthRule where
  name : GoString
  authRef : GoString
  rollout : EgressAuthRolloutMode
  protocol : EgressAuthProtocol
  tlsMode : EgressTLSMode
  failurePolicy : EgressAuthFailurePolicy
  domains : List DomainRule
  ports : List PortRange
  deriving DecidableEq

structure CompiledRuleSet where
  allowedCIDRs : List IPNet := []
  deniedCIDRs : List IPNet := []
  allowedPorts : List PortRange := []
  deniedPorts : List PortRange := []
  allowedDomains : List DomainRule := []
  deniedDomains : List DomainRule := []
  trafficRules : List CompiledTrafficRule := []
  authRules : List CompiledEgressAuthRule := []
  deriving DecidableEq

/-- `PlatformPolicy`: the rules of the platform, which come before those of the user. -/
structure PlatformPolicy where
  allowedCIDRs : List IPNet := []
  deniedCIDRs : List IPNet := []
  allowedDomains : List DomainRule := []
  deniedDomains : List DomainRule := []
  sandboxPodIPs : List GoString := []
  sourcePodIP : GoString := []
  deriving DecidableEq

structure CompiledPolicy where
  sandboxID : GoString := []
  teamID : GoString := []
  mode : NetworkPolicyMode
  egress : CompiledRuleSet := {}
  platform : Option PlatformPolicy := none
  deriving DecidableEq

/-! ## Compilation -/

/-- The errors of `CompileNetworkPolicy`. -/
inductive CompileError where
  /-- trafficRules cannot be combined with legacy allowed*/denied* fields -/
  | mixedRules
  /-- invalid CIDR -/
  | invalidCIDR (value : GoString)
  /-- invalid port -/
  | invalidPort (port : Int)
  /-- invalid end port -/
  | invalidEndPort (port : Int)
  /-- unsupported protocol, of a port or of a traffic rule -/
  | unsupportedProtocol (protocol : GoString)
  /-- invalid wildcard domain -/
  | invalidWildcard (value : GoString)
  /-- credentialRef is required -/
  | credentialRefRequired
  /-- unsupported auth rule rollout -/
  | unsupportedRollout (value : EgressAuthRolloutMode)
  /-- unsupported auth rule protocol -/
  | unsupportedAuthProtocol (value : EgressAuthProtocol)
  /-- unsupported auth rule tls mode -/
  | unsupportedTLSMode (value : EgressTLSMode)
  /-- unsupported auth rule failure policy -/
  | unsupportedFailurePolicy (value : EgressAuthFailurePolicy)
  /-- unsupported traffic rule action -/
  | unsupportedAction (value : TrafficRuleAction)
  /-- traffic rule must define at least one matcher -/
  | noMatcher (name : GoString)
  /-- unsupported network mode -/
  | unsupportedMode (mode : NetworkPolicyMode)
  deriving DecidableEq

variable (texts : Texts)

/-- One turn of `parseCIDRs`: a blank value is skipped. -/
def parseOneCIDR (value : GoString) : Except CompileError (List IPNet) :=
  if trimSpace value = [] then .ok []
  else
    match texts.parseCIDR (trimSpace value) with
    | some n => .ok [n]
    | none => .error (.invalidCIDR (trimSpace value))

def parseCIDRs (values : List GoString) : Except CompileError (List IPNet) := do
  return (← values.mapM (parseOneCIDR texts)).flatten

def parsePort (port : PortSpec) : Except CompileError PortRange := do
  if port.port ≤ 0 ∨ 65535 < port.port then throw (.invalidPort port.port)
  let stop := port.endPort.getD port.port
  if stop < port.port ∨ 65535 < stop then throw (.invalidEndPort stop)
  let lowered := toLower (trimSpace port.protocol)
  let proto := if lowered = [] then lit "tcp" else lowered
  if proto ≠ lit "tcp" ∧ proto ≠ lit "udp" then throw (.unsupportedProtocol port.protocol)
  return { protocol := proto, start := port.port, stop }

def parsePorts (values : List PortSpec) : Except CompileError (List PortRange) :=
  values.mapM parsePort

/-- One turn of `parseDomains`: a blank value is skipped, and `*.` starts a suffix. -/
def parseDomain (value : GoString) : Except CompileError (List DomainRule) :=
  let value := toLower (trimSpace value)
  if value = [] then .ok []
  else if (lit "*.").isPrefixOf value then
    if value.drop 2 = [] then .error (.invalidWildcard value)
    else .ok [{ pattern := value.drop 2, type := .suffix }]
  else .ok [{ pattern := value, type := .exact }]

def parseDomains (values : List GoString) : Except CompileError (List DomainRule) := do
  return (← values.mapM parseDomain).flatten

def compileEgressAuthRule (value : EgressCredentialRule) :
    Except CompileError CompiledEgressAuthRule := do
  let authRef := trimSpace value.credentialRef
  if authRef = [] then throw .credentialRefRequired
  let domains ← parseDomains value.domains
  let ports ← parsePorts value.ports
  if let .other _ := value.rollout then throw (.unsupportedRollout value.rollout)
  if let .other _ := value.protocol then throw (.unsupportedAuthProtocol value.protocol)
  if let .other _ := value.tlsMode then throw (.unsupportedTLSMode value.tlsMode)
  if let .other _ := value.failurePolicy then
    throw (.unsupportedFailurePolicy value.failurePolicy)
  return { name := trimSpace value.name, authRef, rollout := value.rollout,
           protocol := value.protocol, tlsMode := value.tlsMode,
           failurePolicy := value.failurePolicy, domains, ports }

def compileEgressAuthRules (values : List EgressCredentialRule) :
    Except CompileError (List CompiledEgressAuthRule) :=
  values.mapM compileEgressAuthRule

def normalizeTrafficRuleAppProtocols (values : List GoString) : List GoString :=
  (values.map fun value => toLower (trimSpace value)).filter (· ≠ [])

/-- The protocols that `validateTrafficRuleAppProtocols` knows. -/
def appProtocols : List GoString :=
  [lit "http", lit "tls", lit "ssh", lit "socks5", lit "mqtt", lit "redis", lit "amqp", lit "dns",
    lit "mongodb", lit "udp"]

def compileTrafficRule (value : TrafficRule) : Except CompileError CompiledTrafficRule := do
  let cidrs ← parseCIDRs texts value.cidrs
  let ports ← parsePorts value.ports
  let domains ← parseDomains value.domains
  let protocols := normalizeTrafficRuleAppProtocols value.appProtocols
  if let .other _ := value.action then throw (.unsupportedAction value.action)
  if cidrs = [] ∧ ports = [] ∧ domains = [] ∧ protocols = [] then throw (.noMatcher value.name)
  match protocols.find? (· ∉ appProtocols) with
  | some protocol => throw (.unsupportedProtocol protocol)
  | none =>
    return { name := trimSpace value.name, action := value.action, cidrs, ports, domains,
             appProtocols := protocols }

def compileTrafficRules (values : List TrafficRule) :
    Except CompileError (List CompiledTrafficRule) :=
  values.mapM (compileTrafficRule texts)

def compileLegacyAllowRules (cidrs : List GoString) (ports : List PortSpec)
    (domains : List GoString) : Except CompileError (List CompiledTrafficRule) := do
  if cidrs = [] ∧ ports = [] ∧ domains = [] then return []
  return [{ name := lit "legacy-allow", action := .allow, cidrs := ← parseCIDRs texts cidrs,
            ports := ← parsePorts ports, domains := ← parseDomains domains }]

def compileLegacyDenyRules (cidrs : List GoString) (ports : List PortSpec)
    (domains : List GoString) : Except CompileError (List CompiledTrafficRule) := do
  let cidrRules ← if cidrs = [] then pure [] else do
    pure [{ name := lit "legacy-deny-cidrs", action := .deny,
            cidrs := ← parseCIDRs texts cidrs : CompiledTrafficRule }]
  let portRules ← if ports = [] then pure [] else do
    pure [{ name := lit "legacy-deny-ports", action := .deny,
            ports := ← parsePorts ports : CompiledTrafficRule }]
  let domainRules ← if domains = [] then pure [] else do
    pure [{ name := lit "legacy-deny-domains", action := .deny,
            domains := ← parseDomains domains : CompiledTrafficRule }]
  return cidrRules ++ portRules ++ domainRules

def compileLegacyTrafficRules (mode : NetworkPolicyMode) (egress : NetworkEgressPolicy) :
    Except CompileError (List CompiledTrafficRule) :=
  match mode with
  | .unset | .allowAll =>
    compileLegacyDenyRules texts egress.deniedCIDRs egress.deniedPorts egress.deniedDomains
  | .blockAll =>
    compileLegacyAllowRules texts egress.allowedCIDRs egress.allowedPorts egress.allowedDomains
  | .other _ => .error (.unsupportedMode mode)

def hasLegacyTrafficLists (egress : NetworkEgressPolicy) : Bool :=
  egress.allowedCIDRs ≠ [] ∨ egress.allowedDomains ≠ [] ∨ egress.deniedCIDRs ≠ [] ∨
    egress.deniedDomains ≠ [] ∨ egress.allowedPorts ≠ [] ∨ egress.deniedPorts ≠ []

/-- The rules of the `egress` part of a spec. -/
def compileEgress (mode : NetworkPolicyMode) (egress : NetworkEgressPolicy) :
    Except CompileError CompiledRuleSet := do
  if egress.trafficRules ≠ [] ∧ hasLegacyTrafficLists egress then throw .mixedRules
  let own ← compileTrafficRules texts egress.trafficRules
  let trafficRules ← if own = [] then compileLegacyTrafficRules texts mode egress else pure own
  let authRules ← compileEgressAuthRules egress.credentialRules
  return { trafficRules, authRules }

/-- `CompileNetworkPolicy`. A nil spec allows everything. -/
def compileNetworkPolicy (spec : Option NetworkPolicySpec) : Except CompileError CompiledPolicy :=
  match spec with
  | none => .ok { mode := .allowAll }
  | some spec => do
    let mode := if spec.mode = .unset then .allowAll else spec.mode
    let egress ← match spec.egress with
      | none => pure {}
      | some egress => compileEgress texts mode egress
    return { sandboxID := spec.sandboxID, teamID := spec.teamID, mode, egress }

/-! ## Matching -/

def matchCIDR (ip : Option IP) (nets : List IPNet) : Bool :=
  match ip with
  | none => false
  | some ip => nets.any (·.contains ip)

/-- `int32(port)` of a port. -/
def int32 (port : Int) : Int := (port + 2 ^ 31) % 2 ^ 32 - 2 ^ 31

def matchPort (port : Int) (protocol : GoString) (ranges : List PortRange) : Bool :=
  ranges.any fun r =>
    (r.protocol = [] ∨ r.protocol = protocol) ∧ r.start ≤ int32 port ∧ int32 port ≤ r.stop

/-- One turn of `matchDomain`. -/
def DomainRule.matches (rule : DomainRule) (host : GoString) : Bool :=
  match rule.type with
  | .exact => host = rule.pattern
  | .suffix => host = rule.pattern ∨ (46 :: rule.pattern).isSuffixOf host

def matchDomain (host : GoString) (rules : List DomainRule) : Bool :=
  rules.any (·.matches host)

def matchString (value : GoString) (rules : List GoString) : Bool := value ∈ rules

/-- A host, a transport or a protocol as the rules are asked for it. -/
def normalized (s : GoString) : GoString := toLower (trimSpace s)

def isOtherSandboxPod (platform : PlatformPolicy) (destIP : Option IP) : Bool :=
  match destIP with
  | none => false
  | some ip =>
    let dest := texts.ipString ip
    dest ≠ [] ∧ dest ≠ platform.sourcePodIP ∧ dest ∈ platform.sandboxPodIPs

def matchTrafficRule (rule : CompiledTrafficRule) (destIP : Option IP) (destPort : Int)
    (transport host appProtocol : GoString) : Bool :=
  (rule.cidrs = [] ∨ matchCIDR destIP rule.cidrs) ∧
  (rule.ports = [] ∨ matchPort destPort transport rule.ports) ∧
  (rule.domains = [] ∨ normalized host ≠ [] ∧ matchDomain (normalized host) rule.domains) ∧
  (rule.appProtocols = [] ∨ appProtocol ≠ [] ∧ matchString appProtocol rule.appProtocols)

/-- `evaluateTrafficRules`: the first rule that matches decides. -/
def evaluateTrafficRules (rules : List CompiledTrafficRule) (mode : NetworkPolicyMode)
    (destIP : Option IP) (destPort : Int) (transport host appProtocol : GoString) : Bool :=
  match rules.find? (matchTrafficRule · destIP destPort transport host appProtocol) with
  | some rule => rule.action = .allow
  | none => mode = .allowAll

def hasExplicitL4AllowList (policy : CompiledPolicy) : Bool :=
  policy.egress.trafficRules ≠ [] ∨ policy.egress.allowedCIDRs ≠ [] ∨
    policy.egress.allowedPorts ≠ []

def hasExplicitDomainAllowList (policy : CompiledPolicy) : Bool :=
  (∃ p ∈ policy.platform, p.allowedDomains ≠ []) ∨
    (∃ rule ∈ policy.egress.trafficRules, rule.action = .allow ∧ rule.domains ≠ []) ∨
    policy.egress.allowedDomains ≠ []

/-- What the platform says about an address: it denies, it allows or it has no rule. -/
def platformVerdict (policy : CompiledPolicy) (destIP : Option IP) : Option Bool :=
  match policy.platform with
  | none => none
  | some platform =>
    if isOtherSandboxPod texts platform destIP ∨ matchCIDR destIP platform.deniedCIDRs then
      some false
    else if matchCIDR destIP platform.allowedCIDRs then some true
    else none

/-- `allowEgressDestination`. No policy allows everything. -/
def allowEgressDestination (policy : Option CompiledPolicy) (destIP : Option IP) (destPort : Int)
    (transport host appProtocol : GoString) : Bool :=
  match policy with
  | none => true
  | some policy =>
    let transport := if normalized transport = [] then lit "tcp" else normalized transport
    let egress := policy.egress
    match platformVerdict texts policy destIP with
    | some verdict => verdict
    | none =>
      if egress.trafficRules ≠ [] then
        evaluateTrafficRules egress.trafficRules policy.mode destIP destPort transport host
          (normalized appProtocol)
      else
        match policy.mode with
        | .allowAll =>
          ¬ matchCIDR destIP egress.deniedCIDRs ∧ ¬ matchPort destPort transport egress.deniedPorts
        | .blockAll =>
          if ¬ hasExplicitL4AllowList policy then host ≠ [] ∧ hasExplicitDomainAllowList policy
          else
            (egress.allowedCIDRs = [] ∨ matchCIDR destIP egress.allowedCIDRs) ∧
              (egress.allowedPorts = [] ∨ matchPort destPort transport egress.allowedPorts)
        | _ => false

def allowEgressL4 (policy : Option CompiledPolicy) (destIP : Option IP) (destPort : Int)
    (protocol : GoString) : Bool :=
  allowEgressDestination texts policy destIP destPort protocol [] []

/-- `UnknownFallbackAction`: whether traffic of no known kind passes through. -/
def unknownPassesThrough (policy : CompiledPolicy) : Bool := policy.mode ≠ .blockAll

def allowUnknownEgressFallback (policy : Option CompiledPolicy) (destIP : Option IP)
    (host : GoString) : Bool :=
  match policy with
  | none => true
  | some policy =>
    let host := normalized host
    match policy.platform with
    | none => unknownPassesThrough policy
    | some platform =>
      if isOtherSandboxPod texts platform destIP then false
      else if matchCIDR destIP platform.deniedCIDRs then false
      else if host ≠ [] ∧ matchDomain host platform.deniedDomains then false
      else if matchCIDR destIP platform.allowedCIDRs then true
      else if host ≠ [] ∧ matchDomain host platform.allowedDomains then true
      else unknownPassesThrough policy

def allowEgressDomain (policy : Option CompiledPolicy) (host : GoString) : Bool :=
  match policy with
  | none => true
  | some policy =>
    let host := normalized host
    if host = [] then false
    else if ∃ p ∈ policy.platform, matchDomain host p.deniedDomains then false
    else if ∃ p ∈ policy.platform, matchDomain host p.allowedDomains then true
    else if policy.egress.trafficRules ≠ [] then true
    else
      match policy.mode with
      | .allowAll => ¬ matchDomain host policy.egress.deniedDomains
      | .blockAll =>
        policy.egress.allowedDomains ≠ [] ∧ matchDomain host policy.egress.allowedDomains
      | _ => false

/-- `HasDomainRules`. The domains of the credential rules are not asked. -/
def hasDomainRules (policy : Option CompiledPolicy) : Bool :=
  match policy with
  | none => false
  | some policy =>
    (∃ p ∈ policy.platform, p.allowedDomains ≠ [] ∨ p.deniedDomains ≠ []) ∨
      (∃ rule ∈ policy.egress.trafficRules, rule.domains ≠ []) ∨
      policy.egress.allowedDomains ≠ [] ∨ policy.egress.deniedDomains ≠ []

def hasTrafficRuleAppProtocol (policy : Option CompiledPolicy) (protocol : GoString) : Bool :=
  match policy with
  | none => false
  | some policy =>
    normalized protocol ≠ [] ∧
      ∃ rule ∈ policy.egress.trafficRules, matchString (normalized protocol) rule.appProtocols

def matchEgressAuthProtocol (ruleProtocol : EgressAuthProtocol)
    (transport classifiedProtocol : GoString) : Bool :=
  match ruleProtocol with
  | .unset => true
  | .http => transport = lit "tcp" ∧ classifiedProtocol = lit "http"
  | .https => transport = lit "tcp" ∧ classifiedProtocol = lit "tls"
  | .grpc =>
    transport = lit "tcp" ∧ (classifiedProtocol = lit "grpc" ∨ classifiedProtocol = lit "tls")
  | .tls => transport = lit "tcp" ∧ classifiedProtocol = lit "tls"
  | .ssh => transport = lit "tcp" ∧ classifiedProtocol = lit "ssh"
  | .socks5 => transport = lit "tcp" ∧ classifiedProtocol = lit "socks5"
  | .mqtt => transport = lit "tcp" ∧ classifiedProtocol = lit "mqtt"
  | .redis => transport = lit "tcp" ∧ classifiedProtocol = lit "redis"
  | .other _ => false

/-- One turn of the loop of `MatchEgressAuthRule`. -/
def CompiledEgressAuthRule.matches (rule : CompiledEgressAuthRule)
    (transport protocol : GoString) (destPort : Int) (host : GoString) : Bool :=
  rule.rollout ≠ .disabled ∧ matchEgressAuthProtocol rule.protocol transport protocol ∧
    (rule.ports = [] ∨ matchPort destPort transport rule.ports) ∧
    (rule.domains = [] ∨ host ≠ [] ∧ matchDomain host rule.domains)

/-- `MatchEgressAuthRule`: the first credential rule that matches. -/
def matchEgressAuthRule (policy : Option CompiledPolicy) (transport protocol : GoString)
    (destPort : Int) (host : GoString) : Option CompiledEgressAuthRule :=
  match policy with
  | none => none
  | some policy =>
    policy.egress.authRules.find?
      (·.matches (normalized transport) (normalized protocol) destPort (normalized host))

end sandbox0.netd.policy
