-- What becomes of a whole plaintext HTTP connection. The first request is
-- classified and decided about, and the connection then ends, is proxied for that one
-- request, or is relayed with every request that follows.
import Sandbox0.NetdEgressAuth

namespace sandbox0.netd.proxy

open sandbox0.net sandbox0.netd.policy

/-- A client's connection: where it was going, and the hosts of its requests in order, as a
server reads them from the bytes. There is a first request. -/
structure HTTPConn where
  origIP : IP
  origPort : Int
  first : GoString
  later : List GoString

/-- The request of a host, as it would be decided about if it came first. -/
def HTTPConn.request (c : HTTPConn) (host : GoString) : HTTPRequest :=
  { host, origIP := c.origIP, origPort := c.origPort }

/-- The requests that get to the upstream. `relayTCPConn` copies what was buffered and then
the rest of the connection. `proxyHTTPRequest` writes the one request that was parsed, with
`Connection: close`, and then only reads. -/
def requestsUpstream (c : HTTPConn) : Handled → List GoString
  | .ended _ => []
  | .relayed => c.first :: c.later
  | .proxied _ => [c.first]

/-- What a connection meets: the verifier of hosts, and what the handler of the decision needs. -/
structure Surroundings where
  verifier : Option HostVerifier
  certs : Certificates
  session : TLSSession
  cfg : NetdConfig
  resolution : Resolution

variable (texts : Texts) (env : Surroundings) (compiled : Option CompiledPolicy)

/-- The decision about a request that comes first on its connection. The destination of a
plaintext HTTP connection greets with no SSH banner. -/
def decideRequest (c : HTTPConn) (host : GoString) : TrafficDecision :=
  decideHTTP texts env.verifier compiled false (c.request host)

/-- `handleTCPConn` of an HTTP connection: the requests that get to the upstream. -/
def handleHTTPConn (c : HTTPConn) : List GoString :=
  requestsUpstream c
    (handleTCPDecision env.certs env.session env.cfg env.resolution
      (decideRequest texts env compiled c c.first))

lemma decideTraffic_protocol (c : TrafficClassification) :
    (decideTraffic texts compiled c).protocol = c.protocol := by
  unfold decideTraffic
  split
  · rfl
  split
  · rfl
  · split
    · rfl
    · split <;> rfl

lemma decideRequest_protocol (c : HTTPConn) (host : GoString) :
    (decideRequest texts env compiled c host).protocol = lit "http" := by
  have hprobe : ∀ x, (probeServerFirstSSH compiled false x) = x := by
    intro x
    simp [probeServerFirstSSH]
  unfold decideRequest decideHTTP
  rw [decideTraffic_protocol, hprobe]
  have hclass : (classifyHTTP (c.request host)).protocol = lit "http" := by
    unfold classifyHTTP
    dsimp only
    split <;> rfl
  rcases verifyClassifiedHost_cases env.verifier compiled (classifyHTTP (c.request host)) with
    hsame | ⟨found, -, hnoted⟩
  · rw [hsame, hclass]
  · rw [hnoted]
    exact hclass

/-- With a credential rule, the HTTP adapter proxies or ends the connection. -/
lemma httpHandle_some (ctx : EgressAuthContext) (c : HTTPConn) :
    ∀ host ∈ requestsUpstream c (httpHandle (some ctx)), host = c.first := by
  have hproxied : ∀ ctx', ∀ host ∈ requestsUpstream c (proxyHTTPRequest ctx'), host = c.first := by
    intro ctx' host hhost
    exact List.mem_singleton.mp hhost
  have hended : ∀ err, ∀ host ∈ requestsUpstream c (.ended err), host = c.first := by
    intro err host hhost
    cases hhost
  unfold httpHandle
  dsimp only
  split
  · exact hproxied _
  split
  · exact hended _
  split
  · exact hended _
  · split
    · exact hended _
    · exact hproxied _

def RelaysAll (d : TrafficDecision) : Prop :=
  d.action = .passThrough ∨ d.action = .useAdapter ∧ d.matchedAuthRule = none

lemma handleHTTPConn_eq (c : HTTPConn) : (RelaysAll (decideRequest texts env compiled c c.first) →
      handleHTTPConn texts env compiled c = c.first :: c.later) ∧
    (¬ RelaysAll (decideRequest texts env compiled c c.first) →
      ∀ host ∈ handleHTTPConn texts env compiled c,
      host = c.first ∧ (decideRequest texts env compiled c c.first).action ≠ .deny) := by
  have hprotocol := decideRequest_protocol texts env compiled c c.first
  have hadapter : resolveAdapter (lit "http") = .http := by decide +kernel
  generalize hd : decideRequest texts env compiled c c.first = d at hprotocol
  constructor
  · rintro (hpass | ⟨huse, hnone⟩)
    · simp [handleHTTPConn, hd, handleTCPDecision, hpass, tcpPassThroughHandle, passThroughHandle,
        requestsUpstream]
    · simp [handleHTTPConn, hd, handleTCPDecision, huse, hnone, hprotocol, hadapter, Adapter.handle,
        httpHandle, requestsUpstream]
  · intro hnot host hhost
    cases haction : d.action with
    | deny =>
      simp [handleHTTPConn, hd, handleTCPDecision, haction, requestsUpstream] at hhost
    | passThrough => exact absurd (Or.inl haction) hnot
    | useAdapter =>
      cases hrule : d.matchedAuthRule with
      | none => exact absurd (Or.inr ⟨haction, hrule⟩) hnot
      | some rule =>
        simp only [handleHTTPConn, hd, handleTCPDecision, haction, hrule, hprotocol, hadapter,
          Adapter.handle, Option.map_some] at hhost
        exact ⟨httpHandle_some _ c host hhost, by decide⟩

def bareSurroundings : Surroundings where
  verifier := none
  certs := noCertificates
  session := noSession
  cfg := enabledConfig
  resolution := .unconfigured

def oneDenied : NetworkPolicySpec where
  sandboxID := lit "s1"
  teamID := lit "t1"
  mode := .allowAll
  egress := some { deniedDomains := [lit "evil.test"] }

end sandbox0.netd.proxy
