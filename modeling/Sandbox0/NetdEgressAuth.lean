-- How the adapters of `netd/pkg/proxy` put credentials into a connection. The
-- rule that a decision names is resolved to directives, each adapter takes the
-- material of its own kind out of them, and what happens without material is
-- said by the rule's failure policy.
import Sandbox0.NetdProxy

namespace sandbox0.netd.proxy

open sandbox0.net sandbox0.netd.policy Option

/-! ## What a resolver answers -/

/-- `egressauth.ResolveDirectiveKind`. -/
inductive DirectiveKind where
  | httpHeaders
  | grpcMetadata
  | tlsClientCertificate
  | usernamePassword
  | sshProxy
  | sshAgentSign
  | custom
  | other (text : GoString)
  deriving DecidableEq

abbrev Headers := GoMap GoString GoString

structure TLSClientCertificateDirective where
  certificatePEM : GoString
  privateKeyPEM : GoString
  caPEM : GoString

structure UsernamePasswordDirective where
  username : GoString
  password : GoString

structure SSHProxyDirective where
  sandboxPublicKeys : List GoString
  upstreamUsername : GoString
  privateKeyPEM : GoString
  passphrase : GoString
  knownHosts : List GoString

structure ResolveDirective where
  kind : DirectiveKind
  httpHeaders : Option Headers := none
  tlsClientCertificate : Option TLSClientCertificateDirective := none
  usernamePassword : Option UsernamePasswordDirective := none
  sshProxy : Option SSHProxyDirective := none

structure ResolveResponse where
  directives : List ResolveDirective := []
  headers : Headers := ∅

def ResolveResponse.names (r : ResolveResponse) : Bool :=
  r.directives ≠ [] ∨ r.headers.isEmpty = false

/-- The errors of the egress auth: the four of the package, and those of a resolver. -/
inductive AuthError where
  | resolverUnconfigured
  | directiveUnsupported
  | materialUnavailable
  | directiveInvalid
  | resolve (text : GoString)
  deriving DecidableEq

/-! ## The material of an adapter -/

structure ResolvedTLSClientCertificate where
  certificatePEM : GoString
  privateKeyPEM : GoString
  rootCAs : GoString

structure ResolvedUsernamePassword where
  username : GoString
  password : GoString

structure ResolvedSSHProxy where
  sandboxPublicKeys : List GoString
  upstreamUsername : GoString
  privateKeyPEM : GoString
  passphrase : GoString
  knownHosts : List GoString

/-- The parts of `crypto/tls` and `crypto/x509` that read certificates. -/
structure Certificates where
  x509KeyPair : GoString → GoString → Bool
  appendCertsFromPEM : GoString → Bool

/-- What is refused because the adapter does not inject into this connection. -/
def refuseDirectives (r : ResolveResponse) : AuthError :=
  if r.names then .directiveUnsupported else .materialUnavailable

/-- The loop over the directives of `resolveHTTPHeadersForAdapter`. -/
def collectHeaders : List ResolveDirective → Headers → Except AuthError Headers
  | [], headers => .ok headers
  | d :: ds, headers =>
    if d.kind ≠ .httpHeaders then .error .directiveUnsupported
    else collectHeaders ds
      ((d.httpHeaders.getD ∅).toList.foldl (fun m p => m.insert p.1 p.2) headers)

def resolveHTTPHeadersForAdapter (r : ResolveResponse) (allow : Bool) : Except AuthError Headers :=
  if r.directives.isEmpty ∧ r.headers.isEmpty = false then
    if allow then .ok r.headers else .error .directiveUnsupported
  else if allow = false then .error (refuseDirectives r)
  else do
    let headers ← collectHeaders r.directives ∅
    if headers.isEmpty then throw .materialUnavailable
    return headers

/-- The loop over the directives that the other three share: the first
directive of the kind with a payload gives the material, and a directive of
another kind is not supported. -/
def firstMaterial {π μ : Type} (kind : DirectiveKind) (payload : ResolveDirective → Option π)
    (material : π → Option μ) (r : ResolveResponse) :
    List ResolveDirective → Except AuthError μ
  | [] => .error (if r.headers.isEmpty then .materialUnavailable else .directiveUnsupported)
  | d :: ds =>
    if d.kind ≠ kind then .error .directiveUnsupported
    else
      match payload d with
      | none => firstMaterial kind payload material r ds
      | some p =>
        match material p with
        | none => .error .directiveInvalid
        | some m => .ok m

def resolveForAdapter {π μ : Type} (kind : DirectiveKind) (payload : ResolveDirective → Option π)
    (material : π → Option μ) (r : ResolveResponse) (allow : Bool) : Except AuthError μ :=
  if allow = false then .error (refuseDirectives r)
  else firstMaterial kind payload material r r.directives

def resolveTLSClientCertificateForAdapter (certs : Certificates) :
    ResolveResponse → Bool → Except AuthError ResolvedTLSClientCertificate :=
  resolveForAdapter .tlsClientCertificate (·.tlsClientCertificate) fun d =>
    if certs.x509KeyPair d.certificatePEM d.privateKeyPEM = false then none
    else if trimSpace d.caPEM ≠ [] ∧ certs.appendCertsFromPEM (trimSpace d.caPEM) = false then none
    else some { certificatePEM := d.certificatePEM, privateKeyPEM := d.privateKeyPEM,
                rootCAs := trimSpace d.caPEM }

def resolveUsernamePasswordForAdapter :
    ResolveResponse → Bool → Except AuthError ResolvedUsernamePassword :=
  resolveForAdapter .usernamePassword (·.usernamePassword) fun d =>
    let username := trimSpace d.username
    let password := trimSpace d.password
    if username = [] ∨ password = [] then none else some { username, password }

def resolveSSHProxyForAdapter : ResolveResponse → Bool → Except AuthError ResolvedSSHProxy :=
  resolveForAdapter .sshProxy (·.sshProxy) fun d =>
    let upstreamUsername := trimSpace d.upstreamUsername
    let privateKeyPEM := trimSpace d.privateKeyPEM
    if upstreamUsername = [] ∨ privateKeyPEM = [] ∨ d.sandboxPublicKeys = [] then none
    else some { sandboxPublicKeys := d.sandboxPublicKeys, upstreamUsername, privateKeyPEM,
                passphrase := d.passphrase, knownHosts := d.knownHosts }

/-! ## The context of a matched rule -/

structure EgressAuthContext where
  rule : CompiledEgressAuthRule
  resolved : Option ResolveResponse := none
  resolvedHeaders : Headers := ∅
  resolvedTLSClientCertificate : Option ResolvedTLSClientCertificate := none
  resolvedUsernamePassword : Option ResolvedUsernamePassword := none
  resolvedSSHProxy : Option ResolvedSSHProxy := none
  cacheHit : Bool := false
  resolveAttempt : Bool := false
  resolveError : Option AuthError := none
  failurePolicy : GoString
  bypassReason : GoString := []
  enforcementReason : GoString := []

def EgressAuthContext.shouldBypass (ctx : EgressAuthContext) : Bool := ctx.bypassReason ≠ []

def EgressAuthContext.failOpen (ctx : EgressAuthContext) : Bool :=
  ctx.failurePolicy = lit "fail-open"

/-- The parts of `config.NetdConfig` that the egress auth reads. -/
structure NetdConfig where
  egressAuthEnabled : Bool
  egressAuthFailurePolicy : GoString

def failurePolicyText : EgressAuthFailurePolicy → GoString
  | .unset => []
  | .failClosed => lit "fail-closed"
  | .failOpen => lit "fail-open"
  | .other text => text

def egressAuthFailurePolicy (cfg : NetdConfig) (rule : CompiledEgressAuthRule) : GoString :=
  if failurePolicyText rule.failurePolicy ≠ [] then failurePolicyText rule.failurePolicy
  else if trimSpace cfg.egressAuthFailurePolicy ≠ [] then trimSpace cfg.egressAuthFailurePolicy
  else lit "fail-closed"

def applyEgressAuthFailurePolicy (ctx : EgressAuthContext)
    (reason : GoString) : EgressAuthContext :=
  if ctx.failOpen then { ctx with bypassReason := reason }
  else { ctx with enforcementReason := reason }

def applyEgressAuthDirectiveError (ctx : EgressAuthContext) (err : AuthError) : EgressAuthContext :=
  applyEgressAuthFailurePolicy ctx
    (match err with
    | .directiveUnsupported => lit "unsupported_directive"
    | .materialUnavailable => lit "material_unavailable"
    | .directiveInvalid => lit "invalid_directive"
    | _ => lit "resolve_error")

/-- What becomes of the lookup of a rule's material: the cache has it, no resolver
is configured, or the resolver fails, answers nil or answers with a response. -/
inductive Resolution where
  | cached (r : ResolveResponse)
  | unconfigured
  | failed (text : GoString)
  | empty
  | resolved (r : ResolveResponse)

def Resolution.response : Resolution → Option ResolveResponse
  | .cached r | .resolved r => some r
  | _ => none

def attachEgressAuth (cfg : NetdConfig) (rule : CompiledEgressAuthRule) (res : Resolution) :
    EgressAuthContext :=
  let ctx : EgressAuthContext := { rule, failurePolicy := egressAuthFailurePolicy cfg rule }
  if cfg.egressAuthEnabled = false then { ctx with bypassReason := lit "cluster_disabled" }
  else
    match res with
    | .cached r =>
      { ctx with resolved := some r, cacheHit := true, enforcementReason := lit "cache_hit" }
    | .unconfigured =>
      applyEgressAuthFailurePolicy { ctx with resolveError := some .resolverUnconfigured }
        (lit "resolver_unconfigured")
    | .failed text =>
      applyEgressAuthFailurePolicy
        { ctx with resolveAttempt := true, resolveError := some (.resolve text) }
          (lit "resolve_error")
    | .empty =>
      applyEgressAuthFailurePolicy { ctx with resolveAttempt := true } (lit "material_unavailable")
    | .resolved r =>
      { ctx with resolved := some r, resolveAttempt := true, enforcementReason := lit "resolved" }

/-- What the four `prepare…Directives` share: the material goes into the context,
or the failure policy is applied to what is missing. -/
def prepareDirectives {μ : Type} (resolve : ResolveResponse → Except AuthError μ)
    (store : EgressAuthContext → μ → EgressAuthContext) (ctx : EgressAuthContext) :
    Option AuthError × EgressAuthContext :=
  if ctx.shouldBypass then (none, ctx)
  else
    match ctx.resolveError, ctx.resolved with
    | some err, _ => (some err, ctx)
    | none, none =>
      (some .materialUnavailable, applyEgressAuthFailurePolicy ctx (lit "material_unavailable"))
    | none, some r =>
      match resolve r with
      | .ok m => (none, store ctx m)
      | .error err => (some err, applyEgressAuthDirectiveError ctx err)

def prepareHTTPHeaderDirectives (allow : Bool) :
    EgressAuthContext → Option AuthError × EgressAuthContext :=
  prepareDirectives (resolveHTTPHeadersForAdapter · allow) fun ctx m =>
    { ctx with resolvedHeaders := m }

def prepareTLSClientCertificateDirectives (certs : Certificates) (allow : Bool) :
    EgressAuthContext → Option AuthError × EgressAuthContext :=
  prepareDirectives (resolveTLSClientCertificateForAdapter certs · allow) fun ctx m =>
    { ctx with resolvedTLSClientCertificate := some m }

def prepareUsernamePasswordDirectives (allow : Bool) :
    EgressAuthContext → Option AuthError × EgressAuthContext :=
  prepareDirectives (resolveUsernamePasswordForAdapter · allow) fun ctx m =>
    { ctx with resolvedUsernamePassword := some m }

def prepareSSHProxyDirectives (allow : Bool) :
    EgressAuthContext → Option AuthError × EgressAuthContext :=
  prepareDirectives (resolveSSHProxyForAdapter · allow) fun ctx m =>
    { ctx with resolvedSSHProxy := some m }

/-! ## The adapters -/

inductive Material where
  | headers (headers : Headers)
  | certificate (certificate : ResolvedTLSClientCertificate)
  | usernamePassword (login : ResolvedUsernamePassword)
  | sshProxy (proxy : ResolvedSSHProxy)

inductive MaterialKind where
  | headers
  | certificate
  | usernamePassword
  | sshProxy
  deriving DecidableEq

def Material.kind : Material → MaterialKind
  | .headers _ => .headers
  | .certificate _ => .certificate
  | .usernamePassword _ => .usernamePassword
  | .sshProxy _ => .sshProxy

inductive AdapterError where
  | denied
  | directivesUnsupported (authRef : GoString)
  | prepareFailed (authRef : GoString) (err : AuthError)
  | resolveFailed (authRef : GoString) (err : AuthError)
  | materialMissing (authRef : GoString)
  | destinationMissing
  | hostMissing
  | prefixUnread
  | authorityMissing
  | certificateIssue
  | handshakeFailed
  | grpcNeedsH2
  | upstreamFailed

/-- How a handler ends: without a byte for the destination, with the client's
bytes relayed as they are, or in a proxy session with what it injects. -/
inductive Handled where
  | ended (err : AdapterError)
  | relayed
  | proxied (injected : Option Material)

/-- What the surroundings of a TLS interception do. -/
structure TLSSession where
  destination : Bool
  host : Bool
  prefixRead : Bool
  authority : Bool
  certificate : Bool
  handshake : Bool
  negotiatedH2 : Bool
  upstream : Bool

def proxyHTTPRequest (ctx : EgressAuthContext) : Handled :=
  .proxied (if ctx.resolvedHeaders.isEmpty then none else some (.headers ctx.resolvedHeaders))

/-- The start of `proxyHTTPSRequest` and `proxyTLSStream`, up to the handshake
with the client: nothing when the session goes on. -/
def interceptTLS (session : TLSSession) (ctx : EgressAuthContext) : Option Handled :=
  if session.destination = false then some (.ended .destinationMissing)
  else if session.host = false then some (.ended .hostMissing)
  else if session.prefixRead = false then some (.ended .prefixUnread)
  else if ctx.shouldBypass then some .relayed
  else if session.authority = false then
    some (if ctx.failOpen then .relayed else .ended .authorityMissing)
  else if session.certificate = false then
    some (if ctx.failOpen then .relayed else .ended .certificateIssue)
  else if session.handshake = false then some (.ended .handshakeFailed)
  else none

def proxyHTTPSRequest (session : TLSSession) (ctx : EgressAuthContext) : Handled :=
  match interceptTLS session ctx with
  | some handled => handled
  | none =>
    match ctx.resolveError with
    | some err => .ended (.resolveFailed ctx.rule.authRef err)
    | none =>
      if ctx.resolved.isNone ∨ ctx.resolvedHeaders.isEmpty then
        .ended (.materialMissing ctx.rule.authRef)
      else if ctx.rule.protocol = .grpc ∧ session.negotiatedH2 = false then .ended .grpcNeedsH2
      else if session.negotiatedH2 = false ∧ session.upstream = false then .ended .upstreamFailed
      else .proxied (some (.headers ctx.resolvedHeaders))

def proxyTLSStream (session : TLSSession) (ctx : EgressAuthContext) : Handled :=
  match interceptTLS session ctx with
  | some handled => handled
  | none =>
    if session.upstream = false then .ended .upstreamFailed
    else .proxied (ctx.resolvedTLSClientCertificate.map .certificate)

/-- `(*httpAdapter).Handle`. Other errors of the preparation than an unsupported
directive are found again in the context. -/
def httpHandle : Option EgressAuthContext → Handled
  | none => .relayed
  | some ctx =>
    let (err, ctx) := prepareHTTPHeaderDirectives true ctx
    if ctx.shouldBypass then proxyHTTPRequest ctx
    else if err = some .directiveUnsupported then .ended (.directivesUnsupported ctx.rule.authRef)
    else
      match ctx.resolveError with
      | some err => .ended (.resolveFailed ctx.rule.authRef err)
      | none =>
        if ctx.resolved.isNone ∨ ctx.resolvedHeaders.isEmpty then
          .ended (.materialMissing ctx.rule.authRef)
        else proxyHTTPRequest ctx

def tlsTerminationRequired (ctx : EgressAuthContext) : Bool :=
  ctx.rule.tlsMode = .terminateReoriginate

/-- The part of `(*tlsAdapter).Handle` for a rule of the protocol `tls`. -/
def tlsCertificateHandle (certs : Certificates) (session : TLSSession) (ctx : EgressAuthContext) :
    Handled :=
  let (err, ctx) := prepareTLSClientCertificateDirectives certs (tlsTerminationRequired ctx) ctx
  if ctx.shouldBypass then .relayed
  else
    match err, ctx.resolveError with
    | some err, _ => .ended (.prepareFailed ctx.rule.authRef err)
    | none, some err => .ended (.resolveFailed ctx.rule.authRef err)
    | none, none =>
      if ctx.resolvedTLSClientCertificate.isNone then .ended (.materialMissing ctx.rule.authRef)
      else proxyTLSStream session ctx

/-- `(*tlsAdapter).Handle`. With a rule of another protocol than `tls`, an error of
the preparation that is no unsupported directive falls through, and without TLS
termination the connection is then relayed. -/
def tlsHandle (certs : Certificates) (session : TLSSession) : Option EgressAuthContext → Handled
  | none => .relayed
  | some ctx =>
    if ctx.rule.protocol = .tls then tlsCertificateHandle certs session ctx
    else
      let (err, ctx) := prepareHTTPHeaderDirectives (tlsTerminationRequired ctx) ctx
      if ctx.shouldBypass then .relayed
      else if err = some .directiveUnsupported then .ended (.directivesUnsupported ctx.rule.authRef)
      else if tlsTerminationRequired ctx then proxyHTTPSRequest session ctx
      else .relayed

/-- What the handlers of `ssh`, `socks5`, `mqtt` and `redis` share behind their
preparation. -/
def handlePrepared (material : EgressAuthContext → Option Material)
    (prepared : Option AuthError × EgressAuthContext) : Handled :=
  let (err, ctx) := prepared
  if ctx.shouldBypass then .relayed
  else
    match err, ctx.resolveError with
    | some .directiveUnsupported, _ => .ended (.directivesUnsupported ctx.rule.authRef)
    | some err, _ => .ended (.prepareFailed ctx.rule.authRef err)
    | none, some err => .ended (.resolveFailed ctx.rule.authRef err)
    | none, none =>
      match material ctx with
      | none => .ended (.materialMissing ctx.rule.authRef)
      | some m => .proxied (some m)

def loginMaterial (ctx : EgressAuthContext) : Option Material :=
  ctx.resolvedUsernamePassword.map .usernamePassword

def sshMaterial (ctx : EgressAuthContext) : Option Material := ctx.resolvedSSHProxy.map .sshProxy

def sshHandle : Option EgressAuthContext → Handled
  | none => .relayed
  | some ctx => handlePrepared sshMaterial (prepareSSHProxyDirectives true ctx)

/-- The handlers of `socks5`, `mqtt` and `redis`, which log in with a name and a password. -/
def loginHandle : Option EgressAuthContext → Handled
  | none => .relayed
  | some ctx => handlePrepared loginMaterial (prepareUsernamePasswordDirectives true ctx)

def socks5Handle : Option EgressAuthContext → Handled := loginHandle
def mqttHandle : Option EgressAuthContext → Handled := loginHandle
def redisHandle : Option EgressAuthContext → Handled := loginHandle

/-- The handlers of `amqp`, `dns`, `mongodb` and the TCP fallback, which do not look
at the context. -/
def passThroughHandle : Option EgressAuthContext → Handled := fun _ => .relayed

def amqpHandle : Option EgressAuthContext → Handled := passThroughHandle
def dnsHandle : Option EgressAuthContext → Handled := passThroughHandle
def mongodbHandle : Option EgressAuthContext → Handled := passThroughHandle
def tcpPassThroughHandle : Option EgressAuthContext → Handled := passThroughHandle

/-! ## The registry -/

/-- The TCP adapters that `NewServer` registers. -/
inductive Adapter where
  | http
  | amqp
  | dns
  | mqtt
  | mongodb
  | redis
  | socks5
  | ssh
  | tls
  | tcpPassThrough
  deriving DecidableEq

def Adapter.handle (certs : Certificates) (session : TLSSession) :
    Adapter → Option EgressAuthContext → Handled
  | .http => httpHandle
  | .amqp => amqpHandle
  | .dns => dnsHandle
  | .mqtt => mqttHandle
  | .mongodb => mongodbHandle
  | .redis => redisHandle
  | .socks5 => socks5Handle
  | .ssh => sshHandle
  | .tls => tlsHandle certs session
  | .tcpPassThrough => tcpPassThroughHandle

def Adapter.protocol : Adapter → GoString
  | .http => lit "http"
  | .amqp => lit "amqp"
  | .dns => lit "dns"
  | .mqtt => lit "mqtt"
  | .mongodb => lit "mongodb"
  | .redis => lit "redis"
  | .socks5 => lit "socks5"
  | .ssh => lit "ssh"
  | .tls => lit "tls"
  | .tcpPassThrough => lit "unknown"

/-- `(*adapterRegistry).Resolve` for TCP: a protocol without an adapter gets the fallback. -/
def resolveAdapter (protocol : GoString) : Adapter :=
  ([.http, .amqp, .dns, .mqtt, .mongodb, .redis, .socks5, .ssh, .tls] : List Adapter).find?
    (·.protocol = protocol) |>.getD .tcpPassThrough

/-- `handleTCPDecision`. Only a decision for an adapter gets the credential rule attached. -/
def handleTCPDecision (certs : Certificates) (session : TLSSession) (cfg : NetdConfig)
    (res : Resolution) (d : TrafficDecision) : Handled :=
  match d.action with
  | .deny => .ended .denied
  | .passThrough => tcpPassThroughHandle none
  | .useAdapter =>
    (resolveAdapter d.protocol).handle certs session
      (d.matchedAuthRule.map (attachEgressAuth cfg · res))

/-! ## Fail closed -/

/-- The material that an adapter injects for a rule. -/
def Adapter.injects (rule : CompiledEgressAuthRule) : Adapter → Option MaterialKind
  | .http => some .headers
  | .tls => some (if rule.protocol = .tls then .certificate else .headers)
  | .ssh => some .sshProxy
  | .socks5 | .mqtt | .redis => some .usernamePassword
  | .amqp | .dns | .mongodb | .tcpPassThrough => none

/-- No byte of the client went out, or it went out with material of the kind. -/
def Handled.FailsClosed (kind : Option MaterialKind) : Handled → Prop
  | .ended _ => True
  | .relayed => False
  | .proxied injected => ∃ m ∈ injected, kind = some m.kind

instance (kind : Option MaterialKind) (h : Handled) : Decidable (h.FailsClosed kind) := by
  unfold Handled.FailsClosed
  split <;> infer_instance

/-- The adapter enforces the rule: it is not one of those that pass everything
through, and a TLS connection is terminated for the rule, or else the lookup came
back with something that the adapter can refuse. -/
def Adapter.Enforces (rule : CompiledEgressAuthRule) (res : Resolution) : Adapter → Prop
  | .http | .ssh | .socks5 | .mqtt | .redis => True
  | .tls =>
    rule.protocol = .tls ∨ rule.tlsMode = .terminateReoriginate ∨ ∃ r ∈ res.response, r.names
  | .amqp | .dns | .mongodb | .tcpPassThrough => False

/-- A context that is not bypassed, and under a policy that does not open. -/
def EgressAuthContext.Strict (ctx : EgressAuthContext) : Prop :=
  ctx.shouldBypass = false ∧ ctx.failOpen = false

variable {ctx : EgressAuthContext} {rule : CompiledEgressAuthRule} {μ : Type}
    {session : TLSSession} {certs : Certificates} {res : Resolution}

lemma applyEgressAuthFailurePolicy_strict (h : ctx.Strict) (reason : GoString) :
    applyEgressAuthFailurePolicy ctx reason = { ctx with enforcementReason := reason } := by
  simp [applyEgressAuthFailurePolicy, h.2]

/-- What the attached context of an enabled, fail-closed rule looks like. -/
structure Attached (rule : CompiledEgressAuthRule) (res : Resolution) (ctx : EgressAuthContext) :
    Prop where
  strict : ctx.Strict
  rule : ctx.rule = rule
  resolved : ctx.resolved = res.response
  /-- The resolver's own errors are not those of the directives. -/
  resolveError : ctx.resolveError ≠ some .directiveUnsupported
  noError : ∀ r, res.response = some r → ctx.resolveError = none

open EgressAuthContext

lemma attachEgressAuth_attached {cfg : NetdConfig} (henabled : cfg.egressAuthEnabled = true)
    (hclosed : egressAuthFailurePolicy cfg rule = lit "fail-closed") (res : Resolution) :
    Attached rule res (attachEgressAuth cfg rule res) := by
  have hopen : lit "fail-closed" ≠ lit "fail-open" := by decide +kernel
  cases res <;> constructor <;>
    simp [attachEgressAuth, henabled, applyEgressAuthFailurePolicy, Strict,
      failOpen, shouldBypass, hclosed, hopen, Resolution.response]

section

variable (resolve : ResolveResponse → Except AuthError μ)
    (store : EgressAuthContext → μ → EgressAuthContext)

/-- The preparation of a strict context finds the material, or it says why not and
leaves the context strict. -/
lemma prepareDirectives_strict (h : ctx.Strict) :
    (∃ r m, ctx.resolved = some r ∧ resolve r = .ok m ∧
        prepareDirectives resolve store ctx = (none, store ctx m)) ∨
      ∃ err ctx', prepareDirectives resolve store ctx = (some err, ctx') ∧ ctx'.Strict ∧
        ctx'.rule = ctx.rule ∧
        (ctx.resolveError = some err ∨ ctx.resolved = none ∧ err = .materialUnavailable ∨
          ∃ r, ctx.resolved = some r ∧ resolve r = .error err) := by
  have hnot : ¬ ctx.shouldBypass = true := by simp [h.1]
  unfold prepareDirectives
  rw [if_neg hnot]
  split
  · rename_i herr
    exact .inr ⟨_, ctx, rfl, h, rfl, .inl herr⟩
  · rename_i _ hnone
    rw [applyEgressAuthFailurePolicy_strict h]
    exact .inr ⟨_, _, rfl, h, rfl, .inr (.inl ⟨hnone, rfl⟩)⟩
  rename_i r _ hr
  cases hm : resolve r with
  | ok m => exact .inl ⟨r, m, hr, hm, rfl⟩
  | error err =>
    simp only [applyEgressAuthDirectiveError]
    rw [applyEgressAuthFailurePolicy_strict h]
    exact .inr ⟨err, _, rfl, h, rfl, .inr (.inr ⟨r, hr, hm⟩)⟩

lemma prepareDirectives_keeps (h : ctx.Strict)
    (hstore : ∀ m, (store ctx m).Strict ∧ (store ctx m).rule = ctx.rule) :
    (prepareDirectives resolve store ctx).2.Strict ∧
      (prepareDirectives resolve store ctx).2.rule = ctx.rule := by
  rcases prepareDirectives_strict resolve store h with ⟨_, m, _, _, hp⟩ | ⟨_, _, hp, h', hrule, _⟩
  · rw [hp]
    exact hstore m
  · rw [hp]
    exact ⟨h', hrule⟩

lemma handlePrepared_failsClosed {kind : MaterialKind}
    {material : EgressAuthContext → Option Material} (h : ctx.Strict)
    (hstore : ∀ m, (store ctx m).Strict ∧ (store ctx m).rule = ctx.rule)
    (hkind : ∀ ctx m, material ctx = some m → m.kind = kind) :
    (handlePrepared material (prepareDirectives resolve store ctx)).FailsClosed (some kind) := by
  have hany : ∀ err (ctx' : EgressAuthContext), ctx'.Strict →
      (handlePrepared material (err, ctx')).FailsClosed (some kind) := by
    intro err ctx' h'
    simp only [handlePrepared, h'.1, Bool.false_eq_true, if_false]
    split
    · trivial
    · trivial
    · trivial
    split
    · trivial
    · rename_i m hm
      exact ⟨m, rfl, by rw [hkind _ _ hm]⟩
  exact hany _ _ (prepareDirectives_keeps resolve store h hstore).1

end

lemma proxyHTTPRequest_failsClosed (h : ¬ (ctx.resolved.isNone ∨ ctx.resolvedHeaders.isEmpty)) :
    (proxyHTTPRequest ctx).FailsClosed (some .headers) := by
  have hne : ¬ ctx.resolvedHeaders.isEmpty = true := fun he => h (.inr he)
  unfold proxyHTTPRequest
  rw [if_neg hne]
  exact ⟨_, rfl, rfl⟩

lemma httpHandle_failsClosed (h : ctx.Strict) :
    (httpHandle (some ctx)).FailsClosed (some .headers) := by
  have hstrict : (prepareHTTPHeaderDirectives true ctx).2.Strict :=
    (prepareDirectives_keeps _ _ h fun _ => ⟨h, rfl⟩).1
  unfold httpHandle
  simp only [hstrict.1, Bool.false_eq_true, if_false]
  split
  · trivial
  split
  · trivial
  split
  · trivial
  · rename_i hmaterial
    exact proxyHTTPRequest_failsClosed hmaterial

lemma interceptTLS_ended (h : ctx.Strict) {handled : Handled}
    (hi : interceptTLS session ctx = some handled) (kind : Option MaterialKind) :
    handled.FailsClosed kind := by
  simp only [interceptTLS, h.1, h.2, Bool.false_eq_true, if_false] at hi
  split at hi
  · cases hi; trivial
  split at hi
  · cases hi; trivial
  split at hi
  · cases hi; trivial
  split at hi
  · cases hi; trivial
  split at hi
  · cases hi; trivial
  · split at hi
    · cases hi; trivial
    · cases hi

lemma proxyHTTPSRequest_failsClosed
    (h : ctx.Strict) : (proxyHTTPSRequest session ctx).FailsClosed (some .headers) := by
  unfold proxyHTTPSRequest
  split
  · rename_i hi
    exact interceptTLS_ended h hi _
  split
  · trivial
  split
  · trivial
  split
  · trivial
  · split
    · trivial
    · exact ⟨_, rfl, rfl⟩

lemma tlsCertificateHandle_failsClosed (h : ctx.Strict) :
    (tlsCertificateHandle certs session ctx).FailsClosed (some .certificate) := by
  have hstrict :
    (prepareTLSClientCertificateDirectives certs (tlsTerminationRequired ctx) ctx).2.Strict :=
    (prepareDirectives_keeps _ _ h fun _ => ⟨h, rfl⟩).1
  unfold tlsCertificateHandle
  simp only [hstrict.1, Bool.false_eq_true, if_false]
  split
  · trivial
  · trivial
  split
  · trivial
  rename_i hsome
  obtain ⟨c, hc⟩ := ne_none_iff_exists'.mp (by simpa using hsome)
  unfold proxyTLSStream
  split
  · rename_i hi
    exact interceptTLS_ended hstrict hi _
  split
  · trivial
  · rw [hc]
    exact ⟨.certificate c, rfl, rfl⟩

lemma tlsHandle_terminated (h : Attached rule res ctx) (hprotocol : rule.protocol ≠ .tls)
    (hmode : rule.tlsMode = .terminateReoriginate) :
    (tlsHandle certs session (some ctx)).FailsClosed (Adapter.tls.injects rule) := by
  have hnotTLS : ctx.rule.protocol ≠ .tls := by rw [h.rule]; exact hprotocol
  have hterm : tlsTerminationRequired ctx = true := by simp [tlsTerminationRequired, h.rule, hmode]
  obtain ⟨hstrict, hrule⟩ := prepareDirectives_keeps (resolveHTTPHeadersForAdapter · true)
    (fun ctx m => { ctx with resolvedHeaders := m }) h.strict fun _ => ⟨h.strict, rfl⟩
  have hterm' : tlsTerminationRequired (prepareHTTPHeaderDirectives true ctx).2 = true := by
    simp [tlsTerminationRequired, prepareHTTPHeaderDirectives, hrule, h.rule, hmode]
  simp only [tlsHandle, if_neg hnotTLS, hterm, Adapter.injects, if_neg hprotocol, hterm',
    show (prepareHTTPHeaderDirectives true ctx).2.shouldBypass = false from hstrict.1,
    Bool.false_eq_true, if_false, if_true]
  split
  · trivial
  · exact proxyHTTPSRequest_failsClosed hstrict

/-- Without termination the headers of a response are always refused, as not
supported when there is something to refuse. -/
lemma resolveHTTPHeadersForAdapter_refuses (r : ResolveResponse) :
    resolveHTTPHeadersForAdapter r false = .error (refuseDirectives r) := by
  unfold resolveHTTPHeadersForAdapter
  split
  · rename_i h
    simp [refuseDirectives, ResolveResponse.names, h.2]
  · rfl

/-- A TLS connection that is not terminated ends exactly when the lookup came back
with something to refuse; else it is relayed. -/
lemma tlsHandle_passthrough (h : Attached rule res ctx) (hprotocol : rule.protocol ≠ .tls)
    (hmode : rule.tlsMode ≠ .terminateReoriginate) (kind : Option MaterialKind) :
    (tlsHandle certs session (some ctx)).FailsClosed kind ↔ ∃ r ∈ res.response, r.names := by
  have hnotTLS : ctx.rule.protocol ≠ .tls := by rw [h.rule]; exact hprotocol
  have hterm : tlsTerminationRequired ctx = false := by simp [tlsTerminationRequired, h.rule, hmode]
  unfold tlsHandle
  simp only [if_neg hnotTLS, hterm]
  rcases prepareDirectives_strict (resolveHTTPHeadersForAdapter · false)
    (fun ctx m => { ctx with resolvedHeaders := m }) h.strict with
    ⟨r, m, _, hm, _⟩ | ⟨err, ctx', hp, h', hrule, hwhy⟩
  · rw [resolveHTTPHeadersForAdapter_refuses] at hm
    cases hm
  have hterm' : tlsTerminationRequired ctx' = false := by
    simp [tlsTerminationRequired, hrule, h.rule, hmode]
  simp only [prepareHTTPHeaderDirectives, hp, h'.1, hterm', Bool.false_eq_true, if_false]
  rw [h.resolved] at hwhy
  rcases hwhy with herr | ⟨hnone, rfl⟩ | ⟨r, hr, hm⟩
  · have hne : err ≠ .directiveUnsupported := fun he => h.resolveError (by rw [herr, he])
    have hnoResponse : res.response = none := by
      by_contra hs
      obtain ⟨r, hr⟩ := ne_none_iff_exists'.mp hs
      rw [h.noError r hr] at herr
      cases herr
    simp [hne, hnoResponse, Handled.FailsClosed]
  · simp [hnone, Handled.FailsClosed]
  · rw [resolveHTTPHeadersForAdapter_refuses] at hm
    have herr : refuseDirectives r = err := Except.error.inj hm
    by_cases hnames : r.names = true
    · have hrefuse : err = .directiveUnsupported := by
        rw [← herr]
        simp [refuseDirectives, hnames]
      simp [hrefuse, hr, hnames, Handled.FailsClosed]
    · have hrefuse : err = .materialUnavailable := by
        rw [← herr]
        simp [refuseDirectives, hnames]
      simp [hrefuse, hr, hnames, Handled.FailsClosed]

/-- A fail-closed rule fails closed exactly at the adapters that enforce it. -/
theorem fail_closed_rule_fails_closed (certs : Certificates) (session : TLSSession)
    {cfg : NetdConfig} {rule : CompiledEgressAuthRule} (henabled : cfg.egressAuthEnabled = true)
    (hclosed : egressAuthFailurePolicy cfg rule = lit "fail-closed") (res : Resolution)
    (adapter : Adapter) :
    (adapter.handle certs session (some (attachEgressAuth cfg rule res))).FailsClosed
      (adapter.injects rule) ↔ adapter.Enforces rule res := by
  have hat := attachEgressAuth_attached henabled hclosed res
  have hlogin : (loginHandle (some (attachEgressAuth cfg rule res))).FailsClosed
      (some .usernamePassword) := by
    refine handlePrepared_failsClosed (resolveUsernamePasswordForAdapter · true)
      (fun ctx m => { ctx with resolvedUsernamePassword := some m }) hat.strict
      (fun _ => ⟨hat.strict, rfl⟩) ?_
    intro ctx m hm
    simp only [loginMaterial, Option.map_eq_some_iff] at hm
    obtain ⟨_, _, rfl⟩ := hm
    rfl
  have hssh : (sshHandle (some (attachEgressAuth cfg rule res))).FailsClosed (some .sshProxy) := by
    refine handlePrepared_failsClosed (resolveSSHProxyForAdapter · true)
      (fun ctx m => { ctx with resolvedSSHProxy := some m }) hat.strict
      (fun _ => ⟨hat.strict, rfl⟩) ?_
    intro ctx m hm
    simp only [sshMaterial, Option.map_eq_some_iff] at hm
    obtain ⟨_, _, rfl⟩ := hm
    rfl
  cases adapter with
  | http => exact iff_of_true (httpHandle_failsClosed hat.strict) trivial
  | ssh => exact iff_of_true hssh trivial
  | socks5 | mqtt | redis => exact iff_of_true hlogin trivial
  | amqp | dns | mongodb | tcpPassThrough => exact Iff.rfl
  | tls =>
    by_cases hprotocol : rule.protocol = .tls
    · refine iff_of_true ?_ (Or.inl hprotocol)
      have hown : (attachEgressAuth cfg rule res).rule.protocol = .tls := by
        rw [hat.rule, hprotocol]
      simp only [Adapter.handle, tlsHandle, hown, Adapter.injects, hprotocol, if_true]
      exact tlsCertificateHandle_failsClosed hat.strict
    · by_cases hmode : rule.tlsMode = .terminateReoriginate
      · refine iff_of_true ?_ (Or.inr (Or.inl hmode))
        exact tlsHandle_terminated hat hprotocol hmode
      · simp only [Adapter.Enforces, hprotocol, hmode, false_or]
        exact tlsHandle_passthrough hat hprotocol hmode _

/-- A rule for `https` as `compileEgressAuthRules` makes it, without a TLS mode. -/
def httpsRule : CompiledEgressAuthRule :=
  { name := [], authRef := lit "token", rollout := .unset, protocol := .https, tlsMode := .unset,
    failurePolicy := .failClosed, domains := [], ports := [] }

def enabledConfig : NetdConfig := { egressAuthEnabled := true, egressAuthFailurePolicy := [] }

def noCertificates : Certificates :=
  { x509KeyPair := fun _ _ => false, appendCertsFromPEM := fun _ => false }

def noSession : TLSSession :=
  { destination := true, host := true, prefixRead := true, authority := false, certificate := false,
    handshake := false, negotiatedH2 := false, upstream := false }

theorem failed_lookup_ends_redis : (Adapter.redis.handle noCertificates noSession
      (some (attachEgressAuth enabledConfig httpsRule (.failed [])))).FailsClosed
      (some .usernamePassword) :=
  (fail_closed_rule_fails_closed noCertificates noSession rfl (by decide +kernel) (.failed [])
    .redis).mpr trivial

/-- A resolver that fails has a connection under a fail-closed `https` rule relayed. -/
theorem failed_lookup_relays_tls : compileEgressAuthRules
        [{ name := [], credentialRef := lit "token", rollout := .unset, protocol := .https,
           tlsMode := .unset, failurePolicy := .failClosed, domains := [], ports := [] }] =
      .ok [httpsRule] ∧
    enabledConfig.egressAuthEnabled = true ∧
    egressAuthFailurePolicy enabledConfig httpsRule = lit "fail-closed" ∧
    ¬ (Adapter.tls.handle noCertificates noSession
      (some (attachEgressAuth enabledConfig httpsRule (.failed (lit "timeout"))))).FailsClosed
      (Adapter.tls.injects httpsRule) := by
  exact ⟨by decide +kernel, rfl, by decide +kernel, by decide +kernel⟩

/-! ## Credentials and the host that they are for -/

/-- Nothing is injected into a connection whose decision names no credential rule. -/
lemma handleTCPDecision_injects {cfg : NetdConfig} {d : TrafficDecision} {m : Material}
    (h : handleTCPDecision certs session cfg res d = .proxied (some m)) :
    ∃ rule, d.matchedAuthRule = some rule := by
  unfold handleTCPDecision at h
  split at h
  · cases h
  · cases h
  cases hrule : d.matchedAuthRule with
  | some rule => exact ⟨rule, rfl⟩
  | none =>
    rw [hrule, map_none] at h
    have hnone : ∀ adapter : Adapter, adapter.handle certs session none = .relayed := by
      intro adapter
      cases adapter <;> rfl
    rw [hnone] at h
    cases h

/-- A rule with domains is named only for a host that the verifier confirmed,
whatever the verifier says, exactly when the policy has domain rules of its own or
the request is under no such rule; and without a rule nothing is injected. -/
theorem credential_needs_confirmed_host (texts : Texts) (compiled : Option CompiledPolicy)
    (banner : Bool) (req : HTTPRequest) :
    ((∀ (verify : HostVerifier) rule,
        (decideHTTP texts (some verify) compiled banner req).matchedAuthRule = some rule →
        rule.domains ≠ [] → verify (normalizeHost req.host) req.origIP = .ok true) ↔
      hasDomainRules compiled = true ∨
        ∀ rule, (decideTraffic texts compiled (classifyHTTP req)).matchedAuthRule = some rule →
          rule.domains = []) ∧
    ∀ verifier certs session cfg res m,
      handleTCPDecision certs session cfg res (decideHTTP texts verifier compiled banner req) =
        .proxied (some m) →
      ∃ rule, (decideHTTP texts verifier compiled banner req).matchedAuthRule = some rule := by
  refine ⟨⟨?_, ?_⟩, fun _ _ _ _ _ _ h => handleTCPDecision_injects h⟩
  · intro h
    by_contra hcond
    simp only [not_or, Bool.not_eq_true, not_forall, exists_prop] at hcond
    obtain ⟨hrules, rule, hrule, hdomains⟩ := hcond
    -- a verifier that confirms no host at all
    have hno := h (fun _ _ => .ok false) rule (decideHTTP_unverified hrules hrule) hdomains
    cases hno
  · rintro (hrules | hnone) verify rule hrule hdomains
    · obtain ⟨hhost, hclean, _⟩ := decideHTTP_matched hrule hdomains
      have hclass : classifyHTTP req = classifyKnownTraffic (lit "tcp") (lit "http")
          (some req.origIP) req.origPort (normalizeHost req.host) := by
        simp [classifyHTTP, hhost]
      rw [hclass] at hclean
      exact verifyClassifiedHost_confirms hrules rfl rfl hhost hclean
    · obtain ⟨_, _, hmatched⟩ := decideHTTP_matched hrule hdomains
      exact absurd (hnone rule hmatched) hdomains

/-- The header that a session injects under a name. -/
def Handled.injectedHeader (name : GoString) : Handled → Option GoString
  | .proxied (some (.headers headers)) => headers[name]?
  | _ => none

def noTexts : Texts := { parseCIDR := fun _ => none, ipString := fun _ => [] }

def tokenPolicy : NetworkPolicySpec :=
  { sandboxID := lit "s1", teamID := lit "t1", mode := .allowAll
    egress := some { credentialRules := [
      { name := [], credentialRef := lit "token", rollout := .unset, protocol := .http,
        tlsMode := .unset, failurePolicy := .failClosed, domains := [lit "api.example.com"],
        ports := [] }] } }

/-- The token goes to an address that its domain does not resolve to: the policy has
no rule on domains but the one of the credential, so the verifier is not asked. -/
theorem token_goes_to_any_address : ∃ compiled rule,
      compileNetworkPolicy noTexts (some tokenPolicy) = .ok compiled ∧
      (decideHTTP noTexts (some fun _ _ => .ok false) (some compiled) false
        { host := lit "api.example.com", origIP := [6, 6, 6, 6], origPort := 80 }).matchedAuthRule =
        some rule ∧
      rule.domains ≠ [] ∧
      (handleTCPDecision noCertificates noSession enabledConfig
        (.resolved { headers := (∅ : Headers).insert (lit "Authorization") (lit "Bearer t") })
        (decideHTTP noTexts (some fun _ _ => .ok false) (some compiled) false
          { host := lit "api.example.com", origIP := [6, 6, 6, 6], origPort := 80 })).injectedHeader
        (lit "Authorization") = some (lit "Bearer t") := by
  let rule : CompiledEgressAuthRule :=
    { name := [], authRef := lit "token", rollout := .unset, protocol := .http, tlsMode := .unset,
      failurePolicy := .failClosed, domains := [⟨lit "api.example.com", .exact⟩], ports := [] }
  refine ⟨{ sandboxID := lit "s1", teamID := lit "t1", mode := .allowAll,
            egress := { authRules := [rule] } }, rule, ?_, ?_, ?_, ?_⟩
  · decide +kernel
  · decide +kernel
  · decide +kernel
  · decide +kernel

end sandbox0.netd.proxy
