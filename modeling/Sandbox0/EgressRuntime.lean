-- The credential resolver of `pkg/egressauth/runtime`. A request is resolved
-- by the binding that the store has for its sandbox, and by the static
-- configuration when no binding is found; results of both kinds share one
-- cache. Bindings change, calls run side by side, and the store may fail.
import Sandbox0.NetdEgressAuth

namespace sandbox0.egressauth

open List Option List.Subset
open sandbox0.netd.proxy (ResolveDirective DirectiveKind Headers)

/-! ## Requests, bindings and sources -/

structure ResolveRequest where
  sandboxID : GoString
  teamID : GoString
  authRef : GoString
  ruleName : GoString
  destination : GoString
  destinationPort : Int
  transport : GoString
  protocol : GoString

/-- The `headers` view of a response is derived from the directives. -/
structure ResolveResponse where
  authRef : GoString
  directives : List ResolveDirective
  expiresAt : Option Int

inductive CredentialProjectionType where
  | httpHeaders
  | tlsClientCertificate
  | usernamePassword
  | sshProxy
  | other (text : GoString)
  deriving DecidableEq

structure ProjectedHeader where
  name : GoString
  valueTemplate : GoString
  deriving DecidableEq

structure SSHProxyProjection where
  sandboxPublicKeys : List GoString
  upstreamUsername : GoString
  knownHosts : List GoString
  deriving DecidableEq

structure ProjectionSpec where
  type : CredentialProjectionType
  httpHeaders : Option (List ProjectedHeader)
  tlsClientCertificate : Option Unit
  usernamePassword : Option Unit
  sshProxy : Option SSHProxyProjection
  deriving DecidableEq

structure CredentialBinding where
  ref : GoString
  sourceRef : GoString
  sourceID : Int
  sourceVersion : Int
  projection : ProjectionSpec
  /-- `CachePolicy.TTL`. -/
  cachePolicy : Option GoString
  deriving DecidableEq

structure BindingRecord where
  bindings : List CredentialBinding
  updatedAt : Int

structure StaticTLSClientCertificate where
  certificatePEM : GoString
  privateKeyPEM : GoString
  caPEM : GoString

structure StaticUsernamePassword where
  username : GoString
  password : GoString

structure StaticSSHPrivateKey where
  privateKeyPEM : GoString
  passphrase : GoString

structure CredentialSourceVersion where
  resolverKind : GoString
  staticHeaders : Option (GoMap GoString GoString) := none
  staticTLSClientCertificate : Option StaticTLSClientCertificate := none
  staticUsernamePassword : Option StaticUsernamePassword := none
  staticSSHPrivateKey : Option StaticSSHPrivateKey := none

/-! ## Providers -/

structure ResolveResult where
  response : ResolveResponse
  ttl : Int

/-- A provider: what it makes of a request, a binding and a source version, with the
default TTL and the time of its call. -/
abbrev Provider :=
  ResolveRequest → CredentialBinding → CredentialSourceVersion → Int → Int →
    Except GoString (Option ResolveResult)

structure Texts where
  /-- `strings.ToLower`. -/
  lower : GoString → GoString
  /-- `%q`. -/
  quote : GoString → GoString
  /-- `template.Execute`, with `missingkey=error`. -/
  renderValueTemplate : GoString → GoMap GoString GoString → Except GoString GoString
  /-- `time.ParseDuration`. -/
  parseDuration : GoString → Option Int
  /-- `UTC().Format(time.RFC3339Nano)`. It writes the nanoseconds, so that two times have two
  texts. -/
  format : Int → GoString
  format_injective : ∀ s t, format s = format t → s = t
  format_text : ∀ t, (0 : UInt8) ∉ format t

/-- `parseBindingTTL`: the TTL of the binding, when it has a valid one. -/
def bindingTTL (texts : Texts) (cachePolicy : Option GoString) (defaultTTL : Int) : Int :=
  match cachePolicy with
  | none => defaultTTL
  | some raw =>
    if trimSpace raw = [] then defaultTTL
    else
      match texts.parseDuration (trimSpace raw) with
      | none => defaultTTL
      | some ttl => if ttl ≤ 0 then defaultTTL else ttl

def newHTTPHeadersResolveResponse (authRef : GoString) (headers : Headers)
    (expiresAt : Option Int) : ResolveResponse :=
  { authRef, expiresAt
    directives := if headers.isEmpty then []
      else [{ kind := .httpHeaders, httpHeaders := some headers }] }

def projectHeader (texts : Texts) (values : GoMap GoString GoString) (out : Headers)
    (header : ProjectedHeader) : Except GoString Headers :=
  let name := trimSpace header.name
  if name = [] then .error (lit "projected header name is required")
  else
    match texts.renderValueTemplate header.valueTemplate values with
    | .error e => .error (lit "render projected header " ++ texts.quote name ++ lit ": " ++ e)
    | .ok rendered => .ok (out.insert name rendered)

def projectHTTPHeaders (texts : Texts) (headers : List ProjectedHeader)
    (values : GoMap GoString GoString) : Except GoString Headers :=
  headers.foldlM (projectHeader texts values) ∅

/-- The result of a provider that has its directives. -/
def resolved (texts : Texts) (binding : CredentialBinding) (defaultTTL now : Int)
    (response : Option Int → ResolveResponse) : Except GoString (Option ResolveResult) :=
  let ttl := bindingTTL texts binding.cachePolicy defaultTTL
  .ok (some { response := response (some (now + ttl)), ttl })

def staticHeadersProvider (texts : Texts) : Provider := fun req binding source defaultTTL now =>
  match source.staticHeaders, binding.projection.httpHeaders with
  | none, _ => .error (lit "static_headers source spec is required")
  | some values, some headers =>
    if binding.projection.type ≠ .httpHeaders then
      .error (lit "http_headers projection is required")
    else
      match projectHTTPHeaders texts headers values with
      | .error e => .error e
      | .ok headers =>
        resolved texts binding defaultTTL now (newHTTPHeadersResolveResponse req.authRef headers)
  | some _, none => .error (lit "http_headers projection is required")

def staticTLSClientCertificateProvider (texts : Texts) : Provider :=
  fun req binding source defaultTTL now =>
  match source.staticTLSClientCertificate with
  | none => .error (lit "static_tls_client_certificate source spec is required")
  | some spec =>
    if binding.projection.type ≠ .tlsClientCertificate ∨
      binding.projection.tlsClientCertificate = none then
      .error (lit "tls_client_certificate projection is required")
    else
      resolved texts binding defaultTTL now fun expiresAt =>
        { authRef := req.authRef, expiresAt
          directives := [{ kind := .tlsClientCertificate
                           tlsClientCertificate := some
                             { certificatePEM := spec.certificatePEM,
                               privateKeyPEM := spec.privateKeyPEM, caPEM := spec.caPEM } }] }

def staticUsernamePasswordProvider (texts : Texts) : Provider :=
  fun req binding source defaultTTL now =>
  match source.staticUsernamePassword with
  | none => .error (lit "static_username_password source spec is required")
  | some spec =>
    if binding.projection.type ≠ .usernamePassword ∨ binding.projection.usernamePassword = none then
      .error (lit "username_password projection is required")
    else
      resolved texts binding defaultTTL now fun expiresAt =>
        { authRef := req.authRef, expiresAt
          directives := [{ kind := .usernamePassword
                           usernamePassword :=
                             some { username := spec.username, password := spec.password } }] }

def staticSSHPrivateKeyProvider (texts : Texts) : Provider :=
  fun req binding source defaultTTL now =>
  match source.staticSSHPrivateKey, binding.projection.sshProxy with
  | none, _ => .error (lit "static_ssh_private_key source spec is required")
  | some spec, some projection =>
    if binding.projection.type ≠ .sshProxy then .error (lit "ssh_proxy projection is required")
    else
      resolved texts binding defaultTTL now fun expiresAt =>
        { authRef := req.authRef, expiresAt
          directives := [{ kind := .sshProxy
                           sshProxy := some
                             { sandboxPublicKeys := projection.sandboxPublicKeys
                               upstreamUsername := projection.upstreamUsername
                               privateKeyPEM := spec.privateKeyPEM, passphrase := spec.passphrase
                               knownHosts := projection.knownHosts } }] }
  | some _, none => .error (lit "ssh_proxy projection is required")

/-! ## The service -/

structure StaticAuthConfig where
  authRef : GoString
  headers : Headers
  ttl : Int

structure Service where
  texts : Texts
  defaultTTL : Int
  staticAuth : GoMap GoString StaticAuthConfig
  providers : GoMap GoString Provider

/-- `5 * time.Minute`. -/
def fiveMinutes : Int := 300000000000

def addStaticAuth (out : GoMap GoString StaticAuthConfig) (entry : StaticAuthConfig) :
    GoMap GoString StaticAuthConfig :=
  let authRef := trimSpace entry.authRef
  if authRef = [] then out
  else out.insert authRef
    { entry with authRef, ttl := if entry.ttl ≤ 0 then fiveMinutes else entry.ttl }

def buildStaticAuthMap (entries : List StaticAuthConfig) : GoMap GoString StaticAuthConfig :=
  entries.foldl addStaticAuth ∅

def newService (texts : Texts) (defaultResolveTTL : Int)
    (staticAuth : List StaticAuthConfig) : Service :=
  { texts
    defaultTTL := if defaultResolveTTL ≤ 0 then fiveMinutes else defaultResolveTTL
    staticAuth := buildStaticAuthMap staticAuth
    providers :=
      (((∅ : GoMap GoString Provider).insert (lit "static_headers") (staticHeadersProvider texts)
      |>.insert (lit "static_tls_client_certificate") (staticTLSClientCertificateProvider texts))
      |>.insert (lit "static_username_password") (staticUsernamePasswordProvider texts))
      |>.insert (lit "static_ssh_private_key") (staticSSHPrivateKeyProvider texts) }

/-- `fmt.Sprintf("%d", n)` of an `int64`. -/
def intText : Int → GoString
  | .ofNat n => decimal n
  | .negSucc n => 45 :: decimal (n + 1)

/-- `strings.Join(fields, "\x00")`. -/
def joinNul : List GoString → GoString
  | [] => []
  | [field] => field
  | field :: fields => field ++ 0 :: joinNul fields

def bindingCacheKey (texts : Texts) (req : ResolveRequest) (binding : CredentialBinding)
    (updatedAt : Int) : GoString :=
  joinNul [lit "binding", trimSpace req.teamID, trimSpace req.sandboxID, trimSpace req.authRef,
    binding.sourceRef, intText binding.sourceID, intText binding.sourceVersion,
    texts.format updatedAt, texts.lower (trimSpace req.destination), intText req.destinationPort,
    texts.lower (trimSpace req.transport), texts.lower (trimSpace req.protocol),
    trimSpace req.ruleName]

def staticCacheKey (texts : Texts) (req : ResolveRequest) : GoString :=
  joinNul [lit "static", trimSpace req.authRef, trimSpace req.sandboxID,
    texts.lower (trimSpace req.destination), intText req.destinationPort,
    texts.lower (trimSpace req.transport), texts.lower (trimSpace req.protocol),
    trimSpace req.ruleName]

/-! ## The cache -/

structure CacheEntry where
  response : ResolveResponse
  expiresAt : Int

abbrev ResultCache := GoMap GoString CacheEntry

def maxEntries : Nat := 2048

/-- The entry has expired; a zero time, here 0, never does. -/
def CacheEntry.expired (entry : CacheEntry) (now : Int) : Bool :=
  decide (entry.expiresAt ≠ 0 ∧ entry.expiresAt ≤ now)

/-- The first key of a loop over the map, which Go starts anywhere. -/
def ResultCache.dropOne (c : ResultCache) (start : Nat) : ResultCache :=
  match c.toList[start % c.size]? with
  | none => c
  | some p => c.erase p.1

/-- `Set`, under its lock. -/
def ResultCache.set (c : ResultCache) (key : GoString) (response : ResolveResponse) (ttl now : Int)
    (start : Nat) : ResultCache :=
  if key = [] ∨ ttl ≤ 0 then c
  else
    let c := c.filter fun _ entry => !entry.expired now
    let c := if c.size ≥ maxEntries then ResultCache.dropOne c start else c
    c.insert key { response, expiresAt := now + ttl }

/-! ## Calls side by side -/

/-- What a call resolves its request with. -/
inductive Target where
  | binding (binding : CredentialBinding) (updatedAt : Int)
  | static (entry : StaticAuthConfig)

def Target.cacheKey (texts : Texts) (req : ResolveRequest) : Target → GoString
  | .binding b updatedAt => bindingCacheKey texts req b updatedAt
  | .static _ => staticCacheKey texts req

inductive Stage where
  | getBindings
  | cacheGet (target : Target)
  /-- `Get` has found an expired entry, and deletes it under a lock of its own. -/
  | cacheDrop (target : Target) (now : Int)
  /-- `GetSourceVersion` and the provider, or the static response. -/
  | make (target : Target) (now : Int)
  | cacheSet (target : Target) (response : ResolveResponse) (ttl now : Int)

def Stage.target : Stage → Option Target
  | .getBindings => none
  | .cacheGet t => some t
  | .cacheDrop t _ => some t
  | .make t _ => some t
  | .cacheSet t _ _ _ => some t

/-- A call, with the binding that the store held for its request when it looked. -/
structure Active where
  req : ResolveRequest
  stage : Stage
  held : Option (CredentialBinding × Int)

structure Done where
  req : ResolveRequest
  held : Option (CredentialBinding × Int)
  outcome : Except GoString ResolveResponse

/-- A binding that the store has held, under the ids as the cache key writes them. -/
structure Stored where
  teamID : GoString
  sandboxID : GoString
  binding : CredentialBinding
  updatedAt : Int

structure World where
  /-- The records of the store, by team and sandbox. -/
  bindings : GoString → GoString → Option BindingRecord
  /-- The source versions of the store, by source and number. -/
  sources : Int → Int → Option CredentialSourceVersion
  resolveCache : ResultCache
  calls : GoMap Nat Active
  done : GoMap Nat Done
  /-- Every binding that was ever stored. -/
  stored : List Stored
  /-- Every source version that was ever stored, with its source and number. -/
  versions : List (Int × Int × CredentialSourceVersion)

inductive Event where
  | upsertBindings (teamID sandboxID : GoString) (record : BindingRecord)
  | deleteBindings (teamID sandboxID : GoString)
  | putSource (sourceID version : Int) (source : CredentialSourceVersion)
  | deleteSource (sourceID version : Int)
  | resolve (n : Nat) (req : ResolveRequest)
  | getBindings (n : Nat) (fault : Option GoString)
  | cacheGet (n : Nat) (now : Int)
  | cacheDrop (n : Nat)
  /-- With the clock of the provider, and the clock of `time.Until`. -/
  | make (n : Nat) (fault : Option GoString) (now until_ : Int)
  | cacheSet (n : Nat) (start : Nat)

/-- The binding for the reference: the first one whose trimmed ref it is. -/
def BindingRecord.find (r : BindingRecord) (authRef : GoString) : Option CredentialBinding :=
  r.bindings.find? fun b => trimSpace b.ref = trimSpace authRef

def World.held (w : World) (req : ResolveRequest) : Option (CredentialBinding × Int) :=
  match w.bindings req.teamID req.sandboxID with
  | none => none
  | some record => (record.find req.authRef).map fun b => (b, record.updatedAt)

/-- `GetBindings` gives no answer that is used: the request has a blank id, or the call fails. -/
def Unread (req : ResolveRequest) (fault : Option GoString) : Prop :=
  trimSpace req.teamID = [] ∨ trimSpace req.sandboxID = [] ∨ fault ≠ none

instance (req : ResolveRequest) (fault : Option GoString) : Decidable (Unread req fault) :=
  inferInstanceAs (Decidable (_ ∨ _ ∨ _))

/-- `lookupBinding`. An error of the store is logged and read as "no binding". -/
def World.lookupBinding (w : World) (req : ResolveRequest) (fault : Option GoString) :
    Option (CredentialBinding × Int) :=
  if Unread req fault then none else w.held req

def Service.lookupStaticAuth (svc : Service) (authRef : GoString) : Option StaticAuthConfig :=
  svc.staticAuth[trimSpace authRef]?

def World.finish (w : World) (n : Nat) (a : Active)
    (outcome : Except GoString ResolveResponse) : World :=
  { w with calls := w.calls.erase n,
           done := w.done.insert n { req := a.req, held := a.held, outcome } }

def World.goOn (w : World) (n : Nat) (a : Active) (stage : Stage) : World :=
  { w with calls := w.calls.insert n { a with stage } }

/-- `Resolve` after `lookupBinding`. -/
def World.choose (svc : Service) (w : World) (n : Nat) (a : Active) :
    Option (CredentialBinding × Int) → World
  | some (b, updatedAt) => w.goOn n a (.cacheGet (.binding b updatedAt))
  | none =>
    match svc.lookupStaticAuth a.req.authRef with
    | none => w.finish n a (.error (lit "authRef not found"))
    | some entry => w.goOn n a (.cacheGet (.static entry))

/-- `Get`. -/
def World.cacheGet (svc : Service) (w : World) (n : Nat) (a : Active) (target : Target)
    (now : Int) : World :=
  match w.resolveCache[target.cacheKey svc.texts a.req]? with
  | none => w.goOn n a (.make target now)
  | some entry =>
    if entry.expired now then w.goOn n a (.cacheDrop target now)
    else w.finish n a (.ok entry.response)

/-- How long the result of a provider is cached. -/
def ResolveResult.cacheTTL (result : ResolveResult) (until_ : Int) : Int :=
  match result.response.expiresAt with
  | none => result.ttl
  | some expiresAt => if result.ttl ≤ 0 then expiresAt - until_ else result.ttl

def Service.provide (svc : Service) (req : ResolveRequest) (b : CredentialBinding)
    (source : CredentialSourceVersion) (now : Int) : Except GoString ResolveResult :=
  let providerName := svc.texts.lower (trimSpace source.resolverKind)
  match svc.providers[providerName]? with
  | none =>
    .error (lit "credential binding provider " ++ svc.texts.quote source.resolverKind ++
      lit " is not supported")
  | some provider =>
    match provider req b source svc.defaultTTL now with
    | .error e => .error e
    | .ok none =>
      .error (lit "provider " ++ svc.texts.quote providerName ++ lit " returned empty response")
    | .ok (some result) => .ok result

/-- `GetSourceVersion`, whose query may fail, or the reading of its answer. -/
def World.getSourceVersion (w : World) (sourceID version : Int) (fault : Option GoString) :
    Except GoString (Option CredentialSourceVersion) :=
  if sourceID ≤ 0 then .error (lit "source_id is required")
  else if version ≤ 0 then .error (lit "version is required")
  else
    match fault with
    | some cause => .error cause
    | none => .ok (w.sources sourceID version)

/-- `resolveBinding` after a miss of the cache, up to the `Set`. -/
def World.makeBinding (svc : Service) (w : World) (n : Nat) (a : Active) (b : CredentialBinding)
    (updatedAt getNow : Int) (fault : Option GoString) (now until_ : Int) : World :=
  match w.getSourceVersion b.sourceID b.sourceVersion fault with
  | .error cause => w.finish n a (.error cause)
  | .ok none =>
    w.finish n a (.error (lit "credential source version not found for " ++ svc.texts.quote b.ref))
  | .ok (some source) =>
    match svc.provide a.req b source now with
    | .error e => w.finish n a (.error e)
    | .ok result =>
      w.goOn n a (.cacheSet (.binding b updatedAt) result.response (result.cacheTTL until_) getNow)

def World.next (svc : Service) (w : World) : Event → World
  | .upsertBindings teamID sandboxID record =>
    { w with
      bindings := fun t s => if t = teamID ∧ s = sandboxID then some record else w.bindings t s
      stored := (record.bindings.map fun b =>
        { teamID := trimSpace teamID, sandboxID := trimSpace sandboxID, binding := b,
          updatedAt := record.updatedAt }) ++ w.stored }
  | .deleteBindings teamID sandboxID =>
    { w with bindings := fun t s => if t = teamID ∧ s = sandboxID then none else w.bindings t s }
  | .putSource sourceID version source =>
    { w with
      sources := fun i v => if i = sourceID ∧ v = version then some source else w.sources i v
      versions := (sourceID, version, source) :: w.versions }
  | .deleteSource sourceID version =>
    { w with sources := fun i v => if i = sourceID ∧ v = version then none else w.sources i v }
  | .resolve n req =>
    if w.calls[n]?.isSome ∨ w.done[n]?.isSome then w
    else if trimSpace req.authRef = [] then
      w.finish n { req, stage := .getBindings, held := none } (.error (lit "authRef is required"))
    else w.goOn n { req, stage := .getBindings, held := none } .getBindings
  | .getBindings n fault =>
    match w.calls[n]? with
    | some a =>
      match a.stage with
      | .getBindings => w.choose svc n { a with held := w.held a.req } (w.lookupBinding a.req fault)
      | _ => w
    | none => w
  | .cacheGet n now =>
    match w.calls[n]? with
    | some a =>
      match a.stage with
      | .cacheGet target => w.cacheGet svc n a target now
      | _ => w
    | none => w
  | .cacheDrop n =>
    match w.calls[n]? with
    | some a =>
      match a.stage with
      | .cacheDrop target now =>
        World.goOn { w with resolveCache := w.resolveCache.erase (target.cacheKey svc.texts a.req) }
          n a (.make target now)
      | _ => w
    | none => w
  | .make n fault now until_ =>
    match w.calls[n]? with
    | some a =>
      match a.stage with
      | .make (.binding b updatedAt) getNow =>
        w.makeBinding svc n a b updatedAt getNow fault now until_
      | .make (.static entry) getNow =>
        w.goOn n a (.cacheSet (.static entry)
          (newHTTPHeadersResolveResponse entry.authRef entry.headers (some (getNow + entry.ttl)))
          entry.ttl getNow)
      | _ => w
    | none => w
  | .cacheSet n start =>
    match w.calls[n]? with
    | some a =>
      match a.stage with
      | .cacheSet target response ttl now =>
        let resolveCache :=
          ResultCache.set w.resolveCache (target.cacheKey svc.texts a.req) response ttl now start
        World.finish { w with resolveCache } n a (.ok response)
      | _ => w
    | none => w

structure World.Started (w : World) : Prop where
  bindings : ∀ t s, w.bindings t s = none
  sources : ∀ i v, w.sources i v = none
  resolveCache : w.resolveCache = ∅
  calls : w.calls = ∅
  done : w.done = ∅
  stored : w.stored = []
  versions : w.versions = []

/-! ## The law -/

def ResolveRequest.Like (req req' : ResolveRequest) : Prop :=
  trimSpace req.teamID = trimSpace req'.teamID ∧
    trimSpace req.sandboxID = trimSpace req'.sandboxID ∧
    trimSpace req.authRef = trimSpace req'.authRef

/-- The response is the own answer of the provider that is registered for the kind of a source
version, for this binding and that version, and the store has held the version under the source
and the number that the binding names. The request was for the same sandbox and reference. -/
def CredentialOf (svc : Service) (versions : List (Int × Int × CredentialSourceVersion))
    (req : ResolveRequest) (b : CredentialBinding) (response : ResolveResponse) : Prop :=
  ∃ req' source provider now result, req.Like req' ∧
    (b.sourceID, b.sourceVersion, source) ∈ versions ∧
    svc.providers[svc.texts.lower (trimSpace source.resolverKind)]? = some provider ∧
    provider req' b source svc.defaultTTL now = .ok (some result) ∧ result.response = response

def Stored.SameTag (x y : Stored) : Prop :=
  x.teamID = y.teamID ∧ x.sandboxID = y.sandboxID ∧
    trimSpace x.binding.ref = trimSpace y.binding.ref ∧
    x.binding.sourceRef = y.binding.sourceRef ∧ x.binding.sourceID = y.binding.sourceID ∧
    x.binding.sourceVersion = y.binding.sourceVersion ∧ x.updatedAt = y.updatedAt

instance (x y : Stored) : Decidable (x.SameTag y) :=
  inferInstanceAs (Decidable (_ ∧ _ ∧ _ ∧ _ ∧ _ ∧ _ ∧ _))

def ResolveRequest.Plain (req : ResolveRequest) : Prop :=
  (0 : UInt8) ∉ req.teamID ∧ (0 : UInt8) ∉ req.sandboxID ∧ (0 : UInt8) ∉ req.authRef

instance (req : ResolveRequest) : Decidable req.Plain := inferInstanceAs (Decidable (_ ∧ _ ∧ _))

/-- Bindings that differ have different times or sources, and no zero byte in their source ref;
requests have no zero byte in their ids; and the store is read, or there is no static
credential of the reference. -/
def World.Careful (svc : Service) (w : World) : Event → Prop
  | .upsertBindings teamID sandboxID record =>
    let added := record.bindings.map fun b =>
      ({ teamID := trimSpace teamID, sandboxID := trimSpace sandboxID, binding := b,
         updatedAt := record.updatedAt } : Stored)
    ∀ x ∈ added, (0 : UInt8) ∉ x.binding.sourceRef ∧
      ∀ y ∈ added ++ w.stored, x.SameTag y → x.binding = y.binding
  | .resolve _ req => req.Plain
  | .getBindings n fault => ∀ a ∈ w.calls[n]?, Unread a.req fault → (w.held a.req).isSome = true →
      (svc.lookupStaticAuth a.req.authRef).isNone = true
  | _ => True

instance (svc : Service) (w : World) (e : Event) : Decidable (w.Careful svc e) := by
  unfold World.Careful
  split <;> infer_instance

def World.Reached (svc : Service) (ok : World → Event → Prop) : World → Prop :=
  Reach World.Started (fun w e w' => w' = w.next svc e) ok

/-! ## Cache keys -/

/-- A field without a zero byte is what stands before the first zero byte. -/
lemma joinNul_inj {x y a b : GoString} {l k : List GoString} (hx : (0 : UInt8) ∉ x)
    (hy : (0 : UInt8) ∉ y) (h : joinNul (x :: a :: l) = joinNul (y :: b :: k)) :
    x = y ∧ joinNul (a :: l) = joinNul (b :: k) :=
  cut_inj hx hy h

lemma nul_not_mem_intText (n : Int) : (0 : UInt8) ∉ intText n := by
  have hdecimal : ∀ k, (0 : UInt8) ∉ decimal k := fun k h => by
    simpa using digit_of_mem_decimal h
  cases n with
  | ofNat k => exact hdecimal k
  | negSucc k =>
    intro h
    rcases mem_cons.mp h with h | h
    · cases h
    · exact hdecimal _ h

lemma intText_injective {m n : Int} (h : intText m = intText n) : m = n := by
  have hsign : ∀ k l, decimal k ≠ 45 :: decimal l := by
    intro k l heq
    have hmem : (45 : UInt8) ∈ decimal k := heq ▸ mem_cons_self
    simpa using digit_of_mem_decimal hmem
  cases m with
  | ofNat k =>
    cases n with
    | ofNat l => exact congrArg Int.ofNat (decimal_injective h)
    | negSucc l => exact absurd h (hsign _ _)
  | negSucc k =>
    cases n with
    | ofNat l => exact absurd h.symm (hsign _ _)
    | negSucc l =>
      have hnum := decimal_injective (List.cons.inj h).2
      exact congrArg Int.negSucc (by omega)

lemma not_mem_trimSpace {s : GoString} (h : (0 : UInt8) ∉ s) : (0 : UInt8) ∉ trimSpace s :=
  fun hmem => h ((trimSpace_isInfix s).subset hmem)

lemma bindingCacheKey_inj {texts : Texts} {req req' : ResolveRequest} {b b' : CredentialBinding}
    {updatedAt updatedAt' : Int} (hreq : req.Plain) (hreq' : req'.Plain)
    (hb : (0 : UInt8) ∉ b.sourceRef) (hb' : (0 : UInt8) ∉ b'.sourceRef)
    (h : bindingCacheKey texts req b updatedAt = bindingCacheKey texts req' b' updatedAt') :
    req.Like req' ∧ b.sourceRef = b'.sourceRef ∧ b.sourceID = b'.sourceID ∧
      b.sourceVersion = b'.sourceVersion ∧ updatedAt = updatedAt' := by
  unfold bindingCacheKey at h
  obtain ⟨-, h⟩ := joinNul_inj (by decide +kernel) (by decide +kernel) h
  obtain ⟨hteam, h⟩ := joinNul_inj (not_mem_trimSpace hreq.1) (not_mem_trimSpace hreq'.1) h
  obtain ⟨hsandbox, h⟩ := joinNul_inj (not_mem_trimSpace hreq.2.1) (not_mem_trimSpace hreq'.2.1) h
  obtain ⟨hauth, h⟩ := joinNul_inj (not_mem_trimSpace hreq.2.2) (not_mem_trimSpace hreq'.2.2) h
  obtain ⟨href, h⟩ := joinNul_inj hb hb' h
  obtain ⟨hid, h⟩ := joinNul_inj (nul_not_mem_intText _) (nul_not_mem_intText _) h
  obtain ⟨hversion, h⟩ := joinNul_inj (nul_not_mem_intText _) (nul_not_mem_intText _) h
  obtain ⟨htime, -⟩ := joinNul_inj (texts.format_text _) (texts.format_text _) h
  exact ⟨⟨hteam, hsandbox, hauth⟩, href, intText_injective hid, intText_injective hversion,
    texts.format_injective _ _ htime⟩

lemma bindingCacheKey_ne_static {texts : Texts} {req req' : ResolveRequest} {b : CredentialBinding}
    {updatedAt : Int} : bindingCacheKey texts req b updatedAt ≠ staticCacheKey texts req' := by
  intro h
  unfold bindingCacheKey staticCacheKey at h
  obtain ⟨hkind, -⟩ := joinNul_inj (by decide +kernel) (by decide +kernel) h
  exact absurd hkind (by decide +kernel)

/-! ## Cache entries -/

variable {cache : ResultCache} {entry : CacheEntry} {response : ResolveResponse} {key : GoString}

open GoMap

lemma get_dropOne {start : Nat} (h : (ResultCache.dropOne cache start)[key]? = some entry) :
    cache[key]? = some entry := by
  unfold ResultCache.dropOne at h
  split at h
  · exact h
  · exact (of_get_erase h).2

lemma get_set {key' : GoString} {ttl now : Int} {start : Nat}
    (h : (ResultCache.set cache key response ttl now start)[key']? = some entry) :
    (key' = key ∧ entry.response = response) ∨ cache[key']? = some entry := by
  unfold ResultCache.set at h
  split at h
  · exact Or.inr h
  rcases GoMap.of_get_insert h with ⟨rfl, rfl⟩ | ⟨_, hold⟩
  · exact Or.inl ⟨rfl, rfl⟩
  right
  have hfilter : (cache.filter fun _ entry => !entry.expired now)[key']? = some entry := by
    split at hold
    · exact get_dropOne hold
    · exact hold
  rw [GoMap.get_filter] at hfilter
  exact (Option.filter_eq_some_iff.mp hfilter).1

/-! ## The invariant -/

open World

section Invariant

variable {svc : Service} {w : World} {stored stored' : List Stored}
  {versions versions' : List (Int × Int × CredentialSourceVersion)}

structure Bound (stored : List Stored) (req : ResolveRequest) (b : CredentialBinding)
    (updatedAt : Int) : Prop where
  stored : { teamID := trimSpace req.teamID, sandboxID := trimSpace req.sandboxID, binding := b,
             updatedAt } ∈ stored
  ref : trimSpace b.ref = trimSpace req.authRef

/-- What an entry of the cache is: the credential of a binding, or a static one. -/
def Good (svc : Service) (stored : List Stored)
    (versions : List (Int × Int × CredentialSourceVersion)) (key : GoString) (entry : CacheEntry) :
    Prop :=
  (∃ req b updatedAt, req.Plain ∧ Bound stored req b updatedAt ∧
    key = bindingCacheKey svc.texts req b updatedAt ∧
    CredentialOf svc versions req b entry.response) ∨
  ∃ req, key = staticCacheKey svc.texts req

/-- A call resolves with the binding that the store held, and with the static configuration only
if there was none. -/
structure Follows (svc : Service) (stored : List Stored)
    (versions : List (Int × Int × CredentialSourceVersion)) (a : Active) : Prop where
  plain : a.req.Plain
  binding : ∀ b updatedAt, a.stage.target = some (.binding b updatedAt) →
    a.held = some (b, updatedAt) ∧ Bound stored a.req b updatedAt
  static : ∀ entry, a.stage.target = some (.static entry) → a.held = none
  made : ∀ b updatedAt response ttl now,
    a.stage = .cacheSet (.binding b updatedAt) response ttl now →
    CredentialOf svc versions a.req b response

/-- A call that found a binding has failed, or it has the credential of the binding. -/
def Faithful (svc : Service) (versions : List (Int × Int × CredentialSourceVersion))
    (d : Done) : Prop :=
  ∀ b updatedAt response, d.held = some (b, updatedAt) → d.outcome = .ok response →
    CredentialOf svc versions d.req b response

structure World.Inv (svc : Service) (w : World) : Prop where
  unique : ∀ x ∈ w.stored, ∀ y ∈ w.stored, x.SameTag y → x.binding = y.binding
  plain : ∀ x ∈ w.stored, (0 : UInt8) ∉ x.binding.sourceRef
  published : ∀ i v source, w.sources i v = some source → (i, v, source) ∈ w.versions
  current : ∀ t s record, w.bindings t s = some record → ∀ b ∈ record.bindings,
    { teamID := trimSpace t, sandboxID := trimSpace s, binding := b,
      updatedAt := record.updatedAt } ∈ w.stored
  entries : ∀ (key : GoString) (entry : CacheEntry), w.resolveCache[key]? = some entry →
    Good svc w.stored w.versions key entry
  calls : ∀ (n : Nat) (a : Active), w.calls[n]? = some a → Follows svc w.stored w.versions a
  done : ∀ (n : Nat) (d : Done), w.done[n]? = some d → Faithful svc w.versions d

lemma World.Started.inv (h : w.Started) : w.Inv svc where
  unique := by simp [h.stored]
  plain := by simp [h.stored]
  published i v source hsource := by simp [h.sources] at hsource
  current t s record hr := by simp [h.bindings] at hr
  entries := by simp [h.resolveCache]
  calls := by simp [h.calls]
  done := by simp [h.done]

variable {req : ResolveRequest} {b : CredentialBinding} {a : Active} {updatedAt : Int} {n : Nat}

lemma CredentialOf.mono (h : CredentialOf svc versions req b response)
    (hversions : versions ⊆ versions') : CredentialOf svc versions' req b response := by
  obtain ⟨req', source, provider, now, result, hlike, hmem, hprovide⟩ := h
  exact ⟨req', source, provider, now, result, hlike, hversions hmem, hprovide⟩

lemma Good.mono (h : Good svc stored versions key entry) (hstored : stored ⊆ stored')
    (hversions : versions ⊆ versions') : Good svc stored' versions' key entry := by
  rcases h with ⟨req, b, updatedAt, hplain, hbound, hkey, hcred⟩ | hstatic
  · exact .inl ⟨req, b, updatedAt, hplain, ⟨hstored hbound.stored, hbound.ref⟩, hkey,
      hcred.mono hversions⟩
  · exact .inr hstatic

lemma Follows.mono (h : Follows svc stored versions a) (hstored : stored ⊆ stored')
    (hversions : versions ⊆ versions') : Follows svc stored' versions' a where
  plain := h.plain
  binding b updatedAt ht := by
    obtain ⟨hheld, hbound⟩ := h.binding b updatedAt ht
    exact ⟨hheld, hstored hbound.stored, hbound.ref⟩
  static := h.static
  made b updatedAt response ttl now hs := (h.made b updatedAt response ttl now hs).mono hversions

lemma World.Inv.recache (h : w.Inv svc)
    (hcache : ∀ (key : GoString) (entry : CacheEntry), cache[key]? = some entry →
      Good svc w.stored w.versions key entry) : Inv svc { w with resolveCache := cache } :=
  ⟨h.unique, h.plain, h.published, h.current, hcache, h.calls, h.done⟩

lemma World.Inv.finish (h : w.Inv svc) (n : Nat) {outcome : Except GoString ResolveResponse}
    (hfaithful : Faithful svc w.versions { req := a.req, held := a.held, outcome }) :
    (w.finish n a outcome).Inv svc := by
  refine ⟨h.unique, h.plain, h.published, h.current, h.entries, fun m c hc => ?_,
    all_insert hfaithful h.done⟩
  exact h.calls m c (of_get_erase hc).2

lemma World.Inv.fail (h : w.Inv svc) (n : Nat) (a : Active) (e : GoString) :
    (w.finish n a (.error e)).Inv svc :=
  h.finish n (fun _ _ _ _ hok => by cases hok)

lemma World.Inv.goOn (h : w.Inv svc) (n : Nat) {stage : Stage}
    (hfollows : Follows svc w.stored w.versions { a with stage }) : (w.goOn n a stage).Inv svc :=
  ⟨h.unique, h.plain, h.published, h.current, h.entries, all_insert hfollows h.calls, h.done⟩

/-- A call goes on with the same target, and nothing is made yet. -/
lemma Follows.restage {stage : Stage} (h : Follows svc stored versions a)
    (htarget : stage.target = a.stage.target)
    (hmade : ∀ target response ttl now, stage ≠ .cacheSet target response ttl now) :
    Follows svc stored versions { a with stage } where
  plain := h.plain
  binding b updatedAt ht := h.binding b updatedAt (htarget.symm.trans ht)
  static entry ht := h.static entry (htarget.symm.trans ht)
  made _ _ _ _ _ hs := absurd hs (hmade _ _ _ _)

/-! ## Steps -/

section

variable (h : w.Inv svc)

include h

lemma World.Inv.upsert {teamID sandboxID : GoString} {record : BindingRecord}
    (hok : w.Careful svc (.upsertBindings teamID sandboxID record)) :
    (w.next svc (.upsertBindings teamID sandboxID record)).Inv svc := by
  refine ⟨fun x hx y hy htag => ?_, fun x hx => ?_, h.published, fun t s r hr b hb => ?_,
    fun key entry he => ?_, fun n a ha => ?_, h.done⟩
  · rcases mem_append.mp hx with hnew | hold
    · exact (hok x hnew).2 y hy htag
    · rcases mem_append.mp hy with hnew' | hold'
      · obtain ⟨h1, h2, h3, h4, h5, h6, h7⟩ := htag
        exact ((hok y hnew').2 x (mem_append_right _ hold)
          ⟨h1.symm, h2.symm, h3.symm, h4.symm, h5.symm, h6.symm, h7.symm⟩).symm
      · exact h.unique x hold y hold' htag
  · rcases mem_append.mp hx with hnew | hold
    · exact (hok x hnew).1
    · exact h.plain x hold
  · dsimp only [World.next] at hr
    split at hr
    · rename_i hids
      cases hr
      obtain ⟨rfl, rfl⟩ := hids
      exact mem_append_left _ (mem_map.mpr ⟨b, hb, rfl⟩)
    · exact mem_append_right _ (h.current t s r hr b hb)
  · exact (h.entries key entry he).mono (subset_append_right _ _) (refl _)
  · exact (h.calls n a ha).mono (subset_append_right _ _) (refl _)

lemma World.Inv.delete {teamID sandboxID : GoString} :
    (w.next svc (.deleteBindings teamID sandboxID)).Inv svc := by
  refine ⟨h.unique, h.plain, h.published, fun t s r hr b hb => ?_, h.entries, h.calls, h.done⟩
  dsimp only [World.next] at hr
  split at hr
  · cases hr
  · exact h.current t s r hr b hb

lemma World.Inv.putSource (sourceID version : Int) (source : CredentialSourceVersion) :
    (w.next svc (.putSource sourceID version source)).Inv svc where
  unique := h.unique
  plain := h.plain
  published i v found hfound := by
    dsimp only [World.next] at hfound
    split at hfound
    · rename_i hids
      cases hfound
      obtain ⟨rfl, rfl⟩ := hids
      exact mem_cons_self
    · exact mem_cons_of_mem _ (h.published i v found hfound)
  current := h.current
  entries key entry he := (h.entries key entry he).mono (refl _) (subset_cons_self _ _)
  calls n a ha := (h.calls n a ha).mono (refl _) (subset_cons_self _ _)
  done n d hd b updatedAt response hheld hok :=
    (h.done n d hd b updatedAt response hheld hok).mono (subset_cons_self _ _)

lemma World.Inv.deleteSource (sourceID version : Int) :
    (w.next svc (.deleteSource sourceID version)).Inv svc := by
  refine ⟨h.unique, h.plain, fun i v found hfound => ?_, h.current, h.entries, h.calls, h.done⟩
  dsimp only [World.next] at hfound
  split at hfound
  · cases hfound
  · exact h.published i v found hfound

lemma World.Inv.bound_of_held (hheld : w.held req = some (b, updatedAt)) :
    Bound w.stored req b updatedAt := by
  unfold held at hheld
  split at hheld
  · cases hheld
  rename_i record hrecord
  obtain ⟨found, hfound, hpair⟩ := map_eq_some_iff.mp hheld
  cases hpair
  have href := find?_some hfound
  simp only [decide_eq_true_eq] at href
  exact ⟨h.current _ _ record hrecord b (mem_of_find?_eq_some hfound), href⟩

lemma World.Inv.choose {fault : Option GoString} (hplain : a.req.Plain)
    (hok : Unread a.req fault → (w.held a.req).isSome = true →
      (svc.lookupStaticAuth a.req.authRef).isNone = true) :
    (w.choose svc n { a with held := w.held a.req } (w.lookupBinding a.req fault)).Inv svc := by
  cases hlookup : w.lookupBinding a.req fault with
  | some found =>
    obtain ⟨b, updatedAt⟩ := found
    have hheld : w.held a.req = some (b, updatedAt) := by
      unfold lookupBinding at hlookup
      split at hlookup
      · cases hlookup
      · exact hlookup
    refine h.goOn n ⟨hplain, fun b' updatedAt' ht => ?_, fun entry ht => ?_, fun _ _ _ _ _ hs => ?_⟩
    · cases ht
      exact ⟨hheld, h.bound_of_held hheld⟩
    · cases ht
    · cases hs
  | none =>
    cases hstatic : svc.lookupStaticAuth a.req.authRef with
    | none =>
      simp only [World.choose, hstatic]
      exact h.fail n _ _
    | some entry =>
      have hnone : w.held a.req = none := by
        unfold lookupBinding at hlookup
        split at hlookup
        · rename_i hunread
          rw [hstatic] at hok
          cases hheld : w.held a.req with
          | none => rfl
          | some found =>
            have hmissing := hok hunread (by rw [hheld]; rfl)
            cases hmissing
        · exact hlookup
      simp only [World.choose, hstatic]
      refine h.goOn n ⟨hplain, fun b updatedAt ht => ?_, fun _ _ => hnone, fun _ _ _ _ _ hs => ?_⟩
      · cases ht
      · cases hs

lemma World.Inv.hit (hplain : req.Plain) (hbound : Bound w.stored req b updatedAt)
    (he : w.resolveCache[bindingCacheKey svc.texts req b updatedAt]? = some entry) :
    CredentialOf svc w.versions req b entry.response := by
  rcases h.entries _ entry
    he with ⟨req', b', updatedAt', hplain', hbound', hkey, hcred⟩ | ⟨req', hkey⟩
  · obtain ⟨hlike, href, hid, hversion, htime⟩ := bindingCacheKey_inj hplain hplain'
      (h.plain _ hbound.stored) (h.plain _ hbound'.stored) hkey
    have hsame : b = b' := by
      refine h.unique _ hbound.stored _ hbound'.stored
        ⟨hlike.1, hlike.2.1, ?_, href, hid, hversion, htime⟩
      rw [hbound.ref, hbound'.ref, hlike.2.2]
    subst hsame
    obtain ⟨req'', source, provider, now, result, hlike', hmem, hprovide⟩ := hcred
    exact ⟨req'', source, provider, now, result,
      ⟨hlike.1.trans hlike'.1, hlike.2.1.trans hlike'.2.1, hlike.2.2.trans hlike'.2.2⟩, hmem,
      hprovide⟩
  · exact absurd hkey bindingCacheKey_ne_static

lemma World.Inv.cacheGet {target : Target} (ha : w.calls[n]? = some a)
    (hs : a.stage = .cacheGet target) (now : Int) : (w.cacheGet svc n a target now).Inv svc := by
  have hfollows := h.calls n a ha
  have htarget : a.stage.target = some target := by rw [hs]; rfl
  unfold World.cacheGet
  split
  · exact h.goOn n (hfollows.restage htarget.symm (by simp))
  rename_i entry he
  split
  · exact h.goOn n (hfollows.restage htarget.symm (by simp))
  refine h.finish n (fun b updatedAt response hheld hok => ?_)
  cases hok
  cases target with
  | static entry' =>
    have hnone := hfollows.static entry' htarget
    rw [hnone] at hheld
    cases hheld
  | binding b' updatedAt' =>
    obtain ⟨hheld', hbound⟩ := hfollows.binding b' updatedAt' htarget
    rw [hheld'] at hheld
    cases hheld
    exact h.hit hfollows.plain hbound he

lemma World.Inv.getSourceVersion {sourceID version : Int} {fault : Option GoString}
    {source : CredentialSourceVersion}
    (hget : w.getSourceVersion sourceID version fault = .ok (some source)) :
    (sourceID, version, source) ∈ w.versions := by
  unfold World.getSourceVersion at hget
  split at hget
  · cases hget
  split at hget
  · cases hget
  cases fault with
  | some cause => cases hget
  | none => exact h.published _ _ source (Except.ok.inj hget)

omit h in
/-- A result is that of the registered provider. -/
lemma Service.provide_ok {source : CredentialSourceVersion} {now : Int} {result : ResolveResult}
    (hprovide : svc.provide req b source now = .ok result) :
    ∃ provider, svc.providers[svc.texts.lower (trimSpace source.resolverKind)]? = some provider ∧
      provider req b source svc.defaultTTL now = .ok (some result) := by
  unfold Service.provide at hprovide
  dsimp only at hprovide
  split at hprovide
  · cases hprovide
  rename_i provider hprovider
  refine ⟨provider, hprovider, ?_⟩
  split at hprovide
  · cases hprovide
  · cases hprovide
  · rename_i hresult
    cases hprovide
    exact hresult

lemma World.Inv.makeBinding {getNow : Int} (ha : w.calls[n]? = some a)
    (hs : a.stage = .make (.binding b updatedAt) getNow) (fault : Option GoString)
    (now until_ : Int) : (w.makeBinding svc n a b updatedAt getNow fault now until_).Inv svc := by
  have hfollows := h.calls n a ha
  unfold World.makeBinding
  split
  · exact h.fail n a _
  · exact h.fail n a _
  rename_i source hget
  cases hprovide : svc.provide a.req b source now with
  | error e => exact h.fail n a e
  | ok result =>
    have htarget : a.stage.target = some (.binding b updatedAt) := by rw [hs]; rfl
    refine h.goOn n ⟨hfollows.plain, fun b' updatedAt' ht => ?_, fun entry ht => ?_,
      fun b' updatedAt' response ttl now' hset => ?_⟩
    · exact hfollows.binding b' updatedAt' (htarget.trans ht)
    · cases ht
    · cases hset
      obtain ⟨provider, hprovider, hresult⟩ := Service.provide_ok hprovide
      exact ⟨a.req, source, provider, now, result, ⟨rfl, rfl, rfl⟩, h.getSourceVersion hget,
        hprovider, hresult, rfl⟩

lemma World.Inv.cacheSet {target : Target} {ttl now : Int} (ha : w.calls[n]? = some a)
    (hs : a.stage = .cacheSet target response ttl now) {start : Nat}
    (hcache : cache = .set w.resolveCache (target.cacheKey svc.texts a.req) response
      ttl now start) :
    Inv svc (World.finish { w with resolveCache := cache } n a (.ok response)) := by
  subst hcache
  have hfollows := h.calls n a ha
  have htarget : a.stage.target = some target := by rw [hs]; rfl
  refine finish (h.recache fun key entry he => ?_) n (fun b updatedAt response' hheld hok => ?_)
  · rcases get_set he with ⟨rfl, hresponse⟩ | hold
    · cases target with
      | static entry' => exact .inr ⟨a.req, rfl⟩
      | binding b updatedAt =>
        refine .inl ⟨a.req, b, updatedAt, hfollows.plain,
          (hfollows.binding b updatedAt htarget).2, rfl, ?_⟩
        rw [hresponse]
        exact hfollows.made b updatedAt response ttl now hs
    · exact h.entries key entry hold
  · cases hok
    cases target with
    | static entry =>
      have hnone := hfollows.static entry htarget
      rw [hnone] at hheld
      cases hheld
    | binding b' updatedAt' =>
      obtain ⟨hheld', _⟩ := hfollows.binding b' updatedAt' htarget
      rw [hheld'] at hheld
      cases hheld
      exact hfollows.made b updatedAt response ttl now hs

lemma World.Inv.next {e : Event} (hok : w.Careful svc e) : (w.next svc e).Inv svc := by
  cases e with rw [World.next]
  | upsertBindings teamID sandboxID record => exact h.upsert hok
  | deleteBindings teamID sandboxID => exact h.delete
  | putSource sourceID version source => exact h.putSource sourceID version source
  | deleteSource sourceID version => exact h.deleteSource sourceID version
  | resolve n req =>
    split
    · exact h
    split
    · exact h.fail n _ _
    refine h.goOn n ⟨hok, fun b updatedAt ht => ?_, fun entry ht => ?_, fun _ _ _ _ _ hs => ?_⟩
    · cases ht
    · cases ht
    · cases hs
  | getBindings n fault =>
    split
    · rename_i a ha
      split
      · exact h.choose (h.calls n a ha).plain (hok a ha)
      · exact h
    · exact h
  | cacheGet n now =>
    split
    · rename_i a ha
      split
      · rename_i hs
        exact h.cacheGet ha hs now
      · exact h
    · exact h
  | cacheDrop n =>
    split
    · rename_i a ha
      split
      · rename_i target now hs
        refine goOn (h.recache fun key entry he => h.entries key entry (of_get_erase he).2) n ?_
        exact (h.calls n a ha).restage (by rw [hs]; rfl) (by simp)
      · exact h
    · exact h
  | make n fault now until_ =>
    split
    · rename_i a ha
      split
      · rename_i hs
        exact h.makeBinding ha hs fault now until_
      · rename_i entry getNow hs
        have hfollows := h.calls n a ha
        refine h.goOn n ⟨hfollows.plain, fun b updatedAt ht => ?_, fun entry' ht => ?_,
          fun _ _ _ _ _ hset => ?_⟩
        · cases ht
        · exact hfollows.static entry (by rw [hs]; rfl)
        · cases hset
      · exact h
    · exact h
  | cacheSet n start =>
    split
    · rename_i a ha
      split
      · rename_i hs
        exact h.cacheSet ha hs rfl
      · exact h
    · exact h

end

end Invariant

/-! ## Where the law fails -/

def sampleTexts : Texts :=
  { lower := toLower, quote := id, renderValueTemplate := fun valueTemplate _ => .ok valueTemplate
    parseDuration := fun _ => none, format := intText
    format_injective := fun _ _ => intText_injective, format_text := nul_not_mem_intText }

def sampleService : Service :=
  newService sampleTexts 1000
    [{ authRef := lit "r", headers := (∅ : Headers).insert (lit "auth") (lit "static"),
       ttl := 1000 }]

def sampleBinding : CredentialBinding :=
  { ref := lit "r", sourceRef := lit "src", sourceID := 1, sourceVersion := 2, cachePolicy := none
    projection := { type := .httpHeaders, tlsClientCertificate := none, usernamePassword := none,
                    sshProxy := none,
                    httpHeaders := some [{ name := lit "auth", valueTemplate := lit "bound" }] } }

def sampleSource : CredentialSourceVersion :=
  { resolverKind := lit "static_headers", staticHeaders := some ∅ }

def sampleRequest : ResolveRequest :=
  { sandboxID := lit "s", teamID := lit "t", authRef := lit "r", ruleName := [], destination := [],
    destinationPort := 443, transport := [], protocol := [] }

def World.start : World :=
  { bindings := fun _ _ => none, sources := fun _ _ => none, resolveCache := ∅, calls := ∅,
    done := ∅, stored := [], versions := [] }

lemma World.start_started : start.Started :=
  ⟨fun _ _ => rfl, fun _ _ => rfl, rfl, rfl, rfl, rfl, rfl⟩

/-- The binding and its source are stored, and a request for it is resolved. -/
def sampleRun (fault : Option GoString) : List Event :=
  [.upsertBindings (lit "t") (lit "s") { bindings := [sampleBinding], updatedAt := 7 },
   .putSource 1 2 sampleSource, .resolve 0 sampleRequest, .getBindings 0 fault, .cacheGet 0 10,
   .make 0 none 11 12, .cacheSet 0 0]

def World.header (w : World) (n : Nat) : Option GoString :=
  w.done[n]?.bind fun d => d.outcome.toOption.bind fun response =>
    response.directives.head?.bind fun directive => directive.httpHeaders.bind fun headers =>
      headers[lit "auth"]?

/-- The store fails once, and the request gets the static credential in place of the one of its
binding. -/
theorem store_failure_injects_the_static_credential :
    (let w := (sampleRun (some (lit "timeout"))).foldl (World.next sampleService) World.start
     (w.done[0]?.bind Done.held) = some (sampleBinding, 7) ∧ w.header 0 = some (lit "static")) ∧
    (let w := (sampleRun none).foldl (World.next sampleService) World.start
     w.header 0 = some (lit "bound")) := by
  decide +kernel

/-- While the store is read whenever a static credential of the reference could step in, and the
cache keys tell the bindings apart, a request for which the store holds a binding is refused, or
it gets the credential of that binding at the version that the binding names. -/
theorem bound_credential_is_never_replaced (svc : Service) (w : World)
    (h : w.Reached svc (World.Careful svc)) (n : Nat) (d : Done) (b : CredentialBinding)
    (updatedAt : Int) (response : ResolveResponse) (hdone : w.done[n]? = some d)
    (hheld : d.held = some (b, updatedAt)) (hok : d.outcome = .ok response) :
    CredentialOf svc w.versions d.req b response := by
  have hinv : w.Inv svc :=
    Reach.keeps (fun w hw => hw.inv) (fun w e hinv hok => hinv.next hok) h
  exact hinv.done n d hdone b updatedAt response hheld hok

theorem bound_credential_is_never_replaced_in_a_run_without_faults :
    ∃ (w : World) (d : Done) (response : ResolveResponse),
      w.Reached sampleService (World.Careful sampleService) ∧ w.done[0]? = some d ∧
      d.held = some (sampleBinding, 7) ∧ d.outcome = .ok response ∧
      CredentialOf sampleService w.versions d.req sampleBinding response := by
  have hreach : Reached sampleService (Careful sampleService)
      ((sampleRun none).foldl (World.next sampleService) start) :=
    Reach.run (.start start_started) (sampleRun none) (by decide +kernel)
  have hbound :
    (((sampleRun none).foldl (World.next sampleService) start).done[0]?.bind Done.held) =
      some (sampleBinding, 7) := by decide +kernel
  have hanswer : (((sampleRun none).foldl (World.next sampleService) start).done[0]?.bind
      fun d => d.outcome.toOption).isSome = true := by decide +kernel
  obtain ⟨d, hd, hheld⟩ := bind_eq_some_iff.mp hbound
  rw [hd, bind_some] at hanswer
  cases hok : d.outcome with
  | error e =>
    rw [hok] at hanswer
    cases hanswer
  | ok response =>
    exact ⟨_, d, response, hreach, hd, hheld, hok,
      bound_credential_is_never_replaced sampleService _ hreach 0 d sampleBinding 7
        response hd hheld hok⟩

end sandbox0.egressauth
