-- The validator of internal tokens in `pkg/internalauth/token.go`. Calls run
-- side by side: each looks for the id of its token and records the id under
-- two separate locks, and cleanups forget ids in the background.
import Sandbox0.GoCall
import Sandbox0.GoMap
import Sandbox0.GoString

namespace sandbox0.internalauth

open GoMap List

/-! ## Tokens -/

/-- `Claims`, with times in nanoseconds. -/
structure Claims where
  issuer : GoString
  subject : GoString
  audience : GoString
  issuedAt : Option Int
  expiresAt : Option Int
  id : GoString
  caller : GoString
  target : GoString
  teamID : GoString
  userID : GoString
  sandboxID : GoString
  permissions : List GoString
  isSystem : Bool
  deriving DecidableEq

inductive Method where
  | edDSA
  | other
  deriving DecidableEq

/-- The errors of `jwt.ParseWithClaims`. -/
inductive JwtError where
  | malformed
  | unverifiable
  | signatureInvalid
  | expired

/-- What the `jwt` library makes of a token string. -/
structure Jwt where
  /-- The method and the claims of a well formed string. -/
  decode : GoString → Option (Method × Claims)
  /-- The signature is one of the public key. -/
  verify : GoString → Bool
  text : JwtError → GoString

/-- `jwt.ParseWithClaims` without options: the expiry is checked against the system
clock, and without leeway. -/
def Jwt.parseWithClaims (jwt : Jwt) (token : GoString) (clock : Int) : Except JwtError Claims :=
  match jwt.decode token with
  | none => .error .malformed
  | some (.other, _) => .error .unverifiable
  | some (.edDSA, claims) =>
    if jwt.verify token = false then .error .signatureInvalid
    else
      match claims.expiresAt with
      | none => .ok claims
      | some expiresAt => if clock < expiresAt then .ok claims else .error .expired

/-! ## One call -/

structure ValidatorConfig where
  target : GoString
  allowedCallers : List GoString
  clockSkewTolerance : Int
  replayDetectionEnabled : Bool

structure ValidateOptions where
  requireTeamID : Bool
  requirePermissions : List GoString
  skipTargetCheck : Bool
  skipCallerCheck : Bool
  deriving DecidableEq

inductive Err where
  | invalidToken (cause : GoString)
  | tokenExpired
  | invalidSignature (cause : GoString)
  | invalidTarget (expected got : GoString)
  | callerMismatch
  | callerNotAllowed (caller : GoString)
  | teamIDRequired
  | missingPermissions (required : List GoString)
  | replayAttack
  deriving DecidableEq

def Jwt.refusal (jwt : Jwt) : JwtError → Err
  | .expired => .tokenExpired
  | .signatureInvalid => .invalidSignature (jwt.text .signatureInvalid)
  | e => .invalidToken (jwt.text e)

def hasPermissions (have_ require : List GoString) : Bool :=
  require.all fun req => have_.contains req || have_.contains (lit "*")

/-- What a call is given, and what the clocks show when it reads them: `now` of
`NowFunc`, `clock` of the system. -/
structure Request where
  token : GoString
  opts : ValidateOptions
  now : Int
  clock : Int
  deriving DecidableEq

/-- The checks of the target, the caller, the team and the permissions. -/
def ValidatorConfig.checkClaims (v : ValidatorConfig) (opts : ValidateOptions) (claims : Claims) :
    Option Err :=
  if opts.skipTargetCheck = false ∧ claims.audience ≠ v.target then
    some (.invalidTarget v.target claims.audience)
  else if opts.skipCallerCheck = false ∧ claims.caller ≠ claims.issuer then some .callerMismatch
  else if opts.skipCallerCheck = false ∧ v.allowedCallers ≠ [] ∧
    claims.caller ∉ v.allowedCallers then
    some (.callerNotAllowed claims.caller)
  else if opts.requireTeamID = true ∧ claims.teamID = [] ∧ claims.isSystem = false then
    some .teamIDRequired
  else if opts.requirePermissions ≠ [] ∧
      hasPermissions claims.permissions opts.requirePermissions = false then
    some (.missingPermissions opts.requirePermissions)
  else none

/-- `ValidateWithOptions` up to the replay check. A token without an expiry passes
the library, and its nil expiry is then read. -/
def ValidatorConfig.check (v : ValidatorConfig) (jwt : Jwt) (r : Request) : Outcome Err Claims :=
  match jwt.parseWithClaims r.token r.clock with
  | .error e => .err (jwt.refusal e)
  | .ok claims =>
    match claims.expiresAt with
    | none => .panic
    | some expiresAt =>
      if expiresAt + v.clockSkewTolerance < r.now then .err .tokenExpired
      else
        match v.checkClaims r.opts claims with
        | some e => .err e
        | none => .ok claims

/-- A correctly signed token for this validator, under the options of the call. -/
structure Genuine (v : ValidatorConfig) (jwt : Jwt) (token : GoString) (opts : ValidateOptions)
    (claims : Claims) (expiresAt : Int) : Prop where
  decodes : jwt.decode token = some (.edDSA, claims)
  signed : jwt.verify token = true
  expires : claims.expiresAt = some expiresAt
  matching : v.checkClaims opts claims = none

instance (v : ValidatorConfig) (jwt : Jwt) (token : GoString) (opts : ValidateOptions)
    (claims : Claims) (expiresAt : Int) : Decidable (Genuine v jwt token opts claims expiresAt) :=
  decidable_of_iff (jwt.decode token = some (.edDSA, claims) ∧ jwt.verify token = true ∧
      claims.expiresAt = some expiresAt ∧ v.checkClaims opts claims = none)
    ⟨fun h => ⟨h.1, h.2.1, h.2.2.1, h.2.2.2⟩,
     fun h => ⟨h.decodes, h.signed, h.expires, h.matching⟩⟩

variable {claims : Claims}

/-- A call passes its checks when the token is genuine, the system clock shows a time
before the expiry, and `NowFunc` one that is not past the tolerance. -/
lemma check_eq_ok {v : ValidatorConfig} {jwt : Jwt} {r : Request} : v.check jwt r = .ok claims ↔
      ∃ expiresAt, Genuine v jwt r.token r.opts claims expiresAt ∧ r.clock < expiresAt ∧
        r.now ≤ expiresAt + v.clockSkewTolerance := by
  constructor
  · intro h
    unfold ValidatorConfig.check Jwt.parseWithClaims at h
    rcases hd : jwt.decode r.token with _ | ⟨_ | _, c⟩ <;> simp only [hd] at h
    · cases h
    · cases hs : jwt.verify r.token <;> simp only [hs, if_true, Bool.true_eq_false, if_false] at h
      · cases h
      rcases he : c.expiresAt with _ | x <;> simp only [he] at h
      · cases h
      by_cases hx : r.clock < x
      · simp only [hx, if_true, he] at h
        split at h
        · cases h
        split at h
        · cases h
        · rename_i hnow _ hm
          cases h
          exact ⟨x, ⟨hd, hs, he, hm⟩, hx, by omega⟩
      · simp only [hx, if_false] at h
        cases h
    · cases h
  · rintro ⟨x, hg, hx, hnow⟩
    unfold ValidatorConfig.check Jwt.parseWithClaims
    simp only [hg.decodes, hg.signed, hg.expires, hg.matching, hx, if_true, Bool.true_eq_false,
      if_false, if_neg (show ¬ x + v.clockSkewTolerance < r.now by omega)]

lemma Genuine.unique {v : ValidatorConfig} {jwt : Jwt} {token : GoString} {opts : ValidateOptions}
    {claims' : Claims} {x x' : Int} (h : Genuine v jwt token opts claims x)
    (h' : Genuine v jwt token opts claims' x') : claims' = claims ∧ x' = x := by
  have hd := h.decodes.symm.trans h'.decodes
  cases hd
  have he := h.expires.symm.trans h'.expires
  cases he
  exact ⟨rfl, rfl⟩

/-! ## Calls side by side -/

inductive Stage where
  | isReplay
  | recordJTI
  /-- After the lock of `recordJTI`, with `cacheSize`. -/
  | returns (cacheSize : Nat)
  deriving DecidableEq

structure Active where
  request : Request
  claims : Claims
  expiresAt : Int
  stage : Stage
  /-- What `World.unused` said when the id was looked for. -/
  unused : Bool

/-- A call that has returned. `unused` says that no call had recorded the id of its token
when the call looked for it, or failed before that. -/
structure Done where
  request : Request
  outcome : Outcome Err Claims
  unused : Bool
  deriving DecidableEq

structure Recorded where
  call : Nat
  id : GoString
  expiresAt : Int

structure World where
  jtiCache : GoMap GoString Int
  /-- `now` of each cleanup that has been started and has not run. -/
  cleanups : List Int
  /-- What `time.Now` shows. -/
  clock : Int
  calls : GoMap Nat Active
  done : GoMap Nat Done
  /-- Every id that was ever recorded. -/
  recorded : List Recorded

inductive Event where
  | call (n : Nat) (token : GoString) (opts : ValidateOptions) (now : Int)
  | isReplay (n : Nat)
  | recordJTI (n : Nat)
  /-- The call starts a cleanup, if it has to, and returns the claims. -/
  | returns (n : Nat)
  /-- A cleanup with this `now` runs. -/
  | cleanupExpiredJTI (now : Int)
  | clock (time : Int)

/-- `5 * time.Minute`. -/
def grace : Int := 300000000000

def World.unused (w : World) (jwt : Jwt) (token : GoString) : Bool :=
  match jwt.decode token with
  | none => true
  | some (_, claims) => w.recorded.all fun r => r.id ≠ claims.id

def World.finish (w : World) (n : Nat) (d : Done) : World :=
  { w with calls := w.calls.erase n, done := w.done.insert n d }

def World.goOn (w : World) (n : Nat) (a : Active) : World :=
  { w with calls := w.calls.insert n a }

/-- `recordJTI` under its lock. -/
def World.record (w : World) (n : Nat) (a : Active) : World :=
  let jtiCache := w.jtiCache.insert a.claims.id a.expiresAt
  { w with
    jtiCache
    calls := w.calls.insert n { a with stage := .returns jtiCache.size }
    recorded := { call := n, id := a.claims.id, expiresAt := a.expiresAt } :: w.recorded }

def cleanupExpiredJTI (jtiCache : GoMap GoString Int) (now : Int) : GoMap GoString Int :=
  jtiCache.filter fun _ expiresAt => decide (now ≤ expiresAt + grace)

def World.begin (w : World) (v : ValidatorConfig) (jwt : Jwt) (n : Nat)
    (request : Request) : World :=
  match v.check jwt request with
  | .ok claims =>
    if v.replayDetectionEnabled then
      w.goOn n { request, claims, expiresAt := claims.expiresAt.getD 0, stage := .isReplay,
                 unused := true }
    else w.finish n { request, outcome := .ok claims, unused := w.unused jwt request.token }
  | outcome => w.finish n { request, outcome, unused := w.unused jwt request.token }

def World.next (v : ValidatorConfig) (jwt : Jwt) (w : World) : Event → World
  | .call n token opts now =>
    if w.calls[n]? = none ∧ w.done[n]? = none then
      w.begin v jwt n { token, opts, now, clock := w.clock }
    else w
  | .isReplay n =>
    match w.calls[n]? with
    | some a =>
      if a.stage = .isReplay then
        if w.jtiCache[a.claims.id]? ≠ none then
          w.finish n { request := a.request, outcome := .err .replayAttack,
                       unused := w.unused jwt a.request.token }
        else w.goOn n { a with stage := .recordJTI, unused := w.unused jwt a.request.token }
      else w
    | none => w
  | .recordJTI n =>
    match w.calls[n]? with
    | some a => if a.stage = .recordJTI then w.record n a else w
    | none => w
  | .returns n =>
    match w.calls[n]? with
    | some { request, claims, stage := .returns cacheSize, unused, .. } =>
      { w.finish n { request, outcome := .ok claims, unused } with
        cleanups := if cacheSize % 100 = 0 then w.clock :: w.cleanups else w.cleanups }
    | _ => w
  | .cleanupExpiredJTI now =>
    if now ∈ w.cleanups then
      { w with jtiCache := internalauth.cleanupExpiredJTI w.jtiCache now
               cleanups := w.cleanups.erase now }
    else w
  | .clock time => { w with clock := time }

structure World.Started (w : World) : Prop where
  jtiCache : w.jtiCache = ∅
  cleanups : w.cleanups = []
  calls : w.calls = ∅
  done : w.done = ∅
  recorded : w.recorded = []

/-! ## The steps that keep the law -/

/-- When a call looks for its id, no other call has found the same id unused and is still to
record it. -/
def World.Apart (w : World) (n : Nat) (id : GoString) : Prop :=
  ∀ p ∈ w.calls.toList, p.1 ≠ n → p.2.stage = .recordJTI → p.2.claims.id ≠ id

/-- No token with this id that a call has recorded expired more than five minutes ago. -/
def World.Remembers (w : World) (id : GoString) : Prop :=
  ∀ r ∈ w.recorded, r.id = id → w.clock ≤ r.expiresAt + grace

/-- A token that is not past the tolerance by `NowFunc` is not past its expiry by the system
clock. -/
def World.Agrees (v : ValidatorConfig) (jwt : Jwt) (w : World) (token : GoString)
    (opts : ValidateOptions) (now : Int) : Prop :=
  ∀ p ∈ jwt.decode token, ∀ expiresAt ∈ p.2.expiresAt, Genuine v jwt token opts p.2 expiresAt →
    now ≤ expiresAt + v.clockSkewTolerance → w.clock < expiresAt

instance (w : World) (n : Nat) (id : GoString) : Decidable (w.Apart n id) :=
  inferInstanceAs (Decidable (∀ p ∈ w.calls.toList, _ → _ → _))

instance (w : World) (id : GoString) : Decidable (w.Remembers id) :=
  inferInstanceAs (Decidable (∀ r ∈ w.recorded, _ → _))

instance (v : ValidatorConfig) (jwt : Jwt) (w : World) (token : GoString) (opts : ValidateOptions)
    (now : Int) : Decidable (w.Agrees v jwt token opts now) :=
  inferInstanceAs (Decidable (∀ p ∈ jwt.decode token, ∀ expiresAt ∈ p.2.expiresAt, _ → _ → _))

def World.Careful (v : ValidatorConfig) (jwt : Jwt) (w : World) : Event → Prop
  | .call _ token opts now => w.Agrees v jwt token opts now
  | .isReplay n => ∀ a ∈ w.calls[n]?, a.stage = .isReplay →
      w.Apart n a.claims.id ∧ w.Remembers a.claims.id
  | .clock time => w.clock ≤ time
  | _ => True

instance (v : ValidatorConfig) (jwt : Jwt) (w : World) (e : Event) :
    Decidable (w.Careful v jwt e) := by
  unfold World.Careful
  split <;> infer_instance

def World.Reached (v : ValidatorConfig) (jwt : Jwt) (ok : World → Event → Prop) : World → Prop :=
  Reach World.Started (fun w e w' => w' = w.next v jwt e) ok

/-- The call accepted the token exactly if `NowFunc` was not past the tolerance, when the token is
genuine and its id was not used. -/
def Done.Fresh (v : ValidatorConfig) (jwt : Jwt) (d : Done) : Prop :=
  ∀ claims expiresAt, Genuine v jwt d.request.token d.request.opts claims expiresAt →
    d.unused = true →
      (d.outcome = .ok claims ↔ d.request.now ≤ expiresAt + v.clockSkewTolerance)

/-! ## Where the law fails -/

def World.start (clock : Int) : World :=
  { jtiCache := ∅, cleanups := [], clock, calls := ∅, done := ∅, recorded := [] }

lemma World.start_started {clock : Int} : (World.start clock).Started := ⟨rfl, rfl, rfl, rfl, rfl⟩

def sampleConfig : ValidatorConfig :=
  { target := lit "manager", allowedCallers := [lit "procd"], clockSkewTolerance := 5,
    replayDetectionEnabled := true }

def sampleOptions : ValidateOptions :=
  { requireTeamID := false, requirePermissions := [], skipTargetCheck := false,
    skipCallerCheck := false }

def sampleClaims : Claims :=
  { issuer := lit "procd", subject := lit "system", audience := lit "manager", issuedAt := some 0,
    expiresAt := some 100, id := lit "j", caller := lit "procd", target := lit "manager",
    teamID := [], userID := [], sandboxID := [], permissions := [], isSystem := true }

def sampleJwt : Jwt :=
  { decode := fun _ => some (.edDSA, sampleClaims), verify := fun _ => true, text := fun _ => [] }

def sampleRun : List Event :=
  [.call 0 (lit "t") sampleOptions 3, .isReplay 0, .call 1 (lit "t") sampleOptions 4,
   .recordJTI 0, .returns 0, .isReplay 1]

/-- Two calls that look for the id before either records it. -/
def overlappingRun : List Event :=
  [.call 0 (lit "t") sampleOptions 3, .call 1 (lit "t") sampleOptions 3, .isReplay 0, .isReplay 1,
   .recordJTI 0, .recordJTI 1, .returns 0, .returns 1]

def World.outcome (w : World) (n : Nat) : Option (Outcome Err Claims) := w.done[n]?.map Done.outcome

/-- Two calls accept one token. And a call two units past the expiry, within the tolerance
of five, refuses a token whose id no call has used. -/
theorem overlapping_calls_accept_one_token_twice :
    (let w := overlappingRun.foldl (World.next sampleConfig sampleJwt) (World.start 0)
     w.outcome 0 = some (.ok sampleClaims) ∧ w.outcome 1 = some (.ok sampleClaims)) ∧
    (let w := [Event.call 0 (lit "t") sampleOptions 102].foldl (World.next sampleConfig sampleJwt)
       (World.start 102)
     w.outcome 0 = some (.err .tokenExpired) ∧ 102 ≤ 100 + sampleConfig.clockSkewTolerance) := by
  decide +kernel

/-! ## The invariant -/

structure World.Inv (v : ValidatorConfig) (jwt : Jwt) (w : World) : Prop where
  checked : ∀ (n : Nat) (a : Active), w.calls[n]? = some a →
    v.check jwt a.request = .ok a.claims ∧ a.claims.expiresAt = some a.expiresAt
  cached : ∀ (j : GoString) (x : Int), w.jtiCache[j]? = some x → ∃ r ∈ w.recorded, r.id = j
  kept : ∀ r ∈ w.recorded,
    w.jtiCache[r.id]? = some r.expiresAt ∨ r.expiresAt + grace < w.clock
  cleanups : ∀ t ∈ w.cleanups, t ≤ w.clock
  passed : ∀ (n : Nat) (a : Active), w.calls[n]? = some a → a.stage = .recordJTI →
    ∀ r ∈ w.recorded, r.id ≠ a.claims.id
  alone : ∀ (n m : Nat) (a b : Active), w.calls[n]? = some a → w.calls[m]? = some b →
    a.stage = .recordJTI → b.stage = .recordJTI → a.claims.id = b.claims.id → n = m
  once : ∀ r ∈ w.recorded, ∀ s ∈ w.recorded, r.id = s.id → r.call = s.call
  returning : ∀ (n : Nat) (a : Active) (size : Nat), w.calls[n]? = some a →
    a.stage = .returns size → ∃ r ∈ w.recorded, r.call = n ∧ r.id = a.claims.id
  accepted : ∀ (n : Nat) (d : Done) (claims : Claims), w.done[n]? = some d →
    d.outcome = .ok claims → ∃ r ∈ w.recorded, r.call = n ∧ r.id = claims.id
  fresh : ∀ (n : Nat) (d : Done), w.done[n]? = some d → d.Fresh v jwt

variable {v : ValidatorConfig} {jwt : Jwt} {w : World}

lemma World.Started.inv (h : w.Started) : w.Inv v jwt where
  checked := by simp [h.calls]
  cached := by simp [h.jtiCache]
  kept := by simp [h.recorded]
  cleanups := by simp [h.cleanups]
  passed := by simp [h.calls]
  alone := by simp [h.calls]
  once := by simp [h.recorded]
  returning := by simp [h.calls]
  accepted := by simp [h.done]
  fresh := by simp [h.done]

lemma get_cleanupExpiredJTI (jtiCache : GoMap GoString Int) (now : Int) (j : GoString) :
    (cleanupExpiredJTI jtiCache now)[j]? = jtiCache[j]?.filter fun x => decide (now ≤ x + grace) :=
  get_filter jtiCache _ j

/-- The checks alone: a token that is not past the tolerance passes them. -/
lemma fresh_of_check_ok {d : Done} (h : v.check jwt d.request = .ok claims)
    (hout : d.outcome = .ok claims) : d.Fresh v jwt := by
  intro claims' x hg _
  obtain ⟨x', hg', _, hnow⟩ := check_eq_ok.mp h
  obtain ⟨rfl, rfl⟩ := hg'.unique hg
  rw [hout]
  exact ⟨fun _ => hnow, fun _ => rfl⟩

lemma fresh_of_refused {d : Done} (hagrees : ∀ claims x,
      Genuine v jwt d.request.token d.request.opts claims x →
        d.request.now ≤ x + v.clockSkewTolerance → d.request.clock < x)
    (hout : ∀ claims, d.outcome ≠ .ok claims) (h : v.check jwt d.request = d.outcome) :
    d.Fresh v jwt := by
  intro claims x hg _
  refine ⟨fun hok => absurd hok (hout claims), fun hnow => ?_⟩
  rw [← h]
  exact check_eq_ok.mpr ⟨x, hg, hagrees claims x hg hnow, hnow⟩

lemma World.Agrees.before {token : GoString} {opts : ValidateOptions} {now : Int}
    (h : w.Agrees v jwt token opts now) (claims : Claims) (x : Int)
    (hg : Genuine v jwt token opts claims x) (hnow : now ≤ x + v.clockSkewTolerance) :
    w.clock < x :=
  h _ hg.decodes x hg.expires hg hnow

section

variable (h : w.Inv v jwt)

include h

lemma World.Inv.finish (n : Nat) {d : Done} (hfresh : d.Fresh v jwt)
    (haccepted : ∀ claims, d.outcome = .ok claims → ∃ r ∈ w.recorded, r.call = n ∧
      r.id = claims.id) :
    (w.finish n d).Inv v jwt where
  checked m a ha := h.checked m a (of_get_erase ha).2
  cached := h.cached
  kept := h.kept
  cleanups := h.cleanups
  passed m a ha := h.passed m a (of_get_erase ha).2
  alone m k a b ha hb := h.alone m k a b (of_get_erase ha).2 (of_get_erase hb).2
  once := h.once
  returning m a size ha := h.returning m a size (of_get_erase ha).2
  accepted m e claims he hok := by
    rcases of_get_insert he with ⟨rfl, rfl⟩ | ⟨_, he⟩
    · exact haccepted claims hok
    · exact h.accepted m e claims he hok
  fresh := all_insert hfresh h.fresh

variable {a : Active}

lemma World.Inv.goOn (n : Nat)
    (hchecked : v.check jwt a.request = .ok a.claims ∧ a.claims.expiresAt = some a.expiresAt)
    (hstage : a.stage = .isReplay ∨ a.stage = .recordJTI ∧ w.Apart n a.claims.id ∧
      ∀ r ∈ w.recorded, r.id ≠ a.claims.id) :
    (w.goOn n a).Inv v jwt where
  checked := all_insert hchecked h.checked
  cached := h.cached
  kept := h.kept
  cleanups := h.cleanups
  passed m b hb hs := by
    rcases of_get_insert hb with ⟨rfl, rfl⟩ | ⟨_, hb⟩
    · rcases hstage with hr | ⟨_, _, hnone⟩
      · rw [hr] at hs
        cases hs
      · exact hnone
    · exact h.passed m b hb hs
  alone m k b c hb hc hsb hsc hid := by
    -- the call that goes on is alone with its id, since the others are apart from it
    have hother : ∀ (m : Nat) (b : Active), w.calls[m]? = some b → m ≠ n → b.stage = .recordJTI →
      a.stage = .recordJTI → b.claims.id ≠ a.claims.id := by
      intro m b hb hne hsb hsa
      rcases hstage with hr | ⟨_, hapart, _⟩
      · rw [hr] at hsa
        cases hsa
      · exact hapart (m, b) ((GoMap.mem_toList _ _ _).mpr hb) hne hsb
    rcases of_get_insert hb with ⟨rfl, rfl⟩ | ⟨hne, hold⟩
    · rcases of_get_insert hc with ⟨rfl, rfl⟩ | ⟨hne', hc⟩
      · rfl
      · exact absurd hid.symm (hother k c hc hne' hsc hsb)
    · rcases of_get_insert hc with ⟨rfl, rfl⟩ | ⟨hne', hc⟩
      · exact absurd hid (hother m b hold hne hsb hsc)
      · exact h.alone m k b c hold hc hsb hsc hid
  once := h.once
  returning m b size hb hs := by
    rcases of_get_insert hb with ⟨rfl, rfl⟩ | ⟨_, hb⟩
    · rcases hstage with hr | ⟨hr, _⟩
      · rw [hr] at hs
        cases hs
      · rw [hr] at hs
        cases hs
    · exact h.returning m b size hb hs
  accepted := h.accepted
  fresh := h.fresh

/-- A call records an id that no other call has recorded or is about to record. -/
lemma World.Inv.record {n : Nat} (ha : w.calls[n]? = some a)
    (hs : a.stage = .recordJTI) : (w.record n a).Inv v jwt := by
  have hnone := h.passed n a ha hs
  refine ⟨all_insert (h.checked n a ha) h.checked, fun j x hx => ?_, fun r hr => ?_, h.cleanups,
    fun m b hb hsb r hr => ?_,
    fun m k b c hb hc hsb hsc hid => ?_, fun r hr s hs' hid => ?_, fun m b size hb hsb => ?_,
    fun m d claims hd hok => ?_, h.fresh⟩
  · by_cases hj : a.claims.id = j
    · exact ⟨_, mem_cons_self, hj⟩
    · obtain ⟨r, hr, hrj⟩ := h.cached j x ((get_insert_ne _ _ hj).symm.trans hx)
      exact ⟨r, mem_cons_of_mem _ hr, hrj⟩
  · rcases mem_cons.mp hr with rfl | hr
    · exact .inl (get_insert_self _ _ _)
    · rcases h.kept r hr with hk | hk
      · exact .inl ((get_insert_ne _ _ (Ne.symm (hnone r hr))).trans hk)
      · exact .inr hk
  · rcases of_get_insert hb with ⟨rfl, rfl⟩ | ⟨hne, hb⟩
    · cases hsb
    · rcases mem_cons.mp hr with rfl | hr
      · intro hid
        exact hne (h.alone m n b a hb ha hsb hs hid.symm)
      · exact h.passed m b hb hsb r hr
  · rcases of_get_insert hb with ⟨rfl, rfl⟩ | ⟨_, hb⟩
    · cases hsb
    · rcases of_get_insert hc with ⟨rfl, rfl⟩ | ⟨_, hc⟩
      · cases hsc
      · exact h.alone m k b c hb hc hsb hsc hid
  · rcases mem_cons.mp hr with rfl | hr
    · rcases mem_cons.mp hs' with rfl | hs'
      · rfl
      · exact absurd hid.symm (hnone s hs')
    · rcases mem_cons.mp hs' with rfl | hs'
      · exact absurd hid (hnone r hr)
      · exact h.once r hr s hs' hid
  · rcases of_get_insert hb with ⟨rfl, rfl⟩ | ⟨_, hb⟩
    · exact ⟨_, mem_cons_self, rfl, rfl⟩
    · obtain ⟨r, hr, hrm, hrid⟩ := h.returning m b size hb hsb
      exact ⟨r, mem_cons_of_mem _ hr, hrm, hrid⟩
  · obtain ⟨r, hr, hrm, hrid⟩ := h.accepted m d claims hd hok
    exact ⟨r, mem_cons_of_mem _ hr, hrm, hrid⟩

lemma World.Inv.cleanup {now : Int} (hnow : now ∈ w.cleanups) :
    World.Inv v jwt { w with jtiCache := internalauth.cleanupExpiredJTI w.jtiCache now
                             cleanups := w.cleanups.erase now } := by
  refine ⟨h.checked, fun j x hx => ?_, fun r hr => ?_, fun t ht => ?_, h.passed, h.alone, h.once,
    h.returning, h.accepted, h.fresh⟩
  · rw [get_cleanupExpiredJTI] at hx
    exact h.cached j x (Option.filter_eq_some_iff.mp hx).1
  · rcases h.kept r hr with hk | hk
    · by_cases hold : now ≤ r.expiresAt + grace
      · left
        rw [get_cleanupExpiredJTI, hk]
        simp [hold]
      · have hlate := h.cleanups now hnow
        right
        show r.expiresAt + grace < w.clock
        omega
    · exact .inr hk
  · exact h.cleanups t (mem_of_mem_erase ht)

/-! ## Steps -/

lemma World.Inv.begin (henabled : v.replayDetectionEnabled = true) (n : Nat)
    {r : Request} (hclock : r.clock = w.clock) (hagrees : w.Agrees v jwt r.token r.opts r.now) :
    (w.begin v jwt n r).Inv v jwt := by
  unfold World.begin
  cases hc : v.check jwt r with
  | ok claims =>
    simp only [henabled, if_true]
    obtain ⟨x, hg, _, _⟩ := check_eq_ok.mp hc
    refine h.goOn n ⟨hc, ?_⟩ (.inl rfl)
    simp only [hg.expires, Option.getD_some]
  | err | panic =>
    refine h.finish n (fresh_of_refused ?_ (by simp) hc) (by simp)
    rw [hclock]
    exact hagrees.before

/-- An id that is not cached has not been recorded, as long as the cache remembers. -/
lemma World.Inv.not_recorded {id : GoString} (hremembers : w.Remembers id)
    (hnone : w.jtiCache[id]? = none) : ∀ r ∈ w.recorded, r.id ≠ id := by
  rintro r hr rfl
  rcases h.kept r hr with hk | hk
  · rw [hk] at hnone
    cases hnone
  · have hle := hremembers r hr rfl
    omega

lemma World.Inv.isReplay {n : Nat} (ha : w.calls[n]? = some a)
    (hapart : w.Apart n a.claims.id) (hremembers : w.Remembers a.claims.id) :
    World.Inv v jwt (if w.jtiCache[a.claims.id]? ≠ none then
      w.finish n { request := a.request, outcome := .err .replayAttack,
                   unused := w.unused jwt a.request.token }
      else w.goOn n { a with stage := .recordJTI, unused := w.unused jwt a.request.token }) := by
  have hchecked := h.checked n a ha
  split
  · rename_i hcached
    refine h.finish n ?_ (by simp)
    -- a cached id has been recorded, so the id of this token was used
    intro claims x hg hunused
    exfalso
    obtain ⟨x', hx'⟩ := Option.ne_none_iff_exists'.mp hcached
    obtain ⟨r, hr, hid⟩ := h.cached _ x' hx'
    obtain ⟨x'', hg', _, _⟩ := check_eq_ok.mp hchecked.1
    obtain ⟨rfl, rfl⟩ := hg'.unique hg
    simp only [World.unused, hg.decodes, all_eq_true, decide_eq_true_eq] at hunused
    exact hunused r hr hid
  · rename_i hnone
    exact h.goOn n hchecked
      (.inr ⟨rfl, hapart, h.not_recorded hremembers (not_not.mp hnone)⟩)

lemma World.Inv.returns {n : Nat} {size : Nat} (ha : w.calls[n]? = some a)
    (hs : a.stage = .returns size) :
    World.Inv v jwt
      (w.finish n { request := a.request, outcome := .ok a.claims, unused := a.unused }) := by
  refine h.finish n (fresh_of_check_ok (h.checked n a ha).1 rfl) ?_
  intro claims hok
  cases hok
  exact h.returning n a size ha hs

lemma World.Inv.recleanup {cleanups : List Int} (hle : ∀ t ∈ cleanups, t ≤ w.clock) :
    World.Inv v jwt { w with cleanups } :=
  ⟨h.checked, h.cached, h.kept, hle, h.passed, h.alone, h.once, h.returning, h.accepted, h.fresh⟩

lemma World.Inv.clock {time : Int} (hle : w.clock ≤ time) :
    World.Inv v jwt { w with clock := time } := by
  refine ⟨h.checked, h.cached, fun r hr => ?_, fun t ht => ?_, h.passed, h.alone,
    h.once, h.returning, h.accepted, h.fresh⟩
  · rcases h.kept r hr with hk | hk
    · exact .inl hk
    · exact .inr (lt_of_lt_of_le hk hle)
  · exact (h.cleanups t ht).trans hle

end

lemma World.Inv.next (henabled : v.replayDetectionEnabled = true) (h : w.Inv v jwt) {e : Event}
    (hok : w.Careful v jwt e) : (w.next v jwt e).Inv v jwt := by
  cases e with rw [World.next]
  | call n token opts now =>
    split
    · exact h.begin henabled n rfl hok
    · exact h
  | isReplay n =>
    split
    · rename_i a ha
      split
      · rename_i hs
        obtain ⟨hapart, hremembers⟩ := hok a ha hs
        exact h.isReplay ha hapart hremembers
      · exact h
    · exact h
  | recordJTI n =>
    split
    · rename_i a ha
      split
      · rename_i hs
        exact h.record ha hs
      · exact h
    · exact h
  | returns n =>
    split
    · rename_i request claims expiresAt size unused ha
      refine (h.returns ha rfl).recleanup ?_
      intro t ht
      split at ht
      · rcases mem_cons.mp ht with rfl | ht
        · exact le_refl _
        · exact h.cleanups t ht
      · exact h.cleanups t ht
    · exact h
  | cleanupExpiredJTI now =>
    split
    · rename_i hnow
      exact h.cleanup hnow
    · exact h
  | clock time => exact h.clock hok

lemma World.Reached.inv (henabled : v.replayDetectionEnabled = true)
    (h : w.Reached v jwt (World.Careful v jwt)) : w.Inv v jwt := by
  exact Reach.keeps (fun w hw => hw.inv) (fun w e hinv hok => hinv.next henabled hok) h

/-- While every call looks for its id when no other call is about to record it and no cleanup
can have forgotten it, and while the two clocks agree on which tokens are alive, no token id is
accepted twice, and a genuine token with an unused id is accepted exactly if `NowFunc` is not past
its expiry and the tolerance. -/
theorem internal_token_is_accepted_once_and_while_fresh (v : ValidatorConfig) (jwt : Jwt)
    (henabled : v.replayDetectionEnabled = true) (w : World)
    (h : w.Reached v jwt (World.Careful v jwt)) :
    (∀ (n m : Nat) (d d' : Done) (claims claims' : Claims), w.done[n]? = some d →
      w.done[m]? = some d' →
      d.outcome = .ok claims → d'.outcome = .ok claims' → claims.id = claims'.id → n = m) ∧
      ∀ (n : Nat) (d : Done), w.done[n]? = some d → d.Fresh v jwt := by
  have hinv := h.inv henabled
  refine ⟨fun n m d d' claims claims' hd hd' hok hok' hid => ?_, hinv.fresh⟩
  obtain ⟨r, hr, rfl, hrid⟩ := hinv.accepted n d claims hd hok
  obtain ⟨s, hs, rfl, hsid⟩ := hinv.accepted m d' claims' hd' hok'
  exact hinv.once r hr s hs (by rw [hrid, hsid, hid])

/-- A validator with one allowed caller, a token of that caller, and two calls with it. -/
theorem internal_token_is_accepted_once_and_while_fresh_for_two_calls :
    let w := sampleRun.foldl (World.next sampleConfig sampleJwt) (World.start 0)
    w.outcome 0 = some (.ok sampleClaims) ∧ w.outcome 1 = some (.err .replayAttack) ∧
      ∀ (n : Nat) (d : Done), w.done[n]? = some d → d.Fresh sampleConfig sampleJwt := by
  intro w
  have hreach : w.Reached sampleConfig sampleJwt (World.Careful sampleConfig sampleJwt) :=
    Reach.run (.start World.start_started) sampleRun (by decide +kernel)
  exact ⟨by decide +kernel, by decide +kernel,
    (internal_token_is_accepted_once_and_while_fresh sampleConfig sampleJwt rfl w hreach).2⟩

end sandbox0.internalauth
