-- Refresh tokens of the gateway, in `pkg/gateway/http/handlers/auth.go` and
-- `pkg/gateway/identity/token_repository.go`. A refresh looks at the presented
-- token and stores a new one in separate statements, and a logout or a change
-- of the password revokes the tokens of its user by a statement in between.
import Sandbox0.GoCall
import Sandbox0.GoMap
import Sandbox0.GoString

namespace sandbox0.gateway

/-! ## Tables -/

/-- A row of `refresh_tokens`. -/
structure RefreshToken where
  userID : GoString
  expiresAt : Int
  revoked : Bool

structure Tables where
  /-- The rows, by `token_hash`, which is `UNIQUE`. -/
  refreshTokens : GoMap GoString RefreshToken
  /-- `password_hash` of `users`, by `id`. -/
  users : GoMap GoString GoString

inductive TokenError where
  | tokenNotFound
  | tokenRevoked
  | tokenExpired

def Tables.validateRefreshToken (t : Tables) (tokenHash : GoString) (now : Int) :
    Except TokenError RefreshToken :=
  match t.refreshTokens[tokenHash]? with
  | none => .error .tokenNotFound
  | some token =>
    if token.revoked then .error .tokenRevoked
    else if token.expiresAt < now then .error .tokenExpired
    else .ok token

/-- `INSERT INTO refresh_tokens`. The hash is unique and the user exists, or the statement fails. -/
def Tables.createRefreshToken (t : Tables) (userID tokenHash : GoString) (expiresAt : Int) :
    Option Tables :=
  if t.refreshTokens[tokenHash]? = none ∧ t.users[userID]? ≠ none then
    some { t with refreshTokens := t.refreshTokens.insert tokenHash
                    { userID, expiresAt, revoked := false } }
  else none

/-- `UPDATE refresh_tokens SET revoked = true WHERE user_id = $1`. -/
def Tables.revokeAllUserRefreshTokens (t : Tables) (userID : GoString) : Tables :=
  { t with refreshTokens := t.refreshTokens.map fun _ token =>
      if token.userID = userID then { token with revoked := true } else token }

/-! ## Requests -/

structure Env where
  /-- `jwtIssuer.ValidateRefreshToken` at a time: the user of the claims. -/
  validateRefreshToken : GoString → Int → Option GoString
  hashRefreshToken : GoString → GoString
  /-- `config.Enabled` of the built-in provider. -/
  enabled : Bool
  compareHashAndPassword : GoString → GoString → Bool

/-- The statement that a request makes next. -/
inductive Progress where
  /-- `RefreshToken` with the presented token. -/
  | validate (token : GoString)
  | getUser (token : GoString)
  | teamGrants (token : GoString)
  | create (token : GoString)
  /-- `ChangePassword` of the built-in provider. -/
  | getAccount (oldPassword newPassword : GoString)
  | updatePassword (passwordHash : GoString)
  /-- `RevokeAllUserRefreshTokens`, and the message that is reported after it. -/
  | revokeAll (message : GoString)
  | report (message : GoString)

structure Request where
  userID : GoString
  progress : Progress

inductive Answer where
  | error (status : Nat) (message : GoString)
  /-- `LoginResponse` with the new refresh token. -/
  | tokens (refreshToken : GoString)
  | success (message : GoString)
  deriving DecidableEq

def Answer.invalidToken : Answer := .error 401 (lit "invalid refresh token")
def Answer.notIssued : Answer := .error 500 (lit "failed to issue tokens")
def passwordChanged : GoString := lit "password changed successfully"
def loggedOut : GoString := lit "logged out"

/-- How a statement fails: without effect, or with its effect and a lost answer. -/
inductive Fault where
  | refused
  | unanswered
  deriving DecidableEq

structure Io where
  fault : Option Fault
  cause : GoString
  now : Int
  /-- The refresh token of `IssueTokenPair` and its expiry. -/
  issued : Option (GoString × Int)
  /-- `bcrypt.GenerateFromPassword`. -/
  generated : Option GoString

abbrev Turn := Answer ⊕ Progress

/-- The request goes on after a statement that does not fail. -/
def Request.turn (env : Env) (io : Io) (r : Request) (t : Tables) : Turn × Tables :=
  match r.progress with
  | .validate token =>
    match t.validateRefreshToken (env.hashRefreshToken token) io.now with
    | .ok stored =>
      (if stored.userID = r.userID then .inr (.getUser token) else .inl .invalidToken, t)
    | .error _ => (.inl .invalidToken, t)
  | .getUser token =>
    (if t.users[r.userID]? = none then .inl (.error 401 (lit "user not found"))
     else .inr (.teamGrants token), t)
  | .teamGrants token => (.inr (.create token), t)
  | .create _ =>
    match io.issued with
    | none => (.inl .notIssued, t)
    | some (refreshToken, expiresAt) =>
      match t.createRefreshToken r.userID (env.hashRefreshToken refreshToken) expiresAt with
      | none => (.inl .notIssued, t)
      | some t' => (.inl (.tokens refreshToken), t')
  | .getAccount oldPassword newPassword =>
    match t.users[r.userID]? with
    | none => (.inl (.error 400 (lit "get user: user not found")), t)
    | some passwordHash =>
      if passwordHash ≠ [] ∧ env.compareHashAndPassword passwordHash oldPassword = false then
        (.inl (.error 401 (lit "invalid email or password")), t)
      else if newPassword.length < 8 then
        (.inl (.error 400 (lit "password must be at least 8 characters")), t)
      else
        match io.generated with
        | none => (.inl (.error 400 (lit "hash password: " ++ io.cause)), t)
        | some passwordHash => (.inr (.updatePassword passwordHash), t)
  | .updatePassword passwordHash =>
    if t.users[r.userID]? = none then (.inl (.error 400 (lit "user not found")), t)
    else (.inr (.revokeAll passwordChanged),
      { t with users := t.users.insert r.userID passwordHash })
  | .revokeAll message => (.inr (.report message), t.revokeAllUserRefreshTokens r.userID)
  | .report message => (.inl (.success message), t)

/-- What the handler does when the statement fails. Both handlers drop the error of
`RevokeAllUserRefreshTokens`. -/
def Request.faulted (io : Io) (r : Request) : Turn :=
  match r.progress with
  | .validate _ => .inl .invalidToken
  | .getUser _ => .inl (.error 401 (lit "user not found"))
  | .teamGrants _ => .inl (.error 403 (lit "user is not a member of the selected team"))
  | .create _ => .inl .notIssued
  | .getAccount _ _ => .inl (.error 400 (lit "get user: " ++ io.cause))
  | .updatePassword _ => .inl (.error 400 (lit "update password: " ++ io.cause))
  | .revokeAll message => .inr (.report message)
  | .report message => .inl (.success message)

def Request.step (env : Env) (io : Io) (r : Request) (t : Tables) : Turn × Tables :=
  match io.fault with
  | none => r.turn env io t
  | some .refused => (r.faulted io, t)
  | some .unanswered => (r.faulted io, (r.turn env io t).2)

/-! ## Requests side by side -/

structure World where
  tables : Tables
  requests : GoMap Nat Request
  answers : GoMap Nat Answer
  /-- The hashes of the tokens that must not be exchanged any more: those of a user at the
  moment when a logout or a change of the password reports success, and those of tokens that
  were minted for such a token. -/
  condemned : List GoString
  /-- Each successful exchange: the hash of the presented token, and whether it was
  condemned then. -/
  exchanged : List (GoString × Bool)

inductive Event where
  /-- `RefreshToken`, with the token of the body. -/
  | refreshToken (n : Nat) (body : Option GoString) (now : Int)
  /-- `ChangePassword`, with the user of the auth context and the passwords of the body. -/
  | changePassword (n : Nat) (authCtx : Option GoString) (body : Option (GoString × GoString))
  | logout (n : Nat) (authCtx : Option GoString)
  | step (n : Nat) (io : Io)
  /-- A login stores a token. -/
  | login (userID refreshToken : GoString) (expiresAt : Int)

/-- `RefreshToken` up to its first statement. -/
def arriveRefresh (env : Env) (body : Option GoString) (now : Int) : Answer ⊕ Request :=
  match body with
  | none => .inl (.error 400 (lit "invalid request body"))
  | some token =>
    match env.validateRefreshToken token now with
    | none => .inl .invalidToken
    | some userID => .inr { userID, progress := .validate token }

def arriveChangePassword (env : Env) (authCtx : Option GoString)
    (body : Option (GoString × GoString)) : Answer ⊕ Request :=
  match authCtx, body with
  | none, _ => .inl (.error 401 (lit "not authenticated"))
  | some _, none => .inl (.error 400 (lit "invalid request body"))
  | some userID, some (oldPassword, newPassword) =>
    if env.enabled then .inr { userID, progress := .getAccount oldPassword newPassword }
    else .inl (.error 400 (lit "built-in authentication is disabled"))

def arriveLogout (authCtx : Option GoString) : Answer ⊕ Request :=
  match authCtx with
  | none => .inl (.success loggedOut)
  | some userID => .inr { userID, progress := .revokeAll loggedOut }

def Tables.hashesOf (t : Tables) (userID : GoString) : List GoString :=
  (t.refreshTokens.toList.filter fun p => p.2.userID = userID).map Prod.fst

def World.condemns (env : Env) (io : Io) (w : World) (r : Request) : List GoString :=
  match r.progress, io.issued with
  | .report _, _ => w.tables.hashesOf r.userID ++ w.condemned
  | .create token, some (refreshToken, _) =>
    if env.hashRefreshToken token ∈ w.condemned then
      env.hashRefreshToken refreshToken :: w.condemned
    else w.condemned
  | _, _ => w.condemned

def World.exchanges (env : Env) (w : World) (r : Request) : Turn → List (GoString × Bool)
  | .inl (.tokens _) =>
    match r.progress with
    | .create token =>
      (env.hashRefreshToken token, decide (env.hashRefreshToken token ∈ w.condemned)) :: w.exchanged
    | _ => w.exchanged
  | _ => w.exchanged

def World.settle (w : World) (n : Nat) (r : Request) : Turn → World
  | .inl answer => { w with requests := w.requests.erase n, answers := w.answers.insert n answer }
  | .inr progress => { w with requests := w.requests.insert n { r with progress } }

def World.step (env : Env) (io : Io) (w : World) (n : Nat) (r : Request) : World :=
  let result := r.step env io w.tables
  World.settle { w with tables := result.2
                        condemned := w.condemns env io r
                        exchanged := w.exchanges env r result.1 } n r result.1

def World.arrive (w : World) (n : Nat) : Answer ⊕ Request → World
  | .inl answer => { w with answers := w.answers.insert n answer }
  | .inr r => if w.requests[n]? = none then { w with requests := w.requests.insert n r } else w

def World.next (env : Env) (w : World) : Event → World
  | .refreshToken n body now => w.arrive n (arriveRefresh env body now)
  | .changePassword n authCtx body => w.arrive n (arriveChangePassword env authCtx body)
  | .logout n authCtx => w.arrive n (arriveLogout authCtx)
  | .step n io =>
    match w.requests[n]? with
    | none => w
    | some r => w.step env io n r
  | .login userID refreshToken expiresAt =>
    match w.tables.createRefreshToken userID (env.hashRefreshToken refreshToken) expiresAt with
    | none => w
    | some tables => { w with tables }

structure World.Started (w : World) : Prop where
  requests : w.requests = ∅
  condemned : w.condemned = []
  exchanged : w.exchanged = []

/-- The token of a refresh that has been found valid and has not been exchanged yet. -/
def Request.presented (r : Request) : Option GoString :=
  match r.progress with
  | .getUser token => some token
  | .teamGrants token => some token
  | .create token => some token
  | _ => none

def Request.revokes (r : Request) : Bool :=
  match r.progress with
  | .revokeAll _ => true
  | _ => false

def Request.reports (r : Request) : Bool :=
  match r.progress with
  | .report _ => true
  | _ => false

/-- A revocation takes effect, and when it does, no refresh of the same user stands between
the look at its token and the new token. No login of the user stores a token between the
revocation and its report. -/
def World.Settled (w : World) : Event → Prop
  | .step n io => ∀ r ∈ w.requests[n]?, r.revokes = true →
      io.fault ≠ some .refused ∧
        ∀ p ∈ w.requests.toList, p.2.userID = r.userID → p.2.presented = none
  | .login userID _ _ => ∀ p ∈ w.requests.toList, p.2.userID = userID → p.2.reports = false
  | _ => True

instance (w : World) (e : Event) : Decidable (w.Settled e) := by
  unfold World.Settled
  split <;> infer_instance

def World.Reached (env : Env) (ok : World → Event → Prop) : World → Prop :=
  Reach World.Started (fun w e w' => w' = w.next env e) ok

/-! ## Where the law fails -/

def sampleTables : Tables :=
  { refreshTokens := (∅ : GoMap GoString RefreshToken).insert (lit "t")
      { userID := lit "u", expiresAt := 100, revoked := false }
    users := (∅ : GoMap GoString GoString).insert (lit "u") [] }

def World.start (tables : Tables) : World :=
  { tables, requests := ∅, answers := ∅, condemned := [], exchanged := [] }

lemma World.start_started {tables : Tables} : (World.start tables).Started := ⟨rfl, rfl, rfl⟩

/-- Every token is one of the sample user, and is its own hash. -/
def sampleEnv : Env :=
  { validateRefreshToken := fun _ _ => some (lit "u"), hashRefreshToken := fun token => token,
    enabled := true, compareHashAndPassword := fun _ _ => true }

def sampleIo (token : String) : Io :=
  { fault := none, cause := [], now := 0, issued := some (lit token, 100), generated := none }

/-- The steps of a refresh that is not disturbed. -/
def refreshRun (n : Nat) (token minted : String) : List Event :=
  [.refreshToken n (some (lit token)) 0, .step n (sampleIo minted), .step n (sampleIo minted),
   .step n (sampleIo minted), .step n (sampleIo minted)]

/-- The revocation of a logout fails, the logout reports success, and the old token is
exchanged after it. -/
def unrevokedRun : List Event :=
  [.logout 0 (some (lit "u")), .step 0 { sampleIo "" with fault := some .refused },
    .step 0 (sampleIo "")] ++ refreshRun 1 "t" "t1"

/-- A refresh looks at its token before a logout revokes it, and stores the new token after
the logout has reported success. The new token is then exchanged again. -/
def overtakenRun : List Event :=
  [.refreshToken 0 (some (lit "t")) 0, .step 0 (sampleIo "t1"), .logout 1 (some (lit "u")),
   .step 1 (sampleIo ""), .step 1 (sampleIo ""), .step 0 (sampleIo "t1"), .step 0 (sampleIo "t1"),
   .step 0 (sampleIo "t1")] ++ refreshRun 2 "t1" "t2"

theorem logged_out_tokens_are_exchanged :
    (let w := unrevokedRun.foldl (World.next sampleEnv) (World.start sampleTables)
     w.answers[0]? = some (.success loggedOut) ∧ w.answers[1]? = some (.tokens (lit "t1")) ∧
       w.exchanged = [(lit "t", true)]) ∧
    (let w := overtakenRun.foldl (World.next sampleEnv) (World.start sampleTables)
     w.answers[1]? = some (.success loggedOut) ∧ w.answers[2]? = some (.tokens (lit "t2")) ∧
       w.exchanged = [(lit "t1", true), (lit "t", true)]) := by
  decide +kernel

/-! ## Rows -/

variable {env : Env} {io : Io} {t t' : Tables} {w : World}

open Tables GoMap

lemma mem_hashesOf {userID hash : GoString} :
    hash ∈ t.hashesOf userID ↔ ∃ row, t.refreshTokens[hash]? = some row ∧ row.userID = userID := by
  unfold hashesOf
  simp only [List.mem_map, List.mem_filter, decide_eq_true_eq, Prod.exists, mem_toList]
  constructor
  · rintro ⟨h, row, ⟨hrow, huser⟩, rfl⟩
    exact ⟨row, hrow, huser⟩
  · rintro ⟨row, hrow, huser⟩
    exact ⟨hash, row, ⟨hrow, huser⟩, rfl⟩

lemma get_revokeAll (t : Tables) (userID hash : GoString) :
    (t.revokeAllUserRefreshTokens userID).refreshTokens[hash]? =
      t.refreshTokens[hash]?.map fun row =>
        if row.userID = userID then { row with revoked := true } else row := by
  simp [revokeAllUserRefreshTokens]

/-- A row of the new tables is a row of the old ones, revoked at least as before, or it is
a new row of this user. -/
structure Tables.Follows (t t' : Tables) (added : GoString → Prop) : Prop where
  kept : ∀ (hash : GoString) (row : RefreshToken), t.refreshTokens[hash]? = some row →
    ∃ row', t'.refreshTokens[hash]? = some row' ∧ row'.userID = row.userID ∧
      (row.revoked = true → row'.revoked = true)
  found : ∀ (hash : GoString) (row' : RefreshToken), t'.refreshTokens[hash]? = some row' →
    added row'.userID ∨ ∃ row, t.refreshTokens[hash]? = some row ∧ row'.userID = row.userID ∧
      (row.revoked = true → row'.revoked = true)

variable {added : GoString → Prop} {r : Request} {n : Nat} {progress : Progress}

lemma Tables.Follows.of_eq (h : t'.refreshTokens = t.refreshTokens) : t.Follows t' added := by
  constructor
  · intro hash row hrow
    exact ⟨row, by rw [h, hrow], rfl, id⟩
  · intro hash row hrow
    rw [h] at hrow
    exact .inr ⟨row, hrow, rfl, id⟩

lemma Tables.Follows.revokeAll (t : Tables) (userID : GoString) :
    t.Follows (t.revokeAllUserRefreshTokens userID) added := by
  constructor
  · intro hash row hrow
    rw [get_revokeAll, hrow]
    refine ⟨_, rfl, ?_, ?_⟩ <;> dsimp only <;> split <;> simp
  · intro hash row' hrow'
    rw [get_revokeAll, Option.map_eq_some_iff] at hrow'
    obtain ⟨row, hrow, rfl⟩ := hrow'
    refine .inr ⟨row, hrow, ?_, ?_⟩ <;> split <;> simp

lemma Tables.Follows.create {userID tokenHash : GoString} {expiresAt : Int}
    (h : t.createRefreshToken userID tokenHash expiresAt = some t') :
    t.Follows t' (· = userID) := by
  unfold createRefreshToken at h
  split at h
  · rename_i hnew
    cases h
    constructor
    · intro hash row hrow
      have hne : tokenHash ≠ hash := by
        rintro rfl
        rw [hnew.1] at hrow
        cases hrow
      exact ⟨row, (get_insert_ne _ _ hne).trans hrow, rfl, id⟩
    · intro hash row' hrow'
      rcases of_get_insert hrow' with ⟨_, rfl⟩ | ⟨_, hold⟩
      · exact .inl rfl
      · exact .inr ⟨row', hold, rfl, id⟩
  · cases h

/-! ## The invariant -/

/-- Every token of a user whose revocation is about to be reported is revoked, and no refresh
of that user is past the look at its token. -/
structure World.Revoked (w : World) (userID : GoString) : Prop where
  rows : ∀ (hash : GoString) (row : RefreshToken), w.tables.refreshTokens[hash]? = some row →
    row.userID = userID → row.revoked = true
  apart : ∀ (n : Nat) (r : Request), w.requests[n]? = some r → r.userID = userID →
    r.presented = none

structure World.Inv (env : Env) (w : World) : Prop where
  condemned : ∀ hash ∈ w.condemned, ∃ row, w.tables.refreshTokens[hash]? = some row ∧
    row.revoked = true
  presented : ∀ (n : Nat) (r : Request) (token : GoString), w.requests[n]? = some r →
    r.presented = some token → env.hashRefreshToken token ∉ w.condemned ∧
      ∃ row, w.tables.refreshTokens[env.hashRefreshToken token]? = some row ∧ row.userID = r.userID
  reporting : ∀ (n : Nat) (r : Request), w.requests[n]? = some r → r.reports = true →
    w.Revoked r.userID
  clean : ∀ x ∈ w.exchanged, x.2 = false

lemma World.Started.inv (h : w.Started) : w.Inv env where
  condemned := by simp [h.condemned]
  presented := by simp [h.requests]
  reporting := by simp [h.requests]
  clean := by simp [h.exchanged]

lemma World.Inv.retable (h : w.Inv env) (ht : w.tables.Follows t' added)
    (hadded : ∀ (n : Nat) (r : Request), w.requests[n]? = some r → r.reports = true →
      ¬ added r.userID) :
    World.Inv env { w with tables := t' } where
  condemned hash hmem := by
    obtain ⟨row, hrow, hrev⟩ := h.condemned hash hmem
    obtain ⟨row', hrow', _, hrev'⟩ := ht.kept hash row hrow
    exact ⟨row', hrow', hrev' hrev⟩
  presented n r token hr htok := by
    obtain ⟨hnot, row, hrow, huser⟩ := h.presented n r token hr htok
    obtain ⟨row', hrow', huser', _⟩ := ht.kept _ row hrow
    exact ⟨hnot, row', hrow', huser'.trans huser⟩
  reporting n r hr hrep := by
    have hrevoked := h.reporting n r hr hrep
    refine ⟨fun hash row' hrow' huser => ?_, hrevoked.apart⟩
    rcases ht.found hash row' hrow' with hadd | ⟨row, hrow, huser', hrev⟩
    · rw [huser] at hadd
      exact absurd hadd (hadded n r hr hrep)
    · exact hrev (hrevoked.rows hash row hrow (huser'.symm.trans huser))
  clean := h.clean

lemma World.Inv.gone (h : w.Inv env) (n : Nat) (answers : GoMap Nat Answer) :
    World.Inv env { w with requests := w.requests.erase n, answers } where
  condemned := h.condemned
  presented m r token hr := h.presented m r token (GoMap.of_get_erase hr).2
  reporting m r hr hrep := by
    have hrevoked := h.reporting m r (of_get_erase hr).2 hrep
    exact ⟨hrevoked.rows, fun k r' hr' => hrevoked.apart k r' (of_get_erase hr').2⟩
  clean := h.clean

/-- A place where a request may stand: the token that it presents is not condemned, and no
revocation of its user is about to be reported; and a report comes after a revocation. -/
structure World.Fits (env : Env) (w : World) (r : Request) : Prop where
  presented : ∀ token, r.presented = some token → env.hashRefreshToken token ∉ w.condemned ∧
    (∃ row, w.tables.refreshTokens[env.hashRefreshToken token]? = some row ∧
      row.userID = r.userID) ∧
    ∀ (m : Nat) (q : Request), w.requests[m]? = some q → q.reports = true → q.userID ≠ r.userID
  reports : r.reports = true → w.Revoked r.userID

lemma World.Fits.of_waiting (hpresented : r.presented = none) (hreports : r.reports = false) :
    w.Fits env r := by
  constructor
  · intro token htok
    rw [hpresented] at htok
    cases htok
  · intro hrep
    rw [hreports] at hrep
    cases hrep

lemma presented_of_reports (h : r.reports = true) : r.presented = none := by
  obtain ⟨userID, progress⟩ := r
  cases progress <;> first | rfl | cases h

open World

lemma World.Inv.placed (h : w.Inv env) (n : Nat) (hfits : w.Fits env r) :
    World.Inv env { w with requests := w.requests.insert n r } := by
  -- a user whose revocation is about to be reported has no refresh past its look, also not this one
  have hapart : ∀ userID, w.Revoked userID → (r.userID = userID → r.presented = none) →
      Revoked { w with requests := w.requests.insert n r } userID := by
    intro userID hrevoked hr
    exact ⟨hrevoked.rows, all_insert hr hrevoked.apart⟩
  refine ⟨h.condemned, fun m q token hq htok => ?_, fun m q hq hrep => ?_, h.clean⟩
  · rcases of_get_insert hq with ⟨_, rfl⟩ | ⟨_, hq⟩
    · obtain ⟨hnot, hrow, _⟩ := hfits.presented token htok
      exact ⟨hnot, hrow⟩
    · exact h.presented m q token hq htok
  · rcases of_get_insert hq with ⟨_, rfl⟩ | ⟨_, hq⟩
    · exact hapart _ (hfits.reports hrep) (fun _ => presented_of_reports hrep)
    · refine hapart _ (h.reporting m q hq hrep) (fun huser => ?_)
      cases htok : r.presented with
      | none => rfl
      | some token => exact absurd huser.symm ((hfits.presented token htok).2.2 m q hq hrep)

lemma World.Inv.settle (h : w.Inv env) (n : Nat) {turn : Turn}
    (hfits : ∀ progress, turn = .inr progress → w.Fits env { r with progress }) :
    (w.settle n r turn).Inv env := by
  cases turn with
  | inl answer => exact h.gone n _
  | inr progress => exact h.placed n (hfits progress rfl)

lemma World.Inv.arrive (h : w.Inv env) (n : Nat) {arrival : Answer ⊕ Request}
    (hfits : ∀ r, arrival = .inr r → w.Fits env r) : (w.arrive n arrival).Inv env := by
  unfold World.arrive
  cases arrival with
  | inl answer =>
    refine ⟨h.condemned, h.presented, fun m r hr hrep => ?_, h.clean⟩
    exact ⟨(h.reporting m r hr hrep).rows, (h.reporting m r hr hrep).apart⟩
  | inr r =>
    dsimp only
    split
    · exact h.placed n (hfits r rfl)
    · exact h

/-! ## The steps of a request -/

open Request

/-- Only a refresh that has looked at its token adds a row, and it is one of its user. -/
lemma Request.turn_follows (r : Request) :
    t.Follows (r.turn env io t).2 (fun userID => r.presented ≠ none ∧ userID = r.userID) := by
  obtain ⟨userID, progress⟩ := r
  cases progress with
  | validate | updatePassword =>
    unfold turn
    dsimp only
    split <;> exact .of_eq rfl
  | getUser | teamGrants | report => exact .of_eq rfl
  | create token =>
    unfold turn
    dsimp only
    split
    · exact .of_eq rfl
    split
    · exact .of_eq rfl
    rename_i hcreate
    have hfollows := Follows.create hcreate
    refine ⟨hfollows.kept, fun hash row hrow => ?_⟩
    rcases hfollows.found hash row hrow with huser | hold
    · exact .inl ⟨by simp [presented], huser⟩
    · exact .inr hold
  | getAccount oldPassword newPassword =>
    unfold turn
    dsimp only
    split
    · exact .of_eq rfl
    split
    · exact .of_eq rfl
    · split
      · exact .of_eq rfl
      · split <;> exact .of_eq rfl
  | revokeAll message => exact .revokeAll t userID

lemma Request.step_follows (r : Request) :
    t.Follows (r.step env io t).2 (fun userID => r.presented ≠ none ∧ userID = r.userID) := by
  unfold step
  split
  · exact r.turn_follows
  · exact .of_eq rfl
  · exact r.turn_follows

/-- A report condemns the tokens of its user, which are revoked by then, and an exchange is one of
a token that is not condemned. -/
lemma World.Inv.tracked (h : w.Inv env) (hr : w.requests[n]? = some r) (turn : Turn) :
    World.Inv env { w with condemned := w.condemns env io r,
                           exchanged := w.exchanges env r turn } := by
  have hfree : ∀ token, r.progress = .create token → env.hashRefreshToken token ∉ w.condemned := by
    intro token hp
    exact (h.presented n r token hr (by simp [Request.presented, hp])).1
  have hexchanges : ∀ x ∈ w.exchanges env r turn, x.2 = false := by
    intro x hx
    unfold World.exchanges at hx
    split at hx
    · split at hx
      · rename_i token hp
        rcases List.mem_cons.mp hx with rfl | hx
        · simpa using hfree token hp
        · exact h.clean x hx
      · exact h.clean x hx
    · exact h.clean x hx
  have hcondemns : (r.reports = true ∧
    w.condemns env io r = w.tables.hashesOf r.userID ++ w.condemned) ∨
      w.condemns env io r = w.condemned := by
    unfold World.condemns
    split
    · rename_i hp
      exact Or.inl ⟨by simp [Request.reports, hp], rfl⟩
    · rename_i hp _
      exact Or.inr (if_neg (hfree _ hp))
    · exact Or.inr rfl
  rcases hcondemns with ⟨hrep, heq⟩ | heq
  · have hrevoked := h.reporting n r hr hrep
    refine ⟨fun hash hmem => ?_, fun m q token hq htok => ?_, fun m q hq hrep' => ?_, hexchanges⟩
    · rw [heq] at hmem
      rcases List.mem_append.mp hmem with hmem | hmem
      · obtain ⟨row, hrow, huser⟩ := mem_hashesOf.mp hmem
        exact ⟨row, hrow, hrevoked.rows hash row hrow huser⟩
      · exact h.condemned hash hmem
    · obtain ⟨hnot, row, hrow, huser⟩ := h.presented m q token hq htok
      refine ⟨?_, row, hrow, huser⟩
      rw [heq, List.mem_append]
      rintro (hmem | hmem)
      · obtain ⟨row', hrow', huser'⟩ := mem_hashesOf.mp hmem
        cases hrow.symm.trans hrow'
        have hnone := hrevoked.apart m q hq (huser.symm.trans huser')
        rw [hnone] at htok
        cases htok
      · exact hnot hmem
    · exact ⟨(h.reporting m q hq hrep').rows, (h.reporting m q hq hrep').apart⟩
  · rw [heq]
    refine ⟨h.condemned, h.presented, fun m q hq hrep => ?_, hexchanges⟩
    exact ⟨(h.reporting m q hq hrep).rows, (h.reporting m q hq hrep).apart⟩

lemma World.Inv.fits_presented (h : w.Inv env) {token : GoString} (hr : w.requests[n]? = some r)
    (htok : r.presented = some token)
    (hsame : ({ r with progress } : Request).presented = some token) :
    w.Fits env { r with progress } := by
  refine ⟨fun token' htok' => ?_, fun hrep => ?_⟩
  · cases hsame.symm.trans htok'
    obtain ⟨hnot, hrow⟩ := h.presented n r token hr htok
    refine ⟨hnot, hrow, fun m q hq hrep huser => ?_⟩
    have hnone := (h.reporting m q hq hrep).apart n r hr huser.symm
    rw [hnone] at htok
    cases htok
  · rw [presented_of_reports hrep] at hsame
    cases hsame

/-- A token that the look finds valid is not condemned, and no revocation of its user is about
to be reported. -/
lemma World.Inv.fits_validated (h : w.Inv env) {token : GoString} {row : RefreshToken}
    (hvalid : w.tables.validateRefreshToken (env.hashRefreshToken token) io.now = .ok row)
    (huser : row.userID = r.userID) : w.Fits env { r with progress := .getUser token } := by
  have hrow : w.tables.refreshTokens[env.hashRefreshToken token]? = some row ∧
    row.revoked = false := by
    unfold validateRefreshToken at hvalid
    split at hvalid
    · cases hvalid
    rename_i stored hstored
    split at hvalid
    · cases hvalid
    rename_i hnot
    split at hvalid
    · cases hvalid
    · cases hvalid
      exact ⟨hstored, by simpa using hnot⟩
  refine ⟨fun token' htok' => ?_, fun hrep => by cases hrep⟩
  cases htok'
  refine ⟨fun hmem => ?_, ⟨row, hrow.1, huser⟩, fun m q hq hrep heq => ?_⟩
  · obtain ⟨row', hrow', hrev⟩ := h.condemned _ hmem
    cases hrow.1.symm.trans hrow'
    rw [hrow.2] at hrev
    cases hrev
  · have hrev := (h.reporting m q hq hrep).rows _ row hrow.1 (huser.trans heq.symm)
    rw [hrow.2] at hrev
    cases hrev

lemma fits_revoked {message : GoString}
    (hapart : ∀ p ∈ w.requests.toList, p.2.userID = r.userID → p.2.presented = none) :
    World.Fits env { w with tables := w.tables.revokeAllUserRefreshTokens r.userID }
      { r with progress := .report message } := by
  refine ⟨fun token htok => (by cases htok),
    fun _ => ⟨fun hash row hrow huser => ?_, fun m q hq huser => ?_⟩⟩
  · rw [get_revokeAll, Option.map_eq_some_iff] at hrow
    obtain ⟨old, _, rfl⟩ := hrow
    dsimp only at huser ⊢
    split
    · rfl
    · rename_i hne
      rw [if_neg hne] at huser
      exact absurd huser hne
  · exact hapart (m, q) ((mem_toList _ _ _).mpr hq) huser

lemma Request.faulted_ends (hr : r.revokes = false) : r.faulted io ≠ .inr progress := by
  obtain ⟨userID, place⟩ := r
  cases place with
  | revokeAll message => cases hr
  | validate | getUser | teamGrants | create | getAccount | updatePassword | report => nofun

lemma Request.step_of_goes_on {t : Tables} (hr : r.revokes = false)
    (hp : (r.step env io t).1 = .inr progress) : r.step env io t = r.turn env io t := by
  unfold step at hp ⊢
  split at hp
  · rfl
  · exact absurd hp (faulted_ends hr)
  · exact absurd hp (faulted_ends hr)

lemma condemns_of_goes_on (hp : (r.step env io w.tables).1 = .inr progress) :
    w.condemns env io r = w.condemned := by
  obtain ⟨userID, place⟩ := r
  cases place with
  | create token =>
    rw [step_of_goes_on rfl hp] at hp
    simp only [turn] at hp
    split at hp
    · cases hp
    · split at hp <;> cases hp
  | report message =>
    rw [step_of_goes_on rfl hp] at hp
    cases hp
  | validate | getUser | teamGrants | getAccount | updatePassword | revokeAll => rfl

section

variable (h : w.Inv env) (hr : w.requests[n]? = some r)
  (hok : r.revokes = true → io.fault ≠ some .refused ∧
    ∀ p ∈ w.requests.toList, p.2.userID = r.userID → p.2.presented = none)

include h hr hok

lemma World.Inv.fits_step (hp : (r.step env io w.tables).1 = .inr progress) :
    World.Fits env { w with tables := (r.step env io w.tables).2 } { r with progress } := by
  obtain ⟨userID, place⟩ := r
  cases place with try (have hstep := Request.step_of_goes_on rfl hp; rw [hstep] at hp ⊢)
  | revokeAll message =>
    obtain ⟨hfault, hapart⟩ := hok rfl
    rcases hf : io.fault with _ | _ | _ <;>
      simp only [Request.step, hf, Request.faulted, Request.turn] at hp ⊢
    · cases hp
      exact fits_revoked hapart
    · exact absurd hf hfault
    · cases hp
      exact fits_revoked hapart
  | validate token =>
    simp only [Request.turn] at hp ⊢
    split at hp
    · rename_i row hvalid
      split at hp
      · rename_i huser
        cases hp
        exact h.fits_validated (r := { userID, progress := .validate token }) hvalid huser
      · cases hp
    · cases hp
  | getUser token =>
    simp only [Request.turn] at hp ⊢
    split at hp
    · cases hp
    · cases hp
      exact h.fits_presented hr rfl rfl
  | teamGrants token =>
    cases hp
    exact h.fits_presented hr rfl rfl
  | create token =>
    simp only [Request.turn] at hp
    split at hp
    · cases hp
    · split at hp <;> cases hp
  | getAccount oldPassword newPassword =>
    have hwaits : ∃ passwordHash, progress = .updatePassword passwordHash := by
      simp only [Request.turn] at hp
      split at hp
      · cases hp
      split at hp
      · cases hp
      split at hp
      · cases hp
      · split at hp <;> cases hp
        exact ⟨_, rfl⟩
    obtain ⟨passwordHash, rfl⟩ := hwaits
    exact .of_waiting rfl rfl
  | updatePassword passwordHash =>
    have hwaits : progress = .revokeAll passwordChanged := by
      simp only [Request.turn] at hp
      split at hp <;> cases hp
      rfl
    subst hwaits
    exact .of_waiting rfl rfl
  | report message => cases hp

lemma World.Inv.step : (w.step env io n r).Inv env := by
  have htables : World.Inv env { w with tables := (r.step env io w.tables).2
                                        condemned := w.condemns env io r
                                        exchanged :=
                                          w.exchanges env r (r.step env io w.tables).1 } := by
    refine (h.tracked hr _).retable r.step_follows ?_
    rintro m q hq hrep ⟨hpresented, huser⟩
    exact hpresented ((h.reporting m q hq hrep).apart n r hr huser.symm)
  refine htables.settle n (fun progress hp => ?_)
  have hfits := h.fits_step hr hok hp
  refine ⟨fun token htok => ?_, fun hrep => ?_⟩
  · rw [condemns_of_goes_on hp]
    exact hfits.presented token htok
  · exact ⟨(hfits.reports hrep).rows, (hfits.reports hrep).apart⟩

end

lemma World.Inv.next (h : w.Inv env) {e : Event} (hok : w.Settled e) : (w.next env e).Inv env := by
  cases e with
  | refreshToken n body now =>
    refine h.arrive n (fun r hr => ?_)
    unfold arriveRefresh at hr
    split at hr
    · cases hr
    · split at hr <;> cases hr
      exact .of_waiting rfl rfl
  | changePassword n authCtx body =>
    refine h.arrive n (fun r hr => ?_)
    unfold arriveChangePassword at hr
    split at hr
    · cases hr
    · cases hr
    · split at hr <;> cases hr
      exact .of_waiting rfl rfl
  | logout n authCtx =>
    refine h.arrive n (fun r hr => ?_)
    unfold arriveLogout at hr
    split at hr <;> cases hr
    exact .of_waiting rfl rfl
  | step n io =>
    unfold World.next
    dsimp only
    split
    · exact h
    · rename_i r hr
      exact h.step hr (hok r hr)
  | login userID refreshToken expiresAt =>
    unfold World.next
    dsimp only
    split
    · exact h
    rename_i tables hcreate
    refine h.retable (.create hcreate) ?_
    intro m q hq hrep huser
    have hnot := hok (m, q) ((mem_toList _ _ _).mpr hq) huser
    rw [hrep] at hnot
    cases hnot

/-- While every revocation takes effect and no refresh of its user stands between the look at its
token and the new token, no token is exchanged that was issued before a logout or a change of
the password reported success, nor one that was minted for such a token. -/
theorem revoked_tokens_are_never_exchanged (env : Env) (w : World)
    (h : w.Reached env World.Settled) : ∀ x ∈ w.exchanged, x.2 = false := by
  have hinv : w.Inv env := Reach.keeps (fun w hw => hw.inv) (fun w e hinv hok => hinv.next hok) h
  exact hinv.clean

/-- A refresh, then a logout, then a refresh with each of the two tokens. -/
def settledRun : List Event :=
  refreshRun 0 "t" "t1" ++
    [.logout 1 (some (lit "u")), .step 1 (sampleIo ""), .step 1 (sampleIo "")] ++
    refreshRun 2 "t" "t2" ++ refreshRun 3 "t1" "t3"

theorem revoked_tokens_are_never_exchanged_in_a_settled_run :
    ∃ w : World, w.Reached sampleEnv World.Settled ∧ w.answers[1]? = some (.success loggedOut) ∧
      w.answers[3]? = some .invalidToken ∧ w.exchanged = [(lit "t", false)] ∧
      ∀ x ∈ w.exchanged, x.2 = false := by
  have hreach : Reached sampleEnv Settled
      (settledRun.foldl (World.next sampleEnv) (start sampleTables)) :=
    Reach.run (.start start_started) settledRun (by decide +kernel)
  exact ⟨_, hreach, by decide +kernel, by decide +kernel, by decide +kernel,
    revoked_tokens_are_never_exchanged sampleEnv _ hreach⟩

end sandbox0.gateway
