-- The OIDC callback in `pkg/gateway/auth/oidc/manager.go`. The user info of a
-- provider is matched with a linked identity, then with a user of the same
-- e-mail, and a user is created when there is neither.
import Sandbox0.GoCall
import Sandbox0.GoMap
import Sandbox0.GoString

namespace sandbox0.oidc

open Call List

/-! ## What a provider says -/

structure UserInfo where
  subject : GoString
  email : GoString
  emailVerified : Bool
  name : GoString
  picture : GoString
  rawClaims : GoString
  deriving DecidableEq

/-- The claims of a document, each one where it is present with the type that is read. -/
structure Claims where
  email : Option GoString
  emailVerified : Option Bool
  name : Option GoString
  picture : Option GoString
  /-- `json.Marshal` of all claims. -/
  raw : GoString

structure IDToken where
  subject : GoString
  claims : Except GoString Claims

structure UserInfoDocument where
  subject : GoString
  email : GoString
  emailVerified : Bool
  claims : Except GoString Claims

/-- An OAuth token: its `id_token`, when it is a string, and its access token. -/
structure Token where
  idToken : Option GoString
  accessToken : GoString

structure Provider where
  id : GoString
  /-- `config.TeamMapping.Domain`; nil and empty read the same. -/
  domain : GoString
  autoProvision : Bool
  /-- What the provider answers to a code and a verifier. -/
  exchange : GoString → GoString → Except GoString Token
  verifier : GoString → Except GoString IDToken
  deviceVerifier : Option (GoString → Except GoString IDToken)
  userInfo : Token → Except GoString UserInfoDocument

def Provider.verifyIDToken (p : Provider) (rawIDToken : GoString) : Except GoString IDToken :=
  match p.verifier rawIDToken, p.deviceVerifier with
  | .ok idToken, _ => .ok idToken
  | .error e, none => .error e
  | .error e, some verify =>
    match verify rawIDToken with
    | .ok deviceToken => .ok deviceToken
    | .error _ => .error e

def Provider.fetchUserInfo (p : Provider) (token : Token) : Except GoString UserInfo :=
  if trimSpace token.accessToken = [] then .error (lit "no access_token in response")
  else
    match p.userInfo token with
    | .error e => .error (lit "fetch userinfo: " ++ e)
    | .ok document =>
      match document.claims with
      | .error e => .error (lit "parse userinfo claims: " ++ e)
      | .ok claims =>
        .ok { subject := document.subject, email := document.email,
              emailVerified := document.emailVerified,
              name := claims.name.getD [], picture :=
                claims.picture.getD [], rawClaims := claims.raw }

/-- `VerifyToken`: the id token when there is one, and else the userinfo endpoint. -/
def Provider.verifyToken (p : Provider) (token : Token) : Except GoString UserInfo :=
  match token.idToken with
  | none => p.fetchUserInfo token
  | some rawIDToken =>
    if trimSpace rawIDToken = [] then p.fetchUserInfo token
    else
      match p.verifyIDToken rawIDToken with
      | .error e => .error (lit "verify id_token: " ++ e)
      | .ok idToken =>
        match idToken.claims with
        | .error e => .error (lit "parse claims: " ++ e)
        | .ok claims =>
          .ok { subject := idToken.subject, email := claims.email.getD [],
                emailVerified := claims.emailVerified.getD false, name := claims.name.getD [],
                picture := claims.picture.getD [], rawClaims := claims.raw }

/-- `ValidateEmailDomain`, with `strings.ToLower`. -/
def Provider.validateEmailDomain (p : Provider) (lower : GoString → GoString) (email : GoString) :
    Except GoString Unit :=
  if p.domain = [] then .ok ()
  else
    match email.splitOn 64 with
    | [_, domain] =>
      if lower domain ≠ lower p.domain then .error (lit "email domain not allowed") else .ok ()
    | _ => .error (lit "email not provided by IdP")

/-! ## The tables -/

structure User where
  id : GoString
  email : GoString
  name : GoString
  avatarURL : GoString
  passwordHash : GoString
  emailVerified : Bool
  isAdmin : Bool
  deriving DecidableEq

structure UserIdentity where
  id : GoString
  userID : GoString
  provider : GoString
  subject : GoString
  rawClaims : GoString

structure Database where
  users : List User
  identities : List UserIdentity

def Database.getUserIdentityByProviderSubject (db : Database) (provider subject : GoString) :
    Option UserIdentity :=
  db.identities.find? fun row => row.provider = provider ∧ row.subject = subject

def Database.getUserByID (db : Database) (id : GoString) : Option User :=
  db.users.find? fun row => row.id = id

def Database.getUserByEmail (db : Database) (email : GoString) : Option User :=
  db.users.find? fun row => row.email = email

def Database.updateUserIdentityClaims (db : Database) (id rawClaims : GoString) : Database :=
  { db with identities := db.identities.map fun row => if row.id = id then
              { row with rawClaims } else row }

/-- `CreateUserIdentity`; a pair of provider and subject is unique. -/
def Database.createUserIdentity (db : Database) (identity : UserIdentity) : Database :=
  if db.identities.any fun row =>
      row.id = identity.id ∨ row.provider = identity.provider ∧
        row.subject = identity.subject then db
  else { db with identities := db.identities ++ [identity] }

/-- `CreateUser`; ids and e-mails are unique. -/
def Database.createUser (db : Database) (user : User) : Option Database :=
  if db.users.any fun row => row.id = user.id ∨ row.email = user.email then none
  else some { db with users := db.users ++ [user] }

/-- The database errors of one callback, and the ids that the database makes. -/
structure Faults where
  getIdentity : Option GoString
  getUserByID : Option GoString
  updateClaims : Option GoString
  getUserByEmail : Option GoString
  createUser : Option GoString
  createIdentity : Option GoString
  newUserID : GoString
  newIdentityID : GoString

/-! ## The callback -/

structure StateData where
  provider : GoString
  codeVerifier : GoString
  returnURL : GoString
  webLoginHandoff : Bool
  createdAt : Int

structure Manager where
  providers : GoMap GoString Provider
  stateTTL : Int
  lower : GoString → GoString

structure Store where
  states : GoMap GoString StateData
  db : Database

structure CallbackResult where
  user : User
  returnURL : GoString
  webLoginHandoff : Bool
  deriving DecidableEq

def unlessFault (fault : Option GoString) (f : Database → Database) : Call GoString Database Unit :=
  match fault with
  | some _ => pure ()
  | none => Call.update f

def identityFor (faults : Faults) (provider : Provider) (userInfo : UserInfo)
    (user : User) : UserIdentity :=
  { id := faults.newIdentityID, userID := user.id, provider := provider.id,
    subject := userInfo.subject, rawClaims := userInfo.rawClaims }

def linkedUser (faults : Faults) (userInfo : UserInfo) (identityRecord : UserIdentity) :
    Call GoString Database User := do
  let db ← Call.read
  match faults.getUserByID, db.getUserByID identityRecord.userID with
  | some cause, _ => Call.fail (lit "get user: query user: " ++ cause)
  | none, none => Call.fail (lit "get user: user not found")
  | none, some user =>
    unlessFault faults.updateClaims
      (fun db => db.updateUserIdentityClaims identityRecord.id userInfo.rawClaims)
    pure user

def provisionUser (faults : Faults) (provider : Provider) (userInfo : UserInfo) :
    Call GoString Database User := do
  Call.failIf (provider.autoProvision = false)
    (lit "user not found and auto-provisioning is disabled")
  let db ← Call.read
  let user : User :=
    { id := faults.newUserID, email := userInfo.email, name := userInfo.name,
      avatarURL := userInfo.picture,
      passwordHash := [], emailVerified := userInfo.emailVerified, isAdmin := false }
  match faults.createUser, db.createUser user with
  | some cause, _ => Call.fail (lit "create user: insert user: " ++ cause)
  | none, none => Call.fail (lit "create user: user already exists")
  | none, some db' =>
    Call.write db'
    unlessFault faults.createIdentity
      (fun db => db.createUserIdentity (identityFor faults provider userInfo user))
    pure user

/-- `findOrCreateUser`. A user of the same e-mail is linked and returned; `userInfo.EmailVerified`
is not looked at. -/
def findOrCreateUser (faults : Faults) (provider : Provider) (userInfo : UserInfo) :
    Call GoString Database User := do
  let db ← Call.read
  match faults.getIdentity, db.getUserIdentityByProviderSubject provider.id userInfo.subject with
  | some cause, _ => Call.fail (lit "get identity: query identity: " ++ cause)
  | none, some identityRecord => linkedUser faults userInfo identityRecord
  | none, none =>
    match faults.getUserByEmail, db.getUserByEmail userInfo.email with
    | some cause, _ => Call.fail (lit "get user by email: query user: " ++ cause)
    | none, some user =>
      unlessFault faults.createIdentity
        (fun db => db.createUserIdentity (identityFor faults provider userInfo user))
      pure user
    | none, none => provisionUser faults provider userInfo

def Manager.completeUserInfo (m : Manager) (faults : Faults) (provider : Provider)
    (userInfo : UserInfo) : Call GoString Database User := do
  Call.failIf (userInfo.email = []) (lit "email not provided by IdP")
  match provider.validateEmailDomain m.lower userInfo.email with
  | .error e => Call.fail e
  | .ok () => findOrCreateUser faults provider userInfo

/-- `ValidateState`. A state that is found is consumed, also when it has expired. -/
def Manager.validateState (m : Manager) (now : Int) (state : GoString) :
    Call GoString Store StateData := do
  let store ← Call.read
  match store.states[state]? with
  | none => Call.fail (lit "invalid OAuth state")
  | some data =>
    Call.write { store with states := store.states.erase state }
    Call.failIf (m.stateTTL < now - data.createdAt) (lit "invalid OAuth state")
    pure data

/-- What the provider says about the caller: `Exchange`, then `VerifyToken`. -/
def Provider.identify (p : Provider) (code codeVerifier : GoString) : Except GoString UserInfo :=
  match p.exchange code codeVerifier with
  | .error e => .error (lit "exchange code: exchange code: " ++ e)
  | .ok token =>
    match p.verifyToken token with
    | .error e => .error (lit "verify token: " ++ e)
    | .ok userInfo => .ok userInfo

def Manager.handleCallback (m : Manager) (faults : Faults) (now : Int)
    (providerID code state : GoString) : Call GoString Store CallbackResult := do
  let stateData ← m.validateState now state
  Call.failIf (stateData.provider ≠ providerID) (lit "invalid OAuth state")
  match m.providers[providerID]? with
  | none => Call.fail (lit "OIDC provider not found")
  | some provider =>
    match provider.identify code stateData.codeVerifier with
    | .error e => Call.fail e
    | .ok userInfo =>
      let user ← Call.on Store.db (fun store db => { store with db })
        (m.completeUserInfo faults provider userInfo)
      pure { user, returnURL := stateData.returnURL, webLoginHandoff := stateData.webLoginHandoff }

/-! ## Who is logged in -/

def Database.Existed (db : Database) (userID : GoString) : Prop := ∃ row ∈ db.users, row.id = userID

def Database.Linked (db : Database) (provider subject userID : GoString) : Prop :=
  ∃ row ∈ db.identities, row.provider = provider ∧ row.subject = subject ∧ row.userID = userID

/-- The provider and the user info that a callback gets to. -/
def Manager.Identifies (m : Manager) (store : Store) (now : Int) (providerID code state : GoString)
    (provider : Provider) (userInfo : UserInfo) : Prop :=
  ∃ stateData, store.states[state]? = some stateData ∧ now - stateData.createdAt ≤ m.stateTTL ∧
    stateData.provider = providerID ∧ m.providers[providerID]? = some provider ∧
    provider.identify code stateData.codeVerifier = .ok userInfo

/-- The document that the provider gives for a token says that the e-mail is verified: the id
token, or the user info where there is no id token. -/
inductive Provider.Asserts (p : Provider) (token : Token) (email : GoString) : Prop where
  | idToken (raw : GoString) (idToken : IDToken) (claims : Claims) (hraw : token.idToken = some raw)
      (hpresent : trimSpace raw ≠ []) (hverify : p.verifyIDToken raw = .ok idToken)
      (hclaims : idToken.claims = .ok claims) (hemail : claims.email = some email)
      (hverified : claims.emailVerified = some true)
  | userInfo (document : UserInfoDocument)
      (habsent : ∀ raw, token.idToken = some raw → trimSpace raw = [])
      (hdocument : p.userInfo token = .ok document) (hemail : document.email = email)
      (hverified : document.emailVerified = true)

def Manager.Asserted (store : Store) (code state : GoString) (provider : Provider)
    (email : GoString) : Prop :=
  ∃ stateData token, store.states[state]? = some stateData ∧
    provider.exchange code stateData.codeVerifier = .ok token ∧ provider.Asserts token email

/-- A callback logs in as a user who existed only if the user was linked to the subject, or the
provider asserts that the e-mail is verified. -/
def Manager.TakesOverNobody (m : Manager) (store : Store) (faults : Faults) (now : Int)
    (providerID code state : GoString) : Prop :=
  ∀ provider userInfo result, m.Identifies store now providerID code state provider userInfo →
    (m.handleCallback faults now providerID code state store).1 = .ok result →
    store.db.Existed result.user.id →
      store.db.Linked provider.id userInfo.subject result.user.id ∨
        Manager.Asserted store code state provider userInfo.email

/-- The e-mail of a subject that is not linked is verified, if a user has it and the provider may
use it. -/
def Manager.MatchesVerified (m : Manager) (store : Store) (faults : Faults) (now : Int)
    (providerID code state : GoString) : Prop :=
  ∀ provider userInfo, m.Identifies store now providerID code state provider userInfo →
    userInfo.email ≠ [] → provider.validateEmailDomain m.lower userInfo.email = .ok () →
    faults.getIdentity = none → faults.getUserByEmail = none →
    store.db.getUserIdentityByProviderSubject provider.id userInfo.subject = none →
    (∃ row ∈ store.db.users, row.email = userInfo.email) → userInfo.emailVerified = true

variable {m : Manager} {faults : Faults} {provider : Provider} {userInfo : UserInfo} {db : Database}
  {user : User}

lemma unlessFault_ok (fault : Option GoString) (f : Database → Database) (db : Database) :
    ∃ db', unlessFault fault f db = (.ok (), db') := by
  cases fault <;> exact ⟨_, rfl⟩

lemma unlessFault_then (fault : Option GoString) (f : Database → Database) (user : User) :
    ((unlessFault fault f >>= fun _ => pure user : Call GoString Database User) db).1 =
      .ok user := by
  obtain ⟨db', h⟩ := unlessFault_ok fault f db
  rw [bind_ok h]
  rfl

lemma linkedUser_ok {record : UserIdentity}
    (h : (linkedUser faults userInfo record db).1 = .ok user) : user.id = record.userID := by
  unfold linkedUser at h
  simp only [bind_read_run] at h
  rcases hfault : faults.getUserByID with _ | cause <;>
    rcases hfound : db.getUserByID record.userID with _ | found <;>
    simp only [hfault, hfound] at h
  · cases h
  · rw [unlessFault_then] at h
    cases h
    have hid := find?_some hfound
    simpa using hid
  · cases h
  · cases h

lemma verifyToken_absent {token : Token}
    (h : ∀ raw, token.idToken = some raw → trimSpace raw = []) :
    provider.verifyToken token = provider.fetchUserInfo token := by
  unfold Provider.verifyToken
  cases hraw : token.idToken with
  | none => rfl
  | some raw => simp only [if_pos (h raw hraw)]

lemma fetchUserInfo_document {token : Token} (h : provider.fetchUserInfo token = .ok userInfo) :
    ∃ document, provider.userInfo token = .ok document ∧ userInfo.email = document.email ∧
      userInfo.emailVerified = document.emailVerified := by
  unfold Provider.fetchUserInfo at h
  split at h
  · cases h
  rcases hdocument : provider.userInfo token with e | document <;> simp only [hdocument] at h
  · cases h
  rcases hclaims : document.claims with e | claims <;> simp only [hclaims] at h
  · cases h
  cases h
  exact ⟨document, rfl, rfl, rfl⟩

lemma asserts_of_document {token : Token} (h : provider.verifyToken token = .ok userInfo)
    (habsent : ∀ raw, token.idToken = some raw → trimSpace raw = []) :
    userInfo.emailVerified = true ↔ provider.Asserts token userInfo.email := by
  obtain ⟨document, hdocument, hmail, hflag⟩ :=
    fetchUserInfo_document (verifyToken_absent habsent ▸ h)
  rw [hmail, hflag]
  constructor
  · exact fun hv => .userInfo document habsent hdocument rfl hv
  · rintro (⟨raw, _, _, hraw, hpresent, -⟩ | ⟨document', -, hdocument', -, hv⟩)
    · exact absurd (habsent raw hraw) hpresent
    · cases hdocument.symm.trans hdocument'
      exact hv

lemma asserts_of_idToken {token : Token} (h : provider.verifyToken token = .ok userInfo)
    (hemail : userInfo.email ≠ []) {raw : GoString} (hraw : token.idToken = some raw)
    (hpresent : trimSpace raw ≠ []) :
    userInfo.emailVerified = true ↔ provider.Asserts token userInfo.email := by
  unfold Provider.verifyToken at h
  simp only [hraw, if_neg hpresent] at h
  rcases hverify : provider.verifyIDToken raw with e | idToken <;> simp only [hverify] at h
  · cases h
  rcases hclaims : idToken.claims with e | claims <;> simp only [hclaims] at h
  · cases h
  cases h
  constructor
  · intro hv
    refine .idToken raw idToken claims hraw hpresent hverify hclaims ?_ ?_
    · cases hmail : claims.email <;> simp_all
    · cases hflag : claims.emailVerified <;> simp_all
  · rintro (⟨raw', idToken', claims', hraw', -, hverify', hclaims', -, hv⟩ | ⟨_, habsent, -⟩)
    · cases hraw.symm.trans hraw'
      cases hverify.symm.trans hverify'
      cases hclaims.symm.trans hclaims'
      simp [hv]
    · exact absurd (habsent raw hraw) hpresent

/-- The flag of the user info is the one of the document. -/
lemma verifyToken_asserts {token : Token} (h : provider.verifyToken token = .ok userInfo)
    (hemail : userInfo.email ≠ []) :
    userInfo.emailVerified = true ↔ provider.Asserts token userInfo.email := by
  by_cases habsent : ∀ raw, token.idToken = some raw → trimSpace raw = []
  · exact asserts_of_document h habsent
  · push Not at habsent
    obtain ⟨raw, hraw, hpresent⟩ := habsent
    exact asserts_of_idToken h hemail hraw hpresent

lemma Manager.Identifies.asserted {store : Store} {now : Int} {providerID code state : GoString}
    (h : m.Identifies store now providerID code state provider userInfo)
    (hemail : userInfo.email ≠ []) :
    userInfo.emailVerified = true ↔ Manager.Asserted store code state provider userInfo.email := by
  obtain ⟨stateData, hstate, -, -, -, hinfo⟩ := h
  unfold Provider.identify at hinfo
  rcases htoken : provider.exchange code stateData.codeVerifier with e | token <;>
    simp only [htoken] at hinfo
  · cases hinfo
  rcases hverify : provider.verifyToken token with e | info <;> simp only [hverify] at hinfo
  · cases hinfo
  cases hinfo
  rw [verifyToken_asserts hverify hemail]
  constructor
  · exact fun h => ⟨stateData, token, hstate, htoken, h⟩
  · rintro ⟨stateData', token', hstate', htoken', h⟩
    cases hstate.symm.trans hstate'
    cases htoken.symm.trans htoken'
    exact h

open Database

lemma provisionUser_ok (h : (provisionUser faults provider userInfo db).1 = .ok user) :
    ¬ db.Existed user.id := by
  unfold provisionUser at h
  by_cases hauto : provider.autoProvision = false
  · rw [failIf_pos _ hauto] at h
    cases h
  rw [failIf_neg _ hauto] at h
  simp only [bind_pure_run, bind_read_run] at h
  generalize hcreate : db.createUser _ = created at h
  rcases hfault : faults.createUser with _ | cause <;> rcases created with _ | db' <;>
    simp only [hfault] at h
  · cases h
  · rw [bind_write_run, unlessFault_then] at h
    cases h
    unfold createUser at hcreate
    split at hcreate
    · cases hcreate
    · rename_i hnone
      rintro ⟨row, hrow, hid⟩
      exact hnone (any_eq_true.mpr ⟨row, hrow, by simp [hid]⟩)
  · cases h
  · cases h

/-- A user who existed comes from a link, or from the e-mail. -/
lemma findOrCreateUser_existed
    (h : (findOrCreateUser faults provider userInfo db).1 = .ok user) (hold : db.Existed user.id) :
    db.Linked provider.id userInfo.subject user.id ∨
      (faults.getIdentity = none ∧ faults.getUserByEmail = none ∧
        db.getUserIdentityByProviderSubject provider.id userInfo.subject = none ∧
        ∃ row ∈ db.users, row.email = userInfo.email) := by
  unfold findOrCreateUser at h
  simp only [bind_read_run] at h
  rcases hfault : faults.getIdentity with _ | cause
  · rcases hlink : db.getUserIdentityByProviderSubject provider.id userInfo.subject with _ | record
    · rcases hfault' : faults.getUserByEmail with _ | cause
      · rcases hfound : db.getUserByEmail userInfo.email with _ | row
        · simp only [hfault, hlink, hfault', hfound] at h
          exact absurd hold (provisionUser_ok h)
        · have hemail := find?_some hfound
          simp only [decide_eq_true_eq] at hemail
          exact .inr ⟨rfl, rfl, rfl, row, mem_of_find?_eq_some hfound, hemail⟩
      · simp only [hfault, hlink, hfault'] at h
        cases h
    · simp only [hfault, hlink] at h
      have hkey := find?_some hlink
      simp only [decide_eq_true_eq] at hkey
      exact .inl ⟨record, mem_of_find?_eq_some hlink, hkey.1, hkey.2, (linkedUser_ok h).symm⟩
  · simp only [hfault] at h
    cases h

lemma findOrCreateUser_matched (hfault : faults.getIdentity = none)
    (hfault' : faults.getUserByEmail = none)
    (hnone : db.getUserIdentityByProviderSubject provider.id userInfo.subject = none)
    (hrow : ∃ row ∈ db.users, row.email = userInfo.email) :
    ∃ user, (findOrCreateUser faults provider userInfo db).1 = .ok user ∧ db.Existed user.id := by
  obtain ⟨row, hmem, hemail⟩ := hrow
  have hsome : (db.getUserByEmail userInfo.email).isSome = true := by
    unfold getUserByEmail
    rw [find?_isSome]
    exact ⟨row, hmem, by simpa using hemail⟩
  obtain ⟨user, huser⟩ := Option.isSome_iff_exists.mp hsome
  refine ⟨user, ?_, user, mem_of_find?_eq_some huser, rfl⟩
  unfold findOrCreateUser
  simp only [bind_read_run, hfault, hfault', hnone, huser]
  exact unlessFault_then _ _ user

open Manager

lemma validateState_run {store : Store} {now : Int} {state : GoString} {stateData : StateData}
    (hstate : store.states[state]? = some stateData)
    (httl : now - stateData.createdAt ≤ m.stateTTL) :
    m.validateState now state store =
      (.ok stateData, { store with states := store.states.erase state }) := by
  unfold validateState
  simp only [bind_read_run, hstate, bind_write_run,
    failIf_neg _ (show ¬ m.stateTTL < now - stateData.createdAt by omega)]
  rfl

lemma handleCallback_run (faults : Faults) {store : Store} {now : Int}
    {providerID code state : GoString}
    (h : m.Identifies store now providerID code state provider userInfo) :
    ∃ stateData : StateData, (m.handleCallback faults now providerID code state store).1 =
      (m.completeUserInfo faults provider userInfo store.db).1 >>= fun user =>
        pure { user, returnURL := stateData.returnURL,
               webLoginHandoff := stateData.webLoginHandoff } := by
  obtain ⟨stateData, hstate, httl, hprovider, hfound, hinfo⟩ := h
  refine ⟨stateData, ?_⟩
  unfold handleCallback
  rw [bind_ok (validateState_run hstate httl), failIf_neg _ (not_not.mpr hprovider)]
  simp only [bind_pure_run, hfound, hinfo]
  rw [bind_run, on_run]
  rcases m.completeUserInfo faults provider userInfo store.db with ⟨_ | _ | _, _⟩ <;> rfl

lemma completeUserInfo_ok (h : (m.completeUserInfo faults provider userInfo db).1 = .ok user) :
    userInfo.email ≠ [] ∧ provider.validateEmailDomain m.lower userInfo.email = .ok () ∧
      (findOrCreateUser faults provider userInfo db).1 = .ok user := by
  unfold completeUserInfo at h
  by_cases hemail : userInfo.email = []
  · rw [failIf_pos _ hemail] at h
    cases h
  rw [failIf_neg _ hemail] at h
  rcases hdomain : provider.validateEmailDomain m.lower userInfo.email with e | ⟨⟩ <;>
    simp only [hdomain, bind_pure_run] at h
  · cases h
  · exact ⟨hemail, rfl, h⟩

lemma completeUserInfo_run (hemail : userInfo.email ≠ [])
    (hdomain : provider.validateEmailDomain m.lower userInfo.email = .ok ()) :
    m.completeUserInfo faults provider userInfo db =
      findOrCreateUser faults provider userInfo db := by
  unfold completeUserInfo
  simp only [failIf_neg _ hemail, hdomain, bind_pure_run]

/-- A callback takes over no account exactly if the e-mail that it would match is verified. -/
theorem oidc_login_takes_over_nobody_iff_the_matched_email_is_verified (m : Manager) (store : Store)
    (faults : Faults) (now : Int) (providerID code state : GoString) :
    m.TakesOverNobody store faults now providerID code state ↔
      m.MatchesVerified store faults now providerID code state := by
  constructor
  · intro h provider userInfo hid hemail hdomain hfault hfault' hnone hrow
    obtain ⟨user, hfound, hold⟩ := findOrCreateUser_matched hfault hfault' hnone hrow
    obtain ⟨stateData, hrun⟩ := handleCallback_run faults hid
    rw [completeUserInfo_run hemail hdomain, hfound] at hrun
    rcases h provider userInfo _ hid hrun hold with ⟨row, hmem, hprovider, hsubject, _⟩ | hverified
    · unfold getUserIdentityByProviderSubject at hnone
      rw [find?_eq_none] at hnone
      exact absurd (decide_eq_true (And.intro hprovider hsubject)) (hnone row hmem)
    · exact (hid.asserted hemail).mpr hverified
  · intro h provider userInfo result hid hok hold
    obtain ⟨stateData, hrun⟩ := handleCallback_run faults hid
    rw [hrun] at hok
    obtain ⟨user, hcomplete, hresult⟩ := Outcome.of_bind_ok hok
    cases hresult
    obtain ⟨hemail, hdomain, hfound⟩ := completeUserInfo_ok hcomplete
    rcases findOrCreateUser_existed hfound hold with hlinked | ⟨hfault, hfault', hnone, hrow⟩
    · exact .inl hlinked
    · exact .inr ((hid.asserted hemail).mp
        (h provider userInfo hid hemail hdomain hfault hfault' hnone hrow))

def sampleProvider : Provider :=
  { id := lit "idp", domain := [], autoProvision := true,
    exchange := fun _ _ => .ok { idToken := some (lit "jwt"), accessToken := [] },
    verifier := fun _ => .ok
      { subject := lit "mallory"
        claims := .ok { email := some (lit "a@b.c"), emailVerified := some false, name := none,
                        picture := none, raw := [] } },
    deviceVerifier := none, userInfo := fun _ => .error [] }

def sampleManager : Manager :=
  { providers := (∅ : GoMap GoString Provider).insert (lit "idp") sampleProvider
    stateTTL := 600, lower := toLower }

def sampleUser : User :=
  { id := lit "u1", email := lit "a@b.c", name := [], avatarURL := [], passwordHash := lit "hash",
    emailVerified := true, isAdmin := true }

def sampleStore : Store :=
  { states := (∅ : GoMap GoString StateData).insert (lit "s")
      { provider := lit "idp", codeVerifier := [], returnURL := [], webLoginHandoff := false,
        createdAt := 0 }
    db := { users := [sampleUser], identities := [] } }

def noFaults : Faults :=
  { getIdentity := none, getUserByID := none, updateClaims := none, getUserByEmail := none,
    createUser := none, createIdentity := none, newUserID := lit "u2", newIdentityID := lit "i1" }

/-- A subject that was never linked logs in as the administrator whose e-mail its provider gives
without calling it verified. -/
theorem unverified_email_logs_in_as_its_user :
    (sampleManager.handleCallback noFaults 1 (lit "idp") [] (lit "s") sampleStore).1 =
        .ok { user := sampleUser, returnURL := [], webLoginHandoff := false } ∧
      sampleStore.db.identities = [] ∧
      sampleProvider.identify [] [] =
        .ok { subject := lit "mallory", email := lit "a@b.c", emailVerified := false, name := [],
              picture := [], rawClaims := [] } :=
  ⟨by decide +kernel, rfl, by decide +kernel⟩

end sandbox0.oidc
