-- The platform policy of `netd/pkg/daemon`. Handlers of sandboxes, services and
-- endpoints change the maps, and each one then rebuilds the policy: it takes a
-- snapshot, compares a hash and writes the policy into the store, in steps that
-- other handlers may run between.
import Sandbox0.NetdStore

namespace sandbox0.netd.daemon

open sandbox0.net sandbox0.netd.policy sandbox0.netd.watcher List

/-! ## The inputs of the policy -/

structure ServiceInfo where
  nameSpace : GoString
  name : GoString
  clusterIP : GoString
  labels : Option (GoMap GoString GoString)

structure EndpointsInfo where
  nameSpace : GoString
  name : GoString
  addresses : List GoString

/-- The platform's lists of `config.NetdConfig`. -/
structure PlatformConfig where
  platformAllowedCIDRs : List GoString := []
  platformDeniedCIDRs : List GoString := []
  platformAllowedDomains : List GoString := []
  platformDeniedDomains : List GoString := []

/-- The texts of addresses that the daemon reads and writes: also `net.ParseIP` and
`(*IPNet).String`. -/
structure AddressTexts extends Texts where
  parseIP : GoString → Option IP
  netString : IPNet → GoString

structure Maps where
  sandboxes : GoMap GoString SandboxInfo
  services : GoMap GoString ServiceInfo
  endpoints : GoMap GoString EndpointsInfo

def platformServiceNames : List GoString :=
  [lit "cluster-gateway", lit "manager", lit "storage-proxy"]

def clusterDNSServiceNames : List GoString := [lit "kube-dns", lit "coredns"]

def isClusterDNSService (info : ServiceInfo) : Bool :=
  info.nameSpace = lit "kube-system" ∧ info.name ∈ clusterDNSServiceNames

def isPlatformService (info : ServiceInfo) : Bool :=
  match info.labels with
  | none => isClusterDNSService info
  | some labels =>
    isClusterDNSService info ∨
      labels[lit "app.kubernetes.io/managed-by"]? = some (lit "sandbox0infra-operator") ∧
        ∃ platformName ∈ platformServiceNames,
          text labels (lit "app.kubernetes.io/name") = platformName ∨
            (lit "-" ++ platformName).isSuffixOf (text labels (lit "app.kubernetes.io/name"))

def platformServiceDomains (info : ServiceInfo) : List GoString :=
  let name := trimSpace info.name
  let nameSpace := trimSpace info.nameSpace
  if name = [] ∨ nameSpace = [] then []
  else
    [name, name ++ lit "." ++ nameSpace, name ++ lit "." ++ nameSpace ++ lit ".svc",
      name ++ lit "." ++ nameSpace ++ lit ".svc.cluster.local"]

variable (texts : AddressTexts)

/-- One turn of `normalizeCIDRInputs`, up to the check for doubles: nothing for a value that is
blank or is no address. -/
def normalizeCIDR (value : GoString) : Option GoString :=
  let value := trimSpace value
  if value = [] then none
  else if contains value (lit "/") then (texts.parseCIDR value).map texts.netString
  else (texts.parseIP value).map fun ip => texts.ipString ip ++ lit "/32"

def normalizeCIDRInputs (values : List GoString) : List GoString :=
  (values.filterMap (normalizeCIDR texts)).dedup

def normalizeDomainInputs (values : List GoString) : List GoString :=
  ((values.map fun value => toLower (trimSpace value)).filter (· ≠ [])).dedup

/-- `sort.Strings`. -/
def sortStrings (values : List GoString) : List GoString := values.insertionSort (· ≤ ·)

/-- The lists that `rebuild` computes, in the order in which they are hashed. -/
structure PlatformInputs where
  sandboxPodIPs : List GoString
  matchedServices : List GoString
  allowedCIDRs : List GoString
  deniedCIDRs : List GoString
  allowedDomains : List GoString
  deniedDomains : List GoString

def platformInputs (cfg : PlatformConfig) (m : Maps) : PlatformInputs :=
  let matched := m.services.toList.filter fun p => isPlatformService p.2
  let allowedCIDRs := matched.flatMap fun p =>
    (if p.2.clusterIP ≠ [] ∧ toLower p.2.clusterIP ≠ lit "none" then [p.2.clusterIP] else []) ++
      ((m.endpoints[p.1]?).map (·.addresses)).getD []
  let allowedDomains := matched.flatMap fun p => platformServiceDomains p.2
  { sandboxPodIPs := sortStrings
      ((m.sandboxes.toList.map fun p => trimSpace p.2.podIP).filter (· ≠ [])).dedup
    matchedServices := sortStrings (matched.map Prod.fst)
    allowedCIDRs :=
      sortStrings (normalizeCIDRInputs texts (allowedCIDRs ++ cfg.platformAllowedCIDRs))
    deniedCIDRs := sortStrings (normalizeCIDRInputs texts cfg.platformDeniedCIDRs)
    allowedDomains :=
      sortStrings (normalizeDomainInputs (allowedDomains ++ cfg.platformAllowedDomains))
    deniedDomains := sortStrings (normalizeDomainInputs cfg.platformDeniedDomains) }

/-- `policy.BuildPlatformPolicy`, and the pods of the sandboxes. -/
def buildPlatformPolicy (x : PlatformInputs) : Except CompileError PlatformPolicy := do
  let allowedCIDRs ← parseCIDRs texts.toTexts x.allowedCIDRs
  let deniedCIDRs ← parseCIDRs texts.toTexts x.deniedCIDRs
  let allowedDomains ← parseDomains x.allowedDomains
  let deniedDomains ← parseDomains x.deniedDomains
  return { allowedCIDRs, deniedCIDRs, allowedDomains, deniedDomains,
           sandboxPodIPs := x.sandboxPodIPs }

/-! ## The hash -/

/-- SHA-256 in hexadecimal. No two texts that are hashed have the same digest. -/
structure Sha256 where
  hexDigest : GoString → GoString
  injective : Function.Injective hexDigest
  nonempty : ∀ s, hexDigest s ≠ []

/-- The bytes that one list adds: a zero byte behind each value, and a one at the end. -/
def hashBytes (values : List GoString) : GoString := values.flatMap (· ++ [0]) ++ [1]

def hashPlatformPolicyInputs (sha : Sha256) (parts : List (List GoString)) : GoString :=
  sha.hexDigest (parts.flatMap hashBytes)

def PlatformInputs.parts (x : PlatformInputs) : List (List GoString) :=
  [x.sandboxPodIPs, x.matchedServices, x.allowedCIDRs, x.deniedCIDRs, x.allowedDomains,
    x.deniedDomains]

def PlatformInputs.hash (sha : Sha256) (x : PlatformInputs) : GoString :=
  hashPlatformPolicyInputs sha x.parts

/-! ## Handlers -/

inductive Change where
  | sandboxUpsert (info : SandboxInfo)
  | sandboxDelete (info : SandboxInfo)
  | serviceUpsert (info : ServiceInfo)
  | serviceDelete (info : ServiceInfo)
  | endpointsUpsert (info : EndpointsInfo)
  | endpointsDelete (info : EndpointsInfo)

def Maps.apply (m : Maps) : Change → Maps
  | .sandboxUpsert info =>
    { m with sandboxes := m.sandboxes.insert (sandboxKey info.nameSpace info.name) info }
  | .sandboxDelete info =>
    { m with sandboxes := m.sandboxes.erase (sandboxKey info.nameSpace info.name) }
  | .serviceUpsert info =>
    { m with services := m.services.insert (sandboxKey info.nameSpace info.name) info }
  | .serviceDelete info =>
    { m with services := m.services.erase (sandboxKey info.nameSpace info.name) }
  | .endpointsUpsert info =>
    { m with endpoints := m.endpoints.insert (sandboxKey info.nameSpace info.name) info }
  | .endpointsDelete info =>
    { m with endpoints := m.endpoints.erase (sandboxKey info.nameSpace info.name) }

/-- Where a handler is: before its change of the maps, before its snapshot, before its look at the
hash (with the lists of its snapshot and the snapshot's number), or before the store. -/
inductive Stage where
  | update (c : Change)
  | snapshot
  | check (version : Nat) (x : PlatformInputs)
  | publish (x : PlatformInputs) (p : PlatformPolicy)

structure World where
  maps : Maps
  lastHash : GoString
  store : Store
  handlers : GoMap Nat Stage
  nextHandler : Nat
  /-- How many snapshots were taken. -/
  version : Nat
  /-- The number of the newest snapshot whose hash was looked at. -/
  checked : Nat

/-- A new `platformPolicyState`, at the start of its first `rebuild`. -/
def World.start : World where
  maps := { sandboxes := ∅, services := ∅, endpoints := ∅ }
  lastHash := []
  store := newStore
  handlers := (∅ : GoMap Nat Stage).insert 0 .snapshot
  nextHandler := 1
  version := 0
  checked := 0

inductive Event where
  | handle (c : Change)
  | step (id : Nat)

variable (sha : Sha256) (cfg : PlatformConfig)

def World.step (w : World) (id : Nat) : Stage → World
  | .update c => { w with maps := w.maps.apply c, handlers := w.handlers.insert id .snapshot }
  | .snapshot =>
    { w with version := w.version + 1
             handlers :=
               w.handlers.insert id (.check (w.version + 1) (platformInputs texts cfg w.maps)) }
  | .check version x =>
    if w.lastHash = x.hash sha then { w with handlers := w.handlers.erase id, checked := version }
    else
      match buildPlatformPolicy texts x with
      | .ok p => { w with lastHash := x.hash sha, checked := version
                          handlers := w.handlers.insert id (.publish x p) }
      | .error _ => { w with lastHash := x.hash sha, checked := version
                             handlers := w.handlers.erase id }
  | .publish _ p =>
    { w with store := w.store.setPlatformPolicy (some p), handlers := w.handlers.erase id }

def World.next (w : World) : Event → World
  | .handle c => { w with handlers := w.handlers.insert w.nextHandler (.update c)
                          nextHandler := w.nextHandler + 1 }
  | .step id =>
    match w.handlers[id]? with
    | some stage => w.step texts sha cfg id stage
    | none => w

def World.Reached (ok : World → Event → Prop) : World → Prop :=
  Reach (· = World.start) (fun w e w' => w' = w.next texts sha cfg e) ok

/-! ## The hashed texts -/

/-- A value that cannot be taken for the bytes between the values. -/
def Plain (value : GoString) : Prop := 0 ∉ value ∧ value.head? ≠ some 1

instance (value : GoString) : Decidable (Plain value) := inferInstanceAs (Decidable (_ ∧ _))

lemma plain_no_end {v : GoString} (hv : Plain v) (r t : GoString) : v ++ 0 :: r ≠ 1 :: t := by
  intro h
  cases v with
  | nil => simp at h
  | cons x v =>
    simp only [cons_append, List.cons.injEq] at h
    exact hv.2 (by simp [h.1])

lemma hashBytes_cons (v : GoString) (vs : List GoString) (rest : GoString) :
    hashBytes (v :: vs) ++ rest = v ++ 0 :: (hashBytes vs ++ rest) := by
  simp [hashBytes]

/-- The bytes of a list of plain values say where the list ends. -/
lemma hashBytes_append {vs vs' : List GoString} {rest rest' : GoString} (hvs : ∀ v ∈ vs, Plain v)
    (hvs' : ∀ v ∈ vs', Plain v) (h : hashBytes vs ++ rest = hashBytes vs' ++ rest') :
    vs = vs' ∧ rest = rest' := by
  induction vs generalizing vs' with
  | nil =>
    cases vs' with
    | nil => simpa [hashBytes] using h
    | cons v' vs' =>
      rw [hashBytes_cons] at h
      exact absurd h.symm (plain_no_end (hvs' v' (by simp)) _ _)
  | cons v vs ih =>
    rw [hashBytes_cons] at h
    cases vs' with
    | nil => exact absurd h (plain_no_end (hvs v (by simp)) _ _)
    | cons v' vs' =>
      rw [hashBytes_cons] at h
      obtain ⟨hv, hrest⟩ := cut_inj (hvs v (by simp)).1 (hvs' v' (by simp)).1 h
      obtain ⟨htail, hend⟩ :=
        ih (fun x hx => hvs x (by simp [hx])) (fun x hx => hvs' x (by simp [hx])) hrest
      exact ⟨by rw [hv, htail], hend⟩

lemma flatMap_hashBytes {parts parts' : List (List GoString)}
    (hparts : ∀ vs ∈ parts, ∀ v ∈ vs, Plain v) (hparts' : ∀ vs ∈ parts', ∀ v ∈ vs, Plain v)
    (h : parts.flatMap hashBytes = parts'.flatMap hashBytes) : parts = parts' := by
  induction parts generalizing parts' with
  | nil =>
    cases parts' with
    | nil => rfl
    | cons vs' parts' => simp [hashBytes] at h
  | cons vs parts ih =>
    cases parts' with
    | nil => simp [hashBytes] at h
    | cons vs' parts' =>
      rw [flatMap_cons, flatMap_cons] at h
      obtain ⟨hhead, hrest⟩ := hashBytes_append (hparts vs (by simp)) (hparts' vs' (by simp)) h
      rw [hhead, ih (fun x hx => hparts x (by simp [hx]))
        (fun x hx => hparts' x (by simp [hx])) hrest]

def PlatformInputs.Plain (x : PlatformInputs) : Prop :=
  ∀ values ∈ x.parts, ∀ v ∈ values, daemon.Plain v

instance (x : PlatformInputs) : Decidable x.Plain :=
  inferInstanceAs (Decidable (∀ values ∈ x.parts, ∀ v ∈ values, daemon.Plain v))

variable {x : PlatformInputs} {w w' : World} {id : Nat} {after : Option Stage}
    {hashed : Option PlatformInputs}

lemma PlatformInputs.eq_of_hash {y : PlatformInputs} (hx : x.Plain) (hy : y.Plain)
    (h : x.hash sha = y.hash sha) : x = y := by
  have hparts : x.parts = y.parts := flatMap_hashBytes hx hy (sha.injective h)
  cases x
  cases y
  simpa [PlatformInputs.parts] using hparts

/-! ## Runs -/

def Builds (x : PlatformInputs) : Prop := ∃ p, buildPlatformPolicy texts x = .ok p

instance (x : PlatformInputs) : Decidable (Builds texts x) :=
  match h : buildPlatformPolicy texts x with
  | .ok p => isTrue ⟨p, h⟩
  | .error _ => isFalse fun ⟨_, hp⟩ => by simp [h] at hp

/-- A step that does not turn back. At the look at the hash no newer snapshot was looked at, and
the lists are plain and make a policy. At the store the hash is still that of the lists. -/
def Stage.Safe (w : World) : Stage → Prop
  | .update _ => True
  | .snapshot => True
  | .check version x => w.checked ≤ version ∧ x.Plain ∧ Builds texts x
  | .publish x _ => w.lastHash = x.hash sha

def Event.Safe (w : World) : Event → Prop
  | .handle _ => True
  | .step id => ∀ stage ∈ w.handlers[id]?, stage.Safe texts sha w

instance (w : World) (stage : Stage) : Decidable (stage.Safe texts sha w) := by
  unfold Stage.Safe
  cases stage <;> infer_instance

instance (w : World) (e : Event) : Decidable (e.Safe texts sha w) := by
  unfold Event.Safe
  cases e <;> infer_instance

/-- Handler `id` is at this stage. -/
def World.At (w : World) (id : Nat) (stage : Stage) : Prop := w.handlers[id]? = some stage

/-- The lists whose hash was kept last: they make the policy of the store, or a handler is about
to write theirs. -/
structure Hashed (w : World) (hashed : Option PlatformInputs) : Prop where
  hash : w.lastHash = (hashed.map (·.hash sha)).getD []
  plain : ∀ x ∈ hashed, x.Plain
  installed : ∀ x ∈ hashed, (∃ id p, w.At id (.publish x p)) ∨
    ∃ p, buildPlatformPolicy texts x = .ok p ∧ w.store.platform = some p

/-- The maps are as the last snapshot has them, and it was looked at or is about to be. -/
def Current (w : World) (hashed : Option PlatformInputs) : Prop :=
  (∀ id x, w.At id (.check w.version x) → x = platformInputs texts cfg w.maps) ∧
    ((∃ id, w.At id (.check w.version (platformInputs texts cfg w.maps))) ∨
      w.checked = w.version ∧ hashed = some (platformInputs texts cfg w.maps))

structure Inv (w : World) (hashed : Option PlatformInputs) : Prop where
  numbered : ∀ id stage, w.At id stage → id < w.nextHandler
  taken : ∀ id version x, w.At id (.check version x) → version ≤ w.version
  built : ∀ id x p, w.At id (.publish x p) → x.Plain ∧ buildPlatformPolicy texts x = .ok p
  kept : Hashed texts sha w hashed
  -- a change of the maps comes with a handler that has its snapshot to take
  seen : (∃ id, w.At id .snapshot) ∨ Current texts cfg w hashed

/-- Handler `id` goes to the stage `after`, or returns, and every other handler stays. -/
structure Moves (w w' : World) (id : Nat) (after : Option Stage) : Prop where
  handlers : ∀ id', w'.handlers[id']? = if id' = id then after else w.handlers[id']?
  numbers : w.nextHandler ≤ w'.nextHandler

variable {texts sha cfg}

open GoMap

lemma Moves.insert {stage : Stage} (hn : w.nextHandler ≤ w'.nextHandler)
    (h : w'.handlers = w.handlers.insert id stage) : Moves w w' id (some stage) where
  handlers id' := by
    rw [h, get_insert]
    simp only [eq_comm]
  numbers := hn

lemma Moves.erase (hn : w.nextHandler ≤ w'.nextHandler)
    (h : w'.handlers = w.handlers.erase id) : Moves w w' id none where
  handlers id' := by
    rw [h, get_erase]
    simp only [eq_comm]
  numbers := hn

open World

lemma Moves.at_iff (h : Moves w w' id after) (id' : Nat) (stage : Stage) :
    w'.At id' stage ↔ if id' = id then after = some stage else w.At id' stage := by
  unfold At
  rw [h.handlers]
  split <;> rfl

/-- A handler at another stage than the moved one is where it was. -/
lemma Moves.at_of_ne {id' : Nat} {stage : Stage} (h : Moves w w' id after)
    (hne : w.handlers[id]? ≠ some stage) (hat : w.At id' stage) : w'.At id' stage := by
  have hid : id' ≠ id := by
    rintro rfl
    exact hne hat
  rw [h.at_iff, if_neg hid]
  exact hat

/-- What a new stage says of a handler is all that a move has to show. -/
lemma Moves.inv {hashed' : Option PlatformInputs} (h : Inv texts sha cfg w hashed)
    (hmoves : Moves w w' id after) (hid : id < w'.nextHandler) (hversion : w.version ≤ w'.version)
    (htaken : ∀ version x, after = some (.check version x) → version ≤ w'.version)
    (hbuilt : ∀ x p, after = some (.publish x p) → x.Plain ∧ buildPlatformPolicy texts x = .ok p)
    (hkept : Hashed texts sha w' hashed')
    (hseen : (∃ id, w'.At id .snapshot) ∨ Current texts cfg w' hashed') :
    Inv texts sha cfg w' hashed' where
  numbered id' stage hat := by
    rw [hmoves.at_iff] at hat
    split at hat
    · rename_i heq
      exact heq ▸ hid
    · exact lt_of_lt_of_le (h.numbered id' stage hat) hmoves.numbers
  taken id' version x hat := by
    rw [hmoves.at_iff] at hat
    split at hat
    · exact htaken version x hat
    · exact (h.taken id' version x hat).trans hversion
  built id' x p hat := by
    rw [hmoves.at_iff] at hat
    split at hat
    · exact hbuilt x p hat
    · exact h.built id' x p hat
  kept := hkept
  seen := hseen

lemma Hashed.moves (h : Hashed texts sha w hashed) (hhash : w'.lastHash = w.lastHash)
    (hstore : w'.store.platform = w.store.platform)
    (hat : ∀ id' x p, w.At id' (.publish x p) → w'.At id' (.publish x p)) :
    Hashed texts sha w' hashed where
  hash := by rw [hhash, h.hash]
  plain := h.plain
  installed x hx := by
    rcases h.installed x hx with ⟨id', p, hpub⟩ | ⟨p, hp, hin⟩
    · exact .inl ⟨id', p, hat id' x p hpub⟩
    · exact .inr ⟨p, hp, by rw [hstore, hin]⟩

lemma Inv.start : Inv texts sha cfg World.start none := by
  have hat : ∀ id stage, World.start.At id stage → id = 0 ∧ stage = .snapshot := by
    intro id stage h
    simp only [World.At, World.start, GoMap.get_insert] at h
    split at h
    · exact ⟨by simp_all, by simp_all⟩
    · simp at h
  refine ⟨?_, ?_, ?_, ⟨rfl, by simp, by simp⟩, .inl ⟨0, by simp [World.At, World.start]⟩⟩
  · intro id stage h
    rw [(hat id stage h).1]
    exact Nat.zero_lt_one
  · intro id version x h
    exact absurd (hat id _ h).2 (by simp)
  · intro id x p h
    exact absurd (hat id _ h).2 (by simp)

section

variable (h : Current texts cfg w hashed) (hmoves : Moves w w' id after) (hmaps : w'.maps = w.maps)
  (hversion : w'.version = w.version) (hafter : ∀ version x, after ≠ some (.check version x))

include h hmoves hmaps hversion hafter

/-- A handler that neither had a hash to look at nor gets one keeps what the maps say. -/
lemma Current.moves (hchecked : w'.checked = w.checked)
    (hbefore : ∀ version x, w.handlers[id]? ≠ some (.check version x)) :
    Current texts cfg w' hashed := by
  obtain ⟨hlast, hseen⟩ := h
  refine ⟨?_, ?_⟩
  · intro id' x hat
    rw [hmoves.at_iff, hversion] at hat
    split at hat
    · exact absurd hat (hafter _ _)
    · rw [hmaps]
      exact hlast id' x hat
  · rw [hmaps, hversion, hchecked]
    refine hseen.imp_left ?_
    rintro ⟨id', hat⟩
    exact ⟨id', hmoves.at_of_ne (hbefore _ _) hat⟩

/-- The newest snapshot has been looked at, or its handler still has to. -/
lemma Current.check {version : Nat} (hid : w.handlers[id]? = some (.check version x))
    (hle : version ≤ w.version) (hnewer : w.checked ≤ version) (hchecked : w'.checked = version) :
    Current texts cfg w' (some x) := by
  obtain ⟨hlast, hseen⟩ := h
  refine ⟨?_, ?_⟩
  · intro id' y hat
    rw [hmoves.at_iff, hversion] at hat
    split at hat
    · exact absurd hat (hafter _ _)
    · rw [hmaps]
      exact hlast id' y hat
  · rw [hmaps, hversion, hchecked]
    by_cases hv : version = w.version
    · subst hv
      exact .inr ⟨rfl, congrArg some (hlast id x hid)⟩
    rcases hseen with ⟨id', hat⟩ | ⟨hall, _⟩
    · refine .inl ⟨id', hmoves.at_of_ne ?_ hat⟩
      rw [hid]
      simp [hv]
    · exact absurd (le_antisymm hle (hall ▸ hnewer)) hv

end

lemma Inv.handle (h : Inv texts sha cfg w hashed) (c : Change) :
    Inv texts sha cfg (w.next texts sha cfg (.handle c)) hashed := by
  have hnew : ∀ stage, w.handlers[w.nextHandler]? ≠ some stage := by
    intro stage hat
    exact absurd (h.numbered _ _ hat) (lt_irrefl _)
  have hmoves : Moves w (w.next texts sha cfg (.handle c)) w.nextHandler (some (.update c)) :=
    .insert (Nat.le_succ _) rfl
  refine hmoves.inv h (Nat.lt_succ_self _) le_rfl (by simp) (by simp) ?_ ?_
  · exact h.kept.moves rfl rfl fun id' x p => hmoves.at_of_ne (hnew _)
  · rcases h.seen with ⟨id', hat⟩ | hcurrent
    · exact .inl ⟨id', hmoves.at_of_ne (hnew _) hat⟩
    · exact .inr (hcurrent.moves hmoves rfl rfl (by simp) rfl (fun _ _ => hnew _))

lemma Inv.update {c : Change}
    (h : Inv texts sha cfg w hashed) (hid : w.handlers[id]? = some (.update c)) :
    Inv texts sha cfg (w.step texts sha cfg id (.update c)) hashed := by
  have hmoves : Moves w (w.step texts sha cfg id (.update c)) id (some .snapshot) :=
    .insert le_rfl rfl
  refine hmoves.inv h (h.numbered _ _ hid) le_rfl (by simp) (by simp) ?_ ?_
  · exact h.kept.moves rfl rfl fun id' x p => hmoves.at_of_ne (by simp [hid])
  · exact .inl ⟨id, by rw [hmoves.at_iff, if_pos rfl]⟩

lemma Inv.snapshot (h : Inv texts sha cfg w hashed) (hid : w.handlers[id]? = some .snapshot) :
    Inv texts sha cfg (w.step texts sha cfg id .snapshot) hashed := by
  have hmoves : Moves w (w.step texts sha cfg id .snapshot) id
      (some (.check (w.version + 1) (platformInputs texts cfg w.maps))) := .insert le_rfl rfl
  refine hmoves.inv h (h.numbered _ _ hid) (Nat.le_succ _) ?_ (by simp) ?_ ?_
  · intro version x hafter
    cases hafter
    exact le_rfl
  · exact h.kept.moves rfl rfl fun id' x p => hmoves.at_of_ne (by simp [hid])
  · refine .inr ⟨?_, .inl ⟨id, ?_⟩⟩
    · intro id' x hat
      rw [hmoves.at_iff] at hat
      split at hat
      · cases hat
        rfl
      -- every other snapshot is older than this one
      · have hle := h.taken id' _ x hat
        exact absurd hle (Nat.not_succ_le_self _)
    · rw [hmoves.at_iff, if_pos rfl]
      rfl

lemma Hashed.eq_of_hash (h : Hashed texts sha w hashed) (hx : x.Plain)
    (heq : w.lastHash = x.hash sha) : hashed = some x := by
  have hhash := h.hash
  rw [heq] at hhash
  cases hashed with
  | none => exact absurd hhash (sha.nonempty _)
  | some y => rw [PlatformInputs.eq_of_hash sha hx (h.plain y rfl) hhash]

section

variable (h : Inv texts sha cfg w hashed)

include h

lemma Inv.check {version : Nat} (hid : w.handlers[id]? = some (.check version x))
    (hsafe : (Stage.check version x).Safe texts sha w) :
    Inv texts sha cfg (w.step texts sha cfg id (.check version x)) (some x) := by
  obtain ⟨hnewer, hplain, p, hp⟩ := hsafe
  have hle := h.taken id version x hid
  -- a handler with its snapshot to take is not this one
  have hseen : ∀ {w' after}, Moves w w' id after → w'.maps = w.maps → w'.version = w.version →
      w'.checked = version → (∀ version x, after ≠ some (.check version x)) →
      (∃ id, w'.At id .snapshot) ∨ Current texts cfg w' (some x) := by
    intro w' after hmoves hmaps hversion hchecked hafter
    rcases h.seen with ⟨id', hat⟩ | hcurrent
    · exact .inl ⟨id', hmoves.at_of_ne (by simp [hid]) hat⟩
    · exact .inr (hcurrent.check hmoves hmaps hversion hafter hid hle hnewer hchecked)
  dsimp only [step]
  by_cases heq : w.lastHash = x.hash sha
  · have hhashed := h.kept.eq_of_hash hplain heq
    rw [if_pos heq]
    have hmoves : Moves w { w with handlers := w.handlers.erase id, checked := version } id none :=
      .erase le_rfl rfl
    refine hmoves.inv h (h.numbered _ _ hid) le_rfl (by simp) (by simp) ?_ ?_
    · exact hhashed ▸ h.kept.moves rfl rfl fun id' x p => hmoves.at_of_ne (by simp [hid])
    · exact hseen hmoves rfl rfl rfl (by simp)
  · rw [if_neg heq, hp]
    have hmoves : Moves w { w with lastHash := x.hash sha, checked := version
                                   handlers := w.handlers.insert id (.publish x p) }
        id (some (.publish x p)) := .insert le_rfl rfl
    refine hmoves.inv h (h.numbered _ _ hid) le_rfl (by simp) ?_ ⟨rfl, ?_, ?_⟩ ?_
    · intro y q hafter
      cases hafter
      exact ⟨hplain, hp⟩
    · intro y hy
      cases hy
      exact hplain
    · intro y hy
      cases hy
      exact .inl ⟨id, p, by rw [hmoves.at_iff, if_pos rfl]⟩
    · exact hseen hmoves rfl rfl rfl (by simp)

lemma Inv.publish {p : PlatformPolicy}
    (hid : w.handlers[id]? = some (.publish x p)) (hsafe : (Stage.publish x p).Safe texts sha w) :
    Inv texts sha cfg (w.step texts sha cfg id (.publish x p)) hashed := by
  obtain ⟨hplain, hp⟩ := h.built id x p hid
  have hhashed := h.kept.eq_of_hash hplain hsafe
  have hmoves : Moves w (w.step texts sha cfg id (.publish x p)) id none := .erase le_rfl rfl
  refine hmoves.inv h (h.numbered _ _ hid) le_rfl (by simp) (by simp)
    ⟨h.kept.hash, h.kept.plain, ?_⟩ ?_
  · intro y hy
    rw [hhashed] at hy
    cases hy
    exact .inr ⟨p, hp, rfl⟩
  · rcases h.seen with ⟨id', hat⟩ | hcurrent
    · exact .inl ⟨id', hmoves.at_of_ne (by simp [hid]) hat⟩
    · exact .inr (hcurrent.moves hmoves rfl rfl (by simp) rfl (by simp [hid]))

lemma Inv.next {e : Event} (hsafe : e.Safe texts sha w) :
    ∃ hashed', Inv texts sha cfg (w.next texts sha cfg e) hashed' := by
  cases e with
  | handle c => exact ⟨hashed, h.handle c⟩
  | step id =>
    rcases hid : w.handlers[id]? with _ | stage
    · refine ⟨hashed, ?_⟩
      simp only [World.next, hid]
      exact h
    have hstage : stage.Safe texts sha w := hsafe stage hid
    simp only [World.next, hid]
    cases stage with
    | update c => exact ⟨hashed, h.update hid⟩
    | snapshot => exact ⟨hashed, h.snapshot hid⟩
    | check version x => exact ⟨some x, h.check hid hstage⟩
    | publish x p => exact ⟨hashed, h.publish hid hstage⟩

lemma Inv.settled (hdone : w.handlers.isEmpty) :
    ∃ p, buildPlatformPolicy texts (platformInputs texts cfg w.maps) = .ok p ∧
      w.store.platform = some p := by
  have hnone : ∀ id stage, ¬ w.At id stage := by
    intro id stage hat
    rw [At, (isEmpty_iff _).mp hdone id] at hat
    cases hat
  rcases h.seen with ⟨id, hat⟩ | ⟨_, ⟨id, hat⟩ | ⟨_, hhashed⟩⟩
  · exact absurd hat (hnone _ _)
  · exact absurd hat (hnone _ _)
  · rcases h.kept.installed _ hhashed with ⟨id, p, hat⟩ | hin
    · exact absurd hat (hnone _ _)
    · exact hin

end

lemma buildPlatformPolicy_sandboxPodIPs {p : PlatformPolicy}
    (h : buildPlatformPolicy texts x = .ok p) : p.sandboxPodIPs = x.sandboxPodIPs := by
  unfold buildPlatformPolicy at h
  obtain ⟨_, _, h⟩ := of_bind_ok h
  obtain ⟨_, _, h⟩ := of_bind_ok h
  obtain ⟨_, _, h⟩ := of_bind_ok h
  obtain ⟨_, _, h⟩ := of_bind_ok h
  cases h
  rfl

lemma mem_sandboxPodIPs {m : Maps} {key : GoString} {info : SandboxInfo}
    (h : m.sandboxes[key]? = some info) (hip : trimSpace info.podIP ≠ []) :
    trimSpace info.podIP ∈ (platformInputs texts cfg m).sandboxPodIPs := by
  unfold platformInputs sortStrings
  simp only [mem_insertionSort, mem_dedup, mem_filter, mem_map, decide_eq_true_eq]
  exact ⟨⟨(key, info), (mem_toList _ _ _).mpr h, rfl⟩, hip⟩

def noAddresses : AddressTexts where
  parseCIDR _ := none
  ipString _ := []
  parseIP _ := none
  netString _ := []

/-- A digest for runs: the text itself, behind a byte. -/
def plainDigest : Sha256 where
  hexDigest s := 48 :: s
  injective _ _ h := (List.cons.inj h).2
  nonempty _ := List.cons_ne_nil _ _

def dnsService : ServiceInfo :=
  { nameSpace := lit "kube-system", name := lit "kube-dns", clusterIP := lit "None",
    labels := none }

def sandboxPod : SandboxInfo where
  nameSpace := lit "ns"
  name := lit "pod"
  uid := lit "uid"
  resourceVersion := lit "1"
  podIP := lit "10.0.0.7"
  nodeName := lit "node"
  sandboxID := lit "sb"
  teamID := lit "team"
  networkPolicy := []
  networkPolicyHash := []
  networkAppliedHash := []

def runFrom (es : List Event) : World :=
  es.foldl (World.next noAddresses plainDigest {}) World.start

/-- The first rebuild, and then the handler of a sandbox while that of a service has begun. -/
def sandboxDuringService : List Event :=
  [.step 0, .step 0, .step 0, .handle (.serviceUpsert dnsService), .step 1,
    .handle (.sandboxUpsert sandboxPod), .step 2, .step 2, .step 2, .step 2, .step 1, .step 1]

end sandbox0.netd.daemon
