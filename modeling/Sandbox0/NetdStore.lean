-- The policy store of `netd/pkg/policy`. The daemon writes the policy of each
-- sandbox under its name and under its pod ip, and the proxy reads the policy
-- of a connection by the ip. Pods come and go, and a later pod may get the ip
-- of an earlier one.
import Sandbox0.NetdPolicy
import Sandbox0.NetdWatcher

namespace sandbox0.netd.policy

open sandbox0.net sandbox0.netd.watcher List Option

structure PolicyEntry where
  compiled : CompiledPolicy
  policyHash : GoString
  podIP : GoString

structure Store where
  byIP : GoMap GoString PolicyEntry
  byKey : GoMap GoString PolicyEntry
  platform : Option PlatformPolicy

def newStore : Store := { byIP := ∅, byKey := ∅, platform := none }

/-- How annotations become policies: `v1alpha1.ParseNetworkPolicyFromAnnotation`
reads the JSON text, and `net` reads the addresses in it. -/
structure Reader where
  texts : Texts
  parseNetworkPolicyFromAnnotation : GoString → Option (Option NetworkPolicySpec)

/-- The policy of an annotation, or nothing when it does not parse or compile. -/
def Reader.policyOf (r : Reader) (json : GoString) : Option CompiledPolicy :=
  match r.parseNetworkPolicyFromAnnotation json with
  | none => none
  | some spec => (compileNetworkPolicy r.texts spec).toOption

def sandboxKey (nameSpace name : GoString) : GoString := nameSpace ++ lit "/" ++ name

/-! ## The calls -/

/-- `delete(s.byIP, existing.podIP)` for an entry whose ip is not the new one.
Whose entry the map holds at that ip is not asked. -/
def Store.dropOld (s : Store) (existing : Option PolicyEntry) (podIP : Option GoString) :
    GoMap GoString PolicyEntry :=
  match existing with
  | none => s.byIP
  | some e => if e.podIP ≠ [] ∧ podIP ≠ some e.podIP then s.byIP.erase e.podIP else s.byIP

/-- `UpsertFromSandbox`, with the compiled policy. -/
def Store.upsert (s : Store) (info : SandboxInfo) (compiled : CompiledPolicy) : Store :=
  let key := sandboxKey info.nameSpace info.name
  let entry : PolicyEntry :=
    { compiled, policyHash := info.networkPolicyHash, podIP := info.podIP }
  { s with byKey := s.byKey.insert key entry
           byIP := (s.dropOld s.byKey[key]? (some info.podIP)).insert info.podIP entry }

/-- `UpsertFromSandbox`: no ip, or a policy that does not compile, changes nothing. -/
def Store.upsertFromSandbox (r : Reader) (s : Store) (info : SandboxInfo) : Store :=
  if info.podIP = [] then s
  else
    match r.policyOf info.networkPolicy with
    | none => s
    | some compiled => s.upsert info compiled

def Store.deleteByKey (s : Store) (nameSpace name : GoString) : Store :=
  let key := sandboxKey nameSpace name
  { s with byKey := s.byKey.erase key
           byIP := s.dropOld s.byKey[key]? none }

def clonePlatformPolicy (platform : Option PlatformPolicy) (sourcePodIP : GoString) :
    Option PlatformPolicy :=
  platform.map fun p => { p with sourcePodIP }

/-- The policy that the proxy gets: the compiled one, under the platform's rules. -/
def Store.served (s : Store) (compiled : CompiledPolicy) (podIP : GoString) : CompiledPolicy :=
  { compiled with platform := clonePlatformPolicy s.platform podIP }

def Store.getByIP (s : Store) (podIP : GoString) : Option CompiledPolicy :=
  (s.byIP[podIP]?).map fun entry => s.served entry.compiled podIP

def Store.setPlatformPolicy (s : Store) (platform : Option PlatformPolicy) : Store :=
  { s with platform }

/-! ## The history of an ip -/

/-- A change that took place: an upsert that succeeded, or a delete. -/
inductive Change where
  | upsert (key podIP : GoString) (compiled : CompiledPolicy)
  | delete (key : GoString)

def Change.key : Change → GoString
  | .upsert key _ _ => key
  | .delete key => key

def Change.podIP : Change → Option GoString
  | .upsert _ podIP _ => some podIP
  | .delete _ => none

/-- In the history `h`, the newest change first, the most recent upsert that
carries `ip` is the one of `key` with `compiled`, and since then that sandbox
was not deleted and did not move: it has no later change. -/
def Holds (h : List Change) (ip key : GoString) (compiled : CompiledPolicy) : Prop :=
  ∃ later earlier, h = later ++ .upsert key ip compiled :: earlier ∧
    ∀ c ∈ later, c.podIP ≠ some ip ∧ c.key ≠ key

/-- The sandbox that holds `ip`, read off the history. -/
def holder (ip : GoString) : List Change → Option (GoString × CompiledPolicy)
  | [] => none
  | .upsert key podIP compiled :: h =>
    if podIP = ip then some (key, compiled) else (holder ip h).filter (·.1 ≠ key)
  | .delete key :: h => (holder ip h).filter (·.1 ≠ key)

variable {c : Change} {h : List Change} {ip : GoString} {compiled : CompiledPolicy} {r : Reader}
    {s : Store} {w : World} {existing : Option PolicyEntry}

lemma holder_cons_other (hc : c.podIP ≠ some ip) :
    holder ip (c :: h) = (holder ip h).filter (·.1 ≠ c.key) := by
  cases c with
  | upsert key podIP compiled =>
    have hne : podIP ≠ ip := fun he => hc (by rw [he]; rfl)
    rw [holder, if_neg hne]
    rfl
  | delete key => rfl

lemma holds_cons {key : GoString} : Holds (c :: h) ip key compiled ↔ c = .upsert key ip compiled ∨
        (c.podIP ≠ some ip ∧ c.key ≠ key) ∧ Holds h ip key compiled := by
  constructor
  · rintro ⟨later, earlier, heq, hlater⟩
    cases later with
    | nil =>
      rw [nil_append, List.cons.injEq] at heq
      exact .inl heq.1
    | cons c' later =>
      rw [cons_append, List.cons.injEq] at heq
      obtain ⟨rfl, rfl⟩ := heq
      exact .inr ⟨hlater c mem_cons_self, later, earlier, rfl,
        fun c' hc' => hlater c' (mem_cons_of_mem _ hc')⟩
  · rintro (rfl | ⟨hc, later, earlier, rfl, hlater⟩)
    · exact ⟨[], h, rfl, fun c' hc' => absurd hc' not_mem_nil⟩
    · exact ⟨c :: later, earlier, rfl, forall_mem_cons.mpr ⟨hc, hlater⟩⟩

lemma holder_iff {key : GoString} :
    holder ip h = some (key, compiled) ↔ Holds h ip key compiled := by
  induction h with
  | nil =>
    constructor
    · intro hn
      cases hn
    · rintro ⟨later, earlier, heq, _⟩
      simp at heq
  | cons c h ih =>
    rw [holds_cons]
    by_cases hc : c.podIP = some ip
    · cases c with
      | delete _ => cases hc
      | upsert key' podIP compiled' =>
        cases hc
        simp [holder, Change.podIP]
    · have hne : c ≠ .upsert key ip compiled := by
        rintro rfl
        exact hc rfl
      rw [holder_cons_other hc, filter_eq_some_iff, ih]
      simp only [hne, hc, false_or, not_false_eq_true, ne_eq, true_and, decide_eq_true_eq]
      rw [and_comm, eq_comm]

/-! ## Sequences of calls -/

inductive Event where
  | upsertFromSandbox (info : SandboxInfo)
  | deleteByKey (nameSpace name : GoString)
  | setPlatformPolicy (platform : Option PlatformPolicy)

/-- The change that a call makes. An upsert that fails makes none. -/
def Event.change (r : Reader) : Event → Option Change
  | .upsertFromSandbox info =>
    if info.podIP = [] then none
    else (r.policyOf info.networkPolicy).map
      (.upsert (sandboxKey info.nameSpace info.name) info.podIP)
  | .deleteByKey nameSpace name => some (.delete (sandboxKey nameSpace name))
  | .setPlatformPolicy _ => none

def Event.run (r : Reader) (s : Store) : Event → Store
  | .upsertFromSandbox info => s.upsertFromSandbox r info
  | .deleteByKey nameSpace name => s.deleteByKey nameSpace name
  | .setPlatformPolicy platform => s.setPlatformPolicy platform

structure World where
  store : Store
  history : List Change

def World.next (r : Reader) (w : World) (e : Event) : World :=
  { store := e.run r w.store, history := (e.change r).toList ++ w.history }

/-- Each ip that a sandbox holds is served with the policy of that sandbox. -/
def World.Serves (w : World) : Prop :=
  ∀ ip key compiled, Holds w.history ip key compiled →
    w.store.getByIP ip = some (w.store.served compiled ip)

/-- A sandbox that is deleted, or that moves to another ip, leaves an ip that
no other sandbox holds. -/
def World.LeavesOwn (r : Reader) (w : World) (e : Event) : Prop :=
  ∀ c ∈ e.change r, ∀ old ∈ w.store.byKey[c.key]?, c.podIP ≠ some old.podIP →
    ∀ o ∈ holder old.podIP w.history, o.1 = c.key

instance (r : Reader) (w : World) (e : Event) : Decidable (w.LeavesOwn r e) :=
  inferInstanceAs (Decidable (∀ c ∈ e.change r, ∀ old ∈ w.store.byKey[c.key]?, _ → _))

def World.Reached (r : Reader) (ok : World → Event → Prop) : World → Prop :=
  Reach (· = { store := newStore, history := [] }) (fun w e w' => w' = w.next r e) ok

/-! ## What a change does to the two maps -/

structure Change.Done (c : Change) (s s' : Store) : Prop where
  /-- The entries of the other sandboxes are kept. -/
  other : ∀ k, k ≠ c.key → s'.byKey[k]? = s.byKey[k]?
  /-- An upsert writes its entry under the name and under the ip. -/
  wrote : ∀ key ip compiled, c = .upsert key ip compiled → ip ≠ [] ∧
    ∃ e : PolicyEntry, e.compiled = compiled ∧ e.podIP = ip ∧
      s'.byKey[key]? = some e ∧ s'.byIP[ip]? = some e
  erased : c.podIP = none → s'.byKey[c.key]? = none
  /-- The ip that the sandbox leaves is dropped. -/
  dropped : ∀ old ∈ s.byKey[c.key]?, old.podIP ≠ [] → c.podIP ≠ some old.podIP →
    s'.byIP[old.podIP]? = none
  /-- Every other ip is kept. -/
  kept : ∀ ip, c.podIP ≠ some ip → (∀ old ∈ s.byKey[c.key]?, old.podIP ≠ ip) →
    s'.byIP[ip]? = s.byIP[ip]?

lemma Store.dropOld_dropped {podIP : Option GoString}
    {old : PolicyEntry} (h : existing = some old) (hne : old.podIP ≠ [])
    (hip : podIP ≠ some old.podIP) : (s.dropOld existing podIP)[old.podIP]? = none := by
  simp [dropOld, h, hne, hip]

open GoMap

lemma Store.dropOld_kept {podIP : Option GoString} (h : ∀ old ∈ existing, old.podIP ≠ ip) :
    (s.dropOld existing podIP)[ip]? = s.byIP[ip]? := by
  cases existing with
  | none => rfl
  | some e =>
    have hne : e.podIP ≠ ip := h e rfl
    simp only [dropOld]
    split
    · exact get_erase_ne _ hne
    · rfl

lemma Store.upsert_done {info : SandboxInfo} (hip : info.podIP ≠ []) :
    (Change.upsert (sandboxKey info.nameSpace info.name) info.podIP compiled).Done s
      (s.upsert info compiled) := by
  refine ⟨?_, ?_, ?_, ?_, ?_⟩
  · intro k hk
    exact get_insert_ne _ _ (Ne.symm hk)
  · rintro _ _ _ ⟨⟩
    exact ⟨hip, _, rfl, rfl, get_insert_self _ _ _, get_insert_self _ _ _⟩
  · intro hn
    cases hn
  · intro old hold hne hmoved
    have hmoved' : info.podIP ≠ old.podIP := fun he => hmoved (by rw [← he]; rfl)
    simp only [upsert]
    rw [get_insert_ne _ _ hmoved']
    exact dropOld_dropped hold hne hmoved
  · intro ip hip' hkept
    have hother : info.podIP ≠ ip := fun he => hip' (by rw [← he]; rfl)
    simp only [upsert]
    rw [get_insert_ne _ _ hother]
    exact dropOld_kept hkept

lemma Store.deleteByKey_done {nameSpace name : GoString} :
    (Change.delete (sandboxKey nameSpace name)).Done s (s.deleteByKey nameSpace name) := by
  refine ⟨?_, ?_, ?_, ?_, ?_⟩
  · intro k hk
    exact get_erase_ne _ (Ne.symm hk)
  · rintro _ _ _ ⟨⟩
  · intro _
    exact get_erase_self _ _
  · intro old hold hne hmoved
    exact dropOld_dropped hold hne hmoved
  · intro ip _ hkept
    exact dropOld_kept hkept

lemma Event.run_done (r : Reader) (s : Store) (e : Event) :
    (∀ c ∈ e.change r, c.Done s (e.run r s)) ∧
      (e.change r = none → (e.run r s).byIP = s.byIP ∧ (e.run r s).byKey = s.byKey) := by
  cases e with
  | upsertFromSandbox info =>
    by_cases hip : info.podIP = []
    · simp [change, run, Store.upsertFromSandbox, hip]
    cases hp : r.policyOf info.networkPolicy with
    | none => simp [change, run, Store.upsertFromSandbox, hip, hp]
    | some compiled =>
      have hrun : run r s (.upsertFromSandbox info) = s.upsert info compiled := by
        simp [run, Store.upsertFromSandbox, hip, hp]
      simp only [change, if_neg hip, hp, Option.map_some, hrun]
      refine ⟨?_, fun h => by cases h⟩
      rintro _ ⟨⟩
      exact Store.upsert_done hip
  | deleteByKey nameSpace name =>
    refine ⟨?_, fun h => by cases h⟩
    rintro _ ⟨⟩
    exact Store.deleteByKey_done
  | setPlatformPolicy platform =>
    refine ⟨?_, fun _ => ⟨rfl, rfl⟩⟩
    rintro _ ⟨⟩

/-! ## The holders are served -/

structure World.Inv (w : World) : Prop where
  hasIP : ∀ key : GoString, ∀ e ∈ w.store.byKey[key]?, e.podIP ≠ []
  /-- The holder of an ip has one entry, under its name and under the ip. -/
  held : ∀ ip key compiled, holder ip w.history = some (key, compiled) →
    ∃ e : PolicyEntry, e.compiled = compiled ∧ e.podIP = ip ∧
      w.store.byKey[key]? = some e ∧ w.store.byIP[ip]? = some e

lemma World.Inv.serves (h : w.Inv) : w.Serves := by
  intro ip key compiled hold
  obtain ⟨e, rfl, _, _, hip⟩ := h.held ip key compiled (holder_iff.mpr hold)
  simp [Store.getByIP, hip]

lemma World.Inv.change {s' : Store} (h : w.Inv) (hdone : c.Done w.store s')
    (hown : ∀ old ∈ w.store.byKey[c.key]?, c.podIP ≠ some old.podIP →
      ∀ o ∈ holder old.podIP w.history, o.1 = c.key) :
    Inv { store := s', history := c :: w.history } := by
  constructor
  · intro key e he
    by_cases hk : key = c.key
    · subst hk
      cases c with
      | upsert key ip compiled =>
        obtain ⟨hne, e', _, hip, hkey, _⟩ := hdone.wrote key ip compiled rfl
        have heq : e' = e := Option.some.inj (hkey.symm.trans he)
        rw [← heq, hip]
        exact hne
      | delete key =>
        have hnone := hdone.erased rfl
        rw [hnone] at he
        cases he
    · have he' : s'.byKey[key]? = some e := he
      rw [hdone.other key hk] at he'
      exact h.hasIP key e he'
  · intro ip key compiled hold
    rw [holder_iff, holds_cons] at hold
    rcases hold with rfl | ⟨⟨hip, hkey⟩, hold⟩
    · exact (hdone.wrote key ip compiled rfl).2
    have hbefore := holder_iff.mpr hold
    obtain ⟨e, hcompiled, hpod, hk, hi⟩ := h.held ip key compiled hbefore
    refine ⟨e, hcompiled, hpod, ?_, ?_⟩
    · rw [hdone.other key (Ne.symm hkey)]
      exact hk
    · -- the sandbox that changes does not leave this ip: another one holds it
      have hnot : ∀ old ∈ w.store.byKey[c.key]?, old.podIP ≠ ip := by
        rintro old hold' rfl
        exact hkey (hown old hold' hip (key, compiled) hbefore).symm
      rw [hdone.kept ip hip hnot]
      exact hi

lemma World.Inv.next {e : Event} (h : w.Inv) (hown : w.LeavesOwn r e) : (w.next r e).Inv := by
  obtain ⟨hdone, hnone⟩ := Event.run_done r w.store e
  cases hc : e.change r with
  | none =>
    obtain ⟨hip, hkey⟩ := hnone hc
    simp only [World.next, hc]
    refine ⟨?_, ?_⟩
    · simp only [hkey]
      exact h.hasIP
    · simp only [hip, hkey]
      exact h.held
  | some c =>
    have hnext := h.change (hdone c hc) (hown c hc)
    simpa only [World.next, hc, toList_some, singleton_append] using hnext

/-- A store that still serves its holders was left in order by the call. -/
lemma World.Inv.leavesOwn {e : Event} (h : w.Inv)
    (hnext : (w.next r e).Serves) : w.LeavesOwn r e := by
  intro c hc old hold hmoved o ho
  by_contra hne
  have hc' : e.change r = some c := hc
  obtain ⟨key, compiled⟩ := o
  have hstill : Holds (w.next r e).history old.podIP key compiled := by
    simp only [World.next, hc', toList_some, singleton_append]
    rw [holds_cons]
    exact .inr ⟨⟨hmoved, fun he => hne he.symm⟩, holder_iff.mp ho⟩
  have hgot := hnext old.podIP key compiled hstill
  have hgone := ((Event.run_done r w.store e).1 c hc).dropped old hold
    (h.hasIP c.key old hold) hmoved
  simp [World.next, Store.getByIP, hgone] at hgot

/-- As long as each sandbox that is deleted or moves leaves an ip that no other
sandbox holds, each held ip is served with the policy of its holder; and any
other call ends that. -/
theorem holder_policy_is_served {r : Reader} {w : World}
    (h : World.Reached r (World.LeavesOwn r) w) :
    w.Serves ∧ ∀ e, (w.next r e).Serves ↔ w.LeavesOwn r e := by
  have hinv : w.Inv := by
    refine Reach.keeps (P := World.Inv) ?_ (fun w e hw hown => hw.next hown) h
    rintro _ rfl
    constructor
    · intro key e he
      simp [newStore] at he
    · intro ip key compiled hold
      cases hold
  exact ⟨hinv.serves, fun e => ⟨hinv.leavesOwn, fun hown => (hinv.next hown).serves⟩⟩

def blockingPolicy : NetworkPolicySpec :=
  { sandboxID := lit "s1", teamID := lit "t1", mode := .blockAll, egress := none }

/-- A reader that takes every annotation for a policy that blocks everything. -/
def blockingReader : Reader :=
  { texts := { parseCIDR := fun _ => none, ipString := fun _ => [] }
    parseNetworkPolicyFromAnnotation := fun _ => some (some blockingPolicy) }

def podInfo (name podIP : GoString) : SandboxInfo :=
  { nameSpace := lit "team", name, uid := name, resourceVersion := lit "1", podIP,
    nodeName := lit "n1", sandboxID := name, teamID := lit "t1", networkPolicy := lit "policy",
    networkPolicyHash := lit "h", networkAppliedHash := [] }

theorem replaced_pod_is_served :
    (([.upsertFromSandbox (podInfo (lit "a") (lit "10.0.0.7")), .deleteByKey (lit "team") (lit "a"),
        .upsertFromSandbox (podInfo (lit "b") (lit "10.0.0.7"))] : List Event).foldl
      (World.next blockingReader) { store := newStore, history := [] }).Serves :=
  (holder_policy_is_served (Reach.run (.start (by rfl)) _ (by decide +kernel))).1

/-- The delete of the first pod comes after the second one got its ip. The
policy of the second pod, which blocks everything, is lost, and the proxy
allows everything to it. -/
theorem late_delete_opens_the_network :
    ∃ w, World.Reached blockingReader (fun _ _ => True) w ∧ ¬ w.Serves ∧
      Holds w.history (lit "10.0.0.7") (lit "team/b")
        { sandboxID := lit "s1", teamID := lit "t1", mode := .blockAll } ∧
      ∀ texts destIP destPort transport host appProtocol,
        allowEgressDestination texts (w.store.getByIP (lit "10.0.0.7")) destIP destPort
          transport host
          appProtocol = true := by
  let es : List Event := [.upsertFromSandbox (podInfo (lit "a") (lit "10.0.0.7")),
    .upsertFromSandbox (podInfo (lit "b") (lit "10.0.0.7")), .deleteByKey (lit "team") (lit "a")]
  let w := es.foldl (World.next blockingReader) { store := newStore, history := [] }
  have hholds : Holds w.history (lit "10.0.0.7") (lit "team/b")
      { sandboxID := lit "s1", teamID := lit "t1", mode := .blockAll } :=
    holder_iff.mp (by decide +kernel)
  have hnil : w.store.getByIP (lit "10.0.0.7") = none := by decide +kernel
  refine ⟨w, Reach.run (.start (by rfl)) es (by decide +kernel), ?_, hholds, ?_⟩
  · intro hserves
    have hgot := hserves _ _ _ hholds
    rw [hnil] at hgot
    cases hgot
  · intros
    rw [hnil]
    rfl

end sandbox0.netd.policy
