-- The cycles of the multi cluster reconciler. Each cycle lists the templates of the store
-- once, syncs them to its clusters, and then removes from each cluster what its list does
-- not have. Cycles of the ticker and of `TriggerReconcile` run side by side, and the law
-- says that no template is removed that was stored before the cluster was looked at.
import Sandbox0.GoCall
import Sandbox0.NamingNames

namespace sandbox0.reconciler

open List
open naming (Lowering TemplateRef)

/-! ## The state -/

structure Stored where
  template : TemplateRef
  since : Nat

inductive Stage where
  | listTemplates
  | reconcileTemplates (todo : List TemplateRef)
  /-- The loop over the allocations of one template. -/
  | syncClusters (name : GoString) (targets : List GoString) (todo : List TemplateRef)
  | cleanup (todo : List GoString)
  /-- The loop over the stats of one cluster. -/
  | deleteOrphans (cluster : GoString) (fetchedAt : Nat) (stats todo : List GoString)
  | done

/-- A call of `reconcile` that has its enabled clusters. No step reads `listedAt`. -/
structure Cycle where
  clusters : List GoString
  validTemplates : List GoString
  listedAt : Nat
  stage : Stage

/-- A template left a cluster: when the cycle fetched the stats, and what the store had
at this moment. -/
structure Deletion where
  cluster : GoString
  name : GoString
  fetchedAt : Nat
  store : List Stored

structure World where
  clock : Nat
  store : List Stored
  /-- The templates of each cluster. -/
  live : List (GoString × GoString)
  /-- What was ever in a cluster. The stats come from a cache and may lag behind. -/
  known : List (GoString × GoString)
  cycles : List Cycle
  deletions : List Deletion

/-- How a call to a cluster ends: done, done with its answer lost, or not done. -/
inductive Answer where
  | ok
  | lost
  | refused
  deriving DecidableEq

inductive Event where
  | addTemplate (template : TemplateRef)
  | removeTemplate (template : TemplateRef)
  /-- The ticker or `TriggerReconcile`, with the answer of `ListEnabledClusters`. -/
  | reconcile (clusters : List GoString)
  | listTemplates (i : Nat) (ok : Bool)
  /-- The clusters of `computeAllocations` for the next template. -/
  | reconcileTemplate (i : Nat) (targets : List GoString)
  | createOrUpdateTemplate (i : Nat) (answer : Answer)
  | getTemplateStats (i : Nat) (stats : Option (List GoString))
  | deleteTemplate (i : Nat) (answer : Answer)

/-! ## The steps -/

variable (L : Lowering)

def World.setCycle (w : World) (i : Nat) (cycle : Cycle) : World :=
  { w with cycles := w.cycles.set i cycle }

def World.goOn (w : World) (i : Nat) (cycle : Cycle) (stage : Stage) : World :=
  w.setCycle i { cycle with stage }

/-- `CreateOrUpdateTemplate`. -/
def World.sync (w : World) (cluster name : GoString) (answer : Answer) : World :=
  if answer = .refused then w
  else { w with live := (cluster, name) :: w.live, known := (cluster, name) :: w.known }

/-- `DeleteTemplate`, of a template that is there. -/
def World.remove (w : World) (cluster name : GoString) (fetchedAt : Nat)
    (answer : Answer) : World :=
  if answer = .refused ∨ (cluster, name) ∉ w.live then w
  else { w with live := w.live.filter (· ≠ (cluster, name)),
                deletions := ⟨cluster, name, fetchedAt, w.store⟩ :: w.deletions }

/-- The names of the stored templates, and the templates. -/
def World.list (w : World) (i : Nat) (cycle : Cycle) : World :=
  let templates := w.store.map (·.template)
  w.setCycle i { cycle with
    validTemplates := templates.map (·.name L), listedAt := w.clock,
    stage := .reconcileTemplates templates }

/-- A call of the cycle returns. An answer that does not fit its stage changes nothing. -/
def World.advance (w : World) (i : Nat) (cycle : Cycle) (e : Event) : World :=
  match e, cycle.stage with
  | .listTemplates _ ok, .listTemplates => if ok then w.list L i cycle else w.goOn i cycle .done
  | .reconcileTemplate _ _, .reconcileTemplates [] => w.goOn i cycle (.cleanup cycle.clusters)
  | .reconcileTemplate _ targets, .reconcileTemplates (template :: todo) =>
    -- `findCluster` leaves out a cluster that is not enabled
    w.goOn i cycle (.syncClusters (template.name L) (targets.filter (· ∈ cycle.clusters)) todo)
  | .createOrUpdateTemplate _ _, .syncClusters _ [] todo =>
    w.goOn i cycle (.reconcileTemplates todo)
  | .createOrUpdateTemplate _ answer, .syncClusters name (cluster :: targets) todo =>
    (w.sync cluster name answer).goOn i cycle (.syncClusters name targets todo)
  | .getTemplateStats _ _, .cleanup [] => w.goOn i cycle .done
  | .getTemplateStats _ none, .cleanup (_ :: todo) => w.goOn i cycle (.cleanup todo)
  | .getTemplateStats _ (some stats), .cleanup (cluster :: todo) =>
    if ∀ name ∈ stats, (cluster, name) ∈ w.known then
      w.goOn i cycle (.deleteOrphans cluster w.clock stats todo)
    else w
  | .deleteTemplate _ _, .deleteOrphans _ _ [] todo => w.goOn i cycle (.cleanup todo)
  | .deleteTemplate _ answer, .deleteOrphans cluster fetchedAt (name :: stats) todo =>
    (if name ∈ cycle.validTemplates then w else w.remove cluster name fetchedAt answer).goOn i cycle
      (.deleteOrphans cluster fetchedAt stats todo)
  | _, _ => w

def Event.cycle : Event → Option Nat
  | .addTemplate _ | .removeTemplate _ | .reconcile _ => none
  | .listTemplates i _ | .reconcileTemplate i _ | .createOrUpdateTemplate i _
  | .getTemplateStats i _
  | .deleteTemplate i _ => some i

def World.act (w : World) (e : Event) : World :=
  match e with
  | .addTemplate template =>
    if ∃ s ∈ w.store, s.template = template then w
    else { w with store := ⟨template, w.clock⟩ :: w.store }
  | .removeTemplate template => { w with store := w.store.filter (·.template ≠ template) }
  | .reconcile clusters =>
    -- without enabled clusters the cycle ends at once
    if clusters = [] then w
    else { w with cycles := w.cycles ++ [⟨clusters, [], 0, .listTemplates⟩] }
  | e =>
    match e.cycle with
    | none => w
    | some i =>
      match w.cycles[i]? with
      | none => w
      | some cycle => w.advance L i cycle e

/-- One step, and the clock goes on. -/
def World.next (w : World) (e : Event) : World :=
  let acted := w.act L e
  { acted with clock := acted.clock + 1 }

/-! ## The condition -/

/-- When a cycle fetches the stats of a cluster, every stored template that the stats name
has been in the store since before the cycle listed the templates. -/
def World.Careful (w : World) (e : Event) : Prop :=
  match e with
  | .getTemplateStats i (some stats) =>
    ∀ cycle ∈ w.cycles[i]?, ∀ s ∈ w.store, s.template.name L ∈ stats → s.since < cycle.listedAt
  | _ => True

instance (w : World) (e : Event) : Decidable (w.Careful L e) := by
  unfold World.Careful
  split <;> infer_instance

/-- Any store and any clusters, before the first cycle. -/
structure World.Started (w : World) : Prop where
  cycles : w.cycles = []
  deletions : w.deletions = []

def World.Reached : World → Prop :=
  Reach World.Started (fun w e w' => w' = w.next L e) (World.Careful L)

/-! ## The invariant -/

/-- No stored template of this name is older than the time. -/
def YoungSince (store : List Stored) (name : GoString) (time : Nat) : Prop :=
  ∀ s ∈ store, s.template.name L = name → time ≤ s.since

/-- A cycle has the names of all that was stored when it listed the templates and still is,
and what it is about to remove is not older than its view of the cluster. -/
structure Cycle.Sound (clock : Nat) (store : List Stored) (cycle : Cycle) : Prop where
  listed : cycle.listedAt ≤ clock
  valid : ∀ s ∈ store, s.since < cycle.listedAt → s.template.name L ∈ cycle.validTemplates
  young : ∀ cluster fetchedAt stats todo,
    cycle.stage = .deleteOrphans cluster fetchedAt stats todo →
    fetchedAt ≤ clock ∧
      ∀ name ∈ stats, name ∉ cycle.validTemplates → YoungSince L store name fetchedAt

structure World.Inv (w : World) : Prop where
  cycles : ∀ cycle ∈ w.cycles, cycle.Sound L w.clock w.store
  deletions : ∀ d ∈ w.deletions, YoungSince L d.store d.name d.fetchedAt

variable {L} {w : World} {cycle : Cycle} {clock clock' : Nat} {store store' : List Stored}
  {cluster : GoString}

/-- What is new in the store is as young as the clock. -/
lemma Cycle.Sound.mono (h : cycle.Sound L clock store) (hclock : clock ≤ clock')
    (hstore : ∀ s ∈ store', s ∈ store ∨ clock ≤ s.since) : cycle.Sound L clock' store' := by
  refine ⟨h.listed.trans hclock, fun s hs hsince => ?_,
    fun cluster fetchedAt stats todo hstage => ?_⟩
  · rcases hstore s hs with hs | hs
    · exact h.valid s hs hsince
    · exact absurd (hsince.trans_le h.listed) (Nat.not_lt.mpr hs)
  obtain ⟨htime, hyoung⟩ := h.young cluster fetchedAt stats todo hstage
  refine ⟨htime.trans hclock, fun name hname hvalid s hs hs_name => ?_⟩
  rcases hstore s hs with hs | hs
  · exact hyoung name hname hvalid s hs hs_name
  · exact htime.trans hs

/-- A stage in which nothing is removed. -/
lemma Cycle.Sound.goOn (h : cycle.Sound L clock store) {stage : Stage}
    (hstage : ∀ cluster fetchedAt stats todo,
      stage ≠ .deleteOrphans cluster fetchedAt stats todo) :
    ({ cycle with stage } : Cycle).Sound L clock store :=
  ⟨h.listed, h.valid, fun cluster fetchedAt stats todo heq =>
    absurd heq (hstage cluster fetchedAt stats todo)⟩

lemma World.Inv.setCycle (h : w.Inv L) (i : Nat) (hcycle : cycle.Sound L w.clock w.store) :
    (w.setCycle i cycle).Inv L := by
  refine ⟨fun c hc => ?_, h.deletions⟩
  rcases mem_or_eq_of_mem_set hc with hc | rfl
  · exact h.cycles c hc
  · exact hcycle

lemma World.Inv.goOn (h : w.Inv L) (i : Nat) (hcycle : cycle.Sound L w.clock w.store)
    {stage : Stage}
    (hstage : ∀ cluster fetchedAt stats todo, stage ≠ .deleteOrphans cluster fetchedAt stats todo) :
    (w.goOn i cycle stage).Inv L :=
  h.setCycle i (hcycle.goOn hstage)

lemma World.Inv.sync (h : w.Inv L) (i : Nat) (hcycle : cycle.Sound L w.clock w.store)
    (cluster name : GoString) (answer : Answer) (targets : List GoString)
    (todo : List TemplateRef) :
    ((w.sync cluster name answer).goOn i cycle (.syncClusters name targets todo)).Inv L := by
  unfold World.sync
  split
  · exact h.goOn i hcycle nofun
  · have hsynced : World.Inv L
        { w with live := (cluster, name) :: w.live, known := (cluster, name) :: w.known } :=
      ⟨h.cycles, h.deletions⟩
    exact hsynced.goOn i hcycle nofun

lemma World.Inv.remove (h : w.Inv L) {name : GoString} {fetchedAt : Nat} (answer : Answer)
    (hyoung : YoungSince L w.store name fetchedAt) :
    (w.remove cluster name fetchedAt answer).Inv L := by
  unfold World.remove
  split
  · exact h
  · exact ⟨h.cycles, forall_mem_cons.mpr ⟨hyoung, h.deletions⟩⟩

lemma World.remove_frame (w : World) (cluster name : GoString) (fetchedAt : Nat) (answer : Answer) :
    (w.remove cluster name fetchedAt answer).clock = w.clock ∧
      (w.remove cluster name fetchedAt answer).store = w.store := by
  unfold World.remove
  split <;> exact ⟨rfl, rfl⟩

lemma Cycle.Sound.tail {name : GoString} {fetchedAt : Nat} {stats todo : List GoString}
    (h : cycle.Sound L clock store)
    (hstage : cycle.stage = .deleteOrphans cluster fetchedAt (name :: stats) todo) :
    ({ cycle with stage := .deleteOrphans cluster fetchedAt stats todo } : Cycle).Sound L clock
      store := by
  obtain ⟨htime, hyoung⟩ := h.young _ _ _ _ hstage
  refine ⟨h.listed, h.valid, fun cluster' fetchedAt' stats' todo' hstage' => ?_⟩
  obtain ⟨rfl, rfl, rfl, rfl⟩ := Stage.deleteOrphans.inj hstage'
  exact ⟨htime, fun name hname => hyoung name (mem_cons_of_mem _ hname)⟩

/-- What the stats name and the store has is in the list of the cycle. -/
lemma Cycle.Sound.fetch (hsound : cycle.Sound L clock store) {stats todo : List GoString}
    (h : ∀ s ∈ store, s.template.name L ∈ stats → s.since < cycle.listedAt) :
    ({ cycle with stage := .deleteOrphans cluster clock stats todo } : Cycle).Sound L clock
      store := by
  refine ⟨hsound.listed, hsound.valid, fun cluster' fetchedAt' stats' todo' hstage => ?_⟩
  obtain ⟨rfl, rfl, rfl, rfl⟩ := Stage.deleteOrphans.inj hstage
  refine ⟨le_rfl, fun name hname hvalid s hs hs_name => ?_⟩
  subst hs_name
  exact absurd (hsound.valid s hs (h s hs hname)) hvalid

/-- A cycle that lists the templates now has the names of all that is stored. -/
lemma World.Inv.list (h : w.Inv L) (i : Nat) : (w.list L i cycle).Inv L := by
  refine h.setCycle i ⟨le_rfl, fun s hs _ => ?_, nofun⟩
  exact mem_map.mpr ⟨s.template, mem_map.mpr ⟨s, hs, rfl⟩, rfl⟩

lemma World.Inv.advance (h : w.Inv L) {i : Nat} {e : Event} (hcycle : w.cycles[i]? = some cycle)
    (he : e.cycle = some i) (hcareful : w.Careful L e) : (w.advance L i cycle e).Inv L := by
  have hsound := h.cycles cycle (mem_of_getElem? hcycle)
  unfold World.advance
  split
  · split
    · exact h.list i
    · exact h.goOn i hsound nofun
  · exact h.goOn i hsound nofun
  · exact h.goOn i hsound nofun
  · exact h.goOn i hsound nofun
  · exact h.sync i hsound ..
  · exact h.goOn i hsound nofun
  · exact h.goOn i hsound nofun
  · split
    · obtain rfl := Option.some.inj he
      exact h.setCycle _ (hsound.fetch (hcareful cycle hcycle))
    · exact h
  · exact h.goOn i hsound nofun
  · rename_i answer cluster fetchedAt name stats todo hstage
    have htail := hsound.tail hstage
    split
    · exact h.setCycle i htail
    rename_i hvalid
    have hyoung := (hsound.young _ _ _ _ hstage).2 name mem_cons_self hvalid
    obtain ⟨hclock, hstore⟩ := w.remove_frame cluster name fetchedAt answer
    refine (h.remove answer hyoung).setCycle i ?_
    rw [hclock, hstore]
    exact htail
  · exact h

lemma World.Inv.act (h : w.Inv L) {e : Event} (hcareful : w.Careful L e) : (w.act L e).Inv L := by
  unfold World.act
  split
  · split
    · exact h
    · refine ⟨fun c hc => (h.cycles c hc).mono le_rfl fun s hs => ?_, h.deletions⟩
      rcases mem_cons.mp hs with rfl | hs
      · exact .inr le_rfl
      · exact .inl hs
  · refine ⟨fun c hc => (h.cycles c hc).mono le_rfl fun s hs => ?_, h.deletions⟩
    exact .inl (mem_of_mem_filter hs)
  · split
    · exact h
    · refine ⟨fun c hc => ?_, h.deletions⟩
      rcases mem_append.mp hc with hc | hc
      · exact h.cycles c hc
      · obtain rfl := mem_singleton.mp hc
        exact ⟨Nat.zero_le _, nofun, nofun⟩
  · split
    · exact h
    · rename_i i he
      split
      · exact h
      · rename_i cycle hcycle
        exact h.advance hcycle he hcareful

lemma World.Inv.next (h : w.Inv L) {e : Event} (hcareful : w.Careful L e) : (w.next L e).Inv L := by
  have hact := h.act hcareful
  exact ⟨fun c hc => (hact.cycles c hc).mono (Nat.le_succ _) fun _ hs => .inl hs, hact.deletions⟩

lemma World.Started.inv (h : w.Started) : w.Inv L := by
  refine ⟨fun c hc => ?_, fun d hd => ?_⟩
  · rw [h.cycles] at hc
    exact absurd hc not_mem_nil
  · rw [h.deletions] at hd
    exact absurd hd not_mem_nil

lemma World.Reached.inv (h : World.Reached L w) : w.Inv L := by
  exact Reach.keeps (fun w hw => hw.inv) (fun w e hw hcareful => hw.next hcareful) h

/-! ## The law -/

def sampleWorld : World where
  clock := 1
  store := [⟨⟨lit "public", [], lit "python"⟩, 0⟩]
  live := [(lit "c1", lit "python"), (lit "c1", lit "old")]
  known := [(lit "c1", lit "python"), (lit "c1", lit "old")]
  cycles := []
  deletions := []

/-- A cycle that syncs the one and removes the other, while another one starts. -/
def removeOrphan : List Event :=
  [.reconcile [lit "c1"], .listTemplates 0 true, .reconcileTemplate 0 [lit "c1"],
    .reconcile [lit "c1"],
    .createOrUpdateTemplate 0 .ok, .createOrUpdateTemplate 0 .ok, .reconcileTemplate 0 [],
    .listTemplates 1 true, .getTemplateStats 0 (some [lit "python", lit "old"]),
    .deleteTemplate 0 .ok, .deleteTemplate 0 .ok]

/-- The first cycle has listed the templates before "node" is created. The second, which the
creation triggers, puts it into the cluster, and the first then takes it for an orphan. -/
def listTooEarly : List Event :=
  [.reconcile [lit "c1"], .listTemplates 0 true, .addTemplate ⟨lit "public", [], lit "node"⟩,
    .reconcile [lit "c1"], .listTemplates 1 true, .reconcileTemplate 1 [lit "c1"],
    .createOrUpdateTemplate 1 .ok, .reconcileTemplate 0 [], .createOrUpdateTemplate 0 .ok,
    .reconcileTemplate 0 [], .getTemplateStats 0 (some [lit "node"]), .deleteTemplate 0 .ok]

end sandbox0.reconciler
