-- The split of a template's pool over the clusters (`pkg/template/allocator`): each
-- cluster gets its share by weight, the last one what is left, and each is cut to the
-- capacity of its cluster. Weights and sizes are not negative, products of floats and
-- sums of int32 are exact, and a difference below 0 is set to 0, as the loop does.
import Sandbox0.GoMap
import Sandbox0.GoString

namespace sandbox0.template.allocator

open List

structure ClusterSummary where
  (nodeCount totalNodeCount sandboxNodeCount totalPodCount : Int)

structure Cluster where
  clusterID : GoString
  weight : Nat
  enabled : Bool

/-- A template with the sizes of `Spec.Pool`. -/
structure Template where
  (templateID scope teamID : GoString)
  (minIdle maxIdle : Nat)

structure TemplateAllocation where
  (templateID scope teamID clusterID : GoString)
  (minIdle maxIdle : Nat)
  syncStatus : GoString

def ClusterSummary.sandboxCapableNodeCount (s : ClusterSummary) : Int :=
  if s.totalNodeCount > 0 ∨ s.sandboxNodeCount > 0 then s.sandboxNodeCount else s.nodeCount

def availableCapacity (podsPerNode : Int) (summaries : GoMap GoString ClusterSummary)
    (clusterID : GoString) : Option Nat :=
  (summaries[clusterID]?).map fun summary =>
    (summary.sandboxCapableNodeCount * podsPerNode - summary.totalPodCount).toNat

section

variable (capacity : GoString → Option Nat) (tpl : Template) (totalWeight : Nat)

/-- A size, cut to the capacity of a cluster that has a summary. -/
def cut (cluster : Cluster) (idle : Nat) : Nat :=
  ((capacity cluster.clusterID).map (min idle)).getD idle

/-- A turn of the loop, from its first sizes. The flag says that there is a `clampReason`. -/
def allocate (cluster : Cluster) (minIdle maxIdle : Nat) : TemplateAllocation × Bool :=
  let maxIdle := max maxIdle minIdle
  let clampedMin := cut capacity cluster minIdle
  (⟨tpl.templateID, tpl.scope, tpl.teamID, cluster.clusterID, clampedMin,
      max (cut capacity cluster maxIdle) clampedMin, lit "pending"⟩,
    (capacity cluster.clusterID).any fun available => minIdle > available ∨ maxIdle > available)

/-- `int32(float64(idle) * weightRatio)`. -/
def share (idle : Nat) (cluster : Cluster) : Nat := idle * cluster.weight / totalWeight

def allocateShare (cluster : Cluster) : TemplateAllocation × Bool :=
  allocate capacity tpl cluster (share totalWeight tpl.minIdle cluster)
    (share totalWeight tpl.maxIdle cluster)

def allocateFrom (allocatedMinIdle allocatedMaxIdle : Nat) :
    List Cluster → List (TemplateAllocation × Bool)
  | [] => []
  | cluster :: rest =>
    let turn :=
      if rest = [] then
        allocate capacity tpl cluster (tpl.minIdle - allocatedMinIdle)
          (tpl.maxIdle - allocatedMaxIdle)
      else allocateShare capacity tpl totalWeight cluster
    turn :: allocateFrom (allocatedMinIdle + turn.1.minIdle)
      (allocatedMaxIdle + turn.1.maxIdle) rest

/-- `ComputeAllocations`, with the flags of the clusters that were clamped. -/
def computeAllocations (clusters : List Cluster) : List (TemplateAllocation × Bool) :=
  let enabledClusters := clusters.filter (·.enabled)
  let totalWeight := (enabledClusters.map (·.weight)).sum
  if totalWeight = 0 then [] else allocateFrom capacity tpl totalWeight 0 0 enabledClusters

/-! ## The budget -/

structure RespectsBudget (clusters : List Cluster)
    (out : List (TemplateAllocation × Bool)) : Prop where
  one_each : out.map (·.1.clusterID) = (clusters.filter (·.enabled)).map (·.clusterID)
  within : ∀ a ∈ out, a.1.minIdle ≤ a.1.maxIdle ∧
    ∀ available ∈ capacity a.1.clusterID, a.1.maxIdle ≤ available
  minima : (out.map (·.1.minIdle)).sum ≤ tpl.minIdle
  maxima : (out.map (·.1.maxIdle)).sum ≤ tpl.maxIdle
  unclamped : (∀ a ∈ out, a.2 = false) →
    (out.map (·.1.minIdle)).sum = tpl.minIdle ∧ (out.map (·.1.maxIdle)).sum = tpl.maxIdle

/-- What the clusters before the last one get of `idle`. -/
def shared (init : List Cluster) (idle : Nat) : Nat :=
  (init.map fun c => cut capacity c (share totalWeight idle c)).sum

/-- The maxima leave as much as the minima for the last cluster, or as much as it can hold. -/
def RoomForLast (init : List Cluster) (last : Cluster) : Prop :=
  tpl.minIdle - shared capacity totalWeight init tpl.minIdle ≤
      tpl.maxIdle - shared capacity totalWeight init tpl.maxIdle ∨
    ∃ available ∈ capacity last.clusterID,
      available ≤ tpl.maxIdle - shared capacity totalWeight init tpl.maxIdle

end

variable {capacity : GoString → Option Nat} {tpl : Template} {totalWeight : Nat}
    {init : List Cluster}
  {last c : Cluster}

section

variable {m n : Nat}

lemma cut_mono (h : m ≤ n) : cut capacity c m ≤ cut capacity c n := by
  unfold cut
  cases capacity c.clusterID <;> grind

lemma cut_le : cut capacity c m ≤ m := by
  unfold cut
  cases capacity c.clusterID <;> simp

lemma allocate_within :
    let a := (allocate capacity tpl c m n).1
    a.minIdle ≤ a.maxIdle ∧ ∀ available ∈ capacity a.clusterID, a.maxIdle ≤ available := by
  refine ⟨le_max_right _ _, fun available h => ?_⟩
  have h : capacity c.clusterID = some available := h
  simp [allocate, cut, h]

lemma allocate_maxIdle_le_iff : (allocate capacity tpl c m n).1.maxIdle ≤ n ↔
      m ≤ n ∨ ∃ available ∈ capacity c.clusterID, available ≤ n := by
  simp only [allocate, cut]
  cases capacity c.clusterID <;> simp

lemma allocate_unclamped (h : (allocate capacity tpl c m n).2 = false) :
    (allocate capacity tpl c m n).1.minIdle = m ∧
      (allocate capacity tpl c m n).1.maxIdle = max n m := by
  revert h
  simp only [allocate, cut]
  cases capacity c.clusterID <;> simp

end

lemma allocateShare_maxIdle (h : tpl.minIdle ≤ tpl.maxIdle) :
    (allocateShare capacity tpl totalWeight c).1.maxIdle =
      cut capacity c (share totalWeight tpl.maxIdle c) := by
  have hle : share totalWeight tpl.minIdle c ≤ share totalWeight tpl.maxIdle c :=
    Nat.div_le_div_right (Nat.mul_le_mul_right _ h)
  simp only [allocateShare, allocate, max_eq_left hle]
  exact max_eq_left (cut_mono hle)

/-- Shares are rounded down. -/
lemma shared_le (idle : Nat) :
    shared capacity totalWeight init idle ≤ idle * (init.map (·.weight)).sum / totalWeight := by
  induction init with
  | nil => simp [shared]
  | cons c init ih =>
    calc
      _ ≤ idle * c.weight / totalWeight + idle * (init.map (·.weight)).sum / totalWeight :=
        Nat.add_le_add cut_le ih
      _ ≤ (idle * c.weight + idle * (init.map (·.weight)).sum) / totalWeight :=
        Nat.div_add_div_le_add_div
      _ = _ := by rw [← Nat.mul_add, map_cons, sum_cons]

lemma allocateFrom_append (h : tpl.minIdle ≤ tpl.maxIdle) (a b : Nat) :
    allocateFrom capacity tpl totalWeight a b (init ++ [last]) =
      init.map (allocateShare capacity tpl totalWeight) ++
      [allocate capacity tpl last (tpl.minIdle - (a + shared capacity totalWeight init tpl.minIdle))
        (tpl.maxIdle - (b + shared capacity totalWeight init tpl.maxIdle))] := by
  induction init generalizing a b with
  | nil => simp [allocateFrom, shared]
  | cons c init ih =>
    have hne : init ++ [last] ≠ [] := by simp
    simp only [cons_append, allocateFrom, if_neg hne, ih, allocateShare_maxIdle h, add_assoc]
    rfl

lemma sum_turns (f : TemplateAllocation × Bool → Nat) (turn : Cluster → TemplateAllocation × Bool)
    (final : TemplateAllocation × Bool) :
    ((init.map turn ++ [final]).map f).sum = (init.map fun c => f (turn c)).sum + f final := by
  simp [Function.comp_def]

/-- The budget is respected exactly when the last cluster's minimum fits in what the maxima of the
others leave, or the cluster cannot hold more than that. -/
theorem allocations_respect_the_budget_iff (podsPerNode : Int)
    (summaries : GoMap GoString ClusterSummary) (tpl : Template) (clusters : List Cluster)
    (htotal : 0 < ((clusters.filter (·.enabled)).map (·.weight)).sum)
    (h : tpl.minIdle ≤ tpl.maxIdle) (hlast : clusters.filter (·.enabled) = init ++ [last]) :
    let capacity := availableCapacity podsPerNode summaries
    RespectsBudget capacity tpl clusters (computeAllocations capacity tpl clusters) ↔
      RoomForLast capacity tpl ((init ++ [last]).map (·.weight)).sum init last := by
  intro capacity
  rw [hlast] at htotal
  have hcompute : computeAllocations capacity tpl clusters =
      allocateFrom capacity tpl ((init ++ [last]).map (·.weight)).sum 0 0 (init ++ [last]) := by
    simp only [computeAllocations, hlast]
    rw [if_neg htotal.ne']
  rw [hcompute, allocateFrom_append h, zero_add, zero_add]
  set W := ((init ++ [last]).map (·.weight)).sum with hW
  have hshared (idle : Nat) : shared capacity W init idle ≤ idle := by
    refine (shared_le idle).trans (Nat.div_le_of_le_mul ?_)
    rw [Nat.mul_comm W]
    exact Nat.mul_le_mul_left _ (by simp [hW])
  have hmin := hshared tpl.minIdle
  have hmax := hshared tpl.maxIdle
  have hminima : (init.map fun c => (allocateShare capacity tpl W c).1.minIdle).sum =
      shared capacity W init tpl.minIdle := rfl
  have hmaxima : (init.map fun c => (allocateShare capacity tpl W c).1.maxIdle).sum =
      shared capacity W init tpl.maxIdle := by
    simp only [allocateShare_maxIdle h, shared]
  rw [RoomForLast, ← @allocate_maxIdle_le_iff capacity tpl]
  generalize shared capacity W init tpl.minIdle = s at *
  generalize shared capacity W init tpl.maxIdle = s' at *
  constructor
  · intro hbudget
    have hle := hbudget.maxima
    rw [sum_turns, hmaxima] at hle
    omega
  · intro hroom
    refine ⟨by simp [hlast, allocateShare, allocate], ?_, ?_, ?_, fun hnone => ?_⟩
    · simp only [mem_append, mem_map, mem_singleton]
      rintro a (⟨c, -, rfl⟩ | rfl)
      · exact allocate_within
      · exact allocate_within
    · have hcut : (allocate capacity tpl last (tpl.minIdle - s) (tpl.maxIdle - s')).1.minIdle ≤ _ :=
        cut_le
      rw [sum_turns, hminima]
      omega
    · rw [sum_turns, hmaxima]
      omega
    · obtain ⟨hfirst, hsecond⟩ :=
        allocate_unclamped (hnone _ (mem_append_right _ (mem_singleton_self _)))
      rw [sum_turns, sum_turns, hminima, hmaxima]
      omega

def sampleTemplate (minIdle maxIdle : Nat) : Template :=
  ⟨lit "t", lit "public", [], minIdle, maxIdle⟩

/-- Two clusters with 7/16 of the pool each. -/
def sampleInit : List Cluster := [⟨lit "a", 7, true⟩, ⟨lit "b", 7, true⟩]

def sampleLast : Cluster := ⟨lit "c", 2, true⟩

theorem allocations_respect_a_budget_of_eight :
    let capacity := availableCapacity 10 ∅
    RespectsBudget capacity (sampleTemplate 8 8) (sampleInit ++ [sampleLast])
      (computeAllocations capacity (sampleTemplate 8 8) (sampleInit ++ [sampleLast])) :=
  (@allocations_respect_the_budget_iff sampleInit sampleLast 10 ∅ (sampleTemplate 8 8) _ (by decide)
    le_rfl rfl).mpr (.inl (by decide))

/-- The maxima 1, 1 and 2 are more than 3. -/
theorem allocations_exceed_the_budget :
    let capacity := availableCapacity 10 ∅
    ¬ RespectsBudget capacity (sampleTemplate 2 3) (sampleInit ++ [sampleLast])
      (computeAllocations capacity (sampleTemplate 2 3) (sampleInit ++ [sampleLast])) := by
  intro capacity h
  have hmaxima := h.maxima
  revert hmaxima
  decide

end sandbox0.template.allocator
