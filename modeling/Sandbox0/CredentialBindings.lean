-- The credential bindings of an idle pod that several claims of one team pick at
-- once (`claimIdlePod` and `syncCredentialBindings` of `manager/pkg/service`). Each
-- claim writes its bindings before the pod is won, and the claims that lose it put
-- back what they read.
import Sandbox0.GoCall

namespace sandbox0.bindings

open List

/-! ## Claims of one pod -/

/-- Where a claim stands, with the bindings that it read. -/
inductive Stage (β : Type) where
  | picked
  | read (previous : List β)
  | written (previous : List β)
  /-- The update has failed, and the rollback is left. -/
  | lost (previous : List β)
  | returned

variable {β : Type}

def Stage.previous : Stage β → Option (List β)
  | .read previous | .written previous | .lost previous => some previous
  | _ => none

/-- The claim has written, and has neither won nor returned. -/
def Stage.active : Stage β → Bool
  | .written _ | .lost _ => true
  | _ => false

structure Claim (β : Type) where
  stage : Stage β := .picked
  /-- Whose bindings the claim has read. -/
  seen : Option Nat := none

/-- The stored bindings of the team and the pod, the claims, and the one whose
update of the pod has succeeded. `standing` lists the claims whose write has not been
rolled back, the latest first. -/
structure World (β : Type) where
  stored : List β := []
  claims : Nat → Claim β := fun _ => {}
  winner : Option Nat := none
  standing : List Nat := []

/-- A step of the claim `n`; `ok` says whether the call of the step succeeds. -/
inductive Event where
  | getBindings (n : Nat) (ok : Bool)
  | write (n : Nat) (ok : Bool)
  | updatePod (n : Nat) (ok : Bool)
  | rollback (n : Nat) (ok : Bool)

namespace World

def set (w : World β) (n : Nat) (claim : Claim β) : World β :=
  { w with claims := Function.update w.claims n claim }

/-- The steps of `syncCredentialBindings` and `claimIdlePod`, for requests with the
bindings `want`. A pod that is won is no longer at the version that another claim has. -/
def next (want : Nat → List β) (w : World β) : Event → World β
  | .getBindings n ok =>
    match w.claims n with
    | ⟨.picked, _⟩ => w.set n (if ok then ⟨.read w.stored, w.standing.head?⟩ else ⟨.returned, none⟩)
    | _ => w
  | .write n ok =>
    match w.claims n with
    | ⟨.read previous, seen⟩ =>
      if want n = [] ∧ previous = [] then
        { w.set n ⟨.written previous, seen⟩ with standing := n :: w.standing }
      else if ok then
        { w.set n ⟨.written previous, seen⟩ with stored := want n, standing := n :: w.standing }
      else w.set n ⟨.returned, seen⟩
    | _ => w
  | .updatePod n ok =>
    match w.claims n with
    | ⟨.written previous, seen⟩ =>
      if ok ∧ w.winner = none then { w.set n ⟨.returned, seen⟩ with winner := some n }
      else w.set n ⟨.lost previous, seen⟩
    | _ => w
  | .rollback n ok =>
    match w.claims n with
    | ⟨.lost previous, seen⟩ =>
      if ok then
        { w.set n ⟨.returned, seen⟩ with stored := previous, standing := w.standing.erase n }
      else w.set n ⟨.returned, seen⟩
    | _ => w

/-- A claim writes while the bindings that it read still stand. Its rollback succeeds,
and comes while its own write is the latest one that stands. -/
def Careful (w : World β) : Event → Prop
  | .write n _ => w.standing.head? = (w.claims n).seen
  | .rollback n ok => ok = true ∧ w.standing.head? = some n
  | _ => True

instance (w : World β) (e : Event) : Decidable (w.Careful e) := by
  unfold Careful
  split <;> infer_instance

def Reached (want : Nat → List β) : World β → Prop :=
  Reach (· = {}) (fun w e w' => w' = w.next want e) Careful

/-- Every claim that has taken a step has returned. -/
def AllReturned (w : World β) : Prop :=
  ∀ n, (w.claims n).stage = .picked ∨ (w.claims n).stage = .returned

end World

/-! ## What a careful run keeps -/

variable {want : Nat → List β} {w : World β} {n : Nat} {claim : Claim β} {previous : List β}
    {seen : Option Nat}

def wanted (want : Nat → List β) (n : Option Nat) : List β := (n.map want).getD []

structure World.Inv (want : Nat → List β) (w : World β) : Prop where
  stored : w.stored = wanted want w.standing.head?
  read : ∀ n, ∀ previous ∈ (w.claims n).stage.previous, previous = wanted want (w.claims n).seen
  below : ∀ n rest, n :: rest <:+ w.standing → (w.claims n).stage.active →
    rest.head? = (w.claims n).seen
  active : ∀ n, (w.claims n).stage.active → n ∈ w.standing
  stands : ∀ n ∈ w.standing, n ∈ w.winner ∨ (w.claims n).stage.active
  winner : ∀ n ∈ w.winner, n ∈ w.standing ∧ (w.claims n).stage = .returned
  nodup : w.standing.Nodup

namespace World.Inv

lemma start : Inv want ({} : World β) where
  stored := rfl
  read := nofun
  below := by simp
  active := nofun
  stands := nofun
  winner := nofun
  nodup := nodup_nil

lemma claims_set (w : World β) (n m : Nat) (claim : Claim β) :
    (w.set n claim).claims m = if m = n then claim else w.claims m :=
  Function.update_apply ..

lemma moves (h : w.Inv want) (hwinner : n ∉ w.winner)
    (hactive : claim.stage.active = (w.claims n).stage.active)
    (hseen : claim.stage.active → claim.seen = (w.claims n).seen)
    (hread : ∀ previous ∈ claim.stage.previous, previous = wanted want claim.seen) :
    (w.set n claim).Inv want := by
  have hact : ∀ m, ((w.set n claim).claims m).stage.active = (w.claims m).stage.active := by
    intro m
    rw [claims_set]
    split
    · subst m
      exact hactive
    · rfl
  refine ⟨h.stored, ?_, ?_, ?_, ?_, ?_, h.nodup⟩
  · intro m
    rw [claims_set]
    split
    · exact hread
    · exact h.read m
  · intro m rest hsuffix hm
    have hold := h.below m rest hsuffix (hact m ▸ hm)
    rw [claims_set] at hm ⊢
    split
    · rename_i hmn
      rw [if_pos hmn] at hm
      rw [hold, hmn, hseen hm]
    · exact hold
  · intro m hm
    exact h.active m (hact m ▸ hm)
  · intro m hm
    rw [hact m]
    exact h.stands m hm
  · intro m hm
    have hmn : m ≠ n := fun heq => hwinner (heq ▸ hm)
    rw [claims_set, if_neg hmn]
    exact h.winner m hm

lemma not_winner (h : w.Inv want) (hstage : (w.claims n).stage ≠ .returned) : n ∉ w.winner :=
  fun hn => hstage (h.winner n hn).2

lemma writes (h : w.Inv want) (hclaim : w.claims n = ⟨.read previous, seen⟩)
    (hseen : w.standing.head? = seen) :
    Inv want
      { w.set n ⟨.written previous, seen⟩ with stored := want n, standing := n :: w.standing } := by
  have hwinner := h.not_winner (n := n) (by simp [hclaim])
  have hn : n ∉ w.standing :=
    fun hn => (h.stands n hn).elim hwinner (by simp [hclaim, Stage.active])
  refine ⟨rfl, ?_, ?_, ?_, ?_, ?_, nodup_cons.mpr ⟨hn, h.nodup⟩⟩
  · intro m
    rw [claims_set]
    split
    · have hread := h.read n
      rwa [hclaim] at hread
    · exact h.read m
  · intro m rest hsuffix hm
    rw [claims_set] at hm ⊢
    rcases suffix_cons_iff.mp hsuffix with heq | hold
    · obtain ⟨rfl, rfl⟩ := List.cons.inj heq
      rw [if_pos rfl, hseen]
    · have hmn : m ≠ n := fun heq => hn (heq ▸ hold.subset mem_cons_self)
      rw [if_neg hmn] at hm ⊢
      exact h.below m rest hold hm
  · intro m hm
    rw [claims_set] at hm
    split at hm
    · exact mem_cons.mpr (.inl ‹_›)
    · exact mem_cons_of_mem n (h.active m hm)
  · intro m hm
    rw [claims_set]
    split
    · exact .inr rfl
    · exact h.stands m ((mem_cons.mp hm).resolve_left ‹_›)
  · intro m hm
    have hmn : m ≠ n := fun heq => hwinner (heq ▸ hm)
    rw [claims_set, if_neg hmn]
    exact ⟨mem_cons_of_mem n (h.winner m hm).1, (h.winner m hm).2⟩

lemma wins (h : w.Inv want) (hclaim : w.claims n = ⟨.written previous, seen⟩)
    (hnone : w.winner = none) : Inv want { w.set n ⟨.returned, seen⟩ with winner := some n } := by
  have hn : n ∈ w.standing := h.active n (by rw [hclaim]; rfl)
  refine ⟨h.stored, ?_, ?_, ?_, ?_, ?_, h.nodup⟩
  · intro m
    rw [claims_set]
    split
    · nofun
    · exact h.read m
  · intro m rest hsuffix hm
    rw [claims_set] at hm ⊢
    split at hm
    · cases hm
    · rename_i hmn
      rw [if_neg hmn]
      exact h.below m rest hsuffix hm
  · intro m hm
    rw [claims_set] at hm
    split at hm
    · cases hm
    · exact h.active m hm
  · intro m hm
    rw [claims_set]
    split
    · exact .inl (by simp [*])
    · exact (h.stands m hm).imp (by simp [hnone]) id
  · rintro m ⟨rfl⟩
    rw [claims_set, if_pos rfl]
    exact ⟨hn, rfl⟩

/-- The latest write is taken back, and the one below it stands again. -/
lemma rollsBack (h : w.Inv want) (hclaim : w.claims n = ⟨.lost previous, seen⟩)
    (hhead : w.standing.head? = some n) :
    Inv want
      { w.set n ⟨.returned, seen⟩ with stored := previous, standing := w.standing.erase n } := by
  obtain ⟨rest, hrest⟩ := head?_eq_some_iff.mp hhead
  have hwinner := h.not_winner (n := n) (by simp [hclaim])
  have hnodup := h.nodup
  rw [hrest, nodup_cons] at hnodup
  have hread := h.read n previous (by rw [hclaim]; rfl)
  have hbelow := h.below n rest (by rw [hrest]) (by rw [hclaim]; rfl)
  have hsub : ∀ m ∈ rest, m ∈ w.standing ∧ m ≠ n := fun m hm =>
    ⟨hrest ▸ mem_cons_of_mem n hm, fun heq => hnodup.1 (heq ▸ hm)⟩
  have herase : w.standing.erase n = rest := by rw [hrest, erase_cons_head]
  rw [herase]
  refine ⟨by rw [hread, ← hbelow], ?_, ?_, ?_, ?_, ?_, hnodup.2⟩
  · intro m
    rw [claims_set]
    split
    · nofun
    · exact h.read m
  · intro m rest' hsuffix hm
    have hmn := (hsub m (hsuffix.subset mem_cons_self)).2
    rw [claims_set, if_neg hmn] at hm ⊢
    exact h.below m rest' (hrest ▸ hsuffix.trans (suffix_cons n rest)) hm
  · intro m hm
    rw [claims_set] at hm
    split at hm
    · cases hm
    · have hold := h.active m hm
      rw [hrest] at hold
      exact (mem_cons.mp hold).resolve_left ‹_›
  · intro m hm
    obtain ⟨hold, hmn⟩ := hsub m hm
    rw [claims_set, if_neg hmn]
    exact h.stands m hold
  · intro m hm
    have hmn : m ≠ n := fun heq => hwinner (heq ▸ hm)
    obtain ⟨hold, hstage⟩ := h.winner m hm
    rw [claims_set, if_neg hmn]
    rw [hrest] at hold
    exact ⟨(mem_cons.mp hold).resolve_left hmn, hstage⟩

lemma next (h : w.Inv want) {e : Event} (he : w.Careful e) : (w.next want e).Inv want := by
  cases e with unfold World.next
  | getBindings n ok =>
    dsimp only
    split
    · rename_i hclaim
      have hwinner := h.not_winner (n := n) (by simp [hclaim])
      cases ok with
      | true =>
        exact h.moves hwinner (by rw [hclaim]; rfl) nofun (by rintro _ ⟨rfl⟩; exact h.stored)
      | false => exact h.moves hwinner (by rw [hclaim]; rfl) nofun nofun
    · exact h
  | write n ok =>
    dsimp only
    split
    · rename_i previous seen hclaim
      have hseen : w.standing.head? = seen := he.trans (congrArg Claim.seen hclaim)
      split
      · -- nothing is written where the claim wants nothing and has read nothing
        rename_i hnone
        have hread := h.read n previous (by rw [hclaim]; rfl)
        have hstored : w.stored = want n := by
          rw [h.stored, hseen, hnone.1, ← hnone.2, hread, hclaim]
        have hset : (w.set n ⟨.written previous, seen⟩).stored = want n := hstored
        rw [hset]
        exact h.writes hclaim hseen
      · split
        · exact h.writes hclaim hseen
        · exact h.moves (h.not_winner (by simp [hclaim])) (by rw [hclaim]; rfl) nofun nofun
    · exact h
  | updatePod n ok =>
    dsimp only
    split
    · rename_i previous seen hclaim
      split
      · exact h.wins hclaim (And.right ‹_›)
      · refine h.moves (h.not_winner (by simp [hclaim])) (by rw [hclaim]; rfl) (by simp [hclaim]) ?_
        have hread := h.read n
        rwa [hclaim] at hread
    · exact h
  | rollback n ok =>
    dsimp only
    split
    · rename_i hclaim
      rw [if_pos he.1]
      exact h.rollsBack hclaim he.2
    · exact h

end World.Inv

end sandbox0.bindings
