-- The admins of a team: the handlers `UpdateTeamMember` and `RemoveTeamMember` and the
-- calls of the repository that they make, each one a step. The members are the rows of one
-- team; requests for other teams do not touch them.
import Sandbox0.GoCall
import Sandbox0.GoMap
import Sandbox0.GoString

namespace sandbox0.identity

open List GoMap

inductive Role where
  | admin
  | developer
  | builder
  | viewer
  deriving DecidableEq

abbrev Members := GoMap GoString Role

inductive Change where
  | update (role : Role)
  | remove
  deriving DecidableEq

/-- The next call of the repository, with what the calls before it have read: the role of
the actor, and the rows when they were counted. -/
inductive Stage where
  | getTeamMember
  | getTeamMembers (role : Role)
  | write (role : Role) (rows : Option Members)

/-- A request of the user `actor` about the member `userID`. -/
structure Request where
  actor : GoString
  userID : GoString
  change : Change
  stage : Stage := .getTeamMember

/-- What follows the check that the actor has the role. -/
def Request.checked (r : Request) (role : Role) : Option Stage :=
  match r.change with
  | .update _ => if role ≠ .admin then none else some (.write role none)
  | .remove =>
    if role ≠ .admin ∧ r.userID ≠ r.actor then none
    else if r.userID = r.actor ∧ role = .admin then some (.getTeamMembers role)
    else some (.write role none)

def adminCount (members : Members) : Nat := (members.toList.filter (·.2 = .admin)).length

/-- `UpdateTeamMemberRole` and `RemoveTeamMember` of the repository. -/
def Change.apply (userID : GoString) (members : Members) : Change → Members
  | .update role => if members[userID]?.isSome then members.insert userID role else members
  | .remove => members.erase userID

/-- The next call of a request, and the stage behind it unless the request has ended. -/
def Request.step (r : Request) (members : Members) : Members × Option Stage :=
  match r.stage with
  | .getTeamMember => (members, members[r.actor]?.bind r.checked)
  | .getTeamMembers role =>
    (members, if adminCount members ≤ 1 then none else some (.write role (some members)))
  | .write .. => (r.change.apply r.userID members, none)

structure Server where
  members : Members
  requests : GoMap Nat Request := ∅

/-- A request comes in, or makes its next call; the call may fail. -/
inductive Event where
  | request (n : Nat) (actor userID : GoString) (change : Change)
  | call (n : Nat) (fails : Bool)

def Server.next (s : Server) : Event → Server
  | .request n actor userID change =>
    { s with requests := s.requests.insert n { actor, userID, change } }
  | .call n fails =>
    match s.requests[n]? with
    | none => s
    | some r =>
      if fails then { s with requests := s.requests.erase n }
      else
        let (members, stage) := r.step s.members
        { members, requests := match stage with
            | some stage => s.requests.insert n { r with stage }
            | none => s.requests.erase n }

def HasAdmin (members : Members) : Prop := ∃ user : GoString, members[user]? = some .admin

/-- What the request has read is still so when it writes. -/
def Request.Current (r : Request) (members : Members) : Prop :=
  match r.stage with
  | .write role rows => members[r.actor]? = some role ∧ ∀ read ∈ rows, read = members
  | _ => True

instance (r : Request) (members : Members) : Decidable (r.Current members) := by
  unfold Request.Current
  split <;> infer_instance

/-- A step that the team can stand: nobody asks for another role of its own than admin, and a
request writes while what it has read is still so. -/
def Server.Careful (s : Server) : Event → Prop
  | .request _ actor userID change => userID = actor → change = .remove ∨ change = .update .admin
  | .call n fails => fails = false → ∀ r ∈ s.requests[n]?, r.Current s.members

instance (s : Server) (event : Event) : Decidable (s.Careful event) := by
  unfold Server.Careful
  split <;> infer_instance

def Server.Reached : Server → Prop :=
  Reach (fun s => s.requests = ∅) (fun s event s' => s' = s.next event) Server.Careful

/-! ## The number of admins -/

variable {members : Members} {userID : GoString} {change : Change} {r : Request}

lemma mem_admins {user : GoString} {role : Role} :
    (user, role) ∈ members.toList.filter (·.2 = .admin) ↔
      members[user]? = some role ∧ role = .admin := by
  simp [mem_filter]

lemma hasAdmin_iff : HasAdmin members ↔ 0 < adminCount members := by
  rw [adminCount, length_pos_iff_exists_mem]
  constructor
  · rintro ⟨user, huser⟩
    exact ⟨(user, .admin), mem_admins.mpr ⟨huser, rfl⟩⟩
  · rintro ⟨⟨user, role⟩, hmem⟩
    obtain ⟨huser, rfl⟩ := mem_admins.mp hmem
    exact ⟨user, huser⟩

instance : Decidable (HasAdmin members) := decidable_of_iff _ hasAdmin_iff.symm

/-- Of two admins one is another user. -/
lemma exists_other_admin (h : 1 < adminCount members) (user : GoString) :
    ∃ other ≠ user, members[other]? = some .admin := by
  by_contra hnone
  push Not at hnone
  have hsame : ∀ p ∈ members.toList.filter (·.2 = .admin), p = (user, .admin) := by
    rintro ⟨other, role⟩ hmem
    obtain ⟨hother, rfl⟩ := mem_admins.mp hmem
    by_contra hne
    exact hnone other (by rintro rfl; exact hne rfl) hother
  -- the rows have distinct keys, so the filter cannot hold one row twice
  have hnodup : (members.toList.filter (·.2 = .admin)).Nodup :=
    (Nodup.of_map _ (nodup_keys members)).filter _
  rw [eq_replicate_of_mem hsame] at hnodup
  exact absurd (nodup_replicate.mp hnodup) (Nat.not_le.mpr h)

/-! ## One step -/

lemma get_apply_ne {user : GoString} (hne : user ≠ userID) (members : Members) :
    (change.apply userID members)[user]? = members[user]? := by
  cases change with
  | update role =>
    rw [Change.apply]
    split
    · exact get_insert_ne _ _ hne.symm
    · rfl
  | remove => exact get_erase_ne _ hne.symm

/-- The checks that a request has passed. -/
structure Request.Passed (r : Request) : Prop where
  own : r.userID = r.actor → r.change = .remove ∨ r.change = .update .admin
  counts : ∀ role, r.stage = .getTeamMembers role → r.userID = r.actor
  other : ∀ role rows, r.stage = .write role rows → r.userID ≠ r.actor → role = .admin
  removes : ∀ rows, r.stage = .write .admin rows → r.change = .remove → r.userID = r.actor →
    ∃ read ∈ rows, 1 < adminCount read

lemma Request.Passed.checked (h : r.Passed) {role : Role} {stage : Stage}
    (hstage : r.checked role = some stage) : ({ r with stage } : Request).Passed := by
  unfold Request.checked at hstage
  split at hstage
  · rename_i new hchange
    split at hstage <;> cases hstage
    refine ⟨h.own, nofun, fun _ _ hw _ => ?_, fun _ _ hc => ?_⟩
    · cases hw
      simp_all
    · rw [hchange] at hc
      cases hc
  · split at hstage
    · cases hstage
    split at hstage <;> cases hstage
    · rename_i hself
      exact ⟨h.own, fun _ _ => hself.1, nofun, nofun⟩
    · rename_i hrole hself
      refine ⟨h.own, nofun, fun _ _ hw hne => ?_, fun _ hw _ heq => ?_⟩
      · cases hw
        by_contra hnot
        exact hrole ⟨hnot, hne⟩
      · cases hw
        exact absurd ⟨heq, rfl⟩ hself

lemma Request.Passed.step (h : r.Passed) {stage : Stage}
    (hstage : (r.step members).2 = some stage) : ({ r with stage } : Request).Passed := by
  unfold Request.step at hstage
  split at hstage
  · obtain ⟨role, -, hchecked⟩ := Option.bind_eq_some_iff.mp hstage
    exact h.checked hchecked
  · rename_i role hcounts
    have hself := h.counts role hcounts
    split at hstage <;> cases hstage
    rename_i hcount
    refine ⟨h.own, nofun, fun _ _ _ hne => absurd hself hne, fun _ hw _ _ => ?_⟩
    cases hw
    exact ⟨members, rfl, Nat.lt_of_not_le hcount⟩
  · cases hstage

lemma Request.Passed.keeps_admin (h : r.Passed) (hcur : r.Current members)
    (hadmin : HasAdmin members) : HasAdmin (r.step members).1 := by
  unfold Request.step
  split
  · exact hadmin
  · exact hadmin
  rename_i role rows hwrite
  rw [Request.Current, hwrite] at hcur
  obtain ⟨hactor, hrows⟩ := hcur
  by_cases hself : r.userID = r.actor
  · rcases h.own hself with hchange | hchange
    · have hother : ∃ user ≠ r.userID, members[user]? = some .admin := by
        by_cases hrole : role = .admin
        · subst hrole
          obtain ⟨read, hread, hcount⟩ := h.removes rows hwrite hchange hself
          rw [hrows read hread] at hcount
          exact exists_other_admin hcount _
        · -- the actor was no admin when it was checked, and is none now
          obtain ⟨user, huser⟩ := hadmin
          refine ⟨user, ?_, huser⟩
          rintro rfl
          rw [hself, hactor] at huser
          exact hrole (Option.some.inj huser)
      obtain ⟨user, hne, huser⟩ := hother
      exact ⟨user, (get_apply_ne hne members).trans huser⟩
    · obtain ⟨user, huser⟩ := hadmin
      by_cases heq : user = r.userID
      · refine ⟨user, ?_⟩
        rw [heq] at huser ⊢
        simp [hchange, Change.apply, huser]
      · exact ⟨user, (get_apply_ne heq members).trans huser⟩
  · rw [h.other role rows hwrite hself] at hactor
    exact ⟨r.actor, (get_apply_ne (Ne.symm hself) members).trans hactor⟩

/-! ## Every run -/

lemma Server.Reached.passed {s : Server} (h : s.Reached) :
    ∀ (n : Nat) r, s.requests[n]? = some r → r.Passed := by
  apply h.keeps (P := fun s => ∀ (n : Nat) r, s.requests[n]? = some r → r.Passed)
  · intro s hs n r hr
    simp [hs] at hr
  · intro s event hall hok
    cases event with
    | request n actor userID change => exact all_insert ⟨hok, nofun, nofun, nofun⟩ hall
    | call n fails =>
      rw [Server.next]
      split
      · exact hall
      rename_i r hr
      split
      · exact fun k r' hr' => hall k r' (of_get_erase hr').2
      dsimp only
      split
      · rename_i stage hstage
        exact all_insert ((hall n r hr).step hstage) hall
      · exact fun k r' hr' => hall k r' (of_get_erase hr').2

def twoAdmins : Server := ⟨((∅ : Members).insert [1] .admin).insert [2] .admin, ∅⟩

def Server.after (s : Server) (events : List Event) : Server := events.foldl Server.next s

end sandbox0.identity
