-- The staged entries of `storage-proxy/pkg/sessionstore`. `Add` stages an entry of
-- a session, and `Commit` lists the staged entries, writes them into a checkpoint
-- and clears the stage, one repository call after the other, while other calls of
-- the same session run.
import Sandbox0.GoCall
import Sandbox0.GoMap
import Sandbox0.GoString

namespace sandbox0.sessionstore

open GoMap List

/-! ## The tables -/

structure SessionStageEntry where
  id : Nat
  teamID : GoString
  sessionID : GoString
  selector : GoString
  note : GoString
  deriving DecidableEq

/-- A checkpoint, with the entries of its context recipe. -/
structure SessionCheckpoint where
  id : Nat
  teamID : GoString
  sessionID : GoString
  contextRecipe : List SessionStageEntry

def SessionStageEntry.session (e : SessionStageEntry) : GoString × GoString :=
  (e.teamID, e.sessionID)

def listSessionStageEntries (session : GoString × GoString) (staged : List SessionStageEntry) :
    List SessionStageEntry :=
  staged.filter (·.session = session)

def clearSessionStageEntries (session : GoString × GoString) (staged : List SessionStageEntry) :
    List SessionStageEntry :=
  staged.filter (·.session ≠ session)

/-! ## The calls -/

structure AddRequest where
  sessionID : GoString
  teamID : GoString
  selectorType : GoString
  selector : GoString
  note : GoString

structure CommitRequest where
  sessionID : GoString
  teamID : GoString
  userID : GoString
  volumeID : GoString
  refName : GoString

def AddRequest.session (req : AddRequest) : GoString × GoString :=
  (trimSpace req.teamID, trimSpace req.sessionID)

def CommitRequest.session (req : CommitRequest) : GoString × GoString :=
  (trimSpace req.teamID, trimSpace req.sessionID)

/-- The check of `Add`. -/
def AddRequest.valid (req : AddRequest) : Bool :=
  trimSpace req.sessionID ≠ [] ∧ trimSpace req.teamID ≠ [] ∧ trimSpace req.selectorType ≠ []

/-- The check of `CreateCheckpoint`, which comes after the entries were listed. -/
def CommitRequest.valid (req : CommitRequest) : Bool :=
  trimSpace req.sessionID ≠ [] ∧ trimSpace req.volumeID ≠ [] ∧ trimSpace req.teamID ≠ [] ∧
    trimSpace req.userID ≠ []

/-- How far a `Commit` is: the call that it makes next is `GetLastSessionEventSeq`,
`CreateSnapshot`, `CreateSessionCheckpoint`, `ClearSessionStageEntries` or
`UpsertSessionRef`. -/
inductive Progress where
  | listed (recipe : List SessionStageEntry)
  | numbered (recipe : List SessionStageEntry)
  | snapped (recipe : List SessionStageEntry)
  | created
  | cleared
  deriving DecidableEq

def Progress.recipe : Progress → Option (List SessionStageEntry)
  | .listed recipe | .numbered recipe | .snapped recipe => some recipe
  | _ => none

structure Commit where
  req : CommitRequest
  progress : Progress

/-- The tables, the `Commit` calls in flight by number, and the entries whose
`Add` succeeded. -/
structure World where
  staged : List SessionStageEntry
  checkpoints : List SessionCheckpoint
  commits : GoMap Nat Commit
  added : List SessionStageEntry
  nextID : Nat

def World.start : World :=
  { staged := [], checkpoints := [], commits := ∅, added := [], nextID := 0 }

/-- One repository call. `ok` says whether it succeeds. -/
inductive Event where
  | add (req : AddRequest) (ok : Bool)
  /-- The first call of a `Commit`, which lists the entries. -/
  | commit (n : Nat) (req : CommitRequest) (ok : Bool)
  | proceed (n : Nat) (ok : Bool)

def World.add (w : World) (req : AddRequest) : World :=
  let entry : SessionStageEntry :=
    { id := w.nextID, teamID := trimSpace req.teamID, sessionID := trimSpace req.sessionID,
      selector := req.selector, note := trimSpace req.note }
  { w with staged := w.staged ++ [entry], added := w.added ++ [entry], nextID := w.nextID + 1 }

/-- A `Commit` begins: it lists the entries of its session. -/
def World.list (w : World) (n : Nat) (req : CommitRequest) : World :=
  let c : Commit := { req, progress := .listed (listSessionStageEntries req.session w.staged) }
  { w with commits := w.commits.insert n c }

/-- The call of number `n` goes on. -/
def World.advance (w : World) (n : Nat) (c : Commit) (progress : Progress) : World :=
  { w with commits := w.commits.insert n { c with progress } }

/-- The call of number `n` returns. -/
def World.finish (w : World) (n : Nat) : World := { w with commits := w.commits.erase n }

def World.createCheckpoint (w : World) (n : Nat) (c : Commit) (recipe : List SessionStageEntry) :
    World :=
  let checkpoint : SessionCheckpoint :=
    { id := w.nextID, teamID := c.req.session.1, sessionID := c.req.session.2,
      contextRecipe := recipe }
  { w.advance n c .created with checkpoints := w.checkpoints ++ [checkpoint],
                                nextID := w.nextID + 1 }

def World.clear (w : World) (n : Nat) (c : Commit) : World :=
  let w := { w with staged := clearSessionStageEntries c.req.session w.staged }
  if trimSpace c.req.refName = [] then w.finish n else w.advance n c .cleared

/-- The next call of a `Commit` that was successful so far. -/
def World.proceed (w : World) (n : Nat) (c : Commit) : World :=
  match c.progress with
  | .listed recipe => if c.req.valid then w.advance n c (.numbered recipe) else w.finish n
  | .numbered recipe => w.advance n c (.snapped recipe)
  | .snapped recipe => w.createCheckpoint n c recipe
  | .created => w.clear n c
  | .cleared => w.finish n

def World.next (w : World) : Event → World
  | .add req ok => if req.valid ∧ ok then w.add req else w
  | .commit n req ok =>
    if ok ∧ w.commits[n]? = none then w.list n req else w
  | .proceed n ok =>
    match w.commits[n]? with
    | none => w
    | some c => if ok then w.proceed n c else w.finish n

/-! ## What is to hold -/

def World.holding (w : World) (e : SessionStageEntry) : List SessionCheckpoint :=
  w.checkpoints.filter (e ∈ ·.contextRecipe)

/-- Each entry that was added is staged and in no checkpoint, or in exactly one. -/
def World.Kept (w : World) : Prop :=
  ∀ e ∈ w.added, (e ∈ w.staged ∧ w.holding e = []) ∨ (e ∉ w.staged ∧ ∃ c, w.holding e = [c])

/-- No `Commit` of the session is between its list and its clear. -/
def World.Quiet (w : World) (session : GoString × GoString) : Prop :=
  ∀ p ∈ w.commits.toList, p.2.req.session = session → p.2.progress = .cleared

instance (w : World) (session : GoString × GoString) : Decidable (w.Quiet session) :=
  inferInstanceAs (Decidable (∀ p ∈ w.commits.toList, _ → _))

/-- From the list of a `Commit` to its clear, no other call of its session stages or
lists entries; and the clear does not fail. -/
def World.Exclusive (w : World) : Event → Prop
  | .add req _ => w.Quiet req.session
  | .commit _ req _ => w.Quiet req.session
  | .proceed n ok => ∀ c ∈ w.commits[n]?, c.progress = .created → ok = true

instance (w : World) (e : Event) : Decidable (w.Exclusive e) := by
  unfold World.Exclusive
  split <;> infer_instance

def World.Reached (ok : World → Event → Prop) : World → Prop :=
  Reach (· = World.start) (fun w e w' => w' = w.next e) ok

/-! ## The invariant -/

/-- A `Commit` of the session has written its checkpoint and has not cleared the stage. -/
def World.Pending (w : World) (session : GoString × GoString) : Prop :=
  ∃ (n : Nat) (c : Commit), w.commits[n]? = some c ∧ c.req.session = session ∧ c.progress = .created

structure World.Inv (w : World) : Prop where
  added_lt : ∀ e ∈ w.added, e.id < w.nextID
  recipe_added : ∀ c ∈ w.checkpoints, ∀ e ∈ c.contextRecipe, e ∈ w.added
  staged_added : ∀ e ∈ w.staged, e ∈ w.added
  /-- One `Commit` of a session is between its list and its clear. -/
  alone : ∀ (n n' : Nat) (c c' : Commit), w.commits[n]? = some c → w.commits[n']? = some c' →
    c.req.session = c'.req.session → c.progress ≠ .cleared → c'.progress ≠ .cleared → n = n'
  /-- What it listed is still what is staged. -/
  lists : ∀ (n : Nat) (c : Commit), w.commits[n]? = some c → ∀ recipe ∈ c.progress.recipe,
    recipe = listSessionStageEntries c.req.session w.staged
  /-- An entry is in a checkpoint when it is cleared or about to be, and not else. -/
  waiting : ∀ e ∈ w.staged, ¬ w.Pending e.session → w.holding e = []
  pending : ∀ e ∈ w.staged, w.Pending e.session → ∃ c, w.holding e = [c]
  gone : ∀ e ∈ w.added, e ∉ w.staged → ∃ c, w.holding e = [c]

variable {w : World} {n : Nat} {c : Commit} {e : SessionStageEntry}
  {recipe : List SessionStageEntry} {session : GoString × GoString} {m : GoMap Nat Commit}

lemma World.Inv.kept (h : w.Inv) (hquiet : w.commits.isEmpty = true) : w.Kept := by
  intro e he
  have hno : ¬ w.Pending e.session := by
    rintro ⟨n, c, hc, _⟩
    rw [(GoMap.isEmpty_iff w.commits).mp hquiet n] at hc
    cases hc
  by_cases hs : e ∈ w.staged
  · exact .inl ⟨hs, h.waiting e hs hno⟩
  · exact .inr ⟨hs, h.gone e he hs⟩

open World

lemma World.Inv.start : World.start.Inv := by
  constructor <;> simp [World.start]

/-- In a quiet session there is nothing between list and clear. -/
lemma World.Quiet.progress (h : w.Quiet session) (hc : w.commits[n]? = some c)
    (hs : c.req.session = session) : c.progress = .cleared :=
  h (n, c) ((GoMap.mem_toList _ _ _).mpr hc) hs

lemma World.Quiet.not_pending (h : w.Quiet session) : ¬ w.Pending session := by
  rintro ⟨n, c, hc, hs, hp⟩
  rw [h.progress hc hs] at hp
  cases hp

/-- A change of the calls in flight that keeps who is pending, and by which no call
gets another session, other entries or back to work. -/
lemma World.Inv.withCommits (h : w.Inv)
    (hold : ∀ (n : Nat) (c : Commit), m[n]? = some c → ∃ c0, w.commits[n]? = some c0 ∧
      c.req.session = c0.req.session ∧ (c0.progress = .cleared → c.progress = .cleared) ∧
      ∀ r ∈ c.progress.recipe, r ∈ c0.progress.recipe)
    (hpending : ∀ s, Pending { w with commits := m } s ↔ w.Pending s) :
    Inv { w with commits := m } := by
  refine ⟨h.added_lt, h.recipe_added, h.staged_added, ?_, ?_, ?_, ?_, h.gone⟩
  · intro n n' c c' hc hc' hs hp hp'
    obtain ⟨c0, hc0, hs0, hp0, _⟩ := hold n c hc
    obtain ⟨c0', hc0', hs0', hp0', _⟩ := hold n' c' hc'
    refine h.alone n n' c0 c0' hc0 hc0' ?_ (fun hz => hp (hp0 hz)) (fun hz => hp' (hp0' hz))
    rw [← hs0, ← hs0', hs]
  · intro n c hc r hr
    obtain ⟨c0, hc0, hs0, _, hr0⟩ := hold n c hc
    rw [hs0]
    exact h.lists n c0 hc0 r (hr0 r hr)
  · intro e he hp
    exact h.waiting e he (fun hp' => hp ((hpending _).mpr hp'))
  · intro e he hp
    exact h.pending e he ((hpending _).mp hp)

/-- A call that wrote no checkpoint, before and after, changes nothing for who is pending. -/
lemma World.pending_of_others
    (hm : ∀ k : Nat, n ≠ k → m[k]? = w.commits[k]?) (hnew : ∀ c ∈ m[n]?, c.progress ≠ .created)
    (hold : ∀ c ∈ w.commits[n]?, c.progress ≠ .created) (s : GoString × GoString) :
    World.Pending { w with commits := m } s ↔ w.Pending s := by
  unfold Pending
  refine exists_congr fun k => exists_congr fun c => ?_
  by_cases hk : n = k
  · subst hk
    exact ⟨fun h => absurd h.2.2 (hnew c h.1), fun h => absurd h.2.2 (hold c h.1)⟩
  · dsimp only
    rw [hm k hk]

lemma World.Inv.finish (h : w.Inv)
    (hc : w.commits[n]? = some c) (hp : c.progress ≠ .created) : (w.finish n).Inv := by
  refine h.withCommits ?_ ?_
  · intro k c' hc'
    exact ⟨c', (of_get_erase hc').2, rfl, id, fun _ hr => hr⟩
  · exact pending_of_others (fun k hk => get_erase_ne _ hk) (by simp) (by simpa [hc] using hp)

lemma World.Inv.advance {progress : Progress} (h : w.Inv) (hc : w.commits[n]? = some c)
    (hp : c.progress ≠ .created) (hnew : progress ≠ .created) (hcleared : c.progress ≠ .cleared)
    (hr : progress.recipe = c.progress.recipe) : (w.advance n c progress).Inv := by
  refine h.withCommits ?_ ?_
  · intro k c' hc'
    rcases of_get_insert hc' with ⟨rfl, rfl⟩ | ⟨-, hc'⟩
    · exact ⟨c, hc, rfl, fun hz => absurd hz hcleared, fun _ h' => hr ▸ h'⟩
    · exact ⟨c', hc', rfl, id, fun _ h' => h'⟩
  · exact pending_of_others (fun k hk => get_insert_ne _ _ hk) (by simpa using hnew)
      (by simpa [hc] using hp)

lemma World.Inv.list {req : CommitRequest} (h : w.Inv)
    (hnone : w.commits[n]? = none) (hquiet : w.Quiet req.session) : (w.list n req).Inv := by
  have hpending : ∀ s, (w.list n req).Pending s ↔ w.Pending s :=
    pending_of_others (fun k hk => get_insert_ne _ _ hk) (by simp) (by simp [hnone])
  refine ⟨h.added_lt, h.recipe_added, h.staged_added, ?_, ?_, ?_, ?_, h.gone⟩
  · intro k k' c c' hc hc' hs hp hp'
    rcases of_get_insert hc with ⟨rfl, rfl⟩ | ⟨-, hk⟩ <;>
      rcases of_get_insert hc' with ⟨rfl, rfl⟩ | ⟨-, hk'⟩
    · rfl
    · exact absurd (hquiet.progress hk' hs.symm) hp'
    · exact absurd (hquiet.progress hk hs) hp
    · exact h.alone k k' c c' hk hk' hs hp hp'
  · refine all_insert ?_ h.lists
    rintro r ⟨⟩
    rfl
  · intro e he hp
    exact h.waiting e he (fun hp' => hp ((hpending _).mpr hp'))
  · intro e he hp
    exact h.pending e he ((hpending _).mp hp)

lemma World.Inv.holding_new (h : w.Inv) (he : e.id = w.nextID) : w.holding e = [] := by
  unfold holding
  rw [filter_eq_nil_iff]
  intro c hc hin
  have hlt := h.added_lt e (h.recipe_added c hc e (of_decide_eq_true hin))
  omega

lemma World.Inv.add {req : AddRequest} (h : w.Inv) (hquiet : w.Quiet req.session) :
    (w.add req).Inv := by
  refine ⟨?_, ?_, ?_, h.alone, ?_, ?_, ?_, ?_⟩
  · intro e he
    rcases mem_append.mp he with he | he
    · have hlt := h.added_lt e he
      simp only [World.add]
      omega
    · rw [mem_singleton.mp he]
      simp [World.add]
  · intro c hc e he
    exact mem_append_left _ (h.recipe_added c hc e he)
  · intro e he
    rcases mem_append.mp he with he | he
    · exact mem_append_left _ (h.staged_added e he)
    · exact mem_append_right _ he
  · intro n c hc r hr
    -- a call that still has entries to write is of another session
    have hother : req.session ≠ c.req.session := by
      intro hs
      rw [hquiet.progress hc hs.symm] at hr
      cases hr
    rw [h.lists n c hc r hr]
    simp only [World.add, listSessionStageEntries, filter_append]
    have hnot : ¬ ((trimSpace req.teamID, trimSpace req.sessionID) = c.req.session) := hother
    simp [SessionStageEntry.session, hnot]
  · intro e he hp
    rcases mem_append.mp he with he | he
    · exact h.waiting e he hp
    · exact h.holding_new (by rw [mem_singleton.mp he])
  · intro e he hp
    rcases mem_append.mp he with he | he
    · exact h.pending e he hp
    · rw [mem_singleton.mp he] at hp
      exact absurd hp hquiet.not_pending
  · intro e he hs
    rcases mem_append.mp he with he | he
    · exact h.gone e he (fun hs' => hs (mem_append_left _ hs'))
    · exact absurd (mem_append_right _ he) hs

lemma mem_listSessionStageEntries {staged : List SessionStageEntry} :
    e ∈ listSessionStageEntries session staged ↔ e ∈ staged ∧ e.session = session := by
  simp [listSessionStageEntries]

lemma World.holding_createCheckpoint (he : e ∈ recipe) :
    ∃ x, (w.createCheckpoint n c recipe).holding e = w.holding e ++ [x] := by
  refine ⟨SessionCheckpoint.mk w.nextID c.req.session.1 c.req.session.2 recipe, ?_⟩
  simp [holding, createCheckpoint, he]

lemma World.holding_createCheckpoint_other (he : e ∉ recipe) :
    (w.createCheckpoint n c recipe).holding e = w.holding e := by
  simp [holding, createCheckpoint, he]

section

variable (h : w.Inv) (hc : w.commits[n]? = some c)

include h hc

lemma World.Inv.createCheckpoint (hp : c.progress = .snapped recipe) :
    (w.createCheckpoint n c recipe).Inv := by
  have hrecipe : recipe = listSessionStageEntries c.req.session w.staged :=
    h.lists n c hc recipe (by rw [hp]; rfl)
  have hmem : ∀ e, e ∈ recipe ↔ e ∈ w.staged ∧ e.session = c.req.session := by
    intro e
    rw [hrecipe]
    exact mem_listSessionStageEntries
  have hnotPending : ¬ w.Pending c.req.session := by
    rintro ⟨k, c', hc', hs, hcreated⟩
    have hk := h.alone k n c' c hc' hc hs (by rw [hcreated]; simp) (by rw [hp]; simp)
    subst hk
    rw [hc] at hc'
    cases hc'
    rw [hp] at hcreated
    cases hcreated
  have hcommits : ∀ (k : Nat) (c' : Commit), (w.createCheckpoint n c recipe).commits[k]? = some c' →
      (k = n ∧ c' = { c with progress := .created }) ∨ (k ≠ n ∧ w.commits[k]? = some c') :=
    fun k c' hc' => of_get_insert hc'
  refine ⟨?_, ?_, h.staged_added, ?_, ?_, ?_, ?_, ?_⟩
  · intro e he
    have hlt := h.added_lt e he
    simp only [World.createCheckpoint]
    omega
  · intro c' hc' e he
    rcases mem_append.mp hc' with hc' | hc'
    · exact h.recipe_added c' hc' e he
    · rw [mem_singleton.mp hc'] at he
      exact h.staged_added e ((hmem e).mp he).1
  · intro k k' c1 c2 h1 h2 hs hp1 hp2
    have hbusy : c.progress ≠ .cleared := by
      rw [hp]
      simp
    rcases hcommits k c1 h1 with ⟨hk, rfl⟩ | ⟨_, h1⟩
    · rcases hcommits k' c2 h2 with ⟨hk', _⟩ | ⟨_, h2⟩
      · rw [hk, hk']
      · rw [hk]
        exact h.alone n k' c c2 hc h2 hs hbusy hp2
    · rcases hcommits k' c2 h2 with ⟨hk', rfl⟩ | ⟨_, h2⟩
      · rw [hk']
        exact h.alone k n c1 c h1 hc hs hp1 hbusy
      · exact h.alone k k' c1 c2 h1 h2 hs hp1 hp2
  · intro k c' hc' r hr
    rcases hcommits k c' hc' with ⟨_, rfl⟩ | ⟨_, hc'⟩
    · cases hr
    · exact h.lists k c' hc' r hr
  · intro e he hpend
    have hother : e.session ≠ c.req.session := by
      intro hs
      exact hpend
        ⟨n, { c with progress := .created }, by simp [World.createCheckpoint, World.advance],
        hs.symm, rfl⟩
    rw [holding_createCheckpoint_other (fun hr => hother ((hmem e).mp hr).2)]
    refine h.waiting e he ?_
    rintro ⟨k, c', hc', hs, hcreated⟩
    have hk : n ≠ k := by
      rintro rfl
      rw [hc] at hc'
      cases hc'
      exact hother hs.symm
    exact hpend ⟨k, c', by simp only [World.createCheckpoint, World.advance,
      get_insert_ne _ _ hk, hc'], hs, hcreated⟩
  · intro e he hpend
    by_cases hs : e.session = c.req.session
    · obtain ⟨x, hx⟩ := holding_createCheckpoint (n := n) (c := c) ((hmem e).mpr ⟨he, hs⟩)
      rw [h.waiting e he (by rw [hs]; exact hnotPending)] at hx
      exact ⟨x, hx⟩
    rw [holding_createCheckpoint_other (fun hr => hs ((hmem e).mp hr).2)]
    refine h.pending e he ?_
    obtain ⟨k, c', hc', hs', hcreated⟩ := hpend
    rcases hcommits k c' hc' with ⟨_, rfl⟩ | ⟨_, hc'⟩
    · exact absurd hs'.symm hs
    · exact ⟨k, c', hc', hs', hcreated⟩
  · intro e he hs
    rw [holding_createCheckpoint_other (fun hr => hs ((hmem e).mp hr).1)]
    exact h.gone e he hs

lemma World.Inv.cleared
    (hp : c.progress = .created) (hkeep : ∀ k : Nat, k ≠ n → m[k]? = w.commits[k]?)
    (hown : ∀ c' ∈ m[n]?, c'.progress = .cleared) :
    Inv { w with commits := m, staged := clearSessionStageEntries c.req.session w.staged } := by
  have hmem : ∀ e, e ∈ clearSessionStageEntries c.req.session w.staged ↔
      e ∈ w.staged ∧ e.session ≠ c.req.session := by
    intro e
    simp [clearSessionStageEntries]
  have hbusy : ∀ (k : Nat) (c' : Commit), m[k]? = some c' → c'.progress ≠ .cleared →
      k ≠ n ∧ w.commits[k]? = some c' := by
    intro k c' hc' hp'
    by_cases hk : k = n
    · subst hk
      exact absurd (hown c' hc') hp'
    · exact ⟨hk, (hkeep k hk).symm.trans hc'⟩
  refine ⟨h.added_lt, h.recipe_added, ?_, ?_, ?_, ?_, ?_, ?_⟩
  · intro e he
    exact h.staged_added e ((hmem e).mp he).1
  · intro k k' c1 c2 h1 h2 hs hp1 hp2
    exact h.alone k k' c1 c2 (hbusy k c1 h1 hp1).2 (hbusy k' c2 h2 hp2).2 hs hp1 hp2
  · intro k c' hc' r hr
    have hp' : c'.progress ≠ .cleared := by
      intro hz
      rw [hz] at hr
      cases hr
    obtain ⟨hk, hc0⟩ := hbusy k c' hc' hp'
    have hother : c'.req.session ≠ c.req.session := by
      intro hs
      exact hk (h.alone k n c' c hc0 hc hs hp' (by rw [hp]; simp))
    rw [h.lists k c' hc0 r hr]
    simp only [listSessionStageEntries, clearSessionStageEntries, filter_filter]
    apply filter_congr
    intro e _
    by_cases hs : e.session = c'.req.session
    · simp [hs, hother]
    · simp [hs]
  · intro e he hpend
    obtain ⟨hs, hother⟩ := (hmem e).mp he
    refine h.waiting e hs ?_
    rintro ⟨k, c', hc', hs', hcreated⟩
    have hk : k ≠ n := by
      rintro rfl
      rw [hc] at hc'
      cases hc'
      exact hother hs'.symm
    exact hpend ⟨k, c', (hkeep k hk).trans hc', hs', hcreated⟩
  · rintro e he ⟨k, c', hc', hs', hcreated⟩
    obtain ⟨_, hc0⟩ := hbusy k c' hc' (by rw [hcreated]; simp)
    exact h.pending e ((hmem e).mp he).1 ⟨k, c', hc0, hs', hcreated⟩
  · intro e he hs
    by_cases hstaged : e ∈ w.staged
    · have hown : e.session = c.req.session := by
        by_contra hne
        exact hs ((hmem e).mpr ⟨hstaged, hne⟩)
      exact h.pending e hstaged ⟨n, c, hc, hown.symm, hp⟩
    · exact h.gone e he hstaged

lemma World.Inv.clear (hp : c.progress = .created) : (w.clear n c).Inv := by
  simp only [World.clear]
  split
  · refine h.cleared (m := w.commits.erase n) hc hp (fun k hk => get_erase_ne _ (Ne.symm hk)) ?_
    intro c' hc'
    rw [get_erase_self] at hc'
    cases hc'
  · refine h.cleared (m := w.commits.insert n { c with progress := .cleared }) hc hp
      (fun k hk => get_insert_ne _ _ (Ne.symm hk)) ?_
    intro c' hc'
    rw [get_insert_self] at hc'
    cases hc'
    rfl

lemma World.Inv.proceed : (w.proceed n c).Inv := by
  unfold World.proceed
  split
  · rename_i recipe hp
    split
    · exact h.advance hc (by rw [hp]; simp) (by simp) (by rw [hp]; simp) (by rw [hp]; rfl)
    · exact h.finish hc (by rw [hp]; simp)
  · rename_i recipe hp
    exact h.advance hc (by rw [hp]; simp) (by simp) (by rw [hp]; simp) (by rw [hp]; rfl)
  · rename_i recipe hp
    exact h.createCheckpoint hc hp
  · rename_i hp
    exact h.clear hc hp
  · rename_i hp
    exact h.finish hc (by rw [hp]; simp)

end

lemma World.Inv.next {e : Event} (h : w.Inv) (hex : w.Exclusive e) : (w.next e).Inv := by
  cases e with simp only [World.next]
  | add req ok =>
    split
    · exact h.add hex
    · exact h
  | commit n req ok =>
    split
    · rename_i hnew
      exact h.list hnew.2 hex
    · exact h
  | proceed n ok =>
    split
    · exact h
    rename_i c hc
    split
    · exact h.proceed hc
    · rename_i hfailed
      exact h.finish hc (fun hp => hfailed (hex c hc hp))

/-- When no `Add` and no other `Commit` of a session comes between the list and the
clear of a `Commit`, and no clear fails, then at quiescence each entry whose `Add`
succeeded is staged or in exactly one checkpoint. -/
theorem staged_entry_is_kept {w : World} (h : World.Reached World.Exclusive w)
    (hquiet : w.commits.isEmpty = true) : w.Kept := by
  have hinv : w.Inv := by
    refine Reach.keeps (P := Inv) ?_ (fun w e hw hex => hw.next hex) h
    rintro _ rfl
    exact Inv.start
  exact hinv.kept hquiet

def addNote (note : GoString) : AddRequest :=
  { sessionID := lit "s", teamID := lit "t", selectorType := lit "events", selector := [], note }

def commitSession : CommitRequest :=
  { sessionID := lit "s", teamID := lit "t", userID := lit "u", volumeID := lit "v", refName := [] }

theorem committed_entries_are_kept :
    (([.add (addNote (lit "a")) true, .commit 1 commitSession true, .proceed 1 true,
      .proceed 1 true,
        .proceed 1 true, .proceed 1 true, .add (addNote (lit "b")) true] : List Event).foldl
      World.next World.start).Kept :=
  staged_entry_is_kept (Reach.run (.start (by rfl)) _ (by decide +kernel)) (by decide +kernel)

/-- An entry that is added while a `Commit` makes its checkpoint is cleared with the
others, and no checkpoint has it. -/
theorem entry_added_during_commit_is_lost :
    ∃ w, World.Reached (fun _ _ => True) w ∧ w.commits.isEmpty = true ∧ ¬ w.Kept ∧
      w.added.length = 1 ∧ w.staged = [] ∧ ∀ c ∈ w.checkpoints, c.contextRecipe = [] := by
  let es : List Event := [.commit 1 commitSession true, .proceed 1 true,
    .add (addNote (lit "a")) true, .proceed 1 true, .proceed 1 true, .proceed 1 true]
  refine ⟨es.foldl World.next start, Reach.run (.start (by rfl)) es (by decide +kernel),
    by decide +kernel, ?_, by decide +kernel, by decide +kernel, by decide +kernel⟩
  intro hkept
  have hlost : ∃ e ∈ (es.foldl World.next start).added,
      e ∉ (es.foldl World.next start).staged ∧
        (es.foldl World.next start).holding e = [] := by decide +kernel
  obtain ⟨e, he, hs, hnone⟩ := hlost
  rcases hkept e he with ⟨hin, _⟩ | ⟨_, c, hc⟩
  · exact hs hin
  · rw [hnone] at hc
    cases hc

end sandbox0.sessionstore
