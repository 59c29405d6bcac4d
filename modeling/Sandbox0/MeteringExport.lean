-- The metering export (`pkg/metering/repository.go`). Transactions append
-- events and windows under numbers of a database sequence, and a consumer
-- lists the rows behind the largest number it has received.
import Sandbox0.GoString

namespace sandbox0.metering

open List

/-! ## Records -/

structure Usage where
  producer : GoString
  regionID : GoString := []
  subjectType : GoString
  subjectID : GoString
  teamID : GoString := []
  userID : GoString := []
  sandboxID : GoString := []
  volumeID : GoString := []
  snapshotID : GoString := []
  templateID : GoString := []
  clusterID : GoString := []
  data : GoString := []
  deriving DecidableEq

/-- `Event`. A time is the span since the zero time. -/
structure Event extends Usage where
  eventID : GoString
  eventType : GoString
  occurredAt : Int
  deriving DecidableEq

structure Window extends Usage where
  windowID : GoString
  windowType : GoString
  windowStart : Int
  windowEnd : Int
  value : Int
  unit : GoString
  deriving DecidableEq

/-- An empty `data` is stored as an empty JSON object. -/
def Usage.stored (u : Usage) : Usage :=
  { u with data := if u.data = [] then lit "\x7b\x7d" else u.data }

/-- The checks of `appendEvent`. -/
def Event.check (e : Event) : Except GoString Unit :=
  if e.eventID = [] then .error (lit "event_id is required")
  else if e.producer = [] then .error (lit "producer is required")
  else if e.eventType = [] then .error (lit "event_type is required")
  else if e.subjectType = [] ∨ e.subjectID = [] then
    .error (lit "subject_type and subject_id are required")
  else if e.occurredAt = 0 then .error (lit "occurred_at is required")
  else .ok ()

/-- The checks of `appendWindow`. -/
def Window.check (w : Window) : Except GoString Unit :=
  if w.windowID = [] then .error (lit "window_id is required")
  else if w.producer = [] then .error (lit "producer is required")
  else if w.windowType = [] then .error (lit "window_type is required")
  else if w.subjectType = [] ∨ w.subjectID = [] then
    .error (lit "subject_type and subject_id are required")
  else if w.windowStart = 0 ∨ w.windowEnd = 0 then
    .error (lit "window_start and window_end are required")
  else if w.windowEnd < w.windowStart then
    .error (lit "window_end must be greater than or equal to window_start")
  else if w.unit = [] then .error (lit "unit is required")
  else if w.value < 0 then .error (lit "value must be non-negative")
  else .ok ()

inductive Table where
  | usageEvents
  | usageWindows
  deriving DecidableEq

instance : Fintype Table where
  elems := {.usageEvents, .usageWindows}
  complete t := by cases t <;> decide

inductive Record where
  | event (e : Event)
  | window (w : Window)
  deriving DecidableEq

namespace Record

def table : Record → Table
  | .event _ => .usageEvents
  | .window _ => .usageWindows

/-- The unique column of `ON CONFLICT`. -/
def id : Record → GoString
  | .event e => e.eventID
  | .window w => w.windowID

def check : Record → Except GoString Unit
  | .event e => e.check
  | .window w => w.check

/-- The values of the `INSERT`. -/
def stored : Record → Record
  | .event e => .event { e with toUsage := e.toUsage.stored }
  | .window w => .window { w with toUsage := w.toUsage.stored }

end Record

structure Row where
  sequence : Nat
  record : Record
  deriving DecidableEq

/-! ## The database and its consumer -/

/-- A row whose statement is at its conflict check, one of an open transaction, one
that all see, and one that is not stored after all. -/
inductive State where
  | waiting
  | inserted
  | visible
  | dropped
  deriving DecidableEq

structure Entry where
  tx : Nat
  record : Record
  state : State := .waiting
  deriving DecidableEq

/-- The statements of each table in the order in which they have drawn their numbers
1, 2, …, and what the consumer of each table has received. -/
structure World where
  entries : Table → List Entry := fun _ => []
  received : Table → List Row := fun _ => []

inductive Step where
  /-- `AppendEventTx` or `AppendWindowTx`, up to the number of the row. -/
  | append (tx : Nat) (record : Record)
  /-- The conflict check and the insert of the statement. -/
  | insert (tx : Nat)
  | commit (tx : Nat)
  | abort (tx : Nat)
  /-- The consumer calls `ListEventsAfter` or `ListWindowsAfter`. -/
  | poll (table : Table) (limit : Int)

/-- The query of `ListEventsAfter` and `ListWindowsAfter` over the visible rows. -/
def listAfter (rows : List Row) (afterSequence : Nat) (limit : Int) : List Row :=
  (rows.filter fun row => afterSequence < row.sequence).take
    (if limit ≤ 0 then 100 else limit.toNat)

namespace World

def rows (w : World) (t : Table) : List Row :=
  (((w.entries t).zipIdx 1).filter fun e => e.1.state = .visible).map fun e => ⟨e.2, e.1.record⟩

def cursor (w : World) (t : Table) : Nat := (w.received t).foldl (fun n row => max n row.sequence) 0

/-- The transaction has no statement at its conflict check. -/
def Idle (w : World) (tx : Nat) : Prop := ∀ t, ∀ e ∈ w.entries t, e.tx = tx → e.state ≠ .waiting

instance (w : World) (tx : Nat) : Decidable (w.Idle tx) :=
  inferInstanceAs (Decidable (∀ t, ∀ e ∈ w.entries t, _))

/-- A row with the record's id that the transaction sees. -/
def Conflicts (w : World) (tx : Nat) (r : Record) : Prop :=
  ∃ e ∈ w.entries r.table, e.record.id = r.id ∧
    (e.state = .visible ∨ e.tx = tx ∧ e.state = .inserted)

/-- A row with the record's id of another open transaction. -/
def Blocked (w : World) (tx : Nat) (r : Record) : Prop :=
  ∃ e ∈ w.entries r.table, e.record.id = r.id ∧ e.tx ≠ tx ∧ e.state = .inserted

instance (w : World) (tx : Nat) (r : Record) : Decidable (w.Conflicts tx r) :=
  inferInstanceAs (Decidable (∃ e ∈ w.entries r.table, _))

instance (w : World) (tx : Nat) (r : Record) : Decidable (w.Blocked tx r) :=
  inferInstanceAs (Decidable (∃ e ∈ w.entries r.table, _))

/-- `ON CONFLICT DO NOTHING`: the row is dropped, waits for the other transaction, or
is inserted. -/
def decided (w : World) (e : Entry) : State :=
  if w.Conflicts e.tx e.record then .dropped
  else if w.Blocked e.tx e.record then .waiting
  else .inserted

/-- The entries of the transaction in one of the states go to another one. -/
def move (w : World) (tx : Nat) (states : List State) (become : Entry → State) : World :=
  { w with entries := fun t => (w.entries t).map fun e =>
      if e.tx = tx ∧ e.state ∈ states then { e with state := become e } else e }

def next (w : World) : Step → World
  | .append tx record =>
    if record.check = .ok () ∧ w.Idle tx then
      let entries := w.entries record.table ++ [⟨tx, record.stored, .waiting⟩]
      { w with entries := Function.update w.entries record.table entries }
    else w
  | .insert tx => w.move tx [.waiting] w.decided
  | .commit tx => if w.Idle tx then w.move tx [.inserted] fun _ => .visible else w
  | .abort tx => w.move tx [.waiting, .inserted] fun _ => .dropped
  | .poll t limit =>
    { w with received :=
        Function.update w.received t (w.received t ++ listAfter (w.rows t) (w.cursor t) limit) }

def run (w : World) (steps : List Step) : World := steps.foldl next w

end World

/-- How often the steps ask for rows of the table. -/
def polls (t : Table) (steps : List Step) : Nat :=
  steps.countP fun s => match s with
    | .poll t' _ => t' = t
    | _ => false

/-! ## What a query returns -/

variable {w : World} {t : Table} {r : Row} {rows : List Row} {after n : Nat}
    {limit : Int} {e : Entry}

lemma mem_rows : r ∈ w.rows t ↔
    ∃ e, (e, r.sequence) ∈ (w.entries t).zipIdx 1 ∧ e.state = .visible ∧ e.record = r.record := by
  constructor
  · intro h
    obtain ⟨⟨e, n⟩, he, rfl⟩ := mem_map.mp h
    obtain ⟨hmem, hvisible⟩ := mem_filter.mp he
    exact ⟨e, hmem, of_decide_eq_true hvisible, rfl⟩
  · rintro ⟨e, hmem, hvisible, hrecord⟩
    exact mem_map.mpr ⟨(e, r.sequence), mem_filter.mpr ⟨hmem, by simpa⟩, by rw [hrecord]⟩

lemma rows_ascend (w : World) (t : Table) :
    (w.rows t).Pairwise fun r r' => r.sequence < r'.sequence := by
  have hsorted : ((w.entries t).zipIdx 1).Pairwise fun e e' => e.2 < e'.2 := by
    have hrange := pairwise_lt_range' (s := 1) (n := (w.entries t).length)
    rw [← zipIdx_map_snd 1 (w.entries t), pairwise_map] at hrange
    exact hrange
  exact pairwise_map.mpr (hsorted.sublist filter_sublist)

lemma of_mem_listAfter (h : r ∈ listAfter rows after limit) : after < r.sequence ∧ r ∈ rows := by
  obtain ⟨hmem, hafter⟩ := mem_filter.mp (mem_of_mem_take h)
  exact ⟨of_decide_eq_true hafter, hmem⟩

/-- A row behind the cursor is returned, or only rows with smaller numbers are. -/
lemma listAfter_reaches (limit : Int) (hrows : rows.Pairwise fun r r' => r.sequence < r'.sequence)
    (h : r ∈ rows) (hafter : after < r.sequence) : r ∈ listAfter rows after limit ∨
      listAfter rows after limit ≠ [] ∧ ∀ r' ∈ listAfter rows after limit,
        r'.sequence < r.sequence := by
  have hlimit : 0 < (if limit ≤ 0 then 100 else limit.toNat) := by split <;> omega
  have hmem : r ∈ rows.filter fun row => after < row.sequence :=
    mem_filter.mpr ⟨h, by simpa using hafter⟩
  have hsorted := hrows.sublist (filter_sublist (p := fun row : Row => after < row.sequence))
  unfold listAfter
  generalize (rows.filter fun row => after < row.sequence) = l at hmem hsorted ⊢
  generalize (if limit ≤ 0 then 100 else limit.toNat) = k at hlimit ⊢
  rw [← take_append_drop k l, mem_append] at hmem
  rw [← take_append_drop k l, pairwise_append] at hsorted
  refine hmem.imp_right fun hdrop => ⟨?_, fun r' hr' => hsorted.2.2 r' hr' r hdrop⟩
  intro hnil
  rcases take_eq_nil_iff.mp hnil with rfl | rfl
  · omega
  · simp at hdrop

/-! ## The cursor -/

lemma foldl_max_lt_iff (l : List Row) (c : Nat) :
    l.foldl (fun n row => max n row.sequence) c < n ↔ c < n ∧ ∀ r ∈ l, r.sequence < n := by
  induction l generalizing c with
  | nil => simp
  | cons r l ih =>
    rw [foldl_cons, ih]
    simp [and_assoc]

lemma cursor_lt_iff : w.cursor t < n ↔ 0 < n ∧ ∀ r ∈ w.received t, r.sequence < n :=
  foldl_max_lt_iff _ _

lemma le_cursor (h : r ∈ w.received t) : r.sequence ≤ w.cursor t := by
  by_contra hlt
  exact lt_irrefl _ ((cursor_lt_iff.mp (not_le.mp hlt)).2 r h)

/-! ## What every run keeps -/

lemma rows_move {tx : Nat} {states : List State} {become : Entry → State}
    (hstates : .visible ∉ states) (h : r ∈ w.rows t) : r ∈ (w.move tx states become).rows t := by
  obtain ⟨e, hmem, hvisible, hrecord⟩ := mem_rows.mp h
  refine mem_rows.mpr ⟨e, ?_, hvisible, hrecord⟩
  have hsame : ¬ (e.tx = tx ∧ e.state ∈ states) := by
    rw [hvisible]
    exact fun hboth => hstates hboth.2
  simp only [World.move, zipIdx_map]
  exact mem_map.mpr ⟨(e, r.sequence), hmem, by simp [hsame]⟩

lemma rows_next (s : Step) (h : r ∈ w.rows t) : r ∈ (w.next s).rows t := by
  cases s with
  | append tx record =>
    rw [World.next]
    split
    · obtain ⟨e, hmem, hvisible, hrecord⟩ := mem_rows.mp h
      refine mem_rows.mpr ⟨e, ?_, hvisible, hrecord⟩
      simp only [Function.update_apply]
      split
      · subst t
        rw [zipIdx_append]
        exact mem_append_left _ hmem
      · exact hmem
    · exact h
  | insert | abort => exact rows_move (by simp) h
  | commit tx =>
    rw [World.next]
    split
    · exact rows_move (by simp) h
    · exact h
  | poll t' limit => exact h

lemma received_next (w : World) (s : Step) (t : Table) :
    (polls t [s] = 0 ∧ (w.next s).received t = w.received t) ∨ polls t [s] = 1 ∧ ∃ limit,
        (w.next s).received t = w.received t ++ listAfter (w.rows t) (w.cursor t) limit := by
  cases s with
  | append | commit =>
    rw [World.next]
    split <;> exact .inl ⟨rfl, rfl⟩
  | poll t' limit =>
    by_cases ht : t' = t
    · subst ht
      exact .inr ⟨by simp [polls], limit, Function.update_self ..⟩
    · exact .inl ⟨by simp [polls, ht], Function.update_of_ne (Ne.symm ht) ..⟩
  | _ => exact .inl ⟨rfl, rfl⟩

/-- The consumer has received rows that all see, each once. -/
structure World.Inv (w : World) : Prop where
  ascends : ∀ t, (w.received t).Pairwise fun r r' => r.sequence < r'.sequence
  seen : ∀ t, ∀ r ∈ w.received t, r ∈ w.rows t

lemma World.Inv.run (h : w.Inv) (steps : List Step) : (w.run steps).Inv := by
  induction steps generalizing w with
  | nil => exact h
  | cons s steps ih =>
    refine ih ⟨fun t => ?_, fun t r hr => ?_⟩
    · rcases received_next w s t with ⟨-, hsame⟩ | ⟨-, limit, hmore⟩
      · rw [hsame]
        exact h.ascends t
      · rw [hmore]
        refine pairwise_append.mpr ⟨h.ascends t, ?_, ?_⟩
        · exact (rows_ascend w t).sublist ((take_sublist _ _).trans filter_sublist)
        · intro r hr r' hr'
          exact lt_of_le_of_lt (le_cursor hr) (of_mem_listAfter hr').1
    · rcases received_next w s t with ⟨-, hsame⟩ | ⟨-, limit, hmore⟩
      · exact rows_next s (h.seen t r (hsame ▸ hr))
      · rw [hmore] at hr
        exact rows_next s ((mem_append.mp hr).elim (h.seen t r) fun hr => (of_mem_listAfter hr).2)

/-! ## Delivery -/

lemma received_run (steps : List Step) (h : r ∈ w.received t) : r ∈ (w.run steps).received t := by
  induction steps generalizing w with
  | nil => exact h
  | cons s steps ih =>
    refine ih ?_
    rcases received_next w s t with ⟨-, hsame⟩ | ⟨-, limit, hmore⟩
    · rwa [hsame]
    · rw [hmore]
      exact mem_append_left _ h

/-- Each poll delivers a row above the cursor or moves the cursor towards it. -/
lemma delivered_or_nearer (hrow : r ∈ w.rows t) (hlt : w.cursor t < r.sequence) (s : Step) :
    r ∈ (w.next s).received t ∨
      w.cursor t + polls t [s] ≤ (w.next s).cursor t ∧ (w.next s).cursor t < r.sequence := by
  rcases received_next w s t with ⟨hpolls, hsame⟩ | ⟨hpolls, limit, hmore⟩
  · have hcursor : (w.next s).cursor t = w.cursor t := by
      rw [World.cursor, hsame]
      rfl
    exact .inr ⟨by omega, by omega⟩
  · rcases listAfter_reaches limit (rows_ascend w t) hrow hlt with hr | ⟨hne, hbelow⟩
    · exact .inl (hmore ▸ mem_append_right _ hr)
    · obtain ⟨r', hr'⟩ := exists_mem_of_ne_nil _ hne
      have hle := le_cursor (w := w.next s) (hmore ▸ mem_append_right _ hr')
      have hafter := (of_mem_listAfter hr').1
      refine .inr ⟨by omega, cursor_lt_iff.mpr ⟨by omega, ?_⟩⟩
      rw [hmore]
      intro r'' hr''
      exact (mem_append.mp hr'').elim ((cursor_lt_iff.mp hlt).2 r'') (hbelow r'')

lemma delivered_or_near (hrow : r ∈ w.rows t) (hlt : w.cursor t < r.sequence) (steps : List Step) :
    r ∈ (w.run steps).received t ∨ w.cursor t + polls t steps < r.sequence := by
  induction steps generalizing w with
  | nil => exact .inr hlt
  | cons s steps ih =>
    rcases delivered_or_nearer hrow hlt s with hr | ⟨hle, hlt'⟩
    · exact .inl (received_run steps hr)
    · have hpolls : polls t (s :: steps) = polls t [s] + polls t steps :=
        @List.countP_append _ _ [s] steps
      refine (ih (rows_next s hrow) hlt').imp_right fun hnear => ?_
      omega

lemma never_delivered (hle : r.sequence ≤ w.cursor t) (hr : r ∉ w.received t) (steps : List Step) :
    r ∉ (w.run steps).received t := by
  induction steps generalizing w with
  | nil => exact hr
  | cons s steps ih =>
    rcases received_next w s t with ⟨-, hsame⟩ | ⟨-, limit, hmore⟩
    · refine ih ?_ (hsame ▸ hr)
      rw [World.cursor, hsame]
      exact hle
    have hr' : r ∉ (w.next s).received t := by
      rw [hmore]
      intro hmem
      rcases mem_append.mp hmem with hmem | hmem
      · exact hr hmem
      · exact absurd (of_mem_listAfter hmem).1 (by omega)
    refine ih (not_lt.mp fun hlt => ?_) hr'
    have hall := cursor_lt_iff.mp hlt
    rw [hmore] at hall
    exact absurd (cursor_lt_iff.mpr ⟨hall.1, fun r'' hr'' => hall.2 r'' (mem_append_left _ hr'')⟩)
      (by omega)

/-- For every run of transactions and polls and every row that a transaction then
commits: whatever happens after it, a consumer that polls often enough receives the
row exactly once, exactly when the largest number it has received at the commit is
below the number of the row. -/
theorem committed_row_is_delivered_once_iff (before : List Step) (t : Table) (e : Entry) (n : Nat)
    (he : (e, n) ∈ ((World.run {} before).entries t).zipIdx 1) (hinserted : e.state = .inserted)
    (hidle : (World.run {} before).Idle e.tx) :
    (∃ enough, ∀ steps, enough ≤ polls t steps →
      (((World.run {} before).run (.commit e.tx :: steps)).received t).count ⟨n, e.record⟩ = 1) ↔
      (World.run {} before).cursor t < n := by
  have hinv : (World.run {} before).Inv :=
    World.Inv.run ⟨fun _ => .nil, fun _ _ hr => absurd hr not_mem_nil⟩ before
  generalize World.run {} before = w at he hidle hinv ⊢
  have hnext : w.next (.commit e.tx) = w.move e.tx [.inserted] fun _ => .visible := if_pos hidle
  have hcursor : (w.next (.commit e.tx)).cursor t = w.cursor t := by
    rw [hnext]
    rfl
  have hrow : ⟨n, e.record⟩ ∈ (w.next (.commit e.tx)).rows t := by
    rw [hnext]
    refine mem_rows.mpr ⟨{ e with state := .visible }, ?_, rfl, rfl⟩
    simp only [World.move, zipIdx_map]
    exact mem_map.mpr ⟨(e, n), he, by simp [hinserted]⟩
  constructor
  · rintro ⟨enough, henough⟩
    by_contra hle
    have hpolls : enough ≤ polls t (List.replicate enough (.poll t 1)) := by
      simp [polls, countP_replicate]
    have hnot : ⟨n, e.record⟩ ∉ (w.next (.commit e.tx)).received t := by
      rw [hnext]
      intro hmem
      obtain ⟨e', hmem', hvisible, -⟩ := mem_rows.mp (hinv.seen t _ hmem)
      have hsame := (mk_mem_zipIdx_iff_le_and_getElem?_sub.mp he).2.symm.trans
        (mk_mem_zipIdx_iff_le_and_getElem?_sub.mp hmem').2
      cases hsame
      rw [hinserted] at hvisible
      cases hvisible
    have hnever := never_delivered (hcursor.symm ▸ not_lt.mp hle) hnot
      (List.replicate enough (.poll t 1))
    exact absurd ((count_eq_zero_of_not_mem hnever).symm.trans (henough _ hpolls)) (by decide)
  · intro hlt
    refine ⟨n, fun steps hsteps => ?_⟩
    have hmem := (delivered_or_near hrow (hcursor.symm ▸ hlt) steps).resolve_right
      (by dsimp only; omega)
    have hnodup : ((w.run (.commit e.tx :: steps)).received t).Nodup :=
      ((hinv.run _).ascends t).imp fun hlt heq => absurd (heq ▸ hlt) (lt_irrefl _)
    exact count_eq_one_of_mem hnodup hmem

/-! ## A small number that is committed late -/

def claimed (eventID : GoString) : Record :=
  .event { producer := lit "manager", subjectType := lit "sandbox", subjectID := lit "s",
           eventID, eventType := lit "sandbox.claimed", occurredAt := 1 }

/-- Two transactions draw the numbers 1 and 2, the second one commits, and the consumer polls. -/
def lateRun : List Step :=
  [.append 1 (claimed (lit "a")), .insert 1, .append 2 (claimed (lit "b")), .insert 2, .commit 2,
    .poll .usageEvents 100]

/-- The first row becomes visible when the consumer has received the second one. -/
theorem late_row_is_never_delivered :
    ⟨1, (claimed (lit "a")).stored⟩ ∈ (World.run {} (lateRun ++ [.commit 1])).rows .usageEvents ∧
      ∀ steps, ⟨1, (claimed (lit "a")).stored⟩ ∉
        (World.run {} (lateRun ++ .commit 1 :: steps)).received .usageEvents := by
  refine ⟨by decide +kernel, fun steps => ?_⟩
  have hrun : World.run {} (lateRun ++ .commit 1 :: steps) =
      (World.run {} (lateRun ++ [.commit 1])).run steps := by
    simp [World.run, foldl_append]
  rw [hrun]
  exact never_delivered (by decide +kernel) (by decide +kernel) steps

/-- Without the poll between the commits it is delivered. -/
theorem early_row_is_delivered_once :
    ∃ enough, ∀ steps, enough ≤ polls .usageEvents steps →
      (((World.run {} (lateRun.take 5)).run (.commit 1 :: steps)).received .usageEvents).count
        ⟨1, (claimed (lit "a")).stored⟩ = 1 :=
  (committed_row_is_delivered_once_iff (lateRun.take 5) .usageEvents
    ⟨1, (claimed (lit "a")).stored, .inserted⟩ 1 (by decide +kernel) rfl (by decide +kernel)).mpr
    (by decide +kernel)

end sandbox0.metering
