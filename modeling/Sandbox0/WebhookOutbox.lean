-- The durable webhook dispatcher (`manager/procd/pkg/webhook/dispatcher.go`). An event
-- is signed and written into the outbox, and a worker reads the records, sends them,
-- and removes, moves or rewrites their files. A crash may come between any two steps.
import Sandbox0.GoCall
import Sandbox0.GoMap
import Sandbox0.GoString

namespace sandbox0.webhook

/-! ## Records -/

/-- Where `json.Indent` stands: its depth, whether a bracket has just been opened, and
whether it is inside a string, behind a backslash there. -/
structure Scan where
  depth : Nat
  needIndent : Bool := false
  inString : Bool := false
  escaped : Bool := false

def newline (depth : Nat) : GoString := 10 :: List.replicate (2 * depth) 32

/-- What the next byte of a JSON text becomes. Blanks outside strings are dropped. -/
def Scan.byte (s : Scan) (c : UInt8) : GoString × Scan :=
  if s.inString then
    ([c], { s with inString := s.escaped || c != 34, escaped := !s.escaped && c == 92 })
  else if c = 32 ∨ c = 9 ∨ c = 10 ∨ c = 13 then ([], s)
  else if c = 125 ∨ c = 93 then
    if s.needIndent then ([c], { s with needIndent := false })
    else (newline (s.depth - 1) ++ [c], { s with depth := s.depth - 1 })
  else
    let depth := if s.needIndent then s.depth + 1 else s.depth
    let start := if s.needIndent then newline depth else []
    if c = 123 ∨ c = 91 then (start ++ [c], ⟨depth, true, false, false⟩)
    else if c = 44 then (start ++ c :: newline depth, ⟨depth, false, false, false⟩)
    else if c = 58 then (start ++ [c, 32], ⟨depth, false, false, false⟩)
    else (start ++ [c], ⟨depth, false, c == 34, false⟩)

def Scan.text (s : Scan) : GoString → GoString
  | [] => []
  | c :: rest => (s.byte c).1 ++ (s.byte c).2.text rest

/-- What `json.MarshalIndent` makes of the raw `body` of a record. -/
def reindent (body : GoString) : GoString := Scan.text ⟨1, false, false, false⟩ body

/-- `signPayload`, and what `encoding/json` does with texts: a string as it marshals it, and
whether a payload can be unmarshalled (a number that is no `float64` cannot). -/
structure Library where
  hmac : GoString → GoString → GoString
  quote : GoString → GoString
  decodes : GoString → Bool

/-- An event with its identity filled in. The time and the payload are their JSON texts. -/
structure Event where
  eventID : GoString
  eventType : GoString
  timestamp : GoString
  sandboxID : GoString
  teamID : GoString
  payload : GoString

/-- `json.Marshal` of the event. -/
def Event.body (lib : Library) (e : Event) : GoString :=
  lit "\x7b\"event_id\":" ++ lib.quote e.eventID ++
    lit ",\"event_type\":" ++ lib.quote e.eventType ++
    lit ",\"timestamp\":" ++ e.timestamp ++
    lit ",\"sandbox_id\":" ++ lib.quote e.sandboxID ++
    lit ",\"team_id\":" ++ lib.quote e.teamID ++
    lit ",\"payload\":" ++ e.payload ++ lit "\x7d"

structure Config where
  url : GoString
  secret : GoString

/-- `deliveryRecord`, with the secret of its signature. -/
structure Record where
  event : Event
  targetURL : GoString
  body : GoString
  signature : GoString
  secret : GoString
  attempts : Nat := 0
  nextAttemptAt : Int := 0

/-- The checks of `readRecord`. -/
def Record.valid (r : Record) : Bool := r.targetURL ≠ [] ∧ r.body ≠ [] ∧ r.event.eventID ≠ []

/-- The record that is read back from the file of `r`. -/
def Record.stored (r : Record) : Record := { r with body := reindent r.body }

/-- The record of `enqueueDurable`. -/
def newRecord (lib : Library) (cfg : Config) (e : Event) : Record where
  event := e
  targetURL := cfg.url
  body := e.body lib
  signature := if cfg.secret = [] then [] else lib.hmac cfg.secret (e.body lib)
  secret := cfg.secret

/-! ## The outbox and its worker -/

/-- The file of a record. A crash may tear one whose contents are not synced. -/
structure File where
  record : Record
  synced : Bool
  torn : Bool := false

/-- `readRecord` takes the file. -/
def File.readable (lib : Library) (f : File) : Bool :=
  !f.torn && lib.decodes f.record.event.payload && f.record.valid

inductive Answer where
  | failed
  | status (code : Nat)

def Answer.ok : Answer → Bool
  | .failed => false
  | .status code => 200 ≤ code ∧ code < 300

def Answer.shouldRetry : Answer → Bool
  | .failed => true
  | .status code => code = 429 ∨ 500 ≤ code

/-- Where `drainOutbox` stands, with the ids whose files are left. -/
inductive Worker where
  | idle
  | reads (now : Int) (ids : List GoString)
  | sends (now : Int) (ids : List GoString) (id : GoString) (record : Record)
  | settles (now : Int) (ids : List GoString) (id : GoString) (record : Record) (answer : Answer)

/-- The files of the outbox by event id, the worker, the records that it has sent, the
events for which `Enqueue` has reported success, and those with a 2xx answer and with one
that is not tried again. -/
structure World where
  files : GoMap GoString File := ∅
  worker : Worker := .idle
  requests : List Record := []
  accepted : List GoString := []
  answered : List GoString := []
  rejected : List GoString := []

inductive Step where
  /-- `Enqueue`. `found` is what `os.Stat` says of an id that names another directory,
  `written` says that no call before the rename fails, and `reported` that no crash comes
  before the return. -/
  | enqueue (cfg : Config) (e : Event) (found written reported : Bool)
  | glob (now : Int)
  /-- `readRecord`; `ok` says whether the file is read, and `moved` whether a bad record
  is moved. -/
  | read (ok moved : Bool)
  | send (answer : Answer)
  /-- The removal, the move or the new file of a record that was sent. -/
  | settle (ok : Bool) (backoff : Int)
  /-- The process restarts, and the contents of these files are lost if they can be. -/
  | crash (torn : List GoString)

namespace World

def writeRecord (w : World) (r : Record) (found written : Bool) : Option World :=
  if r.event.eventID = [] then none
  else if r.event.eventID ∈ w.files ∨ 47 ∈ r.event.eventID ∧ found then some w
  else if 47 ∈ r.event.eventID ∨ written = false then none
  else some { w with files := w.files.insert r.event.eventID ⟨r.stored, true, false⟩ }

def next (lib : Library) (w : World) : Step → World
  | .enqueue cfg e found written reported =>
    if cfg.url = [] then w
    else
      match w.writeRecord (newRecord lib cfg e) found written with
      | none => w
      | some w => if reported then { w with accepted := e.eventID :: w.accepted } else w
  | .glob now => if w.worker matches .idle then { w with worker := .reads now w.files.keys } else w
  | .read ok moved =>
    match w.worker with
    | .reads now (id :: ids) =>
      match w.files[id]? with
      | some f =>
        if ok ∧ f.readable lib then
          if f.record.nextAttemptAt ≠ 0 ∧ now < f.record.nextAttemptAt then
            { w with worker := .reads now ids }
          else { w with worker := .sends now ids id f.record }
        else if moved then { w with worker := .reads now ids, files := w.files.erase id }
        else { w with worker := .reads now ids }
      | none => { w with worker := .reads now ids }
    | .reads _ [] => { w with worker := .idle }
    | _ => w
  | .send answer =>
    match w.worker with
    | .sends now ids id record =>
      { w with
        worker := .settles now ids id record answer
        requests := record :: w.requests
        answered := if answer.ok then id :: w.answered else w.answered
        rejected := if answer.ok ∨ answer.shouldRetry then w.rejected else id :: w.rejected }
    | _ => w
  | .settle ok backoff =>
    match w.worker with
    | .settles now ids id record answer =>
      if ok = false then { w with worker := .reads now ids }
      else if answer.ok ∨ answer.shouldRetry = false then
        { w with worker := .reads now ids, files := w.files.erase id }
      else
        let record :=
          { record with attempts := record.attempts + 1, nextAttemptAt := now + backoff }
        { w with worker := .reads now ids,
                 files := w.files.insert id ⟨record.stored, false, false⟩ }
    | _ => w
  | .crash torn =>
    { w with
      worker := .idle
      files := w.files.map fun id f => { f with torn := f.torn || (id ∈ torn && !f.synced) } }

/-- The ids of the events name no other directory and their payloads can be read back, no
read fails, and no crash loses the contents of a file that was not synced. -/
def Careful (lib : Library) (w : World) : Step → Prop
  | .enqueue _ e _ _ _ => 47 ∉ e.eventID ∧ lib.decodes e.payload = true
  | .read ok _ => ok = true
  | .crash torn => ∀ id ∈ torn, ∀ f ∈ w.files[id]?, f.synced = true
  | _ => True

instance (lib : Library) (w : World) (s : Step) : Decidable (w.Careful lib s) := by
  unfold Careful
  split <;> infer_instance

def Reached (lib : Library) : World → Prop :=
  Reach (· = {}) (fun w s w' => w' = w.next lib s) (Careful lib)

end World

/-! ## What holds of every record -/

def Worker.record : Worker → Option Record
  | .sends _ _ _ record | .settles _ _ _ record _ => some record
  | _ => none

variable {lib : Library} {w : World} {P : Record → Prop} {r : Record}

/-- The property holds of the stored records, of the one that the worker has and of those
that it has sent. -/
structure World.All (P : Record → Prop) (w : World) : Prop where
  files : ∀ (id : GoString) f, w.files[id]? = some f → P f.record
  worker : ∀ record ∈ w.worker.record, P record
  requests : ∀ record ∈ w.requests, P record

lemma World.All.empty : ({} : World).All P :=
  ⟨fun _ _ hf => by simp at hf, nofun, nofun⟩

open GoMap

lemma World.All.writeRecord {found written : Bool} {w' : World} (h : w.All P)
    (hr : P r.stored) (hw' : w.writeRecord r found written = some w') : w'.All P := by
  unfold World.writeRecord at hw'
  split at hw'
  · cases hw'
  split at hw'
  · cases hw'
    exact h
  split at hw'
  · cases hw'
  cases hw'
  exact ⟨all_insert hr h.files, h.worker, h.requests⟩

lemma World.All.free (h : w.All P) {worker : Worker} (hw : worker.record = none) :
    ({ w with worker } : World).All P :=
  ⟨h.files, by simp [hw], h.requests⟩

lemma World.All.remove (h : w.All P) (now : Int) (ids : List GoString) (id : GoString) :
    ({ w with worker := .reads now ids, files := w.files.erase id } : World).All P :=
  ⟨fun id' f hf => h.files id' f (of_get_erase hf).2, nofun, h.requests⟩

/-- What holds of new records, and is kept by a new count of the attempts and by the way
into a file, holds of every record. -/
lemma World.All.next {Q : Event → Prop}
    (hnew : ∀ cfg e, Q e → cfg.url ≠ [] → e.eventID ≠ [] → P (newRecord lib cfg e).stored)
    (hagain : ∀ r attempts nextAttemptAt, P r → P { r with attempts, nextAttemptAt }.stored)
    (h : w.All P) (s : Step)
    (hs : ∀ cfg e found written reported, s = .enqueue cfg e found written reported → Q e) :
    (w.next lib s).All P := by
  cases s with rw [World.next]
  | enqueue cfg e found written reported =>
    split
    · exact h
    split
    · exact h
    rename_i hurl _ w' hw'
    have hid : e.eventID ≠ [] := by
      rintro he
      simp [World.writeRecord, newRecord, he] at hw'
    have hall := h.writeRecord (hnew cfg e (hs _ _ _ _ _ rfl) hurl hid) hw'
    split
    · exact ⟨hall.files, hall.worker, hall.requests⟩
    · exact hall
  | glob now =>
    split
    · exact h.free rfl
    · exact h
  | read ok moved =>
    split
    · split
      · rename_i f hf
        split
        · split
          · exact h.free rfl
          · refine ⟨h.files, ?_, h.requests⟩
            rintro _ ⟨⟩
            exact h.files _ f hf
        · split
          · exact h.remove _ _ _
          · exact h.free rfl
      · exact h.free rfl
    · exact h.free rfl
    · exact h
  | send answer =>
    split
    · rename_i record hworker
      have hrecord : P record := h.worker record (by rw [hworker]; rfl)
      refine ⟨h.files, ?_, ?_⟩
      · rintro _ ⟨⟩
        exact hrecord
      · exact List.forall_mem_cons.mpr ⟨hrecord, h.requests⟩
    · exact h
  | settle ok backoff =>
    split
    · rename_i record _ hworker
      have hrecord : P record := h.worker record (by rw [hworker]; rfl)
      split
      · exact h.free rfl
      split
      · exact h.remove _ _ _
      exact ⟨all_insert (hagain _ _ _ hrecord) h.files, nofun, h.requests⟩
    · exact h
  | crash torn =>
    refine ⟨fun id f hf => ?_, nofun, h.requests⟩
    rw [Std.ExtTreeMap.getElem?_map, Option.map_eq_some_iff] at hf
    obtain ⟨f', hf', rfl⟩ := hf
    exact h.files id f' hf'

/-! ## The signature -/

/-- The text of an object that has a member. -/
def Opens (blanks body : GoString) : Prop :=
  ∃ rest, body = 123 :: (blanks ++ 34 :: rest) ∧ ∀ c ∈ blanks, c = 32 ∨ c = 9 ∨ c = 10 ∨ c = 13

lemma text_blanks {s : Scan} (hs : s.inString = false) {blanks : GoString} (rest : GoString)
    (h : ∀ c ∈ blanks, c = 32 ∨ c = 9 ∨ c = 10 ∨ c = 13) :
    s.text (blanks ++ rest) = s.text rest := by
  induction blanks with
  | nil => rfl
  | cons c blanks ih =>
    have hbyte : s.byte c = ([], s) := by
      unfold Scan.byte
      rw [hs, if_neg Bool.false_ne_true, if_pos (h c List.mem_cons_self)]
    rw [List.cons_append, Scan.text, hbyte, List.nil_append]
    exact ih fun c hc => h c (List.mem_cons_of_mem _ hc)

/-- The first member of an object comes to stand on a line of its own. -/
lemma Opens.reindent {blanks body : GoString} (h : Opens blanks body) :
    Opens (newline 2) (reindent body) := by
  obtain ⟨rest, rfl, hblanks⟩ := h
  refine ⟨Scan.text ⟨2, false, true, false⟩ rest, ?_, by decide +kernel⟩
  have hopen : Scan.byte ⟨1, false, false, false⟩ 123 = ([123], ⟨1, true, false, false⟩) := rfl
  have hquote : Scan.byte ⟨1, true, false, false⟩ 34 =
      (newline 2 ++ [34], ⟨2, false, true, false⟩) := rfl
  rw [webhook.reindent, Scan.text, hopen, text_blanks rfl _ hblanks, Scan.text, hquote]
  simp

lemma opens_body (lib : Library) (e : Event) : Opens [] (e.body lib) := by
  have hfirst : lit "\x7b\"event_id\":" = 123 :: 34 :: lit "event_id\":" := by decide +kernel
  unfold Event.body
  rw [hfirst]
  exact ⟨_, rfl, nofun⟩

lemma Opens.ne {body body' : GoString} (h : Opens [] body) (h' : Opens (newline 2) body') :
    body' ≠ body := by
  obtain ⟨rest, rfl, -⟩ := h
  obtain ⟨rest', rfl, -⟩ := h'
  simp [newline]

/-- A record that `readRecord` takes if its payload decodes. Its body is indented, and its
signature is that of the marshalled event. -/
structure Record.Sound (lib : Library) (r : Record) : Prop where
  targetURL : r.targetURL ≠ []
  eventID : r.event.eventID ≠ []
  body : Opens (newline 2) r.body
  signature : r.secret ≠ [] → r.signature = lib.hmac r.secret (r.event.body lib)

lemma Record.Sound.valid (h : r.Sound lib) : r.valid = true := by
  obtain ⟨rest, hbody, -⟩ := h.body
  exact decide_eq_true ⟨h.targetURL, by simp [hbody], h.eventID⟩

lemma Record.Sound.again (h : r.Sound lib) (attempts : Nat) (nextAttemptAt : Int) :
    { r with attempts, nextAttemptAt }.stored.Sound lib :=
  ⟨h.targetURL, h.eventID, h.body.reindent, h.signature⟩

lemma sound_newRecord {cfg : Config} {e : Event} (hurl : cfg.url ≠ []) (hid : e.eventID ≠ []) :
    (newRecord lib cfg e).stored.Sound lib :=
  ⟨hurl, hid, (opens_body lib e).reindent, fun hsecret => if_neg hsecret⟩

lemma sound_run (steps : List Step) : (steps.foldl (World.next lib) {}).All (Record.Sound lib) := by
  induction steps using List.reverseRecOn with
  | nil => exact .empty
  | append_singleton steps s ih =>
    rw [List.foldl_append]
    exact ih.next (Q := fun _ => True) (fun cfg e _ => sound_newRecord)
      (fun r attempts nextAttemptAt hr => hr.again attempts nextAttemptAt) s
        (fun _ _ _ _ _ _ => trivial)

/-- The requests of a run carry the signatures of their bodies only if none of them was
enqueued with a secret: the indentation of the record always changes the signed body. -/
theorem signature_verifies_iff (lib : Library) (steps : List Step)
    (happart : ∀ r ∈ (steps.foldl (World.next lib) {}).requests, r.secret ≠ [] →
      lib.hmac r.secret r.body = lib.hmac r.secret (r.event.body lib) → r.body = r.event.body lib) :
    (∀ r ∈ (steps.foldl (World.next lib) {}).requests, r.secret ≠ [] →
      r.signature = lib.hmac r.secret r.body) ↔
      ∀ r ∈ (steps.foldl (World.next lib) {}).requests, r.secret = [] := by
  constructor
  · intro h r hr
    by_contra hsecret
    have hsound := (sound_run steps).requests r hr
    have hsame := (h r hr hsecret).symm.trans (hsound.signature hsecret)
    exact (opens_body lib r.event).ne hsound.body (happart r hr hsecret hsame)
  · intro h r hr hsecret
    exact absurd (h r hr) hsecret

/-- A library whose signatures show their key and text, and which takes any payload but the
number `1e400`. -/
def plainLibrary : Library where
  hmac := (· ++ ·)
  quote s := lit "\"" ++ s ++ lit "\""
  decodes payload := payload ≠ lit "1e400"

def sampleEvent (payload : GoString) : Event where
  eventID := lit "a"
  eventType := lit "agent.event"
  timestamp := lit "\"2025-01-01T00:00:00Z\""
  sandboxID := lit "s"
  teamID := lit "t"
  payload := payload

/-- Enqueued with the secret `k`, read and sent. -/
def firstAttempt (payload : GoString) : List Step :=
  [.enqueue ⟨lit "h", lit "k"⟩ (sampleEvent payload) false true true, .glob 0, .read true true,
    .send .failed]

/-- The request for an event does not verify. -/
theorem sent_event_does_not_verify :
    ¬ ∀ r ∈ ((firstAttempt (lit "1")).foldl (World.next plainLibrary) {}).requests, r.secret ≠ [] →
      r.signature = plainLibrary.hmac r.secret r.body := by
  rw [signature_verifies_iff plainLibrary (firstAttempt (lit "1")) (by decide +kernel)]
  decide +kernel

/-- The members are sent on lines of their own, and were signed on one. -/
theorem indented_body_is_not_the_signed_one :
    ((firstAttempt (lit "1")).foldl (World.next plainLibrary) {}).requests.map
        (fun r => (r.signature, r.body)) =
      [(lit "k\x7b\"event_id\":\"a\",\"event_type\":\"agent.event\"," ++
          lit "\"timestamp\":\"2025-01-01T00:00:00Z\",\"sandbox_id\":\"s\",\"team_id\":\"t\"," ++
          lit "\"payload\":1\x7d",
        lit "\x7b\n    \"event_id\": \"a\",\n    \"event_type\": \"agent.event\",\n" ++
          lit "    \"timestamp\": \"2025-01-01T00:00:00Z\",\n    \"sandbox_id\": \"s\",\n" ++
          lit "    \"team_id\": \"t\",\n    \"payload\": 1\n  \x7d")] := by
  decide +kernel

/-! ## The accepted events -/

/-- An event that is in the outbox, answered or given up. -/
def World.Kept (w : World) (id : GoString) : Prop :=
  id ∈ w.files ∨ id ∈ w.answered ∨ id ∈ w.rejected

structure World.Inv (w : World) : Prop where
  whole : ∀ (id : GoString) f, w.files[id]? = some f → f.torn = false
  settles : ∀ now ids id record answer, w.worker = .settles now ids id record answer →
    answer.ok = true ∨ answer.shouldRetry = false → id ∈ w.answered ∨ id ∈ w.rejected
  accepted : ∀ id ∈ w.accepted, w.Kept id

lemma World.Inv.writeRecord {found written : Bool} {w' : World} (h : w.Inv)
    (hname : 47 ∉ r.event.eventID) (hw' : w.writeRecord r found written = some w') :
    w'.Inv ∧ w'.Kept r.event.eventID := by
  unfold World.writeRecord at hw'
  split at hw'
  · cases hw'
  split at hw'
  · rename_i hfile
    cases hw'
    exact ⟨h, .inl (hfile.resolve_right fun hslash => hname hslash.1)⟩
  split at hw'
  · cases hw'
  cases hw'
  refine ⟨⟨all_insert rfl h.whole, h.settles, fun id hid => ?_⟩, .inl (by simp)⟩
  exact (h.accepted id hid).imp_left fun hmem => by simp [hmem]

lemma World.Inv.reads (h : w.Inv) (now : Int) (ids : List GoString) :
    ({ w with worker := .reads now ids } : World).Inv :=
  ⟨h.whole, nofun, h.accepted⟩

lemma World.Inv.remove (h : w.Inv) (now : Int) (ids : List GoString) {id : GoString}
    (hid : id ∈ w.answered ∨ id ∈ w.rejected) :
    ({ w with worker := .reads now ids, files := w.files.erase id } : World).Inv := by
  refine ⟨fun id f hf => h.whole id f (of_get_erase hf).2, nofun, fun id' hid' => ?_⟩
  rcases h.accepted id' hid' with hmem | hend
  · by_cases he : id = id'
    · exact .inr (he ▸ hid)
    · exact .inl (by simpa [he] using hmem)
  · exact .inr hend

/-- A record that can be read back. -/
def Record.Decodes (lib : Library) (r : Record) : Prop :=
  r.Sound lib ∧ lib.decodes r.event.payload = true

lemma World.Inv.readable (h : w.Inv) (hsound : w.All (Record.Decodes lib)) {id : GoString}
    {f : File} (hf : w.files[id]? = some f) : f.readable lib = true := by
  obtain ⟨hvalid, hdecodes⟩ := hsound.files id f hf
  rw [File.readable, h.whole id f hf, hdecodes, hvalid.valid]
  rfl

lemma World.Inv.next (h : w.Inv) (hsound : w.All (Record.Decodes lib)) (s : Step)
    (hs : w.Careful lib s) : (w.next lib s).Inv := by
  cases s with rw [World.next]
  | enqueue cfg e found written reported =>
    split
    · exact h
    split
    · exact h
    rename_i w' hw'
    have hname : 47 ∉ (newRecord lib cfg e).event.eventID := hs.1
    obtain ⟨hinv, hkept⟩ := h.writeRecord hname hw'
    split
    · exact ⟨hinv.whole, hinv.settles, List.forall_mem_cons.mpr ⟨hkept, hinv.accepted⟩⟩
    · exact hinv
  | glob now =>
    split
    · exact h.reads _ _
    · exact h
  | read ok moved =>
    split
    · split
      · rename_i f hf
        rw [if_pos ⟨hs, h.readable hsound hf⟩]
        split
        · exact h.reads _ _
        · exact ⟨h.whole, nofun, h.accepted⟩
      · exact h.reads _ _
    · exact ⟨h.whole, nofun, h.accepted⟩
    · exact h
  | send answer =>
    split
    · refine ⟨h.whole, ?_, fun id hid => ?_⟩
      · rintro _ _ _ _ _ ⟨⟩ hanswer
        dsimp only
        grind
      · rcases h.accepted id hid with hmem | hend
        · exact Or.inl hmem
        · refine Or.inr ?_
          dsimp only
          grind
    · exact h
  | settle ok backoff =>
    split
    · rename_i hworker
      split
      · exact h.reads _ _
      split
      · rename_i hanswer
        exact h.remove _ _ (h.settles _ _ _ _ _ hworker hanswer)
      refine ⟨all_insert rfl h.whole, nofun, fun id hid => ?_⟩
      exact (h.accepted id hid).imp_left fun hmem => by simp [hmem]
    · exact h
  | crash torn =>
    refine ⟨fun id f hf => ?_, nofun, fun id hid => ?_⟩
    · rw [Std.ExtTreeMap.getElem?_map, Option.map_eq_some_iff] at hf
      obtain ⟨f', hf', rfl⟩ := hf
      have hsynced := fun hid => hs id hid f' hf'
      simp only [h.whole id f' hf', Bool.false_or]
      grind
    · exact (h.accepted id hid).imp_left fun hmem => by simpa [World.next] using hmem

/-- In every run whose steps are careful, an accepted event is in the outbox and can be
read, or it was answered with a 2xx status or given up. -/
theorem accepted_event_is_not_lost (lib : Library) (w : World) (hw : World.Reached lib w)
    (id : GoString) (hid : id ∈ w.accepted) :
    (∃ f, w.files[id]? = some f ∧ f.readable lib = true) ∨ id ∈ w.answered ∨ id ∈ w.rejected := by
  have hkept : w.All (Record.Decodes lib) ∧ w.Inv := by
    refine Reach.keeps (P := fun w => w.All (Record.Decodes lib) ∧ w.Inv) ?_ ?_ hw
    · rintro _ rfl
      exact ⟨.empty, fun _ _ hf => by simp at hf, nofun, nofun⟩
    · rintro w s ⟨hsound, hinv⟩ hs
      refine ⟨hsound.next (Q := fun e => lib.decodes e.payload = true)
        (fun cfg e hok hurl he => ⟨sound_newRecord hurl he, hok⟩)
        (fun r attempts nextAttemptAt hr => ⟨hr.1.again attempts nextAttemptAt, hr.2⟩) s ?_,
        hinv.next hsound s hs⟩
      rintro cfg e found written reported rfl
      exact hs.2
  obtain ⟨hsound, hinv⟩ := hkept
  refine (hinv.accepted id hid).imp_left fun hmem => ?_
  have hf := Std.ExtTreeMap.getElem?_eq_some_getElem hmem
  exact ⟨_, hf, hinv.readable hsound hf⟩

def refusedSteps (payload : GoString) : List Step :=
  [.enqueue ⟨lit "h", lit "k"⟩ (sampleEvent payload) false true true, .glob 5, .read true true,
    .send (.status 503), .settle true 2]

def refusedRun : World := (refusedSteps (lit "1")).foldl (World.next plainLibrary) {}

/-- The event waits for the next attempt. -/
theorem refused_event_waits :
    ∃ f, refusedRun.files[lit "a"]? = some f ∧ f.readable plainLibrary = true := by
  have hrun : World.Reached plainLibrary refusedRun :=
    Reach.run (.start (by rfl)) _ (by decide +kernel)
  exact (accepted_event_is_not_lost _ _ hrun (lit "a") (by decide +kernel)).resolve_right
    (by decide +kernel)

/-- An error at the read of a file moves the record of an accepted event away. -/
theorem read_error_loses_the_event :
    let w := [Step.read true true, .glob 9, .read false true].foldl
      (World.next plainLibrary) refusedRun
    w.accepted = [lit "a"] ∧ w.files[lit "a"]?.isNone ∧ w.answered = [] ∧ w.rejected = [] := by
  decide +kernel

-- So does a crash that tears the file which the worker rewrote.
example :
    [Step.crash [lit "a"], .glob 9, .read true true].foldl (World.next plainLibrary) refusedRun
    |>.files.isEmpty := by
  decide +kernel

-- A payload that cannot be read back is accepted and lost without any fault.
example : let w := (refusedSteps (lit "1e400")).foldl (World.next plainLibrary) {}
    w.accepted = [lit "a"] ∧ w.files.isEmpty ∧ w.answered = [] ∧ w.rejected = [] := by
  decide +kernel

end sandbox0.webhook
