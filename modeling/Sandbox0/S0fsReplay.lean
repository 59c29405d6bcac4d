-- The replay of the log. A live engine and the replay of its log hold the
-- same volume after every record, so `Open` finds what a crash left, unless
-- a record is one that `apply` cannot take.
import Sandbox0.S0fsAgree

namespace sandbox0.s0fs

open List

/-! ## The sequence number takes no part -/

variable {rd m : Option SegmentReader} {s s' b : SnapshotState} {r : WalRecord} {env : Env}
    {e : Engine} {op : Op} {volumeID : GoString}

lemma Holds.seq {i : Nat} {c : Bytes}
    (h : Holds rd s i c) (n : Nat) : Holds rd { s with nextSeq := n } i c :=
  h.sameFiles ⟨rfl, rfl, rfl⟩

lemma Agree.seq {rd' : Option SegmentReader} {l r : SnapshotState} (h : Agree rd rd' l r)
    (n k : Nat) : Agree rd rd' { l with nextSeq := n } { r with nextSeq := k } := by
  refine ⟨h.wf.seq k, h.children, h.nextInode, h.nodes, ?_, h.unused⟩
  intro i node hn ht
  obtain ⟨c, hl, hr⟩ := h.files i node hn ht
  exact ⟨c, ⟨hl.holds.seq n, hl.sized, hl.short⟩, ⟨hr.holds.seq k, hr.sized, hr.short⟩⟩

lemma Sound.bumped (h : Sound rd s) : Sound rd s.bumped :=
  (h.agree.seq (s.nextSeq + 1) s.nextSeq).sound

lemma Effect.nextSeq (he : Effect m s r s') : s'.nextSeq = s.nextSeq := by
  cases he with
  | store node f c c' hf hn hd hc hc' hshort =>
    unfold stored hydrated
    split <;> rfl
  | _ => rfl

lemma Effect.inode_lt (h : Shaped s) (he : Effect m s r s') : r.inode < s'.nextInode := by
  have hpos := h.nextInode_pos
  cases he with
  | create hop hi hname hp hc =>
    simp only [created]
    split <;> omega
  | link node hop hname hn | attr node f hf hn => exact h.below _ _ hn
  | rename inode hop hi | rmdir inode hop hi | unlink inode hop hi =>
    rw [hi]
    exact Nat.zero_lt_of_lt hpos
  | store node f c c' hf hn hd hc hc' hshort =>
    simp only [stored, hydrated_nextInode]
    exact h.below _ _ hn

/-! ## A call on a sound state -/

def Engine.taken (e : Engine) (r : WalRecord) (s : SnapshotState) : Engine :=
  { e with
    toSnapshotState := s
    disk := e.disk.appended r .ended
    mutationVersion := e.mutationVersion + 1
    dirty := true }

/-- What a call can do to an engine whose records all succeed. -/
inductive Took (env : Env) (e : Engine) (op : Op) : Engine → Prop where
  | refused : Took env e op e
  | unlogged (r : WalRecord) (fault : AppendFault) (hfault : env.appendErr = some fault)
      (hr : op.record env e.toSnapshotState = some r) :
      Took env e op { e with nextSeq := e.nextSeq + 1, disk := e.disk.failed r fault.written }
  | logs (r : WalRecord) (s : SnapshotState) (hopen : e.closed = false)
      (hr : op.record env e.toSnapshotState = some r)
      (he : Effect env.reader e.toSnapshotState.bumped r s) : Took env e op (e.taken r s)
  | forgot (i : Nat) (hopen : e.closed = false) (hd : Dead e.toSnapshotState i) :
      Took env e op (forgotten e i)

open Call

lemma Called.took {e' : Engine} (hs : Sound env.reader e.toSnapshotState)
    (hfit : op.LinksFit e.toSnapshotState) (hrange : op.InRange) (hc : Called env e op e') :
    Took env e op e' := by
  cases hc with
  | refused => exact .refused
  | forgot i node hopen hop hn hl => exact .forgot i hopen ⟨node, hn, hl⟩
  | logs r hopen hpre hr =>
    cases herr : env.appendErr with
    | some fault =>
      have hlogged : logged env e r =
          { e with nextSeq := e.nextSeq + 1, disk := e.disk.failed r fault.written } := by
        unfold logged logAndApply append
        rw [herr]
        rfl
      rw [hlogged]
      exact .unlogged r fault herr hr
    | none =>
      obtain ⟨s, he⟩ := hs.bumped.effect hr rfl hpre hfit hrange
      have hlogged : logged env e r = e.taken r s := by
        have hrun := he.run hs.bumped.wf.toShaped
        unfold SnapshotState.bumped at hrun
        unfold logged logAndApply append
        rw [herr]
        simp only
        rw [bind_update_run, bind_run]
        simp only [onState, on_run, hrun]
        rfl
      rw [hlogged]
      exact .logs r s hopen hr he

lemma Took.sound {e' : Engine} (h : Took env e op e') (hs : Sound rd e.toSnapshotState)
    (hrd : env.reader = rd) : Sound rd e'.toSnapshotState := by
  cases h with
  | refused => exact hs
  | unlogged => exact hs.bumped
  | logs r s hopen hr he =>
    rw [hrd] at he
    obtain ⟨_, _, hagree⟩ := hs.bumped.agree.effect he
    exact hagree.sound
  | forgot i hopen hd => exact (hs.agree.forgotten hd).sound

/-! ## The replay -/

lemma replay_append (m : Option SegmentReader) (xs ys : List WalRecord) :
    replay m (xs ++ ys) = replay m xs >>= fun _ => replay m ys := by
  funext s
  induction xs generalizing s with
  | nil => rfl
  | cons x xs ih =>
    simp only [cons_append, replay]
    rw [bind_run, bind_run, bind_run]
    rcases replayOne m x s with ⟨_ | _ | _, s'⟩
    · exact ih s'
    · rfl
    · rfl

/-- The next sequence number after the records of a log. -/
def loggedSeq (n : Nat) (wal : List WalRecord) : Nat :=
  wal.foldl (fun n r => if r.seq ≥ n then r.seq + 1 else n) n

lemma replayOne_effect (h : Shaped s) (he : Effect m s r s') :
    replayOne m r s = (.ok (), { s' with nextSeq := loggedSeq s.nextSeq [r] }) := by
  have hused : ¬ r.inode ≥ s'.nextInode := Nat.not_le.mpr (he.inode_lt h)
  unfold replayOne
  rw [he.run h]
  simp only [loggedSeq, foldl_cons, foldl_nil, he.nextSeq, if_neg hused]

/-- The replay of `wal` on `b` gives the volume of `s`. -/
structure Replayed (rd : Option SegmentReader) (b : SnapshotState) (wal : List WalRecord)
    (s r : SnapshotState) : Prop where
  run : replay rd wal b = (.ok (), r)
  agree : Agree rd rd s r
  seq : r.nextSeq = loggedSeq b.nextSeq wal
  le : r.nextSeq ≤ s.nextSeq

lemma Replayed.log {r : SnapshotState} {wal : List WalRecord}
    {rec : WalRecord} (h : Replayed rd b wal s r) (hseq : rec.seq = s.nextSeq)
    (hvalid : RecordValid rec) (he : Effect rd s.bumped rec s') :
    ∃ r', Replayed rd b (wal ++ [jsonRecord rec]) s' r' ∧ r'.nextSeq = s'.nextSeq := by
  have hagree : Agree rd rd s.bumped r := h.agree.seq (s.nextSeq + 1) r.nextSeq
  obtain ⟨r', he', hagree'⟩ := hagree.effect he
  have hle := h.le
  have hone : loggedSeq r.nextSeq [rec] = s'.nextSeq := by
    rw [he.nextSeq]
    simp only [loggedSeq, foldl_cons, foldl_nil, SnapshotState.bumped]
    rw [if_pos (by omega), hseq]
  rw [jsonRecord_of_valid hvalid]
  refine ⟨{ r' with nextSeq := loggedSeq r.nextSeq [rec] }, ⟨?_, ?_, ?_, ?_⟩, ?_⟩
  · rw [replay_append, bind_ok h.run]
    simp only [replay]
    rw [bind_ok (replayOne_effect h.agree.wf.toShaped he')]
    rfl
  · exact hagree'.seq s'.nextSeq _
  · simp only [loggedSeq, foldl_append, foldl_cons, foldl_nil]
    rw [h.seq]
    rfl
  · exact hone.le
  · exact hone

/-! ## Open after a crash -/

/-- The names and targets of a call are UTF-8. -/
def Op.Utf8 : Op → Prop
  | .createFile _ name _ => ValidUTF8 name
  | .mkdir _ name _ => ValidUTF8 name
  | .symlink _ name target _ => ValidUTF8 name ∧ ValidUTF8 target
  | .link _ _ newName => ValidUTF8 newName
  | .rename _ oldName _ newName => ValidUTF8 oldName ∧ ValidUTF8 newName
  | .unlink _ name => ValidUTF8 name
  | .removeDir _ name => ValidUTF8 name
  | _ => True

lemma validUTF8_nil : ValidUTF8 [] := ⟨[], rfl⟩

lemma Op.Utf8.record (h : op.Utf8) (hr : op.record env s = some r) : RecordValid r := by
  have hnil := validUTF8_nil
  cases op with
  | createFile | mkdir | unlink | removeDir => cases hr; exact ⟨h, hnil, hnil⟩
  | symlink parent name target mode => cases hr; exact ⟨h.1, hnil, h.2⟩
  | link inode newParent newName => cases hr; exact ⟨hnil, h, hnil⟩
  | rename oldParent oldName newParent newName => cases hr; exact ⟨h.1, h.2, hnil⟩
  | forget | lookup | readDir => cases hr
  | _ => cases hr; exact ⟨hnil, hnil, hnil⟩

lemma Op.record_seq (hr : op.record env s = some r) : r.seq = s.nextSeq := by
  cases op with
  | forget | lookup | readDir => cases hr
  | _ => cases hr; rfl

/-- `Open` will pick the same base state again: that of `head.json`, if it is not older than
the manifest, or that of the manifest where there is no `head.json`. Without both, the state of
a new volume has the time of the `Open`. -/
def Kept (disk : Disk) : Latest → Prop
  | some (.ok (state, _)) => ∀ head ∈ disk.head, state.nextSeq ≤ head.nextSeq
  | _ => disk.head.isSome = true

/-- An engine that `Open` made from the base state `b`, without a record to replay. -/
structure OpenedOn (volumeID : GoString) (m : Option SegmentReader) (latest : Latest) (disk : Disk)
    (b : SnapshotState) (e : Engine) : Prop where
  wal : disk.wal = []
  tail : disk.tail = .ended
  kept : Kept disk latest
  opened : ∃ now manifest, openBase now disk latest = .ok (b, manifest) ∧
    openEngine volumeID now m latest disk = .ok e

/-- A call that `apply` can take: it reads the segments as the replay will, it stays in range,
and no link count wraps. -/
structure Fitting (m : Option SegmentReader) (e : Engine) (c : Env × Op) : Prop where
  reader : c.1.reader = m
  inRange : c.2.InRange
  linksFit : c.2.LinksFit e.toSnapshotState

/-- A call that the log can carry: its names are UTF-8 as well, and a write to the log that
fails has written nothing. -/
structure Loggable (m : Option SegmentReader) (e : Engine) (c : Env × Op) : Prop
    extends Fitting m e c where
  utf8 : c.2.Utf8
  untorn : ∀ fault, c.1.appendErr = some fault → fault.written = .nothing

lemma openBase_kept {now now' : Int} {disk disk' : Disk} {latest : Latest}
    {manifest : Option Manifest} (hkept : Kept disk latest) (hhead : disk'.head = disk.head)
    (h : openBase now disk latest = .ok (b, manifest)) :
    openBase now' disk' latest = .ok (b, manifest) := by
  rw [← h]
  unfold openBase
  rw [hhead]
  unfold Kept at hkept
  cases hdisk : disk.head with
  | none => rcases latest with _ | _ | ⟨state, manifest⟩ <;> simp_all [shouldUseMaterializedState]
  | some head =>
    rcases latest with _ | _ | ⟨state, manifest⟩
    · rfl
    · rfl
    · have hnew : ∀ n, shouldUseMaterializedState (some head) state n = false := by
        intro n
        have hle : state.nextSeq ≤ head.nextSeq := hkept head hdisk
        unfold shouldUseMaterializedState
        dsimp only
        split
        · rfl
        · exact decide_eq_false (by omega)
      simp only [hnew, Option.getD_some]

/-- `Open` of a directory whose base state and log are known. -/
lemma openEngine_replayed (now : Int) {latest : Latest} {disk : Disk} {r : SnapshotState}
    {manifest : Option Manifest} (hid : volumeID ≠ []) (htail : disk.tail = .ended)
    (hbase : openBase now disk latest = .ok (b, manifest))
    (hrun : replay m disk.wal b = (.ok (), r)) :
    ∃ e, openEngine volumeID now m latest disk = .ok e ∧
      e.toSnapshotState = collectUnlinkedLocked r ∧ e.disk = disk ∧
      e.mutationVersion = (if disk.wal.length > 0 then 1 else 0) ∧
        e.dirty = decide (disk.wal.length > 0) := by
  unfold openEngine
  rw [if_neg hid, if_neg (by simp [htail]), hbase]
  simp only [hrun]
  exact ⟨_, rfl, rfl, rfl, rfl, rfl⟩

lemma Fitting.took {e' : Engine} {c : Env × Op} (hok : Fitting m e c)
    (hs : Sound m e.toSnapshotState) (h : CallStep e c e') : Took c.1 e c.2 e' := by
  rw [← hok.reader] at hs
  rw [h]
  exact (next_called c.1 hs.wf.listed c.2).took hs hok.linksFit hok.inRange

/-- Runs of calls that `apply` can take keep a sound state. -/
lemma Sound.reach {init : Engine → Prop} (hinit : ∀ e, init e → Sound m e.toSnapshotState)
    (h : Reach init CallStep (Fitting m) e) : Sound m e.toSnapshotState := by
  induction h with
  | start hi => exact hinit _ hi
  | step _ hok hs ih => exact (hok.took ih hs).sound ih hok.reader

lemma Replayed.callStep {r : SnapshotState} {e' : Engine} {c : Env × Op}
    (h : Replayed m b e.disk.wal e.toSnapshotState r) (htail : e.disk.tail = .ended)
    (hok : Loggable m e c) (hs : CallStep e c e') :
    (∃ r', Replayed m b e'.disk.wal e'.toSnapshotState r' ∧
      (e'.disk.wal ≠ e.disk.wal → r'.nextSeq = e'.nextSeq)) ∧
    e'.disk.tail = .ended ∧ e'.disk.head = e.disk.head := by
  cases hok.took h.agree.sound hs with
  | refused => exact ⟨⟨r, h, fun hne => absurd rfl hne⟩, htail, rfl⟩
  | unlogged rec fault hfault hr =>
    rw [hok.untorn fault hfault]
    exact ⟨⟨r, ⟨h.run, h.agree.seq _ _, h.seq, Nat.le_succ_of_le h.le⟩, fun hne => absurd rfl hne⟩,
      htail, rfl⟩
  | logs rec s hopen hr he =>
    rw [hok.reader] at he
    obtain ⟨r', hr', hseq⟩ := h.log (Op.record_seq hr) (hok.utf8.record hr) he
    exact ⟨⟨r', hr', fun _ => hseq⟩, if_pos htail, rfl⟩
  | forgot i hopen hd =>
    exact ⟨⟨r, ⟨h.run, h.agree.forgotten hd, h.seq, h.le⟩, fun hne => absurd rfl hne⟩, htail, rfl⟩

/-- The engine was just opened, or its last call logged a record. -/
inductive AtRecord (volumeID : GoString) (m : Option SegmentReader) (latest : Latest) (disk : Disk)
    (b : SnapshotState) : Engine → Prop where
  | opened {e : Engine} (h : OpenedOn volumeID m latest disk b e) :
      AtRecord volumeID m latest disk b e
  | logged {e e' : Engine} {c : Env × Op}
      (h : Reach (OpenedOn volumeID m latest disk b) CallStep (Loggable m) e)
      (hok : Loggable m e c) (hs : CallStep e c e') (hlog : e'.disk.wal ≠ e.disk.wal) :
      AtRecord volumeID m latest disk b e'

variable {latest : Latest} {disk : Disk}

lemma OpenedOn.start (h : OpenedOn volumeID m latest disk b e) :
    volumeID ≠ [] ∧ e.disk = disk ∧ e.toSnapshotState = collectUnlinkedLocked b ∧
      e.mutationVersion = 0 ∧ e.dirty = false := by
  obtain ⟨now, manifest, hbase, hopen⟩ := h.opened
  have hid : volumeID ≠ [] := by
    intro hid
    rw [openEngine, if_pos hid] at hopen
    cases hopen
  obtain ⟨e', he', hstate, hdisk, hversion, hdirty⟩ :=
    openEngine_replayed now (m := m) hid h.tail hbase (by rw [h.wal]; rfl)
  rw [hopen] at he'
  cases he'
  exact ⟨hid, hdisk, hstate, by simpa [h.wal] using hversion, by simpa [h.wal] using hdirty⟩

/-- What a run keeps: the log replays to the live volume, its last line has its end, and
`head.json` stays. -/
structure Crashes (m : Option SegmentReader) (disk : Disk) (b : SnapshotState)
    (e : Engine) : Prop where
  replayed : ∃ r, Replayed m b e.disk.wal e.toSnapshotState r
  tail : e.disk.tail = .ended
  head : e.disk.head = disk.head

lemma OpenedOn.sound (hb : Sound m b) (h : OpenedOn volumeID m latest disk b e) :
    Sound m e.toSnapshotState := by
  rw [h.start.2.2.1]
  exact hb.agree.collected.sound

lemma OpenedOn.crashes (hb : Sound m b) (h : OpenedOn volumeID m latest disk b e) :
    Crashes m disk b e := by
  obtain ⟨_, rfl, hstate, -⟩ := h.start
  refine ⟨⟨b, ?_⟩, h.tail, rfl⟩
  rw [h.wal, hstate]
  exact ⟨rfl, hb.agree.collected, rfl, Nat.le_refl _⟩

lemma Crashes.reach (hb : Sound m b)
    (h : Reach (OpenedOn volumeID m latest disk b) CallStep (Loggable m) e) :
    Crashes m disk b e := by
  induction h with
  | start hi => exact hi.crashes hb
  | step _ hok hs ih =>
    obtain ⟨r, hr⟩ := ih.replayed
    obtain ⟨⟨r', hr', _⟩, htail, hhead⟩ := hr.callStep ih.tail hok hs
    exact ⟨⟨r', hr'⟩, htail, hhead.trans ih.head⟩

lemma AtRecord.seq (hb : Sound m b) (h : AtRecord volumeID m latest disk b e) :
    e.nextSeq = loggedSeq b.nextSeq e.disk.wal := by
  cases h with
  | opened h =>
    obtain ⟨_, rfl, hstate, -⟩ := h.start
    rw [h.wal, hstate]
    rfl
  | logged h hok hs hlog =>
    have hcrashes := Crashes.reach hb h
    obtain ⟨r, hr⟩ := hcrashes.replayed
    obtain ⟨⟨r', hr', hseq⟩, -⟩ := hr.callStep hcrashes.tail hok hs
    rw [← hseq hlog, hr'.seq]

lemma Reach.opened (h : Reach (OpenedOn volumeID m latest disk b) CallStep (Loggable m) e) :
    ∃ e0, OpenedOn volumeID m latest disk b e0 := by
  induction h with
  | start hi => exact ⟨_, hi⟩
  | step _ _ _ ih => exact ih

/-- After a crash in any state of a run from an `Open` that will pick its base state again,
`Open` gives the live volume, and right after a record it gives the same counters. -/
theorem open_gives_the_volume_of_the_crash {volumeID : GoString} {m : Option SegmentReader}
    {latest : Latest} {disk : Disk} {b : SnapshotState} {e : Engine} (hb : Sound m b)
    (h : Reach (OpenedOn volumeID m latest disk b) CallStep (Loggable m) e) (now : Int) :
    ∃ e', openEngine volumeID now m latest e.disk = .ok e' ∧
      SameVolume m m e'.toSnapshotState e.toSnapshotState ∧
      (AtRecord volumeID m latest disk b e → e'.nextSeq = e.nextSeq) := by
  obtain ⟨e0, hopened⟩ := Reach.opened h
  obtain ⟨_, manifest, hbase, -⟩ := hopened.opened
  have hcrashes := Crashes.reach hb h
  obtain ⟨r, hr⟩ := hcrashes.replayed
  obtain ⟨e', hopen, hstate, -⟩ := openEngine_replayed now hopened.start.1 hcrashes.tail
    (openBase_kept hopened.kept hcrashes.head hbase) hr.run
  refine ⟨e', hopen, ?_, ?_⟩
  · rw [hstate]
    exact (collect_sameVolume m hr.agree.wf).trans hr.agree.sameVolume.symm
  · intro hat
    rw [hat.seq hb, ← hr.seq, hstate]
    rfl

/-- The directory of a new volume that was closed. -/
def headed : Disk := { Disk.empty with head := some (freshState 0) }

def headedEngine : Engine := { freshEngine (lit "vol") 0 with disk := headed }

lemma headed_openedOn : OpenedOn (lit "vol") none none headed (freshState 0) headedEngine :=
  ⟨rfl, rfl, rfl, 7, none, rfl, by decide +kernel⟩

def afterHead (calls : List Op) : Engine :=
  (calls.map fun op => (still, op)).foldl (fun e c => c.2.next c.1 e) headedEngine

def unlinkedAndDir : Engine :=
  afterHead [.createFile 1 (lit "a") 0o644, .write 2 0 [104, 105], .unlink 1 (lit "a"),
    .mkdir 1 (lit "d") 0o755]

theorem open_gives_a_directory :
    ∃ e', openEngine (lit "vol") 9 none none unlinkedAndDir.disk = .ok e' ∧
      SameVolume none none e'.toSnapshotState unlinkedAndDir.toSnapshotState := by
  have ha : ValidUTF8 (lit "a") := ⟨['a'], by decide +kernel⟩
  have hd : ValidUTF8 (lit "d") := ⟨['d'], by decide +kernel⟩
  have hrun : Reach (OpenedOn (lit "vol") none none headed (freshState 0)) CallStep (Loggable none)
      unlinkedAndDir :=
    Reach.run (.start headed_openedOn) _
      ⟨⟨⟨rfl, trivial, trivial⟩, ha, nofun⟩, ⟨⟨rfl, by decide +kernel, trivial⟩, trivial, nofun⟩,
        ⟨⟨rfl, trivial, trivial⟩, ha, nofun⟩, ⟨⟨rfl, trivial, trivial⟩, hd, nofun⟩, trivial⟩
  obtain ⟨e', hopen, hsame, _⟩ :=
    open_gives_the_volume_of_the_crash (freshState_sound 0 none) hrun 9
  exact ⟨e', hopen, hsame⟩

/-- A write whose end wraps is logged and then panics, and each `Open` after
it panics on the record. -/
theorem a_write_that_wraps_stops_every_open :
    ∃ e, Reach (OpenedOn (lit "vol") none none headed (freshState 0)) CallStep (fun _ _ => True) e ∧
      e.disk.wal.length = 2 ∧ openEngine (lit "vol") 0 none none e.disk = .panic := by
  refine ⟨afterHead [.createFile 1 (lit "a") 0o644, .write 2 (0 - 1) [104, 105]],
    Reach.run (.start headed_openedOn) _ (by decide +kernel), ?_⟩
  decide +kernel

-- A write to the log that fails in the middle of its line stops `Open` as well.
example : openEngine (lit "vol") 0 none none (Op.next
    { still with appendErr := some { err := .io "no space", written := .part } } headedEngine
    (.mkdir 1 (lit "d") 0o755)).disk = .err .decodeWalRecord := by
  decide +kernel

-- Without `head.json` the root of the volume is as old as the last `Open`.
example : ((openEngine (lit "vol") 7 none none (after [.mkdir 1 (lit "d") 0o755]).disk).getD
    headedEngine).nodes[rootInode]?.map (·.atime) = some 7 ∧
      (after [.mkdir 1 (lit "d") 0o755]).nodes[rootInode]?.map (·.atime) = some 0 := by
  decide +kernel

/-- A manifest of the volume with a directory, which is newer than `head.json`. -/
def ahead : Latest :=
  let state := (after [.mkdir 1 (lit "d") 0o755]).toSnapshotState
  some (.ok (state, ⟨1, lit "vol", 1, 1, 0, state⟩))

-- `Open` takes its state, and with a record in the log the state of `head.json`.
example : let opened :=
  fun disk : Disk => (openEngine (lit "vol") 0 none ahead disk).getD headedEngine
    let e := Op.next still (opened headed) (.createFile 1 (lit "a") 0o644)
    e.child 1 (lit "d") = some 2 ∧ (opened e.disk).child 1 (lit "d") = none := by
  decide +kernel

/-! ## The numbers of the log -/

/-- The records have ascending numbers below the next one, and the engine is dirty from the
first change on. A record that is not applied can only stand in a log that lacks an end. -/
structure Numbered (e : Engine) : Prop where
  sorted : e.disk.wal.Pairwise (·.seq < ·.seq)
  below : ∀ r ∈ e.disk.wal, r.seq < e.nextSeq
  version : e.mutationVersion ≤ e.disk.wal.length
  ended : e.disk.tail = .ended → e.mutationVersion = e.disk.wal.length
  dirty : e.dirty = decide (e.mutationVersion ≠ 0)

/-- One more record, whether its change is made or not. -/
lemma Numbered.append (h : Numbered e) (hseq : r.seq = e.nextSeq) :
    (e.disk.wal ++ [jsonRecord r]).Pairwise (·.seq < ·.seq) ∧
      ∀ r' ∈ e.disk.wal ++ [jsonRecord r], r'.seq < e.nextSeq + 1 := by
  constructor
  · simpa [jsonRecord, pairwise_append, h.sorted, hseq] using h.below
  · simpa [jsonRecord, or_imp, forall_and, hseq] using fun r' hr => (h.below r' hr).le

lemma Numbered.failed (h : Numbered e) (hseq : r.seq = e.nextSeq) (w : Written) :
    Numbered { e with nextSeq := e.nextSeq + 1, disk := e.disk.failed r w } := by
  have hbelow : ∀ r ∈ e.disk.wal, r.seq < e.nextSeq + 1 := fun r hr =>
    Nat.lt_succ_of_lt (h.below r hr)
  cases w with
  | nothing => exact { h with below := hbelow }
  | part => exact { h with below := hbelow, ended := nofun }
  | unended =>
    obtain ⟨hsorted, hbelow⟩ := h.append hseq
    refine ⟨hsorted, hbelow, ?_, ?_, h.dirty⟩
    · simpa [Disk.failed, Disk.appended] using Nat.le_succ_of_le h.version
    · simp only [Disk.failed, Disk.appended]
      split <;> rintro ⟨⟩

lemma Numbered.took {e' : Engine} (h : Numbered e) (ht : Took env e op e') : Numbered e' := by
  cases ht with
  | refused | forgot => exact { h with }
  | unlogged r fault hfault hr => exact h.failed (Op.record_seq hr) _
  | logs r s hopen hr he =>
    obtain ⟨hsorted, hbelow⟩ := h.append (Op.record_seq hr)
    have hnext : s.nextSeq = e.nextSeq + 1 := he.nextSeq
    refine ⟨hsorted, by simpa only [Engine.taken, Disk.appended, hnext] using hbelow, ?_, ?_, ?_⟩
    · simpa [Engine.taken, Disk.appended] using h.version
    · simp only [Engine.taken, Disk.appended]
      split
      · rename_i htail
        simpa using h.ended htail
      · rintro ⟨⟩
    · simp [Engine.taken]

lemma OpenedOn.numbered (h : OpenedOn volumeID m latest disk b e) : Numbered e := by
  obtain ⟨_, rfl, -, hversion, hdirty⟩ := h.start
  constructor <;> simp [h.wal, hversion, hdirty]

/-- A line without its end between two records. -/
def endless : Env := { still with appendErr := some { err := .io "no space", written := .unended } }

end sandbox0.s0fs
