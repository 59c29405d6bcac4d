-- The CRYPTO frames that are read out of a payload, and the bytes of the stream
-- that they make up after any fragments in any order.
import Sandbox0.GoCall
import Sandbox0.NetdQuic

namespace sandbox0.netd.proxy

open List Nat

/-! ## The frames of a payload -/

/-- The frames of a client Initial that acknowledges nothing. -/
inductive Frame where
  | padding
  | ping
  | crypto (frame : CryptoFrame)

def Frame.crypto? : Frame → Option CryptoFrame
  | .crypto frame => some frame
  | _ => none

def cryptoFrames (frames : List Frame) : List CryptoFrame := frames.filterMap Frame.crypto?

/-- The number is read off any bytes that begin with these. -/
def VarintReader.Encodes (v : VarintReader) (n : Nat) (bs : List UInt8) : Prop :=
  ∀ rest, v.read (bs ++ rest) = some (n, rest)

/-- The payload is an encoding of the frames. -/
inductive Payload (v : VarintReader) : List Frame → List UInt8 → Prop where
  | nil : Payload v [] []
  | padding {frames : List Frame} {typ bs : List UInt8} (htyp : v.Encodes 0x00 typ)
      (h : Payload v frames bs) : Payload v (.padding :: frames) (typ ++ bs)
  | ping {frames : List Frame} {typ bs : List UInt8} (htyp : v.Encodes 0x01 typ)
      (h : Payload v frames bs) : Payload v (.ping :: frames) (typ ++ bs)
  | crypto {frames : List Frame} {frame : CryptoFrame} {typ offset length bs : List UInt8}
      (htyp : v.Encodes 0x06 typ) (hoffset : v.Encodes frame.offset offset)
      (hlength : v.Encodes frame.data.length length) (h : Payload v frames bs) :
      Payload v (.crypto frame :: frames) (typ ++ (offset ++ (length ++ (frame.data ++ bs))))

/-- No CRYPTO frame stands behind a PING, and none without bytes at the end. -/
def AllRead : List Frame → Prop
  | [] => True
  | .padding :: frames => AllRead frames
  | .ping :: frames => cryptoFrames frames = []
  | .crypto frame :: frames => (frame.data = [] → frames ≠ []) ∧ AllRead frames

variable {v : VarintReader} {frames : List Frame} {bs rest : List UInt8} {frame : Frame}

lemma ne_nil_of_read {n : Nat} (h : v.read bs = some (n, rest)) : bs ≠ [] := by
  rintro rfl
  exact absurd (v.consumes h) (not_lt_zero _)

lemma Payload.ne_nil (h : Payload v frames bs) (hne : frames ≠ []) : bs ≠ [] := by
  cases h with
  | nil => exact absurd rfl hne
  | padding htyp | ping htyp | crypto htyp => exact ne_nil_of_read (htyp _)

variable {acc : List CryptoFrame}

lemma parseCryptoFramesFrom_padding (htyp : v.read bs = some (0x00, rest)) :
    parseCryptoFramesFrom v bs acc = parseCryptoFramesFrom v rest acc := by
  rw [parseCryptoFramesFrom, if_neg (ne_nil_of_read htyp)]
  split <;> simp_all [paddingFrameType]

lemma parseCryptoFramesFrom_ping (htyp : v.read bs = some (0x01, rest)) :
    parseCryptoFramesFrom v bs acc = some (.ok acc) := by
  rw [parseCryptoFramesFrom, if_neg (ne_nil_of_read htyp)]
  split <;> simp_all [paddingFrameType, cryptoFrameType]

lemma parseCryptoFramesFrom_crypto {offset : Nat} {data rest1 rest2 : List UInt8}
    (htyp : v.read bs = some (0x06, rest)) (hoffset : v.read rest = some (offset, rest1))
    (hlength : v.read rest1 = some (data.length, data ++ rest2)) : parseCryptoFramesFrom v bs acc =
      if data = [] ∧ rest2 = [] then some (.error .eof)
      else parseCryptoFramesFrom v rest2 (acc ++ [⟨offset, data⟩]) := by
  have hmake : makeBytes data.length = some (List.replicate data.length 0) := by
    have hlt := v.lt hlength
    exact if_pos (by omega)
  rw [parseCryptoFramesFrom, if_neg (ne_nil_of_read htyp)]
  -- the type, the offset and the length of the frame
  split <;> simp_all [paddingFrameType, cryptoFrameType]
  split <;> simp_all
  split <;> simp_all

lemma parseCryptoFramesFrom_payload (h : Payload v frames bs) (acc : List CryptoFrame) :
    parseCryptoFramesFrom v bs acc = some (.ok (acc ++ cryptoFrames frames)) ↔ AllRead frames := by
  induction h generalizing acc with
  | nil => simp [parseCryptoFramesFrom, cryptoFrames, AllRead]
  | padding htyp h ih =>
    rw [parseCryptoFramesFrom_padding (htyp _), AllRead, ← ih acc]
    simp [cryptoFrames, filterMap_cons, Frame.crypto?]
  | ping htyp h ih =>
    rw [parseCryptoFramesFrom_ping (htyp _), AllRead]
    simp [cryptoFrames, Frame.crypto?]
  | @crypto frames frame typ offset length bs htyp hoffset hlength h ih =>
    have hread := ih (acc ++ [frame])
    rw [append_assoc] at hread
    rw [parseCryptoFramesFrom_crypto (htyp _) (hoffset _) (hlength _), AllRead]
    split
    · rename_i hend
      constructor
      · intro hread
        cases hread
      · intro hall
        exact absurd hend.2 (h.ne_nil (hall.1 hend.1))
    · rename_i hmore
      refine hread.trans (and_iff_right fun hempty => ?_).symm
      rintro rfl
      cases h
      exact hmore ⟨hempty, rfl⟩

/-- The CRYPTO frames of a payload are all read when none stands behind a PING and none without
bytes stands at the end, and only then. -/
theorem crypto_frames_are_read_iff (v : VarintReader) {frames : List Frame} {payload : List UInt8}
    (h : Payload v frames payload) :
    parseCryptoFrames v payload = some (.ok (cryptoFrames frames)) ↔ AllRead frames :=
  parseCryptoFramesFrom_payload h []

theorem frames_without_ping_are_read :
    parseCryptoFrames paddingOnly.varint [0, 6, 0, 1, 9] = some (.ok [⟨0, [9]⟩]) := by
  have hpayload : Payload paddingOnly.varint [.padding, .crypto ⟨0, [9]⟩] [0, 6, 0, 1, 9] :=
    @Payload.padding _ _ [0] _ (fun _ => rfl)
      (@Payload.crypto _ _ _ [6] [0] [1] _ (fun _ => rfl) (fun _ => rfl) (fun _ => rfl) .nil)
  exact (crypto_frames_are_read_iff _ hpayload).mpr ⟨nofun, trivial⟩

/-- A PING hides the hello behind it. -/
theorem ping_hides_the_frames_behind_it :
    Payload paddingOnly.varint [.ping, .crypto ⟨0, [9]⟩] [1, 6, 0, 1, 9] ∧
      parseCryptoFrames paddingOnly.varint [1, 6, 0, 1, 9] ≠ some (.ok [⟨0, [9]⟩]) := by
  refine ⟨@Payload.ping _ _ [1] _ (fun _ => rfl)
    (@Payload.crypto _ _ _ [6] [0] [1] _ (fun _ => rfl) (fun _ => rfl) (fun _ => rfl) .nil), ?_⟩
  rw [parseCryptoFrames, parseCryptoFramesFrom_ping rfl]
  simp

/-! ## The stream -/

def CryptoFrame.stop (frame : CryptoFrame) : Nat := frame.offset + frame.data.length

open GoMap CryptoFrame

namespace CryptoStream

variable {s s' : CryptoStream} {S : List UInt8} {frame : CryptoFrame} {frames : List CryptoFrame}

/-! ## What one call does -/

/-- One round of the loop of `appendPending`, or nothing when it returns. -/
def appendNext (s : CryptoStream) : Option CryptoStream :=
  s.pending[s.nextOffset]?.map fun next =>
    { s with pending := s.pending.erase s.nextOffset
             buffer := s.buffer ++ next
             nextOffset := s.nextOffset + next.length }

/-- Each round takes a fragment out of the map, so the loop ends. -/
lemma appendNext_ends : WellFounded fun s' s : CryptoStream => s.appendNext = some s' := by
  refine Subrelation.wf ?_ (measure fun s : CryptoStream => s.pending.size).wf
  intro s' s h
  obtain ⟨next, hnext, rfl⟩ := Option.map_eq_some_iff.mp h
  exact size_erase_lt hnext

lemma appendPending_keeps {P : CryptoStream → Prop}
    (hnext : ∀ s s', P s → s.appendNext = some s' → P s') (h : P s) :
    P s.appendPending ∧ s.appendPending.pending[s.appendPending.nextOffset]? = none := by
  induction s using appendNext_ends.induction with
  | _ s ih =>
    rw [appendPending]
    split
    · exact ⟨h, by assumption⟩
    · rename_i next hsome
      have hround : s.appendNext = some _ := Option.map_eq_some_iff.mpr ⟨next, hsome, rfl⟩
      exact ih _ hround (hnext _ _ h hround)

lemma add_cases (s : CryptoStream) (frame : CryptoFrame) :
    (s.add frame = s ∧ (frame.data = [] ∨ frame.stop ≤ s.nextOffset)) ∨
      (frame.offset ≤ s.nextOffset ∧ s.nextOffset < frame.stop ∧ s.add frame = (appendPending
          { s with buffer := s.buffer ++ frame.data.drop (s.nextOffset - frame.offset)
                   nextOffset := frame.stop }).trim) ∨
      (s.nextOffset < frame.offset ∧ frame.data ≠ [] ∧
        s.add frame = { s with pending := s.pending.insert frame.offset frame.data }) := by
  unfold add CryptoFrame.stop
  split
  · rename_i hempty
    exact .inl ⟨rfl, .inl hempty⟩
  rename_i hdata
  have hpos := length_pos_iff.mpr hdata
  split
  · rename_i hold
    exact .inl ⟨rfl, .inr (by omega)⟩
  rename_i hnew
  dsimp only
  split
  · rename_i hin
    refine .inr (.inl ⟨by omega, by omega, ?_⟩)
    rw [length_drop, show s.nextOffset + (frame.data.length - (s.nextOffset - frame.offset)) =
      frame.offset + frame.data.length by omega]
  · rename_i hahead
    have hlt : s.nextOffset < frame.offset := by omega
    refine .inr (.inr ⟨hlt, hdata, ?_⟩)
    rw [Nat.sub_eq_zero_of_le hlt.le, drop_zero, Nat.max_eq_left hlt.le]

/-! ## No bytes are invented -/

/-- The frame has bytes of `S` at their own place. -/
def FragmentOf (S : List UInt8) (frame : CryptoFrame) : Prop := frame.data <+: S.drop frame.offset

/-- The stream has bytes of `S`. The buffer may be over the cap until it is trimmed. -/
structure Holds (S : List UInt8) (s : CryptoStream) : Prop where
  buffer : s.buffer.take maxCryptoBuffer = S.take (min s.nextOffset maxCryptoBuffer)
  length : s.buffer.length ≤ s.nextOffset
  inside : s.nextOffset ≤ S.length
  pending : ∀ o d, s.pending[o]? = some d → d ≠ [] ∧ d <+: S.drop o

lemma Holds.start (now : Int) : (newCryptoStream now).Holds S where
  buffer := by simp [newCryptoStream]
  length := le_refl 0
  inside := zero_le _
  pending o d h := by simp [newCryptoStream] at h

lemma Holds.append {d : List UInt8} (h : s.Holds S) (hd : d <+: S.drop s.nextOffset)
    {pending : GoMap Nat (List UInt8)}
    (hpending : ∀ (o : Nat) d, pending[o]? = some d → s.pending[o]? = some d) :
    Holds S { s with pending, buffer := s.buffer ++ d, nextOffset := s.nextOffset + d.length } where
  buffer := by
    have hbuffer := h.buffer
    have hinside := h.inside
    have hlength := congrArg List.length hbuffer
    simp only [length_take] at hlength
    dsimp only
    by_cases hfull : maxCryptoBuffer ≤ s.nextOffset
    · rw [take_append_of_le_length (by omega), hbuffer, min_eq_right hfull,
        min_eq_right (by omega)]
    · rw [min_eq_left (by omega), take_of_length_le (by omega)] at hbuffer
      have hjoin : S.take (s.nextOffset + d.length) = S.take s.nextOffset ++ d := by
        rw [take_add, ← prefix_iff_eq_take.mp hd]
      rw [hbuffer, ← hjoin, take_take, min_comm]
  length := by
    have hlength := h.length
    simp only [length_append]
    omega
  inside := by
    have hlen := hd.length_le
    have hinside := h.inside
    rw [length_drop] at hlen
    dsimp only
    omega
  pending o d hget := h.pending o d (hpending o d hget)

lemma Holds.next (h : s.Holds S) (hnext : s.appendNext = some s') : s'.Holds S := by
  obtain ⟨next, hget, rfl⟩ := Option.map_eq_some_iff.mp hnext
  exact h.append (h.pending _ _ hget).2 fun o d hd => (of_get_erase hd).2

lemma Holds.trim (h : s.Holds S) : s.trim.Holds S := by
  unfold CryptoStream.trim
  split
  · exact h
  · refine ⟨?_, ?_, h.inside, fun o d hd => by simp at hd⟩
    · rw [take_take, min_self]
      exact h.buffer
    · rw [length_take]
      exact le_trans (min_le_right _ _) h.length

/-- Between two calls the buffer is under the cap, and no fragment waits for its turn. -/
structure Rests (S : List UInt8) (s : CryptoStream) : Prop extends Holds S s where
  trimmed : s.buffer.length ≤ maxCryptoBuffer
  drained : s.pending[s.nextOffset]? = none

lemma Rests.start (now : Int) : (newCryptoStream now).Rests S :=
  ⟨.start now, zero_le _, by simp [newCryptoStream]⟩

lemma trim_pending {o : Nat} (h : s.pending[o]? = none) : s.trim.pending[o]? = none := by
  unfold CryptoStream.trim
  split
  · exact h
  · simp

lemma trim_trimmed (s : CryptoStream) : s.trim.buffer.length ≤ maxCryptoBuffer := by
  unfold CryptoStream.trim
  split
  · assumption
  · rw [length_take]
    exact min_le_left _ _

lemma trim_nextOffset (s : CryptoStream) : s.trim.nextOffset = s.nextOffset := by
  unfold CryptoStream.trim
  split <;> rfl

lemma Holds.behind (h : s.Holds S) (hframe : FragmentOf S frame)
    (hold : frame.offset ≤ s.nextOffset) (hnew : s.nextOffset < frame.stop) :
    Holds S { s with buffer := s.buffer ++ frame.data.drop (s.nextOffset - frame.offset)
                     nextOffset := frame.stop } := by
  have hdata := hframe.drop (s.nextOffset - frame.offset)
  rw [drop_drop, Nat.add_sub_cancel' hold] at hdata
  have hstop : frame.stop =
      s.nextOffset + (frame.data.drop (s.nextOffset - frame.offset)).length := by
    unfold CryptoFrame.stop at hnew ⊢
    rw [length_drop]
    omega
  rw [hstop]
  exact h.append hdata fun _ _ => id

lemma Rests.add (h : s.Rests S) (hframe : FragmentOf S frame) : (s.add frame).Rests S := by
  rcases s.add_cases frame with ⟨heq, -⟩ | ⟨hold, hnew, heq⟩ | ⟨hahead, hdata, heq⟩
  · rw [heq]
    exact h
  · obtain ⟨hholds, hdrained⟩ :=
      appendPending_keeps (fun _ _ => Holds.next) (h.toHolds.behind hframe hold hnew)
    rw [heq]
    refine ⟨hholds.trim, trim_trimmed _, ?_⟩
    rw [trim_nextOffset]
    exact trim_pending hdrained
  · rw [heq]
    refine ⟨⟨h.buffer, h.length, h.inside, all_insert ⟨hdata, hframe⟩ h.pending⟩, h.trimmed, ?_⟩
    rw [get_insert_ne _ _ hahead.ne']
    exact h.drained

lemma Rests.foldl (h : s.Rests S)
    (hframes : ∀ frame ∈ frames, FragmentOf S frame) : (frames.foldl CryptoStream.add s).Rests S :=
  foldlRecOn frames _ h fun _ hs frame hmem => hs.add (hframes frame hmem)

lemma Rests.buffer_eq (h : s.Rests S) : s.buffer = S.take (min s.nextOffset maxCryptoBuffer) := by
  rw [← h.buffer, take_of_length_le h.trimmed]

/-- After any fragments of `S` the buffer begins `S`, and what waits is a part of `S` that is not
the next one. -/
theorem stream_has_only_what_was_sent (S : List UInt8) (now : Int) {frames : List CryptoFrame}
    (h : ∀ frame ∈ frames, FragmentOf S frame) :
    let s := frames.foldl add (newCryptoStream now)
    s.buffer = S.take (min s.nextOffset maxCryptoBuffer) ∧
      (∀ o d, s.pending[o]? = some d → d ≠ [] ∧ d <+: S.drop o ∧ o ≠ s.nextOffset) ∧
      WellFounded fun s' s : CryptoStream => s.appendNext = some s' := by
  have hrests := (Rests.start now).foldl h
  refine ⟨hrests.buffer_eq, fun o d hd => ?_, appendNext_ends⟩
  obtain ⟨hne, hslice⟩ := hrests.pending o d hd
  refine ⟨hne, hslice, ?_⟩
  rintro rfl
  rw [hrests.drained] at hd
  cases hd

theorem stream_of_late_bytes : ∃ s : CryptoStream,
    s = [⟨1, [8, 9]⟩, ⟨5, []⟩, ⟨0, [7]⟩].foldl add (newCryptoStream 0) ∧
      s.buffer = List.take (min s.nextOffset maxCryptoBuffer) [7, 8, 9] :=
  ⟨_, rfl, (stream_has_only_what_was_sent [7, 8, 9] 0 (by simp [FragmentOf])).1⟩

/-! ## Fragments in any order -/

/-- The byte at `i` is delivered, or a fragment that has it waits for its turn. -/
def Has (s : CryptoStream) (i : Nat) : Prop :=
  i < s.nextOffset ∨
    ∃ o d, s.pending[o]? = some d ∧ s.nextOffset ≤ o ∧ o ≤ i ∧ i < o + d.length

/-- Of two waiting fragments that overlap, the first one holds the other. -/
def Nested (s : CryptoStream) : Prop :=
  ∀ o d o' d', s.pending[o]? = some d → s.pending[o']? = some d' → s.nextOffset ≤ o → o < o' →
    o' < o + d.length → o' + d'.length ≤ o + d.length

/-- The frame cuts into no fragment that waits: of two that overlap one holds the other, and one
that starts at the same place is not shorter. -/
def Takes (s : CryptoStream) (frame : CryptoFrame) : Prop :=
  frame.data ≠ [] → ∀ o d, s.pending[o]? = some d → s.nextOffset < o →
    (frame.offset < o → o < frame.stop → o + d.length ≤ frame.stop) ∧
      (o < frame.offset → frame.offset < o + d.length → frame.stop ≤ o + d.length) ∧
      (o = frame.offset → d.length ≤ frame.data.length)

/-- No byte of `sent` is lost. -/
structure Keeps (sent : Nat → Prop) (s : CryptoStream) : Prop where
  has : ∀ i, sent i → s.Has i
  nested : s.Nested

variable {sent : Nat → Prop}

lemma Keeps.next (h : s.Keeps sent) (hnext : s.appendNext = some s') : s'.Keeps sent := by
  obtain ⟨next, hget, rfl⟩ := Option.map_eq_some_iff.mp hnext
  constructor
  · intro i hi
    rcases h.has i hi with hlt | ⟨o, d, hd, hle, hoi, hid⟩
    · exact .inl (Nat.lt_add_right _ hlt)
    rcases hle.eq_or_lt with rfl | hlt
    · cases hget.symm.trans hd
      exact .inl hid
    by_cases hlive : s.nextOffset + next.length ≤ o
    · exact .inr ⟨o, d, (GoMap.get_erase_ne _ hlt.ne).trans hd, hlive, hoi, hid⟩
    -- the fragment ends inside the one that is taken
    · have hend := h.nested _ _ o d hget hd le_rfl hlt (by omega)
      exact .inl (by dsimp only; omega)
  · intro o d o' d' hd hd' hle
    refine h.nested o d o' d' (GoMap.of_get_erase hd).2 (GoMap.of_get_erase hd').2 ?_
    dsimp only at hle
    omega

lemma lt_of_waits {o : Nat} {d : List UInt8} (hdrained : s.pending[s.nextOffset]? = none)
    (hd : s.pending[o]? = some d) (hle : s.nextOffset ≤ o) : s.nextOffset < o := by
  refine lt_of_le_of_ne hle ?_
  rintro rfl
  rw [hdrained] at hd
  cases hd

lemma Keeps.behind (h : s.Keeps sent) (hdrained : s.pending[s.nextOffset]? = none)
    (htakes : s.Takes frame) (hold : frame.offset ≤ s.nextOffset) (hnew : s.nextOffset < frame.stop)
    (buffer : List UInt8) : Keeps (fun i => sent i ∨ frame.offset ≤ i ∧ i < frame.stop)
      { s with buffer, nextOffset := frame.stop } := by
  have hdata : frame.data ≠ [] := by
    rintro hempty
    rw [stop, hempty] at hnew
    simp only [length_nil] at hnew
    omega
  constructor
  · rintro i (hi | ⟨-, hi⟩)
    · rcases h.has i hi with hlt | ⟨o, d, hd, hle, hoi, hid⟩
      · exact .inl (hlt.trans hnew)
      have hlt := lt_of_waits hdrained hd hle
      by_cases hlive : frame.stop ≤ o
      · exact .inr ⟨o, d, hd, hlive, hoi, hid⟩
      · have hend := (htakes hdata o d hd hlt).1 (by omega) (by omega)
        exact .inl (by dsimp only; omega)
    · exact .inl hi
  · intro o d o' d' hd hd' hle
    exact h.nested o d o' d' hd hd' (by dsimp only at hle; omega)

lemma Keeps.wait (h : s.Keeps sent) (hdrained : s.pending[s.nextOffset]? = none)
    (htakes : s.Takes frame) (hahead : s.nextOffset < frame.offset) (hdata : frame.data ≠ []) :
    Keeps (fun i => sent i ∨ frame.offset ≤ i ∧ i < frame.stop)
      { s with pending := s.pending.insert frame.offset frame.data } := by
  constructor
  · rintro i (hi | ⟨hoff, hstop⟩)
    · rcases h.has i hi with hlt | ⟨o, d, hd, hle, hoi, hid⟩
      · exact .inl hlt
      by_cases ho : frame.offset = o
      · have hlen := (htakes hdata o d hd (lt_of_waits hdrained hd hle)).2.2 ho.symm
        exact .inr ⟨frame.offset, frame.data, get_insert_self _ _ _, hahead.le, by omega, by omega⟩
      · exact .inr ⟨o, d, (get_insert_ne _ _ ho).trans hd, hle, hoi, hid⟩
    · exact .inr ⟨frame.offset, frame.data, get_insert_self _ _ _, hahead.le, hoff, hstop⟩
  · intro o d o' d' hd hd' hle hlt hin
    rcases of_get_insert hd with ⟨rfl, rfl⟩ | ⟨-, hd⟩ <;>
      rcases of_get_insert hd' with ⟨rfl, rfl⟩ | ⟨-, hd'⟩
    · exact absurd hlt (lt_irrefl _)
    · exact (htakes hdata o' d' hd' (hahead.trans hlt)).1 hlt hin
    · exact (htakes hdata o d hd (lt_of_waits hdrained hd hle)).2.1 hlt hin
    · exact h.nested o d o' d' hd hd' hle hlt hin

lemma Keeps.add (h : s.Keeps sent) (hrests : s.Rests S) (hcap : S.length ≤ maxCryptoBuffer)
    (hframe : FragmentOf S frame) (htakes : s.Takes frame) :
    (s.add frame).Keeps fun i => sent i ∨ frame.offset ≤ i ∧ i < frame.stop := by
  rcases s.add_cases frame with ⟨heq, hold⟩ | ⟨hold, hnew, heq⟩ | ⟨hahead, hdata, heq⟩
  · rw [heq]
    refine ⟨?_, h.nested⟩
    rintro i (hi | ⟨hoff, hstop⟩)
    · exact h.has i hi
    · rcases hold with hempty | hold
      · rw [stop, hempty, length_nil] at hstop
        omega
      · exact .inl (by omega)
  · obtain ⟨⟨hkeeps, hholds⟩, -⟩ := appendPending_keeps
      (P := fun s => s.Keeps (fun i => sent i ∨ frame.offset ≤ i ∧ i < frame.stop) ∧ s.Holds S)
      (fun _ _ hs hnext => ⟨hs.1.next hnext, hs.2.next hnext⟩)
      ⟨h.behind hrests.drained htakes hold hnew _, hrests.toHolds.behind hframe hold hnew⟩
    rw [heq, CryptoStream.trim, if_pos (le_trans hholds.length (le_trans hholds.inside hcap))]
    exact hkeeps
  · rw [heq]
    exact h.wait hrests.drained htakes hahead hdata

lemma Keeps.foldl (h : s.Keeps sent) (hrests : s.Rests S)
    (hcap : S.length ≤ maxCryptoBuffer) (hframes : ∀ frame ∈ frames, FragmentOf S frame)
    (htakes : Admits CryptoStream.add Takes s frames) : (frames.foldl CryptoStream.add s).Keeps
      fun i => sent i ∨ ∃ frame ∈ frames, frame.offset ≤ i ∧ i < frame.stop := by
  induction frames generalizing s sent with
  | nil => simpa using h
  | cons frame frames ih =>
    rw [forall_mem_cons] at hframes
    have hall := ih (h.add hrests hcap hframes.1 htakes.1) (hrests.add hframes.1) hframes.2 htakes.2
    simpa only [exists_mem_cons_iff, or_assoc, foldl_cons] using hall

/-- Fragments that cover the first `n` bytes come together in any order, unless one cuts into
another that waits. -/
theorem fragments_come_together (S : List UInt8) (hcap : S.length ≤ maxCryptoBuffer) (now : Int)
    (hframes : ∀ frame ∈ frames, FragmentOf S frame)
    (htakes : Admits add Takes (newCryptoStream now) frames) (n : Nat)
    (hcover : ∀ i < n, ∃ frame ∈ frames, frame.offset ≤ i ∧ i < frame.stop) :
    S.take n <+: (frames.foldl add (newCryptoStream now)).buffer := by
  have hstart : (newCryptoStream now).Keeps fun _ => False :=
    ⟨nofun, fun o d o' d' hd => by simp [newCryptoStream] at hd⟩
  have hkeeps := hstart.foldl (Rests.start now) hcap hframes htakes
  have hrests := (Rests.start now).foldl hframes
  generalize frames.foldl add (newCryptoStream now) = s at hkeeps hrests
  have hreach : n ≤ s.nextOffset := by
    by_contra hlt
    rcases hkeeps.has s.nextOffset (.inr (hcover _ (by omega))) with hself | ⟨o, d, hd, hle, hge, -⟩
    · exact absurd hself (lt_irrefl _)
    · cases le_antisymm hle hge
      rw [hrests.drained] at hd
      cases hd
  have hinside := hrests.inside
  rw [hrests.buffer_eq, min_eq_left (by omega)]
  exact take_prefix_take_left hreach

theorem fragments_in_reverse_come_together :
    [7, 8] <+: ([⟨1, [8]⟩, ⟨0, [7]⟩].foldl add (newCryptoStream 0)).buffer := by
  have htakes : Admits add Takes (newCryptoStream 0) [⟨1, [8]⟩, ⟨0, [7]⟩] := by
    refine ⟨fun _ o d hd => ?_, fun _ o d hd _ => ?_, trivial⟩
    · simp [newCryptoStream] at hd
    · rcases of_get_insert hd with ⟨rfl, rfl⟩ | ⟨-, hd⟩
      · simp [stop]
      · simp [newCryptoStream] at hd
  exact fragments_come_together [7, 8] (by decide) 0 (by simp [FragmentOf]) htakes 2 (by decide)

/-- The fragment that waits at 1 starts behind the first byte that is missing, so its last byte
never comes. -/
theorem overlapping_fragments_lose_a_byte :
    (∀ frame ∈ [⟨1, [8, 9]⟩, ⟨0, [7, 8]⟩], FragmentOf [7, 8, 9] frame) ∧
      (∀ i < 3, ∃ frame ∈ ([⟨1, [8, 9]⟩, ⟨0, [7, 8]⟩] : List CryptoFrame),
        frame.offset ≤ i ∧ i < frame.stop) ∧
      ¬ [7, 8, 9] <+: ([⟨1, [8, 9]⟩, ⟨0, [7, 8]⟩].foldl add (newCryptoStream 0)).buffer := by
  refine ⟨by simp [FragmentOf], by decide, by decide +kernel⟩

end CryptoStream

end sandbox0.netd.proxy
