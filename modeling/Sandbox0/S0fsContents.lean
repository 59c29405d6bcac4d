-- What a file reads before and after a materialization. The inline files of
-- a state move into one segment, the cold files keep their extents, and each
-- file reads the same bytes.
import Sandbox0.S0fsMaterializer
import Sandbox0.S0fsNameSteps

namespace sandbox0.s0fs

open GoMap List Option Nat

/-! ## Reads of the new segment -/

lemma int64_small {x : UInt64} (h : x.toNat < 2 ^ 63) : int64 x = (x.toNat : Int) := by
  unfold int64
  rw [if_pos h]

lemma toNat_ofNat_small {n : Nat} (h : n < 2 ^ 64) : (UInt64.ofNat n).toNat = n :=
  UInt64.toNat_ofNat_of_lt' h

lemma addInt64_small {a b : Nat} (h : a + b < 2 ^ 63) : addInt64 a b = ((a + b : Nat) : Int) := by
  unfold addInt64
  rw [Int.bmod_def]
  push_cast
  omega

variable {limit off : Nat}

lemma cloneByteRange_slice (payload : Bytes) (h : off + limit < 2 ^ 63) :
    cloneByteRange payload off limit = .ok (slice payload off limit) := by
  have hoff : (if (off : Int) > payload.length then (payload.length : Int) else off) =
      ((min off payload.length : Nat) : Int) := by
    split <;> omega
  have hsum : addInt64 ((min off payload.length : Nat) : Int) limit =
      ((min off payload.length + limit : Nat) : Int) := addInt64_small (by omega)
  unfold cloneByteRange
  simp only [hoff, hsum]
  have hstop : (if (limit : Int) ≥ 0 ∧
    ((min off payload.length + limit : Nat) : Int) < payload.length
      then ((min off payload.length + limit : Nat) : Int) else (payload.length : Int)) =
      ((min (min off payload.length + limit) payload.length : Nat) : Int) := by
    split <;> omega
  rw [hstop, if_pos (by omega), Int.toNat_natCast, Int.toNat_natCast, drop_take_slice]
  by_cases hle : off ≤ payload.length
  · have hcount : min (off + limit) payload.length - off = min limit (payload.length - off) := by
      omega
    rw [Nat.min_eq_left hle, hcount, ← slice_clamp]
  · rw [slice_beyond payload _ (Nat.le_of_not_le hle), slice_beyond payload _ (by omega)]

variable {objects : Objects} {m : Materializer} {segment : Segment} {rd : SegmentReader}
    {segments segments' : GoMap GoString Segment} {payload : Bytes} {s : SnapshotState}
  {files : GoMap Nat (List FileExtent)}

lemma storeGet_bytes {key : GoString} {stored : Bytes}
    (hobj : objects[objectKey key]? = some (.bytes stored)) (h : off + limit < 2 ^ 63) :
    storeGet objects key off limit = .ok (slice stored off limit) := by
  unfold storeGet
  rw [hobj]
  exact cloneByteRange_slice stored h

/-- A segment whose bytes stand in the store under its key. -/
structure Stored (m : Materializer) (objects : Objects) (ms : MaterializedSegment)
    (enc : Option SegmentEncryption) : Prop where
  written : ∃ random stored, encryptSegment m.encryption random m.volumeID ms = .ok (stored, enc) ∧
    objects[objectKey ms.key]? = some (.bytes stored)
  short : ms.payload.length ≤ maxAlloc
  full : ms.payload ≠ []
  keyed : ms.key ≠ []
  own : ms.volumeID = m.volumeID
  named : m.volumeID ≠ [] ∧ trimSpace m.volumeID = m.volumeID

open Call

section

variable {store : Objects} {ms : MaterializedSegment} {enc : Option SegmentEncryption}
    {random : Entropy} {stored : Bytes} {volumeID : GoString}
    (henc : encryptSegment m.encryption random volumeID ms = .ok (stored, enc))
    (hobj : store[objectKey ms.key]? = some (.bytes stored)) (hshort : ms.payload.length ≤ maxAlloc)

include henc hobj hshort

lemma fetchRange_sealed (h : off + limit < 2 ^ 63) :
    fetchRange m volumeID store (describeSegment ms enc) off limit =
      .ok (slice ms.payload off limit) := by
  have hstored := length_stored_le henc
  unfold maxAlloc at hshort
  unfold fetchRange
  cases enc with
  | none =>
    rw [encryptSegment_ok henc] at hobj
    simp only [describeSegment, isSome_none, Bool.false_eq_true, if_false]
    exact storeGet_bytes hobj h
  | some enc =>
    simp only [describeSegment, isSome_some, if_true]
    refine decryptSegmentRange_sealed henc (by omega) rfl rfl rfl ?_ off limit
    intro o l hol
    exact storeGet_bytes hobj (by omega)

/-- A read gives the bytes that were packed into the segment, whether they
come from the cache or from the store. -/
lemma readSegmentRangeCached_sealed (hkey : ms.key ≠ [])
    (hstore : storeForSegment m objects (describeSegment ms enc) = .ok (volumeID, store))
    {cached : Option Bytes} (hcached : ∀ payload ∈ cached, payload = ms.payload)
    (h : off + limit < 2 ^ 63) :
    ∃ cached', readSegmentRangeCached m objects (describeSegment ms enc) off limit cached =
        (.ok (slice ms.payload off limit), cached') ∧
          ∀ payload ∈ cached', payload = ms.payload := by
  have hlen : int64 (describeSegment ms enc).length = ((ms.payload.length : Nat) : Int) := by
    unfold maxAlloc at hshort
    have hnat : (describeSegment ms enc).length.toNat = ms.payload.length :=
      toNat_ofNat_small (by omega)
    rw [int64_small (by omega), hnat]
  have hkeyed : (describeSegment ms enc).key ≠ [] := hkey
  unfold readSegmentRangeCached
  rw [failIf_neg _ hkeyed, bind_pure_run]
  by_cases hl : (limit : Int) = 0
  · rw [if_pos hl, show limit = 0 by omega, slice_zero]
    exact ⟨cached, rfl, hcached⟩
  rw [if_neg hl, failIf_neg _ (by omega), bind_pure_run, hstore, bind_run, ends_run]
  dsimp only
  split
  · rw [bind_read_run]
    cases cached with
    | some payload =>
      rw [hcached payload rfl]
      exact ⟨_, congrArg (·, some ms.payload) (cloneByteRange_slice ms.payload h), by simp⟩
    | none =>
      have hwhole : fetchRange m volumeID store (describeSegment ms enc) (0 : Nat)
        ms.payload.length = .ok (slice ms.payload 0 ms.payload.length) :=
        fetchRange_sealed henc hobj hshort (by unfold maxAlloc at hshort; omega)
      rw [slice_all _ (le_refl _), cast_zero] at hwhole
      dsimp only
      rw [hlen, hwhole, bind_run, ends_run]
      exact ⟨_, congrArg (·, some ms.payload) (cloneByteRange_slice ms.payload h), by simp⟩
  · exact ⟨cached, congrArg (·, cached) (fetchRange_sealed henc hobj hshort h), hcached⟩

end

lemma readSegmentRange_uncached (off limit : Int) : readSegmentRange m objects segment off limit =
      (readSegmentRangeCached m objects segment off limit none).1 := by
  unfold readSegmentRange readSegmentRangeCached failIf
  split
  · rfl
  rw [bind_pure_run]
  split
  · rfl
  split
  · rfl
  rw [bind_pure_run, bind_run, ends_run]
  rcases storeForSegment m objects segment with ⟨volumeID, store⟩ | _ | _
  · have hread : ∀ x y : Call Err (Option Bytes) Bytes, x = y → (x none).1 = (y none).1 :=
      fun _ _ h => by rw [h]
    simp only [bind]
    by_cases hc : cacheable segment
    · refine Eq.trans ?_ (hread _ _ (if_pos hc)).symm
      rw [if_pos hc]
      cases fetchRange m volumeID store segment 0 (int64 segment.length) <;> rfl
    · refine Eq.trans ?_ (hread _ _ (if_neg hc)).symm
      rw [if_neg hc]
      rfl
  · rfl
  · rfl

lemma storeForSegment_own (hnamed : m.volumeID ≠ [] ∧ trimSpace m.volumeID = m.volumeID)
    (hown : segment.volumeID = m.volumeID) :
    storeForSegment m objects segment = .ok (m.volumeID, objects) := by
  unfold storeForSegment
  simp only [hown, hnamed.2, hnamed.1, if_false]
  simp

lemma readSegmentRange_stored {ms : MaterializedSegment} {enc : Option SegmentEncryption}
    (hst : Stored m objects ms enc) (off limit : Nat) (h : off + limit < 2 ^ 63) :
    readSegmentRange m objects (describeSegment ms enc) off limit =
      .ok (slice ms.payload off limit) := by
  obtain ⟨random, stored, henc, hobj⟩ := hst.written
  have hnone : ∀ payload ∈ (none : Option Bytes), payload = ms.payload := by simp
  obtain ⟨cached, hread, _⟩ := readSegmentRangeCached_sealed henc hobj hst.short hst.keyed
    (storeForSegment_own hst.named hst.own) hnone h
  rw [readSegmentRange_uncached, hread]

/-- Every read of a range of a segment gives that range of the payload, and for
every chunk it opens what was sealed, under the same nonce and associated data. -/
theorem segment_range_reads_are_exact {m : Materializer} {objects store : Objects}
    {ms : MaterializedSegment} {enc : Option SegmentEncryption} {random : Entropy} {stored : Bytes}
    {volumeID : GoString}
    (henc : encryptSegment m.encryption random volumeID ms = .ok (stored, enc))
    (hobj : store[objectKey ms.key]? = some (.bytes stored)) (hshort : ms.payload.length ≤ maxAlloc)
    (hkey : ms.key ≠ [])
    (hstore : storeForSegment m objects (describeSegment ms enc) = .ok (volumeID, store))
    {cached : Option Bytes} (hcached : ∀ payload ∈ cached, payload = ms.payload) :
    (∀ off limit : Nat, off + limit < 2 ^ 63 →
      ∃ cached', readSegmentRangeCached m objects (describeSegment ms enc) off limit cached =
        (.ok ((ms.payload.take (min (off + limit) ms.payload.length)).drop
          (min off ms.payload.length)), cached') ∧ ∀ payload ∈ cached', payload = ms.payload) ∧
    ∀ e, enc = some e → ∃ (c : EncryptionConfig) (keyEncryptor : KeyEncryptor) (aead : Aead),
      encryptionEnabled m.encryption = some (c, keyEncryptor) ∧
      c.newAEADForAlgorithm e.algorithm random.dataKey = .ok aead ∧
      ∀ k, k * e.chunkSize.toNat < ms.payload.length →
        let chunk := slice ms.payload (k * e.chunkSize.toNat) e.chunkSize.toNat
        storeGet store ms.key ↑(k * (e.chunkSize.toNat + aead.overhead))
            ↑(chunk.length + aead.overhead) =
          .ok (aead.sealBytes (segmentChunkNonce aead.nonceSize e.noncePrefix k) chunk
            (segmentChunkAAD volumeID ms.id ms.key k chunk.length e.algorithm)) := by
  refine ⟨fun off limit h => ?_, ?_⟩
  · obtain ⟨cached', hread, hkept⟩ :=
      readSegmentRangeCached_sealed henc hobj hshort hkey hstore hcached h
    refine ⟨cached', ?_, hkept⟩
    rw [hread, drop_take_slice, slice_clamp]
    by_cases hle : off ≤ ms.payload.length
    · rw [min_eq_left hle]
      congr 3
      omega
    · rw [slice_beyond _ _ (by omega), slice_beyond _ _ (by omega)]
  · rintro e rfl
    obtain ⟨c, keys, aead, hc, _, _, haead, _, hsize, _, hstored⟩ := encryptSegment_ok henc
    refine ⟨c, keys, aead, hc, haead, fun k hk => ?_⟩
    have hbound := length_stored_le henc
    unfold maxAlloc at hshort
    have hget := @get_sealedChunk volumeID e stored aead (storeGet store)
      (describeSegment ms (some e)) _ k (by rw [hsize]; exact chunkSize_pos c) hk hstored
      fun o l hol => storeGet_bytes hobj (by omega)
    rw [← length_slice] at hget
    exact hget

/-- A cipher that only marks what it seals, in chunks of two bytes. -/
def markingConfig : EncryptionConfig :=
  let aead : Aead :=
    { nonceSize := 12, overhead := 1, sealBytes := fun _ plaintext _ => plaintext ++ [0],
      openBytes := fun _ ciphertext _ => some ciphertext.dropLast, nonceSize_le := by decide,
      overhead_le := by decide, open_seal := by simp, length_seal := by simp }
  { enabled := true, algorithm := [], segmentChunkSize := 2, newGCM := fun _ => .ok aead,
    newChaCha := fun _ => .ok aead,
    keyEncryptor := some
      { encrypt := fun _ key => .ok key, decrypt := .ok, decrypt_encrypt := by simp } }

def markedObjects : Objects :=
  (∅ : Objects).insert (objectKey (lit "k")) (.bytes [1, 2, 0, 3, 4, 0, 5, 0])

theorem range_over_three_chunks :
    let m : Materializer := ⟨lit "v", none, true, some markingConfig⟩
    let ms : MaterializedSegment := ⟨lit "s", lit "v", lit "k", [1, 2, 3, 4, 5]⟩
    ∃ enc cached, readSegmentRangeCached m markedObjects (describeSegment ms enc) 1 4 none =
      (.ok [2, 3, 4, 5], cached) := by
  intro m ms
  have henc : encryptSegment m.encryption ⟨[], [], []⟩ (lit "v") ms =
      .ok ([1, 2, 0, 3, 4, 0, 5, 0], some ⟨1, encryptionAlgoAES256GCMRSA, 2, 5, 8, [], []⟩) := by
    decide +kernel
  have hobj : markedObjects[objectKey ms.key]? = some (.bytes [1, 2, 0, 3, 4, 0, 5, 0]) :=
    get_insert_self ..
  have hnone : ∀ payload ∈ (none : Option Bytes), payload = ms.payload := by simp
  obtain ⟨cached, hread, _⟩ :=
    (segment_range_reads_are_exact henc hobj (by decide) (by decide +kernel)
    (storeForSegment_own (by decide +kernel) rfl) hnone).1 1 4 (by decide)
  exact ⟨_, cached, hread⟩

/-! ## Reads of extents -/

/-- The extents lay out the bytes `c`: each one is a range of a segment that
reads as `whole`. -/
def Laid (rd : SegmentReader) (segments : GoMap GoString Segment) : List FileExtent → Bytes → Prop
  | [], c => c = []
  | x :: rest, c => ∃ segment whole tail, segments[x.segmentID]? = some segment ∧
      (∀ o l : Nat, o + l < 2 ^ 63 → rd segment o l = .ok (slice whole o l)) ∧
      x.offset.toNat + x.length.toNat ≤ whole.length ∧ whole.length < 2 ^ 63 ∧
      c = slice whole x.offset.toNat x.length.toNat ++ tail ∧ Laid rd segments rest tail

lemma toNat_maxUint64 (a b : UInt64) : (maxUint64 a b).toNat = max a.toNat b.toNat := by
  unfold maxUint64
  split <;> rename_i h <;> rw [gt_iff_lt, UInt64.lt_iff_toNat_lt] at h <;> omega

lemma toNat_minUint64 (a b : UInt64) : (minUint64 a b).toNat = min a.toNat b.toNat := by
  unfold minUint64
  split <;> rename_i h <;> rw [UInt64.lt_iff_toNat_lt] at h <;> omega

/-- What an extent that meets the range leaves of it. -/
lemma left_after {a b n l : Nat} (ha : a < n + l) (hb : n < b) :
    b - a - (min b n - a) - min (b - max a n) (l - (a - n)) =
      b - a - (min b (n + l) - a) := by omega

/-- The loop over the extents from file offset `n` on adds what they hold of
the range from `a` to `b`. -/
lemma readExtents_laid {start stop fileOffset remaining : UInt64} {extents : List FileExtent}
    {c : Bytes} {a b n : Nat} (hc : Laid rd segments extents c) (ha : start.toNat = a)
    (hb : stop.toNat = b) (hn : fileOffset.toNat = n) (hle : a ≤ b) (hfit : n + c.length < 2 ^ 63)
    (hleft : remaining.toNat = b - a - (min b n - a)) (out : Bytes) :
    readExtents rd segments start stop extents fileOffset remaining out =
      .ok (out ++ slice c (a - n) (b - max a n)) := by
  induction extents generalizing c fileOffset n remaining out with
  | nil =>
    cases hc
    simp [readExtents, slice]
  | cons x rest ih =>
    obtain ⟨segment, whole, tail, hseg, hrd, hin, hwhole, rfl, htail⟩ := hc
    have hslice := slice_slice whole x.offset.toNat x.length.toNat (a - n) (b - max a n)
    have hlen : (slice whole x.offset.toNat x.length.toNat).length = x.length.toNat := by
      rw [length_slice]
      omega
    generalize slice whole x.offset.toNat x.length.toNat = w at hslice hlen hfit ⊢
    rw [length_append, hlen] at hfit
    have hend : (fileOffset + x.length).toNat = n + x.length.toNat := by
      rw [UInt64.toNat_add, hn]
      exact Nat.mod_eq_of_lt (by omega)
    rw [slice_of_append, hlen]
    unfold readExtents
    simp only [UInt64.le_iff_toNat_le, ge_iff_le, ha, hb, hn, hend]
    split
    · rename_i hout
      have hnone : slice w (a - n) (b - max a n) = [] := by
        rcases hout with hout | hout
        · rw [show b - max a n = 0 by omega, slice_zero]
        · exact slice_beyond _ _ (by omega)
      rw [hnone, nil_append, ih htail hend (by omega) (by omega)]
      congr 3 <;> omega
    · rename_i hmeet
      have hmin := toNat_minUint64 stop (fileOffset + x.length)
      have hmax := toNat_maxUint64 start fileOffset
      rw [hb, hend] at hmin
      rw [ha, hn] at hmax
      have hcount : (minUint64 stop (fileOffset + x.length) - maxUint64 start fileOffset).toNat =
          min (b - max a n) (x.length.toNat - (a - n)) := by
        rw [UInt64.toNat_sub_of_le _ _ (by rw [UInt64.le_iff_toNat_le]; omega), hmin, hmax]
        omega
      have hstart : (x.offset + (maxUint64 start fileOffset - fileOffset)).toNat =
          x.offset.toNat + (a - n) := by
        rw [UInt64.toNat_add, UInt64.toNat_sub_of_le _ _ (by rw [UInt64.le_iff_toNat_le]; omega),
          Nat.mod_eq_of_lt (by omega)]
        omega
      have hread := hrd (x.offset.toNat + (a - n)) (min (b - max a n) (x.length.toNat - (a - n)))
        (by omega)
      rw [← hslice] at hread
      rw [hseg, int64_small (by rw [hstart]; omega), int64_small (by rw [hcount]; omega),
        hstart, hcount]
      simp only [hread]
      have hafter : (remaining - UInt64.ofNat (slice w (a - n) (b - max a n)).length).toNat =
          b - a - (min b (n + x.length.toNat) - a) := by
        have hof : (UInt64.ofNat (slice w (a - n) (b - max a n)).length).toNat =
            min (b - max a n) (x.length.toNat - (a - n)) := by
          rw [length_slice, hlen]
          exact toNat_ofNat_small (by omega)
        rw [UInt64.toNat_sub_of_le _ _ (by rw [UInt64.le_iff_toNat_le]; omega), hof, hleft]
        exact left_after (by omega) (by omega)
      split
      · rename_i hz
        have hzero : b - a - (min b (n + x.length.toNat) - a) = 0 := by rw [← hafter, hz]; rfl
        rw [show b - max a n - (x.length.toNat - (a - n)) = 0 by omega, slice_zero, append_nil]
      · rw [ih htail hend (by omega) hafter, append_assoc]
        congr 4 <;> omega

lemma Laid.read {extents : List FileExtent} {c : Bytes} {off size : UInt64}
    (h : Laid rd segments extents c) (hrange : off.toNat + size.toNat < 2 ^ 64)
    (hshort : c.length < 2 ^ 63) :
    readExtents rd segments off (off + size) extents 0 size [] =
      .ok (slice c off.toNat size.toNat) := by
  have hstop : (off + size).toNat = off.toNat + size.toNat := by
    rw [UInt64.toNat_add]
    exact Nat.mod_eq_of_lt hrange
  rw [readExtents_laid h rfl hstop rfl (by omega) (by simpa using hshort) (by simp)]
  simp

def segmentReads (rd : SegmentReader) (segments : GoMap GoString Segment) (id : GoString) :
    Option (GoString × (Int → Int → Outcome Err Bytes)) :=
  segments[id]?.map fun seg => (seg.key, rd seg)

lemma readExtents_congr {rd rd' : SegmentReader} {start stop : UInt64} (extents : List FileExtent)
    (h : ∀ x ∈ extents, segmentReads rd' segments' x.segmentID =
      segmentReads rd segments x.segmentID)
    (fileOffset remaining : UInt64) (out : Bytes) :
    readExtents rd' segments' start stop extents fileOffset remaining out =
      readExtents rd segments start stop extents fileOffset remaining out := by
  induction extents generalizing fileOffset remaining out with
  | nil => rfl
  | cons x rest ih =>
    have hrest := ih (fun y hy => h y (mem_cons_of_mem _ hy))
    have hx := h x mem_cons_self
    unfold segmentReads at hx
    unfold readExtents
    cases hs : segments[x.segmentID]? with
    | none =>
      rw [hs, map_none, map_eq_none_iff] at hx
      simp only [hx, hrest]
    | some seg =>
      rw [hs, map_some, map_eq_some_iff] at hx
      obtain ⟨seg', hs', heq⟩ := hx
      obtain ⟨hkey, hrd⟩ := Prod.mk.inj heq
      simp only [hs', hkey, hrd, hrest]

/-! ## The new segment -/

/-- Where a file stands in the segment. -/
structure PackedAt (segmentID : GoString) (buf : Bytes) (files : GoMap Nat (List FileExtent))
    (inode : Nat) (payload : Bytes) (offset : Nat) : Prop where
  extent : files[inode]? = some
    [{ segmentID, offset := UInt64.ofNat offset, length := UInt64.ofNat payload.length }]
  bytes : slice buf offset payload.length = payload
  inside : offset + payload.length ≤ buf.length

lemma PackedAt.full {segmentID : GoString} {buf : Bytes} {inode : Nat} {offset : Nat}
    (h : PackedAt segmentID buf files inode payload offset) (hne : payload ≠ []) : buf ≠ [] := by
  intro hnil
  have hbytes := h.bytes
  rw [hnil] at hbytes
  apply hne
  rw [← hbytes]
  simp [slice]

/-- The loop packs each file once, and only lengthens the buffer. -/
lemma packFiles_packs {segmentID : GoString} (l : List (Nat × Bytes)) {buf buf' : Bytes}
    {files' : GoMap Nat (List FileExtent)} (hnodup : (l.map Prod.fst).Nodup)
    (h : packFiles segmentID l buf files = .ok (buf', files')) (hbuf : buf.length ≤ maxAlloc) :
    buf'.length ≤ maxAlloc ∧ (∃ tail, buf' = buf ++ tail) ∧
      (∀ i, i ∉ l.map Prod.fst → files'[i]? = files[i]?) ∧
      ∀ i payload, (i, payload) ∈ l →
        ∃ offset, PackedAt segmentID buf' files' i payload offset := by
  induction l generalizing buf files with
  | nil =>
    simp only [packFiles, Outcome.ok.injEq, Prod.mk.injEq] at h
    obtain ⟨rfl, rfl⟩ := h
    exact ⟨hbuf, ⟨[], by simp⟩, fun _ _ => rfl, by simp⟩
  | cons f rest ih =>
    obtain ⟨inode, payload⟩ := f
    simp only [map_cons, nodup_cons] at hnodup
    rw [packFiles] at h
    split at h
    · cases h
    rename_i hfit
    obtain ⟨hmax, ⟨tail, htail⟩, hother, hpacked⟩ :=
      ih hnodup.2 h (by rw [length_append]; omega)
    refine ⟨hmax, ⟨payload ++ tail, by rw [htail, append_assoc]⟩, ?_, ?_⟩
    · intro i hi
      simp only [map_cons, mem_cons, not_or] at hi
      rw [hother i hi.2, get_insert_ne _ _ (Ne.symm hi.1)]
    · intro i p hmem
      rcases mem_cons.mp hmem with heq | hmem
      · simp only [Prod.mk.injEq] at heq
        obtain ⟨rfl, rfl⟩ := heq
        refine ⟨buf.length, ?_, ?_, ?_⟩
        · rw [hother i hnodup.1, get_insert_self]
        · have hright := slice_right buf (p ++ tail) 0 p.length
          rw [htail, append_assoc, ← add_zero buf.length, hright, slice_left _ _ (by omega)]
          exact slice_all p (le_refl _)
        · rw [htail]
          simp only [length_append]
          omega
      · exact hpacked i p hmem

lemma mem_hotFiles {i : Nat} :
    (i, payload) ∈ s.hotFiles ↔ s.data[i]? = some payload ∧ payload ≠ [] ∧
      ∃ node, s.nodes[i]? = some node ∧ node.type ≠ .directory := by
  unfold SnapshotState.hotFiles
  simp only [List.mem_filter, GoMap.mem_toList, Bool.and_eq_true, decide_eq_true_eq,
    Option.any_eq_true]

lemma nodup_hotFiles (s : SnapshotState) : (s.hotFiles.map Prod.fst).Nodup :=
  (GoMap.nodup_keys s.data).sublist (filter_sublist.map _)

/-! ## The files that stay cold -/

/-- A cold file that the new manifest keeps as it is. -/
def Retained (s : SnapshotState) (i : Nat) : Prop :=
  s.data[i]? = none ∧ ∃ node, s.nodes[i]? = some node

/-- The segments that the files so far need are there, with the values of `known`. -/
lemma retainSegments_keeps {known : GoMap GoString Segment} (extents : List FileExtent)
    (h : retainSegments known extents segments = .ok segments')
    (hsub : ∀ (id : GoString) seg, segments[id]? = some seg → known[id]? = some seg) :
    (∀ (id : GoString) seg, segments'[id]? = some seg → known[id]? = some seg) ∧
      (∀ (id : GoString) seg, segments[id]? = some seg → segments'[id]? = some seg) ∧
      ∀ x ∈ extents, ∃ seg, segments'[x.segmentID]? = some seg := by
  induction extents generalizing segments with
  | nil =>
    simp only [retainSegments, Outcome.ok.injEq] at h
    subst h
    exact ⟨hsub, fun _ _ hs => hs, by simp⟩
  | cons x rest ih =>
    rw [retainSegments] at h
    cases hx : known[x.segmentID]? with
    | none => rw [hx] at h; cases h
    | some segment =>
      rw [hx] at h
      have hsub' : ∀ (id : GoString) seg, (segments.insert x.segmentID segment)[id]? = some seg →
          known[id]? = some seg := by
        exact all_insert hx hsub
      obtain ⟨h1, h2, h3⟩ := ih h hsub'
      refine ⟨h1, ?_, ?_⟩
      · intro id seg hs
        apply h2
        by_cases hid : x.segmentID = id
        · subst hid
          rw [get_insert_self]
          exact hx.symm.trans (hsub _ seg hs)
        · rw [get_insert_ne _ _ hid]
          exact hs
      · exact forall_mem_cons.mpr ⟨⟨segment, h2 _ _ (get_insert_self _ _ _)⟩, h3⟩

lemma retainFiles_keeps (l : List (Nat × List FileExtent))
    {cold cold' : GoMap Nat (List FileExtent)} (hnodup : (l.map Prod.fst).Nodup)
    (h : retainFiles s l cold segments = .ok (cold', segments'))
    (hsub : ∀ (id : GoString) seg, segments[id]? = some seg → s.segments[id]? = some seg) :
    (∀ (id : GoString) seg, segments'[id]? = some seg → s.segments[id]? = some seg) ∧
      (∀ (id : GoString) seg, segments[id]? = some seg → segments'[id]? = some seg) ∧
      (∀ i, ¬ (i ∈ l.map Prod.fst ∧ Retained s i) → cold'[i]? = cold[i]?) ∧
      ∀ i extents, (i, extents) ∈ l → Retained s i → cold'[i]? = some extents ∧
        ∀ x ∈ extents, ∃ seg, segments'[x.segmentID]? = some seg := by
  induction l generalizing cold segments with
  | nil =>
    simp only [retainFiles, Outcome.ok.injEq, Prod.mk.injEq] at h
    obtain ⟨rfl, rfl⟩ := h
    exact ⟨hsub, fun _ _ hs => hs, fun _ _ => rfl, by simp⟩
  | cons f rest ih =>
    obtain ⟨inode, extents⟩ := f
    simp only [map_cons, nodup_cons] at hnodup
    rw [retainFiles] at h
    split at h
    · rename_i hskip
      have hnot : ¬ Retained s inode := by
        rintro ⟨hd, node, hn⟩
        simp [hd, hn] at hskip
      obtain ⟨h1, h2, h3, h4⟩ := ih hnodup.2 h hsub
      refine ⟨h1, h2, fun i hi => h3 i fun hr => hi ⟨mem_cons_of_mem _ hr.1, hr.2⟩, ?_⟩
      intro i xs hmem hr
      rcases mem_cons.mp hmem with heq | hmem
      · cases heq
        exact absurd hr hnot
      · exact h4 i xs hmem hr
    · rename_i hkeep
      cases hseg : retainSegments s.segments extents segments with
      | err | panic => simp [hseg, bind] at h
      | ok segs =>
        simp only [hseg, bind] at h
        obtain ⟨hs1, hs2, hs3⟩ := retainSegments_keeps extents hseg hsub
        obtain ⟨h1, h2, h3, h4⟩ := ih hnodup.2 h hs1
        have hret : Retained s inode := by
          simp only [not_or, isSome_iff_ne_none, ne_eq, not_not, isNone_iff_eq_none] at hkeep
          exact ⟨hkeep.1, ne_none_iff_exists'.mp hkeep.2⟩
        refine ⟨h1, fun id seg hs => h2 id seg (hs2 id seg hs), ?_, ?_⟩
        · intro i hi
          have hne : inode ≠ i := by
            rintro rfl
            exact hi ⟨mem_cons_self, hret⟩
          rw [h3 i fun hr => hi ⟨mem_cons_of_mem _ hr.1, hr.2⟩, get_insert_ne _ _ hne]
        · intro i xs hmem hr
          rcases mem_cons.mp hmem with heq | hmem
          · cases heq
            refine ⟨?_, fun x hx => ?_⟩
            · rw [h3 inode fun hr => hnodup.1 hr.1, get_insert_self]
            · obtain ⟨seg, hx'⟩ := hs3 x hx
              exact ⟨seg, h2 _ _ hx'⟩
          · exact h4 i xs hmem hr

lemma addHotFiles_get (l : List (Nat × List FileExtent)) (hnodup : (l.map Prod.fst).Nodup)
    (hnode : ∀ f ∈ l, s.nodes[f.1]?.isNone = false) (cold : GoMap Nat (List FileExtent)) :
    (∀ i extents, (i, extents) ∈ l → (addHotFiles s l cold)[i]? = some extents) ∧
      ∀ i, i ∉ l.map Prod.fst → (addHotFiles s l cold)[i]? = cold[i]? := by
  induction l generalizing cold with
  | nil => exact ⟨by simp, fun _ _ => rfl⟩
  | cons f rest ih =>
    simp only [map_cons, nodup_cons] at hnodup
    have hstep : addHotFiles s (f :: rest) cold = addHotFiles s rest (cold.insert f.1 f.2) := by
      simp only [addHotFiles, foldl_cons, hnode f mem_cons_self]
      rfl
    obtain ⟨h1, h2⟩ := ih hnodup.2 (fun g hg => hnode g (mem_cons_of_mem _ hg))
      (cold.insert f.1 f.2)
    rw [hstep]
    constructor
    · intro i extents hmem
      rcases mem_cons.mp hmem with rfl | hmem
      · rw [h2 i hnodup.1, get_insert_self]
      · exact h1 i extents hmem
    · intro i hi
      simp only [map_cons, mem_cons, not_or] at hi
      rw [h2 i hi.2, get_insert_ne _ _ (Ne.symm hi.1)]

/-! ## Reads of the segments that stay -/

lemma decryptSegmentRange_congr {c : Option EncryptionConfig} {get get' : StoreGet}
    {volumeID : GoString} (h : get' segment.key = get segment.key) (off limit : Int) :
    decryptSegmentRange c get' volumeID segment off limit =
      decryptSegmentRange c get volumeID segment off limit := by
  have hchunk : ∀ aead enc size o stop,
      openChunk aead get' volumeID segment enc size o stop =
        openChunk aead get volumeID segment enc size o stop := by
    intro aead enc size o stop
    funext k
    unfold openChunk
    rw [h]
  unfold decryptSegmentRange
  simp only [hchunk]

/-- A segment of this volume, or of one that the volume was forked from. -/
def OwnSegment (m : Materializer) (segment : Segment) : Prop :=
  trimSpace segment.volumeID = [] ∨ trimSpace segment.volumeID = m.volumeID

/-- A read depends only on the object under the key of its segment. -/
lemma readSegmentRange_congr {objects' : Objects}
    (h : OwnSegment m segment →
      objects'[objectKey segment.key]? = objects[objectKey segment.key]?) :
    readSegmentRange m objects' segment = readSegmentRange m objects segment := by
  have hfetch : ∀ store store' : Objects,
      store'[objectKey segment.key]? = store[objectKey segment.key]? → ∀ volumeID off limit,
      fetchRange m volumeID store' segment off limit =
      fetchRange m volumeID store segment off limit := by
    intro store store' hst volumeID off limit
    have hget : storeGet store' segment.key = storeGet store segment.key := by
      funext o l
      unfold storeGet
      rw [hst]
    unfold fetchRange
    rw [decryptSegmentRange_congr hget, hget]
  funext off limit
  unfold readSegmentRange storeForSegment
  by_cases hown : OwnSegment m segment
  · have hf := hfetch objects objects' (h hown)
    have hvol : (if trimSpace segment.volumeID = [] then m.volumeID
      else trimSpace segment.volumeID) = m.volumeID := by
      rcases hown with hblank | hsame
      · rw [if_pos hblank]
      · rw [hsame]
        split <;> rfl
    simp only [hvol, or_true, if_true, bind, hf]
  · unfold OwnSegment at hown
    rw [not_or] at hown
    simp only [hown.1, hown.2, false_or, if_false]

lemma readSegmentRange_defaulted (objects : Objects) (segment : Segment)
    (hnamed : m.volumeID ≠ [] ∧ trimSpace m.volumeID = m.volumeID) :
    readSegmentRange m objects (defaultVolumeID m.volumeID segment) =
      readSegmentRange m objects segment := by
  unfold defaultVolumeID
  split
  · rename_i hblank
    have hstore : storeForSegment m objects { segment with volumeID := m.volumeID } =
        storeForSegment m objects segment := by
      unfold storeForSegment
      simp only [hnamed.2, hnamed.1, hblank, if_false, if_true]
    funext off limit
    unfold readSegmentRange
    rw [hstore]
    rfl
  · rfl

end sandbox0.s0fs
