-- Encrypted segments. A segment is sealed chunk by chunk, and a read opens
-- the chunks that it needs; what it gives is the range of the plain bytes.
import Sandbox0.S0fsApply
import Sandbox0.ByteRange

namespace sandbox0.s0fs

open Nat List

/-! ## Ciphers and keys -/

/-- `cipher.AEAD` for one key. What it seals, it opens. -/
structure Aead where
  nonceSize : Nat
  overhead : Nat
  sealBytes : (nonce plaintext aad : Bytes) → Bytes
  openBytes : (nonce ciphertext aad : Bytes) → Option Bytes
  nonceSize_le : 8 ≤ nonceSize
  overhead_le : overhead ≤ 16
  open_seal : ∀ nonce plaintext aad, openBytes nonce (sealBytes nonce plaintext aad) aad =
    some plaintext
  length_seal : ∀ nonce plaintext aad,
    (sealBytes nonce plaintext aad).length = plaintext.length + overhead

/-- `objectstore.Encryptor`, which wraps the key of a segment. The random
bytes that it takes are its first argument. -/
structure KeyEncryptor where
  encrypt : (random key : Bytes) → Outcome Err Bytes
  decrypt : (wrapped : Bytes) → Outcome Err Bytes
  decrypt_encrypt : ∀ random key wrapped, encrypt random key = .ok wrapped →
    decrypt wrapped = .ok key

structure EncryptionConfig where
  enabled : Bool
  algorithm : GoString
  keyEncryptor : Option KeyEncryptor
  segmentChunkSize : UInt64
  newGCM : (key : Bytes) → Outcome Err Aead
  newChaCha : (key : Bytes) → Outcome Err Aead

def encryptionAlgoAES256GCMRSA : GoString := lit "aes256gcm-rsa"

def encryptionAlgoCHACHA20RSA : GoString := lit "chacha20-rsa"

def defaultEncryptionChunkSize : UInt64 := 1048576

/-- `c.enabled()`, with what it finds. -/
def encryptionEnabled (c : Option EncryptionConfig) : Option (EncryptionConfig × KeyEncryptor) :=
  match c with
  | none => none
  | some c => if c.enabled then c.keyEncryptor.map (fun k => (c, k)) else none

def EncryptionConfig.normalizedAlgorithm (c : EncryptionConfig) : GoString :=
  if trimSpace c.algorithm = [] then encryptionAlgoAES256GCMRSA else trimSpace c.algorithm

def EncryptionConfig.chunkSize (c : EncryptionConfig) : UInt64 :=
  if c.segmentChunkSize = 0 then defaultEncryptionChunkSize else c.segmentChunkSize

def EncryptionConfig.newAEADForAlgorithm (c : EncryptionConfig) (algorithm : GoString)
    (key : Bytes) : Outcome Err Aead :=
  let algorithm := trimSpace algorithm
  let algorithm := if algorithm = [] then encryptionAlgoAES256GCMRSA else algorithm
  if algorithm = encryptionAlgoAES256GCMRSA then c.newGCM key
  else if algorithm = encryptionAlgoCHACHA20RSA then c.newChaCha key
  else .err (.unsupportedAlgorithm algorithm)

/-- `fmt.Errorf("...: %w", err)`. -/
def wrapErr {α : Type} (f : Err → Err) : Outcome Err α → Outcome Err α
  | .ok a => .ok a
  | .err e => .err (f e)
  | .panic => .panic

/-- The eight bytes of `binary.BigEndian.PutUint64`. -/
def bigEndian64 (n : Nat) : Bytes :=
  [56, 48, 40, 32, 24, 16, 8, 0].map fun shift => (n >>> shift).toUInt8

def segmentChunkNonce (nonceSize : Nat) (noncePrefix : Bytes) (chunkIndex : Nat) : Bytes :=
  (copyBytes (List.replicate nonceSize 0) noncePrefix).take (nonceSize - 8) ++
    bigEndian64 chunkIndex

def segmentChunkAAD (volumeID segmentID key : GoString) (chunkIndex plainLen : Nat)
    (algorithm : GoString) : Bytes :=
  lit "s0fs-segment-v1\nvolume=" ++ volumeID ++ lit "\nsegment=" ++ segmentID ++
    lit "\nkey=" ++ key ++
    lit "\nchunk=" ++ decimal chunkIndex ++ lit "\nplain_len=" ++ decimal plainLen ++
    lit "\nalgorithm=" ++ algorithm

/-! ## Segments -/

structure MaterializedSegment where
  id : GoString
  volumeID : GoString
  key : GoString
  payload : Bytes

structure Entropy where
  dataKey : Bytes
  wrapping : Bytes
  noncePrefix : Bytes

def segmentEncryptionVersion : Nat := 1

def sealedChunk (aead : Aead) (volumeID segmentID key noncePrefix algorithm : Bytes)
    (chunkIndex : Nat) (chunk : Bytes) : Bytes :=
  aead.sealBytes (segmentChunkNonce aead.nonceSize noncePrefix chunkIndex) chunk
    (segmentChunkAAD volumeID segmentID key chunkIndex chunk.length algorithm)

def encryptSegment (c : Option EncryptionConfig) (random : Entropy) (volumeID : GoString)
    (segment : MaterializedSegment) : Outcome Err (Bytes × Option SegmentEncryption) :=
  match encryptionEnabled c with
  | none => .ok (segment.payload, none)
  | some (c, keyEncryptor) =>
    if segment.payload = [] then .ok (segment.payload, none)
    else do
      let wrappedKey ← wrapErr .wrapSegmentKey (keyEncryptor.encrypt random.wrapping random.dataKey)
      let aead ← c.newAEADForAlgorithm c.normalizedAlgorithm random.dataKey
      let out := packFrom
        (sealedChunk aead volumeID segment.id segment.key random.noncePrefix c.normalizedAlgorithm)
        c.chunkSize.toNat segment.payload segment.payload.length 0
      pure (out, some
        { version := segmentEncryptionVersion, algorithm := c.normalizedAlgorithm,
          chunkSize := c.chunkSize, plaintextSize := UInt64.ofNat segment.payload.length,
          ciphertextSize := UInt64.ofNat out.length, wrappedKey, noncePrefix :=
            random.noncePrefix })

/-- `store.Get(key, off, limit)`, and all of its bytes read. -/
abbrev StoreGet := GoString → Int → Int → Outcome Err Bytes

/-- What one turn of the loop of `decryptSegmentRange` adds. -/
def openChunk (aead : Aead) (get : StoreGet) (volumeID : GoString) (segment : Segment)
    (enc : SegmentEncryption) (plaintextSize off stop chunkIndex : Nat) : Outcome Err Bytes := do
  let plainStart := chunkIndex * enc.chunkSize.toNat
  let plainLen :=
    if plainStart + enc.chunkSize.toNat > plaintextSize then plaintextSize - plainStart
    else enc.chunkSize.toNat
  let cipherOffset := chunkIndex * (enc.chunkSize.toNat + aead.overhead)
  let ciphertext ← get segment.key cipherOffset ↑(plainLen + aead.overhead)
  match aead.openBytes (segmentChunkNonce aead.nonceSize enc.noncePrefix chunkIndex) ciphertext
      (segmentChunkAAD volumeID segment.id segment.key chunkIndex plainLen enc.algorithm) with
  | none => .err (.decryptSegmentChunk chunkIndex)
  | some chunk =>
    let chunkFrom := if off > plainStart then off - plainStart else 0
    let chunkTo := if stop < plainStart + plainLen then stop - plainStart else plainLen
    sliceBytes chunk chunkFrom chunkTo

/-- The loop of `decryptSegmentRange`, for `turns` chunks from `chunkIndex` on. -/
def openChunks (openAt : Nat → Outcome Err Bytes) : Nat → Nat → Bytes → Outcome Err Bytes
  | 0, _, out => .ok out
  | turns + 1, chunkIndex, out => do
    let part ← openAt chunkIndex
    openChunks openAt turns (chunkIndex + 1) (out ++ part)

def decryptSegmentRange (c : Option EncryptionConfig) (get : StoreGet) (volumeID : GoString)
    (segment : Segment) (off limit : Int) : Outcome Err Bytes :=
  match segment.encryption with
  | none => .err (.invalidInput "segment encryption metadata is required")
  | some enc =>
    match encryptionEnabled c with
    | none => .err (.invalidInput "encrypted segment requires encryption config")
    | some (c, keyEncryptor) =>
      if enc.version ≠ segmentEncryptionVersion then
        .err (.unsupportedSegmentEncryption enc.version)
      else if enc.chunkSize = 0 then
        .err (.invalidInput "encrypted segment chunk size is required")
      else if off < 0 then .err (.invalidInput "negative segment offset")
      else
        let plaintextSize :=
          (if enc.plaintextSize = 0 then segment.length else enc.plaintextSize).toNat
        if off ≥ plaintextSize ∨ limit = 0 then .ok []
        else
          let stop := if limit ≥ 0 ∧ off + limit < plaintextSize then (off + limit).toNat
            else plaintextSize
          do
            let key ← wrapErr .unwrapSegmentKey (keyEncryptor.decrypt enc.wrappedKey)
            let aead ← c.newAEADForAlgorithm enc.algorithm key
            let startChunk := off.toNat / enc.chunkSize.toNat
            let endChunk := (stop - 1) / enc.chunkSize.toNat
            openChunks (openChunk aead get volumeID segment enc plaintextSize off.toNat stop)
              (endChunk + 1 - startChunk) startChunk []

/-! ## A read gives the plain bytes -/

lemma chunkSize_pos (c : EncryptionConfig) : 0 < c.chunkSize.toNat := by
  unfold EncryptionConfig.chunkSize
  split
  · decide
  · rename_i h
    have hne : c.segmentChunkSize.toNat ≠ 0 := fun h0 => h (UInt64.toNat_inj.mp h0)
    omega

lemma length_sealedChunk (aead : Aead) (volumeID segmentID key noncePrefix algorithm : Bytes)
    (chunkIndex : Nat) (chunk : Bytes) :
    (sealedChunk aead volumeID segmentID key noncePrefix algorithm chunkIndex chunk).length =
      chunk.length + aead.overhead :=
  aead.length_seal _ _ _

variable {volumeID : GoString} {enc : SegmentEncryption} {stored : Bytes}
    {c : Option EncryptionConfig} {random : Entropy} {ms : MaterializedSegment}

section

variable {aead : Aead} {get : StoreGet} {segment : Segment} {payload : Bytes} {off stop k : Nat}
    (hsize : 0 < enc.chunkSize.toNat) (hk : k * enc.chunkSize.toNat < payload.length)
    (hstored : stored = packFrom (sealedChunk aead volumeID segment.id segment.key enc.noncePrefix
      enc.algorithm) enc.chunkSize.toNat payload payload.length 0)
    (hget : ∀ o l : Nat, o + l ≤ stored.length → get segment.key o l = .ok (slice stored o l))

include hsize hk hstored hget

lemma get_sealedChunk : get segment.key ↑(k * (enc.chunkSize.toNat + aead.overhead))
        ↑(min enc.chunkSize.toNat (payload.length - k * enc.chunkSize.toNat) + aead.overhead) =
      .ok (sealedChunk aead volumeID segment.id segment.key enc.noncePrefix enc.algorithm k
        (slice payload (k * enc.chunkSize.toNat) enc.chunkSize.toNat)) := by
  have hfuel : payload.length ≤ (0 + payload.length) * enc.chunkSize.toNat := by
    rw [Nat.zero_add]
    exact Nat.le_mul_of_pos_right _ hsize
  have hchunk := packFrom_chunk
    (length_sealedChunk aead volumeID segment.id segment.key enc.noncePrefix enc.algorithm)
    payload.length 0 k hfuel (by rw [Nat.zero_add]; exact hk)
  rw [Nat.zero_add, ← hstored] at hchunk
  -- the sealed chunk is as long as the range that is read, so the range lies in the object
  have hl := congrArg List.length hchunk
  rw [length_sealedChunk, length_slice, length_slice] at hl
  rw [hget _ _ (by omega), hchunk]

/-- One turn of the loop gives the part of its chunk that lies in the range. -/
lemma openChunk_sealed (hstop : stop ≤ payload.length) (hoff : off < stop)
    (hfrom : off / enc.chunkSize.toNat ≤ k) (hto : k ≤ (stop - 1) / enc.chunkSize.toNat) :
    openChunk aead get volumeID segment enc payload.length off stop k =
      .ok (slice payload (clampTo off stop (k * enc.chunkSize.toNat))
        (clampTo off stop ((k + 1) * enc.chunkSize.toNat) -
          clampTo off stop (k * enc.chunkSize.toNat))) := by
  have hread := get_sealedChunk hsize hk hstored hget
  set size := enc.chunkSize.toNat with hs
  have hnext : (k + 1) * size = k * size + size := succ_mul k size
  have hlow : off < (k + 1) * size := by
    have := lt_mul_div_succ off hsize
    have hle : size * (off / size + 1) ≤ size * (k + 1) := mul_le_mul_left _ (by omega)
    rw [mul_comm size (k + 1)] at hle
    omega
  have hhigh : k * size < stop := by
    have hle : k * size ≤ (stop - 1) / size * size := mul_le_mul_right _ hto
    have := div_mul_le_self (stop - 1) size
    omega
  have hplain : (if k * size + size > payload.length then payload.length - k * size else size) =
      min size (payload.length - k * size) := by
    split <;> omega
  have hlen : (slice payload (k * size) size).length = min size (payload.length - k * size) :=
    length_slice _ _ _
  unfold openChunk
  simp only [← hs, hplain]
  rw [hread]
  simp only [bind, sealedChunk, hlen, aead.open_seal]
  have hrange : (if stop < k * size + min size (payload.length - k * size) then stop - k * size
      else min size (payload.length - k * size)) = min size (stop - k * size) := by
    split <;> omega
  have hfirst : (if off > k * size then off - k * size else 0) = off - k * size := by
    split <;> omega
  rw [hrange, hfirst, sliceBytes, if_pos ⟨by omega, by rw [hlen]; omega⟩, drop_take_slice,
    slice_slice]
  unfold clampTo
  rw [hnext]
  congr 2 <;> omega

end

lemma openChunks_joins (openAt : Nat → Outcome Err Bytes) (payload : Bytes) {g : Nat → Nat}
    (hg : Monotone g) (turns k : Nat) (out : Bytes)
    (h : ∀ j, k ≤ j → j < k + turns → openAt j = .ok (slice payload (g j) (g (j + 1) - g j))) :
    openChunks openAt turns k out = .ok (out ++ slice payload (g k) (g (k + turns) - g k)) := by
  rw [← slice_telescope payload hg k turns]
  induction turns generalizing k out with
  | zero => simp [openChunks]
  | succ turns ih =>
    have hhead := h k (by omega) (by omega)
    have hrest := ih (k + 1) (out ++ slice payload (g k) (g (k + 1) - g k))
      (fun j h1 h2 => h j (by omega) (by omega))
    simp only [openChunks, hhead, bind, hrest, range'_succ, flatMap_cons, append_assoc]

lemma encryptSegment_ok {enc : Option SegmentEncryption}
    (h : encryptSegment c random volumeID ms = .ok (stored, enc)) :
    match enc with
    | none => stored = ms.payload
    | some enc => ∃ (cfg : EncryptionConfig) (k : KeyEncryptor) (aead : Aead),
      encryptionEnabled c = some (cfg, k) ∧ ms.payload ≠ [] ∧
      k.decrypt enc.wrappedKey = .ok random.dataKey ∧
      cfg.newAEADForAlgorithm enc.algorithm random.dataKey = .ok aead ∧
      enc.version = segmentEncryptionVersion ∧ enc.chunkSize = cfg.chunkSize ∧
      enc.plaintextSize = UInt64.ofNat ms.payload.length ∧
      stored = packFrom (sealedChunk aead volumeID ms.id ms.key enc.noncePrefix enc.algorithm)
        enc.chunkSize.toNat ms.payload ms.payload.length 0 := by
  unfold encryptSegment at h
  cases hc : encryptionEnabled c with
  | none =>
    rw [hc] at h
    cases h
    rfl
  | some ck =>
    obtain ⟨cfg, k⟩ := ck
    rw [hc] at h
    simp only at h
    by_cases hempty : ms.payload = []
    · rw [if_pos hempty] at h
      cases h
      rfl
    rw [if_neg hempty] at h
    cases hw : k.encrypt random.wrapping random.dataKey with
    | err | panic => rw [hw] at h; cases h
    | ok wrappedKey =>
      rw [hw] at h
      cases ha : cfg.newAEADForAlgorithm cfg.normalizedAlgorithm random.dataKey with
      | err | panic => simp [bind, wrapErr, ha] at h
      | ok aead =>
        simp only [bind, wrapErr, ha, pure, Outcome.ok.injEq, Prod.mk.injEq] at h
        obtain ⟨rfl, rfl⟩ := h
        exact ⟨cfg, k, aead, rfl, hempty, k.decrypt_encrypt _ _ _ hw, ha, rfl, rfl, rfl, rfl⟩

lemma length_stored_le {enc : Option SegmentEncryption}
    (h : encryptSegment c random volumeID ms = .ok (stored, enc)) :
    stored.length ≤ 17 * ms.payload.length := by
  cases enc with
  | none =>
    rw [encryptSegment_ok h]
    omega
  | some enc =>
    obtain ⟨cfg, k, aead, _, _, _, _, _, _, _, rfl⟩ := encryptSegment_ok h
    have hle := length_packFrom_le
      (length_sealedChunk aead volumeID ms.id ms.key enc.noncePrefix enc.algorithm)
      enc.chunkSize.toNat ms.payload ms.payload.length 0
    have := aead.overhead_le
    have hmul : ms.payload.length * aead.overhead ≤ ms.payload.length * 16 :=
      mul_le_mul_left _ this
    omega

lemma decryptSegmentRange_sealed {segment : Segment} {get : StoreGet}
    (henc : encryptSegment c random volumeID ms = .ok (stored, some enc))
    (hlen : ms.payload.length < 2 ^ 64) (hid : segment.id = ms.id) (hkey : segment.key = ms.key)
    (hseg : segment.encryption = some enc)
    (hget : ∀ o l : Nat, o + l ≤ stored.length → get segment.key o l = .ok (slice stored o l))
    (off limit : Nat) :
    decryptSegmentRange c get volumeID segment off limit = .ok (slice ms.payload off limit) := by
  obtain ⟨cfg, k, aead, hc, hempty, hkeyok, haead, hversion, hcs, hplain, hstored⟩ :=
    encryptSegment_ok henc
  have hsize : 0 < enc.chunkSize.toNat := by
    rw [hcs]
    exact chunkSize_pos cfg
  have hcne : enc.chunkSize ≠ 0 := by
    intro h0
    rw [h0] at hsize
    exact Nat.lt_irrefl 0 hsize
  have hplainNat : enc.plaintextSize.toNat = ms.payload.length := by
    rw [hplain]
    exact UInt64.toNat_ofNat_of_lt' hlen
  have hpne : enc.plaintextSize ≠ 0 := by
    intro h0
    rw [h0] at hplainNat
    exact hempty (List.length_eq_zero_iff.mp hplainNat.symm)
  unfold decryptSegmentRange
  rw [hseg, hc]
  simp only [hversion, ne_eq, not_true_eq_false, if_false, hcne, hpne, hplainNat,
    Int.not_lt.mpr (Int.natCast_nonneg off), Int.toNat_natCast]
  by_cases hout : (off : Int) ≥ ms.payload.length ∨ (limit : Int) = 0
  · rw [if_pos hout]
    rcases hout with hout | hout
    · rw [slice_beyond _ _ (by omega)]
    · rw [show limit = 0 by omega, slice_zero]
  · rw [if_neg hout]
    rw [not_or] at hout
    have hstop : (if (limit : Int) ≥ 0 ∧ (off : Int) + limit < ms.payload.length
        then ((off : Int) + limit).toNat else ms.payload.length) =
        min (off + limit) ms.payload.length := by
      split <;> omega
    rw [hstop, hkeyok]
    simp only [wrapErr, bind, haead]
    have hoff : off < min (off + limit) ms.payload.length := by omega
    generalize hst : min (off + limit) ms.payload.length = stop at hoff
    have hstart : off / enc.chunkSize.toNat ≤ (stop - 1) / enc.chunkSize.toNat :=
      Nat.div_le_div_right (by omega)
    have hparts := openChunks_joins
      (openChunk aead get volumeID segment enc ms.payload.length off stop) ms.payload
      (g := fun j => clampTo off stop (j * enc.chunkSize.toNat))
      (fun x y h => clampTo_monotone off stop (Nat.mul_le_mul_right _ h))
      ((stop - 1) / enc.chunkSize.toNat + 1 - off / enc.chunkSize.toNat)
      (off / enc.chunkSize.toNat) []
    rw [hparts]
    · -- the first point is `off`, and the last one is `stop`
      have hlow : off / enc.chunkSize.toNat * enc.chunkSize.toNat ≤ off := Nat.div_mul_le_self _ _
      have hhigh : stop - 1 < ((stop - 1) / enc.chunkSize.toNat + 1) * enc.chunkSize.toNat := by
        rw [Nat.mul_comm]
        exact Nat.lt_mul_div_succ _ hsize
      rw [show off / enc.chunkSize.toNat + ((stop - 1) / enc.chunkSize.toNat + 1 -
        off / enc.chunkSize.toNat) = (stop - 1) / enc.chunkSize.toNat + 1 by omega]
      have hg0 : clampTo off stop (off / enc.chunkSize.toNat * enc.chunkSize.toNat) = off := by
        unfold clampTo
        omega
      have hg1 : clampTo off stop (((stop - 1) / enc.chunkSize.toNat + 1) * enc.chunkSize.toNat) =
          stop := by
        unfold clampTo
        omega
      rw [hg0, hg1, List.nil_append, slice_clamp ms.payload off limit]
      congr 2
      omega
    · intro j hj hj'
      refine openChunk_sealed hsize ?_ (by rw [hid, hkey]; exact hstored) hget (by omega) hoff hj
        (by omega)
      · have hle : j * enc.chunkSize.toNat ≤
          (stop - 1) / enc.chunkSize.toNat * enc.chunkSize.toNat :=
          Nat.mul_le_mul_right _ (by omega)
        have := Nat.div_mul_le_self (stop - 1) enc.chunkSize.toNat
        omega

end sandbox0.s0fs
