-- The server name of a QUIC datagram, as `netd/pkg/proxy` reads it. The raw packet
-- is scanned for a TLS hello first. Then the Initial packet is decrypted, its
-- CRYPTO frames go into the stream of their connection, and the hello of the
-- stream is read.
import Sandbox0.GoMap
import Sandbox0.GoSlice
import Sandbox0.GoString

namespace sandbox0.netd.proxy

open Option List

/-! ## The scan for a hello

Beside its answer the model keeps the lengths that the scan has used; the source has no
such list. -/

/-- A declared length that is used: where it ends, and where the structure around it ends. -/
structure Use where
  stop : Nat
  outer : Nat

def Use.Inside (u : Use) : Prop := u.stop ≤ u.outer

/-- A name, and the lengths that were used to come to it. -/
structure Scan where
  name : GoString
  uses : List Use

def Scan.using (scan : Scan) (u : Use) : Scan := { scan with uses := u :: scan.uses }

def noName : Scan := { name := [], uses := [] }

def serverNames (hello : GoSlice) (listEnd idx : Nat) : Option Scan :=
  if idx + 3 ≤ listEnd then do
    let nameType ← hello.get idx
    let nameLen ← hello.uint16 (idx + 1)
    if nameType = 0 ∧ idx + 3 + nameLen ≤ listEnd then
      let name ← hello.slice (idx + 3) (idx + 3 + nameLen)
      return { name := toLower name.bytes, uses := [⟨idx + 3 + nameLen, listEnd⟩] }
    -- the next entry is looked for behind this one, if the list goes on
    else serverNames hello listEnd (idx + 3 + nameLen)
  else some noName
termination_by listEnd - idx

def extensions (hello : GoSlice) (stop idx : Nat) : Option Scan :=
  if idx + 4 ≤ stop then do
    let extType ← hello.uint16 idx
    let extSize ← hello.uint16 (idx + 2)
    if idx + 4 + extSize > stop then return noName
    else if extType = 0 then
      if idx + 4 + 2 > stop then return noName
      else
        let listLen ← hello.uint16 (idx + 4)
        let scan ← serverNames hello (idx + 6 + listLen) (idx + 6)
        return scan.using ⟨idx + 6 + listLen, idx + 4 + extSize⟩
    else
      let scan ← extensions hello stop (idx + 4 + extSize)
      return scan.using ⟨idx + 4 + extSize, stop⟩
  else some noName
termination_by stop - idx

/-- The hello that starts at the first byte 1, or nothing when there is none. -/
def clientHello (data : GoSlice) : Option (Option GoSlice) :=
  match data.indexByte 1 with
  | none => some none
  | some offset =>
    if offset + 4 ≥ data.len then some none
    else do
      let length ← data.uint24 (offset + 1)
      if offset + 4 + length > data.len then return none
      else return some (← data.slice (offset + 4) (offset + 4 + length))

/-- Where the extensions of a hello start and end, behind the version, the random bytes, the
session, the ciphers and the compressions. -/
def extensionBlock (hello : GoSlice) : Option (Option (Nat × Nat)) :=
  if hello.len < 34 then some none
  else if 34 ≥ hello.len then some none
  else do
    let sessionLen ← hello.get 34
    let idx := 35 + sessionLen.toNat
    if idx + 2 > hello.len then return none
    else
      let cipherLen ← hello.uint16 idx
      let idx := idx + 2 + cipherLen
      if idx ≥ hello.len then return none
      else
        let compLen ← hello.get idx
        let idx := idx + 1 + compLen.toNat
        if idx + 2 > hello.len then return none
        else
          let extLen ← hello.uint16 idx
          if idx + 2 + extLen > hello.len then return none
          else return some (idx + 2, idx + 2 + extLen)

def scanTLSHandshake (data : GoSlice) : Option Scan := do
  match ← clientHello data with
  | none => return noName
  | some hello =>
    match ← extensionBlock hello with
    | none => return noName
    | some (idx, stop) =>
      let scan ← extensions hello stop idx
      return scan.using ⟨stop, hello.len⟩

def parseSNIFromTLSHandshake (data : GoSlice) : Option GoString :=
  (scanTLSHandshake data).map Scan.name

/-! ## CRYPTO frames -/

/-- `quicvarint.Read`: a number below 2 ^ 62 and the bytes behind it, or an error. -/
structure VarintReader where
  read : List UInt8 → Option (Nat × List UInt8)
  lt : ∀ {bs v rest}, read bs = some (v, rest) → v < 2 ^ 62
  consumes : ∀ {bs v rest}, read bs = some (v, rest) → rest.length < bs.length

structure CryptoFrame where
  offset : Nat
  data : List UInt8

inductive FrameError where
  | varint
  | invalidLength
  | eof

def paddingFrameType : Nat := 0x00
def cryptoFrameType : Nat := 0x06

/-- `make([]byte, length)`, which panics when the length is no `int`. -/
def makeBytes (length : Nat) : Option (List UInt8) :=
  if length < 2 ^ 63 then some (List.replicate length 0) else none

/-- The loop of `parseCryptoFrames` over what is left of the payload. -/
def parseCryptoFramesFrom (v : VarintReader) (bs : List UInt8) (frames : List CryptoFrame) :
    Option (Except FrameError (List CryptoFrame)) :=
  if bs = [] then some (.ok frames)
  else
    match _htyp : v.read bs with
    | none => some (.error .varint)
    | some (typ, rest) =>
      if typ = paddingFrameType then parseCryptoFramesFrom v rest frames
      else if typ ≠ cryptoFrameType then some (.ok frames)
      else
        match _hoffset : v.read rest with
        | none => some (.error .varint)
        | some (offset, rest1) =>
          match _hlength : v.read rest1 with
          | none => some (.error .varint)
          | some (length, rest2) =>
            if length > rest2.length then some (.error .invalidLength)
            else
              match makeBytes length with
              | none => none
              | some _ =>
                -- a read at the end is an error, also one of no bytes
                if rest2 = [] then some (.error .eof)
                else
                  parseCryptoFramesFrom v (rest2.drop length)
                    (frames ++ [{ offset, data := rest2.take length }])
termination_by bs.length
decreasing_by
  · exact v.consumes _htyp
  · have h0 := v.consumes _htyp
    have h1 := v.consumes _hoffset
    have h2 := v.consumes _hlength
    rw [List.length_drop]
    omega

def parseCryptoFrames (v : VarintReader) (payload : List UInt8) :
    Option (Except FrameError (List CryptoFrame)) :=
  parseCryptoFramesFrom v payload []

/-! ## Bounds -/

/-- The walk over the extensions from `idx` stops at a server name extension at `e`. -/
inductive ServerNameExtension (hello : GoSlice) (stop : Nat) : Nat → Nat → Prop where
  | here {idx extSize : Nat} (htype : hello.uint16 idx = some 0)
      (hsize : hello.uint16 (idx + 2) = some extSize) (hfits : idx + 4 + extSize ≤ stop)
      (hlist : idx + 6 ≤ stop) : ServerNameExtension hello stop idx idx
  | later {idx extType extSize e : Nat} (htype : hello.uint16 idx = some extType)
      (hother : extType ≠ 0) (hsize : hello.uint16 (idx + 2) = some extSize)
      (hfits : idx + 4 + extSize ≤ stop)
      (hrest : ServerNameExtension hello stop (idx + 4 + extSize) e) :
      ServerNameExtension hello stop idx e

/-- The list that the extension at `e` declares ends inside the extension. -/
def ListInside (hello : GoSlice) (e : Nat) : Prop :=
  ∀ extSize listLen, hello.uint16 (e + 2) = some extSize → hello.uint16 (e + 4) = some listLen →
    2 + listLen ≤ extSize

variable {hello : GoSlice} {idx listEnd : Nat} {s : CryptoStream} {b : UInt8}

open GoSlice

/-- The scan comes to an answer, and used no length that ends outside. -/
def Checked (scan : Option Scan) : Prop := ∃ r, scan = some r ∧ ∀ u ∈ r.uses, u.Inside

lemma checked_noName : Checked (some noName) := ⟨noName, rfl, by simp [noName]⟩

lemma checked_using (scan : Option Scan) (u : Use) :
    Checked (do return (← scan).using u) ↔ u.Inside ∧ Checked scan := by
  cases scan with
  | none => simp [Checked]
  | some r => simp [Checked, Scan.using]

/-- In a list that ends inside the hello, every entry does. -/
lemma serverNames_checked (hlist : listEnd ≤ hello.len) (idx : Nat) :
    Checked (serverNames hello listEnd idx) := by
  induction hn : listEnd - idx using Nat.strong_induction_on generalizing idx with
  | _ n ih =>
    rw [serverNames]
    by_cases hin : idx + 3 ≤ listEnd
    · rw [if_pos hin]
      obtain ⟨nameType, htype⟩ := get_of_lt (s := hello) (i := idx) (by omega)
      obtain ⟨nameLen, hlen⟩ := uint16_of_lt (s := hello) (i := idx + 1) (by omega)
      simp only [htype, hlen, bind_eq_bind, bind_some]
      by_cases hname : nameType = 0 ∧ idx + 3 + nameLen ≤ listEnd
      · have hinside : idx + 3 + nameLen ≤ hello.array.length :=
          le_trans (by omega) hello.len_le
        obtain ⟨name, hslice, -⟩ := slice_of_le (Nat.le_add_right (idx + 3) nameLen) hinside
        rw [if_pos hname, hslice]
        exact ⟨_, rfl, by simpa [Use.Inside] using hname.2⟩
      · rw [if_neg hname]
        exact ih _ (by omega) _ rfl
    · rw [if_neg hin]
      exact checked_noName

lemma serverNameExtension_iff {stop extType extSize e : Nat}
    (htype : hello.uint16 idx = some extType) (hsize : hello.uint16 (idx + 2) = some extSize) :
    ServerNameExtension hello stop idx e ↔ idx + 4 + extSize ≤ stop ∧
      if extType = 0 then idx + 6 ≤ stop ∧ e = idx
      else ServerNameExtension hello stop (idx + 4 + extSize) e := by
  constructor
  · intro h
    cases h with
    | here htype' hsize' hfits hlist =>
      cases some.inj (htype.symm.trans htype')
      cases some.inj (hsize.symm.trans hsize')
      exact ⟨hfits, by rw [if_pos rfl]; exact ⟨hlist, rfl⟩⟩
    | later htype' hother hsize' hfits hrest =>
      cases some.inj (htype.symm.trans htype')
      cases some.inj (hsize.symm.trans hsize')
      exact ⟨hfits, by rw [if_neg hother]; exact hrest⟩
  · rintro ⟨hfits, h⟩
    split at h
    · rename_i hzero
      rw [h.2]
      exact .here (hzero ▸ htype) hsize hfits h.1
    · rename_i hother
      exact .later htype hother hsize hfits h

lemma listInside_iff {extSize listLen : Nat} (hsize : hello.uint16 (idx + 2) = some extSize)
    (hlen : hello.uint16 (idx + 4) = some listLen) :
    ListInside hello idx ↔ Use.Inside ⟨idx + 6 + listLen, idx + 4 + extSize⟩ := by
  have hle : 2 + listLen ≤ extSize ↔ Use.Inside ⟨idx + 6 + listLen, idx + 4 + extSize⟩ := by
    dsimp only [Use.Inside]
    omega
  rw [← hle]
  constructor
  · exact fun h => h extSize listLen hsize hlen
  · rintro h _ _ hsize' hlen'
    cases some.inj (hsize.symm.trans hsize')
    cases some.inj (hlen.symm.trans hlen')
    exact h

lemma extensions_checked_iff {stop : Nat} (hstop : stop ≤ hello.len) (idx : Nat) :
    Checked (extensions hello stop idx) ↔
      ∀ e, ServerNameExtension hello stop idx e → ListInside hello e := by
  induction hn : stop - idx using Nat.strong_induction_on generalizing idx with
  | _ n ih =>
    rw [extensions]
    by_cases hin : idx + 4 ≤ stop
    · rw [if_pos hin]
      obtain ⟨extType, htype⟩ := uint16_of_lt (s := hello) (i := idx) (by omega)
      obtain ⟨extSize, hsize⟩ := uint16_of_lt (s := hello) (i := idx + 2) (by omega)
      simp only [htype, hsize, bind_eq_bind, bind_some, serverNameExtension_iff htype hsize]
      by_cases hfits : idx + 4 + extSize ≤ stop
      · rw [if_neg (by omega)]
        by_cases hsni : extType = 0
        · simp only [hsni, if_true]
          by_cases hlist : idx + 6 ≤ stop
          · obtain ⟨listLen, hlen⟩ := uint16_of_lt (s := hello) (i := idx + 4) (by omega)
            rw [if_neg (by omega), hlen, bind_some]
            refine (checked_using _ _).trans ⟨?_, fun h => ?_⟩
            · rintro ⟨hinside, -⟩ e ⟨-, -, rfl⟩
              exact (listInside_iff hsize hlen).mpr hinside
            · have hinside := (listInside_iff hsize hlen).mp (h idx ⟨hfits, hlist, rfl⟩)
              exact ⟨hinside, serverNames_checked (by dsimp only [Use.Inside] at hinside; omega) _⟩
          · rw [if_pos (by omega)]
            exact ⟨fun _ e he => absurd he.2.1 hlist, fun _ => checked_noName⟩
        · simp only [hsni, if_false]
          refine (checked_using _ _).trans ?_
          rw [ih _ (by omega) _ rfl]
          exact ⟨fun h e he => h.2 e he.2, fun h => ⟨hfits, fun e he => h e ⟨hfits, he⟩⟩⟩
      · rw [if_pos (by omega)]
        exact ⟨fun _ e he => absurd he.1 hfits, fun _ => checked_noName⟩
    · rw [if_neg hin]
      refine ⟨fun _ e he => ?_, fun _ => checked_noName⟩
      cases he with
      | here | later => omega

lemma clientHello_returns (data : GoSlice) : ∃ hello, clientHello data = some hello := by
  unfold clientHello
  split
  · exact ⟨none, rfl⟩
  split
  · exact ⟨none, rfl⟩
  rename_i offset _ hlong
  obtain ⟨length, hlength⟩ := uint24_of_lt (s := data) (i := offset + 1) (by omega)
  simp only [hlength, bind_eq_bind, bind_some]
  split
  · exact ⟨none, rfl⟩
  · have hinside : offset + 4 + length ≤ data.array.length := le_trans (by omega) data.len_le
    obtain ⟨hello, hhello, -⟩ := slice_of_le (Nat.le_add_right (offset + 4) length) hinside
    exact ⟨some hello, by simp [hhello]⟩

/-- The lengths of a hello are read inside it, and its extensions end inside it. -/
lemma extensionBlock_returns (hello : GoSlice) :
    ∃ block, extensionBlock hello = some block ∧ ∀ idx stop, block = some (idx, stop) →
      stop ≤ hello.len := by
  unfold extensionBlock
  split
  · exact ⟨none, rfl, by simp⟩
  split
  · exact ⟨none, rfl, by simp⟩
  obtain ⟨sessionLen, hsession⟩ := get_of_lt (s := hello) (i := 34) (by omega)
  simp only [hsession, bind_eq_bind, bind_some]
  split
  · exact ⟨none, rfl, by simp⟩
  obtain ⟨cipherLen, hcipher⟩ := uint16_of_lt (s := hello) (i := 35 + sessionLen.toNat) (by omega)
  simp only [hcipher, bind_some]
  split
  · exact ⟨none, rfl, by simp⟩
  obtain ⟨compLen, hcomp⟩ :=
    get_of_lt (s := hello) (i := 35 + sessionLen.toNat + 2 + cipherLen) (by omega)
  simp only [hcomp, bind_some]
  split
  · exact ⟨none, rfl, by simp⟩
  obtain ⟨extLen, hext⟩ := uint16_of_lt (s := hello)
    (i := 35 + sessionLen.toNat + 2 + cipherLen + 1 + compLen.toNat) (by omega)
  simp only [hext, bind_some]
  split
  · exact ⟨none, rfl, by simp⟩
  refine ⟨_, rfl, ?_⟩
  rintro idx stop hblock
  cases hblock
  omega

/-- The first server name list of the datagram's hello, if it has one, ends inside its
extension. -/
def NamesInside (data : List UInt8) : Prop :=
  ∀ hello idx stop e, clientHello (.ofBytes data) = some (some hello) →
    extensionBlock hello = some (some (idx, stop)) → ServerNameExtension hello stop idx e →
    ListInside hello e

lemma scanTLSHandshake_checked_iff (data : List UInt8) :
    Checked (scanTLSHandshake (.ofBytes data)) ↔ NamesInside data := by
  obtain ⟨found, hfound⟩ := clientHello_returns (.ofBytes data)
  unfold scanTLSHandshake NamesInside
  simp only [hfound, bind_eq_bind, bind_some, some.injEq]
  cases found with
  | none => simp [checked_noName]
  | some hello =>
    obtain ⟨block, hblock, hstop⟩ := extensionBlock_returns hello
    simp only [hblock, bind_some, some.injEq]
    cases block with
    | none =>
      refine ⟨?_, fun _ => checked_noName⟩
      rintro - _ idx stop e rfl hsome
      rw [hblock] at hsome
      simp at hsome
    | some range =>
      obtain ⟨idx, stop⟩ := range
      have hinside := hstop idx stop rfl
      refine (checked_using _ _).trans ?_
      rw [extensions_checked_iff hinside idx]
      constructor
      · rintro ⟨-, h⟩ _ i t e rfl hsome
        rw [hblock] at hsome
        cases hsome
        exact h e
      · intro h
        exact ⟨hinside, fun e => h hello idx stop e rfl hblock⟩

lemma parseCryptoFramesFrom_returns (v : VarintReader) (bs : List UInt8)
    (frames : List CryptoFrame) : ∃ r, parseCryptoFramesFrom v bs frames = some r := by
  induction hn : bs.length using Nat.strong_induction_on generalizing bs frames with
  | _ n ih =>
    subst hn
    rw [parseCryptoFramesFrom]
    split
    · exact ⟨_, rfl⟩
    split
    · exact ⟨_, rfl⟩
    rename_i htyp
    split
    · exact ih _ (v.consumes htyp) _ _ rfl
    split
    · exact ⟨_, rfl⟩
    split
    · exact ⟨_, rfl⟩
    rename_i hoffset
    split
    · exact ⟨_, rfl⟩
    rename_i length rest2 hlength
    split
    · exact ⟨_, rfl⟩
    -- a number below 2 ^ 62 is a length that can be made
    have hmake : makeBytes length = some (List.replicate length 0) :=
      if_pos (lt_trans (v.lt hlength) (by norm_num))
    rw [hmake]
    dsimp only
    split
    · exact ⟨_, rfl⟩
    refine ih _ ?_ _ _ rfl
    have h0 := v.consumes htyp
    have h1 := v.consumes hoffset
    have h2 := v.consumes hlength
    rw [List.length_drop]
    omega

/-- A hello whose server name extension is nothing but a declared list of 65535 bytes. -/
def listWithoutNames : List UInt8 :=
  [1, 0, 0, 46] ++ List.replicate 34 0 ++ [0, 0, 0, 0, 0, 6, 0, 0, 0, 2, 255, 255]

/-- Times are in nanoseconds. -/
structure CryptoStream where
  nextOffset : Nat
  buffer : List UInt8
  pending : GoMap Nat (List UInt8)
  updatedAt : Int

structure QuicReassembler where
  streams : GoMap GoString CryptoStream

def maxCryptoBuffer : Nat := 256 * 1024
def reassemblyTTL : Int := 20000000000
def maxEntries : Nat := 2048

def newQuicReassembler : QuicReassembler := { streams := ∅ }

def newCryptoStream (now : Int) : CryptoStream :=
  { nextOffset := 0, buffer := [], pending := ∅, updatedAt := now }

def CryptoStream.appendPending (s : CryptoStream) : CryptoStream :=
  match _h : s.pending[s.nextOffset]? with
  | none => s
  | some next =>
    appendPending { s with pending := s.pending.erase s.nextOffset
                           buffer := s.buffer ++ next
                           nextOffset := s.nextOffset + next.length }
termination_by s.pending.size
decreasing_by exact GoMap.size_erase_lt _h

def CryptoStream.trim (s : CryptoStream) : CryptoStream :=
  if s.buffer.length ≤ maxCryptoBuffer then s
  else { s with buffer := s.buffer.take maxCryptoBuffer, pending := ∅ }

def CryptoStream.add (s : CryptoStream) (frame : CryptoFrame) : CryptoStream :=
  if frame.data = [] then s
  else if frame.offset < s.nextOffset ∧ s.nextOffset - frame.offset ≥ frame.data.length then s
  else
    -- the bytes that the stream has already are cut off
    let data := frame.data.drop (s.nextOffset - frame.offset)
    let offset := max frame.offset s.nextOffset
    if offset = s.nextOffset then
      CryptoStream.trim (CryptoStream.appendPending
        { s with buffer := s.buffer ++ data, nextOffset := s.nextOffset + data.length })
    else { s with pending := s.pending.insert offset data }

def QuicReassembler.cleanup (r : QuicReassembler) (now : Int) : QuicReassembler :=
  { streams := r.streams.filter fun _ s => ¬ s.updatedAt < now - reassemblyTTL }

/-- The stream that `evictOldestLocked` deletes, and when it was updated. -/
def QuicReassembler.oldest (r : QuicReassembler) : Option (GoString × Int) :=
  r.streams.toList.foldl (fun oldest p =>
    match oldest with
    | none => some (p.1, p.2.updatedAt)
    | some old => if p.2.updatedAt < old.2 then some (p.1, p.2.updatedAt) else some old) none

def QuicReassembler.evictOldest (r : QuicReassembler) : QuicReassembler :=
  match r.oldest with
  | none => r
  | some (key, _) => { streams := r.streams.erase key }

/-! ## Initial packets -/

structure QuicHeader where
  version : UInt32
  destConnectionID : List UInt8
  length : Nat

/-- What is read with other libraries. `unProtect` takes the client secret, the version, the
packet, and the offset and the length of its number; `unmarshalClientHello` has the server name
of a hello, when there is a hello and it has one. A message of type 0 is no hello. -/
structure QuicLibraries where
  varint : VarintReader
  parseInitialHeader : List UInt8 → Option (QuicHeader × Nat)
  hkdfExtract : List UInt8 → List UInt8 → List UInt8
  hkdfExpand : List UInt8 → List UInt8 → Nat → List UInt8
  unProtect : List UInt8 → UInt32 → List UInt8 → Nat → Nat → Option (List UInt8)
  unmarshalClientHello : List UInt8 → Option (Option GoString)
  hello_type : ∀ bs, unmarshalClientHello (0 :: bs) = none

def quicV1 : UInt32 := 0x1
def quicV2 : UInt32 := 0x6b3343cf

def getSalt (v : UInt32) : List UInt8 :=
  if v = quicV1 then
    [0x38, 0x76, 0x2c, 0xf7, 0xf5, 0x59, 0x34, 0xb3, 0x4d, 0x17, 0x9a, 0xe6, 0xa4, 0xc8, 0x0c, 0xad,
      0xcc, 0xbb, 0x7f, 0x0a]
  else if v = quicV2 then
    [0x0d, 0xed, 0xe3, 0xde, 0xf7, 0x00, 0xa6, 0xdb, 0x81, 0x93, 0x81, 0xbe, 0x6e, 0x26, 0x9d, 0xcb,
      0xf9, 0xbd, 0x2e, 0xd9]
  else
    [0xaf, 0xbf, 0xec, 0x28, 0x99, 0x93, 0xd2, 0x4c, 0x9e, 0x97, 0x86, 0xf1, 0x9c, 0x61, 0x11, 0xe0,
      0x43, 0x90, 0xa8, 0x99]

def uint8Vector (value : List UInt8) : List UInt8 :=
  UInt8.ofNat (value.take 255).length :: value.take 255

def hkdfExpandLabel (libs : QuicLibraries) (secret : List UInt8) (label : GoString)
    (context : List UInt8) (length : Nat) : List UInt8 :=
  libs.hkdfExpand secret
    ([UInt8.ofNat (length / 256), UInt8.ofNat length] ++ uint8Vector (lit "tls13 " ++ label) ++
      uint8Vector context) length

def unprotectInitial (libs : QuicLibraries) (packet : List UInt8) (pnOffset : Nat)
    (hdr : QuicHeader) : Option (List UInt8) :=
  let initialSecret := libs.hkdfExtract hdr.destConnectionID (getSalt hdr.version)
  let clientSecret := hkdfExpandLabel libs initialSecret (lit "client in") [] 32
  libs.unProtect clientSecret hdr.version packet pnOffset 2

def hexDigit (n : Nat) : UInt8 := UInt8.ofNat (if n < 10 then 48 + n else 87 + n)

/-- `hex.EncodeToString`. -/
def hexString (bs : List UInt8) : GoString :=
  bs.flatMap fun b => [hexDigit (b.toNat / 16), hexDigit (b.toNat % 16)]

def buildStreamKey (srcIP dstIP : GoString) (dcid : List UInt8) : GoString :=
  srcIP ++ lit "|" ++ dstIP ++ lit "|" ++ hexString dcid

def CryptoStream.serverName (libs : QuicLibraries) (s : CryptoStream) : GoString :=
  if s.buffer = [] then []
  else
    match libs.unmarshalClientHello s.buffer with
    | some (some name) => toLower name
    | _ => []

def QuicReassembler.stream (r : QuicReassembler) (now : Int) (key : GoString) : CryptoStream :=
  ((r.cleanup now).streams[key]?).getD (newCryptoStream now)

/-- What `ParseSNI` does under the lock, with the frames of a packet. -/
def QuicReassembler.receive (libs : QuicLibraries) (r : QuicReassembler) (now : Int)
    (key : GoString) (frames : List CryptoFrame) : GoString × QuicReassembler :=
  let stream := frames.foldl CryptoStream.add (r.stream now key)
  let clean := r.cleanup now
  let kept := if key ∉ clean.streams ∧ clean.streams.size ≥ maxEntries then
    clean.evictOldest else clean
  (stream.serverName libs, { streams := kept.streams.insert key { stream with updatedAt := now } })

def QuicReassembler.parseSNI (libs : QuicLibraries) (r : QuicReassembler) (now : Int)
    (packet : List UInt8) (srcIP dstIP : GoString) : Option (GoString × QuicReassembler) :=
  if packet = [] then some ([], r)
  else do
    let sni ← parseSNIFromTLSHandshake (.ofBytes packet)
    if sni ≠ [] then return (sni, r)
    else
      match libs.parseInitialHeader packet with
      | none => return ([], r)
      | some (hdr, offset) =>
        if offset + hdr.length > packet.length then return ([], r)
        else
          let key := buildStreamKey srcIP dstIP hdr.destConnectionID
          match unprotectInitial libs (packet.take (offset + hdr.length)) offset hdr with
          | none => return ([], r)
          | some unprotected =>
            match ← parseCryptoFrames libs.varint unprotected with
            | .error _ => return ([], r)
            | .ok frames => return r.receive libs now key frames

/-! ## The name is the encrypted one -/

/-- A valid Initial packet, with its header and the frames that it decrypts to. -/
structure Opens (libs : QuicLibraries) (packet : List UInt8) (hdr : QuicHeader)
    (frames : List CryptoFrame) : Prop where
  nonempty : packet ≠ []
  decrypts : ∃ offset unprotected, libs.parseInitialHeader packet = some (hdr, offset) ∧
    offset + hdr.length ≤ packet.length ∧
    unprotectInitial libs (packet.take (offset + hdr.length)) offset hdr = some unprotected ∧
    parseCryptoFrames libs.varint unprotected = some (.ok frames)

open QuicReassembler

lemma Opens.parseSNI_eq {libs : QuicLibraries} {packet : List UInt8} {hdr : QuicHeader}
    {frames : List CryptoFrame} (h : Opens libs packet hdr frames) (r : QuicReassembler) (now : Int)
    (srcIP dstIP : GoString) :
    r.parseSNI libs now packet srcIP dstIP = (do
      let sni ← parseSNIFromTLSHandshake (.ofBytes packet)
      if sni ≠ [] then return (sni, r)
      else return r.receive libs now (buildStreamKey srcIP dstIP hdr.destConnectionID) frames) := by
  obtain ⟨hne, offset, unprotected, hhdr, hlen, hun, hframes⟩ := h
  unfold parseSNI
  rw [if_neg hne]
  simp only [hhdr, hun, hframes, not_lt.mpr hlen, if_false, bind_eq_bind, bind_some]

/-- Two streams that differ at most in when they were updated. -/
def CryptoStream.SameState (s s' : CryptoStream) : Prop := s' = { s with updatedAt := s'.updatedAt }

open CryptoStream

lemma appendPending_updatedAt (s : CryptoStream) (t : Int) :
    appendPending { s with updatedAt := t } = { s.appendPending with updatedAt := t } := by
  induction hn : s.pending.size using Nat.strong_induction_on generalizing s with
  | _ n ih =>
    rw [appendPending, appendPending]
    cases hnext : s.pending[s.nextOffset]? with
    | none => simp only
    | some next =>
      simp only
      refine ih _ ?_ { s with pending := s.pending.erase s.nextOffset
                              buffer := s.buffer ++ next
                              nextOffset := s.nextOffset + next.length } rfl
      exact hn ▸ GoMap.size_erase_lt hnext

lemma trim_updatedAt (s : CryptoStream) (t : Int) :
    trim { s with updatedAt := t } = { s.trim with updatedAt := t } := by
  unfold trim
  split <;> rfl

lemma add_updatedAt (s : CryptoStream) (t : Int) (frame : CryptoFrame) :
    add { s with updatedAt := t } frame = { s.add frame with updatedAt := t } := by
  unfold add
  split
  · rfl
  split
  · rfl
  dsimp only
  split
  · rw [← trim_updatedAt, ← appendPending_updatedAt]
  · rfl

lemma CryptoStream.SameState.foldl {s' : CryptoStream} (h : s.SameState s')
    (frames : List CryptoFrame) : (frames.foldl add s).SameState (frames.foldl add s') := by
  induction frames generalizing s s' with
  | nil => exact h
  | cons frame frames ih =>
    refine ih ?_
    unfold SameState at h ⊢
    rw [h, add_updatedAt]

lemma CryptoStream.SameState.serverName {s' : CryptoStream} (h : s.SameState s')
    (libs : QuicLibraries) : s'.serverName libs = s.serverName libs := by
  unfold SameState at h
  rw [h]
  rfl

lemma appendPending_head (h : s.buffer.head? = some b) : s.appendPending.buffer.head? = some b := by
  induction hn : s.pending.size using Nat.strong_induction_on generalizing s with
  | _ n ih =>
    rw [appendPending]
    split
    · exact h
    rename_i next hnext
    refine ih _ (hn ▸ GoMap.size_erase_lt hnext) ?_ rfl
    rw [List.head?_append, h]
    rfl

lemma trim_head (h : s.buffer.head? = some b) : s.trim.buffer.head? = some b := by
  unfold trim
  split
  · exact h
  · rw [head?_take, if_neg (by decide)]
    exact h

lemma add_head (h : s.buffer.head? = some b) (frame : CryptoFrame) :
    (s.add frame).buffer.head? = some b := by
  unfold add
  split
  · exact h
  split
  · exact h
  dsimp only
  split
  · refine trim_head (appendPending_head ?_)
    rw [head?_append, h]
    rfl
  · exact h

lemma foldl_add_head (h : s.buffer.head? = some b)
    (frames : List CryptoFrame) : (frames.foldl add s).buffer.head? = some b := by
  induction frames generalizing s with
  | nil => exact h
  | cons frame frames ih => exact ih (add_head h frame)

def noHelloStream : CryptoStream := { nextOffset := 1, buffer := [0], pending := ∅, updatedAt := 0 }

lemma noHelloStream_serverName (libs : QuicLibraries) (frames : List CryptoFrame) :
    (frames.foldl add noHelloStream).serverName libs = [] := by
  have hhead : (frames.foldl add noHelloStream).buffer.head? = some 0 := foldl_add_head rfl frames
  obtain ⟨rest, hbuffer⟩ := head?_eq_some_iff.mp hhead
  unfold serverName
  rw [hbuffer, libs.hello_type]
  simp

def QuicReassembler.only (key : GoString) (s : CryptoStream) : QuicReassembler :=
  { streams := (∅ : GoMap GoString CryptoStream).insert key s }

lemma stream_only (key : GoString) :
    (QuicReassembler.only key noHelloStream).stream 0 key = noHelloStream := by
  unfold stream cleanup only
  simp [Std.ExtTreeMap.getElem?_filter, filter_some, noHelloStream, reassemblyTTL]

/-- The answer for a packet: the name of its scan, or that of the decrypted stream. -/
lemma Opens.answer {libs : QuicLibraries} {packet : List UInt8} {hdr : QuicHeader}
    {frames : List CryptoFrame} (h : Opens libs packet hdr frames) {name : GoString}
    {r : QuicReassembler} {now : Int} {srcIP dstIP : GoString} :
    (∃ after, r.parseSNI libs now packet srcIP dstIP = some (name, after)) ↔
      ∃ sni, parseSNIFromTLSHandshake (.ofBytes packet) = some sni ∧ name = if sni ≠ [] then sni
          else (frames.foldl CryptoStream.add
            (r.stream now (buildStreamKey srcIP dstIP hdr.destConnectionID))).serverName libs := by
  rw [h.parseSNI_eq]
  cases hscan : parseSNIFromTLSHandshake (.ofBytes packet) with
  | none => simp
  | some sni =>
    simp only [bind_eq_bind, bind_some, some.injEq, exists_eq_left']
    split
    · constructor
      · rintro ⟨after, hafter⟩
        cases hafter
        rfl
      · rintro rfl
        exact ⟨r, rfl⟩
    · constructor
      · rintro ⟨after, hafter⟩
        exact (congrArg Prod.fst (some.inj hafter)).symm
      · rintro rfl
        exact ⟨_, rfl⟩

/-- For two packets that decrypt to the same frames: on every same state of their streams the
answer is one name, and it is none or that of the stream, exactly when the scan of neither raw
packet finds a name. -/
theorem quic_name_is_the_encrypted_one_unless_the_packet_shows_one (libs : QuicLibraries)
    (packet packet' : List UInt8) (hdr hdr' : QuicHeader) (frames : List CryptoFrame)
    (h : Opens libs packet hdr frames) (h' : Opens libs packet' hdr' frames) :
    (∀ (r r' : QuicReassembler) (now now' : Int) (srcIP dstIP srcIP' dstIP' : GoString),
      (r.stream now (buildStreamKey srcIP dstIP hdr.destConnectionID)).SameState
        (r'.stream now' (buildStreamKey srcIP' dstIP' hdr'.destConnectionID)) →
      ∃ name, (∃ after, r.parseSNI libs now packet srcIP dstIP = some (name, after)) ∧
        (∃ after, r'.parseSNI libs now' packet' srcIP' dstIP' = some (name, after)) ∧
        (name = [] ∨ name = (frames.foldl CryptoStream.add
          (r.stream now (buildStreamKey srcIP dstIP hdr.destConnectionID))).serverName libs)) ↔
      parseSNIFromTLSHandshake (.ofBytes packet) = some [] ∧
        parseSNIFromTLSHandshake (.ofBytes packet') = some [] := by
  simp only [h.answer, h'.answer]
  constructor
  · intro hall
    -- on streams that hold no hello the answer can only be empty
    obtain ⟨name, ⟨sni, hsni, hname⟩, ⟨sni', hsni', hname'⟩, hends⟩ :=
      hall (.only (buildStreamKey [] [] hdr.destConnectionID) noHelloStream)
        (.only (buildStreamKey [] [] hdr'.destConnectionID) noHelloStream) 0 0 [] [] [] []
        (by rw [stream_only, stream_only]; rfl)
    rw [stream_only, noHelloStream_serverName] at hname hname' hends
    have hempty : name = [] := hends.elim id id
    have hnone : ∀ {s : GoString}, name = (if s ≠ [] then s else []) → s = [] := by
      intro s hs
      rw [hempty] at hs
      split at hs
      · exact hs.symm
      · rename_i hs'
        exact not_not.mp hs'
    rw [hnone hname] at hsni
    rw [hnone hname'] at hsni'
    exact ⟨hsni, hsni'⟩
  · rintro ⟨hscan, hscan'⟩ r r' now now' srcIP dstIP srcIP' dstIP' hsame
    refine ⟨_, ⟨[], hscan, rfl⟩, ⟨[], hscan', ?_⟩, .inr ?_⟩
    · simp [(hsame.foldl frames).serverName]
    · simp

/-- The header of a packet with a number field of four bytes at its end. -/
def headerOf (packet : List UInt8) : Option (QuicHeader × Nat) :=
  some ({ version := quicV2, destConnectionID := (packet.drop 6).take 20, length := 4 },
    packet.length - 4)

/-- One byte numbers, a packet whose payload is padding, and a hello that is never there. -/
def paddingOnly : QuicLibraries where
  varint :=
    { read := fun bs => match bs with
        | [] => none
        | b :: rest => some (b.toNat, rest)
      lt := by
        rintro (_ | ⟨b, rest⟩) v rest' h
        · cases h
        · cases h
          exact lt_trans b.toNat_lt (by norm_num)
      consumes := by
        rintro (_ | ⟨b, rest⟩) v rest' h
        · cases h
        · cases h
          simp }
  parseInitialHeader := headerOf
  hkdfExtract _ _ := []
  hkdfExpand _ _ _ := []
  unProtect _ _ _ _ _ := some [0]
  unmarshalClientHello _ := none
  hello_type _ := rfl

/-- An Initial packet of version 2 with the two connection ids and the token. -/
def initialPacket (dcid scid token : List UInt8) : List UInt8 :=
  [0xd0, 0x6b, 0x33, 0x43, 0xcf, 20] ++ dcid ++ [20] ++ scid ++
    [UInt8.ofNat token.length] ++ token ++ [4, 0, 0, 0, 0]

def initialHeader (dcid scid token : List UInt8) : QuicHeader :=
  { version := quicV2, destConnectionID := ((initialPacket dcid scid token).drop 6).take 20,
    length := 4 }

lemma initialPacket_opens (dcid scid token : List UInt8) {libs : QuicLibraries}
    {unprotected : List UInt8} {frames : List CryptoFrame}
    (hheader : libs.parseInitialHeader = headerOf)
    (hpayload : ∀ secret version packet offset length,
      libs.unProtect secret version packet offset length = some unprotected)
    (hframes : parseCryptoFrames libs.varint unprotected = some (.ok frames)) :
    Opens libs (initialPacket dcid scid token) (initialHeader dcid scid token) frames := by
  refine ⟨by simp [initialPacket], (initialPacket dcid scid token).length - 4, unprotected, ?_, ?_,
    hpayload .., hframes⟩
  · rw [hheader]
    rfl
  · simp only [initialHeader, initialPacket, length_append, length_cons, length_nil]
    omega

/-- A packet whose payload is one CRYPTO frame, with a hello of two bytes that names `b.io`. -/
def helloInFrame : QuicLibraries :=
  { paddingOnly with
    unProtect := fun _ _ _ _ _ => some [6, 0, 2, 1, 1]
    unmarshalClientHello := fun bs => if bs = [1, 1] then some (some (lit "b.io")) else none
    hello_type := fun bs => if_neg (by simp) }

/-- Two packets with no hello in the header have one answer, whatever their ids are. -/
theorem quic_name_of_plain_packets_is_the_encrypted_one : ∃ name,
      (∃ after, newQuicReassembler.parseSNI helloInFrame 0
        (initialPacket (List.replicate 20 2) (List.replicate 20 2) []) [] [] = some (name, after)) ∧
      (∃ after, newQuicReassembler.parseSNI helloInFrame 0
        (initialPacket (List.replicate 20 3) (List.replicate 20 3) [9]) []
        [] = some (name, after)) ∧
      (name = [] ∨ name = lit "b.io") := by
  have hscan : parseSNIFromTLSHandshake
      (.ofBytes (initialPacket (List.replicate 20 2) (List.replicate 20 2) [])) = some [] := by
    decide +kernel
  have hscan' : parseSNIFromTLSHandshake
      (.ofBytes (initialPacket (List.replicate 20 3) (List.replicate 20 3) [9])) = some [] := by
    decide +kernel
  have hopens : ∀ dcid scid token, Opens helloInFrame (initialPacket dcid scid token)
      (initialHeader dcid scid token) [{ offset := 0, data := [1, 1] }] := fun _ _ _ =>
    initialPacket_opens _ _ _ rfl (fun _ _ _ _ _ => rfl)
      (by simp [parseCryptoFrames, parseCryptoFramesFrom, helloInFrame, paddingOnly,
        paddingFrameType, cryptoFrameType, makeBytes])
  have hname : ((newCryptoStream 0).add { offset := 0, data := [1, 1] }).serverName helloInFrame =
      lit "b.io" := by
    decide +kernel
  rw [← hname]
  exact (quic_name_is_the_encrypted_one_unless_the_packet_shows_one helloInFrame _ _ _ _ _
    (hopens _ _ _) (hopens _ _ _)).mpr ⟨hscan, hscan'⟩
      newQuicReassembler newQuicReassembler 0 0 [] [] [] [] rfl

/-- A hello with the name `a.io`, spread over the ids and the token of an Initial packet. -/
def helloInHeader : List UInt8 :=
  initialPacket ([1, 0, 0, 54] ++ List.replicate 16 0) (List.replicate 18 0 ++ [0, 1])
    ([0, 0, 13, 0, 0, 0, 9, 0, 7, 0, 0, 4] ++ lit "a.io")

theorem name_in_the_header_is_the_answer : Opens paddingOnly helloInHeader
        { version := quicV2, destConnectionID := [1, 0, 0, 54] ++ List.replicate 16 0, length := 4 }
        [] ∧
      (newQuicReassembler.parseSNI paddingOnly 0 helloInHeader (lit "10.0.0.7") (lit "1.1.1.1")).map
        Prod.fst = some (lit "a.io") ∧
      (newCryptoStream 0).serverName paddingOnly = [] := by
  refine ⟨initialPacket_opens _ _ _ rfl (fun _ _ _ _ _ => rfl) ?_, ?_, rfl⟩
  · simp [parseCryptoFrames, parseCryptoFramesFrom, paddingOnly, paddingFrameType]
  · decide +kernel

end sandbox0.netd.proxy
