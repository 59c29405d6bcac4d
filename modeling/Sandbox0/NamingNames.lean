-- The names that `pkg/naming` makes of templates. An id that is a short DNS label is
-- its own name, every other id is slugged, cut and given a hash, and the ReplicaSet
-- name does the same to the name once more.
import Sandbox0.GoString
import Sandbox0.Sha1

namespace sandbox0.naming

open List

/-! ## Labels -/

/-- What `strings.ToLower` does, as far as names depend on it. -/
structure Lowering where
  lower : GoString → GoString
  lower_lower : ∀ s, lower (lower s) = lower s
  lower_ascii : ∀ s, (∀ b ∈ s, b < 128) → lower s = toLower s

/-- Lower case for texts of ASCII. -/
def asciiLowering : Lowering where
  lower := toLower
  lower_lower := toLower_toLower
  lower_ascii _ _ := rfl

/-- The errors of `pkg/naming`. -/
inductive NameError where
  /-- input is empty -/
  | emptyInput
  /-- input normalized to empty label -/
  | emptyLabel (input : GoString)
  /-- maxLen must be > 0 -/
  | noRoom
  /-- invalid DNS-1123 label -/
  | invalidLabel (name : GoString)
  /-- generated label exceeds max length -/
  | labelTooLong (label : GoString) (maxLen : Nat)
  /-- template_id is required -/
  | templateIDRequired
  /-- template_id is too long -/
  | templateIDTooLong (length : Nat)
  /-- template_id cannot contain '/' -/
  | templateIDSlash
  /-- clusterID is required -/
  | clusterIDRequired
  /-- clusterID is too long -/
  | clusterIDTooLong (clusterID : GoString)
  /-- clusterID is too long to encode -/
  | clusterKeyTooLong (clusterID : GoString)
  /-- encoded cluster key is invalid -/
  | invalidClusterKey (clusterID : GoString)
  /-- cluster key too long to build replicaset name -/
  | clusterKeyNoRoom
  deriving DecidableEq

def dnsLabelMaxLen : Nat := 63
def replicaSetMaxLen : Nat := 49
def nameHashLength : Nat := 8
def clusterKeyMaxLen : Nat := 32
def clusterIDMaxLen : Nat := 20

def isLabelByte (b : UInt8) : Bool := (97 ≤ b ∧ b ≤ 122) ∨ (48 ≤ b ∧ b ≤ 57)

/-- `validation.IsDNS1123Label`: letters and digits, with dashes between them. -/
def isDNS1123Label (name : GoString) : Bool :=
  name.length ≤ dnsLabelMaxLen ∧ (∀ b ∈ name, isLabelByte b ∨ b = 45) ∧
    name.head?.any isLabelByte ∧ name.getLast?.any isLabelByte

def validateDNSLabel (name : GoString) : Except NameError Unit :=
  if isDNS1123Label name then .ok () else .error (.invalidLabel name)

/-- The loop of `normalizeToDNSLabel`. A run of other bytes becomes one dash. The bytes of a
rune that is no letter are such a run, so the loop goes byte by byte. -/
def dashed : Bool → GoString → GoString
  | _, [] => []
  | prevDash, b :: rest =>
    if isLabelByte b then b :: dashed false rest
    else if prevDash then dashed true rest
    else 45 :: dashed true rest

/-- `strings.Trim` with a cutset of one byte. -/
def trimByte (c : UInt8) (s : GoString) : GoString :=
  ((s.dropWhile (· = c)).reverse.dropWhile (· = c)).reverse

def slugOf (s : GoString) : GoString := trimByte 45 (dashed false s)

def normalizeToDNSLabel (L : Lowering) (input : GoString) : Except NameError GoString :=
  if input = [] then .error .emptyInput
  else if slugOf (L.lower input) = [] then .error (.emptyLabel input)
  else .ok (slugOf (L.lower input))

/-- One digit of `hex.EncodeToString`. -/
def hexDigit (n : Nat) : UInt8 := if n < 10 then (48 + n).toUInt8 else (87 + n).toUInt8

def hexEncode (bytes : GoString) : GoString :=
  bytes.flatMap fun b => [hexDigit (b.toNat / 16), hexDigit (b.toNat % 16)]

def shortHash (input : GoString) : GoString := (hexEncode (sha1.sum input)).take nameHashLength

def truncateWithHash (base hashInput : GoString) (maxLen : Nat) : GoString :=
  let hash := shortHash hashInput
  if maxLen ≤ hash.length then hash.take maxLen
  else if maxLen - hash.length - 1 ≤ 0 then hash
  else base.take (maxLen - hash.length - 1) ++ 45 :: hash

def slugWithHash (L : Lowering) (input : GoString) (maxLen : Nat) : Except NameError GoString := do
  if maxLen ≤ 0 then throw .noRoom
  let slug ← normalizeToDNSLabel L input
  let changed := slug ≠ L.lower input
  let slug := if maxLen < slug.length ∨ changed then truncateWithHash slug input maxLen else slug
  validateDNSLabel slug
  if maxLen < slug.length then throw (.labelTooLong slug maxLen)
  return slug

/-! ## Templates -/

/-- `TenantKey`, also under the name `TeamKey`. -/
def teamKey (teamID : GoString) : GoString := shortHash teamID

def scopeTeam : GoString := lit "team"

/-- `"t-<key>-"`. -/
def teamPrefix (teamID : GoString) : GoString := lit "t-" ++ teamKey teamID ++ lit "-"

def templateNameForCluster (L : Lowering) (scope teamID templateID : GoString) : GoString :=
  let templateID := L.lower templateID
  if scope ≠ scopeTeam then
    match slugWithHash L templateID dnsLabelMaxLen with
    | .error _ => lit "tpl-" ++ shortHash templateID
    | .ok name => name
  else if dnsLabelMaxLen - (teamPrefix teamID).length ≤ 0 then
    teamPrefix teamID ++ shortHash templateID
  else
    match slugWithHash L templateID (dnsLabelMaxLen - (teamPrefix teamID).length) with
    | .error _ => teamPrefix teamID ++ shortHash templateID
    | .ok name => teamPrefix teamID ++ name

structure TemplateRef where
  scope : GoString
  teamID : GoString
  templateID : GoString
  deriving DecidableEq

def TemplateRef.name (L : Lowering) (t : TemplateRef) : GoString :=
  templateNameForCluster L t.scope t.teamID t.templateID

def canonicalTemplateID (L : Lowering) (templateID : GoString) : Except NameError GoString :=
  let trimmed := trimSpace templateID
  if trimmed = [] then .error .templateIDRequired
  else if 255 < trimmed.length then .error (.templateIDTooLong trimmed.length)
  else if 47 ∈ trimmed then .error .templateIDSlash
  else .ok (L.lower trimmed)

/-! ## ReplicaSets -/

def validateClusterID (clusterID : GoString) : Except NameError Unit :=
  if clusterID = [] then .error .clusterIDRequired
  else if clusterIDMaxLen < clusterID.length then .error (.clusterIDTooLong clusterID)
  else validateDNSLabel clusterID

def bitsOf (b : UInt8) : List Bool := (List.range 8).map fun i => b.toNat.testBit (7 - i)

def base32Digit (bits : List Bool) : UInt8 :=
  let n := (bits ++ List.replicate (5 - bits.length) false).foldl (fun acc b => 2 * acc + b.toNat) 0
  if n < 26 then (65 + n).toUInt8 else (24 + n).toUInt8

def base32Digits : Nat → List Bool → GoString
  | 0, _ => []
  | fuel + 1, bits =>
    if bits = [] then [] else base32Digit (bits.take 5) :: base32Digits fuel (bits.drop 5)

/-- `base32.StdEncoding` without padding. -/
def base32Encode (s : GoString) : GoString := base32Digits (2 * s.length) (s.flatMap bitsOf)

def encodeClusterID (L : Lowering) (clusterID : GoString) : Except NameError GoString := do
  validateClusterID clusterID
  let encoded := L.lower (base32Encode clusterID)
  if clusterKeyMaxLen < encoded.length then throw (.clusterKeyTooLong clusterID)
  if ¬ isDNS1123Label encoded then throw (.invalidClusterKey clusterID)
  return encoded

/-- `"rs-<clusterKey>-"`. -/
def replicaSetPrefix (clusterKey : GoString) : GoString := lit "rs-" ++ clusterKey ++ lit "-"

def replicasetName (L : Lowering) (clusterID templateName : GoString) :
    Except NameError GoString := do
  let clusterKey ← encodeClusterID L clusterID
  if replicaSetMaxLen - (replicaSetPrefix clusterKey).length ≤ 0 then throw .clusterKeyNoRoom
  let templateKey ← slugWithHash L templateName
    (replicaSetMaxLen - (replicaSetPrefix clusterKey).length)
  let name := replicaSetPrefix clusterKey ++ templateKey
  validateDNSLabel name
  return name

/-! ## Slugs -/

lemma hexDigit_isLabelByte {n : Nat} (h : n < 16) : isLabelByte (hexDigit n) = true := by
  interval_cases n <;> decide +kernel

lemma hexEncode_isLabelByte (bytes : GoString) : ∀ b ∈ hexEncode bytes, isLabelByte b = true := by
  intro b hb
  obtain ⟨x, -, hx⟩ := mem_flatMap.mp hb
  have hlt := x.toNat_lt
  rcases mem_cons.mp hx with rfl | hx
  · exact hexDigit_isLabelByte (by omega)
  · rw [mem_singleton.mp hx]
    exact hexDigit_isLabelByte (by omega)

lemma length_hexEncode (bytes : GoString) : (hexEncode bytes).length = 2 * bytes.length := by
  unfold hexEncode
  rw [length_flatMap]
  simp
  omega

@[simp] lemma length_shortHash (s : GoString) : (shortHash s).length = 8 := by
  simp [shortHash, length_hexEncode, nameHashLength]

lemma shortHash_isLabelByte (s : GoString) : ∀ b ∈ shortHash s, isLabelByte b = true :=
  fun b hb => hexEncode_isLabelByte _ b (mem_of_mem_take hb)

/-- Letters, digits and dashes. -/
def LabelBytes (s : GoString) : Prop := ∀ b ∈ s, isLabelByte b = true ∨ b = 45

lemma dashed_labelBytes (prevDash : Bool) (s : GoString) : LabelBytes (dashed prevDash s) := by
  induction s generalizing prevDash with
  | nil => exact fun b hb => absurd hb not_mem_nil
  | cons a s ih =>
    unfold dashed
    split
    · rename_i ha
      exact forall_mem_cons.mpr ⟨.inl ha, ih false⟩
    · split
      · exact ih true
      · exact forall_mem_cons.mpr ⟨.inr rfl, ih true⟩

lemma trimByte_subset (c : UInt8) (s : GoString) : ∀ b ∈ trimByte c s, b ∈ s := by
  intro b hb
  have h := mem_reverse.mp ((dropWhile_suffix _).subset (mem_reverse.mp hb))
  exact (dropWhile_suffix _).subset h

lemma slugOf_labelBytes (s : GoString) : LabelBytes (slugOf s) := fun b hb =>
  dashed_labelBytes false s b (trimByte_subset _ _ b hb)

variable {s : GoString}

lemma head_dropWhile_dash {b : UInt8} (h : (s.dropWhile (· = 45)).head? = some b) : b ≠ 45 := by
  have := head?_dropWhile_not (fun x : UInt8 => decide (x = 45)) s
  rw [h] at this
  simpa using this

lemma slugOf_getLast {b : UInt8} (h : (slugOf s).getLast? = some b) : isLabelByte b = true := by
  have hmem : b ∈ slugOf s := mem_of_getLast? h
  refine (slugOf_labelBytes s b hmem).resolve_right ?_
  rw [slugOf, trimByte, getLast?_reverse] at h
  exact head_dropWhile_dash h

lemma slugOf_head {b : UInt8} (h : (slugOf s).head? = some b) : isLabelByte b = true := by
  have hmem : b ∈ slugOf s := mem_of_head? h
  refine (slugOf_labelBytes s b hmem).resolve_right ?_
  -- the front of the slug is the front of the list before its end is cut
  rw [slugOf, trimByte] at h
  obtain ⟨tail, htail⟩ := dropWhile_suffix (fun x : UInt8 => decide (x = 45))
    (l := (dropWhile (fun x : UInt8 => decide (x = 45)) (dashed false s)).reverse)
  have hsplit : dropWhile (fun x : UInt8 => decide (x = 45)) (dashed false s) =
      ((dropWhile (fun x : UInt8 => decide (x = 45)) (dashed false s)).reverse.dropWhile
        (fun x : UInt8 => decide (x = 45))).reverse ++ tail.reverse := by
    rw [← reverse_append, htail, reverse_reverse]
  refine head_dropWhile_dash (s := dashed false s) ?_
  rw [hsplit, head?_append, h]
  rfl

/-- A text that is a slug already, and short enough. -/
def Literal (maxLen : Nat) (s : GoString) : Prop := slugOf s = s ∧ s.length ≤ maxLen ∧ s ≠ []

instance (maxLen : Nat) (s : GoString) : Decidable (Literal maxLen s) :=
  inferInstanceAs (Decidable (_ ∧ _ ∧ _))

/-- A slug that is cut and has the hash of its text. -/
def shortened (maxLen : Nat) (s : GoString) : GoString :=
  (slugOf s).take (maxLen - 9) ++ 45 :: shortHash s

def labelOf (maxLen : Nat) (s : GoString) : GoString :=
  if Literal maxLen s then s else shortened maxLen s

variable {L : Lowering} {s : GoString} {maxLen : Nat}

lemma truncateWithHash_eq (base hashInput : GoString) (h : 10 ≤ maxLen) :
    truncateWithHash base hashInput maxLen = base.take (maxLen - 9) ++
      45 :: shortHash hashInput := by
  simp only [truncateWithHash, length_shortHash]
  rw [if_neg (by omega), if_neg (by omega)]
  congr 2

lemma shortHash_ne_nil (s : GoString) : shortHash s ≠ [] := by
  intro h
  have := length_shortHash s
  rw [h] at this
  cases this

lemma shortened_length (hslug : slugOf s ≠ []) (h : 10 ≤ maxLen) :
    10 ≤ (shortened maxLen s).length ∧ (shortened maxLen s).length ≤ maxLen := by
  have hpos : 0 < (slugOf s).length := length_pos_iff.mpr hslug
  simp only [shortened, length_append, length_take, length_cons, length_shortHash]
  omega

lemma shortened_labelBytes (maxLen : Nat) (s : GoString) : LabelBytes (shortened maxLen s) := by
  intro b hb
  rcases mem_append.mp hb with hb | hb
  · exact slugOf_labelBytes s b (mem_of_mem_take hb)
  · rcases mem_cons.mp hb with rfl | hb
    · exact .inr rfl
    · exact .inl (shortHash_isLabelByte s b hb)

lemma labelOf_length (hslug : slugOf s ≠ []) (h : 10 ≤ maxLen) :
    (labelOf maxLen s).length ≤ maxLen := by
  unfold labelOf
  split
  · rename_i hlit
    exact hlit.2.1
  · exact (shortened_length hslug h).2

lemma labelOf_labelBytes (maxLen : Nat) (s : GoString) : LabelBytes (labelOf maxLen s) := by
  unfold labelOf
  split
  · rename_i hlit
    rw [← hlit.1]
    exact slugOf_labelBytes s
  · exact shortened_labelBytes maxLen s

lemma any_isLabelByte {o : Option UInt8} (hsome : o ≠ none)
    (h : ∀ b, o = some b → isLabelByte b = true) : o.any isLabelByte = true := by
  rcases o with _ | b
  · exact absurd rfl hsome
  · exact h b rfl

lemma labelOf_isDNS1123Label (hslug : slugOf s ≠ []) (h : 10 ≤ maxLen) (hmax : maxLen ≤ 63) :
    isDNS1123Label (labelOf maxLen s) = true := by
  have hlength := labelOf_length hslug h
  refine decide_eq_true ⟨hlength.trans hmax, labelOf_labelBytes maxLen s, ?_, ?_⟩
  · unfold labelOf
    split
    · rename_i hlit
      rw [← hlit.1]
      exact any_isLabelByte (by simpa using hslug) fun b hb => slugOf_head hb
    have hhead : (shortened maxLen s).head? = (slugOf s).head? := by
      rcases hs : slugOf s with _ | ⟨b, rest⟩
      · exact absurd hs hslug
      · obtain ⟨k, hk⟩ : ∃ k, maxLen - 9 = k + 1 := ⟨maxLen - 10, by omega⟩
        simp [shortened, hs, hk]
    rw [hhead]
    exact any_isLabelByte (by simpa using hslug) fun b hb => slugOf_head hb
  · unfold labelOf
    split
    · rename_i hlit
      rw [← hlit.1]
      exact any_isLabelByte (by simpa using hslug) fun b hb => slugOf_getLast hb
    have hlast : (shortened maxLen s).getLast? = (shortHash s).getLast? := by
      unfold shortened
      rw [getLast?_append, getLast?_cons]
      rcases hh : (shortHash s).getLast? with _ | b
      · exact absurd (getLast?_eq_none_iff.mp hh) (shortHash_ne_nil s)
      · rfl
    rw [hlast]
    refine any_isLabelByte (by simpa using shortHash_ne_nil s) fun b hb => ?_
    exact shortHash_isLabelByte s b (mem_of_getLast? hb)

lemma slugWithHash_eq (hlower : L.lower s = s) (hslug : slugOf s ≠ []) (h : 10 ≤ maxLen)
    (hmax : maxLen ≤ 63) : slugWithHash L s maxLen = .ok (labelOf maxLen s) := by
  have hne : s ≠ [] := by
    rintro rfl
    exact hslug rfl
  have hlabel : (if maxLen < (slugOf s).length ∨ slugOf s ≠ s then
    truncateWithHash (slugOf s) s maxLen
      else slugOf s) = labelOf maxLen s := by
    unfold labelOf
    by_cases hlit : Literal maxLen s
    · rw [if_pos hlit, if_neg, hlit.1]
      rintro (hlong | hchanged)
      · rw [hlit.1] at hlong
        exact absurd hlong (Nat.not_lt.mpr hlit.2.1)
      · exact hchanged hlit.1
    · rw [if_neg hlit, if_pos]
      · exact truncateWithHash_eq _ _ h
      · by_contra hnot
        rw [not_or, not_not, Nat.not_lt] at hnot
        exact hlit ⟨hnot.2, by rw [← hnot.2]; exact hnot.1, hne⟩
  have hnorm : normalizeToDNSLabel L s = .ok (slugOf s) := by
    rw [normalizeToDNSLabel, if_neg hne, hlower, if_neg hslug]
  have hvalid : validateDNSLabel (labelOf maxLen s) = .ok () := by
    rw [validateDNSLabel, if_pos (labelOf_isDNS1123Label hslug h hmax)]
  unfold slugWithHash
  rw [if_neg (by omega), hnorm]
  simp only [hlower]
  change (do
    validateDNSLabel (if maxLen < (slugOf s).length ∨ slugOf s ≠ s then
      truncateWithHash (slugOf s) s maxLen
      else slugOf s)
    _) = _
  rw [hlabel, hvalid]
  change (if maxLen < (labelOf maxLen s).length then _ else _) = _
  rw [if_neg (Nat.not_lt.mpr (labelOf_length hslug h))]
  rfl

lemma slugWithHash_error (hlower : L.lower s = s) (hslug : slugOf s = []) (h : 0 < maxLen) :
    ∃ e, slugWithHash L s maxLen = .error e := by
  unfold slugWithHash
  rw [if_neg (by omega)]
  unfold normalizeToDNSLabel
  rw [hlower, hslug]
  split <;> exact ⟨_, rfl⟩

end sandbox0.naming
