-- Go strings. A Go string is any list of bytes. The module holds the parts
-- of `fmt`, `strconv`, `strings` and `encoding/json` that change a string: the
-- decimal form of a number, the blanks that `TrimSpace` cuts, and the bytes
-- that are not UTF-8, which JSON replaces.
import Mathlib

namespace sandbox0

open List

/-- A Go `string`: its bytes. -/
abbrev GoString := List UInt8

instance GoString.lawfulBEq : LawfulBEq GoString := inferInstance

/-- The bytes of a string constant of the source. -/
def lit (s : String) : GoString := s.toUTF8.toList

/-- What stands before the first byte `z` and what stands behind it. -/
lemma cut_inj {a a' b b' : GoString} {z : UInt8} (ha : z ∉ a) (ha' : z ∉ a')
    (h : a ++ z :: b = a' ++ z :: b') : a = a' ∧ b = b' := by
  have hlen := congrArg (idxOf z) h
  rw [idxOf_append_of_notMem ha, idxOf_append_of_notMem ha', idxOf_cons_self, idxOf_cons_self]
    at hlen
  obtain ⟨hleft, hright⟩ := append_inj h hlen
  exact ⟨hleft, (List.cons.inj hright).2⟩

/-! ## Numbers -/

def digitByte (c : Char) : UInt8 := c.toNat.toUInt8

/-- `fmt.Sprintf("%d", n)`. -/
def decimal (n : Nat) : GoString := (Nat.toDigits 10 n).map digitByte

/-- `fmt.Sprintf("%020d", n)`: at least twenty digits, with zeros in front. -/
def decimal20 (n : Nat) : GoString :=
  List.replicate (20 - (decimal n).length) 48 ++ decimal n

/-- The number that a list of ASCII digits writes. -/
def numberOf (l : GoString) : Nat := l.foldl (fun acc b => 10 * acc + (b.toNat - 48)) 0

lemma digitByte_of_isDigit {c : Char} (h : c.isDigit) : (digitByte c).toNat = c.toNat := by
  simp only [Char.isDigit, Bool.and_eq_true, decide_eq_true_eq] at h
  have h2 : c.toNat ≤ 57 := h.2
  simp only [digitByte, Nat.toUInt8_eq, UInt8.toNat_ofNat']
  omega

lemma foldl_digits (l : List Char) (hl : ∀ c ∈ l, c.isDigit) (acc : Nat) :
    (l.map digitByte).foldl (fun acc b => 10 * acc + (b.toNat - 48)) acc =
      Nat.ofDigitChars 10 l acc := by
  induction l generalizing acc with
  | nil => rfl
  | cons c l ih =>
    have hc := digitByte_of_isDigit (hl c mem_cons_self)
    simp only [map_cons, foldl_cons, hc]
    rw [ih (fun d hd => hl d (mem_cons_of_mem _ hd))]
    rfl

lemma numberOf_decimal (n : Nat) : numberOf (decimal n) = n := by
  unfold numberOf decimal
  rw [foldl_digits _ (fun c hc => Nat.isDigit_of_mem_toDigits (by omega) (by omega) hc)]
  exact Nat.ofDigitChars_ten_toDigits

lemma decimal_injective {m n : Nat} (h : decimal m = decimal n) : m = n := by
  rw [← numberOf_decimal m, h, numberOf_decimal]

lemma digit_of_mem_decimal {n : Nat} {b : UInt8} (h : b ∈ decimal n) : 48 ≤ b.toNat := by
  unfold decimal at h
  obtain ⟨c, hc, rfl⟩ := mem_map.mp h
  have hdigit : c.isDigit = true := Nat.isDigit_of_mem_toDigits (by omega) (by omega) hc
  rw [digitByte_of_isDigit hdigit]
  simp only [Char.isDigit, Bool.and_eq_true, decide_eq_true_eq] at hdigit
  exact hdigit.1

/-- `strconv.ParseInt(s, 10, 64)`: a sign, then digits, in the range of an `int64`. -/
def parseInt64 (s : GoString) : Option Int :=
  let digits := if s.head? = some 43 ∨ s.head? = some 45 then s.tail else s
  if digits = [] ∨ ¬ (digits.all fun b => decide (48 ≤ b ∧ b ≤ 57)) then none
  else if s.head? = some 45 then
    if numberOf digits ≤ 2 ^ 63 then some (-(numberOf digits : Int)) else none
  else if numberOf digits < 2 ^ 63 then some (numberOf digits) else none

/-! ## Blanks -/

/-- The white space characters of `strings.TrimSpace`, each as its bytes. -/
def blanks : List GoString :=
  [[9], [10], [11], [12], [13], [32], [194, 133], [194, 160], [225, 154, 128],
    [226, 128, 128], [226, 128, 129], [226, 128, 130], [226, 128, 131], [226, 128, 132],
    [226, 128, 133], [226, 128, 134], [226, 128, 135], [226, 128, 136], [226, 128, 137],
    [226, 128, 138], [226, 128, 168], [226, 128, 169], [226, 128, 175], [226, 129, 159],
    [227, 128, 128]]

/-- Cuts the leading blanks. Each turn cuts a byte or more, so `fuel` turns
are enough for a string of `fuel` bytes. -/
def trimLeftAux (cut : List GoString) : Nat → GoString → GoString
  | 0, s => s
  | fuel + 1, s =>
    match cut.find? (fun w => w.isPrefixOf s) with
    | some w => trimLeftAux cut fuel (s.drop w.length)
    | none => s

/-- `strings.TrimSpace`. -/
def trimSpace (s : GoString) : GoString :=
  let left := trimLeftAux blanks s.length s
  (trimLeftAux (blanks.map List.reverse) left.length left.reverse).reverse

variable {s : GoString} {b : UInt8}

lemma isPrefixOf_cons_ne {a : UInt8} {w : GoString} (hw : w ≠ []) (h : w.head? ≠ some a) :
    w.isPrefixOf (a :: s) = false := by
  cases w with
  | nil => exact absurd rfl hw
  | cons b w =>
    have hb : b ≠ a := fun hb => h (by simp [hb])
    simp [isPrefixOf, hb]

lemma trimLeftAux_keep {cut : List GoString} {x : GoString}
    (hcut : ∀ w ∈ cut, w ≠ [] ∧ w.head? ≠ some b) (fuel : Nat) :
    trimLeftAux cut fuel (b :: x) = b :: x := by
  cases fuel with
  | zero => rfl
  | succ fuel =>
    have hnone : cut.find? (fun w => w.isPrefixOf (b :: x)) = none := by
      rw [find?_eq_none]
      intro w hw
      rw [isPrefixOf_cons_ne (hcut w hw).1 (hcut w hw).2]
      simp
    simp only [trimLeftAux, hnone]

lemma trimSpace_of_edges {a z : UInt8} {s' r : GoString} (hs : s = a :: s')
    (hr : s.reverse = z :: r) (ha : ∀ w ∈ blanks, w ≠ [] ∧ w.head? ≠ some a)
    (hz : ∀ w ∈ blanks.map reverse, w ≠ [] ∧ w.head? ≠ some z) : trimSpace s = s := by
  have hleft : trimLeftAux blanks s.length s = s := by
    rw [hs]
    exact trimLeftAux_keep ha _
  unfold trimSpace
  simp only [hleft, hr]
  rw [trimLeftAux_keep hz, ← hr, reverse_reverse]

/-- A byte that is ASCII and no blank. -/
def PlainByte (b : UInt8) : Prop := 33 ≤ b ∧ b < 128

instance (b : UInt8) : Decidable (PlainByte b) := inferInstanceAs (Decidable (_ ∧ _))

lemma blanks_not_plain : ∀ w ∈ blanks, w ≠ [] ∧ ∀ b ∈ w, ¬ (33 ≤ b ∧ b < 128) := by
  decide +kernel

lemma PlainByte.no_blank (h : PlainByte b) : (∀ w ∈ blanks, w ≠ [] ∧ w.head? ≠ some b) ∧
      ∀ w ∈ blanks.map reverse, w ≠ [] ∧ w.head? ≠ some b := by
  constructor
  · intro w hw
    obtain ⟨hne, hbytes⟩ := blanks_not_plain w hw
    exact ⟨hne, fun hhead => hbytes b (mem_of_head? hhead) h⟩
  · intro w hw
    obtain ⟨v, hv, rfl⟩ := mem_map.mp hw
    obtain ⟨hne, hbytes⟩ := blanks_not_plain v hv
    refine ⟨by simpa using hne, fun hhead => ?_⟩
    exact hbytes b (mem_reverse.mp (mem_of_head? hhead)) h

lemma trimSpace_plain (h : ∀ b ∈ s, PlainByte b) : trimSpace s = s := by
  cases hs : s with
  | nil => decide
  | cons a s' =>
    cases hr : s.reverse with
    | nil =>
      rw [reverse_eq_nil_iff.mp hr] at hs
      cases hs
    | cons z r =>
      have ha : PlainByte a := h a (hs ▸ mem_cons_self)
      have hz : PlainByte z := h z (mem_reverse.mp (hr ▸ mem_cons_self))
      rw [← hs]
      exact trimSpace_of_edges hs hr ha.no_blank.1 hz.no_blank.2

lemma trimLeftAux_suffix (cut : List GoString) (fuel : Nat) (s : GoString) :
    trimLeftAux cut fuel s <:+ s := by
  induction fuel generalizing s with
  | zero => exact suffix_refl s
  | succ fuel ih =>
    simp only [trimLeftAux]
    split
    · exact (ih _).trans (drop_suffix _ _)
    · exact suffix_refl s

lemma trimSpace_isInfix (s : GoString) : trimSpace s <:+: s := by
  have hright := trimLeftAux_suffix (blanks.map reverse)
    (trimLeftAux blanks s.length s).length (trimLeftAux blanks s.length s).reverse
  have hprefix : trimSpace s <+: trimLeftAux blanks s.length s := by
    rw [← reverse_suffix]
    unfold trimSpace
    rw [reverse_reverse]
    exact hright
  exact hprefix.isInfix.trans (trimLeftAux_suffix blanks s.length s).isInfix

/-! ## Letters and parts -/

/-- `strings.ToUpper`, for the ASCII letters. -/
def toUpper (s : GoString) : GoString := s.map (fun b => if 97 ≤ b ∧ b ≤ 122 then b - 32 else b)

/-- `strings.ToLower`, for the ASCII letters. -/
def toLower (s : GoString) : GoString := s.map (fun b => if 65 ≤ b ∧ b ≤ 90 then b + 32 else b)

lemma toLower_append (s t : GoString) : toLower (s ++ t) = toLower s ++ toLower t :=
  map_append

lemma toLower_toLower (s : GoString) : toLower (toLower s) = toLower s := by
  unfold toLower
  rw [map_map]
  apply map_congr_left
  intro b _
  have hlower : ¬ (65 ≤ (if 65 ≤ b ∧ b ≤ 90 then b + 32 else b) ∧
      (if 65 ≤ b ∧ b ≤ 90 then b + 32 else b) ≤ 90) := by grind
  exact if_neg hlower

/-- `strings.Contains`. -/
def contains (s sub : GoString) : Bool := decide (sub <:+: s)

/-! ## UTF-8 -/

def replacement : GoString := [239, 191, 189]

/-- One turn per character: a character is copied, and a byte that starts
no character becomes U+FFFD. -/
def coerceAux : Nat → GoString → GoString
  | 0, _ => []
  | _ + 1, [] => []
  | fuel + 1, b :: rest =>
    match ByteArray.utf8DecodeChar? ⟨(b :: rest).toArray⟩ 0 with
    | some c => String.utf8EncodeChar c ++ coerceAux fuel ((b :: rest).drop c.utf8Size)
    | none => replacement ++ coerceAux fuel rest

/-- What a string is after `json.Marshal` and `json.Unmarshal`. -/
def coerceUTF8 (s : GoString) : GoString := coerceAux s.length s

/-- A string that is the UTF-8 form of some text. -/
def ValidUTF8 (s : GoString) : Prop := ∃ t : List Char, s = t.flatMap String.utf8EncodeChar

lemma decode_encode (c : Char) (rest : GoString) :
    ByteArray.utf8DecodeChar? ⟨(String.utf8EncodeChar c ++ rest).toArray⟩ 0 = some c := by
  have h := ByteArray.utf8DecodeChar?_utf8EncodeChar_append (b := ⟨rest.toArray⟩) (c := c)
  have he : (⟨(String.utf8EncodeChar c ++ rest).toArray⟩ : ByteArray) =
      (String.utf8EncodeChar c).toByteArray ++ ⟨rest.toArray⟩ := by
    apply ByteArray.ext
    simp
  rw [he]
  exact h

lemma coerceAux_encode (fuel : Nat) (c : Char) (rest : GoString) :
    coerceAux (fuel + 1) (String.utf8EncodeChar c ++ rest) =
      String.utf8EncodeChar c ++ coerceAux fuel rest := by
  have hlen : (String.utf8EncodeChar c).length = c.utf8Size := String.length_utf8EncodeChar c
  have hpos : 0 < c.utf8Size := c.utf8Size_pos
  cases henc : String.utf8EncodeChar c with
  | nil => rw [henc] at hlen; simp at hlen; omega
  | cons b bs =>
    have hd := decode_encode c rest
    rw [henc] at hd
    simp only [cons_append] at hd ⊢
    simp only [coerceAux, hd, henc]
    rw [← cons_append, drop_append_of_le_length (by rw [← henc]; omega),
      drop_of_length_le (by rw [← henc]; omega)]
    rfl

lemma coerceUTF8_of_valid (h : ValidUTF8 s) : coerceUTF8 s = s := by
  obtain ⟨t, rfl⟩ := h
  have key : ∀ (t : List Char) (fuel : Nat), (t.flatMap String.utf8EncodeChar).length ≤ fuel →
      coerceAux fuel (t.flatMap String.utf8EncodeChar) = t.flatMap String.utf8EncodeChar := by
    intro t
    induction t with
    | nil => intro fuel _; cases fuel <;> rfl
    | cons c t ih =>
      intro fuel hf
      have hpos : 0 < (String.utf8EncodeChar c).length := by
        rw [String.length_utf8EncodeChar]; exact c.utf8Size_pos
      simp only [flatMap_cons, length_append] at hf ⊢
      cases fuel with
      | zero => omega
      | succ fuel => rw [coerceAux_encode, ih fuel (by omega)]
  exact key t _ (Nat.le_refl _)

example : coerceUTF8 [97, 255, 98] = [97, 239, 191, 189, 98] := by decide

end sandbox0
