-- The hash SHA-1 on lists of bytes, as Go's `crypto/sha1` computes it.
import Mathlib

namespace sandbox0.sha1

/-! ## Words -/

def rotl (x n : UInt32) : UInt32 := (x <<< n) ||| (x >>> (32 - n))

def word (b : List UInt8) : UInt32 := b.foldl (fun acc x => (acc <<< 8) ||| x.toUInt32) 0

def bytesOf (x : UInt32) : List UInt8 :=
  [(x >>> 24).toUInt8, (x >>> 16).toUInt8, (x >>> 8).toUInt8, x.toUInt8]

/-- The list cut into pieces of `k` bytes. -/
def chunks (k : Nat) : Nat → List UInt8 → List (List UInt8)
  | 0, _ => []
  | fuel + 1, l => if l = [] then [] else l.take k :: chunks k fuel (l.drop k)

/-! ## Blocks -/

/-- The number of bits of the message, in eight bytes. -/
def lengthBytes (n : Nat) : List UInt8 :=
  (List.range 8).map fun i => (n * 8 / 256 ^ (7 - i)).toUInt8

def pad (m : List UInt8) : List UInt8 :=
  m ++ 128 :: List.replicate ((119 - m.length % 64) % 64) 0 ++ lengthBytes m.length

/-- The word that follows the last sixteen. -/
def nextWord (w : List UInt32) : UInt32 :=
  rotl (w.getD (w.length - 3) 0 ^^^ w.getD (w.length - 8) 0 ^^^ w.getD (w.length - 14) 0 ^^^
    w.getD (w.length - 16) 0) 1

def schedule (block : List UInt8) : List UInt32 :=
  (List.range 64).foldl (fun w _ => w ++ [nextWord w]) ((chunks 4 16 block).map word)

structure State where
  a : UInt32
  b : UInt32
  c : UInt32
  d : UInt32
  e : UInt32

/-- The function and the constant of round `i`. -/
def mix (s : State) (i : Nat) : UInt32 × UInt32 :=
  if i < 20 then ((s.b &&& s.c) ||| (~~~ s.b &&& s.d), 0x5A827999)
  else if i < 40 then (s.b ^^^ s.c ^^^ s.d, 0x6ED9EBA1)
  else if i < 60 then ((s.b &&& s.c) ||| (s.b &&& s.d) ||| (s.c &&& s.d), 0x8F1BBCDC)
  else (s.b ^^^ s.c ^^^ s.d, 0xCA62C1D6)

def round (s : State) (w : UInt32) (i : Nat) : State :=
  let (f, k) := mix s i
  { a := rotl s.a 5 + f + s.e + k + w, b := s.a, c := rotl s.b 30, d := s.c, e := s.d }

def block (s : State) (bytes : List UInt8) : State :=
  let t := (schedule bytes).zipIdx.foldl (fun t p => round t p.1 p.2) s
  { a := s.a + t.a, b := s.b + t.b, c := s.c + t.c, d := s.d + t.d, e := s.e + t.e }

def start : State where
  a := 0x67452301
  b := 0xEFCDAB89
  c := 0x98BADCFE
  d := 0x10325476
  e := 0xC3D2E1F0

def sum (m : List UInt8) : List UInt8 :=
  let s := (chunks 64 (m.length / 64 + 2) (pad m)).foldl block start
  bytesOf s.a ++ bytesOf s.b ++ bytesOf s.c ++ bytesOf s.d ++ bytesOf s.e

@[simp] lemma length_sum (m : List UInt8) : (sum m).length = 20 := rfl

example : sum [97, 98, 99] =
    [0xa9, 0x99, 0x3e, 0x36, 0x47, 0x06, 0x81, 0x6a, 0xba, 0x3e, 0x25, 0x71, 0x78, 0x50, 0xc2, 0x6c,
      0x9c, 0xd0, 0xd8, 0x9d] := by decide +kernel

end sandbox0.sha1
