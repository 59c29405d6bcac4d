-- Addresses of Go's package `net`. An address is its bytes, four or sixteen of
-- them, and a network is an address with a mask. The texts of addresses are
-- read and written by the package, so they are parameters here.
import Sandbox0.GoString

namespace sandbox0.net

/-- `net.IP`. A nil address is the lack of one, so it is an `Option IP` where it occurs. -/
abbrev IP := List UInt8

def v4InV6Prefix : List UInt8 := [0, 0, 0, 0, 0, 0, 0, 0, 0, 0, 255, 255]

/-- `(IP).To4`: the four bytes of an IPv4 address, also of one written in sixteen. -/
def to4 (ip : IP) : Option IP :=
  if ip.length = 4 then some ip
  else if ip.length = 16 ∧ ip.take 12 = v4InV6Prefix then some (ip.drop 12)
  else none

/-- `net.IPNet`. -/
structure IPNet where
  ip : IP
  mask : List UInt8
  deriving DecidableEq

/-- `networkNumberAndMask`. -/
def IPNet.numberAndMask (n : IPNet) : Option (IP × List UInt8) := do
  let ip ← to4 n.ip <|> if n.ip.length = 16 then some n.ip else none
  if n.mask.length = 4 then
    if ip.length = 4 then some (ip, n.mask) else none
  else if n.mask.length = 16 then
    some (ip, if ip.length = 4 then n.mask.drop 12 else n.mask)
  else none

/-- `(*IPNet).Contains`. -/
def IPNet.contains (n : IPNet) (ip : IP) : Bool :=
  let ip := (to4 ip).getD ip
  let nm := n.numberAndMask.getD ([], [])
  ip.length == nm.1.length &&
    (nm.1.zip (ip.zip nm.2)).all fun p => p.1 &&& p.2.2 == p.2.1 &&& p.2.2

/-- The texts of addresses: `net.ParseCIDR`, and `(IP).String`. -/
structure Texts where
  parseCIDR : GoString → Option IPNet
  ipString : IP → GoString

/-- The host of `net.SplitHostPort`, or nothing when the call fails. The port
starts behind the last colon, and a host with colons stands in brackets. -/
def splitHost (hostport : GoString) : Option GoString :=
  let colon := hostport.length - 1 - hostport.reverse.idxOf 58
  if 58 ∉ hostport then none
  else if hostport.head? = some 91 then
    let close := hostport.idxOf 93
    if 93 ∉ hostport ∨ close + 1 ≠ colon then none
    else if 91 ∈ hostport.drop 1 ∨ 93 ∈ hostport.drop (close + 1) then none
    else some ((hostport.take close).drop 1)
  else
    let host := hostport.take colon
    if 58 ∈ host ∨ 91 ∈ hostport ∨ 93 ∈ hostport then none else some host

example : splitHost (lit "api.example.com:443") = some (lit "api.example.com") := by decide +kernel

example : splitHost (lit "[::1]:80") = some (lit "::1") := by decide +kernel

end sandbox0.net
