-- The address lists of the platform policy (`normalizeCIDRInputs`, `parseCIDRs`): which
-- addresses the installed networks contain, against what is listed.
import Sandbox0.NetdPlatformState
import Sandbox0.NetdRules

namespace sandbox0.netd.daemon

open sandbox0.net sandbox0.netd.policy

open List

/-- An address in its shortest form, in which `(IP).Equal` compares. -/
def shortest (ip : IP) : IP := (to4 ip).getD ip

/-- Addresses of one family that have their first 32 bits in common: all of IPv4. -/
def SameFirst32 (a ip : IP) : Prop :=
  (shortest ip).length = (shortest a).length ∧ (shortest ip).take 4 = (shortest a).take 4

/-- What the package `net` says of its texts. A network may be read back in another form, as an
IPv4 network in sixteen bytes is, but it contains the same addresses. -/
structure AddressTexts.Documented (texts : AddressTexts) : Prop where
  blank : texts.parseCIDR [] = none
  ipString : ∀ {value a}, texts.parseIP value = some a →
    ∃ read, texts.parseCIDR (trimSpace (texts.ipString a ++ lit "/32")) = some read ∧
      ∀ ip, read.contains ip = true ↔ SameFirst32 a ip
  netString : ∀ {value net}, texts.parseCIDR value = some net →
    ∃ read, texts.parseCIDR (trimSpace (texts.netString net)) = some read ∧
      read.contains = net.contains

section

variable (texts : AddressTexts) (values : List GoString) (ip : IP)

def ListsAddress (a : IP) : Prop :=
  ∃ value ∈ values, contains (trimSpace value) (lit "/") = false ∧ trimSpace value ≠ [] ∧
    texts.parseIP (trimSpace value) = some a

def InListedNetwork : Prop :=
  ∃ value ∈ values, contains (trimSpace value) (lit "/") = true ∧
    ∃ net, texts.parseCIDR (trimSpace value) = some net ∧ net.contains ip = true

/-- The address equals a listed one or lies in a listed network. -/
def Listed : Prop :=
  (∃ a, ListsAddress texts values a ∧ shortest ip = shortest a) ∨ InListedNetwork texts values ip

/-- Where the address has its first 32 bits in common with a listed address, it is listed. -/
def ListedWithNear : Prop :=
  (∃ a, ListsAddress texts values a ∧ SameFirst32 a ip) → Listed texts values ip

end

/-- The entries of the allowed list: cluster addresses, endpoints and configured ones. -/
def allowedEntries (cfg : PlatformConfig) (m : Maps) : List GoString :=
  ((m.services.toList.filter fun p => isPlatformService p.2).flatMap fun p =>
    (if p.2.clusterIP ≠ [] ∧ toLower p.2.clusterIP ≠ lit "none" then [p.2.clusterIP] else []) ++
      ((m.endpoints[p.1]?).map (·.addresses)).getD []) ++ cfg.platformAllowedCIDRs

variable {texts : AddressTexts} {values : List GoString} {ip a : IP}

lemma mem_normalized {c : GoString} : c ∈ sortStrings (normalizeCIDRInputs texts values) ↔
      ∃ value ∈ values, normalizeCIDR texts value = some c := by
  rw [sortStrings, mem_insertionSort, normalizeCIDRInputs, mem_dedup, mem_filterMap]

section

variable (htexts : texts.Documented) {nets : List IPNet}
  (h : parseCIDRs texts.toTexts (sortStrings (normalizeCIDRInputs texts values)) = .ok nets)

include htexts h

lemma contained_iff : matchCIDR (some ip) nets = true ↔
      (∃ a, ListsAddress texts values a ∧ SameFirst32 a ip) ∨ InListedNetwork texts values ip := by
  simp only [matchCIDR, any_eq_true, mem_parseCIDRs h, mem_normalized]
  constructor
  · rintro ⟨net, ⟨c, ⟨value, hvalue, hc⟩, -, hparse⟩, hnet⟩
    simp only [normalizeCIDR] at hc
    split_ifs at hc with hblank hslash
    · obtain ⟨listed, hlisted, rfl⟩ := Option.map_eq_some_iff.mp hc
      obtain ⟨read, hread, hsame⟩ := htexts.netString hlisted
      rw [hread] at hparse
      cases hparse
      exact .inr ⟨value, hvalue, hslash, listed, hlisted, hsame ▸ hnet⟩
    · obtain ⟨a, ha, rfl⟩ := Option.map_eq_some_iff.mp hc
      obtain ⟨read, hread, hnear⟩ := htexts.ipString ha
      rw [hread] at hparse
      cases hparse
      exact .inl ⟨a, ⟨value, hvalue, Bool.eq_false_iff.mpr hslash, hblank, ha⟩, (hnear ip).mp hnet⟩
  · have hread {c net} (hparse : texts.parseCIDR (trimSpace c) = some net) : trimSpace c ≠ [] := by
      intro hc
      rw [hc, htexts.blank] at hparse
      cases hparse
    rintro (⟨a, ⟨value, hvalue, hslash, hblank, ha⟩, hnear⟩ |
      ⟨value, hvalue, hslash, listed, hlisted, hnet⟩)
    · obtain ⟨net, hparse, hcontains⟩ := htexts.ipString ha
      refine ⟨net, ⟨_, ⟨value, hvalue, ?_⟩, hread hparse, hparse⟩, (hcontains ip).mpr hnear⟩
      simp [normalizeCIDR, hblank, hslash, ha]
    · obtain ⟨net, hparse, hsame⟩ := htexts.netString hlisted
      refine ⟨net, ⟨_, ⟨value, hvalue, ?_⟩, hread hparse, hparse⟩, hsame ▸ hnet⟩
      simp [normalizeCIDR, hread hlisted, hslash, hlisted]

lemma exact_iff :
    (matchCIDR (some ip) nets = true ↔ Listed texts values ip) ↔
      ListedWithNear texts values ip := by
  have hsame (a : IP) : shortest ip = shortest a → SameFirst32 a ip := by
    simp +contextual [SameFirst32]
  rw [contained_iff htexts h, ListedWithNear]
  grind [Listed]

end

/-- The installed lists contain what is listed and no more exactly when no address near a listed
IPv6 address is left out. -/
theorem platform_lists_exact_iff (htexts : texts.Documented) {cfg : PlatformConfig} {m : Maps}
    {p : PlatformPolicy} (hp : buildPlatformPolicy texts (platformInputs texts cfg m) = .ok p) :
    ((matchCIDR (some ip) p.allowedCIDRs = true ↔ Listed texts (allowedEntries cfg m) ip) ↔
      ListedWithNear texts (allowedEntries cfg m) ip) ∧
    ((matchCIDR (some ip) p.deniedCIDRs = true ↔ Listed texts cfg.platformDeniedCIDRs ip) ↔
      ListedWithNear texts cfg.platformDeniedCIDRs ip) := by
  obtain ⟨allowed, hallowed, hp⟩ := of_bind_ok hp
  obtain ⟨denied, hdenied, hp⟩ := of_bind_ok hp
  obtain ⟨_, _, hp⟩ := of_bind_ok hp
  obtain ⟨_, _, hp⟩ := of_bind_ok hp
  cases hp
  exact ⟨exact_iff htexts hallowed, exact_iff htexts hdenied⟩

/-- 2001:db8::`last`. -/
def db8 (last : UInt8) : IP := [32, 1, 13, 184] ++ replicate 11 0 ++ [last]

def db8Net : IPNet := ⟨db8 0, replicate 4 255 ++ replicate 12 0⟩

/-- The texts of one address alone. -/
def db8Texts : AddressTexts where
  parseCIDR value := if value = lit "2001:db8::1/32" then some db8Net else none
  ipString _ := lit "2001:db8::1"
  parseIP value := if value = lit "2001:db8::1" then some (db8 1) else none
  netString _ := lit "2001:db8::1/32"

lemma db8Net_contains (ip : IP) : db8Net.contains ip = true ↔ SameFirst32 (db8 1) ip := by
  have hnumber : db8Net.numberAndMask.getD ([], []) = (db8Net.ip, db8Net.mask) := by decide
  have hbits : (shortest (db8 1)).take 4 = [32, 1, 13, 184] := by decide
  have hff (x : UInt8) : x &&& 255 = x := UInt8.and_neg_one
  simp only [IPNet.contains, hnumber, Bool.and_eq_true, beq_iff_eq]
  refine and_congr_right fun (hlen : (shortest ip).length = 16) => ?_
  rw [← shortest, hbits]
  match shortest ip, hlen with
  | [a, b, c, d, _, _, _, _, _, _, _, _, _, _, _, _], _ =>
    simp [db8Net, db8, hff]
    grind

lemma db8Texts_documented : db8Texts.Documented where
  blank := by decide +kernel
  ipString := by
    intro value a h
    have ha : a = db8 1 := by grind [db8Texts]
    subst ha
    exact ⟨db8Net, by decide +kernel, db8Net_contains⟩
  netString := by
    intro value net h
    have hnet : net = db8Net := by grind [db8Texts]
    subst hnet
    exact ⟨db8Net, by decide +kernel, rfl⟩

def db8Config : PlatformConfig := { platformAllowedCIDRs := [lit "2001:db8::1"] }

def db8Built := buildPlatformPolicy db8Texts (platformInputs db8Texts db8Config ⟨∅, ∅, ∅⟩)

lemma db8Built_ok : ∃ p, db8Built = .ok p ∧ p.allowedCIDRs = [db8Net] := by
  have h : db8Built.toOption.map (·.allowedCIDRs) = some [db8Net] := by decide +kernel
  cases hb : db8Built with
  | error e => simp [hb, Except.toOption] at h
  | ok p => exact ⟨p, rfl, by simpa [hb, Except.toOption] using h⟩

theorem platform_lists_contain_listed :
    ∃ p, db8Built = .ok p ∧ (matchCIDR (some (db8 1)) p.allowedCIDRs = true ↔
      Listed db8Texts (allowedEntries db8Config ⟨∅, ∅, ∅⟩) (db8 1)) := by
  obtain ⟨p, hp, -⟩ := db8Built_ok
  refine ⟨p, hp, (platform_lists_exact_iff db8Texts_documented hp).1.mpr fun _ => .inl ?_⟩
  exact ⟨db8 1, ⟨lit "2001:db8::1", by simp [allowedEntries, db8Config], by decide +kernel⟩, rfl⟩

/-- Only 2001:db8::1 is listed, and 2001:db8::2 is allowed with it. -/
theorem platform_lists_contain_neighbour :
    db8Texts.Documented ∧ ∃ p, db8Built = .ok p ∧
      matchCIDR (some (db8 2)) p.allowedCIDRs = true ∧
        ¬ Listed db8Texts (allowedEntries db8Config ⟨∅, ∅, ∅⟩) (db8 2) := by
  obtain ⟨p, hp, hallowed⟩ := db8Built_ok
  refine ⟨db8Texts_documented, p, hp, by rw [hallowed]; decide, ?_⟩
  have hentry : ∀ value ∈ allowedEntries db8Config ⟨∅, ∅, ∅⟩, value = lit "2001:db8::1" := by
    simp [allowedEntries, db8Config]
  rintro (⟨a, ⟨value, hvalue, -, -, ha⟩, hsame⟩ | ⟨value, hvalue, hslash, -⟩)
  · have ha : a = db8 1 := by grind [db8Texts]
    subst ha
    revert hsame
    decide
  · rw [hentry value hvalue] at hslash
    revert hslash
    decide +kernel

end sandbox0.netd.daemon
