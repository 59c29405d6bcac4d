-- How a denied domain may be spelled. The letters of a Host header, and its
-- port, do not change what the policy sees of it. A trailing dot does: the rule
-- and the request have to agree on it.
import Sandbox0.NetdPlatform
import Sandbox0.NetdRules

namespace sandbox0.netd.proxy

open sandbox0.net sandbox0.netd.policy List

/-! ## Spellings of a name -/

/-- A letter, a digit, a hyphen, an underscore or the dot between two labels. -/
def NameByte (b : UInt8) : Prop :=
  (65 ≤ b ∧ b ≤ 90) ∨ (97 ≤ b ∧ b ≤ 122) ∨ (48 ≤ b ∧ b ≤ 57) ∨ b = 45 ∨ b = 95 ∨ b = 46

/-- A domain name in some letter case, without a trailing dot. -/
structure IsName (name : GoString) : Prop where
  bytes : ∀ b ∈ name, NameByte b
  nonempty : name ≠ []
  ends : name.getLast? ≠ some 46

def dotText (dot : Bool) : GoString := if dot then [46] else []

def portText : Option GoString → GoString
  | none => []
  | some digits => 58 :: digits

/-- A Host header for a name: with or without a trailing dot, with or without a port. -/
def hostHeader (name : GoString) (dot : Bool) (port : Option GoString) : GoString :=
  name ++ dotText dot ++ portText port

def Digits (port : Option GoString) : Prop := ∀ digits ∈ port, ∀ b ∈ digits, 48 ≤ b ∧ b ≤ 57

/-- The entry of a policy is for the name, with a trailing dot or without: it is the
name in some letter case, or `*.` in front of a domain that the name is or is below. -/
def Covers (entry name : GoString) (dot : Bool) : Prop :=
  normalized entry = toLower name ++ dotText dot ∨
    ∃ d, d ≠ [] ∧ normalized entry = lit "*." ++ (d ++ dotText dot) ∧
      (toLower name = d ∨ ∃ sub, toLower name = sub ++ 46 :: d)

/-! ## What the proxy makes of them -/

lemma nameByte_plain : ∀ b : UInt8, NameByte b → PlainByte b := by
  unfold NameByte PlainByte
  grind

lemma lower_nameByte : ∀ b : UInt8, NameByte b →
    NameByte (if 65 ≤ b ∧ b ≤ 90 then b + 32 else b) := by
  unfold NameByte
  grind

lemma lower_dot : ∀ b : UInt8, (if 65 ≤ b ∧ b ≤ 90 then b + 32 else b) = 46 → b = 46 := by
  grind

lemma digit_plain : ∀ b : UInt8, 48 ≤ b ∧ b ≤ 57 → PlainByte b ∧ ¬ (65 ≤ b ∧ b ≤ 90) ∧ b ≠ 58 ∧
    b ≠ 91 ∧ b ≠ 93 := by
  unfold PlainByte
  grind

lemma nameByte_no_bracket : ∀ b : UInt8, NameByte b → b ≠ 58 ∧ b ≠ 91 ∧ b ≠ 93 ∧ b ≠ 42 := by
  unfold NameByte
  grind

variable {name : GoString} {port : Option GoString} {value : TrafficRule}

lemma IsName.lower (h : IsName name) : ∀ b ∈ toLower name, NameByte b := by
  intro b hb
  obtain ⟨a, ha, rfl⟩ := mem_map.mp hb
  exact lower_nameByte a (h.bytes a ha)

lemma dotText_bytes {dot : Bool} {b : UInt8} (h : b ∈ dotText dot) : b = 46 := by
  cases dot with
  | false => cases h
  | true => exact mem_singleton.mp h

lemma toLower_dotText (dot : Bool) : toLower (dotText dot) = dotText dot := by
  cases dot <;> decide

lemma toLower_portText (h : Digits port) : toLower (portText port) = portText port := by
  cases port with
  | none => rfl
  | some digits =>
    have hdigits : toLower digits = digits := by
      unfold toLower
      conv_rhs => rw [← map_id digits]
      apply map_congr_left
      intro b hb
      exact if_neg (digit_plain b (h digits rfl b hb)).2.1
    show toLower ([58] ++ digits) = [58] ++ digits
    rw [toLower_append, hdigits]
    rfl

lemma IsName.spelled_bytes (h : IsName name) (dot : Bool) :
    ∀ b ∈ toLower name ++ dotText dot, NameByte b := by
  intro b hb
  rcases mem_append.mp hb with hb | hb
  · exact h.lower b hb
  · rw [dotText_bytes hb]
    unfold NameByte
    decide

lemma IsName.header_plain (h : IsName name) (dot : Bool)
    (hport : Digits port) : ∀ b ∈ hostHeader name dot port, PlainByte b := by
  intro b hb
  rcases mem_append.mp hb with hb | hb
  · rcases mem_append.mp hb with hb | hb
    · exact nameByte_plain b (h.bytes b hb)
    · rw [dotText_bytes hb]
      exact ⟨by decide, by decide⟩
  · cases port with
    | none => cases hb
    | some digits =>
      rcases mem_cons.mp hb with rfl | hb
      · exact ⟨by decide, by decide⟩
      · exact (digit_plain b (hport digits rfl b hb)).1

lemma splitHost_host_port {host digits : GoString} (hhost : ∀ b ∈ host, b ≠ 58 ∧ b ≠ 91 ∧ b ≠ 93)
    (hdigits : ∀ b ∈ digits, b ≠ 58 ∧ b ≠ 91 ∧ b ≠ 93) :
    splitHost (host ++ 58 :: digits) = some host := by
  have hcolon : (host ++ 58 :: digits).length - 1 -
      (host ++ 58 :: digits).reverse.idxOf 58 = host.length := by
    have hnot : (58 : UInt8) ∉ digits.reverse := by
      rw [mem_reverse]
      exact fun hmem => (hdigits 58 hmem).1 rfl
    rw [reverse_append, reverse_cons, append_assoc, idxOf_append_of_notMem hnot]
    simp
  have hbracket : ∀ c : UInt8, c = 91 ∨ c = 93 → c ∉ host ++ 58 :: digits := by
    intro c hc hmem
    rcases mem_append.mp hmem with hmem | hmem
    · rcases hc with rfl | rfl
      · exact (hhost _ hmem).2.1 rfl
      · exact (hhost _ hmem).2.2 rfl
    rcases mem_cons.mp hmem with heq | hmem
    · rcases hc with rfl | rfl <;> cases heq
    · rcases hc with rfl | rfl
      · exact (hdigits _ hmem).2.1 rfl
      · exact (hdigits _ hmem).2.2 rfl
  have hhead : (host ++ 58 :: digits).head? ≠ some 91 := fun hhead =>
    hbracket 91 (.inl rfl) (mem_of_head? hhead)
  have hclean : (58 : UInt8) ∉ host := fun hmem => (hhost 58 hmem).1 rfl
  simp only [splitHost, hcolon]
  rw [if_neg (by simp), if_neg hhead, take_left]
  rw [if_neg]
  rintro (hmem | hmem | hmem)
  · exact hclean hmem
  · exact hbracket 91 (.inl rfl) hmem
  · exact hbracket 93 (.inr rfl) hmem

section

variable (h : IsName name)

include h

/-- What is left of a Host header: the name in lower case, with its trailing dot. -/
lemma normalizeHost_hostHeader (dot : Bool) (hport : Digits port) :
    normalizeHost (hostHeader name dot port) = toLower name ++ dotText dot := by
  have hlower : toLower (trimSpace (hostHeader name dot port)) =
      toLower name ++ dotText dot ++ portText port := by
    rw [trimSpace_plain (h.header_plain dot hport)]
    unfold hostHeader
    rw [toLower_append, toLower_append, toLower_dotText, toLower_portText hport]
  have hhost : ∀ b ∈ toLower name ++ dotText dot, b ≠ 58 ∧ b ≠ 91 ∧ b ≠ 93 := by
    intro b hb
    obtain ⟨hcolon, hopen, hclose, -⟩ := nameByte_no_bracket b (h.spelled_bytes dot b hb)
    exact ⟨hcolon, hopen, hclose⟩
  unfold normalizeHost
  simp only [hlower]
  have hcolon : lit ":" = [58] := by decide +kernel
  cases port with
  | none =>
    rw [if_neg]
    · simp [portText]
    · simp only [contains, hcolon, singleton_infix_iff, decide_eq_true_eq, portText, append_nil]
      exact fun hmem => (hhost 58 hmem).1 rfl
  | some digits =>
    rw [if_pos]
    · have hdigits : ∀ b ∈ digits, b ≠ 58 ∧ b ≠ 91 ∧ b ≠ 93 := by
        intro b hb
        exact (digit_plain b (hport digits rfl b hb)).2.2
      simp only [portText]
      rw [splitHost_host_port hhost hdigits]
      rfl
    · simp [contains, hcolon, singleton_infix_iff, portText]

lemma IsName.lower_ne_nil (dot : Bool) : toLower name ++ dotText dot ≠ [] := by
  intro hnil
  have hname : toLower name = [] := (append_eq_nil_iff.mp hnil).1
  exact h.nonempty (map_eq_nil_iff.mp hname)

lemma normalized_spelled (dot : Bool) :
    normalized (toLower name ++ dotText dot) = toLower name ++ dotText dot := by
  have hplain : ∀ b ∈ toLower name ++ dotText dot, PlainByte b := fun b hb =>
    nameByte_plain b (h.spelled_bytes dot b hb)
  unfold normalized
  rw [trimSpace_plain hplain, toLower_append, toLower_toLower, toLower_dotText]

/-! ## What a rule makes of them -/

lemma star_ne_name (dot : Bool) : (lit "*.").isPrefixOf (toLower name ++ dotText dot) = false := by
  have hstar : lit "*." = [42, 46] := by decide +kernel
  cases hs : toLower name ++ dotText dot with
  | nil => exact absurd hs (h.lower_ne_nil dot)
  | cons b rest =>
    have hb := nameByte_no_bracket b (h.spelled_bytes dot b (hs ▸ mem_cons_self))
    have hne : (42 : UInt8) ≠ b := fun heq => hb.2.2.2 heq.symm
    simp [hstar, isPrefixOf, hne]

lemma split_dot {dot : Bool} {sub pat : GoString}
    (hpat : pat ≠ []) (heq : toLower name ++ dotText dot = sub ++ 46 :: pat) :
    ∃ d, d ≠ [] ∧ pat = d ++ dotText dot ∧ toLower name = sub ++ 46 :: d := by
  cases dot with
  | false =>
    refine ⟨pat, hpat, ?_, ?_⟩
    · simp [dotText]
    · simpa [dotText] using heq
  | true =>
    obtain ⟨d, z, rfl⟩ := eq_nil_or_concat' pat |>.resolve_left hpat
    have hsplit : toLower name ++ [46] = (sub ++ 46 :: d) ++ [z] := by
      simpa [dotText] using heq
    obtain ⟨hname, hz⟩ := append_inj' hsplit rfl
    cases hz
    refine ⟨d, ?_, rfl, hname⟩
    rintro rfl
    -- the name itself would end in a dot
    have hlast : (toLower name).getLast? = some 46 := by simp [hname]
    unfold toLower at hlast
    rw [getLast?_map, Option.map_eq_some_iff] at hlast
    obtain ⟨b, hb, hdot⟩ := hlast
    rw [lower_dot b hdot] at hb
    exact h.ends hb

/-- The rule of an entry matches the host exactly if the entry is for the name and
agrees with the host on the trailing dot. -/
lemma covers_iff (dot : Bool) (entry : GoString) : Covers entry name dot ↔
      ∃ rule, parseDomain entry = .ok [rule] ∧
        rule.matches (toLower name ++ dotText dot) = true := by
  have hstar : lit "*." = [42, 46] := by decide +kernel
  constructor
  · rintro (hexact | ⟨d, hd, hwild, hbelow⟩)
    · refine ⟨⟨toLower name ++ dotText dot, .exact⟩, ?_, by simp [DomainRule.matches]⟩
      unfold normalized at hexact
      simp only [parseDomain, hexact]
      rw [if_neg (h.lower_ne_nil dot), star_ne_name h dot]
      rfl
    · refine ⟨⟨d ++ dotText dot, .suffix⟩, ?_, ?_⟩
      · unfold normalized at hwild
        simp only [parseDomain, hwild, hstar]
        simp [isPrefixOf, hd]
      · simp only [DomainRule.matches, decide_eq_true_eq]
        rcases hbelow with rfl | ⟨sub, hsub⟩
        · exact .inl rfl
        · refine .inr (isSuffixOf_iff_suffix.mpr ⟨sub, ?_⟩)
          rw [hsub]
          simp
  · rintro ⟨rule, hparse, hmatch⟩
    unfold parseDomain at hparse
    dsimp only at hparse
    split at hparse
    · cases hparse
    split at hparse
    case isTrue hwild =>
      split at hparse
      · cases hparse
      rename_i hpat
      cases hparse
      obtain ⟨pat, hpattern⟩ := isPrefixOf_iff_prefix.mp hwild
      have hdrop : (toLower (trimSpace entry)).drop 2 = pat := by
        rw [← hpattern, hstar]
        rfl
      rw [hdrop] at hpat
      simp only [DomainRule.matches, decide_eq_true_eq, hdrop] at hmatch
      refine .inr ?_
      unfold normalized
      rw [← hpattern]
      rcases hmatch with hsame | hsuffix
      · refine ⟨toLower name, ?_, by rw [← hsame], .inl rfl⟩
        exact fun hnil => h.nonempty (map_eq_nil_iff.mp hnil)
      · obtain ⟨sub, hsub⟩ := isSuffixOf_iff_suffix.mp hsuffix
        obtain ⟨d, hd, rfl, hname⟩ := split_dot h hpat hsub.symm
        exact ⟨d, hd, rfl, .inr ⟨sub, hname⟩⟩
    case isFalse =>
      cases hparse
      simp only [DomainRule.matches, decide_eq_true_eq] at hmatch
      exact .inl hmatch.symm

lemma matchDomain_iff_covers (dot : Bool) {values : List GoString} {rules : List DomainRule}
    (hparse : parseDomains values = .ok rules) :
    matchDomain (toLower name ++ dotText dot) rules = true ↔
      ∃ entry ∈ values, Covers entry name dot := by
  unfold matchDomain
  rw [any_eq_true]
  constructor
  · rintro ⟨rule, hrule, hmatch⟩
    obtain ⟨entry, hentry, hone⟩ := (mem_parseDomains hparse rule).mp hrule
    exact ⟨entry, hentry, (covers_iff h dot entry).mpr ⟨rule, hone, hmatch⟩⟩
  · rintro ⟨entry, hentry, hcovers⟩
    obtain ⟨rule, hone, hmatch⟩ := (covers_iff h dot entry).mp hcovers
    exact ⟨rule, (mem_parseDomains hparse rule).mpr ⟨entry, hentry, hone⟩, hmatch⟩

end

/-! ## A deny rule for a domain -/

variable {texts : Texts}

/-- An allow-all spec has a deny rule for domains, and no rule that allows comes
before it. The first rule that matches decides, so the deny rule is in force. -/
structure DeniesDomains (spec : NetworkPolicySpec) (before : List TrafficRule) (value : TrafficRule)
    (after : List TrafficRule) : Prop where
  mode : spec.mode = .unset ∨ spec.mode = .allowAll
  rules : specRules spec = before ++ value :: after
  action : value.action = .deny
  cidrs : value.cidrs = []
  ports : value.ports = []
  appProtocols : value.appProtocols = []
  first : ∀ other ∈ before, other.action ≠ .allow

def requestFor (name : GoString) (dot : Bool) (port : Option GoString) (origIP : IP)
    (origPort : Int) : HTTPRequest :=
  { host := hostHeader name dot port, origIP, origPort }

/-- Something of the policy catches the spelling: an entry of the deny rule is for the
name and has the same trailing dot, or another rule denies the request. -/
def Caught (p : CompiledPolicy) (position : Nat) (value : TrafficRule) (name : GoString)
    (dot : Bool) (origIP : IP) (origPort : Int) : Prop :=
  0 < origPort ∧
    ((∃ entry ∈ value.domains, Covers entry name dot) ∨
      evaluateTrafficRules (p.egress.trafficRules.eraseIdx position) p.mode (some origIP) origPort
        (lit "tcp") (toLower name ++ dotText dot) (lit "http") = false)

lemma forall₂_split {α β : Type} {R : α → β → Prop} {l l' : List α} {a : α} {out : List β}
    (h : List.Forall₂ R (l ++ a :: l') out) :
    ∃ ob b oa, out = ob ++ b :: oa ∧ List.Forall₂ R l ob ∧ R a b := by
  induction l generalizing out with
  | nil =>
    cases h with
    | cons hab hrest => exact ⟨[], _, _, rfl, .nil, hab⟩
  | cons x l ih =>
    cases h with
    | @cons _ y _ out hxy hrest =>
      obtain ⟨ob, b, oa, rfl, hl, hab⟩ := ih hrest
      exact ⟨y :: ob, b, oa, rfl, .cons hxy hl, hab⟩

/-- A deny rule behind no rule that allows denies what it matches and leaves the rest
to the other rules. -/
lemma evaluateTrafficRules_deny {rules later : List CompiledTrafficRule}
    {rule : CompiledTrafficRule} (hfirst : ∀ other ∈ rules, other.action ≠ .allow)
    (hdeny : rule.action = .deny) (mode : NetworkPolicyMode) (destIP : Option IP) (destPort : Int)
    (transport host appProtocol : GoString) :
    evaluateTrafficRules (rules ++ rule :: later) mode destIP destPort transport host
      appProtocol = false ↔
      matchTrafficRule rule destIP destPort transport host appProtocol = true ∨
        evaluateTrafficRules (rules ++ later) mode destIP destPort transport host
          appProtocol = false := by
  unfold evaluateTrafficRules
  rw [find?_append, find?_append]
  cases hfind : rules.find? (matchTrafficRule · destIP destPort transport host appProtocol) with
  | some other =>
    have hother := hfirst other (mem_of_find?_eq_some hfind)
    simp [hother]
  | none =>
    simp only [Option.none_or]
    by_cases hmatch : matchTrafficRule rule destIP destPort transport host appProtocol = true
    · simp [hmatch, hdeny]
    · simp [hmatch]

lemma matchTrafficRule_domains {rule : CompiledTrafficRule} (hfrom : CompiledFrom texts value rule)
    (hcidrs : value.cidrs = []) (hports : value.ports = []) (hprotocols : value.appProtocols = [])
    (h : IsName name) (dot : Bool) (hwritten : rule.domains ≠ []) (destIP : Option IP)
    (destPort : Int) (transport appProtocol : GoString) :
    matchTrafficRule rule destIP destPort transport (toLower name ++ dotText dot)
      appProtocol = true ↔ ∃ entry ∈ value.domains, Covers entry name dot := by
  have hc : rule.cidrs = [] := by
    have hparse := hfrom.cidrs
    rw [hcidrs] at hparse
    exact (Except.ok.inj hparse).symm
  have hp : rule.ports = [] := by
    have hparse := hfrom.ports
    rw [hports] at hparse
    exact (Except.ok.inj hparse).symm
  have ha : rule.appProtocols = [] := by
    rw [hfrom.appProtocols, hprotocols]
    rfl
  rw [← matchDomain_iff_covers h dot hfrom.domains]
  simp [matchTrafficRule, hc, hp, ha, hwritten, normalized_spelled h dot, h.lower_ne_nil dot]

section

variable {spec : NetworkPolicySpec} {before after : List TrafficRule} {p : CompiledPolicy}
  (h : DeniesDomains spec before value after)
  (hcompiled : compileNetworkPolicy texts (some spec) = .ok p)

include h hcompiled

lemma DeniesDomains.compiled : ∃ rules rule later, p.egress.trafficRules = rules ++ rule :: later ∧
      p.egress.trafficRules.eraseIdx before.length = rules ++ later ∧
      (∀ other ∈ rules, other.action ≠ .allow) ∧ rule.action = .deny ∧
      CompiledFrom texts value rule := by
  have hrules := (compileNetworkPolicy_compiles hcompiled).rules
  rw [h.rules] at hrules
  obtain ⟨rules, rule, later, heq, hbefore, hfrom⟩ := forall₂_split hrules
  refine ⟨rules, rule, later, heq, ?_, ?_, hfrom.action.trans h.action, hfrom⟩
  · rw [heq, hbefore.length_eq, eraseIdx_append_of_length_le (le_refl _)]
    simp
  · intro other hother
    obtain ⟨i, hi, rfl⟩ := getElem_of_mem hother
    have hpair := getElem_mem_zip hbefore.length_eq i (hbefore.length_eq ▸ hi)
    rw [((forall₂_iff_zip.mp hbefore).2 hpair).action]
    exact h.first _ (of_mem_zip hpair).1

/-- A spelling of a denied name is denied exactly if it is caught, and every denial is
the same decision. -/
lemma DeniesDomains.decides (hname : IsName name)
    (hrule : ∃ entry ∈ value.domains, ∃ dot, Covers entry name dot) (dot : Bool)
    (hport : Digits port) (origIP : IP) (origPort : Int) :
    (Caught p before.length value name dot origIP origPort →
      decideTraffic texts (some p) (classifyHTTP (requestFor name dot port origIP origPort)) =
        { action := .deny, reason := lit "l4_denied", transport := lit "tcp",
          protocol := lit "http", classifierResult := lit "known" }) ∧
    ((decideTraffic texts (some p)
        (classifyHTTP (requestFor name dot port origIP origPort))).action = .deny →
      Caught p before.length value name dot origIP origPort) := by
  obtain ⟨rules, rule, later, heq, herase, hfirst, hdeny, hfrom⟩ := h.compiled hcompiled
  have hcompiles := compileNetworkPolicy_compiles hcompiled
  have hwritten : rule.domains ≠ [] := by
    obtain ⟨entry, hentry, edot, hcovers⟩ := hrule
    obtain ⟨r, hone, -⟩ := (covers_iff hname edot entry).mp hcovers
    exact ne_nil_of_mem ((mem_parseDomains hfrom.domains r).mpr ⟨entry, hentry, hone⟩)
  have hclass : classifyHTTP (requestFor name dot port origIP origPort) =
      classifyKnownTraffic (lit "tcp") (lit "http") (some origIP) origPort
        (toLower name ++ dotText dot) := by
    simp only [classifyHTTP, requestFor, normalizeHost_hostHeader hname dot hport]
    rw [if_neg (hname.lower_ne_nil dot)]
  have hl4 : deniedAtL4 texts (some p)
        (classifyHTTP (requestFor name dot port origIP origPort)) = true ↔
      Caught p before.length value name dot origIP origPort := by
    have hverdict : platformVerdict texts p (some origIP) = none := by
      simp [platformVerdict, hcompiles.platform]
    have hne : p.egress.trafficRules ≠ [] := by simp [heq]
    have htcp : normalized (lit "tcp") = lit "tcp" := by decide +kernel
    have hhttp : normalized (lit "http") = lit "http" := by decide +kernel
    have hsome : lit "tcp" ≠ [] := by decide +kernel
    rw [hclass]
    simp only [deniedAtL4, classifyKnownTraffic, allowEgressDestination, hverdict,
      htcp, hhttp, hsome,
      if_false, if_true, decide_eq_true_eq, ne_eq, reduceCtorEq, not_false_eq_true, true_and,
      if_pos hne, Caught, herase]
    rw [heq, evaluateTrafficRules_deny hfirst hdeny, matchTrafficRule_domains hfrom h.cidrs h.ports
      h.appProtocols hname dot hwritten]
  constructor
  · intro hcaught
    unfold decideTraffic
    rw [if_pos (hl4.mpr hcaught), hclass]
    rfl
  · intro hdenied
    by_contra hfree
    refine (decideTraffic_passes_iff _ _).mpr ⟨?_, ?_, ?_, ?_⟩ hdenied
    · exact Bool.eq_false_of_not_eq_true (fun hl => hfree (hl4.mp hl))
    · rw [hclass]
      exact fun hunknown => absurd rfl hunknown
    · intro _ _ _
      -- with rules there is no domain phase of the user
      have hne : p.egress.trafficRules ≠ [] := by simp [heq]
      rw [hclass]
      simp [allowEgressDomain, classifyKnownTraffic, normalized_spelled hname dot,
        hname.lower_ne_nil dot, hcompiles.platform, hne]
    · rw [hclass]
      exact fun _ hverified => absurd rfl hverified

end

/-- Two requests to one destination whose Host headers spell one name that a deny rule is
for. Both are denied, by the same decision, exactly if both spellings are caught: the
letter case and the port never matter, and the trailing dot has to be the rule's. -/
theorem denied_name_is_denied_in_every_caught_spelling (spec : NetworkPolicySpec)
    (before after : List TrafficRule) (value : TrafficRule)
    (hdeny : DeniesDomains spec before value after) (p : CompiledPolicy)
    (hcompiled : compileNetworkPolicy texts (some spec) = .ok p) (name name' : GoString)
    (hname : IsName name) (hname' : IsName name') (hsame : toLower name' = toLower name)
    (hrule : ∃ entry ∈ value.domains, ∃ dot, Covers entry name dot) (dot dot' : Bool)
    (port port' : Option GoString) (hport : Digits port) (hport' : Digits port') (origIP : IP)
    (origPort : Int) :
    ((decideTraffic texts (some p)
        (classifyHTTP (requestFor name dot port origIP origPort))).action = .deny ∧
      (decideTraffic texts (some p)
        (classifyHTTP (requestFor name' dot' port' origIP origPort))).action = .deny ∧
      decideTraffic texts (some p) (classifyHTTP (requestFor name dot port origIP origPort)) =
        decideTraffic texts (some p) (classifyHTTP (requestFor name' dot' port' origIP origPort))) ↔
      Caught p before.length value name dot origIP origPort ∧
        Caught p before.length value name dot' origIP origPort := by
  have hcovers : ∀ entry d, Covers entry name' d ↔ Covers entry name d := by
    intro entry d
    simp only [Covers, hsame]
  have hcaught : Caught p before.length value name' dot' origIP origPort ↔
      Caught p before.length value name dot' origIP origPort := by
    simp only [Caught, hcovers, hsame]
  have hrule' : ∃ entry ∈ value.domains, ∃ d, Covers entry name' d := by
    obtain ⟨entry, hentry, d, hd⟩ := hrule
    exact ⟨entry, hentry, d, (hcovers entry d).mpr hd⟩
  obtain ⟨hdenies, hdenied⟩ := hdeny.decides hcompiled hname hrule dot hport origIP origPort
  obtain ⟨hdenies', hdenied'⟩ := hdeny.decides hcompiled hname' hrule' dot' hport' origIP origPort
  rw [hcaught] at hdenies' hdenied'
  constructor
  · rintro ⟨hfirst, hsecond, -⟩
    exact ⟨hdenied hfirst, hdenied' hsecond⟩
  · rintro ⟨hfirst, hsecond⟩
    rw [hdenies hfirst, hdenies' hsecond]
    exact ⟨rfl, rfl, rfl⟩

/-- An allow-all spec that denies one domain. -/
def deniesOne (domain : GoString) : NetworkPolicySpec where
  sandboxID := lit "sb"
  teamID := lit "team"
  mode := .allowAll
  egress := some { deniedDomains := [domain] }

def denyOne (domain : GoString) : TrafficRule where
  name := lit "legacy-deny-domains"
  action := .deny
  cidrs := []
  ports := []
  domains := [domain]
  appProtocols := []

def deniedPolicy (pattern : GoString) (type : DomainMatchType) : CompiledPolicy where
  sandboxID := lit "sb"
  teamID := lit "team"
  mode := .allowAll
  egress := { trafficRules := [{ name := lit "legacy-deny-domains", action := .deny,
                                 domains := [⟨pattern, type⟩] }] }

lemma deniesOne_denies (domain : GoString) :
    DeniesDomains (deniesOne domain) [] (denyOne domain) [] :=
  ⟨.inr rfl, rfl, rfl, rfl, rfl, rfl, fun _ hother => absurd hother not_mem_nil⟩

/-- Capital letters and a port do not help. -/
theorem denied_name_is_denied_in_capitals_and_with_a_port :
    (decideTraffic ⟨fun _ => none, fun _ => []⟩ (some (deniedPolicy (lit "evil.test") .exact))
      (classifyHTTP
        (requestFor (lit "EVIL.test") false (some (lit "80")) [1, 2, 3, 4] 80))).action =
        .deny := by
  have hcompiled : compileNetworkPolicy ⟨fun _ => none, fun _ => []⟩
      (some (deniesOne (lit "Evil.Test"))) = .ok (deniedPolicy (lit "evil.test") .exact) := by
    decide +kernel
  have hname : IsName (lit "evil.test") :=
    ⟨by unfold NameByte; decide +kernel, by decide +kernel, by decide +kernel⟩
  have hcapitals : IsName (lit "EVIL.test") :=
    ⟨by unfold NameByte; decide +kernel, by decide +kernel, by decide +kernel⟩
  have hcovers : Covers (lit "Evil.Test") (lit "evil.test") false := .inl (by decide +kernel)
  have hcaught : Caught (deniedPolicy (lit "evil.test") .exact) 0 (denyOne (lit "Evil.Test"))
      (lit "evil.test") false [1, 2, 3, 4] 80 :=
    ⟨by decide, .inl ⟨_, mem_singleton_self _, hcovers⟩⟩
  have hdigits : Digits (some (lit "80")) := by
    rintro digits ⟨rfl⟩
    decide +kernel
  exact ((denied_name_is_denied_in_every_caught_spelling _ [] [] _ (deniesOne_denies _) _ hcompiled
    (lit "evil.test") (lit "EVIL.test") hname hcapitals (by decide +kernel)
    ⟨_, mem_singleton_self _, false, hcovers⟩ false false none (some (lit "80"))
    (fun _ hnone => by cases hnone) hdigits [1, 2, 3, 4] 80).mpr ⟨hcaught, hcaught⟩).2.1

/-- A trailing dot gets the denied name through. -/
theorem trailing_dot_escapes_the_deny_rule :
    ∃ p, compileNetworkPolicy ⟨fun _ => none, fun _ => []⟩
    (some (deniesOne (lit "evil.test"))) = .ok p ∧
      Covers (lit "evil.test") (lit "evil.test") false ∧
      (decideTraffic ⟨fun _ => none, fun _ => []⟩ (some p)
        (classifyHTTP (requestFor (lit "evil.test") false none [1, 2, 3, 4] 80))).action = .deny ∧
      (decideTraffic ⟨fun _ => none, fun _ => []⟩ (some p)
        (classifyHTTP (requestFor (lit "evil.test") true none [1, 2, 3, 4] 80))).action =
        .useAdapter :=
  ⟨deniedPolicy (lit "evil.test") .exact, by decide +kernel, .inl (by decide +kernel),
    by decide +kernel, by decide +kernel⟩

end sandbox0.netd.proxy
