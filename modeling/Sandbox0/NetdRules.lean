-- What the compiled traffic rules of a policy mean. The entries of a spec are
-- given a meaning of their own, and a compiled rule is compared with it: a list
-- of blank entries compiles to no constraint at all.
import Sandbox0.NetdPolicy

namespace sandbox0.netd.policy

open sandbox0.net List

variable {texts : Texts}

/-! ## The meaning of a spec -/

/-- A destination, as `allowEgressDestination` is asked about it. -/
structure Destination where
  ip : Option IP
  port : UInt16
  transport : GoString
  host : GoString
  appProtocol : GoString

namespace Destination

def transportName (d : Destination) : GoString :=
  if normalized d.transport = [] then lit "tcp" else normalized d.transport

/-- `matchTrafficRule`, as `allowEgressDestination` calls it. -/
def matchedBy (d : Destination) (rule : CompiledTrafficRule) : Bool :=
  matchTrafficRule rule d.ip d.port.toNat d.transportName d.host (normalized d.appProtocol)

/-- The address is in the network that an entry writes. A blank entry writes none. -/
def InCIDR (texts : Texts) (d : Destination) (entry : GoString) : Prop :=
  trimSpace entry ≠ [] ∧
    ∃ net ip, texts.parseCIDR (trimSpace entry) = some net ∧ d.ip = some ip ∧ net.contains ip = true

/-- The port is in the range of an entry, and the transport is the entry's. -/
def OnPort (d : Destination) (entry : PortSpec) : Prop :=
  entry.port ≤ d.port.toNat ∧ d.port.toNat ≤ entry.endPort.getD entry.port ∧
    d.transportName =
      if normalized entry.protocol = [] then lit "tcp" else normalized entry.protocol

/-- The host is the name of an entry, up to letter case and the blanks around it. An entry
`*.name` is for the name and for every name below it. -/
def InDomain (d : Destination) (entry : GoString) : Prop :=
  normalized d.host ≠ [] ∧ (normalized d.host = normalized entry ∨
    ∃ name, normalized entry = lit "*." ++ name ∧
      (normalized d.host = name ∨ ∃ below, normalized d.host = below ++ 46 :: name))

/-- The application protocol is the one that an entry names. -/
def SpeaksProtocol (d : Destination) (entry : GoString) : Prop :=
  normalized d.appProtocol ≠ [] ∧ normalized d.appProtocol = normalized entry

/-- Every list that the rule writes has an entry for the destination. -/
structure Satisfies (texts : Texts) (d : Destination) (value : TrafficRule) : Prop where
  cidrs : value.cidrs ≠ [] → ∃ entry ∈ value.cidrs, d.InCIDR texts entry
  ports : value.ports ≠ [] → ∃ entry ∈ value.ports, d.OnPort entry
  domains : value.domains ≠ [] → ∃ entry ∈ value.domains, d.InDomain entry
  appProtocols : value.appProtocols ≠ [] → ∃ entry ∈ value.appProtocols, d.SpeaksProtocol entry

/-- Every list with an entry that is not blank has an entry for the destination. -/
structure SatisfiesWritten (texts : Texts) (d : Destination) (value : TrafficRule) : Prop where
  cidrs : (∃ entry ∈ value.cidrs, trimSpace entry ≠ []) →
    ∃ entry ∈ value.cidrs, d.InCIDR texts entry
  ports : value.ports ≠ [] → ∃ entry ∈ value.ports, d.OnPort entry
  domains : (∃ entry ∈ value.domains, trimSpace entry ≠ []) →
    ∃ entry ∈ value.domains, d.InDomain entry
  appProtocols : (∃ entry ∈ value.appProtocols, trimSpace entry ≠ []) →
    ∃ entry ∈ value.appProtocols, d.SpeaksProtocol entry

end Destination

/-- A list with entries, all of them blank. -/
def BlankOnly (entries : List GoString) : Prop :=
  entries ≠ [] ∧ ∀ entry ∈ entries, trimSpace entry = []

/-- A rule that writes a list of blank entries. -/
def TrafficRule.HasBlankList (value : TrafficRule) : Prop :=
  BlankOnly value.cidrs ∨ BlankOnly value.domains ∨ BlankOnly value.appProtocols

/-- The legacy lists of block-all as one rule that allows. -/
def legacyAllowRules (egress : NetworkEgressPolicy) : List TrafficRule :=
  if egress.allowedCIDRs = [] ∧ egress.allowedPorts = [] ∧ egress.allowedDomains = [] then []
  else
    [{ name := lit "legacy-allow", action := .allow, cidrs := egress.allowedCIDRs,
       ports := egress.allowedPorts, domains := egress.allowedDomains, appProtocols := [] }]

/-- The legacy lists of allow-all, each as a rule that denies. -/
def legacyDenyRules (egress : NetworkEgressPolicy) : List TrafficRule :=
  (if egress.deniedCIDRs = [] then [] else
    [{ name := lit "legacy-deny-cidrs", action := .deny, cidrs := egress.deniedCIDRs,
       ports := [], domains := [], appProtocols := [] }]) ++
  (if egress.deniedPorts = [] then [] else
    [{ name := lit "legacy-deny-ports", action := .deny, cidrs := [],
       ports := egress.deniedPorts, domains := [], appProtocols := [] }]) ++
  (if egress.deniedDomains = [] then [] else
    [{ name := lit "legacy-deny-domains", action := .deny, cidrs := [], ports := [],
       domains := egress.deniedDomains, appProtocols := [] }])

def specRules (spec : NetworkPolicySpec) : List TrafficRule :=
  match spec.egress with
  | none => []
  | some egress =>
    if egress.trafficRules ≠ [] then egress.trafficRules
    else if spec.mode = .blockAll then legacyAllowRules egress
    else legacyDenyRules egress

/-! ## Compilation, read backwards -/

/-- A compiled rule is made of the lists of one rule of the spec. -/
structure CompiledFrom (texts : Texts) (value : TrafficRule)
    (rule : CompiledTrafficRule) : Prop where
  action : rule.action = value.action
  cidrs : parseCIDRs texts value.cidrs = .ok rule.cidrs
  ports : parsePorts value.ports = .ok rule.ports
  domains : parseDomains value.domains = .ok rule.domains
  appProtocols : rule.appProtocols = normalizeTrafficRuleAppProtocols value.appProtocols

variable {value : TrafficRule} {egress : NetworkEgressPolicy} {rules : List CompiledTrafficRule}
    {spec : NetworkPolicySpec} {values : List GoString} {nets : List IPNet} {entry : GoString}
    {d : Destination}

lemma compileTrafficRule_from {rule : CompiledTrafficRule}
    (h : compileTrafficRule texts value = .ok rule) : CompiledFrom texts value rule := by
  unfold compileTrafficRule at h
  obtain ⟨cidrs, hcidrs, h⟩ := of_bind_ok h
  obtain ⟨ports, hports, h⟩ := of_bind_ok h
  obtain ⟨domains, hdomains, h⟩ := of_bind_ok h
  dsimp only at h
  split at h
  · cases h
  split at h
  · cases h
  split at h
  · cases h
  · cases h
    exact ⟨rfl, hcidrs, hports, hdomains, rfl⟩

lemma compileLegacyAllowRules_from
    (h : compileLegacyAllowRules texts egress.allowedCIDRs egress.allowedPorts
      egress.allowedDomains = .ok rules) :
    List.Forall₂ (CompiledFrom texts) (legacyAllowRules egress) rules := by
  unfold compileLegacyAllowRules at h
  unfold legacyAllowRules
  split at h
  case isTrue hempty =>
    cases h
    rw [if_pos hempty]
    exact .nil
  case isFalse hempty =>
    obtain ⟨cidrs, hcidrs, h⟩ := of_bind_ok h
    obtain ⟨ports, hports, h⟩ := of_bind_ok h
    obtain ⟨domains, hdomains, h⟩ := of_bind_ok h
    cases h
    rw [if_neg hempty]
    exact .cons ⟨rfl, hcidrs, hports, hdomains, rfl⟩ .nil

/-- One of the three lists that deny: it is empty, or it is one rule. -/
def legacyDenyPart {α β : Type} [DecidableEq α] (parse : List α → Except CompileError β)
    (mk : β → CompiledTrafficRule) (l : List α) : Except CompileError (List CompiledTrafficRule) :=
  if l = [] then .ok [] else parse l >>= fun b => .ok [mk b]

lemma legacyDenyPart_from {α β : Type} [DecidableEq α] {parse : List α → Except CompileError β}
    {mk : β → CompiledTrafficRule} {l : List α}
    (hmk : ∀ b, parse l = .ok b → CompiledFrom texts value (mk b))
    (h : legacyDenyPart parse mk l = .ok rules) :
    List.Forall₂ (CompiledFrom texts) (if l = [] then [] else [value]) rules := by
  unfold legacyDenyPart at h
  split at h
  case isTrue hempty =>
    cases h
    rw [if_pos hempty]
    exact .nil
  case isFalse hempty =>
    obtain ⟨b, hb, h⟩ := of_bind_ok h
    cases h
    rw [if_neg hempty]
    exact .cons (hmk b hb) .nil

lemma compileLegacyDenyRules_eq (cidrs : List GoString) (ports : List PortSpec)
    (domains : List GoString) : compileLegacyDenyRules texts cidrs ports domains = (do
      let c ← legacyDenyPart (parseCIDRs texts)
        (fun cidrs => { name := lit "legacy-deny-cidrs", action := .deny, cidrs }) cidrs
      let p ← legacyDenyPart parsePorts
        (fun ports => { name := lit "legacy-deny-ports", action := .deny, ports }) ports
      let d ← legacyDenyPart parseDomains
        (fun domains => { name := lit "legacy-deny-domains", action := .deny, domains }) domains
      .ok (c ++ p ++ d)) := by
  unfold compileLegacyDenyRules legacyDenyPart
  by_cases hc : cidrs = [] <;> by_cases hp : ports = [] <;> by_cases hd : domains = [] <;>
    simp only [hc, hp, hd, if_true, if_false, pure_bind, bind_assoc] <;> rfl

lemma compileLegacyDenyRules_from
    (h : compileLegacyDenyRules texts egress.deniedCIDRs egress.deniedPorts egress.deniedDomains =
      .ok rules) : List.Forall₂ (CompiledFrom texts) (legacyDenyRules egress) rules := by
  rw [compileLegacyDenyRules_eq] at h
  obtain ⟨cidrRules, hcidrs, h⟩ := of_bind_ok h
  obtain ⟨portRules, hports, h⟩ := of_bind_ok h
  obtain ⟨domainRules, hdomains, h⟩ := of_bind_ok h
  cases h
  refine rel_append (rel_append ?_ ?_) ?_
  · exact legacyDenyPart_from (fun _ hparsed => ⟨rfl, hparsed, rfl, rfl, rfl⟩) hcidrs
  · exact legacyDenyPart_from (fun _ hparsed => ⟨rfl, rfl, hparsed, rfl, rfl⟩) hports
  · exact legacyDenyPart_from (fun _ hparsed => ⟨rfl, rfl, rfl, hparsed, rfl⟩) hdomains

/-- An accepted spec has its rules compiled one by one. Nothing else of the
policy asks about a destination. -/
structure Compiles (texts : Texts) (spec : NetworkPolicySpec) (p : CompiledPolicy) : Prop where
  rules : List.Forall₂ (CompiledFrom texts) (specRules spec) p.egress.trafficRules
  mode : p.mode = if spec.mode = .unset then .allowAll else spec.mode
  platform : p.platform = none
  allowedCIDRs : p.egress.allowedCIDRs = []
  deniedCIDRs : p.egress.deniedCIDRs = []
  allowedPorts : p.egress.allowedPorts = []
  deniedPorts : p.egress.deniedPorts = []
  allowedDomains : p.egress.allowedDomains = []
  deniedDomains : p.egress.deniedDomains = []

lemma compileEgress_from {compiled : CompiledRuleSet} (hegress : spec.egress = some egress)
    (h : compileEgress texts (if spec.mode = .unset then .allowAll else spec.mode) egress =
      .ok compiled) : List.Forall₂ (CompiledFrom texts) (specRules spec) compiled.trafficRules ∧
      ∃ trafficRules authRules, compiled = { trafficRules, authRules } := by
  unfold compileEgress at h
  dsimp only at h
  split at h
  · cases h
  obtain ⟨own, hown, h⟩ := of_bind_ok h
  have howned : List.Forall₂ (CompiledFrom texts) egress.trafficRules own :=
    (mapM_ok hown).imp fun _ _ hrule => compileTrafficRule_from hrule
  simp only [specRules, hegress]
  split at h
  case isTrue hnone =>
    have hnil : egress.trafficRules = [] := by
      rw [hnone] at howned
      exact forall₂_nil_right_iff.mp howned
    rw [if_neg (not_not.mpr hnil)]
    obtain ⟨rules, hrules, h⟩ := of_bind_ok h
    obtain ⟨auth, -, h⟩ := of_bind_ok h
    cases h
    refine ⟨?_, rules, auth, rfl⟩
    unfold compileLegacyTrafficRules at hrules
    split at hrules
    case h_1 hmode =>
      by_cases hunset : spec.mode = .unset
      · rw [if_pos hunset] at hmode
        cases hmode
      · rw [if_neg hunset] at hmode
        exact absurd hmode hunset
    case h_2 hmode =>
      have hblock : spec.mode ≠ .blockAll := by
        intro hblock
        rw [hblock] at hmode
        cases hmode
      rw [if_neg hblock]
      exact compileLegacyDenyRules_from hrules
    case h_3 hmode =>
      have hblock : spec.mode = .blockAll := by
        by_cases hunset : spec.mode = .unset
        · rw [if_pos hunset] at hmode
          cases hmode
        · rwa [if_neg hunset] at hmode
      rw [if_pos hblock]
      exact compileLegacyAllowRules_from hrules
    case h_4 => cases hrules
  case isFalse hsome =>
    have hcons : egress.trafficRules ≠ [] := by
      intro hnil
      rw [hnil] at howned
      exact hsome (forall₂_nil_left_iff.mp howned)
    rw [if_pos hcons]
    obtain ⟨rules, hrules, h⟩ := of_bind_ok h
    obtain ⟨auth, -, h⟩ := of_bind_ok h
    cases h
    cases hrules
    exact ⟨howned, own, auth, rfl⟩

lemma compileNetworkPolicy_compiles {p : CompiledPolicy}
    (h : compileNetworkPolicy texts (some spec) = .ok p) : Compiles texts spec p := by
  unfold compileNetworkPolicy at h
  dsimp only at h
  split at h
  case h_1 hnone =>
    cases h
    refine ⟨?_, rfl, rfl, rfl, rfl, rfl, rfl, rfl, rfl⟩
    simp only [specRules, hnone]
    exact .nil
  case h_2 egress hsome =>
    obtain ⟨compiled, hcompiled, h⟩ := of_bind_ok h
    obtain ⟨hrules, rules, auth, rfl⟩ := compileEgress_from hsome hcompiled
    cases h
    exact ⟨hrules, rfl, rfl, rfl, rfl, rfl, rfl, rfl, rfl⟩

/-! ## The lists of a rule -/

lemma mem_parseCIDRs (h : parseCIDRs texts values = .ok nets) (net : IPNet) : net ∈ nets ↔
      ∃ entry ∈ values, trimSpace entry ≠ [] ∧ texts.parseCIDR (trimSpace entry) = some net := by
  obtain ⟨outs, houts, h⟩ := of_bind_ok h
  cases h
  rw [mem_flatten]
  constructor
  · rintro ⟨out, hout, hnet⟩
    obtain ⟨entry, hentry, hparse⟩ := (mem_of_mapM_ok houts out).mp hout
    refine ⟨entry, hentry, ?_⟩
    unfold parseOneCIDR at hparse
    split at hparse
    · cases hparse
      cases hnet
    rename_i hwritten
    split at hparse
    · rename_i n hn
      cases hparse
      rw [mem_singleton] at hnet
      rw [hnet]
      exact ⟨hwritten, hn⟩
    · cases hparse
  · rintro ⟨entry, hentry, hwritten, hnet⟩
    refine ⟨[net], (mem_of_mapM_ok houts [net]).mpr ⟨entry, hentry, ?_⟩, mem_singleton_self _⟩
    simp only [parseOneCIDR, if_neg hwritten, hnet]

lemma parseCIDRs_written (h : parseCIDRs texts values = .ok nets) (hentry : entry ∈ values)
    (hwritten : trimSpace entry ≠ []) : ∃ net, texts.parseCIDR (trimSpace entry) = some net := by
  obtain ⟨outs, houts, -⟩ := of_bind_ok h
  obtain ⟨out, hout⟩ := ok_of_mapM_ok houts hentry
  unfold parseOneCIDR at hout
  rw [if_neg hwritten] at hout
  split at hout
  · exact ⟨_, by assumption⟩
  · cases hout

/-- A list that is parsed entry by entry is empty when no entry is written, and only then. -/
lemma eq_nil_iff_of_written {α : Type} {parsed : List α} {parses : GoString → α → Prop}
    (hmem : ∀ a, a ∈ parsed ↔ ∃ entry ∈ values, parses entry a)
    (hwritten : ∀ entry ∈ values, trimSpace entry ≠ [] ↔ ∃ a, parses entry a) :
    parsed = [] ↔ ¬ ∃ entry ∈ values, trimSpace entry ≠ [] := by
  simp only [eq_nil_iff_forall_not_mem, hmem, not_exists, not_and]
  constructor
  · intro hnone entry hentry hw
    obtain ⟨a, ha⟩ := (hwritten entry hentry).mp hw
    exact hnone a entry hentry ha
  · intro hnone a entry hentry ha
    exact hnone entry hentry ((hwritten entry hentry).mpr ⟨a, ha⟩)

lemma cidrs_iff (h : parseCIDRs texts values = .ok nets) (d : Destination) :
    (nets = [] ∨ matchCIDR d.ip nets = true) ↔
      ((∃ entry ∈ values, trimSpace entry ≠ []) → ∃ entry ∈ values, d.InCIDR texts entry) := by
  have hnil := eq_nil_iff_of_written (mem_parseCIDRs h) fun entry hentry =>
    ⟨fun hw => (parseCIDRs_written h hentry hw).imp fun _ hnet => ⟨hw, hnet⟩, fun ⟨_, hw, _⟩ => hw⟩
  have hmatch : matchCIDR d.ip nets = true ↔ ∃ entry ∈ values, d.InCIDR texts entry := by
    constructor
    · intro hmatch
      cases hip : d.ip with
      | none => simp [hip, matchCIDR] at hmatch
      | some ip =>
        rw [hip] at hmatch
        obtain ⟨net, hnet, hin⟩ := any_eq_true.mp hmatch
        obtain ⟨entry, hentry, hwritten, hparse⟩ := (mem_parseCIDRs h net).mp hnet
        exact ⟨entry, hentry, hwritten, net, ip, hparse, hip, hin⟩
    · rintro ⟨entry, hentry, hwritten, net, ip, hparse, hip, hin⟩
      rw [hip]
      exact any_eq_true.mpr ⟨net, (mem_parseCIDRs h net).mpr ⟨entry, hentry, hwritten, hparse⟩, hin⟩
  rw [hnil, hmatch, or_iff_not_imp_left, not_not]

lemma parsePort_eq {entry : PortSpec} {range : PortRange} (h : parsePort entry = .ok range) :
    range.start = entry.port ∧ range.stop = entry.endPort.getD entry.port ∧ range.protocol =
        if normalized entry.protocol = [] then lit "tcp" else normalized entry.protocol := by
  unfold parsePort at h
  dsimp only at h
  generalize hproto : (if toLower (trimSpace entry.protocol) = [] then lit "tcp"
    else toLower (trimSpace entry.protocol)) = proto at h
  split at h
  · cases h
  split at h
  · cases h
  split at h
  · cases h
  · cases h
    exact ⟨rfl, rfl, hproto.symm⟩

lemma int32_port (port : UInt16) : int32 port.toNat = port.toNat := by
  have hlt : port.toNat < 65536 := port.toNat_lt
  unfold int32
  omega

lemma onPort_iff {entry : PortSpec} {range : PortRange} (h : parsePort entry = .ok range)
    (d : Destination) : ((range.protocol = [] ∨ range.protocol = d.transportName) ∧
      range.start ≤ int32 d.port.toNat ∧ int32 d.port.toNat ≤ range.stop) ↔ d.OnPort entry := by
  obtain ⟨hstart, hstop, hprotocol⟩ := parsePort_eq h
  have hname : range.protocol ≠ [] := by
    rw [hprotocol]
    split
    · decide +kernel
    · assumption
  rw [int32_port, hstart, hstop]
  unfold Destination.OnPort
  rw [← hprotocol]
  constructor
  · rintro ⟨hnone | hsame, hlow, hhigh⟩
    · exact absurd hnone hname
    · exact ⟨hlow, hhigh, hsame.symm⟩
  · rintro ⟨hlow, hhigh, hsame⟩
    exact ⟨.inr hsame.symm, hlow, hhigh⟩

lemma ports_iff {values : List PortSpec} {ranges : List PortRange}
    (h : parsePorts values = .ok ranges) (d : Destination) :
    (ranges = [] ∨ matchPort d.port.toNat d.transportName ranges = true) ↔
      (values ≠ [] → ∃ entry ∈ values, d.OnPort entry) := by
  have hnil : ranges = [] ↔ values = [] := by
    have hall := mapM_ok h
    constructor
    · rintro rfl
      exact forall₂_nil_right_iff.mp hall
    · rintro rfl
      exact forall₂_nil_left_iff.mp hall
  have hmatch : matchPort d.port.toNat d.transportName ranges = true ↔
      ∃ entry ∈ values, d.OnPort entry := by
    simp only [matchPort, any_eq_true, decide_eq_true_eq]
    constructor
    · rintro ⟨range, hrange, hin⟩
      obtain ⟨entry, hentry, hparse⟩ := (mem_of_mapM_ok h range).mp hrange
      exact ⟨entry, hentry, (onPort_iff hparse d).mp hin⟩
    · rintro ⟨entry, hentry, hin⟩
      obtain ⟨range, hparse⟩ := ok_of_mapM_ok h hentry
      exact ⟨range, (mem_of_mapM_ok h range).mpr ⟨entry, hentry, hparse⟩,
        (onPort_iff hparse d).mpr hin⟩
  rw [hnil, hmatch, or_iff_not_imp_left]

lemma normalized_eq_nil_iff (entry : GoString) : normalized entry = [] ↔ trimSpace entry = [] := by
  simp [normalized, toLower]

lemma Destination.InDomain.written (h : d.InDomain entry) : trimSpace entry ≠ [] := by
  rw [ne_eq, ← normalized_eq_nil_iff]
  rcases h with ⟨hhost, hsame | ⟨name, hname, -⟩⟩
  · exact hsame ▸ hhost
  · rw [hname]
    exact append_ne_nil_of_left_ne_nil (by decide +kernel) _

lemma parseDomain_cases {out : List DomainRule} (h : parseDomain entry = .ok out) :
    (trimSpace entry = [] ∧ out = []) ∨ (trimSpace entry ≠ [] ∧ ∃ rule, out = [rule]) := by
  have hblank := normalized_eq_nil_iff entry
  unfold normalized at hblank
  unfold parseDomain at h
  dsimp only at h
  split at h
  case isTrue hnil =>
    cases h
    exact .inl ⟨hblank.mp hnil, rfl⟩
  case isFalse hsome =>
    have hwritten : trimSpace entry ≠ [] := fun hnil => hsome (hblank.mpr hnil)
    split at h
    · split at h
      · cases h
      · cases h
        exact .inr ⟨hwritten, _, rfl⟩
    · cases h
      exact .inr ⟨hwritten, _, rfl⟩

lemma parseDomain_inDomain {rule : DomainRule} (h : parseDomain entry = .ok [rule])
    (d : Destination) :
    d.InDomain entry ↔ normalized d.host ≠ [] ∧ rule.matches (normalized d.host) = true := by
  unfold Destination.InDomain
  refine and_congr_right fun _ => ?_
  unfold parseDomain at h
  change (if normalized entry = [] then _ else _) = _ at h
  split at h
  · cases h
  split at h
  · rename_i hstar
    obtain ⟨name, hname⟩ := isPrefixOf_iff_prefix.mp hstar
    change lit "*." ++ name = normalized entry at hname
    have htwo : lit "*." = [42, 46] := by decide +kernel
    split at h
    · cases h
    cases h
    have hdrop : (toLower (trimSpace entry)).drop 2 = name := by
      change (normalized entry).drop 2 = name
      rw [← hname, htwo]
      rfl
    simp only [DomainRule.matches, hdrop, decide_eq_true_eq, isSuffixOf_iff_suffix]
    constructor
    · rintro (hsame | ⟨name', hname', hbelow⟩)
      · rw [htwo] at hname
        exact .inr ⟨[42], (hsame.trans hname.symm).symm⟩
      · obtain rfl := append_cancel_left (hname.trans hname')
        exact hbelow.imp_right fun ⟨below, h⟩ => ⟨below, h.symm⟩
    · intro hmatch
      exact .inr ⟨name, hname.symm, hmatch.imp_right fun ⟨below, h⟩ => ⟨below, h.symm⟩⟩
  · rename_i hstar
    cases h
    simp only [DomainRule.matches, decide_eq_true_eq]
    constructor
    · rintro (hsame | ⟨name, hname, -⟩)
      · exact hsame
      · apply absurd _ hstar
        exact isPrefixOf_iff_prefix.mpr ⟨name, hname.symm⟩
    · exact .inl

variable {rules : List DomainRule}

lemma mem_parseDomains (h : parseDomains values = .ok rules)
    (rule : DomainRule) : rule ∈ rules ↔ ∃ entry ∈ values, parseDomain entry = .ok [rule] := by
  obtain ⟨outs, houts, h⟩ := of_bind_ok h
  cases h
  rw [mem_flatten]
  constructor
  · rintro ⟨out, hout, hrule⟩
    obtain ⟨entry, hentry, hparse⟩ := (mem_of_mapM_ok houts out).mp hout
    refine ⟨entry, hentry, ?_⟩
    rcases parseDomain_cases hparse with ⟨-, rfl⟩ | ⟨-, r, rfl⟩
    · cases hrule
    · rw [mem_singleton] at hrule
      rw [hrule]
      exact hparse
  · rintro ⟨entry, hentry, hparse⟩
    exact ⟨[rule], (mem_of_mapM_ok houts [rule]).mpr ⟨entry, hentry, hparse⟩, mem_singleton_self _⟩

lemma parseDomains_written (h : parseDomains values = .ok rules) (hentry : entry ∈ values) :
    trimSpace entry ≠ [] ↔ ∃ rule, parseDomain entry = .ok [rule] := by
  obtain ⟨outs, houts, -⟩ := of_bind_ok h
  obtain ⟨out, hout⟩ := ok_of_mapM_ok houts hentry
  rcases parseDomain_cases hout with ⟨hblank, rfl⟩ | ⟨hwritten, rule, rfl⟩
  · simp [hblank, hout]
  · simp [hwritten, hout]

lemma domains_iff (h : parseDomains values = .ok rules) (d : Destination) :
    (rules = [] ∨ normalized d.host ≠ [] ∧ matchDomain (normalized d.host) rules = true) ↔
      ((∃ entry ∈ values, trimSpace entry ≠ []) → ∃ entry ∈ values, d.InDomain entry) := by
  have hnil := eq_nil_iff_of_written (mem_parseDomains h) fun _ => parseDomains_written h
  have hmatch : (normalized d.host ≠ [] ∧ matchDomain (normalized d.host) rules = true) ↔
      ∃ entry ∈ values, d.InDomain entry := by
    constructor
    · rintro ⟨hhost, hmatch⟩
      obtain ⟨rule, hrule, hin⟩ := any_eq_true.mp hmatch
      obtain ⟨entry, hentry, hparse⟩ := (mem_parseDomains h rule).mp hrule
      exact ⟨entry, hentry, (parseDomain_inDomain hparse d).mpr ⟨hhost, hin⟩⟩
    · rintro ⟨entry, hentry, hin⟩
      obtain ⟨rule, hparse⟩ := (parseDomains_written h hentry).mp hin.written
      obtain ⟨hhost, hmatch⟩ := (parseDomain_inDomain hparse d).mp hin
      exact ⟨hhost, any_eq_true.mpr
        ⟨rule, (mem_parseDomains h rule).mpr ⟨entry, hentry, hparse⟩, hmatch⟩⟩
  rw [hnil, hmatch, or_iff_not_imp_left, not_not]

lemma appProtocols_iff (values : List GoString) (d : Destination) :
    (normalizeTrafficRuleAppProtocols values = [] ∨ normalized d.appProtocol ≠ [] ∧
        matchString (normalized d.appProtocol) (normalizeTrafficRuleAppProtocols values) = true) ↔
      ((∃ entry ∈ values, trimSpace entry ≠ []) → ∃ entry ∈ values, d.SpeaksProtocol entry) := by
  have hmem : ∀ protocol, protocol ∈ normalizeTrafficRuleAppProtocols values ↔
      ∃ entry ∈ values, protocol ≠ [] ∧ normalized entry = protocol := by
    intro protocol
    simp only [normalizeTrafficRuleAppProtocols, mem_filter, mem_map, decide_eq_true_eq, normalized]
    grind
  have hnil := eq_nil_iff_of_written hmem fun entry _ => by
    simp [← normalized_eq_nil_iff]
  have hmatch : (normalized d.appProtocol ≠ [] ∧
        matchString (normalized d.appProtocol) (normalizeTrafficRuleAppProtocols values) = true) ↔
      ∃ entry ∈ values, d.SpeaksProtocol entry := by
    simp only [matchString, decide_eq_true_eq, hmem]
    constructor
    · rintro ⟨hname, entry, hentry, -, hsame⟩
      exact ⟨entry, hentry, hname, hsame.symm⟩
    · rintro ⟨entry, hentry, hname, hsame⟩
      exact ⟨hname, entry, hentry, hname, hsame.symm⟩
  rw [hnil, hmatch, or_iff_not_imp_left, not_not]

lemma matchedBy_iff {rule : CompiledTrafficRule} (h : CompiledFrom texts value rule)
    (d : Destination) : d.matchedBy rule = true ↔ d.SatisfiesWritten texts value := by
  have hcidrs := cidrs_iff h.cidrs d
  have hports := ports_iff h.ports d
  have hdomains := domains_iff h.domains d
  have hprotocols := appProtocols_iff value.appProtocols d
  rw [← h.appProtocols] at hprotocols
  simp only [Destination.matchedBy, matchTrafficRule, decide_eq_true_eq]
  rw [hcidrs, hports, hdomains, hprotocols]
  constructor
  · rintro ⟨hc, hp, hd, ha⟩
    exact ⟨hc, hp, hd, ha⟩
  · rintro ⟨hc, hp, hd, ha⟩
    exact ⟨hc, hp, hd, ha⟩

/-! ## What the rules of a policy let through -/

lemma not_blankOnly {entries : List GoString} (h : ¬ BlankOnly entries) (hne : entries ≠ []) :
    ∃ entry ∈ entries, trimSpace entry ≠ [] := by
  by_contra hnone
  refine h ⟨hne, ?_⟩
  intro entry hentry
  by_contra hwritten
  exact hnone ⟨entry, hentry, hwritten⟩

/-- Without a list of blanks, the lists that are written are all the lists. -/
lemma Destination.SatisfiesWritten.satisfies (h : d.SatisfiesWritten texts value)
    (hblank : ¬ value.HasBlankList) : d.Satisfies texts value := by
  simp only [TrafficRule.HasBlankList, not_or] at hblank
  obtain ⟨hcidrs, hdomains, hprotocols⟩ := hblank
  refine ⟨?_, h.ports, ?_, ?_⟩
  · intro hne
    exact h.cidrs (not_blankOnly hcidrs hne)
  · intro hne
    exact h.domains (not_blankOnly hdomains hne)
  · intro hne
    exact h.appProtocols (not_blankOnly hprotocols hne)

lemma Destination.Satisfies.no_blank_list (h : d.Satisfies texts value) : ¬ value.HasBlankList := by
  rintro (⟨hne, hblank⟩ | ⟨hne, hblank⟩ | ⟨hne, hblank⟩)
  · obtain ⟨entry, hentry, hwritten, -⟩ := h.cidrs hne
    exact hwritten (hblank entry hentry)
  · obtain ⟨entry, hentry, hin⟩ := h.domains hne
    exact hin.written (hblank entry hentry)
  · obtain ⟨entry, hentry, hname, hsame⟩ := h.appProtocols hne
    rw [hsame, ne_eq, normalized_eq_nil_iff] at hname
    exact hname (hblank entry hentry)

/-- Without a platform policy, a destination that block-all lets through was
matched by a rule that allows. -/
lemma Compiles.allowed_by_rule {p : CompiledPolicy}
    (h : Compiles texts spec p) (hmode : spec.mode = .blockAll)
    (hallow : allowEgressDestination texts (some p) d.ip d.port.toNat d.transport d.host
      d.appProtocol = true) :
    ∃ rule ∈ p.egress.trafficRules, rule.action = .allow ∧ d.matchedBy rule = true := by
  have hblock : p.mode = .blockAll := by
    rw [h.mode, hmode]
    rfl
  have hverdict : platformVerdict texts p d.ip = none := by simp [platformVerdict, h.platform]
  simp only [allowEgressDestination, hverdict] at hallow
  split at hallow
  case isTrue =>
    unfold evaluateTrafficRules at hallow
    split at hallow
    case h_1 rule hfind =>
      refine ⟨rule, mem_of_find?_eq_some hfind, of_decide_eq_true hallow, ?_⟩
      exact find?_some hfind
    case h_2 => simp [hblock] at hallow
  case isFalse hnone =>
    rw [ne_eq, not_not] at hnone
    simp [hblock, hasExplicitL4AllowList, hasExplicitDomainAllowList, hnone, h.platform,
      h.allowedCIDRs, h.allowedPorts, h.allowedDomains] at hallow

lemma getElem_mem_zip {α β : Type} {l : List α} {l' : List β} (hlength : l.length = l'.length)
    (i : Nat) (hi : i < l.length) : (l[i], l'[i]) ∈ l.zip l' := by
  rw [← getElem_zip (h := by simp; omega)]
  exact getElem_mem _

/-- A compiled rule that allows matches only what its rule of the spec is for, and
block-all without a platform policy lets nothing else through, exactly if no rule
that allows the destination otherwise has a list of blank entries. -/
theorem allow_rules_keep_to_the_spec_unless_a_list_is_blank (spec : NetworkPolicySpec)
    (p : CompiledPolicy) (hcompiled : compileNetworkPolicy texts (some spec) = .ok p)
    (d : Destination) :
    ((∀ value rule, (value, rule) ∈ (specRules spec).zip p.egress.trafficRules →
        rule.action = .allow → d.matchedBy rule = true → d.Satisfies texts value) ∧
      (spec.mode = .blockAll →
        (∀ value ∈ specRules spec, value.action = .allow → ¬ d.Satisfies texts value) →
        allowEgressDestination texts (some p) d.ip d.port.toNat d.transport d.host
          d.appProtocol = false)) ↔
      ∀ value ∈ specRules spec, value.action = .allow → d.SatisfiesWritten texts value →
        ¬ value.HasBlankList := by
  have hcompiles := compileNetworkPolicy_compiles hcompiled
  obtain ⟨hlength, hpairs⟩ := forall₂_iff_zip.mp hcompiles.rules
  constructor
  · rintro ⟨honly, -⟩ value hvalue hallow hwritten
    obtain ⟨i, hi, rfl⟩ := getElem_of_mem hvalue
    have hpair := getElem_mem_zip hlength i hi
    have hfrom := hpairs hpair
    exact (honly _ _ hpair (hfrom.action.trans hallow)
      ((matchedBy_iff hfrom d).mpr hwritten)).no_blank_list
  · intro hclean
    have honly : ∀ value rule, (value, rule) ∈ (specRules spec).zip p.egress.trafficRules →
        rule.action = .allow → d.matchedBy rule = true → d.Satisfies texts value := by
      intro value rule hpair hallow hmatch
      have hfrom := hpairs hpair
      have hwritten := (matchedBy_iff hfrom d).mp hmatch
      exact hwritten.satisfies
        (hclean value (of_mem_zip hpair).1 (hfrom.action.symm.trans hallow) hwritten)
    refine ⟨honly, ?_⟩
    intro hmode hnone
    by_contra hallowed
    obtain ⟨rule, hrule, hallow, hmatch⟩ :=
      hcompiles.allowed_by_rule hmode (Bool.eq_true_of_not_eq_false hallowed)
    obtain ⟨i, hi, rfl⟩ := getElem_of_mem hrule
    have hpair := getElem_mem_zip hlength i (hlength ▸ hi)
    exact hnone _ (of_mem_zip hpair).1 ((hpairs hpair).action.symm.trans hallow)
      (honly _ _ hpair hallow hmatch)

/-- Block-all, with one entry in the list of the allowed networks. -/
def oneCIDR (entry : GoString) : NetworkPolicySpec where
  sandboxID := lit "sb"
  teamID := lit "team"
  mode := .blockAll
  egress := some { allowedCIDRs := [entry] }

/-- A policy with one legacy rule for these networks. -/
def allowsNets (nets : List IPNet) : CompiledPolicy where
  sandboxID := lit "sb"
  teamID := lit "team"
  mode := .blockAll
  egress :=
    { trafficRules := [{ name := lit "legacy-allow", action := .allow, cidrs := nets }] }

def somewhere : Destination where
  ip := some [8, 8, 8, 8]
  port := 443
  transport := lit "tcp"
  host := []
  appProtocol := []

/-- The only text of a network that these tests read. -/
def eights : Texts where
  parseCIDR text := if text = lit "8.0.0.0/8" then some ⟨[8, 0, 0, 0], [255, 0, 0, 0]⟩ else none
  ipString _ := []

/-- A list with a network in it is kept to. -/
theorem allow_rules_keep_to_a_written_list : somewhere.Satisfies eights
      { name := lit "legacy-allow", action := .allow, cidrs := [lit "8.0.0.0/8"], ports := [],
        domains := [], appProtocols := [] } := by
  have hcompiled : compileNetworkPolicy eights (some (oneCIDR (lit "8.0.0.0/8"))) =
      .ok (allowsNets [⟨[8, 0, 0, 0], [255, 0, 0, 0]⟩]) := by decide +kernel
  have hclean : ∀ value ∈ specRules (oneCIDR (lit "8.0.0.0/8")), value.action = .allow →
      somewhere.SatisfiesWritten eights value → ¬ value.HasBlankList := by
    intro value hvalue _ _
    have hrules : specRules (oneCIDR (lit "8.0.0.0/8")) = [_] := rfl
    rw [hrules, mem_singleton] at hvalue
    rw [hvalue]
    rintro (⟨-, hblank⟩ | ⟨hne, -⟩ | ⟨hne, -⟩)
    · exact absurd (hblank _ mem_cons_self) (by decide +kernel)
    · exact hne rfl
    · exact hne rfl
  have honly :=
    (allow_rules_keep_to_the_spec_unless_a_list_is_blank _ _ hcompiled somewhere).mpr hclean
  exact honly.1 _ _ mem_cons_self rfl (by decide +kernel)

/-- A blank entry is the whole list of allowed networks. The destination is in none of
its networks, and block-all lets it through. -/
theorem blank_list_allows_everything :
    ∃ p, compileNetworkPolicy eights (some (oneCIDR (lit " "))) = .ok p ∧
      (∀ value ∈ specRules (oneCIDR (lit " ")), ¬ somewhere.Satisfies eights value) ∧
      allowEgressDestination eights (some p) somewhere.ip somewhere.port.toNat somewhere.transport
        somewhere.host somewhere.appProtocol = true := by
  refine ⟨allowsNets [], by decide +kernel, ?_, by decide +kernel⟩
  intro value hvalue hsatisfies
  have hrules : specRules (oneCIDR (lit " ")) = [_] := rfl
  rw [hrules, mem_singleton] at hvalue
  rw [hvalue] at hsatisfies
  apply hsatisfies.no_blank_list
  refine .inl ⟨by simp, ?_⟩
  intro entry hentry
  rw [mem_singleton.mp hentry]
  decide +kernel

end sandbox0.netd.policy
