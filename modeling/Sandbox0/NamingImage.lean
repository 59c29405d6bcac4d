-- Image references under the prefix of a team. A reference is checked only if its host is
-- found among the private registries, and the law is about every reference that a client
-- would pull from one of them, however its host, port, tag and digest are spelled.
import Sandbox0.NamingNames

namespace sandbox0.naming

open List

/-! ## The check -/

inductive ImageError where
  /-- image reference is required -/
  | required
  /-- image reference must include a repository -/
  | noRepository (imageRef : GoString)
  /-- must use team registry prefix for private registry -/
  | outsidePrefix (teamPrefix registryHost : GoString)
  deriving DecidableEq

/-- `strings.TrimPrefix`. -/
def trimFront (front s : GoString) : GoString :=
  if front.isPrefixOf s then s.drop front.length else s

/-- `strings.LastIndex` of one byte. -/
def lastIndex (c : UInt8) (s : GoString) : Int :=
  if c ∈ s then s.length - 1 - s.reverse.idxOf c else -1

def normalizeRegistryHost (raw : GoString) : GoString :=
  let value := trimSpace raw
  let value := trimFront (lit "https://") value
  let value := trimFront (lit "http://") value
  trimByte 47 value

def teamImageRepositoryPrefix (teamID : GoString) : GoString :=
  if trimSpace teamID = [] then [] else lit "t-" ++ teamKey (trimSpace teamID)

def isRegistryHost (candidate : GoString) : Bool :=
  candidate = lit "localhost" ∨ 46 ∈ candidate ∨ 58 ∈ candidate

def stripImageTagOrDigest (repository : GoString) : GoString :=
  let trimmed := trimSpace repository
  if trimmed = [] then []
  else
    let trimmed := if 64 ∈ trimmed then trimmed.take (trimmed.idxOf 64) else trimmed
    let trimmed := if lastIndex 47 trimmed < lastIndex 58 trimmed then
      trimmed.take (lastIndex 58 trimmed).toNat
      else trimmed
    trimByte 47 trimmed

def splitImageReference (imageRef : GoString) : Except ImageError (GoString × GoString) :=
  let trimmed := trimSpace imageRef
  if trimmed = [] then .error .required
  else
    let slash := trimmed.idxOf 47
    let (registryHost, repository) :=
      if 47 ∈ trimmed ∧ 0 < slash ∧ isRegistryHost (trimmed.take slash) then
        (normalizeRegistryHost (trimmed.take slash), trimmed.drop (slash + 1))
      else ([], trimmed)
    if stripImageTagOrDigest repository = [] then .error (.noRepository imageRef)
    else .ok (registryHost, stripImageTagOrDigest repository)

def registryHostMatchesAny (actual : GoString) (allowedHosts : List GoString) : Bool :=
  let normalizedActual := normalizeRegistryHost actual
  normalizedActual ≠ [] ∧ allowedHosts.any fun allowed => normalizedActual =
    normalizeRegistryHost allowed

def validateTeamScopedImageReference (imageRef teamID : GoString)
    (privateRegistryHosts : List GoString) : Except ImageError Unit :=
  let front := teamImageRepositoryPrefix teamID
  if front = [] ∨ privateRegistryHosts = [] then .ok ()
  else
    match splitImageReference imageRef with
    | .error err => .error err
    | .ok (registryHost, repository) =>
      if ¬ registryHostMatchesAny registryHost privateRegistryHosts then .ok ()
      else if repository = front ∨ (front ++ [47]).isPrefixOf repository then .ok ()
      else .error (.outsidePrefix front registryHost)

/-! ## What a reference denotes -/

/-- The name of a repository: no tag, no digest, and no slash at an end. -/
structure PathText (path : GoString) : Prop where
  plain : ∀ b ∈ path, PlainByte b
  no_tag : 58 ∉ path
  no_digest : 64 ∉ path
  nonempty : path ≠ []
  front : path.head? ≠ some 47
  back : path.getLast? ≠ some 47

def TagText (tag : GoString) : Prop :=
  tag = [] ∨ ∃ name : GoString, tag = 58 :: name ∧
    ∀ b ∈ name, PlainByte b ∧ b ≠ 47 ∧ b ≠ 58 ∧ b ≠ 64

def DigestText (digest : GoString) : Prop :=
  digest = [] ∨ ∃ name : GoString, digest = 64 :: name ∧ ∀ b ∈ name, PlainByte b

/-- The first part of a reference that names a registry: it has a dot or a port, or is
localhost, in any letter case. -/
structure HostText (host : GoString) : Prop where
  plain : ∀ b ∈ host, PlainByte b
  no_slash : 47 ∉ host
  nonempty : host ≠ []
  front : host.head? ≠ some 58
  back : host.getLast? ≠ some 58
  like : 46 ∈ host ∨ 58 ∈ host ∨ toLower host = lit "localhost"

/-- The reference is `host/path[:tag][@digest]`. -/
def Denotes (imageRef host path : GoString) : Prop :=
  ∃ tag digest, trimSpace imageRef = host ++ 47 :: (path ++ tag ++ digest) ∧ HostText host ∧
    PathText path ∧ TagText tag ∧ DigestText digest

/-- An entry of the list is `[scheme]host[/path]`, with `https://` or `http://` in any letter
case. -/
structure EntryText (entry scheme host : GoString) : Prop where
  text : ∃ path, trimSpace entry = scheme ++ host ++ path ∧ (path = [] ∨ path.head? = some 47)
  scheme : scheme = [] ∨ toLower scheme = lit "https://" ∨ toLower scheme = lit "http://"
  no_slash : 47 ∉ host
  nonempty : host ≠ []
  back : host.getLast? ≠ some 58

def defaultPort (scheme : GoString) : GoString :=
  if toLower scheme = lit "http://" then lit "80" else lit "443"

def withoutPort (port host : GoString) : GoString :=
  if (58 :: port).isSuffixOf host then host.take (host.length - (port.length + 1)) else host

/-- The host is the registry of the entry, up to letter case and an explicit default port. -/
def SameRegistry (entry host : GoString) : Prop :=
  ∃ scheme name, EntryText entry scheme name ∧
    toLower (withoutPort (defaultPort scheme) host) =
      toLower (withoutPort (defaultPort scheme) name)

/-- The host has a dot or a port, or is localhost in small letters. -/
def Dotted (host : GoString) : Prop := 46 ∈ host ∨ 58 ∈ host ∨ host = lit "localhost"

/-- The entry is this host letter for letter, with slashes around it and the schemes before
it in small letters. -/
def Spelled (entry host : GoString) : Prop :=
  ∃ secure plain front back, trimSpace entry = secure ++ (plain ++ (front ++ host ++ back)) ∧
    (secure = [] ∨ secure = lit "https://") ∧ (plain = [] ∨ plain = lit "http://") ∧
    ∀ b ∈ front ++ back, b = 47

/-- The path is the prefix of the team or below it. Without a team nothing is. -/
def InTeamPrefix (teamID path : GoString) : Prop :=
  teamImageRepositoryPrefix teamID ≠ [] ∧
    (path = teamImageRepositoryPrefix teamID ∨
      (teamImageRepositoryPrefix teamID ++ [47]).isPrefixOf path)

instance (teamID path : GoString) : Decidable (InTeamPrefix teamID path) :=
  inferInstanceAs (Decidable (_ ∧ (_ ∨ _)))

/-! ## The spelling of an entry -/

variable {s host path tag digest imageRef teamID : GoString} {hosts : List GoString} {c : UInt8}

lemma dropWhile_of_head (h : s.head? ≠ some c) : s.dropWhile (· = c) = s := by
  cases s with
  | nil => rfl
  | cons a rest =>
    have ha : a ≠ c := fun ha => h (by rw [ha]; rfl)
    simp [ha]

lemma trimByte_of_edges (hfront : s.head? ≠ some c) (hback : s.getLast? ≠ some c) :
    trimByte c s = s := by
  unfold trimByte
  rw [dropWhile_of_head hfront, dropWhile_of_head (by rw [head?_reverse]; exact hback),
    reverse_reverse]

lemma trimFront_of_not_mem {front : GoString} (hc : c ∈ front) (h : c ∉ s) :
    trimFront front s = s := by
  unfold trimFront
  rw [if_neg]
  intro hfront
  have hsub : front <+: s := isPrefixOf_iff_prefix.mp hfront
  exact h (hsub.subset hc)

lemma HostText.normalize (h : HostText host) : normalizeRegistryHost host = host := by
  unfold normalizeRegistryHost
  dsimp only
  rw [trimSpace_plain h.plain, trimFront_of_not_mem (by decide +kernel) h.no_slash,
    trimFront_of_not_mem (by decide +kernel) h.no_slash]
  refine trimByte_of_edges (fun hslash => ?_) (fun hslash => ?_)
  · exact h.no_slash (mem_of_head? hslash)
  · exact h.no_slash (mem_of_getLast? hslash)

lemma trimFront_split (front s : GoString) :
    ∃ cut, (cut = [] ∨ cut = front) ∧ s = cut ++ trimFront front s := by
  unfold trimFront
  split
  · rename_i hfront
    obtain ⟨rest, rfl⟩ := isPrefixOf_iff_prefix.mp hfront
    exact ⟨front, .inr rfl, by rw [drop_left]⟩
  · exact ⟨[], .inl rfl, rfl⟩

lemma trimFront_append (front s : GoString) : trimFront front (front ++ s) = s := by
  have hfront : front.isPrefixOf (front ++ s) = true := isPrefixOf_iff_prefix.mpr (prefix_append ..)
  rw [trimFront, if_pos hfront, drop_left]

lemma trimByte_split (c : UInt8) (s : GoString) :
    ∃ front back, s = front ++ trimByte c s ++ back ∧ ∀ b ∈ front ++ back, b = c := by
  have hfront := takeWhile_append_dropWhile (p := (· = c)) (l := s)
  have hback := takeWhile_append_dropWhile (p := (· = c)) (l := (s.dropWhile (· = c)).reverse)
  refine ⟨s.takeWhile (· = c), ((s.dropWhile (· = c)).reverse.takeWhile (· = c)).reverse, ?_, ?_⟩
  · rw [trimByte, append_assoc, ← reverse_append, hback, reverse_reverse, hfront]
  · intro b hb
    rcases mem_append.mp hb with hb | hb
    · simpa using mem_takeWhile_imp hb
    · simpa using mem_takeWhile_imp (mem_reverse.mp hb)

lemma HostText.trimByte_slashes (h : HostText host) {front back : GoString}
    (hslashes : ∀ b ∈ front ++ back, b = 47) : trimByte 47 (front ++ host ++ back) = host := by
  have hfront : ∀ b ∈ front, decide (b = 47) = true := fun b hb =>
    decide_eq_true (hslashes b (mem_append_left _ hb))
  have hback : ∀ b ∈ back.reverse, decide (b = 47) = true := fun b hb =>
    decide_eq_true (hslashes b (mem_append_right _ (mem_reverse.mp hb)))
  have hedge : (host ++ back).head? ≠ some 47 := by
    rw [head?_append_of_ne_nil _ h.nonempty]
    exact fun hslash => h.no_slash (mem_of_head? hslash)
  unfold trimByte
  rw [append_assoc, dropWhile_append_of_pos hfront, dropWhile_of_head hedge, reverse_append,
    dropWhile_append_of_pos hback, dropWhile_of_head ?_, reverse_reverse]
  rw [head?_reverse]
  exact fun hslash => h.no_slash (mem_of_getLast? hslash)

/-- Up to the first slash such a text is the host, or nothing. -/
lemma HostText.before_slash (h : HostText host) {front back : GoString}
    (hslashes : ∀ b ∈ front ++ back, b = 47) :
    (front ++ host ++ back).takeWhile (· ≠ 47) = host ∨
      (front ++ host ++ back).takeWhile (· ≠ 47) = [] := by
  cases front with
  | cons a front =>
    have ha : a = 47 := hslashes a (by simp)
    simp [ha]
  | nil =>
    left
    have hhost : ∀ b ∈ host, decide (b ≠ 47) = true := fun b hb =>
      decide_eq_true fun hslash => h.no_slash (hslash ▸ hb)
    rw [nil_append, takeWhile_append_of_pos hhost]
    cases back with
    | nil => simp
    | cons b back =>
      have hb : b = 47 := hslashes b (by simp)
      simp [hb]

lemma HostText.trimFront_scheme (h : HostText host) {front back scheme name : GoString}
    (hslashes : ∀ b ∈ front ++ back, b = 47) (hscheme : scheme = name ++ [58, 47, 47])
    (hname : ∀ b ∈ name ++ [58], decide (b ≠ 47) = true) :
    trimFront scheme (front ++ host ++ back) = front ++ host ++ back := by
  unfold trimFront
  rw [if_neg]
  intro hfront
  obtain ⟨rest, hrest⟩ := isPrefixOf_iff_prefix.mp hfront
  -- the text up to the slash would be the name of the scheme with its colon
  have hcolon : (front ++ host ++ back).takeWhile (· ≠ 47) = name ++ [58] := by
    have htext : scheme ++ rest = (name ++ [58]) ++ 47 :: 47 :: rest := by simp [hscheme]
    rw [← hrest, htext, takeWhile_append_of_pos hname]
    simp
  rcases h.before_slash hslashes with hhost | hnil
  · exact h.back (by rw [← hhost, hcolon]; simp)
  · rw [hnil] at hcolon
    simp at hcolon

lemma trimFront_http (s : GoString) :
    trimFront (lit "https://") (lit "http://" ++ s) = lit "http://" ++ s := by
  unfold trimFront
  rw [if_neg]
  intro hfront
  obtain ⟨rest, hrest⟩ := isPrefixOf_iff_prefix.mp hfront
  have hfive := congrArg (take 5) hrest
  rw [take_append_of_le_length (by decide +kernel),
    take_append_of_le_length (by decide +kernel)] at hfive
  exact absurd hfive (by decide +kernel)

/-- The normal form of an entry is the host that it spells. -/
lemma HostText.normalize_eq_iff (h : HostText host) (entry : GoString) :
    normalizeRegistryHost entry = host ↔ Spelled entry host := by
  unfold normalizeRegistryHost
  dsimp only
  constructor
  · intro hnormal
    obtain ⟨secure, hsecure, h1⟩ := trimFront_split (lit "https://") (trimSpace entry)
    obtain ⟨plain, hplain, h2⟩ :=
      trimFront_split (lit "http://") (trimFront (lit "https://") (trimSpace entry))
    obtain ⟨front, back, h3, hslashes⟩ :=
      trimByte_split 47 (trimFront (lit "http://") (trimFront (lit "https://") (trimSpace entry)))
    rw [hnormal] at h3
    exact ⟨secure, plain, front, back, by rw [← h3, ← h2, ← h1], hsecure, hplain, hslashes⟩
  · rintro ⟨secure, plain, front, back, htext, hsecure, hplain, hslashes⟩
    have hnames : lit "https://" = lit "https" ++ [58, 47, 47] ∧
        lit "http://" = lit "http" ++ [58, 47, 47] := by decide +kernel
    have h1 : trimFront (lit "https://") (trimSpace entry) = plain ++ (front ++ host ++ back) := by
      rw [htext]
      rcases hsecure with rfl | rfl
      · rcases hplain with rfl | rfl
        · exact h.trimFront_scheme hslashes hnames.1 (by decide +kernel)
        · exact trimFront_http ..
      · exact trimFront_append ..
    have h2 : trimFront (lit "http://") (plain ++ (front ++ host ++ back)) =
        front ++ host ++ back := by
      rcases hplain with rfl | rfl
      · exact h.trimFront_scheme hslashes hnames.2 (by decide +kernel)
      · exact trimFront_append ..
    rw [h1, h2]
    exact h.trimByte_slashes hslashes

/-- A host matches the list exactly if an entry spells it. -/
lemma HostText.registryHostMatchesAny_iff (h : HostText host) (hosts : List GoString) :
    registryHostMatchesAny host hosts = true ↔ ∃ entry ∈ hosts, Spelled entry host := by
  unfold registryHostMatchesAny
  simp [h.normalize, h.nonempty, ← h.normalize_eq_iff, @eq_comm _ host]

lemma isRegistryHost_iff (host : GoString) : isRegistryHost host = true ↔ Dotted host := by
  unfold isRegistryHost Dotted
  simp only [decide_eq_true_eq]
  tauto

/-! ## Splitting a reference -/

lemma idxOf_append_cons (h : c ∉ s) (rest : GoString) : (s ++ c :: rest).idxOf c = s.length := by
  rw [idxOf_append_of_notMem h, idxOf_cons_self, Nat.add_zero]

lemma cut_digest (hs : 64 ∉ s) (hdigest : DigestText digest) :
    (if 64 ∈ s ++ digest then (s ++ digest).take ((s ++ digest).idxOf 64) else s ++ digest) =
      s := by
  rcases hdigest with rfl | ⟨name, rfl, -⟩
  · rw [append_nil, if_neg hs]
  · rw [if_pos (by simp), idxOf_append_cons hs, take_left]

lemma lastIndex_of_not_mem (h : c ∉ s) : lastIndex c s = -1 := if_neg h

lemma lastIndex_append_cons {rest : GoString} (h : c ∉ rest) :
    lastIndex c (s ++ c :: rest) = s.length := by
  unfold lastIndex
  rw [if_pos (by simp)]
  have hreverse : (s ++ c :: rest).reverse = rest.reverse ++ c :: s.reverse := by simp
  rw [hreverse, idxOf_append_cons (by simpa using h)]
  simp only [length_append, length_cons, length_reverse]
  push_cast
  omega

lemma lastIndex_lt_length (c : UInt8) (s : GoString) : lastIndex c s < s.length := by
  unfold lastIndex
  split <;> omega

lemma lastIndex_append_of_not_mem {rest : GoString} (h : c ∉ rest) :
    lastIndex c (s ++ rest) = lastIndex c s := by
  unfold lastIndex
  by_cases hs : c ∈ s
  · rw [if_pos (mem_append_left _ hs), if_pos hs, reverse_append,
      idxOf_append_of_notMem (by simpa using h)]
    simp only [length_append, length_reverse]
    push_cast
    omega
  · rw [if_neg (by simp [hs, h]), if_neg hs]

/-- A tag is cut with its colon: no slash comes after it. -/
lemma cut_tag (hs : 58 ∉ s) (htag : TagText tag) :
    (if lastIndex 47 (s ++ tag) < lastIndex 58 (s ++ tag) then
      (s ++ tag).take (lastIndex 58 (s ++ tag)).toNat
      else s ++ tag) = s := by
  rcases htag with rfl | ⟨name, rfl, hname⟩
  · rw [append_nil, lastIndex_of_not_mem hs, if_neg]
    unfold lastIndex
    split
    · rename_i hslash
      have hlt := idxOf_lt_length_iff.mpr (mem_reverse.mpr hslash)
      rw [length_reverse] at hlt
      omega
    · omega
  · have hcolon : (58 : UInt8) ∉ name := fun h => (hname 58 h).2.2.1 rfl
    have hslash : (47 : UInt8) ∉ 58 :: name := by
      intro h
      rcases mem_cons.mp h with h | h
      · exact absurd h (by decide)
      · exact (hname 47 h).2.1 rfl
    rw [lastIndex_append_cons hcolon, lastIndex_append_of_not_mem hslash,
      if_pos (lastIndex_lt_length 47 s)]
    simp

lemma tag_not_mem (htag : TagText tag) : 64 ∉ tag := by
  rcases htag with rfl | ⟨name, rfl, hname⟩
  · exact not_mem_nil
  intro h
  rcases mem_cons.mp h with h | h
  · exact absurd h (by decide)
  · exact (hname 64 h).2.2.2 rfl

lemma tag_plain (htag : TagText tag) : ∀ b ∈ tag, PlainByte b := by
  rcases htag with rfl | ⟨name, rfl, hname⟩
  · exact fun _ h => absurd h not_mem_nil
  · exact forall_mem_cons.mpr ⟨by decide, fun b hb => (hname b hb).1⟩

lemma digest_plain (hdigest : DigestText digest) : ∀ b ∈ digest, PlainByte b := by
  rcases hdigest with rfl | ⟨name, rfl, hname⟩
  · exact fun _ h => absurd h not_mem_nil
  · exact forall_mem_cons.mpr ⟨by decide, hname⟩

lemma PathText.strip (h : PathText path) (htag : TagText tag) (hdigest : DigestText digest) :
    stripImageTagOrDigest (path ++ tag ++ digest) = path := by
  have hplain : ∀ b ∈ path ++ tag ++ digest, PlainByte b :=
    forall_mem_append.mpr ⟨forall_mem_append.mpr ⟨h.plain, tag_plain htag⟩, digest_plain hdigest⟩
  have hat : (64 : UInt8) ∉ path ++ tag := by
    intro hb
    rcases mem_append.mp hb with hb | hb
    · exact h.no_digest hb
    · exact tag_not_mem htag hb
  unfold stripImageTagOrDigest
  dsimp only
  rw [trimSpace_plain hplain, if_neg (by simp [h.nonempty]), cut_digest hat hdigest,
    cut_tag h.no_tag htag]
  exact trimByte_of_edges h.front h.back

/-- The part before the first slash is the host, whether the code takes it for one or not. -/
lemma Denotes.first (h : Denotes imageRef host path) :
    trimSpace imageRef ≠ [] ∧ 47 ∈ trimSpace imageRef ∧ 0 < (trimSpace imageRef).idxOf 47 ∧
      (trimSpace imageRef).take ((trimSpace imageRef).idxOf 47) = host := by
  obtain ⟨tag, digest, htext, hhost, -, -, -⟩ := h
  have hslash := idxOf_append_cons hhost.no_slash (path ++ tag ++ digest)
  rw [htext, hslash]
  refine ⟨by simp, by simp, length_pos_iff.mpr hhost.nonempty, take_left⟩

/-- With a host that the code takes for one the reference is split into what it denotes. -/
lemma Denotes.split (h : Denotes imageRef host path) (hlike : isRegistryHost host = true) :
    splitImageReference imageRef = .ok (host, path) := by
  obtain ⟨hne, hmem, hpos, hfirst⟩ := h.first
  obtain ⟨tag, digest, htext, hhost, hpath, htag, hdigest⟩ := h
  have hrest : (trimSpace imageRef).drop ((trimSpace imageRef).idxOf 47 + 1) =
    path ++ tag ++ digest := by
    rw [htext, idxOf_append_cons hhost.no_slash]
    simp
  have hcond : 47 ∈ trimSpace imageRef ∧ 0 < (trimSpace imageRef).idxOf 47 ∧
      isRegistryHost ((trimSpace imageRef).take ((trimSpace imageRef).idxOf 47)) = true :=
    ⟨hmem, hpos, by rw [hfirst]; exact hlike⟩
  unfold splitImageReference
  dsimp only
  simp only [if_neg hne, if_pos hcond]
  rw [hfirst, hhost.normalize, hrest, hpath.strip htag hdigest, if_neg hpath.nonempty]

/-- Without such a host the whole text is taken for a repository. -/
lemma Denotes.split_unrecognized (h : Denotes imageRef host path)
    (hlike : ¬ isRegistryHost host = true) :
    ∃ repository, splitImageReference imageRef = .ok ([], repository) := by
  obtain ⟨hne, -, -, hfirst⟩ := h.first
  obtain ⟨tag, digest, htext, hhost, hpath, htag, hdigest⟩ := h
  have hdots : ¬ (46 ∈ host) ∧ ¬ (58 ∈ host) := by
    simp only [isRegistryHost, Bool.decide_or, Bool.or_eq_true, decide_eq_true_eq, not_or] at hlike
    exact hlike.2
  have hlower : toLower host = lit "localhost" :=
    (hhost.like.resolve_left hdots.1).resolve_left hdots.2
  have hat : (64 : UInt8) ∉ host := by
    intro hmem
    have hmapped : (64 : UInt8) ∈ toLower host := mem_map.mpr ⟨64, hmem, by decide⟩
    rw [hlower] at hmapped
    exact absurd hmapped (by decide +kernel)
  have hwhole : PathText (host ++ 47 :: path) := by
    refine ⟨?_, ?_, ?_, by simp [hhost.nonempty], ?_, ?_⟩
    · exact forall_mem_append.mpr ⟨hhost.plain, forall_mem_cons.mpr ⟨by decide, hpath.plain⟩⟩
    · simp [hdots.2, hpath.no_tag]
    · simp [hat, hpath.no_digest]
    · intro hfront
      rcases hs : host with _ | ⟨a, rest⟩
      · exact hhost.nonempty hs
      · rw [hs] at hfront
        exact hhost.no_slash (by rw [hs, ← Option.some.inj hfront]; exact mem_cons_self)
    · intro hback
      rw [getLast?_append, getLast?_cons] at hback
      rcases hp : path.getLast? with _ | z
      · exact hpath.nonempty (getLast?_eq_none_iff.mp hp)
      · rw [hp] at hback
        exact hpath.back (hp.trans hback)
  refine ⟨host ++ 47 :: path, ?_⟩
  have hcond : ¬ (47 ∈ trimSpace imageRef ∧ 0 < (trimSpace imageRef).idxOf 47 ∧
      isRegistryHost ((trimSpace imageRef).take ((trimSpace imageRef).idxOf 47)) = true) := by
    rw [hfirst]
    exact fun h => hlike h.2.2
  unfold splitImageReference
  dsimp only
  simp only [if_neg hne, if_neg hcond]
  have htext' : trimSpace imageRef = host ++ 47 :: path ++ tag ++ digest := by
    rw [htext]
    simp
  rw [htext', hwhole.strip htag hdigest, if_neg hwhole.nonempty]

/-! ## The law -/

lemma Denotes.hostText (h : Denotes imageRef host path) : HostText host := by
  obtain ⟨_, _, -, hhost, -⟩ := h
  exact hhost

lemma registryHostMatchesAny_nil (hosts : List GoString) :
    registryHostMatchesAny [] hosts = false := by
  unfold registryHostMatchesAny
  rw [show normalizeRegistryHost [] = [] by decide +kernel]
  simp

/-- A reference that denotes a path outside the prefix is refused exactly if there is a team, the
host has a dot or a port, and an entry spells it. -/
lemma Denotes.accepted_iff (h : Denotes imageRef host path)
    (houtside : ¬ InTeamPrefix teamID path) :
    validateTeamScopedImageReference imageRef teamID hosts = .ok () ↔
      ¬ (trimSpace teamID ≠ [] ∧ Dotted host ∧ ∃ entry ∈ hosts, Spelled entry host) := by
  rw [← isRegistryHost_iff, ← h.hostText.registryHostMatchesAny_iff]
  have hblank : teamImageRepositoryPrefix teamID = [] ↔ trimSpace teamID = [] := by
    unfold teamImageRepositoryPrefix
    split
    · simp [*]
    · rename_i hteam
      simp only [hteam, iff_false]
      exact append_ne_nil_of_left_ne_nil (by decide +kernel) _
  unfold validateTeamScopedImageReference
  dsimp only
  by_cases hteam : trimSpace teamID = []
  · rw [if_pos (.inl (hblank.mpr hteam))]
    simp [hteam]
  by_cases hhosts : hosts = []
  · rw [if_pos (.inr hhosts)]
    simp [hhosts, registryHostMatchesAny]
  have hfront : teamImageRepositoryPrefix teamID ≠ [] := fun hnil => hteam (hblank.mp hnil)
  rw [if_neg (not_or.mpr ⟨hfront, hhosts⟩)]
  by_cases hlike : isRegistryHost host = true
  · rw [h.split hlike]
    dsimp only
    by_cases hmatch : registryHostMatchesAny host hosts = true
    · rw [if_neg (not_not.mpr hmatch), if_neg fun hin => houtside ⟨hfront, hin⟩]
      simp [hteam, hlike, hmatch]
    · rw [if_pos hmatch]
      simp [hmatch]
  · obtain ⟨repository, hsplit⟩ := h.split_unrecognized hlike
    rw [hsplit]
    dsimp only
    rw [if_pos (by rw [registryHostMatchesAny_nil]; exact Bool.false_ne_true)]
    simp [hlike]

/-- The references of a team stay inside its prefix exactly if each that would leave it has a team,
a host with a dot or a port, and an entry of the list that spells this host. -/
theorem teams_stay_inside_their_prefix_iff (imageRef teamID : GoString) (hosts : List GoString) :
    (validateTeamScopedImageReference imageRef teamID hosts = .ok () →
      ∀ host path, Denotes imageRef host path → (∃ entry ∈ hosts, SameRegistry entry host) →
        InTeamPrefix teamID path) ↔
      ∀ host path, Denotes imageRef host path → (∃ entry ∈ hosts, SameRegistry entry host) →
        ¬ InTeamPrefix teamID path →
          trimSpace teamID ≠ [] ∧ Dotted host ∧ ∃ entry ∈ hosts, Spelled entry host := by
  constructor
  · intro hlaw host path hdenotes hprivate houtside
    by_contra hnot
    exact houtside (hlaw ((hdenotes.accepted_iff houtside).mpr hnot) host path hdenotes hprivate)
  · intro hspelled haccepted host path hdenotes hprivate
    by_contra houtside
    exact (hdenotes.accepted_iff houtside).mp haccepted
      (hspelled host path hdenotes hprivate houtside)

/-- One capital letter in the host, and the image of another team is accepted. -/
theorem letter_case_leads_to_another_team :
    validateTeamScopedImageReference (lit "Registry.example.com/t-other/app:v1") (lit "acme")
        [lit "registry.example.com"] = .ok () ∧
      Denotes (lit "Registry.example.com/t-other/app:v1") (lit "Registry.example.com")
        (lit "t-other/app") ∧
      SameRegistry (lit "registry.example.com") (lit "Registry.example.com") ∧
      ¬ InTeamPrefix (lit "acme") (lit "t-other/app") := by
  refine ⟨by decide +kernel, ⟨lit ":v1", [], by decide +kernel, ?_, ?_, ?_, .inl rfl⟩,
    ⟨[], lit "registry.example.com", ⟨⟨[], by decide +kernel⟩, ?_, ?_, ?_, ?_⟩, ?_⟩, ?_⟩
  · constructor <;> decide +kernel
  · constructor <;> decide +kernel
  · exact .inr ⟨lit "v1", by decide +kernel, by decide +kernel⟩
  all_goals decide +kernel

example : validateTeamScopedImageReference (lit "registry.example.com:443/t-other/app") (lit "acme")
    [lit "https://registry.example.com/"] = .ok () := by
  decide +kernel

end sandbox0.naming
