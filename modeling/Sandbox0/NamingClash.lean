-- When two templates share a name. The names of different ids meet only where one id is
-- spelled as a name that is generated for another, and the theorems below list the
-- ways in which that happens, for templates and for their ReplicaSets.
import Sandbox0.NamingNames

namespace sandbox0.naming

open List

variable {L : Lowering} {s : GoString} {maxLen : Nat}

/-! ## When two texts get one name -/

/-- The name of a text that is not its own name. A text without a slug has its hash only. -/
def generated (maxLen : Nat) (fallback s : GoString) : GoString :=
  if slugOf s = [] then fallback ++ shortHash s else shortened maxLen s

def nameOf (maxLen : Nat) (fallback s : GoString) : GoString :=
  if Literal maxLen s then s else generated maxLen fallback s

lemma slugOf_ne_nil_of_literal (h : Literal maxLen s) : slugOf s ≠ [] := by
  rw [h.1]
  exact h.2.2

lemma nameOf_of_slug (hslug : slugOf s ≠ []) (fallback : GoString) :
    nameOf maxLen fallback s = labelOf maxLen s := by
  unfold nameOf labelOf generated
  rw [if_neg hslug]

lemma nameOf_of_blank (hslug : slugOf s = []) (fallback : GoString) :
    nameOf maxLen fallback s = fallback ++ shortHash s := by
  unfold nameOf generated
  rw [if_neg fun hlit => slugOf_ne_nil_of_literal hlit hslug, if_pos hslug]

lemma generated_ends (maxLen : Nat) (fallback s : GoString) :
    ∃ front, generated maxLen fallback s = front ++ shortHash s := by
  unfold generated
  split
  · exact ⟨fallback, rfl⟩
  · exact ⟨(slugOf s).take (maxLen - 9) ++ [45], by simp [shortened]⟩

lemma hash_eq_of_ends {a b s t : GoString} (h : a ++ shortHash s = b ++ shortHash t) :
    shortHash s = shortHash t :=
  append_inj_right' h (by simp)

/-- Two texts have one name exactly if they are one text, or if one of them is spelled as
the name that is generated for the other. -/
lemma nameOf_eq_iff {fallback s t : GoString}
    (hinj : ¬ Literal maxLen s → ¬ Literal maxLen t → shortHash s = shortHash t → s = t) :
    nameOf maxLen fallback s = nameOf maxLen fallback t ↔
      s = t ∨ (Literal maxLen s ∧ ¬ Literal maxLen t ∧ s = generated maxLen fallback t) ∨
        (Literal maxLen t ∧ ¬ Literal maxLen s ∧ t = generated maxLen fallback s) := by
  unfold nameOf
  by_cases hs : Literal maxLen s <;> by_cases ht : Literal maxLen t
  · simp [hs, ht]
  · rw [if_pos hs, if_neg ht]
    constructor
    · exact fun h => .inr (.inl ⟨hs, ht, h⟩)
    · rintro (rfl | ⟨-, -, h⟩ | ⟨h, -, -⟩)
      · exact absurd hs ht
      · exact h
      · exact absurd h ht
  · rw [if_neg hs, if_pos ht]
    constructor
    · exact fun h => .inr (.inr ⟨ht, hs, h.symm⟩)
    · rintro (rfl | ⟨h, -, -⟩ | ⟨-, -, h⟩)
      · exact absurd ht hs
      · exact absurd h hs
      · exact h.symm
  · rw [if_neg hs, if_neg ht]
    constructor
    · intro h
      obtain ⟨a, ha⟩ := generated_ends maxLen fallback s
      obtain ⟨b, hb⟩ := generated_ends maxLen fallback t
      rw [ha, hb] at h
      exact .inl (hinj hs ht (hash_eq_of_ends h))
    · rintro (rfl | ⟨h, -, -⟩ | ⟨h, -, -⟩)
      · rfl
      · exact absurd h hs
      · exact absurd h ht

lemma nameOf_labelBytes {fallback : GoString} (hfallback : LabelBytes fallback) (maxLen : Nat)
    (s : GoString) : LabelBytes (nameOf maxLen fallback s) := by
  by_cases hslug : slugOf s = []
  · rw [nameOf_of_blank hslug]
    exact forall_mem_append.mpr ⟨hfallback, fun b hb => .inl (shortHash_isLabelByte s b hb)⟩
  · rw [nameOf_of_slug hslug]
    exact labelOf_labelBytes maxLen s

lemma exists_isLabelByte_shortHash (s : GoString) : ∃ b ∈ shortHash s, isLabelByte b = true := by
  obtain ⟨b, hb⟩ := exists_mem_of_ne_nil _ (shortHash_ne_nil s)
  exact ⟨b, hb, shortHash_isLabelByte s b hb⟩

lemma exists_isLabelByte_nameOf (maxLen : Nat) (fallback s : GoString) :
    ∃ b ∈ nameOf maxLen fallback s, isLabelByte b = true := by
  unfold nameOf
  split
  · rename_i hlit
    obtain ⟨b, hb⟩ : ∃ b, (slugOf s).head? = some b := by
      rcases hhead : (slugOf s).head? with _ | b
      · exact absurd (head?_eq_none_iff.mp hhead) (slugOf_ne_nil_of_literal hlit)
      · exact ⟨b, rfl⟩
    have hmem : b ∈ slugOf s := mem_of_head? hb
    rw [hlit.1] at hmem
    exact ⟨b, hmem, slugOf_head hb⟩
  · obtain ⟨front, hfront⟩ := generated_ends maxLen fallback s
    obtain ⟨b, hb, hlabel⟩ := exists_isLabelByte_shortHash s
    rw [hfront]
    exact ⟨b, mem_append_right _ hb, hlabel⟩

/-! ## Names of templates -/

def TemplateRef.isTeam (t : TemplateRef) : Prop := t.scope = scopeTeam

instance (t : TemplateRef) : Decidable t.isTeam := inferInstanceAs (Decidable (_ = _))

variable {t t' : TemplateRef} {clusterID key n : GoString}

lemma length_teamPrefix (teamID : GoString) : (teamPrefix teamID).length = 11 := by
  have h1 : (lit "t-").length = 2 := by decide +kernel
  have h2 : (lit "-").length = 1 := by decide +kernel
  simp [teamPrefix, teamKey, h1, h2]

lemma name_of_public (hlower : L.lower t.templateID = t.templateID) (h : ¬ t.isTeam) :
    t.name L = nameOf 63 (lit "tpl-") t.templateID := by
  unfold TemplateRef.name templateNameForCluster
  rw [hlower]
  dsimp only
  rw [if_pos (show t.scope ≠ scopeTeam from h)]
  by_cases hslug : slugOf t.templateID = []
  · obtain ⟨e, he⟩ : ∃ e, slugWithHash L t.templateID dnsLabelMaxLen = .error e :=
      slugWithHash_error hlower hslug (by decide)
    rw [he, nameOf_of_blank hslug]
  · rw [slugWithHash_eq hlower hslug (by decide) (by decide), nameOf_of_slug hslug]
    rfl

lemma name_of_team (hlower : L.lower t.templateID = t.templateID) (h : t.isTeam) :
    t.name L = teamPrefix t.teamID ++ nameOf 52 [] t.templateID := by
  unfold TemplateRef.name templateNameForCluster
  rw [hlower]
  dsimp only
  rw [if_neg (not_not.mpr (show t.scope = scopeTeam from h)), length_teamPrefix, if_neg (by decide)]
  by_cases hslug : slugOf t.templateID = []
  · obtain ⟨e, he⟩ : ∃ e, slugWithHash L t.templateID (dnsLabelMaxLen - 11) = .error e :=
      slugWithHash_error hlower hslug (by decide)
    rw [he, nameOf_of_blank hslug]
    rfl
  · rw [slugWithHash_eq hlower hslug (by decide) (by decide), nameOf_of_slug hslug]
    rfl

def TemplateRef.hashed (t : TemplateRef) : List GoString :=
  if t.isTeam then t.teamID :: (if Literal 52 t.templateID then [] else [t.templateID])
  else if Literal 63 t.templateID then [] else [t.templateID]

/-- No two different texts of the list have the same eight digits. -/
def NoSharedHash (l : List GoString) : Prop := ∀ x ∈ l, ∀ y ∈ l, shortHash x = shortHash y → x = y

lemma mem_hashed_of_public (h : ¬ t.isTeam)
    (hlit : ¬ Literal 63 t.templateID) : t.templateID ∈ t.hashed := by
  simp [TemplateRef.hashed, h, hlit]

lemma mem_hashed_of_team (h : t.isTeam)
    (hlit : ¬ Literal 52 t.templateID) : t.templateID ∈ t.hashed := by
  simp [TemplateRef.hashed, h, hlit]

lemma teamID_mem_hashed (h : t.isTeam) : t.teamID ∈ t.hashed := by
  simp [TemplateRef.hashed, h]

/-- The ways in which the name of one template is the name of another. -/
inductive NameClash (t t' : TemplateRef) : Prop where
  /-- Neither is a team's, and they have one id. -/
  | sameID (h : ¬ t.isTeam) (h' : ¬ t'.isTeam) (hid : t.templateID = t'.templateID)
  /-- Neither is a team's, and the one id is spelled as the name generated for the other. -/
  | publicIDs (h : ¬ t.isTeam) (h' : ¬ t'.isTeam) (hlit : Literal 63 t.templateID)
      (hlit' : ¬ Literal 63 t'.templateID)
        (hid : t.templateID = generated 63 (lit "tpl-") t'.templateID)
  /-- The same within one team. -/
  | teamIDs (h : t.isTeam) (h' : t'.isTeam) (hteam : t.teamID = t'.teamID)
      (hlit : Literal 52 t.templateID)
      (hlit' : ¬ Literal 52 t'.templateID) (hid : t.templateID = generated 52 [] t'.templateID)
  /-- An id that is no team's is spelled as the name of a team's template. -/
  | spelledAsTeam (h : ¬ t.isTeam) (h' : t'.isTeam) (hlit : Literal 63 t.templateID)
      (hid : t.templateID = teamPrefix t'.teamID ++ nameOf 52 [] t'.templateID)
  /-- Its slug starts with the prefix of the team, and the team's id ends with its hash. -/
  | slugAsTeam (h : ¬ t.isTeam) (h' : t'.isTeam) (hlit : ¬ Literal 63 t.templateID)
      (hslug : slugOf t.templateID ≠ []) (hlit' : Literal 52 t'.templateID)
      (hid : (slugOf t.templateID).take 54 ++ 45 :: shortHash t.templateID =
        teamPrefix t'.teamID ++ t'.templateID)
  /-- Both have one id, whose slug repeats the prefix of the team. -/
  | repeatedPrefix (h : ¬ t.isTeam) (h' : t'.isTeam) (hlit : ¬ Literal 63 t.templateID)
      (hlit' : ¬ Literal 52 t'.templateID) (hid : t.templateID = t'.templateID)
      (hslug : (slugOf t.templateID).take 54 =
        teamPrefix t'.teamID ++ (slugOf t.templateID).take 43)

lemma nameClash_public_iff (h : ¬ t.isTeam) (h' : ¬ t'.isTeam) :
    NameClash t t' ↔ t.templateID = t'.templateID ∨
      (Literal 63 t.templateID ∧ ¬ Literal 63 t'.templateID ∧
      t.templateID = generated 63 (lit "tpl-") t'.templateID) := by
  constructor
  · intro hclash
    cases hclash with
    | sameID _ _ hid => exact .inl hid
    | publicIDs _ _ hlit hlit' hid => exact .inr ⟨hlit, hlit', hid⟩
    | teamIDs ht => exact absurd ht h
    | spelledAsTeam _ ht | slugAsTeam _ ht | repeatedPrefix _ ht => exact absurd ht h'
  · rintro (hid | ⟨hlit, hlit', hid⟩)
    · exact .sameID h h' hid
    · exact .publicIDs h h' hlit hlit' hid

lemma nameClash_team_iff (h : t.isTeam) (h' : t'.isTeam) :
    NameClash t t' ↔ t.teamID = t'.teamID ∧ Literal 52 t.templateID ∧ ¬ Literal 52 t'.templateID ∧
      t.templateID = generated 52 [] t'.templateID := by
  constructor
  · intro hclash
    cases hclash with
    | teamIDs _ _ hteam hlit hlit' hid => exact ⟨hteam, hlit, hlit', hid⟩
    | sameID ht | publicIDs ht | spelledAsTeam ht | slugAsTeam ht | repeatedPrefix ht =>
      exact absurd h ht
  · rintro ⟨hteam, hlit, hlit', hid⟩
    exact .teamIDs h h' hteam hlit hlit' hid

lemma not_nameClash_of_team (h : t.isTeam) (h' : ¬ t'.isTeam) : ¬ NameClash t t' := by
  intro hclash
  cases hclash with
  | teamIDs _ ht => exact h' ht
  | sameID ht | publicIDs ht | spelledAsTeam ht | slugAsTeam ht | repeatedPrefix ht => exact ht h

lemma teamPrefix_append_inj {a b s u : GoString} (h : teamPrefix a ++ s = teamPrefix b ++ u) :
    teamKey a = teamKey b ∧ s = u := by
  obtain ⟨hfront, hrest⟩ := append_inj h (by rw [length_teamPrefix, length_teamPrefix])
  refine ⟨?_, hrest⟩
  unfold teamPrefix at hfront
  rw [append_left_inj, append_right_inj] at hfront
  exact hfront

lemma NoSharedHash.of_mem {l l' : List GoString} (h : NoSharedHash l) (hsub : ∀ x ∈ l', x ∈ l) :
    NoSharedHash l' :=
  fun x hx y hy => h x (hsub x hx) y (hsub y hy)

section

variable (hlower : L.lower t.templateID = t.templateID)
  (hlower' : L.lower t'.templateID = t'.templateID) (hhash : NoSharedHash (t.hashed ++ t'.hashed))

include hlower hlower' hhash

lemma public_names_clash_iff (h : ¬ t.isTeam) (h' : ¬ t'.isTeam) :
    t.name L = t'.name L ↔ NameClash t t' ∨ NameClash t' t := by
  rw [name_of_public hlower h, name_of_public hlower' h', nameOf_eq_iff fun hlit hlit' heq =>
    hhash _ (mem_append_left _ (mem_hashed_of_public h hlit)) _
      (mem_append_right _ (mem_hashed_of_public h' hlit')) heq]
  rw [nameClash_public_iff h h', nameClash_public_iff h' h,
    eq_comm (a := t'.templateID) (b := t.templateID)]
  tauto

lemma team_names_clash_iff (h : t.isTeam) (h' : t'.isTeam) (hne : t ≠ t') :
    t.name L = t'.name L ↔ NameClash t t' ∨ NameClash t' t := by
  rw [name_of_team hlower h, name_of_team hlower' h']
  have hiff := @nameOf_eq_iff 52 [] t.templateID t'.templateID fun hlit hlit' heq =>
    hhash _ (mem_append_left _ (mem_hashed_of_team h hlit)) _
      (mem_append_right _ (mem_hashed_of_team h' hlit')) heq
  rw [nameClash_team_iff h h', nameClash_team_iff h' h]
  constructor
  · intro heq
    obtain ⟨hkey, hname⟩ := teamPrefix_append_inj heq
    have hteam : t.teamID = t'.teamID := hhash _ (mem_append_left _ (teamID_mem_hashed h)) _
      (mem_append_right _ (teamID_mem_hashed h')) hkey
    rcases hiff.mp hname with hid | hclash | hclash
    · refine absurd ?_ hne
      cases t
      cases t'
      simp only [TemplateRef.isTeam] at h h' hteam hid
      rw [h, h', hteam, hid]
    · exact .inl ⟨hteam, hclash⟩
    · exact .inr ⟨hteam.symm, hclash⟩
  · rintro (⟨hteam, hclash⟩ | ⟨hteam, hclash⟩)
    · rw [hteam, hiff.mpr (.inr (.inl hclash))]
    · rw [hteam, hiff.mpr (.inr (.inr hclash))]

/-- The name of a template of no team is the name of a team's template. A text without a slug
is named "tpl-", so it has no part in this. -/
lemma mixed_names_clash_iff (h : ¬ t.isTeam) (h' : t'.isTeam) :
    t.name L = t'.name L ↔ NameClash t t' ∨ NameClash t' t := by
  have hinj : ¬ Literal 63 t.templateID → ¬ Literal 52 t'.templateID →
      shortHash t.templateID = shortHash t'.templateID → t.templateID = t'.templateID :=
      fun hlit hlit' =>
    hhash _ (mem_append_left _ (mem_hashed_of_public h hlit)) _
      (mem_append_right _ (mem_hashed_of_team h' hlit'))
  rw [name_of_public hlower h, name_of_team hlower' h']
  constructor
  · intro heq
    left
    by_cases hlit : Literal 63 t.templateID
    · rw [nameOf, if_pos hlit] at heq
      exact .spelledAsTeam h h' hlit heq
    by_cases hslug : slugOf t.templateID = []
    · rw [nameOf_of_blank hslug] at heq
      have hsecond := congrArg (fun l => l[1]?) heq
      simp [teamPrefix, show lit "tpl-" = [116, 112, 108, 45] by decide +kernel,
        show lit "t-" = [116, 45] by decide +kernel] at hsecond
    rw [nameOf_of_slug hslug, labelOf, if_neg hlit] at heq
    by_cases hlit' : Literal 52 t'.templateID
    · rw [nameOf, if_pos hlit'] at heq
      exact .slugAsTeam h h' hlit hslug hlit' heq
    -- Both names end in the hash of their id, so the ids are one.
    have hid : t.templateID = t'.templateID := by
      obtain ⟨front, hfront⟩ := generated_ends 52 [] t'.templateID
      rw [nameOf, if_neg hlit', hfront, ← append_assoc, shortened, append_cons] at heq
      exact hinj hlit hlit' (hash_eq_of_ends heq)
    rw [← hid, nameOf_of_slug hslug, labelOf, if_neg (by rw [hid]; exact hlit')] at heq
    unfold shortened at heq
    rw [← append_assoc, append_left_inj] at heq
    exact .repeatedPrefix h h' hlit hlit' hid heq
  · rintro (hclash | hclash)
    · cases hclash with
      | sameID _ ht | publicIDs _ ht => exact absurd h' ht
      | teamIDs ht => exact absurd ht h
      | spelledAsTeam _ _ hlit hid =>
        rw [nameOf, if_pos hlit]
        exact hid
      | slugAsTeam _ _ hlit hslug hlit' hid =>
        rw [nameOf_of_slug hslug, labelOf, if_neg hlit, nameOf, if_pos hlit']
        exact hid
      | repeatedPrefix _ _ hlit hlit' hid hrepeat =>
        have hslug : slugOf t.templateID ≠ [] := by
          intro hnil
          have hlength := congrArg List.length hrepeat
          simp [hnil, length_teamPrefix] at hlength
        rw [nameOf_of_slug hslug, labelOf, if_neg hlit, ← hid, nameOf_of_slug hslug, labelOf,
          if_neg (by rw [hid]; exact hlit')]
        unfold shortened
        rw [hrepeat, append_assoc]
    · exact absurd hclash (not_nameClash_of_team h' h)

lemma names_clash_iff (hne : t ≠ t') : t.name L = t'.name L ↔ NameClash t t' ∨ NameClash t' t := by
  have hswap : NoSharedHash (t'.hashed ++ t.hashed) :=
    hhash.of_mem fun x hx => mem_append.mpr (mem_append.mp hx).symm
  by_cases h : t.isTeam <;> by_cases h' : t'.isTeam
  · exact team_names_clash_iff hlower hlower' hhash h h' hne
  · rw [eq_comm, or_comm]
    exact mixed_names_clash_iff hlower' hlower hswap h' h
  · exact mixed_names_clash_iff hlower hlower' hhash h h'
  · exact public_names_clash_iff hlower hlower' hhash h h'

end

lemma isLabelByte_teamPrefix (teamID : GoString) :
    ∀ b ∈ teamPrefix teamID, isLabelByte b = true ∨ b = 45 := by
  intro b hb
  simp only [teamPrefix, teamKey, mem_append, show lit "t-" = [116, 45] by decide +kernel,
    show lit "-" = [45] by decide +kernel, mem_cons, not_mem_nil, or_false] at hb
  rcases hb with ((rfl | rfl) | hb) | rfl
  · exact .inl (by decide)
  · exact .inr rfl
  · exact .inl (shortHash_isLabelByte _ _ hb)
  · exact .inr rfl

lemma name_labelBytes (hlower : L.lower t.templateID = t.templateID) : LabelBytes (t.name L) := by
  by_cases h : t.isTeam
  · rw [name_of_team hlower h]
    refine forall_mem_append.mpr ⟨fun b hb => isLabelByte_teamPrefix _ _ hb, ?_⟩
    exact nameOf_labelBytes (fun _ h => absurd h not_mem_nil) 52 _
  · rw [name_of_public hlower h]
    refine nameOf_labelBytes ?_ 63 _
    rw [show lit "tpl-" = [116, 112, 108, 45] by decide +kernel]
    unfold LabelBytes
    decide +kernel

lemma exists_isLabelByte_name (hlower : L.lower t.templateID = t.templateID) :
    ∃ b ∈ t.name L, isLabelByte b = true := by
  by_cases h : t.isTeam
  · rw [name_of_team hlower h]
    obtain ⟨b, hb, hlabel⟩ := exists_isLabelByte_nameOf 52 [] t.templateID
    exact ⟨b, mem_append_right _ hb, hlabel⟩
  · rw [name_of_public hlower h]
    exact exists_isLabelByte_nameOf 63 _ _

lemma LabelBytes.lower_eq (L : Lowering) (h : LabelBytes s) : L.lower s = s := by
  have hbyte : ∀ b ∈ s, b < 128 ∧ ¬ (65 ≤ b ∧ b ≤ 90) := by
    intro b hb
    rcases h b hb with hlabel | rfl
    · simp only [isLabelByte, Bool.decide_or, Bool.or_eq_true, decide_eq_true_eq,
        UInt8.le_iff_toNat_le] at hlabel
      simp only [UInt8.lt_iff_toNat_lt, UInt8.le_iff_toNat_le]
      constructor
      · rcases hlabel with hlabel | hlabel
        · exact lt_of_le_of_lt hlabel.2 (by decide)
        · exact lt_of_le_of_lt hlabel.2 (by decide)
      · rintro ⟨h65, h90⟩
        rcases hlabel with hlabel | hlabel
        · exact absurd (hlabel.1.trans h90) (by decide)
        · exact absurd (h65.trans hlabel.2) (by decide)
    · decide
  rw [L.lower_ascii s fun b hb => (hbyte b hb).1, toLower]
  conv_rhs => rw [← map_id s]
  exact map_congr_left fun b hb => if_neg (hbyte b hb).2

lemma mem_dashed {b : UInt8} (hb : isLabelByte b = true) :
    ∀ (prevDash : Bool) (s : GoString), b ∈ s → b ∈ dashed prevDash s
  | _, [], h => absurd h not_mem_nil
  | prevDash, a :: rest, h => by
    unfold dashed
    rcases mem_cons.mp h with rfl | h
    · rw [if_pos hb]
      exact mem_cons_self
    have hrest := fun prevDash => mem_dashed hb prevDash rest h
    split
    · exact mem_cons_of_mem _ (hrest false)
    · split
      · exact hrest true
      · exact mem_cons_of_mem _ (hrest true)

lemma mem_trimByte {b c : UInt8} (hb : b ≠ c) (h : b ∈ s) : b ∈ trimByte c s := by
  have hdrop : ∀ l : GoString, b ∈ l → b ∈ l.dropWhile (· = c) := by
    intro l hl
    rw [← takeWhile_append_dropWhile (p := fun a => decide (a = c)) (l := l), mem_append] at hl
    rcases hl with hl | hl
    · have hcut := mem_takeWhile_imp hl
      exact absurd (of_decide_eq_true hcut) hb
    · exact hl
  exact mem_reverse.mpr (hdrop _ (mem_reverse.mpr (hdrop _ h)))

lemma slugOf_ne_nil_of_mem {b : UInt8} (hb : isLabelByte b = true) (h : b ∈ s) : slugOf s ≠ [] := by
  refine ne_nil_of_mem (mem_trimByte ?_ (mem_dashed hb false s h))
  rintro rfl
  exact absurd hb (by decide)

/-! ## Names of ReplicaSets -/

def replicaRoom (clusterKey : GoString) : Nat :=
  replicaSetMaxLen - (replicaSetPrefix clusterKey).length

lemma encodeClusterID_ok (h : encodeClusterID L clusterID = .ok key) :
    key.length ≤ 32 ∧ isDNS1123Label key = true := by
  unfold encodeClusterID at h
  rcases hvalid : validateClusterID clusterID with e | u
  · rw [hvalid] at h
    cases h
  rw [hvalid] at h
  change (if clusterKeyMaxLen < (L.lower (base32Encode clusterID)).length then _ else _) = _ at h
  split at h
  · cases h
  rename_i hlength
  change (if ¬ isDNS1123Label (L.lower (base32Encode clusterID)) = true then _ else _) = _ at h
  split at h
  · cases h
  rename_i hlabel
  obtain rfl := Except.ok.inj h
  exact ⟨Nat.not_lt.mp hlength, not_not.mp hlabel⟩

lemma length_replicaSetPrefix (key : GoString) :
    (replicaSetPrefix key).length = key.length + 4 := by
  have h1 : (lit "rs-").length = 3 := by decide +kernel
  have h2 : (lit "-").length = 1 := by decide +kernel
  simp [replicaSetPrefix, h1, h2]
  omega

lemma replicaName_isDNS1123Label {label : GoString} (hkey : isDNS1123Label key = true)
    (hlabel : isDNS1123Label label = true) (hlength : (replicaSetPrefix key ++ label).length ≤ 63) :
    isDNS1123Label (replicaSetPrefix key ++ label) = true := by
  obtain ⟨-, hbytes, -, -⟩ := of_decide_eq_true hkey
  obtain ⟨-, hbytes', -, hlast⟩ := of_decide_eq_true hlabel
  refine decide_eq_true ⟨hlength, ?_, ?_, ?_⟩
  · intro b hb
    simp only [replicaSetPrefix, mem_append, show lit "rs-" = [114, 115, 45] by decide +kernel,
      show lit "-" = [45] by decide +kernel, mem_cons, not_mem_nil, or_false] at hb
    rcases hb with (((rfl | rfl | rfl) | hb) | rfl) | hb
    · exact .inl (by decide)
    · exact .inl (by decide)
    · exact .inr rfl
    · exact hbytes b hb
    · exact .inr rfl
    · exact hbytes' b hb
  · simp [replicaSetPrefix, show lit "rs-" = [114, 115, 45] by decide +kernel, isLabelByte]
  · rw [getLast?_append]
    rcases hl : label.getLast? with _ | b
    · rw [hl] at hlast
      cases hlast
    · rw [hl] at hlast
      exact hlast

lemma replicasetName_eq (hkey : encodeClusterID L clusterID = .ok key)
    (hlower : L.lower n = n) (hslug : slugOf n ≠ []) :
    replicasetName L clusterID n = .ok (replicaSetPrefix key ++ labelOf (replicaRoom key) n) := by
  obtain ⟨hlength, hlabel⟩ := encodeClusterID_ok hkey
  have hprefix := length_replicaSetPrefix key
  have hroom : replicaRoom key = 45 - key.length := by
    rw [replicaRoom, hprefix]
    change 49 - _ = _
    omega
  have hlow : 10 ≤ replicaRoom key := by omega
  have hmax : replicaRoom key ≤ 63 := by omega
  have hname := labelOf_length hslug hlow
  have hvalid : validateDNSLabel
    (replicaSetPrefix key ++ labelOf (replicaRoom key) n) = .ok () := by
    rw [validateDNSLabel, if_pos]
    refine replicaName_isDNS1123Label hlabel (labelOf_isDNS1123Label hslug hlow hmax) ?_
    rw [length_append, hprefix]
    omega
  unfold replicasetName
  rw [hkey]
  change (if replicaRoom key ≤ 0 then _ else _) = _
  rw [if_neg (by omega)]
  change (do
    let templateKey ← slugWithHash L n (replicaRoom key)
    _) = _
  rw [slugWithHash_eq hlower hslug hlow hmax]
  change (do
    validateDNSLabel (replicaSetPrefix key ++ labelOf (replicaRoom key) n)
    _) = _
  rw [hvalid]
  rfl

lemma replicasetName_error {e : NameError} (h : encodeClusterID L clusterID = .error e) :
    replicasetName L clusterID n = .error e := by
  unfold replicasetName
  rw [h]
  rfl

def replicaHashed (L : Lowering) (clusterID templateName : GoString) : List GoString :=
  match encodeClusterID L clusterID with
  | .error _ => []
  | .ok key => if Literal (replicaRoom key) templateName then [] else [templateName]

/-- One name of a template is spelled as what is made of the other for the ReplicaSet. -/
def ReplicaClash (L : Lowering) (clusterID n n' : GoString) : Prop :=
  ∃ key, encodeClusterID L clusterID = .ok key ∧ Literal (replicaRoom key) n ∧
    ¬ Literal (replicaRoom key) n' ∧ n = shortened (replicaRoom key) n'

lemma replica_names_clash_iff {n' : GoString} (hlower : L.lower n = n) (hlower' : L.lower n' = n')
    (hslug : slugOf n ≠ []) (hslug' : slugOf n' ≠ []) (hne : n ≠ n')
    (hhash : NoSharedHash (replicaHashed L clusterID n ++ replicaHashed L clusterID n')) :
    (∃ r r', replicasetName L clusterID n = .ok r ∧
      replicasetName L clusterID n' = .ok r' ∧ r = r') ↔
      ReplicaClash L clusterID n n' ∨ ReplicaClash L clusterID n' n := by
  rcases hkey : encodeClusterID L clusterID with e | key
  · simp [replicasetName_error hkey, ReplicaClash, hkey]
  have hinj : ¬ Literal (replicaRoom key) n → ¬ Literal (replicaRoom key) n' →
      shortHash n = shortHash n' → n = n' := fun hlit hlit' =>
    hhash _ (by simp [replicaHashed, hkey, hlit]) _ (by simp [replicaHashed, hkey, hlit'])
  have hiff := @nameOf_eq_iff _ [] _ _ hinj
  rw [nameOf_of_slug hslug, nameOf_of_slug hslug', generated, if_neg hslug', generated,
    if_neg hslug] at hiff
  rw [replicasetName_eq hkey hlower hslug, replicasetName_eq hkey hlower' hslug']
  have hclash : ∀ a b, ReplicaClash L clusterID a b ↔
      Literal (replicaRoom key) a ∧ ¬ Literal (replicaRoom key) b ∧
      a = shortened (replicaRoom key) b := by
    intro a b
    constructor
    · rintro ⟨key', hkey', h⟩
      cases hkey.symm.trans hkey'
      exact h
    · exact fun h => ⟨key, hkey, h⟩
  rw [hclash, hclash]
  constructor
  · rintro ⟨r, r', hr, hr', rfl⟩
    have hsame : labelOf (replicaRoom key) n = labelOf (replicaRoom key) n' :=
      append_cancel_left ((Except.ok.inj hr).trans (Except.ok.inj hr').symm)
    exact (hiff.mp hsame).resolve_left hne
  · intro h
    exact ⟨_, _, rfl, rfl, by rw [hiff.mpr (.inr h)]⟩

lemma lower_of_canonicalTemplateID {raw id : GoString} (h : canonicalTemplateID L raw = .ok id) :
    L.lower id = id := by
  unfold canonicalTemplateID at h
  dsimp only at h
  split at h
  · cases h
  split at h
  · cases h
  split at h
  · cases h
  obtain rfl := Except.ok.inj h
  exact L.lower_lower _

/-- Two templates with different scope, team and canonical id have different names and different
ReplicaSet names in a cluster exactly if no id is spelled as a name that is generated for
the other, and no name as what is generated for the ReplicaSet of the other. -/
theorem template_names_differ_iff (L : Lowering) (clusterID raw raw' : GoString)
    (t t' : TemplateRef) (hid : canonicalTemplateID L raw = .ok t.templateID)
    (hid' : canonicalTemplateID L raw' = .ok t'.templateID) (hne : t ≠ t')
    (hhash : NoSharedHash
      (t.hashed ++ t'.hashed ++ replicaHashed L clusterID (t.name L) ++
        replicaHashed L clusterID (t'.name L))) :
    (t.name L ≠ t'.name L ∧ ∀ r r', replicasetName L clusterID (t.name L) = .ok r →
        replicasetName L clusterID (t'.name L) = .ok r' → r ≠ r') ↔
      ¬ NameClash t t' ∧ ¬ NameClash t' t ∧ ¬ ReplicaClash L clusterID (t.name L) (t'.name L) ∧
        ¬ ReplicaClash L clusterID (t'.name L) (t.name L) := by
  have hlower := lower_of_canonicalTemplateID hid
  have hlower' := lower_of_canonicalTemplateID hid'
  have hnames := names_clash_iff hlower hlower'
    (hhash.of_mem fun x hx => mem_append_left _ (mem_append_left _ hx)) hne
  have hreplicas : t.name L ≠ t'.name L →
      ((∃ r r', replicasetName L clusterID (t.name L) = .ok r ∧
        replicasetName L clusterID (t'.name L) = .ok r' ∧ r = r') ↔ _) := fun hdiff => by
    obtain ⟨b, hb, hlabel⟩ := exists_isLabelByte_name hlower
    obtain ⟨b', hb', hlabel'⟩ := exists_isLabelByte_name hlower'
    refine replica_names_clash_iff ((name_labelBytes hlower).lower_eq L)
      ((name_labelBytes hlower').lower_eq L)
      (slugOf_ne_nil_of_mem hlabel hb) (slugOf_ne_nil_of_mem hlabel' hb') hdiff
        (hhash.of_mem fun x hx => ?_)
    rw [append_assoc]
    exact mem_append_right _ hx
  constructor
  · rintro ⟨hdiff, hrs⟩
    have hname : ¬ (_ ∨ _) := fun h => hdiff (hnames.mpr h)
    have hreplica : ¬ (_ ∨ _) := fun h => by
      obtain ⟨r, r', hr, hr', hsame⟩ := (hreplicas hdiff).mpr h
      exact hrs r r' hr hr' hsame
    rw [not_or] at hname hreplica
    exact ⟨hname.1, hname.2, hreplica.1, hreplica.2⟩
  · rintro ⟨h1, h2, h3, h4⟩
    have hdiff : t.name L ≠ t'.name L := fun h => (hnames.mp h).elim h1 h2
    refine ⟨hdiff, fun r r' hr hr' hsame => ?_⟩
    exact ((hreplicas hdiff).mp ⟨r, r', hr, hr', hsame⟩).elim h3 h4

def samplePublic : TemplateRef := ⟨lit "public", [], lit "python"⟩
def sampleTeam : TemplateRef := ⟨lit "team", lit "acme", lit "python"⟩

/-- A template of no team with the name of the team's. -/
def sampleSpelled : TemplateRef :=
  ⟨lit "public", [], lit "t-" ++ teamKey (lit "acme") ++ lit "-python"⟩

theorem template_names_differ_for_one_id :
    samplePublic.name asciiLowering ≠ sampleTeam.name asciiLowering ∧
      ∀ r r', replicasetName asciiLowering (lit "c1") (samplePublic.name asciiLowering) = .ok r →
        replicasetName asciiLowering (lit "c1") (sampleTeam.name asciiLowering) = .ok r' →
          r ≠ r' := by
  have hkey : encodeClusterID asciiLowering (lit "c1") = .ok (lit "mmyq") := by decide +kernel
  refine (template_names_differ_iff asciiLowering (lit "c1") (lit " Python") (lit "python")
    samplePublic sampleTeam
    (by decide +kernel) (by decide +kernel) (by decide +kernel)
    (by unfold NoSharedHash; decide +kernel)).mpr
    ⟨?_, ?_, ?_, ?_⟩
  · rintro (⟨-, h, -⟩ | ⟨-, h, -⟩ | ⟨h, -⟩ | ⟨-, -, -, h⟩ | ⟨-, -, h⟩ | ⟨-, -, h⟩)
    all_goals first | exact h (by decide +kernel) | exact absurd h (by decide +kernel)
  · rintro (⟨h, -⟩ | ⟨h, -⟩ | ⟨-, h, -⟩ | ⟨h, -⟩ | ⟨h, -⟩ | ⟨h, -⟩)
    all_goals first | exact h (by decide +kernel) | exact absurd h (by decide +kernel)
  · rintro ⟨key, h, -, hlong, -⟩
    obtain rfl := Except.ok.inj (hkey.symm.trans h)
    exact hlong (by decide +kernel)
  · rintro ⟨key, h, -, hlong, -⟩
    obtain rfl := Except.ok.inj (hkey.symm.trans h)
    exact hlong (by decide +kernel)

theorem public_template_takes_the_name_of_a_team :
    canonicalTemplateID asciiLowering sampleSpelled.templateID = .ok sampleSpelled.templateID ∧
      canonicalTemplateID asciiLowering sampleTeam.templateID = .ok sampleTeam.templateID ∧
      sampleSpelled ≠ sampleTeam ∧
      NoSharedHash (sampleSpelled.hashed ++ sampleTeam.hashed ++
        replicaHashed asciiLowering (lit "c1") (sampleSpelled.name asciiLowering) ++
        replicaHashed asciiLowering (lit "c1") (sampleTeam.name asciiLowering)) ∧
      sampleSpelled.name asciiLowering = sampleTeam.name asciiLowering := by
  unfold NoSharedHash
  decide +kernel

end sandbox0.naming
