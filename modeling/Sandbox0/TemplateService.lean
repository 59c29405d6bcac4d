-- The templates of a cluster (`manager/pkg/service/template_service.go`). The templates
-- of a team share a namespace, and the call that deletes the last one of them deletes
-- the namespace. Calls take one step at a time against the API server, and listers
-- lag behind it.
import Sandbox0.GoCall
import Sandbox0.GoMap
import Sandbox0.GoString
import Sandbox0.ObjectStore

namespace sandbox0.templateservice

open List

/-! ## Templates, namespaces and pods -/

structure SandboxTemplate where
  nameSpace : GoString
  name : GoString
  /-- The label `sandbox0.ai/template-scope`. -/
  scope : GoString
  /-- The annotation `sandbox0.ai/template-team-id`. -/
  teamID : GoString
  minIdle : Int
  maxIdle : Int
  deriving DecidableEq

structure Namespace where
  /-- The label `app.kubernetes.io/managed-by` is `sandbox0-manager`. -/
  managed : Bool
  terminating : Bool

/-- A pod with its labels `sandbox0.ai/template-id` and `sandbox0.ai/pool-type`. -/
structure TemplatePod where
  nameSpace : GoString
  name : GoString
  templateID : GoString
  poolType : GoString
  deriving DecidableEq

abbrev TemplateKey := GoString × GoString

/-- `naming.TemplateNamespaceForTeam` and `naming.TemplateNamespaceForBuiltin`. -/
structure Naming where
  namespaceForTeam : GoString → Except GoString GoString
  namespaceForBuiltin : GoString → Except GoString GoString

def resolveTemplateNamespace (naming : Naming)
    (template : SandboxTemplate) : Except GoString GoString :=
  if template.nameSpace ≠ [] then .ok template.nameSpace
  else if template.scope = lit "team" then naming.namespaceForTeam template.teamID
  else naming.namespaceForBuiltin template.name

def SandboxTemplate.withDefaults (template : SandboxTemplate) : SandboxTemplate :=
  let minIdle := if template.minIdle < 0 then 0 else template.minIdle
  { template with minIdle, maxIdle := if template.maxIdle < minIdle then minIdle
                    else template.maxIdle }

/-! ## Calls under way -/

inductive Stage where
  /-- `CreateTemplate`: look for the namespace in the cache, create it, make its baseline,
  and create the template. -/
  | ensure (template : SandboxTemplate)
  | makeNamespace (template : SandboxTemplate)
  | baseline (template : SandboxTemplate)
  | create (template : SandboxTemplate)
  /-- `UpdateTemplate`: find the template in the cache, and write over that version. -/
  | findCurrent (template : SandboxTemplate)
  | update (template : SandboxTemplate) (key : TemplateKey) (current : Object SandboxTemplate)
  /-- `DeleteTemplate`: find the template in the cache, look whether its namespace is the
  manager's and has other templates, delete the namespace, the template and its pods. -/
  | find (id : GoString)
  | managed (id nameSpace : GoString)
  | list (id nameSpace : GoString)
  | deleteNamespace (id nameSpace : GoString)
  | deleteTemplate (id nameSpace : GoString)
  | listPods (id nameSpace : GoString)
  | deletePods (id nameSpace : GoString) (pods : List GoString)
  | done (error : Option GoString)
  deriving DecidableEq

structure World where
  namespaces : GoMap GoString Namespace
  templates : ObjectStore TemplateKey SandboxTemplate
  pods : List TemplatePod
  calls : GoMap Nat Stage
  /-- The templates whose `CreateTemplate` succeeded, the names that `DeleteTemplate` was
  called with, and the pods that were ever started. -/
  created : List TemplateKey
  named : List GoString
  started : List TemplatePod

/-- A call to the server that fails, and whether the server did its work before. -/
structure Fault where
  applied : Bool
  error : GoString

inductive Event where
  | createTemplate (n : Nat) (template : SandboxTemplate)
  | updateTemplate (n : Nat) (template : SandboxTemplate)
  | deleteTemplate (n : Nat) (id : GoString)
  /-- What the namespace lister says: an error, or whether it has the namespace. -/
  | ensure (n : Nat) (cached : Except GoString Bool)
  | makeNamespace (n : Nat) (fault : Option Fault)
  | baseline (n : Nat) (fault : Option GoString)
  | create (n : Nat) (fault : Option Fault)
  /-- The versions in the cache of the template lister, by their places in the history. -/
  | find (n : Nat) (fault : Option GoString) (cache : List Nat)
  | update (n : Nat) (fault : Option Fault)
  | managed (n : Nat) (fault : Option GoString)
  | list (n : Nat) (fault : Option GoString)
  | deleteNamespace (n : Nat) (fault : Option Fault)
  | delete (n : Nat) (fault : Option Fault)
  | listPods (n : Nat) (fault : Option GoString)
  | deletePod (n : Nat) (fault : Option Fault)
  /-- A controller starts a pod for a template. -/
  | startPod (pod : TemplatePod)
  /-- The server ends a terminating namespace, with all that is in it. -/
  | finalize (nameSpace : GoString)

/-! ## The steps -/

def World.goOn (w : World) (n : Nat) (stage : Stage) : World :=
  { w with calls := w.calls.insert n stage }

def World.fail (w : World) (n : Nat) (at_ error : GoString) : World :=
  w.goOn n (.done (some (at_ ++ lit ": " ++ error)))

/-- The namespace is there and not on its way out. -/
def World.Alive (w : World) (nameSpace : GoString) : Prop :=
  ∃ ns ∈ w.namespaces[nameSpace]?, ns.terminating = false

instance (w : World) (nameSpace : GoString) : Decidable (w.Alive nameSpace) :=
  inferInstanceAs (Decidable (∃ ns ∈ w.namespaces[nameSpace]?, _))

/-- `findTemplateByName`, in a cache with these versions. -/
def World.findTemplateByName (w : World) (cache : List Nat) (id : GoString) :
    Option (TemplateKey × Object SandboxTemplate) :=
  (cache.filterMap (w.templates.history[·]?)).find? (·.1.2 = id)

/-- `namespaceHasOtherTemplates`: the list of the server. -/
def World.hasOtherTemplates (w : World) (nameSpace deletingName : GoString) : Bool :=
  w.templates.history.any fun x =>
    x.1.1 = nameSpace ∧ x.1.2 ≠ deletingName ∧ (w.templates.objects x.1).isSome

def World.createNamespace (w : World) (nameSpace : GoString) : World :=
  if w.namespaces[nameSpace]?.isSome then w
  else
    { w with namespaces := w.namespaces.insert nameSpace { managed := true, terminating := false } }

def World.terminate (w : World) (nameSpace : GoString) : World :=
  match w.namespaces[nameSpace]? with
  | none => w
  | some ns =>
    { w with namespaces := w.namespaces.insert nameSpace { ns with terminating := true } }

def World.dropPod (w : World) (nameSpace name : GoString) : World :=
  { w with pods := w.pods.filter fun pod => ¬ (pod.nameSpace = nameSpace ∧ pod.name = name) }

/-- A step that changes the server: it may fail before or after its work. -/
def World.attempt (w : World) (n : Nat) (fault : Option Fault) (at_ : GoString)
    (work : World → World) (next : Stage) : World :=
  match fault with
  | some f => (if f.applied then work w else w).fail n at_ f.error
  | none => (work w).goOn n next

/-- The create of a template. It fails where the namespace is missing or terminating, and
where the template is there. -/
def World.create (w : World) (n : Nat) (template : SandboxTemplate)
    (fault : Option Fault) : World :=
  let key := (template.nameSpace, template.name)
  if ∃ f ∈ fault, f.applied = false then
    w.fail n (lit "create template") ((fault.map (·.error)).getD [])
  else if ¬ w.Alive template.nameSpace then
    w.fail n (lit "create template") (lit "namespace is not active")
  else if (w.templates.objects key).isSome then
    w.fail n (lit "create template") (lit "already exists")
  else
    let made : World := { w with templates := w.templates.create key template.withDefaults }
    match fault with
    | some f => made.fail n (lit "create template") f.error
    | none =>
      let recorded : World := { made with created := key :: w.created }
      recorded.goOn n (.done none)

def World.update (w : World) (n : Nat) (template : SandboxTemplate) (key : TemplateKey)
    (current : Object SandboxTemplate) (fault : Option Fault) : World :=
  if ∃ f ∈ fault, f.applied = false then
    w.fail n (lit "update template") ((fault.map (·.error)).getD [])
  else if w.templates.IsCurrent key current then
    let written : World :=
      { w with templates := w.templates.write key current.uid { template with nameSpace := key.1 } }
    match fault with
    | some f => written.fail n (lit "update template") f.error
    | none => written.goOn n (.done none)
  else w.fail n (lit "update template") (lit "the object has been modified")

/-- The next step of `DeleteTemplate` after it has found the template. -/
def World.found (w : World) (n : Nat) (id : GoString)
    (existing : Option (TemplateKey × Object SandboxTemplate)) : World :=
  match existing with
  | none => w.goOn n (.done none)
  | some (key, _) => w.goOn n (if key.1 = [] then .deleteTemplate id key.1 else .managed id key.1)

def World.deletedNames (w : World) (id nameSpace : GoString) : List GoString :=
  (w.pods.filter fun pod => pod.nameSpace = nameSpace ∧ pod.templateID = id ∧
    (pod.poolType = lit "idle" ∨ pod.poolType = lit "active")).map (·.name)

/-- One step. An event that does not fit the state changes nothing. -/
def World.next (naming : Naming) (w : World) : Event → World
  | .createTemplate n template =>
    if w.calls[n]?.isSome then w
    else
      match resolveTemplateNamespace naming template with
      | .error e => w.fail n (lit "resolve template namespace") e
      | .ok nameSpace => w.goOn n (.ensure { template with nameSpace })
  | .updateTemplate n template => if w.calls[n]?.isSome then w else w.goOn n (.findCurrent template)
  | .deleteTemplate n id =>
    if w.calls[n]?.isSome then w
    else { w with named := id :: w.named, calls := w.calls.insert n (.find id) }
  | .ensure n cached =>
    match w.calls[n]? with
    | some (.ensure template) =>
      match cached with
      | .error e => w.fail n (lit "get namespace from cache") e
      | .ok true => w.goOn n (.baseline template)
      | .ok false => w.goOn n (.makeNamespace template)
    | _ => w
  | .makeNamespace n fault =>
    match w.calls[n]? with
    | some (.makeNamespace template) =>
      w.attempt n fault (lit "create namespace") (·.createNamespace template.nameSpace)
        (.baseline template)
    | _ => w
  | .baseline n fault =>
    match w.calls[n]? with
    | some (.baseline template) =>
      match fault with
      | some e => w.fail n (lit "ensure template namespace baseline") e
      | none => w.goOn n (.create template)
    | _ => w
  | .create n fault =>
    match w.calls[n]? with
    | some (.create template) => w.create n template fault
    | _ => w
  | .find n fault cache =>
    match w.calls[n]? with
    | some (.findCurrent template) =>
      match fault with
      | some e => w.fail n (lit "get current template") e
      | none =>
        match w.findTemplateByName cache template.name with
        | none => w.fail n (lit "get current template") (lit "not found")
        | some (key, current) => w.goOn n (.update template key current)
    | some (.find id) =>
      match fault with
      | some e => w.fail n (lit "resolve template namespace") e
      | none => w.found n id (w.findTemplateByName cache id)
    | _ => w
  | .update n fault =>
    match w.calls[n]? with
    | some (.update template key current) => w.update n template key current fault
    | _ => w
  | .managed n fault =>
    match w.calls[n]? with
    | some (.managed id nameSpace) =>
      match fault with
      | some e => w.fail n (lit "resolve template namespace cleanup") e
      | none =>
        if (w.namespaces[nameSpace]?).any (·.managed) then w.goOn n (.list id nameSpace)
        else w.goOn n (.deleteTemplate id nameSpace)
    | _ => w
  | .list n fault =>
    match w.calls[n]? with
    | some (.list id nameSpace) =>
      match fault with
      | some e => w.fail n (lit "resolve template namespace cleanup") e
      | none =>
        if w.hasOtherTemplates nameSpace id then w.goOn n (.deleteTemplate id nameSpace)
        else w.goOn n (.deleteNamespace id nameSpace)
    | _ => w
  | .deleteNamespace n fault =>
    match w.calls[n]? with
    | some (.deleteNamespace id nameSpace) =>
      w.attempt n fault (lit "delete template namespace") (·.terminate nameSpace)
        (.deleteTemplate id nameSpace)
    | _ => w
  | .delete n fault =>
    match w.calls[n]? with
    | some (.deleteTemplate id nameSpace) =>
      w.attempt n fault (lit "delete template")
        (fun w => { w with templates := w.templates.remove (nameSpace, id) })
        (if nameSpace = [] ∨ id = [] then .done none else .listPods id nameSpace)
    | _ => w
  | .listPods n fault =>
    match w.calls[n]? with
    | some (.listPods id nameSpace) =>
      match fault with
      | some e => w.fail n (lit "list template pods") e
      | none => w.goOn n (.deletePods id nameSpace (w.deletedNames id nameSpace))
    | _ => w
  | .deletePod n fault =>
    match w.calls[n]? with
    | some (.deletePods _ _ []) => w.goOn n (.done none)
    | some (.deletePods id nameSpace (name :: rest)) =>
      w.attempt n fault (lit "delete template pod") (·.dropPod nameSpace name)
        (.deletePods id nameSpace rest)
    | _ => w
  | .startPod pod =>
    if w.Alive pod.nameSpace ∧ (w.templates.objects (pod.nameSpace, pod.templateID)).isSome ∧
        ∀ other ∈ w.pods, ¬ (other.nameSpace = pod.nameSpace ∧ other.name = pod.name) then
      { w with pods := pod :: w.pods, started := pod :: w.started }
    else w
  | .finalize nameSpace =>
    match w.namespaces[nameSpace]? with
    | none => w
    | some ns =>
      if ns.terminating then
        { w with
          namespaces := w.namespaces.erase nameSpace
          templates := w.templates.removeWhere (·.1 = nameSpace)
          pods := w.pods.filter (·.nameSpace ≠ nameSpace) }
      else w

/-- No templates, no pods and no calls. Namespaces may be there, of whoever. -/
def World.Started (w : World) : Prop :=
  w.templates.history = [] ∧ w.templates.Sound ∧ w.pods = [] ∧ w.calls = ∅ ∧ w.created = [] ∧
    w.named = [] ∧ w.started = []

/-- A call stands between its list and its request to delete this namespace, for the sake of
another template than this one. -/
def Stage.Empties (nameSpace name : GoString) : Stage → Prop
  | .deleteNamespace id ns => ns = nameSpace ∧ id ≠ name
  | _ => False

instance (nameSpace name : GoString) (s : Stage) : Decidable (s.Empties nameSpace name) := by
  unfold Stage.Empties
  split <;> infer_instance

/-- A step that leaves the other templates alone. A template is not created in a namespace
that a call has found empty and is about to delete, and a pod does not get the
name that a pod of another template had. -/
def World.Careful (w : World) : Event → Prop
  | .create n _ =>
    match w.calls[n]? with
    | some (.create template) =>
      ∀ p ∈ w.calls.toList, ¬ p.2.Empties template.nameSpace template.name
    | _ => True
  | .startPod pod =>
    ∀ other ∈ w.started, other.nameSpace = pod.nameSpace → other.name = pod.name →
      other.templateID = pod.templateID
  | _ => True

instance (w : World) (e : Event) : Decidable (w.Careful e) := by
  unfold World.Careful
  split
  · split <;> infer_instance
  · infer_instance
  · infer_instance

def World.Reached (naming : Naming) : World → Prop :=
  Reach World.Started (fun w e w' => w' = w.next naming e) World.Careful

/-! ## What careful runs keep -/

def Stage.Ok (history : List (TemplateKey × Object SandboxTemplate)) (named : List GoString)
    (started : List TemplatePod) : Stage → Prop
  | .find id | .managed id _ | .list id _ | .deleteTemplate id _ | .listPods id _ => id ∈ named
  | .deleteNamespace id nameSpace => id ∈ named ∧ ∀ x ∈ history, x.1.1 = nameSpace → x.1.2 ∈ named
  | .deletePods id nameSpace names =>
    id ∈ named ∧ ∀ name ∈ names, ∃ pod ∈ started, pod.nameSpace = nameSpace ∧ pod.name = name ∧
      pod.templateID = id
  | _ => True

/-- Templates and pods stay, unless a call names the template. -/
structure World.Kept (w : World) : Prop where
  sound : w.templates.Sound
  templates : ∀ x ∈ w.templates.history, x.1.2 ∉ w.named → w.Alive x.1.1 ∧
    (w.templates.objects x.1).isSome
  pods : ∀ pod ∈ w.started, pod.templateID ∉ w.named → pod ∈ w.pods
  started : ∀ pod ∈ w.pods, pod ∈ w.started
  made : ∀ pod ∈ w.started, ∃ x ∈ w.templates.history, x.1 = (pod.nameSpace, pod.templateID)
  podNames : ∀ pod ∈ w.started, ∀ pod' ∈ w.started, pod.nameSpace = pod'.nameSpace →
    pod.name = pod'.name → pod.templateID = pod'.templateID
  created : ∀ key ∈ w.created, ∃ x ∈ w.templates.history, x.1 = key

structure World.Inv (w : World) : Prop where
  kept : w.Kept
  calls : ∀ (n : Nat) (s : Stage), w.calls[n]? = some s → s.Ok w.templates.history w.named w.started

variable {w : World} {n : Nat} {s : Stage} {naming : Naming} {nameSpace : GoString}
  {history : List (TemplateKey × Object SandboxTemplate)}

open GoMap

lemma World.Inv.goOn (h : w.Inv)
    (hs : s.Ok w.templates.history w.named w.started) : (w.goOn n s).Inv :=
  ⟨{ h.kept with }, all_insert hs h.calls⟩

lemma World.Inv.fail (h : w.Inv) (at_ error : GoString) : (w.fail n at_ error).Inv := h.goOn trivial

lemma Stage.Ok.mono {named named' : List GoString}
    {started started' : List TemplatePod} (hnamed : named ⊆ named') (hstarted : started ⊆ started')
    (h : s.Ok history named started) : s.Ok history named' started' := by
  unfold Ok at h ⊢
  split at h
  case h_6 => exact ⟨hnamed h.1, fun x hx hns => hnamed (h.2 x hx hns)⟩
  case h_7 =>
    refine ⟨hnamed h.1, fun name hname => ?_⟩
    obtain ⟨pod, hpod, hpod'⟩ := h.2 name hname
    exact ⟨pod, hstarted hpod, hpod'⟩
  case h_8 => trivial
  all_goals exact hnamed h

/-- A version of a template more. It is of a template that was there, or no call is about to
delete its namespace. -/
lemma Stage.Ok.put {named : List GoString}
    {started : List TemplatePod} (h : s.Ok history named started) {key : TemplateKey}
    (hkey : (∃ x ∈ history, x.1 = key) ∨ ¬ s.Empties key.1 key.2) (o : Object SandboxTemplate) :
    s.Ok ((key, o) :: history) named started := by
  unfold Ok at h ⊢
  split at h
  case h_6 id nameSpace =>
    refine ⟨h.1, ?_⟩
    intro x hx hns
    rcases mem_cons.mp hx with rfl | hx
    · rcases hkey with ⟨y, hy, rfl⟩ | hkey
      · exact h.2 y hy hns
      · have hsame : id = key.2 := by
          by_contra hne
          exact hkey ⟨hns.symm, hne⟩
        exact hsame ▸ h.1
    · exact h.2 x hx hns
  all_goals exact h

open World

lemma World.Inv.attempt (h : w.Inv) {fault : Option Fault} {at_ : GoString} {work : World → World}
    (hwork : (work w).Inv) (hs : s.Ok (work w).templates.history (work w).named (work w).started) :
    (w.attempt n fault at_ work s).Inv := by
  unfold World.attempt
  split
  · split
    · exact hwork.fail ..
    · exact h.fail ..
  · exact hwork.goOn hs

/-! ## The changes of the server -/

lemma World.alive_of_ne {ns : GoString} {v : Namespace} (hne : ns ≠ nameSpace) (h : w.Alive ns)
    {w' : World} (hw : w'.namespaces = w.namespaces.insert nameSpace v) : w'.Alive ns := by
  obtain ⟨x, hx, hx'⟩ := h
  refine ⟨x, ?_, hx'⟩
  rw [hw, get_insert_ne _ _ (Ne.symm hne)]
  exact hx

lemma World.Kept.createNamespace (h : w.Kept) (nameSpace : GoString) :
    (w.createNamespace nameSpace).Kept := by
  unfold World.createNamespace
  split
  · exact h
  rename_i hnone
  refine { h with templates := ?_ }
  intro x hx hnamed
  obtain ⟨halive, hsome⟩ := h.templates x hx hnamed
  refine ⟨alive_of_ne ?_ halive rfl, hsome⟩
  rintro heq
  obtain ⟨ns, hns, -⟩ := halive
  rw [heq] at hns
  rw [hns] at hnone
  exact hnone rfl

/-- A namespace all of whose templates are named may go. -/
lemma World.Kept.terminate (h : w.Kept)
    (hnamed : ∀ x ∈ w.templates.history, x.1.1 = nameSpace → x.1.2 ∈ w.named) :
    (w.terminate nameSpace).Kept := by
  unfold World.terminate
  split
  · exact h
  refine { h with templates := ?_ }
  intro x hx hx'
  obtain ⟨halive, hsome⟩ := h.templates x hx hx'
  exact ⟨alive_of_ne (fun heq => hx' (hnamed x hx heq)) halive rfl, hsome⟩

variable {id : GoString}

open ObjectStore

lemma World.Kept.removeTemplate (h : w.Kept) (hid : id ∈ w.named) (nameSpace : GoString) :
    Kept { w with templates := w.templates.remove (nameSpace, id) } := by
  refine { h with sound := h.sound.remove _, templates := ?_ }
  intro x hx hx'
  obtain ⟨halive, hsome⟩ := h.templates x hx hx'
  refine ⟨halive, ?_⟩
  have hne : x.1 ≠ (nameSpace, id) := by
    rintro heq
    exact hx' (by rw [heq]; exact hid)
  simpa [remove, Function.update_of_ne hne] using hsome

lemma World.Kept.dropPod (h : w.Kept) {name : GoString} (hid : id ∈ w.named)
    (howner : ∀ pod ∈ w.started, pod.nameSpace = nameSpace → pod.name = name →
      pod.templateID = id) :
    (w.dropPod nameSpace name).Kept := by
  refine { h with pods := ?_, started := fun pod hpod => h.started pod (mem_of_mem_filter hpod) }
  intro pod hpod hnamed
  refine mem_filter.mpr ⟨h.pods pod hpod hnamed, ?_⟩
  refine decide_eq_true ?_
  rintro ⟨hns, hname⟩
  exact hnamed (by rw [howner pod hpod hns hname]; exact hid)

/-- A terminating namespace has no template that stays, and so no pod of one. -/
lemma World.Kept.finalize (h : w.Kept) {ns : Namespace}
    (hns : w.namespaces[nameSpace]? = some ns) (hterm : ns.terminating = true) :
    Kept { w with
      namespaces := w.namespaces.erase nameSpace
      templates := w.templates.removeWhere (·.1 = nameSpace)
      pods := w.pods.filter (·.nameSpace ≠ nameSpace) } := by
  have hgone : ∀ x ∈ w.templates.history, x.1.2 ∉ w.named → x.1.1 ≠ nameSpace := by
    intro x hx hnamed heq
    obtain ⟨⟨ns', hns', hlive⟩, -⟩ := h.templates x hx hnamed
    rw [heq, hns] at hns'
    cases hns'
    rw [hterm] at hlive
    cases hlive
  refine ⟨h.sound.removeWhere _, ?_, ?_,
    fun pod hpod => h.started pod (mem_of_mem_filter hpod), h.made,
    h.podNames, h.created⟩
  · intro x hx hnamed
    have hne := hgone x hx hnamed
    obtain ⟨⟨ns', hns', hlive⟩, hsome⟩ := h.templates x hx hnamed
    refine ⟨⟨ns', ?_, hlive⟩, ?_⟩
    · rw [get_erase_ne _ (Ne.symm hne)]
      exact hns'
    · simpa [removeWhere, hne] using hsome
  · intro pod hpod hnamed
    refine mem_filter.mpr ⟨h.pods pod hpod hnamed, ?_⟩
    obtain ⟨x, hx, hkey⟩ := h.made pod hpod
    have hne := hgone x hx (by rw [hkey]; exact hnamed)
    rw [hkey] at hne
    exact decide_eq_true hne

lemma World.Kept.put (h : w.Kept) {key : TemplateKey}
    {templates : ObjectStore TemplateKey SandboxTemplate} (hsound : templates.Sound)
    {o : Object SandboxTemplate} (hput : templates = w.templates.put key o)
    (halive : key.2 ∉ w.named → w.Alive key.1) : Kept { w with templates } := by
  have hsub : ∀ x ∈ w.templates.history, x ∈ templates.history := by
    rw [hput]
    exact fun x hx => mem_cons_of_mem _ hx
  refine ⟨hsound, ?_, h.pods, h.started, ?_, h.podNames, ?_⟩
  · intro x hx hnamed
    rw [hput] at hx ⊢
    dsimp only
    by_cases hkey : x.1 = key
    · rw [hkey]
      exact ⟨halive (by rw [← hkey]; exact hnamed), by rw [ObjectStore.objects_put]; rfl⟩
    have hx : x ∈ w.templates.history := by
      rcases mem_cons.mp hx with rfl | hx
      · exact absurd rfl hkey
      · exact hx
    obtain ⟨halive', hsome⟩ := h.templates x hx hnamed
    exact ⟨halive', by simpa [ObjectStore.put, Function.update_of_ne hkey] using hsome⟩
  · intro pod hpod
    obtain ⟨x, hx, hkey⟩ := h.made pod hpod
    exact ⟨x, hsub x hx, hkey⟩
  · intro key' hkey'
    obtain ⟨x, hx, hkey⟩ := h.created key' hkey'
    exact ⟨x, hsub x hx, hkey⟩

/-! ## The steps -/

lemma World.Inv.create (h : w.Inv) {template : SandboxTemplate}
    (hfree : ∀ p ∈ w.calls.toList, ¬ p.2.Empties template.nameSpace template.name)
    (fault : Option Fault) : (w.create n template fault).Inv := by
  unfold World.create
  dsimp only
  split
  · exact h.fail ..
  split
  · exact h.fail ..
  rename_i halive
  rw [not_not] at halive
  split
  · exact h.fail ..
  have hmade : Inv { w with templates := w.templates.create (template.nameSpace, template.name)
                              template.withDefaults } := by
    refine ⟨h.kept.put (h.kept.sound.create ..) rfl fun _ => halive, ?_⟩
    intro n s hs
    exact (h.calls n s hs).put (.inr (hfree (n, s) ((mem_toList ..).mpr hs))) _
  split
  · exact hmade.fail ..
  refine goOn ⟨{ hmade.kept with created := forall_mem_cons.mpr ⟨?_, hmade.kept.created⟩ },
    hmade.calls⟩ trivial
  exact ⟨_, mem_cons_self, rfl⟩

lemma World.Inv.update (h : w.Inv) (template : SandboxTemplate) (key : TemplateKey)
    (current : Object SandboxTemplate) (fault : Option Fault) :
    (w.update n template key current fault).Inv := by
  unfold World.update
  split
  · exact h.fail ..
  split
  · rename_i hcur
    obtain ⟨cur, hcur, huid, -⟩ := hcur
    have hstored := h.kept.sound.stored key cur hcur
    have hwritten : Inv
        { w with templates := w.templates.write key current.uid
                   { template with nameSpace := key.1 } } := by
      rw [← huid]
      refine ⟨h.kept.put (h.kept.sound.write hcur _) rfl fun hnamed =>
        (h.kept.templates _ hstored hnamed).1, ?_⟩
      intro n s hs
      exact (h.calls n s hs).put (.inl ⟨_, hstored, rfl⟩) _
    dsimp only
    split
    · exact hwritten.fail ..
    · exact hwritten.goOn trivial
  · exact h.fail ..

lemma World.Inv.found (h : w.Inv) (hid : id ∈ w.named)
    (existing : Option (TemplateKey × Object SandboxTemplate)) : (w.found n id existing).Inv := by
  unfold World.found
  split
  · exact h.goOn trivial
  split <;> exact h.goOn hid

/-- Where the server lists no other template, every template that was ever there is named. -/
lemma World.Inv.named_of_no_others (h : w.Inv) (hid : id ∈ w.named)
    (hnone : ¬ w.hasOtherTemplates nameSpace id = true) :
    ∀ x ∈ w.templates.history, x.1.1 = nameSpace → x.1.2 ∈ w.named := by
  intro x hx hns
  by_contra hnamed
  refine hnone (any_eq_true.mpr ⟨x, hx, ?_⟩)
  have hne : x.1.2 ≠ id := by
    rintro rfl
    exact hnamed hid
  exact decide_eq_true ⟨hns, hne, (h.kept.templates x hx hnamed).2⟩

lemma World.Inv.listed_pods (h : w.Inv) (id nameSpace : GoString) :
    ∀ name ∈ w.deletedNames id nameSpace, ∃ pod ∈ w.started,
      pod.nameSpace = nameSpace ∧ pod.name = name ∧ pod.templateID = id := by
  intro name hname
  obtain ⟨pod, hpod, rfl⟩ := mem_map.mp hname
  obtain ⟨hmem, hselected⟩ := mem_filter.mp hpod
  have hselected := of_decide_eq_true hselected
  exact ⟨pod, h.kept.started pod hmem, hselected.1, rfl, hselected.2.1⟩

lemma World.Inv.startPod (h : w.Inv) {pod : TemplatePod}
    (hnames : ∀ other ∈ w.started, other.nameSpace = pod.nameSpace → other.name = pod.name →
      other.templateID = pod.templateID)
    (hsome : (w.templates.objects (pod.nameSpace, pod.templateID)).isSome) :
    Inv { w with pods := pod :: w.pods, started := pod :: w.started } := by
  refine ⟨{ h.kept with pods := ?_, started := ?_, made := ?_, podNames := ?_ },
    fun n s hs => (h.calls n s hs).mono (List.Subset.refl _) (subset_cons_self ..)⟩
  · intro pod' hpod' hnamed
    rcases mem_cons.mp hpod' with rfl | hpod'
    · exact mem_cons_self
    · exact mem_cons_of_mem _ (h.kept.pods pod' hpod' hnamed)
  · intro pod' hpod'
    rcases mem_cons.mp hpod' with rfl | hpod'
    · exact mem_cons_self
    · exact mem_cons_of_mem _ (h.kept.started pod' hpod')
  · obtain ⟨o, ho⟩ := Option.isSome_iff_exists.mp hsome
    exact forall_mem_cons.mpr ⟨⟨_, h.kept.sound.stored _ o ho, rfl⟩, h.kept.made⟩
  · intro a ha b hb hns hname
    rcases mem_cons.mp ha with rfl | ha' <;> rcases mem_cons.mp hb with rfl | hb'
    · rfl
    · exact (hnames b hb' hns.symm hname.symm).symm
    · exact hnames a ha' hns hname
    · exact h.kept.podNames a ha' b hb' hns hname

lemma World.Inv.asked (h : w.Inv) (id : GoString) : Inv { w with named := id :: w.named } := by
  have hsub : ∀ name, name ∉ id :: w.named → name ∉ w.named := fun name hname hmem =>
    hname (mem_cons_of_mem _ hmem)
  refine ⟨{ h.kept with
    templates := fun x hx hx' => h.kept.templates x hx (hsub _ hx')
    pods := fun pod hpod hpod' => h.kept.pods pod hpod (hsub _ hpod') }, ?_⟩
  exact fun n s hs => (h.calls n s hs).mono (subset_cons_self ..) (List.Subset.refl _)

lemma World.terminate_frame (w : World) (nameSpace : GoString) :
    (w.terminate nameSpace).calls = w.calls ∧ (w.terminate nameSpace).templates = w.templates ∧
      (w.terminate nameSpace).named = w.named ∧ (w.terminate nameSpace).started = w.started := by
  unfold terminate
  split <;> exact ⟨rfl, rfl, rfl, rfl⟩

lemma World.Inv.next (h : w.Inv) {e : Event} (hcareful : w.Careful e) : (w.next naming e).Inv := by
  cases e with rw [World.next]
  | createTemplate n template =>
    split
    · exact h
    split
    · exact h.fail ..
    · exact h.goOn trivial
  | updateTemplate n template =>
    split
    · exact h
    · exact h.goOn trivial
  | deleteTemplate n id =>
    split
    · exact h
    · exact (h.asked id).goOn (n := n) (s := .find id) mem_cons_self
  | ensure n cached =>
    split
    · split
      · exact h.fail ..
      · exact h.goOn trivial
      · exact h.goOn trivial
    · exact h
  | makeNamespace n fault =>
    split
    · rename_i template hc
      refine h.attempt (s := .baseline template) ⟨h.kept.createNamespace _, ?_⟩ trivial
      unfold createNamespace
      split <;> exact h.calls
    · exact h
  | baseline n fault =>
    split
    · split
      · exact h.fail ..
      · exact h.goOn trivial
    · exact h
  | create n fault =>
    unfold Careful at hcareful
    dsimp only at hcareful
    split
    · rename_i template hc
      rw [hc] at hcareful
      exact h.create hcareful fault
    · exact h
  | find n fault cache =>
    split
    · split
      · exact h.fail ..
      split
      · exact h.fail ..
      · exact h.goOn trivial
    · rename_i id hc
      split
      · exact h.fail ..
      · exact h.found (h.calls n _ hc) _
    · exact h
  | update n fault =>
    split
    · exact h.update ..
    · exact h
  | managed n fault =>
    split
    · rename_i id nameSpace hc
      have hid : id ∈ w.named := h.calls n _ hc
      split
      · exact h.fail ..
      split <;> exact h.goOn hid
    · exact h
  | list n fault =>
    split
    · rename_i id nameSpace hc
      have hid : id ∈ w.named := h.calls n _ hc
      split
      · exact h.fail ..
      split
      · exact h.goOn hid
      · rename_i hnone
        exact h.goOn ⟨hid, h.named_of_no_others hid hnone⟩
    · exact h
  | deleteNamespace n fault =>
    split
    · rename_i id nameSpace hc
      obtain ⟨hid, hnamed⟩ := h.calls n _ hc
      obtain ⟨hcalls, htemplates, hnames, hstarted⟩ := w.terminate_frame nameSpace
      refine h.attempt ⟨h.kept.terminate hnamed, ?_⟩ ?_
      · rw [hcalls, htemplates, hnames, hstarted]
        exact h.calls
      · rw [hnames]
        exact hid
    · exact h
  | delete n fault =>
    split
    · rename_i id nameSpace hc
      have hid : id ∈ w.named := h.calls n _ hc
      refine h.attempt ⟨h.kept.removeTemplate hid nameSpace, h.calls⟩ ?_
      split
      · trivial
      · exact hid
    · exact h
  | listPods n fault =>
    split
    · rename_i id nameSpace hc
      split
      · exact h.fail ..
      · exact h.goOn ⟨h.calls n _ hc, h.listed_pods id nameSpace⟩
    · exact h
  | deletePod n fault =>
    split
    · exact h.goOn trivial
    · rename_i id nameSpace name rest hc
      obtain ⟨hid, howned⟩ := h.calls n _ hc
      refine h.attempt ⟨h.kept.dropPod hid ?_, h.calls⟩
        ⟨hid, fun name hname => howned name (mem_cons_of_mem _ hname)⟩
      intro pod hpod hns hname
      obtain ⟨other, hother, hns', hname', hid'⟩ := howned name mem_cons_self
      rw [← hid']
      exact h.kept.podNames pod hpod other hother (hns.trans hns'.symm) (hname.trans hname'.symm)
    · exact h
  | startPod pod =>
    split
    · rename_i hstart
      exact h.startPod hcareful hstart.2.1
    · exact h
  | finalize nameSpace =>
    split
    · exact h
    rename_i ns hns
    split
    · rename_i hterm
      exact ⟨h.kept.finalize hns hterm, h.calls⟩
    · exact h

lemma World.Started.inv (h : w.Started) : w.Inv := by
  obtain ⟨hhistory, hsound, hpods, hcalls, hcreated, hnamed, hstarted⟩ := h
  refine ⟨⟨hsound, ?_, ?_, ?_, ?_, ?_, ?_⟩, ?_⟩
  · simp [hhistory]
  · simp [hstarted]
  · simp [hpods]
  · simp [hstarted]
  · simp [hstarted]
  · simp [hcreated]
  · simp [hcalls]

lemma World.Reached.inv (h : Reached naming w) : w.Inv := by
  exact Reach.keeps (fun w hw => hw.inv) (fun w e hw hcareful => hw.next hcareful) h

/-- A template that was created keeps its namespace, its resource and its pods. -/
def World.Stands (w : World) (key : TemplateKey) : Prop :=
  w.Alive key.1 ∧ (w.templates.objects key).isSome ∧
    ∀ pod ∈ w.started, pod.nameSpace = key.1 → pod.templateID = key.2 → pod ∈ w.pods

instance (w : World) (key : TemplateKey) : Decidable (w.Stands key) :=
  inferInstanceAs (Decidable (w.Alive key.1 ∧ _ ∧ ∀ pod ∈ w.started, _))

/-- In every run in which no template is created between the list and the namespace deletion
of another template's `DeleteTemplate`, and no pod gets the name of another template's
pod, a template whose `CreateTemplate` succeeded and which no `DeleteTemplate` names
keeps its namespace, its resource and its pods. -/
theorem other_templates_stand (naming : Naming) (w : World) (h : World.Reached naming w) :
    ∀ key ∈ w.created, key.2 ∉ w.named → w.Stands key := by
  intro key hkey hnamed
  have hinv := h.inv
  obtain ⟨x, hx, rfl⟩ := hinv.kept.created key hkey
  obtain ⟨halive, hsome⟩ := hinv.kept.templates x hx hnamed
  refine ⟨halive, hsome, fun pod hpod _ hid => ?_⟩
  exact hinv.kept.pods pod hpod (by rw [hid]; exact hnamed)

/-- Every team has one namespace. -/
def oneNamespace : Naming where
  namespaceForTeam _ := .ok (lit "tpl-team")
  namespaceForBuiltin _ := .ok (lit "tpl-builtin")

def teamTemplate (name : GoString) : SandboxTemplate where
  nameSpace := []
  name := name
  scope := lit "team"
  teamID := lit "team"
  minIdle := 1
  maxIdle := 2

def emptyWorld : World where
  namespaces := ∅
  templates := .empty
  pods := []
  calls := ∅
  created := []
  named := []
  started := []

lemma emptyWorld_started : emptyWorld.Started :=
  ⟨rfl, sound_empty, rfl, rfl, rfl, rfl, rfl⟩

/-- The steps of a `CreateTemplate` up to its last one. -/
def creating (n : Nat) (name : GoString) (cached : Bool) : List Event :=
  .createTemplate n (teamTemplate name) :: .ensure n (.ok cached) ::
    (if cached then [.baseline n none] else [.makeNamespace n none, .baseline n none])

/-- Two templates of a team are created, one of them gets a pod, and the other is deleted. -/
def deleteOneOfTwo : List Event :=
  creating 1 (lit "a") false ++ [.create 1 none] ++ creating 2 (lit "b") true ++
    [.create 2 none, .startPod ⟨lit "tpl-team", lit "rs-b-1", lit "b", lit "idle"⟩,
      .deleteTemplate 3 (lit "a"),
      .find 3 none [1], .managed 3 none, .list 3 none, .delete 3 none, .listPods 3 none,
      .deletePod 3 none]

/-- The template that is left stands. -/
theorem other_templates_stand_after_a_delete :
    (lit "tpl-team", lit "b") ∈
      (deleteOneOfTwo.foldl (World.next oneNamespace) emptyWorld).created ∧
      (deleteOneOfTwo.foldl (World.next oneNamespace) emptyWorld).Stands
        (lit "tpl-team", lit "b") := by
  have hreached : Reached oneNamespace
    (deleteOneOfTwo.foldl (World.next oneNamespace) emptyWorld) :=
    Reach.run (.start emptyWorld_started) deleteOneOfTwo (by decide +kernel)
  have hcreated : (lit "tpl-team", lit "b") ∈
      (deleteOneOfTwo.foldl (World.next oneNamespace) emptyWorld).created := by decide +kernel
  exact ⟨hcreated, other_templates_stand oneNamespace _ hreached _ hcreated (by decide +kernel)⟩

/-- The other template is created after the list of the call that deletes the first one. -/
def createDuringDelete : List Event :=
  creating 1 (lit "a") false ++ [.create 1 none] ++ creating 2 (lit "b") true ++
    [.deleteTemplate 3 (lit "a"), .find 3 none [0], .managed 3 none, .list 3 none, .create 2 none,
      .deleteNamespace 3 none, .finalize (lit "tpl-team")]

/-- Its `CreateTemplate` succeeds, and it goes with the namespace. -/
theorem template_goes_with_the_namespace :
    let w := createDuringDelete.foldl (World.next oneNamespace) emptyWorld
    (lit "tpl-team", lit "b") ∈ w.created ∧ lit "b" ∉ w.named ∧ w.calls[2]? = some (.done none) ∧
      (w.templates.objects (lit "tpl-team", lit "b")).isNone ∧
      ¬ w.Stands (lit "tpl-team", lit "b") := by
  decide +kernel

end sandbox0.templateservice
