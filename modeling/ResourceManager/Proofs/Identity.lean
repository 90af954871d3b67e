import ResourceManager.Proofs.Resolution
import ResourceManager.Proofs.Run
import ResourceManager.Resource.Identity

/-!
# Identities of created resources

A call that creates or changes a resource gives the id that the service has sent or, when there is
none, the path that was called.  Such a path reads as an identity (`ResourceIdentity.parse?_text`),
but an identity has room for a resource of a group and for an instance of a scale set only.  So a
path that goes on in another way, to an extension, a command or a container, is read as the identity
of the resource above: `Invocation.identity_of_fallback` says which paths an identity gives back,
and what it gives for the others.
-/

set_option autoImplicit false

namespace ResourceManager

/-! ## Reading a path

A reader takes slashes off both ends and cuts at the others.  A path has one in front, and none at
its end unless its last name is empty.
-/

namespace Text

theorem trimEnd_of_getLast? {p : Char → Bool} {s : List Char}
    (h : ∀ c, s.getLast? = some c → p c = false) : trimEnd p s = s := by
  rw [trimEnd]
  rcases List.eq_nil_or_concat s with rfl | ⟨before, last, rfl⟩
  · rfl
  · have hlast : p last = false := h last (by simp)
    simp [hlast]

/-- A separator before a text is all that is trimmed. -/
theorem trimBoth_cons {p : Char → Bool} {separator c : Char} {s : List Char}
    (hseparator : p separator = true) (hfirst : p c = false)
    (hlast : ∀ d, (c :: s).getLast? = some d → p d = false) :
    trimBoth p (separator :: c :: s) = c :: s := by
  rw [trimBoth, List.dropWhile_cons_of_pos hseparator,
    List.dropWhile_cons_of_neg (Bool.not_eq_true _ ▸ hfirst), trimEnd_of_getLast? hlast]

end Text

theorem PathSegment.toList_text_ne_nil {segment : PathSegment} (h : segment.IsPlain)
    (hvalue : segment.value ≠ "") : segment.text.toList ≠ [] := by
  have hempty : Percent.encodeSegment "" = "" := by decide
  rw [text_eq_encodeSegment h, Ne, String.toList_eq_nil_iff, ← hempty,
    Percent.encodeSegment_injective.eq_iff]
  exact hvalue

namespace ResourcePath

variable {p : ResourcePath}

/-- A path does not end in a slash when its segments are not empty. -/
theorem ne_slash_of_getLast? (h : p.IsPlain)
    (hvalues : ∀ segment ∈ p.segments, segment.value ≠ "") {c : Char}
    (hc : p.toList.getLast? = some c) : (c == '/') = false := by
  rcases List.eq_nil_or_concat p.segments with hnil | ⟨before, last, hsegments⟩
  · rw [toList, hnil] at hc
    cases hc
  · rw [List.concat_eq_append] at hsegments
    have hmem : last ∈ p.segments := by simp [hsegments]
    have hne := PathSegment.toList_text_ne_nil (h last hmem) (hvalues last hmem)
    have hclast : last.text.toList.getLast? = some c := by
      rw [toList, hsegments, List.flatMap_append, List.flatMap_singleton,
        List.getLast?_append] at hc
      simpa [List.getLast?_cons, List.getLast?_eq_some_getLast hne] using hc
    have hchar := PathSegment.isSegmentChar_of_mem_text (h last hmem) (List.mem_of_getLast? hclast)
    exact beq_eq_false_iff_ne.mpr (Percent.ne_of_isSegmentChar hchar (by decide))

/-- The pieces of a path are what its segments stand for. -/
theorem pieces_text (h : p.IsPlain) (hne : p.segments ≠ [])
    (hvalues : ∀ segment ∈ p.segments, segment.value ≠ "") :
    ResourceIdentity.pieces p.text = p.segments.map PathSegment.value := by
  obtain ⟨first, others, hsegments⟩ := List.exists_cons_of_ne_nil hne
  have hmem : first ∈ p.segments := by simp [hsegments]
  obtain ⟨c, rest, htext⟩ := List.exists_cons_of_ne_nil
    (PathSegment.toList_text_ne_nil (h first hmem) (hvalues first hmem))
  have hc : (c == '/') = false := by
    have hchar : Percent.isSegmentChar c = true :=
      PathSegment.isSegmentChar_of_mem_text (h first hmem) (htext ▸ List.mem_cons_self)
    exact beq_eq_false_iff_ne.mpr (Percent.ne_of_isSegmentChar hchar (by decide))
  obtain ⟨behind, hlist⟩ : ∃ behind, p.toList = '/' :: c :: behind := by
    rw [toList, hsegments, List.flatMap_cons, htext]
    exact ⟨_, rfl⟩
  have htrim : Text.trimBoth (· == '/') p.toList = c :: behind := by
    rw [hlist]
    refine Text.trimBoth_cons (by decide) hc fun d hd ↦ ?_
    refine ne_slash_of_getLast? h hvalues ?_
    rw [hlist, List.getLast?_cons_cons, hd]
  have hpieces := pieces_toList h
  rw [hlist, Text.pieces, if_pos (by decide), List.cons.injEq] at hpieces
  rw [ResourceIdentity.pieces, text_toList, htrim, hpieces.2, parts, List.map_map]
  refine List.map_congr_left fun segment hsegment ↦ ?_
  rw [Function.comp_apply, PathSegment.decodeSegment_text (h segment hsegment),
    String.ofList_toList]

theorem text_ne_text_append {more : List PathSegment} (h : more ≠ []) :
    p.text ≠ (p.append more).text := by
  intro htext
  obtain ⟨first, others, rfl⟩ := List.exists_cons_of_ne_nil h
  have hlength : p.toList.length = (p.append (first :: others)).toList.length := by
    rw [← text_toList, ← text_toList, htext]
  simp [append, toList] at hlength

/-! ## Resources of groups

An identity has eight pieces, or ten with an instance.  Whatever else a path has behind the eight is
read over.
-/

/-- A resource of a group. -/
def resource (subscription group provider type name : String) : ResourcePath :=
  (((ResourcePath.subscription subscription).resourceGroup group).provider provider).child type name

end ResourcePath

namespace ResourceIdentity

variable {subscription group provider type name : String}

/-- What stands behind a resource of a group counts only when it names an instance. -/
theorem parse?_text {more : List PathSegment}
    (h : ((ResourcePath.resource subscription group provider type name).append more).IsPlain)
    (hvalues : ∀ segment ∈
      ((ResourcePath.resource subscription group provider type name).append more).segments,
      segment.value ≠ "") :
    parse? ((ResourcePath.resource subscription group provider type name).append more).text =
      some ⟨subscription, group, provider, type, name,
        instanceOf? (more.map PathSegment.value)⟩ := by
  rw [parse?, ResourcePath.pieces_text h (List.cons_ne_nil _ _) hvalues]
  show ofPieces? ("subscriptions" :: subscription :: "resourceGroups" :: group :: "providers" ::
    provider :: type :: name :: more.map PathSegment.value) = _
  simp [ofPieces?, Text.sameIgnoringCase_refl]

/-- The templates of the paths that an identity has room for. -/
def addressed : List Template :=
  [VirtualMachine.machine, ScaleSet.scaleSet, ScaleSetMachine.machine, StorageAccount.account]

/-- Only the word for instances names one. -/
theorem instanceOf?_below {words others : List String}
    (hwords : words ∈ [["extensions"], ["runCommands"], ["blobServices", "default", "containers"]])
    (hothers : others.length = Template.names (words.map .fixed ++ [.name])) :
    instanceOf? ((Template.fill (words.map .fixed ++ [.name]) others).map PathSegment.value) =
      none := by
  simp only [List.mem_cons, List.not_mem_nil, or_false] at hwords
  rcases hwords with rfl | rfl | rfl <;>
  · obtain ⟨id, rfl⟩ := List.length_eq_one_iff.mp hothers
    rfl

end ResourceIdentity

/-! ## Calls that give an id

Which templates such calls have is checked on the catalogue once; the rest is about templates of
these three forms.
-/

theorem Template.fill_ne_nil {t : Template} (h : t ≠ []) (names : List String) :
    t.fill names ≠ [] := by
  obtain ⟨x, rest, rfl⟩ := List.exists_cons_of_ne_nil h
  obtain ⟨segment, names', hfill⟩ := fill_cons x rest names
  rw [hfill]
  exact List.cons_ne_nil _ _

/-- The template of a resource of a group. -/
def Template.resource (s : Service) (type : String) : Template := ofGroup s ++ [.fixed type, .name]

/-- A completed call knows the path that was submitted. -/
theorem Client.path_of_invoke {c : Client} {o : PollOptions} {spec : OperationSpec}
    {s s' : Session} {completion : Completion}
    (h : (c.invoke o spec).outcome s = (.ok completion, s')) : completion.path = spec.path := by
  rw [invoke] at h
  split at h
  · obtain ⟨poller, s₁, -, hrest⟩ := Run.outcome_bind_eq_ok.mp h
    obtain ⟨body, s₂, -, hpure⟩ := Run.outcome_bind_eq_ok.mp hrest
    obtain ⟨rfl, -⟩ := Run.outcome_pure_eq_ok.mp hpure
    rfl
  · obtain ⟨reply, s₁, -, hpure⟩ := Run.outcome_bind_eq_ok.mp h
    obtain ⟨rfl, -⟩ := Run.outcome_pure_eq_ok.mp hpure
    rfl

namespace Operation

/-- What gives an id is about a resource of a group, about an instance, or about something else
below a resource. -/
theorem path_of_resourceId : ∀ op ∈ catalogue, op.result = .resourceId →
    ∃ service ∈ [Service.compute, .storage],
      ∃ type ∈ ["virtualMachines", "virtualMachineScaleSets", "storageAccounts"],
        op.path = Template.resource service type ∧ op.path ∈ ResourceIdentity.addressed ∨
        op.path = Template.resource service type ++ Template.child "virtualMachines" ∧
          op.path ∈ ResourceIdentity.addressed ∨
        ∃ words ∈ [["extensions"], ["runCommands"], ["blobServices", "default", "containers"]],
          op.path = Template.resource service type ++ (words.map .fixed ++ [.name]) ∧
            op.path ∉ ResourceIdentity.addressed := by
  decide +kernel

/-- A call that gives an id gives the one of the payload, else the path that was submitted. -/
theorem call_eq_ok {c : Client} {o : PollOptions} {op : Operation} {subscription : String}
    {names : List String} {value : op.extra.Value} {s s' : Session} {result : CallResult}
    (hresult : op.result = .resourceId)
    (h : (op.call c o subscription names value).outcome s = (.ok result, s')) :
    ∃ completion,
      (c.invoke o (op.spec subscription names value)).outcome s = (.ok completion, s') ∧
        result = .resourceId
          ((Completion.idOf? completion.body).getD (op.spec subscription names value).path) := by
  have hcall : op.call c o subscription names value =
      c.invoke o (op.spec subscription names value) >>= fun completion ↦
        pure (op.resultOf completion) :=
    if_neg (by rw [hresult]; exact nofun)
  rw [hcall] at h
  obtain ⟨completion, s₁, hinvoke, hpure⟩ := Run.outcome_bind_eq_ok.mp h
  obtain ⟨rfl, rfl⟩ := Run.outcome_pure_eq_ok.mp hpure
  refine ⟨completion, hinvoke, ?_⟩
  rw [resultOf, hresult, ← Client.path_of_invoke hinvoke]
  rfl

end Operation

namespace Invocation

/-- No segment of a path is empty when no name is. -/
theorem value_ne_empty (a : Invocation) (hnames : ∀ name ∈ a.subscription :: a.names, name ≠ "") :
    ∀ segment ∈ a.path.segments, segment.value ≠ "" := by
  have hbuilt : a.path.Built := Operation.built_pathOf a.known a.subscription a.names
  intro segment hmem
  cases segment with
  | fixed word => exact (hbuilt.isWord_of_mem hmem).solid.1
  | named name => exact hnames name ((Template.named_mem_fill_iff a.length_identifiers).mp hmem)

/-- The path of a call that is about a resource of a group or about something below it. -/
theorem path_eq_append (a : Invocation) {service : Service} {type : String} {more : Template}
    (h : a.op.path = Template.resource service type ++ more) :
    ∃ group name others, a.names = group :: name :: others ∧ others.length = more.names ∧
      a.path = (ResourcePath.resource a.subscription group service.provider type name).append
        (more.fill others) := by
  have hcount : Template.names (Template.resource service type) = 3 := rfl
  have hlength := a.length_identifiers
  rw [h, Template.names, List.count_append, ← Template.names, hcount, List.length_cons] at hlength
  obtain ⟨group, rest, hgroup⟩ := List.exists_cons_of_length_pos
    (show 0 < a.names.length by omega)
  rw [hgroup, List.length_cons] at hlength
  obtain ⟨name, others, hname⟩ := List.exists_cons_of_length_pos (show 0 < rest.length by omega)
  rw [hname, List.length_cons] at hlength
  refine ⟨group, name, others, by rw [hgroup, hname], ?_, ?_⟩
  · rw [Template.names]
    omega
  · rw [path, Operation.pathOf, h, hgroup, hname]
    rfl

/-- The identity that the path of a call reads as. -/
theorem parse?_path (a : Invocation) (hnames : ∀ name ∈ a.subscription :: a.names, name ≠ "")
    {service : Service} {type group name : String} {more : List PathSegment}
    (h : a.path = (ResourcePath.resource a.subscription group service.provider type name).append
      more) :
    ResourceIdentity.parse? a.spec.path =
      some ⟨a.subscription, group, service.provider, type, name,
        ResourceIdentity.instanceOf? (more.map PathSegment.value)⟩ := by
  have hplain := a.isPlain_path
  have hvalues := a.value_ne_empty hnames
  rw [path_spec]
  rw [h] at hplain hvalues ⊢
  exact ResourceIdentity.parse?_text hplain hvalues

/-- **What the path of a created resource identifies.**  A call that gives an id gives that of the
payload, else its own path.  This path always reads as an identity.  The path of the identity is the
same path for machines, scale sets, instances of scale sets and storage accounts, and for these
only: an extension, a command or a container is taken for the resource it belongs to. -/
theorem identity_of_fallback {a : Invocation} (hresult : a.op.result = .resourceId)
    (hnames : ∀ name ∈ a.subscription :: a.names, name ≠ "") :
    (∀ c o s s' result,
      (a.op.call c o a.subscription a.names a.value).outcome s = (.ok result, s') →
        ∃ completion, (c.invoke o a.spec).outcome s = (.ok completion, s') ∧
          result = .resourceId ((Completion.idOf? completion.body).getD a.spec.path)) ∧
      ∃ identity, ResourceIdentity.parse? a.spec.path = some identity ∧
        (identity.path.text = a.spec.path ↔ a.op.path ∈ ResourceIdentity.addressed) ∧
        (a.op.path ∉ ResourceIdentity.addressed → identity.path = ⟨a.path.segments.take 8⟩) := by
  refine ⟨fun c o s s' result h ↦ Operation.call_eq_ok hresult h, ?_⟩
  obtain ⟨service, -, type, -, hkind⟩ := Operation.path_of_resourceId a.op a.known hresult
  rcases hkind with ⟨htemplate, hroom⟩ | ⟨htemplate, hroom⟩ | ⟨words, hwords, htemplate, hroom⟩
  · -- a resource of a group
    rw [← List.append_nil (Template.resource service type)] at htemplate
    obtain ⟨group, name, others, -, -, hpath⟩ := a.path_eq_append htemplate
    refine ⟨_, a.parse?_path hnames hpath, ⟨fun _ ↦ hroom, fun _ ↦ ?_⟩, fun h ↦ absurd hroom h⟩
    rw [path_spec, hpath]
    rfl
  · -- an instance of a scale set
    obtain ⟨group, name, others, -, hothers, hpath⟩ := a.path_eq_append htemplate
    obtain ⟨id, rfl⟩ := List.length_eq_one_iff.mp hothers
    refine ⟨_, a.parse?_path hnames hpath, ⟨fun _ ↦ hroom, fun _ ↦ ?_⟩, fun h ↦ absurd hroom h⟩
    rw [path_spec, hpath]
    rfl
  · -- anything else below a resource
    obtain ⟨group, name, others, -, hothers, hpath⟩ := a.path_eq_append htemplate
    have hinstance := ResourceIdentity.instanceOf?_below hwords hothers
    have hne : Template.fill (words.map .fixed ++ [.name]) others ≠ [] :=
      Template.fill_ne_nil (List.append_ne_nil_of_right_ne_nil _ (List.cons_ne_nil _ _)) others
    have hparse := a.parse?_path hnames hpath
    rw [hinstance] at hparse
    refine ⟨_, hparse, ⟨fun h ↦ ?_, fun h ↦ absurd h hroom⟩, fun _ ↦ ?_⟩
    · rw [path_spec, hpath] at h
      exact absurd h (ResourcePath.text_ne_text_append hne)
    · rw [hpath]
      rfl

/-- The path of an instance of a scale set comes back from its identity. -/
theorem identity_of_instance :
    ∃ a : Invocation, a.op = ScaleSetMachine.update ∧
      a.spec.path = "/subscriptions/s/resourceGroups/rg/providers/Microsoft.Compute" ++
        "/virtualMachineScaleSets/ss/virtualMachines/7" ∧
      ∃ identity, ResourceIdentity.parse? a.spec.path = some identity ∧
        identity.path.text = a.spec.path := by
  let a : Invocation :=
    ⟨ScaleSetMachine.update, by decide +kernel, "s", ["rg", "ss", "7"], rfl, Json.null⟩
  obtain ⟨-, identity, hparse, hpath, -⟩ :=
    identity_of_fallback (a := a) rfl (by decide)
  exact ⟨a, rfl, by decide +kernel, identity, hparse, hpath.mpr (by decide +kernel)⟩

/-- An extension of a machine is taken for the machine. -/
theorem identity_of_extension :
    ResourceIdentity.parse? (VirtualMachineExtension.createOrUpdate.spec "s" ["rg", "vm", "ext"]
        Json.null).path =
      some ⟨"s", "rg", "Microsoft.Compute", "virtualMachines", "vm", none⟩ ∧
    (ResourceIdentity.path ⟨"s", "rg", "Microsoft.Compute", "virtualMachines", "vm", none⟩).text ≠
      (VirtualMachineExtension.createOrUpdate.spec "s" ["rg", "vm", "ext"] Json.null).path := by
  decide +kernel

end Invocation

end ResourceManager
