import RouteDocs.Proofs.Expansion
import RouteDocs.Proofs.Responses

namespace RouteDocs

namespace Expansion

/-- The fields whose types are models. -/
def models (e : Expansion) : List Field := e.fields.filter fun f => !TypeName.isPrimitive f.type

/-- A property for each field, of a primitive kind. -/
def properties (e : Expansion) : List (String × Fragment) :=
  e.fields.map fun f => (f.name, .primitive (TypeName.jsonType f.type) (Description.rendered f.description))

end Expansion

/-- A schema stands for what a return tag declares in brackets, if it declares anything. -/
inductive Fragment.StandsFor : Fragment → Option Expansion → Prop where
  | undeclared : StandsFor .empty none
  | model {e : Expansion} {m : Field} (only : e.models = [m]) :
    StandsFor (.modelRef (TypeName.reference m.type)) (some e)
  | choice {e : Expansion} (several : 2 ≤ e.models.length) :
    StandsFor (.anyOf (e.models.map fun m => .modelRef (TypeName.reference m.type))) (some e)
  | object {e : Expansion} (unmodeled : e.models = []) (declared : e.fields ≠ []) (single : e.isArray = false) :
    StandsFor (.object e.properties []) (some e)
  | array {e : Expansion} (unmodeled : e.models = []) (declared : e.fields ≠ []) (marked : e.isArray = true) :
    StandsFor (.arrayOf (.object e.properties [])) (some e)

/-- At most one schema stands for a declaration. -/
theorem Fragment.StandsFor.unique {f g : Fragment} {e? : Option Expansion} (hf : f.StandsFor e?)
    (hg : g.StandsFor e?) : f = g := by
  cases hf with
  | undeclared =>
    cases hg
    rfl
  | model only => cases hg <;> simp_all
  | choice several => cases hg <;> simp_all
  | object unmodeled declared single => cases hg <;> simp_all
  | array unmodeled declared marked => cases hg <;> simp_all

/-- A choice has at least two members, and all of them are models. -/
theorem Fragment.StandsFor.choice_members {fs : List Fragment} {e? : Option Expansion}
    (h : (Fragment.anyOf fs).StandsFor e?) :
    (∃ e, e? = some e ∧ 2 ≤ e.models.length) ∧ 2 ≤ fs.length ∧ ∀ f ∈ fs, ∃ reference, f = .modelRef reference := by
  cases h with
  | choice several =>
    refine ⟨⟨_, rfl, several⟩, by simpa using several, ?_⟩
    intro f hf
    obtain ⟨m, -, rfl⟩ := List.mem_map.1 hf
    exact ⟨_, rfl⟩

namespace Responses

namespace Return

variable {r : Return} {e : Expansion}

theorem models_eq (h : r.expansion = some e) : r.models = e.models.map (·.type) := by
  simp only [models, fields, h, Option.map_some, Option.getD_some, Expansion.models, List.filter_map]
  rfl

theorem properties_eq (h : r.expansion = some e) (hm : e.models = []) :
    r.properties = e.properties := by
  have hall : e.fields.filter (fun f => TypeName.isPrimitive f.type) = e.fields := by
    rw [List.filter_eq_self]
    simpa [Expansion.models, List.filter_eq_nil_iff] using hm
  simp only [properties, fields, h, Option.map_some, Option.getD_some, hall, Expansion.properties, Fragment.property]

theorem isArray_eq (h : r.expansion = some e) : r.isArray = e.isArray := by
  simp only [isArray, h, Option.any_some]

theorem schema_undeclared (h : r.expansion = none) : r.schema = .empty := by
  simp [schema, models, properties, fields, h]

/-- The schema of a return tag stands for what the tag declares. -/
theorem schema_standsFor (h : ∀ e, r.expansion = some e → e.fields ≠ []) : r.schema.StandsFor r.expansion := by
  cases hx : r.expansion with
  | none =>
    rw [schema_undeclared hx]
    exact .undeclared
  | some e =>
    have hmodels := models_eq hx
    cases hm : e.models with
    | nil =>
      have hne : e.fields ≠ [] := h e hx
      have hempty : e.properties.isEmpty = false := by simpa [Expansion.properties] using hne
      rw [hm, List.map_nil] at hmodels
      simp only [schema, hmodels, properties_eq hx hm, hempty, isArray_eq hx, Bool.false_eq_true, if_false]
      cases harray : e.isArray with
      | true => exact .array hm hne harray
      | false => exact .object hm hne harray
    | cons m ms =>
      rw [hm] at hmodels
      cases ms with
      | nil =>
        simp only [schema, hmodels, List.map_cons, List.map_nil]
        exact .model hm
      | cons m' ms =>
        have hchoice : r.schema = .anyOf (e.models.map fun m => .modelRef (TypeName.reference m.type)) := by
          simp [schema, hmodels, hm]
        rw [hchoice]
        exact .choice (by simp [hm])

end Return

/-- A return tag names several models at once, and not for the elements of an array. -/
def Ambiguous (o : Outcome) : Prop :=
  ∃ e, expand (o.coded StatusCode.forReturn).2 = some e ∧ e.isArray = false ∧ 2 ≤ e.models.length

theorem isAmbiguous_iff {o : Outcome} : (Return.ofOutcome o).isAmbiguous = true ↔ Ambiguous o := by
  unfold Ambiguous
  rw [← Return.expansion_ofOutcome]
  generalize Return.ofOutcome o = r
  cases he : r.expansion with
  | none => simp [Return.isAmbiguous, Return.models, Return.fields, he]
  | some e =>
    have hiff : r.isAmbiguous = true ↔ e.isArray = false ∧ 2 ≤ e.models.length := by
      simp [Return.isAmbiguous, Return.models_eq he, Return.isArray_eq he, Nat.succ_le_iff, and_comm]
    rw [hiff]
    simp

instance (o : Outcome) : Decidable (Ambiguous o) := decidable_of_iff _ isAmbiguous_iff

variable {handler marker : String} {a : Annotation}

theorem addReturn_ambiguous {o : Outcome} (h : Ambiguous o) (rs : Responses) :
    addReturn handler marker rs o = .error (.multipleModels handler (o.coded StatusCode.forReturn).1) := by
  simp only [addReturn, isAmbiguous_iff.2 h, if_true, Return.code_ofOutcome]

theorem addReturn_unambiguous (handler marker : String) {o : Outcome} (h : ¬ Ambiguous o) (rs : Responses) :
    ∃ rs', addReturn handler marker rs o = .ok rs' := by
  rw [← isAmbiguous_iff, Bool.not_eq_true] at h
  exact ⟨_, addReturn_eq_ok_iff.2 ⟨h, rfl⟩⟩

theorem foldlM_addReturn_unambiguous (handler marker : String) {os : List Outcome}
    (h : ∀ o ∈ os, ¬ Ambiguous o) (rs : Responses) :
    ∃ rs', os.foldlM (addReturn handler marker) rs = .ok rs' := by
  induction os generalizing rs with
  | nil => exact ⟨rs, rfl⟩
  | cons o os ih =>
    obtain ⟨rs₁, h₁⟩ := addReturn_unambiguous handler marker (h o (by simp)) rs
    obtain ⟨rs₂, h₂⟩ := ih (fun o' ho' => h o' (List.mem_cons_of_mem o ho')) rs₁
    exact ⟨rs₂, by rw [List.foldlM_cons, h₁, ok_bind, h₂]⟩

theorem ofAnnotation_succeeds (handler marker : String) (h : ∀ o ∈ a.returns, ¬ Ambiguous o) :
    ∃ rs, Responses.ofAnnotation handler marker a = .ok rs := by
  obtain ⟨rs, hrs⟩ := foldlM_addReturn_unambiguous handler marker h ∅
  exact ⟨_, by rw [Responses.ofAnnotation, hrs, ok_bind, pure_eq_ok]⟩

/-- The first ambiguous tag is the failure, and no tag behind it counts. -/
theorem ofAnnotation_fails {before after : List Outcome} {o : Outcome} (hreturns : a.returns = before ++ o :: after)
    (hbefore : ∀ b ∈ before, ¬ Ambiguous b) (ho : Ambiguous o) : Responses.ofAnnotation handler marker a =
      .error (.multipleModels handler (o.coded StatusCode.forReturn).1) := by
  obtain ⟨rs, hrs⟩ := foldlM_addReturn_unambiguous handler marker hbefore ∅
  rw [Responses.ofAnnotation, hreturns, List.foldlM_append, hrs, ok_bind, List.foldlM_cons, addReturn_ambiguous ho,
    error_bind, error_bind]

theorem ofAnnotation_eq_error_iff {e : Failure} : Responses.ofAnnotation handler marker a = .error e ↔
    ∃ before o after, a.returns = before ++ o :: after ∧ (∀ b ∈ before, ¬ Ambiguous b) ∧ Ambiguous o ∧
      e = .multipleModels handler (o.coded StatusCode.forReturn).1 := by
  constructor
  · intro h
    rcases forall_or_first (fun o => ¬ Ambiguous o) a.returns with
      hclear | ⟨before, o, after, hreturns, hbefore, ho⟩
    · obtain ⟨rs, hrs⟩ := ofAnnotation_succeeds handler marker hclear
      rw [hrs] at h
      exact absurd h (by simp)
    · rw [not_not] at ho
      rw [ofAnnotation_fails hreturns hbefore ho] at h
      exact ⟨before, o, after, hreturns, hbefore, ho, (Except.error.inj h).symm⟩
  · rintro ⟨before, o, after, hreturns, hbefore, ho, rfl⟩
    exact ofAnnotation_fails hreturns hbefore ho

variable {rs : Responses} {code : String} {r : Response}

theorem standsFor_ofOutcome (o : Outcome) :
    (Return.ofOutcome o).schema.StandsFor (expand (o.coded StatusCode.forReturn).2) := by
  rw [← Return.expansion_ofOutcome]
  apply Return.schema_standsFor
  intro e he
  rw [Return.expansion_ofOutcome] at he
  exact Expansion.fields_ne_nil he

/-- The content of a response is one schema, which stands for what the last return tag with its code declares. -/
theorem content_eq_some_iff (h : Responses.ofAnnotation handler marker a = .ok rs) (hr : rs.get? code = some r)
    {media : SortedMap Fragment} : r.content = some media ↔
      ∃ o f, IsLast (fun o => (o.coded StatusCode.forReturn).1 = code) a.returns o ∧ isJson o.type marker = true ∧
        f.StandsFor (expand (o.coded StatusCode.forReturn).2) ∧
        media = SortedMap.empty.insert MediaType.json f := by
  have htells := ofAnnotation_tells h hr
  constructor
  · intro hmedia
    cases hlast : lastCoded? StatusCode.forReturn a.returns code with
    | none =>
      rw [htells.unreturned (lastCoded?_eq_none_iff.1 hlast)] at hmedia
      exact absurd hmedia (by simp)
    | some o =>
      have ho := lastCoded?_eq_some_iff.1 hlast
      rw [htells.content o ho] at hmedia
      split at hmedia
      · next hjson => exact ⟨o, _, ho, hjson, standsFor_ofOutcome o, (Option.some.inj hmedia).symm⟩
      · exact absurd hmedia (by simp)
  · rintro ⟨o, f, ho, hjson, hf, rfl⟩
    rw [htells.content o ho, if_pos hjson, hf.unique (standsFor_ofOutcome o)]

/-- Of the responses, only one whose tag declares an array is a choice. -/
theorem choice_of_array (h : Responses.ofAnnotation handler marker a = .ok rs) (hr : rs.get? code = some r)
    {fs : List Fragment} (hchoice : r.content = some (SortedMap.empty.insert MediaType.json (.anyOf fs))) :
    2 ≤ fs.length ∧ (∀ f ∈ fs, ∃ reference, f = .modelRef reference) ∧
      ∃ o e, IsLast (fun o => (o.coded StatusCode.forReturn).1 = code) a.returns o ∧
        expand (o.coded StatusCode.forReturn).2 = some e ∧ e.isArray = true := by
  obtain ⟨o, f, ho, -, hf, hmedia⟩ := (content_eq_some_iff h hr).1 hchoice
  have hget := congrArg (SortedMap.get? · MediaType.json) hmedia
  simp only [SortedMap.get?_insert, if_true, Option.some.injEq] at hget
  obtain ⟨⟨e, he, several⟩, hlength, hmembers⟩ := (hget ▸ hf).choice_members
  refine ⟨hlength, hmembers, o, e, ho, he, ?_⟩
  -- Outside of an array the tag would be ambiguous, and there would be no responses.
  obtain ⟨-, before, after, hreturns, -⟩ := ho
  have hclear := ofAnnotation_unambiguous h o (by simp [hreturns])
  by_contra hsingle
  rw [Bool.not_eq_true] at hsingle
  exact absurd (isAmbiguous_iff.2 ⟨e, he, hsingle, several⟩) (by simp [hclear])

/-- Responses cannot be described exactly if a return tag is ambiguous, and the first such tag is the failure.
Otherwise every content is the schema for what its tag declares, and a choice only for an array. -/
theorem ofAnnotation_schemas (handler marker : String) (a : Annotation) :
    ((∃ e, Responses.ofAnnotation handler marker a = .error e) ↔ ∃ o ∈ a.returns, Ambiguous o) ∧
    (∀ e, Responses.ofAnnotation handler marker a = .error e ↔
      ∃ before o after, a.returns = before ++ o :: after ∧ (∀ b ∈ before, ¬ Ambiguous b) ∧ Ambiguous o ∧
        e = .multipleModels handler (o.coded StatusCode.forReturn).1) ∧
    ∀ rs, Responses.ofAnnotation handler marker a = .ok rs → ∀ code r, rs.get? code = some r →
      (∀ media, r.content = some media ↔
        ∃ o f, IsLast (fun o => (o.coded StatusCode.forReturn).1 = code) a.returns o ∧ isJson o.type marker = true ∧
          f.StandsFor (expand (o.coded StatusCode.forReturn).2) ∧
          media = SortedMap.empty.insert MediaType.json f) ∧
      ∀ fs, r.content = some (SortedMap.empty.insert MediaType.json (.anyOf fs)) →
        2 ≤ fs.length ∧ (∀ f ∈ fs, ∃ reference, f = .modelRef reference) ∧
          ∃ o e, IsLast (fun o => (o.coded StatusCode.forReturn).1 = code) a.returns o ∧
            expand (o.coded StatusCode.forReturn).2 = some e ∧ e.isArray = true := by
  refine ⟨?_, fun e => ofAnnotation_eq_error_iff, fun rs h code r hr => ⟨fun media => ?_, fun fs hfs => ?_⟩⟩
  · constructor
    · rintro ⟨e, he⟩
      obtain ⟨before, o, after, hreturns, -, ho, -⟩ := ofAnnotation_eq_error_iff.1 he
      exact ⟨o, by simp [hreturns], ho⟩
    · rintro ⟨o, ho, hambiguous⟩
      by_contra hnone
      cases h : Responses.ofAnnotation handler marker a with
      | error e => exact hnone ⟨e, h⟩
      | ok rs =>
        have hclear := ofAnnotation_unambiguous h o ho
        exact absurd (isAmbiguous_iff.2 hambiguous) (by simp [hclear])
  · exact content_eq_some_iff h hr
  · exact choice_of_array h hr hfs

/-- A choice for an array, and a page that names one model. -/
def orderPages : Annotation where
  summary := ""
  tags := [.returns ⟨"Json", "Found [[Order $order, App\\Page $page, int $total]]"⟩,
    .returns ⟨"Html", "@code 203 A page [int $page, Page $next]"⟩, .throws ⟨"Gone", ""⟩]

/-- What the first of these tags declares. -/
def foundOrders : Expansion where
  annotation := ⟨"Found", [.param ⟨"Order", "order", ""⟩, .param ⟨"App\\Page", "page", ""⟩,
    .param ⟨"int", "total", ""⟩, .returns ⟨"void", ""⟩]⟩
  isArray := true

/-- With one more page, which names two models, the responses cannot be described. -/
theorem ofAnnotation_schemas_pages :
    Responses.ofAnnotation "Orders::list" "Json"
        ⟨"", orderPages.tags ++ [.returns ⟨"Html", "@code 202 [Order $order, Page $page]"⟩]⟩ =
      .error (.multipleModels "Orders::list" "202") ∧
    ∃ rs r, Responses.ofAnnotation "Orders::list" "Json" orderPages = .ok rs ∧ rs.get? "200" = some r ∧
      r.content = some (SortedMap.empty.insert MediaType.json
        (.anyOf [.modelRef "#/components/schemas/Order", .modelRef "#/components/schemas/Page"])) := by
  have hclear : ∀ o ∈ orderPages.returns, ¬ Ambiguous o := by decide +kernel
  constructor
  · have hambiguous : Ambiguous ⟨"Html", "@code 202 [Order $order, Page $page]"⟩ := by decide +kernel
    obtain ⟨-, hfirst, -⟩ := ofAnnotation_schemas "Orders::list" "Json"
      ⟨"", orderPages.tags ++ [.returns ⟨"Html", "@code 202 [Order $order, Page $page]"⟩]⟩
    exact (hfirst _).2 ⟨orderPages.returns, _, [], rfl, hclear, hambiguous, by decide +kernel⟩
  · obtain ⟨-, -, hcontents⟩ := ofAnnotation_schemas "Orders::list" "Json" orderPages
    obtain ⟨rs, hrs⟩ := ofAnnotation_succeeds "Orders::list" "Json" hclear
    have hcode : (∃ o ∈ orderPages.returns, (o.coded StatusCode.forReturn).1 = "200") := by decide +kernel
    obtain ⟨r, hr⟩ := Option.isSome_iff_exists.1 (SortedMap.mem_keys_iff.1
      ((mem_keys_iff_coded hrs).2 (.inl hcode)))
    have hlast : IsLast (fun o => (o.coded StatusCode.forReturn).1 = "200") orderPages.returns
        ⟨"Json", "Found [[Order $order, App\\Page $page, int $total]]"⟩ :=
      ⟨by decide +kernel, [], _, rfl, by decide +kernel⟩
    have hdeclared : expand (Outcome.coded ⟨"Json", "Found [[Order $order, App\\Page $page, int $total]]"⟩
        StatusCode.forReturn).2 = some foundOrders := by decide +kernel
    refine ⟨rs, r, hrs, hr, ((hcontents rs hrs "200" r hr).1 _).2 ⟨_, _, hlast, by decide +kernel, ?_, rfl⟩⟩
    have several : 2 ≤ foundOrders.models.length := by decide
    rw [hdeclared]
    exact .choice several

end Responses

end RouteDocs
