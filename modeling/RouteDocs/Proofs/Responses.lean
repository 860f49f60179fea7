import Mathlib.Data.List.Induction
import RouteDocs.Proofs.Except
import RouteDocs.Proofs.List
import RouteDocs.Responses

namespace RouteDocs

/-- The status code of a tag, and its description without the code. -/
def Outcome.coded (o : Outcome) (default : String) : String × String :=
  StatusCode.extract (String.ofList (Text.trim o.description.toList)) default

/-- The last of some tags with a status code. -/
def lastCoded? (default : String) (os : List Outcome) (code : String) : Option Outcome :=
  os.reverse.find? fun o => (o.coded default).1 = code

section

variable {default code : String} {os : List Outcome}

theorem lastCoded?_append_singleton (o : Outcome) : lastCoded? default (os ++ [o]) code =
    if (o.coded default).1 = code then some o else lastCoded? default os code := by
  simp only [lastCoded?, find?_reverse_append_singleton, decide_eq_true_eq]

theorem lastCoded?_eq_some_iff {o : Outcome} :
    lastCoded? default os code = some o ↔ IsLast (fun o => (o.coded default).1 = code) os o :=
  find?_reverse_iff_isLast

theorem lastCoded?_isSome_iff :
    (lastCoded? default os code).isSome = true ↔ ∃ o ∈ os, (o.coded default).1 = code := by
  simp only [lastCoded?, List.find?_isSome, List.mem_reverse, decide_eq_true_eq]

theorem lastCoded?_eq_none_iff :
    lastCoded? default os code = none ↔ ∀ o ∈ os, (o.coded default).1 ≠ code := by
  simp only [lastCoded?, List.find?_eq_none, List.mem_reverse, decide_eq_true_eq]

end

namespace Responses

variable {handler marker : String} {a : Annotation} {rs rs' : Responses}

theorem Return.ofOutcome_eq (o : Outcome) : Return.ofOutcome o =
    ⟨(o.coded StatusCode.forReturn).1, (o.coded StatusCode.forReturn).2,
      expand (o.coded StatusCode.forReturn).2⟩ := by
  simp only [Return.ofOutcome, Outcome.coded]

theorem Return.code_ofOutcome (o : Outcome) : (Return.ofOutcome o).code = (o.coded StatusCode.forReturn).1 := by
  rw [ofOutcome_eq]

theorem Return.text_ofOutcome (o : Outcome) : (Return.ofOutcome o).text = (o.coded StatusCode.forReturn).2 := by
  rw [ofOutcome_eq]

theorem Return.expansion_ofOutcome (o : Outcome) :
    (Return.ofOutcome o).expansion = expand (o.coded StatusCode.forReturn).2 := by
  rw [ofOutcome_eq]

/-- The response of the last return tag with a status code. -/
def returned? (marker : String) (os : List Outcome) (code : String) : Option Response :=
  (lastCoded? StatusCode.forReturn os code).map fun o => (Return.ofOutcome o).response (isJson o.type marker)

theorem addReturn_eq_ok_iff {o : Outcome} : addReturn handler marker rs o = .ok rs' ↔
    (Return.ofOutcome o).isAmbiguous = false ∧
      rs' = rs.insert (Return.ofOutcome o).code ((Return.ofOutcome o).response (isJson o.type marker)) := by
  simp only [addReturn]
  split
  · next h => simp [h]
  · next h => simp [h, eq_comm]

/-- No return tag is ambiguous, and of those with one code the last one counts. -/
theorem foldlM_addReturn {os : List Outcome} (h : os.foldlM (addReturn handler marker) rs = .ok rs') :
    (∀ o ∈ os, (Return.ofOutcome o).isAmbiguous = false) ∧
      ∀ code, rs'.get? code = (returned? marker os code).or (rs.get? code) := by
  induction os using List.reverseRecOn generalizing rs' with
  | nil =>
    rw [← Except.ok.inj h]
    simp [returned?, lastCoded?]
  | append_singleton os o ih =>
    simp only [List.foldlM_append, List.foldlM_cons, List.foldlM_nil, bind_pure, bind_eq_ok_iff] at h
    obtain ⟨rs₁, h₁, h⟩ := h
    obtain ⟨hclear, hget⟩ := ih h₁
    obtain ⟨ho, rfl⟩ := addReturn_eq_ok_iff.1 h
    refine ⟨?_, fun code => ?_⟩
    · simpa using fun o' ho' => ho'.elim (hclear o') fun he => he ▸ ho
    · rw [SortedMap.get?_insert, Return.code_ofOutcome, returned?, lastCoded?_append_singleton, hget]
      by_cases hc : (o.coded StatusCode.forReturn).1 = code
      · simp [hc]
      · simp [hc, Ne.symm hc, returned?]

/-- A throws tag gives the response of its code a description, and keeps the content if there is any. -/
theorem get?_addThrows (rs : Responses) (o : Outcome) (code : String) : (addThrows rs o).get? code =
    if (o.coded StatusCode.forThrows).1 = code then
      some ⟨(o.coded StatusCode.forThrows).2, (rs.get? code).bind (·.content)⟩
    else rs.get? code := by
  unfold addThrows Outcome.coded
  rcases StatusCode.extract _ StatusCode.forThrows with ⟨k, text⟩
  rw [SortedMap.get?_alter]
  by_cases hc : k = code
  · rw [if_pos hc.symm, if_pos hc, hc]
    cases rs.get? code <;> rfl
  · rw [if_neg hc, if_neg (Ne.symm hc)]

/-- Of the throws tags with one code the last one describes the response. -/
theorem get?_foldl_addThrows (os : List Outcome) (rs : Responses) (code : String) :
    (os.foldl addThrows rs).get? code =
      match lastCoded? StatusCode.forThrows os code with
      | some o => some ⟨(o.coded StatusCode.forThrows).2, (rs.get? code).bind (·.content)⟩
      | none => rs.get? code := by
  induction os using List.reverseRecOn with
  | nil => rfl
  | append_singleton os o ih =>
    rw [List.foldl_append, List.foldl_cons, List.foldl_nil, get?_addThrows, ih, lastCoded?_append_singleton]
    by_cases hc : (o.coded StatusCode.forThrows).1 = code
    · -- The tags before the last one have changed the description only.
      rw [if_pos hc, if_pos hc]
      cases lastCoded? StatusCode.forThrows os code <;> rfl
    · rw [if_neg hc, if_neg hc]

theorem ofAnnotation_unambiguous (h : Responses.ofAnnotation handler marker a = .ok rs) :
    ∀ o ∈ a.returns, (Return.ofOutcome o).isAmbiguous = false := by
  rw [Responses.ofAnnotation, bind_eq_ok_iff] at h
  obtain ⟨rs₁, h₁, -⟩ := h
  exact (foldlM_addReturn h₁).1

/-- What the last return tag and the last throws tag with a status code make of its response. -/
theorem ofAnnotation_get? (h : Responses.ofAnnotation handler marker a = .ok rs) (code : String) :
    rs.get? code =
      match lastCoded? StatusCode.forThrows a.throws code with
      | some o => some ⟨(o.coded StatusCode.forThrows).2, (returned? marker a.returns code).bind (·.content)⟩
      | none => returned? marker a.returns code := by
  rw [Responses.ofAnnotation, bind_eq_ok_iff] at h
  obtain ⟨rs₁, h₁, h⟩ := h
  have hreturned : rs₁.get? code = returned? marker a.returns code := by
    rw [(foldlM_addReturn h₁).2]
    exact Option.or_none
  rw [← Except.ok.inj h, get?_foldl_addThrows, hreturned]

theorem ofAnnotation_content (h : Responses.ofAnnotation handler marker a = .ok rs) (code : String) :
    (rs.get? code).bind (·.content) = (lastCoded? StatusCode.forReturn a.returns code).bind fun o =>
      ((Return.ofOutcome o).response (isJson o.type marker)).content := by
  have hreturned : (returned? marker a.returns code).bind (·.content) =
      (lastCoded? StatusCode.forReturn a.returns code).bind fun o =>
        ((Return.ofOutcome o).response (isJson o.type marker)).content := by
    rw [returned?]
    cases lastCoded? StatusCode.forReturn a.returns code <;> rfl
  rw [ofAnnotation_get? h, ← hreturned]
  cases lastCoded? StatusCode.forThrows a.throws code <;> rfl

theorem upToFirst_of_none {p : α → Bool} {l : List α} (h : ∀ x ∈ l, p x = false) : upToFirst p l = l := by
  induction l with
  | nil => rfl
  | cons x l ih =>
    rw [upToFirst, h x (by simp), ih fun y hy => h y (List.mem_cons_of_mem x hy)]
    rfl

theorem upToFirst_subset (p : α → Bool) (l : List α) : upToFirst p l ⊆ l := by
  induction l with
  | nil => simp [upToFirst]
  | cons x l ih =>
    rw [upToFirst]
    split
    · simp
    · exact List.cons_subset_cons x ih

/-- Nothing is looked up but models of return tags. -/
theorem exists_return_of_mem_models {t : String} (h : t ∈ models a) :
    ∃ o ∈ a.returns, t ∈ (Return.ofOutcome o).models := by
  obtain ⟨r, hr, ht⟩ := List.mem_flatMap.1 h
  obtain ⟨o, ho, rfl⟩ := List.mem_map.1 (upToFirst_subset _ _ hr)
  exact ⟨o, ho, ht⟩

/-- Where the responses can be described, all models of return tags are looked up. -/
theorem mem_models (h : Responses.ofAnnotation handler marker a = .ok rs) {o : Outcome}
    (ho : o ∈ a.returns) {t : String} (ht : t ∈ (Return.ofOutcome o).models) : t ∈ models a := by
  have hall : upToFirst Return.isAmbiguous (a.returns.map Return.ofOutcome) =
      a.returns.map Return.ofOutcome := by
    apply upToFirst_of_none
    intro r hr
    obtain ⟨o', ho', rfl⟩ := List.mem_map.1 hr
    exact ofAnnotation_unambiguous h o' ho'
  rw [models, hall]
  exact List.mem_flatMap.2 ⟨_, List.mem_map_of_mem ho, ht⟩

theorem Return.mem_models_iff {r : Return} {t : String} :
    t ∈ r.models ↔ ∃ e, r.expansion = some e ∧ ∃ f ∈ e.fields, f.type = t ∧ TypeName.isPrimitive t = false := by
  simp only [Return.models, Return.fields, List.mem_filter, List.mem_map, Bool.not_eq_true']
  cases r.expansion with
  | none => simp
  | some e => simp [← exists_and_right, and_assoc]

end Responses

/-- A response tells what the last tags with its status code say. The content is that of the return tag. The
throws tag describes the response, and where there is none the return tag does. -/
structure Response.Tells (r : Response) (marker : String) (a : Annotation) (code : String) : Prop where
  content : ∀ o, IsLast (fun o => (o.coded StatusCode.forReturn).1 = code) a.returns o →
    r.content = if Responses.isJson o.type marker then
      some (SortedMap.empty.insert MediaType.json (Responses.Return.ofOutcome o).schema) else none
  unreturned : (∀ o ∈ a.returns, (o.coded StatusCode.forReturn).1 ≠ code) → r.content = none
  thrown : ∀ o, IsLast (fun o => (o.coded StatusCode.forThrows).1 = code) a.throws o →
    r.description = (o.coded StatusCode.forThrows).2
  returned : (∀ o ∈ a.throws, (o.coded StatusCode.forThrows).1 ≠ code) →
    ∀ o, IsLast (fun o => (o.coded StatusCode.forReturn).1 = code) a.returns o →
      r.description = ((expand (o.coded StatusCode.forReturn).2).map (·.summary)).getD
        (o.coded StatusCode.forReturn).2

namespace Responses

variable {handler marker code : String} {a : Annotation} {rs : Responses}

/-- There is a response for each status code that a tag has. -/
theorem mem_keys_iff_coded (h : Responses.ofAnnotation handler marker a = .ok rs) :
    code ∈ rs.keys ↔ (∃ o ∈ a.returns, (o.coded StatusCode.forReturn).1 = code) ∨
      ∃ o ∈ a.throws, (o.coded StatusCode.forThrows).1 = code := by
  rw [SortedMap.mem_keys_iff, ofAnnotation_get? h, ← lastCoded?_isSome_iff, ← lastCoded?_isSome_iff, returned?]
  cases lastCoded? StatusCode.forThrows a.throws code <;> simp

theorem ofAnnotation_tells (h : Responses.ofAnnotation handler marker a = .ok rs) {r : Response}
    (hr : rs.get? code = some r) : r.Tells marker a code := by
  have hget := ofAnnotation_get? h code
  have hcontent := ofAnnotation_content h code
  rw [hr] at hget hcontent
  refine ⟨fun o ho => ?_, fun hnone => ?_, fun o ho => ?_, fun hnone o ho => ?_⟩
  · simpa only [lastCoded?_eq_some_iff.2 ho, Option.bind_some, Return.response] using hcontent
  · simpa only [lastCoded?_eq_none_iff.2 hnone, Option.bind_some, Option.bind_none] using hcontent
  · simp only [lastCoded?_eq_some_iff.2 ho, Option.some.injEq] at hget
    rw [hget]
  · rw [lastCoded?_eq_none_iff.2 hnone, returned?, lastCoded?_eq_some_iff.2 ho] at hget
    rw [Option.some.inj hget]
    simp only [Return.response, Return.description, Return.ofOutcome_eq]

/-- The responses are those of the status codes of the tags, and each of them tells what the last tags with its
code say. -/
theorem ofAnnotation_responses (h : Responses.ofAnnotation handler marker a = .ok rs) :
    (∀ code, code ∈ rs.keys ↔ (∃ o ∈ a.returns, (o.coded StatusCode.forReturn).1 = code) ∨
      ∃ o ∈ a.throws, (o.coded StatusCode.forThrows).1 = code) ∧
    ∀ code r, rs.get? code = some r → r.Tells marker a code :=
  ⟨fun _ => mem_keys_iff_coded h, fun _ _ hr => ofAnnotation_tells h hr⟩

/-- A page takes the place of a model, the order stays though its description is replaced, and one code is
only thrown. -/
def orderOutcomes : Annotation where
  summary := ""
  tags := [.returns ⟨"Json", "The order [Order $order]"⟩, .throws ⟨"Moved", "@code 200 Elsewhere"⟩,
    .returns ⟨"Json<Order>", "Added [Order $order] @code 201"⟩, .returns ⟨"Html", "@code 201 A page"⟩,
    .throws ⟨"Gone", "@code 404 Was there"⟩, .throws ⟨"Gone", "@code 404 Gone"⟩]

theorem ofAnnotation_responses_order :
    ∃ rs, Responses.ofAnnotation "Orders::add" "Json" orderOutcomes = .ok rs ∧ rs.keys = ["200", "201", "404"] ∧
      (∀ code, code ∈ rs.keys ↔ (∃ o ∈ orderOutcomes.returns, (o.coded StatusCode.forReturn).1 = code) ∨
        ∃ o ∈ orderOutcomes.throws, (o.coded StatusCode.forThrows).1 = code) ∧
      ∀ code r, rs.get? code = some r → r.Tells "Json" orderOutcomes code := by
  have hkeys : (Responses.ofAnnotation "Orders::add" "Json" orderOutcomes).toOption.map SortedMap.keys =
      some ["200", "201", "404"] := by decide +kernel
  obtain ⟨rs, hrs, hkeys⟩ := Option.map_eq_some_iff.1 hkeys
  rw [toOption_eq_some_iff] at hrs
  exact ⟨rs, hrs, hkeys, ofAnnotation_responses hrs⟩

end Responses

end RouteDocs
