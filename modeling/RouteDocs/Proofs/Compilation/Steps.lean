import RouteDocs.Compilation
import RouteDocs.Proofs.Journal
import RouteDocs.Proofs.RequestBody
import RouteDocs.Proofs.Responses

namespace RouteDocs

namespace Input

variable (imports : List Import) (handler : String)

theorem exec_foldlM_addTag (tags fs : List Field) (j : Journal) :
    (tags.foldlM (addTag handler) fs).exec j =
      (if (tags.filterMap fun p => expand p.description).any (·.isArray) then .error (.arrayInput handler)
        else .ok (fs ++ (tags.filterMap fun p => expand p.description).flatMap (·.fields)), j) := by
  induction tags generalizing fs with
  | nil => simp
  | cons p tags ih =>
    rw [List.foldlM_cons]
    cases he : expand p.description with
    | none =>
      have hstep : (addTag handler fs p).exec j = (.ok fs, j) := by simp [addTag, he]
      simp [CompileM.exec_bind_ok hstep, ih, he]
    | some e =>
      cases harray : e.isArray with
      | true =>
        have hstep : (addTag handler fs p).exec j = (.error (.arrayInput handler), j) := by
          simp [addTag, he, harray]
        simp [CompileM.exec_bind_error hstep, he, harray]
      | false =>
        have hstep : (addTag handler fs p).exec j = (.ok (fs ++ e.fields), j) := by simp [addTag, he, harray]
        simp [CompileM.exec_bind_ok hstep, ih, he, harray]

theorem exec_declared (a : Annotation) (j : Journal) : (a.params.foldlM (addTag handler) []).exec j =
    (match fields? a with
      | none => .error (.arrayInput handler)
      | some fs => .ok fs, j) := by
  rw [exec_foldlM_addTag, fields?, expansions, List.nil_append]
  split <;> rfl

/-- The references of some models. -/
def references (fs : List Field) : List String := (modelFields fs).map fun f => TypeName.reference f.type

/-- What some fields come to. -/
def Parts.addFields (ps : Parts) (fs : List Field) : Parts where
  properties := ps.properties ++ (fs.filter isPrimitive).map fun f => (f.name, .property f)
  required := ps.required ++
    ((fs.filter isPrimitive).filter fun f => Description.isRequired f.description).map (·.name)
  model := (ps.model.toList ++ references fs).getLast?

/-- What is said where a model of a body takes the place of those before it. -/
def Parts.replaced (ps : Parts) (handler : String) (fs : List Field) : List Notice :=
  (ps.model.toList ++ references fs).dropLast.map (.replacedModel handler)

section

variable {f : Field} (ps : Parts) (fs : List Field)

theorem references_primitive (h : isPrimitive f = true) : references (f :: fs) = references fs := by
  simp [references, modelFields, h]

theorem references_model (h : isPrimitive f = false) :
    references (f :: fs) = TypeName.reference f.type :: references fs := by
  simp [references, modelFields, h]

@[simp] theorem Parts.addFields_nil : ps.addFields [] = ps := by
  obtain ⟨properties, required, _ | model⟩ := ps <;> simp [addFields, references, modelFields]

@[simp] theorem Parts.replaced_nil : ps.replaced handler [] = [] := by
  obtain ⟨properties, required, _ | model⟩ := ps <;> simp [replaced, references, modelFields]

theorem Parts.addFields_primitive (h : isPrimitive f = true) :
    ps.addFields (f :: fs) = (ps.addProperty f).addFields fs := by
  cases hr : Description.isRequired f.description <;>
    simp [addFields, addProperty, references_primitive, h, hr]

theorem Parts.addFields_model (h : isPrimitive f = false) : ps.addFields (f :: fs) =
    Parts.addFields { ps with model := some (TypeName.reference f.type) } fs := by
  obtain ⟨properties, required, _ | model⟩ := ps <;>
    simp [addFields, references_model, h, List.getLast?_cons]

theorem Parts.replaced_model (h : isPrimitive f = false) : ps.replaced handler (f :: fs) =
    ps.model.toList.map (.replacedModel handler) ++
      Parts.replaced { ps with model := some (TypeName.reference f.type) } handler fs := by
  obtain ⟨properties, required, _ | model⟩ := ps <;>
    simp [replaced, references_model, h]

end

/-- A model that is asked for takes the place of the one before it. -/
theorem exec_foldlM_addField (fs : List Field) (ps : Parts) (j : Journal) :
    (fs.foldlM (addField imports handler) ps).exec j =
      (.ok (ps.addFields fs), j.add imports ((modelFields fs).map (·.type)) (ps.replaced handler fs)) := by
  induction fs generalizing ps j with
  | nil => simp [modelFields]
  | cons f fs ih =>
    rw [List.foldlM_cons]
    cases hf : isPrimitive f with
    | true =>
      have hmodels : modelFields (f :: fs) = modelFields fs := List.filter_cons_of_neg (by simp [hf])
      have hreplaced : ps.replaced handler (f :: fs) = (ps.addProperty f).replaced handler fs := by
        rw [Parts.replaced, references_primitive fs hf]
        rfl
      rw [addField, if_pos hf, CompileM.exec_bind_ok (CompileM.exec_pure _ j), ih, ps.addFields_primitive fs hf,
        hmodels, hreplaced]
    | false =>
      have hstep : (addField imports handler ps f).exec j =
          (.ok { ps with model := some (TypeName.reference f.type) },
            j.add imports [f.type] (ps.model.toList.map (.replacedModel handler))) := by
        rw [addField, if_neg (by simp [hf]), CompileM.exec_bind_ok (CompileM.exec_refer ⟨imports, f.type⟩ j)]
        cases ps.model with
        | none => rfl
        | some previous =>
          have hsay := CompileM.exec_say (.replacedModel handler previous) (j.add imports [f.type] [])
          exact (CompileM.exec_bind_ok hsay).trans (by simp)
      rw [CompileM.exec_bind_ok hstep, ih, ps.addFields_model fs hf, ps.replaced_model handler fs hf]
      simp [modelFields, hf]

theorem Parts.content?_addFields (fs : List Field) : (addFields {} fs).content? = requestBody fs := by
  have hmodels : fs.filter (not ∘ isPrimitive) = modelFields fs := rfl
  have hform : (if (addFields {} fs).properties.isEmpty then none else some (Template.urlEncoded.replaceKey "schema"
      (Fragment.object (addFields {} fs).properties (addFields {} fs).required).toJson)) =
      if (fs.filter isPrimitive).isEmpty then none else some (form (fs.filter isPrimitive)) := by
    simp [addFields, form, formSchema]
  have hmodel : (addFields {} fs).model.map (fun r => Template.jsonReference.replaceKey "$ref" (.str r)) =
      (modelFields fs).getLast?.map fun f => modelBody f.type := by
    simp [addFields, references, modelBody, Function.comp_def]
  simp only [content?, hform, hmodel, requestBody, List.partition_eq_filter_filter, hmodels]
  cases (modelFields fs).getLast? <;> cases (fs.filter isPrimitive).isEmpty <;> rfl

/-- The input of a route is built whatever files declare its models. On the way its models are asked for, and each
that another one replaces is said. -/
theorem exec_build (m : Method) (a : Annotation) (j : Journal) : (build imports m handler a).exec j =
    (Input.ofAnnotation m handler a, j.add imports (models m a) (notices m handler a)) := by
  rw [build, Input.ofAnnotation]
  have hdeclared := exec_declared handler a j
  cases hfs : fields? a with
  | none =>
    rw [hfs] at hdeclared
    simp [CompileM.exec_bind_error hdeclared, notices, models, hfs]
  | some fs =>
    rw [hfs] at hdeclared
    rw [CompileM.exec_bind_ok hdeclared]
    by_cases hne : fs.isEmpty = true
    · obtain rfl := List.isEmpty_iff.1 hne
      simp [notices, models, hfs]
    · by_cases hm : m = .get
      · simp [hne, hm, notices, models]
      · have hfields := exec_foldlM_addField imports handler fs {} j
        have hmodels : models m a = (modelFields fs).map (·.type) := by simp [models, hfs, hm, modelFields]
        have hnotices : notices m handler a = Parts.replaced {} handler fs := by
          simp [notices, hmodels, Parts.replaced, references, Function.comp_def]
        simp only [hne, hm, Bool.false_eq_true, if_false]
        rw [CompileM.exec_bind_ok hfields, Parts.content?_addFields, CompileM.exec_pure, hmodels, hnotices]

end Input

namespace Responses

variable (imports : List Import) (handler marker : String)

theorem exec_foldlM_addField (fs : List Field) (ps : Parts) (j : Journal) :
    (fs.foldlM (addField imports) ps).exec j =
      (.ok ⟨ps.models ++ ((fs.map (·.type)).filter fun t => !TypeName.isPrimitive t).map fun t =>
            .modelRef (TypeName.reference t),
          ps.properties ++ (fs.filter fun f => TypeName.isPrimitive f.type).map fun f => (f.name, .property f)⟩,
        j.add imports ((fs.map (·.type)).filter fun t => !TypeName.isPrimitive t) []) := by
  induction fs generalizing ps j with
  | nil => simp
  | cons f fs ih =>
    rw [List.foldlM_cons]
    cases hf : TypeName.isPrimitive f.type with
    | true =>
      rw [addField, if_pos hf, CompileM.exec_bind_ok (CompileM.exec_pure _ j), ih]
      simp [hf]
    | false =>
      have hstep : (addField imports ps f).exec j =
          (.ok { ps with models := ps.models ++ [.modelRef (TypeName.reference f.type)] },
            j.add imports [f.type] []) := by
        rw [addField, if_neg (by simp [hf]), CompileM.exec_bind_ok (CompileM.exec_refer ⟨imports, f.type⟩ j)]
        rfl
      rw [CompileM.exec_bind_ok hstep, ih]
      simp [hf]

def Return.parts (r : Return) : Parts := ⟨r.models.map fun t => .modelRef (TypeName.reference t), r.properties⟩

theorem Return.schema_parts (r : Return) : r.parts.schema r.isArray = r.schema := by
  rw [Parts.schema, schema, parts]
  rcases r.models with _ | ⟨t, _ | ⟨u, ts⟩⟩ <;> rfl

theorem exec_addTag (rs : Responses) (o : Outcome) (j : Journal) : (addTag imports handler marker rs o).exec j =
    (addReturn handler marker rs o, j.add imports (Return.ofOutcome o).models []) := by
  simp only [addTag, addReturn]
  generalize Return.ofOutcome o = r
  have hfields : (r.fields.foldlM (addField imports) {}).exec j = (.ok r.parts, j.add imports r.models []) := by
    rw [exec_foldlM_addField]
    rfl
  have hambiguous : (1 < r.parts.models.length && !r.isArray) = r.isAmbiguous := by
    rw [Return.isAmbiguous, Return.parts, List.length_map]
  rw [CompileM.exec_bind_ok hfields, hambiguous, Return.schema_parts]
  split <;> rfl

/-- Behind an ambiguous tag no further model is asked for. -/
theorem exec_foldlM_addTag (os : List Outcome) (rs : Responses) (j : Journal) :
    (os.foldlM (addTag imports handler marker) rs).exec j =
      (os.foldlM (addReturn handler marker) rs, j.add imports
        ((upToFirst Return.isAmbiguous (os.map Return.ofOutcome)).flatMap Return.models) []) := by
  induction os generalizing rs j with
  | nil => simp [upToFirst]
  | cons o os ih =>
    have hstep := exec_addTag imports handler marker rs o j
    rw [List.foldlM_cons, List.foldlM_cons, List.map_cons, upToFirst]
    cases ho : (Return.ofOutcome o).isAmbiguous with
    | true =>
      have herror : addReturn handler marker rs o = .error (.multipleModels handler (Return.ofOutcome o).code) := by
        rw [addReturn, if_pos ho]
      rw [herror] at hstep ⊢
      rw [CompileM.exec_bind_error hstep]
      simp
    | false =>
      have hok : addReturn handler marker rs o = .ok (rs.insert (Return.ofOutcome o).code
          ((Return.ofOutcome o).response (isJson o.type marker))) := by
        rw [addReturn, if_neg (by simp [ho])]
      rw [hok] at hstep ⊢
      rw [CompileM.exec_bind_ok hstep, ih]
      simp

/-- The responses of a route are built whatever files declare their models, which are asked for on the way. -/
theorem exec_build (a : Annotation) (j : Journal) : (build imports handler marker a).exec j =
    (Responses.ofAnnotation handler marker a, j.add imports (models a) []) := by
  have htags := exec_foldlM_addTag imports handler marker a.returns ∅ j
  rw [build, Responses.ofAnnotation, models]
  cases hrs : a.returns.foldlM (addReturn handler marker) ∅ with
  | error e =>
    rw [hrs] at htags
    rw [CompileM.exec_bind_error htags]
    rfl
  | ok rs =>
    rw [hrs] at htags
    rw [CompileM.exec_bind_ok htags]
    rfl

end Responses

namespace Operation

variable {marker : String} {r : Route} {a : Annotation} {o : Operation} {e : Failure}

/-- What the operation of a route says, whatever it has referred to. -/
def ofAnnotation (marker : String) (r : Route) (a : Annotation) : Except Failure Operation := do
  let input ← Input.ofAnnotation r.method r.handler a
  let responses ← Responses.ofAnnotation r.handler marker a
  return withInput { id := r.handler, responses, security := r.requirements } a.summary? input

theorem exec_build_ok (h : ofAnnotation marker r a = .ok o) (imports : List Import) (j : Journal) :
    (build imports marker r a).exec j =
      (.ok o, ⟨j.context.addRoute imports r a, j.notices ++ Input.notices r.method r.handler a⟩) := by
  simp only [Operation.ofAnnotation, bind_eq_ok_iff, pure_eq_ok, Except.ok.injEq] at h
  obtain ⟨input, hinput, responses, hresponses, rfl⟩ := h
  have hi := Input.exec_build imports r.handler r.method a j
  have hr := Responses.exec_build imports r.handler marker a
    (j.add imports (Input.models r.method a) (Input.notices r.method r.handler a))
  rw [hinput] at hi
  rw [hresponses] at hr
  rw [build, CompileM.exec_bind_ok hi, CompileM.exec_bind_ok hr, CompileM.exec_bind_ok (CompileM.exec_resolve r _),
    CompileM.exec_pure]
  simp [Context.addRoute, -Journal.add_add]

/-- Where a route fails, some models were asked for, which depend on its annotation alone. -/
theorem exec_build_error (h : ofAnnotation marker r a = .error e) : ∃ types, ∀ imports j,
    (build imports marker r a).exec j =
      (.error e, j.add imports types (Input.notices r.method r.handler a)) := by
  rw [Operation.ofAnnotation] at h
  cases hinput : Input.ofAnnotation r.method r.handler a with
  | error e' =>
    -- The responses are not reached, so only the models of the body can have been asked for.
    refine ⟨Input.models r.method a, fun imports j => ?_⟩
    have hi := Input.exec_build imports r.handler r.method a j
    rw [hinput] at hi h
    rw [build, CompileM.exec_bind_error hi, Except.error.inj h]
  | ok input =>
    refine ⟨Input.models r.method a ++ Responses.models a, fun imports j => ?_⟩
    have hi := Input.exec_build imports r.handler r.method a j
    have hr := Responses.exec_build imports r.handler marker a
      (j.add imports (Input.models r.method a) (Input.notices r.method r.handler a))
    rw [hinput] at hi h
    cases hresponses : Responses.ofAnnotation r.handler marker a with
    | ok responses =>
      rw [hresponses] at h
      exact absurd h (by simp)
    | error e' =>
      rw [hresponses] at hr h
      rw [build, CompileM.exec_bind_ok hi, CompileM.exec_bind_error hr, Except.error.inj h, Journal.add_add,
        List.append_nil]

end Operation

end RouteDocs
