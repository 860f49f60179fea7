import Mathlib.Data.List.Infix
import RouteDocs.Input
import RouteDocs.Proofs.Text

namespace RouteDocs.Input

theorem form_eq (fs : List Field) :
    form fs = .obj [("required", .bool true), ("content",
      .obj [(MediaType.urlEncoded, .obj [("schema", (formSchema fs).toJson)])])] := by
  simp [form, Template.urlEncoded, MediaType.urlEncoded, Json.replaceKey, Json.replaceInFields]

theorem modelBody_eq (type : String) :
    modelBody type = .obj [("content", .obj [(MediaType.json,
      .obj [("schema", .obj [("$ref", .str (TypeName.reference type))])])])] := by
  simp [modelBody, Template.jsonReference, MediaType.json, Json.replaceKey, Json.replaceInFields]

theorem merge_eq (fs : List Field) (type : String) :
    (form fs).mergeContent (modelBody type) = .obj [("required", .bool true), ("content",
      .obj [(MediaType.urlEncoded, .obj [("schema", (formSchema fs).toJson)]),
        (MediaType.json, .obj [("schema", .obj [("$ref", .str (TypeName.reference type))])])])] := by
  rw [form_eq, modelBody_eq]
  simp [Json.mergeContent, Json.mergeField, Json.setFields, Json.setField, MediaType.urlEncoded,
    MediaType.json, List.lookup_cons]

/-- The fields that are models. -/
def modelFields (fs : List Field) : List Field := fs.filter fun f => !isPrimitive f

/-- The schema of a form: a property for each field, and the names of those that are described as required. -/
def formOf (fs : List Field) : Fragment :=
  .object (fs.map fun f => (f.name, .primitive (TypeName.jsonType f.type) (Description.rendered f.description)))
    ((fs.filter fun f => "required".toList <:+: f.description.toList).map (·.name))

theorem formSchema_eq (fs : List Field) : formSchema fs = formOf fs := by
  have hrequired (f : Field) :
      Description.isRequired f.description = decide ("required".toList <:+: f.description.toList) := by
    rw [Bool.eq_iff_iff, decide_eq_true_eq]
    exact Text.containsText_iff
  simp only [formSchema, formOf, hrequired, Fragment.property]

/-- What the content of a body holds for a form. -/
def formEntry (fs : List Field) : String × Json :=
  (MediaType.urlEncoded, .obj [("schema", (formOf fs).toJson)])

/-- What the content of a body holds for a model. -/
def modelEntry (f : Field) : String × Json :=
  (MediaType.json, .obj [("schema", .obj [("$ref", .str (TypeName.reference f.type))])])

/-- The body for fields of primitive kinds and models. Only a form is required, and of the models the last one
counts. -/
inductive IsBody (primitives models : List Field) : Json → Prop where
  | form (declared : primitives ≠ []) (unmodeled : models = []) :
    IsBody primitives models (.obj [("required", .bool true), ("content", .obj [formEntry primitives])])
  | model {m : Field} (formless : primitives = []) (last : models.getLast? = some m) :
    IsBody primitives models (.obj [("content", .obj [modelEntry m])])
  | both {m : Field} (declared : primitives ≠ []) (last : models.getLast? = some m) :
    IsBody primitives models
      (.obj [("required", .bool true), ("content", .obj [formEntry primitives, modelEntry m])])

variable {fs : List Field} {content : Json}

theorem requestBody_isBody (h : requestBody fs = some content) :
    IsBody (fs.filter isPrimitive) (modelFields fs) content := by
  have hmodels : fs.filter (not ∘ isPrimitive) = modelFields fs := rfl
  simp only [requestBody, List.partition_eq_filter_filter, hmodels] at h
  by_cases hp : fs.filter isPrimitive = []
  · simp only [hp, List.isEmpty_nil, if_true] at h
    cases hm : (modelFields fs).getLast? with
    | none => simp [hm] at h
    | some m =>
      simp only [hm, Option.some.injEq, modelBody_eq] at h
      rw [← h]
      exact .model hp hm
  · simp only [List.isEmpty_iff, hp, if_false] at h
    cases hm : (modelFields fs).getLast? with
    | none =>
      simp only [hm, Option.some.injEq, form_eq, formSchema_eq] at h
      rw [← h]
      exact .form hp (List.getLast?_eq_none_iff.1 hm)
    | some m =>
      simp only [hm, Option.some.injEq, merge_eq, formSchema_eq] at h
      rw [← h]
      exact .both hp hm

/-- Where there are fields there is a body. -/
theorem exists_requestBody (hne : fs ≠ []) : ∃ content, requestBody fs = some content := by
  have hmodels : fs.filter (not ∘ isPrimitive) = modelFields fs := rfl
  simp only [requestBody, List.partition_eq_filter_filter, hmodels]
  cases hm : (modelFields fs).getLast? with
  | some m =>
    generalize (if (fs.filter isPrimitive).isEmpty = true then none else some (form (fs.filter isPrimitive))) = form?
    cases form? <;> exact ⟨_, rfl⟩
  | none =>
    -- Without a model every field is of a primitive kind, and there is one.
    have hall : ∀ f ∈ fs, isPrimitive f = true := by
      simpa [List.getLast?_eq_none_iff, modelFields, List.filter_eq_nil_iff] using hm
    rw [List.filter_eq_self.2 hall, if_neg (by simpa using hne)]
    exact ⟨_, rfl⟩

/-- The schema of the form that a body holds, if it holds one. -/
def formSchema? (content : Json) : Option Json :=
  ((content.get? "content").bind (·.get? MediaType.urlEncoded)).bind (·.get? "schema")

/-- The model that a body refers to, if it refers to one. -/
def modelReference? (content : Json) : Option String :=
  ((((content.get? "content").bind (·.get? MediaType.json)).bind (·.get? "schema")).bind
    (·.get? "$ref")).bind Json.text?

theorem IsBody.formSchema?_eq {primitives models : List Field} (h : IsBody primitives models content) :
    formSchema? content = if primitives.isEmpty then none else some (formSchema primitives).toJson := by
  rw [formSchema_eq]
  cases h with
  | form declared unmodeled =>
    simp [formSchema?, formEntry, Json.get?, Json.fields?, List.lookup_cons, declared]
  | model formless last =>
    simp [formSchema?, modelEntry, Json.get?, Json.fields?, List.lookup_cons, MediaType.json,
      MediaType.urlEncoded, formless]
  | both declared last =>
    simp [formSchema?, formEntry, Json.get?, Json.fields?, List.lookup_cons, declared]

theorem IsBody.modelReference?_eq {primitives models : List Field} (h : IsBody primitives models content) :
    modelReference? content = models.getLast?.map fun f => TypeName.reference f.type := by
  cases h with
  | form declared unmodeled =>
    simp [modelReference?, formEntry, Json.get?, Json.fields?, List.lookup_cons, MediaType.json,
      MediaType.urlEncoded, unmodeled]
  | model formless last =>
    simp [modelReference?, modelEntry, Json.get?, Json.fields?, Json.text?, last]
  | both declared last =>
    simp [modelReference?, formEntry, modelEntry, Json.get?, Json.fields?, Json.text?, List.lookup_cons,
      MediaType.json, MediaType.urlEncoded, last]

/-- Fields of primitive kinds have a form in the body, whatever models there are, and no others have. -/
theorem requestBody_formSchema? (hne : fs ≠ []) :
    ∃ content, requestBody fs = some content ∧ formSchema? content =
      if (fs.filter isPrimitive).isEmpty then none
      else some (formSchema (fs.filter isPrimitive)).toJson := by
  obtain ⟨content, hcontent⟩ := exists_requestBody hne
  exact ⟨content, hcontent, (requestBody_isBody hcontent).formSchema?_eq⟩

/-- A body refers to the last model among its fields. -/
theorem requestBody_modelReference? (h : requestBody fs = some content) :
    modelReference? content = (modelFields fs).getLast?.map fun f => TypeName.reference f.type :=
  (requestBody_isBody h).modelReference?_eq

/-- All that the input of a handler can come to. -/
theorem ofAnnotation_cases {m : Method} {handler : String} {a : Annotation} {input : Option Input}
    (h : Input.ofAnnotation m handler a = .ok input) : ∃ fs, fields? a = some fs ∧
      ((fs = [] ∧ input = none) ∨
        (fs ≠ [] ∧ m = .get ∧ input = some (.query (fs.map queryParameter))) ∨
        (fs ≠ [] ∧ m ≠ .get ∧ ∃ content, requestBody fs = some content ∧ input = some (.body content))) := by
  unfold Input.ofAnnotation at h
  cases hfs : fields? a with
  | none => simp [hfs] at h
  | some fs =>
    refine ⟨fs, rfl, ?_⟩
    simp only [hfs, List.isEmpty_iff] at h
    split at h
    · next hnil => exact .inl ⟨hnil, (Except.ok.inj h).symm⟩
    · next hne =>
      split at h
      · next hm => exact .inr (.inl ⟨hne, hm, (Except.ok.inj h).symm⟩)
      · next hm =>
        obtain ⟨content, hcontent⟩ := exists_requestBody hne
        rw [hcontent] at h
        exact .inr (.inr ⟨hne, hm, content, hcontent, (Except.ok.inj h).symm⟩)

/-- The fields of all parameter tags that declare some, in the order of the tags. -/
def declaredFields (a : Annotation) : List Field :=
  (a.params.filterMap fun p => expand p.description).flatMap (·.fields)

theorem fields?_eq_some {a : Annotation} (h : fields? a = some fs) : fs = declaredFields a := by
  unfold fields? at h
  split at h
  · exact absurd h (by simp)
  · exact (Option.some.inj h).symm

/-- Every model but the last one is noted as replaced. -/
theorem notices_eq {m : Method} (hm : m ≠ .get) (handler : String) {a : Annotation} (h : fields? a = some fs) :
    notices m handler a =
      (modelFields fs).dropLast.map fun f => .replacedModel handler (TypeName.reference f.type) := by
  have hmodels : models m a = (modelFields fs).map (·.type) := by
    rw [models, if_neg hm, h]
    rfl
  rw [notices, hmodels, ← List.map_dropLast, List.map_map]
  rfl

/-- The body of any method but GET holds the fields of all parameter tags: those of primitive kinds in a form, and
behind it the last model. The models before the last one are what is noted as replaced. -/
theorem ofAnnotation_isBody {m : Method} (hm : m ≠ .get) {handler : String} {a : Annotation}
    (h : Input.ofAnnotation m handler a = .ok (some (.body content))) :
    IsBody ((declaredFields a).filter isPrimitive) (modelFields (declaredFields a)) content ∧
      notices m handler a = (modelFields (declaredFields a)).dropLast.map
        (fun f => .replacedModel handler (TypeName.reference f.type)) ∧
      (notices m handler a).length = (modelFields (declaredFields a)).length - 1 := by
  obtain ⟨fs, hfs, hcases⟩ := ofAnnotation_cases h
  rcases hcases with ⟨-, hnone⟩ | ⟨-, hget, -⟩ | ⟨-, -, body, hbody, hsome⟩
  · exact absurd hnone (by simp)
  · exact absurd hget hm
  · obtain rfl : content = body := by simpa using hsome
    have hnotices := notices_eq hm handler hfs
    rw [← fields?_eq_some hfs]
    refine ⟨requestBody_isBody hbody, hnotices, ?_⟩
    rw [hnotices, List.length_map, List.length_dropLast]

/-- Fields that are named like the keys of the templates, in three tags, one of which declares nothing. -/
def keywords : Annotation where
  summary := ""
  tags := [.param ⟨"Form", "form", "[string $schema required, App\\Order $content, int $properties]"⟩,
    .param ⟨"Form", "none", "without brackets"⟩,
    .param ⟨"Form", "more", "[Page $required, string $schema again, array $required is required]"⟩]

def keywordFields : List Field :=
  [⟨"string", "schema", "required"⟩, ⟨"App\\Order", "content", ""⟩, ⟨"int", "properties", ""⟩,
    ⟨"Page", "required", ""⟩, ⟨"string", "schema", "again"⟩, ⟨"array", "required", "is required"⟩]

theorem ofAnnotation_isBody_keywords :
    Method.post ≠ .get ∧ declaredFields keywords = keywordFields ∧
    ∃ content, Input.ofAnnotation .post "Orders::add" keywords = .ok (some (.body content)) ∧
      IsBody (keywordFields.filter isPrimitive) (modelFields keywordFields) content ∧
      notices .post "Orders::add" keywords = [.replacedModel "Orders::add" "#/components/schemas/Order"] ∧
      (notices .post "Orders::add" keywords).length = 1 := by
  have hpost : Method.post ≠ .get := by decide
  have hfields : fields? keywords = some keywordFields := by decide +kernel
  have hne : keywordFields ≠ [] := List.cons_ne_nil _ _
  obtain ⟨content, hcontent⟩ := exists_requestBody hne
  have hbody : Input.ofAnnotation .post "Orders::add" keywords = .ok (some (.body content)) := by
    simp [Input.ofAnnotation, hfields, hne, hcontent]
  obtain ⟨hclosed, hnotices, hlength⟩ := ofAnnotation_isBody hpost hbody
  rw [← fields?_eq_some hfields] at hclosed hnotices hlength
  exact ⟨hpost, (fields?_eq_some hfields).symm, content, hbody, hclosed, hnotices.trans (by decide +kernel), hlength⟩

end RouteDocs.Input
