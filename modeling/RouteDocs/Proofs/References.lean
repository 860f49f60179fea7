import RouteDocs.Compilation
import RouteDocs.Proofs.Input
import RouteDocs.Proofs.Models
import RouteDocs.Proofs.Responses
import RouteDocs.Proofs.Security

namespace RouteDocs

/-- A schema refers to a model, at some depth. -/
inductive Fragment.Refers (reference : String) : Fragment → Prop where
  | here : Refers reference (.modelRef reference)
  | property {properties : List (String × Fragment)} {required : List String} {name : String} {f : Fragment}
      (member : (name, f) ∈ properties) (nested : Refers reference f) :
      Refers reference (.object properties required)
  | items {f : Fragment} (nested : Refers reference f) : Refers reference (.arrayOf f)
  | choice {fs : List Fragment} {f : Fragment} (member : f ∈ fs) (nested : Refers reference f) :
      Refers reference (.anyOf fs)

namespace Fragment

variable {ref : String}

@[simp] theorem not_refers_primitive (jsonType : String) (description : Option String) :
    ¬ Refers ref (.primitive jsonType description) := by
  intro h
  cases h

@[simp] theorem not_refers_empty : ¬ Refers ref .empty := by
  intro h
  cases h

@[simp] theorem refers_modelRef_iff {reference : String} :
    Refers ref (.modelRef reference) ↔ reference = ref := by
  constructor
  · intro h
    cases h
    rfl
  · rintro rfl
    exact .here

@[simp] theorem refers_object_iff {properties : List (String × Fragment)} {required : List String} :
    Refers ref (.object properties required) ↔ ∃ p ∈ properties, Refers ref p.2 := by
  constructor
  · intro h
    cases h with
    | property member nested => exact ⟨_, member, nested⟩
  · rintro ⟨⟨name, f⟩, member, nested⟩
    exact .property member nested

@[simp] theorem refers_arrayOf_iff {f : Fragment} : Refers ref (.arrayOf f) ↔ Refers ref f := by
  constructor
  · intro h
    cases h with
    | items nested => exact nested
  · exact .items

@[simp] theorem refers_anyOf_iff {fs : List Fragment} : Refers ref (.anyOf fs) ↔ ∃ f ∈ fs, Refers ref f := by
  constructor
  · intro h
    cases h with
    | choice member nested => exact ⟨_, member, nested⟩
  · rintro ⟨f, member, nested⟩
    exact .choice member nested

end Fragment

namespace Responses.Return

theorem not_refers_properties (r : Return) {ref : String} (required : List String) :
    ¬ Fragment.Refers ref (.object r.properties required) := by
  simp [properties, Fragment.property]

/-- The schema of a return tag refers to the models of its fields. -/
theorem refers_schema_iff {r : Return} {ref : String} :
    r.schema.Refers ref ↔ ∃ t ∈ r.models, TypeName.reference t = ref := by
  unfold schema
  split
  · next hm =>
    rw [hm]
    split
    · simp
    · split
      · simp [r.not_refers_properties]
      · simp [r.not_refers_properties]
  · next model hm => simp [hm]
  · simp

end Responses.Return

/-- An operation refers to the models in its schemas and to that of its body. -/
inductive Operation.Refers (o : Operation) (reference : String) : Prop where
  | query {ps : List Parameter} {p : Parameter} (found : o.parameters = some ps) (member : p ∈ ps)
      (nested : p.schema.Refers reference)
  | body {content : Json} (found : o.body = some content)
      (model : Input.modelReference? content = some reference)
  | response {code type : String} {r : Response} {media : SortedMap Fragment} {f : Fragment}
      (found : o.responses.get? code = some r) (content : r.content = some media)
      (schema : media.get? type = some f) (nested : f.Refers reference)

/-- The models that are looked up for a route with some method: those of its input and of its responses. -/
def Annotation.models (a : Annotation) (m : Method) : List String := Input.models m a ++ Responses.models a

theorem Input.mem_models_of_body {m : Method} {a : Annotation} {fs : List Field} {content : Json} {ref : String}
    (hfs : Input.fields? a = some fs) (hm : m ≠ .get) (hcontent : Input.requestBody fs = some content)
    (href : Input.modelReference? content = some ref) :
    ∃ t ∈ Input.models m a, ref = TypeName.reference t := by
  rw [requestBody_modelReference? hcontent, Option.map_eq_some_iff] at href
  obtain ⟨f, hlast, rfl⟩ := href
  refine ⟨f.type, ?_, rfl⟩
  rw [Input.models, if_neg hm, hfs]
  exact List.mem_map_of_mem (List.mem_of_getLast? hlast)

theorem Responses.mem_models_of_schema {handler marker : String} {a : Annotation} {rs : Responses}
    (h : Responses.ofAnnotation handler marker a = .ok rs) {code type : String} {r : Response}
    {media : SortedMap Fragment} {f : Fragment} {ref : String} (found : rs.get? code = some r)
    (content : r.content = some media) (schema : media.get? type = some f) (nested : f.Refers ref) :
    ∃ t ∈ Responses.models a, ref = TypeName.reference t := by
  have hc := ofAnnotation_content h code
  rw [found, Option.bind_some, content] at hc
  obtain ⟨o, ho, hmedia⟩ := Option.bind_eq_some_iff.1 hc.symm
  have hor : o ∈ a.returns := List.mem_reverse.1 (List.mem_of_find?_eq_some ho)
  have hf : f = (Return.ofOutcome o).schema := by
    simp only [Return.response] at hmedia
    split at hmedia
    · rw [← Option.some.inj hmedia, SortedMap.get?_insert] at schema
      split at schema
      · exact (Option.some.inj schema).symm
      · exact absurd schema (by simp [SortedMap.get?, SortedMap.empty])
    · exact absurd hmedia (by simp)
  obtain ⟨t, ht, rfl⟩ := Return.refers_schema_iff.1 (hf ▸ nested)
  exact ⟨t, mem_models h hor ht, rfl⟩

/-- The fields that a text in brackets declares. -/
def Declares (text : String) (f : Field) : Prop := ∃ e, expand text = some e ∧ f ∈ e.fields

theorem Input.declares_of_mem_fields? {a : Annotation} {f : Field} (h : f ∈ (Input.fields? a).getD []) :
    ∃ p ∈ a.params, RouteDocs.Declares p.description f := by
  unfold Input.fields? at h
  split at h
  · exact absurd h (by simp)
  · obtain ⟨e, he, hf⟩ := List.mem_flatMap.1 h
    obtain ⟨p, hp, hpe⟩ := List.mem_filterMap.1 he
    exact ⟨p, hp, e, hpe, hf⟩

/-- A return tag of an annotation declares a field, or else a parameter tag does. Parameter tags count only
for methods with a body. -/
def Annotation.Declares (a : Annotation) (m : Method) (f : Field) : Prop :=
  (∃ o ∈ a.returns, RouteDocs.Declares (Responses.Return.ofOutcome o).text f) ∨
    (m ≠ .get ∧ ∃ p ∈ a.params, RouteDocs.Declares p.description f)

/-- Nothing is looked up for a route but models that a tag declares. -/
theorem Annotation.declares_of_mem_models {a : Annotation} {m : Method} {t : String} (h : t ∈ a.models m) :
    ∃ f, a.Declares m f ∧ f.type = t ∧ TypeName.isPrimitive t = false := by
  rcases List.mem_append.1 h with h | h
  · unfold Input.models at h
    split at h
    · exact absurd h (by simp)
    · next hm =>
      obtain ⟨f, hf, rfl⟩ := List.mem_map.1 h
      obtain ⟨hfs, hmodel⟩ := List.mem_filter.1 hf
      exact ⟨f, .inr ⟨hm, Input.declares_of_mem_fields? hfs⟩, rfl, by simpa [Input.isPrimitive] using hmodel⟩
  · obtain ⟨o, ho, ht⟩ := Responses.exists_return_of_mem_models h
    obtain ⟨e, he, f, hf, hft, hmodel⟩ := Responses.Return.mem_models_iff.1 ht
    rw [Responses.Return.expansion_ofOutcome, ← Responses.Return.text_ofOutcome] at he
    exact ⟨f, .inl ⟨o, ho, e, he, hf⟩, hft, hmodel⟩

namespace Context

variable (imports : List Import) (c : Context) (r : Route) (a : Annotation)

theorem models_addModels (types : List String) :
    (c.addModels imports types).models = c.models.noteAll (types.map (⟨imports, ·⟩)) := by
  rw [Models.noteAll, List.foldl_map]
  rfl

theorem mem_models_addModels (types : List String) (k : String) :
    k ∈ (c.addModels imports types).models.keys ↔ k ∈ c.models.keys ∨ ∃ t ∈ types, k = TypeName.reference t := by
  simp [models_addModels, Models.mem_keys_noteAll, Lookup.reference, eq_comm]

/-- A route asks for its models with the imports of the file that declares its handler. -/
theorem models_addRoute :
    (c.addRoute imports r a).models = c.models.noteAll ((a.models r.method).map (⟨imports, ·⟩)) := by
  rw [addRoute, addGuards, models_foldl_guard, models_addModels, models_addModels, Annotation.models,
    List.map_append, Models.noteAll, Models.noteAll, Models.noteAll, List.foldl_append]

/-- A route adds the models that are looked up for it, and no others. -/
theorem mem_models_addRoute (k : String) : k ∈ (c.addRoute imports r a).models.keys ↔
    k ∈ c.models.keys ∨ ∃ t ∈ a.models r.method, k = TypeName.reference t := by
  simp [models_addRoute, Models.mem_keys_noteAll, Lookup.reference, eq_comm]

end Context

end RouteDocs
