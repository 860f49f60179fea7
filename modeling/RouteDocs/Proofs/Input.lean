import Mathlib.Data.List.Forall2
import RouteDocs.Proofs.FieldList
import RouteDocs.Proofs.Json
import RouteDocs.Proofs.RequestBody

namespace RouteDocs

open Text Annotation

/-- What a query parameter says about the field it stands for. -/
structure Parameter.Describes (p : Parameter) (f : Field) : Prop where
  name : p.name = f.name
  location : p.location = "query"
  required : p.required = true ↔ "required ".toList <:+: f.description.toList
  schema : p.schema = .primitive (TypeName.jsonType f.type) none
  description : p.description = Description.rendered f.description

namespace Input

theorem queryParameter_describes (f : Field) : (queryParameter f).Describes f where
  name := rfl
  location := rfl
  required := containsText_iff
  schema := rfl
  description := rfl

/-- The query has a parameter for each field, in the order of the fields. -/
theorem ofAnnotation_get {a : Annotation} {fs : List Field} (h : fields? a = some fs) (hne : fs ≠ [])
    (handler : String) :
    ∃ ps, ofAnnotation .get handler a = .ok (some (.query ps)) ∧
      List.Forall₂ (fun f (p : Parameter) => p.Describes f) fs ps := by
  refine ⟨fs.map queryParameter, ?_, ?_⟩
  · simp [h, hne, ofAnnotation]
  · rw [List.forall₂_map_right_iff, List.forall₂_same]
    intro f _
    exact queryParameter_describes f

/-- The names of the properties that a schema declares, in order. -/
def propertyNames (schema : Json) : List String :=
  (((schema.get? "properties").bind Json.fields?).getD []).map Prod.fst

theorem propertiesToJson_eq (ps : List (String × Fragment)) :
    Fragment.propertiesToJson ps = ps.map fun (name, f) => (name, f.toJson) := by
  induction ps with
  | nil => rfl
  | cons p ps ih =>
    obtain ⟨name, f⟩ := p
    rw [Fragment.propertiesToJson, ih, List.map_cons]

/-- A name that is declared again is no second property. -/
theorem propertyNames_formSchema (fs : List Field) :
    propertyNames (formSchema fs).toJson = (fs.map (·.name)).eraseDups := by
  have hkeys := Json.keys_ofFields (Fragment.propertiesToJson (fs.map fun f => (f.name, .property f)))
  have hnames : Json.keys (Fragment.propertiesToJson (fs.map fun f => (f.name, .property f))) =
      fs.map (·.name) := by
    simp [propertiesToJson_eq, Json.keys, Function.comp_def]
  rw [hnames] at hkeys
  rw [← hkeys, formSchema, Fragment.toJson]
  simp [propertyNames, Json.get?, Json.fields?, Json.ofFields, Json.keys, List.lookup_cons]

/-- The body has a form if a field is of a primitive kind, and a property for each name of such fields. -/
theorem ofAnnotation_body {a : Annotation} {fs : List Field} (h : fields? a = some fs) (hne : fs ≠ [])
    {m : Method} (hm : m ≠ .get) (handler : String) :
    ∃ content, ofAnnotation m handler a = .ok (some (.body content)) ∧
      ((formSchema? content).isSome = true ↔ ∃ f ∈ fs, isPrimitive f = true) ∧
      ∀ schema, formSchema? content = some schema →
        propertyNames schema = ((fs.filter isPrimitive).map (·.name)).eraseDups := by
  obtain ⟨content, hcontent, hform⟩ := requestBody_formSchema? hne
  refine ⟨content, ?_, ?_, ?_⟩
  · simp [h, hne, hm, hcontent, ofAnnotation]
  · rw [hform]
    simp
  · intro schema hs
    rw [hform] at hs
    split at hs
    · exact absurd hs (by simp)
    · rw [← Option.some.inj hs]
      exact propertyNames_formSchema _

end Input

/-- A parameter tag that lists fields in brackets. -/
structure Declaration where
  type : String
  name : String
  fields : List Field
  typed : isTypeName type.toList = true
  named : isVariableName name.toList = true
  nonempty : fields ≠ []
  listable : ∀ f ∈ fields, f.Listable

namespace Declaration

/-- The line of a declaration. -/
def text (d : Declaration) : String :=
  "@param " ++ d.type ++ " $" ++ d.name ++ " [" ++
    ", ".intercalate (d.fields.map fun f => f.type ++ " $" ++ f.name ++ " " ++ f.description) ++ "]"

/-- A comment of declarations alone. -/
def comment (ds : List Declaration) : String := "\n".intercalate (ds.map text)

/-- What the tag of a declaration holds. -/
def field (d : Declaration) : Field := ⟨d.type, d.name, String.ofList (FieldList.text d.fields)⟩

theorem variable_ne (d : Declaration) : d.name ≠ "" := by
  intro he
  have hn := d.named
  rw [he] at hn
  exact absurd hn (by decide)

theorem writable (d : Declaration) : (Tag.param d.field).Writable where
  type := d.typed
  name := .inr d.named
  description := by
    rw [field, String.toList_ofList]
    exact FieldList.text_prose d.listable
  nameless he := absurd he d.variable_ne

theorem text_toList (d : Declaration) : d.text.toList = (Tag.param d.field).block.line := by
  have hbodies : d.fields.map (fun f => (f.type ++ " $" ++ f.name ++ " " ++ f.description).toList) =
      d.fields.map Field.body := by
    rw [List.map_inj_left]
    intro f hf
    simp [Field.body, Field.head, (d.listable f hf).named]
  have hinner : (", ".intercalate (d.fields.map fun f =>
      f.type ++ " $" ++ f.name ++ " " ++ f.description)).toList = FieldList.inner d.fields := by
    rw [String.toList_intercalate, List.map_map, FieldList.inner, ← hbodies]
    rfl
  have hbody : d.field.body =
      d.type.toList ++ ' ' :: '$' :: d.name.toList ++ ' ' :: FieldList.text d.fields := by
    simp [Field.body, Field.head, field, d.variable_ne]
  change _ = '@' :: ("param".toList ++ ' ' :: d.field.body)
  simp only [text, String.toList_append, hinner, hbody, FieldList.text]
  simp

theorem parse_comment {ds : List Declaration} (hne : ds ≠ []) :
    Annotation.parse (comment ds) = .ok ⟨"", ds.map fun d => .param d.field⟩ := by
  have hlines : (comment ds).toList =
      ['\n'].intercalate ((ds.map fun d => (Tag.param d.field).block).map Block.line) := by
    simp [comment, String.toList_intercalate, text_toList, Function.comp_def]
  rw [parse, hlines]
  apply read_tags
  · simpa using hne
  · intro b hb
    obtain ⟨d, -, rfl⟩ := List.mem_map.1 hb
    exact d.writable.block
  · intro t ht
    obtain ⟨d, -, rfl⟩ := List.mem_map.1 ht
    exact d.writable
  · intro hs
    exact absurd hs (by decide)
  · simp

theorem expand_field (d : Declaration) :
    expand d.field.description = some ⟨⟨"", FieldList.tags d.fields⟩, false⟩ :=
  FieldList.expand_text d.nonempty d.listable

/-- The fields of all declarations follow one another. -/
theorem fields?_eq (ds : List Declaration) :
    Input.fields? ⟨"", ds.map fun d => .param d.field⟩ = some (ds.flatMap fields) := by
  have hparams : Annotation.params ⟨"", ds.map fun d => .param d.field⟩ = ds.map field := by
    simp [params, List.filterMap_map]
  have hexpansions : Input.expansions ⟨"", ds.map fun d => .param d.field⟩ =
      ds.map fun d => ⟨⟨"", FieldList.tags d.fields⟩, false⟩ := by
    rw [Input.expansions, hparams, List.filterMap_map, ← List.filterMap_eq_map]
    apply List.filterMap_congr
    intro d _
    exact d.expand_field
  have hnone : (Input.expansions ⟨"", ds.map fun d => .param d.field⟩).any (·.isArray) = false := by
    simp [hexpansions]
  rw [Input.fields?, hnone, hexpansions, List.flatMap_map]
  simp [FieldList.fields_tags]

/-- No declared field is lost, repeated, moved or invented. -/
theorem documents_fields {ds : List Declaration} (hne : ds ≠ []) (handler : String) :
    ∃ a, parse (comment ds) = .ok a ∧
      (∃ ps, Input.ofAnnotation .get handler a = .ok (some (.query ps)) ∧
        List.Forall₂ (fun f (p : Parameter) => p.Describes f) (ds.flatMap fields) ps) ∧
      ∀ m : Method, m ≠ .get →
        ∃ content, Input.ofAnnotation m handler a = .ok (some (.body content)) ∧
          ((Input.formSchema? content).isSome = true ↔
            ∃ f ∈ ds.flatMap fields, Input.isPrimitive f = true) ∧
          ∀ schema, Input.formSchema? content = some schema →
            Input.propertyNames schema =
              (((ds.flatMap fields).filter Input.isPrimitive).map (·.name)).eraseDups := by
  have hfields := fields?_eq ds
  have hsome : ds.flatMap fields ≠ [] := by
    obtain ⟨d, ds, rfl⟩ := List.exists_cons_of_ne_nil hne
    simp [d.nonempty]
  refine ⟨_, parse_comment hne, Input.ofAnnotation_get hfields hsome handler, ?_⟩
  intro m hm
  exact Input.ofAnnotation_body hfields hsome hm handler

/-- A list whose descriptions hold brackets, a dollar sign and an at sign. -/
def search : Declaration where
  type := "array"
  name := "filters"
  fields := [⟨"string", "term", "required [at] $3 @ most"⟩, ⟨"App\\Order", "order", ""⟩,
    ⟨"int", "page", "first] page"⟩]
  typed := by decide
  named := by decide
  nonempty := by decide
  listable := by
    intro f hf
    simp only [List.mem_cons, List.not_mem_nil, or_false] at hf
    rcases hf with rfl | rfl | rfl
    all_goals exact ⟨by decide, by decide, ⟨by decide, by decide, by decide⟩, by decide⟩

theorem documents_fields_search :
    [search, search] ≠ [] ∧ ∃ a, parse (comment [search, search]) = .ok a ∧
      (∃ ps, Input.ofAnnotation .get "App.search" a = .ok (some (.query ps)) ∧
        List.Forall₂ (fun f (p : Parameter) => p.Describes f)
          (search.fields ++ search.fields) ps) ∧
      ∀ m : Method, m ≠ .get →
        ∃ content, Input.ofAnnotation m "App.search" a = .ok (some (.body content)) ∧
          ((Input.formSchema? content).isSome = true ↔
            ∃ f ∈ search.fields ++ search.fields, Input.isPrimitive f = true) ∧
          ∀ schema, Input.formSchema? content = some schema →
            Input.propertyNames schema = ["term", "page"] :=
  have hne : [search, search] ≠ [] := by simp
  ⟨hne, documents_fields hne "App.search"⟩

end Declaration

end RouteDocs
