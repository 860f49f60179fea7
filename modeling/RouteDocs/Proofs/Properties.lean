import RouteDocs.Proofs.Input

namespace RouteDocs.Input

variable {m : Method} {handler : String} {a : Annotation} {fs : List Field} {content schema : Json}

/-- The property that a schema has under a name. -/
def property? (schema : Json) (name : String) : Option Json := (schema.get? "properties").bind (·.get? name)

theorem property?_formSchema (fs : List Field) (name : String) :
    property? (formSchema fs).toJson name =
      (fs.reverse.find? fun f => f.name = name).map fun f => (Fragment.property f).toJson := by
  have hproperties : (formSchema fs).toJson.get? "properties" =
      some (.ofFields (fs.map fun f => (f.name, (Fragment.property f).toJson))) := by
    simp [formSchema, Fragment.toJson, propertiesToJson_eq, Json.get?, Json.fields?, List.lookup_cons,
      Function.comp_def]
  have hlast := Json.lookup_ofFields (fs.map fun f => (f.name, (Fragment.property f).toJson)) name
  rw [← List.map_reverse, List.find?_map, Option.map_map] at hlast
  rw [property?, hproperties]
  exact hlast

/-- Of several fields with a name the last one makes the property. -/
theorem property?_eq_some_iff {name : String} {property : Json} :
    property? (formSchema fs).toJson name = some property ↔
      ∃ f, IsLast (fun g => g.name = name) fs f ∧ property = (Fragment.property f).toJson := by
  rw [property?_formSchema, Option.map_eq_some_iff]
  refine exists_congr fun f => and_congr find?_reverse_iff_isLast ?_
  exact eq_comm

/-- The fields that a form is made of. -/
def formFields (a : Annotation) : List Field := (declaredFields a).filter isPrimitive

/-- A body is the one of the declared fields, and its form the one of those of primitive kinds. -/
theorem ofAnnotation_formSchema (h : Input.ofAnnotation m handler a = .ok (some (.body content)))
    (hs : formSchema? content = some schema) : schema = (formSchema (formFields a)).toJson := by
  obtain ⟨fs, hfs, hcases⟩ := ofAnnotation_cases h
  obtain rfl := fields?_eq_some hfs
  rcases hcases with ⟨-, hnone⟩ | ⟨-, -, hquery⟩ | ⟨-, -, body, hbody, hsome⟩
  · exact absurd hnone (by simp)
  · exact absurd hquery (by simp)
  · obtain rfl : content = body := by simpa using hsome
    rw [(requestBody_isBody hbody).formSchema?_eq] at hs
    split at hs
    · exact absurd hs (by simp)
    · exact (Option.some.inj hs).symm

/-- The types that schemas have for the primitive kinds. -/
def kinds : List String := ["integer", "float", "string", "boolean", "array"]

theorem kinds_eq : TypeName.primitives.map TypeName.jsonType = kinds := by decide

theorem jsonType_mem_kinds {t : String} (h : TypeName.isPrimitive t = true) : TypeName.jsonType t ∈ kinds := by
  rw [← kinds_eq]
  exact List.mem_map_of_mem (List.contains_iff_mem.1 h)

/-- The name of a model is taken over as it is. -/
theorem jsonType_of_model {t : String} (h : TypeName.isPrimitive t = false) : TypeName.jsonType t = t := by
  rw [TypeName.jsonType, if_neg]
  rintro rfl
  exact absurd h (by decide)

/-- The schemas that an input has for its fields are of primitive kinds, and none of them has a model for its type.
Each property of a form stands for a field of a primitive kind. -/
inductive Kinded (fs : List Field) : Input → Prop where
  | query {ps : List Parameter} (parameters : List.Forall₂ (fun f p => ∃ t description,
      p.schema = .primitive t description ∧ t ∈ kinds ∧ (isPrimitive f = false → t ≠ f.type)) fs ps) :
    Kinded fs (.query ps)
  | body {content : Json} (properties : ∀ schema name property, formSchema? content = some schema →
      property? schema name = some property →
      ∃ f ∈ fs, f.name = name ∧ isPrimitive f = true ∧ ∃ t ∈ kinds, property.get? "type" = some (.str t)) :
    Kinded fs (.body content)

theorem kinded_query_iff : Kinded fs (.query (fs.map queryParameter)) ↔ ∀ f ∈ fs, isPrimitive f = true := by
  constructor
  · intro h f hf
    cases h with
    | query parameters =>
      rw [List.forall₂_map_right_iff, List.forall₂_same] at parameters
      obtain ⟨t, description, hschema, -, hmodel⟩ := parameters f hf
      obtain ⟨rfl, -⟩ := Fragment.primitive.inj hschema
      by_contra hkind
      rw [Bool.not_eq_true] at hkind
      exact hmodel hkind (jsonType_of_model hkind)
  · intro h
    refine .query ?_
    rw [List.forall₂_map_right_iff, List.forall₂_same]
    intro f hf
    refine ⟨_, _, rfl, jsonType_mem_kinds (h f hf), fun hmodel => ?_⟩
    exact absurd (h f hf) (by simp [hmodel])

theorem kinded_body (h : Input.ofAnnotation m handler a = .ok (some (.body content))) :
    Kinded (declaredFields a) (.body content) := by
  refine .body fun schema name property hschema hproperty => ?_
  rw [ofAnnotation_formSchema h hschema] at hproperty
  obtain ⟨f, hf, rfl⟩ := property?_eq_some_iff.1 hproperty
  obtain ⟨hdeclared, hkind⟩ := List.mem_filter.1 hf.mem
  exact ⟨f, hdeclared, hf.1, hkind, _, jsonType_mem_kinds hkind, rfl⟩

/-- Only a query can have a schema that is of no primitive kind, and it has one exactly if it is declared with a model.
There the type is the name of the model. -/
theorem ofAnnotation_kinded_iff {input : Input} (h : Input.ofAnnotation m handler a = .ok (some input)) :
    (Kinded (declaredFields a) input ↔ m ≠ .get ∨ ∀ f ∈ declaredFields a, isPrimitive f = true) ∧
    ∀ ps, input = .query ps → List.Forall₂ (fun f p => p.schema =
      .primitive (if isPrimitive f then TypeName.jsonType f.type else f.type) none) (declaredFields a) ps := by
  obtain ⟨fs, hfs, hcases⟩ := ofAnnotation_cases h
  obtain rfl := fields?_eq_some hfs
  rcases hcases with ⟨-, hnone⟩ | ⟨-, rfl, hquery⟩ | ⟨-, hm, content, -, hbody⟩
  · exact absurd hnone (by simp)
  · obtain rfl := Option.some.inj hquery
    refine ⟨by simp [kinded_query_iff], fun ps hps => ?_⟩
    obtain rfl := Input.query.inj hps
    rw [List.forall₂_map_right_iff, List.forall₂_same]
    intro f _
    split
    · rfl
    · next hkind => rw [queryParameter, jsonType_of_model (Bool.eq_false_iff.2 hkind)]
  · obtain rfl := Option.some.inj hbody
    exact ⟨iff_of_true (kinded_body h) (.inl hm), fun ps hps => absurd hps (by simp)⟩

/-- A field of each kind. -/
def kindQuery : Annotation where
  summary := ""
  tags := [.param ⟨"Query", "q", "[int $page required here, float $ratio, string $term]"⟩,
    .param ⟨"Query", "more", "[boolean $open, array $tags]"⟩]

theorem ofAnnotation_kinded_each :
    ∃ ps, Input.ofAnnotation .get "Orders::list" kindQuery = .ok (some (.query ps)) ∧
      ps.map (·.name) = ["page", "ratio", "term", "open", "tags"] ∧ Kinded (declaredFields kindQuery) (.query ps) := by
  have hfields : fields? kindQuery = some [⟨"int", "page", "required here"⟩, ⟨"float", "ratio", ""⟩,
      ⟨"string", "term", ""⟩, ⟨"boolean", "open", ""⟩, ⟨"array", "tags", ""⟩] := by decide +kernel
  have hquery : ∃ ps, Input.ofAnnotation .get "Orders::list" kindQuery = .ok (some (.query ps)) ∧
      ps.map (·.name) = ["page", "ratio", "term", "open", "tags"] := by
    simp [Input.ofAnnotation, hfields, queryParameter]
  obtain ⟨ps, hps, hnames⟩ := hquery
  obtain ⟨hiff, -⟩ := ofAnnotation_kinded_iff hps
  refine ⟨ps, hps, hnames, hiff.2 (.inr ?_)⟩
  rw [← fields?_eq_some hfields]
  decide

/-- A query that is declared with a model. -/
def modelQuery : Annotation where
  summary := ""
  tags := [.param ⟨"Query", "q", "[Widget $w]"⟩]

theorem modelQuery_not_kinded :
    ∃ ps, Input.ofAnnotation .get "Orders::list" modelQuery = .ok (some (.query ps)) ∧
      ps.map (·.schema.toJson.get? "type") = [some (.str "Widget")] ∧
      ¬ Kinded (declaredFields modelQuery) (.query ps) := by
  have hfields : fields? modelQuery = some [⟨"Widget", "w", ""⟩] := by decide +kernel
  refine ⟨[⟨"Widget", "w", ""⟩].map queryParameter, by simp [Input.ofAnnotation, hfields], rfl, fun h => ?_⟩
  rw [← fields?_eq_some hfields] at h
  exact absurd (kinded_query_iff.1 h _ List.mem_cons_self) (by decide)

/-- The names that a schema lists as required. -/
def requiredNames (schema : Json) : List String :=
  match schema.get? "required" with
  | some (.arr names) => names.filterMap Json.text?
  | _ => []

/-- A field is described as required. -/
def Required (f : Field) : Prop := "required".toList <:+: f.description.toList

instance : DecidablePred Required := fun f => inferInstanceAs (Decidable ("required".toList <:+: f.description.toList))

theorem isRequired_iff {f : Field} : Description.isRequired f.description = true ↔ Required f := Text.containsText_iff

/-- A schema lists a property as required if it is, and no other, and none of them twice. Of several fields with a name
the last one says whether it is required. -/
structure ListsRequired (schema : Json) (fs : List Field) : Prop where
  once : (requiredNames schema).Nodup
  declared : ∀ name ∈ requiredNames schema, name ∈ propertyNames schema
  kept : ∀ name f, IsLast (fun g => g.name = name) fs f → (name ∈ requiredNames schema ↔ Required f)

/-- No required field is declared again behind it. -/
def RequiredLast (fs : List Field) : Prop := fs.Pairwise fun f g => Required f → g.name ≠ f.name

instance : DecidablePred RequiredLast := fun fs =>
  inferInstanceAs (Decidable (fs.Pairwise fun f g => Required f → g.name ≠ f.name))

theorem requiredNames_formSchema (fs : List Field) :
    requiredNames (formSchema fs).toJson = (fs.filter fun f => Required f).map (·.name) := by
  have hrequired (f : Field) : Description.isRequired f.description = decide (Required f) := by
    rw [Bool.eq_iff_iff, isRequired_iff, decide_eq_true_eq]
  rw [requiredNames, formSchema, Fragment.toJson]
  simp only [hrequired]
  cases (fs.filter fun f => Required f).map (·.name) with
  | nil => simp [Json.get?, Json.fields?, List.lookup_cons]
  | cons name names =>
    simp only [Json.get?, Json.fields?, Json.ofTexts]
    exact Json.filterMap_text? (name :: names)

theorem mem_requiredNames_iff {name : String} :
    name ∈ requiredNames (formSchema fs).toJson ↔ ∃ f ∈ fs, Required f ∧ f.name = name := by
  simp only [requiredNames_formSchema, List.mem_map, List.mem_filter, decide_eq_true_eq, and_assoc]

theorem requiredNames_subset (fs : List Field) :
    requiredNames (formSchema fs).toJson ⊆ propertyNames (formSchema fs).toJson := by
  intro name hname
  obtain ⟨f, hf, -, rfl⟩ := mem_requiredNames_iff.1 hname
  rw [propertyNames_formSchema, List.mem_eraseDups]
  exact List.mem_map_of_mem hf

theorem RequiredLast.listsRequired (h : RequiredLast fs) : ListsRequired (formSchema fs).toJson fs where
  once := by
    rw [requiredNames_formSchema, List.Nodup, List.pairwise_map, List.pairwise_filter]
    exact h.imp fun hfg hf _ he => hfg (of_decide_eq_true hf) he.symm
  declared := requiredNames_subset fs
  kept name f hlast := by
    rw [mem_requiredNames_iff]
    obtain ⟨rfl, before, after, rfl, hafter⟩ := hlast
    constructor
    · rintro ⟨g, hg, hrequired, hname⟩
      rcases List.mem_append.1 hg with hbefore | hrest
      · exact absurd hname.symm ((List.pairwise_append.1 h).2.2 g hbefore f List.mem_cons_self hrequired)
      · rcases List.mem_cons.1 hrest with rfl | hg
        · exact hrequired
        · exact absurd hname (hafter g hg)
    · intro hrequired
      exact ⟨f, by simp, hrequired, rfl⟩

theorem ListsRequired.requiredLast (h : ListsRequired (formSchema fs).toJson fs) : RequiredLast fs := by
  induction fs with
  | nil => exact .nil
  | cons f fs ih =>
    have honce := h.once
    rw [requiredNames_formSchema, List.filter_cons] at honce
    refine .cons (fun g hg hf hname => ?_) (ih ⟨?_, requiredNames_subset fs, fun name g hlast => ?_⟩)
    · -- The last field with the name is required as well, so that the name is listed for both of them.
      obtain ⟨l, hl⟩ := exists_isLast (p := fun g => g.name = f.name) hg hname
      have hrequired : Required l :=
        (h.kept f.name l (hl.cons f)).1 (mem_requiredNames_iff.2 ⟨f, List.mem_cons_self, hf, rfl⟩)
      rw [if_pos (decide_eq_true hf), List.map_cons, List.nodup_cons, ← requiredNames_formSchema] at honce
      exact honce.1 (mem_requiredNames_iff.2 ⟨l, hl.mem, hrequired, hl.1⟩)
    · rw [requiredNames_formSchema]
      split at honce
      · exact (List.nodup_cons.1 honce).2
      · exact honce
    · constructor
      · intro hlisted
        obtain ⟨l, hl, hrequired⟩ := mem_requiredNames_iff.1 hlisted
        exact (h.kept name g (hlast.cons f)).1 (mem_requiredNames_iff.2 ⟨l, List.mem_cons_of_mem f hl, hrequired⟩)
      · intro hrequired
        exact mem_requiredNames_iff.2 ⟨g, hlast.mem, hrequired, hlast.1⟩

/-- The required names agree with the properties exactly if no required field is declared again. Whatever the fields
are, only properties are listed, and all that are required: a name too much, or twice, comes from a field that a later
one has replaced. -/
theorem ofAnnotation_listsRequired_iff (h : Input.ofAnnotation m handler a = .ok (some (.body content)))
    (hs : formSchema? content = some schema) :
    (ListsRequired schema (formFields a) ↔ RequiredLast (formFields a)) ∧
    requiredNames schema = ((formFields a).filter fun f => Required f).map (·.name) ∧
    requiredNames schema ⊆ propertyNames schema ∧
    ∀ name f, IsLast (fun g => g.name = name) (formFields a) f →
      property? schema name = some (Fragment.property f).toJson ∧ (Required f → name ∈ requiredNames schema) := by
  obtain rfl := ofAnnotation_formSchema h hs
  refine ⟨⟨ListsRequired.requiredLast, RequiredLast.listsRequired⟩, requiredNames_formSchema _,
    requiredNames_subset _, fun name f hlast => ⟨?_, fun hrequired => ?_⟩⟩
  · exact property?_eq_some_iff.2 ⟨f, hlast, rfl⟩
  · exact mem_requiredNames_iff.2 ⟨f, hlast.mem, hrequired, hlast.1⟩

/-- Fields of a primitive kind have a form for each method that has a body. -/
theorem exists_form (h : fields? a = some fs) (hform : ∃ f ∈ fs, isPrimitive f = true) (hm : m ≠ .get)
    (handler : String) : ∃ content schema, Input.ofAnnotation m handler a = .ok (some (.body content)) ∧
      formSchema? content = some schema ∧ formFields a = fs.filter isPrimitive := by
  have hne : fs ≠ [] := hform.elim fun f hf => List.ne_nil_of_mem hf.1
  obtain ⟨content, hcontent, hsome, -⟩ := ofAnnotation_body h hne hm handler
  obtain ⟨schema, hschema⟩ := Option.isSome_iff_exists.1 (hsome.2 hform)
  exact ⟨content, schema, hcontent, hschema, by rw [formFields, ← fields?_eq_some h]⟩

/-- A note that is optional at first, and required where it is declared again. -/
def noteForm : Annotation where
  summary := ""
  tags := [.param ⟨"Form", "form", "[string $note, Order $order, int $count required]"⟩,
    .param ⟨"Form", "more", "[string $note required again]"⟩]

theorem ofAnnotation_listsRequired_note :
    ∃ content schema, Input.ofAnnotation .post "Orders::add" noteForm = .ok (some (.body content)) ∧
      formSchema? content = some schema ∧ ListsRequired schema (formFields noteForm) ∧
      requiredNames schema = ["count", "note"] := by
  have hfields : fields? noteForm = some [⟨"string", "note", ""⟩, ⟨"Order", "order", ""⟩,
      ⟨"int", "count", "required"⟩, ⟨"string", "note", "required again"⟩] := by decide +kernel
  have hpost : Method.post ≠ .get := by decide
  obtain ⟨content, schema, hbody, hschema, hform⟩ := exists_form hfields (by decide) hpost "Orders::add"
  obtain ⟨hiff, hnames, -, -⟩ := ofAnnotation_listsRequired_iff hbody hschema
  rw [hform] at hiff hnames ⊢
  exact ⟨content, schema, hbody, hschema, hiff.2 (by decide), hnames.trans (by decide)⟩

/-- A number that is required twice, and last a text that is not. -/
def repeatedForm : Annotation where
  summary := ""
  tags := [.param ⟨"Form", "form", "[int $x required a, float $x required b, string $x]"⟩]

theorem repeatedForm_not_listsRequired :
    ∃ content schema, Input.ofAnnotation .post "Orders::add" repeatedForm = .ok (some (.body content)) ∧
      formSchema? content = some schema ∧ requiredNames schema = ["x", "x"] ∧
      property? schema "x" = some (.obj [("type", .str "string")]) ∧
      ¬ ListsRequired schema (formFields repeatedForm) := by
  have hfields : fields? repeatedForm = some [⟨"int", "x", "required a"⟩, ⟨"float", "x", "required b"⟩,
      ⟨"string", "x", ""⟩] := by decide +kernel
  have hpost : Method.post ≠ .get := by decide
  obtain ⟨content, schema, hbody, hschema, hform⟩ := exists_form hfields (by decide) hpost "Orders::add"
  obtain rfl := ofAnnotation_formSchema hbody hschema
  have hnames : requiredNames (formSchema (formFields repeatedForm)).toJson = ["x", "x"] := by
    rw [requiredNames_formSchema, hform]
    decide
  have hlast : IsLast (fun g => g.name = "x") (formFields repeatedForm) ⟨"string", "x", ""⟩ := by
    rw [← find?_reverse_iff_isLast, hform]
    decide
  have hplain : Description.rendered "" = none := by decide
  refine ⟨content, _, hbody, hschema, hnames, property?_eq_some_iff.2 ⟨_, hlast, ?_⟩, fun h => ?_⟩
  · simp [Fragment.property, Fragment.toJson, TypeName.jsonType, hplain, Json.ofOption]
  · exact absurd (hnames ▸ h.once) (by decide)

end RouteDocs.Input
