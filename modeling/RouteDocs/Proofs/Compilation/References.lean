import RouteDocs.Proofs.Compilation.Inputs
import RouteDocs.Proofs.References

namespace RouteDocs

/-- Whatever an operation refers to was looked up for its route. -/
theorem ofAnnotation_refers {marker : String} {r : Route} {a : Annotation} {o : Operation} {ref : String}
    (h : Operation.ofAnnotation marker r a = .ok o) (href : o.Refers ref) :
    ∃ t ∈ a.models r.method, ref = TypeName.reference t := by
  obtain ⟨input, responses, hinput, hresponses, rfl⟩ := ofAnnotation_eq_ok_iff.1 h
  obtain ⟨fs, hfs, hcases⟩ := Input.ofAnnotation_cases hinput
  cases href with
  | query found member nested =>
    rcases hcases with ⟨-, rfl⟩ | ⟨-, -, rfl⟩ | ⟨-, -, content, -, rfl⟩
    · exact absurd found (by simp [Operation.withInput])
    · -- Query parameters are of primitive kinds, whatever type their field has.
      rw [← Option.some.inj found] at member
      obtain ⟨f, -, rfl⟩ := List.mem_map.1 member
      exact absurd nested (Fragment.not_refers_primitive _ _)
    · exact absurd found (by simp [Operation.withInput])
  | body found model =>
    rcases hcases with ⟨-, rfl⟩ | ⟨-, -, rfl⟩ | ⟨-, hm, content, hcontent, rfl⟩
    · exact absurd found (by simp [Operation.withInput])
    · exact absurd found (by simp [Operation.withInput])
    · rw [← Option.some.inj found] at model
      obtain ⟨t, ht, he⟩ := Input.mem_models_of_body hfs hm hcontent model
      exact ⟨t, List.mem_append_left _ ht, he⟩
  | response found content schema nested =>
    rw [Operation.responses_withInput] at found
    obtain ⟨t, ht, he⟩ := Responses.mem_models_of_schema hresponses found content schema nested
    exact ⟨t, List.mem_append_right _ ht, he⟩

/-- A model was looked up for one of the routes, which is documented. -/
def LookedUp (comments : Comments) (rs : List Route) (reference : String) : Prop :=
  ∃ r ∈ rs, ∃ a, comments.annotation? r = some a ∧
    ∃ t ∈ a.models r.method, reference = TypeName.reference t

variable {parse : Source.Reader} {comments : Comments} {g : Group} {rs : List Route} {k : String}

/-- The requests that are made for a route, with the imports of the file that declares its handler. -/
def Comments.lookups (parse : Source.Reader) (comments : Comments) (r : Route) : List Lookup :=
  match comments.annotation? r with
  | none => []
  | some a => (a.models r.method).map (⟨comments.imports parse r, ·⟩)

theorem lookedUp_iff : LookedUp comments rs k ↔ ∃ l ∈ rs.flatMap (comments.lookups parse), l.reference = k := by
  have hroute (r : Route) : (∃ l ∈ comments.lookups parse r, l.reference = k) ↔
      ∃ a, comments.annotation? r = some a ∧ ∃ t ∈ a.models r.method, k = TypeName.reference t := by
    rw [Comments.lookups]
    cases comments.annotation? r <;> simp [Lookup.reference, eq_comm]
  simp only [LookedUp, List.mem_flatMap, ← hroute]
  tauto

/-- What a run knows of models is what the requests for its routes tell, one after another. -/
theorem run_knows {p : Progress} (h : (Group.run parse comments g rs).result = .ok p) :
    p.context.models.Knows (rs.flatMap (comments.lookups parse)) := by
  have hmodels : p.context.models = Models.noteAll ∅ (rs.flatMap (comments.lookups parse)) := by
    refine Group.run_induction
      (P := fun rs p => p.context.models = Models.noteAll ∅ (rs.flatMap (comments.lookups parse))) rfl ?_ ?_ h
    · intro rs p r ih hn
      simp [ih, Comments.lookups, hn]
    · intro rs p r a o ih ha _
      rw [Progress.add, Context.models_addRoute, ih, Models.noteAll, Models.noteAll, ← List.foldl_append]
      simp [Comments.lookups, ha, Models.noteAll]
  rw [hmodels]
  exact Models.knows_noteAll _

/-- A run knows the models that were looked up for its routes, and no others. -/
theorem run_models {p : Progress} (h : (Group.run parse comments g rs).result = .ok p) (k : String) :
    k ∈ p.context.models.keys ↔ LookedUp comments rs k :=
  ((run_knows h).asked k).trans lookedUp_iff.symm

namespace Group

/-- The models that a document is built with hold all that the operations refer to, and each of them is
declared by a documented route. -/
theorem compile_references {routes : List Route} {uriPart : String} {p : Progress}
    (h : (run parse comments g (routesWithin uriPart routes)).result = .ok p) :
    (g.compileBy parse routes comments uriPart).result = Document.build g p.paths p.context ∧
    (∀ r ∈ routesWithin uriPart routes, ∀ j k o, (compileRoute parse comments g r).exec j = (.ok (some o), k) →
      ∀ reference, o.Refers reference → reference ∈ p.context.models.keys) ∧
    ∀ reference ∈ p.context.models.keys, ∃ r ∈ routes, ∃ a, DocumentedAs comments uriPart r a ∧
      ∃ f, a.Declares r.method f ∧ TypeName.isPrimitive f.type = false ∧
        reference = TypeName.reference f.type := by
  refine ⟨by rw [compile_eq_run, h, ok_bind], ?_, ?_⟩
  · intro r hr j k o hcompiled ref href
    obtain ⟨a, ha, ho, -⟩ := compileRoute_eq_some_iff.1 hcompiled
    exact (run_models h ref).2 ⟨r, hr, a, ha, ofAnnotation_refers ho href⟩
  · intro ref hk
    obtain ⟨r, hr, a, ha, t, ht, rfl⟩ := (run_models h ref).1 hk
    obtain ⟨hroute, hwithin⟩ := mem_routesWithin.1 hr
    obtain ⟨f, hf, rfl, hmodel⟩ := Annotation.declares_of_mem_models ht
    exact ⟨r, hroute, a, documentedAs_iff.2 ⟨hwithin, ha⟩, f, hf, hmodel, rfl⟩

end Group

theorem Group.compile_references_orders :
    ∃ p o j, (run Source.parse taggedComments orderGroup (routesWithin "/api" orderRoutes)).result = .ok p ∧
      (compileRoute Source.parse taggedComments orderGroup addOrder).exec {} = (.ok (some o), j) ∧
      o.Refers "#/components/schemas/Order" ∧ "#/components/schemas/Order" ∈ p.context.models.keys ∧
      (orderGroup.compile orderRoutes taggedComments "/api").result =
        Document.build orderGroup p.paths p.context ∧
      ∀ reference ∈ p.context.models.keys, ∃ r ∈ orderRoutes, ∃ a,
        DocumentedAs taggedComments "/api" r a ∧
        ∃ f, a.Declares r.method f ∧ TypeName.isPrimitive f.type = false ∧
          reference = TypeName.reference f.type := by
  obtain ⟨p, hp⟩ := isOk_iff.1 (show (run Source.parse taggedComments orderGroup
    (routesWithin "/api" orderRoutes)).result.isOk = true by decide +kernel)
  have hbody : ((((compileRoute Source.parse taggedComments orderGroup addOrder).exec {}).1.toOption.bind fun o? =>
      o?.bind (·.body)).bind Input.modelReference?) = some "#/components/schemas/Order" := by
    decide +kernel
  generalize hcompiled : (compileRoute Source.parse taggedComments orderGroup addOrder).exec {} = x at hbody ⊢
  obtain ⟨content, hcontent, hmodel⟩ := Option.bind_eq_some_iff.1 hbody
  obtain ⟨o?, hresult, hop⟩ := Option.bind_eq_some_iff.1 hcontent
  obtain ⟨o, rfl, hob⟩ := Option.bind_eq_some_iff.1 hop
  obtain ⟨result, j⟩ := x
  obtain rfl := toOption_eq_some_iff.1 hresult
  obtain ⟨hbuild, hclosed, hdeclared⟩ := compile_references hp
  have hrefers : o.Refers "#/components/schemas/Order" := .body hob hmodel
  have hwithin : addOrder ∈ routesWithin "/api" orderRoutes := mem_routesWithin.2 ⟨by decide, by decide⟩
  exact ⟨p, o, j, hp, rfl, hrefers, hclosed addOrder hwithin {} j o hcompiled _ hrefers, hbuild, hdeclared⟩

end RouteDocs
