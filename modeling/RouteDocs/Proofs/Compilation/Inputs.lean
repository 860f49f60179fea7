import RouteDocs.Proofs.Compilation.Operations
import RouteDocs.Proofs.Expansion
import RouteDocs.Proofs.Input

namespace RouteDocs

namespace Input

/-- There are fields if some parameter tag declares them. -/
theorem fields?_ne_nil_iff {a : Annotation} {fs : List Field} (h : fields? a = some fs) :
    fs ≠ [] ↔ ∃ p ∈ a.params, (expand p.description).isSome = true := by
  unfold fields? at h
  split at h
  · exact absurd h (by simp)
  · rw [← Option.some.inj h]
    constructor
    · intro hne
      obtain ⟨f, hf⟩ := List.exists_mem_of_ne_nil _ hne
      obtain ⟨e, he, -⟩ := List.mem_flatMap.1 hf
      obtain ⟨p, hp, hpe⟩ := List.mem_filterMap.1 he
      exact ⟨p, hp, by simp [hpe]⟩
    · intro hx
      obtain ⟨p, hp, hsome⟩ := hx
      obtain ⟨e, hpe⟩ := Option.isSome_iff_exists.1 hsome
      obtain ⟨f, hf⟩ := List.exists_mem_of_ne_nil _ (Expansion.fields_ne_nil hpe)
      have he : e ∈ expansions a := List.mem_filterMap.2 ⟨p, hp, hpe⟩
      exact List.ne_nil_of_mem (List.mem_flatMap.2 ⟨e, he, hf⟩)

end Input

/-- The input of an operation stands in the one place that its method has for it, and only where it is
declared. The operation is described together with it. -/
structure Operation.DocumentsInput (o : Operation) (m : Method) (a : Annotation) : Prop where
  bodiless : m = .get → o.body = none
  unqueried : m ≠ .get → o.parameters = none
  parameters : m = .get →
    (o.parameters.isSome = true ↔ ∃ p ∈ a.params, (expand p.description).isSome = true)
  body : m ≠ .get → (o.body.isSome = true ↔ ∃ p ∈ a.params, (expand p.description).isSome = true)
  query : ∀ ps, o.parameters = some ps → ps ≠ [] ∧ ∀ p ∈ ps, p.location = "query"
  description : ∀ s, o.description = some s ↔
    (o.parameters.isSome = true ∨ o.body.isSome = true) ∧ a.summary ≠ "" ∧ s = a.summary

theorem Annotation.summary?_eq_some_iff {a : Annotation} {s : String} :
    a.summary? = some s ↔ a.summary ≠ "" ∧ s = a.summary := by
  unfold Annotation.summary?
  split
  · next h => simp [String.isEmpty_iff.1 h]
  · next h =>
    have hne : a.summary ≠ "" := fun he => h (String.isEmpty_iff.2 he)
    rw [Option.some.injEq, and_iff_right hne, eq_comm]

/-- Whatever a route is compiled to documents the input of its handler. -/
theorem ofAnnotation_documentsInput {marker : String} {r : Route} {a : Annotation} {o : Operation}
    (h : Operation.ofAnnotation marker r a = .ok o) : o.DocumentsInput r.method a := by
  obtain ⟨input, responses, hinput, -, rfl⟩ := ofAnnotation_eq_ok_iff.1 h
  obtain ⟨fs, hfs, hcases⟩ := Input.ofAnnotation_cases hinput
  have hdeclared := Input.fields?_ne_nil_iff hfs
  rcases hcases with ⟨hnil, rfl⟩ | ⟨hne, hm, rfl⟩ | ⟨hne, hm, content, -, rfl⟩
  · have hnone : ¬ ∃ p ∈ a.params, (expand p.description).isSome = true := fun hx => hdeclared.2 hx hnil
    exact {
      bodiless := fun _ => rfl
      unqueried := fun _ => rfl
      parameters := fun _ => iff_of_false Bool.false_ne_true hnone
      body := fun _ => iff_of_false Bool.false_ne_true hnone
      query := fun ps hps => absurd hps (by simp [Operation.withInput])
      description := fun s => by simp [Operation.withInput] }
  · exact {
      bodiless := fun _ => rfl
      unqueried := fun hn => absurd hm hn
      parameters := fun _ => iff_of_true rfl (hdeclared.1 hne)
      body := fun hn => absurd hm hn
      query := fun ps hps => by
        rw [← Option.some.inj hps]
        refine ⟨by simpa using hne, fun p hp => ?_⟩
        obtain ⟨f, -, rfl⟩ := List.mem_map.1 hp
        rfl
      description := fun s => Annotation.summary?_eq_some_iff.trans (and_iff_right (.inl rfl)).symm }
  · exact {
      bodiless := fun hg => absurd hg hm
      unqueried := fun _ => rfl
      parameters := fun hg => absurd hg hm
      body := fun _ => iff_of_true rfl (hdeclared.1 hne)
      query := fun ps hps => absurd hps (by simp [Operation.withInput])
      description := fun s => Annotation.summary?_eq_some_iff.trans (and_iff_right (.inr rfl)).symm }

namespace Group

variable {comments : Comments} {g : Group}

/-- Every operation of a document documents the input of the route that it was compiled from, the last
documented one at its URI and method. -/
theorem compile_inputs {routes : List Route} {uriPart : String} {d : Document}
    (h : (g.compile routes comments uriPart).result = .ok d) (u : String) (m : Method) (o : Operation)
    (ho : d.paths.operation? u m = some o) :
    ∃ r a, lastAt? comments u m (routesWithin uriPart routes) = some r ∧ r ∈ routes ∧
      r.uri = u ∧ r.method = m ∧ DocumentedAs comments uriPart r a ∧
      Operation.ofAnnotation g.jsonMarker r a = .ok o ∧ o.DocumentsInput m a := by
  obtain ⟨p, hp, hd, -⟩ := compile_eq_ok h
  rw [hd] at ho
  obtain ⟨r, hr, c, hcompiled⟩ := (run_current hp).compiled ho
  obtain ⟨a, ha, hoa, -⟩ := compileRoute_eq_some_iff.1 hcompiled
  obtain ⟨⟨⟨hu, hm⟩, hdoc⟩, before, after, hroutes, -⟩ := lastAt?_routesWithin_eq_some_iff.1 hr
  have hwithin := (documented_iff.1 hdoc).1
  refine ⟨r, a, hr, by simp [hroutes], hu, hm, documentedAs_iff.2 ⟨hwithin, ha⟩, hoa, ?_⟩
  rw [← hm]
  exact ofAnnotation_documentsInput hoa

end Group

/-- Two handlers at one URI and method, the second of which has parameters, and a form with a model. -/
def taggedComments : Comments where
  doc handler :=
    if handler = "Orders::list" then some "Lists orders.\n@param Query $q of no use"
    else if handler = "Orders::search" then
      some "Finds orders.\n@param Query $q [string $term required Text]\n@param Query $p [int $page]"
    else if handler = "Orders::add" then
      some "@param Form $f [string $note, App\\Order $order]\n@return Json @code 201 Added [Order $order]"
    else none
  source _ := none

theorem Group.compile_inputs_orders :
    ∃ d o, (orderGroup.compile orderRoutes taggedComments "/api").result = .ok d ∧
      d.paths.operation? "/api/orders" .get = some o ∧
      ∃ r a, lastAt? taggedComments "/api/orders" .get (routesWithin "/api" orderRoutes) = some r ∧
        r ∈ orderRoutes ∧ r.uri = "/api/orders" ∧ r.method = .get ∧
        DocumentedAs taggedComments "/api" r a ∧
        Operation.ofAnnotation orderGroup.jsonMarker r a = .ok o ∧ o.DocumentsInput .get a := by
  have hsome : ((orderGroup.compile orderRoutes taggedComments "/api").result.toOption.bind
      (·.paths.operation? "/api/orders" .get)).isSome = true := by decide +kernel
  obtain ⟨o, ho⟩ := Option.isSome_iff_exists.1 hsome
  obtain ⟨d, hd, hop⟩ := Option.bind_eq_some_iff.1 ho
  rw [toOption_eq_some_iff] at hd
  exact ⟨d, o, hd, hop, compile_inputs hd "/api/orders" .get o hop⟩

end RouteDocs
