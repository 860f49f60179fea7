import RouteDocs.Proofs.Compilation.Operations
import RouteDocs.Proofs.Guards
import RouteDocs.Proofs.Security

namespace RouteDocs

variable {parse : Source.Reader} {comments : Comments} {g : Group}

/-- One of the routes is documented, has this URI and passes this guard. -/
def Guarded (comments : Comments) (rs : List Route) (u s : String) : Prop :=
  ∃ r ∈ rs, (comments.annotation? r).isSome = true ∧ r.uri = u ∧ s ∈ r.middleware

theorem guarded_routesWithin {uriPart : String} {routes : List Route} {u s : String} :
    Guarded comments (routesWithin uriPart routes) u s ↔
      ∃ r ∈ routes, Documented comments uriPart r ∧ r.uri = u ∧ s ∈ r.middleware := by
  refine exists_congr fun r => ?_
  rw [mem_routesWithin, documented_iff]
  tauto

/-- A run keeps the guards of the documented routes. -/
theorem run_keeps {rs : List Route} {p : Progress} (h : (Group.run parse comments g rs).result = .ok p) :
    p.context.Keeps (rs.filter fun r => (comments.annotation? r).isSome) := by
  refine Context.SameGuards.keeps ?_ (Context.keeps_foldl_addGuards _)
  refine Group.run_induction (P := fun rs p => p.context.SameGuards
    ((rs.filter fun r => (comments.annotation? r).isSome).foldl Context.addGuards {})) ⟨rfl, rfl⟩ ?_ ?_ h
  · intro rs p r ih hn
    simpa [hn] using ih
  · intro rs p r a o ih ha _
    simpa [ha, Progress.add] using ih.addRoute (comments.imports parse r) r a

/-- A context knows nothing but the guards of the documented routes, and each of these guards is in
use. -/
structure Context.Traced (comments : Comments) (rs : List Route) (c : Context) : Prop where
  guards : ∀ u s, c.guards.get? u = some s → Guarded comments rs u s
  schemes : ∀ s u, c.schemes.get? s = some u → Guarded comments rs u s
  used : ∀ u s, Guarded comments rs u s → (c.schemes.get? s).isSome = true

theorem run_traced {rs : List Route} {p : Progress} (h : (Group.run parse comments g rs).result = .ok p) :
    p.context.Traced comments rs where
  guards u s hs := by
    obtain ⟨r, hr, hm⟩ := ((run_keeps h).last u s).1 hs
    obtain ⟨hmem, hd⟩ := List.mem_filter.1 hr.mem
    exact ⟨r, hmem, hd, hr.1.1, List.mem_of_getLast? hm⟩
  schemes s u hs := by
    obtain ⟨r, hr, hu⟩ := ((run_keeps h).first s u).1 hs
    obtain ⟨hmem, hd⟩ := List.mem_filter.1 hr.mem
    exact ⟨r, hmem, hd, hu, hr.1⟩
  used u s hs := by
    obtain ⟨r, hr, hd, -, hm⟩ := hs
    rw [← SortedMap.mem_keys_iff, (run_keeps h).used]
    exact ⟨r, List.mem_filter.2 ⟨hr, hd⟩, hm⟩

/-- The needed schemes are the guards of the documented routes. -/
theorem Context.Traced.needs_iff {rs : List Route} {c : Context} (h : c.Traced comments rs) {s : String} :
    c.Needs s ↔ ∃ u, Guarded comments rs u s := by
  constructor
  · intro hx
    obtain ⟨u, hs⟩ := hx
    rcases hs with hs | hs
    · exact ⟨u, h.guards u s hs⟩
    · exact ⟨u, h.schemes s u hs⟩
  · intro hx
    obtain ⟨u, hs⟩ := hx
    obtain ⟨v, hv⟩ := Option.isSome_iff_exists.1 (h.used u s hs)
    exact ⟨v, .inr hv⟩

/-- An operation requires the guards of the route that it was compiled from. -/
theorem Progress.Current.guarded {rs : List Route} {p : Progress} (h : p.Current parse comments g rs)
    {u : String} {m : Method} {o : Operation} (ho : p.paths.operation? u m = some o)
    {req : Requirement} (hreq : req ∈ o.security) {s : String} (hs : s ∈ req.keys) :
    ∃ v, Guarded comments rs v s := by
  obtain ⟨r, hr, c, hcompiled⟩ := h.compiled ho
  obtain ⟨a, ha, hoa, -⟩ := Group.compileRoute_eq_some_iff.1 hcompiled
  have hmem : r ∈ rs := List.mem_reverse.1 (List.mem_of_find?_eq_some hr)
  rw [(ofAnnotation_eq_ok hoa).2] at hreq
  exact ⟨r.uri, r, hmem, by simp [ha], rfl, mem_middleware_of_requirement hreq hs⟩

namespace Group

/-- What operations require is defined as in the settings. Where every documented route can be compiled,
a document is missing exactly because a guard of one of these routes has no definition, and the report
names such a guard and the URI of such a route. -/
theorem compile_security (routes : List Route) (comments : Comments) (uriPart : String) (g : Group) :
    (∀ d, (g.compile routes comments uriPart).result = .ok d →
      ∀ u m o, d.paths.operation? u m = some o → ∀ req ∈ o.security, ∀ s ∈ req.keys,
        ∃ schemes definition, d.securitySchemes = some schemes ∧
          schemes.get? s = some definition ∧ g.security.get? s = some definition) ∧
    ((∀ r ∈ routes, ∀ a, DocumentedAs comments uriPart r a →
        (∃ input, Input.ofAnnotation r.method r.handler a = .ok input) ∧
        ∃ responses, Responses.ofAnnotation r.handler g.jsonMarker a = .ok responses) →
      ((∃ s u, (g.compile routes comments uriPart).result = .error (.missingScheme s u)) ↔
        ∃ r ∈ routes, Documented comments uriPart r ∧ ∃ s ∈ r.middleware, s ∉ g.security.keys) ∧
      ∀ s u, (g.compile routes comments uriPart).result = .error (.missingScheme s u) →
        s ∉ g.security.keys ∧
          ∃ r ∈ routes, Documented comments uriPart r ∧ r.uri = u ∧ s ∈ r.middleware) := by
  constructor
  · intro d h u m o ho req hreq s hs
    obtain ⟨p, hp, hd, hb⟩ := compile_eq_ok h
    rw [hd] at ho
    exact Document.build_scheme hb ((run_traced hp).needs_iff.2 ((run_current hp).guarded ho hreq hs))
  · intro hcompiled
    have hkeys (s : String) : s ∉ g.security.keys ↔ g.security.get? s = none := by
      rw [SortedMap.mem_keys_iff, Bool.not_eq_true, Option.isSome_eq_false_iff, Option.isNone_iff_eq_none]
    obtain ⟨p, hp, hresult⟩ := compile_eq_build hcompiled
    have ht := run_traced hp
    rw [hresult]
    constructor
    · rw [Document.build_missing_iff]
      simp only [ht.needs_iff, guarded_routesWithin, ← hkeys]
      constructor
      · intro hx
        obtain ⟨s, ⟨u, r, hr, hd, -, hm⟩, hs⟩ := hx
        exact ⟨r, hr, hd, s, hm, hs⟩
      · intro hx
        obtain ⟨r, hr, hd, s, hm, hs⟩ := hx
        exact ⟨s, ⟨r.uri, r, hr, hd, rfl, hm⟩, hs⟩
    · intro s u h
      obtain ⟨hs, hg⟩ := Document.build_missing h
      refine ⟨(hkeys s).2 hs, guarded_routesWithin.1 ?_⟩
      rcases hg with hg | hg
      · exact ht.guards u s hg
      · exact ht.schemes s u hg

/-- The comments on orders have no tags, so that no input and no responses can fail. -/
theorem orders_annotated {uriPart : String} : ∀ r ∈ orderRoutes, ∀ a,
    DocumentedAs orderComments uriPart r a → a.tags = [] := by
  have hall : ∀ r ∈ orderRoutes, (orderComments.annotation? r).all (·.tags = []) = true := by
    decide +kernel
  intro r hr a ha
  have h := hall r hr
  rw [(documentedAs_iff.1 ha).2] at h
  simpa using h

theorem compile_security_orders :
    (∃ d, (orderGroup.compile orderRoutes orderComments "/api").result = .ok d ∧
      ∀ u m o, d.paths.operation? u m = some o → ∀ req ∈ o.security, ∀ s ∈ req.keys,
        ∃ schemes definition, d.securitySchemes = some schemes ∧
          schemes.get? s = some definition ∧ orderGroup.security.get? s = some definition) ∧
    ∃ s u, ({ orderGroup with security := ∅ }.compile orderRoutes orderComments "/api").result =
      .error (.missingScheme s u) := by
  constructor
  · obtain ⟨d, hd⟩ := orderGroup_compiles
    exact ⟨d, hd, (compile_security orderRoutes orderComments "/api" orderGroup).1 d hd⟩
  · have hfails := (compile_security orderRoutes orderComments "/api"
      { orderGroup with security := ∅ }).2
    refine (hfails ?_).1.2 ⟨listOrders, by decide, ?_⟩
    · intro r hr a ha
      obtain ⟨summary, tags⟩ := a
      have ht : tags = [] := orders_annotated r hr _ ha
      subst ht
      exact ⟨⟨none, rfl⟩, ⟨∅, rfl⟩⟩
    · exact ⟨⟨_, ⟨by decide, "Lists orders.", rfl, rfl⟩⟩, "auth", by decide, by decide⟩

end Group

end RouteDocs
