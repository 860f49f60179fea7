import RouteDocs.Proofs.Compilation.Security
import RouteDocs.Proofs.Document

namespace RouteDocs

namespace Document

/-- The schemes that a document defines, none where it has no components. -/
def definitions (d : Document) : SortedMap Json := d.securitySchemes.getD ∅

/-- An operation of the document requires the scheme. -/
def Requires (d : Document) (s : String) : Prop :=
  ∃ u m o, d.paths.operation? u m = some o ∧ ∃ req ∈ o.security, s ∈ req.keys

/-- The document defines only what its operations require, and has no components where they require nothing. -/
structure NoOrphans (d : Document) : Prop where
  required : ∀ schemes, d.securitySchemes = some schemes → ∀ s ∈ schemes.keys, d.Requires s
  omitted : (∀ u m o, d.paths.operation? u m = some o → o.security = []) → d.securitySchemes = none

variable {g : Group} {ps : Paths} {c : Context} {d : Document} {s : String}

theorem mem_definitions_iff (h : build g ps c = .ok d) : s ∈ d.definitions.keys ↔ c.Needs s := by
  obtain ⟨defined, hdefines, rfl⟩ := build_eq_ok_iff.1 h
  have hdefined : (if defined.isEmpty then none else some defined).getD ∅ = defined := by
    split
    · next he => exact (SortedMap.isEmpty_iff.1 he).symm
    · rfl
  rw [definitions, hdefined, SortedMap.mem_keys_iff]
  by_cases hs : c.Needs s
  · obtain ⟨definition, -, hget⟩ := hdefines.needed s hs
    simp [hs, hget]
  · simp [hs, hdefines.only s hs]

theorem securitySchemes_eq_none_iff (h : build g ps c = .ok d) :
    d.securitySchemes = none ↔ ∀ s, s ∉ d.definitions.keys := by
  simp only [mem_definitions_iff h]
  obtain ⟨defined, hdefines, rfl⟩ := build_eq_ok_iff.1 h
  rw [forall_not_needs_iff, ← hdefines.isEmpty_iff]
  simp

/-- Where all that is defined is required, there are no components without requirements either. -/
theorem noOrphans_iff (h : build g ps c = .ok d) : d.NoOrphans ↔ ∀ s ∈ d.definitions.keys, d.Requires s := by
  constructor
  · intro ho s hs
    cases hd : d.securitySchemes with
    | none => exact absurd hs ((securitySchemes_eq_none_iff h).1 hd s)
    | some schemes =>
      rw [definitions, hd] at hs
      exact ho.required schemes hd s hs
  · intro hall
    refine ⟨fun schemes hd s hs => hall s (by rwa [definitions, hd]), fun hnone => ?_⟩
    rw [securitySchemes_eq_none_iff h]
    intro s hs
    obtain ⟨u, m, o, ho, req, hreq, -⟩ := hall s hs
    rw [hnone u m o ho] at hreq
    exact absurd hreq (by simp)

end Document

theorem exists_requirement_iff {r : Route} {s : String} :
    (∃ req ∈ r.requirements, s ∈ req.keys) ↔ s ∈ r.middleware := by
  constructor
  · intro hx
    obtain ⟨req, hreq, hs⟩ := hx
    exact mem_middleware_of_requirement hreq hs
  · intro hs
    exact ⟨_, List.mem_map_of_mem hs, List.mem_singleton_self s⟩

variable {comments : Comments} {g : Group} {routes : List Route} {uriPart : String} {d : Document}

/-- A documented route that no later one replaces. -/
def Stands (comments : Comments) (uriPart : String) (routes : List Route) (r : Route) : Prop :=
  IsLast (fun q => Documented comments uriPart q ∧ q.uri = r.uri ∧ q.method = r.method) routes r

theorem lastAt?_eq_some_iff_stands {u : String} {m : Method} {r : Route} :
    lastAt? comments u m (routesWithin uriPart routes) = some r ↔
      Stands comments uriPart routes r ∧ r.uri = u ∧ r.method = m := by
  rw [lastAt?_routesWithin_eq_some_iff]
  constructor
  · intro hx
    obtain ⟨⟨⟨rfl, rfl⟩, hd⟩, before, after, hsplit, hafter⟩ := hx
    exact ⟨⟨⟨hd, rfl, rfl⟩, before, after, hsplit, fun q hq h => hafter q hq h.2.1 h.2.2 h.1⟩, rfl, rfl⟩
  · intro hx
    obtain ⟨⟨⟨hd, -, -⟩, before, after, hsplit, hafter⟩, rfl, rfl⟩ := hx
    exact ⟨⟨⟨rfl, rfl⟩, hd⟩, before, after, hsplit, fun q hq hu hm h => hafter q hq ⟨h, hu, hm⟩⟩

/-- One route alone stands at a place. -/
theorem Stands.unique {q r : Route} (hq : Stands comments uriPart routes q) (hr : Stands comments uriPart routes r)
    (hu : q.uri = r.uri) (hm : q.method = r.method) : q = r := by
  have hlast := lastAt?_eq_some_iff_stands.2 ⟨hq, hu, hm⟩
  rw [lastAt?_eq_some_iff_stands.2 ⟨hr, rfl, rfl⟩] at hlast
  exact (Option.some.inj hlast).symm

namespace Group

/-- The operations of a document are those of the routes that are not replaced. -/
theorem operation_stands (h : (g.compile routes comments uriPart).result = .ok d) {u : String} {m : Method}
    {o : Operation} (ho : d.paths.operation? u m = some o) :
    ∃ r, Stands comments uriPart routes r ∧ r.uri = u ∧ r.method = m ∧ o.security = r.requirements := by
  obtain ⟨p, hp, hd, -⟩ := compile_eq_ok h
  rw [hd] at ho
  obtain ⟨r, hr, c, hcompiled⟩ := (run_current hp).compiled ho
  obtain ⟨a, -, hoa, -⟩ := compileRoute_eq_some_iff.1 hcompiled
  obtain ⟨hstands, hu, hm⟩ := lastAt?_eq_some_iff_stands.1 hr
  exact ⟨r, hstands, hu, hm, (ofAnnotation_eq_ok hoa).2⟩

theorem exists_operation (h : (g.compile routes comments uriPart).result = .ok d) {r : Route}
    (hr : Stands comments uriPart routes r) :
    ∃ o, d.paths.operation? r.uri r.method = some o := by
  obtain ⟨p, hp, hd, -⟩ := compile_eq_ok h
  have hlast : lastAt? comments r.uri r.method (routesWithin uriPart routes) = some r :=
    lastAt?_eq_some_iff_stands.2 ⟨hr, rfl, rfl⟩
  rw [hd, ← Option.isSome_iff_exists, (run_current hp).operation?_isSome_iff, hlast, Option.isSome_some]

theorem requires_iff (h : (g.compile routes comments uriPart).result = .ok d) {s : String} :
    d.Requires s ↔ ∃ r, Stands comments uriPart routes r ∧ s ∈ r.middleware := by
  constructor
  · intro hx
    obtain ⟨u, m, o, ho, hreq⟩ := hx
    obtain ⟨r, hr, -, -, hsecurity⟩ := operation_stands h ho
    rw [hsecurity] at hreq
    exact ⟨r, hr, exists_requirement_iff.1 hreq⟩
  · intro hx
    obtain ⟨r, hr, hs⟩ := hx
    obtain ⟨o, ho⟩ := exists_operation h hr
    obtain ⟨q, hq, hu, hm, hsecurity⟩ := operation_stands h ho
    rw [hq.unique hr hu hm] at hsecurity
    exact ⟨r.uri, r.method, o, ho, hsecurity ▸ exists_requirement_iff.2 hs⟩

theorem definitions_iff (h : (g.compile routes comments uriPart).result = .ok d) {s : String} :
    s ∈ d.definitions.keys ↔ ∃ r ∈ routes, Documented comments uriPart r ∧ s ∈ r.middleware := by
  obtain ⟨p, hp, -, hb⟩ := compile_eq_ok h
  rw [Document.mem_definitions_iff hb, (run_traced hp).needs_iff]
  simp only [guarded_routesWithin]
  constructor
  · intro hx
    obtain ⟨u, r, hr, hd, -, hs⟩ := hx
    exact ⟨r, hr, hd, hs⟩
  · intro hx
    obtain ⟨r, hr, hd, hs⟩ := hx
    exact ⟨r.uri, r, hr, hd, rfl, hs⟩

theorem noOrphans_compile_iff (h : (g.compile routes comments uriPart).result = .ok d) :
    d.NoOrphans ↔ ∀ s ∈ d.definitions.keys, d.Requires s := by
  obtain ⟨p, -, -, hb⟩ := compile_eq_ok h
  exact Document.noOrphans_iff hb

/-- A document defines the guards of all documented routes, and its operations require those of the routes that are
not replaced. So no definition is left over exactly if each guard of a route that is replaced is also one of a route
that is not. -/
theorem compile_noOrphans_iff (h : (g.compile routes comments uriPart).result = .ok d) :
    (∀ s, s ∈ d.definitions.keys ↔ ∃ r ∈ routes, Documented comments uriPart r ∧ s ∈ r.middleware) ∧
    (∀ s, d.Requires s ↔ ∃ r, Stands comments uriPart routes r ∧ s ∈ r.middleware) ∧
    (d.securitySchemes = none ↔ ∀ r ∈ routes, Documented comments uriPart r → r.middleware = []) ∧
    (d.NoOrphans ↔ ∀ r ∈ routes, Documented comments uriPart r → ∀ s ∈ r.middleware,
      ∃ q, Stands comments uriPart routes q ∧ s ∈ q.middleware) := by
  refine ⟨fun s => definitions_iff h, fun s => requires_iff h, ?_, ?_⟩
  · obtain ⟨p, -, -, hb⟩ := compile_eq_ok h
    rw [Document.securitySchemes_eq_none_iff hb]
    simp only [definitions_iff h, not_exists, not_and, List.eq_nil_iff_forall_not_mem]
    exact ⟨fun hnone r hr hd s => hnone s r hr hd, fun hnone s r hr hd => hnone r hr hd s⟩
  · rw [noOrphans_compile_iff h]
    simp only [definitions_iff h, requires_iff h, forall_exists_index, and_imp]
    exact ⟨fun hall r hr hd s hs => hall s r hr hd hs, fun hall s r hr hd hs => hall r hr hd s hs⟩

/-- The search has the guard of the list that it replaces. -/
theorem compile_noOrphans_iff_orders :
    ∃ d, (orderGroup.compile orderRoutes orderComments "/api").result = .ok d ∧ d.NoOrphans ∧
      d.Requires "admin" ∧ "auth" ∈ d.definitions.keys := by
  obtain ⟨d, hd⟩ := orderGroup_compiles
  obtain ⟨hdefined, hrequired, -, hno⟩ := compile_noOrphans_iff hd
  have hlist : Documented orderComments "/api" listOrders := ⟨_, by decide, "Lists orders.", rfl, rfl⟩
  have hsearch : Documented orderComments "/api" searchOrders := ⟨_, by decide, "Finds orders.", rfl, rfl⟩
  have hstands : Stands orderComments "/api" orderRoutes searchOrders := by
    refine ⟨⟨hsearch, rfl, rfl⟩, [listOrders], [addOrder, showOrders], rfl, fun q hq h => ?_⟩
    have hplace : ∀ q ∈ [addOrder, showOrders], ¬ (q.uri = searchOrders.uri ∧ q.method = searchOrders.method) := by
      decide
    exact hplace q hq h.2
  have hguards : ∀ r ∈ orderRoutes, ∀ s ∈ r.middleware, s ∈ searchOrders.middleware := by decide
  exact ⟨d, hd, hno.2 fun r hr _ s hs => ⟨searchOrders, hstands, hguards r hr s hs⟩,
    (hrequired "admin").2 ⟨searchOrders, hstands, by decide⟩,
    (hdefined "auth").2 ⟨listOrders, by decide, hlist, by decide⟩⟩

def openSearch : Route := { searchOrders with middleware := [] }

/-- A guarded route, and one without guards that replaces it. -/
def replacedRoutes : List Route := [listOrders, openSearch]

theorem replacedRoutes_orphan :
    ∃ d, (orderGroup.compile replacedRoutes orderComments "/api").result = .ok d ∧
      "auth" ∈ d.definitions.keys ∧ (∀ u m o, d.paths.operation? u m = some o → o.security = []) ∧
      ¬ d.NoOrphans := by
  obtain ⟨d, hd⟩ := isOk_iff.1
    (show (orderGroup.compile replacedRoutes orderComments "/api").result.isOk = true by decide +kernel)
  have hlist : Documented orderComments "/api" listOrders := ⟨_, by decide, "Lists orders.", rfl, rfl⟩
  have hsearch : Documented orderComments "/api" openSearch := ⟨_, by decide, "Finds orders.", rfl, rfl⟩
  have hauth : "auth" ∈ d.definitions.keys := (definitions_iff hd).2 ⟨listOrders, by decide, hlist, by decide⟩
  have hstands : Stands orderComments "/api" replacedRoutes openSearch :=
    ⟨⟨hsearch, rfl, rfl⟩, [listOrders], [], rfl, by simp⟩
  have hnone (u : String) (m : Method) (o : Operation) (ho : d.paths.operation? u m = some o) : o.security = [] := by
    obtain ⟨r, hr, -, -, hsecurity⟩ := operation_stands hd ho
    have hplace : ∀ r ∈ replacedRoutes, r.uri = openSearch.uri ∧ r.method = openSearch.method := by decide
    obtain ⟨hu, hm⟩ := hplace r hr.mem
    rw [hsecurity, hr.unique hstands hu hm]
    rfl
  refine ⟨d, hd, hauth, hnone, fun hno => ?_⟩
  obtain ⟨u, m, o, ho, req, hreq, -⟩ := (noOrphans_compile_iff hd).1 hno "auth" hauth
  rw [hnone u m o ho] at hreq
  exact absurd hreq (by simp)

end Group

end RouteDocs
