import RouteDocs.Proofs.Compilation.References
import RouteDocs.Proofs.Security
import RouteDocs.Proofs.SortedMap

namespace RouteDocs

/-- Contexts that refer to the same things. Only where the models are defined may differ. -/
structure Context.SameButOrigins (c d : Context) : Prop where
  guards : c.guards = d.guards
  schemes : c.schemes = d.schemes
  models : c.models.keys = d.models.keys

theorem Context.SameButOrigins.addRoute {c d : Context} (h : c.SameButOrigins d) (is js : List Import)
    (r : Route) (a : Annotation) : (c.addRoute is r a).SameButOrigins (d.addRoute js r a) where
  guards := SortedMap.ext fun u => by rw [get?_guards_addRoute, get?_guards_addRoute, h.guards]
  schemes := SortedMap.ext fun s => by rw [get?_schemes_addRoute, get?_schemes_addRoute, h.schemes]
  models := SortedMap.keys_eq_of_mem fun k => by rw [mem_models_addRoute, mem_models_addRoute, h.models]

theorem Context.SameButOrigins.addModels {c d : Context} (h : c.SameButOrigins d) (is js : List Import)
    (types : List String) : (c.addModels is types).SameButOrigins (d.addModels js types) where
  guards := h.guards
  schemes := h.schemes
  models := SortedMap.keys_eq_of_mem fun k => by rw [mem_models_addModels, mem_models_addModels, h.models]

/-- Journals that refer to the same things and say the same. -/
structure Journal.SameButOrigins (j k : Journal) : Prop where
  context : j.context.SameButOrigins k.context
  notices : j.notices = k.notices

theorem Journal.SameButOrigins.add {j k : Journal} (h : j.SameButOrigins k) (is js : List Import)
    (types : List String) (ns : List Notice) : (j.add is types ns).SameButOrigins (k.add js types ns) where
  context := h.context.addModels is js types
  notices := congrArg (· ++ ns) h.notices

structure Progress.SameButOrigins (p q : Progress) : Prop where
  paths : p.paths = q.paths
  context : p.context.SameButOrigins q.context

/-- The documentation of handlers is the same, whatever files declare them. -/
def Comments.SameDocs (c d : Comments) : Prop := ∀ handler, c.doc handler = d.doc handler

section

variable {parse parse' : Source.Reader} {c d : Comments} {g : Group} {j k : Journal}

theorem Comments.SameDocs.read? (h : c.SameDocs d) (r : Route) : c.read? r = d.read? r := by
  unfold Comments.read?
  rw [h r.handler]

theorem Comments.SameDocs.annotation? (h : c.SameDocs d) (r : Route) : c.annotation? r = d.annotation? r := by
  unfold Comments.annotation?
  rw [h.read? r]

theorem Comments.SameDocs.skipped (h : c.SameDocs d) (r : Route) : c.skipped r = d.skipped r := by
  unfold Comments.skipped
  rw [h.read? r]

/-- A route fails with the same failure, or brings both compilations forward alike. -/
theorem Group.addRoute_together (h : c.SameDocs d) (ps : Paths) (r : Route) (hjk : j.SameButOrigins k) :
    CompileM.Together Journal.SameButOrigins ((addRoute parse c g ps r).exec j)
      ((addRoute parse' d g ps r).exec k) := by
  have hcr := h.annotation? r
  cases hdr : d.annotation? r with
  | none =>
    rw [hdr] at hcr
    rw [exec_addRoute_none ps j hcr, exec_addRoute_none ps k hdr, h.skipped r]
    exact .intro _ (hjk.add _ _ _ _)
  | some a =>
    rw [hdr] at hcr
    cases ho : Operation.ofAnnotation g.jsonMarker r a with
    | error e =>
      obtain ⟨types, hbuild⟩ := Operation.exec_build_error ho
      rw [exec_addRoute_error ps j hcr (hbuild _ j), exec_addRoute_error ps k hdr (hbuild _ k)]
      exact .intro _ (hjk.add _ _ _ _)
    | ok o =>
      rw [exec_addRoute_ok ps j hcr ho, exec_addRoute_ok ps k hdr ho]
      exact .intro _ ⟨hjk.context.addRoute _ _ r a, congrArg (· ++ _) hjk.notices⟩

theorem Group.collect_together (parse parse' : Source.Reader) (h : c.SameDocs d) (g : Group) (rs : List Route) :
    CompileM.Together Journal.SameButOrigins ((collect parse c g rs).exec {}) ((collect parse' d g rs).exec {}) :=
  .foldlM (fun ps r _ _ hjk => addRoute_together h ps r hjk) rs ∅ ⟨⟨rfl, rfl, rfl⟩, rfl⟩

theorem Document.build_eq_of_same {p q : Progress} (h : p.SameButOrigins q) :
    build g p.paths p.context = build g q.paths q.context := by
  have hneeded : neededSchemes p.context = neededSchemes q.context := by
    rw [neededSchemes, neededSchemes, h.context.guards, h.context.schemes]
  rw [build, build, hneeded, h.paths]

theorem Document.notices_eq_of_same {c d : Context} (h : c.SameButOrigins d) : notices c = notices d := by
  have hempty (e : Context) : e.models.isEmpty = e.models.keys.isEmpty := List.isEmpty_map.symm
  rw [notices, notices, hempty, hempty, h.models]

end

namespace Group

/-- Compilations with the same documentation have the same result, document or failure, and say the same, whatever
the source files hold and however they are parsed. Route by route they come to the same paths and the same
references; only the origins of models may differ. -/
theorem compile_same_docs (parse parse' : Source.Reader) {c d : Comments}
    (h : ∀ handler, c.doc handler = d.doc handler) (g : Group) (routes : List Route) (uriPart : String) :
    (g.compileBy parse routes c uriPart).result = (g.compileBy parse' routes d uriPart).result ∧
    (g.compileBy parse routes c uriPart).notices = (g.compileBy parse' routes d uriPart).notices ∧
    Paired Progress.SameButOrigins (run parse c g (routesWithin uriPart routes)).result
      (run parse' d g (routesWithin uriPart routes)).result := by
  have hrun := collect_together parse parse' h g (routesWithin uriPart routes)
  simp only [compileBy, run]
  generalize (collect parse c g (routesWithin uriPart routes)).exec {} = x at hrun ⊢
  generalize (collect parse' d g (routesWithin uriPart routes)).exec {} = y at hrun ⊢
  obtain @⟨result, j, k, hjk⟩ := hrun
  cases result with
  | error e => exact ⟨rfl, hjk.notices, .error e⟩
  | ok ps =>
    have hpq : Progress.SameButOrigins ⟨ps, j.context⟩ ⟨ps, k.context⟩ := ⟨rfl, hjk.context⟩
    exact ⟨Document.build_eq_of_same hpq, congrArg₂ (· ++ ·) hjk.notices (Document.notices_eq_of_same hjk.context),
      .ok hpq⟩

end Group

/-- Comments from a file that imports a model. -/
def importedComments : Comments := { taggedComments with source := fun _ => some "use shop::Order;" }

/-- Where the orders are defined, as far as a run knows. -/
def orderOrigin? (comments : Comments) : Option (Option String) :=
  (Group.run Source.parse comments orderGroup (routesWithin "/api" orderRoutes)).result.toOption.bind
    (·.context.models.get? "#/components/schemas/Order")

theorem Group.compile_same_docs_orders :
    (∀ handler, importedComments.doc handler = taggedComments.doc handler) ∧
    (orderGroup.compile orderRoutes importedComments "/api").result =
      (orderGroup.compile orderRoutes taggedComments "/api").result ∧
    (orderGroup.compile orderRoutes importedComments "/api").notices =
      (orderGroup.compile orderRoutes taggedComments "/api").notices ∧
    Paired Progress.SameButOrigins
      (run Source.parse importedComments orderGroup (routesWithin "/api" orderRoutes)).result
      (run Source.parse taggedComments orderGroup (routesWithin "/api" orderRoutes)).result ∧
    orderOrigin? importedComments = some (some "shop::Order") ∧
    orderOrigin? taggedComments = some (some "App\\Order") :=
  have hdocs : ∀ handler, importedComments.doc handler = taggedComments.doc handler := fun _ => rfl
  have hsame := compile_same_docs Source.parse Source.parse hdocs orderGroup orderRoutes "/api"
  ⟨hdocs, hsame.1, hsame.2.1, hsame.2.2, by decide +kernel, by decide +kernel⟩

end RouteDocs
