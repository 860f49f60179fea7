import Mathlib.Data.List.Induction
import RouteDocs.Proofs.Compilation.Steps

namespace RouteDocs

/-- The annotation of a documented route. -/
def Comments.annotation? (c : Comments) (r : Route) : Option Annotation :=
  match c.read? r with
  | some (.ok a) => some a
  | _ => none

/-- What is said about a route that is passed over. -/
def Comments.skipped (c : Comments) (r : Route) : List Notice :=
  match c.read? r with
  | some (.error e) => [.skippedRoute r.method.text r.uri e]
  | _ => []

/-- The route belongs to a group, and its handler has a comment that says this. -/
structure DocumentedAs (comments : Comments) (uriPart : String) (r : Route) (a : Annotation) : Prop where
  within : uriPart.toList <:+: r.uri.toList
  read : ∃ doc, comments.doc r.handler = some doc ∧ Annotation.parse doc = .ok a

def Documented (comments : Comments) (uriPart : String) (r : Route) : Prop :=
  ∃ a, DocumentedAs comments uriPart r a

theorem mem_routesWithin {uriPart : String} {routes : List Route} {r : Route} :
    r ∈ routesWithin uriPart routes ↔ r ∈ routes ∧ uriPart.toList <:+: r.uri.toList := by
  rw [routesWithin, List.mem_filter, Text.containsText_iff]

theorem annotation?_eq_some_iff {comments : Comments} {r : Route} {a : Annotation} :
    comments.annotation? r = some a ↔
      ∃ doc, comments.doc r.handler = some doc ∧ Annotation.parse doc = .ok a := by
  unfold Comments.annotation? Comments.read?
  cases comments.doc r.handler with
  | none => simp
  | some doc =>
    cases hp : Annotation.parse doc with
    | error e => simp [hp]
    | ok b => simp [hp]

theorem documentedAs_iff {comments : Comments} {uriPart : String} {r : Route} {a : Annotation} :
    DocumentedAs comments uriPart r a ↔
      uriPart.toList <:+: r.uri.toList ∧ comments.annotation? r = some a := by
  rw [annotation?_eq_some_iff]
  exact ⟨fun h => ⟨h.within, h.read⟩, fun h => ⟨h.1, h.2⟩⟩

theorem documented_iff {comments : Comments} {uriPart : String} {r : Route} :
    Documented comments uriPart r ↔
      uriPart.toList <:+: r.uri.toList ∧ (comments.annotation? r).isSome = true := by
  simp only [Documented, documentedAs_iff, Option.isSome_iff_exists, exists_and_left]

section

variable (o : Operation) (summary : Option String) (input : Option Input)

@[simp] theorem Operation.id_withInput : (o.withInput summary input).id = o.id := by
  rcases input with _ | ⟨parameters⟩ | ⟨content⟩ <;> rfl

@[simp] theorem Operation.responses_withInput : (o.withInput summary input).responses = o.responses := by
  rcases input with _ | ⟨parameters⟩ | ⟨content⟩ <;> rfl

@[simp] theorem Operation.security_withInput : (o.withInput summary input).security = o.security := by
  rcases input with _ | ⟨parameters⟩ | ⟨content⟩ <;> rfl

end

/-- All that an operation is made of: its route, its input and its responses. -/
theorem ofAnnotation_eq_ok_iff {marker : String} {r : Route} {a : Annotation} {o : Operation} :
    Operation.ofAnnotation marker r a = .ok o ↔ ∃ input responses,
      Input.ofAnnotation r.method r.handler a = .ok input ∧
      Responses.ofAnnotation r.handler marker a = .ok responses ∧
      o = Operation.withInput { id := r.handler, responses, security := r.requirements } a.summary? input := by
  simp only [Operation.ofAnnotation, bind_eq_ok_iff, pure_eq_ok, Except.ok.injEq, exists_and_left,
    eq_comm (a := o)]

theorem ofAnnotation_eq_ok {marker : String} {r : Route} {a : Annotation} {o : Operation}
    (h : Operation.ofAnnotation marker r a = .ok o) : o.id = r.handler ∧ o.security = r.requirements := by
  obtain ⟨input, responses, -, -, rfl⟩ := ofAnnotation_eq_ok_iff.1 h
  simp

/-- A route has an operation if its input and its responses can be described. -/
theorem ofAnnotation_succeeds {marker : String} {r : Route} {a : Annotation}
    (hi : ∃ input, Input.ofAnnotation r.method r.handler a = .ok input)
    (hr : ∃ responses, Responses.ofAnnotation r.handler marker a = .ok responses) :
    ∃ o, Operation.ofAnnotation marker r a = .ok o := by
  obtain ⟨input, hi⟩ := hi
  obtain ⟨responses, hr⟩ := hr
  exact ⟨_, ofAnnotation_eq_ok_iff.2 ⟨input, responses, hi, hr, rfl⟩⟩

def Progress.add (p : Progress) (imports : List Import) (r : Route) (a : Annotation) (o : Operation) :
    Progress :=
  ⟨p.paths.add r.uri r.method o, p.context.addRoute imports r a⟩

namespace Group

variable {parse : Source.Reader} {comments : Comments} {g : Group} {r : Route} {rs : List Route} {p : Progress}

theorem exec_compileRoute_none (h : comments.annotation? r = none) (j : Journal) :
    (compileRoute parse comments g r).exec j = (.ok none, j.add [] [] (comments.skipped r)) := by
  rw [Comments.annotation?] at h
  rw [compileRoute, Comments.skipped]
  rcases hread : comments.read? r with _ | _ | a
  · simp
  · rfl
  · simp [hread] at h

theorem compileRoute_of_some {a : Annotation} (h : comments.annotation? r = some a) :
    compileRoute parse comments g r = do
      let o ← Operation.build (comments.imports parse r) g.jsonMarker r a
      return some o := by
  rw [Comments.annotation?] at h
  rw [compileRoute]
  rcases hread : comments.read? r with _ | _ | b
  · simp [hread] at h
  · simp [hread] at h
  · rw [hread] at h
    rw [Option.some.inj h]

theorem exec_compileRoute_ok {a : Annotation} {o : Operation} (ha : comments.annotation? r = some a)
    (ho : Operation.ofAnnotation g.jsonMarker r a = .ok o) (j : Journal) :
    (compileRoute parse comments g r).exec j = (.ok (some o),
      ⟨j.context.addRoute (comments.imports parse r) r a, j.notices ++ Input.notices r.method r.handler a⟩) := by
  rw [compileRoute_of_some ha, CompileM.exec_bind_ok (Operation.exec_build_ok ho _ j), CompileM.exec_pure]

theorem exec_compileRoute_error {a : Annotation} {e : Failure} {j k : Journal}
    (ha : comments.annotation? r = some a)
    (h : (Operation.build (comments.imports parse r) g.jsonMarker r a).exec j = (.error e, k)) :
    (compileRoute parse comments g r).exec j = (.error e, k) := by
  rw [compileRoute_of_some ha, CompileM.exec_bind_error h]

theorem compileRoute_eq_some_iff {o : Operation} {j k : Journal} :
    (compileRoute parse comments g r).exec j = (.ok (some o), k) ↔
      ∃ a, comments.annotation? r = some a ∧ Operation.ofAnnotation g.jsonMarker r a = .ok o ∧
        k = ⟨j.context.addRoute (comments.imports parse r) r a, j.notices ++ Input.notices r.method r.handler a⟩ := by
  cases ha : comments.annotation? r with
  | none => simp [exec_compileRoute_none ha]
  | some a =>
    cases ho : Operation.ofAnnotation g.jsonMarker r a with
    | error e =>
      obtain ⟨types, hbuild⟩ := Operation.exec_build_error ho
      simp [exec_compileRoute_error ha (hbuild (comments.imports parse r) j), ho]
    | ok o' =>
      rw [exec_compileRoute_ok ha ho]
      simp [ho, eq_comm]

section

variable (ps : Paths) (j : Journal)

theorem exec_addRoute_none (h : comments.annotation? r = none) :
    (addRoute parse comments g ps r).exec j = (.ok ps, j.add [] [] (comments.skipped r)) := by
  rw [addRoute, CompileM.exec_bind_ok (exec_compileRoute_none h j)]
  rfl

theorem exec_addRoute_ok {a : Annotation} {o : Operation} (ha : comments.annotation? r = some a)
    (ho : Operation.ofAnnotation g.jsonMarker r a = .ok o) :
    (addRoute parse comments g ps r).exec j = (.ok (ps.add r.uri r.method o),
      ⟨j.context.addRoute (comments.imports parse r) r a, j.notices ++ Input.notices r.method r.handler a⟩) := by
  rw [addRoute, CompileM.exec_bind_ok (exec_compileRoute_ok ha ho j)]
  rfl

theorem exec_addRoute_error {a : Annotation} {e : Failure} {k : Journal} (ha : comments.annotation? r = some a)
    (h : (Operation.build (comments.imports parse r) g.jsonMarker r a).exec j = (.error e, k)) :
    (addRoute parse comments g ps r).exec j = (.error e, k) := by
  rw [addRoute, CompileM.exec_bind_error (exec_compileRoute_error ha h)]

end

/-- All that a step can do: pass over a route, or add its operation. -/
theorem addRoute_eq_ok_iff {ps qs : Paths} {j k : Journal} :
    (addRoute parse comments g ps r).exec j = (.ok qs, k) ↔
      (comments.annotation? r = none ∧ qs = ps ∧ k = j.add [] [] (comments.skipped r)) ∨
      ∃ a o, comments.annotation? r = some a ∧ Operation.ofAnnotation g.jsonMarker r a = .ok o ∧
        qs = ps.add r.uri r.method o ∧
        k = ⟨j.context.addRoute (comments.imports parse r) r a,
          j.notices ++ Input.notices r.method r.handler a⟩ := by
  cases ha : comments.annotation? r with
  | none =>
    rw [exec_addRoute_none ps j ha]
    simp [eq_comm]
  | some a =>
    cases ho : Operation.ofAnnotation g.jsonMarker r a with
    | error e =>
      obtain ⟨types, hbuild⟩ := Operation.exec_build_error ho
      simp [exec_addRoute_error ps j ha (hbuild (comments.imports parse r) j), ho]
    | ok o =>
      rw [exec_addRoute_ok ps j ha ho]
      simp [ho, eq_comm]

theorem collect_append_singleton (rs : List Route) (r : Route) : collect parse comments g (rs ++ [r]) =
    collect parse comments g rs >>= fun ps => addRoute parse comments g ps r := by
  rw [collect, List.foldlM_append, collect]
  simp only [List.foldlM_cons, List.foldlM_nil, bind_pure]

theorem run_eq_ok_iff : (run parse comments g rs).result = .ok p ↔
    ∃ notices, (collect parse comments g rs).exec {} = (.ok p.paths, ⟨p.context, notices⟩) := by
  rw [run]
  rcases (collect parse comments g rs).exec {} with ⟨e | ps, context, notices⟩
  · simp
  · obtain ⟨paths, c⟩ := p
    simp

/-- One more route is passed over, or its operation is added. -/
theorem run_append_singleton_iff {q : Progress} : (run parse comments g (rs ++ [r])).result = .ok q ↔
    ∃ p, (run parse comments g rs).result = .ok p ∧
      ((comments.annotation? r = none ∧ q = p) ∨
        ∃ a o, comments.annotation? r = some a ∧ Operation.ofAnnotation g.jsonMarker r a = .ok o ∧
          q = p.add (comments.imports parse r) r a o) := by
  rw [run_eq_ok_iff, collect_append_singleton]
  simp only [CompileM.exec_bind_eq_ok_iff, addRoute_eq_ok_iff]
  constructor
  · intro hx
    obtain ⟨notices, ps, j, hrs, hr⟩ := hx
    refine ⟨⟨ps, j.context⟩, run_eq_ok_iff.2 ⟨j.notices, hrs⟩, ?_⟩
    rcases hr with ⟨ha, hps, hj⟩ | ⟨a, o, ha, ho, hps, hj⟩
    · exact .inl ⟨ha, Progress.ext hps (congrArg Journal.context hj)⟩
    · exact .inr ⟨a, o, ha, ho, Progress.ext hps (congrArg Journal.context hj)⟩
  · intro hx
    obtain ⟨p, hp, hr⟩ := hx
    obtain ⟨notices, hrs⟩ := run_eq_ok_iff.1 hp
    rcases hr with ⟨ha, rfl⟩ | ⟨a, o, ha, ho, rfl⟩
    · exact ⟨_, _, _, hrs, .inl ⟨ha, rfl, rfl⟩⟩
    · exact ⟨_, _, _, hrs, .inr ⟨a, o, ha, ho, rfl, rfl⟩⟩

/-- What holds at the start and is kept by each step holds after a run. -/
theorem run_induction {P : List Route → Progress → Prop} (start : P [] {})
    (skip : ∀ rs p r, P rs p → comments.annotation? r = none → P (rs ++ [r]) p)
    (add : ∀ rs p r a o, P rs p → comments.annotation? r = some a →
      Operation.ofAnnotation g.jsonMarker r a = .ok o →
      P (rs ++ [r]) (p.add (comments.imports parse r) r a o))
    (h : (run parse comments g rs).result = .ok p) : P rs p := by
  -- A run goes on at the end of its routes, so the last route is the one that a step adds.
  induction rs using List.reverseRecOn generalizing p with
  | nil =>
    rw [← Except.ok.inj h]
    exact start
  | append_singleton rs r ih =>
    obtain ⟨p', hp, ⟨ha, rfl⟩ | ⟨a, o, ha, ho, rfl⟩⟩ := run_append_singleton_iff.1 h
    · exact skip rs p r (ih hp) ha
    · exact add rs p' r a o (ih hp) ha ho

/-- A run ends well if each documented route has an operation. -/
theorem run_succeeds_iff : (∃ p, (run parse comments g rs).result = .ok p) ↔
    ∀ r ∈ rs, ∀ a, comments.annotation? r = some a →
      ∃ o, Operation.ofAnnotation g.jsonMarker r a = .ok o := by
  constructor
  · intro hx
    obtain ⟨p, h⟩ := hx
    refine run_induction (P := fun rs _ => ∀ r ∈ rs, ∀ a, comments.annotation? r = some a →
      ∃ o, Operation.ofAnnotation g.jsonMarker r a = .ok o) ?_ ?_ ?_ h
    · simp
    · intro rs p r ih hn q hq a ha
      rcases List.mem_append.1 hq with hq | hq
      · exact ih q hq a ha
      · rw [List.mem_singleton.1 hq, hn] at ha
        exact absurd ha (by simp)
    · intro rs p r b o ih hb ho q hq a ha
      rcases List.mem_append.1 hq with hq | hq
      · exact ih q hq a ha
      · rw [List.mem_singleton.1 hq, hb] at ha
        rw [List.mem_singleton.1 hq, ← Option.some.inj ha]
        exact ⟨o, ho⟩
  · intro h
    induction rs using List.reverseRecOn with
    | nil => exact ⟨{}, rfl⟩
    | append_singleton rs r ih =>
      obtain ⟨p, hp⟩ := ih fun q hq => h q (List.mem_append_left _ hq)
      cases ha : comments.annotation? r with
      | none => exact ⟨p, run_append_singleton_iff.2 ⟨p, hp, .inl ⟨ha, rfl⟩⟩⟩
      | some a =>
        obtain ⟨o, ho⟩ := h r (by simp) a ha
        exact ⟨_, run_append_singleton_iff.2 ⟨p, hp, .inr ⟨a, o, ha, ho, rfl⟩⟩⟩

/-- A group is compiled by running over its routes and building the document from what that came to. -/
theorem compile_eq_run (routes : List Route) (uriPart : String) :
    (g.compileBy parse routes comments uriPart).result =
      (run parse comments g (routesWithin uriPart routes)).result >>= fun p =>
        Document.build g p.paths p.context := by
  rw [compileBy]
  rcases run parse comments g (routesWithin uriPart routes) with ⟨e | p, notices⟩ <;> rfl

/-- Only the building can fail where the input and the responses of every documented route can be
described. -/
theorem compile_eq_build {routes : List Route} {uriPart : String}
    (h : ∀ r ∈ routes, ∀ a, DocumentedAs comments uriPart r a →
      (∃ input, Input.ofAnnotation r.method r.handler a = .ok input) ∧
      ∃ responses, Responses.ofAnnotation r.handler g.jsonMarker a = .ok responses) :
    ∃ p, (run parse comments g (routesWithin uriPart routes)).result = .ok p ∧
      (g.compileBy parse routes comments uriPart).result = Document.build g p.paths p.context := by
  have hrun : ∃ p, (run parse comments g (routesWithin uriPart routes)).result = .ok p := by
    apply run_succeeds_iff.2
    intro r hr a ha
    obtain ⟨hr, hw⟩ := mem_routesWithin.1 hr
    obtain ⟨hi, hres⟩ := h r hr a (documentedAs_iff.2 ⟨hw, ha⟩)
    exact ofAnnotation_succeeds hi hres
  obtain ⟨p, hp⟩ := hrun
  exact ⟨p, hp, by rw [compile_eq_run, hp, ok_bind]⟩

end Group

end RouteDocs
