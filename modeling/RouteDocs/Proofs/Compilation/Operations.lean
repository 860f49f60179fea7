import RouteDocs.Proofs.Compilation.Loop
import RouteDocs.Proofs.List

namespace RouteDocs

namespace PathItem

@[simp] theorem operation_set (p : PathItem) (m n : Method) (o : Operation) :
    (p.set m o).operation n = if n = m then some o else p.operation n := rfl

@[ext] theorem ext {p q : PathItem} (h : ∀ m, p.operation m = q.operation m) : p = q := by
  cases p
  cases q
  congr
  funext m
  exact h m

end PathItem

namespace Paths

def operation? (ps : Paths) (u : String) (m : Method) : Option Operation :=
  (ps.get? u).bind (·.operation m)

variable {ps qs : Paths} {u v : String} {m n : Method} {o : Operation}

theorem operation?_add : (ps.add u m o).operation? v n =
    if v = u ∧ n = m then some o else ps.operation? v n := by
  rw [operation?, add, SortedMap.get?_alter]
  by_cases hv : v = u
  · subst hv
    cases hp : ps.get? v with
    | none => simp [operation?, hp]
    | some p => simp [operation?, hp]
  · simp [hv, operation?]

theorem mem_keys_add : v ∈ (ps.add u m o).keys ↔ v = u ∨ v ∈ ps.keys := by
  rw [SortedMap.mem_keys_iff, SortedMap.mem_keys_iff, add, SortedMap.get?_alter]
  by_cases hv : v = u
  · simp [hv]
  · simp [hv]

/-- Paths differ in a URI or in an operation. -/
theorem eq_of_operations (hkeys : ∀ u, u ∈ ps.keys ↔ u ∈ qs.keys)
    (hops : ∀ u m, ps.operation? u m = qs.operation? u m) : ps = qs := by
  apply SortedMap.ext
  intro u
  have hu := hkeys u
  rw [SortedMap.mem_keys_iff, SortedMap.mem_keys_iff] at hu
  cases hp : ps.get? u with
  | none =>
    have hq : qs.get? u = none := by simpa [hp] using hu
    rw [hq]
  | some p =>
    obtain ⟨q, hq⟩ := Option.isSome_iff_exists.1 (hu.1 (by simp [hp]))
    rw [hq]
    congr
    ext1 m
    simpa [operation?, hp, hq] using hops u m

end Paths

def Route.isAt (u : String) (m : Method) (r : Route) : Bool := r.uri = u ∧ r.method = m

/-- The last documented route at a URI and a method. -/
def lastAt? (comments : Comments) (u : String) (m : Method) (rs : List Route) : Option Route :=
  rs.reverse.find? fun r => r.isAt u m && (comments.annotation? r).isSome

section

variable {comments : Comments} {u : String} {m : Method} {r : Route} {rs : List Route}

theorem lastAt?_append_singleton : lastAt? comments u m (rs ++ [r]) =
    if r.isAt u m ∧ (comments.annotation? r).isSome = true then some r else lastAt? comments u m rs := by
  simp only [lastAt?, find?_reverse_append_singleton, Bool.and_eq_true]

theorem lastAt?_isSome_iff : (lastAt? comments u m rs).isSome = true ↔
    ∃ r ∈ rs, (r.uri = u ∧ r.method = m) ∧ (comments.annotation? r).isSome = true := by
  rw [lastAt?, List.find?_isSome]
  simp [Route.isAt]

/-- The route is documented, and at this URI and method. -/
def isDocumentedAt (comments : Comments) (uriPart u : String) (m : Method) (r : Route) : Bool :=
  r.isAt u m && (Text.containsText uriPart.toList r.uri.toList && (comments.annotation? r).isSome)

theorem isDocumentedAt_iff {uriPart : String} : isDocumentedAt comments uriPart u m r = true ↔
    (r.uri = u ∧ r.method = m) ∧ Documented comments uriPart r := by
  rw [documented_iff, ← Text.containsText_iff]
  simp [isDocumentedAt, Route.isAt]

/-- Of the routes of a group, the last documented one at a URI and a method is the last such route of
all. -/
theorem lastAt?_routesWithin (uriPart : String) (routes : List Route) :
    lastAt? comments u m (routesWithin uriPart routes) =
      routes.reverse.find? (isDocumentedAt comments uriPart u m) := by
  rw [lastAt?, routesWithin, find?_reverse_filter]
  congr
  funext r
  exact Bool.and_left_comm ..

theorem lastAt?_routesWithin_eq_some_iff {uriPart : String} {routes : List Route} :
    lastAt? comments u m (routesWithin uriPart routes) = some r ↔
      ((r.uri = u ∧ r.method = m) ∧ Documented comments uriPart r) ∧
      ∃ before after, routes = before ++ r :: after ∧
        ∀ q ∈ after, q.uri = u → q.method = m → ¬ Documented comments uriPart q := by
  rw [lastAt?_routesWithin, find?_reverse_eq_some_iff, isDocumentedAt_iff]
  simp only [← Bool.not_eq_true, isDocumentedAt_iff, not_and, and_imp]

end

/-- The paths after some routes have the URIs of the documented ones, and at each URI and method what
the last documented route there is compiled to. -/
structure Progress.Current (parse : Source.Reader) (comments : Comments) (g : Group) (rs : List Route) (p : Progress) : Prop where
  uris : ∀ u, u ∈ p.paths.keys ↔ ∃ r ∈ rs, (comments.annotation? r).isSome = true ∧ r.uri = u
  operations : ∀ u m, Option.Rel (fun r o => ∃ j, (Group.compileRoute parse comments g r).exec {} = (.ok (some o), j))
    (lastAt? comments u m rs) (p.paths.operation? u m)

variable {parse : Source.Reader} {comments : Comments} {g : Group} {rs : List Route} {p : Progress}

theorem Progress.Current.start : Current parse comments g [] {} where
  uris u := by simp [SortedMap.mem_keys_iff]
  operations u m := .none

theorem Progress.Current.skip (h : p.Current parse comments g rs) {r : Route}
    (hn : comments.annotation? r = none) : p.Current parse comments g (rs ++ [r]) where
  uris u := by
    rw [h.uris]
    simp [or_and_right, exists_or, hn]
  operations u m := by
    have hlast : lastAt? comments u m (rs ++ [r]) = lastAt? comments u m rs := by
      rw [lastAt?_append_singleton, hn]
      simp
    rw [hlast]
    exact h.operations u m

theorem Progress.Current.add (h : p.Current parse comments g rs) {r : Route} {a : Annotation} {o : Operation}
    (ha : comments.annotation? r = some a) (ho : Operation.ofAnnotation g.jsonMarker r a = .ok o)
    (imports : List Import) : (p.add imports r a o).Current parse comments g (rs ++ [r]) where
  uris u := by
    rw [Progress.add, Paths.mem_keys_add, h.uris]
    constructor
    · intro hx
      rcases hx with rfl | ⟨q, hq, hu⟩
      · exact ⟨r, by simp, by simp [ha], rfl⟩
      · exact ⟨q, List.mem_append_left _ hq, hu⟩
    · intro hx
      obtain ⟨q, hq, hu⟩ := hx
      rcases List.mem_append.1 hq with hq | hq
      · exact .inr ⟨q, hq, hu⟩
      · rw [List.mem_singleton.1 hq] at hu
        exact .inl hu.2.symm
  operations u m := by
    rw [lastAt?_append_singleton, Progress.add, Paths.operation?_add]
    by_cases hat : r.uri = u ∧ r.method = m
    · obtain ⟨rfl, rfl⟩ := hat
      simp only [Route.isAt, ha, and_self, decide_true, Option.isSome_some, if_true]
      exact .some ⟨_, Group.compileRoute_eq_some_iff.2 ⟨a, ha, ho, rfl⟩⟩
    · have hat' : ¬ (u = r.uri ∧ m = r.method) := fun hu => hat ⟨hu.1.symm, hu.2.symm⟩
      simp only [Route.isAt, hat, hat', decide_false, Bool.false_eq_true, false_and, if_false]
      exact h.operations u m

theorem Progress.Current.operation?_isSome_iff (h : p.Current parse comments g rs) (u : String) (m : Method) :
    (p.paths.operation? u m).isSome = true ↔ (lastAt? comments u m rs).isSome = true := by
  have hrel := h.operations u m
  generalize p.paths.operation? u m = o? at hrel ⊢
  generalize lastAt? comments u m rs = r? at hrel ⊢
  cases hrel with
  | some _ => simp
  | none => simp

theorem Progress.Current.compiled (h : p.Current parse comments g rs) {u : String} {m : Method} {o : Operation}
    (ho : p.paths.operation? u m = some o) :
    ∃ r, lastAt? comments u m rs = some r ∧
      ∃ j, (Group.compileRoute parse comments g r).exec {} = (.ok (some o), j) := by
  have hrel := h.operations u m
  rw [ho] at hrel
  generalize lastAt? comments u m rs = r? at hrel ⊢
  cases hrel with
  | some hr => exact ⟨_, rfl, hr⟩

theorem run_current (h : (Group.run parse comments g rs).result = .ok p) : p.Current parse comments g rs :=
  Group.run_induction .start (fun _ _ _ hc hn => hc.skip hn)
    (fun _ _ _ _ _ hc ha ho => hc.add ha ho _) h

namespace Group

theorem build_paths {ps : Paths} {c : Context} {d : Document} (h : Document.build g ps c = .ok d) :
    d.paths = ps := by
  rw [Document.build, bind_eq_ok_iff] at h
  obtain ⟨schemes, -, h⟩ := h
  rw [← Except.ok.inj h]

theorem compile_eq_ok {routes : List Route} {uriPart : String} {d : Document}
    (h : (g.compileBy parse routes comments uriPart).result = .ok d) :
    ∃ p, (run parse comments g (routesWithin uriPart routes)).result = .ok p ∧ d.paths = p.paths ∧
      Document.build g p.paths p.context = .ok d := by
  rw [compile_eq_run, bind_eq_ok_iff] at h
  obtain ⟨p, hp, hb⟩ := h
  exact ⟨p, hp, build_paths hb, hb⟩

/-- The paths are the URIs of the documented routes. An operation stands where one of these routes is,
and it is what the last of them there is compiled to, whatever was compiled before. -/
theorem compile_operations {routes : List Route} {uriPart : String} {d : Document}
    (h : (g.compileBy parse routes comments uriPart).result = .ok d) :
    (∀ u, u ∈ d.paths.keys ↔ ∃ r ∈ routes, Documented comments uriPart r ∧ r.uri = u) ∧
    ∀ u m,
      ((d.paths.operation? u m).isSome = true ↔
        ∃ r ∈ routes, Documented comments uriPart r ∧ r.uri = u ∧ r.method = m) ∧
      ∀ o, d.paths.operation? u m = some o →
        ∃ before r after, routes = before ++ r :: after ∧
          Documented comments uriPart r ∧ r.uri = u ∧ r.method = m ∧
          (∀ q ∈ after, q.uri = u → q.method = m → ¬ Documented comments uriPart q) ∧
          (∃ j, (compileRoute parse comments g r).exec {} = (.ok (some o), j)) ∧ o.id = r.handler := by
  obtain ⟨p, hp, hd, -⟩ := compile_eq_ok h
  have hc := run_current hp
  rw [hd]
  refine ⟨fun u => ?_, fun u m => ⟨?_, fun o ho => ?_⟩⟩
  · rw [hc.uris]
    refine exists_congr fun r => ?_
    rw [mem_routesWithin, documented_iff]
    tauto
  · rw [hc.operation?_isSome_iff, lastAt?_isSome_iff]
    refine exists_congr fun r => ?_
    rw [mem_routesWithin, documented_iff]
    tauto
  · obtain ⟨r, hr, j, hcompiled⟩ := hc.compiled ho
    obtain ⟨⟨⟨hu, hm⟩, hdoc⟩, before, after, hroutes, hlater⟩ :=
      lastAt?_routesWithin_eq_some_iff.1 hr
    obtain ⟨a, -, hoa, -⟩ := compileRoute_eq_some_iff.1 hcompiled
    exact ⟨before, r, after, hroutes, hdoc, hu, hm, hlater, ⟨j, hcompiled⟩, (ofAnnotation_eq_ok hoa).1⟩

end Group

def listOrders : Route := ⟨"/api/orders", .get, "Orders::list", ["auth"]⟩

def searchOrders : Route := ⟨"/api/orders", .get, "Orders::search", ["auth", "admin"]⟩

def addOrder : Route := ⟨"/api/orders", .post, "Orders::add", ["auth"]⟩

def showOrders : Route := ⟨"/web/orders", .get, "Orders::list", []⟩

/-- A route that a later one replaces, a route without documentation, and a route elsewhere. -/
def orderRoutes : List Route := [listOrders, searchOrders, addOrder, showOrders]

def orderComments : Comments where
  doc handler :=
    if handler = "Orders::list" then some "Lists orders."
    else if handler = "Orders::search" then some "Finds orders."
    else none
  source _ := none

def orderGroup : Group where
  version := "1"
  title := "Orders"
  security := SortedMap.ofList [("auth", .str "bearer"), ("admin", .str "key")]
  output := "orders.json"

theorem orderGroup_compiles :
    ∃ d, (orderGroup.compile orderRoutes orderComments "/api").result = .ok d :=
  isOk_iff.1 (by decide +kernel)

theorem Group.compile_operations_orders :
    ∃ d, (orderGroup.compile orderRoutes orderComments "/api").result = .ok d ∧
      (∀ u, u ∈ d.paths.keys ↔ ∃ r ∈ orderRoutes, Documented orderComments "/api" r ∧ r.uri = u) ∧
      (d.paths.operation? "/api/orders" .get).isSome = true ∧
      ∀ o, d.paths.operation? "/api/orders" .get = some o →
        ∃ before r after, orderRoutes = before ++ r :: after ∧
          Documented orderComments "/api" r ∧ r.uri = "/api/orders" ∧ r.method = .get ∧
          (∀ q ∈ after, q.uri = "/api/orders" → q.method = .get →
            ¬ Documented orderComments "/api" q) ∧
          (∃ j, (Group.compileRoute Source.parse orderComments orderGroup r).exec {} = (.ok (some o), j)) ∧
          o.id = r.handler := by
  obtain ⟨d, hd⟩ := orderGroup_compiles
  obtain ⟨huris, hops⟩ := compile_operations hd
  obtain ⟨hpresent, hlast⟩ := hops "/api/orders" .get
  have hdoc : Documented orderComments "/api" listOrders := ⟨_, by decide, "Lists orders.", rfl, rfl⟩
  exact ⟨d, hd, huris, hpresent.2 ⟨listOrders, by decide, hdoc, rfl, rfl⟩, hlast⟩

end RouteDocs
