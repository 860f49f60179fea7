import Mathlib.Data.List.Induction
import RouteDocs.Proofs.List
import RouteDocs.Proofs.Security

namespace RouteDocs

namespace Route

theorem run_resolve (r : Route) (c : Context) : r.resolve.run c = (r.requirements, c.addGuards r) :=
  run_mapM (fun _ _ => rfl) r.middleware c

theorem run_mapM_resolve (rs : List Route) (c : Context) :
    (rs.mapM resolve).run c = (rs.map requirements, rs.foldl Context.addGuards c) :=
  run_mapM run_resolve rs c

/-- The requirements that a route gets: for each of its guards one that asks for that scheme alone, with the scope of
the method. -/
def Gets (r : Route) (required : List Requirement) : Prop :=
  List.Forall₂ (fun s req => req.entries = [(s, r.method.scope?.toList)]) r.middleware required

theorem gets_requirements (r : Route) : r.Gets r.requirements := by
  unfold Gets requirements
  rw [List.forall₂_map_right_iff]
  exact List.forall₂_same.2 fun s _ => rfl

end Route

namespace Context

variable (rs : List Route) (c : Context)

theorem get?_schemes_foldl_addGuards (s : String) : (rs.foldl addGuards c).schemes.get? s =
    (c.schemes.get? s).or ((rs.find? (s ∈ ·.middleware)).map (·.uri)) := by
  induction rs generalizing c with
  | nil => simp
  | cons r rs ih =>
    rw [List.foldl_cons, ih, get?_schemes_addGuards, List.find?_cons]
    by_cases hs : s ∈ r.middleware
    · cases hc : c.schemes.get? s <;> simp [hs]
    · simp [hs]

theorem get?_guards_foldl_addGuards (u : String) : (rs.foldl addGuards c).guards.get? u =
    ((rs.reverse.find? fun r => r.uri = u ∧ r.middleware ≠ []).bind (·.middleware.getLast?)).or
      (c.guards.get? u) := by
  induction rs using List.reverseRecOn with
  | nil => rfl
  | append_singleton rs r ih =>
    rw [List.foldl_append, List.foldl_cons, List.foldl_nil, get?_guards_addGuards, ih,
      find?_reverse_append_singleton]
    by_cases hu : u = r.uri
    · cases hm : r.middleware with
      | nil => simp [hu]
      | cons m ms => simp [hu, hm, List.getLast?_cons]
    · have hu' : ¬ r.uri = u := fun h => hu h.symm
      simp [hu, hu']

theorem models_foldl_addGuards : (rs.foldl addGuards c).models = c.models := by
  induction rs generalizing c with
  | nil => rfl
  | cons r rs ih => rw [List.foldl_cons, ih, addGuards, models_foldl_guard]

/-- What routes leave behind: their guards, each with the first URI that it guards, and their guarded URIs, each with
the last guard of the last route there. -/
structure Keeps (c : Context) (rs : List Route) : Prop where
  used : ∀ s, s ∈ c.schemes.keys ↔ ∃ r ∈ rs, s ∈ r.middleware
  first : ∀ s u, c.schemes.get? s = some u ↔ ∃ r, IsFirst (s ∈ ·.middleware) rs r ∧ r.uri = u
  guarded : ∀ u, u ∈ c.guards.keys ↔ ∃ r ∈ rs, r.uri = u ∧ r.middleware ≠ []
  last : ∀ u s, c.guards.get? u = some s ↔
    ∃ r, IsLast (fun r => r.uri = u ∧ r.middleware ≠ []) rs r ∧ r.middleware.getLast? = some s
  closed : ∀ u s, c.guards.get? u = some s → s ∈ c.schemes.keys

theorem keeps_foldl_addGuards : (rs.foldl addGuards {}).Keeps rs := by
  have hfirst (s u : String) : (rs.foldl addGuards {}).schemes.get? s = some u ↔
      ∃ r, IsFirst (s ∈ ·.middleware) rs r ∧ r.uri = u := by
    rw [get?_schemes_foldl_addGuards, SortedMap.get?_empty, Option.none_or, Option.map_eq_some_iff]
    simp only [find?_iff_isFirst]
  have hlast (u s : String) : (rs.foldl addGuards {}).guards.get? u = some s ↔
      ∃ r, IsLast (fun r => r.uri = u ∧ r.middleware ≠ []) rs r ∧ r.middleware.getLast? = some s := by
    rw [get?_guards_foldl_addGuards, SortedMap.get?_empty, Option.or_none, Option.bind_eq_some_iff]
    simp only [find?_reverse_iff_isLast]
  have hused (s : String) : s ∈ (rs.foldl addGuards {}).schemes.keys ↔ ∃ r ∈ rs, s ∈ r.middleware := by
    rw [SortedMap.mem_keys_iff, get?_schemes_foldl_addGuards]
    simp
  refine ⟨hused, hfirst, fun u => ?_, hlast, fun u s h => ?_⟩
  · rw [SortedMap.mem_keys_iff, Option.isSome_iff_exists]
    simp only [hlast]
    constructor
    · intro hx
      obtain ⟨s, r, hr, -⟩ := hx
      exact ⟨r, hr.mem, hr.1⟩
    · intro hx
      obtain ⟨r, hr, hu⟩ := hx
      obtain ⟨q, hq⟩ := exists_isLast (p := fun r => r.uri = u ∧ r.middleware ≠ []) hr hu
      exact ⟨_, q, hq, List.getLast?_eq_some_getLast hq.1.2⟩
  · obtain ⟨r, hr, hs⟩ := (hlast u s).1 h
    exact (hused s).2 ⟨r, hr.mem, List.mem_of_getLast? hs⟩

/-- Contexts with the same guards. -/
structure SameGuards (c d : Context) : Prop where
  guards : c.guards = d.guards
  schemes : c.schemes = d.schemes

namespace SameGuards

variable {c d : Context}

/-- A route adds its guards, whatever models it adds. -/
theorem addRoute (h : c.SameGuards d) (imports : List Import) (r : Route) (a : Annotation) :
    (c.addRoute imports r a).SameGuards (d.addGuards r) where
  guards := SortedMap.ext fun u => by rw [get?_guards_addRoute, get?_guards_addGuards, h.guards]
  schemes := SortedMap.ext fun s => by rw [get?_schemes_addRoute, get?_schemes_addGuards, h.schemes]

theorem keeps (h : c.SameGuards d) {rs : List Route} (hd : d.Keeps rs) : c.Keeps rs where
  used := h.schemes ▸ hd.used
  first := h.schemes ▸ hd.first
  guarded := h.guards ▸ hd.guarded
  last := h.guards ▸ hd.last
  closed := h.guards ▸ h.schemes ▸ hd.closed

end SameGuards

end Context

/-- However routes share their URIs and their guards, each of them gets its requirements, and the context keeps the
first URI of each scheme and the last guard of each URI. It learns nothing of models. -/
theorem Route.mapM_resolve (rs : List Route) :
    (rs.mapM resolve).run {} = (rs.map requirements, rs.foldl Context.addGuards {}) ∧
    List.Forall₂ Gets rs (rs.map requirements) ∧
    (rs.foldl Context.addGuards {}).Keeps rs ∧ (rs.foldl Context.addGuards {}).models = ∅ := by
  refine ⟨run_mapM_resolve rs {}, ?_, Context.keeps_foldl_addGuards rs, Context.models_foldl_addGuards rs {}⟩
  rw [List.forall₂_map_right_iff]
  exact List.forall₂_same.2 fun r _ => r.gets_requirements

end RouteDocs
