import RouteDocs.Compilation
import RouteDocs.Proofs.Except

namespace RouteDocs

/-- The requirements of a route name its guards. -/
theorem mem_middleware_of_requirement {r : Route} {req : Requirement} {s : String}
    (hreq : req ∈ r.requirements) (hs : s ∈ req.keys) : s ∈ r.middleware := by
  obtain ⟨scheme, hm, rfl⟩ := List.mem_map.1 hreq
  have hkeys : (SortedMap.empty.insert scheme r.scopes).keys = [scheme] := rfl
  rw [hkeys, List.mem_singleton] at hs
  rw [hs]
  exact hm

namespace Context

/-- The context behind a route that is compiled: its models were asked for, and its guards taken up. -/
def addRoute (imports : List Import) (c : Context) (r : Route) (a : Annotation) : Context :=
  ((c.addModels imports (Input.models r.method a)).addModels imports (Responses.models a)).addGuards r

theorem get?_schemes_foldl (u : String) (ms : List String) (c : Context) (s : String) :
    (ms.foldl (guard u) c).schemes.get? s =
      if s ∈ ms then some ((c.schemes.get? s).getD u) else c.schemes.get? s := by
  induction ms generalizing c with
  | nil => simp
  | cons m ms ih =>
    have hg : (guard u c m).schemes.get? s =
        if s = m then some ((c.schemes.get? m).getD u) else c.schemes.get? s :=
      SortedMap.get?_insertIfNew ..
    rw [List.foldl_cons, ih, hg]
    by_cases hm : s = m
    · simp [hm]
    · simp [hm]

theorem get?_guards_foldl (u : String) (ms : List String) (c : Context) (v : String) :
    (ms.foldl (guard u) c).guards.get? v =
      if v = u then ms.getLast?.or (c.guards.get? v) else c.guards.get? v := by
  induction ms generalizing c with
  | nil => simp
  | cons m ms ih =>
    have hg : (guard u c m).guards.get? v = if v = u then some m else c.guards.get? v :=
      SortedMap.get?_insert ..
    rw [List.foldl_cons, ih, hg]
    by_cases hv : v = u
    · simp only [hv, if_true, List.getLast?_cons]
      cases ms.getLast? <;> simp
    · simp [hv]

theorem models_foldl_guard (u : String) (ms : List String) (c : Context) :
    (ms.foldl (guard u) c).models = c.models := by
  induction ms generalizing c with
  | nil => rfl
  | cons m ms ih =>
    rw [List.foldl_cons, ih]
    rfl

variable (imports : List Import) (c : Context) (r : Route) (a : Annotation)

/-- A scheme keeps the URI that it was in use at first. -/
theorem get?_schemes_addGuards (s : String) : (c.addGuards r).schemes.get? s =
    if s ∈ r.middleware then some ((c.schemes.get? s).getD r.uri) else c.schemes.get? s :=
  get?_schemes_foldl ..

/-- Of the guards of a URI the last one counts. -/
theorem get?_guards_addGuards (u : String) : (c.addGuards r).guards.get? u =
    if u = r.uri then r.middleware.getLast?.or (c.guards.get? u) else c.guards.get? u :=
  get?_guards_foldl ..

theorem get?_schemes_addRoute (s : String) : (addRoute imports c r a).schemes.get? s =
    if s ∈ r.middleware then some ((c.schemes.get? s).getD r.uri) else c.schemes.get? s :=
  get?_schemes_addGuards ..

theorem get?_guards_addRoute (u : String) : (addRoute imports c r a).guards.get? u =
    if u = r.uri then r.middleware.getLast?.or (c.guards.get? u) else c.guards.get? u :=
  get?_guards_addGuards ..

/-- A scheme is needed if it guards a URI or is in use. -/
def Needs (c : Context) (s : String) : Prop := ∃ u, c.guards.get? u = some s ∨ c.schemes.get? s = some u

end Context

namespace Document

theorem mem_neededSchemes {c : Context} {s u : String} :
    (s, u) ∈ neededSchemes c ↔ c.guards.get? u = some s ∨ c.schemes.get? s = some u := by
  rw [neededSchemes, List.mem_append, SortedMap.mem_entries_iff, List.mem_map]
  refine or_congr_left ⟨?_, fun h => ⟨(u, s), SortedMap.mem_entries_iff.2 h, rfl⟩⟩
  intro hx
  obtain ⟨⟨v, t⟩, hm, he⟩ := hx
  obtain ⟨rfl, rfl⟩ := Prod.mk.inj he
  exact SortedMap.mem_entries_iff.1 hm

theorem needs_iff {c : Context} {s : String} : c.Needs s ↔ s ∈ (neededSchemes c).map Prod.fst := by
  simp [Context.Needs, ← mem_neededSchemes]

variable {security defined defined' : SortedMap Json} {needed : List (String × String)}

theorem foldlM_define_eq_ok_iff : needed.foldlM (define security) defined = .ok defined' ↔
    (∀ n ∈ needed, (security.get? n.1).isSome = true) ∧
    ∀ s, defined'.get? s = if s ∈ needed.map Prod.fst then security.get? s else defined.get? s := by
  induction needed generalizing defined with
  | nil =>
    simp only [List.foldlM_nil, pure_eq_ok, Except.ok.injEq, List.map_nil, List.not_mem_nil, if_false,
      false_imp_iff, implies_true, true_and]
    exact ⟨fun h s => by rw [h], fun h => SortedMap.ext fun s => (h s).symm⟩
  | cons n needed ih =>
    rw [List.foldlM_cons]
    cases hn : security.get? n.1 with
    | none => simp [define, hn]
    | some definition =>
      simp only [define, hn, ok_bind, ih, List.forall_mem_cons, Option.isSome_some, true_and,
        SortedMap.get?_insert, List.map_cons]
      refine and_congr_right fun _ => forall_congr' fun s => ?_
      by_cases hs : s = n.1
      · simp [hs, hn]
      · have hm : s ∈ n.1 :: needed.map Prod.fst ↔ s ∈ needed.map Prod.fst :=
          List.mem_cons.trans (or_iff_right hs)
        simp only [hs, hm, if_false]

/-- The first scheme without a definition is reported, with the URI that it is listed for. -/
theorem foldlM_define_eq_error_iff {e : Failure} :
    needed.foldlM (define security) defined = .error e ↔
      ∃ n, needed.find? (fun n => (security.get? n.1).isNone) = some n ∧ e = .missingScheme n.1 n.2 := by
  induction needed generalizing defined with
  | nil => simp
  | cons n needed ih =>
    rw [List.foldlM_cons]
    cases hn : security.get? n.1 with
    | none => simp [define, hn, eq_comm]
    | some definition => simp [define, hn, ih]

/-- The definitions of the schemes that a context needs, and of no others. -/
structure Defines (security : SortedMap Json) (c : Context) (defined : SortedMap Json) : Prop where
  needed : ∀ s, c.Needs s →
    ∃ definition, security.get? s = some definition ∧ defined.get? s = some definition
  only : ∀ s, ¬ c.Needs s → defined.get? s = none

theorem foldlM_define_neededSchemes {c : Context} :
    (neededSchemes c).foldlM (define security) ∅ = .ok defined ↔ Defines security c defined := by
  rw [foldlM_define_eq_ok_iff]
  constructor
  · intro hx
    obtain ⟨hall, hget⟩ := hx
    refine ⟨fun s hs => ?_, fun s hs => ?_⟩
    · rw [needs_iff] at hs
      obtain ⟨n, hn, rfl⟩ := List.mem_map.1 hs
      obtain ⟨definition, hd⟩ := Option.isSome_iff_exists.1 (hall n hn)
      refine ⟨definition, hd, ?_⟩
      rw [hget, if_pos hs, hd]
    · rw [needs_iff] at hs
      rw [hget, if_neg hs, SortedMap.get?_empty]
  · intro h
    refine ⟨fun n hn => ?_, fun s => ?_⟩
    · obtain ⟨definition, hd, -⟩ := h.needed n.1 (needs_iff.2 (List.mem_map_of_mem hn))
      simp [hd]
    · by_cases hs : c.Needs s
      · obtain ⟨definition, hd, hdefined⟩ := h.needed s hs
        rw [if_pos (needs_iff.1 hs), hd, hdefined]
      · rw [if_neg (mt needs_iff.2 hs), h.only s hs, SortedMap.get?_empty]

variable {g : Group} {ps : Paths} {c c' : Context} {d : Document}

/-- A document holds the settings of its group, its paths, and the definitions that its context needs. -/
theorem build_eq_ok_iff : build g ps c = .ok d ↔ ∃ defined, Defines g.security c defined ∧ d = {
    title := g.title
    contact := g.contact
    version := g.version
    servers := g.servers
    tags := g.tags
    paths := ps
    securitySchemes := if defined.isEmpty then none else some defined } := by
  simp only [build, bind_eq_ok_iff, pure_eq_ok, Except.ok.injEq, foldlM_define_neededSchemes]
  exact exists_congr fun _ => and_congr_right fun _ => eq_comm

theorem build_eq_error_iff {e : Failure} : build g ps c = .error e ↔
    ∃ n, (neededSchemes c).find? (fun n => (g.security.get? n.1).isNone) = some n ∧
      e = .missingScheme n.1 n.2 := by
  have herror : (neededSchemes c).foldlM (define g.security) ∅ = .error e ↔ _ :=
    foldlM_define_eq_error_iff
  rw [← herror, build]
  cases (neededSchemes c).foldlM (define g.security) ∅ <;> simp

/-- Nothing but what a context needs counts for a document. -/
theorem build_congr (h : ∀ s, c.Needs s ↔ c'.Needs s) :
    build g ps c = .ok d ↔ build g ps c' = .ok d := by
  have hdefines (defined : SortedMap Json) : Defines g.security c defined ↔ Defines g.security c' defined :=
    ⟨fun hd => ⟨fun s hs => hd.needed s ((h s).2 hs), fun s hs => hd.only s (mt (h s).1 hs)⟩,
      fun hd => ⟨fun s hs => hd.needed s ((h s).1 hs), fun s hs => hd.only s (mt (h s).2 hs)⟩⟩
  simp only [build_eq_ok_iff, hdefines]

theorem build_scheme (h : build g ps c = .ok d) {s : String} (hs : c.Needs s) :
    ∃ schemes definition, d.securitySchemes = some schemes ∧
      schemes.get? s = some definition ∧ g.security.get? s = some definition := by
  obtain ⟨defined, hdefines, rfl⟩ := build_eq_ok_iff.1 h
  obtain ⟨definition, hsecurity, hdefined⟩ := hdefines.needed s hs
  have hne : defined.isEmpty = false := by
    have hm := SortedMap.mem_entries_iff.2 hdefined
    simpa [SortedMap.isEmpty] using List.ne_nil_of_mem hm
  exact ⟨defined, definition, by simp [hne], hdefined, hsecurity⟩

/-- The scheme that is reported has no definition, and its URI is one that it guards or is in use at. -/
theorem build_missing {s u : String} (h : build g ps c = .error (.missingScheme s u)) :
    g.security.get? s = none ∧ (c.guards.get? u = some s ∨ c.schemes.get? s = some u) := by
  obtain ⟨n, hn, he⟩ := build_eq_error_iff.1 h
  obtain ⟨rfl, rfl⟩ := Failure.missingScheme.inj he
  exact ⟨by simpa using List.find?_some hn, mem_neededSchemes.1 (List.mem_of_find?_eq_some hn)⟩

theorem build_missing_iff : (∃ s u, build g ps c = .error (.missingScheme s u)) ↔
    ∃ s, c.Needs s ∧ g.security.get? s = none := by
  constructor
  · intro hx
    obtain ⟨s, u, h⟩ := hx
    exact ⟨s, ⟨u, (build_missing h).2⟩, (build_missing h).1⟩
  · intro hx
    obtain ⟨s, ⟨u, hs⟩, hnone⟩ := hx
    have hfound : ((neededSchemes c).find? fun n => (g.security.get? n.1).isNone).isSome = true :=
      List.find?_isSome.2 ⟨(s, u), mem_neededSchemes.2 hs, by simp [hnone]⟩
    obtain ⟨n, hn⟩ := Option.isSome_iff_exists.1 hfound
    exact ⟨n.1, n.2, build_eq_error_iff.2 ⟨n, hn, rfl⟩⟩

end Document

end RouteDocs
