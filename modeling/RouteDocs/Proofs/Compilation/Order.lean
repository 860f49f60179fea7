import RouteDocs.Proofs.Compilation.Security

namespace RouteDocs

variable {parse : Source.Reader} {comments : Comments} {uriPart : String} {g : Group} {rs rs' rs'' : List Route}

/-- A route that a group passes over. -/
inductive LeftOut (comments : Comments) (uriPart : String) (r : Route) : Prop where
  | elsewhere (h : ¬ uriPart.toList <:+: r.uri.toList)
  | undocumented (h : comments.doc r.handler = none)
  | unreadable {doc : String} {e : Annotation.Error} (h : comments.doc r.handler = some doc)
    (he : Annotation.parse doc = .error e)

theorem LeftOut.not_documented {r : Route} (h : LeftOut comments uriPart r) :
    ¬ Documented comments uriPart r := by
  intro hx
  obtain ⟨a, hw, doc, hdoc, ha⟩ := hx
  cases h with
  | elsewhere h => exact h hw
  | undocumented h => simp [h] at hdoc
  | unreadable h he =>
    rw [h] at hdoc
    rw [← Option.some.inj hdoc, he] at ha
    exact absurd ha (by simp)

/-- Routes change places, but not with routes at the same URI and method, and routes that are left out
come and go. -/
inductive Rearranged (comments : Comments) (uriPart : String) : List Route → List Route → Prop where
  | permuted {rs rs' : List Route} (h : rs.Perm rs')
    (order : ∀ u m, rs.filter (Route.isAt u m) = rs'.filter (Route.isAt u m)) :
    Rearranged comments uriPart rs rs'
  | inserted {before after : List Route} {r : Route} (h : LeftOut comments uriPart r) :
    Rearranged comments uriPart (before ++ after) (before ++ r :: after)
  | deleted {before after : List Route} {r : Route} (h : LeftOut comments uriPart r) :
    Rearranged comments uriPart (before ++ r :: after) (before ++ after)
  | trans {rs rs' rs'' : List Route} (h : Rearranged comments uriPart rs rs')
    (h' : Rearranged comments uriPart rs' rs'') : Rearranged comments uriPart rs rs''

/-- Neighbours can change places unless they are at the same URI and method. -/
theorem Rearranged.swapped {before after : List Route} {q r : Route}
    (h : ¬ (q.uri = r.uri ∧ q.method = r.method)) :
    Rearranged comments uriPart (before ++ q :: r :: after) (before ++ r :: q :: after) := by
  refine .permuted ((List.Perm.swap r q after).append_left before) fun u m => ?_
  have hone : ¬ (q.isAt u m = true ∧ r.isAt u m = true) := by
    intro hx
    obtain ⟨hq, hr⟩ := hx
    simp only [Route.isAt, decide_eq_true_eq] at hq hr
    exact h ⟨hq.1.trans hr.1.symm, hq.2.trans hr.2.symm⟩
  simp only [List.filter_append, List.filter_cons]
  cases hq : q.isAt u m with
  | false => simp
  | true =>
    have hr : r.isAt u m = false := Bool.eq_false_iff.2 fun hr => hone ⟨hq, hr⟩
    simp [hr]

/-- The same routes are documented, and the same ones come last. -/
structure Alike (comments : Comments) (uriPart : String) (rs rs' : List Route) : Prop where
  mem : ∀ r, Documented comments uriPart r → (r ∈ rs ↔ r ∈ rs')
  last : ∀ u m, lastAt? comments u m (routesWithin uriPart rs) =
    lastAt? comments u m (routesWithin uriPart rs')

namespace Alike

theorem symm (h : Alike comments uriPart rs rs') : Alike comments uriPart rs' rs :=
  ⟨fun r hr => (h.mem r hr).symm, fun u m => (h.last u m).symm⟩

theorem trans (h : Alike comments uriPart rs rs') (h' : Alike comments uriPart rs' rs'') :
    Alike comments uriPart rs rs'' :=
  ⟨fun r hr => (h.mem r hr).trans (h'.mem r hr), fun u m => (h.last u m).trans (h'.last u m)⟩

theorem of_permuted (h : rs.Perm rs')
    (order : ∀ u m, rs.filter (Route.isAt u m) = rs'.filter (Route.isAt u m)) :
    Alike comments uriPart rs rs' := by
  refine ⟨fun r _ => h.mem_iff, fun u m => ?_⟩
  -- Only routes at the URI and the method are looked at, and these keep their order.
  have hfind (l : List Route) : l.reverse.find? (isDocumentedAt comments uriPart u m) =
      (l.filter (Route.isAt u m)).reverse.find? fun r =>
        Text.containsText uriPart.toList r.uri.toList && (comments.annotation? r).isSome :=
    (find?_reverse_filter l _ _).symm
  rw [lastAt?_routesWithin, lastAt?_routesWithin, hfind, hfind, order u m]

theorem of_inserted {before after : List Route} {r : Route} (h : LeftOut comments uriPart r) :
    Alike comments uriPart (before ++ after) (before ++ r :: after) := by
  refine ⟨fun q hq => ?_, fun u m => ?_⟩
  · have hne : q ≠ r := fun he => h.not_documented (he ▸ hq)
    simp [hne]
  · have hnot : isDocumentedAt comments uriPart u m r = false :=
      Bool.eq_false_iff.2 fun hd => h.not_documented (isDocumentedAt_iff.1 hd).2
    rw [lastAt?_routesWithin, lastAt?_routesWithin]
    simp [List.find?_append, hnot]

end Alike

theorem Rearranged.alike (h : Rearranged comments uriPart rs rs') : Alike comments uriPart rs rs' := by
  induction h with
  | permuted h order => exact .of_permuted h order
  | inserted h => exact .of_inserted h
  | deleted h => exact (Alike.of_inserted h).symm
  | trans _ _ ih ih' => exact ih.trans ih'

namespace Alike

theorem mem_within (h : Alike comments uriPart rs rs') {r : Route}
    (hr : (comments.annotation? r).isSome = true) :
    r ∈ routesWithin uriPart rs ↔ r ∈ routesWithin uriPart rs' := by
  rw [mem_routesWithin, mem_routesWithin]
  exact and_congr_left fun hw => h.mem r (documented_iff.2 ⟨hw, hr⟩)

theorem run_succeeds (h : Alike comments uriPart rs rs') {p : Progress}
    (hp : (Group.run parse comments g (routesWithin uriPart rs)).result = .ok p) :
    ∃ q, (Group.run parse comments g (routesWithin uriPart rs')).result = .ok q := by
  apply Group.run_succeeds_iff.2
  intro r hr a ha
  have hmem := (h.mem_within (by simp [ha])).2 hr
  exact Group.run_succeeds_iff.1 ⟨p, hp⟩ r hmem a ha

/-- What one of the documented routes is like does not change. -/
theorem exists_iff (h : Alike comments uriPart rs rs') (P : Route → Prop) :
    (∃ r ∈ routesWithin uriPart rs, (comments.annotation? r).isSome = true ∧ P r) ↔
      ∃ r ∈ routesWithin uriPart rs', (comments.annotation? r).isSome = true ∧ P r := by
  constructor
  · intro hx
    obtain ⟨r, hr, hd, hp⟩ := hx
    exact ⟨r, (h.mem_within hd).1 hr, hd, hp⟩
  · intro hx
    obtain ⟨r, hr, hd, hp⟩ := hx
    exact ⟨r, (h.mem_within hd).2 hr, hd, hp⟩

theorem needs_iff (h : Alike comments uriPart rs rs') {p q : Progress}
    (hp : (Group.run parse comments g (routesWithin uriPart rs)).result = .ok p)
    (hq : (Group.run parse comments g (routesWithin uriPart rs')).result = .ok q) (s : String) :
    p.context.Needs s ↔ q.context.Needs s := by
  rw [(run_traced hp).needs_iff, (run_traced hq).needs_iff]
  exact exists_congr fun u => h.exists_iff _

/-- The operation of a route does not depend on the routes before it, so the last routes decide. -/
theorem paths_eq (h : Alike comments uriPart rs rs') {p q : Progress}
    (hp : (Group.run parse comments g (routesWithin uriPart rs)).result = .ok p)
    (hq : (Group.run parse comments g (routesWithin uriPart rs')).result = .ok q) : p.paths = q.paths := by
  have hpc := run_current hp
  have hqc := run_current hq
  apply Paths.eq_of_operations
  · intro u
    rw [hpc.uris, hqc.uris]
    exact h.exists_iff _
  · intro u m
    have hpo := hpc.operations u m
    have hqo := hqc.operations u m
    rw [← h.last u m] at hqo
    generalize p.paths.operation? u m = o at hpo ⊢
    generalize q.paths.operation? u m = o' at hqo ⊢
    generalize lastAt? comments u m (routesWithin uriPart rs) = r? at hpo hqo
    cases hpo with
    | none =>
      cases hqo
      rfl
    | some ho =>
      cases hqo with
      | some ho' =>
        obtain ⟨c, ho⟩ := ho
        obtain ⟨c', ho'⟩ := ho'
        rw [ho] at ho'
        exact Except.ok.inj (Prod.mk.inj ho').1

theorem compile_eq_ok (h : Alike comments uriPart rs rs') {d : Document}
    (hd : (g.compile rs comments uriPart).result = .ok d) :
    (g.compile rs' comments uriPart).result = .ok d := by
  obtain ⟨p, hp, -, hb⟩ := Group.compile_eq_ok hd
  obtain ⟨q, hq⟩ := h.run_succeeds hp
  rw [Group.compile_eq_run, hq, ok_bind, ← h.paths_eq hp hq]
  exact (Document.build_congr (h.needs_iff hp hq)).1 hb

end Alike

namespace Group

/-- A group compiles in any arrangement of its routes if it does in one, and always to the same
document. -/
theorem compile_rearranged (h : Rearranged comments uriPart rs rs') (g : Group) :
    ((∃ d, (g.compile rs comments uriPart).result = .ok d) ↔
      ∃ d, (g.compile rs' comments uriPart).result = .ok d) ∧
    ∀ d d', (g.compile rs comments uriPart).result = .ok d →
      (g.compile rs' comments uriPart).result = .ok d' → d = d' := by
  have ha := h.alike
  refine ⟨⟨?_, ?_⟩, fun d d' hd hd' => ?_⟩
  · intro hx
    obtain ⟨d, hd⟩ := hx
    exact ⟨d, ha.compile_eq_ok hd⟩
  · intro hx
    obtain ⟨d, hd⟩ := hx
    exact ⟨d, ha.symm.compile_eq_ok hd⟩
  · have hsame := ha.compile_eq_ok hd
    rw [hd'] at hsame
    exact (Except.ok.inj hsame).symm

/-- The undocumented route can be moved in front of the second one, and the route elsewhere taken out. -/
theorem orderRoutes_rearranged :
    Rearranged orderComments "/api" orderRoutes [listOrders, addOrder, searchOrders] := by
  have hswapped : Rearranged orderComments "/api" ([listOrders] ++ searchOrders :: addOrder :: [showOrders])
      ([listOrders] ++ addOrder :: searchOrders :: [showOrders]) := .swapped (by decide)
  have hweb : ¬ "/api".toList <:+: showOrders.uri.toList := by
    rw [← Text.containsText_iff]
    decide +kernel
  have hdeleted : Rearranged orderComments "/api"
      ([listOrders, addOrder, searchOrders] ++ showOrders :: [])
      ([listOrders, addOrder, searchOrders] ++ []) := .deleted (.elsewhere hweb)
  exact hswapped.trans hdeleted

theorem compile_rearranged_orders :
    Rearranged orderComments "/api" orderRoutes [listOrders, addOrder, searchOrders] ∧
    ∃ d, (orderGroup.compile orderRoutes orderComments "/api").result = .ok d ∧
      (orderGroup.compile [listOrders, addOrder, searchOrders] orderComments "/api").result = .ok d := by
  have hr := orderRoutes_rearranged
  have hsame := compile_rearranged hr orderGroup
  obtain ⟨d, hd⟩ := orderGroup_compiles
  obtain ⟨d', hd'⟩ := hsame.1.1 ⟨d, hd⟩
  obtain rfl := hsame.2 d d' hd hd'
  exact ⟨hr, d, hd, hd'⟩

end Group

end RouteDocs
