import Mathlib.Data.List.Nodup
import RouteDocs.Proofs.Compilation.Operations

namespace RouteDocs

/-- A document that a sink was handed, and its answer. -/
structure Delivery where
  uriPart : String
  group : Group
  document : Document
  answer : Except Failure Unit

def Delivery.content (r : Delivery) : String × Group × Document := (r.uriPart, r.group, r.document)

/-- A sink that keeps a record of what it is handed and does no more than that. -/
def Sink.recorded (sink : Sink σ) : Sink (σ × List Delivery) := fun (s, record) uriPart g d =>
  let (answer, s) := sink s uriPart g d
  (answer, s, record ++ [⟨uriPart, g, d, answer⟩])

/-- The answers depend on the prefix and the document alone. -/
def Sink.AnswersBy (sink : Sink σ) (answer : String → Document → Except Failure Unit) : Prop :=
  ∀ s uriPart g d, (sink s uriPart g d).1 = answer uriPart d

/-- The document of a group, if it compiles. -/
def Config.compiled? (routes : List Route) (comments : Comments) (entry : String × Group) :
    Option (String × Group × Document) :=
  match (entry.2.compile routes comments entry.1).result with
  | .ok d => some (entry.1, entry.2, d)
  | .error _ => none

namespace Config

variable {σ : Type} {routes : List Route} {comments : Comments} {sink : Sink σ} {s : σ} {report : Report}

theorem compiled?_eq_some_iff {entry : String × Group} {p : String} {g : Group} {d : Document} :
    compiled? routes comments entry = some (p, g, d) ↔
      entry = (p, g) ∧ (g.compile routes comments p).result = .ok d := by
  obtain ⟨q, f⟩ := entry
  unfold compiled?
  cases hc : (f.compile routes comments q).result with
  | error e =>
    simp only [reduceCtorEq, Prod.mk.injEq, false_iff, not_and, and_imp]
    rintro rfl rfl
    simp [hc]
  | ok d' =>
    simp only [Option.some.injEq, Prod.mk.injEq]
    constructor
    · rintro ⟨rfl, rfl, rfl⟩
      exact ⟨⟨rfl, rfl⟩, hc⟩
    · rintro ⟨⟨rfl, rfl⟩, hd⟩
      exact ⟨rfl, rfl, Except.ok.inj (hc.symm.trans hd)⟩

/-- Lists a group under what became of it. -/
def listed (report : Report) (uriPart : String) (said : List Notice) : Except Failure Unit → Report
  | .ok () => { report with
      written := report.written ++ [uriPart], notices := report.notices ++ said }
  | .error e => { report with
      failed := report.failed ++ [(uriPart, e)]
      notices := report.notices ++ said ++ [.failedGroup uriPart e] }

/-- All that compiling one group can do: list it as failed, or hand its document over and list it under
the answer. -/
theorem compileGroup_eq (report : Report) (s : σ) (p : String) (g : Group) :
    compileGroup routes comments sink (report, s) (p, g) =
      match (g.compile routes comments p).result with
      | .error e => (listed report p (g.compile routes comments p).notices (.error e), s)
      | .ok d => (listed report p (g.compile routes comments p).notices (sink s p g d).1,
          (sink s p g d).2) := by
  unfold compileGroup
  cases hc : (g.compile routes comments p).result with
  | error e => simp only [hc, listed]
  | ok d =>
    simp only [hc]
    cases ha : (sink s p g d).1 with
    | ok u => cases u; simp only [listed]
    | error e => simp only [listed]

section

variable {p q : String} {said : List Notice} {answer : Except Failure Unit} {e : Failure} {ks : List String}

theorem mem_written_listed : q ∈ (listed report p said answer).written ↔
    q ∈ report.written ∨ q = p ∧ answer = .ok () := by
  cases answer with
  | ok u => simp [listed]
  | error e => simp [listed]

theorem mem_failed_listed : (q, e) ∈ (listed report p said answer).failed ↔
    (q, e) ∈ report.failed ∨ q = p ∧ answer = .error e := by
  cases answer with
  | ok u => simp [listed]
  | error e' => simp [listed, eq_comm]

theorem written_listed_sublist (h : report.written.Sublist ks) :
    (listed report p said answer).written.Sublist (ks ++ [p]) := by
  cases answer with
  | ok u => exact h.append (List.Sublist.refl [p])
  | error e => exact h.trans (List.sublist_append_left ks [p])

theorem failed_listed_sublist (h : (report.failed.map Prod.fst).Sublist ks) :
    ((listed report p said answer).failed.map Prod.fst).Sublist (ks ++ [p]) := by
  cases answer with
  | ok u => exact h.trans (List.sublist_append_left ks [p])
  | error e =>
    rw [listed, List.map_append]
    exact h.append (List.Sublist.refl [p])

end

/-- After some groups the sink was handed the documents of those that compile, and each group is listed
under what became of it. -/
structure Accounted (routes : List Route) (comments : Comments) (sink : Sink σ)
    (es : List (String × Group)) (report : Report) (record : List Delivery) : Prop where
  delivered : record.map Delivery.content = es.filterMap (compiled? routes comments)
  answers : ∀ r ∈ record, ∃ t, (sink t r.uriPart r.group r.document).1 = r.answer
  written : ∀ p, p ∈ report.written ↔ ∃ r ∈ record, r.uriPart = p ∧ r.answer = .ok ()
  failed : ∀ p e, (p, e) ∈ report.failed ↔
    (∃ g, (p, g) ∈ es ∧ (g.compile routes comments p).result = .error e) ∨
      ∃ r ∈ record, r.uriPart = p ∧ r.answer = .error e
  recordOrder : (record.map (·.uriPart)).Sublist (es.map Prod.fst)
  writtenOrder : report.written.Sublist (es.map Prod.fst)
  failedOrder : (report.failed.map Prod.fst).Sublist (es.map Prod.fst)

namespace Accounted

variable {es : List (String × Group)} {record : List Delivery} {p : String} {g : Group}

theorem start : Accounted routes comments sink [] {} [] where
  delivered := rfl
  answers := by simp
  written := by simp
  failed := by simp
  recordOrder := .slnil
  writtenOrder := .slnil
  failedOrder := .slnil

/-- A group that fails to compile is not handed over. -/
theorem uncompiled (h : Accounted routes comments sink es report record) {e : Failure}
    (hc : (g.compile routes comments p).result = .error e) (said : List Notice) :
    Accounted routes comments sink (es ++ [(p, g)]) (listed report p said (.error e)) record where
  delivered := by
    have hnone : compiled? routes comments (p, g) = none := by simp [compiled?, hc]
    simp [h.delivered, hnone]
  answers := h.answers
  written q := by
    rw [mem_written_listed, h.written]
    simp
  failed q e' := by
    rw [mem_failed_listed, h.failed]
    constructor
    · rintro ((⟨f, hf, hfe⟩ | hr) | ⟨rfl, he⟩)
      · exact .inl ⟨f, List.mem_append_left _ hf, hfe⟩
      · exact .inr hr
      · exact .inl ⟨g, by simp, by rw [hc, Except.error.inj he]⟩
    · rintro (⟨f, hf, hfe⟩ | hr)
      · rcases List.mem_append.1 hf with hf | hf
        · exact .inl (.inl ⟨f, hf, hfe⟩)
        · obtain ⟨rfl, rfl⟩ := Prod.mk.inj (List.mem_singleton.1 hf)
          exact .inr ⟨rfl, by rw [Except.error.inj (hc.symm.trans hfe)]⟩
      · exact .inl (.inr hr)
  recordOrder := by
    rw [List.map_append]
    exact h.recordOrder.trans (List.sublist_append_left _ _)
  writtenOrder := by
    rw [List.map_append]
    exact written_listed_sublist h.writtenOrder
  failedOrder := by
    rw [List.map_append]
    exact failed_listed_sublist h.failedOrder

/-- A group that compiles is handed over, and listed under the answer. -/
theorem answered (h : Accounted routes comments sink es report record) {d : Document}
    (hc : (g.compile routes comments p).result = .ok d) (t : σ) (said : List Notice) :
    Accounted routes comments sink (es ++ [(p, g)]) (listed report p said (sink t p g d).1)
      (record ++ [⟨p, g, d, (sink t p g d).1⟩]) where
  delivered := by
    have hsome : compiled? routes comments (p, g) = some (p, g, d) := compiled?_eq_some_iff.2 ⟨rfl, hc⟩
    simp [h.delivered, hsome, Delivery.content]
  answers r hr := by
    rcases List.mem_append.1 hr with hr | hr
    · exact h.answers r hr
    · rw [List.mem_singleton.1 hr]
      exact ⟨t, rfl⟩
  written q := by
    rw [mem_written_listed, h.written]
    simp [or_and_right, exists_or, eq_comm]
  failed q e := by
    have hes : (∃ f, (q, f) ∈ es ++ [(p, g)] ∧ (f.compile routes comments q).result = .error e) ↔
        ∃ f, (q, f) ∈ es ∧ (f.compile routes comments q).result = .error e := by
      refine exists_congr fun f => ?_
      rw [List.mem_append, List.mem_singleton]
      refine and_congr_left fun hf => or_iff_left fun he => ?_
      obtain ⟨rfl, rfl⟩ := Prod.mk.inj he
      exact absurd (hf.symm.trans hc) (by simp)
    rw [mem_failed_listed, h.failed, hes]
    simp [or_and_right, exists_or, or_assoc, eq_comm]
  recordOrder := by
    rw [List.map_append, List.map_append]
    exact h.recordOrder.append (List.Sublist.refl [p])
  writtenOrder := by
    rw [List.map_append]
    exact written_listed_sublist h.writtenOrder
  failedOrder := by
    rw [List.map_append]
    exact failed_listed_sublist h.failedOrder

theorem mem_record_iff (h : Accounted routes comments sink es report record) {d : Document} :
    (∃ r ∈ record, r.content = (p, g, d)) ↔
      (p, g) ∈ es ∧ (g.compile routes comments p).result = .ok d := by
  rw [← List.mem_map, h.delivered, List.mem_filterMap]
  simp only [compiled?_eq_some_iff]
  constructor
  · rintro ⟨entry, hm, rfl, hc⟩
    exact ⟨hm, hc⟩
  · rintro ⟨hm, hc⟩
    exact ⟨(p, g), hm, rfl, hc⟩

theorem compiled (h : Accounted routes comments sink es report record) {r : Delivery} (hr : r ∈ record) :
    (r.uriPart, r.group) ∈ es ∧ (r.group.compile routes comments r.uriPart).result = .ok r.document :=
  h.mem_record_iff.1 ⟨r, hr, rfl⟩

/-- Every group is listed, and none that is not there. -/
theorem listed_iff (h : Accounted routes comments sink es report record) :
    p ∈ es.map Prod.fst ↔ p ∈ report.written ∨ p ∈ report.failed.map Prod.fst := by
  constructor
  · intro hp
    obtain ⟨⟨p, g⟩, hg, rfl⟩ := List.mem_map.1 hp
    cases hc : (g.compile routes comments p).result with
    | error e => exact .inr (List.mem_map.2 ⟨(p, e), (h.failed p e).2 (.inl ⟨g, hg, hc⟩), rfl⟩)
    | ok d =>
      obtain ⟨r, hr, hcontent⟩ := h.mem_record_iff.2 ⟨hg, hc⟩
      have hp : r.uriPart = p := (Prod.mk.inj hcontent).1
      cases ha : r.answer with
      | ok u => exact .inl ((h.written p).2 ⟨r, hr, hp, ha⟩)
      | error e => exact .inr (List.mem_map.2 ⟨(p, e), (h.failed p e).2 (.inr ⟨r, hr, hp, ha⟩), rfl⟩)
  · rintro (hp | hp)
    · exact h.writtenOrder.subset hp
    · exact h.failedOrder.subset hp

/-- Of groups with different prefixes none is listed twice. -/
theorem not_failed (h : Accounted routes comments sink es report record) (hes : (es.map Prod.fst).Nodup)
    (hp : p ∈ report.written) : p ∉ report.failed.map Prod.fst := by
  intro hf
  obtain ⟨⟨p, e⟩, hpe, rfl⟩ := List.mem_map.1 hf
  obtain ⟨r, hr, hu, ha⟩ := (h.written p).1 hp
  obtain ⟨hm, hc⟩ := h.compiled hr
  rcases (h.failed p e).1 hpe with ⟨f, hf, he⟩ | ⟨r', hr', hu', ha'⟩
  · have hg : (r.uriPart, r.group) = (p, f) := List.inj_on_of_nodup_map hes hm hf hu
    obtain ⟨rfl, rfl⟩ := Prod.mk.inj hg
    exact absurd (hc.symm.trans he) (by simp)
  · have hrr : r = r' := List.inj_on_of_nodup_map (hes.sublist h.recordOrder) hr hr' (hu.trans hu'.symm)
    subst hrr
    exact absurd (ha.symm.trans ha') (by simp)

/-- Where the sink answers by prefix and document, what compiles is answered so. -/
theorem answered_iff (h : Accounted routes comments sink es report record)
    {answer : String → Document → Except Failure Unit} (hs : sink.AnswersBy answer)
    {a : Except Failure Unit} : (∃ r ∈ record, r.uriPart = p ∧ r.answer = a) ↔
      ∃ g d, (p, g) ∈ es ∧ (g.compile routes comments p).result = .ok d ∧ answer p d = a := by
  constructor
  · rintro ⟨r, hr, rfl, rfl⟩
    obtain ⟨hm, hc⟩ := h.compiled hr
    obtain ⟨t, ht⟩ := h.answers r hr
    exact ⟨r.group, r.document, hm, hc, by rw [← hs, ht]⟩
  · rintro ⟨g, d, hm, hc, rfl⟩
    obtain ⟨r, hr, hcontent⟩ := h.mem_record_iff.2 ⟨hm, hc⟩
    obtain ⟨t, ht⟩ := h.answers r hr
    obtain ⟨rfl, rfl, rfl⟩ : r.uriPart = p ∧ r.group = g ∧ r.document = d := by
      simpa [Delivery.content] using hcontent
    exact ⟨r, hr, rfl, by rw [← ht, hs]⟩

end Accounted

/-- The record is kept beside the run, which is the same without it. -/
theorem foldl_accounted (routes : List Route) (comments : Comments) (sink : Sink σ) (s : σ)
    (es : List (String × Group)) : ∃ report s' record,
      es.foldl (compileGroup routes comments sink.recorded) ({}, s, []) = (report, s', record) ∧
      es.foldl (compileGroup routes comments sink) ({}, s) = (report, s') ∧
      Accounted routes comments sink es report record := by
  induction es using List.reverseRecOn with
  | nil => exact ⟨{}, s, [], rfl, rfl, .start⟩
  | append_singleton es entry ih =>
    obtain ⟨report, t, record, hrecorded, hrun, h⟩ := ih
    obtain ⟨p, g⟩ := entry
    simp only [List.foldl_append, List.foldl_cons, List.foldl_nil, hrecorded, hrun, compileGroup_eq]
    cases hc : (g.compile routes comments p).result with
    | error e => exact ⟨_, _, _, rfl, rfl, h.uncompiled hc _⟩
    | ok d => exact ⟨_, _, _, rfl, rfl, h.answered hc t _⟩

variable {config : Config} {answer : String → Document → Except Failure Unit} {p : String}

/-- A sink that answers by prefix and document leaves no other influence on what is written. -/
theorem mem_written_iff (hs : sink.AnswersBy answer) :
    p ∈ (config.compileAll routes comments sink s).1.written ↔ ∃ g d, config.get? p = some g ∧
      (g.compile routes comments p).result = .ok d ∧ answer p d = .ok () := by
  obtain ⟨report, s', record, -, hrun, h⟩ := foldl_accounted routes comments sink s config.entries
  rw [compileAll, hrun, h.written, h.answered_iff hs]
  simp only [SortedMap.mem_entries_iff]

theorem mem_failed_iff (hs : sink.AnswersBy answer) {e : Failure} :
    (p, e) ∈ (config.compileAll routes comments sink s).1.failed ↔ ∃ g, config.get? p = some g ∧
      ((g.compile routes comments p).result = .error e ∨
        ∃ d, (g.compile routes comments p).result = .ok d ∧ answer p d = .error e) := by
  obtain ⟨report, s', record, -, hrun, h⟩ := foldl_accounted routes comments sink s config.entries
  rw [compileAll, hrun, h.failed, h.answered_iff hs]
  simp only [SortedMap.mem_entries_iff, and_or_left, exists_or, exists_and_left]

/-- The sink is handed the documents of the groups that compile, once each and in the order of their
prefixes. The report lists every prefix once, as written or with the failure to compile or to write it.
With a sink that answers by prefix and document, a group that is taken out or broken changes nothing for
the others. -/
theorem compileAll_isolated (config : Config) (routes : List Route) (comments : Comments) (sink : Sink σ)
    (s : σ) :
    (∃ report s' record,
      config.compileAll routes comments sink.recorded (s, []) = (report, s', record) ∧
      config.compileAll routes comments sink s = (report, s') ∧
      record.map Delivery.content = config.entries.filterMap (compiled? routes comments) ∧
      (record.map (·.uriPart)).Pairwise (· < ·) ∧
      (∀ p, p ∈ report.written ↔ ∃ r ∈ record, r.uriPart = p ∧ r.answer = .ok ()) ∧
      (∀ p e, (p, e) ∈ report.failed ↔
        (∃ g, config.get? p = some g ∧ (g.compile routes comments p).result = .error e) ∨
          ∃ r ∈ record, r.uriPart = p ∧ r.answer = .error e) ∧
      report.written.Pairwise (· < ·) ∧ (report.failed.map Prod.fst).Pairwise (· < ·) ∧
      (∀ p, p ∈ config.keys ↔ p ∈ report.written ∨ p ∈ report.failed.map Prod.fst) ∧
      ∀ p ∈ report.written, p ∉ report.failed.map Prod.fst) ∧
    ∀ answer, sink.AnswersBy answer → ∀ (k : String) (config' : Config) routes' comments' s',
      (∀ p, p ≠ k → config'.get? p = config.get? p) →
      (∀ p g, p ≠ k → config.get? p = some g →
        (g.compile routes' comments' p).result = (g.compile routes comments p).result) →
      ∀ p, p ≠ k →
        (p ∈ (config'.compileAll routes' comments' sink s').1.written ↔
          p ∈ (config.compileAll routes comments sink s).1.written) ∧
        ∀ e, (p, e) ∈ (config'.compileAll routes' comments' sink s').1.failed ↔
          (p, e) ∈ (config.compileAll routes comments sink s).1.failed := by
  constructor
  · obtain ⟨report, s', record, hrecorded, hrun, h⟩ :=
      foldl_accounted routes comments sink s config.entries
    have hsorted := config.sorted_keys
    refine ⟨report, s', record, hrecorded, hrun, h.delivered, hsorted.sublist h.recordOrder, h.written, ?_,
      hsorted.sublist h.writtenOrder, hsorted.sublist h.failedOrder, fun p => h.listed_iff,
      fun p hp => h.not_failed config.nodup_keys hp⟩
    intro p e
    rw [h.failed]
    simp only [SortedMap.mem_entries_iff]
  · intro answer hs k config' routes' comments' s' hconfig hcompile p hp
    constructor
    · rw [mem_written_iff hs, mem_written_iff hs, hconfig p hp]
      refine exists_congr fun g => exists_congr fun d => and_congr_right fun hg => ?_
      rw [hcompile p g hp hg]
    · intro e
      rw [mem_failed_iff hs, mem_failed_iff hs, hconfig p hp]
      refine exists_congr fun g => and_congr_right fun hg => ?_
      rw [hcompile p g hp hg]

/-- Two groups that compile. -/
def orderConfig : Config := SortedMap.ofList [("/api", orderGroup), ("/web", orderGroup)]

/-- A third group, which lacks the definitions of its schemes. -/
def brokenConfig : Config := orderConfig.insert "/api/orders" { orderGroup with security := ∅ }

/-- Counts what it is handed, and refuses one prefix. -/
def refusesWeb : Sink Nat := fun n p _ _ => (if p = "/web" then .error .io else .ok (), n + 1)

theorem compileAll_isolated_orders :
    refusesWeb.AnswersBy (fun p _ => if p = "/web" then .error .io else .ok ()) ∧
    (∀ p, p ≠ "/api/orders" → orderConfig.get? p = brokenConfig.get? p) ∧
    (∀ p, p ≠ "/api/orders" →
      (p ∈ (orderConfig.compileAll orderRoutes orderComments refusesWeb 0).1.written ↔
        p ∈ (brokenConfig.compileAll orderRoutes orderComments refusesWeb 0).1.written) ∧
      ∀ e, (p, e) ∈ (orderConfig.compileAll orderRoutes orderComments refusesWeb 0).1.failed ↔
        (p, e) ∈ (brokenConfig.compileAll orderRoutes orderComments refusesWeb 0).1.failed) ∧
    (brokenConfig.compileAll orderRoutes orderComments refusesWeb 0).1.written = ["/api"] ∧
    (brokenConfig.compileAll orderRoutes orderComments refusesWeb 0).1.failed =
      [("/api/orders", .missingScheme "admin" "/api/orders"), ("/web", .io)] := by
  have hs : refusesWeb.AnswersBy (fun p _ => if p = "/web" then .error .io else .ok ()) :=
    fun _ _ _ _ => rfl
  have hc : ∀ p, p ≠ "/api/orders" → orderConfig.get? p = brokenConfig.get? p := by
    intro p hp
    rw [brokenConfig, SortedMap.get?_insert, if_neg hp]
  refine ⟨hs, hc, ?_, by decide +kernel, by decide +kernel⟩
  exact (compileAll_isolated brokenConfig orderRoutes orderComments refusesWeb 0).2 _ hs "/api/orders"
    orderConfig orderRoutes orderComments 0 hc fun _ _ _ _ => rfl

end Config

end RouteDocs
