import RouteDocs.Proofs.Guards

namespace RouteDocs

namespace Journal

/-- A journal with further models that were asked for, and further notices. -/
def add (j : Journal) (imports : List Import) (types : List String) (notices : List Notice) : Journal :=
  ⟨j.context.addModels imports types, j.notices ++ notices⟩

variable (j : Journal) (imports : List Import)

@[simp] theorem context_add (types : List String) (ns : List Notice) :
    (j.add imports types ns).context = j.context.addModels imports types := rfl

@[simp] theorem notices_add (types : List String) (ns : List Notice) :
    (j.add imports types ns).notices = j.notices ++ ns := rfl

@[simp] theorem add_nil : j.add imports [] [] = j := by
  rw [add, List.append_nil]
  rfl

@[simp] theorem add_add (ts us : List String) (ms ns : List Notice) :
    (j.add imports ts ms).add imports us ns = j.add imports (ts ++ us) (ms ++ ns) := by
  simp [add, Context.addModels, Models.recordAll]

@[simp] theorem add_notices (ts : List String) (is : List Import) (ms ns : List Notice) :
    (j.add imports ts ms).add is [] ns = j.add imports ts (ms ++ ns) := by
  simp [add, Context.addModels, Models.recordAll]

end Journal

namespace CompileM

variable {α β : Type} {x : CompileM α} {f : α → CompileM β} {a : α} {b : β} {e : Failure} {j k l : Journal}

theorem exec_bind_ok (h : x.exec j = (.ok a, k)) : (x >>= f).exec j = (f a).exec k := by
  rw [exec] at h
  rw [exec, ExceptT.run_bind, StateT.run_bind, h]
  rfl

theorem exec_bind_error (h : x.exec j = (.error e, k)) : (x >>= f).exec j = (.error e, k) := by
  rw [exec] at h
  rw [exec, ExceptT.run_bind, StateT.run_bind, h]
  rfl

/-- Steps one after another succeed if each of them does, the second one from where the first one ends. -/
theorem exec_bind_eq_ok_iff : (x >>= f).exec j = (.ok b, l) ↔
    ∃ a k, x.exec j = (.ok a, k) ∧ (f a).exec k = (.ok b, l) := by
  rcases hx : x.exec j with ⟨e | a, k⟩
  · rw [exec_bind_error hx]
    simp
  · rw [exec_bind_ok hx]
    simp

@[simp] theorem exec_pure (a : α) (j : Journal) : (pure a : CompileM α).exec j = (.ok a, j) := rfl

@[simp] theorem exec_throw (e : Failure) (j : Journal) : (throw e : CompileM α).exec j = (.error e, j) := rfl

@[simp] theorem exec_say (n : Notice) (j : Journal) : (say n).exec j = (.ok (), j.add [] [] [n]) := rfl

@[simp] theorem exec_refer (l : Lookup) (j : Journal) :
    (refer l).exec j = (.ok (TypeName.reference l.type), j.add l.imports [l.type] []) := by
  rw [Journal.add, List.append_nil]
  rfl

@[simp] theorem exec_resolve (r : Route) (j : Journal) :
    (resolve r).exec j = (.ok r.requirements, { j with context := j.context.addGuards r }) := by
  have h := r.run_resolve j.context
  change (Except.ok (r.resolve.run j.context).1, { j with context := (r.resolve.run j.context).2 }) = _
  rw [h]

/-- Two runs with the same result. Their journals may differ as far as a relation allows. -/
inductive Together (R : Journal → Journal → Prop) : Except Failure α × Journal → Except Failure α × Journal → Prop where
  | intro (result : Except Failure α) {j k : Journal} (h : R j k) : Together R (result, j) (result, k)

/-- Steps that run together do so one after another, up to the first that fails. -/
theorem Together.foldlM {R : Journal → Journal → Prop} {f g : β → α → CompileM β}
    (step : ∀ s a j k, R j k → Together R ((f s a).exec j) ((g s a).exec k)) (as : List α) (s : β) (h : R j k) :
    Together R ((as.foldlM f s).exec j) ((as.foldlM g s).exec k) := by
  induction as generalizing s j k with
  | nil => exact .intro (.ok s) h
  | cons a as ih =>
    rw [List.foldlM_cons, List.foldlM_cons]
    have hstep := step s a j k h
    generalize hx : (f s a).exec j = x at hstep
    generalize hy : (g s a).exec k = y at hstep
    obtain ⟨result, hjk⟩ := hstep
    cases result with
    | error e =>
      -- Both runs stop here, with journals that the step has related.
      rw [exec_bind_error hx, exec_bind_error hy]
      exact .intro (.error e) hjk
    | ok t =>
      rw [exec_bind_ok hx, exec_bind_ok hy]
      exact ih t hjk

end CompileM

end RouteDocs
