import Mathlib.Data.List.Forall2

namespace RouteDocs

theorem exists_forall₂_iff {α β : Type} {R : α → β → Prop} {xs : List α} :
    (∃ ys, List.Forall₂ R xs ys) ↔ ∀ x ∈ xs, ∃ y, R x y := by
  induction xs with
  | nil => exact iff_of_true ⟨[], .nil⟩ (by simp)
  | cons x xs ih =>
    rw [List.forall_mem_cons, ← ih]
    constructor
    · rintro ⟨ys, h⟩
      cases h with
      | cons hy hys => exact ⟨⟨_, hy⟩, _, hys⟩
    · rintro ⟨⟨y, hy⟩, ys, hys⟩
      exact ⟨y :: ys, .cons hy hys⟩

/-- A property holds of a whole list, or there is a first element without it. -/
theorem forall_or_first {α : Type} (p : α → Prop) (xs : List α) :
    (∀ x ∈ xs, p x) ∨ ∃ first x rest, xs = first ++ x :: rest ∧ (∀ y ∈ first, p y) ∧ ¬ p x := by
  induction xs with
  | nil => exact .inl (by simp)
  | cons x xs ih =>
    by_cases hx : p x
    · rcases ih with hall | ⟨first, y, rest, rfl, hfirst, hy⟩
      · exact .inl (List.forall_mem_cons.2 ⟨hx, hall⟩)
      · exact .inr ⟨x :: first, y, rest, rfl, List.forall_mem_cons.2 ⟨hx, hfirst⟩, hy⟩
    · exact .inr ⟨[], x, xs, rfl, by simp, hx⟩

/-- An element of two lists that are joined stands in the second one or in the first one. -/
theorem append_eq_append_cons_iff {α : Type} {as bs xs ys : List α} {a : α} :
    as ++ bs = xs ++ a :: ys ↔
      (∃ zs, xs = as ++ zs ∧ bs = zs ++ a :: ys) ∨ ∃ zs, as = xs ++ a :: zs ∧ ys = zs ++ bs := by
  constructor
  · intro h
    rcases List.append_eq_append_iff.1 h with hsecond | ⟨zs, hfirst, hzs⟩
    · exact .inl hsecond
    · rcases List.cons_eq_append_iff.1 hzs with ⟨rfl, hbs⟩ | ⟨zs, rfl, hys⟩
      · exact .inl ⟨[], by rw [hfirst, List.append_nil, List.append_nil], hbs⟩
      · exact .inr ⟨zs, hfirst, hys⟩
  · rintro (⟨zs, rfl, rfl⟩ | ⟨zs, rfl, rfl⟩)
    · exact (List.append_assoc as zs (a :: ys)).symm
    · exact List.append_assoc xs (a :: zs) bs

theorem lookup_cons_ite {β : Type} (k l : String) (v : β) (entries : List (String × β)) :
    ((k, v) :: entries).lookup l = if l = k then some v else entries.lookup l := by
  by_cases h : l = k
  · simp [h]
  · have hb : (l == k) = false := beq_false_of_ne h
    simp [List.lookup_cons, hb, h]

theorem lookup_flatMap {α β : Type} (f : α → List (String × β)) (xs : List α) (k : String) :
    (xs.flatMap f).lookup k = xs.findSome? fun x => (f x).lookup k := by
  induction xs with
  | nil => rfl
  | cons x xs ih =>
    rw [List.flatMap_cons, List.lookup_append, ih, List.findSome?_cons]
    cases (f x).lookup k <;> rfl

theorem eraseDups_of_nodup {l : List String} (h : l.Nodup) : l.eraseDups = l := by
  induction l with
  | nil => rfl
  | cons a l ih =>
    obtain ⟨ha, hl⟩ := List.nodup_cons.1 h
    have hkept : l.filter (fun b => !b == a) = l := by
      rw [List.filter_eq_self]
      intro b hb
      simpa using fun he : b = a => ha (he ▸ hb)
    rw [List.eraseDups_cons, hkept, ih hl]

/-- Lists that are appended without what is there already can be taken together in any order. -/
theorem append_removeAll_assoc (as bs cs : List String) :
    as ++ bs.removeAll as ++ cs.removeAll (as ++ bs.removeAll as) = as ++ (bs ++ cs.removeAll bs).removeAll as := by
  have hrest : cs.removeAll (as ++ bs.removeAll as) = (cs.removeAll bs).removeAll as := by
    simp only [List.removeAll, List.filter_filter]
    apply List.filter_congr
    intro c _
    by_cases ha : c ∈ as <;> simp [ha]
  have happend : (bs ++ cs.removeAll bs).removeAll as = bs.removeAll as ++ (cs.removeAll bs).removeAll as :=
    List.filter_append ..
  rw [List.append_assoc, hrest, happend]

/-- The first element of a list with a property. -/
def IsFirst (p : α → Prop) (l : List α) (a : α) : Prop :=
  p a ∧ ∃ before after, l = before ++ a :: after ∧ ∀ b ∈ before, ¬ p b

theorem find?_iff_isFirst {p : α → Prop} [DecidablePred p] {l : List α} {a : α} :
    l.find? p = some a ↔ IsFirst p l a := by
  simp only [List.find?_eq_some_iff_append, IsFirst, decide_eq_true_eq, Bool.not_eq_true',
    decide_eq_false_iff_not]

theorem IsFirst.mem {p : α → Prop} {l : List α} {a : α} (h : IsFirst p l a) : a ∈ l := by
  obtain ⟨-, before, after, rfl, -⟩ := h
  simp

theorem find?_reverse_append_singleton (l : List α) (a : α) (p : α → Bool) :
    (l ++ [a]).reverse.find? p = if p a = true then some a else l.reverse.find? p := by
  rw [List.reverse_append, List.reverse_singleton, List.singleton_append, List.find?_cons]
  cases p a <;> rfl

theorem find?_reverse_eq_some_iff {l : List α} {p : α → Bool} {a : α} :
    l.reverse.find? p = some a ↔
      p a = true ∧ ∃ before after, l = before ++ a :: after ∧ ∀ b ∈ after, p b = false := by
  rw [List.find?_eq_some_iff_append]
  constructor
  · intro hx
    obtain ⟨ha, xs, ys, hl, hx⟩ := hx
    refine ⟨ha, ys.reverse, xs.reverse, ?_, ?_⟩
    · rw [← l.reverse_reverse, hl]
      simp
    · intro b hb
      simpa using hx b (List.mem_reverse.1 hb)
  · intro hx
    obtain ⟨ha, before, after, rfl, hafter⟩ := hx
    refine ⟨ha, after.reverse, before.reverse, by simp, ?_⟩
    intro b hb
    simp [hafter b (List.mem_reverse.1 hb)]

theorem find?_reverse_filter (l : List α) (p q : α → Bool) :
    (l.filter p).reverse.find? q = l.reverse.find? fun a => p a && q a := by
  rw [← List.filter_reverse, List.find?_filter]
  simp only [Bool.decide_and, Bool.decide_eq_true]

/-- The last element of a list with a property. -/
def IsLast (p : α → Prop) (l : List α) (a : α) : Prop :=
  p a ∧ ∃ before after, l = before ++ a :: after ∧ ∀ b ∈ after, ¬ p b

theorem find?_reverse_iff_isLast {p : α → Prop} [DecidablePred p] {l : List α} {a : α} :
    l.reverse.find? p = some a ↔ IsLast p l a := by
  simp only [find?_reverse_eq_some_iff, IsLast, decide_eq_true_eq, decide_eq_false_iff_not]

theorem IsLast.mem {p : α → Prop} {l : List α} {a : α} (h : IsLast p l a) : a ∈ l := by
  obtain ⟨-, before, after, rfl, -⟩ := h
  simp

theorem IsLast.cons {p : α → Prop} {l : List α} {a : α} (h : IsLast p l a) (b : α) : IsLast p (b :: l) a := by
  obtain ⟨ha, before, after, rfl, hafter⟩ := h
  exact ⟨ha, b :: before, after, rfl, hafter⟩

theorem exists_isLast {p : α → Prop} {l : List α} {a : α} (ha : a ∈ l) (hp : p a) : ∃ b, IsLast p l b := by
  classical
  have hsome : (l.reverse.find? fun a => decide (p a)).isSome = true := by
    rw [List.find?_isSome]
    exact ⟨a, List.mem_reverse.2 ha, decide_eq_true hp⟩
  obtain ⟨b, hb⟩ := Option.isSome_iff_exists.1 hsome
  exact ⟨b, find?_reverse_iff_isLast.1 hb⟩

/-- Steps that each give an answer and change a state come to all answers and to the state after all changes. -/
theorem run_mapM {σ : Type u} {α : Type v} {β : Type u} {f : α → StateM σ β} {answer : α → β} {change : σ → α → σ}
    (h : ∀ a s, (f a).run s = (answer a, change s a)) (as : List α) (s : σ) :
    (as.mapM f).run s = (as.map answer, as.foldl change s) := by
  induction as generalizing s with
  | nil => rfl
  | cons a as ih =>
    simp only [List.mapM_cons, StateT.run_bind, h, ih]
    rfl

end RouteDocs
