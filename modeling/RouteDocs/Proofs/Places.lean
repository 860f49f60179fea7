namespace RouteDocs

/-- A place in nested lists: the numbers of the members that lead to it, from the outermost list on. -/
abbrev Place := List Nat

/-- Of two places the first number that differs tells which one comes before the other. -/
abbrev Place.Before (p q : Place) : Prop := List.Lex (· < ·) p q

/-- What stands at a place of a member stands in the list behind the number of the member. -/
inductive Within (R : α → Place → β → Prop) (xs : List α) : Place → β → Prop where
  | member {i : Nat} {x : α} {p : Place} {b : β} (found : xs[i]? = some x) (stands : R x p b) : Within R xs (i :: p) b

/-- What stands at the first place at which anything stands. -/
inductive First (R : Place → β → Prop) : Option β → Prop where
  | found {p : Place} {b : β} (stands : R p b) (first : ∀ q c, R q c → ¬ q.Before p) : First R (some b)
  | missing (empty : ∀ p b, ¬ R p b) : First R none

theorem Place.before_cons_iff {i j : Nat} {p q : Place} :
    Place.Before (i :: p) (j :: q) ↔ i < j ∨ i = j ∧ p.Before q :=
  List.cons_lex_cons_iff

section

variable {α β : Type} {R : α → Place → β → Prop} {x : α} {xs : List α} {p : Place} {b : β}

theorem within_cons_zero : Within R (x :: xs) (0 :: p) b ↔ R x p b := by
  constructor
  · intro h
    cases h with
    | member found stands => exact Option.some.inj found ▸ stands
  · exact .member rfl

theorem within_cons_succ {i : Nat} : Within R (x :: xs) ((i + 1) :: p) b ↔ Within R xs (i :: p) b := by
  constructor
  · intro h
    cases h with
    | member found stands => exact .member found stands
  · intro h
    cases h with
    | member found stands => exact .member found stands

theorem within_cons_iff : Within R (x :: xs) p b ↔
    (∃ q, p = 0 :: q ∧ R x q b) ∨ ∃ i q, p = (i + 1) :: q ∧ Within R xs (i :: q) b := by
  constructor
  · intro h
    cases h with
    | @member i y q _ found stands =>
      cases i with
      | zero => exact .inl ⟨q, rfl, within_cons_zero.1 (.member found stands)⟩
      | succ i => exact .inr ⟨i, q, rfl, within_cons_succ.1 (.member found stands)⟩
  · rintro (⟨q, rfl, h⟩ | ⟨i, q, rfl, h⟩)
    · exact within_cons_zero.2 h
    · exact within_cons_succ.2 h

/-- What stands first in the first member comes before all that stands in the others. -/
theorem First.cons_found (h : First (R x) (some b)) : First (Within R (x :: xs)) (some b) := by
  cases h with
  | found stands first =>
    refine .found (within_cons_zero.2 stands) fun q c hq hbefore => ?_
    rcases within_cons_iff.1 hq with ⟨q, rfl, hx⟩ | ⟨i, q, rfl, -⟩
    · rcases Place.before_cons_iff.1 hbefore with hlt | ⟨-, hbefore⟩
      · omega
      · exact first q c hx hbefore
    · rcases Place.before_cons_iff.1 hbefore with hlt | ⟨heq, -⟩
      · omega
      · omega

theorem First.cons_missing (hx : First (R x) none) {o : Option β} (h : First (Within R xs) o) :
    First (Within R (x :: xs)) o := by
  cases hx with
  | missing nothing =>
    cases h with
    | missing empty =>
      refine .missing fun p b hp => ?_
      rcases within_cons_iff.1 hp with ⟨q, rfl, hx⟩ | ⟨i, q, rfl, hxs⟩
      · exact nothing q b hx
      · exact empty _ b hxs
    | found stands first =>
      cases stands with
      | @member i y p _ found stands =>
        refine .found (within_cons_succ.2 (.member found stands)) fun q c hq hbefore => ?_
        rcases within_cons_iff.1 hq with ⟨q, rfl, hx⟩ | ⟨j, q, rfl, hxs⟩
        · exact nothing q c hx
        · refine first _ c hxs (Place.before_cons_iff.2 ?_)
          rcases Place.before_cons_iff.1 hbefore with hlt | ⟨heq, hbefore⟩
          · exact .inl (Nat.lt_of_succ_lt_succ hlt)
          · exact .inr ⟨Nat.succ.inj heq, hbefore⟩

/-- The first member in which anything stands decides what stands first in a list. -/
theorem first_within {f : α → Option β} (h : ∀ x ∈ xs, First (R x) (f x)) :
    First (Within R xs) (xs.findSome? f) := by
  induction xs with
  | nil =>
    refine .missing fun p b hb => ?_
    cases hb with
    | member found stands => simp at found
  | cons x xs ih =>
    have hx := h x (by simp)
    have hxs := ih fun y hy => h y (by simp [hy])
    rw [List.findSome?_cons]
    cases hfx : f x with
    | some b => exact .cons_found (hfx ▸ hx)
    | none => exact .cons_missing (hfx ▸ hx) hxs

end

variable {β : Type} {R : Place → β → Prop} {o : Option β} {b : β}

theorem First.isSome_iff (h : First R o) : o.isSome = true ↔ ∃ p b, R p b := by
  cases h with
  | @found p b stands first => exact iff_of_true rfl ⟨p, b, stands⟩
  | missing empty => simpa using empty

theorem First.stands (h : First R (some b)) : ∃ p, R p b := by
  cases h with
  | @found p _ stands first => exact ⟨p, stands⟩

/-- Where no two values stand at one place, only one value is the first. -/
theorem First.eq (unique : ∀ p b c, R p b → R p c → b = c) (h : First R o) (hb : First R (some b)) : o = some b := by
  cases hb with
  | @found p _ stands first =>
    cases h with
    | missing empty => exact absurd stands (empty p b)
    | @found q c stands' first' =>
      have hnumbers (i j : Nat) (hi : ¬ i < j) (hj : ¬ j < i) : i = j :=
        Nat.le_antisymm (Nat.not_lt.1 hj) (Nat.not_lt.1 hi)
      have hplace : q = p := List.lex_trichotomous hnumbers (first' p b stands) (first q c stands')
      subst hplace
      rw [unique q b c stands stands']

theorem First.congr {S : Place → β → Prop} (h : First R o) (hs : ∀ p b, R p b ↔ S p b) : First S o := by
  have heq : R = S := funext fun p => funext fun b => propext (hs p b)
  exact heq ▸ h

theorem First.map {γ : Type} (h : First R o) (f : β → γ) : First (fun p c => ∃ b, R p b ∧ f b = c) (o.map f) := by
  cases h with
  | found stands first =>
    refine .found ⟨_, stands, rfl⟩ fun q c hq => ?_
    obtain ⟨b, hb, -⟩ := hq
    exact first q b hb
  | missing empty =>
    refine .missing fun p c hp => ?_
    obtain ⟨b, hb, -⟩ := hp
    exact empty p b hb

end RouteDocs
