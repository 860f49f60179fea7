import RouteDocs.Source.Parser

namespace RouteDocs.Source

mutual

/-- The words among tokens, those inside groups included. -/
def Token.words : Token → List String
  | .word name => [name]
  | .group _ content => Token.wordsAll content
  | _ => []

def Token.wordsAll : List Token → List String
  | [] => []
  | t :: ts => t.words ++ Token.wordsAll ts

end

/-- Every word among the tokens has the property. -/
def AllWords (p : String → Prop) (ts : List Token) : Prop := ∀ w ∈ Token.wordsAll ts, p w

variable {p : String → Prop}

@[simp]
theorem allWords_nil : AllWords p [] := by simp [AllWords, Token.wordsAll]

@[simp]
theorem allWords_cons {t : Token} {ts : List Token} : AllWords p (t :: ts) ↔ (∀ w ∈ t.words, p w) ∧ AllWords p ts := by
  simp [AllWords, Token.wordsAll, or_imp, forall_and]

@[simp]
theorem allWords_append {ts us : List Token} : AllWords p (ts ++ us) ↔ AllWords p ts ∧ AllWords p us := by
  induction ts with
  | nil => simp
  | cons t ts ih => simp [ih, and_assoc]

theorem AllWords.of_suffix {ts rest : List Token} (h : AllWords p ts) (hrest : rest <:+ ts) : AllWords p rest := by
  obtain ⟨taken, rfl⟩ := hrest
  exact (allWords_append.1 h).2

namespace Parser

variable {α β : Type} {P : α → Prop} {Q : β → Prop} {x : Parser α} {f : α → Parser β}

/-- From tokens whose words have one property, only what has another one is read. -/
def Reads (p : String → Prop) (x : Parser α) (P : α → Prop) : Prop :=
  ∀ ts a rest, AllWords p ts → x.run ts = some (a, rest) → P a

theorem Reads.trivial : Reads p x fun _ => True := fun _ _ _ _ _ => True.intro

theorem Reads.pure {a : α} (h : P a) : Reads p (Pure.pure a) P := by
  intro ts a rest _ hrun
  cases hrun
  exact h

theorem Reads.failure : Reads p (failure : Parser α) P := fun _ _ _ _ hrun => nomatch hrun

theorem run_bind_eq_some_iff {ts : List Token} {b : β} {rest : List Token} : (x >>= f).run ts = some (b, rest) ↔
    ∃ a middle, x.run ts = some (a, middle) ∧ (f a).run middle = some (b, rest) :=
  Option.bind_eq_some_iff.trans Prod.exists

theorem Reads.bind (hx : Reads p x P) (hf : ∀ a, P a → Reads p (f a) Q) : Reads p (x >>= f) Q := by
  intro ts b rest hts hrun
  obtain ⟨a, middle, hfirst, hthen⟩ := run_bind_eq_some_iff.1 hrun
  exact hf a (hx ts a middle hts hfirst) middle b rest (hts.of_suffix (x.leaves_suffix hfirst)) hthen

/-- What is read first need not matter. -/
theorem Reads.skip (hf : ∀ a, Reads p (f a) Q) : Reads p (x >>= f) Q := Reads.trivial.bind fun a _ => hf a

theorem Reads.returning {b : β} (hb : Q b) (x : Parser α) : Reads p (do let _ ← x; return b) Q :=
  .skip fun _ => .pure hb

theorem Reads.ite {c : Prop} [Decidable c] {y : Parser α} (hx : Reads p x P) (hy : Reads p y P) :
    Reads p (if c then x else y) P := by
  split
  · exact hx
  · exact hy

/-- What is read on either side of a question that the tokens answer. -/
theorem Reads.branch {c : Parser Bool} {y z : Parser β} (hy : Reads p y Q) (hz : Reads p z Q) :
    Reads p (do if ← c then y else z) Q := .skip fun _ => .ite hy hz

/-- What is read behind a part that may be left out. -/
theorem Reads.behind {c : Prop} [Decidable c] {y : Parser Unit} {z : Unit → Parser β} (hz : Reads p (z ()) Q) :
    Reads p (if c then y >>= z else z ()) Q := .ite (.skip fun _ => hz) hz

theorem Reads.anyWord : Reads p anyWord p := by
  intro ts w rest hts hrun
  unfold Parser.anyWord at hrun
  dsimp only at hrun
  split at hrun
  · cases hrun
    exact (allWords_cons.1 hts).1 _ (by simp [Token.words])
  · cases hrun

theorem Reads.name : Reads p name p := .skip fun _ => .anyWord

/-- The words of a group are among those of the tokens that it is one of. -/
theorem Reads.inGroup {b : Bracket} (h : Reads p x P) : Reads p (inGroup b x) P := by
  intro ts a rest hts hrun
  unfold Parser.inGroup at hrun
  dsimp only at hrun
  split at hrun
  · split at hrun
    · split at hrun
      · next hcontent =>
        cases hrun
        exact h _ _ _ (allWords_cons.1 hts).1 hcontent
      · cases hrun
    · cases hrun
  · cases hrun

theorem Reads.whileSees {look : Look} (h : Reads p x P) : Reads p (whileSees look x) fun as => ∀ a ∈ as, P a := by
  refine .skip fun ts => ?_
  induction ts.length with
  | zero => exact .pure (by simp)
  | succ n ih =>
    refine .skip fun _ => .ite ?_ (.pure (by simp))
    exact h.bind fun a ha => ih.bind fun as has => .pure (List.forall_mem_cons.2 ⟨ha, has⟩)

/-- A step that keeps a property of the value can be repeated. -/
theorem Reads.iterate {step : α → Parser (Option α)} {a : α} (h : ∀ a, P a → Reads p (step a) fun b? => ∀ b ∈ b?, P b)
    (ha : P a) : Reads p (iterate step a) P := by
  refine .skip fun ts => ?_
  induction ts.length + 1 generalizing a with
  | zero => exact .failure
  | succ n ih =>
    refine (h a ha).bind fun b? hb => ?_
    cases b? with
    | none => exact .pure ha
    | some b => exact ih (hb b rfl)

end Parser

end RouteDocs.Source
