import RouteDocs.Proofs.Annotation.Written
import RouteDocs.Proofs.List

namespace RouteDocs

open Text Annotation

/-- A text declares a field: a type, blanks, a variable, and behind it nothing, or a blank and free text. -/
inductive IsDeclaration : List Char → Field → Prop where
  | intro {type gap name rest : List Char} (typed : isTypeName type = true) (apart : gap ≠ [])
    (blank : ∀ c ∈ gap, isBlank c = true) (named : isVariableName name = true)
    (ended : ∀ c ∈ rest.head?, isBlank c = true) :
    IsDeclaration (type ++ (gap ++ '$' :: (name ++ rest)))
      ⟨String.ofList type, String.ofList name, String.ofList (trim rest)⟩

/-- The variable of a declaration is marked. -/
theorem IsDeclaration.marked {s : List Char} {f : Field} (h : IsDeclaration s f) : '$' ∈ s := by
  cases h
  simp

/-- A text declares a parameter without a variable: a type, and behind it nothing, or a blank and free text
that is not marked as a variable. -/
inductive IsUnnamed : List Char → Field → Prop where
  | intro {type rest : List Char} (typed : isTypeName type = true) (ended : ∀ c ∈ rest.head?, isBlank c = true)
    (unmarked : (trim rest).head? ≠ some '$') :
    IsUnnamed (type ++ rest) ⟨String.ofList type, "", String.ofList (trim rest)⟩

/-- A text declares an outcome: a type, and behind it nothing, or a blank and free text. -/
inductive IsOutcome : List Char → Outcome → Prop where
  | intro {type rest : List Char} (typed : isTypeName type = true) (ended : ∀ c ∈ rest.head?, isBlank c = true) :
    IsOutcome (type ++ rest) ⟨String.ofList type, String.ofList (trim rest)⟩

namespace Annotation

/-- What follows the first word of a text ends as the text does, without blanks. -/
theorem eq_gap_append_trim {s w rest : List Char} (h : trim s = w ++ rest) :
    rest = rest.takeWhile isBlank ++ trim rest := by
  have hend : trimEnd rest = rest := by
    apply trimEnd_of_last
    intro c hc
    apply last_trimEnd (s := trimStart s)
    change c ∈ (trim s).getLast?
    rw [h, List.getLast?_append, Option.mem_def.1 hc]
    rfl
  have htrim : trim rest = trimStart rest := by rw [trim, ← trimStart_trimEnd, hend]
  rw [htrim, trimStart, List.takeWhile_append_dropWhile]

namespace Block

variable {b : Block} {strict : Bool}

theorem param_of_declaration {f : Field} (h : IsDeclaration (trim b.body) f) : b.param strict = .ok f := by
  generalize hb : trim b.body = s at h
  cases h with
  | @intro type gap name rest typed apart blank named ended =>
    have hgap : ∀ c ∈ (gap ++ '$' :: (name ++ rest)).head?, isBlank c = true := by
      obtain ⟨c, gap, rfl⟩ := List.exists_cons_of_ne_nil apart
      simpa using blank c (by simp)
    have hvar : IsWord ('$' :: name) := (variableName_word named).cons (by decide)
    have htype : splitWord b.body = (type, trim ('$' :: (name ++ rest))) := by
      rw [← splitWord_trim, hb, splitWord_append (typeName_word typed) hgap, trim_append_blanks blank]
    have hname : splitWord (trim ('$' :: (name ++ rest))) = ('$' :: name, trim rest) := by
      rw [splitWord_trim, ← List.cons_append, splitWord_append hvar ended]
    simp only [param, htype, hname, typed, named]
    rfl

theorem param_of_unnamed {f : Field} (h : IsUnnamed (trim b.body) f) : b.param false = .ok f := by
  generalize hb : trim b.body = s at h
  cases h with
  | @intro type rest typed ended unmarked =>
    have htype : splitWord b.body = (type, trim rest) := by
      rw [← splitWord_trim, hb, splitWord_append (typeName_word typed) ended]
    simp only [param, htype, typed, Bool.not_true, Bool.false_eq_true, ↓reduceIte]
    split
    · next name description hword =>
      have hmark : '$' ∈ (trim (trim rest)).head? := splitWord_head (by simp [hword])
      rw [trim_trim] at hmark
      exact absurd hmark unmarked
    · rfl

/-- A parameter block that is read declares a field, or else, where that is allowed, an unnamed one. -/
theorem declared_of_param {f : Field} (h : b.param strict = .ok f) :
    IsDeclaration (trim b.body) f ∨ strict = false ∧ IsUnnamed (trim b.body) f := by
  unfold param at h
  obtain ⟨type, r, hsplit⟩ : ∃ type r, splitWord b.body = (type, r) := ⟨_, _, rfl⟩
  obtain ⟨rest, hbody, hstart, hr⟩ := splitWord_eq hsplit
  simp only [hsplit] at h
  split at h
  · exact absurd h (by simp)
  · next typed =>
    have typed : isTypeName type = true := by simpa using typed
    split at h
    · next name description hvar =>
      split at h
      · next named =>
        obtain ⟨behind, hrest, ended, hd⟩ := splitWord_eq hvar
        rw [hr, trim_trim] at hrest
        have hgap := eq_gap_append_trim hbody
        rw [hrest] at hgap
        have apart : rest.takeWhile isBlank ≠ [] := by
          intro hnil
          have hdollar : isBlank '$' = true := hstart '$' (by rw [hgap, hnil]; rfl)
          exact absurd hdollar (by decide)
        rw [hbody, hgap, ← Except.ok.inj h, hd]
        exact .inl (.intro typed apart (fun c hc => List.mem_takeWhile_imp hc) named ended)
      · exact absurd h (by simp)
    · next unmarked =>
      split at h
      · exact absurd h (by simp)
      · next lenient =>
        have hmark : (trim rest).head? ≠ some '$' := by
          intro he
          obtain ⟨s, hs⟩ := List.head?_eq_some_iff.1 he
          have hword : splitWord r = ('$' :: s.takeWhile (!isBlank ·), trim (s.dropWhile (!isBlank ·))) := by
            rw [hr, splitWord, trim_trim, hs]
            rfl
          exact unmarked _ _ hword
        rw [hbody, ← Except.ok.inj h, hr]
        exact .inr ⟨Bool.eq_false_iff.2 lenient, .intro typed hstart hmark⟩

/-- A strict parameter block holds a declaration, and is read as the field that it declares. -/
theorem param_eq_ok_iff {f : Field} : b.param true = .ok f ↔ IsDeclaration (trim b.body) f := by
  refine ⟨fun h => ?_, param_of_declaration⟩
  exact (declared_of_param h).resolve_right fun hlenient => absurd hlenient.1 (by decide)

theorem param_cases (b : Block) (strict : Bool) :
    (∃ f, b.param strict = .ok f) ∨ b.param strict = .error b.malformed := by
  unfold param
  dsimp only
  split
  · exact .inr rfl
  · split
    · split
      · exact .inl ⟨_, rfl⟩
      · exact .inr rfl
    · split
      · exact .inr rfl
      · exact .inl ⟨_, rfl⟩

theorem outcome_eq_ok_iff {o : Outcome} : b.outcome = .ok o ↔ IsOutcome (trim b.body) o := by
  constructor
  · intro h
    obtain ⟨type, r, hsplit⟩ : ∃ type r, splitWord b.body = (type, r) := ⟨_, _, rfl⟩
    obtain ⟨rest, hbody, hstart, hr⟩ := splitWord_eq hsplit
    simp only [outcome, hsplit] at h
    split at h
    · next typed =>
      rw [hbody, ← Except.ok.inj h, hr]
      exact .intro typed hstart
    · exact absurd h (by simp)
  · intro h
    generalize hb : trim b.body = s at h
    cases h with
    | @intro type rest typed ended =>
      have htype : splitWord b.body = (type, trim rest) := by
        rw [← splitWord_trim, hb, splitWord_append (typeName_word typed) ended]
      simp only [outcome, htype, typed, ↓reduceIte]

theorem outcome_cases (b : Block) : (∃ o, b.outcome = .ok o) ∨ b.outcome = .error b.malformed := by
  unfold outcome
  dsimp only
  split
  · exact .inl ⟨_, rfl⟩
  · exact .inr rfl

/-- The tag that a block stands for. A parameter needs a variable only where the reading is strict. -/
inductive Says (strict : Bool) : Block → Tag → Prop where
  | declared {body : List Char} {f : Field} (h : IsDeclaration (trim body) f) :
      Says strict ⟨"param".toList, body⟩ (.param f)
  | unnamed {body : List Char} {f : Field} (lenient : strict = false) (h : IsUnnamed (trim body) f) :
      Says strict ⟨"param".toList, body⟩ (.param f)
  | returns {body : List Char} {o : Outcome} (h : IsOutcome (trim body) o) :
      Says strict ⟨"return".toList, body⟩ (.returns o)
  | throws {body : List Char} {o : Outcome} (h : IsOutcome (trim body) o) :
      Says strict ⟨"throws".toList, body⟩ (.throws o)

/-- A block with any other name is ignored. -/
def isKept (b : Block) : Bool := ["param".toList, "return".toList, "throws".toList].contains b.name

theorem tag?_of_says {t : Tag} (h : b.Says strict t) : b.tag? strict = .ok (some t) := by
  cases h with
  | declared h => rw [tag?_param, param_of_declaration h, ok_bind, pure_eq_ok]
  | unnamed lenient h => rw [lenient, tag?_param, param_of_unnamed h, ok_bind, pure_eq_ok]
  | returns h => rw [tag?_return, outcome_eq_ok_iff.2 h, ok_bind, pure_eq_ok]
  | throws h => rw [tag?_throws, outcome_eq_ok_iff.2 h, ok_bind, pure_eq_ok]

theorem tag?_of_ignored (h : b.isKept = false) : b.tag? strict = .ok none := by
  simp only [isKept, List.contains_cons, List.contains_nil, Bool.or_false, Bool.or_eq_false_iff,
    beq_eq_false_iff_ne] at h
  obtain ⟨hparam, hreturn, hthrows⟩ := h
  rw [tag?, if_neg hparam, if_neg hreturn, if_neg hthrows]

theorem isKept_iff : b.isKept = true ↔
    b.name = "param".toList ∨ b.name = "return".toList ∨ b.name = "throws".toList := by
  simp only [isKept, List.contains_cons, List.contains_nil, Bool.or_false, Bool.or_eq_true, beq_iff_eq]

/-- A block that is kept stands for a tag, or is malformed. -/
theorem tag?_of_kept (h : b.isKept = true) (strict : Bool) :
    (∃ t, b.Says strict t ∧ b.tag? strict = .ok (some t)) ∨
      (∀ t, ¬ b.Says strict t) ∧ b.tag? strict = .error b.malformed := by
  by_cases hsays : ∃ t, b.Says strict t
  · obtain ⟨t, ht⟩ := hsays
    exact .inl ⟨t, ht, tag?_of_says ht⟩
  · refine .inr ⟨fun t ht => hsays ⟨t, ht⟩, ?_⟩
    obtain ⟨name, body⟩ := b
    rcases isKept_iff.1 h with rfl | rfl | rfl
    · rw [tag?_param]
      rcases param_cases ⟨"param".toList, body⟩ strict with ⟨f, hf⟩ | herror
      · rcases declared_of_param hf with hd | ⟨lenient, hd⟩
        · exact absurd ⟨_, .declared hd⟩ hsays
        · exact absurd ⟨_, .unnamed lenient hd⟩ hsays
      · rw [herror, error_bind]
    · rw [tag?_return]
      rcases outcome_cases ⟨"return".toList, body⟩ with ⟨o, ho⟩ | herror
      · exact absurd ⟨_, .returns (outcome_eq_ok_iff.1 ho)⟩ hsays
      · rw [herror, error_bind]
    · rw [tag?_throws]
      rcases outcome_cases ⟨"throws".toList, body⟩ with ⟨o, ho⟩ | herror
      · exact absurd ⟨_, .throws (outcome_eq_ok_iff.1 ho)⟩ hsays
      · rw [herror, error_bind]

end Block

theorem tag?_param_eq_ok_iff {body : List Char} {t : Option Tag} :
    Block.tag? true ⟨"param".toList, body⟩ = .ok t ↔ ∃ f, IsDeclaration (trim body) f ∧ t = some (.param f) := by
  rw [tag?_param, bind_eq_ok_iff]
  refine exists_congr fun f => and_congr Block.param_eq_ok_iff ?_
  rw [pure_eq_ok, Except.ok.injEq]
  exact eq_comm

end Annotation

end RouteDocs
