import RouteDocs.Proofs.Annotation.Meaning

namespace RouteDocs

open Text Annotation

/-- A parameter has a name. Other tags need none. -/
def Tag.IsNamed (t : Tag) : Prop := ∀ f, t = .param f → f.name ≠ ""

theorem IsDeclaration.named {s : List Char} {f : Field} (h : IsDeclaration s f) : f.name ≠ "" := by
  cases h with
  | intro typed apart blank named ended =>
    intro hempty
    exact (variableName_word named).nonempty (String.ofList_eq_empty_iff.1 hempty)

theorem IsUnnamed.unnamed {s : List Char} {f : Field} (h : IsUnnamed s f) : f.name = "" := by
  cases h
  rfl

/-- A text that declares a named parameter declares no unnamed one. -/
theorem IsUnnamed.not_declaration {s : List Char} {f : Field} (h : IsUnnamed (trim s) f) (g : Field) :
    ¬ IsDeclaration (trim s) g := by
  intro hg
  have hf : Block.param ⟨[], s⟩ false = .ok f := Block.param_of_unnamed h
  rw [Block.param_of_declaration hg] at hf
  obtain rfl := Except.ok.inj hf
  exact hg.named h.unnamed

namespace Annotation

theorem Block.says_true_iff {b : Block} {t : Tag} : b.Says true t ↔ b.Says false t ∧ t.IsNamed := by
  constructor
  · intro h
    cases h with
    | declared h =>
      refine ⟨.declared h, fun f hf => ?_⟩
      cases hf
      exact h.named
    | unnamed lenient _ => exact absurd lenient (by decide)
    | returns h => exact ⟨.returns h, nofun⟩
    | throws h => exact ⟨.throws h, nofun⟩
  · intro hx
    obtain ⟨h, named⟩ := hx
    cases h with
    | declared h => exact .declared h
    | unnamed _ h => exact absurd h.unnamed (named _ rfl)
    | returns h => exact .returns h
    | throws h => exact .throws h

theorem forall₂_says_true_iff {bs : List Block} {ts : List Tag} :
    List.Forall₂ (Block.Says true) bs ts ↔ List.Forall₂ (Block.Says false) bs ts ∧ ∀ t ∈ ts, t.IsNamed := by
  induction bs generalizing ts with
  | nil =>
    rw [List.forall₂_nil_left_iff, List.forall₂_nil_left_iff]
    refine (and_iff_left_of_imp ?_).symm
    rintro rfl
    simp
  | cons b bs ih =>
    cases ts with
    | nil => simp
    | cons t ts =>
      rw [List.forall₂_cons, List.forall₂_cons, List.forall_mem_cons, ih, Block.says_true_iff]
      exact and_and_and_comm

/-- A block that stands for an unnamed parameter has no variable in its text. -/
theorem Block.Says.of_unnamed {b : Block} {t : Tag} (h : b.Says false t) (unnamed : ¬ t.IsNamed) :
    ∃ f body, t = .param f ∧ b = ⟨"param".toList, body⟩ ∧ IsUnnamed (trim body) f := by
  cases h with
  | declared h => exact absurd (says_true_iff.1 (.declared h)).2 unnamed
  | @unnamed body f _ h => exact ⟨f, body, rfl, rfl, h⟩
  | returns h => exact absurd (says_true_iff.1 (.returns h)).2 unnamed
  | throws h => exact absurd (says_true_iff.1 (.throws h)).2 unnamed

theorem mem_params_iff {a : Annotation} {f : Field} : f ∈ a.params ↔ .param f ∈ a.tags := by
  constructor
  · intro hf
    obtain ⟨t, ht, htag⟩ := List.mem_filterMap.1 hf
    cases t with
    | param g =>
      cases htag
      exact ht
    | returns o => cases htag
    | throws o => cases htag
  · intro hf
    exact List.mem_filterMap.2 ⟨.param f, hf, rfl⟩

theorem forall_params_iff {a : Annotation} : (∀ f ∈ a.params, f.name ≠ "") ↔ ∀ t ∈ a.tags, t.IsNamed := by
  constructor
  · intro h t ht f hf
    exact h f (mem_params_iff.2 (hf ▸ ht))
  · intro h f hf
    exact h _ (mem_params_iff.1 hf) f rfl

theorem read_eq_iff_means {strict : Bool} {text : List Char} {r : Except Error Annotation} :
    read strict text = r ↔ Means strict ((lines text).map cleanLine) r := by
  refine ⟨fun h => ?_, Means.read⟩
  obtain ⟨r', hmeans⟩ := exists_means strict ((lines text).map cleanLine)
  rwa [← h, hmeans.read]

variable {ls : List (List Char)} {a : Annotation}

/-- Where a strict reading comes to something, a lenient one comes to the same, and has no unnamed parameter. -/
theorem means_true_ok_iff : Means true ls (.ok a) ↔ Means false ls (.ok a) ∧ ∀ t ∈ a.tags, t.IsNamed := by
  constructor
  · intro h
    cases h with
    | ok outline named nonempty said =>
      obtain ⟨hsaid, hnamed⟩ := forall₂_says_true_iff.1 said
      exact ⟨.ok outline named nonempty hsaid, hnamed⟩
  · intro hx
    obtain ⟨h, hnamed⟩ := hx
    cases h with
    | ok outline named nonempty said =>
      exact .ok outline named nonempty (forall₂_says_true_iff.2 ⟨said, hnamed⟩)

/-- A strict reading fails at the first unnamed parameter of a lenient one. -/
theorem Means.of_unnamed {first rest : List Tag} {t : Tag} (h : Means false ls (.ok a))
    (htags : a.tags = first ++ t :: rest) (hfirst : ∀ u ∈ first, u.IsNamed) (ht : ¬ t.IsNamed) :
    ∃ f body, t = .param f ∧ IsUnnamed (trim body) f ∧
      Means true ls (.error (.malformed "param" (String.ofList body))) := by
  cases h with
  | @ok introduction sections tags outline named nonempty said =>
    obtain rfl : tags = first ++ t :: rest := htags
    have hbefore := List.forall₂_take_append _ _ _ said
    have hbehind := List.forall₂_drop_append _ _ _ said
    obtain ⟨b, behind, hb, -, hdrop⟩ := List.forall₂_cons_right_iff.1 hbehind
    obtain ⟨f, body, rfl, rfl, hunnamed⟩ := hb.of_unnamed ht
    have hkept : keptBlocks sections =
        (keptBlocks sections).take first.length ++ ⟨"param".toList, body⟩ :: behind := by
      rw [← hdrop, List.take_append_drop]
    have hsaid : ∀ c ∈ (keptBlocks sections).take first.length, ∃ u, c.Says true u :=
      exists_forall₂_iff.1 ⟨first, forall₂_says_true_iff.2 ⟨hbefore, hfirst⟩⟩
    refine ⟨f, body, rfl, hunnamed, .malformed outline named hkept hsaid fun u hu => ?_⟩
    cases hu with
    | declared h => exact hunnamed.not_declaration _ h
    | unnamed lenient _ => exact absurd lenient (by decide)

/-- A strict reading accepts what a lenient one accepts without an unnamed parameter, and reads it alike. What else a
lenient one accepts it refuses for the first parameter without a variable. -/
theorem parseFields_iff_parse (text : String) :
    (∀ a, parseFields text.toList = .ok a ↔ parse text = .ok a ∧ ∀ f ∈ a.params, f.name ≠ "") ∧
    ∀ a e, parse text = .ok a → parseFields text.toList = .error e → ∃ f body,
      IsFirst (·.name = "") a.params f ∧ IsUnnamed (trim body) f ∧ e = .malformed "param" (String.ofList body) := by
  have hstrict {r} : parseFields text.toList = r ↔ Means true ((lines text.toList).map cleanLine) r := read_eq_iff_means
  have hlenient {r} : parse text = r ↔ Means false ((lines text.toList).map cleanLine) r := read_eq_iff_means
  constructor
  · intro a
    rw [hstrict, hlenient, forall_params_iff, means_true_ok_iff]
  · intro a e hparse hfields
    rw [hlenient] at hparse
    rcases forall_or_first Tag.IsNamed a.tags with hnamed | ⟨first, t, rest, htags, hfirst, ht⟩
    · have hok := hstrict.2 (means_true_ok_iff.2 ⟨hparse, hnamed⟩)
      exact absurd (hok.symm.trans hfields) nofun
    · obtain ⟨f, body, rfl, hunnamed, hmeans⟩ := hparse.of_unnamed htags hfirst ht
      refine ⟨f, body, ⟨hunnamed.unnamed, ?_⟩, hunnamed, ?_⟩
      · have hparams : a.params = params ⟨a.summary, first⟩ ++ f :: params ⟨a.summary, rest⟩ := by
          simp only [params, htags, List.filterMap_append, List.filterMap_cons]
        exact ⟨_, _, hparams, forall_params_iff.2 hfirst⟩
      · exact Except.error.inj (hfields.symm.trans (hstrict.2 hmeans))

/-- A comment with a parameter without a variable between two parameters that have one. -/
def requestComment : String :=
  "Stores\n@param int $id\n@param Request body [string $name]\n@param string $tag\n@return void"

theorem parseFields_iff_parse_request : ∃ a, parse requestComment = .ok a ∧
    parseFields requestComment.toList = .error (.malformed "param" "Request body [string $name]") ∧
    ∃ f ∈ a.params, f.name = "" := by
  have hlenient : ∃ a, parse requestComment = .ok a := by
    rw [← isOk_iff]
    decide +kernel
  have hstrict : parseFields requestComment.toList = .error (.malformed "param" "Request body [string $name]") := by
    decide +kernel
  obtain ⟨a, ha⟩ := hlenient
  obtain ⟨f, body, hfirst, -, -⟩ := (parseFields_iff_parse requestComment).2 a _ ha hstrict
  exact ⟨a, ha, hstrict, f, hfirst.mem, hfirst.1⟩

end Annotation

end RouteDocs
