import RouteDocs.Proofs.Annotation.Declaration
import RouteDocs.Proofs.Annotation.Outline

namespace RouteDocs

open Text

namespace Annotation

/-- The blocks that stand for tags, in their order. -/
def keptBlocks (sections : List Section) : List Block := (sections.map Section.block).filter Block.isKept

/-- What the lines of a comment mean, their decoration cleaned off. -/
inductive Means (strict : Bool) (ls : List (List Char)) : Except Error Annotation → Prop where
  | misnamed {introduction : List (List Char)} {first rest : List Section} {s : Section}
    (outline : Outline introduction (first ++ s :: rest) ls) (named : ∀ t ∈ first, isTagName t.name = true)
    (misnamed : isTagName s.name = false) :
    Means strict ls (.error (.malformed (String.ofList s.name) (String.ofList s.opening)))
  | empty {introduction : List (List Char)} (outline : Outline introduction [] ls)
    (blank : ∀ l ∈ introduction, l = []) : Means strict ls (.error .empty)
  | malformed {introduction : List (List Char)} {sections : List Section} {first rest : List Block} {b : Block}
    (outline : Outline introduction sections ls) (named : ∀ s ∈ sections, isTagName s.name = true)
    (kept : keptBlocks sections = first ++ b :: rest) (said : ∀ c ∈ first, ∃ t, c.Says strict t)
    (unsaid : ∀ t, ¬ b.Says strict t) :
    Means strict ls (.error (.malformed (String.ofList b.name) (String.ofList b.body)))
  | ok {introduction : List (List Char)} {sections : List Section} {tags : List Tag}
    (outline : Outline introduction sections ls) (named : ∀ s ∈ sections, isTagName s.name = true)
    (nonempty : (∃ l ∈ introduction, l ≠ []) ∨ sections ≠ [])
    (said : List.Forall₂ (Block.Says strict) (keptBlocks sections) tags) :
    Means strict ls (.ok ⟨String.ofList ([' '].intercalate (firstParagraph introduction)), tags⟩)

variable {strict : Bool}

theorem mapM_tag?_of_says {bs : List Block} {tags : List Tag}
    (h : List.Forall₂ (Block.Says strict) (bs.filter Block.isKept) tags) :
    ∃ ts, bs.mapM (Block.tag? strict) = .ok ts ∧ ts.filterMap id = tags := by
  induction bs generalizing tags with
  | nil =>
    cases h
    exact ⟨[], rfl, rfl⟩
  | cons b bs ih =>
    by_cases hb : b.isKept = true
    · rw [List.filter_cons_of_pos hb] at h
      cases h with
      | cons hsays hrest =>
        obtain ⟨ts, hts, rfl⟩ := ih hrest
        refine ⟨some _ :: ts, ?_, rfl⟩
        rw [List.mapM_cons, Block.tag?_of_says hsays, ok_bind, hts, ok_bind, pure_eq_ok]
    · rw [List.filter_cons_of_neg hb] at h
      obtain ⟨ts, hts, rfl⟩ := ih h
      refine ⟨none :: ts, ?_, rfl⟩
      rw [List.mapM_cons, Block.tag?_of_ignored (Bool.eq_false_iff.2 hb), ok_bind, hts, ok_bind, pure_eq_ok]

/-- The first block that is kept and stands for no tag is the failure. -/
theorem mapM_tag?_of_unsaid {bs first rest : List Block} {b : Block}
    (h : bs.filter Block.isKept = first ++ b :: rest) (said : ∀ c ∈ first, ∃ t, c.Says strict t)
    (unsaid : ∀ t, ¬ b.Says strict t) : bs.mapM (Block.tag? strict) = .error b.malformed := by
  induction bs generalizing first with
  | nil => simp at h
  | cons c bs ih =>
    by_cases hc : c.isKept = true
    · rw [List.filter_cons_of_pos hc] at h
      cases first with
      | nil =>
        obtain ⟨rfl, -⟩ := List.cons.inj h
        rcases Block.tag?_of_kept hc strict with ⟨t, ht, -⟩ | ⟨-, herror⟩
        · exact absurd ht (unsaid t)
        · rw [List.mapM_cons, herror, error_bind]
      | cons d first =>
        obtain ⟨rfl, hrest⟩ := List.cons.inj h
        obtain ⟨t, ht⟩ := said c (by simp)
        rw [List.mapM_cons, Block.tag?_of_says ht, ok_bind,
          ih hrest fun k hk => said k (List.mem_cons_of_mem c hk), error_bind]
    · rw [List.filter_cons_of_neg hc] at h
      rw [List.mapM_cons, Block.tag?_of_ignored (Bool.eq_false_iff.2 hc), ok_bind, ih h said, error_bind]

/-- A comment is read as what it means. -/
theorem Means.read {text : List Char} {r : Except Error Annotation}
    (h : Means strict ((lines text).map cleanLine) r) : read strict text = r := by
  cases h with
  | misnamed outline named misnamed => exact outline.read_misnamed named misnamed
  | empty outline blank => rw [outline.read_eq (by simp), if_pos ⟨blank, rfl⟩]
  | @malformed introduction sections _ _ _ outline named kept said unsaid =>
    have hsome : ¬ ((∀ l ∈ introduction, l = []) ∧ sections = []) := by
      rintro ⟨-, rfl⟩
      simp [keptBlocks] at kept
    rw [outline.read_eq named, if_neg hsome, mapM_tag?_of_unsaid kept said unsaid, error_bind]
    rfl
  | @ok introduction sections _ outline named nonempty said =>
    obtain ⟨ts, hts, rfl⟩ := mapM_tag?_of_says said
    have hsome : ¬ ((∀ l ∈ introduction, l = []) ∧ sections = []) := by
      rintro ⟨hblank, hnil⟩
      rcases nonempty with ⟨l, hl, hne⟩ | hne
      · exact hne (hblank l hl)
      · exact hne hnil
    rw [outline.read_eq named, if_neg hsome, hts, ok_bind, pure_eq_ok]

/-- Every comment means something. -/
theorem exists_means (strict : Bool) (ls : List (List Char)) : ∃ r, Means strict ls r := by
  obtain ⟨introduction, sections, outline⟩ := exists_outline ls
  rcases forall_or_first (fun s : Section => isTagName s.name = true) sections with
    named | ⟨first, s, rest, rfl, named, misnamed⟩
  · by_cases hempty : (∀ l ∈ introduction, l = []) ∧ sections = []
    · obtain ⟨blank, rfl⟩ := hempty
      exact ⟨_, .empty outline blank⟩
    · rcases forall_or_first (fun b => ∃ t, Block.Says strict b t) (keptBlocks sections) with
        said | ⟨first, b, rest, kept, said, unsaid⟩
      · obtain ⟨tags, htags⟩ := exists_forall₂_iff.2 said
        refine ⟨_, .ok outline named ?_ htags⟩
        by_contra hnone
        simp only [not_or, not_exists, not_and, not_not] at hnone
        exact hempty hnone
      · exact ⟨_, .malformed outline named kept said (not_exists.1 unsaid)⟩
  · exact ⟨_, .misnamed outline named (Bool.eq_false_iff.2 misnamed)⟩

/-- A comment is read as what it means, and as nothing else. -/
theorem parse_eq_iff_means {text : String} {r : Except Error Annotation} :
    parse text = r ↔ Means false ((lines text.toList).map cleanLine) r := by
  refine ⟨?_, Means.read⟩
  rintro rfl
  obtain ⟨r, h⟩ := exists_means false ((lines text.toList).map cleanLine)
  have hread : parse text = r := h.read
  rwa [hread]

end Annotation

end RouteDocs
