import RouteDocs.Annotation
import RouteDocs.Proofs.Except
import RouteDocs.Proofs.Text

namespace RouteDocs

open Text

namespace Annotation

def IsTagLine (line : List Char) : Prop := line.head? = some '@'

/-- A tag line without its mark, and the lines behind it up to the next tag line. -/
structure Section where
  heading : List Char
  continuation : List (List Char)

namespace Section

def lines (s : Section) : List (List Char) := ('@' :: s.heading) :: s.continuation

def name (s : Section) : List Char := (splitWord s.heading).1

/-- The text on the tag line itself. -/
def opening (s : Section) : List Char := (splitWord s.heading).2

/-- The text on all lines. Blank lines do not count. -/
def body (s : Section) : List Char := [' '].intercalate ((s.opening :: s.continuation).filter (!·.isEmpty))

def block (s : Section) : Block := ⟨s.name, s.body⟩

/-- A tag line with no lines behind it. -/
def ofLine (line : List Char) : Section := ⟨line.tail, []⟩

theorem block_ofLine (heading : List Char) : (ofLine ('@' :: heading)).block =
    ⟨(splitWord heading).1, (splitWord heading).2⟩ := by
  by_cases h : (splitWord heading).2 = [] <;> simp [ofLine, block, name, body, opening, h]

end Section

/-- A comment divided at its tag lines. -/
structure Outline (introduction : List (List Char)) (sections : List Section) (ls : List (List Char)) :
    Prop where
  lines_eq : ls = introduction ++ sections.flatMap Section.lines
  untagged : ∀ l ∈ introduction, ¬ IsTagLine l
  continued : ∀ s ∈ sections, ∀ l ∈ s.continuation, ¬ IsTagLine l

theorem isTagLine_iff {line : List Char} : IsTagLine line ↔ ∃ heading, line = '@' :: heading :=
  List.head?_eq_some_iff

/-- Every comment can be divided so. -/
theorem exists_outline (ls : List (List Char)) : ∃ introduction sections, Outline introduction sections ls := by
  induction ls with
  | nil => exact ⟨[], [], rfl, by simp, by simp⟩
  | cons l ls ih =>
    obtain ⟨introduction, sections, rfl, untagged, continued⟩ := ih
    by_cases hl : IsTagLine l
    · obtain ⟨heading, rfl⟩ := isTagLine_iff.1 hl
      refine ⟨[], ⟨heading, introduction⟩ :: sections, rfl, by simp, ?_⟩
      intro s hs
      rcases List.mem_cons.1 hs with rfl | hs
      · exact untagged
      · exact continued s hs
    · refine ⟨l :: introduction, sections, rfl, ?_, continued⟩
      intro k hk
      rcases List.mem_cons.1 hk with rfl | hk
      · exact hl
      · exact untagged k hk

/-- Tag lines that follow each other are a section each. -/
theorem outline_tagLines {introduction ls : List (List Char)} (untagged : ∀ l ∈ introduction, ¬ IsTagLine l)
    (h : ∀ l ∈ ls, IsTagLine l) : Outline introduction (ls.map Section.ofLine) (introduction ++ ls) := by
  refine ⟨?_, untagged, ?_⟩
  · rw [List.flatMap_map, List.append_cancel_left_eq]
    induction ls with
    | nil => rfl
    | cons l ls ih =>
      obtain ⟨heading, rfl⟩ := isTagLine_iff.1 (h l (by simp))
      rw [List.flatMap_cons, ← ih fun k hk => h k (List.mem_cons_of_mem _ hk)]
      rfl
  · intro s hs
    obtain ⟨l, -, rfl⟩ := List.mem_map.1 hs
    simp [Section.ofLine]

/-- The first lines that are not blank, up to the next blank one. -/
def firstParagraph (ls : List (List Char)) : List (List Char) :=
  (ls.dropWhile List.isEmpty).takeWhile (!·.isEmpty)

theorem firstParagraph_blank (ls : List (List Char)) : firstParagraph ([] :: ls) = firstParagraph ls := rfl

theorem firstParagraph_cons {l : List Char} (h : l ≠ []) (ls : List (List Char)) :
    firstParagraph (l :: ls) = l :: ls.takeWhile (!·.isEmpty) := by
  simp [firstParagraph, h]

theorem firstParagraph_eq_nil_iff {ls : List (List Char)} : firstParagraph ls = [] ↔ ∀ l ∈ ls, l = [] := by
  induction ls with
  | nil => simp [firstParagraph]
  | cons l ls ih =>
    by_cases hl : l = []
    · subst hl
      simp [firstParagraph_blank, ih]
    · simp [firstParagraph_cons hl, hl]

namespace Draft

variable {line : List Char} {ls : List (List Char)}

theorem add_blank (d : Draft) (h : d.blocks = []) :
    d.add [] = .ok { d with closed := d.closed || !d.summary.isEmpty } := by
  simp [add, h]

theorem add_text {d : Draft} (h : d.blocks = []) (hl : ¬ IsTagLine line) (hne : line ≠ []) :
    d.add line = .ok (if d.closed then d else { d with summary := d.summary ++ [line] }) := by
  obtain ⟨c, r, rfl⟩ := List.exists_cons_of_ne_nil hne
  have hc : c ≠ '@' := fun he => hl (isTagLine_iff.2 ⟨r, by rw [he]⟩)
  simp [add, h, hc]

/-- Behind the first paragraph nothing counts. -/
theorem foldlM_add_closed (h : ∀ l ∈ ls, ¬ IsTagLine l) (summary : List (List Char)) :
    ls.foldlM add ⟨summary, true, []⟩ = .ok ⟨summary, true, []⟩ := by
  induction ls with
  | nil => rfl
  | cons l ls ih =>
    have hstep : add ⟨summary, true, []⟩ l = .ok ⟨summary, true, []⟩ := by
      by_cases hl : l = []
      · rw [hl, add_blank _ rfl]
        rfl
      · rw [add_text rfl (h l (by simp)) hl]
        rfl
    rw [List.foldlM_cons, hstep, ok_bind]
    exact ih fun k hk => h k (List.mem_cons_of_mem l hk)

/-- Once the first paragraph has begun it goes on up to the next blank line. -/
theorem foldlM_add_begun (h : ∀ l ∈ ls, ¬ IsTagLine l) {summary : List (List Char)} (hne : summary ≠ []) :
    ∃ closed, ls.foldlM add ⟨summary, false, []⟩ = .ok ⟨summary ++ ls.takeWhile (!·.isEmpty), closed, []⟩ := by
  induction ls generalizing summary with
  | nil => exact ⟨false, by simp⟩
  | cons l ls ih =>
    have hls : ∀ k ∈ ls, ¬ IsTagLine k := fun k hk => h k (List.mem_cons_of_mem l hk)
    by_cases hl : l = []
    · have hstep : add ⟨summary, false, []⟩ l = .ok ⟨summary, true, []⟩ := by
        rw [hl, add_blank _ rfl]
        simp [hne]
      refine ⟨true, ?_⟩
      rw [List.foldlM_cons, hstep, ok_bind, foldlM_add_closed hls]
      simp [hl]
    · have hstep : add ⟨summary, false, []⟩ l = .ok ⟨summary ++ [l], false, []⟩ := by
        rw [add_text rfl (h l (by simp)) hl]
        rfl
      obtain ⟨closed, hrun⟩ := ih hls (show summary ++ [l] ≠ [] by simp)
      refine ⟨closed, ?_⟩
      rw [List.foldlM_cons, hstep, ok_bind, hrun]
      simp [hl]

/-- The summary is the first paragraph of the introduction. -/
theorem foldlM_add_introduction (h : ∀ l ∈ ls, ¬ IsTagLine l) :
    ∃ closed, ls.foldlM add {} = .ok ⟨firstParagraph ls, closed, []⟩ := by
  induction ls with
  | nil => exact ⟨false, rfl⟩
  | cons l ls ih =>
    have hls : ∀ k ∈ ls, ¬ IsTagLine k := fun k hk => h k (List.mem_cons_of_mem l hk)
    by_cases hl : l = []
    -- Nothing has been read yet that a blank line could end.
    · obtain ⟨closed, hrun⟩ := ih hls
      exact ⟨closed, by rw [hl, firstParagraph_blank, ← hrun]; rfl⟩
    · have hstep : add {} l = .ok ⟨[l], false, []⟩ := by
        rw [add_text rfl (h l (by simp)) hl]
        rfl
      obtain ⟨closed, hrun⟩ := foldlM_add_begun hls (List.cons_ne_nil l [])
      exact ⟨closed, by rw [List.foldlM_cons, hstep, ok_bind, hrun, firstParagraph_cons hl]; rfl⟩

end Draft

namespace Block

/-- The text of a block that was continued is that of all its lines, with a blank between each two. -/
theorem foldl_continue (b : Block) (ls : List (List Char)) :
    ls.foldl Block.continue b = ⟨b.name, [' '].intercalate ((b.body :: ls).filter (!·.isEmpty))⟩ := by
  induction ls generalizing b with
  | nil =>
    obtain ⟨name, body⟩ := b
    by_cases hb : body = [] <;> simp [hb]
  | cons l ls ih =>
    rw [List.foldl_cons, ih]
    obtain ⟨name, body⟩ := b
    by_cases hl : l = []
    · simp [Block.continue, hl, List.filter_cons]
    · by_cases hb : body = []
      · simp [Block.continue, hl, hb]
      · have hjoin := intercalate_blank [] body l (ls.filter (!·.isEmpty))
        simpa [Block.continue, hl, hb] using hjoin

end Block

namespace Draft

theorem add_named {heading name body : List Char} (h : splitWord heading = (name, body))
    (named : isTagName name = true) (d : Draft) :
    d.add ('@' :: heading) = .ok { d with blocks := ⟨name, body⟩ :: d.blocks } := by
  simp only [add, h, named, ↓reduceIte]

theorem add_misnamed {heading name body : List Char} (h : splitWord heading = (name, body))
    (misnamed : isTagName name = false) (d : Draft) :
    d.add ('@' :: heading) = .error (Block.malformed ⟨name, body⟩) := by
  simp only [add, h, misnamed, Bool.false_eq_true, ↓reduceIte]

theorem add_continuation {line : List Char} (h : ¬ IsTagLine line) (d : Draft) {b : Block} {bs : List Block}
    (hd : d.blocks = b :: bs) : d.add line = .ok { d with blocks := b.continue line :: bs } := by
  unfold add
  split
  · next heading _ _ => exact absurd (isTagLine_iff.2 ⟨heading, rfl⟩) h
  · next b' bs' _ hblocks =>
    obtain ⟨rfl, rfl⟩ := List.cons.inj (hd.symm.trans hblocks)
    rfl
  · next hblocks => simp [hd] at hblocks
  · next hblocks => simp [hd] at hblocks

theorem foldlM_add_continuation {ls : List (List Char)} (h : ∀ l ∈ ls, ¬ IsTagLine l) (d : Draft) (b : Block)
    (bs : List Block) : ls.foldlM add { d with blocks := b :: bs } =
      .ok { d with blocks := ls.foldl Block.continue b :: bs } := by
  induction ls generalizing b with
  | nil => rfl
  | cons l ls ih =>
    rw [List.foldlM_cons, add_continuation (h l (by simp)) _ rfl, ok_bind]
    exact ih (fun k hk => h k (List.mem_cons_of_mem l hk)) (b.continue l)

/-- A section with a name for a tag adds its block to any draft. -/
theorem foldlM_add_section {s : Section} (h : ∀ l ∈ s.continuation, ¬ IsTagLine l)
    (named : isTagName s.name = true) (d : Draft) :
    s.lines.foldlM add d = .ok { d with blocks := s.block :: d.blocks } := by
  have hblock : s.continuation.foldl Block.continue ⟨s.name, s.opening⟩ = s.block := Block.foldl_continue _ _
  rw [Section.lines, List.foldlM_cons, add_named rfl named, ok_bind, ← hblock]
  exact foldlM_add_continuation h d _ _

theorem foldlM_add_misnamed {s : Section} (misnamed : isTagName s.name = false) (d : Draft) :
    s.lines.foldlM add d = .error (Block.malformed ⟨s.name, s.opening⟩) := by
  rw [Section.lines, List.foldlM_cons, add_misnamed rfl misnamed, error_bind]
  rfl

theorem foldlM_add_sections {sections : List Section}
    (h : ∀ s ∈ sections, ∀ l ∈ s.continuation, ¬ IsTagLine l)
    (named : ∀ s ∈ sections, isTagName s.name = true) (d : Draft) :
    (sections.flatMap Section.lines).foldlM add d =
      .ok { d with blocks := (sections.map Section.block).reverse ++ d.blocks } := by
  induction sections generalizing d with
  | nil => rfl
  | cons s sections ih =>
    rw [List.flatMap_cons, List.foldlM_append, foldlM_add_section (h s (by simp)) (named s (by simp)), ok_bind,
      ih (fun t ht => h t (List.mem_cons_of_mem s ht)) (fun t ht => named t (List.mem_cons_of_mem s ht))]
    simp

end Draft

namespace Outline

variable {strict : Bool} {text : List Char} {introduction : List (List Char)} {sections : List Section}

/-- A comment says what its outline says, if each of its tags has a name. -/
theorem read_eq (h : Outline introduction sections ((Text.lines text).map cleanLine))
    (named : ∀ s ∈ sections, isTagName s.name = true) :
    read strict text =
      if (∀ l ∈ introduction, l = []) ∧ sections = [] then .error .empty
      else do
        let tags ← (sections.map Section.block).mapM (Block.tag? strict)
        return ⟨String.ofList ([' '].intercalate (firstParagraph introduction)), tags.filterMap id⟩ := by
  obtain ⟨closed, hintroduction⟩ := Draft.foldlM_add_introduction h.untagged
  rw [read, h.lines_eq, List.foldlM_append, hintroduction, ok_bind,
    Draft.foldlM_add_sections h.continued named, ok_bind, Draft.annotation]
  simp only [List.append_nil, List.reverse_reverse, ← firstParagraph_eq_nil_iff, Bool.and_eq_true,
    List.isEmpty_iff, List.reverse_eq_nil_iff, List.map_eq_nil_iff]

/-- The first tag without a name is the failure, whatever stands behind it. -/
theorem read_misnamed {first rest : List Section} {s : Section}
    (h : Outline introduction (first ++ s :: rest) ((Text.lines text).map cleanLine))
    (named : ∀ t ∈ first, isTagName t.name = true) (misnamed : isTagName s.name = false) :
    read strict text = .error (Block.malformed ⟨s.name, s.opening⟩) := by
  obtain ⟨closed, hintroduction⟩ := Draft.foldlM_add_introduction h.untagged
  have hfirst : ∀ t ∈ first, ∀ l ∈ t.continuation, ¬ IsTagLine l := fun t ht =>
    h.continued t (List.mem_append_left _ ht)
  rw [read, h.lines_eq, List.foldlM_append, hintroduction, ok_bind, List.flatMap_append,
    List.foldlM_append, Draft.foldlM_add_sections hfirst named, ok_bind, List.flatMap_cons,
    List.foldlM_append, Draft.foldlM_add_misnamed misnamed]
  rfl

end Outline

end Annotation

end RouteDocs
