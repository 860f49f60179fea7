import RouteDocs.Proofs.Annotation.Written

namespace RouteDocs

open Text

namespace Annotation

/-- The name of the block that a line opens, if it opens one. -/
def openedName? : List Char → Option (List Char)
  | '@' :: rest => some (splitWord rest).1
  | _ => none

theorem openedName?_eq_none {line : List Char} (h : ∀ rest, line ≠ '@' :: rest) :
    openedName? line = none := by
  unfold openedName?
  split
  · next rest => exact absurd rfl (h rest)
  · rfl

theorem openedName?_eq_some {line name : List Char} (h : openedName? line = some name) :
    ∃ heading, line = '@' :: heading ∧ (splitWord heading).1 = name := by
  unfold openedName? at h
  split at h
  · next heading => exact ⟨heading, rfl, Option.some.inj h⟩
  · exact absurd h (by simp)

theorem Block.name_continue (b : Block) (line : List Char) : (b.continue line).name = b.name := by
  unfold Block.continue
  split
  · rfl
  · split <;> rfl

/-- All that a line can do to the names of the blocks. -/
theorem Draft.names_add {d d' : Draft} {line : List Char} (h : d.add line = .ok d') :
    d'.blocks.map Block.name = (openedName? line).toList ++ d.blocks.map Block.name := by
  by_cases hl : IsTagLine line
  · obtain ⟨heading, rfl⟩ := isTagLine_iff.1 hl
    cases named : isTagName (splitWord heading).1 with
    | true =>
      rw [add_named rfl named] at h
      rw [← Except.ok.inj h]
      rfl
    | false =>
      rw [add_misnamed rfl named] at h
      exact absurd h (by simp)
  · rw [openedName?_eq_none fun rest he => hl (isTagLine_iff.2 ⟨rest, he⟩)]
    cases hd : d.blocks with
    | cons b bs =>
      rw [add_continuation hl d hd] at h
      rw [← Except.ok.inj h]
      simp [Block.name_continue]
    | nil =>
      by_cases hne : line = []
      · rw [hne, add_blank d hd] at h
        rw [← Except.ok.inj h, hd]
        rfl
      · rw [add_text hd hl hne] at h
        rw [← Except.ok.inj h]
        split <;> simp [hd]

/-- A run over lines opens a block for each line that says so, in the order of the lines. -/
theorem Draft.names_foldlM {ls : List (List Char)} {d d' : Draft} (h : ls.foldlM Draft.add d = .ok d') :
    (d'.blocks.map Block.name).reverse = (d.blocks.map Block.name).reverse ++ ls.filterMap openedName? := by
  induction ls generalizing d with
  | nil =>
    rw [← Except.ok.inj h]
    simp
  | cons l ls ih =>
    rw [List.foldlM_cons, bind_eq_ok_iff] at h
    obtain ⟨d₁, hl, hls⟩ := h
    rw [ih hls, Draft.names_add hl, List.filterMap_cons]
    cases openedName? l <;> simp

/-- The end of a comment may be cut off behind a name, but it does not reach into it. -/
theorem dropEnd_append_blank {w rest : List Char} (hw : '/' ∉ w) (hr : rest = [] ∨ ∃ s, rest = ' ' :: s) :
    ∃ rest', dropEnd ['*', '/'] (w ++ rest) = w ++ rest' ∧ (rest' = [] ∨ ∃ s, rest' = ' ' :: s) := by
  by_cases hs : ['*', '/'] <:+ w ++ rest
  · rcases hr with rfl | ⟨s, rfl⟩
    · rw [List.append_nil] at hs
      exact absurd (hs.subset (by simp)) hw
    · obtain ⟨s', rfl⟩ := suffix_of_suffix_append (by decide) hs
      refine ⟨' ' :: s', ?_, .inr ⟨s', rfl⟩⟩
      rw [← List.cons_append, ← List.append_assoc, dropEnd_append]
  · exact ⟨rest, dropEnd_of_not_suffix hs, hr⟩

/-- A block is opened by its line, whatever its text is and whatever is cleaned off it. -/
theorem Block.openedName?_line {b : Block} (h : isTagName b.name = true) :
    openedName? (cleanLine b.line) = some b.name := by
  have hword := tagName_word h
  have hslash : '/' ∉ '@' :: b.name := by
    intro hm
    rcases List.mem_cons.1 hm with hm | hm
    · exact absurd hm (by decide)
    · exact absurd (tagName_chars h hm) (by decide)
  have htail : trimEnd (' ' :: b.body) = [] ∨ ∃ s, trimEnd (' ' :: b.body) = ' ' :: s := by
    rw [trimEnd_cons_blank (by decide)]
    split
    · exact .inl rfl
    · exact .inr ⟨_, rfl⟩
  obtain ⟨rest, hcut, hrest⟩ := dropEnd_append_blank hslash htail
  have hname : (splitWord (b.name ++ rest)).1 = b.name := by
    rcases hrest with rfl | ⟨s, rfl⟩
    · simpa using congrArg Prod.fst (splitWord_self hword)
    · rw [splitWord_word hword]
  have hline : trim b.line = '@' :: (b.name ++ trimEnd (' ' :: b.body)) := by
    rw [b.trim_line, trimEnd_append hword.last]
  have hstart : dropStart ['/', '*', '*'] (trim b.line) = trim b.line :=
    dropStart_of_not_prefix (by simp [hline])
  have hend : dropEnd ['*', '/'] (trim b.line) = '@' :: (b.name ++ rest) := by
    rw [hline]
    exact hcut
  have hclean : cleanLine b.line = '@' :: trimEnd (b.name ++ rest) := by
    simp only [cleanLine, hstart, hend, trim_of_head (show isBlank '@' = false by decide)]
    rfl
  rw [hclean, openedName?, splitWord_trimEnd, hname]

theorem Block.openedNames {bs : List Block} (h : ∀ b ∈ bs, isTagName b.name = true) :
    (bs.map fun b => cleanLine b.line).filterMap openedName? = bs.map Block.name := by
  rw [List.filterMap_map, ← List.filterMap_eq_map]
  apply List.filterMap_congr
  intro b hb
  exact Block.openedName?_line (h b hb)

theorem Draft.annotation_eq_ok {strict : Bool} {d : Draft} {a : Annotation} (h : d.annotation strict = .ok a) :
    a.summary = String.ofList ([' '].intercalate d.summary) ∧
      ∃ ts : List (Option Tag), d.blocks.reverse.map (Block.tag? strict) = ts.map .ok ∧
        a.tags = ts.filterMap id := by
  unfold Draft.annotation at h
  split at h
  · exact absurd h (by simp)
  · rw [bind_eq_ok_iff] at h
    obtain ⟨ts, hts, h⟩ := h
    rw [← Except.ok.inj h]
    exact ⟨rfl, ts, mapM_eq_ok_iff.1 hts, rfl⟩

/-- A parameter block is read as a parameter, if it is read at all. -/
theorem tag?_param_eq_ok {strict : Bool} {b : Block} {t : Option Tag} (hb : b.name = "param".toList)
    (h : b.tag? strict = .ok t) : ∃ f, t = some (.param f) := by
  obtain ⟨name, body⟩ := b
  subst hb
  rw [tag?_param, bind_eq_ok_iff] at h
  obtain ⟨f, -, h⟩ := h
  exact ⟨f, (Except.ok.inj h).symm⟩

/-- A comment with a parameter block has a parameter. -/
theorem Draft.exists_param {strict : Bool} {d : Draft} {a : Annotation} (h : d.annotation strict = .ok a)
    (hd : "param".toList ∈ d.blocks.map Block.name) : ∃ f, f ∈ a.params := by
  obtain ⟨-, ts, hts, htags⟩ := Draft.annotation_eq_ok h
  obtain ⟨b, hb, hname⟩ := List.mem_map.1 hd
  have hmem : b.tag? strict ∈ ts.map Except.ok := by
    rw [← hts]
    exact List.mem_map_of_mem (List.mem_reverse.2 hb)
  obtain ⟨t, ht, htag⟩ := List.mem_map.1 hmem
  obtain ⟨f, rfl⟩ := tag?_param_eq_ok hname htag.symm
  refine ⟨f, ?_⟩
  rw [params, htags, List.mem_filterMap]
  exact ⟨.param f, List.mem_filterMap.2 ⟨_, ht, rfl⟩, rfl⟩

end Annotation

end RouteDocs
