import RouteDocs.Proofs.Annotation.Meaning
import RouteDocs.Proofs.FieldGrammar

namespace RouteDocs

open Text Annotation

namespace Expansion

/-- A tag that declares no field: it is ignored, or tells what is returned or thrown. -/
structure QuietTag (s : Section) : Prop where
  named : isTagName s.name = true
  unfielded : s.name ≠ "param".toList
  said : s.block.isKept = true → ∃ t, s.block.Says true t

/-- A line that declares no field. -/
def Quiet (line : List Char) : Prop := ∀ heading, cleanLine line = '@' :: heading → QuietTag ⟨heading, []⟩

/-- The lines of the fields open a section each. -/
def fieldSections (inner : List Char) : List Section :=
  ((FieldList.blocks (pieces ',' inner)).map fun b => cleanLine b.line).map Section.ofLine

/-- The tags between the brackets. They are read without the text around them. -/
def declaredTags (inner : List Char) : Except Annotation.Error (List (Option Tag)) :=
  ((fieldSections inner).map Section.block).mapM (Block.tag? true)

variable {summary inner : List Char}

theorem cleanLine_block {b : Block} (h : b ∈ FieldList.blocks (pieces ',' inner)) :
    ∃ heading, cleanLine b.line = '@' :: heading ∧ (splitWord heading).1 = b.name :=
  openedName?_eq_some (Block.openedName?_line (blocks_named b h))

theorem isTagLine_fields (inner : List Char) :
    ∀ l ∈ (FieldList.blocks (pieces ',' inner)).map fun b => cleanLine b.line, IsTagLine l := by
  intro l hl
  obtain ⟨b, hb, rfl⟩ := List.mem_map.1 hl
  obtain ⟨heading, hline, -⟩ := cleanLine_block hb
  exact isTagLine_iff.2 ⟨heading, hline⟩

theorem fieldSections_ne_nil (inner : List Char) : fieldSections inner ≠ [] := by
  simp [fieldSections, FieldList.blocks]

theorem fieldSections_named (inner : List Char) : ∀ s ∈ fieldSections inner, isTagName s.name = true := by
  intro s hs
  rw [fieldSections, List.map_map] at hs
  obtain ⟨b, hb, rfl⟩ := List.mem_map.1 hs
  obtain ⟨heading, hline, hname⟩ := cleanLine_block hb
  have hnamed := blocks_named b hb
  rw [← hname] at hnamed
  rwa [Function.comp_apply, hline]

theorem map_lines_comment (hs : '\n' ∉ summary) (hn : '\n' ∉ inner) :
    (lines (comment summary inner)).map cleanLine =
      (summaryLines summary).map cleanLine ++
        (FieldList.blocks (pieces ',' inner)).map fun b => cleanLine b.line := by
  rw [comment_eq_lines]
  exact map_lines_written hs (.inr (by simp [FieldList.blocks])) fun b hb =>
    newline_not_mem_blocks hn _ (List.mem_map_of_mem hb)

/-- A line that opens no tag is the summary, and adds nothing to the fields. -/
theorem parseFields_untagged (hs : '\n' ∉ summary) (hn : '\n' ∉ inner) (h : ¬ IsTagLine (cleanLine summary)) :
    ∃ s, parseFields (comment summary inner) = do
      let ts ← declaredTags inner
      return ⟨s, ts.filterMap id⟩ := by
  have huntagged : ∀ l ∈ (summaryLines summary).map cleanLine, ¬ IsTagLine l := by
    unfold summaryLines
    split
    · simp
    · simpa using h
  have outline := outline_tagLines huntagged (isTagLine_fields inner)
  rw [← map_lines_comment hs hn] at outline
  have hread : parseFields (comment summary inner) = _ := outline.read_eq (fieldSections_named inner)
  rw [if_neg fun he => fieldSections_ne_nil inner he.2] at hread
  exact ⟨_, hread⟩

section

variable {heading : List Char}

theorem outline_tagged (hs : '\n' ∉ summary) (hn : '\n' ∉ inner) (h : cleanLine summary = '@' :: heading) :
    Outline [] (⟨heading, []⟩ :: fieldSections inner) ((lines (comment summary inner)).map cleanLine) := by
  have hne : summary ≠ [] := by
    rintro rfl
    exact absurd (h.symm.trans (show cleanLine [] = [] by decide)) (by simp)
  have htagged := List.forall_mem_cons.2 ⟨isTagLine_iff.2 ⟨heading, h⟩, isTagLine_fields inner⟩
  have outline := outline_tagLines (List.forall_mem_nil _) htagged
  rw [List.map_cons, h] at outline
  rwa [map_lines_comment hs hn, summaryLines, if_neg hne, List.map_singleton, h]

/-- A line that opens a tag is read as that tag, before the fields. -/
theorem parseFields_tagged (hs : '\n' ∉ summary) (hn : '\n' ∉ inner) (h : cleanLine summary = '@' :: heading)
    (named : isTagName (Section.name ⟨heading, []⟩) = true) : parseFields (comment summary inner) = do
      let t ← Block.tag? true (Section.block ⟨heading, []⟩)
      let ts ← declaredTags inner
      return ⟨"", (t :: ts).filterMap id⟩ := by
  have outline := outline_tagged hs hn h
  rw [parseFields, outline.read_eq (List.forall_mem_cons.2 ⟨named, fieldSections_named inner⟩), if_neg (by simp),
    List.map_cons, List.mapM_cons]
  simp only [bind_assoc, pure_bind]
  rfl

theorem parseFields_misnamed (hs : '\n' ∉ summary) (hn : '\n' ∉ inner) (h : cleanLine summary = '@' :: heading)
    (misnamed : isTagName (Section.name ⟨heading, []⟩) = false) :
    ∃ e, parseFields (comment summary inner) = .error e := by
  have outline := outline_tagged hs hn h
  rw [← List.nil_append (_ :: fieldSections inner)] at outline
  exact ⟨_, outline.read_misnamed (by simp) misnamed⟩

end

/-- The fields among some tags. -/
def fieldsOf (ts : List (Option Tag)) : List Field := params ⟨"", ts.filterMap id⟩

theorem fieldsOf_cons (t : Option Tag) (ts : List (Option Tag)) : fieldsOf (t :: ts) = fieldsOf [t] ++ fieldsOf ts := by
  cases t with
  | none => rfl
  | some t => cases t <;> rfl

theorem quiet_iff {line heading : List Char} (h : cleanLine line = '@' :: heading) :
    Quiet line ↔ QuietTag ⟨heading, []⟩ := by
  simp [Quiet, h]

/-- A tag that can be read declares no field exactly if it is quiet. -/
theorem quietTag_iff {s : Section} {t : Option Tag} (named : isTagName s.name = true)
    (h : s.block.tag? true = .ok t) : QuietTag s ↔ fieldsOf [t] = [] := by
  constructor
  · intro quiet
    cases hkept : s.block.isKept with
    | false =>
      rw [Block.tag?_of_ignored hkept] at h
      rw [← Except.ok.inj h]
      rfl
    | true =>
      obtain ⟨u, hu⟩ := quiet.said hkept
      rw [Block.tag?_of_says hu] at h
      rw [← Except.ok.inj h]
      generalize hb : s.block = b at hu
      have hname : b.name ≠ "param".toList := hb ▸ quiet.unfielded
      cases hu with
      | declared => exact absurd rfl hname
      | unnamed => exact absurd rfl hname
      | returns => rfl
      | throws => rfl
  · intro hnone
    refine ⟨named, fun hparam => ?_, fun hkept => ?_⟩
    · obtain ⟨f, rfl⟩ := tag?_param_eq_ok (b := s.block) hparam h
      exact absurd hnone (by simp [fieldsOf, params])
    · rcases Block.tag?_of_kept hkept true with ⟨u, hu, -⟩ | ⟨-, herror⟩
      · exact ⟨u, hu⟩
      · exact absurd (herror.symm.trans h) (by simp)

/-- The fields of the comment: those of the summary, and behind them those between the brackets. -/
theorem params_comment (hs : '\n' ∉ summary) (hn : '\n' ∉ inner) {a : Annotation}
    (h : parseFields (comment summary inner) = .ok a) : ∃ ts own, declaredTags inner = .ok ts ∧
      a.params = own ++ fieldsOf ts ∧ (Quiet summary ↔ own = []) := by
  by_cases htag : IsTagLine (cleanLine summary)
  · obtain ⟨heading, hheading⟩ := isTagLine_iff.1 htag
    cases named : isTagName (Section.name ⟨heading, []⟩) with
    | false =>
      obtain ⟨e, herror⟩ := parseFields_misnamed hs hn hheading named
      exact absurd (herror.symm.trans h) (by simp)
    | true =>
      rw [parseFields_tagged hs hn hheading named, bind_eq_ok_iff] at h
      obtain ⟨t, ht, h⟩ := h
      rw [bind_eq_ok_iff] at h
      obtain ⟨ts, hts, h⟩ := h
      rw [← Except.ok.inj h, quiet_iff hheading, quietTag_iff named ht]
      exact ⟨ts, fieldsOf [t], hts, fieldsOf_cons t ts, .rfl⟩
  · obtain ⟨s, hparse⟩ := parseFields_untagged hs hn htag
    rw [hparse, bind_eq_ok_iff] at h
    obtain ⟨ts, hts, h⟩ := h
    rw [← Except.ok.inj h]
    refine ⟨ts, [], hts, rfl, iff_of_true ?_ rfl⟩
    -- Quiet for want of a heading.
    intro heading hheading
    exact absurd (isTagLine_iff.2 ⟨heading, hheading⟩) htag

/-- A quiet summary does not keep the fields from being read. -/
theorem parseFields_of_quiet (hs : '\n' ∉ summary) (hn : '\n' ∉ inner) (quiet : Quiet summary)
    {ts : List (Option Tag)} (hts : declaredTags inner = .ok ts) :
    ∃ a, parseFields (comment summary inner) = .ok a := by
  by_cases htag : IsTagLine (cleanLine summary)
  · obtain ⟨heading, hheading⟩ := isTagLine_iff.1 htag
    obtain ⟨named, -, said⟩ := (quiet_iff hheading).1 quiet
    have hown : ∃ t, Block.tag? true (Section.block ⟨heading, []⟩) = .ok t := by
      cases hkept : Block.isKept (Section.block ⟨heading, []⟩) with
      | false => exact ⟨none, Block.tag?_of_ignored hkept⟩
      | true =>
        obtain ⟨t, ht⟩ := said hkept
        exact ⟨some t, Block.tag?_of_says ht⟩
    obtain ⟨t, ht⟩ := hown
    rw [parseFields_tagged hs hn hheading named, ht, hts]
    exact ⟨_, rfl⟩
  · obtain ⟨s, hparse⟩ := parseFields_untagged hs hn htag
    rw [hparse, hts]
    exact ⟨_, rfl⟩

section

variable {d : String} {before after : List Char}

theorem quiet_trim (line : List Char) : Quiet (trim line) ↔ Quiet line := by
  simp only [Quiet, cleanLine, trim_trim]

/-- The fields of an expansion: those around the brackets, and behind them those between them. -/
theorem Brackets.fields_eq (h : Brackets before inner after d.toList) (hd : '\n' ∉ d.toList) {e : Expansion}
    (he : expand d = some e) : ∃ ts own, declaredTags (unnested inner) = .ok ts ∧ e.isArray = isNested inner ∧
      e.fields = own ++ fieldsOf ts ∧ (Quiet (before ++ after) ↔ own = []) := by
  obtain ⟨haround, hinner, hdeclared⟩ := h.newline_not_mem hd
  rw [h.expand_eq hinner, Option.map_eq_some_iff] at he
  obtain ⟨a, ha, rfl⟩ := he
  obtain ⟨ts, own, hts, hfields, hown⟩ :=
    params_comment (fun hm => haround (trim_subset _ hm)) hdeclared (toOption_eq_some_iff.1 ha)
  exact ⟨ts, own, hts, rfl, hfields, (quiet_trim _).symm.trans hown⟩

/-- Quiet text does not keep the fields from being read. -/
theorem Brackets.expand_of_quiet (h : Brackets before inner after d.toList) (hd : '\n' ∉ d.toList)
    (quiet : Quiet (before ++ after)) {ts : List (Option Tag)} (hts : declaredTags (unnested inner) = .ok ts) :
    ∃ e, expand d = some e := by
  obtain ⟨haround, hinner, hdeclared⟩ := h.newline_not_mem hd
  obtain ⟨a, ha⟩ :=
    parseFields_of_quiet (fun hm => haround (trim_subset _ hm)) hdeclared ((quiet_trim _).2 quiet) hts
  rw [h.expand_eq hinner, ha]
  exact ⟨_, rfl⟩

end

section

variable {d₁ d₂ : String} {before₁ after₁ before₂ after₂ inner : List Char}

/-- Two descriptions with the same brackets declare the same fields, if the text around the brackets declares
none. If the text around one of them does, its fields are others. -/
theorem expand_same_fields (hd₁ : '\n' ∉ d₁.toList) (hd₂ : '\n' ∉ d₂.toList)
    (h₁ : Brackets before₁ inner after₁ d₁.toList) (h₂ : Brackets before₂ inner after₂ d₂.toList)
    (quiet₂ : Quiet (before₂ ++ after₂)) :
    (Quiet (before₁ ++ after₁) → ((∃ e₁, expand d₁ = some e₁) ↔ ∃ e₂, expand d₂ = some e₂) ∧
      ∀ e₁ e₂, expand d₁ = some e₁ → expand d₂ = some e₂ → e₁.fields = e₂.fields ∧ e₁.isArray = e₂.isArray) ∧
    ∀ e₁ e₂, expand d₁ = some e₁ → expand d₂ = some e₂ → e₁.fields = e₂.fields → Quiet (before₁ ++ after₁) := by
  refine ⟨fun quiet₁ => ⟨⟨?_, ?_⟩, ?_⟩, ?_⟩
  · rintro ⟨e₁, he₁⟩
    obtain ⟨ts, -, hts, -⟩ := h₁.fields_eq hd₁ he₁
    exact h₂.expand_of_quiet hd₂ quiet₂ hts
  · rintro ⟨e₂, he₂⟩
    obtain ⟨ts, -, hts, -⟩ := h₂.fields_eq hd₂ he₂
    exact h₁.expand_of_quiet hd₁ quiet₁ hts
  · intro e₁ e₂ he₁ he₂
    obtain ⟨ts, own₁, hts, harray₁, hfields₁, hown₁⟩ := h₁.fields_eq hd₁ he₁
    obtain ⟨ts', own₂, hts', harray₂, hfields₂, hown₂⟩ := h₂.fields_eq hd₂ he₂
    obtain rfl := Except.ok.inj (hts.symm.trans hts')
    rw [hfields₁, hfields₂, hown₁.1 quiet₁, hown₂.1 quiet₂, harray₁, harray₂]
    exact ⟨rfl, rfl⟩
  · intro e₁ e₂ he₁ he₂ hsame
    obtain ⟨ts, own₁, hts, -, hfields₁, hown₁⟩ := h₁.fields_eq hd₁ he₁
    obtain ⟨ts', own₂, hts', -, hfields₂, hown₂⟩ := h₂.fields_eq hd₂ he₂
    obtain rfl := Except.ok.inj (hts.symm.trans hts')
    rw [hfields₁, hfields₂, hown₂.1 quiet₂, List.nil_append, List.append_left_eq_self] at hsame
    exact hown₁.2 hsame

end

/-- A tag that is ignored stands before the brackets, behind a star, and the tag of an outcome before the others. -/
theorem expand_same_fields_since :
    Brackets "* @since 2 ".toList "int $y, string $z first".toList " items".toList
      "* @since 2 [int $y, string $z first] items".toList ∧
    Brackets "@return Json ".toList "int $y, string $z first".toList []
      "@return Json [int $y, string $z first]".toList ∧
    ∃ e₁ e₂, expand "* @since 2 [int $y, string $z first] items" = some e₁ ∧
      expand "@return Json [int $y, string $z first]" = some e₂ ∧ e₁.fields = e₂.fields := by
  have h₁ : Brackets "* @since 2 ".toList "int $y, string $z first".toList " items".toList
      "* @since 2 [int $y, string $z first] items".toList := ⟨by decide, by decide, by decide⟩
  have h₂ : Brackets "@return Json ".toList "int $y, string $z first".toList []
      "@return Json [int $y, string $z first]".toList := ⟨by decide, by decide, by decide⟩
  have quiet₁ : Quiet ("* @since 2 ".toList ++ " items".toList) := by
    intro heading hheading
    have hline : cleanLine ("* @since 2 ".toList ++ " items".toList) = '@' :: "since 2  items".toList := by decide
    obtain ⟨-, rfl⟩ := List.cons.inj (hline.symm.trans hheading)
    exact ⟨by decide, by decide, fun hkept => absurd hkept (by decide)⟩
  have quiet₂ : Quiet ("@return Json ".toList ++ []) := by
    intro heading hheading
    have hline : cleanLine ("@return Json ".toList ++ []) = '@' :: "return Json".toList := by decide
    obtain ⟨-, rfl⟩ := List.cons.inj (hline.symm.trans hheading)
    have hsaid : IsOutcome ("Json".toList ++ []) ⟨"Json", ""⟩ := .intro (by decide) (by simp)
    exact ⟨by decide, by decide, fun _ => ⟨_, .returns hsaid⟩⟩
  obtain ⟨hread, hsame⟩ := (expand_same_fields (by decide) (by decide) h₁ h₂ quiet₂).1 quiet₁
  have hsome : (expand "* @since 2 [int $y, string $z first] items").isSome = true := by decide +kernel
  obtain ⟨e₁, he₁⟩ := Option.isSome_iff_exists.1 hsome
  obtain ⟨e₂, he₂⟩ := hread.1 ⟨e₁, he₁⟩
  exact ⟨h₁, h₂, e₁, e₂, he₁, he₂, (hsame e₁ e₂ he₁ he₂).1⟩

/-- A parameter before the brackets becomes a field, although it is not between them. -/
theorem expand_tag_before :
    '\n' ∉ "@param int $x [int $y]".toList ∧ '\n' ∉ "[int $y]".toList ∧
    Brackets "@param int $x ".toList "int $y".toList [] "@param int $x [int $y]".toList ∧
    Brackets [] "int $y".toList [] "[int $y]".toList ∧
    (expand "@param int $x [int $y]").map fields = some [⟨"int", "x", ""⟩, ⟨"int", "y", ""⟩] ∧
    (expand "[int $y]").map fields = some [⟨"int", "y", ""⟩] := by
  refine ⟨by decide, by decide, ⟨by decide, by decide, by decide⟩, ⟨by decide, by decide, by decide⟩, ?_, ?_⟩
  · decide +kernel
  · decide +kernel

end Expansion

end RouteDocs
