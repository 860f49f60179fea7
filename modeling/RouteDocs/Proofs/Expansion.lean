import RouteDocs.Proofs.Annotation.Reading
import RouteDocs.Proofs.FieldList

namespace RouteDocs

open Text Annotation

namespace Expansion

theorem expand_eq_some_iff {d : String} {e : Expansion} : expand d = some e ↔
    ∃ inner, bracketed? d.toList = some inner ∧ e.isArray = (nested? inner).isSome ∧
      parseFields (comment (around inner d.toList) (declared inner)) = .ok e.annotation := by
  obtain ⟨a, isArray⟩ := e
  simp only [expand, Option.bind_eq_bind, Option.bind_eq_some_iff]
  refine exists_congr fun inner => and_congr_right fun _ => ?_
  rw [declared]
  cases parseFields (comment (around inner d.toList) ((nested? inner).getD inner)) with
  | ok b => simp [and_comm, eq_comm]
  | error e => simp

/-- A description with brackets is read from the text around them and the text between them. -/
theorem Brackets.expand_eq {d : String} {before inner after : List Char} (h : Brackets before inner after d.toList)
    (hn : '\n' ∉ inner) : expand d =
      (parseFields (comment (trim (before ++ after)) (unnested inner))).toOption.map fun a => ⟨a, isNested inner⟩ := by
  have hisome : (nested? inner).isSome = isNested inner := by
    rw [nested?_eq]
    cases isNested inner <;> rfl
  simp only [expand, h.bracketed? hn, h.around, hisome, Option.bind_eq_bind, Option.bind_some,
    show (nested? inner).getD inner = unnested inner from declared_eq inner]
  cases parseFields (comment (trim (before ++ after)) (unnested inner)) <;> rfl

theorem comment_eq_append (summary inner : List Char) : comment summary inner =
    (if summary.isEmpty then [] else summary ++ ['\n']) ++ comment [] inner := by
  simp [comment]

theorem newline_not_mem_blocks {inner : List Char} (h : '\n' ∉ inner) :
    ∀ l ∈ (FieldList.blocks (pieces ',' inner)).map Block.line, '\n' ∉ l := by
  intro l hl
  obtain ⟨b, hb, rfl⟩ := List.mem_map.1 hl
  rcases List.mem_append.1 hb with hb | hb
  · obtain ⟨part, hpart, rfl⟩ := List.mem_map.1 hb
    have hn : '\n' ∉ trim part := fun hm => h (pieces_subset hpart (trim_subset part hm))
    simp [Block.line, hn]
  · rw [List.mem_singleton.1 hb]
    decide

/-- The lines of the summary come first, and then the lines of the blocks. -/
theorem lines_comment (summary : List Char) {inner : List Char} (h : '\n' ∉ inner) :
    ∃ before, (lines (comment summary inner)).map cleanLine =
      before ++ (FieldList.blocks (pieces ',' inner)).map fun b => cleanLine b.line := by
  have hblocks : (lines (comment [] inner)).map cleanLine =
      (FieldList.blocks (pieces ',' inner)).map fun b => cleanLine b.line := by
    rw [FieldList.comment_eq, map_lines_intercalate cleanLine_dropReturn, List.map_map]
    · rfl
    · simp [FieldList.blocks]
    · exact newline_not_mem_blocks h
    · simp [FieldList.blocks, Block.line]
  rw [comment_eq_append, ← hblocks]
  cases summary with
  | nil => exact ⟨[], rfl⟩
  | cons c r =>
    refine ⟨((pieces '\n' (c :: r)).map dropReturn).map cleanLine, ?_⟩
    rw [← List.map_append, ← lines_append]
    simp

theorem blocks_named {parts : List (List Char)} :
    ∀ b ∈ FieldList.blocks parts, isTagName b.name = true := by
  intro b hb
  rcases List.mem_append.1 hb with hb | hb
  · obtain ⟨part, -, rfl⟩ := List.mem_map.1 hb
    exact show isTagName "param".toList = true by decide
  · rw [List.mem_singleton.1 hb]
    decide

theorem mem_names_blocks {parts : List (List Char)} (h : parts ≠ []) :
    "param".toList ∈ (FieldList.blocks parts).map Block.name := by
  obtain ⟨part, parts, rfl⟩ := List.exists_cons_of_ne_nil h
  exact List.mem_cons_self

/-- Brackets that can be read declare a field. -/
theorem fields_ne_nil {d : String} {e : Expansion} (h : expand d = some e) : e.fields ≠ [] := by
  obtain ⟨inner, hinner, -, hparse⟩ := expand_eq_some_iff.1 h
  obtain ⟨draft, hdraft, ha⟩ := bind_eq_ok_iff.1 hparse
  obtain ⟨before, hlines⟩ := lines_comment (around inner d.toList)
    (newline_not_mem_declared (bracketed?_eq_some hinner).2)
  have hnames : "param".toList ∈ (draft.blocks.map Block.name).reverse := by
    rw [Draft.names_foldlM hdraft, hlines, List.filterMap_append, Block.openedNames blocks_named]
    simp only [List.mem_append]
    exact .inr (.inr (mem_names_blocks (pieces_ne_nil ',' (declared inner))))
  obtain ⟨f, hf⟩ := Draft.exists_param ha (List.mem_reverse.1 hnames)
  exact List.ne_nil_of_mem hf

/-- Another pair of brackets marks the same fields as an array, and changes nothing else. -/
theorem expand_marked {p x s : String} (hp : '[' ∉ p.toList) (hs : ']' ∉ s.toList) (hx : '\n' ∉ x.toList)
    (single : isNested x.toList = false) :
    (expand (p ++ "[" ++ x ++ "]" ++ s) = none ∧ expand (p ++ "[[" ++ x ++ "]]" ++ s) = none) ∨
      ∃ a, expand (p ++ "[" ++ x ++ "]" ++ s) = some ⟨a, false⟩ ∧
        expand (p ++ "[[" ++ x ++ "]]" ++ s) = some ⟨a, true⟩ := by
  have hplain : Brackets p.toList x.toList s.toList (p ++ "[" ++ x ++ "]" ++ s).toList :=
    ⟨by simp, hp, hs⟩
  have hmarked : Brackets p.toList ('[' :: (x.toList ++ [']'])) s.toList (p ++ "[[" ++ x ++ "]]" ++ s).toList :=
    ⟨by simp, hp, hs⟩
  have hnested : isNested ('[' :: (x.toList ++ [']'])) = true := isNested_iff.2 ⟨_, rfl⟩
  have hinner : unnested ('[' :: (x.toList ++ [']'])) = unnested x.toList := by
    simp [unnested, hnested, single]
  rw [hplain.expand_eq hx, hmarked.expand_eq (by simpa using hx), hinner, hnested, single]
  cases parseFields (comment (trim (p.toList ++ s.toList)) (unnested x.toList)) with
  | error e => exact .inl ⟨rfl, rfl⟩
  | ok a => exact .inr ⟨a, rfl, rfl⟩

/-- Between the brackets stands another closing one, and the text around them is broken. -/
theorem expand_marked_page :
    '[' ∉ "All\norders ".toList ∧ ']' ∉ " [found".toList ∧ '\n' ∉ "int $page first] page, string $sort".toList ∧
    isNested "int $page first] page, string $sort".toList = false ∧
    ∃ a, expand ("All\norders " ++ "[" ++ "int $page first] page, string $sort" ++ "]" ++ " [found") =
        some ⟨a, false⟩ ∧
      expand ("All\norders " ++ "[[" ++ "int $page first] page, string $sort" ++ "]]" ++ " [found") =
        some ⟨a, true⟩ := by
  have hmarked := expand_marked (p := "All\norders ") (x := "int $page first] page, string $sort") (s := " [found")
    (by decide) (by decide) (by decide) (by decide)
  refine ⟨by decide, by decide, by decide, by decide, hmarked.resolve_left fun hnone => ?_⟩
  exact absurd hnone.1 (by decide +kernel)

end Expansion

end RouteDocs
