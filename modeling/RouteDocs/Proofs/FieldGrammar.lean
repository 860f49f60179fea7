import RouteDocs.Proofs.Annotation.Declaration
import RouteDocs.Proofs.Expansion

namespace RouteDocs

open Text Annotation

namespace Expansion

/-- The blocks of the parts are read if each part is a declaration. -/
theorem tags_blocks_iff {parts : List (List Char)} {ts : List (Option Tag)} :
    ((FieldList.blocks parts).map Block.trimmed).map (Block.tag? true) = ts.map .ok ↔
      ∃ fs, List.Forall₂ IsDeclaration (parts.map trim) fs ∧ ts = (FieldList.tags fs).map some := by
  induction parts generalizing ts with
  | nil =>
    have hvoid : ((FieldList.blocks []).map Block.trimmed).map (Block.tag? true) =
        ((FieldList.tags []).map some).map .ok := by decide
    rw [hvoid]
    constructor
    · intro h
      exact ⟨[], .nil, (List.map_injective_iff.2 (fun _ _ => Except.ok.inj) h).symm⟩
    · rintro ⟨fs, hfs, rfl⟩
      cases hfs
      rfl
  | cons part parts ih =>
    have hblocks : FieldList.blocks (part :: parts) = ⟨"param".toList, trim part⟩ :: FieldList.blocks parts := rfl
    rw [hblocks, List.map_cons, List.map_cons, List.map_cons]
    constructor
    · intro h
      cases ts with
      | nil => simp at h
      | cons t ts =>
        obtain ⟨ht, hts⟩ := List.cons.inj h
        obtain ⟨f, hf, rfl⟩ := tag?_param_eq_ok_iff.1 ht
        obtain ⟨fs, hfs, rfl⟩ := ih.1 hts
        rw [trim_trim, trim_trim] at hf
        exact ⟨f :: fs, .cons hf hfs, rfl⟩
    · rintro ⟨fs, hfs, rfl⟩
      cases hfs with
      | @cons _ f _ fs hf hfs =>
        have ht : Block.tag? true (Block.trimmed ⟨"param".toList, trim part⟩) = .ok (some (.param f)) :=
          tag?_param_eq_ok_iff.2 ⟨f, by rwa [trim_trim, trim_trim], rfl⟩
        rw [ht, ih.2 ⟨fs, hfs, rfl⟩]
        rfl

theorem comment_eq_lines (summary inner : List Char) : comment summary inner =
    ['\n'].intercalate (summaryLines summary ++ (FieldList.blocks (pieces ',' inner)).map Block.line) := by
  rw [comment_eq_append, FieldList.comment_eq]
  obtain ⟨b, bs, hbs⟩ : ∃ b bs, FieldList.blocks (pieces ',' inner) = b :: bs := by
    obtain ⟨part, parts, hp⟩ := List.exists_cons_of_ne_nil (pieces_ne_nil ',' inner)
    exact ⟨_, _, by rw [hp]; rfl⟩
  rw [hbs]
  cases summary with
  | nil => rfl
  | cons c s => simp [summaryLines, List.intercalate_cons_cons]

theorem blocks_writable {inner : List Char} (hn : '\n' ∉ inner)
    (hu : ∀ part ∈ (pieces ',' inner).map trim, ¬ ['*', '/'] <:+ part) :
    ∀ b ∈ FieldList.blocks (pieces ',' inner), b.Writable := by
  intro b hb
  refine ⟨blocks_named b hb, ?_, ?_⟩
  · intro hm
    exact newline_not_mem_blocks hn _ (List.mem_map_of_mem hb) (by simp [Block.line, hm])
  · rcases List.mem_append.1 hb with hb | hb
    · obtain ⟨part, hpart, rfl⟩ := List.mem_map.1 hb
      change ¬ ['*', '/'] <:+ trimEnd (trim part)
      rw [trimEnd_trim]
      exact hu _ (List.mem_map_of_mem hpart)
    · rw [List.mem_singleton.1 hb]
      decide

/-- The synthetic comment is read if each part between commas is a declaration, and then it holds the fields
that they declare. -/
theorem parseFields_comment_iff {summary inner : List Char} {a : Annotation} (hs : IsSummary summary)
    (hn : '\n' ∉ inner) (hu : ∀ part ∈ (pieces ',' inner).map trim, ¬ ['*', '/'] <:+ part) :
    parseFields (comment summary inner) = .ok a ↔
      ∃ fs, List.Forall₂ IsDeclaration ((pieces ',' inner).map trim) fs ∧
        a = ⟨String.ofList summary, FieldList.tags fs⟩ := by
  have hne : FieldList.blocks (pieces ',' inner) ≠ [] := by simp [FieldList.blocks]
  rw [parseFields, comment_eq_lines, read_blocks true hs (.inr hne) (blocks_writable hn hu), bind_eq_ok_iff]
  simp only [mapM_eq_ok_iff, tags_blocks_iff, pure_eq_ok, Except.ok.injEq]
  constructor
  · rintro ⟨ts, ⟨fs, hfs, rfl⟩, rfl⟩
    exact ⟨fs, hfs, by simp⟩
  · rintro ⟨fs, hfs, rfl⟩
    exact ⟨_, ⟨fs, hfs, rfl⟩, by simp⟩

/-- The parts between the commas, without blanks around them. -/
def parts (inner : List Char) : List (List Char) := (pieces ',' (unnested inner)).map trim

/-- What is left of a description without its brackets can stand on a line of its own. -/
structure Plain (s : List Char) : Prop where
  untagged : s.head? ≠ some '@'
  unstarred : s.head? ≠ some '*'
  unopened : ¬ ['/', '*', '*'] <+: s
  unclosed : ¬ ['*', '/'] <:+ s

section

variable {d : String} {before inner after : List Char}

theorem Brackets.newline_not_mem (h : Brackets before inner after d.toList) (hd : '\n' ∉ d.toList) :
    '\n' ∉ before ++ after ∧ '\n' ∉ inner ∧ '\n' ∉ unnested inner := by
  rw [h.line_eq] at hd
  simp only [List.mem_append, List.mem_cons, not_or] at hd ⊢
  exact ⟨⟨hd.1, hd.2.2.2.2⟩, hd.2.2.1, declared_eq inner ▸ newline_not_mem_declared hd.2.2.1⟩

theorem Plain.isSummary {s : List Char} (h : Plain (trim s)) (hn : '\n' ∉ s) : IsSummary (trim s) where
  trimmed := trim_trim s
  oneLine hm := hn (trim_subset s hm)
  unclosed := h.unclosed
  untagged := h.untagged
  unstarred := h.unstarred
  unopened := h.unopened

/-- All that an expansion can be: the text around the brackets, and the fields that the parts between the
commas declare. -/
theorem Brackets.expand_eq_some_iff (h : Brackets before inner after d.toList) (hd : '\n' ∉ d.toList)
    (hplain : Plain (trim (before ++ after))) (hu : ∀ part ∈ parts inner, ¬ ['*', '/'] <:+ part) {e : Expansion} :
    expand d = some e ↔ ∃ fs, List.Forall₂ IsDeclaration (parts inner) fs ∧
      e = ⟨⟨String.ofList (trim (before ++ after)), FieldList.tags fs⟩, isNested inner⟩ := by
  obtain ⟨haround, hinner, hdeclared⟩ := h.newline_not_mem hd
  have hparse {a : Annotation} := parseFields_comment_iff (a := a) (hplain.isSummary haround) hdeclared hu
  simp only [h.expand_eq hinner, Option.map_eq_some_iff, toOption_eq_some_iff, parts, hparse]
  constructor
  · rintro ⟨a, ⟨fs, hfs, rfl⟩, rfl⟩
    exact ⟨fs, hfs, rfl⟩
  · rintro ⟨fs, hfs, rfl⟩
    exact ⟨_, ⟨fs, hfs, rfl⟩, rfl⟩

end

/-- Brackets are read exactly if what is between each two commas is a declaration, and then the fields are
those declared there, in their order. The text around the brackets is the summary, and a second pair of
brackets marks an array. Without an opening bracket and a closing one behind it nothing is read. -/
theorem expand_grammar {d : String} (hd : '\n' ∉ d.toList) :
    ((¬ ∃ before inner after, d.toList = before ++ '[' :: (inner ++ ']' :: after)) → expand d = none) ∧
    ((∃ before inner after, d.toList = before ++ '[' :: (inner ++ ']' :: after)) →
      ∃ before inner after, Brackets before inner after d.toList) ∧
    ∀ before inner after, Brackets before inner after d.toList → Plain (trim (before ++ after)) →
      (∀ part ∈ parts inner, ¬ ['*', '/'] <:+ part) →
      ((∃ e, expand d = some e) ↔ ∀ part ∈ parts inner, ∃ f, IsDeclaration part f) ∧
      (∀ fs, (∃ e, expand d = some e ∧ e.fields = fs) ↔ List.Forall₂ IsDeclaration (parts inner) fs) ∧
      ∀ e, expand d = some e →
        e.isArray = isNested inner ∧ e.summary = String.ofList (trim (before ++ after)) := by
  refine ⟨fun hnone => ?_, fun hsome => ?_, fun before inner after h hplain hu => ?_⟩
  · rw [Option.eq_none_iff_forall_ne_some]
    intro e he
    obtain ⟨inner, hinner, -⟩ := RouteDocs.Expansion.expand_eq_some_iff.1 he
    obtain ⟨⟨before, after, hspan⟩, -⟩ := bracketed?_eq_some hinner
    exact hnone ⟨before, inner, after, hspan⟩
  · obtain ⟨before, inner, after, hspan⟩ := hsome
    rw [hspan]
    exact exists_brackets before inner after
  · have hexpand {e : Expansion} := h.expand_eq_some_iff (e := e) hd hplain hu
    refine ⟨?_, fun fs => ?_, fun e he => ?_⟩
    · rw [← exists_forall₂_iff]
      constructor
      · rintro ⟨e, he⟩
        obtain ⟨fs, hfs, -⟩ := hexpand.1 he
        exact ⟨fs, hfs⟩
      · rintro ⟨fs, hfs⟩
        exact ⟨_, hexpand.2 ⟨fs, hfs, rfl⟩⟩
    · constructor
      · rintro ⟨e, he, rfl⟩
        obtain ⟨fs, hfs, rfl⟩ := hexpand.1 he
        rwa [FieldList.fields_tags]
      · intro hfs
        exact ⟨_, hexpand.2 ⟨fs, hfs, rfl⟩, FieldList.fields_tags _ fs _⟩
    · obtain ⟨fs, -, rfl⟩ := hexpand.1 he
      exact ⟨rfl, rfl⟩

/-- An array of two fields, with more brackets and a wide blank among them. -/
def ordersPage : String := "Orders [[int $page first] page, string\u2003$sort]] found"

theorem expand_grammar_ordersPage :
    '\n' ∉ ordersPage.toList ∧
    Brackets "Orders ".toList "[int $page first] page, string\u2003$sort]".toList " found".toList
      ordersPage.toList ∧
    (∃ e, expand ordersPage = some e ∧ e.fields = [⟨"int", "page", "first] page"⟩, ⟨"string", "sort", ""⟩] ∧
      e.isArray = true ∧ e.summary = "Orders  found") ∧
    List.Forall₂ IsDeclaration ["int $page first] page".toList, "string\u2003$sort".toList]
      [⟨"int", "page", "first] page"⟩, ⟨"string", "sort", ""⟩] := by
  have hline : '\n' ∉ ordersPage.toList := by decide
  have hspan : Brackets "Orders ".toList "[int $page first] page, string\u2003$sort]".toList " found".toList
      ordersPage.toList := ⟨by decide, by decide, by decide⟩
  have hplain : Plain (trim ("Orders ".toList ++ " found".toList)) :=
    ⟨by decide, by decide, by decide, by decide⟩
  have hparts : parts "[int $page first] page, string\u2003$sort]".toList =
      ["int $page first] page".toList, "string\u2003$sort".toList] := by decide
  obtain ⟨-, hfields, hrest⟩ :=
    (expand_grammar hline).2.2 _ _ _ hspan hplain (by rw [hparts]; decide)
  obtain ⟨e, he⟩ := Option.isSome_iff_exists.1 (show (expand ordersPage).isSome = true by decide +kernel)
  have hread : (expand ordersPage).map (·.fields) =
      some [⟨"int", "page", "first] page"⟩, ⟨"string", "sort", ""⟩] := by decide +kernel
  rw [he, Option.map_some, Option.some.injEq] at hread
  obtain ⟨harray, hsummary⟩ := hrest e he
  refine ⟨hline, hspan, ⟨e, he, hread, harray.trans (by decide), hsummary.trans (by decide)⟩, ?_⟩
  have hall := (hfields _).1 ⟨e, he, hread⟩
  rwa [hparts] at hall

end Expansion

end RouteDocs
