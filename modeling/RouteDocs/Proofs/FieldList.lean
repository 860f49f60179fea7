import RouteDocs.Expansion
import RouteDocs.Proofs.Annotation.Written
import RouteDocs.Proofs.Brackets

namespace RouteDocs

open Text Annotation

/-- A field that a list can hold: it has a variable, and its description does not end it. -/
structure Field.Listable (f : Field) : Prop where
  type : isTypeName f.type.toList = true
  name : isVariableName f.name.toList = true
  description : IsProse f.description.toList
  comma : ',' ∉ f.description.toList

theorem Field.Listable.named {f : Field} (h : f.Listable) : f.name ≠ "" := by
  intro he
  have hn := h.name
  rw [he] at hn
  exact absurd hn (by decide)

theorem Field.Listable.writable {f : Field} (h : f.Listable) : f.Writable :=
  ⟨h.type, .inr h.name, h.description, fun he => absurd he h.named⟩

theorem Field.Listable.comma_not_mem {f : Field} (h : f.Listable) : ',' ∉ f.body := by
  intro hc
  rcases List.mem_append.1 hc with hc | hc
  · exact absurd (h.writable.head_chars hc) (by decide)
  rcases List.mem_cons.1 hc with hc | hc
  · exact absurd hc (by decide)
  · exact h.comma hc

namespace FieldList

/-- The fields between the brackets. -/
def inner (fs : List Field) : List Char := [',', ' '].intercalate (fs.map Field.body)

def text (fs : List Field) : List Char := '[' :: inner fs ++ [']']

/-- What an annotation of the fields alone holds. The last tag closes the synthetic comment. -/
def tags (fs : List Field) : List Tag := fs.map .param ++ [.returns ⟨"void", ""⟩]

theorem inner_cons_cons (f g : Field) (gs : List Field) :
    inner (f :: g :: gs) = f.body ++ ',' :: ' ' :: inner (g :: gs) := by
  simp [inner, List.intercalate_cons_cons]

theorem mem_inner {fs : List Field} {c : Char} (h : c ∈ inner fs) :
    (c = ',' ∨ c = ' ') ∨ ∃ f ∈ fs, c ∈ f.body := by
  induction fs with
  | nil => simp [inner] at h
  | cons f fs ih =>
    cases fs with
    | nil => exact .inr ⟨f, by simp, by simpa [inner] using h⟩
    | cons g gs =>
      rw [inner_cons_cons] at h
      rcases List.mem_append.1 h with h | h
      · exact .inr ⟨f, by simp, h⟩
      rcases List.mem_cons.1 h with h | h
      · exact .inl (.inl h)
      rcases List.mem_cons.1 h with h | h
      · exact .inl (.inr h)
      · exact (ih h).imp_right fun ⟨k, hk, hc⟩ => ⟨k, List.mem_cons_of_mem _ hk, hc⟩

theorem newline_not_mem {fs : List Field} (h : ∀ f ∈ fs, f.Listable) : '\n' ∉ inner fs := by
  intro hn
  rcases mem_inner hn with hn | ⟨f, hf, hn⟩
  · exact absurd hn (by decide)
  · exact (h f hf).writable.block.oneLine hn

/-- A list starts with the type of its first field, and so not with a second bracket. -/
theorem head_inner {fs : List Field} (hne : fs ≠ []) (h : ∀ f ∈ fs, f.Listable) :
    ∃ c s, inner fs = c :: s ∧ c ≠ '[' := by
  obtain ⟨f, gs, rfl⟩ := List.exists_cons_of_ne_nil hne
  have hf := h f (by simp)
  obtain ⟨c, r, hc⟩ := List.exists_cons_of_ne_nil (typeName_word hf.type).nonempty
  have hnot : c ≠ '[' := by
    intro he
    subst he
    have := typeName_chars hf.type (c := '[') (by simp [hc])
    exact absurd this (by decide)
  have hbody : ∃ s, f.body = c :: s := by
    simp [Field.body, Field.head, hf.named, hc]
  obtain ⟨s, hs⟩ := hbody
  cases gs with
  | nil => exact ⟨c, s, by simp [inner, hs], hnot⟩
  | cons g gs => exact ⟨c, _, by rw [inner_cons_cons, hs, List.cons_append], hnot⟩

/-- A list can itself be the description of a tag: its closing bracket is its last character. -/
theorem text_prose {fs : List Field} (h : ∀ f ∈ fs, f.Listable) : IsProse (text fs) where
  trimmed := by
    rw [text, List.cons_append, trim_of_head (by decide), trimEnd_of_last]
    intro c hc
    have he : c = ']' := by simpa using hc.symm
    rw [he]
    decide
  oneLine hn := by
    rcases List.mem_cons.1 hn with hn | hn
    · exact absurd hn (by decide)
    rcases List.mem_append.1 hn with hn | hn
    · exact newline_not_mem h hn
    · exact absurd hn (by decide)
  unclosed := by
    intro hx
    obtain ⟨r, hr⟩ := hx
    have hlast := congrArg List.getLast? hr
    simp [text, List.getLast?_cons] at hlast

theorem text_brackets (fs : List Field) : Expansion.Brackets [] (inner fs) [] (text fs) :=
  ⟨rfl, by simp, by simp⟩

theorem bracketed?_text {fs : List Field} (h : ∀ f ∈ fs, f.Listable) :
    Expansion.bracketed? (text fs) = some (inner fs) :=
  (text_brackets fs).bracketed? (newline_not_mem h)

theorem nested?_inner {fs : List Field} (hne : fs ≠ []) (h : ∀ f ∈ fs, f.Listable) :
    Expansion.nested? (inner fs) = none := by
  obtain ⟨c, s, hs, hc⟩ := head_inner hne h
  have hsingle : Expansion.isNested (inner fs) = false := by simp [Expansion.isNested, hs, hc]
  rw [Expansion.nested?_eq, hsingle]
  rfl

theorem around_text (fs : List Field) : Expansion.around (inner fs) (text fs) = [] :=
  (text_brackets fs).around

theorem trim_pieces_blank {c d : Char} (hd : isBlank d = true) (hcd : d ≠ c) (s : List Char) :
    (pieces c (d :: s)).map trim = (pieces c s).map trim := by
  obtain ⟨p, ps, hp⟩ := List.exists_cons_of_ne_nil (pieces_ne_nil c s)
  rw [pieces, if_neg hcd, hp]
  simp [trim_blank hd]

theorem trim_pieces_inner {fs : List Field} (hne : fs ≠ []) (h : ∀ f ∈ fs, f.Listable) :
    (pieces ',' (inner fs)).map trim = fs.map fun f => trim f.body := by
  induction fs with
  | nil => exact absurd rfl hne
  | cons f fs ih =>
    have hf := (h f (by simp)).comma_not_mem
    cases fs with
    | nil => simp [inner, pieces_of_not_mem hf]
    | cons g gs =>
      have hrest := ih (by simp) fun k hk => h k (List.mem_cons_of_mem _ hk)
      rw [inner_cons_cons, pieces_append hf, List.map_cons,
        trim_pieces_blank (by decide) (by decide), hrest]
      rfl

theorem flatMap_newline (ls : List (List Char)) (last : List Char) :
    (ls.flatMap fun l => l ++ ['\n']) ++ last = ['\n'].intercalate (ls ++ [last]) := by
  induction ls with
  | nil => simp
  | cons l ls ih =>
    obtain ⟨k, ks, hk⟩ := List.exists_cons_of_ne_nil (l := ls ++ [last]) (by simp)
    rw [List.flatMap_cons, List.append_assoc, ih, List.cons_append, hk, List.intercalate_cons_cons]

/-- The blocks of the synthetic comment. -/
def blocks (parts : List (List Char)) : List Block :=
  parts.map (fun part => ⟨"param".toList, trim part⟩) ++ [⟨"return".toList, "void".toList⟩]

theorem comment_eq (inner : List Char) :
    Expansion.comment [] inner = ['\n'].intercalate ((blocks (pieces ',' inner)).map Block.line) := by
  have hline (part : List Char) :
      "@param ".toList ++ trim part ++ ['\n'] = Block.line ⟨"param".toList, trim part⟩ ++ ['\n'] := rfl
  have hlast : "@return void".toList = Block.line ⟨"return".toList, "void".toList⟩ := rfl
  rw [Expansion.comment, hlast, blocks, List.map_append, List.map_map, List.map_singleton,
    ← flatMap_newline, List.flatMap_map]
  rfl

theorem tags_writable {fs : List Field} (h : ∀ f ∈ fs, f.Listable) : ∀ t ∈ tags fs, t.Writable := by
  intro t ht
  rcases List.mem_append.1 ht with ht | ht
  · obtain ⟨f, hf, rfl⟩ := List.mem_map.1 ht
    exact (h f hf).writable
  · rw [List.mem_singleton.1 ht]
    exact ⟨by decide, by decide, by decide, by decide⟩

/-- The parts between the commas are the fields, up to blanks around them. -/
theorem blocks_inner {fs : List Field} (hne : fs ≠ []) (h : ∀ f ∈ fs, f.Listable) :
    blocks (pieces ',' (inner fs)) = (tags fs).map fun t => t.block.trimmed := by
  have hparts := congrArg (List.map (Block.mk "param".toList)) (trim_pieces_inner hne h)
  rw [List.map_map, List.map_map] at hparts
  have hvoid : (Tag.returns ⟨"void", ""⟩).block.trimmed = ⟨"return".toList, "void".toList⟩ := by decide
  rw [blocks, tags, List.map_append, List.map_map, List.map_singleton, hvoid]
  exact congrArg (· ++ _) hparts

theorem parseFields_comment {fs : List Field} (hne : fs ≠ []) (h : ∀ f ∈ fs, f.Listable) :
    parseFields (Expansion.comment [] (inner fs)) = .ok ⟨"", tags fs⟩ := by
  rw [comment_eq, blocks_inner hne h]
  apply read_tags
  · simp [tags]
  · intro b hb
    obtain ⟨t, ht, rfl⟩ := List.mem_map.1 hb
    exact (tags_writable h t ht).block.trimmed
  · exact tags_writable h
  · intro _ f hf
    obtain ⟨g, hg, he⟩ : ∃ g ∈ fs, Tag.param g = Tag.param f := by simpa [tags] using hf
    exact Tag.param.inj he ▸ (h g hg).named
  · simp only [List.map_map, List.map_inj_left]
    exact fun t _ => t.block.trimmed_trimmed

/-- A list of fields is expanded to these fields, and is no array. -/
theorem expand_text {fs : List Field} (hne : fs ≠ []) (h : ∀ f ∈ fs, f.Listable) :
    expand (String.ofList (text fs)) = some ⟨⟨"", tags fs⟩, false⟩ := by
  simp only [expand, String.toList_ofList, bracketed?_text h, nested?_inner hne h, around_text,
    Option.getD_none, parseFields_comment hne h, Option.bind_eq_bind, Option.bind_some,
    Option.isSome_none]

theorem fields_tags (summary : String) (fs : List Field) (isArray : Bool) :
    (Expansion.mk ⟨summary, tags fs⟩ isArray).fields = fs := by
  simp [Expansion.fields, params, tags, List.filterMap_append, List.filterMap_map]

end FieldList

end RouteDocs
