import RouteDocs.Proofs.Annotation.Outline

namespace RouteDocs

open Text

namespace Annotation

theorem tagName_chars {w : List Char} (h : isTagName w = true) {c : Char} (hc : c ∈ w) :
    isAlphanumeric c = true ∨ c = '-' ∨ c = '_' := by
  have hn := List.all_eq_true.1 (Bool.and_eq_true_iff.1 h).2 c hc
  simp only [Bool.or_eq_true, beq_iff_eq, or_assoc] at hn
  exact hn.imp_left isAlphanumeric_of_ascii

theorem typeName_chars {w : List Char} (h : isTypeName w = true) {c : Char} (hc : c ∈ w) :
    (isAlphanumeric c || ['_', '\\', ':', '<', '>', '|'].contains c) = true :=
  List.all_eq_true.1 (Bool.and_eq_true_iff.1 h).2 c hc

theorem variableName_chars {w : List Char} (h : isVariableName w = true) {c : Char} (hc : c ∈ w) :
    (isAlphanumeric c || c == '_') = true :=
  List.all_eq_true.1 (Bool.and_eq_true_iff.1 h).2 c hc

theorem tagName_word {w : List Char} (h : isTagName w = true) : IsWord w := by
  refine ⟨?_, fun c hc => Bool.eq_false_iff.2 fun hb => ?_⟩
  · intro he
    subst he
    exact absurd h (by decide)
  · rcases tagName_chars h hc with hn | rfl | rfl
    · simp [isAlphanumeric_of_blank hb] at hn
    · exact absurd hb (by decide)
    · exact absurd hb (by decide)

theorem typeName_word {w : List Char} (h : isTypeName w = true) : IsWord w := by
  refine ⟨?_, fun c hc => Bool.eq_false_iff.2 fun hb => ?_⟩
  · intro he
    subst he
    exact absurd h (by decide)
  · have hn := typeName_chars h hc
    rw [isAlphanumeric_of_blank hb, Bool.false_or, List.contains_iff_mem] at hn
    simp only [List.mem_cons, List.not_mem_nil, or_false] at hn
    rcases hn with rfl | rfl | rfl | rfl | rfl | rfl <;> exact absurd hb (by decide)

theorem variableName_word {w : List Char} (h : isVariableName w = true) : IsWord w := by
  refine ⟨?_, fun c hc => Bool.eq_false_iff.2 fun hb => ?_⟩
  · intro he
    subst he
    exact absurd h (by decide)
  · have hn := variableName_chars h hc
    rw [isAlphanumeric_of_blank hb, Bool.false_or, beq_iff_eq] at hn
    subst hn
    exact absurd hb (by decide)

/-- Free text at the end of a line: without blanks around it and without the end of a comment. -/
structure IsProse (s : List Char) : Prop where
  trimmed : trim s = s
  oneLine : '\n' ∉ s
  unclosed : ¬ ['*', '/'] <:+ s

/-- A text that ends in a word without a slash, and prose behind it, do not end a comment. -/
theorem IsProse.unclosed_append {d w : List Char} (h : IsProse d)
    (hlast : ∀ c ∈ w.getLast?, isBlank c = false) (hw : '/' ∉ w) :
    ¬ ['*', '/'] <:+ trimEnd (w ++ ' ' :: d) := by
  have hd : trimEnd d = d := by rw [← h.trimmed, trimEnd_trim]
  rw [trimEnd_append hlast, trimEnd_cons_blank (by decide), hd]
  intro hs
  split at hs
  · rw [List.append_nil] at hs
    exact hw (hs.subset (by simp))
  · exact h.unclosed (suffix_of_suffix_append (by decide) hs)

theorem cleanLine_dropReturn (line : List Char) : cleanLine (dropReturn line) = cleanLine line := by
  simp only [cleanLine, trim_dropReturn]

/-- Nothing but blanks is taken from a line that no mark of a comment decorates. -/
theorem cleanLine_of_plain {line : List Char} (hstart : ¬ ['/', '*', '*'] <+: trim line)
    (hend : ¬ ['*', '/'] <:+ trim line) (hstar : (trim line).head? ≠ some '*') :
    cleanLine line = trim line := by
  simp only [cleanLine, dropStart_of_not_prefix hstart, dropEnd_of_not_suffix hend, trim_trim]
  split
  · next heq => simp [heq] at hstar
  · rfl

namespace Block

def line (b : Block) : List Char := '@' :: (b.name ++ ' ' :: b.body)

/-- What reading a line leaves of a block. -/
def trimmed (b : Block) : Block := ⟨b.name, trim b.body⟩

structure Writable (b : Block) : Prop where
  name : isTagName b.name = true
  oneLine : '\n' ∉ b.body
  unclosed : ¬ ['*', '/'] <:+ trimEnd b.body

variable {b : Block}

theorem trim_line (b : Block) : trim b.line = '@' :: trimEnd (b.name ++ ' ' :: b.body) :=
  trim_of_head (by decide) _

theorem Writable.solid (h : b.Writable) : IsWord b.name := tagName_word h.name

theorem Writable.newline_not_mem (h : b.Writable) : '\n' ∉ b.line := by
  have hname : '\n' ∉ b.name := fun hn => absurd (h.solid.solid _ hn) (by decide)
  simp [line, hname, h.oneLine]

theorem Writable.cleanLine_line (h : b.Writable) : cleanLine b.line = trim b.line := by
  apply cleanLine_of_plain
  · simp [trim_line]
  · rw [trim_line, trimEnd_append h.solid.last, trimEnd_cons_blank (by decide), ← List.cons_append]
    intro hs
    split at hs
    · rw [List.append_nil] at hs
      have hm : '/' ∈ '@' :: b.name := hs.subset (by simp)
      rcases List.mem_cons.1 hm with hm | hm
      · exact absurd hm (by decide)
      · exact absurd (tagName_chars h.name hm) (by decide)
    · exact h.unclosed (suffix_of_suffix_append (by decide) hs)
  · simp [trim_line]

/-- The line of a block opens a section, which is that block. -/
theorem Writable.ofLine (h : b.Writable) :
    IsTagLine (cleanLine b.line) ∧ (Section.ofLine (cleanLine b.line)).block = b.trimmed := by
  rw [h.cleanLine_line, trim_line, Section.block_ofLine, splitWord_trimEnd, splitWord_word h.solid]
  exact ⟨rfl, rfl⟩

theorem Writable.trimmed (h : b.Writable) : b.trimmed.Writable where
  name := h.name
  oneLine hn := h.oneLine (trim_subset _ hn)
  unclosed hs := by
    rw [Block.trimmed, trimEnd_trim] at hs
    exact h.unclosed (hs.trans (trim_suffix _))

theorem trimmed_trimmed (b : Block) : b.trimmed.trimmed = b.trimmed := by
  simp only [trimmed, trim_trim]

end Block

/-- Prose that opens no tag and that no mark of a comment decorates. -/
structure IsSummary (s : List Char) : Prop extends IsProse s where
  untagged : s.head? ≠ some '@'
  unstarred : s.head? ≠ some '*'
  unopened : ¬ ['/', '*', '*'] <+: s

theorem isSummary_nil : IsSummary [] where
  trimmed := rfl
  oneLine := by simp
  unclosed := by simp
  untagged := by simp
  unstarred := by simp
  unopened := by simp

/-- The line of a summary. An empty summary has none. -/
def summaryLines (s : List Char) : List (List Char) := if s = [] then [] else [s]

theorem intercalate_summaryLines (s : List Char) : [' '].intercalate (summaryLines s) = s := by
  unfold summaryLines
  split
  · next h => simp [h]
  · simp

theorem firstParagraph_summaryLines (s : List Char) : firstParagraph (summaryLines s) = summaryLines s := by
  unfold summaryLines
  split
  · rfl
  · next h => simp [firstParagraph_cons h]

/-- The line of a summary is kept as it is. -/
theorem map_cleanLine_summaryLines {s : List Char} (h : IsSummary s) :
    (summaryLines s).map cleanLine = summaryLines s := by
  have hclean : cleanLine s = s := by
    rw [cleanLine_of_plain] <;> rw [h.trimmed]
    · exact h.unopened
    · exact h.unclosed
    · exact h.unstarred
  unfold summaryLines
  split
  · rfl
  · rw [List.map_singleton, hclean]

/-- What is written on lines is found on lines. -/
theorem map_lines_written {s : List Char} {bs : List Block} (hs : '\n' ∉ s) (hne : s ≠ [] ∨ bs ≠ [])
    (h : ∀ b ∈ bs, '\n' ∉ b.line) :
    (lines (['\n'].intercalate (summaryLines s ++ bs.map Block.line))).map cleanLine =
      (summaryLines s).map cleanLine ++ bs.map fun b => cleanLine b.line := by
  rw [map_lines_intercalate cleanLine_dropReturn, List.map_append, List.map_map]
  · rfl
  · rcases hne with hne | hne
    · simp [summaryLines, hne]
    · simp [hne]
  · intro l hl
    rcases List.mem_append.1 hl with hl | hl
    · unfold summaryLines at hl
      split at hl
      · exact absurd hl (by simp)
      · rwa [List.mem_singleton.1 hl]
    · obtain ⟨b, hb, rfl⟩ := List.mem_map.1 hl
      exact h b hb
  · rw [List.getLast?_append, List.getLast?_map]
    cases bs.getLast? with
    | some b => simp [Block.line]
    | none =>
      unfold summaryLines
      split <;> simp_all

/-- Reading a summary and the lines of some blocks gives that summary and the tags of the blocks. -/
theorem read_blocks (strict : Bool) {s : List Char} {bs : List Block} (hs : IsSummary s)
    (hne : s ≠ [] ∨ bs ≠ []) (h : ∀ b ∈ bs, b.Writable) :
    read strict (['\n'].intercalate (summaryLines s ++ bs.map Block.line)) = do
      let tags ← (bs.map Block.trimmed).mapM (Block.tag? strict)
      return ⟨String.ofList s, tags.filterMap id⟩ := by
  have htagged : ∀ l ∈ bs.map fun b => cleanLine b.line, IsTagLine l := by
    intro l hl
    obtain ⟨b, hb, rfl⟩ := List.mem_map.1 hl
    exact (h b hb).ofLine.1
  have huntagged : ∀ l ∈ summaryLines s, ¬ IsTagLine l := by
    unfold summaryLines
    split
    · simp
    · simpa [IsTagLine] using hs.untagged
  have hblocks : ((bs.map fun b => cleanLine b.line).map Section.ofLine).map Section.block = bs.map Block.trimmed := by
    rw [List.map_map, List.map_map]
    exact List.map_congr_left fun b hb => (h b hb).ofLine.2
  have outline := outline_tagLines huntagged htagged
  rw [← map_cleanLine_summaryLines hs, ← map_lines_written hs.oneLine hne fun b hb => (h b hb).newline_not_mem,
    map_cleanLine_summaryLines hs] at outline
  have hnamed : ∀ t ∈ (bs.map fun b => cleanLine b.line).map Section.ofLine, isTagName t.name = true := by
    intro t ht
    have hblock := List.mem_map_of_mem (f := Section.block) ht
    rw [hblocks] at hblock
    obtain ⟨b, hb, hname⟩ := List.mem_map.1 hblock
    rw [show t.name = b.name from congrArg Block.name hname.symm]
    exact (h b hb).name
  have hsome : ¬ ((∀ l ∈ summaryLines s, l = []) ∧ (bs.map fun b => cleanLine b.line).map Section.ofLine = []) := by
    rcases hne with hne | hne
    · simp [summaryLines, hne]
    · simp [hne]
  rw [outline.read_eq hnamed, if_neg hsome, hblocks, firstParagraph_summaryLines, intercalate_summaryLines]

end Annotation

open Annotation

/-- What stands before the description of a field: its type, and its variable if it has one. -/
def Field.head (f : Field) : List Char :=
  if f.name = "" then f.type.toList else f.type.toList ++ ' ' :: '$' :: f.name.toList

def Field.body (f : Field) : List Char := f.head ++ ' ' :: f.description.toList

def Outcome.body (o : Outcome) : List Char := o.type.toList ++ ' ' :: o.description.toList

def Tag.block : Tag → Block
  | .param f => ⟨"param".toList, f.body⟩
  | .returns o => ⟨"return".toList, o.body⟩
  | .throws o => ⟨"throws".toList, o.body⟩

/-- A field that a tag can hold. Without a variable, its description must not look like one. -/
structure Field.Writable (f : Field) : Prop where
  type : isTypeName f.type.toList = true
  name : f.name = "" ∨ isVariableName f.name.toList = true
  description : IsProse f.description.toList
  nameless : f.name = "" → f.description.toList.head? ≠ some '$'

structure Outcome.Writable (o : Outcome) : Prop where
  type : isTypeName o.type.toList = true
  description : IsProse o.description.toList

def Tag.Writable : Tag → Prop
  | .param f => f.Writable
  | .returns o | .throws o => o.Writable

theorem Field.Writable.head_chars {f : Field} (h : f.Writable) {c : Char} (hc : c ∈ f.head) :
    c = ' ' ∨ c = '$' ∨ (isAlphanumeric c || ['_', '\\', ':', '<', '>', '|'].contains c) = true := by
  unfold Field.head at hc
  split at hc
  · exact .inr (.inr (typeName_chars h.type hc))
  · next hn =>
    simp only [List.mem_append, List.mem_cons] at hc
    rcases hc with hc | rfl | rfl | hc
    · exact .inr (.inr (typeName_chars h.type hc))
    · exact .inl rfl
    · exact .inr (.inl rfl)
    · have hv := variableName_chars (h.name.resolve_left hn) hc
      refine .inr (.inr (Bool.or_eq_true_iff.2 ?_))
      rcases Bool.or_eq_true_iff.1 hv with ha | hu
      · exact .inl ha
      · exact .inr (by rw [beq_iff_eq.1 hu]; rfl)

theorem Field.Writable.head_last {f : Field} (h : f.Writable) :
    ∀ c ∈ f.head.getLast?, isBlank c = false := by
  unfold Field.head
  split
  · exact (typeName_word h.type).last
  · next hn =>
    have hw := (variableName_word (h.name.resolve_left hn)).cons (c := '$') (by decide)
    intro c hc
    apply hw.last c
    simpa [List.getLast?_append, List.getLast?_cons] using hc

theorem Field.Writable.block {f : Field} (h : f.Writable) : (Tag.param f).block.Writable where
  name := show isTagName "param".toList = true by decide
  oneLine hn := by
    change '\n' ∈ f.head ++ ' ' :: f.description.toList at hn
    rcases List.mem_append.1 hn with hn | hn
    · exact absurd (h.head_chars hn) (by decide)
    rcases List.mem_cons.1 hn with hn | hn
    · exact absurd hn (by decide)
    · exact h.description.oneLine hn
  unclosed :=
    h.description.unclosed_append h.head_last fun hs => absurd (h.head_chars hs) (by decide)

theorem Outcome.Writable.not_mem_type {o : Outcome} (h : o.Writable) {c : Char}
    (hc : (isAlphanumeric c || ['_', '\\', ':', '<', '>', '|'].contains c) = false) :
    c ∉ o.type.toList := fun hm => by
  rw [typeName_chars h.type hm] at hc
  exact absurd hc (by decide)

theorem Outcome.Writable.block {o : Outcome} (h : o.Writable) {name : List Char}
    (hname : isTagName name = true) : Block.Writable ⟨name, o.body⟩ where
  name := hname
  oneLine hn := by
    change '\n' ∈ o.type.toList ++ ' ' :: o.description.toList at hn
    rcases List.mem_append.1 hn with hn | hn
    · exact h.not_mem_type (by decide) hn
    rcases List.mem_cons.1 hn with hn | hn
    · exact absurd hn (by decide)
    · exact h.description.oneLine hn
  unclosed :=
    h.description.unclosed_append (typeName_word h.type).last (h.not_mem_type (by decide))

theorem Tag.Writable.block {t : Tag} (h : t.Writable) : t.block.Writable := by
  cases t with
  | param f => exact Field.Writable.block h
  | returns o => exact Outcome.Writable.block h (by decide)
  | throws o => exact Outcome.Writable.block h (by decide)

theorem splitWord_head {s : List Char} {c : Char} (h : c ∈ (splitWord s).1.head?) :
    c ∈ (trim s).head? := by
  rw [splitWord, List.head?_takeWhile] at h
  exact (Option.mem_filter_iff.1 h).1

/-- A block that holds what is written for a field is read as that field. -/
theorem Field.Writable.param {f : Field} (h : f.Writable) {strict : Bool}
    (hs : strict = true → f.name ≠ "") (name : List Char) :
    Block.param ⟨name, trim f.body⟩ strict = .ok f := by
  have htype := typeName_word h.type
  by_cases hn : f.name = ""
  · have hbody : f.body = f.type.toList ++ ' ' :: f.description.toList := by
      simp [Field.body, Field.head, hn]
    have hstrict : strict = false := Bool.eq_false_iff.2 fun he => hs he hn
    rw [Block.param, splitWord_trim, hbody, splitWord_word htype, h.description.trimmed]
    simp only [h.type, hstrict, Bool.not_true, Bool.false_eq_true, ↓reduceIte]
    split
    · next x y hw =>
      have hd : '$' ∈ (trim f.description.toList).head? := splitWord_head (by simp [hw])
      rw [h.description.trimmed] at hd
      exact absurd hd (h.nameless hn)
    · rw [String.ofList_toList, String.ofList_toList, ← hn]
  · have hvar := h.name.resolve_left hn
    have hbody : f.body =
        f.type.toList ++ ' ' :: ('$' :: f.name.toList ++ ' ' :: f.description.toList) := by
      simp [Field.body, Field.head, hn]
    have hrest := splitWord_word ((variableName_word hvar).cons (c := '$') (by decide))
      f.description.toList
    rw [Block.param, splitWord_trim, hbody, splitWord_word htype]
    simp only [h.type, splitWord_trim, hrest, hvar, h.description.trimmed]
    simp

theorem Outcome.Writable.outcome {o : Outcome} (h : o.Writable) (name : List Char) :
    Block.outcome ⟨name, trim o.body⟩ = .ok o := by
  rw [Block.outcome, splitWord_trim, Outcome.body, splitWord_word (typeName_word h.type)]
  simp [h.type, h.description.trimmed]

theorem tag?_param (strict : Bool) (body : List Char) :
    Block.tag? strict ⟨"param".toList, body⟩ = do
      return some (.param (← Block.param ⟨"param".toList, body⟩ strict)) :=
  if_pos rfl

theorem tag?_return (strict : Bool) (body : List Char) :
    Block.tag? strict ⟨"return".toList, body⟩ = do
      return some (.returns (← Block.outcome ⟨"return".toList, body⟩)) :=
  (if_neg (show "return".toList ≠ "param".toList by decide)).trans (if_pos rfl)

theorem tag?_throws (strict : Bool) (body : List Char) :
    Block.tag? strict ⟨"throws".toList, body⟩ = do
      return some (.throws (← Block.outcome ⟨"throws".toList, body⟩)) :=
  (if_neg (show "throws".toList ≠ "param".toList by decide)).trans
    ((if_neg (show "throws".toList ≠ "return".toList by decide)).trans (if_pos rfl))

/-- What is written for a tag is read as that tag. Where variables are required, a parameter without
one is none. -/
theorem Tag.Writable.tag? {t : Tag} (h : t.Writable) {strict : Bool}
    (hs : strict = true → ∀ f, t = .param f → f.name ≠ "") :
    t.block.trimmed.tag? strict = .ok (some t) := by
  cases t with
  | param f =>
    have hf := Field.Writable.param h (fun he => hs he f rfl) "param".toList
    exact (tag?_param strict (trim f.body)).trans (by rw [hf, ok_bind, pure_eq_ok])
  | returns o =>
    have ho := Outcome.Writable.outcome h "return".toList
    exact (tag?_return strict (trim o.body)).trans (by rw [ho, ok_bind, pure_eq_ok])
  | throws o =>
    have ho := Outcome.Writable.outcome h "throws".toList
    exact (tag?_throws strict (trim o.body)).trans (by rw [ho, ok_bind, pure_eq_ok])

namespace Annotation

/-- A summary and blocks are read as that summary and the tags that the blocks hold, whether or not
blanks were added around their texts. -/
theorem read_lines {strict : Bool} {s : List Char} {bs : List Block} {ts : List Tag} (hsum : IsSummary s)
    (hne : s ≠ [] ∨ bs ≠ []) (hbs : ∀ b ∈ bs, b.Writable) (hts : ∀ t ∈ ts, t.Writable)
    (hs : strict = true → ∀ f, Tag.param f ∈ ts → f.name ≠ "")
    (hsame : bs.map Block.trimmed = ts.map fun t => t.block.trimmed) :
    read strict (['\n'].intercalate (summaryLines s ++ bs.map Block.line)) = .ok ⟨String.ofList s, ts⟩ := by
  have htags : (bs.map Block.trimmed).mapM (Block.tag? strict) = .ok (ts.map some) := by
    rw [hsame, mapM_eq_ok_iff]
    simp only [List.map_map, List.map_inj_left]
    intro t ht
    exact (hts t ht).tag? fun he f hf => hs he f (hf ▸ ht)
  rw [read_blocks strict hsum hne hbs, htags, ok_bind]
  simp

/-- Blocks alone are read as the tags that they hold. -/
theorem read_tags {strict : Bool} {bs : List Block} {ts : List Tag} (hne : bs ≠ [])
    (hbs : ∀ b ∈ bs, b.Writable) (hts : ∀ t ∈ ts, t.Writable)
    (hs : strict = true → ∀ f, Tag.param f ∈ ts → f.name ≠ "")
    (hsame : bs.map Block.trimmed = ts.map fun t => t.block.trimmed) :
    read strict (['\n'].intercalate (bs.map Block.line)) = .ok ⟨"", ts⟩ :=
  read_lines isSummary_nil (.inr hne) hbs hts hs hsame

end Annotation

end RouteDocs
