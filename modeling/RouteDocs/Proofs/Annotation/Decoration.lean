import RouteDocs.Proofs.Annotation.Wrapping

namespace RouteDocs

open Text

namespace Annotation

/-- What lines say whose decoration is cleaned off. -/
def readLines (strict : Bool) (ls : List (List Char)) : Except Error Annotation := do
  let d ← ls.foldlM Draft.add {}
  d.annotation strict

variable {strict : Bool}

theorem read_eq_readLines (strict : Bool) (text : List Char) :
    read strict text = readLines strict ((lines text).map cleanLine) := rfl

/-- At most, a blank line closes the summary. It adds nothing to what is said. -/
theorem Draft.annotation_add_blank (strict : Bool) (d : Draft) :
    (d.add [] >>= fun d => d.annotation strict) = d.annotation strict := by
  cases hd : d.blocks with
  | nil =>
    rw [add_blank d hd, ok_bind]
    rfl
  | cons b bs =>
    have hblank : b.continue [] = b := rfl
    have huntagged : ¬ IsTagLine [] := by simp [IsTagLine]
    rw [add_continuation huntagged d hd, ok_bind, hblank, ← hd]

theorem readLines_cons_blank (strict : Bool) (ls : List (List Char)) :
    readLines strict ([] :: ls) = readLines strict ls := rfl

theorem readLines_append_blank (strict : Bool) (ls : List (List Char)) :
    readLines strict (ls ++ [[]]) = readLines strict ls := by
  simp only [readLines, List.foldlM_append, List.foldlM_cons, List.foldlM_nil, bind_pure, bind_assoc,
    Draft.annotation_add_blank]

/-- Lines are read one by one, however many blank ones stand at the end. -/
theorem read_intercalate (strict : Bool) {ls : List (List Char)} (h : ∀ l ∈ ls, '\n' ∉ l) :
    read strict (['\n'].intercalate ls) = readLines strict (ls.map cleanLine) := by
  rw [read_eq_readLines]
  by_cases hne : ls = []
  · rw [hne]
    rfl
  by_cases hlast : ls.getLast? = some []
  · -- The last line feed ends a line, and no further one begins behind it.
    obtain ⟨init, rfl⟩ := List.getLast?_eq_some_iff.1 hlast
    have hlines : lines (['\n'].intercalate (init ++ [[]])) = init.map dropReturn := by
      rw [lines, pieces_intercalate hne h, List.getLast?_concat, List.dropLast_concat]
    have hclean : (init.map dropReturn).map cleanLine = init.map cleanLine := by
      rw [List.map_map]
      exact List.map_congr_left fun l _ => cleanLine_dropReturn l
    rw [hlines, hclean, List.map_append]
    exact (readLines_append_blank strict _).symm
  · rw [map_lines_intercalate cleanLine_dropReturn hne h hlast]

/-- Blanks at the start of a line. -/
structure IsIndentation (gap : List Char) : Prop where
  blank : ∀ c ∈ gap, isBlank c = true
  oneLine : '\n' ∉ gap

/-- A line that no mark of a comment decorates. -/
structure Undecorated (line : List Char) : Prop where
  oneLine : '\n' ∉ line
  unstarred : (trim line).head? ≠ some '*'
  unopened : ¬ ['/', '*', '*'] <+: trim line
  unclosed : ¬ ['*', '/'] <:+ trim line

instance (gap : List Char) : Decidable (IsIndentation gap) :=
  decidable_of_iff (gap.all isBlank = true ∧ '\n' ∉ gap)
    ⟨fun h => ⟨List.all_eq_true.1 h.1, h.2⟩, fun h => ⟨List.all_eq_true.2 h.blank, h.oneLine⟩⟩

instance (line : List Char) : Decidable (Undecorated line) :=
  decidable_of_iff ('\n' ∉ line ∧ (trim line).head? ≠ some '*' ∧ ¬ ['/', '*', '*'] <+: trim line ∧
      ¬ ['*', '/'] <:+ trim line)
    ⟨fun h => ⟨h.1, h.2.1, h.2.2.1, h.2.2.2⟩, fun h => ⟨h.oneLine, h.unstarred, h.unopened, h.unclosed⟩⟩

/-- A star and a blank do not make the end of a comment out of what is none. -/
theorem Undecorated.unclosed_starred {line : List Char} (h : Undecorated line) :
    ¬ ['*', '/'] <:+ '*' :: trimEnd (' ' :: line) := by
  intro hs
  rw [trimEnd_cons_blank (by decide)] at hs
  split at hs
  · exact absurd hs (by decide)
  · have hend : ['*', '/'] <:+ trimEnd line := suffix_of_suffix_append (s := ['*']) (by decide) hs
    obtain ⟨r, hr⟩ := hend
    apply h.unclosed
    rw [trim, ← trimStart_trimEnd, ← hr, trimStart, List.dropWhile_append]
    split
    · exact List.suffix_rfl
    · exact List.suffix_append _ _

/-- The star before a line is cleaned off, together with the blanks on both sides of it. -/
theorem cleanLine_starred {gap line : List Char} (hgap : IsIndentation gap) (h : Undecorated line) :
    cleanLine (gap ++ '*' :: ' ' :: line) = cleanLine line := by
  have htrim : trim (gap ++ '*' :: ' ' :: line) = '*' :: trimEnd (' ' :: line) := by
    rw [trim_append_blanks hgap.blank, trim_of_head (by decide)]
  have hstar : unstar ('*' :: trimEnd (' ' :: line)) = trim (trimEnd (' ' :: line)) := rfl
  rw [cleanLine_of_plain h.unopened h.unclosed h.unstarred, cleanLine_eq, htrim,
    dropStart_of_not_prefix (by simp), dropEnd_of_not_suffix h.unclosed_starred, ← htrim, trim_trim, htrim, hstar,
    trim_trimEnd, trim_blank (by decide)]

theorem cleanLine_closing {gap : List Char} (hgap : IsIndentation gap) : cleanLine (gap ++ ['*', '/']) = [] := by
  rw [cleanLine_eq, trim_append_blanks hgap.blank]
  rfl

/-- Lines as a block comment, each of them behind its indentation and a star. -/
def blockComment (ls : List (String × String)) (closing : String) : String :=
  "\n".intercalate ("/**" :: ls.map (fun (gap, line) => gap ++ "* " ++ line) ++ [closing ++ "*/"])

/-- The lines of a block comment. -/
def starred (ls : List (String × String)) (closing : String) : List (List Char) :=
  "/**".toList :: ls.map (fun l => l.1.toList ++ '*' :: ' ' :: l.2.toList) ++ [closing.toList ++ ['*', '/']]

theorem toList_blockComment (ls : List (String × String)) (closing : String) :
    (blockComment ls closing).toList = ['\n'].intercalate (starred ls closing) := by
  simp [blockComment, starred, String.toList_intercalate, Function.comp_def]

section

variable {ls : List (String × String)} {closing : String}

theorem newline_not_mem_starred (h : ∀ l ∈ ls, IsIndentation l.1.toList ∧ Undecorated l.2.toList)
    (hclosing : IsIndentation closing.toList) : ∀ l ∈ starred ls closing, '\n' ∉ l := by
  intro l hl
  simp only [starred, List.mem_append, List.mem_cons, List.mem_map, List.not_mem_nil, or_false] at hl
  rcases hl with (rfl | ⟨p, hp, rfl⟩) | rfl
  · decide
  · simp [(h p hp).1.oneLine, (h p hp).2.oneLine]
  · simp [hclosing.oneLine]

/-- Of the decoration a blank line is left at both ends. -/
theorem map_cleanLine_starred (h : ∀ l ∈ ls, IsIndentation l.1.toList ∧ Undecorated l.2.toList)
    (hclosing : IsIndentation closing.toList) :
    (starred ls closing).map cleanLine = [] :: (ls.map fun l => l.2.toList).map cleanLine ++ [[]] := by
  have hopen : cleanLine "/**".toList = [] := by decide
  have hmap : (ls.map fun l => l.1.toList ++ '*' :: ' ' :: l.2.toList).map cleanLine =
      (ls.map fun l => l.2.toList).map cleanLine := by
    rw [List.map_map, List.map_map, List.map_inj_left]
    intro l hl
    simp only [Function.comp_apply, cleanLine_starred (h l hl).1 (h l hl).2]
  simp only [starred, List.map_append, List.map_cons, hopen, hmap, cleanLine_closing hclosing, List.map_nil]

end

/-- A comment says the same with and without the decoration of a block, also where it cannot be read. -/
theorem parse_blockComment {ls : List (String × String)} {closing : String}
    (h : ∀ l ∈ ls, IsIndentation l.1.toList ∧ Undecorated l.2.toList) (hclosing : IsIndentation closing.toList) :
    parse (blockComment ls closing) = parse ("\n".intercalate (ls.map Prod.snd)) := by
  have hplain : ("\n".intercalate (ls.map Prod.snd)).toList = ['\n'].intercalate (ls.map fun l => l.2.toList) := by
    simp [String.toList_intercalate, Function.comp_def]
  have honeLine : ∀ l ∈ ls.map fun l => l.2.toList, '\n' ∉ l := by
    intro l hl
    obtain ⟨p, hp, rfl⟩ := List.mem_map.1 hl
    exact (h p hp).2.oneLine
  rw [parse, parse, toList_blockComment, hplain, read_intercalate false (newline_not_mem_starred h hclosing),
    read_intercalate false honeLine, map_cleanLine_starred h hclosing, List.cons_append, readLines_cons_blank,
    readLines_append_blank]

/-- A slash, a blank line and a carriage return stand on lines of their own, and the tag has no type. -/
def slashLines : List (String × String) :=
  [(" ", "Finds orders"), ("\t", "/"), ("", ""), ("\u2003", "\r"), ("", " @param $page of them")]

theorem parse_blockComment_slash :
    (∀ l ∈ slashLines, IsIndentation l.1.toList ∧ Undecorated l.2.toList) ∧ IsIndentation "  ".toList ∧
    parse (blockComment slashLines "  ") = .error (.malformed "param" "$page of them") ∧
    parse ("\n".intercalate (slashLines.map Prod.snd)) = .error (.malformed "param" "$page of them") := by
  have hlines : ∀ l ∈ slashLines, IsIndentation l.1.toList ∧ Undecorated l.2.toList := by decide +kernel
  have hclosing : IsIndentation "  ".toList := by decide +kernel
  have hplain : parse ("\n".intercalate (slashLines.map Prod.snd)) = .error (.malformed "param" "$page of them") := by
    decide +kernel
  exact ⟨hlines, hclosing, (parse_blockComment hlines hclosing).trans hplain, hplain⟩

end Annotation

end RouteDocs
