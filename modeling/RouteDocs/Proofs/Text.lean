import Mathlib.Data.List.DropRight
import Mathlib.Data.List.TakeWhile
import RouteDocs.Text.Basic
import RouteDocs.Text.Letter

namespace RouteDocs.Text

theorem trimStart_of_head {c : Char} (h : isBlank c = false) (s : List Char) :
    trimStart (c :: s) = c :: s := by
  simp [trimStart, h]

theorem trimStart_blank {c : Char} (h : isBlank c = true) (s : List Char) :
    trimStart (c :: s) = trimStart s := by
  simp [trimStart, h]

theorem trimEnd_of_last {s : List Char} (h : ∀ c ∈ s.getLast?, isBlank c = false) :
    trimEnd s = s := by
  have hr : s.reverse.dropWhile isBlank = s.reverse := by
    cases hs : s.reverse with
    | nil => rfl
    | cons c r =>
      have hc : isBlank c = false := h c (by simp [← List.head?_reverse, hs])
      simp [hc]
  rw [trimEnd, hr, List.reverse_reverse]

theorem trimEnd_append {s : List Char} (h : ∀ c ∈ s.getLast?, isBlank c = false) (t : List Char) :
    trimEnd (s ++ t) = s ++ trimEnd t := by
  have hs := congrArg List.reverse (trimEnd_of_last h)
  simp only [trimEnd, List.reverse_reverse] at hs
  simp only [trimEnd, List.reverse_append, List.dropWhile_append, hs]
  split
  · next he => simp_all
  · simp

theorem trimEnd_cons_blank {c : Char} (h : isBlank c = true) (s : List Char) :
    trimEnd (c :: s) = if trimEnd s = [] then [] else c :: trimEnd s := by
  simp only [trimEnd, List.reverse_cons, List.dropWhile_append, List.isEmpty_iff]
  by_cases hs : s.reverse.dropWhile isBlank = []
  · simp [hs, h]
  · simp [hs]

theorem last_trimEnd {s : List Char} {c : Char} (h : c ∈ (trimEnd s).getLast?) :
    isBlank c = false := by
  rw [trimEnd, List.getLast?_reverse] at h
  have := List.head?_dropWhile_not isBlank s.reverse
  simp_all

theorem trimEnd_trimEnd (s : List Char) : trimEnd (trimEnd s) = trimEnd s :=
  trimEnd_of_last fun _ h => last_trimEnd h

/-- Both ends can be trimmed in either order. -/
theorem trimStart_trimEnd (s : List Char) : trimStart (trimEnd s) = trimEnd (trimStart s) := by
  induction s with
  | nil => rfl
  | cons c s ih =>
    cases hc : isBlank c with
    | true =>
      rw [trimStart_blank hc, ← ih, trimEnd_cons_blank hc]
      split
      · next he => rw [he]
      · exact trimStart_blank hc _
    | false =>
      have he : trimEnd (c :: s) = c :: trimEnd s := trimEnd_append (s := [c]) (by simpa using hc) s
      rw [trimStart_of_head hc, he, trimStart_of_head hc]

theorem trim_trimEnd (s : List Char) : trim (trimEnd s) = trim s := by
  rw [trim, trimStart_trimEnd, trimEnd_trimEnd, trim]

theorem trimStart_trimStart (s : List Char) : trimStart (trimStart s) = trimStart s :=
  List.dropWhile_idempotent isBlank s

theorem trim_trim (s : List Char) : trim (trim s) = trim s := by
  have hs : trimStart (trim s) = trim s := by
    rw [trim, trimStart_trimEnd, trimStart_trimStart]
  rw [trim, hs, trim, trimEnd_trimEnd]

theorem trim_suffix (s : List Char) : trim s <:+ trimEnd s := by
  rw [trim, ← trimStart_trimEnd]
  exact List.dropWhile_suffix isBlank

theorem trim_sublist (s : List Char) : (trim s).Sublist s := by
  have hp : trimEnd s <+: s := List.rdropWhile_prefix isBlank s
  exact (trim_suffix s).sublist.trans hp.sublist

theorem trim_subset (s : List Char) : trim s ⊆ s := (trim_sublist s).subset

theorem trimEnd_trim (s : List Char) : trimEnd (trim s) = trim s := trimEnd_trimEnd _

theorem trim_blank {c : Char} (h : isBlank c = true) (s : List Char) : trim (c :: s) = trim s := by
  rw [trim, trimStart_blank h, trim]

theorem trim_append_blanks {gap : List Char} (h : ∀ c ∈ gap, isBlank c = true) (s : List Char) :
    trim (gap ++ s) = trim s := by
  induction gap with
  | nil => rfl
  | cons c gap ih =>
    rw [List.cons_append, trim_blank (h c (by simp)), ih fun d hd => h d (List.mem_cons_of_mem c hd)]

theorem trim_of_head {c : Char} (h : isBlank c = false) (s : List Char) :
    trim (c :: s) = c :: trimEnd s := by
  rw [trim, trimStart_of_head h]
  exact trimEnd_append (s := [c]) (by simpa using h) s

theorem trim_dropReturn (line : List Char) : trim (dropReturn line) = trim line := by
  unfold dropReturn
  split
  · next r h =>
    have hl : line = r.reverse ++ ['\r'] := by simpa using congrArg List.reverse h
    have hr : trimEnd line = trimEnd r.reverse := by
      simp [hl, trimEnd, show isBlank '\r' = true by decide]
    rw [← trim_trimEnd line, hr, trim_trimEnd]
  · rfl

def StartsSolid (s : List Char) : Prop := ∃ c ∈ s.head?, isBlank c = false

def EndsSolid (s : List Char) : Prop := ∃ c ∈ s.getLast?, isBlank c = false

theorem StartsSolid.of_prefix {s t : List Char} (h : StartsSolid s) (ht : t <+: s) (hne : t ≠ []) :
    t.head? = s.head? ∧ StartsSolid t := by
  obtain ⟨c, t, rfl⟩ := List.exists_cons_of_ne_nil hne
  obtain ⟨r, rfl⟩ := ht
  exact ⟨rfl, h⟩

theorem EndsSolid.of_suffix {s t : List Char} (h : EndsSolid s) (ht : t <:+ s) (hne : t ≠ []) : EndsSolid t := by
  obtain ⟨r, rfl⟩ := ht
  obtain ⟨init, c, rfl⟩ := List.eq_nil_or_concat' t |>.resolve_left hne
  simpa [EndsSolid] using h

theorem EndsSolid.trimEnd_eq {s : List Char} (h : EndsSolid s) : trimEnd s = s := by
  obtain ⟨c, hc, hb⟩ := h
  apply trimEnd_of_last
  intro d hd
  rwa [Option.mem_unique hd hc]

theorem EndsSolid.trim_eq {s : List Char} (h : EndsSolid s) : trim s = trimStart s := by
  rw [trim, ← trimStart_trimEnd, h.trimEnd_eq]

theorem StartsSolid.trim_eq {s : List Char} (h : StartsSolid s) : trim s = trimEnd s := by
  obtain ⟨c, hc, hb⟩ := h
  obtain ⟨r, rfl⟩ := List.head?_eq_some_iff.1 hc
  rw [trim, trimStart_of_head hb]

/-- Only blanks are trimmed to nothing. -/
theorem EndsSolid.trim_ne_nil {s : List Char} (h : EndsSolid s) : trim s ≠ [] := by
  obtain ⟨c, hc, hb⟩ := h
  rw [EndsSolid.trim_eq ⟨c, hc, hb⟩]
  intro he
  have hall := List.dropWhile_eq_nil_iff.1 he c (List.mem_of_getLast? hc)
  exact absurd hall (by simp [hb])

theorem EndsSolid.trim {s : List Char} (h : EndsSolid s) : EndsSolid (trim s) := by
  apply h.of_suffix _ h.trim_ne_nil
  rw [h.trim_eq]
  exact List.dropWhile_suffix isBlank

theorem StartsSolid.trim {s : List Char} (h : StartsSolid s) : (trim s).head? = s.head? ∧ StartsSolid (trim s) := by
  have hp : trimEnd s <+: s := List.rdropWhile_prefix isBlank s
  rw [h.trim_eq]
  apply h.of_prefix hp
  obtain ⟨c, hc, hb⟩ := h
  obtain ⟨r, rfl⟩ := List.head?_eq_some_iff.1 hc
  rw [← List.singleton_append, Text.trimEnd_append (by simpa using hb)]
  simp

/-- A trimmed text has solid ends, unless it is empty. -/
theorem solid_of_trimmed {s : List Char} (h : trim s = s) (hne : s ≠ []) : StartsSolid s ∧ EndsSolid s := by
  constructor
  · obtain ⟨c, r, rfl⟩ := List.exists_cons_of_ne_nil hne
    refine ⟨c, rfl, ?_⟩
    by_contra hb
    have hshort := (trim_sublist r).length_le
    rw [← trim_blank (eq_true_of_ne_false hb) r, h, List.length_cons] at hshort
    omega
  · obtain ⟨init, c, rfl⟩ := List.eq_nil_or_concat' s |>.resolve_left hne
    have hlast : c ∈ (init ++ [c]).getLast? := by simp
    exact ⟨c, hlast, last_trimEnd (s := trimStart (init ++ [c])) (by rwa [← Text.trim, h])⟩

/-- Between two texts with solid ends there is nothing to trim. -/
theorem trim_append {s t : List Char} (hs : EndsSolid s) (ht : StartsSolid t) :
    Text.trim (s ++ ' ' :: t) = Text.trim s ++ ' ' :: Text.trim t := by
  have hstart : trimStart (s ++ ' ' :: t) = trimStart s ++ ' ' :: t := by
    have hne : s.dropWhile isBlank ≠ [] := by
      rw [← trimStart, ← hs.trim_eq]
      exact hs.trim_ne_nil
    rw [trimStart, List.dropWhile_append, if_neg (by rwa [List.isEmpty_iff]), trimStart]
  have hend : ∀ c ∈ (trimStart s).getLast?, isBlank c = false := by
    intro c hc
    obtain ⟨d, hd, hb⟩ := hs.trim
    rw [hs.trim_eq] at hd
    rwa [Option.mem_unique hc hd]
  have hne : trimEnd t ≠ [] := by
    obtain ⟨c, hc, -⟩ := ht.trim.2
    rw [← ht.trim_eq]
    exact List.ne_nil_of_mem (List.mem_of_mem_head? hc)
  rw [Text.trim, hstart, Text.trimEnd_append hend, trimEnd_cons_blank (by decide), if_neg hne, hs.trim_eq,
    ht.trim_eq]

/-- A text that is not empty and has no blanks. -/
structure IsWord (w : List Char) : Prop where
  nonempty : w ≠ []
  solid : ∀ c ∈ w, isBlank c = false

theorem IsWord.last {w : List Char} (h : IsWord w) : ∀ c ∈ w.getLast?, isBlank c = false :=
  fun c hc => h.solid c (List.mem_of_getLast? hc)

theorem IsWord.cons {w : List Char} {c : Char} (h : IsWord w) (hc : isBlank c = false) :
    IsWord (c :: w) :=
  ⟨by simp, fun d hd => by
    rcases List.mem_cons.1 hd with rfl | hd
    · exact hc
    · exact h.solid d hd⟩

theorem IsWord.trim_append {w : List Char} (h : IsWord w) (s : List Char) :
    trim (w ++ s) = w ++ trimEnd s := by
  obtain ⟨c, r, rfl⟩ := List.exists_cons_of_ne_nil h.nonempty
  rw [trim, List.cons_append, trimStart_of_head (h.solid c (by simp)), ← List.cons_append]
  exact trimEnd_append h.last s

theorem splitWord_trim (s : List Char) : splitWord (trim s) = splitWord s := by
  simp only [splitWord, trim_trim]

theorem splitWord_trimEnd (s : List Char) : splitWord (trimEnd s) = splitWord s := by
  simp only [splitWord, trim_trimEnd]

/-- A blank or the end of the text ends a word. -/
theorem splitWord_append {w rest : List Char} (h : IsWord w) (hrest : ∀ c ∈ rest.head?, isBlank c = true) :
    splitWord (w ++ rest) = (w, trim rest) := by
  have hw : ∀ c ∈ w, (!isBlank c) = true := fun c hc => by simp [h.solid c hc]
  rw [splitWord, h.trim_append, List.takeWhile_append_of_pos hw, List.dropWhile_append_of_pos hw]
  -- What is left of the rest still starts with the blank, so that the word ends there.
  have hr : (trimEnd rest).takeWhile (!isBlank ·) = [] ∧
      (trimEnd rest).dropWhile (!isBlank ·) = trimEnd rest := by
    cases he : trimEnd rest with
    | nil => simp
    | cons c s =>
      obtain ⟨t, ht⟩ : trimEnd rest <+: rest := List.rdropWhile_prefix isBlank rest
      rw [he] at ht
      have hc : isBlank c = true := hrest c (by simp [← ht])
      simp [hc]
  rw [hr.1, hr.2, trim_trimEnd, List.append_nil]

theorem splitWord_self {w : List Char} (h : IsWord w) : splitWord w = (w, []) := by
  have hs : splitWord (w ++ []) = (w, []) := splitWord_append h (by simp)
  rwa [List.append_nil] at hs

theorem splitWord_word {w : List Char} (h : IsWord w) (s : List Char) :
    splitWord (w ++ ' ' :: s) = (w, trim s) := by
  have hblank : isBlank ' ' = true := by decide
  rw [splitWord_append h (by simpa using hblank), trim_blank hblank]

/-- What a text is split into is the text, up to the blanks around its parts. -/
theorem splitWord_eq {s w r : List Char} (h : splitWord s = (w, r)) :
    ∃ rest, trim s = w ++ rest ∧ (∀ c ∈ rest.head?, isBlank c = true) ∧ r = trim rest := by
  obtain ⟨rfl, rfl⟩ := Prod.mk.inj h
  refine ⟨(trim s).dropWhile (!isBlank ·), List.takeWhile_append_dropWhile.symm, ?_, rfl⟩
  intro c hc
  have hstop := List.head?_dropWhile_not (!isBlank ·) (trim s)
  rw [Option.mem_def.1 hc] at hstop
  simpa using hstop

theorem splitWord_isWord {s : List Char} (h : EndsSolid s) : IsWord (splitWord s).1 := by
  obtain ⟨c, hc, hb⟩ := (solid_of_trimmed (trim_trim s) h.trim_ne_nil).1
  obtain ⟨r, hr⟩ := List.head?_eq_some_iff.1 hc
  refine ⟨?_, fun d hd => ?_⟩
  · simp [splitWord, hr, hb]
  · simpa using List.mem_takeWhile_imp hd

/-- What is added behind a text is added to its rest, and not to its first word. -/
theorem splitWord_append_solid {s t : List Char} (hs : EndsSolid s) (ht : StartsSolid t) :
    splitWord (s ++ ' ' :: t) = ((splitWord s).1,
      if (splitWord s).2 = [] then trim t else (splitWord s).2 ++ ' ' :: trim t) := by
  have hword := splitWord_isWord hs
  obtain ⟨gap, hgap, hblank, hrest⟩ := splitWord_eq (w := (splitWord s).1) (r := (splitWord s).2) rfl
  rw [← splitWord_trim, trim_append hs ht, hgap, List.append_assoc, hrest]
  by_cases hnil : gap = []
  · rw [hnil, List.nil_append, splitWord_word hword, trim_trim]
    rfl
  · have hend : EndsSolid gap := hs.trim.of_suffix (hgap ▸ List.suffix_append _ gap) hnil
    have hstart : ∀ c ∈ (gap ++ ' ' :: trim t).head?, isBlank c = true := by
      rwa [List.head?_append_of_ne_nil _ hnil]
    rw [splitWord_append hword hstart, trim_append hend ht.trim.2, trim_trim, if_neg hend.trim_ne_nil]

theorem intercalate_blank (front : List (List Char)) (a b : List Char) (ls : List (List Char)) :
    [' '].intercalate (front ++ (a ++ ' ' :: b) :: ls) = [' '].intercalate (front ++ a :: b :: ls) := by
  induction front with
  | nil => cases ls <;> simp [List.intercalate_cons_cons]
  | cons l front ih => cases front <;> simp_all [List.intercalate_cons_cons]

theorem pieces_ne_nil (c : Char) (s : List Char) : pieces c s ≠ [] := by
  induction s with
  | nil => simp [pieces]
  | cons d s ih =>
    rw [pieces]
    split
    · simp
    · split <;> simp

theorem pieces_of_not_mem {c : Char} {s : List Char} (h : c ∉ s) : pieces c s = [s] := by
  induction s with
  | nil => rfl
  | cons d s ih =>
    obtain ⟨hd, hs⟩ := not_or.1 (List.mem_cons.not.1 h)
    rw [pieces, if_neg (Ne.symm hd), ih hs]

theorem pieces_append_cons (c : Char) (s t : List Char) :
    pieces c (s ++ c :: t) = pieces c s ++ pieces c t := by
  induction s with
  | nil => simp [pieces]
  | cons d s ih =>
    rw [List.cons_append, pieces, pieces, ih]
    split
    · rfl
    · obtain ⟨p, ps, hp⟩ := List.exists_cons_of_ne_nil (pieces_ne_nil c s)
      rw [hp]
      rfl

theorem pieces_append {c : Char} {p : List Char} (h : c ∉ p) (s : List Char) :
    pieces c (p ++ c :: s) = p :: pieces c s := by
  rw [pieces_append_cons, pieces_of_not_mem h, List.singleton_append]

theorem pieces_intercalate {c : Char} {ps : List (List Char)} (hne : ps ≠ [])
    (h : ∀ p ∈ ps, c ∉ p) : pieces c ([c].intercalate ps) = ps := by
  induction ps with
  | nil => exact absurd rfl hne
  | cons p ps ih =>
    cases ps with
    | nil => simpa using pieces_of_not_mem (h p (by simp))
    | cons q qs =>
      have hq := ih (by simp) fun r hr => h r (List.mem_cons_of_mem _ hr)
      rw [List.intercalate_cons_cons, List.append_assoc, List.singleton_append,
        pieces_append (h p (by simp)), hq]

theorem pieces_subset {c : Char} {p s : List Char} (h : p ∈ pieces c s) : p ⊆ s := by
  induction s generalizing p with
  | nil =>
    rw [pieces, List.mem_singleton] at h
    simp [h]
  | cons d s ih =>
    obtain ⟨q, qs, hq⟩ := List.exists_cons_of_ne_nil (pieces_ne_nil c s)
    rw [hq] at ih
    rw [pieces, hq] at h
    split at h
    · rcases List.mem_cons.1 h with rfl | h
      · simp
      · exact List.subset_cons_of_subset d (ih h)
    · rcases List.mem_cons.1 h with rfl | h
      · exact List.cons_subset_cons d (ih (by simp))
      · exact List.subset_cons_of_subset d (ih (List.mem_cons_of_mem q h))

theorem not_mem_pieces {c : Char} {s p : List Char} (h : p ∈ pieces c s) : c ∉ p := by
  induction s generalizing p with
  | nil =>
    rw [pieces, List.mem_singleton] at h
    simp [h]
  | cons d s ih =>
    obtain ⟨q, qs, hq⟩ := List.exists_cons_of_ne_nil (pieces_ne_nil c s)
    rw [hq] at ih
    rw [pieces, hq] at h
    split at h
    · rcases List.mem_cons.1 h with rfl | h
      · simp
      · exact ih h
    · next hd =>
      rcases List.mem_cons.1 h with rfl | h
      · simp [Ne.symm hd, ih]
      · exact ih (List.mem_cons_of_mem q h)

theorem lines_append (s t : List Char) :
    lines (s ++ '\n' :: t) = (pieces '\n' s).map dropReturn ++ lines t := by
  obtain ⟨init, last, hp⟩ := List.eq_nil_or_concat (pieces '\n' t) |>.resolve_left (pieces_ne_nil '\n' t)
  rw [List.concat_eq_append] at hp
  have happ : pieces '\n' (s ++ '\n' :: t) = (pieces '\n' s ++ init) ++ [last] := by
    rw [pieces_append_cons, hp, List.append_assoc]
  simp only [lines, happ, hp, List.dropLast_concat, List.getLast?_concat, List.map_append]
  cases last with
  | nil => rfl
  | cons c r => exact List.append_assoc ..

/-- The line that a text starts with. -/
theorem lines_first {l rest : List Char} (h : '\n' ∉ l) (hne : l ≠ []) (hrest : ∀ c ∈ rest.head?, c = '\n') :
    ∃ l', lines (l ++ rest) = l' :: lines rest.tail ∧ (l' = l ∨ l' = dropReturn l) := by
  cases rest with
  | nil =>
    refine ⟨l, ?_, .inl rfl⟩
    obtain ⟨c, r, rfl⟩ := List.exists_cons_of_ne_nil hne
    rw [List.append_nil, lines, pieces_of_not_mem h]
    rfl
  | cons c rest =>
    obtain rfl := hrest c rfl
    refine ⟨dropReturn l, ?_, .inr rfl⟩
    rw [lines_append, pieces_of_not_mem h]
    rfl

theorem not_mem_afterLast {p : Char → Bool} {c : Char} (hc : p c = true) (s : List Char) : c ∉ afterLast p s := by
  intro h
  rw [afterLast, List.mem_reverse] at h
  simpa [hc] using List.mem_takeWhile_imp h

theorem afterLast_append {p : Char → Bool} {c : Char} {s : List Char} (hc : p c = true) (hs : ∀ d ∈ s, p d = false)
    (before : List Char) : afterLast p (before ++ c :: s) = s := by
  have hsplit : (before ++ c :: s).reverse = s.reverse ++ c :: before.reverse := by simp
  rw [afterLast, hsplit, List.takeWhile_append_of_pos (by simpa using hs), List.takeWhile_cons_of_neg (by simp [hc]),
    List.append_nil, List.reverse_reverse]

/-- Before the last part of a text there is nothing, or other parts and a separator. -/
theorem eq_append_afterLast (p : Char → Bool) (s : List Char) :
    s = afterLast p s ∨ ∃ before c, p c = true ∧ s = before ++ c :: afterLast p s := by
  have hsplit := congrArg List.reverse (List.takeWhile_append_dropWhile (p := (! p ·)) (l := s.reverse))
  rw [List.reverse_append, List.reverse_reverse] at hsplit
  cases hd : s.reverse.dropWhile (! p ·) with
  | nil => exact .inl (by simpa [hd, afterLast] using hsplit.symm)
  | cons c before =>
    have hc : p c = true := by
      have hstop := List.head?_dropWhile_not (! p ·) s.reverse
      rw [hd] at hstop
      simpa using hstop
    refine .inr ⟨before.reverse, c, hc, ?_⟩
    rw [hd, List.reverse_cons, List.append_assoc] at hsplit
    exact hsplit.symm

/-- A function that does not see carriage returns at the end of a line sees the lines as they were
written. -/
theorem map_lines_intercalate {f : List Char → α} (hf : ∀ l, f (dropReturn l) = f l)
    {ls : List (List Char)} (hne : ls ≠ []) (h : ∀ l ∈ ls, '\n' ∉ l) (hlast : ls.getLast? ≠ some []) :
    (lines (['\n'].intercalate ls)).map f = ls.map f := by
  obtain ⟨init, last, rfl⟩ := List.eq_nil_or_concat ls |>.resolve_left hne
  have hl : last ≠ [] := by simpa using hlast
  rw [lines, pieces_intercalate hne h]
  simp [hf]

theorem dropStart_of_not_prefix {start s : List Char} (h : ¬ start <+: s) : dropStart start s = s := by
  rw [dropStart, Option.getD_eq_iff]
  refine .inr ⟨Option.eq_none_iff_forall_ne_some.2 fun rest hr => h ⟨rest, ?_⟩, rfl⟩
  exact List.append_eq_of_isPrefixOf?_eq_some hr

theorem dropEnd_of_not_suffix {ending s : List Char} (h : ¬ ending <:+ s) : dropEnd ending s = s := by
  rw [dropEnd, Option.getD_eq_iff]
  refine .inr ⟨Option.eq_none_iff_forall_ne_some.2 fun rest hr => h ⟨rest, ?_⟩, rfl⟩
  exact List.isSuffixOf?_eq_some_iff_append_eq.1 hr

theorem dropStart_append (start s : List Char) : dropStart start (start ++ s) = s := by
  rw [dropStart, List.isPrefixOf?_eq_some_iff_append_eq.2 rfl, Option.getD_some]

theorem dropEnd_append (s ending : List Char) : dropEnd ending (s ++ ending) = s := by
  rw [dropEnd, List.isSuffixOf?_eq_some_iff_append_eq.2 rfl, Option.getD_some]

/-- An ending without some character does not reach back over it. -/
theorem suffix_of_suffix_append {e s t : List Char} {c : Char} (hc : c ∉ e) (h : e <:+ s ++ c :: t) :
    e <:+ t := by
  obtain ⟨r, hr⟩ := h
  rcases List.append_eq_append_iff.1 hr with ⟨m, -, hm⟩ | ⟨m, -, hm⟩
  · exact absurd (by simp [hm]) hc
  · cases m with
    | nil =>
      have he : e = c :: t := hm.symm
      exact absurd (by simp [he]) hc
    | cons d m => exact ⟨m, (List.cons.inj hm).2.symm⟩

/-- A start without some character does not reach over it. -/
theorem prefix_of_prefix_append {e s t : List Char} {c : Char} (hc : c ∉ e) (h : e <+: s ++ c :: t) : e <+: s := by
  rw [← List.reverse_suffix] at h ⊢
  rw [List.reverse_append, List.reverse_cons, List.append_assoc, List.singleton_append] at h
  exact suffix_of_suffix_append (by simpa using hc) h

theorem dropStart_append_cons {start : List Char} {c : Char} (hc : c ∉ start) (s t : List Char) :
    dropStart start (s ++ c :: t) = dropStart start s ++ c :: t := by
  by_cases h : start <+: s
  · obtain ⟨r, rfl⟩ := h
    rw [List.append_assoc, dropStart_append, dropStart_append]
  · have hs : dropStart start s = s := dropStart_of_not_prefix h
    rw [hs]
    exact dropStart_of_not_prefix fun hp => h (prefix_of_prefix_append hc hp)

theorem dropEnd_append_cons {ending : List Char} {c : Char} (hc : c ∉ ending) (s t : List Char) :
    dropEnd ending (s ++ c :: t) = s ++ c :: dropEnd ending t := by
  by_cases h : ending <:+ t
  · obtain ⟨r, rfl⟩ := h
    rw [dropEnd_append, ← List.cons_append, ← List.append_assoc, dropEnd_append]
  · rw [dropEnd_of_not_suffix h, dropEnd_of_not_suffix fun hs => h (suffix_of_suffix_append hc hs)]

theorem dropStart_suffix (start s : List Char) : dropStart start s <:+ s := by
  by_cases h : start <+: s
  · obtain ⟨r, rfl⟩ := h
    rw [dropStart_append]
    exact List.suffix_append start r
  · have hs : dropStart start s = s := dropStart_of_not_prefix h
    exact ⟨[], hs⟩

theorem dropEnd_isPrefix (ending s : List Char) : dropEnd ending s <+: s := by
  by_cases h : ending <:+ s
  · obtain ⟨r, rfl⟩ := h
    rw [dropEnd_append]
    exact List.prefix_append r ending
  · exact ⟨[], (List.append_nil _).trans (dropEnd_of_not_suffix h)⟩

theorem cut?_isSome_iff {part s : List Char} : (cut? part s).isSome = true ↔ part <:+: s := by
  induction s with
  | nil => cases part <;> simp [cut?]
  | cons c s ih =>
    rw [cut?, List.infix_cons_iff]
    cases h : part.isPrefixOf? (c :: s) with
    | some rest =>
      have hp := List.append_eq_of_isPrefixOf?_eq_some h
      simp only [Option.isSome_some, true_iff]
      exact .inl ⟨rest, hp⟩
    | none =>
      have hp : ¬ part <+: c :: s := by
        intro hx
        obtain ⟨rest, hr⟩ := hx
        simp [List.isPrefixOf?_eq_some_iff_append_eq.2 hr] at h
      simp [hp, ih]

/-- A part is cut out where its first character first occurs, if it stands there. -/
theorem cut?_append {c : Char} {before : List Char} (h : c ∉ before) (part after : List Char) :
    cut? (c :: part) (before ++ c :: (part ++ after)) = some (before, after) := by
  induction before with
  | nil =>
    have hself : (c :: part).isPrefixOf? (c :: (part ++ after)) = some after :=
      List.isPrefixOf?_eq_some_iff_append_eq.2 rfl
    rw [List.nil_append, cut?, hself]
  | cons d before ih =>
    obtain ⟨hd, hbefore⟩ := not_or.1 (List.mem_cons.not.1 h)
    have hother : (c :: part).isPrefixOf? (d :: (before ++ c :: (part ++ after))) = none := by
      simp [List.isPrefixOf?, hd]
    rw [List.cons_append, cut?, hother, ih hbefore]
    rfl

theorem containsText_iff {part s : List Char} : containsText part s = true ↔ part <:+: s :=
  cut?_isSome_iff

theorem without_go_append (part skipped s : List Char) :
    without.go part skipped.length (skipped ++ s) = without part s := by
  induction skipped with
  | nil => rfl
  | cons c skipped ih => exact ih

/-- An occurrence at the front is left out, and the text behind it is gone through in the same way. -/
theorem without_append {part : List Char} (hne : part ≠ []) (s : List Char) :
    without part (part ++ s) = without part s := by
  obtain ⟨c, rest, rfl⟩ := List.exists_cons_of_ne_nil hne
  have hfront : (c :: rest).isPrefixOf (c :: (rest ++ s)) = true :=
    List.isPrefixOf_iff_prefix.2 ⟨s, rfl⟩
  rw [List.cons_append, without, without.go, if_pos hfront]
  exact without_go_append (c :: rest) rest s

theorem without_cons {part : List Char} {c : Char} {s : List Char} (h : ¬ part <+: c :: s) :
    without part (c :: s) = c :: without part s := by
  rw [without, without.go, if_neg fun hp => h (List.isPrefixOf_iff_prefix.1 hp)]
  rfl

/-- Up to the first occurrence the text stays as it is. -/
theorem without_first {part before after : List Char} (hne : part ≠ [])
    (first : ∀ b a, before ++ (part ++ after) = b ++ (part ++ a) → before.length ≤ b.length) :
    without part (before ++ (part ++ after)) = before ++ without part after := by
  induction before with
  | nil => exact without_append hne after
  | cons c before ih =>
    have hfront : ¬ part <+: c :: (before ++ (part ++ after)) := by
      rintro ⟨a, ha⟩
      exact absurd (first [] a ha.symm) (by simp)
    rw [List.cons_append, without_cons hfront, ih, List.cons_append]
    intro b a hba
    exact Nat.le_of_succ_le_succ (first (c :: b) a (congrArg (c :: ·) hba))

theorem without_of_absent {part s : List Char} (h : ¬ part <:+: s) : without part s = s := by
  induction s with
  | nil => rfl
  | cons c s ih =>
    obtain ⟨hfront, hrest⟩ := not_or.1 (List.infix_cons_iff.not.1 h)
    rw [without_cons hfront, ih hrest]

/-- No character becomes more frequent, and those of a part that occurs become rarer. -/
theorem count_without {part : List Char} {c : Char} (hc : c ∈ part) (s : List Char) :
    (without part s).count c ≤ s.count c ∧ (part <:+: s → (without part s).count c < s.count c) := by
  have hne : part ≠ [] := List.ne_nil_of_mem hc
  -- An occurrence is left out at once, so that the rest is shorter by more than a character.
  induction hn : s.length using Nat.strongRecOn generalizing s with
  | _ n ih =>
    by_cases hfront : part <+: s
    · obtain ⟨rest, rfl⟩ := hfront
      have hshorter : rest.length < n := by
        have hpos := List.length_pos_of_ne_nil hne
        rw [← hn, List.length_append]
        omega
      have hrest := (ih rest.length hshorter rest rfl).1
      have hpart : 0 < part.count c := List.count_pos_iff.2 hc
      rw [without_append hne, List.count_append]
      omega
    · cases s with
      | nil => simp_all [without, without.go]
      | cons d s =>
        obtain ⟨hle, hlt⟩ := ih s.length (by simp [← hn]) s rfl
        rw [without_cons hfront, List.count_cons, List.count_cons]
        refine ⟨by omega, fun hoccurs => ?_⟩
        have hrest := hlt ((List.infix_cons_iff.1 hoccurs).resolve_left hfront)
        omega

theorem count_trim {c : Char} (h : isBlank c = false) (s : List Char) : (trim s).count c = s.count c := by
  have hstart (s : List Char) : (s.dropWhile isBlank).count c = s.count c := by
    have hsplit := congrArg (List.count c) (List.takeWhile_append_dropWhile (p := isBlank) (l := s))
    have hnone : (s.takeWhile isBlank).count c = 0 :=
      List.count_eq_zero.2 fun hm => absurd (List.mem_takeWhile_imp hm) (by simp [h])
    rw [List.count_append, hnone, Nat.zero_add] at hsplit
    exact hsplit
  rw [trim, trimEnd, List.count_reverse, hstart, List.count_reverse, trimStart, hstart]

/-- Trimming does not hide that an occurrence is left out, unless it is all blank. -/
theorem trim_append_without_eq_iff {part : List Char} {c : Char} (hc : c ∈ part) (hblank : isBlank c = false)
    (before after : List Char) :
    trim (before ++ without part after) = trim (before ++ after) ↔ ¬ part <:+: after := by
  constructor
  · intro heq hoccurs
    have hcount := congrArg (List.count c) heq
    rw [count_trim hblank, count_trim hblank, List.count_append, List.count_append] at hcount
    have hrarer := (count_without hc after).2 hoccurs
    omega
  · intro h
    rw [without_of_absent h]

/-- No character is in both sets. -/
def Ranges.Apart (a b : Ranges) : Prop := ∀ r ∈ a, ∀ q ∈ b, r.2 < q.1 ∨ q.2 < r.1

instance (a b : Ranges) : Decidable (Ranges.Apart a b) :=
  inferInstanceAs (Decidable (∀ r ∈ a, ∀ q ∈ b, r.2 < q.1 ∨ q.2 < r.1))

theorem Ranges.Apart.not_contains {a b : Ranges} (h : a.Apart b) {c : Char}
    (hc : a.contains c = true) : b.contains c = false := by
  obtain ⟨r, hr, hcr⟩ := List.any_eq_true.1 hc
  apply List.any_eq_false.2
  intro q hq hcq
  simp only [Bool.and_eq_true, decide_eq_true_eq] at hcr hcq
  rcases h r hr q hq with hlt | hlt <;> omega

theorem blanks_not_letters : Ranges.Apart blankRanges alphabeticRanges := by decide +kernel

theorem blanks_not_numbers : Ranges.Apart blankRanges numericRanges := by decide +kernel

theorem blank_ascii {c : Char} (h : isBlank c = true) (hc : c.toNat < 128) :
    (9 ≤ c.toNat ∧ c.toNat ≤ 13) ∨ c.toNat = 32 := by
  simp [isBlank, Ranges.contains, blankRanges] at h
  omega

theorem isAlphanum_iff {c : Char} : c.isAlphanum = true ↔
    (65 ≤ c.toNat ∧ c.toNat ≤ 90 ∨ 97 ≤ c.toNat ∧ c.toNat ≤ 122) ∨ 48 ≤ c.toNat ∧ c.toNat ≤ 57 := by
  change ((decide (c.val ≥ 'A'.val ∧ c.val ≤ 'Z'.val) ||
    (decide (c.val ≥ 'a'.val) && decide (c.val ≤ 'z'.val))) ||
    (decide (c.val ≥ '0'.val) && decide (c.val ≤ '9'.val))) = true ↔ _
  simp only [Bool.or_eq_true, Bool.and_eq_true, decide_eq_true_eq, ge_iff_le, UInt32.le_iff_toNat_le]
  rfl

theorem isAlphanumeric_of_ascii {c : Char} (h : c.isAlphanum = true) : isAlphanumeric c = true := by
  have hrange := isAlphanum_iff.1 h
  have hc : c.toNat < 128 := by omega
  have hsplit : (c.isAlpha || c.isDigit) = true := h
  simpa [isAlphanumeric, isAlphabetic, isNumeric, hc] using hsplit

theorem isAlphanumeric_of_blank {c : Char} (h : isBlank c = true) : isAlphanumeric c = false := by
  rw [isAlphanumeric, isAlphabetic, isNumeric]
  by_cases hc : c.toNat < 128
  · simp only [hc, if_true]
    change c.isAlphanum = false
    apply Bool.eq_false_iff.2
    intro ha
    have hb := blank_ascii h hc
    have hrange := isAlphanum_iff.1 ha
    omega
  · simp [hc, blanks_not_letters.not_contains h, blanks_not_numbers.not_contains h]

end RouteDocs.Text
