import RouteDocs.Proofs.Text
import RouteDocs.StatusCode

namespace RouteDocs.StatusCode

open Text

/-- A mark is the word, one blank or more, and one digit or more. -/
structure IsMark (mark digits : List Char) : Prop where
  mark_eq : ∃ gap, mark = "@code".toList ++ (List.replicate (gap + 1) ' ' ++ digits)
  numbered : digits ≠ []
  digit : ∀ c ∈ digits, isDecimalDigit c = true

/-- The first mark of a text, with what stands before and behind it. The mark goes on as long as digits follow. -/
structure FirstMark (before mark digits after text : List Char) : Prop where
  text_eq : text = before ++ (mark ++ after)
  marked : IsMark mark digits
  whole : ∀ c ∈ after.head?, isDecimalDigit c = false
  first : ∀ b m d a, text = b ++ (m ++ a) → IsMark m d → before.length ≤ b.length

variable {before mark digits after s text : List Char}

theorem IsMark.mem (h : IsMark mark digits) : '@' ∈ mark := by
  obtain ⟨⟨gap, rfl⟩, -, -⟩ := h
  exact List.mem_append_left _ (by decide)

theorem IsMark.ne_nil (h : IsMark mark digits) : mark ≠ [] := List.ne_nil_of_mem h.mem

theorem head_dropWhile (p : Char → Bool) (s : List Char) : ∀ c ∈ (s.dropWhile p).head?, p c = false := by
  intro c hc
  have hstop := List.head?_dropWhile_not p s
  rw [Option.mem_def.1 hc] at hstop
  simpa using hstop

/-- A run of characters ends before the first one of another kind. -/
theorem run_append {p : Char → Bool} {run rest : List Char} (hrun : ∀ c ∈ run, p c = true)
    (hrest : ∀ c ∈ rest.head?, p c = false) :
    (run ++ rest).takeWhile p = run ∧ (run ++ rest).dropWhile p = rest := by
  rw [List.takeWhile_append_of_pos hrun, List.dropWhile_append_of_pos hrun]
  cases rest with
  | nil => simp
  | cons c rest =>
    have hc : p c = false := hrest c rfl
    simp [hc]

theorem takeWhile_blanks {rest : List Char} (h : rest.head? = some ' ') :
    ∃ gap, rest.takeWhile (· = ' ') = List.replicate (gap + 1) ' ' := by
  obtain ⟨r, rfl⟩ := List.head?_eq_some_iff.1 h
  refine ⟨(r.takeWhile (· = ' ')).length, ?_⟩
  rw [List.takeWhile_cons_of_pos (by simp), List.replicate_succ]
  refine congrArg (' ' :: ·) (List.eq_replicate_iff.2 ⟨rfl, fun c hc => ?_⟩)
  simpa using List.mem_takeWhile_imp hc

theorem markAtFront?_eq_some (h : markAtFront? s = some (mark, digits)) :
    IsMark mark digits ∧ ∃ after, s = mark ++ after ∧ ∀ c ∈ after.head?, isDecimalDigit c = false := by
  simp only [markAtFront?, Option.bind_eq_bind, Option.bind_eq_some_iff,
    List.isPrefixOf?_eq_some_iff_append_eq] at h
  obtain ⟨rest, rfl, h⟩ := h
  split at h
  · next hcond =>
    obtain ⟨hhead, hne⟩ := Bool.and_eq_true_iff.1 hcond
    obtain ⟨rfl, rfl⟩ := Prod.mk.inj (Option.some.inj h)
    obtain ⟨gap, hgap⟩ := takeWhile_blanks (of_decide_eq_true hhead)
    refine ⟨⟨⟨gap, ?_⟩, ?_, fun c hc => List.mem_takeWhile_imp hc⟩,
      (rest.dropWhile (· = ' ')).dropWhile isDecimalDigit, ?_, head_dropWhile _ _⟩
    · rw [hgap, List.append_assoc]
    · simpa using hne
    · rw [List.append_assoc, List.takeWhile_append_dropWhile, List.append_assoc, List.takeWhile_append_dropWhile]
  · exact absurd h (by simp)

theorem IsMark.markAtFront? (h : IsMark mark digits) (hafter : ∀ c ∈ after.head?, isDecimalDigit c = false) :
    markAtFront? (mark ++ after) = some (mark, digits) := by
  obtain ⟨⟨gap, rfl⟩, hne, hdigit⟩ := h
  have hblanks : ∀ c ∈ List.replicate (gap + 1) ' ', decide (c = ' ') = true := by
    intro c hc
    simpa using List.eq_of_mem_replicate hc
  have hstop : ∀ c ∈ (digits ++ after).head?, decide (c = ' ') = false := by
    obtain ⟨d, ds, rfl⟩ := List.exists_cons_of_ne_nil hne
    intro c hc
    obtain rfl : d = c := by simpa using hc
    have hd : d ≠ ' ' := by
      rintro rfl
      exact absurd (hdigit ' ' List.mem_cons_self) (by decide)
    simpa using hd
  have hrest : "@code".toList.isPrefixOf? ("@code".toList ++ (List.replicate (gap + 1) ' ' ++ digits) ++ after) =
      some (List.replicate (gap + 1) ' ' ++ (digits ++ after)) := by
    rw [List.isPrefixOf?_eq_some_iff_append_eq, List.append_assoc, List.append_assoc]
  rw [StatusCode.markAtFront?, hrest]
  simp only [Option.bind_eq_bind, Option.bind_some, run_append hblanks hstop, run_append hdigit hafter]
  simp [List.replicate_succ, hne]

/-- Where a mark stands, one is found, though it may have more digits. -/
theorem IsMark.markAtFront?_ne_none (h : IsMark mark digits) (hs : mark <+: s) :
    StatusCode.markAtFront? s ≠ none := by
  obtain ⟨⟨gap, rfl⟩, hne, hdigit⟩ := h
  obtain ⟨rest, rfl⟩ := hs
  have hlonger : IsMark ("@code".toList ++ (List.replicate (gap + 1) ' ' ++ (digits ++ rest.takeWhile isDecimalDigit)))
      (digits ++ rest.takeWhile isDecimalDigit) := by
    refine ⟨⟨gap, rfl⟩, by simp [hne], fun c hc => ?_⟩
    rcases List.mem_append.1 hc with hc | hc
    · exact hdigit c hc
    · exact List.mem_takeWhile_imp hc
  have hfound := hlonger.markAtFront? (head_dropWhile isDecimalDigit rest)
  simp only [List.append_assoc, List.takeWhile_append_dropWhile] at hfound ⊢
  rw [hfound]
  exact Option.some_ne_none _

theorem mark?_cons (c : Char) (s : List Char) : mark? (c :: s) = (markAtFront? (c :: s)).or (mark? s) := by
  rw [mark?, Option.orElse_eq_orElse, Option.orElse_eq_or]

theorem FirstMark.here (h : IsMark mark digits) (hs : s = mark ++ after)
    (whole : ∀ c ∈ after.head?, isDecimalDigit c = false) : FirstMark [] mark digits after s :=
  ⟨hs, h, whole, fun _ _ _ _ _ _ => Nat.zero_le _⟩

theorem FirstMark.cons {c : Char} (h : FirstMark before mark digits after s) (hc : markAtFront? (c :: s) = none) :
    FirstMark (c :: before) mark digits after (c :: s) where
  text_eq := congrArg (c :: ·) h.text_eq
  marked := h.marked
  whole := h.whole
  first b m d a hs hm := by
    cases b with
    | nil => exact absurd hc (hm.markAtFront?_ne_none ⟨a, hs.symm⟩)
    | cons e b => exact Nat.succ_le_succ (h.first b m d a (List.cons.inj hs).2 hm)

theorem FirstMark.append (h : FirstMark before mark digits after s) (front : List Char)
    (hfront : ∀ k < front.length, markAtFront? (front.drop k ++ s) = none) :
    FirstMark (front ++ before) mark digits after (front ++ s) := by
  induction front with
  | nil => exact h
  | cons c front ih =>
    refine (ih fun k hk => ?_).cons (hfront 0 (by simp))
    exact hfront (k + 1) (Nat.succ_lt_succ hk)

theorem FirstMark.tail {c : Char} (h : FirstMark (c :: before) mark digits after text) :
    markAtFront? text = none ∧ ∃ s, text = c :: s ∧ FirstMark before mark digits after s := by
  obtain ⟨rfl, hmark, hafter, hfirst⟩ := h
  constructor
  · by_contra hne
    obtain ⟨⟨m, d⟩, hm⟩ := Option.ne_none_iff_exists'.1 hne
    obtain ⟨hmd, a, ha, -⟩ := markAtFront?_eq_some hm
    exact absurd (hfirst [] m d a ha hmd) (by simp)
  · refine ⟨_, rfl, rfl, hmark, hafter, fun b m d a hs hm => ?_⟩
    exact Nat.le_of_succ_le_succ (hfirst (c :: b) m d a (congrArg (c :: ·) hs) hm)

theorem FirstMark.mark? (h : FirstMark before mark digits after text) : mark? text = some (mark, digits) := by
  induction before generalizing text with
  | nil =>
    have hfound := h.marked.markAtFront? h.whole
    obtain ⟨c, r, hcr⟩ := List.exists_cons_of_ne_nil h.marked.ne_nil
    rw [h.text_eq, List.nil_append]
    rw [hcr] at hfound ⊢
    rw [List.cons_append, mark?_cons, ← List.cons_append, hfound, Option.some_or]
  | cons c before ih =>
    obtain ⟨hnone, s, rfl, hs⟩ := h.tail
    rw [mark?_cons, hnone, Option.none_or]
    exact ih hs

/-- The mark that is found is the first one. -/
theorem mark?_eq_some_iff : StatusCode.mark? s = some (mark, digits) ↔
    ∃ before after, FirstMark before mark digits after s := by
  constructor
  · intro h
    induction s with
    | nil => exact absurd h (by simp [StatusCode.mark?])
    | cons c s ih =>
      rw [mark?_cons, Option.or_eq_some_iff] at h
      rcases h with h | ⟨hc, h⟩
      · obtain ⟨hmark, after, hs, hafter⟩ := markAtFront?_eq_some h
        exact ⟨[], after, .here hmark hs hafter⟩
      · obtain ⟨before, after, hfirst⟩ := ih h
        exact ⟨c :: before, after, hfirst.cons hc⟩
  · rintro ⟨before, after, h⟩
    exact h.mark?

theorem mark?_eq_none_iff : StatusCode.mark? s = none ↔ ∀ m d, IsMark m d → ¬ m <:+: s := by
  constructor
  · intro h m d hm
    induction s with
    | nil => simpa using hm.ne_nil
    | cons c s ih =>
      rw [mark?_cons, Option.or_eq_none_iff] at h
      rw [List.infix_cons_iff, not_or]
      exact ⟨fun hfront => hm.markAtFront?_ne_none hfront h.1, ih h.2⟩
  · intro h
    by_contra hne
    obtain ⟨⟨m, d⟩, hm⟩ := Option.ne_none_iff_exists'.1 hne
    obtain ⟨before, after, hfirst⟩ := mark?_eq_some_iff.1 hm
    exact h m d hfirst.marked ⟨before, after, by rw [hfirst.text_eq, List.append_assoc]⟩

theorem exists_firstMark (h : IsMark mark digits) (hs : mark <:+: s) :
    ∃ before mark digits after, FirstMark before mark digits after s := by
  obtain ⟨⟨m, d⟩, hm⟩ := Option.ne_none_iff_exists'.1 fun hnone => mark?_eq_none_iff.1 hnone mark digits h hs
  obtain ⟨before, after, hfirst⟩ := mark?_eq_some_iff.1 hm
  exact ⟨before, m, d, after, hfirst⟩

/-- A text has one first mark at most. -/
theorem FirstMark.unique {b m d a : List Char} (h : FirstMark before mark digits after text)
    (h' : FirstMark b m d a text) : b = before ∧ m = mark ∧ d = digits ∧ a = after := by
  obtain ⟨rfl, rfl⟩ := Prod.mk.inj (Option.some.inj (h'.mark?.symm.trans h.mark?))
  have hlength : b.length = before.length :=
    Nat.le_antisymm (h'.first before m d after h.text_eq h.marked) (h.first b m d a h'.text_eq h'.marked)
  obtain ⟨hbefore, hrest⟩ := List.append_inj (h'.text_eq.symm.trans h.text_eq) hlength
  exact ⟨hbefore, rfl, rfl, List.append_cancel_left hrest⟩

/-- A description without a mark has the default code and stays as it is. Otherwise the code is that of the first mark,
and nothing but this mark is left out. -/
structure LeavesOutFirst (description default : String) : Prop where
  unmarked : (∀ mark digits, IsMark mark digits → ¬ mark <:+: description.toList) →
    extract description default = (default, description)
  marked : ∀ before mark digits after, FirstMark before mark digits after description.toList →
    extract description default = (String.ofList digits, String.ofList (trim (before ++ after)))

section

variable {description : String}

theorem extract_unmarked (default : String) (h : ∀ mark digits, IsMark mark digits → ¬ mark <:+: description.toList) :
    extract description default = (default, description) := by
  simp only [extract, mark?_eq_none_iff.2 h]

/-- The mark is left out, and behind it everything that is spelled the same. -/
theorem FirstMark.extract_eq (h : FirstMark before mark digits after description.toList) (default : String) :
    extract description default = (String.ofList digits, String.ofList (trim (before ++ without mark after))) := by
  have hwithout : without mark description.toList = before ++ without mark after := by
    rw [h.text_eq]
    refine without_first h.marked.ne_nil fun b a hba => ?_
    exact h.first b mark digits a (h.text_eq.trans hba) h.marked
  simp only [extract, h.mark?, hwithout]

theorem FirstMark.extract_eq_iff (h : FirstMark before mark digits after description.toList) (default : String) :
    extract description default = (String.ofList digits, String.ofList (trim (before ++ after))) ↔
      ¬ mark <:+: after := by
  rw [h.extract_eq default, ← trim_append_without_eq_iff h.marked.mem (by decide) before after]
  simp [String.ofList_inj]

/-- Nothing but the first mark is left out exactly if nothing behind it is spelled the same. Whatever the description
is, the code is that of the first mark, and all that is left out is the mark and what is spelled like it. -/
theorem extract_leavesOutFirst_iff (description default : String) :
    (LeavesOutFirst description default ↔
      ∀ before mark digits after, FirstMark before mark digits after description.toList → ¬ mark <:+: after) ∧
    ((∀ mark digits, IsMark mark digits → ¬ mark <:+: description.toList) →
      extract description default = (default, description)) ∧
    ((∃ mark digits, IsMark mark digits ∧ mark <:+: description.toList) →
      ∃ before mark digits after, FirstMark before mark digits after description.toList) ∧
    ∀ before mark digits after, FirstMark before mark digits after description.toList →
      extract description default =
        (String.ofList digits, String.ofList (trim (before ++ without mark after))) := by
  refine ⟨⟨fun h before mark digits after hfirst => ?_, fun h => ⟨extract_unmarked default, ?_⟩⟩,
    extract_unmarked default, ?_, fun _ _ _ _ hfirst => hfirst.extract_eq default⟩
  · exact (hfirst.extract_eq_iff default).1 (h.marked before mark digits after hfirst)
  · intro before mark digits after hfirst
    exact (hfirst.extract_eq_iff default).2 (h before mark digits after hfirst)
  · rintro ⟨mark, digits, hmark, hs⟩
    exact exists_firstMark hmark hs

end

/-- Before the first mark stands one without a number, and behind it two that are spelled in another way. -/
def gone : String := "@code x Gone @code  404, see @code 40 and @code 404"

theorem extract_leavesOutFirst_gone :
    FirstMark "@code x Gone ".toList "@code  404".toList "404".toList ", see @code 40 and @code 404".toList
      gone.toList ∧
    LeavesOutFirst gone "500" ∧
    extract gone "500" = ("404", "@code x Gone , see @code 40 and @code 404") := by
  have hmark : IsMark "@code  404".toList "404".toList :=
    ⟨⟨1, by decide⟩, by decide, List.all_eq_true.1 (by decide)⟩
  have htext : gone.toList = "@code x Gone ".toList ++
      ("@code  404".toList ++ ", see @code 40 and @code 404".toList) := by decide +kernel
  have hhere : FirstMark [] "@code  404".toList "404".toList ", see @code 40 and @code 404".toList
      ("@code  404".toList ++ ", see @code 40 and @code 404".toList) :=
    .here hmark rfl (by simp [isDecimalDigit])
  have hfirst : FirstMark "@code x Gone ".toList "@code  404".toList "404".toList
      ", see @code 40 and @code 404".toList gone.toList := by
    have hfront := hhere.append "@code x Gone ".toList (by decide +kernel)
    rw [htext]
    simpa using hfront
  obtain ⟨hiff, -, -, -⟩ := extract_leavesOutFirst_iff gone "500"
  have hleaves : LeavesOutFirst gone "500" := by
    refine hiff.2 fun b m d a h => ?_
    obtain ⟨-, rfl, -, rfl⟩ := hfirst.unique h
    decide +kernel
  have hextract := hleaves.marked _ _ _ _ hfirst
  refine ⟨hfirst, hleaves, hextract.trans ?_⟩
  decide +kernel

/-- The front of a longer number is left out as well. -/
theorem not_leavesOutFirst_404 : ¬ LeavesOutFirst "@code 40 and @code 404" "200" := by
  intro h
  have hmark : IsMark "@code 40".toList "40".toList := ⟨⟨0, by decide⟩, by decide, List.all_eq_true.1 (by decide)⟩
  have hfirst : FirstMark [] "@code 40".toList "40".toList " and @code 404".toList
      "@code 40 and @code 404".toList :=
    .here hmark (by decide +kernel) (by simp [isDecimalDigit])
  have hextract := h.marked _ _ _ _ hfirst
  revert hextract
  decide +kernel

end RouteDocs.StatusCode
