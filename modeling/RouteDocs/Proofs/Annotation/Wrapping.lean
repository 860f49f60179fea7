import RouteDocs.Proofs.Annotation.Outline
import RouteDocs.Proofs.Annotation.Written

namespace RouteDocs

open Text

namespace Annotation

/-- Two halves of a line that can stand on lines of their own. -/
structure Breakable (u v : List Char) : Prop where
  ended : EndsSolid u
  begun : StartsSolid v
  unclosed : ¬ ['*', '/'] <:+ trim u
  nonempty : cleanLine u ≠ []
  unbare : cleanLine u ≠ ['@']
  untagged : v.head? ≠ some '@'
  unstarred : v.head? ≠ some '*'
  unopened : ¬ ['/', '*', '*'] <+: v

/-- A line without the star at its start. -/
def unstar (line : List Char) : List Char :=
  match line with
  | '*' :: rest => trim rest
  | _ => line

theorem cleanLine_eq (line : List Char) : cleanLine line =
    unstar (trim (dropEnd ['*', '/'] (dropStart ['/', '*', '*'] (trim line)))) := rfl

theorem unstar_of_head {line : List Char} (h : line.head? ≠ some '*') : unstar line = line := by
  unfold unstar
  split
  · exact absurd rfl h
  · rfl

theorem trim_unstar (line : List Char) (h : trim line = line) : trim (unstar line) = unstar line := by
  unfold unstar
  split
  · exact trim_trim _
  · exact h

theorem trim_cleanLine (line : List Char) : trim (cleanLine line) = cleanLine line := by
  rw [cleanLine_eq]
  exact trim_unstar _ (trim_trim _)

theorem unstar_append {s t : List Char} (hs : EndsSolid s) (hne : unstar s ≠ []) (ht : StartsSolid t)
    (htrim : trim t = t) : unstar (s ++ ' ' :: t) = unstar s ++ ' ' :: t := by
  by_cases hstar : s.head? = some '*'
  · obtain ⟨r, rfl⟩ := List.head?_eq_some_iff.1 hstar
    have hr : r ≠ [] := by
      rintro rfl
      exact hne rfl
    have hend : EndsSolid r := hs.of_suffix (List.suffix_cons '*' r) hr
    change trim (r ++ ' ' :: t) = trim r ++ ' ' :: t
    rw [trim_append hend ht, htrim]
  · have happend : (s ++ ' ' :: t).head? ≠ some '*' := by
      obtain ⟨c, hc, -⟩ := hs
      rwa [List.head?_append_of_ne_nil _ (List.ne_nil_of_mem (List.mem_of_getLast? hc))]
    rw [unstar_of_head hstar, unstar_of_head happend]

namespace Breakable

variable {u v : List Char}

/-- What is cleaned off the second half is the end of the comment only. -/
theorem second (h : Breakable u v) : dropStart ['/', '*', '*'] (trim v) = trim v ∧
    (dropEnd ['*', '/'] (trim v)).head? = v.head? ∧ StartsSolid (dropEnd ['*', '/'] (trim v)) := by
  obtain ⟨hhead, hsolid⟩ := h.begun.trim
  have hprefix : trim v <+: v := h.begun.trim_eq ▸ List.rdropWhile_prefix isBlank v
  have hne : dropEnd ['*', '/'] (trim v) ≠ [] := by
    by_cases hend : ['*', '/'] <:+ trim v
    · obtain ⟨r, hr⟩ := hend
      rw [← hr, dropEnd_append]
      rintro rfl
      exact h.unstarred (by rw [← hhead, ← hr]; rfl)
    · obtain ⟨c, hc, -⟩ := hsolid
      rw [dropEnd_of_not_suffix hend]
      exact List.ne_nil_of_mem (List.mem_of_mem_head? hc)
  obtain ⟨hsame, hstart⟩ := hsolid.of_prefix (dropEnd_isPrefix _ _) hne
  refine ⟨?_, hsame.trans hhead, hstart⟩
  exact dropStart_of_not_prefix fun hp => h.unopened (hp.trans hprefix)

theorem cleanLine_second (h : Breakable u v) : cleanLine v = trim (dropEnd ['*', '/'] (trim v)) ∧
    (cleanLine v).head? = v.head? := by
  obtain ⟨hopen, hhead, hsolid⟩ := h.second
  have htrim := hsolid.trim.1.trans hhead
  have hclean : cleanLine v = trim (dropEnd ['*', '/'] (trim v)) := by
    rw [cleanLine_eq, hopen, unstar_of_head (htrim ▸ h.unstarred)]
  exact ⟨hclean, hclean ▸ htrim⟩

/-- What is cleaned off the first half is the start of the comment only. -/
theorem cleanLine_first (h : Breakable u v) :
    cleanLine u = unstar (trim (dropStart ['/', '*', '*'] (trim u))) ∧
      EndsSolid (dropStart ['/', '*', '*'] (trim u)) := by
  have hsuffix := dropStart_suffix ['/', '*', '*'] (trim u)
  have hclean : cleanLine u = unstar (trim (dropStart ['/', '*', '*'] (trim u))) := by
    rw [cleanLine_eq, dropEnd_of_not_suffix fun hs => h.unclosed (hs.trans hsuffix)]
  refine ⟨hclean, h.ended.trim.of_suffix hsuffix fun hnil => h.nonempty ?_⟩
  rw [hclean, hnil]
  rfl

/-- The whole line is cleaned as its halves are. -/
theorem cleanLine_append (h : Breakable u v) : cleanLine (u ++ ' ' :: v) = cleanLine u ++ ' ' :: cleanLine v := by
  obtain ⟨hopen, -, hsecond⟩ := h.second
  obtain ⟨hu, hfirst⟩ := h.cleanLine_first
  rw [cleanLine_eq, trim_append h.ended h.begun, dropStart_append_cons (by decide), dropEnd_append_cons (by decide),
    trim_append hfirst hsecond, unstar_append hfirst.trim (hu ▸ h.nonempty) hsecond.trim.2 (trim_trim _),
    h.cleanLine_second.1, hu]

end Breakable

theorem Block.continue_continue {u v : List Char} (hu : u ≠ []) (hv : v ≠ []) (b : Block) :
    (b.continue u).continue v = b.continue (u ++ ' ' :: v) := by
  obtain ⟨name, body⟩ := b
  by_cases hb : body = [] <;> simp [Block.continue, hu, hv, hb]

/-- Drafts that differ at most in where the lines of the summary are broken. -/
structure Draft.Alike (d d' : Draft) : Prop where
  blocks : d.blocks = d'.blocks
  closed : d.closed = d'.closed
  nonempty : d.summary = [] ↔ d'.summary = []
  joined : ∀ ls, [' '].intercalate (d.summary ++ ls) = [' '].intercalate (d'.summary ++ ls)

namespace Draft

theorem Alike.refl (d : Draft) : d.Alike d := ⟨rfl, rfl, .rfl, fun _ => rfl⟩

theorem Alike.isEmpty_eq {d d' : Draft} (h : d.Alike d') : d.summary.isEmpty = d'.summary.isEmpty := by
  rw [Bool.eq_iff_iff, List.isEmpty_iff, List.isEmpty_iff]
  exact h.nonempty

theorem Alike.add {d d' : Draft} (h : d.Alike d') (line : List Char) : Paired Alike (d.add line) (d'.add line) := by
  have hempty := h.isEmpty_eq
  obtain ⟨summary, closed, blocks⟩ := d
  obtain ⟨summary', closed', blocks'⟩ := d'
  obtain ⟨rfl, rfl, hnonempty, hjoined⟩ := h
  by_cases hl : IsTagLine line
  · obtain ⟨heading, rfl⟩ := isTagLine_iff.1 hl
    cases named : isTagName (splitWord heading).1 with
    | true =>
      rw [add_named rfl named, add_named rfl named]
      exact .ok ⟨rfl, rfl, hnonempty, hjoined⟩
    | false =>
      rw [add_misnamed rfl named, add_misnamed rfl named]
      exact .error _
  · cases blocks with
    | cons b bs =>
      rw [add_continuation hl _ rfl, add_continuation hl _ rfl]
      exact .ok ⟨rfl, rfl, hnonempty, hjoined⟩
    | nil =>
      by_cases hne : line = []
      · subst hne
        rw [add_blank _ rfl, add_blank _ rfl]
        exact .ok ⟨rfl, by rw [hempty], hnonempty, hjoined⟩
      · rw [add_text rfl hl hne, add_text rfl hl hne]
        cases closed with
        | true => exact .ok ⟨rfl, rfl, hnonempty, hjoined⟩
        | false =>
          refine .ok ⟨rfl, rfl, by simp, fun ls => ?_⟩
          simpa using hjoined (line :: ls)

theorem Alike.annotation {d d' : Draft} (h : d.Alike d') (strict : Bool) :
    d.annotation strict = d'.annotation strict := by
  have hjoined := h.joined []
  rw [List.append_nil, List.append_nil] at hjoined
  rw [Draft.annotation, Draft.annotation, h.blocks, h.isEmpty_eq, hjoined]

/-- A tag line opens its block with the text up to the break, and the rest continues that block. -/
theorem add_broken_heading {heading v : List Char} (hheading : EndsSolid heading) (hstart : StartsSolid v)
    (hv : trim v = v) (hne : v ≠ []) (htag : ¬ IsTagLine v) (d : Draft) :
    Agree Alike (d.add ('@' :: (heading ++ ' ' :: v))) (d.add ('@' :: heading) >>= fun d => d.add v) := by
  obtain ⟨⟨name, body⟩, hfirst⟩ : ∃ p, splitWord heading = p := ⟨_, rfl⟩
  have hboth := splitWord_append_solid hheading hstart
  rw [hv, hfirst] at hboth
  have hblock : Block.continue ⟨name, body⟩ v = ⟨name, if body = [] then v else body ++ ' ' :: v⟩ := by
    by_cases hbody : body = [] <;> simp [Block.continue, hne, hbody]
  cases named : isTagName name with
  | true =>
    rw [add_named hboth named, add_named hfirst named, ok_bind, add_continuation htag _ rfl, hblock]
    exact .ok (.refl _)
  | false =>
    rw [add_misnamed hboth named, add_misnamed hfirst named, error_bind]
    exact .error _ _

/-- Any other line continues the block before it, or the summary. -/
theorem add_broken_text {u v : List Char} (hu : u ≠ []) (hv : v ≠ []) (hl : ¬ IsTagLine u) (htag : ¬ IsTagLine v)
    (d : Draft) : Agree Alike (d.add (u ++ ' ' :: v)) (d.add u >>= fun d => d.add v) := by
  have hwhole : ¬ IsTagLine (u ++ ' ' :: v) := by
    rwa [IsTagLine, List.head?_append_of_ne_nil _ hu]
  cases hd : d.blocks with
  | cons b bs =>
    rw [add_continuation hwhole d hd, add_continuation hl d hd, ok_bind, add_continuation htag _ rfl,
      Block.continue_continue hu hv]
    exact .ok (.refl _)
  | nil =>
    rw [add_text hd hwhole (by simp), add_text hd hl hu, ok_bind]
    cases hclosed : d.closed with
    | true =>
      rw [if_pos rfl, if_pos rfl, add_text hd htag hv, if_pos hclosed]
      exact .ok (.refl _)
    | false =>
      rw [if_neg (by decide), if_neg (by decide), add_text (by exact hd) htag hv, if_neg (by simp)]
      refine .ok ⟨rfl, rfl, by simp, fun ls => ?_⟩
      simpa using intercalate_blank d.summary u v ls

/-- A line has the effect of its halves one after the other. If it opens a tag, the first half does too. -/
theorem add_broken {u v : List Char} (hu : trim u = u) (hne : u ≠ []) (hbare : u ≠ ['@']) (hv : trim v = v)
    (hv' : v ≠ []) (htag : ¬ IsTagLine v) (d : Draft) :
    Agree Alike (d.add (u ++ ' ' :: v)) (d.add u >>= fun d => d.add v) := by
  by_cases hl : IsTagLine u
  · obtain ⟨heading, rfl⟩ := isTagLine_iff.1 hl
    have hheading : EndsSolid heading := by
      refine (solid_of_trimmed hu hne).2.of_suffix (List.suffix_cons '@' heading) ?_
      rintro rfl
      exact hbare rfl
    exact add_broken_heading hheading (solid_of_trimmed hv hv').1 hv hv' htag d
  · exact add_broken_text hne hv' hl htag d

end Draft

theorem map_lines_first {l rest : List Char} (h : '\n' ∉ l) (hne : l ≠ []) (hrest : ∀ c ∈ rest.head?, c = '\n') :
    (lines (l ++ rest)).map cleanLine = cleanLine l :: (lines rest.tail).map cleanLine := by
  obtain ⟨l', hlines, rfl | rfl⟩ := lines_first h hne hrest
  · rw [hlines, List.map_cons]
  · rw [hlines, List.map_cons, cleanLine_dropReturn]

/-- Where a text is broken, one line becomes two. -/
theorem map_lines_broken {u v rest : List Char} (hu : '\n' ∉ u) (hv : '\n' ∉ v) (hne : v ≠ [])
    (hrest : ∀ c ∈ rest.head?, c = '\n') : ∃ after,
      (lines (u ++ ' ' :: (v ++ rest))).map cleanLine = cleanLine (u ++ ' ' :: v) :: after ∧
      (lines (u ++ '\n' :: (v ++ rest))).map cleanLine = cleanLine u :: cleanLine v :: after := by
  refine ⟨(lines rest.tail).map cleanLine, ?_, ?_⟩
  · rw [← List.cons_append, ← List.append_assoc, map_lines_first (by simp [hu, hv]) (by simp) hrest]
  · rw [lines_append, pieces_of_not_mem hu, List.map_append, map_lines_first hv hne hrest]
    simp [cleanLine_dropReturn]

/-- The lines before the break are the same, and so are those behind it. -/
theorem exists_lines_broken {a b : List Char} (hne : b.takeWhile (· ≠ '\n') ≠ []) : ∃ before after,
    (lines (a ++ ' ' :: b)).map cleanLine =
      before ++ cleanLine (afterLast (· == '\n') a ++ ' ' :: b.takeWhile (· ≠ '\n')) :: after ∧
    (lines (a ++ '\n' :: b)).map cleanLine =
      before ++ cleanLine (afterLast (· == '\n') a) :: cleanLine (b.takeWhile (· ≠ '\n')) :: after := by
  have hv : '\n' ∉ b.takeWhile (· ≠ '\n') := fun hm => absurd (List.mem_takeWhile_imp hm) (by simp)
  have hrest : ∀ c ∈ (b.dropWhile (· ≠ '\n')).head?, c = '\n' := by
    intro c hc
    have hstop := List.head?_dropWhile_not (· ≠ '\n') b
    rw [Option.mem_def.1 hc] at hstop
    simpa using hstop
  obtain ⟨after, hwhole, hbroken⟩ := map_lines_broken (not_mem_afterLast (p := (· == '\n')) rfl a) hv hne hrest
  rw [List.takeWhile_append_dropWhile] at hwhole hbroken
  rcases eq_append_afterLast (· == '\n') a with ha | ⟨before, c, hc, ha⟩
  · refine ⟨[], after, ?_, ?_⟩
    · rw [List.nil_append, ← hwhole, ← ha]
    · rw [List.nil_append, ← hbroken, ← ha]
  · obtain rfl : c = '\n' := by simpa using hc
    refine ⟨((pieces '\n' before).map dropReturn).map cleanLine, after, ?_, ?_⟩
    · rw [← hwhole, ← List.map_append, ← lines_append, ← List.cons_append, ← List.append_assoc, ← ha]
    · rw [← hbroken, ← List.map_append, ← lines_append, ← List.cons_append, ← List.append_assoc, ← ha]

theorem read_broken {a b : List Char} (strict : Bool)
    (h : Breakable (afterLast (· == '\n') a) (b.takeWhile (· ≠ '\n'))) :
    Agree Eq (read strict (a ++ ' ' :: b)) (read strict (a ++ '\n' :: b)) := by
  obtain ⟨-, hhead⟩ := h.cleanLine_second
  have hne : b.takeWhile (· ≠ '\n') ≠ [] := by
    obtain ⟨c, hc, -⟩ := h.begun
    exact List.ne_nil_of_mem (List.mem_of_mem_head? hc)
  obtain ⟨before, after, hwhole, hbroken⟩ := exists_lines_broken (a := a) hne
  rw [read, read, hwhole, hbroken, h.cleanLine_append]
  generalize b.takeWhile (· ≠ '\n') = v at *
  generalize afterLast (· == '\n') a = u at *
  have hsecond : cleanLine v ≠ [] := by
    intro he
    rw [he] at hhead
    exact hne (List.head?_eq_none_iff.1 hhead.symm)
  have htag : ¬ IsTagLine (cleanLine v) := by
    rw [IsTagLine, hhead]
    exact h.untagged
  have hbreak := Draft.add_broken (trim_cleanLine u) h.nonempty h.unbare (trim_cleanLine v) hsecond htag
  simp only [List.foldlM_append, List.foldlM_cons, bind_assoc]
  -- Up to the break the two runs are one. Behind it their drafts are alike, and this is kept to the end.
  refine (Agree.refl (fun _ => rfl) (before.foldlM Draft.add {})).bind ?_
  rintro d _ rfl
  rw [← bind_assoc (x := d.add (cleanLine u))]
  refine (hbreak d).bind fun d d' hd => ?_
  refine (Paired.foldlM (fun _ _ line hs => Draft.Alike.add hs line) hd after).agree.bind fun d d' hd => ?_
  rw [hd.annotation]
  exact .refl (fun _ => rfl) _

/-- Where a line may be broken, breaking it changes nothing but the text of a failure. -/
theorem parse_wrapped {a b : String}
    (h : Breakable (afterLast (· == '\n') a.toList) (b.toList.takeWhile (· ≠ '\n'))) :
    (parse (a ++ " " ++ b)).toOption = (parse (a ++ "\n" ++ b)).toOption := by
  have hagree := (read_broken false h).toOption_eq
  have hwhole : (a ++ " " ++ b).toList = a.toList ++ ' ' :: b.toList := by simp
  have hbroken : (a ++ "\n" ++ b).toList = a.toList ++ '\n' :: b.toList := by simp
  rwa [parse, parse, hwhole, hbroken]

/-- The break is in a list of fields, behind the start of the comment and before its end. -/
theorem parse_wrapped_page :
    Breakable (afterLast (· == '\n') "/** Finds orders.\n/** @param Query $page [int $page,".toList)
      ("string $sort] */\n@return Json<Order>".toList.takeWhile (· ≠ '\n')) ∧
    (parse ("/** Finds orders.\n/** @param Query $page [int $page," ++ " " ++
        "string $sort] */\n@return Json<Order>")).toOption =
      (parse ("/** Finds orders.\n/** @param Query $page [int $page," ++ "\n" ++
        "string $sort] */\n@return Json<Order>")).toOption := by
  have hbreak : Breakable (afterLast (· == '\n') "/** Finds orders.\n/** @param Query $page [int $page,".toList)
      ("string $sort] */\n@return Json<Order>".toList.takeWhile (· ≠ '\n')) :=
    ⟨⟨',', by decide, by decide⟩, ⟨'s', by decide, by decide⟩, by decide, by decide, by decide, by decide,
      by decide, by decide⟩
  exact ⟨hbreak, parse_wrapped hbreak⟩

end Annotation

end RouteDocs
