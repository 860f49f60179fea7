import RouteDocs.Expansion
import RouteDocs.Proofs.Text

namespace RouteDocs

open Text

namespace Expansion

/-- The first opening bracket of a line and the last closing one, with the text before, between and behind
them. -/
structure Brackets (before inner after line : List Char) : Prop where
  line_eq : line = before ++ '[' :: (inner ++ ']' :: after)
  first : '[' ∉ before
  last : ']' ∉ after

theorem upToLastClosing?_of_last {inner after : List Char} (h : ']' ∉ after) :
    upToLastClosing? (inner ++ ']' :: after) = some inner := by
  have hpass : ∀ c ∈ after.reverse, decide (c ≠ ']') = true := by
    intro c hc
    have hne : c ≠ ']' := fun he => h (he ▸ List.mem_reverse.1 hc)
    simpa using hne
  have hrev : (inner ++ ']' :: after).reverse.dropWhile (· ≠ ']') = ']' :: inner.reverse := by
    rw [List.reverse_append, List.reverse_cons, List.append_assoc, List.dropWhile_append_of_pos hpass]
    simp
  rw [upToLastClosing?, hrev]
  simp

theorem upToLastClosing?_eq_some {line inner : List Char} (h : upToLastClosing? line = some inner) :
    ∃ after, line = inner ++ ']' :: after := by
  unfold upToLastClosing? at h
  split at h
  · next c before heq =>
    obtain rfl := Option.some.inj h
    have hc : c = ']' := by
      have hstop := List.head?_dropWhile_not (fun c => decide (c ≠ ']')) line.reverse
      rw [heq] at hstop
      simpa using hstop
    have hsplit := List.takeWhile_append_dropWhile (p := fun c => decide (c ≠ ']')) (l := line.reverse)
    rw [heq, hc] at hsplit
    have hline := congrArg List.reverse hsplit
    rw [List.reverse_append, List.reverse_cons, List.reverse_reverse, List.append_assoc] at hline
    exact ⟨_, hline.symm⟩
  · exact absurd h (by simp)

theorem bracketed?_cons (c : Char) (s : List Char) : bracketed? (c :: s) =
    (if c = '[' then upToLastClosing? (s.takeWhile (· ≠ '\n')) else none).or (bracketed? s) := by
  rw [bracketed?, Option.orElse_eq_orElse, Option.orElse_eq_or]

theorem Brackets.bracketed? {before inner after line : List Char} (h : Brackets before inner after line)
    (hn : '\n' ∉ inner) : bracketed? line = some inner := by
  obtain ⟨rfl, hfirst, hlast⟩ := h
  induction before with
  | nil =>
    have hpass : ∀ c ∈ inner ++ [']'], decide (c ≠ '\n') = true := by
      intro c hc
      have hne : c ≠ '\n' := by
        rintro rfl
        exact hn (by simpa using hc)
      simpa using hne
    have hline : (inner ++ ']' :: after).takeWhile (· ≠ '\n') = inner ++ ']' :: after.takeWhile (· ≠ '\n') := by
      rw [List.append_cons, List.takeWhile_append_of_pos hpass, ← List.append_cons]
    have hlast' : ']' ∉ after.takeWhile (· ≠ '\n') := fun hm => hlast ((List.takeWhile_prefix _).subset hm)
    rw [List.nil_append, bracketed?_cons, if_pos rfl, hline, upToLastClosing?_of_last hlast', Option.some_or]
  | cons c before ih =>
    obtain ⟨hc, hbefore⟩ := not_or.1 (List.mem_cons.not.1 hfirst)
    rw [List.cons_append, bracketed?_cons, if_neg (Ne.symm hc), Option.none_or]
    exact ih hbefore

/-- What is found between brackets stands between brackets, and on one line. -/
theorem bracketed?_eq_some {line inner : List Char} (h : RouteDocs.Expansion.bracketed? line = some inner) :
    (∃ before after, line = before ++ '[' :: (inner ++ ']' :: after)) ∧ '\n' ∉ inner := by
  induction line with
  | nil => simp [RouteDocs.Expansion.bracketed?] at h
  | cons c s ih =>
    rw [bracketed?_cons, Option.or_eq_some_iff] at h
    rcases h with h | ⟨-, h⟩
    · split at h
      · next hc =>
        obtain ⟨after, hafter⟩ := upToLastClosing?_eq_some h
        obtain ⟨rest, hrest⟩ : s.takeWhile (· ≠ '\n') <+: s := List.takeWhile_prefix _
        refine ⟨⟨[], after ++ rest, ?_⟩, fun hn => ?_⟩
        · rw [← hrest, hafter, hc]
          simp
        · have hm : '\n' ∈ s.takeWhile (· ≠ '\n') := hafter ▸ List.mem_append_left _ hn
          exact absurd (List.mem_takeWhile_imp hm) (by simp)
      · exact absurd h (by simp)
    · obtain ⟨⟨before, after, rfl⟩, hn⟩ := ih h
      exact ⟨⟨c :: before, after, rfl⟩, hn⟩

theorem exists_last_closing {s : List Char} (h : ']' ∈ s) :
    ∃ inner after, s = inner ++ ']' :: after ∧ ']' ∉ after := by
  obtain ⟨after, inner, hs, hlast⟩ := List.eq_append_cons_of_mem (List.mem_reverse.2 h)
  refine ⟨inner.reverse, after.reverse, ?_, by simpa using hlast⟩
  rw [← s.reverse_reverse, hs]
  simp

/-- An opening bracket with a closing one somewhere behind it makes a span. -/
theorem exists_brackets (before inner after : List Char) :
    ∃ b i a, Brackets b i a (before ++ '[' :: (inner ++ ']' :: after)) := by
  induction before with
  | nil =>
    obtain ⟨i, a, heq, hlast⟩ := exists_last_closing (s := inner ++ ']' :: after) (by simp)
    exact ⟨[], i, a, by rw [List.nil_append, heq, List.nil_append], by simp, hlast⟩
  | cons c before ih =>
    by_cases hc : c = '['
    · obtain ⟨i, a, heq, hlast⟩ :=
        exists_last_closing (s := before ++ '[' :: (inner ++ ']' :: after)) (by simp)
      exact ⟨[], i, a, by rw [hc, List.cons_append, heq, List.nil_append], by simp, hlast⟩
    · obtain ⟨b, i, a, heq, hfirst, hlast⟩ := ih
      exact ⟨c :: b, i, a, by rw [List.cons_append, heq, List.cons_append], by simp [hfirst, Ne.symm hc], hlast⟩

/-- The span is cut out where it stands, although it is looked for as a text. -/
theorem Brackets.around {before inner after line : List Char} (h : Brackets before inner after line) :
    around inner line = trim (before ++ after) := by
  have hcut : cut? ('[' :: inner ++ [']']) line = some (before, after) := by
    have hspan := cut?_append h.first (inner ++ [']']) after
    rw [List.append_assoc, List.singleton_append] at hspan
    rw [h.line_eq]
    exact hspan
  simp only [RouteDocs.Expansion.around, hcut]

/-- Another pair of brackets stands directly inside the first one. -/
def isNested (inner : List Char) : Bool := inner.head? == some '[' && inner.getLast? == some ']'

/-- The declarations, with the commas between them. -/
def unnested (inner : List Char) : List Char := if isNested inner then inner.tail.dropLast else inner

theorem isNested_iff {inner : List Char} : isNested inner = true ↔ ∃ middle, inner = '[' :: (middle ++ [']']) := by
  constructor
  · intro h
    obtain ⟨hhead, hlast⟩ := Bool.and_eq_true_iff.1 h
    obtain ⟨rest, rfl⟩ := List.head?_eq_some_iff.1 (beq_iff_eq.1 hhead)
    obtain ⟨front, hfront⟩ := List.getLast?_eq_some_iff.1 (beq_iff_eq.1 hlast)
    cases front with
    | nil => exact absurd (List.cons.inj hfront).1 (by decide)
    | cons c middle =>
      obtain ⟨rfl, hrest⟩ := List.cons.inj hfront
      exact ⟨middle, by rw [hrest]; rfl⟩
  · rintro ⟨middle, rfl⟩
    simp [isNested, List.getLast?_cons]

theorem nested?_eq (inner : List Char) :
    nested? inner = if isNested inner then some inner.tail.dropLast else none := by
  by_cases h : isNested inner = true
  · obtain ⟨middle, rfl⟩ := isNested_iff.1 h
    simp [nested?, h]
  · rw [if_neg h]
    cases hn : nested? inner with
    | none => rfl
    | some middle =>
      unfold nested? at hn
      split at hn
      · next rest =>
        split at hn
        · next before hrev =>
          refine absurd (isNested_iff.2 ⟨before.reverse, ?_⟩) h
          rw [← rest.reverse_reverse, hrev]
          simp
        · exact absurd hn (by simp)
      · exact absurd hn (by simp)

/-- The declarations between the brackets, without a second pair of them. -/
def declared (inner : List Char) : List Char := (nested? inner).getD inner

theorem declared_eq (inner : List Char) : declared inner = unnested inner := by
  rw [declared, nested?_eq, unnested]
  split <;> rfl

theorem newline_not_mem_declared {inner : List Char} (h : '\n' ∉ inner) : '\n' ∉ declared inner := by
  rw [declared_eq, unnested]
  split
  · exact fun hm => h (List.mem_of_mem_tail (List.dropLast_subset _ hm))
  · exact h

end Expansion

end RouteDocs
