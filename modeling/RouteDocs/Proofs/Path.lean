import RouteDocs.Path
import RouteDocs.Proofs.Text

namespace RouteDocs.Path

open Text

/-- A part behind the start of a path: the directory above, or a name that is neither empty nor made of dots alone, nor
cut by a slash. -/
inductive Part.IsStep : Part → Prop where
  | above : IsStep .above
  | name {s : String} (nonempty : s.toList ≠ []) (notHere : s.toList ≠ ['.']) (notAbove : s.toList ≠ ['.', '.'])
    (uncut : '/' ∉ s.toList) : IsStep (.name s)

/-- The parts of some path: a start, if there is one, and then steps. -/
inductive AreParts : List Part → Prop where
  | relative {ps : List Part} (steps : ∀ p ∈ ps, p.IsStep) : AreParts ps
  | absolute {ps : List Part} (steps : ∀ p ∈ ps, p.IsStep) : AreParts (.root :: ps)
  | here {ps : List Part} (steps : ∀ p ∈ ps, p.IsStep) : AreParts (.here :: ps)

theorem isStep_of_partOf {s : List Char} {p : Part} (hs : '/' ∉ s) (h : partOf s = some p) : p.IsStep := by
  unfold partOf at h
  split at h
  · exact absurd h (by simp)
  · next hname =>
    simp only [Bool.or_eq_true, List.isEmpty_iff, decide_eq_true_eq, not_or] at hname
    split at h
    · rw [← Option.some.inj h]
      exact .above
    · next habove =>
      rw [← Option.some.inj h]
      exact .name (by simpa using hname.1) (by simpa using hname.2) (by simpa using habove) (by simpa using hs)

theorem areParts_parts (path : String) : AreParts (parts path) := by
  have hsteps : ∀ p ∈ (pieces '/' path.toList).filterMap partOf, p.IsStep := by
    intro p hp
    obtain ⟨s, hs, hp⟩ := List.mem_filterMap.1 hp
    exact isStep_of_partOf (not_mem_pieces hs) hp
  simp only [parts]
  split
  · exact .absolute hsteps
  · split
    · exact .here hsteps
    · exact .relative hsteps

theorem Part.IsStep.uncut_text {p : Part} (h : p.IsStep) : '/' ∉ p.text.toList := by
  cases h with
  | above => decide
  | name _ _ _ uncut => exact uncut

theorem Part.IsStep.partOf_text {p : Part} (h : p.IsStep) : partOf p.text.toList = some p := by
  cases h with
  | above => rfl
  | name nonempty notHere notAbove _ => simp [partOf, Part.text, nonempty, notHere, notAbove]

theorem Part.IsStep.text_ne {p : Part} (h : p.IsStep) : p.text.toList ≠ [] ∧ p.text.toList ≠ ['.'] := by
  cases h with
  | above => decide
  | name nonempty notHere _ _ => exact ⟨nonempty, notHere⟩

def texts (ps : List Part) : List (List Char) := ps.map (·.text.toList)

theorem filterMap_texts {ps : List Part} (h : ∀ p ∈ ps, p.IsStep) : (texts ps).filterMap partOf = ps := by
  induction ps with
  | nil => rfl
  | cons p ps ih =>
    have hrest := ih fun q hq => h q (List.mem_cons_of_mem p hq)
    rw [texts, List.map_cons, List.filterMap_cons, (h p (by simp)).partOf_text]
    exact congrArg (p :: ·) hrest

theorem uncut_texts {ps : List Part} (h : ∀ p ∈ ps, p.IsStep) : ∀ t ∈ texts ps, '/' ∉ t := by
  intro t ht
  obtain ⟨p, hp, rfl⟩ := List.mem_map.1 ht
  exact (h p hp).uncut_text

/-- The parts of what is written between slashes. -/
theorem parts_intercalate {path : String} {t : List Char} {ts : List (List Char)}
    (htext : path.toList = ['/'].intercalate (t :: ts)) (huncut : ∀ u ∈ t :: ts, '/' ∉ u) :
    parts path = (if path.toList.head? = some '/' then [.root] else if t = ['.'] then [.here] else []) ++
      (t :: ts).filterMap partOf := by
  have hpieces := pieces_intercalate (List.cons_ne_nil t ts) huncut
  simp only [parts, isAbsolute, htext, hpieces, decide_eq_true_eq, List.head?_cons, Option.some.injEq]

theorem head?_intercalate {t : List Char} (h : t ≠ []) (ts : List (List Char)) :
    (['/'].intercalate (t :: ts)).head? = t.head? := by
  obtain ⟨c, s, rfl⟩ := List.exists_cons_of_ne_nil h
  cases ts with
  | nil => simp
  | cons u us => rw [List.intercalate_cons_cons]; rfl

/-- The text of some parts. -/
def spell (ps : List Part) : String :=
  match ps with
  | [.root] => "/"
  | ps => "/".intercalate (ps.map Part.text)

theorem normal_eq_spell (path : String) : normal path = spell (parts path) := rfl

theorem toList_spell {ps : List Part} (h : ps ≠ [.root]) : (spell ps).toList = ['/'].intercalate (texts ps) := by
  unfold spell
  split
  · exact absurd rfl h
  · simp [String.toList_intercalate, texts, Function.comp_def]

theorem parts_spell {ps : List Part} (h : AreParts ps) : parts (spell ps) = ps := by
  cases h with
  | relative steps =>
    cases ps with
    | nil => decide
    | cons p ps =>
      have hp := steps p (by simp)
      have hroot : p :: ps ≠ [.root] := by
        rintro ⟨⟩
        cases hp
      obtain ⟨hnonempty, hhere⟩ := hp.text_ne
      have htext := toList_spell hroot
      have habsolute : (spell (p :: ps)).toList.head? ≠ some '/' := by
        rw [htext, texts, List.map_cons, head?_intercalate hnonempty]
        exact fun hslash => hp.uncut_text (List.mem_of_head? hslash)
      rw [parts_intercalate htext (uncut_texts steps), if_neg habsolute, if_neg hhere]
      exact filterMap_texts steps
  | @absolute ps steps =>
    cases ps with
    | nil => decide
    | cons p ps =>
      have htext : (spell (.root :: p :: ps)).toList = ['/'].intercalate ([] :: texts (p :: ps)) :=
        toList_spell (by simp)
      have huncut : ∀ t ∈ [] :: texts (p :: ps), '/' ∉ t := by
        simpa using uncut_texts steps
      have habsolute : (spell (.root :: p :: ps)).toList.head? = some '/' := by
        rw [htext, texts, List.map_cons, List.intercalate_cons_cons]
        rfl
      rw [parts_intercalate htext huncut, if_pos habsolute]
      exact congrArg (Part.root :: ·) (filterMap_texts steps)
  | @here ps steps =>
    have htext : (spell (.here :: ps)).toList = ['/'].intercalate (['.'] :: texts ps) := toList_spell (by simp)
    have huncut : ∀ t ∈ ['.'] :: texts ps, '/' ∉ t := by
      simpa using uncut_texts steps
    have habsolute : (spell (.here :: ps)).toList.head? ≠ some '/' := by
      rw [htext, head?_intercalate (by simp)]
      decide
    rw [parts_intercalate htext huncut, if_neg habsolute, if_pos rfl]
    exact congrArg (Part.here :: ·) (filterMap_texts steps)

/-- The normal form of a path is of the same parts, and so it tells paths of different parts apart. -/
theorem parts_normal (path : String) : parts (normal path) = parts path := parts_spell (areParts_parts path)

theorem normal_eq_iff {path other : String} : normal path = normal other ↔ parts path = parts other := by
  constructor
  · intro h
    rw [← parts_normal path, h, parts_normal]
  · intro h
    rw [normal_eq_spell, normal_eq_spell, h]

end RouteDocs.Path
