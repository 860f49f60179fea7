import Mathlib.Data.List.TakeWhile
import RouteDocs.Proofs.Source.Parser
import RouteDocs.Source.Lexer

namespace RouteDocs.Source

open Text

/-- An identifier without the marker of a raw one. -/
def IsPlainIdentifier (s : List Char) : Prop :=
  ∃ c rest, s = c :: rest ∧ startsIdentifier c = true ∧ ∀ d ∈ rest, continuesIdentifier d = true

/-- An identifier, raw or not. -/
def IsIdentifier (w : String) : Prop := ∃ s, IsPlainIdentifier s ∧ (w.toList = s ∨ w.toList = 'r' :: '#' :: s)

theorem IsIdentifier.no_colon {w : String} (h : IsIdentifier w) : ':' ∉ w.toList := by
  obtain ⟨s, ⟨c, rest, rfl, hc, hrest⟩, hw⟩ := h
  have hs : ':' ∉ c :: rest := by
    intro hmem
    cases hmem with
    | head => exact absurd hc (by decide)
    | tail _ hmem => exact absurd (hrest ':' hmem) (by decide)
  cases hw with
  | inl hplain => rwa [hplain]
  | inr hraw => simpa [hraw] using hs

theorem isPlainIdentifier_of_plainWord? {s name rest : List Char} (h : plainWord? s = some (name, rest)) :
    IsPlainIdentifier name := by
  cases s with
  | nil => cases h
  | cons c s =>
    obtain ⟨hc, heq⟩ := Option.ite_none_right_eq_some.1 h
    cases heq
    exact ⟨c, _, rfl, hc, fun d hd => List.mem_takeWhile_imp hd⟩

theorem isIdentifier_of_anyWord? {s name rest : List Char} (h : anyWord? s = some (name, rest)) :
    IsIdentifier (String.ofList name) := by
  unfold anyWord? at h
  split at h
  · obtain ⟨⟨plain, behind⟩, hplain, hname⟩ := Option.bind_eq_some_iff.1 h
    obtain ⟨-, heq⟩ := Option.ite_none_left_eq_some.1 hname
    cases heq
    exact ⟨plain, isPlainIdentifier_of_plainWord? hplain, .inr (by simp)⟩
  · exact ⟨name, isPlainIdentifier_of_plainWord? h, .inl (by simp)⟩

theorem words_eq_nil_of_map {α : Type} {found : Option α} {f : α → Token × List Char} {t : Token} {rest : List Char}
    (hf : ∀ a, (f a).1.words = []) (h : found.map f = some (t, rest)) : t.words = [] := by
  obtain ⟨a, -, ha⟩ := Option.map_eq_some_iff.1 h
  simpa [ha] using hf a

theorem words_eq_nil_of_real? {s rest : List Char} {t : Token} (h : real? s = some (t, rest)) : t.words = [] := by
  obtain ⟨behind, -, hend⟩ := Option.bind_eq_some_iff.1 h
  obtain ⟨-, heq⟩ := Option.ite_none_right_eq_some.1 hend
  cases heq
  rfl

theorem words_eq_nil_of_whole? {s rest : List Char} {t : Token} (h : whole? s = some (t, rest)) : t.words = [] := by
  obtain ⟨digits, -, hend⟩ := Option.bind_eq_some_iff.1 h
  obtain ⟨-, heq⟩ := Option.ite_none_left_eq_some.1 hend
  cases heq
  rfl

theorem words_eq_nil_of_number? {s rest : List Char} {t : Token} (h : number? s = some (t, rest)) : t.words = [] := by
  unfold number? at h
  split at h
  · obtain ⟨-, hnumber⟩ := Option.ite_none_right_eq_some.1 h
    rw [Option.orElse_eq_orElse, Option.orElse_eq_or, Option.or_eq_some_iff] at hnumber
    cases hnumber with
    | inl hreal => exact words_eq_nil_of_real? hreal
    | inr hwhole => exact words_eq_nil_of_whole? hwhole.2
  · cases h

theorem words_eq_nil_of_literal? {s rest : List Char} {t : Token} (h : literal? s = some (t, rest)) : t.words = [] := by
  unfold literal? at h
  split at h
  -- what opens like no other literal is a number
  case h_9 => exact words_eq_nil_of_number? h
  all_goals exact words_eq_nil_of_map (fun _ => rfl) h

theorem words_eq_nil_of_mark? {s rest : List Char} {t : Token} (h : mark? s = some (t, rest)) : t.words = [] := by
  unfold mark? at h
  split at h
  · obtain ⟨⟨_, behind⟩, -, hquote⟩ := Option.bind_eq_some_iff.1 h
    dsimp only at hquote
    split at hquote
    · cases hquote
    · obtain ⟨-, heq⟩ := Option.ite_none_right_eq_some.1 hquote
      cases heq
      rfl
    · cases hquote
      rfl
  · obtain ⟨-, heq⟩ := Option.ite_none_right_eq_some.1 h
    cases heq
    rfl
  · cases h

theorem isIdentifier_of_leaf? {s rest : List Char} {t : Token} (h : leaf? s = some (t, rest)) :
    ∀ w ∈ t.words, IsIdentifier w := by
  simp only [leaf?, Option.orElse_eq_orElse, Option.orElse_eq_or, Option.or_eq_some_iff] at h
  obtain hliteral | ⟨-, hmark | ⟨-, hword | ⟨-, herror⟩⟩⟩ := h
  · simp [words_eq_nil_of_literal? hliteral]
  · simp [words_eq_nil_of_mark? hmark]
  · obtain ⟨⟨name, behind⟩, hname, heq⟩ := Option.map_eq_some_iff.1 hword
    obtain ⟨-, hany⟩ := Option.ite_none_left_eq_some.1 hname
    cases heq
    simpa [Token.words] using isIdentifier_of_anyWord? hany
  · simp [words_eq_nil_of_map (fun _ => rfl) herror]

theorem allWords_reverse {p : String → Prop} {ts : List Token} (h : AllWords p ts) : AllWords p ts.reverse := by
  induction ts with
  | nil => exact h
  | cons t ts ih => simp_all

theorem allWords_docTokens (text : List Char) (inner : Bool) : AllWords IsIdentifier (docTokens text inner) := by
  have hdoc : IsIdentifier "doc" := ⟨"doc".toList, ⟨'d', ['o', 'c'], rfl, rfl, List.all_eq_true.1 rfl⟩, .inl rfl⟩
  cases inner <;> simp [docTokens, Token.words, Token.wordsAll, hdoc]

theorem allWords_tokensAux {n : Nat} {outer : List (Bracket × List Token)} {done ts : List Token} {s : List Char}
    (houter : ∀ o ∈ outer, AllWords IsIdentifier o.2) (hdone : AllWords IsIdentifier done)
    (h : tokensAux n outer done s = some ts) : AllWords IsIdentifier ts := by
  induction n generalizing outer done s with
  | zero => cases h
  | succ n ih =>
    rw [tokensAux] at h
    split at h
    · next text inner behind hcomment =>
      exact ih houter (allWords_append.2 ⟨allWords_reverse (allWords_docTokens text inner), hdone⟩) h
    · split at h
      · obtain ⟨-, heq⟩ := Option.ite_none_right_eq_some.1 h
        cases heq
        exact allWords_reverse hdone
      · split at h
        · next bracket behind hopening =>
          exact ih (List.forall_mem_cons.2 ⟨hdone, houter⟩) allWords_nil h
        · next bracket behind hopening hclosing =>
          cases outer with
          | nil => cases h
          | cons o outer =>
            obtain ⟨-, hgroup⟩ := Option.ite_none_right_eq_some.1 h
            obtain ⟨hbefore, houter⟩ := List.forall_mem_cons.1 houter
            have hinner : ∀ w ∈ (Token.group bracket done.reverse).words, IsIdentifier w := allWords_reverse hdone
            exact ih houter (allWords_cons.2 ⟨hinner, hbefore⟩) hgroup
        · obtain ⟨⟨t, behind⟩, hleaf, hrest⟩ := Option.bind_eq_some_iff.1 h
          exact ih houter (allWords_cons.2 ⟨isIdentifier_of_leaf? hleaf, hdone⟩) hrest

theorem allWords_of_tokens? {s : List Char} {ts : List Token} (h : tokens? s = some ts) : AllWords IsIdentifier ts :=
  allWords_tokensAux (by simp) allWords_nil h

end RouteDocs.Source
