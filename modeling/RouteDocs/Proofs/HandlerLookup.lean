import RouteDocs.Proofs.HandlerIndex
import RouteDocs.Proofs.Source.Names

namespace RouteDocs

open Source

theorem Source.Item.Named.declared {p : String → Prop} {item : Item} {place : Place} {name : String}
    {doc : Option String} (h : item.Named p) (hd : item.DeclaresAt place name doc) :
    p name ∨ ∃ owner method, p owner ∧ p method ∧ name = owner ++ "::" ++ method := by
  induction hd with
  | function f =>
    cases h with
    | function hname => exact .inl hname
  | method found =>
    cases h with
    | methods howner hnames => exact .inr ⟨_, _, howner, hnames _ (List.mem_of_getElem? found), rfl⟩
  | inner found _ ih =>
    cases h with
    | submodule hinner => exact ih (hinner _ (List.mem_of_getElem? found))

namespace HandlerIndex

/-- A name of one segment. -/
def IsSegment (s : String) : Prop := ':' ∉ s.toList

instance (s : String) : Decidable (IsSegment s) := inferInstanceAs (Decidable (':' ∉ s.toList))

/-- Whatever is declared has a name of one segment or of two. -/
theorem name_of_stands {sources : List (String × String)} {p : Place} {d : Declaration} (h : Stands parse sources p d) :
    IsSegment d.name ∨ ∃ owner method, IsSegment owner ∧ IsSegment method ∧ d.name = qualified owner method := by
  cases h with
  | member found stands =>
    cases stands with
    | item parsed declared =>
      have hnamed : (Item.submodule _).Named IsIdentifier := .submodule (named_of_parse parsed)
      obtain hname | ⟨owner, method, howner, hmethod, hname⟩ := hnamed.declared declared
      · exact .inl hname.no_colon
      · exact .inr ⟨owner, method, howner.no_colon, hmethod.no_colon, hname⟩

/-- A name of more than two segments has more colons than any name that is declared. -/
theorem count_colon_of_stands {sources : List (String × String)} {p : Place} {d : Declaration}
    (h : Stands parse sources p d) : d.name.toList.count ':' ≤ 2 := by
  have hzero {s : String} (hs : IsSegment s) : s.toList.count ':' = 0 := List.count_eq_zero.2 hs
  obtain hname | ⟨owner, method, howner, hmethod, hname⟩ := name_of_stands h
  · rw [hzero hname]
    omega
  · simp [hname, qualified, hzero howner, hzero hmethod]

theorem cut?_segment {s : List Char} (hs : ':' ∉ s) : Text.cut? [':', ':'] s = none := by
  rw [← Option.not_isSome_iff_eq_none, Text.cut?_isSome_iff]
  intro hpart
  exact hs (hpart.subset (by simp))

theorem cut?_segments {s t : List Char} {ss : List (List Char)} (hs : ':' ∉ s) :
    Text.cut? [':', ':'] ([':', ':'].intercalate (s :: t :: ss)) = some (s, [':', ':'].intercalate (t :: ss)) := by
  rw [List.intercalate_cons_cons, List.append_assoc]
  exact Text.cut?_append hs [':'] _

theorem segmentsWithin_intercalate {ss : List (List Char)} (hne : ss ≠ []) (hss : ∀ s ∈ ss, ':' ∉ s) {n : Nat}
    (hn : ([':', ':'].intercalate ss).length ≤ n) :
    segments.segmentsWithin n ([':', ':'].intercalate ss) = ss := by
  induction ss generalizing n with
  | nil => exact absurd rfl hne
  | cons s ss ih =>
    obtain ⟨hs, hrest⟩ := List.forall_mem_cons.1 hss
    cases ss with
    | nil =>
      rw [List.intercalate_singleton]
      cases n with
      | zero => rfl
      | succ n => rw [segments.segmentsWithin, cut?_segment hs]
    | cons t ss =>
      cases n with
      | zero =>
        rw [List.intercalate_cons_cons] at hn
        simp at hn
      | succ n =>
        rw [segments.segmentsWithin, cut?_segments hs]
        have hshorter : ([':', ':'].intercalate (t :: ss)).length ≤ n := by
          rw [List.intercalate_cons_cons] at hn
          simp only [List.length_append, List.length_cons, List.length_nil] at hn
          omega
        exact congrArg (s :: ·) (ih (List.cons_ne_nil t ss) hrest hshorter)

theorem segments_intercalate {ss : List (List Char)} (hne : ss ≠ []) (hss : ∀ s ∈ ss, ':' ∉ s) :
    segments ([':', ':'].intercalate ss) = ss := by
  cases ss with
  | nil => exact absurd rfl hne
  | cons s ss =>
    obtain ⟨hs, hrest⟩ := List.forall_mem_cons.1 hss
    cases ss with
    | nil => rw [List.intercalate_singleton, segments, cut?_segment hs]
    | cons t ss =>
      rw [segments, cut?_segments hs]
      exact congrArg (s :: ·) (segmentsWithin_intercalate (List.cons_ne_nil t ss) hrest le_rfl)

/-- The candidates for a name by its segments. -/
theorem candidates_intercalate {ss : List String} (hne : ss ≠ []) (hss : ∀ s ∈ ss, IsSegment s) :
    candidates ("::".intercalate ss) = "::".intercalate ss ::
      (if 2 < ss.length then ["::".intercalate (ss.drop (ss.length - 2))] else []) ++
        ["::".intercalate (ss.drop (ss.length - 1))] := by
  have hsegments : segments ("::".intercalate ss).toList = ss.map String.toList := by
    rw [String.toList_intercalate]
    exact segments_intercalate (by simpa using hne) (List.forall_mem_map.2 hss)
  have hlast (n : Nat) : String.ofList ([':', ':'].intercalate ((ss.map String.toList).drop n)) =
      "::".intercalate (ss.drop n) := by
    rw [← List.map_drop, ← String.toList_inj, String.toList_ofList, String.toList_intercalate]
    rfl
  simp only [candidates, hsegments, hlast, List.length_map]

theorem candidates_qualified {q : List String} (hne : q ≠ []) (hq : ∀ s ∈ q, IsSegment s) {owner name : String}
    (howner : IsSegment owner) (hname : IsSegment name) :
    candidates (qualified ("::".intercalate q) (qualified owner name)) =
      [qualified ("::".intercalate q) (qualified owner name), qualified owner name, name] := by
  have hjoin : qualified ("::".intercalate q) (qualified owner name) = "::".intercalate (q ++ [owner, name]) :=
    (String.intercalate_append_of_ne_nil hne (List.cons_ne_nil owner [name])).symm
  have hsegments : ∀ s ∈ q ++ [owner, name], IsSegment s := by
    intro s hs
    obtain hs | hs := List.mem_append.1 hs
    · exact hq s hs
    · obtain rfl | rfl := List.mem_pair.1 hs
      · exact howner
      · exact hname
  have hlength : (q ++ [owner, name]).length = q.length + 2 := List.length_append
  have hpos := List.length_pos_of_ne_nil hne
  have hmore : 2 < q.length + 2 := by omega
  have htwo : (q ++ [owner, name]).drop (q.length + 2 - 2) = [owner, name] := List.drop_left
  have hone : (q ++ [owner, name]).drop (q.length + 2 - 1) = [name] :=
    List.drop_length_add_append 1
  rw [hjoin, candidates_intercalate (by simp) hsegments, hlength, if_pos hmore, htwo, hone]
  rfl

theorem candidates_method {owner name : String} (howner : IsSegment owner) (hname : IsSegment name) :
    candidates (qualified owner name) = [qualified owner name, name] :=
  candidates_intercalate (List.cons_ne_nil owner [name]) (by simp [howner, hname])

theorem candidates_segment {name : String} (hname : IsSegment name) : candidates name = [name, name] :=
  candidates_intercalate (List.cons_ne_nil name []) (by simpa using hname)

theorem get?_of_undeclared {sources : List (String × String)} {name : String}
    (h : ¬ ∃ p d, Stands parse sources p d ∧ d.name = name) : (ofSources sources).handlers.get? name = none := by
  rw [← mem_keys_ofSources, SortedMap.mem_keys_iff] at h
  simpa using h

theorem find?_qualified (sources : List (String × String)) {q : List String} (hne : q ≠ [])
    (hq : ∀ s ∈ q, IsSegment s) {owner name : String} (howner : IsSegment owner) (hname : IsSegment name) :
    (ofSources sources).find? (qualified ("::".intercalate q) (qualified owner name)) =
      (ofSources sources).find? (qualified owner name) := by
  have hlong : (ofSources sources).handlers.get? (qualified ("::".intercalate q) (qualified owner name)) = none := by
    refine get?_of_undeclared fun hx => ?_
    obtain ⟨p, d, hd, heq⟩ := hx
    have hcount := count_colon_of_stands hd
    have htwo : "::".toList.count ':' = 2 := rfl
    simp only [heq, qualified, String.toList_append, List.count_append] at hcount
    omega
  rw [find?, find?, candidates_qualified hne hq howner hname, candidates_method howner hname, List.findSome?_cons,
    hlong]

theorem find?_method {sources : List (String × String)} {owner name : String} (howner : IsSegment owner)
    (hname : IsSegment name) (h : ¬ ∃ p d, Stands parse sources p d ∧ d.name = qualified owner name) :
    (ofSources sources).find? (qualified owner name) = (ofSources sources).find? name := by
  rw [find?, find?, candidates_method howner hname, candidates_segment hname, List.findSome?_cons, get?_of_undeclared h]
  cases hget : (ofSources sources).handlers.get? name <;> simp [hget]

/-- What stands before the last two segments of a name has no part in what is found, and nor has the last but one where
nothing is declared under the two. -/
theorem lookup_of_segments (sources : List (String × String)) {q : List String} (hne : q ≠ [])
    (hq : ∀ s ∈ q, IsSegment s) {owner name : String} (howner : IsSegment owner) (hname : IsSegment name) :
    ((ofSources sources).doc? (qualified ("::".intercalate q) (qualified owner name)) =
        (ofSources sources).doc? (qualified owner name) ∧
      (ofSources sources).source? (qualified ("::".intercalate q) (qualified owner name)) =
        (ofSources sources).source? (qualified owner name)) ∧
    ((¬ ∃ p d, Stands parse sources p d ∧ d.name = qualified owner name) →
      (ofSources sources).doc? (qualified owner name) = (ofSources sources).doc? name ∧
      (ofSources sources).source? (qualified owner name) = (ofSources sources).source? name) := by
  have hlong := find?_qualified sources hne hq howner hname
  refine ⟨⟨?_, ?_⟩, fun h => ?_⟩
  · rw [doc?, doc?, hlong]
  · rw [source?, source?, hlong]
  · have hshort := find?_method howner hname h
    exact ⟨by rw [doc?, doc?, hshort], by rw [source?, source?, hshort]⟩

/-- A method and a function of one name. -/
def listSources : List (String × String) :=
  [("src/orders.rs", "impl Orders \x7b\n/// Of the type\nfn list() \x7b\x7d \x7d\n/// Of its own\nfn list() \x7b\x7d")]

/-- A path in front of the type changes nothing. A type without that method stands for the function. -/
theorem lookup_of_segments_list :
    ["crate", "api"] ≠ [] ∧ (∀ s ∈ ["crate", "api"], IsSegment s) ∧ IsSegment "Orders" ∧ IsSegment "Users" ∧
    IsSegment "list" ∧ (¬ ∃ p d, Stands parse listSources p d ∧ d.name = qualified "Users" "list") ∧
    (ofSources listSources).doc? "crate::api::Orders::list" = some "Of the type" ∧
    (ofSources listSources).doc? "Users::list" = some "Of its own" := by
  have hq : ∀ s ∈ ["crate", "api"], IsSegment s := by decide
  have horders : IsSegment "Orders" := by decide
  have husers : IsSegment "Users" := by decide
  have hlist : IsSegment "list" := by decide
  have hdocs : (ofSources listSources).doc? "Orders::list" = some "Of the type" ∧
      (ofSources listSources).doc? "list" = some "Of its own" ∧
      "Users::list" ∉ (ofSources listSources).handlers.keys := by decide +kernel
  have habsent : ¬ ∃ p d, Stands parse listSources p d ∧ d.name = qualified "Users" "list" :=
    (mem_keys_ofSources parse listSources "Users::list").not.1 hdocs.2.2
  refine ⟨by decide, hq, horders, husers, hlist, habsent, ?_, ?_⟩
  · exact (lookup_of_segments listSources (by decide) hq horders hlist).1.1.trans hdocs.1
  · exact ((lookup_of_segments listSources (by decide) hq husers hlist).2 habsent).1.trans hdocs.2.1

end HandlerIndex

end RouteDocs
