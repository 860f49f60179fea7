import RouteDocs.Proofs.RequestBody
import RouteDocs.Proofs.Surroundings
import RouteDocs.Schema.Models

namespace RouteDocs

open Text Annotation

namespace Expansion

/-- A description that declares nothing: it has no brackets, or a part between its commas is no declaration. -/
inductive Void (d : String) : Prop where
  | unbracketed (bare : ¬ ∃ before inner after, d.toList = before ++ '[' :: (inner ++ ']' :: after)) : Void d
  | malformed {before inner after part : List Char} (line : '\n' ∉ d.toList)
    (span : Brackets before inner after d.toList) (listed : part ∈ parts inner) (unclosed : ¬ ['*', '/'] <:+ part)
    (undeclared : ∀ f, ¬ IsDeclaration part f) : Void d

/-- The tags between the brackets are read only if each part is a declaration, whatever stands around them. -/
theorem declaration_of_declaredTags {inner part : List Char} {ts : List (Option Tag)} (hn : '\n' ∉ inner)
    (hts : declaredTags inner = .ok ts) (hpart : part ∈ (pieces ',' inner).map trim) (hu : ¬ ['*', '/'] <:+ part) :
    ∃ f, IsDeclaration part f := by
  obtain ⟨p, hp, rfl⟩ := List.mem_map.1 hpart
  have hb : Block.mk "param".toList (trim p) ∈ FieldList.blocks (pieces ',' inner) :=
    List.mem_append_left _ (List.mem_map_of_mem hp)
  have writable : Block.Writable ⟨"param".toList, trim p⟩ :=
    ⟨blocks_named _ hb, fun hm => hn (pieces_subset hp (trim_subset p hm)), by rwa [trimEnd_trim]⟩
  have hread : Block.tag? true (Block.trimmed ⟨"param".toList, trim p⟩) ∈ ts.map .ok := by
    rw [← mapM_eq_ok_iff.1 hts, ← writable.ofLine.2]
    exact List.mem_map_of_mem (List.mem_map_of_mem (List.mem_map_of_mem (List.mem_map_of_mem hb)))
  obtain ⟨t, -, ht⟩ := List.mem_map.1 hread
  obtain ⟨f, hf, -⟩ := tag?_param_eq_ok_iff.1 ht.symm
  rw [trim_trim, trim_trim] at hf
  exact ⟨f, hf⟩

theorem Void.expand_eq_none {d : String} (h : Void d) : expand d = none := by
  rw [Option.eq_none_iff_forall_ne_some]
  intro e he
  cases h with
  | unbracketed bare =>
    obtain ⟨inner, hinner, -⟩ := expand_eq_some_iff.1 he
    obtain ⟨⟨before, after, hspan⟩, -⟩ := bracketed?_eq_some hinner
    exact bare ⟨before, inner, after, hspan⟩
  | malformed line span listed unclosed undeclared =>
    obtain ⟨ts, -, hts, -⟩ := span.fields_eq line he
    obtain ⟨-, -, hdeclared⟩ := span.newline_not_mem line
    obtain ⟨f, hf⟩ := declaration_of_declaredTags hdeclared hts listed unclosed
    exact undeclared f hf

end Expansion

namespace Input

open Expansion

variable {m : Method} {handler : String} {a : Annotation}

/-- The fields of a parameter tag would be an array. -/
def DeclaresArray (p : Field) : Prop := ∃ e, expand p.description = some e ∧ e.isArray = true

/-- No model is known but those that were, and nothing has been said. -/
structure Traceless (m : Method) (handler : String) (a : Annotation) : Prop where
  models : ∀ imports known, Models.recordAll imports known (models m a) = known
  silent : notices m handler a = []

/-- Two comments have the same input: the outcome is the same, and so are the models that are known behind it and all
that has been said. -/
structure SameInput (m : Method) (handler : String) (a b : Annotation) : Prop where
  outcome : ofAnnotation m handler a = ofAnnotation m handler b
  models : ∀ imports known, Models.recordAll imports known (models m a) = Models.recordAll imports known (models m b)
  notices : notices m handler a = notices m handler b

theorem fields?_eq_none_iff : fields? a = none ↔ ∃ p ∈ a.params, DeclaresArray p := by
  rw [fields?]
  split
  · next harray =>
    obtain ⟨e, he, hmarked⟩ := List.any_eq_true.1 harray
    obtain ⟨p, hp, hpe⟩ := List.mem_filterMap.1 he
    exact iff_of_true rfl ⟨p, hp, e, hpe, hmarked⟩
  · next hsingle =>
    refine iff_of_false (by simp) ?_
    rintro ⟨p, hp, e, hpe, hmarked⟩
    exact hsingle (List.any_eq_true.2 ⟨e, List.mem_filterMap.2 ⟨p, hp, hpe⟩, hmarked⟩)

theorem ofAnnotation_eq_error_iff {e : Failure} :
    ofAnnotation m handler a = .error e ↔ fields? a = none ∧ e = .arrayInput handler := by
  cases hfields : fields? a with
  | none => simp [Input.ofAnnotation, hfields, eq_comm]
  | some fs =>
    refine iff_of_false (fun h => ?_) (by simp)
    simp only [Input.ofAnnotation, hfields] at h
    split at h
    · exact absurd h (by simp)
    · split at h <;> exact absurd h (by simp)

theorem models_get : models .get a = [] := if_pos rfl

theorem models_of_fields?_eq_none (h : fields? a = none) : models m a = [] := by
  simp [models, h]

theorem traceless_of_models (h : models m a = []) (handler : String) : Traceless m handler a where
  models imports known := by
    rw [h]
    rfl
  silent := by
    rw [notices, h]
    rfl

theorem expansions_remove {s : String} {before after : List Tag} {p : Field} (h : expand p.description = none) :
    expansions ⟨s, before ++ .param p :: after⟩ = expansions ⟨s, before ++ after⟩ := by
  simp [expansions, Annotation.params, List.filterMap_append, h]

theorem sameInput_of_expansions {b : Annotation} (h : expansions a = expansions b) (m : Method) (handler : String) :
    SameInput m handler a b := by
  have hfields : fields? a = fields? b := by simp only [fields?, h]
  have hmodels : models m a = models m b := by simp only [models, hfields]
  exact {
    outcome := by simp only [Input.ofAnnotation, hfields]
    models := fun _ _ => by rw [hmodels]
    notices := by simp only [notices, hmodels] }

/-- Input fails exactly if a parameter tag declares an array. A failure says so and leaves no trace, as does any query.
A tag that declares nothing is not expanded, and one that is not expanded can be removed. -/
theorem ofAnnotation_traceless (m : Method) (handler : String) (a : Annotation) :
    ((∃ e, ofAnnotation m handler a = .error e) ↔ ∃ p ∈ a.params, DeclaresArray p) ∧
    (∀ e, ofAnnotation m handler a = .error e → e = .arrayInput handler ∧ Traceless m handler a) ∧
    (m = .get → Traceless m handler a) ∧
    (∀ p ∈ a.params, Void p.description → expand p.description = none) ∧
    ∀ before p after, a.tags = before ++ .param p :: after → expand p.description = none →
      SameInput m handler a ⟨a.summary, before ++ after⟩ := by
  refine ⟨?_, fun e he => ?_, ?_, fun _ _ hvoid => hvoid.expand_eq_none, fun before p after htags hnone => ?_⟩
  · simp only [ofAnnotation_eq_error_iff, exists_and_left, exists_eq, and_true, fields?_eq_none_iff]
  · obtain ⟨hnone, rfl⟩ := ofAnnotation_eq_error_iff.1 he
    exact ⟨rfl, traceless_of_models (models_of_fields?_eq_none hnone) handler⟩
  · rintro rfl
    exact traceless_of_models models_get handler
  · obtain ⟨s, tags⟩ := a
    obtain rfl : tags = _ := htags
    exact sameInput_of_expansions (expansions_remove hnone) m handler

/-- The first tag declares models, the second one is no array since a variable is missing, and the last one is an
array. -/
def orderTags : Annotation where
  summary := "Adds orders."
  tags := [.param ⟨"Form", "form", "[App\\Order $order, Page $next]"⟩,
    .param ⟨"Form", "more", "[[int $page, size]]"⟩,
    .returns ⟨"Json", "[Order $order]"⟩,
    .param ⟨"Form", "all", "[[Order $order, int $count]]"⟩]

theorem ofAnnotation_traceless_orders :
    ofAnnotation .post "Orders::add" orderTags = .error (.arrayInput "Orders::add") ∧
    (∀ imports known, Models.recordAll imports known (models .post orderTags) = known) ∧
    ofAnnotation .post "Orders::add" ⟨orderTags.summary, orderTags.tags.take 1 ++ orderTags.tags.drop 2⟩ =
      .error (.arrayInput "Orders::add") := by
  obtain ⟨hfails, hfailure, -, hvoid, hremove⟩ := ofAnnotation_traceless .post "Orders::add" orderTags
  have harray : DeclaresArray ⟨"Form", "all", "[[Order $order, int $count]]"⟩ := by
    have hmarked : (expand "[[Order $order, int $count]]").map (·.isArray) = some true := by decide +kernel
    exact Option.map_eq_some_iff.1 hmarked
  obtain ⟨e, he⟩ := hfails.2 ⟨_, by simp [orderTags, Annotation.params], harray⟩
  obtain ⟨rfl, htraceless⟩ := hfailure e he
  have hspan : Brackets [] "[int $page, size]".toList [] "[[int $page, size]]".toList :=
    ⟨by decide, by decide, by decide⟩
  have hlisted : "size".toList ∈ parts "[int $page, size]".toList := by decide
  have hmalformed : Void "[[int $page, size]]" := by
    refine .malformed (by decide) hspan hlisted (by decide) fun f hf => ?_
    exact absurd hf.marked (by decide)
  have hsame := hremove [_] _ [_, _] rfl (hvoid _ (by simp [orderTags, Annotation.params]) hmalformed)
  exact ⟨he, htraceless.models, hsame.outcome.symm.trans he⟩

end Input

end RouteDocs
