import RouteDocs.Proofs.Json.Proper

namespace RouteDocs.Json

variable {fields others : Fields} {k : String} {v w : Json}

theorem setField_of_lookup (h : fields.lookup k = some v) : setField k v fields = fields := by
  induction fields with
  | nil => simp at h
  | cons e rest ih =>
    obtain ⟨l, u⟩ := e
    rw [lookup_cons_ite] at h
    rw [setField]
    split at h
    · next hk => rw [if_pos hk, Option.some.inj h]
    · next hk => rw [if_neg hk, ih h]

theorem setFields_eq_self (h : ∀ e ∈ others, fields.lookup e.1 = some e.2) : setFields fields others = fields := by
  change putAll (fun fields k v => setField k v fields) fields others = fields
  exact putAll_eq_self fun e he => setField_of_lookup (h e he)

theorem setFields_self (once : (keys fields).Nodup) : setFields fields fields = fields :=
  setFields_eq_self fun _ he => lookup_of_mem once he

theorem setFields_setFields_self (fields : Fields) (once : (keys others).Nodup) :
    setFields (setFields fields others) others = setFields fields others := by
  apply setFields_eq_self
  intro e he
  have hput := setField_puts.lookup_putAll fields once e.1
  rw [lookup_of_mem once he] at hput
  exact hput

theorem setFields_assoc {f g i : Fields} (hf : (keys f).Nodup) (hg : (keys g).Nodup) (hi : (keys i).Nodup) :
    setFields (setFields f g) i = setFields f (setFields g i) :=
  setField_puts.putAll_assoc hf hg hi (fun _ _ => rfl) fun _ _ _ _ _ => rfl

/-- Two contents as one. Only objects can be joined, and otherwise the first content stays. -/
def joinContents : Json → Json → Json
  | .obj content, .obj entries => .obj (setFields content entries)
  | v, _ => v

theorem joinContents_of_not (h : ∀ content entries, w = .obj entries → v = .obj content → False) :
    joinContents v w = v := by
  unfold joinContents
  split
  · next content entries => exact absurd rfl (h content entries rfl)
  · rfl

theorem joinContents_joinContents_self (v : Json) (h : w.WellFormed) :
    joinContents (joinContents v w) w = joinContents v w := by
  cases v with
  | obj content =>
    cases w with
    | obj entries => simp only [joinContents, setFields_setFields_self content h.keys_nodup]
    | _ => rfl
  | _ => rfl

theorem joinContents_self (h : w.WellFormed) : joinContents w w = w := by
  cases w with
  | obj entries => simp only [joinContents, setFields_self h.keys_nodup]
  | _ => rfl

theorem joinContents_assoc {u : Json} (hu : u.WellFormed) (hv : v.WellFormed) (hw : w.WellFormed)
    (hentries : ∃ entries, v = .obj entries) :
    joinContents (joinContents u v) w = joinContents u (joinContents v w) := by
  obtain ⟨entries, rfl⟩ := hentries
  cases u with
  | obj content =>
    cases w with
    | obj more => simp only [joinContents, setFields_assoc hu.keys_nodup hv.keys_nodup hw.keys_nodup]
    | _ => rfl
  | _ => rfl

/-- The value of a field after a merge. -/
def mergedValue (k : String) (old : Option Json) (v : Json) : Json :=
  match old with
  | none => v
  | some u => if k = "content" then joinContents u v else u

theorem mergeField_of_none (h : fields.lookup k = none) (v : Json) : mergeField fields k v = fields ++ [(k, v)] := by
  simp [mergeField, h]

theorem mergeField_of_some {u : Json} (h : fields.lookup k = some u) (v : Json) :
    mergeField fields k v = setField k (mergedValue k (some u) v) fields := by
  have hsame : setField k u fields = fields := setField_of_lookup h
  unfold mergeField
  rw [h, mergedValue]
  split
  · next hnone => exact absurd hnone (by simp)
  · next content entries hu =>
    obtain rfl := Option.some.inj hu
    split
    · rfl
    · exact hsame.symm
  · next hu hother =>
    obtain rfl := Option.some.inj hu
    rw [joinContents_of_not hother, ite_self, hsame]

theorem mergeField_puts : Puts mergeField mergedValue where
  keys_put fields k v := by
    cases h : fields.lookup k with
    | none =>
      rw [mergeField_of_none h, if_neg (not_mem_keys_iff.2 h), keys, List.map_append]
      rfl
    | some u => rw [mergeField_of_some h, keys_setField]
  lookup_put fields k v l := by
    cases h : fields.lookup k with
    | none =>
      rw [mergeField_of_none h, List.lookup_append]
      by_cases hl : l = k
      · subst hl
        simp [h, mergedValue]
      · simp [hl, lookup_cons_ite]
    | some u => rw [mergeField_of_some h, lookup_setField]

theorem mergedValue_self (k : String) (old : Option Json) (h : v.WellFormed) :
    mergedValue k (some (mergedValue k old v)) v = mergedValue k old v := by
  cases old with
  | none => simp only [mergedValue, joinContents_self h, ite_self]
  | some u =>
    simp only [mergedValue]
    split
    · exact joinContents_joinContents_self u h
    · rfl

/-- What was merged before changes nothing. -/
theorem mergeField_eq_self (old : Option Json) (h : v.WellFormed)
    (hk : fields.lookup k = some (mergedValue k old v)) : mergeField fields k v = fields := by
  rw [mergeField_of_some hk, mergedValue_self k old h, setField_of_lookup hk]

theorem mergedValue_assoc {old : Option Json} (hold : ∀ u, old = some u → u.WellFormed)
    (hv : v.WellFormed) (hw : w.WellFormed) (hentries : k = "content" → ∃ entries, v = .obj entries) :
    mergedValue k (some (mergedValue k old v)) w = mergedValue k old (mergedValue k (some v) w) := by
  cases old with
  | none => rfl
  | some u =>
    simp only [mergedValue]
    split
    · next hk => exact joinContents_assoc (hold u rfl) hv hw (hentries hk)
    · rfl

theorem mergeContent_obj (fields others : Fields) :
    (Json.obj fields).mergeContent (.obj others) = .obj (putAll mergeField fields others) := rfl

/-- Only objects are merged. -/
theorem mergeContent_of_not_object (h : v.fields? = none ∨ w.fields? = none) : v.mergeContent w = v := by
  unfold mergeContent
  split
  · simp [fields?] at h
  · rfl

theorem eq_obj_of_fields? (h : v.fields? ≠ none) : ∃ fields, v = .obj fields := by
  cases v with
  | obj fields => exact ⟨fields, rfl⟩
  | _ => exact absurd rfl h

theorem mergeContent_mergeContent_self (v : Json) (h : w.WellFormed) :
    (v.mergeContent w).mergeContent w = v.mergeContent w := by
  by_cases hobjects : v.fields? = none ∨ w.fields? = none
  · rw [mergeContent_of_not_object hobjects, mergeContent_of_not_object hobjects]
  · rw [not_or] at hobjects
    obtain ⟨fields, rfl⟩ := eq_obj_of_fields? hobjects.1
    obtain ⟨others, rfl⟩ := eq_obj_of_fields? hobjects.2
    rw [mergeContent_obj, mergeContent_obj]
    congr 1
    refine putAll_eq_self fun e he => ?_
    have hvalue := lookup_of_mem h.keys_nodup he
    refine mergeField_eq_self (fields.lookup e.1) (h.of_lookup hvalue) ?_
    rw [mergeField_puts.lookup_putAll fields h.keys_nodup, hvalue]

/-- An object whose content, if there is one, is an object too. -/
def HasEntries (v : Json) : Prop :=
  ∃ fields, v = .obj fields ∧ ∀ content, fields.lookup "content" = some content → ∃ entries, content = .obj entries

theorem mergeContent_assoc {u : Json} (hu : u.WellFormed) (hv : v.WellFormed) (hw : w.WellFormed)
    (h : v.HasEntries) : (u.mergeContent v).mergeContent w = u.mergeContent (v.mergeContent w) := by
  obtain ⟨g, rfl, hentries⟩ := h
  by_cases hu' : u.fields? = none
  · simp only [mergeContent_of_not_object (.inl hu')]
  by_cases hw' : w.fields? = none
  · simp only [mergeContent_of_not_object (.inr hw')]
  obtain ⟨f, rfl⟩ := eq_obj_of_fields? hu'
  obtain ⟨i, rfl⟩ := eq_obj_of_fields? hw'
  simp only [mergeContent_obj]
  congr 1
  refine mergeField_puts.putAll_assoc hu.keys_nodup hv.keys_nodup hw.keys_nodup (fun _ _ => rfl) ?_
  intro l x y hx hy
  refine mergedValue_assoc (fun _ hl => hu.of_lookup hl) (hv.of_lookup hx) (hw.of_lookup hy) ?_
  rintro rfl
  exact hentries x hx

/-- What a merge keeps of the fields it starts from: their keys stand in front in the same order, each with its value.
Only a content that is an object can grow, and what it grows by follows its own keys. -/
structure Kept (fields merged : Fields) : Prop where
  keys : keys fields <+: keys merged
  values : ∀ k v, fields.lookup k = some v → k ≠ "content" ∨ v.fields? = none → merged.lookup k = some v
  content : ∀ entries, fields.lookup "content" = some (.obj entries) →
    ∃ more, merged.lookup "content" = some (.obj more) ∧ Json.keys entries <+: Json.keys more

namespace Kept

variable {merged further : Fields}

theorem refl (fields : Fields) : Kept fields fields where
  keys := List.prefix_rfl
  values _ _ h _ := h
  content entries h := ⟨entries, h, List.prefix_rfl⟩

theorem trans (h : Kept fields merged) (h' : Kept merged further) : Kept fields further where
  keys := h.keys.trans h'.keys
  values k v hk hv := h'.values k v (h.values k v hk hv) hv
  content entries hk := by
    obtain ⟨more, hmore, hkeys⟩ := h.content entries hk
    obtain ⟨most, hmost, hkeys'⟩ := h'.content more hmore
    exact ⟨most, hmost, hkeys.trans hkeys'⟩

end Kept

theorem keys_prefix_setFields (fields others : Fields) : keys fields <+: keys (setFields fields others) := by
  rw [keys_setFields]
  exact List.prefix_append ..

theorem kept_mergeField (fields : Fields) (k : String) (v : Json) : Kept fields (mergeField fields k v) where
  keys := by
    rw [mergeField_puts.keys_put]
    split
    · exact List.prefix_rfl
    · exact List.prefix_append ..
  values l w hl hw := by
    rw [mergeField_puts.lookup_put]
    split
    · next hk =>
      subst hk
      rw [hl, mergedValue]
      split
      · next hcontent =>
        have hscalar := hw.resolve_left fun hne => hne hcontent
        rw [joinContents_of_not]
        rintro content entries - rfl
        exact absurd hscalar (by simp [fields?])
      · rfl
    · exact hl
  content entries hl := by
    rw [mergeField_puts.lookup_put]
    split
    · next hk =>
      subst hk
      rw [hl, mergedValue, if_pos rfl]
      cases v with
      | obj more => exact ⟨_, rfl, keys_prefix_setFields entries more⟩
      | _ => exact ⟨entries, rfl, List.prefix_rfl⟩
    · exact ⟨entries, hl, List.prefix_rfl⟩

theorem kept_putAll (fields others : Fields) : Kept fields (putAll mergeField fields others) := by
  induction others generalizing fields with
  | nil => exact .refl fields
  | cons e others ih => exact (kept_mergeField fields e.1 e.2).trans (ih _)

/-- What a merge adds to fields: the new fields of the other object, behind their own and in the same order. Of two
contents that are objects the entries are joined like that as well, but there the other ones count. -/
structure Gained (fields others merged : Fields) : Prop where
  keys : keys merged = keys fields ++ (keys others).removeAll (keys fields)
  values : ∀ k v, fields.lookup k = none → others.lookup k = some v → merged.lookup k = some v
  content : ∀ content entries, fields.lookup "content" = some (.obj content) →
    others.lookup "content" = some (.obj entries) →
    ∃ more, merged.lookup "content" = some (.obj more) ∧
      Json.keys more = Json.keys content ++ (Json.keys entries).removeAll (Json.keys content) ∧
      ∀ k, more.lookup k = (entries.lookup k).or (content.lookup k)

theorem gained_putAll (fields : Fields) (h : (Json.obj others).WellFormed) :
    Gained fields others (putAll mergeField fields others) where
  keys := mergeField_puts.keys_putAll_of_nodup fields h.keys_nodup
  values k v hk hv := by
    rw [mergeField_puts.lookup_putAll fields h.keys_nodup, hv, hk]
    rfl
  content content entries hcontent hentries := by
    have honce : (Json.keys entries).Nodup := (h.of_lookup hentries).keys_nodup
    refine ⟨setFields content entries, ?_, setField_puts.keys_putAll_of_nodup content honce, fun k => ?_⟩
    · rw [mergeField_puts.lookup_putAll fields h.keys_nodup, hentries, hcontent]
      rfl
    · refine (setField_puts.lookup_putAll content honce k).trans ?_
      cases entries.lookup k <;> rfl

theorem WellFormed.joinContents (hv : v.WellFormed) (hw : w.WellFormed) : (joinContents v w).WellFormed := by
  unfold Json.joinContents
  split
  · exact hv.setFields (wellFormed_obj_iff.1 hw).2
  · exact hv

theorem WellFormed.mergeContent (hv : v.WellFormed) (hw : w.WellFormed) : (v.mergeContent w).WellFormed := by
  by_cases hobjects : v.fields? = none ∨ w.fields? = none
  · rw [mergeContent_of_not_object hobjects]
    exact hv
  rw [not_or] at hobjects
  obtain ⟨fields, rfl⟩ := eq_obj_of_fields? hobjects.1
  obtain ⟨others, rfl⟩ := eq_obj_of_fields? hobjects.2
  rw [mergeContent_obj]
  refine mergeField_puts.wellFormed_putAll (fun k old u hold hu => ?_) hv (wellFormed_obj_iff.1 hw).2
  rcases old with _ | t
  · exact hu
  · rw [mergedValue]
    split
    · exact (hold t rfl).joinContents hu
    · exact hold t rfl

def Proper.mergeContent (v w : Proper) : Proper where
  json := v.json.mergeContent w
  wellFormed := v.wellFormed.mergeContent w.wellFormed

theorem gained_nil (fields : Fields) : Gained fields [] fields where
  keys := by simp [Json.keys, List.removeAll]
  values k v _ hv := by simp at hv
  content content entries _ hentries := by simp at hentries

/-- Merging a value a second time changes nothing. Three values can be merged in any grouping if the second one is an
object that has entries for its content, when it has one. A merge keeps all fields of an object and adds those that it
does not have, and joins the entries of two contents. Values that are no objects change nothing, and are not changed. -/
theorem mergeContent_laws :
    (∀ (v : Json) (w : Proper), (v.mergeContent w).mergeContent w = v.mergeContent w) ∧
    (∀ u v w : Proper, v.json.HasEntries → (u.mergeContent v).mergeContent w = u.mergeContent (v.mergeContent w)) ∧
    (∀ (fields : Fields) (w : Json), ∃ merged, (Json.obj fields).mergeContent w = .obj merged ∧ Kept fields merged) ∧
    (∀ (fields : Fields) (w : Proper),
      ∃ merged, (Json.obj fields).mergeContent w = .obj merged ∧ Gained fields w.fields merged) ∧
    ∀ v w : Json, v.fields? = none ∨ w.fields? = none → v.mergeContent w = v := by
  refine ⟨fun v w => mergeContent_mergeContent_self v w.wellFormed, fun u v w h => ?_, fun fields w => ?_,
    fun fields w => ?_, fun v w => mergeContent_of_not_object⟩
  · exact Proper.ext (mergeContent_assoc u.wellFormed v.wellFormed w.wellFormed h)
  · by_cases hw : w.fields? = none
    · exact ⟨fields, mergeContent_of_not_object (.inr hw), .refl fields⟩
    · obtain ⟨others, rfl⟩ := eq_obj_of_fields? hw
      exact ⟨_, mergeContent_obj fields others, kept_putAll fields others⟩
  · obtain ⟨w, hw⟩ := w
    by_cases hfields : w.fields? = none
    · refine ⟨fields, mergeContent_of_not_object (.inr hfields), ?_⟩
      rw [Proper.fields, hfields]
      exact gained_nil fields
    · obtain ⟨others, rfl⟩ := eq_obj_of_fields? hfields
      exact ⟨_, mergeContent_obj fields others, gained_putAll fields hw⟩

/-- A body with entries of its own, which another body has too, and a third body that adds to both. -/
def formBody : Proper where
  json := .obj [("required", .bool true), ("content", .obj [("form", .null), ("text", .null)])]
  wellFormed := by simp [wellFormed_obj_iff, keys]

def jsonBody : Proper where
  json := .obj [("content", .obj [("json", .bool true), ("form", .bool false)]), ("required", .null)]
  wellFormed := by simp [wellFormed_obj_iff, keys]

def orderBody : Proper where
  json := .obj [("title", .str "Order"), ("content", .obj [("json", .null), ("text", .bool true)])]
  wellFormed := by simp [wellFormed_obj_iff, keys]

theorem mergeContent_laws_bodies :
    (formBody.json.mergeContent jsonBody).mergeContent jsonBody = formBody.json.mergeContent jsonBody ∧
    (jsonBody.json.HasEntries ∧ (formBody.mergeContent (jsonBody.mergeContent orderBody)).json =
      .obj [("required", .bool true), ("content", .obj [("form", .bool false), ("text", .bool true), ("json", .null)]),
        ("title", .str "Order")]) ∧
    (∃ merged, (Json.obj formBody.fields).mergeContent jsonBody = .obj merged ∧
      Gained formBody.fields jsonBody.fields merged) ∧
    Json.null.fields? = none ∧ Json.null.mergeContent jsonBody = .null := by
  have hentries : jsonBody.json.HasEntries :=
    ⟨_, rfl, fun content hcontent => ⟨_, (Option.some.inj hcontent).symm⟩⟩
  obtain ⟨hself, hassoc, -, hgained, hscalar⟩ := mergeContent_laws
  refine ⟨hself _ _, ⟨hentries, ?_⟩, hgained _ _, rfl, hscalar _ _ (.inl rfl)⟩
  rw [← hassoc formBody jsonBody orderBody hentries]
  rfl

end RouteDocs.Json
