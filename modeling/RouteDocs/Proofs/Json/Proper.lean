import RouteDocs.Json.Reader
import RouteDocs.Proofs.Json

namespace RouteDocs.Json

/-- A value in which each key of an object occurs once, at every depth. -/
structure Proper where
  json : Json
  wellFormed : json.WellFormed

namespace Proper

instance : Coe Proper Json := ⟨json⟩

/-- The fields of an object. Any other value has none. -/
def fields (v : Proper) : Fields := v.json.fields?.getD []

@[ext]
theorem ext {v w : Proper} (h : v.json = w.json) : v = w := by
  cases v
  cases w
  cases h
  rfl

end Proper

variable {fields others : Fields} {k : String} {v : Json}

theorem lookup_of_mem (once : (keys fields).Nodup) {e : String × Json} (he : e ∈ fields) :
    fields.lookup e.1 = some e.2 := by
  induction fields with
  | nil => simp at he
  | cons d rest ih =>
    obtain ⟨l, u⟩ := d
    obtain ⟨hl, hrest⟩ := List.nodup_cons.1 once
    rw [lookup_cons_ite]
    rcases List.mem_cons.1 he with rfl | he
    · rw [if_pos rfl]
    · have hne : e.1 ≠ l := fun hk => hl (hk ▸ (List.mem_map_of_mem he : e.1 ∈ keys rest))
      rw [if_neg hne, ih hrest he]

theorem wellFormed_obj_iff_lookup : WellFormed (.obj fields) ↔
    (keys fields).Nodup ∧ ∀ k v, fields.lookup k = some v → v.WellFormed := by
  constructor
  · intro h
    exact ⟨h.keys_nodup, fun k v hk => h.of_lookup hk⟩
  · rintro ⟨once, nested⟩
    exact .obj once fun e he => nested e.1 e.2 (lookup_of_mem once he)

namespace Puts

variable {put : Fields → String → Json → Fields} {joined : String → Option Json → Json → Json}

/-- Where values are joined to proper values, fields can be put in. -/
theorem wellFormed_put (h : Puts put joined)
    (hjoined : ∀ k old v, (∀ u, old = some u → u.WellFormed) → v.WellFormed → (joined k old v).WellFormed)
    (hf : WellFormed (.obj fields)) (k : String) (hv : v.WellFormed) : WellFormed (.obj (put fields k v)) := by
  rw [wellFormed_obj_iff_lookup]
  constructor
  · rw [h.keys_put]
    split
    · exact hf.keys_nodup
    · next hk => exact hf.keys_nodup.append (List.nodup_singleton k) (by simpa using hk)
  · intro l w hl
    rw [h.lookup_put] at hl
    split at hl
    · rw [← Option.some.inj hl]
      exact hjoined k _ v (fun u hu => hf.of_lookup hu) hv
    · exact hf.of_lookup hl

theorem wellFormed_putAll (h : Puts put joined)
    (hjoined : ∀ k old v, (∀ u, old = some u → u.WellFormed) → v.WellFormed → (joined k old v).WellFormed)
    (hf : WellFormed (.obj fields)) (hothers : ∀ e ∈ others, e.2.WellFormed) :
    WellFormed (.obj (putAll put fields others)) := by
  induction others generalizing fields with
  | nil => exact hf
  | cons e others ih =>
    obtain ⟨he, hothers⟩ := List.forall_mem_cons.1 hothers
    exact ih (h.wellFormed_put hjoined hf e.1 he) hothers

end Puts

theorem WellFormed.setFields (hf : WellFormed (.obj fields)) (hothers : ∀ e ∈ others, e.2.WellFormed) :
    WellFormed (.obj (Json.setFields fields others)) :=
  setField_puts.wellFormed_putAll (fun _ _ _ _ hv => hv) hf hothers

theorem WellFormed.ofFields (h : ∀ e ∈ fields, e.2.WellFormed) : WellFormed (.ofFields fields) :=
  WellFormed.setFields (.obj List.nodup_nil (by simp)) h

namespace Reading

mutual

theorem wellFormed_toJson? {levels : Nat} {r : Reading} {v : Json} (h : r.toJson? levels = some v) :
    v.WellFormed := by
  match r with
  | .null =>
    rw [← Option.some.inj h]
    exact wellFormed_null
  | .bool b =>
    rw [← Option.some.inj h]
    exact wellFormed_bool b
  | .num n =>
    obtain ⟨m, -, rfl⟩ := Option.map_eq_some_iff.1 h
    exact wellFormed_num m
  | .str s =>
    obtain ⟨t, -, rfl⟩ := Option.map_eq_some_iff.1 h
    exact wellFormed_str t
  | .arr elements =>
    rw [toJson?] at h
    split at h
    · exact absurd h (by simp)
    · obtain ⟨vs, hvs, hv⟩ := Option.bind_eq_some_iff.1 h
      rw [← Option.some.inj hv]
      exact .arr (wellFormed_elementsToJson? hvs)
  | .obj fields =>
    rw [toJson?] at h
    split at h
    · exact absurd h (by simp)
    · obtain ⟨fs, hfs, hv⟩ := Option.bind_eq_some_iff.1 h
      rw [← Option.some.inj hv]
      exact .ofFields (wellFormed_fieldsToJson? hfs)

theorem wellFormed_elementsToJson? {levels : Nat} {rs : List Reading} {vs : List Json}
    (h : elementsToJson? levels rs = some vs) : ∀ v ∈ vs, v.WellFormed := by
  match rs with
  | [] =>
    rw [← Option.some.inj h]
    simp
  | r :: rs =>
    obtain ⟨v, hv, hrest⟩ := Option.bind_eq_some_iff.1 h
    obtain ⟨ws, hws, hvs⟩ := Option.bind_eq_some_iff.1 hrest
    rw [← Option.some.inj hvs]
    exact List.forall_mem_cons.2 ⟨wellFormed_toJson? hv, wellFormed_elementsToJson? hws⟩

theorem wellFormed_fieldsToJson? {levels : Nat} {rs : List (Option String × Reading)} {fields : Fields}
    (h : fieldsToJson? levels rs = some fields) : ∀ e ∈ fields, e.2.WellFormed := by
  match rs with
  | [] =>
    rw [← Option.some.inj h]
    simp
  | (k, r) :: rs =>
    obtain ⟨l, -, hrest⟩ := Option.bind_eq_some_iff.1 h
    obtain ⟨v, hv, hrest⟩ := Option.bind_eq_some_iff.1 hrest
    obtain ⟨fs, hfs, hfields⟩ := Option.bind_eq_some_iff.1 hrest
    rw [← Option.some.inj hfields]
    exact List.forall_mem_cons.2 ⟨wellFormed_toJson? hv, wellFormed_fieldsToJson? hfs⟩

end

end Reading

/-- Whatever is read is proper. -/
theorem wellFormed_ofText? {text : String} (h : ofText? text = some v) : v.WellFormed := by
  obtain ⟨r, -, hv⟩ := Option.bind_eq_some_iff.1 h
  exact Reading.wellFormed_toJson? hv

end RouteDocs.Json
