import Mathlib.Data.List.Nodup
import RouteDocs.Json.Edit
import RouteDocs.Proofs.List

namespace RouteDocs.Json

/-- A value that is made of its elements or fields. -/
def isContainer : Json → Bool
  | .null | .bool _ | .num _ | .str _ => false
  | .arr _ | .obj _ => true

/-- What holds of all values without parts, and of a value with parts if it holds of them, holds of all values. -/
@[elab_as_elim]
theorem induction {motive : Json → Prop} (scalar : ∀ v, v.isContainer = false → motive v)
    (arr : ∀ elements, (∀ v ∈ elements, motive v) → motive (.arr elements))
    (obj : ∀ fields : Fields, (∀ e ∈ fields, motive e.2) → motive (.obj fields)) (v : Json) : motive v := by
  match v with
  | .null => exact scalar _ rfl
  | .bool _ => exact scalar _ rfl
  | .num _ => exact scalar _ rfl
  | .str _ => exact scalar _ rfl
  | .arr elements => exact arr elements fun w _ => induction scalar arr obj w
  | .obj fields => exact obj fields fun e _ => induction scalar arr obj e.2
termination_by sizeOf v
decreasing_by
  · have hsize := List.sizeOf_lt_of_mem ‹w ∈ elements›
    simp only [Json.arr.sizeOf_spec]
    omega
  · have hsize := List.sizeOf_lt_of_mem ‹e ∈ fields›
    obtain ⟨l, w⟩ := e
    simp only [Prod.mk.sizeOf_spec] at hsize
    simp only [Json.obj.sizeOf_spec]
    omega

def keys (fields : Fields) : List String := fields.map Prod.fst

theorem mem_keys_iff {fields : Fields} {k : String} : k ∈ keys fields ↔ (fields.lookup k).isSome = true := by
  simp [keys, List.lookup_isSome_iff]

theorem not_mem_keys_iff {fields : Fields} {k : String} : k ∉ keys fields ↔ fields.lookup k = none := by
  rw [mem_keys_iff, Bool.not_eq_true, Option.isSome_eq_false_iff, Option.isNone_iff_eq_none]

/-- A value in which each key of an object occurs once, at every depth. -/
inductive WellFormed : Json → Prop where
  | scalar {v : Json} (h : v.isContainer = false) : WellFormed v
  | arr {elements : List Json} (nested : ∀ v ∈ elements, WellFormed v) : WellFormed (.arr elements)
  | obj {fields : Fields} (once : (keys fields).Nodup) (nested : ∀ e ∈ fields, WellFormed e.2) :
    WellFormed (.obj fields)

@[simp] theorem wellFormed_null : WellFormed .null := .scalar rfl

@[simp] theorem wellFormed_bool (b : Bool) : WellFormed (.bool b) := .scalar rfl

@[simp] theorem wellFormed_num (n : Number) : WellFormed (.num n) := .scalar rfl

@[simp] theorem wellFormed_str (s : String) : WellFormed (.str s) := .scalar rfl

theorem wellFormed_obj_iff {fields : Fields} :
    WellFormed (.obj fields) ↔ (keys fields).Nodup ∧ ∀ e ∈ fields, WellFormed e.2 := by
  constructor
  · intro h
    cases h with
    | scalar h => simp [isContainer] at h
    | obj once nested => exact ⟨once, nested⟩
  · rintro ⟨once, nested⟩
    exact .obj once nested

theorem WellFormed.keys_nodup {fields : Fields} (h : WellFormed (.obj fields)) : (keys fields).Nodup :=
  (wellFormed_obj_iff.1 h).1

theorem WellFormed.of_lookup {fields : Fields} {k : String} {v : Json} (h : WellFormed (.obj fields))
    (hk : fields.lookup k = some v) : v.WellFormed := by
  obtain ⟨before, after, hfields, -⟩ := List.lookup_eq_some_iff.1 hk
  exact (wellFormed_obj_iff.1 h).2 (k, v) (by simp [hfields])

/-- Objects with the same keys in the same order and the same values are equal. -/
theorem eq_of_lookup {fields others : Fields} (hkeys : keys fields = keys others) (once : (keys fields).Nodup)
    (h : ∀ l ∈ keys fields, fields.lookup l = others.lookup l) : fields = others := by
  induction fields generalizing others with
  | nil =>
    rw [List.map_eq_nil_iff.1 hkeys.symm]
  | cons e fields ih =>
    obtain ⟨k, v⟩ := e
    obtain ⟨⟨j, w⟩, rest, rfl⟩ : ∃ e rest, others = e :: rest := by
      cases others with
      | nil => simp [keys] at hkeys
      | cons e rest => exact ⟨e, rest, rfl⟩
    obtain ⟨rfl, hrest⟩ : k = j ∧ keys fields = keys rest := by simpa [keys] using hkeys
    obtain ⟨hk, honce⟩ := List.nodup_cons.1 once
    obtain rfl : v = w := by simpa using h k (by simp [keys])
    rw [ih hrest honce]
    intro l hl
    have hne : l ≠ k := fun he => hk (he ▸ hl)
    simpa only [lookup_cons_ite, if_neg hne] using h l (List.mem_cons_of_mem _ hl)

/-- A way to put a field into an object: a new field comes last, and one that is there keeps its place and gets a value
that is joined from its own and the new one. -/
structure Puts (put : Fields → String → Json → Fields) (joined : String → Option Json → Json → Json) : Prop where
  keys_put : ∀ fields k v, keys (put fields k v) = if k ∈ keys fields then keys fields else keys fields ++ [k]
  lookup_put : ∀ fields k v l,
    (put fields k v).lookup l = if l = k then some (joined k (fields.lookup k) v) else fields.lookup l

/-- Puts in fields one by one. -/
def putAll (put : Fields → String → Json → Fields) (fields others : Fields) : Fields :=
  others.foldl (fun acc e => put acc e.1 e.2) fields

/-- What was put in before changes nothing. -/
theorem putAll_eq_self {put : Fields → String → Json → Fields} {fields others : Fields}
    (h : ∀ e ∈ others, put fields e.1 e.2 = fields) : putAll put fields others = fields := by
  induction others with
  | nil => rfl
  | cons e others ih =>
    change putAll put (put fields e.1 e.2) others = fields
    rw [h e (by simp)]
    exact ih fun d hd => h d (by simp [hd])

namespace Puts

variable {put : Fields → String → Json → Fields} {joined : String → Option Json → Json → Json}
  {fields others f g i : Fields}

/-- Fields that are put in one by one keep their places, and new keys follow in the order in which they are put in
first. -/
theorem keys_putAll (h : Puts put joined) (fields others : Fields) :
    keys (putAll put fields others) =
      keys fields ++ ((keys others).removeAll (keys fields)).eraseDups := by
  induction others generalizing fields with
  | nil => simp [putAll, keys, List.removeAll]
  | cons e rest ih =>
    obtain ⟨k, v⟩ := e
    have hstep : putAll put fields ((k, v) :: rest) = putAll put (put fields k v) rest := rfl
    have hkeys : keys ((k, v) :: rest) = k :: keys rest := rfl
    rw [hstep, hkeys, ih, h.keys_put]
    by_cases hk : k ∈ keys fields
    · simp [hk, List.removeAll]
    · have hall : (keys rest).removeAll (keys fields ++ [k]) =
          ((keys rest).removeAll (keys fields)).filter fun l => !l == k := by
        rw [List.removeAll, List.removeAll, List.filter_filter]
        apply List.filter_congr
        intro l _
        simp [Bool.and_comm, Bool.beq_eq_decide_eq]
      rw [if_neg hk, hall, List.append_assoc]
      simp [List.removeAll, hk, List.eraseDups_cons]

theorem keys_putAll_of_nodup (h : Puts put joined) (fields : Fields) (once : (keys others).Nodup) :
    keys (putAll put fields others) =
      keys fields ++ (keys others).removeAll (keys fields) := by
  rw [h.keys_putAll, List.removeAll, eraseDups_of_nodup (once.filter _)]

theorem nodup_putAll (h : Puts put joined) (hfields : (keys fields).Nodup)
    (hothers : (keys others).Nodup) : (keys (putAll put fields others)).Nodup := by
  rw [h.keys_putAll_of_nodup fields hothers]
  refine hfields.append (hothers.filter _) fun l hl hnew => ?_
  simp [List.removeAll, hl] at hnew

/-- Of fields with different keys each is put in once. -/
theorem lookup_putAll (h : Puts put joined) (fields : Fields) (once : (keys others).Nodup) (l : String) :
    (putAll put fields others).lookup l =
      match others.lookup l with
      | some v => some (joined l (fields.lookup l) v)
      | none => fields.lookup l := by
  induction others generalizing fields with
  | nil => rfl
  | cons e rest ih =>
    obtain ⟨k, v⟩ := e
    obtain ⟨hk, hrest⟩ := List.nodup_cons.1 once
    have hstep : putAll put fields ((k, v) :: rest) = putAll put (put fields k v) rest := rfl
    rw [hstep, ih _ hrest, h.lookup_put, lookup_cons_ite]
    by_cases hl : l = k
    · subst hl
      rw [not_mem_keys_iff.1 hk, if_pos rfl, if_pos rfl]
    · rw [if_neg hl, if_neg hl]

/-- If the values under each key are joined associatively, so are the fields. -/
theorem putAll_assoc (h : Puts put joined) (hf : (keys f).Nodup) (hg : (keys g).Nodup)
    (hi : (keys i).Nodup) (hnew : ∀ l w, joined l none w = w)
    (hjoined : ∀ l v w, g.lookup l = some v → i.lookup l = some w →
      joined l (some (joined l (f.lookup l) v)) w = joined l (f.lookup l) (joined l (some v) w)) :
    putAll put (putAll put f g) i = putAll put f (putAll put g i) := by
  have hfg := h.nodup_putAll hf hg
  have hgi := h.nodup_putAll hg hi
  apply eq_of_lookup
  · rw [h.keys_putAll_of_nodup _ hi, h.keys_putAll_of_nodup _ hg, h.keys_putAll_of_nodup _ hgi,
      h.keys_putAll_of_nodup _ hi, append_removeAll_assoc]
  · exact h.nodup_putAll hfg hi
  · intro l _
    rw [h.lookup_putAll _ hi, h.lookup_putAll _ hg, h.lookup_putAll _ hgi, h.lookup_putAll _ hi]
    cases hgl : g.lookup l with
    | none => cases i.lookup l <;> simp [hnew]
    | some v =>
      cases hil : i.lookup l with
      | none => rfl
      | some w => exact congrArg some (hjoined l v w hgl hil)

end Puts

theorem keys_setField (k : String) (v : Json) (fields : Fields) :
    keys (setField k v fields) = if k ∈ keys fields then keys fields else keys fields ++ [k] := by
  induction fields with
  | nil => simp [setField, keys]
  | cons e rest ih =>
    obtain ⟨l, w⟩ := e
    by_cases hk : k = l
    · simp [setField, keys, hk]
    · have hm : k ∈ keys ((l, w) :: rest) ↔ k ∈ keys rest := by simp [keys, hk]
      rw [setField, if_neg hk]
      change l :: keys (setField k v rest) = _
      simp only [ih, hm]
      split <;> rfl

theorem lookup_setField (k l : String) (v : Json) (fields : Fields) :
    (setField k v fields).lookup l = if l = k then some v else fields.lookup l := by
  induction fields with
  | nil => exact lookup_cons_ite k l v []
  | cons e rest ih =>
    obtain ⟨j, w⟩ := e
    rw [setField, lookup_cons_ite]
    split
    · next hk =>
      subst hk
      rw [lookup_cons_ite]
      split <;> rfl
    · next hk =>
      rw [lookup_cons_ite, ih]
      by_cases hl : l = j
      · subst hl
        simp [Ne.symm hk]
      · simp [hl]

theorem setField_puts : Puts (fun fields k v => setField k v fields) fun _ _ v => v where
  keys_put fields k v := keys_setField k v fields
  lookup_put fields k v l := lookup_setField k l v fields

/-- Fields that are set one by one keep their places, and new keys follow in the order in which they are
set first. -/
theorem keys_setFields (fields others : Fields) :
    keys (setFields fields others) =
      keys fields ++ ((keys others).removeAll (keys fields)).eraseDups :=
  setField_puts.keys_putAll fields others

theorem keys_ofFields (fields : Fields) : keys (setFields [] fields) = (keys fields).eraseDups := by
  have hnil : keys [] = [] := rfl
  rw [keys_setFields, hnil, List.nil_append, List.removeAll_nil]

/-- Of several values for a key the last one is kept. -/
theorem lookup_setFields (fields others : Fields) (l : String) :
    (setFields fields others).lookup l =
      ((others.reverse.find? fun e => e.1 = l).map Prod.snd).or (fields.lookup l) := by
  induction others generalizing fields with
  | nil => simp [setFields]
  | cons e rest ih =>
    obtain ⟨k, v⟩ := e
    have hstep : setFields fields ((k, v) :: rest) = setFields (setField k v fields) rest := rfl
    rw [hstep, ih, lookup_setField, List.reverse_cons, List.find?_append]
    cases rest.reverse.find? fun e => e.1 = l with
    | some e => rfl
    | none => by_cases hl : l = k <;> simp [hl, eq_comm]

theorem lookup_ofFields (fields : Fields) (l : String) :
    (setFields [] fields).lookup l = (fields.reverse.find? fun e => e.1 = l).map Prod.snd := by
  rw [lookup_setFields, List.lookup_nil, Option.or_none]

theorem filterMap_text? (texts : List String) : (texts.map Json.str).filterMap text? = texts := by
  simp [List.filterMap_map, Function.comp_def, text?]

end RouteDocs.Json
