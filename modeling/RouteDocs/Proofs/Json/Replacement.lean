import RouteDocs.Proofs.Json

namespace RouteDocs.Json

/-- A step from a value to one of its parts. -/
inductive Step where
  | key (k : String)
  | index (i : Nat)
  deriving DecidableEq

/-- The part that a step leads to. -/
def step? : Json → Step → Option Json
  | .obj fields, .key k => fields.lookup k
  | .arr elements, .index i => elements[i]?
  | _, _ => none

/-- The value that a path leads to. -/
def at? (v : Json) (p : List Step) : Option Json := p.foldlM step? v

@[simp] theorem at?_nil (v : Json) : v.at? [] = some v := rfl

@[simp] theorem at?_cons (v : Json) (s : Step) (p : List Step) : v.at? (s :: p) = (v.step? s).bind (·.at? p) := rfl

theorem at?_append (v : Json) (p q : List Step) : v.at? (p ++ q) = (v.at? p).bind (·.at? q) := List.foldlM_append

theorem step?_key_isSome_iff {v : Json} {k : String} :
    (v.step? (.key k)).isSome = true ↔ ∃ fields, v = .obj fields ∧ k ∈ keys fields := by
  cases v with
  | obj fields => simp [step?, mem_keys_iff]
  | _ => simp [step?]

/-- What is seen of a value from outside: the keys of an object in their order, the length of an array, or the
whole of any other value. -/
inductive Outline where
  | object (keys : List String)
  | array (length : Nat)
  | scalar (v : Json)

def outline : Json → Outline
  | .obj fields => .object (keys fields)
  | .arr elements => .array elements.length
  | v => .scalar v

theorem replaceInFields_eq (k : String) (r : Json) (fields : Fields) : replaceInFields k r fields =
    fields.map fun e => (e.1, if e.1 = k then r else e.2.replaceKey k r) := by
  induction fields with
  | nil => rfl
  | cons e fields ih => rw [replaceInFields, ih, List.map_cons]

theorem replaceInElements_eq (k : String) (r : Json) (elements : List Json) :
    replaceInElements k r elements = elements.map (·.replaceKey k r) := by
  induction elements with
  | nil => rfl
  | cons v elements ih => rw [replaceInElements, ih, List.map_cons]

variable {v : Json} {k : String} {r : Json}

@[simp] theorem replaceKey_obj (fields : Fields) (k : String) (r : Json) : (Json.obj fields).replaceKey k r =
    .obj (fields.map fun e => (e.1, if e.1 = k then r else e.2.replaceKey k r)) := by
  rw [replaceKey, replaceInFields_eq]

@[simp] theorem replaceKey_arr (elements : List Json) (k : String) (r : Json) :
    (Json.arr elements).replaceKey k r = .arr (elements.map (·.replaceKey k r)) := by
  rw [replaceKey, replaceInElements_eq]

theorem replaceKey_scalar (h : v.isContainer = false) (k : String) (r : Json) : v.replaceKey k r = v := by
  cases v with
  | arr elements => simp [isContainer] at h
  | obj fields => simp [isContainer] at h
  | _ => rfl

theorem outline_replaceKey (v : Json) (k : String) (r : Json) : (v.replaceKey k r).outline = v.outline := by
  cases v with
  | obj fields => simp [outline, keys]
  | arr elements => simp [outline]
  | _ => rfl

/-- A step to the key leads to the replacement, and any other step to the replaced part. -/
theorem step?_replaceKey (v : Json) (k : String) (r : Json) (s : Step) : (v.replaceKey k r).step? s =
    (v.step? s).map fun w => if s = .key k then r else w.replaceKey k r := by
  cases v with
  | obj fields =>
    cases s with
    | index i => simp [step?]
    | key l =>
      simp only [replaceKey_obj, step?, Step.key.injEq]
      induction fields with
      | nil => rfl
      | cons e fields ih =>
        obtain ⟨j, w⟩ := e
        rw [List.map_cons, lookup_cons_ite, lookup_cons_ite, ih]
        split
        · next hl => rw [hl, Option.map_some]
        · rfl
  | arr elements =>
    cases s with
    | key l => simp [step?]
    | index i => simp [step?]
  | _ => rfl

theorem at?_replaceKey_of_not_mem {p : List Step} (h : .key k ∉ p) (v r : Json) :
    (v.replaceKey k r).at? p = (v.at? p).map (·.replaceKey k r) := by
  induction p generalizing v with
  | nil => rfl
  | cons s p ih =>
    rw [List.mem_cons, not_or] at h
    obtain ⟨hs, hp⟩ := h
    simp only [at?_cons, step?_replaceKey, if_neg (Ne.symm hs)]
    cases v.step? s with
    | none => rfl
    | some w => exact ih hp w

/-- Behind the first step to the key, a path is one of the replacement. -/
theorem at?_replaceKey_key {q : List Step} (h : .key k ∉ q) (v r : Json) (s : List Step) :
    (v.replaceKey k r).at? (q ++ .key k :: s) =
      ((v.at? q).bind (·.step? (.key k))).bind fun _ => r.at? s := by
  rw [at?_append, at?_replaceKey_of_not_mem h, Option.bind_map]
  cases v.at? q with
  | none => rfl
  | some w =>
    simp only [Option.bind_some, Function.comp_apply, at?_cons, step?_replaceKey, if_true]
    cases w.step? (.key k) <;> rfl

/-- A path without the key leads to what it led to before: to an object with the same keys, an array of the same
length, or the same scalar. A path through the key can be followed exactly if its part before the key leads to an object
that has the key, and the part behind the key can be followed in the replacement, where it leads to the same value. -/
theorem at?_replaceKey (v : Json) (k : String) (r : Json) :
    (∀ p, .key k ∉ p → ((v.replaceKey k r).at? p).map outline = (v.at? p).map outline) ∧
    ∀ q s, .key k ∉ q → ∀ w, (v.replaceKey k r).at? (q ++ .key k :: s) = some w ↔
      (∃ fields, v.at? q = some (.obj fields) ∧ k ∈ keys fields) ∧ r.at? s = some w := by
  constructor
  · intro p hp
    rw [at?_replaceKey_of_not_mem hp, Option.map_map]
    simp only [Function.comp_def, outline_replaceKey]
  · intro q s hq w
    have hreached : ((v.at? q).bind (·.step? (.key k))).isSome = true ↔
        ∃ fields, v.at? q = some (.obj fields) ∧ k ∈ keys fields := by
      cases v.at? q with
      | none => simp
      | some u => simp [step?_key_isSome_iff]
    rw [at?_replaceKey_key hq, ← hreached, Option.isSome_iff_exists, Option.bind_eq_some_iff, exists_and_right]

/-- A target with a target and a list in it, and a list with targets in it. -/
def targets : Json := .obj [("target", .obj [("target", .null), ("list", .null)]), ("list",
  .arr [.obj [("target", .bool true)], .obj [("other", .obj [("target", .null), ("keep", .str "k")])]])]

def newTarget : Json := .obj [("target", .str "x")]

theorem at?_replaceKey_targets :
    (Step.key "target" ∉ [.key "list", .index 1, .key "other"] ∧
      ((targets.replaceKey "target" newTarget).at? [.key "list", .index 1, .key "other"]).map outline =
        some (.object ["target", "keep"])) ∧
    (Step.key "target" ∉ [.key "list", .index 0] ∧ (targets.replaceKey "target" newTarget).at?
      ([.key "list", .index 0] ++ .key "target" :: [.key "target"]) = some (.str "x")) := by
  obtain ⟨hwithout, hthrough⟩ := at?_replaceKey targets "target" newTarget
  have hother : Step.key "target" ∉ [.key "list", .index 1, .key "other"] := by decide
  have hlist : Step.key "target" ∉ [.key "list", .index 0] := by decide
  have hreached : ∃ fields, targets.at? [.key "list", .index 0] = some (.obj fields) ∧ "target" ∈ keys fields :=
    ⟨[("target", .bool true)], rfl, by decide⟩
  exact ⟨⟨hother, (hwithout _ hother).trans rfl⟩, hlist, (hthrough _ _ hlist _).2 ⟨hreached, rfl⟩⟩

/-- A key occurs in a value, at some depth. -/
inductive Occurs (k : String) : Json → Prop where
  | here {fields : Fields} (found : k ∈ keys fields) : Occurs k (.obj fields)
  | field {fields : Fields} {e : String × Json} (member : e ∈ fields) (nested : Occurs k e.2) :
    Occurs k (.obj fields)
  | element {elements : List Json} {v : Json} (member : v ∈ elements) (nested : Occurs k v) : Occurs k (.arr elements)

theorem not_occurs_scalar (h : v.isContainer = false) : ¬ Occurs k v := by
  intro hk
  cases hk <;> exact absurd h (by simp [isContainer])

@[simp] theorem occurs_obj_iff {fields : Fields} :
    Occurs k (.obj fields) ↔ ∃ e ∈ fields, e.1 = k ∨ Occurs k e.2 := by
  constructor
  · intro h
    cases h with
    | here found =>
      obtain ⟨e, he, hk⟩ := List.mem_map.1 found
      exact ⟨e, he, .inl hk⟩
    | field member nested => exact ⟨_, member, .inr nested⟩
  · rintro ⟨e, he, rfl | hnested⟩
    · exact .here (List.mem_map_of_mem he)
    · exact .field he hnested

@[simp] theorem occurs_arr_iff {elements : List Json} : Occurs k (.arr elements) ↔ ∃ v ∈ elements, Occurs k v := by
  constructor
  · intro h
    cases h with
    | element member nested => exact ⟨_, member, nested⟩
  · rintro ⟨v, hv, hnested⟩
    exact .element hv hnested

theorem replaceKey_of_not_occurs (h : ¬ Occurs k v) (r : Json) : v.replaceKey k r = v := by
  induction v using induction with
  | scalar v hv => exact replaceKey_scalar hv k r
  | arr elements ih =>
    have hsame : ∀ w ∈ elements, w.replaceKey k r = w :=
      fun w hw => ih w hw fun hk => h (occurs_arr_iff.2 ⟨w, hw, hk⟩)
    rw [replaceKey_arr, List.map_congr_left hsame, List.map_id']
  | obj fields ih =>
    have hsame : ∀ e ∈ fields, (e.1, if e.1 = k then r else e.2.replaceKey k r) = e := by
      intro e he
      have hkey : e.1 ≠ k := fun hk => h (occurs_obj_iff.2 ⟨e, he, .inl hk⟩)
      have hnested : ¬ Occurs k e.2 := fun hk => h (occurs_obj_iff.2 ⟨e, he, .inr hk⟩)
      rw [if_neg hkey, ih e he hnested]
    rw [replaceKey_obj, List.map_congr_left hsame, List.map_id']

/-- Where the key occurs, different replacements give different values. -/
theorem Occurs.replaceKey_inj (h : Occurs k v) {r' : Json} (heq : v.replaceKey k r = v.replaceKey k r') : r = r' := by
  induction h with
  | here found =>
    obtain ⟨e, he, hk⟩ := List.mem_map.1 found
    simp only [replaceKey_obj, obj.injEq, List.map_inj_left, Prod.mk.injEq, true_and] at heq
    simpa only [hk, if_true] using heq e he
  | @field fields e member nested ih =>
    simp only [replaceKey_obj, obj.injEq, List.map_inj_left, Prod.mk.injEq, true_and] at heq
    have hvalue := heq e member
    by_cases hk : e.1 = k
    · simpa only [hk, if_true] using hvalue
    · rw [if_neg hk, if_neg hk] at hvalue
      exact ih hvalue
  | element member nested ih =>
    simp only [replaceKey_arr, arr.injEq, List.map_inj_left] at heq
    exact ih (heq _ member)

/-- Only the later of two replacements for a key is left. -/
theorem replaceKey_replaceKey (v : Json) (k : String) (r r' : Json) :
    (v.replaceKey k r).replaceKey k r' = v.replaceKey k r' := by
  induction v using induction with
  | scalar v hv => rw [replaceKey_scalar hv]
  | arr elements ih =>
    simp only [replaceKey_arr, List.map_map, arr.injEq, List.map_inj_left, Function.comp_apply]
    exact ih
  | obj fields ih =>
    simp only [replaceKey_obj, List.map_map, obj.injEq, List.map_inj_left, Function.comp_apply, Prod.mk.injEq]
    intro e he
    by_cases hk : e.1 = k
    · simp only [hk, if_true, and_self]
    · simp only [hk, if_false, ih e he, and_self]

/-- Keys that do not occur in the replacement of each other are replaced in any order. -/
theorem replaceKey_comm {k₁ k₂ : String} {r₁ r₂ : Json} (hk : k₁ ≠ k₂) (h₁ : ¬ Occurs k₂ r₁) (h₂ : ¬ Occurs k₁ r₂)
    (v : Json) : (v.replaceKey k₁ r₁).replaceKey k₂ r₂ = (v.replaceKey k₂ r₂).replaceKey k₁ r₁ := by
  induction v using induction with
  | scalar v hv => simp only [replaceKey_scalar hv]
  | arr elements ih =>
    simp only [replaceKey_arr, List.map_map, arr.injEq, List.map_inj_left, Function.comp_apply]
    exact ih
  | obj fields ih =>
    simp only [replaceKey_obj, List.map_map, obj.injEq, List.map_inj_left, Function.comp_apply, Prod.mk.injEq]
    intro e he
    by_cases he₁ : e.1 = k₁
    · simp only [he₁, hk, if_true, if_false, replaceKey_of_not_occurs h₁, and_self]
    · by_cases he₂ : e.1 = k₂
      · simp only [he₂, hk.symm, if_true, if_false, replaceKey_of_not_occurs h₂, and_self]
      · simp only [he₁, he₂, if_false, ih e he, and_self]

/-- A replacement takes the place of an earlier one for its key. It changes nothing where the key does not occur, and
where the key occurs it can be told from any other one. Replacements for two keys can change places if neither holds the
key of the other. -/
theorem replaceKey_laws (v : Json) (k : String) (r : Json) :
    (∀ r', (v.replaceKey k r).replaceKey k r' = v.replaceKey k r') ∧
    (v.replaceKey k r).replaceKey k r = v.replaceKey k r ∧
    (¬ Occurs k v → v.replaceKey k r = v) ∧
    (Occurs k v → ∀ r', v.replaceKey k r = v.replaceKey k r' → r = r') ∧
    ∀ k' r', k ≠ k' → ¬ Occurs k' r → ¬ Occurs k r' →
      (v.replaceKey k r).replaceKey k' r' = (v.replaceKey k' r').replaceKey k r :=
  ⟨replaceKey_replaceKey v k r, replaceKey_replaceKey v k r r, fun h => replaceKey_of_not_occurs h r,
    fun h _ => h.replaceKey_inj, fun _ _ hk h h' => replaceKey_comm hk h h' v⟩

/-- Each of the two keys occurs in a value of the other one, and in its own replacement. -/
theorem replaceKey_laws_targets :
    (¬ Occurs "absent" targets ∧ targets.replaceKey "absent" newTarget = targets) ∧
    (Occurs "target" targets ∧ targets.replaceKey "target" newTarget ≠ targets.replaceKey "target" .null) ∧
    "target" ≠ "list" ∧ ¬ Occurs "list" newTarget ∧ ¬ Occurs "target" (.obj [("list", .null)]) ∧
    (targets.replaceKey "target" newTarget).replaceKey "list" (.obj [("list", .null)]) =
      (targets.replaceKey "list" (.obj [("list", .null)])).replaceKey "target" newTarget := by
  have hnull (k : String) : ¬ Occurs k .null := not_occurs_scalar rfl
  have hbool (k : String) (b : Bool) : ¬ Occurs k (.bool b) := not_occurs_scalar rfl
  have hstr (k s : String) : ¬ Occurs k (.str s) := not_occurs_scalar rfl
  have habsent : ¬ Occurs "absent" targets := by simp [targets, hnull, hbool, hstr]
  have hoccurs : Occurs "target" targets := .here (by decide)
  have hnew : newTarget ≠ .null := nofun
  have hkeys : "target" ≠ "list" := by decide
  have hlist : ¬ Occurs "list" newTarget := by simp [newTarget, hstr]
  have htarget : ¬ Occurs "target" (.obj [("list", .null)]) := by simp [hnull]
  obtain ⟨-, -, hunchanged, -⟩ := replaceKey_laws targets "absent" newTarget
  obtain ⟨-, -, -, hinj, hcomm⟩ := replaceKey_laws targets "target" newTarget
  exact ⟨⟨habsent, hunchanged habsent⟩, ⟨hoccurs, fun heq => hnew (hinj hoccurs _ heq)⟩, hkeys, hlist, htarget,
    hcomm _ _ hkeys hlist htarget⟩

end RouteDocs.Json
