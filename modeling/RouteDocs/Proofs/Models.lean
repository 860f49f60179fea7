import RouteDocs.Proofs.List
import RouteDocs.Proofs.Text
import RouteDocs.Schema.Models

namespace RouteDocs

namespace TypeName

/-- The name of a type says where the type is defined. -/
def Qualified (t : String) : Prop := ':' ∈ t.toList ∨ '\\' ∈ t.toList

theorem qualified_iff {t : String} : Qualified t ↔ ∃ c ∈ t.toList, (c == ':' || c == '\\') = true := by
  simp only [Qualified, Bool.or_eq_true, beq_iff_eq, and_or_left, exists_or, exists_eq_right]

theorem not_qualified_tail (t : String) : ¬ Qualified (tail t) := by
  rw [qualified_iff, tail, String.toList_ofList]
  intro hx
  obtain ⟨c, hc, hsep⟩ := hx
  exact Text.not_mem_afterLast (p := fun c => c == ':' || c == '\\') hsep t.toList hc

/-- The tail of a name is the name itself where nothing stands before it. -/
theorem tail_eq_self_iff {t : String} : tail t = t ↔ ¬ Qualified t := by
  constructor
  · intro h
    exact h ▸ not_qualified_tail t
  · intro h
    rcases Text.eq_append_afterLast (fun c => c == ':' || c == '\\') t.toList with hs | ⟨before, c, hc, hs⟩
    · rw [tail, ← hs, String.ofList_toList]
    · exact absurd (qualified_iff.2 ⟨c, by rw [hs]; simp, hc⟩) h

end TypeName

namespace Lookup

/-- Where a request tells its model to be: where the first import with its name says, or else where its own name
does. -/
inductive Tells (l : Lookup) : Option String → Prop where
  | imported {i : Import} (first : IsFirst (fun i => i.visible = TypeName.tail l.type) l.imports i) :
    Tells l (some i.path)
  | qualified (hidden : ∀ i ∈ l.imports, i.visible ≠ TypeName.tail l.type) (h : TypeName.Qualified l.type) :
    Tells l (some l.type)
  | nothing (hidden : ∀ i ∈ l.imports, i.visible ≠ TypeName.tail l.type) (h : ¬ TypeName.Qualified l.type) :
    Tells l none

def origin (l : Lookup) : Option String := Models.origin l.imports l.type

theorem tells_iff {l : Lookup} {o : Option String} : l.Tells o ↔ l.origin = o := by
  rw [origin, Models.origin]
  split
  · next i hfound =>
    have hfirst := find?_iff_isFirst.1 hfound
    have hseen : ¬ ∀ i ∈ l.imports, i.visible ≠ TypeName.tail l.type := fun h => h i hfirst.mem hfirst.1
    constructor
    · intro h
      cases h with
      | imported first => rw [Option.some.inj (hfound.symm.trans (find?_iff_isFirst.2 first))]
      | qualified hidden _ => exact absurd hidden hseen
      | nothing hidden _ => exact absurd hidden hseen
    · rintro rfl
      exact .imported hfirst
  · next hnone =>
    have hidden : ∀ i ∈ l.imports, i.visible ≠ TypeName.tail l.type := by simpa using hnone
    constructor
    · intro h
      cases h with
      | imported first => exact absurd first.1 (hidden _ first.mem)
      | qualified _ hq => rw [if_neg (mt TypeName.tail_eq_self_iff.1 (not_not.2 hq))]
      | nothing _ hq => rw [if_pos (TypeName.tail_eq_self_iff.2 hq)]
    · rintro rfl
      split
      · next ht => exact .nothing hidden (TypeName.tail_eq_self_iff.1 ht)
      · next ht => exact .qualified hidden (not_not.1 (mt TypeName.tail_eq_self_iff.2 ht))

end Lookup

namespace Models

/-- What a map comes to after some requests. -/
def noteAll (models : Models) (ls : List Lookup) : Models :=
  ls.foldl (fun models l => record l.imports models l.type) models

theorem run_mapM_refer (ls : List Lookup) (models : Models) :
    (ls.mapM Lookup.refer).run models = (ls.map Lookup.reference, models.noteAll ls) :=
  run_mapM (fun _ _ => rfl) ls models

/-- A path that is known stays, and otherwise what the request tells is noted. -/
theorem get?_record (models : Models) (l : Lookup) (k : String) : (record l.imports models l.type).get? k =
    if k = l.reference then some ((models.get? k).join.or l.origin) else models.get? k := by
  rw [record, SortedMap.get?_alter, ← Lookup.reference]
  by_cases hk : k = l.reference
  · subst hk
    rw [if_pos rfl, if_pos rfl]
    rcases models.get? l.reference with _ | _ | path
    all_goals rfl
  · rw [if_neg hk, if_neg hk]

/-- The first path that a request for this reference tells. -/
def firstPath? (k : String) (ls : List Lookup) : Option String :=
  ls.findSome? fun l => if l.reference = k then l.origin else none

theorem firstPath?_cons (k : String) (l : Lookup) (ls : List Lookup) : firstPath? k (l :: ls) =
    if l.reference = k then l.origin.or (firstPath? k ls) else firstPath? k ls := by
  rw [firstPath?, List.findSome?_cons, ← firstPath?]
  by_cases hk : l.reference = k
  · rw [if_pos hk, if_pos hk]
    cases l.origin <;> rfl
  · rw [if_neg hk, if_neg hk]

theorem firstPath?_eq_none {k : String} {ls : List Lookup} (h : ¬ ∃ l ∈ ls, l.reference = k) :
    firstPath? k ls = none :=
  List.findSome?_eq_none_iff.2 fun l hl => if_neg fun hk => h ⟨l, hl, hk⟩

theorem get?_noteAll (models : Models) (ls : List Lookup) (k : String) : (models.noteAll ls).get? k =
    if ∃ l ∈ ls, l.reference = k then some ((models.get? k).join.or (firstPath? k ls)) else models.get? k := by
  induction ls generalizing models with
  | nil => simp [noteAll]
  | cons l ls ih =>
    change (noteAll (record l.imports models l.type) ls).get? k = _
    rw [ih, get?_record, firstPath?_cons]
    by_cases hk : l.reference = k
    · subst hk
      by_cases hls : ∃ q ∈ ls, q.reference = l.reference
      · simp [hls, Option.or_assoc]
      · simp [hls, firstPath?_eq_none hls]
    · have hk' : ¬ k = l.reference := fun h => hk h.symm
      simp [hk, hk']

theorem mem_keys_noteAll {models : Models} {ls : List Lookup} {k : String} :
    k ∈ (models.noteAll ls).keys ↔ k ∈ models.keys ∨ ∃ l ∈ ls, l.reference = k := by
  rw [SortedMap.mem_keys_iff, SortedMap.mem_keys_iff, get?_noteAll]
  split
  · next h => simp [h]
  · next h => simp [h]

theorem firstPath?_eq_some_iff {k path : String} {ls : List Lookup} : firstPath? k ls = some path ↔
    ∃ l, IsFirst (fun l => l.reference = k ∧ ¬ l.Tells none) ls l ∧ l.Tells (some path) := by
  have hfound (l : Lookup) : (if l.reference = k then l.origin else none) = some path ↔
      (l.reference = k ∧ ¬ l.Tells none) ∧ l.Tells (some path) := by
    simp only [Lookup.tells_iff]
    by_cases hk : l.reference = k
    · cases l.origin <;> simp [hk]
    · simp [hk]
  have hpassed (l : Lookup) : (if l.reference = k then l.origin else none) = none ↔
      ¬ (l.reference = k ∧ ¬ l.Tells none) := by
    simp [Lookup.tells_iff]
  simp only [firstPath?, List.findSome?_eq_some_iff, hfound, hpassed, IsFirst]
  constructor
  · intro hx
    obtain ⟨before, l, after, hsplit, ⟨hl, htells⟩, hbefore⟩ := hx
    exact ⟨l, ⟨hl, before, after, hsplit, hbefore⟩, htells⟩
  · intro hx
    obtain ⟨l, ⟨hl, before, after, hsplit, hbefore⟩, htells⟩ := hx
    exact ⟨before, l, after, hsplit, ⟨hl, htells⟩, hbefore⟩

theorem firstPath?_eq_none_iff {k : String} {ls : List Lookup} :
    firstPath? k ls = none ↔ ∀ l ∈ ls, l.reference = k → l.Tells none := by
  simp [firstPath?, List.findSome?_eq_none_iff, Lookup.tells_iff]

/-- What a map knows after some requests: the references that were asked for, each with the first path that a request
for it told, or with none where no such request told one. -/
structure Knows (models : Models) (ls : List Lookup) : Prop where
  asked : ∀ k, k ∈ models.keys ↔ ∃ l ∈ ls, l.reference = k
  told : ∀ k path, models.get? k = some (some path) ↔
    ∃ l, IsFirst (fun l => l.reference = k ∧ ¬ l.Tells none) ls l ∧ l.Tells (some path)
  untold : ∀ k, models.get? k = some none ↔
    (∃ l ∈ ls, l.reference = k) ∧ ∀ l ∈ ls, l.reference = k → l.Tells none

theorem knows_noteAll (ls : List Lookup) : (noteAll ∅ ls).Knows ls := by
  have hget (k : String) : (noteAll ∅ ls).get? k =
      if ∃ l ∈ ls, l.reference = k then some (firstPath? k ls) else none := get?_noteAll ∅ ls k
  refine ⟨fun k => ?_, fun k path => ?_, fun k => ?_⟩
  · rw [mem_keys_noteAll, SortedMap.mem_keys_iff, SortedMap.get?_empty]
    simp
  · rw [hget, ← firstPath?_eq_some_iff]
    split
    · simp
    · next h => simp [firstPath?_eq_none h]
  · rw [hget, ← firstPath?_eq_none_iff]
    split
    · next h => simp [h]
    · next h => simp [h]

theorem get?_noteAll_of_some {models : Models} {k path : String} (h : models.get? k = some (some path))
    (ls : List Lookup) : (models.noteAll ls).get? k = some (some path) := by
  rw [get?_noteAll, h]
  simp

/-- Whatever a map holds, a request is answered with the reference of its type. Requests one after another leave a map
with the first path that was told for each reference, and no later request changes a path or loses it. -/
theorem mapM_refer (ls : List Lookup) :
    (∀ (l : Lookup) (models : Models), (l.refer.run models).1 = TypeName.reference l.type) ∧
    ∃ models, (ls.mapM Lookup.refer).run ∅ = (ls.map fun l => TypeName.reference l.type, models) ∧
      models.Knows ls ∧
      ∀ (later : List Lookup) k path, models.get? k = some (some path) →
        ((later.mapM Lookup.refer).run models).2.get? k = some (some path) := by
  refine ⟨fun _ _ => rfl, _, run_mapM_refer ls ∅, knows_noteAll ls, fun later k path h => ?_⟩
  rw [run_mapM_refer]
  exact get?_noteAll_of_some h later

/-- Requests for orders: the first one tells nothing, the second one finds an import, and the last one only has the
name of the type. -/
def orderLookups : List Lookup :=
  [⟨[], "Order"⟩, ⟨[⟨"Order", "shop::Order"⟩], "Order"⟩, ⟨[⟨"Item", "shop::Item"⟩], "App\\Order"⟩]

theorem mapM_refer_orders :
    ∃ models, (orderLookups.mapM Lookup.refer).run ∅ =
        (orderLookups.map fun l => TypeName.reference l.type, models) ∧
      models.get? "#/components/schemas/Order" = some (some "shop::Order") ∧
      (([⟨[⟨"Order", "app::Order"⟩], "Order"⟩] : List Lookup).mapM Lookup.refer |>.run models).2.get?
        "#/components/schemas/Order" = some (some "shop::Order") := by
  obtain ⟨-, models, hrun, hknows, hlater⟩ := mapM_refer orderLookups
  have hnothing : Lookup.Tells ⟨[], "Order"⟩ none := .nothing (by simp) (by simp [TypeName.Qualified])
  have himported : Lookup.Tells ⟨[⟨"Order", "shop::Order"⟩], "Order"⟩ (some "shop::Order") :=
    .imported (i := ⟨"Order", "shop::Order"⟩) ⟨by decide, [], [], rfl, by simp⟩
  have hpath : models.get? "#/components/schemas/Order" = some (some "shop::Order") := by
    refine (hknows.told _ _).2 ⟨⟨[⟨"Order", "shop::Order"⟩], "Order"⟩, ⟨⟨by decide, fun h => ?_⟩, ?_⟩, himported⟩
    · rw [Lookup.tells_iff] at h himported
      exact absurd (h.symm.trans himported) (by simp)
    · exact ⟨[⟨[], "Order"⟩], _, rfl, by simpa using fun _ => hnothing⟩
  exact ⟨models, hrun, hpath, hlater _ _ _ hpath⟩

end Models

end RouteDocs
