namespace RouteDocs

/-- A finite map from texts, listed in ascending order of its keys. -/
structure SortedMap (α : Type u) where
  entries : List (String × α)
  sorted : entries.Pairwise (fun a b => a.1 < b.1)

namespace SortedMap

variable {α : Type u}

def empty : SortedMap α := ⟨[], .nil⟩

instance : EmptyCollection (SortedMap α) := ⟨empty⟩

instance : Inhabited (SortedMap α) := ⟨empty⟩

instance [Repr α] : Repr (SortedMap α) := ⟨fun m n => reprPrec m.entries n⟩

def keys (m : SortedMap α) : List String := m.entries.map Prod.fst

def size (m : SortedMap α) : Nat := m.entries.length

def isEmpty (m : SortedMap α) : Bool := m.entries.isEmpty

def get? (m : SortedMap α) (k : String) : Option α := m.entries.lookup k

def contains (m : SortedMap α) (k : String) : Bool := (m.get? k).isSome

/-- Gives a key the value that is computed from its present one. -/
def alterEntries (k : String) (f : Option α → α) : List (String × α) → List (String × α)
  | [] => [(k, f none)]
  | (l, a) :: rest =>
    if k < l then (k, f none) :: (l, a) :: rest
    else if k = l then (k, f (some a)) :: rest
    else (l, a) :: alterEntries k f rest

theorem mem_alterEntries {k : String} {f : Option α → α} {e : String × α} {es : List (String × α)}
    (h : e ∈ alterEntries k f es) : e.1 = k ∨ e ∈ es := by
  induction es with
  | nil => simp_all [alterEntries]
  | cons e' rest ih => grind [alterEntries]

theorem sorted_alterEntries (k : String) (f : Option α → α) {es : List (String × α)}
    (h : es.Pairwise (fun a b => a.1 < b.1)) :
    (alterEntries k f es).Pairwise (fun a b => a.1 < b.1) := by
  induction es with
  | nil => simp [alterEntries]
  | cons e rest ih =>
    obtain ⟨l, a⟩ := e
    obtain ⟨above, tail⟩ := List.pairwise_cons.1 h
    rw [alterEntries]
    split
    · next hk =>
      refine List.pairwise_cons.2 ⟨fun e he => ?_, h⟩
      rcases List.mem_cons.1 he with rfl | he
      · exact hk
      · exact String.lt_trans hk (above e he)
    · next hk =>
      split
      · next hl =>
        subst hl
        exact List.pairwise_cons.2 ⟨above, tail⟩
      · next hl =>
        refine List.pairwise_cons.2 ⟨fun e he => ?_, ih tail⟩
        rcases mem_alterEntries he with he | he
        · rw [he]
          exact Std.lt_of_le_of_ne (String.not_lt.1 hk) (Ne.symm hl)
        · exact above e he

def alter (m : SortedMap α) (k : String) (f : Option α → α) : SortedMap α :=
  ⟨alterEntries k f m.entries, sorted_alterEntries k f m.sorted⟩

/-- A later value replaces an earlier one. -/
def insert (m : SortedMap α) (k : String) (a : α) : SortedMap α := m.alter k fun _ => a

/-- The first value stays. -/
def insertIfNew (m : SortedMap α) (k : String) (a : α) : SortedMap α := m.alter k (·.getD a)

/-- The later of two values for one key counts. -/
def ofList (es : List (String × α)) : SortedMap α := es.foldl (fun m (k, a) => m.insert k a) ∅

theorem lookup_eq_none_of_lt {k : String} {es : List (String × α)} (h : ∀ e ∈ es, k < e.1) :
    es.lookup k = none := by
  induction es with
  | nil => rfl
  | cons e rest ih =>
    have hk : (k == e.1) = false := by
      simpa using fun he : k = e.1 => String.lt_irrefl k (he ▸ h e (by simp))
    rw [List.lookup_cons, hk]
    exact ih fun e he => h e (by simp [he])

theorem lookup_alterEntries (k l : String) (f : Option α → α) {es : List (String × α)}
    (h : es.Pairwise (fun a b => a.1 < b.1)) :
    (alterEntries k f es).lookup l = if l = k then some (f (es.lookup k)) else es.lookup l := by
  induction es with
  | nil =>
    by_cases hl : l = k
    · simp [alterEntries, hl]
    · have hb : (l == k) = false := by simpa using hl
      simp [alterEntries, List.lookup_cons, hl, hb]
  | cons e rest ih =>
    obtain ⟨j, a⟩ := e
    obtain ⟨above, tail⟩ := List.pairwise_cons.1 h
    rw [alterEntries]
    split
    · next hk =>
      have hnone : List.lookup k ((j, a) :: rest) = none :=
        lookup_eq_none_of_lt fun e he => by
          rcases List.mem_cons.1 he with rfl | he
          · exact hk
          · exact String.lt_trans hk (above e he)
      by_cases hl : l = k
      · subst hl
        rw [hnone]
        simp
      · have hb : (l == k) = false := by simpa using hl
        simp only [hl, if_false]
        conv => lhs; rw [List.lookup_cons, hb]
    · split
      · next hj =>
        subst hj
        by_cases hl : l = k
        · subst hl
          simp
        · have hb : (l == k) = false := by simpa using hl
          simp [List.lookup_cons, hb, hl]
      · next hj =>
        have hb : (k == j) = false := by simpa using hj
        by_cases hl : l = j
        · subst hl
          have : ¬l = k := fun h => hj h.symm
          simp [this]
        · have hb' : (l == j) = false := by simpa using hl
          simp only [List.lookup_cons, hb, hb', ih tail]

@[simp] theorem get?_alter (m : SortedMap α) (k l : String) (f : Option α → α) :
    (m.alter k f).get? l = if l = k then some (f (m.get? k)) else m.get? l :=
  lookup_alterEntries k l f m.sorted

@[simp] theorem get?_insert (m : SortedMap α) (k l : String) (a : α) :
    (m.insert k a).get? l = if l = k then some a else m.get? l := get?_alter m k l _

@[simp] theorem get?_insertIfNew (m : SortedMap α) (k l : String) (a : α) :
    (m.insertIfNew k a).get? l = if l = k then some ((m.get? k).getD a) else m.get? l :=
  get?_alter m k l _

@[simp] theorem get?_empty (k : String) : (∅ : SortedMap α).get? k = none := rfl

theorem mem_entries_iff {m : SortedMap α} {k : String} {a : α} :
    (k, a) ∈ m.entries ↔ m.get? k = some a := by
  obtain ⟨es, h⟩ := m
  simp only [get?]
  induction es with
  | nil => simp
  | cons e rest ih =>
    obtain ⟨j, b⟩ := e
    obtain ⟨above, tail⟩ := List.pairwise_cons.1 h
    by_cases hk : k = j
    · subst hk
      have : (k, a) ∉ rest := fun hm => String.lt_irrefl k (above _ hm)
      simp [this, eq_comm]
    · have hb : (k == j) = false := by simpa using hk
      simp [List.lookup_cons, hb, hk, ih tail]

theorem mem_keys_iff {m : SortedMap α} {k : String} : k ∈ m.keys ↔ (m.get? k).isSome := by
  rw [Option.isSome_iff_exists, keys, List.mem_map]
  constructor
  · rintro ⟨⟨_, a⟩, h, rfl⟩
    exact ⟨a, mem_entries_iff.1 h⟩
  · rintro ⟨a, h⟩
    exact ⟨(k, a), mem_entries_iff.2 h, rfl⟩

theorem sorted_keys (m : SortedMap α) : m.keys.Pairwise (· < ·) := List.pairwise_map.2 m.sorted

theorem nodup_keys (m : SortedMap α) : m.keys.Nodup := m.sorted_keys.imp (String.ne_of_lt ·)

theorem eq_of_sorted {es fs : List (String × α)} (he : es.Pairwise (fun a b => a.1 < b.1))
    (hf : fs.Pairwise (fun a b => a.1 < b.1)) (h : ∀ e, e ∈ es ↔ e ∈ fs) : es = fs := by
  induction es generalizing fs with
  | nil =>
    cases fs with
    | nil => rfl
    | cons f fs => exact absurd ((h f).2 (by simp)) (by simp)
  | cons e es ih =>
    cases fs with
    | nil => exact absurd ((h e).1 (by simp)) (by simp)
    | cons f fs =>
      obtain ⟨he1, he2⟩ := List.pairwise_cons.1 he
      obtain ⟨hf1, hf2⟩ := List.pairwise_cons.1 hf
      have hef : e = f := by
        rcases List.mem_cons.1 ((h e).1 (by simp)) with r | r
        · exact r
        · rcases List.mem_cons.1 ((h f).2 (by simp)) with s | s
          · exact s.symm
          · exact absurd (String.lt_trans (hf1 e r) (he1 f s)) (String.lt_irrefl _)
      subst hef
      congr 1
      refine ih he2 hf2 fun g => ?_
      constructor
      · intro hg
        rcases List.mem_cons.1 ((h g).1 (by simp [hg])) with r | r
        · exact absurd (r ▸ he1 g hg) (String.lt_irrefl _)
        · exact r
      · intro hg
        rcases List.mem_cons.1 ((h g).2 (by simp [hg])) with r | r
        · exact absurd (r ▸ hf1 g hg) (String.lt_irrefl _)
        · exact r

@[ext] theorem ext {m n : SortedMap α} (h : ∀ k, m.get? k = n.get? k) : m = n := by
  have he : m.entries = n.entries :=
    eq_of_sorted m.sorted n.sorted fun (k, a) => by
      rw [mem_entries_iff, mem_entries_iff, h k]
  cases m
  cases n
  cases he
  rfl

end SortedMap

end RouteDocs
