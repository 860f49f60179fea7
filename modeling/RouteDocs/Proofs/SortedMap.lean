import RouteDocs.SortedMap

namespace RouteDocs.SortedMap

variable {α : Type u} {β : Type v} {m : SortedMap α} {k : String} {a : α}

theorem not_mem_keys_iff : k ∉ m.keys ↔ m.get? k = none := by
  rw [mem_keys_iff, Bool.not_eq_true, Option.isSome_eq_false_iff, Option.isNone_iff_eq_none]

theorem isNone_get?_iff : (m.get? k).isNone = true ↔ k ∉ m.keys := by
  rw [not_mem_keys_iff, Option.isNone_iff_eq_none]

theorem eq_empty_iff : m = ∅ ↔ ∀ k, m.get? k = none :=
  ⟨fun h k => by rw [h, get?_empty], fun h => ext fun k => by rw [h, get?_empty]⟩

theorem isEmpty_iff : m.isEmpty = true ↔ m = ∅ := by
  constructor
  · intro h
    rw [eq_empty_iff]
    intro k
    rw [get?, List.isEmpty_iff.1 h, List.lookup_nil]
  · intro h
    rw [h]
    rfl

/-- Keys are listed in order, so maps of the same keys list them alike. -/
theorem keys_eq_of_mem {n : SortedMap β} (h : ∀ k, k ∈ m.keys ↔ k ∈ n.keys) : m.keys = n.keys := by
  have hperm : m.keys.Perm n.keys := (List.perm_ext_iff_of_nodup m.nodup_keys n.nodup_keys).2 h
  refine hperm.eq_of_pairwise ?_ m.sorted_keys n.sorted_keys
  intro j k _ _ hjk hkj
  exact absurd (String.lt_trans hjk hkj) (String.lt_irrefl j)

variable {p : String × α → Bool}

/-- Entries are listed in order, so none below the first one with a property has it. -/
theorem least_of_find?_entries (h : m.entries.find? p = some (k, a)) {l : String} (hl : l < k) {b : α}
    (hb : m.get? l = some b) : p (l, b) = false := by
  obtain ⟨-, before, after, hsplit, hbefore⟩ := List.find?_eq_some_iff_append.1 h
  have hsorted := m.sorted
  rw [← mem_entries_iff, hsplit] at hb
  rw [hsplit] at hsorted
  have habove := (List.pairwise_cons.1 (List.pairwise_append.1 hsorted).2.1).1
  rcases List.mem_append.1 hb with hb | hb
  · simpa using hbefore (l, b) hb
  · rcases List.mem_cons.1 hb with he | hb
    · rw [(Prod.mk.inj he).1] at hl
      exact absurd hl (String.lt_irrefl k)
    · exact absurd (String.lt_trans hl (habove (l, b) hb)) (String.lt_irrefl l)

theorem find?_entries_eq_some_iff : m.entries.find? p = some (k, a) ↔
    m.get? k = some a ∧ p (k, a) = true ∧ ∀ l < k, ∀ b, m.get? l = some b → p (l, b) = false := by
  constructor
  · intro h
    exact ⟨mem_entries_iff.1 (List.mem_of_find?_eq_some h), List.find?_some h,
      fun l hl b hb => least_of_find?_entries h hl hb⟩
  · intro hx
    obtain ⟨ha, hp, hk⟩ := hx
    have hsome : (m.entries.find? p).isSome = true :=
      List.find?_isSome.2 ⟨(k, a), mem_entries_iff.2 ha, hp⟩
    obtain ⟨⟨l, b⟩, hfound⟩ := Option.isSome_iff_exists.1 hsome
    have hb := mem_entries_iff.1 (List.mem_of_find?_eq_some hfound)
    have hpb := List.find?_some hfound
    -- Neither key is below the other, since both are the least one.
    have hlk : ¬ l < k := fun hl => by simp [hk l hl b hb] at hpb
    have hkl : ¬ k < l := fun hl => by simp [least_of_find?_entries hfound hl ha] at hp
    obtain rfl : l = k := String.le_antisymm (String.not_lt.1 hkl) (String.not_lt.1 hlk)
    rw [hfound, Option.some.inj (hb.symm.trans ha)]

end RouteDocs.SortedMap
