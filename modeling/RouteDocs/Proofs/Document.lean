import RouteDocs.Proofs.Compilation.Operations
import RouteDocs.Proofs.Security
import RouteDocs.Proofs.SortedMap

namespace RouteDocs

/-- An operation, and where it is added. -/
structure Addition where
  uri : String
  method : Method
  operation : Operation

/-- The paths that operations are added to, one after another. -/
def Paths.ofAdditions (additions : List Addition) : Paths :=
  additions.foldl (fun ps a => ps.add a.uri a.method a.operation) ∅

namespace Paths

variable {as : List Addition} {u : String} {m : Method}

theorem ofAdditions_append_singleton (a : Addition) :
    ofAdditions (as ++ [a]) = (ofAdditions as).add a.uri a.method a.operation := by
  rw [ofAdditions, List.foldl_append]
  rfl

theorem mem_keys_ofAdditions : u ∈ (ofAdditions as).keys ↔ ∃ a ∈ as, a.uri = u := by
  induction as using List.reverseRecOn with
  | nil => simp [ofAdditions, SortedMap.mem_keys_iff]
  | append_singleton as a ih =>
    rw [ofAdditions_append_singleton, mem_keys_add, ih]
    simp [or_and_right, exists_or, or_comm, eq_comm]

theorem operation?_ofAdditions : (ofAdditions as).operation? u m =
    (as.reverse.find? fun a => a.uri = u ∧ a.method = m).map (·.operation) := by
  induction as using List.reverseRecOn with
  | nil => rfl
  | append_singleton as a ih =>
    rw [ofAdditions_append_singleton, operation?_add, find?_reverse_append_singleton, ih]
    by_cases ha : a.uri = u ∧ a.method = m
    · obtain ⟨rfl, rfl⟩ := ha
      simp
    · have ha' : ¬ (u = a.uri ∧ m = a.method) := fun h => ha ⟨h.1.symm, h.2.symm⟩
      simp [ha, ha']

/-- The operation that was added last is the one that is found. -/
theorem operation?_ofAdditions_eq_some_iff {o : Operation} : (ofAdditions as).operation? u m = some o ↔
    ∃ a, IsLast (fun a => a.uri = u ∧ a.method = m) as a ∧ a.operation = o := by
  simp only [operation?_ofAdditions, Option.map_eq_some_iff, ← find?_reverse_iff_isLast]

end Paths

namespace Document

/-- What is reported as missing: the scheme of the first URI whose guard has no definition. Where all guards have
one, it is the first scheme in use without a definition, with the URI that is kept for it. -/
inductive FirstMissing (security : SortedMap Json) (c : Context) (s u : String) : Prop where
  | guard (found : c.guards.get? u = some s) (undefined : s ∉ security.keys)
      (least : ∀ v < u, ∀ t, c.guards.get? v = some t → t ∈ security.keys)
  | scheme (guarded : ∀ v t, c.guards.get? v = some t → t ∈ security.keys)
      (found : c.schemes.get? s = some u) (undefined : s ∉ security.keys)
      (least : ∀ t < s, t ∈ c.schemes.keys → t ∈ security.keys)

variable {security : SortedMap Json} {g : Group} {c : Context} {s u : String}

theorem find?_guards_eq_some_iff :
    c.guards.entries.find? (fun e => (security.get? e.2).isNone) = some (u, s) ↔
      c.guards.get? u = some s ∧ s ∉ security.keys ∧
        ∀ v < u, ∀ t, c.guards.get? v = some t → t ∈ security.keys := by
  simp only [SortedMap.find?_entries_eq_some_iff, SortedMap.isNone_get?_iff, ← Bool.not_eq_true, not_not]

theorem find?_guards_eq_none_iff :
    c.guards.entries.find? (fun e => (security.get? e.2).isNone) = none ↔
      ∀ v t, c.guards.get? v = some t → t ∈ security.keys := by
  simp only [List.find?_eq_none, SortedMap.isNone_get?_iff, not_not, Prod.forall, SortedMap.mem_entries_iff]

theorem find?_schemes_eq_some_iff :
    c.schemes.entries.find? (fun e => (security.get? e.1).isNone) = some (s, u) ↔
      c.schemes.get? s = some u ∧ s ∉ security.keys ∧ ∀ t < s, t ∈ c.schemes.keys → t ∈ security.keys := by
  simp only [SortedMap.find?_entries_eq_some_iff, SortedMap.isNone_get?_iff, ← Bool.not_eq_true, not_not]
  simp only [SortedMap.mem_keys_iff (m := c.schemes), Option.isSome_iff_exists, forall_exists_index]

/-- All guarded URIs are looked through in order before the schemes in use are. -/
theorem find?_neededSchemes_eq_some_iff :
    (neededSchemes c).find? (fun n => (security.get? n.1).isNone) = some (s, u) ↔ FirstMissing security c s u := by
  rw [neededSchemes, List.find?_append, List.find?_map, Option.or_eq_some_iff, Option.map_eq_some_iff,
    Option.map_eq_none_iff]
  constructor
  · intro hx
    rcases hx with ⟨⟨v, t⟩, hfound, he⟩ | ⟨hnone, hfound⟩
    · obtain ⟨rfl, rfl⟩ := Prod.mk.inj he
      obtain ⟨hg, hs, hleast⟩ := find?_guards_eq_some_iff.1 hfound
      exact .guard hg hs hleast
    · obtain ⟨hused, hs, hleast⟩ := find?_schemes_eq_some_iff.1 hfound
      exact .scheme (find?_guards_eq_none_iff.1 hnone) hused hs hleast
  · intro h
    cases h with
    | guard found undefined least =>
      exact .inl ⟨(u, s), find?_guards_eq_some_iff.2 ⟨found, undefined, least⟩, rfl⟩
    | scheme guarded found undefined least =>
      exact .inr ⟨find?_guards_eq_none_iff.2 guarded, find?_schemes_eq_some_iff.2 ⟨found, undefined, least⟩⟩

/-- The definitions that a context needs, as the settings have them, and at each place the operation that was added
last. There are no other operations, and no other definitions. -/
structure Assembled (security : SortedMap Json) (as : List Addition) (c : Context) (d : Document) : Prop where
  components : d.securitySchemes = none ↔ c.guards = ∅ ∧ c.schemes = ∅
  definitions : ∀ defined, d.securitySchemes = some defined → ∀ s definition,
    defined.get? s = some definition ↔ c.Needs s ∧ security.get? s = some definition
  uris : ∀ u, u ∈ d.paths.keys ↔ ∃ a ∈ as, a.uri = u
  operations : ∀ u m o, d.paths.operation? u m = some o ↔
    ∃ a, IsLast (fun a => a.uri = u ∧ a.method = m) as a ∧ a.operation = o

theorem forall_not_needs_iff : (∀ s, ¬ c.Needs s) ↔ c.guards = ∅ ∧ c.schemes = ∅ := by
  simp only [SortedMap.eq_empty_iff, Option.eq_none_iff_forall_ne_some, Context.Needs, not_exists, not_or]
  exact ⟨fun h => ⟨fun u s => (h s u).1, fun s u => (h s u).2⟩, fun h s u => ⟨h.1 u s, h.2 s u⟩⟩

namespace Defines

variable {defined : SortedMap Json}

theorem get?_eq_some_iff (h : Defines security c defined) {definition : Json} :
    defined.get? s = some definition ↔ c.Needs s ∧ security.get? s = some definition := by
  by_cases hs : c.Needs s
  · obtain ⟨definition', hsecurity, hdefined⟩ := h.needed s hs
    simp [hs, hsecurity, hdefined]
  · simp [hs, h.only s hs]

theorem isEmpty_iff (h : Defines security c defined) :
    defined.isEmpty = true ↔ c.guards = ∅ ∧ c.schemes = ∅ := by
  rw [SortedMap.isEmpty_iff, SortedMap.eq_empty_iff, ← forall_not_needs_iff]
  refine forall_congr' fun s => ⟨fun hnone hs => ?_, h.only s⟩
  obtain ⟨definition, -, hdefined⟩ := h.needed s hs
  rw [hnone] at hdefined
  exact absurd hdefined (by simp)

end Defines

theorem build_assembled {as : List Addition} {d : Document} (h : build g (.ofAdditions as) c = .ok d) :
    Assembled g.security as c d := by
  obtain ⟨defined, hdefines, rfl⟩ := build_eq_ok_iff.1 h
  refine ⟨?_, fun defined' hd s definition => ?_, fun u => Paths.mem_keys_ofAdditions,
    fun u m o => Paths.operation?_ofAdditions_eq_some_iff⟩
  · rw [← hdefines.isEmpty_iff]
    simp
  · obtain ⟨-, rfl⟩ : ¬ defined.isEmpty = true ∧ defined = defined' := by simpa using hd
    exact hdefines.get?_eq_some_iff

/-- Only a needed scheme without a definition keeps a document from being built, and of several the first one is
reported: of those that guard a URI before those in use. A document that is built has what the context needs and
what was added. -/
theorem build_ofAdditions (g : Group) (as : List Addition) (c : Context) :
    ((∃ e, build g (.ofAdditions as) c = .error e) ↔ ∃ s, c.Needs s ∧ s ∉ g.security.keys) ∧
    (∀ e, build g (.ofAdditions as) c = .error e ↔
      ∃ s u, e = .missingScheme s u ∧ FirstMissing g.security c s u) ∧
    ∀ d, build g (.ofAdditions as) c = .ok d → Assembled g.security as c d := by
  have herror (e : Failure) : build g (.ofAdditions as) c = .error e ↔
      ∃ s u, e = .missingScheme s u ∧ FirstMissing g.security c s u := by
    simp only [build_eq_error_iff, Prod.exists, find?_neededSchemes_eq_some_iff, and_comm]
  refine ⟨?_, herror, fun d => build_assembled⟩
  have hmissing : (∃ e, build g (.ofAdditions as) c = .error e) ↔
      ∃ s u, build g (.ofAdditions as) c = .error (.missingScheme s u) := by
    constructor
    · intro hx
      obtain ⟨e, h⟩ := hx
      obtain ⟨s, u, rfl, -⟩ := (herror e).1 h
      exact ⟨s, u, h⟩
    · intro hx
      obtain ⟨s, u, h⟩ := hx
      exact ⟨_, h⟩
  simp only [hmissing, build_missing_iff, SortedMap.not_mem_keys_iff]

/-- Three additions in two places. -/
def orderAdditions : List Addition :=
  [⟨"/orders", .get, { id := "first" }⟩, ⟨"/orders", .post, { id := "add" }⟩, ⟨"/orders", .get, { id := "second" }⟩]

/-- A guard that is not in use, and schemes in use that guard nothing. No routes leave this behind. -/
def strayContext : Context where
  guards := SortedMap.ofList [("/b", "auth"), ("/a", "admin")]
  schemes := SortedMap.ofList [("session", "/c"), ("auth", "/a")]

def sessionGroup : Group where
  version := "1"
  title := "Sessions"
  security := SortedMap.ofList [("session", .str "cookie"), ("auth", .str "bearer"), ("admin", .str "key")]
  output := "sessions.json"

theorem build_ofAdditions_stray :
    (∃ d, build sessionGroup (.ofAdditions orderAdditions) strayContext = .ok d ∧
      Assembled sessionGroup.security orderAdditions strayContext d ∧ d.securitySchemes ≠ none) ∧
    build orderGroup (.ofAdditions orderAdditions) strayContext = .error (.missingScheme "session" "/c") ∧
    ∃ s, strayContext.Needs s ∧ s ∉ orderGroup.security.keys := by
  obtain ⟨d, hd⟩ := isOk_iff.1
    (show (build sessionGroup (.ofAdditions orderAdditions) strayContext).isOk = true by decide +kernel)
  have hassembled := (build_ofAdditions sessionGroup orderAdditions strayContext).2.2 d hd
  have hguards : ∀ e ∈ strayContext.guards.entries, e.2 ∈ orderGroup.security.keys := by decide +kernel
  have hschemes : ∀ t ∈ strayContext.schemes.keys, t < "session" → t ∈ orderGroup.security.keys := by
    decide +kernel
  have hfirst : FirstMissing orderGroup.security strayContext "session" "/c" :=
    .scheme (fun v t hv => hguards (v, t) (SortedMap.mem_entries_iff.2 hv)) (by decide +kernel) (by decide +kernel)
      fun t ht hm => hschemes t hm ht
  obtain ⟨hfails, herror, -⟩ := build_ofAdditions orderGroup orderAdditions strayContext
  have hreported := (herror _).2 ⟨_, _, rfl, hfirst⟩
  refine ⟨⟨d, hd, hassembled, fun hnone => ?_⟩, hreported, hfails.1 ⟨_, hreported⟩⟩
  have hempty := congrArg SortedMap.size (hassembled.components.1 hnone).1
  exact absurd hempty (by decide +kernel)

end Document

end RouteDocs
