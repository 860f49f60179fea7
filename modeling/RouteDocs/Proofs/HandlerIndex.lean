import RouteDocs.HandlerIndex
import RouteDocs.Proofs.List
import RouteDocs.Proofs.Path
import RouteDocs.Proofs.Places
import RouteDocs.Proofs.SortedMap

namespace RouteDocs

namespace Source

/-- An item declares a name at a place: a function at once, a method by its number, and a module what the item of some
number in it declares. -/
inductive Item.DeclaresAt : Item → Place → String → Option String → Prop where
  | function (f : Function) : DeclaresAt (.function f) [] f.name f.doc
  | method {owner : String} {fs : List Function} {i : Nat} {f : Function} (found : fs[i]? = some f) :
    DeclaresAt (.methods owner fs) [i] (owner ++ "::" ++ f.name) f.doc
  | inner {items : List Item} {i : Nat} {item : Item} {p : Place} {name : String} {doc : Option String}
    (found : items[i]? = some item) (declared : DeclaresAt item p name doc) :
    DeclaresAt (.submodule items) (i :: p) name doc

theorem Item.DeclaresAt.unique {item : Item} {p : Place} {name name' : String} {doc doc' : Option String}
    (h : item.DeclaresAt p name doc) (h' : item.DeclaresAt p name' doc') : name = name' ∧ doc = doc' := by
  induction h with
  | function f =>
    cases h'
    exact ⟨rfl, rfl⟩
  | method found =>
    cases h' with
    | method found' =>
      obtain rfl := Option.some.inj (found.symm.trans found')
      exact ⟨rfl, rfl⟩
  | inner found _ ih =>
    cases h' with
    | inner found' declared' =>
      obtain rfl := Option.some.inj (found.symm.trans found')
      exact ih declared'

end Source

namespace HandlerIndex

open Source

theorem declarationsOf_eq (items : List Item) : declarationsOf items = items.flatMap declarations := by
  induction items with
  | nil => rfl
  | cons i is ih => rw [declarationsOf, ih, List.flatMap_cons]

/-- The documentation that an item has for a name. -/
def docOf? (name : String) (item : Item) : Option (Option String) := (declarations item).lookup name

variable {name : String}

theorem first_function (f : Function) :
    First (fun p doc => (Item.function f).DeclaresAt p name doc) (docOf? name (.function f)) := by
  have hlookup : docOf? name (.function f) = if name = f.name then some f.doc else none := by
    rw [docOf?, declarations, lookup_cons_ite, List.lookup_nil]
  rw [hlookup]
  split
  · next hname =>
    subst hname
    refine .found (.function f) fun q c hq => ?_
    cases hq
    nofun
  · next hname =>
    refine .missing fun p c hp => ?_
    cases hp
    exact hname rfl

theorem first_methods (owner : String) (fs : List Function) :
    First (fun p doc => (Item.methods owner fs).DeclaresAt p name doc) (docOf? name (.methods owner fs)) := by
  have hmethod : ∀ f ∈ fs, First (fun p doc => p = [] ∧ owner ++ "::" ++ f.name = name ∧ f.doc = doc)
      (if name = owner ++ "::" ++ f.name then some f.doc else none) := by
    intro f _
    split
    · next hname =>
      refine .found ⟨rfl, hname.symm, rfl⟩ fun q c hq => ?_
      rw [hq.1]
      nofun
    · next hname => exact .missing fun p c hp => hname hp.2.1.symm
  have hlookup : docOf? name (.methods owner fs) =
      fs.findSome? fun f => if name = owner ++ "::" ++ f.name then some f.doc else none := by
    rw [docOf?, declarations, List.map_eq_flatMap, lookup_flatMap]
    simp only [lookup_cons_ite, List.lookup_nil, qualified]
  rw [hlookup]
  refine (first_within hmethod).congr fun p doc => ?_
  constructor
  · intro h
    cases h with
    | member found stands =>
      obtain ⟨rfl, rfl, rfl⟩ := stands
      exact .method found
  · intro h
    cases h with
    | method found => exact .member found ⟨rfl, rfl, rfl⟩

theorem first_submodule {items : List Item}
    (h : ∀ item ∈ items, First (fun p doc => item.DeclaresAt p name doc) (docOf? name item)) :
    First (fun p doc => (Item.submodule items).DeclaresAt p name doc) (docOf? name (.submodule items)) := by
  have hlookup : docOf? name (.submodule items) = items.findSome? (docOf? name) := by
    rw [docOf?, declarations, declarationsOf_eq, lookup_flatMap]
    rfl
  rw [hlookup]
  refine (first_within h).congr fun p doc => ?_
  constructor
  · intro h
    cases h with
    | member found stands => exact .inner found stands
  · intro h
    cases h with
    | inner found declared => exact .member found declared

/-- What an item has for a name is the first documentation that is declared for it. -/
theorem first_docOf? (name : String) (item : Item) :
    First (fun p doc => item.DeclaresAt p name doc) (docOf? name item) := by
  match item with
  | .function f => exact first_function f
  | .methods owner fs => exact first_methods owner fs
  | .submodule items => exact first_submodule fun i _ => first_docOf? name i
  | .imports tree => exact .missing fun p c hp => by cases hp
  | .other => exact .missing fun p c hp => by cases hp
termination_by sizeOf item
decreasing_by
  have hsize := List.sizeOf_lt_of_mem ‹i ∈ items›
  simp only [Item.submodule.sizeOf_spec]
  omega

/-- A declaration of a handler, and the file in which it stands. -/
structure Declaration where
  name : String
  doc : Option String
  /-- The path of the file, and its text. -/
  source : String × String

def Declaration.handler (d : Declaration) : Handler := ⟨d.doc, Path.normal d.source.1⟩

/-- A declaration stands in a file without an error where the items of the file declare it. -/
inductive StandsIn (parse : Reader) (source : String × String) : Place → Declaration → Prop where
  | item {items : List Item} {p : Place} {name : String} {doc : Option String} (parsed : parse source.2 = some items)
    (declared : (Item.submodule items).DeclaresAt p name doc) : StandsIn parse source p ⟨name, doc, source⟩

/-- Where declarations stand in several files: first comes the number of the file. -/
abbrev Stands (parse : Reader) (sources : List (String × String)) : Place → Declaration → Prop :=
  Within (StandsIn parse) sources

/-- The first declaration of its name. -/
def IsFirstOf (parse : Reader) (sources : List (String × String)) (d : Declaration) : Prop :=
  First (fun p e => Stands parse sources p e ∧ e.name = d.name) (some d)

section

variable {parse : Reader}

theorem StandsIn.unique {source : String × String} {p : Place} {d e : Declaration} (hd : StandsIn parse source p d)
    (he : StandsIn parse source p e) : d = e := by
  cases hd with
  | item parsed declared =>
    cases he with
    | item parsed' declared' =>
      obtain rfl := Option.some.inj (parsed.symm.trans parsed')
      obtain ⟨rfl, rfl⟩ := declared.unique declared'
      rfl

theorem stands_unique {sources : List (String × String)} {p : Place} {d e : Declaration} (hd : Stands parse sources p d)
    (he : Stands parse sources p e) : d = e := by
  cases hd with
  | member found stands =>
    cases he with
    | member found' stands' =>
      obtain rfl := Option.some.inj (found.symm.trans found')
      exact stands.unique stands'

/-- What a file declares for a name. -/
def declared? (parse : Reader) (name : String) (source : String × String) : Option Declaration :=
  (parse source.2).bind fun items => (docOf? name (.submodule items)).map (⟨name, ·, source⟩)

theorem first_declared? (name : String) (source : String × String) :
    First (fun p d => StandsIn parse source p d ∧ d.name = name) (declared? parse name source) := by
  cases hparse : parse source.2 with
  | none =>
    rw [declared?, hparse]
    refine .missing fun p d hd => ?_
    obtain ⟨⟨parsed, _⟩, -⟩ := hd
    exact absurd (hparse.symm.trans parsed) (by simp)
  | some items =>
    rw [declared?, hparse]
    refine ((first_docOf? name (.submodule items)).map _).congr fun p d => ?_
    constructor
    · rintro ⟨doc, hdoc, rfl⟩
      exact ⟨.item hparse hdoc, rfl⟩
    · rintro ⟨⟨parsed, declared⟩, rfl⟩
      obtain rfl := Option.some.inj (hparse.symm.trans parsed)
      exact ⟨_, declared, rfl⟩

theorem first_stands (parse : Reader) (sources : List (String × String)) (name : String) :
    First (fun p d => Stands parse sources p d ∧ d.name = name) (sources.findSome? (declared? parse name)) := by
  refine (first_within fun source _ => first_declared? name source).congr fun p d => ?_
  constructor
  · intro h
    cases h with
    | member found stands => exact ⟨.member found stands.1, stands.2⟩
  · rintro ⟨h, hname⟩
    cases h with
    | member found stands => exact .member found ⟨stands, hname⟩

theorem get?_foldl_declare (file : String) (ds : List (String × Option String)) (handlers : SortedMap Handler)
    (name : String) : (ds.foldl (declare file) handlers).get? name =
      (handlers.get? name).or ((ds.lookup name).map (⟨·, file⟩)) := by
  induction ds generalizing handlers with
  | nil => simp
  | cons d ds ih =>
    obtain ⟨other, doc⟩ := d
    rw [List.foldl_cons, ih, declare, SortedMap.get?_insertIfNew, lookup_cons_ite]
    by_cases hname : name = other
    · subst hname
      cases handlers.get? name <;> simp
    · simp [hname]

theorem get?_handlers_addSource (index : HandlerIndex) (source : String × String) (name : String) :
    (index.addSource parse source).handlers.get? name =
      (index.handlers.get? name).or ((declared? parse name source).map Declaration.handler) := by
  unfold addSource declared?
  cases parse source.2 with
  | none => simp
  | some items =>
    simp only [get?_foldl_declare, Option.bind_some, Option.map_map]
    rfl

theorem get?_handlers_foldl (sources : List (String × String)) (index : HandlerIndex) (name : String) :
    (sources.foldl (addSource parse) index).handlers.get? name =
      (index.handlers.get? name).or ((sources.findSome? (declared? parse name)).map Declaration.handler) := by
  induction sources generalizing index with
  | nil => simp
  | cons source sources ih =>
    rw [List.foldl_cons, ih, get?_handlers_addSource, List.findSome?_cons, Option.or_assoc]
    cases declared? parse name source <;> rfl

theorem get?_handlers_ofSources (parse : Reader) (sources : List (String × String)) (name : String) :
    (ofSourcesBy parse sources).handlers.get? name = (sources.findSome? (declared? parse name)).map Declaration.handler := by
  rw [ofSourcesBy, get?_handlers_foldl, SortedMap.get?_empty, Option.none_or]

theorem get?_sources_addSource (index : HandlerIndex) (source : String × String) (file : String) :
    (index.addSource parse source).sources.get? file =
      if (parse source.2).isSome = true ∧ file = Path.normal source.1 then some source.2
      else index.sources.get? file := by
  unfold addSource
  cases parse source.2 with
  | none => simp
  | some items => simp only [SortedMap.get?_insert, Option.isSome_some, true_and]

theorem get?_sources_foldl_of_ne {sources : List (String × String)} {file : String}
    (h : ∀ s ∈ sources, file ≠ Path.normal s.1) (index : HandlerIndex) :
    (sources.foldl (addSource parse) index).sources.get? file = index.sources.get? file := by
  induction sources generalizing index with
  | nil => rfl
  | cons source sources ih =>
    have hsource : ¬ ((parse source.2).isSome = true ∧ file = Path.normal source.1) := fun hx => h source (by simp) hx.2
    rw [List.foldl_cons, ih (fun s hs => h s (by simp [hs])), get?_sources_addSource, if_neg hsource]

/-- Files are kept apart by the parts of their paths. -/
theorem get?_sources_ofSources {sources : List (String × String)} (h : (sources.map fun s => Path.parts s.1).Nodup)
    {source : String × String} (hs : source ∈ sources) (hparse : (parse source.2).isSome = true) :
    (ofSourcesBy parse sources).sources.get? (Path.normal source.1) = some source.2 := by
  obtain ⟨before, after, rfl⟩ := List.append_of_mem hs
  have hafter : ∀ s ∈ after, Path.normal source.1 ≠ Path.normal s.1 := by
    intro s hs hnormal
    rw [List.map_append, List.map_cons, List.nodup_append] at h
    obtain ⟨hnew, -⟩ := List.nodup_cons.1 h.2.1
    exact hnew (List.mem_map.2 ⟨s, hs, (Path.normal_eq_iff.1 hnormal).symm⟩)
  rw [ofSourcesBy, List.foldl_append, List.foldl_cons, get?_sources_foldl_of_ne hafter, get?_sources_addSource,
    if_pos ⟨hparse, rfl⟩]

theorem ofSources_filter (sources : List (String × String)) :
    ofSourcesBy parse (sources.filter fun s => (parse s.2).isSome) = ofSourcesBy parse sources := by
  rw [ofSourcesBy, ofSourcesBy, List.foldl_filter]
  congr 1
  funext index source
  cases hparse : parse source.2 with
  | none => simp [addSource, hparse]
  | some items => rfl

theorem source_of_stands {sources : List (String × String)} {p : Place} {d : Declaration} (h : Stands parse sources p d) :
    d.source ∈ sources ∧ (parse d.source.2).isSome = true := by
  cases h with
  | member found stands =>
    cases stands with
    | item parsed declared => exact ⟨List.mem_of_getElem? found, by rw [parsed]; rfl⟩

/-- A handler that is listed under a name in full is found there. -/
theorem find?_of_get? {index : HandlerIndex} {name : String} {h : Handler} (hget : index.handlers.get? name = some h) :
    index.find? name = some h := by
  rw [find?, candidates, List.cons_append, List.findSome?_cons, hget]

/-- What an index has of some files: a handler for each name that they declare, with the documentation of the first
declaration of that name and the text of the file in which that declaration stands. -/
structure Lists (index : HandlerIndex) (parse : Reader) (sources : List (String × String)) : Prop where
  names : ∀ name, name ∈ index.handlers.keys ↔ ∃ p d, Stands parse sources p d ∧ d.name = name
  size : ∀ names : List String, names.Nodup → (∀ name, name ∈ names ↔ ∃ p d, Stands parse sources p d ∧ d.name = name) →
    index.size = names.length
  first : ∀ p d, Stands parse sources p d → ∃ e, e.name = d.name ∧ IsFirstOf parse sources e
  found : ∀ d, IsFirstOf parse sources d → index.doc? d.name = d.doc ∧ index.source? d.name = some d.source.2

theorem mem_keys_ofSources (parse : Reader) (sources : List (String × String)) (name : String) :
    name ∈ (ofSourcesBy parse sources).handlers.keys ↔ ∃ p d, Stands parse sources p d ∧ d.name = name := by
  rw [SortedMap.mem_keys_iff, get?_handlers_ofSources, Option.isSome_map, (first_stands parse sources name).isSome_iff]

/-- Files with different paths are indexed by the first declarations of their names. A file with an error in it changes
nothing, whatever is looked up. -/
theorem ofSources_lists (parse : Reader) {sources : List (String × String)}
    (h : (sources.map fun s => Path.parts s.1).Nodup) :
    (ofSourcesBy parse sources).Lists parse sources ∧
    ofSourcesBy parse (sources.filter fun s => (parse s.2).isSome) = ofSourcesBy parse sources := by
  refine ⟨⟨mem_keys_ofSources parse sources, fun names hnames hmem => ?_, fun p d hd => ?_, fun d hd => ?_⟩,
    ofSources_filter sources⟩
  · have hperm : (ofSourcesBy parse sources).handlers.keys.Perm names := by
      rw [List.perm_ext_iff_of_nodup (SortedMap.nodup_keys _) hnames]
      intro name
      rw [mem_keys_ofSources, hmem]
    have hlength := hperm.length_eq
    rwa [SortedMap.keys, List.length_map] at hlength
  · have hfirst := first_stands parse sources d.name
    obtain ⟨e, he⟩ := Option.isSome_iff_exists.1 (hfirst.isSome_iff.2 ⟨p, d, hd, rfl⟩)
    rw [he] at hfirst
    obtain ⟨q, -, hname⟩ := hfirst.stands
    exact ⟨e, hname, by rwa [IsFirstOf, hname]⟩
  · obtain ⟨p, hstands, -⟩ := hd.stands
    obtain ⟨hmem, hparse⟩ := source_of_stands hstands
    have hfirst := (first_stands parse sources d.name).eq (fun p b c hb hc => stands_unique hb.1 hc.1) hd
    have hget := get?_handlers_ofSources parse sources d.name
    rw [hfirst, Option.map_some] at hget
    have hfound := find?_of_get? hget
    constructor
    · rw [doc?, hfound]
      rfl
    · rw [source?, hfound]
      exact get?_sources_ofSources h hmem hparse

end

/-- Files that declare a handler twice, the first time in a module, and a file with an error. -/
def repeatedSources : List (String × String) :=
  [("src/bad.rs", "fn find("), ("src/a.rs", "fn list() \x7b\x7d\nmod m \x7b /// First\nfn find() \x7b\x7d \x7d"),
    ("src/b.rs", "/// Second\nfn find() \x7b\x7d\n/// Lists\nfn list() \x7b\x7d")]

theorem ofSources_lists_repeated :
    (repeatedSources.map fun s => Path.parts s.1).Nodup ∧
    (ofSources repeatedSources).Lists parse repeatedSources ∧
    (∃ d, IsFirstOf parse repeatedSources d ∧ d.name = "find" ∧ d.doc = some "First") ∧
    ∃ d, IsFirstOf parse repeatedSources d ∧ d.name = "list" ∧ d.doc = none := by
  have hpaths : (repeatedSources.map fun s => Path.parts s.1).Nodup := by decide
  have hlists := (ofSources_lists parse hpaths).1
  have hfirst (name : String) (h : name ∈ (ofSources repeatedSources).handlers.keys) :
      ∃ d, IsFirstOf parse repeatedSources d ∧ d.name = name ∧ d.doc = (ofSources repeatedSources).doc? name := by
    obtain ⟨p, d, hd, rfl⟩ := (hlists.names name).1 h
    obtain ⟨e, hname, he⟩ := hlists.first p d hd
    exact ⟨e, he, hname, hname ▸ (hlists.found e he).1.symm⟩
  have hdocs : "find" ∈ (ofSources repeatedSources).handlers.keys ∧
      "list" ∈ (ofSources repeatedSources).handlers.keys ∧
      (ofSources repeatedSources).doc? "find" = some "First" ∧ (ofSources repeatedSources).doc? "list" = none := by
    decide +kernel
  obtain ⟨hfind, hlist, hfindDoc, hlistDoc⟩ := hdocs
  exact ⟨hpaths, hlists, hfindDoc ▸ hfirst "find" hfind, hlistDoc ▸ hfirst "list" hlist⟩

end HandlerIndex

end RouteDocs
