import RouteDocs.HandlerIndex
import RouteDocs.Proofs.Disk
import RouteDocs.Proofs.Text

namespace RouteDocs

namespace FileTree

/-- In each directory a name stands once. -/
inductive Distinct : FileTree → Prop where
  | file (content : ByteArray) : Distinct (.file content)
  | directory {entries : List (String × FileTree)} (once : (entries.map Prod.fst).Nodup)
    (inner : ∀ e ∈ entries, Distinct e.2) : Distinct (.directory entries)

/-- What holds of files, and of a directory whenever it holds of its entries, holds of every tree. -/
@[elab_as_elim]
theorem induction {motive : FileTree → Prop} (file : ∀ content, motive (.file content))
    (directory : ∀ entries, (∀ e ∈ entries, motive e.2) → motive (.directory entries)) (t : FileTree) : motive t :=
  match t with
  | .file content => file content
  | .directory entries => directory entries fun e _ => induction file directory e.2
termination_by sizeOf t
decreasing_by
  obtain ⟨name, u⟩ := e
  have hsize := List.sizeOf_lt_of_mem ‹(name, u) ∈ entries›
  simp only [Prod.mk.sizeOf_spec, FileTree.directory.sizeOf_spec] at hsize ⊢
  omega

theorem lookup_eq_some_iff {entries : List (String × FileTree)} (once : (entries.map Prod.fst).Nodup) {name : String}
    {t : FileTree} : entries.lookup name = some t ↔ (name, t) ∈ entries := by
  induction entries with
  | nil => simp
  | cons e rest ih =>
    obtain ⟨other, u⟩ := e
    obtain ⟨hnew, hrest⟩ := List.nodup_cons.1 once
    rw [lookup_cons_ite, List.mem_cons, Prod.mk.injEq]
    by_cases hname : name = other
    · subst hname
      have habsent : (name, t) ∉ rest := fun hmem => hnew (List.mem_map.2 ⟨(name, t), hmem, rfl⟩)
      simp [habsent, eq_comm]
    · simp [hname, ih hrest]

/-- The files of a directory are those of its entries, below their names. -/
theorem contentAt?_directory {entries : List (String × FileTree)} (once : (entries.map Prod.fst).Nodup)
    {names : List String} {content : ByteArray} : (directory entries).contentAt? names = some content ↔
      ∃ e ∈ entries, ∃ rest, names = e.1 :: rest ∧ e.2.contentAt? rest = some content := by
  cases names with
  | nil => simp [contentAt?, get?, content?]
  | cons name rest =>
    rw [contentAt?_cons, Option.bind_eq_some_iff]
    constructor
    · intro hx
      obtain ⟨t, ht, hcontent⟩ := hx
      exact ⟨(name, t), (lookup_eq_some_iff once).1 ht, rest, rfl, hcontent⟩
    · intro hx
      obtain ⟨⟨other, t⟩, he, _, hnames, hcontent⟩ := hx
      obtain ⟨rfl, rfl⟩ := List.cons.inj hnames
      exact ⟨t, (lookup_eq_some_iff once).2 he, hcontent⟩

theorem contentAt?_file {content found : ByteArray} {names : List String} :
    (file content).contentAt? names = some found ↔ names = [] ∧ content = found := by
  cases names with
  | nil => simp [contentAt?, get?, content?]
  | cons name rest => simp [contentAt?, get?_cons, child?]

end FileTree

namespace HandlerIndex

theorem isSkipped_iff {name : String} :
    isSkipped name = true ↔ name.toList.head? = some '.' ∨ name = "target" := by
  simp [isSkipped]

/-- A source file has the ending of one, with something before it. -/
theorem isSourceName_iff {name : String} : isSourceName name = true ↔ ∃ stem, stem ≠ "" ∧ name = stem ++ ".rs" := by
  have hending : isSourceName name = true ↔
      (Text.afterLast (· = '.') name.toList).length + 1 < name.toList.length ∧
        Text.afterLast (· = '.') name.toList = ['r', 's'] := by
    rw [isSourceName, Path.extensionOf?]
    split
    · next hlong => simp [hlong, String.ext_iff]
    · next hshort => simp [hshort]
  rw [hending]
  constructor
  · intro h
    obtain ⟨hlong, hlast⟩ := h
    obtain heq | ⟨before, c, hc, heq⟩ := Text.eq_append_afterLast (· = '.') name.toList
    · rw [← heq] at hlong
      omega
    · obtain rfl : c = '.' := of_decide_eq_true hc
      rw [hlast] at heq hlong
      refine ⟨String.ofList before, ?_, ?_⟩
      · intro hempty
        obtain rfl : before = [] := by simpa using hempty
        simp [heq] at hlong
      · simp [String.ext_iff, heq]
  · intro h
    obtain ⟨stem, hne, rfl⟩ := h
    have hlist : (stem ++ ".rs").toList = stem.toList ++ '.' :: ['r', 's'] := by simp
    rw [hlist, Text.afterLast_append (by simp) (by simp)]
    have hpos : 0 < stem.toList.length := by simpa [List.length_pos_iff] using hne
    refine ⟨?_, rfl⟩
    simp only [List.length_append, List.length_cons, List.length_nil]
    omega

theorem mem_inOrder {α : Type} {entries : List (String × List α)} {a : α} :
    a ∈ inOrder entries ↔ ∃ e ∈ entries, a ∈ e.2 := by
  simp only [inOrder, List.mem_flatMap, List.mem_mergeSort]

/-- Entries with names of their own are taken in strictly ascending order. -/
theorem pairwise_inOrder {α : Type} {R : α → α → Prop} {entries : List (String × List α)}
    (once : (entries.map Prod.fst).Nodup) (within : ∀ e ∈ entries, e.2.Pairwise R)
    (across : ∀ e ∈ entries, ∀ e' ∈ entries, e.1 < e'.1 → ∀ a ∈ e.2, ∀ b ∈ e'.2, R a b) :
    (inOrder entries).Pairwise R := by
  have hle : (entries.mergeSort fun a b => a.1 ≤ b.1).Pairwise fun a b => a.1 ≤ b.1 := by
    simpa using @List.pairwise_mergeSort (String × List α) (fun a b => a.1 ≤ b.1)
      (fun a b c hab hbc => by simpa using String.le_trans (by simpa using hab) (by simpa using hbc))
      (fun a b => by simpa using String.le_total a.1 b.1) entries
  have hne : (entries.mergeSort fun a b => a.1 ≤ b.1).Pairwise fun a b => a.1 ≠ b.1 := by
    have hnodup := ((List.mergeSort_perm entries fun a b => a.1 ≤ b.1).map Prod.fst).nodup_iff.2 once
    exact List.pairwise_map.1 hnodup
  rw [inOrder, List.pairwise_flatMap]
  constructor
  · intro e he
    exact within e (List.mem_mergeSort.1 he)
  · refine (hle.and hne).imp_of_mem fun he he' h a ha b hb => ?_
    have hlt := String.not_le.1 fun hge => h.2 (String.le_antisymm h.1 hge)
    exact across _ (List.mem_mergeSort.1 he) _ (List.mem_mergeSort.1 he') hlt a ha b hb

theorem filesOfEntries_eq (names : List String) (entries : List (String × FileTree)) :
    filesOfEntries names entries =
      entries.map fun e => (e.1, if isSkipped e.1 then [] else filesIn (names ++ [e.1]) e.2) := by
  induction entries with
  | nil => rfl
  | cons e rest ih => rw [filesOfEntries, ih, List.map_cons]

/-- The files in a tree are the source files that are reached from it by names that are not skipped. -/
theorem mem_filesIn_iff {t : FileTree} (h : t.Distinct) {names path : List String} {content : ByteArray} :
    (path, content) ∈ filesIn names t ↔ ∃ rest, path = names ++ rest ∧ t.contentAt? rest = some content ∧
      (∀ name ∈ rest, isSkipped name = false) ∧ path.getLast?.any isSourceName = true := by
  induction t using FileTree.induction generalizing names with
  | file found =>
    simp only [filesIn, FileTree.contentAt?_file]
    constructor
    · intro hmem
      split at hmem
      · next hsource =>
        obtain ⟨rfl, rfl⟩ := Prod.mk.inj (List.mem_singleton.1 hmem)
        exact ⟨[], (List.append_nil path).symm, ⟨rfl, rfl⟩, by simp, hsource⟩
      · exact absurd hmem List.not_mem_nil
    · intro hx
      obtain ⟨_, rfl, ⟨rfl, rfl⟩, -, hsource⟩ := hx
      rw [List.append_nil] at hsource
      simp [hsource]
  | directory entries ih =>
    cases h with
    | directory once inner =>
      simp only [filesIn, mem_inOrder, filesOfEntries_eq, List.mem_map, exists_exists_and_eq_and]
      constructor
      · intro hx
        obtain ⟨e, he, hmem⟩ := hx
        split at hmem
        · exact absurd hmem List.not_mem_nil
        · next hvisible =>
          obtain ⟨rest, rfl, hcontent, hrest, hsource⟩ := (ih e he (inner e he)).1 hmem
          refine ⟨e.1 :: rest, by simp, ?_, ?_, hsource⟩
          · exact (FileTree.contentAt?_directory once).2 ⟨e, he, rest, rfl, hcontent⟩
          · exact List.forall_mem_cons.2 ⟨Bool.eq_false_iff.2 hvisible, hrest⟩
      · intro hx
        obtain ⟨_, rfl, hcontent, hvisible, hsource⟩ := hx
        obtain ⟨e, he, rest, rfl, hbelow⟩ := (FileTree.contentAt?_directory once).1 hcontent
        obtain ⟨hfirst, hrest⟩ := List.forall_mem_cons.1 hvisible
        refine ⟨e, he, ?_⟩
        rw [if_neg (by simp [hfirst])]
        exact (ih e he (inner e he)).2 ⟨rest, by simp, hbelow, hrest, hsource⟩

/-- The files in a tree stand in ascending order of the names that lead to them. -/
theorem pairwise_filesIn {t : FileTree} (h : t.Distinct) (names : List String) :
    (filesIn names t).Pairwise fun a b => a.1 < b.1 := by
  induction t using FileTree.induction generalizing names with
  | file found =>
    rw [filesIn]
    split
    · exact List.pairwise_singleton _ _
    · exact .nil
  | directory entries ih =>
    cases h with
    | directory once inner =>
      rw [filesIn, filesOfEntries_eq]
      refine pairwise_inOrder (by simpa [Function.comp_def] using once) ?_ ?_
      · refine List.forall_mem_map.2 fun e he => ?_
        dsimp only
        split
        · exact .nil
        · exact ih e he (inner e he) (names ++ [e.1])
      · refine List.forall_mem_map.2 fun e he => List.forall_mem_map.2 fun e' he' hlt a ha b hb => ?_
        dsimp only at hlt ha hb
        split at ha
        · exact absurd ha List.not_mem_nil
        split at hb
        · exact absurd hb List.not_mem_nil
        -- the names differ first where the entries do
        obtain ⟨rest, hrest, -⟩ := (mem_filesIn_iff (inner e he)).1 ha
        obtain ⟨rest', hrest', -⟩ := (mem_filesIn_iff (inner e' he')).1 hb
        rw [hrest, hrest', List.append_assoc, List.append_assoc]
        exact List.append_left_lt (List.cons_lt_cons_iff.2 (.inl hlt))

theorem fromUTF8?_eq_some_iff {b : ByteArray} {text : String} : String.fromUTF8? b = some text ↔ b = text.toUTF8 := by
  rw [String.fromUTF8?]
  constructor
  · intro h
    split at h
    · rw [← Option.some.inj h]
      rfl
    · exact absurd h (by simp)
  · intro h
    subst h
    exact dif_pos text.isValidUTF8

/-- A source file below a directory: a text in a file that has the ending of a source file, on whose way no name is
hidden or belongs to build results. -/
structure IsSource (t : FileTree) (names : List String) (text : String) : Prop where
  content : t.contentAt? names = some text.toUTF8
  ending : ∃ stem, stem ≠ "" ∧ names.getLast? = some (stem ++ ".rs")
  visible : ∀ name ∈ names, name.toList.head? ≠ some '.' ∧ name ≠ "target"

/-- The source files below a directory in ascending order of the names that lead to them, so that each is there once. -/
structure IsListing (t : FileTree) (files : List (List String × String)) : Prop where
  members : ∀ names text, (names, text) ∈ files ↔ IsSource t names text
  ascending : files.Pairwise fun a b => a.1 < b.1

/-- The texts among the files of a tree. -/
def textsIn (t : FileTree) : List (List String × String) :=
  (filesIn [] t).filterMap fun f => (String.fromUTF8? f.2).map (f.1, ·)

theorem mem_textsIn_iff {t : FileTree} {names : List String} {text : String} :
    (names, text) ∈ textsIn t ↔ (names, text.toUTF8) ∈ filesIn [] t := by
  simp only [textsIn, List.mem_filterMap, Option.map_eq_some_iff, fromUTF8?_eq_some_iff]
  constructor
  · intro hx
    obtain ⟨⟨found, content⟩, hmem, _, rfl, heq⟩ := hx
    obtain ⟨rfl, rfl⟩ := Prod.mk.inj heq
    exact hmem
  · intro hmem
    exact ⟨(names, text.toUTF8), hmem, text, rfl, rfl⟩

theorem isListing_textsIn {t : FileTree} (h : t.Distinct) : IsListing t (textsIn t) := by
  constructor
  · intro names text
    have hending : names.getLast?.any isSourceName = true ↔
        ∃ stem, stem ≠ "" ∧ names.getLast? = some (stem ++ ".rs") := by
      cases names.getLast? with
      | none => simp
      | some name => simp [isSourceName_iff]
    have hvisible (name : String) :
        isSkipped name = false ↔ name.toList.head? ≠ some '.' ∧ name ≠ "target" := by
      rw [← Bool.not_eq_true, isSkipped_iff, not_or]
    simp only [mem_textsIn_iff, mem_filesIn_iff h, List.nil_append, hending, hvisible]
    constructor
    · intro hx
      obtain ⟨_, rfl, hcontent, hnames, hlast⟩ := hx
      exact ⟨hcontent, hlast, hnames⟩
    · intro hsource
      exact ⟨names, rfl, hsource.content, hsource.visible, hsource.ending⟩
  · refine (pairwise_filesIn h []).filterMap _ fun a b hlt c hc d hd => ?_
    obtain ⟨_, -, rfl⟩ := Option.map_eq_some_iff.1 hc
    obtain ⟨_, -, rfl⟩ := Option.map_eq_some_iff.1 hd
    exact hlt

theorem IsListing.unique {t : FileTree} {files files' : List (List String × String)} (h : IsListing t files)
    (h' : IsListing t files') : files = files' := by
  have hnodup {l : List (List String × String)} (hl : IsListing t l) : l.Nodup := by
    refine hl.ascending.imp fun hlt heq => ?_
    rw [heq] at hlt
    exact List.lt_irrefl _ hlt
  have hperm : files.Perm files' := by
    refine (List.perm_ext_iff_of_nodup (hnodup h) (hnodup h')).2 fun f => ?_
    rw [h.members, h'.members]
  refine hperm.eq_of_pairwise (fun a b _ _ hab hba => ?_) h.ascending h'.ascending
  exact absurd hab (List.lt_asymm hba)

/-- A scan makes the index of the source files below a directory, in the order of the names that lead to them. What the
directory itself is called does not matter. -/
theorem scan_of_directory (parse : Source.Reader) {d : Disk} {root : String} {entries : List (String × FileTree)}
    (h : d.find? root = some (.directory entries)) (hd : (FileTree.directory entries).Distinct) :
    (∃ files, IsListing (.directory entries) files) ∧
      ∀ files, IsListing (.directory entries) files →
        (scanBy parse d root).map Prod.fst =
          some (ofSourcesBy parse (files.map fun f => (f.1.foldl Path.join root, f.2))) := by
  have hlisting := isListing_textsIn hd
  refine ⟨⟨_, hlisting⟩, fun files hfiles => ?_⟩
  rw [hfiles.unique hlisting, scanBy, h, Option.map_some, textsIn, List.filterMap_map, List.map_filterMap]
  simp only [Function.comp_def, Option.map_map]

/-- A directory goes before a file whose name continues its own, and build results below the root are left out even
where the root is called like them. -/
theorem scan_of_directory_target :
    let source (name : String) : FileTree := .file ("fn " ++ name ++ "() {}").toUTF8
    let entries := [("target", .directory [("b.rs", source "b")]), ("a.rs", source "a"), (".c.rs", source "c"),
      ("a", .directory [("d.rs", source "d"), ("e.txt", source "e"), (".rs", source "f")])]
    let d : Disk := ⟨.directory [("target", .directory entries)], []⟩
    d.find? "target" = some (.directory entries) ∧ (FileTree.directory entries).Distinct ∧
      (scan d "target").map Prod.fst =
        some (ofSources [("target/a/d.rs", "fn d() {}"), ("target/a.rs", "fn a() {}")]) := by
  intro source entries d
  have hfind : d.find? "target" = some (.directory entries) := by rfl
  have hfile (name : String) : (source name).Distinct := .file _
  have hdistinct : (FileTree.directory entries).Distinct := by
    refine .directory (by decide) ?_
    simp only [entries, List.forall_mem_cons]
    refine ⟨.directory (by decide) ?_, hfile "a", hfile "c", .directory (by decide) ?_, by simp⟩
    · simp [hfile]
    · simp [hfile]
  have hfiles : filesIn [] (.directory entries) =
      [(["a", "d.rs"], "fn d() {}".toUTF8), (["a.rs"], "fn a() {}".toUTF8)] := by
    simp [entries, source, filesIn, filesOfEntries, inOrder, isSkipped, isSourceName, Path.extensionOf?,
      Text.afterLast, List.mergeSort, List.MergeSort.Internal.splitInTwo]
  have hlisting := isListing_textsIn hdistinct
  simp only [textsIn, hfiles, List.filterMap_cons, List.filterMap_nil, fromUTF8?_eq_some_iff.2 rfl,
    Option.map_some] at hlisting
  have hscan := (scan_of_directory Source.parse hfind hdistinct).2 _ hlisting
  have hpath : Path.join (Path.join "target" "a") "d.rs" = "target/a/d.rs" ∧
      Path.join "target" "a.rs" = "target/a.rs" := by decide +kernel
  simp only [List.map_cons, List.map_nil, List.foldl_cons, List.foldl_nil, hpath] at hscan
  exact ⟨hfind, hdistinct, hscan⟩

end HandlerIndex

end RouteDocs
