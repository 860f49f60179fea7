import RouteDocs.Disk
import RouteDocs.Proofs.List

namespace RouteDocs

namespace FileTree

/-- The content of a file. -/
def content? : FileTree → Option ByteArray
  | .file content => some content
  | .directory _ => none

/-- The content of the file that is found by a list of names. -/
def contentAt? (t : FileTree) (names : List String) : Option ByteArray := (t.get? names).bind content?

theorem get?_cons (t : FileTree) (name : String) (names : List String) :
    t.get? (name :: names) = (t.child? name).bind (·.get? names) := by
  have hnone (ns : List String) :
      ns.foldl (fun (t : Option FileTree) name => t.bind (child? name)) none = none := by
    induction ns with
    | nil => rfl
    | cons n ns ih => exact ih
  rw [get?, List.foldl_cons, Option.bind_some]
  cases t.child? name with
  | none => exact hnone names
  | some u => rfl

theorem get?_append (t : FileTree) (names rest : List String) :
    t.get? (names ++ rest) = (t.get? names).bind (·.get? rest) := by
  induction names generalizing t with
  | nil => rfl
  | cons name names ih =>
    rw [List.cons_append, get?_cons, get?_cons]
    cases t.child? name with
    | none => rfl
    | some u => exact ih u

theorem lookup_setEntry (name m : String) (u : FileTree) (entries : List (String × FileTree)) :
    (setEntry name u entries).lookup m = if m = name then some u else entries.lookup m := by
  induction entries with
  | nil => exact lookup_cons_ite name m u []
  | cons e rest ih =>
    obtain ⟨n, t⟩ := e
    rw [setEntry]
    split
    · next hn =>
      rw [lookup_cons_ite, lookup_cons_ite, hn]
      split <;> rfl
    · next hn =>
      rw [lookup_cons_ite, lookup_cons_ite, ih]
      by_cases hm : m = n
      · have hne : m ≠ name := fun he => hn (hm.symm.trans he)
        rw [if_pos hm, if_pos hm, if_neg hne]
      · rw [if_neg hm, if_neg hm]

variable {t : FileTree} {parent : List String} {entries : List (String × FileTree)}

theorem put_singleton (entries : List (String × FileTree)) (u : FileTree) (name : String) :
    (directory entries).put u [name] = directory (setEntry name u entries) := by
  rw [put]
  cases entries.lookup name with
  | none => rfl
  | some child => rfl

/-- On the way to a directory, putting changes one entry. -/
theorem put_cons {name : String} {names : List String} {child : FileTree} (u : FileTree)
    (h : entries.lookup name = some child) :
    (directory entries).put u (name :: names) = directory (setEntry name (child.put u names) entries) := by
  rw [put, h]

theorem directory_of_get?_cons {name : String} {names : List String} {v : FileTree}
    (h : t.get? (name :: names) = some v) : ∃ entries child, t = directory entries ∧
      entries.lookup name = some child ∧ child.get? names = some v := by
  rw [get?_cons] at h
  obtain ⟨child, hchild, hv⟩ := Option.bind_eq_some_iff.1 h
  cases t with
  | file content => exact absurd hchild (by simp [child?])
  | directory entries => exact ⟨entries, child, rfl, hchild, hv⟩

theorem get?_put_below (h : t.get? parent = some (.directory entries)) (u : FileTree) (name : String)
    (rest : List String) : (t.put u (parent ++ [name])).get? (parent ++ name :: rest) = u.get? rest := by
  induction parent generalizing t with
  | nil =>
    obtain rfl : t = directory entries := Option.some.inj h
    rw [List.nil_append, List.nil_append, put_singleton, get?_cons, child?, lookup_setEntry, if_pos rfl,
      Option.bind_some]
  | cons m parent ih =>
    obtain ⟨siblings, child, rfl, hlookup, hchild⟩ := directory_of_get?_cons h
    rw [List.cons_append, List.cons_append, put_cons u hlookup, get?_cons, child?, lookup_setEntry,
      if_pos rfl, Option.bind_some]
    exact ih hchild

theorem contentAt?_cons (entries : List (String × FileTree)) (m : String) (names : List String) :
    (directory entries).contentAt? (m :: names) = (entries.lookup m).bind (·.contentAt? names) := by
  rw [contentAt?, get?_cons, Option.bind_assoc]
  rfl

theorem contentAt?_put_elsewhere (h : t.get? parent = some (.directory entries)) (u : FileTree) {name : String}
    {names : List String} (hn : ¬ parent ++ [name] <+: names) :
    (t.put u (parent ++ [name])).contentAt? names = t.contentAt? names := by
  induction parent generalizing t names with
  | nil =>
    obtain rfl : t = directory entries := Option.some.inj h
    rw [List.nil_append, put_singleton]
    cases names with
    | nil => rfl
    | cons m names =>
      have hm : m ≠ name := fun he => hn ⟨names, by rw [he]; rfl⟩
      rw [contentAt?_cons, contentAt?_cons, lookup_setEntry, if_neg hm]
  | cons p parent ih =>
    obtain ⟨siblings, child, rfl, hlookup, hchild⟩ := directory_of_get?_cons h
    rw [List.cons_append, put_cons u hlookup]
    cases names with
    | nil => rfl
    | cons m names =>
      rw [contentAt?_cons, contentAt?_cons, lookup_setEntry]
      by_cases hm : m = p
      · have hbelow : ¬ parent ++ [name] <+: names := by
          rintro ⟨rest, rfl⟩
          exact hn ⟨rest, by rw [hm]; rfl⟩
        rw [if_pos hm, hm, hlookup, Option.bind_some, Option.bind_some, ih hchild hbelow]
      · rw [if_neg hm]

theorem contentAt?_append_of_none {names : List String} (h : t.get? names = none) (rest : List String) :
    t.contentAt? (names ++ rest) = none := by
  rw [contentAt?, get?_append, h]
  rfl

/-- A directory that is made has no files in it. -/
theorem contentAt?_put_directory (h : t.get? parent = some (.directory entries)) {name : String}
    (hfree : t.get? (parent ++ [name]) = none) (names : List String) :
    (t.put (.directory []) (parent ++ [name])).contentAt? names = t.contentAt? names := by
  by_cases hn : parent ++ [name] <+: names
  · obtain ⟨rest, rfl⟩ := hn
    rw [contentAt?_append_of_none hfree, List.append_assoc, List.singleton_append, contentAt?,
      get?_put_below h]
    cases rest with
    | nil => rfl
    | cons m rest =>
      rw [get?_cons]
      rfl
  · exact contentAt?_put_elsewhere h _ hn

/-- A file that is put in the place of a file, or where nothing is, changes the content of this place only. -/
theorem contentAt?_put_file (h : t.get? parent = some (.directory entries)) {name : String}
    (hfile : ∀ u, t.get? (parent ++ [name]) = some u → u.isDirectory = false) (content : ByteArray)
    (names : List String) : (t.put (.file content) (parent ++ [name])).contentAt? names =
      if names = parent ++ [name] then some content else t.contentAt? names := by
  by_cases hn : parent ++ [name] <+: names
  · obtain ⟨rest, rfl⟩ := hn
    rw [List.append_assoc, List.singleton_append, contentAt?, get?_put_below h]
    cases rest with
    | nil => simp [get?, content?]
    | cons m rest =>
      have hne : parent ++ name :: m :: rest ≠ parent ++ [name] := by simp
      -- below a file there was nothing to be lost
      have hold : t.contentAt? (parent ++ name :: m :: rest) = none := by
        have hsplit : parent ++ name :: m :: rest = (parent ++ [name]) ++ m :: rest := by simp
        rw [hsplit, contentAt?, get?_append]
        cases hu : t.get? (parent ++ [name]) with
        | none => rfl
        | some u =>
          cases u with
          | file old =>
            rw [Option.bind_some, get?_cons]
            rfl
          | directory es => exact absurd (hfile _ hu) (by simp [isDirectory])
      rw [if_neg hne, hold, get?_cons]
      rfl
  · have hne : names ≠ parent ++ [name] := fun he => hn (he ▸ List.prefix_refl _)
    rw [if_neg hne, contentAt?_put_elsewhere h _ hn]

end FileTree

namespace Disk

/-- The content of the file that is found by a list of names. -/
def contentAt? (d : Disk) (names : List String) : Option ByteArray := d.root.contentAt? names

/-- Where a step leads if nothing is in its way. -/
def Step.target (names : List String) : Step → List String
  | .stay => names
  | .leave => names.dropLast
  | .enter name => names ++ [name]

/-- Where a path leads if nothing is in its way. -/
def destination (d : Disk) (path : String) : List String :=
  ((Text.pieces '/' path.toList).map stepOf).foldl Step.target (d.start path)

theorem step_eq_some_iff {d : Disk} {names names' : List String} {s : Step} :
    d.step names s = some names' ↔ d.isDirectoryAt names = true ∧ names' = s.target names := by
  unfold step
  split
  · next h =>
    rw [and_iff_right h]
    cases s with
    | stay => simp [Step.target, eq_comm]
    | leave => simp [Step.target, eq_comm]
    | enter name => simp [Step.target, eq_comm]
  · next h => simp [h]

theorem isDirectoryAt_iff {d : Disk} {names : List String} :
    d.isDirectoryAt names = true ↔ ∃ entries, d.root.get? names = some (.directory entries) := by
  unfold isDirectoryAt
  cases d.root.get? names with
  | none => simp
  | some t => cases t <;> simp [FileTree.isDirectory]

theorem foldlM_step {d : Disk} {steps : List Step} {names names' : List String}
    (h : steps.foldlM d.step names = some names') : names' = steps.foldl Step.target names := by
  induction steps generalizing names with
  | nil => exact (Option.some.inj h).symm
  | cons s steps ih =>
    rw [List.foldlM_cons] at h
    obtain ⟨middle, hs, hsteps⟩ := Option.bind_eq_some_iff.1 h
    rw [ih hsteps, (step_eq_some_iff.1 hs).2]
    rfl

/-- A path that can be followed leads where it says. -/
theorem follow_eq_some {d : Disk} {path : String} {names : List String} (h : d.follow path = some names) :
    names = d.destination path := by
  unfold follow at h
  split at h
  · exact absurd h (by simp)
  · exact foldlM_step h

/-- A path that ends in a name leads into a directory. -/
theorem follow_enter {d : Disk} {path : String} {names : List String} {name : String}
    (h : d.follow path = some names)
    (hlast : ((Text.pieces '/' path.toList).map stepOf).getLast? = some (.enter name)) :
    ∃ parent entries, names = parent ++ [name] ∧ d.root.get? parent = some (.directory entries) := by
  obtain ⟨steps, hsteps⟩ := List.getLast?_eq_some_iff.1 hlast
  unfold follow at h
  split at h
  · exact absurd h (by simp)
  · rw [hsteps, List.foldlM_append] at h
    obtain ⟨parent, -, hstep⟩ := Option.bind_eq_some_iff.1 h
    rw [List.foldlM_cons] at hstep
    obtain ⟨last, hs, hnil⟩ := Option.bind_eq_some_iff.1 hstep
    obtain ⟨hdir, rfl⟩ := step_eq_some_iff.1 hs
    obtain ⟨entries, hentries⟩ := isDirectoryAt_iff.1 hdir
    exact ⟨parent, entries, (Option.some.inj hnil).symm, hentries⟩

/-- Only an entry of a directory can be missing where a step leads. -/
theorem step_to_missing {d : Disk} {names names' : List String} {s : Step} (h : d.step names s = some names')
    (hmissing : d.root.get? names' = none) :
    ∃ name entries, names' = names ++ [name] ∧ d.root.get? names = some (.directory entries) := by
  obtain ⟨hdir, rfl⟩ := step_eq_some_iff.1 h
  obtain ⟨entries, hentries⟩ := isDirectoryAt_iff.1 hdir
  cases s with
  | stay => exact absurd (hentries.symm.trans hmissing) (by simp)
  | leave =>
    -- what is above a directory is there
    obtain ⟨rest, hrest⟩ := names.dropLast_prefix
    have hnone : d.root.get? names = none := by
      have habove : d.root.get? names.dropLast = none := hmissing
      rw [← hrest, FileTree.get?_append, habove]
      rfl
    exact absurd (hentries.symm.trans hnone) (by simp)
  | enter name => exact ⟨name, entries, rfl, hentries⟩

/-- Making directories changes no file, whether or not it comes to its end. -/
theorem makeDirectories_kept (d : Disk) (names : List String) (steps : List Step) :
    (∀ ns, (d.makeDirectories names steps).1.contentAt? ns = d.contentAt? ns) ∧
      (d.makeDirectories names steps).1.workingDirectory = d.workingDirectory := by
  induction steps generalizing d names with
  | nil => exact ⟨fun _ => rfl, rfl⟩
  | cons s steps ih =>
    rw [makeDirectories]
    cases hs : d.step names s with
    | none => exact ⟨fun _ => rfl, rfl⟩
    | some next =>
      cases hg : d.root.get? next with
      | some t =>
        simp only [hg]
        exact ih d next
      | none =>
        simp only [hg]
        split
        · obtain ⟨name, entries, rfl, hentries⟩ := step_to_missing hs hg
          obtain ⟨hcontent, hwd⟩ := ih { d with root := d.root.put (.directory []) (names ++ [name]) }
            (names ++ [name])
          exact ⟨fun ns => (hcontent ns).trans (FileTree.contentAt?_put_directory hentries hg ns), hwd⟩
        · exact ⟨fun _ => rfl, rfl⟩

theorem destination_eq {d d' : Disk} (h : d'.workingDirectory = d.workingDirectory) (path : String) :
    d'.destination path = d.destination path := by
  rw [destination, destination, start, start, h]

/-- A file that is put where a path leads changes the content of this place only. -/
theorem contentAt?_put_followed {d : Disk} {path : String} {names : List String} {name : String}
    (h : d.follow path = some names)
    (hlast : ((Text.pieces '/' path.toList).map stepOf).getLast? = some (.enter name))
    (hfree : d.isDirectoryAt names = false) (content : ByteArray) (ns : List String) :
    (d.root.put (.file content) names).contentAt? ns =
      if ns = d.destination path then some content else d.contentAt? ns := by
  obtain ⟨parent, entries, hnames, hparent⟩ := follow_enter h hlast
  rw [← follow_eq_some h, contentAt?]
  subst hnames
  refine FileTree.contentAt?_put_file hparent ?_ content ns
  intro u hu
  rwa [isDirectoryAt, hu] at hfree

/-- All that storing can do: fail, or put the file where the path leads once the directories are made. -/
theorem store_cases (d : Disk) (path : String) (content : ByteArray) : ∃ m : Disk,
    (∀ ns, m.contentAt? ns = d.contentAt? ns) ∧ m.workingDirectory = d.workingDirectory ∧
    (d.store path content = (m, false) ∨ ∃ names name, m.follow path = some names ∧
      ((Text.pieces '/' path.toList).map stepOf).getLast? = some (.enter name) ∧
      m.isDirectoryAt names = false ∧
      d.store path content = ({ m with root := m.root.put (.file content) names }, true)) := by
  obtain ⟨hkept, hwd⟩ := makeDirectories_kept d (d.start path) (parentSteps path)
  refine ⟨_, hkept, hwd, ?_⟩
  unfold store
  split
  next m done hmade =>
  rw [hmade]
  cases done with
  | false => exact .inl rfl
  | true =>
    simp only [if_true]
    split
    · exact .inl rfl
    · next names hf =>
      cases hlast : ((Text.pieces '/' path.toList).map stepOf).getLast? with
      | none => exact .inl rfl
      | some s =>
        cases s with
        | stay => exact .inl rfl
        | leave => exact .inl rfl
        | enter name =>
          dsimp only
          split
          · next hok =>
            obtain ⟨-, hfree⟩ := Bool.and_eq_true_iff.1 hok
            exact .inr ⟨names, name, hf, rfl, by simpa using hfree, rfl⟩
          · exact .inl rfl

/-- Writing a text changes the content of the destination only, and this only where it succeeds. -/
theorem contentAt?_write (d : Disk) (path text : String) (ns : List String) :
    (d.write path text).1.contentAt? ns =
      if (d.write path text).2 = true ∧ ns = d.destination path then some text.toUTF8
      else d.contentAt? ns := by
  obtain ⟨m, hkept, hwd, hfailed | ⟨names, name, hf, hlast, hfree, hdone⟩⟩ :=
    store_cases d path text.toUTF8
  · rw [write, hfailed, if_neg (by simp), hkept]
  · rw [write, hdone, ← destination_eq hwd, ← hkept]
    simp only [true_and]
    exact contentAt?_put_followed hf hlast hfree text.toUTF8 ns

theorem destination_write (d : Disk) (path text path' : String) :
    (d.write path text).1.destination path' = d.destination path' := by
  refine destination_eq ?_ path'
  obtain ⟨m, -, hwd, hfailed | ⟨names, name, -, -, -, hdone⟩⟩ := store_cases d path text.toUTF8
  · rw [write, hfailed, hwd]
  · rw [write, hdone, ← hwd]

end Disk

end RouteDocs
