import RouteDocs.Output
import RouteDocs.Proofs.Disk
import RouteDocs.Proofs.Compilation.Isolation

namespace RouteDocs

/-- Files that are written by path. A write that succeeds puts its text where the path leads and changes
nothing else, one that fails changes no content, and neither changes where paths lead. -/
structure FileStore (σ ι : Type) where
  write : Writing σ
  destination : σ → String → ι
  content? : σ → ι → Option ByteArray
  destination_write : ∀ s path text path',
    destination (write s path text).1 path' = destination s path'
  content_written : ∀ {s path text}, (write s path text).2 = true →
    content? (write s path text).1 (destination s path) = some text.toUTF8
  content_kept : ∀ {s path text i}, ((write s path text).2 = true → destination s path ≠ i) →
    content? (write s path text).1 i = content? s i

namespace FileStore

/-- Files on a disk are told apart by the names that lead to them from its root. -/
def disk : FileStore Disk (List String) where
  write := Disk.write
  destination := Disk.destination
  content? := Disk.contentAt?
  destination_write := Disk.destination_write
  content_written h := by rw [Disk.contentAt?_write, if_pos ⟨h, rfl⟩]
  content_kept h := by
    rw [Disk.contentAt?_write, if_neg]
    rintro ⟨hs, rfl⟩
    exact h hs rfl

/-- Files that are kept by path, with nothing that can fail. -/
def map : FileStore (String → Option ByteArray) String where
  write files path text := (Function.update files path (some text.toUTF8), true)
  destination _ path := path
  content? files path := files path
  destination_write _ _ _ _ := rfl
  content_written _ := Function.update_self ..
  content_kept h := Function.update_of_ne (h rfl).symm ..

end FileStore

/-- The content of the file of a group that compiles to a document. -/
def Group.fileContent (base : String) (g : Group) (d : Document) : ByteArray :=
  (d.textAt (g.outputPath base)).toUTF8

namespace FileStore

variable {σ ι : Type}

/-- Writes documents to files below a base directory. -/
def sink (store : FileStore σ ι) (base : String) : Sink σ := Sink.files store.write base

/-- Where the file of a group is. -/
def place (store : FileStore σ ι) (base : String) (s : σ) (g : Group) : ι :=
  store.destination s (g.outputPath base)

variable {store : FileStore σ ι} {base : String} {s t : σ} {p : String} {g : Group} {d : Document} {i : ι}

theorem sink_eq (store : FileStore σ ι) (base : String) (t : σ) (p : String) (g : Group) (d : Document) :
    store.sink base t p g d =
      let written := store.write t (g.outputPath base) (d.textAt (g.outputPath base))
      (if written.2 = true then .ok () else .error .io, written.1) := by
  unfold sink Sink.files
  dsimp only
  split
  · next h => simp [h]
  · next h => simp [h]

theorem sink_answer : (store.sink base t p g d).1 = .ok () ↔
    (store.write t (g.outputPath base) (d.textAt (g.outputPath base))).2 = true := by
  rw [sink_eq]
  dsimp only
  split
  · next h => simp [h]
  · next h => simp [h]

theorem sink_state : (store.sink base t p g d).2 =
    (store.write t (g.outputPath base) (d.textAt (g.outputPath base))).1 := by
  rw [sink_eq]

theorem sink_written (h : (store.sink base t p g d).1 = .ok ()) :
    store.content? (store.sink base t p g d).2 (store.place base t g) = some (g.fileContent base d) := by
  rw [sink_state]
  exact store.content_written (sink_answer.1 h)

theorem sink_kept (h : (store.sink base t p g d).1 = .ok () → store.place base t g ≠ i) :
    store.content? (store.sink base t p g d).2 i = store.content? t i := by
  rw [sink_state]
  exact store.content_kept fun hs => h (sink_answer.2 hs)

/-- A delivery that was written to a place. -/
def WrittenAt (store : FileStore σ ι) (base : String) (s : σ) (i : ι) (r : Delivery) : Prop :=
  r.answer = .ok () ∧ store.place base s r.group = i

/-- What is found at a place after some deliveries: what was found before, or what was written there last. -/
inductive Held (store : FileStore σ ι) (base : String) (s t : σ) (record : List Delivery) (i : ι) : Prop
  | kept (hnone : ∀ r ∈ record, ¬ store.WrittenAt base s i r)
      (hkept : store.content? t i = store.content? s i)
  | written {before : List Delivery} {r : Delivery} {after : List Delivery}
      (hrecord : record = before ++ r :: after) (hr : store.WrittenAt base s i r)
      (hlast : ∀ q ∈ after, ¬ store.WrittenAt base s i q)
      (hcontent : store.content? t i = some (r.group.fileContent base r.document))

/-- What deliveries leave behind: paths lead where they led, and each place is held. -/
structure Filed (store : FileStore σ ι) (base : String) (s t : σ) (record : List Delivery) : Prop where
  destinations : ∀ path, store.destination t path = store.destination s path
  held : ∀ i, store.Held base s t record i

variable {record : List Delivery}

theorem Filed.start : store.Filed base s s [] where
  destinations _ := rfl
  held _ := .kept (by simp) rfl

theorem Filed.deliver (h : store.Filed base s t record) (p : String) (g : Group) (d : Document) :
    store.Filed base s (store.sink base t p g d).2
      (record ++ [⟨p, g, d, (store.sink base t p g d).1⟩]) where
  destinations path := by rw [sink_state, store.destination_write, h.destinations]
  held i := by
    have hplace : store.place base t g = store.place base s g := h.destinations _
    -- a delivery that is written to the place is the last one there; any other leaves the place as it was
    by_cases hnew : store.WrittenAt base s i ⟨p, g, d, (store.sink base t p g d).1⟩
    · refine .written rfl hnew (by simp) ?_
      obtain ⟨hok, rfl⟩ := hnew
      rw [← hplace]
      exact sink_written hok
    · have hkept : store.content? (store.sink base t p g d).2 i = store.content? t i :=
        sink_kept fun hok hi => hnew ⟨hok, hplace.symm.trans hi⟩
      cases h.held i with
      | kept hnone hold =>
        refine .kept ?_ (hkept.trans hold)
        simpa [or_imp, forall_and] using ⟨hnone, hnew⟩
      | @written before r after hrecord hr hlast hold =>
        have hmore : record ++ [⟨p, g, d, (store.sink base t p g d).1⟩] =
            before ++ r :: (after ++ [⟨p, g, d, (store.sink base t p g d).1⟩]) := by simp [hrecord]
        refine .written hmore hr ?_ (hkept.trans hold)
        simpa [or_imp, forall_and] using ⟨hlast, hnew⟩

end FileStore

namespace Config

variable {σ ι : Type} {routes : List Route} {comments : Comments} {s : σ}

/-- What holds of a state and an empty record, and still holds after each delivery, holds after a run. -/
theorem foldl_recorded (routes : List Route) (comments : Comments) {sink : Sink σ}
    {P : σ → List Delivery → Prop} (start : P s [])
    (deliver : ∀ t record p g d, P t record →
      P (sink t p g d).2 (record ++ [⟨p, g, d, (sink t p g d).1⟩])) (es : List (String × Group)) :
    P (es.foldl (compileGroup routes comments sink.recorded) ({}, s, [])).2.1
      (es.foldl (compileGroup routes comments sink.recorded) ({}, s, [])).2.2 := by
  induction es using List.reverseRecOn with
  | nil => exact start
  | append_singleton es entry ih =>
    obtain ⟨p, g⟩ := entry
    rw [List.foldl_append, List.foldl_cons, List.foldl_nil]
    generalize es.foldl (compileGroup routes comments sink.recorded) ({}, s, []) = state at ih ⊢
    obtain ⟨report, t, record⟩ := state
    rw [compileGroup_eq]
    cases (g.compile routes comments p).result with
    | error e => exact ih
    | ok d => exact deliver t record p g d ih

/-- Of the written groups with their file at a place, the one with the greatest prefix. -/
structure LastWritten (config : Config) (store : FileStore σ ι) (base : String) (s : σ)
    (written : List String) (i : ι) (p : String) (g : Group) : Prop where
  isWritten : p ∈ written
  group : config.get? p = some g
  place : store.place base s g = i
  greatest : ∀ q ∈ written, ∀ f, config.get? q = some f → store.place base s f = i → q ≤ p

variable {config : Config} {store : FileStore σ ι} {base : String} {i : ι} {report : Report} {t : σ}
  {record : List Delivery} {p : String} {g : Group}

/-- A written group has been delivered, since it compiles. -/
theorem Accounted.delivery_of_written {sink : Sink σ}
    (h : Accounted routes comments sink config.entries report record) (hp : p ∈ report.written)
    (hg : config.get? p = some g) : ∃ r ∈ record, r.uriPart = p ∧ r.group = g ∧ r.answer = .ok () := by
  obtain ⟨r, hr, rfl, hok⟩ := (h.written p).1 hp
  have hget := SortedMap.mem_entries_iff.1 (h.compiled hr).1
  exact ⟨r, hr, rfl, Option.some.inj (hget.symm.trans hg), hok⟩

/-- The last delivery that was written to a place is that of the greatest prefix. -/
theorem Accounted.lastWritten
    (h : Accounted routes comments (store.sink base) config.entries report record)
    {before : List Delivery} {r : Delivery} {after : List Delivery} (hrecord : record = before ++ r :: after)
    (hr : store.WrittenAt base s i r) (hlast : ∀ q ∈ after, ¬ store.WrittenAt base s i q) :
    config.LastWritten store base s report.written i r.uriPart r.group := by
  have hmem : r ∈ record := by simp [hrecord]
  obtain ⟨hok, hplace⟩ := hr
  refine ⟨(h.written _).2 ⟨r, hmem, rfl, hok⟩, SortedMap.mem_entries_iff.1 (h.compiled hmem).1, hplace, ?_⟩
  intro q hq f hf hi
  obtain ⟨r', hr', rfl, rfl, hok'⟩ := h.delivery_of_written hq hf
  have hsorted : record.Pairwise (·.uriPart < ·.uriPart) :=
    List.pairwise_map.1 (config.sorted_keys.sublist h.recordOrder)
  -- what is written to the place comes before the last delivery or is this one, and prefixes ascend
  rw [hrecord] at hr' hsorted
  rcases List.mem_append.1 hr' with hbefore | hrest
  · exact Std.le_of_lt ((List.pairwise_append.1 hsorted).2.2 r' hbefore r (by simp))
  · rcases List.mem_cons.1 hrest with rfl | hafter
    · exact String.le_refl _
    · exact absurd ⟨hok', hi⟩ (hlast r' hafter)

/-- What is found at a place after a run: what was found before, if no group is written there, and otherwise
the document of the last group that is. -/
theorem content_compileAll (config : Config) (routes : List Route) (comments : Comments)
    (store : FileStore σ ι) (base : String) (s : σ) : ∃ report t,
      config.compileAll routes comments (store.sink base) s = (report, t) ∧
      (∀ p ∈ report.written, ∃ g d, config.get? p = some g ∧
        (g.compile routes comments p).result = .ok d) ∧
      ∀ i, ((∀ p ∈ report.written, ∀ g, config.get? p = some g → store.place base s g ≠ i) ∧
          store.content? t i = store.content? s i) ∨
        ∃ p g d, config.LastWritten store base s report.written i p g ∧
          (g.compile routes comments p).result = .ok d ∧
          store.content? t i = some (g.fileContent base d) := by
  obtain ⟨report, t, record, hrecorded, hrun, h⟩ :=
    foldl_accounted routes comments (store.sink base) s config.entries
  have hfiled : store.Filed base s t record := by
    have hfiled := foldl_recorded routes comments (P := store.Filed base s) .start
      (fun _ _ p g d hf => hf.deliver p g d) config.entries
    rwa [hrecorded] at hfiled
  refine ⟨report, t, hrun, ?_, fun i => ?_⟩
  · intro p hp
    obtain ⟨r, hr, rfl, -⟩ := (h.written p).1 hp
    obtain ⟨hm, hc⟩ := h.compiled hr
    exact ⟨r.group, r.document, SortedMap.mem_entries_iff.1 hm, hc⟩
  · cases hfiled.held i with
    | kept hnone hkept =>
      refine .inl ⟨?_, hkept⟩
      intro p hp g hg hi
      obtain ⟨r, hr, -, rfl, hok⟩ := h.delivery_of_written hp hg
      exact hnone r hr ⟨hok, hi⟩
    | @written before r after hrecord hr hlast hcontent =>
      have hmem : r ∈ record := by simp [hrecord]
      exact .inr ⟨r.uriPart, r.group, r.document, h.lastWritten hrecord hr hlast, (h.compiled hmem).2,
        hcontent⟩

theorem LastWritten.unique {written : List String} {q : String} {f : Group}
    (hp : config.LastWritten store base s written i p g) (hq : config.LastWritten store base s written i q f) :
    p = q ∧ g = f := by
  have heq : p = q := String.le_antisymm (hq.greatest p hp.isWritten g hp.group hp.place)
    (hp.greatest q hq.isWritten f hq.group hq.place)
  subst heq
  exact ⟨rfl, Option.some.inj (hp.group.symm.trans hq.group)⟩

/-- A run changes no files but those of groups that compile and are written. Where groups are written, it
leaves the document of the one with the greatest prefix. A group that fails to compile leaves the file at its
place as it was, unless another group that compiles has its file there too. -/
theorem compileAll_files (config : Config) (routes : List Route) (comments : Comments)
    (store : FileStore σ ι) (base : String) (s : σ) : ∃ report t,
      config.compileAll routes comments (store.sink base) s = (report, t) ∧
      (∀ i, store.content? t i = store.content? s i ∨ ∃ p ∈ report.written, ∃ g d, config.get? p = some g ∧
        (g.compile routes comments p).result = .ok d ∧ store.place base s g = i) ∧
      (∀ p ∈ report.written, ∃ g, config.get? p = some g ∧
        ∃ q f d, config.LastWritten store base s report.written (store.place base s g) q f ∧
          (f.compile routes comments q).result = .ok d ∧
          store.content? t (store.place base s g) = some (f.fileContent base d)) ∧
      ∀ p g e, config.get? p = some g → (g.compile routes comments p).result = .error e →
        (∀ q f d, q ≠ p → config.get? q = some f → (f.compile routes comments q).result = .ok d →
          store.place base s f ≠ store.place base s g) →
        store.content? t (store.place base s g) = store.content? s (store.place base s g) := by
  obtain ⟨report, t, hrun, hcompiled, hcontent⟩ := content_compileAll config routes comments store base s
  have hframe (i : ι) : store.content? t i = store.content? s i ∨ ∃ p ∈ report.written, ∃ g d,
      config.get? p = some g ∧ (g.compile routes comments p).result = .ok d ∧ store.place base s g = i := by
    rcases hcontent i with ⟨-, hkept⟩ | ⟨p, g, d, hlast, hd, -⟩
    · exact .inl hkept
    · exact .inr ⟨p, hlast.isWritten, g, d, hlast.group, hd, hlast.place⟩
  refine ⟨report, t, hrun, hframe, ?_, ?_⟩
  · intro p hp
    obtain ⟨g, -, hg, -⟩ := hcompiled p hp
    rcases hcontent (store.place base s g) with ⟨hnone, -⟩ | hlast
    · exact absurd rfl (hnone p hp g hg)
    · exact ⟨g, hg, hlast⟩
  · intro p g e hg he hothers
    rcases hframe (store.place base s g) with hkept | ⟨q, -, f, d, hf, hd, hplace⟩
    · exact hkept
    · by_cases hqp : q = p
      · subst hqp
        obtain rfl : g = f := Option.some.inj (hg.symm.trans hf)
        exact absurd (he.symm.trans hd) (by simp)
      · exact absurd hplace (hothers q f d hqp hf hd)

/-- A group that lacks the definitions of its schemes. -/
def openGroup : Group := { orderGroup with security := ∅, output := "old.json" }

/-- Groups with files of their own, one of which does not compile. -/
def apartConfig : Config := SortedMap.ofList
  [("/api", orderGroup), ("/api/orders", openGroup), ("/web", { orderGroup with output := "web.yaml" })]

/-- A disk with a file of an earlier run. -/
def oldDisk : Disk := ((Disk.empty ["home"]).write "docs/old.json" "old").1

theorem openGroup_fails : ∃ e, (openGroup.compile orderRoutes orderComments "/api/orders").result = .error e := by
  cases hc : (openGroup.compile orderRoutes orderComments "/api/orders").result with
  | error e => exact ⟨e, rfl⟩
  | ok d => exact absurd (isOk_iff.2 ⟨d, hc⟩) (by decide +kernel)

theorem apartConfig_written {report : Report} {t : Disk}
    (hrun : apartConfig.compileAll orderRoutes orderComments (FileStore.disk.sink "docs") oldDisk =
      (report, t)) : report.written = ["/api", "/web"] := by
  have hlist : (apartConfig.compileAll orderRoutes orderComments (FileStore.disk.sink "docs") oldDisk).1.written =
      ["/api", "/web"] := by decide +kernel
  rwa [hrun] at hlist

theorem apartConfig_places {p q : String} {g f : Group} (hg : apartConfig.get? p = some g)
    (hf : apartConfig.get? q = some f)
    (h : FileStore.disk.place "docs" oldDisk f = FileStore.disk.place "docs" oldDisk g) : q = p := by
  have hapart : ∀ e ∈ apartConfig.entries, ∀ e' ∈ apartConfig.entries,
      FileStore.disk.place "docs" oldDisk e'.2 = FileStore.disk.place "docs" oldDisk e.2 → e'.1 = e.1 := by
    decide +kernel
  exact hapart (p, g) (SortedMap.mem_entries_iff.2 hg) (q, f) (SortedMap.mem_entries_iff.2 hf) h

theorem compileAll_files_orders : ∃ report t,
    apartConfig.compileAll orderRoutes orderComments (FileStore.disk.sink "docs") oldDisk = (report, t) ∧
    t.contentAt? ["home", "docs", "old.json"] = some "old".toUTF8 ∧
    ∃ d, (orderGroup.compile orderRoutes orderComments "/api").result = .ok d ∧
      t.contentAt? ["home", "docs", "orders.json"] = some (orderGroup.fileContent "docs" d) := by
  obtain ⟨report, t, hrun, -, hwritten, hfailed⟩ :=
    compileAll_files apartConfig orderRoutes orderComments FileStore.disk "docs" oldDisk
  have hlist := apartConfig_written hrun
  refine ⟨report, t, hrun, ?_, ?_⟩
  · obtain ⟨e, he⟩ := openGroup_fails
    have hkept := hfailed "/api/orders" openGroup e rfl he fun q f d hq hf _ h =>
      hq (apartConfig_places rfl hf h)
    have hplace : FileStore.disk.place "docs" oldDisk openGroup = ["home", "docs", "old.json"] := by
      decide +kernel
    have hold : oldDisk.contentAt? ["home", "docs", "old.json"] = some "old".toUTF8 := by decide +kernel
    rw [hplace] at hkept
    exact hkept.trans hold
  · obtain ⟨g, hg, q, f, d, hlast, hd, hcontent⟩ := hwritten "/api" (by simp [hlist])
    obtain rfl : orderGroup = g := Option.some.inj hg
    obtain rfl : q = "/api" := apartConfig_places hg hlast.group hlast.place
    obtain rfl : orderGroup = f := Option.some.inj (hg.symm.trans hlast.group)
    exact ⟨d, hd, hcontent⟩

/-- A written group has its own document in its file if no other group is written to the same place. If
others are, it has exactly if the last of them wrote the same. -/
theorem compileAll_own_file (config : Config) (routes : List Route) (comments : Comments)
    (store : FileStore σ ι) (base : String) (s : σ) : ∃ report t,
      config.compileAll routes comments (store.sink base) s = (report, t) ∧
      ∀ p ∈ report.written, ∃ g d, config.get? p = some g ∧ (g.compile routes comments p).result = .ok d ∧
        ((∀ q ∈ report.written, ∀ f, config.get? q = some f →
            store.place base s f = store.place base s g → q = p) →
          store.content? t (store.place base s g) = some (g.fileContent base d)) ∧
        (store.content? t (store.place base s g) = some (g.fileContent base d) ↔
          ∀ q f e, config.LastWritten store base s report.written (store.place base s g) q f →
            (f.compile routes comments q).result = .ok e → f.fileContent base e = g.fileContent base d) := by
  obtain ⟨report, t, hrun, hcompiled, hcontent⟩ := content_compileAll config routes comments store base s
  refine ⟨report, t, hrun, fun p hp => ?_⟩
  obtain ⟨g, d, hg, hd⟩ := hcompiled p hp
  rcases hcontent (store.place base s g) with ⟨hnone, -⟩ | ⟨q, f, e, hlast, he, hqe⟩
  · exact absurd rfl (hnone p hp g hg)
  · refine ⟨g, d, hg, hd, ?_, ?_⟩
    · intro halone
      obtain rfl : q = p := halone q hlast.isWritten f hlast.group hlast.place
      obtain rfl : g = f := Option.some.inj (hg.symm.trans hlast.group)
      obtain rfl : d = e := Except.ok.inj (hd.symm.trans he)
      exact hqe
    · rw [hqe, Option.some.injEq]
      constructor
      · rintro hsame q' f' e' hlast' he'
        obtain ⟨rfl, rfl⟩ := hlast.unique hlast'
        obtain rfl : e = e' := Except.ok.inj (he.symm.trans he')
        exact hsame
      · exact fun h => h q f e hlast he

theorem compileAll_own_file_web : ∃ report t,
    apartConfig.compileAll orderRoutes orderComments (FileStore.disk.sink "docs") oldDisk = (report, t) ∧
    ∃ g d, apartConfig.get? "/web" = some g ∧ (g.compile orderRoutes orderComments "/web").result = .ok d ∧
      t.contentAt? ["home", "docs", "web.yaml"] = some (g.fileContent "docs" d) := by
  obtain ⟨report, t, hrun, hwritten⟩ :=
    compileAll_own_file apartConfig orderRoutes orderComments FileStore.disk "docs" oldDisk
  have hlist := apartConfig_written hrun
  obtain ⟨g, d, hg, hd, hown, -⟩ := hwritten "/web" (by simp [hlist])
  have hcontent := hown fun q hq f hf hplace => apartConfig_places hg hf hplace
  obtain rfl : { orderGroup with output := "web.yaml" } = g := Option.some.inj hg
  exact ⟨report, t, hrun, _, d, hg, hd, hcontent⟩

/-- Two groups that name the same file are both listed as written, but the document of the first is lost. -/
theorem orderConfig_overwritten : ∃ report files d,
    orderConfig.compileAll orderRoutes orderComments (FileStore.map.sink "docs") (fun _ => none) =
      (report, files) ∧
    "/api" ∈ report.written ∧ orderConfig.get? "/api" = some orderGroup ∧
    (orderGroup.compile orderRoutes orderComments "/api").result = .ok d ∧
    files (orderGroup.outputPath "docs") ≠ some (orderGroup.fileContent "docs" d) := by
  obtain ⟨d, hd⟩ := orderGroup_compiles
  have hlost : (orderConfig.compileAll orderRoutes orderComments (FileStore.map.sink "docs")
        fun _ => none).2 (orderGroup.outputPath "docs") ≠
      (orderGroup.compile orderRoutes orderComments "/api").result.toOption.map
        (orderGroup.fileContent "docs") := by decide +kernel
  rw [hd] at hlost
  exact ⟨_, _, d, rfl, by decide +kernel, rfl, hd, hlost⟩

end Config

end RouteDocs
