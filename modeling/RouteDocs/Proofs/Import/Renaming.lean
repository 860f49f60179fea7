import RouteDocs.Proofs.Import
import RouteDocs.Proofs.List

namespace RouteDocs

namespace Source

/-- A place in a tree of imports: the tree without what stands there. -/
inductive Spot where
  | here
  | inPath (head : String) (rest : Spot)
  | inGroup (earlier : List UseTree) (rest : Spot) (later : List UseTree)
  deriving Repr

namespace Spot

def fill : Spot → UseTree → UseTree
  | here, t => t
  | inPath head s, t => .path head (s.fill t)
  | inGroup earlier s later, t => .group (earlier ++ s.fill t :: later)

/-- The names that lead there. -/
def path : Spot → List String
  | here => []
  | inPath head s => head :: s.path
  | inGroup _ s _ => s.path

/-- The leaves of the tree that come before the place. -/
def before : Spot → List Leaf
  | here => []
  | inPath head s => s.before.map (Leaf.below head)
  | inGroup earlier s _ => UseTree.leavesOf earlier ++ s.before

def after : Spot → List Leaf
  | here => []
  | inPath head s => s.after.map (Leaf.below head)
  | inGroup _ s later => s.after ++ UseTree.leavesOf later

end Spot

theorem UseTree.leavesOf_append (ts us : List UseTree) :
    UseTree.leavesOf (ts ++ us) = UseTree.leavesOf ts ++ UseTree.leavesOf us := by
  induction ts with
  | nil => rfl
  | cons t ts ih => rw [List.cons_append, UseTree.leavesOf, UseTree.leavesOf, ih, List.append_assoc]

theorem Spot.leaves_fill (s : Spot) (e : Ending) : (s.fill e.tree).leaves = s.before ++ ⟨s.path, e⟩ :: s.after := by
  induction s with
  | here => exact Ending.leaves_tree e
  | inPath head s ih =>
    rw [Spot.fill, UseTree.leaves, ih, List.map_append, List.map_cons]
    rfl
  | inGroup earlier s later ih =>
    rw [Spot.fill, UseTree.leaves, UseTree.leavesOf_append, UseTree.leavesOf, ih, List.append_assoc, List.cons_append,
      ← List.append_assoc]
    rfl

theorem Ending.exists_spot {e : Ending} {before after : List Leaf} {l : Leaf}
    (h : e.tree.leaves = before ++ l :: after) :
    ∃ s : Spot, s.fill l.ending.tree = e.tree ∧ s.path = l.path ∧ s.before = before ∧ s.after = after := by
  rw [Ending.leaves_tree, List.singleton_eq_append_iff] at h
  rcases h with ⟨rfl, h⟩ | ⟨-, h⟩
  · obtain ⟨rfl, rfl⟩ := List.cons.inj h
    exact ⟨.here, rfl, rfl, rfl, rfl⟩
  · exact absurd h (List.cons_ne_nil l after)

mutual

theorem UseTree.exists_spot (t : UseTree) {before after : List Leaf} {l : Leaf}
    (h : t.leaves = before ++ l :: after) :
    ∃ s : Spot, s.fill l.ending.tree = t ∧ s.path = l.path ∧ s.before = before ∧ s.after = after := by
  match t with
  | .path head rest =>
    obtain ⟨ls, rs, hrest, rfl, hrs⟩ := List.map_eq_append_iff.1 h
    obtain ⟨l, rs, rfl, rfl, rfl⟩ := List.map_eq_cons_iff.1 hrs
    obtain ⟨s, rfl, hpath, rfl, rfl⟩ := UseTree.exists_spot rest hrest
    exact ⟨.inPath head s, rfl, congrArg (head :: ·) hpath, rfl, rfl⟩
  | .name n => exact Ending.exists_spot (e := .name n) h
  | .rename n visible => exact Ending.exists_spot (e := .rename n visible) h
  | .glob => exact Ending.exists_spot (e := .glob) h
  | .group ts =>
    obtain ⟨earlier, s, later, rfl, hpath, rfl, rfl⟩ := UseTree.exists_spot_among ts h
    exact ⟨.inGroup earlier s later, rfl, hpath, rfl, rfl⟩

theorem UseTree.exists_spot_among (ts : List UseTree) {before after : List Leaf} {l : Leaf}
    (h : UseTree.leavesOf ts = before ++ l :: after) :
    ∃ (earlier : List UseTree) (s : Spot) (later : List UseTree), earlier ++ s.fill l.ending.tree :: later = ts ∧
      s.path = l.path ∧ UseTree.leavesOf earlier ++ s.before = before ∧ s.after ++ UseTree.leavesOf later = after := by
  match ts with
  | [] => exact absurd h.symm (List.append_ne_nil_of_right_ne_nil before (List.cons_ne_nil l after))
  | t :: ts =>
    rcases append_eq_append_cons_iff.1 h with ⟨rest, rfl, hts⟩ | ⟨rest, ht, rfl⟩
    · obtain ⟨earlier, s, later, rfl, hpath, rfl, rfl⟩ := UseTree.exists_spot_among ts hts
      exact ⟨t :: earlier, s, later, rfl, hpath, List.append_assoc .., rfl⟩
    · obtain ⟨s, rfl, hpath, rfl, rfl⟩ := UseTree.exists_spot t ht
      exact ⟨[], s, ts, rfl, hpath, rfl, rfl⟩

end

/-- The leaves of a tree are what stands at the places in it. -/
theorem UseTree.leaves_eq_iff {t : UseTree} {before after : List Leaf} {l : Leaf} :
    t.leaves = before ++ l :: after ↔
      ∃ s : Spot, s.fill l.ending.tree = t ∧ s.path = l.path ∧ s.before = before ∧ s.after = after := by
  refine ⟨UseTree.exists_spot t, ?_⟩
  rintro ⟨s, rfl, hpath, rfl, rfl⟩
  rw [Spot.leaves_fill, hpath]

end Source

namespace Import

open Source

theorem brings_iff {path : List String} {e : Ending} {is : List Import} :
    Brings path e is ↔ is = ofEnding path e := by
  constructor
  · intro h
    cases h with
    | glob => rfl
    | nothing root => rw [root]; rfl
    | itself split => rw [ofEnding, ofName, if_pos rfl, split, List.getLast?_concat]
    | name other => exact (if_neg other).symm
    | rename name visible => rfl
  · rintro rfl
    exact brings_ofEnding path e

/-- The imports of leaves, one after the other. -/
inductive BringAll (above : List String) : List Leaf → List Import → Prop where
  | nil : BringAll above [] []
  | cons {l : Leaf} {ls : List Leaf} {is js : List Import} (first : Brings (above ++ l.path) l.ending is)
    (others : BringAll above ls js) : BringAll above (l :: ls) (is ++ js)

theorem bringAll_iff {above : List String} {ls : List Leaf} {is : List Import} :
    BringAll above ls is ↔ is = ls.flatMap (ofLeaf above) := by
  constructor
  · intro h
    induction h with
    | nil => rfl
    | cons first _ ih => rw [brings_iff.1 first, ih, List.flatMap_cons, ofLeaf]
  · rintro rfl
    induction ls with
    | nil => exact .nil
    | cons l ls ih => exact .cons (brings_ofEnding _ _) ih

theorem joined_concat_ne {path : List String} (h : path ≠ []) (name : String) :
    joined (path ++ [name]) ≠ joined path := by
  intro hsame
  have hlonger : joined (path ++ [name]) = joined path ++ "::" ++ name := by
    rw [joined, String.intercalate_append_of_ne_nil h (List.cons_ne_nil name []), String.intercalate_singleton, joined]
  have hlength : (joined path).length = (joined path ++ "::" ++ name).length :=
    congrArg String.length (hsame.symm.trans hlonger)
  have hcolons : "::".length = 2 := rfl
  rw [String.length_append, String.length_append] at hlength
  omega

/-- Under the new name the import of a name is the one of the name renamed, unless the name is `self`. -/
theorem Brings.map_visible_eq_iff {path : List String} {name : String} {own : List Import}
    (h : Brings path (.name name) own) (visible : String) :
    own.map (fun i => { i with visible }) = [⟨visible, joined (path ++ [name])⟩] ↔ name ≠ "self" := by
  cases h with
  -- Without a path `self` has no import, while renamed it has one.
  | nothing root => simp
  | itself split =>
    have hne : path ≠ [] := by simp [split]
    simpa using (joined_concat_ne hne "self").symm
  | name other => simpa using other

theorem Collection.add_inj {c : Collection} {is js : List Import} : c.add is = c.add js ↔ is = js := by
  simp [add]

theorem run_collect_fill (s : Spot) (e : Ending) (c : Collection) :
    (collect (s.fill e.tree)).run c = ((), c.add (s.before.flatMap (ofLeaf c.above) ++
      ofEnding (c.above ++ s.path) e ++ s.after.flatMap (ofLeaf c.above))) := by
  rw [run_collect, Spot.leaves_fill, List.flatMap_append, List.flatMap_cons, List.append_assoc]
  rfl

/-- Renamed at a place, a name has its import under the new name and with the same path, and what the leaves before and
after it bring stays as it is. -/
def RenamesVisibly (s : Spot) (name visible : String) (c : Collection) : Prop :=
  ∃ before own after, BringAll c.above s.before before ∧ Brings (c.above ++ s.path) (.name name) own ∧
    BringAll c.above s.after after ∧
    (collect (s.fill (.name name))).run c = ((), c.add (before ++ own ++ after)) ∧
    (collect (s.fill (.rename name visible))).run c =
      ((), c.add (before ++ own.map (fun i => { i with visible }) ++ after))

theorem renamesVisibly_iff (s : Spot) (name visible : String) (c : Collection) :
    RenamesVisibly s name visible c ↔ name ≠ "self" := by
  have hname := run_collect_fill s (.name name) c
  have hrename := run_collect_fill s (.rename name visible) c
  have hown := brings_ofEnding (c.above ++ s.path) (.name name)
  rw [← hown.map_visible_eq_iff visible]
  constructor
  · rintro ⟨before, own, after, hbefore, hbrings, hafter, -, hrun⟩
    rw [bringAll_iff.1 hbefore, brings_iff.1 hbrings, bringAll_iff.1 hafter] at hrun
    have hadded := Collection.add_inj.1 (congrArg Prod.snd (hrun.symm.trans hrename))
    exact List.append_cancel_left (List.append_cancel_right hadded)
  · intro hkept
    refine ⟨_, _, _, bringAll_iff.2 rfl, hown, bringAll_iff.2 rfl, hname, ?_⟩
    rw [hkept]
    exact hrename

/-- The names at the end of paths are what stands at the places of a tree, and renaming one of them changes nothing but
its visible name exactly if it is not `self`. In any case all else stays as it is, and the import of a renamed name has
the path that the name continues. For `self` this is not the path that it stands for. -/
theorem collect_renamed_iff (name : String) :
    (∀ t before path after, t.leaves = before ++ ⟨path, .name name⟩ :: after ↔
      ∃ s : Spot, s.fill (.name name) = t ∧ s.path = path ∧ s.before = before ∧ s.after = after) ∧
    ∀ (s : Spot) (visible : String) (c : Collection),
      (RenamesVisibly s name visible c ↔ name ≠ "self") ∧
      ∃ before own after, BringAll c.above s.before before ∧ Brings (c.above ++ s.path) (.name name) own ∧
        BringAll c.above s.after after ∧
        (collect (s.fill (.name name))).run c = ((), c.add (before ++ own ++ after)) ∧
        (collect (s.fill (.rename name visible))).run c =
          ((), c.add (before ++ [⟨visible, joined (c.above ++ s.path ++ [name])⟩] ++ after)) := by
  refine ⟨fun t before path after => UseTree.leaves_eq_iff, fun s visible c => ⟨?_, ?_⟩⟩
  · exact renamesVisibly_iff s name visible c
  · exact ⟨_, _, _, bringAll_iff.2 rfl, brings_ofEnding _ _, bringAll_iff.2 rfl,
      run_collect_fill s (.name name) c, run_collect_fill s (.rename name visible) c⟩

/-- The only place in a group behind a name. -/
def moduleSpot : Spot := .inPath "models" (.inGroup [] .here [])

/-- A module that is imported under another name has a path that leads to nothing. -/
theorem moduleSpot_renames_path :
    ofSource "use models::\x7bself\x7d;" = [⟨"models", "models"⟩] ∧
    ofSource "use models::\x7bself as schemas\x7d;" = [⟨"schemas", "models::self"⟩] ∧
    ¬ RenamesVisibly moduleSpot "self" "schemas" {} := by
  refine ⟨by decide +kernel, by decide +kernel, fun h => ?_⟩
  exact (renamesVisibly_iff moduleSpot "self" "schemas" {}).1 h rfl

end Import

end RouteDocs
