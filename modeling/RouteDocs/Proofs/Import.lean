import Mathlib.Data.List.Forall2
import RouteDocs.Import

namespace RouteDocs

namespace Source

/-- What a tree of imports can end in. -/
inductive Ending where
  | name (name : String)
  | rename (name visible : String)
  | glob
  deriving DecidableEq, Repr

def Ending.tree : Ending → UseTree
  | .name n => .name n
  | .rename n visible => .rename n visible
  | .glob => .glob

/-- A leaf of a tree of imports, with the names that lead to it. -/
structure Leaf where
  path : List String
  ending : Ending
  deriving DecidableEq, Repr

namespace Leaf

/-- The leaf as a tree of its own: a single path, without groups. -/
def tree (l : Leaf) : UseTree := l.path.foldr .path l.ending.tree

def below (head : String) (l : Leaf) : Leaf := { l with path := head :: l.path }

end Leaf

mutual

/-- The leaves of a tree, from left to right. -/
def UseTree.leaves : UseTree → List Leaf
  | .path head rest => rest.leaves.map (Leaf.below head)
  | .name n => [⟨[], .name n⟩]
  | .rename n visible => [⟨[], .rename n visible⟩]
  | .glob => [⟨[], .glob⟩]
  | .group trees => UseTree.leavesOf trees

def UseTree.leavesOf : List UseTree → List Leaf
  | [] => []
  | t :: ts => t.leaves ++ UseTree.leavesOf ts

end

theorem Ending.leaves_tree (e : Ending) : e.tree.leaves = [⟨[], e⟩] := by
  cases e <;> rfl

theorem Leaf.leaves_tree (l : Leaf) : l.tree.leaves = [l] := by
  obtain ⟨path, ending⟩ := l
  induction path with
  | nil => exact Ending.leaves_tree ending
  | cons head path ih => exact congrArg (List.map (Leaf.below head)) ih

end Source

namespace Import

open Source

/-- The imports of what stands at the end of a path. A glob has none. The name `self` stands for the path, under its
last name, and for nothing without a path. Any other name continues the path, and a rename changes under which name. -/
inductive Brings (path : List String) : Ending → List Import → Prop where
  | glob : Brings path .glob []
  | nothing (root : path = []) : Brings path (.name "self") []
  | itself {parents : List String} {last : String} (split : path = parents ++ [last]) :
    Brings path (.name "self") [⟨last, joined path⟩]
  | name {name : String} (other : name ≠ "self") : Brings path (.name name) [⟨name, joined (path ++ [name])⟩]
  | rename (name visible : String) : Brings path (.rename name visible) [⟨visible, joined (path ++ [name])⟩]

def ofEnding (path : List String) : Ending → List Import
  | .name name => ofName path name
  | .rename name visible => [⟨visible, joined (path ++ [name])⟩]
  | .glob => []

theorem brings_ofEnding (path : List String) (e : Ending) : Brings path e (ofEnding path e) := by
  cases e with
  | glob => exact .glob
  | rename name visible => exact .rename name visible
  | name name =>
    rw [ofEnding, ofName]
    split
    · next hself =>
      subst hself
      cases hlast : path.getLast? with
      | none => exact .nothing (List.getLast?_eq_none_iff.1 hlast)
      | some last =>
        obtain ⟨parents, hparents⟩ := List.getLast?_eq_some_iff.1 hlast
        exact .itself hparents
    · next other => exact .name other

/-- The imports of a leaf, where some names lead to its tree. -/
def ofLeaf (above : List String) (l : Leaf) : List Import := ofEnding (above ++ l.path) l.ending

theorem ofLeaf_below (above : List String) (head : String) (l : Leaf) :
    ofLeaf above (l.below head) = ofLeaf (above ++ [head]) l := by
  simp [ofLeaf, Leaf.below]

namespace Collection

theorem add_nil (c : Collection) : c.add [] = c := by
  simp [add]

theorem add_add (is js : List Import) (c : Collection) : (c.add is).add js = c.add (is ++ js) := by
  simp [add]

theorem leave_add_enter (name : String) (is : List Import) (c : Collection) :
    ((c.enter name).add is).leave = c.add is := by
  simp [enter, add, leave]

end Collection

theorem run_collect_ending (e : Ending) (c : Collection) :
    (collect e.tree).run c = ((), c.add (e.tree.leaves.flatMap (ofLeaf c.above))) := by
  rw [Ending.leaves_tree, List.flatMap_singleton, ofLeaf, List.append_nil]
  cases e with
  | name name => rfl
  | rename name visible => rfl
  | glob => exact congrArg (Prod.mk ()) (Collection.add_nil c).symm

mutual

/-- What a tree adds is what its leaves bring. The names that are entered on the way are left again. -/
theorem run_collect (t : UseTree) (c : Collection) :
    (collect t).run c = ((), c.add (t.leaves.flatMap (ofLeaf c.above))) := by
  match t with
  | .path head rest =>
    have hrest : (collect (.path head rest)).run c = ((), ((collect rest).run (c.enter head)).2.leave) := rfl
    have hleaves : (UseTree.path head rest).leaves.flatMap (ofLeaf c.above) =
        rest.leaves.flatMap (ofLeaf (c.above ++ [head])) := by
      simp only [UseTree.leaves, List.flatMap_map, ofLeaf_below]
    rw [hrest, run_collect rest, Collection.leave_add_enter, hleaves]
    rfl
  | .name name => exact run_collect_ending (.name name) c
  | .rename name visible => exact run_collect_ending (.rename name visible) c
  | .glob => exact run_collect_ending .glob c
  | .group trees => exact run_collectAll trees c

theorem run_collectAll (ts : List UseTree) (c : Collection) :
    (collectAll ts).run c = ((), c.add ((UseTree.leavesOf ts).flatMap (ofLeaf c.above))) := by
  match ts with
  | [] => exact congrArg (Prod.mk ()) (Collection.add_nil c).symm
  | t :: ts =>
    have hrest : (collectAll (t :: ts)).run c = (collectAll ts).run ((collect t).run c).2 := rfl
    rw [hrest, run_collect t, run_collectAll ts, Collection.add_add, UseTree.leavesOf, List.flatMap_append]
    rfl

end

/-- Leaves that are gone through as trees of their own add what they bring. -/
theorem run_forM_leaves (ls : List Leaf) (c : Collection) :
    (ls.forM fun l => collect l.tree).run c = ((), c.add (ls.flatMap (ofLeaf c.above))) := by
  induction ls generalizing c with
  | nil => exact congrArg (Prod.mk ()) (Collection.add_nil c).symm
  | cons l ls ih =>
    have hrest : ((l :: ls).forM fun l => collect l.tree).run c =
        (ls.forM fun l => collect l.tree).run ((collect l.tree).run c).2 := rfl
    rw [hrest, run_collect, Leaf.leaves_tree, ih, Collection.add_add, List.flatMap_singleton, List.flatMap_cons]
    rfl

theorem ofItems_eq (items : List Item) : ofItems items = items.flatMap ofItem := by
  induction items with
  | nil => rfl
  | cons i is ih => rw [ofItems, ih, List.flatMap_cons]

theorem ofItem_imports (t : UseTree) : ofItem (.imports t) = t.leaves.flatMap (ofLeaf []) := by
  rw [ofItem, run_collect]
  exact List.nil_append _

theorem ofItem_leaf (l : Leaf) : ofItem (.imports l.tree) = ofLeaf [] l := by
  rw [ofItem_imports, Leaf.leaves_tree, List.flatMap_singleton]

/-- Collecting a tree adds behind what was found before what each of its leaves brings, and leaves all names that were
entered. The leaves as trees of their own come to the same, and among other items they declare the same imports. -/
theorem collect_leaves (t : UseTree) (c : Collection) :
    (∃ iss, List.Forall₂ (fun l is => Brings (c.above ++ l.path) l.ending is) t.leaves iss ∧
      (collect t).run c = ((), { c with found := c.found ++ iss.flatten })) ∧
    (t.leaves.forM fun l => collect l.tree).run c = (collect t).run c ∧
    ∀ before after, ofItems (before ++ t.leaves.map (fun l => .imports l.tree) ++ after) =
      ofItems (before ++ .imports t :: after) := by
  refine ⟨⟨t.leaves.map (ofLeaf c.above), ?_, ?_⟩, ?_, fun before after => ?_⟩
  · rw [List.forall₂_map_right_iff, List.forall₂_same]
    exact fun l _ => brings_ofEnding _ _
  · rw [run_collect, List.flatMap_def]
    rfl
  · rw [run_forM_leaves, run_collect]
  · have heach : ofItem (.imports t) = t.leaves.flatMap fun l => ofItem (.imports l.tree) := by
      simp only [ofItem_leaf]
      exact ofItem_imports t
    simp only [ofItems_eq, List.flatMap_append, List.flatMap_cons, List.flatMap_map, heach, List.append_assoc]

end Import

end RouteDocs
