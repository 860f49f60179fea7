import RouteDocs.Proofs.Source.Lexer
import RouteDocs.Source.File

namespace RouteDocs.Source

/-- The last name of a type has the property, if it is known. -/
def TypeShape.Named (p : String → Prop) : TypeShape → Prop
  | .path last _ _ => p last
  | _ => True

/-- Functions, and the types that methods belong to, have names with the property, at any depth. -/
inductive Item.Named (p : String → Prop) : Item → Prop where
  | function {f : Function} (name : p f.name) : Named p (.function f)
  | methods {owner : String} {fs : List Function} (type : p owner) (names : ∀ f ∈ fs, p f.name) :
    Named p (.methods owner fs)
  | submodule {items : List Item} (inner : ∀ item ∈ items, Named p item) : Named p (.submodule items)
  | imports (tree : UseTree) : Named p (.imports tree)
  | other : Named p .other

namespace Grammar

open Source.Parser

variable {p : String → Prop} {g : Grammar}

/-- The rules of the grammar that give names take them from the words. -/
structure ReadsNames (p : String → Prop) (g : Grammar) : Prop where
  type : ∀ several, Reads p (g.type several) (TypeShape.Named p)
  item : Reads p g.item (Item.Named p)

theorem reads_segment (g : Grammar) (inExpr : Bool) : Reads p (g.segment inExpr) fun s => p s.1 := by
  unfold segment
  refine .branch (Reads.anyWord.bind fun name hname => .pure hname) (.skip fun _ => ?_)
  extract_lets arguments
  have harguments (name : String) (hname : p name) : Reads p (arguments name) fun s => p s.1 := by
    refine .branch (.skip fun _ => .skip fun _ => .pure hname) (.branch (.ite ?_ ?_) ?_)
    · exact .pure hname
    · exact .skip fun _ => .pure hname
    · exact .pure hname
  exact .ite (Reads.anyWord.bind harguments) (Reads.name.bind harguments)

theorem reads_furtherSegments (g : Grammar) (inExpr : Bool) {path : PathShape} (hpath : p path.last) :
    Reads p (g.furtherSegments inExpr path) fun path => p path.last := by
  refine .iterate (fun path hpath => .branch (.skip fun _ => ?_) (.pure (by simp))) hpath
  exact (reads_segment g inExpr).bind fun s hs => .pure (by simpa using hs)

theorem reads_path (g : Grammar) (inExpr : Bool) : Reads p (g.path inExpr) fun path => p path.last :=
  .skip fun _ => (reads_segment g inExpr).bind fun _ hs => reads_furtherSegments g inExpr hs

theorem reads_qualifiedPath (g : Grammar) (inExpr : Bool) :
    Reads p (g.qualifiedPath inExpr) fun path => p path.2.last := by
  refine .branch (.skip fun _ => .skip fun _ => .behind ?_) ?_
  · refine .skip fun _ => .skip fun _ => (reads_segment g inExpr).bind fun first hfirst => ?_
    refine (Reads.whileSees (.skip fun _ => reads_segment g inExpr)).bind fun rest hrest => .pure ?_
    have hall : ∀ s ∈ first :: rest, p s.1 := List.forall_mem_cons.2 ⟨hfirst, hrest⟩
    exact hall _ (List.getLast_mem _)
  · exact (reads_path g inExpr).bind fun path hpath => .pure hpath

theorem reads_roundType (g : Grammar) (several : Bool) : Reads p (g.roundType several) (TypeShape.Named p) := by
  refine Reads.bind (P := fun s => s.1.Named p) (.inGroup ?_) fun s hs => ?_
  · refine .branch (.pure trivial) (.branch (.returning trivial _) (.branch (.returning trivial _) ?_))
    exact .skip fun _ => .branch (.returning trivial _) (.pure trivial)
  · refine .ite (.branch (.returning trivial g.furtherBounds) (.pure trivial)) (.skip fun _ => ?_)
    exact .ite (.returning trivial g.furtherBounds) (.pure hs)

theorem reads_pathType (g : Grammar) (several bound : Bool) :
    Reads p (g.pathType several bound) (TypeShape.Named p) := by
  refine (reads_qualifiedPath g false).bind fun start hstart => ?_
  refine Reads.bind (P := fun path => p path.1.last) (.iterate (fun path hpath => ?_) hstart) fun path hpath => ?_
  · refine .skip fun _ => .ite (.skip fun _ => .skip fun result => ?_) (.pure (by simp))
    refine .ite ((reads_furtherSegments g false ?_).bind fun further hfurther => .pure ?_) (.pure ?_)
    · exact hpath
    · simpa using hfurther
    · simpa using hpath
  · refine .ite (.pure hpath) (.skip fun _ => .ite ?_ (.ite ?_ ?_))
    · exact .skip fun _ => .returning trivial _
    · exact .ite (.returning trivial _) (.pure trivial)
    · exact .skip fun _ => .ite (.returning trivial _) (.pure hpath)

/-- Only a path has a name. -/
theorem reads_typeRule (g : Grammar) (several : Bool) : Reads p (g.typeRule several) (TypeShape.Named p) := by
  -- one alternative of the rule after the other
  refine .skip fun binds => .behind (.branch (reads_roundType g several) ?_)
  refine .branch (.returning trivial g.functionPointer) ?_
  refine .branch (reads_pathType g several binds) ?_
  refine .branch (.skip fun _ => .returning trivial _) ?_
  refine .branch (.returning trivial (inGroup .square _)) ?_
  refine .branch (.skip fun _ => .behind (.returning trivial _)) ?_
  refine .branch (.skip fun _ => .skip fun _ => .returning trivial _) ?_
  refine .branch (.returning trivial (marks "!")) ?_
  refine .branch (.returning trivial _) ?_
  refine .branch (.pure trivial) (.branch (.skip fun isBound => .pure ?_) .failure)
  cases isBound with
  | false => trivial
  | true => trivial

theorem reads_signature (g : Grammar) (allowSafe : Bool) : Reads p (g.signature allowSafe) p := by
  refine .skip fun _ => .skip fun _ => .skip fun _ => .behind (.skip fun _ => .skip fun _ => ?_)
  refine Reads.name.bind fun name hname => .skip fun _ => .skip fun _ => .skip fun _ => .behind ?_
  exact .returning hname g.whereClause

theorem reads_function (g : Grammar) (docs : List String) :
    Reads p (g.function docs) fun f? => ∀ f ∈ f?, p f.name := by
  refine (reads_signature g false).bind fun name hname => .branch (.pure (by simp)) ?_
  exact .skip fun _ => .pure (by simpa using hname)

theorem reads_member (g : Grammar) : Reads p g.member fun f? => ∀ f ∈ f?, p f.name := by
  have hnothing (x : Parser Unit) : Reads p (do x; return none) fun f? : Option Function => ∀ f ∈ f?, p f.name :=
    .returning (by simp) x
  refine .skip fun docs => .skip fun _ => .skip fun _ => .behind (.branch (reads_function g docs) ?_)
  refine .branch (hnothing g.constItem) (.branch (hnothing (g.typeItem .behind)) ?_)
  exact .skip fun _ => .ite (hnothing memberMacro) .failure

theorem reads_moduleItem (h : g.ReadsNames p) : Reads p g.moduleItem (Item.Named p) := by
  refine .skip fun _ => .skip fun _ => .skip fun _ => .behind (.branch (.pure .other) (.inGroup ?_))
  exact .skip fun _ => h.item.whileSees.bind fun items hitems => .pure (.submodule hitems)

theorem reads_implItem (h : g.ReadsNames p) (visible : Bool) : Reads p (g.implItem visible) (Item.Named p) := by
  refine .skip fun _ => .skip fun _ => .skip fun _ => .skip fun _ => .behind (.skip fun constant => ?_)
  -- a part that may be left out, and the rest of the rule behind it
  extract_lets signed
  have hsigned : Reads p (signed ()) (Item.Named p) := by
    refine .skip fun negative => .behind ((h.type true).bind fun first hfirst => .skip fun isFor => ?_)
    extract_lets ofTrait members
    have hmembers (owner : TypeShape) (howner : owner.Named p) : Reads p (members owner) (Item.Named p) := by
      refine .skip fun _ => (Reads.inGroup (.skip fun _ => (reads_member g).whileSees)).bind fun fs hfs => ?_
      cases owner with
      | path name qualified solo =>
        dsimp only
        split
        · exact .pure .other
        · refine .pure (.methods howner fun f hf => ?_)
          obtain ⟨f?, hmem, hsome⟩ := List.mem_filterMap.1 hf
          exact hfs f? hmem f hsome
      | parenthesised => exact .pure .other
      | bound => exact .pure .other
      | other => exact .pure .other
    exact .ite ((h.type true).bind hmembers) ((Reads.pure hfirst).bind hmembers)
  exact .ite (.skip fun _ => .skip fun _ => hsigned) hsigned

theorem reads_itemRest (h : g.ReadsNames p) (docs : List String) : Reads p (g.itemRest docs) (Item.Named p) := by
  have hother (x : Parser Unit) : Reads p (do x; return Item.other) (Item.Named p) := .returning .other x
  refine .skip fun visible => .branch ((reads_function g docs).bind fun f? hf => ?_) ?_
  · cases f? with
    | none => exact .pure .other
    | some f => exact .pure (.function (hf f rfl))
  refine .branch (.branch (hother crateItem) (.ite (hother _) (hother g.foreignItem))) ?_
  refine .branch (.skip fun _ => .skip fun _ => .skip fun tree? => .skip fun _ => .pure ?_) ?_
  · cases tree? with
    | none => exact .other
    | some tree => exact .imports tree
  refine .branch (hother g.staticItem) ?_
  refine .branch (hother g.constItem) ?_
  refine .branch (.branch (hother g.traitItem) (.branch (reads_implItem h visible) (.branch ?_ ?_))) ?_
  · exact .behind (hother g.foreignItem)
  · exact reads_moduleItem h
  refine .branch (reads_moduleItem h) ?_
  refine .branch (hother (g.typeItem .before)) ?_
  refine .branch (hother g.structItem) ?_
  refine .branch (hother g.enumItem) ?_
  refine .branch (hother g.unionItem) ?_
  refine .branch (hother g.traitItem) ?_
  refine .branch (reads_implItem h visible) ?_
  exact .branch (hother macroDefinition) (.skip fun _ => .ite (hother macroItem) .failure)

theorem ReadsNames.unfold (h : g.ReadsNames p) : g.unfold.ReadsNames p where
  type := reads_typeRule g
  item := .skip fun docs => reads_itemRest h docs

theorem readsNames_ofDepth (n : Nat) : (ofDepth n).ReadsNames p := by
  induction n with
  | zero => exact ⟨fun _ => .failure, .failure⟩
  | succ n ih => exact ih.unfold

end Grammar

theorem named_of_items? {p : String → Prop} {ts : List Token} {items : List Item} (hts : AllWords p ts)
    (h : items? ts = some items) : ∀ item ∈ items, item.Named p := by
  obtain ⟨⟨read, rest⟩, hrun, hend⟩ := Option.bind_eq_some_iff.1 h
  obtain ⟨-, heq⟩ := Option.ite_none_right_eq_some.1 hend
  obtain rfl := Option.some.inj heq
  have hreads (g : Grammar) (hg : g.ReadsNames p) :
      Parser.Reads p (do discard g.innerAttributes; Parser.untilSees Look.nothing g.item) fun items =>
        ∀ item ∈ items, item.Named p := .skip fun _ => hg.item.whileSees
  exact hreads _ (Grammar.readsNames_ofDepth _) ts read rest hts hrun

/-- Functions, and the types that methods belong to, are called by identifiers, raw or not. -/
theorem named_of_parse {text : String} {items : List Item} (h : parse text = some items) :
    ∀ item ∈ items, item.Named IsIdentifier := by
  obtain ⟨ts, hts, hitems⟩ := Option.bind_eq_some_iff.1 h
  exact named_of_items? (allWords_of_tokens? hts) hitems

end RouteDocs.Source
