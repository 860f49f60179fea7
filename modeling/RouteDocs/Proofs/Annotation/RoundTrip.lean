import RouteDocs.Proofs.Annotation.Written

namespace RouteDocs

open Text Annotation

def Field.text (f : Field) : String :=
  if f.name = "" then f.type ++ " " ++ f.description
  else f.type ++ " $" ++ f.name ++ " " ++ f.description

def Outcome.text (o : Outcome) : String := o.type ++ " " ++ o.description

def Tag.text : Tag → String
  | .param f => "@param " ++ f.text
  | .returns o => "@return " ++ o.text
  | .throws o => "@throws " ++ o.text

theorem Field.text_toList (f : Field) : f.text.toList = f.body := by
  unfold Field.text Field.body Field.head
  split <;> simp

theorem Outcome.text_toList (o : Outcome) : o.text.toList = o.body := by
  simp [Outcome.text, Outcome.body]

theorem Tag.text_toList (t : Tag) : t.text.toList = t.block.line := by
  cases t with
  | param f =>
    rw [Tag.text, String.toList_append, f.text_toList]
    rfl
  | returns o =>
    rw [Tag.text, String.toList_append, o.text_toList]
    rfl
  | throws o =>
    rw [Tag.text, String.toList_append, o.text_toList]
    rfl

namespace Annotation

/-- The comment of an annotation. Without a summary it starts with the first tag. -/
def text (a : Annotation) : String :=
  "\n".intercalate ((if a.summary = "" then [] else [a.summary]) ++ a.tags.map Tag.text)

/-- An annotation that a comment can hold. -/
structure Writable (a : Annotation) : Prop where
  nonempty : a.summary ≠ "" ∨ a.tags ≠ []
  summary : IsSummary a.summary.toList
  tags : ∀ t ∈ a.tags, t.Writable

theorem text_toList (a : Annotation) : a.text.toList =
    ['\n'].intercalate (summaryLines a.summary.toList ++ (a.tags.map Tag.block).map Block.line) := by
  have hsummary : (if a.summary = "" then [] else [a.summary]).map String.toList =
      summaryLines a.summary.toList := by
    unfold summaryLines
    simp only [String.toList_eq_nil_iff]
    split <;> rfl
  have htags : (a.tags.map Tag.text).map String.toList = (a.tags.map Tag.block).map Block.line := by
    simp [Function.comp_def, Tag.text_toList]
  rw [text, String.toList_intercalate, List.map_append, hsummary, htags]
  rfl

/-- Nothing of an annotation is lost in its comment, and nothing is added. -/
theorem parse_text {a : Annotation} (h : a.Writable) : parse a.text = .ok a := by
  have hread : read false (['\n'].intercalate (summaryLines a.summary.toList ++
      (a.tags.map Tag.block).map Block.line)) = .ok ⟨String.ofList a.summary.toList, a.tags⟩ := by
    apply read_lines h.summary
    · simpa using h.nonempty
    · intro b hb
      obtain ⟨t, ht, rfl⟩ := List.mem_map.1 hb
      exact (h.tags t ht).block
    · exact h.tags
    · intro hs
      exact absurd hs (by decide)
    · rw [List.map_map]
      rfl
  rw [parse, text_toList, hread, String.ofList_toList]

/-- The first parameter has no variable, and the description of the second one looks like a variable. -/
def findOrders : Annotation where
  summary := "Finds orders, /** and */ included, by @term."
  tags := [.param ⟨"Query", "", "page [int $page, string $sort]"⟩, .param ⟨"string", "term", "$3 @most"⟩,
    .returns ⟨"Json<Order>", "@code 201"⟩, .throws ⟨"\\App\\Gone", ""⟩]

theorem findOrders_writable : findOrders.Writable where
  nonempty := by decide
  summary := ⟨⟨by decide, by decide, by decide⟩, by decide, by decide, by decide⟩
  tags := by
    intro t ht
    simp only [findOrders, List.mem_cons, List.not_mem_nil, or_false] at ht
    rcases ht with rfl | rfl | rfl | rfl
    · exact ⟨by decide, by decide, ⟨by decide, by decide, by decide⟩, by decide⟩
    · exact ⟨by decide, by decide, ⟨by decide, by decide, by decide⟩, by decide⟩
    · exact ⟨by decide, by decide, by decide, by decide⟩
    · exact ⟨by decide, by decide, by decide, by decide⟩

theorem parse_text_findOrders : findOrders.Writable ∧ parse findOrders.text = .ok findOrders :=
  ⟨findOrders_writable, parse_text findOrders_writable⟩

end Annotation

end RouteDocs
