import Wireframe.Proofs.Export.PugBreaks
import Wireframe.Proofs.Render.Vocabulary

/-! # What the Pug template of a document shows

The markup of a rendered document is read as trees, and the lines of Pug that are written
for the trees are read back (`Wireframe.Export.Pug.pug_of_document`): no character of a
document is read as notation, apart from a line feed at the end of an id that the shorthand
can hold otherwise (`Wireframe.Export.Pug.broken_by_id`).
-/

namespace Wireframe.Export.Pug

open Markup (allAttributes)

/-- **The Pug lines of a document.** The markup of every document is read as trees. The lines that
are written for the trees are read back as what the trees denote exactly if no id that is written
behind a tag ends in a line feed, and exactly then each of them is a single line. -/
theorem pug_of_document (d : Document) (theme : Theme.Resolved) (depth : Nat) :
    ∃ trees, Markup.read (Render.fragment d theme).markup = .ok trees ∧
      (read? (Text.file (linesOfAll depth trees)) = some (denoted trees) ↔
        ∀ a ∈ allAttributes trees, KeepsLine a) ∧
      ((∀ l ∈ linesOfAll depth trees, Text.oneLine l.toList = true) ↔
        ∀ a ∈ allAttributes trees, KeepsLine a) := by
  obtain ⟨trees, read, _, usual⟩ := Render.read_usual d theme
  have back := read?_lines_iff Render.isName_of_mem_tags Render.isName_of_mem_attributeNames usual
    depth
  have whole := oneLine_lines Render.isName_of_mem_tags Render.isName_of_mem_attributeNames usual
    depth
  exact ⟨trees, read, back, whole⟩

/-- **A line feed behind an id.** The shorthand holds the id with the line feed, so the line of the
element breaks, and neither the id nor the text is read back. -/
theorem broken_by_id :
    let source :=
      Source.text "page: \x7bcomponents: [Text: \x7bid: \"a\\n\", value: x, variant: p\x7d]\x7d"
    ∃ d, Document.ofSource source = .ok d ∧ ∀ (theme : Theme.Resolved) (depth : Nat),
      ∃ trees, Markup.read (Render.fragment d theme).markup = .ok trees ∧
        read? (Text.file (linesOfAll depth trees)) ≠ some (denoted trees) ∧
        ¬ ∀ l ∈ linesOfAll depth trees, Text.oneLine l.toList = true := by
  intro source
  have given : (Document.ofSource source).toOption.bind Render.soleText? =
      some ⟨some "a\n", .p, "x"⟩ := by
    decide +kernel
  obtain ⟨d, parsed, attributes, outline⟩ := Render.outline_soleText given
  refine ⟨d, parsed, fun theme depth => ?_⟩
  obtain ⟨trees, read, rfl, usual⟩ := Render.read_usual d theme
  have member : ("id", some "a\n") ∈
      allAttributes (Markup.dropBlanks [Render.Outline.page d.page]) := by
    have kept : Render.idAttribute (some "a\n") = [("id", some "a\n")] := rfl
    simp [outline, Render.Outline.textBlock, kept, allAttributes]
  have breaks : ¬ ∀ a ∈ allAttributes (Markup.dropBlanks [Render.Outline.page d.page]),
      KeepsLine a := by
    intro kept
    have broken := kept _ member rfl "a\n" rfl (by decide)
    cases broken
  refine ⟨_, read, ?_, ?_⟩
  · rw [Ne, read?_lines_iff Render.isName_of_mem_tags Render.isName_of_mem_attributeNames usual depth]
    exact breaks
  · rw [oneLine_lines Render.isName_of_mem_tags Render.isName_of_mem_attributeNames usual depth]
    exact breaks

end Wireframe.Export.Pug
