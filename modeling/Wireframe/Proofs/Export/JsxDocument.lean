import Wireframe.Proofs.Export.Jsx
import Wireframe.Proofs.Render.Vocabulary

/-! # What the JSX of a document shows

The markup of a rendered document is read as trees, and the lines of JSX that are written
for the trees are read back (`Wireframe.Export.Jsx.jsx_of_document`). Every element comes
back with its properties, and no character of the document is read as a tag, as a property
or as an expression. Texts come back as they are unless they stand as they are and hold a
character at which raw text is cut, such as a carriage return
(`Wireframe.Export.Jsx.cut_at_return`).
-/

namespace Wireframe.Export.Jsx

open Markup (texts allAttributes)

/-- **The JSX of a document.** The markup of every document is read as trees. The lines that are
written for the trees are read back as what the trees denote, with each text as it looks. That is
what the trees denote exactly if no text that stands as it is holds a character at which raw text is
cut, and each line is a single line exactly if no text and no value that stands as it is breaks
it. -/
theorem jsx_of_document (d : Document) (theme : Theme.Resolved) (depth : Nat) :
    ∃ trees, Markup.read (Render.fragment d theme).markup = .ok trees ∧
      read? (Text.file (linesOfAll depth trees)) = some (denoted shownText trees) ∧
      (denoted shownText trees = denoted id trees ↔
        ∀ s ∈ texts trees, isPlainText s.toList = true → ∀ c ∈ s.toList, cutsText c = false) ∧
      ((∀ l ∈ linesOfAll depth trees, Text.oneLine l.toList = true) ↔
        (∀ s ∈ texts trees, isPlainText s.toList = true → Text.oneLine s.toList = true) ∧
          ∀ a ∈ allAttributes trees, KeepsLine a) := by
  obtain ⟨trees, read, _, usual⟩ := Render.read_usual d theme
  have same : denoted shownText trees = denoted id trees ↔
      ∀ s ∈ texts trees, isPlainText s.toList = true → ∀ c ∈ s.toList, cutsText c = false := by
    simp only [denoted_eq_iff, id_eq, shownText_eq_iff]
  have back := read?_lines Render.isName_of_mem_tags Render.isName_of_mem_attributeNames usual depth
  have whole := oneLine_lines Render.isName_of_mem_tags Render.isName_of_mem_attributeNames usual
    depth
  exact ⟨trees, read, back, same, whole⟩

/-- **A carriage return within a text.** The text stands as it is, so it breaks its line and is read
back with a blank in place of the carriage return. -/
theorem cut_at_return :
    let source :=
      Source.text "page: \x7bcomponents: [Text: \x7bvalue: \"a\\rb\", variant: p\x7d]\x7d"
    ∃ d, Document.ofSource source = .ok d ∧ ∀ (theme : Theme.Resolved) (depth : Nat),
      ∃ trees, Markup.read (Render.fragment d theme).markup = .ok trees ∧
        read? (Text.file (linesOfAll depth trees)) ≠ some (denoted id trees) ∧
        ¬ ∀ l ∈ linesOfAll depth trees, Text.oneLine l.toList = true := by
  intro source
  have given : (Document.ofSource source).toOption.bind Render.soleText? =
      some ⟨none, .p, "a\rb"⟩ := by
    decide +kernel
  obtain ⟨d, parsed, attributes, outline⟩ := Render.outline_soleText given
  refine ⟨d, parsed, fun theme depth => ?_⟩
  obtain ⟨trees, read, rfl, usual⟩ := Render.read_usual d theme
  have filled : Markup.run "a\rb" = [.text "a\rb"] := rfl
  have member : "a\rb" ∈ texts (Markup.dropBlanks [Render.Outline.page d.page]) := by
    simp [outline, Render.Outline.textBlock, filled, texts]
  refine ⟨_, read, ?_, ?_⟩
  · rw [read?_lines Render.isName_of_mem_tags Render.isName_of_mem_attributeNames usual depth]
    intro same
    have look := (denoted_eq_iff _ _ _).mp (Option.some.inj same) "a\rb" member
    have cut := (shownText_eq_iff "a\rb").mp look (by decide) '\r' (by decide)
    cases cut
  · rw [oneLine_lines Render.isName_of_mem_tags Render.isName_of_mem_attributeNames usual depth]
    rintro ⟨whole, _⟩
    have broken := whole "a\rb" member (by decide)
    cases broken

end Wireframe.Export.Jsx
