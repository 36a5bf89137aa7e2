import Wireframe.Proofs.Export.Jsx
import Wireframe.Proofs.Export.PugBreaks
import Wireframe.Proofs.Render.Captions

/-! # The texts that exports show

Pages, React modules and Pug templates show the captions of a document that are not blank,
in order (`Wireframe.Export.texts_of_document`). Only a page holds the blank ones as well: the
others leave them out together with the layout (`Wireframe.Export.left_out_as_blank`).
-/

namespace Wireframe.Export

open Markup (Run runs content texts allAttributes)
open Render (Caption captions filledRuns)

namespace Jsx

/-- The texts in nodes, in order. -/
def textsIn : List Node → List String
  | [] => []
  | .text s :: rest => s :: textsIn rest
  | .element _ _ children :: rest => textsIn children ++ textsIn rest

theorem textsIn_denoted (look : String → String) (ms : List Markup) :
    textsIn (denoted look ms) = (texts ms).map look := by
  induction ms using denoted.induct with
  | case1 => simp [denoted, textsIn, texts]
  | case2 s rest ih => simp [denoted, textsIn, texts, ih]
  | case3 tag attributes children rest ihChildren ihRest =>
      simp [denoted, textsIn, texts, ihChildren, ihRest]

end Jsx

namespace Pug

/-- The texts in nodes, in order. -/
def textsIn : List Node → List String
  | [] => []
  | .text s :: rest => s :: textsIn rest
  | .element _ _ _ children :: rest => textsIn children ++ textsIn rest

theorem textsIn_denoted (ms : List Markup) : textsIn (denoted ms) = texts ms := by
  induction ms using denoted.induct with
  | case1 => simp [denoted, textsIn, texts]
  | case2 s rest ih => simp [denoted, textsIn, texts, ih]
  | case3 tag attributes children rest ihChildren ihRest =>
      simp [denoted, element, textsIn, texts, ihChildren, ihRest]

end Pug

/-- **The texts of exports.** The nodes of the markup of every document hold its captions that are
not empty, each in its element and all in order, and besides only line breaks between elements. The
trees that React modules and Pug templates are written for hold the captions that are not blank in
the same way. The module shows these texts as they look in JSX, and the template as they are if its
lines are read at all. -/
theorem texts_of_document (d : Document) (theme : Theme.Resolved) (depth : Nat) :
    let markup := (Render.fragment d theme).markup
    ∃ found trees, Markup.nodes markup = .ok found ∧ Markup.read markup = .ok trees ∧
      content (runs "fragment" [] found) = filledRuns (captions d) ∧
      runs "fragment" [] trees = ((captions d).map Caption.run).filter (fun r => !r.isBlank) ∧
      (∃ shown, Jsx.read? (Text.file (Jsx.linesOfAll depth trees)) = some shown ∧
        Jsx.textsIn shown = (runs "fragment" [] trees).map fun r => Jsx.shownText r.text) ∧
      ((∀ a ∈ allAttributes trees, Pug.KeepsLine a) →
        ∃ shown, Pug.read? (Text.file (Pug.linesOfAll depth trees)) = some shown ∧
          Pug.textsIn shown = (runs "fragment" [] trees).map Run.text) := by
  intro markup
  obtain ⟨found, trees, live, readBack, carried, kept⟩ := Render.runs_of_document d theme
  obtain ⟨same, readAgain, _, usual⟩ := Render.read_usual d theme
  have equal : trees = same := Except.ok.inj (readBack.symm.trans readAgain)
  subst equal
  have inOrder : texts trees = (runs "fragment" [] trees).map Run.text :=
    Markup.texts_eq_runs "fragment" [] trees
  refine ⟨found, trees, live, readBack, carried, kept, ?_, ?_⟩
  · have back := Jsx.read?_lines Render.isName_of_mem_tags Render.isName_of_mem_attributeNames
      usual depth
    refine ⟨_, back, ?_⟩
    rw [Jsx.textsIn_denoted, inOrder, List.map_map]
    rfl
  · intro whole
    have back := Pug.read?_lines_iff Render.isName_of_mem_tags Render.isName_of_mem_attributeNames
      usual depth
    exact ⟨_, back.mpr whole, (Pug.textsIn_denoted trees).trans inOrder⟩

/-- **A no-break space as a text.** The nodes of the markup hold it, but it is blank, so the trees
that are read hold no text at all. -/
theorem left_out_as_blank :
    let source :=
      Source.text "page: \x7bcomponents: [Text: \x7bvalue: \"\\u00a0\", variant: p\x7d]\x7d"
    ∃ d c, Document.ofSource source = .ok d ∧ captions d = [c] ∧ c.text = "\u00a0" ∧
      ∀ theme : Theme.Resolved, ∃ found trees,
        Markup.nodes (Render.fragment d theme).markup = .ok found ∧
        Markup.read (Render.fragment d theme).markup = .ok trees ∧
        c.run ∈ runs "fragment" [] found ∧ runs "fragment" [] trees = [] := by
  intro source
  have given : (Document.ofSource source).toOption.bind Render.soleText? =
      some ⟨none, .p, "\u00a0"⟩ := by
    decide +kernel
  obtain ⟨d, parsed, items⟩ := Render.items_soleText given
  have sole : captions d = [Render.Captions.textBlock ⟨none, .p, "\u00a0"⟩] := by
    rw [captions, items]
    rfl
  refine ⟨d, _, parsed, sole, rfl, fun theme => ?_⟩
  obtain ⟨found, trees, live, readBack, carried, kept⟩ := Render.runs_of_document d theme
  rw [sole] at carried kept
  refine ⟨found, trees, live, readBack, ?_, kept⟩
  have member : Caption.run (Render.Captions.textBlock ⟨none, .p, "\u00a0"⟩) ∈
      content (runs "fragment" [] found) := by
    rw [carried]
    exact List.mem_singleton.mpr rfl
  exact (List.mem_filter.mp member).1

end Wireframe.Export
