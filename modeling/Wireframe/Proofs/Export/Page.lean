import Wireframe.Export.Html
import Wireframe.Proofs.Markup.Nodes
import Wireframe.Proofs.Markup.RawText
import Wireframe.Proofs.Render.Vocabulary

/-! # The shape of standalone pages

The page for a fragment is read as one fixed tree around the nodes of the fragment
(`Wireframe.Export.Html.page_of_document`). The title and the style sheet may be any texts.
-/

namespace Wireframe.Export

open Markup

/-! ## Style sheets -/

theorem head_keepOpen (s : List Char) : (keepOpen s).head? = s.head? := by
  fun_cases keepOpen s <;> rfl

theorem quiet_cons {c : Char} {s : List Char} (apart : ¬(c = '<' ∧ s.head? = some '/'))
    (quiet : Quiet s) : Quiet (c :: s) := by
  cases s with
  | nil => exact .singleton c
  | cons d s => exact .cons_cons (fun both => apart ⟨both.1, congrArg some both.2⟩) quiet

theorem quiet_concat {s : List Char} {c : Char} (apart : c ≠ '/') (quiet : Quiet s) :
    Quiet (s ++ [c]) := by
  induction s with
  | nil => exact .singleton c
  | cons d s ih =>
      refine quiet_cons ?_ (ih (List.IsChain.tail quiet))
      rintro ⟨rfl, slash⟩
      cases s with
      | nil => exact apart (Option.some.inj slash)
      | cons e s => exact (List.isChain_cons_cons.mp quiet).1 ⟨rfl, Option.some.inj slash⟩

/-- No end tag begins in a style sheet that is kept open. -/
theorem quiet_keepOpen (s : List Char) : Quiet (keepOpen s) := by
  fun_induction keepOpen s with
  | case1 rest ih =>
      apply quiet_cons (by simp)
      apply quiet_cons (by simp)
      exact quiet_cons (by simp) ih
  | case2 c rest apart ih =>
      refine quiet_cons ?_ ih
      rw [head_keepOpen]
      rintro ⟨rfl, slash⟩
      obtain ⟨behind, rfl⟩ := List.head?_eq_some_iff.mp slash
      exact apart behind rfl rfl
  | case3 => exact .nil

namespace Html

open Render (lineBreak inLines textElement)

/-- The text of a style sheet in a page. -/
def sheetText (css : String) : String := "\n" ++ inlineSheet css ++ "\n"

/-- The elements that the head of a page begins with. -/
def metaElements : List Markup :=
  [.element "meta" [("charset", some "utf-8")] [],
    .element "meta"
      [("name", some "viewport"), ("content", some "width=device-width, initial-scale=1")] [],
    .element "meta" [("name", some "generator"), ("content", some generator)] []]

/-- The elements in the head of a page: what its title holds, and what its style elements hold. -/
def headElements (titled base sheet : List Markup) : List Markup :=
  metaElements ++
    [.element "title" [] titled, .element "style" [] base, .element "style" [] sheet]

/-- The nodes of a page: what its title holds, and what stands in its body between two line
breaks. -/
def pageNodes (titled inside : List Markup) (css : String) : List Markup :=
  [lineBreak,
    .element "html" [("lang", some "en")]
      (lineBreak :: inLines
        [.element "head" []
            (lineBreak :: inLines (headElements titled [.text (sheetText Render.structuralSheet)]
              [.text (sheetText css)])),
          .element "body" [("class", some "textui-export")]
            (lineBreak :: (inside ++ [lineBreak]))])]

/-- The trees of a page, without blank texts. -/
def pageTrees (titled inside : List Markup) (css : String) : List Markup :=
  [.element "html" [("lang", some "en")]
    [.element "head" []
        (headElements titled (run (sheetText Render.structuralSheet)) (run (sheetText css))),
      .element "body" [("class", some "textui-export")] inside]]

theorem isVoid_frame :
    isVoid "meta" = true ∧ isVoid "title" = false ∧ isVoid "style" = false ∧
      isVoid "head" = false ∧ isVoid "body" = false ∧ isVoid "html" = false := by
  decide

theorem gives_doctype : Gives "<!DOCTYPE html>".toList [] := by
  intro rest
  apply tokensFrom_lexeme (by simp)
  have letter : Text.isAsciiLetter '!' = false := by decide
  have keyword : lowerName ("<!DOCTYPE".toList) = doctype := by decide
  have size : doctype.length = 9 := by decide
  have closing : through? '>' (" html>".toList ++ rest) = some 6 := by simp [through?]
  have passed : passedOver ("<!DOCTYPE html>".toList ++ rest) = .ok (some 15) := by
    have front : ("<!DOCTYPE html>".toList ++ rest).take 9 = "<!DOCTYPE".toList := rfl
    have behind : ("<!DOCTYPE html>".toList ++ rest).drop 9 = " html>".toList ++ rest := rfl
    unfold passedOver
    split
    · rename_i same
      simp at same
    · rename_i same
      simp at same
    · rw [size, front, keyword]
      simp only [beq_self_eq_true, ↓reduceIte, behind, closing]
      rfl
  have spelled : "<!DOCTYPE html>".toList ++ rest =
      '<' :: '!' :: ("DOCTYPE html>".toList ++ rest) := rfl
  rw [spelled] at passed ⊢
  simp only [lexemeAtFront, letter, Bool.false_eq_true, ↓reduceIte, passed]
  rfl

theorem startTag_html : startTag "html" [("lang", some "en")] = "<html lang=\"en\">" := by decide

theorem startTag_body :
    startTag "body" [("class", some "textui-export")] = "<body class=\"textui-export\">" := by
  decide

theorem startTag_charset : startTag "meta" [("charset", some "utf-8")] = "<meta charset=\"utf-8\">" := by
  decide

theorem startTag_viewport :
    startTag "meta"
        [("name", some "viewport"), ("content", some "width=device-width, initial-scale=1")] =
      "<meta name=\"viewport\" content=\"width=device-width, initial-scale=1\">" := by
  decide

theorem startTag_generator :
    startTag "meta" [("name", some "generator"), ("content", some generator)] =
      "<meta name=\"generator\" content=\"" ++ generator ++ "\">" := by
  decide

/-- What stands in the head of a page in front of its style sheets. -/
def headFront (title : String) : List Markup :=
  lineBreak :: inLines (metaElements ++ [textElement "title" [] title])

/-- The text of a page, piece by piece. -/
theorem page_eq (m : Markup) (css title : String) :
    page m.write css title =
      "<!DOCTYPE html>" ++
      (writeAll [lineBreak] ++ startTag "html" [("lang", some "en")]) ++
      (writeAll [lineBreak] ++ startTag "head" []) ++
      (writeAll (headFront title) ++
        (startTag "style" [] ++ (sheetText Render.structuralSheet ++ endTag "style"))) ++
      (writeAll [lineBreak] ++ (startTag "style" [] ++ (sheetText css ++ endTag "style"))) ++
      (writeAll [lineBreak] ++ endTag "head") ++
      (writeAll [lineBreak] ++ startTag "body" [("class", some "textui-export")]) ++
      (writeAll [lineBreak, m, lineBreak] ++ endTag "body") ++
      (writeAll [lineBreak] ++ endTag "html") := by
  have feed : escape "\n" = "\n" := by decide
  have head : startTag "head" [] = "<head>" := by decide
  have headEnd : endTag "head" = "</head>" := by decide
  have title : startTag "title" [] = "<title>" := by decide
  have titleEnd : endTag "title" = "</title>" := by decide
  have style : startTag "style" [] = "<style>" := by decide
  have styleEnd : endTag "style" = "</style>" := by decide
  have bodyEnd : endTag "body" = "</body>" := by decide
  have htmlEnd : endTag "html" = "</html>" := by decide
  simp only [startTag_html, startTag_body, startTag_charset, startTag_viewport, startTag_generator,
    head, headEnd, title, titleEnd, style, styleEnd, bodyEnd, htmlEnd, headFront, metaElements,
    inLines, List.flatMap_cons, List.flatMap_nil, List.cons_append, List.nil_append, lineBreak,
    textElement, writeAll, write, feed, isVoid_frame, Bool.false_eq_true, ↓reduceIte, sheetText,
    page, lines, String.intercalate_cons_cons, String.intercalate_singleton, String.append_assoc,
    String.append_empty]

theorem wellFormed_lineBreak : AllWellFormed [lineBreak] := ⟨trivial, trivial⟩

theorem wellFormed_headFront (title : String) : AllWellFormed (headFront title) := by
  apply allWellFormed_iff.mpr
  apply Render.wellFormed_inLines
  simp only [metaElements, List.cons_append, List.nil_append, List.forall_mem_cons,
    List.not_mem_nil, false_imp_iff, implies_true, and_true]
  exact ⟨Render.wellFormed_empty (by decide) (by simp; decide),
    Render.wellFormed_empty (by decide) (by simp; decide),
    Render.wellFormed_empty (by decide) (by simp; decide),
    Render.wellFormed_textElement title (by decide) (by simp)⟩

theorem textRun_sheetText (css : String) : textRun (sheetText css) = [.text (sheetText css)] := by
  have filled : sheetText css ≠ "" := by simp [sheetText]
  rw [textRun, if_neg filled]

theorem gives_sheet {ms : List Markup} (written : AllWellFormed ms) (css : String) :
    Gives (writeAll ms ++ (startTag "style" [] ++ (sheetText css ++ endTag "style"))).toList
      (flow "" ms ++ [.startTag "style" [] false, .text (sheetText css), .endTag "style"]) := by
  have quiet : Quiet (sheetText css).toList := by
    have inside := quiet_concat (c := '\n') (by decide) (quiet_keepOpen css.toList)
    simpa [sheetText, inlineSheet] using quiet_cons (c := '\n') (by simp) inside
  have filled : (sheetText css).toList ≠ [] := by simp [sheetText]
  have gives := gives_rawElement "style" [] written (by decide) (by decide) (by simp) filled quiet
  simpa using gives

/-- The tokens of a page are those of one tree. -/
theorem gives_page {m : Markup} (written : m.WellFormed) (css title : String) :
    Gives (page m.write css title).toList (flow "" (pageNodes [.text title] [m] css)) := by
  have feed := wellFormed_lineBreak
  have around : AllWellFormed [lineBreak, m, lineBreak] := ⟨trivial, written, trivial, trivial⟩
  have html := gives_startTag "html" [("lang", some "en")] feed (by decide) (by decide)
    (by simp; decide)
  have head := gives_startTag "head" [] feed (by decide) (by decide) (by simp)
  have body := gives_startTag "body" [("class", some "textui-export")] feed (by decide) (by decide)
    (by simp; decide)
  have headEnd := gives_endTag "head" feed (by decide)
  have bodyEnd := gives_endTag "body" around (by decide)
  have htmlEnd := gives_endTag "html" feed (by decide)
  have base := gives_sheet (wellFormed_headFront title) Render.structuralSheet
  have sheet := gives_sheet feed css
  -- Each piece gives its tokens whatever follows it. The style sheets are the only raw text.
  have all := (((((((gives_doctype.append html).append head).append base).append sheet).append
    headEnd).append body).append bodyEnd).append htmlEnd
  rw [page_eq]
  simp only [String.toList_append] at all ⊢
  refine Eq.subst (motive := Gives _) ?_ all
  have nothing : textRun "" = [] := rfl
  simp [pageNodes, headElements, metaElements, headFront, metaElements, lineBreak, inLines, textElement, flow,
    isVoid_frame, textRun_sheetText, nothing]

theorem voidsEmpty_pageNodes {m : Markup} (written : m.WellFormed) (css title : String) :
    VoidsEmpty (pageNodes [.text title] [m] css) := by
  have body : VoidsEmpty [m, .text "\n"] :=
    AllWellFormed.voidsEmpty ⟨written, trivial, trivial⟩
  simp [pageNodes, headElements, metaElements, lineBreak, inLines, VoidsEmpty, isVoid_frame, body]

theorem merged_pageNodes {m : Markup} (isElement : m.isElement = true) (css title : String) :
    merged (pageNodes [.text title] [m] css) = pageNodes (textNode title) (merged [m]) css := by
  have feed : textNode "\n" = [.text "\n"] := rfl
  have nothing : textNode "" = [] := rfl
  have sheet (css : String) : textNode (sheetText css) = [.text (sheetText css)] := by
    have filled : sheetText css ≠ "" := by simp [sheetText]
    rw [textNode, if_neg filled]
  cases m with
  | text s => cases isElement
  | element tag attributes children =>
      simp [merged, pageNodes, headElements, metaElements, lineBreak, inLines, mergedFrom, feed, nothing, sheet]

theorem dropBlanks_pageNodes (titled inside : List Markup) (css : String) :
    dropBlanks (pageNodes titled inside css) =
      pageTrees (dropBlanks titled) (dropBlanks inside) css := by
  simp [pageNodes, pageTrees, headElements, metaElements, lineBreak, inLines, dropBlanks_append]

theorem dropBlanks_textNode (s : String) : dropBlanks (textNode s) = run s := by
  unfold textNode
  split_ifs with empty
  · have blank : run "" = [] := rfl
    rw [empty, blank, dropBlanks]
  · simp

theorem allTags_pageNodes (titled inside : List Markup) (css : String) :
    allTags (pageNodes titled inside css) =
      "html" :: "head" :: "meta" :: "meta" :: "meta" :: "title" :: (allTags titled ++
        "style" :: "style" :: "body" :: allTags inside) := by
  simp [pageNodes, headElements, metaElements, lineBreak, inLines, allTags, allTags_append]

theorem allAttributes_pageNodes (titled inside : List Markup) (css : String) :
    allAttributes (pageNodes titled inside css) =
      ("lang", some "en") :: ("charset", some "utf-8") :: ("name", some "viewport") ::
        ("content", some "width=device-width, initial-scale=1") :: ("name", some "generator") ::
        ("content", some generator) :: (allAttributes titled ++
          ("class", some "textui-export") :: allAttributes inside) := by
  simp [pageNodes, headElements, metaElements, lineBreak, inLines, allAttributes, allAttributes_append]

/-- The elements of a page are those of its frame and of the fragment. -/
theorem mem_allTags_pageNodes {title css : String} {found : List Markup}
    (usual : Render.Usual (dropBlanks found)) :
    ∀ tag ∈ allTags (pageNodes (textNode title) found css),
      tag ∈ ["html", "head", "meta", "title", "style", "body"] ++ Render.tags := by
  have inside := mem_allTags usual
  rw [allTags_dropBlanks] at inside
  have titled : allTags (textNode title) = [] := by
    unfold textNode
    split_ifs <;> simp [allTags]
  intro tag member
  simp only [allTags_pageNodes, titled, List.nil_append, List.mem_cons] at member
  simp only [List.mem_append, List.mem_cons, List.not_mem_nil, or_false]
  tauto

theorem mem_allAttributes_pageNodes {title css : String} {found : List Markup}
    (usual : Render.Usual (dropBlanks found)) :
    ∀ a ∈ allAttributes (pageNodes (textNode title) found css),
      a.1 ∈ ["lang", "charset", "name", "content", "class"] ++ Render.attributeNames := by
  have inside := mem_allAttributes usual
  rw [allAttributes_dropBlanks] at inside
  have titled : allAttributes (textNode title) = [] := by
    unfold textNode
    split_ifs <;> simp [allAttributes]
  intro a member
  simp only [allAttributes_pageNodes, titled, List.nil_append, List.mem_cons] at member
  rw [List.mem_append]
  rcases member with rfl | rfl | rfl | rfl | rfl | rfl | rfl | member
  iterate 7 left; simp
  right
  exact inside a member

/-- **The shape of a page.** The page around the markup of a document is read as one tree, for every
title and every style sheet: the title holds the title, the style elements hold the two sheets, and
the body holds the nodes of the fragment between two line breaks, or exactly the trees of the
fragment if blank texts are left out. No element of the page is a script or a link, and none has a
`src` or an `href`. -/
theorem page_of_document (d : Document) (theme : Theme.Resolved) (css title : String) :
    let markup := (Render.fragment d theme).markup
    ∃ found trees, nodes markup = .ok found ∧ read markup = .ok trees ∧
      nodes (page markup css title) = .ok (pageNodes (textNode title) found css) ∧
      read (page markup css title) = .ok (pageTrees (run title) trees css) ∧
      (∀ tag ∈ allTags (pageNodes (textNode title) found css), tag ≠ "script" ∧ tag ≠ "link") ∧
      ∀ a ∈ allAttributes (pageNodes (textNode title) found css), a.1 ≠ "src" ∧ a.1 ≠ "href" := by
  intro markup
  obtain ⟨trees, readBack, _, usual⟩ := Render.read_usual d theme
  have written := Render.wellFormed_page d.page
  have isElement : (Render.page d.page).isElement = true := rfl
  have shown : trees = dropBlanks (merged [Render.page d.page]) :=
    Except.ok.inj (readBack.symm.trans (Render.read_fragment_nodes d theme))
  -- The page has the tokens of one tree, so the fragment in it is read as it is alone.
  have built : nodes (page markup css title) =
      .ok (pageNodes (textNode title) (merged [Render.page d.page]) css) := by
    have found := (gives_page written css title).tokens
    rw [← merged_pageNodes isElement]
    exact nodes_of_tokens (voidsEmpty_pageNodes written css title) found
  have trimmed : read (page markup css title) = .ok (pageTrees (run title) trees css) := by
    rw [read_eq_nodes, built, Except.map, dropBlanks_pageNodes, dropBlanks_textNode, shown]
  rw [shown] at usual
  refine ⟨_, trees, Render.nodes_fragment d theme, readBack, built, trimmed, ?_, ?_⟩
  · intro tag member
    have known := mem_allTags_pageNodes usual tag member
    constructor <;> rintro rfl <;> exact absurd known (by decide)
  · intro a member
    have known := mem_allAttributes_pageNodes usual a member
    constructor <;> intro same <;> rw [same] at known <;> exact absurd known (by decide)

end Html

end Wireframe.Export
