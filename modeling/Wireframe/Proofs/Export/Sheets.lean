import Wireframe.Export.Format
import Wireframe.Proofs.Export.Blocks
import Wireframe.Proofs.Export.Page
import Wireframe.Proofs.Render.Captions

/-! # Titles and style sheets of exports

Pages, React modules and Pug templates carry one title and one style sheet
(`Wireframe.Export.sheets_of_document`). A module holds the sheet as it is, and a page keeps
its end tags apart. A template has the lines of the page's sheet, but it ends a line at every
line boundary, so that a sheet with a boundary other than a line feed does not come back
(`Wireframe.Export.sheet_cut_at_separator`).
-/

namespace Wireframe.Export

/-! ## Trees with lines -/

/-- Where void elements hold nothing, all trees have lines. -/
theorem Jsx.filledVoid?_eq_none {ms : List Markup} (voids : Markup.VoidsEmpty ms) :
    Jsx.filledVoid? ms = none := by
  induction ms using Markup.dropBlanks.induct with
  | case1 => rw [Jsx.filledVoid?]
  | case2 s rest ih =>
      rw [Markup.VoidsEmpty] at voids
      rw [Jsx.filledVoid?]
      exact ih voids
  | case3 tag attributes children rest ihChildren ihRest =>
      rw [Markup.VoidsEmpty] at voids
      obtain ⟨void, inside, others⟩ := voids
      have plain : (Markup.isVoid tag && !children.isEmpty) = false := by
        cases empty : Markup.isVoid tag with
        | false => rfl
        | true =>
            rw [void empty]
            rfl
      rw [Jsx.filledVoid?, plain, ihChildren inside, ihRest others]
      rfl

/-! ## Constants of modules -/

/-- The string whose literal stands in a line between two texts. -/
def between? (front behind : String) (line : List Char) : Option String :=
  match line.dropPrefix? front.toList with
  | none => none
  | some rest =>
    match Text.quoted? rest with
    | some (s, closing) => if closing = behind.toList then some s else none
    | none => none

theorem between?_quoted (front behind s : String) :
    between? front behind (front ++ Text.quoted s ++ behind).toList = some s := by
  have read := Text.quoted?_quoted s behind.toList
  have dropped : (front ++ Text.quoted s ++ behind).toList.dropPrefix? front.toList =
      some ((Text.quoted s).toList ++ behind.toList) := by
    rw [String.toList_append, String.toList_append, List.append_assoc]
    exact List.dropPrefix?_append_of_beq _ (by simp)
  rw [between?, dropped]
  simp [read]

theorem oneLine_between {front behind : String} (s : String)
    (before : Text.oneLine front.toList = true) (after : Text.oneLine behind.toList = true) :
    Text.oneLine (front ++ Text.quoted s ++ behind).toList = true := by
  simp [before, after, Text.oneLine_quoted]

theorem findSome?_of_none {α β : Type} {f : α → Option β} {a : α} (nothing : f a = none)
    (rest : List α) : (a :: rest).findSome? f = rest.findSome? f := by
  rw [List.findSome?_cons, nothing]

theorem findSome?_of_some {α β : Type} {f : α → Option β} {a : α} {b : β} (found : f a = some b)
    (rest : List α) : (a :: rest).findSome? f = some b := by
  rw [List.findSome?_cons, found]

/-- The lines of a file. -/
def fileLines (text : String) : List (List Char) := text.toList.splitOnP Text.endsLine

/-- A file whose first lines are whole has them as its first lines. -/
theorem fileLines_append {front : List String}
    (whole : ∀ l ∈ front, Text.oneLine l.toList = true) (some : front ≠ []) (rest : List String) :
    ∃ others, fileLines ("\n".intercalate (front ++ rest) ++ "\n") =
      front.map String.toList ++ others := by
  have filled : front ++ rest ≠ [] := List.append_ne_nil_of_left_ne_nil some rest
  rw [fileLines, Text.toList_intercalate_feed filled, Text.file_append]
  exact ⟨_, Text.splitOnP_file (by decide) (fun l member => Text.oneLine_iff.mp (whole l member)) _⟩

namespace React

/-- The string that a declaration gives its name, where a module has it first. -/
def constant? (declaration text : String) : Option String :=
  (fileLines text).findSome? (between? (declaration ++ " = ") ";")

/-- A module whose constants are a title and a style sheet. -/
structure Carries (text css title : String) : Prop where
  title : constant? "export const TITLE" text = some title
  sheet : constant? "const THEME_CSS" text = some css

/-- The lines of a module up to its style sheets. -/
def constants (css title : String) : List String :=
  ["// Generated by " ++ generator,
    "import React from \"react\";",
    "",
    "export const TITLE = " ++ Text.quoted title ++ ";",
    "",
    "const BASE_CSS = " ++ Text.quoted Render.structuralSheet ++ ";",
    "",
    "const THEME_CSS = " ++ Text.quoted css ++ ";"]

theorem oneLine_constants (css title : String) :
    ∀ l ∈ constants css title, Text.oneLine l.toList = true := by
  rw [constants]
  generalize Render.structuralSheet = base
  simp only [List.forall_mem_cons, List.not_mem_nil, false_imp_iff, implies_true, and_true]
  exact ⟨by decide, by decide, by decide, oneLine_between title (by decide) (by decide),
    by decide, oneLine_between base (by decide) (by decide), by decide,
    oneLine_between css (by decide) (by decide)⟩

/-- Of the lines up to the style sheets, one declares the title and one the sheet. -/
theorem findSome?_constants (css title : String) :
    ((constants css title).map String.toList).findSome? (between? "export const TITLE = " ";") =
        some title ∧
      ((constants css title).map String.toList).findSome? (between? "const THEME_CSS = " ";") =
        some css := by
  have apart (s : String) :
      between? "const THEME_CSS = " ";" ("export const TITLE = " ++ Text.quoted s ++ ";").toList = none ∧
      between? "const THEME_CSS = " ";" ("const BASE_CSS = " ++ Text.quoted s ++ ";").toList = none := by
    simp only [String.toList_append]
    exact ⟨rfl, rfl⟩
  have front : between? "export const TITLE = " ";" ("// Generated by " ++ generator).toList = none ∧
      between? "const THEME_CSS = " ";" ("// Generated by " ++ generator).toList = none := by
    decide
  have imports : between? "export const TITLE = " ";" "import React from \"react\";".toList = none ∧
      between? "const THEME_CSS = " ";" "import React from \"react\";".toList = none := by
    decide
  have empty : between? "export const TITLE = " ";" "".toList = none ∧
      between? "const THEME_CSS = " ";" "".toList = none := by
    decide
  have titled := between?_quoted "export const TITLE = " ";" title
  have styled := between?_quoted "const THEME_CSS = " ";" css
  constructor
  · rw [constants, List.map_cons, List.map_cons, List.map_cons, List.map_cons,
      findSome?_of_none front.1, findSome?_of_none imports.1, findSome?_of_none empty.1,
      findSome?_of_some titled]
  · rw [constants, List.map_cons, List.map_cons, List.map_cons, List.map_cons, List.map_cons,
      List.map_cons, List.map_cons, List.map_cons, findSome?_of_none front.2,
      findSome?_of_none imports.2, findSome?_of_none empty.2, findSome?_of_none (apart title).1,
      findSome?_of_none empty.2, findSome?_of_none (apart _).2, findSome?_of_none empty.2,
      findSome?_of_some styled]

theorem carries_lines (trees : List Markup) (css title name : String) :
    Carries ("\n".intercalate (lines trees css title name) ++ "\n") css title := by
  obtain ⟨rest, split⟩ : ∃ rest, lines trees css title name = constants css title ++ rest :=
    ⟨_, rfl⟩
  obtain ⟨others, cut⟩ :=
    fileLines_append (oneLine_constants css title) (List.cons_ne_nil _ _) rest
  obtain ⟨titled, styled⟩ := findSome?_constants css title
  have found {declaration value : String} (first : ((constants css title).map
      String.toList).findSome? (between? (declaration ++ " = ") ";") = some value) :
      constant? declaration ("\n".intercalate (lines trees css title name) ++ "\n") =
        some value := by
    rw [constant?, split, cut, List.findSome?_append, first]
    rfl
  exact ⟨found titled, found styled⟩

/-- Trees that are read make a module. -/
theorem text_of_read {markup : String} {trees : List Markup}
    (found : Markup.read markup = .ok trees) (css title name : String) :
    text trees css title name = .ok ("\n".intercalate (lines trees css title name) ++ "\n") := by
  rw [text, Jsx.filledVoid?_eq_none (Markup.voidsEmpty_of_read found)]

/-- The module for a page carries the title and the sheet, whatever its component is called. -/
theorem carries_moduleText (p : Document.Page) (css title : String) {name : String}
    (named : isComponentName name = true) :
    ∃ text, moduleText (Render.page p).write css title name = .ok text ∧
      Carries text css title := by
  have read := Render.read_page p
  have made := text_of_read read css title name
  rw [moduleText, read, named]
  exact ⟨_, congrArg (Except.mapError Fault.markup) made, carries_lines _ css title name⟩

theorem carries_build (p : Document.Page) (css title : String) :
    ∃ text, build .react (Render.page p).write css title = .ok text ∧ Carries text css title := by
  have read := Render.read_page p
  rw [build, read]
  exact ⟨_, text_of_read read css title defaultName, carries_lines _ css title defaultName⟩

end React

/-! ## Titles and blocks of templates -/

namespace Pug

/-- The title that a line tells. -/
def titled? (line : List Char) : Option String :=
  between? "title= " "" (line.dropWhile (· == ' '))

/-- The title of a template, which its first line with a title tells. -/
def title? (text : String) : Option String := (fileLines text).findSome? titled?

/-- The texts of the style blocks of a template. -/
def sheets (text : String) : List (List Char) := sheetsIn (fileLines text)

/-- The lines of a template in front of its title. -/
def frontLines : List String :=
  ["//- Generated by " ++ generator,
    "doctype html",
    "html(lang=\"en\")",
    indent 1 ++ "head",
    indent 2 ++ "meta(charset=\"utf-8\")",
    indent 2 ++ "meta(name=\"viewport\" content=\"width=device-width, initial-scale=1\")",
    indent 2 ++ "meta(name=\"generator\" content=" ++ Text.quoted generator ++ ")"]

/-- The line of a template that tells its title. -/
def titleLine (title : String) : String := indent 2 ++ "title= " ++ Text.quoted title

theorem oneLine_titleLine (title : String) : Text.oneLine (titleLine title).toList = true := by
  rw [titleLine, String.toList_append, Text.oneLine_append, Text.oneLine_quoted]
  decide

theorem titled?_titleLine (title : String) : titled? (titleLine title).toList = some title := by
  have behind : (titleLine title).toList.dropWhile (· == ' ') =
      ("title= " ++ Text.quoted title ++ "").toList := by
    rw [String.append_empty, titleLine, String.append_assoc, String.toList_append,
      List.dropWhile_append_of_pos (blank_of_mem_indent 2), String.toList_append]
    rfl
  rw [titled?, behind, between?_quoted]

/-- The lines of a template up to its body. -/
def headLines (css title : String) : List String :=
  frontLines ++ [titleLine title] ++ (styleBlock Render.structuralSheet 2 ++
    (styleBlock css 2 ++ [indent 1 ++ "body.textui-export"]))

theorem oneLine_headLines (css title : String) :
    ∀ l ∈ headLines css title, Text.oneLine l.toList = true := by
  have front : ∀ l ∈ frontLines, Text.oneLine l.toList = true := by decide
  have body : Text.oneLine (indent 1 ++ "body.textui-export").toList = true := by decide
  simp only [headLines, List.forall_mem_append, List.forall_mem_singleton]
  exact ⟨⟨front, oneLine_titleLine title⟩, oneLine_styleBlock _ 2, oneLine_styleBlock css 2, body⟩

theorem fileLines_template (trees : List Markup) (css title : String) :
    ∃ others, fileLines ("\n".intercalate (templateLines trees css title) ++ "\n") =
      (headLines css title).map String.toList ++ others := by
  have split : templateLines trees css title = headLines css title ++ linesOfAll 2 trees := by
    simp only [templateLines, headLines, frontLines, titleLine, List.append_assoc, List.cons_append,
      List.nil_append]
  rw [split]
  exact fileLines_append (oneLine_headLines css title) (by simp [headLines]) _

theorem title?_template (trees : List Markup) (css title : String) :
    title? ("\n".intercalate (templateLines trees css title) ++ "\n") = some title := by
  obtain ⟨others, cut⟩ := fileLines_template trees css title
  have front : (frontLines.map String.toList).findSome? titled? = none := by decide
  rw [title?, cut, headLines, List.map_append, List.map_append, List.append_assoc,
    List.append_assoc, List.findSome?_append, front, Option.none_or, List.map_singleton,
    List.singleton_append, findSome?_of_some (titled?_titleLine title)]

theorem sheets_template (trees : List Markup) (css title : String) :
    (sheets ("\n".intercalate (templateLines trees css title) ++ "\n"))[1]? = some (said css) := by
  obtain ⟨others, cut⟩ := fileLines_template trees css title
  have front : ∀ line ∈ (frontLines ++ [titleLine title]).map String.toList,
      opensBlock line = false := by
    have titled : opensBlock (titleLine title).toList = false := by
      simp only [titleLine, String.toList_append]
      rfl
    rw [List.map_append, List.forall_mem_append, List.map_singleton, List.forall_mem_singleton]
    exact ⟨by decide, titled⟩
  have opening (line : List Char) (first : (((styleBlock css 2).map String.toList ++
      ([indent 1 ++ "body.textui-export"].map String.toList ++ others)).head? = some line)) :
      belongs (2 * 2) line = false := by
    obtain rfl := Option.some.inj first
    decide
  have closing (line : List Char) (first : ([indent 1 ++ "body.textui-export"].map String.toList ++
      others).head? = some line) : belongs (2 * 2) line = false := by
    obtain rfl := Option.some.inj first
    decide
  rw [sheets, cut, headLines, List.map_append, List.append_assoc, sheetsIn_append front,
    List.map_append, List.append_assoc, List.map_append, List.append_assoc,
    sheetsIn_styleBlock opening, sheetsIn_styleBlock closing]
  rfl

theorem sheets_build (p : Document.Page) (css title : String) :
    ∃ text, build .pug (Render.page p).write css title = .ok text ∧ title? text = some title ∧
      (sheets text)[1]? = some (said css) := by
  rw [build, template, Render.read_page]
  exact ⟨_, rfl, title?_template _ css title, sheets_template _ css title⟩

end Pug

/-! ## Style elements of pages -/

namespace Html

open Markup (runs runs_append)
open Render (lineBreak inLines)

/-- The texts that the style elements among some nodes hold, in order. -/
def sheets (found : List Markup) : List String :=
  ((runs "page" [] found).filter fun r => r.tag == "style").map fun r => r.text

theorem sheets_pageNodes (inside : List Markup) (css title : String) :
    (sheets (pageNodes (Markup.textNode title) inside css))[1]? = some (sheetText css) := by
  have titled : (runs "title" [] (Markup.textNode title)).filter (fun r => r.tag == "style") = [] := by
    unfold Markup.textNode
    split_ifs <;> simp [runs]
  simp [sheets, pageNodes, headElements, metaElements, lineBreak, inLines, runs, titled]

theorem sheets_build (p : Document.Page) (css title : String) :
    ∃ text found, build .html (Render.page p).write css title = .ok text ∧
      Markup.nodes text = .ok found ∧ (sheets found)[1]? = some (sheetText css) := by
  have written := Render.wellFormed_page p
  have read := Markup.nodes_of_tokens (voidsEmpty_pageNodes written css title)
    (gives_page written css title).tokens
  rw [merged_pageNodes (by rfl)] at read
  exact ⟨_, _, rfl, read, sheets_pageNodes _ css title⟩

/-- The text of a style element has the filled lines of its sheet. -/
theorem filled_sheetText (css : String) :
    Text.filled ((sheetText css).toList.splitOn '\n') =
      Text.filled ((inlineSheet css).toList.splitOn '\n') := by
  have around : (sheetText css).toList = [] ++ '\n' :: ((inlineSheet css).toList ++ '\n' :: []) := by
    simp [sheetText]
  rw [around, List.splitOn, List.splitOnP_append_cons _ _ (by decide),
    List.splitOnP_append_cons _ _ (by decide), List.splitOnP_nil]
  simp [Text.filled, Text.allBlank, List.splitOn]

end Html

/-! ## One title and one sheet -/

/-- **Titles and style sheets of exports.** For every document, every theme, every style sheet and
every title there is an export in each format. The constants of a module, whatever its component is
called, are the title and the sheet. The title of a template is the title. The second style block of
a template says the lines of the sheet in the second style element of the page, cut at every line
boundary and with blank lines emptied. So the two agree up to blank lines and a line feed at the end
exactly if no line of the page's sheet that is not blank holds a boundary other than a line feed. -/
theorem sheets_of_document (d : Document) (theme : Theme.Resolved) (css title : String) :
    let markup := (Render.fragment d theme).markup
    (∃ text found, build .html markup css title = .ok text ∧ Markup.nodes text = .ok found ∧
        (Html.sheets found)[1]? = some (Html.sheetText css)) ∧
      (∃ text, build .react markup css title = .ok text ∧ React.Carries text css title) ∧
      (∀ name, React.isComponentName name = true → ∃ text,
        React.moduleText markup css title name = .ok text ∧ React.Carries text css title) ∧
      (∃ text, build .pug markup css title = .ok text ∧ Pug.title? text = some title ∧
        (Pug.sheets text)[1]? = some (said css)) ∧
      (Text.filled ((said css).splitOn '\n') =
          Text.filled ((Html.sheetText css).toList.splitOn '\n') ↔
        ∀ line ∈ Text.filled ((Html.sheetText css).toList.splitOn '\n'),
          ∀ c ∈ line, Text.isLineBoundary c = false) := by
  refine ⟨Html.sheets_build d.page css title, React.carries_build d.page css title,
    fun name named => React.carries_moduleText d.page css title named,
    Pug.sheets_build d.page css title, ?_⟩
  rw [Html.filled_sheetText, filled_said_iff]

/-- A style sheet with a line separator, which is no line feed, in a value. -/
def separatedSheet : String := "--a: x\u2028y;"

/-- A line separator in a style sheet ends a line of the style block, though not in the page. -/
theorem sheet_cut_at_separator :
    ∃ d, Document.ofSource (.text "page: \x7b\x7d") = .ok d ∧ ∀ (theme : Theme.Resolved) (title : String),
      ∃ text sheet, build .pug (Render.fragment d theme).markup separatedSheet title = .ok text ∧
        (Pug.sheets text)[1]? = some sheet ∧
        Text.filled (sheet.splitOn '\n') ≠
          Text.filled ((Html.sheetText separatedSheet).toList.splitOn '\n') := by
  have given : (Document.ofSource (.text "page: \x7b\x7d")).toOption.isSome = true := by
    decide +kernel
  obtain ⟨d, parsed⟩ : ∃ d, Document.ofSource (.text "page: \x7b\x7d") = .ok d := by
    cases found : Document.ofSource (.text "page: \x7b\x7d") with
    | ok d => exact ⟨d, rfl⟩
    | error fault =>
        rw [found] at given
        cases given
  refine ⟨d, parsed, fun theme title => ?_⟩
  obtain ⟨text, built, -, sheet⟩ := Pug.sheets_build d.page separatedSheet title
  refine ⟨text, said separatedSheet, built, sheet, ?_⟩
  rw [Html.filled_sheetText, Ne, filled_said_iff]
  intro whole
  cases whole separatedSheet.toList (by decide) '\u2028' (by decide)

end Wireframe.Export
