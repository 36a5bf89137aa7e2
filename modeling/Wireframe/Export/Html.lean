import Wireframe.Export.Sheet
import Wireframe.Markup.Basic
import Wireframe.Render.Fragment
import Wireframe.Version

/-! # Standalone pages

A fragment as a page of its own that needs nothing from outside: the structural styles
and the style sheet of the theme stand in its head, the markup of the fragment in its
body.
-/

namespace Wireframe.Export.Html

/-- The lines of a page. -/
def lines (markup css title : String) : List String :=
  ["<!DOCTYPE html>",
    "<html lang=\"en\">",
    "<head>",
    "<meta charset=\"utf-8\">",
    "<meta name=\"viewport\" content=\"width=device-width, initial-scale=1\">",
    "<meta name=\"generator\" content=\"" ++ generator ++ "\">",
    "<title>" ++ Markup.escape title ++ "</title>",
    "<style>",
    inlineSheet Render.structuralSheet,
    "</style>",
    "<style>",
    inlineSheet css,
    "</style>",
    "</head>",
    "<body class=\"textui-export\">",
    markup,
    "</body>",
    "</html>"]

/-- The page for the markup of a fragment. -/
def page (markup css title : String) : String := "\n".intercalate (lines markup css title)

end Wireframe.Export.Html
