import Wireframe.Export.Html
import Wireframe.Export.Pug
import Wireframe.Export.React
import Wireframe.Named

/-! # Exports

A fragment with its style sheet and a title, as a file of one of three formats: a
standalone page, a React module or a Pug template.
-/

namespace Wireframe.Export

/-- The format of an export. -/
inductive Format where
  | html | react | pug
deriving DecidableEq, Repr

instance : Named Format where
  all := [.html, .react, .pug]
  name
    | .html => "html"
    | .react => "react"
    | .pug => "pug"

/-- The ending of the files of a format. -/
def Format.extension : Format → String
  | .html => ".html"
  | .react => ".tsx"
  | .pug => ".pug"

/-- The title of an export that is given none. -/
def defaultTitle : String := "TextUI Export"

/-- The text of an export. A page takes the markup as it is; the other formats read it first. -/
def build (format : Format) (markup css title : String) : Except Markup.Fault String :=
  match format with
  | .html => .ok (Html.page markup css title)
  | .react => do React.text (← Markup.read markup) css title React.defaultName
  | .pug => Pug.template markup css title

end Wireframe.Export
