import Wireframe.Export.Format
import Wireframe.FilePath

/-! # Settings

What can be set for a project: where a preview is served and how fast it follows changes,
which file holds the theme, and where exports go and what they look like. Every setting
has a default.
-/

namespace Wireframe

/-- The settings of a project, with the directory of the project. -/
structure Settings where
  root : FilePath
  host : String
  port : Int
  /-- Seconds between two looks at the files. -/
  pollInterval : Float
  /-- Seconds for which files have to rest before a change is shown. -/
  debounce : Float
  themeFile : String
  exportTitle : String
  exportDirectory : String
  exportFormat : Export.Format

namespace Settings

/-- The settings of a project that sets nothing. -/
def defaults (root : FilePath) : Settings where
  root := root
  host := "127.0.0.1"
  port := 5173
  pollInterval := 0.5
  debounce := 0.3
  themeFile := "textui-theme.yml"
  exportTitle := Export.defaultTitle
  exportDirectory := "."
  exportFormat := .html

/-- The path of the theme. -/
def themePath (s : Settings) : FilePath := s.root.within (FilePath.ofText s.themeFile)

/-- Where the export of a document goes: its last name with the ending of the format, in the
directory of exports. -/
def exportPath (s : Settings) (document : FilePath) (format : Option Export.Format) : FilePath :=
  let format := format.getD s.exportFormat
  (s.root.within (FilePath.ofText s.exportDirectory)).within
    (FilePath.ofText (document.stem ++ format.extension))

end Settings

end Wireframe
