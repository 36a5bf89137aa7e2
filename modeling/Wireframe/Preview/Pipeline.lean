import Wireframe.Cache
import Wireframe.Document.Payload
import Wireframe.Preview.Outcome

/-! # Pipelines

From sources to outcomes under a theme that can change. A pipeline keeps the fragments it
rendered last under the content of the document and of the theme, so that the same
document under the same theme is not rendered twice in a row.

A theme is taken over before its digest and its style sheet are made. A theme that has no
encoding has no digest: taking it over stops halfway, and leaves it beside the digest and the
style sheet of the theme before it.
-/

namespace Wireframe.Preview

/-- A pipeline: the layers below a user's theme, the theme in force with its digest and its style
sheet, and the fragments rendered last. -/
structure Pipeline where
  base : Theme.Base
  theme : Theme.Resolved
  themeDigest : String
  styleSheet : String
  cache : Cache (String × String) Render.Fragment

namespace Pipeline

/-- How many fragments are kept. -/
def defaultCacheSize : Int := 32

/-- Puts a theme in force. -/
def setTheme (p : Pipeline) (theme : Theme.Resolved) : Pipeline :=
  { p with theme := theme, themeDigest := theme.fingerprint, styleSheet := theme.styleSheet }

/-- A pipeline without a user's theme. -/
def start (base : Theme.Base) (cacheSize : Int) : Pipeline :=
  let theme := Theme.Resolved.defaults base []
  ⟨base, theme, theme.fingerprint, theme.styleSheet, Cache.empty cacheSize⟩

/-- Takes over a theme that was loaded. If something breaks off, it is told beside the pipeline that
is left: one as before, or one with the theme halfway in force. -/
def takeTheme (p : Pipeline) :
    Except Theme.Breakdown Theme.Resolved → Pipeline × Option Theme.Breakdown
  | .error cause => (p, some cause)
  | .ok theme =>
    if theme.hasHalves then ({ p with theme := theme }, some (.scalar .halved))
    else (p.setTheme theme, none)

/-- Loads a theme from a text and takes it over; without a text the defaults hold. -/
def loadTheme (p : Pipeline) (content : Option String) (source : String) :
    Pipeline × Option Theme.Breakdown :=
  p.takeTheme (Theme.Resolved.ofText p.base content source)

/-- Loads a theme from a file and takes it over; without a file the defaults hold. -/
def loadThemeFile (p : Pipeline) (file : Option (Theme.Content × String)) :
    Pipeline × Option Theme.Breakdown :=
  p.takeTheme (Theme.Resolved.ofFile p.base file)

/-- What was wrong with the theme that was loaded last. -/
def diagnostics (p : Pipeline) : List Theme.Refusal := p.theme.diagnostics

/-- The fragment of a document under the theme in force. -/
def renderCached (p : Pipeline) (d : Document) : Render.Fragment × Pipeline :=
  let (fragment, cache) :=
    p.cache.fetch (d.fingerprint, p.themeDigest) fun _ => Render.fragment d p.theme
  (fragment, { p with cache := cache })

/-- Renders a document under the theme in force. -/
def renderDocument (p : Pipeline) (d : Document) : Rendered × Pipeline :=
  let (fragment, p) := p.renderCached d
  (⟨d, fragment, p.styleSheet⟩, p)

/-- What becomes of a source. There is no outcome only where a scalar is at fault. -/
def run (p : Pipeline) (source : Source) : Except Yaml.ScalarFault (Outcome × Pipeline) :=
  match Document.renderable source with
  | .ok d =>
    let (r, p) := p.renderDocument d
    .ok (.rendered r, p)
  | .error (.malformed m) => .ok (.failed (.malformed m), p)
  | .error (.schema fault) => .ok (.failed (.schema fault), p)
  | .error (.scalar fault) => .error fault

end Pipeline

end Wireframe.Preview
