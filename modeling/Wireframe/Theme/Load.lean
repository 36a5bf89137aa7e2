import Wireframe.Theme.Fault
import Wireframe.Theme.Tokens
import Wireframe.Yaml.Load

/-! # Loading themes

A theme source is a mapping whose entry `theme` holds tokens, component styles and some
facts about the theme. Tokens and styles are trees whose leaves are scalars; the styles
are at least three levels deep: kind, variant, property.
-/

namespace Wireframe.Theme

/-- The tokens of a theme, which goes by the label of its source if it gives itself no name. -/
structure TokenSet where
  name : String
  tokens : Tree
  metadata : Tree

/-- A user's theme, with the name it gives itself. Name, tokens and styles may each be absent. -/
structure UserTheme where
  source : String
  name : Option String
  tokens : Option TokenSet
  components : Option Tree

namespace Load

/-- The facts about a theme that are kept, in order. -/
def metadataNames : List String := ["name", "version", "description", "author"]

/-- The category whose name is kept for component styles. -/
def reservedCategory : String := "component"

/-- What a check ends with: a reason to refuse the source, or a name in a path that cannot be
written. -/
inductive Objection where
  | reason (reason : Reason)
  | overlong
deriving DecidableEq, Repr

/-- A path with a name below it. -/
def below (path : String) (name : Value) : Except Objection String :=
  if name.isOverlong then .error .overlong else .ok (path ++ "." ++ name.toText)

/-- Checks that a leaf is a scalar. -/
def checkScalar (path : String) : Value → Except Objection Unit
  | .list _ | .map _ => .error (.reason (.notScalar path))
  | _ => .ok ()

mutual

/-- Checks that the leaves of a tree are scalars. -/
def checkTree (path : String) : Tree → Except Objection Unit
  | [] => .ok ()
  | (name, v) :: rest => do
    checkNode (← below path name) v
    checkTree path rest

/-- Checks that the leaves of a value in a tree are scalars. -/
def checkNode (path : String) : Value → Except Objection Unit
  | .map entries =>
    match Value.field? leafName entries with
    | some leaf => checkScalar (path ++ "." ++ leafName) leaf
    | none => checkTree path entries
  | v => checkScalar path v

end

/-- Checks what stands under a variant. -/
def checkVariant (path : String) : Value → Except Objection Unit
  | .map properties => checkTree path properties
  | _ => .error (.reason (.variantNotMapping path))

/-- Checks the variants of a kind. The kind is written only where there is a variant. -/
def checkVariants (kind : Value) : Tree → Except Objection Unit
  | [] => .ok ()
  | (variant, v) :: rest => do
    checkVariant (← below (← below "theme.components" kind) variant) v
    checkVariants kind rest

/-- Checks the kinds of component styles. -/
def checkKinds : Tree → Except Objection Unit
  | [] => .ok ()
  | (kind, .map variants) :: rest => do
    checkVariants kind variants
    checkKinds rest
  | (kind, _) :: _ =>
    if kind.isOverlong then .error .overlong else .error (.reason (.kindNotMapping kind.toText))

/-- A name that has to be a text. The bytes of a text count as that text. -/
def textName? : Value → Option Value
  | .text s => some (.text s)
  | .halved codes => some (.halved codes)
  | .bytes b =>
    match Text.Utf8.decode b with
    | .ok chars => some (.text (String.ofList chars))
    | .error _ => none
  | _ => none

/-- A mapping with names that are texts. -/
def withTextNames (entries : Tree) : Except Breakdown Tree :=
  entries.foldlM (fun found e =>
    match textName? e.1 with
    | some name => .ok (Value.put name e.2 found)
    | none => .error .nameNotText) []

/-- Component styles with names of kinds and variants that are texts. -/
def stylesWithTextNames (entries : Tree) : Except Breakdown Tree :=
  entries.foldlM (fun found e =>
    match textName? e.1, e.2 with
    | some name, .map variants =>
      return Value.put name (.map (← withTextNames variants)) found
    | _, _ => throw .nameNotText) []

/-- What becomes of a source that does not pass a check. -/
def Objection.failure (source : String) : Objection → Failure
  | .reason why => .refused ⟨source, why⟩
  | .overlong => .broken (.scalar .overlong)

/-- Refuses a source that does not pass a check. -/
def check (source : String) (result : Except Objection Unit) : Except Failure Unit :=
  result.mapError (Objection.failure source)

/-- The value of the text of a source. -/
def value (source content : String) : Except Failure Value :=
  match Yaml.load content with
  | .ok v => .ok v
  | .error (.unprintable found position) => .error (.refused ⟨source, .unprintable found position⟩)
  | .error (.broken problem mark) => .error (.refused ⟨source, .yaml problem mark⟩)
  | .error (.scalar fault) => .error (.broken (.scalar fault))

/-- The mapping under `theme` in the value of a source. -/
def themeEntries (v : Value) : Except Reason Tree :=
  if v.isVoid then .error .empty
  else
    match v with
    | .map entries =>
      match Value.field? "theme" entries with
      | some (.map theme) => .ok theme
      | _ => .error .noTheme
    | _ => .error .noTheme

/-- The facts about a theme. -/
def metadata (theme : Tree) : Tree :=
  metadataNames.filterMap fun name => (Value.field? name theme).map fun v => (.text name, v)

/-- The name that a theme gives itself. -/
def themeName? (theme : Tree) : Option String := (Value.field? "name" theme).map Value.toText

/-- Breaks off if the name that a theme gives itself cannot be written. -/
def checkName (theme : Tree) : Except Failure Unit :=
  if (Value.field? "name" theme).any Value.isOverlong then .error (.broken (.scalar .overlong))
  else .ok ()

/-- The tokens of a theme. -/
def tokens (source : String) (theme : Tree) : Except Failure (Option TokenSet) :=
  match Value.field? "tokens" theme with
  | none | some .null => .ok none
  | some (.map tree) => do
    check source (checkTree "theme.tokens" tree)
    if Value.hasField reservedCategory tree then
      throw (.refused ⟨source, .reservedCategory reservedCategory⟩)
    checkName theme
    let tree ← (withTextNames tree).mapError .broken
    return some ⟨(themeName? theme).getD source, tree, metadata theme⟩
  | some _ => .error (.refused ⟨source, .tokensNotMapping⟩)

/-- The component styles of a theme. -/
def components (source : String) (theme : Tree) : Except Failure (Option Tree) :=
  match Value.field? "components" theme with
  | none | some .null => .ok none
  | some (.map styles) => do
    check source (checkKinds styles)
    return some (← (stylesWithTextNames styles).mapError .broken)
  | some _ => .error (.refused ⟨source, .componentsNotMapping⟩)

end Load

/-- Loads a theme from the text of its source, which goes by a label. -/
def UserTheme.ofText (content source : String) : Except Failure UserTheme := do
  let v ← Load.value source content
  let theme ← (Load.themeEntries v).mapError fun reason => Failure.refused ⟨source, reason⟩
  let tokens ← Load.tokens source theme
  return ⟨source, Load.themeName? theme, tokens, ← Load.components source theme⟩

/-- What a theme is read from: a file that is not there, that cannot be read, or that holds some
bytes. -/
inductive Content where
  | missing
  | unreadable (message : String)
  | bytes (b : List UInt8)
deriving DecidableEq, Repr

/-- Loads a theme from a file, which goes by its path. -/
def UserTheme.ofFile (content : Content) (source : String) : Except Failure UserTheme :=
  match content with
  | .missing => .error (.refused ⟨source, .fileNotFound⟩)
  | .unreadable message => .error (.refused ⟨source, .unreadable message⟩)
  | .bytes b =>
    match Text.Utf8.decode b with
    | .ok chars => ofText (String.ofList chars) source
    | .error _ => .error (.refused ⟨source, .notUtf8⟩)

end Wireframe.Theme
