import Wireframe.Render.Reference

/-! # Structural styles

The rules that lay a page out, the same for every theme. Whatever a theme could want to
change they read from its variables. Each selector of a rule begins with a class, which
owns the rule: the variables that the rule reads are needed wherever that class is used.
-/

namespace Wireframe.Render

/-- A rule: its selectors, and its declarations as properties with values. -/
structure Rule where
  selectors : List String
  declarations : List (String × String)

/-- The structural rules. -/
def structuralRules : List Rule :=
  [⟨[".textui-page"],
     [("font-family", "var(--typography-fontFamily)"),
      ("font-size", "var(--typography-fontSize-base)"), ("color", "var(--colors-text-dark)"),
      ("background-color", "var(--colors-background)"), ("padding", "var(--spacing-lg)")]⟩,
   ⟨[".textui-page-vertical", ".textui-container-vertical"],
     [("display", "flex"), ("flex-direction", "column"), ("gap", "var(--spacing-md)")]⟩,
   ⟨[".textui-page-horizontal", ".textui-container-horizontal"],
     [("display", "flex"), ("flex-direction", "row"), ("align-items", "center"),
      ("gap", "var(--spacing-md)")]⟩,
   ⟨[".textui-page-flex", ".textui-container-flex"],
     [("display", "flex"), ("flex-wrap", "wrap"), ("gap", "var(--spacing-md)")]⟩,
   ⟨[".textui-page-grid", ".textui-container-grid"],
     [("display", "grid"), ("grid-template-columns", "repeat(auto-fit, minmax(12rem, 1fr))"),
      ("gap", "var(--spacing-md)")]⟩,
   ⟨[".textui-text"], [("margin", "0"), ("line-height", "1.4")]⟩,
   ⟨[".textui-text-h1"],
     [("font-size", "var(--typography-fontSize-4xl)"),
      ("font-weight", "var(--typography-fontWeight-bold)")]⟩,
   ⟨[".textui-text-h2"],
     [("font-size", "var(--typography-fontSize-3xl)"),
      ("font-weight", "var(--typography-fontWeight-semibold)")]⟩,
   ⟨[".textui-text-h3"],
     [("font-size", "var(--typography-fontSize-2xl)"),
      ("font-weight", "var(--typography-fontWeight-semibold)")]⟩,
   ⟨[".textui-text-p"], [("font-size", "var(--typography-fontSize-base)")]⟩,
   ⟨[".textui-text-small"], [("font-size", "var(--typography-fontSize-sm)")]⟩,
   ⟨[".textui-text-caption"],
     [("font-size", "var(--typography-fontSize-xs)"), ("color", "var(--colors-text-muted)")]⟩,
   ⟨[".textui-button"],
     [("display", "inline-flex"), ("align-items", "center"), ("justify-content", "center"),
      ("font-family", "inherit")]⟩,
   ⟨[".textui-button:disabled"], [("opacity", "0.5"), ("cursor", "not-allowed")]⟩,
   ⟨[".textui-input", ".textui-select"],
     [("display", "flex"), ("flex-direction", "column"), ("gap", "var(--spacing-xs)")]⟩,
   ⟨[".textui-input label", ".textui-select label", ".textui-radio legend"],
     [("font-size", "var(--typography-fontSize-sm)"),
      ("font-weight", "var(--typography-fontWeight-medium)")]⟩,
   ⟨[".textui-input .textui-control", ".textui-select .textui-control"],
     [("padding", "var(--spacing-xs) var(--spacing-sm)"),
      ("border", "1px solid var(--colors-border)"), ("border-radius", "var(--borderRadius-md)"),
      ("font-size", "var(--typography-fontSize-base)"), ("font-family", "inherit")]⟩,
   ⟨[".textui-checkbox label", ".textui-radio label"],
     [("display", "flex"), ("align-items", "center"), ("gap", "var(--spacing-xs)")]⟩,
   ⟨[".textui-radio"],
     [("display", "flex"), ("flex-direction", "column"), ("gap", "var(--spacing-xs)"),
      ("border", "none"), ("margin", "0"), ("padding", "0")]⟩,
   ⟨[".textui-divider-horizontal"],
     [("border", "none"), ("border-top", "1px solid var(--colors-border)"),
      ("margin", "var(--spacing-md) 0"), ("width", "100%")]⟩,
   ⟨[".textui-divider-vertical"],
     [("border", "none"), ("border-left", "1px solid var(--colors-border)"),
      ("margin", "0 var(--spacing-md)"), ("align-self", "stretch")]⟩,
   ⟨[".textui-alert"],
     [("display", "flex"), ("flex-direction", "column"), ("gap", "var(--spacing-xs)")]⟩,
   ⟨[".textui-alert p"], [("margin", "0")]⟩,
   ⟨[".textui-form"],
     [("display", "flex"), ("flex-direction", "column"), ("gap", "var(--spacing-md)"),
      ("padding", "var(--spacing-lg)"), ("border", "1px solid var(--colors-border)"),
      ("border-radius", "var(--borderRadius-lg)"), ("box-shadow", "var(--shadows-sm)")]⟩,
   ⟨[".textui-form .textui-form-fields"],
     [("display", "flex"), ("flex-direction", "column"), ("gap", "var(--spacing-md)")]⟩,
   ⟨[".textui-form .textui-form-actions"], [("display", "flex"), ("gap", "var(--spacing-sm)")]⟩]

/-- The text of a rule. -/
def Rule.text (rule : Rule) : String :=
  "\n".intercalate
    ([", ".intercalate rule.selectors ++ " \x7b"] ++
      rule.declarations.map (fun (property, value) => "  " ++ property ++ ": " ++ value ++ ";") ++
      ["\x7d"])

/-- The style sheet of the structural rules. -/
def structuralSheet : String := "\n".intercalate (structuralRules.map Rule.text)

/-- The variables that a rule reads. -/
def Rule.references (rule : Rule) : List String :=
  rule.declarations.flatMap fun (_, value) => Render.references value

/-- A character of the class that a selector begins with. -/
def isClassChar (c : Char) : Bool := Text.isAsciiLetter c || Text.isAsciiDigit c || c == '-'

/-- The class that a selector begins with. -/
def ownerClass (selector : String) : String :=
  String.ofList ((selector.toList.drop 1).takeWhile isClassChar)

/-- Whether a class owns a rule. -/
def Rule.ownedBy (rule : Rule) (name : String) : Bool :=
  rule.selectors.any fun selector => ownerClass selector == name

/-- The variables that the structural rules of a class read. -/
def classReferences (name : String) : List String :=
  (structuralRules.filter (·.ownedBy name)).flatMap Rule.references

end Wireframe.Render
