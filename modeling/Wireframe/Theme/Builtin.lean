import Wireframe.Theme.Tokens

/-! # The built-in theme

The tokens and the component styles that hold where a user's theme says nothing. They
give a value to every variable that the structural styles read.
-/

namespace Wireframe.Theme.Builtin

/-- A mapping of a token tree. -/
def group (entries : List (String × Value)) : Value :=
  .map (entries.map fun e => (.text e.1, e.2))

/-- A mapping whose members are leaves, each with its value. -/
def leaves (entries : List (String × String)) : Value :=
  group (entries.map fun e => (e.1, group [(leafName, .text e.2)]))

/-- A mapping whose members are leaves, and one further member. -/
def leavesAnd (entries : List (String × String)) (more : List (String × Value)) : Value :=
  group ((entries.map fun e => (e.1, group [(leafName, .text e.2)])) ++ more)

/-- The built-in colours. -/
def colors : Value :=
  leavesAnd
    [("primary", "#3B82F6"), ("secondary", "#6B7280"), ("success", "#10B981"),
     ("warning", "#F59E0B"), ("error", "#EF4444"), ("surface", "#1F2937"),
     ("background", "#F9FAFB"), ("border", "#4B5563")]
    [("text",
      leaves
        [("primary", "#F9FAFB"), ("secondary", "#D1D5DB"), ("muted", "#9CA3AF"),
         ("dark", "#111827")])]

/-- The built-in distances. -/
def spacing : Value :=
  leaves
    [("xs", "0.5rem"), ("sm", "0.75rem"), ("md", "1rem"), ("lg", "1.5rem"), ("xl", "2rem")]

/-- The built-in fonts. -/
def typography : Value :=
  leavesAnd [("fontFamily", "system-ui, -apple-system, sans-serif")]
    [("fontSize",
      leaves
        [("xs", "0.75rem"), ("sm", "0.875rem"), ("base", "1rem"), ("lg", "1.125rem"),
         ("xl", "1.25rem"), ("2xl", "1.5rem"), ("3xl", "1.875rem"), ("4xl", "2.25rem")]),
     ("fontWeight",
      leaves [("normal", "400"), ("medium", "500"), ("semibold", "600"), ("bold", "700")])]

/-- The built-in roundings of corners. -/
def borderRadius : Value :=
  leaves [("sm", "0.25rem"), ("md", "0.375rem"), ("lg", "0.5rem"), ("xl", "0.75rem")]

/-- The built-in shadows. -/
def shadows : Value :=
  leaves
    [("sm", "0 1px 2px 0 rgba(0, 0, 0, 0.05)"),
     ("md", "0 4px 6px -1px rgba(0, 0, 0, 0.1), 0 2px 4px -1px rgba(0, 0, 0, 0.06)"),
     ("lg", "0 10px 15px -3px rgba(0, 0, 0, 0.1), 0 4px 6px -2px rgba(0, 0, 0, 0.05)")]

/-- The built-in tokens. -/
def tokens : Tree :=
  [(.text "colors", colors), (.text "spacing", spacing), (.text "typography", typography),
   (.text "borderRadius", borderRadius), (.text "shadows", shadows)]

/-- Style properties with their values. -/
def properties (entries : List (String × String)) : Value :=
  group (entries.map fun e => (e.1, .text e.2))

/-- The style of a button with a background. -/
def button (background : String) : Value :=
  properties
    [("backgroundColor", background), ("color", "var(--colors-text-primary)"),
     ("padding", "var(--spacing-sm) var(--spacing-md)"),
     ("borderRadius", "var(--borderRadius-md)"), ("border", "none"), ("cursor", "pointer"),
     ("fontSize", "var(--typography-fontSize-base)"),
     ("fontWeight", "var(--typography-fontWeight-medium)"),
     ("transition", "all 0.2s ease-in-out")]

/-- The style of an alert with a tint and an accent. -/
def alert (tint accent : String) : Value :=
  properties
    [("backgroundColor", tint), ("borderColor", accent), ("color", accent),
     ("borderWidth", "1px"), ("borderStyle", "solid"),
     ("borderRadius", "var(--borderRadius-lg)"), ("padding", "var(--spacing-md)"),
     ("fontSize", "var(--typography-fontSize-base)")]

/-- The built-in styles of components, by kind and variant. -/
def styles : Tree :=
  [(.text "button",
    group
      [("primary", button "var(--colors-primary)"),
       ("secondary", button "var(--colors-secondary)"),
       ("submit", button "var(--colors-success)")]),
   (.text "alert",
    group
      [("info", alert "rgba(59, 130, 246, 0.1)" "var(--colors-primary)"),
       ("success", alert "rgba(34, 197, 94, 0.1)" "var(--colors-success)"),
       ("warning", alert "rgba(245, 158, 11, 0.1)" "var(--colors-warning)"),
       ("error", alert "rgba(239, 68, 68, 0.1)" "var(--colors-error)")])]

end Wireframe.Theme.Builtin
