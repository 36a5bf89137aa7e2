import Wireframe.Text.Blank
import Wireframe.Text.Digit

/-! # References to variables

A value in a style sheet refers to a variable by `var(` and the variable's name, which
begins with two hyphens. References do not overlap.
-/

namespace Wireframe.Render

/-- A character of a variable's name. -/
def isNameChar (c : Char) : Bool :=
  Text.isAsciiLetter c || Text.isAsciiDigit c || c == '_' || c == '-'

/-- The name that a reference at the front of a text refers to, with the length of the reference. -/
def referenceAtFront? (s : List Char) : Option (String × Nat) :=
  match s with
  | 'v' :: 'a' :: 'r' :: '(' :: rest =>
    let blanks := rest.takeWhile Text.isBlank
    match rest.dropWhile Text.isBlank with
    | '-' :: '-' :: more =>
      let name := more.takeWhile isNameChar
      if name.isEmpty then none
      else some (String.ofList ('-' :: '-' :: name), 6 + blanks.length + name.length)
    | _ => none
  | _ => none

/-- The names that a text refers to, where some characters are still to be passed over. -/
def referencesFrom : (passed : Nat) → List Char → List String
  | _, [] => []
  | passed + 1, _ :: rest => referencesFrom passed rest
  | 0, c :: rest =>
    match referenceAtFront? (c :: rest) with
    | some (name, length) => name :: referencesFrom (length - 1) rest
    | none => referencesFrom 0 rest

/-- The names that a value refers to, in order. -/
def references (value : String) : List String := referencesFrom 0 value.toList

end Wireframe.Render
