import Wireframe.Text.Digit

/-! # Console markup

Text for a console in which names in square brackets, the tags, set a style. Where no
style can be shown, the tags are left out. A backslash before a tag takes its meaning
away; to be shown as it is, a text is written with such backslashes.
-/

namespace Wireframe.Command.Console

/-- The characters with which the name of a tag begins. -/
def beginsTag (c : Char) : Bool :=
  ('a' ≤ c && c ≤ 'z') || c == '#' || c == '/' || c == '@'

/-- The tag at the front of a text, brackets included, and what follows it. -/
def tag? : List Char → Option (List Char × List Char)
  | '[' :: c :: rest =>
    let name := rest.takeWhile fun d => d != '[' && d != ']'
    match beginsTag c, rest.drop name.length with
    | true, ']' :: after => some ('[' :: c :: name ++ [']'], after)
    | _, _ => none
  | _ => none

/-- Doubles the backslashes before a tag and puts one more there. Every step takes a character at
least, so `fuel` steps are enough for that many characters. -/
def escapeTags : (fuel : Nat) → List Char → List Char
  | 0, chars => chars
  | _ + 1, [] => []
  | fuel + 1, c :: more =>
    let slashes := (c :: more).takeWhile (· == '\\')
    let rest := (c :: more).drop slashes.length
    match tag? rest with
    | some (tag, rest) => slashes ++ slashes ++ '\\' :: (tag ++ escapeTags fuel rest)
    | none =>
      if slashes.isEmpty then c :: escapeTags fuel more else slashes ++ escapeTags fuel rest

/-- A text written so that it is shown as it is. A single backslash at its end is doubled. -/
def escape (chars : List Char) : List Char :=
  let escaped := escapeTags (chars.length + 1) chars
  match escaped.reverse with
  | '\\' :: '\\' :: _ => escaped
  | '\\' :: _ => escaped ++ ['\\']
  | _ => escaped

/-- A text without its tags. Backslashes before a tag stand for half as many, and an odd one keeps
the tag; before any other bracket the last one is left out. -/
def withoutTags : (fuel : Nat) → List Char → List Char
  | 0, chars => chars
  | _ + 1, [] => []
  | fuel + 1, c :: more =>
    let slashes := (c :: more).takeWhile (· == '\\')
    let rest := (c :: more).drop slashes.length
    match tag? rest with
    | some (tag, rest) =>
      List.replicate (slashes.length / 2) '\\' ++
        (if slashes.length % 2 == 1 then tag else []) ++ withoutTags fuel rest
    | none =>
      if slashes.isEmpty then c :: withoutTags fuel more
      else if rest.head? == some '[' then slashes.dropLast ++ withoutTags fuel rest
      else slashes ++ withoutTags fuel rest

/-- The control characters that a console does not take: the bell, the backspace, the vertical tab,
the form feed and the carriage return. -/
def isDropped (c : Char) : Bool :=
  let n := c.toNat
  n == 7 || n == 8 || n == 11 || n == 12 || n == 13

/-- Fills every tab up with blanks to a multiple of eight columns; a line break begins with column
zero again, and every other character takes one column. -/
def expandTabs : (column : Nat) → List Char → List Char
  | _, [] => []
  | column, c :: rest =>
    if c == '\t' then
      let blanks := 8 - column % 8
      List.replicate blanks ' ' ++ expandTabs (column + blanks) rest
    else if c == '\n' then c :: expandTabs 0 rest
    else c :: expandTabs (column + 1) rest

/-- What a console shows of a text with tags where it shows no styles. -/
def shown (chars : List Char) : List Char :=
  expandTabs 0 ((withoutTags (chars.length + 1) chars).filter fun c => !isDropped c)

/-- A line in a style, made of pieces that are shown as they are and pieces in which tags count. -/
def line (style : String) (pieces : List (Bool × String)) : String :=
  let written := pieces.flatMap fun (verbatim, s) => if verbatim then escape s.toList else s.toList
  String.ofList (shown ('[' :: style.toList ++ ']' :: written ++ '[' :: '/' :: style.toList ++ [']']))

end Wireframe.Command.Console
