import Stencil.Text.StringLiteral

/-!
# JSON

The fragment of JSON that a tree is shown in: texts, arrays, and objects whose members keep their
order. `Json.pretty` writes a value over several lines, two spaces deeper on each level.
-/

namespace Stencil

open Text

inductive Json where
  | null
  | string (value : Text)
  | array (items : List Json)
  | object (members : List (Text × Json))

namespace Json

/-- A line break and the indentation of the line after it. -/
def newLine (depth : Nat) : Text := '\n' :: spaces (2 * depth)

mutual

/-- The value on lines indented by `depth` levels. -/
def pretty (depth : Nat) : Json → Text
  | .null => "null".toList
  | .string value => stringLiteral value
  | .array [] => ['[', ']']
  | .array (item :: items) =>
    '[' :: newLine (depth + 1) ++ pretty (depth + 1) item ++ prettyItems (depth + 1) items ++
      newLine depth ++ [']']
  | .object [] => ['{', '}']
  | .object ((key, value) :: members) =>
    '{' :: newLine (depth + 1) ++ stringLiteral key ++ [':', ' '] ++ pretty (depth + 1) value ++
      prettyMembers (depth + 1) members ++ newLine depth ++ ['}']

/-- The items after the first. -/
def prettyItems (depth : Nat) : List Json → Text
  | [] => []
  | item :: items => ',' :: newLine depth ++ pretty depth item ++ prettyItems depth items

/-- The members after the first. -/
def prettyMembers (depth : Nat) : List (Text × Json) → Text
  | [] => []
  | (key, value) :: members =>
    ',' :: newLine depth ++ stringLiteral key ++ [':', ' '] ++ pretty depth value ++
      prettyMembers depth members

end

end Json

end Stencil
