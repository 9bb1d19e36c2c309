import Stencil.Text.Blank

/-!
# Line-break formatting

A run of blanks that holds a line break is formatting of the template and not part of its text.
`collapseLineBreaks` removes such a run where it touches a tag, or a directive on whose other side
there are no words, and leaves one space of it elsewhere. Directives that put out a value stand
among words; all others stand between lines. Runs without a line break are kept.
-/

namespace Stencil

open Text

namespace LineBreak

/-- Whether a directive whose body begins with `c` puts out a value. -/
def isValueSigil (c : Char) : Bool := c = '!' || c = '='

/-- The first character of the body of the last directive, in a text given in reverse. -/
def lastBodyStart? : Text → Option Char
  | c :: '{' :: '{' :: _ => some c
  | _ :: cs => lastBodyStart? cs
  | [] => none

/-- What remains of a formatting run between `before`, given in reverse, and `after`. Braces that
close a directive which was never opened count as the end of one whose body begins at the second
character of the template. -/
def separator (before after : Text) : Text :=
  if before.head? = some '>' || after.head? = some '<' then []
  else
    match before, after with
    | '}' :: '}' :: _, '{' :: '{' :: _ => []
    | '}' :: '}' :: _, _ =>
      if ((lastBodyStart? before).or before.reverse[1]?).any isValueSigil then [' '] else []
    | _, '{' :: '{' :: body => if body.head?.any isValueSigil then [' '] else []
    | _, _ => [' ']

/-- Collapses the formatting runs of a text that follows `before`, given in reverse. -/
def collapse (before : Text) : Text → Text
  | [] => []
  | c :: cs =>
    if isBlank c then
      let run := c :: cs.takeWhile isBlank
      let rest := cs.dropWhile isBlank
      (if '\n' ∈ run then separator before rest else run) ++ collapse (run.reverse ++ before) rest
    else c :: collapse (c :: before) cs
termination_by t => t.length
decreasing_by
  · have := (List.dropWhile_sublist isBlank (l := cs)).length_le
    simp only [List.length_cons]; omega
  · simp

end LineBreak

/-- The template without its line-break formatting. -/
def collapseLineBreaks (template : Text) : Text := LineBreak.collapse [] (trim template)

end Stencil
