import Stencil.Jsx.Attribute

/-!
# Markup

Elements of the generated source, the expressions they stand in and the children they hold. A child
is an element, text, or an expression between braces; an expression may be an element again, a
fragment of several children, or what a directive becomes.
-/

namespace Stencil.Jsx

open Text

/-- Text between tags: braces and the closing angle bracket are written as expressions. -/
def markupText (t : Text) : Text :=
  t.flatMap fun c =>
    if c = '{' || c = '}' || c = '>' then ['{', '\x22', c, '\x22', '}'] else [c]

mutual

inductive Element where
  | selfClosed (tag : Text) (attributes : List Attribute)
  | paired (tag : Text) (attributes : List Attribute) (children : List Child)

inductive Child where
  | element (e : Element)
  | text (value : Text)
  | expression (x : Expr)

inductive Expr where
  | null
  | string (value : Text)
  | source (code : Text)
  | call (function argument : Text)
  | element (e : Element)
  | fragment (children : List Child)
  | choice (test : Text) (yes no : Expr)
  | map (iterable : Text) (params : List Text) (body : Expr)

end

/-- A tag's name and attributes. -/
def tagText (tag : Text) (attributes : List Attribute) : Text :=
  tag ++ attributes.flatMap fun a => ' ' :: a.print

mutual

def Element.print : Element → Text
  | .selfClosed tag attributes => '<' :: tagText tag attributes ++ " />".toList
  | .paired tag attributes children =>
    '<' :: tagText tag attributes ++ '>' :: Child.printAll children ++ "</".toList ++ tag ++ ['>']

def Child.print : Child → Text
  | .element e => e.print
  | .text value => markupText value
  | .expression x => inBraces x.print

def Child.printAll : List Child → Text
  | [] => []
  | c :: cs => c.print ++ Child.printAll cs

def Expr.print : Expr → Text
  | .null => "null".toList
  | .string value => stringLiteral value
  | .source code => code
  | .call function argument => function ++ '(' :: argument ++ [')']
  | .element e => e.print
  | .fragment children => "<>".toList ++ Child.printAll children ++ "</>".toList
  | .choice test yes no => test ++ " ? ".toList ++ yes.print ++ " : ".toList ++ no.print
  | .map iterable params body =>
    iterable ++ "?.map((".toList ++ joinWith ", ".toList params ++ ") => (".toList ++
      body.print ++ "))".toList

end

/-- A child as an expression of its own. -/
def Child.bare : Child → Expr
  | .element e => .element e
  | .text value => .string value
  | .expression x => x

/-- Children as one expression: a single child stands by itself, others in a fragment. -/
def Expr.ofChildren : List Child → Expr
  | [child] => child.bare
  | children => .fragment children

end Stencil.Jsx
