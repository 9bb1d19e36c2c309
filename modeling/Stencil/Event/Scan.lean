import Stencil.Event.Directive
import Stencil.Node.Printer

/-!
# Scanning

The scanner is in one of three regions: content, the attribute area of a tag, or a quoted attribute
value. In each of them two opening braces begin a directive, whatever else could begin there. A step
looks at the text that is left, gives the events that begin there and says how many characters it
takes, at least one. `scan` takes steps up to the end of the text or the first fault, and keeps the
events before a fault.

An attribute with an empty value has one empty text, so that it is not a flag. The closing tag of a
void element is dropped, because such an element is closed with its opening tag.
-/

namespace Stencil

open Text

/-- Where in the template the scanner is. -/
inductive Region where
  | content
  /-- In the attribute area of the tag that begins at `tagAt`. -/
  | attributes (tag : Text) (tagAt : Nat)
  /-- In the value of the attribute that begins at `nameAt`. -/
  | value (tag : Text) (tagAt : Nat) (nameAt : Nat)
deriving DecidableEq

namespace Scan

/-- What is found at the front of a text. -/
inductive Step where
  /-- Takes the first character and `more` after it. -/
  | advance (events : List Event) (region : Region) (more : Nat)
  | fail (events : List Event) (error : LexError)
deriving DecidableEq

/-- Characters of a tag's name. -/
def isTagChar (c : Char) : Bool :=
  !(isBlank c || c ∈ ['/', '>', '{', '<', '\x22', '\x27', '='])

/-- Characters of an attribute's name. -/
def isAttributeChar (c : Char) : Bool := isWord c || c = ':' || c = '-'

def opensDirective : Text → Bool
  | '{' :: '{' :: _ => true
  | _ => false

/-- The text up to `stop` or a directive. -/
def literalRun (stop : Char) : Text → Text
  | [] => []
  | c :: cs =>
    if c = stop || opensDirective (c :: cs) then [] else c :: literalRun stop cs

/-- A directive that begins at `pos`, given what follows its opening braces. -/
def directive (region : Region) (pos : Nat) (rest : Text) : Step :=
  match cut? ['}', '}'] rest with
  | none => .fail [] ⟨.unterminatedDirective, pos⟩
  | some (body, _) =>
    match Directive.token body with
    | .error fault => .fail [] ⟨fault, pos⟩
    | .ok token => .advance [⟨pos, token⟩] region (body.length + 3)

/-- A run of text that begins at `pos` with `c`. -/
def literal (region : Region) (stop : Char) (pos : Nat) (c : Char) (cs : Text) : Step :=
  let run := literalRun stop cs
  .advance [⟨pos, .text (c :: run)⟩] region run.length

/-- A closing tag that begins at `pos`, given what follows `</`. -/
def closingTag (pos : Nat) (rest : Text) : Step :=
  match cut? ['>'] rest with
  | none => .fail [] ⟨.unterminatedClosingTag, pos⟩
  | some (inside, _) =>
    let name := trim inside
    if name.isEmpty then .fail [] ⟨.namelessClosingTag, pos⟩
    else if (cut? ['{', '{'] name).isSome then .fail [] ⟨.dynamicTagName, pos⟩
    else
      .advance (if isVoid name then [] else [⟨pos, .closeTag name⟩]) .content (inside.length + 2)

/-- A comment that begins at `pos`, given what follows `<!--`. -/
def comment (pos : Nat) (rest : Text) : Step :=
  match cut? ['-', '-', '>'] rest with
  | none => .fail [] ⟨.unterminatedComment, pos⟩
  | some (value, _) => .advance [⟨pos, .comment value⟩] .content (value.length + 6)

/-- An opening tag that begins at `pos`, given what follows `<`. -/
def openingTag (pos : Nat) (rest : Text) : Step :=
  let name := rest.takeWhile isTagChar
  if opensDirective rest then .fail [] ⟨.dynamicTagName, pos⟩
  else if name.isEmpty then .fail [] ⟨.missingTagName, pos⟩
  else if opensDirective (rest.dropWhile isTagChar) then .fail [] ⟨.dynamicTagName, pos⟩
  else .advance [⟨pos, .openTag name⟩] (.attributes name pos) name.length

/-- An attribute whose name begins at `pos` with `c`. -/
def namedAttribute (tag : Text) (tagAt pos : Nat) (c : Char) (cs : Text) : Step :=
  let name := c :: cs.takeWhile isAttributeChar
  let rest := cs.dropWhile isAttributeChar
  let opened : Event := ⟨pos, .openAttribute name⟩
  match trimStart rest with
  | '=' :: afterEquals =>
    let blanks := (rest.takeWhile isBlank).length + (afterEquals.takeWhile isBlank).length
    let quoteAt := pos + name.length + blanks + 1
    match trimStart afterEquals with
    | '\x22' :: inside =>
      let empty := if inside.head? = some '\x22' then [⟨quoteAt + 1, .text []⟩] else []
      .advance (opened :: empty) (.value tag tagAt pos) (name.length + blanks + 1)
    | _ => .fail [opened] ⟨.unquotedValue name, quoteAt⟩
  | _ =>
    .advance [opened, ⟨pos + name.length, .closeAttribute⟩] (.attributes tag tagAt)
      (name.length - 1)

/-- A step in content. -/
def contentStep (pos : Nat) : Char → Text → Step
  | '{', '{' :: rest => directive .content pos rest
  | '<', '/' :: rest => closingTag pos rest
  | '<', '!' :: '-' :: '-' :: rest => comment pos rest
  | '<', rest => openingTag pos rest
  | c, cs => literal .content '<' pos c cs

/-- A step in the attribute area of `tag`. -/
def attributesStep (tag : Text) (tagAt pos : Nat) : Char → Text → Step
  | '{', '{' :: rest => directive (.attributes tag tagAt) pos rest
  | '>', _ =>
    let closed := if isVoid tag then [⟨pos, .closeTag tag⟩] else []
    .advance (⟨pos, .stopAttributes⟩ :: closed) .content 0
  | '/', '>' :: _ => .advance [⟨pos, .stopAttributes⟩, ⟨pos, .closeTag tag⟩] .content 1
  | c, cs =>
    if isBlank c then .advance [] (.attributes tag tagAt) (cs.takeWhile isBlank).length
    else if isAttributeChar c then namedAttribute tag tagAt pos c cs
    else .fail [] ⟨.unexpectedCharacter c tag, pos⟩

/-- A step in the value of an attribute of `tag`. -/
def valueStep (tag : Text) (tagAt nameAt pos : Nat) : Char → Text → Step
  | '{', '{' :: rest => directive (.value tag tagAt nameAt) pos rest
  | '\x22', _ => .advance [⟨pos, .closeAttribute⟩] (.attributes tag tagAt) 0
  | c, cs => literal (.value tag tagAt nameAt) '\x22' pos c cs

def step (pos : Nat) (c : Char) (cs : Text) : Region → Step
  | .content => contentStep pos c cs
  | .attributes tag tagAt => attributesStep tag tagAt pos c cs
  | .value tag tagAt nameAt => valueStep tag tagAt nameAt pos c cs

/-- What is wrong with a template that ends in the region. -/
def unfinished? : Region → Option LexError
  | .content => none
  | .attributes tag tagAt => some ⟨.unterminatedTag tag, tagAt⟩
  | .value _ _ nameAt => some ⟨.unterminatedValue, nameAt⟩

end Scan

/-- The events of a template, up to the first fault if there is one. -/
structure Scan where
  events : List Event
  error : Option LexError
deriving DecidableEq

/-- Scans the text that is left at `pos`. -/
def scanFrom (region : Region) (pos : Nat) : Text → Scan
  | [] => ⟨[], Scan.unfinished? region⟩
  | c :: cs =>
    match Scan.step pos c cs region with
    | .fail events error => ⟨events, some error⟩
    | .advance events region more =>
      let rest := scanFrom region (pos + more + 1) (cs.drop more)
      ⟨events ++ rest.events, rest.error⟩
termination_by t => t.length
decreasing_by simp only [List.length_drop, List.length_cons]; omega

def scan (template : Text) : Scan := scanFrom .content 0 template

end Stencil
