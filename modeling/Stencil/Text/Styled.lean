import Stencil.Text.Blank
import Stencil.Text.Emoji
import Stencil.Text.LetterCase
import Stencil.Text.Terminal

/-!
# Styled text

A line for a reader is written with style tags, such as `[cyan]` in front of what is to be coloured
and `[/]` after it. An even number of backslashes in front of a tag shows half as many, an odd
number makes the tag a part of the text. A name between colons stands for an emoji.

Colours are for terminals. What is shown of a styled text elsewhere is its text without the tags.
-/

namespace Stencil.Text

/-! ## Tags -/

/-- What a tag has after its opening bracket. -/
def isTagStart (c : Char) : Bool := c.isLower || c = '#' || c = '/' || c = '@'

def isBracket (c : Char) : Bool := c = '[' || c = ']'

/-- The length of the tag at the front of a text. There are no brackets inside a tag. -/
def tagLength? : Text → Option Nat
  | '[' :: c :: cs =>
    if isTagStart c then
      match cs.dropWhile (!isBracket ·) with
      | ']' :: _ => some ((cs.takeWhile (!isBracket ·)).length + 3)
      | _ => none
    else none
  | _ => none

/-- A styled text consists of characters and of tags, each with the backslashes in front of it. -/
inductive Piece where
  | char (c : Char)
  | tag (backslashes : Nat) (text : Text)

/-- The pieces of a styled text after its first `skip` characters. -/
def piecesAfter (skip : Nat) : Text → List Piece
  | [] => []
  | c :: cs =>
    match skip with
    | skip + 1 => piecesAfter skip cs
    | 0 =>
      let backslashes := ((c :: cs).takeWhile (· = '\\')).length
      let rest := (c :: cs).drop backslashes
      match tagLength? rest with
      | some length =>
        .tag backslashes (rest.take length) :: piecesAfter (backslashes + length - 1) cs
      | none => .char c :: piecesAfter 0 cs

def backslashes (n : Nat) : Text := List.replicate n '\\'

def Piece.escaped : Piece → Text
  | .char c => [c]
  | .tag n text => backslashes (2 * n + 1) ++ text

/-- A text as a part of a styled text: its tags are no tags there. A lone backslash at its end is
doubled, for a tag may come next. -/
def escapeTags (t : Text) : Text :=
  let escaped := (piecesAfter 0 t).flatMap Piece.escaped
  if (escaped.reverse.takeWhile (· = '\\')).length = 1 then escaped ++ ['\\'] else escaped

/-- What stands before, between and after the tags. A tag that is a part of the text stands for
itself. -/
def segments : List Piece → List Text
  | [] => [[]]
  | .char c :: pieces =>
    match segments pieces with
    | [] => [[c]]
    | segment :: more => (c :: segment) :: more
  | .tag n text :: pieces =>
    [] :: backslashes (n / 2) :: (if n % 2 = 1 then [text] else []) ++ segments pieces

/-! ## Segments -/

/-- Drops one backslash in front of every bracket. -/
def bareBrackets : Text → Text
  | '\\' :: '[' :: cs => '[' :: bareBrackets cs
  | c :: cs => c :: bareBrackets cs
  | [] => []

/-- The two ways to show a character that has both: as an emoji and as text. -/
def variants : List (Text × Char) := [("-emoji:".toList, '\ufe0f'), ("-text:".toList, '\ufe0e')]

/-- A name up to the next colon, which may be preceded by a variant. -/
structure EmojiCode where
  name : Text
  variant : Option Char
  /-- The number of characters, with the colon. -/
  length : Nat

/-- The code that begins with a colon before this text. It holds no blank. -/
def emojiCode? : Text → Option EmojiCode
  | [] => none
  | c :: cs =>
    if c = ':' then some ⟨[], none, 1⟩
    else
      match variants.find? fun (mark, _) => mark.isPrefixOf (c :: cs) with
      | some (mark, variant) => some ⟨[], some variant, mark.length⟩
      | none =>
        if isBlank c then none
        else (emojiCode? cs).map fun code => ⟨c :: code.name, code.variant, code.length + 1⟩

/-- Drops `skip` characters, and puts emoji for their names after them. A code whose name is not
known is left as it is. -/
def putEmoji (skip : Nat) : Text → Text
  | [] => []
  | c :: cs =>
    match skip with
    | skip + 1 => putEmoji skip cs
    | 0 =>
      match if c = ':' then emojiCode? cs else none with
      | none => c :: putEmoji 0 cs
      | some code =>
        match emoji? (lower code.name) with
        | some emoji => emoji ++ code.variant.toList ++ putEmoji code.length cs
        | none => c :: cs.take code.length ++ putEmoji code.length cs

/-- What is shown of a styled text. -/
def shown (t : Text) : Text :=
  (segments (piecesAfter 0 t)).flatMap fun segment =>
    withoutCommands (putEmoji 0 (bareBrackets segment))

end Stencil.Text
