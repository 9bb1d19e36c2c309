import Stencil.Jsx.Attribute

/-!
# Written symbols

In a printed attribute the sources of the template stand as they are, among the characters that were
written around them. What such a source is made of does not matter to the attribute: it is one
operand. So the written form of a value is taken as a list of symbols, characters and sources, and
it is the printed text with the sources marked off (`Value.spell_symbols`, `Style.spell_symbols`).
-/

namespace Stencil.Jsx

open Text

inductive Symbol where
  | char (c : Char)
  /-- A source of the template, as a whole. -/
  | source (code : Text)
deriving DecidableEq

namespace Symbol

def text : Symbol → Text
  | .char c => [c]
  | .source code => code

/-- The text that symbols spell. -/
def spell (ss : List Symbol) : Text := ss.flatMap text

def chars (t : Text) : List Symbol := t.map .char

@[simp] theorem spell_nil : spell [] = [] := rfl

@[simp] theorem spell_char (c : Char) (ss : List Symbol) : spell (.char c :: ss) = c :: spell ss :=
  rfl

@[simp] theorem spell_source (code : Text) (ss : List Symbol) :
    spell (.source code :: ss) = code ++ spell ss := rfl

@[simp] theorem spell_append (ss ts : List Symbol) : spell (ss ++ ts) = spell ss ++ spell ts :=
  List.flatMap_append

@[simp] theorem spell_chars (t : Text) : spell (chars t) = t := by
  induction t with
  | nil => rfl
  | cons c t ih => exact congrArg (c :: ·) ih

/-- Written forms one after another, with `separator` between neighbours. -/
def joined (separator : Text) (forms : List (List Symbol)) : List Symbol :=
  (forms.intersperse (chars separator)).flatten

theorem joined_cons (separator : Text) (f g : List Symbol) (forms : List (List Symbol)) :
    joined separator (f :: g :: forms) = f ++ chars separator ++ joined separator (g :: forms) := by
  simp [joined]

theorem exists_joined (separator : Text) (f : List Symbol) (forms : List (List Symbol)) :
    ∃ more, joined separator (f :: forms) = f ++ more := by
  cases forms with
  | nil => exact ⟨[], by simp [joined]⟩
  | cons g forms => exact ⟨_, by rw [joined_cons, List.append_assoc]⟩

theorem spell_joined (separator : Text) (forms : List (List Symbol)) :
    spell (joined separator forms) = joinWith separator (forms.map spell) := by
  induction forms with
  | nil => rfl
  | cons f forms ih =>
    cases forms with
    | nil => simp [joined, joinWith]
    | cons g forms =>
      rw [joined_cons, spell_append, ih]
      simp [joinWith]

/-- An expression inserted into a template literal. -/
def insertion (ss : List Symbol) : List Symbol := .char '$' :: .char '{' :: ss ++ [.char '}']

/-- A template literal with the given inside. -/
def backquotes (ss : List Symbol) : List Symbol := .char '\x60' :: ss ++ [.char '\x60']

/-- A choice between two written expressions. -/
def choice (test : Text) (yes no : List Symbol) : List Symbol :=
  .source test :: chars " ? ".toList ++ yes ++ chars " : ".toList ++ no

/-- A list whose members a function takes to written texts, which are joined. -/
def mapped (iterable : Text) (params : List Text) (body : List Symbol) : List Symbol :=
  .source iterable :: chars "?.map((".toList ++
    joined ", ".toList (params.map fun p => [.source p]) ++ chars ") => ".toList ++ body ++
    chars ").join(\"\")".toList

/-- A written key with its value. There may be a gap between them. -/
def pair (key gap : Text) (value : List Symbol) : List Symbol :=
  chars key ++ .char ':' :: chars gap ++ value

/-- An object with the given entries. -/
def braces (separator : Text) (entries : List (List Symbol)) : List Symbol :=
  .char '{' :: joined separator entries ++ [.char '}']

/-- A spread of one of two written objects. -/
def spread (test : Text) (yes no : List Symbol) : List Symbol :=
  chars "...(".toList ++ choice test yes no ++ [.char ')']

theorem insertion_append (xs ss : List Symbol) :
    insertion xs ++ ss = .char '$' :: .char '{' :: (xs ++ .char '}' :: ss) := by
  simp [insertion]

theorem backquotes_append (xs ss : List Symbol) :
    backquotes xs ++ ss = .char '\x60' :: (xs ++ .char '\x60' :: ss) := by
  simp [backquotes]

theorem choice_append (test : Text) (yes no ss : List Symbol) :
    choice test yes no ++ ss =
      .source test :: (chars " ? ".toList ++ (yes ++ (chars " : ".toList ++ (no ++ ss)))) := by
  simp only [choice, List.cons_append, List.append_assoc]

theorem mapped_append (iterable : Text) (params : List Text) (body ss : List Symbol) :
    mapped iterable params body ++ ss = .source iterable :: (chars "?.map((".toList ++
      (joined ", ".toList (params.map fun p => [.source p]) ++ .char ')' ::
        (chars " => ".toList ++ (body ++ (chars ").join(\"\")".toList ++ ss))))) := by
  simp only [mapped, List.cons_append, List.append_assoc]
  rfl

@[simp] theorem spell_insertion (ss : List Symbol) :
    spell (insertion ss) = inserted (spell ss) := by
  simp [insertion, inserted]

@[simp] theorem spell_backquotes (ss : List Symbol) :
    spell (backquotes ss) = backquoted (spell ss) := by
  simp [backquotes, backquoted]

@[simp] theorem spell_choice (test : Text) (yes no : List Symbol) :
    spell (choice test yes no) = test ++ " ? ".toList ++ spell yes ++ " : ".toList ++ spell no := by
  simp [choice]

@[simp] theorem spell_mapped (iterable : Text) (params : List Text) (body : List Symbol) :
    spell (mapped iterable params body) = iterable ++ "?.map((".toList ++
      joinWith ", ".toList params ++ ") => ".toList ++ spell body ++ ").join(\"\")".toList := by
  have hparams : (params.map fun p => [Symbol.source p]).map spell = params := by
    simp [Function.comp_def]
  simp [mapped, spell_joined, hparams, -List.map_map]

@[simp] theorem spell_pair (key gap : Text) (value : List Symbol) :
    spell (pair key gap value) = key ++ ':' :: gap ++ spell value := by
  simp [pair]

@[simp] theorem spell_braces (separator : Text) (entries : List (List Symbol)) :
    spell (braces separator entries) = '{' :: joinWith separator (entries.map spell) ++ ['}'] := by
  simp [braces, spell_joined]

@[simp] theorem spell_spread (test : Text) (yes no : List Symbol) :
    spell (spread test yes no) = spreadOf test (spell yes) (spell no) := by
  unfold spread spreadOf
  rw [spell_append, spell_append, spell_chars, spell_choice, spell_char, spell_nil]
  simp only [List.append_assoc]

end Symbol

open Stencil.Jsx.Symbol

/-! ## Template literals -/

namespace Segment

mutual

def symbols : Segment → List Symbol
  | .text value => chars (escapeLiteral value)
  | .hole code => insertion [.source code]
  | .choice test yes no =>
    insertion (Symbol.choice test (backquotes (symbolsAll yes)) (backquotes (symbolsAll no)))
  | .each iterable params body =>
    insertion (mapped iterable params (backquotes (symbolsAll body)))

def symbolsAll : List Segment → List Symbol
  | [] => []
  | s :: ss => symbols s ++ symbolsAll ss

end

theorem symbolsAll_append (ss ts : List Segment) :
    symbolsAll (ss ++ ts) = symbolsAll ss ++ symbolsAll ts := by
  induction ss with
  | nil => rfl
  | cons s ss ih => rw [List.cons_append, symbolsAll, symbolsAll, ih, List.append_assoc]

mutual

theorem spell_symbols : ∀ s : Segment, spell s.symbols = s.print
  | .text _ | .hole _ => by simp [symbols, print]
  | .choice _ yes no => by simp [symbols, print, spell_symbolsAll yes, spell_symbolsAll no]
  | .each _ _ body => by simp [symbols, print, spell_symbolsAll body]

theorem spell_symbolsAll : ∀ ss : List Segment, spell (symbolsAll ss) = printAll ss
  | [] => rfl
  | s :: ss => by rw [symbolsAll, printAll, spell_append, spell_symbols s, spell_symbolsAll ss]

end

end Segment

/-! ## Attributes -/

def Value.symbols : Value → List Symbol
  | .null => chars "null".toList
  | .text value => chars (stringLiteral value)
  | .source code => [.source code]
  | .choice test yes no => Symbol.choice test yes.symbols no.symbols
  | .literal segments => backquotes (Segment.symbolsAll segments)

theorem Value.spell_symbols (v : Value) : spell v.symbols = v.print := by
  induction v with
  | null | text | source => simp [symbols, print]
  | choice _ _ _ ihyes ihno => simp [symbols, print, ihyes, ihno]
  | literal segments => simp [symbols, print, Segment.spell_symbolsAll, Jsx.literal]

/-- The written value of an attribute that has one, after the equals sign. -/
def Attribute.valueSymbols : Attribute → List Symbol
  | .quoted _ value => .char '\x22' :: chars value ++ [.char '\x22']
  | .source _ code => .char '{' :: .source code :: [.char '}']
  | .literal _ segments => .char '{' :: backquotes (Segment.symbolsAll segments) ++ [.char '}']
  | .flag _ | .style _ | .spread .. => []

namespace Attribute

theorem print_quoted (name value : Text) :
    (quoted name value).print = name ++ '=' :: spell (quoted name value).valueSymbols := by
  show name ++ ['=', '\x22'] ++ value ++ ['\x22'] = _
  simp [valueSymbols]

theorem print_source (name code : Text) :
    (source name code).print = name ++ '=' :: spell (source name code).valueSymbols := by
  show name ++ '=' :: inBraces code = _
  simp [valueSymbols, inBraces]

theorem print_literal (name : Text) (segments : List Segment) :
    (literal name segments).print = name ++ '=' :: spell (literal name segments).valueSymbols := by
  show name ++ '=' :: inBraces (Jsx.literal segments) = _
  simp [valueSymbols, inBraces, Jsx.literal, Segment.spell_symbolsAll]

end Attribute

/-! ## Style objects -/

namespace StyleEntry

mutual

def symbols : StyleEntry → List Symbol
  | .plain key value => pair (asciiLiteral key) [' '] (chars (stringLiteral value))
  | .composed key value => pair (asciiLiteral key) [' '] (backquotes (Segment.symbolsAll value))
  | .spread test yes no =>
    Symbol.spread test (braces ", ".toList (symbolsAll yes)) (braces ", ".toList (symbolsAll no))

def symbolsAll : List StyleEntry → List (List Symbol)
  | [] => []
  | e :: es => symbols e :: symbolsAll es

end

theorem spell_spaced (key : Text) (value : List Symbol) :
    spell (pair key [' '] value) = key ++ ": ".toList ++ spell value := by
  rw [spell_pair, List.append_assoc, List.append_assoc]
  rfl

mutual

theorem spell_symbols : ∀ e : StyleEntry, spell e.symbols = e.print
  | .plain _ _ => by rw [symbols, spell_spaced, spell_chars, print]
  | .composed _ _ => by
    rw [symbols, spell_spaced, spell_backquotes, Segment.spell_symbolsAll, print, Jsx.literal]
  | .spread _ yes no => by
    rw [symbols, spell_spread, spell_braces, spell_braces, map_spell_symbolsAll yes,
      map_spell_symbolsAll no, print, object, object]

theorem map_spell_symbolsAll : ∀ es : List StyleEntry, (symbolsAll es).map spell = printAll es
  | [] => rfl
  | e :: es => by rw [symbolsAll, printAll, List.map_cons, spell_symbols e, map_spell_symbolsAll es]

end

end StyleEntry

def Style.symbols : Style → List Symbol
  | .literal declarations => braces [','] (declarations.map fun (key, value) =>
      pair (stringLiteral key) [] (chars (stringLiteral value)))
  | .entries es => braces ", ".toList (StyleEntry.symbolsAll es)

theorem Style.spell_symbols (s : Style) : spell s.symbols = s.print := by
  cases s with
  | literal declarations =>
    have hmembers : (declarations.map fun (key, value) =>
        pair (stringLiteral key) [] (chars (stringLiteral value))).map spell =
        declarations.map fun (key, value) => stringLiteral key ++ ':' :: stringLiteral value := by
      simp
    rw [symbols, spell_braces, hmembers, print]
  | entries es => rw [symbols, spell_braces, StyleEntry.map_spell_symbolsAll, print, object]

end Stencil.Jsx
