import Stencil.Proofs.Jsx.Literal
import Stencil.Proofs.Jsx.Symbol
import Stencil.Proofs.Text.Mark
import Stencil.Proofs.Text.StringLiteral

/-!
# Written values as code

`readCode` reads symbols as code of the generated source: null, a string, a source, a template
literal, a choice, or a list that is mapped and joined. In a template literal a backslash stands
before a backslash, a back quote or a dollar sign, and a dollar sign before a brace begins an
inserted expression. What the code means is another matter, and depends on what is asked: see
`Code.eval` and `Code.run`.

The rules say how each written form is read, with whatever follows it. Text that has been escaped is
read as its characters (`reads_pieces_text`), unless its last character is a dollar sign and a brace
follows.
-/

namespace Stencil.Jsx

open Text (after? after?_append after?_cons_of_ne)
open Stencil.Jsx.Symbol

mutual

inductive Code where
  | null
  | string (value : Text)
  | source (code : Text)
  | template (pieces : List Piece)
  | choice (test : Text) (yes no : Code)
  /-- A call of `map` on a list there may be, and one of `join` on its result. -/
  | joinedMap (list : Text) (params : List Text) (body : Code)

/-- A character or an insertion in a template literal. -/
inductive Piece where
  | char (c : Char)
  | inserted (x : Code)

end

/-! ## Reading -/

/-- Names with commas between them, up to the closing parenthesis. -/
def readNames : List Symbol → Option (List Text × List Symbol)
  | .source p :: .char ')' :: ss => some ([p], ss)
  | .source p :: .char ',' :: .char ' ' :: ss => (readNames ss).map fun (ps, ss) => (p :: ps, ss)
  | _ => none

/-- The parameters of a function, up to the closing parenthesis. -/
def readParams : List Symbol → Option (List Text × List Symbol)
  | .char ')' :: ss => some ([], ss)
  | ss => readNames ss

/-- The characters at the beginning, and what follows them. -/
def leading : List Symbol → Text × List Symbol
  | .char c :: ss => (c :: (leading ss).1, (leading ss).2)
  | ss => ([], ss)

/-- A string literal. -/
def readString (ss : List Symbol) : Option (Text × List Symbol) :=
  match Text.literal? (leading ss).1 with
  | some (value, rest) => some (value, chars rest ++ (leading ss).2)
  | none => none

/-- The character that a backslash in a template literal stands before. -/
def readEscape : List Symbol → Option (Char × List Symbol)
  | .char d :: ss => if d = '\\' || d = '\x60' || d = '$' then some (d, ss) else none
  | _ => none

mutual

/-- An expression: a template literal, a string, null, or a source, which may be the test of a
choice or the list of a map whose results are joined. -/
def readCode : Nat → List Symbol → Option (Code × List Symbol)
  | 0, _ | _, [] => none
  | fuel + 1, .char c :: ss =>
    if c = '\x60' then do
      let (ps, ss) ← readPieces fuel ss
      some (.template ps, ss)
    else if c = '\x22' then do
      let (value, ss) ← readString (.char c :: ss)
      some (.string value, ss)
    else do
      let ss ← after? (chars "null".toList) (.char c :: ss)
      some (.null, ss)
  | fuel + 1, .source code :: ss =>
    match after? (chars " ? ".toList) ss with
    | some ss => do
      let (yes, ss) ← readCode fuel ss
      let ss ← after? (chars " : ".toList) ss
      let (no, ss) ← readCode fuel ss
      some (.choice code yes no, ss)
    | none =>
      match after? (chars "?.map((".toList) ss with
      | some ss => do
        let (params, ss) ← readParams ss
        let ss ← after? (chars " => ".toList) ss
        let (body, ss) ← readCode fuel ss
        let ss ← after? (chars ").join(\"\")".toList) ss
        some (.joinedMap code params body, ss)
      | none => some (.source code, ss)

/-- The pieces of a template literal, up to the closing back quote. -/
def readPieces : Nat → List Symbol → Option (List Piece × List Symbol)
  | 0, _ | _, [] | _, .source _ :: _ => none
  | fuel + 1, .char c :: ss =>
    if c = '\x60' then some ([], ss)
    else if c = '\\' then do
      let (d, ss) ← readEscape ss
      let (ps, ss) ← readPieces fuel ss
      some (.char d :: ps, ss)
    else
      match after? [.char '$', .char '{'] (.char c :: ss) with
      | some ss => do
        let (x, ss) ← readCode fuel ss
        let ss ← after? [.char '}'] ss
        let (ps, ss) ← readPieces fuel ss
        some (.inserted x :: ps, ss)
      | none => do
        let (ps, ss) ← readPieces fuel ss
        some (.char c :: ps, ss)

end

/-- The code that symbols are. -/
def Code.read (ss : List Symbol) : Option Code :=
  match readCode ss.length ss with
  | some (x, []) => some x
  | _ => none

/-- A text up to the double quote that ends it and the symbols. It is taken as it stands. -/
def readQuoted (ss : List Symbol) : Option Text :=
  if (leading ss).2 = [] then
    match Text.cut? ['\x22'] (leading ss).1 with
    | some (value, rest) => if rest = [] then some value else none
    | none => none
  else none

/-- The value of an attribute: a text in double quotes, or an expression in braces. -/
def Code.readAttribute : List Symbol → Option Code
  | .char c :: ss =>
    if c = '\x22' then (readQuoted ss).map .string
    else if c = '{' then
      match readCode ss.length ss with
      | some (x, rest) => if rest = [.char '}'] then some x else none
      | none => none
    else none
  | _ => none

/-! ## Reading rules -/

/-- With enough fuel `read` gives the meaning `m` of the symbols up to `rest`. -/
def Reads {α : Type} (read : Nat → List Symbol → Option (α × List Symbol)) (ss : List Symbol)
    (m : α) (rest : List Symbol) : Prop :=
  ∀ fuel, ss.length ≤ fuel → read fuel ss = some (m, rest)

variable {ss xs rest : List Symbol} {ps : List Piece} {x : Code}

/-- Fuel for one symbol and what follows it. -/
theorem exists_fuel {s : Symbol} {fuel : Nat} (h : (s :: ss).length ≤ fuel) :
    ∃ less, fuel = less + 1 ∧ ss.length ≤ less := by
  rw [List.length_cons] at h
  exact ⟨fuel - 1, by omega, by omega⟩

theorem Reads.congr {α : Type} {read : Nat → List Symbol → Option (α × List Symbol)} {m n : α}
    (h : Reads read ss m rest) (hmn : m = n) : Reads read ss n rest :=
  hmn ▸ h

theorem reads_pieces_end : Reads readPieces (.char '\x60' :: rest) [] rest := by
  intro fuel hfuel
  obtain ⟨fuel, rfl, -⟩ := exists_fuel hfuel
  rfl

theorem after?_insertion_eq_none {c : Char} (hdollar : c = '$' → ss.head? ≠ some (.char '{')) :
    after? [.char '$', .char '{'] (.char c :: ss) = none := by
  by_cases hc : c = '$'
  · have hhead := hdollar hc
    cases ss with
    | nil => simp [after?]
    | cons s ss =>
      have hs : Symbol.char '{' ≠ s := fun hs => hhead (by rw [hs]; rfl)
      simp [after?, hs]
  · exact after?_cons_of_ne (fun h => hc (Symbol.char.inj h).symm) _ _

theorem reads_pieces_char {c : Char} (hquote : c ≠ '\x60') (hslash : c ≠ '\\')
    (hdollar : c = '$' → ss.head? ≠ some (.char '{')) (h : Reads readPieces ss ps rest) :
    Reads readPieces (.char c :: ss) (.char c :: ps) rest := by
  intro fuel hfuel
  obtain ⟨fuel, rfl, hless⟩ := exists_fuel hfuel
  show (if c = '\x60' then _ else if c = '\\' then _ else _) = _
  rw [if_neg hquote, if_neg hslash, after?_insertion_eq_none hdollar]
  dsimp only
  rw [h fuel hless]
  rfl

theorem reads_pieces_escaped {d : Char} (hd : d = '\\' ∨ d = '\x60' ∨ d = '$')
    (h : Reads readPieces ss ps rest) :
    Reads readPieces (.char '\\' :: .char d :: ss) (.char d :: ps) rest := by
  have hescape : readEscape (.char d :: ss) = some (d, ss) :=
    if_pos (by simpa [or_assoc] using hd)
  intro fuel hfuel
  obtain ⟨fuel, rfl, hless⟩ := exists_fuel hfuel
  show (if '\\' = '\x60' then _ else if '\\' = '\\' then _ else _) = _
  rw [if_neg (by decide), if_pos rfl, hescape]
  simp only [Option.bind_eq_bind, Option.bind_some]
  rw [h fuel (Nat.le_of_succ_le hless)]
  rfl

theorem reads_pieces_insertion (hx : Reads readCode (xs ++ .char '}' :: ss) x (.char '}' :: ss))
    (h : Reads readPieces ss ps rest) :
    Reads readPieces (insertion xs ++ ss) (.inserted x :: ps) rest := by
  have hopen : after? [.char '$', .char '{'] (.char '$' :: .char '{' :: (xs ++ .char '}' :: ss)) =
      some (xs ++ .char '}' :: ss) := after?_append [Symbol.char '$', .char '{'] _
  have hclose : after? [.char '}'] (.char '}' :: ss) = some ss := after?_append [Symbol.char '}'] _
  rw [insertion_append]
  intro fuel hfuel
  obtain ⟨fuel, rfl, hless⟩ := exists_fuel hfuel
  have hlength : (xs ++ .char '}' :: ss).length ≤ fuel := Nat.le_of_succ_le hless
  have hss : ss.length ≤ fuel := by
    simp only [List.length_append, List.length_cons] at hlength
    omega
  show (if '$' = '\x60' then _ else if '$' = '\\' then _ else _) = _
  rw [if_neg (by decide), if_neg (by decide), hopen]
  dsimp only
  rw [hx fuel hlength]
  simp only [Option.bind_eq_bind, Option.bind_some, hclose, h fuel hss]

/-! ## Text in a template literal -/

theorem getLast?_cons_of_some {c d : Char} {t : Text} (h : t.getLast? = some d) :
    (c :: t).getLast? = some d := by
  rw [List.getLast?_cons, h]
  rfl

/-- A brace in front of escaped text is the first character of the text. -/
theorem brace_of_head?_escaped {c : Char} {t : Text}
    (h : (chars (escapeLiteral (c :: t)) ++ ss).head? = some (.char '{')) : c = '{' := by
  rw [List.head?_append, chars, List.head?_map] at h
  rcases head?_escapeLiteral_cons with hhead | hhead
  · rw [hhead] at h
    exact Symbol.char.inj (Option.some.inj h)
  · rw [hhead] at h
    cases h

/-- Escaped text from its end: a character after a backslash, or one that stands for itself. That is
so unless the last character is a dollar sign and a brace follows. -/
theorem escaped_text {P : Text → List Symbol → Prop} (hend : P [] ss)
    (hescaped : ∀ {d t us}, d = '\\' ∨ d = '\x60' ∨ d = '$' → P t us →
      P (d :: t) (.char '\\' :: .char d :: us))
    (hchar : ∀ {c t us}, c ≠ '\x60' → c ≠ '\\' → (c = '$' → us.head? ≠ some (.char '{')) →
      P t us → P (c :: t) (.char c :: us))
    {t : Text} (ht : t.getLast? = some '$' → ss.head? ≠ some (.char '{')) :
    P t (chars (escapeLiteral t) ++ ss) := by
  rw [escapeLiteral_eq_escapeOnce]
  fun_induction escapeOnce t with
  | case1 => exact hend
  | case2 cs ih =>
    have ih := ih fun hlast => ht (getLast?_cons_of_some (getLast?_cons_of_some hlast))
    exact hescaped (.inr (.inr rfl))
      (hchar (by decide) (by decide) (fun hd => absurd hd (by decide)) ih)
  | case3 c cs hne hc ih =>
    have ih := ih fun hlast => ht (getLast?_cons_of_some hlast)
    refine hescaped ?_ ih
    rcases Bool.or_eq_true_iff.mp hc with hc | hc
    · exact .inl (of_decide_eq_true hc)
    · exact .inr (.inl (of_decide_eq_true hc))
  | case4 c cs hne hc ih =>
    have ih := ih fun hlast => ht (getLast?_cons_of_some hlast)
    simp only [Bool.or_eq_true, decide_eq_true_eq, not_or] at hc
    refine hchar hc.2 hc.1 ?_ ih
    rintro rfl hhead
    cases cs with
    | nil => exact ht rfl hhead
    | cons d cs =>
      rw [← escapeLiteral_eq_escapeOnce] at hhead
      exact hne cs rfl (by rw [brace_of_head?_escaped hhead])

theorem reads_pieces_text {t : Text} (ht : t.getLast? = some '$' → ss.head? ≠ some (.char '{'))
    (h : Reads readPieces ss ps rest) :
    Reads readPieces (chars (escapeLiteral t) ++ ss) (t.map .char ++ ps) rest :=
  escaped_text (P := fun t us => Reads readPieces us (t.map .char ++ ps) rest) h
    reads_pieces_escaped reads_pieces_char ht

/-! ## Expressions -/

theorem reads_code_template (h : Reads readPieces (xs ++ .char '\x60' :: rest) ps rest) :
    Reads readCode (backquotes xs ++ rest) (.template ps) rest := by
  rw [backquotes_append]
  intro fuel hfuel
  obtain ⟨fuel, rfl, hless⟩ := exists_fuel hfuel
  show (if '\x60' = '\x60' then _ else _) = _
  rw [if_pos rfl, h fuel hless]
  rfl

theorem leading_chars_append (t : Text) (ss : List Symbol) :
    leading (chars t ++ ss) = (t ++ (leading ss).1, (leading ss).2) := by
  induction t with
  | nil => rfl
  | cons c t ih =>
    show leading (.char c :: (chars t ++ ss)) = _
    rw [leading, ih]
    rfl

theorem chars_leading (ss : List Symbol) : chars (leading ss).1 ++ (leading ss).2 = ss := by
  fun_induction leading ss with
  | case1 c ss ih => exact congrArg (.char c :: ·) ih
  | case2 ss hne => rfl

theorem readString_literal {t value : Text} (h : ∀ r, Text.literal? (t ++ r) = some (value, r))
    (rest : List Symbol) : readString (chars t ++ rest) = some (value, rest) := by
  rw [readString, leading_chars_append]
  dsimp only
  rw [h]
  dsimp only
  rw [chars_leading]

theorem reads_code_string (value : Text) :
    Reads readCode (chars (Text.stringLiteral value) ++ rest) (.string value) rest := by
  have hread := readString_literal (fun r => Text.literal?_stringLiteral value r) rest
  obtain ⟨t, ht⟩ : ∃ t, Text.stringLiteral value = '\x22' :: t := ⟨_, rfl⟩
  rw [ht] at hread ⊢
  show Reads _ (.char '\x22' :: (chars t ++ rest)) _ _
  intro fuel hfuel
  obtain ⟨fuel, rfl, -⟩ := exists_fuel hfuel
  rw [readCode, if_neg (by decide), if_pos rfl]
  show (do let (value, ss) ← readString (chars ('\x22' :: t) ++ rest); some (_, ss)) = _
  rw [hread]
  rfl

theorem reads_code_null : Reads readCode (chars "null".toList ++ rest) .null rest := by
  have hafter : after? (chars "null".toList) (.char 'n' :: (chars "ull".toList ++ rest)) =
      some rest := after?_append (chars "null".toList) rest
  show Reads _ (.char 'n' :: (chars "ull".toList ++ rest)) _ _
  intro fuel hfuel
  obtain ⟨fuel, rfl, -⟩ := exists_fuel hfuel
  rw [readCode, if_neg (by decide), if_neg (by decide), hafter]
  rfl

/-- The symbols go on neither with a choice nor with a map. -/
def Ends (rest : List Symbol) : Prop :=
  after? (chars " ? ".toList) rest = none ∧ after? (chars "?.map((".toList) rest = none

theorem ends_nil : Ends [] := ⟨rfl, rfl⟩

theorem ends_char {c : Char} (hblank : c ≠ ' ') (hmark : c ≠ '?') (ss : List Symbol) :
    Ends (.char c :: ss) :=
  ⟨after?_cons_of_ne (fun h => hblank (Symbol.char.inj h).symm) _ _,
    after?_cons_of_ne (fun h => hmark (Symbol.char.inj h).symm) _ _⟩

theorem ends_colon (ss : List Symbol) : Ends (chars " : ".toList ++ ss) := ⟨rfl, rfl⟩

theorem reads_code_source {code : Text} (h : Ends rest) :
    Reads readCode (.source code :: rest) (.source code) rest := by
  intro fuel hfuel
  obtain ⟨fuel, rfl, -⟩ := exists_fuel hfuel
  rw [readCode, h.1]
  dsimp only
  rw [h.2]

theorem reads_code_choice (test : Text) {ys ns : List Symbol} {yes no : Code}
    (hyes : Reads readCode (ys ++ (chars " : ".toList ++ (ns ++ rest))) yes
      (chars " : ".toList ++ (ns ++ rest)))
    (hno : Reads readCode (ns ++ rest) no rest) :
    Reads readCode (Symbol.choice test ys ns ++ rest) (.choice test yes no) rest := by
  rw [choice_append]
  intro fuel hfuel
  obtain ⟨fuel, rfl, hless⟩ := exists_fuel hfuel
  simp only [List.length_append] at hless
  rw [readCode, after?_append]
  dsimp only
  rw [hyes fuel (by simp only [List.length_append]; omega)]
  simp only [Option.bind_eq_bind, Option.bind_some, after?_append]
  rw [hno fuel (by simp only [List.length_append]; omega)]
  rfl

theorem readNames_joined (p : Text) (ps : List Text) (ss : List Symbol) :
    readNames (joined ", ".toList ((p :: ps).map fun p => [.source p]) ++ .char ')' :: ss) =
      some (p :: ps, ss) := by
  induction ps generalizing p with
  | nil => rfl
  | cons q ps ih =>
    have hshape : joined ", ".toList ((p :: q :: ps).map fun p => [.source p]) ++ .char ')' :: ss =
        .source p :: .char ',' :: .char ' ' ::
          (joined ", ".toList ((q :: ps).map fun p => [.source p]) ++ .char ')' :: ss) := rfl
    rw [hshape, readNames, ih q]
    rfl

theorem readParams_joined (params : List Text) (ss : List Symbol) :
    readParams (joined ", ".toList (params.map fun p => [.source p]) ++ .char ')' :: ss) =
      some (params, ss) := by
  cases params with
  | nil => rfl
  | cons p ps =>
    cases ps with
    | nil => rfl
    | cons q ps => exact readNames_joined p (q :: ps) ss

theorem after?_choice_eq_none (ss : List Symbol) :
    after? (chars " ? ".toList) (chars "?.map((".toList ++ ss) = none :=
  after?_cons_of_ne (by decide) _ _

theorem reads_code_joinedMap (iterable : Text) (params : List Text)
    (h : Reads readCode (xs ++ (chars ").join(\"\")".toList ++ rest)) x
      (chars ").join(\"\")".toList ++ rest)) :
    Reads readCode (mapped iterable params xs ++ rest) (.joinedMap iterable params x) rest := by
  rw [mapped_append]
  intro fuel hfuel
  obtain ⟨fuel, rfl, hless⟩ := exists_fuel hfuel
  simp only [List.length_append, List.length_cons] at hless
  rw [readCode, after?_choice_eq_none]
  dsimp only
  rw [after?_append]
  simp only [Option.bind_eq_bind, readParams_joined, Option.bind_some, after?_append]
  rw [h fuel (by simp only [List.length_append]; omega)]
  simp only [Option.bind_some, after?_append]

/-! ## Whole values -/

theorem read_of_reads (h : Reads readCode ss x []) : Code.read ss = some x := by
  rw [Code.read, h _ (Nat.le_refl _)]

theorem readAttribute_quoted {value : Text} (h : '\x22' ∉ value) :
    Code.readAttribute (.char '\x22' :: chars value ++ [.char '\x22']) = some (.string value) := by
  have hleading : leading (chars value ++ [.char '\x22']) = (value ++ ['\x22'], []) :=
    leading_chars_append value [.char '\x22']
  have hcut : Text.cut? ['\x22'] (value ++ ['\x22']) = some (value, []) := Text.cut?_char h []
  rw [List.cons_append, Code.readAttribute, if_pos rfl, readQuoted, hleading]
  dsimp only
  rw [if_pos rfl, hcut]
  rfl

theorem readAttribute_braces (h : Reads readCode (xs ++ [.char '}']) x [.char '}']) :
    Code.readAttribute (.char '{' :: xs ++ [.char '}']) = some x := by
  rw [List.cons_append, Code.readAttribute, if_neg (by decide), if_pos rfl, h _ (Nat.le_refl _)]
  exact if_pos rfl

/-! ## The code of values -/

namespace Segment

mutual

/-- The pieces that are written for a segment. -/
def pieces : Segment → List Piece
  | .text value => value.map .char
  | .hole code => [.inserted (.source code)]
  | .choice test yes no =>
    [.inserted (.choice test (.template (piecesAll yes)) (.template (piecesAll no)))]
  | .each iterable params body =>
    [.inserted (.joinedMap iterable params (.template (piecesAll body)))]

def piecesAll : List Segment → List Piece
  | [] => []
  | s :: ss => pieces s ++ piecesAll ss

end

theorem piecesAll_append (ss ts : List Segment) :
    piecesAll (ss ++ ts) = piecesAll ss ++ piecesAll ts := by
  induction ss with
  | nil => rfl
  | cons s ss ih => rw [List.cons_append, piecesAll, piecesAll, ih, List.append_assoc]

/-- Two neighbours in a template literal: of two texts one is a colon. -/
def Apart : Segment → Segment → Prop
  | .text t, .text u => t = [':'] ∨ u = [':']
  | _, _ => True

mutual

/-- Neighbours are apart, also inside. -/
def Sound : Segment → Prop
  | .text _ | .hole _ => True
  | .choice _ yes no => SoundAll yes ∧ SoundAll no
  | .each _ _ body => SoundAll body

def SoundAll : List Segment → Prop
  | [] => True
  | s :: ss => s.Sound ∧ (∀ r ∈ ss.head?, Apart s r) ∧ SoundAll ss

end

/-- After a text that is apart from what follows it there is no brace to complete a dollar sign. -/
theorem head?_symbolsAll {t : Text} {ss : List Segment} (h : ∀ r ∈ ss.head?, Apart (.text t) r)
    (ht : t.getLast? = some '$') :
    (symbolsAll ss ++ .char '\x60' :: rest).head? ≠ some (.char '{') := by
  cases ss with
  | nil => exact nofun
  | cons s ss =>
    cases s with
    | text u =>
      rcases h (.text u) rfl with rfl | rfl
      · cases ht
      · exact nofun
    | hole | choice | each => simp [symbolsAll, symbols, insertion]

mutual

theorem reads_symbols : ∀ (s : Segment) {ss : List Symbol} {ps : List Piece} {rest : List Symbol},
    s.Sound → (∀ t, s = .text t → t.getLast? = some '$' → ss.head? ≠ some (.char '{')) →
    Reads readPieces ss ps rest → Reads readPieces (s.symbols ++ ss) (s.pieces ++ ps) rest
  | .text t, _, _, _, _, ht, h => by
    rw [symbols, pieces]
    exact reads_pieces_text (ht t rfl) h
  | .hole code, ss, _, _, _, _, h => by
    rw [symbols, pieces]
    have hends : Ends (.char '}' :: ss) := ends_char (by decide) (by decide) ss
    have hsource : Reads readCode ([.source code] ++ .char '}' :: ss) (.source code)
        (.char '}' :: ss) := reads_code_source hends
    exact reads_pieces_insertion hsource h
  | .choice test yes no, ss, _, _, hs, _, h => by
    have hyes := reads_symbolsAll yes hs.1 (chars " : ".toList ++
      (backquotes (symbolsAll no) ++ .char '}' :: ss))
    have hno := reads_symbolsAll no hs.2 (.char '}' :: ss)
    rw [symbols, pieces]
    exact reads_pieces_insertion
      (reads_code_choice test (reads_code_template hyes) (reads_code_template hno)) h
  | .each iterable params body, ss, _, _, hs, _, h => by
    have hbody := reads_symbolsAll body hs (chars ").join(\"\")".toList ++ .char '}' :: ss)
    rw [symbols, pieces]
    exact reads_pieces_insertion
      (reads_code_joinedMap iterable params (reads_code_template hbody)) h

theorem reads_symbolsAll : ∀ (ss : List Segment), SoundAll ss → ∀ rest : List Symbol,
    Reads readPieces (symbolsAll ss ++ .char '\x60' :: rest) (piecesAll ss) rest
  | [], _, _ => reads_pieces_end
  | s :: ss, h, rest => by
    rw [symbolsAll, piecesAll, List.append_assoc]
    refine reads_symbols s h.1 ?_ (reads_symbolsAll ss h.2.2 rest)
    rintro t rfl ht
    exact head?_symbolsAll h.2.1 ht

end

end Segment

namespace Value

/-- The code that is written for a value. -/
def code : Value → Code
  | .null => .null
  | .text value => .string value
  | .source code => .source code
  | .choice test yes no => .choice test yes.code no.code
  | .literal segments => .template (Segment.piecesAll segments)

def Sound : Value → Prop
  | .null | .text _ | .source _ => True
  | .choice _ yes no => yes.Sound ∧ no.Sound
  | .literal segments => Segment.SoundAll segments

/-- What is written for a value is read as its code, provided that in its template literals a dollar
sign that ends a text is not followed by a text that begins with a brace. -/
theorem reads_symbols {v : Value} (hv : v.Sound) {rest : List Symbol} (hrest : Ends rest) :
    Reads readCode (v.symbols ++ rest) v.code rest := by
  induction v generalizing rest with
  | null => exact reads_code_null
  | text value => exact reads_code_string value
  | source code => exact reads_code_source hrest
  | choice test yes no ihyes ihno =>
    have hyes := ihyes hv.1 (ends_colon (no.symbols ++ rest))
    have hno := ihno hv.2 hrest
    exact reads_code_choice test hyes hno
  | literal segments => exact reads_code_template (Segment.reads_symbolsAll segments hv rest)

end Value

end Stencil.Jsx
