import Stencil.Event.Directive

/-!
# Expressions of the generated source

The sources of a template become operands of the generated code, where operators stand next to them.
Names, member access, `||`, choices and optional map calls are read from text by the grammar of the
generated source: a member access or a call belongs to the operand in front of it, `||` binds weaker
and to the left, a choice weakest and to the right. An expression that is written with no more
parentheses than it needs reads back (`readable`). A map call after it belongs to its last operand
(`takes_mapLast`), and a choice after it to what follows its last colon (`takes_chooseLast`).
-/

namespace Stencil.Jsx

open Text

inductive Script where
  | name (n : Text)
  | member (e : Script) (n : Text)
  /-- The first operand, or else the second one. -/
  | either (a b : Script)
  | choice (test yes no : Script)
  /-- A call of `map` that is left out if there is no list. -/
  | map (list : Script) (params : List Text) (body : Script)
deriving DecidableEq

namespace Script

def null : Script := .name "null".toList

/-- Whether an operand in front of a member access or a call is this expression as a whole. -/
def isChain : Script → Bool
  | .name _ | .member .. | .map .. => true
  | .either .. | .choice .. => false

def isChoice : Script → Bool
  | .choice .. => true
  | _ => false

/-! ## Tokens -/

inductive Token where
  | name (n : Text)
  | dot
  | optional
  | or
  | query
  | colon
  | opening
  | closing
  | comma
  | arrow
deriving DecidableEq

/-- Names are made of word characters, the dollar sign and whatever lies beyond ASCII. -/
def isNameChar (c : Char) : Bool := Directive.isNameChar c || (0x80 ≤ c.toNat && !isBlank c)

/-- A mark of two characters. -/
def pair? (c d : Char) : Option Token :=
  if c = '|' && d = '|' then some .or
  else if c = '?' && d = '.' then some .optional
  else if c = '=' && d = '>' then some .arrow
  else none

def mark? (c : Char) : Option Token :=
  if c = '.' then some .dot
  else if c = '?' then some .query
  else if c = ':' then some .colon
  else if c = '(' then some .opening
  else if c = ')' then some .closing
  else if c = ',' then some .comma
  else none

/-- A character of a name in front of `rest`, which has the tokens `ts`. -/
def nameToken (c : Char) (rest : Text) (ts : List Token) : List Token :=
  match rest.head?.any isNameChar, ts with
  | true, .name n :: ts => .name (c :: n) :: ts
  | _, ts => .name [c] :: ts

/-- The tokens `ts` of `rest`, with those of a character in front of it. -/
def lexOne (c : Char) (rest : Text) (ts : List Token) : Option (List Token) :=
  if isNameChar c then some (nameToken c rest ts)
  else if isBlank c then some ts
  else (mark? c).map (· :: ts)

/-- The tokens of a text. -/
def lex : Text → Option (List Token)
  | [] => some []
  | [c] => lexOne c [] []
  | c :: d :: t =>
    match pair? c d with
    | some p => (lex t).map (p :: ·)
    | none => (lex (d :: t)).bind (lexOne c (d :: t))

/-- Names with commas between them. -/
def paramTokens (params : List Text) : List Token :=
  ((params.map fun p => [Token.name p]).intersperse [.comma]).flatten

/-- A call of `map` that takes a function with the given parameters and body. -/
def callTokens (params : List Text) (body : List Token) : List Token :=
  [.optional, .name "map".toList, .opening, .opening] ++ paramTokens params ++
    [.closing, .arrow, .opening] ++ body ++ [.closing, .closing]

def enclose (needed : Bool) (ts : List Token) : List Token :=
  if needed then .opening :: ts ++ [.closing] else ts

/-- The tokens of an expression where a choice (0), an operand of `||` (1) or an operand of a member
access (2) may stand. There are parentheses around it only if it binds weaker. -/
def tokens : Script → Nat → List Token
  | .name n, _ => [.name n]
  | .member e n, _ => e.tokens 2 ++ [.dot, .name n]
  | .either a b, place => enclose (1 < place) (a.tokens 1 ++ .or :: b.tokens 2)
  | .choice test yes no, place =>
    enclose (0 < place) (test.tokens 1 ++ .query :: yes.tokens 0 ++ .colon :: no.tokens 0)
  | .map list params body, _ => list.tokens 2 ++ callTokens params (body.tokens 0)

/-- The text is the expression, written without needless parentheses and with any spacing. -/
def Writes (e : Script) (t : Text) : Prop := lex t = some (e.tokens 0)

/-! ## Reading -/

/-- The parameters of a function, up to the closing parenthesis. -/
def readParams : List Token → Option (List Text × List Token)
  | .closing :: ts => some ([], ts)
  | .name p :: .closing :: ts => some ([p], ts)
  | .name p :: .comma :: ts => (readParams ts).map fun (ps, ts) => (p :: ps, ts)
  | _ => none

mutual

def readChoice : Nat → List Token → Option (Script × List Token)
  | 0, _ => none
  | fuel + 1, ts =>
    match readEither fuel ts with
    | some (test, .query :: ts) =>
      match readChoice fuel ts with
      | some (yes, .colon :: ts) =>
        match readChoice fuel ts with
        | some (no, ts) => some (.choice test yes no, ts)
        | none => none
      | _ => none
    | other => other

def readEither : Nat → List Token → Option (Script × List Token)
  | 0, _ => none
  | fuel + 1, ts =>
    match readChain fuel ts with
    | some (a, ts) => readEitherRest fuel a ts
    | none => none

/-- Further operands of `||` after `a`. -/
def readEitherRest : Nat → Script → List Token → Option (Script × List Token)
  | 0, _, _ => none
  | fuel + 1, a, .or :: ts =>
    match readChain fuel ts with
    | some (b, ts) => readEitherRest fuel (.either a b) ts
    | none => none
  | _ + 1, a, ts => some (a, ts)

def readChain : Nat → List Token → Option (Script × List Token)
  | 0, _ => none
  | fuel + 1, .name n :: ts => readChainRest fuel (.name n) ts
  | fuel + 1, .opening :: ts =>
    match readChoice fuel ts with
    | some (e, .closing :: ts) => readChainRest fuel e ts
    | _ => none
  | _ + 1, _ => none

/-- Member accesses and calls after `a`. -/
def readChainRest : Nat → Script → List Token → Option (Script × List Token)
  | 0, _, _ => none
  | fuel + 1, a, .dot :: .name n :: ts => readChainRest fuel (.member a n) ts
  | fuel + 1, a, .optional :: .name n :: .opening :: .opening :: ts =>
    if n = "map".toList then
      match readParams ts with
      | some (params, .arrow :: ts) =>
        match readChoice fuel ts with
        | some (body, .closing :: ts) => readChainRest fuel (.map a params body) ts
        | _ => none
      | _ => none
    else none
  | _ + 1, a, ts => some (a, ts)

end

/-- The expression that a text is. -/
def read (t : Text) : Option Script :=
  match lex t with
  | some ts =>
    match readChoice (4 * ts.length + 3) ts with
    | some (e, []) => some e
    | _ => none
  | none => none

/-! ## Rules of reading -/

/-- With four units of fuel for each token and `more` of them, `read` takes the tokens up to `rest`
for `e`. -/
def Takes (read : Nat → List Token → Option (Script × List Token)) (more : Nat) (ts : List Token)
    (e : Script) (rest : List Token) : Prop :=
  ∀ fuel, 4 * ts.length + more ≤ fuel → read fuel ts = some (e, rest)

/-- The tokens do not go on with one of the marks. -/
def Stops (marks : List Token) (ts : List Token) : Prop := ∀ t ∈ ts.head?, t ∉ marks

/-- Marks that continue a member access or a call. -/
def chainMarks : List Token := [.dot, .optional]

/-- Marks that continue any expression. -/
def allMarks : List Token := [.dot, .optional, .or, .query]

theorem Stops.mono {marks more ts : List Token} (h : Stops more ts) (hsub : marks ⊆ more) :
    Stops marks ts := fun t ht hmem => h t ht (hsub hmem)

theorem stops_cons {marks : List Token} {t : Token} (h : t ∉ marks) (ts : List Token) :
    Stops marks (t :: ts) := by
  rintro _ ⟨⟩
  exact h

variable {a b e t y n : Script} {ts us vs rest r : List Token} {params : List Text}

/-- Fuel for one call and what it goes on with. -/
theorem exists_less {need fuel : Nat} (h : need + 1 ≤ fuel) :
    ∃ less, fuel = less + 1 ∧ need ≤ less :=
  ⟨fuel - 1, by omega, by omega⟩

theorem takes_chainRest_stop (a : Script) (h : Stops chainMarks rest) :
    Takes (readChainRest · a) 1 rest a rest := by
  intro fuel hfuel
  obtain ⟨less, rfl, -⟩ := exists_less (Nat.le_trans (Nat.le_add_left 1 _) hfuel)
  cases rest with
  | nil => rfl
  | cons t rest =>
    cases t with
    | dot | optional => exact absurd (by decide) (h _ rfl)
    | _ => rfl

theorem takes_eitherRest_stop (a : Script) (h : Stops [.or] rest) :
    Takes (readEitherRest · a) 1 rest a rest := by
  intro fuel hfuel
  obtain ⟨less, rfl, -⟩ := exists_less (Nat.le_trans (Nat.le_add_left 1 _) hfuel)
  cases rest with
  | nil => rfl
  | cons t rest =>
    cases t with
    | or => exact absurd (by decide) (h _ rfl)
    | _ => rfl

theorem takes_chainRest_member {n : Text} (h : Takes (readChainRest · (.member a n)) 1 ts e r) :
    Takes (readChainRest · a) 1 (.dot :: .name n :: ts) e r := by
  intro fuel hfuel
  simp only [List.length_cons] at hfuel
  obtain ⟨less, rfl, hless⟩ := exists_less hfuel
  exact h less (by omega)

theorem takes_chain_name {n : Text} (h : Takes (readChainRest · (.name n)) 1 ts e r) :
    Takes readChain 1 (.name n :: ts) e r := by
  intro fuel hfuel
  simp only [List.length_cons] at hfuel
  obtain ⟨less, rfl, hless⟩ := exists_less hfuel
  exact h less (by omega)

theorem takes_chain_enclosed
    (hinner : Takes readChoice 3 (ts ++ .closing :: rest) a (.closing :: rest))
    (h : Takes (readChainRest · a) 1 rest e r) :
    Takes readChain 1 (.opening :: ts ++ [.closing] ++ rest) e r := by
  have hshape : .opening :: ts ++ [.closing] ++ rest = .opening :: (ts ++ .closing :: rest) := by
    simp
  rw [hshape]
  intro fuel hfuel
  obtain ⟨less, rfl, hless⟩ := exists_less hfuel
  have hinner := hinner less
  simp only [List.length_cons, List.length_append] at hless hinner
  rw [readChain, hinner (by omega)]
  exact h less (by omega)

theorem takes_either (hchain : Takes readChain 1 (ts ++ rest) a rest)
    (h : Takes (readEitherRest · a) 1 rest e r) : Takes readEither 2 (ts ++ rest) e r := by
  intro fuel hfuel
  obtain ⟨less, rfl, hless⟩ := exists_less hfuel
  rw [readEither, hchain less hless]
  refine h less ?_
  rw [List.length_append] at hless
  omega

theorem takes_eitherRest_or (hchain : Takes readChain 1 (ts ++ rest) b rest)
    (h : Takes (readEitherRest · (.either a b)) 1 rest e r) :
    Takes (readEitherRest · a) 1 (.or :: (ts ++ rest)) e r := by
  intro fuel hfuel
  obtain ⟨less, rfl, hless⟩ := exists_less hfuel
  have hchain := hchain less
  simp only [List.length_cons, List.length_append] at hless hchain
  show readEitherRest (less + 1) a (.or :: (ts ++ rest)) = _
  rw [readEitherRest, hchain (by omega)]
  exact h less (by omega)

theorem takes_choice_stop (h : Takes readEither 2 ts e rest) (hrest : Stops [.query] rest) :
    Takes readChoice 3 ts e rest := by
  intro fuel hfuel
  obtain ⟨less, rfl, hless⟩ := exists_less hfuel
  rw [readChoice, h less hless]
  cases rest with
  | nil => rfl
  | cons t rest =>
    cases t with
    | query => exact absurd (by decide) (hrest _ rfl)
    | _ => rfl

theorem takes_choice
    (htest : Takes readEither 2 (ts ++ .query :: (us ++ .colon :: vs)) t
      (.query :: (us ++ .colon :: vs)))
    (hyes : Takes readChoice 3 (us ++ .colon :: vs) y (.colon :: vs))
    (hno : Takes readChoice 3 vs n rest) :
    Takes readChoice 3 (ts ++ .query :: (us ++ .colon :: vs)) (.choice t y n) rest := by
  intro fuel hfuel
  obtain ⟨less, rfl, hless⟩ := exists_less hfuel
  have hyes := hyes less
  simp only [List.length_append, List.length_cons] at hless hyes
  rw [readChoice, htest less (by simp only [List.length_append, List.length_cons]; omega)]
  dsimp only
  rw [hyes (by omega)]
  dsimp only
  rw [hno less (by omega)]

theorem readParams_tokens (params : List Text) (ts : List Token) :
    readParams (paramTokens params ++ .closing :: ts) = some (params, ts) := by
  induction params with
  | nil => rfl
  | cons p params ih =>
    cases params with
    | nil => rfl
    | cons q params =>
      have hshape : paramTokens (p :: q :: params) ++ .closing :: ts =
          .name p :: .comma :: (paramTokens (q :: params) ++ .closing :: ts) := rfl
      rw [hshape, readParams, ih]
      rfl

theorem takes_chainRest_map (hbody : Takes readChoice 3
      (.opening :: us ++ [.closing] ++ .closing :: rest) b (.closing :: rest))
    (h : Takes (readChainRest · (.map a params b)) 1 rest e r) :
    Takes (readChainRest · a) 1 (callTokens params us ++ rest) e r := by
  have hshape : callTokens params us ++ rest = .optional :: .name "map".toList :: .opening ::
      .opening :: (paramTokens params ++ .closing :: .arrow ::
        (.opening :: us ++ [.closing] ++ .closing :: rest)) := by
    simp [callTokens]
  rw [hshape]
  intro fuel hfuel
  obtain ⟨less, rfl, hless⟩ := exists_less hfuel
  have hbody := hbody less
  simp only [List.length_cons, List.length_append] at hless hbody
  show readChainRest (less + 1) a (.optional :: .name "map".toList :: .opening :: .opening :: _) = _
  rw [readChainRest, if_pos rfl, readParams_tokens]
  dsimp only
  rw [hbody (by omega)]
  exact h less (by omega)

/-! ## Reading back -/

/-- The expression reads back wherever it may stand: as an operand that what follows continues, as
an operand of `||`, and as a whole. -/
structure Readable (e : Script) : Prop where
  chain {rest r : List Token} {x : Script} : Takes (readChainRest · e) 1 rest x r →
    Takes readChain 1 (e.tokens 2 ++ rest) x r
  either {rest r : List Token} {x : Script} : Stops chainMarks rest →
    Takes (readEitherRest · e) 1 rest x r → Takes readEither 2 (e.tokens 1 ++ rest) x r
  choice {rest : List Token} : Stops allMarks rest → Takes readChoice 3 (e.tokens 0 ++ rest) e rest

/-- A chain is an operand of `||`. -/
theorem takes_either_of_chain
    (hchain : ∀ {rest r : List Token} {x : Script}, Takes (readChainRest · e) 1 rest x r →
      Takes readChain 1 (ts ++ rest) x r)
    (hstop : Stops chainMarks rest) (h : Takes (readEitherRest · e) 1 rest a r) :
    Takes readEither 2 (ts ++ rest) a r :=
  takes_either (hchain (takes_chainRest_stop e hstop)) h

/-- An operand of `||` is a choice. -/
theorem takes_choice_of_either
    (heither : ∀ {rest r : List Token} {x : Script}, Stops chainMarks rest →
      Takes (readEitherRest · e) 1 rest x r → Takes readEither 2 (ts ++ rest) x r)
    (hstop : Stops allMarks rest) : Takes readChoice 3 (ts ++ rest) e rest :=
  takes_choice_stop
    (heither (hstop.mono (by decide)) (takes_eitherRest_stop e (hstop.mono (by decide))))
    (hstop.mono (by decide))

/-- A choice is a chain between parentheses. -/
theorem takes_chain_of_choice
    (hchoice : ∀ {rest : List Token}, Stops allMarks rest → Takes readChoice 3 (ts ++ rest) e rest)
    (h : Takes (readChainRest · e) 1 rest a r) :
    Takes readChain 1 (.opening :: ts ++ [.closing] ++ rest) a r :=
  takes_chain_enclosed (hchoice (stops_cons (by decide) _)) h

/-- What reads back in front of a member access, and has the same tokens everywhere. -/
theorem Readable.of_chain (hone : e.tokens 1 = e.tokens 2) (hzero : e.tokens 0 = e.tokens 2)
    (hchain : ∀ {rest r : List Token} {x : Script}, Takes (readChainRest · e) 1 rest x r →
      Takes readChain 1 (e.tokens 2 ++ rest) x r) : Readable e where
  chain := hchain
  either := by
    rw [hone]
    exact takes_either_of_chain hchain
  choice := by
    rw [hzero]
    exact takes_choice_of_either (takes_either_of_chain hchain)

theorem Readable.takes_map (hbody : Readable b)
    (h : Takes (readChainRest · (.map a params b)) 1 rest e r) :
    Takes (readChainRest · a) 1 (callTokens params (b.tokens 0) ++ rest) e r := by
  refine takes_chainRest_map ?_ h
  exact takes_choice_of_either (takes_either_of_chain (takes_chain_of_choice hbody.choice))
    (stops_cons (by decide) _)

theorem Readable.takes_or (ha : Readable a) (hb : Readable b) (hstop : Stops chainMarks rest)
    (h : Takes (readEitherRest · (.either a b)) 1 rest e r) :
    Takes readEither 2 (a.tokens 1 ++ .or :: b.tokens 2 ++ rest) e r := by
  rw [List.append_assoc]
  exact ha.either (stops_cons (by decide) _)
    (takes_eitherRest_or (hb.chain (takes_chainRest_stop b hstop)) h)

/-- A choice whose last alternative is read from further tokens. -/
theorem Readable.takes_choice (ht : Readable t) (hy : Readable y)
    (hno : Takes readChoice 3 ts n rest) :
    Takes readChoice 3 (t.tokens 1 ++ .query :: (y.tokens 0 ++ .colon :: ts)) (.choice t y n)
      rest :=
  Script.takes_choice
    (ht.either (stops_cons (by decide) _) (takes_eitherRest_stop t (stops_cons (by decide) _)))
    (hy.choice (stops_cons (by decide) _)) hno

/-- Every expression reads back from its tokens. -/
theorem readable (e : Script) : Readable e := by
  induction e with
  | name n => exact .of_chain rfl rfl takes_chain_name
  | member e n ih =>
    refine .of_chain rfl rfl fun h => ?_
    rw [tokens, List.append_assoc]
    exact ih.chain (takes_chainRest_member h)
  | map list params body ihlist ihbody =>
    refine .of_chain rfl rfl fun h => ?_
    rw [tokens, List.append_assoc]
    exact ihlist.chain (ihbody.takes_map h)
  | either a b iha ihb =>
    exact ⟨takes_chain_of_choice (takes_choice_of_either (iha.takes_or ihb)), iha.takes_or ihb,
      takes_choice_of_either (iha.takes_or ihb)⟩
  | choice t y n iht ihy ihn =>
    have hchoice {rest : List Token} (hstop : Stops allMarks rest) : Takes readChoice 3
        (t.tokens 1 ++ .query :: y.tokens 0 ++ .colon :: n.tokens 0 ++ rest) (.choice t y n)
        rest := by
      have h := iht.takes_choice ihy (ihn.choice hstop)
      simpa using h
    exact ⟨takes_chain_of_choice hchoice, takes_either_of_chain (takes_chain_of_choice hchoice),
      hchoice⟩

/-! ## What a call or a test takes of the expression before it -/

/-- The call taken by the last operand. -/
def mapLast : Script → List Text → Script → Script
  | .either a b, params, body => .either a (.map b params body)
  | .choice test yes no, params, body => .choice test yes (no.mapLast params body)
  | e, params, body => .map e params body

/-- The test taken by the last alternative. -/
def chooseLast : Script → Script → Script → Script
  | .choice test first last, yes, no => .choice test first (last.chooseLast yes no)
  | e, yes, no => .choice e yes no

theorem takes_mapLast (e : Script) (params : List Text) (body : Script)
    (hstop : Stops allMarks rest) :
    Takes readChoice 3 (e.tokens 0 ++ callTokens params (body.tokens 0) ++ rest)
      (e.mapLast params body) rest := by
  -- The call continues whatever chain stands last, be it an operand or the whole expression.
  have hcall (a : Script) : Takes readChain 1
      (a.tokens 2 ++ callTokens params (body.tokens 0) ++ rest) (.map a params body) rest := by
    rw [List.append_assoc]
    exact (readable a).chain ((readable body).takes_map
      (takes_chainRest_stop _ (hstop.mono (by decide))))
  have hwhole (a : Script) : Takes readChoice 3
      (a.tokens 2 ++ callTokens params (body.tokens 0) ++ rest) (.map a params body) rest :=
    takes_choice_stop (takes_either (hcall a) (takes_eitherRest_stop _ (hstop.mono (by decide))))
      (hstop.mono (by decide))
  induction e with
  | name n => exact hwhole (.name n)
  | member e n => exact hwhole (.member e n)
  | map list ps b => exact hwhole (.map list ps b)
  | either a b =>
    have h := (readable a).either (stops_cons (by decide) _)
      (takes_eitherRest_or (hcall b)
        (takes_eitherRest_stop (.either a (.map b params body)) (hstop.mono (by decide))))
    refine takes_choice_stop ?_ (hstop.mono (by decide))
    simpa [mapLast, tokens, enclose] using h
  | choice t y n _ _ ih =>
    have h := (readable t).takes_choice (readable y) ih
    simpa [mapLast, tokens, enclose] using h

theorem takes_chooseLast (e yes no : Script) (hstop : Stops allMarks rest) :
    Takes readChoice 3
      (e.tokens 0 ++ .query :: (yes.tokens 0 ++ .colon :: (no.tokens 0 ++ rest)))
      (e.chooseLast yes no) rest := by
  have htest (a : Script) := (readable a).takes_choice (readable yes) ((readable no).choice hstop)
  induction e with
  | name n => exact htest (.name n)
  | member e n => exact htest (.member e n)
  | map list ps b => exact htest (.map list ps b)
  | either a b => exact htest (.either a b)
  | choice t y n _ _ ih =>
    have h := (readable t).takes_choice (readable y) ih
    simpa [chooseLast, tokens, enclose] using h

theorem read_of_takes {t : Text} (hlex : lex t = some ts) (h : Takes readChoice 3 ts e []) :
    read t = some e := by
  simp only [read, hlex]
  rw [h _ (Nat.le_refl _)]

theorem mapLast_eq_map_iff (e : Script) (params : List Text) (body : Script) :
    e.mapLast params body = .map e params body ↔ e.isChain = true := by
  cases e <;> simp [mapLast, isChain]

theorem chooseLast_eq_choice_iff (e yes no : Script) :
    e.chooseLast yes no = .choice e yes no ↔ e.isChoice = false := by
  cases e with
  | choice test first last =>
    -- An expression is not its own test.
    have hne : test ≠ .choice test first last := fun h => by
      have hsize := congrArg sizeOf h
      simp only [choice.sizeOf_spec] at hsize
      omega
    simp [chooseLast, isChoice, hne]
  | _ => simp [chooseLast, isChoice]

/-! ## Tokens of a text put together -/

/-- Whether two characters next to each other belong to one token. -/
def merges (c d : Char) : Bool := (pair? c d).isSome || (isNameChar c && isNameChar d)

theorem nameToken_ne_nil (c : Char) (t : Text) (ts : List Token) : nameToken c t ts ≠ [] := by
  unfold nameToken
  split <;> exact List.cons_ne_nil _ _

theorem lex_single {c : Char} {t : Text} (h : ∀ d ∈ t.head?, pair? c d = none) :
    lex (c :: t) = (lex t).bind (lexOne c t) := by
  cases t with
  | nil => rfl
  | cons d t => rw [lex, h d rfl]

/-- Marks and the space are no part of a name. -/
theorem isNameChar_mark {c : Char} (h : c ∈ "|=.>?:(), ".toList) : isNameChar c = false := by
  have hall : "|=.>?:(), ".toList.all (fun c => !isNameChar c) = true := by decide
  simpa using List.all_eq_true.mp hall c h

theorem pair?_of_isNameChar {c : Char} (h : isNameChar c = true) (d : Char) : pair? c d = none := by
  have hne {m : Char} (hm : m ∈ "|=.>?:(), ".toList) : c ≠ m := by
    rintro rfl
    exact Bool.false_ne_true ((isNameChar_mark hm).symm.trans h)
  have hbar : c ≠ '|' := hne (by decide)
  have hquery : c ≠ '?' := hne (by decide)
  have hequals : c ≠ '=' := hne (by decide)
  simp [pair?, hbar, hquery, hequals]

/-- A character of a name adds to the tokens of what follows it. -/
theorem lex_nameChar {c : Char} (t : Text) (h : isNameChar c = true) :
    lex (c :: t) = (lex t).map (nameToken c t) := by
  rw [lex_single fun d _ => pair?_of_isNameChar h d]
  cases lex t with
  | none => rfl
  | some ts => simp [lexOne, h]

/-- A text that begins with a character of a name has a token. -/
theorem ne_nil_of_lex {t : Text} (hlex : lex t = some ts) (h : t.head?.any isNameChar = true) :
    ts ≠ [] := by
  cases t with
  | nil => cases h
  | cons c t =>
    rw [lex_nameChar t (by simpa using h)] at hlex
    obtain ⟨us, -, rfl⟩ := Option.map_eq_some_iff.mp hlex
    exact nameToken_ne_nil c t us

theorem nameToken_append {u v : Text} (c : Char) (hu : lex u = some us)
    (h : u = [] → v.head?.any isNameChar = false) :
    nameToken c (u ++ v) (us ++ vs) = nameToken c u us ++ vs := by
  cases u with
  | nil =>
    obtain rfl : us = [] := by simpa [lex] using hu.symm
    simp [nameToken, h rfl]
  | cons d u =>
    have hne := ne_nil_of_lex hu
    cases us with
    | nil =>
      have hd : isNameChar d = false := by simpa using hne
      simp [nameToken, hd]
    | cons t us =>
      cases hd : isNameChar d <;> cases t <;> simp [nameToken, hd]

theorem lexOne_append {c : Char} {u v : Text} (hu : lex u = some us)
    (hone : lexOne c u us = some ts) (h : u = [] → ∀ d ∈ v.head?, merges c d = false) :
    lexOne c (u ++ v) (us ++ vs) = some (ts ++ vs) := by
  unfold lexOne at hone ⊢
  by_cases hname : isNameChar c = true
  · rw [if_pos hname] at hone ⊢
    obtain rfl : nameToken c u us = ts := Option.some.inj hone
    rw [nameToken_append c hu]
    intro hnil
    cases v with
    | nil => rfl
    | cons d v => simpa [merges, hname] using (Bool.or_eq_false_iff.mp (h hnil d rfl)).2
  · rw [if_neg hname] at hone ⊢
    by_cases hblank : isBlank c = true
    · rw [if_pos hblank] at hone ⊢
      rw [Option.some.inj hone]
    · rw [if_neg hblank] at hone ⊢
      obtain ⟨m, hm, rfl⟩ := Option.map_eq_some_iff.mp hone
      rw [hm]
      rfl

/-- Texts next to each other have each its own tokens, if no token reaches into both. -/
theorem lex_append {u v : Text} (hu : lex u = some us) (hv : lex v = some vs)
    (h : ∀ c ∈ u.getLast?, ∀ d ∈ v.head?, merges c d = false) :
    lex (u ++ v) = some (us ++ vs) := by
  induction u using lex.induct generalizing us with
  | case1 =>
    obtain rfl : us = [] := by simpa [lex] using hu.symm
    exact hv
  | case2 c =>
    have hpair (d : Char) (hd : d ∈ v.head?) : pair? c d = none := by
      simpa using (Bool.or_eq_false_iff.mp (h c rfl d hd)).1
    rw [List.cons_append, List.nil_append, lex_single hpair, hv]
    exact lexOne_append rfl hu fun _ => h c rfl
  | case3 c d t p hp ih =>
    rw [lex, hp] at hu
    obtain ⟨ts, hts, rfl⟩ := Option.map_eq_some_iff.mp hu
    show lex (c :: d :: (t ++ v)) = _
    rw [lex, hp]
    dsimp only
    rw [ih hts]
    · rfl
    · intro e he
      refine h e ?_
      rw [Option.mem_def, List.getLast?_cons, List.getLast?_cons, he]
      rfl
  | case4 c d t hp ih =>
    rw [lex, hp] at hu
    obtain ⟨ts, hts, hone⟩ := Option.bind_eq_some_iff.mp hu
    show lex (c :: d :: (t ++ v)) = _
    rw [lex, hp]
    dsimp only
    rw [← List.cons_append, ih hts]
    · exact lexOne_append hts hone nofun
    · intro e he
      refine h e ?_
      rw [Option.mem_def, List.getLast?_cons, he]
      rfl

/-- A mark that ends the token before it. -/
theorem lex_append_of_head {u v : Text} {d : Char} (hu : lex u = some us) (hv : lex v = some vs)
    (hhead : v.head? = some d) (hd : d ∈ "?:(), ".toList) : lex (u ++ v) = some (us ++ vs) := by
  refine lex_append hu hv fun c _ e he => ?_
  obtain rfl : d = e := Option.some.inj (hhead.symm.trans he)
  have hname : isNameChar d = false := isNameChar_mark (List.mem_append_right "|=.>".toList hd)
  have hne {m : Char} (hm : m ∉ "?:(), ".toList) : d ≠ m := fun h => hm (h ▸ hd)
  have hbar : d ≠ '|' := hne (by decide)
  have hdot : d ≠ '.' := hne (by decide)
  have hangle : d ≠ '>' := hne (by decide)
  simp [merges, pair?, hname, hbar, hdot, hangle]

/-- A mark that is a token by itself. -/
theorem lex_append_of_getLast {u v : Text} {c : Char} (hu : lex u = some us) (hv : lex v = some vs)
    (hlast : u.getLast? = some c) (hc : c ∈ ":(), ".toList) : lex (u ++ v) = some (us ++ vs) := by
  refine lex_append hu hv fun e he d _ => ?_
  obtain rfl : c = e := Option.some.inj (hlast.symm.trans he)
  have hname : isNameChar c = false := isNameChar_mark (List.mem_append_right "|=.>?".toList hc)
  have hne {m : Char} (hm : m ∉ ":(), ".toList) : c ≠ m := fun h => hm (h ▸ hc)
  have hbar : c ≠ '|' := hne (by decide)
  have hquery : c ≠ '?' := hne (by decide)
  have hequals : c ≠ '=' := hne (by decide)
  simp [merges, pair?, hname, hbar, hquery, hequals]

/-- The literal texts of the generated source around the sources of the template. -/
theorem lex_literals : lex ", ".toList = some [.comma] ∧
    lex "?.map((".toList = some [.optional, .name "map".toList, .opening, .opening] ∧
    lex ") => (null))".toList =
      some [.closing, .arrow, .opening, .name "null".toList, .closing, .closing] ∧
    lex " ? null : null".toList =
      some [.query, .name "null".toList, .colon, .name "null".toList] := by
  decide

theorem lex_name {n : Text} (hne : n ≠ []) (h : ∀ c ∈ n, isNameChar c = true) :
    lex n = some [.name n] := by
  induction n with
  | nil => exact absurd rfl hne
  | cons c n ih =>
    rw [lex_nameChar n (h c List.mem_cons_self)]
    cases n with
    | nil => rfl
    | cons d n =>
      have hd := h d (by simp)
      rw [ih (List.cons_ne_nil d n) fun e he => h e (List.mem_cons_of_mem c he)]
      simp [nameToken, hd]

theorem lex_joined {names : List Text} (h : ∀ n ∈ names, n ≠ [] ∧ ∀ c ∈ n, isNameChar c = true) :
    lex (joinWith ", ".toList names) = some (paramTokens names) := by
  induction names with
  | nil => rfl
  | cons n names ih =>
    obtain ⟨hne, hn⟩ := h n List.mem_cons_self
    have hlex := lex_name hne hn
    cases names with
    | nil => simpa [joinWith, paramTokens] using hlex
    | cons m names =>
      have hrest := ih fun k hk => h k (List.mem_cons_of_mem n hk)
      have hcomma : lex (", ".toList ++ joinWith ", ".toList (m :: names)) =
          some ([.comma] ++ paramTokens (m :: names)) :=
        lex_append_of_getLast lex_literals.1 hrest rfl (by decide)
      have happend := lex_append_of_head hlex hcomma rfl (by decide)
      simpa [joinWith, paramTokens] using happend

end Script

end Stencil.Jsx
