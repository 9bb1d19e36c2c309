import Stencil.Proofs.Jsx.Meaning

/-!
# What written style objects mean

An object gives texts to some keys. Of its entries the later ones override the earlier ones, and an
entry that spreads one of two objects adds all that this object has. `readObject` reads symbols as
an object, and what is written for a style object has the meaning of the object
(`Style.readStyle_symbols`).
-/

namespace Stencil.Jsx

open Text (after? after?_append after?_cons_of_ne)
open Stencil.Jsx.Symbol

/-! ## Objects -/

/-- The text that each key has, if it has one. -/
abbrev Fields := Text → Option Text

namespace Fields

def none : Fields := fun _ => .none

def one (key value : Text) : Fields := fun k => if k = key then some value else .none

/-- What comes later overrides what comes first. -/
def overlay (first later : Fields) : Fields := fun k => (later k).or (first k)

end Fields

variable {Env Value Setting : Type}

section Styles

variable (I : Interpretation Env Value Setting) (toText : Value → Text)

mutual

def StyleEntry.eval (env : Env) : StyleEntry → Fields
  | .plain key value => .one key value
  | .composed key value => .one key (Segment.evalAll I toText env value)
  | .spread test yes no =>
    if I.holds env test then StyleEntry.evalAll env yes else StyleEntry.evalAll env no

def StyleEntry.evalAll (env : Env) : List StyleEntry → Fields
  | [] => .none
  | e :: es => .overlay (e.eval env) (StyleEntry.evalAll env es)

end

/-- The meanings of members one after another. -/
def merged {α : Type} (meaning : α → Env → Fields) (xs : List α) (env : Env) : Fields :=
  xs.foldr (fun x later => .overlay (meaning x env) later) .none

theorem merged_cons {α : Type} (meaning : α → Env → Fields) (x : α) (xs : List α) (env : Env) :
    merged meaning (x :: xs) env = .overlay (meaning x env) (merged meaning xs env) := rfl

def Style.eval (env : Env) : Style → Fields
  | .literal declarations => merged (fun d _ => .one d.1 d.2) declarations env
  | .entries es => StyleEntry.evalAll I toText env es

/-! ## Reading objects -/

/-- What follows a space, if there is one. -/
def pastSpace (ss : List Symbol) : List Symbol := (after? [.char ' '] ss).getD ss

/-- A key with its value, or a spread of one of two objects. -/
def readMember (readObject : List Symbol → Option ((Env → Fields) × List Symbol))
    (ss : List Symbol) : Option ((Env → Fields) × List Symbol) :=
  match after? (chars "...(".toList) ss with
  | some (.source test :: ss) => do
    let ss ← after? (chars " ? ".toList) ss
    let (yes, ss) ← readObject ss
    let ss ← after? (chars " : ".toList) ss
    let (no, ss) ← readObject ss
    let ss ← after? [.char ')'] ss
    some (fun env => if I.holds env test then yes env else no env, ss)
  | some _ => none
  | none => do
    let (key, ss) ← readString ss
    let ss ← after? [.char ':'] ss
    let (value, ss) ← readCode (pastSpace ss).length (pastSpace ss)
    some (fun env => .one key ((value.eval I toText env).asText toText), ss)

mutual

/-- Members with commas between them, up to the closing brace. -/
def readMembers : Nat → List Symbol → Option ((Env → Fields) × List Symbol)
  | 0, _ => none
  | fuel + 1, ss => do
    let (first, ss) ← readMember I toText (readObject fuel) ss
    match after? [.char '}'] ss with
    | some ss => some (first, ss)
    | none =>
      let ss ← after? [.char ','] ss
      let (later, ss) ← readMembers fuel (pastSpace ss)
      some (fun env => .overlay (first env) (later env), ss)

def readObject : Nat → List Symbol → Option ((Env → Fields) × List Symbol)
  | 0, _ => none
  | fuel + 1, ss => do
    let ss ← after? [.char '{'] ss
    match after? [.char '}'] ss with
    | some ss => some (fun _ => .none, ss)
    | none => readMembers fuel ss

end

/-- The meaning of symbols that are one object. -/
def readStyle (ss : List Symbol) : Option (Env → Fields) :=
  match readObject I toText ss.length ss with
  | some (m, rest) => if rest = [] then some m else none
  | none => none

/-! ## Members -/

/-- What is written for a member with meaning `m`. -/
structure Member (xs : List Symbol) (m : Env → Fields) : Prop where
  head : ∃ c ts, xs = .char c :: ts ∧ c ≠ ' ' ∧ c ≠ '}'
  reads (rest : List Symbol) (fuel : Nat) (hfuel : (xs ++ rest).length ≤ fuel + 1) :
    readMember I toText (readObject I toText fuel) (xs ++ rest) = some (m, rest)

variable {I toText} {xs rest : List Symbol}

theorem after?_char (c : Char) (ss : List Symbol) : after? [.char c] (.char c :: ss) = some ss :=
  after?_append [Symbol.char c] ss

theorem after?_char_of_ne {c d : Char} (h : d ≠ c) (ss : List Symbol) :
    after? [.char c] (.char d :: ss) = none :=
  after?_cons_of_ne (fun hcd => h (Symbol.char.inj hcd).symm) _ _

theorem pastSpace_space (ss : List Symbol) : pastSpace (.char ' ' :: ss) = ss := by
  rw [pastSpace, after?_char]
  rfl

theorem pastSpace_of_ne {c : Char} (h : c ≠ ' ') (ss : List Symbol) :
    pastSpace (.char c :: ss) = .char c :: ss := by
  rw [pastSpace, after?_char_of_ne h]
  rfl

/-- A gap is no space or one. -/
theorem pastSpace_gap {gap : Text} (hgap : gap = [] ∨ gap = [' ']) {c : Char} (hc : c ≠ ' ')
    (ss : List Symbol) : pastSpace (chars gap ++ .char c :: ss) = .char c :: ss := by
  rcases hgap with rfl | rfl
  · exact pastSpace_of_ne hc ss
  · exact pastSpace_space _

theorem member_pair {t gap key : Text} {vs : List Symbol} {v : Code}
    (hkey : ∀ r, Text.literal? ('\x22' :: t ++ r) = some (key, r)) (hgap : gap = [] ∨ gap = [' '])
    (hvs : ∃ c us, vs = .char c :: us ∧ c ≠ ' ')
    (hv : ∀ rest, Reads readCode (vs ++ rest) v rest) :
    Member I toText (pair ('\x22' :: t) gap vs)
      (fun env => .one key ((v.eval I toText env).asText toText)) := by
  obtain ⟨c, us, rfl, hc⟩ := hvs
  refine ⟨⟨'\x22', _, rfl, by decide, by decide⟩, fun rest fuel hfuel => ?_⟩
  have hshape : pair ('\x22' :: t) gap (.char c :: us) ++ rest =
      chars ('\x22' :: t) ++ (.char ':' :: (chars gap ++ (.char c :: (us ++ rest)))) := by
    simp only [pair, List.append_assoc, List.cons_append]
  have hnone (ss : List Symbol) :
      after? (chars "...(".toList) (chars ('\x22' :: t) ++ ss) = none :=
    after?_cons_of_ne (by decide) _ _
  have hvalue := hv rest ((.char c :: us) ++ rest).length (Nat.le_refl _)
  rw [List.cons_append] at hvalue
  rw [hshape, readMember, hnone]
  dsimp only
  rw [readString_literal hkey]
  simp only [Option.bind_eq_bind, Option.bind_some, after?_char, pastSpace_gap hgap hc, hvalue]

theorem member_spread (test : Text) {ys ns : List Symbol} {yes no : Env → Fields}
    (hyes : ∀ rest, Reads (readObject I toText) (ys ++ rest) yes rest)
    (hno : ∀ rest, Reads (readObject I toText) (ns ++ rest) no rest) :
    Member I toText (spread test ys ns)
      (fun env => if I.holds env test then yes env else no env) := by
  refine ⟨⟨'.', _, rfl, by decide, by decide⟩, fun rest fuel hfuel => ?_⟩
  have hshape : spread test ys ns ++ rest = chars "...(".toList ++ (.source test ::
      (chars " ? ".toList ++ (ys ++ (chars " : ".toList ++ (ns ++ .char ')' :: rest))))) := by
    simp only [spread, Symbol.choice, List.append_assoc, List.cons_append, List.nil_append]
  rw [hshape] at hfuel ⊢
  simp only [List.length_append, List.length_cons] at hfuel
  have hdots : (chars "...(".toList).length = 4 := rfl
  rw [readMember, after?_append]
  dsimp only
  simp only [Option.bind_eq_bind, after?_append, Option.bind_some]
  rw [hyes _ fuel (by simp only [List.length_append, List.length_cons]; omega)]
  simp only [after?_append, Option.bind_some]
  rw [hno _ fuel (by simp only [List.length_append, List.length_cons]; omega)]
  simp only [after?_char, Option.bind_some]

/-! ## Objects -/

section Lists

variable {α : Type} {form : α → List Symbol} {meaning : α → Env → Fields} {gap : Text}

/-- Members begin like the first of them. -/
theorem head_members (gap : Text) {x : α} (hx : Member I toText (form x) (meaning x)) (xs : List α)
    (more : List Symbol) : ∃ c ts, c ≠ ' ' ∧ c ≠ '}' ∧
      joined (',' :: gap) ((x :: xs).map form) ++ more = .char c :: ts := by
  obtain ⟨c, ts, hform, hspace, hbrace⟩ := hx.head
  obtain ⟨us, hus⟩ := exists_joined (',' :: gap) (form x) (xs.map form)
  refine ⟨c, ts ++ us ++ more, hspace, hbrace, ?_⟩
  rw [List.map_cons, hus, hform, List.cons_append, List.cons_append]

theorem reads_members (hgap : gap = [] ∨ gap = [' ']) (x : α) (xs : List α)
    (h : ∀ y ∈ x :: xs, Member I toText (form y) (meaning y)) :
    Reads (readMembers I toText) (joined (',' :: gap) ((x :: xs).map form) ++ .char '}' :: rest)
      (merged meaning (x :: xs)) rest := by
  induction xs generalizing x with
  | nil =>
    have hx := h x List.mem_cons_self
    have hshape : joined (',' :: gap) ([x].map form) ++ .char '}' :: rest =
        form x ++ .char '}' :: rest := by
      simp [joined]
    rw [hshape]
    intro fuel hfuel
    obtain ⟨fuel, rfl⟩ : ∃ less, fuel = less + 1 := ⟨fuel - 1, by
      simp only [List.length_append, List.length_cons] at hfuel; omega⟩
    rw [readMembers, hx.reads _ fuel hfuel]
    simp only [Option.bind_eq_bind, Option.bind_some, after?_char]
    rfl
  | cons z xs ih =>
    have hx := h x List.mem_cons_self
    have hrest := ih z fun y hy => h y (List.mem_cons_of_mem x hy)
    have hz := h z (List.mem_cons_of_mem x List.mem_cons_self)
    obtain ⟨c, ts, hspace, -, hcons⟩ := head_members gap hz xs (.char '}' :: rest)
    have hshape : joined (',' :: gap) ((x :: z :: xs).map form) ++ .char '}' :: rest =
        form x ++ (.char ',' :: (chars gap ++ (joined (',' :: gap) ((z :: xs).map form) ++
          .char '}' :: rest))) := by
      rw [List.map_cons, List.map_cons, joined_cons, ← List.map_cons]
      simp only [List.append_assoc]
      rfl
    rw [hshape]
    intro fuel hfuel
    obtain ⟨fuel, rfl⟩ : ∃ less, fuel = less + 1 := ⟨fuel - 1, by
      simp only [List.length_append, List.length_cons] at hfuel; omega⟩
    rw [readMembers, hx.reads _ fuel hfuel]
    have hcomma (ss : List Symbol) : after? [.char '}'] (.char ',' :: ss) = none :=
      after?_char_of_ne (by decide) ss
    simp only [List.length_append, List.length_cons] at hfuel
    simp only [Option.bind_eq_bind, Option.bind_some, hcomma, after?_char]
    rw [hcons, pastSpace_gap hgap hspace, ← hcons,
      hrest fuel (by simp only [List.length_append, List.length_cons]; omega)]
    rfl

theorem reads_braces (hgap : gap = [] ∨ gap = [' ']) (xs : List α)
    (h : ∀ y ∈ xs, Member I toText (form y) (meaning y)) (rest : List Symbol) :
    Reads (readObject I toText) (braces (',' :: gap) (xs.map form) ++ rest)
      (merged meaning xs) rest := by
  have hshape : braces (',' :: gap) (xs.map form) ++ rest =
      .char '{' :: (joined (',' :: gap) (xs.map form) ++ .char '}' :: rest) := by
    simp [braces]
  rw [hshape]
  intro fuel hfuel
  obtain ⟨fuel, rfl, hless⟩ := exists_fuel hfuel
  rw [readObject]
  simp only [Option.bind_eq_bind, after?_char, Option.bind_some]
  cases xs with
  | nil =>
    have hend : after? [.char '}']
        (joined (',' :: gap) (([] : List α).map form) ++ .char '}' :: rest) = some rest :=
      after?_char '}' rest
    rw [hend]
    rfl
  | cons x xs =>
    obtain ⟨c, ts, -, hbrace, hcons⟩ :=
      head_members gap (h x List.mem_cons_self) xs (.char '}' :: rest)
    have hopen : after? [.char '}']
        (joined (',' :: gap) ((x :: xs).map form) ++ .char '}' :: rest) = none := by
      rw [hcons]
      exact after?_char_of_ne hbrace ts
    rw [hopen]
    exact reads_members hgap x xs h fuel hless

end Lists

/-! ## Style objects -/

namespace StyleEntry

mutual

/-- The template literals in an entry can be read back. -/
def Sound : StyleEntry → Prop
  | .plain _ _ => True
  | .composed _ value => Segment.SoundAll value
  | .spread _ yes no => SoundAll yes ∧ SoundAll no

def SoundAll : List StyleEntry → Prop
  | [] => True
  | e :: es => e.Sound ∧ SoundAll es

end

theorem symbolsAll_eq (es : List StyleEntry) : symbolsAll es = es.map symbols := by
  induction es with
  | nil => rfl
  | cons e es ih => rw [symbolsAll, List.map_cons, ih]

theorem evalAll_eq (es : List StyleEntry) (env : Env) :
    evalAll I toText env es = merged (fun e env => eval I toText env e) es env := by
  induction es with
  | nil => rfl
  | cons e es ih =>
    rw [evalAll, ih, merged_cons]

/-- Entries whose members are read are read as an object. -/
theorem reads_entries {es : List StyleEntry}
    (h : ∀ e ∈ es, Member I toText e.symbols fun env => e.eval I toText env) (rest : List Symbol) :
    Reads (readObject I toText) (braces ", ".toList (symbolsAll es) ++ rest)
      (fun env => evalAll I toText env es) rest := by
  rw [symbolsAll_eq]
  exact (reads_braces (.inr rfl) es h rest).congr (funext fun env => (evalAll_eq es env).symm)

mutual

theorem member_symbols : ∀ e : StyleEntry, e.Sound →
    Member I toText e.symbols fun env => e.eval I toText env
  | .plain key value, _ => by
    rw [symbols]
    exact member_pair (Text.literal?_asciiLiteral key) (.inr rfl) ⟨_, _, rfl, by decide⟩
      fun _ => reads_code_string value
  | .composed key value, h => by
    have hpair : Member I toText (pair (Text.asciiLiteral key) [' ']
        (backquotes (Segment.symbolsAll value)))
        fun env => .one key (Piece.evalAll I toText env (Segment.piecesAll value)) :=
      member_pair (Text.literal?_asciiLiteral key) (.inr rfl) ⟨_, _, rfl, by decide⟩
        fun rest => reads_code_template (Segment.reads_symbolsAll value h rest)
    simp only [Segment.eval_piecesAll] at hpair
    rw [symbols]
    exact hpair
  | .spread test yes no, h => by
    rw [symbols]
    exact member_spread test (reads_entries (members_symbols yes h.1))
      (reads_entries (members_symbols no h.2))

theorem members_symbols : ∀ es : List StyleEntry, SoundAll es →
    ∀ e ∈ es, Member I toText e.symbols fun env => e.eval I toText env
  | [], _ => List.forall_mem_nil _
  | e :: es, h => List.forall_mem_cons.mpr ⟨member_symbols e h.1, members_symbols es h.2⟩

end

end StyleEntry

def Style.Sound : Style → Prop
  | .literal _ => True
  | .entries es => StyleEntry.SoundAll es

theorem Style.reads_symbols {s : Style} (h : s.Sound) :
    Reads (readObject I toText) s.symbols (fun env => s.eval I toText env) [] := by
  rw [← List.append_nil s.symbols]
  cases s with
  | literal declarations =>
    refine reads_braces (.inl rfl) declarations (fun d _ => ?_) []
    exact member_pair (Text.literal?_stringLiteral d.1) (.inl rfl) ⟨_, _, rfl, by decide⟩
      fun _ => reads_code_string d.2
  | entries es => exact StyleEntry.reads_entries (StyleEntry.members_symbols es h) []

/-- What is written for a style object means the object. -/
theorem Style.readStyle_symbols {s : Style} (h : s.Sound) :
    readStyle I toText s.symbols = some fun env => s.eval I toText env := by
  rw [readStyle, Style.reads_symbols h _ (Nat.le_refl _)]
  exact if_pos rfl

end Styles

end Stencil.Jsx
