import Stencil.Proofs.Event.Stream

/-!
# Where the events stand

`Token.Spells t w` says that the text `w` stands in a template for the token `t`, and
`Laid pos text events rest` that the events stand in a text that begins at `pos`: up to `rest`, the
text is made of the spellings of the events, in their order, each at the position of its event, and
of what is skipped between them. The end of a tag may stand for two events at once, if it closes the
element as well.

The scanner takes steps (`Cursor.Runs`) until it comes to an end (`Cursor.Ends`). Each step takes a
beginning of the text that is left, in which its events are laid out (`Step.Accounts`). So the events
of every text are laid out in it, and no position lies outside (`scan_laid`).
-/

namespace Stencil

open Text Directive

namespace Token

/-- What stands between the braces of a directive. -/
inductive HasBody : Token → Text → Prop where
  | encode {s a b : Text} (ha : allBlank a = true) (hb : allBlank b = true) :
      HasBody (.encode s) ('!' :: (a ++ s ++ b))
  | interpolate {s a b : Text} (ha : allBlank a = true) (hb : allBlank b = true) :
      HasBody (.interpolate s) ('=' :: (a ++ s ++ b))
  | evaluate {s a b : Text} (ha : allBlank a = true) (hb : allBlank b = true) :
      HasBody (.evaluate s) (a ++ s ++ b)
  | openConditional {s a b : Text} (ha : allBlank a = true) (hb : allBlank b = true) :
      HasBody (.openConditional s) ('?' :: (a ++ s ++ b))
  | elseIf {s a b : Text} (ha : allBlank a = true) (hb : allBlank b = true) :
      HasBody (.elseIf s) ('?' :: '?' :: (a ++ s ++ b))
  | otherwise {a : Text} (ha : allBlank a = true) : HasBody .otherwise ('?' :: '?' :: a)
  | closeConditional {a : Text} (ha : allBlank a = true) : HasBody .closeConditional ('?' :: a)
  | openIterator {iterable a v : Text} {binder : Binder} (ha : allBlank a = true)
      (hv : Binds v binder) : HasBody (.openIterator iterable binder) ('~' :: (a ++ iterable ++ v))
  | closeIterator {a : Text} (ha : allBlank a = true) : HasBody .closeIterator ('~' :: a)

/-- What stands in a template for a token. A directive goes on to the first closing braces, a
comment to its first end, and a closing tag to the first angle bracket. -/
inductive Spells : Token → Text → Prop where
  | text (v : Text) : Spells (.text v) v
  | comment {v : Text} (hv : ¬ ['-', '-', '>'] <:+: v ++ ['-', '-']) :
      Spells (.comment v) (['<', '!', '-', '-'] ++ v ++ ['-', '-', '>'])
  | openTag (name : Text) : Spells (.openTag name) ('<' :: name)
  | stopAttributes : Spells .stopAttributes ['>']
  | closeTag {name a b : Text} (ha : allBlank a = true) (hb : allBlank b = true)
      (hn : '>' ∉ a ++ name ++ b) :
      Spells (.closeTag name) (['<', '/'] ++ (a ++ name ++ b) ++ ['>'])
  | openAttribute (name : Text) : Spells (.openAttribute name) name
  | closeAttribute : Spells .closeAttribute ['\x22']
  | directive {t : Token} {body : Text} (ht : t.HasBody body)
      (hb : ¬ ['}', '}'] <:+: body ++ ['}']) : Spells t (braced body)

end Token

/-- What stands for no token: blanks in a tag, what stands between the name of an attribute and its
value, and the closing tag of a void element. -/
inductive Skipped : Text → Prop where
  | blanks {w : Text} (hw : allBlank w = true) : Skipped w
  | equals {a b : Text} (ha : allBlank a = true) (hb : allBlank b = true) :
      Skipped (a ++ ['='] ++ b ++ ['\x22'])
  | voidTag {name a b : Text} (ha : allBlank a = true) (hb : allBlank b = true)
      (hn : isVoid name = true) : Skipped (['<', '/'] ++ (a ++ name ++ b) ++ ['>'])

/-- The events stand one after another in a text that begins at `pos`, up to the rest of it. -/
inductive Laid : Nat → Text → List Event → Text → Prop where
  | nil (pos : Nat) (rest : Text) : Laid pos rest [] rest
  | gap {pos : Nat} {w text rest : Text} {es : List Event} (hw : Skipped w)
      (h : Laid (pos + w.length) text es rest) : Laid pos (w ++ text) es rest
  | event {pos : Nat} {w text rest : Text} {t : Token} {es : List Event} (ht : t.Spells w)
      (h : Laid (pos + w.length) text es rest) : Laid pos (w ++ text) (⟨pos, t⟩ :: es) rest
  /-- An attribute without a value ends where its name ends. -/
  | flag {pos : Nat} {name text rest : Text} {es : List Event}
      (h : Laid (pos + name.length) text es rest) :
      Laid pos (name ++ text)
        (⟨pos, .openAttribute name⟩ :: ⟨pos + name.length, .closeAttribute⟩ :: es) rest
  /-- The end of a tag closes a void element, and any element if a slash stands in it. -/
  | closed {pos : Nat} {w tag text rest : Text} {es : List Event}
      (hw : (w = ['>'] ∧ isVoid tag = true) ∨ w = ['/', '>'])
      (h : Laid (pos + w.length) text es rest) :
      Laid pos (w ++ text) (⟨pos, .stopAttributes⟩ :: ⟨pos, .closeTag tag⟩ :: es) rest

/-! ## Order -/

/-- The positions of the events lie in a text that begins at `pos`, or at its end. -/
def Within (pos : Nat) (text : Text) (es : List Event) : Prop :=
  ∀ e ∈ es, pos ≤ e.position ∧ e.position ≤ pos + text.length

section Order

variable {pos : Nat} {text rest : Text} {es : List Event}

theorem Within.append {w : Text} (h : Within (pos + w.length) text es) :
    Within pos (w ++ text) es := by
  intro e he
  obtain ⟨hstart, hend⟩ := h e he
  rw [List.length_append]
  omega

theorem Within.cons {e : Event} (hstart : pos ≤ e.position)
    (hend : e.position ≤ pos + text.length) (h : Within pos text es) :
    Within pos text (e :: es) :=
  List.forall_mem_cons.mpr ⟨⟨hstart, hend⟩, h⟩

theorem Within.later {p : Nat} (h : Within pos text es) (hp : p ≤ pos) :
    ∀ e ∈ es, p ≤ e.position :=
  fun e he => Nat.le_trans hp (h e he).1

theorem Laid.within (h : Laid pos text es rest) : Within pos text es := by
  induction h with
  | nil => exact List.forall_mem_nil _
  | gap hw h ih => exact ih.append
  | event ht h ih => exact ih.append.cons (Nat.le_refl _) (Nat.le_add_right _ _)
  | @flag pos name text rest es h ih =>
    have hname : pos + name.length ≤ pos + (name ++ text).length := by
      rw [List.length_append]
      omega
    exact (ih.append.cons (Nat.le_add_right _ _) hname).cons (Nat.le_refl _) (Nat.le_add_right _ _)
  | closed hw h ih =>
    exact (ih.append.cons (Nat.le_refl _) (Nat.le_add_right _ _)).cons (Nat.le_refl _)
      (Nat.le_add_right _ _)

theorem Laid.pairwise (h : Laid pos text es rest) :
    es.Pairwise fun e f => e.position ≤ f.position := by
  induction h with
  | nil => exact .nil
  | gap hw h ih => exact ih
  | event ht h ih => exact .cons (h.within.later (Nat.le_add_right _ _)) ih
  | flag h ih =>
    refine .cons (List.forall_mem_cons.mpr ⟨Nat.le_add_right _ _, ?_⟩)
      (.cons (h.within.later (Nat.le_refl _)) ih)
    exact h.within.later (Nat.le_add_right _ _)
  | closed hw h ih =>
    have hlater := h.within.later (Nat.le_add_right _ _)
    exact .cons (List.forall_mem_cons.mpr ⟨Nat.le_refl _, hlater⟩) (.cons hlater ih)

end Order

/-! ## Directives -/

theorem hasBody_of_iteration? {t : Text} {tok : Token} (h : iteration? t = some tok) :
    tok.HasBody ('~' :: t) := by
  obtain ⟨a, ha, ht⟩ := exists_eq_append_trimStart t
  unfold iteration? at h
  split at h
  · next hnil =>
    cases h
    exact .closeIterator (trimStart_eq_nil_iff.mp hnil)
  · next c cs hcs =>
    rw [hcs] at ht
    split at h
    · next iterable binder hh =>
      cases h
      obtain ⟨-, v, hv, hbinds, -⟩ := header?_sound hh
      rw [ht, hv, ← List.append_assoc]
      exact .openIterator ha hbinds
    · split at h
      · next blank binder hblank hbinder =>
        cases h
        -- The iterable is the last of the blanks in front.
        obtain ⟨front, hfront⟩ := List.getLast?_eq_some_iff.mp hblank
        have hsplit : t = front ++ [blank] ++ (c :: cs) := by
          rw [← hfront, ← hcs]
          exact List.takeWhile_append_dropWhile.symm
        have hb : allBlank (front ++ [blank]) = true := by
          rw [← hfront]
          exact List.all_takeWhile
        rw [allBlank_append, Bool.and_eq_true] at hb
        rw [hsplit]
        exact .openIterator hb.1 (binds_of_binder? hbinder)
      · cases h

/-- A source stands in the body of its directive without the blanks around it. -/
theorem hasBody_trim {mk : Text → Token} (front source : Text)
    (h : ∀ {s a b : Text}, allBlank a = true → allBlank b = true →
      (mk s).HasBody (front ++ (a ++ s ++ b))) : (mk (trim source)).HasBody (front ++ source) := by
  obtain ⟨a, b, ha, hb, hs⟩ := exists_eq_append_trim_append source
  have hbody := h (s := trim source) ha hb
  rwa [← hs] at hbody

theorem hasBody_of_token {body : Text} {tok : Token} (h : Directive.token body = .ok tok) :
    tok.HasBody body := by
  unfold Directive.token at h
  split at h
  · next source =>
    split at h
    · cases h
    · cases h
      exact hasBody_trim ['='] source .interpolate
  · next source =>
    split at h
    · cases h
    · cases h
      exact hasBody_trim ['!'] source .encode
  · next test =>
    cases h
    split
    · next hb => exact .otherwise hb
    · exact hasBody_trim ['?', '?'] test .elseIf
  · next test _ =>
    cases h
    split
    · next hb => exact .closeConditional hb
    · exact hasBody_trim ['?'] test .openConditional
  · next header =>
    split at h
    · next tok' hi =>
      cases h
      exact hasBody_of_iteration? hi
    · cases h
  · split at h
    · cases h
    · cases h
      exact hasBody_trim [] body .evaluate

/-! ## Steps -/

/-- The events are laid out in `w`, whatever follows it. -/
def Gives (pos : Nat) (w : Text) (events : List Event) : Prop :=
  ∀ text es rest, Laid (pos + w.length) text es rest →
    Laid pos (w ++ text) (events ++ es) rest

theorem gives_nil (pos : Nat) : Gives pos [] [] := fun _ _ _ h => h

theorem gives_gap {w : Text} (pos : Nat) (hw : Skipped w) : Gives pos w [] :=
  fun _ _ _ h => .gap hw h

theorem gives_event {t : Token} {w : Text} (pos : Nat) (ht : t.Spells w) :
    Gives pos w [⟨pos, t⟩] := fun _ _ _ h => .event ht h

theorem Gives.append {pos : Nat} {w w' : Text} {es es' : List Event} (h : Gives pos w es)
    (h' : Gives (pos + w.length) w' es') : Gives pos (w ++ w') (es ++ es') := by
  intro text fs rest hlaid
  rw [List.append_assoc, List.append_assoc]
  refine h _ _ _ (h' _ _ _ ?_)
  rwa [List.length_append, ← Nat.add_assoc] at hlaid

/-- The positions at which the tag and the attribute around a region begin. -/
def Region.marks : Region → List Nat
  | .content => []
  | .attributes _ tagAt => [tagAt]
  | .value _ tagAt nameAt => [tagAt, nameAt]

/-- A step from a region accounts for the text that is left at `pos`: it takes a beginning in which
its events are laid out, and what it reports lies in the text. -/
def Scan.Step.Accounts (region : Region) (pos : Nat) (text : Text) : Scan.Step → Prop
  | .advance events region' more =>
    (∃ w rest, text = w ++ rest ∧ w.length = more + 1 ∧ Gives pos w events) ∧
      ∀ m ∈ region'.marks, m ∈ region.marks ∨ m = pos
  | .fail events error =>
    (∃ w rest, text = w ++ rest ∧ Gives pos w events) ∧ error.position ≤ pos + text.length

namespace Scan

theorem accounts_fail (region : Region) (pos : Nat) (text : Text) (fault : LexFault) :
    (Step.fail [] ⟨fault, pos⟩).Accounts region pos text :=
  ⟨⟨[], text, rfl, gives_nil pos⟩, Nat.le_add_right _ _⟩

theorem directive_accounts (region : Region) (pos : Nat) (rest : Text) :
    (directive region pos rest).Accounts region pos ('{' :: '{' :: rest) := by
  unfold directive
  split
  · exact accounts_fail ..
  · next body after hcut =>
    obtain ⟨hrest, hclosed⟩ := cut?_sound (by simp) hcut
    split
    · exact accounts_fail ..
    · next t ht =>
      refine ⟨⟨braced body, after, ?_, ?_, ?_⟩, fun m hm => .inl hm⟩
      · rw [hrest]
        simp [braced]
      · simp [braced]
      · exact gives_event pos (.directive (hasBody_of_token ht) hclosed)

theorem literal_accounts (region : Region) (stop : Char) (pos : Nat) (c : Char) (cs : Text) :
    (literal region stop pos c cs).Accounts region pos (c :: cs) := by
  refine ⟨⟨c :: literalRun stop cs, cs.drop (literalRun stop cs).length, ?_, rfl, ?_⟩,
    fun m hm => .inl hm⟩
  · rw [List.cons_append, literalRun_append_drop]
  · exact gives_event pos (.text _)

theorem closingTag_accounts (pos : Nat) (rest : Text) :
    (closingTag pos rest).Accounts .content pos ('<' :: '/' :: rest) := by
  unfold closingTag
  split
  · exact accounts_fail ..
  · next inside after hcut =>
    obtain ⟨hrest, hclosed⟩ := cut?_sound (by simp) hcut
    obtain ⟨a, b, ha, hb, hs⟩ := exists_eq_append_trim_append inside
    have hname : '>' ∉ a ++ trim inside ++ b := by
      rw [← hs]
      intro hm
      refine hclosed ?_
      rw [List.dropLast_singleton, List.append_nil]
      exact singleton_infix_of_mem hm
    dsimp only
    split
    · exact accounts_fail ..
    split
    · exact accounts_fail ..
    refine ⟨⟨['<', '/'] ++ (a ++ trim inside ++ b) ++ ['>'], after, ?_, ?_, ?_⟩,
      List.forall_mem_nil _⟩
    · rw [← hs, hrest]
      simp
    · rw [← hs]
      simp
    · split
      · next hv => exact gives_gap pos (.voidTag ha hb hv)
      · exact gives_event pos (.closeTag ha hb hname)

theorem comment_accounts (pos : Nat) (rest : Text) :
    (comment pos rest).Accounts .content pos ('<' :: '!' :: '-' :: '-' :: rest) := by
  unfold comment
  split
  · exact accounts_fail ..
  · next value after hcut =>
    obtain ⟨hrest, hclosed⟩ := cut?_sound (by simp) hcut
    refine ⟨⟨['<', '!', '-', '-'] ++ value ++ ['-', '-', '>'], after, ?_, ?_, ?_⟩,
      List.forall_mem_nil _⟩
    · rw [hrest]
      simp
    · simp
    · exact gives_event pos (.comment hclosed)

theorem openingTag_accounts (pos : Nat) (rest : Text) :
    (openingTag pos rest).Accounts .content pos ('<' :: rest) := by
  unfold openingTag
  dsimp only
  split
  · exact accounts_fail ..
  split
  · exact accounts_fail ..
  split
  · exact accounts_fail ..
  refine ⟨⟨'<' :: rest.takeWhile isTagChar, rest.dropWhile isTagChar, ?_, rfl, ?_⟩, ?_⟩
  · rw [List.cons_append, List.takeWhile_append_dropWhile]
  · exact gives_event pos (.openTag _)
  · exact fun m hm => .inr (List.mem_singleton.mp hm)

theorem namedAttribute_accounts (tag : Text) (tagAt pos : Nat) (c : Char) (cs : Text) :
    (namedAttribute tag tagAt pos c cs).Accounts (.attributes tag tagAt) pos (c :: cs) := by
  have hname : c :: cs = (c :: cs.takeWhile isAttributeChar) ++ cs.dropWhile isAttributeChar := by
    rw [List.cons_append, List.takeWhile_append_dropWhile]
  unfold namedAttribute
  dsimp only
  generalize cs.takeWhile isAttributeChar = more at *
  generalize cs.dropWhile isAttributeChar = rest at *
  split
  · next after hafter =>
    have hrest : rest = rest.takeWhile isBlank ++ ('=' :: after) := by
      rw [← hafter]
      exact List.takeWhile_append_dropWhile.symm
    have hblanks : allBlank (rest.takeWhile isBlank) = true := List.all_takeWhile
    generalize rest.takeWhile isBlank = blanks at *
    have hopened := gives_event pos (.openAttribute (c :: more))
    split
    · next inside hinside =>
      have hquote : after = after.takeWhile isBlank ++ ('\x22' :: inside) := by
        rw [← hinside]
        exact List.takeWhile_append_dropWhile.symm
      have hblanks' : allBlank (after.takeWhile isBlank) = true := List.all_takeWhile
      generalize after.takeWhile isBlank = blanks' at *
      refine ⟨⟨(c :: more) ++ (blanks ++ ['='] ++ blanks' ++ ['\x22']), inside, ?_, ?_, ?_⟩, ?_⟩
      · rw [hname, hrest, hquote]
        simp
      · simp only [List.length_append, List.length_cons, List.length_nil]
        omega
      · have hequals := hopened.append (gives_gap _ (.equals hblanks hblanks'))
        split
        · -- The empty text stands behind the opening quote.
          have hat : pos + (c :: more).length + (blanks.length + blanks'.length) + 1 + 1 =
              pos + ((c :: more) ++ (blanks ++ ['='] ++ blanks' ++ ['\x22'])).length := by
            simp only [List.length_append, List.length_cons, List.length_nil]
            omega
          have hempty := hequals.append (gives_event _ (.text []))
          rw [List.append_nil] at hempty
          rw [hat]
          exact hempty
        · exact hequals
      · exact fun m hm => (List.mem_cons.mp hm).imp List.mem_singleton.mpr List.mem_singleton.mp
    · refine ⟨⟨c :: more, rest, hname, hopened⟩, ?_⟩
      rw [hname, hrest]
      have hle := (List.takeWhile_sublist isBlank (l := after)).length_le
      simp only [List.length_append, List.length_cons]
      omega
  · refine ⟨⟨c :: more, rest, hname, rfl, fun _ _ _ h => .flag h⟩, fun m hm => .inl hm⟩

theorem attributesStep_accounts (tag : Text) (tagAt pos : Nat) (c : Char) (cs : Text) :
    (attributesStep tag tagAt pos c cs).Accounts (.attributes tag tagAt) pos (c :: cs) := by
  unfold attributesStep
  split
  · exact directive_accounts ..
  · refine ⟨⟨['>'], cs, rfl, rfl, ?_⟩, List.forall_mem_nil _⟩
    split
    · next hv => exact fun _ _ _ h => .closed (.inl ⟨rfl, hv⟩) h
    · exact gives_event pos .stopAttributes
  · next rest =>
    refine ⟨⟨['/', '>'], rest, rfl, rfl, ?_⟩, List.forall_mem_nil _⟩
    exact fun _ _ _ h => .closed (.inr rfl) h
  · split
    · next hc =>
      refine ⟨⟨c :: cs.takeWhile isBlank, cs.dropWhile isBlank, ?_, rfl,
        gives_gap pos (.blanks (allBlank_run hc cs))⟩, fun m hm => .inl hm⟩
      rw [List.cons_append, List.takeWhile_append_dropWhile]
    · split
      · exact namedAttribute_accounts ..
      · exact accounts_fail ..

theorem contentStep_accounts (pos : Nat) (c : Char) (cs : Text) :
    (contentStep pos c cs).Accounts .content pos (c :: cs) := by
  unfold contentStep
  split
  · exact directive_accounts ..
  · exact closingTag_accounts ..
  · exact comment_accounts ..
  · exact openingTag_accounts ..
  · exact literal_accounts ..

theorem valueStep_accounts (tag : Text) (tagAt nameAt pos : Nat) (c : Char) (cs : Text) :
    (valueStep tag tagAt nameAt pos c cs).Accounts (.value tag tagAt nameAt) pos (c :: cs) := by
  unfold valueStep
  split
  · exact directive_accounts ..
  · refine ⟨⟨['\x22'], cs, rfl, rfl, gives_event pos .closeAttribute⟩, fun m hm => .inl ?_⟩
    exact List.mem_cons.mpr (.inl (List.mem_singleton.mp hm))
  · exact literal_accounts ..

theorem accounts_of_step {region : Region} {pos : Nat} {c : Char} {cs : Text} {s : Step}
    (hs : step pos c cs region = s) : s.Accounts region pos (c :: cs) := by
  subst hs
  cases region with
  | content => exact contentStep_accounts ..
  | attributes => exact attributesStep_accounts ..
  | value => exact valueStep_accounts ..

end Scan

/-! ## Runs -/

/-- Where the scanner is, and the text that is left there. -/
structure Cursor where
  region : Region
  position : Nat
  rest : Text

namespace Cursor

/-- A number of steps from one place to another, with their events. -/
inductive Runs : Nat → Cursor → List Event → Cursor → Prop where
  | refl (k : Cursor) : Runs 0 k [] k
  | step {n : Nat} {region region' : Region} {pos more : Nat} {c : Char} {cs : Text}
      {events es : List Event} {k : Cursor}
      (hs : Scan.step pos c cs region = .advance events region' more)
      (h : Runs n ⟨region', pos + more + 1, cs.drop more⟩ es k) :
      Runs (n + 1) ⟨region, pos, c :: cs⟩ (events ++ es) k

/-- The scanner stops: at the end of the text, or with a fault in front of more of it. -/
inductive Ends : Cursor → List Event → Option LexError → Prop where
  | finish (region : Region) (pos : Nat) : Ends ⟨region, pos, []⟩ [] (Scan.unfinished? region)
  | fault {region : Region} {pos : Nat} {c : Char} {cs : Text} {events : List Event}
      {error : LexError} (hs : Scan.step pos c cs region = .fail events error) :
      Ends ⟨region, pos, c :: cs⟩ events (some error)

/-- Every scan is a run that ends, with no more steps than characters. -/
theorem exists_runs (region : Region) (pos : Nat) (text : Text) :
    ∃ n es k last, n ≤ text.length ∧ Runs n ⟨region, pos, text⟩ es k ∧
      k.Ends last (scanFrom region pos text).error ∧
      (scanFrom region pos text).events = es ++ last := by
  fun_induction scanFrom region pos text with
  | case1 region pos => exact ⟨0, [], _, [], Nat.le_refl _, .refl _, .finish region pos, rfl⟩
  | case2 region pos c cs events error hs =>
    exact ⟨0, [], _, events, Nat.zero_le _, .refl _, .fault hs, rfl⟩
  | case3 region pos c cs events region' more hs rest ih =>
    obtain ⟨n, es, k, last, hn, hrun, hend, he⟩ := ih
    refine ⟨n + 1, events ++ es, k, last, ?_, .step hs hrun, hend, ?_⟩
    · rw [List.length_drop] at hn
      rw [List.length_cons]
      omega
    · show events ++ rest.events = _
      rw [he, List.append_assoc]

/-- The marks of the region lie behind the cursor. -/
def Marked (k : Cursor) : Prop := ∀ m ∈ k.region.marks, m ≤ k.position

theorem exists_taken {region region' : Region} {pos more : Nat} {c : Char} {cs : Text}
    {events : List Event} (hs : Scan.step pos c cs region = .advance events region' more) :
    ∃ w, c :: cs = w ++ cs.drop more ∧ w.length = more + 1 ∧ Gives pos w events := by
  obtain ⟨⟨w, rest, ht, hw, hgives⟩, -⟩ := Scan.accounts_of_step hs
  have hrest : cs.drop more = rest := by
    have hdrop := congrArg (List.drop (more + 1)) ht
    rwa [List.drop_succ_cons, List.drop_left' hw] at hdrop
  exact ⟨w, by rw [hrest, ht], hw, hgives⟩

variable {n : Nat} {k k' : Cursor} {es : List Event}

theorem Runs.length (h : Runs n k es k') :
    k'.position + k'.rest.length = k.position + k.rest.length := by
  induction h with
  | refl => rfl
  | step hs h ih =>
    obtain ⟨w, ht, hw, -⟩ := exists_taken hs
    rw [ih, ht, List.length_append]
    dsimp only
    omega

theorem Runs.laid (h : Runs n k es k') {fs : List Event} {rest : Text}
    (hlast : Laid k'.position k'.rest fs rest) : Laid k.position k.rest (es ++ fs) rest := by
  induction h with
  | refl => exact hlast
  | step hs h ih =>
    obtain ⟨w, ht, hw, hgives⟩ := exists_taken hs
    rw [List.append_assoc, ht]
    refine hgives _ _ _ ?_
    rw [hw, ← Nat.add_assoc]
    exact ih hlast

theorem Runs.marked (h : Runs n k es k') (hk : k.Marked) : k'.Marked := by
  induction h with
  | refl => exact hk
  | @step n region region' pos more c cs events es k hs h ih =>
    refine ih fun m hm => ?_
    have hle : m ≤ pos := by
      rcases (Scan.accounts_of_step hs).2 m hm with hm | rfl
      · exact hk m hm
      · exact Nat.le_refl _
    dsimp only
    omega

theorem Ends.laid {error : Option LexError} (h : k.Ends es error) :
    ∃ rest, Laid k.position k.rest es rest ∧ (rest = [] ∨ error.isSome = true) := by
  cases h with
  | finish region pos => exact ⟨[], .nil pos [], .inl rfl⟩
  | @fault region pos c cs events error hs =>
    obtain ⟨⟨w, rest, ht, hgives⟩, -⟩ := Scan.accounts_of_step hs
    have hevents := hgives rest [] rest (.nil _ _)
    rw [List.append_nil, ← ht] at hevents
    exact ⟨rest, hevents, .inr rfl⟩

theorem Ends.error_le {error : Option LexError} (h : k.Ends es error) (hk : k.Marked) :
    ∀ e ∈ error, e.position ≤ k.position + k.rest.length := by
  cases h with
  | finish region pos =>
    intro e he
    refine Nat.le_trans (hk e.position ?_) (Nat.le_add_right _ _)
    cases region with
    | content => cases he
    | attributes =>
      cases he
      exact List.mem_singleton_self _
    | value =>
      cases he
      exact List.mem_cons_of_mem _ (List.mem_singleton_self _)
  | @fault region pos c cs events error hs =>
    rintro e ⟨⟩
    exact (Scan.accounts_of_step hs).2

end Cursor

/-- The scanner stops on every text, after no more steps than the text has characters, at its end or
with a fault in it. Its events stand in the text one after another, and without a fault they and
what is skipped between them are the whole text. -/
theorem scan_laid (t : Text) :
    (∃ n es k last, n ≤ t.length ∧ Cursor.Runs n ⟨.content, 0, t⟩ es k ∧
      k.position + k.rest.length = t.length ∧ k.Ends last (scan t).error ∧
      (scan t).events = es ++ last) ∧
    (∀ e ∈ (scan t).error, e.position ≤ t.length) ∧
    ((scan t).events.Pairwise fun e f => e.position ≤ f.position) ∧
    (∀ e ∈ (scan t).events, e.position ≤ t.length) ∧
    ∃ rest, Laid 0 t (scan t).events rest ∧ (rest = [] ∨ (scan t).error.isSome = true) := by
  obtain ⟨n, es, k, last, hn, hrun, hend, he⟩ := Cursor.exists_runs .content 0 t
  have hlength : k.position + k.rest.length = t.length := by
    rw [hrun.length, Nat.zero_add]
  have hmarked : k.Marked := hrun.marked (List.forall_mem_nil _)
  obtain ⟨rest, hlast, hrest⟩ := hend.laid
  have hlaid : Laid 0 t (scan t).events rest := by
    unfold scan
    rw [he]
    exact hrun.laid hlast
  refine ⟨⟨n, es, k, last, hn, hrun, hlength, hend, he⟩, ?_, hlaid.pairwise, ?_, rest, hlaid,
    hrest⟩
  · rw [← hlength]
    exact hend.error_le hmarked
  · intro e hm
    have := (hlaid.within e hm).2
    omega

end Stencil
