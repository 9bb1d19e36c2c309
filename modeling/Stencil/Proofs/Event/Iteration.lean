import Stencil.Event.Scan
import Stencil.Proofs.Event.Header

/-!
# How the header of an iteration is split

A header can be split in many ways into blanks, an expression and a text that declares variables,
since the expression may itself begin with blanks and hold colons (`Splits`). The reader takes the
split with the most blanks in front, and of those with equally many the one with the shortest
expression (`Chosen`). There is at most one such split, and there is one if there is any.

The expression of the chosen split has no blank at its ends, or it is a single blank. Unless it is a
blank, the header can be written in one way only and is read again as it was.
-/

namespace Stencil.Directive

open Text

/-- A way to split what follows the `~` of an iteration. -/
structure Splits (r w iterable v : Text) (b : Binder) : Prop where
  text : r = w ++ iterable ++ v
  blank : allBlank w = true
  nonempty : iterable ≠ []
  binds : Binds v b

/-- The split with the longest blanks and then the shortest expression. -/
structure Chosen (r w iterable v : Text) (b : Binder) : Prop extends Splits r w iterable v b where
  first : ∀ {w' iterable' v' : Text} {b' : Binder}, Splits r w' iterable' v' b' →
    w'.length < w.length ∨ w'.length = w.length ∧ iterable.length ≤ iterable'.length

variable {r w w' iterable iterable' v v' : Text} {b b' : Binder}

/-! ## Uniqueness -/

theorem Binds.unique (h : Binds v b) (h' : Binds v b') : b = b' := by
  have hb := binder?_of_binds h
  rw [binder?_of_binds h'] at hb
  exact (Option.some.inj hb).symm

theorem Chosen.unique (h : Chosen r w iterable v b) (h' : Chosen r w' iterable' v' b') :
    iterable = iterable' ∧ b = b' := by
  have hw : w.length = w'.length := by
    rcases h.first h'.toSplits with hlt | ⟨heq, -⟩
    · rcases h'.first h.toSplits with hlt' | ⟨heq, -⟩
      · omega
      · exact heq
    · exact heq.symm
  have hlength : iterable.length = iterable'.length := by
    rcases h.first h'.toSplits with hlt | ⟨-, hle⟩
    · omega
    · rcases h'.first h.toSplits with hlt | ⟨-, hle'⟩
      · omega
      · omega
  have htext := h.text.symm.trans h'.text
  rw [List.append_assoc, List.append_assoc] at htext
  obtain ⟨-, hrest⟩ := List.append_inj htext hw
  obtain ⟨hiterable, hv⟩ := List.append_inj hrest hlength
  exact ⟨hiterable, h.binds.unique (hv ▸ h'.binds)⟩

/-! ## Blanks in front -/

/-- What stands before and after the blanks at the front of a text. -/
structure Fronted (r a t : Text) : Prop where
  text : r = a ++ t
  blank : allBlank a = true
  visible : ∀ c ∈ t.head?, isBlank c = false

theorem fronted_trimStart (r : Text) : Fronted r (r.takeWhile isBlank) (trimStart r) where
  text := List.takeWhile_append_dropWhile.symm
  blank := List.all_takeWhile
  visible := head_trimStart r

variable {a t : Text}

/-- The blanks of a split are some of those in front, and the others begin its expression. -/
theorem Fronted.exists_of_splits (hf : Fronted r a t) (h : Splits r w iterable v b) :
    ∃ y, a = w ++ y ∧ iterable ++ v = y ++ t := by
  have htext := h.text.symm.trans hf.text
  rw [List.append_assoc] at htext
  rcases List.append_eq_append_iff.mp htext with ⟨y, ha, ht⟩ | ⟨y, hw, ht⟩
  · exact ⟨y, ha, ht⟩
  · cases y with
    | nil => exact ⟨[], by simp [hw], by simp [ht]⟩
    | cons c y =>
      have hblank : isBlank c = true :=
        isBlank_of_mem h.blank (hw ▸ List.mem_append_right a List.mem_cons_self)
      rw [hf.visible c (by rw [ht]; rfl)] at hblank
      cases hblank

/-- A split that takes all blanks splits what follows them. -/
theorem Fronted.header?_ne_none (hf : Fronted r a t) (h : Splits r w iterable v b)
    (hlength : a.length ≤ w.length) : iterable ++ v = t ∧ header? t ≠ none := by
  obtain ⟨y, ha, ht⟩ := hf.exists_of_splits h
  have hy : y = [] := by
    rw [ha, List.length_append] at hlength
    exact List.eq_nil_of_length_eq_zero (by omega)
  rw [hy, List.nil_append] at ht
  exact ⟨ht, ht ▸ Directive.header?_ne_none h.nonempty h.binds⟩

/-- If what follows the blanks cannot be split, it declares the variables itself. -/
theorem Fronted.binds_of_header? (hf : Fronted r a t) (h : Splits r w iterable v b)
    (hnone : header? t = none) : Binds t b ∧ a ≠ [] := by
  obtain ⟨y, ha, ht⟩ := hf.exists_of_splits h
  rcases List.append_eq_append_iff.mp ht with ⟨z, hy, hv⟩ | ⟨z, hiterable, ht⟩
  · have hz : allBlank z = true := by
      have hblank := hf.blank
      rw [ha, hy, allBlank_append, allBlank_append, Bool.and_eq_true, Bool.and_eq_true] at hblank
      exact hblank.2.2
    refine ⟨binder?_eq_some_iff.mp ?_, ?_⟩
    · rw [← binder?_blank_append hz, ← hv]
      exact binder?_of_binds h.binds
    · rw [ha, hy]
      simp [h.nonempty]
  · cases z with
    | nil =>
      rw [List.append_nil] at hiterable
      exact ⟨ht ▸ h.binds, by rw [ha, ← hiterable]; simp [h.nonempty]⟩
    | cons c z =>
      rw [ht] at hnone
      exact absurd hnone (Directive.header?_ne_none (List.cons_ne_nil c z) h.binds)

/-! ## Reading -/

/-- An opened iteration has been read behind all blanks in front, or with the last of them for its
expression. -/
theorem iteration?_eq_open_iff :
    iteration? r = some (.openIterator iterable b) ↔
      header? (trimStart r) = some (iterable, b) ∨
        header? (trimStart r) = none ∧ Binds (trimStart r) b ∧
          ∃ blank, (r.takeWhile isBlank).getLast? = some blank ∧ iterable = [blank] := by
  rw [← binder?_eq_some_iff]
  unfold iteration?
  cases trimStart r with
  | nil =>
    have hnil : binder? [] = none := rfl
    simp [header?, hnil]
  | cons c cs =>
    dsimp only
    cases header? (c :: cs) with
    | some found => simp [Prod.ext_iff]
    | none =>
      cases (r.takeWhile isBlank).getLast? with
      | none => simp
      | some blank =>
        cases binder? (c :: cs) with
        | none => simp
        | some found => simp [eq_comm, and_comm]

theorem iteration?_eq_close_iff : iteration? r = some .closeIterator ↔ allBlank r = true := by
  rw [← trimStart_eq_nil_iff]
  unfold iteration?
  cases trimStart r with
  | nil => simp
  | cons c cs =>
    refine iff_of_false ?_ (List.cons_ne_nil c cs)
    dsimp only
    split
    · exact nofun
    · split
      · exact nofun
      · exact nofun

/-- What is read of an iteration is one of its two directives. -/
theorem iteration?_cases {token : Token} (h : iteration? r = some token) :
    token = .closeIterator ∨ ∃ iterable b, token = .openIterator iterable b := by
  unfold iteration? at h
  split at h
  · exact .inl (Option.some.inj h).symm
  · split at h
    · exact .inr ⟨_, _, (Option.some.inj h).symm⟩
    · split at h
      · exact .inr ⟨_, _, (Option.some.inj h).symm⟩
      · cases h

/-- The reader takes the chosen split. -/
theorem exists_chosen_of_iteration? (h : iteration? r = some (.openIterator iterable b)) :
    ∃ w v, Chosen r w iterable v b := by
  have hf := fronted_trimStart r
  rcases iteration?_eq_open_iff.mp h with hheader | ⟨hnone, hbinds, blank, hlast, rfl⟩
  · obtain ⟨hne, v, ht, hv, hshort⟩ := header?_sound hheader
    refine ⟨r.takeWhile isBlank, v, ⟨⟨?_, hf.blank, hne, hv⟩, ?_⟩⟩
    · rw [List.append_assoc, ← ht]
      exact hf.text
    · intro w' iterable' v' b' h'
      rcases Nat.lt_or_ge w'.length (r.takeWhile isBlank).length with hlt | hge
      · exact .inl hlt
      · obtain ⟨y, ha, -⟩ := hf.exists_of_splits h'
        have hw := congrArg List.length ha
        rw [List.length_append] at hw
        refine .inr ⟨by omega, Nat.le_of_not_lt fun hlt => ?_⟩
        obtain ⟨ht', -⟩ := hf.header?_ne_none h' hge
        exact hshort iterable' v' ht'.symm h'.nonempty hlt b' h'.binds
  · obtain ⟨w, hw⟩ := List.getLast?_eq_some_iff.mp hlast
    have hblank := hf.blank
    rw [hw, allBlank_append, Bool.and_eq_true] at hblank
    refine ⟨w, trimStart r, ⟨⟨?_, hblank.1, List.cons_ne_nil blank [], hbinds⟩, ?_⟩⟩
    · rw [← hw]
      exact hf.text
    · intro w' iterable' v' b' h'
      have hlt : w'.length < (r.takeWhile isBlank).length :=
        Nat.lt_of_not_le fun hge => (hf.header?_ne_none h' hge).2 hnone
      rw [hw, List.length_append, List.length_singleton] at hlt
      have hpos := List.length_pos_iff.mpr h'.nonempty
      rw [List.length_singleton]
      omega

/-- A header that can be split is read. -/
theorem exists_iteration?_of_splits (h : Splits r w iterable v b) :
    ∃ iterable' b', iteration? r = some (.openIterator iterable' b') := by
  have hf := fronted_trimStart r
  cases hheader : header? (trimStart r) with
  | some found => exact ⟨found.1, found.2, iteration?_eq_open_iff.mpr (.inl hheader)⟩
  | none =>
    obtain ⟨hbinds, hne⟩ := hf.binds_of_header? h hheader
    have hlast := List.getLast?_eq_some_getLast hne
    exact ⟨_, b, iteration?_eq_open_iff.mpr (.inr ⟨hheader, hbinds, _, hlast, rfl⟩)⟩

theorem iteration?_eq_open_iff_chosen :
    iteration? r = some (.openIterator iterable b) ↔ ∃ w v, Chosen r w iterable v b := by
  refine ⟨exists_chosen_of_iteration?, ?_⟩
  rintro ⟨w, v, h⟩
  obtain ⟨iterable', b', hread⟩ := exists_iteration?_of_splits h.toSplits
  obtain ⟨w', v', h'⟩ := exists_chosen_of_iteration? hread
  obtain ⟨rfl, rfl⟩ := h.unique h'
  exact hread

theorem iteration?_eq_none_iff :
    iteration? r = none ↔
      allBlank r = false ∧ ∀ w iterable v b, ¬ Splits r w iterable v b := by
  constructor
  · intro hnone
    constructor
    · rw [Bool.eq_false_iff, ne_eq, ← iteration?_eq_close_iff, hnone]
      exact nofun
    · intro w iterable v b h
      obtain ⟨iterable', b', hread⟩ := exists_iteration?_of_splits h
      rw [hnone] at hread
      cases hread
  · rintro ⟨hblank, hsplits⟩
    cases hread : iteration? r with
    | none => rfl
    | some token =>
      rcases iteration?_cases hread with rfl | ⟨iterable, b, rfl⟩
      · rw [iteration?_eq_close_iff.mp hread] at hblank
        cases hblank
      · obtain ⟨w, v, h⟩ := exists_chosen_of_iteration? hread
        exact absurd h.toSplits (hsplits w iterable v b)

/-! ## The chosen expression -/

/-- The chosen split is found behind all blanks in front, or its expression is a blank. -/
theorem Chosen.header_or_blank (h : Chosen r w iterable v b) :
    header? (trimStart r) = some (iterable, b) ∨ ∃ c, isBlank c = true ∧ iterable = [c] := by
  have hread := iteration?_eq_open_iff_chosen.mpr ⟨w, v, h⟩
  rcases iteration?_eq_open_iff.mp hread with hheader | ⟨-, -, blank, hlast, hiterable⟩
  · exact .inl hheader
  · have hblank := (fronted_trimStart r).blank
    exact .inr ⟨blank, isBlank_of_mem hblank (List.mem_of_getLast? hlast), hiterable⟩

/-- The chosen expression has no blank at its ends, or it is a blank. -/
theorem Chosen.trimmed_or_blank (h : Chosen r w iterable v b) :
    Trimmed iterable ∨ ∃ c, isBlank c = true ∧ iterable = [c] :=
  h.header_or_blank.imp_left fun hheader => header?_trimmed hheader (head_trimStart r)

/-- Unless its expression is a blank, a header is read again as it was when it is written. -/
theorem Chosen.iteration?_bindingText (h : Chosen r w iterable v b)
    (hvisible : ∀ c, isBlank c = true → iterable ≠ [c]) :
    iteration? (' ' :: iterable ++ bindingText b) = some (.openIterator iterable b) := by
  have hnames := h.binds.isName
  rcases h.header_or_blank with hheader | ⟨c, hc, hiterable⟩
  · have htrimmed := header?_trimmed hheader (head_trimStart r)
    refine iteration?_whole h.nonempty htrimmed hnames.1 hnames.2 fun hindex => ?_
    obtain ⟨item, index⟩ := b
    obtain rfl : index = none := hindex
    exact header?_whole hheader
  · exact absurd hiterable (hvisible c hc)

/-! ## Directives -/

theorem token_tilde_eq_ok_iff {token : Token} :
    Directive.token ('~' :: r) = .ok token ↔ iteration? r = some token := by
  cases h : iteration? r <;> simp [Directive.token, h]

theorem token_tilde_eq_error_iff {fault : LexFault} :
    Directive.token ('~' :: r) = .error fault ↔
      fault = .malformedIteration ∧ iteration? r = none := by
  cases h : iteration? r <;> simp [Directive.token, h, eq_comm]

/-- In every region the scanner reads the body of a directive up to the first closing braces. -/
theorem step_of_body {rest body after : Text} (hbody : cut? ['}', '}'] rest = some (body, after))
    (region : Region) (pos : Nat) :
    (∀ token, Directive.token body = .ok token →
      Scan.step pos '{' ('{' :: rest) region =
        .advance [⟨pos, token⟩] region (body.length + 3)) ∧
    ∀ fault, Directive.token body = .error fault →
      Scan.step pos '{' ('{' :: rest) region = .fail [] ⟨fault, pos⟩ := by
  have hstep : Scan.step pos '{' ('{' :: rest) region = Scan.directive region pos rest := by
    cases region <;> rfl
  rw [hstep, Scan.directive]
  constructor
  · intro token htoken
    simp only [hbody, htoken]
  · intro fault hfault
    simp only [hbody, hfault]

/-- An iteration directive closes if nothing but blanks follows its `~`, and opens with what the
chosen split says if there is any; otherwise it is at fault. The scanner gives the event or the
fault at the place of the directive. The chosen expression has no blank at its ends or is a blank;
unless it is one, the directive is read again as it was when it is written. -/
theorem iteration_read_canonically (r : Text) :
    (Directive.token ('~' :: r) = .ok .closeIterator ↔ allBlank r = true) ∧
    (∀ iterable b, Directive.token ('~' :: r) = .ok (.openIterator iterable b) ↔
      ∃ w v, Chosen r w iterable v b) ∧
    (∀ fault, Directive.token ('~' :: r) = .error fault ↔ fault = .malformedIteration ∧
      allBlank r = false ∧ ∀ w iterable v b, ¬ Splits r w iterable v b) ∧
    (∀ w iterable v b, Chosen r w iterable v b →
      (Trimmed iterable ∨ ∃ c, isBlank c = true ∧ iterable = [c]) ∧
      ((∀ c, isBlank c = true → iterable ≠ [c]) →
        Directive.token ('~' :: ' ' :: iterable ++ bindingText b) =
          .ok (.openIterator iterable b))) ∧
    ∀ rest after region pos, cut? ['}', '}'] rest = some ('~' :: r, after) →
      (∀ token, Directive.token ('~' :: r) = .ok token →
        Scan.step pos '{' ('{' :: rest) region =
          .advance [⟨pos, token⟩] region (r.length + 4)) ∧
      ∀ fault, Directive.token ('~' :: r) = .error fault →
        Scan.step pos '{' ('{' :: rest) region = .fail [] ⟨fault, pos⟩ := by
  refine ⟨?_, fun iterable b => ?_, fun fault => ?_, fun w iterable v b h => ⟨?_, ?_⟩, ?_⟩
  · rw [token_tilde_eq_ok_iff, iteration?_eq_close_iff]
  · rw [token_tilde_eq_ok_iff, iteration?_eq_open_iff_chosen]
  · rw [token_tilde_eq_error_iff, iteration?_eq_none_iff]
  · exact h.trimmed_or_blank
  · intro hvisible
    exact token_tilde_eq_ok_iff.mpr (h.iteration?_bindingText hvisible)
  · intro rest after region pos hbody
    exact step_of_body hbody region pos

/-- Two blanks and two names: the first name is part of the expression. -/
theorem iteration_read_canonically_two_names :
    (∃ w v, Chosen [' ', ' ', ':', 'a', ':', 'b'] w [':', 'a'] v ⟨['b'], none⟩) ∧
      Directive.token ['~', ' ', ':', 'a', ' ', ':', 'b', ' '] =
        .ok (.openIterator [':', 'a'] ⟨['b'], none⟩) := by
  obtain ⟨-, hopen, -, hchosen, -⟩ :=
    iteration_read_canonically [' ', ' ', ':', 'a', ':', 'b']
  have hsplit := (hopen [':', 'a'] ⟨['b'], none⟩).mp rfl
  refine ⟨hsplit, ?_⟩
  obtain ⟨w, v, h⟩ := hsplit
  exact (hchosen w _ v _ h).2 fun c _ => nofun

end Stencil.Directive
