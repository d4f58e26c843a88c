import VolumeTunnel.Proofs.Yaml.Lines
import VolumeTunnel.Yaml.Token.Lexer

/-!
# The tokens of a written mapping

A mapping that is written with each entry in a line is read line by line. Between two lines the
lexer is at a place where a key may begin (`Lexer.AtLine`), with some collections open : the column
of the next line tells in which of them it is an entry (`Lexer.Before`, `Lexer.Within`).

A key takes two steps, since it becomes one at its colon (`Lexer.reaches_key`), and a value takes
one (`Lexer.step_value`). From these come the tokens of an entry, of all entries by induction, and
of the header of a mapping inside another one (`Lexer.reaches_entry`, `Lexer.reaches_entries`,
`Lexer.reaches_header`).

* `Outline.ofSource_of_writes` : the tokens of a written outline.
-/

namespace VolumeTunnel.Yaml

/-- The token of a text between double quotes or of a truth value. -/
def Datum.token : Datum → Token
  | text s => .scalar s false
  | flag b => .scalar (flagWord b) true

/-- The tokens of an entry. -/
def entryTokens (e : Text × Datum) : List Token :=
  [.key, .scalar e.1 true, .value, e.2.token]

/-- The tokens of a mapping that stands under a key. -/
def mappingTokens (key : Text) (es : List (Text × Datum)) : List Token :=
  .key :: .scalar key true :: .value :: .blockMappingStart :: (es.flatMap entryTokens ++ [.blockEnd])

/-- Whether the code point can begin a token. -/
def startsToken (c : CodePoint) : Bool :=
  c.isPrintableAscii && !isSpace c && c ≠ .char '#'

theorem startsToken_of_isWordChar {c : CodePoint} (h : isWordChar c) : startsToken c = true := by
  rw [startsToken, isPrintableAscii_of_isWordChar h, isSpace,
    decide_eq_false (ne_of_isWordChar h (by decide)),
    decide_eq_true (ne_of_isWordChar h (d := .char '#') (by decide))]
  rfl

theorem endsOr_imp {p q : CodePoint → Bool} (hpq : ∀ c, p c = true → q c = true) {t : Text}
    (h : endsOr p t) : endsOr q t = true := by
  cases t with
  | nil => rfl
  | cons c t => exact hpq c h

namespace Lexer

/-! ## Between tokens -/

theorem skipGap_spaces {rest : Text} (hrest : endsOr startsToken rest) (n : Nat) :
    skipGap false (spaces n ++ rest) = (false, rest) := by
  induction n with
  | zero =>
    cases rest with
    | nil => rfl
    | cons c t =>
      obtain ⟨hfirst, hhash⟩ := Bool.and_eq_true_iff.1 (show startsToken c = true from hrest)
      obtain ⟨hprint, hspace⟩ := Bool.and_eq_true_iff.1 hfirst
      have hspace : isSpace c = false := Bool.not_eq_eq_eq_not.1 hspace
      rw [show spaces 0 ++ c :: t = c :: t from rfl, skipGap, isBreak_of_isPrintableAscii hprint,
        if_neg Bool.false_ne_true, if_neg Bool.false_ne_true, hspace, if_neg Bool.false_ne_true,
        if_neg (of_decide_eq_true hhash)]
  | succ n ih => exact ih

theorem startsAs_byteOrderMark {rest : Text} (hrest : endsOr startsToken rest) (n : Nat) :
    startsAs (· = byteOrderMark) (spaces n ++ rest) = false := by
  cases n with
  | succ n => rfl
  | zero =>
    cases rest with
    | nil => rfl
    | cons c t =>
      refine decide_eq_false ?_
      rintro rfl
      exact absurd (show startsToken byteOrderMark = true from hrest) (by decide)

variable {rest t : Text} {index line column n m width w : Nat} {widths ws : List Nat} {allowed : Bool}
  {key : Option PossibleKey} {tokens ts : List Token}

/-- In its line, the next token is found after spaces. -/
theorem toToken_spaces (hrest : endsOr startsToken rest) :
    toToken ⟨⟨spaces n ++ rest, index, line, column⟩, width, widths, allowed, key, [], tokens⟩ =
      ⟨⟨rest, index + n, line, column + n⟩, width, widths, allowed, key, [], tokens⟩ := by
  have hmove : Cursor.moveTo ⟨spaces n ++ rest, index, line, column⟩ rest =
      ⟨rest, index + n, line, column + n⟩ := by
    rw [Cursor.moveTo_append rfl (isPrintableAscii_spaces n), length_spaces]
  rw [toToken]
  simp only [startsAs_byteOrderMark hrest, Bool.and_false, Bool.false_eq_true, if_false,
    skipGap_spaces hrest, moveTo, hmove, allowKey, Bool.false_and, Bool.or_false]

/-- After the end of a line, the next token is found in the next line, and it may be a key. -/
theorem toToken_nextLine (h : Margin t m rest) :
    toToken ⟨⟨.char '\n' :: t, index, line, column⟩, width, widths, allowed, key, [], tokens⟩ =
      ⟨⟨rest, index + 1 + m, line + 1, m⟩, width, widths, true, key, [], tokens⟩ := by
  obtain ⟨rfl, hrest⟩ := h
  have hskip := skipGap_spaces (endsOr_imp (fun _ => startsToken_of_isWordChar) hrest) m
  have hmove : Cursor.moveTo ⟨.char '\n' :: (spaces m ++ rest), index, line, column⟩ rest =
      ⟨rest, index + 1 + m, line + 1, m⟩ :=
    Cursor.moveTo_nextLine (w := []) rfl fun c hc => nomatch hc
  have hgap : skipGap false (.char '\n' :: (spaces m ++ rest)) = (true, rest) := by
    rw [skipGap, if_pos (by decide), hskip]
  rw [toToken]
  simp only [startsAs, show decide (CodePoint.char '\n' = byteOrderMark) = false from rfl,
    Bool.and_false, Bool.false_eq_true, if_false, hgap, moveTo, hmove, allowKey, inFlow,
    List.isEmpty_nil, Bool.not_true, Bool.not_false, Bool.and_true, Bool.or_true]

theorem closeAbove_of_le {most : Nat} (h : width ≤ most) (widths : List Nat) (tokens : List Token) :
    closeAbove most width widths tokens = (width, widths, tokens) := by
  cases widths with
  | nil => rfl
  | cons outer widths => rw [closeAbove, if_neg (Nat.not_lt.2 h)]

/-- Where no key is open, only collections end before a token. -/
theorem endBefore_of_none
    (hclose : closeAbove (column + 1) width widths tokens = (w, ws, ts)) :
    endBefore ⟨⟨rest, index, line, column⟩, width, widths, allowed, none, [], tokens⟩ =
      .ok ⟨⟨rest, index, line, column⟩, w, ws, allowed, none, [], ts⟩ := by
  simp only [endBefore, dropStale, refresh, List.mapM_nil, bind, Except.bind, pure, Except.pure,
    unwind, inFlow, List.isEmpty_nil, Bool.not_true, Bool.false_eq_true, if_false, hclose]

/-- A key stays open while it is live and no collection ends. -/
theorem endBefore_of_live {k : PossibleKey} (hline : k.line = line) (hindex : index - k.index ≤ 1024)
    (hwidth : width ≤ column + 1) :
    endBefore ⟨⟨rest, index, line, column⟩, width, widths, allowed, some k, [], tokens⟩ =
      .ok ⟨⟨rest, index, line, column⟩, width, widths, allowed, some k, [], tokens⟩ := by
  have hlive : isLive ⟨⟨rest, index, line, column⟩, width, widths, allowed, some k, [], tokens⟩ k =
      true := by
    rw [isLive, decide_eq_true hline, decide_eq_true hindex]
    rfl
  simp only [endBefore, dropStale, refresh, hlive, if_true, List.mapM_nil, bind, Except.bind, pure,
    Except.pure, unwind, inFlow, List.isEmpty_nil, Bool.not_true, Bool.false_eq_true, if_false,
    closeAbove_of_le hwidth]

/-! ## Steps -/

variable {l p q : Lexer} {c : CodePoint}

theorem step_of_readToken (hp : l.toToken.endBefore = .ok p) (hrest : p.cursor.rest = c :: t)
    (hq : p.readToken c t = .ok q) : l.step none = .ok (some q) := by
  simp only [step, lookAhead, hp, bind, Except.bind, pure, Except.pure]
  rw [hrest]
  simp only [hq, Except.mapError]

theorem step_of_end (hp : l.toToken.endBefore = .ok p) (hrest : p.cursor.rest = []) :
    l.step none = .ok none := by
  simp only [step, lookAhead, hp, bind, Except.bind, pure, Except.pure]
  rw [hrest]

theorem run_of_step (h : l.step none = .ok (some q)) (fuel : Nat) :
    run none (fuel + 1) l = run none fuel q := by
  rw [run, h]

/-- A word begins a plain scalar. -/
theorem readToken_of_isWordChar (hc : isWordChar c) (t : Text) :
    p.readToken c t = p.readPlain := by
  have hmark := isDocumentMark_cons (ne_of_isWordChar hc (d := .char '-') (by decide))
    (ne_of_isWordChar hc (by decide)) t
  have hreserved : isReserved c = false := by
    rw [isReserved, isGap_of_isWordChar hc, isOneOf_of_isWordChar hc (by rfl)]
    rfl
  have hstarts (inFlow : Bool) : startsPlain inFlow c t = true := by
    rw [startsPlain, hreserved]
    rfl
  rw [readToken.eq_def]
  simp only [hmark, Bool.and_false, Bool.false_eq_true, if_false, hstarts, if_true]
  split
  all_goals first
    | rfl
    | exact absurd hc (by decide)

/-! ## Keys -/

/-- A key is next, at a column of a line, and no other key is open. -/
structure AtLine (l : Lexer) (t : Text) : Prop where
  possibleKey : l.possibleKey = none
  outerKeys : l.outerKeys = []
  place : ∀ m rest, Margin t m rest → ∃ index line, l.toToken =
    ⟨⟨rest, index, line, m⟩, l.width, l.outerWidths, true, none, [], l.tokens⟩

theorem atLine_nextLine (t : Text) (index line column width : Nat) (widths : List Nat)
    (allowed : Bool) (tokens : List Token) :
    AtLine ⟨⟨.char '\n' :: t, index, line, column⟩, width, widths, allowed, none, [], tokens⟩ t :=
  ⟨rfl, rfl, fun _ _ h => ⟨_, _, toToken_nextLine h⟩⟩

theorem atLine_margin (h : Margin t m rest) (index line width : Nat) (widths : List Nat)
    (tokens : List Token) :
    AtLine ⟨⟨rest, index, line, m⟩, width, widths, true, none, [], tokens⟩ t := by
  refine ⟨rfl, rfl, fun m' rest' h' => ?_⟩
  obtain ⟨rfl, rfl⟩ := h.eq h'
  exact ⟨_, _, toToken_spaces (n := 0) (endsOr_imp (fun _ => startsToken_of_isWordChar) h.2)⟩

/-- The width, those around it and the tokens, once the mapping at a column is open. -/
def opened (n w : Nat) (ws : List Nat) (ts : List Token) : Nat × List Nat × List Token :=
  if w ≤ n then (n + 1, w :: ws, .blockMappingStart :: ts) else (w, ws, ts)

variable {name : Text}

theorem readToken_key (hname : IsWord name) (ht : gapAt t) (index line n w : Nat) (ws : List Nat)
    (ts : List Token) :
    ∃ c rest, name ++ .char ':' :: t = c :: rest ∧
      readToken ⟨⟨name ++ .char ':' :: t, index, line, n⟩, w, ws, true, none, [], ts⟩ c rest =
        .ok ⟨⟨.char ':' :: t, index + name.length, line, n + name.length⟩, w, ws, false,
          some ⟨ts.length, w = n + 1, index, line, n⟩, [], .scalar name true :: ts⟩ := by
  have hmove : Cursor.moveTo ⟨name ++ .char ':' :: t, index, line, n⟩ (.char ':' :: t) =
      ⟨.char ':' :: t, index + name.length, line, n + name.length⟩ :=
    Cursor.moveTo_append rfl fun c hc => isPrintableAscii_of_isWordChar (hname.letters c hc)
  obtain ⟨c, name', rfl⟩ := List.exists_cons_of_ne_nil hname.ne_nil
  refine ⟨c, name' ++ .char ':' :: t, rfl, ?_⟩
  rw [readToken_of_isWordChar (hname.letters c List.mem_cons_self), readPlain]
  simp only [saveKey, if_true, dropKey, bind, Except.bind, pure, Except.pure, inFlow,
    List.isEmpty_nil, Bool.not_true, Bool.not_false, Bool.true_and, Plain.read_key hname.letters ht,
    moveTo, hmove, allowKey, push]

theorem readToken_colon {k : Nat} (hk : 0 < k) (ht : gapAt t) (required : Bool)
    (hopened : opened n w ws ts = (width, widths, tokens)) :
    readToken ⟨⟨.char ':' :: t, index + k, line, n + k⟩, w, ws, false,
        some ⟨ts.length, required, index, line, n⟩, [], .scalar name true :: ts⟩ (.char ':') t =
      .ok ⟨⟨t, index + k + 1, line, n + k + 1⟩, width, widths, false, none, [],
        .value :: .scalar name true :: .key :: tokens⟩ := by
  have hmove : Cursor.moveTo ⟨.char ':' :: t, index + k, line, n + k⟩ t =
      ⟨t, index + k + 1, line, n + k + 1⟩ :=
    Cursor.moveTo_append (w := [.char ':']) rfl (by decide)
  have hcolumn : ¬n + k = 0 := by omega
  rw [readToken]
  simp only [hcolumn, decide_false, Bool.false_and, Bool.false_eq_true, if_false, ht, Bool.or_true,
    if_true, readColon, insert, inFlow, List.isEmpty_nil, Bool.not_true, Bool.not_false,
    Bool.true_and, opensAt, decide_eq_true_eq]
  by_cases h : w ≤ n
  · rw [opened, if_pos h] at hopened
    cases hopened
    simp [h, indent, allowKey, moveTo, hmove, push]
  · rw [opened, if_neg h] at hopened
    cases hopened
    simp [h, allowKey, moveTo, hmove, push]

theorem step_key (hname : IsWord name) (ht : gapAt t)
    (h : l.AtLine (spaces n ++ (name ++ .char ':' :: t)))
    (hclose : closeAbove (n + 1) l.width l.outerWidths l.tokens = (w, ws, ts)) :
    ∃ index line, l.step none = .ok (some
      ⟨⟨.char ':' :: t, index + name.length, line, n + name.length⟩, w, ws, false,
        some ⟨ts.length, w = n + 1, index, line, n⟩, [], .scalar name true :: ts⟩) := by
  obtain ⟨index, line, htoken⟩ := h.place n _ ⟨rfl, hname.endsOr_append _⟩
  obtain ⟨c, rest, hrest, hkey⟩ := readToken_key hname ht index line n w ws ts
  refine ⟨index, line, step_of_readToken ?_ hrest hkey⟩
  rw [htoken]
  exact endBefore_of_none hclose

theorem step_colon {k : Nat} (hk : 0 < k) (hshort : k ≤ 1024) (ht : gapAt t) (hw : w ≤ n + 1)
    (required : Bool) (hopened : opened n w ws ts = (width, widths, tokens)) :
    step none ⟨⟨.char ':' :: t, index + k, line, n + k⟩, w, ws, false,
        some ⟨ts.length, required, index, line, n⟩, [], .scalar name true :: ts⟩ =
      .ok (some ⟨⟨t, index + k + 1, line, n + k + 1⟩, width, widths, false, none, [],
        .value :: .scalar name true :: .key :: tokens⟩) := by
  refine step_of_readToken ?_ rfl (readToken_colon hk ht required hopened)
  refine (congrArg endBefore (toToken_spaces (n := 0) rfl)).trans ?_
  exact endBefore_of_live rfl (by dsimp only; omega) (by omega)

/-! ## Values -/

theorem readToken_quoted {s v : Text} (hv : Quoted.Writes s v) (t : Text)
    (index line column width : Nat) (widths : List Nat) (tokens : List Token) :
    ∃ index' column', readToken
        ⟨⟨quotationMark :: (v ++ quotationMark :: t), index, line, column + 1⟩, width, widths, false,
          none, [], tokens⟩ quotationMark (v ++ quotationMark :: t) =
      .ok ⟨⟨t, index', line, column'⟩, width, widths, false, none, [],
        .scalar s false :: tokens⟩ := by
  have hprint : ∀ c ∈ quotationMark :: (v ++ [quotationMark]), c.isPrintableAscii = true :=
    (WritesDatum.text hv).isPrintableAscii
  have hmove : Cursor.moveTo ⟨quotationMark :: (v ++ quotationMark :: t), index, line, column + 1⟩ t =
      ⟨t, index + (quotationMark :: (v ++ [quotationMark])).length, line,
        column + 1 + (quotationMark :: (v ++ [quotationMark])).length⟩ :=
    Cursor.moveTo_append (by simp) hprint
  refine ⟨index + (quotationMark :: (v ++ [quotationMark])).length,
    column + 1 + (quotationMark :: (v ++ [quotationMark])).length, ?_⟩
  rw [quotationMark, readToken, ← quotationMark]
  simp only [Nat.add_eq_zero_iff, Nat.succ_ne_self, and_false, decide_false, Bool.false_and,
    Bool.false_eq_true, if_false, readQuoted, readWord, saveKey, bind, Except.bind, pure,
    Except.pure, Quoted.read_of_writes hv, Except.map, moveTo, hmove, allowKey, push]

/-- A word that is not a key ends with its line. -/
theorem readToken_flag (b : Bool) (ht : Margin t m rest) (hm : m < width)
    (index line column : Nat) (widths : List Nat) (tokens : List Token) :
    ∃ c u, flagWord b ++ .char '\n' :: t = c :: u ∧
      readToken ⟨⟨flagWord b ++ .char '\n' :: t, index, line, column⟩, width, widths, false, none, [],
          tokens⟩ c u =
        .ok ⟨⟨rest, index + (flagWord b).length + 1 + m, line + 1, m⟩, width, widths, true, none, [],
          .scalar (flagWord b) true :: tokens⟩ := by
  have hletters := isWordChar_flagWord b
  have hread := Plain.read_line hletters ht hm
  have hmove : Cursor.moveTo ⟨flagWord b ++ .char '\n' :: t, index, line, column⟩ rest =
      ⟨rest, index + (flagWord b).length + 1 + m, line + 1, m⟩ := by
    refine Cursor.moveTo_nextLine ?_ fun c hc => isPrintableAscii_of_isWordChar (hletters c hc)
    rw [ht.1]
  obtain ⟨c, u, hcons⟩ := List.exists_cons_of_ne_nil (show flagWord b ≠ [] by cases b <;> decide)
  refine ⟨c, u ++ .char '\n' :: t, by rw [hcons]; rfl, ?_⟩
  rw [readToken_of_isWordChar (hletters c (hcons ▸ List.mem_cons_self)), readPlain]
  simp only [saveKey, Bool.false_eq_true, if_false, bind, Except.bind, pure, Except.pure, inFlow,
    List.isEmpty_nil, Bool.not_true, hread, moveTo, hmove, allowKey, push]

/-- A value and the end of its line. -/
theorem step_value {v : Datum} {u : Text} (hv : WritesDatum v u) (ht : Margin t m rest)
    (hm : m < width) (hwidth : width ≤ column + 2) (index line : Nat) (widths : List Nat)
    (tokens : List Token) :
    ∃ q, step none ⟨⟨.char ' ' :: (u ++ .char '\n' :: t), index, line, column⟩, width, widths, false,
        none, [], tokens⟩ = .ok (some q) ∧
      q.AtLine t ∧ q.width = width ∧ q.outerWidths = widths ∧ q.tokens = v.token :: tokens := by
  have hplace {u : Text} (hu : endsOr startsToken u) :
      (toToken ⟨⟨.char ' ' :: u, index, line, column⟩, width, widths, false, none, [],
        tokens⟩).endBefore =
      .ok ⟨⟨u, index + 1, line, column + 1⟩, width, widths, false, none, [], tokens⟩ :=
    (congrArg endBefore (toToken_spaces (n := 1) hu)).trans
      (endBefore_of_none (closeAbove_of_le hwidth widths tokens))
  cases hv with
  | @text s u hs =>
    obtain ⟨index', column', hread⟩ :=
      readToken_quoted hs (.char '\n' :: t) (index + 1) line column width widths tokens
    have happend : quotationMark :: (u ++ [quotationMark]) ++ .char '\n' :: t =
        quotationMark :: (u ++ quotationMark :: .char '\n' :: t) := by simp
    rw [happend]
    exact ⟨_, step_of_readToken (hplace rfl) rfl hread, atLine_nextLine .., rfl, rfl, rfl⟩
  | flag b =>
    obtain ⟨c, u, hcons, hread⟩ :=
      readToken_flag b ht hm (index + 1) line (column + 1) widths tokens
    have hfirst : endsOr startsToken (flagWord b ++ .char '\n' :: t) := by cases b <;> rfl
    exact ⟨_, step_of_readToken (hplace hfirst) hcons hread, atLine_margin ht .., rfl, rfl, rfl⟩

/-! ## Lines -/

/-- A number of tokens after one place is another. -/
def Reaches (l : Lexer) (count : Nat) (q : Lexer) : Prop :=
  ∀ fuel, run none (fuel + count) l = run none fuel q

theorem Reaches.refl (l : Lexer) : l.Reaches 0 l :=
  fun _ => rfl

theorem Reaches.of_step (h : l.step none = .ok (some q)) : l.Reaches 1 q :=
  run_of_step h

theorem Reaches.trans {q' : Lexer} {a b : Nat} (h : l.Reaches a q) (h' : q.Reaches b q') :
    l.Reaches (a + b) q' := by
  intro fuel
  rw [Nat.add_comm a, ← Nat.add_assoc, h, h']

/-- A line is next, and if it is an entry of the mapping at a column it is one after the tokens
`ts`, with the widths `ws` around that mapping. The mapping may not be open yet. -/
structure Before (l : Lexer) (t : Text) (n : Nat) (ws : List Nat) (ts : List Token) : Prop where
  atLine : l.AtLine t
  opens : ∃ w ws' ts', closeAbove (n + 1) l.width l.outerWidths l.tokens = (w, ws', ts') ∧
    w ≤ n + 1 ∧ opened n w ws' ts' = (n + 1, ws, ts)

/-- As before, inside of the mapping. -/
structure Within (l : Lexer) (t : Text) (n : Nat) (ws : List Nat) (ts : List Token) : Prop where
  atLine : l.AtLine t
  closes : closeAbove (n + 1) l.width l.outerWidths l.tokens = (n + 1, ws, ts)

theorem opened_self (n : Nat) (ws : List Nat) (ts : List Token) :
    opened n (n + 1) ws ts = (n + 1, ws, ts) :=
  if_neg (Nat.not_succ_le_self n)

theorem Within.before (h : l.Within t n ws ts) : l.Before t n ws ts :=
  ⟨h.atLine, n + 1, ws, ts, h.closes, Nat.le_refl _, opened_self n ws ts⟩

/-- A key and its colon. -/
theorem reaches_key (hname : IsWord name) (ht : gapAt t)
    (h : l.Before (spaces n ++ (name ++ .char ':' :: t)) n ws ts) :
    ∃ index line, l.Reaches 2 ⟨⟨t, index, line, n + name.length + 1⟩, n + 1, ws, false, none, [],
      .value :: .scalar name true :: .key :: ts⟩ := by
  obtain ⟨w, ws', ts', hclose, hw, hopened⟩ := h.opens
  obtain ⟨index, line, hkey⟩ := step_key hname ht h.atLine hclose
  refine ⟨index + name.length + 1, line, (Reaches.of_step hkey).trans (.of_step ?_)⟩
  exact step_colon (List.length_pos_iff.2 hname.ne_nil) hname.short ht hw _ hopened

theorem reaches_entry {v : Datum} {u : Text} (hname : IsWord name) (hv : WritesDatum v u)
    (ht : Margin t m rest) (hm : m ≤ n) (h : l.Before (entryLine n name u ++ t) n ws ts) :
    ∃ q, l.Reaches 3 q ∧ q.Within t n ws ((entryTokens (name, v)).reverse ++ ts) := by
  have hline : entryLine n name u ++ t =
      spaces n ++ (name ++ .char ':' :: .char ' ' :: (u ++ .char '\n' :: t)) := by
    simp [entryLine]
  obtain ⟨index, line, hkey⟩ := reaches_key hname rfl (hline ▸ h)
  obtain ⟨q, hvalue, hat, hwidth, hwidths, htokens⟩ := step_value hv ht (Nat.lt_succ_of_le hm)
    (show n + 1 ≤ n + name.length + 1 + 2 by omega) index line ws
    (.value :: .scalar name true :: .key :: ts)
  refine ⟨q, hkey.trans (.of_step hvalue), hat, ?_⟩
  rw [hwidth, hwidths, htokens, closeAbove_of_le (Nat.le_refl _)]
  rfl

theorem reaches_entries {es : List (Text × Datum)} {u : Text} (hu : WritesEntries n es u)
    (hwords : ∀ e ∈ es, IsWord e.1) (ht : Margin t m rest) (hm : m ≤ n)
    (h : l.Before (u ++ t) n ws ts) :
    ∃ q, l.Reaches (3 * es.length) q ∧ q.Before t n ws ((es.flatMap entryTokens).reverse ++ ts) ∧
      (es ≠ [] ∨ l.Within (u ++ t) n ws ts →
        q.Within t n ws ((es.flatMap entryTokens).reverse ++ ts)) := by
  induction hu generalizing l ts with
  | nil => exact ⟨l, .refl l, h, fun hwithin => hwithin.resolve_left fun hne => hne rfl⟩
  | @cons name v u es u' hv hu ih =>
    obtain ⟨hname, hwords⟩ := List.forall_mem_cons.1 hwords
    obtain ⟨m', rest', hmargin, hm'⟩ := hu.margin hwords ht hm
    rw [List.append_assoc] at h
    obtain ⟨q, hq, hwithin⟩ := reaches_entry hname hv hmargin hm' h
    obtain ⟨q', hq', -, hwithin'⟩ := ih hwords hwithin.before
    have hfinal := hwithin' (Or.inr hwithin)
    rw [← List.append_assoc, ← List.reverse_append] at hfinal
    refine ⟨q', ?_, hfinal.before, fun _ => hfinal⟩
    rw [List.length_cons, Nat.mul_succ, Nat.add_comm]
    exact hq.trans hq'

/-- The mapping in the lines after a key is open at its first entry. -/
theorem reaches_header {k : Nat} (hname : IsWord name) (hk : n < k)
    (h : l.Before (spaces n ++ (headerLine name ++ t)) n ws ts) :
    ∃ q, l.Reaches 2 q ∧ q.Before t k ((n + 1) :: ws)
      (.blockMappingStart :: .value :: .scalar name true :: .key :: ts) := by
  have hline : headerLine name ++ t = name ++ .char ':' :: .char '\n' :: t := by simp [headerLine]
  obtain ⟨index, line, hkey⟩ := reaches_key hname rfl (hline ▸ h)
  have hle : n + 1 ≤ k + 1 := Nat.succ_le_succ (Nat.le_of_lt hk)
  exact ⟨_, hkey, atLine_nextLine .., n + 1, ws, _, closeAbove_of_le hle _ _, hle, if_pos hk⟩

/-! ## Ends -/

theorem closeAbove_closeAbove {most most' : Nat} (h : most' ≤ most)
    (hclose : closeAbove most width widths tokens = (w, ws, ts)) :
    closeAbove most' width widths tokens = closeAbove most' w ws ts := by
  induction widths generalizing width tokens with
  | nil =>
    cases hclose
    rfl
  | cons outer widths ih =>
    rw [closeAbove] at hclose
    split at hclose
    next habove =>
      rw [closeAbove, if_pos (Nat.lt_of_le_of_lt h habove)]
      exact ih hclose
    next =>
      cases hclose
      rfl

/-- A mapping inside of another one ends where a line is not indented as its entries are. -/
theorem Within.outer {k : Nat} (h : l.Within t k ((n + 1) :: ws) ts) (hk : n < k) :
    l.Within t n ws (.blockEnd :: ts) := by
  refine ⟨h.atLine, ?_⟩
  rw [closeAbove_closeAbove (by omega) h.closes, closeAbove, if_pos (Nat.succ_lt_succ hk)]
  exact closeAbove_of_le (Nat.le_refl _) _ _

theorem Within.finish (h : l.Within [] 0 [0] ts) (fuel : Nat) :
    run none (fuel + 1) l = ts.reverse ++ [.blockEnd, .streamEnd] := by
  obtain ⟨index, line, htoken⟩ := h.atLine.place 0 [] ⟨rfl, rfl⟩
  have hend : l.toToken.endBefore = .ok ⟨⟨[], index, line, 0⟩, 1, [0], true, none, [], ts⟩ := by
    rw [htoken]
    exact endBefore_of_none h.closes
  rw [run, step_of_end hend rfl]
  simp [Lexer.finish, hend, bind, Except.bind, pure, Except.pure, endBlocks, unwind, inFlow,
    closeAbove, dropKey, allowKey, push]

end Lexer

/-! ## Outlines -/

/-- The tokens of an outline. -/
def Outline.tokens (o : Outline) : List Token :=
  .blockMappingStart :: (o.before.flatMap entryTokens ++ (mappingTokens o.key o.inner ++
    (o.after.flatMap entryTokens ++ [.blockEnd, .streamEnd])))

theorem Lexer.before_start (t : Text) : (Lexer.start t).Before t 0 [0] [.blockMappingStart] := by
  refine ⟨⟨rfl, rfl, fun m rest h => ?_⟩, 0, [], [], rfl, Nat.zero_le 1, rfl⟩
  obtain ⟨rfl, hrest⟩ := h
  have htoken : toToken ⟨⟨spaces m ++ rest, 0, 0, 0⟩, 0, [], true, none, [], []⟩ =
      ⟨⟨rest, 0 + m, 0, 0 + m⟩, 0, [], true, none, [], []⟩ :=
    toToken_spaces (endsOr_imp (fun _ => startsToken_of_isWordChar) hrest)
  rw [Nat.zero_add] at htoken
  exact ⟨m, 0, htoken⟩

/-- What is written has the tokens of the outline. -/
theorem Outline.ofSource_of_writes {o : Outline} {t : Text} (ho : o.IsPlain) (ht : o.Writes t) :
    Token.ofSource ⟨t, none⟩ = o.tokens := by
  obtain ⟨indent, before, inner, after, hindent, hbefore, hinner, hafter, rfl⟩ := ht.parts
  obtain ⟨⟨hwordsBefore, hwordsInner⟩, hwordsAfter⟩ := ho.words
  -- each part is followed by a line that is indented no more than its own
  have hend : Margin [] 0 [] := ⟨rfl, rfl⟩
  obtain ⟨m, rest, hmargin, hm⟩ := hafter.margin hwordsAfter hend (Nat.le_refl 0)
  rw [List.append_nil] at hmargin
  have hheader : Margin (headerLine o.key ++ (inner ++ after)) 0
      (headerLine o.key ++ (inner ++ after)) := by
    rw [headerLine, List.append_assoc]
    exact ⟨rfl, ho.key.endsOr_append _⟩
  obtain ⟨q₁, hreach₁, h₁, -⟩ := Lexer.reaches_entries hbefore hwordsBefore hheader (Nat.le_refl 0)
    (Lexer.before_start _)
  obtain ⟨q₂, hreach₂, h₂⟩ := Lexer.reaches_header (n := 0) ho.key hindent h₁
  obtain ⟨q₃, hreach₃, -, h₃⟩ := Lexer.reaches_entries hinner hwordsInner hmargin (by omega) h₂
  have hwithin := (h₃ (Or.inl ho.inner)).outer hindent
  rw [← List.append_nil after] at hwithin
  obtain ⟨q₄, hreach₄, -, h₄⟩ := Lexer.reaches_entries hafter hwordsAfter hend (Nat.le_refl 0)
    hwithin.before
  have hreach := ((hreach₁.trans hreach₂).trans hreach₃).trans hreach₄
  have hfinish := (h₄ (Or.inr hwithin)).finish
  -- a line is as long as the number of its tokens that are read one by one
  have hlength : 3 * o.before.length + 2 + 3 * o.inner.length + 3 * o.after.length ≤
      (before ++ (headerLine o.key ++ (inner ++ after))).length := by
    have hlengthBefore := hbefore.length_le
    have hlengthInner := hinner.length_le
    have hlengthAfter := hafter.length_le
    simp only [headerLine, List.length_append, List.length_cons, List.length_nil]
    omega
  obtain ⟨fuel, hfuel⟩ := Nat.exists_eq_add_of_le' hlength
  rw [Token.ofSource, hfuel, Nat.add_right_comm, hreach, hfinish, Outline.tokens, mappingTokens]
  simp

end VolumeTunnel.Yaml
