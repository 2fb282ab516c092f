import ScatterPick.Proofs.Yaml.Plain
import ScatterPick.Yaml.Token.Lexer

/-!
# Scanning line by line

A run of the lexer split at the places where no key waits for its colon. From one such place the
lexer leads to the next, whatever comes after that, so the scan of a text is put together from the
scans of its lines.
-/

namespace ScatterPick.Yaml

/-- What some tokens are, without their positions. -/
def words (tokens : Array Token) : List Lexeme := tokens.toList.map (·.lexeme)

@[simp] theorem words_push (tokens : Array Token) (t : Token) :
    words (tokens.push t) = words tokens ++ [t.lexeme] := by
  simp [words]

namespace Lexer

/-! ## Steps without fuel -/

/-- The lexer in front of its next token. -/
def settle (l : Lexer) : Option Lexer :=
  ((l.skipGap (l.cursor.rest.length + 1)).dropStale).map fun l => l.closeBlocks l.mark.column

theorem run_succ (l : Lexer) (fuel : Nat) :
    l.run (fuel + 1) = l.settle.bind fun l =>
      match l.cursor.peek with
      | none => l.finish.map (·.tokens)
      | some a => (l.token a).bind (run fuel) := by
  rw [run, settle]
  cases (l.skipGap (l.cursor.rest.length + 1)).dropStale with
  | none => rfl
  | some l =>
    simp only [bind, Option.bind, Option.map]
    cases (l.closeBlocks l.mark.column).cursor.peek with
    | none => cases (l.closeBlocks l.mark.column).finish <;> rfl
    | some a => cases (l.closeBlocks l.mark.column).token a <;> rfl

/-- From one place the lexer comes to another, with fuel for every character left. -/
def Leads (l l' : Lexer) : Prop :=
  ∃ n, n + l'.cursor.rest.length ≤ l.cursor.rest.length ∧ ∀ fuel, l.run (fuel + n) = l'.run fuel

namespace Leads

theorem refl (l : Lexer) : l.Leads l := ⟨0, by omega, fun _ => rfl⟩

theorem trans {l l' l'' : Lexer} (h : l.Leads l') (h' : l'.Leads l'') : l.Leads l'' := by
  obtain ⟨n, hlength, hrun⟩ := h
  obtain ⟨n', hlength', hrun'⟩ := h'
  refine ⟨n' + n, by omega, fun fuel => ?_⟩
  rw [← Nat.add_assoc, hrun, hrun']

/-- What is in front of the next token does not matter. -/
theorem of_settle {l l' : Lexer} (h : l.settle = l'.settle)
    (hlength : l'.cursor.rest.length ≤ l.cursor.rest.length) : l.Leads l' := by
  refine ⟨0, by omega, fun fuel => ?_⟩
  cases fuel with
  | zero => rfl
  | succ fuel => rw [Nat.add_zero, run_succ, run_succ, h]

/-- A token takes a step. -/
theorem of_token {l l₁ l' : Lexer} (hsettle : l.settle = some l₁) {a : Char}
    (hpeek : l₁.cursor.peek = some a) (htoken : l₁.token a = some l')
    (hlength : l'.cursor.rest.length < l.cursor.rest.length) : l.Leads l' := by
  refine ⟨1, by omega, fun fuel => ?_⟩
  rw [run_succ, hsettle, Option.bind_some, hpeek]
  simp only [htoken, Option.bind_some]

end Leads

/-! ## Places between tokens -/

/-- The lexer outside of flow collections, where no key waits for its colon. -/
def idle (keyAllowed : Bool) (cursor : Cursor) (tokens : Array Token) (indent : Int)
    (outer : List Int) : Lexer :=
  { cursor, tokens, indent, outer, place := none, places := [], keyAllowed }

section Idle

variable {keyAllowed : Bool} {tokens : Array Token} {indent : Int} {outer : List Int}

/-- Nothing but the spaces in front of a word is skipped. -/
theorem skipGap_spaces {l : Lexer} (n : Nat) {rest : List Char} (h : lineStart rest = true)
    {m : Mark} (hcursor : l.cursor = ⟨List.replicate n ' ' ++ rest, m⟩) (fuel : Nat) :
    l.skipGap (fuel + 1) = { l with cursor := ⟨rest, m.plus n⟩ } := by
  have hbom : Cursor.sees ⟨List.replicate n ' ' ++ rest, m⟩ '\ufeff' = false := by
    cases n with
    | zero => cases rest <;> simp_all [Cursor.sees, Cursor.peek, lineStart]
    | succ n => rfl
  have hspaces (tabs : Bool) : (Cursor.mk (List.replicate n ' ' ++ rest) m).skipWhile
      (fun a => a = ' ' || (tabs && a = '\t')) = ⟨rest, m.plus n⟩ := by
    have hrest : rest.head?.all (fun a => !(a = ' ' || (tabs && a = '\t'))) = true := by
      cases rest with
      | nil => rfl
      | cons a rest =>
        have ha := lineStart_isGap h
        simp only [isGap, isBlank, Bool.or_eq_false_iff, decide_eq_false_iff_not] at ha
        simp [ha]
    have hall : (List.replicate n ' ').all (fun a => a = ' ' || (tabs && a = '\t')) = true := by
      simp
    have hskip := Cursor.skipWhile_append hall hrest m
    rwa [List.length_replicate] at hskip
  have hend : (Cursor.skipComment ⟨rest, m.plus n⟩) = ⟨rest, m.plus n⟩ ∧
      Cursor.starts ⟨rest, m.plus n⟩ isBreak = false := by
    cases rest with
    | nil => exact ⟨rfl, rfl⟩
    | cons a rest =>
      have ha := lineStart_isGap h
      simp only [isGap, Bool.or_eq_false_iff] at ha
      simp_all [Cursor.skipComment, Cursor.sees, Cursor.starts, Cursor.peek, lineStart]
  simp only [skipGap, hcursor, hbom, Bool.and_false, Bool.false_eq_true, if_false, hspaces, hend]

/-- The break in front of a line is skipped with its indentation; then a key may start. -/
theorem skipGap_nextLine (n : Nat) {line : List Char} (h : lineStart line = true) (m : Mark)
    (fuel : Nat) :
    (idle keyAllowed ⟨nextLine n line, m⟩ tokens indent outer).skipGap (fuel + 2) =
      idle true ⟨line, (m.nextLine 1).plus n⟩ tokens indent outer := by
  have hstep : (idle keyAllowed ⟨nextLine n line, m⟩ tokens indent outer).skipGap (fuel + 2) =
      (idle (keyAllowed || true) ⟨List.replicate n ' ' ++ line, m.nextLine 1⟩ tokens indent
        outer).skipGap (fuel + 1) := by
    rw [skipGap]
    simp [idle, mark, inFlow, nextLine, Cursor.sees, Cursor.peek, Cursor.skipWhile, Cursor.span,
      Cursor.skip, Cursor.skipComment, Cursor.starts, isBreak, Cursor.skipBreak, Cursor.takeBreak]
  rw [hstep, Bool.or_true, skipGap_spaces n h rfl]
  rfl

/-- Blocks that are not indented deeper stay open. -/
theorem closeBlocks_of_le {l : Lexer} {column : Int} (h : l.indent ≤ column) :
    l.closeBlocks column = l := by
  obtain ⟨_, _, indent, outer, _, _, _⟩ := l
  rw [closeBlocks]
  split
  · rfl
  · cases outer with
    | nil => rfl
    | cons i outer => simp only [closeBlocks.go, if_neg (Int.not_lt.mpr h)]

/-- A block that is indented deeper is closed. -/
theorem closeBlocks_of_lt {c : Cursor} {column i : Int} (h : column < indent) :
    (idle keyAllowed c tokens indent (i :: outer)).closeBlocks column =
      (idle keyAllowed c (tokens.push ⟨.blockEnd, c.mark⟩) i outer).closeBlocks column := by
  simp only [idle, closeBlocks, inFlow, List.isEmpty_nil, Bool.not_true, Bool.false_eq_true, if_false,
    closeBlocks.go, if_pos h]
  rfl

theorem settle_spaces (n : Nat) {rest : List Char} (h : lineStart rest = true) (m : Mark) :
    (idle keyAllowed ⟨List.replicate n ' ' ++ rest, m⟩ tokens indent outer).settle =
      some ((idle keyAllowed ⟨rest, m.plus n⟩ tokens indent outer).closeBlocks
        (m.plus n).column) := by
  rw [settle, skipGap_spaces n h rfl]
  rfl

theorem settle_lineStart {line : List Char} (h : lineStart line = true) (m : Mark) :
    (idle keyAllowed ⟨line, m⟩ tokens indent outer).settle =
      some ((idle keyAllowed ⟨line, m⟩ tokens indent outer).closeBlocks m.column) :=
  settle_spaces 0 h m

theorem settle_nextLine (n : Nat) {line : List Char} (h : lineStart line = true) (m : Mark) :
    (idle keyAllowed ⟨nextLine n line, m⟩ tokens indent outer).settle =
      some ((idle true ⟨line, (m.nextLine 1).plus n⟩ tokens indent outer).closeBlocks
        ((m.nextLine 1).plus n).column) := by
  have hlength : (idle keyAllowed ⟨nextLine n line, m⟩ tokens indent outer).cursor.rest.length + 1 =
      n + line.length + 2 := by
    simp [idle, nextLine]
  rw [settle, hlength, skipGap_nextLine n h]
  rfl

/-! ## Between lines -/

/-- The break in front of a line makes no token. -/
theorem leads_nextLine (n : Nat) {line : List Char} (h : lineStart line = true) (m : Mark) :
    (idle keyAllowed ⟨nextLine n line, m⟩ tokens indent outer).Leads
      (idle true ⟨line, (m.nextLine 1).plus n⟩ tokens indent outer) := by
  refine .of_settle ?_ (by simp [idle, nextLine]; omega)
  rw [settle_nextLine n h]
  exact (settle_lineStart h _).symm

/-- A block ends in front of a line that is indented less. -/
theorem leads_close {line : List Char} (h : lineStart line = true) {m : Mark} {i : Int}
    (hcolumn : m.column < indent) :
    (idle keyAllowed ⟨line, m⟩ tokens indent (i :: outer)).Leads
      (idle keyAllowed ⟨line, m⟩ (tokens.push ⟨.blockEnd, m⟩) i outer) := by
  refine .of_settle ?_ (Nat.le_refl _)
  rw [settle_lineStart h, settle_lineStart h, closeBlocks_of_lt hcolumn]

/-! ## Keys -/

theorem gapAt_one (a : Char) (rest : List Char) (m : Mark) :
    Cursor.gapAt ⟨a :: rest, m⟩ 1 = (rest.head?.map isGap).getD true := by
  cases rest <;> rfl

theorem startsIndicator_of_plain {a : Char} (h : isIndicator a = false) (rest : List Char) :
    startsIndicator (a :: rest) = false := by
  simp_all [startsIndicator, isIndicator]

/-- What starts like a plain scalar is scanned as one. -/
theorem token_plain {l : Lexer} (hflow : l.places = []) {a : Char} {rest : List Char} {m : Mark}
    (hcursor : l.cursor = ⟨a :: rest, m⟩) (hgap : isGap a = false)
    (hstart : startsIndicator (a :: rest) = false)
    (hrule : Cursor.atDocumentRule ⟨a :: rest, m⟩ = false) : l.token a = l.plain := by
  have hinFlow : l.inFlow = false := by rw [inFlow, hflow]; rfl
  simp only [startsIndicator, Bool.or_eq_false_iff, ← gapAt_one a rest m] at hstart
  obtain ⟨hindicator, hmaybe⟩ := hstart
  simp only [Cursor.atDocumentRule, Bool.or_eq_false_iff] at hrule
  simp at hindicator
  -- A dash, a question mark and a colon are plain only in front of a character that is no gap.
  have hinside : a = '-' ∨ a = '?' ∨ a = ':' → Cursor.gapAt ⟨a :: rest, m⟩ 1 = false := by
    rintro (rfl | rfl | rfl) <;> simpa using hmaybe
  have hlast : ((!(isGap a || isIndicator a) || (a = '-' && !(a :: rest)[1]?.any isBlank) ||
      (!false && (a = '?' || a = ':') && !Cursor.gapAt ⟨a :: rest, m⟩ 1)) = true) := by
    by_cases hspecial : a = '-' ∨ a = '?' ∨ a = ':'
    · have hgap := hinside hspecial
      rcases hspecial with rfl | rfl | rfl
      · cases rest with
        | nil => cases hgap
        | cons b rest =>
          have hb : isBlank b = false := by
            simp only [Cursor.gapAt, isGap] at hgap
            exact (Bool.or_eq_false_iff.mp hgap).1
          simp [hb]
      · simp [hgap]
      · simp [hgap]
    · have hplain : isIndicator a = false := by
        simp_all [isIndicator]
      simp [hgap, hplain]
  have hopen (b : Char) (h : b = '-' ∨ b = '?' ∨ b = ':') :
      (a = b && Cursor.gapAt ⟨a :: rest, m⟩ 1) = false := by
    by_cases hab : a = b
    · rw [hinside (hab ▸ h), Bool.and_false]
    · simp [hab]
  rw [token]
  simp only [hcursor, hinFlow, hrule, Bool.false_or, hopen '-' (by simp), hopen '?' (by simp),
    hopen ':' (by simp), hlast]
  simp [hindicator]

/-- A possible key on the same line stays possible. -/
theorem dropStale_fresh {l : Lexer} (hplaces : l.places = []) {p : KeyPlace}
    (hplace : l.place = some p) (hfresh : isStale l.mark p = false) : l.dropStale = some l := by
  obtain ⟨_, _, _, _, place, places, _⟩ := l
  obtain rfl : place = some p := hplace
  obtain rfl : places = [] := hplaces
  simp [dropStale, hfresh]

/-- A possible key of an earlier line is given up. -/
theorem dropStale_stale {l : Lexer} (hplaces : l.places = []) {p : KeyPlace}
    (hplace : l.place = some p) (hrequired : p.required = false)
    (hstale : isStale l.mark p = true) : l.dropStale = some { l with place := none } := by
  obtain ⟨_, _, _, _, place, places, _⟩ := l
  obtain rfl : place = some p := hplace
  obtain rfl : places = [] := hplaces
  simp [dropStale, hrequired, hstale]

theorem words_insert (l : Lexer) (n : Nat) (lexeme : Lexeme) (m : Mark) :
    words (l.insert n lexeme m).tokens =
      (words l.tokens).take n ++ lexeme :: (words l.tokens).drop n := by
  have hrest : (l.tokens.toList.drop n).take (l.tokens.size - n) = l.tokens.toList.drop n :=
    List.take_of_length_le (by simp)
  simp only [words, insert, Array.toList_append, Array.toList_extract, List.extract_eq_take_drop,
    hrest, List.drop_zero, Nat.sub_zero, List.map_append, List.map_take, List.map_drop,
    List.append_assoc]
  rfl

/-- The state after the name of a key, in front of its colon. -/
def named (name : List Char) (required : Bool) (c : Cursor) (m : Mark) (tokens : Array Token)
    (indent : Int) (outer : List Int) : Lexer :=
  { cursor := c, tokens := tokens.push ⟨.scalar .plain (String.ofList name), m⟩, indent, outer,
    place := some ⟨required, tokens.size, m⟩, places := [], keyAllowed := false }

theorem plain_eq {l l' : Lexer} (hnote : l.notePlace = some l') {s : Scanned}
    (hscan : scanPlain l'.inFlow (l'.indent + 1) [] {} (l'.cursor.rest.length + 1) l'.cursor =
      some s) :
    l.plain = some (({ l' with keyAllowed := s.broken }.push
      (.scalar .plain (String.ofList s.text)) l'.mark).moveTo s.cursor) := by
  rw [plain, hnote]
  simp only [bind, Option.bind, hscan]
  rfl

theorem notePlace_idle (c : Cursor) (tokens : Array Token) (indent : Int) (outer : List Int) :
    (idle true c tokens indent outer).notePlace = some
      { idle true c tokens indent outer with
        place := some ⟨decide (indent = c.mark.column), tokens.size, c.mark⟩ } := rfl

/-- The name of a field may be a key. -/
theorem leads_name {name : List Char} (hname : isFieldName name = true) {rest : List Char}
    (hrest : rest.head?.all isGap = true) {m : Mark} (hindent : indent ≤ m.column) :
    (idle true ⟨name ++ ':' :: rest, m⟩ tokens indent outer).Leads
      (named name (decide (indent = m.column)) ⟨':' :: rest, m.plus name.length⟩ m tokens indent
        outer) := by
  have hword := isWord_of_isFieldName hname
  obtain ⟨a, tail, rfl, hgap, hindicator, hdot, hbom⟩ := isFieldName_cons hname
  have hne {b : Char} (hb : isIndicator b = true) : a ≠ b := by
    rintro rfl
    rw [hindicator] at hb
    cases hb
  have hline : lineStart (a :: tail ++ ':' :: rest) = true := by
    simp [lineStart, hgap, hne (b := '#') rfl, hbom]
  have hrule : Cursor.atDocumentRule ⟨a :: tail ++ ':' :: rest, m⟩ = false := by
    simp [Cursor.atDocumentRule, Cursor.atRule, hne (b := '-') rfl, hdot]
  have hsettle : (idle true ⟨a :: tail ++ ':' :: rest, m⟩ tokens indent outer).settle =
      some (idle true ⟨a :: tail ++ ':' :: rest, m⟩ tokens indent outer) := by
    rw [settle_lineStart hline, closeBlocks_of_le hindent]
  have hscan := scanPlain_key hword hrest hrule (indent + 1)
    (Nat.lt_succ_of_le (List.IsPrefix.length_le ⟨':' :: rest, rfl⟩))
  refine .of_token hsettle rfl ((token_plain rfl rfl hgap (startsIndicator_of_plain hindicator _)
    hrule).trans (plain_eq (notePlace_idle _ _ _ _) hscan)) ?_
  simp only [idle, named, List.length_append, List.length_cons]
  omega

theorem token_value {l : Lexer} (hflow : l.places = []) {rest : List Char} {m : Mark}
    (hcursor : l.cursor = ⟨':' :: rest, m⟩) (hrest : rest.head?.all isGap = true) :
    l.token ':' = l.value := by
  have hgap : Cursor.gapAt ⟨':' :: rest, m⟩ 1 = true := by
    cases rest with
    | nil => rfl
    | cons a rest => simpa [Cursor.gapAt] using hrest
  simp [token, inFlow, hflow, hcursor, hgap, Cursor.atRule]

/-- The colon after a name makes it a key; a block begins where the key is indented deeper. -/
theorem leads_colon {name rest : List Char} (hlength : name.length ≤ 1024)
    (hrest : rest.head?.all isGap = true) {required : Bool} {m : Mark} (hindent : indent ≤ m.column) :
    ∃ tokens', words tokens' = words tokens ++ ((if indent < m.column then [.blockMapping] else []) ++
        [.key, .scalar .plain (String.ofList name), .value]) ∧
      (named name required ⟨':' :: rest, m.plus name.length⟩ m tokens indent outer).Leads
        (idle false ⟨rest, m.plus (name.length + 1)⟩ tokens' m.column
          (if indent < m.column then indent :: outer else outer)) := by
  let l := named name required ⟨':' :: rest, m.plus name.length⟩ m tokens indent outer
  have hsettle : l.settle = some l := by
    have hskip : l.skipGap (l.cursor.rest.length + 1) = l := skipGap_spaces 0 rfl rfl _
    have hfresh : isStale (m.plus name.length) ⟨required, tokens.size, m⟩ = false := by
      simp [isStale, hlength]
    have hdrop : l.dropStale = some l := dropStale_fresh rfl rfl hfresh
    have hclose : l.closeBlocks l.mark.column = l :=
      closeBlocks_of_le (by simp only [mark, Mark.plus_column, l, named]; omega)
    rw [settle, hskip, hdrop, Option.map_some, hclose]
  have htoken : l.token ':' = l.value := token_value rfl rfl hrest
  -- The key goes in front of the name, and the start of a block in front of the key.
  let keyed := l.insert tokens.size .key m
  let opened : Lexer :=
    { keyed with outer := indent :: outer, indent := m.column }.insert tokens.size .blockMapping m
  have hsize : tokens.size = (words tokens).length := by simp [words]
  have hkeyed : words keyed.tokens =
      words tokens ++ [.key, .scalar .plain (String.ofList name)] := by
    rw [words_insert, hsize]
    simp only [l, named, words_push, List.take_left, List.drop_left]
  have hopened : words opened.tokens =
      words tokens ++ [.blockMapping, .key, .scalar .plain (String.ofList name)] := by
    rw [words_insert, hkeyed, hsize, List.take_left, List.drop_left]
  have hrestlt : rest.length < l.cursor.rest.length := by simp [l, named]
  have hvalue : l.value = some (({ keyed.openBlock m.column (some tokens.size) .blockMapping m with
      place := none, keyAllowed := false }).takeIndicator 1 .value) := rfl
  by_cases hopen : indent < m.column
  · have hblock : keyed.openBlock m.column (some tokens.size) .blockMapping m = opened :=
      if_neg (by simpa [inFlow, keyed, insert, l, named] using hopen)
    rw [hblock] at hvalue
    refine ⟨opened.tokens.push ⟨.value, m.plus name.length⟩, ?_, ?_⟩
    · rw [words_push, hopened, if_pos hopen]
      simp
    · rw [if_pos hopen]
      exact .of_token hsettle rfl (htoken.trans hvalue) hrestlt
  · have hblock : keyed.openBlock m.column (some tokens.size) .blockMapping m = keyed :=
      if_pos (by simpa [inFlow, keyed, insert, l, named] using hopen)
    have hsame : indent = m.column := by omega
    rw [hblock] at hvalue
    refine ⟨keyed.tokens.push ⟨.value, m.plus name.length⟩, ?_, ?_⟩
    · rw [words_push, hkeyed, if_neg hopen]
      simp
    · rw [if_neg hopen, ← hsame]
      exact .of_token hsettle rfl (htoken.trans hvalue) hrestlt

/-- A key with its colon; a block begins where the key is indented deeper. -/
theorem leads_key {name : List Char} (hname : isFieldName name = true) {rest : List Char}
    (hrest : rest.head?.all isGap = true) {m : Mark} (hindent : indent ≤ m.column)
    (tokens : Array Token) (outer : List Int) :
    ∃ tokens', words tokens' = words tokens ++ ((if indent < m.column then [.blockMapping] else []) ++
        [.key, .scalar .plain (String.ofList name), .value]) ∧
      (idle true ⟨name ++ ':' :: rest, m⟩ tokens indent outer).Leads
        (idle false ⟨rest, m.plus (name.length + 1)⟩ tokens' m.column
          (if indent < m.column then indent :: outer else outer)) := by
  have hlength : name.length ≤ 1024 := by
    simp only [isFieldName, Bool.and_eq_true, decide_eq_true_eq] at hname
    exact hname.2
  obtain ⟨tokens', hwords, hleads⟩ := leads_colon hlength hrest hindent
  exact ⟨tokens', hwords, (leads_name hname hrest hindent).trans hleads⟩

/-! ## Scalars -/

/-- A place of an earlier line where no key has to stand does not matter. -/
theorem leads_stale {line : List Char} (h : lineStart line = true) {m : Mark} {p : KeyPlace}
    (hrequired : p.required = false) (hline : p.mark.line < m.line) :
    { idle true ⟨line, m⟩ tokens indent outer with place := some p }.Leads
      (idle true ⟨line, m⟩ tokens indent outer) := by
  let l : Lexer := { idle true ⟨line, m⟩ tokens indent outer with place := some p }
  have hskip : l.skipGap (l.cursor.rest.length + 1) = l := skipGap_spaces 0 h rfl _
  have hstale : isStale m p = true := by simp [isStale, hline]
  have hdrop : l.dropStale = some (idle true ⟨line, m⟩ tokens indent outer) :=
    dropStale_stale rfl rfl hrequired hstale
  refine .of_settle ?_ (Nat.le_refl _)
  rw [settle_lineStart h, settle, hskip, hdrop]
  rfl

theorem startsIndicator_append {cs : List Char} (hne : cs ≠ []) (h : startsIndicator cs = false)
    (rest : List Char) : startsIndicator (cs ++ rest) = false := by
  cases cs with
  | nil => exact absurd rfl hne
  | cons a tail =>
    cases tail with
    | nil =>
      simp only [startsIndicator, List.head?_nil, Option.map_none, Option.getD_none, Bool.and_true,
        Bool.or_eq_false_iff] at h
      simp only [List.cons_append, startsIndicator, h, Bool.or_self, Bool.false_and]
    | cons b tail => exact h

/-- A plain scalar, after a colon or after the dash of an entry, is one token. -/
theorem leads_plain {cs : List Char} (h : PlainScalar cs) (n : Nat) {m : Mark}
    (hcolumn : m.column + n ≠ 0) (hindent : indent < m.column + n) {j : Nat} (hj : j ≤ indent)
    {line : List Char} (hline : lineStart line = true) :
    ∃ m', m'.column = j ∧
      (idle keyAllowed ⟨List.replicate n ' ' ++ (cs ++ nextLine j line), m⟩ tokens indent
        outer).Leads (idle true ⟨line, m'⟩
          (tokens.push ⟨.scalar .plain (String.ofList cs), m.plus n⟩) indent outer) := by
  obtain ⟨htext, hhead, hstart⟩ := h
  obtain ⟨a, tail, rfl, hgap, -⟩ := htext.cons
  have hsettle : (idle keyAllowed ⟨List.replicate n ' ' ++ (a :: tail ++ nextLine j line), m⟩ tokens
      indent outer).settle =
        some (idle keyAllowed ⟨a :: tail ++ nextLine j line, m.plus n⟩ tokens indent outer) := by
    have hline : lineStart (a :: tail ++ nextLine j line) = true := hhead
    rw [settle_spaces n hline, closeBlocks_of_le (by simp only [idle, Mark.plus_column]; omega)]
  have hinside : indent + 1 ≤ ((m.plus n).column : Int) := by
    simp only [Mark.plus_column]
    omega
  have hscan := scanPlain_text htext (Int.lt_add_one_of_le hj) hline hcolumn hinside [] {}
    (Nat.lt_succ_self _)
  have htoken (l : Lexer) (hflow : l.places = [])
      (hcursor : l.cursor = ⟨a :: tail ++ nextLine j line, m.plus n⟩) : l.token a = l.plain :=
    token_plain hflow hcursor hgap (startsIndicator_append (List.cons_ne_nil _ _) hstart _)
      (Cursor.atDocumentRule_of_column hcolumn)
  have hlength : line.length < (idle keyAllowed
      ⟨List.replicate n ' ' ++ (a :: tail ++ nextLine j line), m⟩ tokens indent
        outer).cursor.rest.length := by
    simp [idle, nextLine]
    omega
  refine ⟨(((m.plus n).plus (a :: tail).length).nextLine 1).plus j, by simp [Mark.nextLine], ?_⟩
  cases keyAllowed with
  | false =>
    have hnote : (idle false ⟨a :: tail ++ nextLine j line, m.plus n⟩ tokens indent
        outer).notePlace = some _ := rfl
    exact .of_token hsettle rfl ((htoken _ rfl rfl).trans (plain_eq hnote hscan)) hlength
  | true =>
    -- A key could have started where the scalar did, but its line is over.
    let p : KeyPlace := ⟨decide (indent = (m.plus n).column), tokens.size, m.plus n⟩
    have hrequired : p.required = false := decide_eq_false (by omega)
    have hover : p.mark.line < ((m.plus n).plus (a :: tail).length).line + 1 := Nat.lt_succ_self _
    have hplain := plain_eq (notePlace_idle _ tokens _ outer) hscan
    exact .trans (.of_token hsettle rfl ((htoken _ rfl rfl).trans hplain) hlength)
      (leads_stale hline hrequired hover)

theorem token_entry {l : Lexer} {a : Char} {rest : List Char} {m : Mark}
    (hcursor : l.cursor = ⟨'-' :: a :: rest, m⟩) (ha : isGap a = true) :
    l.token '-' = l.entry := by
  have hdash : a ≠ '-' := by
    rintro rfl
    cases ha
  simp [token, hcursor, Cursor.gapAt, Cursor.atRule, ha, hdash]

/-- The dash of an entry in a sequence without indentation of its own. -/
theorem leads_entry {a : Char} (ha : isGap a = true) (rest : List Char) {m : Mark}
    (hindent : indent = m.column) :
    (idle true ⟨'-' :: a :: rest, m⟩ tokens indent outer).Leads
      (idle true ⟨a :: rest, m.next⟩ (tokens.push ⟨.entry, m⟩) indent outer) := by
  have hsettle : (idle true ⟨'-' :: a :: rest, m⟩ tokens indent outer).settle =
      some (idle true ⟨'-' :: a :: rest, m⟩ tokens indent outer) := by
    rw [settle_lineStart rfl, closeBlocks_of_le (by simp only [idle]; omega)]
  have hopen : (idle true ⟨'-' :: a :: rest, m⟩ tokens indent outer).openAt .blockSequence =
      some (idle true ⟨'-' :: a :: rest, m⟩ tokens indent outer) := by
    simp [openAt, openBlock, idle, inFlow, mark, hindent]
  have hentry : (idle true ⟨'-' :: a :: rest, m⟩ tokens indent outer).entry =
      some (idle true ⟨a :: rest, m.next⟩ (tokens.push ⟨.entry, m⟩) indent outer) := by
    rw [entry, hopen]
    rfl
  exact .of_token hsettle rfl ((token_entry rfl ha).trans hentry) (by simp [idle])

end Idle

end Lexer

end ScatterPick.Yaml
