import ScatterPick.Proofs.Yaml.Blocks
import ScatterPick.Proofs.Yaml.Lines
import ScatterPick.Proofs.Yaml.Written

/-!
# Scanning scalars after a colon

What stands after the colon of a member spells some words, whatever the next line is. A text spells
one scalar, in every form in which the writer may put it down.
-/

namespace ScatterPick.Yaml

open Lexer

/-- What stands after the colon of a member that is indented by `k`, up to the start of the next
line, spells some words. The next line is indented at most as deep. -/
def Spells (k : Nat) (value : List Char) (ws : List Lexeme) : Prop :=
  ∀ (j : Nat) (line : List Char) (m : Mark) (tokens : Array Token) (outer : List Int), j ≤ k →
    lineStart line = true → k < m.column →
      ∃ m' tokens', m'.column = j ∧ words tokens' = words tokens ++ ws ∧
        (idle false ⟨value ++ (List.replicate j ' ' ++ line), m⟩ tokens k outer).Leads
          (idle true ⟨line, m'⟩ tokens' k outer)

section

variable {k : Nat}

/-- A plain scalar leaves the end of its line to the writer. -/
theorem PlainScalar.lineEnd_eq {cs : List Char} (h : PlainScalar cs) : lineEnd cs = ['\n'] := by
  obtain ⟨init, z, rfl, hz⟩ := h.text.concat
  rw [lineEnd_concat, isBreak_of_not_gap hz]
  rfl

theorem spells_plain {cs : List Char} (h : PlainScalar cs) :
    Spells k (' ' :: (cs ++ lineEnd cs)) [.scalar .plain (String.ofList cs)] := by
  intro j line m tokens outer hj hline hm
  have hleads : ∃ m', m'.column = j ∧
      (idle false ⟨List.replicate 1 ' ' ++ (cs ++ nextLine j line), m⟩ tokens k outer).Leads
        (idle true ⟨line, m'⟩ (tokens.push ⟨.scalar .plain (String.ofList cs), m.plus 1⟩) k outer) :=
    leads_plain h 1 (by omega) (by omega) (Int.ofNat_le.mpr hj) hline
  obtain ⟨m', hm', hleads⟩ := hleads
  have hrest : ' ' :: (cs ++ lineEnd cs) ++ (List.replicate j ' ' ++ line) =
      List.replicate 1 ' ' ++ (cs ++ nextLine j line) := by
    simp [h.lineEnd_eq, nextLine]
  exact ⟨m', _, hm', words_push _ _, hrest ▸ hleads⟩

/-! ## Tokens after a space -/

/-- A token after a space takes a step of the lexer. -/
theorem leads_afterSpace {a : Char} {rest : List Char} (hline : lineStart (a :: rest) = true)
    {m : Mark} {tokens : Array Token} {outer : List Int} (hm : k < m.column) {l : Lexer}
    (htoken : (idle false ⟨a :: rest, m.plus 1⟩ tokens k outer).token a = some l)
    (hlength : l.cursor.rest.length ≤ rest.length) :
    (idle false ⟨' ' :: a :: rest, m⟩ tokens k outer).Leads l := by
  have hstay : (idle false ⟨a :: rest, m.plus 1⟩ tokens k outer).closeBlocks (m.plus 1).column =
      idle false ⟨a :: rest, m.plus 1⟩ tokens k outer :=
    closeBlocks_of_le (by simp only [idle, Mark.plus_column]; omega)
  have hsettle : (idle false ⟨' ' :: a :: rest, m⟩ tokens k outer).settle =
      some (idle false ⟨a :: rest, m.plus 1⟩ tokens k outer) :=
    (settle_spaces 1 hline m).trans (congrArg some hstay)
  exact .of_token hsettle rfl htoken (by simp only [idle, List.length_cons]; omega)

/-- A property is scanned as its token. -/
theorem property_idle {scan : Cursor → Option (Lexeme × Cursor)} {c c' : Cursor} {lexeme : Lexeme}
    (h : scan c = some (lexeme, c')) (tokens : Array Token) (outer : List Int) :
    (idle false c tokens k outer).property scan =
      some (idle false c' (tokens.push ⟨lexeme, c.mark⟩) k outer) := by
  have hnote : (idle false c tokens k outer).notePlace = some (idle false c tokens k outer) := rfl
  rw [property, hnote]
  simp only [bind, Option.bind]
  rw [show (idle false c tokens (k : Int) outer).cursor = c from rfl, h]
  rfl

theorem token_quote {l : Lexer} (single : Bool) {rest : List Char} {m : Mark}
    (hcursor : l.cursor = ⟨quote single :: rest, m⟩) :
    l.token (quote single) = l.quoted single := by
  cases single <;> simp [token, hcursor, quote, Cursor.atRule]

/-- The style of a quoted scalar. -/
def quotedStyle (single : Bool) : ScalarStyle := if single then .singleQuoted else .doubleQuoted

/-- A quoted text is one scalar. -/
theorem spells_quoted {single : Bool} {write : Char → List Char} {cs written : List Char}
    (h : QuotedText single write cs written) :
    Spells k (' ' :: (quote single :: (written ++ [quote single]) ++ ['\n']))
      [.scalar (quotedStyle single) (String.ofList cs)] := by
  intro j line m tokens outer hj hline hm
  let c : Cursor := ⟨quote single :: (written ++ quote single :: nextLine j line), m.plus 1⟩
  have hnext : (nextLine j line).head? ≠ some '\'' := by simp [nextLine]
  have hfuel : (written ++ quote single :: nextLine j line).length < c.rest.length + 1 := by
    simp only [c, List.length_cons]
    omega
  obtain ⟨m', hscan⟩ := scanQuoted_text h [] hnext (m := c.mark.next) (Nat.succ_ne_zero _) hfuel
  have hquoted : (idle false c tokens k outer).token (quote single) =
      some (idle false ⟨nextLine j line, m'⟩
        (tokens.push ⟨.scalar (quotedStyle single) (String.ofList cs), m.plus 1⟩) k outer) := by
    refine (token_quote single rfl).trans (property_idle ?_ _ _)
    simp only [Cursor.advance, c, List.tail_cons] at hscan ⊢
    rw [hscan]
    rfl
  have hline' : lineStart c.rest = true := by cases single <;> rfl
  have hrest : ' ' :: (quote single :: (written ++ [quote single]) ++ ['\n']) ++
      (List.replicate j ' ' ++ line) = ' ' :: c.rest := by
    simp [c, nextLine]
  refine ⟨(m'.nextLine 1).plus j, tokens.push ⟨.scalar (quotedStyle single) (String.ofList cs),
    m.plus 1⟩, by simp [Mark.nextLine], words_push _ _, ?_⟩
  rw [hrest]
  exact .trans (leads_afterSpace hline' hm hquoted (by simp [idle]; omega))
    (leads_nextLine j hline _)

theorem token_literal {l : Lexer} (hflow : l.places = []) {rest : List Char} {m : Mark}
    (hcursor : l.cursor = ⟨'|' :: rest, m⟩) : l.token '|' = l.block true := by
  simp [token, inFlow, hflow, hcursor, Cursor.atRule]

theorem getLast?_writeLines (afterBreak : Bool) (cs : List Char) :
    (writeLines false afterBreak cs).getLast? = cs.getLast? := by
  induction cs generalizing afterBreak with
  | nil => rfl
  | cons c cs ih =>
    cases hc : isBreak c with
    | true => simp [writeLines, hc, List.getLast?_cons, ih]
    | false => simp [writeLines, hc, List.getLast?_cons, List.getLast?_append, ih]

/-- A block ends in the character in which the text does. -/
theorem getLast?_writeLiteral {cs : List Char} (h : cs ≠ []) :
    (writeLiteral cs).getLast? = cs.getLast? := by
  obtain ⟨z, hz⟩ : ∃ z, cs.getLast? = some z := ⟨_, List.getLast?_eq_some_getLast h⟩
  simp [writeLiteral, List.getLast?_append, List.getLast?_cons, getLast?_writeLines, hz]

/-- A literal block in a member that is indented by two is one scalar. -/
theorem spells_literal {cs : List Char} (h : allowsBlock cs = true) :
    Spells 2 (' ' :: (writeLiteral cs ++ lineEnd (writeLiteral cs)))
      [.scalar .literal (String.ofList cs)] := by
  intro j line m tokens outer hj hline hm
  have hne : cs ≠ [] := by
    rintro rfl
    cases h
  have hend : lineEnd (writeLiteral cs) = lineEnd cs := by
    rw [lineEnd, getLast?_writeLiteral hne, lineEnd]
  let body := (writeLiteral cs).tail ++ (lineEnd cs ++ (List.replicate j ' ' ++ line))
  have hwritten : ' ' :: (writeLiteral cs ++ lineEnd (writeLiteral cs)) ++
      (List.replicate j ' ' ++ line) = ' ' :: '|' :: body := by
    rw [hend]
    simp [body, writeLiteral]
  have hfuel : body.length < ('|' :: body).length + 1 := by
    simp only [List.length_cons]
    omega
  obtain ⟨m', hm', hscan⟩ := scanBlock_literal (by omega) hline (m.plus 1).next h hfuel
  have hblock : (idle false ⟨'|' :: body, m.plus 1⟩ tokens 2 outer).token '|' =
      some (idle true ⟨line, m'⟩ (tokens.push ⟨.scalar .literal (String.ofList cs), m.plus 1⟩) 2
        outer) := by
    have hdrop : (idle false ⟨'|' :: body, m.plus 1⟩ tokens 2 outer).dropPlace =
        some (idle false ⟨'|' :: body, m.plus 1⟩ tokens 2 outer) := rfl
    have hadvance : (idle false ⟨'|' :: body, m.plus 1⟩ tokens 2 outer).cursor.advance =
        ⟨body, (m.plus 1).next⟩ := rfl
    rw [token_literal rfl rfl, block, hdrop]
    simp only [bind, Option.bind, hadvance]
    simp only [idle, body] at hscan ⊢
    rw [hscan]
    rfl
  refine ⟨m', tokens.push ⟨.scalar .literal (String.ofList cs), m.plus 1⟩, hm', words_push _ _, ?_⟩
  rw [hwritten]
  exact leads_afterSpace rfl hm hblock (by simp [idle, body]; omega)

/-! ## Tags -/

theorem scanTag_other (rest : List Char) (m : Mark) :
    scanTag false ⟨"!Other".toList ++ ' ' :: rest, m⟩ =
      some (.tag "!" "Other", ⟨' ' :: rest, m.plus 6⟩) := by
  rfl

theorem token_tag {l : Lexer} (hflow : l.places = []) {rest : List Char} {m : Mark}
    (hcursor : l.cursor = ⟨'!' :: rest, m⟩) : l.token '!' = l.property (scanTag false) := by
  simp [token, inFlow, hflow, hcursor, Cursor.atRule]

/-- A tag in front of a value is one word more. -/
theorem spells_tagged {value : List Char} {ws : List Lexeme} (h : Spells k (' ' :: value) ws) :
    Spells k (' ' :: ("!Other".toList ++ ' ' :: value)) (.tag "!" "Other" :: ws) := by
  intro j line m tokens outer hj hline hm
  let rest := value ++ (List.replicate j ' ' ++ line)
  have htoken : (idle false ⟨"!Other".toList ++ ' ' :: rest, m.plus 1⟩ tokens k outer).token '!' =
      some (idle false ⟨' ' :: rest, (m.plus 1).plus 6⟩
        (tokens.push ⟨.tag "!" "Other", m.plus 1⟩) k outer) :=
    (token_tag rfl rfl).trans (property_idle (scanTag_other rest _) _ _)
  obtain ⟨m', tokens', hm', hwords, hleads⟩ := h j line ((m.plus 1).plus 6)
    (tokens.push ⟨.tag "!" "Other", m.plus 1⟩) outer hj hline
    (by simp only [Mark.plus_column]; omega)
  refine ⟨m', tokens', hm', by rw [hwords, words_push, List.append_assoc]; rfl, ?_⟩
  have hwritten : ' ' :: ("!Other".toList ++ ' ' :: value) ++ (List.replicate j ' ' ++ line) =
      ' ' :: ("!Other".toList ++ ' ' :: rest) := by
    simp [rest]
  rw [hwritten]
  exact .trans (leads_afterSpace rfl hm htoken (by simp [idle])) hleads

/-! ## Texts -/

theorem lineEnd_quoted (q : Char) (hq : isBreak q = false) (cs : List Char) :
    lineEnd (q :: cs ++ [q]) = ['\n'] := by
  rw [lineEnd_concat, hq]
  rfl

/-- A text between double quotes is one scalar. -/
theorem spells_double (cs : List Char) :
    Spells k (' ' :: (writeDouble cs ++ lineEnd (writeDouble cs)))
      [.scalar .doubleQuoted (String.ofList cs)] := by
  rw [writeDouble_eq, lineEnd_quoted '"' rfl]
  exact spells_quoted (quotedText_double cs)

theorem isAmbiguous_empty : isAmbiguous "" = true := by
  decide +kernel

/-- The writer's form of a text is one scalar with that text. -/
theorem spells_text (s : String) : ∃ style,
    Spells 2 (' ' :: (writeText s ++ lineEnd (writeText s))) [.scalar style s] := by
  have hs : String.ofList s.toList = s := String.ofList_toList
  have hdouble : Spells 2 (' ' :: (writeDouble s.toList ++ lineEnd (writeDouble s.toList)))
      [.scalar .doubleQuoted s] := by
    have hspells := spells_double (k := 2) s.toList
    rwa [hs] at hspells
  rw [writeText]
  split
  · split
    · rename_i hblock
      have hspells := spells_literal hblock
      rw [hs] at hspells
      exact ⟨_, hspells⟩
    · exact ⟨_, hdouble⟩
  · rename_i hnewline
    split
    · rename_i hplain
      rw [Bool.and_eq_true, Bool.not_eq_true'] at hplain
      have hne : s.toList ≠ [] := by
        intro hnil
        have hempty : s = "" := by rw [← hs, hnil]
        rw [hempty, isAmbiguous_empty] at hplain
        cases hplain.1
      have hspells := spells_plain (k := 2) (plainScalar_of_allowsPlain hne hplain.2)
      rw [hs] at hspells
      exact ⟨_, hspells⟩
    · split
      · rename_i hquotes
        have hsafe := QuotesSafe.of_allowsQuotes hquotes (by simpa using hnewline)
        have hspells := spells_quoted (k := 2) hsafe.quotedText
        rw [hs] at hspells
        refine ⟨.singleQuoted, ?_⟩
        rw [writeSingle, lineEnd_quoted '\'' rfl]
        exact hspells
      · exact ⟨_, hdouble⟩

end

end ScatterPick.Yaml
