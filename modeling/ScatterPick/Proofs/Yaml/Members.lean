import ScatterPick.Proofs.Yaml.Scalars

/-!
# Scanning groups and sequences

The members of a group spell their words one after the other, and so does a whole text of members.
A sequence of plain scalars needs no indentation of its own.
-/

namespace ScatterPick.Yaml

open Lexer

/-- What stands after the colon of a member that is indented by some spaces. -/
def Block.value (indent : Nat) : Block → List Char
  | .scalar chars => ' ' :: (chars ++ lineEnd chars)
  | .items scalars =>
    '\n' :: scalars.flatMap fun s => List.replicate indent ' ' ++ ['-', ' '] ++ s ++ ['\n']
  | .group members => '\n' :: writeMembers (indent + 2) members

theorem Block.write_eq (indent : Nat) (name : String) (b : Block) :
    b.write indent name = List.replicate indent ' ' ++ (name.toList ++ ':' :: b.value indent) := by
  cases b <;> simp [Block.write, Block.value, lineEnd]

theorem Block.value_isGap (indent : Nat) (b : Block) (rest : List Char) :
    (b.value indent ++ rest).head?.all isGap = true := by
  cases b <;> rfl

/-! ## Members -/

/-- A member of a group with the words that its value spells. -/
structure SpelledMember where
  name : String
  block : Block
  value : List Lexeme

/-- A member as the writer takes it. -/
def SpelledMember.entry (m : SpelledMember) : String × Block := (m.name, m.block)

/-- The words of a member. -/
def SpelledMember.words (m : SpelledMember) : List Lexeme :=
  .key :: .scalar .plain m.name :: .value :: m.value

/-- A member can be scanned if it is indented by `k`. -/
structure SpelledMember.Fits (k : Nat) (m : SpelledMember) : Prop where
  name : isFieldName m.name.toList = true
  value : Spells k (m.block.value k) m.value

/-- A member leads from its name to the start of the next line. -/
theorem leads_member {k : Nat} {e : SpelledMember} (h : e.Fits k) {j : Nat} (hj : j ≤ k)
    {line : List Char} (hline : lineStart line = true) {m : Mark} (hm : m.column = k)
    (tokens : Array Token) {indent : Int} (hindent : indent ≤ k) (outer : List Int) :
    ∃ m' tokens', m'.column = j ∧ words tokens' =
        words tokens ++ ((if indent < k then [.blockMapping] else []) ++ e.words) ∧
      (idle true ⟨e.name.toList ++ ':' :: (e.block.value k ++ (List.replicate j ' ' ++ line)), m⟩
        tokens indent outer).Leads
          (idle true ⟨line, m'⟩ tokens' k (if indent < k then indent :: outer else outer)) := by
  subst hm
  obtain ⟨tokens₁, hwords₁, hkey⟩ := leads_key h.name
    (e.block.value_isGap m.column (List.replicate j ' ' ++ line)) hindent tokens outer
  obtain ⟨m', tokens₂, hm', hwords₂, hvalue⟩ := h.value j line (m.plus (e.name.toList.length + 1))
    tokens₁ (if indent < m.column then indent :: outer else outer) hj hline
    (by simp only [Mark.plus_column]; omega)
  refine ⟨m', tokens₂, hm', ?_, hkey.trans hvalue⟩
  rw [hwords₂, hwords₁, String.ofList_toList]
  simp [SpelledMember.words]

/-- The indentation of what follows in front of further members. -/
def nextIndent (k : Nat) (es : List SpelledMember) (j : Nat) : Nat := if es.isEmpty then j else k

/-- What follows after its indentation in front of further members. -/
def nextText (k : Nat) (j : Nat) (line : List Char) : List SpelledMember → List Char
  | [] => line
  | e :: es => e.name.toList ++ ':' :: (e.block.value k ++
      (writeMembers k (es.map SpelledMember.entry) ++ (List.replicate j ' ' ++ line)))

theorem writeMembers_append (k : Nat) (es : List SpelledMember) (j : Nat) (line : List Char) :
    writeMembers k (es.map SpelledMember.entry) ++ (List.replicate j ' ' ++ line) =
      List.replicate (nextIndent k es j) ' ' ++ nextText k j line es := by
  cases es with
  | nil => rfl
  | cons e es =>
    simp [writeMembers, SpelledMember.entry, Block.write_eq, nextIndent, nextText]

theorem lineStart_name {name : List Char} (h : isFieldName name = true) (rest : List Char) :
    lineStart (name ++ rest) = true := by
  obtain ⟨a, tail, rfl, hgap, hindicator, -, hbom⟩ := isFieldName_cons h
  have hcomment : a ≠ '#' := by
    rintro rfl
    cases hindicator
  simp [lineStart, hgap, hcomment, hbom]

theorem lineStart_nextText {k : Nat} {es : List SpelledMember} (h : ∀ e ∈ es, e.Fits k) (j : Nat)
    {line : List Char} (hline : lineStart line = true) :
    lineStart (nextText k j line es) = true := by
  cases es with
  | nil => exact hline
  | cons e es => exact lineStart_name (h e List.mem_cons_self).name _

/-- Members lead from the first name to the line after them. -/
theorem leads_members {k : Nat} {es : List SpelledMember} (h : ∀ e ∈ es, e.Fits k) {j : Nat}
    (hj : j ≤ k) {line : List Char} (hline : lineStart line = true) {m : Mark}
    (hm : m.column = nextIndent k es j) (tokens : Array Token) (outer : List Int) :
    ∃ m' tokens', m'.column = j ∧ words tokens' = words tokens ++ es.flatMap SpelledMember.words ∧
      (idle true ⟨nextText k j line es, m⟩ tokens k outer).Leads
        (idle true ⟨line, m'⟩ tokens' k outer) := by
  induction es generalizing m tokens with
  | nil => exact ⟨m, tokens, hm, (List.append_nil _).symm, .refl _⟩
  | cons e es ih =>
    have hrest : ∀ e ∈ es, e.Fits k := fun e he => h e (List.mem_cons_of_mem _ he)
    have hindent : nextIndent k es j ≤ k := by
      rw [nextIndent]
      split <;> omega
    obtain ⟨m₁, tokens₁, hm₁, hwords₁, hfirst⟩ := leads_member (h e List.mem_cons_self) hindent
      (lineStart_nextText hrest j hline) hm tokens (Int.le_refl _) outer
    obtain ⟨m₂, tokens₂, hm₂, hwords₂, hmore⟩ := ih hrest hm₁ tokens₁
    rw [if_neg (Int.lt_irrefl _)] at hwords₁ hfirst
    refine ⟨m₂, tokens₂, hm₂, ?_, ?_⟩
    · rw [hwords₂, hwords₁, List.flatMap_cons, List.nil_append, List.append_assoc]
    · rw [nextText, writeMembers_append]
      exact hfirst.trans hmore

/-! ## Groups -/

/-- Members that are indented deeper than what is around them begin a block. -/
theorem leads_block {k : Nat} {e : SpelledMember} {es : List SpelledMember}
    (h : ∀ e' ∈ e :: es, e'.Fits k) {j : Nat} (hj : j ≤ k) {line : List Char}
    (hline : lineStart line = true) {m : Mark} (hm : m.column = k) (tokens : Array Token)
    {indent : Int} (hindent : indent < k) (outer : List Int) :
    ∃ m' tokens', m'.column = j ∧ words tokens' =
        words tokens ++ .blockMapping :: (e :: es).flatMap SpelledMember.words ∧
      (idle true ⟨nextText k j line (e :: es), m⟩ tokens indent outer).Leads
        (idle true ⟨line, m'⟩ tokens' k (indent :: outer)) := by
  have hrest : ∀ e ∈ es, e.Fits k := fun e he => h e (List.mem_cons_of_mem _ he)
  have hnext : nextIndent k es j ≤ k := by
    rw [nextIndent]
    split <;> omega
  obtain ⟨m₁, tokens₁, hm₁, hwords₁, hfirst⟩ := leads_member (h e List.mem_cons_self) hnext
    (lineStart_nextText hrest j hline) hm tokens (Int.le_of_lt hindent) outer
  obtain ⟨m₂, tokens₂, hm₂, hwords₂, hmore⟩ :=
    leads_members hrest hj hline hm₁ tokens₁ (indent :: outer)
  rw [if_pos hindent] at hwords₁ hfirst
  refine ⟨m₂, tokens₂, hm₂, ?_, ?_⟩
  · rw [hwords₂, hwords₁, List.flatMap_cons]
    simp
  · rw [nextText, writeMembers_append]
    exact hfirst.trans hmore

/-- A group spells its members between the words for its start and its end. -/
theorem spells_group {k : Nat} {es : List SpelledMember} (hne : es ≠ [])
    (h : ∀ e ∈ es, e.Fits (k + 2)) :
    Spells k (Block.value k (.group (es.map SpelledMember.entry)))
      (.blockMapping :: (es.flatMap SpelledMember.words ++ [.blockEnd])) := by
  intro j line m tokens outer hj hline hm
  obtain ⟨e, es, rfl⟩ := List.exists_cons_of_ne_nil hne
  have hdeeper : (k : Int) < (k + 2 : Nat) := by omega
  obtain ⟨m', tokens', hm', hwords, hblock⟩ := leads_block h (show j ≤ k + 2 by omega) hline
    (m := (m.nextLine 1).plus (k + 2)) (Nat.zero_add _) tokens hdeeper outer
  have hclose : (idle true ⟨line, m'⟩ tokens' (k + 2 : Nat) (k :: outer)).Leads
      (idle true ⟨line, m'⟩ (tokens'.push ⟨.blockEnd, m'⟩) k outer) :=
    leads_close hline (by rw [hm']; omega)
  have hwritten : Block.value k (.group ((e :: es).map SpelledMember.entry)) ++
      (List.replicate j ' ' ++ line) = nextLine (k + 2) (nextText (k + 2) j line (e :: es)) := by
    rw [Block.value, List.cons_append, writeMembers_append]
    rfl
  refine ⟨m', tokens'.push ⟨.blockEnd, m'⟩, hm', ?_, ?_⟩
  · rw [words_push, hwords]
    simp
  · rw [hwritten]
    exact (leads_nextLine _ (lineStart_nextText h j hline) m).trans (hblock.trans hclose)

/-! ## Empty mappings -/

/-- A mapping without members, as it is written after a colon. -/
def Block.empty : Block := .scalar ['\x7b', '\x7d']

theorem token_openBrace {l : Lexer} {rest : List Char} {m : Mark}
    (hcursor : l.cursor = ⟨'\x7b' :: rest, m⟩) : l.token '\x7b' = l.openFlow .flowMapping := by
  simp [token, hcursor, Cursor.atRule]

theorem token_closeBrace {l : Lexer} {rest : List Char} {m : Mark}
    (hcursor : l.cursor = ⟨'\x7d' :: rest, m⟩) : l.token '\x7d' = l.closeFlow .flowMappingEnd := by
  simp [token, hcursor, Cursor.atRule]

/-- A mapping without members spells its braces. -/
theorem spells_empty {k : Nat} :
    Spells k (Block.empty.value k) [.flowMapping, .flowMappingEnd] := by
  intro j line m tokens outer hj hline hm
  let tail := '\x7d' :: nextLine j line
  let inside : Lexer :=
    { cursor := ⟨tail, (m.plus 1).next⟩, tokens := tokens.push ⟨.flowMapping, m.plus 1⟩
      indent := k, outer, place := none, places := [none], keyAllowed := true }
  let behind : Lexer := idle false ⟨nextLine j line, (m.plus 1).next.next⟩
    (inside.tokens.push ⟨.flowMappingEnd, (m.plus 1).next⟩) k outer
  have hopen : (idle false ⟨'\x7b' :: tail, m.plus 1⟩ tokens k outer).token '\x7b' = some inside :=
    token_openBrace rfl
  have hsettle : inside.settle = some inside := by
    rw [settle, skipGap_spaces 0 rfl rfl]
    rfl
  have hclose : inside.token '\x7d' = some behind := token_closeBrace rfl
  have hfirst : (idle false ⟨' ' :: '\x7b' :: tail, m⟩ tokens k outer).Leads inside :=
    leads_afterSpace rfl hm hopen (by simp [inside])
  have hsecond : inside.Leads behind :=
    .of_token hsettle rfl hclose (by simp [inside, behind, tail, idle])
  refine ⟨((m.plus 1).next.next.nextLine 1).plus j, _, Nat.zero_add j, ?_,
    hfirst.trans (hsecond.trans (leads_nextLine j hline _))⟩
  rw [words_push, words_push, List.append_assoc]
  rfl

/-! ## Sequences -/

/-- The words of plain entries. -/
def itemWords (scalars : List (List Char)) : List Lexeme :=
  scalars.flatMap fun cs => [.entry, .scalar .plain (String.ofList cs)]

/-- The lines of some entries. -/
def itemLines (k : Nat) (scalars : List (List Char)) : List Char :=
  scalars.flatMap fun cs => List.replicate k ' ' ++ ['-', ' '] ++ cs ++ ['\n']

/-- What follows after its indentation in front of further entries. -/
def nextItem (k j : Nat) (line : List Char) : List (List Char) → List Char
  | [] => line
  | cs :: rest => '-' :: ' ' :: (cs ++ '\n' :: (itemLines k rest ++ (List.replicate j ' ' ++ line)))

theorem itemLines_append (k j : Nat) (line : List Char) (scalars : List (List Char)) :
    itemLines k scalars ++ (List.replicate j ' ' ++ line) =
      List.replicate (if scalars.isEmpty then j else k) ' ' ++ nextItem k j line scalars := by
  cases scalars <;> simp [itemLines, nextItem]

/-- Entries lead from the first dash to the line after them. -/
theorem leads_items {k : Nat} {scalars : List (List Char)} (h : ∀ cs ∈ scalars, PlainScalar cs)
    {j : Nat} (hj : j ≤ k) {line : List Char} (hline : lineStart line = true) {m : Mark}
    (hm : m.column = if scalars.isEmpty then j else k) (tokens : Array Token) (outer : List Int) :
    ∃ m' tokens', m'.column = j ∧ words tokens' = words tokens ++ itemWords scalars ∧
      (idle true ⟨nextItem k j line scalars, m⟩ tokens k outer).Leads
        (idle true ⟨line, m'⟩ tokens' k outer) := by
  induction scalars generalizing m tokens with
  | nil => exact ⟨m, tokens, hm, (List.append_nil _).symm, .refl _⟩
  | cons cs rest ih =>
    have hrest : ∀ cs ∈ rest, PlainScalar cs := fun cs hcs => h cs (List.mem_cons_of_mem _ hcs)
    have hm : m.column = k := hm
    let j' := if rest.isEmpty then j else k
    have hj' : j' ≤ k := by
      simp only [j']
      split <;> omega
    have hnext : lineStart (nextItem k j line rest) = true := by
      cases rest with
      | nil => exact hline
      | cons _ _ => rfl
    have hwritten : nextItem k j line (cs :: rest) =
        '-' :: ' ' :: (cs ++ nextLine j' (nextItem k j line rest)) := by
      rw [nextItem, itemLines_append]
      rfl
    have hentry : (idle true ⟨nextItem k j line (cs :: rest), m⟩ tokens k outer).Leads
        (idle true ⟨' ' :: (cs ++ nextLine j' (nextItem k j line rest)), m.next⟩
          (tokens.push ⟨.entry, m⟩) k outer) := by
      rw [hwritten]
      exact leads_entry rfl _ (by rw [hm])
    have hplain : ∃ m₁, m₁.column = j' ∧
        (idle true ⟨List.replicate 1 ' ' ++ (cs ++ nextLine j' (nextItem k j line rest)), m.next⟩
          (tokens.push ⟨.entry, m⟩) k outer).Leads
            (idle true ⟨nextItem k j line rest, m₁⟩ ((tokens.push ⟨.entry, m⟩).push
              ⟨.scalar .plain (String.ofList cs), m.next.plus 1⟩) k outer) :=
      leads_plain (h cs List.mem_cons_self) 1 (Nat.succ_ne_zero _)
        (by simp only [Mark.next]; omega) (Int.ofNat_le.mpr hj') hnext
    obtain ⟨m₁, hm₁, hscalar⟩ := hplain
    obtain ⟨m₂, tokens₂, hm₂, hwords, hmore⟩ := ih hrest hm₁ _
    refine ⟨m₂, tokens₂, hm₂, ?_, hentry.trans (hscalar.trans hmore)⟩
    rw [hwords]
    simp [itemWords]

/-- A sequence spells its entries. -/
theorem spells_items {k : Nat} {scalars : List (List Char)} (hne : scalars ≠ [])
    (h : ∀ cs ∈ scalars, PlainScalar cs) :
    Spells k (Block.value k (.items scalars)) (itemWords scalars) := by
  intro j line m tokens outer hj hline hm
  obtain ⟨cs, rest, rfl⟩ := List.exists_cons_of_ne_nil hne
  obtain ⟨m', tokens', hm', hwords, hleads⟩ := leads_items h hj hline
    (m := (m.nextLine 1).plus k) (Nat.zero_add _) tokens outer
  have hwritten : Block.value k (.items (cs :: rest)) ++ (List.replicate j ' ' ++ line) =
      nextLine k (nextItem k j line (cs :: rest)) :=
    congrArg ('\n' :: ·) (itemLines_append k j line (cs :: rest))
  refine ⟨m', tokens', hm', hwords, ?_⟩
  rw [hwritten]
  exact (leads_nextLine k rfl m).trans hleads

/-! ## Whole texts -/

/-- The last block ends with the text. -/
theorem finish_idle {m : Mark} (hm : m.column = 0) (tokens : Array Token) :
    ∃ tokens', words tokens' = words tokens ++ [.blockEnd, .streamEnd] ∧ ∀ fuel,
      (idle true ⟨[], m⟩ tokens 0 [-1]).run (fuel + 1) = some tokens' := by
  have hsettle : (idle true ⟨[], m⟩ tokens 0 [-1]).settle =
      some (idle true ⟨[], m⟩ tokens 0 [-1]) := by
    rw [settle_lineStart rfl, closeBlocks_of_le (by simp [idle])]
  have hclose : (idle true ⟨[], m⟩ tokens 0 [-1]).closeBlocks (-1) =
      idle true ⟨[], m⟩ (tokens.push ⟨.blockEnd, m⟩) (-1) [] := by
    rw [closeBlocks_of_lt (by decide)]
    exact closeBlocks_of_le (Int.le_refl (-1))
  have hfinish : (idle true ⟨[], m⟩ tokens 0 [-1]).finish = some ((idle false ⟨[], m⟩
      (tokens.push ⟨.blockEnd, m⟩) (-1) []).push .streamEnd m) := by
    have hmove : (idle true ⟨[], m⟩ tokens 0 [-1]).moveTo ⟨[], m⟩ =
        idle true ⟨[], m⟩ tokens 0 [-1] := rfl
    rw [finish]
    simp only [idle] at hmove hclose ⊢
    simp only [hm, if_true, hmove, hclose, bind, Option.bind]
    rfl
  refine ⟨(tokens.push ⟨.blockEnd, m⟩).push ⟨.streamEnd, m⟩, by simp, fun fuel => ?_⟩
  rw [run_succ, hsettle, Option.bind_some]
  simp only [idle, Cursor.peek, List.head?_nil] at hfinish ⊢
  rw [hfinish]
  rfl

/-- A text of members is a group without a name. -/
theorem scan_members {es : List SpelledMember} (hne : es ≠ []) (h : ∀ e ∈ es, e.Fits 0)
    (hallowed : (writeMembers 0 (es.map SpelledMember.entry)).all isAllowed = true) :
    ∃ tokens, scan (writeMembers 0 (es.map SpelledMember.entry)) = some tokens ∧
      words tokens = .blockMapping :: (es.flatMap SpelledMember.words ++ [.blockEnd, .streamEnd]) := by
  obtain ⟨e, es, rfl⟩ := List.exists_cons_of_ne_nil hne
  have htext : writeMembers 0 ((e :: es).map SpelledMember.entry) = nextText 0 0 [] (e :: es) := by
    have happend := writeMembers_append 0 (e :: es) 0 []
    rwa [List.replicate_zero, List.append_nil, List.append_nil] at happend
  have hempty : lineStart [] = true := rfl
  have houtside : (-1 : Int) < (0 : Nat) := by decide
  obtain ⟨m', tokens', hm', hwords, n, hlength, hrun⟩ :=
    leads_block h (Nat.le_refl 0) hempty (m := .start) rfl #[] houtside []
  obtain ⟨tokens, hfinal, hfinish⟩ := finish_idle hm' tokens'
  refine ⟨tokens, ?_, ?_⟩
  · obtain ⟨fuel, hfuel⟩ : ∃ fuel, (nextText 0 0 [] (e :: es)).length + 1 = fuel + 1 + n := by
      simp only [idle, List.length_nil, Nat.add_zero] at hlength
      exact ⟨(nextText 0 0 [] (e :: es)).length - n, by omega⟩
    have hfinal := (hrun (fuel + 1)).trans (hfinish fuel)
    rw [scan, if_pos hallowed, htext, hfuel]
    exact hfinal
  · rw [hfinal, hwords]
    simp [words]

end ScatterPick.Yaml
