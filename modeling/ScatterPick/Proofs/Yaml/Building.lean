import Mathlib.Data.List.Forall2
import ScatterPick.Yaml.Node.Builder

/-!
# Building nodes from words

Which nodes some words build, whatever the positions of their tokens are. The words of a value are
taken from the front of the tokens, and nothing else of the state changes.
-/

namespace ScatterPick.Yaml

namespace Builder

/-- The words that are left. -/
def lexemes (b : Builder) : List Lexeme := b.tokens.map (·.lexeme)

/-- The state after some tokens. -/
def after (b : Builder) (n : Nat) : Builder := { b with tokens := b.tokens.drop n }

theorem lexemes_after (b : Builder) (n : Nat) : (b.after n).lexemes = b.lexemes.drop n := by
  simp [lexemes, after]

theorem after_after (b : Builder) (n k : Nat) : (b.after n).after k = b.after (n + k) := by
  simp [after]

/-- A state whose next word is known. -/
theorem exists_token {b : Builder} {w : Lexeme} {rest : List Lexeme} (h : b.lexemes = w :: rest) :
    ∃ mark tokens, b = ⟨⟨w, mark⟩ :: tokens, b.handles, b.names, b.anchors, b.anchored⟩ ∧
      tokens.map (·.lexeme) = rest := by
  obtain ⟨tokens, handles, names, anchors, anchored⟩ := b
  simp only [lexemes] at h
  obtain ⟨t, ts, rfl, rfl, rfl⟩ := List.map_eq_cons_iff.mp h
  exact ⟨t.mark, ts, rfl, rfl⟩

/-! ## Scalars -/

/-- A scalar is a node. -/
theorem node_scalar {b : Builder} {style : ScalarStyle} {text : String} {rest : List Lexeme}
    (h : b.lexemes = .scalar style text :: rest) (block loose : Bool) (fuel : Nat) :
    ∃ mark, node block loose (fuel + 2) b =
      some (.scalar mark none style text, b.after 1) := by
  obtain ⟨mark, tokens, hb, -⟩ := exists_token h
  rw [hb]
  exact ⟨mark, rfl⟩

/-- A scalar with a local tag is a node with that tag. -/
theorem node_tagged {b : Builder} (hhandles : b.handles = []) {style : ScalarStyle} {text : String}
    {rest : List Lexeme} (h : b.lexemes = .tag "!" "Other" :: .scalar style text :: rest)
    (block loose : Bool) (fuel : Nat) :
    ∃ mark, node block loose (fuel + 2) b =
      some (.scalar mark (some "!Other") style text, b.after 2) := by
  obtain ⟨mark, tokens, hb, htokens⟩ := exists_token h
  obtain ⟨t, ts, rfl, ht, -⟩ := List.map_eq_cons_iff.mp htokens
  obtain ⟨_, mark'⟩ := t
  obtain rfl := ht
  rw [hb, hhandles]
  exact ⟨mark, rfl⟩

/-! ## Sequences -/

/-- An entry that is a scalar, and further entries. -/
theorem looseItems_cons {b : Builder} {style : ScalarStyle} {text : String} {rest : List Lexeme}
    (h : b.lexemes = .entry :: .scalar style text :: rest) (fuel : Nat) :
    ∃ mark, looseItems (fuel + 3) b = (looseItems (fuel + 2) (b.after 2)).bind fun p =>
      some (.scalar mark none style text :: p.1, p.2) := by
  obtain ⟨mark, tokens, hb, htokens⟩ := exists_token h
  obtain ⟨t, ts, rfl, ht, -⟩ := List.map_eq_cons_iff.mp htokens
  obtain ⟨_, mark'⟩ := t
  obtain rfl := ht
  rw [hb]
  exact ⟨mark', rfl⟩

theorem looseItems_end {b : Builder} (h : b.lexemes.head? ≠ some .entry) (fuel : Nat) :
    looseItems (fuel + 1) b = some ([], b) := by
  obtain ⟨tokens, handles, names, anchors, anchored⟩ := b
  cases tokens with
  | nil => rfl
  | cons t ts =>
    have ht : t.lexeme ≠ .entry := by simpa [lexemes] using h
    rw [looseItems]
    simp [bind, StateT.bind, peek, ht]
    rfl

/-- The node of a plain text. -/
def IsPlain (text : String) (n : Node) : Prop := ∃ mark, n = .scalar mark none .plain text

theorem looseItems_texts {texts : List String} {rest : List Lexeme}
    (hrest : rest.head? ≠ some .entry) {b : Builder}
    (h : b.lexemes = (texts.flatMap fun s => [.entry, .scalar .plain s]) ++ rest) {fuel : Nat}
    (hfuel : texts.length + 2 ≤ fuel) :
    ∃ items, looseItems fuel b = some (items, b.after (2 * texts.length)) ∧
      List.Forall₂ IsPlain texts items := by
  induction texts generalizing b fuel with
  | nil =>
    obtain ⟨fuel, rfl⟩ : ∃ f, fuel = f + 1 := ⟨fuel - 1, by omega⟩
    exact ⟨[], looseItems_end (by rw [h]; exact hrest) fuel, .nil⟩
  | cons text texts ih =>
    rw [List.length_cons] at hfuel
    obtain ⟨fuel, rfl⟩ : ∃ f, fuel = f + 3 := ⟨fuel - 3, by omega⟩
    rw [List.flatMap_cons, List.append_assoc] at h
    obtain ⟨mark, hfirst⟩ := looseItems_cons h fuel
    have hmoreFuel : texts.length + 2 ≤ fuel + 2 := by omega
    obtain ⟨items, hmore, hitems⟩ := ih (b := b.after 2) (by rw [lexemes_after, h]; rfl) hmoreFuel
    have hcount : 2 + 2 * texts.length = 2 * (texts.length + 1) := by omega
    refine ⟨.scalar mark none .plain text :: items, ?_, .cons ⟨mark, rfl⟩ hitems⟩
    rw [hfirst, hmore, Option.bind_some, after_after, hcount]
    rfl

theorem node_entry {b : Builder} {rest : List Lexeme} (h : b.lexemes = .entry :: rest)
    (block : Bool) (fuel : Nat) :
    ∃ mark, node block true (fuel + 2) b =
      (looseItems fuel b).bind fun p => some (.sequence mark none p.1, p.2) := by
  obtain ⟨mark, tokens, hb, -⟩ := exists_token h
  rw [hb]
  exact ⟨mark, rfl⟩

/-! ## Mappings -/

/-- A value that begins with some word is a node. -/
theorem blockValue_cons {b : Builder} {w : Lexeme} {rest : List Lexeme}
    (h : b.lexemes = .value :: w :: rest) (hw : endsMember w = false) (fuel : Nat) :
    blockValue (fuel + 1) b = node true true fuel (b.after 1) := by
  obtain ⟨mark, tokens, hb, htokens⟩ := exists_token h
  obtain ⟨t, ts, rfl, rfl, -⟩ := List.map_eq_cons_iff.mp htokens
  rw [hb, blockValue]
  simp [bind, StateT.bind, peek, skip, hw]
  rfl

/-- A member with a plain key, and further members. -/
theorem blockMembers_cons {b : Builder} {name : String} {w : Lexeme} {rest : List Lexeme}
    (h : b.lexemes = .key :: .scalar .plain name :: .value :: w :: rest)
    (hw : endsMember w = false) (fuel : Nat) :
    ∃ mark, blockMembers (fuel + 4) b = (node true true (fuel + 2) (b.after 3)).bind fun p =>
      (blockMembers (fuel + 3) p.2).bind fun q =>
        some ((.scalar mark none .plain name, p.1) :: q.1, q.2) := by
  have hvalue : blockValue (fuel + 3) (b.after 2) = node true true (fuel + 2) (b.after 3) := by
    rw [blockValue_cons (by rw [lexemes_after, h]; rfl) hw, after_after]
  obtain ⟨mark, tokens, hb, htokens⟩ := exists_token h
  obtain ⟨t, ts, rfl, ht, -⟩ := List.map_eq_cons_iff.mp htokens
  obtain ⟨_, mark'⟩ := t
  obtain rfl := ht
  rw [← hvalue, hb]
  exact ⟨mark', rfl⟩

theorem blockMembers_end {b : Builder} {rest : List Lexeme} (h : b.lexemes = .blockEnd :: rest)
    (fuel : Nat) : blockMembers (fuel + 1) b = some ([], b.after 1) := by
  obtain ⟨mark, tokens, hb, -⟩ := exists_token h
  rw [hb]
  rfl

theorem node_blockMapping {b : Builder} {rest : List Lexeme} (h : b.lexemes = .blockMapping :: rest)
    (loose : Bool) (fuel : Nat) :
    ∃ mark, node true loose (fuel + 2) b =
      (blockMembers fuel (b.after 1)).bind fun p => some (.mapping mark none p.1, p.2) := by
  obtain ⟨mark, tokens, hb, -⟩ := exists_token h
  rw [hb]
  cases loose <;> exact ⟨mark, rfl⟩

theorem node_empty {b : Builder} {rest : List Lexeme}
    (h : b.lexemes = .flowMapping :: .flowMappingEnd :: rest) (block loose : Bool) (fuel : Nat) :
    ∃ mark, node block loose (fuel + 3) b = some (.mapping mark none [], b.after 2) := by
  obtain ⟨mark, tokens, hb, htokens⟩ := exists_token h
  obtain ⟨t, ts, rfl, ht, -⟩ := List.map_eq_cons_iff.mp htokens
  obtain ⟨_, mark'⟩ := t
  obtain rfl := ht
  rw [hb]
  exact ⟨mark, rfl⟩

end Builder

/-! ## Words that build a node -/

open Builder

/-- Words build a node with a property as the value of a member, where no entry follows them. They
do not begin with a word that ends a member. -/
structure Builds (ws : List Lexeme) (P : Node → Prop) : Prop where
  head : ws.head?.any (!endsMember ·) = true
  build : ∀ (b : Builder) (rest : List Lexeme) (fuel : Nat), b.handles = [] →
    b.lexemes = ws ++ rest → rest.head? ≠ some .entry → ws.length + 3 ≤ fuel →
      ∃ n, node true true fuel b = some (n, b.after ws.length) ∧ P n

theorem Builds.imp {ws : List Lexeme} {P Q : Node → Prop} (h : Builds ws P)
    (hPQ : ∀ n, P n → Q n) : Builds ws Q := by
  refine ⟨h.head, fun b rest fuel hhandles hwords hrest hfuel => ?_⟩
  obtain ⟨n, hnode, hn⟩ := h.build b rest fuel hhandles hwords hrest hfuel
  exact ⟨n, hnode, hPQ n hn⟩

/-- Words build members with a property up to the end of their block. -/
structure BuildsMembers (ws : List Lexeme) (Q : List (Node × Node) → Prop) : Prop where
  head : ws.head? ≠ some .entry
  build : ∀ (b : Builder) (rest : List Lexeme) (fuel : Nat), b.handles = [] →
    b.lexemes = ws ++ .blockEnd :: rest → ws.length + 2 ≤ fuel →
      ∃ ms, blockMembers fuel b = some (ms, b.after (ws.length + 1)) ∧ Q ms

theorem builds_scalar (style : ScalarStyle) (text : String) :
    Builds [.scalar style text] fun n => ∃ mark, n = .scalar mark none style text := by
  refine ⟨rfl, fun b rest fuel _ hwords _ hfuel => ?_⟩
  obtain ⟨fuel, rfl⟩ : ∃ f, fuel = f + 2 := ⟨fuel - 2, by omega⟩
  obtain ⟨mark, hnode⟩ := node_scalar hwords true true fuel
  exact ⟨_, hnode, mark, rfl⟩

theorem builds_tagged (style : ScalarStyle) (text : String) :
    Builds [.tag "!" "Other", .scalar style text] fun n =>
      ∃ mark, n = .scalar mark (some "!Other") style text := by
  refine ⟨rfl, fun b rest fuel hhandles hwords _ hfuel => ?_⟩
  obtain ⟨fuel, rfl⟩ : ∃ f, fuel = f + 2 := ⟨fuel - 2, by omega⟩
  obtain ⟨mark, hnode⟩ := node_tagged hhandles hwords true true fuel
  exact ⟨_, hnode, mark, rfl⟩

theorem builds_empty :
    Builds [.flowMapping, .flowMappingEnd] fun n => ∃ mark, n = .mapping mark none [] := by
  refine ⟨rfl, fun b rest fuel _ hwords _ hfuel => ?_⟩
  obtain ⟨fuel, rfl⟩ : ∃ f, fuel = f + 3 := ⟨fuel - 3, by omega⟩
  obtain ⟨mark, hnode⟩ := node_empty hwords true true fuel
  exact ⟨_, hnode, mark, rfl⟩

theorem builds_items {texts : List String} (hne : texts ≠ []) :
    Builds (texts.flatMap fun s => [.entry, .scalar .plain s]) fun n =>
      ∃ mark items, n = .sequence mark none items ∧ List.Forall₂ IsPlain texts items := by
  have hlength : (texts.flatMap fun s => [Lexeme.entry, .scalar .plain s]).length =
      2 * texts.length := by
    simp [List.length_flatMap, Nat.mul_comm]
  obtain ⟨text, more, rfl⟩ := List.exists_cons_of_ne_nil hne
  refine ⟨rfl, fun b rest fuel _ hwords hrest hfuel => ?_⟩
  rw [hlength, List.length_cons] at hfuel
  obtain ⟨fuel, rfl⟩ : ∃ f, fuel = f + 2 := ⟨fuel - 2, by omega⟩
  have hentry : b.lexemes = .entry :: (.scalar .plain text :: ((more.flatMap fun s =>
    [.entry, .scalar .plain s]) ++ rest)) := hwords
  have hitemsFuel : (text :: more).length + 2 ≤ fuel := by
    rw [List.length_cons]
    omega
  obtain ⟨mark, hnode⟩ := node_entry hentry true fuel
  obtain ⟨items, hitems, hplain⟩ := looseItems_texts hrest hwords hitemsFuel
  refine ⟨_, ?_, mark, items, rfl, hplain⟩
  rw [hnode, hitems, hlength]
  rfl

namespace BuildsMembers

theorem imp {ws : List Lexeme} {P Q : List (Node × Node) → Prop} (h : BuildsMembers ws P)
    (hPQ : ∀ ms, P ms → Q ms) : BuildsMembers ws Q := by
  refine ⟨h.head, fun b rest fuel hhandles hwords hfuel => ?_⟩
  obtain ⟨ms, hmembers, hms⟩ := h.build b rest fuel hhandles hwords hfuel
  exact ⟨ms, hmembers, hPQ ms hms⟩

theorem nil : BuildsMembers [] (· = []) := by
  refine ⟨by simp, fun b rest fuel _ hwords hfuel => ?_⟩
  obtain ⟨fuel, rfl⟩ : ∃ f, fuel = f + 1 := ⟨fuel - 1, by omega⟩
  exact ⟨[], blockMembers_end hwords fuel, rfl⟩

theorem cons {name : String} {ws ws' : List Lexeme} {P : Node → Prop}
    {Q : List (Node × Node) → Prop} (hvalue : Builds ws P) (hmore : BuildsMembers ws' Q) :
    BuildsMembers (.key :: .scalar .plain name :: .value :: (ws ++ ws')) fun ms =>
      ∃ mark n rest, ms = (.scalar mark none .plain name, n) :: rest ∧ P n ∧ Q rest := by
  refine ⟨by simp, fun b rest fuel hhandles hwords hfuel => ?_⟩
  obtain ⟨w, tail, rfl⟩ : ∃ w tail, ws = w :: tail := by
    cases ws with
    | nil => cases hvalue.head
    | cons w tail => exact ⟨w, tail, rfl⟩
  have hw : endsMember w = false := by simpa using hvalue.head
  simp only [List.length_cons, List.length_append] at hfuel
  obtain ⟨fuel, rfl⟩ : ∃ f, fuel = f + 4 := ⟨fuel - 4, by omega⟩
  have hmember : b.lexemes = .key :: .scalar .plain name :: .value :: w ::
      (tail ++ (ws' ++ .blockEnd :: rest)) := by
    rw [hwords]
    simp
  obtain ⟨mark, hfirst⟩ := blockMembers_cons hmember hw fuel
  have hrest : (ws' ++ .blockEnd :: rest).head? ≠ some .entry := by
    have hhead := hmore.head
    cases ws' with
    | nil => simp
    | cons w' tail' => exact hhead
  obtain ⟨n, hnode, hn⟩ := hvalue.build (b.after 3) (ws' ++ .blockEnd :: rest) (fuel + 2) hhandles
    (by rw [lexemes_after, hwords]; simp) hrest (by rw [List.length_cons]; omega)
  obtain ⟨ms, hmembers, hms⟩ := hmore.build ((b.after 3).after (w :: tail).length) rest (fuel + 3)
    hhandles (by rw [lexemes_after, lexemes_after, hwords]; simp) (by omega)
  refine ⟨_, ?_, mark, n, ms, rfl, hn, hms⟩
  rw [hfirst, hnode, Option.bind_some, hmembers, Option.bind_some]
  simp only [after_after, List.length_cons, List.length_append]
  congr 3
  omega

end BuildsMembers

/-- Members between the words for a start and an end build a mapping. -/
theorem builds_group {ws : List Lexeme} {Q : List (Node × Node) → Prop} (h : BuildsMembers ws Q) :
    Builds (.blockMapping :: (ws ++ [.blockEnd])) fun n =>
      ∃ mark ms, n = .mapping mark none ms ∧ Q ms := by
  refine ⟨rfl, fun b rest fuel hhandles hwords _ hfuel => ?_⟩
  simp only [List.length_cons, List.length_append, List.length_nil] at hfuel
  obtain ⟨fuel, rfl⟩ : ∃ f, fuel = f + 2 := ⟨fuel - 2, by omega⟩
  obtain ⟨mark, hnode⟩ := node_blockMapping hwords true fuel
  obtain ⟨ms, hmembers, hms⟩ := h.build (b.after 1) rest fuel hhandles
    (by rw [lexemes_after, hwords]; simp) (by omega)
  refine ⟨_, ?_, mark, ms, rfl, hms⟩
  rw [hnode, hmembers, Option.bind_some]
  simp only [after_after, List.length_cons, List.length_append, List.length_nil]
  congr 3
  omega

theorem root_blockMapping {b : Builder} {rest : List Lexeme}
    (h : b.lexemes = .blockMapping :: rest) (fuel : Nat) : root fuel b = node true false fuel b := by
  obtain ⟨mark, tokens, hb, -⟩ := exists_token h
  rw [hb]
  rfl

theorem documentEnds_streamEnd {b : Builder} {rest : List Lexeme}
    (h : b.lexemes = .streamEnd :: rest) (fuel : Nat) :
    documentEnds (fuel + 1) b = some ((), b) := by
  obtain ⟨mark, tokens, hb, -⟩ := exists_token h
  rw [hb]
  rfl

/-- Members between the words for a start and an end build a document. -/
theorem ofTokens?_members {ws : List Lexeme} {Q : List (Node × Node) → Prop}
    (h : BuildsMembers ws Q) {tokens : List Token}
    (hwords : tokens.map (·.lexeme) = .blockMapping :: (ws ++ [.blockEnd, .streamEnd])) :
    ∃ d mark ms, Document.ofTokens? tokens = some d ∧ d.root = .mapping mark none ms ∧ Q ms := by
  let b : Builder := ⟨tokens, [], [], 0, []⟩
  have hlexemes : b.lexemes = .blockMapping :: (ws ++ [.blockEnd, .streamEnd]) := hwords
  have hlength : tokens.length = ws.length + 3 := by
    have hcount := congrArg List.length hwords
    simpa using hcount
  obtain ⟨fuel, hfuel⟩ : ∃ fuel, 3 * tokens.length + 3 = fuel + 2 :=
    ⟨3 * tokens.length + 1, by omega⟩
  obtain ⟨mark, hnode⟩ := node_blockMapping hlexemes false fuel
  obtain ⟨ms, hmembers, hms⟩ := h.build (b.after 1) [.streamEnd] fuel rfl
    (by rw [lexemes_after, hlexemes]; rfl) (by omega)
  have hlast : ((b.after 1).after (ws.length + 1)).lexemes = [.streamEnd] := by
    rw [lexemes_after, lexemes_after, hlexemes]
    simp
  have hend := documentEnds_streamEnd hlast (fuel + 1)
  have hroot : root (fuel + 2) b =
      some (.mapping mark none ms, (b.after 1).after (ws.length + 1)) := by
    rw [root_blockMapping hlexemes, hnode, hmembers, Option.bind_some]
  refine ⟨⟨.mapping mark none ms, b.anchored⟩, mark, ms, ?_, rfl, hms⟩
  rw [Document.ofTokens?, hfuel]
  simp only [bind, StateT.bind, Option.bind]
  simp only [b] at hroot hend
  rw [hroot]
  simp only [hend]
  rfl

end ScatterPick.Yaml
