import Mathlib.Data.List.Induction
import ScatterPick.Proofs.Text.Runs
import ScatterPick.Proofs.Yaml.Literal
import ScatterPick.Yaml.Printer

/-!
# Texts as literal blocks

A text that is written as a literal block is scanned as it was. What the mark of the block says of
the breaks at the end of the text, and the break that the writer adds where there is none, go
together.
-/

namespace ScatterPick.Yaml

/-- What ends the line of a scalar: nothing, if the scalar itself does. -/
def lineEnd (cs : List Char) : List Char := if cs.getLast?.any isBreak then [] else ['\n']

/-- A text is followed by the breaks at its end. -/
theorem exists_trailing (cs : List Char) : ∃ core trailing, cs = core ++ trailing ∧
    trailing.all isBreak = true ∧ core.getLast?.all (!isBreak ·) = true := by
  induction cs using List.reverseRecOn with
  | nil => exact ⟨[], [], rfl, rfl, rfl⟩
  | append_singleton cs c ih =>
    cases hc : isBreak c with
    | true =>
      obtain ⟨core, trailing, rfl, htrailing, hcore⟩ := ih
      exact ⟨core, trailing ++ [c], by simp, by simp [htrailing, hc], hcore⟩
    | false => exact ⟨cs ++ [c], [], by simp, rfl, by simp [hc]⟩

/-- A text that starts and ends inside of a line consists of lines. -/
theorem lined_of_ends {cs : List Char} (hkept : ∀ c ∈ cs, isBreak c = true → isKeptBreak c = true) :
    cs.head?.any (!isBreak ·) = true → cs.getLast?.any (!isBreak ·) = true → Lined cs := by
  induction cs using Text.runs_induction isBreak with
  | word w hw =>
    intro hhead _
    cases w with
    | nil => cases hhead
    | cons a line => exact .line hw
  | gap w g rest hw hg hgap hrest ih =>
    intro hhead hlast
    obtain ⟨b, bs, rfl⟩ := List.exists_cons_of_ne_nil hg
    have hbs : (b :: bs).all isKeptBreak = true := List.all_eq_true.mpr fun c hc =>
      hkept c (List.mem_append_right _ (List.mem_append_left _ hc)) (List.all_eq_true.mp hgap c hc)
    cases w with
    | nil =>
      rw [List.all_cons, Bool.and_eq_true] at hgap
      simp [hgap.1] at hhead
    | cons a line =>
      cases rest with
      | nil =>
        obtain ⟨z, hz⟩ : ∃ z, (b :: bs).getLast? = some z := ⟨_, List.getLast?_cons⟩
        rw [List.append_nil, List.getLast?_append, hz, Option.some_or] at hlast
        simp [List.all_eq_true.mp hgap z (List.mem_of_getLast? hz)] at hlast
      | cons c rest =>
        rw [List.getLast?_append, List.getLast?_append, List.getLast?_cons, Option.some_or,
          Option.some_or, ← List.getLast?_cons] at hlast
        exact .more hw hbs (ih (fun d hd => hkept d (by simp [hd])) (by simpa using hrest) hlast)

theorem writeLines_concat {b : Char} (hb : isBreak b = true) (afterBreak : Bool) (cs : List Char) :
    writeLines false afterBreak (cs ++ [b]) = writeLines false afterBreak cs ++ [b] := by
  induction cs generalizing afterBreak with
  | nil => simp [writeLines, hb]
  | cons c cs ih =>
    cases hc : isBreak c with
    | true => simp [writeLines, hc, ih]
    | false => simp [writeLines, hc, ih]

theorem isKeptBreak_of_printable {c : Char} (hprintable : isPrintable c = true)
    (hbreak : isBreak c = true) : isKeptBreak c = true := by
  simp only [isBreak, Bool.or_eq_true, decide_eq_true_eq] at hbreak
  rcases hbreak with (((rfl | rfl) | rfl) | rfl) | rfl
  · rfl
  · cases hprintable
  · cases hprintable
  · rfl
  · rfl

theorem chompMark_concat (cs : List Char) (b : Char) : chompMark (cs ++ [b]) =
    if isBreak b then if (cs.getLast?.map isBreak).getD true then ['+'] else [] else ['-'] := by
  rw [chompMark, List.reverse_append, List.reverse_singleton, List.singleton_append]
  cases hb : isBreak b <;> simp [hb]

/-- Only what stands at the end decides what ends the line. -/
theorem lineEnd_append {front : List Char} (h : front.getLast?.any isBreak = false)
    (cs : List Char) : lineEnd (front ++ cs) = lineEnd cs := by
  cases hlast : cs.getLast? with
  | none => simp [lineEnd, List.getLast?_append, hlast, h]
  | some z => simp [lineEnd, List.getLast?_append, hlast]

theorem lineEnd_concat (cs : List Char) (b : Char) :
    lineEnd (cs ++ [b]) = if isBreak b then [] else ['\n'] := by
  simp [lineEnd]

/-- A text of breaks keeps all of them. -/
theorem chompMark_breaks {cs : List Char} (hne : cs ≠ []) (h : cs.all isBreak = true) :
    chompMark cs = Chomp.keep.mark ∧ lineEnd cs = [] := by
  obtain ⟨front, b, rfl⟩ : ∃ front b, cs = front ++ [b] :=
    ⟨_, _, (List.dropLast_concat_getLast hne).symm⟩
  have hb : isBreak b = true := List.all_eq_true.mp h b (by simp)
  have hfront : (front.getLast?.map isBreak).getD true = true := by
    cases hlast : front.getLast? with
    | none => rfl
    | some c =>
      exact List.all_eq_true.mp h c (List.mem_append_left _ (List.mem_of_getLast? hlast))
  rw [chompMark_concat, lineEnd_concat, if_pos hb, if_pos hfront, if_pos hb]
  exact ⟨rfl, rfl⟩

/-- What a block says of the end of a text. After its last line there are some breaks, of which one
may be added by the writer, and the block keeps those of the text. -/
structure Ends (cs core : List Char) (chomp : Chomp) (b : Char) (bs : List Char) : Prop where
  breaks : (b :: bs).all isKeptBreak = true
  mark : chompMark cs = chomp.mark
  full : cs ++ lineEnd cs = core ++ b :: bs
  text : cs = core ++ chomp.ending [b] bs

/-- Which breaks a block keeps after a last line shows in their number. -/
theorem exists_ends (init : List Char) {x : Char} (hx : isBreak x = false) {trailing : List Char}
    (htrailing : trailing.all isKeptBreak = true) :
    ∃ chomp b bs, Ends (init ++ [x] ++ trailing) (init ++ [x]) chomp b bs := by
  have hbreak {c : Char} (hc : c ∈ trailing) : isBreak c = true :=
    isBreak_of_kept (List.all_eq_true.mp htrailing c hc)
  rcases List.eq_nil_or_concat trailing with rfl | ⟨front, b, rfl⟩
  · -- The text ends in its last line.
    refine ⟨.strip, '\n', [], rfl, ?_, ?_, rfl⟩
    · rw [List.append_nil, chompMark_concat, hx]
      rfl
    · rw [List.append_nil, lineEnd_concat, hx]
      rfl
  rw [List.concat_eq_append] at *
  have hb : isBreak b = true := hbreak (by simp)
  have hend : lineEnd (init ++ [x] ++ (front ++ [b])) = [] := by
    rw [← List.append_assoc, lineEnd_concat, if_pos hb]
  cases front with
  | nil =>
    -- One break ends the last line.
    refine ⟨.clip, b, [], htrailing, ?_, by rw [hend, List.append_nil]; rfl, rfl⟩
    rw [List.nil_append, chompMark_concat, if_pos hb, List.getLast?_concat, Option.map_some, hx]
    rfl
  | cons c front =>
    have hkeep : ((init ++ [x] ++ (c :: front)).getLast?.map isBreak).getD true = true := by
      obtain ⟨z, hz⟩ : ∃ z, (c :: front).getLast? = some z := ⟨_, List.getLast?_cons⟩
      rw [List.getLast?_append, hz]
      exact hbreak (List.mem_append_left _ (List.mem_of_getLast? hz))
    refine ⟨.keep, c, front ++ [b], htrailing, ?_, by rw [hend, List.append_nil]; rfl, rfl⟩
    rw [← List.append_assoc, chompMark_concat, if_pos hb, if_pos hkeep]
    rfl

/-- Breaks may stand in front of the first line. -/
theorem exists_lined {core : List Char}
    (hkept : ∀ c ∈ core, isBreak c = true → isKeptBreak c = true)
    (hlast : core.getLast?.any (!isBreak ·) = true) :
    ∃ front lines, core = front ++ lines ∧ front.all isKeptBreak = true ∧ Lined lines := by
  have hsplit : core.takeWhile isBreak ++ core.dropWhile isBreak = core :=
    List.takeWhile_append_dropWhile
  have hfront : (core.takeWhile isBreak).all isBreak = true := List.all_takeWhile
  have hhead := List.head?_dropWhile_not isBreak core
  refine ⟨core.takeWhile isBreak, core.dropWhile isBreak, hsplit.symm, ?_, ?_⟩
  · exact List.all_eq_true.mpr fun c hc =>
      hkept c (hsplit ▸ List.mem_append_left _ hc) (List.all_eq_true.mp hfront c hc)
  cases hlines : core.dropWhile isBreak with
  | nil =>
    rw [hlines, List.append_nil] at hsplit
    rw [hsplit] at hfront
    cases hz : core.getLast? with
    | none =>
      rw [hz] at hlast
      cases hlast
    | some z =>
      rw [hz] at hlast
      simp [List.all_eq_true.mp hfront z (List.mem_of_getLast? hz)] at hlast
  | cons a rest =>
    rw [hlines] at hhead hsplit
    rw [← hsplit, List.getLast?_append, List.getLast?_cons, Option.some_or,
      ← List.getLast?_cons] at hlast
    exact lined_of_ends (fun c hc => hkept c (hsplit ▸ List.mem_append_right _ hc))
      (by simpa using hhead) hlast

/-- A text of more than breaks: some breaks, then lines, and what the block says of its end. -/
theorem exists_parts {cs : List Char} (hkept : ∀ c ∈ cs, isBreak c = true → isKeptBreak c = true)
    (h : ¬cs.all isBreak = true) :
    ∃ front lines chomp b bs, front.all isKeptBreak = true ∧ Lined lines ∧
      Ends cs (front ++ lines) chomp b bs := by
  obtain ⟨core, trailing, rfl, htrailing, hcore⟩ := exists_trailing cs
  have hall : trailing.all isKeptBreak = true := List.all_eq_true.mpr fun c hc =>
    hkept c (List.mem_append_right _ hc) (List.all_eq_true.mp htrailing c hc)
  rcases List.eq_nil_or_concat core with rfl | ⟨init, x, rfl⟩
  · exact absurd htrailing h
  rw [List.concat_eq_append] at *
  have hx : isBreak x = false := by simpa using hcore
  obtain ⟨chomp, b, bs, hends⟩ := exists_ends init hx hall
  obtain ⟨front, lines, hsplit, hfront, hlines⟩ :=
    exists_lined (fun c hc => hkept c (List.mem_append_left _ hc)) (by simp [hx])
  exact ⟨front, lines, chomp, b, bs, hfront, hlines, hsplit ▸ hends⟩

theorem writeLines_lineEnd (cs : List Char) :
    writeLines false true cs ++ lineEnd cs = writeLines false true (cs ++ lineEnd cs) := by
  rw [lineEnd]
  split
  · rw [List.append_nil, List.append_nil]
  · exact (writeLines_concat rfl true cs).symm

/-- Lines that are written after some breaks. -/
theorem writeLines_breaksLined {bs core : List Char} (hbs : bs.all isBreak = true)
    (hcore : Lined core) (more : List Char) :
    writeLines false true (bs ++ (core ++ more)) =
      bs ++ (lineIndent ++ writeLines false false (core ++ more)) := by
  have hindent : writeLines false true (core ++ more) =
      lineIndent ++ writeLines false false (core ++ more) := by
    obtain ⟨a, tail, rfl, ha⟩ := hcore.head
    rw [List.cons_append, writeLines_indent ha]
  cases bs with
  | nil => exact hindent
  | cons b bs => rw [writeLines_breaks hbs (List.cons_ne_nil _ _), hindent]

/-- Whether a block has to say how deep it is indented, since its first line does not show it. -/
def needsIndent (cs : List Char) : Bool := cs.head?.any fun c => c = ' ' || isBreak c

section Scan

variable {cs : List Char} {j : Nat} (hj : j < 4) {next : List Char}
  (hnext : lineStart next = true) (m : Mark) {fuel : Nat}

include hj hnext

/-- A text of breaks is scanned from its block. -/
theorem scanBlock_onlyBreaks (hne : cs ≠ []) (h : cs.all isKeptBreak = true)
    (hfuel : ((writeLiteral cs).tail ++ (lineEnd cs ++ (List.replicate j ' ' ++ next))).length <
      fuel) :
    ∃ m', m'.column = j ∧ scanBlock true 2 fuel
        ⟨(writeLiteral cs).tail ++ (lineEnd cs ++ (List.replicate j ' ' ++ next)), m⟩ =
      some ⟨cs, ⟨next, m'⟩, false⟩ := by
  have hbreaks : cs.all isBreak = true :=
    List.all_eq_true.mpr fun c hc => isBreak_of_kept (List.all_eq_true.mp h c hc)
  obtain ⟨hmark, hend⟩ := chompMark_breaks hne hbreaks
  have hlines : writeLines false true cs = cs := by
    have hwritten := writeLines_breaks hbreaks hne false true []
    simpa [writeLines] using hwritten
  have hhead : (cs.head?.any fun c => c = ' ' || isBreak c) = true := by
    obtain ⟨a, tail, rfl⟩ := List.exists_cons_of_ne_nil hne
    simp [List.all_eq_true.mp hbreaks a List.mem_cons_self]
  have hwritten : (writeLiteral cs).tail ++ (lineEnd cs ++ (List.replicate j ' ' ++ next)) =
      '2' :: (Chomp.keep.mark ++ '\n' :: (cs ++ (List.replicate j ' ' ++ next))) := by
    simp [writeLiteral, hhead, hmark, hlines, hend]
  rw [hwritten] at hfuel ⊢
  simp only [List.length_append, List.length_cons] at hfuel
  exact scanBlock_breaks hj hnext h m (by omega)

/-- Lines are scanned from their block. -/
theorem scanBlock_lines {front lines : List Char} {chomp : Chomp} {b : Char} {bs : List Char}
    (hprintable : ∀ c ∈ cs, isPrintable c = true) (hfront : front.all isKeptBreak = true)
    (hlines : Lined lines) (hends : Ends cs (front ++ lines) chomp b bs)
    (hfuel : ((writeLiteral cs).tail ++ (lineEnd cs ++ (List.replicate j ' ' ++ next))).length <
      fuel) :
    ∃ m', m'.column = j ∧ scanBlock true 2 fuel
        ⟨(writeLiteral cs).tail ++ (lineEnd cs ++ (List.replicate j ' ' ++ next)), m⟩ =
      some ⟨cs, ⟨next, m'⟩, false⟩ := by
  let body := writeLines false false (lines ++ b :: bs) ++ (List.replicate j ' ' ++ next)
  have hbreaks : front.all isBreak = true :=
    List.all_eq_true.mpr fun c hc => isBreak_of_kept (List.all_eq_true.mp hfront c hc)
  have hwritten : writeLines false true cs ++ (lineEnd cs ++ (List.replicate j ' ' ++ next)) =
      front ++ (lineIndent ++ body) := by
    rw [← List.append_assoc, writeLines_lineEnd, hends.full, List.append_assoc,
      writeLines_breaksLined hbreaks hlines, List.append_assoc, List.append_assoc]
  have hblock : (writeLiteral cs).tail ++ (lineEnd cs ++ (List.replicate j ' ' ++ next)) =
      (if needsIndent cs then ['2'] else []) ++
        (chomp.mark ++ '\n' :: (front ++ (lineIndent ++ body))) := by
    simp only [writeLiteral, hends.mark, List.cons_append, List.append_assoc, List.tail_cons,
      hwritten]
    rfl
  rw [hblock] at hfuel ⊢
  simp only [List.length_append, List.length_cons] at hfuel
  have hbody : body.length < fuel := by omega
  cases hindent : needsIndent cs with
  | true =>
    have hscan := scanBlock_indent hj hnext hfront hlines hends.breaks chomp m (by omega) hbody
    rwa [← hends.text] at hscan
  | false =>
    obtain ⟨a, tail, rfl, ha⟩ := hlines.head
    -- Neither a break nor a space stands in front.
    have hnone : front = [] := by
      cases front with
      | nil => rfl
      | cons c rest =>
        rw [List.all_cons, Bool.and_eq_true] at hbreaks
        rw [hends.text, needsIndent] at hindent
        simp [hbreaks.1] at hindent
    subst hnone
    have hcs : a :: tail ++ chomp.ending [b] bs = cs := hends.text.symm
    have hspace : a ≠ ' ' := by
      rintro rfl
      rw [← hcs] at hindent
      cases hindent
    have hgap : isGap a = false := by
      rw [Bool.eq_false_iff]
      have hmem : a ∈ cs := hcs ▸ List.mem_cons_self
      exact fun hgap => hspace (eq_space_of_printable (hprintable a hmem) ha hgap)
    have hscan := scanBlock_plain hj hnext hlines (by simp [hgap]) hends.breaks chomp m hbody
    rwa [hcs] at hscan

/-- What the writer puts into a literal block is scanned as the text. -/
theorem scanBlock_literal (h : allowsBlock cs = true)
    (hfuel : ((writeLiteral cs).tail ++ (lineEnd cs ++ (List.replicate j ' ' ++ next))).length <
      fuel) :
    ∃ m', m'.column = j ∧ scanBlock true 2 fuel
        ⟨(writeLiteral cs).tail ++ (lineEnd cs ++ (List.replicate j ' ' ++ next)), m⟩ =
      some ⟨cs, ⟨next, m'⟩, false⟩ := by
  simp only [allowsBlock, hasSpecial, Bool.and_eq_true, Bool.not_eq_true', List.any_eq_false,
    List.isEmpty_eq_false_iff] at h
  obtain ⟨⟨⟨hne, -⟩, -⟩, hspecial⟩ := h
  have hprintable : ∀ c ∈ cs, isPrintable c = true := fun c hc => by simpa using hspecial c hc
  have hkept (c : Char) (hc : c ∈ cs) : isBreak c = true → isKeptBreak c = true :=
    isKeptBreak_of_printable (hprintable c hc)
  by_cases hbreaks : cs.all isBreak = true
  · refine scanBlock_onlyBreaks hj hnext m hne (List.all_eq_true.mpr fun c hc => ?_) hfuel
    exact hkept c hc (List.all_eq_true.mp hbreaks c hc)
  · obtain ⟨front, lines, chomp, b, bs, hfront, hlines, hends⟩ := exists_parts hkept hbreaks
    exact scanBlock_lines hj hnext m hprintable hfront hlines hends hfuel

end Scan

end ScatterPick.Yaml
