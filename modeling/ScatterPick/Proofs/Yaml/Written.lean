import Mathlib.Data.List.Induction
import ScatterPick.Proofs.Text.Runs
import ScatterPick.Proofs.Yaml.Escape
import ScatterPick.Proofs.Yaml.Literal
import ScatterPick.Proofs.Yaml.Plain

/-!
# Texts as they are written

The tests by which the writer leaves a text plain, or puts it between single quotes, leave only
texts that this form can hold. Double quotes hold every text.
-/

namespace ScatterPick.Yaml

/-! ## Plain texts -/

theorem hasInnerIndicator_append {front : List Char} {a b : Char} {back : List Char}
    (h : hasInnerIndicator (front ++ a :: b :: back) = false) :
    (b = ':' → back.head?.any (!isGap ·) = true) ∧ (b = '#' → isGap a = false) := by
  induction front with
  | nil =>
    simp only [List.nil_append, hasInnerIndicator, Bool.or_eq_false_iff] at h
    refine ⟨?_, ?_⟩
    · rintro rfl
      cases back with
      | nil => simp at h
      | cons c back => simpa using h.1.1
    · rintro rfl
      simpa using h.1.2
  | cons c front ih =>
    refine ih ?_
    cases front with
    | nil =>
      simp only [List.cons_append, List.nil_append, hasInnerIndicator, Bool.or_eq_false_iff] at h
      simp only [List.nil_append, hasInnerIndicator, Bool.or_eq_false_iff]
      exact h.2
    | cons d front =>
      rw [List.cons_append, List.cons_append, hasInnerIndicator, Bool.or_eq_false_iff] at h
      exact h.2

/-- What keeps a text plain: only spaces as gaps, all of them between words, every colon in front of
a character that is no gap and no number sign at the start of a word. -/
structure PlainSafe (cs : List Char) : Prop where
  spaces : ∀ c ∈ cs, isGap c = true → c = ' '
  head : cs.head?.any (fun c => !isGap c && c != '#') = true
  last : cs.getLast?.any (!isGap ·) = true
  colon : ∀ front back, cs = front ++ ':' :: back → back.head?.any (!isGap ·) = true
  comment : ∀ front a back, cs = front ++ a :: '#' :: back → isGap a = false

theorem PlainSafe.isWord {w rest : List Char} (h : PlainSafe (w ++ rest)) (hne : w ≠ [])
    (hw : w.all (!isGap ·) = true) (hrest : rest.head?.all isGap = true) : isWord w = true := by
  obtain ⟨a, tail, rfl⟩ := List.exists_cons_of_ne_nil hne
  have hhead := h.head
  simp only [List.cons_append, List.head?_cons, Option.any_some, Bool.and_eq_true,
    bne_iff_ne] at hhead
  have hlast : (a :: tail).getLast? ≠ some ':' := by
    intro hcolon
    obtain ⟨init, hinit⟩ := List.getLast?_eq_some_iff.mp hcolon
    have hback := h.colon init rest (by rw [hinit]; simp)
    cases rest with
    | nil => cases hback
    | cons b rest => simp_all
  simp [Yaml.isWord, hw, hlast, hhead.2]

/-- A safe text is plain. -/
theorem PlainSafe.plainText {cs : List Char} : PlainSafe cs → PlainText cs := by
  induction cs using Text.runs_induction isGap with
  | word w hw =>
    intro h
    have hne : w ≠ [] := by
      rintro rfl
      cases h.head
    exact .word (PlainSafe.isWord (by rwa [List.append_nil]) hne hw rfl)
  | gap w g rest hw hg hgap hrest ih =>
    intro h
    obtain ⟨a, tail, rfl⟩ := List.exists_cons_of_ne_nil hg
    have hne : w ≠ [] := by
      rintro rfl
      have hhead := h.head
      rw [List.all_cons, Bool.and_eq_true] at hgap
      simp [hgap.1] at hhead
    have hword : Yaml.isWord w = true := by
      refine PlainSafe.isWord h hne hw ?_
      rw [List.all_cons, Bool.and_eq_true] at hgap
      simpa using hgap.1
    have hspaces : a :: tail = List.replicate (tail.length + 1) ' ' := by
      refine List.eq_replicate_iff.mpr ⟨rfl, fun c hc => ?_⟩
      exact h.spaces c (List.mem_append_right _ (List.mem_append_left _ hc))
        (List.all_eq_true.mp hgap c hc)
    rw [hspaces] at h ⊢
    refine .spaced hword tail.length (ih ?_)
    obtain ⟨b, rest, rfl⟩ : ∃ b rest', rest = b :: rest' := by
      cases rest with
      | nil =>
        have hlast := h.last
        simp [List.replicate_succ', isGap, isBlank] at hlast
      | cons b rest => exact ⟨b, rest, rfl⟩
    refine ⟨fun c hc => h.spaces c (by simp [hc]), ?_, ?_, fun front back heq => ?_,
      fun front c back heq => ?_⟩
    · have hcomment : b ≠ '#' := by
        rintro rfl
        have hgap' := h.comment (w ++ List.replicate tail.length ' ') ' ' rest (by
          simp [List.replicate_succ'])
        cases hgap'
      have hb : isGap b = false := by simpa using hrest
      simp [hb, hcomment]
    · have hlast := h.last
      rw [← List.append_assoc, List.getLast?_append, List.getLast?_cons, Option.some_or] at hlast
      rwa [List.getLast?_cons]
    · exact h.colon (w ++ (List.replicate (tail.length + 1) ' ' ++ front)) back (by rw [heq]; simp)
    · exact h.comment (w ++ (List.replicate (tail.length + 1) ' ' ++ front)) c back
        (by rw [heq]; simp)

/-- What the writer leaves without quotes is a plain scalar. -/
theorem plainScalar_of_allowsPlain {cs : List Char} (hne : cs ≠ []) (h : allowsPlain cs = true) :
    PlainScalar cs := by
  simp only [allowsPlain, allowsQuotes, Bool.and_eq_true, Bool.not_eq_true'] at h
  obtain ⟨⟨⟨⟨⟨⟨-, hspecial⟩, houter⟩, hbreak⟩, hstart⟩, hinner⟩, -⟩ := h
  have hprintable {c : Char} (hc : c ∈ cs) : isPrintable c = true := by
    simpa using List.any_eq_false.mp hspecial c hc
  have hunbroken {c : Char} (hc : c ∈ cs) : isBreak c = false := by
    simpa using List.any_eq_false.mp hbreak c hc
  have houtside {c : Char} (hc : c ∈ cs) (hspace : c ≠ ' ') : isGap c = false := by
    rw [Bool.eq_false_iff]
    exact fun hgap => hspace (eq_space_of_printable (hprintable hc) (hunbroken hc) hgap)
  simp only [hasOuterGap, Bool.or_eq_false_iff] at houter
  obtain ⟨hhead, hlast⟩ := houter
  obtain ⟨a, tail, rfl⟩ := List.exists_cons_of_ne_nil hne
  have ha : isGap a = false := houtside List.mem_cons_self (by rintro rfl; cases hhead)
  have hcomment : a ≠ '#' := by
    rintro rfl
    cases hstart
  have hbom : a ≠ '\ufeff' := by
    rintro rfl
    cases hprintable List.mem_cons_self
  have hline : lineStart (a :: tail) = true := by simp [lineStart, ha, hcomment, hbom]
  have hsafe : PlainSafe (a :: tail) := by
    refine ⟨fun c hc => eq_space_of_printable (hprintable hc) (hunbroken hc), ?_, ?_,
      fun front back heq => ?_, fun front c back heq => ?_⟩
    · simp [ha, hcomment]
    · obtain ⟨z, hz⟩ : ∃ z, (a :: tail).getLast? = some z := ⟨_, List.getLast?_cons⟩
      rw [hz] at hlast ⊢
      have hspace : z ≠ ' ' := by
        rintro rfl
        cases hlast
      simp [houtside (List.mem_of_getLast? hz) hspace]
    · rcases List.eq_nil_or_concat front with rfl | ⟨front, c, rfl⟩
      · obtain ⟨rfl, rfl⟩ := List.cons.inj heq
        cases tail with
        | nil => cases hstart
        | cons b tail =>
          have hb : isGap b = false := by simpa [startsIndicator] using hstart
          simp [hb]
      · rw [heq, List.concat_append] at hinner
        exact (hasInnerIndicator_append hinner).1 rfl
    · rw [heq] at hinner
      exact (hasInnerIndicator_append hinner).2 rfl
  exact ⟨hsafe.plainText, hline, hstart⟩

/-! ## Texts between single quotes -/

theorem mem_neighbours (front : List Char) (a b : Char) (back : List Char) :
    (a, b) ∈ neighbours (front ++ a :: b :: back) := by
  induction front with
  | nil => exact List.mem_cons_self
  | cons c front ih =>
    have hcons (d : Char) (rest : List Char) :
        neighbours (c :: d :: rest) = (c, d) :: neighbours (d :: rest) := rfl
    cases front with
    | nil => exact List.mem_cons_of_mem _ ih
    | cons d front =>
      rw [List.cons_append, List.cons_append, hcons]
      exact List.mem_cons_of_mem _ ih

/-- What single quotes can hold: no newline, and every gap of one kind. -/
structure QuotesSafe (cs : List Char) : Prop where
  printable : ∀ c ∈ cs, isPrintable c = true
  newline : '\n' ∉ cs
  breakSpace : ∀ front b back, cs = front ++ b :: ' ' :: back → isBreak b = false
  spaceBreak : ∀ front b back, cs = front ++ ' ' :: b :: back → isBreak b = false

namespace QuotesSafe

theorem of_allowsQuotes {cs : List Char} (h : allowsQuotes cs = true) (hnewline : '\n' ∉ cs) :
    QuotesSafe cs := by
  simp only [allowsQuotes, Bool.and_eq_true, Bool.not_eq_true', hasBreakSpace, hasSpaceBreak,
    hasSpecial, List.any_eq_false] at h
  obtain ⟨⟨hbreakSpace, hspaceBreak⟩, hspecial⟩ := h
  refine ⟨fun c hc => by simpa using hspecial c hc, hnewline, ?_, ?_⟩
  · rintro front b back rfl
    simpa using hbreakSpace _ (mem_neighbours front b ' ' back)
  · rintro front b back rfl
    simpa using hspaceBreak _ (mem_neighbours front ' ' b back)

/-- A part of a text is as safe as the text. -/
theorem part (front cs back : List Char) (h : QuotesSafe (front ++ (cs ++ back))) :
    QuotesSafe cs := by
  refine ⟨fun c hc => h.printable c (by simp [hc]), fun hc => h.newline (by simp [hc]), ?_, ?_⟩
  · rintro f b k rfl
    exact h.breakSpace (front ++ f) b (k ++ back) (by simp)
  · rintro f b k rfl
    exact h.spaceBreak (front ++ f) b (k ++ back) (by simp)

/-- A gap consists of spaces or of separators. -/
theorem gap {g : List Char} (h : QuotesSafe g) (hgap : g.all isGap = true) :
    g.all (· = ' ') = true ∨ g.all isSeparator = true := by
  induction g with
  | nil => exact Or.inl rfl
  | cons c g ih =>
    rw [List.all_cons, Bool.and_eq_true] at hgap
    have hc : c = ' ' ∨ isSeparator c = true := by
      have hprintable := h.printable c List.mem_cons_self
      have hnewline : c ≠ '\n' := fun hc => h.newline (by simp [hc])
      cases hbreak : isBreak c with
      | false => exact Or.inl (eq_space_of_printable hprintable hbreak hgap.1)
      | true =>
        simp only [isBreak, Bool.or_eq_true, decide_eq_true_eq, hnewline, false_or] at hbreak
        rcases hbreak with ((rfl | rfl) | rfl) | rfl
        · cases hprintable
        · cases hprintable
        · exact Or.inr rfl
        · exact Or.inr rfl
    have hrest : QuotesSafe g := part [c] g [] (by simpa using h)
    cases g with
    | nil => exact hc.imp (by rintro rfl; rfl) (by simp)
    | cons d g =>
      rcases ih hrest hgap.2 with hspaces | hseparators
      · rcases hc with rfl | hc
        · exact Or.inl (by simpa using hspaces)
        · -- A separator in front of a space.
          have hd : d = ' ' := by simpa using List.all_eq_true.mp hspaces d List.mem_cons_self
          subst hd
          have hbreak := h.breakSpace [] c g rfl
          rcases isSeparator_cases hc with rfl | rfl <;> cases hbreak
      · rcases hc with rfl | hc
        · -- A space in front of a separator.
          have hd := List.all_eq_true.mp hseparators d List.mem_cons_self
          have hbreak := h.spaceBreak [] d g rfl
          rcases isSeparator_cases hd with rfl | rfl <;> cases hbreak
        · exact Or.inr (by rw [List.all_cons, hc, hseparators]; rfl)

end QuotesSafe

theorem writeLines_quoted {w : List Char} (hw : w.all (!isBreak ·) = true) (rest : List Char) :
    writeLines true false (w ++ rest) = w.flatMap singleChar ++ writeLines true false rest := by
  induction w with
  | nil => rfl
  | cons c w ih =>
    rw [List.all_cons, Bool.and_eq_true, Bool.not_eq_true'] at hw
    rw [List.cons_append, writeLines, hw.1, if_neg Bool.false_ne_true, ih hw.2, List.flatMap_cons,
      singleChar, List.append_assoc]
    simp

/-- The next line between quotes is indented, and so is the closing quote. -/
theorem writeLines_quotedIndent {cs : List Char} (h : cs.head?.all (!isBreak ·) = true) :
    writeLines true true cs = lineIndent ++ writeLines true false cs := by
  cases cs with
  | nil => rfl
  | cons c cs =>
    have hc : isBreak c = false := by simpa using h
    simp [writeLines, hc]

theorem isSeparator_isBreak {c : Char} (h : isSeparator c = true) : isBreak c = true := by
  rcases isSeparator_cases h with rfl | rfl <;> rfl

/-- A word that is written between single quotes. -/
theorem scansAs_word {w : List Char} (hw : w.all (!isGap ·) = true) :
    w.all (!isBreak ·) = true ∧ ∀ c ∈ w, ScansAs true singleChar c := by
  have hgap {c : Char} (hc : c ∈ w) : isGap c = false := by
    simpa using List.all_eq_true.mp hw c hc
  refine ⟨List.all_eq_true.mpr fun c hc => ?_, fun c hc => scansAs_singleChar (hgap hc)⟩
  rw [isBreak_of_not_gap (hgap hc)]
  rfl

/-- What is written of a text that does not start with a gap does not, either. -/
theorem head?_writeLines {cs : List Char} (h : cs.head?.all (!isGap ·) = true) :
    (writeLines true false cs).head?.all (!isGap ·) = true := by
  cases cs with
  | nil => rfl
  | cons a rest =>
    have ha : isGap a = false := by simpa using h
    by_cases hquote : a = '\''
    · subst hquote
      rfl
    · simp [writeLines, isBreak_of_not_gap ha, hquote, ha]

/-- What the writer puts between single quotes is scanned as the text. -/
theorem QuotesSafe.quotedText {cs : List Char} : QuotesSafe cs →
    QuotedText true singleChar cs (writeLines true false cs) := by
  induction cs using Text.runs_induction isGap with
  | word w hw =>
    intro h
    obtain ⟨hunbroken, hscans⟩ := scansAs_word hw
    have hwritten := writeLines_quoted hunbroken []
    rw [List.append_nil] at hwritten
    rw [hwritten]
    simpa [writeLines] using QuotedText.word hscans
  | gap w g rest hw hg hgap hrest ih =>
    intro h
    obtain ⟨hunbroken, hscans⟩ := scansAs_word hw
    have hsafe : QuotesSafe rest := .part (w ++ g) rest [] (by simpa using h)
    have hhead := head?_writeLines hrest
    obtain ⟨b, bs, rfl⟩ := List.exists_cons_of_ne_nil hg
    rw [writeLines_quoted hunbroken]
    rcases (QuotesSafe.part w _ rest h).gap hgap with hspaces | hseparators
    · have heq : b :: bs = List.replicate (bs.length + 1) ' ' :=
        List.eq_replicate_iff.mpr ⟨rfl, fun c hc => by simpa using List.all_eq_true.mp hspaces c hc⟩
      have hflat : (List.replicate (bs.length + 1) ' ').flatMap singleChar =
          List.replicate (bs.length + 1) ' ' := by
        simp [List.flatMap_replicate, singleChar]
      rw [heq, writeLines_quoted (by simp [isBreak]), hflat]
      exact .spaced hscans _ hhead (ih hsafe)
    · have hbreaks : (b :: bs).all isBreak = true :=
        List.all_eq_true.mpr fun c hc => isSeparator_isBreak (List.all_eq_true.mp hseparators c hc)
      have hnext : rest.head?.all (!isBreak ·) = true := by
        cases rest with
        | nil => rfl
        | cons a rest => simpa using isBreak_of_not_gap (by simpa using hrest)
      rw [writeLines_breaks hbreaks hg, writeLines_quotedIndent hnext]
      rw [List.all_cons, Bool.and_eq_true] at hseparators
      exact .separated hscans hseparators.1 hseparators.2 hhead (ih hsafe)

/-! ## Texts between double quotes -/

/-- What the writer puts between double quotes is scanned as the text, whatever it is. -/
theorem quotedText_double (cs : List Char) :
    QuotedText false doubleChar cs (cs.flatMap doubleChar) := by
  have hword {w : List Char} (hw : w.all (fun c => !(c == ' ')) = true) :
      ∀ c ∈ w, ScansAs false doubleChar c := fun c hc =>
    scansAs_doubleChar (by simpa using List.all_eq_true.mp hw c hc)
  induction cs using Text.runs_induction (· == ' ') with
  | word w hw => exact .word (hword hw)
  | gap w g rest hw hg hgap hrest ih =>
    obtain ⟨b, bs, rfl⟩ := List.exists_cons_of_ne_nil hg
    have heq : b :: bs = List.replicate (bs.length + 1) ' ' :=
      List.eq_replicate_iff.mpr ⟨rfl, fun c hc => by simpa using List.all_eq_true.mp hgap c hc⟩
    have hflat : (List.replicate (bs.length + 1) ' ').flatMap doubleChar =
        List.replicate (bs.length + 1) ' ' := by
      have hspace : doubleChar ' ' = [' '] := rfl
      simp [List.flatMap_replicate, hspace]
    have hhead : (rest.flatMap doubleChar).head?.all (!isGap ·) = true := by
      cases rest with
      | nil => rfl
      | cons a rest =>
        have ha : a ≠ ' ' := by simpa using hrest
        have hwritten := (scansAs_doubleChar ha).head
        cases hcons : doubleChar a with
        | nil =>
          rw [hcons] at hwritten
          cases hwritten
        | cons c tail =>
          rw [hcons] at hwritten
          rw [List.flatMap_cons, hcons]
          exact hwritten
    rw [heq, List.flatMap_append, List.flatMap_append, hflat]
    exact .spaced (hword hw) _ hhead ih

end ScatterPick.Yaml
