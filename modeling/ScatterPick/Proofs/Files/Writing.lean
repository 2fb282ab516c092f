import ScatterPick.Files.Tree

/-!
# Reading what was written

A file that has been written holds its bytes, and a text that has been written as bytes is read
back as the same text.
-/

namespace ScatterPick

/-- Two steps in a row succeed if each does. -/
theorem bind_eq_ok {ε α β : Type} {x : Except ε α} {f : α → Except ε β} {b : β} :
    (x >>= f) = .ok b ↔ ∃ a, x = .ok a ∧ f a = .ok b := by
  cases x with
  | error e =>
    refine ⟨fun h => ?_, ?_⟩
    · cases h
    · rintro ⟨a, h, -⟩
      cases h
  | ok a =>
    refine ⟨fun h => ⟨a, rfl, h⟩, ?_⟩
    rintro ⟨b, h, hb⟩
    obtain rfl := Except.ok.inj h
    exact hb

/-- A text is read from the bytes that encode it. -/
theorem Bytes.text?_ofText (text : String) : (Bytes.ofText text).text? = some text := by
  simp only [Bytes.text?, Bytes.ofText, Array.toArray_toList, String.fromUTF8?, String.toUTF8]
  exact dif_pos text.isValidUTF8

namespace Files.Tree

/-- The entry that was put under a name is found under it. -/
theorem find?_put (entries : List (String × Entry)) (name : String) (e : Entry) :
    find? (put entries name e) name = some e := by
  rw [find?, put]
  split
  · rename_i h
    induction entries with
    | nil => cases h
    | cons p rest ih =>
      rw [List.map_cons]
      by_cases hp : (p.1 == name) = true
      · rw [if_pos hp, List.find?_cons_of_pos (by simp)]
        rfl
      · rw [if_neg hp, List.find?_cons_of_neg (by exact hp)]
        rw [List.any_cons, Bool.or_eq_true] at h
        exact ih (h.resolve_left hp)
  · rename_i h
    rw [Bool.not_eq_true, List.any_eq_false] at h
    rw [List.find?_append, List.find?_eq_none.mpr h]
    simp

/-- A file that was put at the end of some names stands there, and something was not refused. -/
theorem walk_of_place {check : Option Entry → Except Refusal Unit} {bytes : Bytes}
    (hdirectory : ∀ inner, check (some (.directory inner)) ≠ .ok ())
    {names : List String} {entries placed : List (String × Entry)}
    (h : place check (.file bytes) entries names = .ok placed) :
    walk placed names = .ok (.file bytes) ∧ ∃ before, check before = .ok () := by
  induction names generalizing entries placed with
  | nil =>
    rw [place] at h
    cases hcheck : check (some (.directory entries)) with
    | error refusal =>
      rw [hcheck] at h
      cases h
    | ok u => exact absurd hcheck (hdirectory entries)
  | cons name rest ih =>
    cases rest with
    | nil =>
      rw [place] at h
      cases hcheck : check (find? entries name) with
      | error refusal =>
        rw [hcheck] at h
        cases h
      | ok u =>
        rw [hcheck] at h
        obtain rfl := Except.ok.inj h
        refine ⟨?_, _, hcheck⟩
        rw [walk, find?_put]
        rfl
    | cons next rest =>
      rw [place] at h
      · cases hfind : find? entries name with
        | none =>
          rw [hfind] at h
          cases h
        | some e =>
          cases e with
          | file inner =>
            rw [hfind] at h
            cases h
          | directory inner =>
            rw [hfind] at h
            cases hinner : place check (.file bytes) inner (next :: rest) with
            | error refusal =>
              simp only [hinner] at h
              cases h
            | ok placed =>
              simp only [hinner] at h
              obtain rfl := Except.ok.inj h
              obtain ⟨hwalk, hbefore⟩ := ih hinner
              refine ⟨?_, hbefore⟩
              rw [walk, find?_put]
              exact hwalk
      · intro hnil
        cases hnil

/-- A text is read from the file that it was written to. -/
theorem readText_write {files written : Tree} {path text : String}
    (h : files.write path (Bytes.ofText text) = .ok written) :
    written.readText path = .ok text := by
  rw [write] at h
  cases hempty : path.isEmpty with
  | true =>
    rw [hempty] at h
    cases h
  | false =>
    simp only [hempty, Bool.false_eq_true, if_false] at h
    obtain ⟨placed, hplace, hwritten⟩ := bind_eq_ok.mp h
    obtain rfl := Except.ok.inj hwritten
    obtain ⟨hwalk, before, hbefore⟩ := walk_of_place (fun inner hok => by cases hok) hplace
    -- Nothing can be written at a path that asks for a directory.
    have hfile : wantsDirectory path = false := by
      cases hwants : wantsDirectory path with
      | false => rfl
      | true =>
        rw [hwants] at hbefore
        cases before with
        | none => cases hbefore
        | some e => cases e <;> cases hbefore
    have hget : get ⟨placed⟩ path = .ok (.file (Bytes.ofText text)) := by
      simp only [get, hempty, Bool.false_eq_true, if_false, hwalk, hfile]
    have hread : read ⟨placed⟩ path = .ok (Bytes.ofText text) := by
      rw [read, hget]
      rfl
    rw [readText, hread]
    simp only [bind, Except.bind, Bytes.text?_ofText]
    rfl

end Files.Tree

end ScatterPick
