import Mathlib.Data.List.Basic
import Mathlib.Data.List.Induction
import ScatterPick.Hud.PictureCache

/-!
# Lookups of pictures

Pictures are asked for in any order, for any buttons and in any sizes. As long as a button keeps its
icon, the cache decodes it at the first request, keeps the picture or the failure, and answers every
later request from what it keeps. An icon without a picture leaves nothing in the cache.
-/

namespace ScatterPick

namespace Icon

/-- Whether an icon is an encoded picture. -/
def isEncoded : Icon → Bool
  | none | glyph _ => false
  | drawing _ | picture _ => true

end Icon

theorem Decoders.decode?_isSome (d : Decoders) (icon : Icon) (size : Nat) :
    (d.decode? icon size).isSome = icon.isEncoded := by
  cases icon <;> rfl

theorem Decoders.decode?_of_plain (d : Decoders) {icon : Icon} (h : icon.isEncoded = false)
    (size : Nat) : d.decode? icon size = none := by
  rw [← Option.not_isSome_iff_eq_none, d.decode?_isSome, h]
  exact Bool.false_ne_true

/-- A request for the picture of a button. -/
structure PictureRequest where
  index : Nat
  icon : Icon
  /-- The height of the button in pixels. -/
  size : Nat

/-- Each button keeps its icon in a list of requests. -/
def KeepsIcons (requests : List PictureRequest) : Prop :=
  ∀ r ∈ requests, ∀ s ∈ requests, r.index = s.index → r.icon = s.icon

theorem KeepsIcons.of_concat {requests : List PictureRequest} {r : PictureRequest}
    (h : KeepsIcons (requests ++ [r])) :
    KeepsIcons requests ∧ ∀ s ∈ requests, s.index = r.index → s.icon = r.icon := by
  refine ⟨fun s hs t ht => ?_, fun s hs => ?_⟩
  · exact h s (List.mem_append_left _ hs) t (List.mem_append_left _ ht)
  · exact h s (List.mem_append_left _ hs) r (by simp)

/-- What a request is answered. -/
structure PictureAnswer where
  request : PictureRequest
  found : PictureLookup

/-- What was decoded to give an answer, with the index of the button. -/
def PictureAnswer.decoding? (a : PictureAnswer) : Option (Nat × Except ImageFailure Picture) :=
  a.found.decoded.map (a.request.index, ·)

theorem PictureAnswer.filterMap_decoding? (a : PictureAnswer) :
    [a].filterMap (·.decoding?) = (a.found.decoded.map (a.request.index, ·)).toList := by
  rw [← decoding?]
  cases h : a.decoding? with
  | none => simp [h]
  | some o => simp [h]

/-! ## Outcomes -/

section Outcomes

variable (outcomes more : List (Nat × Except ImageFailure Picture))

/-- The pictures among some outcomes, with their indices. -/
def picturesOf : List (Nat × Picture) :=
  outcomes.filterMap fun o => o.2.toOption.map (o.1, ·)

/-- The failures among some outcomes, with their indices. -/
def failuresOf : List (Nat × ImageFailure) :=
  outcomes.filterMap fun
    | (index, .error cause) => some (index, cause)
    | (_, .ok _) => none

theorem picturesOf_append :
    picturesOf (outcomes ++ more) = picturesOf outcomes ++ picturesOf more :=
  List.filterMap_append

theorem failuresOf_append :
    failuresOf (outcomes ++ more) = failuresOf outcomes ++ failuresOf more :=
  List.filterMap_append

variable {outcomes}

/-- No index fails twice if none occurs twice. -/
theorem nodup_failuresOf (h : (outcomes.map (·.1)).Nodup) :
    ((failuresOf outcomes).map (·.1)).Nodup := by
  have hsub : ((failuresOf outcomes).map (·.1)).Sublist (outcomes.map (·.1)) := by
    clear h
    induction outcomes with
    | nil => exact .slnil
    | cons o rest ih =>
      obtain ⟨index, outcome⟩ := o
      cases outcome with
      | error cause => exact ih.cons_cons index
      | ok picture => exact ih.cons index
  exact h.sublist hsub

/-- The failure that an answer tells is that of what was decoded for it. -/
theorem PictureAnswer.failuresOf_singleton (a : PictureAnswer) :
    failuresOf ([a].filterMap (·.decoding?)) =
      (a.found.failure?.map (a.request.index, ·)).toList := by
  rw [a.filterMap_decoding?, PictureLookup.failure?]
  cases a.found.decoded with
  | none => rfl
  | some outcome => cases outcome <;> rfl

end Outcomes

namespace PictureCache

/-- The cache after a request. -/
def after (d : Decoders) (c : PictureCache) (r : PictureRequest) : PictureCache :=
  (c.lookup d r.index r.icon r.size).1

/-- The cache after some requests. -/
def afterAll (d : Decoders) (c : PictureCache) (requests : List PictureRequest) : PictureCache :=
  requests.foldl (after d) c

/-- What the cache answers a request. -/
def answer (d : Decoders) (c : PictureCache) (r : PictureRequest) : PictureAnswer :=
  ⟨r, (c.lookup d r.index r.icon r.size).2⟩

/-- What the cache answers some requests, one after the other. -/
def answers (d : Decoders) (c : PictureCache) : List PictureRequest → List PictureAnswer
  | [] => []
  | r :: rest => c.answer d r :: (c.after d r).answers d rest

/-- What the cache keeps is what an answer told. -/
structure Confirms (c : PictureCache) (a : PictureAnswer) : Prop where
  picture : c.picture? a.request.index = a.found.picture
  /-- A failure is kept where an encoded icon has come to no picture. -/
  failed : c.hasFailed a.request.index = (a.request.icon.isEncoded && a.found.picture.isNone)
  plain : a.request.icon.isEncoded = false → a.found = ⟨none, none⟩

/-- What is known of a cache from the answers that it gave. -/
structure Gave (answers : List PictureAnswer) (c : PictureCache) : Prop where
  told : ∀ a ∈ answers, c.Confirms a
  unasked : ∀ index, (∀ a ∈ answers, a.request.index ≠ index) →
    c.picture? index = none ∧ c.hasFailed index = false

/-- Among some answers each icon is decoded once. -/
structure DecodesOnce (d : Decoders) (answers : List PictureAnswer) : Prop where
  /-- The first answer for an index tells what the icon is decoded to, if there is anything to
  decode. -/
  first : ∀ index a, answers.find? (·.request.index == index) = some a →
    a.found.decoded = d.decode? a.request.icon a.request.size ∧
      a.found.picture = a.found.decoded.bind (·.toOption)
  /-- Every other answer for this index tells the same without decoding. -/
  again : answers.Pairwise fun a b =>
    a.request.index = b.request.index → b.found = ⟨a.found.picture, none⟩

variable {d : Decoders} {c : PictureCache}

theorem answers_append (requests more : List PictureRequest) :
    c.answers d (requests ++ more) =
      c.answers d requests ++ (c.afterAll d requests).answers d more := by
  induction requests generalizing c with
  | nil => rfl
  | cons r rest ih => exact congrArg (c.answer d r :: ·) ih

theorem afterAll_concat (requests : List PictureRequest) (r : PictureRequest) :
    c.afterAll d (requests ++ [r]) = (c.afterAll d requests).after d r := by
  simp [afterAll]

theorem request_of_mem_answers {requests : List PictureRequest} {a : PictureAnswer}
    (h : a ∈ c.answers d requests) : a.request ∈ requests := by
  induction requests generalizing c with
  | nil => cases h
  | cons r rest ih =>
    rcases List.mem_cons.mp h with rfl | h
    · exact List.mem_cons_self
    · exact List.mem_cons_of_mem _ (ih h)

/-! ## One request -/

/-- A lookup finds the picture that is kept. -/
theorem lookup_of_picture {index : Nat} {picture : Picture} (h : c.picture? index = some picture)
    (icon : Icon) (size : Nat) : c.lookup d index icon size = (c, ⟨some picture, none⟩) := by
  rw [lookup, h]

/-- Where a failure is kept and no picture, a lookup finds nothing and decodes nothing. -/
theorem lookup_of_failed {index : Nat} (h : c.picture? index = none)
    (hfailed : c.hasFailed index = true) (icon : Icon) (size : Nat) :
    c.lookup d index icon size = (c, ⟨none, none⟩) := by
  rw [lookup, h]
  exact if_pos hfailed

/-- Where nothing is kept, a lookup finds and keeps what it decodes. -/
theorem lookup_of_missing {index : Nat} (h : c.picture? index = none)
    (hfailed : c.hasFailed index = false) (icon : Icon) (size : Nat) :
    c.lookup d index icon size = ((d.decode? icon size).elim c (c.keep index),
      ⟨(d.decode? icon size).bind (·.toOption), d.decode? icon size⟩) := by
  rw [lookup, h]
  dsimp only
  rw [hfailed, if_neg Bool.false_ne_true]
  cases d.decode? icon size with
  | none => rfl
  | some outcome => rfl

/-- The cache keeps what is decoded for a request, and changes in no other way. -/
theorem after_eq (r : PictureRequest) :
    c.after d r = (c.answer d r).found.decoded.elim c (c.keep r.index) := by
  rw [after, answer]
  cases h : c.picture? r.index with
  | some picture => rw [lookup_of_picture h]; rfl
  | none =>
    cases hfailed : c.hasFailed r.index with
    | true => rw [lookup_of_failed h hfailed]; rfl
    | false => rw [lookup_of_missing h hfailed]

theorem picture?_keep_of_ne {index other : Nat} (h : index ≠ other)
    (outcome : Except ImageFailure Picture) :
    (c.keep index outcome).picture? other = c.picture? other := by
  cases outcome with
  | error cause => rfl
  | ok picture => simp [keep, picture?, h]

theorem hasFailed_keep_of_ne {index other : Nat} (h : index ≠ other)
    (outcome : Except ImageFailure Picture) :
    (c.keep index outcome).hasFailed other = c.hasFailed other := by
  cases outcome with
  | error cause => simp [keep, hasFailed, h]
  | ok picture => rfl

/-- Where nothing was kept, the outcome that is kept is found. -/
theorem keep_self {index : Nat} (h : c.picture? index = none) (hfailed : c.hasFailed index = false)
    (outcome : Except ImageFailure Picture) :
    (c.keep index outcome).picture? index = outcome.toOption ∧
      (c.keep index outcome).hasFailed index = outcome.toOption.isNone := by
  cases outcome with
  | error cause => exact ⟨h, by simp [keep, hasFailed, Except.toOption]⟩
  | ok picture => exact ⟨by simp [keep, picture?, Except.toOption], hfailed⟩

/-- A request concerns its own index alone. -/
theorem after_of_ne {r : PictureRequest} {index : Nat} (h : r.index ≠ index) :
    (c.after d r).picture? index = c.picture? index ∧
      (c.after d r).hasFailed index = c.hasFailed index := by
  rw [after_eq]
  cases (c.answer d r).found.decoded with
  | none => exact ⟨rfl, rfl⟩
  | some outcome => exact ⟨picture?_keep_of_ne h outcome, hasFailed_keep_of_ne h outcome⟩

namespace Confirms

variable {a : PictureAnswer} {r : PictureRequest}

/-- To look up once more, in whatever size, decodes nothing and finds what was told. -/
theorem lookup_again (h : c.Confirms a) (size : Nat) :
    c.lookup d a.request.index a.request.icon size = (c, ⟨a.found.picture, none⟩) := by
  have hpicture := h.picture
  have hfailed := h.failed
  cases hfound : a.found.picture with
  | some picture => exact lookup_of_picture (hpicture.trans hfound) _ _
  | none =>
    rw [hfound] at hpicture hfailed
    cases hicon : a.request.icon.isEncoded with
    | true =>
      rw [hicon] at hfailed
      exact lookup_of_failed hpicture hfailed _ _
    | false =>
      rw [hicon] at hfailed
      rw [lookup_of_missing hpicture hfailed, d.decode?_of_plain hicon]
      rfl

/-- Requests for other buttons take nothing back. -/
theorem after_of_ne (h : c.Confirms a) (hindex : r.index ≠ a.request.index) :
    (c.after d r).Confirms a := by
  obtain ⟨hpicture, hfailed⟩ := PictureCache.after_of_ne (d := d) (c := c) hindex
  exact ⟨hpicture.trans h.picture, hfailed.trans h.failed, h.plain⟩

/-- One more request for a button that has its icon still. -/
theorem again (h : c.Confirms a) (hindex : a.request.index = r.index)
    (hicon : a.request.icon = r.icon) :
    c.answer d r = ⟨r, ⟨a.found.picture, none⟩⟩ ∧ c.after d r = c ∧
      c.Confirms ⟨r, ⟨a.found.picture, none⟩⟩ := by
  have hlookup := h.lookup_again (d := d) r.size
  rw [hindex, hicon] at hlookup
  refine ⟨congrArg (PictureAnswer.mk r) (congrArg Prod.snd hlookup), congrArg Prod.fst hlookup,
    hindex ▸ h.picture, ?_, fun hplain => ?_⟩
  · rw [← hindex, ← hicon]
    exact h.failed
  · rw [h.plain (hicon ▸ hplain)]

end Confirms

/-- The first request for an index decodes the icon. -/
theorem answer_of_missing {r : PictureRequest} (h : c.picture? r.index = none)
    (hfailed : c.hasFailed r.index = false) :
    c.answer d r = ⟨r, ⟨(d.decode? r.icon r.size).bind (·.toOption), d.decode? r.icon r.size⟩⟩ := by
  rw [answer, lookup_of_missing h hfailed]

/-- What the first request for an index is answered is kept from then on. -/
theorem confirms_of_missing {r : PictureRequest} (h : c.picture? r.index = none)
    (hfailed : c.hasFailed r.index = false) : (c.after d r).Confirms (c.answer d r) := by
  have hencoded := d.decode?_isSome r.icon r.size
  rw [after_eq, answer_of_missing h hfailed]
  cases hdecode : d.decode? r.icon r.size with
  | none =>
    rw [hdecode] at hencoded
    exact ⟨h, by rw [← hencoded]; exact hfailed, fun _ => rfl⟩
  | some outcome =>
    rw [hdecode] at hencoded
    obtain ⟨hpicture, hkept⟩ := keep_self h hfailed outcome
    refine ⟨hpicture, ?_, fun hplain => ?_⟩
    · rw [← hencoded]
      exact hkept
    · rw [← hencoded] at hplain
      cases hplain

/-! ## Many requests -/

/-- The cache without pictures has told nothing. -/
theorem gave_nil : Gave [] empty := ⟨nofun, fun _ _ => ⟨rfl, rfl⟩⟩

/-- One more answer to a button, which has the icon that it had before. -/
theorem Gave.concat {answers : List PictureAnswer} {r : PictureRequest} (h : Gave answers c)
    (hicons : ∀ a ∈ answers, a.request.index = r.index → a.request.icon = r.icon) :
    Gave (answers ++ [c.answer d r]) (c.after d r) := by
  have hlast : (c.after d r).Confirms (c.answer d r) := by
    by_cases hasked : ∃ a ∈ answers, a.request.index = r.index
    · obtain ⟨a, ha, hindex⟩ := hasked
      obtain ⟨hanswer, hafter, hagain⟩ :=
        (h.told a ha).again (d := d) hindex (hicons a ha hindex)
      rw [hanswer, hafter]
      exact hagain
    · obtain ⟨hpicture, hfailed⟩ :=
        h.unasked r.index fun a ha hindex => hasked ⟨a, ha, hindex⟩
      exact confirms_of_missing hpicture hfailed
  refine ⟨fun a ha => ?_, fun index hindex => ?_⟩
  · rcases List.mem_append.mp ha with ha | ha
    · by_cases hindex : a.request.index = r.index
      · obtain ⟨-, hafter, -⟩ := (h.told a ha).again (d := d) hindex (hicons a ha hindex)
        rw [hafter]
        exact h.told a ha
      · exact (h.told a ha).after_of_ne fun heq => hindex heq.symm
    · rw [List.mem_singleton.mp ha]
      exact hlast
  · have hother : r.index ≠ index := hindex (c.answer d r) (by simp)
    obtain ⟨hpicture, hfailed⟩ := after_of_ne (d := d) (c := c) hother
    rw [hpicture, hfailed]
    exact h.unasked index fun a ha => hindex a (List.mem_append_left _ ha)

theorem gave_answers {requests : List PictureRequest} (hicons : KeepsIcons requests) :
    Gave (empty.answers d requests) (empty.afterAll d requests) := by
  induction requests using List.reverseRecOn with
  | nil => exact gave_nil
  | append_singleton requests r ih =>
    obtain ⟨hbefore, hlast⟩ := hicons.of_concat
    rw [answers_append, afterAll_concat]
    exact (ih hbefore).concat fun a ha => hlast a.request (request_of_mem_answers ha)

/-- No index has both a picture and a failure. -/
theorem Gave.disjoint {answers : List PictureAnswer} (h : Gave answers c) {index : Nat}
    (hfailed : c.hasFailed index = true) : c.picture? index = none := by
  by_cases hasked : ∃ a ∈ answers, a.request.index = index
  · obtain ⟨a, ha, hindex⟩ := hasked
    have htold := h.told a ha
    rw [← hindex, htold.failed, Bool.and_eq_true, Option.isNone_iff_eq_none] at hfailed
    rw [← hindex, htold.picture, hfailed.2]
  · exact (h.unasked index fun a ha hindex => hasked ⟨a, ha, hindex⟩).1

/-- As long as each button keeps its icon, this is decoded once. -/
theorem decodesOnce_answers {requests : List PictureRequest} (hicons : KeepsIcons requests) :
    DecodesOnce d (empty.answers d requests) := by
  induction requests using List.reverseRecOn with
  | nil => exact ⟨nofun, .nil⟩
  | append_singleton requests r ih =>
    obtain ⟨hbefore, hkeeps⟩ := hicons.of_concat
    have hgave : Gave (empty.answers d requests) (empty.afterAll d requests) :=
      gave_answers hbefore
    obtain ⟨hfirst, hagain⟩ := ih hbefore
    rw [answers_append]
    refine ⟨fun index b hb => ?_,
      List.pairwise_append.mpr ⟨hagain, List.pairwise_singleton _ _, fun a ha b hb hindex => ?_⟩⟩
    · rw [List.find?_append] at hb
      cases hfound : (empty.answers d requests).find? (·.request.index == index) with
      | some a =>
        rw [hfound] at hb
        rw [← Option.some.inj hb]
        exact hfirst index a hfound
      | none =>
        rw [hfound, Option.none_or] at hb
        have hlast : b = (empty.afterAll d requests).answer d r :=
          List.mem_singleton.mp (List.mem_of_find?_eq_some hb)
        have hindex : b.request.index = index := by simpa using List.find?_some hb
        rw [hlast] at hindex
        have hnew : ∀ a ∈ empty.answers d requests, a.request.index ≠ r.index := by
          intro a ha heq
          have hno := List.find?_eq_none.mp hfound a ha
          exact hno (beq_iff_eq.mpr (heq.trans hindex))
        obtain ⟨hpicture, hfailed⟩ := hgave.unasked r.index hnew
        rw [hlast, answer_of_missing hpicture hfailed]
        exact ⟨rfl, rfl⟩
    · have hlast : b = (empty.afterAll d requests).answer d r := List.mem_singleton.mp hb
      rw [hlast] at hindex ⊢
      have hicon := hkeeps a.request (request_of_mem_answers ha) hindex
      rw [((hgave.told a ha).again (r := r) hindex hicon).1]

/-- What is kept is what was decoded, the last one first. -/
theorem kept_afterAll (requests : List PictureRequest) :
    let outcomes := (c.answers d requests).filterMap (·.decoding?)
    (c.afterAll d requests).drawn = (picturesOf outcomes).reverse ++ c.drawn ∧
      (c.afterAll d requests).failed = (failuresOf outcomes).reverse ++ c.failed := by
  induction requests using List.reverseRecOn with
  | nil => exact ⟨rfl, rfl⟩
  | append_singleton requests r ih =>
    dsimp only at ih ⊢
    obtain ⟨hdrawn, hfailed⟩ := ih
    rw [afterAll_concat, answers_append, List.filterMap_append, picturesOf_append,
      failuresOf_append, List.reverse_append, List.reverse_append, List.append_assoc,
      List.append_assoc, ← hdrawn, ← hfailed, after_eq, answers, answers,
      PictureAnswer.filterMap_decoding?]
    cases ((c.afterAll d requests).answer d r).found.decoded with
    | none => exact ⟨rfl, rfl⟩
    | some outcome => cases outcome <;> exact ⟨rfl, rfl⟩

/-- Nothing is decoded for the same index twice. -/
theorem DecodesOnce.nodup {answers : List PictureAnswer} (h : DecodesOnce d answers) :
    ((answers.filterMap (·.decoding?)).map (·.1)).Nodup := by
  rw [List.map_filterMap]
  refine h.again.filterMap _ fun a b hab i ha j hb hij => ?_
  obtain ⟨o, ho, rfl⟩ := Option.map_eq_some_iff.mp ha
  obtain ⟨o', ho', rfl⟩ := Option.map_eq_some_iff.mp hb
  obtain ⟨x, hx, rfl⟩ := Option.map_eq_some_iff.mp ho
  obtain ⟨y, hdecoded, rfl⟩ := Option.map_eq_some_iff.mp ho'
  rw [hab hij] at hdecoded
  cases hdecoded

end PictureCache

end ScatterPick
