import Mathlib.Tactic
import TimecodeCard.Proofs.Text.Numeral
import TimecodeCard.TimeCode.Text
import TimecodeCard.Word

/-!
# Which texts are time codes

`Fields.WrittenAs` is the grammar of a time code: four numbers between colons, each as
`Decimal.Denotes` has it. Leading zeros and plus signs make many texts of one time code. The one
which is written out (`TimeCode.text`) has two digits for each number, eleven characters in all.

The main result is `TimeCode.parse_accepts_grammar`: reading accepts exactly the texts of the
grammar whose numbers are in range (`Fields.InRange`), whatever else a text may hold, and gives the
time code packed from them. Written out it is read again as the same time code.

A text is split before its parts are read, so that an empty part, or a part too many, is a matter
of the list of parts alone; `splitParts_eq_splitOn` hands it to the library.
-/

namespace TimecodeCard

/-! ## The grammar -/

/-- Whether the text is four numbers between colons, those of the fields. -/
def Fields.WrittenAs (f : Fields) (text : String) : Prop :=
  ∃ hours minutes seconds frames : List Char,
    text.toList.splitOn ':' = [hours, minutes, seconds, frames]
      ∧ Decimal.Denotes hours f.hours ∧ Decimal.Denotes minutes f.minutes
      ∧ Decimal.Denotes seconds f.seconds ∧ Decimal.Denotes frames f.frames

/-- Whether the fields are a time of day, at up to 30 frames a second. -/
structure Fields.InRange (f : Fields) : Prop where
  hours_lt : f.hours < 24
  minutes_lt : f.minutes < 60
  seconds_lt : f.seconds < 60
  frames_lt : f.frames < 30

variable {f : Fields} {text : String} {t : TimeCode}

lemma Fields.InRange.le_limit (h : f.InRange) :
    ∀ n ∈ [f.hours, f.minutes, f.seconds, f.frames], n ≤ 255 := by
  have hhours := h.hours_lt
  have hminutes := h.minutes_lt
  have hseconds := h.seconds_lt
  have hframes := h.frames_lt
  simp only [List.forall_mem_cons]
  exact ⟨by omega, by omega, by omega, by omega, by simp⟩

/-! ## Splitting -/

lemma splitParts_eq_splitOn (separator : Char) (cs : List Char) :
    splitParts separator cs = cs.splitOn separator := by
  induction cs with
  | nil => rfl
  | cons c cs ih =>
      rw [splitParts, ih, List.splitOn_cons_eq_if_modifyHead]
      by_cases hc : c = separator
      · rw [if_pos hc, if_pos (beq_iff_eq.mpr hc)]
      · rw [if_neg hc, if_neg (by simpa using hc)]
        obtain ⟨part, parts, hparts⟩ :=
          List.exists_cons_of_ne_nil (List.splitOn_ne_nil separator cs)
        rw [hparts]
        rfl

lemma mapM_eq_ok_iff {ε α β : Type} {read : α → Except ε β} {xs : List α} {ys : List β} :
    xs.mapM read = .ok ys ↔ List.Forall₂ (fun x y => read x = .ok y) xs ys := by
  induction xs generalizing ys with
  | nil =>
      rw [List.mapM_nil, List.forall₂_nil_left_iff]
      constructor
      · rintro ⟨⟩
        rfl
      · rintro rfl
        rfl
  | cons x xs ih =>
      rw [List.mapM_cons, List.forall₂_cons_left_iff]
      constructor
      · intro h
        obtain ⟨y, hy, h⟩ := exists_of_bind_eq_ok h
        obtain ⟨rest, hrest, h⟩ := exists_of_bind_eq_ok h
        obtain rfl := Except.ok.inj h
        exact ⟨y, rest, hy, ih.mp hrest, rfl⟩
      · rintro ⟨y, rest, hy, hrest, rfl⟩
        rw [hy, ih.mpr hrest]
        rfl

namespace TimeCode

/-! ## Reading -/

/-- The numbers of a text are four exactly if the grammar gives four. -/
lemma mapM_readUnsigned_eq_ok_iff {limit : Nat} :
    (splitParts ':' text.toList).mapM (Decimal.readUnsigned limit)
        = .ok [f.hours, f.minutes, f.seconds, f.frames]
      ↔ f.WrittenAs text ∧ ∀ n ∈ [f.hours, f.minutes, f.seconds, f.frames], n ≤ limit := by
  rw [splitParts_eq_splitOn, mapM_eq_ok_iff]
  constructor
  · intro h
    obtain ⟨hours, _, hhours, hrest, hsplit⟩ := List.forall₂_cons_right_iff.mp h
    obtain ⟨minutes, _, hminutes, hrest', rfl⟩ := List.forall₂_cons_right_iff.mp hrest
    obtain ⟨seconds, _, hseconds, hlast, rfl⟩ := List.forall₂_cons_right_iff.mp hrest'
    obtain ⟨frames, _, hframes, hnone, rfl⟩ := List.forall₂_cons_right_iff.mp hlast
    obtain rfl := List.forall₂_nil_right_iff.mp hnone
    rw [Decimal.readUnsigned_eq_ok_iff] at hhours hminutes hseconds hframes
    refine ⟨⟨hours, minutes, seconds, frames, hsplit, hhours.1, hminutes.1, hseconds.1,
      hframes.1⟩, ?_⟩
    simp only [List.forall_mem_cons]
    exact ⟨hhours.2, hminutes.2, hseconds.2, hframes.2, by simp⟩
  · rintro ⟨⟨hours, minutes, seconds, frames, hsplit, hhours, hminutes, hseconds, hframes⟩, hle⟩
    simp only [List.forall_mem_cons] at hle
    obtain ⟨lehours, leminutes, leseconds, leframes, -⟩ := hle
    rw [hsplit]
    exact .cons (Decimal.readUnsigned_eq_ok_iff.mpr ⟨hhours, lehours⟩)
      (.cons (Decimal.readUnsigned_eq_ok_iff.mpr ⟨hminutes, leminutes⟩)
        (.cons (Decimal.readUnsigned_eq_ok_iff.mpr ⟨hseconds, leseconds⟩)
          (.cons (Decimal.readUnsigned_eq_ok_iff.mpr ⟨hframes, leframes⟩) .nil)))

/-- A text is read exactly if the grammar has it with numbers in range. -/
lemma parse_eq_ok_iff :
    parse text = .ok t ↔ ∃ f : Fields, f.InRange ∧ f.WrittenAs text ∧ ofFields f = t := by
  constructor
  · intro h
    unfold parse at h
    split at h
    · exact nomatch h
    · next hours minutes seconds frames hread =>
        split at h
        · next hrange =>
            obtain ⟨hhours, hminutes, hseconds, hframes⟩ := hrange
            exact ⟨⟨hours, minutes, seconds, frames⟩, ⟨hhours, hminutes, hseconds, hframes⟩,
              (mapM_readUnsigned_eq_ok_iff.mp hread).1, Except.ok.inj h⟩
        · exact nomatch h
    · exact nomatch h
  · rintro ⟨f, hrange, hwritten, rfl⟩
    have hread := mapM_readUnsigned_eq_ok_iff.mpr ⟨hwritten, hrange.le_limit⟩
    rw [parse, hread]
    exact if_pos ⟨hrange.hours_lt, hrange.minutes_lt, hrange.seconds_lt, hrange.frames_lt⟩

/-! ## Writing -/

lemma length_text (t : TimeCode) : t.text.length = 11 :=
  String.length_ofList

lemma fields_ofFields_of_inRange (h : f.InRange) : (ofFields f).fields = f := by
  have hhours := h.hours_lt
  have hminutes := h.minutes_lt
  have hseconds := h.seconds_lt
  have hframes := h.frames_lt
  exact fields_ofFields (by omega) (by omega) (by omega) (by omega)

lemma writtenAs_text (h : f.InRange) : f.WrittenAs (ofFields f).text := by
  have hhours := Decimal.denotes_pair (h.hours_lt.trans (by decide))
  have hminutes := Decimal.denotes_pair (h.minutes_lt.trans (by decide))
  have hseconds := Decimal.denotes_pair (h.seconds_lt.trans (by decide))
  have hframes := Decimal.denotes_pair (h.frames_lt.trans (by decide))
  have htext : (ofFields f).text.toList
      = [':'].intercalate [Decimal.pair f.hours, Decimal.pair f.minutes,
        Decimal.pair f.seconds, Decimal.pair f.frames] := by
    rw [text, fields_ofFields_of_inRange h, String.toList_ofList]
    simp
  refine ⟨_, _, _, _, ?_, hhours, hminutes, hseconds, hframes⟩
  rw [htext, List.splitOn_intercalate]
  · simp only [List.forall_mem_cons]
    exact ⟨hhours.not_mem (by decide) (by decide), hminutes.not_mem (by decide) (by decide),
      hseconds.not_mem (by decide) (by decide), hframes.not_mem (by decide) (by decide), by simp⟩
  · exact List.cons_ne_nil _ _

lemma parse_text (h : f.InRange) : parse (ofFields f).text = .ok (ofFields f) :=
  parse_eq_ok_iff.mpr ⟨f, h, writtenAs_text h, rfl⟩

/-- **Reading accepts the grammar.** Any text at all is read exactly if it is four numbers between
colons which are in range, and then as the time code packed from them. A time code packed from
numbers in range is read from its own text, and one which was read has a text of eleven characters,
from which it is read again. -/
theorem parse_accepts_grammar (text : String) (t : TimeCode) :
    (parse text = .ok t ↔ ∃ f : Fields, f.InRange ∧ f.WrittenAs text ∧ ofFields f = t)
      ∧ (∀ f : Fields, f.InRange → parse (ofFields f).text = .ok (ofFields f))
      ∧ (parse text = .ok t → t.text.length = 11 ∧ parse t.text = .ok t) := by
  refine ⟨parse_eq_ok_iff, fun f h => parse_text h, fun hread => ⟨length_text t, ?_⟩⟩
  obtain ⟨f, h, -, rfl⟩ := parse_eq_ok_iff.mp hread
  exact parse_text h

/-- Plus signs and leading zeros, before the last frame of a day. -/
theorem parse_accepts_grammar_padded :
    Fields.WrittenAs ⟨23, 59, 59, 29⟩ "+0023:59:00000059:+29"
      ∧ parse "+0023:59:00000059:+29" = .ok ⟨0x23595929⟩
      ∧ parse (TimeCode.text ⟨0x23595929⟩) = .ok ⟨0x23595929⟩ := by
  have hwritten : Fields.WrittenAs ⟨23, 59, 59, 29⟩ "+0023:59:00000059:+29" :=
    ⟨['+', '0', '0', '2', '3'], ['5', '9'], ['0', '0', '0', '0', '0', '0', '5', '9'],
      ['+', '2', '9'], by decide, .signed ⟨by decide, List.all_eq_true.mp rfl, rfl⟩,
      .plain ⟨by decide, List.all_eq_true.mp rfl, rfl⟩,
      .plain ⟨by decide, List.all_eq_true.mp rfl, rfl⟩,
      .signed ⟨by decide, List.all_eq_true.mp rfl, rfl⟩⟩
  obtain ⟨hiff, -, hagain⟩ := parse_accepts_grammar "+0023:59:00000059:+29" ⟨0x23595929⟩
  have hread := hiff.mpr ⟨_, ⟨by decide, by decide, by decide, by decide⟩, hwritten, rfl⟩
  exact ⟨hwritten, hread, (hagain hread).2⟩

end TimeCode

end TimecodeCard
