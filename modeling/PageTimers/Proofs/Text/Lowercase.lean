/-
# Which texts are a word in lower case

A text may be compared with a word of plain letters after all of its letters
were made small.  That takes in more than ASCII: the sign for kelvin is a
capital whose small letter is a plain k.  It is the only one.  The small
letters of all other capitals past ASCII lie past ASCII themselves, and the
dotted I, though it does become a plain i, leaves its dot behind as a character
of its own.  So where the word has no k, it is compared with texts of ASCII
only, and for these nothing but the twenty-six plain capitals matters
(`lowercase_eq_iff`).
-/
import Mathlib
import PageTimers.Text.Blank
import PageTimers.Text.Lowercase

namespace PageTimers.Text

/-- A character of ASCII other than a small k. -/
def IsPlain (c : Char) : Prop := c.toNat < 0x80 ∧ c ≠ 'k'

instance : DecidablePred IsPlain := fun c =>
  inferInstanceAs (Decidable (c.toNat < 0x80 ∧ c ≠ 'k'))

/-! ## One letter -/

theorem CapitalRow.small?_eq_some {row : CapitalRow} {code small : Nat}
    (h : row.small? code = some small) :
    row.first ≤ code ∧ code ≤ row.last ∧ small = row.small + (code - row.first) := by
  rw [small?] at h
  split at h
  · next hin =>
    cases h
    exact ⟨hin.1, hin.2.1, rfl⟩
  · cases h

/-- Small letters are characters, and those of capitals past ASCII lie past
ASCII but for the one of the sign for kelvin. -/
theorem smalls_past_ascii : ∀ row ∈ capitalRows,
    (row.small + (row.last - row.first) < 0xd800 ∨
      0xdfff < row.small ∧ row.small + (row.last - row.first) < 0x110000) ∧
    (0x80 ≤ row.small ∨ row.small = 'k'.toNat ∧ row.last = row.first) := by
  decide +kernel

theorem not_isPlain_of_capital {row : CapitalRow} (hrow : row ∈ capitalRows) {code small : Nat}
    (h : row.small? code = some small) : ¬ IsPlain (Char.ofNat small) := by
  obtain ⟨hfirst, hlast, rfl⟩ := CapitalRow.small?_eq_some h
  obtain ⟨hvalid, hpast⟩ := smalls_past_ascii row hrow
  have hcode : (Char.ofNat (row.small + (code - row.first))).toNat =
      row.small + (code - row.first) := by
    rw [Char.toNat_ofNat, if_pos]
    refine hvalid.imp (fun h => ?_) fun h => ⟨?_, ?_⟩ <;> omega
  rintro ⟨hascii, hk⟩
  rw [hcode] at hascii
  rcases hpast with hpast | ⟨hkelvin, hone⟩
  · omega
  · have hsame : (Char.ofNat (row.small + (code - row.first))).toNat = 'k'.toNat := by omega
    exact hk (Char.toNat_inj.mp hsame)

theorem smallForm_of_ascii {c : Char} (h : c.toNat < 0x80) : smallForm c = [c.toLower] :=
  if_pos h

/-- Whatever becomes of a character past ASCII, it is not all plain. -/
theorem exists_not_isPlain {c : Char} (h : 0x80 ≤ c.toNat) :
    ∃ small ∈ smallForm c, ¬ IsPlain small := by
  rw [smallForm, if_neg (Nat.not_lt.mpr h)]
  split
  · exact ⟨'\u0307', List.mem_cons_of_mem _ List.mem_cons_self, by decide⟩
  · split
    · next code hcode =>
      obtain ⟨row, hrow, hsmall⟩ := List.exists_of_findSome?_eq_some hcode
      exact ⟨_, List.mem_singleton_self _, not_isPlain_of_capital hrow hsmall⟩
    · exact ⟨c, List.mem_singleton_self c, fun hplain => absurd hplain.1 (Nat.not_lt.mpr h)⟩

theorem not_isPlain_smallSigma (before after : List Char) :
    ¬ IsPlain (smallSigma before after) := by
  rw [smallSigma]
  split <;> decide

theorem ascii_of_toLower {c : Char} (h : c.toLower.toNat < 0x80) : c.toNat < 0x80 := by
  by_cases hupper : c.isUpper
  · simp only [Char.isUpper, decide_eq_true_eq] at hupper
    have hle : c.toNat ≤ 'Z'.toNat := hupper.2
    exact Nat.lt_of_le_of_lt hle (by decide)
  · rwa [Char.toLower_eq_of_not_isUpper hupper] at h

/-! ## Whole texts -/

theorem lowercaseFrom_of_ascii {text : List Char} (h : ∀ c ∈ text, c.toNat < 0x80)
    (before : List Char) : lowercaseFrom before text = text.map Char.toLower := by
  induction text generalizing before with
  | nil => rfl
  | cons c after ih =>
      have hc : c.toNat < 0x80 := h c List.mem_cons_self
      have hsigma : c ≠ '\u03a3' := by
        rintro rfl
        exact absurd hc (by decide)
      rw [lowercaseFrom, if_neg hsigma, smallForm_of_ascii hc,
        ih fun d hd => h d (List.mem_cons_of_mem c hd)]
      rfl

/-- Only a text of ASCII is all plain in lower case. -/
theorem ascii_of_lowercaseFrom {before text : List Char}
    (h : ∀ small ∈ lowercaseFrom before text, IsPlain small) : ∀ c ∈ text, c.toNat < 0x80 := by
  induction text generalizing before with
  | nil => exact fun _ hc => absurd hc List.not_mem_nil
  | cons c after ih =>
      rw [lowercaseFrom, List.forall_mem_append] at h
      obtain ⟨hhere, hafter⟩ := h
      refine List.forall_mem_cons.mpr ⟨Nat.lt_of_not_le fun hpast => ?_, ih hafter⟩
      by_cases hsigma : c = '\u03a3'
      · rw [if_pos hsigma] at hhere
        exact not_isPlain_smallSigma before after (hhere _ List.mem_cons_self)
      · rw [if_neg hsigma] at hhere
        obtain ⟨small, hsmall, hnot⟩ := exists_not_isPlain hpast
        exact hnot (hhere small hsmall)

theorem lowercase_of_ascii {text : String} (h : ∀ c ∈ text.toList, c.toNat < 0x80) :
    lowercase text = lowered text := by
  rw [lowercase, lowercaseFrom_of_ascii h, lowered]

/-- A plain word is compared with texts as if there were no capitals but those
of ASCII. -/
theorem lowercase_eq_iff {word : String} (hword : ∀ c ∈ word.toList, IsPlain c) (text : String) :
    lowercase text = word ↔ lowered text = word := by
  constructor
  · rintro rfl
    rw [lowercase, String.toList_ofList] at hword
    exact (lowercase_of_ascii (ascii_of_lowercaseFrom hword)).symm
  · rintro rfl
    refine lowercase_of_ascii fun c hc => ascii_of_toLower (hword c.toLower ?_).1
    rw [lowered, String.toList_ofList]
    exact List.mem_map_of_mem hc

example : lowercase "\u212a" = "k" := by decide +kernel

end PageTimers.Text
