import Mathlib.Data.List.TakeWhile
import QueueListener.Text.Blank
/-!
# Blank text

**Nothing stands in blank text.** A list of it has no items, and it is no name.

* `Text.listItems_of_blank` — blank text as a list;
* `Text.lower_of_blank`, `Text.sameIgnoringCase_of_blank` — blank text as a name.
-/

namespace QueueListener.Text

variable {text : String} {cs : List Char}

theorem segments_eq_splitOn (separator : Char) (cs : List Char) :
    segments separator cs = cs.splitOn separator := by
  induction cs with
  | nil => rfl
  | cons c rest ih =>
    obtain ⟨first, others, cut⟩ := List.exists_cons_of_ne_nil (List.splitOn_ne_nil separator rest)
    rw [segments, ih, List.splitOn_cons_eq_if_modifyHead, cut]
    by_cases same : c = separator <;> simp [same]

theorem segments_of_not_mem {separator : Char} (absent : separator ∉ cs) :
    segments separator cs = [cs] := by
  rw [segments_eq_splitOn]
  exact List.splitOn_eq_singleton absent

theorem dropWhile_of_blank (blank : cs.all isBlank = true) : cs.dropWhile isBlank = [] :=
  List.dropWhile_eq_nil_iff.mpr (List.all_eq_true.mp blank)

theorem trimChars_of_blank (blank : cs.all isBlank = true) : trimChars cs = [] := by
  have front : trimFront cs = [] := dropWhile_of_blank blank
  rw [trimChars, front]
  rfl

/-- No item stands in blank text. -/
theorem listItems_of_blank (blank : isBlankText text = true) : listItems text = [] := by
  have alone : ',' ∉ text.toList := fun comma => by
    have := List.all_eq_true.mp blank ',' comma
    revert this
    decide
  rw [listItems, segments_of_not_mem alone, List.map_singleton, trimChars_of_blank blank]
  rfl

theorem blankPoints_apart : ∀ point ∈ blankPoints, point < 65 ∨ 90 < point := by
  decide

theorem lowerAscii_of_blank {c : Char} (blank : isBlank c = true) : lowerAscii c = c := by
  refine if_neg fun ⟨first, last⟩ => ?_
  have above : 65 ≤ c.toNat := first
  have below : c.toNat ≤ 90 := last
  have apart := blankPoints_apart c.toNat (List.contains_iff_mem.mp blank)
  omega

/-- Blank text has no letters to change. -/
theorem lower_of_blank (blank : isBlankText text = true) : lower text = text := by
  rw [lower, List.map_congr_left fun c here =>
    lowerAscii_of_blank (List.all_eq_true.mp blank c here), List.map_id', String.ofList_toList]

/-- Blank text is no name, whatever the case of its letters. -/
theorem sameIgnoringCase_of_blank {name : String} (blank : isBlankText text = true)
    (written : isBlankText (lower name) = false) :
    sameIgnoringCase name text = false := by
  rw [sameIgnoringCase, lower_of_blank blank, beq_eq_false_iff_ne]
  intro same
  rw [same, blank] at written
  cases written

end QueueListener.Text
