import Mathlib.Data.List.DropRight
import Mathlib.Data.List.Forall2
import Mathlib.Logic.Function.Basic
import QueueListener.Environment
import QueueListener.Proofs.Text
/-!
# Comma separated lists

**A list variable is read in its canonical form.** The items are the segments of the text between
its commas, each without the white space at its ends, and of these the ones that are not empty, in
the order of the text. Written down with a comma between each two, they are read as they were.

* `Text.Cuts`, `Text.cuts_iff` — the segments of a text, told without cutting it;
* `Text.Trims`, `Text.trims_iff` — what trimming leaves, told without trimming;
* `Text.Lists`, `Text.listItems_eq_iff` — what a text lists;
* `Text.IsItem`, `Text.listItems_intercalate` — what can be an item, and is read back;
* `Environment.list_reads_canonically` — the variables.
-/

namespace QueueListener

namespace Text

variable {cs front back : List Char} {text whole part item : String}
  {parts trimmed items : List String}

/-! ### Segments -/

/-- **The segments of a text**: with a comma between each two they are the text, and there is no
comma in any of them. A text has at least one. -/
structure Cuts (text : String) (parts : List String) : Prop where
  joined : ",".intercalate parts = text
  apart : ∀ part ∈ parts, ',' ∉ part.toList
  nonempty : parts ≠ []

/-- The segments of a text between its commas. -/
def pieces (text : String) : List String := (segments ',' text.toList).map String.ofList

theorem not_mem_of_mem_segments {separator : Char} {segment : List Char}
    (cut : segment ∈ segments separator cs) : separator ∉ segment := by
  fun_induction segments separator cs generalizing segment with
  | case1 =>
    rw [List.mem_singleton.mp cut]
    exact List.not_mem_nil
  | case2 rest ih =>
    obtain rfl | later := List.mem_cons.mp cut
    · exact List.not_mem_nil
    · exact ih later
  | case3 c rest other empty ih =>
    rw [List.mem_singleton.mp cut, List.mem_singleton]
    exact Ne.symm other
  | case4 c rest other first others found ih =>
    obtain rfl | later := List.mem_cons.mp cut
    · rw [List.mem_cons, not_or]
      exact ⟨Ne.symm other, ih (found ▸ List.mem_cons_self)⟩
    · exact ih (found ▸ List.mem_cons_of_mem _ later)

theorem pieces_cuts (text : String) : Cuts text (pieces text) where
  joined := by
    have segmented : (pieces text).map String.toList = text.toList.splitOn ',' := by
      simp [pieces, segments_eq_splitOn, Function.comp_def]
    rw [← String.toList_inj, String.toList_intercalate, segmented]
    exact List.intercalate_splitOn ','
  apart := by
    intro part listed
    obtain ⟨segment, cut, rfl⟩ := List.mem_map.mp listed
    rw [String.toList_ofList]
    exact not_mem_of_mem_segments cut
  nonempty := by
    rw [pieces, segments_eq_splitOn, Ne, List.map_eq_nil_iff]
    exact List.splitOn_ne_nil _ _

/-- **A text has these segments and no others.** -/
theorem cuts_iff : Cuts text parts ↔ pieces text = parts := by
  constructor
  · rintro ⟨rfl, apart, nonempty⟩
    have segmented : (",".intercalate parts).toList.splitOn ',' = parts.map String.toList := by
      rw [String.toList_intercalate]
      exact List.splitOn_intercalate ',' (by simpa using apart) (by simpa using nonempty)
    rw [pieces, segments_eq_splitOn, segmented, List.map_map]
    simp [Function.comp_def]
  · rintro rfl
    exact pieces_cuts text

/-! ### White space at the ends -/

/-- No white space at either end. -/
def Tight (cs : List Char) : Prop :=
  (∀ c ∈ cs.head?, isBlank c = false) ∧ ∀ c ∈ cs.getLast?, isBlank c = false

/-- **What trimming leaves of a text**: a part that has white space at neither end, with nothing but
white space before and after it. -/
structure Trims (whole part : String) : Prop where
  within : ∃ front back, whole = front ++ part ++ back ∧
    isBlankText front = true ∧ isBlankText back = true
  tight : Tight part.toList

theorem trimChars_eq (cs : List Char) :
    trimChars cs = (cs.dropWhile isBlank).rdropWhile isBlank :=
  rfl

theorem trimChars_tight (cs : List Char) : Tight (trimChars cs) := by
  rw [trimChars_eq]
  constructor
  · intro c first
    -- What is dropped at the back leaves the first character where it is.
    obtain ⟨rest, kept⟩ := List.rdropWhile_prefix isBlank (cs.dropWhile isBlank)
    have begins : (cs.dropWhile isBlank).head? = some c := by
      rw [← kept, List.head?_append, first, Option.some_or]
    have stops := List.head?_dropWhile_not isBlank cs
    rwa [begins] at stops
  · intro c last
    obtain ⟨written, rfl⟩ := List.mem_getLast?_eq_getLast last
    exact Bool.eq_false_iff.mpr (List.rdropWhile_last_not isBlank _ written)

theorem trimChars_of_tight (tight : Tight cs) : trimChars cs = cs := by
  have begins : cs.dropWhile isBlank = cs := by
    cases cs with
    | nil => rfl
    | cons c rest => exact List.dropWhile_cons_of_neg (by simp [tight.1 c rfl])
  rw [trimChars_eq, begins, List.rdropWhile_eq_self_iff]
  intro written
  simp [tight.2 _ (List.getLast_mem_getLast? written)]

/-- White space around a text is trimmed away. -/
theorem trimChars_append (before : front.all isBlank = true) (after : back.all isBlank = true) :
    trimChars (front ++ cs ++ back) = trimChars cs := by
  rw [List.all_eq_true] at before
  rw [trimChars_eq, List.append_assoc, List.dropWhile_append_of_pos before, List.dropWhile_append]
  -- Where the text is blank too, the white space behind it is dropped from the front.
  split
  next blank =>
    rw [dropWhile_of_blank after, trimChars_eq, List.isEmpty_iff.mp blank]
  next =>
    rw [List.rdropWhile, List.reverse_append, List.dropWhile_append_of_pos]
    · rfl
    · intro c listed
      exact List.all_eq_true.mp after c (List.mem_reverse.mp listed)

theorem exists_trimmed_ends (cs : List Char) : ∃ front back, cs = front ++ trimChars cs ++ back ∧
    front.all isBlank = true ∧ back.all isBlank = true := by
  refine ⟨cs.takeWhile isBlank, (cs.dropWhile isBlank).rtakeWhile isBlank, ?_,
    List.all_takeWhile, List.all_eq_true.mpr fun c => List.mem_rtakeWhile_imp⟩
  rw [trimChars_eq, List.append_assoc, List.rdropWhile_append_rtakeWhile,
    List.takeWhile_append_dropWhile]

/-- **Trimming leaves this of a text and nothing else.** -/
theorem trims_iff : Trims whole part ↔ trim whole = part := by
  constructor
  · rintro ⟨⟨front, back, rfl, before, after⟩, tight⟩
    rw [trim, String.toList_append, String.toList_append, trimChars_append before after,
      trimChars_of_tight tight, String.ofList_toList]
  · rintro rfl
    obtain ⟨front, back, split, before, after⟩ := exists_trimmed_ends whole.toList
    refine ⟨⟨String.ofList front, String.ofList back, ?_, ?_, ?_⟩, ?_⟩
    · rw [← String.toList_inj]
      simpa [trim] using split
    · rwa [isBlankText, String.toList_ofList]
    · rwa [isBlankText, String.toList_ofList]
    · rw [trim, String.toList_ofList]
      exact trimChars_tight _

theorem forall₂_trims_iff : List.Forall₂ Trims parts trimmed ↔ parts.map trim = trimmed := by
  have same : Trims = fun whole part => trim whole = part := by
    funext whole part
    exact propext trims_iff
  rw [same, ← List.forall₂_eq_eq_eq, List.forall₂_map_left_iff]

/-! ### Items -/

/-- **What a text lists**: what trimming leaves of its segments, where it leaves anything. -/
def Lists (text : String) (items : List String) : Prop :=
  ∃ parts trimmed, Cuts text parts ∧ List.Forall₂ Trims parts trimmed ∧
    items = trimmed.filter (· ≠ "")

theorem listItems_eq (text : String) :
    listItems text = ((pieces text).map trim).filter (· ≠ "") := by
  have trimmed : (pieces text).map trim =
      ((segments ',' text.toList).map trimChars).map String.ofList := by
    simp [pieces, trim, Function.comp_def]
  have written : (fun cs : List Char => !cs.isEmpty) =
      (fun item => decide (item ≠ "")) ∘ String.ofList := by
    funext cs
    cases cs <;> simp
  rw [listItems, trimmed, written, ← List.filter_map]

/-- **The items of a text are what it lists, and it lists nothing else.** -/
theorem listItems_eq_iff : listItems text = items ↔ Lists text items := by
  constructor
  · rintro rfl
    exact ⟨_, _, pieces_cuts text, forall₂_trims_iff.mpr rfl, listItems_eq text⟩
  · rintro ⟨parts, trimmed, cuts, trims, rfl⟩
    rw [listItems_eq, cuts_iff.mp cuts, forall₂_trims_iff.mp trims]

/-- **What can be an item**: it is not empty, holds no comma and has no white space at its ends. -/
structure IsItem (item : String) : Prop where
  written : item ≠ ""
  apart : ',' ∉ item.toList
  tight : Tight item.toList

/-- Nothing of an item is trimmed away. -/
theorem IsItem.trims (proper : IsItem item) : Trims item item where
  within := ⟨"", "", by simp, rfl, rfl⟩
  tight := proper.tight

theorem isItem_of_mem_listItems (listed : item ∈ listItems text) : IsItem item := by
  rw [listItems_eq, List.mem_filter, decide_eq_true_eq] at listed
  obtain ⟨trimmed, written⟩ := listed
  obtain ⟨part, cut, left⟩ := List.mem_map.mp trimmed
  obtain ⟨⟨front, back, rfl, _, _⟩, tight⟩ := trims_iff.mpr left
  refine ⟨written, fun comma => ?_, tight⟩
  exact (pieces_cuts text).apart _ cut (by simp [comma])

/-- **Items with a comma between each two are read as they are.** -/
theorem listItems_intercalate (proper : ∀ item ∈ items, IsItem item) :
    listItems (",".intercalate items) = items := by
  by_cases nothing : items = []
  · subst nothing
    rfl
  have cuts : Cuts (",".intercalate items) items :=
    ⟨rfl, fun item listed => (proper item listed).apart, nothing⟩
  have trims : List.Forall₂ Trims items items :=
    List.forall₂_same.mpr fun item listed => (proper item listed).trims
  have kept : items.filter (· ≠ "") = items :=
    List.filter_eq_self.mpr fun item listed => decide_eq_true (proper item listed).written
  exact listItems_eq_iff.mpr ⟨items, items, cuts, trims, kept.symm⟩

end Text

namespace Environment

/-- **A list variable is read in its canonical form.** What is read is what its text lists, and
nothing else; each entry can be an item; and what is read, written down with commas, is read again
as it was. -/
theorem list_reads_canonically (env : Environment) (key : String) {text : String}
    (set : env key = some text) :
    (∀ items, env.list key = items ↔ Text.Lists text items) ∧
      (∀ item ∈ env.list key, Text.IsItem item) ∧
      list (Function.update env key (some (",".intercalate (env.list key)))) key =
        env.list key := by
  have read : env.list key = Text.listItems text := by rw [list, set]
  have proper : ∀ item ∈ env.list key, Text.IsItem item := by
    rw [read]
    exact fun item => Text.isItem_of_mem_listItems
  refine ⟨fun items => ?_, proper, ?_⟩
  · rw [read]
    exact Text.listItems_eq_iff
  · rw [list, Function.update_self]
    exact Text.listItems_intercalate proper

/-- Three queues, with white space around their names and within one of them, an empty segment and
a comma at the end. -/
def threeQueues : Environment := fun _ => some "orders,\u3000in voices\t,, audit,"

theorem list_reads_canonically_threeQueues :
    threeQueues "LISTENER_QUEUES" = some "orders,\u3000in voices\t,, audit," ∧
      threeQueues.list "LISTENER_QUEUES" = ["orders", "in voices", "audit"] ∧
      Text.Lists "orders,\u3000in voices\t,, audit," ["orders", "in voices", "audit"] ∧
      (∀ item ∈ ["orders", "in voices", "audit"], Text.IsItem item) ∧
      list (Function.update threeQueues "LISTENER_QUEUES" (some "orders,in voices,audit"))
        "LISTENER_QUEUES" = ["orders", "in voices", "audit"] := by
  obtain ⟨listed, proper, again⟩ := list_reads_canonically threeQueues "LISTENER_QUEUES" rfl
  have read : threeQueues.list "LISTENER_QUEUES" = ["orders", "in voices", "audit"] := by decide
  rw [read] at proper again
  exact ⟨rfl, read, (listed _).mp read, proper, again⟩

end Environment

end QueueListener
