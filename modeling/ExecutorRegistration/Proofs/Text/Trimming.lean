import ExecutorRegistration.Text.Basic
import Mathlib.Data.List.DropRight
import Mathlib.Data.String.Basic

/-!
# Texts without characters at their ends

Every text is in one way a text that does not end in a given character, followed by that
character any number of times. A text is left as it is when white space is taken from its ends if,
and unless it is empty only if, it starts and ends with another character.
-/

namespace ExecutorRegistration.Text

/-- A text without all characters `c` at its end. -/
def IsStripped (c : Char) (text stripped : String) : Prop :=
  (∃ count, text.toList = stripped.toList ++ List.replicate count c) ∧
    stripped.toList.getLast? ≠ some c

theorem toList_trimEnd (c : Char) (text : String) :
    (trimEnd c text).toList = text.toList.rdropWhile (· = c) := by
  rw [trimEnd, String.toList_ofList]
  rfl

/-- Stripping a text takes away all characters at its end, and nothing else. -/
theorem isStripped_trimEnd (c : Char) (text : String) : IsStripped c text (trimEnd c text) := by
  rw [IsStripped, toList_trimEnd]
  constructor
  · have all_eq : ∀ other ∈ text.toList.rtakeWhile (· = c), other = c := by
      intro other member
      have test := List.mem_rtakeWhile_imp member
      exact of_decide_eq_true test
    refine ⟨(text.toList.rtakeWhile (· = c)).length, ?_⟩
    rw [← List.eq_replicate_length.mpr all_eq, List.rdropWhile_append_rtakeWhile]
  · intro last_eq
    obtain ⟨nonempty, c_eq⟩ := List.mem_getLast?_eq_getLast last_eq
    have last_ne := List.rdropWhile_last_not _ _ nonempty
    rw [← c_eq] at last_ne
    exact last_ne (decide_eq_true rfl)

theorem rdropWhile_append_replicate {c : Char} {stripped : List Char}
    (last_ne : stripped.getLast? ≠ some c) (count : Nat) :
    (stripped ++ List.replicate count c).rdropWhile (· = c) = stripped := by
  induction count with
  | zero =>
      rw [List.replicate_zero, List.append_nil, List.rdropWhile_eq_self_iff]
      intro nonempty test
      rw [List.getLast?_eq_some_getLast nonempty, of_decide_eq_true test] at last_ne
      exact last_ne rfl
  | succ count ih =>
      rw [List.replicate_succ', ← List.append_assoc, List.rdropWhile_concat,
        if_pos (decide_eq_true rfl), ih]

/-- A text is stripped in only one way. -/
theorem isStripped_iff (c : Char) (text stripped : String) :
    IsStripped c text stripped ↔ stripped = trimEnd c text := by
  constructor
  · rintro ⟨⟨count, split⟩, last_ne⟩
    rw [← String.toList_inj, toList_trimEnd, split, rdropWhile_append_replicate last_ne]
  · rintro rfl
    exact isStripped_trimEnd c text

/-! ## White space at both ends -/

/-- A text is not empty, and neither starts nor ends with white space. -/
def IsTrimmed (text : String) : Prop :=
  ∃ nonempty : text.toList ≠ [], isBlank (text.toList.head nonempty) = false ∧
    isBlank (text.toList.getLast nonempty) = false

theorem toList_trim (text : String) :
    (trim text).toList = (text.toList.dropWhile isBlank).rdropWhile isBlank := by
  rw [trim, String.toList_ofList]
  rfl

theorem IsTrimmed.ne_empty {text : String} (trimmed : IsTrimmed text) : text ≠ "" := by
  rintro rfl
  exact trimmed.1 rfl

theorem IsTrimmed.trim_eq {text : String} (trimmed : IsTrimmed text) : trim text = text := by
  obtain ⟨nonempty, first, last⟩ := trimmed
  have front : text.toList.dropWhile isBlank = text.toList := by
    refine List.dropWhile_eq_self_iff.mpr fun _ => ?_
    rw [← List.head_eq_getElem nonempty, first]
    exact Bool.false_ne_true
  have back : text.toList.rdropWhile isBlank = text.toList := by
    refine List.rdropWhile_eq_self_iff.mpr fun _ => ?_
    rw [last]
    exact Bool.false_ne_true
  rw [← String.toList_inj, toList_trim, front, back]

/-- Whatever is left of a text without white space at its ends has none there. -/
theorem isTrimmed_trim {text : String} (left : trim text ≠ "") : IsTrimmed (trim text) := by
  have nonempty : (trim text).toList ≠ [] := String.toList_eq_nil_iff.not.mpr left
  refine ⟨nonempty, ?_⟩
  have split := toList_trim text
  generalize (trim text).toList = trimmed at nonempty split
  subst split
  refine ⟨?_, Bool.eq_false_of_not_eq_true (List.rdropWhile_last_not _ _ nonempty)⟩
  have front : text.toList.dropWhile isBlank ≠ [] := fun empty => nonempty (by rw [empty]; rfl)
  rw [(List.rdropWhile_prefix isBlank _).head nonempty]
  exact List.head_dropWhile_not isBlank front

/-! ## Blanks around a text -/

/-- What a variable is set to, if it is set, is a text between blanks; a variable that is not set
has no text. -/
def Pads (core : String) : Option String → Prop
  | none => core = ""
  | some given => ∃ before after, given.toList = before ++ core.toList ++ after ∧
      ∀ c ∈ before ++ after, isBlank c = true

/-- Nothing but blanks at the ends tells one from the other, or both are blank or not set. -/
def SameButBlanks (left right : Option String) : Prop :=
  ∃ core, Pads core left ∧ Pads core right

/-- A text stands between blanks in every text of which it is what is left. -/
theorem pads_trim (text : String) : Pads (trim text) (some text) := by
  refine ⟨text.toList.takeWhile isBlank, (text.toList.dropWhile isBlank).rtakeWhile isBlank, ?_,
    fun c member => ?_⟩
  · rw [toList_trim, List.append_assoc, List.rdropWhile_append_rtakeWhile,
      List.takeWhile_append_dropWhile]
  · rcases List.mem_append.mp member with isBefore | isAfter
    · exact List.mem_takeWhile_imp isBefore
    · exact List.mem_rtakeWhile_imp isAfter

theorem trim_eq_of_pads {core given : String} (pads : Pads core (some given)) :
    trim given = trim core := by
  obtain ⟨before, after, split, blank⟩ := pads
  obtain ⟨blankBefore, blankAfter⟩ := List.forall_mem_append.mp blank
  have blankReverse : ∀ c ∈ after.reverse, isBlank c = true :=
    fun c member => blankAfter c (List.mem_reverse.mp member)
  rw [← String.toList_inj, toList_trim, toList_trim, split, List.append_assoc,
    List.dropWhile_append_of_pos blankBefore, List.dropWhile_append]
  split_ifs with empty
  · rw [List.isEmpty_iff.mp empty, List.dropWhile_eq_nil_iff.mpr blankAfter]
  · rw [List.rdropWhile, List.rdropWhile, List.reverse_append,
      List.dropWhile_append_of_pos blankReverse]

end ExecutorRegistration.Text
