import Highlight.Proofs.Language

/-!
# `Highlight.Proofs.GroupName`: group names made of texts

`GroupName.ofText` makes a group name of a text in two steps. What cannot stand in a group name
becomes an underscore, and one more is put in front of what could not begin a group name.
`GroupName.isValid` does not look for these steps. It has one test for the first character and
another for the rest, and the two meet in that no letter is a digit.

* `isValid_ofText`: what is made of a text is a group name.
* `ofText_eq_self_iff`: the texts that are left as they are are the group names. So what has been
  made of a text stays as it is (`ofText_ofText`).

`ofText_isCanonical` is the main statement. It goes on to rules that are named after their styles
(`Rule.named`). No group name of theirs is malformed, so nothing is wrong with them but that a style
is missing, or that the same group name is made of two styles.
-/

set_option autoImplicit false

namespace Highlight

namespace GroupName

variable {c : Char} {cs : List Char}

/-! ### Characters -/

/-- The test for digits is that for a character between two others. -/
theorem isDigit_iff (c : Char) : c.isDigit = true ↔ IsDigit c := by
  simp [IsDigit, Char.isDigit, Char.le_def]

/-- A digit can stand in a group name. -/
theorem isPart_of_isDigit (hc : c.isDigit = true) : isPart c = true := by
  simp [isPart, Char.isAlphanum, hc]

/-- What can begin a group name can stand in it. -/
theorem isPart_of_isStart (hc : isStart c = true) : isPart c = true := by
  rw [isPart_iff]
  exact ((isStart_iff c).mp hc).imp_right Or.inr

/-- A group name does not begin with a digit. This is what the underscore in front is for, and why a
name that is one already gets no underscore. -/
theorem isDigit_eq_false (hc : isStart c = true) : c.isDigit = false := by
  rw [Bool.eq_false_iff, Ne, isDigit_iff]
  rintro ⟨_, hle⟩
  -- The letters and the underscore come after the digits.
  rcases (isStart_iff c).mp hc with (⟨hge, _⟩ | ⟨hge, _⟩) | rfl
  · exact absurd (le_trans hge hle) (by decide)
  · exact absurd (le_trans hge hle) (by decide)
  · exact absurd hle (by decide)

/-- Everything else that can stand in a group name can begin one. So a test for digits is enough to
know where an underscore is needed. -/
theorem isStart_of_isPart (hc : isPart c = true) (hdigit : c.isDigit = false) :
    isStart c = true := by
  rw [isStart_iff]
  rcases (isPart_iff c).mp hc with hletter | hdigit' | hunderscore
  · exact Or.inl hletter
  · rw [(isDigit_iff c).mpr hdigit'] at hdigit
    cases hdigit
  · exact Or.inr hunderscore

/-! ### Lists of characters -/

/-- All characters of a group name can stand in one, the first included. What may begin a name is a
part of one as well. -/
theorem isPart_of_mem (hcs : isValidChars cs = true) (hc : c ∈ cs) : isPart c = true := by
  cases cs with
  | nil => cases hc
  | cons d ds =>
      rw [isValidChars, Bool.and_eq_true, List.all_eq_true] at hcs
      rcases List.mem_cons.mp hc with rfl | hc
      · exact isPart_of_isStart hcs.1
      · exact hcs.2 c hc

/-- With an underscore in front where it is needed, characters that can stand in a group name make
up one. From no characters the underscore alone is made. -/
theorem isValidChars_withStart (hcs : ∀ c ∈ cs, isPart c = true) :
    isValidChars (withStart cs) = true := by
  cases cs with
  | nil => decide
  | cons c cs =>
      rw [withStart]
      split
      · rw [isValidChars, Bool.and_eq_true, List.all_eq_true]
        exact ⟨by decide, hcs⟩
      · rename_i hdigit
        have hstart := isStart_of_isPart (hcs c List.mem_cons_self) (Bool.eq_false_iff.mpr hdigit)
        rw [isValidChars, hstart, Bool.true_and, List.all_eq_true]
        exact fun d hd => hcs d (List.mem_cons_of_mem c hd)

/-- What is made of any characters is a group name, since those that cannot stand in one have become
underscores. -/
theorem isValidChars_ofChars (cs : List Char) : isValidChars (ofChars cs) = true := by
  refine isValidChars_withStart fun c hc => ?_
  obtain ⟨d, _, rfl⟩ := List.mem_map.mp hc
  split
  · assumption
  · decide

/-- A group name begins as it must, so no underscore is put in front of it. -/
theorem withStart_eq_self (hcs : isValidChars cs = true) : withStart cs = cs := by
  cases cs with
  | nil => cases hcs
  | cons c cs =>
      rw [isValidChars, Bool.and_eq_true] at hcs
      rw [withStart, isDigit_eq_false hcs.1]
      rfl

/-- A group name has nothing to be replaced. -/
theorem ofChars_eq_self (hcs : isValidChars cs = true) : ofChars cs = cs := by
  have hkept : cs.map (fun c => if isPart c then c else '_') = cs.map id :=
    List.map_congr_left fun c hc => if_pos (isPart_of_mem hcs hc)
  rw [ofChars, hkept, List.map_id, withStart_eq_self hcs]

/-! ### Texts -/

/-- What is made of a text is a group name, whatever the text is. The empty text makes one as
well. -/
theorem isValid_ofText (s : String) : isValid (ofText s) = true := by
  rw [isValid, ofText, String.toList_ofList]
  exact isValidChars_ofChars s.toList

/-- Group names, and no other texts, are left as they are. So what is made of texts are exactly the
group names. -/
theorem ofText_eq_self_iff (s : String) : ofText s = s ↔ isValid s = true := by
  constructor
  · intro h
    rw [← h]
    exact isValid_ofText s
  · intro h
    rw [ofText, ofChars_eq_self h, String.ofList_toList]

/-- Making a group name twice is making it once. -/
theorem ofText_ofText (s : String) : ofText (ofText s) = ofText s :=
  (ofText_eq_self_iff (ofText s)).mpr (isValid_ofText s)

end GroupName

/-! ### Rules that are named after their styles -/

/-- Rules for styles with their patterns, each in a group that is named after its style. -/
def Rule.allNamed (styles : List (String × String)) : List Rule :=
  styles.map fun s => Rule.named s.1 s.2

namespace Language

variable {name : String} {styles : List (String × String)}

/-- The groups of such rules are those made of their styles. -/
theorem map_group_allNamed (styles : List (String × String)) :
    (Rule.allNamed styles).map (·.group) = styles.map fun s => GroupName.ofText s.1 :=
  List.map_map

/-- A rule that is named after its style has a group name. Nothing needs to be known of the
style. -/
theorem wellFormed_of_mem_allNamed {r : Rule} (hr : r ∈ Rule.allNamed styles) :
    GroupName.WellFormed r.group := by
  obtain ⟨s, _, rfl⟩ := List.mem_map.mp hr
  exact (GroupName.isValid_iff _).mp (GroupName.isValid_ofText s.1)

/-- Such rules are valid if all have styles, and different group names are made of them. Different
styles alone would not be enough. -/
theorem validRules_allNamed_iff : ValidRules (Rule.allNamed styles) ↔
    (∀ s ∈ styles, s.1 ≠ "") ∧ (styles.map fun s => GroupName.ofText s.1).Nodup := by
  rw [← map_group_allNamed]
  constructor
  · intro h
    exact ⟨fun s hs => h.styles _ (List.mem_map_of_mem hs), h.distinct⟩
  · rintro ⟨hstyles, hdistinct⟩
    refine ⟨fun r hr => ?_, fun r hr => wellFormed_of_mem_allNamed hr, hdistinct⟩
    obtain ⟨s, hs, rfl⟩ := List.mem_map.mp hr
    exact hstyles s hs

/-- No such list of rules is rejected for a malformed group name, whatever is wrong with it
otherwise. -/
theorem ofRules_allNamed_ne_invalidGroup (language group : String) :
    ofRules name (Rule.allNamed styles) ≠ .error (.invalidGroup language group) := by
  intro h
  obtain ⟨i, hfault, _⟩ := ofRules_eq_error_iff.mp h
  cases hfault with
  | invalidGroup hr _ hgroup =>
      exact hgroup (wellFormed_of_mem_allNamed (List.mem_of_getElem? hr))

end Language

/-- What is made of a text is a group name, and nothing else is made of that. A text is left as it
is if and only if it is a group name. Rules that are named after their styles are never rejected for
a malformed group name. They make a language if and only if no style is missing, and different group
names are made of any two. -/
theorem ofText_isCanonical :
    (∀ s, GroupName.isValid (GroupName.ofText s) = true) ∧
    (∀ s, GroupName.ofText (GroupName.ofText s) = GroupName.ofText s) ∧
    (∀ s, GroupName.ofText s = s ↔ GroupName.isValid s = true) ∧
    ∀ (name : String) (styles : List (String × String)),
      (∀ language group, Language.ofRules name (Rule.allNamed styles)
        ≠ .error (.invalidGroup language group)) ∧
      ((∃ l, Language.ofRules name (Rule.allNamed styles) = .ok l) ↔
        (∀ s ∈ styles, s.1 ≠ "") ∧ (styles.map fun s => GroupName.ofText s.1).Nodup) := by
  refine ⟨GroupName.isValid_ofText, GroupName.ofText_ofText, GroupName.ofText_eq_self_iff,
    fun name styles => ⟨Language.ofRules_allNamed_ne_invalidGroup, ?_⟩⟩
  simp only [Language.ofRules_eq_ok_iff, exists_and_left, exists_eq, and_true,
    Language.validRules_allNamed_iff]

/-- Of different styles the same group name may be made. -/
example : Language.ofRules "l" (Rule.allNamed [("2.é", "a"), ("2 \n", "b")])
    = .error (.duplicateGroup "l" "_2__") := by decide

end Highlight
