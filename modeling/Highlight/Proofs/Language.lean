import Highlight.Language
import Mathlib

/-!
# `Highlight.Proofs.Language`: which rules make a language

`Language.ofRules` goes through the rules once, from the first to the last, with the group names
that it has met so far. What it decides can be said without that list:

* `ValidRules`: every rule has a style, every group name is well formed, and no two of them are
  the same.
* `FaultAt`: what is wrong with the rule at an index, given the rules before it. A rule has one
  fault at most (`FaultAt.unique`): an empty style comes before a malformed group name, and this
  before a name that a rule before it has too.

`ofRules_eq_iff` is the main statement. Valid rules are accepted, and the language has them as they
are. Of all others, the first rule with a fault is blamed.

The list of names holds the groups of the rules that have been passed, and nothing else. So
`checkRules_cons` says what one rule does to the check in terms of `FaultAt`, and `checkRules_cases`
carries it along the list.
-/

set_option autoImplicit false

namespace Highlight

/-! ### Group names -/

namespace GroupName

/-- A letter from `A` to `Z` or from `a` to `z`. -/
def IsLetter (c : Char) : Prop := ('A' ≤ c ∧ c ≤ 'Z') ∨ ('a' ≤ c ∧ c ≤ 'z')

/-- A digit from `0` to `9`. -/
def IsDigit (c : Char) : Prop := '0' ≤ c ∧ c ≤ '9'

/-- The form `[A-Za-z_][A-Za-z0-9_]*`: a letter or an underscore, and then letters, digits and
underscores. -/
def WellFormed (s : String) : Prop :=
  ∃ c cs, s.toList = c :: cs ∧ (IsLetter c ∨ c = '_') ∧
    ∀ d ∈ cs, IsLetter d ∨ IsDigit d ∨ d = '_'

/-- The test for the first character of a group name is that of the form. -/
theorem isStart_iff (c : Char) : isStart c = true ↔ IsLetter c ∨ c = '_' := by
  simp [isStart, IsLetter, Char.isAlpha, Char.isUpper, Char.isLower, Char.le_def]

/-- The test for the other characters is that of the form as well. -/
theorem isPart_iff (c : Char) : isPart c = true ↔ IsLetter c ∨ IsDigit c ∨ c = '_' := by
  simp [isPart, IsLetter, IsDigit, Char.isAlphanum, Char.isAlpha, Char.isUpper, Char.isLower,
    Char.isDigit, Char.le_def, or_assoc]

/-- A text passes the test for group names if and only if it has their form. The empty text has
not. -/
theorem isValid_iff (s : String) : isValid s = true ↔ WellFormed s := by
  unfold isValid WellFormed
  cases hs : s.toList with
  | nil => simp [isValidChars]
  | cons c cs => simp [isValidChars, isStart_iff, isPart_iff]

end GroupName

namespace Language

/-! ### Valid rules and faults -/

/-- What a language asks of its rules: each has a style, each has a well-formed group name, and no
two have the same group name. Nothing is asked of the patterns before they are compiled. -/
structure ValidRules (rules : List Rule) : Prop where
  styles : ∀ r ∈ rules, r.style ≠ ""
  groups : ∀ r ∈ rules, GroupName.WellFormed r.group
  distinct : (rules.map (·.group)).Nodup

/-- What is wrong with the rule at an index. A rule may have several faults, and the constructors
are put so that only the first of them counts. -/
inductive FaultAt (name : String) (rules : List Rule) (i : Nat) : Error → Prop where
  /-- It has no style. -/
  | emptyStyle {r : Rule} (hr : rules[i]? = some r) (hstyle : r.style = "") :
      FaultAt name rules i (.emptyStyle name i)
  /-- Its group name is malformed. -/
  | invalidGroup {r : Rule} (hr : rules[i]? = some r) (hstyle : r.style ≠ "")
      (hgroup : ¬ GroupName.WellFormed r.group) :
      FaultAt name rules i (.invalidGroup name r.group)
  /-- Its group name is that of a rule before it. -/
  | duplicateGroup {r r' : Rule} {j : Nat} (hr : rules[i]? = some r) (hstyle : r.style ≠ "")
      (hgroup : GroupName.WellFormed r.group) (hj : j < i) (hr' : rules[j]? = some r')
      (hsame : r'.group = r.group) :
      FaultAt name rules i (.duplicateGroup name r.group)

variable {name : String} {rules : List Rule}

/-- A rule has one fault at most, since each kind excludes those that come before it. -/
theorem FaultAt.unique {i : Nat} {e e' : Error} (h : FaultAt name rules i e)
    (h' : FaultAt name rules i e') : e = e' := by
  cases h <;> cases h' <;> simp_all

/-- No rule of a valid list has a fault, and a list without faults is valid. A group name that
occurs twice is a fault of its second place only. -/
theorem validRules_iff (name : String) (rules : List Rule) :
    ValidRules rules ↔ ∀ i e, ¬ FaultAt name rules i e := by
  constructor
  · intro h i e hfault
    cases hfault with
    | emptyStyle hr hstyle => exact h.styles _ (List.mem_of_getElem? hr) hstyle
    | invalidGroup hr _ hgroup => exact hgroup (h.groups _ (List.mem_of_getElem? hr))
    | @duplicateGroup r r' j hr _ _ hj hr' hsame =>
        have hlt : i < (rules.map (·.group)).length := by
          rw [List.length_map]
          exact (List.getElem?_eq_some_iff.mp hr).1
        have hne := List.nodup_iff_getElem?_ne_getElem?.mp h.distinct j i hj hlt
        simp [hr, hr', hsame] at hne
  · intro h
    have hstyles : ∀ r ∈ rules, r.style ≠ "" := by
      intro r hr hstyle
      obtain ⟨i, hi⟩ := List.getElem?_of_mem hr
      exact h i _ (.emptyStyle hi hstyle)
    have hgroups : ∀ r ∈ rules, GroupName.WellFormed r.group := by
      intro r hr
      by_contra hgroup
      obtain ⟨i, hi⟩ := List.getElem?_of_mem hr
      exact h i _ (.invalidGroup hi (hstyles r hr) hgroup)
    -- Two equal names would be a fault of the later one.
    refine ⟨hstyles, hgroups, List.nodup_iff_getElem?_ne_getElem?.mpr ?_⟩
    intro j i hj hi hsame
    rw [List.length_map] at hi
    have hr := List.getElem?_eq_getElem hi
    have hr' := List.getElem?_eq_getElem (Nat.lt_trans hj hi)
    have hmem := List.getElem_mem hi
    rw [List.getElem?_map, List.getElem?_map, hr, hr'] at hsame
    exact h i _ (.duplicateGroup hr (hstyles _ hmem) (hgroups _ hmem) hj hr'
      (Option.some.inj hsame))

/-! ### The check -/

/-- The names that have been met are those of the rules before an index. The check keeps them in
reverse, which does not matter for what it asks. -/
theorem mem_groups_iff (before rs : List Rule) (s : String) :
    s ∈ (before.map (·.group)).reverse ↔
      ∃ j r', j < before.length ∧ (before ++ rs)[j]? = some r' ∧ r'.group = s := by
  rw [List.mem_reverse, List.mem_map]
  constructor
  · rintro ⟨r', hmem, hsame⟩
    obtain ⟨j, hj, hr'⟩ := List.getElem_of_mem hmem
    refine ⟨j, r', hj, ?_, hsame⟩
    rw [List.getElem?_append_left hj, List.getElem?_eq_getElem hj, hr']
  · rintro ⟨j, r', hj, hr', hsame⟩
    rw [List.getElem?_append_left hj] at hr'
    exact ⟨r', List.mem_of_getElem? hr', hsame⟩

/-- The check of a rule ends with its fault, or goes on to the next rule with its name among those
that have been met. -/
theorem checkRules_cons (name : String) (before : List Rule) (r : Rule) (rs : List Rule) :
    (∃ e, FaultAt name (before ++ r :: rs) before.length e ∧
      checkRules name before.length (before.map (·.group)).reverse (r :: rs) = .error e) ∨
    ((∀ e, ¬ FaultAt name (before ++ r :: rs) before.length e) ∧
      checkRules name before.length (before.map (·.group)).reverse (r :: rs)
        = checkRules name (before ++ [r]).length ((before ++ [r]).map (·.group)).reverse rs) := by
  have hr : (before ++ r :: rs)[before.length]? = some r := by simp
  have hseen := mem_groups_iff before (r :: rs) r.group
  rw [checkRules]
  split
  · rename_i hstyle
    rw [String.isEmpty_iff] at hstyle
    exact Or.inl ⟨_, .emptyStyle hr hstyle, rfl⟩
  · rename_i hstyle
    rw [String.isEmpty_iff] at hstyle
    split
    · rename_i hgroup
      rw [Bool.not_eq_true', Bool.eq_false_iff, Ne, GroupName.isValid_iff] at hgroup
      exact Or.inl ⟨_, .invalidGroup hr hstyle hgroup, rfl⟩
    · rename_i hgroup
      rw [Bool.not_eq_true, Bool.not_eq_false', GroupName.isValid_iff] at hgroup
      split
      · rename_i hmem
        rw [List.contains_iff_mem, hseen] at hmem
        obtain ⟨j, r', hj, hr', hsame⟩ := hmem
        exact Or.inl ⟨_, .duplicateGroup hr hstyle hgroup hj hr' hsame, rfl⟩
      · rename_i hmem
        rw [List.contains_iff_mem, hseen] at hmem
        -- The three tests have failed, so the rule has none of the three faults.
        refine Or.inr ⟨?_, by simp⟩
        intro e hfault
        cases hfault with
        | emptyStyle hr' hempty =>
            cases hr.symm.trans hr'
            exact hstyle hempty
        | invalidGroup hr' _ hmalformed =>
            cases hr.symm.trans hr'
            exact hmalformed hgroup
        | duplicateGroup hr' _ _ hj hearlier hsame =>
            cases hr.symm.trans hr'
            exact hmem ⟨_, _, hj, hearlier, hsame⟩

/-- The check of a list ends with the first fault in it, if there is one. The induction is on the
rules that are still to come, with those before them as they were. -/
theorem checkRules_cases (name : String) (before rs : List Rule) :
    (checkRules name before.length (before.map (·.group)).reverse rs = .ok () ∧
      ∀ i, before.length ≤ i → ∀ e, ¬ FaultAt name (before ++ rs) i e) ∨
    (∃ i e, checkRules name before.length (before.map (·.group)).reverse rs = .error e ∧
      FaultAt name (before ++ rs) i e ∧
      ∀ j, before.length ≤ j → j < i → ∀ e', ¬ FaultAt name (before ++ rs) j e') := by
  induction rs generalizing before with
  | nil =>
      refine Or.inl ⟨rfl, ?_⟩
      intro i hi e hfault
      have hnone : (before ++ [])[i]? = none := by simpa using hi
      cases hfault <;> simp_all
  | cons r rs ih =>
      have hrules : before ++ [r] ++ rs = before ++ r :: rs := by simp
      rcases checkRules_cons name before r rs with ⟨e, hfault, herror⟩ | ⟨hnone, hstep⟩
      · refine Or.inr ⟨before.length, e, herror, hfault, ?_⟩
        intro j hle hlt
        omega
      · -- The rule has no fault, so nothing changes for the faults from its index on.
        have hpassed : ∀ j, before.length ≤ j → (∀ e, ¬ FaultAt name (before ++ r :: rs) j e) ∨
            (before ++ [r]).length ≤ j := by
          intro j hle
          rcases Nat.eq_or_lt_of_le hle with rfl | hlt
          · exact Or.inl hnone
          · rw [List.length_append, List.length_singleton]
            exact Or.inr hlt
        rw [hstep]
        rcases ih (before ++ [r]) with ⟨hok, hall⟩ | ⟨i, e, herror, hfault, hfirst⟩
        · rw [hrules] at hall
          refine Or.inl ⟨hok, ?_⟩
          intro i hle
          rcases hpassed i hle with hi | hi
          · exact hi
          · exact hall i hi
        · rw [hrules] at hfault hfirst
          refine Or.inr ⟨i, e, herror, hfault, ?_⟩
          intro j hle hlt
          rcases hpassed j hle with hj | hj
          · exact hj
          · exact hfirst j hj hlt

/-! ### Languages -/

/-- A list of rules is accepted, or its first fault is the error. The two exclude each other, so
both can be read as equivalences below. -/
theorem ofRules_cases (name : String) (rules : List Rule) :
    (ofRules name rules = .ok ⟨name, [], [], rules⟩ ∧ ValidRules rules) ∨
    (∃ i e, ofRules name rules = .error e ∧ FaultAt name rules i e ∧
      ∀ j < i, ∀ e', ¬ FaultAt name rules j e') := by
  have hcases := checkRules_cases name [] rules
  rw [List.nil_append, List.map_nil, List.reverse_nil, List.length_nil] at hcases
  unfold ofRules
  rcases hcases with ⟨hok, hnone⟩ | ⟨i, e, herror, hfault, hfirst⟩
  · rw [hok]
    exact Or.inl ⟨rfl, (validRules_iff name rules).mpr fun i => hnone i (Nat.zero_le i)⟩
  · rw [herror]
    exact Or.inr ⟨i, e, rfl, hfault, fun j => hfirst j (Nat.zero_le j)⟩

/-- Valid rules, and no others, make a language. It has no other names and no file types yet. The
rules are taken as they are, in their order. -/
theorem ofRules_eq_ok_iff {name : String} {rules : List Rule} {l : Language} :
    ofRules name rules = .ok l ↔ ValidRules rules ∧ l = ⟨name, [], [], rules⟩ := by
  rcases ofRules_cases name rules with ⟨hok, hvalid⟩ | ⟨i, e, herror, hfault, _⟩
  · rw [hok, Except.ok.injEq]
    exact ⟨fun h => ⟨hvalid, h.symm⟩, fun h => h.2.symm⟩
  · rw [herror]
    constructor
    · intro h
      cases h
    · rintro ⟨hvalid, _⟩
      exact absurd hfault ((validRules_iff name rules).mp hvalid i e)

/-- A list of rules is rejected with the fault of the first rule that has one, and with no other
error. -/
theorem ofRules_eq_error_iff {name : String} {rules : List Rule} {e : Error} :
    ofRules name rules = .error e ↔
      ∃ i, FaultAt name rules i e ∧ ∀ j < i, ∀ e', ¬ FaultAt name rules j e' := by
  rcases ofRules_cases name rules with ⟨hok, hvalid⟩ | ⟨i, e', herror, hfault, hfirst⟩
  · rw [hok]
    constructor
    · intro h
      cases h
    · rintro ⟨i, hfault, _⟩
      exact absurd hfault ((validRules_iff name rules).mp hvalid i e)
  · rw [herror, Except.error.injEq]
    constructor
    · rintro rfl
      exact ⟨i, hfault, hfirst⟩
    · rintro ⟨i', hfault', hfirst'⟩
      -- There is only one first fault.
      have hle : ¬ i < i' := fun hlt => hfirst' i hlt e' hfault
      have hle' : ¬ i' < i := fun hlt => hfirst i' hlt e hfault'
      obtain rfl : i = i' := by omega
      exact hfault.unique hfault'

/-- Rules make a language if and only if they are valid, and the language has them as they are.
Otherwise the error is the fault of the first rule that has one.

The rules are checked one by one, with the groups of the rules before them. A rule can have several
faults, and then the missing style comes before the malformed group, and that before the repeated
one. -/
theorem ofRules_eq_iff (name : String) (rules : List Rule) :
    (∀ l, ofRules name rules = .ok l ↔ ValidRules rules ∧ l = ⟨name, [], [], rules⟩) ∧
    ∀ e, ofRules name rules = .error e ↔
      ∃ i, FaultAt name rules i e ∧ ∀ j < i, ∀ e', ¬ FaultAt name rules j e' :=
  ⟨fun _ => ofRules_eq_ok_iff, fun _ => ofRules_eq_error_iff⟩

/-- Of several faults, the one of the first rule counts, even if a later one is of a kind that is
looked for earlier. -/
example : ofRules "l" [⟨"a", "a", "g"⟩, ⟨"b", "b", "1"⟩, ⟨"", "c", "g"⟩]
    = .error (.invalidGroup "l" "1") := by decide

end Language

end Highlight
