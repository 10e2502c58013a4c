import Highlight.Definition
import Highlight.Proofs.Except
import Highlight.Proofs.GroupName

/-!
# `Highlight.Proofs.Definition`: which definitions make a language

A rule of a definition may leave its group open. `RuleDefinition.derivedGroup` then makes one of
the index of the rule and its style, so that no definition fails for groups that it does not give.

* `wellFormed_derivedGroup`: a derived group is well formed, whatever the style is.
* `derivedGroup_inj`: two derived groups are the same only if they were derived at the same index.
  The index is written in decimal digits, and the underscore after it is none. So the digits end
  where the index does, even if the style begins with digits.

`exists_toLanguage_iff` is the main statement. A definition makes a language if and only if its
rules have styles, the groups that it gives are well formed and distinct, and none of them is the
derived group of another rule (`Definition.Valid`). The language is then as the definition
describes it (`Definition.Describes`).

What a language asks of its rules has been said in `Language.ValidRules`. It remains to compare the
groups of two rules: both given, both derived, or one of each.
-/

set_option autoImplicit false

namespace Highlight

/-! ### Derived groups -/

namespace RuleDefinition

/-- A derived group is the letter `r`, the digits of the index, an underscore, and what is made of
the style. -/
theorem toList_derivedGroup (index : Nat) (style : String) :
    (derivedGroup index style).toList
      = 'r' :: (Nat.toDigits 10 index ++ '_' :: GroupName.ofChars style.toList) := by
  simp [derivedGroup, GroupName.ofText]

/-- A derived group is well formed, whatever the style is. The letter in front lets digits follow,
and of the style a group name has been made. -/
theorem wellFormed_derivedGroup (index : Nat) (style : String) :
    GroupName.WellFormed (derivedGroup index style) := by
  rw [← GroupName.isValid_iff, GroupName.isValid, toList_derivedGroup, GroupName.isValidChars,
    Bool.and_eq_true, List.all_eq_true]
  refine ⟨by decide, fun c hc => ?_⟩
  rcases List.mem_append.mp hc with hc | hc
  · exact GroupName.isPart_of_isDigit
      (Nat.isDigit_of_mem_toDigits (by decide) (by decide) hc)
  · rcases List.mem_cons.mp hc with rfl | hc
    · decide
    · exact GroupName.isPart_of_mem (GroupName.isValidChars_ofChars style.toList) hc

/-- The digits of a number come to an end at an underscore, whatever comes after it. -/
theorem takeWhile_toDigits (n : Nat) (rest : List Char) :
    (Nat.toDigits 10 n ++ '_' :: rest).takeWhile Char.isDigit = Nat.toDigits 10 n := by
  have hdigits : ∀ c ∈ Nat.toDigits 10 n, c.isDigit = true :=
    fun c hc => Nat.isDigit_of_mem_toDigits (by decide) (by decide) hc
  rw [List.takeWhile_append_of_pos hdigits, List.takeWhile_cons_of_neg (by decide),
    List.append_nil]

/-- The index can be read off a derived group, and so can what is made of the style. Of different
styles the same may be made, but then the indices keep the groups apart. -/
theorem derivedGroup_inj {i j : Nat} {s t : String} :
    derivedGroup i s = derivedGroup j t ↔ i = j ∧ GroupName.ofText s = GroupName.ofText t := by
  constructor
  · intro h
    have hlists := congrArg String.toList h
    rw [toList_derivedGroup, toList_derivedGroup] at hlists
    have hrest := (List.cons.inj hlists).2
    -- Both texts begin with the digits of the index now, and then there is an underscore.
    have hdigits : Nat.toDigits 10 i = Nat.toDigits 10 j := by
      have htake := congrArg (List.takeWhile Char.isDigit) hrest
      rwa [takeWhile_toDigits, takeWhile_toDigits] at htake
    have hindex : i = j := by
      have hnumber := congrArg (fun ds => Nat.ofDigitChars 10 ds 0) hdigits
      simpa using hnumber
    subst hindex
    have hstyle := (List.cons.inj (List.append_cancel_left hrest)).2
    exact ⟨rfl, congrArg String.ofList hstyle⟩
  · rintro ⟨rfl, hstyle⟩
    rw [derivedGroup, derivedGroup, hstyle]

/-- A rule has the group that is given for it. -/
theorem toRule_group_of_some {r : RuleDefinition} {g : String} (h : r.group = some g)
    (index : Nat) : (r.toRule index).group = g := by
  rw [toRule, h]
  rfl

/-- A rule for which no group is given has the derived one. -/
theorem toRule_group_of_none {r : RuleDefinition} (h : r.group = none) (index : Nat) :
    (r.toRule index).group = derivedGroup index r.style := by
  rw [toRule, h]
  rfl

end RuleDefinition

/-! ### Valid definitions -/

/-- A function after one that takes indices is one that takes indices. -/
theorem map_mapIdx {α β γ : Type} (g : β → γ) (f : Nat → α → β) (xs : List α) :
    (xs.mapIdx f).map g = xs.mapIdx fun i x => g (f i x) := by
  refine List.ext_getElem? fun i => ?_
  rw [List.getElem?_map, List.getElem?_mapIdx, List.getElem?_mapIdx, Option.map_map]
  rfl

/-- In a list made with indices, no element occurs twice if those of any two places differ. It is
enough to compare a place with the later ones. -/
theorem nodup_mapIdx_iff {α β : Type} {f : Nat → α → β} {xs : List α} :
    (xs.mapIdx f).Nodup ↔
      ∀ (i j : Nat) (x y : α), i < j → xs[i]? = some x → xs[j]? = some y → f i x ≠ f j y := by
  rw [List.nodup_iff_getElem?_ne_getElem?]
  constructor
  · intro h i j x y hij hx hy heq
    have hj : j < (xs.mapIdx f).length := by
      rw [List.length_mapIdx]
      exact (List.getElem?_eq_some_iff.mp hy).1
    -- Equal results would be one result at two places.
    refine h i j hij hj ?_
    rw [List.getElem?_mapIdx, List.getElem?_mapIdx, hx, hy, Option.map_some, Option.map_some, heq]
  · intro h i j hij hj heq
    rw [List.length_mapIdx] at hj
    have hx := List.getElem?_eq_getElem (Nat.lt_trans hij hj)
    have hy := List.getElem?_eq_getElem hj
    rw [List.getElem?_mapIdx, List.getElem?_mapIdx, hx, hy] at heq
    exact h i j _ _ hij hx hy (Option.some.inj heq)

namespace Definition

open RuleDefinition

variable {d : Definition} {rules : List RuleDefinition}

/-- What is asked of a definition. Of the groups it is asked in terms of those that are given, so
that a reader of a definition can see whether it is valid. -/
structure Valid (d : Definition) : Prop where
  /-- All rules have styles. -/
  styles : ∀ r ∈ d.rules, r.style ≠ ""
  /-- The groups that are given are well formed. -/
  groups : ∀ r ∈ d.rules, ∀ g, r.group = some g → GroupName.WellFormed g
  /-- No two of them are the same. -/
  distinct : (d.rules.filterMap RuleDefinition.group).Nodup
  /-- None of them is the group that another rule gets. -/
  apart : ∀ (i j : Nat) (r r' : RuleDefinition), d.rules[i]? = some r → d.rules[j]? = some r' →
    r'.group = none → r.group ≠ some (derivedGroup j r'.style)

/-- A language is the one that a definition describes. Everything that a language consists of is
named here. -/
structure Describes (d : Definition) (l : Language) : Prop where
  name : l.name = d.name
  aliases : l.aliases = d.aliases
  fileTypes : l.fileTypes = d.fileTypes
  /-- The rules are the same, in the same order. -/
  rules : l.rules.map (fun r => (r.style, r.pattern)) = d.rules.map fun r => (r.style, r.pattern)
  /-- A rule has the group that is given, or else the derived one. -/
  groups : ∀ (i : Nat) (r : RuleDefinition), d.rules[i]? = some r →
    (l.rules[i]?).map (·.group) = some (r.group.getD (derivedGroup i r.style))

/-- The groups that are given are distinct if those of any two rules that have one are. The rules in
between that have none do not count. -/
theorem nodup_filterMap_iff :
    (rules.filterMap RuleDefinition.group).Nodup ↔
      ∀ (i j : Nat) (r r' : RuleDefinition), i < j → rules[i]? = some r → rules[j]? = some r' →
        ∀ g, r.group = some g → r'.group ≠ some g := by
  rw [List.Nodup, List.pairwise_filterMap, List.pairwise_iff_getElem]
  constructor
  · intro h i j r r' hij hr hr' g hg hg'
    obtain ⟨hi, rfl⟩ := List.getElem?_eq_some_iff.mp hr
    obtain ⟨hj, rfl⟩ := List.getElem?_eq_some_iff.mp hr'
    exact h i j hi hj hij g hg g hg' rfl
  · rintro h i j hi hj hij g hg _ hg' rfl
    exact h i j _ _ hij (List.getElem?_eq_getElem hi) (List.getElem?_eq_getElem hj) g hg hg'

/-- The rules of the language have different groups if the given groups are distinct, and none of
them is derived elsewhere. Derived groups never meet. -/
theorem nodup_groups_iff :
    ((rules.mapIdx toRule).map (·.group)).Nodup ↔
      (rules.filterMap RuleDefinition.group).Nodup ∧
      ∀ (i j : Nat) (r r' : RuleDefinition), rules[i]? = some r → rules[j]? = some r' →
        r'.group = none → r.group ≠ some (derivedGroup j r'.style) := by
  rw [map_mapIdx, nodup_mapIdx_iff, nodup_filterMap_iff]
  constructor
  · intro h
    refine ⟨fun i j r r' hij hr hr' g hg hg' => ?_, fun i j r r' hr hr' hnone hg => ?_⟩
    · refine h i j r r' hij hr hr' ?_
      rw [toRule_group_of_some hg, toRule_group_of_some hg']
    · have hgroup := toRule_group_of_some hg i
      have hgroup' := toRule_group_of_none hnone j
      rcases Nat.lt_trichotomy i j with hij | rfl | hij
      · exact h i j r r' hij hr hr' (hgroup.trans hgroup'.symm)
      · -- One rule does not both give a group and leave it open.
        cases hr.symm.trans hr'
        rw [hnone] at hg
        cases hg
      · exact h j i r' r hij hr' hr (hgroup'.trans hgroup.symm)
  · -- Of each of the two rules the group is given or derived, which makes four cases.
    rintro ⟨hdistinct, hapart⟩ i j r r' hij hr hr' heq
    cases hg : r.group with
    | some g =>
        rw [toRule_group_of_some hg] at heq
        cases hg' : r'.group with
        | some g' =>
            rw [toRule_group_of_some hg'] at heq
            exact hdistinct i j r r' hij hr hr' g hg (heq ▸ hg')
        | none =>
            rw [toRule_group_of_none hg'] at heq
            exact hapart i j r r' hr hr' hg' (heq ▸ hg)
    | none =>
        rw [toRule_group_of_none hg] at heq
        cases hg' : r'.group with
        | some g' =>
            rw [toRule_group_of_some hg'] at heq
            exact hapart j i r' r hr' hr hg (heq ▸ hg')
        | none =>
            rw [toRule_group_of_none hg', derivedGroup_inj] at heq
            exact Nat.ne_of_lt hij heq.1

/-- The rules of a definition are valid if the definition is, and only then. A group that the
definition does not give is derived, and derived groups are well formed; so what is left to ask is
whether all of them are distinct. -/
theorem validRules_iff_valid : Language.ValidRules (d.rules.mapIdx toRule) ↔ d.Valid := by
  have hrule : ∀ (i : Nat) (r : RuleDefinition), d.rules[i]? = some r →
      r.toRule i ∈ d.rules.mapIdx toRule := by
    intro i r hr
    refine List.mem_of_getElem? (i := i) ?_
    rw [List.getElem?_mapIdx, hr]
    rfl
  constructor
  · intro h
    obtain ⟨hdistinct, hapart⟩ := nodup_groups_iff.mp h.distinct
    refine ⟨fun r hr => ?_, fun r hr g hg => ?_, hdistinct, hapart⟩
    · obtain ⟨i, hi⟩ := List.getElem?_of_mem hr
      exact h.styles _ (hrule i r hi)
    · obtain ⟨i, hi⟩ := List.getElem?_of_mem hr
      rw [← toRule_group_of_some hg i]
      exact h.groups _ (hrule i r hi)
  · intro h
    -- Each rule of the language comes from a rule of the definition.
    have hmem : ∀ r ∈ d.rules.mapIdx toRule, ∃ i, ∃ r' ∈ d.rules, r'.toRule i = r := by
      intro r hr
      obtain ⟨i, hi, heq⟩ := List.mem_mapIdx.mp hr
      exact ⟨i, d.rules[i], List.getElem_mem hi, heq⟩
    refine ⟨fun r hr => ?_, fun r hr => ?_, nodup_groups_iff.mpr ⟨h.distinct, h.apart⟩⟩
    · obtain ⟨i, r', hr', rfl⟩ := hmem r hr
      exact h.styles r' hr'
    · obtain ⟨i, r', hr', rfl⟩ := hmem r hr
      cases hg : r'.group with
      | some g =>
          rw [toRule_group_of_some hg]
          exact h.groups r' hr' g hg
      | none =>
          rw [toRule_group_of_none hg]
          exact wellFormed_derivedGroup i r'.style

/-! ### The language of a definition -/

/-- The language that is made has the rules of the definition, with their groups, and its names and
file types. -/
theorem toLanguage_eq_ok {l : Language} :
    d.toLanguage = .ok l ↔
      d.Valid ∧ l = ⟨d.name, d.aliases, d.fileTypes, d.rules.mapIdx toRule⟩ := by
  rw [← validRules_iff_valid]
  constructor
  · intro h
    obtain ⟨l', hl', h⟩ := exists_of_bind_eq_ok h
    obtain ⟨hvalid, rfl⟩ := Language.ofRules_eq_ok_iff.mp hl'
    cases h
    exact ⟨hvalid, rfl⟩
  · rintro ⟨hvalid, rfl⟩
    have hl : Language.ofRules d.name (d.rules.mapIdx toRule)
        = .ok ⟨d.name, [], [], d.rules.mapIdx toRule⟩ :=
      Language.ofRules_eq_ok_iff.mpr ⟨hvalid, rfl⟩
    unfold toLanguage
    rw [hl]
    rfl

/-- The language with these rules is as the definition describes it. Nothing is checked here: this
is what the language would be. -/
theorem describes_mapIdx (d : Definition) :
    d.Describes ⟨d.name, d.aliases, d.fileTypes, d.rules.mapIdx toRule⟩ where
  name := rfl
  aliases := rfl
  fileTypes := rfl
  rules := by
    rw [map_mapIdx, List.mapIdx_eq_iff]
    intro i
    rw [List.getElem?_map]
    rfl
  groups i r hr := by
    rw [List.getElem?_mapIdx, hr]
    rfl

/-- A definition makes a language if and only if it is valid, and then the one that it describes.
Derived groups are well formed, and are the same only if index and style make them so. A definition
that gives no groups needs no more than styles. -/
theorem exists_toLanguage_iff (d : Definition) :
    ((∃ l, d.toLanguage = .ok l) ↔ d.Valid) ∧
    (∀ l, d.toLanguage = .ok l → d.Describes l) ∧
    (∀ index style, GroupName.WellFormed (derivedGroup index style)) ∧
    (∀ i j style style', derivedGroup i style = derivedGroup j style' ↔
      i = j ∧ GroupName.ofText style = GroupName.ofText style') ∧
    ((∀ r ∈ d.rules, r.style ≠ "" ∧ r.group = none) → ∃ l, d.toLanguage = .ok l) := by
  have hiff : (∃ l, d.toLanguage = .ok l) ↔ d.Valid := by
    simp only [toLanguage_eq_ok, exists_and_left, exists_eq, and_true]
  refine ⟨hiff, fun l hl => ?_, wellFormed_derivedGroup, fun _ _ _ _ => derivedGroup_inj,
    fun h => hiff.mpr ?_⟩
  · rw [(toLanguage_eq_ok.mp hl).2]
    exact describes_mapIdx d
  · -- Without explicit groups there is nothing that the derived ones could collide with.
    have hnone : d.rules.filterMap RuleDefinition.group = [] :=
      List.filterMap_eq_nil_iff.mpr fun r hr => (h r hr).2
    refine ⟨fun r hr => (h r hr).1, fun r hr g hg => ?_, hnone ▸ List.nodup_nil, ?_⟩
    · rw [(h r hr).2] at hg
      cases hg
    · intro i j r r' hr _ _ hg
      rw [(h r (List.mem_of_getElem? hr)).2] at hg
      cases hg

/-- A definition that gives a group to its first rule. The other two have styles of which the same
is made, so only the index keeps their derived groups apart. -/
def marked (group : String) : Definition :=
  ⟨"text", ["note"], ["txt"],
    [⟨"mark", "#", some group⟩, ⟨"1_word", "\\w+", none⟩, ⟨"1 word", "\\d+", none⟩]⟩

/-- The given group may look like a derived one, but not be the one that the last rule gets. In the
first definition it names index 1 and the style of another rule. -/
theorem exists_toLanguage_marked :
    (∃ l, (marked "r1_1_word").toLanguage = .ok l ∧ (marked "r1_1_word").Describes l) ∧
    ¬ ∃ l, (marked "r2__1_word").toLanguage = .ok l := by
  have hok : (marked "r1_1_word").toLanguage.isOk = true := by decide
  obtain ⟨l, hl⟩ := exists_of_isOk hok
  refine ⟨⟨l, hl, (exists_toLanguage_iff _).2.1 l hl⟩, fun h => ?_⟩
  have hvalid := (exists_toLanguage_iff (marked "r2__1_word")).1.mp h
  exact hvalid.apart 0 2 _ _ rfl rfl rfl (by decide)

end Definition

end Highlight
