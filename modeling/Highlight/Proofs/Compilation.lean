import Highlight.Proofs.Language
import Highlight.Proofs.Pattern
import Highlight.Proofs.Regex.Numbering
import Highlight.Proofs.Regex.Resolution

/-!
# `Highlight.Proofs.Compilation`: what a language compiles to, and what is blamed if it does not

`Pattern.ofLanguage` looks for faults three times: in the patterns of the rules, each on its own,
in the combined pattern, and in the groups that the rules have there. A language can have faults
of all kinds at once, and a pattern may declare groups with the names of other rules.

* `Compiled` is what holds of a language and the pattern that it compiles to.
* `CompileFault` is what a language that does not compile is blamed on: the first fault in the
  first of the three passes that finds one.

`ofLanguage_eq_iff` is the main statement. A language compiles to a pattern if and only if the first
holds of the two, and fails with an error if and only if the second does. The groups of the rules of
a compiled language are different.

What a rule finds in the combined pattern is a list of numbers. The rule has one group, none or
several as the list has one element, none or several, because no group is listed twice under a name
(`nodup_groupsNamed`). No group has two names, so rules with different group names have different
groups. Both hold of the names of every pattern that has been read (`distinct_names`).
-/

set_option autoImplicit false

namespace Highlight

namespace Regex.Program

variable {p : Program} {name : List Char}

/-- The names of a pattern are listed once, and so are its groups. It holds of every pattern that
has been read, so nothing is asked of the text. -/
theorem distinct_names {pattern : List Char} (h : ofPattern pattern = .ok p) :
    Distinct p.names := by
  obtain ⟨s, hread, hprogram⟩ := exists_of_bind_eq_ok h
  obtain ⟨_, _, _, _, _, _, hnames⟩ := ofSyntax_eq_ok hprogram
  rw [hnames]
  exact (Syntax.numbers_of_read hread).2.distinct

/-- The groups that are found by a name are those that have it. The search takes the first entry of
the name, and there is no other. -/
theorem mem_groupsNamed_iff (h : Distinct p.names) {g : Nat} :
    g ∈ p.groupsNamed name ↔ Bears p.names name g := by
  unfold groupsNamed
  split
  · rename_i n gs hfind
    have hmem := List.mem_of_find?_eq_some hfind
    obtain rfl : n = name := by simpa using List.find?_some hfind
    constructor
    · intro hg
      exact ⟨_, hmem, rfl, hg⟩
    · -- A name has one entry only, so the entry that bears the number is the one that was found.
      rintro ⟨e, he, hname, hg⟩
      obtain rfl : e = (n, gs) := List.inj_on_of_nodup_map h.once he hmem hname
      exact hg
  · rename_i hfind
    -- No entry has this name, and no group bears it.
    refine ⟨fun hg => absurd hg List.not_mem_nil, ?_⟩
    rintro ⟨e, he, hname, _⟩
    exact absurd (beq_iff_eq.mpr hname) (List.find?_eq_none.mp hfind e he)

/-- No group is found twice by a name. So a list of two groups means that there are two groups. -/
theorem nodup_groupsNamed (name : List Char) (h : Distinct p.names) :
    (p.groupsNamed name).Nodup := by
  unfold groupsNamed
  split
  · rename_i hfind
    exact h.groups _ (List.mem_of_find?_eq_some hfind)
  · exact List.nodup_nil

end Regex.Program

open Regex (Program PatternError Bears Distinct)

/-- The pattern of a rule compiles on its own, without the group around it and the other rules. -/
def Rule.CompilesAlone (r : Rule) : Prop := ∃ q, Program.ofPattern r.pattern.toList = .ok q

/-- A rule has exactly one group in a pattern: one group bears its name, and no other does. -/
def Rule.HasGroup (q : Program) (r : Rule) : Prop := ∃! g, Bears q.names r.group.toList g

namespace Pattern

/-! ### The passes -/

section

variable {language : String} {q : Program} {r : Rule}

/-- A rule finds one group, none or several. All that is said about the third pass for one rule is
read off these three cases. -/
theorem compileRule_cases (language : String) (hq : Distinct q.names) (r : Rule) :
    (∃ g, (∀ g', Bears q.names r.group.toList g' ↔ g' = g) ∧
      compileRule language q r = .ok ⟨r.style, g⟩) ∨
    ((∀ g, ¬ Bears q.names r.group.toList g) ∧
      compileRule language q r = .error (.invalidPattern language (some r.group) .groupMissing)) ∨
    (∃ g g', g ≠ g' ∧ Bears q.names r.group.toList g ∧ Bears q.names r.group.toList g' ∧
      compileRule language q r = .error (.duplicateGroup language r.group)) := by
  have hmem : ∀ g, Bears q.names r.group.toList g ↔ g ∈ q.groupsNamed r.group.toList :=
    fun g => (Program.mem_groupsNamed_iff hq).symm
  have hnodup := Program.nodup_groupsNamed r.group.toList hq
  unfold compileRule
  simp only [hmem]
  cases hgroups : q.groupsNamed r.group.toList with
  | nil => exact Or.inr (Or.inl ⟨fun g => List.not_mem_nil, rfl⟩)
  | cons g gs =>
      cases gs with
      | nil => exact Or.inl ⟨g, fun g' => List.mem_singleton, rfl⟩
      | cons g' gs =>
          -- The list has no group twice, so these are two groups.
          rw [hgroups, List.nodup_cons] at hnodup
          have hne : g ≠ g' := fun heq => hnodup.1 (heq ▸ List.mem_cons_self)
          exact Or.inr (Or.inr ⟨g, g', hne, by simp, by simp, rfl⟩)

/-- A rule is compiled to the group that is its only one, and keeps its style. Of the three ways in
which the look-up can go, only the one with a single group fits. -/
theorem compileRule_eq_ok_iff (hq : Distinct q.names) {c : CompiledRule} :
    compileRule language q r = .ok c ↔
      c.style = r.style ∧ ∀ g, Bears q.names r.group.toList g ↔ g = c.group := by
  rcases compileRule_cases language hq r with
    ⟨g, hg, hok⟩ | ⟨hnone, herror⟩ | ⟨g, g', hne, hg, hg', herror⟩
  · -- One group bears the name.
    rw [hok, Except.ok.injEq]
    constructor
    · rintro rfl
      exact ⟨rfl, hg⟩
    · rintro ⟨hstyle, hgroup⟩
      have hsame : g = c.group := (hgroup g).mp ((hg g).mpr rfl)
      rw [hsame, ← hstyle]
  · rw [herror]
    refine ⟨fun h => (by cases h), fun h => ?_⟩
    -- No group bears the name, while the right-hand side promises one.
    exact absurd ((h.2 c.group).mpr rfl) (hnone c.group)
  · rw [herror]
    refine ⟨fun h => (by cases h), fun h => ?_⟩
    -- Two groups bear it, and both would be the one of the compiled rule.
    exact absurd (((h.2 g).mp hg).trans ((h.2 g').mp hg').symm) hne

/-- A rule gets a group if it has exactly one, and not otherwise. It does not matter here which one
that is. -/
theorem exists_compileRule_iff (language : String) (hq : Distinct q.names) (r : Rule) :
    (∃ c, compileRule language q r = .ok c) ↔ r.HasGroup q := by
  simp only [compileRule_eq_ok_iff hq]
  constructor
  · rintro ⟨c, _, hgroup⟩
    exact ⟨c.group, (hgroup _).mpr rfl, fun g hg => (hgroup g).mp hg⟩
  · rintro ⟨g, hg, hall⟩
    exact ⟨⟨r.style, g⟩, rfl, fun g' => ⟨hall g', fun h => h ▸ hg⟩⟩

/-- A rule without a group is blamed for a missing group, and one with several for a duplicate
group. -/
theorem compileRule_eq_error_iff (language : String) (hq : Distinct q.names) {e : Error} :
    compileRule language q r = .error e ↔
      ((∀ g, ¬ Bears q.names r.group.toList g) ∧
        e = .invalidPattern language (some r.group) .groupMissing) ∨
      (∃ g g', g ≠ g' ∧ Bears q.names r.group.toList g ∧ Bears q.names r.group.toList g' ∧
        e = .duplicateGroup language r.group) := by
  rcases compileRule_cases language hq r with
    ⟨g, hg, hok⟩ | ⟨hnone, herror⟩ | ⟨g, g', hne, hg, hg', herror⟩
  · rw [hok]
    refine ⟨fun h => (by cases h), ?_⟩
    -- The rule compiles, since one group bears its name, which neither fault allows.
    rintro (⟨hnone, _⟩ | ⟨g₁, g₂, hne, h₁, h₂, _⟩)
    · exact absurd ((hg g).mpr rfl) (hnone g)
    · exact absurd (((hg g₁).mp h₁).trans ((hg g₂).mp h₂).symm) hne
  · rw [herror, Except.error.injEq]
    constructor
    · rintro rfl
      -- The group of the rule is missing.
      exact Or.inl ⟨hnone, rfl⟩
    · rintro (⟨_, rfl⟩ | ⟨g, _, _, hg, _⟩)
      · rfl
      · exact absurd hg (hnone g)
  · rw [herror, Except.error.injEq]
    constructor
    · rintro rfl
      -- Its name is used twice.
      exact Or.inr ⟨g, g', hne, hg, hg', rfl⟩
    · rintro (⟨hnone, _⟩ | ⟨_, _, _, _, _, rfl⟩)
      · exact absurd hg (hnone g)
      · rfl

end

/-! ### Languages -/

/-- What holds of a language and the pattern that it compiles to. The last field does not say which
number the group has, but which group it is. -/
structure Compiled (l : Language) (p : Pattern) : Prop where
  /-- The pattern has the name of the language. -/
  name : p.language = l.name
  /-- Its text is the combined pattern. -/
  source : p.source = l.combined
  /-- The pattern of each rule compiles on its own. -/
  alone : ∀ r ∈ l.rules, r.CompilesAlone
  /-- All of them compile in one. -/
  program : Program.ofPattern l.combined.toList = .ok p.program
  /-- There is an entry for each rule. -/
  count : p.rules.length = l.rules.length
  /-- The rules keep their order and their styles, and there are no other styles. -/
  style : ∀ i, p.style? i = (l.rules[i]?).map (·.style)
  /-- The entry of a rule has its only group. -/
  group : ∀ (i : Nat) (r : Rule), l.rules[i]? = some r → ∃ c : CompiledRule, p.rules[i]? = some c ∧
    ∀ g, Bears p.program.names r.group.toList g ↔ g = c.group

/-- What a language that does not compile is blamed on. There is a constructor for each pass, and
two for the last one. Each says that the passes before it have found nothing, and that the rules
before the one to blame are not at fault. -/
inductive CompileFault (l : Language) : Error → Prop where
  /-- The first rule whose pattern does not compile on its own is to blame. -/
  | alone {i : Nat} {r : Rule} {e : PatternError} (hr : l.rules[i]? = some r)
      (he : Program.ofPattern r.pattern.toList = .error e)
      (hfirst : ∀ j < i, ∀ r', l.rules[j]? = some r' → r'.CompilesAlone) :
      CompileFault l (.invalidPattern l.name (some r.group) (.malformed e))
  /-- The combined pattern does not compile, and no rule is to blame. -/
  | combined {e : PatternError} (halone : ∀ r ∈ l.rules, r.CompilesAlone)
      (he : Program.ofPattern l.combined.toList = .error e) :
      CompileFault l (.invalidPattern l.name none (.malformed e))
  /-- The first rule that does not have exactly one group has none. -/
  | missing {q : Program} {i : Nat} {r : Rule} (halone : ∀ r ∈ l.rules, r.CompilesAlone)
      (hq : Program.ofPattern l.combined.toList = .ok q) (hr : l.rules[i]? = some r)
      (hnone : ∀ g, ¬ Bears q.names r.group.toList g)
      (hfirst : ∀ j < i, ∀ r', l.rules[j]? = some r' → r'.HasGroup q) :
      CompileFault l (.invalidPattern l.name (some r.group) .groupMissing)
  /-- The first rule that does not have exactly one group has several. -/
  | repeated {q : Program} {i : Nat} {r : Rule} {g g' : Nat}
      (halone : ∀ r ∈ l.rules, r.CompilesAlone)
      (hq : Program.ofPattern l.combined.toList = .ok q) (hr : l.rules[i]? = some r)
      (hne : g ≠ g') (hg : Bears q.names r.group.toList g)
      (hg' : Bears q.names r.group.toList g')
      (hfirst : ∀ j < i, ∀ r', l.rules[j]? = some r' → r'.HasGroup q) :
      CompileFault l (.duplicateGroup l.name r.group)

section

variable {l : Language}

/-- The third pass makes an entry for each rule, with its style and its only group. The entries are
in the order of the rules, so that their indices are those of the owners of matches. -/
theorem mapM_compileRule_eq_ok_iff {q : Program} (hq : Distinct q.names)
    {cs : List CompiledRule} :
    l.rules.mapM (compileRule l.name q) = .ok cs ↔
      cs.length = l.rules.length ∧ ∀ (i : Nat) (r : Rule), l.rules[i]? = some r →
        ∃ c : CompiledRule, cs[i]? = some c ∧ c.style = r.style ∧
          ∀ g, Bears q.names r.group.toList g ↔ g = c.group := by
  -- Rules and compiled rules go by pairs; the pairs are the same as equal indices.
  rw [mapM_eq_ok_iff]
  simp only [compileRule_eq_ok_iff hq]
  constructor
  · intro h
    exact ⟨h.length_eq.symm, fun i r hr => getElem?_of_forall₂ h hr⟩
  · rintro ⟨hlength, hall⟩
    refine List.forall₂_iff_get.mpr ⟨hlength.symm, fun i hi hi' => ?_⟩
    obtain ⟨c, hc, hentry⟩ := hall i _ (List.getElem?_eq_getElem hi)
    rw [List.getElem?_eq_getElem hi', Option.some.injEq] at hc
    rw [List.get_eq_getElem, List.get_eq_getElem, hc]
    exact hentry

/-- A language compiles to the pattern that has what `Compiled` says, and to no other. From left to
right the passes are taken apart, and from right to left they are run. -/
theorem ofLanguage_eq_ok_iff {p : Pattern} : ofLanguage l = .ok p ↔ Compiled l p := by
  rw [ofLanguage_eq]
  constructor
  · intro h
    obtain ⟨qs, hqs, h⟩ := exists_of_bind_eq_ok h
    obtain ⟨q, hq, h⟩ := exists_of_bind_eq_ok h
    obtain ⟨cs, hcs, h⟩ := exists_of_bind_eq_ok h
    cases h
    have hprogram := compile_eq_ok_iff.mp hq
    have hnames := Program.distinct_names hprogram
    obtain ⟨hcount, hentries⟩ := (mapM_compileRule_eq_ok_iff hnames).mp hcs
    -- The pattern has its name and its text from the language.
    exact {
      name := rfl
      source := rfl
      alone := exists_mapM_compile_iff.mp ⟨qs, hqs⟩
      program := hprogram
      count := hcount
      style := fun i => by
        rw [style?]
        cases hr : l.rules[i]? with
        | none =>
            rw [List.getElem?_eq_none_iff, ← hcount] at hr
            rw [List.getElem?_eq_none_iff.mpr hr]
            rfl
        | some r =>
            obtain ⟨c, hc, hstyle, _⟩ := hentries i r hr
            rw [hc, Option.map_some, Option.map_some, hstyle]
      group := fun i r hr => by
        obtain ⟨c, hc, _, hgroup⟩ := hentries i r hr
        exact ⟨c, hc, hgroup⟩ }
  · intro h
    obtain ⟨qs, hqs⟩ := exists_mapM_compile_iff.mpr h.alone
    have hrules : l.rules.mapM (compileRule l.name p.program) = .ok p.rules := by
      rw [mapM_compileRule_eq_ok_iff (Program.distinct_names h.program)]
      refine ⟨h.count, fun i r hr => ?_⟩
      obtain ⟨c, hc, hgroup⟩ := h.group i r hr
      have hstyle := h.style i
      rw [style?, hc, hr, Option.map_some, Option.map_some, Option.some.injEq] at hstyle
      exact ⟨c, hc, hstyle, hgroup⟩
    rw [hqs]
    show (do
      let q ← compile l.name none l.combined
      let rules ← l.rules.mapM (compileRule l.name q)
      return ⟨l.name, l.combined, q, rules⟩) = Except.ok p
    rw [compile_eq_ok_iff.mpr h.program]
    show (do
      let rules ← l.rules.mapM (compileRule l.name p.program)
      return ⟨l.name, l.combined, p.program, rules⟩) = Except.ok p
    rw [hrules, ← h.name, ← h.source]
    rfl

/-- An error comes from the first pass that fails, and the passes before it have succeeded. The
three passes are the patterns alone, their combination, and the groups in it. -/
theorem ofLanguage_eq_error_cases {e : Error} : ofLanguage l = .error e ↔
    l.rules.mapM (fun r => compile l.name (some r.group) r.pattern) = .error e ∨
    (∀ r ∈ l.rules, r.CompilesAlone) ∧
      (compile l.name none l.combined = .error e ∨
        ∃ q, Program.ofPattern l.combined.toList = .ok q ∧
          l.rules.mapM (compileRule l.name q) = .error e) := by
  -- After the third pass nothing can fail.
  have hlast : ∀ q, (do
      let rules ← l.rules.mapM (compileRule l.name q)
      return (⟨l.name, l.combined, q, rules⟩ : Pattern)) = Except.error e ↔
        l.rules.mapM (compileRule l.name q) = .error e := by
    intro q
    rw [bind_eq_error_iff]
    simp [pure, Except.pure]
  rw [ofLanguage_eq, bind_eq_error_iff, exists_and_right, exists_mapM_compile_iff,
    bind_eq_error_iff]
  simp only [compile_eq_ok_iff, hlast, Rule.CompilesAlone]

/-- The first pass fails at the first rule whose pattern does not compile on its own. -/
theorem mapM_compile_eq_error_iff {e : Error} :
    l.rules.mapM (fun r => compile l.name (some r.group) r.pattern) = .error e ↔
      ∃ (i : Nat) (r : Rule), l.rules[i]? = some r ∧
        compile l.name (some r.group) r.pattern = .error e ∧
        ∀ j < i, ∀ r', l.rules[j]? = some r' → r'.CompilesAlone := by
  rw [mapM_eq_error_iff]
  simp only [compile_eq_ok_iff, Rule.CompilesAlone]

/-- The third pass fails at the first rule that does not have exactly one group. -/
theorem mapM_compileRule_eq_error_iff {q : Program} (hq : Distinct q.names) {e : Error} :
    l.rules.mapM (compileRule l.name q) = .error e ↔
      ∃ (i : Nat) (r : Rule), l.rules[i]? = some r ∧ compileRule l.name q r = .error e ∧
        ∀ j < i, ∀ r', l.rules[j]? = some r' → r'.HasGroup q := by
  rw [mapM_eq_error_iff]
  simp only [exists_compileRule_iff l.name hq]

/-- A language fails with the fault that it is blamed on, and with no other. There is a case for
each constructor of `CompileFault`, in both directions. -/
theorem ofLanguage_eq_error_iff {e : Error} : ofLanguage l = .error e ↔ CompileFault l e := by
  rw [ofLanguage_eq_error_cases, mapM_compile_eq_error_iff]
  constructor
  · rintro (⟨i, r, hr, he, hfirst⟩ | ⟨halone, he | ⟨q, hq, h⟩⟩)
    · -- The first rule that does not compile alone is at fault.
      obtain ⟨e', he', rfl⟩ := compile_eq_error_iff.mp he
      exact .alone hr he' hfirst
    · -- All rules compile alone, and their combination does not.
      obtain ⟨e', he', rfl⟩ := compile_eq_error_iff.mp he
      exact .combined halone he'
    · -- The combination compiles, and the first rule whose group is not to be found once is at
      -- fault.
      have hnames := Program.distinct_names hq
      obtain ⟨i, r, hr, he, hfirst⟩ := (mapM_compileRule_eq_error_iff hnames).mp h
      rcases (compileRule_eq_error_iff l.name hnames).mp he with
        ⟨hnone, rfl⟩ | ⟨g, g', hne, hg, hg', rfl⟩
      · exact .missing halone hq hr hnone hfirst
      · exact .repeated halone hq hr hne hg hg' hfirst
  · intro h
    cases h with
    | alone hr he hfirst =>
        exact Or.inl ⟨_, _, hr, compile_eq_error_iff.mpr ⟨_, he, rfl⟩, hfirst⟩
    | combined halone he =>
        exact Or.inr ⟨halone, Or.inl (compile_eq_error_iff.mpr ⟨_, he, rfl⟩)⟩
    | missing halone hq hr hnone hfirst =>
        have hnames := Program.distinct_names hq
        have he := (compileRule_eq_error_iff l.name hnames).mpr (Or.inl ⟨hnone, rfl⟩)
        have h := (mapM_compileRule_eq_error_iff hnames).mpr ⟨_, _, hr, he, hfirst⟩
        exact Or.inr ⟨halone, Or.inr ⟨_, hq, h⟩⟩
    | repeated halone hq hr hne hg hg' hfirst =>
        have hnames := Program.distinct_names hq
        have he := (compileRule_eq_error_iff l.name hnames).mpr (Or.inr ⟨_, _, hne, hg, hg', rfl⟩)
        have h := (mapM_compileRule_eq_error_iff hnames).mpr ⟨_, _, hr, he, hfirst⟩
        exact Or.inr ⟨halone, Or.inr ⟨_, hq, h⟩⟩

/-- The groups of rules with different names are different, since no group has two names. It is not
a matter of the order in which the groups are numbered. -/
theorem Compiled.nodup_groups {p : Pattern} (h : Compiled l p)
    (hdistinct : (l.rules.map (·.group)).Nodup) : (p.rules.map (·.group)).Nodup := by
  have hnames := Program.distinct_names h.program
  rw [List.nodup_iff_getElem?_ne_getElem?] at hdistinct ⊢
  intro i j hij hj hsame
  rw [List.length_map, h.count] at hj
  have hr := List.getElem?_eq_getElem (Nat.lt_trans hij hj)
  have hr' := List.getElem?_eq_getElem hj
  obtain ⟨c, hc, hgroup⟩ := h.group i _ hr
  obtain ⟨c', hc', hgroup'⟩ := h.group j _ hr'
  -- Each of the two groups has the name of its rule.
  have hbears := (hgroup c.group).mpr rfl
  have hbears' := (hgroup' c'.group).mpr rfl
  rw [List.getElem?_map, List.getElem?_map, hc, hc'] at hsame
  have hsame' : c.group = c'.group := Option.some.inj hsame
  rw [hsame'] at hbears
  have hname := String.toList_inj.mp (hnames.apart _ _ _ hbears hbears')
  refine hdistinct i j hij (by rwa [List.length_map]) ?_
  rw [List.getElem?_map, List.getElem?_map, hr, hr', Option.map_some, Option.map_some, hname]

end

/-- A language has a pattern if and only if all its rules compile, alone and in one, and each has
exactly one group there. Otherwise the error is the first fault of the first pass that finds one,
and a group that is missing has a wording of its own. In the pattern of a language with valid rules,
and the rules of a language that has been made of rules are valid, the groups are different. -/
theorem ofLanguage_eq_iff (l : Language) :
    (∀ p, ofLanguage l = .ok p ↔ Compiled l p) ∧
    (∀ e, ofLanguage l = .error e ↔ CompileFault l e) ∧
    PatternFault.groupMissing.message = "group missing from the combined pattern" ∧
    (Language.ValidRules l.rules → ∀ p, ofLanguage l = .ok p → (p.rules.map (·.group)).Nodup) :=
  ⟨fun _ => ofLanguage_eq_ok_iff, fun _ => ofLanguage_eq_error_iff, rfl,
    fun hvalid _ hp => (ofLanguage_eq_ok_iff.mp hp).nodup_groups hvalid.distinct⟩

/-- A language in which the second rule has lost its group to the comment of the first one, and
declares a group with the name of the third one. So two rules are at fault, in different ways. -/
def entangled : Language :=
  ⟨"entangled", [], [], [⟨"comment", "(?x)a #", "comment"⟩,
    ⟨"letter", "[\n)|c|(?<digit>b]", "letter"⟩, ⟨"digit", "d", "digit"⟩]⟩

/-- A language in which a rule has a group of its own besides the one around it. The group of the
next rule is then not numbered next. -/
def nested : Language :=
  ⟨"nested", [], [], [⟨"pair", "(?<left>a)b", "pair"⟩, ⟨"letter", "b", "b"⟩]⟩

/-- The language, ready for use, with groups 1 and 3 for its two rules. Group 2 is inside the first
rule, and belongs to no rule. -/
def nestedPattern : Pattern :=
  let a : Regex.Node := .literal ['a'] false
  let b : Regex.Node := .literal ['b'] false
  let pair : Regex.Node := .seq (.capture 2 a) b
  let body : Regex.Node := .alt (.capture 1 pair) (.capture 3 b)
  ⟨"nested", nested.combined, ⟨body, #[some body, some pair, some a, some b], [], [],
    [("pair".toList, [1]), ("left".toList, [2]), ("b".toList, [3])]⟩,
    [⟨"pair", 1⟩, ⟨"letter", 3⟩]⟩

/-- Of the two rules at fault, the first one is to blame. The groups of rules need not follow each
other. -/
theorem nested_compiled :
    CompileFault entangled (.invalidPattern "entangled" (some "letter") .groupMissing) ∧
    Language.ValidRules nested.rules ∧ Compiled nested nestedPattern ∧
    (nestedPattern.rules.map (·.group)).Nodup := by
  have hfault : ofLanguage entangled
      = .error (.invalidPattern "entangled" (some "letter") .groupMissing) := by decide +kernel
  have hp : ofLanguage nested = .ok nestedPattern := by decide +kernel
  have hrules : Language.ofRules "nested" nested.rules = .ok nested := by decide
  have hvalid := (Language.ofRules_eq_ok_iff.mp hrules).1
  have hnested := ofLanguage_eq_iff nested
  exact ⟨((ofLanguage_eq_iff entangled).2.1 _).mp hfault, hvalid, (hnested.1 _).mp hp,
    hnested.2.2.2 hvalid _ hp⟩

end Pattern

end Highlight
