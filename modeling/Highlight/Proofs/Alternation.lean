import Highlight.Proofs.Pattern
import Highlight.Proofs.Regex.Alternatives

/-!
# `Highlight.Proofs.Alternation`: the combined pattern of a language

The rules of a language are put into groups, and the groups are joined to one pattern with `|`
between them. `Language.IsAlternation` says that the combined pattern is read that way: each
alternative is the group of a rule, and what is in the group was read from the pattern of that
rule. This does not go without saying, since patterns are joined as texts: a comment at the end of
one can hide the end of its group and the start of the next one.

`grouped_of_language` is the main statement. Suppose that the combined pattern of a language is
an alternation. Then its program is one too. The alternatives are the groups that the rules have
been given, and no rule enters or calls the group of another one.
-/

set_option autoImplicit false

namespace Highlight

open Regex (Node Program Syntax)

/-- An alternative of the combined pattern is the group of a rule. What is in the group has the
named groups of the rule's own pattern, and no calls but those of that pattern. -/
structure ReadsRule (s : Syntax) (r : Rule) (a : Nat × Node) : Prop where
  named : a.1 ∈ s.groups.find r.group.toList
  own : ∃ own, Syntax.read r.pattern.toList = .ok own ∧
    (∀ e ∈ own.groups.names, ∃ g ∈ a.2.numbers, g ∈ s.groups.find e.1) ∧
    a.2.Enters (fun _ => True) fun k => ∃ c ∈ own.calls, s.calls[k]? = some c

/-- A reading of the combined pattern as the alternation of the groups around the rules. The tree is
that of the groups joined in the order of the rules, and each group is that of its rule. -/
structure Language.ReadsAs (l : Language) (s : Syntax) (alts : List (Nat × Node)) : Prop where
  read : Syntax.read l.combined.toList = .ok s
  tree : s.tree = Node.ofGroups alts
  rules : List.Forall₂ (ReadsRule s) l.rules alts

/-- The combined pattern is read as the alternation of the groups around the rules. It is a property
of the patterns alone, and does not depend on how they match. -/
def Language.IsAlternation (l : Language) : Prop := ∃ s alts, l.ReadsAs s alts

/-- A call in an alternative goes to a group in it, since the rule's own pattern has a group of
that name. -/
theorem ReadsRule.callsInside {s : Syntax} {r : Rule} {a : Nat × Node} (h : ReadsRule s r a)
    (hnamed : s.groups.named ≠ 0) {q : Program}
    (hq : Program.ofPattern r.pattern.toList = .ok q) : Regex.CallsInside s a.2 := by
  obtain ⟨own, hown, hnames, hcalls⟩ := h.own
  refine hcalls.mono (fun _ hg => hg) fun k hk => ?_
  obtain ⟨c, hc, hk⟩ := hk
  refine ⟨c, hk, fun g hg => ?_⟩
  obtain ⟨name, href, hfind⟩ := Program.callTarget_eq_ok hnamed hg
  -- The rule's own pattern compiles, so the name that it calls is that of one of its groups.
  obtain ⟨own', hown', hq⟩ := exists_of_bind_eq_ok hq
  obtain rfl : own = own' := Except.ok.inj (hown.symm.trans hown')
  obtain ⟨targets, _, _, htargets, _⟩ := Program.ofSyntax_eq_ok hq
  obtain ⟨i, hi⟩ := List.getElem?_of_mem hc
  obtain ⟨g', _, hg'⟩ := getElem?_of_mapM_eq_ok htargets hi
  -- A name that is called belongs to a group, or the pattern would not have compiled.
  have hdefined : ∃ e ∈ own.groups.names, e.1 = name := by
    rw [href, Program.callTarget, Regex.Groups.find] at hg'
    cases he : own.groups.names.find? fun entry => entry.1 == name with
    | none =>
        rw [he] at hg'
        cases hg'
    | some e => exact ⟨e, List.mem_of_find?_eq_some he, by simpa using List.find?_some he⟩
  obtain ⟨e, he, rfl⟩ := hdefined
  obtain ⟨g'', hmem, hg''⟩ := hnames e he
  rw [hfind, List.mem_singleton] at hg''
  exact hg'' ▸ hmem

/-- The rules of a compiled language have the groups that are the alternatives of its pattern, in
the same order. The name of a rule leads to one group, which both sides have found. -/
theorem map_group_eq {l : Language} {p : Pattern} {s : Syntax} {alts : List (Nat × Node)}
    (hnames : p.program.names = s.groups.names) (hcompiles : Pattern.Compiles l p)
    (hreads : List.Forall₂ (ReadsRule s) l.rules alts) :
    alts.map (·.1) = p.rules.map (·.group) := by
  have hrules := hcompiles.rules
  have hfind : ∀ name, p.program.groupsNamed name = s.groups.find name := by
    intro name
    rw [Program.groupsNamed, hnames]
    rfl
  -- Only the names of the groups tie the three lists together, and the induction is along them.
  generalize p.rules = cs at hrules ⊢
  generalize l.rules = rs at hrules hreads
  clear hcompiles
  induction hrules generalizing alts with
  | nil =>
      cases hreads
      rfl
  | cons hc _ ih =>
      cases hreads with
      | cons ha hreads =>
          have hmem := ha.named
          rw [← hfind, hc.2, List.mem_singleton] at hmem
          rw [List.map_cons, List.map_cons, hmem, ih hreads]

/-- The program of a compiled language is the alternation of the groups of its rules, each with
a number of its own, and no rule leads into the group of another one. -/
structure Pattern.Grouped (p : Pattern) (alts : List (Nat × Node)) : Prop where
  separated : Regex.Separated p.program alts
  groups : alts.map (·.1) = p.rules.map (·.group)
  nonempty : alts ≠ []

/-- A language with rules that is read as an alternation has such a program. Its groups have names,
and its calls stay inside them, since each rule compiles alone; so resolving the calls and dropping
the unnamed groups leave the alternatives where they are. -/
theorem grouped_of_language {l : Language} {p : Pattern} (hl : Pattern.ofLanguage l = .ok p)
    (hreads : l.IsAlternation) (hne : l.rules ≠ []) : ∃ alts, p.Grouped alts := by
  obtain ⟨s, alts, hread, htree, hrules⟩ := hreads
  have hcompiles := Pattern.ofLanguage_eq_ok hl
  obtain ⟨s', hs', hprogram⟩ := exists_of_bind_eq_ok hcompiles.program
  obtain rfl : s = s' := Except.ok.inj (hread.symm.trans hs')
  obtain ⟨hnumbers, hsound⟩ := Syntax.numbers_of_read hread
  -- The group of a rule has a name, so it has been declared.
  have hnamed : ∀ a ∈ alts, ∃ e ∈ s.groups.names, a.1 ∈ e.2 := by
    intro a ha
    obtain ⟨r, _, hr⟩ := exists_of_forall₂ hrules ha
    exact Regex.Groups.mem_of_mem_find hr.named
  -- Each rule calls into its own group only, since its pattern compiles alone.
  have hcalls : ∀ a ∈ alts, Regex.CallsInside s a.2 := by
    intro a ha
    obtain ⟨r, hr, hreadsRule⟩ := exists_of_forall₂ hrules ha
    obtain ⟨q, hq⟩ := hcompiles.alone r hr
    exact hreadsRule.callsInside (hsound.named_ne_zero (hnamed a ha)) hq
  have hne' : alts ≠ [] := by
    rintro rfl
    exact hne (List.forall₂_nil_right_iff.mp hrules)
  obtain ⟨alts', hmap, hseparated⟩ :=
    Regex.separated_of_ofSyntax hprogram hsound hnumbers htree hne' hnamed hcalls
  obtain ⟨_, _, _, _, _, _, hnames⟩ := Program.ofSyntax_eq_ok hprogram
  refine ⟨alts', hseparated, hmap.trans (map_group_eq hnames hcompiles hrules), ?_⟩
  rintro rfl
  exact hne' (List.map_eq_nil_iff.mp hmap.symm)

end Highlight
