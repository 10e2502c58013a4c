import Highlight.Regex.Program
import Highlight.Regex.Quantified
import Mathlib.Data.List.Nodup

/-!
# `Highlight.Proofs.Regex.Numbers`: the groups in a tree

`Node.numbers` are the numbers of the capturing groups of a tree, in order. What the reader does
with the nodes that it has read keeps them: putting them in a row (`numbers_ofSeq`,
`numbers_ofAlts`), joining strings (`numbersOf_joinLiterals`), and putting quantifiers on them
(`numbers_quantify`).

`Groups.Extends` is what opening groups does to the groups of a pattern. It keeps `Groups.Sound`:
the list of the names has each name once, and each group once (`Distinct`).
-/

set_option autoImplicit false

namespace Highlight.Regex

namespace Node

/-- The numbers of the capturing groups of a node, in order. It goes through the node as the reader
does, so a group comes before those inside it. -/
def numbers (n : Node) : List Nat := n.captures.map (·.1)

section

variable (a b c : Node)

/-- A group comes before the groups in it. -/
@[simp] theorem numbers_capture (g : Nat) : (capture g a).numbers = g :: a.numbers := rfl

/-- In a sequence the groups of the first part come first. -/
@[simp] theorem numbers_seq : (seq a b).numbers = a.numbers ++ b.numbers := List.map_append

/-- In an alternation the groups of the first alternative come first, matched or not. -/
@[simp] theorem numbers_alt : (alt a b).numbers = a.numbers ++ b.numbers := List.map_append

/-- A repetition has the groups of its body once. -/
@[simp] theorem numbers_many (least : Nat) (most : Option Nat) (greedy : Bool) :
    (many a least most greedy).numbers = a.numbers := rfl

/-- A scope has no group of its own. -/
@[simp] theorem numbers_scope : (scope a).numbers = a.numbers := rfl

/-- An atomic group is none that captures. -/
@[simp] theorem numbers_atomic : (atomic a).numbers = a.numbers := rfl

/-- A look-ahead is none that captures. -/
@[simp] theorem numbers_ahead (positive : Bool) : (ahead positive a).numbers = a.numbers := rfl

/-- A look-behind is none that captures. -/
@[simp] theorem numbers_behind (positive : Bool) (reach : Reach) :
    (behind positive reach a).numbers = a.numbers := rfl

/-- In a conditional the groups of the test come first, and then those of its two branches. -/
@[simp] theorem numbers_cond :
    (cond a b c).numbers = a.numbers ++ b.numbers ++ c.numbers := by simp [numbers, captures]

/-- An absence operator is no group that captures. -/
@[simp] theorem numbers_absent : (absent a).numbers = a.numbers := rfl

/-- In an absence with a pattern, the groups of what is absent come first. -/
@[simp] theorem numbers_absentIn : (absentIn a b).numbers = a.numbers ++ b.numbers :=
  List.map_append

/-- Cutting off a text is no group that captures. -/
@[simp] theorem numbers_absentCut : (absentCut a).numbers = a.numbers := rfl

/-- The empty node has no groups. -/
@[simp] theorem numbers_empty : empty.numbers = [] := rfl

/-- The node that cannot match has no groups. -/
@[simp] theorem numbers_impossible : impossible.numbers = [] := rfl

/-- A string has no groups. -/
@[simp] theorem numbers_literal (cs : List Char) (fold : Bool) :
    (literal cs fold).numbers = [] := rfl

/-- Clearing a limit opens no group. -/
@[simp] theorem numbers_absentClear : absentClear.numbers = [] := rfl

/-- A set of characters has no groups. -/
@[simp] theorem numbers_set (s : CharSet) : (set s).numbers = [] := rfl

end

/-- The numbers of the capturing groups of several nodes, one node after another. -/
def numbersOf (ns : List Node) : List Nat := ns.flatMap numbers

/-- Of no nodes there are no groups. -/
@[simp] theorem numbersOf_nil : numbersOf [] = [] := rfl

/-- The groups of the first node come first. -/
@[simp] theorem numbersOf_cons (n : Node) (ns : List Node) :
    numbersOf (n :: ns) = n.numbers ++ numbersOf ns := rfl

/-- The groups of two rows of nodes are those of the first row and then those of the second. -/
@[simp] theorem numbersOf_append (ns ms : List Node) :
    numbersOf (ns ++ ms) = numbersOf ns ++ numbersOf ms := List.flatMap_append

/-- Putting nodes in a row keeps their groups. One node alone is left as it is. -/
@[simp] theorem numbers_ofSeq (ns : List Node) : (ofSeq ns).numbers = numbersOf ns := by
  induction ns with
  | nil => rfl
  | cons n ns ih =>
      cases ns with
      | nil => simp [ofSeq]
      | cons m ms => exact (numbers_seq n _).trans (congrArg (n.numbers ++ ·) ih)

/-- Making alternatives of nodes keeps their groups as well. -/
@[simp] theorem numbers_ofAlts (ns : List Node) : (ofAlts ns).numbers = numbersOf ns := by
  induction ns with
  | nil => rfl
  | cons n ns ih =>
      cases ns with
      | nil => simp [ofAlts]
      | cons m ms => exact (numbers_alt n _).trans (congrArg (n.numbers ++ ·) ih)

/-- Joining strings that stand next to each other keeps the groups, since strings have none. -/
@[simp] theorem numbersOf_joinLiterals (ns : List Node) :
    numbersOf (joinLiterals ns) = numbersOf ns := by
  induction ns with
  | nil => rfl
  | cons n ns ih =>
      unfold joinLiterals
      -- Either the rest begins with a string to join this node to, or the node stays as it is.
      split
      · rename_i hjoin
        rw [hjoin] at ih
        rw [numbersOf_cons, ← ih]
        split <;> simp
      · rw [numbersOf_cons, numbersOf_cons, ih]

end Node

/-! ### Groups that a node enters -/

namespace Node

/-- The groups of the node are in `G`, and its calls in `C`. The two sets are apart, since the
numbers of groups and of calls are of different kinds until calls are resolved. -/
def Enters (G C : Nat → Prop) : Node → Prop
  | seq a b | alt a b | absentIn a b => a.Enters G C ∧ b.Enters G C
  | many body _ _ _ | scope body | atomic body | ahead _ body | behind _ _ body
  | absent body | absentCut body => body.Enters G C
  | capture g body => G g ∧ body.Enters G C
  | call g => C g
  | cond test yes no => test.Enters G C ∧ yes.Enters G C ∧ no.Enters G C
  | _ => True

variable {G C : Nat → Prop}

/-- More groups and more calls may be allowed. -/
theorem Enters.mono {G' C' : Nat → Prop} {n : Node} (h : n.Enters G C) (hG : ∀ g, G g → G' g)
    (hC : ∀ k, C k → C' k) : n.Enters G' C' := by
  induction n <;> simp_all [Enters]

/-- The groups that a node enters are those that have a number in it. The calls are not among
them. -/
theorem enters_iff (n : Node) :
    n.Enters G C ↔ (∀ g ∈ n.numbers, G g) ∧ n.Enters (fun _ => True) C := by
  induction n <;> simp_all [Enters, numbers, captures, or_imp, forall_and] <;> grind

/-- A group in a node enters what the node does. -/
theorem enters_of_mem_captures {n body : Node} {g : Nat} (h : n.Enters G C)
    (hmem : (g, body) ∈ n.captures) : G g ∧ body.Enters G C := by
  induction n <;> simp_all [Enters, captures] <;> grind

/-- A row of nodes enters what its nodes do. A row of one node is that node, which is why the
induction asks for the second one. -/
theorem enters_ofSeq {ns : List Node} : (ofSeq ns).Enters G C ↔ ∀ n ∈ ns, n.Enters G C := by
  induction ns with
  | nil => simp [ofSeq, Enters]
  | cons n ns ih =>
      cases ns with
      | nil => simp [ofSeq]
      | cons m ms =>
          show n.Enters G C ∧ (ofSeq (m :: ms)).Enters G C ↔ _
          rw [ih, List.forall_mem_cons (a := n)]

/-- Alternatives enter what each of them does, whether or not it is the one that matches. It is the
same induction as for a row. -/
theorem enters_ofAlts {ns : List Node} : (ofAlts ns).Enters G C ↔ ∀ n ∈ ns, n.Enters G C := by
  induction ns with
  | nil => simp [ofAlts, Enters]
  | cons n ns ih =>
      cases ns with
      | nil => simp [ofAlts]
      | cons m ms =>
          show n.Enters G C ∧ (ofAlts (m :: ms)).Enters G C ↔ _
          rw [ih, List.forall_mem_cons (a := n)]

end Node

/-! ### Quantifiers -/

/-- One repetition inside another becomes a single one with the same body, or stays. -/
theorem numbers_nest (outer inner : Bounds) (body : Node) :
    (nest outer inner body).numbers = body.numbers := by
  unfold nest
  split
  · split <;> rfl
  · split <;> rfl

/-- The numbers in what becomes of a target: it stays, it is repeated as a whole, or only its last
part is. -/
def Quantify.numbers (target : Node) : Quantify → List Nat
  | same => target.numbers
  | whole n => n.numbers
  | split front last => front.numbers ++ last.numbers

/-- A quantifier does not change the groups of what it stands on. Only a string is taken apart, and
it has none. -/
theorem numbers_quantify (b : Bounds) (target : Node) (grouped : Bool) :
    (quantify b target grouped).numbers target = target.numbers := by
  unfold quantify
  split
  · rfl
  · cases target with
    | literal cs fold =>
        cases grouped with
        | true => rfl
        | false =>
            simp only [Bool.false_eq_true, if_false]
            split <;> rfl
    | many body least most greedy =>
        simp only
        split
        · rfl
        · exact numbers_nest _ _ _
    | _ => rfl

/-! ### Names -/

/-- A group has a name, by a list of names with their groups. A name may have several groups. -/
def Bears (names : List (List Char × List Nat)) (name : List Char) (k : Nat) : Prop :=
  ∃ e ∈ names, e.1 = name ∧ k ∈ e.2

/-- A list of names with their groups has each name once, and each group once. So a name leads to
all its groups, and a group to its only name. -/
structure Distinct (names : List (List Char × List Nat)) : Prop where
  once : (names.map (·.1)).Nodup
  groups : ∀ e ∈ names, e.2.Nodup
  apart : ∀ name name' k, Bears names name k → Bears names name' k → name = name'

/-- No name is listed twice where none is listed. -/
theorem distinct_nil : Distinct [] := by
  refine ⟨List.nodup_nil, fun e he => absurd he List.not_mem_nil, ?_⟩
  rintro name name' k ⟨e, he, _⟩ _
  exact absurd he List.not_mem_nil

/-! ### Groups -/

/-- The groups with a name have a number, and each is listed once under one name. Without named
groups there are no names. -/
structure Groups.Sound (g : Groups) : Prop where
  named : g.named = 0 → g.names = []
  bounds : ∀ name k, Bears g.names name k → 0 < k ∧ k ≤ g.count
  distinct : Distinct g.names

/-- More groups have been opened. A sound list of groups stays sound, and none is closed again. -/
structure Groups.Extends (g g' : Groups) : Prop where
  count_le : g.count ≤ g'.count
  sound : g.Sound → g'.Sound

namespace Groups

/-- Before the first group there are no names. -/
theorem sound_none : none.Sound := by
  refine ⟨fun _ => rfl, ?_, distinct_nil⟩
  rintro name k ⟨e, he, _⟩
  exact absurd he List.not_mem_nil

/-- If no group has been opened, nothing has changed. -/
theorem Extends.refl (g : Groups) : g.Extends g := ⟨Nat.le_refl _, id⟩

/-- Groups may be opened at two times. -/
theorem Extends.trans {g g' g'' : Groups} (h : g.Extends g') (h' : g'.Extends g'') :
    g.Extends g'' :=
  ⟨Nat.le_trans h.count_le h'.count_le, h'.sound ∘ h.sound⟩

/-- Opening a group without a name leaves the names as they are. -/
theorem extends_openPlain (g : Groups) : g.Extends g.openPlain := by
  refine ⟨Nat.le_succ _, fun h => ⟨h.named, fun name k hk => ?_, h.distinct⟩⟩
  have hbounds := h.bounds name k hk
  exact ⟨hbounds.1, Nat.le_succ_of_le hbounds.2⟩

/-- The name of a group that has been opened has this group last, after those that it had. All other
names are as before. -/
theorem mem_openNamed {g : Groups} {name : List Char} {e : List Char × List Nat}
    (he : e ∈ (g.openNamed name).names) :
    e ∈ g.names ∨ (e.1 = name ∧
      ∃ ks, e.2 = ks ++ [g.count + 1] ∧ (ks = [] ∨ (name, ks) ∈ g.names)) := by
  unfold openNamed at he
  simp only at he
  split at he
  · -- The name is known, and its entry gets one more number.
    obtain ⟨e', he', rfl⟩ := List.mem_map.mp he
    split
    · rename_i hname
      obtain rfl : e'.1 = name := by simpa using hname
      exact Or.inr ⟨rfl, e'.2, rfl, Or.inr he'⟩
    · exact Or.inl he'
  · -- The name is new, and gets an entry of its own.
    rcases List.mem_append.mp he with he | he
    · exact Or.inl he
    · rw [List.mem_singleton.mp he]
      exact Or.inr ⟨rfl, [], rfl, Or.inl rfl⟩

/-- Opening a group with a name gives this group its name, and no other group another one. A name
may be given again, and then it has several groups. -/
theorem bears_of_openNamed {g : Groups} {name name' : List Char} {k : Nat}
    (h : Bears (g.openNamed name).names name' k) :
    Bears g.names name' k ∨ (name' = name ∧ k = g.count + 1) := by
  obtain ⟨e, he, rfl, hk⟩ := h
  rcases mem_openNamed he with he | ⟨hname, ks, hks, hold⟩
  · exact Or.inl ⟨e, he, rfl, hk⟩
  · rw [hks] at hk
    rcases List.mem_append.mp hk with hk | hk
    · rcases hold with rfl | hold
      · exact absurd hk List.not_mem_nil
      · exact Or.inl ⟨(name, ks), hold, hname.symm, hk⟩
    · exact Or.inr ⟨hname, List.mem_singleton.mp hk⟩

/-- A name that is there already is not listed again, but gets one more group. So a look-up by name
finds all groups of that name in one entry. -/
theorem nodup_names_openNamed {g : Groups} (name : List Char)
    (h : (g.names.map (·.1)).Nodup) : ((g.openNamed name).names.map (·.1)).Nodup := by
  unfold openNamed
  simp only
  split
  · rw [List.map_map]
    -- Only numbers change where the name is known, and no name.
    have hsame : ∀ e ∈ g.names,
        ((·.1) ∘ fun e : List Char × List Nat =>
          if e.1 == name then (e.1, e.2 ++ [g.count + 1]) else e) e = e.1 := by
      intro e _
      show (if e.1 == name then (e.1, e.2 ++ [g.count + 1]) else e).1 = e.1
      split <;> rfl
    rw [List.map_congr_left hsame]
    exact h
  · rename_i hnew
    rw [List.map_append, List.nodup_append]
    refine ⟨h, List.nodup_singleton _, ?_⟩
    rintro n hn n' hn' rfl
    obtain rfl := List.mem_singleton.mp hn'
    obtain ⟨e, he, hname⟩ := List.mem_map.mp hn
    exact hnew (List.any_eq_true.mpr ⟨e, he, by simpa using hname⟩)

/-- Opening a group with a name keeps the list sound: the group is new, so it is listed nowhere
else. -/
theorem extends_openNamed (g : Groups) (name : List Char) : g.Extends (g.openNamed name) := by
  refine ⟨Nat.le_succ _, fun h => ⟨fun hnamed => absurd hnamed (Nat.succ_ne_zero _), ?_, ?_⟩⟩
  · intro n k hk
    rcases bears_of_openNamed hk with hk | ⟨_, rfl⟩
    · have hbounds := h.bounds n k hk
      exact ⟨hbounds.1, Nat.le_succ_of_le hbounds.2⟩
    · exact ⟨Nat.succ_pos _, Nat.le_refl _⟩
  · -- The number of the new group is greater than those of all others.
    have hfresh : ∀ n, ¬ Bears g.names n (g.count + 1) := fun n hn =>
      Nat.not_succ_le_self _ (h.bounds n _ hn).2
    refine ⟨nodup_names_openNamed name h.distinct.once, ?_, ?_⟩
    · intro e he
      rcases mem_openNamed he with he | ⟨_, ks, hks, hold⟩
      · exact h.distinct.groups e he
      · rw [hks]
        rcases hold with rfl | hold
        · exact List.nodup_singleton _
        · rw [List.nodup_append]
          refine ⟨h.distinct.groups _ hold, List.nodup_singleton _, ?_⟩
          rintro k hk k' hk' rfl
          obtain rfl := List.mem_singleton.mp hk'
          exact hfresh name ⟨_, hold, rfl, hk⟩
    · intro n n' k hk hk'
      rcases bears_of_openNamed hk with hold | ⟨hn, hnew⟩
      · rcases bears_of_openNamed hk' with hold' | ⟨_, hnew'⟩
        · exact h.distinct.apart n n' k hold hold'
        · exact absurd (hnew' ▸ hold) (hfresh n)
      · rcases bears_of_openNamed hk' with hold' | ⟨hn', _⟩
        · exact absurd (hnew ▸ hold') (hfresh n')
        · exact hn.trans hn'.symm

end Groups

end Highlight.Regex
