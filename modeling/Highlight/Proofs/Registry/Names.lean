import Highlight.Proofs.Registry.Bindings
import Highlight.Proofs.Registry.History

/-!
# `Highlight.Proofs.Registry.Names`: languages that lose their names

The name of a language is bound when the language is added, but it does not stay with it. A later
language may have it as another name, or it is given away as one, and then it stands for the other
language. When that one is replaced, all names that stand for it are unbound (`Registry.Drops`),
whomever they belonged to. The first language is still listed, and its name leads nowhere.

`contains_listed_iff` is the main statement. This is the only way in which a listed name gets lost,
and the name stays lost until an operation binds it again (`Registry.Lost`). `not_contains_listed`
is the shortest such run.

`after_cases` says once what an operation does to the languages and their names, and
`contains_after` what that means for one name. The main statement follows by induction on the
operations, the last one first.
-/

set_option autoImplicit false

namespace Highlight

/-- The language that an operation adds. A file has one only if it defines one, so this reads the
file. -/
def Operation.language? : Operation → Option Language
  | addLanguage l => some l
  | addFile f => (Definition.ofFile f >>= fun d => d.toLanguage).toOption
  | addPlain aliases => some ((Language.empty Registry.plainName).withAliases aliases)
  | _ => none

namespace Registry

variable {r : Registry} {n : String}

/-! ### One operation -/

/-- An operation adds a language, gives another name to one, or leaves the languages and their
names as they are. -/
theorem after_cases (h : r.Consistent) (op : Operation) :
    (∃ l, op.language? = some l ∧ r.after op = r.addLanguage l) ∨
    (∃ name other, op = .addAlias name other ∧ r.after op = r.addAlias name other) ∨
    (op.language? = none ∧ (∀ name other, op ≠ .addAlias name other) ∧
      SameLanguages (r.after op) r) := by
  cases op with
  | addLanguage l => exact Or.inl ⟨l, rfl, rfl⟩
  | addFile f =>
      have hlanguage : (Operation.addFile f).language?
          = (Definition.ofFile f >>= fun d => d.toLanguage).toOption := rfl
      rw [after_addFile_eq]
      cases hf : Definition.ofFile f >>= fun d => d.toLanguage with
      | error e =>
          rw [hf] at hlanguage
          exact Or.inr (Or.inr ⟨hlanguage, fun _ _ => Operation.noConfusion, .refl r⟩)
      | ok l =>
          rw [hf] at hlanguage
          exact Or.inl ⟨l, hlanguage, rfl⟩
  | addPlain aliases => exact Or.inl ⟨_, rfl, rfl⟩
  | addAlias name other => exact Or.inr (Or.inl ⟨name, other, rfl, rfl⟩)
  | styler name options =>
      exact Or.inr (Or.inr
        ⟨rfl, fun _ _ => Operation.noConfusion, (styler_spec h name options).2.1⟩)
  | style text name options =>
      exact Or.inr (Or.inr
        ⟨rfl, fun _ _ => Operation.noConfusion, (style_spec h text name options).2.1⟩)

/-! ### Names after an operation -/

/-- The slot that a language takes: that of the language with its name, or a new one. -/
def slotFor (r : Registry) (l : Language) : Nat := (r.slotOf? l.name).getD r.languages.length

/-- A language binds its names. Of the others, those go that stand for the language that it
replaces. -/
theorem find?_addLanguage (h : r.names.Distinct) (l : Language) (name : String) :
    (r.addLanguage l).names.find? name
      = if name = l.name ∨ name ∈ l.aliases then some (r.slotFor l)
        else if r.names.find? name = r.slotOf? l.name then none
        else r.names.find? name := by
  unfold addLanguage slotFor
  cases hslot : r.slotOf? l.name with
  | some slot =>
      -- Old names of the slot go first, then the new ones are bound, its own name last.
      show (((r.names.unbindSlot slot).bindAll l.aliases slot).bind l.name slot).find? name = _
      rw [Bindings.find?_bind, Bindings.find?_bindAll, Bindings.find?_unbindSlot h]
      by_cases hname : name = l.name <;> by_cases halias : name ∈ l.aliases <;>
        simp [hname, halias]
  | none =>
      show ((r.names.bindAll l.aliases r.languages.length).bind l.name _).find? name = _
      rw [Bindings.find?_bind, Bindings.find?_bindAll]
      by_cases hname : name = l.name <;> by_cases halias : name ∈ l.aliases <;>
        simp [hname, halias]

/-- Another name stands for what the name does that it is another name of. If that is not bound,
nothing changes. -/
theorem find?_addAlias (name other : String) :
    (r.addAlias name other).names.find? n
      = if n = other ∧ r.contains name then r.names.find? name else r.names.find? n := by
  unfold addAlias contains
  cases hname : r.names.find? name with
  | some slot =>
      show (r.names.bind other slot).find? n = _
      rw [Bindings.find?_bind]
      simp
  | none => simp

/-- Adding a language lists no name twice, even if it declares one twice. -/
theorem distinct_addLanguage (h : r.names.Distinct) (l : Language) :
    (r.addLanguage l).names.Distinct := by
  unfold addLanguage
  split
  · exact Bindings.distinct_bind (Bindings.distinct_bindAll (Bindings.distinct_unbindSlot h))
  · exact Bindings.distinct_bind (Bindings.distinct_bindAll h)

/-- Giving another name lists no name twice. -/
theorem distinct_addAlias (h : r.names.Distinct) (name other : String) :
    (r.addAlias name other).names.Distinct := by
  unfold addAlias
  split
  · exact Bindings.distinct_bind h
  · exact h

/-- No operation lists a name twice. There is one case for languages and one for names given later,
and the other operations leave the names alone. -/
theorem distinct_after (hr : r.Consistent) (h : r.names.Distinct) (op : Operation) :
    (r.after op).names.Distinct := by
  rcases after_cases hr op with ⟨l, _, hafter⟩ | ⟨name, other, _, hafter⟩ | ⟨_, _, hsame⟩
  · rw [hafter]
    exact distinct_addLanguage h l
  · rw [hafter]
    exact distinct_addAlias h name other
  · rw [hsame.names]
    exact h

/-- An operation makes a name stand for a language. It may be a language that is added with this
name, or one that is given it. -/
def Binds (r : Registry) (n : String) (op : Operation) : Prop :=
  (∃ l, op.language? = some l ∧ (n = l.name ∨ n ∈ l.aliases)) ∨
  ∃ name, op = .addAlias name n ∧ r.contains name

/-- An operation replaces the language that a name stands for by one that does not have that name.
Whether the name is that language's own does not matter. -/
def Drops (r : Registry) (n : String) (op : Operation) : Prop :=
  ∃ l slot, op.language? = some l ∧ n ≠ l.name ∧ n ∉ l.aliases ∧
    r.slotOf? l.name = some slot ∧ r.names.find? n = some slot

section

variable {op : Operation} {l : Language}

/-- A language is added under all its names, its own and the others. An operation that gives a name
binds one as well, but it adds no language, so `hl` excludes it. -/
theorem binds_iff (hl : op.language? = some l) :
    r.Binds n op ↔ n = l.name ∨ n ∈ l.aliases := by
  constructor
  · rintro (⟨l', hl', hn⟩ | ⟨name, rfl, _⟩)
    · obtain rfl : l = l' := Option.some.inj (hl.symm.trans hl')
      exact hn
    · cases hl
  · exact fun hn => Or.inl ⟨l, hl, hn⟩

/-- A language drops the names that stand for the slot that it takes, but for its own. If it takes a
new slot there are none. -/
theorem drops_iff (hl : op.language? = some l) :
    r.Drops n op ↔ ¬ (n = l.name ∨ n ∈ l.aliases) ∧
      ∃ slot, r.slotOf? l.name = some slot ∧ r.names.find? n = some slot := by
  constructor
  · rintro ⟨l', slot, hl', hname, halias, hslot⟩
    obtain rfl : l = l' := Option.some.inj (hl.symm.trans hl')
    exact ⟨fun hn => hn.elim hname halias, slot, hslot⟩
  · rintro ⟨hn, slot, hslot⟩
    exact ⟨l, slot, hl, fun h => hn (Or.inl h), fun h => hn (Or.inr h), hslot⟩

/-- Only an operation with a language drops names. -/
theorem not_drops (hnone : op.language? = none) : ¬ r.Drops n op := by
  rintro ⟨_, _, hl, _⟩
  rw [hnone] at hl
  cases hl

/-- An operation that drops a name does not bind it. -/
theorem Drops.not_binds (h : r.Drops n op) : ¬ r.Binds n op := by
  have hdrops := h
  obtain ⟨l, _, hl, _⟩ := h
  rw [binds_iff hl]
  exact ((drops_iff hl).mp hdrops).1

/-- What an operation does to one name: it can be found afterwards if the operation binds it, or if
it could be found before and is not dropped. -/
theorem contains_after (hr : r.Consistent) (h : r.names.Distinct) (op : Operation) :
    (r.after op).contains n ↔ r.Binds n op ∨ (r.contains n ∧ ¬ r.Drops n op) := by
  unfold contains
  rcases after_cases hr op with ⟨l, hl, hafter⟩ | ⟨name, other, rfl, hafter⟩ |
    ⟨hnone, halias, hsame⟩
  · rw [hafter, find?_addLanguage h, binds_iff hl, drops_iff hl]
    by_cases hn : n = l.name ∨ n ∈ l.aliases
    · simp [hn]
    · cases hfind : r.names.find? n with
      | none => simp [hn]
      | some slot =>
          -- The name goes if it stands for the slot that the language takes.
          by_cases hslot : some slot = r.slotOf? l.name
          · simp [hn, ← hslot]
          · have hother : ¬ r.slotOf? l.name = some slot := fun heq => hslot heq.symm
            simp [hn, hslot, hother]
  · have hbinds : r.Binds n (.addAlias name other) ↔ n = other ∧ r.contains name := by
      constructor
      · rintro (⟨_, hl, _⟩ | ⟨_, heq, hname⟩)
        · cases hl
        · cases heq
          exact ⟨rfl, hname⟩
      · rintro ⟨rfl, hname⟩
        exact Or.inr ⟨name, rfl, hname⟩
    have hdrops : ¬ r.Drops n (.addAlias name other) := not_drops rfl
    rw [hafter, find?_addAlias, hbinds]
    by_cases hn : n = other ∧ r.contains name
    · rw [if_pos hn]
      exact iff_of_true hn.2 (Or.inl hn)
    · simp [hn, hdrops]
  · have hdrops : ¬ r.Drops n op := not_drops hnone
    have hbinds : ¬ r.Binds n op := by
      rintro (⟨_, hl, _⟩ | ⟨name, rfl, _⟩)
      · rw [hnone] at hl
        cases hl
      · exact halias name n rfl
    rw [hsame.names]
    simp [hdrops, hbinds]

end

/-! ### Listed languages -/

/-- The names that are listed are those of the languages. Sorting them adds and loses none. -/
theorem mem_languageNames : n ∈ r.languageNames ↔ n ∈ r.languages.map (·.name) := by
  unfold languageNames
  exact List.mem_mergeSort

/-- The languages have the same names after one of them has been replaced. Otherwise the new name
comes last. -/
theorem map_name_addLanguage (l : Language) :
    (r.addLanguage l).languages.map (·.name)
      = if (r.slotOf? l.name).isSome then r.languages.map (·.name)
        else r.languages.map (·.name) ++ [l.name] := by
  unfold addLanguage
  cases hslot : r.slotOf? l.name with
  | some slot =>
      obtain ⟨hlt, hname, _⟩ := List.findIdx?_eq_some_iff_getElem.mp hslot
      have hlt' : slot < (r.languages.map (·.name)).length := by
        rwa [List.length_map]
      -- The language that is replaced has the name of the new one, so the list of names does not
      -- change.
      have hslotName : l.name = (r.languages.map (·.name))[slot] := by
        rw [List.getElem_map]
        exact (beq_iff_eq.mp hname).symm
      show (r.languages.set slot l).map (·.name) = _
      rw [List.map_set, hslotName, List.set_getElem_self hlt']
      rfl
  | none => simp [bindLanguage]

/-- The languages that have been added are listed, and stay listed. They are replaced by languages
of the same name only, and never taken out. -/
theorem mem_languageNames_after (hr : r.Consistent) (op : Operation) :
    n ∈ (r.after op).languageNames ↔
      n ∈ r.languageNames ∨ ∃ l, op.language? = some l ∧ n = l.name := by
  rw [mem_languageNames, mem_languageNames]
  rcases after_cases hr op with ⟨l, hl, hafter⟩ | ⟨name, other, rfl, hafter⟩ | ⟨hnone, _, hsame⟩
  · have hadded : (∃ l', op.language? = some l' ∧ n = l'.name) ↔ n = l.name := by
      rw [hl]
      simp
    rw [hafter, map_name_addLanguage, hadded]
    split
    · rename_i hslot
      -- A language with that name is listed already.
      obtain ⟨slot, hslot⟩ := Option.isSome_iff_exists.mp hslot
      obtain ⟨hlt, hname, _⟩ := List.findIdx?_eq_some_iff_getElem.mp hslot
      have hmem : l.name ∈ r.languages.map (·.name) :=
        List.mem_map.mpr ⟨_, List.getElem_mem hlt, beq_iff_eq.mp hname⟩
      exact ⟨Or.inl, fun h => h.elim id fun heq => heq ▸ hmem⟩
    · simp
  · have hsame : (r.addAlias name other).languages = r.languages := by
      unfold addAlias
      split <;> rfl
    rw [hafter, hsame]
    simp [Operation.language?]
  · rw [hsame.languages, hnone]
    simp

/-! ### Runs -/

/-- After any operations no name is listed twice. -/
theorem distinct_afterAll (ops : List Operation) : (afterAll ops).names.Distinct := by
  induction ops using List.reverseRecOn with
  | nil => exact Bindings.distinct_empty
  | append_singleton ops op ih =>
      rw [afterAll_concat]
      exact distinct_after (consistent_afterAll ops) ih op

/-- In the course of operations, a name has been dropped and not been bound since. -/
def Lost (n : String) (ops : List Operation) : Prop :=
  Since (fun r op => r.Drops n op) (fun r op => r.Binds n op) ops

/-- A name is lost with the last operation, or before it and is not found with it. -/
theorem lost_concat (ops : List Operation) (op : Operation) :
    Lost n (ops ++ [op]) ↔
      (afterAll ops).Drops n op ∨ (Lost n ops ∧ ¬ (afterAll ops).Binds n op) :=
  since_concat _ _ ops op

/-- A listed name is bound unless it got lost. The induction is on the operations, the last one
first. -/
theorem contains_iff_not_lost (ops : List Operation) (hn : n ∈ (afterAll ops).languageNames) :
    (afterAll ops).contains n ↔ ¬ Lost n ops := by
  induction ops using List.reverseRecOn with
  | nil =>
      rw [mem_languageNames] at hn
      exact absurd hn List.not_mem_nil
  | append_singleton ops op ih =>
      have hr := consistent_afterAll ops
      rw [afterAll_concat] at hn ⊢
      rw [contains_after hr (distinct_afterAll ops), lost_concat]
      by_cases hbinds : (afterAll ops).Binds n op
      · have hkept : ¬ (afterAll ops).Drops n op := fun h => h.not_binds hbinds
        simp [hbinds, hkept]
      · -- The name was listed before, since the operation does not add a language of that name.
        have hlisted : n ∈ (afterAll ops).languageNames := by
          refine ((mem_languageNames_after hr op).mp hn).resolve_right ?_
          rintro ⟨l, hl, hname⟩
          exact hbinds ((binds_iff hl).mpr (Or.inl hname))
        rw [ih hlisted]
        by_cases hdrops : (afterAll ops).Drops n op <;> simp [hbinds, hdrops]

/-- Asking for a styler fails for lack of a language only if there is none. A language that is there
is blamed in another way. -/
theorem styler_eq_unknown (h : r.Consistent) (name : String) (options : Options) :
    (r.styler name options).1 = .error (.unknownLanguage name) ↔
      ¬ r.contains name ∧ ¬ (options.toPlain ∧ r.contains plainName) := by
  rw [← current?_eq_none_iff h]
  have hpattern := (styler_spec h name options).1
  -- Without a language the name is unknown. With one, any error is of its compilation, and none of
  -- those says so.
  cases hl : r.current? name options with
  | none =>
      rw [hl] at hpattern
      cases hstyler : (r.styler name options).1 with
      | error e =>
          rw [hstyler] at hpattern
          cases hpattern
          simp
      | ok s =>
          rw [hstyler] at hpattern
          cases hpattern
  | some l =>
      rw [hl] at hpattern
      simp only [reduceCtorEq, iff_false]
      intro herror
      rw [herror] at hpattern
      exact Pattern.ofLanguage_eq_error hpattern.symm

end Registry

/-- After any operations, a language that is listed can be found under its name unless the name
got lost. A styler for the name fails for lack of a language if and only if the name got lost and
the plain language does not stand in for it. -/
theorem contains_listed_iff (ops : List Operation) (n : String)
    (hn : n ∈ (Registry.afterAll ops).languageNames) :
    ((Registry.afterAll ops).contains n ↔ ¬ Registry.Lost n ops) ∧
    ∀ options, ((Registry.afterAll ops).styler n options).1 = .error (.unknownLanguage n) ↔
      Registry.Lost n ops ∧
        ¬ (options.toPlain ∧ (Registry.afterAll ops).contains Registry.plainName) := by
  have hiff := Registry.contains_iff_not_lost ops hn
  refine ⟨hiff, fun options => ?_⟩
  rw [Registry.styler_eq_unknown (Registry.consistent_afterAll ops), hiff, not_not]

/-- A name is given away, and the language that has it now is replaced. Both languages are listed
afterwards. -/
def takeover : List Operation :=
  [.addLanguage (.empty "bash"), .addLanguage ((Language.empty "sh").withAliases ["bash"]),
    .addLanguage (.empty "sh")]

/-- A name that is bound again is no longer lost, here by giving it to another language. -/
theorem contains_listed_again :
    "bash" ∈ (Registry.afterAll (takeover ++ [.addAlias "sh" "bash"])).languageNames ∧
      ¬ Registry.Lost "bash" (takeover ++ [.addAlias "sh" "bash"]) := by
  have hn : "bash" ∈ (Registry.afterAll (takeover ++ [.addAlias "sh" "bash"])).languageNames := by
    rw [Registry.mem_languageNames]
    decide
  exact ⟨hn, (contains_listed_iff _ _ hn).1.mp (by decide)⟩

/-- A language can be listed and not be found under its name. The run has three operations, and it
takes no less. -/
theorem not_contains_listed : ¬ ∀ (ops : List Operation) (n : String),
    n ∈ (Registry.afterAll ops).languageNames →
    (Registry.afterAll ops).contains n ∧
      ∀ options, ((Registry.afterAll ops).styler n options).1 ≠ .error (.unknownLanguage n) := by
  intro h
  have hn : "bash" ∈ (Registry.afterAll takeover).languageNames := by
    rw [Registry.mem_languageNames]
    decide
  exact absurd (h takeover "bash" hn).1 (by decide)

end Highlight
