import Highlight.Proofs.Except
import Highlight.Proofs.Registry.Slots

/-!
# `Highlight.Proofs.Registry.Sharing`: which stylers share a pattern

Each compilation has a ticket of its own, and the pattern is kept in the slot of its language until
another language is put there. `sharesPattern_iff` is the main statement. Two stylers of one run
share a pattern exactly if they were asked for in the same slot and no language has been put there
in between. The slots with a pattern are those that a styler was asked for in, and whose language
compiles, since the slot was filled last.

`styler_cases` says once what asking for a styler does: it fails and changes nothing, it gives what
is kept, or it compiles and takes a new ticket. `compiled_after_cases` has the same for all
operations. From there on a pattern has one of two fates. It is `Kept` in its slot, or `Retired`: it
is in no slot, and since no ticket is given out twice, it never will be.
-/

set_option autoImplicit false

namespace Highlight

/-- What an operation asks for a styler with. A styling asks for one as well, and uses it. -/
def Operation.request? : Operation → Option (String × Options)
  | styler name options | style _ name options => some (name, options)
  | _ => none

namespace Registry

variable {r : Registry} {op : Operation} {slot : Nat} {s s' : Styler} {name : String}
  {options : Options}

/-! ### One operation -/

/-- The language in a slot compiles, whether or not it has been compiled. -/
def Compilable (r : Registry) (slot : Nat) : Prop :=
  ∃ l p, r.languageAt? slot = some l ∧ Pattern.ofLanguage l = .ok p

/-- An operation asks for a styler in a slot whose language compiles. If the pattern is kept
already, it counts as well. -/
def Compiles (r : Registry) (slot : Nat) (op : Operation) : Prop :=
  ∃ name options, op.request? = some (name, options) ∧ r.resolve name options = .ok slot ∧
    r.Compilable slot

/-- The registry with a pattern that has just been compiled for a slot. Its ticket is the next one,
which no other pattern has. -/
def keep (r : Registry) (slot : Nat) (p : Pattern) : Registry :=
  { r with compiled := (slot, ⟨r.nextTicket, p⟩) :: r.compiled, nextTicket := r.nextTicket + 1 }

/-- Asking for a styler fails and changes nothing, or gives the styler that is kept, or compiles the
language in the slot and keeps the pattern with a new ticket. -/
theorem styler_cases (h : r.Consistent) (name : String) (options : Options) :
    (∃ e, r.styler name options = (.error e, r) ∧
      ∀ slot, r.resolve name options = .ok slot → ¬ r.Compilable slot) ∨
    (∃ slot s, r.resolve name options = .ok slot ∧ r.compiled.lookup slot = some s ∧
      r.styler name options = (.ok s, r)) ∨
    (∃ slot p, r.resolve name options = .ok slot ∧ r.compiled.lookup slot = none ∧
      r.Compilable slot ∧ r.styler name options = (.ok ⟨r.nextTicket, p⟩, r.keep slot p)) := by
  unfold styler
  rcases resolve_spec h name options with ⟨slot, l, hslot, hl, _⟩ | ⟨herror, _⟩
  · rw [hslot]
    simp only [hl, stylerAt]
    cases hs : r.compiled.lookup slot with
    | some s => exact Or.inr (Or.inl ⟨slot, s, rfl, hs, rfl⟩)
    | none =>
        cases hp : Pattern.ofLanguage l with
        | error e =>
            -- The language does not compile, and it is the one in the slot, so the slot has no
            -- pattern to come.
            refine Or.inl ⟨e, rfl, ?_⟩
            rintro slot' hslot' ⟨l', p, hl', hp'⟩
            cases hslot'
            obtain rfl : l = l' := Option.some.inj (hl.symm.trans hl')
            rw [hp] at hp'
            cases hp'
        | ok p => exact Or.inr (Or.inr ⟨slot, p, rfl, hs, ⟨l, p, hl, hp⟩, rfl⟩)
  · rw [herror]
    exact Or.inl ⟨_, rfl, fun slot hslot => by cases hslot⟩

/-- A styling leaves behind what asking for its styler does. What the styler is then used for does
not change the registry. -/
theorem after_of_request? (hop : op.request? = some (name, options)) :
    r.after op = (r.styler name options).2 := by
  cases op with
  | styler name' options' =>
      cases hop
      rfl
  | style text name' options' =>
      cases hop
      show (r.style text name options).2 = _
      unfold style
      cases r.styler name options with
      | mk result r' => cases result <;> rfl
  | addLanguage l => cases hop
  | addFile f => cases hop
  | addPlain aliases => cases hop
  | addAlias name' other => cases hop

/-- A language takes the pattern of its slot away. A new slot has none, so that the same can be said
in both cases. -/
theorem compiled_addLanguage (h : r.Consistent) (l : Language) :
    (r.addLanguage l).compiled = r.compiled.filter fun e => e.1 != r.slotFor l := by
  unfold addLanguage slotFor
  cases r.slotOf? l.name with
  | some slot => rfl
  | none =>
      refine (List.filter_eq_self.mpr fun e he => ?_).symm
      simpa using Nat.ne_of_lt (h.lt_of_mem_compiled he)

/-- Adding a language gives out no ticket. -/
theorem nextTicket_addLanguage (l : Language) :
    (r.addLanguage l).nextTicket = r.nextTicket := by
  unfold addLanguage
  split <;> rfl

/-- An operation that neither adds a language nor asks for a styler leaves the patterns alone. What
is left are names that are given, and files that define no language. -/
theorem compiled_after_of_none (hl : op.language? = none) (hop : op.request? = none) :
    (r.after op).compiled = r.compiled ∧ (r.after op).nextTicket = r.nextTicket := by
  cases op with
  | addFile f =>
      have hlanguage : (Operation.addFile f).language?
          = (Definition.ofFile f >>= fun d => d.toLanguage).toOption := rfl
      rw [after_addFile_eq]
      cases hf : Definition.ofFile f >>= fun d => d.toLanguage with
      | error e => exact ⟨rfl, rfl⟩
      | ok l =>
          -- A file that defines a language would add it, which `hl` excludes.
          rw [hl, hf] at hlanguage
          cases hlanguage
  | addAlias name other =>
      show (r.addAlias name other).compiled = _ ∧ (r.addAlias name other).nextTicket = _
      unfold addAlias
      split <;> exact ⟨rfl, rfl⟩
  | addLanguage l => cases hl
  | addPlain aliases => cases hl
  | styler name options => cases hop
  | style text name options => cases hop

/-- An operation that adds a language asks for no styler. So no operation both takes a pattern away
and keeps one. -/
theorem request?_of_language? {l : Language} (hl : op.language? = some l) :
    op.request? = none := by
  cases op with
  | styler name options => cases hl
  | style text name options => cases hl
  | addLanguage l => rfl
  | addFile f => rfl
  | addPlain aliases => rfl
  | addAlias name other => rfl

/-- An operation compiles the language of the slot that it asks in, if it compiles. A slot that has
a pattern already is included, as compiling its language again would change nothing. -/
theorem compiles_iff (hop : op.request? = some (name, options)) :
    r.Compiles slot op ↔ r.resolve name options = .ok slot ∧ r.Compilable slot := by
  constructor
  · rintro ⟨name', options', hop', hslot⟩
    rw [hop] at hop'
    cases hop'
    exact hslot
  · exact fun hslot => ⟨name, options, hop, hslot⟩

/-- An operation that asks for no styler compiles nothing. -/
theorem not_compiles (hop : op.request? = none) : ¬ r.Compiles slot op := by
  rintro ⟨name, options, hop', _⟩
  rw [hop] at hop'
  cases hop'

/-- What an operation does to the kept patterns: a language takes that of its slot away, a styler
may bring a new one, and all else leaves them alone. -/
theorem compiled_after_cases (h : r.Consistent) (op : Operation) :
    (∃ l, op.language? = some l ∧ (∀ slot, ¬ r.Compiles slot op) ∧
      (r.after op).compiled = r.compiled.filter (fun e => e.1 != r.slotFor l) ∧
      (r.after op).nextTicket = r.nextTicket) ∨
    (∃ slot p, op.language? = none ∧ (∀ slot', r.Compiles slot' op ↔ slot' = slot) ∧
      r.compiled.lookup slot = none ∧
      (r.after op).compiled = (slot, ⟨r.nextTicket, p⟩) :: r.compiled ∧
      (r.after op).nextTicket = r.nextTicket + 1) ∨
    (op.language? = none ∧ (∀ slot, r.Compiles slot op → (r.compiled.lookup slot).isSome) ∧
      (r.after op).compiled = r.compiled ∧ (r.after op).nextTicket = r.nextTicket) := by
  cases hl : op.language? with
  | some l =>
      -- A language is added, so no pattern is compiled, and the one of its slot is given up.
      rw [after_of_language? h hl]
      exact Or.inl ⟨l, rfl, fun slot => not_compiles (request?_of_language? hl),
        compiled_addLanguage h l, nextTicket_addLanguage l⟩
  | none =>
      refine Or.inr ?_
      cases hop : op.request? with
      | none =>
          exact Or.inr ⟨rfl, fun slot hslot => absurd hslot (not_compiles hop),
            compiled_after_of_none hl hop⟩
      | some request =>
          obtain ⟨name, options⟩ := request
          rw [after_of_request? hop]
          rcases styler_cases h name options with ⟨e, hstyler, hnot⟩ |
            ⟨slot, s, hslot, hs, hstyler⟩ | ⟨slot, p, hslot, hs, hcompiles, hstyler⟩
          · rw [hstyler]
            -- The request fails, and nothing is kept.
            refine Or.inr ⟨rfl, fun slot hc => ?_, rfl, rfl⟩
            obtain ⟨hslot, hcompiles⟩ := (compiles_iff hop).mp hc
            exact absurd hcompiles (hnot slot hslot)
          · rw [hstyler]
            -- The pattern was kept before.
            refine Or.inr ⟨rfl, fun slot' hc => ?_, rfl, rfl⟩
            obtain ⟨hslot', _⟩ := (compiles_iff hop).mp hc
            obtain rfl : slot = slot' := Except.ok.inj (hslot.symm.trans hslot')
            rw [hs]
            rfl
          · rw [hstyler]
            -- It is compiled now, with the next ticket.
            refine Or.inl ⟨slot, p, rfl, fun slot' => ?_, hs, rfl, rfl⟩
            rw [compiles_iff hop, hslot]
            constructor
            · exact fun hc => (Except.ok.inj hc.1).symm
            · rintro rfl
              exact ⟨rfl, hcompiles⟩

/-! ### Tickets -/

/-- Each slot has one pattern at most, and each pattern a ticket of its own that has been given
out. -/
structure Ticketed (r : Registry) : Prop where
  slots : (r.compiled.map (·.1)).Nodup
  tickets : (r.compiled.map (·.2.ticket)).Nodup
  below : ∀ e ∈ r.compiled, e.2.ticket < r.nextTicket

/-- Each operation keeps patterns and tickets apart. A slot gets a pattern only if it has none, and
a ticket is given out once. -/
theorem ticketed_after (hr : r.Consistent) (h : r.Ticketed) (op : Operation) :
    (r.after op).Ticketed := by
  -- A language takes a pattern away, a styler brings a new one, or nothing changes.
  rcases compiled_after_cases hr op with ⟨l, _, _, hcompiled, hnext⟩ |
    ⟨slot, p, _, _, hnone, hcompiled, hnext⟩ | ⟨_, _, hcompiled, hnext⟩
  · constructor
    · rw [hcompiled]
      exact h.slots.sublist (List.filter_sublist.map _)
    · rw [hcompiled]
      exact h.tickets.sublist (List.filter_sublist.map _)
    · rw [hcompiled, hnext]
      exact fun e he => h.below e (List.mem_of_mem_filter he)
  · constructor
    · rw [hcompiled, List.map_cons, List.nodup_cons]
      refine ⟨fun hmem => ?_, h.slots⟩
      obtain ⟨e, he, heq⟩ := List.mem_map.mp hmem
      have hne := List.lookup_eq_none_iff.mp hnone e he
      simp [heq] at hne
    · -- The new ticket is greater than all that have been given out.
      rw [hcompiled, List.map_cons, List.nodup_cons]
      refine ⟨fun hmem => ?_, h.tickets⟩
      obtain ⟨e, he, heq⟩ := List.mem_map.mp hmem
      exact Nat.ne_of_lt (h.below e he) heq
    · rw [hcompiled, hnext]
      intro e he
      rcases List.mem_cons.mp he with rfl | he
      · exact Nat.lt_succ_self _
      · exact Nat.lt_succ_of_lt (h.below e he)
  · constructor
    · rw [hcompiled]
      exact h.slots
    · rw [hcompiled]
      exact h.tickets
    · rw [hcompiled, hnext]
      exact h.below

/-- After any operations each slot has one pattern at most, with a ticket of its own. -/
theorem ticketed_afterAll (ops : List Operation) : (afterAll ops).Ticketed := by
  induction ops using List.reverseRecOn with
  | nil => exact ⟨List.nodup_nil, List.nodup_nil, fun _ he => absurd he List.not_mem_nil⟩
  | append_singleton ops op ih =>
      rw [afterAll_concat]
      exact ticketed_after (consistent_afterAll ops) ih op

/-- What is kept for a slot is among the kept patterns. -/
theorem mem_of_lookup (h : r.compiled.lookup slot = some s) : (slot, s) ∈ r.compiled := by
  obtain ⟨before, after, hentries, _⟩ := List.lookup_eq_some_iff.mp h
  rw [hentries]
  simp

/-- A ticket tells the slot and the pattern. So two stylers with the same ticket are the same. -/
theorem Ticketed.eq_of_ticket (h : r.Ticketed) {slot' : Nat}
    (hs : r.compiled.lookup slot = some s) (hs' : r.compiled.lookup slot' = some s')
    (heq : s.ticket = s'.ticket) : slot = slot' ∧ s = s' := by
  have hentry : (slot, s) = (slot', s') :=
    List.inj_on_of_nodup_map h.tickets (mem_of_lookup hs) (mem_of_lookup hs') heq
  exact Prod.mk.inj hentry

/-! ### Slots with a pattern -/

/-- After an operation there is a pattern in a slot if the operation compiles its language, or if
there was one before and no language is put there. -/
theorem lookup_after_isSome (hr : r.Consistent) (op : Operation) (slot : Nat) :
    ((r.after op).compiled.lookup slot).isSome ↔
      r.Compiles slot op ∨ ((r.compiled.lookup slot).isSome ∧ ¬ r.Fills slot op) := by
  rcases compiled_after_cases hr op with ⟨l, hl, hnot, hcompiled, _⟩ |
    ⟨taken, p, hnone, hcompiles, _, hcompiled, _⟩ | ⟨hnone, hkept, hcompiled, _⟩
  · -- A language fills a slot, whose pattern is gone.
    rw [hcompiled, fills_iff hl]
    by_cases hslot : slot = r.slotFor l
    · rw [← hslot, Bindings.lookup_filter_self]
      simp [hnot]
    · rw [Bindings.lookup_filter_ne hslot]
      simp [hnot, Ne.symm hslot]
  · have hfills : ¬ r.Fills slot op := not_fills hnone
    -- A pattern is compiled for the slot `taken`.
    rw [hcompiled, hcompiles]
    by_cases hslot : slot = taken
    · simp [hslot]
    · have hne : (slot == taken) = false := by simpa using hslot
      simp [List.lookup_cons, hne, hslot, hfills]
  · have hfills : ¬ r.Fills slot op := not_fills hnone
    rw [hcompiled]
    constructor
    · exact fun h => Or.inr ⟨h, hfills⟩
    · exact fun h => h.elim (hkept slot) And.left

/-- A slot has a pattern if its language was compiled and the slot has not been filled since. The
induction is on the operations, the last one first. -/
theorem lookup_afterAll_isSome (ops : List Operation) (slot : Nat) :
    ((afterAll ops).compiled.lookup slot).isSome ↔
      Since (fun r op => r.Compiles slot op) (fun r op => r.Fills slot op) ops := by
  induction ops using List.reverseRecOn with
  | nil => exact iff_of_false (fun h => by cases h) not_since_nil
  | append_singleton ops op ih =>
      rw [afterAll_concat, lookup_after_isSome (consistent_afterAll ops), ih, since_concat]

/-! ### The fates of a pattern -/

/-- A styler has the pattern that is kept in a slot. -/
def Kept (r : Registry) (slot : Nat) (s : Styler) : Prop := r.compiled.lookup slot = some s

/-- The pattern of a styler is in no slot, and its ticket has been given out. So no later styler can
have the same ticket. -/
def Retired (r : Registry) (s : Styler) : Prop :=
  s.ticket < r.nextTicket ∧ ∀ e ∈ r.compiled, e.2.ticket ≠ s.ticket

/-- A kept pattern stays in its slot, or is retired if a language is put there. There is no third
way. -/
theorem kept_after (hr : r.Consistent) (ht : r.Ticketed) (h : r.Kept slot s) (op : Operation) :
    (¬ r.Fills slot op ∧ (r.after op).Kept slot s) ∨
    (r.Fills slot op ∧ (r.after op).Retired s) := by
  unfold Kept at h ⊢
  rcases compiled_after_cases hr op with ⟨l, hl, _, hcompiled, hnext⟩ |
    ⟨taken, p, hnone, _, hfree, hcompiled, _⟩ | ⟨hnone, _, hcompiled, _⟩
  · rw [fills_iff hl, hcompiled]
    by_cases hslot : slot = r.slotFor l
    · refine Or.inr ⟨hslot.symm, ?_, fun e he heq => ?_⟩
      · rw [hnext]
        exact ht.below _ (mem_of_lookup h)
      · -- Only the slot that is filled had this ticket.
        rw [hcompiled] at he
        obtain ⟨hmem, hne⟩ := List.mem_filter.mp he
        have hentry : e = (slot, s) :=
          List.inj_on_of_nodup_map ht.tickets hmem (mem_of_lookup h) heq
        simp [hentry, hslot] at hne
    · rw [Bindings.lookup_filter_ne hslot]
      exact Or.inl ⟨Ne.symm hslot, h⟩
  · refine Or.inl ⟨not_fills hnone, ?_⟩
    have hne : (slot == taken) = false := by
      refine beq_eq_false_iff_ne.mpr fun heq => ?_
      rw [heq, hfree] at h
      cases h
    rw [hcompiled, List.lookup_cons, hne]
    exact h
  · rw [hcompiled]
    exact Or.inl ⟨not_fills hnone, h⟩

/-- A retired pattern does not come back. A pattern that is compiled anew has another ticket, even
if it is that of the same language. -/
theorem retired_after (hr : r.Consistent) (h : r.Retired s) (op : Operation) :
    (r.after op).Retired s := by
  obtain ⟨hlt, hnot⟩ := h
  rcases compiled_after_cases hr op with ⟨l, _, _, hcompiled, hnext⟩ |
    ⟨taken, p, _, _, _, hcompiled, hnext⟩ | ⟨_, _, hcompiled, hnext⟩
  · refine ⟨hnext ▸ hlt, ?_⟩
    rw [hcompiled]
    exact fun e he => hnot e (List.mem_of_mem_filter he)
  · refine ⟨by omega, ?_⟩
    rw [hcompiled]
    intro e he
    -- The new ticket is greater than the retired one.
    rcases List.mem_cons.mp he with rfl | he
    · exact Nat.ne_of_gt hlt
    · exact hnot e he
  · refine ⟨hnext ▸ hlt, ?_⟩
    rw [hcompiled]
    exact hnot

/-- Nothing is put into a slot in the course of some operations after others. -/
def Untouched (slot : Nat) (before later : List Operation) : Prop :=
  ∀ between op rest, later = between ++ op :: rest →
    ¬ (afterAll (before ++ between)).Fills slot op

/-- No operations put nothing anywhere. -/
theorem untouched_nil (slot : Nat) (before : List Operation) : Untouched slot before [] :=
  fun between op rest h => by simp at h

/-- One more operation leaves a slot alone if it does not fill it. It is looked at in the registry
that the operations before it have left. -/
theorem untouched_concat (slot : Nat) (before later : List Operation) (op : Operation) :
    Untouched slot before (later ++ [op]) ↔
      Untouched slot before later ∧ ¬ (afterAll (before ++ later)).Fills slot op := by
  constructor
  · intro h
    refine ⟨?_, h later op [] rfl⟩
    rintro between op' rest rfl
    exact h between op' (rest ++ [op]) (by simp)
  · rintro ⟨hlater, hnot⟩ between op' rest heq
    rcases concat_eq_split.mp heq with ⟨rfl, rfl, rfl⟩ | ⟨rest, rfl, rfl⟩
    · exact hnot
    · exact hlater between op' rest rfl

/-- A kept pattern is kept as long as nothing is put into its slot, and is retired from then on. The
induction is on the operations, from the last one back. -/
theorem kept_or_retired {before : List Operation} (h : (afterAll before).Kept slot s)
    (later : List Operation) :
    (Untouched slot before later ∧ (afterAll (before ++ later)).Kept slot s) ∨
    (¬ Untouched slot before later ∧ (afterAll (before ++ later)).Retired s) := by
  induction later using List.reverseRecOn with
  | nil =>
      rw [List.append_nil]
      exact Or.inl ⟨untouched_nil slot before, h⟩
  | append_singleton later op ih =>
      have hr := consistent_afterAll (before ++ later)
      rw [untouched_concat, ← List.append_assoc, afterAll_concat]
      rcases ih with ⟨huntouched, hkept⟩ | ⟨htouched, hretired⟩
      · -- The pattern is kept until its slot is filled.
        rcases kept_after hr (ticketed_afterAll _) hkept op with ⟨hnot, hkept⟩ | ⟨hfills, hretired⟩
        · exact Or.inl ⟨⟨huntouched, hnot⟩, hkept⟩
        · exact Or.inr ⟨fun h => h.2 hfills, hretired⟩
      · -- A ticket that has been retired does not come back.
        exact Or.inr ⟨fun h => htouched h.1, retired_after hr hretired op⟩

/-! ### Two stylers -/

/-- The pattern of a styler is kept in the slot that it was asked for in, from then on. It has been
there before, or it has been compiled for the styler. -/
theorem kept_of_styler (hr : r.Consistent) (h : (r.styler name options).1 = .ok s) :
    ∃ slot, r.resolve name options = .ok slot ∧ (r.styler name options).2.Kept slot s := by
  rcases styler_cases hr name options with ⟨e, hstyler, _⟩ | ⟨slot, s', hslot, hs, hstyler⟩ |
    ⟨slot, p, hslot, hs, _, hstyler⟩
  · rw [hstyler] at h
    cases h
  · rw [hstyler] at h ⊢
    cases h
    exact ⟨slot, hslot, hs⟩
  · rw [hstyler] at h ⊢
    cases h
    refine ⟨slot, hslot, ?_⟩
    show List.lookup slot ((slot, _) :: r.compiled) = _
    simp

/-- A styler has the ticket of a kept one if and only if it is asked for in the slot of that one.
Then it is the same. -/
theorem ticket_eq_iff_of_kept (hr : r.Consistent) (ht : r.Ticketed) (hkept : r.Kept slot s)
    (h : (r.styler name options).1 = .ok s') :
    (s.ticket = s'.ticket ↔ r.resolve name options = .ok slot) ∧
      (s.ticket = s'.ticket → s = s') := by
  rcases styler_cases hr name options with ⟨e, hstyler, _⟩ | ⟨slot', found, hslot, hs, hstyler⟩ |
    ⟨slot', p, hslot, hfree, _, hstyler⟩
  · rw [hstyler] at h
    cases h
  · rw [hstyler] at h
    cases h
    rw [hslot]
    -- The second styler has a kept pattern too, and a ticket is kept for one slot only.
    refine ⟨⟨fun heq => ?_, fun heq => ?_⟩, fun heq => (ht.eq_of_ticket hkept hs heq).2⟩
    · rw [(ht.eq_of_ticket hkept hs heq).1]
    · cases heq
      rw [Option.some.inj (hkept.symm.trans hs)]
  · rw [hstyler] at h
    cases h
    -- The second pattern is new, and its ticket has not been given out before.
    have hne : s.ticket ≠ r.nextTicket := Nat.ne_of_lt (ht.below _ (mem_of_lookup hkept))
    refine ⟨iff_of_false hne fun heq => ?_, fun heq => absurd heq hne⟩
    rw [hslot] at heq
    cases heq
    rw [hkept] at hfree
    cases hfree

/-- No styler has the ticket of a retired one: tickets of kept patterns are others, and a new one is
greater. -/
theorem ticket_ne_of_retired (hr : r.Consistent) (hretired : r.Retired s)
    (h : (r.styler name options).1 = .ok s') : s.ticket ≠ s'.ticket := by
  obtain ⟨hlt, hnot⟩ := hretired
  rcases styler_cases hr name options with ⟨e, hstyler, _⟩ | ⟨slot', found, _, hs, hstyler⟩ |
    ⟨slot', p, _, _, _, hstyler⟩
  · rw [hstyler] at h
    cases h
  · rw [hstyler] at h
    cases h
    exact Ne.symm (hnot _ (mem_of_lookup hs))
  · rw [hstyler] at h
    cases h
    exact Nat.ne_of_lt hlt

/-- Two stylers of one run share a pattern if and only if they were asked for in the same slot and
no language has been put there in between. -/
theorem sharesPattern_iff_untouched {before between : List Operation} {name' : String}
    {options' : Options} (h : ((afterAll before).styler name options).1 = .ok s)
    (h' : ((afterAll (before ++ [.styler name options] ++ between)).styler name' options').1
      = .ok s') :
    (s.sharesPattern s' ↔ ∃ slot, (afterAll before).resolve name options = .ok slot ∧
      (afterAll (before ++ [.styler name options] ++ between)).resolve name' options' = .ok slot ∧
      Untouched slot (before ++ [.styler name options]) between) ∧
    (s.sharesPattern s' → s = s') := by
  have hr := consistent_afterAll (before ++ [.styler name options] ++ between)
  -- The first styler's pattern is kept for the slot of its language.
  obtain ⟨slot, hslot, hkept⟩ := kept_of_styler (consistent_afterAll before) h
  have hkept : (afterAll (before ++ [.styler name options])).Kept slot s := by
    rw [afterAll_concat]
    exact hkept
  have hshares : s.sharesPattern s' ↔ s.ticket = s'.ticket := beq_iff_eq
  have hsame : ∀ slot', (afterAll before).resolve name options = .ok slot' ↔ slot' = slot := by
    intro slot'
    rw [hslot]
    exact ⟨fun heq => (Except.ok.inj heq).symm, fun heq => congrArg _ heq.symm⟩
  simp only [hshares, hsame, exists_eq_left]
  rcases kept_or_retired hkept between with ⟨huntouched, hkept⟩ | ⟨htouched, hretired⟩
  · obtain ⟨hiff, heq⟩ := ticket_eq_iff_of_kept hr (ticketed_afterAll _) hkept h'
    refine ⟨?_, heq⟩
    rw [hiff]
    exact ⟨fun hslot' => ⟨hslot', huntouched⟩, And.left⟩
  · have hne := ticket_ne_of_retired hr hretired h'
    exact ⟨iff_of_false hne fun hslot' => htouched hslot'.2, fun heq => absurd heq hne⟩

/-- The pattern in a slot after a language has been added: gone from the slot that it takes, and
unchanged elsewhere. -/
theorem lookup_after_of_language? {l : Language} (hr : r.Consistent) (hl : op.language? = some l)
    (slot : Nat) : (r.after op).compiled.lookup slot
      = if slot = r.slotFor l then none else r.compiled.lookup slot := by
  rw [after_of_language? hr hl, compiled_addLanguage hr]
  split
  · rename_i hslot
    rw [hslot, Bindings.lookup_filter_self]
  · rename_i hslot
    rw [Bindings.lookup_filter_ne hslot]

/-- Asking for a styler in vain changes nothing, whether there is no language or it does not
compile. -/
theorem styler_eq_error (hr : r.Consistent) {e : Error}
    (h : (r.styler name options).1 = .error e) : (r.styler name options).2 = r := by
  rcases styler_cases hr name options with ⟨e, hstyler, _⟩ | ⟨slot, s, _, _, hstyler⟩ |
    ⟨slot, p, _, _, _, hstyler⟩
  · rw [hstyler]
  · rw [hstyler] at h
    cases h
  · rw [hstyler] at h
    cases h

end Registry

/-- Two stylers of one run share a pattern if and only if they were asked for in the same slot and
no language has been put there in between. After any operations, there is one pattern at most for
each slot, and the slots with a pattern are those in which a language was compiled since they were
filled last. Asking for a styler in vain changes nothing, and adding a language takes away the
pattern of its slot and no other. -/
theorem sharesPattern_iff :
    (∀ (before between : List Operation) (name name' : String) (options options' : Options)
      (s s' : Styler),
      let first := Registry.afterAll before
      let second := Registry.afterAll (before ++ [.styler name options] ++ between)
      (first.styler name options).1 = .ok s → (second.styler name' options').1 = .ok s' →
      (s.sharesPattern s' ↔ ∃ slot, first.resolve name options = .ok slot ∧
        second.resolve name' options' = .ok slot ∧
        Registry.Untouched slot (before ++ [.styler name options]) between) ∧
      (s.sharesPattern s' → s = s')) ∧
    ∀ ops : List Operation,
      let r := Registry.afterAll ops
      (r.compiled.map (·.1)).Nodup ∧
      (∀ slot, (r.compiled.lookup slot).isSome ↔
        Registry.Since (fun r op => r.Compiles slot op) (fun r op => r.Fills slot op) ops) ∧
      (∀ name options e, (r.styler name options).1 = .error e →
        (r.styler name options).2 = r) ∧
      ∀ op l slot, op.language? = some l → (r.after op).compiled.lookup slot
        = if slot = r.slotFor l then none else r.compiled.lookup slot := by
  refine ⟨?_, fun ops => ?_⟩
  · intro before between name name' options options' s s' first second h h'
    exact Registry.sharesPattern_iff_untouched h h'
  · have hr := Registry.consistent_afterAll ops
    exact ⟨(Registry.ticketed_afterAll ops).slots, Registry.lookup_afterAll_isSome ops,
      fun name options e => Registry.styler_eq_error hr,
      fun op l slot hl => Registry.lookup_after_of_language? hr hl slot⟩

/-- A language with another name, and the language that styles nothing. -/
def twoLanguages : List Operation := [.addLanguage ⟨"sh", ["bash"], [], []⟩, .addPlain []]

/-- A language is replaced, among other operations that leave its slot alone. -/
def replacing : List Operation :=
  [.addAlias "sh" "ksh", .addLanguage (.empty "sh"), .styler "plain" .standard]

/-- Two names of one language lead to one pattern, until the language is replaced. Then the pattern
is another one, even under the same name. -/
theorem twoLanguages_sharesPattern :
    ∃ s same other,
      ((Registry.afterAll twoLanguages).styler "bash" .standard).1 = .ok s ∧
      ((Registry.afterAll (twoLanguages ++ [.styler "bash" .standard] ++ [])).styler
        "sh" .standard).1 = .ok same ∧
      ((Registry.afterAll (twoLanguages ++ [.styler "bash" .standard] ++ replacing)).styler
        "sh" .standard).1 = .ok other ∧
      s.sharesPattern same ∧ ¬ s.sharesPattern other := by
  obtain ⟨s, hs⟩ := exists_of_isOk
    (x := ((Registry.afterAll twoLanguages).styler "bash" .standard).1) (by decide +kernel)
  obtain ⟨same, hsame⟩ := exists_of_isOk
    (x := ((Registry.afterAll (twoLanguages ++ [.styler "bash" .standard] ++ [])).styler
      "sh" .standard).1) (by decide +kernel)
  obtain ⟨other, hother⟩ := exists_of_isOk
    (x := ((Registry.afterAll (twoLanguages ++ [.styler "bash" .standard] ++ replacing)).styler
      "sh" .standard).1) (by decide +kernel)
  refine ⟨s, same, other, hs, hsame, hother, ?_, fun hshares => ?_⟩
  · refine (sharesPattern_iff.1 _ _ _ _ _ _ s same hs hsame).1.mpr ⟨0, rfl, by decide +kernel, ?_⟩
    exact Registry.untouched_nil _ _
  · obtain ⟨slot, hslot, _, huntouched⟩ :=
      (sharesPattern_iff.1 _ _ _ _ _ _ s other hs hother).1.mp hshares
    -- The slot is 0, and the second operation in between takes it.
    cases hslot
    refine huntouched [.addAlias "sh" "ksh"] (.addLanguage (.empty "sh"))
      [.styler "plain" .standard] rfl ⟨.empty "sh", rfl, ?_⟩
    decide +kernel

end Highlight
