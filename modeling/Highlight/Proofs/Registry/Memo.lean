import Highlight.Proofs.Pattern
import Highlight.Registry

/-!
# `Highlight.Proofs.Registry.Memo`: kept patterns do not show

A registry keeps the patterns that it has compiled. `Registry.styleAfresh` is what styling would
be if it kept none: it looks the language up and compiles it, whatever was done before. This file
proves that the two agree after any operations.

`Registry.Consistent` is the invariant of a registry. The names and the file name extensions are
bound to slots that hold a language, and each kept pattern is that of the language which is in
its slot now. `consistent_after` has it for each operation: replacing a language changes one
slot, whose pattern goes with it, and adding one changes no slot that has a pattern.
`consistent_afterAll` follows by induction on the operations.

`style_afterAll` is the result. Its last part says that styling leaves no trace: without the
stylings among the operations, the answer is the same.
-/

set_option autoImplicit false

namespace Highlight

/-! ### Names and slots -/

namespace Bindings

variable {n slot : Nat} {b : Bindings}

/-- All names are bound to slots below a number, which will be that of the languages. -/
def Below (n : Nat) (b : Bindings) : Prop := ∀ e ∈ b.entries, e.2 < n

/-- Binding a name to such a slot keeps this. -/
theorem below_bind {name : String} (h : b.Below n) (hslot : slot < n) :
    (b.bind name slot).Below n := by
  intro e he
  rcases List.mem_cons.mp he with rfl | he
  · exact hslot
  · exact h e (List.mem_of_mem_filter he)

/-- So does binding several names. -/
theorem below_bindAll {names : List String} (h : b.Below n) (hslot : slot < n) :
    (b.bindAll names slot).Below n := by
  unfold bindAll
  induction names generalizing b with
  | nil => exact h
  | cons name names ih => exact ih (below_bind h hslot)

/-- Unbinding names only takes entries away. -/
theorem below_unbindSlot (h : b.Below n) : (b.unbindSlot slot).Below n :=
  fun e he => h e (List.mem_of_mem_filter he)

/-- With more languages, the slots are still below their number. -/
theorem below_succ (h : b.Below n) : b.Below (n + 1) :=
  fun e he => Nat.lt_succ_of_lt (h e he)

/-- A slot that has been found is below the number. -/
theorem lt_of_find? {name : String} (h : b.Below n) (hfind : b.find? name = some slot) :
    slot < n := by
  obtain ⟨before, after, hentries, _⟩ := List.lookup_eq_some_iff.mp hfind
  exact h (name, slot) (by rw [hentries]; simp)

end Bindings

/-! ### Operations -/

/-- What can be done with a registry. Loading a file and adding the plain language are operations of
their own, since they do more than add a language that is given. -/
inductive Operation where
  /-- Adding a language -/
  | addLanguage (l : Language)
  /-- Adding the language that a file defines -/
  | addFile (f : File)
  /-- Adding the language that styles nothing -/
  | addPlain (aliases : List String)
  /-- Giving another name to a language -/
  | addAlias (name other : String)
  /-- Asking for a styler -/
  | styler (name : String) (options : Options)
  /-- Styling a text -/
  | style (text name : String) (options : Options)

/-- Whether an operation only uses the languages that are there. -/
def Operation.isStyling : Operation → Bool
  | styler _ _ | style _ _ _ => true
  | _ => false

namespace Registry

/-- The registry after an operation. A file that does not define a language adds nothing, and
stylings leave behind the patterns that they have compiled. -/
def after (r : Registry) : Operation → Registry
  | .addLanguage l => r.addLanguage l
  | .addFile f => match r.addFile f with
    | .ok r => r
    | .error _ => r
  | .addPlain aliases => r.addPlain aliases
  | .addAlias name other => r.addAlias name other
  | .styler name options => (r.styler name options).2
  | .style text name options => (r.style text name options).2

/-- Adding a file is adding the language that it defines, if it defines one. What goes wrong with it
is the fault of the file, whatever the registry is. -/
theorem addFile_eq (r : Registry) (f : File) :
    r.addFile f = (Definition.ofFile f >>= fun d => d.toLanguage).map r.addLanguage := by
  unfold addFile
  cases Definition.ofFile f with
  | error e => rfl
  | ok d =>
      cases hl : d.toLanguage <;>
        simp [hl, bind, Except.bind, Except.map, pure, Except.pure]

/-- A file adds the language that it defines, if there is one. -/
theorem after_addFile_eq (r : Registry) (f : File) :
    r.after (.addFile f) = match Definition.ofFile f >>= fun d => d.toLanguage with
      | .ok l => r.addLanguage l
      | .error _ => r := by
  show (match r.addFile f with | .ok r => r | .error _ => r) = _
  rw [addFile_eq]
  cases Definition.ofFile f >>= fun d => d.toLanguage <;> rfl

/-- A file adds the language that it defines, the same to every registry, or changes nothing. Which
of the two it is does not depend on the registry. -/
theorem after_addFile (f : File) :
    (∃ l, ∀ r : Registry, r.after (.addFile f) = r.addLanguage l) ∨
    (∀ r : Registry, r.after (.addFile f) = r) := by
  cases hl : Definition.ofFile f >>= fun d => d.toLanguage with
  | error e =>
      refine Or.inr fun r => ?_
      rw [after_addFile_eq, hl]
  | ok l =>
      refine Or.inl ⟨l, fun r => ?_⟩
      rw [after_addFile_eq, hl]

/-- The registry after operations, from one without languages on. All statements about runs are
about such registries. -/
def afterAll (ops : List Operation) : Registry := ops.foldl after .empty

/-! ### The invariant -/

/-- Names are bound to slots with a language, and kept patterns are up to date: each is what the
language compiles to that is in its slot now. -/
structure Consistent (r : Registry) : Prop where
  names : r.names.Below r.languages.length
  fileTypes : r.fileTypes.Below r.languages.length
  compiled : ∀ e ∈ r.compiled, ∃ l, r.languageAt? e.1 = some l ∧
    Pattern.ofLanguage l = .ok e.2.pattern

variable {r : Registry}

/-- Only slots with a language have patterns. -/
theorem Consistent.lt_of_mem_compiled (h : r.Consistent) {e : Nat × Styler}
    (he : e ∈ r.compiled) : e.1 < r.languages.length := by
  obtain ⟨l, hl, _⟩ := h.compiled e he
  exact (List.getElem?_eq_some_iff.mp hl).1

/-- A registry without languages binds nothing and keeps nothing. -/
theorem consistent_empty : Registry.empty.Consistent where
  names := fun _ he => absurd he List.not_mem_nil
  fileTypes := fun _ he => absurd he List.not_mem_nil
  compiled := fun _ he => absurd he List.not_mem_nil

/-- Binding the names of a language to its slot keeps the invariant. The patterns are not
touched. -/
theorem consistent_bindLanguage {slot : Nat} {l : Language} (h : r.Consistent)
    (hslot : slot < r.languages.length) : (r.bindLanguage slot l).Consistent where
  names := Bindings.below_bind (Bindings.below_bindAll h.names hslot) hslot
  fileTypes := Bindings.below_bindAll h.fileTypes hslot
  compiled := h.compiled

/-- The pattern of a slot goes with its language, so none is left that belongs to another one. The
names that are left stand for other slots. -/
theorem consistent_replaceSlot {slot : Nat} {l : Language} (h : r.Consistent) :
    (r.replaceSlot slot l).Consistent := by
  have hlength : (r.replaceSlot slot l).languages.length = r.languages.length :=
    List.length_set
  constructor
  · rw [hlength]
    exact Bindings.below_unbindSlot h.names
  · rw [hlength]
    exact Bindings.below_unbindSlot h.fileTypes
  · intro e he
    have hmem := List.mem_filter.mp he
    -- The pattern of the slot itself has been dropped.
    have hne : slot ≠ e.1 := by
      rintro rfl
      simp at hmem
    obtain ⟨l', hl', hp⟩ := h.compiled e hmem.1
    refine ⟨l', ?_, hp⟩
    show (r.languages.set slot l)[e.1]? = some l'
    rw [List.getElem?_set_ne hne]
    exact hl'

/-- A new slot has no pattern yet, and the patterns of the other slots stay. These slots have the
same numbers as before. -/
theorem consistent_append {l : Language} (h : r.Consistent) :
    { r with languages := r.languages ++ [l] }.Consistent := by
  have hlength : (r.languages ++ [l]).length = r.languages.length + 1 := by simp
  constructor
  · rw [hlength]
    exact Bindings.below_succ h.names
  · rw [hlength]
    exact Bindings.below_succ h.fileTypes
  · intro e he
    obtain ⟨l', hl', hp⟩ := h.compiled e he
    refine ⟨l', ?_, hp⟩
    show (r.languages ++ [l])[e.1]? = some l'
    rw [List.getElem?_append_left (h.lt_of_mem_compiled he)]
    exact hl'

/-- Adding a language keeps the invariant, in place of another one or in a new slot. Its names are
bound to a slot that is there by then. -/
theorem consistent_addLanguage {l : Language} (h : r.Consistent) :
    (r.addLanguage l).Consistent := by
  unfold addLanguage
  split
  · -- A language of that name gives up its slot.
    rename_i slot hslot
    have hlt : slot < r.languages.length := (List.findIdx?_eq_some_iff_getElem.mp hslot).1
    refine consistent_bindLanguage (consistent_replaceSlot h) ?_
    exact Nat.lt_of_lt_of_eq hlt List.length_set.symm
  · refine consistent_bindLanguage (consistent_append h) ?_
    show r.languages.length < (r.languages ++ [l]).length
    simp

/-- Giving another name binds it to a slot that is in use, or does nothing. Languages and patterns
are not touched. -/
theorem consistent_addAlias {name other : String} (h : r.Consistent) :
    (r.addAlias name other).Consistent := by
  unfold addAlias
  split
  · rename_i slot hslot
    exact ⟨Bindings.below_bind h.names (Bindings.lt_of_find? h.names hslot), h.fileTypes,
      h.compiled⟩
  · exact h

/-! ### Stylers -/

/-- A registry with the same languages, under the same names. Only the kept patterns may differ. -/
structure SameLanguages (r r' : Registry) : Prop where
  languages : r.languages = r'.languages
  names : r.names = r'.names
  fileTypes : r.fileTypes = r'.fileTypes

/-- A registry has the same languages as itself. -/
theorem SameLanguages.refl (r : Registry) : SameLanguages r r := ⟨rfl, rfl, rfl⟩

/-- A styler has the pattern of its language, kept or not. The registry keeps it, and changes in
nothing else. -/
theorem stylerAt_spec {slot : Nat} {l : Language} (h : r.Consistent)
    (hl : r.languageAt? slot = some l) :
    (r.stylerAt slot l).1.map (·.pattern) = Pattern.ofLanguage l ∧
      SameLanguages (r.stylerAt slot l).2 r ∧ (r.stylerAt slot l).2.Consistent := by
  unfold stylerAt
  cases hs : r.compiled.lookup slot with
  | some s =>
      -- By the invariant, the kept pattern is that of the language.
      obtain ⟨before, after, hcompiled, _⟩ := List.lookup_eq_some_iff.mp hs
      obtain ⟨l', hl', hp⟩ := h.compiled (slot, s) (by rw [hcompiled]; simp)
      obtain rfl : l = l' := Option.some.inj (hl.symm.trans hl')
      exact ⟨hp.symm, .refl r, h⟩
  | none =>
      cases hp : Pattern.ofLanguage l with
      | error e => exact ⟨rfl, .refl r, h⟩
      | ok p =>
          refine ⟨rfl, ⟨rfl, rfl, rfl⟩, h.names, h.fileTypes, fun e he => ?_⟩
          rcases List.mem_cons.mp he with rfl | he
          · exact ⟨l, hl, hp⟩
          · exact h.compiled e he

/-- The language that a name stands for. With `toPlain`, the plain language stands in for one that
is not bound. It does not mention slots or patterns. -/
def current? (r : Registry) (name : String) (options : Options) : Option Language :=
  if r.contains name then r.language? name
  else if options.toPlain then r.language? plainName
  else none

/-- The slot of a bound name holds its language, so no look-up ends in an empty slot. -/
theorem languageAt?_of_find? (h : r.Consistent) {name : String} {slot : Nat}
    (hfind : r.names.find? name = some slot) :
    ∃ l, r.languageAt? slot = some l ∧ r.language? name = some l := by
  have hlt := Bindings.lt_of_find? h.names hfind
  have hl : r.languageAt? slot = some r.languages[slot] := List.getElem?_eq_getElem hlt
  exact ⟨_, hl, by rw [language?, hfind, Option.bind_some, hl]⟩

/-- A name resolves to the slot of its language, unless it has none. Then the error is about the
name that was asked for, also if the plain language was to stand in. -/
theorem resolve_spec (h : r.Consistent) (name : String) (options : Options) :
    (∃ slot l, r.resolve name options = .ok slot ∧ r.languageAt? slot = some l ∧
      r.current? name options = some l) ∨
    (r.resolve name options = .error (.unknownLanguage name) ∧
      r.current? name options = none) := by
  unfold resolve current? contains
  cases hname : r.names.find? name with
  | some slot =>
      obtain ⟨l, hl, hlanguage⟩ := languageAt?_of_find? h hname
      exact Or.inl ⟨slot, l, rfl, hl, by simp [hlanguage]⟩
  | none =>
      -- The name is unknown, and the plain language is asked for only where the options say so.
      cases hplain : options.toPlain with
      | false => exact Or.inr ⟨rfl, rfl⟩
      | true =>
          cases hfind : r.names.find? plainName with
          | some slot =>
              obtain ⟨l, hl, hlanguage⟩ := languageAt?_of_find? h hfind
              exact Or.inl ⟨slot, l, by simp, hl, by simp [hlanguage]⟩
          | none => exact Or.inr ⟨by simp, by simp [language?, hfind]⟩

/-- Asking for a styler compiles the language that the name stands for, or fails because there is
none. Whether the pattern had been kept makes no difference. -/
theorem styler_spec (h : r.Consistent) (name : String) (options : Options) :
    (r.styler name options).1.map (·.pattern)
        = (match r.current? name options with
          | some l => Pattern.ofLanguage l
          | none => .error (.unknownLanguage name)) ∧
      SameLanguages (r.styler name options).2 r ∧ (r.styler name options).2.Consistent := by
  unfold styler
  rcases resolve_spec h name options with ⟨slot, l, hslot, hl, hcurrent⟩ | ⟨herror, hcurrent⟩
  · rw [hslot, hcurrent]
    simp only [hl]
    exact stylerAt_spec h hl
  · rw [herror, hcurrent]
    exact ⟨rfl, .refl r, h⟩

/-- The spans of a text if no pattern is kept: the language is looked up and compiled each time. -/
def styleAfresh (r : Registry) (text name : String) (options : Options) : Except Error Spans :=
  match r.current? name options with
  | none => .error (.unknownLanguage name)
  | some l => match Pattern.ofLanguage l with
    | .error e => .error e
    | .ok p => p.spans text options

/-- Styling gives what it would without kept patterns, and leaves the languages as they are. The
invariant is kept as well, so that this can be said of the next styling too. -/
theorem style_spec (h : r.Consistent) (text name : String) (options : Options) :
    (r.style text name options).1 = r.styleAfresh text name options ∧
      SameLanguages (r.style text name options).2 r ∧ (r.style text name options).2.Consistent := by
  obtain ⟨hpattern, hsame, hconsistent⟩ := styler_spec h name options
  unfold style styleAfresh
  -- A styling is that of the styler, which has the pattern of the language.
  cases hstyler : r.styler name options with
  | mk result r' =>
      rw [hstyler] at hpattern hsame hconsistent
      cases hcurrent : r.current? name options with
      | none =>
          rw [hcurrent] at hpattern
          cases result with
          | error e => exact ⟨by cases hpattern; rfl, hsame, hconsistent⟩
          | ok s => cases hpattern
      | some l =>
          rw [hcurrent] at hpattern
          simp only at hpattern ⊢
          rw [← hpattern]
          cases result with
          | error e => exact ⟨rfl, hsame, hconsistent⟩
          | ok s => exact ⟨rfl, hsame, hconsistent⟩

/-! ### Runs -/

/-- Each operation keeps the invariant. Stylings may keep one more pattern, and it is up to date.
This is the step that the invariant of a whole run is made of. -/
theorem consistent_after (h : r.Consistent) (op : Operation) : (r.after op).Consistent := by
  cases op with
  | addLanguage l => exact consistent_addLanguage h
  | addFile f =>
      rcases after_addFile f with ⟨l, hf⟩ | hf
      · rw [hf]
        exact consistent_addLanguage h
      · rw [hf]
        exact h
  | addPlain aliases => exact consistent_addLanguage h
  | addAlias name other => exact consistent_addAlias h
  | styler name options => exact (styler_spec h name options).2.2
  | style text name options => exact (style_spec h text name options).2.2

/-- So do any operations, one after another. -/
theorem consistent_foldl (h : r.Consistent) (ops : List Operation) :
    (ops.foldl after r).Consistent := by
  induction ops generalizing r with
  | nil => exact h
  | cons op ops ih => exact ih (consistent_after h op)

/-- The invariant holds after any operations. -/
theorem consistent_afterAll (ops : List Operation) : (afterAll ops).Consistent :=
  consistent_foldl consistent_empty ops

/-! ### What styling leaves behind -/

/-- Having the same languages goes both ways. -/
theorem SameLanguages.symm {r' : Registry} (h : SameLanguages r r') : SameLanguages r' r :=
  ⟨h.languages.symm, h.names.symm, h.fileTypes.symm⟩

/-- Having the same languages carries over. -/
theorem SameLanguages.trans {r' r'' : Registry} (h : SameLanguages r r')
    (h' : SameLanguages r' r'') : SameLanguages r r'' :=
  ⟨h.languages.trans h'.languages, h.names.trans h'.names, h.fileTypes.trans h'.fileTypes⟩

/-- Adding a language to registries with the same languages puts it into the same slot of both. -/
theorem sameLanguages_addLanguage {r' : Registry} (h : SameLanguages r r') (l : Language) :
    SameLanguages (r.addLanguage l) (r'.addLanguage l) := by
  have hslot : r.slotOf? l.name = r'.slotOf? l.name := by
    rw [slotOf?, slotOf?, h.languages]
  unfold addLanguage
  -- Both replace the language in the same slot, or both append it.
  rw [hslot, h.languages]
  cases r'.slotOf? l.name with
  | some slot =>
      refine ⟨?_, ?_, ?_⟩
      · show r.languages.set slot l = r'.languages.set slot l
        rw [h.languages]
      · simp only [bindLanguage, replaceSlot, h.names]
      · simp only [bindLanguage, replaceSlot, h.fileTypes]
  | none =>
      refine ⟨rfl, ?_, ?_⟩
      · simp only [bindLanguage, h.names]
      · simp only [bindLanguage, h.fileTypes]

/-- What an operation does to the languages does not depend on the kept patterns. So it does the
same to two registries that differ in these only. -/
theorem sameLanguages_after {r' : Registry} (h : SameLanguages r r') {op : Operation}
    (hop : op.isStyling = false) : SameLanguages (r.after op) (r'.after op) := by
  cases op with
  | addLanguage l => exact sameLanguages_addLanguage h l
  | addFile f =>
      rcases after_addFile f with ⟨l, hf⟩ | hf
      · rw [hf, hf]
        exact sameLanguages_addLanguage h l
      · rw [hf, hf]
        exact h
  | addPlain aliases => exact sameLanguages_addLanguage h _
  | addAlias name other =>
      show SameLanguages (r.addAlias name other) (r'.addAlias name other)
      unfold addAlias
      rw [← h.names]
      cases r.names.find? name with
      | some slot => exact ⟨h.languages, by simp only [h.names], h.fileTypes⟩
      | none => exact h
  -- Stylings are left out by `hop`.
  | styler name options => cases hop
  | style text name options => cases hop

/-- Leaving out the stylings does not change the languages. The induction is on the operations, and
the second run skips those that are left out. -/
theorem sameLanguages_foldl {r' : Registry} (h : SameLanguages r r') (hr : r.Consistent)
    (ops : List Operation) :
    SameLanguages (ops.foldl after r) ((ops.filter (!·.isStyling)).foldl after r') := by
  induction ops generalizing r r' with
  | nil => exact h
  | cons op ops ih =>
      rw [List.foldl_cons]
      cases hop : op.isStyling with
      | false =>
          rw [List.filter_cons_of_pos (by simp [hop]), List.foldl_cons]
          exact ih (sameLanguages_after h hop) (consistent_after hr op)
      | true =>
          -- Only the run with the styling takes this step.
          rw [List.filter_cons_of_neg (by simp [hop])]
          refine ih (SameLanguages.trans ?_ h) (consistent_after hr op)
          cases op with
          | styler name options => exact (styler_spec hr name options).2.1
          | style text name options => exact (style_spec hr text name options).2.1
          | addLanguage l => cases hop
          | addFile f => cases hop
          | addPlain aliases => cases hop
          | addAlias name other => cases hop

/-- Without kept patterns, the languages and their names decide on a styling. So registries with the
same ones style alike. -/
theorem SameLanguages.styleAfresh_eq {r' : Registry} (h : SameLanguages r r')
    (text name : String) (options : Options) :
    r.styleAfresh text name options = r'.styleAfresh text name options := by
  have hcurrent : r.current? name options = r'.current? name options := by
    unfold current? language? contains languageAt?
    rw [h.names, h.languages]
  rw [styleAfresh, hcurrent]
  rfl

/-- There is a language for a name if the name is bound, or the plain language that may stand in for
it. -/
theorem current?_eq_none_iff (h : r.Consistent) (name : String) (options : Options) :
    r.current? name options = none ↔
      ¬ r.contains name ∧ ¬ (options.toPlain ∧ r.contains plainName) := by
  -- A name that is listed has a language, so that it is enough to ask for the name.
  have hbound : ∀ other, r.language? other = none ↔ ¬ r.contains other := by
    intro other
    unfold contains
    cases hfind : r.names.find? other with
    | none => simp [language?, hfind]
    | some slot =>
        obtain ⟨l, _, hl⟩ := languageAt?_of_find? h hfind
        simp [hl]
  unfold current?
  by_cases hname : r.contains name
  · rw [if_pos hname, hbound]
    simp [hname]
  · rw [if_neg hname]
    by_cases hplain : options.toPlain
    · rw [if_pos hplain, hbound]
      simp [hname, hplain]
    · rw [if_neg hplain]
      simp [hname, hplain]

/-- Styling fails for lack of a language only if there is none. What else may go wrong is blamed on
the language, as `Error.Blames` has it. -/
theorem styleAfresh_eq_unknown (h : r.Consistent) (text name : String) (options : Options) :
    r.styleAfresh text name options = .error (.unknownLanguage name) ↔
      ¬ r.contains name ∧ ¬ (options.toPlain ∧ r.contains plainName) := by
  rw [← current?_eq_none_iff h]
  unfold styleAfresh
  cases hl : r.current? name options with
  | none => simp
  | some l =>
      -- A language that is there is blamed for what goes wrong with it.
      simp only [reduceCtorEq, iff_false]
      intro herror
      cases hp : Pattern.ofLanguage l with
      | error e =>
          rw [hp] at herror
          cases herror
          exact Pattern.ofLanguage_eq_error hp
      | ok p =>
          rw [hp] at herror
          cases Pattern.spans_eq_error herror

end Registry

/-- After any operations, the kept patterns are those of the languages in their slots. Styling
gives what it would without them, which fails for lack of a language if and only if neither the
name nor the plain language that may stand in for it is bound. Earlier stylings do not change
the answer. -/
theorem style_afterAll (ops : List Operation) :
    let r := Registry.afterAll ops
    (∀ e ∈ r.compiled, ∃ l, r.languageAt? e.1 = some l ∧
      Pattern.ofLanguage l = .ok e.2.pattern) ∧
    ∀ (text name : String) (options : Options),
      (r.style text name options).1 = r.styleAfresh text name options ∧
      ((r.style text name options).1 = .error (.unknownLanguage name) ↔
        ¬ r.contains name ∧ ¬ (options.toPlain ∧ r.contains Registry.plainName)) ∧
      (r.style text name options).1
        = ((Registry.afterAll (ops.filter (!·.isStyling))).style text name options).1 := by
  intro r
  have hr : r.Consistent := Registry.consistent_afterAll ops
  have hr' := Registry.consistent_afterAll (ops.filter (!·.isStyling))
  -- Taking the stylings out of the operations leaves the languages and their names as they are.
  have hsame : Registry.SameLanguages r (Registry.afterAll (ops.filter (!·.isStyling))) :=
    Registry.sameLanguages_foldl (.refl _) Registry.consistent_empty ops
  refine ⟨hr.compiled, fun text name options => ?_⟩
  have hstyle := (Registry.style_spec hr text name options).1
  have hstyle' := (Registry.style_spec hr' text name options).1
  refine ⟨hstyle, ?_, ?_⟩
  · rw [hstyle]
    exact Registry.styleAfresh_eq_unknown hr text name options
  · rw [hstyle, hstyle']
    exact hsame.styleAfresh_eq text name options

end Highlight
