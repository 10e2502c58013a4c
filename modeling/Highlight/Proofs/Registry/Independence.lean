import Highlight.Proofs.Registry.Frame

/-!
# `Highlight.Proofs.Registry.Independence`: the order of independent additions

Two languages that declare no name and no extension both can be added in either order. The two
registries need not be the same: the languages may be in different slots. But slots do not show.
`Registry.Agree` is what can be seen of a registry, and `agree_swap` is the main statement. After
the two additions, and any operations later, there is no difference to be seen. This holds even if
each of the languages replaces one whose names the other one takes over.

`Registry.Alike` says of two registries that they differ in their slots at most. Instead of slots,
it has the names of the languages in them: `Registry.keptFor?` is the pattern of the language of a
name. Each operation can be described in this way, so it keeps registries alike (`alike_after`).
What two additions do to a key is then settled by `Language.rebind_comm`.
-/

set_option autoImplicit false

namespace Highlight

/-- Of two languages that do not both declare a key, either may be added first. It also holds if
each replaces a language that the key led to before. -/
theorem Language.rebind_comm {a b : Language} {da db : Prop} [Decidable da] [Decidable db]
    (hname : a.name ≠ b.name) (hapart : da → ¬ db) (old : Option Language) :
    b.rebind db (a.rebind da old) = a.rebind da (b.rebind db old) := by
  unfold rebind
  by_cases ha : da
  · have hb : ¬ db := hapart ha
    rw [if_pos ha, if_neg hb, if_pos ha, Option.filter_some]
    simp [hname]
  · by_cases hb : db
    · rw [if_neg ha, if_pos hb, if_neg ha, if_pos hb, Option.filter_some]
      simp [Ne.symm hname]
    · rw [if_neg ha, if_neg hb, if_neg ha, if_neg hb, Option.filter_filter, Option.filter_filter]
      simp only [Bool.and_comm]

namespace Registry

variable {r r' : Registry} {l : Language} {n name : String} {options : Options} {slot slot' : Nat}

/-! ### Patterns by name -/

/-- The pattern that is kept for the language of a name. It says the same as the patterns of slots,
but without naming the slots. -/
def keptFor? (r : Registry) (name : String) : Option Styler :=
  (r.slotOf? name).bind fun slot => r.compiled.lookup slot

/-- The pattern of a slot is kept for the name of the language there. -/
theorem keptFor?_of_languageAt? (h : r.Regular) (hl : r.languageAt? slot = some l) :
    r.keptFor? l.name = r.compiled.lookup slot := by
  rw [keptFor?, (slotOf?_eq_some_iff h).mpr ⟨l, hl, rfl⟩, Option.bind_some]

/-- What is kept for the name of a language is what is in the slot that the language would take.
There is no pattern for a name that no language has. -/
theorem keptFor?_eq_lookup_slotFor (h : r.Regular) (l : Language) :
    r.keptFor? l.name = r.compiled.lookup (r.slotFor l) := by
  unfold keptFor? slotFor
  cases r.slotOf? l.name with
  | some slot => rfl
  | none =>
      refine (List.lookup_eq_none_iff.mpr fun e he => ?_).symm
      simpa using Nat.ne_of_gt (h.consistent.lt_of_mem_compiled he)

/-- A language that has been added is in its slot, and the other names have the slots that they
had. -/
theorem slotOf?_addLanguage (h : r.Regular) (l : Language) (n : String) :
    (r.addLanguage l).slotOf? n = if n = l.name then some (r.slotFor l) else r.slotOf? n := by
  have hadded := regular_addLanguage h l
  split
  · rename_i hn
    rw [hn, slotOf?_eq_some_iff hadded, languageAt?_addLanguage, if_pos rfl]
    exact ⟨l, rfl, rfl⟩
  · rename_i hn
    refine Option.ext fun slot => ?_
    rw [slotOf?_eq_some_iff hadded, slotOf?_eq_some_iff h]
    refine exists_congr fun other => and_congr_left fun hother => ?_
    exact languageAt?_addLanguage_iff (hother ▸ hn)

/-- No pattern is kept for a language that has just been added. Those of other names stay, since
they are kept for other slots. -/
theorem keptFor?_addLanguage (h : r.Regular) (l : Language) (n : String) :
    (r.addLanguage l).keptFor? n = if n = l.name then none else r.keptFor? n := by
  rw [keptFor?, slotOf?_addLanguage h]
  split
  · rw [Option.bind_some, lookup_addLanguage h, if_pos rfl]
  · rename_i hn
    unfold keptFor?
    cases hslot : r.slotOf? n with
    | none => rfl
    | some slot =>
        obtain ⟨other, hother, hname⟩ := languageAt?_of_slotOf? hslot
        exact lookup_addLanguage_of_ne h hother (hname ▸ hn)

/-- The number of patterns goes down by one if there was one for the name, and stays otherwise. -/
theorem length_compiled_addLanguage (h : r.Regular) (l : Language) :
    (r.addLanguage l).compiled.length + (if (r.keptFor? l.name).isSome then 1 else 0)
      = r.compiled.length := by
  rw [compiled_addLanguage h.consistent, keptFor?_eq_lookup_slotFor h]
  exact Bindings.length_filter_ne h.ticketed.slots _

/-! ### Registries that differ in their slots -/

/-- Two registries are the same, but for the slots. All fields are about names and extensions, so
slots may be numbered in any way. -/
structure Alike (r r' : Registry) : Prop where
  language : ∀ n, r.language? n = r'.language? n
  typed : ∀ key, r.typed? key = r'.typed? key
  kept : ∀ n, r.keptFor? n = r'.keptFor? n
  listed : ∀ n, n ∈ r.languageNames ↔ n ∈ r'.languageNames
  patterns : r.compiled.length = r'.compiled.length
  nextTicket : r.nextTicket = r'.nextTicket

/-- A name can be found if and only if it leads to a language. A name is never bound to a slot that
has no language in it. -/
theorem contains_eq (h : r.Regular) (n : String) : r.contains n = (r.language? n).isSome := by
  unfold contains
  cases hfind : r.names.find? n with
  | none => simp [language?, hfind]
  | some slot =>
      obtain ⟨l, _, hl⟩ := languageAt?_of_find? h.consistent hfind
      rw [hl]
      rfl

/-- Alike registries have the same names. -/
theorem Alike.contains_eq (ha : r.Alike r') (h : r.Regular) (h' : r'.Regular) (n : String) :
    r.contains n = r'.contains n := by
  rw [Registry.contains_eq h, Registry.contains_eq h', ha.language]

/-- The name of a language that has been added is listed, with those that were listed before. -/
theorem mem_languageNames_addLanguage (h : r.Regular) (l : Language) (n : String) :
    n ∈ (r.addLanguage l).languageNames ↔ n ∈ r.languageNames ∨ n = l.name := by
  have hafter := mem_languageNames_after (n := n) h.consistent (.addLanguage l)
  simpa [after, Operation.language?] using hafter

/-- Adding the same language keeps registries alike, although it may go into different slots. What
each observation is afterwards depends only on what it was before and on the language. -/
theorem alike_addLanguage (ha : r.Alike r') (h : r.Regular) (h' : r'.Regular) (l : Language) :
    (r.addLanguage l).Alike (r'.addLanguage l) where
  language n := by rw [language?_addLanguage h, language?_addLanguage h', ha.language]
  typed key := by rw [typed?_addLanguage h, typed?_addLanguage h', ha.typed]
  kept n := by rw [keptFor?_addLanguage h, keptFor?_addLanguage h', ha.kept]
  listed n := by
    rw [mem_languageNames_addLanguage h, mem_languageNames_addLanguage h', ha.listed]
  patterns := by
    have hlength := length_compiled_addLanguage h l
    have hlength' := length_compiled_addLanguage h' l
    rw [ha.kept, ha.patterns] at hlength
    omega
  nextTicket := by rw [nextTicket_addLanguage, nextTicket_addLanguage, ha.nextTicket]

/-- Another name leads to where the name leads that it is another name of. If that one is unknown,
nothing changes. -/
theorem language?_addAlias (name other n : String) :
    (r.addAlias name other).language? n
      = if n = other ∧ r.contains name then r.language? name else r.language? n := by
  have hat : (r.addAlias name other).languageAt? = r.languageAt? := by
    unfold addAlias
    split <;> rfl
  rw [language?, find?_addAlias, hat]
  split <;> rfl

/-- Giving the same name keeps registries alike. It changes the names and nothing else, and it
changes them in both, or in neither. -/
theorem alike_addAlias (ha : r.Alike r') (h : r.Regular) (h' : r'.Regular) (name other : String) :
    (r.addAlias name other).Alike (r'.addAlias name other) := by
  -- All but the names is as it was before.
  have hrest : ∀ r : Registry, (r.addAlias name other).typed? = r.typed? ∧
      (r.addAlias name other).keptFor? = r.keptFor? ∧
      (r.addAlias name other).languageNames = r.languageNames ∧
      (r.addAlias name other).compiled = r.compiled ∧
      (r.addAlias name other).nextTicket = r.nextTicket := by
    intro r
    unfold addAlias
    split <;> exact ⟨rfl, rfl, rfl, rfl, rfl⟩
  obtain ⟨htyped, hkept, hlisted, hcompiled, hticket⟩ := hrest r
  obtain ⟨htyped', hkept', hlisted', hcompiled', hticket'⟩ := hrest r'
  constructor
  · intro n
    rw [language?_addAlias, language?_addAlias, ha.language, ha.language, ha.contains_eq h h']
  · rw [htyped, htyped']
    exact ha.typed
  · rw [hkept, hkept']
    exact ha.kept
  · rw [hlisted, hlisted']
    exact ha.listed
  · rw [hcompiled, hcompiled']
    exact ha.patterns
  · rw [hticket, hticket']
    exact ha.nextTicket

/-! ### Stylers -/

/-- In alike registries a name stands for the same language, also if the plain language stands
in. -/
theorem Alike.current?_eq (ha : r.Alike r') (h : r.Regular) (h' : r'.Regular) (name : String)
    (options : Options) : r.current? name options = r'.current? name options := by
  unfold current?
  rw [ha.contains_eq h h', ha.language, ha.language]

/-- A pattern that has been compiled is kept for the name of its language, and for no other name.
Other names of the language are resolved to its slot, and so need no entry. -/
theorem keptFor?_keep (h : r.Regular) (hl : r.languageAt? slot = some l) (p : Pattern)
    (n : String) : (r.keep slot p).keptFor? n
      = if n = l.name then some ⟨r.nextTicket, p⟩ else r.keptFor? n := by
  show (r.slotOf? n).bind (fun s => List.lookup s ((slot, ⟨r.nextTicket, p⟩) :: r.compiled)) = _
  by_cases hn : n = l.name
  · rw [if_pos hn, hn, (slotOf?_eq_some_iff h).mpr ⟨l, hl, rfl⟩, Option.bind_some]
    simp
  · rw [if_neg hn, keptFor?]
    refine Option.bind_congr fun taken htaken => ?_
    -- A language of another name has another slot, since no slot has two languages.
    have hne : (taken == slot) = false := by
      refine beq_eq_false_iff_ne.mpr fun heq => hn ?_
      obtain ⟨l', hl', hname⟩ := languageAt?_of_slotOf? htaken
      rw [heq, hl] at hl'
      cases hl'
      exact hname.symm
    rw [List.lookup_cons, hne]

/-- Keeping the same pattern for the same language keeps registries alike. Both hand out the same
ticket for it. -/
theorem alike_keep (ha : r.Alike r') (h : r.Regular) (h' : r'.Regular)
    (hl : r.languageAt? slot = some l) (hl' : r'.languageAt? slot' = some l) (p : Pattern) :
    (r.keep slot p).Alike (r'.keep slot' p) where
  language := ha.language
  typed := ha.typed
  kept n := by rw [keptFor?_keep h hl, keptFor?_keep h' hl', ha.kept, ha.nextTicket]
  listed := ha.listed
  patterns := congrArg (· + 1) ha.patterns
  nextTicket := congrArg (· + 1) ha.nextTicket

/-- Asking for a styler gives the same, and leaves the registries alike. The slots that the name
resolves to may differ, but not what is in them. -/
theorem Alike.styler (ha : r.Alike r') (h : r.Regular) (h' : r'.Regular) (name : String)
    (options : Options) :
    (r.styler name options).1 = (r'.styler name options).1 ∧
      (r.styler name options).2.Alike (r'.styler name options).2 := by
  have hcurrent := ha.current?_eq h h' name options
  rcases resolve_spec h.consistent name options with ⟨slot, l, hslot, hl, hc⟩ | ⟨herror, hc⟩
  · rcases resolve_spec h'.consistent name options with ⟨slot', l', hslot', hl', hc'⟩ | ⟨_, hc'⟩
    · -- The name leads to one language, and the pattern in its slot is the one kept for its name.
      rw [hc, hc'] at hcurrent
      cases hcurrent
      have hkept : r.compiled.lookup slot = r'.compiled.lookup slot' := by
        rw [← keptFor?_of_languageAt? h hl, ← keptFor?_of_languageAt? h' hl', ha.kept]
      obtain ⟨hstyler, ⟨hsame, hsame'⟩ | ⟨p, hkeep, hkeep'⟩⟩ :=
        styler_congr hslot hslot' hl hl' hkept ha.nextTicket
      · rw [hsame, hsame']
        exact ⟨hstyler, ha⟩
      · rw [hkeep, hkeep']
        exact ⟨hstyler, alike_keep ha h h' hl hl' p⟩
    · rw [hc, hc'] at hcurrent
      cases hcurrent
  · rcases resolve_spec h'.consistent name options with ⟨slot', l', hslot', hl', hc'⟩ | ⟨herror', _⟩
    · rw [hc, hc'] at hcurrent
      cases hcurrent
    · unfold Registry.styler
      rw [herror, herror']
      exact ⟨rfl, ha⟩

/-! ### Operations -/

/-- Each operation keeps registries alike. Files are read without regard to the registry, so they
add the same language to both. -/
theorem alike_after (ha : r.Alike r') (h : r.Regular) (h' : r'.Regular) (op : Operation) :
    (r.after op).Alike (r'.after op) := by
  cases op with
  | addLanguage l => exact alike_addLanguage ha h h' l
  | addFile f =>
      rcases after_addFile f with ⟨l, hf⟩ | hf
      · rw [hf, hf]
        exact alike_addLanguage ha h h' l
      · rw [hf, hf]
        exact ha
  | addPlain aliases => exact alike_addLanguage ha h h' _
  | addAlias name other => exact alike_addAlias ha h h' name other
  -- A styling may keep a pattern, which keeps the two alike as long as both keep it for the same
  -- name.
  | styler name options => exact (ha.styler h h' name options).2
  | style text name options =>
      have hop : (Operation.style text name options).request? = some (name, options) := rfl
      rw [after_of_request? hop, after_of_request? hop]
      exact (ha.styler h h' name options).2

/-- So do any operations, one after another. -/
theorem alike_foldl (ha : r.Alike r') (h : r.Regular) (h' : r'.Regular) (ops : List Operation) :
    (ops.foldl after r).Alike (ops.foldl after r') ∧
      (ops.foldl after r).Regular ∧ (ops.foldl after r').Regular := by
  induction ops generalizing r r' with
  | nil => exact ⟨ha, h, h'⟩
  | cons op ops ih => exact ih (alike_after ha h h' op) (regular_after h op) (regular_after h' op)

/-- Two languages that have nothing in common give registries that are alike in either order. If
they had a name in common, it would lead to the one that is added last. -/
theorem alike_swap (h : r.Regular) {a b : Language} (hnames : ∀ n, a.Declares n → ¬ b.Declares n)
    (htypes : ∀ key, a.DeclaresType key → ¬ b.DeclaresType key) :
    ((r.addLanguage a).addLanguage b).Alike ((r.addLanguage b).addLanguage a) := by
  -- Neither of the two replaces the other one, since their names differ.
  have hname : a.name ≠ b.name := fun heq => hnames a.name (Or.inl rfl) (Or.inl heq)
  have ha := regular_addLanguage h a
  have hb := regular_addLanguage h b
  constructor
  · intro n
    rw [language?_addLanguage ha, language?_addLanguage h, language?_addLanguage hb,
      language?_addLanguage h]
    exact Language.rebind_comm hname (hnames n) _
  · intro key
    rw [typed?_addLanguage ha, typed?_addLanguage h, typed?_addLanguage hb, typed?_addLanguage h]
    exact Language.rebind_comm hname (htypes key) _
  · intro n
    rw [keptFor?_addLanguage ha, keptFor?_addLanguage h, keptFor?_addLanguage hb,
      keptFor?_addLanguage h]
    split <;> split <;> rfl
  · intro n
    rw [mem_languageNames_addLanguage ha, mem_languageNames_addLanguage h,
      mem_languageNames_addLanguage hb, mem_languageNames_addLanguage h]
    exact or_right_comm
  · -- Each addition takes away the pattern of its name, and the other one does not touch that.
    have hafter := length_compiled_addLanguage ha b
    have hafter' := length_compiled_addLanguage hb a
    rw [keptFor?_addLanguage h, if_neg hname.symm] at hafter
    rw [keptFor?_addLanguage h, if_neg hname] at hafter'
    have hfirst := length_compiled_addLanguage h a
    have hfirst' := length_compiled_addLanguage h b
    omega
  · simp only [nextTicket_addLanguage]

/-! ### What can be seen -/

/-- No observation tells two registries apart. These are all the questions that can be put to a
registry without changing it, and the results of stylings. -/
structure Agree (r r' : Registry) : Prop where
  contains : ∀ n, r.contains n = r'.contains n
  language : ∀ n, r.language? n = r'.language? n
  fileType : ∀ extension, r.findByFileType extension = r'.findByFileType extension
  names : r.languageNames = r'.languageNames
  /-- The number of patterns that are kept. -/
  patterns : r.compiled.length = r'.compiled.length
  styler : ∀ name options, (r.styler name options).1 = (r'.styler name options).1
  style : ∀ text name options, (r.style text name options).1 = (r'.style text name options).1

/-- Slots do not show: registries that are alike agree on all observations. What is observed is said
of names, of file types and of the number of patterns, and never of slots. -/
theorem agree_of_alike (ha : r.Alike r') (h : r.Regular) (h' : r'.Regular) : r.Agree r' where
  contains := ha.contains_eq h h'
  language := ha.language
  fileType extension := by
    rw [findByFileType_eq, findByFileType_eq, ha.typed]
  names := by
    refine languageNames_eq_of_perm ?_
    refine (List.perm_ext_iff_of_nodup h.languages h'.languages).mpr fun n => ?_
    rw [← mem_languageNames, ← mem_languageNames]
    exact ha.listed n
  patterns := ha.patterns
  styler name options := (ha.styler h h' name options).1
  style text name options := by
    rw [style_eq_bind, style_eq_bind, (ha.styler h h' name options).1]

end Registry

/-- After any operations, two languages that declare no name and no extension both may be added in
either order. That cannot be told from the registry, then or after any `later` operations.

The two may go into each other's slots, so the registries are not equal. They are alike, which is
said without slots and is kept by all operations. -/
theorem agree_swap (ops : List Operation) (a b : Language)
    (hnames : ∀ n, a.Declares n → ¬ b.Declares n)
    (htypes : ∀ key, a.DeclaresType key → ¬ b.DeclaresType key) :
    let r := Registry.afterAll ops
    ∀ later : List Operation,
      (later.foldl Registry.after ((r.addLanguage a).addLanguage b)).Agree
        (later.foldl Registry.after ((r.addLanguage b).addLanguage a)) := by
  intro r later
  have h : r.Regular := Registry.regular_afterAll ops
  obtain ⟨ha, hab, hba⟩ := Registry.alike_foldl (Registry.alike_swap h hnames htypes)
    (Registry.regular_addLanguage (Registry.regular_addLanguage h a) b)
    (Registry.regular_addLanguage (Registry.regular_addLanguage h b) a) later
  exact Registry.agree_of_alike ha hab hba

/-- Two languages, of which the first one has been used. -/
def crossed : List Operation :=
  [.addLanguage ⟨"sh", ["posix"], ["sh"], []⟩, .addLanguage ⟨"tcl", ["wish"], ["tcl"], []⟩,
    .styler "sh" .standard]

/-- A language in place of the first one, with a name and an extension of the second one. -/
def wishShell : Language := ⟨"sh", ["wish"], ["TCL"], []⟩

/-- A language in place of the second one, with a name and an extension of the first one. -/
def posixTcl : Language := ⟨"tcl", ["posix"], ["SH"], []⟩

/-- In either order, each language has what it declares at the end, and the old pattern is gone.
Each of the two replaces a language whose names the other one takes over. -/
theorem crossed_agree :
    let r := Registry.afterAll crossed
    let r' := (r.addLanguage posixTcl).addLanguage wishShell
    r.compiled.length = 1 ∧
    ((r.addLanguage wishShell).addLanguage posixTcl).Agree r' ∧
    r'.language? "posix" = some posixTcl ∧ r'.findByFileType ".Tcl" = some wishShell ∧
    r'.compiled.length = 0 := by
  intro r r'
  have hnames : ∀ n, wishShell.Declares n → ¬ posixTcl.Declares n := by
    rintro n (rfl | hn)
    · decide
    · obtain rfl := List.mem_singleton.mp hn
      decide
  have htypes : ∀ key, wishShell.DeclaresType key → ¬ posixTcl.DeclaresType key := by
    rintro key ⟨t, ht, rfl⟩
    obtain rfl := List.mem_singleton.mp ht
    decide +kernel
  -- The two orders agree, so the answers can be computed in one of them, and hold in the other.
  have hagree := agree_swap crossed wishShell posixTcl hnames htypes []
  rw [List.foldl_nil, List.foldl_nil] at hagree
  refine ⟨by decide +kernel, hagree, ?_, ?_, ?_⟩
  · rw [← hagree.language]
    decide +kernel
  · rw [← hagree.fileType]
    decide +kernel
  · rw [← hagree.patterns]
    decide +kernel

end Highlight
