import Highlight.Proofs.Except
import Highlight.Scan

/-!
# `Highlight.Proofs.Pattern`: what compiling a language gives

* `ofLanguage_eq`: compiling a language takes three passes.
* `ofLanguage_eq_ok`: a language compiles only if all its patterns do, each alone and all in
  one, and each rule has its group in the combined pattern exactly once.
* `ofLanguage_eq_error`, `spans_eq_error`: a language that does not compile and a scan that does
  not end are blamed on the language. Neither fails as if the language were not known.
-/

set_option autoImplicit false

namespace Highlight

/-- An error is blamed on a language: it is about the patterns of that language, or about a scan
with them. -/
def Error.Blames (language : String) : Error → Prop
  | .invalidPattern name _ _ => name = language
  | .duplicateGroup name _ => name = language
  | .endless name => name = language
  | _ => False

namespace Pattern

variable {language : String}

/-! ### Single patterns -/

/-- A pattern compiles to the program that is made of it. For whom it is compiled makes no
difference. -/
theorem compile_eq_ok_iff {group : Option String} {pattern : String} {q : Regex.Program} :
    compile language group pattern = .ok q ↔ Regex.Program.ofPattern pattern.toList = .ok q := by
  unfold compile
  cases Regex.Program.ofPattern pattern.toList with
  | ok q' => simp
  | error e => simp

/-- A pattern that does not compile is blamed on the language, with the fault of the pattern. The
group says which rule it was, if it was the pattern of one. -/
theorem compile_eq_error_iff {group : Option String} {pattern : String} {e : Error} :
    compile language group pattern = .error e ↔
      ∃ e', Regex.Program.ofPattern pattern.toList = .error e' ∧
        e = .invalidPattern language group (.malformed e') := by
  unfold compile
  cases Regex.Program.ofPattern pattern.toList with
  | ok q => simp
  | error e' => simp [eq_comm]

/-- A rule that is compiled keeps its style, and its group is the only one of that name. No group
and more than one group are errors. -/
theorem compileRule_eq_ok {p : Regex.Program} {r : Rule} {c : CompiledRule}
    (h : compileRule language p r = .ok c) :
    c.style = r.style ∧ p.groupsNamed r.group.toList = [c.group] := by
  unfold compileRule at h
  split at h
  · rename_i g hg
    cases h
    exact ⟨rfl, hg⟩
  · cases h
  · cases h

/-- A rule without exactly one group is blamed on the language. -/
theorem compileRule_eq_error {p : Regex.Program} {r : Rule} {e : Error}
    (h : compileRule language p r = .error e) : e.Blames language := by
  unfold compileRule at h
  split at h <;> cases h <;> rfl

/-! ### Languages -/

/-- What holds of a language and its pattern. The rules are compared one by one, for inductions
along the two lists. -/
structure Compiles (l : Language) (p : Pattern) : Prop where
  /-- The pattern has the name of the language. -/
  name : p.language = l.name
  /-- The pattern of each rule compiles on its own. -/
  alone : ∀ r ∈ l.rules, ∃ q, Regex.Program.ofPattern r.pattern.toList = .ok q
  /-- All of them compile in one. -/
  program : Regex.Program.ofPattern l.combined.toList = .ok p.program
  /-- The rules keep their order and styles, and each has its group exactly once. -/
  rules : List.Forall₂
    (fun r c => c.style = r.style ∧ p.program.groupsNamed r.group.toList = [c.group])
    l.rules p.rules

/-- Compiling a language takes three passes: each pattern alone, all of them in one, and the group
of each rule. -/
theorem ofLanguage_eq (l : Language) :
    ofLanguage l = do
      let _ ← l.rules.mapM fun r => compile l.name (some r.group) r.pattern
      let q ← compile l.name none l.combined
      let rules ← l.rules.mapM (compileRule l.name q)
      return ⟨l.name, l.combined, q, rules⟩ := by
  unfold ofLanguage
  rw [forIn_discard]
  cases l.rules.mapM fun r => compile l.name (some r.group) r.pattern <;> rfl

/-- The first pass goes through if the pattern of each rule compiles on its own. What it compiles to
is not kept. -/
theorem exists_mapM_compile_iff {l : Language} :
    (∃ qs, l.rules.mapM (fun r => compile l.name (some r.group) r.pattern) = .ok qs) ↔
      ∀ r ∈ l.rules, ∃ q, Regex.Program.ofPattern r.pattern.toList = .ok q := by
  constructor
  · rintro ⟨qs, hqs⟩ r hr
    obtain ⟨i, hi⟩ := List.getElem?_of_mem hr
    obtain ⟨q, _, hq⟩ := getElem?_of_mapM_eq_ok hqs hi
    exact ⟨q, compile_eq_ok_iff.mp hq⟩
  · intro halone
    cases h : l.rules.mapM fun r => compile l.name (some r.group) r.pattern with
    | ok qs => exact ⟨qs, rfl⟩
    | error e =>
        obtain ⟨i, r, hr, he, _⟩ := mapM_eq_error_iff.mp h
        obtain ⟨q, hq⟩ := halone r (List.mem_of_getElem? hr)
        cases he.symm.trans (compile_eq_ok_iff.mpr hq)

/-- If a language compiles, all three passes have succeeded. What they have left behind makes up the
pattern, except for the programs of the single rules, which are thrown away. -/
theorem ofLanguage_eq_ok {l : Language} {p : Pattern} (h : ofLanguage l = .ok p) :
    Compiles l p := by
  rw [ofLanguage_eq] at h
  obtain ⟨qs, hqs, h⟩ := exists_of_bind_eq_ok h
  obtain ⟨q, hq, h⟩ := exists_of_bind_eq_ok h
  obtain ⟨cs, hcs, h⟩ := exists_of_bind_eq_ok h
  cases h
  exact {
    name := rfl
    alone := exists_mapM_compile_iff.mp ⟨qs, hqs⟩
    program := compile_eq_ok_iff.mp hq
    rules := (forall₂_of_mapM_eq_ok hcs).imp fun _ _ => compileRule_eq_ok }

/-- A language that does not compile is to blame itself, in whichever pass it fails. So an error of
a styling tells an unknown name from a language that does not compile. -/
theorem ofLanguage_eq_error {l : Language} {e : Error} (h : ofLanguage l = .error e) :
    e.Blames l.name := by
  -- The first two passes compile patterns, and blame the language in the same way.
  have hcompile : ∀ {group : Option String} {pattern : String},
      compile l.name group pattern = .error e → e.Blames l.name := by
    intro group pattern h
    obtain ⟨e', _, rfl⟩ := compile_eq_error_iff.mp h
    rfl
  rw [ofLanguage_eq] at h
  rcases bind_eq_error_iff.mp h with h | ⟨qs, _, h⟩
  · obtain ⟨_, r, _, he, _⟩ := mapM_eq_error_iff.mp h
    exact hcompile he
  · rcases bind_eq_error_iff.mp h with h | ⟨q, _, h⟩
    · exact hcompile h
    · rcases bind_eq_error_iff.mp h with h | ⟨cs, _, h⟩
      · obtain ⟨_, r, _, he, _⟩ := mapM_eq_error_iff.mp h
        exact compileRule_eq_error he
      · cases h

/-! ### Scans -/

/-- A search that gives no answer is blamed on the language. -/
theorem find_eq_error {p : Pattern} {text : Array Char} {pos : Nat} {e : Error}
    (h : p.find text pos = .error e) : e = .endless p.language := by
  unfold find at h
  split at h <;> cases h
  rfl

/-- A scan fails as one of its searches does, or because it does not get on. There is nothing else
in the loop that could fail. -/
theorem scanFrom_eq_error {ε : Type} {find : Finder ε} {stalled : ε} {size : Nat} {merge : Bool}
    {styleOf : Option Nat → String} {pos : Nat} {c : Cover} {e : ε}
    (h : scanFrom find stalled size merge styleOf pos c = .error e) :
    e = stalled ∨ ∃ pos', find pos' = .error e := by
  -- Of the six cases of the scan, two fail and one goes on.
  fun_induction scanFrom find stalled size merge styleOf pos c with
  | case1 pos c hlt e' herr =>
      cases h
      exact Or.inr ⟨pos, herr⟩
  | case2 pos c hlt hnone => cases h
  | case3 pos c hlt f hf hresume => cases h
  | case4 pos c hlt f hf next hresume hnext ih => exact ih h
  | case5 pos c hlt f hf next hresume hnext =>
      cases h
      exact Or.inl rfl
  | case6 pos c hge => cases h

/-- The spans of a text fail in one way only. A language that has been compiled has no other fault
left. -/
theorem spans_eq_error {p : Pattern} {text : String} {options : Options} {e : Error}
    (h : p.spans text options = .error e) : e = .endless p.language := by
  unfold spans spansWith segments at h
  cases hscan : scanFrom (p.find text.toList.toArray) (.endless p.language)
      text.toList.toArray.size options.merge (p.styleOf options.fallback) 0 .empty with
  | error e' =>
      simp only [hscan] at h
      cases h
      rcases scanFrom_eq_error hscan with he | ⟨pos, hpos⟩
      · exact he
      · exact find_eq_error hpos
  | ok c =>
      simp only [hscan] at h
      cases h

end Pattern

end Highlight
