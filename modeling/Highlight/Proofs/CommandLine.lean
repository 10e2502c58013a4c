import Highlight.Proofs.Except
import Highlight.Proofs.Registry.Names
import Highlight.Proofs.Scan.Progress
import Highlight.Proofs.Span.RoundTrip

/-!
# `Highlight.Proofs.CommandLine`: the program does what its parts do

The program adds a definition to an empty registry, takes the first name that the registry lists,
and styles the text by that name. It might as well do without a registry. `spansOf_eq` says that
all it does is four steps: it loads the definition, reads the text, compiles the language and scans
the text, whatever names the definition declares.

`runWith_agrees` is the main statement. The program succeeds exactly if the first three steps do and
the scan ends. If one of the three fails, the first such step is the one that is reported. The JSON
text that is printed stands for the spans of the scan.

A scan need not end (`Highlight.Proofs.Scan.Progress`). So a definition that loads and compiles and
a text that can be read are not enough, which `not_exitCode_iff_ready` shows.
-/

set_option autoImplicit false

namespace Highlight

/-! ### A registry of one language -/

namespace Registry

variable (l : Language)

/-- A registry of one language lists the name of that language. So the name by which the program
asks for it is known. -/
theorem languageNames_addLanguage_empty : (empty.addLanguage l).languageNames = [l.name] :=
  List.mergeSort_singleton l.name

/-- The name of the only language stands for it, whatever other names it has. Its aliases are bound
after its name and to the same slot, so they cannot take the name away. -/
theorem current?_addLanguage_empty (options : Options) :
    (empty.addLanguage l).current? l.name options = some l := by
  have hfind : (empty.addLanguage l).names.find? l.name = some 0 := by
    rw [find?_addLanguage Bindings.distinct_empty, if_pos (Or.inl rfl)]
    rfl
  have hcontains : (empty.addLanguage l).contains l.name = true := by rw [contains, hfind]; rfl
  rw [current?, if_pos hcontains, language?, hfind]
  rfl

/-- The only language of a registry styles a text as it does by itself: it is compiled, and the text
is scanned. That the registry may keep the pattern makes no difference, since it was empty. -/
theorem style_addLanguage_empty (text : String) (options : Options) :
    ((empty.addLanguage l).style text l.name options).1
      = Pattern.ofLanguage l >>= fun p => p.spans text options := by
  rw [(style_spec (consistent_addLanguage consistent_empty) text l.name options).1, styleAfresh,
    current?_addLanguage_empty]
  cases hp : Pattern.ofLanguage l <;> simp only [hp] <;> rfl

end Registry

/-! ### The scan -/

namespace Pattern

variable {p : Pattern} {text : String} {options : Options}

/-- No search of the scan of a text stalls or fails. `SearchAt` goes through the positions that the
scan searches from, and every one of them has to let the scan go on. -/
def ScanEnds (p : Pattern) (text : String) : Prop :=
  let find : Finder Error := p.find text.toList.toArray
  ∀ k pos, SearchAt find text.length 0 k pos →
    ¬ Stalls find pos ∧ ∃ result, find pos = .ok result

/-- A scan ends if and only if the text is styled. The options have no part in it, although the
spans depend on them. -/
theorem scanEnds_iff (p : Pattern) (text : String) (options : Options) :
    p.ScanEnds text ↔ ∃ s, p.spans text options = .ok s := by
  rw [p.spans_ok_iff, scanFrom_ok_iff (p.find_inBounds text.toList.toArray) (p.find_forward _),
    List.size_toArray, String.length_toList]
  rfl

/-- No span is longer than all of them together. So a length that is too great for 64 bits cannot
come from a text whose size is not. -/
theorem len_le_sum {spans : List Span} {span : Span} (h : span ∈ spans) :
    span.len ≤ (spans.map (·.len)).sum := by
  induction spans with
  | nil => exact absurd h List.not_mem_nil
  | cons first spans ih =>
      rw [List.map_cons, List.sum_cons]
      rcases List.mem_cons.mp h with rfl | h
      · exact Nat.le_add_right _ _
      · exact Nat.le_trans (ih h) (Nat.le_add_left _ _)

/-- The lengths of the spans of a text that fits into memory fit into 64 bits, in every unit. They
add up to the measure of the text, and no unit counts more than its bytes. -/
theorem fits_of_spans {s : Spans} (h : p.spans text options = .ok s)
    (htext : text.utf8ByteSize < 2 ^ 64) : s.Fits := by
  intro span hspan
  have hsum := (isPartition_of_spansWith (p.find_inBounds text.toList.toArray) h).sum
  have hle := len_le_sum hspan
  have hmeasure := options.unit.measure_le_utf8ByteSize text
  rw [hsum] at hle
  exact Nat.le_pred_of_lt (Nat.lt_of_le_of_lt (Nat.le_trans hle hmeasure) htext)

end Pattern

/-! ### The steps of the program -/

namespace CommandLine

/-- The language that a file defines. The file is read and parsed, and the rules are checked. -/
def load (definition : File) : Except Error Language :=
  Definition.ofFile definition >>= fun d => d.toLanguage

/-- The program goes from step to step, and a registry makes no difference. What it asks the
registry for is the only language there, by the only name that is listed. -/
theorem spansOf_eq (definition text : File) (options : Options) :
    spansOf definition text options = (do
      let l ← Except.mapError .library (load definition)
      let t ← Except.mapError .input (textOf text)
      let p ← Except.mapError .library (Pattern.ofLanguage l)
      let s ← Except.mapError .library (p.spans t options)
      return (s, t)) := by
  rw [spansOf, Registry.addFile_eq, ← load]
  cases load definition with
  | error e => rfl
  | ok l =>
      -- From here on the registry holds one language, and styling by its name is styling with it.
      rw [Except.map, mapError_ok_bind, mapError_ok_bind]
      cases textOf text with
      | error e => rfl
      | ok t =>
          rw [mapError_ok_bind, mapError_ok_bind, Registry.languageNames_addLanguage_empty,
            List.headD_cons, Registry.style_addLanguage_empty]
          cases Pattern.ofLanguage l <;> rfl

/-- The definition loads, the text can be read, and the language compiles. These are the steps that
come before the scan. -/
structure Ready (definition text : File) (l : Language) (t : String) (p : Pattern) : Prop where
  loads : load definition = .ok l
  readable : textOf text = .ok t
  compiles : Pattern.ofLanguage l = .ok p

/-- The first step that fails before there is a pattern to scan the text with. Each constructor says
that the steps before it have succeeded, so there is one such step at most. -/
inductive FailsFirst (definition text : File) : Failure → Prop where
  | load {e : Error} (h : load definition = .error e) : FailsFirst definition text (.library e)
  | read {l : Language} {e : FileError} (hl : load definition = .ok l)
      (h : textOf text = .error e) : FailsFirst definition text (.input e)
  | compile {l : Language} {t : String} {e : Error} (hl : load definition = .ok l)
      (ht : textOf text = .ok t) (h : Pattern.ofLanguage l = .error e) :
      FailsFirst definition text (.library e)

variable {definition text : File} {l : Language} {t : String} {p : Pattern}

/-- Either all three steps succeed or one of them is the first that fails. The cases are taken in
the order in which the program takes the steps. -/
theorem ready_or_failsFirst (definition text : File) :
    (∃ l t p, Ready definition text l t p) ∨ ∃ e, FailsFirst definition text e := by
  cases hl : load definition with
  | error e => exact Or.inr ⟨_, .load hl⟩
  | ok l =>
      cases ht : textOf text with
      | error e => exact Or.inr ⟨_, .read hl ht⟩
      | ok t =>
          cases hp : Pattern.ofLanguage l with
          | error e => exact Or.inr ⟨_, .compile hl ht hp⟩
          | ok p => exact Or.inl ⟨l, t, p, hl, ht, hp⟩

/-- The first failure is the one that ends the program. The steps after it are not looked at, so
nothing is assumed of them. -/
theorem spansOf_of_failsFirst {e : Failure} (h : FailsFirst definition text e)
    (options : Options) : spansOf definition text options = .error e := by
  rw [spansOf_eq]
  cases h with
  | load h => rw [h, mapError_error_bind]
  | read hl h => rw [hl, mapError_ok_bind, h, mapError_error_bind]
  | compile hl ht h =>
      rw [hl, mapError_ok_bind, ht, mapError_ok_bind, h, mapError_error_bind]

/-- If the three steps succeed, the outcome of the program is that of the scan. -/
theorem spansOf_of_ready (h : Ready definition text l t p) (options : Options) :
    spansOf definition text options
      = Except.mapError .library ((p.spans t options).map fun s => (s, t)) := by
  rw [spansOf_eq, h.loads, mapError_ok_bind, h.readable, mapError_ok_bind, h.compiles,
    mapError_ok_bind]
  cases p.spans t options <;> rfl

/-! ### The program -/

variable {a : Arguments}

/-- The program ends with the failure, and prints nothing else. The details of the failure go to the
stream for errors. -/
theorem runWith_of_failsFirst {e : Failure} (h : FailsFirst definition text e) :
    runWith a definition text = ⟨1, "", "Error: " ++ e.details ++ "\n"⟩ := by
  rw [runWith, spansOf_of_failsFirst h]

/-- Once there is a pattern, the program succeeds with the spans of the text and prints them. -/
theorem runWith_of_spans {s : Spans} (h : Ready definition text l t p)
    (hs : p.spans t a.options = .ok s) :
    runWith a definition text = ⟨0, render a.json s t, ""⟩ := by
  rw [runWith, spansOf_of_ready h, hs]
  rfl

/-- Once there is a pattern, the program succeeds exactly if the scan ends. The options of the
command line do not matter, since they have no part in where the searches begin. -/
theorem exitCode_of_ready (h : Ready definition text l t p) :
    (runWith a definition text).exitCode = 0 ↔ p.ScanEnds t := by
  rw [p.scanEnds_iff t a.options]
  cases hs : p.spans t a.options with
  | ok s =>
      rw [runWith_of_spans h hs]
      exact ⟨fun _ => ⟨s, rfl⟩, fun _ => rfl⟩
  | error e =>
      rw [runWith, spansOf_of_ready h, hs]
      exact ⟨nofun, nofun⟩

/-- The program succeeds exactly if the definition loads, the text can be read, the language
compiles, and the scan of the text ends. If one of the first three steps fails, the program ends
with code 1, prints nothing, and reports the first failure. A JSON text that it prints stands for
the spans of the text in the language. -/
theorem runWith_agrees (a : Arguments) (definition text : File) :
    ((runWith a definition text).exitCode = 0 ↔
      ∃ l t p, Ready definition text l t p ∧ p.ScanEnds t) ∧
    ((∃ l t p, Ready definition text l t p) ∨
      ∃ e, FailsFirst definition text e ∧
        runWith a definition text = ⟨1, "", "Error: " ++ e.details ++ "\n"⟩) ∧
    ∀ l t p, Ready definition text l t p → (runWith a definition text).exitCode = 0 →
      ∃ s, p.spans t a.options = .ok s ∧
        runWith a definition text = ⟨0, render a.json s t, ""⟩ ∧
        (a.json = true → t.utf8ByteSize < 2 ^ 64 →
          Spans.ofJson (runWith a definition text).output = .ok s) := by
  refine ⟨⟨fun hexit => ?_, ?_⟩, ?_, ?_⟩
  · -- A step that fails first would have given another exit code.
    rcases ready_or_failsFirst definition text with ⟨l, t, p, h⟩ | ⟨e, he⟩
    · exact ⟨l, t, p, h, (exitCode_of_ready h).mp hexit⟩
    · rw [runWith_of_failsFirst he] at hexit
      cases hexit
  · rintro ⟨l, t, p, h, hends⟩
    exact (exitCode_of_ready h).mpr hends
  · exact (ready_or_failsFirst definition text).imp_right fun ⟨e, he⟩ =>
      ⟨e, he, runWith_of_failsFirst he⟩
  · -- The JSON text is read back as the spans that were printed.
    intro l t p h hexit
    obtain ⟨s, hs⟩ := (p.scanEnds_iff t a.options).mp ((exitCode_of_ready h).mp hexit)
    have hrun := runWith_of_spans h hs
    refine ⟨s, hs, hrun, fun hjson ht => ?_⟩
    rw [hrun, hjson]
    exact Spans.ofJson_render (Pattern.fits_of_spans hs ht) t

/-- The file with a text, which is encoded in UTF-8. -/
def fileOf (text : String) : File := .content (text.toList.flatMap String.utf8EncodeChar)

/-- A definition with its own name among its other names, and with a file type in upper case. -/
def vowels : File :=
  fileOf ("\x7b\"name\":\"vowels\",\"aliases\":[\"a\",\"vowels\"],\"fileTypes\":[\"V\"],"
    ++ "\"rules\":[\x7b\"name\":\"vowel\",\"pattern\":\"é\",\"group\":\"v\"\x7d]\x7d")

/-- The language of that definition. -/
def vowelsLanguage : Language := ⟨"vowels", ["a", "vowels"], ["V"], [⟨"vowel", "é", "v"⟩]⟩

/-- The language, ready for use. It has one group, that of its only rule. -/
def vowelsPattern : Pattern :=
  let body : Regex.Node := .literal ['é'] false
  ⟨"vowels", vowelsLanguage.combined, ⟨.capture 1 body, #[some (.capture 1 body), some body],
    [], [], [("v".toList, [1])]⟩, [⟨"vowel", 1⟩]⟩

/-- The bytes of a text, merged and printed as JSON. Two neighbouring letters of two bytes each make
one span of four. -/
theorem runWith_vowels_agrees :
    let result := runWith ⟨"vowels.json", "text", .bytes, true, true⟩ vowels (fileOf "néé")
    result.exitCode = 0 ∧
      Spans.ofJson result.output = .ok ⟨[.plain 1, .styled "vowel" 4], .bytes⟩ := by
  intro result
  have hready : Ready vowels (fileOf "néé") vowelsLanguage "néé" vowelsPattern :=
    ⟨by decide +kernel, by decide +kernel, by decide +kernel⟩
  have hspans : vowelsPattern.spans "néé" ⟨.bytes, true, "text", false⟩
      = .ok ⟨[.plain 1, .styled "vowel" 4], .bytes⟩ := by cbv
  have hagrees := runWith_agrees ⟨"vowels.json", "text", .bytes, true, true⟩ vowels (fileOf "néé")
  have hexit : result.exitCode = 0 :=
    hagrees.1.mpr ⟨_, _, _, hready, (vowelsPattern.scanEnds_iff "néé" _).mpr ⟨_, hspans⟩⟩
  obtain ⟨s, hs, _, hjson⟩ := hagrees.2.2 _ _ _ hready hexit
  obtain rfl := Except.ok.inj (hs.symm.trans hspans)
  exact ⟨hexit, hjson rfl (by decide)⟩

/-! ### A program without end -/

/-- The definition of a language that matches behind a letter and moves the start of the match
before it. A scan with it does not get on once it has passed the first letter. -/
def backwardFile : File :=
  fileOf ("\x7b\"name\":\"backward\",\"rules\":[\x7b\"name\":\"letter\","
    ++ "\"pattern\":\"(?<=\\\\Ka)\",\"group\":\"letter\"\x7d]\x7d")

/-- A definition that loads and compiles and a text that can be read need not lead to success: the
scan has to end besides. -/
theorem not_exitCode_iff_ready : ¬ ∀ (a : Arguments) (definition text : File),
    (runWith a definition text).exitCode = 0 ↔ ∃ l t p, Ready definition text l t p := by
  intro h
  have hready : Ready backwardFile (fileOf "ab") backward "ab" backwardPattern :=
    ⟨by decide +kernel, by decide +kernel, by decide +kernel⟩
  -- If the program succeeded, the scan would have ended.
  have hends : backwardPattern.ScanEnds "ab" :=
    (exitCode_of_ready hready).mp ((h ⟨"l", "i", .chars, false, true⟩ _ _).mpr ⟨_, _, _, hready⟩)
  have hfound : backwardPattern.find #['a', 'b'] 1 = .ok (some ⟨some 0, 0, 1⟩) := by
    decide +kernel
  exact (hends 1 1 (searchAt_backward 0)).1 ⟨_, hfound, by decide, rfl⟩

end CommandLine

end Highlight
