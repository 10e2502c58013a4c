import Highlight.Proofs.CommandLine
import Highlight.Proofs.Scan.Styles
import Highlight.Proofs.Span.Slices
import Highlight.Proofs.Text.Quoted

/-!
# `Highlight.Proofs.CommandLine.Lines`: a line for each span

Without `--json` the program prints a line for each span: its style, its length, and its piece of
the text in quotes. `IsListing` says what these lines are good for. The pieces can be read back from
the ends of the lines, and together they are the text.

Whether the output falls into these lines depends on the styles. A piece is quoted, and brings no
line feed with it whatever it contains. A style is printed as it is. `runWith_isListing` is the main
statement: the output falls into one line for each span if and only if no style of a span has a line
feed, and the rules of the language are the only source of such styles. `not_runWith_isListing`
shows that a definition may have one.

`linesOf?` takes a text apart without knowing what it was put together from. It is compared with
what the program puts together by `linesOf?_join_iff`.
-/

set_option autoImplicit false

namespace Highlight.CommandLine

/-! ### Lines of a text -/

/-- Goes through characters and collects lines. `before` is what has been read of the next line, the
latest character first. A text whose last line has no line feed does not consist of lines. -/
def linesFrom : List Char → List Char → Option (List (List Char))
  | [], [] => some []
  | _ :: _, [] => none
  | before, c :: cs =>
    if c = '\n' then (linesFrom [] cs).map (before.reverse :: ·) else linesFrom (c :: before) cs

/-- The lines of a text without their line feeds, if each line has one. It knows nothing of spans,
so it does what any reader of the output would do. -/
def linesOf? (text : String) : Option (List String) :=
  (linesFrom [] text.toList).map (·.map String.ofList)

/-- A line feed ends a line. What stands before it, without a line feed of its own, is the rest of
the line that was begun. -/
theorem linesFrom_append {cs : List Char} (h : '\n' ∉ cs) (before rest : List Char) :
    linesFrom before (cs ++ '\n' :: rest)
      = (linesFrom [] rest).map ((before.reverse ++ cs) :: ·) := by
  induction cs generalizing before with
  | nil => rw [List.nil_append, List.append_nil, linesFrom, if_pos rfl]
  | cons c cs ih =>
      obtain ⟨hc, hcs⟩ := not_or.mp (mt List.mem_cons.mpr h)
      rw [List.cons_append, linesFrom, if_neg (Ne.symm hc), ih hcs, List.reverse_cons,
        List.append_assoc, List.singleton_append]

/-- Lines have no line feeds of their own. The induction follows the reader, with what it has read
of the next line. -/
theorem newline_not_mem_of_linesFrom {before cs : List Char} (hbefore : '\n' ∉ before)
    {ls : List (List Char)} (h : linesFrom before cs = some ls) : ∀ l ∈ ls, '\n' ∉ l := by
  fun_induction linesFrom before cs generalizing ls with
  | case1 => cases h; exact nofun
  | case2 => cases h
  | case3 before cs ih =>
      obtain ⟨rest, hrest, rfl⟩ := Option.map_eq_some_iff.mp h
      exact List.forall_mem_cons.mpr ⟨by simpa using hbefore, ih List.not_mem_nil hrest⟩
  | case4 before c cs hc ih =>
      -- What has been read of the line stays without a line feed.
      exact ih (fun hmem => (List.mem_cons.mp hmem).elim (Ne.symm hc) hbefore) h

/-- Lines that have been put together are taken apart, if none of them contains a line feed.
Otherwise there would be more of them. -/
theorem linesFrom_flatMap {ls : List (List Char)} (h : ∀ l ∈ ls, '\n' ∉ l) :
    linesFrom [] (ls.flatMap (· ++ ['\n'])) = some ls := by
  induction ls with
  | nil => rfl
  | cons l ls ih =>
      obtain ⟨hl, hls⟩ := List.forall_mem_cons.mp h
      rw [List.flatMap_cons, List.append_assoc, List.singleton_append, linesFrom_append hl, ih hls]
      rfl

/-- A text that consists of some lines falls into them exactly if they have no line feeds of their
own. Otherwise there are more lines than were put together. -/
theorem linesOf?_join_iff (ls : List String) :
    linesOf? (String.join (ls.map (· ++ "\n"))) = some ls ↔ ∀ l ∈ ls, '\n' ∉ l.toList := by
  have hchars : (String.join (ls.map (· ++ "\n"))).toList
      = (ls.map String.toList).flatMap (· ++ ['\n']) := by
    simp [String.toList_join, List.flatMap_map]
  constructor
  · intro h l hl
    obtain ⟨lists, hlists, rfl⟩ := Option.map_eq_some_iff.mp h
    obtain ⟨cs, hcs, rfl⟩ := List.mem_map.mp hl
    rw [String.toList_ofList]
    exact newline_not_mem_of_linesFrom List.not_mem_nil hlists cs hcs
  · intro h
    have hlists : ∀ cs ∈ ls.map String.toList, '\n' ∉ cs := by simpa using h
    rw [linesOf?, hchars, linesFrom_flatMap hlists]
    simp

/-! ### Entries -/

/-- What is printed about the spans of a text: for each span an entry, with the piece that it
covers. -/
def entries (s : Spans) (text : String) : List String :=
  (s.spans.zip (s.slices text)).map fun e => entry e.1 e.2.1

/-- The output without `--json` is the entries, with a line feed after each. -/
theorem lines_eq (s : Spans) (text : String) :
    lines s text = String.join ((entries s text).map (· ++ "\n")) := by
  rw [entries, List.map_map, lines, ← List.map_uncurry_zip_eq_zipWith]
  rfl

/-- The piece is read back whatever the style is, since there are spaces before it. A quote in the
style is not taken for the beginning of the piece. -/
theorem quotedAtEnd?_entry (s : Span) (piece : String) :
    Text.quotedAtEnd? (entry s piece) = some piece := by
  refine Text.quotedAtEnd?_append ?_ piece
  simp

/-- Only a style can bring a line feed into a line. The piece is quoted, and the length consists of
digits. -/
theorem newline_mem_entry_iff (s : Span) (piece : String) :
    '\n' ∈ (entry s piece).toList ↔ ∃ style ∈ s.style, '\n' ∈ style.toList := by
  -- Between the style and the quoted piece there are only spaces and digits.
  have hlen : '\n' ∉ (toString s.len).toList := by
    intro hmem
    have hdigit := Nat.isDigit_of_mem_toDigits (b := 10) (by decide) (by decide)
      (show '\n' ∈ Nat.toDigits 10 s.len by simpa using hmem)
    cases hdigit
  have hquoted := Text.newline_not_mem_quoted piece
  simp only [entry, padRight, padLeft, String.toList_append, String.toList_ofList, List.mem_append,
    List.mem_replicate]
  cases s.style <;> simp_all

/-- An entry begins with the style and ends in the quoted piece. In between there are spaces and the
length. -/
theorem entry_begins_ends (s : Span) (piece : String) :
    (s.style.getD "-").toList <+: (entry s piece).toList ∧
      (Text.quoted piece).toList <:+ (entry s piece).toList := by
  rw [entry, String.toList_append]
  refine ⟨?_, List.suffix_append _ _⟩
  simp only [padRight, String.toList_append, String.toList_ofList, List.append_assoc]
  exact List.prefix_append _ _

/-- What the lines about the spans of a text promise. The third and the fourth are about reading
them back, without knowing the spans. -/
structure IsListing (s : Spans) (text : String) (ls : List String) : Prop where
  /-- There is one for each span. -/
  count : ls.length = s.count
  /-- It begins with the style of the span, and ends in its piece of the text in quotes. -/
  line : ∀ (i : Nat) (span : Span) (piece : String × Option String) (l : String),
    s.spans[i]? = some span → (s.slices text)[i]? = some piece → ls[i]? = some l →
      (span.style.getD "-").toList <+: l.toList ∧ (Text.quoted piece.1).toList <:+ l.toList
  /-- What is quoted at the ends of the lines are the pieces of the text. -/
  pieces : ls.mapM Text.quotedAtEnd? = some ((s.slices text).map (·.1))
  /-- Together they are the text. -/
  join : (ls.mapM Text.quotedAtEnd?).map String.join = some text

/-- There are as many pieces as spans, however the lengths of the spans fit the text. -/
theorem length_slices (s : Spans) (text : String) : (s.slices text).length = s.spans.length := by
  simpa [Spans.slices] using congrArg List.length
    (Spans.map_style_slicesFrom s.unit s.spans text.toList)

/-- All pieces are read back from the entries, in their order. There are as many pieces as spans, so
pairing the two loses none. -/
theorem mapM_quotedAtEnd?_entries (s : Spans) (text : String) :
    (entries s text).mapM Text.quotedAtEnd? = some ((s.slices text).map (·.1)) := by
  have hread : (Text.quotedAtEnd? ∘ fun e : Span × String × Option String => entry e.1 e.2.1)
      = fun e => pure e.2.1 := by
    funext e
    rw [Function.comp_apply, quotedAtEnd?_entry]
    rfl
  have hpieces : (s.spans.zip (s.slices text)).map (·.2) = s.slices text :=
    List.map_snd_zip (Nat.le_of_eq (length_slices s text))
  rw [entries, List.mapM_map, hread, List.mapM_pure]
  conv_rhs => rw [← hpieces, List.map_map]
  rfl

/-- A line feed in a line comes from the style of a span, and each such style brings one. The pieces
of the text have no part in it. -/
theorem newline_not_mem_entries_iff (s : Spans) (text : String) :
    (∀ l ∈ entries s text, '\n' ∉ l.toList) ↔
      ∀ span ∈ s.spans, ∀ style ∈ span.style, '\n' ∉ style.toList := by
  have hspans : (s.spans.zip (s.slices text)).map (·.1) = s.spans :=
    List.map_fst_zip (Nat.le_of_eq (length_slices s text).symm)
  conv_rhs => rw [← hspans]
  simp only [entries, List.forall_mem_map, newline_mem_entry_iff, not_exists, not_and]

/-- The entries of a partition list it. Of the partition only the last property is needed: its
pieces are the text. -/
theorem entries_isListing {s : Spans} {text : String} {options : Options}
    (h : IsPartition text options s) : IsListing s text (entries s text) := by
  have hpieces := mapM_quotedAtEnd?_entries s text
  exact {
    count := by
      rw [entries, List.length_map, List.length_zip, length_slices, Nat.min_self, Spans.count]
    line := by
      intro i span piece l hspan hpiece hl
      have hzip : (s.spans.zip (s.slices text))[i]? = some (span, piece) :=
        List.getElem?_zip_eq_some.mpr ⟨hspan, hpiece⟩
      rw [entries, List.getElem?_map, hzip] at hl
      cases hl
      exact entry_begins_ends span piece.1
    pieces := hpieces
    join := by rw [hpieces, Option.map_some, h.join] }

/-! ### The program -/

variable {a : Arguments} {definition text : File} {l : Language} {t : String} {p : Pattern}

/-- Without line feeds in the styles of rules there are none in those of spans. The only other style
is the fallback, which the program does not let the user choose. -/
theorem newline_not_mem_style (h : Ready definition text l t p) {s : Spans}
    (hs : p.spans t a.options = .ok s) (hrules : ∀ r ∈ l.rules, '\n' ∉ r.style.toList) :
    ∀ span ∈ s.spans, ∀ style ∈ span.style, '\n' ∉ style.toList := by
  intro span hspan style hstyle
  rcases style_of_mem_spans h.compiles hs hspan hstyle with ⟨r, hr, rfl⟩ | rfl
  · exact hrules r hr
  · show '\n' ∉ Options.standard.fallback.toList
    decide

/-- Without `--json` the program prints an entry for each span and ends each with a line feed. The
entries list the spans, and the text can be read back from them. They are the lines of the output if
and only if no span has a style with a line feed. In particular they are if no rule has one. -/
theorem runWith_isListing (h : Ready definition text l t p) (hends : p.ScanEnds t)
    (hjson : a.json = false) : ∃ s, p.spans t a.options = .ok s ∧
      runWith a definition text = ⟨0, String.join ((entries s t).map (· ++ "\n")), ""⟩ ∧
      IsListing s t (entries s t) ∧
      (linesOf? (runWith a definition text).output = some (entries s t) ↔
        ∀ span ∈ s.spans, ∀ style ∈ span.style, '\n' ∉ style.toList) ∧
      ((∀ r ∈ l.rules, '\n' ∉ r.style.toList) →
        linesOf? (runWith a definition text).output = some (entries s t)) := by
  obtain ⟨s, hs⟩ := (p.scanEnds_iff t a.options).mp hends
  have hrun := runWith_of_spans h hs
  rw [hjson, render, if_neg Bool.false_ne_true, lines_eq] at hrun
  have hpartition := Pattern.isPartition_of_spansWith (p.find_inBounds t.toList.toArray) hs
  -- The entries are the lines exactly if they bring no line feeds of their own.
  have hlines : linesOf? (runWith a definition text).output = some (entries s t) ↔
      ∀ span ∈ s.spans, ∀ style ∈ span.style, '\n' ∉ style.toList := by
    rw [hrun, linesOf?_join_iff]
    exact newline_not_mem_entries_iff s t
  exact ⟨s, hs, hrun, entries_isListing hpartition, hlines,
    fun hrules => hlines.mpr (newline_not_mem_style h hs hrules)⟩

/-- A language with one rule, whose style may be any text. -/
def crossLanguage (style : String) : Language := ⟨"l", [], [], [⟨style, "x", "g"⟩]⟩

/-- The definition of that language. The style is written as a JSON string, since it may contain
quotes. -/
def crossFile (style : String) : File :=
  fileOf ("\x7b\"name\":\"l\",\"rules\":[\x7b\"name\":" ++ String.ofList (Json.written style)
    ++ ",\"pattern\":\"x\",\"group\":\"g\"\x7d]\x7d")

/-- That language, ready for use. The style has no part in what is matched. -/
def crossPattern (style : String) : Pattern :=
  let body : Regex.Node := .literal ['x'] false
  ⟨"l", (crossLanguage style).combined, ⟨.capture 1 body, #[some (.capture 1 body), some body],
    [], [], [("g".toList, [1])]⟩, [⟨style, 1⟩]⟩

/-- Lines with quotes in their styles, about a text with a line feed and a backslash. The pieces are
read back as they are. -/
theorem cross_isListing :
    let result := runWith ⟨"l.json", "text", .chars, false, false⟩ (crossFile "a \"b\"  ")
      (fileOf "\"x\\\nx\t")
    result.exitCode = 0 ∧ ∃ ls, linesOf? result.output = some ls ∧
      ls.mapM Text.quotedAtEnd? = some ["\"", "x", "\\\n", "x", "\t"] := by
  intro result
  have hready : Ready (crossFile "a \"b\"  ") (fileOf "\"x\\\nx\t") (crossLanguage "a \"b\"  ")
      "\"x\\\nx\t" (crossPattern "a \"b\"  ") :=
    ⟨by decide +kernel, by decide +kernel, by decide +kernel⟩
  have hspans : (crossPattern "a \"b\"  ").spans "\"x\\\nx\t" ⟨.chars, false, "text", false⟩
      = .ok ⟨[.plain 1, .styled "a \"b\"  " 1, .plain 2, .styled "a \"b\"  " 1, .plain 1],
        .chars⟩ := by cbv
  obtain ⟨s, hs, hrun, hlisting, _, hlines⟩ :=
    runWith_isListing (a := ⟨"l.json", "text", .chars, false, false⟩) hready
      (((crossPattern _).scanEnds_iff _ _).mpr ⟨_, hspans⟩) rfl
  -- The spans of the listing are the spans of this text, so its lines can be computed.
  obtain rfl := Except.ok.inj (hs.symm.trans hspans)
  refine ⟨congrArg Result.exitCode hrun, _, hlines (by decide), ?_⟩
  rw [hlisting.pieces]
  cbv

/-- A line feed in the name of a style gives a span two lines. So the number of lines need not be
that of the spans. -/
theorem not_runWith_isListing : ¬ ∀ (a : Arguments) (definition text : File) (l : Language)
    (t : String) (p : Pattern), Ready definition text l t p → p.ScanEnds t → a.json = false →
      ∃ s ls, p.spans t a.options = .ok s ∧
        linesOf? (runWith a definition text).output = some ls ∧ ls.length = s.count := by
  intro h
  have hready : Ready (crossFile "a\nb") (fileOf "x") (crossLanguage "a\nb") "x"
      (crossPattern "a\nb") :=
    ⟨by decide +kernel, by decide +kernel, by decide +kernel⟩
  have hspans : (crossPattern "a\nb").spans "x" ⟨.chars, false, "text", false⟩
      = .ok ⟨[.styled "a\nb" 1], .chars⟩ := by cbv
  let a : Arguments := ⟨"l.json", "text", .chars, false, false⟩
  obtain ⟨s, ls, hs, hls, hcount⟩ := h a _ _ _ _ _ hready
    (((crossPattern _).scanEnds_iff _ _).mpr ⟨_, hspans⟩) rfl
  obtain rfl := Except.ok.inj (hs.symm.trans hspans)
  rw [runWith_of_spans (a := a) hready hspans] at hls
  -- The one span of the text takes two lines.
  have htwo : (linesOf? (render false ⟨[.styled "a\nb" 1], .chars⟩ "x")).map List.length
      = some 2 := by cbv
  have hlength : some ls.length = some 2 := (congrArg (Option.map List.length) hls).symm.trans htwo
  rw [hcount] at hlength
  cases hlength

end Highlight.CommandLine
