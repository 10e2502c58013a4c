import Highlight.Definition
import Highlight.Proofs.Json.Faults
import Highlight.Proofs.Json.Symbol

/-!
# `Highlight.Proofs.Definition.Sources`: definitions in texts and in files

A definition comes as a text, or as the bytes of a file. A text is read as a whole, and a file as a
stream of bytes, of which it is not known in advance that they are those of a text.

`ofFile_ofText` is the main statement. Whatever a text contains, a file with its bytes and the text
itself give equal definitions, and so the same language or the same fault of the definition, or both
are rejected as JSON. There is one difference: the error of the file may be placed one byte further.
-/

set_option autoImplicit false

namespace Highlight

open Json (Reader Symbol)

/-- The reader of a rule has its two places next to each other, since those of its three fields
do. -/
theorem RuleDefinition.failsNear_reader : Reader.FailsNear reader := by
  have hread : Reader.FailsNear record.read := by
    refine Json.Record.failsNear_read fun f hf d => ?_
    simp only [record, List.mem_cons, List.not_mem_nil, or_false] at hf
    rcases hf with rfl | rfl | rfl <;> simp
  exact Reader.failsNear_bind hread fun d => Reader.failsNear_pure _

namespace Definition

/-- So has the reader of other names and of file types, which are lists of texts. -/
theorem failsNear_stringList : Reader.FailsNear stringList :=
  Reader.failsNear_listValue (Reader.failsNear_stringValue "a string")

/-- The reader of a definition has its two places next to each other. Its fields are a text, two
lists of texts and a list of rules. -/
theorem failsNear_reader : Reader.FailsNear reader := by
  have hstrings := failsNear_stringList
  have hrules := Reader.failsNear_listValue RuleDefinition.failsNear_reader
  have hread : Reader.FailsNear record.read := by
    refine Json.Record.failsNear_read fun f hf d => ?_
    simp only [record, List.mem_cons, List.not_mem_nil, or_false] at hf
    rcases hf with rfl | rfl | rfl | rfl <;> simp [hstrings, hrules]
  exact Reader.failsNear_bind hread fun d => Reader.failsNear_pure _

/-- The file with the bytes of a text. Not all files are of this kind, but those that are not are
rejected at a byte which no text has. -/
def utf8File (text : String) : File := .content text.toUTF8.data.toList

/-- A text and the file with its bytes are both accepted or both rejected. If they are accepted,
they give equal definitions, and the same language or the same fault when it is checked. If they are
rejected, it is as JSON and for the same reason, and the place of the error in the file is that in
the text or one byte further. -/
theorem ofFile_ofText (text : String) :
    (∃ d, ofFile (utf8File text) = .ok d ∧ ofText text = .ok d ∧
      (ofFile (utf8File text) >>= toLanguage) = d.toLanguage ∧
      (ofText text >>= toLanguage) = d.toLanguage) ∨
    ∃ cause n k, k ≤ 1 ∧ n + k ≤ text.utf8ByteSize ∧
      let place := Symbol.place (Symbol.ofChars text.toList)
      ofText text = .error (.json ⟨cause, (place n).1, (place n).2⟩) ∧
      ofFile (utf8File text) = .error (.json ⟨cause, (place (n + k)).1, (place (n + k)).2⟩) := by
  -- The file holds the same symbols as the text, so only the way of reading makes a difference.
  rcases Reader.run_whole_stream failsNear_reader (Symbol.ofChars text.toList) with
    ⟨d, hwhole, hstream⟩ | ⟨cause, n, k, hk, hle, hwhole, hstream⟩
  · have hfile : ofFile (utf8File text) = .ok d := by
      rw [utf8File, ofFile, Symbol.ofBytes_toUTF8, hstream]
    have htext : ofText text = .ok d := by rw [ofText, hwhole]
    exact Or.inl ⟨d, hfile, htext, by rw [hfile]; rfl, by rw [htext]; rfl⟩
  · rw [Symbol.size_ofChars] at hle
    refine Or.inr ⟨cause, n, k, hk, hle, ?_, ?_⟩
    · rw [ofText, hwhole]
    · rw [utf8File, ofFile, Symbol.ofBytes_toUTF8, hstream]

/-- After a number has been looked through to its end, the error of a stream is one byte further. -/
example : ofText "[3, [], [], []]" = .error (.json ⟨.wrongKind (.integer 3) "a string", 1, 2⟩) ∧
    ofFile (utf8File "[3, [], [], []]")
      = .error (.json ⟨.wrongKind (.integer 3) "a string", 1, 3⟩) := by
  decide +kernel

end Definition

end Highlight
