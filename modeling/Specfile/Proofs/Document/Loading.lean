import Specfile.Document
import Specfile.Proofs.Text.Utf8

/-! Loading a document. Its path can be read and what it holds is a text; the document has that
text with its line endings made one. A text without carriage returns is kept as it is, so what
saving such a document writes is what it was loaded from, and loads as the document again. -/

set_option autoImplicit false

namespace Specfile

theorem Text.unifyNewlines_of_notMem {text : Text} (plain : '\r' ∉ text) :
    text.unifyNewlines = text := by
  suffices (text.foldr endLine ([], false)).1 = text from this
  induction text with
  | nil => rfl
  | cons c text ih =>
    simp only [List.mem_cons, not_or] at plain
    simp [endLine, Ne.symm plain.1, ih plain.2]

namespace Document

theorem ofRead_eq_ok_iff {path : Path} {result : Except ReadRefusal Bytes} {document : Document} :
    ofRead path result = .ok document ↔
      ∃ bytes text, result = .ok bytes ∧ Utf8.decode bytes = .ok text ∧
        document = ⟨path, text.unifyNewlines⟩ := by
  rcases result with (_ | _) | bytes
  · simp [ofRead]
  · simp [ofRead]
  · cases decoded : Utf8.decode bytes with
    | error refusal => simp [ofRead, decoded]
    | ok text => simp [ofRead, decoded, eq_comm]

theorem bytes_of_decode {bytes : Bytes} {text : Text} (decoded : Utf8.decode bytes = .ok text)
    (plain : '\r' ∉ text) (path : Path) : Document.bytes ⟨path, text.unifyNewlines⟩ = bytes := by
  rw [Document.bytes, Text.unifyNewlines_of_notMem plain]
  exact Utf8.encode_of_decode decoded

theorem carriageReturn_notMem_of_ofRead {path : Path} {result : Except ReadRefusal Bytes}
    {document : Document} (loaded : ofRead path result = .ok document) : '\r' ∉ document.text := by
  obtain ⟨bytes, text, -, -, rfl⟩ := ofRead_eq_ok_iff.1 loaded
  exact Text.carriageReturn_notMem_unifyNewlines text

theorem path_of_ofRead {path : Path} {result : Except ReadRefusal Bytes} {document : Document}
    (loaded : ofRead path result = .ok document) : document.path = path := by
  obtain ⟨bytes, text, -, -, rfl⟩ := ofRead_eq_ok_iff.1 loaded
  rfl

theorem ofRead_bytes (document : Document) :
    ofRead document.path (.ok document.bytes) =
      .ok { document with text := document.text.unifyNewlines } :=
  ofRead_eq_ok_iff.2 ⟨_, document.text, rfl, Utf8.decode_encode document.text, rfl⟩

theorem ofRead_bytes_of_notMem (document : Document) (plain : '\r' ∉ document.text) :
    ofRead document.path (.ok document.bytes) = .ok document := by
  rw [ofRead_bytes, Text.unifyNewlines_of_notMem plain]

end Document

end Specfile
