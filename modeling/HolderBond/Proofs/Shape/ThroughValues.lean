import HolderBond.Binding.Params
import HolderBond.Proofs.Json.Accepted
import HolderBond.Proofs.Shape.Documents
import HolderBond.Proofs.Shape.MemberOrder

/-!
# Documents are read alike directly and through values

A text may be read as a document at once, or first as a value and the document from that.  Where
no key is repeated both give the same, and they give the same for every other text that writes
the same value, whatever the order of its members, its space and its escapes.
-/

set_option autoImplicit false

namespace HolderBond

open HolderBond.Json (Rearranged WrittenDocument WrittenMember WrittenChars)
open Json.Scan

namespace Shape

variable {α : Type}

/-- A document read from the value that its text is first read as. -/
def readThroughValue (shape : Shape α) (s : String) : Except Json.Error α := do
  let value ← FreeForm.read s
  shape.ofTree value.tree

theorem read_eq_ok_iff (shape : Shape α) {s : String} {tree : Json}
    (parsed : Json.read s = .ok tree) (a : α) :
    shape.read s = .ok a ↔ shape.ofTree tree = .ok a := by
  obtain ⟨rest, got, ended⟩ := run_eq_ok.1 parsed
  exact readGlyphs_eq_ok_iff got ended

theorem ofTree_eq_ok_iff (shape : Shape α) {tree other : Json} (distinct : tree.Distinct)
    (rearranged : Rearranged tree other) (a : α) :
    shape.ofTree tree = .ok a ↔ shape.ofTree other = .ok a := by
  have alike := shape.ignoresOrder tree other distinct rearranged
  cases made : shape.ofTree tree <;> cases madeOther : shape.ofTree other <;>
    simp_all [Except.toOption]

theorem readThroughValue_eq_ok_iff (shape : Shape α) {s : String} {tree : Json}
    (parsed : Json.read s = .ok tree) (distinct : tree.Distinct) (a : α) :
    shape.readThroughValue s = .ok a ↔ shape.ofTree tree = .ok a := by
  have value : FreeForm.read s = .ok (.ofTree tree) := by
    rw [FreeForm.read, parsed]
    rfl
  -- The value keeps the members sorted, which is one order of them among others.
  have through : shape.readThroughValue s = shape.ofTree tree.sort := by
    rw [readThroughValue, value]
    rfl
  rw [through, ← shape.ofTree_eq_ok_iff distinct (Json.rearranged_sort tree distinct)]

/-- A text whose value is the same but for the order of members is read alike. -/
theorem read_eq_ok_iff_of_rearranged (shape : Shape α) {s t : String} {tree other : Json}
    (parsed : Json.read s = .ok tree) (distinct : tree.Distinct)
    (rearranged : Rearranged tree other) (parsedOther : Json.read t = .ok other) (a : α) :
    shape.read t = .ok a ↔ shape.read s = .ok a := by
  rw [shape.read_eq_ok_iff parsedOther, shape.read_eq_ok_iff parsed,
    shape.ofTree_eq_ok_iff distinct rearranged]

/-- Where a text is a value without repeated keys, every shape reads the text as it reads the
value, and reads every other text alike that writes the value with its members in another order,
with other space or with other escapes.  The other text has other numerals only where the reader
takes them for the same numbers. -/
theorem read_iff_readThroughValue (shape : Shape α) {s : String} {tree : Json}
    (parsed : Json.read s = .ok tree) (distinct : tree.Distinct) :
    (∀ a, shape.read s = .ok a ↔ shape.readThroughValue s = .ok a) ∧
      ∀ other t, Rearranged tree other → WrittenDocument other t.toList →
        FreeForm.read t = FreeForm.read s ∧ ∀ a, shape.read t = .ok a ↔ shape.read s = .ok a := by
  refine ⟨fun a => ?_, fun other t rearranged written => ?_⟩
  · rw [shape.read_eq_ok_iff parsed, shape.readThroughValue_eq_ok_iff parsed distinct]
  · have small := Nat.le_trans rearranged.levels_le (Json.read_eq_ok_iff_written.1 parsed).2
    have parsedOther : Json.read t = .ok other := Json.read_eq_ok_iff_written.2 ⟨written, small⟩
    refine ⟨?_, shape.read_eq_ok_iff_of_rearranged parsed distinct rearranged parsedOther⟩
    have understood : FreeForm.ofTree other = FreeForm.ofTree tree := by
      simp only [FreeForm.ofTree, rearranged.sort_eq distinct]
    rw [FreeForm.read, FreeForm.read, parsed, parsedOther]
    exact congrArg Except.ok understood

end Shape

namespace BindingParams

def sampleTree : Json :=
  .object [("hash", .object [("sha256", .null)]), ("domain_separator", .string "h")]

def sampleReordered : Json :=
  .object [("domain_separator", .string "h"), ("hash", .object [("sha256", .null)])]

def sampleRespelled : String :=
  "\x7b\n \"domain_separator\": \"\\u0068\" ,\"hash\":\x7b\"sha256\":null\x7d\x7d "

theorem sampleRespelled_written : WrittenDocument sampleReordered sampleRespelled.toList := by
  have noSpace : Json.Blank [] := Json.blank_nil
  have space : Json.Blank [' '] := by simp [Json.Blank]
  have lineBreak : Json.Blank ['\n', ' '] := by simp [Json.Blank]
  have digit : ∀ n < 16, Json.WrittenDigit n (Hex.digit n) := fun n small => Json.writtenDigit small
  have number : Json.WrittenUnit 'h'.toNat ['0', '0', '6', '8'] :=
    .digits (digit 0 (by decide)) (digit 0 (by decide)) (digit 6 (by decide)) (digit 8 (by decide))
  have letter : WrittenChars "h".toList ['\\', 'u', '0', '0', '6', '8'] :=
    .cons (.number number) .nil
  have separator := WrittenMember.member (Json.writtenChars_flatMap "domain_separator".toList)
    noSpace space (.string letter)
  have name :=
    WrittenMember.member (Json.writtenChars_flatMap "sha256".toList) noSpace noSpace .null
  have hash := WrittenMember.member (Json.writtenChars_flatMap "hash".toList) noSpace noSpace
    (.object noSpace name (.ended noSpace))
  exact .document noSpace
    (.object lineBreak separator (.more space noSpace hash (.ended noSpace))) space

end BindingParams

open BindingParams in
theorem Shape.read_iff_readThroughValue_sample :
    Json.read sampleTree.render = .ok sampleTree ∧ sampleTree.Distinct ∧
      Rearranged sampleTree sampleReordered ∧
      WrittenDocument sampleReordered sampleRespelled.toList ∧
      ∃ params : BindingParams, BindingParams.shape.read sampleTree.render = .ok params ∧
        BindingParams.shape.readThroughValue sampleTree.render = .ok params ∧
        BindingParams.shape.read sampleRespelled = .ok params := by
  have parsed : Json.read sampleTree.render = .ok sampleTree :=
    Json.read_render (by decide) (by decide)
  have distinct : sampleTree.Distinct := by
    simp [sampleTree, Json.Distinct, Json.MembersDistinct]
  have rearranged : Rearranged sampleTree sampleReordered :=
    .object (.cons (.same _) (.cons (.same _) .nil)) (.swap _ _ _)
  obtain ⟨through, others⟩ := BindingParams.shape.read_iff_readThroughValue parsed distinct
  have direct : BindingParams.shape.read sampleTree.render =
      .ok { BindingParams.v1 with separator := "h", hash := .sha256 } := by
    rw [BindingParams.shape.read_eq_ok_iff parsed]
    rfl
  exact ⟨parsed, distinct, rearranged, sampleRespelled_written, _, direct, (through _).1 direct,
    ((others _ _ rearranged sampleRespelled_written).2 _).2 direct⟩

end HolderBond
