import RoutePaths.Config.File
import RoutePaths.Table.Source
import RoutePaths.Proofs.FileTree.Reading

/-! How the readers of files end. Settings and tables are read alike: the bytes at a path become
a text, and the text is used. Only the use of the text, and a file that is not there, are failures
that a reader looks for; what goes wrong before escapes it. -/
namespace RoutePaths
open Result

/-- The result is a value of a certain kind, or a failure that its reader looks for. -/
def EndsAsDocumented {ε α : Type} (kind : α → Prop) : Except (Failing ε) α → Prop
  | .ok value => kind value
  | .error (.expected _) => True
  | .error (.unexpected _) => False

theorem endsAsDocumented_iff {ε α : Type} {kind : α → Prop} {result : Except (Failing ε) α} :
    EndsAsDocumented kind result ↔
      (∀ unexpected, result ≠ .error (.unexpected unexpected)) ∧
        ∀ value, result = .ok value → kind value := by
  rcases result with (error | unexpected) | value <;> simp [EndsAsDocumented]

namespace FileTree

variable {ε α : Type} {tree : FileTree} {directory : Place} {path : Path}

/-- Whatever lies at the path, its reader gets to the text of it. -/
structure IsLegible (tree : FileTree) (directory : Place) (path : Path) : Prop where
  named : ¬ tree.MeetsLongName directory path
  encoded : ∀ bytes, tree.readBytes directory path = .ok (some bytes) →
    ∃ text, bytes = Utf8.encode text

/-- The failures that no reader looks for, each with what brings it about. -/
def Escapes (tree : FileTree) (directory : Place) (path : Path) : Unexpected → Prop
  | .nameTooLong shown => shown = path.text ∧ tree.MeetsLongName directory path
  | .undecodable fault =>
    ∃ bytes, tree.readBytes directory path = .ok (some bytes) ∧ Utf8.decode bytes = .error fault
  | .nullCharacter => False

theorem isLegible_iff : tree.IsLegible directory path ↔
    ∀ unexpected, ¬ tree.Escapes directory path unexpected := by
  constructor
  · rintro ⟨hNamed, hEncoded⟩ (fault | shown | -)
    · rintro ⟨bytes, hBytes, hFault⟩
      exact exists_decode_eq_error_iff.mp ⟨fault, hFault⟩ (hEncoded bytes hBytes)
    · exact fun h => hNamed h.2
    · exact id
  · refine fun h => ⟨fun hLong => h (.nameTooLong path.text) ⟨rfl, hLong⟩, fun bytes hBytes => ?_⟩
    by_contra hNone
    obtain ⟨fault, hFault⟩ := exists_decode_eq_error_iff.mpr hNone
    exact h (.undecodable fault) ⟨bytes, hBytes, hFault⟩

/-- A reader: what it does with the text at a path, and its error if there is no file. -/
def readWith (tree : FileTree) (directory : Place) (path : Path) (absent : ε)
    (use : String → Except (Failing ε) α) : Except (Failing ε) α := do
  match ← (tree.readBytes directory path).mapError (Failing.ofObstacle path.text) with
  | none => throw (.expected absent)
  | some bytes => (textOf bytes).mapError (fun fault => .unexpected (.undecodable fault)) >>= use

/-- A reader ends unexpectedly where a failure escapes it, and nowhere else. -/
theorem readWith_eq_unexpected_iff {absent : ε} {use : String → Except (Failing ε) α}
    (hUse : ∀ text unexpected, use text ≠ .error (.unexpected unexpected))
    {unexpected : Unexpected} :
    tree.readWith directory path absent use = .error (.unexpected unexpected) ↔
      tree.Escapes directory path unexpected := by
  have hLong : tree.MeetsLongName directory path ↔
      tree.readBytes directory path = .error .nameTooLong := by
    simp [readBytes_eq_error_iff]
  cases hBytes : tree.readBytes directory path with
  | error obstacle =>
      obtain ⟨rfl, -⟩ := readBytes_eq_error_iff.mp hBytes
      have hRead : tree.readWith directory path absent use =
          .error (.unexpected (.nameTooLong path.text)) := by
        rw [readWith, hBytes]; rfl
      cases unexpected <;> simp [Escapes, hRead, hLong, hBytes, eq_comm]
  | ok found =>
      cases found with
      | none =>
          have hRead : tree.readWith directory path absent use = .error (.expected absent) := by
            rw [readWith, hBytes]; rfl
          cases unexpected <;> simp [Escapes, hRead, hLong, hBytes]
      | some bytes =>
          cases hText : textOf bytes with
          | error fault =>
              have hRead : tree.readWith directory path absent use =
                  .error (.unexpected (.undecodable fault)) := by
                rw [readWith, hBytes]; exact congrArg (· >>= use) (congrArg _ hText)
              cases unexpected <;>
                simp [Escapes, hRead, hLong, hBytes, ← textOf_eq_error_iff, hText]
          | ok text =>
              have hRead : tree.readWith directory path absent use = use text := by
                rw [readWith, hBytes]; exact congrArg (· >>= use) (congrArg _ hText)
              cases unexpected <;>
                simp [Escapes, hRead, hLong, hBytes, ← textOf_eq_error_iff, hText, hUse]

end FileTree

variable {tree : FileTree} {directory : FileTree.Place} {path : Path} {input source : String}
  {unexpected : Unexpected}

namespace Config

theorem load_eq_readWith : load tree directory path =
    tree.readWith directory path (.missing path.text) fun text =>
      (ofDocument path text).mapError .expected :=
  rfl

theorem load_eq_unexpected_iff : load tree directory path = .error (.unexpected unexpected) ↔
    tree.Escapes directory path unexpected := by
  rw [load_eq_readWith]
  refine FileTree.readWith_eq_unexpected_iff fun text other h => ?_
  obtain ⟨error, -, hError⟩ := mapError_eq_error_iff.mp h
  cases hError

end Config

namespace Table

theorem load_eq_readWith (h : source ≠ standardInput) : load tree directory input source =
    tree.readWith directory (.read source) (.missing source) fun text =>
      if Text.isAllBlank text.toList then throw (.expected (.empty source)) else return text := by
  rw [load, if_neg h]
  rfl

theorem load_eq_unexpected_iff (h : source ≠ standardInput) :
    load tree directory input source = .error (.unexpected unexpected) ↔
      tree.Escapes directory (.read source) unexpected := by
  rw [load_eq_readWith h]
  refine FileTree.readWith_eq_unexpected_iff fun text other h => ?_
  split at h <;> cases h

/-- The text of a table that is loaded has more in it than blanks. -/
theorem exists_of_load {text : String} (h : load tree directory input source = .ok text) :
    ∃ c ∈ text.toList, Text.isBlank c = false := by
  have hUsed {used : String} {error : LoadError}
      (h : (if Text.isAllBlank used.toList then throw (.expected error) else return used :
        Except (Failing LoadError) String) = .ok text) :
      Text.isAllBlank text.toList = false := by
    split at h
    · cases h
    · rename_i hSome
      cases h
      exact Bool.not_eq_true _ ▸ hSome
  have hText : Text.isAllBlank text.toList = false := by
    by_cases hSource : source = standardInput
    · rw [load, if_pos hSource] at h
      exact hUsed h
    · rw [load_eq_readWith hSource, FileTree.readWith, bind_eq_ok_iff] at h
      obtain ⟨_ | bytes, -, h⟩ := h
      · cases h
      · obtain ⟨used, -, h⟩ := bind_eq_ok_iff.mp h
        exact hUsed h
  simpa [Text.isAllBlank] using hText

end Table

/-- A directory with a table, and with settings that are no text. -/
def garbledTree : FileTree :=
  ⟨[(["work"], .directory), (["work", "railpath.json"], .file ⟨#[0xFF]⟩),
    (["work", "routes"], .file (Utf8.encode "users"))]⟩

theorem isLegible_garbledTree : garbledTree.IsLegible ["work"] (.read "routes") := by
  have hBytes : garbledTree.readBytes ["work"] (.read "routes") =
      .ok (some (Utf8.encode "users")) := rfl
  constructor
  · intro hLong
    rw [FileTree.readBytes_eq_error_iff.mpr ⟨rfl, hLong⟩] at hBytes
    cases hBytes
  · intro bytes h
    rw [hBytes, Except.ok.injEq, Option.some.injEq] at h
    exact ⟨"users", h.symm⟩

theorem escapes_garbledTree : garbledTree.Escapes ["work"] (.read "railpath.json")
    (.undecodable ⟨0, 1, 0xFF, .invalidStart⟩) := by
  have hNone : String.fromUTF8? ⟨#[0xFF]⟩ = none := by decide +kernel
  have hBytes : (⟨#[0xFF]⟩ : ByteArray).toList = [0xFF] := by decide +kernel
  refine ⟨⟨#[0xFF]⟩, rfl, ?_⟩
  rw [Utf8.decode, hNone, hBytes]
  rfl

end RoutePaths
