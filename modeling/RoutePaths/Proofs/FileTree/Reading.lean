import RoutePaths.Proofs.FileTree.Rewriting

/-! What reading a file can run into. A path is followed through directories until a component is
too long for any file system, and that is never the same as a file that is not there. The bytes of
a file are a text if some text is encoded so. -/
namespace RoutePaths

namespace FileTree

variable {tree : FileTree} {here directory : Place} {parts : List String} {path : Path}
  {obstacle : Obstacle} {bytes : ByteArray}

/-- On its way through directories, the path comes to a component that is too long. -/
def MeetsLongName (tree : FileTree) (directory : Place) (path : Path) : Prop :=
  hasNull path = false ∧ ∃ front part back place, path.parts = front ++ part :: back ∧
    tree.Leads (startOf directory path) front place ∧ part ≠ ".." ∧ isTooLong part = true

theorem follow_eq_nameTooLong_iff : tree.follow here parts = .error .nameTooLong ↔
    ∃ front part back place, parts = front ++ part :: back ∧ tree.Leads here front place ∧
      part ≠ ".." ∧ isTooLong part = true := by
  constructor
  · intro h
    induction parts generalizing here with
    | nil => cases h
    | cons part rest ih =>
        simp only [follow] at h
        split at h
        · cases h
        · cases h
        rename_i hHere
        rw [← isDirectoryAt_iff] at hHere
        split at h
        · rename_i hUp
          obtain ⟨front, long, back, place, rfl, hLeads, hLong⟩ := ih h
          exact ⟨part :: front, long, back, place, rfl, hUp ▸ .up hHere hLeads, hLong⟩
        · rename_i hDown
          split at h
          · rename_i hLong
            exact ⟨[], part, rest, here, rfl, .here hHere, hDown, hLong⟩
          · rename_i hShort
            obtain ⟨front, long, back, place, rfl, hLeads, hLong⟩ := ih h
            refine ⟨part :: front, long, back, place, rfl, ?_, hLong⟩
            exact .down hHere hDown (Bool.not_eq_true _ ▸ hShort) hLeads
  · rintro ⟨front, part, back, place, rfl, hLeads, hDown, hLong⟩
    rw [hLeads.follow, follow_cons hLeads.isDirectoryAt, if_neg hDown, if_pos hLong]

/-- No other obstacle counts as more than a file that is not there. -/
theorem readBytes_eq_error_iff : tree.readBytes directory path = .error obstacle ↔
    obstacle = .nameTooLong ∧ tree.MeetsLongName directory path := by
  rw [MeetsLongName, ← follow_eq_nameTooLong_iff, readBytes, find, locate]
  cases hNull : hasNull path with
  | true => simp [Except.map]
  | false =>
      simp only [Bool.false_eq_true, if_false, true_and]
      cases tree.follow (startOf directory path) path.parts with
      | ok place => simp [Except.map]
      | error other => cases other <;> simp [Except.map, eq_comm]

theorem fromUTF8?_eq_none_iff :
    String.fromUTF8? bytes = none ↔ ¬ ∃ text, bytes = Utf8.encode text := by
  rw [String.fromUTF8?]
  split
  · rename_i hValid
    simp only [reduceCtorEq, false_iff, not_not]
    exact ⟨String.fromUTF8 bytes hValid, rfl⟩
  · rename_i hInvalid
    simp only [true_iff]
    rintro ⟨text, rfl⟩
    exact hInvalid text.isValidUTF8

/-- Bytes have a fault exactly if no text is encoded so. -/
theorem exists_decode_eq_error_iff :
    (∃ fault, Utf8.decode bytes = .error fault) ↔ ¬ ∃ text, bytes = Utf8.encode text := by
  rw [← fromUTF8?_eq_none_iff, Utf8.decode]
  cases String.fromUTF8? bytes with
  | none => simp
  | some text => simp

theorem textOf_eq_error_iff {fault : Utf8.Fault} :
    textOf bytes = .error fault ↔ Utf8.decode bytes = .error fault := by
  rw [textOf]
  cases Utf8.decode bytes <;> simp [Except.map]

end FileTree

end RoutePaths
