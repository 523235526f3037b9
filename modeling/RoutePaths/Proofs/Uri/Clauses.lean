import RoutePaths.Proofs.Uri.Tokens
import Mathlib.Data.List.TakeWhile

/-! Optional groups of the grammar are the groups that reading recognises. A
group is recognised by its first characters alone: its closing parenthesis is
the first one behind it. -/
namespace RoutePaths.Template
open Splitting

namespace Clause

/-- The group that a clause is read as. -/
def group (clause : Clause) : Group :=
  ⟨clause.fixed, clause.sigil, clause.name⟩

variable {clause : Clause}

/-- Fixed text holds no special character. -/
theorem IsValid.mem_fixed (h : clause.IsValid) {c : Char} (hc : c ∈ clause.fixed) :
    isSpecial c = false := by
  rcases List.mem_append.mp hc with hc | hc
  · split at hc
    · rw [List.mem_singleton.mp hc]
      decide
    · simp at hc
  · obtain ⟨chunk, hChunk, hc⟩ := List.mem_flatMap.mp hc
    rcases List.mem_append.mp hc with hc | hc
    · exact (isPlainChar_iff.mp ((h.chunks chunk hChunk).2 c hc)).2
    · rw [List.mem_singleton.mp hc]
      decide

theorem IsValid.splitOn_chunkText (h : clause.IsValid) :
    clause.chunkText.splitOn '/' = clause.chunks ++ [[]] := by
  apply splitOn_flatMap_append
  intro chunk hChunk hSlash
  exact absurd ((h.chunks chunk hChunk).2 '/' hSlash) (by decide)

/-- A clause that lacks a slash of its own does not start with one. -/
theorem IsValid.head?_chunkText (h : clause.IsValid) : clause.chunkText.head? ≠ some '/' := by
  rw [chunkText]
  cases hChunks : clause.chunks with
  | nil => simp
  | cons chunk rest =>
      obtain ⟨hNe, hPlain⟩ := h.chunks chunk (hChunks ▸ List.mem_cons_self ..)
      cases chunk with
      | nil => exact absurd rfl hNe
      | cons c others =>
          have hc := (isPlainChar_iff.mp (hPlain c (List.mem_cons_self ..))).1
          simpa using hc

theorem IsValid.head?_fixed (h : clause.IsValid) :
    clause.fixed.head? = some '/' ↔ clause.slashed = true := by
  unfold fixed
  cases clause.slashed with
  | true => simp
  | false => simpa using h.head?_chunkText

/-- Without its leading slash, fixed text is made of closed chunks. -/
theorem IsValid.chunkText_eq (h : clause.IsValid) :
    (if clause.fixed.head? = some '/' then clause.fixed.tail else clause.fixed) =
      clause.chunkText := by
  simp only [h.head?_fixed]
  unfold fixed
  cases clause.slashed <;> simp

theorem IsValid.isSeparator_fixed (h : clause.IsValid) : isSeparator clause.fixed = true := by
  have hAll : clause.chunks.all (· ≠ []) = true := by
    rw [List.all_eq_true]
    intro chunk hChunk
    simpa using (h.chunks chunk hChunk).1
  simp only [isSeparator, h.chunkText_eq, h.splitOn_chunkText, List.getLast?_concat, hAll,
    List.dropLast_concat]
  rfl

/-- Text that passes for a separator is the fixed text of a clause. -/
theorem exists_of_isSeparator {text : List Char} (h : isSeparator text = true)
    (hSpecial : ∀ c ∈ text, isSpecial c = false) {sigil : Char} {name : List Char}
    (hSigil : isSigil sigil = true) (hName : isName name = true) :
    ∃ clause : Clause, clause.IsValid ∧ clause.group = ⟨text, sigil, name⟩ := by
  unfold isSeparator at h
  obtain ⟨core, hCore⟩ : ∃ core, core = if text.head? = some '/' then text.tail else text := ⟨_, rfl⟩
  simp only [← hCore, Bool.and_eq_true, beq_iff_eq, List.all_eq_true, decide_eq_true_eq] at h
  have hSplit : core.splitOn '/' = (core.splitOn '/').dropLast ++ [[]] :=
    (List.dropLast_append_getLast? _ h.1).symm
  have hText : (if text.head? = some '/' then ['/'] else []) ++ core = text := by
    rw [hCore]
    split
    · rename_i hHead
      exact (List.eq_cons_of_mem_head? hHead).symm
    · rfl
  have hChunks : (core.splitOn '/').dropLast.flatMap (· ++ ['/']) = core :=
    flatMap_append_of_splitOn hSplit
  refine ⟨⟨text.head? = some '/', (core.splitOn '/').dropLast, sigil, name⟩, ⟨?_, hSigil, hName⟩, ?_⟩
  · intro chunk hChunk
    refine ⟨h.2 chunk hChunk, fun c hc => isPlainChar_iff.mpr ⟨?_, hSpecial c ?_⟩⟩
    · rintro rfl
      exact not_mem_of_mem_splitOn (List.dropLast_subset _ hChunk) hc
    · rw [← hText, ← hChunks]
      exact List.mem_append_right _
        (List.mem_flatMap.mpr ⟨chunk, hChunk, List.mem_append_left _ hc⟩)
  · simp only [group, fixed, chunkText, hChunks, decide_eq_true_eq, hText]

theorem not_isSigil_of_not_isSpecial {c : Char} (h : isSpecial c = false) : isSigil c = false := by
  simp only [isSpecial, Bool.or_eq_false_iff] at h
  simp only [isSigil, h.1.1.1, h.1.1.2, Bool.or_self]

/-- The inner text of a clause is that of its group. -/
theorem IsValid.ofInner? (h : clause.IsValid) :
    Group.ofInner? (clause.fixed ++ clause.sigil :: clause.name) = some clause.group := by
  have hFixed : ∀ c ∈ clause.fixed, (!isSigil c) = true := by
    intro c hc
    rw [not_isSigil_of_not_isSpecial (h.mem_fixed hc)]
    rfl
  have hStop : (!isSigil clause.sigil) = false := by rw [h.sigil]; rfl
  have hTake : (clause.fixed ++ clause.sigil :: clause.name).takeWhile (!isSigil ·) =
      clause.fixed := by
    rw [List.takeWhile_append_of_pos hFixed, List.takeWhile_cons_of_neg (by simp [hStop]),
      List.append_nil]
  have hDrop : (clause.fixed ++ clause.sigil :: clause.name).dropWhile (!isSigil ·) =
      clause.sigil :: clause.name := by
    rw [List.dropWhile_append_of_pos hFixed, List.dropWhile_cons_of_neg (by simp [hStop])]
  simp only [Group.ofInner?, hTake, hDrop, h.isSeparator_fixed, h.name]
  rfl

/-- The inner text of a clause holds no parenthesis. -/
theorem IsValid.mem_inner (h : clause.IsValid) {c : Char}
    (hc : c ∈ clause.fixed ++ clause.sigil :: clause.name) : c ≠ '(' ∧ c ≠ ')' := by
  rcases List.mem_append.mp hc with hc | hc
  · have hSpecial := h.mem_fixed hc
    constructor
    · rintro rfl
      exact absurd hSpecial (by decide)
    · rintro rfl
      exact absurd hSpecial (by decide)
  · exact ((show Token.IsValid (.required _ _) from ⟨h.sigil, h.name⟩).mem_text hc).2

/-- A clause is recognised at the start of any text. -/
theorem IsValid.atStart? (h : clause.IsValid) (rest : List Char) :
    Group.atStart? (clause.text ++ rest) = some (clause.group, rest) := by
  have hText : clause.text ++ rest =
      '(' :: ((clause.fixed ++ clause.sigil :: clause.name) ++ ')' :: rest) := by
    simp [text]
  have hInner : ∀ c ∈ clause.fixed ++ clause.sigil :: clause.name,
      (decide (c ≠ '(') && decide (c ≠ ')')) = true := by
    intro c hc
    simpa using h.mem_inner hc
  have hDrop : ((clause.fixed ++ clause.sigil :: clause.name) ++ ')' :: rest).dropWhile
      (fun c => c ≠ '(' && c ≠ ')') = ')' :: rest := by
    rw [List.dropWhile_append_of_pos hInner, List.dropWhile_cons_of_neg (by decide)]
  have hTake : ((clause.fixed ++ clause.sigil :: clause.name) ++ ')' :: rest).takeWhile
      (fun c => c ≠ '(' && c ≠ ')') = clause.fixed ++ clause.sigil :: clause.name := by
    rw [List.takeWhile_append_of_pos hInner, List.takeWhile_cons_of_neg (by decide), List.append_nil]
  rw [hText, Group.atStart?, hDrop]
  simp only [hTake, h.ofInner?]
  rfl

/-- Inner text that holds a group is that of a clause. -/
theorem exists_of_ofInner? {inner : List Char} {group : Group}
    (hInner : Group.ofInner? inner = some group) (hOpen : '(' ∉ inner) (hClose : ')' ∉ inner) :
    ∃ clause : Clause, clause.IsValid ∧ clause.group = group ∧
      clause.fixed ++ clause.sigil :: clause.name = inner := by
  have hParts := @List.takeWhile_append_dropWhile _ (!isSigil ·) inner
  have hHead := List.head?_dropWhile_not (!isSigil ·) inner
  unfold Group.ofInner? at hInner
  generalize hDrop : inner.dropWhile (!isSigil ·) = after at hInner hParts hHead
  cases after with
  | nil => cases hInner
  | cons sigil name =>
      simp only [Option.ite_none_right_eq_some, Bool.and_eq_true] at hInner
      obtain ⟨⟨hSeparator, hName⟩, hGroup⟩ := hInner
      have hSigil : isSigil sigil = true := by simpa using hHead
      have hSpecial : ∀ c ∈ inner.takeWhile (!isSigil ·), isSpecial c = false := by
        intro c hc
        have hNot : isSigil c = false := by simpa using List.mem_takeWhile_imp hc
        have hMem : c ∈ inner := hParts ▸ List.mem_append_left _ hc
        have hLeft : c ≠ '(' := fun hEq => hOpen (hEq ▸ hMem)
        have hRight : c ≠ ')' := fun hEq => hClose (hEq ▸ hMem)
        simp only [isSigil, Bool.or_eq_false_iff] at hNot
        simp [isSpecial, hNot, hLeft, hRight]
      obtain ⟨clause, hValid, hClause⟩ := exists_of_isSeparator hSeparator hSpecial hSigil hName
      refine ⟨clause, hValid, hClause.trans (Option.some.inj hGroup), ?_⟩
      simp only [Clause.group, Group.mk.injEq] at hClause
      rw [hClause.1, hClause.2.1, hClause.2.2, hParts]

/-- What is recognised as a group is the text of a clause. -/
theorem exists_of_atStart? {text rest : List Char} {group : Group}
    (hStart : Group.atStart? text = some (group, rest)) :
    ∃ clause : Clause, clause.IsValid ∧ clause.group = group ∧ clause.text ++ rest = text := by
  unfold Group.atStart? at hStart
  split at hStart
  · rename_i inside
    split at hStart
    · rename_i after hDrop
      have hParts := @List.takeWhile_append_dropWhile _ (fun c => c ≠ '(' && c ≠ ')') inside
      have hPlain (c : Char) (hc : c ∈ inside.takeWhile fun c => c ≠ '(' && c ≠ ')') :
          c ≠ '(' ∧ c ≠ ')' := by
        simpa using List.mem_takeWhile_imp hc
      simp only [Option.map_eq_some_iff, Prod.mk.injEq] at hStart
      obtain ⟨_, hInner, rfl, rfl⟩ := hStart
      obtain ⟨clause, hValid, hGroup, hText⟩ := exists_of_ofInner? hInner
        (fun hMem => (hPlain _ hMem).1 rfl) (fun hMem => (hPlain _ hMem).2 rfl)
      refine ⟨clause, hValid, hGroup, ?_⟩
      rw [hDrop, ← hText] at hParts
      rw [← hParts]
      simp [text]
    · cases hStart
  · cases hStart

end Clause

end RoutePaths.Template
