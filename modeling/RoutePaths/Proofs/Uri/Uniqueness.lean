import RoutePaths.Proofs.Uri.Parts

/-! The grammar of URI templates is unambiguous: a text has at most one
derivation. The suffix of a derivation is found at the end of its text, its
groups are found by cutting, and the tokens of its paths by splitting. -/
namespace RoutePaths.Template
open Splitting

/-- What stands between the parentheses of the format suffix. -/
def formatInner : List Char :=
  ['.', ':', 'f', 'o', 'r', 'm', 'a', 't']

theorem formatSuffix_eq : formatSuffix = '(' :: formatInner ++ [')'] := by
  decide

/-- No body ends in the format suffix. Its inner text is that of no group, for
the dot in it closes no fixed text. -/
theorem Shape.IsValid.not_isSuffix {shape : Shape} (h : shape.IsValid) :
    ¬ formatSuffix <:+ shape.text := by
  rintro ⟨front, hFront⟩
  rw [formatSuffix_eq, ← List.append_assoc] at hFront
  cases shape with
  | root =>
      have hLength := congrArg List.length hFront
      simp [Shape.text, formatInner] at hLength
  | sequence parts last =>
      obtain ⟨hParts, hLast, -, -⟩ := h
      rcases List.eq_nil_or_concat' last with rfl | ⟨before, token, rfl⟩
      · rcases List.eq_nil_or_concat' parts with rfl | ⟨others, part, rfl⟩
        · exact List.append_ne_nil_of_right_ne_nil _ (List.cons_ne_nil _ _) hFront
        · have hClause := (hParts part (by simp)).clause
          have hText : (Shape.sequence (others ++ [part]) []).text =
              (others.flatMap Part.text ++ pathText part.path ++
                '(' :: (part.clause.fixed ++ part.clause.sigil :: part.clause.name)) ++ [')'] := by
            simp [Shape.text, Part.text, Clause.text, pathText]
          rw [hText] at hFront
          have hInner : formatInner = part.clause.fixed ++ part.clause.sigil :: part.clause.name :=
            eq_of_append_cons_eq (List.append_inj_left' hFront rfl) (by decide)
              fun hMem => (hClause.mem_inner hMem).1 rfl
          have hGroup := hClause.ofInner?
          have hNone : Group.ofInner? formatInner = none := by decide
          rw [← hInner, hNone] at hGroup
          cases hGroup
      · have hNe : pathText (before ++ [token]) ≠ [] := by
          rw [pathText_concat]
          exact List.append_ne_nil_of_right_ne_nil _ (List.cons_ne_nil _ _)
        have hEnd := congrArg List.getLast? hFront
        rw [List.getLast?_concat, Shape.text, List.getLast?_append_of_ne_nil _ hNe] at hEnd
        exact (mem_pathText hLast (List.mem_of_getLast? hEnd.symm)).2 rfl


/-- The format suffix is split off a derivation that has one, and off no
other. -/
theorem Derivation.splitFormat_text {derivation : Derivation} (h : derivation.body.IsValid) :
    splitFormat derivation.text = (derivation.body.text, derivation.hasFormat) := by
  unfold splitFormat Derivation.text
  cases derivation.hasFormat with
  | true =>
      have hSuffix : formatSuffix.isSuffixOf (derivation.body.text ++ formatSuffix) = true := by
        rw [List.isSuffixOf_iff_suffix]
        exact List.suffix_append _ _
      simp [hSuffix]
  | false =>
      have hNot : formatSuffix.isSuffixOf derivation.body.text = false := by
        rw [Bool.eq_false_iff, ne_eq, List.isSuffixOf_iff_suffix]
        exact h.not_isSuffix
      simp [hNot]

/-- Lists are equal if their images are, under a map that tells their members
apart. -/
theorem eq_of_map_eq {α β : Type} {P : α → Prop} {f : α → β}
    (hInjective : ∀ {x y}, P x → P y → f x = f y → x = y) {xs ys : List α}
    (hxs : ∀ x ∈ xs, P x) (hys : ∀ y ∈ ys, P y) (h : xs.map f = ys.map f) : xs = ys := by
  induction xs generalizing ys with
  | nil => exact (List.map_eq_nil_iff.mp h.symm).symm
  | cons x xs ih =>
      cases ys with
      | nil => cases h
      | cons y ys =>
          obtain ⟨hHead, hTail⟩ := List.cons.inj h
          rw [List.forall_mem_cons] at hxs hys
          rw [hInjective hxs.1 hys.1 hHead, ih hxs.2 hys.2 hTail]

/-- A required token starts with a sigil, and a literal one does not. -/
theorem Token.IsValid.text_injective {token other : Token} (h : token.IsValid)
    (hOther : other.IsValid) (hText : token.text = other.text) : token = other := by
  have hMixed {sigil : Char} {name text : List Char} (hRequired : (Token.required sigil name).IsValid)
      (hLiteral : (Token.literal text).IsValid) : sigil :: name ≠ text := by
    rintro rfl
    have hSigil := isSigil_of_isPlainChar (hLiteral sigil (List.mem_cons_self ..))
    rw [hRequired.1] at hSigil
    cases hSigil
  cases token with
  | required sigil name =>
      cases other with
      | required sigil' name' =>
          obtain ⟨rfl, rfl⟩ := List.cons.inj hText
          rfl
      | literal text => exact absurd hText (hMixed h hOther)
  | literal text =>
      cases other with
      | required sigil name => exact absurd hText.symm (hMixed hOther h)
      | literal text' => rw [show text = text' from hText]

theorem pathText_injective {tokens others : List Token} (h : ∀ token ∈ tokens, token.IsValid)
    (hOthers : ∀ token ∈ others, token.IsValid) (hText : pathText tokens = pathText others) :
    tokens = others := by
  cases tokens with
  | nil =>
      cases others with
      | nil => rfl
      | cons other rest => simp [pathText] at hText
  | cons token front =>
      cases others with
      | nil => simp [pathText] at hText
      | cons other rest =>
          rw [pathText_cons, pathText_cons] at hText
          have hSplit := congrArg (List.splitOn '/') (List.cons.inj hText).2
          rw [splitOn_pathText h, splitOn_pathText hOthers] at hSplit
          exact eq_of_map_eq Token.IsValid.text_injective h hOthers hSplit

theorem Clause.IsValid.group_injective {clause other : Clause} (h : clause.IsValid)
    (hOther : other.IsValid) (hGroup : clause.group = other.group) : clause = other := by
  obtain ⟨hFixed, hSigil, hName⟩ := Group.mk.inj hGroup
  have hSlashed : clause.slashed = other.slashed := by
    rw [Bool.eq_iff_iff, ← h.head?_fixed, ← hOther.head?_fixed, hFixed]
  have hChunks : clause.chunks = other.chunks := by
    have hSplit : clause.chunkText.splitOn '/' = other.chunkText.splitOn '/' := by
      rw [← h.chunkText_eq, ← hOther.chunkText_eq, hFixed]
    rw [h.splitOn_chunkText, hOther.splitOn_chunkText] at hSplit
    exact List.append_cancel_right hSplit
  cases clause
  cases other
  simp only [Clause.mk.injEq]
  exact ⟨hSlashed, hChunks, hSigil, hName⟩

/-- The text in front of a group and the group determine their part. -/
theorem Part.IsValid.injective {part other : Part} (h : part.IsValid) (hOther : other.IsValid)
    (hEq : (pathText part.path, part.clause.group) = (pathText other.path, other.clause.group)) :
    part = other := by
  obtain ⟨hPath, hGroup⟩ := Prod.mk.inj hEq
  have hTokens := pathText_injective h.path hOther.path hPath
  have hClause := h.clause.group_injective hOther.clause hGroup
  cases part
  cases other
  simp only [Part.mk.injEq]
  exact ⟨hTokens, hClause⟩

/-- A text is the body of a template in one way only. -/
theorem Shape.IsValid.text_injective {shape other : Shape} (h : shape.IsValid)
    (hOther : other.IsValid) (hText : shape.text = other.text) : shape = other := by
  cases shape with
  | root =>
      cases other with
      | root => rfl
      | sequence parts last => exact absurd hText.symm hOther.2.2.2
  | sequence parts last =>
      cases other with
      | root => exact absurd hText h.2.2.2
      | sequence parts' last' =>
          have hCut := congrArg (cut []) hText
          rw [cut_sequence h.1 h.2.1, cut_sequence hOther.1 hOther.2.1] at hCut
          obtain ⟨hParts, hLast⟩ := Prod.mk.inj hCut
          rw [eq_of_map_eq Part.IsValid.injective h.1 hOther.1 hParts,
            pathText_injective h.2.1 hOther.2.1 hLast]

/-- A text has at most one derivation. -/
theorem Derivation.Derives.unique {text : List Char} {derivation other : Derivation}
    (h : derivation.Derives text) (hOther : other.Derives text) : derivation = other := by
  have hSplit := splitFormat_text h.body
  rw [h.text, ← hOther.text, splitFormat_text hOther.body] at hSplit
  obtain ⟨hText, hFormat⟩ := Prod.mk.inj hSplit
  have hBody := h.body.text_injective hOther.body hText.symm
  cases derivation
  cases other
  simp only [Derivation.mk.injEq]
  exact ⟨hBody, hFormat.symm⟩

end RoutePaths.Template
