import RoutePaths.Proofs.Uri.Clauses

/-! Cutting a body at its groups finds the parts of the grammar. Passing over
text never loses any of it, and text without an opening parenthesis is passed
over as a whole. -/
namespace RoutePaths.Template

variable {uri : String}

theorem cut_nil (passed : List Char) : cut passed [] = ([], passed) := by
  rw [cut]
  rfl

theorem cut_of_atStart? {text rest : List Char} {group : Group}
    (h : Group.atStart? text = some (group, rest)) (passed : List Char) :
    cut passed text = ((passed, group) :: (cut [] rest).1, (cut [] rest).2) := by
  rw [cut]
  split
  · rename_i hStart
    rw [h] at hStart
    cases hStart
    rfl
  · rename_i hStart
    rw [h] at hStart
    cases hStart

theorem cut_cons {c : Char} (h : c ≠ '(') (passed rest : List Char) :
    cut passed (c :: rest) = cut (passed ++ [c]) rest := by
  have hNone : Group.atStart? (c :: rest) = none := by
    unfold Group.atStart?
    split
    · rename_i hEq
      exact absurd (List.cons.inj hEq).1 h
    · rfl
  rw [cut]
  split
  · rename_i hStart
    rw [hNone] at hStart
    cases hStart
  · rfl

theorem cut_append {front : List Char} (h : ∀ c ∈ front, c ≠ '(') (passed rest : List Char) :
    cut passed (front ++ rest) = cut (passed ++ front) rest := by
  induction front generalizing passed with
  | nil => rw [List.nil_append, List.append_nil]
  | cons c front ih =>
      rw [List.cons_append, cut_cons (h c (List.mem_cons_self ..)),
        ih fun d hd => h d (List.mem_cons_of_mem _ hd), List.append_assoc, List.singleton_append]

/-- A path holds no parenthesis. -/
theorem mem_pathText {tokens : List Token} (h : ∀ token ∈ tokens, token.IsValid) {c : Char}
    (hc : c ∈ pathText tokens) : c ≠ '(' ∧ c ≠ ')' := by
  obtain ⟨token, hToken, hc⟩ := List.mem_flatMap.mp hc
  rcases List.mem_cons.mp hc with rfl | hc
  · decide
  · exact ((h token hToken).mem_text hc).2

/-- A sequence is cut into its parts. -/
theorem cut_sequence {parts : List Part} {last : List Token}
    (hParts : ∀ part ∈ parts, part.IsValid) (hLast : ∀ token ∈ last, token.IsValid) :
    cut [] (Shape.sequence parts last).text =
      (parts.map fun part => (pathText part.path, part.clause.group), pathText last) := by
  induction parts with
  | nil =>
      have hCut := cut_append (fun c hc => (mem_pathText hLast hc).1) [] []
      rw [List.append_nil] at hCut
      simp only [Shape.text, List.flatMap_nil, List.nil_append, List.map_nil]
      rw [hCut, cut_nil, List.nil_append]
  | cons part rest ih =>
      have hPart := hParts part (List.mem_cons_self ..)
      have hRest := ih fun other hOther => hParts other (List.mem_cons_of_mem _ hOther)
      have hText : (Shape.sequence (part :: rest) last).text =
          pathText part.path ++ (part.clause.text ++ (Shape.sequence rest last).text) := by
        simp [Shape.text, Part.text]
      rw [hText, cut_append (fun c hc => (mem_pathText hPart.path hc).1),
        cut_of_atStart? (hPart.clause.atStart? _), hRest]
      rfl

/-- What a body is cut into makes up the body, and each group is one of the
grammar. -/
theorem exists_of_cut (passed text : List Char) :
    ∃ items : List (List Char × Clause), (∀ item ∈ items, item.2.IsValid) ∧
      items.map (fun item => (item.1, item.2.group)) = (cut passed text).1 ∧
      items.flatMap (fun item => item.1 ++ item.2.text) ++ (cut passed text).2 = passed ++ text := by
  fun_induction cut passed text with
  | case1 passed text group rest hStart after ih =>
      obtain ⟨items, hValid, hItems, hText⟩ := ih
      obtain ⟨clause, hClause, rfl, rfl⟩ := Clause.exists_of_atStart? hStart
      refine ⟨(passed, clause) :: items, ?_, ?_, ?_⟩
      · intro item hItem
        rcases List.mem_cons.mp hItem with rfl | hItem
        · exact hClause
        · exact hValid item hItem
      · rw [List.map_cons, hItems]
      · rw [List.flatMap_cons, List.append_assoc, hText]
        simp
  | case2 passed hStart => exact ⟨[], by simp, rfl, by simp⟩
  | case3 passed c rest hStart ih =>
      obtain ⟨items, hValid, hItems, hText⟩ := ih
      exact ⟨items, hValid, hItems, by rw [hText, List.append_assoc, List.singleton_append]⟩

theorem pathText_concat (tokens : List Token) (token : Token) :
    pathText (tokens ++ [token]) = pathText tokens ++ '/' :: token.text := by
  simp [pathText]

/-- A path ends in a slash only if its last token is empty, and the path in
front of that slash is that of the other tokens. -/
theorem pathText_of_getLast? {tokens : List Token} (h : ∀ token ∈ tokens, token.IsValid)
    (hSlash : (pathText tokens).getLast? = some '/') :
    pathText tokens = pathText tokens.dropLast ++ ['/'] := by
  rcases List.eq_nil_or_concat' tokens with rfl | ⟨front, token, rfl⟩
  · cases hSlash
  · rw [List.dropLast_concat]
    rw [pathText_concat] at hSlash ⊢
    have hEmpty : token.text = [] := by
      rcases List.eq_nil_or_concat' token.text with hEmpty | ⟨init, c, hText⟩
      · exact hEmpty
      · rw [hText, ← List.cons_append, ← List.append_assoc, List.getLast?_concat] at hSlash
        have hLast : c = '/' := Option.some.inj hSlash
        have hMem : c ∈ token.text := by simp [hText]
        exact absurd hLast ((h token (by simp)).mem_text hMem).1
    rw [hEmpty]

theorem Part.IsValid.lendSlash? {part : Part} (h : part.IsValid) :
    lendSlash? (pathText part.path) part.clause.fixed =
      some (pathText (if part.clause.slashed then part.path else part.path.dropLast),
        '/' :: part.clause.chunkText) := by
  unfold Template.lendSlash?
  cases hSlashed : part.clause.slashed with
  | true =>
      have hFixed : part.clause.fixed = '/' :: part.clause.chunkText := by
        simp [Clause.fixed, hSlashed]
      simp [hFixed]
  | false =>
      have hFixed : part.clause.fixed = part.clause.chunkText := by
        simp [Clause.fixed, hSlashed]
      have hDrop := congrArg List.dropLast (pathText_of_getLast? h.path (h.slash hSlashed))
      rw [List.dropLast_concat] at hDrop
      simp [hFixed, h.clause.head?_chunkText, h.slash hSlashed, hDrop]

/-- A part of the grammar is read as its segments. -/
theorem Part.IsValid.readPart {part : Part} (h : part.IsValid) :
    readPart uri (pathText part.path, part.clause.group) = .ok part.segments := by
  rw [readPart_eq_ok_iff]
  refine ⟨_, _, _, h.lendSlash?, readPath_pathText ?_, rfl⟩
  intro token hToken
  split at hToken
  · exact h.path token hToken
  · exact h.path token (List.dropLast_subset _ hToken)

/-- A part that can be read is one of the grammar. -/
theorem exists_of_readPart {before : List Char} {clause : Clause} {segments : List Segment}
    (hClause : clause.IsValid) (hRead : readPart uri (before, clause.group) = .ok segments)
    (hBreak : '\n' ∉ before) :
    ∃ part : Part, part.IsValid ∧ (pathText part.path, part.clause) = (before, clause) ∧
      part.segments = segments := by
  obtain ⟨front, separator, path, hLend, hPath, rfl⟩ := readPart_eq_ok_iff.mp hRead
  unfold lendSlash? at hLend
  split at hLend
  · rename_i hHead
    cases hLend
    have hSlashed := hClause.head?_fixed.mp hHead
    obtain ⟨tokens, hValid, hText, hSegments⟩ := exists_of_readPath hPath hBreak
    refine ⟨⟨tokens, clause⟩, ⟨hValid, hClause, ?_⟩, by rw [hText], ?_⟩
    · intro hNot
      rw [hSlashed] at hNot
      cases hNot
    · simp [Part.segments, Clause.segment, Clause.group, Clause.fixed, hSlashed, hSegments]
  · rename_i hHead
    have hSlashed : clause.slashed = false := by
      rw [Bool.eq_false_iff]
      exact fun hTrue => hHead (hClause.head?_fixed.mpr hTrue)
    split at hLend
    · rename_i hLast
      cases hLend
      have hFront : '\n' ∉ before.dropLast := fun hMem => hBreak (List.dropLast_subset _ hMem)
      obtain ⟨tokens, hValid, hText, hSegments⟩ := exists_of_readPath hPath hFront
      have hWhole : pathText (tokens ++ [.literal []]) = before := by
        rw [pathText_concat, hText]
        exact List.dropLast_append_getLast? _ hLast
      refine ⟨⟨tokens ++ [.literal []], clause⟩, ⟨?_, hClause, ?_⟩, by rw [hWhole], ?_⟩
      · intro token hToken
        rcases List.mem_append.mp hToken with hToken | hToken
        · exact hValid token hToken
        · rw [List.mem_singleton.mp hToken]
          exact fun c hc => by cases hc
      · intro _
        rw [hWhole, hLast]
      · simp [Part.segments, Clause.segment, Clause.group, Clause.fixed, hSlashed, hSegments]
    · cases hLend

end RoutePaths.Template
