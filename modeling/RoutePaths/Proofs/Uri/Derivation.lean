import RoutePaths.Proofs.Uri.Uniqueness
import RoutePaths.Text.Blank

/-! Reading a URI template is parsing it. What is read are the segments of a
derivation, every derivation is read, and there is never a second one. -/
namespace RoutePaths.Template
open Result

variable {uri : String}

namespace Shape

/-- The body of a template starts with a slash or with a group. -/
theorem IsValid.head?_text {shape : Shape} (h : shape.IsValid) :
    shape.text.head? = some '/' ∨ shape.text.head? = some '(' := by
  cases shape with
  | root => exact Or.inl rfl
  | sequence parts last =>
      have hPath (tokens : List Token) (rest : List Char) :
          pathText tokens = [] ∨ (pathText tokens ++ rest).head? = some '/' := by
        cases tokens with
        | nil => exact Or.inl rfl
        | cons token others => exact Or.inr (by rw [pathText_cons]; rfl)
      cases parts with
      | nil =>
          have hLast := hPath last []
          rw [List.append_nil] at hLast
          exact Or.inl (hLast.resolve_left h.2.2.1)
      | cons part others =>
          have hText : (sequence (part :: others) last).text =
              pathText part.path ++ (part.clause.text ++
                (others.flatMap Part.text ++ pathText last)) := by
            simp [text, Part.text]
          rw [hText]
          rcases hPath part.path _ with hEmpty | hHead
          · rw [hEmpty]
            exact Or.inr rfl
          · exact Or.inl hHead

/-- A body of the grammar is read as its segments. -/
theorem IsValid.bodySegments {shape : Shape} (h : shape.IsValid) :
    bodySegments uri shape.text = .ok shape.segments := by
  cases shape with
  | root => rfl
  | sequence parts last =>
      obtain ⟨hParts, hLast, -, hRoot⟩ := h
      rw [Template.bodySegments, if_neg hRoot, readBody_eq_ok_iff, cut_sequence hParts hLast]
      refine ⟨parts.map Part.segments, last.map Token.segment, ?_, readPath_pathText hLast, ?_⟩
      · rw [List.forall₂_map_left_iff, List.forall₂_map_right_iff, List.forall₂_same]
        exact fun part hPart => (hParts part hPart).readPart
      · rw [segments, List.flatMap_def]

/-- A body that can be read is one of the grammar, if it holds no line break. -/
theorem exists_of_bodySegments {body : List Char} {segments : List Segment}
    (hRead : Template.bodySegments uri body = .ok segments) (hEmpty : body ≠ [])
    (hBreak : '\n' ∉ body) :
    ∃ shape : Shape, shape.IsValid ∧ shape.text = body ∧ shape.segments = segments := by
  unfold Template.bodySegments at hRead
  split at hRead
  · rename_i hRoot
    cases hRead
    exact ⟨root, trivial, hRoot.symm, rfl⟩
  · rename_i hRoot
    obtain ⟨front, back, hFront, hBack, rfl⟩ := readBody_eq_ok_iff.mp hRead
    obtain ⟨items, hItems, hCut, hText⟩ := exists_of_cut [] body
    rw [List.nil_append] at hText
    have hBreakRest : '\n' ∉ (cut [] body).2 := fun hMem =>
      hBreak (hText ▸ List.mem_append_right _ hMem)
    obtain ⟨last, hLast, hLastText, hLastSegments⟩ := exists_of_readPath hBack hBreakRest
    have hParts : ∃ parts : List Part, (∀ part ∈ parts, part.IsValid) ∧
        parts.map (fun part => (pathText part.path, part.clause)) = items ∧
        parts.map Part.segments = front := by
      rw [← hCut, List.forall₂_map_left_iff] at hFront
      apply exists_map_of_forall₂ hFront
      intro item hItem result hResult
      refine exists_of_readPart (hItems item hItem) hResult fun hMem => hBreak ?_
      rw [← hText]
      exact List.mem_append_left _
        (List.mem_flatMap.mpr ⟨item, hItem, List.mem_append_left _ hMem⟩)
    obtain ⟨parts, hValid, rfl, rfl⟩ := hParts
    have hWhole : (sequence parts last).text = body := by
      rw [← hText, List.flatMap_map, ← hLastText]
      rfl
    refine ⟨sequence parts last, ⟨hValid, hLast, ?_, ?_⟩, hWhole, ?_⟩
    · rwa [hWhole]
    · rwa [hWhole]
    · rw [segments, List.flatMap_def, hLastSegments]

end Shape

/-- Only from its suffix is a text split off. -/
theorem text_of_splitFormat {text body : List Char} {hasFormat : Bool}
    (h : splitFormat text = (body, hasFormat)) :
    body ++ (if hasFormat then formatSuffix else []) = text := by
  unfold splitFormat at h
  split at h
  · rename_i hSuffix
    cases h
    obtain ⟨front, rfl⟩ := List.isSuffixOf_iff_suffix.mp hSuffix
    simp
  · cases h
    simp

namespace Derivation

/-- A template of the grammar is read as the segments of its derivation. -/
theorem Derives.read {derivation : Derivation} (h : derivation.Derives uri.toList) :
    read uri = .ok derivation.segments := by
  have hSplit := splitFormat_text h.body
  rw [h.text] at hSplit
  rw [read_eq_ok_iff hSplit]
  exact ⟨h.body.head?_text, ⟨derivation.body.segments, h.body.bodySegments, rfl⟩, h.names⟩

/-- A template that can be read is one of the grammar, if it holds no line
break. -/
theorem exists_of_read {segments : List Segment} (hRead : Template.read uri = .ok segments)
    (hBreak : '\n' ∉ uri.toList) :
    ∃ derivation : Derivation, derivation.Derives uri.toList := by
  obtain ⟨body, hasFormat, hSplit⟩ : ∃ body hasFormat, splitFormat uri.toList = (body, hasFormat) :=
    ⟨_, _, rfl⟩
  obtain ⟨hHead, ⟨path, hPath, rfl⟩, hNames⟩ := (read_eq_ok_iff hSplit).mp hRead
  have hText := text_of_splitFormat hSplit
  have hEmpty : body ≠ [] := by
    rintro rfl
    simp at hHead
  have hBreakBody : '\n' ∉ body := fun hMem => hBreak (hText ▸ List.mem_append_left _ hMem)
  obtain ⟨shape, hValid, rfl, rfl⟩ := Shape.exists_of_bodySegments hPath hEmpty hBreakBody
  exact ⟨⟨shape, hasFormat⟩, hValid, hText, hNames⟩

end Derivation

/-- Text without blanks can be read exactly if it has a derivation. It is read
as the segments of the derivation, which is the only one. -/
theorem read_iff_derives (hBlank : ∀ c ∈ uri.toList, Text.isBlank c = false) :
    ((∃ segments, read uri = .ok segments) ↔
        ∃ derivation : Derivation, derivation.Derives uri.toList) ∧
      ∀ derivation : Derivation, derivation.Derives uri.toList →
        read uri = .ok derivation.segments ∧
          ∀ other : Derivation, other.Derives uri.toList → other = derivation := by
  have hBreak : '\n' ∉ uri.toList := by
    intro hMem
    exact absurd (hBlank '\n' hMem) (by decide)
  refine ⟨⟨?_, ?_⟩, ?_⟩
  · rintro ⟨segments, hRead⟩
    exact Derivation.exists_of_read hRead hBreak
  · rintro ⟨derivation, hDerives⟩
    exact ⟨derivation.segments, hDerives.read⟩
  · intro derivation hDerives
    exact ⟨hDerives.read, fun other hOther => hOther.unique hDerives⟩

/-- A template with all kinds of segments: the group takes over the slash in
front of it. -/
theorem read_iff_derives_report :
    (∀ c ∈ "/reports/:id/(page/:page)(.:format)".toList, Text.isBlank c = false) ∧
      (∃ derivation : Derivation,
        derivation.Derives "/reports/:id/(page/:page)(.:format)".toList ∧
          derivation.segments =
            [.literal "reports", .dynamic "id" false "/", .dynamic "page" true "/page/",
              .dynamic "format" true "."]) ∧
      read "/reports/:id/(page/:page)(.:format)" =
        .ok [.literal "reports", .dynamic "id" false "/", .dynamic "page" true "/page/",
          .dynamic "format" true "."] := by
  have hBlank : ∀ c ∈ "/reports/:id/(page/:page)(.:format)".toList, Text.isBlank c = false := by
    have hAll : "/reports/:id/(page/:page)(.:format)".toList.all (!Text.isBlank ·) = true := by
      decide
    simpa only [List.all_eq_true, Bool.not_eq_true'] using hAll
  have hDerives : Derivation.Derives
      ⟨.sequence
        [⟨[.literal "reports".toList, .required ':' "id".toList, .literal []],
          false, ["page".toList], ':', "page".toList⟩] [], true⟩
      "/reports/:id/(page/:page)(.:format)".toList := by
    decide
  exact ⟨hBlank, ⟨_, hDerives, by decide⟩, ((read_iff_derives hBlank).2 _ hDerives).1⟩

end RoutePaths.Template
