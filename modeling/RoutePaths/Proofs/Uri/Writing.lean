import RoutePaths.Proofs.Uri.Derivation
import Mathlib.Data.List.Induction

/-! Writing segments as a URI template. What is written is read as the segments that were
written, and what is read is never anything but a list of segments that can be written. -/
namespace RoutePaths

/-- The segment as a template writes it. A separator is written in groups only: every
required name stands behind a single slash. -/
def Segment.written : Segment → String
  | literal text => "/" ++ text
  | dynamic name false _ => "/:" ++ name
  | dynamic name true separator => "(" ++ separator ++ ":" ++ name ++ ")"

namespace Template
open Result

variable {uri : String} {segments path : List Segment}

/-- The template of segments. The root path has no segments, so its slash belongs to none of
them. -/
def write (segments : List Segment) : String :=
  (if segments = [] ∨ segments = [formatSegment] then "/" else "") ++
    String.join (segments.map Segment.written)

/-- A slash, and then any number of fixed texts that are each closed by a slash. -/
def IsGroupSeparator (text : List Char) : Prop :=
  ∃ chunks : List (List Char), (∀ chunk ∈ chunks, chunk ≠ [] ∧ ∀ c ∈ chunk, isPlainChar c = true) ∧
    text = '/' :: chunks.flatMap (· ++ ['/'])

/-- A segment that may stand anywhere in a template. The format segment is none. -/
def IsBodySegment : Segment → Prop
  | .literal text => ∀ c ∈ text.toList, isPlainChar c = true
  | .dynamic name false separator => isName name.toList = true ∧ separator = "/"
  | .dynamic name true separator => isName name.toList = true ∧ IsGroupSeparator separator.toList

/-- What segments have to be like for a template of them. A lone empty literal would be
written as the root path is, which has no segments. -/
structure IsWellFormed (segments : List Segment) : Prop where
  front : ∀ segment ∈ segments.dropLast, IsBodySegment segment
  last : ∀ segment ∈ segments.getLast?, IsBodySegment segment ∨ segment = formatSegment
  names : (Segment.names segments).Nodup
  root : segments ≠ [.literal ""]
  rootFormat : segments ≠ [.literal "", formatSegment]

theorem not_isBodySegment_formatSegment : ¬ IsBodySegment formatSegment := by
  rintro ⟨-, chunks, -, hText⟩
  have hHead := (List.cons.inj hText).1
  exact absurd hHead (by decide)

/-- Well-formed segments are those of a body, with the format segment behind them or not. -/
theorem isWellFormed_iff :
    IsWellFormed segments ↔
      (∃ path hasFormat, (∀ segment ∈ path, IsBodySegment segment) ∧ path ≠ [.literal ""] ∧
        path ++ formatSegments hasFormat = segments) ∧ (Segment.names segments).Nodup := by
  constructor
  · intro h
    refine ⟨?_, h.names⟩
    rcases List.eq_nil_or_concat' segments with rfl | ⟨front, last, rfl⟩
    · exact ⟨[], false, by simp, by simp, rfl⟩
    · have hFront := h.front
      have hLast := h.last
      rw [List.dropLast_concat] at hFront
      rw [List.getLast?_concat] at hLast
      rcases hLast last rfl with hBody | rfl
      · refine ⟨front ++ [last], false, ?_, h.root, List.append_nil _⟩
        rw [List.forall_mem_append, List.forall_mem_singleton]
        exact ⟨hFront, hBody⟩
      · refine ⟨front, true, hFront, ?_, rfl⟩
        rintro rfl
        exact h.rootFormat rfl
  · rintro ⟨⟨path, hasFormat, hPath, hRoot, rfl⟩, hNames⟩
    cases hasFormat with
    | false =>
        simp only [formatSegments, Bool.false_eq_true, if_false, List.append_nil] at hNames ⊢
        refine ⟨fun segment hSegment => hPath segment (List.dropLast_subset _ hSegment),
          fun segment hSegment => Or.inl (hPath segment (List.mem_of_getLast? hSegment)), hNames,
          hRoot, ?_⟩
        rintro rfl
        exact not_isBodySegment_formatSegment (hPath formatSegment (by simp))
    | true =>
        simp only [formatSegments, if_true] at hNames ⊢
        refine ⟨by rwa [List.dropLast_concat], ?_, hNames, ?_, ?_⟩
        · rw [List.getLast?_concat]
          rintro segment ⟨⟩
          exact Or.inr rfl
        · intro hEq
          have hLast := congrArg List.getLast? hEq
          rw [List.getLast?_concat] at hLast
          cases hLast
        · intro hEq
          have hBoth : path ++ [formatSegment] = [.literal ""] ++ [formatSegment] := hEq
          exact hRoot (List.append_cancel_right hBoth)

/-- A segment of a body is that of a token behind its slash, or of a group that is written with
a slash of its own. -/
theorem exists_token_or_clause {segment : Segment} (h : IsBodySegment segment) :
    (∃ token : Token, token.IsValid ∧ token.segment = segment ∧
        segment.written.toList = '/' :: token.text) ∨
      ∃ clause : Clause, clause.IsValid ∧ clause.slashed = true ∧ clause.segment = segment ∧
        segment.written.toList = clause.text := by
  cases segment with
  | literal text =>
      refine Or.inl ⟨.literal text.toList, h, ?_, ?_⟩
      · simp [Token.segment]
      · simp [Segment.written, Token.text]
  | dynamic name optional separator =>
      cases optional with
      | false =>
          obtain ⟨hName, rfl⟩ := h
          refine Or.inl ⟨.required ':' name.toList, ⟨rfl, hName⟩, ?_, ?_⟩
          · simp [Token.segment]
          · simp [Segment.written, Token.text]
      | true =>
          obtain ⟨hName, chunks, hChunks, hSeparator⟩ := h
          refine Or.inr ⟨⟨true, chunks, ':', name.toList⟩, ⟨hChunks, rfl, hName⟩, rfl, ?_, ?_⟩
          · simp [Clause.segment, Clause.chunkText, ← hSeparator]
          · simp [Segment.written, Clause.text, Clause.fixed, Clause.chunkText, hSeparator]

/-- Segments of a body are those of a sequence of the grammar, which they are written as. -/
theorem exists_sequence (h : ∀ segment ∈ path, IsBodySegment segment) :
    ∃ parts last, (∀ part ∈ parts, Part.IsValid part) ∧ (∀ token ∈ last, Token.IsValid token) ∧
      (Shape.sequence parts last).segments = path ∧
      (Shape.sequence parts last).text = path.flatMap (·.written.toList) := by
  induction path using List.reverseRecOn with
  | nil => exact ⟨[], [], by simp, by simp, rfl, rfl⟩
  | append_singleton front segment ih =>
      rw [List.forall_mem_append, List.forall_mem_singleton] at h
      obtain ⟨parts, last, hParts, hLast, rfl, hText⟩ := ih h.1
      rw [List.flatMap_append, List.flatMap_singleton, ← hText]
      rcases exists_token_or_clause h.2 with
        ⟨token, hToken, rfl, hWritten⟩ | ⟨clause, hClause, hSlashed, rfl, hWritten⟩
      · refine ⟨parts, last ++ [token], hParts, ?_, ?_, ?_⟩
        · rw [List.forall_mem_append, List.forall_mem_singleton]
          exact ⟨hLast, hToken⟩
        · simp [Shape.segments]
        · simp [Shape.text, pathText_concat, hWritten]
      -- The path since the group before goes into the part of the new one.
      · refine ⟨parts ++ [⟨last, clause⟩], [], ?_, by simp, ?_, ?_⟩
        · rw [List.forall_mem_append, List.forall_mem_singleton]
          exact ⟨hParts, hLast, hClause, by simp [hSlashed]⟩
        · simp [Shape.segments, Part.segments, hSlashed]
        · simp [Shape.text, Part.text, pathText, hWritten]

theorem written_ne_nil (segment : Segment) : segment.written.toList ≠ [] := by
  obtain ⟨text⟩ | ⟨name, optional, separator⟩ := segment
  · simp [Segment.written]
  · cases optional <;> simp [Segment.written]

theorem eq_nil_of_written (h : path.flatMap (·.written.toList) = []) : path = [] := by
  rw [List.flatMap_eq_nil_iff] at h
  exact List.eq_nil_iff_forall_not_mem.mpr fun segment hSegment =>
    written_ne_nil segment (h segment hSegment)

/-- Only the empty literal is written as a lone slash. -/
theorem eq_literal_of_written (h : path.flatMap (·.written.toList) = ['/']) :
    path = [.literal ""] := by
  cases path with
  | nil => cases h
  | cons segment rest =>
      rw [List.flatMap_cons] at h
      obtain ⟨text⟩ | ⟨name, optional, separator⟩ := segment
      · have hWritten : (Segment.literal text).written.toList = '/' :: text.toList := by
          simp [Segment.written]
        rw [hWritten] at h
        obtain ⟨hText, hRest⟩ := List.append_eq_nil_iff.mp (List.cons.inj h).2
        rw [eq_nil_of_written hRest, String.toList_eq_nil_iff.mp hText]
      · cases optional <;> simp [Segment.written] at h

theorem toList_write (segments : List Segment) :
    (write segments).toList =
      (if segments = [] ∨ segments = [formatSegment] then ['/'] else []) ++
        segments.flatMap (·.written.toList) := by
  rw [write, String.toList_append, String.toList_join, List.flatMap_map]
  congr 1
  split <;> rfl

/-- The slash of the root path is only put in front of segments that are none of a body. -/
theorem toList_write_append (hPath : ∀ segment ∈ path, IsBodySegment segment) (hNe : path ≠ [])
    (hasFormat : Bool) :
    (write (path ++ formatSegments hasFormat)).toList =
      path.flatMap (·.written.toList) ++ if hasFormat then formatSuffix else [] := by
  have hNone : ¬ (path ++ formatSegments hasFormat = [] ∨
      path ++ formatSegments hasFormat = [formatSegment]) := by
    rintro (hNil | hFormat)
    · exact hNe (List.append_eq_nil_iff.mp hNil).1
    · obtain ⟨segment, rest, rfl⟩ := List.exists_cons_of_ne_nil hNe
      have hFirst := (List.cons.inj hFormat).1
      exact not_isBodySegment_formatSegment (hFirst ▸ hPath segment (List.mem_cons_self ..))
  have hSuffix : (formatSegments hasFormat).flatMap (·.written.toList) =
      if hasFormat then formatSuffix else [] := by
    cases hasFormat <;> decide
  rw [toList_write, if_neg hNone, List.nil_append, List.flatMap_append, hSuffix]

/-- Well-formed segments have a derivation of the template that they are written as. -/
theorem IsWellFormed.exists_derivation (h : IsWellFormed segments) :
    ∃ derivation : Derivation, derivation.Derives (write segments).toList ∧
      derivation.segments = segments := by
  obtain ⟨⟨path, hasFormat, hPath, hRoot, rfl⟩, hNames⟩ := isWellFormed_iff.mp h
  by_cases hEmpty : path = []
  · subst hEmpty
    refine ⟨⟨.root, hasFormat⟩, ⟨trivial, ?_, hNames⟩, rfl⟩
    cases hasFormat <;> decide
  · obtain ⟨parts, last, hParts, hLast, rfl, hText⟩ := exists_sequence hPath
    refine ⟨⟨.sequence parts last, hasFormat⟩, ⟨⟨hParts, hLast, ?_, ?_⟩, ?_, hNames⟩, rfl⟩
    · rw [hText]
      exact fun hNil => hEmpty (eq_nil_of_written hNil)
    · rw [hText]
      exact fun hSlash => hRoot (eq_literal_of_written hSlash)
    · rw [toList_write_append hPath hEmpty, Derivation.text, hText]

/-- What is read between slashes is a segment of a body. A line break behind a name is not
part of it. -/
theorem isBodySegment_of_readToken {token : List Char} {segment : Segment}
    (hRead : readToken uri token = .ok segment) (hSlash : '/' ∉ token) : IsBodySegment segment := by
  unfold readToken at hRead
  split at hRead
  · rename_i name hName
    cases hRead
    cases token with
    | nil => cases hName
    | cons sigil rest =>
        rw [requiredName?, Option.ite_none_right_eq_some, Bool.and_eq_true] at hName
        obtain ⟨⟨-, hValid⟩, hRest⟩ := hName
        cases hRest
        exact ⟨by rwa [String.toList_ofList], rfl⟩
  · split at hRead
    · cases hRead
    · rename_i hSpecial
      cases hRead
      simp only [List.any_eq_true, not_exists, not_and, Bool.not_eq_true] at hSpecial
      intro c hc
      rw [String.toList_ofList] at hc
      exact isPlainChar_iff.mpr ⟨fun hEq => hSlash (hEq ▸ hc), hSpecial c hc⟩

theorem isBodySegment_of_readPath {text : List Char} (hRead : readPath uri text = .ok segments) :
    ∀ segment ∈ segments, IsBodySegment segment := by
  rcases readPath_eq_ok_iff.mp hRead with ⟨-, rfl⟩ | ⟨rest, -, hTokens⟩
  · simp
  · intro segment hSegment
    obtain ⟨token, hToken, hReadToken⟩ := exists_mem_of_forall₂ hTokens hSegment
    exact isBodySegment_of_readToken hReadToken (Splitting.not_mem_of_mem_splitOn hToken)

/-- Whether the slash of a group is its own or a borrowed one, its separator is that of the
grammar. -/
theorem Clause.IsValid.separator_of_lendSlash? {clause : Clause} (h : clause.IsValid)
    {before front separator : List Char}
    (hLend : lendSlash? before clause.fixed = some (front, separator)) :
    separator = '/' :: clause.chunkText := by
  unfold lendSlash? at hLend
  split at hLend
  · rename_i hHead
    cases hLend
    simp [fixed, h.head?_fixed.mp hHead]
  · rename_i hHead
    have hSlashed : clause.slashed = false := by
      rw [Bool.eq_false_iff]
      exact fun hTrue => hHead (h.head?_fixed.mpr hTrue)
    split at hLend
    · cases hLend
      simp [fixed, hSlashed]
    · cases hLend

theorem isBodySegment_of_readPart {before : List Char} {clause : Clause} (hClause : clause.IsValid)
    (hRead : readPart uri (before, clause.group) = .ok segments) :
    ∀ segment ∈ segments, IsBodySegment segment := by
  obtain ⟨front, separator, path, hLend, hPath, rfl⟩ := readPart_eq_ok_iff.mp hRead
  rw [List.forall_mem_append, List.forall_mem_singleton]
  refine ⟨isBodySegment_of_readPath hPath, ?_⟩
  refine ⟨by simpa [Clause.group] using hClause.name, clause.chunks, hClause.chunks, ?_⟩
  rw [String.toList_ofList]
  exact hClause.separator_of_lendSlash? hLend

theorem isBodySegment_of_readBody {body : List Char} (hRead : readBody uri body = .ok segments) :
    ∀ segment ∈ segments, IsBodySegment segment := by
  obtain ⟨front, back, hFront, hBack, rfl⟩ := readBody_eq_ok_iff.mp hRead
  obtain ⟨items, hItems, hCut, -⟩ := exists_of_cut [] body
  rw [List.forall_mem_append]
  refine ⟨?_, isBodySegment_of_readPath hBack⟩
  intro segment hSegment
  obtain ⟨part, hPart, hSegment⟩ := List.mem_flatten.mp hSegment
  rw [← hCut, List.forall₂_map_left_iff] at hFront
  obtain ⟨item, hItem, hReadPart⟩ := exists_mem_of_forall₂ hFront hPart
  exact isBodySegment_of_readPart (hItems item hItem) hReadPart segment hSegment

theorem eq_of_readToken {token : List Char} {text : String}
    (hRead : readToken uri token = .ok (.literal text)) : token = text.toList := by
  unfold readToken at hRead
  split at hRead
  · cases hRead
  · split at hRead
    · cases hRead
    · cases hRead
      rw [String.toList_ofList]

/-- A lone empty literal is read from nothing but a lone slash. -/
theorem eq_slash_of_readBody {body : List Char} (hRead : readBody uri body = .ok [.literal ""]) :
    body = ['/'] := by
  obtain ⟨front, back, hFront, hBack, hSegments⟩ := readBody_eq_ok_iff.mp hRead
  obtain ⟨items, -, hCut, hText⟩ := exists_of_cut [] body
  rw [← hCut, List.forall₂_map_left_iff] at hFront
  cases hFront with
  | @cons item part items others hPart _ =>
      -- A group is an optional segment, and there is none.
      obtain ⟨_, separator, path, -, -, rfl⟩ := readPart_eq_ok_iff.mp hPart
      have hMem : .dynamic (String.ofList item.2.name) true (String.ofList separator) ∈
          [Segment.literal ""] := by
        rw [← hSegments]
        simp [Clause.group]
      cases List.mem_singleton.mp hMem
  | nil =>
      rw [List.flatMap_nil, List.nil_append, List.nil_append] at hText
      rw [List.flatten_nil, List.nil_append] at hSegments
      rw [hText, hSegments] at hBack
      rcases readPath_eq_ok_iff.mp hBack with ⟨-, hNil⟩ | ⟨rest, rfl, hTokens⟩
      · cases hNil
      · obtain ⟨token, tokens, hToken, hNone, hSplit⟩ := List.forall₂_cons_right_iff.mp hTokens
        rw [List.forall₂_nil_right_iff.mp hNone] at hSplit
        have hRest : ['/'].intercalate (rest.splitOn '/') = rest := List.intercalate_splitOn '/'
        rw [hSplit, List.intercalate_singleton, eq_of_readToken hToken] at hRest
        rw [← hRest]
        rfl

theorem isBodySegment_of_bodySegments {body : List Char}
    (hPath : bodySegments uri body = .ok segments) : ∀ segment ∈ segments, IsBodySegment segment := by
  unfold bodySegments at hPath
  split at hPath
  · cases hPath
    simp
  · exact isBodySegment_of_readBody hPath

/-- What is read are the segments of a body, with the format segment behind them or not. -/
theorem exists_path_of_read (hRead : read uri = .ok segments) :
    ∃ path hasFormat, (∀ segment ∈ path, IsBodySegment segment) ∧ path ≠ [.literal ""] ∧
      path ++ formatSegments hasFormat = segments := by
  obtain ⟨-, ⟨path, hPath, rfl⟩, -⟩ := (read_eq_ok_iff rfl).mp hRead
  refine ⟨path, _, isBodySegment_of_bodySegments hPath, ?_, rfl⟩
  rintro rfl
  unfold bodySegments at hPath
  split at hPath
  · cases hPath
  · rename_i hSlash
    exact hSlash (eq_slash_of_readBody hPath)

/-- A template without the suffix has the segments of its body only. -/
theorem isBodySegment_of_read (hRead : read uri = .ok segments)
    (hSuffix : ¬ formatSuffix <:+ uri.toList) : ∀ segment ∈ segments, IsBodySegment segment := by
  have hSplit : splitFormat uri.toList = (uri.toList, false) := by
    rw [splitFormat, if_neg (by rwa [List.isSuffixOf_iff_suffix])]
  obtain ⟨-, ⟨path, hPath, rfl⟩, -⟩ := (read_eq_ok_iff hSplit).mp hRead
  rw [formatSegments, if_neg Bool.false_ne_true, List.append_nil]
  exact isBodySegment_of_bodySegments hPath

/-- Well-formed segments are read from the template that they are written as, and whatever is
read is well formed. -/
theorem read_write_and_isWellFormed :
    (∀ segments, IsWellFormed segments → read (write segments) = .ok segments) ∧
      ∀ uri segments, read uri = .ok segments → IsWellFormed segments := by
  constructor
  · intro segments h
    obtain ⟨derivation, hDerives, rfl⟩ := h.exists_derivation
    exact hDerives.read
  · intro uri segments hRead
    have hNames := ((read_eq_ok_iff rfl).mp hRead).2.2
    exact isWellFormed_iff.mpr ⟨exists_path_of_read hRead, hNames⟩

/-- Segments of all kinds. The empty literal is a slash of its own. -/
def taggedSegments : List Segment :=
  [.literal "posts", .literal "", .dynamic "tag" true "/tagged/", .dynamic "id" false "/",
    formatSegment]

/-- The template that is written need not be the one that was read, for there is more than one
spelling. -/
theorem read_write_taggedSegments :
    read "/posts//(tagged/:tag)/*id(.:format)" = .ok taggedSegments ∧
      IsWellFormed taggedSegments ∧
      write taggedSegments = "/posts/(/tagged/:tag)/:id(.:format)" ∧
      read (write taggedSegments) = .ok taggedSegments := by
  have hDerives : Derivation.Derives
      ⟨.sequence
        [⟨[.literal "posts".toList, .literal [], .literal []],
          false, ["tagged".toList], ':', "tag".toList⟩] [.required '*' "id".toList], true⟩
      "/posts//(tagged/:tag)/*id(.:format)".toList := by
    decide
  have hRead : read "/posts//(tagged/:tag)/*id(.:format)" = .ok taggedSegments := hDerives.read
  have hWellFormed := read_write_and_isWellFormed.2 _ _ hRead
  exact ⟨hRead, hWellFormed, by decide, read_write_and_isWellFormed.1 _ hWellFormed⟩

end Template

end RoutePaths
