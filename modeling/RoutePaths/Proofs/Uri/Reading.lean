import RoutePaths.Uri.Template
import RoutePaths.Proofs.Result

/-! When the steps of reading a URI template succeed, and with what. Every
segment of a template comes from a token between slashes, from an optional
group, or from the format suffix. -/
namespace RoutePaths.Template
open Result

variable {uri : String} {segments : List Segment}

theorem repeated?_eq_none_iff (seen names : List String) :
    repeated? seen names = none ↔ names.Nodup ∧ ∀ name ∈ names, name ∉ seen := by
  induction names generalizing seen with
  | nil => simp [repeated?]
  | cons name rest ih =>
      by_cases hSeen : name ∈ seen
      · simp [repeated?, hSeen]
      · rw [repeated?, if_neg hSeen, ih]
        simp only [List.mem_cons, not_or, List.nodup_cons]
        constructor
        · rintro ⟨hRest, hFresh⟩
          refine ⟨⟨fun hMem => (hFresh name hMem).1 rfl, hRest⟩, ?_⟩
          rintro other (rfl | hOther)
          · exact hSeen
          · exact (hFresh other hOther).2
        · rintro ⟨⟨hName, hRest⟩, hFresh⟩
          refine ⟨hRest, fun other hOther => ⟨?_, hFresh other (Or.inr hOther)⟩⟩
          rintro rfl
          exact hName hOther

/-- Text without groups is nothing, or a slash and then tokens between
slashes. -/
theorem readPath_eq_ok_iff {text : List Char} :
    readPath uri text = .ok segments ↔
      (text = [] ∧ segments = []) ∨ ∃ rest, text = '/' :: rest ∧
        List.Forall₂ (fun token segment => readToken uri token = .ok segment)
          (rest.splitOn '/') segments := by
  unfold readPath
  split
  · simp [eq_comm]
  · rename_i rest
    rw [mapM_eq_ok_iff]
    simp
  · rename_i hEmpty hSlash
    simp only [reduceCtorEq, false_iff, not_or, not_exists, not_and]
    exact ⟨fun h => absurd h hEmpty, fun rest h => absurd h (hSlash rest)⟩

theorem readPart_eq_ok_iff {part : List Char × Group} :
    readPart uri part = .ok segments ↔
      ∃ before separator path, lendSlash? part.1 part.2.separator = some (before, separator) ∧
        readPath uri before = .ok path ∧
        path ++ [.dynamic (String.ofList part.2.name) true (String.ofList separator)] = segments := by
  unfold readPart
  cases hLend : lendSlash? part.1 part.2.separator with
  | none => simp
  | some lent =>
      obtain ⟨before, separator⟩ := lent
      simp only [bind_eq_ok_iff, pure, Except.pure, Except.ok.injEq, Option.some.injEq,
        Prod.mk.injEq]
      constructor
      · rintro ⟨path, hPath, hSegments⟩
        exact ⟨before, separator, path, ⟨rfl, rfl⟩, hPath, hSegments⟩
      · rintro ⟨_, _, path, ⟨rfl, rfl⟩, hPath, hSegments⟩
        exact ⟨path, hPath, hSegments⟩

theorem readBody_eq_ok_iff {body : List Char} :
    readBody uri body = .ok segments ↔
      ∃ front back,
        List.Forall₂ (fun part part' => readPart uri part = .ok part') (cut [] body).1 front ∧
        readPath uri (cut [] body).2 = .ok back ∧ front.flatten ++ back = segments := by
  simp only [readBody, bind_eq_ok_iff, mapM_eq_ok_iff, pure, Except.pure, Except.ok.injEq]
  constructor
  · rintro ⟨front, hFront, back, hBack, hSegments⟩
    exact ⟨front, back, hFront, hBack, hSegments⟩
  · rintro ⟨front, back, hFront, hBack, hSegments⟩
    exact ⟨front, hFront, back, hBack, hSegments⟩

/-- The segments of a body, of which the lone slash has none. -/
def bodySegments (uri : String) (body : List Char) : Except Error (List Segment) :=
  if body = ['/'] then .ok [] else readBody uri body

/-- The segment of the suffix, if there is one. -/
def formatSegments (hasFormat : Bool) : List Segment :=
  if hasFormat then [formatSegment] else []

/-- The segments, if no name occurs twice in them. -/
def distinct (uri : String) (segments : List Segment) : Except Error (List Segment) :=
  match repeated? [] (Segment.names segments) with
  | some name => .error (.repeatedName name uri)
  | none => .ok segments

theorem distinct_eq_ok_iff {result : List Segment} :
    distinct uri segments = .ok result ↔ (Segment.names segments).Nodup ∧ segments = result := by
  have hNodup := repeated?_eq_none_iff [] (Segment.names segments)
  simp only [List.not_mem_nil, not_false_iff, implies_true, and_true] at hNodup
  unfold distinct
  cases hRepeated : repeated? [] (Segment.names segments) with
  | none => simp [hNodup.mp hRepeated]
  | some name =>
      rw [hRepeated] at hNodup
      simpa using fun h => absurd (hNodup.mpr h) (Option.some_ne_none name)

theorem read_eq {body : List Char} {hasFormat : Bool}
    (hSplit : splitFormat uri.toList = (body, hasFormat)) :
    read uri =
      if body.head? = some '/' ∨ body.head? = some '(' then
        bodySegments uri body >>= fun path => distinct uri (path ++ formatSegments hasFormat)
      else .error (.missingSlash uri) := by
  have hNames (path : List Segment) :
      (if hasFormat = true then path ++ [formatSegment] else path) =
        path ++ formatSegments hasFormat := by
    cases hasFormat <;> simp [formatSegments]
  rw [read, hSplit]
  by_cases hHead : body.head? = some '/' ∨ body.head? = some '('
  · have hTest : (decide (body.head? = some '/') || decide (body.head? = some '(')) = true := by
      simpa using hHead
    rw [if_pos hHead]
    simp only [hTest, hNames, bodySegments, ↓reduceIte]
    split <;> rfl
  · have hTest : (decide (body.head? = some '/') || decide (body.head? = some '(')) = false := by
      simpa using hHead
    rw [if_neg hHead]
    simp only [hTest]
    rfl

/-- Reading succeeds on text that starts like a path, whose body can be read,
and in which no name occurs twice. -/
theorem read_eq_ok_iff {body : List Char} {hasFormat : Bool}
    (hSplit : splitFormat uri.toList = (body, hasFormat)) :
    read uri = .ok segments ↔
      (body.head? = some '/' ∨ body.head? = some '(') ∧
      (∃ path, bodySegments uri body = .ok path ∧ path ++ formatSegments hasFormat = segments) ∧
      (Segment.names segments).Nodup := by
  rw [read_eq hSplit]
  split
  · rename_i hHead
    simp only [bind_eq_ok_iff, distinct_eq_ok_iff]
    constructor
    · rintro ⟨path, hPath, hNodup, rfl⟩
      exact ⟨hHead, ⟨path, hPath, rfl⟩, hNodup⟩
    · rintro ⟨-, ⟨path, hPath, rfl⟩, hNodup⟩
      exact ⟨path, hPath, hNodup, rfl⟩
  · rename_i hHead
    simpa using fun h => absurd h hHead

/-- A property of the segments of all tokens and groups, and of the format
segment, holds of every segment that is read. -/
theorem forall_mem_of_read {P : Segment → Prop} (hRead : read uri = .ok segments)
    (hToken : ∀ token segment, readToken uri token = .ok segment → P segment)
    (hOptional : ∀ name separator, P (.dynamic name true separator)) :
    ∀ segment ∈ segments, P segment := by
  obtain ⟨-, ⟨path, hPath, rfl⟩, -⟩ := (read_eq_ok_iff rfl).mp hRead
  have hFormat : ∀ segment ∈ formatSegments (splitFormat uri.toList).2, P segment := by
    intro segment hSegment
    unfold formatSegments at hSegment
    split at hSegment
    · rw [List.mem_singleton.mp hSegment]
      exact hOptional _ _
    · simp at hSegment
  have hTokens {text : List Char} {tokens : List Segment} (h : readPath uri text = .ok tokens) :
      ∀ segment ∈ tokens, P segment := by
    rcases readPath_eq_ok_iff.mp h with ⟨-, rfl⟩ | ⟨rest, -, hAll⟩
    · simp
    · intro segment hSegment
      obtain ⟨token, -, hRead⟩ := exists_mem_of_forall₂ hAll hSegment
      exact hToken token segment hRead
  have hBody : ∀ segment ∈ path, P segment := by
    unfold bodySegments at hPath
    split at hPath
    · cases hPath
      simp
    · obtain ⟨front, back, hFront, hBack, rfl⟩ := readBody_eq_ok_iff.mp hPath
      intro segment hSegment
      rcases List.mem_append.mp hSegment with hSegment | hSegment
      · obtain ⟨part, hPart, hSegment⟩ := List.mem_flatten.mp hSegment
        obtain ⟨cutPart, -, hReadPart⟩ := exists_mem_of_forall₂ hFront hPart
        obtain ⟨before, separator, tokens, -, hBefore, rfl⟩ := readPart_eq_ok_iff.mp hReadPart
        rcases List.mem_append.mp hSegment with hSegment | hSegment
        · exact hTokens hBefore segment hSegment
        · rw [List.mem_singleton.mp hSegment]
          exact hOptional _ _
      · exact hTokens hBack segment hSegment
  intro segment hSegment
  rcases List.mem_append.mp hSegment with hSegment | hSegment
  · exact hBody segment hSegment
  · exact hFormat segment hSegment

/-- The separator of a required segment is a slash. -/
theorem separator_of_read (hRead : read uri = .ok segments) {name separator : String}
    (hSegment : .dynamic name false separator ∈ segments) : separator = "/" := by
  have hAll := forall_mem_of_read (P := fun segment => ∀ name separator,
    segment = .dynamic name false separator → separator = "/") hRead ?_ (by simp)
  · exact hAll _ hSegment name separator rfl
  · rintro token segment hToken name separator rfl
    unfold readToken at hToken
    split at hToken
    · cases hToken
      rfl
    · split at hToken <;> cases hToken

end RoutePaths.Template
