import RoutePaths.Proofs.Table.Columns
import RoutePaths.Proofs.Text.Lines
import RoutePaths.Proofs.Uri.Derivation
import RoutePaths.Table.Basic

/-! Printing a table and reading it back. Columns may stand anywhere on their
line, because they are told by their look alone. The conditions on a row are
those under which its columns look like what they are. -/
namespace RoutePaths.Table
open Text

/-- The columns of a row before they are printed. A row without a name inherits
one, and the action is a list of words. -/
structure Entry where
  name? : Option String
  verb : String
  uri : String
  action : List String
  deriving DecidableEq, Repr

/-- The words are printed one behind the other, with one or more spaces between
each two. -/
inductive Spaced : List (List Char) → List Char → Prop
  | last (word : List Char) : Spaced [word] word
  | more (word : List Char) (gap : Nat) {rest : List (List Char)} {text : List Char}
      (h : Spaced rest text) : Spaced (word :: rest) (word ++ List.replicate (gap + 1) ' ' ++ text)

namespace Entry

/-- The words in front of the URI: the name and the verb, as far as the row has
them. -/
def front (entry : Entry) : List (List Char) :=
  entry.name?.toList.map String.toList ++ if entry.verb = "" then [] else [entry.verb.toList]

/-- All words of the row. -/
def words (entry : Entry) : List (List Char) :=
  entry.front ++ entry.uri.toList :: entry.action.map String.toList

/-- The line holds the words of the row, indented in any way. -/
def Prints (entry : Entry) (line : String) : Prop :=
  ∃ indent text, Spaced entry.words text ∧ line.toList = List.replicate indent ' ' ++ text

/-- The columns of the row look like what they are. A name without a verb must
not be taken for one, and a verb without a name must. -/
structure IsValid (entry : Entry) : Prop where
  name : ∀ name ∈ entry.name?, IsWord name.toList ∧ Row.isUri name.toList = false
  verb : IsSolid entry.verb.toList ∧ Row.isUri entry.verb.toList = false
  upper : Text.upper entry.verb.toList = entry.verb.toList
  uri : IsSolid entry.uri.toList ∧ Row.isUri entry.uri.toList = true
  template : ∃ segments, Template.read entry.uri = .ok segments
  action : ∀ word ∈ entry.action, IsWord word.toList
  loneName : ∀ name ∈ entry.name?, entry.verb = "" → Row.looksLikeVerb name.toList = false
  loneVerb : entry.name? = none → entry.verb ≠ "" → Row.looksLikeVerb entry.verb.toList = true

/-- The route is the one of the row at the given index of a table: it has the
last name that was printed until then, and everything else from its own row. -/
structure Records (entries : List Entry) (index : Nat) (entry : Entry) (route : Route) : Prop where
  name : ((entries.take (index + 1)).filterMap (·.name?)).getLast? = some route.name
  verb : route.verb = entry.verb
  uri : route.uri = entry.uri
  segments : Template.read entry.uri = .ok route.segments
  action : route.action = " ".intercalate entry.action
  line : route.line = index + 2
  inherited : route.inherited = entry.name?.isNone

end Entry

/-- The text of a table: its lines, joined by line feeds, with or without one
behind the last line. -/
def print (header : String) (lines : List String) (closed : Bool) : String :=
  "\n".intercalate (header :: lines) ++ if closed then "\n" else ""

theorem isBlank_spaces (count : Nat) : ∀ c ∈ List.replicate count ' ', isBlank c = true := by
  intro c hc
  rw [List.eq_of_mem_replicate hc]
  decide

theorem isOneLine_spaces (count : Nat) : IsOneLine (List.replicate count ' ') := by
  intro c hc
  rw [List.eq_of_mem_replicate hc]
  decide

theorem Spaced.words_eq {items : List (List Char)} {text : List Char} (h : Spaced items text)
    (hItems : ∀ item ∈ items, IsWord item) : words text = items := by
  induction h with
  | last word => exact (hItems word (List.mem_singleton_self word)).words_eq
  | more word gap _ ih =>
      rw [List.forall_mem_cons] at hItems
      rw [hItems.1.words_append (isBlank_spaces (gap + 1)) (by simp), ih hItems.2]

theorem Spaced.isOneLine {items : List (List Char)} {text : List Char} (h : Spaced items text)
    (hItems : ∀ item ∈ items, IsWord item) : IsOneLine text := by
  induction h with
  | last word => exact (hItems word (List.mem_singleton_self word)).2.isOneLine
  | more word gap _ ih =>
      rw [List.forall_mem_cons] at hItems
      exact (hItems.1.2.isOneLine.append (isOneLine_spaces (gap + 1))).append (ih hItems.2)

theorem words_of_isHeader {line : List Char} (h : isHeader line = true) :
    ∃ rest, words line = "Prefix".toList :: "Verb".toList :: "URI".toList :: rest := by
  unfold isHeader at h
  split at h
  · rename_i hWords
    simp only [Bool.and_eq_true, beq_iff_eq] at h
    obtain ⟨⟨⟨rfl, rfl⟩, rfl⟩, -⟩ := h
    exact ⟨_, hWords⟩
  · cases h

theorem words_of_isBanner {line : List Char} (h : isBanner line = true) :
    ∃ rest, words line = "Routes".toList :: "for".toList :: rest := by
  simp only [isBanner, Bool.and_eq_true, List.isPrefixOf_iff_prefix] at h
  obtain ⟨⟨⟨rest, hText⟩, -⟩, -⟩ := h
  have hStart : bannerStart = "Routes".toList ++ [' '] ++ ("for".toList ++ [' ']) := by decide
  have hRoutes : IsWord "Routes".toList := by decide
  have hFor : IsWord "for".toList := by decide
  have hSpace : ∀ c ∈ [' '], isBlank c = true := List.forall_mem_singleton.mpr (by decide)
  refine ⟨words rest, ?_⟩
  rw [← words_trim, ← hText, hStart, List.append_assoc, hRoutes.words_append hSpace (by simp),
    hFor.words_append hSpace (by simp)]

namespace Entry

variable {entry : Entry} {line : String}

theorem mem_front_cases {word : List Char} (h : word ∈ entry.front) :
    (∃ name ∈ entry.name?, name.toList = word) ∨ entry.verb ≠ "" ∧ entry.verb.toList = word := by
  rcases List.mem_append.mp h with hName | hVerb
  · obtain ⟨name, hMem, hWord⟩ := List.mem_map.mp hName
    exact Or.inl ⟨name, Option.mem_toList.mp hMem, hWord⟩
  · split at hVerb
    · cases hVerb
    · rename_i hSome
      exact Or.inr ⟨hSome, (List.mem_singleton.mp hVerb).symm⟩

theorem words_ne_nil (entry : Entry) : entry.words ≠ [] :=
  List.append_ne_nil_of_right_ne_nil _ (List.cons_ne_nil _ _)

theorem IsValid.isWord_front (h : entry.IsValid) : ∀ word ∈ entry.front, IsWord word := by
  intro word hWord
  rcases mem_front_cases hWord with ⟨name, hName, rfl⟩ | ⟨hSome, rfl⟩
  · exact (h.name name hName).1
  · exact ⟨fun hEmpty => hSome (String.toList_eq_nil_iff.mp hEmpty), h.verb.1⟩

theorem IsValid.isUri_front (h : entry.IsValid) : ∀ word ∈ entry.front, Row.isUri word = false := by
  intro word hWord
  rcases mem_front_cases hWord with ⟨name, hName, rfl⟩ | ⟨-, rfl⟩
  · exact (h.name name hName).2
  · exact h.verb.2

theorem IsValid.isWord_words (h : entry.IsValid) : ∀ word ∈ entry.words, IsWord word := by
  intro word hWord
  rcases List.mem_append.mp hWord with hFront | hBack
  · exact h.isWord_front word hFront
  · rcases List.mem_cons.mp hBack with rfl | hAction
    · refine ⟨fun hEmpty => ?_, h.uri.1⟩
      have hUri := h.uri.2
      rw [hEmpty] at hUri
      cases hUri
    · obtain ⟨item, hItem, rfl⟩ := List.mem_map.mp hAction
      exact h.action item hItem

theorem Prints.words_eq (hPrints : entry.Prints line) (h : entry.IsValid) :
    Text.words line.toList = entry.words := by
  obtain ⟨indent, text, hSpaced, hLine⟩ := hPrints
  rw [hLine, words_blanks_append (isBlank_spaces indent), hSpaced.words_eq h.isWord_words]

theorem Prints.ne_nil (hPrints : entry.Prints line) (h : entry.IsValid) : line.toList ≠ [] := by
  intro hEmpty
  have hWords := hPrints.words_eq h
  rw [hEmpty, words_nil] at hWords
  exact entry.words_ne_nil hWords.symm

theorem Prints.isOneLine (hPrints : entry.Prints line) (h : entry.IsValid) :
    IsOneLine line.toList := by
  obtain ⟨indent, text, hSpaced, hLine⟩ := hPrints
  rw [hLine]
  exact (isOneLine_spaces indent).append (hSpaced.isOneLine h.isWord_words)

/-- The words of a row start with its URI, or with one or two other words and
then the URI. Only a verb can stand between a name and the URI. -/
theorem words_cases (entry : Entry) :
    (∃ rest, entry.words = entry.uri.toList :: rest) ∨
      (∃ word rest, entry.words = word :: entry.uri.toList :: rest) ∨
      ∃ word rest, entry.words = word :: entry.verb.toList :: entry.uri.toList :: rest := by
  unfold words front
  cases entry.name? with
  | none =>
      split
      · exact Or.inl ⟨_, rfl⟩
      · exact Or.inr (Or.inl ⟨_, _, rfl⟩)
  | some name =>
      split
      · exact Or.inr (Or.inl ⟨_, _, rfl⟩)
      · exact Or.inr (Or.inr ⟨_, _, rfl⟩)

/-- The head of a table has no URI among its first three words. -/
theorem Prints.isHeader_eq (hPrints : entry.Prints line) (h : entry.IsValid) :
    isHeader line.toList = false := by
  rw [← Bool.not_eq_true]
  intro hHeader
  obtain ⟨rest, hWords⟩ := words_of_isHeader hHeader
  rw [hPrints.words_eq h] at hWords
  have hUri := h.uri.2
  rcases entry.words_cases with ⟨others, hCase⟩ | ⟨word, others, hCase⟩ | ⟨word, others, hCase⟩
  all_goals
    rw [hWords] at hCase
    simp only [List.cons.injEq] at hCase
  · rw [← hCase.1] at hUri
    exact absurd hUri (by decide)
  · rw [← hCase.2.1] at hUri
    exact absurd hUri (by decide)
  · rw [← hCase.2.2.1] at hUri
    exact absurd hUri (by decide)

/-- The second word of a banner is neither a URI nor in upper case. -/
theorem Prints.isBanner_eq (hPrints : entry.Prints line) (h : entry.IsValid) :
    isBanner line.toList = false := by
  rw [← Bool.not_eq_true]
  intro hBanner
  obtain ⟨rest, hWords⟩ := words_of_isBanner hBanner
  rw [hPrints.words_eq h] at hWords
  have hUri := h.uri.2
  have hUpper := h.upper
  rcases entry.words_cases with ⟨others, hCase⟩ | ⟨word, others, hCase⟩ | ⟨word, others, hCase⟩
  all_goals
    rw [hWords] at hCase
    simp only [List.cons.injEq] at hCase
  · rw [← hCase.1] at hUri
    exact absurd hUri (by decide)
  · rw [← hCase.2.1] at hUri
    exact absurd hUri (by decide)
  · rw [← hCase.2.1] at hUpper
    exact absurd hUpper (by decide)

theorem Prints.isLayout_eq (hPrints : entry.Prints line) (h : entry.IsValid) :
    isLayout line.toList = false := by
  have hBlank : isAllBlank line.toList = false := by
    rw [← Bool.not_eq_true, isAllBlank, List.all_eq_true]
    intro hAll
    have hWords := hPrints.words_eq h
    rw [words_of_blanks hAll] at hWords
    exact entry.words_ne_nil hWords.symm
  rw [isLayout, hBlank, hPrints.isHeader_eq h, hPrints.isBanner_eq h]
  rfl

/-- The name and the verb are told from each other, and from their absence. -/
theorem IsValid.leading?_front (h : entry.IsValid) :
    Row.leading? entry.front = some ((entry.name?.getD "").toList, entry.verb.toList) := by
  unfold front
  cases hName : entry.name? with
  | none =>
      by_cases hVerb : entry.verb = ""
      · rw [hVerb, if_pos rfl]
        rfl
      · rw [if_neg hVerb]
        show Row.leading? [entry.verb.toList] = _
        rw [Row.leading?, if_pos (h.loneVerb hName hVerb), h.upper]
        rfl
  | some name =>
      by_cases hVerb : entry.verb = ""
      · have hLook := h.loneName name (by rw [hName]; rfl) hVerb
        rw [hVerb, if_pos rfl]
        show Row.leading? [name.toList] = _
        rw [Row.leading?, if_neg (by simp [hLook])]
        rfl
      · rw [if_neg hVerb]
        show Row.leading? [name.toList, entry.verb.toList] = _
        rw [Row.leading?, h.upper]
        rfl

/-- A printed row has its columns back. -/
theorem Prints.read_eq (hPrints : entry.Prints line) (h : entry.IsValid) :
    Row.read line = .ok
      ⟨entry.name?.getD "", entry.verb, entry.uri, " ".intercalate entry.action⟩ := by
  rw [Row.read, hPrints.words_eq h, words,
    Row.ofWords_eq_ok h.isUri_front h.uri.2 h.leading?_front]
  have hAction : String.ofList ([' '].intercalate (entry.action.map String.toList)) =
      " ".intercalate entry.action := by
    rw [← String.toList_inj, String.toList_ofList, String.toList_intercalate]
    rfl
  rw [hAction, String.ofList_toList, String.ofList_toList, String.ofList_toList]

theorem IsValid.getD_name? (h : entry.IsValid) (lastName : Option String) :
    (if entry.name?.getD "" = "" then lastName else some (entry.name?.getD "")) =
      (entry.name? <|> lastName) ∧
    decide (entry.name?.getD "" = "") = entry.name?.isNone := by
  cases hName : entry.name? with
  | none => exact ⟨rfl, rfl⟩
  | some name =>
      have hSome : name ≠ "" := by
        rintro rfl
        exact (h.name "" (by rw [hName]; rfl)).1.1 rfl
      simp [hSome]

theorem Prints.nextName_eq (hPrints : entry.Prints line) (h : entry.IsValid)
    (lastName : Option String) : nextName lastName line = (entry.name? <|> lastName) := by
  rw [nextName, hPrints.isLayout_eq h, hPrints.read_eq h]
  exact (h.getD_name? lastName).1

theorem Prints.readLine_eq (hPrints : entry.Prints line) (h : entry.IsValid)
    {lastName : Option String} {name : String} (hName : (entry.name? <|> lastName) = some name)
    {segments : List Segment} (hSegments : Template.read entry.uri = .ok segments) (number : Nat) :
    readLine lastName number line = .accepted
      ⟨name, entry.verb, entry.uri, segments, " ".intercalate entry.action, number,
        entry.name?.isNone⟩ := by
  obtain ⟨hOwn, hInherited⟩ := h.getD_name? lastName
  rw [readLine, hPrints.isLayout_eq h, hPrints.read_eq h]
  simp only [ofColumns, hOwn, hName, hSegments, hInherited, Bool.false_eq_true, ↓reduceIte]

/-- The last name that the rows print. -/
def lastName (entries : List Entry) : Option String :=
  (entries.filterMap (·.name?)).getLast?

theorem lastName_concat (entries : List Entry) (entry : Entry) :
    lastName (entries ++ [entry]) = (entry.name? <|> lastName entries) := by
  unfold lastName
  rw [List.filterMap_append]
  cases hName : entry.name? with
  | none => simp [hName]
  | some name => simp [hName]

/-- Rows that are printed behind others become routes, as long as there is a name
for the first of them. -/
theorem outcomes_printed {entries earlier : List Entry} {lines : List String}
    (hPrinted : List.Forall₂ Prints entries lines) (hValid : ∀ entry ∈ entries, entry.IsValid)
    (hNamed : ∀ entry ∈ entries.head?, (lastName (earlier ++ [entry])).isSome) :
    ∃ routes : List Route,
      outcomes (lastName earlier) (earlier.length + 2) lines = routes.map .accepted ∧
      routes.length = entries.length ∧
      ∀ index entry, entries[index]? = some entry →
        ∃ route, routes[index]? = some route ∧
          Records (earlier ++ entries) (earlier.length + index) entry route := by
  induction hPrinted generalizing earlier with
  | nil => exact ⟨[], rfl, rfl, by simp⟩
  | @cons entry line entries lines hPrints _ ih =>
      rw [List.forall_mem_cons] at hValid
      obtain ⟨name, hName⟩ := Option.isSome_iff_exists.mp (hNamed entry rfl)
      obtain ⟨segments, hSegments⟩ := hValid.1.template
      have hOwn : (entry.name? <|> lastName earlier) = some name := by
        rw [← lastName_concat, hName]
      have hRest : ∀ next ∈ entries.head?, (lastName (earlier ++ [entry] ++ [next])).isSome := by
        intro next _
        rw [lastName_concat, hName]
        cases next.name? <;> rfl
      obtain ⟨routes, hOutcomes, hLength, hRecords⟩ := ih hValid.2 hRest
      refine ⟨⟨name, entry.verb, entry.uri, segments, " ".intercalate entry.action,
        (earlier.length + 2 : Nat), entry.name?.isNone⟩ :: routes, ?_, by simp [hLength], ?_⟩
      · rw [outcomes, hPrints.readLine_eq hValid.1 hOwn hSegments, hPrints.nextName_eq hValid.1,
          ← lastName_concat, List.map_cons, ← hOutcomes, List.length_append]
        rfl
      · intro index other hOther
        cases index with
        | zero =>
            cases hOther
            refine ⟨_, rfl, ?_, rfl, rfl, hSegments, rfl, ?_, rfl⟩
            · rw [← hName, lastName, List.append_cons, List.take_left' (by simp)]
            · simp
        | succ index =>
            obtain ⟨route, hRoute, hRecord⟩ := hRecords index other hOther
            refine ⟨route, hRoute, ?_⟩
            have hIndex : earlier.length + (index + 1) = (earlier ++ [entry]).length + index := by
              simp only [List.length_append, List.length_singleton]
              omega
            rw [hIndex, List.append_cons]
            exact hRecord

end Entry

/-- The lines of a table that has been printed, without the first one. -/
theorem tail_lines_print {header : String} {lines : List String} (hHeader : IsOneLine header.toList)
    (hLines : ∀ line ∈ lines, line.toList ≠ [] ∧ IsOneLine line.toList) (closed : Bool) :
    ((Text.lines (print header lines closed).toList).map String.ofList).tail = lines := by
  have hText : (print header lines closed).toList =
      ['\n'].intercalate (header.toList :: lines.map String.toList) ++
        if closed then ['\n'] else [] := by
    rw [print, String.toList_append, String.toList_intercalate, List.map_cons]
    cases closed <;> rfl
  have hRows : ∀ row ∈ lines.map String.toList, row ≠ [] ∧ IsOneLine row := by
    simpa only [List.forall_mem_map] using hLines
  have hFinal : (if closed then ['\n'] else []) = [] ∨
      (if closed then ['\n'] else []) = ['\n'] := by
    cases closed
    · exact Or.inl rfl
    · exact Or.inr rfl
  rw [← List.map_tail, hText, tail_lines_intercalate hHeader hRows hFinal, List.map_map]
  exact (List.map_congr_left fun line _ => String.ofList_toList).trans (List.map_id lines)

/-- A table that has been printed has no diagnostics if each of its lines becomes
a route. -/
theorem read_print_of_outcomes {header : String} {lines : List String} {routes : List Route}
    (hHeader : IsOneLine header.toList)
    (hLines : ∀ line ∈ lines, line.toList ≠ [] ∧ IsOneLine line.toList)
    (hOutcomes : outcomes none 2 lines = routes.map .accepted) (closed : Bool) :
    read (print header lines closed) = ⟨routes, []⟩ := by
  have hRoutes (routes : List Route) :
      (routes.map Outcome.accepted).filterMap (·.route?) = routes ∧
        (routes.map Outcome.accepted).filterMap (·.diagnostic?) = [] := by
    induction routes with
    | nil => exact ⟨rfl, rfl⟩
    | cons route rest ih => exact ⟨congrArg (route :: ·) ih.1, ih.2⟩
  simp only [read, tail_lines_print hHeader hLines closed, hOutcomes, hRoutes]

/-- A table that has been printed is read without a diagnostic, and has a route
for each row, in order. The head may be any line. -/
theorem read_print {header : String} {entries : List Entry} {lines : List String}
    (hHeader : IsOneLine header.toList) (hPrinted : List.Forall₂ Entry.Prints entries lines)
    (hValid : ∀ entry ∈ entries, entry.IsValid)
    (hFirst : ∀ entry ∈ entries.head?, entry.name?.isSome) (closed : Bool) :
    (read (print header lines closed)).diagnostics = [] ∧
      (read (print header lines closed)).routes.length = entries.length ∧
      ∀ index entry, entries[index]? = some entry →
        ∃ route, (read (print header lines closed)).routes[index]? = some route ∧
          Entry.Records entries index entry route := by
  have hLines : ∀ line ∈ lines, line.toList ≠ [] ∧ IsOneLine line.toList := by
    intro line hLine
    obtain ⟨entry, hEntry, hPrints⟩ := Result.exists_mem_of_forall₂ hPrinted hLine
    exact ⟨hPrints.ne_nil (hValid entry hEntry), hPrints.isOneLine (hValid entry hEntry)⟩
  have hNamed : ∀ entry ∈ entries.head?, (Entry.lastName ([] ++ [entry])).isSome := by
    intro entry hEntry
    obtain ⟨name, hName⟩ := Option.isSome_iff_exists.mp (hFirst entry hEntry)
    rw [Entry.lastName_concat, hName]
    rfl
  obtain ⟨routes, hOutcomes, hLength, hRecords⟩ := Entry.outcomes_printed hPrinted hValid hNamed
  rw [read_print_of_outcomes hHeader hLines hOutcomes closed]
  refine ⟨rfl, hLength, fun index entry hEntry => ?_⟩
  simpa using hRecords index entry hEntry

/-- The rows of a resource and of an engine. The second row inherits its name, and
the last one has no verb. -/
def reportEntries : List Entry :=
  [⟨some "reports", "GET", "/reports(.:format)", ["reports#index"]⟩,
    ⟨none, "POST", "/reports(.:format)", ["reports#create"]⟩,
    ⟨some "engine", "", "/engine", ["Engine", "(mounted)"]⟩]

def reportLines : List String :=
  ["  reports GET   /reports(.:format)  reports#index",
    "          POST  /reports(.:format)  reports#create",
    "engine          /engine             Engine (mounted)"]

theorem prints_reportLines : List.Forall₂ Entry.Prints reportEntries reportLines := by
  refine .cons ?_ (.cons ?_ (.cons ?_ .nil))
  · exact ⟨2, _, .more _ 0 (.more _ 2 (.more _ 1 (.last _))), by decide⟩
  · exact ⟨10, _, .more _ 1 (.more _ 1 (.last _)), by decide⟩
  · exact ⟨0, _, .more _ 9 (.more _ 12 (.more _ 0 (.last _))), by decide⟩

theorem isValid_reportEntries : ∀ entry ∈ reportEntries, entry.IsValid := by
  have hReports : ∃ segments, Template.read "/reports(.:format)" = .ok segments := by
    have hDerives : Template.Derivation.Derives ⟨.sequence [] [.literal "reports".toList], true⟩
        "/reports(.:format)".toList := by
      decide
    exact ⟨_, hDerives.read⟩
  have hEngine : ∃ segments, Template.read "/engine" = .ok segments := by
    have hDerives : Template.Derivation.Derives ⟨.sequence [] [.literal "engine".toList], false⟩
        "/engine".toList := by
      decide
    exact ⟨_, hDerives.read⟩
  simp only [reportEntries, List.forall_mem_cons, List.not_mem_nil, false_implies, implies_true,
    and_true]
  refine ⟨?_, ?_, ?_⟩
  · exact ⟨by decide, by decide, by decide, by decide, hReports, by decide, by decide, by decide⟩
  · exact ⟨by decide, by decide, by decide, by decide, hReports, by decide, by decide, by decide⟩
  · exact ⟨by decide, by decide, by decide, by decide, hEngine, by decide, by decide, by decide⟩

/-- The second row of the table is a route with the name of the first one. -/
theorem read_print_reports :
    IsOneLine "Prefix Verb URI Pattern Controller#Action".toList ∧
      List.Forall₂ Entry.Prints reportEntries reportLines ∧
      (∀ entry ∈ reportEntries, entry.IsValid) ∧
      ∃ route,
        (read (print "Prefix Verb URI Pattern Controller#Action" reportLines true)).routes[1]? =
          some route ∧
        route.name = "reports" ∧ route.verb = "POST" ∧ route.line = 3 ∧ route.inherited = true := by
  have hHeader : IsOneLine "Prefix Verb URI Pattern Controller#Action".toList := by decide
  obtain ⟨-, -, hRecords⟩ :=
    read_print hHeader prints_reportLines isValid_reportEntries (by decide) true
  obtain ⟨route, hRoute, hRecord⟩ := hRecords 1 _ rfl
  refine ⟨hHeader, prints_reportLines, isValid_reportEntries, route, hRoute, ?_, hRecord.verb,
    hRecord.line, hRecord.inherited⟩
  exact (Option.some.inj hRecord.name).symm

end RoutePaths.Table
