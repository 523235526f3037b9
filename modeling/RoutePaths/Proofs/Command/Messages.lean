import RoutePaths.Proofs.Command.Sparing
import Mathlib.Logic.Relation

/-! Flags in front of a command that ask for fewer or more messages. They change which messages
are shown and nothing else, and warnings and errors are shown in any case. -/
namespace RoutePaths

/-- Warnings and errors. -/
def Notice.isComplaint : Notice → Bool
  | .warning _ => true
  | .error _ => true
  | _ => false

namespace Console

variable {console other : Console} {notices : List Notice}

/-- The messages that are shown, each with its text. -/
def spoken (console : Console) (notices : List Notice) : List (Notice × String) :=
  (notices.filter console.shows).map fun notice => (notice, console.notice notice)

/-- Nothing is written for a message that is not shown. -/
theorem join_spoken (console : Console) (notices : List Notice) :
    String.join ((console.spoken notices).map Prod.snd) =
      String.join (notices.map console.notice) := by
  induction notices with
  | nil => rfl
  | cons first rest ih =>
      rw [spoken] at ih ⊢
      by_cases hShown : console.shows first = true
      · rw [List.filter_cons_of_pos hShown, List.map_cons, List.map_cons, List.map_cons,
          String.join_cons, String.join_cons, ih]
      · have hSilent : console.notice first = "" := by simp [notice, hShown]
        rw [List.filter_cons_of_neg hShown, List.map_cons, String.join_cons, hSilent,
          String.empty_append, ih]

theorem shows_of_isComplaint (console : Console) {notice : Notice}
    (h : notice.isComplaint = true) : console.shows notice = true := by
  cases notice <;> simp_all [Notice.isComplaint, shows]

/-- The consoles differ at most in which messages they show. -/
structure Alike (console other : Console) : Prop where
  format : console.format = other.format
  colored : console.colored = other.colored
  ansi : console.ansi = other.ansi

theorem Alike.result (h : console.Alike other) (result : Result) :
    console.result result = other.result result := by
  cases result with
  | document value => rfl
  | list items => simp only [Console.result, list, h.format]
  | grid grid => simp only [Console.result, Console.grid, h.format, h.colored, h.ansi]
  | outline record => simp only [Console.result, outline, h.format]

theorem Alike.complaints (h : console.Alike other) (notices : List Notice) :
    (console.spoken notices).filter (·.1.isComplaint) =
      (other.spoken notices).filter (·.1.isComplaint) := by
  induction notices with
  | nil => rfl
  | cons first rest ih =>
      rw [spoken, spoken] at ih ⊢
      by_cases hComplaint : first.isComplaint = true
      · have hShown := shows_of_isComplaint console hComplaint
        have hOther := shows_of_isComplaint other hComplaint
        have hText : console.notice first = other.notice first := by
          simp only [notice, hShown, hOther, h.colored]
        simpa [hShown, hOther, hComplaint, hText] using ih
      · by_cases hShown : console.shows first = true <;>
          by_cases hOther : other.shows first = true <;>
            simpa [hShown, hOther, hComplaint] using ih

end Console

namespace CommandLine
open Arguments

variable {words more others : List String} {word name : String} {found : Word}
  {given first second : List Given} {around : Surroundings}

/-- The option asks for fewer or more messages. -/
def asksForMessages (option : Given) : Bool :=
  option.name = "quiet" || option.name = "verbose"

/-- A word with no other options than those that ask for fewer or more messages, such as
`--quiet` or `-qv`. -/
def IsMessageFlag (word : String) : Prop :=
  ∃ given, ofWord? globalSpecs word = some (some ⟨given, none⟩) ∧
    ∀ option ∈ given, asksForMessages option = true

/-- One line has one such word more than the other, among the options in front of the command. -/
inductive AddsFlag : List String → List String → Prop
  | here {flag : String} (rest : List String) (h : IsMessageFlag flag) : AddsFlag rest (flag :: rest)
  | behind {option : String} {rest more : List String} (hEnd : option ≠ "--")
      (hOption : (ofWord? globalSpecs option).isSome = true) (h : AddsFlag rest more) :
      AddsFlag (option :: rest) (option :: more)

theorem open?_of_ofLetters? {specs : List Spec} {letters : List Char}
    (hFlags : ∀ spec ∈ specs, spec.takesValue = false) (h : ofLetters? specs letters = some found) :
    found.open? = none := by
  induction letters generalizing found with
  | nil =>
      cases h
      rfl
  | cons letter rest ih =>
      rw [ofLetters?] at h
      cases hSpec : specs.find? (·.letter = some letter) with
      | none => simp [hSpec] at h
      | some spec =>
          have hFlag := hFlags spec (List.mem_of_find?_eq_some hSpec)
          simp only [hSpec, hFlag, Bool.false_eq_true, ↓reduceIte, Option.map_eq_some_iff] at h
          obtain ⟨behind, hBehind, rfl⟩ := h
          have hClosed := ih hBehind
          exact hClosed

theorem open?_of_ofName? {specs : List Spec} {text : List Char}
    (hFlags : ∀ spec ∈ specs, spec.takesValue = false) (h : ofName? specs text = some found) :
    found.open? = none := by
  rw [ofName?] at h
  split at h
  · cases h
  · rename_i hSpec _
    have hFlag := hFlags _ (List.mem_of_find?_eq_some hSpec)
    rw [if_neg (by simp [hFlag])] at h
    cases h
    rfl
  · rename_i hSpec _
    have hFlag := hFlags _ (List.mem_of_find?_eq_some hSpec)
    rw [if_neg (by simp [hFlag])] at h
    cases h

/-- No option in front of the command has a value, so none takes the next word for it. -/
theorem open?_of_ofWord? (h : ofWord? globalSpecs word = some (some found)) :
    found.open? = none := by
  have hFlags : ∀ spec ∈ globalSpecs, spec.takesValue = false := by decide
  rw [ofWord?] at h
  split at h
  · exact open?_of_ofName? hFlags (Option.some_inj.mp h)
  · exact open?_of_ofLetters? hFlags (Option.some_inj.mp h)
  · cases h

/-- What has been read, without the options that ask for fewer or more messages. -/
def muffled (read : List Given × List String) : List Given × List String :=
  (read.1.filter (!asksForMessages ·), read.2)

theorem read?_cons (hEnd : word ≠ "--") (hWord : ofWord? globalSpecs word = some (some found))
    (rest : List String) :
    Arguments.read? globalSpecs false (word :: rest) =
      (Arguments.read? globalSpecs false rest).map fun read => (found.given ++ read.1, read.2) := by
  rw [Arguments.read?, if_neg hEnd, hWord]
  simp only [open?_of_ofWord? hWord]

theorem IsMessageFlag.ne_end (h : IsMessageFlag word) : word ≠ "--" := by
  rintro rfl
  obtain ⟨given, hWord, -⟩ := h
  simp [ofWord?, ofName?, globalSpecs] at hWord

/-- One flag more or less leaves all other options as they are, and all that stands behind them. -/
theorem AddsFlag.muffled_read? (h : AddsFlag words more) :
    (Arguments.read? globalSpecs false words).map muffled =
      (Arguments.read? globalSpecs false more).map muffled := by
  induction h with
  | here rest hFlag =>
      have hEnd := hFlag.ne_end
      obtain ⟨given, hWord, hGiven⟩ := hFlag
      have hNone : given.filter (!asksForMessages ·) = [] := by simpa using hGiven
      rw [read?_cons hEnd hWord, Option.map_map]
      congr 1
      funext read
      simp [muffled, hNone]
  | @behind option rest more hEnd hOption h ih =>
      obtain ⟨read, hRead⟩ := Option.isSome_iff_exists.mp hOption
      cases read with
      | none => simp [Arguments.read?, hEnd, hRead]
      | some found =>
          have hMuffled : muffled ∘ (fun read => (found.given ++ read.1, read.2)) =
              (fun read => (found.given.filter (!asksForMessages ·) ++ read.1, read.2)) ∘
                muffled := by
            funext read
            simp [muffled]
          rw [read?_cons hEnd hRead, read?_cons hEnd hRead, Option.map_map, Option.map_map,
            hMuffled, ← Option.map_map, ← Option.map_map, ih]

theorem has_filter (hName : asksForMessages ⟨name, ""⟩ = false) :
    has (given.filter (!asksForMessages ·)) name = has given name := by
  induction given with
  | nil => rfl
  | cons option rest ih =>
      simp only [has] at ih ⊢
      by_cases hSame : option.name = name
      · have hKept : asksForMessages option = false := by
          rw [← hName, asksForMessages, asksForMessages, hSame]
        simp [hKept, hSame]
      · by_cases hKept : asksForMessages option = true <;> simp [hKept, hSame, ih]

/-- What a line asks for, apart from messages. -/
def muted : CommandLine → CommandLine
  | .version => .version
  | .run options command => .run { options with quiet := false, verbose := false } command

/-- A flag more or less leaves what a line asks for, apart from messages. -/
theorem AddsFlag.muted_read? (h : AddsFlag words more) :
    (read? words).map muted = (read? more).map muted := by
  have hMuffled := h.muffled_read?
  rw [read?, read?]
  cases hFirst : Arguments.read? globalSpecs false words with
  | none =>
      rw [hFirst] at hMuffled
      rw [Option.map_eq_none_iff.mp hMuffled.symm]
  | some first =>
      cases hSecond : Arguments.read? globalSpecs false more with
      | none => simp [hFirst, hSecond] at hMuffled
      | some second =>
          obtain ⟨given, rest⟩ := first
          obtain ⟨other, rest'⟩ := second
          simp only [hFirst, hSecond, Option.map_some, Option.some_inj, muffled, Prod.mk.injEq]
            at hMuffled
          obtain ⟨hGiven, rfl⟩ := hMuffled
          have hHas {name : String} (hName : asksForMessages ⟨name, ""⟩ = false) :
              has given name = has other name := by
            rw [← has_filter hName, hGiven, has_filter hName]
          dsimp only
          rw [hHas (by decide : asksForMessages ⟨"version", ""⟩ = false)]
          split
          · rfl
          · cases command? rest with
            | none => rfl
            | some command =>
                simp only [Option.map_some, muted, globalOptions,
                  hHas (by decide : asksForMessages ⟨"json", ""⟩ = false),
                  hHas (by decide : asksForMessages ⟨"plain", ""⟩ = false),
                  hHas (by decide : asksForMessages ⟨"no-color", ""⟩ = false)]

/-- The messages of a run, each with its text. -/
def messages (words : List String) (around : Surroundings) : List (Notice × String) :=
  match read? words with
  | some (.run options command) =>
    (options.console around.terminal).spoken (command.run around).notices
  | _ => []

/-- The error output consists of the messages, and of nothing else if the line is understood. -/
theorem err_execute (words : List String) (around : Surroundings) :
    (execute words around).err =
      (if read? words = none then usageText else "") ++
        String.join ((messages words around).map Prod.snd) := by
  cases hRead : read? words with
  | none => simp [execute, messages, hRead]
  | some line =>
      cases line with
      | version => simp [execute, messages, hRead]
      | run options command =>
          simp [execute, messages, hRead, Console.join_spoken, Report.err]

/-- The runs of two lines end alike. Their error outputs consist of messages, and the warnings
and errors among these are the same. -/
structure EndsAlike (words others : List String) (around : Surroundings) : Prop where
  exit : (execute words around).exit = (execute others around).exit
  out : (execute words around).out = (execute others around).out
  files : (execute words around).files = (execute others around).files
  err : ∀ line ∈ [words, others], (execute line around).err =
    (if read? line = none then usageText else "") ++
      String.join ((messages line around).map Prod.snd)
  complaints : (messages words around).filter (·.1.isComplaint) =
    (messages others around).filter (·.1.isComplaint)

theorem alike_console {options other : GlobalOptions} (terminal : Terminal)
    (hJson : options.json = other.json) (hPlain : options.plain = other.plain)
    (hColor : options.noColor = other.noColor) :
    (options.console terminal).Alike (other.console terminal) := by
  simp only [GlobalOptions.console, GlobalOptions.format?, hJson, hPlain, hColor]
  exact ⟨rfl, rfl, rfl⟩

theorem endsAlike_of_muted (h : (read? words).map muted = (read? others).map muted)
    (around : Surroundings) : EndsAlike words others around := by
  have hErr : ∀ line ∈ [words, others], (execute line around).err =
      (if read? line = none then usageText else "") ++
        String.join ((messages line around).map Prod.snd) :=
    fun line _ => err_execute line around
  cases hFirst : read? words with
  | none =>
      rw [hFirst] at h
      have hSecond := Option.map_eq_none_iff.mp h.symm
      refine ⟨?_, ?_, ?_, hErr, ?_⟩ <;> simp [execute, messages, hFirst, hSecond]
  | some first =>
      cases hSecond : read? others with
      | none => simp [hFirst, hSecond] at h
      | some second =>
          rw [hFirst, hSecond, Option.map_some, Option.map_some, Option.some_inj] at h
          cases first with
          | version =>
              cases second with
              | version => refine ⟨?_, ?_, ?_, hErr, ?_⟩ <;> simp [execute, messages, hFirst, hSecond]
              | run other command => cases h
          | run options command =>
              cases second with
              | version => cases h
              | run other command' =>
                  simp only [muted, CommandLine.run.injEq, GlobalOptions.mk.injEq, and_true] at h
                  obtain ⟨⟨hJson, hPlain, hColor⟩, rfl⟩ := h
                  have hAlike := alike_console around.terminal hJson hPlain hColor
                  have hResults := funext hAlike.result
                  refine ⟨?_, ?_, ?_, hErr, ?_⟩
                  · simp [execute, hFirst, hSecond]
                  · simp [execute, hFirst, hSecond, Report.out, hResults]
                  · simp [execute, hFirst, hSecond]
                  · simpa [messages, hFirst, hSecond] using hAlike.complaints _

end CommandLine

end RoutePaths
