import RoutePaths.Proofs.Yaml.Quoted
import RoutePaths.Value.Yaml.Token

/-! Cutting a flow map into tokens. Each kind of token is one step, and a key is known for one
when its colon comes. Inside of a flow collection the lines and the columns of a text do not
matter, except that a key and its colon have to be close together. -/
namespace RoutePaths.Yaml
open Json (quote units)

namespace Cursor

variable {cursor : Cursor} {front back : List Char}

theorem rest_advance (cursor : Cursor) : cursor.advance.rest = cursor.rest.tail := by
  rw [advance]
  split
  · rename_i hRest
    simp [hRest]
  · rename_i c rest hRest
    rw [hRest]
    split_ifs <;> rfl

@[simp] theorem rest_advanceBy (cursor : Cursor) (count : Nat) :
    (cursor.advanceBy count).rest = cursor.rest.drop count := by
  induction count generalizing cursor with
  | zero => rfl
  | succ count ih => rw [advanceBy, ih, rest_advance, List.drop_tail]

theorem rest_advanceTo (h : cursor.rest = front ++ back) : (cursor.advanceTo back).rest = back := by
  rw [advanceTo, rest_advanceBy, h, List.length_append, Nat.add_sub_cancel, List.drop_left]

/-- Printable characters stay on their line. -/
theorem advanceBy_of_isPrintable (h : cursor.rest = front ++ back)
    (hFront : ∀ c ∈ front, Literal.IsPrintable c) :
    (cursor.advanceBy front.length).index = cursor.index + front.length ∧
      (cursor.advanceBy front.length).line = cursor.line := by
  induction front generalizing cursor with
  | nil => exact ⟨rfl, rfl⟩
  | cons c front ih =>
      rw [List.forall_mem_cons] at hFront
      have hMark : c.toNat ≠ 0xFEFF := by
        have := hFront.1.2
        omega
      have hStep : cursor.advance =
          ⟨front ++ back, cursor.index + 1, cursor.line, cursor.column + 1⟩ := by
        rw [advance, h, List.cons_append]
        dsimp only
        rw [isBreak_of_isPrintable hFront.1, if_neg Bool.false_ne_true, if_neg hMark]
      have hRest : cursor.advance.rest = front ++ back := by rw [hStep]
      obtain ⟨hIndex, hLine⟩ := ih hRest hFront.2
      rw [List.length_cons, advanceBy, hIndex, hLine, hStep]
      exact ⟨by dsimp only; omega, rfl⟩

end Cursor

/-- A character that is passed over between tokens. -/
def IsGap (c : Char) : Prop :=
  c = ' ' ∨ c = '\n'

namespace Scan

variable {scan next ready : Scan} {depth : Nat} {allowed : Bool} {tokens : List Token}
  {text rest blanks : List Char} {c : Char}

/-- The scan without what stands in front of the next token. -/
def settle? (scan : Scan) : Option Scan := do
  let scan ← scan.toToken.dropStaleKeys?
  return scan.unwind scan.cursor.column

theorem run_eq (h : scan.settle? = some ready) (fuel : Nat) :
    run (fuel + 1) scan = match ready.cursor.rest with
      | [] => (ready.unwind (-1)).dropKey?.map Scan.tokens
      | _ => ready.next?.bind (run fuel) := by
  rw [settle?] at h
  obtain ⟨fresh, hFresh, hReady⟩ := Option.bind_eq_some_iff.mp h
  rw [Option.pure_def, Option.some.injEq] at hReady
  rw [run, hFresh, Option.bind_eq_bind, Option.bind_some, hReady]
  dsimp only
  cases ready.cursor.rest with
  | nil => cases (ready.unwind (-1)).dropKey? <;> rfl
  | cons c rest => rfl

theorem run_succ (hSettle : scan.settle? = some ready) (hNext : ready.next? = some next)
    (fuel : Nat) : run (fuel + 1) scan = run fuel next := by
  rw [run_eq hSettle]
  cases hRest : ready.cursor.rest with
  | nil =>
      rw [next?, hRest] at hNext
      cases hNext
  | cons c rest => rw [hNext, Option.bind_some]

/-- The one scan becomes the other. No token is taken for less than a character. -/
def Leads (scan next : Scan) : Prop :=
  ∃ steps, steps + next.cursor.rest.length ≤ scan.cursor.rest.length ∧
    ∀ fuel, run (fuel + steps) scan = run fuel next

theorem Leads.refl (scan : Scan) : scan.Leads scan :=
  ⟨0, by omega, fun _ => rfl⟩

theorem Leads.trans {last : Scan} (h : scan.Leads next) (hNext : next.Leads last) :
    scan.Leads last := by
  obtain ⟨first, hFirst, hRun⟩ := h
  obtain ⟨second, hSecond, hLast⟩ := hNext
  refine ⟨second + first, by omega, fun fuel => ?_⟩
  rw [← Nat.add_assoc, hRun, hLast]

theorem leads_of_next? (hSettle : scan.settle? = some ready) (hNext : ready.next? = some next)
    (hRest : next.cursor.rest.length < scan.cursor.rest.length) : scan.Leads next :=
  ⟨1, by omega, run_succ hSettle hNext⟩

/-- None of the places has to become a key. -/
def IsFree (keys : List (Nat × KeyStart)) : Prop :=
  ∀ entry ∈ keys, entry.2.required = false

theorem IsFree.filter {keys : List (Nat × KeyStart)} (h : IsFree keys)
    (p : Nat × KeyStart → Bool) : IsFree (keys.filter p) :=
  fun entry hEntry => h entry (List.mem_of_mem_filter hEntry)

/-- No key that is given up is missed. -/
theorem IsFree.any_required {keys : List (Nat × KeyStart)} (h : IsFree keys)
    (stale : Nat × KeyStart → Bool) :
    (keys.any fun entry => stale entry && entry.2.required) = false := by
  rw [List.any_eq_false]
  intro entry hEntry
  simp [h entry hEntry]

/-- How far a scan has got that has met flow collections only. -/
structure Stands (scan : Scan) (depth : Nat) (allowed : Bool) (tokens : List Token)
    (rest : List Char) : Prop where
  rest : scan.cursor.rest = rest
  tokens : scan.tokens = tokens
  depth : scan.depth = depth
  allowed : scan.keyAllowed = allowed
  indent : scan.indent = -1
  outer : scan.outer = []
  free : IsFree scan.keys

/-- A text that nothing is passed over in front of. -/
def Opens (text : List Char) : Prop :=
  ∀ c ∈ text.head?, c ≠ ' ' ∧ isBreak c = false ∧ c ≠ '#' ∧ c.toNat ≠ 0xFEFF

theorem skipGap_of_opens (hText : Opens text) (broke : Bool) : skipGap broke text = (broke, text) := by
  cases text with
  | nil => rfl
  | cons c rest =>
      obtain ⟨hSpace, hBreak, hComment, -⟩ := hText c rfl
      rw [skipGap, if_neg hSpace, hBreak, if_neg Bool.false_ne_true, if_neg hComment]

theorem skipGap_append (hBlanks : ∀ c ∈ blanks, IsGap c) (hText : Opens text)
    (broke : Bool) : ∃ after, skipGap broke (blanks ++ text) = (after, text) ∧
      (blanks = [] → after = broke) := by
  induction blanks generalizing broke with
  | nil => exact ⟨broke, skipGap_of_opens hText broke, fun _ => rfl⟩
  | cons c blanks ih =>
      rw [List.forall_mem_cons] at hBlanks
      rcases hBlanks with ⟨rfl | rfl, hBlanks⟩
      · obtain ⟨after, hAfter, -⟩ := ih hBlanks broke
        exact ⟨after, hAfter, fun h => absurd h (List.cons_ne_nil _ _)⟩
      · obtain ⟨after, hAfter, -⟩ := ih hBlanks true
        exact ⟨after, hAfter, fun h => absurd h (List.cons_ne_nil _ _)⟩

theorem toToken_eq (h : ∀ c ∈ scan.cursor.rest.head?, c.toNat ≠ 0xFEFF) :
    scan.toToken = { scan with
      cursor := scan.cursor.advanceTo (skipGap false scan.cursor.rest).2
      keyAllowed := scan.keyAllowed ||
        ((skipGap false scan.cursor.rest).1 && scan.depth = 0) } := by
  obtain ⟨⟨text, index, line, column⟩, _⟩ := scan
  cases index with
  | succ index => rfl
  | zero =>
      cases text with
      | nil => rfl
      | cons c rest => simp only [toToken, if_neg (h c rfl)]

namespace Stands

/-- Spaces and line breaks are passed over. At the top level a line break makes room for a
key. -/
theorem toToken (h : scan.Stands depth allowed tokens (blanks ++ text))
    (hBlanks : ∀ c ∈ blanks, IsGap c) (hText : Opens text) :
    ∃ after, scan.toToken.Stands depth after tokens text ∧
      (depth ≠ 0 ∨ blanks = [] → after = allowed) := by
  obtain ⟨broke, hGap, hBroke⟩ := skipGap_append hBlanks hText false
  have hMark : ∀ c ∈ (blanks ++ text).head?, c.toNat ≠ 0xFEFF := by
    cases blanks with
    | nil => exact fun c hc => (hText c hc).2.2.2
    | cons c blanks =>
        rintro _ ⟨⟩
        rcases hBlanks c (List.mem_cons_self ..) with rfl | rfl <;> decide
  rw [toToken_eq (h.rest ▸ hMark), h.rest, hGap]
  refine ⟨_, ⟨Cursor.rest_advanceTo h.rest, h.tokens, h.depth, rfl, h.indent, h.outer, h.free⟩, ?_⟩
  rw [h.allowed, h.depth]
  rintro (hInside | hNone)
  · simp [hInside]
  · simp [hBroke hNone]

theorem withKeys (h : scan.Stands depth allowed tokens rest) {keys : List (Nat × KeyStart)}
    (hKeys : IsFree keys) :
    { scan with keys }.Stands depth allowed tokens rest :=
  ⟨h.rest, h.tokens, h.depth, h.allowed, h.indent, h.outer, hKeys⟩

/-- No key is required, so that none is missed. -/
theorem dropStaleKeys? (h : scan.Stands depth allowed tokens rest) :
    ∃ next, scan.dropStaleKeys? = some next ∧ next.Stands depth allowed tokens rest := by
  rw [Scan.dropStaleKeys?, h.free.any_required, if_neg Bool.false_ne_true]
  exact ⟨_, rfl, h.withKeys (h.free.filter _)⟩

theorem dropKey? (h : scan.Stands depth allowed tokens rest) :
    ∃ keys, scan.dropKey? = some { scan with keys } ∧
      IsFree keys := by
  rw [Scan.dropKey?]
  cases hKey : scan.keys.lookup scan.depth with
  | none => exact ⟨scan.keys, rfl, h.free⟩
  | some key =>
      obtain ⟨front, back, hKeys, -⟩ := List.lookup_eq_some_iff.mp hKey
      have hFree : key.required = false := h.free (scan.depth, key) (by rw [hKeys]; simp)
      exact ⟨scan.keys.filter (·.1 ≠ scan.depth), by simp [hFree], h.free.filter _⟩

/-- A key that may start here is not required. -/
theorem saveKey?_of_allowed (h : scan.Stands depth true tokens rest) :
    ∃ keys, scan.saveKey? = some { scan with keys := (depth, ⟨tokens.length, false,
        scan.cursor.index, scan.cursor.line, scan.cursor.column⟩) :: keys } ∧
      IsFree keys := by
  obtain ⟨keys, hDrop, hKeys⟩ := h.dropKey?
  have hRequired : (decide (scan.depth = 0) && decide (scan.indent = scan.cursor.column)) = false := by
    rw [h.indent, Bool.and_eq_false_iff, decide_eq_false_iff_not, decide_eq_false_iff_not]
    omega
  refine ⟨keys, ?_, hKeys⟩
  rw [Scan.saveKey?, if_pos h.allowed, hDrop, hRequired, h.depth, h.tokens]
  rfl

theorem saveKey? (h : scan.Stands depth allowed tokens rest) :
    ∃ keys, scan.saveKey? = some { scan with keys } ∧
      IsFree keys := by
  cases allowed with
  | false =>
      refine ⟨scan.keys, ?_, h.free⟩
      exact if_neg (by simp [h.allowed])
  | true =>
      obtain ⟨keys, hSave, hKeys⟩ := h.saveKey?_of_allowed
      exact ⟨_, hSave, List.forall_mem_cons.mpr ⟨rfl, hKeys⟩⟩

/-- There are no block collections to be closed. -/
theorem unwind (h : scan.Stands depth allowed tokens rest) {column : Int} (hColumn : -1 ≤ column) :
    scan.unwind column = scan := by
  obtain ⟨cursor, found, level, indent, outer, keyAllowed, keys⟩ := scan
  obtain rfl : indent = -1 := h.indent
  obtain rfl : outer = [] := h.outer
  have hOpen : ¬ column < -1 := by omega
  simp [Scan.unwind, hOpen]

theorem settle? (h : scan.Stands depth allowed tokens (blanks ++ text))
    (hBlanks : ∀ c ∈ blanks, IsGap c) (hText : Opens text) :
    ∃ ready after, scan.settle? = some ready ∧ ready.Stands depth after tokens text ∧
      (depth ≠ 0 ∨ blanks = [] → after = allowed) := by
  obtain ⟨after, hToken, hAfter⟩ := h.toToken hBlanks hText
  obtain ⟨ready, hReady, hStands⟩ := hToken.dropStaleKeys?
  refine ⟨ready, after, ?_, hStands, hAfter⟩
  rw [Scan.settle?, hReady, Option.bind_eq_bind, Option.bind_some, hStands.unwind (by omega)]
  rfl

theorem push (h : scan.Stands depth allowed tokens rest) (token : Token) :
    (scan.push token).Stands depth allowed (tokens ++ [token]) rest :=
  ⟨h.rest, congrArg (· ++ [token]) h.tokens, h.depth, h.allowed, h.indent, h.outer, h.free⟩

/-- A mark of one character. -/
theorem skip (h : scan.Stands depth allowed tokens (c :: rest)) :
    (scan.skip 1).Stands depth allowed tokens rest := by
  refine ⟨?_, h.tokens, h.depth, h.allowed, h.indent, h.outer, h.free⟩
  rw [Scan.skip, Cursor.rest_advanceBy, h.rest]
  rfl

theorem next?_openMap (h : scan.Stands depth allowed tokens ('{' :: rest)) :
    ∃ next, scan.next? = some next ∧ next.Stands (depth + 1) true (tokens ++ [.openMap]) rest := by
  obtain ⟨keys, hSave, hKeys⟩ := h.saveKey?
  have hNext : scan.next? = scan.openFlow? .openMap := by
    simp [Scan.next?, h.rest]
  have hOpened : { scan with keys, depth := scan.depth + 1, keyAllowed := true }.Stands (depth + 1)
      true tokens ('{' :: rest) :=
    ⟨h.rest, h.tokens, by rw [h.depth], rfl, h.indent, h.outer, hKeys⟩
  exact ⟨_, by rw [hNext, openFlow?, hSave]; rfl, hOpened.skip.push .openMap⟩

theorem next?_closeMap (h : scan.Stands (depth + 1) allowed tokens ('}' :: rest)) :
    ∃ next, scan.next? = some next ∧ next.Stands depth false (tokens ++ [.closeMap]) rest := by
  obtain ⟨keys, hDrop, hKeys⟩ := h.dropKey?
  have hNext : scan.next? = scan.closeFlow? .closeMap := by
    simp [Scan.next?, h.rest]
  have hClosed : { scan with keys, depth := scan.depth - 1, keyAllowed := false }.Stands depth
      false tokens ('}' :: rest) :=
    ⟨h.rest, h.tokens, by rw [h.depth]; rfl, rfl, h.indent, h.outer, hKeys⟩
  have hInside : scan.depth ≠ 0 := by rw [h.depth]; omega
  exact ⟨_, by rw [hNext, closeFlow?, if_neg hInside, hDrop]; rfl, hClosed.skip.push .closeMap⟩

theorem next?_comma (h : scan.Stands depth allowed tokens (',' :: rest)) :
    ∃ next, scan.next? = some next ∧ next.Stands depth true (tokens ++ [.comma]) rest := by
  obtain ⟨keys, hDrop, hKeys⟩ := h.dropKey?
  have hNext : scan.next? = scan.comma? := by
    simp [Scan.next?, h.rest]
  have hCleared : { scan with keys, keyAllowed := true }.Stands depth true tokens (',' :: rest) :=
    ⟨h.rest, h.tokens, h.depth, rfl, h.indent, h.outer, hKeys⟩
  exact ⟨_, by rw [hNext, comma?, hDrop]; rfl, hCleared.skip.push .comma⟩

/-- Between quotes, a text is its code points. -/
theorem next?_quote {keys : List (Nat × KeyStart)} {text : List Char}
    (h : scan.Stands depth allowed tokens (quote true text ++ rest))
    (hSave : scan.saveKey? = some { scan with keys }) :
    scan.next? = some { scan with
      keys
      keyAllowed := false
      cursor := scan.cursor.advanceTo rest
      tokens := tokens ++ [.quoted (text.flatMap (units true))] } := by
  have hNext : scan.next? = scan.quoted? (doubleQuoted? .nothing) := by
    simp [Scan.next?, h.rest, quote]
  have hRead : doubleQuoted? .nothing scan.cursor.rest.tail =
      some (text.flatMap (units true), rest) := by
    rw [h.rest, quote, List.cons_append, List.cons_append, List.tail_cons, List.append_assoc,
      List.singleton_append, doubleQuoted?_flatMap_escapeChar text rest rfl]
    rfl
  rw [hNext, quoted?, hSave]
  dsimp only [Option.bind_eq_bind, Option.bind_some]
  rw [hRead, ← h.tokens]
  rfl

theorem next?_text {text : List Char}
    (h : scan.Stands depth allowed tokens (quote true text ++ rest)) :
    ∃ next, scan.next? = some next ∧
      next.Stands depth false (tokens ++ [.quoted (text.flatMap (units true))]) rest := by
  obtain ⟨keys, hSave, hKeys⟩ := h.saveKey?
  exact ⟨_, h.next?_quote hSave,
    Cursor.rest_advanceTo h.rest, rfl, h.depth, rfl, h.indent, h.outer, hKeys⟩

theorem toToken_of_opens (h : scan.Stands depth allowed tokens text) (hText : Opens text) :
    scan.toToken = scan := by
  have hSame : scan.cursor.advanceTo text = scan.cursor := by
    rw [Cursor.advanceTo, h.rest, Nat.sub_self, Cursor.advanceBy]
  rw [toToken_eq (by rw [h.rest]; exact fun c hc => (hText c hc).2.2.2), h.rest,
    skipGap_of_opens hText, hSame]
  simp

/-- A key is still within reach on its own line, not too far behind it. -/
theorem dropStaleKeys?_cons {entry : Nat × KeyStart} {keys : List (Nat × KeyStart)}
    (h : scan.Stands depth allowed tokens rest) (hKeys : scan.keys = entry :: keys)
    (hLine : entry.2.line = scan.cursor.line) (hNear : scan.cursor.index - entry.2.index ≤ 1024) :
    ∃ others, scan.dropStaleKeys? = some { scan with keys := entry :: others } ∧
      IsFree others := by
  have hFree : IsFree (entry :: keys) := hKeys ▸ h.free
  have hFresh : (decide (entry.2.line ≠ scan.cursor.line) ||
      decide (scan.cursor.index - entry.2.index > 1024)) = false := by
    rw [Bool.or_eq_false_iff, decide_eq_false_iff_not, decide_eq_false_iff_not]
    exact ⟨not_not.mpr hLine, by omega⟩
  rw [Scan.dropStaleKeys?, hKeys, hFree.any_required, if_neg Bool.false_ne_true,
    List.filter_cons_of_pos (by dsimp only; rw [hFresh]; rfl)]
  exact ⟨_, rfl, IsFree.filter (List.forall_mem_cons.mp hFree).2 _⟩

/-- A colon makes a key of what stands behind the place where one may have started. -/
theorem next?_colon {front back : List Token} {key : KeyStart} {keys : List (Nat × KeyStart)}
    (h : scan.Stands depth allowed (front ++ back) (':' :: rest)) (hInside : depth ≠ 0)
    (hKeys : scan.keys = (depth, key) :: keys) (hBefore : key.tokensBefore = front.length) :
    ∃ next, scan.next? = some next ∧
      next.Stands depth false (front ++ .key :: back ++ [.value]) rest := by
  have hFlow : scan.depth ≠ 0 := by rw [h.depth]; exact hInside
  have hNext : scan.next? = scan.value? := by
    simp [Scan.next?, h.rest, hFlow]
  have hLookup : scan.keys.lookup scan.depth = some key := by
    rw [hKeys, h.depth, List.lookup_cons_self]
  have hInserted : scan.tokens.take key.tokensBefore ++ [.key] ++ scan.tokens.drop key.tokensBefore =
      front ++ .key :: back := by
    rw [h.tokens, hBefore, List.take_left, List.drop_left, List.append_assoc, List.singleton_append]
  have hKeyed : Stands { scan with
      keys := scan.keys.filter (·.1 ≠ scan.depth)
      tokens := front ++ .key :: back
      keyAllowed := false } depth false (front ++ .key :: back) (':' :: rest) :=
    ⟨h.rest, rfl, h.depth, rfl, h.indent, h.outer, h.free.filter _⟩
  refine ⟨_, ?_, hKeyed.skip.push .value⟩
  rw [hNext, value?, hLookup]
  dsimp only
  rw [if_neg hFlow, ← hInserted]
  rfl

/-- A text in front of a colon becomes a key when the colon comes. It has been put among the
tokens by then, and the token that announces it goes in front of it. -/
theorem next?_key {text : List Char}
    (h : scan.Stands depth true tokens (quote true text ++ ':' :: rest)) (hInside : depth ≠ 0)
    (hShort : (quote true text).length ≤ 1024) :
    ∃ named next, scan.next? = some named ∧ named.cursor.rest = ':' :: rest ∧
      named.Leads next ∧
      next.Stands depth false (tokens ++ [.key, .quoted (text.flatMap (units true)), .value])
        rest := by
  obtain ⟨keys, hSave, hKeys⟩ := h.saveKey?_of_allowed
  have hNamed := h.next?_quote hSave
  have hPrintable : ∀ c ∈ quote true text, Literal.IsPrintable c :=
    fun _ => Literal.isPrintable_of_mem_quote
  obtain ⟨hIndex, hLine⟩ := Cursor.advanceBy_of_isPrintable h.rest hPrintable
  have hCursor : scan.cursor.advanceTo (':' :: rest) =
      scan.cursor.advanceBy (quote true text).length := by
    rw [Cursor.advanceTo, h.rest, List.length_append, Nat.add_sub_cancel]
  have hStands : Stands { scan with
      keys := (depth, ⟨tokens.length, false, scan.cursor.index, scan.cursor.line,
        scan.cursor.column⟩) :: keys
      keyAllowed := false
      cursor := scan.cursor.advanceTo (':' :: rest)
      tokens := tokens ++ [.quoted (text.flatMap (units true))] } depth false
      (tokens ++ [.quoted (text.flatMap (units true))]) (':' :: rest) :=
    ⟨Cursor.rest_advanceTo h.rest, rfl, h.depth, rfl, h.indent, h.outer,
      List.forall_mem_cons.mpr ⟨rfl, hKeys⟩⟩
  have hOpens : Opens (':' :: rest) := by
    rintro _ ⟨⟩
    decide
  obtain ⟨others, hDrop, hOthers⟩ := hStands.dropStaleKeys?_cons rfl (by rw [hCursor, hLine])
    (by rw [hCursor, hIndex]; dsimp only; omega)
  have hAll : IsFree ((depth, ⟨tokens.length, false, scan.cursor.index, scan.cursor.line,
      scan.cursor.column⟩) :: others) :=
    List.forall_mem_cons.mpr ⟨rfl, hOthers⟩
  have hReady := hStands.withKeys hAll
  obtain ⟨next, hNext, hLast⟩ := hReady.next?_colon hInside rfl rfl
  refine ⟨_, next, hNamed, hStands.rest, leads_of_next? ?_ hNext ?_, by simpa using hLast⟩
  · rw [Scan.settle?, hStands.toToken_of_opens hOpens, hDrop, Option.bind_eq_bind,
      Option.bind_some, hReady.unwind (by omega)]
    rfl
  · rw [hStands.rest, hLast.rest]
    simp

end Stands

end Scan

end RoutePaths.Yaml
