import RoutePaths.Module.Printer
import RoutePaths.Proofs.Function.Signature
import RoutePaths.Proofs.Name.Dotted
import RoutePaths.Proofs.Result
import RoutePaths.Proofs.Splitting

/-! The tokens of signatures and of fields. What is printed is spelled by tokens that are known
from its parameters, in both layouts, and the reader finds these tokens. -/
namespace RoutePaths.Signature

/-- No word goes on into the text. -/
def Ends (text : List Char) : Prop :=
  ∀ c ∈ text.head?, Text.isIdentifierChar c = false

theorem ends_nil : Ends [] := by
  rintro c ⟨⟩

theorem ends_cons {c : Char} (h : Text.isIdentifierChar c = false) (rest : List Char) :
    Ends (c :: rest) := by
  rintro d ⟨⟩
  exact h

/-- The text consists of the tokens when it is read inside brackets. -/
inductive Spells : Nat → List Char → List Token → Prop
  | nil : Spells 0 [] []
  | blank {depth : Nat} {rest : List Char} {tokens : List Token} (h : Spells depth rest tokens) :
    Spells depth (' ' :: rest) tokens
  | feed {depth : Nat} {rest : List Char} {tokens : List Token}
    (h : Spells (depth + 1) rest tokens) : Spells (depth + 1) ('\n' :: rest) tokens
  | opening {depth : Nat} {c : Char} {rest : List Char} {tokens : List Token}
    (hMark : c = '(' ∨ c = '[') (h : Spells (depth + 1) rest tokens) :
    Spells depth (c :: rest) (.mark c :: tokens)
  | closing {depth : Nat} {c : Char} {rest : List Char} {tokens : List Token}
    (hMark : c = ')' ∨ c = ']') (h : Spells depth rest tokens) :
    Spells (depth + 1) (c :: rest) (.mark c :: tokens)
  | mark {depth : Nat} {c : Char} {rest : List Char} {tokens : List Token}
    (hMark : c ∈ marks) (h : Spells depth rest tokens) :
    Spells depth (c :: rest) (.mark c :: tokens)
  | arrow {depth : Nat} {rest : List Char} {tokens : List Token} (h : Spells depth rest tokens) :
    Spells depth ('-' :: '>' :: rest) (.arrow :: tokens)
  | word {depth : Nat} {text : String} {rest : List Char} {tokens : List Token}
    (hText : Text.isIdentifier text.toList = true) (hEnds : Ends rest)
    (h : Spells depth rest tokens) : Spells depth (text.toList ++ rest) (.word text :: tokens)

theorem between?_opening {depth : Nat} {c : Char} (h : c = '(' ∨ c = '[') :
    between? depth c = some ([.mark c], depth + 1) := by
  rcases h with rfl | rfl
  · rfl
  · rfl

theorem between?_closing {depth : Nat} {c : Char} (h : c = ')' ∨ c = ']') :
    between? (depth + 1) c = some ([.mark c], depth) := by
  rcases h with rfl | rfl
  · rfl
  · rfl

theorem between?_mark {depth : Nat} {c : Char} (h : c ∈ marks) :
    between? depth c = some ([.mark c], depth) := by
  simp only [marks, List.mem_cons, List.not_mem_nil, or_false] at h
  rcases h with rfl | rfl | rfl | rfl | rfl
  · rfl
  · rfl
  · rfl
  · rfl
  · rfl

theorem tokens?_cons {depth : Nat} {word rest : List Char} {c : Char} (hDash : c ≠ '-') :
    tokens? depth word (c :: rest) =
      if Text.isIdentifierChar c then tokens? depth (c :: word) rest
      else
        match between? depth c with
        | some (found, inner) => (tokens? inner [] rest).map (endWord word ++ found ++ ·)
        | none => none := by
  exact tokens?.eq_3 depth word c rest fun _ hEq => absurd hEq hDash

theorem tokens?_between {depth inner : Nat} {c : Char} {rest : List Char} {found : List Token}
    (hBetween : between? depth c = some (found, inner))
    (hPlain : Text.isIdentifierChar c = false ∧ c ≠ '-') :
    tokens? depth [] (c :: rest) = (tokens? inner [] rest).map (found ++ ·) := by
  rw [tokens?_cons hPlain.2, if_neg (by simp [hPlain.1]), hBetween]
  rfl

/-- A word ends in front of what cannot be part of it. -/
theorem tokens?_ended {depth : Nat} (word : List Char) {rest : List Char}
    (hEnds : Ends rest) :
    tokens? depth word rest = (tokens? depth [] rest).map (endWord word ++ ·) := by
  have hNone : endWord [] = [] := rfl
  fun_cases tokens? depth [] rest with
  | case1 => simp [tokens?, *]
  | case2 hDepth => simp [tokens?, hDepth]
  | case3 rest => simp [tokens?, hNone, Function.comp_def]
  | case4 c rest hArrow hChar => simp [hEnds c rfl] at hChar
  | case5 c rest hArrow hChar found inner hBetween =>
      simp [tokens?, hChar, hBetween, hNone, Function.comp_def]
  | case6 c rest hArrow hChar hBetween => simp [tokens?, hChar, hBetween]

theorem tokens?_word {depth : Nat} (word text rest : List Char)
    (hText : ∀ c ∈ text, Text.isIdentifierChar c = true) :
    tokens? depth word (text ++ rest) = tokens? depth (text.reverse ++ word) rest := by
  induction text generalizing word with
  | nil => rfl
  | cons c text ih =>
      rw [List.forall_mem_cons] at hText
      have hDash : c ≠ '-' := by
        rintro rfl
        exact absurd hText.1 (by decide)
      rw [List.cons_append, tokens?_cons hDash, if_pos hText.1, ih _ hText.2, List.reverse_cons,
        List.append_assoc, List.singleton_append]

/-- The reader finds the tokens of a text. -/
theorem tokens?_of_spells {depth : Nat} {text : List Char} {tokens : List Token}
    (h : Spells depth text tokens) : tokens? depth [] text = some tokens := by
  have hOpening : ∀ c, c = '(' ∨ c = '[' → Text.isIdentifierChar c = false ∧ c ≠ '-' := by
    rintro c (rfl | rfl) <;> decide
  have hClosing : ∀ c, c = ')' ∨ c = ']' → Text.isIdentifierChar c = false ∧ c ≠ '-' := by
    rintro c (rfl | rfl) <;> decide
  have hOther : ∀ c ∈ marks, Text.isIdentifierChar c = false ∧ c ≠ '-' := by
    simp only [marks, List.forall_mem_cons, List.not_mem_nil, false_imp_iff, implies_true, and_true]
    decide
  induction h with
  | nil => rfl
  | blank h ih =>
      rw [tokens?_between rfl (by decide), ih]
      rfl
  | feed h ih =>
      rw [tokens?_between rfl (by decide), ih]
      rfl
  | @opening depth c rest tokens hMark h ih =>
      rw [tokens?_between (between?_opening hMark) (hOpening c hMark), ih]
      rfl
  | @closing depth c rest tokens hMark h ih =>
      rw [tokens?_between (between?_closing hMark) (hClosing c hMark), ih]
      rfl
  | @mark depth c rest tokens hMark h ih =>
      rw [tokens?_between (between?_mark hMark) (hOther c hMark), ih]
      rfl
  | arrow h ih => rw [tokens?, ih]; rfl
  | @word depth text rest tokens hText hEnds h ih =>
      have hNonempty : text.toList ≠ [] := by
        intro hNil
        rw [hNil] at hText
        cases hText
      have hWord : endWord text.toList.reverse = [.word text] := by
        rw [endWord, if_neg (by simpa using hNonempty), List.reverse_reverse, String.ofList_toList]
      rw [tokens?_word [] _ _ (Text.isIdentifierChar_of_mem hText), List.append_nil,
        tokens?_ended _ hEnds, ih, hWord]
      rfl

/-- The tokens of the type of a value. -/
def typeTokens : List Token :=
  [.word "str", .mark '|', .word "int"]

/-- The tokens of the declaration of a parameter. -/
def declarationTokens (parameter : Parameter) : List Token :=
  .word parameter.name :: .mark ':' :: typeTokens ++
    if parameter.optional then [.mark '|', .word "None", .mark '=', .word "None"] else []

/-- The tokens of a field for a parameter. -/
def fieldTokens (parameter : Parameter) : List Token :=
  .word parameter.name :: .mark ':' ::
    if parameter.optional then .word "NotRequired" :: .mark '[' :: typeTokens ++ [.mark ']']
    else typeTokens

namespace Spells

variable {depth : Nat} {rest : List Char} {tokens : List Token} {parameter : Parameter}

theorem valueType (hEnds : Ends rest) (h : Spells depth rest tokens) :
    Spells depth (RoutePaths.valueType.toList ++ rest) (typeTokens ++ tokens) := by
  have hInt : Spells depth ("int".toList ++ rest) (.word "int" :: tokens) :=
    .word (by decide) hEnds h
  have hMark : Spells depth (' ' :: '|' :: ' ' :: ("int".toList ++ rest))
      (.mark '|' :: .word "int" :: tokens) := .blank (.mark (by decide) (.blank hInt))
  show Spells depth ("str".toList ++ ' ' :: '|' :: ' ' :: ("int".toList ++ rest)) _
  exact .word (by decide) (ends_cons (by decide) _) hMark

theorem typed {name : String} (hName : Text.isIdentifier name.toList = true)
    (h : Spells depth rest tokens) :
    Spells depth (name.toList ++ ':' :: ' ' :: rest) (.word name :: .mark ':' :: tokens) :=
  .word hName (ends_cons (by decide) _) (.mark (by decide) (.blank h))

theorem declaration (hName : Text.isIdentifier parameter.name.toList = true) (hEnds : Ends rest)
    (h : Spells depth rest tokens) :
    Spells depth (parameter.declaration.toList ++ rest) (declarationTokens parameter ++ tokens) := by
  have hNone {rest : List Char} {tokens : List Token} (hEnds : Ends rest)
      (h : Spells depth rest tokens) :
      Spells depth ("None".toList ++ rest) (.word "None" :: tokens) := .word (by decide) hEnds h
  rw [Parameter.declaration, declarationTokens]
  cases parameter.optional with
  | false => simpa using typed hName (valueType hEnds h)
  | true =>
      have hDefault : Spells depth
          (' ' :: '|' :: ' ' :: ("None".toList ++ ' ' :: '=' :: ' ' :: ("None".toList ++ rest)))
          (.mark '|' :: .word "None" :: .mark '=' :: .word "None" :: tokens) :=
        .blank (.mark (by decide) (.blank (hNone (ends_cons (by decide) _)
          (.blank (.mark (by decide) (.blank (hNone hEnds h)))))))
      simpa using typed hName (valueType (ends_cons (by decide) _) hDefault)

/-- A field has a line of its own. -/
theorem field (hName : Text.isIdentifier parameter.name.toList = true) :
    Spells 0 parameter.field.toList (fieldTokens parameter) := by
  rw [Parameter.field, fieldTokens]
  cases parameter.optional with
  | false => simpa using typed hName (valueType ends_nil .nil)
  | true =>
      have hType : Spells 0 ("NotRequired".toList ++ '[' :: (RoutePaths.valueType.toList ++ [']']))
          (.word "NotRequired" :: .mark '[' :: (typeTokens ++ [.mark ']'])) :=
        .word (by decide) (ends_cons (by decide) _) (.opening (by decide)
          (valueType (ends_cons (by decide) _) (.closing (by decide) .nil)))
      simpa using typed hName hType

end Spells

/-- The items of a signature: parameters, and nothing for the star. -/
def entries (parameters : List Parameter) : List (Option Parameter) :=
  (parameters.takeWhile (!·.optional)).map some ++
    (if (parameters.dropWhile (!·.optional)).any (!·.optional) then [none] else []) ++
    (parameters.dropWhile (!·.optional)).map some

/-- An item as it is printed. -/
def entryText : Option Parameter → String
  | none => "*"
  | some parameter => parameter.declaration

def entryTokens : Option Parameter → List Token
  | none => [.mark '*']
  | some parameter => declarationTokens parameter

theorem items_eq_map_entries (parameters : List Parameter) :
    Parameter.items parameters = (entries parameters).map entryText := by
  rw [Parameter.items, entries, List.map_append, List.map_append, List.map_map, List.map_map]
  split <;> rfl

theorem mem_of_some_mem_entries {parameters : List Parameter} {parameter : Parameter}
    (h : some parameter ∈ entries parameters) : parameter ∈ parameters := by
  rw [← List.takeWhile_append_dropWhile (p := (!·.optional)) (l := parameters), List.mem_append]
  rw [entries] at h
  split at h <;> simpa using h

/-- The names of the parameters are identifiers. -/
def Named (entries : List (Option Parameter)) : Prop :=
  ∀ parameter, some parameter ∈ entries → Text.isIdentifier parameter.name.toList = true

namespace Spells

variable {depth : Nat} {rest : List Char} {tokens : List Token}
  {items : List (Option Parameter)} {item : Option Parameter}

theorem entry (hNamed : Named (item :: items)) (hEnds : Ends rest)
    (h : Spells depth rest tokens) :
    Spells depth ((entryText item).toList ++ rest) (entryTokens item ++ tokens) := by
  cases item with
  | none => exact .mark (c := '*') (by decide) h
  | some parameter => exact .declaration (hNamed parameter (List.mem_cons_self ..)) hEnds h

/-- Items on one line. -/
theorem joined (hNamed : Named items) (hEnds : Ends rest) (h : Spells depth rest tokens) :
    Spells depth ([',', ' '].intercalate (items.map (String.toList ∘ entryText)) ++ rest)
      ([.mark ','].intercalate (items.map entryTokens) ++ tokens) := by
  induction items with
  | nil => exact h
  | cons first others ih =>
      have hOthers := ih fun parameter hMem => hNamed parameter (List.mem_cons_of_mem _ hMem)
      cases others with
      | nil => simpa using entry hNamed hEnds h
      | cons second others =>
          simp only [List.map_cons, List.intercalate_cons_cons, Function.comp_apply,
            List.append_assoc] at hOthers ⊢
          exact entry hNamed (ends_cons (by decide) _) (.mark (by decide) (.blank hOthers))

/-- Items on lines of their own. -/
theorem listed (hNamed : Named items) (h : Spells (depth + 1) rest tokens) :
    Spells (depth + 1)
      (items.flatMap (fun item => '\n' :: ("    " ++ entryText item ++ ",").toList) ++ rest)
      (items.flatMap (fun item => entryTokens item ++ [.mark ',']) ++ tokens) := by
  induction items with
  | nil => exact h
  | cons first others ih =>
      have hOthers := ih fun parameter hMem => hNamed parameter (List.mem_cons_of_mem _ hMem)
      have hComma := entry hNamed (ends_cons (by decide) _) (.mark (c := ',') (by decide) hOthers)
      simpa using feed (.blank (.blank (.blank (.blank hComma))))

end Spells

/-- The tokens between the brackets of a signature. In a list of lines, a comma stands behind
the last item too. -/
def IsList (parameters : List Parameter) (tokens : List Token) : Prop :=
  tokens = [.mark ','].intercalate ((entries parameters).map entryTokens) ∨
    tokens = (entries parameters).flatMap fun item => entryTokens item ++ [.mark ',']

/-- Both layouts are spelled by the items in brackets. -/
theorem exists_spells_signature {name : String} {parameters : List Parameter}
    (hName : Text.isIdentifier name.toList = true)
    (hNames : ∀ parameter ∈ parameters, Text.isIdentifier parameter.name.toList = true) :
    ∃ inner, IsList parameters inner ∧
      Spells 0 ("\n".intercalate (Function.signature name parameters)).toList
        (.word "def" :: .word name :: .mark '(' ::
          (inner ++ [.mark ')', .arrow, .word "str", .mark ':'])) := by
  have hNamed : Named (entries parameters) := fun parameter hMem =>
    hNames parameter (mem_of_some_mem_entries hMem)
  have hBehind : Spells 1 (')' :: ' ' :: '-' :: '>' :: ' ' :: ("str".toList ++ [':']))
      [.mark ')', .arrow, .word "str", .mark ':'] :=
    .closing (by decide) (.blank (.arrow (.blank
      (.word (by decide) (ends_cons (by decide) _) (.mark (by decide) .nil)))))
  have hFront {rest : List Char} {tokens : List Token} (h : Spells 1 rest tokens) :
      Spells 0 ("def".toList ++ ' ' :: (name.toList ++ '(' :: rest))
        (.word "def" :: .word name :: .mark '(' :: tokens) :=
    .word (by decide) (ends_cons (by decide) _)
      (.blank (.word hName (ends_cons (by decide) _) (.opening (by decide) h)))
  rw [Function.signature, items_eq_map_entries]
  split
  · refine ⟨_, Or.inl rfl, ?_⟩
    have hLine := hFront (.joined hNamed (ends_cons (by decide) _) hBehind)
    simpa [String.toList_intercalate] using hLine
  · refine ⟨_, Or.inr rfl, ?_⟩
    have hLines := hFront (.listed hNamed (.feed hBehind))
    have hText : ("\n".intercalate (["def " ++ name ++ "("] ++
        ((entries parameters).map entryText).map (fun item => "    " ++ item ++ ",") ++
          [") -> str:"])).toList =
        "def".toList ++ ' ' :: (name.toList ++ '(' ::
          ((entries parameters).flatMap (fun item => '\n' :: ("    " ++ entryText item ++ ",").toList)
            ++ '\n' :: ')' :: ' ' :: '-' :: '>' :: ' ' :: ("str".toList ++ [':']))) := by
      rw [String.toList_intercalate, List.cons_append, List.nil_append, List.cons_append, List.map_cons]
      rw [show "\n".toList = ['\n'] from rfl, Splitting.intercalate_cons_eq_append]
      simp [List.flatMap_map]
    rw [hText]
    exact hLines

end RoutePaths.Signature
