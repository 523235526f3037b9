import RoutePaths.Generation
import RoutePaths.Proofs.Name.Sanitize
import RoutePaths.Proofs.Result

/-! Generation with all of its steps checked. Some steps presuppose something of
their values, such as a first character of a text; the functions of the library
have some result where the presupposition fails. Here such a step stops the run
instead, and the two are shown to agree. This file is about names. -/
namespace RoutePaths.Checked
open Result

/-- Why a run stops. Besides the errors of generation, which are known to the
user, these are the presuppositions of its steps, and the errors of a row, which
are to become diagnostics. -/
inductive Stop where
  | known (error : Generation.Error)
  | noFirstCharacter
  | noFirstWord
  | noLastName
  | namelessRoute
  | noParameter (name : String)
  | patternNoText
  | row (error : Row.Error)
  | template (error : Template.Error)

/-- The first character of a text. -/
def firstCharacter : List Char → Except Stop Char
  | [] => .error .noFirstCharacter
  | c :: _ => .ok c

/-- `Name.guardDigit`, which looks at the first character. -/
def guardDigit (lead text : List Char) : Except Stop (List Char) := do
  let first ← firstCharacter text
  return if Text.isDigit first then lead ++ text else text

/-- `Name.sanitize`. -/
def sanitize (text fallback : String) : Except Stop String := do
  let replaced := Name.replaceUnsafe text.toList
  let name ← guardDigit Name.digitLead (if replaced = [] then fallback.toList else replaced)
  return Name.release (String.ofList name)

/-- `Name.capitalize`, which changes the first character. -/
def capitalize (word : List Char) : Except Stop (List Char) := do
  let first ← firstCharacter word
  return first.toUpper :: word.tail

/-- `Name.pascal`. -/
def pascal (text : String) : Except Stop String := do
  let words ← ((text.toList.splitOnP (!Name.isWordChar ·)).filter (· ≠ [])).mapM capitalize
  if words.flatten = [] then return "Module"
  else return String.ofList (← guardDigit ['M'] words.flatten)

theorem guardDigit_eq {lead text : List Char} (h : text ≠ []) :
    guardDigit lead text = .ok (Name.guardDigit lead text) := by
  cases text with
  | nil => exact absurd rfl h
  | cons c rest => rfl

/-- What is sanitised is never empty, because the fallback is not. -/
theorem sanitize_eq (text : String) {fallback : String} (h : fallback.toList ≠ []) :
    sanitize text fallback = .ok (Name.sanitize text fallback) := by
  have hChosen : (if Name.replaceUnsafe text.toList = [] then fallback.toList
      else Name.replaceUnsafe text.toList) ≠ [] := by
    split
    · exact h
    · assumption
  simp only [sanitize, guardDigit_eq hChosen, Name.sanitize_eq_release]
  rfl

/-- Neither are the words of a name, nor a name that has words. -/
theorem pascal_eq (text : String) : pascal text = .ok (Name.pascal text) := by
  have hWords : ((text.toList.splitOnP (!Name.isWordChar ·)).filter (· ≠ [])).mapM capitalize =
      .ok (((text.toList.splitOnP (!Name.isWordChar ·)).filter (· ≠ [])).map Name.capitalize) := by
    apply mapM_eq_ok_map
    intro word hWord
    cases word with
    | nil => simp at hWord
    | cons c rest => rfl
  rw [pascal, hWords]
  show (if (List.map Name.capitalize _).flatten = [] then _ else _) = _
  rw [← List.flatMap_def, Name.pascal]
  split
  · rfl
  · rename_i hSome
    rw [guardDigit_eq hSome]
    rfl

/-- `Function.nameFor`. -/
def nameFor (parts : List String) (routeName : String) : Except Stop String :=
  let lead := ("_".intercalate parts ++ "_").toList
  let name := routeName.toList
  let base :=
    if parts ≠ [] && lead.isPrefixOf name && name.length > lead.length then name.drop lead.length
    else name
  sanitize (String.ofList base) "route"

theorem nameFor_eq (parts : List String) (routeName : String) :
    nameFor parts routeName = .ok (Function.nameFor parts routeName) :=
  sanitize_eq _ (by decide)

end RoutePaths.Checked
