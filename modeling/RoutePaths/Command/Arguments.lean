/-! Options on a command line. An option has a long name and perhaps a short
one; flags may share one dash, and a value may follow in the same word or in
the next one. What is no option is left in order. -/
namespace RoutePaths.Arguments

/-- An option: its name after two dashes, its letter after one, and whether a
value follows it. -/
structure Spec where
  name : String
  letter : Option Char
  takesValue : Bool
  deriving DecidableEq, Repr

/-- An option that was given. A flag has an empty value. -/
structure Given where
  name : String
  value : String
  deriving DecidableEq, Repr

/-- The options that a word gives. The last one may still lack its value,
which then is the next word. -/
structure Word where
  given : List Given
  open? : Option String
  deriving DecidableEq, Repr

/-- The options that letters behind a dash give. The letters behind one that
takes a value are its value. -/
def ofLetters? (specs : List Spec) : List Char → Option Word
  | [] => some ⟨[], none⟩
  | letter :: rest =>
    match specs.find? (·.letter = some letter) with
    | none => none
    | some spec =>
      if spec.takesValue then
        if rest = [] then some ⟨[], some spec.name⟩
        else some ⟨[⟨spec.name, String.ofList rest⟩], none⟩
      else
        (ofLetters? specs rest).map fun word =>
          { word with given := ⟨spec.name, ""⟩ :: word.given }

/-- The option that a name behind two dashes gives, perhaps with an equals
sign and a value. A flag has no value to be given. -/
def ofName? (specs : List Spec) (text : List Char) : Option Word :=
  let name := text.takeWhile (· ≠ '=')
  match specs.find? (·.name.toList = name), text.dropWhile (· ≠ '=') with
  | none, _ => none
  | some spec, [] =>
    if spec.takesValue then some ⟨[], some spec.name⟩ else some ⟨[⟨spec.name, ""⟩], none⟩
  | some spec, _ :: value =>
    if spec.takesValue then some ⟨[⟨spec.name, String.ofList value⟩], none⟩ else none

/-- The options that a word gives, if it is a word of options at all. A lone
dash is not. -/
def ofWord? (specs : List Spec) (word : String) : Option (Option Word) :=
  match word.toList with
  | '-' :: '-' :: name => some (ofName? specs name)
  | '-' :: c :: letters => some (ofLetters? specs (c :: letters))
  | _ => none

/-- Reads words up to two lone dashes, or up to the first word that is no
option where words and options do not mix. The result is the options and the
other words. -/
def read? (specs : List Spec) (mixed : Bool) : List String → Option (List Given × List String)
  | [] => some ([], [])
  | word :: rest =>
    if word = "--" then some ([], rest)
    else
      match ofWord? specs word with
      | none =>
        if mixed then (read? specs mixed rest).map fun (given, others) => (given, word :: others)
        else some ([], word :: rest)
      | some none => none
      | some (some found) =>
        match found.open? with
        | none => (read? specs mixed rest).map fun (given, others) => (found.given ++ given, others)
        | some name =>
          match rest with
          | [] => none
          | value :: after =>
            (read? specs mixed after).map fun (given, others) =>
              (found.given ++ ⟨name, value⟩ :: given, others)

/-- The value of an option. The last one that was given counts. -/
def value? (given : List Given) (name : String) : Option String :=
  (given.reverse.find? (·.name = name)).map (·.value)

/-- A flag was given. -/
def has (given : List Given) (name : String) : Bool :=
  given.any (·.name = name)

end RoutePaths.Arguments
