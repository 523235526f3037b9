import RoutePaths.Uri.Segment

/-! Reading URI templates. A template is a body and possibly the suffix
`(.:format)`. The body is text cut by optional groups, such as
`(/page/:page)`, and the text between two groups is a path whose tokens are
literals, `:name` or `*name`. Nothing else may contain one of the four
special characters, and no name may occur twice. -/
namespace RoutePaths.Template

/-- Why text is not a URI template. Each cause carries the whole template
last, because the reader of a table sees nothing else of the row. -/
inductive Error where
  | missingSlash (uri : String)
  | unsupportedGroup (group uri : String)
  | unsupportedSegment (text uri : String)
  | repeatedName (name uri : String)
  deriving DecidableEq, Repr

/-- The wording of a cause. -/
def Error.message : Error → String
  | missingSlash uri => "URI pattern must start with '/': " ++ uri
  | unsupportedGroup group uri => "Unsupported optional group '" ++ group ++ "' in " ++ uri
  | unsupportedSegment text uri => "Unsupported segment '" ++ text ++ "' in " ++ uri
  | repeatedName name uri => "Dynamic segment ':" ++ name ++ "' appears twice in " ++ uri

/-- The characters that only dynamic segments and groups may contain. -/
def isSpecial (c : Char) : Bool :=
  c == ':' || c == '*' || c == '(' || c == ')'

/-- The characters that announce a name. Both give the same segment. -/
def isSigil (c : Char) : Bool :=
  c == ':' || c == '*'

def isNameStart (c : Char) : Bool :=
  c.isAlpha || c == '_'

def isNameChar (c : Char) : Bool :=
  c.isAlphanum || c == '_'

/-- Names are ASCII: a letter or an underscore, then letters, digits and
underscores. -/
def isName : List Char → Bool
  | [] => false
  | c :: cs => isNameStart c && cs.all isNameChar

/-- An optional group. The separator is kept as it is written, so it may
lack the slash that the text before the group then lends to it. -/
structure Group where
  separator : List Char
  sigil : Char
  name : List Char
  deriving DecidableEq, Repr

/-- The group as it is written. -/
def Group.text (group : Group) : List Char :=
  '(' :: group.separator ++ group.sigil :: group.name ++ [')']

/-- The fixed text of a group: a slash or nothing, and then any number of
non-empty texts, each closed by a slash. Special characters are not looked
for here. -/
def isSeparator (text : List Char) : Bool :=
  let chunks := (if text.head? = some '/' then text.tail else text).splitOn '/'
  chunks.getLast? == some [] && chunks.dropLast.all (· ≠ [])

/-- The group whose inner text is given, if it is one. The inner text
must hold no parenthesis. -/
def Group.ofInner? (inner : List Char) : Option Group :=
  let separator := inner.takeWhile (!isSigil ·)
  match inner.dropWhile (!isSigil ·) with
  | [] => none
  | sigil :: name =>
    if isSeparator separator && isName name then some ⟨separator, sigil, name⟩ else none

/-- The group that the text starts with, and what follows it. -/
def Group.atStart? : List Char → Option (Group × List Char)
  | '(' :: text =>
    match text.dropWhile (fun c => c ≠ '(' && c ≠ ')') with
    | ')' :: rest =>
      (Group.ofInner? (text.takeWhile fun c => c ≠ '(' && c ≠ ')')).map (·, rest)
    | _ => none
  | _ => none

/-- A group is never empty, so reading one makes progress. -/
theorem Group.length_of_atStart? {text rest : List Char} {group : Group}
    (h : Group.atStart? text = some (group, rest)) : rest.length < text.length := by
  unfold Group.atStart? at h
  split at h
  · rename_i text
    split at h
    · rename_i after hAfter
      simp only [Option.map_eq_some_iff, Prod.mk.injEq] at h
      obtain ⟨_, _, _, rfl⟩ := h
      have hLength := (List.dropWhile_sublist (l := text)
        (fun c => c ≠ '(' && c ≠ ')')).length_le
      rw [hAfter] at hLength
      simp only [List.length_cons] at hLength ⊢
      omega
    · simp at h
  · simp at h

/-- A body cut at its groups: each group with the text in front of it, and
the text after the last one. A parenthesis that opens no group stays in the
text. The given text is what has been passed over since the last group. -/
def cut (passed : List Char) (text : List Char) : List (List Char × Group) × List Char :=
  match _ : Group.atStart? text with
  | some (group, rest) =>
    let after := cut [] rest
    ((passed, group) :: after.1, after.2)
  | none =>
    match text with
    | [] => ([], passed)
    | c :: rest => cut (passed ++ [c]) rest
termination_by text.length
decreasing_by
  · exact Group.length_of_atStart? (by assumption)
  · simp

/-- A token without the line break at its end, if it has one. Only the
test for a name overlooks that line break. -/
def withoutFinalBreak (token : List Char) : List Char :=
  if token.getLast? = some '\n' then token.dropLast else token

/-- The required name that a token announces. -/
def requiredName? : List Char → Option (List Char)
  | sigil :: rest =>
    if isSigil sigil && isName (withoutFinalBreak rest) then some (withoutFinalBreak rest)
    else none
  | [] => none

/-- The segment of one token between slashes. -/
def readToken (uri : String) (token : List Char) : Except Error Segment :=
  match requiredName? token with
  | some name => .ok (.dynamic (String.ofList name) false "/")
  | none =>
    if token.any isSpecial then .error (.unsupportedSegment (String.ofList token) uri)
    else .ok (.literal (String.ofList token))

/-- The segments of text without groups. -/
def readPath (uri : String) : List Char → Except Error (List Segment)
  | [] => .ok []
  | '/' :: rest => (rest.splitOn '/').mapM (readToken uri)
  | text => .error (.unsupportedSegment (String.ofList text) uri)

/-- The text in front of a group and the separator of the group, after a
group without a slash of its own has taken over the slash in front of it. -/
def lendSlash? (before : List Char) (separator : List Char) : Option (List Char × List Char) :=
  if separator.head? = some '/' then some (before, separator)
  else if before.getLast? = some '/' then some (before.dropLast, '/' :: separator)
  else none

/-- The segments of the text in front of a group and of the group. -/
def readPart (uri : String) (part : List Char × Group) : Except Error (List Segment) :=
  match lendSlash? part.1 part.2.separator with
  | none => .error (.unsupportedGroup (String.ofList part.2.text) uri)
  | some (before, separator) => do
    let path ← readPath uri before
    return path ++ [.dynamic (String.ofList part.2.name) true (String.ofList separator)]

/-- The segments of a body. -/
def readBody (uri : String) (body : List Char) : Except Error (List Segment) := do
  let (parts, rest) := cut [] body
  let front ← parts.mapM (readPart uri)
  let back ← readPath uri rest
  return front.flatten ++ back

/-- The first name that occurs a second time. -/
def repeated? : List String → List String → Option String
  | _, [] => none
  | seen, name :: rest => if name ∈ seen then some name else repeated? (name :: seen) rest

/-- The suffix of templates that let the caller choose a format. -/
def formatSuffix : List Char :=
  "(.:format)".toList

/-- The segment that the suffix stands for. -/
def formatSegment : Segment :=
  .dynamic "format" true "."

/-- A template as its body and whether it has the format suffix. -/
def splitFormat (text : List Char) : List Char × Bool :=
  if formatSuffix.isSuffixOf text then (text.take (text.length - formatSuffix.length), true)
  else (text, false)

/-- Reads a URI template. The root path has no segments, and any other
trailing slash is a last empty literal. -/
def read (uri : String) : Except Error (List Segment) := do
  let (body, hasFormat) := splitFormat uri.toList
  unless body.head? = some '/' || body.head? = some '(' do
    throw (.missingSlash uri)
  let path ← if body = ['/'] then pure [] else readBody uri body
  let segments := if hasFormat then path ++ [formatSegment] else path
  match repeated? [] (Segment.names segments) with
  | some name => throw (.repeatedName name uri)
  | none => return segments

end RoutePaths.Template
