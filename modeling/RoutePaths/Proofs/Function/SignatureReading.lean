import RoutePaths.Proofs.Function.SignatureTokens
import Mathlib.Data.List.TakeWhile

/-! Signatures of generated functions are read back as the parameters, in both layouts. They are
legal: a star stands where it is needed and nowhere else. The class of the parameters has the
same names in the same order. -/
namespace RoutePaths.Signature

/-- The declaration of a parameter. Its default is the only value that it has besides those of
its type. -/
def declarationOf (parameter : Parameter) : Declaration :=
  if parameter.optional then ⟨parameter.name, ["str", "int", "None"], some "None"⟩
  else ⟨parameter.name, ["str", "int"], none⟩

/-- The field of a parameter. -/
def fieldOf (parameter : Parameter) : Field :=
  ⟨parameter.name, ["str", "int"], !parameter.optional⟩

def itemOf : Option Parameter → Item
  | none => .star
  | some parameter => .parameter (declarationOf parameter)

theorem item?_entryTokens {item : Option Parameter}
    (hName : ∀ parameter ∈ item, Text.isIdentifier parameter.name.toList = true) :
    item? (entryTokens item) = some (itemOf item) := by
  cases item with
  | none => rfl
  | some parameter =>
      have hIdentifier := hName parameter rfl
      rw [entryTokens, declarationTokens, itemOf, declarationOf]
      cases parameter.optional with
      | false => simp [item?, typeTokens, types?, hIdentifier]
      | true => simp [item?, typeTokens, types?, hIdentifier]

/-- No separator and no bracket is a token of an item. -/
theorem not_mem_entryTokens (item : Option Parameter) :
    .mark ',' ∉ entryTokens item ∧ .mark ')' ∉ entryTokens item := by
  cases item with
  | none => decide
  | some parameter =>
      rw [entryTokens, declarationTokens]
      cases parameter.optional with
      | false => simp [typeTokens]
      | true => simp [typeTokens]

theorem entryTokens_ne_nil (item : Option Parameter) : entryTokens item ≠ [] := by
  cases item with
  | none => exact List.cons_ne_nil _ _
  | some parameter => exact List.cons_ne_nil _ _

variable {parameters : List Parameter} {inner : List Token}

theorem not_mem_of_isList (h : IsList parameters inner) : .mark ')' ∉ inner := by
  have hPieces : ∀ piece ∈ (entries parameters).map entryTokens, .mark ')' ∉ piece :=
    List.forall_mem_map.mpr fun item _ => (not_mem_entryTokens item).2
  intro hMem
  rcases h with rfl | rfl
  · exact Splitting.forall_mem_intercalate (p := (· ≠ .mark ')')) (by decide)
      (fun piece hPiece token hToken hEq => hPieces piece hPiece (hEq ▸ hToken)) _ hMem rfl
  · obtain ⟨item, hItem, hToken⟩ := List.mem_flatMap.mp hMem
    rcases List.mem_append.mp hToken with hToken | hToken
    · exact (not_mem_entryTokens item).2 hToken
    · exact absurd hToken (by decide)

/-- Without the empty piece behind a last comma, the pieces are the items. -/
theorem pieces_of_isList (h : IsList parameters inner) :
    (if (inner.splitOn (.mark ',')).getLast? = some [] then (inner.splitOn (.mark ',')).dropLast
      else inner.splitOn (.mark ',')) = (entries parameters).map entryTokens := by
  have hPieces : ∀ piece ∈ (entries parameters).map entryTokens, .mark ',' ∉ piece :=
    List.forall_mem_map.mpr fun item _ => (not_mem_entryTokens item).1
  rcases h with rfl | rfl
  · by_cases hNone : (entries parameters).map entryTokens = []
    · rw [hNone]
      rfl
    · rw [List.splitOn_intercalate _ hPieces hNone, if_neg]
      intro hLast
      obtain ⟨item, -, hItem⟩ := List.mem_map.mp (List.mem_of_getLast? hLast)
      exact entryTokens_ne_nil item hItem
  · have hSplit := Splitting.splitOn_flatMap_append hPieces
    rw [List.flatMap_map] at hSplit
    rw [hSplit, List.getLast?_concat, if_pos rfl, List.dropLast_concat]

theorem items?_of_isList (h : IsList parameters inner) (hNamed : Named (entries parameters)) :
    items? inner = some ((entries parameters).map itemOf) := by
  have hItems (items : List (Option Parameter)) (hNamed : Named items) :
      (items.map entryTokens).mapM item? = some (items.map itemOf) := by
    induction items with
    | nil => rfl
    | cons first rest ih =>
        have hFirst : item? (entryTokens first) = some (itemOf first) :=
          item?_entryTokens fun parameter hMem => hNamed parameter (by simp [Option.mem_def.mp hMem])
        have hRest := ih fun parameter hMem => hNamed parameter (List.mem_cons_of_mem _ hMem)
        rw [List.map_cons, List.mapM_cons, hFirst, hRest]
        rfl
  rw [items?, pieces_of_isList h, hItems _ hNamed]

/-- The signature of a function with the parameters. -/
def ofParameters (name : String) (parameters : List Parameter) : Signature :=
  ⟨name, (entries parameters).map itemOf, "str"⟩

theorem read?_signature {name : String} (hName : Text.isIdentifier name.toList = true)
    (hNames : ∀ parameter ∈ parameters, Text.isIdentifier parameter.name.toList = true) :
    read? ("\n".intercalate (Function.signature name parameters)) =
      some (ofParameters name parameters) := by
  have hNamed : Named (entries parameters) := fun parameter hMem =>
    hNames parameter (mem_of_some_mem_entries hMem)
  obtain ⟨inner, hList, hSpells⟩ := exists_spells_signature hName hNames
  have hSplit : (inner ++ ([.mark ')', .arrow, .word "str", .mark ':'] : List Token)).splitOn
      (.mark ')') = [inner, [.arrow, .word "str", .mark ':']] := by
    rw [List.splitOn_append_cons_self_of_not_mem (not_mem_of_isList hList)]
    rfl
  rw [read?, tokens?_of_spells hSpells, Option.bind_some, header?, hSplit]
  simp only [hName, if_true, items?_of_isList hList hNamed]
  rfl

theorem entries_cons_required {parameter : Parameter} (h : parameter.optional = false) :
    entries (parameter :: parameters) = some parameter :: entries parameters := by
  simp [entries, h]

theorem entries_cons_optional {parameter : Parameter} (h : parameter.optional = true) :
    entries (parameter :: parameters) =
      (if parameters.any (!·.optional) then [none] else []) ++
        (parameter :: parameters).map some := by
  simp [entries, h]

theorem filterMap_entries (parameters : List Parameter) :
    (entries parameters).filterMap id = parameters := by
  induction parameters with
  | nil => rfl
  | cons parameter rest ih =>
      cases hOptional : parameter.optional with
      | false =>
          rw [entries_cons_required hOptional]
          exact congrArg (parameter :: ·) ih
      | true =>
          rw [entries_cons_optional hOptional]
          split <;> simp

/-- There is a star exactly if a required parameter follows an optional one. -/
theorem none_mem_entries_iff :
    none ∈ entries parameters ↔ ∃ earlier later, [earlier, later].Sublist parameters ∧
      earlier.optional = true ∧ later.optional = false := by
  induction parameters with
  | nil => simp [entries]
  | cons parameter rest ih =>
      cases hOptional : parameter.optional with
      | false =>
          rw [entries_cons_required hOptional, List.mem_cons, ih]
          constructor
          · rintro (hNone | ⟨earlier, later, hSublist, hFlags⟩)
            · cases hNone
            · exact ⟨earlier, later, hSublist.cons _, hFlags⟩
          · rintro ⟨earlier, later, hSublist, hEarlier, hLater⟩
            refine Or.inr ⟨earlier, later, hSublist.of_cons_of_ne ?_, hEarlier, hLater⟩
            rintro rfl
            rw [hOptional] at hEarlier
            cases hEarlier
      | true =>
          have hNone : none ∉ (parameter :: rest).map some := by simp
          rw [entries_cons_optional hOptional, List.mem_append, or_iff_left hNone]
          constructor
          · intro hStar
            split at hStar
            · rename_i hAny
              obtain ⟨later, hLater, hRequired⟩ := List.any_eq_true.mp hAny
              refine ⟨parameter, later, (List.singleton_sublist.mpr hLater).cons_cons _, hOptional, ?_⟩
              simpa using hRequired
            · cases hStar
          · rintro ⟨earlier, later, hSublist, -, hLater⟩
            have hMem : later ∈ rest := List.singleton_sublist.mp hSublist.tail
            rw [if_pos (List.any_eq_true.mpr ⟨later, hMem, by simp [hLater]⟩)]
            exact List.mem_singleton_self _

/-- Where the star stands, the required parameters end and the first optional one follows. -/
theorem entries_eq_of_none {front back : List (Option Parameter)}
    (h : entries parameters = front ++ none :: back) :
    ∃ before first after, parameters = before ++ first :: after ∧
      (∀ parameter ∈ before, parameter.optional = false) ∧ first.optional = true ∧
      front = before.map some ∧ back = (first :: after).map some := by
  induction parameters generalizing front with
  | nil =>
      have hNil : [] = front ++ none :: back := h
      simp at hNil
  | cons parameter rest ih =>
      cases hOptional : parameter.optional with
      | false =>
          rw [entries_cons_required hOptional] at h
          cases front with
          | nil => cases h
          | cons item others =>
              obtain ⟨rfl, hRest⟩ := List.cons.inj h
              obtain ⟨before, first, after, rfl, hBefore, hFirst, rfl, hBack⟩ := ih hRest
              exact ⟨parameter :: before, first, after, rfl,
                List.forall_mem_cons.mpr ⟨hOptional, hBefore⟩, hFirst, rfl, hBack⟩
      | true =>
          -- Parameters only stand behind the star, so no other item can be one.
          have hNever {others : List (Option Parameter)}
              (hRest : (parameter :: rest).map some = others ++ none :: back) : False := by
            have hMem : none ∈ (parameter :: rest).map some := by
              rw [hRest]
              exact List.mem_append_right _ (List.mem_cons_self ..)
            simp at hMem
          rw [entries_cons_optional hOptional] at h
          split at h
          · cases front with
            | nil =>
                exact ⟨[], parameter, rest, rfl, by simp, hOptional, rfl,
                  (List.cons.inj h).2.symm⟩
            | cons item others => exact (hNever (List.cons.inj h).2).elim
          · exact (hNever h).elim

/-- The signature declares the parameters in their order, with a default for the optional ones.
The star is there if a required parameter follows an optional one, and then it stands in front
of the first optional one. -/
structure Declares (signature : Signature) (name : String) (parameters : List Parameter) :
    Prop where
  name_eq : signature.name = name
  result_eq : signature.result = "str"
  declarations_eq : signature.declarations = parameters.map declarationOf
  star_iff : .star ∈ signature.items ↔ ∃ earlier later, [earlier, later].Sublist parameters ∧
    earlier.optional = true ∧ later.optional = false
  star_first : ∀ front back, signature.items = front ++ .star :: back →
    ∃ before first after, parameters = before ++ first :: after ∧
      (∀ parameter ∈ before, parameter.optional = false) ∧ first.optional = true ∧
      front = before.map (.parameter ∘ declarationOf) ∧
      back = (first :: after).map (.parameter ∘ declarationOf)

theorem itemOf_eq_star_iff {item : Option Parameter} : itemOf item = .star ↔ item = none := by
  cases item with
  | none => exact iff_of_true rfl rfl
  | some parameter => simp [itemOf]

theorem declares_ofParameters (name : String) (parameters : List Parameter) :
    (ofParameters name parameters).Declares name parameters where
  name_eq := rfl
  result_eq := rfl
  declarations_eq := by
    have hNone (items : List (Option Parameter)) :
        (items.map itemOf).filterMap Item.declaration? =
          (items.filterMap id).map declarationOf := by
      rw [List.filterMap_map, List.map_filterMap]
      refine List.filterMap_congr fun item _ => ?_
      cases item <;> rfl
    rw [declarations, ofParameters, hNone, filterMap_entries]
  star_iff := by
    rw [← none_mem_entries_iff, ofParameters, List.mem_map]
    simp [itemOf_eq_star_iff]
  star_first := by
    intro front back hItems
    obtain ⟨ahead, behind, hEntries, rfl, hBack⟩ := List.map_eq_append_iff.mp hItems
    obtain ⟨item, rest, rfl, hStar, rfl⟩ := List.map_eq_cons_iff.mp hBack
    rw [itemOf_eq_star_iff.mp hStar] at hEntries
    obtain ⟨before, first, after, hSplit, hBefore, hFirst, rfl, rfl⟩ := entries_eq_of_none hEntries
    exact ⟨before, first, after, hSplit, hBefore, hFirst, List.map_map, List.map_map⟩

variable {signature : Signature} {name : String}

theorem default?_declarationOf (parameter : Parameter) :
    (declarationOf parameter).default?.isSome = parameter.optional := by
  rw [declarationOf]
  split <;> simp [*]

theorem name_declarationOf (parameter : Parameter) :
    (declarationOf parameter).name = parameter.name := by
  rw [declarationOf]
  split <;> rfl

namespace Declares

theorem map_name_eq (h : signature.Declares name parameters) :
    signature.declarations.map (·.name) = parameters.map (·.name) := by
  rw [h.declarations_eq, List.map_map]
  exact List.map_congr_left fun parameter _ => name_declarationOf parameter

/-- Only required parameters stand in front of a star. Without a star, no required parameter
follows an optional one. -/
theorem exists_positional (h : signature.Declares name parameters) :
    ∃ before : List Parameter, signature.positional = before.map declarationOf ∧
      before.Pairwise fun earlier later => earlier.optional = true → later.optional = true := by
  by_cases hStar : .star ∈ signature.items
  · obtain ⟨front, back, hItems⟩ := List.append_of_mem hStar
    obtain ⟨before, first, after, -, hBefore, -, rfl, -⟩ := h.star_first front back hItems
    have hFront : ∀ item ∈ before.map (Item.parameter ∘ declarationOf),
        decide (item ≠ .star) = true := by simp
    refine ⟨before, ?_, List.pairwise_iff_forall_sublist.mpr ?_⟩
    · rw [positional, hItems, List.takeWhile_append_of_pos hFront, List.takeWhile_cons_of_neg (by simp),
        List.append_nil, List.filterMap_map]
      exact congrFun (List.filterMap_eq_map (f := declarationOf)) before
    · intro earlier later hSublist hOptional
      rw [hBefore earlier (hSublist.subset (List.mem_cons_self ..))] at hOptional
      cases hOptional
  · have hAll : signature.items.takeWhile (· ≠ .star) = signature.items := by
      rw [List.takeWhile_eq_self_iff]
      intro item hItem
      rw [decide_eq_true_eq]
      rintro rfl
      exact hStar hItem
    refine ⟨parameters, ?_, List.pairwise_iff_forall_sublist.mpr ?_⟩
    · rw [positional, hAll, ← declarations, h.declarations_eq]
    · intro earlier later hSublist hEarlier
      by_contra hLater
      exact hStar (h.star_iff.mpr ⟨earlier, later, hSublist, hEarlier, by simpa using hLater⟩)

theorem isOrdered (h : signature.Declares name parameters)
    (hDistinct : (parameters.map (·.name)).Nodup) : signature.IsOrdered where
  distinct := by
    rw [h.map_name_eq]
    exact hDistinct
  star := by
    intro front back hItems
    obtain ⟨before, first, after, -, -, -, rfl, rfl⟩ := h.star_first front back hItems
    refine ⟨?_, ?_, List.cons_ne_nil _ _⟩
    · simp
    · simp
  defaults := by
    obtain ⟨before, hPositional, hPairs⟩ := h.exists_positional
    rw [hPositional, List.pairwise_map]
    simpa only [default?_declarationOf] using hPairs

theorem isLegal_iff (h : signature.Declares name parameters)
    (hDistinct : (parameters.map (·.name)).Nodup) :
    signature.IsLegal ↔
      Name.isLegal name = true ∧ ∀ parameter ∈ parameters, Name.isLegal parameter.name = true := by
  have hNames : (∀ declaration ∈ signature.declarations, Name.isLegal declaration.name = true) ↔
      ∀ parameter ∈ parameters, Name.isLegal parameter.name = true := by
    rw [h.declarations_eq, List.forall_mem_map]
    simp only [name_declarationOf]
  constructor
  · intro hLegal
    exact ⟨h.name_eq ▸ hLegal.name, hNames.mp hLegal.names⟩
  · rintro ⟨hName, hAll⟩
    exact ⟨h.isOrdered hDistinct, h.name_eq ▸ hName, hNames.mpr hAll⟩

end Declares

theorem field?_fieldTokens (parameter : Parameter) :
    field? (fieldTokens parameter) = some (fieldOf parameter) := by
  rw [fieldTokens, fieldOf]
  cases parameter.optional with
  | false => simp [field?, typeTokens, types?]
  | true => simp [field?, typeTokens, types?]

theorem readField?_field {parameter : Parameter}
    (hName : Text.isIdentifier parameter.name.toList = true) :
    readField? ("    " ++ parameter.field) = some (fieldOf parameter) := by
  have hLine : Spells 0 ("    " ++ parameter.field).toList (fieldTokens parameter) := by
    simpa using Spells.blank (.blank (.blank (.blank (Spells.field hName))))
  rw [readField?, tokens?_of_spells hLine, Option.bind_some, field?_fieldTokens]

/-- The head of a class is no field. -/
theorem readField?_classHead {name : String} (hName : Text.isIdentifier name.toList = true) :
    readField? ("class " ++ name ++ "(TypedDict):") = none := by
  have hBases : Spells 1 ("TypedDict".toList ++ [')', ':'])
      [.word "TypedDict", .mark ')', .mark ':'] :=
    .word (by decide) (ends_cons (by decide) _) (.closing (by decide) (.mark (by decide) .nil))
  have hLine : Spells 0
      ("class".toList ++ ' ' :: (name.toList ++ '(' :: ("TypedDict".toList ++ [')', ':'])))
      [.word "class", .word name, .mark '(', .word "TypedDict", .mark ')', .mark ':'] :=
    .word (by decide) (ends_cons (by decide) _)
      (.blank (.word hName (ends_cons (by decide) _) (.opening (by decide) hBases)))
  have hText : ("class " ++ name ++ "(TypedDict):").toList =
      "class".toList ++ ' ' :: (name.toList ++ '(' :: ("TypedDict".toList ++ [')', ':'])) := by
    simp
  rw [readField?, hText, tokens?_of_spells hLine]
  rfl

theorem isIdentifier_paramsClass (name : String) :
    Text.isIdentifier (Name.pascal name ++ "Params").toList = true := by
  have hFront := Name.isIdentifier_pascal name
  rw [String.toList_append]
  cases hText : (Name.pascal name).toList with
  | nil =>
      rw [hText] at hFront
      cases hFront
  | cons c rest =>
      rw [hText, Text.isIdentifier, Bool.and_eq_true] at hFront
      rw [List.cons_append, Text.isIdentifier, List.all_append, hFront.1, hFront.2]
      decide

/-- The fields of the class are those of the parameters. -/
theorem filterMap_readField?_classLines {function : Function}
    (hNames : ∀ parameter ∈ function.parameters,
      Text.isIdentifier parameter.name.toList = true) :
    function.classLines.filterMap readField? = function.parameters.map fieldOf := by
  have hFields : (function.parameters.map fun parameter => "    " ++ parameter.field).filterMap
      readField? = function.parameters.map fieldOf := by
    rw [List.filterMap_map, ← List.filterMap_eq_map]
    exact List.filterMap_congr fun parameter hMem => readField?_field (hNames parameter hMem)
  rw [Function.classLines, Function.paramsClass?]
  cases hNone : function.parameters with
  | nil => rfl
  | cons first rest =>
      have hEmpty : readField? "" = none := rfl
      have hHead := readField?_classHead (isIdentifier_paramsClass function.name)
      rw [hNone] at hFields
      rw [List.isEmpty_cons, if_neg Bool.false_ne_true, List.filterMap_append, hFields]
      simp [hEmpty, hHead]

/-- The signature of a function reads back as its parameters in both layouts, and so do the
fields of its class. It is legal as soon as there are no keywords among its names. -/
theorem signature_declares (function : Function)
    (hName : Text.isIdentifier function.name.toList = true)
    (hNames : ∀ parameter ∈ function.parameters, Text.isIdentifier parameter.name.toList = true)
    (hDistinct : (function.parameters.map (·.name)).Nodup) :
    ∃ signature,
      read? ("\n".intercalate (Function.signature function.name function.parameters)) =
        some signature ∧
      signature.Declares function.name function.parameters ∧
      signature.IsOrdered ∧
      (signature.IsLegal ↔ Name.isLegal function.name = true ∧
        ∀ parameter ∈ function.parameters, Name.isLegal parameter.name = true) ∧
      function.classLines.filterMap readField? = function.parameters.map fieldOf := by
  have hDeclares := declares_ofParameters function.name function.parameters
  exact ⟨_, read?_signature hName hNames, hDeclares, hDeclares.isOrdered hDistinct,
    hDeclares.isLegal_iff hDistinct, filterMap_readField?_classLines hNames⟩

/-- A function in which a required parameter follows an optional one. -/
def mixedFunction : Function :=
  ⟨"user", [⟨"account", false⟩, ⟨"locale", true⟩, ⟨"id", false⟩],
    ⟨"user", "GET", "/:account(/:locale)/:id", [], "users#show", 2, false⟩, [], ⟨[], false⟩⟩

theorem signature_declares_mixedFunction :
    (mixedFunction.parameters.map (·.name)).Nodup ∧
      ∃ signature,
        read? ("\n".intercalate (Function.signature "user" mixedFunction.parameters)) =
          some signature ∧
        signature.items = [.parameter ⟨"account", ["str", "int"], none⟩, .star,
          .parameter ⟨"locale", ["str", "int", "None"], some "None"⟩,
          .parameter ⟨"id", ["str", "int"], none⟩] ∧
        signature.Declares "user" mixedFunction.parameters ∧ signature.IsLegal := by
  have hDistinct : (mixedFunction.parameters.map (·.name)).Nodup := by decide
  have hNames : ∀ parameter ∈ mixedFunction.parameters,
      Text.isIdentifier parameter.name.toList = true := by decide
  obtain ⟨signature, hRead, hDeclares, -, hLegal, -⟩ :=
    signature_declares mixedFunction (by decide) hNames hDistinct
  refine ⟨hDistinct, signature, hRead, ?_, hDeclares, hLegal.mpr (by decide)⟩
  rw [read?_signature (by decide) hNames, Option.some.injEq] at hRead
  rw [← hRead]
  decide

end RoutePaths.Signature
