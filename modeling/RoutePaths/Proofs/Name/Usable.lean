import RoutePaths.Proofs.Name.Dotted

/-! Sanitising as a normal form. What it gives can be used in generated code as it is, and a name
of which that is true already is left alone, so sanitising a second time changes nothing. A name
that has to be changed still holds what it was made from. -/
namespace RoutePaths.Name

/-- The name can be used in generated code as it is. -/
structure IsUsable (name : String) : Prop where
  ascii : ∀ c ∈ name.toList, c.toNat < 0x80
  identifier : Text.isIdentifier name.toList = true
  noKeyword : name ∉ keywords
  unreserved : name ∉ reserved

/-- The name holds the text, with an underscore for each character that is not safe. In front of
it stands what keeps a digit from being the first character, and behind it what sets the name
apart from those that are taken. -/
def Bears (name text : String) : Prop :=
  ∃ lead trail, (lead = [] ∨ lead = digitLead) ∧ (trail = [] ∨ trail = ['_']) ∧
    name.toList = lead ++ replaceUnsafe text.toList ++ trail

variable {name text fallback : String}

theorem isSafeChar_of_isIdentifierChar {c : Char} (hAscii : c.toNat < 0x80)
    (h : Text.isIdentifierChar c = true) : isSafeChar c = true := by
  rwa [Text.isIdentifierChar, if_pos hAscii] at h

/-- Among the characters of ASCII no digit starts an identifier. -/
theorem isDigit_of_isIdentifierStart {c : Char} (hAscii : c.toNat < 0x80)
    (h : Text.isIdentifierStart c = true) : c.isDigit = false := by
  have hAll : ∀ n < 0x80,
      Text.isIdentifierStart (Char.ofNat n) = true → (Char.ofNat n).isDigit = false := by
    decide
  have hChar := hAll c.toNat hAscii
  rw [Char.ofNat_toNat] at hChar
  exact hChar h

theorem isPlain_iff {text : List Char} :
    IsPlain text ↔ Text.isIdentifier text = true ∧ ∀ c ∈ text, c.toNat < 0x80 := by
  constructor
  · intro h
    exact ⟨isIdentifier_of_isPlain h, fun c hc => toNat_lt_of_isSafeChar (h.safe c hc)⟩
  · rintro ⟨hIdentifier, hAscii⟩
    have hSafe : ∀ c ∈ text, isSafeChar c = true := fun c hc =>
      isSafeChar_of_isIdentifierChar (hAscii c hc) (Text.isIdentifierChar_of_mem hIdentifier c hc)
    cases text with
    | nil => cases hIdentifier
    | cons c rest =>
        rw [List.forall_mem_cons] at hSafe hAscii
        rw [Text.isIdentifier, Bool.and_eq_true] at hIdentifier
        exact ⟨hSafe.1, isDigit_of_isIdentifierStart hAscii.1 hIdentifier.1, hSafe.2⟩

theorem isTaken_eq_false_iff : isTaken name = false ↔ name ∉ keywords ∧ name ∉ reserved := by
  simp [isTaken]

theorem isUsable_iff : IsUsable name ↔ IsPlain name.toList ∧ isTaken name = false := by
  rw [isPlain_iff, isTaken_eq_false_iff]
  constructor
  · intro h
    exact ⟨⟨h.identifier, h.ascii⟩, h.noKeyword, h.unreserved⟩
  · rintro ⟨⟨hIdentifier, hAscii⟩, hKeyword, hReserved⟩
    exact ⟨hAscii, hIdentifier, hKeyword, hReserved⟩

instance : DecidablePred IsUsable := fun _ => decidable_of_iff _ isUsable_iff.symm

theorem isUsable_sanitize (text : String) (hFallback : IsPlain fallback.toList) :
    IsUsable (sanitize text fallback) :=
  isUsable_iff.mpr ⟨isPlain_sanitize text hFallback, isTaken_sanitize text fallback⟩

theorem replaceUnsafe_eq_self {text : List Char} (h : ∀ c ∈ text, isSafeChar c = true) :
    replaceUnsafe text = text :=
  (List.map_congr_left fun c hc => if_pos (h c hc)).trans (List.map_id text)

theorem guardDigit_eq_self {text : List Char} (h : IsPlain text) (lead : List Char) :
    guardDigit lead text = text := by
  cases text with
  | nil => rfl
  | cons c rest => rw [guardDigit, isDigit_of_isSafeChar h.1, h.2.1, if_neg Bool.false_ne_true]

theorem release_eq_self (h : isTaken name = false) : release name = name := by
  rw [release, h, if_neg Bool.false_ne_true]

/-- No step of sanitising has anything to do on a usable name. -/
theorem IsUsable.sanitize_eq (h : IsUsable name) (fallback : String) :
    sanitize name fallback = name := by
  obtain ⟨hPlain, hFree⟩ := isUsable_iff.mp h
  rw [sanitize_eq_release, replaceUnsafe_eq_self hPlain.safe, if_neg hPlain.ne_nil,
    guardDigit_eq_self hPlain, String.ofList_toList, release_eq_self hFree]

theorem exists_guardDigit_eq (lead text : List Char) :
    ∃ front, (front = [] ∨ front = lead) ∧ guardDigit lead text = front ++ text := by
  unfold guardDigit
  split
  · split
    · exact ⟨lead, Or.inr rfl, rfl⟩
    · exact ⟨[], Or.inl rfl, rfl⟩
  · exact ⟨[], Or.inl rfl, rfl⟩

theorem exists_release_eq (name : String) :
    ∃ trail, (trail = [] ∨ trail = ['_']) ∧ (release name).toList = name.toList ++ trail := by
  unfold release
  split
  · exact ⟨['_'], Or.inr rfl, String.toList_append⟩
  · exact ⟨[], Or.inl rfl, (List.append_nil _).symm⟩

/-- An empty text leaves nothing to hold, and the fallback takes its place. -/
theorem bears_sanitize (hText : text ≠ "") (fallback : String) :
    Bears (sanitize text fallback) text := by
  have hReplaced : replaceUnsafe text.toList ≠ [] := by
    rw [replaceUnsafe, Ne, List.map_eq_nil_iff, String.toList_eq_nil_iff]
    exact hText
  obtain ⟨lead, hLead, hGuarded⟩ := exists_guardDigit_eq digitLead (replaceUnsafe text.toList)
  rw [sanitize_eq_release, if_neg hReplaced, hGuarded]
  obtain ⟨trail, hTrail, hReleased⟩ :=
    exists_release_eq (String.ofList (lead ++ replaceUnsafe text.toList))
  rw [String.toList_ofList] at hReleased
  exact ⟨lead, trail, hLead, hTrail, hReleased⟩

/-- Sanitising brings every text into a usable form and keeps what is usable. The fallback of the
second time does not matter, because nothing is empty then. -/
theorem sanitize_normalises (text again : String) (hFallback : IsPlain fallback.toList) :
    IsUsable (sanitize text fallback) ∧
      sanitize (sanitize text fallback) again = sanitize text fallback ∧
      (sanitize text fallback = text ↔ IsUsable text) ∧
      (text ≠ "" → Bears (sanitize text fallback) text) := by
  have hUsable := isUsable_sanitize text hFallback
  refine ⟨hUsable, hUsable.sanitize_eq again, ⟨fun hSame => ?_, fun hText => ?_⟩, fun hText => ?_⟩
  · rwa [hSame] at hUsable
  · exact hText.sanitize_eq fallback
  · exact bears_sanitize hText fallback

/-- Both fallbacks of the library are identifiers. A reserved word gets an underscore more than it
has, and an empty text becomes the fallback. -/
theorem sanitize_normalises_helperName :
    IsPlain "route".toList ∧ IsPlain "param".toList ∧
      sanitize "__all__" "route" = "__all___" ∧ IsUsable "__all___" ∧
      sanitize "__all___" "param" = "__all___" ∧
      sanitize "" "param" = "param" ∧ sanitize "param" "route" = "param" := by
  have hRoute : IsPlain "route".toList := by decide
  have hParam : IsPlain "param".toList := by decide
  have hAll : sanitize "__all__" "route" = "__all___" := by decide
  have hEmpty : sanitize "" "param" = "param" := by decide
  obtain ⟨hUsable, hSame, -⟩ := sanitize_normalises "__all__" "param" hRoute
  obtain ⟨-, hFallback, -⟩ := sanitize_normalises "" "route" hParam
  rw [hAll] at hUsable hSame
  rw [hEmpty] at hFallback
  exact ⟨hRoute, hParam, hAll, hUsable, hSame, hEmpty, hFallback⟩

example : ¬ IsUsable "2fa" ∧ IsUsable "route_2fa" ∧ sanitize "2fa" "route" = "route_2fa" := by
  decide

end RoutePaths.Name
