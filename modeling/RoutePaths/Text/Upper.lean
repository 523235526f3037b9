import RoutePaths.Text.UpperTable

/-! The upper-case form of a text. A character may become more than one, and
no character's form depends on its neighbours. -/
namespace RoutePaths.Text

/-- The code point is one of the run. -/
def CaseRun.contains (run : CaseRun) (point : Nat) : Bool :=
  run.first ≤ point && point ≤ run.last && (point - run.first) % run.step == 0

/-- The upper-case form of a character. The tables are only searched
outside ASCII, where they agree with the core library. -/
def upperChar (c : Char) : List Char :=
  if c.toNat < 0x80 then [c.toUpper]
  else
    match upperExpansions.lookup c.toNat with
    | some points => points.map Char.ofNat
    | none =>
      match upperRuns.find? (·.contains c.toNat) with
      | some run => [Char.ofNat (c.toNat + run.distance).toNat]
      | none => [c]

/-- The upper-case form of a text. -/
def upper (text : List Char) : List Char :=
  text.flatMap upperChar

end RoutePaths.Text
