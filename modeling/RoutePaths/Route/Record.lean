import RoutePaths.Route
import RoutePaths.Value.Field

/-! Routes given as records. A record is checked field by field, and all
faults are reported together, each with the place where it was found. -/
namespace RoutePaths

namespace Segment

/-- Reads a segment. Its kind says which fields it has. -/
def ofRecord (path : List String) (record : Value) : Except Value.Faults Segment :=
  match record with
  | .map _ =>
    match record.get? "kind" with
    | none => .error [⟨path, .noKind⟩]
    | some (.text "literal") =>
      (Value.fieldAt (path ++ ["literal"]) record "text" Value.textAt none).map .literal
    | some (.text "dynamic") =>
      let inside := path ++ ["dynamic"]
      match Value.fieldAt inside record "name" Value.textAt none,
          Value.fieldAt inside record "optional" Value.boolAt (some false),
          Value.fieldAt inside record "separator" Value.textAt (some "/") with
      | .ok name, .ok optional, .ok separator => .ok (.dynamic name optional separator)
      | name, optional, separator =>
        .error (Value.faultsOf name ++ Value.faultsOf optional ++ Value.faultsOf separator)
    | some _ => .error [⟨path, .unknownKind⟩]
  | _ => .error [⟨path, .notRecord⟩]

/-- Reads segments, from the one with the given number on. -/
def ofRecords (path : List String) (number : Nat) : List Value → Except Value.Faults (List Segment)
  | [] => .ok []
  | record :: rest =>
    match ofRecord (path ++ [toString number]) record, ofRecords path (number + 1) rest with
    | .ok segment, .ok segments => .ok (segment :: segments)
    | first, others => .error (Value.faultsOf first ++ Value.faultsOf others)

end Segment

namespace Route

/-- The segments of a record. -/
def segmentsAt (path : List String) : Value → Except Value.Faults (List Segment)
  | .list records => Segment.ofRecords path 0 records
  | _ => .error [⟨path, .notList⟩]

/-- A name has at least one character. -/
def nameAt (path : List String) (value : Value) : Except Value.Faults String :=
  match value.textAt path with
  | .ok "" => .error [⟨path, .tooShort⟩]
  | result => result

/-- Reads a route. The template is not read again, so the segments may say
something else than the URI. -/
def ofRecord (record : Value) : Except Value.Faults Route :=
  let name := Value.fieldAt [] record "name" nameAt none
  let verb := Value.fieldAt [] record "verb" Value.textAt (some "")
  let uri := Value.fieldAt [] record "uri" Value.textAt (some "/")
  let segments := Value.fieldAt [] record "segments" segmentsAt (some [])
  let action := Value.fieldAt [] record "controller_action" Value.textAt (some "")
  let line := Value.fieldAt [] record "line_number" Value.intAt (some 0)
  let inherited := Value.fieldAt [] record "inherited_name" Value.boolAt (some false)
  match name, verb, uri, segments, action, line, inherited with
  | .ok name, .ok verb, .ok uri, .ok segments, .ok action, .ok line, .ok inherited =>
    .ok ⟨name, verb, uri, segments, action, line, inherited⟩
  | _, _, _, _, _, _, _ =>
    .error (Value.faultsOf name ++ Value.faultsOf verb ++ Value.faultsOf uri ++
      Value.faultsOf segments ++ Value.faultsOf action ++ Value.faultsOf line ++
      Value.faultsOf inherited)

end Route

end RoutePaths
