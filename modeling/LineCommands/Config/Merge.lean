import LineCommands.Value.Basic

/-!
# Merging tables

Settings come from several sources, each a table of its own. A stronger table is laid over a weaker
one leaf by leaf: where both have a table under a name, the two are merged in turn; otherwise the
stronger value stands. Names keep the position that they have in the weaker table.
-/

namespace LineCommands

mutual

/-- Lays fields over a weaker table. -/
def mergeFields (weak : Fields Value) : List (String × Value) → Fields Value
  | [] => weak
  | (name, v) :: rest => mergeFields (weak.set name (mergeValue (weak.get? name) v)) rest

/-- Lays a value over a weaker one. -/
def mergeValue (weak : Option Value) : Value → Value
  | .record fields =>
    match weak with
    | some (.record below) => .record (mergeFields below fields)
    | _ => .record fields
  | v => v

end

end LineCommands
