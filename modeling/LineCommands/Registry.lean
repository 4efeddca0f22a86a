import LineCommands.Action
import LineCommands.Log
import LineCommands.Text.Blank
import LineCommands.Text.Quoted

/-!
# Commands and the registry

A registry holds commands in the order in which their keywords were first registered. Registering a
keyword again replaces its command in place. That no two commands share a keyword is part of the
type, so the registry is at once a finite map from keywords and the list of its commands.
-/

namespace LineCommands

/-- A command. -/
structure Command where
  /-- The word before the separator of an input line. -/
  keyword : String
  description : String
  /-- What the arguments of the command are. -/
  template : String
  action : Action

/-- Puts a command in the place of the one with its keyword, or at the end. -/
def putCommand (c : Command) : List Command → List Command
  | [] => [c]
  | d :: rest => if d.keyword = c.keyword then c :: rest else d :: putCommand c rest

theorem keywords_putCommand (c : Command) (cs : List Command) :
    (putCommand c cs).map (·.keyword)
      = if c.keyword ∈ cs.map (·.keyword) then cs.map (·.keyword)
        else cs.map (·.keyword) ++ [c.keyword] := by
  induction cs with
  | nil => simp [putCommand]
  | cons d rest ih =>
    by_cases hd : d.keyword = c.keyword
    · simp [putCommand, hd]
    · by_cases hm : c.keyword ∈ rest.map (·.keyword)
      · simp only [hm, if_true] at ih
        simp only [List.mem_map] at hm
        simp [putCommand, hd, Ne.symm hd, hm, ih]
      · simp only [hm, if_false] at ih
        simp only [List.mem_map] at hm
        simp [putCommand, hd, Ne.symm hd, hm, ih]

/-- Commands by keyword. -/
structure Registry where
  /-- The commands, in order of first registration. -/
  commands : List Command
  /-- No two commands share a keyword. -/
  nodup : (commands.map (·.keyword)).Nodup

namespace Registry

/-- The registry without commands. -/
def empty : Registry := ⟨[], by simp⟩

instance : Inhabited Registry := ⟨empty⟩

/-- Registers a command, replacing the one with its keyword. -/
def add (r : Registry) (c : Command) : Registry where
  commands := putCommand c r.commands
  nodup := by
    rw [keywords_putCommand]
    split
    · exact r.nodup
    · next hm =>
      rw [List.nodup_append]
      refine ⟨r.nodup, by simp, fun a ha b hb ↦ ?_⟩
      rw [List.mem_singleton] at hb
      subst hb
      exact fun e ↦ hm (e ▸ ha)

/-- The command of this keyword. -/
def get? (r : Registry) (keyword : String) : Option Command :=
  r.commands.find? (·.keyword == keyword)

/-- A command has this keyword. -/
def contains (r : Registry) (keyword : String) : Bool := (r.get? keyword).isSome

/-- The keywords in alphabetical order. -/
def keywords (r : Registry) : List String := (r.commands.map (·.keyword)).mergeSort (· ≤ ·)

/-- The number of commands. -/
def size (r : Registry) : Nat := r.commands.length

/-- What registering a command logs. -/
def addRecords (r : Registry) (c : Command) : List Log.Record :=
  if r.contains c.keyword then
    [⟨.debug, .registry, s!"Replacing command {Text.quoted c.keyword}"⟩]
  else []

end Registry

/-- The command that a documented function makes: without a description of its own it takes the
first line of the documentation. -/
def Command.ofDocumented (keyword template description : String) (doc : Option String)
    (action : Action) : Command where
  keyword := keyword
  description :=
    if description.isEmpty then
      String.ofList ((Text.trim (doc.getD "").toList).takeWhile (· != '\n'))
    else description
  template := template
  action := action

end LineCommands
