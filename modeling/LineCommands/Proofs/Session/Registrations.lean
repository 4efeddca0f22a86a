import Mathlib.Data.Finset.Card
import LineCommands.Proofs.Fields
import LineCommands.Proofs.Session.Statelessness

/-!
# What a registry amounts to

Commands are registered one after the other, in one of three ways, and looked up in between. What
the lookups answer is said by the list of the registrations alone: a keyword stands for the command
that was registered last under it, and the commands are listed in the order in which their keywords
were first registered. The registry replaces commands in place, so each registration is a write to
fields that are named by keywords, and the list of registrations is their history.
-/

namespace LineCommands

/-! ## The last command with a keyword -/

/-- The last of the commands with this keyword. -/
def Command.last? (cs : List Command) (keyword : String) : Option Command :=
  cs.reverse.find? (·.keyword == keyword)

theorem Command.last?_eq_some_iff {cs : List Command} {keyword : String} {c : Command} :
    last? cs keyword = some c ↔ c.keyword = keyword ∧
      ∃ before after, cs = before ++ c :: after ∧ ∀ d ∈ after, d.keyword ≠ keyword := by
  rw [last?, List.find?_eq_some_iff_append, beq_iff_eq]
  refine and_congr_right fun _ ↦ ⟨?_, ?_⟩
  · rintro ⟨after, before, hcs, hafter⟩
    refine ⟨before.reverse, after.reverse, ?_, fun d hd ↦ ?_⟩
    · rw [← List.reverse_reverse cs, hcs, List.reverse_append, List.reverse_cons, List.append_assoc,
        List.singleton_append]
    · simpa using hafter d (List.mem_reverse.mp hd)
  · rintro ⟨before, after, rfl, hafter⟩
    refine ⟨after.reverse, before.reverse, by simp, fun d hd ↦ ?_⟩
    simpa using hafter d (List.mem_reverse.mp hd)

theorem Command.last?_eq_none_iff {cs : List Command} {keyword : String} :
    last? cs keyword = none ↔ keyword ∉ cs.map (·.keyword) := by
  simp [last?]

namespace Registry

/-! ## A registry as fields -/

/-- A command under its keyword. -/
def entry (c : Command) : String × Command := (c.keyword, c)

/-- The commands under their keywords. -/
def entries (r : Registry) : Fields Command := r.commands.map entry

theorem commands_eq (r : Registry) : r.commands = r.entries.values := by
  rw [entries, Fields.values, List.map_map]
  exact (List.map_id _).symm

theorem names_entries (r : Registry) : r.entries.names = r.commands.map (·.keyword) :=
  List.map_map

theorem get?_entries (r : Registry) (keyword : String) :
    r.entries.get? keyword = r.get? keyword := by
  rw [entries, get?]
  induction r.commands with
  | nil => rfl
  | cons c cs ih =>
    rw [List.map_cons, List.find?_cons]
    by_cases hc : c.keyword = keyword
    · rw [beq_iff_eq.mpr hc]
      exact if_pos hc
    · rw [beq_eq_false_iff_ne.mpr hc]
      exact (if_neg hc).trans ih

/-- A command is stored under its own keyword, and what is stored can be looked up. -/
theorem get?_eq_some_iff {r : Registry} {keyword : String} {c : Command} :
    r.get? keyword = some c ↔ c ∈ r.commands ∧ c.keyword = keyword := by
  rw [← get?_entries]
  constructor
  · intro h
    obtain ⟨d, hd, hentry⟩ := List.mem_map.mp (Fields.mem_of_get? h)
    obtain ⟨hkeyword, rfl⟩ := Prod.mk.inj hentry
    exact ⟨hd, hkeyword⟩
  · rintro ⟨hc, rfl⟩
    have hnodup : r.entries.names.Nodup := by
      rw [names_entries]
      exact r.nodup
    exact Fields.get?_of_mem hnodup (List.mem_map_of_mem hc)

theorem entries_add (r : Registry) (c : Command) :
    (r.add c).entries = r.entries.set c.keyword c := by
  change (putCommand c r.commands).map entry = Fields.set c.keyword c (r.commands.map entry)
  induction r.commands with
  | nil => rfl
  | cons d cs ih =>
    rw [putCommand, List.map_cons, entry, Fields.set]
    split
    · next hd => rw [List.map_cons, entry, hd]
    · rw [List.map_cons, ih, entry]

/-- Registered one after the other, commands are a history of writes. -/
theorem entries_foldl_add (cs : List Command) :
    (cs.foldl add empty).entries = Fields.latest (cs.map entry) := by
  induction cs using List.reverseRecOn with
  | nil => rfl
  | append_singleton cs c ih =>
    rw [List.foldl_append, List.foldl_cons, List.foldl_nil, entries_add, ih, List.map_append,
      List.map_singleton]
    exact (Fields.latest_concat _ c.keyword c).symm

/-! ## What is looked up -/

section Lookup

variable (cs : List Command)

theorem get?_foldl_add (keyword : String) :
    (cs.foldl add empty).get? keyword = Command.last? cs keyword := by
  rw [← get?_entries, entries_foldl_add, Fields.get?_latest_map]
  exact Option.map_id_apply

theorem keywords_foldl_add :
    (cs.foldl add empty).commands.map (·.keyword) = (cs.map (·.keyword)).eraseDups := by
  rw [← names_entries, entries_foldl_add]
  exact Fields.names_latest_map entry cs

theorem commands_foldl_add :
    (cs.foldl add empty).commands
      = (cs.map (·.keyword)).eraseDups.filterMap (Command.last? cs) := by
  rw [commands_eq, entries_foldl_add, Fields.values_latest_map]
  exact List.filterMap_congr fun _ _ ↦ Option.map_id_apply

/-- A command that takes the keyword of another one takes its place too. -/
example : (([⟨"b", "", "", .builtin .echo⟩, ⟨"a", "", "", .builtin .sum⟩,
      ⟨"b", "again", "", .builtin .count⟩].foldl add empty).commands.map fun c ↦
        (c.keyword, c.description)) = [("b", "again"), ("a", "")] := by decide

theorem contains_foldl_add (keyword : String) :
    (cs.foldl add empty).contains keyword = decide (keyword ∈ cs.map (·.keyword)) := by
  rw [contains, get?_foldl_add, Bool.eq_iff_iff, decide_eq_true_iff, ← not_iff_not,
    ← Command.last?_eq_none_iff, Option.not_isSome_iff_eq_none]

theorem size_foldl_add :
    (cs.foldl add empty).size = (cs.map (·.keyword)).toFinset.card := by
  rw [size, ← List.length_map (·.keyword), keywords_foldl_add,
    ← List.toFinset_card_of_nodup (nodup_eraseDups _)]
  congr 1
  ext keyword
  rw [List.mem_toFinset, List.mem_toFinset, List.mem_eraseDups]

end Lookup

/-- No keyword is listed twice, so the order is strict. -/
theorem pairwise_keywords (r : Registry) : r.keywords.Pairwise (· < ·) := by
  have hle : r.keywords.Pairwise (· ≤ ·) := List.pairwise_mergeSort' (· ≤ ·) _
  have hne : r.keywords.Nodup := (List.mergeSort_perm _ _).nodup_iff.mpr r.nodup
  exact (hle.and hne).imp fun h ↦ lt_of_le_of_ne h.1 h.2

theorem mem_keywords (r : Registry) (keyword : String) :
    keyword ∈ r.keywords ↔ keyword ∈ r.commands.map (·.keyword) :=
  (List.mergeSort_perm _ _).mem_iff

end Registry

namespace Session

/-! ## Sessions -/

/-- What is asked of a session: to register a command, in one of three ways, or anything else. -/
inductive Event where
  /-- A command is registered as it is. -/
  | add (command : Command)
  /-- A command is made of its parts. -/
  | register (keyword description template : String) (action : Action)
  /-- A command is made of a function with its documentation. -/
  | decorate (keyword template description : String) (doc : Option String) (action : Action)
  | other (step : Step)

/-- The step that does what is asked. -/
def Event.step : Event → Step
  | .add c => .add c
  | .register keyword description template action => .add ⟨keyword, description, template, action⟩
  | .decorate keyword template description doc action =>
    .add (.ofDocumented keyword template description doc action)
  | .other step => step

/-- The lookups of a session answer what the list of the registered commands says, and leave the
session as it is. -/
structure Reflects (s : Session) (cs : List Command) : Prop where
  /-- A keyword stands for the last command that was registered under it. -/
  get : ∀ k, s.perform (.get k) = s.lookUp (.command (Command.last? cs k))
  contains : ∀ k, s.perform (.contains k) = s.lookUp (.truth (decide (k ∈ cs.map (·.keyword))))
  size : s.perform .size = s.lookUp (.number (cs.map (·.keyword)).toFinset.card)
  /-- Each keyword is listed once; strings are compared by their code points. -/
  keywords : ∃ ks, s.perform .keywords = s.lookUp (.keywords ks) ∧ ks.Pairwise (· < ·) ∧
    ∀ k, k ∈ ks ↔ k ∈ cs.map (·.keyword)
  /-- The last commands of the keywords, in the order of their first registrations. -/
  list : s.perform .list = s.lookUp
    (.commands ((cs.map (·.keyword)).eraseDups.filterMap (Command.last? cs)))
  /-- Behind the registration of the command that is found there is no other under the keyword. -/
  last : ∀ k c, s.registry.get? k = some c ↔ c.keyword = k ∧
    ∃ before after, cs = before ++ c :: after ∧ ∀ d ∈ after, d.keyword ≠ k
  /-- A command is stored under its own keyword. -/
  keyed : ∀ k c, s.registry.get? k = some c ↔ c ∈ s.registry.commands ∧ c.keyword = k

theorem reflects_of_registry {s : Session} {cs : List Command}
    (h : s.registry = cs.foldl Registry.add .empty) : Reflects s cs where
  get k := by rw [perform, h, Registry.get?_foldl_add]
  contains k := by rw [perform, h, Registry.contains_foldl_add]
  size := by rw [perform, h, Registry.size_foldl_add]
  keywords := by
    refine ⟨s.registry.keywords, rfl, s.registry.pairwise_keywords, fun k ↦ ?_⟩
    rw [Registry.mem_keywords, h, Registry.keywords_foldl_add, List.mem_eraseDups]
  list := by rw [perform, h, Registry.commands_foldl_add]
  last k c := by rw [h, Registry.get?_foldl_add, Command.last?_eq_some_iff]
  keyed _ _ := Registry.get?_eq_some_iff

/-- **Registrations.** After any history, in which commands are registered in all three ways and
lines are run, templates compiled and commands looked up in between, the five lookups agree on one
map: the last command of each registered keyword, in the order in which the keywords were first
registered. -/
theorem lookups_reflect_registrations (warnTrailing : Bool) (events : List Event) :
    Reflects ((start warnTrailing).afterAll (events.map Event.step))
      ((events.map Event.step).filterMap Step.command?) :=
  reflects_of_registry (registry_afterAll _ _)

end Session

end LineCommands
