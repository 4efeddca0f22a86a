import LineCommands.Proofs.Dispatch.Course

/-!
# One record a dispatch

Whatever else is logged on the way, the dispatcher itself leaves one record of a line that has a
result: that it ran, or that it failed. What this record says does not depend on the memo, so the
dispatches that were made can be counted in a log.
-/

namespace LineCommands

/-- The records that the dispatcher left itself. -/
def Log.ofDispatcher (records : List Log.Record) : List Log.Record :=
  records.filter (·.source == .dispatcher)

namespace Log

@[simp] theorem ofDispatcher_append (records more : List Record) :
    ofDispatcher (records ++ more) = ofDispatcher records ++ ofDispatcher more :=
  List.filter_append _ _

theorem ofDispatcher_eq_nil {records : List Record} (h : ∀ r ∈ records, r.source ≠ .dispatcher) :
    ofDispatcher records = [] :=
  List.filter_eq_nil_iff.mpr fun r hr ↦ by simpa using h r hr

end Log

open Log

/-! ## Compiling and binding -/

theorem source_of_mem_compileRecords {source : String} {r : Record}
    (h : r ∈ Template.compileRecords source) : r.source = .template := by
  rcases List.mem_append.mp h with h | h
  · obtain ⟨name, -, rfl⟩ := List.mem_map.mp h
    rfl
  · cases hcompile : Template.compile source with
    | error f => rw [hcompile] at h; cases h
    | ok ds =>
      rw [hcompile] at h
      obtain rfl := List.mem_singleton.mp h
      rfl

@[simp] theorem Memo.ofDispatcher_compile (memo : Memo Template) (source : String) :
    ofDispatcher (memo.compile source).records = [] := by
  have hrecords : ofDispatcher (Template.compileRecords source) = [] :=
    ofDispatcher_eq_nil fun r hr ↦ by rw [source_of_mem_compileRecords hr]; decide
  rw [Memo.compile]
  cases memo.find? source with
  | some ds => rfl
  | none =>
    cases Template.compile source with
    | ok ds => exact hrecords
    | error f => exact hrecords

theorem source_of_mem_takeRecords {d : Definition} {bound : Bindings} {r : Record}
    (h : r ∈ d.takeRecords bound) : r.source = .expression := by
  obtain ⟨name, kind⟩ := d
  cases kind with
  | simple type => cases h
  | array size element =>
    simp only [Definition.takeRecords, Size.records] at h
    split at h
    · cases h
    · split at h
      · cases h
      · obtain rfl := List.mem_singleton.mp h
        rfl

theorem source_of_mem_trailingRecords {b : Bound} {r : Record} (h : r ∈ b.trailingRecords) :
    r.source = .binder := by
  rw [Bound.trailingRecords] at h
  split at h
  · cases h
  · obtain rfl := List.mem_singleton.mp h
    rfl

theorem Template.ofDispatcher_bindRecordsFrom (bound : Bindings) (consumed : Nat) (ds : Template)
    (tokens : List String) : ofDispatcher (bindRecordsFrom bound consumed ds tokens) = [] := by
  induction ds generalizing bound consumed tokens with
  | nil =>
    exact ofDispatcher_eq_nil fun r hr ↦ by rw [source_of_mem_trailingRecords hr]; decide
  | cons d ds ih =>
    have htake : ofDispatcher (d.takeRecords bound) = [] :=
      ofDispatcher_eq_nil fun r hr ↦ by rw [source_of_mem_takeRecords hr]; decide
    rw [bindRecordsFrom, ofDispatcher_append, htake, List.nil_append]
    split
    · rfl
    · exact ih _ _ _

@[simp] theorem Template.ofDispatcher_bindRecords (ds : Template) (tokens : List String) :
    ofDispatcher (ds.bindRecords tokens) = [] :=
  ofDispatcher_bindRecordsFrom [] 0 ds tokens

/-! ## Dispatches -/

namespace Dispatch

@[simp] theorem ofDispatcher_failureRecord (line : String) (f : Fault) :
    ofDispatcher [failureRecord line f] = [failureRecord line f] := rfl

@[simp] theorem ofDispatcher_successRecord (keyword : String) (bindings : Bindings) :
    ofDispatcher [successRecord keyword bindings] = [successRecord keyword bindings] := rfl

variable {registry : Registry} {warnTrailing : Bool} {line : String}

/-- **One record.** The dispatcher leaves one record of a line that has a result, and the same one
with every memo. -/
theorem exists_ofDispatcher_run {r : Result} {calls : List Call}
    (h : Ends registry warnTrailing line (.ok r) calls) :
    ∃ record, ∀ memo : Memo Template, memo.Sound Template.compile →
      ofDispatcher (run registry warnTrailing memo line).records = [record] := by
  cases h with
  | format hline =>
    refine ⟨failureRecord line (.missingSeparator line), fun memo _ ↦ ?_⟩
    rw [run, splitLine_of_notMem hline]
    exact ofDispatcher_failureRecord _ _
  | @command keyword tokens hline hget =>
    refine ⟨failureRecord line (.unknownCommand keyword), fun memo _ ↦ ?_⟩
    rw [run, splitLine_of_splitsInto hline]
    simp only [hget]
    exact ofDispatcher_failureRecord _ _
  | @template c tokens f hline hcompile =>
    refine ⟨failureRecord line f, fun memo hmemo ↦ ?_⟩
    rw [run_of_addresses memo hline]
    simp only [runCommand, hmemo.outcome_compile, hcompile, ofDispatcher_append,
      Memo.ofDispatcher_compile, List.nil_append]
    exact ofDispatcher_failureRecord _ _
  | @binding c tokens ds f hline hcompile hbind =>
    refine ⟨failureRecord line f, fun memo hmemo ↦ ?_⟩
    rw [run_of_addresses memo hline]
    simp only [runCommand, hmemo.outcome_compile, hcompile, hbind, ofDispatcher_append,
      Memo.ofDispatcher_compile, Template.ofDispatcher_bindRecords, List.nil_append]
    exact ofDispatcher_failureRecord _ _
  | @success c tokens ds b output hline hcompile hbind haction =>
    refine ⟨successRecord c.keyword b.bindings, fun memo hmemo ↦ ?_⟩
    rw [run_of_addresses memo hline]
    simp only [runCommand, hmemo.outcome_compile, hcompile, hbind, haction, ofDispatcher_append,
      Memo.ofDispatcher_compile, Template.ofDispatcher_bindRecords, List.nil_append]
    exact ofDispatcher_successRecord _ _

end Dispatch

end LineCommands
