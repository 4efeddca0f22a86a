import LineCommands.Output.Format
import LineCommands.Proofs.Binding.Typing
import LineCommands.Proofs.Dispatch.Course
import LineCommands.Proofs.Outcome
import LineCommands.Proofs.Template.Rendering

/-!
# Every result of a line has a page

A page asks that every value in the table of bindings has a type, and that every name in it is
well-formed markup. The bindings of a line that succeeded are like this: a value has the type that
its definition declares, and the names come out of a template, which leaves no room for a bracket.
So a result of a line that can be written as JSON can be shown on a page as well.
-/

namespace LineCommands

open Text

/-! ## Names without tags -/

namespace Output.Markup

theorem pieces_of_notMem {position : Nat} {run cs : List Char} (h : '[' ∉ cs) :
    pieces position run cs = [.text (run ++ cs)] := by
  induction cs generalizing position run with
  | nil => rw [pieces, List.append_nil]
  | cons c cs ih =>
    obtain ⟨hc, hcs⟩ := not_or.mp (List.mem_cons.not.mp h)
    rw [pieces, if_neg (Ne.symm hc), ih hcs, List.append_assoc, List.singleton_append]

theorem exists_render_of_notMem {markup : String} (h : '[' ∉ markup.toList) :
    ∃ s, render markup = .ok s := by
  rw [render, pieces_of_notMem h]
  exact ⟨_, rfl⟩

end Output.Markup

theorem exists_mapM_of_forall {ε α β : Type} {f : α → Except ε β} {xs : List α}
    (h : ∀ x ∈ xs, ∃ y, f x = .ok y) : ∃ ys, xs.mapM f = .ok ys := by
  induction xs with
  | nil => exact ⟨[], rfl⟩
  | cons x xs ih =>
    obtain ⟨hx, hxs⟩ := List.forall_mem_cons.mp h
    obtain ⟨y, hy⟩ := hx
    obtain ⟨ys, hys⟩ := ih hxs
    rw [List.mapM_cons, hy, hys]
    exact ⟨y :: ys, rfl⟩

/-! ## The table of bindings -/

namespace Result

open Output

theorem exists_renderNames {names : List String} (h : ∀ name ∈ names, '[' ∉ name.toList) :
    ∃ ss, renderNames names = .ok ss := by
  obtain ⟨ss, hss⟩ := exists_mapM_of_forall fun name hname ↦
    Markup.exists_render_of_notMem (h name hname)
  rw [renderNames, hss]
  exact ⟨ss, rfl⟩

theorem exists_bindingRows {bindings : Bindings}
    (h : ∀ p ∈ bindings, ∃ type, p.2.typeName = .ok type) :
    ∃ rows, bindingRows bindings = .ok rows ∧ rows.map (·.1) = bindings.names.map ("  " ++ ·) := by
  induction bindings with
  | nil => exact ⟨[], rfl, rfl⟩
  | cons p bindings ih =>
    obtain ⟨hp, hbindings⟩ := List.forall_mem_cons.mp h
    obtain ⟨type, htype⟩ := hp
    obtain ⟨rows, hrows, hnames⟩ := ih hbindings
    refine ⟨("  " ++ p.1, type, p.2.compact) :: rows, ?_, congrArg _ hnames⟩
    rw [bindingRows, htype, hrows]
    rfl

theorem exists_bindingTable {bindings : Bindings}
    (htypes : ∀ p ∈ bindings, ∃ type, p.2.typeName = .ok type)
    (hnames : ∀ p ∈ bindings, '[' ∉ p.1.toList) :
    ∃ lines, bindingTable bindings = .ok lines := by
  obtain ⟨rows, hrows, hrowNames⟩ := exists_bindingRows htypes
  have hmarkup : ∀ name ∈ rows.map (·.1), '[' ∉ name.toList := by
    intro name hname
    rw [hrowNames, Fields.names, List.map_map] at hname
    obtain ⟨p, hp, rfl⟩ := List.mem_map.mp hname
    simpa using hnames p hp
  obtain ⟨ss, hss⟩ := exists_renderNames hmarkup
  exact ⟨_, bind_eq_ok.mpr ⟨rows, hrows, bind_eq_ok.mpr ⟨ss, hss, rfl⟩⟩⟩

theorem exists_runPage {r : Result} {bindings : Bindings}
    (hbindings : Fields.get? "bindings" r.data = some (.record bindings))
    (htypes : ∀ p ∈ bindings, ∃ type, p.2.typeName = .ok type)
    (hnames : ∀ p ∈ bindings, '[' ∉ p.1.toList) (verbose : Bool) :
    ∃ lines, r.runPage verbose = .ok lines := by
  have htable : ∃ lines, bindingLines (.record bindings) = .ok lines := by
    rw [bindingLines]
    split
    · exact ⟨[], rfl⟩
    · exact exists_bindingTable htypes hnames
  obtain ⟨lines, hlines⟩ := htable
  rw [runPage, hbindings]
  exact ⟨_, bind_eq_ok.mpr ⟨lines, hlines, rfl⟩⟩

theorem exists_page_of_pageLines {r : Result} {verbose : Bool} {lines : List String}
    (h : r.pageLines verbose = .ok lines) : ∃ text, r.page verbose = .ok text :=
  ⟨_, bind_eq_ok.mpr ⟨lines, h, rfl⟩⟩

end Result

/-! ## Results of lines -/

/-- The names that a compiled template binds leave no room for a bracket. -/
theorem Template.notMem_name_of_mem_bindings {source : String} {ds : Template}
    (hcompile : compile source = .ok ds) {tokens : List String} {b : Bound}
    (hbind : ds.bind tokens = .ok b) : ∀ p ∈ b.bindings, '[' ∉ p.1.toList := by
  rintro ⟨name, v⟩ hp hbracket
  obtain ⟨before, d, after, -, hds, rfl, -⟩ := exists_types_of_mem_bindings hbind hp
  have hrun := (valid_of_compile hcompile before d after hds).name_run _ hbracket
  exact absurd hrun (by decide)

theorem Template.exists_typeName_of_mem_bindings {ds : Template} {tokens : List String} {b : Bound}
    (hbind : ds.bind tokens = .ok b) : ∀ p ∈ b.bindings, ∃ type, p.2.typeName = .ok type := by
  rintro ⟨name, v⟩ hp
  obtain ⟨_, _, _, _, -, -, -, -, htypes⟩ := exists_types_of_mem_bindings hbind hp
  exact htypes.exists_typeName

namespace Dispatch

/-- **Pages.** Every result of a line has a page. -/
theorem exists_page_of_ends {registry : Registry} {warnTrailing : Bool} {line : String} {r : Result}
    {calls : List Call} (h : Ends registry warnTrailing line (.ok r) calls) (verbose : Bool) :
    ∃ text, r.page verbose = .ok text := by
  cases h with
  | success hline hcompile hbind haction =>
    obtain ⟨lines, hlines⟩ := Result.exists_runPage (r := success _ _ _ _ _ _) rfl
      (Template.exists_typeName_of_mem_bindings hbind)
      (Template.notMem_name_of_mem_bindings hcompile hbind) verbose
    exact Result.exists_page_of_pageLines hlines
  | _ => exact Result.exists_page_of_pageLines rfl

/-- **Types.** A bound name has a value of the type that the last definition of the name declares,
where the size of an array is evaluated after the definitions before it. So the values that a
success reports have types, and it can be shown on a page. -/
theorem bound_values_have_declared_types :
    (∀ ds tokens b, Template.bind ds tokens = .ok b → ∀ name v, (name, v) ∈ b.bindings →
      ∃ (before : Template) (d : Definition) (after : Template) (earlier : Bound),
        ds = before ++ d :: after ∧ d.name = name ∧ name ∉ after.map (·.name) ∧
        before.bind tokens = .ok earlier ∧ d.Types earlier.bindings v) ∧
    ∀ registry warnTrailing (memo : Memo Template) line r, memo.Sound Template.compile →
      (run registry warnTrailing memo line).outcome = .ok r → r.ok = true →
        ∃ bindings, Fields.get? "bindings" r.data = some (.record bindings) ∧
          (∀ name v, (name, v) ∈ bindings → ∃ type, v.typeName = .ok type) ∧
          ∀ verbose, ∃ text, r.page verbose = .ok text := by
  refine ⟨fun ds tokens b hb name v hmem ↦ Template.exists_types_of_mem_bindings hb hmem, ?_⟩
  intro registry warnTrailing memo line r hmemo hrun hok
  have hends := ends_run hmemo registry warnTrailing line
  rw [hrun] at hends
  have hpages := exists_page_of_ends hends
  generalize (run registry warnTrailing memo line).calls = calls at hends
  cases hends with
  | success hline hcompile hbind haction =>
    have htypes := Template.exists_typeName_of_mem_bindings hbind
    exact ⟨_, rfl, fun name v hmem ↦ htypes (name, v) hmem, hpages⟩
  | _ => cases hok

theorem bound_values_have_declared_types_again :
    (∃ (ds before after : Template) (d : Definition) (b earlier : Bound),
      ds = [⟨"xs", .simple .string⟩, ⟨"n", .simple .int⟩, ⟨"xs", .array "n" (some .char)⟩] ∧
      ds.bind ["a", "2", "b", "c"] = .ok b ∧
      ("xs", .list [.char 'b', .char 'c']) ∈ b.bindings ∧
      ds = before ++ d :: after ∧ d.name = "xs" ∧ "xs" ∉ after.map (·.name) ∧
      before.bind ["a", "2", "b", "c"] = .ok earlier ∧
      d.Types earlier.bindings (.list [.char 'b', .char 'c'])) ∧
    ∃ r, (run (.add .empty ⟨"s", "", "&string x &int x", .builtin .echo⟩) true .empty
        "s:a 2").outcome = .ok r ∧
      r.ok = true ∧ Fields.get? "bindings" r.data = some (.record [("x", .int 2)]) ∧
      ∃ text, r.page true = .ok text := by
  constructor
  · obtain ⟨ds, hds⟩ : ∃ ds : Template, ds = [⟨"xs", .simple .string⟩, ⟨"n", .simple .int⟩,
      ⟨"xs", .array "n" (some .char)⟩] := ⟨_, rfl⟩
    obtain ⟨b, hb, hmem⟩ : ∃ b, ds.bind ["a", "2", "b", "c"] = .ok b ∧
        ("xs", .list [.char 'b', .char 'c']) ∈ b.bindings := by
      rw [hds]
      exact ⟨_, by cbv, .head _⟩
    obtain ⟨before, d, after, earlier, htypes⟩ :=
      bound_values_have_declared_types.1 ds _ b hb _ _ hmem
    exact ⟨ds, before, after, d, b, earlier, hds, hb, hmem, htypes⟩
  · obtain ⟨r, hr, hok, hbindings⟩ :
        ∃ r, (run (.add .empty ⟨"s", "", "&string x &int x", .builtin .echo⟩) true .empty
            "s:a 2").outcome = .ok r ∧
          r.ok = true ∧ Fields.get? "bindings" r.data = some (.record [("x", .int 2)]) :=
      ⟨_, by cbv, rfl, rfl⟩
    obtain ⟨_, -, -, hpages⟩ := bound_values_have_declared_types.2 _ true .empty _ r
      (Memo.sound_empty _) hr hok
    exact ⟨r, hr, hok, hbindings, hpages true⟩

end Dispatch

end LineCommands
