import LineCommands.Text.Blank
import LineCommands.Text.WordChar

/-!
# Entries of templates

A template is a text with entries in it: `&`, a type, a clause in angle brackets that may be
missing, blanks, and a name. Everything else is prose and is passed over, an ampersand that begins
no entry included. The pieces of an entry are maximal runs of characters of disjoint classes, so at
every ampersand there is at most one way to read an entry, and reading needs no second attempt.
-/

namespace LineCommands

/-- An entry as it is written, before its type and clause are looked at. -/
structure Entry where
  type : String
  clause : Option String
  name : String
deriving DecidableEq, Repr

namespace Entry

/-- A clause at the front: what stands between the brackets, at least one character, and what
follows. A text without an opening bracket at its front has no clause and is left as it is; an
opening bracket without a proper clause spoils the entry. -/
def readClause? : List Char → Option (Option (List Char) × List Char)
  | '<' :: cs =>
    let inner := cs.takeWhile (· != '>')
    match cs.drop inner.length with
    | '>' :: rest => if inner.isEmpty then none else some (some inner, rest)
    | _ => none
  | cs => some (none, cs)

/-- The entry whose ampersand has just been passed, and what follows it. -/
def read? (cs : List Char) : Option (Entry × List Char) :=
  let type := cs.takeWhile Text.isWordChar
  match readClause? (cs.drop type.length) with
  | none => none
  | some (clause, rest) =>
    let gap := rest.takeWhile Text.isBlank
    let after := rest.drop gap.length
    let name := after.takeWhile Text.isPlainWordChar
    if type.isEmpty || gap.isEmpty || name.isEmpty then none
    else some (⟨String.ofList type, clause.map String.ofList, String.ofList name⟩,
      after.drop name.length)

theorem length_le_of_readClause? {cs rest : List Char} {clause : Option (List Char)}
    (h : readClause? cs = some (clause, rest)) : rest.length ≤ cs.length := by
  unfold readClause? at h
  split at h
  · next cs =>
    simp only at h
    split at h
    · next rest' hr =>
      split at h
      · simp at h
      · simp only [Option.some.injEq, Prod.mk.injEq] at h
        obtain ⟨-, rfl⟩ := h
        have hl := congrArg List.length hr
        simp only [List.length_drop, List.length_cons] at hl ⊢
        omega
    · simp at h
  · simp only [Option.some.injEq, Prod.mk.injEq] at h
    exact h.2 ▸ Nat.le_refl _

theorem length_le_of_read? {cs rest : List Char} {e : Entry} (h : read? cs = some (e, rest)) :
    rest.length ≤ cs.length := by
  simp only [read?] at h
  split at h
  · simp at h
  · next clause r hc =>
    have h₁ := length_le_of_readClause? hc
    split at h
    · simp at h
    · simp only [Option.some.injEq, Prod.mk.injEq] at h
      obtain ⟨-, rfl⟩ := h
      simp only [List.length_drop] at h₁ ⊢
      omega

end Entry

/-- The entries of a template, from left to right. -/
def entriesFrom (cs : List Char) : List Entry :=
  match cs with
  | [] => []
  | c :: rest =>
    if c = '&' then
      match _h : Entry.read? rest with
      | some (e, after) => e :: entriesFrom after
      | none => entriesFrom rest
    else entriesFrom rest
termination_by cs.length
decreasing_by
  · have := Entry.length_le_of_read? _h
    simp only [List.length_cons]
    omega
  · simp
  · simp

/-- The entries of a template, from left to right. -/
def entries (template : String) : List Entry := entriesFrom template.toList

end LineCommands
