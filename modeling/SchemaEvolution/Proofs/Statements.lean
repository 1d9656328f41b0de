import SchemaEvolution.Sql.Dialect

/-!
# The text of a statement

A statement is rendered fragment by fragment, and a flag says whether a space is due before the next
one.  Two things can be read off the text whatever the dialect.

* `Dialect.head?_render`: with which character a statement begins.
* `Dialect.eq_of_render_text`: what stands at a place where two statements have a text literal and
  agree up to there.  The literal ends at its closing quote (`Quoting.eq_of_write_append`), since
  what follows it never begins with another one (`Dialect.head?_joinFrom_ne`).
-/

namespace SchemaEvolution

/-- Texts that begin with something in quotes begin with the same thing, and go on in the same way,
unless a further quote character follows at once. -/
theorem Quoting.eq_of_write_append {q : Char} {s s' : String} {rest rest' : List Char}
    (h : (write q s).toList ++ rest = (write q s').toList ++ rest')
    (hrest : rest.head? ≠ some q) (hrest' : rest'.head? ≠ some q) : s = s' ∧ rest = rest' := by
  have hread := read?_write q s rest hrest
  rw [h, read?_write q s' rest' hrest'] at hread
  obtain ⟨hs, hr⟩ := Prod.mk.inj (Option.some.inj hread)
  exact ⟨hs.symm, hr.symm⟩

/-! ## Fragments in sequence -/

namespace Statement

variable (render : Fragment → String)

/-- Whether no space is due after a statement, given whether none is due before it. -/
def gluedAfter : (glued : Bool) → Statement → Bool
  | glued, [] => glued
  | _, f :: fs => gluedAfter (f.gluesAfter (render f)) fs

theorem joinFrom_append (glued : Bool) (a b : Statement) :
    joinFrom render glued (a ++ b) =
      joinFrom render glued a ++ joinFrom render (gluedAfter render glued a) b := by
  induction a generalizing glued with
  | nil => simp [gluedAfter]
  | cons f fs ih =>
    rw [List.cons_append, joinFrom_cons, joinFrom_cons, gluedAfter, ih]
    simp only [String.append_assoc]

/-- The character with which a statement begins, if it begins with a clause. -/
def initial? : Statement → Option Char
  | .clause text :: _ => text.toList.head?
  | _ => none

end Statement

namespace Dialect

variable (d : Dialect)

/-- A statement that begins with a clause begins with the character of the clause. -/
theorem head?_render {statement : Statement} {c : Char} (h : statement.initial? = some c) :
    (d.render statement).toList.head? = some c := by
  rcases statement with _ | ⟨f, fs⟩
  · simp [Statement.initial?] at h
  · cases f with
    | clause text =>
      have htext : text.toList.head? = some c := h
      rw [render, Statement.join, Statement.joinFrom_cons]
      simp [renderFragment, htext]
    | identifier name => simp [Statement.initial?] at h
    | literal value => simp [Statement.initial?] at h

/-! ## Text literals -/

/-- What follows a fragment after which a space may be due begins with the space, or with a clause
that takes none. -/
theorem head?_joinFrom_mem {statement : Statement} {c : Char}
    (h : (Statement.joinFrom d.renderFragment false statement).toList.head? = some c) :
    c ∈ [' ', ',', ')', ':'] := by
  cases statement with
  | nil => simp at h
  | cons f fs =>
    rw [Statement.joinFrom_cons] at h
    cases hglue : f.gluesBefore (d.renderFragment f) with
    | false =>
      rw [hglue] at h
      simp at h
      simp [← h]
    | true =>
      have hparts := hglue
      simp only [Fragment.gluesBefore, Bool.and_eq_true, Bool.or_eq_true, beq_iff_eq] at hparts
      rw [hglue] at h
      rcases hparts.2 with (htext | htext) | htext <;>
        · simp [htext] at h
          simp [← h]

/-- So it does not begin with the quote character of texts. -/
theorem head?_joinFrom_ne (statement : Statement) :
    (Statement.joinFrom d.renderFragment false statement).toList.head? ≠ some '\x27' :=
  fun h => absurd (d.head?_joinFrom_mem h) (by decide)

/-- Statements with the same text that agree up to a text literal have the same text there. -/
theorem eq_of_render_text {pre rest rest' : Statement} {a b : String}
    (h : d.render (pre ++ .text a :: rest) = d.render (pre ++ .text b :: rest')) : a = b := by
  have hsplit : ∀ (glued : Bool) (s : String) (after : Statement),
      Statement.joinFrom d.renderFragment glued (.text s :: after) =
        (if glued then "" else " ") ++ (Quoting.write '\x27' s ++
          Statement.joinFrom d.renderFragment false after) := by
    intro glued s after
    rw [Statement.joinFrom_cons, ← String.append_assoc]
    simp [Fragment.text, Fragment.gluesBefore, Fragment.gluesAfter, Fragment.isClause,
      renderFragment, Value.literal]
  rw [render, render, Statement.join, Statement.join, Statement.joinFrom_append,
    Statement.joinFrom_append, hsplit, hsplit] at h
  -- Both texts go on with a literal, which ends in the same place.
  have hlist := congrArg String.toList h
  simp only [String.toList_append, List.append_cancel_left_eq] at hlist
  exact (Quoting.eq_of_write_append hlist (d.head?_joinFrom_ne rest)
    (d.head?_joinFrom_ne rest')).1

end Dialect

end SchemaEvolution
