import SchemaEvolution.Proofs.Spacing

/-!
# Neighbours in a statement

A statement is joined from left to right, with a flag that says whether a space is due.  What comes
of it can be said of two neighbours at a time.

* `Statement.gap`: what stands between two neighbours, which depends on nothing else.
* `Statement.spaced`, `Statement.spacedTexts`: the rendered fragments with these gaps between them.
* `Statement.joinFromM_eq`: the loop renders each fragment once, in order, and then spaces the texts.
* `Statement.gluedAfter_eq`: the flag remembers nothing but the last fragment.
* `Statement.join_eq_spaced`: joining puts the gaps between neighbours, and a list of names has the
  same text wherever it stands.
-/

namespace SchemaEvolution

/-! ## Gaps -/

/-- The fragment is a clause that is rendered as one of some tokens.  Names and values are none,
whatever they are rendered as. -/
def Fragment.IsToken (render : Fragment → String) (tokens : List String) : Fragment → Prop
  | clause text => render (clause text) ∈ tokens
  | identifier _ | literal _ => False

instance (render : Fragment → String) (tokens : List String) :
    (f : Fragment) → Decidable (f.IsToken render tokens)
  | .clause text => inferInstanceAs (Decidable (render (.clause text) ∈ tokens))
  | .identifier _ | .literal _ => inferInstanceAs (Decidable False)

namespace Statement

/-- What stands between two neighbours: nothing after `(` and `::`, nothing before `,`, `)` and
`::`, and otherwise a space. -/
def gap (render : Fragment → String) (left right : Fragment) : String :=
  if left.IsToken render ["(", "::"] ∨ right.IsToken render [",", ")", "::"] then "" else " "

/-- The rendered fragments in order, with a gap between each two neighbours. -/
def spaced (render : Fragment → String) : Statement → String
  | [] => ""
  | [f] => render f
  | left :: right :: fs => render left ++ gap render left right ++ spaced render (right :: fs)

/-- The same for fragments that come with their texts.  Equal fragments may have different ones. -/
def spacedTexts : List (Fragment × String) → String
  | [] => ""
  | [(_, text)] => text
  | (left, text) :: (right, next) :: rest =>
    text ++
      (if left.IsToken (fun _ => text) ["(", "::"] ∨ right.IsToken (fun _ => next) [",", ")", "::"]
        then "" else " ") ++
      spacedTexts ((right, next) :: rest)

end Statement

/-! ## Joining -/

namespace Fragment

variable {render : Fragment → String} {f : Fragment}

theorem gluesAfter_iff : f.gluesAfter (render f) = true ↔ f.IsToken render ["(", "::"] := by
  cases f <;> simp [gluesAfter, isClause, IsToken]

theorem gluesBefore_iff :
    f.gluesBefore (render f) = true ↔ f.IsToken render [",", ")", "::"] := by
  cases f <;> simp [gluesBefore, isClause, IsToken, or_assoc]

end Fragment

namespace Statement

variable {render : Fragment → String}

/-- What is spaced by gaps, after the space that is due before it. -/
def spacedFrom (glued : Bool) : List (Fragment × String) → String
  | [] => ""
  | (f, text) :: rest => space (glued || f.gluesBefore text) ++ spacedTexts ((f, text) :: rest)

/-- The flag that a fragment leaves behind is the left half of the gap that follows it. -/
theorem spacedTexts_cons (f : Fragment) (text : String) (rest : List (Fragment × String)) :
    spacedTexts ((f, text) :: rest) = text ++ spacedFrom (f.gluesAfter text) rest := by
  cases rest with
  | nil => exact String.append_empty.symm
  | cons next rest =>
    have hafter := @Fragment.gluesAfter_iff (fun _ => text) f
    have hbefore := @Fragment.gluesBefore_iff (fun _ => next.2) next.1
    simp only [spacedTexts, spacedFrom, space, Bool.or_eq_true, hafter, hbefore,
      String.append_assoc]

theorem spacedFrom_cons (glued : Bool) (f : Fragment) (text : String)
    (rest : List (Fragment × String)) : spacedFrom glued ((f, text) :: rest) =
      space (glued || f.gluesBefore text) ++ text ++ spacedFrom (f.gluesAfter text) rest := by
  rw [spacedFrom, spacedTexts_cons, String.append_assoc]

/-- The loop renders each fragment once, in order, and then spaces the texts. -/
theorem joinFromM_eq {m : Type → Type} [Monad m] [LawfulMonad m] (render : Fragment → m String)
    (glued : Bool) (s : Statement) :
    joinFromM render glued s = (do return spacedFrom glued (s.zip (← s.mapM render))) := by
  induction s generalizing glued with
  | nil => simp [joinFromM, spacedFrom]
  | cons f fs ih =>
    rw [joinFromM, List.mapM_cons, bind_assoc]
    refine bind_congr fun text => ?_
    simp only [ih, bind_assoc, pure_bind, List.zip_cons_cons, spacedFrom_cons]
    rfl

theorem spacedFrom_true (rest : List (Fragment × String)) :
    spacedFrom true rest = spacedTexts rest := by
  cases rest with
  | nil => rfl
  | cons next rest =>
    rw [spacedFrom, Bool.true_or]
    exact String.empty_append ..

/-- Texts that come from a function are spaced as it says. -/
theorem spacedTexts_map (s : Statement) : spacedTexts (s.zip (s.map render)) = spaced render s := by
  have hgap : ∀ (f : Fragment) (tokens : List String),
      f.IsToken (fun _ => render f) tokens ↔ f.IsToken render tokens := by
    intro f tokens
    cases f <;> rfl
  induction s using spaced.induct with
  | case1 => rfl
  | case2 f => rfl
  | case3 left right fs ih =>
    rw [spaced, gap, ← ih]
    simp only [List.map_cons, List.zip_cons_cons, spacedTexts, hgap]

/-- What is joined from some place on is spaced by gaps.  Only the space before it depends on what
is there already. -/
theorem joinFrom_eq (glued : Bool) (s : Statement) :
    joinFrom render glued s = spacedFrom glued (s.zip (s.map render)) := by
  rw [joinFrom, joinFromM_eq, List.mapM_pure]
  rfl

theorem join_eq (s : Statement) : s.join render = spaced render s := by
  rw [join, joinFrom_eq, spacedFrom_true, spacedTexts_map]

/-! ## Lists of names -/

/-- The space that is due after a part of a statement: there is none at the start of the statement,
and none after `(` and `::`. -/
def spaceAfter (render : Fragment → String) (before : Statement) : String :=
  match before.getLast? with
  | none => ""
  | some f => if f.IsToken render ["(", "::"] then "" else " "

/-- The space that is due before a part of a statement: there is none at the end of the statement,
and none before `,`, `)` and `::`. -/
def spaceBefore (render : Fragment → String) (after : Statement) : String :=
  match after with
  | [] => ""
  | f :: _ => if f.IsToken render [",", ")", "::"] then "" else " "

/-- The flag remembers the last fragment only. -/
theorem gluedAfter_eq (glued : Bool) (s : Statement) : gluedAfter render glued s =
    (s.getLast?.map fun f => f.gluesAfter (render f)).getD glued := by
  induction s generalizing glued with
  | nil => rfl
  | cons f fs ih =>
    rw [gluedAfter, ih, List.getLast?_cons]
    cases fs.getLast? <;> rfl

theorem space_gluedAfter (before : Statement) :
    space (gluedAfter render true before) = spaceAfter render before := by
  rw [gluedAfter_eq, spaceAfter]
  cases before.getLast? with
  | none => rfl
  | some f => simp only [Option.map_some, Option.getD_some, space, Fragment.gluesAfter_iff]

theorem joinFrom_false (after : Statement) :
    joinFrom render false after = spaceBefore render after ++ after.join render := by
  cases after with
  | nil => rfl
  | cons f after =>
    have hspaced : spacedTexts ((f, render f) :: after.zip (after.map render)) =
        join render (f :: after) := by
      rw [join_eq, ← spacedTexts_map]
      rfl
    rw [joinFrom_eq, List.map_cons, List.zip_cons_cons, spacedFrom, Bool.false_or, hspaced,
      spaceBefore]
    simp only [space, Fragment.gluesBefore_iff]

/-- The rule of spaces, by neighbours.

* Whatever the fragments are rendered as, a statement is joined by putting nothing between two
  neighbours if the left one is a clause `(` or `::` or the right one is a clause `,`, `)` or `::`,
  and a space otherwise.  Nothing is put before the first fragment or after the last one.
* The renderer may also be a procedure with a state of its own.  It is called once for each fragment
  and in their order, and the texts that it returns are joined in the same way.
* In whatever statement a list of names stands, its text is the same: the quoted names with commas
  and spaces between them, in parentheses.  The spaces around it are those that its neighbours ask
  for, so there is none if the statement begins or ends with the list. -/
theorem join_eq_spaced :
    (∀ (render : Fragment → String) (s : Statement), s.join render = spaced render s) ∧
    (∀ (σ : Type) (render : Fragment → StateM σ String) (s : Statement),
      s.joinM render = do
        let texts ← s.mapM render
        return spacedTexts (s.zip texts)) ∧
    ∀ (d : Dialect) (before : Statement) (identifiers : List Identifier) (after : Statement),
      d.render (before ++ names identifiers ++ after) =
        d.render before ++ spaceAfter d.renderFragment before ++
          ("(" ++ ", ".intercalate (identifiers.map d.renderIdentifier) ++ ")") ++
          spaceBefore d.renderFragment after ++ d.render after := by
  refine ⟨fun render s => join_eq s, fun σ render s => ?_, fun d before identifiers after => ?_⟩
  · rw [joinM, joinFromM_eq]
    simp only [spacedFrom_true]
  · have hnames := Stands.identifiers d identifiers
    rw [Dialect.render, join, List.append_assoc, joinFrom_append, hnames, space_gluedAfter,
      joinFrom_false]
    simp only [Dialect.render, join, String.append_assoc]

/-- A name that looks like a token has spaces around it, and a list without names is written. -/
example : (Dialect.standard .generic .doubleQuote).render
    ([.clause "ON", .literal (.text ")"), .clause "::", .clause "T"] ++ names [] ++ [.clause ","]) =
      "ON ')'::T ()," := by
  decide

end Statement

end SchemaEvolution
