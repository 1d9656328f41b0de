import SchemaEvolution.Proofs.Compilation

/-!
# Spaces between fragments

The text of a statement is put together from the texts of its parts.  A part can stand by itself,
with a space before it where one is due, or it can go on with what is there already.

* `Statement.joints`: the clauses around which a space is missing.
* `Statement.Stands`: a part has some text wherever it stands.  Fragments other than joints stand,
  and so do items in parentheses that stand (`Stands.parenthesized`).
* `Statement.Continues`: a part adds some text, its spaces included, to one after which a space is
  due.  These texts can be put one after the other (`Continues.append`, `Stands.append`).
* `Statement.Stands.render`: the text of a whole statement.
-/

namespace SchemaEvolution

namespace Statement

/-- The clauses around which a space is missing. -/
def joints : List String := [",", ")", "(", "::"]

/-- A space, unless none is due. -/
def space (glued : Bool) : String :=
  if glued then "" else " "

end Statement

/-- No space is missing around a fragment. -/
def Fragment.IsApart (d : Dialect) (f : Fragment) : Prop :=
  f.gluesBefore (d.renderFragment f) = false ∧ f.gluesAfter (d.renderFragment f) = false

namespace Fragment.IsApart

variable (d : Dialect)

theorem clause {text : String} (h : text ∉ Statement.joints) : IsApart d (.clause text) := by
  simp only [Statement.joints, List.mem_cons, List.not_mem_nil, or_false, not_or] at h
  simp [IsApart, gluesBefore, gluesAfter, Dialect.renderFragment, h]

theorem name (s : String) : IsApart d (.name s) :=
  ⟨rfl, rfl⟩

theorem literal (v : Value) : IsApart d (.literal v) :=
  ⟨rfl, rfl⟩

end Fragment.IsApart

theorem Dialect.renderFragment_name (d : Dialect) (s : String) :
    d.renderFragment (.name s) = d.quoting.quote s := by
  simp [Fragment.name, Identifier.of, renderFragment, renderIdentifier]

namespace Statement

/-- A statement has a text wherever it stands: there is a space before it if one is due, and one is
due after it. -/
def Stands (d : Dialect) (s : Statement) (text : String) : Prop :=
  ∀ glued rest, joinFrom d.renderFragment glued (s ++ rest) =
    space glued ++ text ++ joinFrom d.renderFragment false rest

/-- A statement adds a text to one after which a space is due, and one is due after it. -/
def Continues (d : Dialect) (s : Statement) (text : String) : Prop :=
  ∀ rest, joinFrom d.renderFragment false (s ++ rest) =
    text ++ joinFrom d.renderFragment false rest

variable {d : Dialect} {s s' : Statement} {text text' : String}

namespace Continues

theorem nil : Continues d [] "" := by
  intro rest
  rw [List.nil_append, String.empty_append]

theorem append (h : Continues d s text) (h' : Continues d s' text') :
    Continues d (s ++ s') (text ++ text') := by
  intro rest
  rw [List.append_assoc, h, h', String.append_assoc]

end Continues

namespace Stands

/-- After something else, a statement that stands comes with a space. -/
theorem continues (h : Stands d s text) : Continues d s (" " ++ text) := by
  intro rest
  exact h false rest

theorem append (h : Stands d s text) (h' : Continues d s' text') :
    Stands d (s ++ s') (text ++ text') := by
  intro glued rest
  rw [List.append_assoc, h, h', String.append_assoc, String.append_assoc, String.append_assoc]

/-- A statement that stands is rendered as its text. -/
theorem render (h : Stands d s text) : d.render s = text := by
  have hwhole := h true []
  rw [List.append_nil] at hwhole
  rw [Dialect.render, Statement.join, hwhole]
  simp [space]

/-- The same statement has the same text, which may be put together from other pieces. -/
theorem of_eq (h : Stands d s text) (hs : s' = s) (htext : text'.toList = text.toList) :
    Stands d s' text' := by
  rw [hs, String.toList_inj.mp htext]
  exact h

theorem single {f : Fragment} (h : f.IsApart d) : Stands d [f] (d.renderFragment f) := by
  intro glued rest
  rw [List.singleton_append, joinFrom_cons, h.1, h.2, Bool.or_false]
  rfl

theorem clause (h : text ∉ joints) : Stands d [.clause text] text :=
  single (.clause d h)

theorem identifier (i : Identifier) : Stands d [.identifier i] (d.renderIdentifier i) :=
  single ⟨rfl, rfl⟩

theorem name (part : String) : Stands d [.name part] (d.quoting.quote part) := by
  rw [← d.renderFragment_name]
  exact single (.name d part)

theorem literal (value : Value) : Stands d [.literal value] value.literal :=
  single (.literal d value)

end Stands

/-- A clause that is there if it is wanted. -/
theorem Continues.clauseIf (h : text ∉ joints) (wanted : Bool) :
    Continues d (Statement.clauseIf wanted text) (if wanted then " " ++ text else "") := by
  cases wanted with
  | false => exact .nil
  | true => exact (Stands.clause h).continues

/-- A name comes after some words, and after a guard if there is one. -/
theorem Stands.guarded {words guard : String} (hwords : words ∉ joints) (hguard : guard ∉ joints)
    (wanted : Bool) (name : String) :
    Stands d (.clause words :: Statement.clauseIf wanted guard ++ [.name name])
      (words ++ " " ++ (if wanted then guard ++ " " else "") ++ d.quoting.quote name) := by
  have hbegin : Stands d [.clause words] words := .clause hwords
  have hname : Stands d [.name name] (d.quoting.quote name) := .name name
  have hall := (hbegin.append (.clauseIf hguard wanted)).append hname.continues
  cases wanted with
  | false =>
    simp only [Bool.false_eq_true, if_false, String.append_empty, String.append_assoc] at hall ⊢
    exact hall
  | true =>
    simp only [if_true, String.append_assoc] at hall ⊢
    exact hall

/-- A conversion has no spaces around its sign. -/
theorem Continues.cast {name sqlType : String} (h : sqlType ∉ joints) :
    Continues d [.name name, .clause "::", .clause sqlType]
      (" " ++ d.quoting.quote name ++ "::" ++ sqlType) := by
  intro rest
  have hname : Stands d [.name name] (d.quoting.quote name) := .name name
  have htype : Stands d [.clause sqlType] sqlType := .clause h
  have hsign : joinFrom d.renderFragment false (.clause "::" :: ([.clause sqlType] ++ rest)) =
      "::" ++ joinFrom d.renderFragment true ([.clause sqlType] ++ rest) := by
    rw [joinFrom_cons]
    rfl
  have hsplit : [.name name, .clause "::", .clause sqlType] ++ rest =
      [.name name] ++ .clause "::" :: ([.clause sqlType] ++ rest) := rfl
  rw [hsplit, hname, hsign, htype]
  simp only [space, if_true, if_neg Bool.false_ne_true, String.empty_append, String.append_assoc]

/-! ## Items in parentheses -/

/-- There is no space before a comma, but one after it. -/
theorem Continues.comma (h : Stands d s text) : Continues d (.clause "," :: s) (", " ++ text) := by
  intro rest
  have htext := h false rest
  show "" ++ "," ++ joinFrom d.renderFragment false (s ++ rest) = _
  rw [htext, String.empty_append, space, if_neg Bool.false_ne_true, ← String.append_assoc,
    ← String.append_assoc]
  rfl

/-- Items that stand do so together, with commas and spaces between them. -/
theorem Stands.separated {items : List Statement} {texts : List String}
    (h : List.Forall₂ (Stands d) items texts) (hne : items ≠ []) :
    Stands d (Statement.separated items) (", ".intercalate texts) := by
  induction h with
  | nil => exact absurd rfl hne
  | @cons item text items texts hitem hitems ih =>
    cases hitems with
    | nil =>
      rw [String.intercalate_singleton]
      exact hitem
    | @cons item' text' items texts hitem' hitems =>
      rw [String.intercalate_cons_cons, String.append_assoc]
      exact hitem.append (.comma (ih (List.cons_ne_nil item' items)))

/-- There is no space after an opening parenthesis and none before a closing one. -/
theorem Stands.parenthesized {items : List Statement} {texts : List String}
    (h : List.Forall₂ (Stands d) items texts) :
    Stands d (Statement.parenthesized items) ("(" ++ ", ".intercalate texts ++ ")") := by
  intro glued rest
  have hopen : joinFrom d.renderFragment glued (Statement.parenthesized items ++ rest) =
      space glued ++ "(" ++
        joinFrom d.renderFragment true (Statement.separated items ++ .clause ")" :: rest) := by
    have hsplit : Statement.parenthesized items ++ rest =
        .clause "(" :: (Statement.separated items ++ .clause ")" :: rest) := by
      simp [Statement.parenthesized]
    rw [hsplit, joinFrom_cons]
    cases glued <;> rfl
  have hclose : ∀ after, joinFrom d.renderFragment after (.clause ")" :: rest) =
      ")" ++ joinFrom d.renderFragment false rest := by
    intro after
    cases after <;> rfl
  have hitems : joinFrom d.renderFragment true (Statement.separated items ++ .clause ")" :: rest) =
      ", ".intercalate texts ++ (")" ++ joinFrom d.renderFragment false rest) := by
    cases h with
    | nil => exact (hclose true).trans (String.empty_append ..).symm
    | cons hitem hitems =>
      rw [Stands.separated (.cons hitem hitems) (List.cons_ne_nil _ _), hclose]
      simp only [space, if_true, String.empty_append]
  rw [hopen, hitems]
  simp only [String.append_assoc]

/-- Names, qualified or not, are put into parentheses. -/
theorem Stands.identifiers (d : Dialect) (identifiers : List Identifier) :
    Stands d (Statement.names identifiers)
      ("(" ++ ", ".intercalate (identifiers.map d.renderIdentifier) ++ ")") := by
  have hnames : List.Forall₂ (Stands d) (identifiers.map fun i => [.identifier i])
      (identifiers.map d.renderIdentifier) := by
    rw [List.forall₂_map_left_iff, List.forall₂_map_right_iff, List.forall₂_same]
    intro i _
    exact .identifier i
  exact .parenthesized hnames

theorem Stands.names (d : Dialect) (columns : List String) :
    Stands d (Statement.names (columns.map .of))
      ("(" ++ ", ".intercalate (columns.map d.quoting.quote) ++ ")") := by
  have hquoted : (columns.map Identifier.of).map d.renderIdentifier =
      columns.map d.quoting.quote := by
    rw [List.map_map]
    exact List.map_congr_left fun column _ => d.renderFragment_name column
  have hnames := Stands.identifiers d (columns.map .of)
  rwa [hquoted] at hnames

/-! ## Compiled parts -/

/-- Parts that are compiled from one item each. -/
theorem exists_stands_of_forall {α : Type} {xs : List α} {f : α → Except Rejection Statement}
    {texts : α → String} (h : ∀ x ∈ xs, ∃ s, f x = .ok s ∧ Stands d s (texts x)) :
    ∃ ss, xs.mapM f = .ok ss ∧ List.Forall₂ (Stands d) ss (xs.map texts) := by
  induction xs with
  | nil => exact ⟨[], rfl, .nil⟩
  | cons x xs ih =>
    obtain ⟨s, hs, hstands⟩ := h x List.mem_cons_self
    obtain ⟨ss, hss, hall⟩ := ih fun x' hx' => h x' (List.mem_cons_of_mem _ hx')
    refine ⟨s :: ss, ?_, .cons hstands hall⟩
    rw [List.mapM_cons, hs, hss]
    rfl

theorem render_of_forall₂ {ss : List Statement} {texts : List String}
    (h : List.Forall₂ (Stands d) ss texts) : ss.map d.render = texts := by
  induction h with
  | nil => rfl
  | cons hs _ ih => rw [List.map_cons, hs.render, ih]

end Statement

end SchemaEvolution
