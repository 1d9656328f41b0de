import SchemaEvolution.Proofs.Regions

/-!
# Qualified names

What stands in quotes says itself where it ends, whatever characters it has.  So does a qualified
name, whose parts are in quotes with points between them.

* `Quoting.read?_eq_some_iff`: a quoted text is read off the front of the texts that begin with it
  and do not go on with a further quote character.
* `QuoteStyle.Ends`: a text does not go on with a part of a name, nor with the rest of one.
* `QuoteStyle.eq_of_pointed_append`: the further parts of a name can be told from what follows them.
* `Dialect.eq_of_renderIdentifier_append`: so can the whole name.
* `QuoteStyle.quote_delimits_itself` puts this together.
-/

namespace SchemaEvolution

namespace Quoting

/-- What is read is what was written in quotes, and what follows it does not go on with a quote
character. -/
theorem read?_eq_some_iff {q : Char} {text rest : List Char} {s : String} :
    read? q text = some (s, rest) ↔
      text = (write q s).toList ++ rest ∧ rest.head? ≠ some q := by
  constructor
  · intro h
    cases text with
    | nil => cases h
    | cons c text =>
      rw [read?] at h
      split at h
      · rename_i hc
        obtain ⟨⟨content, after⟩, hread, hpair⟩ := Option.map_eq_some_iff.mp h
        obtain ⟨rfl, rfl⟩ := Prod.mk.inj hpair
        obtain ⟨rfl, hafter⟩ := readBody?_eq_some_iff.mp hread
        refine ⟨?_, hafter⟩
        simp [write, hc]
      · cases h
  · rintro ⟨rfl, hrest⟩
    exact read?_write q s rest hrest

end Quoting

/-! ## Parts of a name -/

namespace QuoteStyle

variable {style : QuoteStyle}

/-- A text does not begin with a quote character or a point. -/
def Ends (style : QuoteStyle) (rest : List Char) : Prop :=
  rest.head? ≠ some style.mark ∧ rest.head? ≠ some '.'

/-- The further parts of a name, each of them after a point and in quotes. -/
def pointed (style : QuoteStyle) (parts : List String) : List Char :=
  parts.flatMap fun part => '.' :: (style.quote part).toList

theorem pointed_cons_append (part : String) (parts : List String) (rest : List Char) :
    style.pointed (part :: parts) ++ rest =
      '.' :: ((style.quote part).toList ++ (style.pointed parts ++ rest)) := by
  simp [pointed]

/-- After a part comes a point, or the end of the name. -/
theorem head?_pointed_append {rest : List Char} (h : style.Ends rest) (parts : List String) :
    (style.pointed parts ++ rest).head? ≠ some style.mark := by
  cases parts with
  | nil => exact h.1
  | cons part parts =>
    rw [pointed_cons_append, List.head?_cons]
    cases style <;> decide

/-- A point says that there is a further part, and anything else that there is none. -/
theorem eq_of_pointed_append {parts parts' : List String} {rest rest' : List Char}
    (h : style.pointed parts ++ rest = style.pointed parts' ++ rest') (hrest : style.Ends rest)
    (hrest' : style.Ends rest') : parts = parts' ∧ rest = rest' := by
  have hpoint (part : String) (parts : List String) (after : List Char) :
      (style.pointed (part :: parts) ++ after).head? = some '.' := by
    rw [pointed_cons_append, List.head?_cons]
  induction parts generalizing parts' with
  | nil =>
    cases parts' with
    | nil => exact ⟨rfl, h⟩
    | cons part' parts' =>
      have hhead := hpoint part' parts' rest'
      rw [← h] at hhead
      exact absurd hhead hrest.2
  | cons part parts ih =>
    cases parts' with
    | nil =>
      have hhead := hpoint part parts rest
      rw [h] at hhead
      exact absurd hhead hrest'.2
    | cons part' parts' =>
      rw [pointed_cons_append, pointed_cons_append] at h
      obtain ⟨rfl, htail⟩ := Quoting.eq_of_write_append (List.cons.inj h).2
        (head?_pointed_append hrest parts) (head?_pointed_append hrest' parts')
      obtain ⟨rfl, hafter⟩ := ih htail
      exact ⟨rfl, hafter⟩

end QuoteStyle

/-! ## Whole names -/

namespace Dialect

variable (d : Dialect)

theorem toList_renderIdentifier_nil : (d.renderIdentifier ⟨[]⟩).toList = [] :=
  rfl

theorem toList_renderIdentifier_cons (part : String) (parts : List String) :
    (d.renderIdentifier ⟨part :: parts⟩).toList =
      (d.quoting.quote part).toList ++ d.quoting.pointed parts := by
  unfold renderIdentifier
  induction parts generalizing part with
  | nil => simp [QuoteStyle.pointed]
  | cons next parts ih =>
    simp only [List.map_cons, String.intercalate_cons_cons, String.toList_append] at ih ⊢
    rw [ih]
    simp [QuoteStyle.pointed]

/-- A name with parts begins with a quote character, even if they are empty. -/
theorem head?_renderIdentifier (part : String) (parts : List String) (rest : List Char) :
    ((d.renderIdentifier ⟨part :: parts⟩).toList ++ rest).head? = some d.quoting.mark := by
  rw [toList_renderIdentifier_cons]
  simp [QuoteStyle.quote, Quoting.write]

/-- Texts that begin with a name begin with the same one, and go on in the same way, unless a quote
character or a point follows at once. -/
theorem eq_of_renderIdentifier_append {i j : Identifier} {rest rest' : List Char}
    (h : (d.renderIdentifier i).toList ++ rest = (d.renderIdentifier j).toList ++ rest')
    (hrest : d.quoting.Ends rest) (hrest' : d.quoting.Ends rest') : i = j ∧ rest = rest' := by
  obtain ⟨parts⟩ := i
  obtain ⟨parts'⟩ := j
  cases parts with
  | nil =>
    cases parts' with
    | nil => exact ⟨rfl, h⟩
    | cons part' parts' =>
      have hmark := d.head?_renderIdentifier part' parts' rest'
      rw [← h, toList_renderIdentifier_nil, List.nil_append] at hmark
      exact absurd hmark hrest.1
  | cons part parts =>
    cases parts' with
    | nil =>
      have hmark := d.head?_renderIdentifier part parts rest
      rw [h, toList_renderIdentifier_nil, List.nil_append] at hmark
      exact absurd hmark hrest'.1
    | cons part' parts' =>
      rw [toList_renderIdentifier_cons, toList_renderIdentifier_cons, List.append_assoc,
        List.append_assoc] at h
      obtain ⟨rfl, htail⟩ := Quoting.eq_of_write_append h
        (QuoteStyle.head?_pointed_append hrest parts)
        (QuoteStyle.head?_pointed_append hrest' parts')
      obtain ⟨rfl, hafter⟩ := QuoteStyle.eq_of_pointed_append htail hrest hrest'
      exact ⟨rfl, hafter⟩

end Dialect

/-- What stands in quotes delimits itself.

* In either style, a quoted name is read off the front of every text that begins with it and does
  not go on with a further quote character: the name and what follows it are read as they are, and
  nothing else can be read.
* So is the literal of a text.
* A qualified name can be told from its rendering, whatever its parts are: none at all, empty ones,
  or parts with points and quote characters. -/
theorem QuoteStyle.quote_delimits_itself :
    (∀ (style : QuoteStyle) (text : List Char) (s : String) (rest : List Char),
      Quoting.read? style.mark text = some (s, rest) ↔
        text = (style.quote s).toList ++ rest ∧ rest.head? ≠ some style.mark) ∧
    (∀ (text : List Char) (s : String) (rest : List Char),
      Quoting.read? '\x27' text = some (s, rest) ↔
        text = (Value.text s).literal.toList ++ rest ∧ rest.head? ≠ some '\x27') ∧
    ∀ (d : Dialect) (i j : Identifier), d.renderIdentifier i = d.renderIdentifier j ↔ i = j := by
  refine ⟨fun style text s rest => Quoting.read?_eq_some_iff,
    fun text s rest => Quoting.read?_eq_some_iff, fun d i j => ⟨fun h => ?_, congrArg _⟩⟩
  have hends : d.quoting.Ends [] := ⟨nofun, nofun⟩
  have hsame : (d.renderIdentifier i).toList ++ [] = (d.renderIdentifier j).toList ++ [] := by
    rw [h]
  exact (d.eq_of_renderIdentifier_append hsame hends hends).1

/-- A point in a part is not one between parts, and an empty part is a part. -/
example :
    (Dialect.sqlite {}).renderIdentifier ⟨["a.b"]⟩ = "\x60a.b\x60" ∧
      (Dialect.sqlite {}).renderIdentifier ⟨["a", "b"]⟩ = "\x60a\x60.\x60b\x60" ∧
      (Dialect.sqlite {}).renderIdentifier ⟨[""]⟩ = "\x60\x60" ∧
      (Dialect.sqlite {}).renderIdentifier ⟨[]⟩ = "" := by
  decide

end SchemaEvolution
