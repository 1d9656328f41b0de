import SchemaEvolution.Proofs.Compilation

/-!
# Quoted regions

What a database takes for names and values is what stands in quotes.  `Quoting.scan` finds it: a
quote character opens a region, which ends at the first character of the same kind that is not
doubled.

* `Quoting.regions` and `Quoting.outside`: what stands in the regions of a text, and the text with
  its regions emptied.
* `Quoting.Reads`: the regions of a text are closed, with these contents, and what is outside of
  them is as in some other text.  Texts with closed regions can be put one after the other unless a
  quote character meets another one (`Quoting.Reads.append`).
* `Statement.Reads` says the same of a statement, fragment by fragment.  It can be shown without
  looking at spaces, since no two regions of a joined statement meet (`Statement.Reads.render`).
-/

namespace SchemaEvolution

namespace Quoting

/-! ## Scanning -/

/-- The quote characters. -/
def marks : List Char := ['\x27', '"', '\x60']

/-- There is no quote character in a text. -/
def IsPlain (text : List Char) : Prop :=
  ∀ c ∈ text, c ∉ marks

instance (text : List Char) : Decidable (IsPlain text) :=
  List.decidableBAll (fun c => c ∉ marks) text

/-- A piece of a text. -/
inductive Piece where
  /-- A character outside of the regions. -/
  | plain (c : Char)
  /-- A region between two quote characters, with what it stands for. -/
  | region (mark : Char) (content : String)

namespace Piece

/-- What a region stands for. -/
def content? : Piece → Option String
  | plain _ => none
  | region _ content => some content

/-- The piece as it is written, a region without its content. -/
def outline : Piece → List Char
  | plain c => [c]
  | region mark _ => [mark, mark]

end Piece

/-- A region is read if the text goes on with it: its content, each quote character doubled, and a
quote character that is not followed by another one. -/
theorem readBody?_eq_some_iff {q : Char} {text content rest : List Char} :
    readBody? q text = some (content, rest) ↔
      text = double q content ++ q :: rest ∧ rest.head? ≠ some q := by
  constructor
  · intro h
    induction text using readBody?.induct (q := q) generalizing content with
    | case1 => simp [readBody?] at h
    | case2 =>
      simp only [readBody?, if_pos, Option.some.injEq, Prod.mk.injEq] at h
      obtain ⟨rfl, rfl⟩ := h
      simp [double]
    | case3 c hc => simp [readBody?, hc] at h
    | case4 cs ih =>
      simp only [readBody?, if_pos, Option.map_eq_some_iff, Prod.exists, Prod.mk.injEq] at h
      obtain ⟨s, rest', hread, rfl, rfl⟩ := h
      obtain ⟨rfl, hrest⟩ := ih hread
      simp [double, hrest]
    | case5 d cs hd =>
      simp only [readBody?, if_pos, if_neg hd, Option.some.injEq, Prod.mk.injEq] at h
      obtain ⟨rfl, rfl⟩ := h
      simp [double, hd]
    | case6 c d cs hc ih =>
      simp only [readBody?, if_neg hc, Option.map_eq_some_iff, Prod.exists, Prod.mk.injEq] at h
      obtain ⟨s, rest', hread, rfl, rfl⟩ := h
      obtain ⟨htext, hrest⟩ := ih hread
      simp [double, hc, htext, hrest]
  · rintro ⟨rfl, hrest⟩
    exact readBody?_double q content rest hrest

/-- Reading a region uses up characters. -/
theorem length_of_readBody? {q : Char} {text content rest : List Char}
    (h : readBody? q text = some (content, rest)) : rest.length < text.length := by
  obtain ⟨rfl, -⟩ := readBody?_eq_some_iff.mp h
  simp only [List.length_append, List.length_cons]
  omega

/-- The pieces of a text, unless it ends inside of a region. -/
def scan : List Char → Option (List Piece)
  | [] => some []
  | c :: text =>
    if c ∈ marks then
      match _read : readBody? c text with
      | none => none
      | some (content, rest) => (scan rest).map (.region c (String.ofList content) :: ·)
    else (scan text).map (.plain c :: ·)
termination_by text => text.length
decreasing_by
  · have hlength := length_of_readBody? _read
    simp only [List.length_cons]
    omega
  · simp

theorem scan_cons_plain {c : Char} (hc : c ∉ marks) (text : List Char) :
    scan (c :: text) = (scan text).map (.plain c :: ·) := by
  rw [scan, if_neg hc]

theorem scan_cons_mark {q : Char} (hq : q ∈ marks) {text content rest : List Char}
    (h : readBody? q text = some (content, rest)) :
    scan (q :: text) = (scan rest).map (.region q (String.ofList content) :: ·) := by
  rw [scan, if_pos hq]
  split
  · simp_all
  · simp_all

/-- A region that ends in a text ends there too if more text follows, unless the region ends with
the text and its quote character comes next. -/
theorem readBody?_append {q : Char} {text content rest more : List Char}
    (h : readBody? q text = some (content, rest)) (hmore : more.head? ≠ some q) :
    readBody? q (text ++ more) = some (content, rest ++ more) := by
  obtain ⟨rfl, hrest⟩ := readBody?_eq_some_iff.mp h
  refine readBody?_eq_some_iff.mpr ⟨by simp, ?_⟩
  cases rest with
  | nil => exact hmore
  | cons c rest => exact hrest

/-- A text without quote characters is scanned character by character, whatever follows it. -/
theorem scan_plain_append {text : List Char} (h : IsPlain text) (more : List Char) :
    scan (text ++ more) = (scan more).map (text.map .plain ++ ·) := by
  induction text with
  | nil => simp
  | cons c text ih =>
    have hrest : IsPlain text := fun c' hc' => h c' (List.mem_cons_of_mem _ hc')
    rw [List.cons_append, scan_cons_plain (h c List.mem_cons_self), ih hrest, Option.map_map]
    rfl

theorem scan_plain {text : List Char} (h : IsPlain text) : scan text = some (text.map .plain) := by
  have hscan := scan_plain_append h []
  rw [List.append_nil, scan, Option.map_some, List.append_nil] at hscan
  exact hscan

/-- No quote character of a text meets one of the text that follows. -/
def Apart (text more : List Char) : Prop :=
  IsPlain text ∨ ∀ c, more.head? = some c → c ∉ marks

/-- A text whose regions are closed is scanned on its own, if what follows is apart from it. -/
theorem scan_append {text more : List Char} {pieces : List Piece} (h : scan text = some pieces)
    (hapart : Apart text more) : scan (text ++ more) = (scan more).map (pieces ++ ·) := by
  rcases hapart with hplain | hhead
  · rw [scan_plain hplain, Option.some.injEq] at h
    rw [scan_plain_append hplain, h]
  induction text using scan.induct generalizing pieces with
  | case1 =>
    rw [scan, Option.some.injEq] at h
    subst h
    simp
  | case2 q text hq hread =>
    rw [scan, if_pos hq] at h
    split at h <;> simp_all
  | case3 q text hq content rest hread ih =>
    rw [scan_cons_mark hq hread, Option.map_eq_some_iff] at h
    obtain ⟨pieces, hpieces, rfl⟩ := h
    have hne : more.head? ≠ some q := fun hmore => hhead q hmore hq
    rw [List.cons_append, scan_cons_mark hq (readBody?_append hread hne), ih hpieces,
      Option.map_map]
    rfl
  | case4 c text hc ih =>
    rw [scan_cons_plain hc, Option.map_eq_some_iff] at h
    obtain ⟨pieces, hpieces, rfl⟩ := h
    rw [List.cons_append, scan_cons_plain hc, ih hpieces, Option.map_map]
    rfl

/-- What is written between quote characters is one region. -/
theorem scan_write {q : Char} (hq : q ∈ marks) (s : String) :
    scan (write q s).toList = some [.region q s] := by
  have hread : readBody? q (double q s.toList ++ [q]) = some (s.toList, []) :=
    readBody?_double q s.toList [] (by simp)
  have htext : (write q s).toList = q :: (double q s.toList ++ [q]) := by
    simp [write]
  rw [htext, scan_cons_mark hq hread, scan]
  simp

/-! ## What is in the regions, and what is not -/

/-- What stands in the regions of a text, in order, unless it ends inside of one. -/
def regions (text : String) : Option (List String) :=
  (scan text.toList).map (List.filterMap Piece.content?)

/-- The text with its regions emptied, unless it ends inside of one. -/
def outside (text : String) : Option String :=
  (scan text.toList).map fun pieces => String.ofList (pieces.flatMap Piece.outline)

/-- The regions of a text are closed and have these contents, and outside of them the text is like
another one with closed regions. -/
def Reads (text : List Char) (contents : List String) (like : List Char) : Prop :=
  ∃ pieces pieces', scan text = some pieces ∧ scan like = some pieces' ∧
    pieces.filterMap Piece.content? = contents ∧
    pieces.flatMap Piece.outline = pieces'.flatMap Piece.outline

namespace Reads

variable {text more like like' : List Char} {contents contents' : List String}

theorem regions_eq {text like : String} (h : Reads text.toList contents like.toList) :
    regions text = some contents := by
  obtain ⟨pieces, _, hscan, -, rfl, -⟩ := h
  rw [regions, hscan]
  rfl

theorem outside_eq {text like : String} (h : Reads text.toList contents like.toList) :
    outside text = outside like := by
  obtain ⟨pieces, pieces', hscan, hscan', -, houtline⟩ := h
  rw [outside, outside, hscan, hscan', Option.map_some, Option.map_some, houtline]

/-- Texts that are like the same one are like each other. -/
theorem of_like (h : Reads text contents like) (h' : Reads more contents' like) :
    Reads text contents more := by
  obtain ⟨pieces, pieces', hscan, hscan', hcontents, houtline⟩ := h
  obtain ⟨others, others', hothers, hothers', -, houtline'⟩ := h'
  rw [hscan', Option.some.injEq] at hothers'
  subst hothers'
  exact ⟨pieces, others, hscan, hothers, hcontents, houtline.trans houtline'.symm⟩

theorem nil : Reads [] [] [] :=
  ⟨[], [], by rw [scan], by rw [scan], rfl, rfl⟩

/-- What is written between quote characters is one region, and like any other. -/
theorem write {q : Char} (hq : q ∈ marks) (s s' : String) :
    Reads (Quoting.write q s).toList [s] (Quoting.write q s').toList :=
  ⟨_, _, scan_write hq s, scan_write hq s', rfl, rfl⟩

/-- A text without quote characters has no regions. -/
theorem plain (hplain : IsPlain text) : Reads text [] text :=
  ⟨_, _, scan_plain hplain, scan_plain hplain,
    by simp [List.filterMap_map, Function.comp_def, Piece.content?], rfl⟩

/-- Texts that are apart can be put one after the other. -/
theorem append (htext : Reads text contents like) (hmore : Reads more contents' like')
    (hapart : Apart text more) (hapart' : Apart like like') :
    Reads (text ++ more) (contents ++ contents') (like ++ like') := by
  obtain ⟨pieces, pieces', hscan, hscan', rfl, houtline⟩ := htext
  obtain ⟨rest, rest', hrest, hrest', rfl, houtline'⟩ := hmore
  refine ⟨pieces ++ rest, pieces' ++ rest', ?_, ?_, ?_, ?_⟩
  · rw [scan_append hscan hapart, hrest, Option.map_some]
  · rw [scan_append hscan' hapart', hrest', Option.map_some]
  · rw [List.filterMap_append]
  · rw [List.flatMap_append, List.flatMap_append, houtline, houtline']

/-- A text without quote characters can be put before any other. -/
theorem plain_append (hplain : IsPlain text) (hmore : Reads more contents like) :
    Reads (text ++ more) contents (text ++ like) :=
  (plain hplain).append hmore (Or.inl hplain) (Or.inl hplain)

end Reads

end Quoting

/-! ## Values and names -/

/-- What stands in quotes in the literal of a value. -/
def Value.quoted : Value → List String
  | text s => [s]
  | blob bytes => [String.ofList (bytes.flatMap hexByte)]
  | timestamp t => [t.micros]
  | _ => []

/-- A value without what stands in quotes in its literal. -/
def Value.blank : Value → Value
  | text _ => text ""
  | blob _ => blob []
  | timestamp _ => text ""
  | value => value

/-- A name with all of its parts empty. -/
def Identifier.blank (i : Identifier) : Identifier :=
  ⟨i.parts.map fun _ => ""⟩

namespace Quoting

theorem IsPlain.append {a b : List Char} (ha : IsPlain a) (hb : IsPlain b) : IsPlain (a ++ b) :=
  fun c hc => (List.mem_append.mp hc).elim (ha c) (hb c)

theorem isPlain_digits (n : Nat) : IsPlain (digits n) := by
  intro c hc hmark
  have hdigit : c.isDigit = true := Nat.isDigit_of_mem_toDigits (by decide) (by decide) hc
  have hmarks : marks.all (fun q => !q.isDigit) = true := by decide
  have hother := List.all_eq_true.mp hmarks c hmark
  rw [hdigit] at hother
  cases hother

theorem isPlain_signedDigits (n : Int) : IsPlain (signedDigits n) := by
  unfold signedDigits
  split
  · exact IsPlain.append (a := ['-']) (by decide) (isPlain_digits _)
  · exact isPlain_digits _

/-- The digits of a decimal in their places, with zeros and a point. -/
theorem isPlain_positional (d : Decimal) : IsPlain d.positional := by
  have hchar : ∀ c ∈ d.positional, c = '0' ∨ c = '.' ∨ c ∈ digits d.coefficient := by
    intro c hc
    simp only [Decimal.positional] at hc
    split at hc
    · rcases List.mem_append.mp hc with hc | hc
      · exact Or.inr (Or.inr hc)
      · exact Or.inl (List.eq_of_mem_replicate hc)
    split at hc
    · rcases List.mem_append.mp hc with hc | hc
      · exact Or.inr (Or.inr (List.mem_of_mem_take hc))
      · exact Or.inr ((List.mem_cons.mp hc).imp_right List.mem_of_mem_drop)
    · simp only [List.cons_append, List.mem_cons, List.mem_append] at hc
      rcases hc with hc | hc | hc | hc
      · exact Or.inl hc
      · exact Or.inr (Or.inl hc)
      · exact Or.inl (List.eq_of_mem_replicate hc)
      · exact Or.inr (Or.inr hc)
  intro c hc
  rcases hchar c hc with rfl | rfl | hc
  · decide
  · decide
  · exact isPlain_digits _ c hc

theorem isPlain_real (x : Binary64) : IsPlain x.plain.toList := by
  have hsign : IsPlain (if x.isNegative then ['-'] else []) := by
    split <;> decide
  simp only [Binary64.plain, Binary64.textWith]
  generalize (if x.isNegative then ['-'] else []) = sign at hsign ⊢
  split
  · decide
  split
  · rw [String.toList_ofList]
    exact hsign.append (b := "inf".toList) (by decide)
  split
  · rw [String.toList_ofList]
    exact hsign.append (isPlain_positional _)
  · rw [String.toList_ofList]
    exact hsign.append (isPlain_positional _)

theorem isPlain_hexBytes (bytes : List UInt8) : IsPlain (bytes.flatMap hexByte) := by
  have hdigit : ∀ n < 16, hexDigit n ∉ marks := by decide
  intro c hc
  obtain ⟨b, -, hc⟩ := List.mem_flatMap.mp hc
  have hbyte := b.toNat_lt
  simp only [hexByte, List.mem_cons, List.not_mem_nil, or_false] at hc
  rcases hc with rfl | rfl
  · exact hdigit _ (by omega)
  · exact hdigit _ (by omega)

/-- Doubling quote characters leaves a text as it is that has none. -/
theorem double_of_isPlain {q : Char} (hq : q ∈ marks) {text : List Char} (h : IsPlain text) :
    double q text = text := by
  induction text with
  | nil => rfl
  | cons c text ih =>
    have hc : c ≠ q := fun hcq => h c List.mem_cons_self (hcq ▸ hq)
    rw [double, if_neg hc, ih fun c' hc' => h c' (List.mem_cons_of_mem _ hc')]

/-- The literal of a value has in its regions what stands in quotes. -/
theorem reads_literal (v : Value) : Reads v.literal.toList v.quoted v.blank.literal.toList := by
  have hmark : '\x27' ∈ marks := by decide
  cases v with
  | null => exact .plain (by decide)
  | boolean b => cases b <;> exact .plain (by decide)
  | integer n =>
    simp only [Value.literal, Value.quoted, Value.blank, String.toList_ofList]
    exact .plain (isPlain_signedDigits _)
  | real x => exact .plain (isPlain_real x)
  | text s => exact .write hmark s ""
  | blob bytes =>
    have hliteral : ∀ bytes : List UInt8, (Value.blob bytes).literal.toList =
        ['X'] ++ (write '\x27' (String.ofList (bytes.flatMap hexByte))).toList := by
      intro bytes
      simp [Value.literal, write, double_of_isPlain hmark (isPlain_hexBytes bytes)]
    rw [Value.blank, hliteral, hliteral]
    exact .plain_append (by decide) (.write hmark _ _)
  | timestamp t => exact .write hmark t.micros ""

end Quoting

theorem QuoteStyle.mark_mem (style : QuoteStyle) : style.mark ∈ Quoting.marks := by
  cases style <;> decide

namespace Dialect

variable (d : Dialect)

/-- A name has its parts in its regions. -/
theorem reads_identifier (i : Identifier) :
    Quoting.Reads (d.renderIdentifier i).toList i.parts (d.renderIdentifier i.blank).toList := by
  obtain ⟨parts⟩ := i
  unfold renderIdentifier Identifier.blank
  induction parts with
  | nil => exact .nil
  | cons part parts ih =>
    have hpart : Quoting.Reads (d.quoting.quote part).toList [part] (d.quoting.quote "").toList :=
      .write d.quoting.mark_mem part ""
    cases parts with
    | nil => simpa using hpart
    | cons next parts =>
      simp only [List.map_cons, String.intercalate_cons_cons, String.toList_append,
        List.append_assoc] at ih ⊢
      have hpoint : Quoting.IsPlain ".".toList := by decide
      exact hpart.append (.plain_append hpoint ih) (Or.inr (by simp [Quoting.marks]))
        (Or.inr (by simp [Quoting.marks]))

end Dialect

/-! ## Statements -/

/-- A fragment has some contents in its regions and is like another one outside of them; and the
spaces around it are like those around the other. -/
structure Fragment.Reads (d : Dialect) (f : Fragment) (contents : List String) (like : Fragment) :
    Prop where
  rendered : Quoting.Reads (d.renderFragment f).toList contents (d.renderFragment like).toList
  gluesBefore : f.gluesBefore (d.renderFragment f) = like.gluesBefore (d.renderFragment like)
  gluesAfter : f.gluesAfter (d.renderFragment f) = like.gluesAfter (d.renderFragment like)

/-- A clause that begins with a quote character is none of those that take no space. -/
theorem Fragment.glues_of_head? {text : String} {q : Char} (hq : q ∈ Quoting.marks)
    (h : text.toList.head? = some q) :
    (clause text).gluesBefore text = false ∧ (clause text).gluesAfter text = false := by
  have hne : ∀ token ∈ [",", ")", "::", "("], text ≠ token := by
    have htokens : ∀ token ∈ [",", ")", "::", "("], Quoting.IsPlain token.toList := by decide
    rintro token htoken rfl
    exact htokens text htoken q (List.mem_of_head? h) hq
  simp only [List.mem_cons, List.not_mem_nil, or_false, forall_eq_or_imp, forall_eq] at hne
  simp [gluesBefore, gluesAfter, hne]

namespace Fragment.Reads

variable {d : Dialect}

/-- Fragments that are like the same one are like each other. -/
theorem of_like {f f' like : Fragment} {contents contents' : List String}
    (h : Reads d f contents like) (h' : Reads d f' contents' like) : Reads d f contents f' :=
  ⟨h.rendered.of_like h'.rendered, h.gluesBefore.trans h'.gluesBefore.symm,
    h.gluesAfter.trans h'.gluesAfter.symm⟩

theorem clause {text : String} (h : Quoting.IsPlain text.toList) :
    Reads d (.clause text) [] (.clause text) :=
  ⟨.plain h, rfl, rfl⟩

theorem identifier (i : Identifier) : Reads d (.identifier i) i.parts (.identifier i.blank) :=
  ⟨d.reads_identifier i, rfl, rfl⟩

theorem name (s : String) : Reads d (.name s) [s] (.name "") :=
  identifier (.of s)

theorem literal (v : Value) : Reads d (.literal v) v.quoted (.literal v.blank) :=
  ⟨Quoting.reads_literal v, rfl, rfl⟩

theorem text (s : String) : Reads d (.text s) [s] (.text "") :=
  literal (.text s)

/-- The definition of a key column has its name in a region, although it is a single clause. -/
theorem key {sqlType : String} (htype : Quoting.IsPlain sqlType.toList) (name : String)
    (key : KeyOptions) :
    Reads d (.clause (keyDefinition (d.quoting.quote name) sqlType key)) [name]
      (.clause (keyDefinition (d.quoting.quote "") sqlType key)) := by
  have hmark := d.quoting.mark_mem
  obtain ⟨options, hoptions, hdefinition⟩ : ∃ options : String,
      Quoting.IsPlain options.toList ∧ ∀ quoted, (keyDefinition quoted sqlType key).toList =
        quoted.toList ++ (' ' :: (sqlType.toList ++ options.toList)) := by
    refine ⟨if key.primary then " PRIMARY KEY"
      else if key.nullable = some false then " NOT NULL" else "", ?_, fun quoted => ?_⟩
    · split
      · decide
      · split <;> decide
    · simp [keyDefinition]
  have hglues : ∀ s : String,
      (Fragment.clause (keyDefinition (d.quoting.quote s) sqlType key)).gluesBefore
          (keyDefinition (d.quoting.quote s) sqlType key) = false ∧
        (Fragment.clause (keyDefinition (d.quoting.quote s) sqlType key)).gluesAfter
          (keyDefinition (d.quoting.quote s) sqlType key) = false := fun s =>
    glues_of_head? hmark (by simp [hdefinition, QuoteStyle.quote, Quoting.write])
  refine ⟨?_, (hglues name).1.trans (hglues "").1.symm, (hglues name).2.trans (hglues "").2.symm⟩
  have htail : Quoting.IsPlain (' ' :: (sqlType.toList ++ options.toList)) :=
    Quoting.IsPlain.append (a := [' ']) (by decide) (htype.append hoptions)
  have hspace : ' ' ∉ Quoting.marks := by decide
  show Quoting.Reads (keyDefinition (d.quoting.quote name) sqlType key).toList [name]
    (keyDefinition (d.quoting.quote "") sqlType key).toList
  rw [hdefinition, hdefinition]
  exact (Quoting.Reads.write hmark name "").append (.plain htail) (Or.inr (by simp [hspace]))
    (Or.inr (by simp [hspace]))

end Fragment.Reads

/-- A statement has some contents in its regions and is like another one outside of them, fragment
by fragment. -/
inductive Statement.Reads (d : Dialect) : Statement → List String → Statement → Prop
  | nil : Reads d [] [] []
  | cons {f fs contents rest like likes} (hf : Fragment.Reads d f contents like)
      (hfs : Reads d fs rest likes) : Reads d (f :: fs) (contents ++ rest) (like :: likes)

/-- No quote character of a fragment meets one of what follows it: there is a space between them, or
one of the two is a clause without quote characters. -/
theorem Dialect.apart_joinFrom (d : Dialect) (f : Fragment) (fs : Statement) :
    Quoting.Apart (d.renderFragment f).toList
      (Statement.joinFrom d.renderFragment (f.gluesAfter (d.renderFragment f)) fs).toList := by
  cases hglue : f.gluesAfter (d.renderFragment f) with
  | true =>
    left
    simp only [Fragment.gluesAfter, Bool.and_eq_true, Bool.or_eq_true, beq_iff_eq] at hglue
    rcases hglue.2 with htext | htext
    · rw [htext]
      decide
    · rw [htext]
      decide
  | false =>
    right
    intro c hc
    have hchars : Quoting.IsPlain [' ', ',', ')', ':'] := by decide
    exact hchars c (d.head?_joinFrom_mem hc)

namespace Statement.Reads

variable {d : Dialect} {s s' like like' : Statement} {contents contents' : List String}

/-- The joined text of a statement has in its regions what its fragments have. -/
theorem joinFrom (h : Reads d s contents like) (glued : Bool) :
    Quoting.Reads (Statement.joinFrom d.renderFragment glued s).toList contents
      (Statement.joinFrom d.renderFragment glued like).toList := by
  induction h generalizing glued with
  | nil => exact .nil
  | @cons f fs contents rest like likes hf _ ih =>
    have hspace : ∀ b : Bool, Quoting.IsPlain (if b then "" else " ").toList := by decide
    have hapart := d.apart_joinFrom like likes
    rw [← hf.gluesAfter] at hapart
    rw [Statement.joinFrom_cons, Statement.joinFrom_cons, ← hf.gluesBefore, ← hf.gluesAfter]
    simp only [String.toList_append, List.append_assoc]
    exact .plain_append (hspace _) (hf.rendered.append (ih _) (d.apart_joinFrom f fs) hapart)

theorem regions_render (h : Reads d s contents like) :
    Quoting.regions (d.render s) = some contents :=
  (h.joinFrom true).regions_eq

theorem outside_render (h : Reads d s contents like) :
    Quoting.outside (d.render s) = Quoting.outside (d.render like) :=
  (h.joinFrom true).outside_eq

/-- Statements that are like the same one are like each other. -/
theorem of_like (h : Reads d s contents like) (h' : Reads d s' contents' like) :
    Reads d s contents s' := by
  induction h generalizing s' contents' with
  | nil =>
    cases h'
    exact .nil
  | cons hf _ ih =>
    cases h' with
    | cons hf' hfs' => exact .cons (hf.of_like hf') (ih hfs')

theorem append (h : Reads d s contents like) (h' : Reads d s' contents' like') :
    Reads d (s ++ s') (contents ++ contents') (like ++ like') := by
  induction h with
  | nil => exact h'
  | cons hf _ ih =>
    rw [List.append_assoc]
    exact .cons hf ih

theorem clause {text : String} (htext : Quoting.IsPlain text.toList) (h : Reads d s contents like) :
    Reads d (.clause text :: s) contents (.clause text :: like) :=
  .cons (.clause htext) h

theorem name (part : String) (h : Reads d s contents like) :
    Reads d (.name part :: s) (part :: contents) (.name "" :: like) :=
  .cons (.name part) h

theorem single {f like : Fragment} (h : f.Reads d contents like) : Reads d [f] contents [like] := by
  have hsingle := cons h nil
  rwa [List.append_nil] at hsingle

theorem clauseIf {text : String} (htext : Quoting.IsPlain text.toList) (wanted : Bool) :
    Reads d (Statement.clauseIf wanted text) [] (Statement.clauseIf wanted text) := by
  cases wanted with
  | false => exact .nil
  | true => exact clause htext .nil

end Statement.Reads

/-- The same of several statements in order. -/
inductive Statement.AllRead (d : Dialect) :
    List Statement → List (List String) → List Statement → Prop
  | nil : AllRead d [] [] []
  | cons {s ss contents rest like likes} (h : Statement.Reads d s contents like)
      (hs : AllRead d ss rest likes) : AllRead d (s :: ss) (contents :: rest) (like :: likes)

namespace Statement.AllRead

variable {d : Dialect} {ss ss' likes likes' : List Statement}
  {contents contents' : List (List String)}

theorem regions_render (h : AllRead d ss contents likes) :
    ss.map (fun s => Quoting.regions (d.render s)) = contents.map some := by
  induction h with
  | nil => rfl
  | cons h _ ih => rw [List.map_cons, List.map_cons, h.regions_render, ih]

theorem outside_render (h : AllRead d ss contents likes) :
    ss.map (fun s => Quoting.outside (d.render s)) =
      likes.map fun s => Quoting.outside (d.render s) := by
  induction h with
  | nil => rfl
  | cons h _ ih => rw [List.map_cons, List.map_cons, h.outside_render, ih]

theorem append (h : AllRead d ss contents likes) (h' : AllRead d ss' contents' likes') :
    AllRead d (ss ++ ss') (contents ++ contents') (likes ++ likes') := by
  induction h with
  | nil => exact h'
  | cons h _ ih => exact .cons h ih

/-- A statement that is there if it is wanted. -/
theorem singleIf {s like : Statement} {contents : List String} (h : s.Reads d contents like)
    (wanted : Bool) :
    AllRead d (if wanted then [s] else []) (if wanted then [contents] else [])
      (if wanted then [like] else []) := by
  cases wanted with
  | false => exact .nil
  | true => exact .cons h .nil

/-- Statements that are made of one item each. -/
theorem map {α : Type} {xs : List α} {f like : α → Statement} {contents : α → List String}
    (h : ∀ x ∈ xs, Statement.Reads d (f x) (contents x) (like x)) :
    AllRead d (xs.map f) (xs.map contents) (xs.map like) := by
  induction xs with
  | nil => exact .nil
  | cons x xs ih =>
    exact .cons (h x List.mem_cons_self) (ih fun x' hx' => h x' (List.mem_cons_of_mem _ hx'))

/-- Statements that are compiled from one item each, as are those that they are like. -/
theorem of_mapM {α : Type} {xs : List α} {f f' : α → Except Rejection Statement} {blank : α → α}
    {contents : α → List String} (hss : xs.mapM f = .ok ss)
    (h : ∀ x ∈ xs, ∀ s, f x = .ok s →
      ∃ like, f' (blank x) = .ok like ∧ Statement.Reads d s (contents x) like) :
    ∃ likes, (xs.map blank).mapM f' = .ok likes ∧ AllRead d ss (xs.map contents) likes := by
  have hall := mapM_eq_ok_iff.mp hss
  clear hss
  induction hall with
  | nil => exact ⟨[], rfl, .nil⟩
  | @cons x s xs ss hx _ ih =>
    obtain ⟨like, hlike, hreads⟩ := h x List.mem_cons_self s hx
    obtain ⟨likes, hlikes, hrest⟩ := ih fun x' hx' => h x' (List.mem_cons_of_mem _ hx')
    refine ⟨like :: likes, ?_, .cons hreads hrest⟩
    rw [List.map_cons, List.mapM_cons, hlike, hlikes]
    rfl

theorem separated (h : AllRead d ss contents likes) :
    Statement.Reads d (Statement.separated ss) contents.flatten (Statement.separated likes) := by
  induction h with
  | nil => exact .nil
  | @cons s ss contents rest like likes h hs ih =>
    cases hs with
    | nil => simpa [Statement.separated] using h
    | cons h' hs => exact h.append (.clause (by decide) ih)

theorem parenthesized (h : AllRead d ss contents likes) :
    Statement.Reads d (Statement.parenthesized ss) contents.flatten
      (Statement.parenthesized likes) := by
  have hend : Statement.Reads d [.clause ")"] [] [.clause ")"] := .clause (by decide) .nil
  have hclosed := h.separated.append hend
  rw [List.append_nil] at hclosed
  exact .clause (by decide) hclosed

end Statement.AllRead

theorem Statement.Reads.names (d : Dialect) (columns : List String) :
    Reads d (Statement.names (columns.map .of)) columns
      (Statement.names ((columns.map fun _ => "").map .of)) := by
  have hall : AllRead d (columns.map fun c => [.name c]) (columns.map fun c => [c])
      (columns.map fun _ => [.name ""]) :=
    .map fun c _ => .single (.name c)
  have hnames := hall.parenthesized
  rw [← List.flatMap_def, List.flatMap_singleton'] at hnames
  rw [Statement.names, Statement.names, List.map_map, List.map_map, List.map_map]
  exact hnames

end SchemaEvolution
