/-!
# Quoting

A quoted text stands between two quote characters, and a quote character inside it is written twice.
`Quoting.read?` is the reader for this form: a quote character that is not followed by another one
ends the text.  It reads back what was written, whatever follows, unless a further quote character
follows at once (`read?_write`).
-/

namespace SchemaEvolution

namespace Quoting

/-- Writes every quote character twice. -/
def double (q : Char) : List Char → List Char
  | [] => []
  | c :: cs => if c = q then q :: q :: double q cs else c :: double q cs

/-- A text between quote characters (`quote_text`). -/
def write (q : Char) (s : String) : String :=
  String.ofList (q :: double q s.toList ++ [q])

/-- Reads on after the opening quote character: the text, and what follows the closing one. -/
def readBody? (q : Char) : List Char → Option (List Char × List Char)
  | [] => none
  | [c] => if c = q then some ([], []) else none
  | c :: d :: cs =>
    if c = q then
      if d = q then (readBody? q cs).map fun (s, rest) => (q :: s, rest)
      else some ([], d :: cs)
    else (readBody? q (d :: cs)).map fun (s, rest) => (c :: s, rest)

/-- Reads a quoted text off the front: the text, and what follows it. -/
def read? (q : Char) : List Char → Option (String × List Char)
  | [] => none
  | c :: cs =>
    if c = q then (readBody? q cs).map fun (s, rest) => (String.ofList s, rest) else none

theorem readBody?_double (q : Char) (s rest : List Char) (hrest : rest.head? ≠ some q) :
    readBody? q (double q s ++ q :: rest) = some (s, rest) := by
  induction s with
  | nil =>
    cases rest with
    | nil => simp [double, readBody?]
    | cons d ds =>
      have hd : d ≠ q := by simpa using hrest
      simp [double, readBody?, hd]
  | cons c cs ih =>
    by_cases hc : c = q
    · simp [double, readBody?, hc, ih]
    · obtain ⟨d, ds, hds⟩ : ∃ d ds, double q cs ++ q :: rest = d :: ds :=
        List.exists_cons_of_ne_nil (by simp)
      simp [double, readBody?, hc, hds, hds ▸ ih]

theorem read?_write (q : Char) (s : String) (rest : List Char) (hrest : rest.head? ≠ some q) :
    read? q ((write q s).toList ++ rest) = some (s, rest) := by
  simp [read?, write, readBody?_double q s.toList rest hrest]

end Quoting

/-- How names are quoted. -/
inductive QuoteStyle where
  /-- Between double quotes, as the standard has it. -/
  | doubleQuote
  /-- Between backticks. -/
  | backtick
deriving DecidableEq

namespace QuoteStyle

/-- The quote character of a style. -/
def mark : QuoteStyle → Char
  | doubleQuote => '"'
  | backtick => '\x60'

/-- A name in quotes (`QuoteStyle::quote`). -/
def quote (style : QuoteStyle) (name : String) : String :=
  Quoting.write style.mark name

end QuoteStyle

end SchemaEvolution
