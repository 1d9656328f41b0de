import SchemaEvolution.Database.Document.Argument
import SchemaEvolution.Database.Function.Aggregate

/-!
# Functions of documents

The functions that take documents apart, change them, or make new ones.  `DocumentFunction.all`
lists them; those that give a document do so in two forms, as a text and in bytes.
-/

namespace SchemaEvolution.Database

/-- A function of documents. -/
structure DocumentFunction where
  name : String
  /-- The least and the greatest number of arguments. -/
  least : Nat := 0
  most : Option Nat := none
  run : List Argument → Except Fault Cell
  /-- The result is known to hold a document. -/
  givesDocument : List Argument → Bool := fun _ => false

namespace DocumentFunction

/-- The form in which a function gives a document. -/
inductive Form where
  | text
  | bytes
deriving DecidableEq

/-- A document in a form. -/
def Form.cell (f : Form) (d : Document) : Cell :=
  match f with
  | text => .text d.text
  | bytes => .blob d.encode

/-- A document that is written as a text, in a form. -/
def Form.ofText (f : Form) (cs : List Char) : Except Fault Cell :=
  match f with
  | text => .ok (.text (String.ofList cs))
  | bytes => do return .blob (← Document.ofText cs).encode

/-- The argument at a place. -/
def nth (arguments : List Argument) (i : Nat) : Cell :=
  (arguments.getD i default).cell

/-- What a function makes of the document that its first argument holds, and of the others; nothing
of nothing. -/
def onDocument (run : Document → List Argument → Except Fault Cell) (arguments : List Argument) :
    Except Fault Cell := do
  match arguments with
  | [] => return .null
  | a :: rest => if a.cell.isNull then return .null else run (← a.cell.document) rest

/-! ## Looking into documents -/

/-- The document to which a path in a cell leads, if there is one. -/
def found (d : Document) (path : Cell) : Except Fault (Option Document) :=
  match path.front with
  | '$' :: steps =>
    match d.find (PathStep.steps steps) with
    | .ok d => .ok (some d)
    | .error .absent => .ok none
    | .error .malformed => .error (Document.badPath path.front)
  | cs => .error (Document.badPath cs)

/-- The document to which a second argument leads, or the whole. -/
def chosen (d : Document) (arguments : List Argument) : Except Fault (Option Document) :=
  match arguments with
  | [] => .ok (some d)
  | a :: _ => if a.cell.isNull then .ok none else found d a.cell

/-- The kind of a document, or of one within it. -/
def kind (d : Document) (arguments : List Argument) : Except Fault Cell := do
  return ((← chosen d arguments).map fun d => Cell.text d.kindWord).getD .null

/-- The number of items of a document, or of one within it. -/
def length (d : Document) (arguments : List Argument) : Except Fault Cell := do
  match ← chosen d arguments with
  | none => return .null
  | some (.array items) => return .ofNat items.length
  | some _ => return .ofNat 0

/-- What paths lead to: a document as a cell for one path, and an array for several. -/
def extract (f : Form) (d : Document) (paths : List Argument) : Except Fault Cell := do
  if paths.isEmpty || paths.any (·.cell.isNull) then
    let _ ← (paths.takeWhile (!·.cell.isNull)).mapM fun p => found d p.cell
    return .null
  let ds ← paths.mapM fun p => found d p.cell
  match ds with
  | [none] => return .null
  | [some d] => return if f = .bytes && d.isStructured then .blob d.encode else d.cell
  | ds => return f.cell (.array (ds.map fun d => d.getD .nothing))

/-- What paths lead to in the document of the first argument, which is not looked at without one. -/
def extractAny (f : Form) (arguments : List Argument) : Except Fault Cell :=
  if arguments.length < 2 then .ok .null else onDocument (extract f) arguments

/-- A path leads to an array or object. -/
def leadsToParts (arguments : List Argument) : Bool :=
  match arguments with
  | [a, p] =>
    match a.cell.document.bind fun d => found d p.cell with
    | .ok (some d) => d.isStructured
    | _ => false
  | _ => true

/-- The steps behind an arrow: a path, a place, or a label. -/
def arrowSteps (path : Cell) : List PathStep :=
  match path.front with
  | '$' :: steps => PathStep.steps steps
  | cs =>
    if path matches .integer _ then PathStep.steps ('[' :: cs ++ [']'])
    else if cs.all fun c => c.isAlphanum || c == '_' then PathStep.steps ('.' :: cs)
    else if cs.head? == some '[' && 3 ≤ cs.length && cs.getLast? == some ']' then
      PathStep.steps cs
    else PathStep.steps (".\"".toList ++ cs ++ ['"'])

/-- What an arrow leads to, as a document or as a cell. -/
def arrow (asDocument : Bool) (d : Document) (arguments : List Argument) : Except Fault Cell :=
  let path := nth arguments 0
  if path.isNull then .ok .null
  else
    match d.find (arrowSteps path) with
    | .ok d => .ok (if asDocument then .text d.text else d.cell)
    | .error .absent => .ok .null
    | .error .malformed => .error (Document.badPath path.front)

/-- Whether a cell holds a document, as far as the flags ask for it: one for JSON, two for JSON5,
four for bytes that look like a document, and eight for bytes that are one. -/
def isValid (arguments : List Argument) : Except Fault Cell := do
  let flags := ((arguments[1]?).map fun a => a.cell.int64.toInt).getD 1
  if flags < 1 ∨ 15 < flags then
    throw (.functionFault "FLAGS parameter to json_valid() must be between 1 and 15")
  let asks (n : Nat) : Bool := flags.toNat / n % 2 = 1
  let c := nth arguments 0
  if c.isNull then return .null
  if c.holdsBytes then
    return .ofBool (asks 4 || asks 8 && (Document.decode? c.bytes).isSome)
  match Document.read c.front with
  | .ok (_, isLoose) => return .ofBool (asks 2 || asks 1 && !isLoose)
  | .error _ => return .ofBool false

/-- Where a text stops being a document, counted from one; zero if it is one. -/
def errorPlace (c : Cell) : Cell :=
  if c.isNull then .null
  else if c.holdsBytes then .ofBool (Document.decode? c.bytes).isNone
  else
    match Document.read c.front with
    | .ok _ => .ofNat 0
    | .error left => .ofNat (c.front.length - left + 1)

/-! ## Making documents -/

/-- An array of the arguments. -/
def array (f : Form) (arguments : List Argument) : Except Fault Cell := do
  f.ofText ('[' :: Document.joined (← arguments.mapM (·.write)) ++ [']'])

/-- Arguments in pairs. -/
def pairs : List Argument → List (Argument × Argument)
  | a :: b :: rest => (a, b) :: pairs rest
  | _ => []

/-- An object of the arguments, which are labels and values in turn. -/
def object (f : Form) (arguments : List Argument) : Except Fault Cell := do
  if arguments.length % 2 = 1 then
    throw (.functionFault "json_object() requires an even number of arguments")
  let members ← (pairs arguments).mapM fun (l, a) => do
    if !l.cell.isText then throw (.functionFault "json_object() labels must be TEXT")
    return Document.quoted l.cell.string.toList ++ ':' :: (← a.write)
  f.ofText ('\x7b' :: Document.joined members ++ ['\x7d'])

/-! ## Changing documents -/

/-- A document with what is at the end of a path changed. -/
def change (e : Document.Edit) (d : Document) (path : List Char) :
    Except Fault (Option Document) :=
  match path with
  | '$' :: steps =>
    match d.edited e (PathStep.steps steps) with
    | .ok d => .ok d
    | .error .absent => .ok (some d)
    | .error .malformed => .error (Document.badPath path)
  | _ => .error (Document.badPath path)

/-- A document without what is at the end of paths. -/
def removed (d : Document) : List Argument → Except Fault (Option Document)
  | [] => .ok (some d)
  | p :: ps => do
    if p.cell.isNull then return none
    match ← change .remove d p.cell.front with
    | some d => removed d ps
    | none => return none

/-- A document with what is at the end of paths changed; each path comes before the new part. -/
def changed (edit : Document → Document.Edit) (d : Document) (arguments : List Argument) :
    Except Fault Document :=
  (pairs arguments).foldlM (fun d (p, a) => do
    if p.cell.isNull then return d
    if p.cell.front.head? != some '$' then throw (Document.badPath p.cell.front)
    return ((← change (edit (← a.document)) d p.cell.front).getD d)) d

/-- The fault of paths and new parts that are not in pairs. -/
def unpaired (name : String) : Fault :=
  .functionFault s!"json_{name}() needs an odd number of arguments"

/-! ## The list of functions -/

/-- A function that gives a document in two forms. -/
def inBoth (name : String) (least : Nat) (most : Option Nat)
    (run : Form → List Argument → Except Fault Cell) : List DocumentFunction := [
  { name := "json" ++ name, least := least, most := most, run := run .text
    givesDocument := fun _ => true },
  { name := "jsonb" ++ name, least := least, most := most, run := run .bytes }]

/-- A function that changes a document by paths and new parts. -/
def changing (name : String) (edit : Document → Document.Edit) : List DocumentFunction :=
  inBoth ("_" ++ name) 0 none fun f arguments =>
    if arguments.length % 2 = 0 then .error (unpaired name)
    else onDocument (fun d rest => do return f.cell (← changed edit d rest)) arguments

/-- A function that looks into a document. -/
def looking (name : String) (least most : Nat)
    (run : Document → List Argument → Except Fault Cell) : DocumentFunction where
  name := name
  least := least
  most := some most
  run := onDocument run

/-- The functions of documents. -/
def all : List DocumentFunction :=
  inBoth "" 1 (some 1) (fun f => onDocument fun d _ => .ok (f.cell d)) ++
  inBoth "_array" 0 none array ++
  inBoth "_object" 0 none object ++
  inBoth "_remove" 0 none (fun f => onDocument fun d paths => do
    return ((← removed d paths).map f.cell).getD .null) ++
  inBoth "_patch" 2 (some 2) (fun f => onDocument fun d rest =>
    onDocument (fun p _ => .ok (f.cell (d.patched p))) rest) ++
  changing "insert" .insert ++ changing "replace" .replace ++ changing "set" .set ++ [
  { name := "json_extract", run := extractAny .text, givesDocument := leadsToParts },
  { name := "jsonb_extract", run := extractAny .bytes },
  { looking "->" 2 2 (arrow true) with givesDocument := fun _ => true },
  looking "->>" 2 2 (arrow false),
  looking "json_type" 1 2 kind,
  looking "json_array_length" 1 2 length,
  { name := "json_valid", least := 1, most := some 2, run := isValid },
  { name := "json_error_position", least := 1, most := some 1
    run := fun arguments => .ok (errorPlace (nth arguments 0)) },
  { name := "json_quote", least := 1, most := some 1, givesDocument := fun _ => true
    run := fun arguments => do Form.text.ofText (← (arguments.getD 0 default).write) },
  looking "json_pretty" 1 2 fun d rest =>
    let indent := match rest with
      | [] => "    ".toList
      | a :: _ => if a.cell.isNull then "    ".toList else a.cell.front
    .ok (.text (String.ofList (d.pretty indent)))]

/-! ## Functions of several rows -/

/-- A function that gives a document of several rows in two forms. -/
def grouping (name : String) (count written : Nat) (run : List (List Cell) → List Char) :
    List AggregateFunction :=
  let inForm (front : String) (f : Form) : AggregateFunction := {
    name := front ++ name, least := count, most := count, written := some written
    run := fun _ rows => f.ofText (run rows), givesDocument := f = .text }
  [inForm "json" .text, inForm "jsonb" .bytes]

/-- A cell as a label is written; nothing has none. -/
def labelText (c : Cell) : List Char :=
  if c.isNull then [] else Document.quoted c.string.toList

/-- The functions that give a document of several rows. -/
def aggregates : List AggregateFunction :=
  grouping "_group_array" 1 0 (fun rows =>
    let items := rows.map fun row => (row.headD .null).string.toList
    '[' :: Document.joined items ++ [']']) ++
  grouping "_group_object" 2 1 fun rows =>
    let members := rows.map fun row =>
      labelText (row.headD .null) ++ ':' :: (row.getD 1 .null).string.toList
    '\x7b' :: Document.joined members ++ ['\x7d']

end DocumentFunction

end SchemaEvolution.Database
