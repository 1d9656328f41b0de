import SchemaEvolution.Database.Document.Binary

/-!
# Paths into documents

A path leads from a document to one within it: to the member with a label, or to the item at a place
of an array.  Its steps are read as they are written (`PathStep.read`), and one that cannot be read
counts only if the path leads as far as that.

* `Document.locate` follows a path, and `Document.find` gives the document at its end.
* `Document.edited` changes what is there.
* `Document.patched` changes the members of objects as a patch asks for.
-/

namespace SchemaEvolution.Database

/-- A step of a path. -/
inductive PathStep where
  | member (label : Leaf)
  | item (place : Nat)
  /-- An item counted from the end of the array; zero is behind the last one. -/
  | itemFromEnd (distance : Nat)
  /-- What cannot be read; one that begins like the step to an item asks for an array first. -/
  | malformed (isItem : Bool)

/-- Why a path leads nowhere. -/
inductive PathFault where
  | absent
  | malformed
deriving DecidableEq

namespace PathStep

/-- The label between quotes, with what follows.  If a backslash is in it, it has escapes. -/
def quotedLabel? : (done : List Char) → List Char → Option (Leaf × List Char)
  | _, [] => none
  | done, c :: cs =>
    if c == '"' then
      some (⟨if done.contains '\\' then .looseText else .rawText, done.reverse⟩, cs)
    else quotedLabel? (c :: done) cs

/-- The place that digits write, which has thirty-two bits. -/
def placeOf (ds : List Char) : Nat :=
  valueOfDigits ds % twoTo 32

/-- The step to an item, behind its bracket, with what follows. -/
def item? (cs : List Char) : Option (PathStep × List Char) :=
  let ds := cs.takeWhile Char.isDigit
  match ds, cs.drop ds.length with
  | _ :: _, ']' :: rest => some (.item (placeOf ds), rest)
  | [], '#' :: ']' :: rest => some (.itemFromEnd 0, rest)
  | [], '#' :: '-' :: rest =>
    let ds := rest.takeWhile Char.isDigit
    match ds, rest.drop ds.length with
    | _ :: _, ']' :: rest => some (.itemFromEnd (placeOf ds), rest)
    | _, _ => none
  | _, _ => none

/-- The step at the front of a path, with what follows it. -/
def first (cs : List Char) : PathStep × List Char :=
  match cs with
  | '.' :: '"' :: cs =>
    match quotedLabel? [] cs with
    | some (l, rest) => (.member l, rest)
    | none => (.malformed false, [])
  | '.' :: cs =>
    let label := cs.takeWhile fun c => c != '.' && c != '['
    if label.isEmpty then (.malformed false, [])
    else (.member ⟨.rawText, label⟩, cs.drop label.length)
  | '[' :: cs => (item? cs).getD (.malformed true, [])
  | _ => (.malformed false, [])

/-- The steps of a path behind its dollar sign; their number is bounded. -/
def read : (bound : Nat) → List Char → List PathStep
  | _, [] => []
  | 0, _ => [.malformed false]
  | bound + 1, cs => (first cs).1 :: read bound (first cs).2

/-- The steps that a text writes. -/
def steps (cs : List Char) : List PathStep :=
  read cs.length cs

/-- The place of an item in an array of so many. -/
def place? (count : Nat) : PathStep → Except PathFault Nat
  | .item n => .ok n
  | .itemFromEnd n => if n ≤ count then .ok (count - n) else .error .absent
  | .member _ => .error .absent
  | .malformed _ => .error .malformed

end PathStep

/-- Where a document lies within another one. -/
structure Spot where
  /-- How many bytes come before it, or before its label if it has one. -/
  start : Nat
  label : Option Leaf := none
  document : Document

/-- How many bytes come before a document itself. -/
def Spot.inner (s : Spot) : Nat :=
  s.start + (s.label.map Leaf.size).getD 0

namespace Document

/-! ## Finding -/

/-- The place of a member. -/
def memberPlace? (l : Leaf) (members : List (Leaf × Document)) : Option Nat :=
  members.findIdx? fun m => m.1.characters == l.characters

/-- The items of an array, or labels and values of an object, where they lie. -/
def parts (s : Spot) : List Spot :=
  let lay (found : List Spot × Nat) (label : Option Leaf) (d : Document) : List Spot × Nat :=
    let spot : Spot := ⟨found.2, label, d⟩
    (found.1 ++ [spot], spot.inner + d.size)
  let start := s.inner + s.document.headerSize
  match s.document with
  | leaf _ => []
  | array items => (items.foldl (fun f d => lay f none d) ([], start)).1
  | object members => (members.foldl (fun f (l, d) => lay f (some l) d) ([], start)).1

/-- Where a path leads from a document. -/
def locate : List PathStep → Spot → Except PathFault Spot
  | [], s => .ok s
  | step :: steps, s =>
    match step, s.document with
    | .malformed false, _ => .error .malformed
    | .member l, object members =>
      match (memberPlace? l members).bind fun i => (parts s)[i]? with
      | some part => locate steps part
      | none => .error .absent
    | .member _, _ => .error .absent
    | step, array items =>
      match step.place? items.length with
      | .ok i =>
        match (parts s)[i]? with
        | some part => locate steps part
        | none => .error .absent
      | .error fault => .error fault
    | _, _ => .error .absent

/-- The document to which a path leads. -/
def find (path : List PathStep) (d : Document) : Except PathFault Document :=
  (locate path { start := 0, document := d }).map (·.document)

/-! ## Changing -/

/-- What is to be done where a path leads. -/
inductive Edit where
  | remove
  | replace (new : Document)
  /-- Put a document where there is none. -/
  | insert (new : Document)
  /-- Put a document there in any case. -/
  | set (new : Document)

namespace Edit

/-- What comes in the place of a document. -/
def result (e : Edit) (old : Document) : Option Document :=
  match e with
  | remove => none
  | insert _ => some old
  | replace new | set new => some new

/-- What comes where there was nothing. -/
def addition? : Edit → Option Document
  | insert new | set new => some new
  | _ => none

end Edit

/-- What a path needs to lead anywhere. -/
def emptyFor : PathStep → Document
  | .member _ => object []
  | .malformed isItem => if isItem then array [] else object []
  | _ => array []

/-- A list with an item taken out, or with another one in its place. -/
def replaceAt {α : Type} (items : List α) (i : Nat) (new : Option α) : List α :=
  items.take i ++ new.toList ++ items.drop (i + 1)

/-- The document with what is at the end of a path changed; nothing if that is the document, and it
is removed.  Where a member or the item behind the last one is missing, and something is to be put
there, what the rest of the path needs is made. -/
def edited (e : Edit) : List PathStep → Document → Except PathFault (Option Document)
  | [], d => .ok (e.result d)
  | step :: steps, d =>
    let made : Except PathFault (Option Document) :=
      match e.addition?, steps with
      | none, _ => .error .absent
      | some new, [] => .ok (some new)
      | some _, next :: _ => edited e steps (emptyFor next)
    match step, d with
    | .malformed false, _ => .error .malformed
    | .member l, object members => do
      match memberPlace? l members with
      | some i =>
        let (label, old) := members.getD i (l, nothing)
        let new ← edited e steps old
        return some (object (replaceAt members i (new.map (label, ·))))
      | none => return some (object (members ++ ((← made).map (l, ·)).toList))
    | .member _, _ => .error .absent
    | step, array items => do
      let i ← step.place? items.length
      match items[i]? with
      | some old =>
        let new ← edited e steps old
        return some (array (replaceAt items i new))
      | none =>
        if i = items.length then return some (array (items ++ (← made).toList))
        else throw .absent
    | _, _ => .error .absent

/-! ## Patches -/

/-- The members of a document, if it is an object. -/
def membersOf : Document → List (Leaf × Document)
  | object members => members
  | _ => []

mutual

/-- A document as a patch changes it: each member of the patch that is nothing takes the member of
that label away, and any other one changes it, or is put there. -/
def patched (target : Document) : (patch : Document) → Document
  | object members => object (patchedMembers (membersOf target) members)
  | leaf l => leaf l
  | array items => array items

/-- Members as those of a patch change them. -/
def patchedMembers (target : List (Leaf × Document)) :
    (patch : List (Leaf × Document)) → List (Leaf × Document)
  | [] => target
  | (l, p) :: ms =>
    let next :=
      match memberPlace? l target with
      | some i =>
        let (label, old) := target.getD i (l, nothing)
        replaceAt target i (if p.isNothing then none else some (label, patched old p))
      | none => if p.isNothing then target else target ++ [(l, patched nothing p)]
    patchedMembers next ms

end

end Document

end SchemaEvolution.Database
