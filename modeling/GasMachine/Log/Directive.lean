import GasMachine.Log.Event
import GasMachine.Pattern.Check
import GasMachine.Text.Alphanumeric
import GasMachine.Text.Blank
import GasMachine.Text.Decimal
import GasMachine.Text.Number
import GasMachine.Text.Split
/-
Directives: which events a log lets through.

A directive is a level, a target, or a target and a level with an equals sign between them; a target without a level lets
everything through. Brackets behind the target name a span and, in braces, fields: without values the fields are ones
that an event must have, and a directive with a span or a value applies to no event, since no event here is in a span.
A value is a number or a pattern, and is refused where it ends if it is neither. A directive is read character by
character; what stands in it is taken from the text as it was given, at the byte positions that were found in the
trimmed text.
-/
namespace GasMachine.Log

/-- a greatest rank of level, zero for none at all -/
abbrev Threshold := Nat

/-- one directive -/
structure Directive where
  threshold : Threshold
  target : Option String
  span : Option String
  /-- names of fields, and whether a value is asked for -/
  fields : List (String × Bool)
deriving DecidableEq, Repr

/-- why a directive is refused -/
inductive DirectiveError where
  | badLevel
  | badValue (cause : Pattern.Defect)
  | malformed
deriving DecidableEq, Repr

/-- the sentence that reports a refused directive -/
def DirectiveError.message : DirectiveError → String
  | badLevel => "error parsing level filter: expected one of \"off\", \"error\", \"warn\", \"info\", \"debug\", " ++
      "\"trace\", or a number 0-5"
  | badValue cause => "invalid field filter: " ++ cause.message
  | malformed => "invalid filter directive"

/-- the names of thresholds, by rank -/
def thresholdNames : List String := ["off", "error", "warn", "info", "debug", "trace"]

/-- a number from 0 to 5, or a name up to ASCII case; the empty text is the level of errors -/
def threshold? (cs : List Char) : Option Threshold :=
  let digits := Text.Decimal.dropPlus cs
  match (if digits.isEmpty then none else Text.Decimal.digits digits) with
  | some n => if n ≤ 5 then some n else none
  | none =>
    if cs.isEmpty then some 1
    else (thresholdNames.findIdx? fun name => name.toList == cs.map Char.toLower)

namespace Directive

/-- how far a directive has been read, with the place where the part under way began -/
inductive Place where
  | start
  | levelOrTarget (from_ : Nat)
  | span (from_ : Nat)
  | field (from_ : Nat)
  | fields
  | target
  | level (from_ : Nat)
deriving DecidableEq, Repr

/-- what has been read of a directive -/
structure Draft where
  place : Place
  directive : Directive

/-- the text from a byte position on -/
def dropBytes : Nat → List Char → List Char
  | 0, cs => cs
  | _, [] => []
  | n, c :: cs => dropBytes (n - c.utf8Size) cs

/-- the text up to a byte position -/
def takeBytes : Nat → List Char → List Char
  | 0, _ => []
  | _, [] => []
  | n, c :: cs => c :: takeBytes (n - c.utf8Size) cs

/-- the part of a text from one byte position up to another -/
def slice (cs : List Char) (first last : Nat) : List Char := dropBytes first (takeBytes last cs)

/-- a field of a directive: its name, and a value behind an equals sign and up to another one -/
def fieldOf (cs : List Char) : Except DirectiveError (String × Bool) :=
  match Text.split '=' cs with
  | [[]] => .error .malformed
  | name :: value :: _ =>
    if Text.Number.isNumber value then .ok (String.ofList name, true)
    else match Pattern.defect? value with
      | some cause => .error (.badValue cause)
      | none => .ok (String.ofList name, true)
  | _ => .ok (String.ofList cs, false)

/-- the name of a span before its fields, which may be left out -/
def spanName? (cs : List Char) : Option String := if cs.isEmpty then none else some (String.ofList cs)

/-- the draft after one more character, which stands at byte position `i` of the trimmed text -/
def readChar (given : List Char) (d : Draft) (i : Nat) (c : Char) : Except DirectiveError Draft :=
  let dir := d.directive
  match d.place with
  | .start =>
    if c = '[' then .ok ⟨.span (i + 1), dir⟩
    else if c = '-' ∨ c = ':' ∨ c = '_' ∨ Text.isAlphanumeric c then .ok ⟨.levelOrTarget i, dir⟩
    else .error .malformed
  | .levelOrTarget first =>
    if c = '=' then .ok ⟨.level (i + 1), { dir with target := some (String.ofList (slice given first i)) }⟩
    else if c = '[' then .ok ⟨.span (i + 1), { dir with target := some (String.ofList (slice given first i)) }⟩
    else .ok d
  | .target => if c = '=' then .ok ⟨.level (i + 1), dir⟩ else .error .malformed
  | .span first =>
    if c = ']' then .ok ⟨.target, { dir with span := some (String.ofList (slice given first i)) }⟩
    else if c = '\x7b' then .ok ⟨.field (i + 1), { dir with span := spanName? (slice given first i) }⟩
    else .ok d
  | .field first =>
    if c = '\x7d' ∨ c = ',' then
      (fieldOf (slice given first i)).map fun f =>
        ⟨if c = ',' then .field (i + 1) else .fields, { dir with fields := dir.fields ++ [f] }⟩
    else .ok d
  | .fields => if c = ']' then .ok ⟨.target, dir⟩ else .error .malformed
  | .level _ => .ok d

/-- the draft after the rest of a trimmed text from byte position `i` on -/
def readChars (given : List Char) (d : Draft) (i : Nat) : List Char → Except DirectiveError Draft
  | [] => .ok d
  | c :: cs =>
    match readChar given d i c with
    | .ok d' => readChars given d' (i + c.utf8Size) cs
    | .error e => .error e

/-- the directive of a draft at the end of the text -/
def finish (given : List Char) (d : Draft) : Except DirectiveError Directive :=
  match d.place with
  | .levelOrTarget first =>
    let name := dropBytes first given
    if name.isEmpty then .ok d.directive
    else match threshold? name with
      | some threshold => .ok { d.directive with threshold, target := none }
      | none => .ok { d.directive with target := some (String.ofList name) }
  | .level first =>
    let name := dropBytes first given
    if name.isEmpty then .ok d.directive
    else match threshold? name with
      | some threshold => .ok { d.directive with threshold }
      | none => .error .badLevel
  | .target => .ok d.directive
  | _ => .error .malformed

/-- the directive that a text denotes -/
def read (given : List Char) : Except DirectiveError Directive :=
  let empty : Draft := ⟨.start, { threshold := Level.trace.rank, target := none, span := none, fields := [] }⟩
  match readChars given empty 0 (Text.trim given) with
  | .ok d => finish given d
  | .error e => .error e

/-- whether a directive can apply to an event -/
def isStatic (d : Directive) : Bool := d.span.isNone && d.fields.all fun f => !f.2

/-- the names of the fields -/
def fieldNames (d : Directive) : List String := d.fields.map Prod.fst

/-- whether a directive applies to an event: its target starts the event's, and the event has its fields -/
def applies (d : Directive) (e : Event) : Bool :=
  (match d.target with
    | some t => t.toList.isPrefixOf e.target.toList
    | none => true) &&
  d.fieldNames.all fun name => name == "message" || e.fields.any fun f => f.1 == name

/-- whether two directives are about the same events -/
def sameScope (a b : Directive) : Bool := a.target == b.target && a.fieldNames == b.fieldNames

/-- whether `a` is tried before `b`: a longer target first, then more fields -/
def before (a b : Directive) : Bool :=
  let size (d : Directive) : Nat := match d.target with
    | some t => t.utf8ByteSize + 1
    | none => 0
  if size a ≠ size b then size b < size a
  else if a.fields.length ≠ b.fields.length then b.fields.length < a.fields.length
  else decide (b.fieldNames < a.fieldNames)

end Directive

/-- the directives of a log that can apply to events, those tried first in front -/
structure Filter where
  directives : List Directive
deriving DecidableEq, Repr

namespace Filter

/-- one more directive, in its place among the others -/
def insert (d : Directive) : List Directive → List Directive
  | [] => [d]
  | x :: xs =>
    if d.sameScope x then d :: xs
    else if d.before x then d :: x :: xs
    else x :: insert d xs

/-- the filter with one more directive, which takes the place of one about the same events -/
def add (f : Filter) (d : Directive) : Filter := if d.isStatic then ⟨insert d f.directives⟩ else f

/-- whether an event passes: by the first directive that applies -/
def passes (f : Filter) (e : Event) : Bool :=
  match f.directives.find? fun d => d.applies e with
  | some d => e.level.rank ≤ d.threshold
  | none => false

/-- the directive that is a threshold alone -/
def ofThreshold (threshold : Threshold) : Directive := { threshold, target := none, span := none, fields := [] }

/-- the directives between commas that can be read, and the complaints about those that cannot -/
def readLossy (s : String) : List Directive × List String :=
  let pieces := (Text.split ',' s.toList).filter fun p => !p.isEmpty
  (pieces.filterMap fun p => (Directive.read p).toOption,
   pieces.filterMap fun p => match Directive.read p with
    | .ok _ => none
    | .error e => some ("ignoring " ++ "`" ++ String.ofList p ++ "`: " ++ e.message))

/-- the filter of the directives in the environment, or of a fallback if there are none -/
def ofDirectives (ds : List Directive) (fallback : Threshold) : Filter :=
  if ds.isEmpty then (Filter.mk []).add (ofThreshold fallback)
  else ds.foldl add ⟨[]⟩

/-- the filter with all directives between commas added; refused if one of them cannot be read -/
def extend (f : Filter) (s : String) : Except DirectiveError Filter :=
  let pieces := ((Text.split ',' s.toList).map Text.trim).filter fun p => !p.isEmpty
  pieces.foldlM (fun f p => (Directive.read p).map f.add) f

end Filter

end GasMachine.Log
