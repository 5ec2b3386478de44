import Overseer.Log.Entry
import Overseer.Regex.Automaton
import Overseer.Text.Decimal
import Overseer.Text.Fraction

namespace Overseer.Log

open Overseer.Text

def off : Nat := 0

def everything : Nat := Level.trace.rank

def thresholdNames : List (String × Nat) :=
  [("off", 0), ("error", 1), ("warn", 2), ("info", 3), ("debug", 4), ("trace", 5)]

def threshold? (text : String) : Option Nat :=
  match unsigned text with
  | some value => if value ≤ everything then some value else none
  | none => thresholdNames.lookup text.toLower

inductive Recorded
  | number (value : Nat)
  | text (value : String)
deriving DecidableEq

-- The value that a directive asks for. What reads as a number or a truth value
-- is one, and anything else is a pattern.
inductive Wanted
  | number (value : Nat)
  | other
  | pattern (text : String)
deriving DecidableEq

namespace Wanted

def parse (text : String) : Option Wanted :=
  match unsigned text with
  | some value => some (number value)
  | none =>
      if text = "true" || text = "false" || isFraction text then some other
      else (Regex.Expression.parse text).map fun _ => pattern text

def fits (wanted : Wanted) (recorded : Recorded) : Bool :=
  match wanted, recorded with
  | number value, .number held => value = held
  | pattern text, .text held =>
      (Regex.Expression.parse text).any fun expression =>
        (Regex.Automaton.ofExpression expression).findsToEnd held
  | _, _ => false

end Wanted

structure FieldMatch where
  name : String
  value : Option Wanted
deriving DecidableEq

structure Directive where
  threshold : Nat
  target : Option String
  span : Option String
  field : Option FieldMatch
deriving DecidableEq

-- Why the text of a filter says nothing. A cut through a character is worse
-- than a mistake: no logging is set up after it.
inductive FilterFault
  | malformed
  | torn
deriving DecidableEq

def orMalformed : Option α → Except FilterFault α
  | some value => .ok value
  | none => .error .malformed

abbrev Cell := Option Char

def cells (text : List Char) : List Cell :=
  text.flatMap fun c => some c :: List.replicate (c.utf8Size - 1) none

-- A place in a directive's text. The blanks around the text are left out when
-- its signs are looked for, but not when the parts between the signs are cut
-- out. So what is read at a place and what is cut there may be different
-- characters.
structure Place where
  sign : Cell
  content : Cell

def Place.isOneOf (signs : List Char) (place : Place) : Bool := place.sign.any signs.contains

def isInside (following : List Cell) : Bool := following.head? = some none

-- What is cut out, given the cells that come after it. It neither begins nor
-- ends inside a character.
def cut (taken following : List Cell) : Except FilterFault String :=
  if isInside (taken ++ following) || isInside following then .error .torn
  else .ok (String.ofList (taken.filterMap id))

structure Written where
  places : List Place
  tail : List Cell

namespace Written

def ofText (text : String) : Written :=
  let whole := text.toList
  let signs := cells ((whole.dropWhile isBlank).reverse.dropWhile isBlank).reverse
  ⟨(signs.zip (cells whole)).map fun (sign, content) => ⟨sign, content⟩,
    (cells whole).drop signs.length⟩

def cutAll (written : Written) : Except FilterFault String :=
  cut (written.places.map Place.content ++ written.tail) []

def upTo (signs : List Char) (written : Written) :
    Except FilterFault (String × Cell × Written) :=
  match written.places.dropWhile fun place => !place.isOneOf signs with
  | [] => .error .malformed
  | place :: rest => do
      let before := written.places.takeWhile fun place => !place.isOneOf signs
      let text ← cut (before.map Place.content) [place.content]
      pure (text, place.sign, { written with places := rest })

end Written

namespace Directive

def global (threshold : Nat) : Directive := ⟨threshold, none, none, none⟩

def withLevel (directive : Directive) (written : Written) : Except FilterFault Directive := do
  let text ← written.cutAll
  if text.isEmpty then pure { directive with threshold := everything }
  else
    let threshold ← orMalformed (threshold? text)
    pure { directive with threshold }

-- What may follow a span.
def afterSpan (directive : Directive) (written : Written) : Except FilterFault Directive :=
  match written.places with
  | [] => pure directive
  | place :: rest =>
      if place.sign = some '=' then directive.withLevel { written with places := rest }
      else .error .malformed

def fieldMatch? (text : String) : Option FieldMatch :=
  if text.isEmpty then none
  else
    match text.splitOn "=" with
    | name :: value :: _ => (Wanted.parse value).map fun value => ⟨name, some value⟩
    | name :: [] => some ⟨name, none⟩
    | [] => none

def withSpan (directive : Directive) (written : Written) : Except FilterFault Directive := do
  let (name, sign, rest) ← written.upTo [']', '\x7b']
  if sign = some ']' then afterSpan { directive with span := some name } rest
  else
    let (field, _, rest) ← rest.upTo ['\x7d']
    let field ← orMalformed (fieldMatch? field)
    match rest.places with
    | place :: places =>
        if place.sign = some ']' then
          afterSpan
            { directive with
              span := if name.isEmpty then none else some name
              field := some field }
            { rest with places }
        else .error .malformed
    | [] => .error .malformed

def startsName (c : Char) : Bool := isAlphanumeric c || c = '-' || c = ':' || c = '_'

-- A lone word is a threshold, or else a target of which everything is wanted.
def parse (text : String) : Except FilterFault Directive :=
  let written := Written.ofText text
  match written.places with
  | [] => .error .malformed
  | first :: rest =>
      if first.sign = some '[' then
        (global everything).withSpan { written with places := rest }
      else if !first.sign.any startsName then .error .malformed
      else if written.places.any (Place.isOneOf ['=', '[']) then do
        let (name, sign, rest) ← written.upTo ['=', '[']
        let directive := { global everything with target := some name }
        if sign = some '=' then directive.withLevel rest else directive.withSpan rest
      else do
        let word ← written.cutAll
        match threshold? word with
        | some threshold => pure (global threshold)
        | none => pure { global everything with target := some word }

def isDynamic (directive : Directive) : Bool :=
  directive.span.isSome || directive.field.isSome

def isStatic (directive : Directive) : Bool :=
  directive.span.isNone && directive.field.all fun field => field.value.isNone

def sameScope (a b : Directive) : Bool :=
  a.target = b.target && a.span = b.span && a.field = b.field

end Directive

structure Site where
  target : String
  level : Level
  fields : List String

structure Filter where
  directives : List Directive
  ceiling : Nat

namespace Filter

-- Of two directives with the same scope, the later one counts.
def ofDirectives (directives : List Directive) : Filter :=
  let values := directives.any fun directive =>
    directive.field.any fun field => field.value.isSome
  ⟨directives.foldl
      (fun kept directive => kept.filter (fun other => !other.sameScope directive) ++ [directive])
      [],
    if values then everything
    else directives.foldl (fun top directive => max top directive.threshold) off⟩

def uniform (threshold : Nat) : Filter := ofDirectives [Directive.global threshold]

def unlimited : Filter := uniform everything

-- Commas separate directives, each of which has to be well formed. None at all
-- ask for errors only.
def parse (text : String) : Except FilterFault Filter := do
  let directives ← ((text.splitOn ",").filter fun part => !part.isEmpty).mapM Directive.parse
  if directives.isEmpty then pure (uniform Level.error.rank) else pure (ofDirectives directives)

def statics (filter : Filter) : List Directive := filter.directives.filter Directive.isStatic

def dynamics (filter : Filter) : List Directive := filter.directives.filter Directive.isDynamic

def matchesTarget (directive : Directive) (site : Site) : Bool :=
  match directive.target with
  | none => true
  | some target => target.toList.isPrefixOf site.target.toList

def hasField (directive : Directive) (site : Site) : Bool :=
  directive.field.all fun field => site.fields.contains field.name

def isAfter : List Char → List Char → Bool
  | [], _ => false
  | _ :: _, [] => true
  | c :: cs, d :: ds => d.toNat < c.toNat || (c = d && isAfter cs ds)

def narrower (a b : Directive) : Bool :=
  let length (directive : Directive) : Nat :=
    match directive.target with
    | none => 0
    | some target => target.utf8ByteSize + 1
  let name (directive : Directive) : List Char :=
    match directive.field with
    | none => []
    | some field => field.name.toList
  length b < length a ||
    (length a = length b &&
      ((a.field.isSome && b.field.isNone) ||
        (a.field.isSome = b.field.isSome && isAfter (name a) (name b))))

def deciding (filter : Filter) (site : Site) (isEvent : Bool) : Option Directive :=
  let applies (directive : Directive) : Bool :=
    matchesTarget directive site && (!isEvent || hasField directive site)
  (filter.statics.filter applies).foldl
    (fun best directive =>
      match best with
      | none => some directive
      | some other => if narrower directive other then some directive else some other)
    none

def staticallyEnabled (filter : Filter) (site : Site) (isEvent : Bool) : Bool :=
  match filter.deciding site isEvent with
  | none => false
  | some directive => site.level.rank ≤ directive.threshold

def about (filter : Filter) (name : String) (site : Site) : List Directive :=
  filter.dynamics.filter fun directive =>
    matchesTarget directive site && (directive.span.all (· = name)) && hasField directive site

-- A span that a dynamic directive is about is created whatever its level.
def enablesSpan (filter : Filter) (name : String) (site : Site) : Bool :=
  decide (site.level.rank ≤ filter.ceiling) &&
    (!(filter.about name site).isEmpty || filter.staticallyEnabled site false)

def insideSpan (filter : Filter) (name : String) (site : Site)
    (values : List (String × Recorded)) : Nat :=
  let fits (directive : Directive) : Bool :=
    directive.field.all fun field =>
      field.value.all fun wanted => (values.lookup field.name).any wanted.fits
  ((filter.about name site).filter fits).foldl
    (fun top directive => max top directive.threshold) off

def enablesEvent (filter : Filter) (site : Site) (inside : Nat) : Bool :=
  decide (site.level.rank ≤ filter.ceiling) &&
    (decide (site.level.rank ≤ inside) || filter.staticallyEnabled site true)

end Filter

end Overseer.Log
