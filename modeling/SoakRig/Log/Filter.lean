import SoakRig.Log.Directive

/-!
# Log filters

Which records are written. A filter is a list of directives between commas. Of the directives for a
record the most specific one decides.
-/

namespace SoakRig.Log

/-- Which records are written. -/
structure Filter where
  directives : List Directive

namespace Filter

/-- A filter that lets errors through. -/
def errorsOnly : Filter := ⟨[⟨none, none, some .error, false⟩]⟩

/-- The filter of some directives; without any, errors are let through. -/
def ofDirectives (ds : List Directive) : Filter := if ds.isEmpty then errorsOnly else ⟨ds⟩

/-- The texts of the directives in a filter. -/
def parts (text : String) : List (List Char) :=
  (Text.pieces ',' text.toList).filter (· ≠ [])

/-- Every text as a directive, if each is one. -/
def directives? : List (List Char) → Option (List Directive)
  | [] => some []
  | t :: ts =>
    match Directive.ofText? t, directives? ts with
    | some d, some ds => some (d :: ds)
    | _, _ => none

/-- Reads a filter that has no faults. -/
def ofText? (text : String) : Option Filter := (directives? (parts text)).map ofDirectives

/-- Reads a filter; directives with faults are left out. -/
def ofText (text : String) : Filter :=
  ofDirectives ((parts text).filterMap Directive.ofText?)

/-- The directive that decides about a record. -/
def deciding? (f : Filter) (r : Record) : Option Directive :=
  (f.directives.filter fun d => !d.needsStretch && d.concerns r).foldl
    (fun best d =>
      match best with
      | none => some d
      | some b => if d.overrules b then some d else some b)
    none

/-- The record is written. -/
def lets (f : Filter) (r : Record) : Bool :=
  match f.deciding? r with
  | some d => d.threshold.lets r.level
  | none => false

end Filter

end SoakRig.Log
