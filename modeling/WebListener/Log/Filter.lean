import WebListener.Log.Event
import WebListener.Text.Blank
import WebListener.Text.Decimal
import WebListener.Text.Split
-- Which events are shown. A filter is a list of directives, each for the origins whose name
-- starts with its target; of those that apply the longest target decides.
namespace WebListener.Log

def Level.rank : Level → Nat
  | .error => 1
  | .warn => 2
  | .info => 3
  | .debug => 4
  | .trace => 5

abbrev Threshold := Nat

-- A directive for spans applies to no event, since no event stands in a span.
structure Directive where
  target : List Char
  spans : Bool
  threshold : Threshold
deriving DecidableEq, Repr

inductive DirectiveFault where
  | malformed
  | level
deriving DecidableEq, Repr

def DirectiveFault.message : DirectiveFault → String
  | .malformed => "invalid filter directive"
  | .level =>
    "error parsing level filter: expected one of \"off\", \"error\", \"warn\", \"info\", " ++
      "\"debug\", \"trace\", or a number 0-5"

namespace Directive

def thresholdNames : List (String × Threshold) :=
  [("off", 0), ("error", 1), ("warn", 2), ("info", 3), ("debug", 4), ("trace", 5)]

def everything : Threshold := 5

def numbered? (cs : List Char) : Option Threshold :=
  let digits := match cs with
    | '+' :: rest => rest
    | _ => cs
  (Text.decimal? digits).filter (· ≤ everything)

def threshold? (cs : List Char) : Option Threshold :=
  match numbered? cs with
  | some n => some n
  | none => (thresholdNames.find? fun (name, _) => name.toList = cs.map Char.toLower).map (·.2)

def readLevel (cs : List Char) : Except DirectiveFault Threshold :=
  if cs.isEmpty then .ok everything
  else match threshold? cs with
    | some threshold => .ok threshold
    | none => .error .level

def mayStart (c : Char) : Bool := c.isAlphanum || 128 ≤ c.toNat || ['-', ':', '_'].contains c

def afterSpan (target rest : List Char) : Except DirectiveFault Directive :=
  match rest with
  | [] => .ok ⟨target, true, everything⟩
  | '=' :: level => (readLevel level).map (⟨target, true, ·⟩)
  | _ => .error .malformed

def readSpan (target rest : List Char) : Except DirectiveFault Directive :=
  match Text.splitFirst [']'] rest with
  | some (_, rest) => afterSpan target rest
  | none => .error .malformed

def read (cs : List Char) : Except DirectiveFault Directive :=
  let word := cs.takeWhile fun c => c ≠ '=' && c ≠ '['
  if word.isEmpty then
    match cs with
    | '[' :: rest => readSpan [] rest
    | _ => .error .malformed
  else if !(word.head?.any mayStart) then .error .malformed
  else match cs.drop word.length with
    | '=' :: level => (readLevel level).map (⟨word, false, ·⟩)
    | '[' :: rest => readSpan word rest
    | _ =>
      match threshold? word with
      | some threshold => .ok ⟨[], false, threshold⟩
      | none => .ok ⟨word, false, everything⟩

def applies (directive : Directive) (event : Event) : Bool :=
  !directive.spans && directive.target.isPrefixOf event.origin.target.toList

end Directive

abbrev Filter := List Directive

namespace Filter

def fallback : Directive := ⟨[], false, Level.error.rank⟩

def pieces (text : String) : List (List Char) :=
  (Text.splitAll ',' text.toList).filter (!·.isEmpty)

def read (text : String) : Filter × List String :=
  let found := (pieces text).map fun piece => (piece, Directive.read (Text.trimmed piece))
  let directives := found.filterMap fun (_, directive) => directive.toOption
  let ignored := found.filterMap fun (piece, directive) =>
    match directive with
    | .ok _ => none
    | .error fault => some ("ignoring \x60" ++ .ofList piece ++ "\x60: " ++ fault.message)
  (if directives.isEmpty then [fallback] else directives, ignored)

def deciding? (filter : Filter) (event : Event) : Option Directive :=
  (filter.filter (·.applies event)).foldl (fun best directive =>
    match best with
    | none => some directive
    | some other =>
      if other.target.length ≤ directive.target.length then some directive else some other) none

def shows (filter : Filter) (event : Event) : Bool :=
  match filter.deciding? event with
  | some directive => event.level.rank ≤ directive.threshold
  | none => false

end Filter

end WebListener.Log
