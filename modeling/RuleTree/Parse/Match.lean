import RuleTree.Parse.Error
import RuleTree.Pattern.Search
import RuleTree.Rule.Printer

/-!
# Matches

The spans that a matcher finds in a text, and the first rule in order of priority that finds any.
-/

namespace RuleTree

/-- The region of a group as a span. -/
def Span.ofRegion : Option (Nat × Nat) → Span
  | none => .absent
  | some (start, stop) => .of start (stop - start)

/-- The spans without the absent ones at the end. -/
def Span.trimAbsent (spans : List Span) : List Span :=
  (spans.reverse.dropWhile fun s => s.start < 0).reverse

/-- The whole match and the groups up to the last one that took part. -/
def Pattern.Found.spans (f : Pattern.Found) : List Span :=
  Span.trimAbsent (.ofRegion (some (f.start, f.stop)) :: f.groups.map .ofRegion)

namespace MatcherFunction

/-- One item of what a matcher function returned. -/
def span (name : String) (item : Datum) : Parse Span :=
  match item.items? with
  | some [a, b] =>
    match a.whole?, b.whole? with
    | some offset, some length =>
      if length.val < 0 then throw (.contract (.badSpan name item)) else return ⟨offset, length⟩
    | _, _ => throw (.contract (.badSpan name item))
  | _ => throw (.contract (.notAPair name item))

/-- What a matcher function returned, taken as spans. -/
def spans (name : String) : Datum → Parse (Option (List Span))
  | .null => return none
  | v =>
    match v.items? with
    | none => throw .notIterable
    | some items => do
      let spans ← items.mapM (span name)
      if spans.isEmpty then throw (.contract (.noSpans name))
      return some spans

end MatcherFunction

/-- The spans found in a text, or nothing where there is no match. -/
def Matcher.spans : Matcher → Text → Parse (Option (List Span))
  | .pattern p, t => return (p.search t).map (·.spans)
  | .function f, t => do
    let v ← Parse.call (f.run t)
    MatcherFunction.spans f.label.plain v

structure Match where
  rule : Rule
  spans : List Span

/-- The first rule whose matcher succeeds. Later rules are not consulted. -/
def RuleSet.findMatch : RuleSet → Text → Parse (Option Match)
  | [], _ => return none
  | r :: rs, t => do
    match ← r.matcher.spans t with
    | some spans => return some ⟨r, spans⟩
    | none => findMatch rs t

end RuleTree
