import RuleTree.Rule.Printer
import RuleTree.Value.HashKey

/-!
# Comparing rule sets

Equality and hash keys of rule sets that were built apart from each other. Patterns are compared by
text and flags and literal options by value. Formatters and functions have an identity of their own,
so those of two sets built apart are never equal. The key of a literal option is made from its text,
not from its value.
-/

namespace RuleTree

namespace Matcher

def same : Matcher → Matcher → Bool
  | pattern p, pattern q => p.same q
  | _, _ => false

def hashKey : Matcher → HashKey
  | pattern p => .seq "pattern" [.text p.source, .number p.flags.code]
  | function _ => .unique

end Matcher

namespace RuleOption

def same : Option RuleOption → Option RuleOption → Bool
  | none, none => true
  | some (.literal v), some (.literal w) => v.same w
  | _, _ => false

def hashKey : Option RuleOption → HashKey
  | none => .seq "null" []
  | some (.literal v) => .ofText (Datum.text v)
  | some (.function _) => .unique

end RuleOption

namespace Excluder

def sameOption : Option Datum → Option Datum → Bool
  | none, none => true
  | some v, some w => v.same w
  | _, _ => false

def same (a b : Excluder) : Bool := a.name.same b.name && sameOption a.option b.option

def sameAll : List Excluder → List Excluder → Bool
  | [], [] => true
  | a :: as, b :: bs => same a b && sameAll as bs
  | _, _ => false

/-- An excluder has a key only if its name and option have one. -/
def hashKey? (e : Excluder) : Option HashKey := do
  let name ← Value.hashKey? Foreign.text e.name
  let option ← match e.option with
    | none => some (.seq "any" [])
    | some d => Value.hashKey? Foreign.text d
  return .seq "tuple" [name, option]

def hashKeys? : Option (List Excluder) → Option HashKey
  | none => some (.seq "null" [])
  | some es => do
    let keys ← es.mapM hashKey?
    return .seq "tuple" keys

end Excluder

namespace Rule

def sameExclude : Option (List Excluder) → Option (List Excluder) → Bool
  | none, none => true
  | some as, some bs => Excluder.sameAll as bs
  | _, _ => false

mutual

def same : Rule → Rule → Bool
  | ⟨name, matcher, capture, formatter, option, ignore, skip, exclude, included, replacement⟩, s =>
    name == s.name && matcher.same s.matcher && capture == s.capture &&
    formatter.isNone && s.formatter.isNone && RuleOption.same option s.option &&
    ignore == s.ignore && skip == s.skip && sameExclude exclude s.exclude &&
    sameAll included s.included &&
    (match replacement, s.replacement with
      | none, none => true
      | some rs, some ss => sameAll rs ss
      | _, _ => false)

def sameAll : List Rule → List Rule → Bool
  | [], [] => true
  | r :: rs, s :: ss => same r s && sameAll rs ss
  | _, _ => false

end

mutual

def hashKey? : Rule → Option HashKey
  | ⟨name, matcher, capture, formatter, option, ignore, skip, exclude, included, replacement⟩ => do
    let exclude ← Excluder.hashKeys? exclude
    let included ← hashKeys? included
    let replacement ← match replacement with
      | none => some (HashKey.seq "null" [])
      | some rs => (hashKeys? rs).map (.seq "tuple")
    return .seq "tuple" [.ofText name, matcher.hashKey,
      (match capture with
        | none => .seq "null" []
        | some n => .ofInt n),
      (if formatter.isSome then .unique else .seq "null" []),
      RuleOption.hashKey option,
      .ofInt (if ignore then 1 else 0), .ofInt (if skip then 1 else 0),
      exclude, .seq "tuple" included, replacement]

def hashKeys? : List Rule → Option (List HashKey)
  | [] => some []
  | r :: rs => do
    let k ← hashKey? r
    let ks ← hashKeys? rs
    return k :: ks

end

end Rule

namespace RuleSet

def same (a b : RuleSet) : Bool := Rule.sameAll a b

/-- The key of a rule set; there is none if some excluder has none. -/
def hashKey? (rules : RuleSet) : Option HashKey := (Rule.hashKeys? rules).map (.seq "tuple")

end RuleSet

end RuleTree
