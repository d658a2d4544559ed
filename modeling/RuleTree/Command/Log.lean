import RuleTree.Parse.Event

/-!
# Log records

What a command reports while it works. Records below the chosen level are dropped.
-/

namespace RuleTree.Command

inductive Level where
  | debug
  | info
  | warning
  | error
  | critical
deriving DecidableEq, Repr

namespace Level

def name : Level → String
  | debug => "DEBUG"
  | info => "INFO"
  | warning => "WARNING"
  | error => "ERROR"
  | critical => "CRITICAL"

def all : List Level := [debug, info, warning, error, critical]

def rank : Level → Nat
  | debug => 0
  | info => 1
  | warning => 2
  | error => 3
  | critical => 4

/-- Whether records of another level are kept at this one. -/
def admits (threshold level : Level) : Bool := threshold.rank ≤ level.rank

end Level

/-- The part of the program that a record comes from. -/
inductive Origin where
  | command
  | parser
deriving DecidableEq, Repr

structure Record where
  level : Level
  origin : Origin
  message : String
deriving DecidableEq, Repr

namespace Record

def loading (ruleset file : String) : Record :=
  ⟨.info, .command, "Loading ruleset '" ++ ruleset ++ "' from " ++ file⟩

def loadFailed (message : String) : Record :=
  ⟨.error, .command, "Failed to load rules file: " ++ message⟩

def loaded (rules : RuleSet) : Record :=
  ⟨.info, .command, "Loaded " ++ toString rules.length ++ " rule(s)"⟩

def parsing (text : Text) (rules : RuleSet) : Record :=
  ⟨.debug, .parser, "Parsing " ++ toString text.length ++ " character(s) with " ++
    toString rules.length ++ " rule(s)"⟩

/-- The record of an event; calls of supplied functions have none. -/
def ofEvent? : Event → Option Record
  | .ignored rule => some ⟨.debug, .parser, "Ignored match of rule '" ++ rule ++ "'"⟩
  | .entered rule spans depth =>
    some ⟨.debug, .parser, "Rule '" ++ rule ++ "' matched " ++ toString spans ++
      " span(s) at depth " ++ toString depth⟩
  | _ => none

def parseFailed (file message : String) : Record :=
  ⟨.error, .command, "Failed to parse " ++ file ++ ": " ++ message⟩

def parsed (file : String) (nodes : List Node) : Record :=
  ⟨.info, .command, "Parsed " ++ file ++ " into " ++ toString nodes.length ++
    " top-level node(s)"⟩

end Record

end RuleTree.Command
