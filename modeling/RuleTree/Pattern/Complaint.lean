import RuleTree.Text
import RuleTree.Text.Quoted

/-!
# Complaints about patterns

Every way in which a pattern can be malformed, with the words that report it and the place in the
pattern that it points to. `Fault` adds the faults that are not about the text of the pattern.
-/

namespace RuleTree.Pattern

inductive Complaint where
  | loneBackslash
  | missingName (what : String)
  | unclosedName (terminator : Char)
  | badName (name : Text)
  | unknownName (name : Text)
  | repeatedName (name : Text) (group earlier : Nat)
  | incompleteEscape (escape : Text)
  | badEscape (escape : Text)
  | octalTooLarge (escape : Text)
  | missingBrace
  | unknownCharacter (name : Text)
  | openGroup
  | groupOfSameLookBehind
  | noSuchGroup (group : Nat)
  | groupNumberZero
  | unclosedSet
  | badRange (lo hi : Text)
  | leastAboveMost
  | nothingToRepeat
  | repeatedRepeat
  | unexpectedEnd
  | unknownExtension (text : Text)
  | unclosedComment
  | unclosedGroup
  | unopenedGroup
  | thirdBranch
  | lateFlags
  | localeLetter
  | mixedRepertoires
  | flagsUnfinished
  | unknownFlag
  | flagTurnsOnWhole
  | flagMissing
  | repertoireTurnedOff
  | colonMissing
  | flagTurnsOffWhole
  | flagOnAndOff
  | variableLookBehind
  | templateOperator (name : String)
deriving DecidableEq, Repr

namespace Complaint

def words : Complaint → String
  | loneBackslash => "bad escape (end of pattern)"
  | missingName what => "missing " ++ what
  | unclosedName terminator => "missing " ++ terminator.toString ++ ", unterminated name"
  | badName name => "bad character in group name " ++ Text.quoted name
  | unknownName name => "unknown group name " ++ Text.quoted name
  | repeatedName name group earlier =>
    "redefinition of group name " ++ Text.quoted name ++ " as group " ++ toString group ++
      "; was group " ++ toString earlier
  | incompleteEscape escape => "incomplete escape " ++ String.ofList escape
  | badEscape escape => "bad escape " ++ String.ofList escape
  | octalTooLarge escape =>
    "octal escape value " ++ String.ofList escape ++ " outside of range 0-0o377"
  | missingBrace => "missing \x7b"
  | unknownCharacter name => "undefined character name " ++ Text.quoted name
  | openGroup => "cannot refer to an open group"
  | groupOfSameLookBehind => "cannot refer to group defined in the same lookbehind subpattern"
  | noSuchGroup group => "invalid group reference " ++ toString group
  | groupNumberZero => "bad group number"
  | unclosedSet => "unterminated character set"
  | badRange lo hi => "bad character range " ++ String.ofList lo ++ "-" ++ String.ofList hi
  | leastAboveMost => "min repeat greater than max repeat"
  | nothingToRepeat => "nothing to repeat"
  | repeatedRepeat => "multiple repeat"
  | unexpectedEnd => "unexpected end of pattern"
  | unknownExtension text => "unknown extension ?" ++ String.ofList text
  | unclosedComment => "missing ), unterminated comment"
  | unclosedGroup => "missing ), unterminated subpattern"
  | unopenedGroup => "unbalanced parenthesis"
  | thirdBranch => "conditional backref with more than two branches"
  | lateFlags => "global flags not at the start of the expression"
  | localeLetter => "bad inline flags: cannot use 'L' flag with a str pattern"
  | mixedRepertoires => "bad inline flags: flags 'a', 'u' and 'L' are incompatible"
  | flagsUnfinished => "missing -, : or )"
  | unknownFlag => "unknown flag"
  | flagTurnsOnWhole => "bad inline flags: cannot turn on global flag"
  | flagMissing => "missing flag"
  | repertoireTurnedOff => "bad inline flags: cannot turn off flags 'a', 'u' and 'L'"
  | colonMissing => "missing :"
  | flagTurnsOffWhole => "bad inline flags: cannot turn off global flag"
  | flagOnAndOff => "bad inline flags: flag turned on and off"
  | variableLookBehind => "look-behind requires fixed-width pattern"
  | templateOperator name => "internal: unsupported template operator " ++ name

end Complaint

/-- A complaint and, if it has one, its place. -/
structure Malformed where
  complaint : Complaint
  position : Option Nat
deriving DecidableEq, Repr

/-- The report on a malformed pattern. In a pattern of several lines the place is also given by line
and column. -/
def Malformed.message (source : Text) (m : Malformed) : String :=
  match m.position with
  | none => m.complaint.words
  | some p =>
    let before := source.take p
    let line := before.count '\n' + 1
    let column := (before.reverse.takeWhile (· != '\n')).length + 1
    m.complaint.words ++ " at position " ++ toString p ++
      (if source.contains '\n' then
        " (line " ++ toString line ++ ", column " ++ toString column ++ ")"
      else "")

inductive Fault where
  | malformed (m : Malformed)
  /-- Flags that cannot hold together, or not for texts. -/
  | flagConflict
  /-- A repetition count beyond what is supported. -/
  | hugeRepetition
deriving DecidableEq, Repr

end RuleTree.Pattern
