/-
Which lines of the log are shown.

A filter is written as rules with commas between them. A rule names a level, or a part of the
program with all that it writes, or a part and a level with an equals sign between them.
-/
import TripCards.Log.Line
import TripCards.Text.Alphanumeric
import TripCards.Text.Blank
import TripCards.Text.Digit
import TripCards.Text.Parts

namespace TripCards

/-- How detailed a line may be. Nothing is shown without a level. -/
structure LogRule where
  /-- What the names of the parts start with that the rule is for; all parts without one. -/
  target : Option (List Char)
  level : Option LogLevel
  /-- Rules for spans of work are for no line, as no work is put into spans. -/
  isForSpans : Bool
deriving DecidableEq, Repr

inductive LogRuleFault where
  | badRule
  | badLevel
deriving DecidableEq, Repr

def LogRuleFault.message : LogRuleFault → String
  | badRule => "invalid filter directive"
  | badLevel =>
      "error parsing level filter: expected one of \"off\", \"error\", \"warn\", \"info\", " ++
      "\"debug\", \"trace\", or a number 0-5"

namespace LogRule

def levels : List (String × Option LogLevel) := [
  ("off", none), ("error", some .error), ("warn", some .warn), ("info", some .info),
  ("debug", some .debug), ("trace", some .trace)]

/-- The value of a numeral, which may begin with a plus sign and with zeros. -/
def numeral? (text : List Char) : Option Nat :=
  let digits := if text.head? == some '+' then text.tail else text
  if digits.isEmpty || !digits.all Char.isDigit then none
  else some (Text.decimal digits)

/-- A level by its name in any case of letters, or by its place among the levels. -/
def level? (text : List Char) : Option (Option LogLevel) :=
  let name := String.ofList (text.map Char.toLower)
  match (numeral? text).bind fun n => (levels[n]?).map Prod.snd with
  | some level => some level
  | none =>
    if text.isEmpty then some (some .error)
    else (levels.find? fun (known, _) => known == name).map Prod.snd

/-- What follows an equals sign; nothing there is the most detailed level. -/
def givenLevel (text : List Char) : Except LogRuleFault (Option LogLevel) :=
  if text.isEmpty then .ok (some .trace)
  else
    match level? text with
    | some level => .ok level
    | none => .error .badLevel

/-- A rule for spans, from behind its opening bracket: a name, one field in braces, or both. -/
def ofSpan (target : Option (List Char)) (text : List Char) : Except LogRuleFault LogRule :=
  let rest := text.dropWhile fun c => c != ']' && c != '\x7b'
  let behind :=
    if rest.head? == some '\x7b' then
      let field := rest.tail.takeWhile (· != '\x7d')
      if field.isEmpty then [] else (rest.tail.drop field.length).tail
    else rest
  match behind with
  | ']' :: [] => .ok ⟨target, some .trace, true⟩
  | ']' :: '=' :: level => (givenLevel level).map fun level => ⟨target, level, true⟩
  | _ => .error .badRule

/-- A rule. Its marks are looked for between the blanks around it, which count for the places of
its parts. -/
def ofString (text : List Char) : Except LogRuleFault LogRule :=
  let body := Text.trim text
  match body with
  | [] => .error .badRule
  | c :: _ =>
    if c == '[' then ofSpan none (text.drop 1)
    else if !(c == '-' || c == ':' || c == '_' || Text.isAlphanumeric c) then .error .badRule
    else
      let name := body.takeWhile fun c => c != '=' && c != '['
      let target := text.take name.length
      match body.drop name.length with
      | [] =>
        match level? text with
        | some level => .ok ⟨none, level, false⟩
        | none => .ok ⟨some text, some .trace, false⟩
      | mark :: _ =>
        let rest := text.drop (name.length + 1)
        if mark == '=' then (givenLevel rest).map fun level => ⟨some target, level, false⟩
        else ofSpan (some target) rest

def isFor (rule : LogRule) (topic : LogTopic) : Bool :=
  !rule.isForSpans && rule.target.all (·.isPrefixOf topic.name.toList)

def reach (rule : LogRule) : Nat :=
  rule.target.elim 0 (·.length + 1)

def allows (rule : LogRule) (level : LogLevel) : Bool :=
  rule.level.any (level.detail ≤ ·.detail)

end LogRule

abbrev LogFilter : Type := List LogRule

namespace LogFilter

/-- The rules of a text, each read for itself. -/
def readRules (text : String) : List (List Char × Except LogRuleFault LogRule) :=
  let parts := (Text.splitAt ',' text.toList).filter (!·.isEmpty)
  parts.map fun part => (part, LogRule.ofString part)

/-- Errors alone are shown where no rule is given. -/
def orErrors (rules : List LogRule) : LogFilter :=
  if rules.isEmpty then [⟨none, some .error, false⟩] else rules

/-- A filter all of whose rules can be read. -/
def ofString? (text : String) : Option LogFilter :=
  (((readRules text).map Prod.snd).mapM Except.toOption).map orErrors

/-- The filter of the rules that can be read. -/
def ofReadable (text : String) : LogFilter :=
  orErrors (((readRules text).map Prod.snd).filterMap Except.toOption)

/-- What is said about the rules that cannot be read. -/
def complaints (text : String) : List String :=
  (readRules text).filterMap fun (part, rule) =>
    match rule with
    | .ok _ => none
    | .error fault => some ("ignoring \x60" ++ String.ofList part ++ "\x60: " ++ fault.message)

/-- Of the rules for a part the one with the longest target holds, and the last of those. -/
def ruleFor (filter : LogFilter) (topic : LogTopic) : Option LogRule :=
  (filter.filter (·.isFor topic)).foldl
    (fun best rule => if best.all (·.reach ≤ rule.reach) then some rule else best) none

def shows (filter : LogFilter) (line : LogLine) : Bool :=
  (filter.ruleFor line.topic).any (·.allows line.level)

end LogFilter
end TripCards
