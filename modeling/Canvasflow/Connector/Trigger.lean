import Canvasflow.Text.Blank
import Canvasflow.Text.Quoted
import Canvasflow.Program.Parser

/-!
# Triggers

What makes a connector run, read off its text. A program text is a word that names a trigger,
perhaps empty, and then a mapping in braces or a body behind an empty parameter list; blanks may
stand around the word. Without a word, only a text that opens with an empty parameter list is a
body, so that labels in parentheses stay labels.
-/

namespace Canvasflow.Connector

open Canvasflow.Text Canvasflow.Program

/-- What makes a connector run. -/
inductive Trigger where
  | change
  | click
  | tick
  | spatial
  deriving DecidableEq, Repr

namespace Trigger

/-- Every trigger. -/
def all : List Trigger := [change, click, tick, spatial]

/-- The word in front of a program that names its trigger. -/
def word : Trigger → String
  | change => ""
  | click => "click"
  | tick => "tick"
  | spatial => "geo"

/-- The name of a trigger. -/
def name : Trigger → String
  | change => "CHANGE"
  | click => "CLICK"
  | tick => "TICK"
  | spatial => "SPATIAL"

/-- The trigger that a word names. -/
def ofWord? (word : String) : Option Trigger :=
  all.find? fun trigger => trigger.word = word

/-- The trigger of a given name. -/
def ofName? (name : String) : Option Trigger :=
  all.find? fun trigger => trigger.name = name

/-- What is said of a word that names no trigger. -/
def unknownMessage (word : String) : String :=
  "Unknown trigger prefix: " ++ quoted word

/-- A trigger is the one that its word names. -/
theorem ofWord?_word (trigger : Trigger) : ofWord? trigger.word = some trigger := by
  cases trigger <;> rfl

end Trigger

/-- The trigger, the grammar and the program of a text. -/
structure Classification where
  trigger : Trigger
  grammar : Grammar
  source : String
  deriving DecidableEq, Repr

/-- Whether the character may stand in the word that names a trigger. -/
def isTriggerLetter (c : Char) : Bool :=
  ('a' ≤ c && c ≤ 'z') || ('A' ≤ c && c ≤ 'Z') || c = '_'

/-- Whether a text opens with an empty parameter list. -/
def opensWithEmptyParameters : List Char → Bool
  | '(' :: rest => (rest.dropWhile isBlank).head? = some ')'
  | _ => false

/-- The classification of a text, if it is a program text. -/
def classify (text : String) : Option Classification := do
  let chars := text.toList.dropWhile isBlank
  let trigger ← Trigger.ofWord? (String.ofList (chars.takeWhile isTriggerLetter))
  let program := (chars.dropWhile isTriggerLetter).dropWhile isBlank
  let grammar ← match program with
    | '\x7b' :: _ => some .shorthand
    | '(' :: _ =>
      if trigger = .change ∧ opensWithEmptyParameters program = false then none
      else some .expanded
    | _ => none
  return ⟨trigger, grammar, String.ofList (trimEnd program)⟩

/-- Whether a text is a program with the trigger. -/
def hasTrigger (text : String) (trigger : Trigger) : Bool :=
  match classify text with
  | some found => found.trigger = trigger
  | none => false

example : (classify " click ( \x7b ").map Classification.source = some "( \x7b" := by decide +kernel

example : classify "(optional)" = none := by decide +kernel

end Canvasflow.Connector
