import Canvasflow.Program.Compiled

/-!
# Program cache

The compiled programs of connectors with the texts that they were compiled from. An entry counts
only while the connector has that text, so a program is compiled once for every text and never used
for another one. That a text does not compile is remembered, too. A connector that is gone has no
text, and its entry is one without a program under the empty text.
-/

namespace Canvasflow.Connector

open Canvasflow.Program

/-- A text and its program, if it has one. -/
structure CacheEntry where
  text : String
  program? : Option Compiled

/-- The programs of the connectors with one trigger. -/
structure ProgramCache where
  trigger : Trigger
  maxSteps : Int
  entries : Entries CacheEntry

/-- The program of a text, if the text is a program with the trigger and can be read. -/
def programOf (trigger : Trigger) (maxSteps : Int) (text : String) : Option Compiled :=
  match classify text with
  | some found =>
    if found.trigger = trigger then (compile found maxSteps).toOption else none
  | none => none

namespace ProgramCache

/-- The cache without entries. -/
def empty (trigger : Trigger) (maxSteps : Int) : ProgramCache :=
  ⟨trigger, maxSteps, []⟩

/-- The entry of a connector. -/
def entry? (cache : ProgramCache) (connector : String) : Option CacheEntry :=
  Entries.find? connector cache.entries

/-- Whether the connector has an entry for the text. -/
def isCurrent (cache : ProgramCache) (connector text : String) : Bool :=
  match cache.entry? connector with
  | some entry => entry.text = text
  | none => false

/-- Compile the text of a connector, which is none when the connector is gone. -/
def renew (cache : ProgramCache) (connector : String) (text? : Option String) :
    Option Compiled × ProgramCache :=
  let entry : CacheEntry := match text? with
    | none => ⟨"", none⟩
    | some text => ⟨text, programOf cache.trigger cache.maxSteps text⟩
  (entry.program?, { cache with entries := Entries.set connector entry cache.entries })

/-- The program of a connector with the given text, compiled only if the entry is for another one.
-/
def get (cache : ProgramCache) (connector : String) (text? : Option String) :
    Option Compiled × ProgramCache :=
  match cache.entry? connector with
  | some entry =>
    if text? = some entry.text then (entry.program?, cache) else cache.renew connector text?
  | none => cache.renew connector text?

/-- See to it that the entry of a connector is for the given text. -/
def ensure (cache : ProgramCache) (connector : String) (text? : Option String) : ProgramCache :=
  match text? with
  | none => (cache.renew connector none).2
  | some text =>
    if cache.isCurrent connector text then cache else (cache.renew connector (some text)).2

/-- Drop the entry of a connector. -/
def delete (cache : ProgramCache) (connector : String) : ProgramCache :=
  { cache with entries := Entries.erase connector cache.entries }

/-- Drop every entry. -/
def clear (cache : ProgramCache) : ProgramCache :=
  { cache with entries := [] }

end ProgramCache

end Canvasflow.Connector
