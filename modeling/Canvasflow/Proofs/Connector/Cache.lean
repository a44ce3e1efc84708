import Canvasflow.Connector.Cache

/-!
# The transparency of the program cache

An entry of a cache counts only for the text that it holds, so a cache may hold entries of any age
as long as each of them is what its own text compiles to. That is `ProgramCache.Sound`; every
operation keeps it (`Sound.tended`), in whatever order texts change in between, and with it a cache
answers as if nothing were cached (`Sound.get_eq`).
-/

namespace Canvasflow.Connector

open Canvasflow.Program

/-- A text without anything in it is no program. It is the text under which a connector that is gone
is remembered. -/
theorem programOf_empty (trigger : Trigger) (maxSteps : Int) :
    programOf trigger maxSteps "" = none :=
  rfl

namespace ProgramCache

/-- A cache of programs with a trigger and a budget, each entry of which is what its text compiles
to. -/
structure Sound (trigger : Trigger) (maxSteps : Int) (cache : ProgramCache) : Prop where
  trigger_eq : cache.trigger = trigger
  maxSteps_eq : cache.maxSteps = maxSteps
  compiled : ∀ {connector : String} {entry : CacheEntry}, cache.entry? connector = some entry →
    entry.program? = programOf trigger maxSteps entry.text

/-- What a single operation may make of a cache, where connectors have the given texts. -/
inductive Tended (textOf? : String → Option String) (cache : ProgramCache) : ProgramCache → Prop
  | untouched : Tended textOf? cache cache
  | got (connector : String) : Tended textOf? cache (cache.get connector (textOf? connector)).2
  | renewed (connector : String) :
      Tended textOf? cache (cache.renew connector (textOf? connector)).2
  | ensured (connector : String) : Tended textOf? cache (cache.ensure connector (textOf? connector))
  | deleted (connector : String) : Tended textOf? cache (cache.delete connector)
  | cleared : Tended textOf? cache cache.clear

variable {trigger : Trigger} {maxSteps : Int} {cache next : ProgramCache}

theorem empty_sound (trigger : Trigger) (maxSteps : Int) :
    (empty trigger maxSteps).Sound trigger maxSteps :=
  ⟨rfl, rfl, nofun⟩

namespace Sound

/-- Compiling anew gives what the text compiles to. -/
theorem renew_eq (h : cache.Sound trigger maxSteps) (connector : String) (text? : Option String) :
    (cache.renew connector text?).1 = text?.bind (programOf trigger maxSteps) := by
  cases text? with
  | none => rfl
  | some text => simp only [renew, h.trigger_eq, h.maxSteps_eq, Option.bind_some]

theorem renew (h : cache.Sound trigger maxSteps) (connector : String) (text? : Option String) :
    (cache.renew connector text?).2.Sound trigger maxSteps where
  trigger_eq := h.trigger_eq
  maxSteps_eq := h.maxSteps_eq
  compiled {other} {entry} hentry := by
    simp only [ProgramCache.renew, entry?] at hentry
    by_cases hother : other = connector
    · rw [hother, Entries.find?_set_self] at hentry
      cases hentry
      cases text? with
      | none => exact (programOf_empty trigger maxSteps).symm
      | some text => simp only [h.trigger_eq, h.maxSteps_eq]
    · rw [Entries.find?_set_of_ne hother] at hentry
      exact h.compiled hentry

/-- A cache answers as if nothing were cached, whatever texts its entries were made for. -/
theorem get_eq (h : cache.Sound trigger maxSteps) (connector : String) (text? : Option String) :
    (cache.get connector text?).1 = text?.bind (programOf trigger maxSteps) := by
  unfold ProgramCache.get
  split
  · rename_i entry hentry
    split
    · rename_i htext
      rw [htext, h.compiled hentry, Option.bind_some]
    · exact h.renew_eq connector text?
  · exact h.renew_eq connector text?

theorem get (h : cache.Sound trigger maxSteps) (connector : String) (text? : Option String) :
    (cache.get connector text?).2.Sound trigger maxSteps := by
  unfold ProgramCache.get
  split
  · split
    · exact h
    · exact h.renew connector text?
  · exact h.renew connector text?

theorem ensure (h : cache.Sound trigger maxSteps) (connector : String) (text? : Option String) :
    (cache.ensure connector text?).Sound trigger maxSteps := by
  unfold ProgramCache.ensure
  split
  · exact h.renew connector none
  · split
    · exact h
    · exact h.renew connector _

theorem delete (h : cache.Sound trigger maxSteps) (connector : String) :
    (cache.delete connector).Sound trigger maxSteps where
  trigger_eq := h.trigger_eq
  maxSteps_eq := h.maxSteps_eq
  compiled {other} {entry} hentry := by
    simp only [ProgramCache.delete, entry?] at hentry
    by_cases hother : other = connector
    · rw [hother, Entries.find?_erase_self] at hentry
      cases hentry
    · rw [Entries.find?_erase_of_ne hother] at hentry
      exact h.compiled hentry

theorem clear (h : cache.Sound trigger maxSteps) : cache.clear.Sound trigger maxSteps :=
  ⟨h.trigger_eq, h.maxSteps_eq, nofun⟩

/-- Every operation keeps a cache sound, whatever texts the connectors have by then. -/
theorem tended (h : cache.Sound trigger maxSteps) {textOf? : String → Option String}
    (htended : cache.Tended textOf? next) : next.Sound trigger maxSteps := by
  cases htended with
  | untouched => exact h
  | got connector => exact h.get connector _
  | renewed connector => exact h.renew connector _
  | ensured connector => exact h.ensure connector _
  | deleted connector => exact h.delete connector
  | cleared => exact h.clear

end Sound

end ProgramCache

end Canvasflow.Connector
