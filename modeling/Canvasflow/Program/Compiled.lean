import Canvasflow.Connector.Trigger
import Canvasflow.Program.Interpreter

/-!
# Compiled programs

A connector's program that is read once and run often. Every run has fresh scopes, in which the
parameters of the run stand beside the names that every program can read.
-/

namespace Canvasflow.Program

/-- A program that is ready to run. -/
structure Compiled where
  body : List Stmt
  grammar : Grammar
  source : String
  maxSteps : Int

/-- The steps that a run may take unless settings say otherwise. -/
def defaultMaxSteps : Int := 10000

/-- The name of a grammar. -/
def Grammar.name : Grammar → String
  | shorthand => "SHORTHAND"
  | expanded => "EXPANDED"

/-- Compile a program text. -/
def compile (found : Connector.Classification) (maxSteps : Int) : Except SyntaxFault Compiled := do
  return ⟨← parse found.grammar found.source, found.grammar, found.source, maxSteps⟩

/-- A program in messages. -/
def Compiled.shown (program : Compiled) : String :=
  let grammar := match program.grammar with
    | .shorthand => "shorthand"
    | .expanded => "expanded"
  "CompiledProgram(" ++ grammar ++ ", " ++ Text.quoted program.source ++ ")"

/-- The parameters of a run. -/
structure Parameters where
  editor : Value
  source : Value
  target : Value
  geo : Value
  bounds : Value
  dt : Value

/-- The names that a run of a connector's program can read. -/
def Parameters.names (parameters : Parameters) : Entries Value :=
  globals ++ [("editor", parameters.editor), ("from", parameters.source),
    ("to", parameters.target), ("G", parameters.geo), ("bounds", parameters.bounds),
    ("dt", parameters.dt), ("_unpack", Builtin.unpack.value)]

/-- Run a program with the given parameters, whose lists and records are in the heap. -/
def Compiled.run (program : Compiled) (world : World) (heap : Heap) (stamps : Nat)
    (parameters : Parameters) : Except Failure Value × Machine :=
  Program.run ⟨world, program.maxSteps⟩ program.body (.start heap stamps parameters.names)

end Canvasflow.Program
