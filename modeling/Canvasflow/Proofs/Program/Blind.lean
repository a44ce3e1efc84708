import Canvasflow.Proofs.Program.Aside

/-!
# Acts that see neither names nor steps

Apart from names and steps, an act of a run works on the heap, the log and the counts. Such an act
is `Blind`: in other scopes and at another count of steps it gives the same, makes the same changes,
and leaves the scopes and the steps as it finds them. Every native function is blind, and so is what
a run does with the parts of values.
-/

namespace Canvasflow.Program

/-- The state with other scopes and another count of steps. -/
def Machine.reframe (machine : Machine) (scopes : List Frame) (steps : Nat) : Machine :=
  { machine with scopes := scopes, steps := steps }

/-- An act that neither sees nor changes the scopes and the steps. -/
def Blind {ε α : Type} (act : ExceptT ε (StateM Machine) α) : Prop :=
  ∀ machine scopes steps, act.run (machine.reframe scopes steps) =
    ((act.run machine).1, (act.run machine).2.reframe scopes steps)

namespace Blind

variable {ε α β : Type}

theorem pure (a : α) : Blind (pure a : ExceptT ε (StateM Machine) α) :=
  fun _ _ _ => rfl

theorem throw (fault : ε) : Blind (throw fault : ExceptT ε (StateM Machine) α) :=
  fun _ _ _ => rfl

theorem bind {first : ExceptT ε (StateM Machine) α} {rest : α → ExceptT ε (StateM Machine) β}
    (hfirst : Blind first) (hrest : ∀ a, Blind (rest a)) : Blind (first >>= rest) := by
  intro machine scopes steps
  rw [Stateful.run_bind, Stateful.run_bind, hfirst machine]
  rcases first.run machine with ⟨fault | a, next⟩
  · rfl
  · exact hrest a next scopes steps

/-- What is done after a look at the state must not depend on its scopes and steps. -/
theorem look {rest : Machine → ExceptT ε (StateM Machine) α}
    (hrest : ∀ machine, Blind (rest machine))
    (hsame : ∀ machine scopes steps, rest (machine.reframe scopes steps) = rest machine) :
    Blind (MonadState.get >>= rest) := by
  intro machine scopes steps
  rw [Stateful.run_bind, Stateful.run_bind]
  change (rest (machine.reframe scopes steps)).run _ = _
  rw [hsame]
  exact hrest machine machine scopes steps

/-- The scopes and the steps stay as they are. -/
theorem run_eq {act : ExceptT ε (StateM Machine) α} (h : Blind act) (machine : Machine) :
    (act.run machine).2 = (act.run machine).2.reframe machine.scopes machine.steps :=
  congrArg Prod.snd (h machine machine.scopes machine.steps)

end Blind

/-! ## Native functions -/

section Natives

theorem Action.ofExcept_blind {α : Type} (result : Except Failure α) :
    Blind (Action.ofExcept result) :=
  fun _ _ _ => rfl

theorem Action.newList_blind (items : Array Value) : Blind (Action.newList items) :=
  fun _ _ _ => rfl

theorem Action.load_blind (data : Data) : Blind (Action.load data) :=
  fun _ _ _ => rfl

open Action

theorem callListMethod_blind (method : ListMethod) (receiver : Nat) (args : List Value) :
    Blind (callListMethod method receiver args) := by
  refine .look (fun machine => ?_) fun _ _ _ => rfl
  cases method with
  | includes => exact .bind (ofExcept_blind _) fun _ => .pure _
  | indexOf =>
    refine .bind (ofExcept_blind _) fun needle => ?_
    split <;> exact .pure _
  | join => exact .bind (ofExcept_blind _) fun _ => .bind (ofExcept_blind _) fun _ => .pure _
  | slice => exact .bind (ofExcept_blind _) fun _ => newList_blind _
  | concat => exact .bind (ofExcept_blind _) fun _ => newList_blind _
  | push => exact .bind (ofExcept_blind _) fun _ => fun _ _ _ => rfl

theorem callTextMethod_blind (method : TextMethod) (receiver : String) (args : List Value) :
    Blind (callTextMethod method receiver args) := by
  refine .look (fun machine => ?_) fun _ _ _ => rfl
  cases method with
  | indexOf =>
    refine .bind (ofExcept_blind _) fun needle => ?_
    split <;> exact .pure _
  | split => exact .bind (ofExcept_blind _) fun _ => newList_blind _
  | _ => exact .bind (ofExcept_blind _) fun _ => .pure _

variable (world : World)

theorem ask_blind (question : Question) :
    Blind (do Action.load (← Action.ofExcept (world.ask question))) :=
  .bind (ofExcept_blind _) fun data => load_blind data

theorem askAbout_blind (question : Option String → Question) (args : List Value) :
    Blind (askAbout world question args) :=
  .look (fun _ => .bind (ofExcept_blind _) fun id => ask_blind world (question id)) fun _ _ _ => rfl

theorem askAboutBoth_blind (question : Option String → Option String → Question)
    (args : List Value) : Blind (askAboutBoth world question args) := by
  refine .look (fun machine => ?_) fun _ _ _ => rfl
  dsimp only
  split
  · exact .bind (ofExcept_blind _) fun first => .bind (ofExcept_blind _) fun second =>
      ask_blind world (question first second)
  · exact ofExcept_blind _

theorem askPlain_blind (question : Question) (args : List Value) :
    Blind (askPlain world question args) :=
  .bind (ofExcept_blind _) fun _ => ask_blind world question

theorem callBuiltin_blind (fn : Builtin) (args : List Value) :
    Blind (callBuiltin world fn args) := by
  refine .look (fun machine => ?_) fun _ _ _ => rfl
  cases fn with
  | math fn =>
    cases fn with
    | random => exact .bind (ofExcept_blind _) fun _ => fun _ _ _ => rfl
    | _ => exact .bind (ofExcept_blind _) fun _ => .pure _
  | log => exact .bind (ofExcept_blind _) fun _ => fun _ _ _ => rfl
  | editor query =>
    cases query with
    | shape | bounds => exact askAbout_blind world _ args
    | _ => exact askPlain_blind world _ args
  | geo query =>
    cases query with
    | distance | distanceCenter => exact askAboutBoth_blind world _ args
    | _ => exact askAbout_blind world _ args
  | bounds => exact askAbout_blind world _ args
  | unpack => exact .bind (ofExcept_blind _) fun _ => load_blind _
  | _ => exact .bind (ofExcept_blind _) fun _ => .pure _

/-- A native function sees neither the names nor the steps of the run that calls it. -/
theorem callNative_blind (fn : Native) (args : List Value) : Blind (callNative world fn args) := by
  cases fn with
  | builtin fn => exact callBuiltin_blind world fn args
  | listMethod method receiver stamp => exact callListMethod_blind method receiver args
  | textMethod method receiver stamp => exact callTextMethod_blind method receiver args
  | toFixed receiver stamp => exact .bind (ofExcept_blind _) fun _ => .pure _
  | given name stamp => exact .pure _

end Natives

/-! ## Operations of a run -/

namespace Run

variable {α : Type}

theorem fail_blind (failure : Failure) : Blind (fail failure : Run α) :=
  .throw _

theorem ofExcept_blind (result : Except Failure α) : Blind (ofExcept result) := by
  cases result with
  | ok value => exact .pure value
  | error failure => exact fail_blind failure

theorem ofNative_blind (fn : Native) {action : Action Value} (h : Blind action) :
    Blind (ofNative fn action) := by
  intro machine scopes steps
  rw [run_ofNative, run_ofNative, h machine]

theorem freshStamp_blind : Blind freshStamp :=
  fun _ _ _ => rfl

theorem readMember_blind (value : Value) (name : String) : Blind (readMember value name) :=
  .bind freshStamp_blind fun _ => .look (fun _ => ofExcept_blind _) fun _ _ _ => rfl

theorem readIndex_blind (value key : Value) : Blind (readIndex value key) :=
  .bind freshStamp_blind fun _ => .look (fun _ => ofExcept_blind _) fun _ _ _ => rfl

/-- A part is written in the heap, or the write is refused. -/
theorem run_writePart (target key value : Value) (machine : Machine) :
    (writePart target key value).run machine =
      match setMember machine.heap target key value with
      | .ok heap => (.ok (), { machine with heap := heap })
      | .error failure => (.error (.failed failure), machine) := by
  unfold writePart
  rw [Stateful.run_bind_ok (Stateful.run_get machine)]
  cases setMember machine.heap target key value <;> rfl

theorem writePart_blind (target key value : Value) : Blind (writePart target key value) := by
  intro machine scopes steps
  have hsame : setMember (machine.reframe scopes steps).heap target key value =
      setMember machine.heap target key value := rfl
  rw [run_writePart, run_writePart, hsame]
  cases setMember machine.heap target key value <;> rfl

theorem newList_blind (items : List Value) : Blind (newList items) :=
  fun _ _ _ => rfl

theorem newRecord_blind (fields : Entries Value) : Blind (newRecord fields) :=
  fun _ _ _ => rfl

theorem spreadInto_blind (fields : Entries Value) (value : Value) :
    Blind (spreadInto fields value) := by
  unfold spreadInto
  split
  · exact .look (fun _ => .pure _) fun _ _ _ => rfl
  · exact .pure _
  · exact .pure _
  · exact .pure _
  all_goals exact fail_blind _

end Run

end Canvasflow.Program
