import Canvasflow.Program.Interpreter
import Canvasflow.Proofs.Program.Failures

/-!
# Acts that take no step

Most of what a run does takes no step of its budget: names, members and literals are read and
written, and native functions are called. Such an act is `Aside` from the budget, and it does not
fail for want of steps either. A native function may ask the canvas, so what `callNative_aside` says
of its failures depends on how the canvas fails.
-/

namespace Canvasflow.Program

/-- Surroundings in which a question does not fail for want of steps. -/
def World.OffBudget (world : World) : Prop :=
  ∀ question, FailsAs Failure.OffBudget (world.ask question)

theorem World.none_offBudget : World.none.OffBudget :=
  fun _ => .ok _

/-- A stop that is not for want of steps. -/
def Stop.OffBudget : Stop → Prop
  | .returned _ => True
  | .failed failure => failure.OffBudget

@[simp] theorem offBudget_returned (value : Value) : (Stop.returned value).OffBudget := trivial

@[simp] theorem offBudget_failed {failure : Failure} :
    (Stop.failed failure).OffBudget ↔ failure.OffBudget := .rfl

/-- An act that takes no step, and fails only in ways of a kind. -/
structure Aside {ε α : Type} (kind : ε → Prop) (act : ExceptT ε (StateM Machine) α) : Prop where
  steps : ∀ machine, (act.run machine).2.steps = machine.steps
  fails : ∀ machine, FailsAs kind (act.run machine).1

namespace Aside

variable {ε α β : Type} {kind : ε → Prop}

theorem pure (a : α) : Aside kind (pure a : ExceptT ε (StateM Machine) α) :=
  ⟨fun _ => rfl, fun _ => .ok a⟩

theorem throw {fault : ε} (h : kind fault) :
    Aside kind (throw fault : ExceptT ε (StateM Machine) α) :=
  ⟨fun _ => rfl, fun _ => FailsAs.error_iff.mpr h⟩

theorem get : Aside kind (get : ExceptT ε (StateM Machine) Machine) :=
  ⟨fun _ => rfl, fun machine => .ok machine⟩

theorem bind {first : ExceptT ε (StateM Machine) α} {rest : α → ExceptT ε (StateM Machine) β}
    (hfirst : Aside kind first) (hrest : ∀ a, Aside kind (rest a)) :
    Aside kind (first >>= rest) where
  steps machine := by
    have hsteps := hfirst.steps machine
    rw [Stateful.run_bind]
    generalize first.run machine = ending at hsteps ⊢
    obtain ⟨fault | a, next⟩ := ending
    · exact hsteps
    · exact ((hrest a).steps next).trans hsteps
  fails machine := by
    have hfails := hfirst.fails machine
    rw [Stateful.run_bind]
    generalize first.run machine = ending at hfails ⊢
    obtain ⟨fault | a, next⟩ := ending
    · exact FailsAs.error_iff.mpr (FailsAs.error_iff.mp hfails)
    · exact (hrest a).fails next

/-- What comes after a look at the state may set the state that it saw. -/
theorem of_get {rest : Machine → ExceptT ε (StateM Machine) α}
    (h : ∀ machine, ((rest machine).run machine).2.steps = machine.steps ∧
      FailsAs kind ((rest machine).run machine).1) : Aside kind (MonadState.get >>= rest) :=
  ⟨fun machine => (h machine).1, fun machine => (h machine).2⟩

theorem mono {other : ε → Prop} {act : ExceptT ε (StateM Machine) α} (h : Aside kind act)
    (hkind : ∀ fault, kind fault → other fault) : Aside other act :=
  ⟨h.steps, fun machine fault hfault => hkind fault (h.fails machine fault hfault)⟩

end Aside

/-! ## Native functions -/

section Natives

variable {α : Type} {kind : Failure → Prop}

theorem Action.ofExcept_aside {result : Except Failure α} (h : FailsAs kind result) :
    Aside kind (Action.ofExcept result) :=
  ⟨fun _ => rfl, fun _ => h⟩

theorem Action.newList_aside (items : Array Value) : Aside kind (Action.newList items) :=
  ⟨fun _ => rfl, fun _ => .ok _⟩

theorem Action.load_aside (data : Data) : Aside kind (Action.load data) :=
  ⟨fun _ => rfl, fun _ => .ok _⟩

theorem callListMethod_aside (method : ListMethod) (receiver : Nat) (args : List Value) :
    Aside Failure.OffBudget (callListMethod method receiver args) := by
  refine .bind .get fun machine => ?_
  have hsingle := Action.ofExcept_aside (single_offBudget args)
  cases method with
  | includes => exact .bind hsingle fun _ => .pure _
  | indexOf =>
    refine .bind hsingle fun needle => ?_
    split <;> exact .pure _
  | join =>
    have htext (value : Value) := value.text_offBudget machine.heap
    refine .bind (Action.ofExcept_aside ?_) fun separator =>
      .bind (Action.ofExcept_aside (Value.joinTexts_offBudget htext _ _)) fun _ => .pure _
    split
    · simp
    · exact htext _
    · simp
  | slice =>
    exact .bind (Action.ofExcept_aside (sliceBounds_offBudget _ args)) fun _ =>
      Action.newList_aside _
  | concat =>
    exact .bind (Action.ofExcept_aside (checkLength_offBudget _ _)) fun _ => Action.newList_aside _
  | push =>
    exact .bind (Action.ofExcept_aside (checkLength_offBudget _ _)) fun _ =>
      ⟨fun _ => rfl, fun _ => .ok _⟩

theorem callTextMethod_aside (method : TextMethod) (receiver : String) (args : List Value) :
    Aside Failure.OffBudget (callTextMethod method receiver args) := by
  refine .bind .get fun machine => ?_
  have hneedle := Action.ofExcept_aside (.bind (single_offBudget args) fun value =>
    .bind (value.text_offBudget machine.heap) fun text => .ok text.toList)
  have hnone := Action.ofExcept_aside (noArguments_offBudget args)
  cases method with
  | includes | startsWith | endsWith => exact .bind hneedle fun _ => .pure _
  | indexOf =>
    refine .bind hneedle fun needle => ?_
    split <;> exact .pure _
  | toUpperCase | toLowerCase | trim => exact .bind hnone fun _ => .pure _
  | slice => exact .bind (Action.ofExcept_aside (sliceBounds_offBudget _ args)) fun _ => .pure _
  | split =>
    exact .bind (Action.ofExcept_aside (splitText_offBudget _ _ args)) fun _ =>
      Action.newList_aside _

/-- A failure that surroundings allow: one that is not for want of steps, unless a question to them
may fail for that. -/
def World.Allows (world : World) (failure : Failure) : Prop :=
  world.OffBudget → failure.OffBudget

variable (world : World)

theorem ask_aside (question : Question) :
    Aside world.Allows (do Action.load (← Action.ofExcept (world.ask question))) :=
  .bind (Action.ofExcept_aside fun fault hfault hworld => hworld question fault hfault) fun data =>
    Action.load_aside data

theorem reference_aside {result : Except Failure α} (h : FailsAs Failure.OffBudget result) :
    Aside world.Allows (Action.ofExcept result) :=
  (Action.ofExcept_aside h).mono fun _ hfault _ => hfault

theorem askAbout_aside (question : Option String → Question) (args : List Value) :
    Aside world.Allows (askAbout world question args) :=
  .bind .get fun machine => .bind (reference_aside world (.bind (single_offBudget args) fun value =>
    shapeReference_offBudget machine.heap value)) fun id => ask_aside world (question id)

theorem askAboutBoth_aside (question : Option String → Option String → Question)
    (args : List Value) : Aside world.Allows (askAboutBoth world question args) := by
  refine .bind .get fun machine => ?_
  dsimp only
  split
  · exact .bind (reference_aside world (shapeReference_offBudget _ _)) fun first =>
      .bind (reference_aside world (shapeReference_offBudget _ _)) fun second =>
        ask_aside world (question first second)
  · exact reference_aside world (by simp)

theorem askPlain_aside (question : Question) (args : List Value) :
    Aside world.Allows (askPlain world question args) :=
  .bind (reference_aside world (noArguments_offBudget args)) fun _ => ask_aside world question

theorem callBuiltin_aside (fn : Builtin) (args : List Value) :
    Aside world.Allows (callBuiltin world fn args) := by
  refine .bind .get fun machine => ?_
  cases fn with
  | math fn =>
    cases fn with
    | random =>
      exact .bind (reference_aside world (noArguments_offBudget args)) fun _ =>
        ⟨fun _ => rfl, fun _ => .ok _⟩
    | _ => exact .bind (reference_aside world (mathFn_offBudget _ args)) fun _ => .pure _
  | log =>
    exact .bind (reference_aside world (.mapM (Value.text_offBudget machine.heap) args)) fun _ =>
      ⟨fun _ => rfl, fun _ => .ok _⟩
  | number | isNaN =>
    exact .bind (reference_aside world (.bind (single_offBudget args) Value.toNumber_offBudget))
      fun _ => .pure _
  | string =>
    exact .bind (reference_aside world (.bind (single_offBudget args)
      (Value.text_offBudget machine.heap))) fun _ => .pure _
  | boolean =>
    exact .bind (reference_aside world (.bind (single_offBudget args) Value.truthy_offBudget))
      fun _ => .pure _
  | editor query =>
    cases query with
    | shape | bounds => exact askAbout_aside world _ args
    | _ => exact askPlain_aside world _ args
  | geo query =>
    cases query with
    | distance | distanceCenter => exact askAboutBoth_aside world _ args
    | _ => exact askAbout_aside world _ args
  | bounds => exact askAbout_aside world _ args
  | unpack =>
    exact .bind (reference_aside world (.bind (single_offBudget args)
      (unpack_offBudget machine.heap))) fun patch => Action.load_aside _

theorem callNative_aside (fn : Native) (args : List Value) :
    Aside world.Allows (callNative world fn args) := by
  cases fn with
  | builtin fn => exact callBuiltin_aside world fn args
  | listMethod method receiver stamp =>
    exact (callListMethod_aside method receiver args).mono fun _ hfault _ => hfault
  | textMethod method receiver stamp =>
    exact (callTextMethod_aside method receiver args).mono fun _ hfault _ => hfault
  | toFixed receiver stamp =>
    exact .bind (reference_aside world (toFixedText_offBudget receiver args)) fun _ => .pure _
  | given name stamp => exact .pure _

end Natives

/-! ## Operations of a run -/

/-- A stop that surroundings allow: one that is not for want of steps, unless a question to them may
fail for that. -/
def World.AllowsStop (world : World) (stop : Stop) : Prop :=
  world.OffBudget → stop.OffBudget

namespace Run

variable {α : Type} {world : World}

theorem returned_aside (value : Value) :
    Aside world.AllowsStop (throw (.returned value) : Run α) :=
  .throw fun _ => trivial

theorem fail_aside {failure : Failure} (h : failure.OffBudget) :
    Aside world.AllowsStop (fail failure : Run α) :=
  .throw fun _ => h

theorem ofExcept_aside {result : Except Failure α} (h : FailsAs Failure.OffBudget result) :
    Aside world.AllowsStop (ofExcept result) := by
  cases result with
  | ok value => exact .pure value
  | error failure => exact fail_aside (FailsAs.error_iff.mp h)

/-- A failure inside a native function is for want of steps only if it was so before. -/
theorem insideNative_offBudget (name : String) {failure : Failure} (h : failure.OffBudget) :
    (failure.insideNative name).OffBudget := by
  cases failure with
  | program fault => exact h
  | _ => simp [Failure.insideNative]

theorem run_ofNative (fn : Native) (action : Action Value) (machine : Machine) :
    (ofNative fn action).run machine =
      ((action.run machine).1.mapError fun failure => .failed (failure.insideNative fn.name),
        (action.run machine).2) := by
  unfold ofNative
  rw [ExceptT.run_mk]
  simp only [bind, StateT.bind]
  rcases action.run machine with ⟨_ | _, _⟩ <;> rfl

theorem callNative_aside (fn : Native) (args : List Value) :
    Aside world.AllowsStop (ofNative fn (callNative world fn args)) where
  steps machine := by
    have hsteps := (Program.callNative_aside world fn args).steps machine
    rw [run_ofNative]
    generalize (callNative world fn args).run machine = ending at hsteps ⊢
    exact hsteps
  fails machine := by
    have hfails := (Program.callNative_aside world fn args).fails machine
    rw [run_ofNative]
    generalize (callNative world fn args).run machine = ending at hfails ⊢
    obtain ⟨failure | value, next⟩ := ending
    · exact FailsAs.error_iff.mpr fun hworld =>
        insideNative_offBudget _ (FailsAs.error_iff.mp hfails hworld)
    · exact .ok value

/-- An edit of the state, which may be refused, and leaves the steps alone. -/
theorem edit_aside {β : Type} {part : Machine → Except Failure β} {edit : Machine → β → Machine}
    (hpart : ∀ machine, FailsAs Failure.OffBudget (part machine))
    (hedit : ∀ machine b, (edit machine b).steps = machine.steps) :
    Aside world.AllowsStop (do
      let machine ← get
      let b ← ofExcept (part machine)
      set (edit machine b)) := by
  refine .of_get fun machine => ?_
  have hfails := hpart machine
  generalize part machine = result at hfails ⊢
  cases result with
  | error failure =>
    exact ⟨rfl, FailsAs.error_iff.mpr fun _ => offBudget_failed.mpr (FailsAs.error_iff.mp hfails)⟩
  | ok b => exact ⟨hedit machine b, .ok _⟩

theorem declare_aside (declarator : Declarator) (name : String) (value : Value) :
    Aside world.AllowsStop (declare declarator name value) := by
  refine .of_get fun machine => ?_
  dsimp only
  split
  · exact ⟨rfl, .ok _⟩
  · split
    · exact ⟨rfl, FailsAs.error_iff.mpr fun _ => by simp⟩
    · exact ⟨rfl, .ok _⟩

theorem assignIn_offBudget (name : String) (value : Value) (scopes : List Frame) :
    FailsAs Failure.OffBudget (assignIn name value scopes) := by
  induction scopes with
  | nil => simp [assignIn]
  | cons frame outer ih =>
    unfold assignIn
    split
    · split <;> simp
    · exact .bind ih fun _ => .ok _

theorem readName_aside (name : String) : Aside world.AllowsStop (readName name) := by
  refine .bind .get fun machine => ?_
  split
  · exact .pure _
  · exact fail_aside (by simp)

theorem writeName_aside (name : String) (value : Value) :
    Aside world.AllowsStop (writeName name value) :=
  edit_aside (fun machine => assignIn_offBudget name value machine.scopes) fun _ _ => rfl

theorem freshStamp_aside : Aside world.AllowsStop freshStamp :=
  ⟨fun _ => rfl, fun _ => .ok _⟩

theorem readMember_aside (value : Value) (name : String) :
    Aside world.AllowsStop (readMember value name) :=
  .bind freshStamp_aside fun stamp => .bind .get fun machine =>
    ofExcept_aside (getMember_offBudget machine.heap stamp value name)

theorem readIndex_aside (value key : Value) : Aside world.AllowsStop (readIndex value key) :=
  .bind freshStamp_aside fun stamp => .bind .get fun machine =>
    ofExcept_aside (getIndex_offBudget machine.heap stamp value key)

theorem writePart_aside (target key value : Value) :
    Aside world.AllowsStop (writePart target key value) :=
  edit_aside (fun machine => setMember_offBudget machine.heap target key value) fun _ _ => rfl

theorem newList_aside (items : List Value) : Aside world.AllowsStop (newList items) :=
  ⟨fun _ => rfl, fun _ => .ok _⟩

theorem newRecord_aside (fields : Entries Value) : Aside world.AllowsStop (newRecord fields) :=
  ⟨fun _ => rfl, fun _ => .ok _⟩

theorem spreadInto_aside (fields : Entries Value) (value : Value) :
    Aside world.AllowsStop (spreadInto fields value) := by
  unfold spreadInto
  split
  · exact .bind .get fun _ => .pure _
  · exact .pure _
  · exact .pure _
  · exact .pure _
  all_goals exact fail_aside (by simp)

end Run

end Canvasflow.Program
