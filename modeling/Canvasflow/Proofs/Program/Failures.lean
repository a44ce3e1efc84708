import Canvasflow.Proofs.Outcome
import Canvasflow.Program.Native

/-!
# Failures of operations on values

What reading, writing, converting and computing with values can fail at. None of these operations
knows of the budget of steps, so none of them says that it is spent. The lemmas follow the
definitions from the conversions up to the operators, members and snapshots.
-/

namespace Canvasflow.Program

/-- A failure other than that the budget of steps is spent. -/
def Failure.OffBudget (failure : Failure) : Prop :=
  ∀ limit, failure ≠ .program (.stepBudget limit)

@[simp] theorem offBudget_overflow : Failure.overflow.OffBudget := nofun

@[simp] theorem offBudget_badValue : Failure.badValue.OffBudget := nofun

@[simp] theorem offBudget_badType : Failure.badType.OffBudget := nofun

@[simp] theorem offBudget_tooDeep : Failure.tooDeep.OffBudget := nofun

/-- A fault of the program is the budget's only if it says so. -/
@[simp] theorem offBudget_program {fault : ProgramFault} :
    (Failure.program fault).OffBudget ↔ ∀ limit, fault ≠ .stepBudget limit := by
  simp [Failure.OffBudget]

@[simp] theorem failsAs_fault {α : Type} {cause : ProgramFault} :
    FailsAs Failure.OffBudget (fault cause : Except Failure α) ↔
      ∀ limit, cause ≠ .stepBudget limit := by
  simp [fault]

/-! ## Conversions -/

theorem checkLength_offBudget (length : Nat) (kind : String) :
    FailsAs Failure.OffBudget (checkLength length kind) := by
  unfold checkLength
  split <;> simp

namespace Value

theorem truthy_offBudget (value : Value) : FailsAs Failure.OffBudget value.truthy := by
  cases value with
  | num value =>
    cases value with
    | double value => simp [truthy]
    | int value =>
      simp only [truthy]
      split
      · simp
      · split <;> simp
  | null | bool | str | list | record | native | space => simp [truthy]

theorem joinOnto_offBudget {text : Value → Except Failure String}
    (htext : ∀ value, FailsAs Failure.OffBudget (text value)) (separator : String)
    (pieces : List String) (total : Nat) (items : List Value) :
    FailsAs Failure.OffBudget (joinOnto text separator pieces total items) := by
  induction items generalizing pieces total with
  | nil => simp [joinOnto]
  | cons item rest ih =>
    unfold joinOnto
    dsimp only
    split <;> refine .bind ?_ fun piece => .bind (checkLength_offBudget _ _) fun _ => ih _ _
    · simp
    · exact htext _

theorem joinTexts_offBudget {text : Value → Except Failure String}
    (htext : ∀ value, FailsAs Failure.OffBudget (text value)) (separator : String)
    (items : List Value) : FailsAs Failure.OffBudget (joinTexts text separator items) :=
  .bind (joinOnto_offBudget htext separator [] 0 items) fun _ => .ok _

theorem textWithin_offBudget (heap : Heap) (room : Nat) (value : Value) :
    FailsAs Failure.OffBudget (textWithin heap room value) := by
  induction room generalizing value with
  | zero =>
    cases value <;> simp [textWithin]
    split <;> simp
  | succ room ih =>
    cases value with
    | list place => exact joinTexts_offBudget ih "," _
    | num value =>
      unfold textWithin
      split <;> simp
    | null | bool | str | record | native | space => simp [textWithin]

theorem text_offBudget (heap : Heap) (value : Value) :
    FailsAs Failure.OffBudget (value.text heap) :=
  textWithin_offBudget heap textRoom value

theorem toNumber_offBudget (value : Value) : FailsAs Failure.OffBudget value.toNumber := by
  unfold toNumber
  split <;> try simp
  split <;> simp

theorem numericOperand_offBudget (op : String) (value : Value) :
    FailsAs Failure.OffBudget (value.numericOperand op) := by
  cases value with
  | bool value => exact toNumber_offBudget (.bool value)
  | num value => exact toNumber_offBudget (.num value)
  | str value => exact toNumber_offBudget (.str value)
  | null | list | record | native | space => simp [numericOperand]

theorem looseSame_offBudget (a b : Value) : FailsAs Failure.OffBudget (a.looseSame b) := by
  unfold looseSame
  split
  · simp
  · split <;> try simp
    exact .bind (toNumber_offBudget a) fun _ => .bind (toNumber_offBudget b) fun _ => .ok _

end Value

/-! ## Operators -/

theorem compute_offBudget (operation : Float → Float → Float) (op : String) (a b : Value) :
    FailsAs Failure.OffBudget (compute operation op a b) :=
  .bind (a.numericOperand_offBudget op) fun _ => .bind (b.numericOperand_offBudget op) fun _ =>
    .ok _

theorem compareValues_offBudget (comparison : Comparison) (op : String) (a b : Value) :
    FailsAs Failure.OffBudget (compareValues comparison op a b) := by
  unfold compareValues
  split
  · simp
  · exact .bind (a.numericOperand_offBudget op) fun _ =>
      .bind (b.numericOperand_offBudget op) fun _ => .ok _

theorem addValues_offBudget (heap : Heap) (a b : Value) :
    FailsAs Failure.OffBudget (addValues heap a b) := by
  have htexts : FailsAs Failure.OffBudget (do
      let left ← a.text heap
      let right ← b.text heap
      checkLength (left.length + right.length) "string"
      return Value.str (left ++ right)) :=
    .bind (a.text_offBudget heap) fun _ => .bind (b.text_offBudget heap) fun _ =>
      .bind (checkLength_offBudget _ _) fun _ => .ok _
  unfold addValues
  split
  · exact htexts
  · exact htexts
  · exact compute_offBudget _ _ a b

theorem applyBinary_offBudget (heap : Heap) (op : BinaryOp) (a b : Value) :
    FailsAs Failure.OffBudget (applyBinary heap op a b) := by
  cases op with
  | add => exact addValues_offBudget heap a b
  | sub | mul | div | mod | pow => exact compute_offBudget _ _ a b
  | same | notSame => exact .ok _
  | equal | notEqual => exact .bind (a.looseSame_offBudget b) fun _ => .ok _
  | less | greater | lessEqual | greaterEqual => exact compareValues_offBudget _ _ a b

theorem applyUnary_offBudget (op : UnaryOp) (value : Value) :
    FailsAs Failure.OffBudget (applyUnary op value) := by
  cases op with
  | not => exact .bind value.truthy_offBudget fun _ => .ok _
  | negate | plus => exact .bind (value.numericOperand_offBudget _) fun _ => .ok _

/-! ## Members and indices -/

theorem indexOf?_offBudget (key : Number) : FailsAs Failure.OffBudget (indexOf? key) := by
  unfold indexOf?
  split <;> simp

theorem getMember_offBudget (heap : Heap) (stamp : Nat) (value : Value) (name : String) :
    FailsAs Failure.OffBudget (getMember heap stamp value name) := by
  unfold getMember
  split <;> try simp
  all_goals split <;> try simp
  all_goals split <;> simp

theorem getIndex_offBudget (heap : Heap) (stamp : Nat) (value key : Value) :
    FailsAs Failure.OffBudget (getIndex heap stamp value key) := by
  unfold getIndex
  dsimp only
  split <;> refine .bind (by first | exact indexOf?_offBudget _ | exact .ok _) fun index => ?_
  all_goals
    split
    · simp
    · simp
    · exact .bind (Value.text_offBudget heap _) fun name => getMember_offBudget heap stamp _ name

theorem setMember_offBudget (heap : Heap) (target key value : Value) :
    FailsAs Failure.OffBudget (setMember heap target key value) := by
  unfold setMember
  dsimp only
  split <;> refine .bind (by first | exact indexOf?_offBudget _ | exact .ok _) fun index => ?_
  all_goals
    split
    · exact .bind (Value.text_offBudget heap _) fun _ => .ok _
    · split
      · simp
      · split
        · exact .bind (checkLength_offBudget _ _) fun _ => .ok _
        · simp
    · exact .bind (Value.text_offBudget heap _) fun _ => by simp

/-! ## Snapshots -/

theorem plainWithin_offBudget (heap : Heap) (key : String) (room : Nat) (value : Value) :
    FailsAs Failure.OffBudget (plainWithin heap key room value) := by
  induction room generalizing value with
  | zero => cases value <;> simp [plainWithin]
  | succ room ih =>
    cases value with
    | list place => exact .bind (.mapM ih _) fun _ => .ok _
    | record place =>
      exact .bind (.mapM (fun field : String × Value => .bind (ih field.2) fun _ => .ok _) _)
        fun _ => .ok _
    | null | bool | num | str | native | space => simp [plainWithin]

theorem coordinate_offBudget (heap : Heap) (key : String) (value : Value) :
    FailsAs Failure.OffBudget (coordinate heap key value) := by
  unfold coordinate
  dsimp only
  split <;> refine .bind (by first | exact Value.toNumber_offBudget _ | exact .ok _) fun x => ?_
  all_goals
    split
    · simp
    · exact .bind (Value.text_offBudget heap _) fun _ => by simp

theorem coordinate?_offBudget (heap : Heap) (key : String) (fields : Entries Value) :
    FailsAs Failure.OffBudget (coordinate? heap key fields) := by
  unfold coordinate?
  split
  · simp
  · exact .bind (coordinate_offBudget heap key _) fun _ => .ok _

theorem properties_offBudget (room : Nat) (heap : Heap) (fields : Entries Value) :
    FailsAs Failure.OffBudget (properties room heap fields) := by
  refine .bind (.mapM (fun field => .bind (plainWithin_offBudget heap _ _ _) fun _ => .ok _) _)
    fun props => ?_
  split
  · simp
  · exact .bind (Value.text_offBudget heap _) fun _ => .ok _

theorem identity_offBudget (fields : Entries Value) :
    FailsAs Failure.OffBudget (identity fields) := by
  unfold identity
  split
  · split <;> simp
  · simp

theorem typeName?_offBudget (heap : Heap) (fields : Entries Value) :
    FailsAs Failure.OffBudget (typeName? heap fields) := by
  unfold typeName?
  split
  · simp
  · exact .bind (Value.text_offBudget heap _) fun _ => .ok _

theorem metadata?_offBudget (room : Nat) (heap : Heap) (fields : Entries Value) :
    FailsAs Failure.OffBudget (metadata? room heap fields) := by
  unfold metadata?
  split
  · simp
  · exact .bind (plainWithin_offBudget heap _ _ _) fun _ => .ok _
  · simp

theorem unpack_offBudget (heap : Heap) (value : Value) :
    FailsAs Failure.OffBudget (unpack heap value) := by
  unfold unpack unpackWithin
  split
  · exact .bind (identity_offBudget _) fun _ => .bind (typeName?_offBudget heap _) fun _ =>
      .bind (coordinate?_offBudget heap _ _) fun _ => .bind (coordinate?_offBudget heap _ _)
        fun _ => .bind (coordinate?_offBudget heap _ _) fun _ =>
          .bind (properties_offBudget _ heap _) fun _ => .bind (metadata?_offBudget _ heap _)
            fun _ => .ok _
  · simp

/-! ## Arguments of native functions -/

theorem single_offBudget (args : List Value) : FailsAs Failure.OffBudget (single args) := by
  unfold single
  split <;> simp

theorem noArguments_offBudget (args : List Value) :
    FailsAs Failure.OffBudget (noArguments args) := by
  unfold noArguments
  split <;> simp

theorem countArgument_offBudget (value : Value) :
    FailsAs Failure.OffBudget (countArgument value) := by
  unfold countArgument
  split <;> try simp
  · split
    · simp
    · split <;> simp
  · split <;> simp

theorem sliceBounds_offBudget (length : Nat) (args : List Value) :
    FailsAs Failure.OffBudget (sliceBounds length args) := by
  unfold sliceBounds
  dsimp only
  split <;> refine .bind (by simp) fun ends => .bind (countArgument_offBudget _) fun start => ?_
  all_goals
    split
    · simp
    · exact .bind (countArgument_offBudget _) fun _ => .ok _

theorem shapeReference_offBudget (heap : Heap) (value : Value) :
    FailsAs Failure.OffBudget (shapeReference heap value) := by
  unfold shapeReference
  split <;> try simp
  split <;> simp

theorem toFixedText_offBudget (receiver : Number) (args : List Value) :
    FailsAs Failure.OffBudget (toFixedText receiver args) := by
  unfold toFixedText
  dsimp only
  split <;>
    refine .bind (by simp) fun digits => .bind (Value.toNumber_offBudget _) fun places => ?_
  all_goals
    split
    · simp [bind, Except.bind]
    · split <;> simp

theorem splitText_offBudget (heap : Heap) (chars : List Char) (args : List Value) :
    FailsAs Failure.OffBudget (splitText heap chars args) := by
  unfold splitText
  dsimp only
  split <;> refine .bind (by simp) fun separator => ?_
  all_goals
    split
    · simp
    · simp
    · refine .bind (Value.text_offBudget heap _) fun text => ?_
      split <;> simp

/-! ## Mathematical functions -/

theorem mathUnary_offBudget {fn : Float → Except Failure Float}
    (hfn : ∀ x, FailsAs Failure.OffBudget (fn x)) (args : List Value) :
    FailsAs Failure.OffBudget (mathUnary fn args) :=
  .bind (single_offBudget args) fun value => .bind (value.numericOperand_offBudget _) hfn

theorem circular_offBudget (fn : Float → Float) (x : Float) :
    FailsAs Failure.OffBudget (circular fn x) := by
  unfold circular
  split <;> simp

theorem powerOf_offBudget (base exponent : Value) :
    FailsAs Failure.OffBudget (powerOf base exponent) := by
  unfold powerOf
  split
  · simp
  · exact .bind (base.numericOperand_offBudget _) fun _ =>
      .bind (exponent.numericOperand_offBudget _) fun _ => .ok _

theorem mathFn_offBudget (fn : MathFn) (args : List Value) :
    FailsAs Failure.OffBudget (fn.apply args) := by
  have hoperands (combine : List Float → Float) :
      FailsAs Failure.OffBudget (do return combine (← args.mapM mathOperand)) :=
    .bind (.mapM (Value.numericOperand_offBudget _) args) fun _ => .ok _
  cases fn with
  | abs | floor | ceil | round | trunc | sign | sqrt =>
    exact mathUnary_offBudget (fun _ => .ok _) args
  | min | max | hypot => exact hoperands _
  | sin | cos | tan => exact mathUnary_offBudget (circular_offBudget _) args
  | pow =>
    simp only [MathFn.apply]
    split
    · exact powerOf_offBudget _ _
    · simp
  | atan2 =>
    simp only [MathFn.apply]
    split
    · exact .bind (Value.numericOperand_offBudget _ _) fun _ =>
        .bind (Value.numericOperand_offBudget _ _) fun _ => .ok _
    · simp
  | random => simp [MathFn.apply]

end Canvasflow.Program
