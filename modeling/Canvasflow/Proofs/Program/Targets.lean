import Canvasflow.Proofs.Program.Blind
import Canvasflow.Proofs.Program.Budget

/-!
# Targets of compound assignments and updates

A compound assignment and an update read their target and then write it. The target is evaluated for
each of the two, so its parts take effect twice, and what is written is the slot that they name the
second time. Where the parts only look at names, lists and records, and nothing changes these in
between, they name the same slot again: `compound_targets` says that then everything is as if the
parts had been evaluated once, except that more stamps are used. Functions read off a value are new
each time, but as parts of a target they are not told apart (`Like`).
-/

namespace Canvasflow.Program

/-! ## Values that are told apart by equality only -/

/-- One value, or two functions. -/
inductive Like : Value → Value → Prop
  | same (value : Value) : Like value value
  | functions (fn other : Native) : Like (.native fn) (.native other)

namespace Like

variable {a b c d : Value} {heap : Heap}

theorem isNull (h : Like a b) : Run.isNull a = Run.isNull b := by
  cases h <;> rfl

theorem truthy (h : Like a b) : a.truthy = b.truthy := by
  cases h <;> rfl

theorem text (h : Like a b) : a.text heap = b.text heap := by
  cases h <;> rfl

theorem numericOperand (h : Like a b) (op : String) :
    a.numericOperand op = b.numericOperand op := by
  cases h <;> rfl

theorem applyUnary (h : Like a b) (op : UnaryOp) : applyUnary op a = applyUnary op b := by
  cases h <;> cases op <;> rfl

theorem compute (h : Like a b) (h' : Like c d) (operation : Float → Float → Float) (op : String) :
    compute operation op a c = compute operation op b d := by
  unfold Program.compute
  rw [h.numericOperand, h'.numericOperand]

theorem compareValues (h : Like a b) (h' : Like c d) (comparison : Comparison) (op : String) :
    compareValues comparison op a c = compareValues comparison op b d := by
  cases h with
  | same => cases h' with
    | same => rfl
    | functions => cases a <;> rfl
  | functions => cases h' <;> rfl

theorem addValues (h : Like a b) (h' : Like c d) :
    addValues heap a c = addValues heap b d := by
  cases h with
  | same => cases h' with
    | same => rfl
    | functions => cases a <;> rfl
  | functions => cases h' with
    | same => cases c <;> rfl
    | functions => rfl

end Like

/-- Whether an operator asks whether two values are the same. -/
def BinaryOp.asksSame : BinaryOp → Bool
  | equal | notEqual | same | notSame => true
  | _ => false

/-- Whether an expression is written out. -/
def Expr.isLiteral : Expr → Bool
  | literal _ => true
  | _ => false

theorem Like.applyBinary {a b c d : Value} (h : Like a b) (h' : Like c d) {op : BinaryOp}
    (hop : op.asksSame = false) (heap : Heap) :
    applyBinary heap op a c = applyBinary heap op b d := by
  cases op with
  | equal | notEqual | same | notSame => cases hop
  | add => exact h.addValues h'
  | less | greater | lessEqual | greaterEqual => exact h.compareValues h' _ _
  | _ => exact h.compute h' _ _

theorem Like.applyBinary_left {a b : Value} (h : Like a b) (op : BinaryOp) (literal : Literal)
    (heap : Heap) : Program.applyBinary heap op a literal.value =
      Program.applyBinary heap op b literal.value := by
  cases h with
  | same => rfl
  | functions => cases literal <;> cases op <;> rfl

theorem Like.applyBinary_right {a b : Value} (h : Like a b) (op : BinaryOp) (literal : Literal)
    (heap : Heap) : Program.applyBinary heap op literal.value a =
      Program.applyBinary heap op literal.value b := by
  cases h with
  | same => rfl
  | functions => cases literal <;> cases op <;> rfl

theorem Like.getMember {a b : Value} (h : Like a b) (heap : Heap) (stamp stamp' : Nat)
    (name : String) :
    Agree Eq Like (Program.getMember heap stamp a name) (Program.getMember heap stamp' b name) := by
  cases h with
  | functions => exact .ok (.same .null)
  | same =>
    cases a with
    | list place | str text =>
      simp only [Program.getMember]
      split
      · exact .ok (.same _)
      · split
        · exact .ok (.functions _ _)
        · exact .ok (.same _)
    | num number =>
      simp only [Program.getMember]
      split
      · exact .ok (.functions _ _)
      · exact .ok (.same _)
    | _ => exact .refl .same _

theorem Like.getIndex {a b key key' : Value} (h : Like a b) (hkey : Like key key') (heap : Heap)
    (stamp stamp' : Nat) :
    Agree Eq Like (Program.getIndex heap stamp a key) (Program.getIndex heap stamp' b key') := by
  have hmember (text : Except Failure String) : Agree Eq Like
      (do Program.getMember heap stamp a (← text))
      (do Program.getMember heap stamp' b (← text)) := by
    cases text with
    | ok name => exact h.getMember heap stamp stamp' name
    | error => exact .error rfl
  cases h with
  | functions fn other =>
    have hnamed := hmember (key.text heap)
    cases hkey with
    | same => cases key <;> exact hnamed
    | functions => exact hnamed
  | same => cases hkey with
    | functions fn other =>
      have hnamed := hmember ((Value.native fn).text heap)
      cases a <;> exact hnamed
    | same =>
      have hnamed := hmember (key.text heap)
      have hindex (number : Number) : Agree Eq Eq (indexOf? number) (indexOf? number) :=
        .refl (fun _ => rfl) _
      cases a with
      | list place | str text => cases key with
        | num number =>
          refine (hindex number).bind ?_
          rintro (_ | index) _ rfl
          · exact hnamed
          · exact .ok (.same _)
        | _ => exact hnamed
      | _ => exact hnamed

theorem Like.setMember {a b key key' : Value} (h : Like a b) (hkey : Like key key') (heap : Heap)
    (value : Value) :
    Program.setMember heap a key value = Program.setMember heap b key' value := by
  cases h with
  | same => cases hkey with
    | same => rfl
    | functions => cases a <;> rfl
  | functions => cases hkey with
    | same => cases key <;> rfl
    | functions => rfl

/-! ## Acts that only look -/

/-- The state with another count of stamps. -/
def Machine.restamp (machine : Machine) (stamps : Nat) : Machine :=
  { machine with stamps := stamps }

/-- Two acts that only look at names, lists and records: where these are the same they give results
in a relation, and they leave the state as it is but for the stamps. -/
def Looks {α β : Type} (R : α → β → Prop) (first : Run α) (second : Run β) : Prop :=
  ∀ machine other : Machine, machine.scopes = other.scopes → machine.heap = other.heap →
    Agree Eq R (first.run machine).1 (second.run other).1 ∧
      (∃ stamps, (first.run machine).2 = machine.restamp stamps) ∧
        ∃ stamps, (second.run other).2 = other.restamp stamps

namespace Looks

variable {α β α' β' : Type} {R : α → α' → Prop} {S : β → β' → Prop}

theorem ofExcept {first : Except Failure α} {second : Except Failure α'}
    (h : Agree Eq R first second) : Looks R (Run.ofExcept first) (Run.ofExcept second) := by
  intro machine other _ _
  cases h with
  | ok h => exact ⟨.ok h, ⟨_, rfl⟩, ⟨_, rfl⟩⟩
  | error h =>
    subst h
    exact ⟨.error rfl, ⟨_, rfl⟩, ⟨_, rfl⟩⟩

theorem pure {a : α} {b : α'} (h : R a b) : Looks R (pure a : Run α) (pure b) :=
  fun _ _ _ _ => ⟨.ok h, ⟨_, rfl⟩, ⟨_, rfl⟩⟩

theorem fail (failure : Failure) : Looks R (Run.fail failure : Run α) (Run.fail failure) :=
  fun _ _ _ _ => ⟨.error rfl, ⟨_, rfl⟩, ⟨_, rfl⟩⟩

theorem bind {first : Run α} {second : Run α'} {rest : α → Run β} {rest' : α' → Run β'}
    (hfirst : Looks R first second) (hrest : ∀ a b, R a b → Looks S (rest a) (rest' b)) :
    Looks S (first >>= rest) (second >>= rest') := by
  intro machine other hscopes hheap
  obtain ⟨hagree, ⟨stamps, hnext⟩, ⟨stamps', hnext'⟩⟩ := hfirst machine other hscopes hheap
  rw [Stateful.run_bind, Stateful.run_bind]
  generalize first.run machine = ending, second.run other = ending' at hagree hnext hnext' ⊢
  obtain ⟨outcome, next⟩ := ending
  obtain ⟨outcome', next'⟩ := ending'
  obtain rfl : next = machine.restamp stamps := hnext
  obtain rfl : next' = other.restamp stamps' := hnext'
  cases hagree with
  | error h => exact ⟨.error h, ⟨_, rfl⟩, ⟨_, rfl⟩⟩
  | ok h =>
    obtain ⟨hagree, ⟨last, hlast⟩, ⟨last', hlast'⟩⟩ :=
      hrest _ _ h (machine.restamp stamps) (other.restamp stamps') hscopes hheap
    exact ⟨hagree, ⟨last, hlast⟩, ⟨last', hlast'⟩⟩

/-- What is read off the heap in a pure way. -/
theorem heap {result : Heap → Except Failure α} {result' : Heap → Except Failure α'}
    (h : ∀ heap, Agree Eq R (result heap) (result' heap)) :
    Looks R (do Run.ofExcept (result (← get).heap)) (do Run.ofExcept (result' (← get).heap)) := by
  intro machine other hscopes hheap
  have hagree := h machine.heap
  rw [Stateful.run_bind_ok (Stateful.run_get machine),
    Stateful.run_bind_ok (Stateful.run_get other), ← hheap]
  exact Looks.ofExcept hagree machine other hscopes hheap

theorem truthy {a b : Value} (h : Like a b) :
    Looks Eq (Run.ofExcept a.truthy) (Run.ofExcept b.truthy) := by
  rw [h.truthy]
  exact ofExcept (.refl (fun _ => rfl) _)

theorem freshStamp : Looks (fun _ _ => True) Run.freshStamp Run.freshStamp :=
  fun _ _ _ _ => ⟨.ok trivial, ⟨_, rfl⟩, ⟨_, rfl⟩⟩

theorem readName (name : String) : Looks Like (Run.readName name) (Run.readName name) := by
  intro machine other hscopes hheap
  unfold Run.readName
  rw [Stateful.run_bind_ok (Stateful.run_get machine),
    Stateful.run_bind_ok (Stateful.run_get other), hscopes]
  split
  · exact pure (.same _) machine other hscopes hheap
  · exact fail _ machine other hscopes hheap

theorem readMember {a b : Value} (h : Like a b) (name : String) :
    Looks Like (Run.readMember a name) (Run.readMember b name) :=
  .bind freshStamp fun stamp stamp' _ => .heap fun heap => h.getMember heap stamp stamp' name

theorem readIndex {a b key key' : Value} (h : Like a b) (hkey : Like key key') :
    Looks Like (Run.readIndex a key) (Run.readIndex b key') :=
  .bind freshStamp fun stamp stamp' _ => .heap fun heap => h.getIndex hkey heap stamp stamp'

end Looks

/-! ## Expressions that only look -/

mutual

/-- Whether an expression only looks at names, lists and records: it calls, writes and builds
nothing, and asks of nothing but literals whether something is the same. -/
def Expr.isSteady : Expr → Bool
  | .literal _ => true
  | .read place => place.isSteady
  | .unary _ operand => operand.isSteady
  | .binary left op right =>
    left.isSteady && right.isSteady && (!op.asksSame || left.isLiteral || right.isLiteral)
  | .logical left _ right => left.isSteady && right.isSteady
  | .conditional test yes no => test.isSteady && yes.isSteady && no.isSteady
  | .call .. | .object _ | .array _ | .assign .. | .update .. => false

/-- Whether the parts of a place only look at names, lists and records. -/
def Place.isSteady : Place → Bool
  | .name _ => true
  | .member object _ _ => object.isSteady
  | .index object index _ => object.isSteady && index.isSteady

end

section Expressions

variable {context : Context} {room : Nat}

section Parts

variable (heval : ∀ expr : Expr, expr.isSteady = true →
  Looks Like (evaluate context expr room) (evaluate context expr room))

include heval

theorem readPlace_looks (place : Place) (h : place.isSteady = true) :
    Looks Like (readPlace context place room) (readPlace context place room) := by
  cases place with
  | name name =>
    simp only [readPlace]
    exact .readName name
  | member object name optional =>
    simp only [readPlace]
    refine .bind (heval object h) fun a b hlike => ?_
    rw [hlike.isNull]
    split
    · exact .pure (.same _)
    · exact .readMember hlike name
  | index object index optional =>
    obtain ⟨hobject, hindex⟩ := Bool.and_eq_true_iff.mp h
    simp only [readPlace]
    refine .bind (heval object hobject) fun a b hlike => ?_
    have hread := Looks.bind (heval index hindex) fun key key' hkey => .readIndex hlike hkey
    rw [hlike.isNull]
    split
    · split
      · exact .pure (.same _)
      · exact .bind (.fail _ : Looks Eq _ _) fun _ _ _ => hread
    · exact hread

omit heval in
theorem evaluateLiteral_looks (literal : Literal) :
    Looks (fun a b => a = literal.value ∧ b = literal.value)
      (evaluate context (.literal literal) room) (evaluate context (.literal literal) room) := by
  cases room with
  | zero =>
    simp only [evaluate]
    exact .fail _
  | succ room =>
    simp only [evaluate]
    exact .pure ⟨rfl, rfl⟩

theorem evaluateBinary_looks (left : Expr) (op : BinaryOp) (right : Expr)
    (h : (Expr.binary left op right).isSteady = true) :
    Looks Like (evaluate context (.binary left op right) (room + 1))
      (evaluate context (.binary left op right) (room + 1)) := by
  simp only [Expr.isSteady, Bool.and_eq_true, Bool.or_eq_true, Bool.not_eq_true'] at h
  obtain ⟨⟨hleft, hright⟩, hop⟩ := h
  have hsame {a b c d : Value} (heq : ∀ heap, applyBinary heap op a c = applyBinary heap op b d) :
      Looks Like (do Run.ofExcept (applyBinary (← get).heap op a c))
        (do Run.ofExcept (applyBinary (← get).heap op b d)) := by
    have hagree (heap : Heap) :
        Agree Eq Like (applyBinary heap op a c) (applyBinary heap op b d) := by
      rw [heq]
      exact .refl .same _
    exact .heap hagree
  simp only [evaluate]
  rcases hop with (hop | hliteral) | hliteral
  · exact .bind (heval left hleft) fun a b hlike => .bind (heval right hright) fun c d hlike' =>
      hsame (hlike.applyBinary hlike' hop)
  · obtain ⟨literal, rfl⟩ : ∃ literal, left = .literal literal := by
      cases left <;> first | exact ⟨_, rfl⟩ | cases hliteral
    refine .bind (evaluateLiteral_looks literal) ?_
    rintro _ _ ⟨rfl, rfl⟩
    exact .bind (heval right hright) fun c d hlike => hsame (hlike.applyBinary_right op literal)
  · obtain ⟨literal, rfl⟩ : ∃ literal, right = .literal literal := by
      cases right <;> first | exact ⟨_, rfl⟩ | cases hliteral
    refine .bind (heval left hleft) fun a b hlike => .bind (evaluateLiteral_looks literal) ?_
    rintro _ _ ⟨rfl, rfl⟩
    exact hsame (hlike.applyBinary_left op literal)

theorem evaluateLogical_looks (left : Expr) (op : LogicalOp) (right : Expr)
    (h : (Expr.logical left op right).isSteady = true) :
    Looks Like (evaluate context (.logical left op right) (room + 1))
      (evaluate context (.logical left op right) (room + 1)) := by
  obtain ⟨hleft, hright⟩ := Bool.and_eq_true_iff.mp h
  simp only [evaluate]
  refine .bind (heval left hleft) fun a b hlike => ?_
  cases op with
  | and | or =>
    refine .bind (.truthy hlike) ?_
    rintro holds _ rfl
    split
    all_goals first | exact heval right hright | exact .pure hlike
  | orElse =>
    dsimp only
    rw [hlike.isNull]
    split
    · exact heval right hright
    · exact .pure hlike

end Parts

/-- An expression that only looks gives the same wherever the names, lists and records are the same,
and changes nothing but the stamps. -/
theorem evaluate_looks (expr : Expr) (room : Nat) (h : expr.isSteady = true) :
    Looks Like (evaluate context expr room) (evaluate context expr room) := by
  induction room generalizing expr with
  | zero =>
    simp only [evaluate]
    exact .fail _
  | succ room heval =>
    cases expr with
    | call | object | array | assign | update => cases h
    | literal value =>
      simp only [evaluate]
      exact .pure (.same _)
    | read place =>
      simp only [evaluate]
      exact readPlace_looks heval place h
    | unary op operand =>
      simp only [evaluate]
      refine .bind (heval operand h) fun a b hlike => ?_
      rw [hlike.applyUnary]
      exact .ofExcept (.refl .same _)
    | binary left op right => exact evaluateBinary_looks heval left op right h
    | logical left op right => exact evaluateLogical_looks heval left op right h
    | conditional test yes no =>
      simp only [Expr.isSteady, Bool.and_eq_true] at h
      obtain ⟨⟨htest, hyes⟩, hno⟩ := h
      simp only [evaluate]
      refine .bind (heval test htest) fun a b hlike => ?_
      refine .bind (.truthy hlike) ?_
      rintro holds _ rfl
      split
      · exact heval yes hyes
      · exact heval no hno

end Expressions

/-! ## Slots -/

/-- What a target stands for when its parts are evaluated: a name, a part of a value, or a part of a
null whose index is not evaluated, because nothing is read there. -/
inductive Slot where
  | name (name : String)
  | part (object key : Value)
  | absent (object : Value) (index : Expr)

/-- Two slots of one name, or two parts that are told apart by functions only. -/
inductive Slot.Like : Slot → Slot → Prop
  | name (name : String) : Like (.name name) (.name name)
  | part {a b key key' : Value} (hobject : Program.Like a b) (hkey : Program.Like key key') :
    Like (.part a key) (.part b key')

open Run in
/-- Evaluate the parts of a target and read the slot. -/
def readSlot (context : Context) : Place → Nat → Run (Slot × Value)
  | .name name, _ => do return (.name name, ← readName name)
  | .member object name optional, room => do
    let value ← evaluate context object room
    if isNull value && optional then return (.part value (.str name), .null)
    return (.part value (.str name), ← readMember value name)
  | .index object index optional, room => do
    let value ← evaluate context object room
    if isNull value then
      if optional then return (.absent value index, .null) else fail (.program .nullIndex)
    let key ← evaluate context index room
    return (.part value key, ← readIndex value key)

/-- Evaluate the parts of a target. -/
def findSlot (context : Context) : Place → Nat → Run Slot
  | .name name, _ => return .name name
  | .member object name _, room => do return .part (← evaluate context object room) (.str name)
  | .index object index _, room => do
    let value ← evaluate context object room
    return .part value (← evaluate context index room)

/-- A target stands for a slot in a state: its parts give that slot there, and change nothing but
the stamps. -/
def StandsFor (context : Context) (target : Place) (room : Nat) (machine : Machine) (slot : Slot) :
    Prop :=
  ∃ found stamps, found.Like slot ∧
    (findSlot context target room).run machine = (.ok found, machine.restamp stamps)

/-- Write a slot. -/
def writeSlot (context : Context) (room : Nat) : Slot → Value → Run Unit
  | .name name, value => Run.writeName name value
  | .part object key, value => Run.writePart object key value
  | .absent object index, value => do Run.writePart object (← evaluate context index room) value

/-- A change of a slot: the slot that was read, what is to be written, and what the expression that
changes it gives. -/
structure Change where
  slot : Slot
  written : Value
  given : Value

/-- What a compound assignment changes. -/
def computeAssign (context : Context) (target : Place) (op : BinaryOp) (value : Expr) (room : Nat) :
    Run Change := do
  let (slot, old) ← readSlot context target room
  let extra ← evaluate context value room
  let assigned ← Run.ofExcept (applyBinary (← get).heap op old extra)
  return ⟨slot, assigned, assigned⟩

/-- What an update changes. -/
def computeUpdate (context : Context) (target : Place) (op : UpdateOp) (before : Bool)
    (room : Nat) : Run Change := do
  let (slot, value) ← readSlot context target room
  let old ← Run.ofExcept (value.numericOperand op.symbol)
  let new := match op with
    | .increment => old + 1.0
    | .decrement => old - 1.0
  return ⟨slot, .double new, .double (if before then new else old)⟩

/-- Make a change in a slot that is chosen in view of the one that was read. -/
def makeChange (context : Context) (room : Nat) (compute : Run Change) (choose : Slot → Run Slot) :
    Run Value := do
  let change ← compute
  writeSlot context room (← choose change.slot) change.written
  return change.given

section Slots

variable {context : Context} {room : Nat}

theorem readPlace_eq (target : Place) :
    readPlace context target room = (do return (← readSlot context target room).2) := by
  cases target with
  | name name => simp [readPlace, readSlot]
  | member object name optional =>
    simp only [readPlace, readSlot, bind_assoc]
    refine bind_congr fun value => ?_
    split <;> simp
  | index object index optional =>
    simp only [readPlace, readSlot, bind_assoc]
    refine bind_congr fun value => ?_
    split
    · split <;> simp
    · simp

theorem writePlace_eq (target : Place) (value : Value) :
    writePlace context target value room =
      (do writeSlot context room (← findSlot context target room) value) := by
  cases target <;> simp [writePlace, findSlot, writeSlot]

theorem evaluate_assign_eq (target : Place) (op : BinaryOp) (value : Expr) :
    evaluate context (.assign target (some op) value) (room + 1) =
      makeChange context room (computeAssign context target op value room)
        fun _ => findSlot context target room := by
  simp [evaluate, makeChange, computeAssign, readPlace_eq, writePlace_eq]

theorem evaluate_update_eq (target : Place) (op : UpdateOp) (before : Bool) :
    evaluate context (.update target op before) (room + 1) =
      makeChange context room (computeUpdate context target op before room)
        fun _ => findSlot context target room := by
  cases op <;>
    simp only [evaluate, makeChange, computeUpdate, readPlace_eq, writePlace_eq, bind_assoc,
      pure_bind]

/-! ## Steady targets -/

theorem Run.eq_of_ofExcept {α : Type} {result : Except Failure α} {a : α} {machine next : Machine}
    (h : (Run.ofExcept result).run machine = (.ok a, next)) : next = machine := by
  cases result <;> cases h
  rfl

/-- Two endings that differ in nothing but the stamps. -/
def Restamped {α : Type} (first second : Ending α) : Prop :=
  first.1 = second.1 ∧ ∃ stamps, first.2 = second.2.restamp stamps

theorem Restamped.refl {α : Type} (ending : Ending α) : Restamped ending ending :=
  ⟨rfl, ending.2.stamps, rfl⟩

theorem Restamped.andThen {α β : Type} {first second : Run α} {machine other : Machine}
    (h : Restamped (first.run machine) (second.run other)) (b : β) :
    Restamped ((do let _ ← first; return b).run machine)
      ((do let _ ← second; return b).run other) := by
  obtain ⟨houtcome, stamps, hstate⟩ := h
  rw [Stateful.run_bind, Stateful.run_bind]
  generalize first.run machine = ending, second.run other = ending' at houtcome hstate ⊢
  obtain ⟨outcome, next⟩ := ending
  obtain ⟨outcome', next'⟩ := ending'
  obtain rfl : outcome = outcome' := houtcome
  cases outcome <;> exact ⟨rfl, stamps, hstate⟩

theorem writePart_restamped {a b key key' : Value} (h : Like a b) (hkey : Like key key')
    (value : Value) (machine : Machine) (stamps stamps' : Nat) :
    Restamped ((Run.writePart a key value).run (machine.restamp stamps))
      ((Run.writePart b key' value).run (machine.restamp stamps')) := by
  have hsame : setMember (machine.restamp stamps).heap a key value =
      setMember (machine.restamp stamps').heap b key' value := h.setMember hkey machine.heap value
  rw [Run.run_writePart, Run.run_writePart, hsame]
  cases setMember (machine.restamp stamps').heap b key' value with
  | error failure => exact ⟨rfl, stamps, rfl⟩
  | ok heap => exact ⟨rfl, stamps, rfl⟩

theorem writeSlot_restamped {slot other : Slot} (h : slot.Like other) (value : Value)
    (machine : Machine) (stamps : Nat) :
    Restamped ((writeSlot context room slot value).run (machine.restamp stamps))
      ((writeSlot context room other value).run machine) := by
  cases h with
  | name name =>
    simp only [writeSlot]
    unfold Run.writeName
    rw [Stateful.run_bind_ok (Stateful.run_get _), Stateful.run_bind_ok (Stateful.run_get _)]
    have hsame : Run.assignIn name value (machine.restamp stamps).scopes =
        Run.assignIn name value machine.scopes := rfl
    rw [hsame]
    cases Run.assignIn name value machine.scopes <;> exact ⟨rfl, stamps, rfl⟩
  | part hobject hkey => exact writePart_restamped hobject hkey value machine stamps machine.stamps

/-- A change is made in the slot that was read, whether it is found again or not, if the target
stands for that slot when it is found. -/
theorem makeChange_of_standsFor {target : Place} {compute : Run Change} {machine : Machine}
    (hcompute : ∀ change last, compute.run machine = (.ok change, last) →
      StandsFor context target room last change.slot) :
    Restamped ((makeChange context room compute fun _ => findSlot context target room).run machine)
      ((makeChange context room compute pure).run machine) := by
  unfold makeChange
  rcases hrun : compute.run machine with ⟨stop | change, last⟩
  · rw [Stateful.run_bind_error hrun, Stateful.run_bind_error hrun]
    exact .refl _
  · obtain ⟨found, stamps, hlike, hfound⟩ := hcompute change last hrun
    rw [Stateful.run_bind_ok hrun, Stateful.run_bind_ok hrun, pure_bind,
      Stateful.run_bind_ok hfound]
    exact (writeSlot_restamped hlike change.written last stamps).andThen change.given

/-- What an expression that only looks gives once, it gives later too, if the names, lists and
records are the same then. -/
theorem evaluate_again {expr : Expr} (h : expr.isSteady = true) {machine next later : Machine}
    {value : Value} (hrun : (evaluate context expr room).run machine = (.ok value, next))
    (hscopes : later.scopes = machine.scopes) (hheap : later.heap = machine.heap) :
    next.scopes = machine.scopes ∧ next.heap = machine.heap ∧
      ∃ again stamps, Like again value ∧
        (evaluate context expr room).run later = (.ok again, later.restamp stamps) := by
  obtain ⟨hagree, ⟨stamps, hlater⟩, ⟨stamps', hnext⟩⟩ :=
    evaluate_looks expr room h later machine hscopes hheap
  rw [hrun] at hagree hnext
  generalize hending : (evaluate context expr room).run later = ending at hagree hlater
  obtain ⟨outcome, last⟩ := ending
  obtain rfl : last = _ := hlater
  obtain rfl : next = _ := hnext
  cases hagree with
  | ok hlike => exact ⟨rfl, rfl, _, _, hlike, rfl⟩

theorem writeAbsent_restamped {a b : Value} (h : Like a b) {index : Expr}
    (hindex : index.isSteady = true) (value : Value) (machine : Machine) (stamps stamps' : Nat) :
    Restamped
      ((do Run.writePart a (← evaluate context index room) value).run (machine.restamp stamps))
      ((do Run.writePart b (← evaluate context index room) value).run
        (machine.restamp stamps')) := by
  have hlooks : Looks Like (evaluate context index room) (evaluate context index room) :=
    evaluate_looks index room hindex
  obtain ⟨hagree, ⟨last, hlast⟩, ⟨last', hlast'⟩⟩ :=
    hlooks (machine.restamp stamps) (machine.restamp stamps') rfl rfl
  rw [Stateful.run_bind, Stateful.run_bind]
  generalize (evaluate context index room).run (machine.restamp stamps) = ending,
    (evaluate context index room).run (machine.restamp stamps') = ending' at hagree hlast hlast' ⊢
  obtain ⟨outcome, next⟩ := ending
  obtain ⟨outcome', next'⟩ := ending'
  obtain rfl : next = _ := hlast
  obtain rfl : next' = _ := hlast'
  cases hagree with
  | error hstop =>
    subst hstop
    exact ⟨rfl, last, rfl⟩
  | ok hkey => exact writePart_restamped h hkey value machine last last'

/-- The slot that a steady target stands for once, it stands for later too. -/
theorem writeSlot_again {target : Place} (hsteady : target.isSteady = true)
    {machine next later : Machine} {slot : Slot} {old : Value}
    (hread : (readSlot context target room).run machine = (.ok (slot, old), next))
    (hscopes : later.scopes = machine.scopes) (hheap : later.heap = machine.heap) (value : Value) :
    Restamped
      ((do writeSlot context room (← findSlot context target room) value).run later)
      ((writeSlot context room slot value).run later) := by
  cases target with
  | name name =>
    simp only [readSlot] at hread
    obtain ⟨_, _, -, hslot⟩ := Stateful.run_bind_eq_ok hread
    cases hslot
    exact .refl _
  | member object name optional =>
    simp only [readSlot] at hread
    obtain ⟨held, found, hobject, hread⟩ := Stateful.run_bind_eq_ok hread
    obtain ⟨-, -, again, stamps, hlike, hagain⟩ := evaluate_again hsteady hobject hscopes hheap
    obtain rfl : slot = .part held (.str name) := by
      split at hread
      · cases hread
        rfl
      · obtain ⟨_, _, -, hslot⟩ := Stateful.run_bind_eq_ok hread
        cases hslot
        rfl
    simp only [findSlot, bind_assoc, pure_bind]
    rw [Stateful.run_bind_ok hagain]
    exact writePart_restamped hlike (.same _) value later stamps later.stamps
  | index object index optional =>
    obtain ⟨hsteady, hindex⟩ := Bool.and_eq_true_iff.mp hsteady
    simp only [readSlot] at hread
    obtain ⟨held, found, hobject, hread⟩ := Stateful.run_bind_eq_ok hread
    obtain ⟨hscopes', hheap', again, stamps, hlike, hagain⟩ :=
      evaluate_again hsteady hobject hscopes hheap
    simp only [findSlot, bind_assoc, pure_bind]
    rw [Stateful.run_bind_ok hagain]
    split at hread
    · split at hread
      · cases hread
        exact writeAbsent_restamped hlike hindex value later stamps later.stamps
      · cases hread
    · obtain ⟨key, _, hkey, hread⟩ := Stateful.run_bind_eq_ok hread
      obtain ⟨_, _, -, hslot⟩ := Stateful.run_bind_eq_ok hread
      cases hslot
      obtain ⟨-, -, key', stamps', hlike', hkey'⟩ := evaluate_again hindex hkey
        (show (later.restamp stamps).scopes = found.scopes from hscopes.trans hscopes'.symm)
        (show (later.restamp stamps).heap = found.heap from hheap.trans hheap'.symm)
      rw [Stateful.run_bind_ok hkey']
      exact writePart_restamped hlike hlike' value later stamps' later.stamps

/-- A change of a steady target is made in the slot that was read, whether it is found again or not,
unless names, lists or records have changed since. -/
theorem makeChange_restamped {target : Place} (hsteady : target.isSteady = true)
    {compute : Run Change} {machine : Machine}
    (hcompute : ∀ change last, compute.run machine = (.ok change, last) →
      last.scopes = machine.scopes ∧ last.heap = machine.heap ∧
        ∃ old next, (readSlot context target room).run machine = (.ok (change.slot, old), next)) :
    Restamped ((makeChange context room compute fun _ => findSlot context target room).run machine)
      ((makeChange context room compute pure).run machine) := by
  unfold makeChange
  rcases hrun : compute.run machine with ⟨stop | change, last⟩
  · rw [Stateful.run_bind_error hrun, Stateful.run_bind_error hrun]
    exact .refl _
  · obtain ⟨hscopes, hheap, old, next, hread⟩ := hcompute change last hrun
    rw [Stateful.run_bind_ok hrun, Stateful.run_bind_ok hrun, pure_bind, ← bind_assoc]
    exact (writeSlot_again hsteady hread hscopes hheap change.written).andThen change.given

/-- Reading a steady target leaves the names, lists and records as they are. -/
theorem readSlot_same {target : Place} (hsteady : target.isSteady = true) {machine next : Machine}
    {slot : Slot} {old : Value}
    (hread : (readSlot context target room).run machine = (.ok (slot, old), next)) :
    next.scopes = machine.scopes ∧ next.heap = machine.heap := by
  have hplace : (readPlace context target room).run machine = (.ok old, next) := by
    rw [readPlace_eq, Stateful.run_bind_ok hread]
    rfl
  obtain ⟨-, ⟨stamps, hnext⟩, -⟩ :=
    readPlace_looks (fun expr h => evaluate_looks expr room h) target hsteady
      machine machine rfl rfl
  rw [hplace] at hnext
  obtain rfl : next = _ := hnext
  exact ⟨rfl, rfl⟩

end Slots

/-- Compound assignments and updates find their target twice: after the change is computed, its
parts are evaluated once more, and what is written is the slot that they name then. If they name the
slot that was read and change nothing, the outcome is that of a change in that slot, and the state
at its end differs from that in nothing but the stamps. So it is if the parts only look at names,
lists and records, and the value of a compound assignment leaves these as they are. -/
theorem compound_targets (context : Context) (target : Place) (room : Nat) :
    (∀ op value, evaluate context (.assign target (some op) value) (room + 1) =
      makeChange context room (computeAssign context target op value room)
        fun _ => findSlot context target room) ∧
    (∀ op before, evaluate context (.update target op before) (room + 1) =
      makeChange context room (computeUpdate context target op before room)
        fun _ => findSlot context target room) ∧
    (∀ compute machine,
      (∀ change last, compute.run machine = (.ok change, last) →
        StandsFor context target room last change.slot) →
      Restamped
        ((makeChange context room compute fun _ => findSlot context target room).run machine)
        ((makeChange context room compute pure).run machine)) ∧
    (target.isSteady = true → ∀ machine,
      (∀ op value,
        (∀ slot old next extra last,
          (readSlot context target room).run machine = (.ok (slot, old), next) →
          (evaluate context value room).run next = (.ok extra, last) →
          last.scopes = next.scopes ∧ last.heap = next.heap) →
        Restamped ((evaluate context (.assign target (some op) value) (room + 1)).run machine)
          ((makeChange context room (computeAssign context target op value room) pure).run
            machine)) ∧
      ∀ op before,
        Restamped ((evaluate context (.update target op before) (room + 1)).run machine)
          ((makeChange context room (computeUpdate context target op before room) pure).run
            machine)) := by
  refine ⟨evaluate_assign_eq target, evaluate_update_eq target,
    fun _ _ => makeChange_of_standsFor, fun hsteady machine =>
      ⟨fun op value hvalue => ?_, fun op before => ?_⟩⟩
  · rw [evaluate_assign_eq]
    refine makeChange_restamped hsteady fun change last hrun => ?_
    obtain ⟨⟨slot, old⟩, next, hread, hrun⟩ := Stateful.run_bind_eq_ok hrun
    obtain ⟨extra, after, hextra, hrun⟩ := Stateful.run_bind_eq_ok hrun
    obtain ⟨hscopes, hheap⟩ := hvalue slot old next extra after hread hextra
    obtain ⟨hscopes', hheap'⟩ := readSlot_same hsteady hread
    rw [Stateful.run_bind_ok (Stateful.run_get after)] at hrun
    obtain ⟨assigned, found, hassigned, hmade⟩ := Stateful.run_bind_eq_ok hrun
    obtain rfl := Run.eq_of_ofExcept hassigned
    cases hmade
    exact ⟨hscopes.trans hscopes', hheap.trans hheap', old, next, hread⟩
  · rw [evaluate_update_eq]
    refine makeChange_restamped hsteady fun change last hrun => ?_
    obtain ⟨⟨slot, old⟩, next, hread, hrun⟩ := Stateful.run_bind_eq_ok hrun
    obtain ⟨number, found, hnumber, hmade⟩ := Stateful.run_bind_eq_ok hrun
    obtain ⟨hscopes, hheap⟩ := readSlot_same hsteady hread
    obtain rfl := Run.eq_of_ofExcept hnumber
    cases hmade
    exact ⟨hscopes, hheap, old, _, hread⟩

/-- A record under a name, and a text under another. -/
def recordStart : Machine :=
  .start ⟨#[.record [("k", .str "a")]]⟩ 0 [("r", .record 0), ("k", .str "k")]

/-- A part of the record that a text names. -/
def namedPart : Place :=
  .index (.read (.name "r")) (.read (.name "k")) false

/-- The part grows by the text of a new list. -/
def growPart : Run Change :=
  computeAssign ⟨.none, 5⟩ namedPart .add (.array [.literal (.str "b")]) 8

theorem compound_targets_namedPart :
    (∀ change last, growPart.run recordStart = (.ok change, last) →
      StandsFor ⟨.none, 5⟩ namedPart 8 last change.slot) ∧
    Restamped
      ((makeChange ⟨.none, 5⟩ 8 growPart fun _ => findSlot ⟨.none, 5⟩ namedPart 8).run recordStart)
      ((makeChange ⟨.none, 5⟩ 8 growPart pure).run recordStart) ∧
    namedPart.isSteady = true ∧
      Restamped ((evaluate ⟨.none, 5⟩ (.assign namedPart (some .add) (.literal (.str "b"))) 9).run
          recordStart)
        ((makeChange ⟨.none, 5⟩ 8 (computeAssign ⟨.none, 5⟩ namedPart .add (.literal (.str "b")) 8)
          pure).run recordStart) := by
  have hstands : ∀ change last, growPart.run recordStart = (.ok change, last) →
      StandsFor ⟨.none, 5⟩ namedPart 8 last change.slot := by
    intro change last hrun
    cases hrun
    exact ⟨_, _, .part (.same _) (.same _), rfl⟩
  obtain ⟨-, -, hfound, hsteady⟩ := compound_targets ⟨.none, 5⟩ namedPart 8
  refine ⟨hstands, hfound _ _ hstands, by decide,
    (hsteady (by decide) recordStart).1 .add (.literal (.str "b"))
      fun slot old next extra last _ hextra => ?_⟩
  cases hextra
  exact ⟨rfl, rfl⟩

/-- A part whose name grows whenever it is looked up is written beside the one that was read. -/
example : ((evaluate ⟨.none, 5⟩ (.assign (.index (.read (.name "r"))
      (.assign (.name "k") (some .add) (.literal (.str "!"))) false) (some .add)
      (.literal (.str "b"))) 9).run (.start ⟨#[.record [("k!", .str "a")]]⟩ 0
        [("r", .record 0), ("k", .str "k")])).2.heap.cells =
    #[.record [("k!", .str "a"), ("k!!", .str "ab")]] := by rfl

end Canvasflow.Program
