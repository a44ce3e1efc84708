import Canvasflow.Proofs.Program.Lockstep

/-!
# Runs of like states

Every expression and every statement whose texts and lists are permitted goes in lockstep with
itself, so two runs of one program from like states end alike: `run_alike` says that both give like
values or both fail, and that the states at their ends are like again.
-/

namespace Canvasflow.Program

namespace Likeness

variable (L : Likeness)

/-- Stops with like values, or with permitted failures. -/
inductive Stops : Stop → Stop → Prop
  | returned {a b : Value} (h : L.Values a b) : Stops (.returned a) (.returned b)
  | failed {failure other : Failure} (h : L.Fails failure other) :
      Stops (.failed failure) (.failed other)

/-! ## Programs that may run -/

/-- A literal that may occur. -/
def FitsLiteral : Literal → Prop
  | .str value => L.text value
  | .null | .bool _ | .num _ => True

mutual

/-- An expression whose texts may occur and whose lists have permitted lengths. -/
def FitsExpr : Expr → Prop
  | .literal value => L.FitsLiteral value
  | .read place => FitsPlace place
  | .call callee args => FitsExpr callee ∧ FitsAll args
  | .unary _ operand => FitsExpr operand
  | .binary left _ right => FitsExpr left ∧ FitsExpr right
  | .logical left _ right => FitsExpr left ∧ FitsExpr right
  | .conditional test yes no => FitsExpr test ∧ FitsExpr yes ∧ FitsExpr no
  | .object entries => FitsEntries entries
  | .array items => L.size items.length ∧ FitsAll items
  | .assign target _ value => FitsPlace target ∧ FitsExpr value
  | .update target _ _ => FitsPlace target

/-- Expressions that fit. -/
def FitsAll : List Expr → Prop
  | [] => True
  | first :: rest => FitsExpr first ∧ FitsAll rest

/-- A place whose parts fit. -/
def FitsPlace : Place → Prop
  | .name _ => True
  | .member object name _ => FitsExpr object ∧ L.text name
  | .index object index _ => FitsExpr object ∧ FitsExpr index

/-- A part of a record literal that fits. -/
def FitsEntry : Entry → Prop
  | .pair key value => L.text key ∧ FitsExpr value
  | .spread value => FitsExpr value

/-- Parts of a record literal that fit. -/
def FitsEntries : List Entry → Prop
  | [] => True
  | first :: rest => FitsEntry first ∧ FitsEntries rest

end

/-- An expression that may be left out, and fits if it is there. -/
def FitsExpr? : Option Expr → Prop
  | none => True
  | some expr => L.FitsExpr expr

mutual

/-- A statement whose expressions fit. -/
def FitsStmt : Stmt → Prop
  | .declare _ _ value => L.FitsExpr? value
  | .expr value => L.FitsExpr value
  | .block body => FitsStmts body
  | .cond test yes no => L.FitsExpr test ∧ FitsStmt yes ∧ FitsStmt? no
  | .loop test body => L.FitsExpr test ∧ FitsStmt body
  | .iterate start test next body =>
    FitsStmt? start ∧ L.FitsExpr? test ∧ L.FitsExpr? next ∧ FitsStmt body
  | .ret value => L.FitsExpr? value
  | .empty => True

/-- A statement that may be left out, and fits if it is there. -/
def FitsStmt? : Option Stmt → Prop
  | none => True
  | some stmt => FitsStmt stmt

/-- Statements that fit. -/
def FitsStmts : List Stmt → Prop
  | [] => True
  | first :: rest => FitsStmt first ∧ FitsStmts rest

end

variable {L}

/-- Every text may occur, and a list may have every length. -/
structure Unlimited (L : Likeness) : Prop where
  text (text : String) : L.text text
  size (n : Nat) : L.size n

namespace Unlimited

mutual

/-- Without limits every expression fits. -/
theorem fitsExpr (h : L.Unlimited) : (expr : Expr) → L.FitsExpr expr
  | .literal value => by cases value <;> first | exact h.text _ | trivial
  | .read place => h.fitsPlace place
  | .call callee args => ⟨h.fitsExpr callee, h.fitsAll args⟩
  | .unary _ operand => h.fitsExpr operand
  | .binary left _ right => ⟨h.fitsExpr left, h.fitsExpr right⟩
  | .logical left _ right => ⟨h.fitsExpr left, h.fitsExpr right⟩
  | .conditional test yes no => ⟨h.fitsExpr test, h.fitsExpr yes, h.fitsExpr no⟩
  | .object entries => h.fitsEntries entries
  | .array items => ⟨h.size _, h.fitsAll items⟩
  | .assign target _ value => ⟨h.fitsPlace target, h.fitsExpr value⟩
  | .update target _ _ => h.fitsPlace target

theorem fitsAll (h : L.Unlimited) : (items : List Expr) → L.FitsAll items
  | [] => trivial
  | first :: rest => ⟨h.fitsExpr first, h.fitsAll rest⟩

theorem fitsPlace (h : L.Unlimited) : (place : Place) → L.FitsPlace place
  | .name _ => trivial
  | .member object name _ => ⟨h.fitsExpr object, h.text name⟩
  | .index object index _ => ⟨h.fitsExpr object, h.fitsExpr index⟩

theorem fitsEntry (h : L.Unlimited) : (entry : Entry) → L.FitsEntry entry
  | .pair key value => ⟨h.text key, h.fitsExpr value⟩
  | .spread value => h.fitsExpr value

theorem fitsEntries (h : L.Unlimited) : (entries : List Entry) → L.FitsEntries entries
  | [] => trivial
  | first :: rest => ⟨h.fitsEntry first, h.fitsEntries rest⟩

end

theorem fitsExpr? (h : L.Unlimited) (expr : Option Expr) : L.FitsExpr? expr := by
  cases expr with
  | none => trivial
  | some expr => exact h.fitsExpr expr

mutual

/-- Without limits every statement fits. -/
theorem fitsStmt (h : L.Unlimited) : (stmt : Stmt) → L.FitsStmt stmt
  | .declare _ _ value => h.fitsExpr? value
  | .expr value => h.fitsExpr value
  | .block body => h.fitsStmts body
  | .cond test yes no => ⟨h.fitsExpr test, h.fitsStmt yes, h.fitsStmt? no⟩
  | .loop test body => ⟨h.fitsExpr test, h.fitsStmt body⟩
  | .iterate start test next body =>
    ⟨h.fitsStmt? start, h.fitsExpr? test, h.fitsExpr? next, h.fitsStmt body⟩
  | .ret value => h.fitsExpr? value
  | .empty => trivial

theorem fitsStmt? (h : L.Unlimited) : (stmt : Option Stmt) → L.FitsStmt? stmt
  | none => trivial
  | some stmt => h.fitsStmt stmt

theorem fitsStmts (h : L.Unlimited) : (body : List Stmt) → L.FitsStmts body
  | [] => trivial
  | first :: rest => ⟨h.fitsStmt first, h.fitsStmts rest⟩

end

end Unlimited

theorem Lawful.insideNative (hL : L.Lawful) (name : String) (failure : Failure) :
    L.fails (failure.insideNative name) := by
  cases failure with
  | tooDeep => exact hL.tooDeep
  | _ => exact hL.program _

theorem Machines.enter {machine other : Machine} (hm : L.Machines machine other) :
    L.Machines machine.enter other.enter :=
  ⟨hm.heap, .cons ⟨.nil, rfl⟩ hm.scopes, hm.steps, hm.log, hm.stamps, hm.draws⟩

theorem Machines.leave {machine other : Machine} (hm : L.Machines machine other) :
    L.Machines machine.leave other.leave := by
  refine ⟨hm.heap, ?_, hm.steps, hm.log, hm.stamps, hm.draws⟩
  have hscopes := hm.scopes
  unfold Machine.leave
  generalize machine.scopes = scopes, other.scopes = scopes' at hscopes ⊢
  cases hscopes with
  | nil => exact .nil
  | cons _ houter => exact houter

theorem Machines.withScopes {machine other : Machine} (hm : L.Machines machine other)
    {scopes scopes' : List Frame} (h : List.Forall₂ L.Frames scopes scopes') :
    L.Machines { machine with scopes := scopes } { other with scopes := scopes' } :=
  ⟨hm.heap, h, hm.steps, hm.log, hm.stamps, hm.draws⟩

/-- The names that every program can read hold like values in every two runs. -/
theorem globals_alike (hL : L.Lawful) : L.Fields globals globals := by
  exact .cons ⟨rfl, .space .math⟩ <| .cons ⟨rfl, .space .console⟩ <|
    .cons ⟨rfl, .builtin .number⟩ <| .cons ⟨rfl, .builtin .string⟩ <|
    .cons ⟨rfl, .builtin .boolean⟩ <| .cons ⟨rfl, .builtin .isNaN⟩ <|
    .cons ⟨rfl, .num (hL.double _)⟩ <| .cons ⟨rfl, .num (hL.double _)⟩ .nil

end Likeness

/-! ## Operations of a run -/

namespace Run

variable {L : Likeness} {α β : Type} {R : α → β → Prop} {a b : Value}

theorem fail_lockstep {failure other : Failure} (h : L.Fails failure other) :
    Lockstep L L.Stops R (fail failure : Run α) (fail other) :=
  .throw (.failed h)

theorem fault_lockstep (hL : L.Lawful) (cause cause' : ProgramFault) :
    Lockstep L L.Stops R (fail (.program cause) : Run α) (fail (.program cause')) :=
  fail_lockstep ⟨hL.program _, hL.program _⟩

theorem ofExcept_lockstep {first : Except Failure α} {second : Except Failure β}
    (h : Agree L.Fails R first second) :
    Lockstep L L.Stops R (ofExcept first) (ofExcept second) := by
  cases h with
  | ok h => exact .pure h
  | error h => exact fail_lockstep h

theorem ofNative_lockstep (hL : L.Lawful) (fn fn' : Native) {act act' : Action Value}
    (h : Lockstep L AnyFailure L.Values act act') :
    Lockstep L L.Stops L.Values (ofNative fn act) (ofNative fn' act') := by
  intro machine other hm
  obtain ⟨hagree, hnext⟩ := h machine other hm
  rw [run_ofNative, run_ofNative]
  refine ⟨?_, hnext⟩
  generalize (act.run machine).1 = outcome, (act'.run other).1 = outcome' at hagree ⊢
  cases hagree with
  | ok hvalue => exact .ok hvalue
  | error => exact .error (.failed ⟨hL.insideNative _ _, hL.insideNative _ _⟩)

theorem tick_lockstep (hL : L.Lawful) (context : Context) :
    Lockstep L L.Stops (fun _ _ => True) (tick context) (tick context) := by
  intro machine other hm
  rw [run_tick, run_tick, ← hm.steps]
  refine ⟨?_, hm.heap, hm.scopes, rfl, hm.log, hm.stamps, hm.draws⟩
  split
  · exact .error (.failed ⟨hL.program _, hL.program _⟩)
  · exact .ok trivial

theorem inNewScope_lockstep {act : Run α} {act' : Run β} (h : Lockstep L L.Stops R act act') :
    Lockstep L L.Stops R (inNewScope act) (inNewScope act') := by
  intro machine other hm
  obtain ⟨hagree, hnext⟩ := h machine.enter other.enter hm.enter
  rw [run_inNewScope, run_inNewScope]
  exact ⟨hagree, hnext.leave⟩

theorem repeatWhile_lockstep {test test' : Run Bool} {round round' : Run Unit}
    (htest : Lockstep L L.Stops Eq test test')
    (hround : Lockstep L L.Stops (fun _ _ => True) round round') (count : Nat) :
    Lockstep L L.Stops (fun _ _ => True) (repeatWhile test round count)
      (repeatWhile test' round' count) := by
  induction count with
  | zero => exact .pure trivial
  | succ count ih =>
    refine .bind htest ?_
    rintro holds _ rfl
    split
    · exact .bind hround fun _ _ _ => ih
    · exact .pure trivial

/-! ### Names -/

theorem lookup?_alike {scopes scopes' : List Frame} (h : List.Forall₂ L.Frames scopes scopes')
    (name : String) : Option.Rel L.Values (lookup? name scopes) (lookup? name scopes') := by
  induction h with
  | nil => exact .none
  | @cons frame frame' _ _ hframe _ ih =>
    have hfind := hframe.values.find? name
    simp only [lookup?]
    generalize Entries.find? name frame.values = found,
      Entries.find? name frame'.values = found' at hfind ⊢
    cases hfind with
    | none => exact ih
    | some hvalue => exact .some hvalue

theorem assignIn_agree (hL : L.Lawful) {scopes scopes' : List Frame}
    (h : List.Forall₂ L.Frames scopes scopes') (name : String) (hvalue : L.Values a b) :
    Agree L.Fails (List.Forall₂ L.Frames) (assignIn name a scopes) (assignIn name b scopes') := by
  induction h with
  | nil => exact hL.fault _ _
  | @cons frame frame' _ _ hframe houter ih =>
    simp only [assignIn, hframe.values.has_eq name, hframe.constants]
    split
    · split
      · exact hL.fault _ _
      · exact .ok (.cons ⟨hframe.values.set name hvalue, rfl⟩ houter)
    · exact ih.bind fun outer outer' houter => .ok (.cons hframe houter)

theorem declare_lockstep (hL : L.Lawful) (declarator : Declarator) (name : String)
    (hvalue : L.Values a b) :
    Lockstep L L.Stops (fun _ _ => True) (declare declarator name a)
      (declare declarator name b) := by
  refine .bind .get fun machine other hm => ?_
  have hscopes := hm.scopes
  generalize hs : machine.scopes = scopes, hs' : other.scopes = scopes' at hscopes ⊢
  cases hscopes with
  | nil => exact .pure trivial
  | @cons frame frame' outer outer' hframe houter =>
    have hframes (constants : List String) : L.Frames ⟨Entries.set name a frame.values, constants⟩
        ⟨Entries.set name b frame'.values, constants⟩ :=
      ⟨hframe.values.set name hvalue, rfl⟩
    have hset (constants : List String) : Lockstep L L.Stops (fun _ _ => True)
        (MonadState.set { machine with
          scopes := ⟨Entries.set name a frame.values, constants⟩ :: outer })
        (MonadState.set { other with
          scopes := ⟨Entries.set name b frame'.values, constants⟩ :: outer' }) :=
      .mono (.set (hm.withScopes (.cons (hframes constants) houter))) fun _ _ _ => trivial
    dsimp only
    -- the states agree in which names are taken, so both runs refuse the name or neither does
    rw [hframe.values.has_eq name, hframe.constants]
    split
    · exact .bind (R := fun _ _ => True) (fault_lockstep hL _ _) fun _ _ _ => hset _
    · exact hset _

theorem readName_lockstep (hL : L.Lawful) (name : String) :
    Lockstep L L.Stops L.Values (readName name) (readName name) := by
  refine .bind .get fun machine other hm => ?_
  have hfound := lookup?_alike hm.scopes name
  generalize lookup? name machine.scopes = found, lookup? name other.scopes = found' at hfound ⊢
  cases hfound with
  | none => exact fault_lockstep hL _ _
  | some hvalue => exact .pure hvalue

theorem writeName_lockstep (hL : L.Lawful) (name : String) (hvalue : L.Values a b) :
    Lockstep L L.Stops (fun _ _ => True) (writeName name a) (writeName name b) :=
  .bind .get fun _ _ hm =>
    .bind (ofExcept_lockstep (assignIn_agree hL hm.scopes name hvalue)) fun _ _ hscopes =>
      Lockstep.mono (.set (hm.withScopes hscopes)) fun _ _ _ => trivial

/-! ### Parts of values -/

theorem freshStamp_lockstep : Lockstep L L.Stops Eq freshStamp freshStamp :=
  .bind .get fun _ _ hm =>
    .bind (.set ⟨hm.heap, hm.scopes, hm.steps, hm.log, congrArg (· + 1) hm.stamps, hm.draws⟩)
      fun _ _ _ => .pure hm.stamps

theorem readMember_lockstep (hL : L.Lawful) (hvalue : L.Values a b) (name : String) :
    Lockstep L L.Stops L.Values (readMember a name) (readMember b name) := by
  refine .bind freshStamp_lockstep ?_
  rintro stamp _ rfl
  exact .bind .get fun _ _ hm =>
    ofExcept_lockstep (Likeness.getMember_agree hL hm.heap stamp hvalue name)

theorem readIndex_lockstep (hL : L.Lawful) (hvalue : L.Values a b) {key key' : Value}
    (hkey : L.Values key key') :
    Lockstep L L.Stops L.Values (readIndex a key) (readIndex b key') := by
  refine .bind freshStamp_lockstep ?_
  rintro stamp _ rfl
  exact .bind .get fun _ _ hm =>
    ofExcept_lockstep (Likeness.getIndex_agree hL hm.heap stamp hvalue hkey)

theorem writePart_lockstep (hL : L.Lawful) {target target' key key' : Value}
    (htarget : L.Values target target') (hkey : L.Values key key') (hvalue : L.Values a b) :
    Lockstep L L.Stops (fun _ _ => True) (writePart target key a) (writePart target' key' b) :=
  .bind .get fun _ _ hm =>
    .bind (ofExcept_lockstep (Likeness.setMember_agree hL hm.heap htarget hkey hvalue))
      fun _ _ hheap => Lockstep.mono (.set (hm.withHeap hheap)) fun _ _ _ => trivial

theorem newList_lockstep {items items' : List Value} (hsize : L.size items.length)
    (h : List.Forall₂ L.Values items items') :
    Lockstep L L.Stops L.Values (newList items) (newList items') := by
  refine .bind .get fun machine other hm => ?_
  have hcell : L.Cells (.list items.toArray) (.list items'.toArray) := .list hsize h
  obtain ⟨hplace, hgrown⟩ := hm.heap.alloc hcell
  refine .bind (.set (hm.withHeap hgrown)) fun _ _ _ => .pure ?_
  exact (show machine.heap.cells.size = other.heap.cells.size from hplace) ▸ .list _

/-- Like fields with permitted keys. -/
def Gathered (L : Likeness) (fields others : Entries Value) : Prop :=
  L.keys (Entries.keys fields) ∧ L.Fields fields others

theorem newRecord_lockstep {fields others : Entries Value} (h : Gathered L fields others) :
    Lockstep L L.Stops L.Values (newRecord fields) (newRecord others) := by
  refine .bind .get fun machine other hm => ?_
  obtain ⟨hplace, hgrown⟩ := hm.heap.alloc (.record h.1 h.2)
  refine .bind (.set (hm.withHeap hgrown)) fun _ _ _ => .pure ?_
  exact (show machine.heap.cells.size = other.heap.cells.size from hplace) ▸ .record _

theorem spreadInto_lockstep (hL : L.Lawful) {fields others : Entries Value}
    (h : Gathered L fields others) (hvalue : L.Values a b) :
    Lockstep L L.Stops (Gathered L) (spreadInto fields a) (spreadInto others b) := by
  cases hvalue with
  | record place =>
    refine .bind .get fun machine other hm => .pure ?_
    obtain ⟨hkeys, hfields⟩ := hm.heap.fields hL place
    exact ⟨hL.merge h.1 hkeys, h.2.merge hfields⟩
  | null | num | bool => exact .pure h
  | _ => exact fault_lockstep hL _ _

theorem isNull_eq (h : L.Values a b) : isNull a = isNull b := by
  cases h <;> rfl

end Run

/-- What every run needs: a lawful likeness whose texts may be lengthened, and surroundings whose
answers it permits. -/
structure Likeness.Ready (L : Likeness) (context : Context) : Prop where
  lawful : L.Lawful
  lengthening : L.Lengthening
  admitted : context.world.Admitted L

/-! ## Expressions -/

section Expressions

variable {L : Likeness} {context : Context} {room : Nat}

section Parts

/- Expressions that fit go in lockstep with themselves when they are given less room. -/
variable (hL : L.Lawful) (heval : ∀ expr, L.FitsExpr expr →
  Lockstep L L.Stops L.Values (evaluate context expr room) (evaluate context expr room))

include heval

theorem evaluateAll_lockstep (items : List Expr) (hfits : L.FitsAll items) :
    Lockstep L L.Stops
      (fun values values' => values.length = items.length ∧ List.Forall₂ L.Values values values')
      (evaluateAll context items room) (evaluateAll context items room) := by
  induction items with
  | nil => exact .pure ⟨rfl, .nil⟩
  | cons first rest ih =>
    rw [evaluateAll]
    exact .bind (heval first hfits.1) fun _ _ hvalue => .bind (ih hfits.2)
      fun _ _ hrest => .pure ⟨congrArg Nat.succ hrest.1, .cons hvalue hrest.2⟩

include hL

theorem evaluateEntry_lockstep (entry : Entry) (hfits : L.FitsEntry entry)
    {fields others : Entries Value} (h : Run.Gathered L fields others) :
    Lockstep L L.Stops (Run.Gathered L) (evaluateEntry context entry fields room)
      (evaluateEntry context entry others room) := by
  cases entry with
  | pair key expr =>
    rw [evaluateEntry, evaluateEntry]
    exact .bind (heval expr hfits.2) fun _ _ hvalue =>
      .pure ⟨hL.keyed.set h.1 hfits.1 _, h.2.set key hvalue⟩
  | spread expr =>
    rw [evaluateEntry, evaluateEntry]
    exact .bind (heval expr hfits) fun _ _ hvalue => Run.spreadInto_lockstep hL h hvalue

theorem evaluateEntries_lockstep (entries : List Entry) (hfits : L.FitsEntries entries)
    {fields others : Entries Value} (h : Run.Gathered L fields others) :
    Lockstep L L.Stops (Run.Gathered L) (evaluateEntries context entries fields room)
      (evaluateEntries context entries others room) := by
  induction entries generalizing fields others with
  | nil =>
    rw [evaluateEntries, evaluateEntries]
    exact .pure h
  | cons entry rest ih =>
    rw [evaluateEntries, evaluateEntries]
    exact .bind (evaluateEntry_lockstep hL heval entry hfits.1 h) fun _ _ hnext =>
      ih hfits.2 hnext

theorem readPlace_lockstep (place : Place) (hfits : L.FitsPlace place) :
    Lockstep L L.Stops L.Values (readPlace context place room) (readPlace context place room) := by
  cases place with
  | name name => exact Run.readName_lockstep hL name
  | member object name optional =>
    rw [readPlace]
    refine .bind (heval object hfits.1) fun value value' hvalue => ?_
    rw [Run.isNull_eq hvalue]
    split
    · exact .pure .null
    · exact Run.readMember_lockstep hL hvalue name
  | index object index optional =>
    rw [readPlace]
    refine .bind (heval object hfits.1) fun value value' hvalue => ?_
    have hread := Lockstep.bind (heval index hfits.2) fun key key' hkey =>
      Run.readIndex_lockstep hL hvalue hkey
    dsimp only
    rw [Run.isNull_eq hvalue]
    split
    · split
      · exact .pure .null
      · exact .bind (R := fun _ _ => True) (Run.fault_lockstep hL _ _) fun _ _ _ => hread
    · exact hread

theorem writePlace_lockstep (place : Place) (hfits : L.FitsPlace place) {a b : Value}
    (hvalue : L.Values a b) :
    Lockstep L L.Stops (fun _ _ => True) (writePlace context place a room)
      (writePlace context place b room) := by
  cases place with
  | name name => exact Run.writeName_lockstep hL name hvalue
  | member object name optional =>
    rw [writePlace, writePlace]
    exact .bind (heval object hfits.1) fun _ _ htarget =>
      Run.writePart_lockstep hL htarget (.str hfits.2) hvalue
  | index object index optional =>
    rw [writePlace, writePlace]
    exact .bind (heval object hfits.1) fun _ _ htarget => .bind (heval index hfits.2)
      fun _ _ hkey => Run.writePart_lockstep hL htarget hkey hvalue

theorem evaluateCall_lockstep (hready : L.Ready context) (callee : Expr) (args : List Expr)
    (hfits : L.FitsExpr (.call callee args)) :
    Lockstep L L.Stops L.Values (evaluate context (.call callee args) (room + 1))
      (evaluate context (.call callee args) (room + 1)) := by
  rw [evaluate]
  refine .bind (Run.tick_lockstep hL context) fun _ _ _ =>
    .bind (heval callee hfits.1) fun fn fn' hfn => ?_
  have hcall {native native' : Native} (h : L.Values (.native native) (.native native')) :=
    Lockstep.bind (evaluateAll_lockstep heval args hfits.2) fun values values' hvalues =>
      Run.ofNative_lockstep hL native native'
        (callNative_lockstep hL hready.admitted (fun _ => hready.lengthening) h hvalues.2)
  cases hfn with
  | builtin fn => exact hcall (.builtin fn)
  | listMethod method receiver stamp => exact hcall (.listMethod method receiver stamp)
  | textMethod method h stamp => exact hcall (.textMethod method h stamp)
  | toFixed h stamp => exact hcall (.toFixed h stamp)
  | given name stamp => exact hcall (.given name stamp)
  | _ => exact Run.fault_lockstep hL _ _

theorem evaluateLogical_lockstep (left : Expr) (op : LogicalOp) (right : Expr)
    (hfits : L.FitsExpr (.logical left op right)) :
    Lockstep L L.Stops L.Values (evaluate context (.logical left op right) (room + 1))
      (evaluate context (.logical left op right) (room + 1)) := by
  rw [evaluate]
  refine .bind (heval left hfits.1) fun a b hvalue => ?_
  have hright := heval right hfits.2
  cases op with
  | and | or =>
    refine .bind (Run.ofExcept_lockstep (hvalue.truthy hL)) ?_
    rintro holds _ rfl
    split
    all_goals first | exact hright | exact .pure hvalue
  | orElse =>
    dsimp only
    rw [Run.isNull_eq hvalue]
    split
    · exact hright
    · exact .pure hvalue

theorem evaluateAssign_lockstep (target : Place) (op : Option BinaryOp) (value : Expr)
    (hfits : L.FitsExpr (.assign target op value)) :
    Lockstep L L.Stops L.Values (evaluate context (.assign target op value) (room + 1))
      (evaluate context (.assign target op value) (room + 1)) := by
  simp only [evaluate]
  have hwrite (a b : Value) (hassigned : L.Values a b) : Lockstep L L.Stops L.Values
      (do writePlace context target a room; return a)
      (do writePlace context target b room; return b) :=
    .bind (writePlace_lockstep hL heval target hfits.1 hassigned) fun _ _ _ => .pure hassigned
  cases op with
  | none => exact .bind (heval value hfits.2) hwrite
  | some op =>
    exact .bind (readPlace_lockstep hL heval target hfits.1) fun _ _ hold =>
      .bind (heval value hfits.2) fun _ _ hextra => .bind .get fun _ _ hm =>
        .bind (Run.ofExcept_lockstep (Likeness.applyBinary_agree hL hm.heap op hold hextra))
          hwrite

end Parts

/-- An expression that fits goes in lockstep with itself. -/
theorem evaluate_lockstep (hready : L.Ready context) (expr : Expr) (hfits : L.FitsExpr expr)
    (room : Nat) :
    Lockstep L L.Stops L.Values (evaluate context expr room) (evaluate context expr room) := by
  have hL := hready.lawful
  induction room generalizing expr with
  | zero =>
    rw [evaluate]
    exact Run.fail_lockstep ⟨hL.tooDeep, hL.tooDeep⟩
  | succ room ih =>
    -- the induction is on the room, as every part of an expression is evaluated with less of it
    have heval (expr : Expr) (hfits : L.FitsExpr expr) := ih expr hfits
    cases expr with
    | literal value =>
      rw [evaluate]
      refine .pure ?_
      cases value with
      | null => exact .null
      | bool value => exact .bool value
      | num value => exact .num (hL.double value)
      | str value => exact .str hfits
    | read place => exact readPlace_lockstep hL heval place hfits
    | call callee args => exact evaluateCall_lockstep hL heval hready callee args hfits
    | unary op operand =>
      rw [evaluate]
      exact .bind (heval operand hfits) fun _ _ hvalue =>
        Run.ofExcept_lockstep (Likeness.applyUnary_agree hL op hvalue)
    | binary left op right =>
      rw [evaluate]
      exact .bind (heval left hfits.1) fun _ _ ha => .bind (heval right hfits.2) fun _ _ hc =>
        .bind .get fun _ _ hm =>
          Run.ofExcept_lockstep (Likeness.applyBinary_agree hL hm.heap op ha hc)
    | logical left op right => exact evaluateLogical_lockstep hL heval left op right hfits
    | conditional test yes no =>
      rw [evaluate]
      refine .bind (heval test hfits.1) fun a b hvalue =>
        .bind (Run.ofExcept_lockstep (hvalue.truthy hL)) ?_
      rintro holds _ rfl
      split
      · exact heval yes hfits.2.1
      · exact heval no hfits.2.2
    | object entries =>
      rw [evaluate]
      exact .bind (evaluateEntries_lockstep hL heval entries hfits ⟨hL.nil, .nil⟩)
        fun _ _ hfields => Run.newRecord_lockstep hfields
    | array items =>
      rw [evaluate]
      exact .bind (evaluateAll_lockstep heval items hfits.2) fun _ _ hvalues =>
        Run.newList_lockstep (hvalues.1 ▸ hfits.1) hvalues.2
    | assign target op value => exact evaluateAssign_lockstep hL heval target op value hfits
    | update target op before =>
      simp only [evaluate]
      refine .bind (readPlace_lockstep hL heval target hfits) fun _ _ hvalue =>
        .bind (Run.ofExcept_lockstep (hvalue.numericOperand hL _)) ?_
      rintro old _ rfl
      exact .bind (writePlace_lockstep hL heval target hfits (.num (hL.double _))) fun _ _ _ =>
        .pure (.num (hL.double _))

theorem valueOf_lockstep (h : L.Ready context) (expr : Expr) (hfits : L.FitsExpr expr) :
    Lockstep L L.Stops L.Values (valueOf context expr) (valueOf context expr) :=
  evaluate_lockstep h expr hfits evaluationRoom

theorem valueOf?_lockstep (h : L.Ready context) (expr : Option Expr) (hfits : L.FitsExpr? expr) :
    Lockstep L L.Stops L.Values (valueOf? context expr) (valueOf? context expr) := by
  cases expr with
  | none => exact .pure .null
  | some expr => exact valueOf_lockstep h expr hfits

theorem holds_lockstep (h : L.Ready context) (test : Option Expr) (hfits : L.FitsExpr? test) :
    Lockstep L L.Stops Eq (holds context test) (holds context test) := by
  cases test with
  | none => exact .pure rfl
  | some expr =>
    exact .bind (valueOf_lockstep h expr hfits) fun _ _ hvalue =>
      Run.ofExcept_lockstep (hvalue.truthy h.lawful)

end Expressions

/-! ## Statements -/

section Statements

variable {L : Likeness} {context : Context}

theorem advance_lockstep (h : L.Ready context) (next : Option Expr) (hfits : L.FitsExpr? next) :
    Lockstep L L.Stops (fun _ _ => True) (advance context next) (advance context next) :=
  .bind (valueOf?_lockstep h next hfits) fun _ _ _ => Run.tick_lockstep h.lawful context

mutual

/-- A statement that fits goes in lockstep with itself. -/
theorem execute_lockstep (h : L.Ready context) (stmt : Stmt) (hfits : L.FitsStmt stmt) :
    Lockstep L L.Stops (fun _ _ => True) (execute context stmt) (execute context stmt) := by
  have htick := Run.tick_lockstep h.lawful context
  cases stmt with
  | declare declarator name value =>
    rw [execute]
    exact .bind htick fun _ _ _ => .bind (valueOf?_lockstep h value hfits)
      fun _ _ hvalue => Run.declare_lockstep h.lawful declarator name hvalue
  | expr value =>
    rw [execute]
    exact .bind htick fun _ _ _ => .bind (valueOf_lockstep h value hfits) fun _ _ _ =>
      .pure trivial
  | block body =>
    rw [execute]
    exact .bind htick fun _ _ _ => Run.inNewScope_lockstep (executeAll_lockstep h body hfits)
  | cond test yes no =>
    rw [execute_cond]
    refine .bind htick fun _ _ _ => .bind (holds_lockstep h (some test) hfits.1) ?_
    rintro holds _ rfl
    cases holds with
    | true => exact execute_lockstep h yes hfits.2.1
    | false => exact executeOption_lockstep h no hfits.2.2
  | loop test body =>
    rw [execute_loop]
    exact .bind htick fun _ _ _ => Run.repeatWhile_lockstep
      (holds_lockstep h (some test) hfits.1)
      (.bind (execute_lockstep h body hfits.2) fun _ _ _ => advance_lockstep h none trivial) _
  | iterate start test next body =>
    obtain ⟨hstart, htest, hnext, hbody⟩ := hfits
    rw [execute_iterate]
    exact .bind htick fun _ _ _ => Run.inNewScope_lockstep (.bind
      (executeOption_lockstep h start hstart) fun _ _ _ => Run.repeatWhile_lockstep
        (holds_lockstep h test htest)
        (.bind (execute_lockstep h body hbody) fun _ _ _ => advance_lockstep h next hnext) _)
  | ret value =>
    rw [execute]
    exact .bind htick fun _ _ _ => .bind (valueOf?_lockstep h value hfits)
      fun _ _ hvalue => .throw (.returned hvalue)
  | empty =>
    rw [execute]
    exact htick

theorem executeOption_lockstep (h : L.Ready context) (stmt : Option Stmt)
    (hfits : L.FitsStmt? stmt) :
    Lockstep L L.Stops (fun _ _ => True) (executeAll context stmt.toList)
      (executeAll context stmt.toList) := by
  cases stmt with
  | none => exact .pure trivial
  | some stmt =>
    rw [Option.toList, executeAll]
    exact .bind (execute_lockstep h stmt hfits) fun _ _ _ => .pure trivial

theorem executeAll_lockstep (h : L.Ready context) (body : List Stmt) (hfits : L.FitsStmts body) :
    Lockstep L L.Stops (fun _ _ => True) (executeAll context body) (executeAll context body) := by
  cases body with
  | nil => exact .pure trivial
  | cons first rest =>
    rw [executeAll]
    exact .bind (execute_lockstep h first hfits.1) fun _ _ _ =>
      executeAll_lockstep h rest hfits.2

end

/-- Two runs of a body that fits, from like states: they give like values or both fail, and the
states at their ends are alike. -/
theorem run_alike (h : L.Ready context) {body : List Stmt} (hfits : L.FitsStmts body)
    {machine other : Machine} (hm : L.Machines machine other) :
    Agree (fun failure failure' => ∃ cause cause', L.Fails cause cause' ∧
        failure = cause.outOfRun ∧ failure' = cause'.outOfRun)
      L.Values (run context body machine).1 (run context body other).1 ∧
      L.Machines (run context body machine).2 (run context body other).2 := by
  obtain ⟨hagree, hnext⟩ :=
    Run.inNewScope_lockstep (executeAll_lockstep h body hfits) machine other hm
  rw [run_eq, run_eq]
  refine ⟨?_, hnext⟩
  -- a run gives what it returned, or null at its end, and its failures leave as they are
  change Agree _ _ (outcome (runBody context body machine).1)
    (outcome (runBody context body other).1)
  change Agree _ _ (runBody context body machine).1 (runBody context body other).1 at hagree
  generalize (runBody context body machine).1 = ending,
    (runBody context body other).1 = ending' at hagree ⊢
  cases hagree with
  | ok => exact .ok .null
  | error h => cases h with
    | returned hvalue => exact .ok hvalue
    | failed h => exact .error ⟨_, _, h, rfl, rfl⟩

end Statements

end Canvasflow.Program
