import Canvasflow.Proofs.Program.Constants
import Canvasflow.Proofs.Program.RoundTrip

/-!
# Names that are declared together

Several names behind one declaring word are read as the block of their single declarations, so the
names live in a scope of their own that ends with the declaration. While it runs, this scope and the
one around it stand beside the one scope in which the single declarations put the names
(`splitNames`); behind it, the scope without the names stands beside that scope (`hideNames`).
`execute_joined` says from this what the declaration does: all that the single declarations do,
except that the names are gone. What follows runs as it runs behind the single declarations if it
has none of the names in it, and in a loop none of the names can be seen.
-/

namespace Canvasflow.Program

/-! ## Frames of some of the names -/

/-- The part of a frame whose names are kept. -/
def Frame.keep (frame : Frame) (keep : String → Bool) : Frame :=
  ⟨frame.values.filter fun entry => keep entry.1, frame.constants.filter keep⟩

namespace Frame

variable {frame : Frame} {keep : String → Bool} {name : String}

theorem find?_keep (name : String) : Entries.find? name (frame.keep keep).values =
    if keep name then Entries.find? name frame.values else none :=
  Entries.find?_filter keep name frame.values

theorem has_keep (name : String) : Entries.has name (frame.keep keep).values =
    (keep name && Entries.has name frame.values) :=
  Entries.has_filter keep name frame.values

theorem contains_keep (name : String) : (frame.keep keep).constants.contains name =
    (keep name && frame.constants.contains name) := by
  cases hkeep : keep name <;> simp [Frame.keep, List.contains_eq_mem, hkeep]

/-- A write to a name that is kept is a write to the part. -/
theorem write_keep (hname : keep name = true) (value : Value) :
    (frame.keep keep).write name value = (frame.write name value).map (·.keep keep) := by
  unfold write
  rw [contains_keep, hname, Bool.true_and]
  split
  · rfl
  · simp [Frame.keep, Entries.set_filter, hname, Except.map]

/-- A write to another name leaves the part as it is. -/
theorem keep_of_write (hname : keep name = false) {value : Value} {next : Frame}
    (h : frame.write name value = .ok next) : next.keep keep = frame.keep keep := by
  unfold write at h
  split at h
  · cases h
  · cases h
    simp [Frame.keep, Entries.set_filter, hname]

/-- A name that is kept is declared in the part. -/
theorem declare_keep (hname : keep name = true) (declarator : Declarator) (value : Value) :
    (frame.keep keep).declare declarator name value =
      (frame.declare declarator name value).map (·.keep keep) := by
  unfold declare
  rw [has_keep, contains_keep, hname, Bool.true_and, Bool.true_and]
  split
  · rfl
  · cases declarator <;> simp [Frame.keep, Entries.set_filter, hname, Except.map]

/-- The declaration of another name leaves the part as it is. -/
theorem keep_of_declare (hname : keep name = false) {declarator : Declarator} {value : Value}
    {next : Frame} (h : frame.declare declarator name value = .ok next) :
    next.keep keep = frame.keep keep := by
  unfold declare at h
  split at h
  · cases h
  · cases h
    cases declarator <;> simp [Frame.keep, Entries.set_filter, hname]

end Frame

/-- Whether a name is none of the given ones. -/
def apartFrom (names : List String) (name : String) : Bool :=
  !names.contains name

/-- The innermost scope without some names. -/
def hideNames (names : List String) : List Frame → List Frame
  | [] => []
  | frame :: outer => frame.keep (apartFrom names) :: outer

/-- Some names of the innermost scope in a scope of their own. -/
def splitNames (names : List String) : List Frame → List Frame
  | [] => []
  | frame :: outer => frame.keep names.contains :: hideNames names (frame :: outer)

section Views

variable {names : List String} {name : String}

theorem apartFrom_of_contains (h : names.contains name = true) : apartFrom names name = false := by
  rw [apartFrom, h]
  rfl

theorem apartFrom_of_not_contains (h : names.contains name = false) :
    apartFrom names name = true := by
  rw [apartFrom, h]
  rfl

/-! Where some names are hidden, the other names mean the same. -/

theorem lookup?_hideNames (h : apartFrom names name = true) (scopes : List Frame) :
    Run.lookup? name (hideNames names scopes) = Run.lookup? name scopes := by
  cases scopes with
  | nil => rfl
  | cons frame outer => simp only [hideNames, Run.lookup?, Frame.find?_keep, h, if_true]

theorem assignIn_hideNames (h : apartFrom names name = true) (value : Value)
    (scopes : List Frame) : Run.assignIn name value (hideNames names scopes) =
      (Run.assignIn name value scopes).map (hideNames names) := by
  cases scopes with
  | nil => rfl
  | cons frame outer =>
    rw [hideNames, Run.assignIn_cons, Run.assignIn_cons, Frame.has_keep, h, Bool.true_and,
      Frame.write_keep h]
    split
    · cases frame.write name value <;> rfl
    · cases Run.assignIn name value outer <;> rfl

theorem declareIn_hideNames (h : apartFrom names name = true) (declarator : Declarator)
    (value : Value) (scopes : List Frame) :
    Run.declareIn declarator name value (hideNames names scopes) =
      (Run.declareIn declarator name value scopes).map (hideNames names) := by
  cases scopes with
  | nil => rfl
  | cons frame outer =>
    rw [hideNames, Run.declareIn, Run.declareIn, Frame.declare_keep h]
    cases frame.declare declarator name value <;> rfl

/-! Where some names have a scope of their own, every name means the same. -/

theorem lookup?_splitNames (name : String) (scopes : List Frame) :
    Run.lookup? name (splitNames names scopes) = Run.lookup? name scopes := by
  cases scopes with
  | nil => rfl
  | cons frame outer =>
    simp only [splitNames, hideNames, Run.lookup?, Frame.find?_keep, apartFrom]
    by_cases hname : name ∈ names <;> cases Entries.find? name frame.values <;> simp [hname]

theorem assignIn_splitNames (name : String) (value : Value) (scopes : List Frame) :
    Run.assignIn name value (splitNames names scopes) =
      (Run.assignIn name value scopes).map (splitNames names) := by
  cases scopes with
  | nil => rfl
  | cons frame outer =>
    rw [splitNames, hideNames, Run.assignIn_cons, Run.assignIn_cons, Run.assignIn_cons,
      Frame.has_keep, Frame.has_keep]
    cases hhas : Entries.has name frame.values with
    | false =>
      simp only [Bool.and_false, Bool.false_eq_true, if_false]
      cases Run.assignIn name value outer <;> rfl
    | true =>
      simp only [Bool.and_true, if_true]
      -- the name stands in one of the two frames, and a write to it leaves the other one alone
      cases hname : names.contains name with
      | true =>
        rw [if_pos rfl, Frame.write_keep hname]
        cases hwrite : frame.write name value with
        | error => rfl
        | ok next =>
          have hother := Frame.keep_of_write (apartFrom_of_contains hname) hwrite
          exact congrArg (fun other => Except.ok (next.keep names.contains :: other :: outer))
            hother.symm
      | false =>
        have hapart := apartFrom_of_not_contains hname
        rw [hapart, if_neg Bool.false_ne_true, if_pos rfl, Frame.write_keep hapart]
        cases hwrite : frame.write name value with
        | error => rfl
        | ok next =>
          have hother := Frame.keep_of_write hname hwrite
          exact congrArg (fun other => Except.ok (other :: next.keep (apartFrom names) :: outer))
            hother.symm

theorem declareIn_splitNames (h : names.contains name = true) (declarator : Declarator)
    (value : Value) (scopes : List Frame) :
    Run.declareIn declarator name value (splitNames names scopes) =
      (Run.declareIn declarator name value scopes).map (splitNames names) := by
  cases scopes with
  | nil => rfl
  | cons frame outer =>
    rw [splitNames, hideNames, Run.declareIn, Run.declareIn, Frame.declare_keep h]
    cases hdeclare : frame.declare declarator name value with
    | error => rfl
    | ok next =>
      have hother := Frame.keep_of_declare (apartFrom_of_contains h) hdeclare
      exact congrArg (fun other => Except.ok (next.keep names.contains :: other :: outer))
        hother.symm

end Views

/-! ## Runs one step behind -/

/-- The first run is one step behind, and its scopes are those of the second up to a change. -/
def Pairing.late (change : List Frame → List Frame) : Pairing where
  steps m n := m = n + 1
  scopes scopes others := scopes = change others

section Late

variable {change : List Frame → List Frame} {names : List String}

theorem late_paced : (Pairing.late change).Paced where
  behind h := by simp only [Pairing.late] at h; omega
  next h := congrArg (· + 1) h

theorem agree_map (result : Except Failure (List Frame)) :
    Agree Eq (Pairing.late change).scopes (result.map change) result := by
  cases result with
  | ok scopes => exact .ok rfl
  | error => exact .error rfl

/-- Behind a declaration of several names, a program without these names goes on abreast. -/
theorem hide_serves : (Pairing.late (hideNames names)).Serves (apartFrom names · = true) :=
  { late_paced with
    lookup := by
      rintro _ others name rfl hname
      exact lookup?_hideNames hname others
    assign := by
      rintro _ others name value rfl hname
      rw [assignIn_hideNames hname]
      exact agree_map _
    declare := by
      rintro _ others name declarator value rfl hname
      rw [declareIn_hideNames hname]
      exact agree_map _ }

theorem split_reads : (Pairing.late (splitNames names)).Reads fun _ => True where
  lookup := by
    rintro _ others name rfl -
    exact lookup?_splitNames name others
  assign := by
    rintro _ others name value rfl -
    rw [assignIn_splitNames]
    exact agree_map _

/-- A name of the scope of its own may be declared there. -/
theorem split_declares : (Pairing.late (splitNames names)).Declares (names.contains · = true) where
  declare := by
    rintro _ others name declarator value rfl hname
    rw [declareIn_splitNames hname]
    exact agree_map _

end Late

/-! ## Declarations of several names -/

open Reader

variable {context : Context}

/-- The single declarations of some names. -/
def singles (declarator : Declarator) (decls : List (String × Option Expr)) : List Stmt :=
  decls.map fun decl => .declare declarator decl.1 decl.2

theorem joined_eq_block {decls : List (String × Option Expr)} (hseveral : 2 ≤ decls.length)
    (declarator : Declarator) : joined declarator decls = .block (singles declarator decls) := by
  match decls, hseveral with
  | _ :: _ :: _, _ => rfl

/-- Single declarations go abreast with themselves where every name means the same and the names may
be declared. -/
theorem singles_abreast {P : Pairing} {declarable : String → Prop} (hpace : P.Paced)
    (hreads : P.Reads fun _ => True) (hdeclares : P.Declares declarable) (declarator : Declarator)
    {decls : List (String × Option Expr)} (h : ∀ decl ∈ decls, declarable decl.1) :
    Abreast context P (executeAll context (singles declarator decls))
      (executeAll context (singles declarator decls)) := by
  induction decls with
  | nil => exact .pure ()
  | cons decl decls ih =>
    obtain ⟨hdecl, hdecls⟩ := List.forall_mem_cons.mp h
    simp only [singles, List.map_cons, executeAll]
    exact .bind (declare_abreast hpace hreads hdeclares declarator hdecl fun _ _ => trivial)
      fun _ => ih hdecls

section Fresh

variable {names : List String} {frame : Frame}
  (hfresh : ∀ name ∈ names, name ∉ Entries.keys frame.values ∧ name ∉ frame.constants)

include hfresh

/-- Of names that a frame does not have it keeps none, and it keeps all others. -/
theorem keep_of_fresh :
    frame.keep names.contains = ⟨[], []⟩ ∧ frame.keep (apartFrom names) = frame := by
  have hvalues : ∀ entry ∈ frame.values, entry.1 ∉ names := fun entry hentry hname =>
    (hfresh _ hname).1 (List.mem_map_of_mem hentry)
  have hconstants : ∀ name ∈ frame.constants, name ∉ names := fun name hname hmem =>
    (hfresh name hmem).2 hname
  constructor
  · rw [Frame.keep, List.filter_eq_nil_iff.mpr (by simpa using hvalues),
      List.filter_eq_nil_iff.mpr (by simpa using hconstants)]
  · rw [Frame.keep, List.filter_eq_self.mpr (by simpa [apartFrom] using hvalues),
      List.filter_eq_self.mpr (by simpa [apartFrom] using hconstants)]

theorem hideNames_of_fresh (outer : List Frame) :
    hideNames names (frame :: outer) = frame :: outer := by
  rw [hideNames, (keep_of_fresh hfresh).2]

theorem splitNames_of_fresh (outer : List Frame) :
    splitNames names (frame :: outer) = ⟨[], []⟩ :: frame :: outer := by
  rw [splitNames, hideNames_of_fresh hfresh, (keep_of_fresh hfresh).1]

end Fresh

/-- A declaration of several names goes along with its single declarations, a step behind, and hides
the names at its end. -/
theorem joined_together {declarator : Declarator} {decls : List (String × Option Expr)}
    (hseveral : 2 ≤ decls.length) {machine : Machine} {frame : Frame} {outer : List Frame}
    (hscopes : machine.scopes = frame :: outer)
    (hfresh : ∀ decl ∈ decls, decl.1 ∉ Entries.keys frame.values ∧ decl.1 ∉ frame.constants) :
    Together context (.late (hideNames (decls.map Prod.fst)))
      ((execute context (joined declarator decls)).run machine)
      ((executeAll context (singles declarator decls)).run machine) := by
  set names := decls.map Prod.fst
  have hdeclared : ∀ decl ∈ decls, names.contains decl.1 = true := fun decl hdecl =>
    List.contains_iff_mem.mpr (List.mem_map_of_mem hdecl)
  have hapart : ∀ name ∈ names, name ∉ Entries.keys frame.values ∧ name ∉ frame.constants :=
    List.forall_mem_map.mpr hfresh
  rw [joined_eq_block hseveral, execute, Stateful.run_bind, Run.run_tick]
  by_cases hover : context.budget < machine.steps + 1
  · rw [if_pos hover]
    refine .cut rfl hover ⟨machine, rfl, ?_, rfl⟩
    change machine.scopes = hideNames names machine.scopes
    rw [hscopes, hideNames_of_fresh hapart]
  · rw [if_neg hover]
    dsimp only
    rw [Run.run_inNewScope]
    have hstart : (Pairing.late (splitNames names)).Machines
        { machine with steps := machine.steps + 1 }.enter machine := by
      refine ⟨rfl, ?_, rfl⟩
      change ⟨[], []⟩ :: machine.scopes = splitNames names machine.scopes
      rw [hscopes, splitNames_of_fresh hapart]
    refine (singles_abreast late_paced split_reads split_declares declarator hdeclared
      _ _ hstart).map Machine.leave id Machine.leave_steps fun first second hstates => ?_
    refine ⟨hstates.steps, ?_, congrArg Machine.leave hstates.same⟩
    change first.scopes.tail = hideNames names second.scopes
    rw [show first.scopes = splitNames names second.scopes from hstates.scopes]
    cases second.scopes <;> rfl

/-! ## Blocks keep the names of their surroundings -/

/-- What can be seen depends on nothing but the names that are declared. -/
theorem isSome_lookup?_of_declared {scopes others : List Frame}
    (h : scopes.map Frame.declared = others.map Frame.declared) (name : String) :
    (Run.lookup? name scopes).isSome = (Run.lookup? name others).isSome := by
  induction scopes generalizing others with
  | nil =>
    obtain rfl := List.map_eq_nil_iff.mp h.symm
    rfl
  | cons frame outer ih =>
    obtain ⟨other, rest, rfl, hframe, houter⟩ := List.map_eq_cons_iff.mp h.symm
    have hhas : Entries.has name frame.values = Entries.has name other.values := by
      rw [Bool.eq_iff_iff, Entries.has_iff_mem_keys, Entries.has_iff_mem_keys,
        ← show Entries.keys other.values = Entries.keys frame.values from congrArg Prod.fst hframe]
    have hrest := ih houter.symm
    simp only [Entries.has] at hhas
    simp only [Run.lookup?]
    cases hfound : Entries.find? name frame.values <;>
      cases hother : Entries.find? name other.values <;> simp_all

/-- After a block the same names are declared as before. -/
theorem declared_of_block {body : List Stmt} {machine next : Machine}
    (h : (execute context (.block body)).run machine = (.ok (), next)) :
    next.scopes.map Frame.declared = machine.scopes.map Frame.declared := by
  have hsealed : List.Forall₂ Frame.Sealed machine.scopes
      (scopesAfter context (.block body) machine) := scopesAfter_block body machine
  rw [scopesAfter, h] at hsealed
  exact declared_of_sealed hsealed

/-! ## What a declaration of several names does -/

section Joined

variable {declarator : Declarator} {decls : List (String × Option Expr)}

/-- Several names behind one declaring word are read alike as a statement and at the start of a
loop. -/
theorem reads_joined {spelling : Spelling} {room : Nat} (hne : decls ≠ [])
    (hprintable : ∀ decl ∈ decls, DeclarationPrintable declarator decl.2)
    (hroom : declaredNesting decls ≤ room) (rest : List Token) :
    let tokens := word declarator.keyword :: (declaredTokens spelling decls ++ symbol ";" :: rest)
    (statement (room + 1)).run tokens = .ok (joined declarator decls, rest) ∧
      (loopStart (expression room)).run tokens =
        .ok (some (joined declarator decls), symbol ";" :: rest) := by
  have hdeclaration : (declaration (expression room) declarator).run
      (declaredTokens spelling decls ++ symbol ";" :: rest) = _ :=
    run_declaration hne hprintable hroom rest
  exact ⟨(run_statement_declare declarator).trans ((run_bind_ok hdeclaration).trans rfl),
    (run_loopStart_declare declarator).trans ((run_bind_ok hdeclaration).trans rfl)⟩

/-- With a program behind it that has none of the names in it, the declaration still goes along with
its single declarations. -/
theorem executeAll_joined_together (hseveral : 2 ≤ decls.length) {rest : List Stmt}
    (hrest : ∀ decl ∈ decls, decl.1 ∉ Stmt.listNames rest) {machine : Machine} {frame : Frame}
    {outer : List Frame} (hscopes : machine.scopes = frame :: outer)
    (hfresh : ∀ decl ∈ decls, decl.1 ∉ Entries.keys frame.values ∧ decl.1 ∉ frame.constants) :
    Together context (.late (hideNames (decls.map Prod.fst)))
      ((executeAll context (joined declarator decls :: rest)).run machine)
      ((executeAll context (singles declarator decls ++ rest)).run machine) := by
  have hapart : ∀ name ∈ Stmt.listNames rest, apartFrom (decls.map Prod.fst) name = true := by
    intro name hname
    have habsent : name ∉ decls.map Prod.fst := by
      intro hmem
      obtain ⟨decl, hdecl, rfl⟩ := List.mem_map.mp hmem
      exact hrest decl hdecl hname
    simpa [apartFrom] using habsent
  rw [executeAll, executeAll_append]
  exact (joined_together hseveral hscopes hfresh).bind fun _ =>
    executeAll_abreast rest hide_serves hapart

/-- What can be seen behind the declaration is what could be seen before it. -/
theorem isSome_lookup?_of_joined (hseveral : 2 ≤ decls.length) {machine next : Machine}
    (h : (execute context (joined declarator decls)).run machine = (.ok (), next)) (name : String) :
    (Run.lookup? name next.scopes).isSome = (Run.lookup? name machine.scopes).isSome := by
  rw [joined_eq_block hseveral] at h
  exact isSome_lookup?_of_declared (declared_of_block h) name

/-- A loop whose start ends goes on from there. -/
theorem execute_iterate_of_start {start : Stmt} {machine entered first : Machine}
    (htick : (Run.tick context).run machine = (.ok (), entered))
    (hstart : (execute context start).run entered.enter = (.ok (), first))
    (test next : Option Expr) (body : Stmt) :
    (execute context (.iterate (some start) test next body)).run machine =
      let ending := (Run.repeatWhile (holds context test)
        (do execute context body; advance context next) (context.budget + 1)).run first
      (ending.1, ending.2.leave) := by
  have hbegin : (executeAll context (some start).toList).run entered.enter = (.ok (), first) := by
    rw [Option.toList, executeAll, Stateful.run_bind_ok hstart]
    rfl
  rw [execute_iterate, Stateful.run_bind_ok htick, Run.run_inNewScope, Stateful.run_bind_ok hbegin]

/-- Several names behind one declaring word are read as a block. Followed by a program that has none
of the names in it, where no such name is declared before, the block gives what the single
declarations give with that program behind them, and it leaves what they leave, but for the names;
it takes one step more, which may be beyond the budget. In a loop that starts with such a block, the
names that can be seen are those that could be seen before. -/
theorem execute_joined (hseveral : 2 ≤ decls.length) :
    (∀ spelling room rest, (∀ decl ∈ decls, DeclarationPrintable declarator decl.2) →
      declaredNesting decls ≤ room →
      let tokens := word declarator.keyword :: (declaredTokens spelling decls ++ symbol ";" :: rest)
      (statement (room + 1)).run tokens = .ok (joined declarator decls, rest) ∧
      (loopStart (expression room)).run tokens =
        .ok (some (joined declarator decls), symbol ";" :: rest)) ∧
    (∀ rest machine frame outer, (∀ decl ∈ decls, decl.1 ∉ Stmt.listNames rest) →
      machine.scopes = frame :: outer →
      (∀ decl ∈ decls, decl.1 ∉ Entries.keys frame.values ∧ decl.1 ∉ frame.constants) →
      let joint := (executeAll context (joined declarator decls :: rest)).run machine
      let single := (executeAll context (singles declarator decls ++ rest)).run machine
      (joint.1 = .error (.failed (.program (.stepBudget context.maxSteps))) ∧
        context.budget < joint.2.steps) ∨
      (joint.1 = single.1 ∧ joint.2 = single.2.reframe
        (hideNames (decls.map Prod.fst) single.2.scopes) (single.2.steps + 1))) ∧
    ∀ test next body machine entered first,
      (Run.tick context).run machine = (.ok (), entered) →
      (execute context (joined declarator decls)).run entered.enter = (.ok (), first) →
      (∀ name, (Run.lookup? name first.scopes).isSome =
        (Run.lookup? name machine.scopes).isSome) ∧
      (execute context (.iterate (some (joined declarator decls)) test next body)).run machine =
        let ending := (Run.repeatWhile (holds context test)
          (do execute context body; advance context next) (context.budget + 1)).run first
        (ending.1, ending.2.leave) := by
  refine ⟨fun spelling room rest hprintable hroom => ?_,
    fun rest machine frame outer hrest hscopes hfresh => ?_,
    fun test next body machine entered first htick hstart => ⟨fun name => ?_, ?_⟩⟩
  · exact reads_joined (List.ne_nil_of_length_pos (by omega)) hprintable hroom rest
  · cases executeAll_joined_together hseveral hrest hscopes hfresh with
    | cut hstop hover => exact .inl ⟨hstop, hover⟩
    | same houtcome hstates =>
      refine .inr ⟨houtcome, ?_⟩
      rw [← hstates.same]
      congr 1
      · exact hstates.scopes
      · exact hstates.steps
  · refine (isSome_lookup?_of_joined hseveral hstart name).trans ?_
    -- the step leaves the scopes as they are, and the scope of the loop is empty at its start
    rw [Run.run_tick] at htick
    obtain ⟨-, rfl⟩ := Prod.mk.inj htick
    rfl
  · exact execute_iterate_of_start htick hstart test next body

end Joined

/-- A text and its copy, each under a name. -/
def copiedText : List (String × Option Expr) :=
  [("a", some (.literal (.str "x"))), ("b", some (.read (.name "a")))]

/-- A return of another text. -/
def returnedText : List Stmt :=
  [.ret (some (.literal (.str "y")))]

theorem execute_joined_copiedText :
    let joint := (executeAll ⟨.none, 5⟩ (joined .letName copiedText :: returnedText)).run
      (.start .empty 0 [])
    let single := (executeAll ⟨.none, 5⟩ (singles .letName copiedText ++ returnedText)).run
      (.start .empty 0 [])
    2 ≤ copiedText.length ∧ joint.1 = .error (.returned (.str "y")) ∧ joint.1 = single.1 ∧
      joint.2 = single.2.reframe (hideNames ["a", "b"] single.2.scopes) (single.2.steps + 1) := by
  intro joint single
  have hseveral : 2 ≤ copiedText.length := by decide
  have hreturns : joint.1 = .error (.returned (.str "y")) := by rfl
  refine ⟨hseveral, hreturns, ?_⟩
  rcases (execute_joined hseveral).2.1 returnedText (.start .empty 0 []) ⟨[], []⟩ []
    (by decide) rfl (by decide) with ⟨hstop, -⟩ | hsame
  · cases hreturns.symm.trans hstop
  · exact hsame

/-- Behind the declaration the names are gone. -/
example : ((executeAll ⟨.none, 5⟩ [joined .letName copiedText, .ret (some (.read (.name "b")))]).run
    (.start .empty 0 [])).1 = .error (.failed (.program (.notDefined "b"))) := by rfl

end Canvasflow.Program
