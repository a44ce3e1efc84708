import Canvasflow.Proofs.Program.Budget
import Canvasflow.Proofs.Program.LikeNatives

/-!
# Acts in lockstep

Two acts go in lockstep when they take like states to like states and agree in what they give. The
relation is closed under sequences, and every native function goes in lockstep with itself on like
arguments, in surroundings whose answers may be given to both runs.
-/

namespace Canvasflow.Program

/-- Two acts that take like states to like states and agree in what they give. -/
def Lockstep {ε α β : Type} (L : Likeness) (E : ε → ε → Prop) (R : α → β → Prop)
    (first : ExceptT ε (StateM Machine) α) (second : ExceptT ε (StateM Machine) β) : Prop :=
  ∀ machine other, L.Machines machine other →
    Agree E R (first.run machine).1 (second.run other).1 ∧
      L.Machines (first.run machine).2 (second.run other).2

namespace Lockstep

variable {ε α β α' β' : Type} {L : Likeness} {E : ε → ε → Prop} {R : α → α' → Prop}
  {S : β → β' → Prop}

theorem pure {a : α} {b : α'} (h : R a b) :
    Lockstep L E R (pure a : ExceptT ε (StateM Machine) α) (Pure.pure b) :=
  fun _ _ hm => ⟨.ok h, hm⟩

theorem throw {fault other : ε} (h : E fault other) :
    Lockstep L E R (throw fault : ExceptT ε (StateM Machine) α) (MonadExcept.throw other) :=
  fun _ _ hm => ⟨.error h, hm⟩

theorem get : Lockstep L E L.Machines (get : ExceptT ε (StateM Machine) Machine) MonadState.get :=
  fun _ _ hm => ⟨.ok hm, hm⟩

theorem set {machine other : Machine} (h : L.Machines machine other) :
    Lockstep L E Eq (set machine : ExceptT ε (StateM Machine) PUnit) (MonadStateOf.set other) :=
  fun _ _ _ => ⟨.ok rfl, h⟩

theorem change {step step' : Machine → Machine}
    (h : ∀ machine other, L.Machines machine other → L.Machines (step machine) (step' other)) :
    Lockstep L E Eq (modify step : ExceptT ε (StateM Machine) PUnit) (modify step') :=
  fun machine other hm => ⟨.ok rfl, h machine other hm⟩

theorem bind {first : ExceptT ε (StateM Machine) α} {first' : ExceptT ε (StateM Machine) α'}
    {rest : α → ExceptT ε (StateM Machine) β} {rest' : α' → ExceptT ε (StateM Machine) β'}
    (hfirst : Lockstep L E R first first')
    (hrest : ∀ a b, R a b → Lockstep L E S (rest a) (rest' b)) :
    Lockstep L E S (first >>= rest) (first' >>= rest') := by
  intro machine other hm
  obtain ⟨hagree, hnext⟩ := hfirst machine other hm
  rw [Stateful.run_bind, Stateful.run_bind]
  generalize first.run machine = ending, first'.run other = ending' at hagree hnext ⊢
  obtain ⟨outcome, next⟩ := ending
  obtain ⟨outcome', next'⟩ := ending'
  cases hagree with
  | error h => exact ⟨.error h, hnext⟩
  | ok h => exact hrest _ _ h next next' hnext

theorem mono {R' : α → α' → Prop} {first : ExceptT ε (StateM Machine) α}
    {second : ExceptT ε (StateM Machine) α'} (h : Lockstep L E R first second)
    (hR : ∀ a b, R a b → R' a b) : Lockstep L E R' first second :=
  fun machine other hm => ⟨(h machine other hm).1.mono (fun _ _ h => h) hR, (h machine other hm).2⟩

end Lockstep

/-! ## Native functions -/

/-- Surroundings whose answers may be given to both runs. -/
def World.Admitted (L : Likeness) (world : World) : Prop :=
  ∀ question data, world.ask question = .ok data → L.Admits data

section Natives

variable {L : Likeness} {α β : Type} {R : α → β → Prop} {machine other : Machine}

theorem Likeness.Machines.withHeap (hm : L.Machines machine other) {heap heap' : Heap}
    (h : L.Heaps heap heap') :
    L.Machines { machine with heap := heap } { other with heap := heap' } :=
  ⟨h, hm.scopes, hm.steps, hm.log, hm.stamps, hm.draws⟩

theorem Action.ofExcept_lockstep {first : Except Failure α} {second : Except Failure β}
    (h : Agree AnyFailure R first second) :
    Lockstep L AnyFailure R (Action.ofExcept first) (Action.ofExcept second) :=
  fun _ _ hm => ⟨h, hm⟩

theorem Action.newList_lockstep {items items' : Array Value} (hsize : L.size items.size)
    (h : List.Forall₂ L.Values items.toList items'.toList) :
    Lockstep L AnyFailure L.Values (Action.newList items) (Action.newList items') := by
  intro machine other hm
  obtain ⟨hplace, hgrown⟩ := hm.heap.alloc (.list hsize h)
  refine ⟨.ok ?_, hm.withHeap hgrown⟩
  change L.Values (.list (machine.heap.alloc (.list items)).1)
    (.list (other.heap.alloc (.list items')).1)
  rw [hplace]
  exact .list _

theorem Action.load_lockstep (hL : L.Lawful) {data : Data} (h : L.Admits data) :
    Lockstep L AnyFailure L.Values (Action.load data) (Action.load data) := by
  intro machine other hm
  obtain ⟨hvalue, hgrown⟩ := Likeness.load hL hm.heap data h
  exact ⟨.ok hvalue, hm.withHeap hgrown⟩

section Methods

open Likeness

variable {args args' : List Value}

theorem findIdx?_eq (hL : L.Lawful) {items items' : List Value} {needle needle' : Value}
    (hitems : List.Forall₂ L.Values items items') (h : L.Values needle needle') :
    items.findIdx? (fun item => item.same needle) =
      items'.findIdx? (fun item => item.same needle') := by
  induction hitems with
  | nil => rfl
  | cons hitem _ ih => rw [List.findIdx?_cons, List.findIdx?_cons, hitem.same_eq hL h, ih]

theorem findIdx?_toList (test : Value → Bool) (items : Array Value) :
    items.findIdx? test = items.toList.findIdx? test := by
  cases items
  simp

theorem any_same_eq (hL : L.Lawful) {items items' : List Value} {needle needle' : Value}
    (hitems : List.Forall₂ L.Values items items') (h : L.Values needle needle') :
    items.any (fun item => item.same needle) = items'.any (fun item => item.same needle') := by
  induction hitems with
  | nil => rfl
  | cons hitem _ ih => rw [List.any_cons, List.any_cons, hitem.same_eq hL h, ih]

/-- The lists that are joined by `concat`, and single values as lists of one. -/
def partsOf (heap : Heap) (args : List Value) : List (Array Value) :=
  args.map fun arg => match arg with
    | .list place => heap.items place
    | other => #[other]

theorem joined_agree (hL : L.Lawful) (hm : L.Machines machine other)
    (hargs : List.Forall₂ L.Values args args') {items items' : Array Value}
    (hitems : List.Forall₂ L.Values items.toList items'.toList) :
    List.Forall₂ L.Values ((partsOf machine.heap args).foldl (· ++ ·) items).toList
      ((partsOf other.heap args').foldl (· ++ ·) items').toList := by
  induction hargs generalizing items items' with
  | nil => exact hitems
  | cons harg _ ih =>
    refine ih ?_
    rw [Array.toList_append, Array.toList_append]
    refine List.rel_append hitems ?_
    cases harg with
    | list place => exact (hm.heap.items hL place).2
    | _ => exact .cons (by constructor <;> assumption) .nil

theorem join_lockstep (hL : L.Lawful) (receiver : Nat) (hargs : List.Forall₂ L.Values args args') :
    Lockstep L AnyFailure L.Values (callListMethod .join receiver args)
      (callListMethod .join receiver args') := by
  refine .bind .get fun machine other hm => ?_
  refine .bind (Action.ofExcept_lockstep (R := L.Texts) ?_) ?_
  · cases hargs with
    | nil => exact .ok ⟨rfl, hL.short (by decide)⟩
    | cons hfirst hrest => cases hrest with
      | nil => exact (hfirst.text hL hm.heap).any
      | cons => exact .refused _ _
  · rintro separator _ ⟨rfl, -⟩
    refine .bind (Action.ofExcept_lockstep (Values.joinTexts hL (fun h => h.text hL hm.heap)
      separator (hm.heap.items hL receiver).2).any) ?_
    rintro text _ ⟨rfl, htext⟩
    exact .pure (.str htext)

theorem concat_lockstep (hL : L.Lawful) (receiver : Nat)
    (hargs : List.Forall₂ L.Values args args') :
    Lockstep L AnyFailure L.Values (callListMethod .concat receiver args)
      (callListMethod .concat receiver args') := by
  refine .bind .get fun machine other hm => ?_
  have hjoined := joined_agree hL hm hargs (hm.heap.items hL receiver).2
  have hlength : ((partsOf machine.heap args).foldl (· ++ ·) (machine.heap.items receiver)).size =
      ((partsOf other.heap args').foldl (· ++ ·) (other.heap.items receiver)).size := by
    simpa using hjoined.length_eq
  -- like lists are joined to lists of one length, so the check sees the same on both sides
  refine .bind (R := fun _ _ => ((partsOf machine.heap args).foldl (· ++ ·)
    (machine.heap.items receiver)).size ≤ maxLength) ?_ fun _ _ hchecked =>
      Action.newList_lockstep (hL.size_le hL.size_max hchecked) hjoined
  change Lockstep L AnyFailure _ _ (Action.ofExcept (checkLength ((partsOf other.heap args').foldl
    (· ++ ·) (other.heap.items receiver)).size "array"))
  rw [← hlength]
  exact Action.ofExcept_lockstep (checkLength_agree hL _ _).any

theorem push_lockstep (hL : L.Lawful) (receiver : Nat) (hargs : List.Forall₂ L.Values args args') :
    Lockstep L AnyFailure L.Values (callListMethod .push receiver args)
      (callListMethod .push receiver args') := by
  refine .bind .get fun machine other hm => ?_
  have hitems := (hm.heap.items hL receiver).2
  have hlength : (machine.heap.items receiver).size = (other.heap.items receiver).size := by
    simpa using hitems.length_eq
  dsimp only
  rw [← hlength, ← hargs.length_eq]
  refine .bind (Action.ofExcept_lockstep (checkLength_agree hL _ _).any) fun _ _ hchecked => ?_
  have hextended : (machine.heap.items receiver ++ args.toArray).size =
      (other.heap.items receiver ++ args'.toArray).size := by
    simp [hlength, hargs.length_eq]
  have hsized : L.size (machine.heap.items receiver ++ args.toArray).size :=
    hL.size_le hL.size_max (by simpa using hchecked)
  refine .bind (.change fun _ _ hm => hm.withHeap (hm.heap.put receiver (.list hsized ?_)))
    fun _ _ _ => ?_
  · rw [Array.toList_append, Array.toList_append]
    exact List.rel_append hitems hargs
  · rw [← hextended]
    exact .pure (.num (hL.sized hsized))

theorem callListMethod_lockstep (hL : L.Lawful) (method : ListMethod) (receiver : Nat)
    (hargs : List.Forall₂ L.Values args args') :
    Lockstep L AnyFailure L.Values (callListMethod method receiver args)
      (callListMethod method receiver args') := by
  have hsingle := Action.ofExcept_lockstep (L := L) (single_agree hargs)
  cases method with
  | includes =>
    refine .bind .get fun machine other hm => .bind hsingle fun needle needle' hneedle => .pure ?_
    rw [← Array.any_toList, ← Array.any_toList,
      any_same_eq hL (hm.heap.items hL receiver).2 hneedle]
    exact .bool _
  | indexOf =>
    refine .bind .get fun machine other hm => .bind hsingle fun needle needle' hneedle => ?_
    obtain ⟨hsize, hitems⟩ := hm.heap.items hL receiver
    have hfound := findIdx?_eq hL hitems hneedle
    rw [findIdx?_toList, findIdx?_toList, ← hfound]
    split
    · rename_i index hindex
      have hlt := (List.findIdx?_eq_some_iff_getElem.mp hindex).1
      exact .pure (.num (hL.sized (hL.size_le hsize (by simpa using hlt.le))))
    · exact .pure (.num hL.missing)
  | join => exact join_lockstep hL receiver hargs
  | slice =>
    refine .bind .get fun machine other hm => ?_
    obtain ⟨hsize, hitems⟩ := hm.heap.items hL receiver
    dsimp only
    rw [← show (machine.heap.items receiver).size = (other.heap.items receiver).size by
      simpa using hitems.length_eq]
    refine .bind (Action.ofExcept_lockstep (sliceBounds_agree hL _ hargs)) ?_
    rintro ⟨start, stop⟩ _ rfl
    refine Action.newList_lockstep (hL.size_le hsize (by simp only [Array.size_extract]; omega)) ?_
    rw [Array.toList_extract, Array.toList_extract, List.extract_eq_take_drop,
      List.extract_eq_take_drop]
    exact List.forall₂_take _ (List.forall₂_drop _ hitems)
  | concat => exact concat_lockstep hL receiver hargs
  | push => exact push_lockstep hL receiver hargs

theorem findFrom_lt {needle chars : List Char} {start index : Nat}
    (h : findFrom needle start chars = some index) : index ≤ start + chars.length := by
  induction chars generalizing start with
  | nil =>
    simp only [findFrom, Option.ite_none_right_eq_some, Option.some.injEq] at h
    simp [h.2]
  | cons c rest ih =>
    simp only [findFrom] at h
    split at h
    · cases h
      simp
    · have := ih h
      simp only [List.length_cons]
      omega

theorem trimChars_sublist (chars : List Char) : (Text.trimChars chars).Sublist chars := by
  unfold Text.trimChars Text.trimEnd
  refine List.Sublist.trans ?_ (List.dropWhile_sublist Text.isBlank)
  have hsuffix := List.dropWhile_sublist (l := (chars.dropWhile Text.isBlank).reverse) Text.isBlank
  simpa using hsuffix.reverse

/-- The methods that may give something longer than the text. -/
def TextMethod.lengthens : TextMethod → Bool
  | .toUpperCase | .toLowerCase | .split => true
  | _ => false

theorem callTextMethod_lockstep (hL : L.Lawful) (method : TextMethod)
    (hlong : method.lengthens = true → L.Lengthening) {receiver : String}
    (hreceiver : L.text receiver) (hargs : List.Forall₂ L.Values args args') :
    Lockstep L AnyFailure L.Values (callTextMethod method receiver args)
      (callTextMethod method receiver args') := by
  refine .bind .get fun machine other hm => ?_
  have hneedle : Lockstep L AnyFailure Eq
      (Action.ofExcept (do return (← (← single args).text machine.heap).toList))
      (Action.ofExcept (do return (← (← single args').text other.heap).toList)) := by
    refine Action.ofExcept_lockstep ((single_agree hargs).bind fun value value' hvalue =>
      (hvalue.text hL hm.heap).any.bind ?_)
    rintro text _ ⟨rfl, -⟩
    exact .ok rfl
  have hnone := Action.ofExcept_lockstep (L := L) (noArguments_agree hargs)
  have hsize : L.size receiver.toList.length :=
    hL.size_le (hL.chars hreceiver) (by rw [String.length_toList])
  cases method with
  | includes | startsWith | endsWith =>
    refine .bind hneedle ?_
    rintro needle _ rfl
    exact .pure (.bool _)
  | indexOf =>
    refine .bind hneedle ?_
    rintro needle _ rfl
    split
    · rename_i index hindex
      exact .pure (.num (hL.sized (hL.size_le hsize (by simpa using findFrom_lt hindex))))
    · exact .pure (.num hL.missing)
  | toUpperCase => exact .bind hnone fun _ _ _ => .pure (.str ((hlong rfl).upper hreceiver))
  | toLowerCase => exact .bind hnone fun _ _ _ => .pure (.str ((hlong rfl).lower hreceiver))
  | trim =>
    exact .bind hnone fun _ _ _ => .pure (.str (hL.part hreceiver (trimChars_sublist _)))
  | slice =>
    refine .bind (Action.ofExcept_lockstep (sliceBounds_agree hL _ hargs)) ?_
    rintro ⟨start, stop⟩ _ rfl
    exact .pure (.str (hL.part hreceiver
      ((List.drop_sublist _ _).trans (List.take_sublist _ _))))
  | split =>
    refine .bind (Action.ofExcept_lockstep (splitText_agree hL hm.heap _ hargs)) ?_
    rintro pieces _ ⟨rfl, hparts, hcount⟩
    refine Action.newList_lockstep ?_ ?_
    · exact hL.size_le ((hlong rfl).pieces hreceiver) (by simpa [String.length_toList] using hcount)
    · rw [List.toList_toArray, List.forall₂_map_left_iff, List.forall₂_map_right_iff]
      refine List.forall₂_same.mpr fun piece hpiece => .str (hL.part hreceiver ?_)
      exact (List.sublist_flatten_of_mem hpiece).trans hparts

end Methods

/-! ### Functions that exist once -/

section Builtins

open Likeness

variable {world : World} {args args' : List Value}

theorem ask_lockstep (hL : L.Lawful) (hworld : world.Admitted L) (question : Question) :
    Lockstep L AnyFailure L.Values (do Action.load (← Action.ofExcept (world.ask question)))
      (do Action.load (← Action.ofExcept (world.ask question))) := by
  refine .bind (Action.ofExcept_lockstep (R := L.Copies) ?_) ?_
  · cases hanswer : world.ask question with
    | error => exact .refused _ _
    | ok data => exact .ok ⟨rfl, hworld question data hanswer⟩
  · rintro data _ ⟨rfl, hdata⟩
    exact Action.load_lockstep hL hdata

theorem askAbout_lockstep (hL : L.Lawful) (hworld : world.Admitted L)
    (question : Option String → Question) (hargs : List.Forall₂ L.Values args args') :
    Lockstep L AnyFailure L.Values (askAbout world question args)
      (askAbout world question args') := by
  refine .bind .get fun machine other hm => .bind (Action.ofExcept_lockstep
    ((single_agree hargs).bind fun _ _ hvalue => shapeReference_agree hL hm.heap hvalue)) ?_
  rintro id _ rfl
  exact ask_lockstep hL hworld (question id)

theorem askAboutBoth_lockstep (hL : L.Lawful) (hworld : world.Admitted L)
    (question : Option String → Option String → Question)
    (hargs : List.Forall₂ L.Values args args') :
    Lockstep L AnyFailure L.Values (askAboutBoth world question args)
      (askAboutBoth world question args') := by
  refine .bind .get fun machine other hm => ?_
  have hrefused {act act' : Failure} : Lockstep L AnyFailure L.Values
      (Action.ofExcept (.error act)) (Action.ofExcept (.error act')) :=
    Action.ofExcept_lockstep (.refused _ _)
  cases hargs with
  | nil => exact hrefused
  | cons hfirst hrest => cases hrest with
    | nil => exact hrefused
    | cons hsecond hmore => cases hmore with
      | cons => exact hrefused
      | nil =>
        refine .bind (Action.ofExcept_lockstep (shapeReference_agree hL hm.heap hfirst)) ?_
        rintro first _ rfl
        refine .bind (Action.ofExcept_lockstep (shapeReference_agree hL hm.heap hsecond)) ?_
        rintro second _ rfl
        exact ask_lockstep hL hworld (question first second)

theorem askPlain_lockstep (hL : L.Lawful) (hworld : world.Admitted L) (question : Question)
    (hargs : List.Forall₂ L.Values args args') :
    Lockstep L AnyFailure L.Values (askPlain world question args)
      (askPlain world question args') :=
  .bind (Action.ofExcept_lockstep (noArguments_agree hargs)) fun _ _ _ =>
    ask_lockstep hL hworld question

theorem callBuiltin_lockstep (hL : L.Lawful) (hworld : world.Admitted L) (fn : Builtin)
    (hargs : List.Forall₂ L.Values args args') :
    Lockstep L AnyFailure L.Values (callBuiltin world fn args) (callBuiltin world fn args') := by
  refine .bind .get fun machine other hm => ?_
  have hsingle := single_agree hargs
  cases fn with
  | math fn =>
    cases fn with
    | random =>
      refine .bind (Action.ofExcept_lockstep (noArguments_agree hargs)) fun _ _ _ =>
        .bind .get fun machine other hm => ?_
      -- a random number depends on nothing but how many were drawn before
      rw [hm.draws]
      refine .bind (.set ⟨hm.heap, hm.scopes, hm.steps, hm.log, hm.stamps, rfl⟩) fun _ _ _ =>
        .pure (.num (hL.double _))
    | _ =>
      refine .bind (R := Eq) ?_ ?_
      · rw [mathFn_eq hL _ hargs]
        exact Action.ofExcept_lockstep (.itself _)
      · rintro x _ rfl
        exact .pure (.num (hL.double _))
  | log =>
    refine .bind (Action.ofExcept_lockstep (R := Eq) ?_) ?_
    · exact (Agree.mapM (fun _ _ h => Values.text hL hm.heap h) hargs).any.mono (fun _ _ h => h)
        fun texts texts' h => List.forall₂_eq_eq_eq ▸ h.imp fun _ _ h => h.1
    · rintro texts _ rfl
      refine .bind (.change fun _ _ hm => ⟨hm.heap, hm.scopes, hm.steps, ?_, hm.stamps, hm.draws⟩)
        fun _ _ _ => .pure .null
      rw [hm.log]
  | number =>
    refine .bind (Action.ofExcept_lockstep (hsingle.bind fun _ _ h => (h.toNumber hL).any)) ?_
    rintro x _ rfl
    exact .pure (.num (hL.double _))
  | isNaN =>
    refine .bind (Action.ofExcept_lockstep (hsingle.bind fun _ _ h => (h.toNumber hL).any)) ?_
    rintro x _ rfl
    exact .pure (.bool _)
  | string =>
    refine .bind (Action.ofExcept_lockstep (hsingle.bind fun _ _ h => (h.text hL hm.heap).any)) ?_
    rintro text _ ⟨rfl, htext⟩
    exact .pure (.str htext)
  | boolean =>
    refine .bind (Action.ofExcept_lockstep (hsingle.bind fun _ _ h => (h.truthy hL).any)) ?_
    rintro holds _ rfl
    exact .pure (.bool _)
  | editor query =>
    cases query with
    | shape | bounds => exact askAbout_lockstep hL hworld _ hargs
    | _ => exact askPlain_lockstep hL hworld _ hargs
  | geo query =>
    cases query with
    | distance | distanceCenter => exact askAboutBoth_lockstep hL hworld _ hargs
    | _ => exact askAbout_lockstep hL hworld _ hargs
  | bounds => exact askAbout_lockstep hL hworld _ hargs
  | unpack =>
    refine .bind (Action.ofExcept_lockstep (hsingle.bind fun _ _ h =>
      (unpack_agree hL hm.heap h).any)) ?_
    rintro patch _ ⟨rfl, hpatch⟩
    exact Action.load_lockstep hL hpatch

/-- The functions that may give something longer than what they are called on. -/
def Native.lengthens : Native → Bool
  | .textMethod method _ _ => method.lengthens
  | _ => false

/-- A native function goes in lockstep with itself on like arguments. -/
theorem callNative_lockstep (hL : L.Lawful) (hworld : world.Admitted L) {fn fn' : Native}
    (hlong : fn.lengthens = true → L.Lengthening) (hfn : L.Values (.native fn) (.native fn'))
    (hargs : List.Forall₂ L.Values args args') :
    Lockstep L AnyFailure L.Values (callNative world fn args) (callNative world fn' args') := by
  cases hfn with
  | builtin fn => exact callBuiltin_lockstep hL hworld fn hargs
  | listMethod method receiver stamp => exact callListMethod_lockstep hL method receiver hargs
  | textMethod method h stamp => exact callTextMethod_lockstep hL method hlong h hargs
  | toFixed h stamp =>
    refine .bind (Action.ofExcept_lockstep (toFixedText_agree hL h hargs)) ?_
    rintro text _ ⟨rfl, htext⟩
    exact .pure (.str htext)
  | given name stamp =>
    refine .pure ?_
    cases hargs with
    | nil => exact .null
    | cons hfirst => exact hfirst

end Builtins

end Natives

end Canvasflow.Program
