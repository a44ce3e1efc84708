import Canvasflow.Program.Interpreter
import Canvasflow.Proofs.Number.Whole
import Canvasflow.Proofs.Program.Likeness

/-!
# Operations on like values

Every conversion and every operator gives like results on like values, or fails on both in permitted
ways. Texts that are built are checked, so they may occur; numbers only reach a result through what
like numbers have in common.
-/

namespace Canvasflow.Program.Likeness

variable {L : Likeness} {heap other : Heap} {a b : Value}

/-! ## Conversions -/

theorem Lawful.short (hL : L.Lawful) {text : String} (h : text.length ≤ 20000) : L.text text :=
  hL.text_max (h.trans (by decide))

theorem Lawful.fault {α β : Type} {R : α → β → Prop} (hL : L.Lawful) (cause cause' : ProgramFault) :
    Agree L.Fails R (.error (.program cause)) (.error (.program cause')) :=
  .error ⟨hL.program cause, hL.program cause'⟩

theorem checkLength_agree (hL : L.Lawful) (length : Nat) (kind : String) :
    Agree L.Fails (fun _ _ => length ≤ maxLength) (checkLength length kind)
      (checkLength length kind) := by
  unfold checkLength
  split
  · exact hL.fault _ _
  · exact .ok (by omega)

theorem Lawful.toFloat?_agree (hL : L.Lawful) {x y : Number} (h : L.num x y) :
    Agree L.Fails Eq (Value.num x).toNumber (Value.num y).toNumber := by
  simp only [Value.toNumber, ← hL.toFloat? h]
  cases hx : x.toFloat? with
  | none => exact .error ⟨hL.overflow h hx, hL.overflow h hx⟩
  | some value => exact .ok rfl

namespace Values

theorem truthy (hL : L.Lawful) (h : L.Values a b) : Agree L.Fails Eq a.truthy b.truthy := by
  cases h with
  | @num x y h =>
    rw [← hL.truthy h]
    cases x with
    | double value => exact .ok rfl
    | int value =>
      simp only [Value.truthy]
      split
      · exact .ok rfl
      · split
        · exact .ok rfl
        -- an integer is tested for being a number by way of its double
        · rename_i hnone
          have hover := hL.overflow h (by simpa [Number.toFloat?] using hnone)
          exact .error ⟨hover, hover⟩
  | _ => exact .ok rfl

/-- A number beyond the range of doubles is refused. -/
theorem toNumber (hL : L.Lawful) (h : L.Values a b) : Agree L.Fails Eq a.toNumber b.toNumber := by
  cases h with
  | num h => exact hL.toFloat?_agree h
  | _ => exact .ok rfl

theorem numericOperand (hL : L.Lawful) (op : String) (h : L.Values a b) :
    Agree L.Fails Eq (a.numericOperand op) (b.numericOperand op) := by
  cases h with
  | num h => exact hL.toFloat?_agree h
  | bool | str => exact .ok rfl
  | _ => exact hL.fault _ _

theorem toNumber_eq (hL : L.Lawful) (h : L.Values a b) : a.toNumber = b.toNumber := by
  cases h with
  | num h => simp only [Value.toNumber, hL.toFloat? h]
  | _ => rfl

theorem numericOperand_eq (hL : L.Lawful) (op : String) (h : L.Values a b) :
    a.numericOperand op = b.numericOperand op := by
  cases h with
  | num h => exact toNumber_eq hL (.num h)
  | _ => rfl

theorem category_eq (h : L.Values a b) : a.category = b.category := by
  cases h <;> rfl

theorem same_eq (hL : L.Lawful) {c d : Value} (hab : L.Values a b) (hcd : L.Values c d) :
    a.same c = b.same d := by
  cases hab with
  | num hab => cases hcd with
    | num hcd => exact hL.same hab hcd
    | _ => rfl
  | toFixed => cases hcd <;> rfl
  | _ => cases hcd <;> rfl

theorem looseSame (hL : L.Lawful) {c d : Value} (hab : L.Values a b) (hcd : L.Values c d) :
    Agree L.Fails Eq (a.looseSame c) (b.looseSame d) := by
  unfold Value.looseSame
  rw [hab.same_eq hL hcd, hab.category_eq, hcd.category_eq]
  split
  · exact .ok rfl
  · split
    any_goals exact .ok rfl
    refine (hab.toNumber hL).bind ?_
    rintro x _ rfl
    refine (hcd.toNumber hL).bind ?_
    rintro y _ rfl
    exact .ok rfl

/-! ## Texts -/

/-- The length of a joined text is what is counted piece by piece. -/
theorem length_intercalate_cons (separator piece : String) (pieces : List String) :
    (String.intercalate separator (piece :: pieces).reverse).length =
      (String.intercalate separator pieces.reverse).length + piece.length +
        (if pieces.isEmpty then 0 else separator.length) := by
  rw [List.reverse_cons]
  cases pieces with
  | nil => simp
  | cons first rest =>
    rw [String.intercalate_append_of_ne_nil (by simp) (by simp), String.intercalate_singleton,
      String.length_append, String.length_append]
    simp only [List.isEmpty_cons, Bool.false_eq_true, if_false]
    omega

section Joined

variable {text text' : Value → Except Failure String}

/-- How one value is written in a joined text. -/
def writtenBy (text : Value → Except Failure String) : Value → Except Failure String
  | .null => .ok ""
  | item => text item

theorem joinOnto_cons (separator : String) (pieces : List String) (total : Nat) (item : Value)
    (rest : List Value) :
    Value.joinOnto text separator pieces total (item :: rest) = (do
      let piece ← writtenBy text item
      let length := total + piece.length + if pieces.isEmpty then 0 else separator.length
      checkLength length "string"
      Value.joinOnto text separator (piece :: pieces) length rest) := by
  cases item <;> rfl

theorem writtenBy_agree (hL : L.Lawful)
    (htext : ∀ {a b : Value}, L.Values a b → Agree L.Fails L.Texts (text a) (text' b))
    (h : L.Values a b) : Agree L.Fails L.Texts (writtenBy text a) (writtenBy text' b) := by
  have hwritten := htext h
  cases h with
  | null => exact .ok ⟨rfl, hL.short (by decide)⟩
  | _ => exact hwritten

/-- The pieces of a joined text have the total length that is checked at every piece. -/
theorem joinOnto (hL : L.Lawful)
    (htext : ∀ {a b : Value}, L.Values a b → Agree L.Fails L.Texts (text a) (text' b))
    (separator : String) {items items' : List Value} (hitems : List.Forall₂ L.Values items items')
    (pieces : List String) (hpieces : (String.intercalate separator pieces.reverse).length ≤
      maxLength) :
    Agree L.Fails
      (fun found found' => found = found' ∧
        (String.intercalate separator found.reverse).length ≤ maxLength)
      (Value.joinOnto text separator pieces
        (String.intercalate separator pieces.reverse).length items)
      (Value.joinOnto text' separator pieces
        (String.intercalate separator pieces.reverse).length items') := by
  induction hitems generalizing pieces with
  | nil => exact .ok ⟨rfl, hpieces⟩
  | @cons item item' rest rest' hitem _ ih =>
    rw [joinOnto_cons, joinOnto_cons]
    refine (writtenBy_agree hL htext hitem).bind ?_
    rintro written _ ⟨rfl, -⟩
    simp only [← length_intercalate_cons]
    refine (checkLength_agree hL _ _).bind fun _ _ hchecked => ?_
    exact ih (written :: pieces) hchecked

theorem joinTexts (hL : L.Lawful)
    (htext : ∀ {a b : Value}, L.Values a b → Agree L.Fails L.Texts (text a) (text' b))
    (separator : String) {items items' : List Value} (hitems : List.Forall₂ L.Values items items') :
    Agree L.Fails L.Texts (Value.joinTexts text separator items)
      (Value.joinTexts text' separator items') := by
  refine (joinOnto hL htext separator hitems [] (by simp)).bind ?_
  rintro found _ ⟨rfl, hlength⟩
  exact .ok ⟨rfl, hL.text_max hlength⟩

end Joined

/-- The text of anything but a list needs no room. -/
theorem textWithin_of_flat (hL : L.Lawful) (room : Nat) (h : L.Values a b)
    (hflat : ∀ place, a ≠ .list place) :
    Agree L.Fails L.Texts (a.textWithin heap room) (b.textWithin other room) := by
  have hshort {text : String} (hlength : text.length ≤ 20000) :
      Agree L.Fails L.Texts (.ok text) (.ok text) := .ok ⟨rfl, hL.short hlength⟩
  cases h with
  | list place => exact absurd rfl (hflat place)
  | @num x y h =>
    simp only [Value.textWithin, ← hL.written? h]
    cases hx : x.written? with
    | none => exact .error ⟨hL.unwritten h hx, hL.unwritten h hx⟩
    | some text => exact hshort (Number.written?_length hx)
  | bool value =>
    simp only [Value.textWithin]
    cases value <;> exact hshort (by decide)
  | str h =>
    simp only [Value.textWithin]
    exact .ok ⟨rfl, h⟩
  | _ =>
    simp only [Value.textWithin, Builtin.value]
    exact hshort (by decide)

theorem textWithin (hL : L.Lawful) (hheap : L.Heaps heap other) (room : Nat)
    (h : L.Values a b) :
    Agree L.Fails L.Texts (a.textWithin heap room) (b.textWithin other room) := by
  induction room generalizing a b with
  | zero =>
    cases h with
    | list place => exact .error ⟨hL.tooDeep, hL.tooDeep⟩
    | _ => exact textWithin_of_flat hL 0 (by constructor <;> assumption) nofun
  | succ room ih =>
    cases h with
    | list place => exact joinTexts hL ih "," (hheap.items hL place).2
    | _ => exact textWithin_of_flat hL _ (by constructor <;> assumption) nofun

theorem text (hL : L.Lawful) (hheap : L.Heaps heap other) (h : L.Values a b) :
    Agree L.Fails L.Texts (a.text heap) (b.text other) :=
  textWithin hL hheap textRoom h

end Values

/-! ## Operators -/

section Operators

variable {c d : Value}

theorem compute_agree (hL : L.Lawful) (operation : Float → Float → Float) (op : String)
    (hab : L.Values a b) (hcd : L.Values c d) :
    Agree L.Fails L.Values (compute operation op a c) (compute operation op b d) := by
  refine (hab.numericOperand hL op).bind ?_
  rintro x _ rfl
  refine (hcd.numericOperand hL op).bind ?_
  rintro y _ rfl
  exact .ok (.num (hL.double _))

theorem compareValues_agree (hL : L.Lawful) (comparison : Comparison) (op : String)
    (hab : L.Values a b) (hcd : L.Values c d) :
    Agree L.Fails L.Values (compareValues comparison op a c) (compareValues comparison op b d) := by
  have hnumbers : Agree L.Fails L.Values
      (do
        let left ← a.numericOperand op
        let right ← c.numericOperand op
        return Value.bool (comparison.doubles left right))
      (do
        let left ← b.numericOperand op
        let right ← d.numericOperand op
        return Value.bool (comparison.doubles left right)) := by
    refine (hab.numericOperand hL op).bind ?_
    rintro x _ rfl
    refine (hcd.numericOperand hL op).bind ?_
    rintro y _ rfl
    exact .ok (.bool _)
  cases hab with
  | str => cases hcd with
    | str => exact .ok (.bool _)
    | _ => exact hnumbers
  | _ => exact hnumbers

/-- Whether a value is a text. -/
def isText : Value → Bool
  | .str _ => true
  | _ => false

theorem addValues_eq (heap : Heap) (a c : Value) :
    addValues heap a c =
      if isText a || isText c then (do
        let left ← a.text heap
        let right ← c.text heap
        checkLength (left.length + right.length) "string"
        return .str (left ++ right))
      else compute (· + ·) "+" a c := by
  cases a <;> cases c <;> rfl

theorem addValues_agree (hL : L.Lawful) (hheap : L.Heaps heap other) (hab : L.Values a b)
    (hcd : L.Values c d) :
    Agree L.Fails L.Values (addValues heap a c) (addValues other b d) := by
  have hleft : isText a = isText b := by cases hab <;> rfl
  have hright : isText c = isText d := by cases hcd <;> rfl
  rw [addValues_eq, addValues_eq, hleft, hright]
  split
  · refine (hab.text hL hheap).bind ?_
    rintro left _ ⟨rfl, -⟩
    refine (hcd.text hL hheap).bind ?_
    rintro right _ ⟨rfl, -⟩
    refine (checkLength_agree hL _ _).bind fun _ _ hchecked => ?_
    exact .ok (.str (hL.text_max (by rwa [String.length_append])))
  · exact compute_agree hL _ _ hab hcd

theorem applyBinary_agree (hL : L.Lawful) (hheap : L.Heaps heap other) (op : BinaryOp)
    (hab : L.Values a b) (hcd : L.Values c d) :
    Agree L.Fails L.Values (applyBinary heap op a c) (applyBinary other op b d) := by
  cases op with
  | add => exact addValues_agree hL hheap hab hcd
  | sub | mul | div | mod | pow => exact compute_agree hL _ _ hab hcd
  | same | notSame =>
    simp only [applyBinary, hab.same_eq hL hcd]
    exact .ok (.bool _)
  | equal | notEqual =>
    refine (hab.looseSame hL hcd).bind ?_
    rintro _ _ rfl
    exact .ok (.bool _)
  | less | greater | lessEqual | greaterEqual => exact compareValues_agree hL _ _ hab hcd

theorem applyUnary_agree (hL : L.Lawful) (op : UnaryOp) (h : L.Values a b) :
    Agree L.Fails L.Values (applyUnary op a) (applyUnary op b) := by
  cases op with
  | not =>
    refine (h.truthy hL).bind ?_
    rintro _ _ rfl
    exact .ok (.bool _)
  | negate | plus =>
    refine (h.numericOperand hL _).bind ?_
    rintro _ _ rfl
    exact .ok (.num (hL.double _))

end Operators

/-! ## Members and indices -/

section Members

theorem indexOf?_agree (hL : L.Lawful) {x y : Number} (h : L.num x y) :
    Agree L.Fails Eq (indexOf? x) (indexOf? y) := by
  simp only [indexOf?, ← hL.toFloat? h, ← hL.whole? h]
  cases hx : x.toFloat? with
  | none => exact .error ⟨hL.overflow h hx, hL.overflow h hx⟩
  | some => exact .ok rfl

theorem member_of_space (hL : L.Lawful) (space : Namespace) (name : String) {member : Value}
    (h : space.member? name = some member) : L.Values member member := by
  cases space with
  | math =>
    simp only [Namespace.member?] at h
    split at h
    · cases h
      exact .num (hL.double _)
    · split at h
      · cases h
        exact .num (hL.double _)
      · obtain ⟨fn, -, rfl⟩ := Option.map_eq_some_iff.mp h
        exact .builtin _
  | console =>
    simp only [Namespace.member?, Option.ite_none_right_eq_some, Option.some.injEq] at h
    obtain ⟨-, rfl⟩ := h
    exact .builtin _
  | editor | geo =>
    obtain ⟨query, -, rfl⟩ := Option.map_eq_some_iff.mp h
    exact .builtin _
  | given => simp [Namespace.member?] at h

theorem getMember_agree (hL : L.Lawful) (hheap : L.Heaps heap other) (stamp : Nat)
    (h : L.Values a b) (name : String) :
    Agree L.Fails L.Values (getMember heap stamp a name) (getMember other stamp b name) := by
  cases h with
  | null => exact hL.fault _ _
  | bool | builtin | listMethod | textMethod | toFixed | given => exact .ok .null
  | record place =>
    have hfind := (hheap.fields hL place).2.find? name
    refine .ok ?_
    generalize Entries.find? name (heap.fields place) = found,
      Entries.find? name (other.fields place) = found' at hfind ⊢
    cases hfind with
    | none => exact .null
    | some hvalue => exact hvalue
  | space space =>
    simp only [getMember]
    cases hmember : space.member? name with
    | none => exact hL.fault _ _
    | some member => exact .ok (member_of_space hL space name hmember)
  | list place =>
    obtain ⟨hsize, hitems⟩ := hheap.items hL place
    have hlength : (heap.items place).size = (other.items place).size := by
      simpa using hitems.length_eq
    simp only [getMember, ← hlength]
    split
    · exact .ok (.num (hL.sized hsize))
    · split
      · exact .ok (.listMethod _ _ _)
      · exact .ok .null
  | str h =>
    simp only [getMember]
    split
    · exact .ok (.num (hL.sized (hL.chars h)))
    · split
      · exact .ok (.textMethod _ h _)
      · exact .ok .null
  | num h =>
    simp only [getMember]
    split
    · exact .ok (.toFixed h _)
    · exact .ok .null

theorem getElem?_rel {α β : Type} {R : α → β → Prop} {items : List α} {others : List β}
    (h : List.Forall₂ R items others) (index : Nat) :
    Option.Rel R items[index]? others[index]? := by
  induction h generalizing index with
  | nil => exact .none
  | cons hitem _ ih =>
    cases index with
    | zero => exact .some hitem
    | succ index => simpa using ih index

theorem set_rel {α β : Type} {R : α → β → Prop} {items : List α} {others : List β}
    (h : List.Forall₂ R items others) {a : α} {b : β} (hvalue : R a b) (index : Nat) :
    List.Forall₂ R (items.set index a) (others.set index b) := by
  induction h generalizing index with
  | nil => exact .nil
  | cons hitem hrest ih =>
    cases index with
    | zero => exact .cons hvalue hrest
    | succ index => exact .cons hitem (ih index)

theorem elementAt?_agree {items others : Array Value}
    (h : List.Forall₂ L.Values items.toList others.toList) (index : Int) :
    L.Values ((elementAt? items index).getD .null) ((elementAt? others index).getD .null) := by
  unfold elementAt?
  split
  · exact .null
  · have hrel := getElem?_rel h index.toNat
    rw [Array.getElem?_toList, Array.getElem?_toList] at hrel
    generalize items[index.toNat]? = found, others[index.toNat]? = found' at hrel ⊢
    cases hrel with
    | none => exact .null
    | some hvalue => exact hvalue

/-- A character of a text. -/
theorem charAt_agree (hL : L.Lawful) (text : String) (index : Int) :
    L.Values (((elementAt? text.toList.toArray index).map fun c =>
        Value.str (String.singleton c)).getD .null)
      (((elementAt? text.toList.toArray index).map fun c =>
        Value.str (String.singleton c)).getD .null) := by
  cases elementAt? text.toList.toArray index with
  | none => exact .null
  | some c => exact .str (hL.short (by simp))

theorem getIndex_agree (hL : L.Lawful) (hheap : L.Heaps heap other) (stamp : Nat)
    {key key' : Value} (h : L.Values a b) (hkey : L.Values key key') :
    Agree L.Fails L.Values (getIndex heap stamp a key) (getIndex other stamp b key') := by
  have hmember : Agree L.Fails L.Values
      (do getMember heap stamp a (← key.text heap))
      (do getMember other stamp b (← key'.text other)) := by
    refine (hkey.text hL hheap).bind ?_
    rintro name _ ⟨rfl, -⟩
    exact getMember_agree hL hheap stamp h name
  cases h with
  | list place => cases hkey with
    | num hnum =>
      refine (indexOf?_agree hL hnum).bind ?_
      rintro (_ | index) _ rfl
      · exact hmember
      · exact .ok (elementAt?_agree (hheap.items hL place).2 index)
    | _ => exact hmember
  | @str text htext => cases hkey with
    | num hnum =>
      refine (indexOf?_agree hL hnum).bind ?_
      rintro (_ | index) _ rfl
      · exact hmember
      · exact .ok (charAt_agree hL text index)
    | _ => exact hmember
  | _ => exact hmember

theorem setMember_agree (hL : L.Lawful) (hheap : L.Heaps heap other) {key key' c d : Value}
    (h : L.Values a b) (hkey : L.Values key key') (hvalue : L.Values c d) :
    Agree L.Fails L.Heaps (setMember heap a key c) (setMember other b key' d) := by
  have hrefused : Agree L.Fails L.Heaps
      (do fault (.cannotSet (← key.text heap) a.type) : Except Failure Heap)
      (do fault (.cannotSet (← key'.text other) b.type)) :=
    (hkey.text hL hheap).bind fun _ _ _ => hL.fault _ _
  cases h with
  | record place =>
    refine (hkey.text hL hheap).bind ?_
    rintro name _ ⟨rfl, htext⟩
    obtain ⟨hkeys, hfields⟩ := hheap.fields hL place
    exact .ok (hheap.put place (.record (hL.keyed.set hkeys htext _) (hfields.set name hvalue)))
  | list place => cases hkey with
    | num hnum =>
      refine (indexOf?_agree hL hnum).bind ?_
      rintro (_ | index) _ rfl
      · exact hrefused
      · obtain ⟨hsize, hitems⟩ := hheap.items hL place
        have hlength : (heap.items place).size = (other.items place).size := by
          simpa using hitems.length_eq
        dsimp only
        rw [← hlength]
        split
        · exact hL.fault _ _
        · split
          -- the index after the last one extends the list, the others leave its length
          · refine (checkLength_agree hL _ _).bind fun _ _ hchecked => .ok (hheap.put place ?_)
            refine .list (by simpa using hL.size_le hL.size_max hchecked) ?_
            simpa using List.rel_append hitems (.cons hvalue .nil)
          · refine .ok (hheap.put place (.list (by simpa using hsize) ?_))
            simpa using set_rel hitems hvalue index.toNat
    | _ => exact hrefused
  | _ => exact hrefused

end Members

end Canvasflow.Program.Likeness
