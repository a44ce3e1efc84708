import Canvasflow.Proofs.Program.Bounds
import Canvasflow.Proofs.Program.Faults

/-!
# Lengths of texts and lists

A program may build texts and lists of at most `maxLength` elements. Every operation that a run goes
through keeps this limit or stops, apart from three methods of texts that do not check the length of
what they give: the two case maps, and the list of the pieces of a text. With these, texts stay
within three times the limit and lists within one item more, in every run.
-/

namespace Canvasflow.Program

open Text

/-- States whose numbers are of a kind, whose texts and lists have at most `maxLength` elements,
keys of records included, under operations that fail only in some ways. -/
def Likeness.limited (num : Number → Prop) (fails : Failure → Prop) : Likeness where
  num a b := a = b ∧ num a
  text text := text.length ≤ maxLength
  size n := n ≤ maxLength
  keys keys := ∀ key ∈ keys, key.length ≤ maxLength
  fails := fails

/-- The operations of a run keep the states of a likeness and fail only as it permits: the
operators, the reading and writing of members and indexed parts, the lists and records that a
program writes out, and the calls of native functions, apart from the methods that may lengthen a
text. -/
structure Likeness.Guarded (L : Likeness) (world : World) : Prop where
  unary (op : UnaryOp) {a : Value} : L.Values a a →
    Agree L.Fails L.Values (applyUnary op a) (applyUnary op a)
  binary (op : BinaryOp) {heap : Heap} {a b : Value} : L.Heaps heap heap → L.Values a a →
    L.Values b b → Agree L.Fails L.Values (applyBinary heap op a b) (applyBinary heap op a b)
  member {heap : Heap} {a : Value} (stamp : Nat) (name : String) : L.Heaps heap heap →
    L.Values a a → Agree L.Fails L.Values (getMember heap stamp a name)
      (getMember heap stamp a name)
  index {heap : Heap} {a key : Value} (stamp : Nat) : L.Heaps heap heap → L.Values a a →
    L.Values key key → Agree L.Fails L.Values (getIndex heap stamp a key)
      (getIndex heap stamp a key)
  write {heap : Heap} {a key value : Value} : L.Heaps heap heap → L.Values a a →
    L.Values key key → L.Values value value →
    Agree L.Fails L.Heaps (setMember heap a key value) (setMember heap a key value)
  list {items : List Value} : L.size items.length → List.Forall₂ L.Values items items →
    Lockstep L L.Stops L.Values (Run.newList items) (Run.newList items)
  record {fields : Entries Value} : Run.Gathered L fields fields →
    Lockstep L L.Stops L.Values (Run.newRecord fields) (Run.newRecord fields)
  spread {fields : Entries Value} {a : Value} : Run.Gathered L fields fields → L.Values a a →
    Lockstep L L.Stops (Run.Gathered L) (Run.spreadInto fields a) (Run.spreadInto fields a)
  call {fn : Native} {args : List Value} : fn.lengthens = false →
    L.Values (.native fn) (.native fn) → List.Forall₂ L.Values args args →
    Lockstep L L.Stops L.Values (Run.ofNative fn (callNative world fn args))
      (Run.ofNative fn (callNative world fn args))

namespace Likeness

variable {num : Number → Prop} {fails : Failure → Prop}

theorem limited_lawful (h : Closed maxLength num fails) : (limited num fails).Lawful where
  nil := by simp [limited]
  add hkeys hkey _ := by simpa [limited, or_imp, forall_and] using ⟨hkeys, hkey⟩
  take hkeys hothers hkey _ := by
    simpa [limited, or_imp, forall_and] using ⟨hkeys, hothers _ hkey⟩
  drop hkeys hfewer key hkey := hkeys key (hfewer.subset hkey)
  double x := ⟨rfl, h.double x⟩
  toFloat? hab := by rw [hab.1]
  whole? hab := by rw [hab.1]
  written? hab := by rw [hab.1]
  same hab hcd := by rw [hab.1, hcd.1]
  truthy hab := by rw [hab.1]
  count hab := by rw [hab.1]
  settle hab := by rw [← hab.1]; exact ⟨rfl, rfl, h.settle hab.2⟩
  missing := ⟨rfl, h.missing⟩
  sized {n} hn := ⟨rfl, h.sized (by change n ≤ maxLength at hn; omega)⟩
  size_le hn hle := hle.trans hn
  size_max := le_refl maxLength
  chars htext := htext
  text_max hlength := hlength
  part {text chars} htext hpart := by
    refine le_trans ?_ htext
    simpa [String.length_toList] using hpart.length_le
  program := h.program
  tooDeep := h.tooDeep
  overflow hab hnone := h.overflow hab.2 hnone
  unwritten hab hnone := h.unwritten hab.2 hnone

theorem limited_implies : (limited num fails).Implies (within maxLength num fails) where
  num h := h
  text h := within_text h
  size {n} hn := by
    change n ≤ maxLength at hn
    change n ≤ 3 * maxLength + 1
    omega
  keys {keys} hkeys := by
    change ∀ key ∈ keys, (within maxLength num fails).text key
    exact fun key hkey => within_text (hkeys key hkey)

/-- Every number may occur, and an operation may fail in every way. -/
theorem every_closed : Closed maxLength (fun _ => True) (fun _ => True) where
  large := le_refl maxLength
  double _ := trivial
  missing := trivial
  sized _ := trivial
  settle _ := trivial
  program _ := trivial
  tooDeep := trivial
  overflow _ _ := trivial
  unwritten _ _ := trivial

theorem Lawful.guarded {L : Likeness} (hL : L.Lawful) {world : World} (hworld : world.Admitted L) :
    L.Guarded world where
  unary op {_} ha := applyUnary_agree hL op ha
  binary op {_ _ _} hheap ha hb := applyBinary_agree hL hheap op ha hb
  member {_ _} stamp name hheap ha := getMember_agree hL hheap stamp ha name
  index {_ _ _} stamp hheap ha hkey := getIndex_agree hL hheap stamp ha hkey
  write hheap ha hkey hvalue := setMember_agree hL hheap ha hkey hvalue
  list hsize hitems := Run.newList_lockstep hsize hitems
  record hfields := Run.newRecord_lockstep hfields
  spread hfields ha := Run.spreadInto_lockstep hL hfields ha
  call hshort hfn hargs := Run.ofNative_lockstep hL _ _
    (callNative_lockstep hL hworld (fun hlong => by simp [hshort] at hlong) hfn hargs)

end Likeness

open Likeness

/-- The lengths of texts and lists. When a program, its surroundings and the state in which it
starts keep to `maxLength`, then what the program writes out does, and every operation that it goes
through keeps to it or stops, apart from the methods that may lengthen a text; and in every run the
texts stay within three times the limit, and the lists within one item more. -/
theorem lengths_limited {num : Number → Prop} {fails : Failure → Prop}
    (hclosed : Closed maxLength num fails) {world : World}
    (hworld : world.Admitted (limited num fails)) {grammar : Grammar} {source : String}
    {body : List Stmt} (hlength : source.length ≤ maxLength)
    (hparse : parse grammar source = .ok body) :
    (limited num fails).FitsStmts body ∧ (limited num fails).Guarded world ∧
      ∀ (maxSteps : Int) (machine : Machine), (limited num fails).Machines machine machine →
        let result := run ⟨world, maxSteps⟩ body machine
        (∀ value, result.1 = .ok value → (within maxLength num fails).Values value value) ∧
          (within maxLength num fails).Machines result.2 result.2 := by
  have hwide : (within maxLength num fails).FitsStmts body := by
    refine parse_fits (by decide) (fun _ => within_text) (fun n hn => ?_) hlength hparse
    change n ≤ 3 * maxLength + 1
    omega
  refine ⟨parse_fits (by decide) (fun _ h => h) (fun _ h => h) hlength hparse,
    (limited_lawful hclosed).guarded hworld, fun maxSteps machine hmachine => ?_⟩
  have hready : (within maxLength num fails).Ready ⟨world, maxSteps⟩ :=
    ⟨within_lawful hclosed, within_lengthening,
      fun question data h => limited_implies.admits data (hworld question data h)⟩
  obtain ⟨hagree, hend⟩ := run_alike hready hwide (hmachine.mono limited_implies)
  refine ⟨fun value hvalue => ?_, hend⟩
  rw [hvalue] at hagree
  cases hagree with
  | ok h => exact h

/-- A program that gives the characters of a text, doubled. -/
def doubling : String :=
  "() \x7b return (word + word).split(''); \x7d"

/-- Its body. -/
def doublingBody : List Stmt :=
  [.ret (some (.call (.read (.member (.binary (.read (.name "word")) .add (.read (.name "word")))
    "split" false)) [.literal (.str "")]))]

/-- The state in which it starts. -/
def doublingStart : Machine :=
  .start ⟨#[]⟩ 0 [("word", .str "ab")]

theorem doubling_keeps :
    let kept := limited (fun _ => True) (fun _ => True)
    let result := run ⟨.none, 5⟩ doublingBody doublingStart
    (parse .expanded doubling = .ok doublingBody ∧ kept.Machines doublingStart doublingStart) ∧
      (kept.FitsStmts doublingBody ∧ kept.Guarded .none ∧
        (∀ value, result.1 = .ok value →
          (within maxLength (fun _ => True) (fun _ => True)).Values value value) ∧
        (within maxLength (fun _ => True) (fun _ => True)).Machines result.2 result.2) ∧
      result.1 = .ok (.list 0) := by
  intro kept result
  have hworld : World.none.Admitted kept := by
    rintro question data ⟨⟩
    trivial
  have hparse : parse .expanded doubling = .ok doublingBody := by
    unfold doubling doublingBody
    cbv
  have hstart : kept.Machines doublingStart doublingStart := by
    have hword : "ab".length ≤ maxLength := by decide
    exact ⟨⟨rfl, fun hcell => by simp [doublingStart, Machine.start] at hcell⟩,
      .cons ⟨.cons ⟨rfl, .str hword⟩ .nil, rfl⟩ .nil, rfl, rfl, rfl, rfl⟩
  obtain ⟨hfits, hguarded, hruns⟩ := lengths_limited every_closed hworld (by decide) hparse
  exact ⟨⟨hparse, hstart⟩, ⟨hfits, hguarded, hruns 5 doublingStart hstart⟩, by rfl⟩

end Canvasflow.Program
