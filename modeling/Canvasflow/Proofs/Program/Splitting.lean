import Canvasflow.Proofs.Program.Chains
import Canvasflow.Proofs.Program.LikeNatives

/-!
# Splitting a text and joining the pieces

A text is cut from the left: what is read goes to the piece at hand until the separator comes next,
which ends the piece and is passed over. Two things hold at every character. The pieces so far, the
piece at hand and what is still to be read, joined by the separator, are the whole text
(`intercalate_splitOnto`); and no separator starts within the piece at hand, wherever it would end
(`Unmarked`), so that no piece contains one. Joining counts the length of the text so far at every
piece, and that is never more than the length of the text that was cut (`joinOnto_texts`).
-/

namespace Canvasflow.Program

/-! ## Cutting -/

section Cutting

variable {separator piece rest : List Char}

/-- Two pieces at the end may as well be one with the separator in it. -/
theorem intercalate_last_two (separator : List Char) (pieces : List (List Char))
    (first second : List Char) :
    separator.intercalate (pieces ++ [first, second]) =
      separator.intercalate (pieces ++ [first ++ separator ++ second]) := by
  induction pieces with
  | nil =>
    rw [List.nil_append, List.nil_append, List.intercalate_cons_cons, List.intercalate_singleton,
      List.intercalate_singleton]
  | cons head tail ih =>
    rw [List.cons_append, List.cons_append, List.intercalate_cons_of_ne_nil (by simp),
      List.intercalate_cons_of_ne_nil (by simp), ih]

theorem intercalate_empty (pieces : List (List Char)) :
    ([] : List Char).intercalate pieces = pieces.flatten := by
  induction pieces with
  | nil => rfl
  | cons head tail ih =>
    cases tail with
    | nil => rw [List.intercalate_singleton, List.flatten_singleton]
    | cons next others =>
      rw [List.intercalate_cons_cons, List.append_nil, ih]
      rfl

/-- Joined by the separator, the pieces are what was read and what is still to be read. -/
theorem intercalate_splitOnto (hseparator : separator ≠ []) (pieces : List (List Char))
    (piece : List Char) (skip : Nat) (chars : List Char) :
    separator.intercalate (splitOnto separator pieces piece skip chars) =
      separator.intercalate (pieces.reverse ++ [piece.reverse ++ chars.drop skip]) := by
  induction chars generalizing pieces piece skip with
  | nil => rw [splitOnto, List.reverse_cons, List.drop_nil, List.append_nil]
  | cons c rest ih =>
    cases skip with
    | succ skip => rw [splitOnto, ih, List.drop_succ_cons]
    | zero =>
      rw [splitOnto, List.drop_zero]
      split
      · rename_i hnext
        obtain ⟨left, hleft⟩ := List.isPrefixOf_iff_prefix.mp hnext
        -- what is passed over with `c` is the separator
        have hrest : rest.drop (separator.length - 1) = left := by
          have hdrop : (c :: rest).drop separator.length = left := by
            rw [← hleft, List.drop_left]
          have hlength : separator.length = separator.length - 1 + 1 := by
            have hpos : 0 < separator.length := List.length_pos_of_ne_nil hseparator
            omega
          rwa [hlength, List.drop_succ_cons] at hdrop
        rw [ih, hrest, List.reverse_cons, List.append_assoc, List.reverse_nil, List.nil_append,
          List.singleton_append, intercalate_last_two, List.append_assoc, hleft]
      · rw [ih, List.reverse_cons, List.append_assoc, List.singleton_append, List.drop_zero]

/-- No separator starts within a piece that is followed by the rest. -/
def Unmarked (separator piece rest : List Char) : Prop :=
  ∀ before after, before ++ separator ++ after = piece ++ rest → piece.length ≤ before.length

theorem Unmarked.nil : Unmarked separator [] rest := by
  intro before after _
  exact Nat.zero_le _

/-- A character joins the piece if no separator starts with it. -/
theorem Unmarked.snoc {c : Char} (h : Unmarked separator piece (c :: rest))
    (hnext : ¬ separator <+: c :: rest) : Unmarked separator (piece ++ [c]) rest := by
  intro before after hsplit
  rw [List.append_assoc piece, List.singleton_append] at hsplit
  have hbefore : piece.length ≤ before.length := h before after hsplit
  have hne : before.length ≠ piece.length := by
    intro hlength
    rw [List.append_assoc] at hsplit
    obtain ⟨-, hrest⟩ := List.append_inj hsplit hlength
    exact hnext ⟨after, hrest⟩
  rw [List.length_append, List.length_singleton]
  omega

/-- A separator does not fit into the piece. -/
theorem Unmarked.not_infix (h : Unmarked separator piece rest) (hseparator : separator ≠ []) :
    ¬ separator <:+: piece := by
  rintro ⟨before, after, rfl⟩
  have hlength := h before (after ++ rest) (List.append_assoc _ _ _).symm
  have hpos : 0 < separator.length := List.length_pos_of_ne_nil hseparator
  rw [List.length_append, List.length_append] at hlength
  omega

/-- No piece that is added contains the separator. -/
theorem not_infix_of_mem_splitOnto (hseparator : separator ≠ []) (pieces : List (List Char))
    (piece : List Char) (skip : Nat) (chars : List Char)
    (h : Unmarked separator piece.reverse (chars.drop skip)) {found : List Char}
    (hfound : found ∈ splitOnto separator pieces piece skip chars) :
    found ∈ pieces ∨ ¬ separator <:+: found := by
  induction chars generalizing pieces piece skip with
  | nil =>
    rw [splitOnto, List.mem_reverse, List.mem_cons] at hfound
    rcases hfound with rfl | hfound
    · exact .inr (h.not_infix hseparator)
    · exact .inl hfound
  | cons c rest ih =>
    cases skip with
    | succ skip => exact ih pieces piece skip h hfound
    | zero =>
      rw [splitOnto] at hfound
      split at hfound
      · rcases ih _ _ _ .nil hfound with hmem | hfree
        · rcases List.mem_cons.mp hmem with rfl | hmem
          · exact .inr (h.not_infix hseparator)
          · exact .inl hmem
        · exact .inr hfree
      · rename_i hnext
        refine ih pieces (c :: piece) 0 ?_ hfound
        rw [List.reverse_cons]
        exact Unmarked.snoc h (mt List.isPrefixOf_iff_prefix.mpr hnext)

end Cutting

/-- The pieces of a text: its characters with an empty separator, and else the texts between the
separators. -/
def piecesOf (text separator : String) : List String :=
  (if separator = "" then text.toList.map ([·])
    else splitAt separator.toList text.toList).map String.ofList

/-- No piece contains a separator that is not empty. -/
theorem not_infix_of_mem_piecesOf {text separator piece : String} (hseparator : separator ≠ "")
    (hpiece : piece ∈ piecesOf text separator) : ¬ separator.toList <:+: piece.toList := by
  rw [piecesOf, if_neg hseparator, splitAt, List.mem_map] at hpiece
  obtain ⟨chars, hchars, rfl⟩ := hpiece
  rw [String.toList_ofList]
  have hchars' : separator.toList ≠ [] := by simpa using hseparator
  exact (not_infix_of_mem_splitOnto hchars' [] [] 0 _ .nil hchars).resolve_left List.not_mem_nil

/-- The pieces, joined by the separator, are the text. -/
theorem intercalate_piecesOf (text separator : String) :
    separator.intercalate (piecesOf text separator) = text := by
  have hchars (pieces : List (List Char)) :
      (pieces.map String.ofList).map String.toList = pieces := by simp
  rw [← String.toList_inj, String.toList_intercalate, piecesOf, hchars]
  split
  · rename_i hseparator
    rw [hseparator, String.toList_empty, intercalate_empty, ← List.flatMap_def,
      List.flatMap_singleton']
  · rename_i hseparator
    rw [splitAt, intercalate_splitOnto (by simpa using hseparator)]
    simp

/-! ## Joining -/

theorem length_intercalate_le_append (separator : String) (pieces more : List String) :
    (separator.intercalate pieces).length ≤ (separator.intercalate (pieces ++ more)).length := by
  cases pieces with
  | nil => exact Nat.zero_le _
  | cons first rest =>
    cases more with
    | nil => rw [List.append_nil]
    | cons next others =>
      rw [String.intercalate_append_of_ne_nil (by simp) (by simp), String.length_append,
        String.length_append]
      omega

/-- Texts are joined if the result keeps to the length limit: no text on the way is longer. -/
theorem joinOnto_texts {text : Value → Except Failure String}
    (htext : ∀ piece, text (.str piece) = .ok piece) (separator : String)
    (texts pieces : List String)
    (hlength : (separator.intercalate (pieces.reverse ++ texts)).length ≤ maxLength) :
    Value.joinOnto text separator pieces (separator.intercalate pieces.reverse).length
      (texts.map .str) = .ok (texts.reverse ++ pieces) := by
  induction texts generalizing pieces with
  | nil => rfl
  | cons piece rest ih =>
    have hsplit : pieces.reverse ++ piece :: rest = (piece :: pieces).reverse ++ rest := by simp
    rw [hsplit] at hlength
    have hchecked : checkLength (separator.intercalate (piece :: pieces).reverse).length "string" =
        .ok () :=
      if_neg (Nat.not_lt.mpr ((length_intercalate_le_append separator _ rest).trans hlength))
    rw [List.map_cons, Likeness.Values.joinOnto_cons]
    change (text (.str piece) >>= _) = _
    rw [htext]
    change (checkLength _ "string" >>= _) = _
    rw [← Likeness.Values.length_intercalate_cons, hchecked]
    change Value.joinOnto text separator (piece :: pieces) _ _ = _
    rw [ih (piece :: pieces) hlength, List.reverse_cons, List.append_assoc, List.singleton_append]

/-- The pieces of a text are joined to the text again if it keeps to the length limit. -/
theorem joinTexts_piecesOf (heap : Heap) {text : String} (separator : String)
    (hlength : text.length ≤ maxLength) :
    Value.joinTexts (Value.text heap) separator ((piecesOf text separator).map .str) =
      .ok text := by
  have hjoined : separator.intercalate (piecesOf text separator) = text :=
    intercalate_piecesOf text separator
  have honto : Value.joinOnto (Value.text heap) separator [] 0
      ((piecesOf text separator).map .str) = .ok ((piecesOf text separator).reverse ++ []) :=
    joinOnto_texts (fun _ => rfl) separator (piecesOf text separator) []
      (by rwa [List.reverse_nil, List.nil_append, hjoined])
  rw [Value.joinTexts, honto, List.append_nil]
  change Except.ok (separator.intercalate (piecesOf text separator).reverse.reverse) = _
  rw [List.reverse_reverse, hjoined]

/-! ## In programs -/

theorem splitText_str (heap : Heap) (chars : List Char) (separator : String) :
    splitText heap chars [.str separator] =
      .ok (if separator = "" then chars.map ([·]) else splitAt separator.toList chars) := by
  split
  · rename_i hempty
    rw [hempty]
    rfl
  · rename_i hseparator
    rw [Likeness.splitText_eq]
    exact Likeness.splitBy_str hseparator heap chars

/-- The state with a new list of texts. -/
def Machine.withTexts (machine : Machine) (texts : List String) : Machine :=
  { machine with heap := (machine.heap.alloc (.list (texts.map .str).toArray)).2 }

theorem Machine.items_withTexts (machine : Machine) (texts : List String) :
    (machine.withTexts texts).heap.items machine.heap.cells.size = (texts.map .str).toArray := by
  simp [withTexts, Heap.alloc, Heap.items]

theorem run_split (world : World) (text separator : String) (stamp : Nat) (machine : Machine) :
    (callNative world (.textMethod .split text stamp) [.str separator]).run machine =
      (.ok (.list machine.heap.cells.size), machine.withTexts (piecesOf text separator)) := by
  rw [callNative, callTextMethod, Stateful.run_bind_ok (Stateful.run_get machine)]
  show (do
    let pieces ← Action.ofExcept (splitText machine.heap text.toList [.str separator])
    Action.newList (pieces.map fun piece => Value.str (String.ofList piece)).toArray :
      Action Value).run machine = _
  rw [splitText_str, Machine.withTexts, piecesOf, List.map_map]
  rfl

theorem run_join (world : World) {text : String} (separator : String) {place : Nat} (stamp : Nat)
    {machine : Machine} (hlength : text.length ≤ maxLength)
    (hitems : machine.heap.items place = ((piecesOf text separator).map .str).toArray) :
    (callNative world (.listMethod .join place stamp) [.str separator]).run machine =
      (.ok (.str text), machine) := by
  rw [callNative, callListMethod, Stateful.run_bind_ok (Stateful.run_get machine)]
  show (do
    let joined ← Action.ofExcept
      (Value.joinTexts (Value.text machine.heap) separator (machine.heap.items place).toList)
    return Value.str joined : Action Value).run machine = _
  rw [hitems, List.toList_toArray, joinTexts_piecesOf machine.heap separator hlength]
  rfl

/-- Wherever the scopes are these, the expression is the text and changes nothing. -/
def Denotes (context : Context) (scopes : List Frame) (expr : Expr) (text : String) : Prop :=
  ∀ room machine, machine.scopes = scopes →
    (evaluate context expr (room + 1)).run machine = (.ok (.str text), machine)

theorem denotes_literal (context : Context) (scopes : List Frame) (text : String) :
    Denotes context scopes (.literal (.str text)) text := by
  intro room machine _
  rw [evaluate]
  rfl

theorem denotes_name (context : Context) {scopes : List Frame} {name text : String}
    (h : Run.lookup? name scopes = some (.str text)) :
    Denotes context scopes (.read (.name name)) text := by
  intro room machine hscopes
  rw [evaluate, readPlace, Run.readName, Stateful.run_bind_ok (Stateful.run_get machine), hscopes,
    h]
  rfl

/-- A call of a native function with one argument that denotes a text. -/
theorem run_follow_call {context : Context} {described : String} {room : Nat} {fn : Native}
    {argument : Expr} {text : String} {value : Value} {machine after : Machine}
    (hargument : Denotes context machine.scopes argument text)
    (hcall : (callNative context.world fn [.str text]).run machine = (.ok value, after)) :
    ((Link.call [argument]).follow context described (.native fn) (room + 1)).run machine =
      (.ok value, after) := by
  have hvalues : (evaluateAll context [argument] (room + 1)).run machine =
      (.ok [.str text], machine) := by
    rw [evaluateAll, Stateful.run_bind_ok (hargument room machine rfl), evaluateAll]
    rfl
  rw [Link.follow]
  change (evaluateAll context [argument] (room + 1) >>= _).run machine = _
  rw [Stateful.run_bind_ok hvalues, Run.run_ofNative, hcall]
  rfl

/-- The links that split a text by a separator and join it again. -/
def rejoining (separator : Expr) : List Link :=
  [.member "split" false, .call [separator], .member "join" false, .call [separator]]

/-- The text split by a separator and joined by it again. -/
def rejoined (subject separator : Expr) : Expr :=
  linked subject (rejoining separator)

/-- The calls take their two steps before the text is evaluated, and each member takes a stamp. -/
theorem run_rejoined {context : Context} {machine : Machine} {subject argument : Expr}
    {text separator : String} {room : Nat} (hlength : text.length ≤ maxLength)
    (hsubject : Denotes context machine.scopes subject text)
    (hargument : Denotes context machine.scopes argument separator)
    (hsteps : machine.steps + 2 ≤ context.budget) :
    (evaluate context (rejoined subject argument) (room + 5)).run machine =
      (.ok (.str text), { machine.withTexts (piecesOf text separator) with
        steps := machine.steps + 2
        stamps := machine.stamps + 2 }) := by
  let charged := { machine with steps := machine.steps + 2 }
  let called := { charged with stamps := charged.stamps + 1 }
  let split := called.withTexts (piecesOf text separator)
  let joining := { split with stamps := split.stamps + 1 }
  have hchain : evaluate context (rejoined subject argument) (room + 5) = (do
      ticks context 2
      followAll context subject (rejoining argument) (room + 1)
        (← evaluate context subject (room + 1))) :=
    evaluate_linked context subject (rejoining argument) (room + 1)
  have hmember (expr : Expr) : ((Link.member "split" false).follow context expr.described
      (.str text) (room + 1)).run charged =
        (.ok (.native (.textMethod .split text charged.stamps)), called) := rfl
  have hsplit (expr : Expr) : ((Link.call [argument]).follow context expr.described
      (.native (.textMethod .split text charged.stamps)) (room + 2)).run called =
        (.ok (.list called.heap.cells.size), split) :=
    run_follow_call hargument (run_split context.world text separator charged.stamps called)
  have hmember' (expr : Expr) : ((Link.member "join" false).follow context expr.described
      (.list called.heap.cells.size) (room + 3)).run split =
        (.ok (.native (.listMethod .join called.heap.cells.size split.stamps)), joining) := rfl
  have hjoin (expr : Expr) : ((Link.call [argument]).follow context expr.described
      (.native (.listMethod .join called.heap.cells.size split.stamps)) (room + 4)).run joining =
        (.ok (.str text), joining) :=
    run_follow_call hargument (run_join context.world separator split.stamps hlength
      (called.items_withTexts (piecesOf text separator)))
  rw [hchain, Stateful.run_bind_ok (run_ticks (.inr hsteps)),
    Stateful.run_bind_ok (hsubject room charged rfl), rejoining,
    followAll, Stateful.run_bind_ok (hmember _), followAll, Stateful.run_bind_ok (hsplit _),
    followAll, Stateful.run_bind_ok (hmember' _), followAll, Stateful.run_bind_ok (hjoin _),
    followAll]
  rfl

/-- A text within the length limit is split by any separator into pieces that contain no separator,
unless it is empty, and joining the pieces by the separator gives the text back: as calls of the two
functions in any state, and as an expression of a program if the budget has the two steps of its
calls. -/
theorem split_join (text separator : String) (hlength : text.length ≤ maxLength) :
    (separator ≠ "" →
      ∀ piece ∈ piecesOf text separator, ¬ separator.toList <:+: piece.toList) ∧
    (∀ (world : World) (machine : Machine) (stamp stamp' : Nat),
      let place := machine.heap.cells.size
      let split := machine.withTexts (piecesOf text separator)
      (callNative world (.textMethod .split text stamp) [.str separator]).run machine =
        (.ok (.list place), split) ∧
      split.heap.items place = ((piecesOf text separator).map .str).toArray ∧
      (callNative world (.listMethod .join place stamp') [.str separator]).run split =
        (.ok (.str text), split)) ∧
    ∀ (context : Context) (machine : Machine) (subject argument : Expr) (room : Nat),
      Denotes context machine.scopes subject text →
      Denotes context machine.scopes argument separator →
      machine.steps + 2 ≤ context.budget →
      (evaluate context (rejoined subject argument) (room + 5)).run machine =
        (.ok (.str text), { machine.withTexts (piecesOf text separator) with
          steps := machine.steps + 2
          stamps := machine.stamps + 2 }) := by
  refine ⟨fun hseparator piece hpiece => not_infix_of_mem_piecesOf hseparator hpiece,
    fun world machine stamp stamp' => ?_,
    fun context machine subject argument room hsubject hargument hsteps => ?_⟩
  · intro place split
    have hitems : split.heap.items place = _ := machine.items_withTexts _
    exact ⟨run_split world text separator stamp machine, hitems,
      run_join world separator stamp' hlength hitems⟩
  · exact run_rejoined hlength hsubject hargument hsteps

/-- Cut at "aa", the text "aaabaa" has the pieces "", "ab" and "". -/
theorem split_join_overlapping :
    piecesOf "aaabaa" "aa" = ["", "ab", ""] ∧
    ((evaluate ⟨.none, 10⟩ (rejoined (.literal (.str "aaabaa")) (.read (.name "by"))) 900).run
      (.start .empty 0 [("by", .str "aa")])).1 = .ok (.str "aaabaa") := by
  have hjoined := (split_join "aaabaa" "aa" (by decide)).2.2 ⟨.none, 10⟩
    (.start .empty 0 [("by", .str "aa")]) (.literal (.str "aaabaa")) (.read (.name "by")) 895
    (denotes_literal _ _ _) (denotes_name _ rfl) (by decide)
  exact ⟨rfl, congrArg Prod.fst hjoined⟩

end Canvasflow.Program
