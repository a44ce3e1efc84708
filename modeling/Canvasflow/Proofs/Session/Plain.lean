import Canvasflow.Proofs.Program.Distinct
import Canvasflow.Proofs.Session.Invariants

/-!
# Sessions stay plain

A document that is plain stays so, whatever commands with plain data are carried out and whatever
the programs of its connectors return. What a program returns may be any graph of values; it reaches
the document through `resultPatch` only, which copies it into trees or refuses it. `stays_plain` says
both: documents stay plain, and the patch that a run writes is made of copies.
-/

namespace Canvasflow.Session

open Canvasflow.Connector Canvasflow.Geometry Canvasflow.Page Canvasflow.Program
open Canvasflow.Program.Likeness Canvasflow.Propagation

/-! ## What programs see is plain -/

theorem plain_pack {shape : Shape} (h : shape.Plain) : (pack shape).Plain := by
  constructor
  · have hprops : (Entries.keys (shape.props.filter
        fun field => !reservedKeys.contains field.1)).Nodup :=
      h.props.1.sublist (List.filter_sublist.map _)
    have hfree : ∀ key ∈ Entries.keys (shape.props.filter
        fun field => !reservedKeys.contains field.1), key ∉ reservedKeys := by
      intro key hkey
      obtain ⟨field, hfield, rfl⟩ := List.mem_map.mp hkey
      simpa using (List.mem_filter.mp hfield).2
    simp only [Entries.keys, List.map_append, List.map_cons, List.map_nil] at hprops hfree ⊢
    refine List.nodup_append'.mpr ⟨List.nodup_append'.mpr ⟨by decide, hprops, ?_⟩, by decide, ?_⟩
    · exact fun key hfirst hkey => hfree key hkey (List.mem_append_left ["m"] hfirst)
    · intro key hkey hlast
      rcases List.mem_append.mp hkey with hfirst | hkey
      · rw [List.mem_singleton.mp hlast] at hfirst
        exact absurd hfirst (by decide)
      · exact hfree key hkey (List.mem_append_right ["id", "type", "x", "y", "rotation"] hlast)
  · refine Data.plainFields_iff.mpr fun field hfield => ?_
    simp only [List.mem_append, List.mem_cons, List.not_mem_nil, or_false] at hfield
    rcases hfield with ((rfl | rfl | rfl | rfl | rfl) | hprop) | rfl
    · trivial
    · trivial
    · trivial
    · trivial
    · trivial
    · exact Data.plainFields_iff.mp h.props.2 field (List.mem_of_mem_filter hprop)
    · exact h.metadata

theorem plain_snapshots {shapes : List Shape} (h : ∀ shape ∈ shapes, shape.Plain) :
    (snapshots shapes).Plain := by
  refine Data.plainItems_of_forall fun data hdata => ?_
  obtain ⟨shape, hshape, rfl⟩ := List.mem_map.mp hdata
  exact plain_pack (h shape hshape)

theorem plain_pointRecord (point : Point Float) : (pointRecord point).Plain :=
  ⟨show ["x", "y"].Nodup by decide, trivial, trivial, trivial⟩

theorem plain_boxRecord (box : Box Float) : (boxRecord box).Plain := by
  constructor
  · show ["x", "y", "w", "h", "minX", "minY", "maxX", "maxY", "midX", "midY", "center"].Nodup
    decide
  · exact ⟨trivial, trivial, trivial, trivial, trivial, trivial, trivial, trivial, trivial, trivial,
      plain_pointRecord box.center, trivial⟩

theorem plain_offsetRecord (point? : Option (Point Float)) : (offsetRecord point?).Plain := by
  cases point? with
  | none => exact ⟨by decide, trivial, trivial, trivial⟩
  | some point => exact plain_pointRecord point

theorem plain_orNull {α : Type} {toData : α → Data} {value? : Option α}
    (h : ∀ value ∈ value?, (toData value).Plain) : (orNull toData value?).Plain := by
  cases value? with
  | none => trivial
  | some value => exact h value rfl

theorem plain_measured {α : Type} {result : Except Geometry.Fault α} {show? : α → Data}
    {data : Data} (hshow : ∀ value, result = .ok value → (show? value).Plain)
    (h : measured result show? = .ok data) : data.Plain := by
  cases result with
  | error fault => cases h
  | ok value =>
    cases h
    exact hshow value rfl

theorem keep_subset {ε α : Type} {test : α → Except ε Bool} {items kept : List α}
    (h : keep test items = .ok kept) : kept ⊆ items := by
  induction items generalizing kept with
  | nil =>
    cases h
    exact List.Subset.refl []
  | cons item rest ih =>
    simp only [keep, bind_eq_ok_iff] at h
    obtain ⟨passed, _, others, hothers, hkept⟩ := h
    cases hkept
    split
    · exact List.cons_subset_cons item (ih hothers)
    · exact List.subset_cons_of_subset item (ih hothers)

theorem inView_subset {document : Document} {shapes : List Shape}
    (h : document.inView = .ok shapes) : shapes ⊆ document.pageShapes := by
  unfold Document.inView at h
  split at h
  · cases h
    exact List.Subset.refl _
  · exact keep_subset h

theorem plain_sitesAsShapes {document : Document} (h : document.Plain) (sites : List (Site Float)) :
    (sitesAsShapes document sites).Plain := by
  refine plain_snapshots fun shape hshape => ?_
  obtain ⟨site, _, hsite⟩ := List.mem_filterMap.mp hshape
  exact h.of_shape? hsite

/-- Whatever a program asks about a plain document, the answer is plain. -/
theorem plain_answer {document : Document} (h : document.Plain) {options : Options}
    {index? : Option (GridIndex Float)} {question : Question} {data : Data}
    (hanswer : answer document options index? question = .ok data) : data.Plain := by
  cases question with
  | shape id =>
    cases hanswer
    refine plain_orNull fun shape hshape => ?_
    obtain ⟨name, _, hfound⟩ := Option.bind_eq_some_iff.mp hshape
    exact plain_pack (h.of_shape? hfound)
  | bounds id =>
    cases id with
    | none =>
      cases hanswer
      trivial
    | some id =>
      exact plain_measured (fun _ _ => plain_orNull fun box _ => plain_boxRecord box) hanswer
  | pageShapes =>
    cases hanswer
    exact plain_snapshots h
  | shapesInView =>
    refine plain_measured (fun shapes hshapes => plain_snapshots fun shape hshape => ?_) hanswer
    exact h shape (inView_subset hshapes hshape)
  | pagePoint =>
    cases hanswer
    exact plain_pointRecord document.pointer
  | intersects | contains =>
    refine plain_measured ?_ hanswer
    exact fun _ _ => trivial
  | getIntersects | getContains =>
    exact plain_measured (fun sites _ => plain_sitesAsShapes h sites) hanswer
  | distance a b =>
    cases hanswer
    exact plain_offsetRecord _
  | distanceCenter a b => exact plain_measured (fun point? _ => plain_offsetRecord point?) hanswer

/-! ## Runs -/

/-- What comes of a run: the snapshot of the target that the program was given, its result and the
state at its end. -/
structure Ending where
  snapshot : Value
  result : Except Failure Value
  machine : Machine

/-- What comes of a run of a program on two shapes. -/
def ending (session : Session) (engine : Engine) (program : Compiled) (source target : Shape) :
    Ending :=
  let (sourceSnapshot, withSource) := Heap.empty.load (pack source)
  let (targetSnapshot, withTarget) := withSource.load (pack target)
  let parameters : Parameters :=
    ⟨.space .editor, sourceSnapshot, targetSnapshot, .space .geo, Builtin.bounds.value,
      .double engine.timer.step⟩
  let (result, machine) := program.run (session.world engine) withTarget 0 parameters
  ⟨targetSnapshot, result, machine⟩

/-- The fields that are read back when a program returns a record: they are laid over the snapshot
of the target, whose identity and type stay. -/
def Ending.fields (ending : Ending) (target : Shape) (place : Nat) : Entries Value :=
  let given := match ending.snapshot with
    | .record snapshot => ending.machine.heap.fields snapshot
    | _ => []
  Entries.set "type" (.str target.type)
    (Entries.set "id" (.str target.id) (Entries.merge given (ending.machine.heap.fields place)))

variable {s t : Session} {engine : Engine} {program : Compiled} {source target : Shape}
  {patch : Patch} {lines : Array String}

/-- What becomes of the result of a run, and what it logged. -/
theorem execute_eq (s : Session) (engine : Engine) (program : Compiled) (source target : Shape) :
    let ending := s.ending engine program source target
    s.execute engine program source target = (match ending.result with
      | .ok value => resultPatch ending.machine.heap ending.snapshot target value
      | .error failure => .error (.program failure), ending.machine.log) :=
  rfl

/-- A result that gives a patch is a record, and the patch is read back from it. -/
theorem resultPatch_ok {ending : Ending} {value : Value}
    (h : resultPatch ending.machine.heap ending.snapshot target value = .ok (some patch)) :
    ∃ place, value = .record place ∧
      unpackFields ending.machine.heap (ending.fields target place) = .ok patch := by
  cases value with
  | record place =>
    refine ⟨place, rfl, ?_⟩
    simp only [resultPatch] at h
    split at h
    · rename_i read hread
      cases h
      exact hread
    · cases h
  | _ => cases h

/-- A run that writes a patch has returned a record, and the patch is read back from it. -/
theorem execute_ok (h : s.execute engine program source target = (.ok (some patch), lines)) :
    let ending := s.ending engine program source target
    ∃ place, ending.result = .ok (.record place) ∧
      unpackFields ending.machine.heap (ending.fields target place) = .ok patch := by
  rw [execute_eq] at h
  generalize s.ending engine program source target = ending at h ⊢
  obtain ⟨snapshot, failure | value, machine⟩ := ending
  · cases h
  · obtain ⟨place, rfl, hread⟩ := resultPatch_ok (congrArg Prod.fst h)
    exact ⟨place, rfl, hread⟩

/-- The patch that a run writes is made of copies. -/
theorem execute_copied (h : s.execute engine program source target = (.ok (some patch), lines)) :
    let ending := s.ending engine program source target
    ∃ place, ending.result = .ok (.record place) ∧
      CopiedPatch ending.machine.heap (ending.fields target place) patch := by
  obtain ⟨place, hresult, hpatch⟩ := execute_ok h
  exact ⟨place, hresult, unpackFields_copied hpatch⟩

/-- On plain shapes of a plain document, a program ends in a heap with distinct keys. -/
theorem ending_distinct (hs : s.document.Plain) (hsource : source.Plain) (htarget : target.Plain)
    (engine : Engine) (program : Compiled) :
    let ending := s.ending engine program source target
    distinct.Values ending.snapshot ending.snapshot ∧
      distinct.Heaps ending.machine.heap ending.machine.heap := by
  have hempty : distinct.Heaps .empty .empty := ⟨rfl, fun hcell => by simp [Heap.empty] at hcell⟩
  obtain ⟨hfrom, hheap⟩ :=
    load distinct_lawful hempty (pack source) (distinct_admits _ (plain_pack hsource))
  obtain ⟨hto, hheap'⟩ :=
    load distinct_lawful hheap (pack target) (distinct_admits _ (plain_pack htarget))
  refine ⟨hto, ?_⟩
  -- the run starts with the snapshots of both shapes and with nothing else that has parts
  let parameters : Parameters :=
    ⟨.space .editor, (Heap.empty.load (pack source)).1,
      ((Heap.empty.load (pack source)).2.load (pack target)).1, .space .geo, Builtin.bounds.value,
      .double engine.timer.step⟩
  have hnames : distinct.Fields parameters.names parameters.names :=
    List.rel_append (globals_alike distinct_lawful) <|
      .cons ⟨rfl, .space .editor⟩ <| .cons ⟨rfl, hfrom⟩ <| .cons ⟨rfl, hto⟩ <|
      .cons ⟨rfl, .space .geo⟩ <| .cons ⟨rfl, .builtin .bounds⟩ <|
      .cons ⟨rfl, .num (distinct_lawful.double _)⟩ <| .cons ⟨rfl, .builtin .unpack⟩ .nil
  have hready : distinct.Ready ⟨s.world engine, program.maxSteps⟩ :=
    ⟨distinct_lawful, distinct_lengthening,
      fun _ data hanswer => distinct_admits data (plain_answer hs hanswer)⟩
  exact (run_alike hready (distinct_unlimited.fitsStmts program.body)
    ⟨hheap', .cons ⟨hnames, rfl⟩ .nil, rfl, rfl, rfl, rfl⟩).2.heap

/-- The patch that a run writes is plain. -/
theorem execute_plain (hs : s.document.Plain) (hsource : source.Plain) (htarget : target.Plain)
    (h : s.execute engine program source target = (.ok (some patch), lines)) : patch.Plain := by
  obtain ⟨place, _, hcopied⟩ := execute_copied h
  obtain ⟨hsnapshot, hheap⟩ := ending_distinct hs hsource htarget engine program
  generalize s.ending engine program source target = ending at hcopied hsnapshot hheap
  refine hcopied.plain hheap ?_
  -- the program may have changed the snapshot, but not given it a key twice
  have hgiven : (Entries.keys (match ending.snapshot with
      | .record snapshot => ending.machine.heap.fields snapshot
      | _ => [])).Nodup := by
    split
    · exact (hheap.fields distinct_lawful _).1
    · exact List.nodup_nil
  have hmerged := distinct_lawful.keyed.merge hgiven (hheap.fields distinct_lawful place).1
  exact Entries.nodup_keys_set (Entries.nodup_keys_set hmerged "id" _) "type" _

/-! ## The invariant -/

/-- A command that brings plain data only, as does what it makes an observer answer. Coordinates may
be anything: they are checked when they are used. -/
def Command.Plain : Command → Prop
  | .create new => new.Plain
  | .update patch => patch.Plain
  | .load (.ok scene) => ∀ shape ∈ scene.shapes, shape.toNew.Plain
  | .subscribe _ _ _ (some reaction) => reaction.Plain
  | _ => True

/-- A session with a plain document, whose observers answer with plain commands. -/
structure Plain (s : Session) : Prop where
  document : s.document.Plain
  answers {topic : Topic} {serial : Nat} {observer : Observer} {command : Command} :
    (topic, .observer serial observer) ∈ s.subscribers → observer.reaction? = some command →
      command.Plain

theorem Plain.quiet (h : s.Plain) (hquiet : Quiet s t) : t.Plain :=
  ⟨h.document.mono hquiet.shapes, fun hmem => h.answers (hquiet.observers hmem)⟩

theorem Plain.subscribed (h : s.Plain) {observer : Observer}
    (hplain : (Command.subscribe observer.topic observer.name observer.fails
      observer.reaction?).Plain) : (subscribe observer s).Plain := by
  refine ⟨h.document, fun {_ _ _ command} hmem hcommand => ?_⟩
  rcases List.mem_append.mp hmem with hold | hnew
  · exact h.answers hold hcommand
  · cases List.mem_singleton.mp hnew
    rw [hcommand] at hplain
    exact hplain

/-- Being plain is an invariant under plain commands. -/
theorem plain_invariant : Invariant Plain Command.Plain where
  quiet h hquiet := h.quiet hquiet
  created h hnew := ⟨h.document.create hnew, h.answers⟩
  updated h hpatch hupdate := ⟨h.document.update hpatch hupdate, h.answers⟩
  subscribed h hplain := h.subscribed hplain
  answers h hmem hcommand := h.answers hmem hcommand
  ran hs ht hsource htarget hrun :=
    execute_plain ht.document (hs.document.of_shape? hsource) (hs.document.of_shape? htarget) hrun
  coloured _ _ hpatch := Document.plain_of_recoloring hpatch
  connected _ _ :=
    ⟨⟨show ["text", "color"].Nodup by decide, trivial, trivial, trivial⟩, List.nodup_nil, trivial⟩
  loaded h hshape := h _ hshape

/-- Whatever plain commands are carried out in a plain session, with engines that run the programs
of connectors of any text, the document stays plain: coordinates are finite, and properties and
metadata are finite trees whose records have distinct keys. And the patch that a run writes, in
whatever session, consists of finite coordinates and of copies of the properties and the metadata
that the program left, in which there is no native function, no namespace and nothing that contains
itself. -/
theorem stays_plain (hs : s.Plain) {commands : List Command}
    (hcommands : ∀ command ∈ commands, command.Plain) :
    (s.after commands).document.Plain ∧
      ∀ (t : Session) (engine : Engine) (program : Compiled) (source target : Shape) (patch : Patch)
        (lines : Array String),
        t.execute engine program source target = (.ok (some patch), lines) →
          let ending := t.ending engine program source target
          ∃ place, ending.result = .ok (.record place) ∧
            CopiedPatch ending.machine.heap (ending.fields target place) patch ∧
            (∀ field ∈ ending.fields target place, field.1 ∉ reservedKeys →
              ending.machine.heap.Tree field.2) ∧
            ∀ value ∈ present? "m" (ending.fields target place),
              ending.machine.heap.Tree value := by
  refine ⟨(plain_invariant.after_keeps hcommands hs).document, fun t engine program source target
    patch lines hrun => ?_⟩
  obtain ⟨place, hresult, hcopied⟩ := execute_copied hrun
  refine ⟨place, hresult, hcopied, fun field hfield hkey => ?_, fun value hvalue => ?_⟩
  · obtain ⟨copies, hcopies, _⟩ := hcopied.props
    obtain ⟨data, hdata, _⟩ :=
      hcopies.of_mem (List.mem_filter.mpr ⟨hfield, by simpa using hkey⟩)
    exact hdata.tree
  · have hmetadata := hcopied.metadata
    rw [Option.mem_def.mp hvalue] at hmetadata
    generalize patch.metadata? = metadata at hmetadata
    cases hmetadata with | some hdata =>
    exact hdata.tree

/-- A connector whose program gives its target the same record twice, next to a coordinate. -/
def sharing : List Command :=
  [.engine Trigger.all,
    .create { type := "geo", id := "a", x := .int 1
              props := [("tags", .list [.str "new", .record [("k", .int 2)]])] },
    .create { type := "geo", id := "b" },
    .connector "a" "b"
      "() \x7b let tag = from.tags[1]; return \x7b x: from.x + 6, tags: [tag, tag] \x7d; \x7d" "c",
    .update { id := "a", x? := some (.int 3) }]

theorem sharing_stays_plain :
    ((blank .defaults).Plain ∧ ∀ command ∈ sharing, command.Plain) ∧
      ((blank .defaults).after sharing).document.Plain ∧
      (((blank .defaults).after sharing).document.shape? "b").map (fun shape => shape.x == 9 &&
        (Data.record shape.props).same (.record
          [("tags", .list [.record [("k", .int 2)], .record [("k", .int 2)]])])) = some true := by
  have hblank : (blank .defaults).Plain := ⟨nofun, nofun⟩
  have hcommands : ∀ command ∈ sharing, command.Plain := by
    simp only [sharing, List.forall_mem_cons]
    refine ⟨trivial, ?_, ?_, trivial, ⟨nofun, nofun⟩, nofun⟩
    · exact ⟨⟨by decide, ⟨trivial, ⟨by decide, trivial, trivial⟩, trivial⟩, trivial⟩,
        List.nodup_nil, trivial⟩
    · exact ⟨⟨List.nodup_nil, trivial⟩, List.nodup_nil, trivial⟩
  exact ⟨⟨hblank, hcommands⟩, (stays_plain hblank hcommands).1, by decide +kernel⟩

end Canvasflow.Session
