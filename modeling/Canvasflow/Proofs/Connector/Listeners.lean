import Mathlib.Data.List.Induction
import Canvasflow.Connector.Listeners

/-!
# What a history of changes leaves tracked

A connector is added by its edge, removed, or removed with all the others. The nodes that are
watched are kept beside the edges: an edge that comes adds its ends to them, and they are gathered
anew from the edges only where an edge goes away or moves. `Sound` says that what is kept there is
what gathering would give, and every change keeps it (`Sound.apply`).

The main statement, `watched_and_active_after`, speaks of the history alone: a connector is tracked
by the last edge that added it, if nothing removed it since (`Latest`), a node is watched if it is
an end of such an edge, and the connectors stand in the order in which they last began to be tracked
(`Began`).
-/

namespace Canvasflow.Connector

/-- Whether a node is an end of an edge. -/
def Edge.Touches (edge : Edge) (node : String) : Prop :=
  node = edge.source ∨ node = edge.target

namespace Listeners

variable {listeners : Listeners} {connector node : String} {edge : Edge}

/-! ## The edges after a change -/

@[simp] theorem edges_add (listeners : Listeners) (edge : Edge) :
    (listeners.add edge).edges = Entries.set edge.connector edge listeners.edges := by
  unfold add
  simp only
  split
  · split <;> rfl
  · rfl

@[simp] theorem edges_remove (listeners : Listeners) (connector : String) :
    (listeners.remove connector).edges = Entries.erase connector listeners.edges := by
  unfold remove
  split
  · rfl
  · rename_i hidle
    refine (List.filter_eq_self.mpr fun entry hmem => ?_).symm
    -- A connector that is not tracked has no edge that could go away.
    have hkey : entry.1 ∈ Entries.keys listeners.edges := List.mem_map.mpr ⟨entry, hmem, rfl⟩
    have hne : entry.1 ≠ connector := fun heq =>
      hidle ((Entries.has_iff_mem_keys connector listeners.edges).mpr (heq ▸ hkey))
    simpa using hne

/-! ## The watched nodes -/

/-- The edges are found by their connectors, and the watched nodes are their ends. -/
structure Sound (listeners : Listeners) : Prop where
  distinct : (Entries.keys listeners.edges).Nodup
  watched : ∀ node, listeners.isWatched node = true ↔
    ∃ connector edge, Entries.find? connector listeners.edges = some edge ∧ edge.Touches node

theorem empty_sound : empty.Sound where
  distinct := List.nodup_nil
  watched node := by simp [isWatched, empty]

theorem mem_endpoints_iff {edges : Entries Edge} :
    node ∈ endpoints edges ↔ ∃ entry ∈ edges, entry.2.Touches node := by
  have hends (edge : Edge) : node ∈ [edge.source, edge.target] ↔ edge.Touches node := by
    simp [Edge.Touches]
  simp only [endpoints, List.mem_eraseDups, List.mem_flatMap, Entries.values, List.mem_map, hends]
  constructor
  · rintro ⟨_, ⟨entry, hmem, rfl⟩, htouches⟩
    exact ⟨entry, hmem, htouches⟩
  · rintro ⟨entry, hmem, htouches⟩
    exact ⟨entry.2, ⟨entry, hmem, rfl⟩, htouches⟩

theorem mem_endpoints_of_find? {edges : Entries Edge}
    (hfind : Entries.find? connector edges = some edge) (htouches : edge.Touches node) :
    node ∈ endpoints edges :=
  mem_endpoints_iff.mpr ⟨(connector, edge), Entries.mem_of_find? hfind, htouches⟩

theorem mem_endpoints {edges : Entries Edge} (hdistinct : (Entries.keys edges).Nodup) :
    node ∈ endpoints edges ↔
      ∃ connector edge, Entries.find? connector edges = some edge ∧ edge.Touches node := by
  constructor
  · intro hmem
    obtain ⟨⟨connector, edge⟩, hentry, htouches⟩ := mem_endpoints_iff.mp hmem
    exact ⟨connector, edge, Entries.find?_of_mem hdistinct hentry, htouches⟩
  · rintro ⟨connector, edge, hfind, htouches⟩
    exact mem_endpoints_of_find? hfind htouches

/-- Nodes that are gathered from the edges are right. -/
theorem sound_of_endpoints {edges : Entries Edge} (hdistinct : (Entries.keys edges).Nodup) :
    Sound ⟨edges, endpoints edges⟩ where
  distinct := hdistinct
  watched node := by simpa [isWatched] using mem_endpoints hdistinct

/-- It is enough to add the ends of an edge that takes no other ends away. -/
theorem Sound.extend (h : listeners.Sound) {ends : Entries Edge}
    (hends : ends = Entries.set edge.connector edge listeners.edges)
    (hkept : ∀ previous, Entries.find? edge.connector listeners.edges = some previous →
      ∀ node, previous.Touches node → edge.Touches node) :
    Sound ⟨ends, (listeners.watched.insert edge.source).insert edge.target⟩ where
  distinct := hends ▸ Entries.nodup_keys_set h.distinct edge.connector edge
  watched node := by
    subst hends
    have hinsert : isWatched
        ⟨Entries.set edge.connector edge listeners.edges,
          (listeners.watched.insert edge.source).insert edge.target⟩ node = true ↔
        edge.Touches node ∨ listeners.isWatched node = true := by
      simp only [isWatched, List.contains_iff_mem, List.mem_insert_iff, Edge.Touches]
      tauto
    rw [hinsert, h.watched]
    constructor
    · rintro (htouches | ⟨connector, other, hfind, htouches⟩)
      · exact ⟨edge.connector, edge, Entries.find?_set_self _ _ _, htouches⟩
      · by_cases heq : connector = edge.connector
        · subst heq
          exact ⟨edge.connector, edge, Entries.find?_set_self _ _ _,
            hkept other hfind node htouches⟩
        · exact ⟨connector, other, by rwa [Entries.find?_set_of_ne heq], htouches⟩
    · rintro ⟨connector, other, hfind, htouches⟩
      by_cases heq : connector = edge.connector
      · subst heq
        rw [Entries.find?_set_self, Option.some.injEq] at hfind
        exact .inl (hfind ▸ htouches)
      · rw [Entries.find?_set_of_ne heq] at hfind
        exact .inr ⟨connector, other, hfind, htouches⟩

theorem Sound.add (h : listeners.Sound) (edge : Edge) : (listeners.add edge).Sound := by
  unfold Listeners.add
  simp only
  split
  · rename_i previous hprevious
    split
    · rename_i hsame
      refine h.extend rfl fun other hother node htouches => ?_
      rw [hprevious, Option.some.injEq] at hother
      subst hother
      rwa [Edge.Touches, ← hsame.1, ← hsame.2]
    · exact sound_of_endpoints (Entries.nodup_keys_set h.distinct edge.connector edge)
  · rename_i hnew
    refine h.extend rfl fun previous hprevious => ?_
    rw [hnew] at hprevious
    cases hprevious

theorem Sound.remove (h : listeners.Sound) (connector : String) :
    (listeners.remove connector).Sound := by
  unfold Listeners.remove
  split
  · exact sound_of_endpoints (Entries.nodup_keys_erase h.distinct connector)
  · exact h

/-- Whether a connector is tracked by an edge of which both ends are watched. -/
def Follows (listeners : Listeners) (connector : String) (edge : Edge) : Prop :=
  Entries.find? connector listeners.edges = some edge ∧
    ∀ node, edge.Touches node → listeners.isWatched node = true

/-- The ends of an edge are watched once it was added, and so are ends that were watched before as
long as their edge is there. -/
theorem isWatched_add {other : Edge}
    (hfind : Entries.find? connector (listeners.add edge).edges = some other)
    (htouches : other.Touches node)
    (hbefore : connector ≠ edge.connector → listeners.isWatched node = true) :
    (listeners.add edge).isWatched node = true := by
  have hinserted : node ∈ (listeners.watched.insert edge.source).insert edge.target := by
    rw [List.mem_insert_iff, List.mem_insert_iff]
    by_cases heq : connector = edge.connector
    · rw [heq, edges_add, Entries.find?_set_self, Option.some.injEq] at hfind
      subst hfind
      rcases htouches with rfl | rfl <;> simp
    · exact .inr (.inr (by simpa [isWatched] using hbefore heq))
  rw [edges_add] at hfind
  have hgathered := mem_endpoints_of_find? hfind htouches
  unfold isWatched add
  simp only
  split
  · split
    · simpa using hinserted
    · simpa using hgathered
  · simpa using hinserted

theorem follows_add (listeners : Listeners) (edge : Edge) :
    (listeners.add edge).Follows edge.connector edge := by
  have hfind : Entries.find? edge.connector (listeners.add edge).edges = some edge := by
    rw [edges_add, Entries.find?_set_self]
  exact ⟨hfind, fun node htouches => isWatched_add hfind htouches fun hne => absurd rfl hne⟩

/-- A connector is followed as before when another one is added. -/
theorem Follows.add (h : listeners.Follows connector edge) {new : Edge}
    (hne : connector ≠ new.connector) : (listeners.add new).Follows connector edge := by
  have hfind : Entries.find? connector (listeners.add new).edges = some edge := by
    rw [edges_add, Entries.find?_set_of_ne hne, h.1]
  exact ⟨hfind, fun node htouches => isWatched_add hfind htouches fun _ => h.2 node htouches⟩

/-- A connector is followed as before when another one is removed. -/
theorem Follows.remove (h : listeners.Follows connector edge) {other : String}
    (hne : connector ≠ other) : (listeners.remove other).Follows connector edge := by
  have hfind : Entries.find? connector (listeners.remove other).edges = some edge := by
    rw [edges_remove, Entries.find?_erase_of_ne hne, h.1]
  refine ⟨hfind, fun node htouches => ?_⟩
  unfold Listeners.remove at hfind ⊢
  split
  · rename_i hactive
    simp only [hactive, if_true] at hfind
    simpa [isWatched] using mem_endpoints_of_find? hfind htouches
  · exact h.2 node htouches

/-! ## Histories -/

/-- What can happen to the tracked connectors. -/
inductive Change where
  | added (edge : Edge)
  | removed (connector : String)
  | cleared
  deriving DecidableEq, Repr

namespace Change

/-- What a change makes of the tracked connectors. -/
def apply : Change → Listeners → Listeners
  | .added edge, listeners => listeners.add edge
  | .removed connector, listeners => listeners.remove connector
  | .cleared, _ => empty

/-- Whether a change decides by which edge a connector is tracked, if it is. -/
def Concerns (connector : String) : Change → Prop
  | .added edge => edge.connector = connector
  | .removed other => other = connector
  | .cleared => True

/-- The edge that a change brings. -/
def edge? : Change → Option Edge
  | .added edge => some edge
  | .removed _ | .cleared => none

theorem find?_apply_of_concerns {change : Change} (h : change.Concerns connector) :
    Entries.find? connector (change.apply listeners).edges = change.edge? := by
  cases change with
  | added edge =>
    subst h
    rw [apply, edges_add, Entries.find?_set_self]
    rfl
  | removed other =>
    subst h
    rw [apply, edges_remove, Entries.find?_erase_self]
    rfl
  | cleared => rfl

theorem find?_apply_of_not_concerns {change : Change} (h : ¬ change.Concerns connector) :
    Entries.find? connector (change.apply listeners).edges =
      Entries.find? connector listeners.edges := by
  cases change with
  | added edge => rw [apply, edges_add, Entries.find?_set_of_ne (Ne.symm h)]
  | removed other => rw [apply, edges_remove, Entries.find?_erase_of_ne (Ne.symm h)]
  | cleared => exact absurd trivial h

end Change

/-- Every change keeps the watched nodes right. -/
theorem Sound.apply (h : listeners.Sound) (change : Change) : (change.apply listeners).Sound := by
  cases change with
  | added edge => exact h.add edge
  | removed connector => exact h.remove connector
  | cleared => exact empty_sound

/-- What is tracked after some changes, the first of which met nothing tracked. -/
def after (history : List Change) : Listeners :=
  history.foldl (fun listeners change => change.apply listeners) empty

@[simp] theorem after_nil : after [] = empty := rfl

@[simp] theorem after_concat (history : List Change) (change : Change) :
    after (history ++ [change]) = change.apply (after history) := by
  simp [after]

theorem after_sound (history : List Change) : (after history).Sound := by
  induction history using List.reverseRecOn with
  | nil => exact empty_sound
  | append_singleton history change ih =>
    rw [after_concat]
    exact ih.apply change

/-- A connector was last added by an edge, and nothing that came since concerned it. -/
def Latest (history : List Change) (connector : String) (edge : Edge) : Prop :=
  ∃ before since, history = before ++ .added edge :: since ∧ edge.connector = connector ∧
    ∀ change ∈ since, ¬ change.Concerns connector

variable {history : List Change} {change : Change}

theorem not_latest_nil : ¬ Latest [] connector edge := by
  rintro ⟨before, since, hsplit, _⟩
  simp at hsplit

theorem latest_concat_of_concerns (h : change.Concerns connector) :
    Latest (history ++ [change]) connector edge ↔ change.edge? = some edge := by
  constructor
  · rintro ⟨before, since, hsplit, hconnector, huntouched⟩
    rcases List.eq_nil_or_concat since with rfl | ⟨since, last, rfl⟩
    · obtain ⟨_, hlast⟩ := List.append_inj' hsplit rfl
      cases hlast
      rfl
    · rw [List.concat_eq_append, ← List.cons_append, ← List.append_assoc] at hsplit
      obtain ⟨_, hlast⟩ := List.append_inj' hsplit rfl
      cases hlast
      exact absurd h (huntouched change (by simp))
  · intro hedge
    cases change with
    | added new =>
      cases hedge
      exact ⟨history, [], rfl, h, nofun⟩
    | removed other => cases hedge
    | cleared => cases hedge

theorem latest_concat_of_not_concerns (h : ¬ change.Concerns connector) :
    Latest (history ++ [change]) connector edge ↔ Latest history connector edge := by
  constructor
  · rintro ⟨before, since, hsplit, hconnector, huntouched⟩
    rcases List.eq_nil_or_concat since with rfl | ⟨since, last, rfl⟩
    · obtain ⟨_, hlast⟩ := List.append_inj' hsplit rfl
      cases hlast
      exact absurd hconnector h
    · rw [List.concat_eq_append, ← List.cons_append, ← List.append_assoc] at hsplit
      obtain ⟨hhistory, _⟩ := List.append_inj' hsplit rfl
      exact ⟨before, since, hhistory, hconnector, fun other hmem =>
        huntouched other (by simp [hmem])⟩
  · rintro ⟨before, since, rfl, hconnector, huntouched⟩
    refine ⟨before, since ++ [change], by simp, hconnector, fun other hmem => ?_⟩
    rcases List.mem_append.mp hmem with hsince | hlast
    · exact huntouched other hsince
    · rwa [List.mem_singleton.mp hlast]

/-- The edge under which a connector is found is the latest one. -/
theorem find?_after : Entries.find? connector (after history).edges = some edge ↔
    Latest history connector edge := by
  induction history using List.reverseRecOn with
  | nil => exact ⟨nofun, fun h => absurd h not_latest_nil⟩
  | append_singleton history change ih =>
    rw [after_concat]
    by_cases hconcerns : change.Concerns connector
    · rw [Change.find?_apply_of_concerns hconcerns, latest_concat_of_concerns hconcerns]
    · rw [Change.find?_apply_of_not_concerns hconcerns, ih, latest_concat_of_not_concerns hconcerns]

theorem mem_active_after :
    connector ∈ (after history).active ↔ ∃ edge, Latest history connector edge := by
  rw [active, ← Entries.has_iff_mem_keys, Entries.has, Option.isSome_iff_exists]
  exact exists_congr fun edge => find?_after

/-! ## The order of the connectors -/

/-- A connector has been tracked ever since the change at a place of the history, and was not
tracked right before it. -/
structure Began (history : List Change) (connector : String) (place : Nat) : Prop where
  absent : ¬ ∃ edge, Latest (history.take place) connector edge
  tracked : ∀ later > place, ∃ edge, Latest (history.take later) connector edge

/-- A connector that begins to be tracked with the last change. -/
theorem began_concat_new (hold : connector ∉ (after history).active)
    (hnow : connector ∈ (after (history ++ [change])).active) :
    Began (history ++ [change]) connector history.length where
  absent := by
    rw [List.take_left]
    exact fun h => hold (mem_active_after.mpr h)
  tracked later hlater := by
    rw [List.take_of_length_le (by simpa using Nat.succ_le_of_lt hlater)]
    exact mem_active_after.mp hnow

/-- A connector that is still tracked began to be where it did. -/
theorem Began.concat {place : Nat} (h : Began history connector place)
    (hplace : place < history.length)
    (hnow : connector ∈ (after (history ++ [change])).active) :
    Began (history ++ [change]) connector place where
  absent := by
    rw [List.take_append_of_le_length (Nat.le_of_lt hplace)]
    exact h.absent
  tracked later hlater := by
    rcases Nat.lt_or_ge history.length later with hlong | hshort
    · rw [List.take_of_length_le (by simpa using Nat.succ_le_of_lt hlong)]
      exact mem_active_after.mp hnow
    · rw [List.take_append_of_le_length hshort]
      exact h.tracked later hlater

/-- The connectors stand in the order of the places where they began to be tracked. -/
def Ordered (history : List Change) (began : String → Nat) : Prop :=
  (∀ connector ∈ (after history).active,
    began connector < history.length ∧ Began history connector (began connector)) ∧
  (after history).active.Pairwise fun first second => began first < began second

/-- Connectors that go away leave the others in order. -/
theorem Ordered.sublist {began : String → Nat} (h : Ordered history began)
    (hsublist : (after (history ++ [change])).active.Sublist (after history).active) :
    Ordered (history ++ [change]) began := by
  refine ⟨fun connector hmem => ?_, h.2.sublist hsublist⟩
  obtain ⟨hlt, hbegan⟩ := h.1 connector (hsublist.subset hmem)
  exact ⟨by simp only [List.length_append, List.length_singleton]; omega, hbegan.concat hlt hmem⟩

/-- A connector that is new stands at the end, and began to be tracked after the others. -/
theorem Ordered.append {began : String → Nat} (h : Ordered history began)
    (hnew : connector ∉ (after history).active)
    (hactive : (after (history ++ [change])).active = (after history).active ++ [connector]) :
    Ordered (history ++ [change]) (Function.update began connector history.length) := by
  have hne {other : String} (hmem : other ∈ (after history).active) : other ≠ connector :=
    fun heq => hnew (heq ▸ hmem)
  refine ⟨fun other hmem => ?_, ?_⟩
  · have hnow := hmem
    rw [hactive] at hmem
    rcases List.mem_append.mp hmem with hold | hlast
    · obtain ⟨hlt, hbegan⟩ := h.1 other hold
      rw [Function.update_of_ne (hne hold)]
      exact ⟨by simp only [List.length_append, List.length_singleton]; omega,
        hbegan.concat hlt hnow⟩
    · rw [List.mem_singleton] at hlast
      subst hlast
      rw [Function.update_self]
      exact ⟨by simp, began_concat_new hnew hnow⟩
  · rw [hactive, List.pairwise_append]
    refine ⟨h.2.imp_of_mem fun hfirst hsecond hlt => ?_, List.pairwise_singleton _ _,
      fun first hfirst second hsecond => ?_⟩
    · rwa [Function.update_of_ne (hne hfirst), Function.update_of_ne (hne hsecond)]
    · rw [List.mem_singleton.mp hsecond, Function.update_of_ne (hne hfirst), Function.update_self]
      exact (h.1 first hfirst).1

/-- A single change keeps the connectors in order. -/
theorem Ordered.step {began : String → Nat} (h : Ordered history began) (change : Change) :
    ∃ began, Ordered (history ++ [change]) began := by
  cases change with
  | added edge =>
    have hactive : (after (history ++ [.added edge])).active =
        Entries.keys (Entries.set edge.connector edge (after history).edges) := by
      rw [after_concat, Change.apply, active, edges_add]
    by_cases hmem : edge.connector ∈ (after history).active
    · rw [Entries.keys_set_of_mem hmem] at hactive
      exact ⟨began, h.sublist (by rw [hactive]; exact List.Sublist.refl _)⟩
    · refine ⟨_, h.append hmem ?_⟩
      rw [hactive, Entries.set_of_not_mem hmem, Entries.keys, List.map_append]
      rfl
  | removed connector =>
    refine ⟨began, h.sublist ?_⟩
    rw [after_concat, Change.apply, active, edges_remove, Entries.keys_erase]
    exact List.filter_sublist
  | cleared =>
    refine ⟨began, h.sublist ?_⟩
    rw [after_concat]
    exact List.nil_sublist _

theorem exists_ordered (history : List Change) : ∃ began, Ordered history began := by
  induction history using List.reverseRecOn with
  | nil => exact ⟨fun _ => 0, nofun, List.Pairwise.nil⟩
  | append_singleton history change ih =>
    obtain ⟨began, hordered⟩ := ih
    exact hordered.step change

/-- After any changes, the connectors that are tracked are those that have a latest edge, each once
and in the order in which tracking began, and the nodes that are watched are the ends of the latest
edges. -/
theorem watched_and_active_after (history : List Change) :
    let listeners := after history
    (∀ node, listeners.isWatched node = true ↔
      ∃ connector edge, Latest history connector edge ∧ edge.Touches node) ∧
    (∀ connector, connector ∈ listeners.active ↔ ∃ edge, Latest history connector edge) ∧
    listeners.active.Nodup ∧
    ∃ began : String → Nat,
      (∀ connector ∈ listeners.active, Began history connector (began connector)) ∧
      listeners.active.Pairwise fun first second => began first < began second := by
  intro listeners
  obtain ⟨began, hbegan, hordered⟩ := exists_ordered history
  refine ⟨fun node => ?_, fun connector => mem_active_after, (after_sound history).distinct, began,
    fun connector hmem => (hbegan connector hmem).2, hordered⟩
  rw [(after_sound history).watched node]
  exact exists₂_congr fun connector edge => and_congr_left' find?_after

/-- A connector that moves keeps its place, and one that comes back does not. -/
example :
    let history : List Change := [.added ⟨"c", "a", "b", ""⟩, .added ⟨"d", "b", "b", ""⟩,
      .added ⟨"c", "a", "e", ""⟩, .added ⟨"f", "a", "e", ""⟩, .removed "d",
      .added ⟨"d", "e", "g", ""⟩]
    (after history).active = ["c", "f", "d"] ∧ (after history).isWatched "b" = false := by
  decide

end Listeners

end Canvasflow.Connector
