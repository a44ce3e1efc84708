import Canvasflow.Proofs.Data.Json
import Canvasflow.Settings
import Mathlib

/-!
# Settings out of any text

`Tunable` names the tunables one by one, and `Settings.get` reads them. `load_any_text` says what
becomes of every text. Settings are loaded from a record whose sections are records, each tunable
with the value that its section gives it or else its default; from all other records none are. Other
values, and texts that are malformed, mostly give the defaults, but not where a section is looked
for in a value that is no sequence or is taken to be there in one that is, and not where a text
nests too deeply. Of the names that are no tunables, that of a section's table replaces the section.
-/

namespace Canvasflow

/-- The tunables, one by one. -/
inductive Tunable where
  | frameInterval
  | maxDelta
  | maxCascadeDepth
  | maxProgramSteps
  | connectorType
  | groupType
  | clickTargetTypes
  | closedShapeTypes
  | okColor
  | errorColor
  | cellSize

namespace Tunable

/-- The section that a tunable belongs to. -/
def part : Tunable → String
  | frameInterval | maxDelta => "timing"
  | maxCascadeDepth | maxProgramSteps | connectorType | groupType | clickTargetTypes
  | closedShapeTypes | okColor | errorColor => "propagation"
  | cellSize => "spatial"

/-- The name of a tunable in its section. -/
def name : Tunable → String
  | frameInterval => "frame_interval_ms"
  | maxDelta => "max_delta_ms"
  | maxCascadeDepth => "max_cascade_depth"
  | maxProgramSteps => "max_program_steps"
  | connectorType => "connector_type"
  | groupType => "group_type"
  | clickTargetTypes => "click_target_types"
  | closedShapeTypes => "closed_shape_types"
  | okColor => "ok_color"
  | errorColor => "error_color"
  | cellSize => "cell_size"

theorem part_mem_parts (tunable : Tunable) : tunable.part ∈ Settings.parts := by
  cases tunable <;> decide

end Tunable

namespace Settings

/-- What settings have for a tunable, unless it is missing. -/
def get (settings : Settings) : Tunable → Option Data
  | .frameInterval => some settings.frameInterval
  | .maxDelta => some settings.maxDelta
  | .maxCascadeDepth => some settings.maxCascadeDepth
  | .maxProgramSteps => some settings.maxProgramSteps
  | .connectorType => some settings.connectorType
  | .groupType => some settings.groupType
  | .clickTargetTypes => settings.clickTargetTypes
  | .closedShapeTypes => settings.closedShapeTypes
  | .okColor => some settings.okColor
  | .errorColor => some settings.errorColor
  | .cellSize => some settings.cellSize

end Settings

/-- What a tunable is when the table of its section is replaced by one without it. -/
def Tunable.fallback : Tunable → Option Data
  | .clickTargetTypes | .closedShapeTypes => none
  | tunable => Settings.defaults.get tunable

namespace Settings

variable {settings next : Settings} {part key : String} {value data : Data} {tunable : Tunable}
  {fields entries : Entries Data}

/-! ## What is set -/

/-- A write is seen at the tunable of its section and name and nowhere else. -/
theorem get_put (settings : Settings) (part key : String) (value : Data) (tunable : Tunable) :
    (settings.put part key value).get tunable =
      if part = tunable.part ∧ key = tunable.name then (settings.get tunable).map fun _ => value
      else settings.get tunable := by
  unfold put
  split
  case h_12 =>
    refine (if_neg ?_).symm
    rintro ⟨rfl, rfl⟩
    cases tunable <;> simp_all [Tunable.part, Tunable.name]
  all_goals cases tunable <;> simp [get, Tunable.part, Tunable.name]

/-- A table is seen at all tunables of its section and nowhere else. -/
theorem get_replace (settings : Settings) (part : String) (table : Entries Data)
    (tunable : Tunable) :
    (settings.replace part table).get tunable =
      if part = tunable.part then (Entries.find? tunable.name table).or tunable.fallback
      else settings.get tunable := by
  unfold replace
  split
  case h_4 =>
    refine (if_neg ?_).symm
    rintro rfl
    cases tunable <;> simp_all [Tunable.part]
  all_goals cases tunable <;> simp [get, Tunable.part, Tunable.name, Tunable.fallback]

/-! ## What can be set -/

/-- Whether a value can be set under a name. -/
def Assignable (entry : String × Data) : Prop :=
  entry.1 ≠ kindName ∧ entry.1 ≠ referenceName ∧
    (entry.1 = tableName → ∃ table, entry.2 = .record table)

/-- A table that is set replaces the one that is there. -/
theorem assign_table (settings : Settings) (part : String) (table : Entries Data) :
    settings.assign part tableName (.record table) = .ok (settings.replace part table) := rfl

/-- Under all names but that of the table, what can be set is put. -/
theorem assign_eq_ok_iff (hkey : key ≠ tableName) :
    settings.assign part key value = .ok next ↔
      Assignable (key, value) ∧ settings.put part key value = next := by
  unfold assign
  rw [if_neg hkey]
  by_cases hkind : key = kindName
  · simp [Assignable, hkind]
  · by_cases hreference : key = referenceName
    · have hname : referenceName ≠ kindName := by decide
      simp [Assignable, hreference, hname]
    · simp [Assignable, hkey, hkind, hreference]

/-- Whether a value can be set does not depend on the settings. -/
theorem assign_ok_iff (settings : Settings) (part : String) (entry : String × Data) :
    (∃ next, settings.assign part entry.1 entry.2 = .ok next) ↔ Assignable entry := by
  obtain ⟨key, value⟩ := entry
  by_cases hkey : key = tableName
  · subst hkey
    have hnames : tableName ≠ kindName ∧ tableName ≠ referenceName := by decide
    cases value <;> simp [assign, Assignable, hnames]
  · simp [assign_eq_ok_iff hkey]

theorem assignAll_ok_iff (settings : Settings) (part : String) (entries : Entries Data) :
    (∃ next, settings.assignAll part entries = .ok next) ↔ ∀ entry ∈ entries, Assignable entry :=
  foldlM_eq_ok_iff (fun settings entry => assign_ok_iff settings part entry) entries settings

/-- What is set in a section leaves the tunables of the others. -/
theorem get_assign_of_ne (hpart : part ≠ tunable.part)
    (h : settings.assign part key value = .ok next) : next.get tunable = settings.get tunable := by
  by_cases hkey : key = tableName
  · subst hkey
    cases value with
    | record table =>
      cases h
      rw [get_replace, if_neg hpart]
    | null | bool | num | str | list => cases h
  · obtain ⟨-, rfl⟩ := (assign_eq_ok_iff hkey).mp h
    rw [get_put, if_neg fun hboth => hpart hboth.1]

theorem get_assignAll_of_ne (hpart : part ≠ tunable.part)
    (h : settings.assignAll part entries = .ok next) : next.get tunable = settings.get tunable := by
  induction entries generalizing settings with
  | nil =>
    cases h
    rfl
  | cons entry rest ih =>
    obtain ⟨middle, hentry, hrest⟩ := bind_eq_ok_iff.mp h
    exact (ih hrest).trans (get_assign_of_ne hpart hentry)

/-- Without a new table a tunable of the section has the value under its name, or keeps its own. -/
theorem get_assignAll (hkeys : (Entries.keys entries).Nodup)
    (htable : tableName ∉ Entries.keys entries)
    (h : settings.assignAll tunable.part entries = .ok next) :
    next.get tunable =
      (settings.get tunable).map fun usual => (Entries.find? tunable.name entries).getD usual := by
  induction entries generalizing settings with
  | nil =>
    cases h
    simp
  | cons entry rest ih =>
    obtain ⟨key, value⟩ := entry
    obtain ⟨hfresh, hkeys⟩ := List.nodup_cons.mp hkeys
    obtain ⟨hkey, htable⟩ := List.ne_and_not_mem_of_not_mem_cons htable
    obtain ⟨middle, hentry, hrest⟩ := bind_eq_ok_iff.mp h
    obtain ⟨-, rfl⟩ := (assign_eq_ok_iff (Ne.symm hkey)).mp hentry
    rw [ih hkeys htable hrest, get_put]
    by_cases hname : key = tunable.name
    · have habsent : Entries.find? key rest = none := Entries.find?_eq_none_iff.mpr hfresh
      subst hname
      simp [Entries.find?, habsent, Function.comp_def]
    · simp [Entries.find?, hname]

/-- With a new table a tunable of the section has the value under its name behind the table, if the
table does not make it missing, or what the table gives it. -/
theorem get_assignAll_table {earlier table later : Entries Data}
    (hkeys : (Entries.keys (earlier ++ (tableName, .record table) :: later)).Nodup)
    (h : settings.assignAll tunable.part (earlier ++ (tableName, .record table) :: later) =
      .ok next) :
    next.get tunable =
      ((Entries.find? tunable.name table).or tunable.fallback).map fun usual =>
        (Entries.find? tunable.name later).getD usual := by
  rw [assignAll, List.foldlM_append, bind_eq_ok_iff] at h
  obtain ⟨before, -, h⟩ := h
  rw [List.foldlM_cons, assign_table, bind_eq_ok_iff] at h
  obtain ⟨replaced, hreplaced, hlater⟩ := h
  cases hreplaced
  rw [Entries.keys, List.map_append, List.map_cons] at hkeys
  obtain ⟨hfresh, hlaterKeys⟩ := List.nodup_cons.mp (List.nodup_append.mp hkeys).2.1
  rw [get_assignAll hlaterKeys hfresh hlater, get_replace, if_pos rfl]

/-! ## Sections -/

/-- Whether what stands for a section can be taken over. -/
def Readable : Data → Prop
  | .record entries => ∀ entry ∈ entries, Assignable entry
  | .null | .bool _ | .num _ | .str _ | .list _ => False

/-- Whether a section cannot be taken over from a value: a record has something unreadable for it, a
list or a text only names it, and all other values cannot be asked for it. -/
def Misread (part : String) : Data → Prop
  | .record fields => ∃ found, Entries.find? part fields = some found ∧ ¬ Readable found
  | .list items => .str part ∈ items
  | .str text => part.toList <:+: text.toList
  | .null | .bool _ | .num _ => True

/-- A text names every part of it. -/
theorem occursIn_iff {part text : List Char} : occursIn part text = true ↔ part <:+: text := by
  induction text with
  | nil => simp [occursIn]
  | cons c rest ih =>
    rw [occursIn, Bool.or_eq_true, List.isPrefixOf_iff_prefix, ih, List.infix_cons_iff]

/-- A list names its texts. -/
theorem namedIn_iff {items : List Data} :
    (items.any fun item => item.text? == some part) = true ↔ .str part ∈ items := by
  rw [List.any_eq_true]
  constructor
  · rintro ⟨item, hitem, htext⟩
    cases item with
    | str text =>
      cases eq_of_beq htext
      exact hitem
    | null | bool | num | list | record => cases eq_of_beq htext
  · exact fun hitem => ⟨_, hitem, beq_self_eq_true (some part)⟩

/-- Whether a section can be taken over does not depend on the settings. -/
theorem takeSection_ok_iff (data : Data) (settings : Settings) (part : String) :
    (∃ next, takeSection data settings part = .ok next) ↔ ¬ Misread part data := by
  rw [takeSection, Misread.eq_def]
  simp only [bind_eq_ok_iff]
  cases data with
  | null | bool | num => simp [partOf?]
  | str text =>
    by_cases hnamed : part.toList <:+: text.toList <;>
      simp [partOf?, occursIn_iff, hnamed, pure, Except.pure]
  | list items =>
    by_cases hnamed : .str part ∈ items <;>
      simp [partOf?, namedIn_iff, hnamed, pure, Except.pure, -List.any_eq_true]
  | record fields =>
    cases hfound : Entries.find? part fields with
    | none => simp [partOf?, hfound, pure, Except.pure]
    | some found =>
      cases found with
      | record entries => simp [partOf?, hfound, Readable, assignAll_ok_iff]
      | null | bool | num | str | list => simp [partOf?, hfound, Readable]

theorem ofData_ok_iff (data : Data) :
    (∃ settings, ofData data = .ok settings) ↔ ∀ part ∈ parts, ¬ Misread part data :=
  foldlM_eq_ok_iff (takeSection_ok_iff data) parts defaults

/-- From a value that is no record nothing is taken over. -/
theorem takeSection_of_not_record (hdata : ∀ fields, data ≠ .record fields)
    (h : takeSection data settings part = .ok next) : next = settings := by
  obtain ⟨found?, hfound, h⟩ := bind_eq_ok_iff.mp h
  have hnone : found? = none := by
    cases data with
    | record fields => exact absurd rfl (hdata fields)
    | list | str =>
      simp only [partOf?] at hfound
      split at hfound <;> cases hfound
      rfl
    | null | bool | num => cases hfound
  subst hnone
  cases h
  rfl

theorem ofData_of_not_record (hdata : ∀ fields, data ≠ .record fields)
    (h : ofData data = .ok settings) : settings = defaults := by
  obtain ⟨first, hfirst, h⟩ := bind_eq_ok_iff.mp h
  obtain ⟨second, hsecond, h⟩ := bind_eq_ok_iff.mp h
  obtain ⟨third, hthird, h⟩ := bind_eq_ok_iff.mp h
  cases h
  rw [takeSection_of_not_record hdata hthird, takeSection_of_not_record hdata hsecond,
    takeSection_of_not_record hdata hfirst]

/-- What a tunable is when settings are loaded from a record: its default without its section, the
value under its name in the section, and what a new table in the section makes of it. -/
inductive Given (fields : Entries Data) (tunable : Tunable) : Option Data → Prop
  | absent (hpart : Entries.find? tunable.part fields = none) :
    Given fields tunable (defaults.get tunable)
  | named {entries : Entries Data}
    (hpart : Entries.find? tunable.part fields = some (.record entries))
    (htable : tableName ∉ Entries.keys entries) :
    Given fields tunable ((Entries.find? tunable.name entries).or (defaults.get tunable))
  | table {earlier table later : Entries Data}
    (hpart : Entries.find? tunable.part fields =
      some (.record (earlier ++ (tableName, .record table) :: later))) :
    Given fields tunable (((Entries.find? tunable.name table).or tunable.fallback).map fun usual =>
      (Entries.find? tunable.name later).getD usual)

theorem get_takeSection_of_ne (hpart : part ≠ tunable.part)
    (h : takeSection (.record fields) settings part = .ok next) :
    next.get tunable = settings.get tunable := by
  obtain ⟨found?, hfound, h⟩ := bind_eq_ok_iff.mp h
  cases hfound
  split at h
  · cases h
    rfl
  · exact get_assignAll_of_ne hpart h
  · cases h

theorem given_takeSection (hfields : (Data.record fields).Plain)
    (hdefault : settings.get tunable = defaults.get tunable)
    (h : takeSection (.record fields) settings tunable.part = .ok next) :
    Given fields tunable (next.get tunable) := by
  obtain ⟨found?, hfound, h⟩ := bind_eq_ok_iff.mp h
  cases hfound
  split at h
  · rename_i hpart
    cases h
    exact hdefault ▸ .absent hpart
  · rename_i entries hpart
    have hkeys : (Entries.keys entries).Nodup :=
      (Data.plainFields_iff.mp hfields.2 _ (Entries.mem_of_find? hpart)).1
    by_cases htable : tableName ∈ Entries.keys entries
    · obtain ⟨⟨_, value⟩, hentry, rfl⟩ := List.mem_map.mp htable
      obtain ⟨-, -, hrecord⟩ := (assignAll_ok_iff settings _ entries).mp ⟨next, h⟩ _ hentry
      obtain ⟨table, rfl⟩ := hrecord rfl
      obtain ⟨earlier, later, rfl⟩ := List.append_of_mem hentry
      rw [get_assignAll_table hkeys h]
      exact .table hpart
    · obtain ⟨usual, husual⟩ : ∃ usual, defaults.get tunable = some usual := by
        cases tunable <;> exact ⟨_, rfl⟩
      have hget : next.get tunable =
          (Entries.find? tunable.name entries).or (defaults.get tunable) := by
        rw [get_assignAll hkeys htable h, hdefault, husual]
        cases Entries.find? tunable.name entries <;> rfl
      rw [hget]
      exact .named hpart htable
  · cases h

theorem get_takeSections_of_not_mem {wanted : List String} (hwanted : tunable.part ∉ wanted)
    (h : wanted.foldlM (takeSection (.record fields)) settings = .ok next) :
    next.get tunable = settings.get tunable := by
  induction wanted generalizing settings with
  | nil =>
    cases h
    rfl
  | cons part rest ih =>
    obtain ⟨hpart, hrest⟩ := List.ne_and_not_mem_of_not_mem_cons hwanted
    obtain ⟨middle, hfirst, hlater⟩ := bind_eq_ok_iff.mp h
    exact (ih hrest hlater).trans (get_takeSection_of_ne (Ne.symm hpart) hfirst)

/-- From a record every tunable is taken over from its own section. -/
theorem given_ofData (hfields : (Data.record fields).Plain)
    (h : ofData (.record fields) = .ok settings) (tunable : Tunable) :
    Given fields tunable (settings.get tunable) := by
  have hparts : parts.Nodup := by decide
  obtain ⟨earlier, later, hsplit⟩ := List.append_of_mem tunable.part_mem_parts
  rw [hsplit] at hparts
  obtain ⟨-, hpart, hdisjoint⟩ := List.nodup_append.mp hparts
  rw [ofData, hsplit, List.foldlM_append, bind_eq_ok_iff] at h
  obtain ⟨before, hbefore, h⟩ := h
  rw [List.foldlM_cons, bind_eq_ok_iff] at h
  obtain ⟨taken, htaken, hlater⟩ := h
  have hfresh : tunable.part ∉ earlier :=
    fun hmem => hdisjoint _ hmem _ List.mem_cons_self rfl
  rw [get_takeSections_of_not_mem (List.nodup_cons.mp hpart).1 hlater]
  exact given_takeSection hfields (get_takeSections_of_not_mem hfresh hbefore) htaken

/-! ## Texts -/

/-- What becomes of a text. Settings are loaded from it unless it nests too deeply or is read as a
value from which a section cannot be taken over. They are the defaults if it cannot be read or is
not read as a record, and what the record gives otherwise. -/
theorem load_any_text (text : String) :
    ((∃ fault, load (some text) = .error fault) ↔
        Json.read text = .error .nestedTooDeeply ∨
          ∃ data, Json.read text = .ok data ∧ ∃ part ∈ parts, Misread part data) ∧
      ∀ settings, load (some text) = .ok settings →
        match Json.read text with
        | .ok (.record fields) => ∀ tunable, Given fields tunable (settings.get tunable)
        | _ => settings = defaults := by
  rw [load]
  cases hread : Json.read text with
  | error fault =>
    cases fault with
    | nestedTooDeeply => simp
    | malformed | integerTooLong => simp [eq_comm]
  | ok data =>
    have hfails : (∃ fault, ofData data = .error fault) ↔ ∃ part ∈ parts, Misread part data := by
      have hok := not_congr (ofData_ok_iff data)
      push Not at hok
      rw [← hok]
      cases ofData data <;> simp
    refine ⟨by simpa using hfails, fun settings hload => ?_⟩
    have hplain := Json.plain_of_read hread
    cases data with
    | record fields => exact given_ofData hplain hload
    | null | bool | num | str | list => exact ofData_of_not_record (by simp) hload

/-- A text that gives one tunable, beside a name that is not known, is loaded. A text with a list for
a section is not. -/
theorem load_any_text_of_connector :
    let settings := { defaults with connectorType := .str "line" }
    load (some "\x7b\"propagation\": \x7b\"connector_type\": \"line\", \"speed\": []\x7d\x7d") =
        .ok settings ∧
      (∀ tunable, Given [("propagation", .record [("connector_type", .str "line"),
        ("speed", .list [])])] tunable (settings.get tunable)) ∧
      ∃ fault, load (some "\x7b\"timing\": []\x7d") = .error fault := by
  intro settings
  have hlisted : Json.read "\x7b\"timing\": []\x7d" = .ok (.record [("timing", .list [])]) := by cbv
  have hread : Json.read
      "\x7b\"propagation\": \x7b\"connector_type\": \"line\", \"speed\": []\x7d\x7d" =
      .ok (.record [("propagation", .record [("connector_type", .str "line"),
        ("speed", .list [])])]) := by cbv
  -- as variables the texts are not read again
  generalize "\x7b\"propagation\": \x7b\"connector_type\": \"line\", \"speed\": []\x7d\x7d" = text
    at hread ⊢
  generalize "\x7b\"timing\": []\x7d" = listed at hlisted ⊢
  have hload : load (some text) = .ok settings := by
    simp [settings, load, hread, ofData, parts, takeSection, partOf?, Entries.find?, assignAll,
      assign, put, tableName, kindName, referenceName, bind, Except.bind, pure, Except.pure]
  have hgiven := (load_any_text text).2 settings hload
  rw [hread] at hgiven
  have hmisread : Misread "timing" (.record [("timing", .list [])]) := ⟨.list [], rfl, id⟩
  exact ⟨hload, hgiven, (load_any_text listed).1.mpr (.inr ⟨_, hlisted, _, by decide, hmisread⟩)⟩

end Settings

end Canvasflow
