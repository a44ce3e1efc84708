import Canvasflow.Proofs.Program.LikeOperations

/-!
# Snapshots of like values

Like values are copied as one piece of data, and it may be given to both runs again. So a record is
read back as the same patch from like heaps, or as none from both.
-/

namespace Canvasflow.Program.Likeness

variable {L : Likeness} {heap other : Heap} {a b : Value}

/-- One copy, which may be given to both runs. -/
def Copies (L : Likeness) (data other : Data) : Prop :=
  data = other ∧ L.Admits data

/-- The items of a list are copied one by one. -/
theorem mapItems_agree {copy copy' : Value → Except Failure Data}
    (hcopy : ∀ {a b : Value}, L.Values a b → Agree L.Fails L.Copies (copy a) (copy' b))
    {items others : List Value} (h : List.Forall₂ L.Values items others) :
    Agree L.Fails
      (fun copies copies' => copies = copies' ∧ copies.length = items.length ∧ L.AdmitsAll copies)
      (items.mapM copy) (others.mapM copy') := by
  induction h with
  | nil => exact .ok ⟨rfl, rfl, trivial⟩
  | cons hitem _ ih =>
    rw [List.mapM_cons, List.mapM_cons]
    refine (hcopy hitem).bind ?_
    rintro data _ ⟨rfl, hadmits⟩
    refine ih.bind ?_
    rintro rest _ ⟨rfl, hlength, hrest⟩
    exact .ok ⟨rfl, congrArg Nat.succ hlength, hadmits, hrest⟩

/-- Values are copied under their keys. -/
theorem mapFields_agree {copy copy' : String → Value → Except Failure Data}
    (hcopy : ∀ key {a b : Value}, L.Values a b → Agree L.Fails L.Copies (copy key a) (copy' key b))
    {fields others : Entries Value} (h : L.Fields fields others) :
    Agree L.Fails
      (fun copies copies' => copies = copies' ∧ Entries.keys copies = Entries.keys fields ∧
        L.AdmitsFields copies)
      (fields.mapM fun field => do return (field.1, ← copy field.1 field.2))
      (others.mapM fun field => do return (field.1, ← copy' field.1 field.2)) := by
  induction h with
  | nil => exact .ok ⟨rfl, rfl, trivial⟩
  | @cons field other _ _ hfield _ ih =>
    obtain ⟨key, value⟩ := field
    obtain ⟨key', value'⟩ := other
    obtain ⟨rfl, hvalue⟩ := hfield
    rw [List.mapM_cons, List.mapM_cons]
    refine Agree.bind (R := fun copied copied' => copied = copied' ∧ copied.1 = key ∧
      L.Admits copied.2) ((hcopy key hvalue).bind ?_) ?_
    · rintro data _ ⟨rfl, hadmits⟩
      exact .ok ⟨rfl, rfl, hadmits⟩
    · rintro ⟨copied, data⟩ _ ⟨rfl, rfl, hadmits⟩
      refine ih.bind ?_
      rintro rest _ ⟨rfl, hkeys, hrest⟩
      exact .ok ⟨rfl, congrArg (copied :: ·) hkeys, hadmits, hrest⟩

/-- Anything but a list or a record is copied without room, or refused. -/
theorem plainWithin_of_flat (hL : L.Lawful) (key : String) (room : Nat) (h : L.Values a b)
    (hlist : ∀ place, a ≠ .list place) (hrecord : ∀ place, a ≠ .record place) :
    Agree L.Fails L.Copies (plainWithin heap key room a) (plainWithin other key room b) := by
  cases h with
  | list place => exact absurd rfl (hlist place)
  | record place => exact absurd rfl (hrecord place)
  | null | bool =>
    simp only [plainWithin]
    exact .ok ⟨rfl, trivial⟩
  | num h =>
    simp only [plainWithin]
    obtain ⟨hsame, hsettled⟩ := hL.settle h
    exact .ok ⟨congrArg Data.num hsame, hsettled⟩
  | str h =>
    simp only [plainWithin]
    exact .ok ⟨rfl, h⟩
  | _ =>
    simp only [plainWithin, Builtin.value]
    exact hL.fault _ _

theorem plainWithin_agree (hL : L.Lawful) (hheap : L.Heaps heap other) (key : String) (room : Nat)
    (h : L.Values a b) :
    Agree L.Fails L.Copies (plainWithin heap key room a) (plainWithin other key room b) := by
  induction room generalizing a b with
  | zero =>
    cases h with
    | list | record => exact .error ⟨hL.tooDeep, hL.tooDeep⟩
    | _ => exact plainWithin_of_flat hL key 0 (by constructor <;> assumption) nofun nofun
  | succ room ih =>
    cases h with
    | list place =>
      obtain ⟨hsize, hitems⟩ := hheap.items hL place
      refine (mapItems_agree ih hitems).bind ?_
      rintro copies _ ⟨rfl, hlength, hall⟩
      exact .ok ⟨rfl, by simpa [hlength] using hsize, hall⟩
    | record place =>
      obtain ⟨hkeys, hfields⟩ := hheap.fields hL place
      refine (mapFields_agree (fun _ => ih) hfields).bind ?_
      rintro copies _ ⟨rfl, hsame, hall⟩
      exact .ok ⟨rfl, by rwa [hsame], hall⟩
    | _ => exact plainWithin_of_flat hL key _ (by constructor <;> assumption) nofun nofun

theorem coordinate_agree (hL : L.Lawful) (hheap : L.Heaps heap other) (key : String)
    (h : L.Values a b) :
    Agree L.Fails Eq (coordinate heap key a) (coordinate other key b) := by
  have hrest (number : Float) : Agree L.Fails Eq
      (if number.isFinite then (return number)
        else do fault (.notFinite key (← a.text heap)) : Except Failure Float)
      (if number.isFinite then (return number)
        else do fault (.notFinite key (← b.text other))) := by
    split
    · exact .ok rfl
    · exact (h.text hL hheap).bind fun _ _ _ => hL.fault _ _
  have hnumber := h.toNumber hL
  cases h with
  | bool | num | str =>
    refine hnumber.bind ?_
    rintro number _ rfl
    exact hrest number
  | _ => exact hrest Double.notANumber

section Parts

variable {fields others : Entries Value}

theorem present?_agree (h : L.Fields fields others) (key : String) :
    Option.Rel L.Values (present? key fields) (present? key others) := by
  have hfind := h.find? key
  unfold present?
  generalize Entries.find? key fields = found, Entries.find? key others = found' at hfind ⊢
  cases hfind with
  | none => exact .none
  | some hvalue => cases hvalue with
    | null => exact .none
    | _ => exact .some (by constructor <;> assumption)

/-- An optional copy, which may be given to both runs. -/
def OptionalCopies (L : Likeness) (data other : Option Data) : Prop :=
  data = other ∧ ∀ copy ∈ data, L.Admits copy

theorem coordinate?_agree (hL : L.Lawful) (hheap : L.Heaps heap other) (key : String)
    (h : L.Fields fields others) :
    Agree L.Fails L.OptionalCopies (coordinate? heap key fields)
      (coordinate? other key others) := by
  have hpresent := present?_agree h key
  unfold coordinate?
  generalize present? key fields = found, present? key others = found' at hpresent ⊢
  cases hpresent with
  | none => exact .ok ⟨rfl, nofun⟩
  | some hvalue =>
    refine (coordinate_agree hL hheap key hvalue).bind ?_
    rintro x _ rfl
    refine .ok ⟨rfl, ?_⟩
    rintro _ ⟨⟩
    exact hL.double x

theorem typeName?_agree (hL : L.Lawful) (hheap : L.Heaps heap other)
    (h : L.Fields fields others) :
    Agree L.Fails (fun name name' => name = name' ∧ ∀ text ∈ name, L.text text)
      (typeName? heap fields) (typeName? other others) := by
  have hpresent := present?_agree h "type"
  unfold typeName?
  generalize present? "type" fields = found, present? "type" others = found' at hpresent ⊢
  cases hpresent with
  | none => exact .ok ⟨rfl, nofun⟩
  | some hvalue =>
    refine (hvalue.text hL hheap).bind ?_
    rintro text _ ⟨rfl, htext⟩
    refine .ok ⟨rfl, ?_⟩
    rintro _ ⟨⟩
    exact htext

theorem identity_agree (hL : L.Lawful) (h : L.Fields fields others) :
    Agree L.Fails L.Texts (identity fields) (identity others) := by
  have hfind := h.find? "id"
  unfold identity
  generalize Entries.find? "id" fields = found, Entries.find? "id" others = found' at hfind ⊢
  cases hfind with
  | none => exact hL.fault _ _
  | some hvalue => cases hvalue with
    | str htext =>
      dsimp only
      split
      · exact hL.fault _ _
      · exact .ok ⟨rfl, htext⟩
    | _ => exact hL.fault _ _

theorem metadata?_agree (hL : L.Lawful) (hheap : L.Heaps heap other) (room : Nat)
    (h : L.Fields fields others) :
    Agree L.Fails L.OptionalCopies (metadata? room heap fields) (metadata? room other others) := by
  have hpresent := present?_agree h "m"
  unfold metadata?
  generalize present? "m" fields = found, present? "m" others = found' at hpresent ⊢
  cases hpresent with
  | none => exact .ok ⟨rfl, nofun⟩
  | some hvalue => cases hvalue with
    | record place =>
      refine (plainWithin_agree hL hheap "m" room (.record place)).bind ?_
      rintro data _ ⟨rfl, hadmits⟩
      refine .ok ⟨rfl, ?_⟩
      rintro _ ⟨⟩
      exact hadmits
    | _ => exact hL.fault _ _

theorem AdmitsFields.set {fields : Entries Data} (h : L.AdmitsFields fields) (key : String)
    {data : Data} (hdata : L.Admits data) : L.AdmitsFields (Entries.set key data fields) := by
  induction fields with
  | nil => exact ⟨hdata, trivial⟩
  | cons field rest ih =>
    obtain ⟨k, old⟩ := field
    simp only [Entries.set]
    split
    · exact ⟨hdata, h.2⟩
    · exact ⟨h.1, ih h.2⟩

theorem AdmitsFields.append {fields others : List (String × Data)} (h : L.AdmitsFields fields)
    (hothers : L.AdmitsFields others) : L.AdmitsFields (fields ++ others) := by
  induction fields with
  | nil => exact hothers
  | cons field rest ih => exact ⟨h.1, ih h.2⟩

theorem Fields.filter (h : L.Fields fields others) (keep : String → Bool) :
    L.Fields (fields.filter fun field => keep field.1)
      (others.filter fun field => keep field.1) := by
  induction h with
  | nil => exact .nil
  | @cons field other _ _ hfield _ ih =>
    rw [List.filter_cons, List.filter_cons, hfield.1]
    split
    · exact .cons hfield ih
    · exact ih

/-- Properties are copied under permitted keys. -/
theorem properties_agree (hL : L.Lawful) (hheap : L.Heaps heap other) (room : Nat)
    (hkeys : L.keys (Entries.keys fields)) (h : L.Fields fields others) :
    Agree L.Fails
      (fun props props' => props = props' ∧ L.keys (Entries.keys props) ∧ L.AdmitsFields props)
      (properties room heap fields) (properties room other others) := by
  have hpresent := present?_agree h "text"
  refine (mapFields_agree (fun key => plainWithin_agree hL hheap key room)
    (h.filter fun key => !reservedKeys.contains key)).bind ?_
  rintro props _ ⟨rfl, hsame, hadmits⟩
  have hdropped : L.keys (Entries.keys props) := by
    rw [hsame]
    exact hL.drop hkeys (List.filter_sublist.map _)
  -- a text is not copied like the other properties: it is written out
  generalize present? "text" fields = found, present? "text" others = found' at hpresent ⊢
  cases hpresent with
  | none => exact .ok ⟨rfl, hdropped, hadmits⟩
  | some hvalue =>
    refine (hvalue.text hL hheap).bind ?_
    rintro text _ ⟨rfl, htext⟩
    exact .ok ⟨rfl, hL.keyed.set hdropped (hL.short (by decide)) _, hadmits.set "text" htext⟩

end Parts

/-- A part of a record that may be left out. -/
def optionalField (key : String) (value : Option Data) : List (String × Data) :=
  match value with
  | some data => [(key, data)]
  | none => []

theorem keys_optionalField (key : String) (value : Option Data) :
    (Entries.keys (optionalField key value)).Sublist [key] := by
  cases value with
  | none => exact List.nil_sublist _
  | some data => exact List.Sublist.refl _

theorem AdmitsFields.optionalField {key : String} {value : Option Data}
    (h : ∀ data ∈ value, L.Admits data) : L.AdmitsFields (optionalField key value) := by
  cases value with
  | none => trivial
  | some data => exact ⟨h data rfl, trivial⟩

/-- A patch whose parts may be given to both runs may be given as a record. -/
theorem Admits.patch (hL : L.Lawful) {patch : Page.Patch} (hid : L.text patch.id)
    (htype : ∀ text ∈ patch.type?, L.text text) (hx : ∀ data ∈ patch.x?, L.Admits data)
    (hy : ∀ data ∈ patch.y?, L.Admits data) (hrotation : ∀ data ∈ patch.rotation?, L.Admits data)
    (hprops : ∀ data ∈ patch.props?, L.Admits data)
    (hmetadata : ∀ data ∈ patch.metadata?, L.Admits data) : L.Admits patch.toData := by
  change L.keys (Entries.keys ([("id", .str patch.id)] ++
      optionalField "type" (patch.type?.map Data.str) ++ optionalField "x" patch.x? ++
      optionalField "y" patch.y? ++ optionalField "rotation" patch.rotation? ++
      optionalField "props" patch.props? ++ optionalField "meta" patch.metadata?)) ∧
    L.AdmitsFields ([("id", .str patch.id)] ++
      optionalField "type" (patch.type?.map Data.str) ++ optionalField "x" patch.x? ++
      optionalField "y" patch.y? ++ optionalField "rotation" patch.rotation? ++
      optionalField "props" patch.props? ++ optionalField "meta" patch.metadata?)
  have hall : L.keys ["id", "type", "x", "y", "rotation", "props", "meta"] := by
    refine hL.of_nodup (by decide) fun key hkey => hL.short ?_
    revert key
    decide
  have htype' : ∀ data ∈ patch.type?.map Data.str, L.Admits data := by
    rintro data hdata
    obtain ⟨text, htext, rfl⟩ := Option.map_eq_some_iff.mp hdata
    exact htype text htext
  constructor
  -- the parts that are there come in one order, so their keys are some of these seven
  · refine hL.drop hall ?_
    simp only [Entries.keys, List.map_append]
    exact ((((((List.Sublist.refl ["id"]).append (keys_optionalField _ _)).append
      (keys_optionalField _ _)).append (keys_optionalField _ _)).append
      (keys_optionalField _ _)).append (keys_optionalField _ _)).append (keys_optionalField _ _)
  · have hfirst : L.AdmitsFields [("id", .str patch.id)] := ⟨hid, trivial⟩
    exact (((((hfirst.append (.optionalField htype')).append
      (.optionalField hx)).append (.optionalField hy)).append (.optionalField hrotation)).append
      (.optionalField hprops)).append (.optionalField hmetadata)

theorem unpackFields_agree (hL : L.Lawful) (hheap : L.Heaps heap other)
    {fields others : Entries Value} (hkeys : L.keys (Entries.keys fields))
    (h : L.Fields fields others) :
    Agree L.Fails (fun patch patch' => patch = patch' ∧ L.Admits patch.toData)
      (unpackFields heap fields) (unpackFields other others) := by
  refine (identity_agree hL h).bind ?_
  rintro id _ ⟨rfl, hid⟩
  refine (typeName?_agree hL hheap h).bind ?_
  rintro type _ ⟨rfl, htype⟩
  refine (coordinate?_agree hL hheap "x" h).bind ?_
  rintro x _ ⟨rfl, hx⟩
  refine (coordinate?_agree hL hheap "y" h).bind ?_
  rintro y _ ⟨rfl, hy⟩
  refine (coordinate?_agree hL hheap "rotation" h).bind ?_
  rintro rotation _ ⟨rfl, hrotation⟩
  refine (properties_agree hL hheap copyRoom hkeys h).bind ?_
  rintro props _ ⟨rfl, hprops⟩
  refine (metadata?_agree hL hheap copyRoom h).bind ?_
  rintro metadata _ ⟨rfl, hmetadata⟩
  refine .ok ⟨rfl, .patch hL hid htype hx hy hrotation ?_ hmetadata⟩
  dsimp only
  split
  · nofun
  · rintro _ ⟨⟩
    exact hprops

theorem unpack_agree (hL : L.Lawful) (hheap : L.Heaps heap other) (h : L.Values a b) :
    Agree L.Fails (fun patch patch' => patch = patch' ∧ L.Admits patch.toData)
      (unpack heap a) (unpack other b) := by
  cases h with
  | record place =>
    obtain ⟨hkeys, hfields⟩ := hheap.fields hL place
    exact unpackFields_agree hL hheap hkeys hfields
  | _ => exact hL.fault _ _

end Canvasflow.Program.Likeness
