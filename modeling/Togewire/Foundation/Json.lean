import Mathlib.Data.List.Basic

/-!
# JSON trees

Objects are lists of fields in the order in which they are visited.  A fold sees every node together
with the results for its children, and a search by key takes the top level first and then the first
field that has the key anywhere below.
-/

/-- A JSON value over numbers of some kind. -/
inductive Json (ν : Type) : Type
  | null
  | bool (value : Bool)
  | number (value : ν)
  | string (text : String)
  | array (items : List (Json ν))
  | object (fields : List (String × Json ν))

namespace Json

variable {ν α : Type}

/-- Induction over trees, with a hypothesis for every child. -/
@[elab_as_elim]
theorem induction {motive : Json ν → Prop} (null : motive null)
    (bool : ∀ value, motive (bool value)) (number : ∀ value, motive (number value))
    (string : ∀ text, motive (string text))
    (array : ∀ items, (∀ item ∈ items, motive item) → motive (array items))
    (object : ∀ fields, (∀ field ∈ fields, motive field.2) → motive (object fields))
    (json : Json ν) : motive json :=
  @Json.rec ν motive (fun items => ∀ item ∈ items, motive item)
    (fun fields => ∀ field ∈ fields, motive field.2) (fun field => motive field.2)
    null bool number string array object nofun
    (fun _ _ head tail => List.forall_mem_cons.mpr ⟨head, tail⟩) nofun
    (fun _ _ head tail => List.forall_mem_cons.mpr ⟨head, tail⟩) (fun _ _ value => value) json

/-! ## Folds -/

mutual

/-- What is made of a node and of the results for its items or fields. -/
def fold (visit : Json ν → List α → List (String × α) → α) : Json ν → α
  | array items => visit (array items) (foldItems visit items) []
  | object fields => visit (object fields) [] (foldFields visit fields)
  | leaf => visit leaf [] []

def foldItems (visit : Json ν → List α → List (String × α) → α) : List (Json ν) → List α
  | [] => []
  | item :: items => fold visit item :: foldItems visit items

def foldFields (visit : Json ν → List α → List (String × α) → α) :
    List (String × Json ν) → List (String × α)
  | [] => []
  | (key, value) :: fields => (key, fold visit value) :: foldFields visit fields

end

variable {visit : Json ν → List α → List (String × α) → α} {items : List (Json ν)}
  {fields : List (String × Json ν)} {key : String} {json : Json ν}

theorem foldItems_eq (items : List (Json ν)) : foldItems visit items = items.map (fold visit) := by
  induction items with
  | nil => rfl
  | cons item items ih => rw [foldItems, ih, List.map_cons]

theorem foldFields_eq (fields : List (String × Json ν)) :
    foldFields visit fields = fields.map fun field => (field.1, fold visit field.2) := by
  induction fields with
  | nil => rfl
  | cons field fields ih => rw [foldFields, ih, List.map_cons]

theorem fold_array :
    fold visit (array items) = visit (array items) (items.map (fold visit)) [] := by
  rw [fold, foldItems_eq]

theorem fold_object :
    fold visit (object fields) =
      visit (object fields) [] (fields.map fun field => (field.1, fold visit field.2)) := by
  rw [fold, foldFields_eq]

theorem lookup_map (result : Json ν → α) (key : String) (fields : List (String × Json ν)) :
    (fields.map fun field => (field.1, result field.2)).lookup key =
      (fields.lookup key).map result := by
  induction fields with
  | nil => rfl
  | cons field fields ih =>
      rw [List.map_cons, List.lookup_cons, List.lookup_cons, ih]
      cases key == field.1 <;> rfl

theorem join_lookup_map (result : Json ν → Option α) (key : String)
    (fields : List (String × Json ν)) :
    ((fields.map fun field => (field.1, result field.2)).lookup key).join =
      (fields.lookup key).bind result := by
  rw [lookup_map]
  cases fields.lookup key <;> rfl

/-! ## Searches by key -/

/-- The value of a field at the top level. -/
def get (key : String) : Json ν → Option (Json ν)
  | object fields => fields.lookup key
  | _ => none

/-- `key` at the top level, else the first match anywhere below. -/
def find (key : String) : Json ν → Option (Json ν) :=
  fold fun value items fields =>
    match value with
    | object map => (map.lookup key).or (fields.findSome? Prod.snd)
    | array _ => items.findSome? id
    | _ => none

theorem find_array : (array items).find key = items.findSome? (find key) := by
  rw [find, fold_array, ← find]
  exact List.findSome?_map

theorem find_object :
    (object fields).find key =
      (fields.lookup key).or (fields.findSome? fun field => field.2.find key) := by
  rw [find, fold_object, ← find]
  change (fields.lookup key).or (List.findSome? Prod.snd (fields.map _)) = _
  rw [List.findSome?_map]
  rfl

/-! ## Texts -/

/-- All strings of a tree but the keys. -/
def texts : Json ν → List String :=
  fold fun value items fields =>
    match value with
    | string text => [text]
    | _ => items.flatten ++ fields.flatMap Prod.snd

theorem texts_array : (array items).texts = items.flatMap texts := by
  rw [texts, fold_array, ← texts]
  simp [List.flatMap_def]

theorem texts_object : (object fields).texts = fields.flatMap fun field => field.2.texts := by
  rw [texts, fold_object, ← texts]
  simp [List.flatMap_def, Function.comp_def]

/-! ## Changes in place -/

/-- Change the first field of a key. -/
def editField (key : String) (change : Json ν → Json ν) :
    List (String × Json ν) → List (String × Json ν)
  | [] => []
  | (name, value) :: fields =>
      if key == name then (name, change value) :: fields
      else (name, value) :: editField key change fields

mutual

/-- Change the value which the search by a key finds. -/
def edit (key : String) (change : Json ν → Json ν) : Json ν → Json ν
  | object fields =>
      if (fields.lookup key).isSome then object (editField key change fields)
      else object (editFields key change fields)
  | array items => array (editItems key change items)
  | leaf => leaf

def editItems (key : String) (change : Json ν → Json ν) : List (Json ν) → List (Json ν)
  | [] => []
  | item :: items =>
      if (item.find key).isSome then edit key change item :: items
      else item :: editItems key change items

def editFields (key : String) (change : Json ν → Json ν) :
    List (String × Json ν) → List (String × Json ν)
  | [] => []
  | (name, value) :: fields =>
      if (value.find key).isSome then (name, edit key change value) :: fields
      else (name, value) :: editFields key change fields

end

variable {change : Json ν → Json ν}

theorem lookup_editField :
    (editField key change fields).lookup key = (fields.lookup key).map change := by
  induction fields with
  | nil => rfl
  | cons field fields ih =>
      obtain ⟨name, value⟩ := field
      cases same : key == name with
      | true => simp only [editField, same, if_true, List.lookup_cons, Option.map_some]
      | false =>
          simpa only [editField, same, Bool.false_eq_true, if_false, List.lookup_cons] using ih

theorem lookup_editFields (absent : fields.lookup key = none) :
    (editFields key change fields).lookup key = none := by
  induction fields with
  | nil => rfl
  | cons field fields ih =>
      obtain ⟨name, value⟩ := field
      cases same : key == name with
      | true => simp only [List.lookup_cons, same, reduceCtorEq] at absent
      | false =>
          simp only [List.lookup_cons, same] at absent
          rw [editFields]
          split
          · simpa only [List.lookup_cons, same] using absent
          · simpa only [List.lookup_cons, same] using ih absent

theorem findSome?_editItems
    (ih : ∀ item ∈ items, (edit key change item).find key = (item.find key).map change) :
    (editItems key change items).findSome? (find key) =
      (items.findSome? (find key)).map change := by
  induction items with
  | nil => rfl
  | cons item items tail =>
      obtain ⟨head, rest⟩ := List.forall_mem_cons.mp ih
      rw [editItems, List.findSome?_cons]
      cases found : item.find key with
      | none => simpa [found] using tail rest
      | some value => simp [head, found]

theorem findSome?_editFields
    (ih : ∀ field ∈ fields, (edit key change field.2).find key = (field.2.find key).map change) :
    (editFields key change fields).findSome? (fun field => field.2.find key) =
      (fields.findSome? fun field => field.2.find key).map change := by
  induction fields with
  | nil => rfl
  | cons field fields tail =>
      obtain ⟨head, rest⟩ := List.forall_mem_cons.mp ih
      rw [editFields, List.findSome?_cons]
      cases found : field.2.find key with
      | none => simpa [found] using tail rest
      | some value => simp [head, found]

/-- The search finds the changed value where it has found the value. -/
theorem find_edit : (json.edit key change).find key = (json.find key).map change := by
  induction json using Json.induction with
  | null | bool | number | string => rfl
  | array items ih => rw [edit, find_array, find_array, findSome?_editItems ih]
  | object fields ih =>
      rw [edit]
      cases top : fields.lookup key with
      | some value => simp [find_object, lookup_editField, top]
      | none => simp [find_object, lookup_editFields top, top, findSome?_editFields ih]

/-! ## Fields out of sight -/

/-- Another value for a field which is hidden. -/
def overwriteField (hidden : String → Bool) (values : String → Json ν) (field : String × Json ν) :
    String × Json ν :=
  if hidden field.1 then (field.1, values field.1) else field

/-- The values of the hidden fields at the top level are replaced. -/
def overwrite (hidden : String → Bool) (values : String → Json ν) : Json ν → Json ν
  | object fields => object (fields.map (overwriteField hidden values))
  | json => json

/-- The fields before the first hidden one. -/
def shown (hidden : String → Bool) (fields : List (String × Json ν)) : List (String × Json ν) :=
  fields.takeWhile fun field => !hidden field.1

/-- The search by a key never comes to a hidden field. -/
def settled (hidden : String → Bool) (key : String) : Json ν → Bool
  | object fields =>
      (fields.lookup key).isSome ||
        (shown hidden fields).any (fun field => (field.2.find key).isSome) ||
          fields.all fun field => !hidden field.1
  | _ => true

variable {hidden : String → Bool} {values others : String → Json ν}

theorem map_overwriteField (visible : ∀ field ∈ fields, hidden field.1 = false) :
    fields.map (overwriteField hidden values) = fields := by
  refine (List.map_congr_left fun field member => ?_).trans (List.map_id fields)
  rw [overwriteField, visible field member]
  rfl

theorem lookup_overwrite (visible : hidden key = false) :
    (fields.map (overwriteField hidden values)).lookup key = fields.lookup key := by
  induction fields with
  | nil => rfl
  | cons field fields ih =>
      obtain ⟨name, value⟩ := field
      rw [List.map_cons, overwriteField]
      cases same : key == name with
      | true =>
          have shows : hidden name = false := (eq_of_beq same) ▸ visible
          simp only [shows, Bool.false_eq_true, if_false, List.lookup_cons, same]
      | false =>
          split
          · simpa only [List.lookup_cons, same] using ih
          · simpa only [List.lookup_cons, same] using ih

/-- A search depends on the hidden fields only by what it finds in them. -/
theorem find_overwrite_congr (visible : hidden key = false)
    (same : ∀ name, hidden name = true → (values name).find key = (others name).find key) :
    (overwrite hidden values json).find key = (overwrite hidden others json).find key := by
  cases json with
  | object fields =>
      rw [overwrite, overwrite, find_object, find_object, lookup_overwrite visible,
        lookup_overwrite visible, List.findSome?_map, List.findSome?_map]
      congr 2
      funext field
      simp only [Function.comp_apply, overwriteField]
      split
      · exact same field.1 (by assumption)
      · rfl
  | _ => rfl

theorem findSome?_overwrite_of_shown
    (before : (shown hidden fields).any (fun field => (field.2.find key).isSome) = true) :
    (fields.map (overwriteField hidden values)).findSome? (fun field => field.2.find key) =
      fields.findSome? fun field => field.2.find key := by
  induction fields with
  | nil => rfl
  | cons field fields ih =>
      cases hides : hidden field.1 with
      | true => simp [shown, hides] at before
      | false =>
          have kept : overwriteField hidden values field = field := by simp [overwriteField, hides]
          rw [List.map_cons, kept, List.findSome?_cons, List.findSome?_cons]
          cases found : field.2.find key with
          | some value => rfl
          | none => exact ih (by simpa [shown, hides, found] using before)

/-- A settled search finds the same whatever the hidden fields are. -/
theorem find_overwrite_of_settled (visible : hidden key = false)
    (settles : json.settled hidden key = true) :
    (overwrite hidden values json).find key = json.find key := by
  cases json with
  | object fields =>
      rw [overwrite, find_object, find_object, lookup_overwrite visible]
      simp only [settled, Bool.or_eq_true] at settles
      obtain (top | before) | none := settles
      · obtain ⟨value, found⟩ := Option.isSome_iff_exists.mp top
        rw [found]
        rfl
      · rw [findSome?_overwrite_of_shown before]
      · have visible : ∀ field ∈ fields, hidden field.1 = false := by simpa using none
        rw [map_overwriteField visible]
  | _ => rfl

theorem findSome?_overwrite_of_unshown {value : Json ν}
    (found : ∀ name, hidden name = true → (values name).find key = some value)
    (before : (shown hidden fields).any (fun field => (field.2.find key).isSome) = false)
    (hides : (fields.all fun field => !hidden field.1) = false) :
    (fields.map (overwriteField hidden values)).findSome? (fun field => field.2.find key) =
      some value := by
  induction fields with
  | nil => cases hides
  | cons field fields ih =>
      cases first : hidden field.1 with
      | true => simp [overwriteField, first, found field.1 first]
      | false =>
          have kept : overwriteField hidden values field = field := by simp [overwriteField, first]
          simp only [shown, List.takeWhile_cons, first, Bool.not_false, if_true, List.any_cons,
            Bool.or_eq_false_iff] at before
          obtain ⟨absent, before⟩ := before
          rw [List.map_cons, kept, List.findSome?_cons,
            Option.not_isSome_iff_eq_none.mp (Bool.eq_false_iff.mp absent)]
          exact ih before (by simpa [first] using hides)

/-- A search which is not settled finds what the hidden fields have it find. -/
theorem find_overwrite_of_unsettled {value : Json ν} (visible : hidden key = false)
    (found : ∀ name, hidden name = true → (values name).find key = some value)
    (unsettled : json.settled hidden key = false) :
    (overwrite hidden values json).find key = some value := by
  cases json with
  | object fields =>
      simp only [settled, Bool.or_eq_false_iff] at unsettled
      obtain ⟨⟨top, before⟩, hides⟩ := unsettled
      have absent := Option.not_isSome_iff_eq_none.mp (Bool.eq_false_iff.mp top)
      rw [overwrite, find_object, lookup_overwrite visible, absent,
        findSome?_overwrite_of_unshown found before hides]
      rfl
  | _ => cases unsettled

/-! ## Alternative spellings -/

/-- A key and how its value is read. -/
abbrev Reading (ν α : Type) := String × (Json ν → Option α)

/-- The first of several keys whose value, as found, can be read. -/
def firstOf (json : Json ν) (readings : List (Reading ν α)) : Option α :=
  readings.findSome? fun reading => (json.find reading.1).bind reading.2

/-- The searches are settled up to the first one whose value can be read. -/
def decided (hidden : String → Bool) (json : Json ν) : List (Reading ν α) → Bool
  | [] => true
  | (key, read) :: readings =>
      json.settled hidden key &&
        (((json.find key).bind read).isSome || decided hidden json readings)

variable {readings : List (Reading ν α)} {read : Json ν → Option α}

@[simp] theorem firstOf_nil : json.firstOf ([] : List (Reading ν α)) = none := rfl

@[simp] theorem firstOf_cons :
    json.firstOf ((key, read) :: readings) =
      ((json.find key).bind read).or (json.firstOf readings) := by
  rw [firstOf, List.findSome?_cons]
  cases (json.find key).bind read <;> rfl

theorem firstOf_congr {other : Json ν}
    (same : ∀ reading ∈ readings, json.find reading.1 = other.find reading.1) :
    json.firstOf readings = other.firstOf readings := by
  induction readings with
  | nil => rfl
  | cons reading readings ih =>
      obtain ⟨first, rest⟩ := List.forall_mem_cons.mp same
      rw [firstOf_cons, firstOf_cons, first, ih rest]

/-- What is decided does not depend on the hidden fields. -/
theorem firstOf_overwrite_of_decided
    (visible : ∀ reading ∈ readings, hidden reading.1 = false)
    (decides : decided hidden json readings = true) :
    (overwrite hidden values json).firstOf readings = json.firstOf readings := by
  induction readings with
  | nil => rfl
  | cons reading readings ih =>
      obtain ⟨key, read⟩ := reading
      obtain ⟨visibleKey, visible⟩ := List.forall_mem_cons.mp visible
      simp only [decided, Bool.and_eq_true, Bool.or_eq_true] at decides
      obtain ⟨settles, decides⟩ := decides
      rw [firstOf_cons, firstOf_cons, find_overwrite_of_settled visibleKey settles]
      cases found : (json.find key).bind read with
      | some result => rfl
      | none => exact ih visible (by simpa [found] using decides)

/-- Every hidden field gets a single entry below. -/
def planted (key : String) (leaf : Json ν) (_ : String) : Json ν := object [(key, leaf)]

/-- What is not decided is read from an entry planted in the hidden fields. -/
theorem exists_planted (visible : ∀ reading ∈ readings, hidden reading.1 = false)
    (undecided : decided hidden json readings = false) :
    ∃ reading ∈ readings, ∀ leaf result, reading.2 leaf = some result →
      (overwrite hidden (planted reading.1 leaf) json).firstOf readings = some result := by
  induction readings with
  | nil => cases undecided
  | cons reading readings ih =>
      obtain ⟨key, read⟩ := reading
      obtain ⟨visibleKey, visible⟩ := List.forall_mem_cons.mp visible
      cases settles : json.settled hidden key with
      | false =>
          refine ⟨(key, read), List.mem_cons_self, fun leaf result reads => ?_⟩
          have found : (overwrite hidden (planted key leaf) json).find key = some leaf :=
            find_overwrite_of_unsettled visibleKey
              (fun _ _ => by simp [planted, find_object]) settles
          rw [firstOf_cons, found, Option.bind_some, show read leaf = some result from reads]
          rfl
      | true =>
          simp only [decided, settles, Bool.true_and, Bool.or_eq_false_iff] at undecided
          obtain ⟨unread, undecided⟩ := undecided
          obtain ⟨reading, member, reaches⟩ := ih visible undecided
          refine ⟨reading, List.mem_cons_of_mem _ member, fun leaf result reads => ?_⟩
          have skipped : (json.find key).bind read = none :=
            Option.not_isSome_iff_eq_none.mp (Bool.eq_false_iff.mp unread)
          rw [firstOf_cons, find_overwrite_of_settled visibleKey settles, skipped]
          exact reaches leaf result reads

/-- What is read under other keys does not depend on a planted entry without keys of its own. -/
theorem firstOf_planted_congr {leaf other : Json ν}
    (visible : ∀ reading ∈ readings, hidden reading.1 = false)
    (different : ∀ reading ∈ readings, reading.1 ≠ key) (bare : ∀ name, leaf.find name = none)
    (bareOther : ∀ name, other.find name = none) :
    (overwrite hidden (planted key leaf) json).firstOf readings =
      (overwrite hidden (planted key other) json).firstOf readings := by
  refine firstOf_congr fun reading member => ?_
  refine find_overwrite_congr (visible reading member) fun name _ => ?_
  have absent : (reading.1 == key) = false := beq_false_of_ne (different reading member)
  simp [planted, find_object, List.lookup_cons, absent, bare, bareOther]

end Json
