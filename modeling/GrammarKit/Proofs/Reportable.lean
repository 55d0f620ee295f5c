/-
# Which results can be reported

The line that reports a success needs a JSON form of its value and of its rest.  Sequences of bytes,
verdicts and results have none, nor has a dictionary with a key that cannot be turned into a text;
identity numbers have one in the value, where records are opened, but not in the rest.  A value with
such a thing inside, at whatever depth, cannot be reported, and the fault is then about the type of
a value.  `Value.contains_of_toJson_eq_error` and `Value.toJson_ne_ok_of_contains` say that nothing
else stands in the way, apart from numbers with too many digits.

Opening a record opens all that is inside of it, before anything is written.  This fails for no
other reason than the ones above: `Value.contains_of_openRecords_eq_error`.
-/
import GrammarKit.Proofs.Rendering

namespace Except

variable {ε α β : Type} {f : α → Except ε β} {xs : List α}

lemma bind_eq_error {x : Except ε α} {e : ε} :
    x >>= f = .error e ↔ x = .error e ∨ ∃ a, x = .ok a ∧ f a = .error e := by
  cases x with
  | error e' => simp [bind, Except.bind]
  | ok a => simp [bind, Except.bind]

lemma map_eq_error {x : Except ε α} {g : α → β} {e : ε} : x.map g = .error e ↔ x = .error e := by
  cases x <;> simp [Except.map]

/-- Going through a list ends in an error where one of its items does. -/
lemma exists_mem_of_mapM_eq_error {e : ε} (h : xs.mapM f = .error e) :
    ∃ x ∈ xs, f x = .error e := by
  induction xs with
  | nil => cases h
  | cons x xs ih =>
    rw [List.mapM_cons, bind_eq_error] at h
    rcases h with hx | ⟨y, -, h⟩
    · exact ⟨x, by simp, hx⟩
    · rcases bind_eq_error.mp h with hxs | ⟨ys, -, hpure⟩
      · obtain ⟨z, hz, he⟩ := ih hxs
        exact ⟨z, by simp [hz], he⟩
      · cases hpure

/-- Going through a list succeeds only where all of its items do. -/
lemma exists_of_mapM_eq_ok {ys : List β} (h : xs.mapM f = .ok ys) : ∀ x ∈ xs, ∃ y, f x = .ok y := by
  induction xs generalizing ys with
  | nil => simp
  | cons x xs ih =>
    rw [List.mapM_cons, bind_eq_ok] at h
    obtain ⟨y, hx, h⟩ := h
    obtain ⟨ys', hxs, -⟩ := bind_eq_ok.mp h
    intro z hz
    rcases List.mem_cons.mp hz with rfl | hz
    · exact ⟨y, hx⟩
    · exact ih hxs z hz

end Except

namespace GrammarKit

/-- Whether a fault says that an operation is not defined for the type of a value. -/
def Fault.IsTypeFault : Fault → Prop
  | unsupported => True
  | unhashable _ => True
  | unserializable _ => True
  | unserializableKey _ => True
  | _ => False

namespace Value

/-! ### What has no JSON form -/

/-- Whether a value can be the key of a JSON object. -/
def IsKey : Value → Prop
  | text _ => True
  | int _ => True
  | bool _ => True
  | null => True
  | _ => False

/-- Whether a value has no JSON form, whatever its parts. -/
def IsForeign : Value → Prop
  | bytes _ => True
  | verdict _ => True
  | ok .. => True
  | err _ => True
  | dict es => ∃ e ∈ es, ¬ e.1.IsKey
  | _ => False

/-- Whether a value is an identity number. -/
def IsIdNumber : Value → Prop
  | idNumber .. => True
  | _ => False

/-- Whether a value has no JSON form by itself, where `opens` says whether records are opened. -/
def IsBarred (opens : Bool) (v : Value) : Prop :=
  v.IsForeign ∨ opens = false ∧ v.IsIdNumber

/-- Whether a value, or something inside of it, is as `P` says.  Inside are the items of a list or
tuple, the values of a dictionary, and the fields of an identity number. -/
inductive Contains (P : Value → Prop) : Value → Prop
  | here {v : Value} (h : P v) : Contains P v
  | listItem {vs : List Value} {v : Value} (mem : v ∈ vs) (h : Contains P v) : Contains P (list vs)
  | tupleItem {vs : List Value} {v : Value} (mem : v ∈ vs) (h : Contains P v) :
      Contains P (tuple vs)
  | entry {es : List (Value × Value)} {e : Value × Value} (mem : e ∈ es) (h : Contains P e.2) :
      Contains P (dict es)
  | letter {a ds c : Value} (h : Contains P a) : Contains P (idNumber a ds c)
  | digits {a ds c : Value} (h : Contains P ds) : Contains P (idNumber a ds c)
  | check {a ds c : Value} (h : Contains P c) : Contains P (idNumber a ds c)

lemma Contains.mono {P Q : Value → Prop} (hPQ : ∀ v, P v → Q v) {v : Value} (h : v.Contains P) :
    v.Contains Q := by
  induction h with
  | here h => exact .here (hPQ _ h)
  | listItem mem _ ih => exact .listItem mem ih
  | tupleItem mem _ ih => exact .tupleItem mem ih
  | entry mem _ ih => exact .entry mem ih
  | letter _ ih => exact .letter ih
  | digits _ ih => exact .digits ih
  | check _ ih => exact .check ih

lemma Contains.congr {P Q : Value → Prop} (hPQ : ∀ v, P v ↔ Q v) {v : Value} :
    v.Contains P ↔ v.Contains Q :=
  ⟨.mono fun w => (hPQ w).mp, .mono fun w => (hPQ w).mpr⟩

/-! ### Induction over the parts of a value -/

/-- The parts of an entry are smaller than the list that the entry is in. -/
lemma sizeOf_lt_of_mem_entries {es : List (Value × Value)} {e : Value × Value} (he : e ∈ es) :
    sizeOf e.1 < sizeOf es ∧ sizeOf e.2 < sizeOf es := by
  have hlt := List.sizeOf_lt_of_mem he
  obtain ⟨k, v⟩ := e
  simp only [Prod.mk.sizeOf_spec] at hlt
  show sizeOf k < sizeOf es ∧ sizeOf v < sizeOf es
  constructor <;> omega

section

variable {motive : Value → Prop} (null : motive null) (bool : ∀ b, motive (bool b))
  (int : ∀ n, motive (int n)) (text : ∀ s, motive (text s)) (bytes : ∀ bs, motive (bytes bs))
  (list : ∀ vs, (∀ v ∈ vs, motive v) → motive (list vs))
  (tuple : ∀ vs, (∀ v ∈ vs, motive v) → motive (tuple vs))
  (dict : ∀ es, (∀ e ∈ es, motive e.1 ∧ motive e.2) → motive (dict es))
  (idNumber : ∀ a ds c, motive a → motive ds → motive c → motive (idNumber a ds c))
  (ok : ∀ v rest, motive v → motive rest → motive (ok v rest)) (err : ∀ m, motive m → motive (err m))
  (verdict : ∀ k, motive (verdict k))

include null bool int text bytes list tuple dict idNumber ok err verdict

/-- What holds of a value if it holds of its parts holds of every value. -/
@[elab_as_elim] theorem parts_induction : ∀ v, motive v
  | .null => null
  | .bool b => bool b
  | .int n => int n
  | .text s => text s
  | .bytes bs => bytes bs
  | .list vs => list vs fun v hv =>
    have := List.sizeOf_lt_of_mem hv
    parts_induction v
  | .tuple vs => tuple vs fun v hv =>
    have := List.sizeOf_lt_of_mem hv
    parts_induction v
  | .dict es => dict es fun e he =>
    have := sizeOf_lt_of_mem_entries he
    ⟨parts_induction e.1, parts_induction e.2⟩
  | .idNumber a ds c =>
    idNumber a ds c (parts_induction a) (parts_induction ds) (parts_induction c)
  | .ok v rest => ok v rest (parts_induction v) (parts_induction rest)
  | .err m => err m (parts_induction m)
  | .verdict k => verdict k
termination_by v => sizeOf v
decreasing_by all_goals simp_wf <;> omega

end

/-! ### Going through items and entries -/

lemma fingerprints_eq_mapM (vs : List Value) : fingerprints vs = vs.mapM fingerprint := by
  induction vs with
  | nil => rfl
  | cons v vs ih => rw [fingerprints, ih, List.mapM_cons]

lemma openItems_eq_mapM (vs : List Value) : openItems vs = vs.mapM openRecords := by
  induction vs with
  | nil => rfl
  | cons v vs ih => rw [openItems, ih, List.mapM_cons]

/-- An entry with its records opened. -/
def openEntry (e : Value × Value) : Except Fault (Value × Value) := do
  let key ← e.1.openRecords
  let value ← e.2.openRecords
  let _ ← key.fingerprint
  return (key, value)

lemma openEntries_eq_mapM (es : List (Value × Value)) : openEntries es = es.mapM openEntry := by
  induction es with
  | nil => rfl
  | cons e es ih =>
    rw [openEntries, ih, List.mapM_cons, openEntry]
    simp only [bind_assoc, pure_bind]

variable {opens : Bool}

lemma itemsToJson_eq_mapM (vs : List Value) : itemsToJson opens vs = vs.mapM (toJson opens) := by
  induction vs with
  | nil => rfl
  | cons v vs ih => rw [itemsToJson, ih, List.mapM_cons]

/-- The entry of an object that an entry of a dictionary becomes. -/
def entryToJson (opens : Bool) (e : Value × Value) : Except Fault (Text × Json) := do
  let key ← e.1.keyText
  return (key, ← e.2.toJson opens)

lemma entriesToJson_eq_mapM (es : List (Value × Value)) :
    entriesToJson opens es = es.mapM (entryToJson opens) := by
  induction es with
  | nil => rfl
  | cons e es ih =>
    rw [entriesToJson, ih, List.mapM_cons, entryToJson]
    simp only [bind_assoc, pure_bind]

/-! ### Opening records -/

/-- A key that is no list, dictionary or record has a fingerprint. -/
lemma fingerprint_of_isKey {k : Value} (hk : k.IsKey) : ∃ print, k.fingerprint = .ok print := by
  cases k with
  | text s => exact ⟨_, rfl⟩
  | int n => exact ⟨_, rfl⟩
  | bool b => exact ⟨_, rfl⟩
  | null => exact ⟨_, rfl⟩
  | _ => exact hk.elim

lemma openRecords_of_isKey {k : Value} (hk : k.IsKey) : k.openRecords = .ok k := by
  cases k with
  | text s => rfl
  | int n => rfl
  | bool b => rfl
  | null => rfl
  | _ => exact hk.elim

/-- What keeps a value from having a fingerprint is its type, or that of a part. -/
lemma isTypeFault_of_fingerprint {v : Value} {fault : Fault}
    (h : v.fingerprint = .error fault) : fault.IsTypeFault := by
  induction v using parts_induction generalizing fault with
  | null => cases h
  | bool b => cases h
  | int n => cases h
  | text s => cases h
  | bytes bs => cases h
  | list vs =>
    cases h
    trivial
  | tuple vs ih =>
    rw [fingerprint, Except.map_eq_error, fingerprints_eq_mapM] at h
    obtain ⟨v, hv, hfault⟩ := Except.exists_mem_of_mapM_eq_error h
    exact ih v hv hfault
  | dict es =>
    cases h
    trivial
  | idNumber a ds c iha ihds ihc =>
    simp only [fingerprint, Except.bind_eq_error] at h
    rcases h with ha | ⟨_, -, hds | ⟨_, -, hc | ⟨_, -, hpure⟩⟩⟩
    · exact iha ha
    · exact ihds hds
    · exact ihc hc
    · cases hpure
  | ok v rest ihv ihrest =>
    simp only [fingerprint, Except.bind_eq_error] at h
    rcases h with hv | ⟨_, -, hrest | ⟨_, -, hpure⟩⟩
    · exact ihv hv
    · exact ihrest hrest
    · cases hpure
  | err m ih =>
    simp only [fingerprint, Except.bind_eq_error] at h
    rcases h with hm | ⟨_, -, hpure⟩
    · exact ih hm
    · cases hpure
  | verdict k => cases h

/-- What keeps the records of a value from being opened is the type of a key somewhere inside. -/
lemma contains_of_openRecords_eq_error {v : Value} {fault : Fault}
    (h : v.openRecords = .error fault) : fault.IsTypeFault ∧ v.Contains IsForeign := by
  induction v using parts_induction generalizing fault with
  | null => cases h
  | bool b => cases h
  | int n => cases h
  | text s => cases h
  | bytes bs => cases h
  | list vs ih =>
    rw [openRecords, Except.map_eq_error, openItems_eq_mapM] at h
    obtain ⟨v, hv, hfault⟩ := Except.exists_mem_of_mapM_eq_error h
    obtain ⟨htype, hin⟩ := ih v hv hfault
    exact ⟨htype, .listItem hv hin⟩
  | tuple vs ih =>
    rw [openRecords, Except.map_eq_error, openItems_eq_mapM] at h
    obtain ⟨v, hv, hfault⟩ := Except.exists_mem_of_mapM_eq_error h
    obtain ⟨htype, hin⟩ := ih v hv hfault
    exact ⟨htype, .tupleItem hv hin⟩
  | dict es ih =>
    rw [openRecords, Except.map_eq_error, openEntries_eq_mapM] at h
    obtain ⟨e, he, hfault⟩ := Except.exists_mem_of_mapM_eq_error h
    obtain ⟨ihkey, ihvalue⟩ := ih e he
    rw [openEntry, Except.bind_eq_error] at hfault
    -- Unless the key can be the key of a JSON object, the dictionary itself is to blame.
    by_cases hkey : e.1.IsKey
    · rcases hfault with hopen | ⟨key, hopen, hfault⟩
      · rw [openRecords_of_isKey hkey] at hopen
        cases hopen
      · rcases Except.bind_eq_error.mp hfault with hvalue | ⟨value, -, hprint⟩
        · obtain ⟨htype, hin⟩ := ihvalue hvalue
          exact ⟨htype, .entry he hin⟩
        · obtain rfl : key = e.1 := by
            rw [openRecords_of_isKey hkey] at hopen
            exact (Except.ok.inj hopen).symm
          obtain ⟨print, hok⟩ := fingerprint_of_isKey hkey
          rw [hok] at hprint
          cases hprint
    · have hforeign : (dict es).Contains IsForeign := .here ⟨e, he, hkey⟩
      rcases hfault with hopen | ⟨key, -, hfault⟩
      · exact ⟨(ihkey hopen).1, hforeign⟩
      · rcases Except.bind_eq_error.mp hfault with hvalue | ⟨value, -, hfault⟩
        · exact ⟨(ihvalue hvalue).1, hforeign⟩
        · rcases Except.bind_eq_error.mp hfault with hprint | ⟨print, -, hpure⟩
          · exact ⟨isTypeFault_of_fingerprint hprint, hforeign⟩
          · cases hpure
  | idNumber a ds c iha ihds ihc =>
    simp only [openRecords, Except.bind_eq_error] at h
    rcases h with ha | ⟨_, -, hds | ⟨_, -, hc | ⟨_, -, hpure⟩⟩⟩
    · obtain ⟨htype, hin⟩ := iha ha
      exact ⟨htype, .letter hin⟩
    · obtain ⟨htype, hin⟩ := ihds hds
      exact ⟨htype, .digits hin⟩
    · obtain ⟨htype, hin⟩ := ihc hc
      exact ⟨htype, .check hin⟩
    · cases hpure
  | ok v rest ihv ihrest =>
    refine ⟨?_, .here trivial⟩
    simp only [openRecords, Except.bind_eq_error] at h
    rcases h with hv | ⟨_, -, hrest | ⟨_, -, hpure⟩⟩
    · exact (ihv hv).1
    · exact (ihrest hrest).1
    · cases hpure
  | err m ih =>
    refine ⟨?_, .here trivial⟩
    simp only [openRecords, Except.bind_eq_error] at h
    rcases h with hm | ⟨_, -, hpure⟩
    · exact (ih hm).1
    · cases hpure
  | verdict k => cases h

/-! ### Values with a part that has no JSON form -/

lemma keyText_isKey {k : Value} {key : Text} (h : k.keyText = .ok key) : k.IsKey := by
  cases k with
  | text s => trivial
  | int n => trivial
  | bool b => trivial
  | null => trivial
  | _ => cases h

lemma toJson_ne_ok_of_isBarred {v : Value} (h : v.IsBarred opens) (j : Json) :
    v.toJson opens ≠ .ok j := by
  intro hok
  rcases h with hforeign | ⟨rfl, hid⟩
  · cases v with
    | bytes bs => cases hok
    | verdict k => cases hok
    | ok v rest =>
      simp only [toJson, kindFault, Except.bind_eq_ok] at hok
      obtain ⟨_, -, _, -, _, -, hkind⟩ := hok
      cases hkind
    | err m =>
      simp only [toJson, kindFault, Except.bind_eq_ok] at hok
      obtain ⟨_, -, _, -, hkind⟩ := hok
      cases hkind
    | dict es =>
      obtain ⟨e, he, hkey⟩ := hforeign
      rw [toJson, Except.map_eq_ok, entriesToJson_eq_mapM] at hok
      obtain ⟨js, hjs, -⟩ := hok
      obtain ⟨_, hentry⟩ := Except.exists_of_mapM_eq_ok hjs e he
      obtain ⟨key, htext, -⟩ := Except.bind_eq_ok.mp hentry
      exact hkey (keyText_isKey htext)
    | _ => exact hforeign.elim
  · cases v with
    | idNumber a ds c =>
      obtain ⟨_, hcheck, -⟩ := Except.bind_eq_ok.mp hok
      cases hcheck
    | _ => exact hid.elim

/-- Something without a JSON form inside of a value leaves the value without one. -/
lemma toJson_ne_ok_of_contains {v : Value} (h : v.Contains (IsBarred opens)) (j : Json) :
    v.toJson opens ≠ .ok j := by
  intro hok
  induction h generalizing j with
  | here hbarred => exact toJson_ne_ok_of_isBarred hbarred j hok
  | @listItem vs v hv _ ih =>
    rw [toJson, Except.map_eq_ok, itemsToJson_eq_mapM] at hok
    obtain ⟨js, hjs, -⟩ := hok
    obtain ⟨i, hi⟩ := Except.exists_of_mapM_eq_ok hjs v hv
    exact ih i hi
  | @tupleItem vs v hv _ ih =>
    rw [toJson, Except.map_eq_ok, itemsToJson_eq_mapM] at hok
    obtain ⟨js, hjs, -⟩ := hok
    obtain ⟨i, hi⟩ := Except.exists_of_mapM_eq_ok hjs v hv
    exact ih i hi
  | @entry es e he _ ih =>
    rw [toJson, Except.map_eq_ok, entriesToJson_eq_mapM] at hok
    obtain ⟨js, hjs, -⟩ := hok
    obtain ⟨i, hi⟩ := Except.exists_of_mapM_eq_ok hjs e he
    obtain ⟨key, -, hi⟩ := Except.bind_eq_ok.mp hi
    obtain ⟨j', hj', -⟩ := Except.bind_eq_ok.mp hi
    exact ih j' hj'
  | @letter a ds c _ ih =>
    simp only [toJson, Except.bind_eq_ok] at hok
    obtain ⟨_, -, i, hi, -⟩ := hok
    exact ih i hi
  | @digits a ds c _ ih =>
    simp only [toJson, Except.bind_eq_ok] at hok
    obtain ⟨_, -, _, -, i, hi, -⟩ := hok
    exact ih i hi
  | @check a ds c _ ih =>
    simp only [toJson, Except.bind_eq_ok] at hok
    obtain ⟨_, -, _, -, _, -, i, hi, -⟩ := hok
    exact ih i hi

/-! ### What else keeps a value from having a JSON form -/

lemma keysAreWritable_of_entriesAreWritable {es : List (Value × Value)}
    (h : entriesAreWritable es = true) : ∀ e ∈ es, e.1.isWritable = true := by
  induction es with
  | nil => nofun
  | cons e es ih =>
    rw [entriesAreWritable, Bool.and_eq_true, Bool.and_eq_true] at h
    exact List.forall_mem_cons.mpr ⟨h.1.1, ih h.2⟩

/-- A writable value fails to be a key for its type only. -/
lemma isTypeFault_of_keyText {k : Value} {fault : Fault} (hw : k.isWritable = true)
    (h : k.keyText = .error fault) : fault.IsTypeFault ∧ ¬ k.IsKey := by
  cases k with
  | int n =>
    rw [keyText, written_eq_ok hw] at h
    cases h
  | bool b => cases b <;> cases h
  | text s => cases h
  | null => cases h
  | _ =>
    cases h
    exact ⟨trivial, id⟩

lemma contains_of_checkRecord_eq_error {v : Value} {fault : Fault}
    (h : checkRecord opens v = .error fault) :
    fault.IsTypeFault ∧ (opens = false ∨ v.Contains IsForeign) := by
  cases opens with
  | false =>
    cases h
    exact ⟨trivial, .inl rfl⟩
  | true =>
    rw [checkRecord, if_pos rfl, Except.map_eq_error] at h
    obtain ⟨htype, hin⟩ := contains_of_openRecords_eq_error h
    exact ⟨htype, .inr hin⟩

/-- What keeps a value whose numbers can be written from having a JSON form is the type of a part
somewhere inside. -/
lemma contains_of_toJson_eq_error {v : Value} {fault : Fault} (hw : v.isWritable = true)
    (h : v.toJson opens = .error fault) :
    fault.IsTypeFault ∧ v.Contains (IsBarred opens) := by
  induction v using parts_induction generalizing fault with
  | null => cases h
  | bool b => cases h
  | int n =>
    rw [isWritable] at hw
    rw [toJson, if_pos hw] at h
    cases h
  | text s => cases h
  | bytes bs =>
    cases h
    exact ⟨trivial, .here (.inl trivial)⟩
  | list vs ih =>
    rw [toJson, Except.map_eq_error, itemsToJson_eq_mapM] at h
    obtain ⟨v, hv, hfault⟩ := Except.exists_mem_of_mapM_eq_error h
    obtain ⟨htype, hin⟩ := ih v hv (areWritable_iff.mp hw v hv) hfault
    exact ⟨htype, .listItem hv hin⟩
  | tuple vs ih =>
    rw [toJson, Except.map_eq_error, itemsToJson_eq_mapM] at h
    obtain ⟨v, hv, hfault⟩ := Except.exists_mem_of_mapM_eq_error h
    obtain ⟨htype, hin⟩ := ih v hv (areWritable_iff.mp hw v hv) hfault
    exact ⟨htype, .tupleItem hv hin⟩
  | dict es ih =>
    rw [toJson, Except.map_eq_error, entriesToJson_eq_mapM] at h
    obtain ⟨e, he, hfault⟩ := Except.exists_mem_of_mapM_eq_error h
    rcases Except.bind_eq_error.mp hfault with hkey | ⟨key, -, hfault⟩
    · have hkeyw := keysAreWritable_of_entriesAreWritable hw e he
      obtain ⟨htype, hno⟩ := isTypeFault_of_keyText hkeyw hkey
      exact ⟨htype, .here (.inl ⟨e, he, hno⟩)⟩
    · rcases Except.bind_eq_error.mp hfault with hvalue | ⟨_, -, hpure⟩
      · have hvaluew := isWritable_of_entriesAreWritable hw e he
        obtain ⟨htype, hin⟩ := (ih e he).2 hvaluew hvalue
        exact ⟨htype, .entry he hin⟩
      · cases hpure
  | idNumber a ds c iha ihds ihc =>
    simp only [isWritable, Bool.and_eq_true] at hw
    obtain ⟨⟨haw, hdsw⟩, hcw⟩ := hw
    simp only [toJson, Except.bind_eq_error] at h
    rcases h with hcheck | ⟨_, -, ha | ⟨_, -, hds | ⟨_, -, hc | ⟨_, -, hpure⟩⟩⟩⟩
    · obtain ⟨htype, rfl | hin⟩ := contains_of_checkRecord_eq_error hcheck
      · exact ⟨htype, .here (.inr ⟨rfl, trivial⟩)⟩
      · exact ⟨htype, hin.mono fun w hw => .inl hw⟩
    · obtain ⟨htype, hin⟩ := iha haw ha
      exact ⟨htype, .letter hin⟩
    · obtain ⟨htype, hin⟩ := ihds hdsw hds
      exact ⟨htype, .digits hin⟩
    · obtain ⟨htype, hin⟩ := ihc hcw hc
      exact ⟨htype, .check hin⟩
    · cases hpure
  | ok v rest ihv ihrest =>
    refine ⟨?_, .here (.inl trivial)⟩
    simp only [isWritable, Bool.and_eq_true] at hw
    simp only [toJson, Except.bind_eq_error] at h
    rcases h with hcheck | ⟨_, -, hv | ⟨_, -, hrest | ⟨_, -, hkind⟩⟩⟩
    · exact (contains_of_checkRecord_eq_error hcheck).1
    · exact (ihv hw.1 hv).1
    · exact (ihrest hw.2 hrest).1
    · cases hkind
      trivial
  | err m ih =>
    refine ⟨?_, .here (.inl trivial)⟩
    simp only [toJson, Except.bind_eq_error] at h
    rcases h with hcheck | ⟨_, -, hm | ⟨_, -, hkind⟩⟩
    · exact (contains_of_checkRecord_eq_error hcheck).1
    · exact (ih hw hm).1
    · cases hkind
      trivial
  | verdict k =>
    cases h
    exact ⟨trivial, .here (.inl trivial)⟩

lemma contains_isBarred_true {v : Value} : v.Contains (IsBarred true) ↔ v.Contains IsForeign :=
  Contains.congr fun w => by simp [IsBarred]

lemma contains_isBarred_false {v : Value} :
    v.Contains (IsBarred false) ↔ v.Contains fun w => w.IsForeign ∨ w.IsIdNumber :=
  Contains.congr fun w => by simp [IsBarred]

end Value

namespace Result

open Value

/-- What keeps a success whose numbers can be written from being reported is the type of something
inside its value or its rest. -/
lemma contains_of_line_eq_error {v rest : Value} {fault : Fault} (hv : v.isWritable = true)
    (hrest : rest.isWritable = true) (h : (ok v rest).line = .error fault) :
    fault.IsTypeFault ∧ (v.Contains (IsBarred true) ∨ rest.Contains (IsBarred false)) := by
  rw [line, Except.bind_eq_error] at h
  rcases h with hjson | ⟨j, -, h⟩
  · obtain ⟨htype, hin⟩ := contains_of_toJson_eq_error hv hjson
    exact ⟨htype, .inl hin⟩
  · rcases Except.bind_eq_error.mp h with hjson | ⟨k, -, hpure⟩
    · obtain ⟨htype, hin⟩ := contains_of_toJson_eq_error hrest hjson
      exact ⟨htype, .inr hin⟩
    · cases hpure

lemma line_ne_ok_of_contains {v rest : Value} {line : Text}
    (h : v.Contains (IsBarred true) ∨ rest.Contains (IsBarred false)) :
    (ok v rest).line ≠ .ok line := by
  intro hline
  obtain ⟨j, k, hj, hk, -⟩ := line_ok_eq_ok.mp hline
  rcases h with hin | hin
  · exact toJson_ne_ok_of_contains hin j hj
  · exact toJson_ne_ok_of_contains hin k hk

/-- **Which results cannot be reported.**  Let all numbers be ones that can be written.  Reporting a
success fails with a fault about the type of a value if there is a foreign value somewhere in its
value, or a foreign value or an identity number somewhere in its rest; otherwise there is a line.
A failure is always reported with its message. -/
theorem line_fails_iff {v rest m : Value} (hv : v.isWritable = true)
    (hrest : rest.isWritable = true) (hm : m.isWritable = true) :
    ((∃ fault, (ok v rest).line = .error fault ∧ fault.IsTypeFault) ↔
      v.Contains IsForeign ∨ rest.Contains fun w => w.IsForeign ∨ w.IsIdNumber) ∧
    (¬ (v.Contains IsForeign ∨ rest.Contains fun w => w.IsForeign ∨ w.IsIdNumber) →
      ∃ line, (ok v rest).line = .ok line) ∧
    (err m).line = .ok ("err\t".toList ++ m.display) := by
  rw [← contains_isBarred_true, ← contains_isBarred_false]
  refine ⟨⟨?_, ?_⟩, ?_, ?_⟩
  · rintro ⟨fault, hline, -⟩
    exact (contains_of_line_eq_error hv hrest hline).2
  · intro h
    cases hline : (ok v rest).line with
    | ok line => exact absurd hline (line_ne_ok_of_contains h)
    | error fault => exact ⟨fault, rfl, (contains_of_line_eq_error hv hrest hline).1⟩
  · intro h
    cases hline : (ok v rest).line with
    | ok line => exact ⟨line, rfl⟩
    | error fault => exact absurd (contains_of_line_eq_error hv hrest hline).2 h
  · rw [line, displayed_eq_ok hm]
    rfl

/-- An identity number whose digits are a dictionary with the given key. -/
def keyed (key : Value) : Value :=
  .idNumber (.text ['A']) (.dict [(key, .null)]) (.text ['7'])

lemma isWritable_keyed_one : (keyed (.int 1)).isWritable = true := by decide +kernel

lemma not_contains_keyed_one : ¬ (keyed (.int 1)).Contains IsForeign := by
  intro h
  cases h with
  | here h => exact h
  | letter h =>
    cases h with
    | here h => exact h
  | digits h =>
    cases h with
    | here h =>
      obtain ⟨e, he, hkey⟩ := h
      obtain rfl := List.mem_singleton.mp he
      exact hkey trivial
    | entry he h =>
      obtain rfl := List.mem_singleton.mp he
      cases h with
      | here h => exact h
  | check h =>
    cases h with
    | here h => exact h

lemma not_contains_null {P : Value → Prop} (hP : ¬ P .null) : ¬ Value.null.Contains P := by
  intro h
  cases h with
  | here h => exact hP h

/-- With a tuple as its key the dictionary is foreign; with a number it is not, and the identity
number can then be reported as a value, but not as a rest. -/
theorem line_fails_iff_keyed :
    (∃ fault, (ok (keyed (.tuple [])) .null).line = .error fault ∧ fault.IsTypeFault) ∧
    (∃ fault, (ok .null (.list [keyed (.int 1)])).line = .error fault ∧ fault.IsTypeFault) ∧
    (∃ line, (ok (keyed (.int 1)) .null).line = .ok line) ∧
    (err (keyed (.int 1))).line = .ok ("err\t".toList ++ (keyed (.int 1)).display) := by
  have htuple : (keyed (.tuple [])).Contains IsForeign :=
    .digits (.here ⟨_, List.mem_singleton_self _, id⟩)
  have hlist : (Value.list [keyed (.int 1)]).Contains fun w => w.IsForeign ∨ w.IsIdNumber :=
    .listItem (List.mem_singleton_self _) (.here (.inr trivial))
  have hgood : ¬ ((keyed (.int 1)).Contains IsForeign ∨
      Value.null.Contains fun w => w.IsForeign ∨ w.IsIdNumber) := by
    rintro (h | h)
    · exact not_contains_keyed_one h
    · exact not_contains_null (by rintro (h | h) <;> exact h) h
  have htuplew : (keyed (.tuple [])).isWritable = true := rfl
  have honew : (keyed (.int 1)).isWritable = true := isWritable_keyed_one
  have hlistw : (Value.list [keyed (.int 1)]).isWritable = true := by
    rw [isWritable, areWritable_iff]
    exact List.forall_mem_singleton.mpr honew
  have hnullw : Value.null.isWritable = true := rfl
  obtain ⟨hfails, -, -⟩ := line_fails_iff htuplew hnullw honew
  obtain ⟨hfails', -, -⟩ := line_fails_iff hnullw hlistw honew
  obtain ⟨-, hline, herr⟩ := line_fails_iff honew hnullw honew
  exact ⟨hfails.mpr (.inl htuple), hfails'.mpr (.inr hlist), hline hgood, herr⟩

end Result

end GrammarKit
