import SelectorSearch.Message.Reader
import SelectorSearch.Proofs.Json
import SelectorSearch.Proofs.JsonSoundness

/-!
# The Grammar of Messages

Which lines are messages, said without the reader: an object has the fields of a message
(`HasFields`) if its tag is that of the message and the value of each field is there with the right
kind of value. Of two fields with one name the last one counts, and other fields do not matter.
Together with the consistency of the numbers this is what the reader accepts.

Each part of the reader is proved to succeed exactly where the grammar says so, from the values of
single fields up to the four kinds. What can go wrong is collected beside it: reading fields fails
for a field only (`FailsByField`). Both are joined in `Judges`, once for all four kinds.

A count is read from an integer of any size, so that it is the right one depends on the JSON reader,
which leaves no integers above 64 bits (`Json.IsText.wordSized`).

## Main results

* `readDetail_eq_ok_iff`: the two encodings of a matching element are read, and nothing else.
* `judges_of_fields`: fields that are read exactly if they are there are judged right.
* `judges_of_tag`: an object with one of the four tags is judged by the fields of that kind.
* `parse_of_isText`: exactly the grammar of messages is accepted.
-/

namespace SelectorSearch.Message

open Json

/-! ### The grammar -/

/-- The field `name` of an object is there, and it is an integer of 64 bits without a sign. -/
def HasCount (members : Members) (name : String) (n : UInt64) : Prop :=
  members.get? name = some (.integer n.toNat)

/-- The field `name` of an object is there, and it is this `text`. -/
def HasText (members : Members) (name text : String) : Prop :=
  members.get? name = some (.string text)

/-- The field `name` of an object is this `text`, or it is missing and the text is empty. -/
def HasTextOrNone (members : Members) (name text : String) : Prop :=
  HasText members name text ∨ members.get? name = none ∧ text = ""

/-- The value of a matching element: an object with its fields, or an array of the two. -/
inductive IsDetail : Value → MatchDetail → Prop where
  | object {members : Members} {d : MatchDetail} (line : HasCount members "line" d.line)
      (html : HasText members "html" d.html) : IsDetail (.object members) d
  | pair (d : MatchDetail) : IsDetail (.array [.integer d.line.toNat, .string d.html]) d

/-- The field `matchesDetails` of an object is an array of these matching elements, in their
order. -/
def HasDetails (members : Members) (details : List MatchDetail) : Prop :=
  ∃ items, members.get? "matchesDetails" = some (.array items) ∧
    List.Forall₂ IsDetail items details

/-- The object has the tag and the fields of the message, whatever other fields it has. -/
def HasFields (members : Members) : Message → Prop
  | .countedFiles c =>
    HasText members "status" "countedFiles" ∧ HasCount members "numberOfFiles" c.numberOfFiles ∧
      HasTextOrNone members "selector" c.selector ∧
      HasTextOrNone members "directory" c.directory ∧
      HasTextOrNone members "extension" c.extension ∧ HasTextOrNone members "ignore" c.ignore
  | .processingFile p =>
    HasText members "status" "processingFile" ∧ HasCount members "fileNumber" p.fileNumber ∧
      HasCount members "numberOfFiles" p.numberOfFiles
  | .foundMatch m =>
    HasText members "status" "foundMatch" ∧ HasText members "file" m.file ∧
      HasCount members "matches" m.matchCount ∧ HasDetails members m.details
  | .complete s =>
    HasText members "status" "complete" ∧ HasText members "message" s.message ∧
      HasCount members "totalMatches" s.totalMatches ∧
      HasCount members "numberOfFilesWithMatches" s.filesWithMatches
  | .unrecognized .. | .malformed _ => False

variable {α β : Type} {members : Members} {name : String}

/-! ### Results -/

theorem pure_eq_ok_iff {a b : α} : (pure a : Except LineError α) = .ok b ↔ a = b := by
  simp [pure, Except.pure]

/-! ### Fields -/

theorem require_eq_ok_iff {o : Option α} {a : α} : require name o = .ok a ↔ o = some a := by
  cases o <;> simp [require]

/-- A field is read as `a` exactly if it is there and its value is read as `a`. -/
theorem field_eq_some_iff {read : Value → Except LineError α} {a : α} :
    field members read name = .ok (some a) ↔
      ∃ v, members.get? name = some v ∧ read v = .ok a := by
  unfold field
  split
  · next h => simp [h]
  · next v h => cases hv : read v <;> simp [h, hv, Except.map]

/-- A field that is missing is no fault yet: `field` answers `none` for it, and for nothing else. -/
theorem field_eq_none_iff {read : Value → Except LineError α} :
    field members read name = .ok none ↔ members.get? name = none := by
  unfold field
  split
  · next h => simp [h]
  · next v h => cases hv : read v <;> simp [h, Except.map]

/-- Exactly the strings are read as texts. -/
theorem readText_eq_ok_iff {v : Value} {text : String} :
    readText v = .ok text ↔ v = .string text := by
  cases v <;> simp [readText]

/-- Of the word-sized values, exactly the integers that are not negative are read as counts. -/
theorem readCount_eq_ok_iff {v : Value} (h : v.WordSized) {n : UInt64} :
    readCount v = .ok n ↔ v = .integer n.toNat := by
  cases h with
  | @integer k hk =>
      have hword : Numeral.wordSize = 2 ^ 64 := rfl
      unfold readCount
      split
      · next m heq =>
          obtain rfl := Value.integer.inj heq
          split
          · next hpos =>
              obtain ⟨j, rfl⟩ := Int.eq_ofNat_of_zero_le hpos
              have hj : j < 2 ^ 64 := by omega
              rw [Except.ok.injEq, Value.integer.injEq, Int.toNat_natCast, ← UInt64.toNat_inj,
                UInt64.toNat_ofNat_of_lt' hj]
              omega
          · next hneg =>
              simp
              omega
      · next hnot => exact absurd rfl (hnot k)
  | _ => simp [readCount]

/-- The value of a field has integers no larger than those of its object. -/
theorem wordSized_of_get? (h : (Value.object members).WordSized) {v : Value}
    (hv : members.get? name = some v) : v.WordSized :=
  h.members _ (Members.mem_of_get? hv)

/-- A field is read as a `text` exactly if it is there and is this text. -/
theorem field_text_iff {text : String} :
    field members readText name = .ok (some text) ↔ HasText members name text := by
  simp only [field_eq_some_iff, readText_eq_ok_iff, HasText, exists_eq_right]

/-- A field is read as a count exactly if it is there and is this count. -/
theorem field_count_iff (h : (Value.object members).WordSized) {n : UInt64} :
    field members readCount name = .ok (some n) ↔ HasCount members name n := by
  rw [field_eq_some_iff, HasCount]
  constructor
  · rintro ⟨v, hv, hread⟩
    rw [hv, (readCount_eq_ok_iff (wordSized_of_get? h hv)).mp hread]
  · intro hv
    exact ⟨_, hv, (readCount_eq_ok_iff (wordSized_of_get? h hv)).mpr rfl⟩

/-- A text that may be missing is read exactly if it is this `text`, or is missing and the text is
empty. -/
theorem field_getD_iff {text : String} :
    (∃ o, field members readText name = .ok o ∧ o.getD "" = text) ↔
      HasTextOrNone members name text := by
  constructor
  · rintro ⟨o, ho, rfl⟩
    cases o with
    | none => exact .inr ⟨field_eq_none_iff.mp ho, rfl⟩
    | some text => exact .inl (field_text_iff.mp ho)
  · rintro (htext | ⟨hnone, rfl⟩)
    · exact ⟨some text, field_text_iff.mpr htext, rfl⟩
    · exact ⟨none, field_eq_none_iff.mpr hnone, rfl⟩

/-! ### Matching elements -/

/-- **The two encodings of a matching element are read**, and nothing else is. -/
theorem readDetail_eq_ok_iff {v : Value} (h : v.WordSized) {d : MatchDetail} :
    readDetail v = .ok d ↔ IsDetail v d := by
  constructor
  · intro hread
    cases v with
    | object members =>
        simp only [readDetail, bind_eq_ok_iff, pure_eq_ok_iff, require_eq_ok_iff] at hread
        obtain ⟨html, hhtml, line, hline, n, rfl, text, rfl, rfl⟩ := hread
        exact .object ((field_count_iff h).mp hline) (field_text_iff.mp hhtml)
    | array items =>
        obtain _ | ⟨line, _ | ⟨html, rest⟩⟩ := items
        · cases hread
        · simp [readDetail, bind_eq_ok_iff] at hread
        · simp only [readDetail, bind_eq_ok_iff, readText_eq_ok_iff] at hread
          obtain ⟨n, hn, text, rfl, hrest⟩ := hread
          split at hrest
          · next hempty =>
              obtain rfl := List.isEmpty_iff.mp hempty
              obtain rfl := (readCount_eq_ok_iff (h.items line List.mem_cons_self)).mp hn
              obtain rfl := pure_eq_ok_iff.mp hrest
              exact .pair ⟨n, text⟩
          · cases hrest
    | _ => cases hread
  · intro hd
    cases hd with
    | object line html =>
        simp only [readDetail, bind_eq_ok_iff, pure_eq_ok_iff, require_eq_ok_iff]
        exact ⟨_, field_text_iff.mpr html, _, (field_count_iff h).mpr line, _, rfl, _, rfl, rfl⟩
    | pair d =>
        have hline : readCount (.integer d.line.toNat) = .ok d.line :=
          (readCount_eq_ok_iff (h.items _ List.mem_cons_self)).mpr rfl
        simp only [readDetail, bind_eq_ok_iff, readText_eq_ok_iff]
        exact ⟨_, hline, _, rfl, rfl⟩

/-- A list of matching elements is read exactly if each of its `items` encodes one. -/
theorem mapM_readDetail_eq_ok_iff {items : List Value} (h : ∀ v ∈ items, v.WordSized)
    {details : List MatchDetail} :
    items.mapM readDetail = .ok details ↔ List.Forall₂ IsDetail items details := by
  induction items generalizing details with
  | nil =>
      rw [List.mapM_nil, pure_eq_ok_iff]
      constructor
      · rintro rfl
        exact .nil
      · rintro ⟨⟩
        rfl
  | cons v rest ih =>
      obtain ⟨hv, hrest⟩ := List.forall_mem_cons.mp h
      simp only [List.mapM_cons, bind_eq_ok_iff, pure_eq_ok_iff, readDetail_eq_ok_iff hv, ih hrest]
      constructor
      · rintro ⟨d, hd, ds, hds, rfl⟩
        exact .cons hd hds
      · rintro (_ | ⟨hd, hds⟩)
        exact ⟨_, hd, _, hds, rfl⟩

/-- A field is read as matching elements exactly if it is there and is an array of them. -/
theorem field_details_iff (h : (Value.object members).WordSized) {details : List MatchDetail} :
    field members readDetails "matchesDetails" = .ok (some details) ↔
      HasDetails members details := by
  rw [field_eq_some_iff]
  constructor
  · rintro ⟨v, hv, hread⟩
    cases v with
    | array items =>
        have hitems := (wordSized_of_get? h hv).items
        exact ⟨items, hv, (mapM_readDetail_eq_ok_iff hitems).mp hread⟩
    | _ => cases hread
  · rintro ⟨items, hv, hdetails⟩
    have hitems := (wordSized_of_get? h hv).items
    exact ⟨_, hv, (mapM_readDetail_eq_ok_iff hitems).mpr hdetails⟩

/-! ### The four kinds -/

section
variable (h : (Value.object members).WordSized)
include h

/-- The fields of `Message.countedFiles` are read exactly if they are there. -/
theorem readCountedFiles_eq_ok_iff {c : CountedFiles}
    (htag : HasText members "status" "countedFiles") :
    readCountedFiles members = .ok c ↔ HasFields members (.countedFiles c) := by
  simp only [readCountedFiles, bind_eq_ok_iff, pure_eq_ok_iff, require_eq_ok_iff]
  constructor
  · rintro ⟨directory, hdirectory, extension, hextension, ignore, hignore, _, hnumber, selector,
      hselector, number, rfl, rfl⟩
    exact ⟨htag, (field_count_iff h).mp hnumber, field_getD_iff.mp ⟨_, hselector, rfl⟩,
      field_getD_iff.mp ⟨_, hdirectory, rfl⟩, field_getD_iff.mp ⟨_, hextension, rfl⟩,
      field_getD_iff.mp ⟨_, hignore, rfl⟩⟩
  · rintro ⟨-, hnumber, hselector, hdirectory, hextension, hignore⟩
    obtain ⟨selector, hselector, hs⟩ := field_getD_iff.mpr hselector
    obtain ⟨directory, hdirectory, hd⟩ := field_getD_iff.mpr hdirectory
    obtain ⟨extension, hextension, he⟩ := field_getD_iff.mpr hextension
    obtain ⟨ignore, hignore, hi⟩ := field_getD_iff.mpr hignore
    exact ⟨_, hdirectory, _, hextension, _, hignore, _, (field_count_iff h).mpr hnumber, _,
      hselector, _, rfl, by rw [hs, hd, he, hi]⟩

/-- The fields of `Message.processingFile` are read exactly if they are there. -/
theorem readProgress_eq_ok_iff {p : FileProgress}
    (htag : HasText members "status" "processingFile") :
    readProgress members = .ok p ↔ HasFields members (.processingFile p) := by
  simp only [readProgress, bind_eq_ok_iff, pure_eq_ok_iff, require_eq_ok_iff]
  constructor
  · rintro ⟨_, hfile, _, hnumber, file, rfl, number, rfl, rfl⟩
    exact ⟨htag, (field_count_iff h).mp hfile, (field_count_iff h).mp hnumber⟩
  · rintro ⟨-, hfile, hnumber⟩
    exact ⟨_, (field_count_iff h).mpr hfile, _, (field_count_iff h).mpr hnumber, _, rfl, _, rfl,
      rfl⟩

/-- The fields of `Message.foundMatch` are read exactly if they are there. -/
theorem readFoundMatch_eq_ok_iff {m : FoundMatch} (htag : HasText members "status" "foundMatch") :
    readFoundMatch members = .ok m ↔ HasFields members (.foundMatch m) := by
  simp only [readFoundMatch, bind_eq_ok_iff, pure_eq_ok_iff, require_eq_ok_iff]
  constructor
  · rintro ⟨_, hfile, _, hcount, _, hdetails, file, rfl, count, rfl, details, rfl, rfl⟩
    exact ⟨htag, field_text_iff.mp hfile, (field_count_iff h).mp hcount,
      (field_details_iff h).mp hdetails⟩
  · rintro ⟨-, hfile, hcount, hdetails⟩
    exact ⟨_, field_text_iff.mpr hfile, _, (field_count_iff h).mpr hcount, _,
      (field_details_iff h).mpr hdetails, _, rfl, _, rfl, _, rfl, rfl⟩

/-- The fields of `Message.complete` are read exactly if they are there. -/
theorem readSummary_eq_ok_iff {s : Summary} (htag : HasText members "status" "complete") :
    readSummary members = .ok s ↔ HasFields members (.complete s) := by
  simp only [readSummary, bind_eq_ok_iff, pure_eq_ok_iff, require_eq_ok_iff]
  constructor
  · rintro ⟨_, hmessage, _, hfiles, _, htotal, message, rfl, total, rfl, files, rfl, rfl⟩
    exact ⟨htag, field_text_iff.mp hmessage, (field_count_iff h).mp htotal,
      (field_count_iff h).mp hfiles⟩
  · rintro ⟨-, hmessage, htotal, hfiles⟩
    exact ⟨_, field_text_iff.mpr hmessage, _, (field_count_iff h).mpr hfiles, _,
      (field_count_iff h).mpr htotal, _, rfl, _, rfl, _, rfl, rfl⟩

end

/-! ### Faults -/

/-- The error is about a field: it has a value of the wrong kind, or is missing. -/
def LineError.IsFieldFault : LineError → Prop
  | .mismatch _ | .missing _ => True
  | _ => False

/-- Whatever goes wrong in `x` is the fault of a field. -/
def FailsByField (x : Except LineError α) : Prop :=
  ∀ e, x = .error e → e.IsFieldFault

theorem failsByField_ok (a : α) : FailsByField (.ok a) := by
  rintro e ⟨⟩

theorem FailsByField.bind {x : Except LineError α} {f : α → Except LineError β}
    (hx : FailsByField x) (hf : ∀ a, FailsByField (f a)) : FailsByField (x >>= f) := by
  intro e he
  obtain hfail | ⟨a, -, hfail⟩ := bind_eq_error_iff.mp he
  · exact hx e hfail
  · exact hf a e hfail

theorem failsByField_require (o : Option α) : FailsByField (require name o) := by
  cases o with
  | none =>
      rintro e ⟨⟩
      trivial
  | some a => exact failsByField_ok a

theorem failsByField_readText (v : Value) : FailsByField (readText v) := by
  intro e he
  cases v with
  | string s => cases he
  | _ =>
      cases he
      trivial

theorem failsByField_readCount (v : Value) : FailsByField (readCount v) := by
  intro e he
  cases v with
  | integer n =>
      unfold readCount at he
      dsimp only at he
      split at he <;> cases he
      trivial
  | _ =>
      cases he
      trivial

theorem failsByField_field {read : Value → Except LineError α} (h : ∀ v, FailsByField (read v)) :
    FailsByField (field members read name) := by
  intro e he
  unfold field at he
  split at he
  · cases he
  · next v _ =>
      cases hv : read v with
      | ok a =>
          rw [hv] at he
          cases he
      | error e' =>
          rw [hv] at he
          cases he
          exact h v _ hv

theorem failsByField_readDetail (v : Value) : FailsByField (readDetail v) := by
  have hshort (n : Nat) : LineError.IsFieldFault (.mismatch (.short n .matchDetail 2)) := trivial
  cases v with
  | object members =>
      exact (failsByField_field failsByField_readText).bind fun _ =>
        (failsByField_field failsByField_readCount).bind fun _ =>
          (failsByField_require _).bind fun _ =>
            (failsByField_require _).bind fun _ => failsByField_ok _
  | array items =>
      obtain _ | ⟨line, _ | ⟨html, rest⟩⟩ := items
      · rintro e ⟨⟩
        exact hshort 0
      · refine (failsByField_readCount line).bind fun _ => ?_
        rintro e ⟨⟩
        exact hshort 1
      · refine (failsByField_readCount line).bind fun _ =>
          (failsByField_readText html).bind fun _ => ?_
        intro e he
        split at he
        · cases he
        · cases he
          trivial
  | _ =>
      rintro e ⟨⟩
      trivial

theorem failsByField_readDetails (v : Value) : FailsByField (readDetails v) := by
  cases v with
  | array items =>
      rw [readDetails]
      induction items with
      | nil => exact failsByField_ok _
      | cons v rest ih =>
          rw [List.mapM_cons]
          exact (failsByField_readDetail v).bind fun _ => ih.bind fun _ => failsByField_ok _
  | _ =>
      rintro e ⟨⟩
      trivial

theorem failsByField_readCountedFiles : FailsByField (readCountedFiles members) :=
  (failsByField_field failsByField_readText).bind fun _ =>
    (failsByField_field failsByField_readText).bind fun _ =>
      (failsByField_field failsByField_readText).bind fun _ =>
        (failsByField_field failsByField_readCount).bind fun _ =>
          (failsByField_field failsByField_readText).bind fun _ =>
            (failsByField_require _).bind fun _ => failsByField_ok _

theorem failsByField_readProgress : FailsByField (readProgress members) :=
  (failsByField_field failsByField_readCount).bind fun _ =>
    (failsByField_field failsByField_readCount).bind fun _ =>
      (failsByField_require _).bind fun _ =>
        (failsByField_require _).bind fun _ => failsByField_ok _

theorem failsByField_readFoundMatch : FailsByField (readFoundMatch members) :=
  (failsByField_field failsByField_readText).bind fun _ =>
    (failsByField_field failsByField_readCount).bind fun _ =>
      (failsByField_field failsByField_readDetails).bind fun _ =>
        (failsByField_require _).bind fun _ =>
          (failsByField_require _).bind fun _ =>
            (failsByField_require _).bind fun _ => failsByField_ok _

theorem failsByField_readSummary : FailsByField (readSummary members) :=
  (failsByField_field failsByField_readText).bind fun _ =>
    (failsByField_field failsByField_readCount).bind fun _ =>
      (failsByField_field failsByField_readCount).bind fun _ =>
        (failsByField_require _).bind fun _ =>
          (failsByField_require _).bind fun _ =>
            (failsByField_require _).bind fun _ => failsByField_ok _

/-! ### Judging -/

/-- What is `checked` is kept exactly if its numbers agree, and then it is kept as it is. -/
theorem checked_eq_ok_iff {m m' : Message} : checked m' = .ok m ↔ m = m' ∧ m'.Consistent := by
  rw [← violation?_eq_none_iff, checked]
  cases hfault : m'.violation? <;> simp [eq_comm]

theorem checked_eq_error_iff {m : Message} {e : LineError} :
    checked m = .error e ↔ ∃ fault, m.violation? = some fault ∧ e = .violation fault := by
  rw [checked]
  cases hfault : m.violation? <;> simp [eq_comm]

/-- The result of reading a message of one kind: fields of the right kinds make the message, their
numbers decide whether it is accepted, and without such fields a field is at fault. -/
structure Judges (result : Except LineError Message) (Fields : Message → Prop) : Prop where
  accepts (m : Message) : result = .ok m ↔ Fields m ∧ m.Consistent
  rejects (fault : Violation) :
    result = .error (.violation fault) ↔ ∃ m, Fields m ∧ m.violation? = some fault
  faults : (∀ m, ¬Fields m) ↔ ∃ e, result = .error e ∧ e.IsFieldFault

/-- Fields that are read exactly if they are there make a result that `Judges` the message of this
kind. -/
theorem judges_of_fields {fields : Except LineError α} {make : α → Message}
    {Fields : Message → Prop} (hread : ∀ a, fields = .ok a ↔ Fields (make a))
    (hkind : ∀ m, Fields m → ∃ a, m = make a) (hfail : FailsByField fields) :
    Judges (fields >>= fun a => checked (make a)) Fields where
  accepts m := by
    rw [bind_eq_ok_iff]
    constructor
    · rintro ⟨a, ha, hm⟩
      obtain ⟨rfl, hconsistent⟩ := checked_eq_ok_iff.mp hm
      exact ⟨(hread a).mp ha, hconsistent⟩
    · rintro ⟨hm, hconsistent⟩
      obtain ⟨a, rfl⟩ := hkind m hm
      exact ⟨a, (hread a).mpr hm, checked_eq_ok_iff.mpr ⟨rfl, hconsistent⟩⟩
  rejects fault := by
    rw [bind_eq_error_iff]
    constructor
    · rintro (hfault | ⟨a, ha, hfault⟩)
      · exact (hfail _ hfault).elim
      · obtain ⟨_, hviolation, ⟨⟩⟩ := checked_eq_error_iff.mp hfault
        exact ⟨make a, (hread a).mp ha, hviolation⟩
    · rintro ⟨m, hm, hviolation⟩
      obtain ⟨a, rfl⟩ := hkind m hm
      exact .inr ⟨a, (hread a).mpr hm, checked_eq_error_iff.mpr ⟨fault, hviolation, rfl⟩⟩
  faults := by
    constructor
    · intro hnone
      cases hfields : fields with
      | ok a => exact absurd ((hread a).mp hfields) (hnone _)
      | error e => exact ⟨e, rfl, hfail e hfields⟩
    · rintro ⟨e, he, hfault⟩ m hm
      obtain ⟨a, rfl⟩ := hkind m hm
      rw [(hread a).mpr hm] at he
      obtain ⟨_, -, rfl⟩ := checked_eq_error_iff.mp he
      exact hfault.elim

/-- The tag of an object, which is its field `status` if that is a string. -/
def tag? (members : Members) : Option String :=
  (members.get? "status").bind Value.string?

theorem tag?_eq_some_iff : tag? members = some name ↔ HasText members "status" name := by
  rw [tag?, HasText, Option.bind_eq_some_iff]
  constructor
  · rintro ⟨v, hv, hname⟩
    cases v <;> cases hname
    exact hv
  · intro hv
    exact ⟨_, hv, rfl⟩

/-- A message has the tag of every object whose fields it has. -/
theorem status_of_hasFields {m : Message} (h : HasFields members m) : m.status = tag? members := by
  cases m with
  | unrecognized | malformed => exact h.elim
  | _ => exact (tag?_eq_some_iff.mpr h.1).symm

/-- **An object with one of the four tags is judged by the fields that belong to it.** -/
theorem judges_of_tag (h : (Value.object members).WordSized) (hname : name ∈ knownStatuses)
    (htag : tag? members = some name) (raw : String) :
    Judges (ofMembers raw members) (HasFields members) := by
  have htext : HasText members "status" name := tag?_eq_some_iff.mp htag
  have hstatus (m : Message) (hm : HasFields members m) : m.status = some name :=
    (status_of_hasFields hm).trans htag
  have hbind : (members.get? "status").bind Value.string? = some name := htag
  simp only [knownStatuses, List.mem_cons, List.not_mem_nil, or_false] at hname
  rw [ofMembers, hbind]
  obtain rfl | rfl | rfl | rfl := hname
  · refine judges_of_fields (fun _ => readCountedFiles_eq_ok_iff h htext) (fun m hm => ?_) ?_
    · cases m with
      | countedFiles c => exact ⟨c, rfl⟩
      | unrecognized | malformed => exact hm.elim
      | _ => exact absurd (hstatus _ hm) (by simp [status])
    · exact failsByField_readCountedFiles
  · refine judges_of_fields (fun _ => readProgress_eq_ok_iff h htext) (fun m hm => ?_) ?_
    · cases m with
      | processingFile p => exact ⟨p, rfl⟩
      | unrecognized | malformed => exact hm.elim
      | _ => exact absurd (hstatus _ hm) (by simp [status])
    · exact failsByField_readProgress
  · refine judges_of_fields (fun _ => readFoundMatch_eq_ok_iff h htext) (fun m hm => ?_) ?_
    · cases m with
      | foundMatch f => exact ⟨f, rfl⟩
      | unrecognized | malformed => exact hm.elim
      | _ => exact absurd (hstatus _ hm) (by simp [status])
    · exact failsByField_readFoundMatch
  · refine judges_of_fields (fun _ => readSummary_eq_ok_iff h htext) (fun m hm => ?_) ?_
    · cases m with
      | complete s => exact ⟨s, rfl⟩
      | unrecognized | malformed => exact hm.elim
      | _ => exact absurd (hstatus _ hm) (by simp [status])
    · exact failsByField_readSummary

end SelectorSearch.Message
