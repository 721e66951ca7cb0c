import Milp.Proofs.Covering
import Milp.Proofs.Libraries
import Milp.Proofs.Rereading

/-!
# What a library is sent

A library is sent the JSON text of a message as bytes. The bytes are printable characters, so none
of them is zero and nothing is lost in UTF-8, and the text is read as the message again, but for
halves of characters that stand side by side in a name. It is JSON by the standard exactly if the
message has no infinite number and none that is not a number: `Model.message_sent`.

Names are texts here, data are plain and numbers are those of the program.
-/

namespace Milp

/-! ### Printable characters -/

namespace Text

open Json (IsPlain)

variable {s : String}

theorem ne_mark_of_plain {c : Char} (h : IsPlain c) : c ≠ mark := by
  rintro rfl
  exact absurd h (by decide)

theorem points_of_plain (h : ∀ c ∈ s.toList, IsPlain c) : points s = s.toList.map Char.toNat := by
  have hmark : mark ∉ s.toList := fun hm => ne_mark_of_plain (h mark hm) rfl
  have happend := pointsOf_append hmark []
  rwa [List.append_nil, pointsOf, List.append_nil] at happend

/-- A text of printable characters has no halves of characters. -/
theorem rejoined_of_plain (h : ∀ c ∈ s.toList, IsPlain c) : rejoined s = s := by
  refine rejoined_eq_self ?_ ?_
  · have hchar : ∀ c ∈ s.toList, charsOf c.toNat = [c] := by
      intro c hc
      have hsingle := ofPoints_toNat (ne_mark_of_plain (h c hc))
      rwa [ofPoints, List.flatMap_singleton, String.singleton_eq_ofList, String.ofList_inj]
        at hsingle
    rw [points_of_plain h, ofPoints, List.flatMap_map, List.flatMap_congr hchar,
      List.flatMap_singleton', String.ofList_toList]
  · rw [points_of_plain h]
    refine List.Pairwise.isChain (List.pairwise_map.2 (List.pairwise_of_forall_mem_list ?_))
    intro c hc d _
    obtain ⟨-, hlt⟩ := h c hc
    simp only [isHigh, Bool.and_eq_false_iff, decide_eq_false_iff_not]
    omega

theorem encodeUtf8_of_plain (h : ∀ c ∈ s.toList, IsPlain c) :
    encodeUtf8 s = s.toList.map Char.toNat := by
  have hbyte : ∀ c ∈ s.toList, bytesOf c.toNat = [c.toNat] := by
    intro c hc
    obtain ⟨-, hlt⟩ := h c hc
    exact if_pos (by omega)
  rw [encodeUtf8, points_of_plain h, List.flatMap_map, List.flatMap_congr hbyte,
    List.map_eq_flatMap]

/-- Printable characters are one byte each. -/
theorem decodeFrom_of_plain {cs : List Char} (h : ∀ c ∈ cs, IsPlain c) (i : Nat) :
    decodeFrom 0 i (cs.map Char.toNat) = .ok cs := by
  induction cs generalizing i with
  | nil => rfl
  | cons c cs ih =>
    rw [List.forall_mem_cons] at h
    have htails : tails? c.toNat = some (0, 0, 0) := by
      have hlt := h.1.2
      exact if_pos (by omega)
    have hchar : Char.ofNat (leadBits c.toNat 0) = c := by
      rw [leadBits, if_pos rfl, Char.ofNat_toNat]
    rw [List.map_cons, decodeFrom, htails]
    dsimp only
    rw [readTails, ih h.2]
    exact congrArg (fun d => Except.ok (d :: cs)) hchar

theorem zero_notMem_encodeUtf8 (h : ∀ c ∈ s.toList, IsPlain c) : 0 ∉ encodeUtf8 s := by
  rw [encodeUtf8_of_plain h]
  intro hmem
  obtain ⟨c, hc, hzero⟩ := List.mem_map.1 hmem
  obtain ⟨hle, -⟩ := h c hc
  omega

theorem decodeUtf8_encodeUtf8 (h : ∀ c ∈ s.toList, IsPlain c) :
    decodeUtf8 (encodeUtf8 s) = .ok s.toList := by
  rw [encodeUtf8_of_plain h]
  exact decodeFrom_of_plain h 0

end Text

/-! ### The text of what can be sent -/

namespace Json

variable {d : Datum Number}

/-- What is written is read again as a whole. -/
theorem Written.read_eq {cs : List Char} (h : Written d cs) : read cs = .ok d.rejoined := by
  obtain ⟨c, rest, hcs, hspace, -⟩ := h.head
  have hmark : cs.head? ≠ some '\ufeff' := by
    intro hm
    rw [hcs] at hm
    have hplain := h.plain c (hcs ▸ List.mem_cons_self)
    rw [Option.some.inj hm] at hplain
    exact absurd hplain (by decide)
  have hskip : Json.skipSpaces cs 0 = (cs, 0) := by
    rw [hcs]
    exact skipSpaces_cons hspace _ _
  have hread : readValue (2 * cs.length + 2) (cs ++ []) 0 = .ok (d.rejoined, [], 0 + cs.length) :=
    h.reads (by omega) fun c hc => nomatch hc
  rw [List.append_nil] at hread
  unfold read
  rw [if_neg hmark, hskip]
  exact Except.bind_eq_ok_iff.2 ⟨_, hread, rfl⟩

/-- **What is written is JSON** exactly if all its doubles have digits. -/
theorem Written.isJson_iff {cs : List Char} (h : Written d cs) : IsJson cs ↔ AllFinite d := by
  have hnone : Spaces [] := fun c hc => absurd hc List.not_mem_nil
  constructor
  · intro hjson
    by_contra hinfinite
    obtain ⟨shown, hshown, hword⟩ := h.reveals
    obtain ⟨shown', hshown', hwordless⟩ := hjson.wordless
    rw [hshown.unique hshown'] at hword
    exact hwordless (hword hinfinite)
  · exact fun hfinite => ⟨[], cs, [], hnone, h.derives hfinite, hnone, (List.append_nil cs).symm⟩

/-- **What can be sent has a text** of printable characters, which is read as what was sent. -/
theorem Sendable.exists_text (h : Sendable d) : ∃ t, Json.text d = .ok t ∧
    (∀ c ∈ t.toList, IsPlain c) ∧ read t.toList = .ok d.rejoined ∧
      (IsJson t.toList ↔ AllFinite d) := by
  obtain ⟨cs, hcs⟩ := h.exists_written
  refine ⟨String.ofList cs, ?_, ?_⟩
  · rw [Json.text, hcs.chars]
    rfl
  · rw [String.toList_ofList]
    exact ⟨hcs.plain, hcs.read_eq, hcs.isJson_iff⟩

end Json

/-! ### Messages can be sent -/

namespace Number

/-- A text as a number in writing, which is a double. -/
def ofText? (s : String) : Option Number := .double <$> Double.ofText? s

/-- The number is a double, as measures are. -/
def IsMeasure (n : Number) : Prop := ∃ x, n = .double x

theorem isMeasure_measure {a n : Number} (h : Scalar.measure a = .ok n) : n.IsMeasure := by
  obtain ⟨x, -, hx⟩ := Except.bind_eq_ok_iff.1 h
  exact ⟨x, (Except.ok.inj hx).symm⟩

end Number

open Number (IsMeasure)

theorem Datum.isMeasure_measure {d : Datum Number} {n : Number}
    (h : d.measure Number.ofText? = .ok n) : n.IsMeasure := by
  cases d with
  | number a => exact Number.isMeasure_measure (Except.mapError_eq_ok_iff.1 h)
  | text s =>
    simp only [measure, Number.ofText?] at h
    cases hx : Double.ofText? s with
    | none =>
      rw [hx] at h
      exact nomatch h
    | some x =>
      rw [hx] at h
      exact ⟨x, (Except.ok.inj h).symm⟩
  | _ => exact nomatch h

theorem Inquiry.isMeasure_measure? {d : Datum Number} {n? : Option Number}
    (h : (Datum.inquiry Number.ofText?).measure? d = .ok n?) : ∀ n ∈ n?, n.IsMeasure := by
  unfold measure? at h
  split at h
  · obtain rfl := Except.ok.inj h
    exact fun n hn => nomatch hn
  · obtain ⟨n', hn', hn⟩ := Except.map_eq_ok_iff.1 h
    obtain rfl := hn
    intro n hn
    obtain rfl := Option.some.inj hn
    exact Datum.isMeasure_measure hn'

/-- What holds of everything that corresponds to something holds of all of it. -/
theorem forall_of_forall₂ {β γ : Type} {R : β → γ → Prop} {P : γ → Prop} {xs : List β}
    {ys : List γ} (h : List.Forall₂ R xs ys) (hP : ∀ x y, R x y → P y) : ∀ y ∈ ys, P y := by
  induction h with
  | nil => exact fun y hy => absurd hy List.not_mem_nil
  | cons h _ ih => exact List.forall_mem_cons.2 ⟨hP _ _ h, ih⟩

/-- **All numbers of a message are measures.** -/
structure Message.OfMeasures (M : Message String Number) : Prop where
  bounds : ∀ c ∈ M.columns, (∀ n ∈ c.min, n.IsMeasure) ∧ (∀ n ∈ c.max, n.IsMeasure) ∧
    ∀ n ∈ c.initial, n.IsMeasure
  objective : ∀ t ∈ M.objective, t.2.IsMeasure
  objectiveOffset : M.objectiveOffset.IsMeasure
  constraints : ∀ row ∈ M.constraints, ∀ t ∈ row, t.2.IsMeasure
  constraintOffsets : ∀ n ∈ M.constraintOffsets, n.IsMeasure
  equalities : ∀ row ∈ M.equalities, ∀ t ∈ row, t.2.IsMeasure
  equalitiesOffsets : ∀ n ∈ M.equalitiesOffsets, n.IsMeasure

/-- A message that renders a problem has measures as its numbers. -/
theorem Message.Renders.ofMeasures {M : Message String Number}
    {m : Model String (Datum Number) Number} {e : Affine String Number}
    (h : M.Renders (Datum.inquiry Number.ofText?) m e) : M.OfMeasures := by
  have hrow : ∀ {f : Affine String Number} {row : Row String Number},
      Model.row m.store.name f = .ok row → ∀ t ∈ row, t.2.IsMeasure := by
    intro f row hrow
    refine forall_of_forall₂ (Except.mapM_eq_ok_iff.1 hrow) fun t r hr => ?_
    simp only [Except.bind_eq_ok_iff, Except.pure_eq_ok_iff, Except.mapError_eq_ok_iff] at hr
    obtain ⟨n, hn, rfl⟩ := hr
    exact Number.isMeasure_measure hn
  have hoffset : ∀ {f : Affine String Number} {n : Number}, Model.offset f = .ok n →
      n.IsMeasure := fun hn => Number.isMeasure_measure (Except.mapError_eq_ok_iff.1 hn)
  refine ⟨?_, hrow h.objective, hoffset h.objectiveOffset,
    forall_of_forall₂ h.constraints fun _ _ hc => hrow hc,
    forall_of_forall₂ h.constraintOffsets fun _ _ hc => hoffset hc,
    forall_of_forall₂ h.equalities fun _ _ hc => hrow hc,
    forall_of_forall₂ h.equalitiesOffsets fun _ _ hc => hoffset hc⟩
  refine forall_of_forall₂ h.columns fun x c hc => ?_
  simp only [Model.column, Except.bind_eq_ok_iff, Except.pure_eq_ok_iff] at hc
  obtain ⟨min, hmin, max, hmax, initial, hinitial, integer, -, rfl⟩ := hc
  exact ⟨Inquiry.isMeasure_measure? hmin, Inquiry.isMeasure_measure? hmax,
    Inquiry.isMeasure_measure? hinitial⟩

namespace Json

theorem Sendable.number {n : Number} (h : n.IsMeasure) : Sendable (.number n) := by
  obtain ⟨x, rfl⟩ := h
  exact .double x

theorem Sendable.option {n? : Option Number} (h : ∀ n ∈ n?, n.IsMeasure) :
    Sendable (optionDatum n?) := by
  cases n? with
  | none => exact .null
  | some n => exact .number (h n rfl)

/-- A record with printable characters in the names of its fields. -/
theorem Sendable.keyed {fields : List (String × Datum Number)} (hnodup : (fields.map Prod.fst).Nodup)
    (hkeys : ∀ key ∈ fields.map Prod.fst, ∀ c ∈ key.toList, IsPlain c)
    (h : ∀ f ∈ fields, Sendable f.2) : Sendable (.record fields) :=
  .record hnodup (fun f hf => Text.rejoined_of_plain (hkeys f.1 (List.mem_map_of_mem hf))) h

theorem Sendable.row {row : Milp.Row String Number} (h : ∀ t ∈ row, t.2.IsMeasure) :
    Sendable (rowDatum .text row) := by
  refine .list (List.forall_mem_map.2 fun t ht => .keyed (by simp) (by simp [IsPlain]) ?_)
  simp only [List.forall_mem_cons]
  exact ⟨.text t.1, .number (h t ht), List.forall_mem_nil _⟩

theorem Sendable.column {c : Column String Number} (hmin : ∀ n ∈ c.min, n.IsMeasure)
    (hmax : ∀ n ∈ c.max, n.IsMeasure) (hinitial : ∀ n ∈ c.initial, n.IsMeasure) :
    Sendable (c.toDatum .text) := by
  refine .keyed (by simp) (by simp [IsPlain]) ?_
  simp only [List.forall_mem_cons]
  exact ⟨.text c.name, .option hmin, .option hmax, .option hinitial, .truth c.integer,
    List.forall_mem_nil _⟩

/-- **A message of measures can be sent.** -/
theorem Sendable.message {M : Message String Number} (h : M.OfMeasures) :
    Sendable (M.toDatum .text) := by
  refine .keyed (by simp) (by simp [IsPlain]) ?_
  simp only [List.forall_mem_cons]
  exact ⟨.text M.direction.text,
    .list (List.forall_mem_map.2 fun c hc =>
      .column (h.bounds c hc).1 (h.bounds c hc).2.1 (h.bounds c hc).2.2),
    .row h.objective, .number h.objectiveOffset,
    .list (List.forall_mem_map.2 fun row hrow => .row (h.constraints row hrow)),
    .list (List.forall_mem_map.2 fun n hn => .number (h.constraintOffsets n hn)),
    .list (List.forall_mem_map.2 fun row hrow => .row (h.equalities row hrow)),
    .list (List.forall_mem_map.2 fun n hn => .number (h.equalitiesOffsets n hn)),
    .truth M.verbose, List.forall_mem_nil _⟩

end Json

/-! ### Sending -/

theorem Host.sent_ask {s : Host} {h : Handle} {d : Datum Number} {t : String}
    (hopen : s.isOpen h) (ht : Json.text d = .ok t) :
    (s.ask h (.ok d)).2.sent = s.sent ++ [t] := by
  have hbind : (Except.ok d).bind Json.text = .ok t := ht
  obtain ⟨e, he, -⟩ | ⟨text, htext, r, replies, h | h⟩ := ask_of_open hopen (.ok d)
  · rw [hbind] at he
    exact nomatch he
  · obtain rfl := Except.ok.inj (hbind.symm.trans htext)
    rw [h]
    rfl
  · obtain rfl := Except.ok.inj (hbind.symm.trans htext)
    rw [h]
    rfl

section Sending

open Text Json

/-- **An open library gets what is sent to it**: as bytes none of which is zero, the UTF-8 of a text
that is read as what was sent with its texts rejoined. -/
theorem Host.exists_sent {s : Host} {h : Handle} {d : Datum Number} (hopen : s.isOpen h)
    (hd : Sendable d) : ∃ t, (s.ask h (.ok d)).2.sent = s.sent ++ [t] ∧
      0 ∉ encodeUtf8 t ∧ decodeUtf8 (encodeUtf8 t) = .ok t.toList ∧
      read t.toList = .ok d.rejoined ∧ (IsJson t.toList ↔ AllFinite d) ∧
      (read t.toList = .ok d ↔ ∀ n, .text n ∈ d.leaves → rejoined n = n) := by
  obtain ⟨t, ht, hplain, hread, hjson⟩ := hd.exists_text
  refine ⟨t, sent_ask hopen ht, zero_notMem_encodeUtf8 hplain, decodeUtf8_encodeUtf8 hplain,
    hread, hjson, ?_⟩
  rw [hread, Except.ok.injEq]
  exact hd.rejoined_eq_iff

namespace Model

/-- **What an open library is sent** when there is a message: bytes none of which is zero, the
UTF-8 of a text that is read as the message with its names rejoined. The text is JSON by the
standard exactly if the doubles of the message are finite, and it is read as the message itself
exactly if no name has halves of one character side by side. -/
theorem message_sent {m : Model String (Datum Number) Number} {direction : Direction}
    {o : Operand String Number} {options : Option (Options (Datum Number))}
    {M : Message String Number} {s : Host} {h : Handle}
    (hM : m.message (Datum.inquiry Number.ofText?) direction o options = .ok M)
    (hopen : s.isOpen h) :
    ∃ t, (Host.solver h M s).2.sent = s.sent ++ [t] ∧
      0 ∉ encodeUtf8 t ∧ decodeUtf8 (encodeUtf8 t) = .ok t.toList ∧
      read t.toList = .ok (M.toDatum .text).rejoined ∧
      (IsJson t.toList ↔ AllFinite (M.toDatum .text)) ∧
      (read t.toList = .ok (M.toDatum .text) ↔
        ∀ n, .text n ∈ (M.toDatum .text).leaves → rejoined n = n) := by
  obtain ⟨e, -, -, -, hrenders, -⟩ := renders_of_message hM
  exact Host.exists_sent hopen (.message hrenders.ofMeasures)

/-- A problem with one variable that has an upper bound. -/
def below (name : String) (bound : Float) : Model String (Datum Number) Number :=
  ⟨⟨#[⟨name, .null, .number (.double bound), .null, .null, .null⟩]⟩, ⟨[(name, ⟨0⟩)], []⟩⟩

/-- Its message when the variable is to become small. -/
def belowMessage (name : String) (bound : Float) : Message String Number where
  direction := .minimize
  columns := [⟨name, none, some (.double bound), none, false⟩]
  objective := [(name, .double 1)]
  objectiveOffset := .double 0
  constraints := []
  constraintOffsets := []
  equalities := []
  equalitiesOffsets := []
  verbose := false

/-- One library that is open. -/
def oneOpen : Host := ⟨["lib"], [⟨"lib", true⟩], [], [], 0, [], []⟩

theorem leaves_belowMessage (name : String) (bound : Float) :
    ((belowMessage name bound).toDatum .text).leaves = [.text "min", .text name, .null,
      .number (.double bound), .null, .number (.truth false), .text name, .number (.double 1),
      .number (.double 0), .number (.truth false)] := rfl

theorem allFinite_belowMessage {name : String} {bound : Float} :
    AllFinite ((belowMessage name bound).toDatum .text) ↔ IsFinite bound := by
  have hone : IsFinite 1 := ⟨false, 4503599627370496, -52, by decide +kernel⟩
  have hzero : IsFinite 0 := ⟨false, 0, -1074, by decide +kernel⟩
  simp [AllFinite, leaves_belowMessage, hone, hzero]

theorem message_sent_below : ∃ t, (Host.solver 0 (belowMessage "a" 1) oneOpen).2.sent = [t] ∧
    IsJson t.toList ∧ read t.toList = .ok ((belowMessage "a" 1).toDatum .text) := by
  have hM : (below "a" 1).message (Datum.inquiry Number.ofText?) .minimize (.var ⟨0⟩) none =
      .ok (belowMessage "a" 1) := rfl
  obtain ⟨t, hsent, -, -, -, hjson, hread⟩ := message_sent (s := oneOpen) (h := 0) hM rfl
  refine ⟨t, hsent, hjson.2 (allFinite_belowMessage.2 ?_), hread.2 ?_⟩
  · exact ⟨false, 4503599627370496, -52, by decide +kernel⟩
  · intro n hn
    simp only [leaves_belowMessage, List.mem_cons, List.not_mem_nil, Datum.text.injEq, reduceCtorEq,
      false_or, or_false] at hn
    obtain rfl | rfl | rfl := hn <;> exact rejoined_of_plain (by simp [IsPlain])

/-- A name of two halves of one character. -/
def halves : String := ofPoints [0xD83D, 0xDE00]

/-- **Where an open library is not sent the message as JSON.** An infinite bound: the text is no
JSON. A name of two halves of one character: the text is read as another message. -/
theorem sent_not_message :
    ((below "a" (1 / 0)).message (Datum.inquiry Number.ofText?) .minimize (.var ⟨0⟩) none =
        .ok (belowMessage "a" (1 / 0)) ∧
      ∃ t, (Host.solver 0 (belowMessage "a" (1 / 0)) oneOpen).2.sent = [t] ∧ ¬ IsJson t.toList) ∧
    (below halves 1).message (Datum.inquiry Number.ofText?) .minimize (.var ⟨0⟩) none =
        .ok (belowMessage halves 1) ∧
      ∃ t, (Host.solver 0 (belowMessage halves 1) oneOpen).2.sent = [t] ∧
        read t.toList ≠ .ok ((belowMessage halves 1).toDatum .text) := by
  have hmeasures : ∀ (name : String) (bound : Float), (belowMessage name bound).OfMeasures := by
    intro name bound
    constructor <;> simp [belowMessage, Number.IsMeasure]
  refine ⟨⟨rfl, ?_⟩, rfl, ?_⟩
  · obtain ⟨t, hsent, -, -, -, hjson, -⟩ :=
      Host.exists_sent (s := oneOpen) (h := 0) rfl (.message (hmeasures "a" (1 / 0)))
    refine ⟨t, hsent, fun h => ?_⟩
    obtain ⟨negative, m, q, hparts⟩ := allFinite_belowMessage.1 (hjson.1 h)
    have hinfinite : Double.parts (1 / 0) = .infinite false := by decide +kernel
    rw [hinfinite] at hparts
    exact nomatch hparts
  · obtain ⟨t, hsent, -, -, -, -, hread⟩ :=
      Host.exists_sent (s := oneOpen) (h := 0) rfl (.message (hmeasures halves 1))
    refine ⟨t, hsent, fun h => ?_⟩
    have hname := hread.1 h halves (by simp [leaves_belowMessage])
    exact absurd hname (by decide +kernel)

end Model

end Sending

end Milp
