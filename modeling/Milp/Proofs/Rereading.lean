import Milp.Proofs.Registration
import Milp.Proofs.Writing

/-!
# Data as JSON

What a datum of texts, truth values and doubles is written as, is read as that datum, if its records
have fields with different names: lists and records are written if their items are, so that all that
can be sent is written, by `Json.Sendable.exists_written`.
-/

namespace Milp

namespace Json

open Text

/-! ### Lists -/

/-- What is behind the first item of a list. -/
def itemsTail : List (List Char) → List Char
  | [] => [']']
  | cs :: css => ',' :: ' ' :: (cs ++ itemsTail css)

theorem skipSpaces_cons {c : Char} (h : isSpace c = false) (cs : List Char) (i : Nat) :
    skipSpaces (c :: cs) i = (c :: cs, i) := by
  simp [skipSpaces, h]

theorem skipSpaces_space {c : Char} (h : isSpace c = false) (cs : List Char) (i : Nat) :
    skipSpaces (' ' :: c :: cs) i = (c :: cs, i + 1) := by
  have hspace : isSpace ' ' = true := rfl
  simp [skipSpaces, hspace, h]

/-- One space is skipped in front of a value. -/
theorem Written.skipSpaces_space {d : Datum Number} {cs : List Char} (h : Written d cs)
    (rest : List Char) (i : Nat) : Json.skipSpaces (' ' :: (cs ++ rest)) i = (cs ++ rest, i + 1) := by
  obtain ⟨c, tail, rfl, hc, -⟩ := h.head
  exact Json.skipSpaces_space hc _ i

theorem Written.skipSpaces {d : Datum Number} {cs : List Char} (h : Written d cs)
    (rest : List Char) (i : Nat) : Json.skipSpaces (cs ++ rest) i = (cs ++ rest, i) := by
  obtain ⟨c, tail, rfl, hc, -⟩ := h.head
  exact skipSpaces_cons hc _ i

theorem follows_itemsTail (css : List (List Char)) (rest : List Char) :
    Follows (itemsTail css ++ rest) := by
  intro c hc
  cases css with
  | nil => exact .inr (.inl (Option.some.inj hc).symm)
  | cons cs css => exact .inl (Option.some.inj hc).symm

section Items

variable {ds : List (Datum Number)} {css : List (List Char)} (h : List.Forall₂ Written ds css)

include h

theorem itemChars_eq : itemChars ds = .ok (itemsTail css) := by
  induction h with
  | nil => rfl
  | cons hd _ ih =>
    rw [itemChars, hd.chars, ih]
    rfl

theorem isPlain_itemsTail : ∀ c ∈ itemsTail css, IsPlain c := by
  induction h with
  | nil => exact List.forall_mem_singleton.2 (by decide)
  | cons hd _ ih =>
    exact List.forall_mem_cons.2 ⟨by decide, List.forall_mem_cons.2
      ⟨by decide, List.forall_mem_append.2 ⟨hd.plain, ih⟩⟩⟩

/-- The items are read one after the other. -/
theorem readItems_eq {d : Datum Number} {cs : List Char} (hd : Written d cs) {fuel : Nat}
    (hfuel : (cs ++ itemsTail css).length ≤ fuel) (rest : List Char) (i : Nat) :
    readItems fuel (cs ++ (itemsTail css ++ rest)) i =
      .ok ((d :: ds).map Datum.rejoined, rest, i + (cs ++ itemsTail css).length) := by
  induction h generalizing d cs fuel i with
  | nil =>
    rw [List.length_append] at hfuel
    obtain ⟨fuel, rfl⟩ := Nat.exists_eq_succ_of_ne_zero (Nat.ne_zero_of_lt hfuel)
    unfold readItems
    refine Except.bind_eq_ok_iff.2
      ⟨_, hd.reads (Nat.le_of_succ_le_succ hfuel) (follows_itemsTail [] rest), ?_⟩
    dsimp only
    rw [itemsTail, List.singleton_append, skipSpaces_cons (by decide), List.length_append]
    rfl
  | @cons d' cs' ds css hd' _ ih =>
    simp only [itemsTail, List.length_append, List.length_cons] at hfuel
    obtain ⟨fuel, rfl⟩ := Nat.exists_eq_succ_of_ne_zero (Nat.ne_zero_of_lt hfuel)
    unfold readItems
    refine Except.bind_eq_ok_iff.2
      ⟨_, hd.reads (by omega) (follows_itemsTail (cs' :: css) rest), ?_⟩
    dsimp only
    rw [itemsTail, List.cons_append, List.cons_append, skipSpaces_cons (by decide)]
    refine Except.bind_eq_ok_iff.2 ⟨((d' :: ds).map Datum.rejoined, rest,
      i + cs.length + 2 + (cs' ++ itemsTail css).length), ?_, ?_⟩
    · rw [List.append_assoc, hd'.skipSpaces_space]
      exact ih hd' (by rw [List.length_append]; omega) _
    · simp only [List.length_append, List.length_cons, List.map_cons]
      refine congrArg Except.ok (Prod.ext rfl (Prod.ext rfl ?_))
      dsimp only
      omega

/-- If all doubles have digits, items and bracket are those of a list in the grammar. -/
theorem derives_items {d : Datum Number} {cs : List Char} (hd : Written d cs)
    (hfinite : ∀ e ∈ d :: ds, AllFinite e) :
    ∃ items, cs ++ itemsTail css = items ++ [']'] ∧ Derives .items items := by
  have hnone : Spaces [] := fun c hc => absurd hc List.not_mem_nil
  have hspace : Spaces [' '] := List.forall_mem_singleton.2 rfl
  induction h generalizing d cs with
  | nil =>
    rw [List.forall_mem_singleton] at hfinite
    exact ⟨_, by simp [itemsTail], .lastItem hnone (hd.derives hfinite) hnone⟩
  | cons hd' _ ih =>
    rw [List.forall_mem_cons] at hfinite
    obtain ⟨items, hitems, hderives⟩ := ih hd' hfinite.2
    refine ⟨_, ?_, .item hnone (hd.derives hfinite.1) hnone
      (hderives.space (fun hp => nomatch hp) hspace)⟩
    rw [itemsTail, hitems]
    simp

/-- What shows of the items is what shows of each of them. -/
theorem reveals_items : Reveals (∃ d ∈ ds, ¬ AllFinite d) (itemsTail css) := by
  induction h with
  | nil => exact .of_not (by simp) (shows_self (by decide))
  | cons hd _ ih =>
    have hseparator : Shows [',', ' '] [',', ' '] := shows_self (by decide)
    exact ((hd.reveals.append ih).behind hseparator).mono (List.exists_mem_cons_iff _ _ _).1

end Items

theorem allFinite_list {ds : List (Datum Number)} :
    AllFinite (.list ds) ↔ ∀ d ∈ ds, AllFinite d := by
  simp only [AllFinite, Datum.leaves_list, List.mem_flatMap]
  constructor
  · exact fun h d hd x hx => h x ⟨d, hd, hx⟩
  · rintro h x ⟨d, hd, hx⟩
    exact h d hd x hx

/-- **A list is written** if its items are. -/
theorem written_list {ds : List (Datum Number)} (h : ∀ d ∈ ds, ∃ cs, Written d cs) :
    ∃ cs, Written (.list ds) cs := by
  obtain ⟨css, hcss⟩ := exists_forall₂ h
  cases hcss with
  | nil =>
    have hempty : AllFinite (.list []) := allFinite_list.2 (List.forall_mem_nil _)
    refine ⟨['[', ']'], rfl, by simp [IsPlain], ⟨'[', _, rfl, by decide, by decide⟩, ?_,
      fun _ => .noItems (s := []) (List.forall_mem_nil _),
      .of_not (not_not.2 hempty) (shows_self (by decide))⟩
    intro fuel i rest hfuel _
    obtain ⟨fuel, rfl⟩ := Nat.exists_eq_succ_of_ne_zero (Nat.ne_zero_of_lt hfuel)
    rfl
  | @cons d cs ds css hd hds =>
    refine ⟨'[' :: (cs ++ itemsTail css), ?_, ?_, ⟨'[', _, rfl, by decide, by decide⟩, ?_, ?_, ?_⟩
    · rw [chars, hd.chars, itemChars_eq hds]
      rfl
    · exact List.forall_mem_cons.2
        ⟨by decide, List.forall_mem_append.2 ⟨hd.plain, isPlain_itemsTail hds⟩⟩
    · intro fuel i rest hfuel _
      obtain ⟨fuel, rfl⟩ := Nat.exists_eq_succ_of_ne_zero (Nat.ne_zero_of_lt hfuel)
      have hread := readItems_eq hds hd (Nat.le_of_succ_le_succ hfuel) rest (i + 1)
      obtain ⟨c, tail, hcs, -, hc⟩ := hd.head
      rw [List.cons_append, List.append_assoc, readValue, if_neg (by decide), if_neg (by decide),
        if_pos rfl, hd.skipSpaces]
      rw [hcs, List.cons_append] at hread ⊢
      dsimp only
      split
      next heq => exact absurd (List.cons.inj heq).1 hc
      next =>
        refine Except.bind_eq_ok_iff.2 ⟨_, hread, ?_⟩
        rw [Datum.rejoined_list, List.length_cons, Nat.add_assoc i, Nat.add_comm 1]
        rfl
    · intro h
      obtain ⟨items, hitems, hderives⟩ := derives_items hds hd (allFinite_list.1 h)
      rw [hitems]
      exact .list hderives
    · have hbracket : Shows ['['] ['['] := shows_self (by decide)
      refine ((hd.reveals.append (reveals_items hds)).behind hbracket).mono fun h => ?_
      rw [allFinite_list] at h
      push Not at h
      exact (List.exists_mem_cons_iff _ _ _).1 h

/-! ### Records -/

/-- A field and what is behind it. -/
def fieldThen (g : String × List Char) (rest : List Char) : List Char :=
  textChars g.1 ++ ':' :: ' ' :: (g.2 ++ rest)

theorem fieldThen_append (g : String × List Char) (cs rest : List Char) :
    fieldThen g cs ++ rest = fieldThen g (cs ++ rest) := by
  simp [fieldThen]

theorem length_fieldThen (g : String × List Char) (cs : List Char) :
    (fieldThen g cs).length = (textChars g.1).length + 2 + g.2.length + cs.length := by
  simp only [fieldThen, List.length_append, List.length_cons]
  omega

/-- What is behind the first field of a record. -/
def fieldsTail : List (String × List Char) → List Char
  | [] => ['\x7d']
  | g :: gs => ',' :: ' ' :: fieldThen g (fieldsTail gs)

/-- The field is written, and its name comes back as it is. -/
structure WrittenField (f : String × Datum Number) (g : String × List Char) : Prop where
  name : f.1 = g.1
  rejoined : Text.rejoined g.1 = g.1
  value : Written f.2 g.2

theorem follows_fieldsTail (gs : List (String × List Char)) (rest : List Char) :
    Follows (fieldsTail gs ++ rest) := by
  intro c hc
  cases gs with
  | nil => exact .inr (.inr (Option.some.inj hc).symm)
  | cons g gs => exact .inl (Option.some.inj hc).symm

/-- The record with the field read off. -/
def fieldOf (f : String × Datum Number) : String × Datum Number := (f.1, f.2.rejoined)

section Fields

variable {fs : List (String × Datum Number)} {gs : List (String × List Char)}
  (h : List.Forall₂ WrittenField fs gs)

include h

theorem fieldChars_eq : fieldChars fs = .ok (fieldsTail gs) := by
  induction h with
  | nil => rfl
  | @cons f g fs gs hf _ ih =>
    obtain ⟨key, d⟩ := f
    obtain ⟨key', cs⟩ := g
    obtain rfl : key = key' := hf.name
    rw [fieldChars, hf.value.chars, ih]
    refine congrArg Except.ok ?_
    simp [fieldThen, fieldsTail]

omit h in
theorem WrittenField.isPlain {f : String × Datum Number} {g : String × List Char}
    (hf : WrittenField f g) {rest : List Char} (hrest : ∀ c ∈ rest, IsPlain c) :
    ∀ c ∈ fieldThen g rest, IsPlain c :=
  List.forall_mem_append.2 ⟨(isText_textChars _).2, List.forall_mem_cons.2 ⟨by decide,
    List.forall_mem_cons.2 ⟨by decide, List.forall_mem_append.2 ⟨hf.value.plain, hrest⟩⟩⟩⟩

theorem isPlain_fieldsTail : ∀ c ∈ fieldsTail gs, IsPlain c := by
  induction h with
  | nil => exact List.forall_mem_singleton.2 (by decide)
  | cons hf _ ih =>
    exact List.forall_mem_cons.2 ⟨by decide, List.forall_mem_cons.2 ⟨by decide, hf.isPlain ih⟩⟩

omit h in
/-- The name of a field is read up to the value. -/
theorem WrittenField.readName {f : String × Datum Number} {g : String × List Char}
    (hf : WrittenField f g) (rest : List Char) (i : Nat) :
    readName (fieldThen g rest) i = .ok (f.1, g.2 ++ rest, i + (textChars g.1).length + 2) := by
  obtain ⟨body, hbody, hread⟩ := readText_textChars g.1 (':' :: ' ' :: (g.2 ++ rest)) i
  rw [fieldThen, hbody]
  unfold Json.readName
  dsimp only
  rw [if_neg (not_not.2 rfl)]
  refine Except.bind_eq_ok_iff.2 ⟨_, hread, ?_⟩
  dsimp only
  rw [skipSpaces_cons (by decide), hf.rejoined, hf.name]
  exact congrArg (fun r => Except.ok (g.1, r)) (hf.value.skipSpaces_space rest _)

/-- The fields are read one after the other. -/
theorem readFields_eq {f : String × Datum Number} {g : String × List Char} (hf : WrittenField f g)
    {fuel : Nat} (hfuel : (fieldThen g (fieldsTail gs)).length ≤ fuel) (rest : List Char) (i : Nat) :
    readFields fuel (fieldThen g (fieldsTail gs) ++ rest) i =
      .ok ((f :: fs).map fieldOf, rest, i + (fieldThen g (fieldsTail gs)).length) := by
  rw [fieldThen_append]
  induction h generalizing f g fuel i with
  | nil =>
    rw [length_fieldThen] at hfuel ⊢
    obtain ⟨fuel, rfl⟩ := Nat.exists_eq_succ_of_ne_zero (show fuel ≠ 0 by omega)
    unfold readFields
    refine Except.bind_eq_ok_iff.2 ⟨_, hf.readName _ i, ?_⟩
    refine Except.bind_eq_ok_iff.2
      ⟨_, hf.value.reads (by omega) (follows_fieldsTail [] rest), ?_⟩
    dsimp only
    rw [fieldsTail, List.singleton_append, skipSpaces_cons (by decide), List.length_singleton]
    refine congrArg Except.ok (Prod.ext rfl (Prod.ext rfl ?_))
    dsimp only
    omega
  | @cons f' g' fs gs hf' _ ih =>
    simp only [length_fieldThen, fieldsTail, List.length_cons] at hfuel
    obtain ⟨fuel, rfl⟩ := Nat.exists_eq_succ_of_ne_zero (show fuel ≠ 0 by omega)
    unfold readFields
    refine Except.bind_eq_ok_iff.2 ⟨_, hf.readName _ i, ?_⟩
    refine Except.bind_eq_ok_iff.2
      ⟨_, hf.value.reads (by omega) (follows_fieldsTail (g' :: gs) rest), ?_⟩
    dsimp only
    rw [fieldsTail, List.cons_append, List.cons_append, skipSpaces_cons (by decide), fieldThen_append]
    refine Except.bind_eq_ok_iff.2 ⟨((f' :: fs).map fieldOf, rest,
      i + (textChars g.1).length + 2 + g.2.length + 1 + 1 + (fieldThen g' (fieldsTail gs)).length),
      ?_, ?_⟩
    · -- the name of the next field starts with a quote, so that only one space is skipped
      rw [show Json.skipSpaces (' ' :: fieldThen g' (fieldsTail gs ++ rest)) _ = _ from
        skipSpaces_space rfl _ _]
      refine ih hf' ?_ _
      rw [length_fieldThen]
      omega
    · simp only [length_fieldThen, List.length_cons]
      refine congrArg Except.ok (Prod.ext rfl (Prod.ext rfl ?_))
      dsimp only
      omega

/-- If all doubles have digits, fields and brace are those of a record in the grammar. -/
theorem derives_fields {f : String × Datum Number} {g : String × List Char} (hf : WrittenField f g)
    (hfinite : ∀ e ∈ f :: fs, AllFinite e.2) :
    ∃ fields, fieldThen g (fieldsTail gs) = fields ++ ['\x7d'] ∧ Derives .fields fields := by
  have hnone : Spaces [] := fun c hc => absurd hc List.not_mem_nil
  have hspace : Spaces [' '] := List.forall_mem_singleton.2 rfl
  have htext := fun key => (isText_textChars key).1
  induction h generalizing f g with
  | nil =>
    rw [List.forall_mem_singleton] at hfinite
    exact ⟨_, by simp [fieldThen, fieldsTail],
      .lastField hnone (htext g.1) hnone hspace (hf.value.derives hfinite) hnone⟩
  | cons hf' _ ih =>
    rw [List.forall_mem_cons] at hfinite
    obtain ⟨fields, hfields, hderives⟩ := ih hf' hfinite.2
    refine ⟨_, ?_, .field hnone (htext g.1) hnone hspace (hf.value.derives hfinite.1) hnone
      (hderives.space (fun hp => nomatch hp) hspace)⟩
    rw [fieldsTail, hfields]
    simp [fieldThen]

omit h in
theorem WrittenField.reveals {f : String × Datum Number} {g : String × List Char}
    (hf : WrittenField f g) {rest : List Char} {p : Prop} (hrest : Reveals p rest) :
    Reveals (¬ AllFinite f.2 ∨ p) (fieldThen g rest) := by
  have hcolon : Shows [':', ' '] [':', ' '] := shows_self (by decide)
  exact ((hf.value.reveals.append hrest).behind hcolon).behind (isText_textChars g.1).1.shows

/-- What shows of the fields is what shows of each of them. -/
theorem reveals_fields : Reveals (∃ f ∈ fs, ¬ AllFinite f.2) (fieldsTail gs) := by
  induction h with
  | nil => exact .of_not (by simp) (shows_self (by decide))
  | cons hf _ ih =>
    have hseparator : Shows [',', ' '] [',', ' '] := shows_self (by decide)
    exact ((hf.reveals ih).behind hseparator).mono (List.exists_mem_cons_iff _ _ _).1

end Fields

theorem allFinite_record {fs : List (String × Datum Number)} :
    AllFinite (.record fs) ↔ ∀ f ∈ fs, AllFinite f.2 := by
  simp only [AllFinite, Datum.leaves_record, List.mem_flatMap]
  constructor
  · exact fun h f hf x hx => h x ⟨f, hf, hx⟩
  · rintro h x ⟨f, hf, hx⟩
    exact h f hf x hx

/-- **A record is written** if its fields are. -/
theorem written_record {fs : List (String × Datum Number)} (hnodup : (fs.map Prod.fst).Nodup)
    (hnames : ∀ f ∈ fs, Text.rejoined f.1 = f.1) (h : ∀ f ∈ fs, ∃ cs, Written f.2 cs) :
    ∃ cs, Written (.record fs) cs := by
  have hfields : ∀ f ∈ fs, ∃ g, WrittenField f g := by
    intro f hf
    obtain ⟨cs, hcs⟩ := h f hf
    exact ⟨(f.1, cs), rfl, hnames f hf, hcs⟩
  obtain ⟨gs, hgs⟩ := exists_forall₂ hfields
  have hread : fieldsOfList (fs.map fieldOf) = fs.map fieldOf :=
    fieldsOfList_eq (by rwa [List.map_map])
  cases hgs with
  | nil =>
    have hempty : AllFinite (.record []) := allFinite_record.2 (List.forall_mem_nil _)
    refine ⟨['\x7b', '\x7d'], rfl, by simp [IsPlain], ⟨'\x7b', _, rfl, by decide, by decide⟩, ?_,
      fun _ => .noFields (s := []) (List.forall_mem_nil _),
      .of_not (not_not.2 hempty) (shows_self (by decide))⟩
    intro fuel i rest hfuel _
    obtain ⟨fuel, rfl⟩ := Nat.exists_eq_succ_of_ne_zero (Nat.ne_zero_of_lt hfuel)
    rfl
  | @cons f g fs gs hf hfs =>
    refine ⟨'\x7b' :: fieldThen g (fieldsTail gs), ?_, ?_,
      ⟨'\x7b', _, rfl, by decide, by decide⟩, ?_, ?_, ?_⟩
    · obtain ⟨key, d⟩ := f
      obtain ⟨key', cs⟩ := g
      obtain rfl : key = key' := hf.name
      rw [chars, hf.value.chars, fieldChars_eq hfs]
      refine congrArg Except.ok ?_
      simp [fieldThen]
    · exact List.forall_mem_cons.2 ⟨by decide, hf.isPlain (isPlain_fieldsTail hfs)⟩
    · intro fuel i rest hfuel _
      obtain ⟨fuel, rfl⟩ := Nat.exists_eq_succ_of_ne_zero (Nat.ne_zero_of_lt hfuel)
      have hall := readFields_eq hfs hf (Nat.le_of_succ_le_succ hfuel) rest (i + 1)
      obtain ⟨body, hbody⟩ : ∃ body, fieldThen g (fieldsTail gs) ++ rest = doubleMark :: body :=
        ⟨_, rfl⟩
      rw [List.cons_append, readValue, if_neg (by decide), if_pos rfl]
      rw [hbody] at hall ⊢
      rw [skipSpaces_cons (by decide)]
      dsimp only
      split
      next heq => exact absurd (List.cons.inj heq).1 (by decide)
      next =>
        refine Except.bind_eq_ok_iff.2 ⟨_, hall, ?_⟩
        rw [Datum.rejoined_record, List.length_cons, Nat.add_assoc i, Nat.add_comm 1]
        exact congrArg (fun r => Except.ok (Datum.record r, rest, _)) hread
    · intro h
      obtain ⟨fields, hfields, hderives⟩ := derives_fields hfs hf (allFinite_record.1 h)
      rw [hfields]
      exact .record hderives
    · have hbrace : Shows ['\x7b'] ['\x7b'] := shows_self (by decide)
      refine ((hf.reveals (reveals_fields hfs)).behind hbrace).mono fun h => ?_
      rw [allFinite_record] at h
      push Not at h
      exact (List.exists_mem_cons_iff _ _ _).1 h

/-- **Whatever can be sent is written.** -/
theorem Sendable.exists_written {d : Datum Number} (h : Sendable d) : ∃ cs, Written d cs := by
  induction h with
  | null => exact ⟨_, written_null⟩
  | truth b => exact ⟨_, written_truth b⟩
  | double x => exact ⟨_, written_double x⟩
  | text s => exact ⟨_, written_text s⟩
  | list _ ih => exact written_list ih
  | record hnodup hnames _ ih => exact written_record hnodup hnames ih

end Json

end Milp
