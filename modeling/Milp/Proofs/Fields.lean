import Milp.Proofs.MatrixForm

/-!
# The fields of a message

A message in matrix form is read from data, field by field. The reading goes through only if all
names in it are known, and fails for nothing but a value; with sizes that fit, what comes out is the
program of the message: `Program.ofMessage_reads`.
-/

namespace Milp

/-! ### Messages as data -/

/-- The datum is a record with the term's name and factor. -/
structure Datum.IsTerm (d : Datum Rat) (t : String × Rat) : Prop where
  name : d.get "name" = .ok (.text t.1)
  factor : d.get "factor" = .ok (.number t.2)

/-- The datum is a list of terms. -/
def Datum.IsRow (d : Datum Rat) (row : Row String Rat) : Prop :=
  ∃ ds, d = .list ds ∧ List.Forall₂ Datum.IsTerm ds row

/-- The datum is a record with what there is to know of a variable. -/
structure Datum.IsColumn (d : Datum Rat) (c : Column String Rat) : Prop where
  name : d.get "name" = .ok (.text c.name)
  min : d.get "min" = .ok (optionDatum c.min)
  max : d.get "max" = .ok (optionDatum c.max)
  integer : ∃ b, d.get "integer" = .ok b ∧ b.truth = c.integer

/-- **The datum has in its fields what the message says**, as far as a matrix form is concerned. It
may have others. -/
structure Datum.IsMessage (d : Datum Rat) (M : Message String Rat) : Prop where
  direction : d.get "direction" = .ok (.text M.direction.text)
  columns : ∃ ds, d.get "variables" = .ok (.list ds) ∧ List.Forall₂ IsColumn ds M.columns
  objective : ∃ o, d.get "objective" = .ok o ∧ IsRow o M.objective
  constraints : ∃ ds, d.get "constraints" = .ok (.list ds) ∧
    List.Forall₂ IsRow ds M.constraints
  constraintOffsets : d.get "constraint_offsets" = .ok (.list (M.constraintOffsets.map .number))
  equalities : ∃ ds, d.get "equalities" = .ok (.list ds) ∧ List.Forall₂ IsRow ds M.equalities
  equalitiesOffsets : d.get "equalities_offsets" = .ok (.list (M.equalitiesOffsets.map .number))

/-- What has one field may have any other. -/
theorem Datum.find_isOk {d v : Datum Rat} {key : String} (h : d.get key = .ok v) (other : String) :
    ∃ w, d.find other = .ok w := by
  cases d with
  | record fields => exact ⟨_, rfl⟩
  | _ => cases h

/-- What relates the items of a list to what they were made of. -/
theorem forall₂_map_of {β γ : Type} {R : γ → β → Prop} {f : β → γ} (h : ∀ b, R (f b) b)
    (bs : List β) : List.Forall₂ R (bs.map f) bs :=
  List.forall₂_map_left_iff.2 (List.forall₂_same.2 fun b _ => h b)

/-- A message as data has in its fields what it says. -/
theorem Message.isMessage_toDatum (M : Message String Rat) : (M.toDatum .text).IsMessage M := by
  have hrow (row : Row String Rat) : (rowDatum .text row).IsRow row :=
    ⟨_, rfl, forall₂_map_of (fun t => ⟨rfl, rfl⟩) row⟩
  have hcolumn (c : Column String Rat) : (c.toDatum .text).IsColumn c := by
    refine ⟨rfl, rfl, rfl, _, rfl, ?_⟩
    cases c.integer <;> decide +kernel
  exact ⟨rfl, ⟨_, rfl, forall₂_map_of hcolumn _⟩, ⟨_, rfl, hrow _⟩,
    ⟨_, rfl, forall₂_map_of hrow _⟩, rfl, ⟨_, rfl, forall₂_map_of hrow _⟩, rfl⟩

/-! ### Readings -/

namespace Program

/-- **What a reading makes of names and sizes.** It goes through only if the names are known, and
with sizes that fit it has the result that is given; it fails for nothing but a value. -/
structure Reads {β : Type} (names sizes : Prop) (r : Except MatrixError β) (b : β) : Prop where
  known : ∀ c, r = .ok c → names
  value : ∀ e, r = .error e → e.errorClass = .value
  result : names → sizes → r = .ok b

namespace Reads

variable {β γ : Type} {known known' fits fits' : Prop} {r : Except MatrixError β} {b : β}

/-- With sizes that fit in any case there is one result. -/
theorem eq (h : Reads known True r b) {c : β} (hc : r = .ok c) : c = b :=
  Except.ok.inj (hc.symm.trans (h.result (h.known c hc) trivial))

theorem of_ok (h : r = .ok b) : Reads True True r b where
  known _ _ := trivial
  value e he := by simp [h] at he
  result _ _ := h

theorem bind (h : Reads known fits r b) {f : β → Except MatrixError γ} {c : β → γ}
    (hf : ∀ a, r = .ok a → Reads known' fits' (f a) (c a)) :
    Reads (known ∧ known') (fits ∧ fits') (r >>= f) (c b) where
  known d hd := by
    obtain ⟨a, ha, hfa⟩ := Except.bind_eq_ok_iff.1 hd
    exact ⟨h.known a ha, (hf a ha).known d hfa⟩
  value e he := by
    cases hr : r with
    | error e' =>
      rw [hr] at he
      obtain rfl := Except.error.inj he
      exact h.value e' hr
    | ok a =>
      rw [hr] at he
      exact (hf a hr).value e he
  result hk hfits := by
    have hr := h.result hk.1 hfits.1
    rw [hr]
    exact (hf b hr).result hk.2 hfits.2

/-- A reading with one result, and another one that goes on from it. -/
theorem followedBy (h : Reads known True r b) {f : β → Except MatrixError γ} {c : γ}
    (hf : Reads known' fits' (f b) c) : Reads (known ∧ known') fits' (r >>= f) c := by
  have hbind := h.bind (f := f) (c := fun _ => c) fun a ha => h.eq ha ▸ hf
  exact ⟨hbind.known, hbind.value, fun hk hs => hbind.result hk ⟨trivial, hs⟩⟩

theorem map (h : Reads known fits r b) (g : β → γ) :
    Reads known fits (do return g (← r)) (g b) := by
  have hbind := h.bind (c := g) fun a _ => of_ok (rfl : pure (g a) = _)
  exact ⟨fun c hc => (hbind.known c hc).1, hbind.value,
    fun hk hs => hbind.result ⟨hk, trivial⟩ ⟨hs, trivial⟩⟩

/-- Two readings neither of which depends on the other. -/
theorem map₂ {δ : Type} (h : Reads known fits r b) {r' : Except MatrixError γ} {b' : γ}
    (h' : Reads known' fits' r' b') (g : β → γ → δ) :
    Reads (known ∧ known') (fits ∧ fits') (do let a ← r; return g a (← r')) (g b b') :=
  h.bind fun a _ => h'.map (g a)

theorem mono (h : Reads known fits r b) (hk : known ↔ known') (hf : fits' → fits) :
    Reads known' fits' r b where
  known c hc := hk.1 (h.known c hc)
  value := h.value
  result hk' hf' := h.result (hk.2 hk') (hf hf')

section Lists

variable {δ : Type} {p : β → Prop} {ds : List δ} {bs : List β}

theorem mapM {f : δ → Except MatrixError γ} {c : β → γ}
    (h : List.Forall₂ (fun d b => Reads (p b) True (f d) (c b)) ds bs) :
    Reads (∀ b ∈ bs, p b) True (ds.mapM f) (bs.map c) := by
  induction h with
  | nil => exact (of_ok rfl).mono (by simp) id
  | cons h _ ih =>
    rw [List.mapM_cons, List.map_cons]
    exact (h.followedBy (ih.map _)).mono List.forall_mem_cons.symm id

theorem foldlM {f : γ → δ → Except MatrixError γ} {c : γ → β → γ}
    (h : List.Forall₂ (fun d b => ∀ a, Reads (p b) True (f a d) (c a b)) ds bs) (a : γ) :
    Reads (∀ b ∈ bs, p b) True (ds.foldlM f a) (bs.foldl c a) := by
  induction h generalizing a with
  | nil => exact (of_ok rfl).mono (by simp) id
  | cons h _ ih =>
    rw [List.foldlM_cons, List.foldl_cons]
    exact ((h a).followedBy (ih _)).mono List.forall_mem_cons.symm id

end Lists

end Reads

/-! ### Rows -/

section Rows

variable {ofText : String → Option Rat} {names : List String}

theorem get_inquiry (d : Datum Rat) (key : String) :
    get (Datum.inquiry ofText) d key = (d.get key).mapError .datum := rfl

/-- A column is found for the names that are known, and only for these. -/
theorem column_reads (names : List String) (name : String) : Reads (name ∈ names) True
    (column (Datum.inquiry ofText) (names.map Datum.text) (.text name)) (place names name) := by
  have hcolumn : column (Datum.inquiry ofText) (names.map Datum.text) (.text name) =
      (names.reverse.findIdx? (name == ·)).elim (.error (.unknownVariable name))
        fun i => .ok (names.length - 1 - i) := by
    have hname : checkName (Datum.inquiry ofText) (.text name) = .ok (.text name) := rfl
    have hsame : (Datum.inquiry ofText).sameName (.text name) ∘ Datum.text = (name == ·) := rfl
    -- the last mention of a name is the first one from behind
    unfold column
    rw [hname, Except.ok_bind, ← List.map_reverse, List.findIdx?_map, List.length_map, hsame]
    cases names.reverse.findIdx? (name == ·) <;> rfl
  rw [hcolumn]
  cases h : names.reverse.findIdx? (name == ·) with
  | none =>
    have hnot : name ∉ names := fun hmem => by
      have hne := List.findIdx?_eq_none_iff.1 h name (List.mem_reverse.2 hmem)
      rw [beq_self_eq_true] at hne
      exact Bool.false_ne_true hne.symm
    refine ⟨fun c hc => ?_, fun e he => ?_, fun hmem => absurd hmem hnot⟩
    · cases hc
    · obtain rfl := Except.error.inj he
      rfl
  | some i =>
    obtain ⟨hlt, rfl⟩ := List.findIdx?_eq_some_iff_findIdx_eq.1 h
    refine ⟨fun _ _ => ?_, fun e he => ?_, fun _ _ => rfl⟩
    · have hfound := List.findIdx_getElem (w := hlt)
      exact eq_of_beq hfound ▸ List.mem_reverse.1 (List.getElem_mem hlt)
    · cases he

theorem readTerm_reads {d : Datum Rat} {t : String × Rat} (h : d.IsTerm t) :
    Reads (t.1 ∈ names) True (readTerm (Datum.inquiry ofText) (names.map Datum.text) d)
      (place names t.1, .number t.2) := by
  unfold readTerm
  rw [get_inquiry, get_inquiry, h.name, h.factor, Except.mapError_ok, Except.ok_bind]
  exact (column_reads names t.1).map fun j => (j, Datum.number t.2)

theorem readRow_reads {d : Datum Rat} {row : Row String Rat} (h : d.IsRow row) :
    Reads (Message.Mentions names row) True
      (readRow (Datum.inquiry ofText) (names.map Datum.text) d)
      ((Message.entries names row).map fun e => (e.1, .number e.2)) := by
  obtain ⟨ds, rfl, hds⟩ := h
  rw [Message.entries, List.map_map]
  exact Reads.mapM (hds.imp fun d t h => readTerm_reads h)

theorem offsets_ofMeasures (xs : List Rat) :
    (Arrays.ofMeasures (Datum.inquiry ofText)).offsets (.list (xs.map .number)) =
      .ok (some xs) := by
  have hitems : (Datum.inquiry ofText).items (.list (xs.map .number)) = .ok (xs.map .number) := rfl
  simp only [Arrays.ofMeasures, hitems, Except.ok_bind, mapM_measure]
  rfl

theorem spread_reads (count : Nat) (offsets : List Rat) :
    Reads True (offsets.length = count) (spread count offsets) offsets where
  known _ _ := trivial
  value e he := by
    unfold spread at he
    split at he
    · cases he
    · split at he
      · cases he
      · obtain rfl := Except.error.inj he
        rfl
  result _ h := if_pos h

/-- The offsets go to the other side of the bounds. -/
theorem limits_reads (A : List (List Rat)) (offsets : List Rat) (equality : Bool) :
    Reads True (offsets.length = A.length)
      (do
        let limits ← spread A.length (offsets.map Scalar.neg)
        let upper := limits.map some
        return [(⟨A, if equality then upper else List.replicate A.length none, upper⟩ :
          RowBlock Rat)])
      (let upper := offsets.map fun a => some (-a)
      [⟨A, if equality then upper else List.replicate A.length none, upper⟩]) := by
  have h := (spread_reads A.length (offsets.map Scalar.neg)).map fun limits =>
    [(⟨A, if equality then limits.map some else List.replicate A.length none,
      limits.map some⟩ : RowBlock Rat)]
  rw [List.length_map, List.map_map] at h
  exact h

variable (ofText names) in
/-- The rows of one kind are read if their names are known, and made into a block if there are as
many offsets. -/
theorem readBlock_reads {d : Datum Rat} {rowsKey offsetsKey : String} {ds : List (Datum Rat)}
    {rows : List (Row String Rat)} {offsets : List Rat} (hrows : d.get rowsKey = .ok (.list ds))
    (hds : List.Forall₂ Datum.IsRow ds rows)
    (hoffsets : d.get offsetsKey = .ok (.list (offsets.map .number))) (equality : Bool) :
    Reads (∀ row ∈ rows, Message.Mentions names row) (offsets.length = rows.length)
      (readBlock (Datum.inquiry ofText) (.ofMeasures (Datum.inquiry ofText))
        (names.map Datum.text) d rowsKey offsetsKey equality)
      (Message.block names rows offsets equality) := by
  have hterms : Reads (∀ row ∈ rows, Message.Mentions names row) True
      (ds.mapM (readRow (Datum.inquiry ofText) (names.map Datum.text)))
      ((rows.map (Message.entries names)).map (·.map fun e => (e.1, Datum.number e.2))) := by
    rw [List.map_map]
    exact Reads.mapM (hds.imp fun d row h => readRow_reads h)
  have htruth : ((Datum.inquiry ofText).truth (.list ds)).mapError MatrixError.datum =
      .ok (!ds.isEmpty) := rfl
  have hitems : itemsOf (Datum.inquiry ofText) (.list ds) = .ok ds := rfl
  unfold readBlock
  rw [get_inquiry, get_inquiry, hrows, hoffsets]
  simp only [Except.mapError_ok, Except.ok_bind, htruth, hitems, offsets_ofMeasures]
  -- without rows nothing is read on, not even the offsets
  cases hempty : rows.isEmpty with
  | true =>
    obtain rfl := List.isEmpty_iff.1 hempty
    obtain rfl := List.forall₂_nil_right_iff.1 hds
    exact (Reads.of_ok rfl).mono (by simp) fun _ => trivial
  | false =>
    have hne : ds.isEmpty = false := by
      cases hds with
      | nil => simp at hempty
      | cons _ _ => rfl
    simp only [hne, Bool.not_false, if_true, Message.block, hempty, Bool.false_eq_true, if_false]
    have hlimits := limits_reads (matrixOf names.length (rows.map (Message.entries names)))
      offsets equality
    rw [length_matrixOf, List.length_map] at hlimits
    refine (hterms.followedBy ?_).mono (and_true _).to_iff id
    rw [List.length_map, matrix_ofMeasures, Except.ok_bind, length_matrixOf, List.length_map]
    exact hlimits

variable (ofText names) in
/-- The objective is read if its names are known. -/
theorem readObjective_reads {d o : Datum Rat} {row : Row String Rat}
    (ho : d.get "objective" = .ok o) (hrow : o.IsRow row) :
    Reads (Message.Mentions names row) True
      (readObjective (Datum.inquiry ofText) (.ofMeasures (Datum.inquiry ofText))
        (names.map Datum.text) d)
      (dense (· + ·) 0 names.length (Message.entries names row)) := by
  obtain ⟨ds, rfl, hds⟩ := hrow
  have hitems : itemsOf (Datum.inquiry ofText) (.list ds) = .ok ds := rfl
  unfold readObjective
  rw [get_inquiry, ho, Except.mapError_ok, Except.ok_bind, hitems, Except.ok_bind,
    List.length_map, dense, Message.entries, List.foldl_map]
  refine Reads.foldlM (hds.imp fun t b ht sums => ?_) _
  refine ((readTerm_reads ht).followedBy (Reads.of_ok ?_)).mono (and_true _).to_iff id
  rw [List.modify_eq_set_getElem?]
  dsimp only
  cases sums[place names b.1]? with
  | none => rfl
  | some y => rfl

end Rows

/-! ### The whole message -/

section Columns

variable {ofText : String → Option Rat} {ds : List (Datum Rat)} {columns : List (Column String Rat)}

theorem mapM_eq_of_forall₂ {β γ δ : Type} {f : δ → Except MatrixError γ} {c : β → γ}
    {ds : List δ} {bs : List β} (h : List.Forall₂ (fun d b => f d = .ok (c b)) ds bs) :
    ds.mapM f = .ok (bs.map c) :=
  (Reads.mapM (h.imp fun _ _ h => Reads.of_ok h)).result (fun _ _ => trivial) trivial

theorem readNames_eq (h : List.Forall₂ Datum.IsColumn ds columns) :
    readNames (Datum.inquiry ofText) ds = .ok ((columns.map Column.name).map Datum.text) := by
  rw [List.map_map]
  refine mapM_eq_of_forall₂ (h.imp fun d c hd => ?_)
  rw [get_inquiry, hd.name]
  rfl

variable (ofText) in
theorem readBounds_eq {key : String} {bounds : Column String Rat → Option Rat}
    (h : List.Forall₂ (fun d c => d.get key = .ok (optionDatum (bounds c))) ds columns) :
    readBounds (Datum.inquiry ofText) (.ofMeasures (Datum.inquiry ofText)) key ds =
      .ok (columns.map bounds) := by
  have hdata : (ds.mapM fun v => do
      let d ← get (Datum.inquiry ofText) v key
      return if (Datum.inquiry ofText).isNull d then none else some d) =
      .ok (columns.map fun c => (bounds c).map Datum.number) := by
    refine mapM_eq_of_forall₂ (h.imp fun d c hd => ?_)
    rw [get_inquiry, hd]
    cases bounds c <;> rfl
  have hmeasures : (columns.map fun c => (bounds c).map Datum.number).mapM
      (Option.mapM (Datum.inquiry ofText).measure) = .ok (columns.map bounds) := by
    rw [List.mapM_map]
    refine Except.mapM_eq_ok (fun c => ?_) columns
    rw [Function.comp_apply]
    cases bounds c <;> rfl
  unfold readBounds
  rw [hdata, Except.ok_bind, Arrays.ofMeasures]
  dsimp only
  rw [hmeasures]
  rfl

theorem readIntegrality_eq (h : List.Forall₂ Datum.IsColumn ds columns) :
    (ds.mapM fun v => do
      ((Datum.inquiry ofText).truth (← get (Datum.inquiry ofText) v "integer")).mapError
        MatrixError.datum) = .ok (columns.map Column.integer) := by
  refine mapM_eq_of_forall₂ (h.imp fun d c hd => ?_)
  obtain ⟨b, hb, htruth⟩ := hd.integer
  rw [get_inquiry, hb, ← htruth]
  rfl

theorem hasInitial_isOk (h : List.Forall₂ Datum.IsColumn ds columns) :
    ∃ b, hasInitial (Datum.inquiry ofText) ds = .ok b := by
  induction h with
  | nil => exact ⟨false, rfl⟩
  | @cons d c ds columns hd _ ih =>
    obtain ⟨b, hb⟩ := ih
    obtain ⟨w, hw⟩ := Datum.find_isOk hd.name "initial"
    have hfind : (Datum.inquiry ofText).find d "initial" = .ok w := hw
    unfold hasInitial
    rw [hfind, Except.mapError_ok, Except.ok_bind]
    split
    · exact ⟨b, hb⟩
    · exact ⟨true, rfl⟩

end Columns

variable {ofText : String → Option Rat} {d : Datum Rat} {M : Message String Rat}
  {ds : List (Datum Rat)}

/-- What is left to be read of a message where nothing can fail but a name or a size. -/
theorem ofMessage_eq (h : d.IsMessage M) (hds : List.Forall₂ Datum.IsColumn ds M.columns) :
    ofMessage (Datum.inquiry ofText) (.ofMeasures (Datum.inquiry ofText)) d ds = (do
      let c ← readObjective (Datum.inquiry ofText) (.ofMeasures (Datum.inquiry ofText))
        (M.names.map Datum.text) d
      let inequalities ← readBlock (Datum.inquiry ofText) (.ofMeasures (Datum.inquiry ofText))
        (M.names.map Datum.text) d "constraints" "constraint_offsets" false
      let equalities ← readBlock (Datum.inquiry ofText) (.ofMeasures (Datum.inquiry ofText))
        (M.names.map Datum.text) d "equalities" "equalities_offsets" true
      return {
        objective := match M.direction with
          | .minimize => c
          | .maximize => c.map fun a => -a
        integrality := M.columns.map Column.integer
        lower := M.columns.map Column.min
        upper := M.columns.map Column.max
        blocks := inequalities ++ equalities }) := by
  have hinitial : discard (hasInitial (Datum.inquiry ofText) ds) = .ok () :=
    Except.discard_eq_ok_iff.2 (hasInitial_isOk hds)
  have hmin := readBounds_eq ofText (hds.imp fun d c hd => hd.min)
  have hmax := readBounds_eq ofText (hds.imp fun d c hd => hd.max)
  have hdirection : ((Datum.inquiry ofText).isText (.text M.direction.text)
      Direction.maximize.text).mapError MatrixError.datum = .ok (M.direction = .maximize) := by
    cases M.direction <;> rfl
  unfold ofMessage
  rw [readNames_eq hds, Except.ok_bind]
  refine bind_congr fun c => ?_
  rw [readIntegrality_eq hds, get_inquiry, h.direction]
  simp only [Except.mapError_ok, Except.ok_bind, hdirection, hmin, hmax, hinitial]
  cases M.direction <;> rfl

variable (ofText) in
/-- **A message in matrix form.** It is read only if all terms name variables of the message, and
with as many offsets as rows it is the program of the message; what cannot be read fails for a
value. -/
theorem ofMessage_reads (h : d.IsMessage M) (hds : List.Forall₂ Datum.IsColumn ds M.columns) :
    Reads M.Known M.Fits
      (ofMessage (Datum.inquiry ofText) (.ofMeasures (Datum.inquiry ofText)) d ds) M.program := by
  obtain ⟨o, ho, hrow⟩ := h.objective
  obtain ⟨cs, hcs, hconstraints⟩ := h.constraints
  obtain ⟨es, hes, hequalities⟩ := h.equalities
  have hobjective := readObjective_reads ofText M.names ho hrow
  have hinequalities := readBlock_reads ofText M.names hcs hconstraints h.constraintOffsets false
  have hequations := readBlock_reads ofText M.names hes hequalities h.equalitiesOffsets true
  rw [ofMessage_eq h hds]
  refine (hobjective.followedBy (hinequalities.map₂ hequations _)).mono ?_ ?_
  · constructor
    · rintro ⟨hobjective, hconstraints, hequalities⟩
      exact ⟨hobjective, hconstraints, hequalities⟩
    · intro hk
      exact ⟨hk.objective, hk.constraints, hk.equalities⟩
  · exact fun hf => ⟨hf.constraints, hf.equalities⟩

end Program

end Milp
